import TiupPlayground.Progress.State

/-!
What one event can do to the engine's pointer graph. Five of the seven handlers only write
fields of a group that is not sealed, or of a task whose group is not sealed, and keep every
id, task list and back pointer; the two adds allocate. `applyEvent_cases` says this once, and
the invariants of `Invariant` are derived from it.
-/
namespace TiupPlayground
namespace EngineState

structure SameShape (s s' : EngineState) : Prop where
  groups : s'.groups = s.groups
  groupByID : s'.groupByID = s.groupByID
  taskByID : s'.taskByID = s.taskByID
  nextGroup : s'.nextGroup = s.nextGroup
  nextTask : s'.nextTask = s.nextTask
  group_id : ∀ a, (s'.groupHeap a).id = (s.groupHeap a).id
  group_tasks : ∀ a, (s'.groupHeap a).tasks = (s.groupHeap a).tasks
  task_id : ∀ r, (s'.taskHeap r).id = (s.taskHeap r).id
  task_g : ∀ r, (s'.taskHeap r).g = (s.taskHeap r).g

structure Touches (s s' : EngineState) : Prop where
  shape : SameShape s s'
  frozen : ∀ a, (s.groupHeap a).sealed = true →
    s'.groupHeap a = s.groupHeap a ∧ ∀ r, (s.taskHeap r).g = some a → s'.taskHeap r = s.taskHeap r

theorem Touches.refl (s : EngineState) : Touches s s :=
  ⟨⟨rfl, rfl, rfl, rfl, rfl, fun _ => rfl, fun _ => rfl, fun _ => rfl, fun _ => rfl⟩,
    fun _ _ => ⟨rfl, fun _ _ => rfl⟩⟩

theorem Touches.trans {s₁ s₂ s₃ : EngineState} (h₁ : Touches s₁ s₂) (h₂ : Touches s₂ s₃) :
    Touches s₁ s₃ := by
  obtain ⟨⟨g₁, gi₁, ti₁, ng₁, nt₁, id₁, ts₁, tid₁, tg₁⟩, f₁⟩ := h₁
  obtain ⟨⟨g₂, gi₂, ti₂, ng₂, nt₂, id₂, ts₂, tid₂, tg₂⟩, f₂⟩ := h₂
  refine ⟨⟨g₂.trans g₁, gi₂.trans gi₁, ti₂.trans ti₁, ng₂.trans ng₁, nt₂.trans nt₁,
    fun a => (id₂ a).trans (id₁ a), fun a => (ts₂ a).trans (ts₁ a),
    fun r => (tid₂ r).trans (tid₁ r), fun r => (tg₂ r).trans (tg₁ r)⟩, ?_⟩
  intro a sealed
  obtain ⟨ga, ta⟩ := f₁ a sealed
  obtain ⟨ga', ta'⟩ := f₂ a (by rw [ga]; exact sealed)
  refine ⟨ga'.trans ga, fun r hr => ?_⟩
  rw [ta' r (by rw [ta r hr]; exact hr), ta r hr]

theorem setGroup_touches {s : EngineState} {a : Nat} {g : GroupState}
    (open_ : (s.groupHeap a).sealed = false) (hid : g.id = (s.groupHeap a).id)
    (htasks : g.tasks = (s.groupHeap a).tasks) : Touches s (s.setGroup a g) := by
  refine ⟨⟨rfl, rfl, rfl, rfl, rfl, ?_, ?_, fun _ => rfl, fun _ => rfl⟩, ?_⟩
  · intro b; by_cases h : b = a <;> simp [setGroup, Function.update_apply, h, hid]
  · intro b; by_cases h : b = a <;> simp [setGroup, Function.update_apply, h, htasks]
  · intro b sealed
    have : b ≠ a := by rintro rfl; simp [open_] at sealed
    exact ⟨by simp [setGroup, this], fun _ _ => rfl⟩

theorem setTask_touches {s : EngineState} {r a : Nat} {t : TaskState}
    (hg : (s.taskHeap r).g = some a) (open_ : (s.groupHeap a).sealed = false)
    (hid : t.id = (s.taskHeap r).id) (htg : t.g = (s.taskHeap r).g) :
    Touches s (s.setTask r t) := by
  refine ⟨⟨rfl, rfl, rfl, rfl, rfl, fun _ => rfl, fun _ => rfl, ?_, ?_⟩, ?_⟩
  · intro q; by_cases h : q = r <;> simp [setTask, Function.update_apply, h, hid]
  · intro q; by_cases h : q = r <;> simp [setTask, Function.update_apply, h, htg]
  · intro b sealed
    refine ⟨rfl, fun q hq => ?_⟩
    have : q ≠ r := by
      rintro rfl
      have : b = a := Option.some.inj (hq.symm.trans hg)
      subst this; simp [open_] at sealed
    simp [setTask, this]

theorem openTask_spec {s : EngineState} {id : UInt64} {r a : Nat}
    (h : s.openTask id = some (r, a)) :
    s.taskByID id = some r ∧ (s.taskHeap r).g = some a ∧ (s.groupHeap a).sealed = false := by
  unfold openTask at h
  split at h
  · cases h
  · rename_i r' hr
    split at h
    · cases h
    · rename_i a' ha
      split at h
      · cases h
      · rename_i hs
        cases h
        exact ⟨hr, ha, by simpa using hs⟩

theorem openTask_setTask (s : EngineState) {r : Nat} {t : TaskState} (hg : t.g = (s.taskHeap r).g)
    (id : UInt64) : (s.setTask r t).openTask id = s.openTask id := by
  unfold openTask
  cases h : s.taskByID id with
  | none => simp [setTask, h]
  | some q =>
    by_cases hq : q = r
    · subst hq; simp [setTask, h, hg]
    · simp [setTask, h, hq]

theorem openTask_setGroup (s : EngineState) {a : Nat} {g : GroupState}
    (hs : g.sealed = (s.groupHeap a).sealed) (id : UInt64) :
    (s.setGroup a g).openTask id = s.openTask id := by
  unfold openTask
  cases h : s.taskByID id with
  | none => simp [setGroup, h]
  | some q =>
    cases hg : (s.taskHeap q).g with
    | none => simp [setGroup, h, hg]
    | some b =>
      by_cases hb : b = a
      · subst hb; simp [setGroup, h, hg, hs]
      · simp [setGroup, h, hg, hb]

theorem applyGroupUpdate_touches (s : EngineState) (e : Event) :
    Touches s (s.applyGroupUpdate e) := by
  unfold applyGroupUpdate
  dsimp only
  split
  · exact .refl s
  · split
    · exact .refl s
    · rename_i h
      exact setGroup_touches (by simpa using h) rfl rfl

theorem applyGroupClose_touches (s : EngineState) (now : Time) (e : Event) :
    Touches s (s.applyGroupClose now e) := by
  unfold applyGroupClose
  dsimp only
  split
  · exact .refl s
  · split
    · exact .refl s
    · rename_i a _ h
      have open_ : (s.groupHeap a).sealed = false := by simpa using h
      split
      · exact setGroup_touches open_ rfl rfl
      · split
        · exact .refl s
        · exact setGroup_touches open_ rfl rfl

theorem applyTaskUpdate_touches (s : EngineState) (e : Event) :
    Touches s (s.applyTaskUpdate e) := by
  unfold applyTaskUpdate
  split
  · exact .refl s
  · obtain ⟨-, hg, open_⟩ := openTask_spec ‹_›
    exact setTask_touches hg open_ rfl rfl

theorem applyTaskProgress_touches (s : EngineState) (now : Time) (e : Event) :
    Touches s (s.applyTaskProgress now e) := by
  unfold applyTaskProgress
  dsimp only
  split
  · exact .refl s
  · obtain ⟨-, hg, open_⟩ := openTask_spec ‹_›
    split_ifs <;> exact setTask_touches hg open_ (by simp) (by simp)

theorem applyTaskState_touches (s : EngineState) (now : Time) (e : Event) :
    Touches s (s.applyTaskState now e) := by
  unfold applyTaskState
  dsimp only
  split
  · exact .refl s
  · obtain ⟨-, hg, open_⟩ := openTask_spec ‹_›
    split
    · exact .refl s
    · split
      · exact .refl s
      · split
        · exact .refl s
        · rename_i r a _ _ _ _ _ _ st ends starts _
          split
          · exact (setGroup_touches (g := { s.groupHeap a with startedAt := now }) open_ rfl rfl).trans
              (setTask_touches hg (by simpa [setGroup] using open_) (by simp [setGroup])
                (by simp [setGroup]))
          · exact setTask_touches hg open_ (by simp) (by simp)

/-- `applyEvent` runs the handler its event's type selects, at the time it is given or, when that
    is zero, at the clock's reading, or leaves the state: what holds of each handler's result
    holds of `applyEvent`'s. -/
theorem applyEvent_rec {P : EngineState → Prop} (s : EngineState) (clock now : Time) (e : Event)
    (groupAdd : e.type = EventGroupAdd → P (s.applyGroupAdd (if now.isZero then clock else now) e))
    (groupUpdate : e.type = EventGroupUpdate → P (s.applyGroupUpdate e))
    (groupClose : e.type = EventGroupClose →
      P (s.applyGroupClose (if now.isZero then clock else now) e))
    (taskAdd : e.type = EventTaskAdd → P (s.applyTaskAdd (if now.isZero then clock else now) e))
    (taskUpdate : e.type = EventTaskUpdate → P (s.applyTaskUpdate e))
    (taskProgress : e.type = EventTaskProgress →
      P (s.applyTaskProgress (if now.isZero then clock else now) e))
    (taskState : e.type = EventTaskState →
      P (s.applyTaskState (if now.isZero then clock else now) e))
    (other : P s) :
    P (s.applyEvent clock now e) := by
  unfold applyEvent
  dsimp only
  by_cases h1 : e.type = EventGroupAdd
  · rw [if_pos h1]; exact groupAdd h1
  rw [if_neg h1]
  by_cases h2 : e.type = EventGroupUpdate
  · rw [if_pos h2]; exact groupUpdate h2
  rw [if_neg h2]
  by_cases h3 : e.type = EventGroupClose
  · rw [if_pos h3]; exact groupClose h3
  rw [if_neg h3]
  by_cases h4 : e.type = EventTaskAdd
  · rw [if_pos h4]; exact taskAdd h4
  rw [if_neg h4]
  by_cases h5 : e.type = EventTaskUpdate
  · rw [if_pos h5]; exact taskUpdate h5
  rw [if_neg h5]
  by_cases h6 : e.type = EventTaskProgress
  · rw [if_pos h6]; exact taskProgress h6
  rw [if_neg h6]
  by_cases h7 : e.type = EventTaskState
  · rw [if_pos h7]; exact taskState h7
  rw [if_neg h7]
  exact other

theorem applyEvent_cases (s : EngineState) (clock now : Time) (e : Event) :
    (∃ now', s.applyEvent clock now e = s.applyGroupAdd now' e) ∨
    (∃ now', s.applyEvent clock now e = s.applyTaskAdd now' e) ∨
    Touches s (s.applyEvent clock now e) :=
  applyEvent_rec (P := fun s' => (∃ now', s' = s.applyGroupAdd now' e) ∨
      (∃ now', s' = s.applyTaskAdd now' e) ∨ Touches s s') s clock now e
    (fun _ => .inl ⟨_, rfl⟩) (fun _ => .inr (.inr (applyGroupUpdate_touches s e)))
    (fun _ => .inr (.inr (applyGroupClose_touches s _ e))) (fun _ => .inr (.inl ⟨_, rfl⟩))
    (fun _ => .inr (.inr (applyTaskUpdate_touches s e)))
    (fun _ => .inr (.inr (applyTaskProgress_touches s _ e)))
    (fun _ => .inr (.inr (applyTaskState_touches s _ e))) (.inr (.inr (.refl s)))

end EngineState
end TiupPlayground
