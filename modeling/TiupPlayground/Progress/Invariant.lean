import TiupPlayground.Progress.Frame

/-!
The representation invariant of the engine's pointer graph, and what it gives: `groups` and
`groupByID` hold the same groups, every id map entry is keyed by its object's non-zero id,
and each indexed task sits exactly once in the task list of the group it points back at.
It holds of `newEngineState` and after every event, whatever the ids in the events.
-/
namespace TiupPlayground
namespace EngineState

structure WF (s : EngineState) : Prop where
  groups_nodup : s.groups.Nodup
  groups_lt : ∀ a ∈ s.groups, a < s.nextGroup
  mem_groups : ∀ a, a ∈ s.groups ↔ ∃ k, s.groupByID k = some a
  group_key : ∀ k a, s.groupByID k = some a → k ≠ 0 ∧ (s.groupHeap a).id = k
  task_key : ∀ k r, s.taskByID k = some r → k ≠ 0 ∧ (s.taskHeap r).id = k ∧ r < s.nextTask
  task_group : ∀ k r, s.taskByID k = some r →
    ∃ a ∈ s.groups, (s.taskHeap r).g = some a ∧ r ∈ (s.groupHeap a).tasks
  listed_indexed : ∀ a ∈ s.groups, ∀ r ∈ (s.groupHeap a).tasks, ∃ k, s.taskByID k = some r
  listed_back : ∀ a ∈ s.groups, ∀ r ∈ (s.groupHeap a).tasks, (s.taskHeap r).g = some a
  tasks_nodup : ∀ a ∈ s.groups, (s.groupHeap a).tasks.Nodup

theorem WF.listed_lt {s : EngineState} (hs : s.WF) {a r : Nat} (ha : a ∈ s.groups)
    (hr : r ∈ (s.groupHeap a).tasks) : r < s.nextTask := by
  obtain ⟨k, hk⟩ := hs.listed_indexed a ha r hr
  exact (hs.task_key k r hk).2.2

theorem newEngineState_wf : newEngineState.WF where
  groups_nodup := List.nodup_nil
  groups_lt := by simp [newEngineState]
  mem_groups := by simp [newEngineState]
  group_key := by simp [newEngineState]
  task_key := by simp [newEngineState]
  task_group := by simp [newEngineState]
  listed_indexed := by simp [newEngineState]
  listed_back := by simp [newEngineState]
  tasks_nodup := by simp [newEngineState]

theorem SameShape.wf {s s' : EngineState} (h : SameShape s s') (hs : s.WF) : s'.WF := by
  obtain ⟨hg, hgi, hti, hng, hnt, hid, hts, htid, htg⟩ := h
  constructor <;> simp only [hg, hgi, hti, hng, hnt, hid, hts, htid, htg]
  exacts [hs.groups_nodup, hs.groups_lt, hs.mem_groups, hs.group_key, hs.task_key,
    hs.task_group, hs.listed_indexed, hs.listed_back, hs.tasks_nodup]

theorem WF.addGroup {s : EngineState} (hs : s.WF) {k : UInt64} (hk0 : k ≠ 0)
    (hk : s.groupByID k = none) {g : GroupState} (hid : g.id = k) (htasks : g.tasks = []) :
    WF { s with
      groupHeap := Function.update s.groupHeap s.nextGroup g
      nextGroup := s.nextGroup + 1
      groupByID := Function.update s.groupByID k (some s.nextGroup)
      groups := s.groups ++ [s.nextGroup] } := by
  have fresh : s.nextGroup ∉ s.groups := fun h => lt_irrefl _ (hs.groups_lt _ h)
  have old : ∀ a ∈ s.groups, Function.update s.groupHeap s.nextGroup g a = s.groupHeap a :=
    fun a ha => Function.update_noteq (ne_of_lt (hs.groups_lt a ha)) _ _
  have key : ∀ k' a, s.groupByID k' = some a → k' ≠ k := by
    rintro k' a h rfl; simp [hk] at h
  constructor
  · simpa [List.nodup_append, fresh] using hs.groups_nodup
  · simp only [List.mem_append, List.mem_singleton]
    rintro a (ha | rfl)
    · exact Nat.lt_succ_of_lt (hs.groups_lt a ha)
    · exact Nat.lt_succ_self _
  · intro a
    simp only [List.mem_append, List.mem_singleton, hs.mem_groups, Function.update_apply]
    constructor
    · rintro (⟨k', hk'⟩ | rfl)
      · exact ⟨k', by simp [key k' a hk', hk']⟩
      · exact ⟨k, by simp⟩
    · rintro ⟨k', hk'⟩
      split_ifs at hk' with h
      · exact .inr (Option.some.inj hk').symm
      · exact .inl ⟨k', hk'⟩
  · intro k' a hk'
    simp only [Function.update_apply] at hk' ⊢
    split_ifs at hk' with h
    · cases hk'; simp [h, hk0, hid]
    · have ha := (hs.mem_groups a).mpr ⟨k', hk'⟩
      simp [ne_of_lt (hs.groups_lt a ha), hs.group_key k' a hk']
  · exact hs.task_key
  · intro k' r hk'
    obtain ⟨a, ha, hg, hr⟩ := hs.task_group k' r hk'
    exact ⟨a, List.mem_append_left _ ha, hg, by simpa [old a ha] using hr⟩
  · simp only [List.mem_append, List.mem_singleton]
    rintro a (ha | rfl) r hr
    · exact hs.listed_indexed a ha r (by simpa [old a ha] using hr)
    · simp [htasks] at hr
  · simp only [List.mem_append, List.mem_singleton]
    rintro a (ha | rfl) r hr
    · exact hs.listed_back a ha r (by simpa [old a ha] using hr)
    · simp [htasks] at hr
  · simp only [List.mem_append, List.mem_singleton]
    rintro a (ha | rfl)
    · simpa [old a ha] using hs.tasks_nodup a ha
    · simp [htasks]

theorem applyGroupAdd_wf {s : EngineState} (hs : s.WF) (now : Time) (e : Event) :
    (s.applyGroupAdd now e).WF := by
  unfold applyGroupAdd
  split_ifs with h0 hk
  · exact hs
  · exact hs
  · exact hs.addGroup h0 (by simpa using hk) rfl rfl

theorem WF.addTask {s : EngineState} (hs : s.WF) {b : Nat} (hb : b ∈ s.groups) {k : UInt64}
    (hk0 : k ≠ 0) (hk : s.taskByID k = none) {t : TaskState} (hid : t.id = k)
    (htg : t.g = some b) {g : GroupState} (hgid : g.id = (s.groupHeap b).id)
    (hgt : g.tasks = (s.groupHeap b).tasks ++ [s.nextTask]) :
    WF { s with
      taskHeap := Function.update s.taskHeap s.nextTask t
      nextTask := s.nextTask + 1
      taskByID := Function.update s.taskByID k (some s.nextTask)
      groupHeap := Function.update s.groupHeap b g } := by
  have old : ∀ r, r < s.nextTask → Function.update s.taskHeap s.nextTask t r = s.taskHeap r :=
    fun r hr => Function.update_noteq (ne_of_lt hr) _ _
  have mem : ∀ a r, r ∈ (Function.update s.groupHeap b g a).tasks ↔
      r ∈ (s.groupHeap a).tasks ∨ (a = b ∧ r = s.nextTask) := by
    intro a r
    by_cases h : a = b
    · subst h; simp [hgt]
    · simp [Function.update_noteq h, h]
  have key : ∀ k' r, s.taskByID k' = some r → k' ≠ k := by
    rintro k' r h rfl; simp [hk] at h
  constructor
  · exact hs.groups_nodup
  · exact hs.groups_lt
  · exact hs.mem_groups
  · intro k' a hk'
    by_cases h : a = b
    · subst h; simpa [hgid] using hs.group_key k' a hk'
    · simpa [Function.update_noteq h] using hs.group_key k' a hk'
  · intro k' r hk'
    simp only [Function.update_apply] at hk'
    split_ifs at hk' with h
    · cases hk'; simp [h, hk0, hid]
    · obtain ⟨h0, hr, hlt⟩ := hs.task_key k' r hk'
      exact ⟨h0, by simp [old r hlt, hr], Nat.lt_succ_of_lt hlt⟩
  · intro k' r hk'
    simp only [Function.update_apply] at hk'
    split_ifs at hk' with h
    · cases hk'; exact ⟨b, hb, by simp [htg], (mem b _).mpr (.inr ⟨rfl, rfl⟩)⟩
    · obtain ⟨a, ha, hg, hr⟩ := hs.task_group k' r hk'
      exact ⟨a, ha, by simp [old r (hs.task_key k' r hk').2.2, hg], (mem a r).mpr (.inl hr)⟩
  · intro a ha r hr
    rcases (mem a r).mp hr with hr | ⟨-, rfl⟩
    · obtain ⟨k', hk'⟩ := hs.listed_indexed a ha r hr
      exact ⟨k', by simp [key k' r hk', hk']⟩
    · exact ⟨k, by simp⟩
  · intro a ha r hr
    rcases (mem a r).mp hr with hr | ⟨rfl, rfl⟩
    · simp [old r (hs.listed_lt ha hr), hs.listed_back a ha r hr]
    · simp [htg]
  · intro a ha
    by_cases h : a = b
    · subst h
      have fresh : s.nextTask ∉ (s.groupHeap a).tasks := fun h => lt_irrefl _ (hs.listed_lt ha h)
      simpa [hgt, List.nodup_append, fresh] using hs.tasks_nodup a ha
    · simpa [Function.update_noteq h] using hs.tasks_nodup a ha

theorem applyTaskAdd_wf {s : EngineState} (hs : s.WF) (now : Time) (e : Event) :
    (s.applyTaskAdd now e).WF := by
  unfold applyTaskAdd
  dsimp only
  split
  · exact hs
  · rename_i b hb
    split_ifs with hsealed h0 hk
    · exact hs
    · exact hs
    · exact hs
    all_goals exact hs.addTask ((hs.mem_groups b).mpr ⟨_, hb⟩) h0 (by simpa using hk) rfl rfl rfl rfl

theorem applyEvent_wf {s : EngineState} (hs : s.WF) (clock now : Time) (e : Event) :
    (s.applyEvent clock now e).WF := by
  rcases applyEvent_cases s clock now e with ⟨n, h⟩ | ⟨n, h⟩ | h
  · rw [h]; exact applyGroupAdd_wf hs n e
  · rw [h]; exact applyTaskAdd_wf hs n e
  · exact h.shape.wf hs

theorem runEvents_wf {s : EngineState} (hs : s.WF) (xs : List Applied) : (runEvents s xs).WF := by
  induction xs generalizing s with
  | nil => exact hs
  | cons x xs ih => exact ih (applyEvent_wf hs _ _ _)

theorem applyGroupAdd_old {s : EngineState} (now : Time) (e : Event) {a : Nat}
    (ha : a < s.nextGroup) : (s.applyGroupAdd now e).groupHeap a = s.groupHeap a := by
  unfold applyGroupAdd
  split_ifs
  · rfl
  · rfl
  · exact Function.update_noteq (ne_of_lt ha) _ _

@[simp] theorem applyGroupAdd_taskHeap (s : EngineState) (now : Time) (e : Event) :
    (s.applyGroupAdd now e).taskHeap = s.taskHeap := by
  unfold applyGroupAdd; split_ifs <;> rfl

theorem applyTaskAdd_sealed {s : EngineState} (now : Time) (e : Event) {a : Nat}
    (sealed : (s.groupHeap a).sealed = true) :
    (s.applyTaskAdd now e).groupHeap a = s.groupHeap a := by
  unfold applyTaskAdd
  dsimp only
  split
  · rfl
  · rename_i b _
    split_ifs with hb
    any_goals rfl
    all_goals exact Function.update_noteq (by rintro rfl; simp [sealed] at hb) _ _

theorem applyTaskAdd_old {s : EngineState} (now : Time) (e : Event) {r : Nat}
    (hr : r < s.nextTask) : (s.applyTaskAdd now e).taskHeap r = s.taskHeap r := by
  unfold applyTaskAdd
  dsimp only
  split
  · rfl
  · split_ifs
    any_goals rfl
    all_goals exact Function.update_noteq (ne_of_lt hr) _ _

theorem applyEvent_taskByID {s : EngineState} (clock now : Time) (e : Event) {k : UInt64}
    {r : Nat} (hk : s.taskByID k = some r) : (s.applyEvent clock now e).taskByID k = some r := by
  rcases applyEvent_cases s clock now e with ⟨n, h⟩ | ⟨n, h⟩ | h
  · rw [h]; unfold applyGroupAdd; split_ifs <;> exact hk
  · rw [h]; unfold applyTaskAdd; dsimp only
    split
    · exact hk
    · split_ifs with _ _ hfresh
      any_goals exact hk
      all_goals
        have : k ≠ e.taskID := by rintro rfl; simp [hk] at hfresh
        simpa [Function.update_noteq this] using hk
  · rw [h.shape.taskByID]; exact hk

theorem engine_representation_invariant (xs : List Applied) :
    let s := runEvents newEngineState xs
    s.groups.Nodup ∧
    (∀ a, a ∈ s.groups ↔ ∃ k, s.groupByID k = some a) ∧
    (∀ k a, s.groupByID k = some a → k ≠ 0 ∧ (s.groupHeap a).id = k) ∧
    (∀ k r, s.taskByID k = some r → k ≠ 0 ∧ (s.taskHeap r).id = k) ∧
    (∀ k k' r r', s.taskByID k = some r → s.taskByID k' = some r' →
      (s.taskHeap r).id = (s.taskHeap r').id → r = r') ∧
    (∀ k r, s.taskByID k = some r → ∃ a, (s.taskHeap r).g = some a ∧ a ∈ s.groups ∧
      (s.groupHeap a).tasks.count r = 1 ∧ ∀ b ∈ s.groups, b ≠ a → r ∉ (s.groupHeap b).tasks) ∧
    (∀ a ∈ s.groups, ∀ r ∈ (s.groupHeap a).tasks, ∃ k, s.taskByID k = some r) := by
  intro s
  have hs : s.WF := runEvents_wf newEngineState_wf xs
  refine ⟨hs.groups_nodup, hs.mem_groups, hs.group_key,
    fun k r hk => ⟨(hs.task_key k r hk).1, (hs.task_key k r hk).2.1⟩, ?_, ?_, hs.listed_indexed⟩
  · intro k k' r r' hk hk' hid
    rw [(hs.task_key k r hk).2.1, (hs.task_key k' r' hk').2.1] at hid
    subst hid
    exact Option.some.inj (hk.symm.trans hk')
  · intro k r hk
    obtain ⟨a, ha, hg, hr⟩ := hs.task_group k r hk
    refine ⟨a, hg, ha, List.count_eq_one_of_mem (hs.tasks_nodup a ha) hr, fun b hb hba hrb => ?_⟩
    exact hba (Option.some.inj ((hs.listed_back b hb r hrb).symm.trans hg))

theorem applyEvent_mem_groups {s : EngineState} (clock now : Time) (e : Event) {a : Nat}
    (ha : a ∈ s.groups) : a ∈ (s.applyEvent clock now e).groups := by
  rcases applyEvent_cases s clock now e with ⟨n, h⟩ | ⟨n, h⟩ | h
  · rw [h]; unfold applyGroupAdd
    split_ifs
    any_goals exact ha
    exact List.mem_append_left _ ha
  · rw [h]; unfold applyTaskAdd; dsimp only
    split
    · exact ha
    · simpa only [apply_ite EngineState.groups, ite_self] using ha
  · rw [h.shape.groups]; exact ha

structure FrozenSince (s₀ s : EngineState) (a : Nat) : Prop where
  wf : s.WF
  mem : a ∈ s.groups
  group : s.groupHeap a = s₀.groupHeap a
  tasks : ∀ r ∈ (s₀.groupHeap a).tasks, s.taskHeap r = s₀.taskHeap r

section FrozenSince

variable {s₀ s : EngineState} {a : Nat} (sealed : (s₀.groupHeap a).sealed = true)
include sealed

theorem FrozenSince.applyEvent (h : FrozenSince s₀ s a) (clock now : Time) (e : Event) :
    FrozenSince s₀ (s.applyEvent clock now e) a := by
  have hs : (s.groupHeap a).sealed = true := h.group ▸ sealed
  have hstep : (s.applyEvent clock now e).groupHeap a = s.groupHeap a ∧
      ∀ r ∈ (s.groupHeap a).tasks, (s.applyEvent clock now e).taskHeap r = s.taskHeap r := by
    rcases applyEvent_cases s clock now e with ⟨n, he⟩ | ⟨n, he⟩ | he
    · simp only [he, applyGroupAdd_old n e (h.wf.groups_lt a h.mem), applyGroupAdd_taskHeap,
        implies_true, and_self]
    · rw [he]
      exact ⟨applyTaskAdd_sealed n e hs, fun r hr => applyTaskAdd_old n e (h.wf.listed_lt h.mem hr)⟩
    · obtain ⟨hg, ht⟩ := he.frozen a hs
      exact ⟨hg, fun r hr => ht r (h.wf.listed_back a h.mem r hr)⟩
  refine ⟨applyEvent_wf h.wf _ _ _, applyEvent_mem_groups _ _ _ h.mem, hstep.1.trans h.group,
    fun r hr => ?_⟩
  exact (hstep.2 r (h.group ▸ hr)).trans (h.tasks r hr)

theorem FrozenSince.run (h : FrozenSince s₀ s a) (ys : List Applied) :
    FrozenSince s₀ (runEvents s ys) a := by
  induction ys generalizing s with
  | nil => exact h
  | cons y ys ih => exact ih (h.applyEvent sealed _ _ _)

end FrozenSince

theorem sealed_group_frozen {s : EngineState} (hs : s.WF) (clock now : Time) (e : Event)
    {a : Nat} (ha : a ∈ s.groups) (sealed : (s.groupHeap a).sealed = true) :
    let s' := s.applyEvent clock now e
    s'.groupHeap a = s.groupHeap a ∧ ∀ r ∈ (s.groupHeap a).tasks, s'.taskHeap r = s.taskHeap r :=
  let h := FrozenSince.applyEvent sealed ⟨hs, ha, rfl, fun _ _ => rfl⟩ clock now e
  ⟨h.group, h.tasks⟩

theorem sealed_group_frozen_after_seal :
    let s := runEvents newEngineState
      [⟨Time.zero, ⟨1, 0⟩, { Event.empty EventGroupAdd with groupID := 1 }⟩,
       ⟨Time.zero, ⟨1, 0⟩, { Event.empty EventGroupClose with groupID := 1, finished := some false }⟩]
    let e := { Event.empty EventTaskAdd with groupID := 1, taskID := 7 }
    0 ∈ s.groups ∧ (s.groupHeap 0).sealed = true ∧
      (s.applyEvent Time.zero ⟨2, 0⟩ e).groupHeap 0 = s.groupHeap 0 :=
  ⟨by decide, by decide,
    (sealed_group_frozen (runEvents_wf newEngineState_wf _) _ _ _ (by decide) (by decide)).1⟩

theorem sealed_group_frozen_reachable (xs ys : List Applied) {a : Nat}
    (ha : a ∈ (runEvents newEngineState xs).groups)
    (sealed : ((runEvents newEngineState xs).groupHeap a).sealed = true) :
    let s := runEvents newEngineState xs
    (runEvents s ys).groupHeap a = s.groupHeap a ∧
      ∀ r ∈ (s.groupHeap a).tasks, (runEvents s ys).taskHeap r = s.taskHeap r :=
  let h := FrozenSince.run sealed ⟨runEvents_wf newEngineState_wf xs, ha, rfl, fun _ _ => rfl⟩ ys
  ⟨h.group, h.tasks⟩

theorem sealed_group_frozen_reachable_after_seal :
    let xs : List Applied :=
      [⟨Time.zero, ⟨1, 0⟩, { Event.empty EventGroupAdd with groupID := 1 }⟩,
       ⟨Time.zero, ⟨1, 0⟩, { Event.empty EventGroupClose with groupID := 1, finished := some false }⟩]
    let ys : List Applied :=
      [⟨Time.zero, ⟨2, 0⟩, { Event.empty EventTaskAdd with groupID := 1, taskID := 7 }⟩,
       ⟨Time.zero, ⟨3, 0⟩, { Event.empty EventGroupUpdate with groupID := 1, title := some "G" }⟩,
       ⟨Time.zero, ⟨4, 0⟩, { Event.empty EventGroupClose with groupID := 1 }⟩]
    0 ∈ (runEvents newEngineState xs).groups ∧ ((runEvents newEngineState xs).groupHeap 0).sealed = true ∧
      (runEvents (runEvents newEngineState xs) ys).groupHeap 0 = (runEvents newEngineState xs).groupHeap 0 :=
  ⟨by decide, by decide, (sealed_group_frozen_reachable _ _ (by decide) (by decide)).1⟩

end EngineState
end TiupPlayground
