import TiupPlayground.Progress.Frame

/-!
An event applied twice. Every handler of the engine either returns early or writes what the
event says, and a second application finds the state the first one left: a group or task that
now exists, a group that is now sealed or closed, a status the switch no longer leaves, start
times that are no longer zero. So applying an event again, at any later time, changes nothing,
with one exception: the download-speed sampling of `task_progress` reads the time, and only
repeats at the same time.
-/
namespace TiupPlayground

theorem getD_getD {α : Type} (o : Option α) (x : α) : o.getD (o.getD x) = o.getD x := by
  cases o <;> rfl

namespace EngineState

/-! ### Groups -/

theorem applyGroupAdd_twice (s : EngineState) (now now' : Time) (e : Event) :
    (s.applyGroupAdd now e).applyGroupAdd now' e = s.applyGroupAdd now e := by
  unfold applyGroupAdd
  by_cases h0 : e.groupID = 0
  · simp [h0]
  · cases h : s.groupByID e.groupID <;> simp [h0, h]

theorem applyGroupUpdate_twice (s : EngineState) (e : Event) :
    (s.applyGroupUpdate e).applyGroupUpdate e = s.applyGroupUpdate e := by
  unfold applyGroupUpdate
  cases h : s.groupByID e.groupID with
  | none => simp [h]
  | some a =>
    by_cases hs : (s.groupHeap a).sealed
    · simp [h, hs]
    · simp [h, hs, setGroup, getD_getD]

theorem applyGroupClose_twice (s : EngineState) (now now' : Time) (e : Event) :
    (s.applyGroupClose now e).applyGroupClose now' e = s.applyGroupClose now e := by
  unfold applyGroupClose
  cases h : s.groupByID e.groupID with
  | none => simp [h]
  | some a =>
    by_cases hs : (s.groupHeap a).sealed
    · simp [h, hs]
    · by_cases hf : e.finished.getD true
      · by_cases hc : (s.groupHeap a).closed
        · simp [h, hs, hf, hc]
        · simp [h, hs, hf, hc, setGroup]
      · simp [h, hs, hf, setGroup]

/-! ### Tasks -/

theorem applyTaskAdd_twice (s : EngineState) (now now' : Time) (e : Event) :
    (s.applyTaskAdd now e).applyTaskAdd now' e = s.applyTaskAdd now e := by
  unfold applyTaskAdd
  cases h : s.groupByID e.groupID with
  | none => simp [h]
  | some a =>
    by_cases hs : (s.groupHeap a).sealed
    · simp [h, hs]
    · by_cases h0 : e.taskID = 0
      · simp [h, hs, h0]
      · cases hk : s.taskByID e.taskID with
        | some r => simp [h, hs, h0, hk]
        | none => simp [h, hs, h0, hk]

theorem applyTaskUpdate_twice (s : EngineState) (e : Event) :
    (s.applyTaskUpdate e).applyTaskUpdate e = s.applyTaskUpdate e := by
  unfold applyTaskUpdate
  cases h : s.openTask e.taskID with
  | none => simp [h]
  | some p =>
    obtain ⟨r, a⟩ := p
    dsimp only
    rw [openTask_setTask _ (by rfl), h]
    cases e.kind <;> cases e.revealAfterMs <;> simp [setTask, getD_getD]


theorem sampleSpeed_cases (t : TaskState) (now : Time) :
    sampleSpeed t now = t ∨
      ((sampleSpeed t now).lastSpeedAt = now ∧
        (sampleSpeed t now).lastSpeedBytes = (sampleSpeed t now).current) := by
  unfold sampleSpeed
  dsimp only
  split_ifs <;> simp

theorem sampleSpeed_of_synced {t : TaskState} {now : Time} (h1 : t.lastSpeedAt = now)
    (h2 : t.lastSpeedBytes = t.current) : sampleSpeed t now = t := by
  subst h1
  cases t
  simp_all [sampleSpeed, Time.after]

theorem sampleSpeed_twice (t : TaskState) (now : Time) :
    sampleSpeed (sampleSpeed t now) now = sampleSpeed t now := by
  rcases sampleSpeed_cases t now with h | ⟨h1, h2⟩
  · rw [h, h]
  · exact sampleSpeed_of_synced h1 h2

theorem recordProgress_recorded {t u : TaskState} (e : Event) (hs : u.status = t.status)
    (htot : u.total = (recordProgress t e).total) (hcur : u.current = (recordProgress t e).current) :
    recordProgress u e = u := by
  by_cases ha : t.status.isActive
  · have ht : (e.total.map (max 0)).getD u.total = u.total := by
      rw [htot]; simp only [recordProgress, if_pos ha, getD_getD]
    have hc : (e.current.map (max 0)).getD u.current = u.current := by
      rw [hcur]; simp only [recordProgress, if_pos ha, getD_getD]
    simp only [recordProgress, if_pos (hs ▸ ha), ht, hc]
  · exact recordProgress_of_inactive u e (hs ▸ Bool.eq_false_iff.2 ha)

theorem applyTaskProgress_twice (s : EngineState) (now : Time) (e : Event) :
    (s.applyTaskProgress now e).applyTaskProgress now e = s.applyTaskProgress now e := by
  unfold applyTaskProgress
  cases h : s.openTask e.taskID with
  | none => simp [h]
  | some p =>
    obtain ⟨r, a⟩ := p
    have recorded := recordProgress_recorded (t := s.taskHeap r)
      (u := recordProgress (s.taskHeap r) e) e (by simp) rfl rfl
    have sampled := recordProgress_recorded (t := s.taskHeap r)
      (u := sampleSpeed (recordProgress (s.taskHeap r) e) now) e (by simp) (by simp) (by simp)
    dsimp only
    simp only [recordProgress_status, recordProgress_kind]
    by_cases h1 : (s.taskHeap r).status ≠ .running
    · rw [if_pos h1, openTask_setTask _ (by simp), h]
      simp only [setTask_taskHeap_self, recordProgress_status, recorded, if_pos h1, setTask_setTask]
    by_cases h2 : (s.taskHeap r).kind ≠ .download
    · rw [if_neg h1, if_pos h2, openTask_setTask _ (by simp), h]
      simp only [setTask_taskHeap_self, recordProgress_status, recordProgress_kind, recorded,
        if_neg h1, if_pos h2, setTask_setTask]
    · rw [if_neg h1, if_neg h2, openTask_setTask _ (by simp), h]
      simp only [setTask_taskHeap_self, sampled, sampleSpeed_status, sampleSpeed_kind,
        recordProgress_status, recordProgress_kind, if_neg h1, if_neg h2, sampleSpeed_twice,
        setTask_setTask]

theorem statusTransition_again {cur st : TaskStatus} {status : String} {ends starts : Bool}
    (h : statusTransition cur status = some (st, ends, starts)) :
    (st = .error ∧ status = TaskStatusError) ∨ statusTransition st status = none ∨
      (st.isTerminal = false ∧ statusTransition st status = some (st, false, starts)) := by
  rcases statusTransition_eq_some h with ⟨rfl, h⟩ | ⟨rfl, -, h⟩ | ⟨rfl, -, h⟩ | ⟨rfl, -, h⟩ |
    ⟨rfl, -, h⟩ | ⟨rfl, -, h⟩ | ⟨rfl, -, h⟩ <;> cases h <;> decide

theorem enterStatus_again (t : TaskState) {now : Time} (hn : now.isZero = false) (now' : Time)
    (st : TaskStatus) (ends starts : Bool) (m : Option String) :
    enterStatus (enterStatus t now st ends starts m) now' st false starts m =
      enterStatus t now st ends starts m := by
  unfold enterStatus
  cases starts <;> by_cases hz : t.startAt.isZero <;> simp [hz, hn, getD_getD]

theorem finalSpeed_of_not_terminal {t : TaskState} (h : t.status.isTerminal = false) (now : Time) :
    finalSpeed t now = t := by
  simp [finalSpeed, h]

theorem applyTaskState_twice (s : EngineState) {now : Time} (hn : now.isZero = false)
    (now' : Time) (e : Event) :
    (s.applyTaskState now e).applyTaskState now' e = s.applyTaskState now e := by
  cases ho : s.openTask e.taskID with
  | none => simp [applyTaskState, ho]
  | some p =>
    obtain ⟨r, a⟩ := p
    cases hst : e.status with
    | none => simp [applyTaskState, ho, hst]
    | some status =>
      by_cases hg : (s.taskHeap r).status = .error ∧ status = TaskStatusError
      · simp [applyTaskState, ho, hst, hg]
      cases htr : statusTransition (s.taskHeap r).status status with
      | none => simp [applyTaskState, ho, hst, hg, htr]
      | some x =>
        obtain ⟨st, ends, starts⟩ := x
        set g := s.groupHeap a
        set s' := if starts && g.startedAt.isZero then s.setGroup a { g with startedAt := now }
          else s with hs'
        set t1 := finalSpeed (enterStatus (s.taskHeap r) now st ends starts e.message) now
          with ht1
        have first : s.applyTaskState now e = s'.setTask r t1 := by
          simp only [applyTaskState, ho, hst, if_neg hg, htr]
        have heap' : s'.taskHeap = s.taskHeap := by rw [hs']; split <;> rfl
        have started : starts = true → (s'.groupHeap a).startedAt.isZero = false := by
          intro h; rw [hs']; by_cases hz : g.startedAt.isZero <;> simp [setGroup, h, hz, hn, g]
        have open' : (s'.setTask r t1).openTask e.taskID = some (r, a) := by
          rw [openTask_setTask _ (by simp [t1, heap']), hs']
          split
          · rw [openTask_setGroup _ (by rfl), ho]
          · exact ho
        rw [first]
        rcases statusTransition_again htr with ⟨rfl, rfl⟩ | hnone | ⟨hnt, hagain⟩
        · simp [applyTaskState, open', hst, setTask_taskHeap_self, t1]
        · simp [applyTaskState, open', hst, setTask_taskHeap_self, t1, hnone]
        · have ht1' : t1 = enterStatus (s.taskHeap r) now st ends starts e.message :=
            finalSpeed_of_not_terminal (by simp [hnt]) now
          have hs1 : t1.status = st := by simp [t1]
          have hcond : (starts && ((s'.setTask r t1).groupHeap a).startedAt.isZero) = false := by
            cases starts
            · rfl
            · simpa [setTask] using started rfl
          have hent : finalSpeed (enterStatus t1 now' st false starts e.message) now' = t1 := by
            rw [ht1', enterStatus_again _ hn]
            exact finalSpeed_of_not_terminal (by simp [hnt]) now'
          simp only [applyTaskState, open', hst, setTask_taskHeap_self, hs1, hagain, hcond, hent,
            Bool.false_eq_true, if_false, setTask_setTask]
          rw [if_neg (by rintro ⟨rfl, -⟩; simp [TaskStatus.isTerminal] at hnt)]

/-! ### Events -/

theorem applyEvent_twice (s : EngineState) (clock clock' t1 t2 : Time) (e : Event)
    (h1 : t1.isZero = false) (h2 : t2.isZero = false)
    (hp : e.type = EventTaskProgress → t1 = t2) :
    (s.applyEvent clock t1 e).applyEvent clock' t2 e = s.applyEvent clock t1 e := by
  unfold applyEvent
  simp only [h1, h2, Bool.false_eq_true, if_false]
  by_cases c1 : e.type = EventGroupAdd
  · simp only [if_pos c1, applyGroupAdd_twice]
  by_cases c2 : e.type = EventGroupUpdate
  · simp only [if_neg c1, if_pos c2, applyGroupUpdate_twice]
  by_cases c3 : e.type = EventGroupClose
  · simp only [if_neg c1, if_neg c2, if_pos c3, applyGroupClose_twice]
  by_cases c4 : e.type = EventTaskAdd
  · simp only [if_neg c1, if_neg c2, if_neg c3, if_pos c4, applyTaskAdd_twice]
  by_cases c5 : e.type = EventTaskUpdate
  · simp only [if_neg c1, if_neg c2, if_neg c3, if_neg c4, if_pos c5, applyTaskUpdate_twice]
  by_cases c6 : e.type = EventTaskProgress
  · simp only [if_neg c1, if_neg c2, if_neg c3, if_neg c4, if_neg c5, if_pos c6, ← hp c6,
      applyTaskProgress_twice]
  simp only [if_neg c1, if_neg c2, if_neg c3, if_neg c4, if_neg c5, if_neg c6]
  by_cases c7 : e.type = EventTaskState
  · simp only [if_pos c7, applyTaskState_twice _ h1]
  · simp only [if_neg c7]

theorem applyEvent_twice_error :
    let s := runEvents newEngineState
      [⟨Time.zero, ⟨1, 0⟩, { Event.empty EventGroupAdd with groupID := 1 }⟩,
       ⟨Time.zero, ⟨1, 0⟩, { Event.empty EventTaskAdd with groupID := 1, taskID := 10 }⟩]
    let e := { Event.empty EventTaskState with
      taskID := 10, status := some TaskStatusError, message := some "boom" }
    (⟨3, 0⟩ : Time).isZero = false ∧ (⟨5, 0⟩ : Time).isZero = false ∧
      (e.type = EventTaskProgress → (⟨3, 0⟩ : Time) = ⟨5, 0⟩) ∧
      (s.applyEvent Time.zero ⟨3, 0⟩ e).applyEvent Time.zero ⟨5, 0⟩ e =
        s.applyEvent Time.zero ⟨3, 0⟩ e :=
  ⟨rfl, rfl, by decide, applyEvent_twice _ _ _ _ _ _ rfl rfl (by decide)⟩

end EngineState

end TiupPlayground
