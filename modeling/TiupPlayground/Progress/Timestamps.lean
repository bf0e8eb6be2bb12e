import TiupPlayground.Progress.Terminal

/-!
The times the engine records: when a group and each of its tasks started, when a task ended and
when a group closed. With non-zero event times, every task past `pending` has a start time and
every finished task an end time; with times that do not go back, a group starts no later than
its tasks and a task ends no earlier than it started, so the durations the renderers print, a
finished task's and `groupState.elapsed`, are never negative. A closed group with no running or
retrying task has a close time, so its `elapsed` no longer depends on the clock.
-/
namespace TiupPlayground

/-- One pass of the loop of `groupState.elapsed` over the group's tasks: the latest non-zero end
    time so far. -/
def lastEndStep (tasks : Nat → TaskState) (lastEnd : Time) (r : Nat) : Time :=
  if !(tasks r).endAt.isZero && (tasks r).endAt.after lastEnd then (tasks r).endAt else lastEnd

/-- `groupState.elapsed(now)`, reading the group's tasks through `tasks`; `clock` is what
    `time.Now()` returns when `now` is zero. -/
def GroupState.elapsed (g : GroupState) (tasks : Nat → TaskState) (clock now : Time) : Duration :=
  if g.startedAt.isZero then 0
  else
    let now := if now.isZero then clock else now
    let hasRunning := g.tasks.any fun r =>
      (tasks r).status == .running || (tasks r).status == .retrying
    let lastEnd := g.tasks.foldl (lastEndStep tasks) Time.zero
    if hasRunning then now.sub g.startedAt
    else
      let endTime :=
        if g.closed && !g.closedAt.isZero && g.closedAt.after lastEnd then g.closedAt else lastEnd
      if !endTime.isZero then endTime.sub g.startedAt else now.sub g.startedAt

theorem Time.sub_nonneg {t u : Time} (h : u.ns ≤ t.ns) : 0 ≤ t.sub u := by
  simp only [Time.sub, clampInt64]
  exact le_max_of_le_right (le_min (by norm_num [maxInt64]) (Int.sub_nonneg_of_le h))

theorem foldl_lastEndStep (tasks : Nat → TaskState) (l : List Nat) (acc : Time) :
    l.foldl (lastEndStep tasks) acc = acc ∨
      ∃ r ∈ l, (tasks r).endAt.isZero = false ∧ l.foldl (lastEndStep tasks) acc = (tasks r).endAt := by
  induction l generalizing acc with
  | nil => exact .inl rfl
  | cons r l ih =>
    rw [List.foldl_cons]
    rcases ih (lastEndStep tasks acc r) with h | ⟨q, hq, hz, h⟩
    · rw [h]
      unfold lastEndStep
      split
      · rename_i hc
        simp only [Bool.and_eq_true, Bool.not_eq_true'] at hc
        exact .inr ⟨r, List.mem_cons_self _ _, hc.1, rfl⟩
      · exact .inl rfl
    · exact .inr ⟨q, List.mem_cons_of_mem _ hq, hz, h⟩

theorem GroupState.elapsed_nonneg {g : GroupState} {tasks : Nat → TaskState} {clock now : Time}
    (hnow : g.startedAt.ns ≤ (if now.isZero then clock else now).ns)
    (hend : ∀ r ∈ g.tasks, (tasks r).endAt.isZero = false → g.startedAt.ns ≤ (tasks r).endAt.ns)
    (hclose : g.closedAt.isZero = false → g.startedAt.ns ≤ g.closedAt.ns) :
    0 ≤ g.elapsed tasks clock now := by
  have hlast : (g.tasks.foldl (lastEndStep tasks) Time.zero).isZero = false →
      g.startedAt.ns ≤ (g.tasks.foldl (lastEndStep tasks) Time.zero).ns := by
    rcases foldl_lastEndStep tasks g.tasks Time.zero with h | ⟨r, hr, hz, h⟩
    · rw [h]; simp
    · rw [h]; exact fun _ => hend r hr hz
  unfold GroupState.elapsed
  split
  · exact le_rfl
  dsimp only
  split
  · exact Time.sub_nonneg hnow
  split
  · rename_i hc
    simp only [Bool.and_eq_true, Bool.not_eq_true'] at hc
    split
    · exact Time.sub_nonneg (hclose hc.1.2)
    · exact Time.sub_nonneg hnow
  · split
    · rename_i hz; exact Time.sub_nonneg (hlast (by simpa using hz))
    · exact Time.sub_nonneg hnow

theorem GroupState.elapsed_frozen {g : GroupState} {tasks : Nat → TaskState} (hc : g.closed = true)
    (hpos : 0 < g.closedAt.ns)
    (hidle : ∀ r ∈ g.tasks, (tasks r).status ≠ .running ∧ (tasks r).status ≠ .retrying)
    (clock now clock' now' : Time) : g.elapsed tasks clock now = g.elapsed tasks clock' now' := by
  have hrun : (g.tasks.any fun r =>
      (tasks r).status == .running || (tasks r).status == .retrying) = false := by
    simpa using hidle
  -- whatever the last end time of the tasks, the end it measures to is not zero
  have hend : ∀ L : Time, (if g.closed && !g.closedAt.isZero && g.closedAt.after L then g.closedAt
      else L).isZero = false := by
    intro L
    split
    · simp only [Time.isZero, beq_eq_false_iff_ne]
      omega
    · rename_i h
      simp [hc, Time.isZero] at h ⊢
      omega
  unfold GroupState.elapsed
  simp only [hrun, hend, Bool.false_eq_true, if_false, Bool.not_false, if_true]

namespace EngineState

structure Stamped (s : EngineState) : Prop where
  started : ∀ r, (s.taskHeap r).status ≠ .pending → (s.taskHeap r).startAt.isZero = false
  ended : ∀ r, (s.taskHeap r).status.isTerminal = true → (s.taskHeap r).endAt.isZero = false

structure Ordered (s : EngineState) (T : Int) : Prop where
  group_start : ∀ a ∈ s.groups,
    (s.groupHeap a).startedAt.isZero = false ∧ (s.groupHeap a).startedAt.ns ≤ T
  closed_after : ∀ a ∈ s.groups, (s.groupHeap a).closedAt.isZero = false →
    (s.groupHeap a).startedAt.ns ≤ (s.groupHeap a).closedAt.ns
  start_le : ∀ r, (s.taskHeap r).startAt.isZero = false → (s.taskHeap r).startAt.ns ≤ T
  start_le_end : ∀ r, (s.taskHeap r).status.isTerminal = true →
    (s.taskHeap r).startAt.ns ≤ (s.taskHeap r).endAt.ns
  listed_start : ∀ a ∈ s.groups, ∀ r ∈ (s.groupHeap a).tasks,
    (s.taskHeap r).startAt.isZero = false → (s.groupHeap a).startedAt.ns ≤ (s.taskHeap r).startAt.ns
  listed_end : ∀ a ∈ s.groups, ∀ r ∈ (s.groupHeap a).tasks,
    (s.taskHeap r).endAt.isZero = false → (s.groupHeap a).startedAt.ns ≤ (s.taskHeap r).endAt.ns

theorem Ordered.mono {s : EngineState} {T U : Int} (h : Ordered s T) (hTU : T ≤ U) : Ordered s U :=
  { h with
    group_start := fun a ha => ⟨(h.group_start a ha).1, (h.group_start a ha).2.trans hTU⟩
    start_le := fun r hr => (h.start_le r hr).trans hTU }

structure SameTimes (s s' : EngineState) : Prop where
  groups : s'.groups = s.groups
  startedAt : ∀ a, (s'.groupHeap a).startedAt = (s.groupHeap a).startedAt
  closedAt : ∀ a, (s'.groupHeap a).closedAt = (s.groupHeap a).closedAt
  tasks : ∀ a, (s'.groupHeap a).tasks = (s.groupHeap a).tasks
  status : ∀ r, (s'.taskHeap r).status = (s.taskHeap r).status
  startAt : ∀ r, (s'.taskHeap r).startAt = (s.taskHeap r).startAt
  endAt : ∀ r, (s'.taskHeap r).endAt = (s.taskHeap r).endAt

theorem SameTimes.refl (s : EngineState) : SameTimes s s :=
  ⟨rfl, fun _ => rfl, fun _ => rfl, fun _ => rfl, fun _ => rfl, fun _ => rfl, fun _ => rfl⟩

theorem SameTimes.stamped {s s' : EngineState} (h : SameTimes s s') (hs : Stamped s) :
    Stamped s' := by
  constructor <;> simp only [h.status, h.startAt, h.endAt]
  exacts [hs.started, hs.ended]

theorem SameTimes.ordered {s s' : EngineState} (h : SameTimes s s') {T : Int} (ho : Ordered s T) :
    Ordered s' T := by
  constructor <;> simp only [h.groups, h.startedAt, h.closedAt, h.tasks, h.status, h.startAt,
    h.endAt]
  exacts [ho.group_start, ho.closed_after, ho.start_le, ho.start_le_end, ho.listed_start,
    ho.listed_end]

theorem setGroup_sameTimes (s : EngineState) {a : Nat} {g : GroupState}
    (h1 : g.startedAt = (s.groupHeap a).startedAt) (h2 : g.closedAt = (s.groupHeap a).closedAt)
    (h3 : g.tasks = (s.groupHeap a).tasks) : SameTimes s (s.setGroup a g) := by
  refine ⟨rfl, ?_, ?_, ?_, fun _ => rfl, fun _ => rfl, fun _ => rfl⟩ <;> intro b <;>
    by_cases hb : b = a <;> simp [setGroup, hb, h1, h2, h3]

theorem setTask_sameTimes (s : EngineState) {r : Nat} {t : TaskState}
    (h1 : t.status = (s.taskHeap r).status) (h2 : t.startAt = (s.taskHeap r).startAt)
    (h3 : t.endAt = (s.taskHeap r).endAt) : SameTimes s (s.setTask r t) := by
  refine ⟨rfl, fun _ => rfl, fun _ => rfl, fun _ => rfl, ?_, ?_, ?_⟩ <;> intro q <;>
    by_cases hq : q = r <;> simp [setTask, hq, h1, h2, h3]

theorem applyGroupUpdate_sameTimes (s : EngineState) (e : Event) :
    SameTimes s (s.applyGroupUpdate e) := by
  unfold applyGroupUpdate
  split
  · exact .refl s
  · dsimp only
    split
    · exact .refl s
    · exact setGroup_sameTimes s rfl rfl rfl

theorem applyTaskUpdate_sameTimes (s : EngineState) (e : Event) :
    SameTimes s (s.applyTaskUpdate e) := by
  unfold applyTaskUpdate
  split
  · exact .refl s
  · exact setTask_sameTimes s rfl rfl rfl

theorem applyTaskProgress_sameTimes (s : EngineState) (now : Time) (e : Event) :
    SameTimes s (s.applyTaskProgress now e) := by
  unfold applyTaskProgress
  split
  · exact .refl s
  · dsimp only
    split_ifs <;> exact setTask_sameTimes s (by simp) (by simp) (by simp)

/-! ### What each handler records -/

theorem Stamped.of_taskHeap {s s' : EngineState} (h : s'.taskHeap = s.taskHeap) (hs : Stamped s) :
    Stamped s' := by
  constructor <;> simp only [h]
  exacts [hs.started, hs.ended]

theorem enterStatus_started (t : TaskState) {now : Time} (hn : now.isZero = false)
    (st : TaskStatus) (ends : Bool) (m : Option String) :
    (enterStatus t now st ends true m).startAt.isZero = false := by
  rw [enterStatus_startAt]
  split <;> rename_i h <;> simp only [Bool.true_and] at h
  · exact hn
  · exact Bool.eq_false_iff.2 h

theorem enterStatus_of_transition {t : TaskState} {status : String} {st : TaskStatus}
    {ends starts : Bool} (htr : statusTransition t.status status = some (st, ends, starts))
    (hs : t.status ≠ .pending → t.startAt.isZero = false) {now : Time} (hn : now.isZero = false)
    (m : Option String) :
    (st ≠ .pending → (enterStatus t now st ends starts m).startAt.isZero = false) ∧
      (st.isTerminal = true → (enterStatus t now st ends starts m).endAt = now) := by
  rcases statusTransition_eq_some htr with ⟨-, h⟩ | ⟨-, -, h⟩ | ⟨-, -, h⟩ | ⟨-, hcur, h⟩ |
    ⟨-, -, h⟩ | ⟨-, -, h⟩ | ⟨-, -, h⟩ <;> cases h
  · exact ⟨fun h => absurd rfl h, fun h => absurd h (by decide)⟩
  · exact ⟨fun _ => enterStatus_started t hn _ _ m, fun h => absurd h (by decide)⟩
  · exact ⟨fun _ => enterStatus_started t hn _ _ m, fun h => absurd h (by decide)⟩
  · have : t.status ≠ .pending := by rcases hcur with h | h <;> rw [h] <;> decide
    exact ⟨fun _ => by simp [hs this], fun _ => by simp⟩
  all_goals exact ⟨fun _ => enterStatus_started t hn _ _ m, fun _ => by simp⟩

theorem stamped_setTask {s : EngineState} (hs : Stamped s) {r : Nat} {t : TaskState}
    (hstart : t.status ≠ .pending → t.startAt.isZero = false)
    (hend : t.status.isTerminal = true → t.endAt.isZero = false) : Stamped (s.setTask r t) := by
  constructor <;> intro q <;> by_cases hq : q = r
  · subst hq; simpa using hstart
  · simpa [setTask, hq] using hs.started q
  · subst hq; simpa using hend
  · simpa [setTask, hq] using hs.ended q

theorem applyTaskAdd_stamped {s : EngineState} (hs : Stamped s) {now : Time}
    (hn : now.isZero = false) (e : Event) : Stamped (s.applyTaskAdd now e) := by
  unfold applyTaskAdd
  split
  · exact hs
  dsimp only
  split_ifs
  · exact hs
  · exact hs
  · exact hs
  all_goals
    refine Stamped.of_taskHeap (s := s.setTask s.nextTask _) rfl (stamped_setTask hs ?_ ?_) <;>
      simp [hn, TaskStatus.isTerminal]

theorem applyTaskState_stamped {s : EngineState} (hs : Stamped s) {now : Time}
    (hn : now.isZero = false) (e : Event) : Stamped (s.applyTaskState now e) := by
  unfold applyTaskState
  split
  · exact hs
  rename_i r a _
  dsimp only
  split
  · exact hs
  split
  · exact hs
  split
  · exact hs
  rename_i st ends starts htr
  obtain ⟨h1, h2⟩ := enterStatus_of_transition htr (hs.started r) hn e.message
  refine stamped_setTask (by split <;> exact Stamped.of_taskHeap (s := s) rfl hs) (fun h => ?_) (fun h => ?_)
  · simpa using h1 (by simpa using h)
  · rw [finalSpeed_endAt, h2 (by simpa using h)]; exact hn

theorem ordered_setTask {s : EngineState} (hw : s.WF) {T : Int} (h : Ordered s T) {r a : Nat}
    (hg : (s.taskHeap r).g = some a) {t : TaskState}
    (hstart : t.startAt.isZero = false →
      t.startAt.ns ≤ T ∧ (s.groupHeap a).startedAt.ns ≤ t.startAt.ns)
    (hend : t.endAt.isZero = false → (s.groupHeap a).startedAt.ns ≤ t.endAt.ns)
    (horder : t.status.isTerminal = true → t.startAt.ns ≤ t.endAt.ns) :
    Ordered (s.setTask r t) T := by
  have same : ∀ b ∈ s.groups, r ∈ (s.groupHeap b).tasks → b = a :=
    fun b hb hr => Option.some.inj ((hw.listed_back b hb r hr).symm.trans hg)
  refine ⟨h.group_start, h.closed_after, fun q => ?_, fun q => ?_, fun b hb q hq => ?_,
    fun b hb q hq => ?_⟩ <;> by_cases hqr : q = r
  · subst hqr; simpa using fun hz => (hstart hz).1
  · simpa [EngineState.setTask, hqr] using h.start_le q
  · subst hqr; simpa using horder
  · simpa [EngineState.setTask, hqr] using h.start_le_end q
  · subst hqr; obtain rfl := same b hb hq; simpa using fun hz => (hstart hz).2
  · simpa [EngineState.setTask, hqr] using h.listed_start b hb q hq
  · subst hqr; obtain rfl := same b hb hq; simpa using hend
  · simpa [EngineState.setTask, hqr] using h.listed_end b hb q hq

theorem applyTaskState_ordered {s : EngineState} (hw : s.WF) (hs : Stamped s) {T : Int}
    (h : Ordered s T) {now : Time} (hn : now.isZero = false) (hT : T ≤ now.ns) (e : Event) :
    Ordered (s.applyTaskState now e) now.ns := by
  have h' := h.mono hT
  unfold applyTaskState
  split
  · exact h'
  rename_i r a ho
  obtain ⟨hk, hg, -⟩ := openTask_spec ho
  obtain ⟨b, hb, hgb, hr⟩ := hw.task_group _ r hk
  obtain rfl : b = a := Option.some.inj (hgb.symm.trans hg)
  dsimp only
  split
  · exact h'
  split
  · exact h'
  split
  · exact h'
  rename_i st ends starts htr
  obtain ⟨h1, h2⟩ := enterStatus_of_transition htr (hs.started r) hn e.message
  have hz : (s.groupHeap b).startedAt.isZero = false := (h.group_start b hb).1
  rw [if_neg (by simp [hz])]
  have hstart := enterStatus_startAt (s.taskHeap r) now st ends starts e.message
  have hend := enterStatus_endAt (s.taskHeap r) now st ends starts e.message
  refine ordered_setTask hw h' hg (fun hz' => ?_) (fun hz' => ?_) (fun hterm => ?_)
  · simp only [finalSpeed_startAt] at hz' ⊢
    rw [hstart] at hz' ⊢
    split
    · exact ⟨le_rfl, (h.group_start b hb).2.trans hT⟩
    · rename_i hc; rw [if_neg hc] at hz'
      exact ⟨h'.start_le r hz', h.listed_start b hb r hr hz'⟩
  · simp only [finalSpeed_endAt] at hz' ⊢
    rw [hend] at hz' ⊢
    split
    · exact (h.group_start b hb).2.trans hT
    · rename_i hc; rw [if_neg hc] at hz'; exact h.listed_end b hb r hr hz'
  · simp only [finalSpeed_status, enterStatus_status, finalSpeed_startAt, finalSpeed_endAt] at hterm ⊢
    rw [h2 hterm]
    have hs' := h1 (by rintro rfl; exact absurd hterm (by decide))
    rw [hstart] at hs' ⊢
    split
    · exact le_rfl
    · rename_i hc; rw [if_neg hc] at hs'; exact h'.start_le r hs'

theorem applyGroupAdd_ordered {s : EngineState} (hw : s.WF) {T : Int} (h : Ordered s T)
    {now : Time} (hn : now.isZero = false) (hT : T ≤ now.ns) (e : Event) :
    Ordered (s.applyGroupAdd now e) now.ns := by
  have h' := h.mono hT
  have old : ∀ g, ∀ a ∈ s.groups, Function.update s.groupHeap s.nextGroup g a = s.groupHeap a :=
    fun g a ha => Function.update_noteq (ne_of_lt (hw.groups_lt a ha)) _ _
  unfold applyGroupAdd
  split_ifs
  · exact h'
  · exact h'
  dsimp only
  refine ⟨?_, ?_, h'.start_le, h'.start_le_end, ?_, ?_⟩ <;>
    simp only [List.mem_append, List.mem_singleton] <;> rintro a (ha | rfl)
  · rw [old _ a ha]; exact h'.group_start a ha
  · simpa using hn
  · rw [old _ a ha]; exact h'.closed_after a ha
  · simp [GroupState.zero]
  · rw [old _ a ha]; exact h'.listed_start a ha
  · simp [GroupState.zero]
  · rw [old _ a ha]; exact h'.listed_end a ha
  · simp [GroupState.zero]

theorem ordered_setGroup {s : EngineState} {T : Int} (h : Ordered s T) {a : Nat} {g : GroupState}
    (hstart : g.startedAt = (s.groupHeap a).startedAt) (htasks : g.tasks = (s.groupHeap a).tasks)
    (hclose : a ∈ s.groups → g.closedAt.isZero = false → g.startedAt.ns ≤ g.closedAt.ns) :
    Ordered (s.setGroup a g) T := by
  have same : ∀ b, ((s.setGroup a g).groupHeap b).startedAt = (s.groupHeap b).startedAt ∧
      ((s.setGroup a g).groupHeap b).tasks = (s.groupHeap b).tasks := by
    intro b; by_cases hb : b = a
    · subst hb; simp [EngineState.setGroup, hstart, htasks]
    · simp [EngineState.setGroup, hb]
  refine ⟨fun b hb => ?_, fun b hb => ?_, h.start_le, h.start_le_end, fun b hb => ?_,
    fun b hb => ?_⟩ <;> simp only [(same b).1, (same b).2]
  · exact h.group_start b hb
  · by_cases hba : b = a
    · subst hba; simpa [EngineState.setGroup, hstart] using hclose hb
    · simpa [EngineState.setGroup, hba] using h.closed_after b hb
  · exact h.listed_start b hb
  · exact h.listed_end b hb

theorem applyGroupClose_ordered {s : EngineState} {T : Int} (h : Ordered s T) {now : Time}
    (hT : T ≤ now.ns) (e : Event) : Ordered (s.applyGroupClose now e) now.ns := by
  have h' := h.mono hT
  unfold applyGroupClose
  split
  · exact h'
  rename_i a _
  dsimp only
  split_ifs
  · exact h'
  · exact ordered_setGroup h' rfl rfl fun ha => h'.closed_after a ha
  · exact h'
  · exact ordered_setGroup h' rfl rfl fun ha _ => (h.group_start a ha).2.trans hT

theorem ordered_addTask {s : EngineState} (hw : s.WF) {T : Int} (h : Ordered s T) {b : Nat}
    {k : UInt64} {t : TaskState} {g : GroupState} (hgs : g.startedAt = (s.groupHeap b).startedAt)
    (hgc : g.closedAt = (s.groupHeap b).closedAt)
    (hgt : g.tasks = (s.groupHeap b).tasks ++ [s.nextTask])
    (hstart : t.startAt.isZero = false →
      t.startAt.ns ≤ T ∧ (s.groupHeap b).startedAt.ns ≤ t.startAt.ns)
    (hend : t.endAt.isZero = true) (hterm : t.status.isTerminal = false) :
    Ordered { s with
      taskHeap := Function.update s.taskHeap s.nextTask t
      nextTask := s.nextTask + 1
      taskByID := Function.update s.taskByID k (some s.nextTask)
      groupHeap := Function.update s.groupHeap b g } T := by
  have group : ∀ a, (Function.update s.groupHeap b g a).startedAt = (s.groupHeap a).startedAt ∧
      (Function.update s.groupHeap b g a).closedAt = (s.groupHeap a).closedAt := by
    intro a; by_cases ha : a = b
    · subst ha; simp [hgs, hgc]
    · simp [ha]
  have mem : ∀ a r, r ∈ (Function.update s.groupHeap b g a).tasks →
      r ∈ (s.groupHeap a).tasks ∨ (a = b ∧ r = s.nextTask) := by
    intro a r hr; by_cases ha : a = b
    · subst ha; simpa [hgt] using hr
    · simp [ha] at hr; exact .inl hr
  have old : ∀ a ∈ s.groups, ∀ r ∈ (s.groupHeap a).tasks, r ≠ s.nextTask :=
    fun a ha r hr => ne_of_lt (hw.listed_lt ha hr)
  refine ⟨fun a ha => ?_, fun a ha => ?_, fun r => ?_, fun r => ?_, fun a ha r hr => ?_,
    fun a ha r hr => ?_⟩ <;> dsimp only
  · rw [(group a).1]; exact h.group_start a ha
  · rw [(group a).1, (group a).2]; exact h.closed_after a ha
  · by_cases hr : r = s.nextTask
    · subst hr; simpa using fun hz => (hstart hz).1
    · simpa [hr] using h.start_le r
  · by_cases hr : r = s.nextTask
    · subst hr; simp [hterm]
    · simpa [hr] using h.start_le_end r
  · rw [(group a).1]
    rcases mem a r hr with hr | ⟨rfl, rfl⟩
    · simpa [old a ha r hr] using h.listed_start a ha r hr
    · simpa using fun hz => (hstart hz).2
  · rw [(group a).1]
    rcases mem a r hr with hr | ⟨rfl, rfl⟩
    · simpa [old a ha r hr] using h.listed_end a ha r hr
    · simp [hend]

theorem applyTaskAdd_ordered {s : EngineState} (hw : s.WF) {T : Int} (h : Ordered s T)
    {now : Time} (hT : T ≤ now.ns) (e : Event) : Ordered (s.applyTaskAdd now e) now.ns := by
  have h' := h.mono hT
  unfold applyTaskAdd
  split
  · exact h'
  rename_i b hb
  have hbm : b ∈ s.groups := (hw.mem_groups b).2 ⟨_, hb⟩
  have hz := (h.group_start b hbm).1
  dsimp only
  split_ifs with _ _ _ hz' hp
  · exact h'
  · exact h'
  · exact h'
  · simp [hz] at hz'
  · simp [hz] at hz'
  · exact ordered_addTask hw h' rfl rfl rfl (by simp) rfl rfl
  · exact ordered_addTask hw h' rfl rfl rfl
      (fun _ => ⟨le_rfl, (h.group_start b hbm).2.trans hT⟩) rfl rfl

/-! ### Runs -/

theorem newEngineState_stamped : Stamped newEngineState :=
  ⟨fun _ h => absurd rfl h, fun _ h => absurd h (by simp [newEngineState, TaskState.zero, TaskStatus.isTerminal])⟩

theorem newEngineState_ordered (T : Int) : Ordered newEngineState T :=
  ⟨by simp [newEngineState], by simp [newEngineState], by simp [newEngineState, TaskState.zero],
    fun _ h => absurd h (by simp [newEngineState, TaskState.zero, TaskStatus.isTerminal]),
    by simp [newEngineState],
    by simp [newEngineState]⟩

theorem Stamped.applyEvent {s : EngineState} (hs : Stamped s) (clock : Time) {now : Time}
    (hn : now.isZero = false) (e : Event) : Stamped (s.applyEvent clock now e) := by
  have ht : (if now.isZero then clock else now) = now := by simp [hn]
  refine applyEvent_rec s clock now e (fun _ => .of_taskHeap (by simp) hs)
    (fun _ => (applyGroupUpdate_sameTimes s e).stamped hs) (fun _ => .of_taskHeap (by simp) hs)
    (fun _ => ?_) (fun _ => (applyTaskUpdate_sameTimes s e).stamped hs)
    (fun _ => (applyTaskProgress_sameTimes s _ e).stamped hs) (fun _ => ?_) hs <;> rw [ht]
  · exact applyTaskAdd_stamped hs hn e
  · exact applyTaskState_stamped hs hn e

theorem Ordered.applyEvent {s : EngineState} (hw : s.WF) (hs : Stamped s) {T : Int}
    (h : Ordered s T) (clock : Time) {now : Time} (hn : now.isZero = false) (hT : T ≤ now.ns)
    (e : Event) : Ordered (s.applyEvent clock now e) now.ns := by
  have ht : (if now.isZero then clock else now) = now := by simp [hn]
  refine applyEvent_rec (P := fun s' => Ordered s' now.ns) s clock now e (fun _ => ?_)
    (fun _ => (applyGroupUpdate_sameTimes s e).ordered (h.mono hT)) (fun _ => ?_) (fun _ => ?_)
    (fun _ => (applyTaskUpdate_sameTimes s e).ordered (h.mono hT))
    (fun _ => (applyTaskProgress_sameTimes s _ e).ordered (h.mono hT)) (fun _ => ?_) (h.mono hT) <;>
    rw [ht]
  · exact applyGroupAdd_ordered hw h hn hT e
  · exact applyGroupClose_ordered h hT e
  · exact applyTaskAdd_ordered hw h hT e
  · exact applyTaskState_ordered hw hs h hn hT e

theorem runEvents_stamped {s : EngineState} (hs : Stamped s) (xs : List Applied)
    (hz : ∀ x ∈ xs, x.now.isZero = false) : Stamped (runEvents s xs) := by
  induction xs generalizing s with
  | nil => exact hs
  | cons x xs ih =>
    exact ih (hs.applyEvent _ (hz x (List.mem_cons_self _ _)) _)
      fun y hy => hz y (List.mem_cons_of_mem _ hy)

theorem runEvents_ordered {s : EngineState} (hw : s.WF) (hs : Stamped s) {T : Int}
    (h : Ordered s T) (xs : List Applied) (hz : ∀ x ∈ xs, x.now.isZero = false)
    (hc : List.Chain (· ≤ ·) T (xs.map fun x => x.now.ns)) :
    Ordered (runEvents s xs) (xs.foldl (fun _ x => x.now.ns) T) := by
  induction xs generalizing s T with
  | nil => exact h
  | cons x xs ih =>
    rw [List.map_cons, List.chain_cons] at hc
    have hx := hz x (List.mem_cons_self _ _)
    exact ih (applyEvent_wf hw _ _ _) (hs.applyEvent _ hx _)
      (h.applyEvent hw hs _ hx hc.1 _) (fun y hy => hz y (List.mem_cons_of_mem _ hy)) hc.2

theorem foldl_last_le {xs : List Applied} {T U : Int} (hT : T ≤ U)
    (hU : ∀ x ∈ xs, x.now.ns ≤ U) : xs.foldl (fun _ x => x.now.ns) T ≤ U := by
  induction xs generalizing T with
  | nil => exact hT
  | cons x xs ih =>
    exact ih (hU x (List.mem_cons_self _ _)) fun y hy => hU y (List.mem_cons_of_mem _ hy)

theorem runEvents_new_ordered (xs : List Applied) (hz : ∀ x ∈ xs, x.now.isZero = false)
    (hc : xs.Chain' (fun x y => x.now.ns ≤ y.now.ns)) :
    (∃ L, Ordered (runEvents newEngineState xs) L) ∧
      ∀ U, (∀ x ∈ xs, x.now.ns ≤ U) → Ordered (runEvents newEngineState xs) U := by
  cases xs with
  | nil => exact ⟨⟨0, newEngineState_ordered 0⟩, fun U _ => newEngineState_ordered U⟩
  | cons x rest =>
    have h := runEvents_ordered newEngineState_wf newEngineState_stamped
      (newEngineState_ordered x.now.ns) (x :: rest) hz
      (List.chain_cons.2 ⟨le_rfl, (List.chain_map _).2 hc⟩)
    exact ⟨⟨_, h⟩, fun U hU => h.mono (foldl_last_le (hU x (List.mem_cons_self _ _)) hU)⟩

theorem task_timestamps (xs : List Applied) (hz : ∀ x ∈ xs, x.now.isZero = false) :
    let s := runEvents newEngineState xs
    (∀ k r, s.taskByID k = some r →
      ((s.taskHeap r).status ≠ .pending → (s.taskHeap r).startAt.isZero = false) ∧
      ((s.taskHeap r).status.isTerminal = true → (s.taskHeap r).endAt.isZero = false)) ∧
    (xs.Chain' (fun x y => x.now.ns ≤ y.now.ns) →
      (∀ k r, s.taskByID k = some r → ∃ a ∈ s.groups, (s.taskHeap r).g = some a ∧
        ((s.taskHeap r).status ≠ .pending →
          (s.groupHeap a).startedAt.ns ≤ (s.taskHeap r).startAt.ns) ∧
        ((s.taskHeap r).status.isTerminal = true →
          (s.taskHeap r).startAt.ns ≤ (s.taskHeap r).endAt.ns ∧
            0 ≤ (s.taskHeap r).endAt.sub (s.taskHeap r).startAt)) ∧
      (∀ a ∈ s.groups, (s.groupHeap a).startedAt.isZero = false ∧
        ∀ clock now, (∀ x ∈ xs, x.now.ns ≤ (if now.isZero then clock else now).ns) →
          0 ≤ (s.groupHeap a).elapsed s.taskHeap clock now)) := by
  intro s
  have hw : s.WF := runEvents_wf newEngineState_wf xs
  have hst : Stamped s := runEvents_stamped newEngineState_stamped xs hz
  refine ⟨fun k r _ => ⟨hst.started r, hst.ended r⟩, fun hc => ?_⟩
  obtain ⟨⟨L, hord⟩, hU⟩ := runEvents_new_ordered xs hz hc
  refine ⟨fun k r hk => ?_, fun a ha => ⟨(hord.group_start a ha).1, fun clock now hnow => ?_⟩⟩
  · obtain ⟨a, ha, hg, hr⟩ := hw.task_group k r hk
    exact ⟨a, ha, hg, fun hp => hord.listed_start a ha r hr (hst.started r hp),
      fun ht => ⟨hord.start_le_end r ht, Time.sub_nonneg (hord.start_le_end r ht)⟩⟩
  · have h' := hU _ hnow
    exact GroupState.elapsed_nonneg (h'.group_start a ha).2 (h'.listed_end a ha)
      (h'.closed_after a ha)

def failedRun : List Applied :=
  [⟨Time.zero, ⟨1, 0⟩, { Event.empty EventGroupAdd with groupID := 1 }⟩,
   ⟨Time.zero, ⟨2, 0⟩, { Event.empty EventTaskAdd with groupID := 1, taskID := 10 }⟩,
   ⟨Time.zero, ⟨3, 0⟩,
     { Event.empty EventTaskState with taskID := 10, status := some TaskStatusError }⟩]

theorem task_timestamps_failedRun :
    (∀ x ∈ failedRun, x.now.isZero = false) ∧
      ((runEvents newEngineState failedRun).taskHeap 0).endAt.isZero = false :=
  ⟨by decide, ((task_timestamps failedRun (by decide)).1 10 0 (by decide)).2 (by decide)⟩

/-! ### Close times -/

def ClosedStamped (s : EngineState) : Prop :=
  ∀ a, (s.groupHeap a).closed = true → 0 < (s.groupHeap a).closedAt.ns

theorem applyTaskUpdate_groupHeap (s : EngineState) (e : Event) :
    (s.applyTaskUpdate e).groupHeap = s.groupHeap := by
  unfold applyTaskUpdate
  split <;> rfl

theorem applyTaskProgress_groupHeap (s : EngineState) (now : Time) (e : Event) :
    (s.applyTaskProgress now e).groupHeap = s.groupHeap := by
  unfold applyTaskProgress
  split
  · rfl
  · dsimp only
    split_ifs <;> rfl

theorem newEngineState_closedStamped : newEngineState.ClosedStamped := fun _ h => by
  simp [newEngineState, GroupState.zero] at h

section ClosedStamped

variable {s : EngineState} (hs : ClosedStamped s) (e : Event)
include hs

theorem ClosedStamped.of_groupHeap {s' : EngineState} (h : s'.groupHeap = s.groupHeap) :
    ClosedStamped s' := fun a => h ▸ hs a

theorem ClosedStamped.setGroup {a : Nat} {g : GroupState}
    (hg : g.closed = true → 0 < g.closedAt.ns) : ClosedStamped (s.setGroup a g) := by
  intro b
  by_cases hb : b = a
  · subst hb; simpa [EngineState.setGroup] using hg
  · simpa [EngineState.setGroup, hb] using hs b

theorem applyGroupAdd_closedStamped (now : Time) : ClosedStamped (s.applyGroupAdd now e) := by
  unfold applyGroupAdd
  split_ifs
  · exact hs
  · exact hs
  · intro b
    by_cases hb : b = s.nextGroup
    · subst hb; simp [GroupState.zero]
    · simpa [hb] using hs b

theorem applyGroupUpdate_closedStamped : ClosedStamped (s.applyGroupUpdate e) := by
  unfold applyGroupUpdate
  split
  · exact hs
  · dsimp only
    split
    · exact hs
    · exact hs.setGroup (hs _)

theorem applyGroupClose_closedStamped {now : Time} (hn : 0 < now.ns) :
    ClosedStamped (s.applyGroupClose now e) := by
  unfold applyGroupClose
  split
  · exact hs
  · dsimp only
    split_ifs
    · exact hs
    · exact hs.setGroup (hs _)
    · exact hs
    · exact hs.setGroup fun _ => hn

theorem applyTaskAdd_closedStamped (now : Time) : ClosedStamped (s.applyTaskAdd now e) := by
  unfold applyTaskAdd
  split
  · exact hs
  · dsimp only
    split_ifs <;> first | exact hs | exact hs.setGroup (hs _)

theorem applyTaskState_closedStamped (now : Time) : ClosedStamped (s.applyTaskState now e) := by
  unfold applyTaskState
  split
  · exact hs
  · split
    · exact hs
    · dsimp only
      split_ifs
      · exact hs
      · split
        · exact hs
        · split_ifs
          · exact hs.setGroup (hs _)
          · exact hs

theorem ClosedStamped.applyEvent (clock now : Time)
    (hn : 0 < (if now.isZero then clock else now).ns) :
    ClosedStamped (s.applyEvent clock now e) :=
  applyEvent_rec s clock now e (fun _ => applyGroupAdd_closedStamped hs e _)
    (fun _ => applyGroupUpdate_closedStamped hs e) (fun _ => applyGroupClose_closedStamped hs e hn)
    (fun _ => applyTaskAdd_closedStamped hs e _)
    (fun _ => hs.of_groupHeap (applyTaskUpdate_groupHeap s e))
    (fun _ => hs.of_groupHeap (applyTaskProgress_groupHeap s _ e))
    (fun _ => applyTaskState_closedStamped hs e _) hs

end ClosedStamped

theorem runEvents_closedStamped {s : EngineState} (hs : s.ClosedStamped) (xs : List Applied)
    (hpos : ∀ x ∈ xs, 0 < (if x.now.isZero then x.clock else x.now).ns) :
    (runEvents s xs).ClosedStamped := by
  induction xs generalizing s with
  | nil => exact hs
  | cons x xs ih =>
    exact ih (hs.applyEvent _ _ _ (hpos x (List.mem_cons_self _ _)))
      fun y hy => hpos y (List.mem_cons_of_mem _ hy)

end EngineState

end TiupPlayground
