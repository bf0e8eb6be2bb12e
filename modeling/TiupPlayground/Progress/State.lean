import TiupPlayground.Progress.Event

/-!
The progress engine of `tuiv2/progress/state.go`. Go's engine state is a graph of pointers:
`groups` and the two id maps point at `groupState` and `taskState` objects, and every task
points back at its group. The model keeps that graph: objects live in two heaps indexed by
`Nat` identities, `nextGroup` and `nextTask` are the next fresh identities, and a Go pointer
is an identity (an `Option` where it may be nil). Handlers read and write through it as the
Go code does through its pointers.
-/
namespace TiupPlayground

/-- The engine's `taskStatus`. -/
inductive TaskStatus
  | pending | running | retrying | done | error | skipped | canceled
  deriving DecidableEq, Repr

/-- The engine's `taskKind`. -/
inductive TaskKind
  | generic | download
  deriving DecidableEq, Repr

def TaskStatus.isTerminal : TaskStatus → Bool
  | .done | .error | .skipped | .canceled => true
  | _ => false

/-- Statuses in which `applyTaskProgress` still records totals and current values. -/
def TaskStatus.isActive : TaskStatus → Bool
  | .pending | .running | .retrying => true
  | _ => false

structure GroupState where
  id : UInt64
  title : String
  startedAt : Time
  closedAt : Time
  closed : Bool
  sealed : Bool
  tasks : List Nat
  showMeta : Bool
  hideDetailsOnSuccess : Bool
  sortTasksByTitle : Bool
  deriving DecidableEq, Repr

structure TaskState where
  id : UInt64
  g : Option Nat
  title : String
  kind : TaskKind
  status : TaskStatus
  hideIfFast : Bool
  revealAfter : Duration
  meta : String
  message : String
  current : Int
  total : Int
  startAt : Time
  endAt : Time
  speedBps : Float
  lastSpeedAt : Time
  lastSpeedBytes : Int
  plainStartPrinted : Bool
  downloadStartPrinted : Bool
  deriving Repr

/-- Go's zero `groupState`. -/
def GroupState.zero : GroupState :=
  ⟨0, "", Time.zero, Time.zero, false, false, [], false, false, false⟩

/-- Go's zero `taskState`. -/
def TaskState.zero : TaskState :=
  ⟨0, none, "", .generic, .pending, false, 0, "", "", 0, 0, Time.zero, Time.zero, 0, Time.zero,
    0, false, false⟩

structure EngineState where
  groupHeap : Nat → GroupState
  taskHeap : Nat → TaskState
  nextGroup : Nat
  nextTask : Nat
  groups : List Nat
  groupByID : UInt64 → Option Nat
  taskByID : UInt64 → Option Nat

def newEngineState : EngineState :=
  ⟨fun _ => GroupState.zero, fun _ => TaskState.zero, 0, 0, [], fun _ => none, fun _ => none⟩

namespace EngineState

/-- A write through a `*groupState`. -/
def setGroup (s : EngineState) (a : Nat) (g : GroupState) : EngineState :=
  { s with groupHeap := Function.update s.groupHeap a g }

/-- A write through a `*taskState`. -/
def setTask (s : EngineState) (r : Nat) (t : TaskState) : EngineState :=
  { s with taskHeap := Function.update s.taskHeap r t }

@[simp] theorem setTask_taskHeap_self (s : EngineState) (r : Nat) (t : TaskState) :
    (s.setTask r t).taskHeap r = t := by
  simp [setTask]

@[simp] theorem setTask_setTask (s : EngineState) (r : Nat) (t t' : TaskState) :
    (s.setTask r t).setTask r t' = s.setTask r t' := by
  simp [setTask]

/-- The guard the task handlers share: the task with this id and its group, when the task
    exists, has a group, and that group is not sealed. -/
def openTask (s : EngineState) (id : UInt64) : Option (Nat × Nat) :=
  match s.taskByID id with
  | none => none
  | some r =>
    match (s.taskHeap r).g with
    | none => none
    | some a => if (s.groupHeap a).sealed then none else some (r, a)

def applyGroupAdd (s : EngineState) (now : Time) (e : Event) : EngineState :=
  if e.groupID = 0 then s
  else if (s.groupByID e.groupID).isSome then s
  else
    let g : GroupState :=
      { GroupState.zero with
        id := e.groupID, title := e.title.getD "", showMeta := true, startedAt := now }
    { s with
      groupHeap := Function.update s.groupHeap s.nextGroup g
      nextGroup := s.nextGroup + 1
      groupByID := Function.update s.groupByID e.groupID (some s.nextGroup)
      groups := s.groups ++ [s.nextGroup] }

def applyGroupUpdate (s : EngineState) (e : Event) : EngineState :=
  match s.groupByID e.groupID with
  | none => s
  | some a =>
    let g := s.groupHeap a
    if g.sealed then s
    else s.setGroup a
      { g with
        title := e.title.getD g.title
        showMeta := e.showMeta.getD g.showMeta
        hideDetailsOnSuccess := e.hideDetailsOnSuccess.getD g.hideDetailsOnSuccess
        sortTasksByTitle := e.sortTasksByTitle.getD g.sortTasksByTitle }

def applyGroupClose (s : EngineState) (now : Time) (e : Event) : EngineState :=
  match s.groupByID e.groupID with
  | none => s
  | some a =>
    let g := s.groupHeap a
    if g.sealed then s
    else if !(e.finished.getD true) then s.setGroup a { g with sealed := true }
    else if g.closed then s
    else s.setGroup a { g with closed := true, closedAt := now }

def applyTaskAdd (s : EngineState) (now : Time) (e : Event) : EngineState :=
  match s.groupByID e.groupID with
  | none => s
  | some a =>
    let g := s.groupHeap a
    if g.sealed then s
    else if e.taskID = 0 then s
    else if (s.taskByID e.taskID).isSome then s
    else
      let t : TaskState :=
        { TaskState.zero with
          id := e.taskID, g := some a, title := e.title.getD "", kind := .generic
          status := if e.pending then .pending else .running
          startAt := if e.pending then Time.zero else now }
      { s with
        taskHeap := Function.update s.taskHeap s.nextTask t
        nextTask := s.nextTask + 1
        taskByID := Function.update s.taskByID e.taskID (some s.nextTask)
        groupHeap := Function.update s.groupHeap a
          { g with
            tasks := g.tasks ++ [s.nextTask]
            startedAt := if g.startedAt.isZero then now else g.startedAt } }

def applyTaskUpdate (s : EngineState) (e : Event) : EngineState :=
  match s.openTask e.taskID with
  | none => s
  | some (r, _) =>
    let t := s.taskHeap r
    s.setTask r
      { t with
        kind := match e.kind with
          | some k => if k = TaskKindDownload then .download else .generic
          | none => t.kind
        meta := e.meta.getD t.meta
        message := e.message.getD t.message
        hideIfFast := e.hideIfFast.getD t.hideIfFast
        revealAfter := match e.revealAfterMs with
          | some ms => max 0 (wrapInt64 (ms * Millisecond))
          | none => t.revealAfter }

/-- The download-speed sampling of `applyTaskProgress` (window one second, smoothing 0.2). -/
def sampleSpeed (t : TaskState) (now : Time) : TaskState :=
  if t.lastSpeedAt.isZero || !now.after t.lastSpeedAt then
    { t with lastSpeedAt := now, lastSpeedBytes := t.current }
  else
    let dt := now.sub t.lastSpeedAt
    let delta := wrapInt64 (t.current - t.lastSpeedBytes)
    if delta < 0 then { t with lastSpeedAt := now, lastSpeedBytes := t.current }
    else if Second ≤ dt ∧ 0 < delta then
      let inst := Float.ofInt delta / dt.seconds
      { t with
        speedBps := if t.speedBps == 0 then inst else 0.2 * inst + 0.8 * t.speedBps
        lastSpeedAt := now
        lastSpeedBytes := t.current }
    else t

@[simp] theorem sampleSpeed_id (t : TaskState) (now : Time) : (sampleSpeed t now).id = t.id := by
  simp only [sampleSpeed, apply_ite TaskState.id, ite_self]
@[simp] theorem sampleSpeed_g (t : TaskState) (now : Time) : (sampleSpeed t now).g = t.g := by
  simp only [sampleSpeed, apply_ite TaskState.g, ite_self]
@[simp] theorem sampleSpeed_status (t : TaskState) (now : Time) :
    (sampleSpeed t now).status = t.status := by
  simp only [sampleSpeed, apply_ite TaskState.status, ite_self]
@[simp] theorem sampleSpeed_kind (t : TaskState) (now : Time) :
    (sampleSpeed t now).kind = t.kind := by
  simp only [sampleSpeed, apply_ite TaskState.kind, ite_self]
@[simp] theorem sampleSpeed_current (t : TaskState) (now : Time) :
    (sampleSpeed t now).current = t.current := by
  simp only [sampleSpeed, apply_ite TaskState.current, ite_self]
@[simp] theorem sampleSpeed_total (t : TaskState) (now : Time) :
    (sampleSpeed t now).total = t.total := by
  simp only [sampleSpeed, apply_ite TaskState.total, ite_self]
@[simp] theorem sampleSpeed_startAt (t : TaskState) (now : Time) :
    (sampleSpeed t now).startAt = t.startAt := by
  simp only [sampleSpeed, apply_ite TaskState.startAt, ite_self]
@[simp] theorem sampleSpeed_endAt (t : TaskState) (now : Time) :
    (sampleSpeed t now).endAt = t.endAt := by
  simp only [sampleSpeed, apply_ite TaskState.endAt, ite_self]

/-- The totals and current values `applyTaskProgress` records, clamped at zero, while the
    task is pending, running or retrying. -/
def recordProgress (t : TaskState) (e : Event) : TaskState :=
  if t.status.isActive then
    { t with
      total := (e.total.map (max 0)).getD t.total
      current := (e.current.map (max 0)).getD t.current }
  else t

theorem recordProgress_of_inactive (t : TaskState) (e : Event) (h : t.status.isActive = false) :
    recordProgress t e = t := by
  simp [recordProgress, h]
@[simp] theorem recordProgress_id (t : TaskState) (e : Event) : (recordProgress t e).id = t.id := by
  simp only [recordProgress, apply_ite TaskState.id, ite_self]
@[simp] theorem recordProgress_g (t : TaskState) (e : Event) : (recordProgress t e).g = t.g := by
  simp only [recordProgress, apply_ite TaskState.g, ite_self]
@[simp] theorem recordProgress_status (t : TaskState) (e : Event) :
    (recordProgress t e).status = t.status := by
  simp only [recordProgress, apply_ite TaskState.status, ite_self]
@[simp] theorem recordProgress_kind (t : TaskState) (e : Event) :
    (recordProgress t e).kind = t.kind := by
  simp only [recordProgress, apply_ite TaskState.kind, ite_self]
@[simp] theorem recordProgress_startAt (t : TaskState) (e : Event) :
    (recordProgress t e).startAt = t.startAt := by
  simp only [recordProgress, apply_ite TaskState.startAt, ite_self]
@[simp] theorem recordProgress_endAt (t : TaskState) (e : Event) :
    (recordProgress t e).endAt = t.endAt := by
  simp only [recordProgress, apply_ite TaskState.endAt, ite_self]

def applyTaskProgress (s : EngineState) (now : Time) (e : Event) : EngineState :=
  match s.openTask e.taskID with
  | none => s
  | some (r, _) =>
    let t := recordProgress (s.taskHeap r) e
    if t.status ≠ .running then s.setTask r t
    else if t.kind ≠ .download then s.setTask r t
    else s.setTask r (sampleSpeed t now)

/-- The status switch of `applyTaskState`: the new status, whether `endAt` is set and
    whether `ensureStarted` runs; `none` where the handler returns without a change. -/
def statusTransition (cur : TaskStatus) (status : String) : Option (TaskStatus × Bool × Bool) :=
  if status = TaskStatusPending then some (.pending, false, false)
  else if status = TaskStatusRunning then
    if cur.isTerminal then none else some (.running, false, true)
  else if status = TaskStatusRetrying then
    if cur.isTerminal then none else some (.retrying, false, true)
  else if status = TaskStatusDone then
    if cur = .running ∨ cur = .retrying then some (.done, true, false) else none
  else if status = TaskStatusError then
    if cur = .done ∨ cur = .skipped ∨ cur = .canceled then none else some (.error, true, true)
  else if status = TaskStatusSkipped then
    if cur.isTerminal then none else some (.skipped, true, true)
  else if status = TaskStatusCanceled then
    if cur.isTerminal then none else some (.canceled, true, true)
  else none

theorem statusTransition_eq_some {cur : TaskStatus} {status : String} {x : TaskStatus × Bool × Bool}
    (h : statusTransition cur status = some x) :
    (status = TaskStatusPending ∧ x = (.pending, false, false)) ∨
    (status = TaskStatusRunning ∧ cur.isTerminal = false ∧ x = (.running, false, true)) ∨
    (status = TaskStatusRetrying ∧ cur.isTerminal = false ∧ x = (.retrying, false, true)) ∨
    (status = TaskStatusDone ∧ (cur = .running ∨ cur = .retrying) ∧ x = (.done, true, false)) ∨
    (status = TaskStatusError ∧ ¬(cur = .done ∨ cur = .skipped ∨ cur = .canceled) ∧
      x = (.error, true, true)) ∨
    (status = TaskStatusSkipped ∧ cur.isTerminal = false ∧ x = (.skipped, true, true)) ∨
    (status = TaskStatusCanceled ∧ cur.isTerminal = false ∧ x = (.canceled, true, true)) := by
  unfold statusTransition at h
  by_cases c1 : status = TaskStatusPending
  · rw [if_pos c1] at h; exact .inl ⟨c1, (Option.some.inj h).symm⟩
  rw [if_neg c1] at h
  by_cases c2 : status = TaskStatusRunning
  · rw [if_pos c2] at h
    split at h
    · cases h
    · exact .inr (.inl ⟨c2, Bool.eq_false_iff.2 ‹_›, (Option.some.inj h).symm⟩)
  rw [if_neg c2] at h
  by_cases c3 : status = TaskStatusRetrying
  · rw [if_pos c3] at h
    split at h
    · cases h
    · exact .inr (.inr (.inl ⟨c3, Bool.eq_false_iff.2 ‹_›, (Option.some.inj h).symm⟩))
  rw [if_neg c3] at h
  by_cases c4 : status = TaskStatusDone
  · rw [if_pos c4] at h
    split at h
    · exact .inr (.inr (.inr (.inl ⟨c4, ‹_›, (Option.some.inj h).symm⟩)))
    · cases h
  rw [if_neg c4] at h
  by_cases c5 : status = TaskStatusError
  · rw [if_pos c5] at h
    split at h
    · cases h
    · exact .inr (.inr (.inr (.inr (.inl ⟨c5, ‹_›, (Option.some.inj h).symm⟩))))
  rw [if_neg c5] at h
  by_cases c6 : status = TaskStatusSkipped
  · rw [if_pos c6] at h
    split at h
    · cases h
    · exact .inr (.inr (.inr (.inr (.inr (.inl ⟨c6, Bool.eq_false_iff.2 ‹_›, (Option.some.inj h).symm⟩)))))
  rw [if_neg c6] at h
  by_cases c7 : status = TaskStatusCanceled
  · rw [if_pos c7] at h
    split at h
    · cases h
    · exact .inr (.inr (.inr (.inr (.inr (.inr ⟨c7, Bool.eq_false_iff.2 ‹_›, (Option.some.inj h).symm⟩)))))
  rw [if_neg c7] at h
  cases h

/-- The average speed `applyTaskState` derives for a finished download that never sampled one. -/
def finalSpeed (t : TaskState) (now : Time) : TaskState :=
  if !t.status.isTerminal then t
  else if t.kind ≠ .download || decide (0 < t.speedBps) || t.startAt.isZero
      || !now.after t.startAt then t
  else
    let elapsed := (now.sub t.startAt).seconds
    if elapsed ≤ 0 then t
    else
      let size := if t.total ≤ 0 then t.current else t.total
      if size ≤ 0 then t else { t with speedBps := Float.ofInt size / elapsed }

@[simp] theorem finalSpeed_id (t : TaskState) (now : Time) : (finalSpeed t now).id = t.id := by
  simp only [finalSpeed, apply_ite TaskState.id, ite_self]
@[simp] theorem finalSpeed_g (t : TaskState) (now : Time) : (finalSpeed t now).g = t.g := by
  simp only [finalSpeed, apply_ite TaskState.g, ite_self]
@[simp] theorem finalSpeed_status (t : TaskState) (now : Time) :
    (finalSpeed t now).status = t.status := by
  simp only [finalSpeed, apply_ite TaskState.status, ite_self]
@[simp] theorem finalSpeed_startAt (t : TaskState) (now : Time) :
    (finalSpeed t now).startAt = t.startAt := by
  simp only [finalSpeed, apply_ite TaskState.startAt, ite_self]
@[simp] theorem finalSpeed_endAt (t : TaskState) (now : Time) :
    (finalSpeed t now).endAt = t.endAt := by
  simp only [finalSpeed, apply_ite TaskState.endAt, ite_self]

/-- The task's side of a status change in `applyTaskState`: status, `endAt`, the task half
    of `ensureStarted`, and the message. -/
def enterStatus (t : TaskState) (now : Time) (st : TaskStatus) (ends starts : Bool)
    (message : Option String) : TaskState :=
  let t := { t with status := st, endAt := if ends then now else t.endAt }
  let t := if starts && t.startAt.isZero then { t with startAt := now } else t
  { t with message := message.getD t.message }

@[simp] theorem enterStatus_id (t : TaskState) (now : Time) (st : TaskStatus) (ends starts : Bool)
    (m : Option String) : (enterStatus t now st ends starts m).id = t.id := by
  simp only [enterStatus, apply_ite TaskState.id, ite_self]
@[simp] theorem enterStatus_g (t : TaskState) (now : Time) (st : TaskStatus) (ends starts : Bool)
    (m : Option String) : (enterStatus t now st ends starts m).g = t.g := by
  simp only [enterStatus, apply_ite TaskState.g, ite_self]
@[simp] theorem enterStatus_status (t : TaskState) (now : Time) (st : TaskStatus)
    (ends starts : Bool) (m : Option String) : (enterStatus t now st ends starts m).status = st := by
  simp only [enterStatus, apply_ite TaskState.status, ite_self]
@[simp] theorem enterStatus_startAt (t : TaskState) (now : Time) (st : TaskStatus)
    (ends starts : Bool) (m : Option String) : (enterStatus t now st ends starts m).startAt =
      if starts && t.startAt.isZero then now else t.startAt := by
  simp only [enterStatus, apply_ite TaskState.startAt]
@[simp] theorem enterStatus_endAt (t : TaskState) (now : Time) (st : TaskStatus)
    (ends starts : Bool) (m : Option String) : (enterStatus t now st ends starts m).endAt =
      if ends then now else t.endAt := by
  simp only [enterStatus, apply_ite TaskState.endAt, ite_self]

def applyTaskState (s : EngineState) (now : Time) (e : Event) : EngineState :=
  match s.openTask e.taskID with
  | none => s
  | some (r, a) =>
    match e.status with
    | none => s
    | some status =>
      let t := s.taskHeap r
      if t.status = .error ∧ status = TaskStatusError then s
      else
        match statusTransition t.status status with
        | none => s
        | some (st, ends, starts) =>
          let g := s.groupHeap a
          let s' := if starts && g.startedAt.isZero then s.setGroup a { g with startedAt := now }
            else s
          s'.setTask r (finalSpeed (enterStatus t now st ends starts e.message) now)

/-- `applyEvent(now, e)`; `clock` is what `time.Now()` returns when `now` is zero. -/
def applyEvent (s : EngineState) (clock now : Time) (e : Event) : EngineState :=
  let now := if now.isZero then clock else now
  if e.type = EventGroupAdd then s.applyGroupAdd now e
  else if e.type = EventGroupUpdate then s.applyGroupUpdate e
  else if e.type = EventGroupClose then s.applyGroupClose now e
  else if e.type = EventTaskAdd then s.applyTaskAdd now e
  else if e.type = EventTaskUpdate then s.applyTaskUpdate e
  else if e.type = EventTaskProgress then s.applyTaskProgress now e
  else if e.type = EventTaskState then s.applyTaskState now e
  else s

end EngineState

/-- One call `applyEvent(now, event)`, with the reading `clock` of `time.Now()`. -/
structure Applied where
  clock : Time
  now : Time
  event : Event

def runEvents (s : EngineState) : List Applied → EngineState
  | [] => s
  | x :: xs => runEvents (s.applyEvent x.clock x.now x.event) xs

@[simp] theorem runEvents_nil (s : EngineState) : runEvents s [] = s := rfl

@[simp] theorem runEvents_cons (s : EngineState) (x : Applied) (xs : List Applied) :
    runEvents s (x :: xs) = runEvents (s.applyEvent x.clock x.now x.event) xs := rfl

theorem runEvents_append (s : EngineState) (xs ys : List Applied) :
    runEvents s (xs ++ ys) = runEvents (runEvents s xs) ys := by
  induction xs generalizing s with
  | nil => rfl
  | cons x xs ih => exact ih _

end TiupPlayground
