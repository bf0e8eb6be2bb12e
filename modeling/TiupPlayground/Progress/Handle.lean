import TiupPlayground.Progress.EventLog
import TiupPlayground.Progress.Terminal

/-!
The handles callers of `tuiv2/progress` hold: `UI.Group` and the methods of `Group` and `Task`.
Each method builds one event stamped with `ui.now()` and hands it to `ui.emit`; the `closed`
check every method starts with is the one `emitStep` makes in `Channel`. `UI.Group` and
`Group.newTask` draw their ids from `ui.nextID`, which is an argument here. The titles a handle
caches for debugging are read by nothing and are left out.

No method sends a `task_state` event with status `pending`, so through the handles a finished
task stays finished; and every event they send, at a time the log can hold, is read back from
the event log exactly.
-/
namespace TiupPlayground

/-- A `Group` handle. -/
structure Group where
  id : UInt64
  deriving DecidableEq, Repr

/-- A `Task` handle. -/
structure Task where
  id : UInt64
  groupID : UInt64
  deriving DecidableEq, Repr

/-- `UI.Group(title)` with `id` drawn from `nextID`: the handle and the event it sends. -/
def uiGroup (id : UInt64) (now : Time) (title : String) : Group × Event :=
  (⟨id⟩, { Event.empty EventGroupAdd with atTime := now, groupID := id, title := some title })

namespace Group

/-- The `group_update` event the setters of a group fill in. -/
def updateEvent (g : Group) (now : Time) : Event :=
  { Event.empty EventGroupUpdate with atTime := now, groupID := g.id }

def setTitle (g : Group) (now : Time) (title : String) : Event :=
  { g.updateEvent now with title := some title }

def setShowMeta (g : Group) (now : Time) (v : Bool) : Event :=
  { g.updateEvent now with showMeta := some v }

def setHideDetailsOnSuccess (g : Group) (now : Time) (hide : Bool) : Event :=
  { g.updateEvent now with hideDetailsOnSuccess := some hide }

def setSortTasksByTitle (g : Group) (now : Time) (sort : Bool) : Event :=
  { g.updateEvent now with sortTasksByTitle := some sort }

/-- `newTask(title, pending)` with `tid` drawn from `nextID`: the handle and its `task_add`. -/
def newTask (g : Group) (tid : UInt64) (now : Time) (title : String) (pending : Bool) :
    Task × Event :=
  (⟨tid, g.id⟩, { Event.empty EventTaskAdd with
    atTime := now, groupID := g.id, taskID := tid, title := some title, pending := pending })

def task (g : Group) (tid : UInt64) (now : Time) (title : String) : Task × Event :=
  g.newTask tid now title false

def taskPending (g : Group) (tid : UInt64) (now : Time) (title : String) : Task × Event :=
  g.newTask tid now title true

/-- The `group_close` event of `Close`, and of `Seal` with `finished` false. -/
def closeEvent (g : Group) (now : Time) (finished : Option Bool) : Event :=
  { Event.empty EventGroupClose with atTime := now, groupID := g.id, finished := finished }

def close (g : Group) (now : Time) : Event := g.closeEvent now none

/-- Go's `Seal`. -/
def sealGroup (g : Group) (now : Time) : Event := g.closeEvent now (some false)

end Group

namespace Task

/-- The `task_update` event the setters of a task fill in. -/
def updateEvent (t : Task) (now : Time) : Event :=
  { Event.empty EventTaskUpdate with atTime := now, taskID := t.id }

/-- A negative delay counts as zero; the delay is sent in whole milliseconds. -/
def setHideIfFast (t : Task) (now : Time) (revealAfter : Duration) : Event :=
  { t.updateEvent now with
    hideIfFast := some true, revealAfterMs := some ((max revealAfter 0).tdiv Millisecond) }

def setKindDownload (t : Task) (now : Time) : Event :=
  { t.updateEvent now with kind := some TaskKindDownload }

def setMessage (t : Task) (now : Time) (msg : String) : Event :=
  { t.updateEvent now with message := some msg }

def setMeta (t : Task) (now : Time) (m : String) : Event :=
  { t.updateEvent now with meta := some m }

/-- The `task_progress` event of `SetTotal` and `SetCurrent`. -/
def progressEvent (t : Task) (now : Time) : Event :=
  { Event.empty EventTaskProgress with atTime := now, taskID := t.id }

def setTotal (t : Task) (now : Time) (total : Int) : Event :=
  { t.progressEvent now with total := some total }

def setCurrent (t : Task) (now : Time) (current : Int) : Event :=
  { t.progressEvent now with current := some current }

/-- The `task_state` event of the status methods, with the message of those that take one. -/
def stateEvent (t : Task) (now : Time) (status : String) (message : Option String) : Event :=
  { Event.empty EventTaskState with
    atTime := now, taskID := t.id, status := some status, message := message }

def start (t : Task) (now : Time) : Event := t.stateEvent now TaskStatusRunning none

def retrying (t : Task) (now : Time) (msg : String) : Event :=
  t.stateEvent now TaskStatusRetrying (some msg)

def done (t : Task) (now : Time) : Event := t.stateEvent now TaskStatusDone none

def error (t : Task) (now : Time) (msg : String) : Event :=
  t.stateEvent now TaskStatusError (some msg)

def skip (t : Task) (now : Time) (reason : String) : Event :=
  t.stateEvent now TaskStatusSkipped (some reason)

def cancel (t : Task) (now : Time) (reason : String) : Event :=
  t.stateEvent now TaskStatusCanceled (some reason)

end Task

/-- A call on a handle with its arguments; the ids `nextID` hands out are arguments too. -/
inductive HandleCall where
  | uiGroup (id : UInt64) (title : String)
  | setTitle (g : Group) (title : String)
  | setShowMeta (g : Group) (v : Bool)
  | setHideDetailsOnSuccess (g : Group) (hide : Bool)
  | setSortTasksByTitle (g : Group) (sort : Bool)
  | newTask (g : Group) (tid : UInt64) (title : String) (pending : Bool)
  | close (g : Group)
  | seal (g : Group)
  | setHideIfFast (t : Task) (revealAfter : Duration)
  | setKindDownload (t : Task)
  | setMessage (t : Task) (msg : String)
  | setMeta (t : Task) (m : String)
  | setTotal (t : Task) (total : Int)
  | setCurrent (t : Task) (current : Int)
  | start (t : Task)
  | retrying (t : Task) (msg : String)
  | done (t : Task)
  | error (t : Task) (msg : String)
  | skip (t : Task) (reason : String)
  | cancel (t : Task) (reason : String)
  deriving DecidableEq, Repr

namespace HandleCall

/-- The event a call sends at `now`. -/
def event (now : Time) : HandleCall → Event
  | .uiGroup id title => (TiupPlayground.uiGroup id now title).2
  | .setTitle g title => g.setTitle now title
  | .setShowMeta g v => g.setShowMeta now v
  | .setHideDetailsOnSuccess g hide => g.setHideDetailsOnSuccess now hide
  | .setSortTasksByTitle g sort => g.setSortTasksByTitle now sort
  | .newTask g tid title pending => (g.newTask tid now title pending).2
  | .close g => g.close now
  | .seal g => g.sealGroup now
  | .setHideIfFast t revealAfter => t.setHideIfFast now revealAfter
  | .setKindDownload t => t.setKindDownload now
  | .setMessage t msg => t.setMessage now msg
  | .setMeta t m => t.setMeta now m
  | .setTotal t total => t.setTotal now total
  | .setCurrent t current => t.setCurrent now current
  | .start t => t.start now
  | .retrying t msg => t.retrying now msg
  | .done t => t.done now
  | .error t msg => t.error now msg
  | .skip t reason => t.skip now reason
  | .cancel t reason => t.cancel now reason

def ArgsFit : HandleCall → Prop
  | .setHideIfFast _ d | .setTotal _ d | .setCurrent _ d => minInt64 ≤ d ∧ d ≤ maxInt64
  | _ => True

@[simp] theorem event_atTime (now : Time) (c : HandleCall) : (c.event now).atTime = now := by
  cases c <;> rfl

theorem event_status_ne_pending (now : Time) (c : HandleCall) :
    (c.event now).status ≠ some TaskStatusPending := by
  cases c <;> simp [event, TiupPlayground.uiGroup, Group.setTitle, Group.setShowMeta,
    Group.setHideDetailsOnSuccess, Group.setSortTasksByTitle, Group.updateEvent, Group.newTask,
    Group.close, Group.sealGroup, Group.closeEvent, Task.setHideIfFast, Task.setKindDownload,
    Task.setMessage, Task.setMeta, Task.updateEvent, Task.setTotal, Task.setCurrent,
    Task.progressEvent, Task.start, Task.retrying, Task.done, Task.error, Task.skip, Task.cancel,
    Task.stateEvent, Event.empty, TaskStatusPending, TaskStatusRunning, TaskStatusRetrying,
    TaskStatusDone, TaskStatusError, TaskStatusSkipped, TaskStatusCanceled]

theorem event_loggable (now : Time) (c : HandleCall) (hnow : GoKind.Fits .time now)
    (hargs : c.ArgsFit) : (c.event now).Loggable := by
  have hms : ∀ d : Duration, minInt64 ≤ d → d ≤ maxInt64 →
      minInt64 ≤ (max d 0).tdiv Millisecond ∧ (max d 0).tdiv Millisecond ≤ maxInt64 := by
    intro d _ h1
    have h0 := le_max_right d 0
    rw [Int.tdiv_eq_ediv h0 (by decide)]
    exact ⟨le_trans (by decide) (Int.ediv_nonneg h0 (by decide)),
      le_trans (Int.ediv_le_self _ h0) (max_le h1 (by decide))⟩
  rw [Event.loggable_iff, event_atTime]
  refine ⟨hnow, ?_⟩
  cases c
  case setHideIfFast t d =>
    exact ⟨fun x hx => Option.some.inj hx ▸ hms d hargs.1 hargs.2, nofun, nofun⟩
  case setTotal t x => exact ⟨nofun, nofun, fun y hy => Option.some.inj hy ▸ hargs⟩
  case setCurrent t x => exact ⟨nofun, fun y hy => Option.some.inj hy ▸ hargs, nofun⟩
  all_goals exact ⟨nofun, nofun, nofun⟩

end HandleCall

theorem handle_event_log_round_trip (c : HandleCall) (now sinkNow : Time)
    (hz : now.isZero = false) (hnow : GoKind.Fits .time now) (hargs : c.ArgsFit) :
    ∃ line, eventLogWrite sinkNow (c.event now) = line ++ ['\n'] ∧ line ≠ [] ∧ '\n' ∉ line ∧
      decodeEvent line = (c.event now, none) := by
  have hs : (c.event now).stamped sinkNow = c.event now := by
    simp [Event.stamped, hz]
  obtain ⟨line, hw, hne, hn, hd⟩ := @eventLogWrite_line sinkNow (c.event now)
    (by rw [hs]; exact c.event_loggable now hnow hargs)
  exact ⟨line, hw, hne, hn, by rw [hd, hs]⟩

theorem handle_event_log_round_trip_done :
    let now : Time := ⟨(62135596800 + 1000000) * 1000000000, 0⟩
    now.isZero = false ∧ GoKind.Fits .time now ∧ (HandleCall.done ⟨10, 1⟩).ArgsFit ∧
      ∃ line, eventLogWrite Time.zero ((HandleCall.done ⟨10, 1⟩).event now) = line ++ ['\n'] ∧
        line ≠ [] ∧ '\n' ∉ line ∧ decodeEvent line = ((HandleCall.done ⟨10, 1⟩).event now, none) :=
  ⟨by decide, by decide, trivial,
    handle_event_log_round_trip _ _ _ (by decide) (by decide) trivial⟩

theorem handle_calls_keep_finished_outcome {s : EngineState} (hs : s.WF) {k : UInt64} {r : Nat}
    (hk : s.taskByID k = some r) (hterm : (s.taskHeap r).status.isTerminal = true)
    (ys : List Applied) (hys : ∀ y ∈ ys, ∃ c now, y.event = HandleCall.event now c) :
    ((runEvents s ys).taskHeap r).outcome = (s.taskHeap r).outcome :=
  (EngineState.FinishedWith.run ⟨hs, hk, hterm, rfl⟩ ys fun y hy ⟨_, _, hp⟩ => by
    obtain ⟨c, now, he⟩ := hys y hy
    rw [he] at hp
    exact c.event_status_ne_pending now hp).outcome

theorem handle_calls_keep_finished_outcome_after_done :
    let s := runEvents newEngineState
      [⟨Time.zero, ⟨1, 0⟩, (HandleCall.uiGroup 1 "G").event ⟨1, 0⟩⟩,
       ⟨Time.zero, ⟨1, 0⟩, (HandleCall.newTask ⟨1⟩ 10 "T" false).event ⟨1, 0⟩⟩,
       ⟨Time.zero, ⟨2, 0⟩, (HandleCall.done ⟨10, 1⟩).event ⟨2, 0⟩⟩]
    let ys : List Applied :=
      [⟨Time.zero, ⟨3, 0⟩, (HandleCall.error ⟨10, 1⟩ "boom").event ⟨3, 0⟩⟩,
       ⟨Time.zero, ⟨4, 0⟩, (HandleCall.retrying ⟨10, 1⟩ "again").event ⟨4, 0⟩⟩,
       ⟨Time.zero, ⟨5, 0⟩, (HandleCall.start ⟨10, 1⟩).event ⟨5, 0⟩⟩]
    s.taskByID 10 = some 0 ∧ (s.taskHeap 0).status.isTerminal = true ∧
      ((runEvents s ys).taskHeap 0).outcome = (s.taskHeap 0).outcome :=
  ⟨by decide, by decide, handle_calls_keep_finished_outcome
    (EngineState.runEvents_wf EngineState.newEngineState_wf _) (k := 10) (by decide) (by decide) _ fun y hy => by
      simp only [List.mem_cons, List.mem_nil_iff, or_false] at hy
      rcases hy with rfl | rfl | rfl
      exacts [⟨.error ⟨10, 1⟩ "boom", _, rfl⟩, ⟨.retrying ⟨10, 1⟩ "again", _, rfl⟩,
        ⟨.start ⟨10, 1⟩, _, rfl⟩]⟩

end TiupPlayground
