import TiupPlayground.Time

/-!
The progress engine's input: `Event`, the canonical append-only record of `tuiv2/progress`.
Type, status and kind are Go string types, so every string is a possible value; the named
constants are the ones the engine compares against. Pointer fields are `Option`s, int64
fields are `Int`s within the int64 range, ids are `UInt64`. Go's `At` is `atTime`.
-/
namespace TiupPlayground

def EventPrintLines : String := "print_lines"
def EventSync : String := "sync"
def EventGroupAdd : String := "group_add"
def EventGroupUpdate : String := "group_update"
def EventGroupClose : String := "group_close"
def EventTaskAdd : String := "task_add"
def EventTaskUpdate : String := "task_update"
def EventTaskProgress : String := "task_progress"
def EventTaskState : String := "task_state"

def TaskStatusPending : String := "pending"
def TaskStatusRunning : String := "running"
def TaskStatusRetrying : String := "retrying"
def TaskStatusDone : String := "done"
def TaskStatusError : String := "error"
def TaskStatusSkipped : String := "skipped"
def TaskStatusCanceled : String := "canceled"

def TaskKindGeneric : String := "generic"
def TaskKindDownload : String := "download"

structure Event where
  type : String
  atTime : Time
  groupID : UInt64
  taskID : UInt64
  lines : List String
  syncID : UInt64
  title : Option String
  showMeta : Option Bool
  hideDetailsOnSuccess : Option Bool
  sortTasksByTitle : Option Bool
  finished : Option Bool
  pending : Bool
  kind : Option String
  meta : Option String
  message : Option String
  hideIfFast : Option Bool
  revealAfterMs : Option Int
  current : Option Int
  total : Option Int
  status : Option String
  deriving DecidableEq, Repr

/-- The zero `Event`; emitters fill in the fields their event type carries. -/
def Event.empty (type : String) : Event :=
  ⟨type, Time.zero, 0, 0, [], 0, none, none, none, none, none, false, none, none, none, none,
    none, none, none, none⟩

end TiupPlayground
