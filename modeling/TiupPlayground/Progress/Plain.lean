import TiupPlayground.Progress.Frame

/-!
The plain renderer of `tuiv2/progress`, as `UI.processPlainEvent` drives it: the engine applies
an event, then `plainRenderer.renderEvent` prints lines for it, reading the task's state after
the event and marking through the task pointer which start lines it has printed.

The renderer's styling (`colorstr`) and its `formatDuration` and `formatBytes` helpers are not
part of the model's source; they are parameters, `Palette` and `Formatters`, and every result
here holds for all of them.
-/
namespace TiupPlayground

/-- The styled fragments of `plainSprintf`; with colour off each token is dropped, `plain`. -/
structure Palette where
  green : String → String
  dim : String → String
  groupTitle : String → String
  errLabel : String
  warnLabel : String

def Palette.plain : Palette := ⟨id, id, id, "ERR", "WARN"⟩

structure Formatters where
  duration : Duration → String
  bytes : Int → String

section Render

variable (p : Palette) (f : Formatters)

def groupPrefix (title : String) : String := if title = "" then "" else p.groupTitle title

def printlnWithGroup (g : GroupState) (details : String) : String :=
  let pre := groupPrefix p g.title
  if pre = "" then details else pre ++ " | " ++ details

/-- The title with the task's meta, as the retry and outcome lines print it. -/
def TaskState.fullTitle (t : TaskState) : String :=
  if t.meta ≠ "" then t.title ++ " " ++ t.meta else t.title

def maybePrintGenericStart (now : Time) (t : TaskState) (g : GroupState) : TaskState × List String :=
  if t.plainStartPrinted then (t, [])
  else
    let t := { t with plainStartPrinted := true
                      startAt := if t.startAt.isZero then now else t.startAt }
    let title := p.green t.title
    let details :=
      if t.meta ≠ "" ∧ t.message ≠ "" then title ++ " " ++ p.dim t.meta ++ " " ++ p.dim t.message
      else if t.meta ≠ "" then title ++ " " ++ p.dim t.meta
      else if t.message ≠ "" then title ++ " " ++ p.dim t.message
      else title
    (t, [printlnWithGroup p g details])

def maybePrintDownloadStart (now : Time) (t : TaskState) (g : GroupState) :
    TaskState × List String :=
  if t.downloadStartPrinted ∨ t.kind ≠ .download then (t, [])
  else if t.status ≠ .running then (t, [])
  else
    let t := { t with downloadStartPrinted := true
                      startAt := if t.startAt.isZero then now else t.startAt }
    let title := p.green t.title
    let size := if 0 < t.total then f.bytes t.total else "?"
    let details :=
      if t.meta ≠ "" then title ++ " " ++ p.dim t.meta ++ " " ++ p.dim ("(" ++ size ++ ")")
      else title ++ " " ++ p.dim ("(" ++ size ++ ")")
    (t, [printlnWithGroup p g details])

def printRetry (t : TaskState) (g : GroupState) : String :=
  if t.message ≠ "" then printlnWithGroup p g (p.warnLabel ++ " - " ++ t.fullTitle ++ ": " ++ t.message)
  else printlnWithGroup p g (p.warnLabel ++ " - " ++ t.fullTitle)

/-- The line of a finished task, shared by `printError`, `printSkipped` and `printCanceled`:
    the label, the title, the message if any and the time from start to end. -/
def printOutcome (label : String) (t : TaskState) (g : GroupState) : String :=
  let elapsed := f.duration (t.endAt.sub t.startAt)
  if t.message ≠ "" then
    printlnWithGroup p g (label ++ " - " ++ t.fullTitle ++ ": " ++ t.message ++ " (" ++ elapsed ++ ")")
  else printlnWithGroup p g (label ++ " - " ++ t.fullTitle ++ " (" ++ elapsed ++ ")")

def printError (t : TaskState) (g : GroupState) : String := printOutcome p f p.errLabel t g
def printSkipped (t : TaskState) (g : GroupState) : String := printOutcome p f "SKIP" t g
def printCanceled (t : TaskState) (g : GroupState) : String := printOutcome p f "CANCEL" t g

/-- What `renderEvent` prints for a task's event, the task `r` of group `a`, and the state it
    leaves through the task pointer. -/
def renderTaskState (now : Time) (st : EngineState) (r a : Nat) : EngineState × List String :=
  let t := st.taskHeap r
  let g := st.groupHeap a
  if t.status = .running then
    let (t', out) := match t.kind with
      | .download => maybePrintDownloadStart p f now t g
      | .generic => maybePrintGenericStart p now t g
    (st.setTask r t', out)
  else if t.status = .retrying then (st, [printRetry p t g])
  else if t.status = .error then (st, [printError p f t g])
  else if t.status = .skipped then (st, [printSkipped p f t g])
  else if t.status = .canceled then (st, [printCanceled p f t g])
  else (st, [])

/-- The task an event names and its group, as `renderEvent` looks them up. -/
def renderedTask (st : EngineState) (id : UInt64) : Option (Nat × Nat) :=
  match st.taskByID id with
  | none => none
  | some r => (st.taskHeap r).g.map fun a => (r, a)

def renderEvent (now : Time) (e : Event) (st : EngineState) : EngineState × List String :=
  if e.type = EventPrintLines then (st, e.lines)
  else if e.type = EventTaskUpdate then
    match renderedTask st e.taskID with
    | none => (st, [])
    | some (r, a) =>
      let (t', out) := maybePrintDownloadStart p f now (st.taskHeap r) (st.groupHeap a)
      (st.setTask r t', out)
  else if e.type = EventTaskState then
    match renderedTask st e.taskID with
    | none => (st, [])
    | some (r, a) => renderTaskState p f now st r a
  else (st, [])

/-- `processPlainEvent` apart from the event log and the sync barrier: `clock` is `ui.now()`. -/
def processPlainEvent (clock : Time) (st : EngineState) (e : Event) : EngineState × List String :=
  let now := if e.atTime.isZero then clock else e.atTime
  if e.type = EventSync then (st, [])
  else renderEvent p f now e (st.applyEvent clock now e)

def plainLines (st : EngineState) : List (Time × Event) → List String
  | [] => []
  | (clock, e) :: rest =>
    (processPlainEvent p f clock st e).2 ++ plainLines (processPlainEvent p f clock st e).1 rest

theorem renderEvent_failed {now : Time} {e : Event} {st : EngineState} {r a : Nat}
    (he : e.type = EventTaskState) (hr : renderedTask st e.taskID = some (r, a))
    (hf : (st.taskHeap r).status = .error) :
    renderEvent p f now e st = (st, [printError p f (st.taskHeap r) (st.groupHeap a)]) := by
  have h1 : e.type ≠ EventPrintLines := by rw [he]; decide
  have h2 : e.type ≠ EventTaskUpdate := by rw [he]; decide
  simp only [renderEvent, if_neg h1, if_neg h2, if_pos he, hr, renderTaskState, hf]
  rfl

theorem processPlainEvent_quiet {clock : Time} {st : EngineState} {e : Event}
    (h0 : e.atTime.isZero = true) (hs : e.type ≠ EventSync) (h1 : e.type ≠ EventPrintLines)
    (h2 : e.type ≠ EventTaskUpdate) (h3 : e.type ≠ EventTaskState) :
    processPlainEvent p f clock st e = (st.applyEvent clock clock e, []) := by
  simp only [processPlainEvent, h0, if_true, if_neg hs, renderEvent, if_neg h1, if_neg h2, if_neg h3]

theorem processPlainEvent_failed {clock : Time} {st : EngineState} {e : Event} {r a : Nat}
    (h0 : e.atTime.isZero = true) (he : e.type = EventTaskState)
    (hr : renderedTask (st.applyEvent clock clock e) e.taskID = some (r, a))
    (hf : ((st.applyEvent clock clock e).taskHeap r).status = .error) :
    processPlainEvent p f clock st e = (st.applyEvent clock clock e,
      [printError p f ((st.applyEvent clock clock e).taskHeap r)
        ((st.applyEvent clock clock e).groupHeap a)]) := by
  have hs : e.type ≠ EventSync := by rw [he]; decide
  simp only [processPlainEvent, h0, if_true, if_neg hs]
  exact renderEvent_failed p f he hr hf

theorem processPlainEvent_pending {clock : Time} {st : EngineState} {e : Event} {r a : Nat}
    (h0 : e.atTime.isZero = true) (he : e.type = EventTaskState)
    (hr : renderedTask (st.applyEvent clock clock e) e.taskID = some (r, a))
    (hp : ((st.applyEvent clock clock e).taskHeap r).status = .pending) :
    processPlainEvent p f clock st e = (st.applyEvent clock clock e, []) := by
  have hs : e.type ≠ EventSync := by rw [he]; decide
  have h1 : e.type ≠ EventPrintLines := by rw [he]; decide
  have h2 : e.type ≠ EventTaskUpdate := by rw [he]; decide
  simp only [processPlainEvent, h0, if_true, if_neg hs, renderEvent, if_neg h1, if_neg h2, if_pos he,
    hr, renderTaskState, hp]
  rfl

end Render

theorem EngineState.applyEvent_taskState (s : EngineState) (clock now : Time) {e : Event}
    (he : e.type = EventTaskState) :
    s.applyEvent clock now e = s.applyTaskState (if now.isZero then clock else now) e := by
  unfold EngineState.applyEvent
  rw [he]
  rfl

theorem EngineState.applyTaskState_error_again (s : EngineState) (now : Time) {e : Event}
    (he : e.status = some TaskStatusError)
    (hf : ∀ r, s.taskByID e.taskID = some r → (s.taskHeap r).status = .error) :
    s.applyTaskState now e = s := by
  unfold EngineState.applyTaskState
  split
  · rfl
  · rename_i r a ho
    rw [he]
    exact if_pos ⟨hf r (EngineState.openTask_spec ho).1, rfl⟩

/-- The text written for lines, each by `fmt.Fprintln`. -/
def plainText : List String → String
  | [] => ""
  | line :: rest => line ++ "\n" ++ plainText rest

theorem plainText_cons_ne (line : String) (rest : List String) : plainText (line :: rest) ≠ "" := by
  intro h
  simpa [plainText, show "\n".length = 1 from rfl] using congrArg String.length h

def isSeal (e : Event) : Bool := e.type = EventGroupClose ∧ e.finished = some false

def sealThenFail : List (Time × Event) :=
  [(⟨1, 0⟩, { Event.empty EventGroupAdd with groupID := 1, title := some "G" }),
   (⟨1, 0⟩, { Event.empty EventTaskAdd with
      groupID := 1, taskID := 10, title := some "T", pending := true }),
   (⟨2, 0⟩, { Event.empty EventGroupClose with groupID := 1, finished := some false }),
   (⟨3, 0⟩, { Event.empty EventTaskState with taskID := 10, status := some TaskStatusError })]

/-- With the seal the engine ignores the failure and nothing is printed; without it the
    failure prints a line, whatever the styling and formatting. -/
theorem seal_hides_error_line (p : Palette) (f : Formatters) :
    plainText (plainLines p f newEngineState sealThenFail) = "" ∧
      plainText (plainLines p f newEngineState (sealThenFail.filter fun x => !isSeal x.2)) ≠ "" := by
  constructor
  · simp (disch := decide) only [sealThenFail, plainLines, processPlainEvent_quiet,
      processPlainEvent_pending p f (r := 0) (a := 0)]
    rfl
  · simp (disch := decide) only [sealThenFail, List.filter, isSeal, plainLines, processPlainEvent_quiet,
      processPlainEvent_failed p f (r := 0) (a := 0)]
    simp only [List.nil_append, List.append_nil]
    exact plainText_cons_ne _ _

example : plainText (plainLines Palette.plain ⟨fun _ => "0s", fun _ => "?"⟩ newEngineState
    (sealThenFail.filter fun x => !isSeal x.2)) = "G | ERR - T (0s)\n" := by
  decide

def groupOneAdd : Event := { Event.empty EventGroupAdd with groupID := 1, title := some "G" }

def taskTenAdd : Event :=
  { Event.empty EventTaskAdd with groupID := 1, taskID := 10, title := some "T" }

def taskTenError : Event :=
  { Event.empty EventTaskState with taskID := 10, status := some TaskStatusError }

def errorTwice : List (Time × Event) :=
  [(⟨1, 0⟩, groupOneAdd), (⟨1, 0⟩, taskTenAdd), (⟨2, 0⟩, taskTenError), (⟨3, 0⟩, taskTenError)]

/-- The second failure report is ignored by the engine, which returns before changing anything,
    but the renderer, reading the task's status after the event, prints the `ERR` line again:
    one entry into `error`, two lines. -/
theorem plain_error_line_repeated (p : Palette) (f : Formatters) :
    let st := ((newEngineState.applyEvent ⟨1, 0⟩ ⟨1, 0⟩ groupOneAdd).applyEvent ⟨1, 0⟩ ⟨1, 0⟩
      taskTenAdd).applyEvent ⟨2, 0⟩ ⟨2, 0⟩ taskTenError
    (st.taskHeap 0).status = .error ∧
      processPlainEvent p f ⟨3, 0⟩ st taskTenError =
        (st, [printError p f (st.taskHeap 0) (st.groupHeap 0)]) ∧
      plainLines p f newEngineState errorTwice =
        [printError p f (st.taskHeap 0) (st.groupHeap 0),
          printError p f (st.taskHeap 0) (st.groupHeap 0)] := by
  intro st
  have hf : (st.taskHeap 0).status = .error := rfl
  have hst : st.applyEvent ⟨3, 0⟩ ⟨3, 0⟩ taskTenError = st := by
    rw [EngineState.applyEvent_taskState _ _ _ rfl]
    refine EngineState.applyTaskState_error_again st _ rfl fun r hk => ?_
    obtain rfl : r = 0 := Option.some.inj (hk.symm.trans rfl)
    exact hf
  have hlast : processPlainEvent p f ⟨3, 0⟩ st taskTenError =
      (st, [printError p f (st.taskHeap 0) (st.groupHeap 0)]) := by
    simp (disch := decide) only [processPlainEvent_failed p f (r := 0) (a := 0), hst]
  refine ⟨hf, hlast, ?_⟩
  simp (disch := decide) only [errorTwice, plainLines, processPlainEvent_quiet,
    processPlainEvent_failed p f (r := 0) (a := 0), hst]
  rfl

end TiupPlayground
