import TiupPlayground.Progress.EventJson
import TiupPlayground.Progress.Plain
import TiupPlayground.Progress.Timestamps

/-!
The event log of a daemon-mode UI. `processPlainEvent` hands each event but a sync barrier to
`eventLogSink.write` with the time it handles it at, and the sink appends the event, stamped
with that time if it has none, as one line of JSON. A starter tailing the file decodes each line
with `DecodeEvent` and replays it through `applyEvent(e.At, e)`. The replay does not run the
renderer, so it rebuilds the daemon's engine state apart from the marks the plain renderer
keeps of the start lines it printed, from any state in which every task past `pending` has a
start time and every finished task an end time.

Every line the sink writes decodes to the stamped event when each field's value is one its Go
type writes exactly (`Event.Loggable`). A time is written in its own zone with the zone's
offset cut to whole minutes, so a zone with seconds moves the time read back.
-/
namespace TiupPlayground

/-- The event `eventLogSink.write(now, e)` encodes: `e`, with `At` set to `now` if it is zero. -/
def Event.stamped (e : Event) (now : Time) : Event :=
  if e.atTime.isZero then { e with atTime := now } else e

/-- `eventLogSink.write`: `Encoder.Encode` writes the JSON text and a newline, and nothing when
    `json.Marshal` fails. -/
def eventLogWrite (now : Time) (e : Event) : List Char :=
  match marshalEvent (e.stamped now) with
  | .ok b => b ++ ['\n']
  | .error _ => []

/-- The log after `write(now, e)` for each pair in turn. -/
def eventLogText (xs : List (Time × Event)) : List Char :=
  xs.flatMap fun x => eventLogWrite x.1 x.2

/-- The time `processPlainEvent` handles an event at, and passes to the sink and the engine: the
    event's own, or the clock's reading when it has none. -/
def plainNow (clock : Time) (e : Event) : Time := if e.atTime.isZero then clock else e.atTime

/-- The daemon's engine state after `processPlainEvent` handled each event at its clock
    reading, the renderer's writes included. -/
def daemonEngineState (p : Palette) (f : Formatters) (st : EngineState)
    (xs : List (Time × Event)) : EngineState :=
  xs.foldl (fun st x => (processPlainEvent p f x.1 st x.2).1) st

/-- A starter's replay of decoded events, each through `applyEvent(e.At, e)`; `clock` is what
    its `time.Now()` returns. -/
def replayEvents (st : EngineState) (clock : Time) (es : List Event) : EngineState :=
  es.foldl (fun st e => st.applyEvent clock e.atTime e) st

/-! ### Lines -/

theorem eventLogWrite_line {now : Time} {e : Event} (h : (e.stamped now).Loggable) :
    ∃ line, eventLogWrite now e = line ++ ['\n'] ∧ line ≠ [] ∧ '\n' ∉ line ∧
      decodeEvent line = (e.stamped now, none) := by
  obtain ⟨b, hb, hd⟩ := decodeEvent_marshalEvent h
  obtain ⟨hne, hn⟩ := marshalEvent_line hb
  refine ⟨b, ?_, hne, hn, hd⟩
  unfold eventLogWrite
  rw [hb]

theorem eventLogText_lines (xs : List (Time × Event)) (h : ∀ x ∈ xs, (x.2.stamped x.1).Loggable) :
    ∃ lines, (eventLogText xs).splitOn '\n' = lines ++ [[]] ∧
      List.Forall₂ (fun x line => line ≠ [] ∧ decodeEvent line = (x.2.stamped x.1, none))
        xs lines := by
  induction xs with
  | nil => exact ⟨[], rfl, .nil⟩
  | cons x xs ih =>
    obtain ⟨lines, hsplit, hlines⟩ := ih fun y hy => h y (List.mem_cons_of_mem _ hy)
    obtain ⟨line, hw, hne, hn, hd⟩ := eventLogWrite_line (h x (List.mem_cons_self _ _))
    refine ⟨line :: lines, ?_, .cons ⟨hne, hd⟩ hlines⟩
    have hsep : ∀ c ∈ line, ¬(c == '\n') = true := fun c hc he => hn (beq_iff_eq.1 he ▸ hc)
    show (eventLogWrite x.1 x.2 ++ eventLogText xs).splitOnP (· == '\n') = _
    rw [hw, List.append_assoc, List.singleton_append, List.splitOnP_first _ _ hsep '\n' (beq_self_eq_true _)]
    exact congrArg _ hsplit

/-! ### The plain renderer's marks

`plainStartPrinted` and `downloadStartPrinted` are written only by the renderer. Every handler
of the engine commutes with erasing them, and the renderer writes nothing else of a task whose
start time is set. -/

@[simps]
def TaskState.unmarked (t : TaskState) : TaskState :=
  { t with plainStartPrinted := false, downloadStartPrinted := false }

namespace EngineState

def unmarked (s : EngineState) : EngineState :=
  { s with taskHeap := fun r => (s.taskHeap r).unmarked }

@[simp] theorem unmarked_taskHeap (s : EngineState) (r : Nat) :
    s.unmarked.taskHeap r = (s.taskHeap r).unmarked := rfl
@[simp] theorem unmarked_groupHeap (s : EngineState) : s.unmarked.groupHeap = s.groupHeap := rfl
@[simp] theorem unmarked_taskByID (s : EngineState) : s.unmarked.taskByID = s.taskByID := rfl
@[simp] theorem unmarked_groupByID (s : EngineState) : s.unmarked.groupByID = s.groupByID := rfl

theorem unmarked_setTask (s : EngineState) (r : Nat) (t : TaskState) :
    (s.setTask r t).unmarked = s.unmarked.setTask r t.unmarked := by
  simp only [unmarked, setTask]
  congr 1
  funext q
  exact Function.apply_update (fun _ => TaskState.unmarked) _ _ _ q

theorem unmarked_setGroup (s : EngineState) (a : Nat) (g : GroupState) :
    (s.setGroup a g).unmarked = s.unmarked.setGroup a g := rfl

theorem unmarked_setTask_eq {s : EngineState} {r : Nat} {t : TaskState}
    (h : t.unmarked = (s.taskHeap r).unmarked) : (s.setTask r t).unmarked = s.unmarked := by
  rw [unmarked_setTask, h, ← unmarked_taskHeap]
  simp only [setTask, Function.update_eq_self]

theorem openTask_unmarked (s : EngineState) (id : UInt64) :
    s.unmarked.openTask id = s.openTask id := by
  simp only [openTask, unmarked_taskByID, unmarked_taskHeap, TaskState.unmarked_g, unmarked_groupHeap]

theorem sampleSpeed_unmarked (t : TaskState) (now : Time) :
    sampleSpeed t.unmarked now = (sampleSpeed t now).unmarked := by
  simp only [sampleSpeed, TaskState.unmarked_lastSpeedAt, TaskState.unmarked_current,
    TaskState.unmarked_lastSpeedBytes, TaskState.unmarked_speedBps, apply_ite TaskState.unmarked]
  rfl

theorem recordProgress_unmarked (t : TaskState) (e : Event) :
    recordProgress t.unmarked e = (recordProgress t e).unmarked := by
  unfold recordProgress
  simp only [TaskState.unmarked_status]
  split_ifs <;> rfl

theorem finalSpeed_unmarked (t : TaskState) (now : Time) :
    finalSpeed t.unmarked now = (finalSpeed t now).unmarked := by
  simp only [finalSpeed, TaskState.unmarked_status, TaskState.unmarked_kind,
    TaskState.unmarked_speedBps, TaskState.unmarked_startAt, TaskState.unmarked_total,
    TaskState.unmarked_current, apply_ite TaskState.unmarked]
  rfl

theorem enterStatus_unmarked (t : TaskState) (now : Time) (st : TaskStatus) (ends starts : Bool)
    (m : Option String) :
    enterStatus t.unmarked now st ends starts m = (enterStatus t now st ends starts m).unmarked := by
  unfold enterStatus
  simp only [TaskState.unmarked_startAt, TaskState.unmarked_endAt]
  split_ifs <;> rfl

section Handlers

variable (s : EngineState) (now : Time) (e : Event)

theorem applyGroupAdd_unmarked :
    s.unmarked.applyGroupAdd now e = (s.applyGroupAdd now e).unmarked := by
  unfold applyGroupAdd
  simp only [unmarked_groupByID]
  split_ifs <;> rfl

theorem applyGroupUpdate_unmarked :
    s.unmarked.applyGroupUpdate e = (s.applyGroupUpdate e).unmarked := by
  unfold applyGroupUpdate
  simp only [unmarked_groupByID, unmarked_groupHeap]
  split
  · rfl
  · split_ifs <;> rfl

theorem applyGroupClose_unmarked :
    s.unmarked.applyGroupClose now e = (s.applyGroupClose now e).unmarked := by
  unfold applyGroupClose
  simp only [unmarked_groupByID, unmarked_groupHeap]
  split
  · rfl
  · simp only [apply_ite unmarked, unmarked_setGroup]

theorem applyTaskAdd_unmarked :
    s.unmarked.applyTaskAdd now e = (s.applyTaskAdd now e).unmarked := by
  unfold applyTaskAdd
  simp only [unmarked_groupByID, unmarked_groupHeap, unmarked_taskByID]
  split
  · rfl
  · simp only [apply_ite unmarked]
    refine if_congr Iff.rfl rfl (if_congr Iff.rfl rfl (if_congr Iff.rfl rfl ?_))
    simp only [unmarked, EngineState.mk.injEq, and_true, true_and]
    funext q
    rw [Function.apply_update (fun _ => TaskState.unmarked)]
    rfl

theorem applyTaskUpdate_unmarked :
    s.unmarked.applyTaskUpdate e = (s.applyTaskUpdate e).unmarked := by
  unfold applyTaskUpdate
  rw [openTask_unmarked]
  split
  · rfl
  · rw [unmarked_setTask]
    rfl

theorem applyTaskProgress_unmarked :
    s.unmarked.applyTaskProgress now e = (s.applyTaskProgress now e).unmarked := by
  unfold applyTaskProgress
  rw [openTask_unmarked]
  split
  · rfl
  · simp only [unmarked_taskHeap, recordProgress_unmarked, TaskState.unmarked_status,
      TaskState.unmarked_kind, sampleSpeed_unmarked, ← unmarked_setTask]
    split_ifs <;> rfl

theorem applyTaskState_unmarked :
    s.unmarked.applyTaskState now e = (s.applyTaskState now e).unmarked := by
  unfold applyTaskState
  rw [openTask_unmarked]
  split
  · rfl
  · split
    · rfl
    · simp only [unmarked_taskHeap, TaskState.unmarked_status, unmarked_groupHeap,
        apply_ite unmarked]
      refine if_congr Iff.rfl rfl ?_
      split
      · rfl
      · simp only [unmarked_setTask, apply_ite unmarked, unmarked_setGroup, enterStatus_unmarked,
          finalSpeed_unmarked]

theorem applyEvent_unmarked (clock : Time) :
    s.unmarked.applyEvent clock now e = (s.applyEvent clock now e).unmarked := by
  simp only [applyEvent, apply_ite unmarked, ← applyGroupAdd_unmarked, ← applyGroupUpdate_unmarked,
    ← applyGroupClose_unmarked, ← applyTaskAdd_unmarked, ← applyTaskUpdate_unmarked,
    ← applyTaskProgress_unmarked, ← applyTaskState_unmarked]

end Handlers

theorem Stamped.of_unmarked {s s' : EngineState} (h : s'.unmarked = s.unmarked) (hs : Stamped s) :
    Stamped s' :=
  have hs' : Stamped s'.unmarked := h ▸ (⟨hs.started, hs.ended⟩ : Stamped s.unmarked)
  ⟨hs'.started, hs'.ended⟩

end EngineState

section Render

variable (p : Palette) (f : Formatters) {now : Time}

theorem maybePrintGenericStart_unmarked {t : TaskState} (g : GroupState)
    (h : t.startAt.isZero = false) : (maybePrintGenericStart p now t g).1.unmarked = t.unmarked := by
  unfold maybePrintGenericStart
  split
  · rfl
  · simp only [h, Bool.false_eq_true, if_false]
    rfl

theorem maybePrintDownloadStart_unmarked {t : TaskState} (g : GroupState)
    (h : t.status ≠ .pending → t.startAt.isZero = false) :
    (maybePrintDownloadStart p f now t g).1.unmarked = t.unmarked := by
  unfold maybePrintDownloadStart
  split
  · rfl
  · split
    · rfl
    · rename_i hr
      simp only [h (by rw [not_not.1 hr]; decide), Bool.false_eq_true, if_false]
      rfl

theorem renderTaskState_unmarked {st : EngineState} (hs : st.Stamped) (r a : Nat) :
    (renderTaskState p f now st r a).1.unmarked = st.unmarked := by
  unfold renderTaskState
  dsimp only
  by_cases hr : (st.taskHeap r).status = .running
  · rw [if_pos hr]
    have h0 := hs.started r (by rw [hr]; decide)
    cases (st.taskHeap r).kind
    · exact EngineState.unmarked_setTask_eq (maybePrintGenericStart_unmarked p _ h0)
    · exact EngineState.unmarked_setTask_eq (maybePrintDownloadStart_unmarked p f _ fun _ => h0)
  · rw [if_neg hr]
    split_ifs <;> rfl

theorem renderEvent_unmarked {st : EngineState} (hs : st.Stamped) (e : Event) :
    (renderEvent p f now e st).1.unmarked = st.unmarked := by
  unfold renderEvent
  split_ifs
  · rfl
  · split
    · rfl
    · exact EngineState.unmarked_setTask_eq (maybePrintDownloadStart_unmarked p f _ (hs.started _))
  · split
    · rfl
    · exact renderTaskState_unmarked p f hs _ _
  · rfl

end Render

/-! ### Replay -/

theorem Event.stamped_atTime (e : Event) (now : Time) :
    (e.stamped now).atTime = plainNow now e := by
  unfold Event.stamped plainNow
  split <;> rfl

theorem EngineState.applyEvent_stamped (s : EngineState) (clock now t : Time) (e : Event) :
    s.applyEvent clock now (e.stamped t) = s.applyEvent clock now e := by
  unfold Event.stamped
  split <;> rfl

theorem EngineState.applyEvent_clock (s : EngineState) {now : Time} (h : now.isZero = false)
    (c c' : Time) (e : Event) : s.applyEvent c now e = s.applyEvent c' now e := by
  simp only [EngineState.applyEvent, h, Bool.false_eq_true, if_false]

theorem EngineState.applyEvent_sync (s : EngineState) (c now : Time) {e : Event}
    (h : e.type = EventSync) : s.applyEvent c now e = s := by
  simp [EngineState.applyEvent, h, EventSync, EventGroupAdd, EventGroupUpdate, EventGroupClose,
    EventTaskAdd, EventTaskUpdate, EventTaskProgress, EventTaskState]

theorem plainNow_isZero {clock : Time} (h : clock.isZero = false) (e : Event) :
    (plainNow clock e).isZero = false := by
  unfold plainNow
  split
  · exact h
  · exact Bool.eq_false_iff.2 ‹_›

theorem processPlainEvent_plainNow (p : Palette) (f : Formatters) (c : Time) (d : EngineState)
    (e : Event) : processPlainEvent p f c d e =
      if e.type = EventSync then (d, [])
      else renderEvent p f (plainNow c e) e (d.applyEvent c (plainNow c e) e) := rfl

theorem replay_step_unmarked (p : Palette) (f : Formatters) {st d : EngineState}
    (hd : d.Stamped) (hsd : st.unmarked = d.unmarked) {c : Time} (hc : c.isZero = false)
    (clock : Time) (e : Event) :
    (st.applyEvent clock (e.stamped c).atTime (e.stamped c)).unmarked =
        (processPlainEvent p f c d e).1.unmarked ∧ (processPlainEvent p f c d e).1.Stamped := by
  have hn := plainNow_isZero hc e
  rw [Event.stamped_atTime, EngineState.applyEvent_stamped,
    EngineState.applyEvent_clock st hn clock c, processPlainEvent_plainNow]
  split_ifs with hsync
  · rw [EngineState.applyEvent_sync _ _ _ hsync]
    exact ⟨hsd, hd⟩
  · have hd' := hd.applyEvent c hn e
    rw [← EngineState.applyEvent_unmarked, hsd, EngineState.applyEvent_unmarked,
      renderEvent_unmarked p f hd' e]
    exact ⟨rfl, hd'.of_unmarked (renderEvent_unmarked p f hd' e)⟩

theorem replayEvents_stamped (p : Palette) (f : Formatters) {st d : EngineState}
    (hd : d.Stamped) (hsd : st.unmarked = d.unmarked) (clock : Time) (xs : List (Time × Event))
    (h : ∀ x ∈ xs, x.1.isZero = false) :
    (replayEvents st clock (xs.map fun x => x.2.stamped x.1)).unmarked =
      (daemonEngineState p f d xs).unmarked := by
  induction xs generalizing st d with
  | nil => exact hsd
  | cons x xs ih =>
    obtain ⟨hsd', hd'⟩ := replay_step_unmarked p f hd hsd (h x (List.mem_cons_self _ _)) clock x.2
    exact ih hd' hsd' fun y hy => h y (List.mem_cons_of_mem _ hy)

theorem decodeEvent_lines {xs : List (Time × Event)} {lines : List (List Char)}
    (h : List.Forall₂ (fun x line => line ≠ [] ∧ decodeEvent line = (x.2.stamped x.1, none))
      xs lines) :
    lines.map (fun line => (decodeEvent line).1) = xs.map fun x => x.2.stamped x.1 := by
  induction h with
  | nil => rfl
  | cons hl _ ih => simp only [List.map_cons, hl.2, ih]

/-! ### The round trip -/

/-- The run of `TestEventLogSink_WritesAllEvents`: two progress events of task 1, written at
    `time.Unix(1000000, 0)` in UTC and 200 ms later. -/
def progressRun : List (Time × Event) :=
  [(⟨(62135596800 + 1000000) * 1000000000, 0⟩,
      { Event.empty EventTaskProgress with taskID := 1, current := some 1 }),
    (⟨(62135596800 + 1000000) * 1000000000 + 200000000, 0⟩,
      { Event.empty EventTaskProgress with taskID := 1, current := some 2 })]

def subMinuteZoneEvent : Event :=
  { Event.empty EventPrintLines with atTime := ⟨1000000000, 1172⟩ }

def subMinuteZoneLine : List Char :=
  "\x7b\"type\":\"print_lines\",\"at\":\"0001-01-01T00:19:33+00:19\"\x7d".toList

theorem Event.stamped_type (e : Event) (now : Time) : (e.stamped now).type = e.type := by
  unfold Event.stamped
  split <;> rfl

theorem renderEvent_stamped (p : Palette) (f : Formatters) (now t : Time) (e : Event)
    (st : EngineState) : renderEvent p f now (e.stamped t) st = renderEvent p f now e st := by
  unfold Event.stamped
  split <;> rfl

theorem processPlainEvent_stamped (p : Palette) (f : Formatters) {clock : Time}
    (h : clock.isZero = false) (clock' : Time) (st : EngineState) (e : Event) :
    processPlainEvent p f clock' st (e.stamped clock) = processPlainEvent p f clock st e := by
  have hn := plainNow_isZero h e
  simp only [processPlainEvent, Event.stamped_atTime, hn, Bool.false_eq_true, if_false,
    Event.stamped_type, renderEvent_stamped, EngineState.applyEvent_stamped,
    EngineState.applyEvent_clock st hn clock' clock]
  rfl

theorem plainLines_decoded (p : Palette) (f : Formatters) {xs ys : List (Time × Event)}
    {lines : List (List Char)} (hc : ∀ x ∈ xs, x.1.isZero = false)
    (hlines : List.Forall₂ (fun x line => line ≠ [] ∧ decodeEvent line = (x.2.stamped x.1, none))
      xs lines)
    (hy : List.Forall₂ (fun y line => y.2 = (decodeEvent line).1) ys lines) (st : EngineState) :
    plainLines p f st ys = plainLines p f st xs := by
  induction hlines generalizing ys st with
  | nil => cases hy; rfl
  | @cons x line xs lines hl _ ih =>
    cases hy with
    | @cons y _ ys _ hyl hys =>
      obtain ⟨c', e'⟩ := y
      simp only [hl.2] at hyl
      subst hyl
      simp only [plainLines, processPlainEvent_stamped p f (hc x (List.mem_cons_self _ _))]
      rw [ih (fun x hx => hc x (List.mem_cons_of_mem _ hx)) hys]

end TiupPlayground
