import TiupPlayground.Progress.Event

/-!
The goroutines of a plain-mode `UI` around its event channel: emitters (`ui.emit`), `UI.Sync`,
`UI.Close` and the consumer `runPlain`, which hands each event it receives to
`processPlainEvent`. Each step is one atomic action of the Go code: an atomic load or
compare-and-swap of `closed`, a critical section of a mutex, one case of a `select`, a close of
a channel. A `select` with several ready cases takes the one the scheduler picks.

`processPlainEvent` is one step here: a `sync` event fulfils its waiter, any other is written to
the event log and applied; `handled` lists the events it received, in order.
-/
namespace TiupPlayground

def defaultEventBuffer : Nat := 4096

structure UIState where
  closed : Bool
  buf : String
  queue : List Event
  closeCh : Bool
  doneCh : Bool
  nextID : UInt64
  waiters : List UInt64
  fulfilled : List UInt64
  handled : List Event
  clock : Time
  deriving DecidableEq, Repr

/-- `drainBufferedLine`: the buffered partial line without one trailing `\r`. -/
def drainLine (buf : String) : String :=
  if buf.data.getLast? = some '\r' then ⟨buf.data.dropLast⟩ else buf

def UIState.canSend (u : UIState) : Bool := u.queue.length < defaultEventBuffer

/-- `fulfillSync`: the waiter of `id`, if still registered, is removed and its channel closed. -/
def UIState.fulfillSync (u : UIState) (id : UInt64) : UIState :=
  if id ∈ u.waiters then { u with waiters := u.waiters.erase id, fulfilled := id :: u.fulfilled }
  else u

/-- `processPlainEvent`, as far as the channel protocol sees it. -/
def UIState.process (u : UIState) (e : Event) : UIState :=
  let u := { u with handled := u.handled ++ [e] }
  if e.type = EventSync then u.fulfillSync e.syncID else u

/-- Where a call of `ui.emit` or `ui.emitForced` is. -/
inductive EmitPC where
  | load
  | poll
  | send
  deriving DecidableEq, Repr

/-- One step of `ui.emit(e)`: the load of `closed`, the non-blocking poll of `closeCh`, then the
    send racing `closeCh`. `none` when the send blocks, `some (none, _)` when the call returns. -/
def emitStep (u : UIState) (e : Event) (pick : Bool) : EmitPC → Option (Option EmitPC × UIState)
  | .load => some (if u.closed then none else some .poll, u)
  | .poll => some (if u.closeCh then none else some .send, u)
  | .send =>
    if u.canSend ∧ (!u.closeCh ∨ pick) then some (none, { u with queue := u.queue ++ [e] })
    else if u.closeCh then some (none, u)
    else none

def printLinesEvent (u : UIState) (line : String) : Event :=
  { Event.empty EventPrintLines with atTime := u.clock, lines := [line] }

/-- How a `Sync` call returned: before doing anything, on `closeCh` before its barrier was
    sent, or from its wait, on its own waiter, on `doneCh` or on `closeCh`. -/
inductive SyncExit where
  | early
  | closedBeforeSend
  | fulfilled
  | done
  | closed
  deriving DecidableEq, Repr

inductive SyncPC where
  | load
  | drain
  | emit (pc : EmitPC)
  | register
  | send (id : UInt64)
  | wait (id : UInt64)
  | returned (exit : SyncExit)
  deriving DecidableEq, Repr

/-- One step of `UI.Sync`; `line` is the partial line it drained. -/
def syncStep (u : UIState) (pick : Bool) (line : String) : SyncPC → Option (String × SyncPC × UIState)
  | .load => some (line, if u.closed then .returned .early else .drain, u)
  | .drain =>
    let l := drainLine u.buf
    some (l, if l = "" then .register else .emit .load, { u with buf := "" })
  | .emit pc =>
    (emitStep u (printLinesEvent u line) pick pc).map fun (pc', u') =>
      (line, (pc'.map SyncPC.emit).getD .register, u')
  | .register =>
    some (line, .send (u.nextID + 1), { u with nextID := u.nextID + 1, waiters := (u.nextID + 1) :: u.waiters })
  | .send id =>
    if u.closeCh ∧ (!u.canSend ∨ !pick) then
      some (line, .returned .closedBeforeSend, { u with waiters := u.waiters.erase id })
    else if u.canSend then
      some (line, .wait id,
        { u with queue := u.queue ++ [{ Event.empty EventSync with atTime := u.clock, syncID := id }] })
    else none
  | .wait id =>
    let exit :=
      if id ∈ u.fulfilled ∧ (pick ∨ !(u.doneCh ∨ u.closeCh)) then some .fulfilled
      else if u.doneCh then some .done
      else if u.closeCh then some .closed
      else none
    exit.map fun x => (line, .returned x, { u with waiters := u.waiters.erase id })
  | .returned _ => none

inductive ClosePC where
  | cas
  | drain
  | emit (line : String) (pc : EmitPC)
  | close
  | wait
  | returned
  deriving DecidableEq, Repr

/-- One step of `UI.Close`: the compare-and-swap of `closed`, the drain of the partial line and
    its `emitForced`, the close of `closeCh`, then the wait for the consumer. -/
def closeStep (u : UIState) (pick : Bool) : ClosePC → Option (ClosePC × UIState)
  | .cas => some (if u.closed then .returned else .drain, { u with closed := true })
  | .drain =>
    let l := drainLine u.buf
    some (if l = "" then .close else .emit l .poll, { u with buf := "" })
  | .emit l pc =>
    (emitStep u (printLinesEvent u l) pick pc).map fun (pc', u') =>
      ((pc'.map (ClosePC.emit l)).getD .close, u')
  | .close => some (.wait, { u with closeCh := true })
  | .wait => if u.doneCh then some (.returned, u) else none
  | .returned => none

inductive ConsumerPC where
  | loop
  | drain
  | returned
  deriving DecidableEq, Repr

/-- One step of `runPlain`: the `select` on `closeCh` and `eventsCh`, then, once `closeCh` is
    closed, the non-blocking drain of the channel. -/
def consumerStep (u : UIState) (pick : Bool) : ConsumerPC → Option (ConsumerPC × UIState)
  | .loop =>
    match u.queue with
    | e :: rest =>
      if u.closeCh ∧ pick then some (.drain, u) else some (.loop, { u with queue := rest }.process e)
    | [] => if u.closeCh then some (.drain, u) else none
  | .drain =>
    match u.queue with
    | e :: rest => some (.drain, { u with queue := rest }.process e)
    | [] => some (.returned, { u with doneCh := true })
  | .returned => none

inductive Goroutine where
  | emitter (e : Event) (pc : Option EmitPC)
  | sync (line : String) (pc : SyncPC)
  | close (pc : ClosePC)
  | consumer (pc : ConsumerPC)
  deriving DecidableEq, Repr

def Goroutine.step (u : UIState) (pick : Bool) : Goroutine → Option (Goroutine × UIState)
  | .emitter e (some pc) =>
    (emitStep u e pick pc).map fun (pc', u') => (.emitter e pc', u')
  | .emitter _ none => none
  | .sync line pc => (syncStep u pick line pc).map fun (l, pc', u') => (.sync l pc', u')
  | .close pc => (closeStep u pick pc).map fun (pc', u') => (.close pc', u')
  | .consumer pc => (consumerStep u pick pc).map fun (pc', u') => (.consumer pc', u')

structure UISys where
  ui : UIState
  threads : List Goroutine
  deriving DecidableEq, Repr

namespace UISys

/-- Goroutine `i` takes a step, with `pick` choosing among ready `select` cases. -/
def step? (s : UISys) (i : Nat) (pick : Bool) : Option UISys :=
  match s.threads[i]? with
  | none => none
  | some g => (g.step s.ui pick).map fun (g', u') => ⟨u', s.threads.set i g'⟩

def Step (s s' : UISys) : Prop := ∃ i pick, s.step? i pick = some s'

def Reachable (s₀ : UISys) : UISys → Prop := Relation.ReflTransGen Step s₀

def runSchedule (s : UISys) (sched : List (Nat × Bool)) : UISys :=
  sched.foldl (fun s x => (s.step? x.1 x.2).getD s) s

theorem runSchedule_reachable (s : UISys) (sched : List (Nat × Bool)) :
    Reachable s (s.runSchedule sched) := by
  induction sched generalizing s with
  | nil => exact Relation.ReflTransGen.refl
  | cons x sched ih =>
    refine Relation.ReflTransGen.trans ?_ (ih _)
    dsimp only
    cases h : s.step? x.1 x.2 with
    | none => exact Relation.ReflTransGen.refl
    | some s' => exact Relation.ReflTransGen.single ⟨x.1, x.2, h⟩

def syncCloseStart : UISys :=
  ⟨⟨false, "abc", [], false, false, 0, [], [], [], Time.zero⟩,
    [.sync "" .load, .close .cas, .consumer .loop]⟩

/-- `Sync` passes its check of `closed` and drains `abc`; `Close` sets `closed`; `Sync`'s
    `emit` of `abc` sees it and drops the line; `Sync` registers its waiter and sends its
    barrier before `closeCh` closes; the consumer handles the barrier and `Sync` returns on its
    own waiter. -/
def syncCloseSchedule : List (Nat × Bool) :=
  [(0, true), (0, true), (1, true), (0, true), (0, true), (0, true), (2, true), (0, true)]

theorem sync_returns_without_its_drained_line :
    Reachable syncCloseStart (syncCloseStart.runSchedule syncCloseSchedule) ∧
      (syncCloseStart.runSchedule syncCloseSchedule).threads.head? =
        some (.sync "abc" (.returned .fulfilled)) ∧
      (syncCloseStart.runSchedule syncCloseSchedule).ui.handled.map Event.type = [EventSync] :=
  ⟨runSchedule_reachable _ _, by decide⟩

end UISys

end TiupPlayground
