import TiupPlayground.Daemon.Cleanup

/-!
`claimPlaygroundPIDFile` and `waitPlaygroundStopped`, the two loops over the data directory.
A call is a machine over phases: the program it is running (a cleanup, one attempt of the
exclusive create, one pass of the polling loop) and where the loop goes when that program
returns. One `step` performs one operation, so calls of several processes can interleave.

`time.Sleep` between two polls is not modelled: a waiter may poll again at once, which only
adds interleavings.
-/
namespace TiupPlayground

inductive AttemptResult where
  | acquired
  | taken
  | failed (e : DaemonError)
  deriving DecidableEq, Repr

/-- The body of the claim loop: the exclusive create, then the record written and the file
    closed; a failed write removes the path again. -/
def claimAttempt (pid : Int) (tag : List Char) : Prog AttemptResult := do
  match ← createExcl .pid with
  | .ok f =>
    let t ← now
    match ← writeClose f (pidRecord pid t tag) with
    | .ok () => return .acquired
    | .error e =>
      let _ ← remove .pid
      return .failed (.write e)
  | .error e => return if e = .exist then .taken else .failed (.create e)

/-- Where a call of `claimPlaygroundPIDFile` is. `holding` is the return of a release
    function not yet called; calling it is one step, `_ = os.Remove(pidPath)`. -/
inductive ClaimPhase where
  | cleanup (k : Prog (Except DaemonError Unit))
  | attempt (k : Prog AttemptResult)
  | holding
  | released
  | failed (e : DaemonError)

/-- The call as it starts: the checks of its arguments, then the first cleanup. -/
def claimPlaygroundPIDFile (dataDir tag : List Char) : ClaimPhase :=
  if trimSpace dataDir = [] then .failed .dataDirEmpty
  else if trimSpace tag = [] then .failed .tagEmpty
  else .cleanup (cleanupStaleRuntimeFiles dataDir)

def ClaimPhase.returned : ClaimPhase → Bool
  | .holding | .released | .failed _ => true
  | _ => false

/-- One step of a claimant with process id `pid`. -/
def ClaimPhase.step (pid : Int) (dataDir tag : List Char) (w : World) :
    ClaimPhase → ClaimPhase × World
  | .cleanup (.call op k) => (.cleanup (k (w.exec op).1), (w.exec op).2)
  | .cleanup (.pure (.ok ())) => (.attempt (claimAttempt pid tag), w)
  | .cleanup (.pure (.error e)) => (.failed (.inUse tag e), w)
  | .attempt (.call op k) => (.attempt (k (w.exec op).1), (w.exec op).2)
  | .attempt (.pure .acquired) => (.holding, w)
  | .attempt (.pure .taken) => (.cleanup (cleanupStaleRuntimeFiles dataDir), w)
  | .attempt (.pure (.failed e)) => (.failed e, w)
  | .holding => (.released, (w.exec (.remove .pid)).2)
  | .released => (.released, w)
  | .failed e => (.failed e, w)

/-- One pass of the polling loop of `waitPlaygroundStopped`: `true` when it returns nil, the
    playground judged stopped. -/
def waitIteration : Prog Bool := do
  match ← readPIDFile .pid with
  | .error err =>
    if err = .read .notExist then return true
    else
      match ← stat .pid with
      | .error statErr => return decide (statErr = .notExist)
      | .ok modTime =>
        let age := (← now).sub modTime
        if pidFileWriteGracePeriod ≤ age then
          let stillRunning ← do
            match ← loadPort with
            | .ok port =>
              if 0 < port then
                let (ok, probeErr) ← probePlaygroundCommandServer port
                pure (decide (ok = true ∧ probeErr = none) || isTimeoutErr probeErr)
              else pure false
            | .error _ => pure false
          if !stillRunning then
            removeRecords
            return true
          else return false
        else return false
  | .ok pid =>
    let (running, runErr) ← isPIDRunning pid.pid
    if runErr = none ∧ running = false then
      let _ ← remove .pid
      return true
    else return false

/-- Where a call of `waitPlaygroundStopped` is. -/
inductive WaitPhase where
  | start (timeout : Duration)
  | poll (deadline : Time) (k : Prog Bool)
  | check (deadline : Time)
  | stopped
  | failed (e : DaemonError)

def waitPlaygroundStopped (dataDir : List Char) (timeout : Duration) : WaitPhase :=
  if trimSpace dataDir = [] then .failed .dataDirEmpty
  else .start (if timeout ≤ 0 then 60 * Second else timeout)

def WaitPhase.step (w : World) : WaitPhase → WaitPhase × World
  | .start timeout => (.poll (w.clock.add timeout) waitIteration, w)
  | .poll deadline (.call op k) => (.poll deadline (k (w.exec op).1), (w.exec op).2)
  | .poll _ (.pure true) => (.stopped, w)
  | .poll deadline (.pure false) => (.check deadline, w)
  | .check deadline =>
    if w.clock.after deadline then (.failed .waitTimeout, w) else (.poll deadline waitIteration, w)
  | .stopped => (.stopped, w)
  | .failed e => (.failed e, w)

end TiupPlayground
