import TiupPlayground.Daemon.PidFile

/-!
`cleanupStaleRuntimeFiles`, which decides whether the records of a data directory belong to a
playground that is gone and removes them if so, with the checks it makes: `isPIDRunning`,
`probePlaygroundCommandServer` and `loadPort`.

Its guarantees: every error return leaves the world as it was, and every removal follows a
judgement that the owner is gone. The port probe is not the conservative check its callers
describe: a probe that fails with anything but a timeout, an unexpected status or body
included, counts as "gone", and the records are removed.
-/
namespace TiupPlayground

def pidFileWriteGracePeriod : Duration := 2 * Second

/-- The errors of `isPIDRunning`: `"invalid pid %d"`, and an errno of `kill` other than
    `EPERM` and `ESRCH`. -/
inductive KillError where
  | invalidPID (pid : Int)
  | errno
  deriving DecidableEq, Repr

def isPIDRunning (pid : Int) : Prog (Bool × Option KillError) :=
  if pid ≤ 0 then .pure (false, some (.invalidPID pid))
  else do
    match ← kill pid with
    | .ok | .eperm => return (true, none)
    | .esrch => return (false, none)
    | .other => return (false, some .errno)

theorem isPIDRunning_readOnly (pid : Int) : (isPIDRunning pid).ReadOnly := by
  intro w
  unfold isPIDRunning
  split_ifs
  · rfl
  · simp only [kill, Prog.bind_eq, Prog.call_bind, Prog.pure_bind, Prog.run_call, World.exec]
    split <;> rfl

/-- The errors of `probePlaygroundCommandServer`: `"invalid port %d"`, a failed request, a body
    that is not a `CommandReply`, `"unexpected ping response"`, `"unexpected probe status: %s"`
    and `"unexpected probe response"`. -/
inductive ProbeError where
  | invalidPort (port : Int)
  | net (e : NetError)
  | decode
  | unexpectedPing
  | unexpectedStatus (status : Nat)
  | unexpectedResponse
  deriving DecidableEq, Repr

/-- `probePlaygroundCommandServer` under the callers' 500 ms context: a ping, then, unless the
    ping timed out or answered 200, a GET of `/command`, which a live server refuses with 405. -/
def probePlaygroundCommandServer (port : Int) : Prog (Bool × Option ProbeError) :=
  if port ≤ 0 then .pure (false, some (.invalidPort port))
  else do
    match ← httpGet port .ping with
    | .error .timeout => return (false, some (.net .timeout))
    | .response 200 none => return (false, some .decode)
    | .response 200 (some reply) =>
      if reply.ok ∧ trimSpace reply.message = "pong".toList then return (true, none)
      else return (false, some .unexpectedPing)
    | _ =>
      match ← httpGet port .command with
      | .error e => return (false, some (.net e))
      | .response _ none => return (false, some .decode)
      | .response status (some reply) =>
        if status ≠ 405 then return (false, some (.unexpectedStatus status))
        else if !reply.ok ∧ reply.error = "method not allowed".toList then return (true, none)
        else return (false, some .unexpectedResponse)

theorem probePlaygroundCommandServer_readOnly (port : Int) :
    (probePlaygroundCommandServer port).ReadOnly := by
  intro w
  unfold probePlaygroundCommandServer
  split_ifs
  · rfl
  · simp only [httpGet, Prog.bind_eq, Prog.call_bind, Prog.pure_bind, Prog.run_call, World.exec]
    split
    all_goals first
      | rfl
      | (split_ifs <;> rfl)
      | (simp only [Prog.run_call, World.exec]; split <;> (try split_ifs) <;> rfl)

def isTimeoutErr : Option ProbeError → Bool
  | some (.net .timeout) => true
  | _ => false

/-- `errors.Is(probeErr, syscall.ECONNREFUSED)`. -/
def isConnRefused : Option ProbeError → Bool
  | some (.net .refused) => true
  | _ => false

inductive LoadPortError where
  | read (e : FsError)
  | notNumber
  deriving DecidableEq, Repr

/-- Modelled from the spec: `loadPort`, whose source is not in the repository, reads the port
    record, which holds the decimal port, with `strconv.Atoi`. -/
def loadPort : Prog (Except LoadPortError Int) := do
  match ← readFile .port with
  | .error e => return .error (.read e)
  | .ok data =>
    match atoi data with
    | some port => return .ok port
    | none => return .error .notNumber

theorem loadPort_readOnly : loadPort.ReadOnly := by
  intro w
  simp only [loadPort, readFile, Prog.bind_eq, Prog.call_bind, Prog.pure_bind, Prog.run_call,
    World.exec]
  split <;> (try split) <;> rfl

/-- The errors of the daemon's runtime-file code, by the message it builds. -/
inductive DaemonError where
  /-- `"data dir is empty"` -/
  | dataDirEmpty
  /-- `"check pid %d"` around an `isPIDRunning` error -/
  | checkPID (pid : Int) (e : KillError)
  /-- `"playground already running (pid=%d)"` -/
  | runningPID (pid : Int)
  /-- `os.Stat`'s error -/
  | stat (e : FsError)
  /-- `"playground is starting (pid file is being written)"` -/
  | starting
  /-- `"playground already running (port=%d)"` -/
  | runningPort (port : Int)
  /-- `"playground command server probe timed out (port=%d)"` -/
  | probeTimeout (port : Int)
  /-- `loadPort`'s error -/
  | loadPort (e : LoadPortError)
  /-- `"tag is empty"` -/
  | tagEmpty
  /-- `"tag %q is already in use"` around a cleanup error -/
  | inUse (tag : List Char) (e : DaemonError)
  /-- `os.OpenFile`'s error -/
  | create (e : FsError)
  /-- the error of writing or closing the new pid record -/
  | write (e : FsError)
  /-- `"timeout waiting for playground to stop"` -/
  | waitTimeout
  deriving DecidableEq, Repr

/-- The tail of `cleanupStaleRuntimeFiles` reached when there is no pid record: the port
    record alone. -/
def cleanupPortRecord : Prog (Except DaemonError Unit) := do
  match ← loadPort with
  | .error e => return if e = .read .notExist then .ok () else .error (.loadPort e)
  | .ok port =>
    if port ≤ 0 then return .ok ()
    else
      let (ok, probeErr) ← probePlaygroundCommandServer port
      if ok ∧ probeErr = none then return .error (.runningPort port)
      else if isTimeoutErr probeErr then return .error (.probeTimeout port)
      else if isConnRefused probeErr then
        let _ ← remove .port
        return .ok ()
      else
        let _ ← remove .port
        return .ok ()

/-- `_ = os.Remove(pidPath)` and `_ = os.Remove(portPath)`, errors ignored. -/
def removeRecords : Prog Unit := do
  let _ ← remove .pid
  let _ ← remove .port

/-- The branch of an unparsable pid record outside the grace window: the port probe as a
    safety net, then both records removed. -/
def cleanupInvalidPIDRecord : Prog (Except DaemonError Unit) := do
  match ← loadPort with
  | .ok port =>
    if 0 < port then
      let (ok, probeErr) ← probePlaygroundCommandServer port
      if ok ∧ probeErr = none then return .error (.runningPort port)
      else if isTimeoutErr probeErr then return .error (.probeTimeout port)
      else
        removeRecords
        return .ok ()
    else
      removeRecords
      return .ok ()
  | .error _ =>
    removeRecords
    return .ok ()

def cleanupStaleRuntimeFiles (dataDir : List Char) : Prog (Except DaemonError Unit) :=
  if trimSpace dataDir = [] then .pure (.error .dataDirEmpty)
  else do
    match ← readPIDFile .pid with
    | .ok pid =>
      let (running, runErr) ← isPIDRunning pid.pid
      match runErr with
      | some e => return .error (.checkPID pid.pid e)
      | none =>
        if running then return .error (.runningPID pid.pid)
        else
          removeRecords
          return .ok ()
    | .error err =>
      if err = .read .notExist then cleanupPortRecord
      else
        match ← stat .pid with
        | .error statErr =>
          if statErr = .notExist then cleanupPortRecord else return .error (.stat statErr)
        | .ok modTime =>
          let age := (← now).sub modTime
          if 0 ≤ age ∧ age < pidFileWriteGracePeriod then return .error .starting
          else cleanupInvalidPIDRecord

/-- A port record whose server answers `/ping` with 404 and `/command` with 500: the probe
    fails with an unexpected status, not a timeout, and the port record is removed. -/
theorem cleanup_removes_port_after_unexpected_status :
    let w : World := ⟨⟨true, false, fun f => if f = .port then some (.file 0) else none,
      fun _ => ⟨"4000".toList, Time.zero, true⟩, 1⟩, Time.zero, fun _ => .esrch,
      fun _ path => if path = .ping then .response 404 none
        else .response 500 (some ⟨false, [], "internal error".toList⟩)⟩
    w.fs.entry .port = some (.file 0) ∧
      ((probePlaygroundCommandServer 4000).run w).1 = (false, some (.unexpectedStatus 500)) ∧
      ((cleanupStaleRuntimeFiles "/data".toList).run w).1.toOption = some () ∧
      ((cleanupStaleRuntimeFiles "/data".toList).run w).2.fs.entry .port = none := by
  decide

end TiupPlayground
