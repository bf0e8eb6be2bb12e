import TiupPlayground.Rfc3339

/-!
The world the playground daemon's runtime-file code runs against: the data directory with its
two records, the clock, the answers of `kill(pid, 0)` and of the command server's HTTP
endpoints. Code is written in `Prog`, the free monad of the operations it performs (file-system
calls, `time.Now`, `syscall.Kill`, an HTTP GET), so that one program can be run alone
(`Prog.run`) or one operation at a time, interleaved with other processes.

Each operation is atomic. The data directory is taken to exist (`utils.MkdirAll` succeeds); a
path of it holds a regular file, reached through its inode, or a directory. A directory that
is not writable refuses new entries and removals; a full file system refuses writes.
-/
namespace TiupPlayground

/-- The two records of a data directory, `playgroundPIDFileName` and `playgroundPortFileName`. -/
inductive RuntimeFile where
  | pid
  | port
  deriving DecidableEq, Repr

/-- The errors of the file-system calls, as `os.IsNotExist` and `os.IsExist` tell them apart. -/
inductive FsError where
  | notExist
  | exist
  | permission
  | isDir
  | notEmpty
  | noSpace
  deriving DecidableEq, Repr

structure Inode where
  data : List Char
  modTime : Time
  readable : Bool
  deriving DecidableEq, Repr

inductive Entry where
  | file (ino : Nat)
  | dir (empty : Bool) (modTime : Time)
  deriving DecidableEq, Repr

structure FS where
  writable : Bool
  full : Bool
  entry : RuntimeFile → Option Entry
  inode : Nat → Inode
  nextIno : Nat

namespace FS

/-- `os.ReadFile`. -/
def readFile (fs : FS) (f : RuntimeFile) : Except FsError (List Char) :=
  match fs.entry f with
  | none => .error .notExist
  | some (.dir _ _) => .error .isDir
  | some (.file ino) => if (fs.inode ino).readable then .ok (fs.inode ino).data else .error .permission

/-- `os.Stat`, of which the code reads the modification time. -/
def stat (fs : FS) (f : RuntimeFile) : Except FsError Time :=
  match fs.entry f with
  | none => .error .notExist
  | some (.dir _ modTime) => .ok modTime
  | some (.file ino) => .ok (fs.inode ino).modTime

/-- `os.Remove`: a file, or an empty directory. -/
def remove (fs : FS) (f : RuntimeFile) : Except FsError Unit × FS :=
  match fs.entry f with
  | none => (.error .notExist, fs)
  | some e =>
    if !fs.writable then (.error .permission, fs)
    else if e matches .dir false _ then (.error .notEmpty, fs)
    else (.ok (), { fs with entry := Function.update fs.entry f none })

theorem stat_of_entry {fs : FS} {f : RuntimeFile} (h : fs.entry f ≠ none) :
    ∃ m, fs.stat f = .ok m := by
  unfold stat
  split
  · exact absurd ‹_› h
  · exact ⟨_, rfl⟩
  · exact ⟨_, rfl⟩

theorem remove_entry_other (fs : FS) {f g : RuntimeFile} (h : g ≠ f) :
    (fs.remove f).2.entry g = fs.entry g := by
  unfold remove
  split
  · rfl
  · split_ifs
    · rfl
    · rfl
    · exact Function.update_noteq h _ _

/-- `os.OpenFile` with `O_CREATE|O_EXCL`: a new empty file, or `exist` if the path is taken. -/
def createExcl (fs : FS) (f : RuntimeFile) (now : Time) : Except FsError Nat × FS :=
  match fs.entry f with
  | some _ => (.error .exist, fs)
  | none =>
    if !fs.writable then (.error .permission, fs)
    else (.ok fs.nextIno,
      { fs with entry := Function.update fs.entry f (some (.file fs.nextIno)),
                inode := Function.update fs.inode fs.nextIno ⟨[], now, true⟩,
                nextIno := fs.nextIno + 1 })

/-- Writing a whole record to an open file and closing it. -/
def writeClose (fs : FS) (ino : Nat) (data : List Char) (now : Time) : Except FsError Unit × FS :=
  if fs.full then (.error .noSpace, fs)
  else (.ok (), { fs with inode := Function.update fs.inode ino { fs.inode ino with data, modTime := now } })

end FS

/-- The errno of `kill(pid, 0)`. -/
inductive KillResult where
  | ok
  | eperm
  | esrch
  | other
  deriving DecidableEq, Repr

/-- How an HTTP request fails before a response: the context deadline passed, the connection was
    refused, or anything else. -/
inductive NetError where
  | timeout
  | refused
  | other
  deriving DecidableEq, Repr

/-- `CommandReply` of the command server, as far as the probe reads it. -/
structure CommandReply where
  ok : Bool
  message : List Char
  error : List Char
  deriving DecidableEq, Repr

inductive HttpPath where
  | ping
  | command
  deriving DecidableEq, Repr

/-- A GET's outcome: an error, or a status with the body decoded as a `CommandReply` (`none`
    when the body is not one). -/
inductive HttpResult where
  | error (e : NetError)
  | response (status : Nat) (reply : Option CommandReply)
  deriving DecidableEq, Repr

structure World where
  fs : FS
  clock : Time
  signal : Int → KillResult
  http : Int → HttpPath → HttpResult

/-- The operations of the runtime-file code. `writeClose` writes a record to a file opened by
    `createExcl` and closes it. -/
inductive Op where
  | readFile (f : RuntimeFile)
  | stat (f : RuntimeFile)
  | remove (f : RuntimeFile)
  | createExcl (f : RuntimeFile)
  | writeClose (ino : Nat) (data : List Char)
  | now
  | kill (pid : Int)
  | httpGet (port : Int) (path : HttpPath)
  deriving DecidableEq, Repr

def Op.Result : Op → Type
  | .readFile _ => Except FsError (List Char)
  | .stat _ => Except FsError Time
  | .remove _ => Except FsError Unit
  | .createExcl _ => Except FsError Nat
  | .writeClose _ _ => Except FsError Unit
  | .now => Time
  | .kill _ => KillResult
  | .httpGet _ _ => HttpResult

def World.exec (w : World) : (op : Op) → op.Result × World
  | .readFile f => (w.fs.readFile f, w)
  | .stat f => (w.fs.stat f, w)
  | .remove f => ((w.fs.remove f).1, { w with fs := (w.fs.remove f).2 })
  | .createExcl f => ((w.fs.createExcl f w.clock).1, { w with fs := (w.fs.createExcl f w.clock).2 })
  | .writeClose ino data =>
    ((w.fs.writeClose ino data w.clock).1, { w with fs := (w.fs.writeClose ino data w.clock).2 })
  | .now => (w.clock, w)
  | .kill pid => (w.signal pid, w)
  | .httpGet port path => (w.http port path, w)

/-- Programs over `Op`: done, or an operation and what to do with its answer. -/
inductive Prog (α : Type) where
  | pure (a : α)
  | call (op : Op) (k : op.Result → Prog α)

namespace Prog

def bind {α β : Type} : Prog α → (α → Prog β) → Prog β
  | pure a, f => f a
  | call op k, f => call op fun r => (k r).bind f

instance : Monad Prog where
  pure := pure
  bind := bind

def run {α : Type} : World → Prog α → α × World
  | w, pure a => (a, w)
  | w, call op k => run (w.exec op).2 (k (w.exec op).1)

def next? {α : Type} : Prog α → Option Op
  | pure _ => none
  | call op _ => some op

@[simp] theorem run_pure {α : Type} (w : World) (a : α) : run w (pure a) = (a, w) := rfl

@[simp] theorem run_call {α : Type} (w : World) (op : Op) (k : op.Result → Prog α) :
    run w (call op k) = run (w.exec op).2 (k (w.exec op).1) := rfl

@[simp] theorem pure_eq {α : Type} (a : α) : (Pure.pure a : Prog α) = pure a := rfl

@[simp] theorem bind_eq {α β : Type} (p : Prog α) (f : α → Prog β) : p >>= f = p.bind f := rfl

@[simp] theorem pure_bind {α β : Type} (a : α) (f : α → Prog β) : (pure a).bind f = f a := rfl

@[simp] theorem call_bind {α β : Type} (op : Op) (k : op.Result → Prog α) (f : α → Prog β) :
    (call op k).bind f = call op fun r => (k r).bind f := rfl

theorem run_bind {α β : Type} (w : World) (p : Prog α) (f : α → Prog β) :
    run w (p.bind f) = run (run w p).2 (f (run w p).1) := by
  induction p generalizing w with
  | pure a => rfl
  | call op k ih => exact ih _ _

def ReadOnly {α : Type} (p : Prog α) : Prop := ∀ w, (p.run w).2 = w

theorem run_bind_of_readOnly {α β : Type} {p : Prog α} (hp : p.ReadOnly) (f : α → Prog β)
    (w : World) : (p.bind f).run w = (f (p.run w).1).run w := by
  rw [run_bind, hp]

end Prog

def readFile (f : RuntimeFile) : Prog (Except FsError (List Char)) := .call (.readFile f) .pure
def stat (f : RuntimeFile) : Prog (Except FsError Time) := .call (.stat f) .pure
def remove (f : RuntimeFile) : Prog (Except FsError Unit) := .call (.remove f) .pure
def createExcl (f : RuntimeFile) : Prog (Except FsError Nat) := .call (.createExcl f) .pure
def writeClose (ino : Nat) (data : List Char) : Prog (Except FsError Unit) :=
  .call (.writeClose ino data) .pure
def now : Prog Time := .call .now .pure
def kill (pid : Int) : Prog KillResult := .call (.kill pid) .pure
def httpGet (port : Int) (path : HttpPath) : Prog HttpResult := .call (.httpGet port path) .pure

end TiupPlayground
