import TiupPlayground.Daemon.Claim

/-!
Processes sharing one data directory: claimants and waiters, each a machine of `Claim`, run
one operation at a time in any order, while the clock advances and processes die. A dead
process takes no more steps, and `kill(pid, 0)` reports its pid gone.
-/
namespace TiupPlayground

inductive Role where
  | claimant (tag : List Char) (phase : ClaimPhase)
  | waiter (phase : WaitPhase)

structure Proc where
  pid : Int
  alive : Bool
  role : Role

structure Sys where
  dataDir : List Char
  world : World
  procs : List Proc

def Role.step (pid : Int) (dataDir : List Char) (w : World) : Role → Role × World
  | .claimant tag phase =>
    (.claimant tag (phase.step pid dataDir tag w).1, (phase.step pid dataDir tag w).2)
  | .waiter phase => (.waiter (phase.step w).1, (phase.step w).2)

def Proc.holds (p : Proc) : Bool :=
  match p.role with
  | .claimant _ .holding => p.alive
  | _ => false

namespace Sys

def stepProc (s : Sys) (i : Nat) : Sys :=
  match s.procs[i]? with
  | some p =>
    if p.alive then
      { s with world := (p.role.step p.pid s.dataDir s.world).2,
               procs := s.procs.set i { p with role := (p.role.step p.pid s.dataDir s.world).1 } }
    else s
  | none => s

def crash (s : Sys) (i : Nat) : Sys :=
  match s.procs[i]? with
  | some p =>
    { s with world := { s.world with signal := Function.update s.world.signal p.pid .esrch },
             procs := s.procs.set i { p with alive := false } }
  | none => s

def tick (s : Sys) (d : Nat) : Sys :=
  { s with world := { s.world with clock := s.world.clock.add d } }

inductive Step : Sys → Sys → Prop
  | proc (s : Sys) (i : Nat) : Step s (s.stepProc i)
  | tick (s : Sys) (d : Nat) : Step s (s.tick d)
  | crash (s : Sys) (i : Nat) : Step s (s.crash i)

def Reachable (s₀ : Sys) : Sys → Prop := Relation.ReflTransGen Step s₀

def runSchedule (s : Sys) (sched : List Nat) : Sys := sched.foldl stepProc s

theorem runSchedule_reachable (s : Sys) (sched : List Nat) : Reachable s (s.runSchedule sched) := by
  induction sched generalizing s with
  | nil => exact Relation.ReflTransGen.refl
  | cons i sched ih => exact Relation.ReflTransGen.head (Step.proc s i) (ih (s.stepProc i))

def raceStart : Sys where
  dataDir := "/data".toList
  world :=
    { fs := ⟨true, false, fun f => if f = .pid then some (.file 0) else none,
        fun _ => ⟨pidRecord 99 Time.zero "t".toList, Time.zero, true⟩, 1⟩
      clock := Time.zero
      signal := fun pid => if pid = 1 ∨ pid = 2 then .ok else .esrch
      http := fun _ _ => .error .refused }
  procs := [⟨1, true, .claimant "t".toList (claimPlaygroundPIDFile "/data".toList "t".toList)⟩,
    ⟨2, true, .claimant "t".toList (claimPlaygroundPIDFile "/data".toList "t".toList)⟩]

/-- Process 2 reads the stale record and finds 99 dead. Process 1 does the same, removes the
    record, creates its own (inode 1) and holds the claim. Process 2 then removes the pid path,
    now process 1's record, creates its own (inode 2) and holds the claim as well. -/
def raceSchedule : List Nat := [1, 1, 0, 0, 0, 0, 0, 0, 0, 0, 0, 1, 1, 1, 1, 1, 1, 1]

set_option maxRecDepth 4000 in
theorem claim_race_two_live_holders :
    Reachable raceStart (raceStart.runSchedule raceSchedule) ∧
      (raceStart.runSchedule raceSchedule).procs.map Proc.holds = [true, true] ∧
      (raceStart.runSchedule raceSchedule).world.fs.entry .pid = some (.file 2) ∧
      ((raceStart.runSchedule raceSchedule).world.fs.inode 1).data =
        pidRecord 1 Time.zero "t".toList ∧
      ((raceStart.runSchedule raceSchedule).world.fs.inode 2).data =
        pidRecord 2 Time.zero "t".toList :=
  ⟨runSchedule_reachable _ _, by decide⟩

end Sys

end TiupPlayground
