import TiupPlayground.Daemon.System

/-!
The retry loop of `claimPlaygroundPIDFile` has no bound. A stale record that cannot be removed
keeps it going: `cleanupStaleRuntimeFiles` finds the recorded process dead, ignores the failed
`os.Remove` and returns nil, and the exclusive create fails with "exists" again. Here the data
directory is not writable, and a claimant alone in it never returns, whatever the clock does.
-/
namespace TiupPlayground

def readOnlyWorld : World where
  fs := ⟨false, false, fun f => if f = .pid then some (.file 0) else none,
    fun _ => ⟨pidRecord 99 Time.zero "t".toList, Time.zero, true⟩, 1⟩
  clock := Time.zero
  signal := fun pid => if pid = 1 then .ok else .esrch
  http := fun _ _ => .error .refused

def readOnlyStart : Sys := ⟨"/data".toList, readOnlyWorld,
  [⟨1, true, .claimant "t".toList (claimPlaygroundPIDFile "/data".toList "t".toList)⟩]⟩

def loopPhase (i : Nat) : ClaimPhase :=
  (fun phase => (phase.step 1 "/data".toList "t".toList readOnlyWorld).1)^[i]
    (.cleanup (cleanupStaleRuntimeFiles "/data".toList))

theorem loopPhase_step (c : Time) {i : Nat} (hi : i < 7) :
    (loopPhase i).step 1 "/data".toList "t".toList { readOnlyWorld with clock := c } =
      (loopPhase ((i + 1) % 7), { readOnlyWorld with clock := c }) := by
  interval_cases i <;> rfl

theorem loopPhase_returned {i : Nat} (hi : i < 7) : (loopPhase i).returned = false := by
  interval_cases i <;> rfl

def LoopInv (s : Sys) : Prop :=
  ∃ i < 7, (∃ c, s = ⟨"/data".toList, { readOnlyWorld with clock := c },
      [⟨1, true, .claimant "t".toList (loopPhase i)⟩]⟩) ∨
    ∃ w, s = ⟨"/data".toList, w, [⟨1, false, .claimant "t".toList (loopPhase i)⟩]⟩

theorem loopInv_step {s s' : Sys} (h : Sys.Step s s') (hs : LoopInv s) : LoopInv s' := by
  obtain ⟨i, hi, ⟨c, rfl⟩ | ⟨w, rfl⟩⟩ := hs
  · cases h with
    | proc j =>
      cases j with
      | zero =>
        refine ⟨(i + 1) % 7, Nat.mod_lt _ (by norm_num), .inl ⟨c, ?_⟩⟩
        simp only [Sys.stepProc, Role.step, List.getElem?_cons_zero, if_true, loopPhase_step c hi,
          List.set_cons_zero]
      | succ j => exact ⟨i, hi, .inl ⟨c, rfl⟩⟩
    | tick d => exact ⟨i, hi, .inl ⟨c.add d, rfl⟩⟩
    | crash j =>
      cases j with
      | zero => exact ⟨i, hi, .inr ⟨_, rfl⟩⟩
      | succ j => exact ⟨i, hi, .inl ⟨c, rfl⟩⟩
  · cases h with
    | proc j => cases j <;> exact ⟨i, hi, .inr ⟨w, rfl⟩⟩
    | tick d => exact ⟨i, hi, .inr ⟨_, rfl⟩⟩
    | crash j => cases j <;> exact ⟨i, hi, .inr ⟨_, rfl⟩⟩

def Proc.returned (p : Proc) : Bool :=
  match p.role with
  | .claimant _ phase => phase.returned
  | .waiter _ => false

theorem claim_loop_spins_on_unremovable_record (s : Sys) (h : Sys.Reachable readOnlyStart s) :
    s.procs.map Proc.returned = [false] := by
  have inv : LoopInv s := by
    induction h with
    | refl => exact ⟨0, by norm_num, .inl ⟨Time.zero, rfl⟩⟩
    | tail _ step ih => exact loopInv_step step ih
  obtain ⟨i, hi, ⟨c, rfl⟩ | ⟨w, rfl⟩⟩ := inv <;> simp [Proc.returned, loopPhase_returned hi]

theorem claim_loop_spins_after_three_rounds :
    Sys.Reachable readOnlyStart (readOnlyStart.runSchedule (List.replicate 21 0)) ∧
      (readOnlyStart.runSchedule (List.replicate 21 0)).procs.map Proc.returned = [false] :=
  ⟨Sys.runSchedule_reachable _ _,
    claim_loop_spins_on_unremovable_record _ (Sys.runSchedule_reachable _ _)⟩

end TiupPlayground
