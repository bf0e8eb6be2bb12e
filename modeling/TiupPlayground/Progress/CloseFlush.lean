import TiupPlayground.Progress.Delivery

/-!
`UI.Close`'s flush of the partial line. `Close` drains the buffered line and sends it with
`emitForced` before it closes `closeCh`, then waits on `doneCh`. Only the `Close` that wins the
compare-and-swap of `closed` gets past it, `closeCh` stays open while that `Close` drains and
sends, and the consumer closes `doneCh` only after `closeCh`. So the send is never dropped, and
`Close` returns only once the line has been handled; `Sync`'s `emit` of the line it drains, by
contrast, can be dropped (`sync_returns_without_its_drained_line`).
-/
namespace TiupPlayground

namespace Goroutine

def closing : Goroutine → Bool
  | .close .drain | .close (.emit _ _) | .close .close => true
  | _ => false

def draining : Goroutine → Bool
  | .consumer .drain => true
  | _ => false

def forced : Goroutine → Bool
  | .close (.emit _ .load) => false
  | _ => true

inductive FlagEffect (u : UIState) (g : Goroutine) (u' : UIState) (g' : Goroutine) : Prop
  | frame : u'.closed = u.closed → u'.closeCh = u.closeCh →
      (u'.doneCh = true → u.doneCh = true ∨ g.draining = true) → g'.closing = g.closing →
      (g'.draining = true → g.draining = true ∨ u.closeCh = true) → FlagEffect u g u' g'
  | cas : g.closing = false → g'.draining = false → u'.closed = true → u'.closeCh = u.closeCh →
      u'.doneCh = u.doneCh → (g'.closing = true → u.closed = false) → FlagEffect u g u' g'
  | close : g.closing = true → g'.closing = false → g'.draining = false → u'.closed = u.closed →
      u'.closeCh = true → u'.doneCh = u.doneCh → FlagEffect u g u' g'

variable {u u' : UIState} {pick : Bool} {g g' : Goroutine}

theorem emitStep_flags {e : Event} {pc : EmitPC} {pc' : Option EmitPC}
    (h : emitStep u e pick pc = some (pc', u')) :
    u'.closed = u.closed ∧ u'.closeCh = u.closeCh ∧ u'.doneCh = u.doneCh := by
  rcases emitStep_state h with rfl | rfl <;> exact ⟨rfl, rfl, rfl⟩

theorem syncStep_flags {line l : String} {pc pc' : SyncPC}
    (h : syncStep u pick line pc = some (l, pc', u')) :
    u'.closed = u.closed ∧ u'.closeCh = u.closeCh ∧ u'.doneCh = u.doneCh := by
  cases pc with
  | load | drain | register => cases h; exact ⟨rfl, rfl, rfl⟩
  | emit pc =>
    obtain ⟨⟨_, _⟩, he, hx⟩ := Option.map_eq_some'.1 h
    cases hx
    exact emitStep_flags he
  | send id =>
    simp only [syncStep] at h
    split_ifs at h <;> cases h <;> exact ⟨rfl, rfl, rfl⟩
  | wait id =>
    obtain ⟨_, _, hx⟩ := Option.map_eq_some'.1 h
    cases hx
    exact ⟨rfl, rfl, rfl⟩
  | returned => cases h

theorem closeStep_flagEffect {pc pc' : ClosePC} (h : closeStep u pick pc = some (pc', u')) :
    FlagEffect u (.close pc) u' (.close pc') := by
  cases pc with
  | cas =>
    cases h
    exact .cas rfl rfl rfl rfl rfl fun hc => by revert hc; cases u.closed <;> simp [closing]
  | drain =>
    cases h
    exact .frame rfl rfl .inl (by split <;> rfl) nofun
  | emit l pc =>
    obtain ⟨⟨pc'', _⟩, he, hx⟩ := Option.map_eq_some'.1 h
    cases hx
    obtain ⟨h₁, h₂, h₃⟩ := emitStep_flags he
    exact .frame h₁ h₂ (fun hd => .inl (h₃ ▸ hd)) (by cases pc'' <;> rfl) nofun
  | close =>
    cases h
    exact .close rfl rfl rfl rfl rfl rfl
  | wait =>
    simp only [closeStep] at h
    split_ifs at h
    cases h
    exact .frame rfl rfl .inl rfl nofun
  | returned => cases h

theorem consumerStep_flagEffect {pc pc' : ConsumerPC} (h : consumerStep u pick pc = some (pc', u')) :
    FlagEffect u (.consumer pc) u' (.consumer pc') := by
  cases pc with
  | loop =>
    simp only [consumerStep] at h
    split at h
    · split_ifs at h with hc <;> cases h
      · exact .frame rfl rfl .inl rfl fun _ => .inr hc.1
      · exact .frame (by simp) (by simp) (fun hd => .inl (by simpa using hd)) rfl nofun
    · split_ifs at h with hc
      cases h
      exact .frame rfl rfl .inl rfl fun _ => .inr hc
  | drain =>
    simp only [consumerStep] at h
    split at h <;> cases h
    · exact .frame (by simp) (by simp) (fun _ => .inr rfl) rfl fun _ => .inl rfl
    · exact .frame rfl rfl (fun _ => .inr rfl) rfl fun _ => .inl rfl
  | returned => cases h

theorem step_flagEffect (h : g.step u pick = some (g', u')) : FlagEffect u g u' g' := by
  cases g with
  | emitter e pc =>
    cases pc with
    | none => cases h
    | some pc =>
      obtain ⟨⟨_, _⟩, he, hx⟩ := Option.map_eq_some'.1 h
      cases hx
      obtain ⟨h₁, h₂, h₃⟩ := emitStep_flags he
      exact .frame h₁ h₂ (fun hd => .inl (h₃ ▸ hd)) rfl nofun
  | sync line pc =>
    obtain ⟨⟨_, _, _⟩, he, hx⟩ := Option.map_eq_some'.1 h
    cases hx
    obtain ⟨h₁, h₂, h₃⟩ := syncStep_flags he
    exact .frame h₁ h₂ (fun hd => .inl (h₃ ▸ hd)) rfl nofun
  | close pc =>
    obtain ⟨⟨_, _⟩, he, hx⟩ := Option.map_eq_some'.1 h
    cases hx
    exact closeStep_flagEffect he
  | consumer pc =>
    obtain ⟨⟨_, _⟩, he, hx⟩ := Option.map_eq_some'.1 h
    cases hx
    exact consumerStep_flagEffect he

theorem step_forced (hg : g.forced = true) (h : g.step u pick = some (g', u')) :
    g'.forced = true := by
  cases g with
  | emitter e pc =>
    cases pc with
    | none => cases h
    | some pc =>
      obtain ⟨_, -, hx⟩ := Option.map_eq_some'.1 h
      cases hx
      rfl
  | sync | consumer =>
    obtain ⟨_, -, hx⟩ := Option.map_eq_some'.1 h
    cases hx
    rfl
  | close pc =>
    obtain ⟨⟨pc', _⟩, he, hx⟩ := Option.map_eq_some'.1 h
    cases hx
    cases pc with
    | cas | drain => cases he; split <;> rfl
    | close => cases he; rfl
    | wait =>
      simp only [closeStep] at he
      split_ifs at he
      cases he
      rfl
    | returned => cases he
    | emit l pc =>
      obtain ⟨⟨pc'', _⟩, he', hx⟩ := Option.map_eq_some'.1 he
      cases hx
      cases pc with
      | load => simp [forced] at hg
      | poll => cases he'; split <;> rfl
      | send =>
        simp only [emitStep] at he'
        split_ifs at he' <;> cases he' <;> rfl

theorem emitStep_forced_sends {e : Event} {pc : EmitPC} (hch : u.closeCh = false)
    (hpc : pc ≠ .load) (h : emitStep u e pick pc = some (none, u')) :
    u' = { u with queue := u.queue ++ [e] } := by
  cases pc with
  | load => exact absurd rfl hpc
  | poll => simp [emitStep, hch] at h
  | send =>
    simp only [emitStep, hch] at h
    split_ifs at h <;> simp_all

end Goroutine

namespace UISys

structure CloseFlow (s : UISys) : Prop where
  closeCh_closed : s.ui.closeCh = true → s.ui.closed = true
  closing_open : ∀ g ∈ s.threads, g.closing = true → s.ui.closed = true ∧ s.ui.closeCh = false
  closing_one : s.threads.countP Goroutine.closing ≤ 1
  done_closeCh : s.ui.doneCh = true → s.ui.closeCh = true
  draining_closeCh : ∀ g ∈ s.threads, g.draining = true → s.ui.closeCh = true
  forced : ∀ g ∈ s.threads, g.forced = true

variable {s s' : UISys}

theorem Start.closeFlow (h : s.Start) : s.CloseFlow := by
  have hi : ∀ g ∈ s.threads, g.closing = false ∧ g.draining = false ∧ g.forced = true :=
    fun g hg => by
      have := h.threads g hg
      cases g <;> simp_all [Goroutine.initial, Goroutine.closing, Goroutine.draining,
        Goroutine.forced]
  have h0 : s.threads.countP Goroutine.closing = 0 :=
    List.countP_eq_zero.2 fun g hg => by simp [(hi g hg).1]
  refine ⟨fun hc => ?_, fun g hg hc => ?_, by omega, fun hd => ?_, fun g hg hd => ?_,
    fun g hg => (hi g hg).2.2⟩
  · simp [h.closeCh] at hc
  · simp [(hi g hg).1] at hc
  · simp [h.doneCh] at hd
  · simp [(hi g hg).2.1] at hd

theorem CloseFlow.step (hi : s.CloseFlow) (h : Step s s') : s'.CloseFlow := by
  obtain ⟨i, pick, h⟩ := h
  obtain ⟨g, g', hg, hstep, hset⟩ := step?_eq_some h
  have hgm := List.getElem?_mem hg
  have hmem : ∀ x ∈ s'.threads, x ∈ s.threads ∨ x = g' := fun x hx =>
    List.mem_or_eq_of_mem_set (hset ▸ hx)
  have hcount : s'.threads.countP Goroutine.closing + (if g.closing then 1 else 0) =
      s.threads.countP Goroutine.closing + (if g'.closing then 1 else 0) :=
    hset ▸ countP_set_add hg
  have hforced : ∀ x ∈ s'.threads, x.forced = true := fun x hx => by
    rcases hmem x hx with hx | rfl
    · exact hi.forced x hx
    · exact Goroutine.step_forced (hi.forced g hgm) hstep
  have hone := hi.closing_one
  cases Goroutine.step_flagEffect hstep with
  | frame hcl hch hdone hcg hdr =>
    refine ⟨fun hc => ?_, fun x hx hxc => ?_, by rw [hcg] at hcount; omega, fun hd => ?_,
      fun x hx hxd => ?_, hforced⟩
    · rw [hcl]; exact hi.closeCh_closed (hch ▸ hc)
    · rw [hcl, hch]
      rcases hmem x hx with hx | rfl
      · exact hi.closing_open x hx hxc
      · exact hi.closing_open g hgm (hcg ▸ hxc)
    · rw [hch]
      rcases hdone hd with hd | hd
      · exact hi.done_closeCh hd
      · exact hi.draining_closeCh g hgm hd
    · rw [hch]
      rcases hmem x hx with hx | rfl
      · exact hi.draining_closeCh x hx hxd
      · rcases hdr hxd with hd | hc
        · exact hi.draining_closeCh g hgm hd
        · exact hc
  | cas hgc hgd hcl hch hdone hcas =>
    have hopen : g'.closing = true → s.ui.closeCh = false := fun hc => by
      cases hcc : s.ui.closeCh
      · rfl
      · simp [hi.closeCh_closed hcc] at hcas; exact absurd hc (by simp [hcas])
    refine ⟨fun _ => hcl, fun x hx hxc => ⟨hcl, ?_⟩, ?_, fun hd => ?_, fun x hx hxd => ?_,
      hforced⟩
    · rw [hch]
      rcases hmem x hx with hx | rfl
      · exact (hi.closing_open x hx hxc).2
      · exact hopen hxc
    · by_cases hg'c : g'.closing = true
      · have h0 : s.threads.countP Goroutine.closing = 0 := List.countP_eq_zero.2 fun x hx hxc => by
          have := (hi.closing_open x hx hxc).1
          simp [hcas hg'c] at this
        simp only [hgc, hg'c, if_true, Bool.false_eq_true, if_false] at hcount
        omega
      · simp only [hgc, hg'c, Bool.false_eq_true, if_false] at hcount
        omega
    · rw [hch]; exact hi.done_closeCh (hdone ▸ hd)
    · rw [hch]
      rcases hmem x hx with hx | rfl
      · exact hi.draining_closeCh x hx hxd
      · simp [hgd] at hxd
  | close hgc hg'c hgd hcl hch hdone =>
    simp only [hgc, hg'c, if_true, Bool.false_eq_true, if_false] at hcount
    have h0 : s'.threads.countP Goroutine.closing = 0 := by omega
    refine ⟨fun _ => hcl ▸ (hi.closing_open g hgm hgc).1, fun x hx hxc => ?_, by omega,
      fun _ => hch, fun _ _ _ => hch, hforced⟩
    exact absurd (List.countP_pos_iff.2 ⟨x, hx, hxc⟩) (by omega)

theorem Reachable.closeFlow {s₀ s : UISys} (h : Reachable s₀ s) (h0 : s₀.CloseFlow) :
    s.CloseFlow := by
  induction h with
  | refl => exact h0
  | tail _ hst ih => exact ih.step hst

theorem close_returns_after_flushing {s₀ s s' t t' : UISys} (h0 : s₀.Start) (hr : Reachable s₀ s)
    {i : Nat} {pick pick' : Bool} {l : String} {pc : EmitPC}
    (hg : s.threads[i]? = some (.close (.emit l pc))) (hs : s.step? i pick = some s')
    (hc : s'.threads[i]? = some (.close .close)) (ht : Reachable s' t)
    (hw : t.threads[i]? = some (.close .wait)) (hret : t.step? i pick' = some t') :
    printLinesEvent s.ui l ∈ t.ui.handled := by
  have hi := hr.closeFlow h0.closeFlow
  have hgm := List.getElem?_mem hg
  obtain ⟨-, hch⟩ := hi.closing_open _ hgm rfl
  have hdone : s.ui.doneCh = false := by
    cases hd : s.ui.doneCh
    · rfl
    · simp [hi.done_closeCh hd] at hch
  obtain ⟨g, g', hg', hstep, hset⟩ := step?_eq_some hs
  obtain rfl : g = _ := Option.some.inj (hg'.symm.trans hg)
  obtain rfl : g' = .close .close := by
    rw [hset, List.getElem?_set_self (List.getElem?_eq_some_iff.1 hg).1] at hc
    exact Option.some.inj hc
  obtain ⟨⟨_, _⟩, hcs, hx⟩ := Option.map_eq_some'.1 hstep
  cases hx
  obtain ⟨⟨pc'', _⟩, hes, hx⟩ := Option.map_eq_some'.1 hcs
  cases pc'' with
  | some p => cases hx
  | none =>
    cases hx
    have hpc : pc ≠ .load := fun h => by simpa [h, Goroutine.forced] using hi.forced _ hgm
    have hs' := Goroutine.emitStep_forced_sends hch hpc hes
    have hsub := done_after_handling_history ht (by rw [hs']; exact hdone) (wait_done hw hret)
    exact hsub.subset (by simp [hs', UIState.history])

def closeSending : UISys := closeStart.runSchedule [(0, true), (0, true), (0, true)]

theorem close_returns_after_flushing_abc :
    closeStart.Start ∧ Reachable closeStart closeSending ∧
      closeSending.threads[0]? = some (.close (.emit "abc" .send)) ∧
      closeSending.step? 0 true = some closeFlushed ∧
      closeFlushed.threads[0]? = some (.close .close) ∧ Reachable closeFlushed closeDone ∧
      closeDone.threads[0]? = some (.close .wait) ∧
      closeDone.step? 0 true = some (closeDone.runSchedule [(0, true)]) ∧
      printLinesEvent closeSending.ui "abc" ∈ closeDone.ui.handled := by
  have h0 : closeStart.Start := ⟨rfl, rfl, rfl, rfl, rfl, rfl, rfl, by decide, by decide⟩
  have hr : Reachable closeStart closeSending := runSchedule_reachable _ _
  have hg : closeSending.threads[0]? = some (.close (.emit "abc" .send)) := by decide
  have hs : closeSending.step? 0 true = some closeFlushed := by decide
  have hc : closeFlushed.threads[0]? = some (.close .close) := by decide
  have ht : Reachable closeFlushed closeDone := runSchedule_reachable _ _
  have hw : closeDone.threads[0]? = some (.close .wait) := by decide
  have hret : closeDone.step? 0 true = some (closeDone.runSchedule [(0, true)]) := by decide
  exact ⟨h0, hr, hg, hs, hc, ht, hw, hret,
    close_returns_after_flushing h0 hr hg hs hc ht hw hret⟩

end UISys

end TiupPlayground
