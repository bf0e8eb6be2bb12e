import TiupPlayground.Progress.Delivery

/-!
`UI.Sync`'s waiters do not leak. `Sync` registers a waiter under the id it takes before it
sends its barrier, and removes it when it returns (`defer ui.removeSyncWaiter(id)`), on
whichever channel; `fulfillSync` removes it earlier when the barrier is handled. So over every
interleaving the waiters are among the ids of the `Sync` calls between their registration and
their return, each at most as often as those calls hold it, whether or not ids repeat: once no
`Sync` is in flight, no waiter is left.
-/
namespace TiupPlayground

def Goroutine.heldID : Goroutine → Option UInt64
  | .sync _ (.send id) | .sync _ (.wait id) => some id
  | _ => none

namespace UIState

theorem fulfillSync_waiters_count (u : UIState) (id x : UInt64) :
    (u.fulfillSync id).waiters.count x ≤ u.waiters.count x := by
  unfold fulfillSync
  split_ifs
  · simp only [List.count_erase]
    exact Nat.sub_le _ _
  · exact le_rfl

theorem process_waiters_count (u : UIState) (e : Event) (x : UInt64) :
    (u.process e).waiters.count x ≤ u.waiters.count x := by
  unfold process
  dsimp only
  split_ifs
  · exact fulfillSync_waiters_count _ _ x
  · exact le_rfl

end UIState

open UIState

section Steps

variable {u u' : UIState} {pick : Bool}

theorem emitStep_waiters {e : Event} {pc : EmitPC} {pc' : Option EmitPC}
    (h : emitStep u e pick pc = some (pc', u')) : u'.waiters = u.waiters := by
  rcases emitStep_state h with rfl | rfl <;> rfl

theorem closeStep_waiters {pc pc' : ClosePC} (h : closeStep u pick pc = some (pc', u')) :
    u'.waiters = u.waiters := by
  cases pc with
  | cas | drain | close => cases h; rfl
  | emit l pc =>
    obtain ⟨⟨_, _⟩, he, hx⟩ := Option.map_eq_some'.1 h
    cases hx
    exact emitStep_waiters he
  | wait =>
    simp only [closeStep] at h
    split_ifs at h
    cases h
    rfl
  | returned => cases h

theorem consumerStep_waiters {pc pc' : ConsumerPC} (h : consumerStep u pick pc = some (pc', u'))
    (x : UInt64) : u'.waiters.count x ≤ u.waiters.count x := by
  cases pc with
  | loop =>
    simp only [consumerStep] at h
    split at h
    · split_ifs at h <;> cases h
      · exact le_rfl
      · exact process_waiters_count _ _ x
    · split_ifs at h
      cases h
      exact le_rfl
  | drain =>
    simp only [consumerStep] at h
    split at h <;> cases h
    · exact process_waiters_count _ _ x
    · exact le_rfl
  | returned => cases h

theorem syncStep_waiters {line l : String} {pc pc' : SyncPC}
    (h : syncStep u pick line pc = some (l, pc', u')) (x : UInt64) :
    u'.waiters.count x ≤
      u.waiters.count x + (if (Goroutine.sync l pc').heldID == some x then 1 else 0) -
        (if (Goroutine.sync line pc).heldID == some x then 1 else 0) := by
  cases pc with
  | load | drain => cases h; split <;> simp [Goroutine.heldID]
  | emit pc =>
    obtain ⟨⟨pc'', _⟩, he, hx⟩ := Option.map_eq_some'.1 h
    cases hx
    cases pc'' <;> simp [Goroutine.heldID, emitStep_waiters he]
  | register => cases h; simp [Goroutine.heldID, List.count_cons]
  | send id =>
    simp only [syncStep] at h
    split_ifs at h <;> cases h <;> simp [Goroutine.heldID, List.count_erase]
  | wait id =>
    obtain ⟨_, _, hx⟩ := Option.map_eq_some'.1 h
    cases hx
    simp [Goroutine.heldID, List.count_erase]
  | returned => cases h

end Steps

namespace Goroutine

variable {u u' : UIState} {pick : Bool} {g g' : Goroutine}

theorem step_waiters (h : g.step u pick = some (g', u')) (x : UInt64) :
    u'.waiters.count x ≤ u.waiters.count x + (if g'.heldID == some x then 1 else 0) -
      (if g.heldID == some x then 1 else 0) := by
  cases g with
  | emitter e pc =>
    cases pc with
    | none => cases h
    | some pc =>
      obtain ⟨⟨_, _⟩, he, hx⟩ := Option.map_eq_some'.1 h
      cases hx
      simp [heldID, emitStep_waiters he]
  | sync line pc =>
    obtain ⟨⟨_, _, _⟩, he, hx⟩ := Option.map_eq_some'.1 h
    cases hx
    exact syncStep_waiters he x
  | close pc =>
    obtain ⟨⟨_, _⟩, he, hx⟩ := Option.map_eq_some'.1 h
    cases hx
    simp [heldID, closeStep_waiters he]
  | consumer pc =>
    obtain ⟨⟨_, _⟩, he, hx⟩ := Option.map_eq_some'.1 h
    cases hx
    simpa [heldID] using consumerStep_waiters he x

end Goroutine

namespace UISys

def WaitersHeld (s : UISys) : Prop :=
  ∀ x, s.ui.waiters.count x ≤ s.threads.countP (·.heldID == some x)

variable {s s' : UISys}

theorem WaitersHeld.step (hi : s.WaitersHeld) (h : Step s s') : s'.WaitersHeld := by
  obtain ⟨i, pick, h⟩ := h
  obtain ⟨g, g', hg, hstep, hset⟩ := step?_eq_some h
  intro x
  have hcount : s'.threads.countP (·.heldID == some x) + (if g.heldID == some x then 1 else 0) =
      s.threads.countP (·.heldID == some x) + (if g'.heldID == some x then 1 else 0) :=
    hset ▸ countP_set_add hg
  have := Goroutine.step_waiters hstep x
  have := hi x
  omega

theorem Reachable.waitersHeld {s₀ s : UISys} (h : Reachable s₀ s) (h0 : s₀.WaitersHeld) :
    s.WaitersHeld := by
  induction h with
  | refl => exact h0
  | tail _ hst ih => exact ih.step hst

def syncAbandonStart : UISys :=
  ⟨⟨false, "", [], false, false, 0, [], [], [], Time.zero⟩,
    [.sync "" .load, .close .cas, .consumer .loop]⟩

/-- `Sync` registers its waiter 1; `Close` closes `closeCh`; `Sync` gives up sending its barrier
    and returns. -/
def syncAbandonSchedule : List (Nat × Bool) :=
  [(0, true), (0, true), (0, true), (1, true), (1, true), (1, true), (0, false)]

end UISys

end TiupPlayground
