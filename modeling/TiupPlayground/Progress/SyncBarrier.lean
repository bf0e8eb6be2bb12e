import TiupPlayground.Progress.Delivery

/-!
`UI.Sync`'s guarantee: when it returns on its own waiter, the consumer has handled its barrier
and every event that entered the channel before it. The waiter is closed by `fulfillSync` for
the handled barrier's id, so this rests on ids being unique: each `Sync` takes its id from the
atomic counter `nextID` once, sends at most one barrier with it, and ids above `nextID` are
unused. Ids are `uint64`, so uniqueness holds while fewer than `2^64` calls are made, and
emitters must not send barriers of their own (`Group` and `Task` never build one; a replayed
event log holds none, as `processPlainEvent` logs every event but barriers).
-/
namespace TiupPlayground

def Event.isBarrier (id : UInt64) (e : Event) : Bool := e.type == EventSync && e.syncID == id

theorem printLinesEvent_not_barrier (u : UIState) (line : String) (id : UInt64) :
    (printLinesEvent u line).isBarrier id = false := by
  simp [Event.isBarrier, printLinesEvent, Event.empty, EventPrintLines, EventSync]

namespace Goroutine

def sendingID : Goroutine → Option UInt64
  | .sync _ (.send id) => some id
  | _ => none

def waitingID : Goroutine → Option UInt64
  | .sync _ (.wait id) => some id
  | _ => none

def unregistered : Goroutine → Bool
  | .sync _ .load | .sync _ .drain | .sync _ (.emit _) | .sync _ .register => true
  | _ => false

def sendsNoBarrier : Goroutine → Bool
  | .emitter e _ => e.type != EventSync
  | _ => true

end Goroutine

def UIState.barriers (u : UIState) (id : UInt64) : Nat := u.history.countP (Event.isBarrier id)

theorem UIState.barriers_send (u : UIState) (e : Event) (id : UInt64) :
    { u with queue := u.queue ++ [e] }.barriers id = u.barriers id + (if e.isBarrier id then 1 else 0) := by
  simp [UIState.barriers, UIState.history, List.countP_append, List.countP_cons, Nat.add_assoc]

namespace Goroutine

inductive SyncEffect (u : UIState) (g : Goroutine) (u' : UIState) (g' : Goroutine) : Prop
  | other : g.sendingID = none → g'.sendingID = none → g'.waitingID = none →
      (g'.unregistered = true → g.unregistered = true) → u'.nextID = u.nextID →
      (∀ id, u'.barriers id = u.barriers id) → SyncEffect u g u' g'
  | register : g.unregistered = true → g'.unregistered = false → g.sendingID = none →
      g'.sendingID = some (u.nextID + 1) → g'.waitingID = none → u'.nextID = u.nextID + 1 →
      (∀ id, u'.barriers id = u.barriers id) → SyncEffect u g u' g'
  | abandon (id : UInt64) : g.sendingID = some id → g'.sendingID = none → g'.waitingID = none →
      g'.unregistered = false → u'.nextID = u.nextID →
      (∀ id, u'.barriers id = u.barriers id) → SyncEffect u g u' g'
  | send (id : UInt64) : g.sendingID = some id → g'.sendingID = none → g'.waitingID = some id →
      g'.unregistered = false → u'.nextID = u.nextID →
      (∀ id', u'.barriers id' = u.barriers id' + (if id' = id then 1 else 0)) →
      SyncEffect u g u' g'

variable {u u' : UIState} {pick : Bool} {g g' : Goroutine}

theorem emitStep_barriers {e : Event} {pc : EmitPC} {pc' : Option EmitPC}
    (he : ∀ id, e.isBarrier id = false) (h : emitStep u e pick pc = some (pc', u')) :
    u'.nextID = u.nextID ∧ ∀ id, u'.barriers id = u.barriers id := by
  rcases emitStep_state h with rfl | rfl
  · exact ⟨rfl, fun _ => rfl⟩
  · exact ⟨rfl, fun id => by simp [UIState.barriers_send, he id]⟩

theorem consumerStep_barriers {pc pc' : ConsumerPC} (h : consumerStep u pick pc = some (pc', u')) :
    u'.nextID = u.nextID ∧ ∀ id, u'.barriers id = u.barriers id := by
  cases pc with
  | loop =>
    simp only [consumerStep] at h
    split at h
    · split_ifs at h <;> cases h
      · exact ⟨rfl, fun _ => rfl⟩
      · exact ⟨by simp, fun _ => by simp [UIState.barriers, UIState.history, ‹u.queue = _›]⟩
    · split_ifs at h
      cases h
      exact ⟨rfl, fun _ => rfl⟩
  | drain =>
    simp only [consumerStep] at h
    split at h <;> cases h
    · exact ⟨by simp, fun _ => by simp [UIState.barriers, UIState.history, ‹u.queue = _›]⟩
    · exact ⟨rfl, fun _ => rfl⟩
  | returned => cases h

theorem syncStep_effect {line l : String} {pc pc' : SyncPC}
    (h : syncStep u pick line pc = some (l, pc', u')) :
    SyncEffect u (.sync line pc) u' (.sync l pc') := by
  cases pc with
  | load | drain =>
    cases h
    exact .other rfl (by split <;> rfl) (by split <;> rfl) (fun _ => rfl) rfl fun _ => rfl
  | emit pc =>
    obtain ⟨⟨pc'', _⟩, he, hx⟩ := Option.map_eq_some'.1 h
    cases hx
    obtain ⟨hn, hb⟩ := emitStep_barriers (printLinesEvent_not_barrier u line) he
    exact .other rfl (by cases pc'' <;> rfl) (by cases pc'' <;> rfl) (fun _ => rfl) hn hb
  | register =>
    cases h
    exact .register rfl rfl rfl rfl rfl rfl fun _ => rfl
  | send id =>
    simp only [syncStep] at h
    split_ifs at h <;> cases h
    · exact .abandon id rfl rfl rfl rfl rfl fun _ => rfl
    · refine .send id rfl rfl rfl rfl rfl fun id' => ?_
      simp only [UIState.barriers_send, Event.isBarrier, Event.empty, EventSync, beq_self_eq_true,
        Bool.true_and, beq_iff_eq]
      split_ifs with h₁ h₂ h₂ <;> first | rfl | exact absurd h₁.symm h₂ | exact absurd h₂.symm h₁
  | wait id =>
    obtain ⟨_, _, hx⟩ := Option.map_eq_some'.1 h
    cases hx
    exact .other rfl rfl rfl (fun h => h) rfl fun _ => rfl
  | returned => cases h

theorem closeStep_effect {pc pc' : ClosePC} (h : closeStep u pick pc = some (pc', u')) :
    SyncEffect u (.close pc) u' (.close pc') := by
  have hq : u'.nextID = u.nextID ∧ ∀ id, u'.barriers id = u.barriers id := by
    cases pc with
    | cas | drain | close => cases h; exact ⟨rfl, fun _ => rfl⟩
    | emit l pc =>
      obtain ⟨⟨_, _⟩, he, hx⟩ := Option.map_eq_some'.1 h
      cases hx
      exact emitStep_barriers (printLinesEvent_not_barrier u l) he
    | wait =>
      simp only [closeStep] at h
      split_ifs at h
      cases h
      exact ⟨rfl, fun _ => rfl⟩
    | returned => cases h
  exact .other rfl rfl rfl nofun hq.1 hq.2

theorem step_syncEffect (hg : g.sendsNoBarrier = true) (h : g.step u pick = some (g', u')) :
    SyncEffect u g u' g' := by
  cases g with
  | emitter e pc =>
    cases pc with
    | none => cases h
    | some pc =>
      obtain ⟨⟨_, _⟩, he, hx⟩ := Option.map_eq_some'.1 h
      cases hx
      have hnb : ∀ id, e.isBarrier id = false := fun id => by
        simp only [sendsNoBarrier, bne_iff_ne, ne_eq] at hg
        simp [Event.isBarrier, hg]
      obtain ⟨hn, hb⟩ := emitStep_barriers hnb he
      exact .other rfl rfl rfl nofun hn hb
  | sync line pc =>
    obtain ⟨⟨_, _, _⟩, he, hx⟩ := Option.map_eq_some'.1 h
    cases hx
    exact syncStep_effect he
  | close pc =>
    obtain ⟨⟨_, _⟩, he, hx⟩ := Option.map_eq_some'.1 h
    cases hx
    exact closeStep_effect he
  | consumer pc =>
    obtain ⟨⟨_, _⟩, he, hx⟩ := Option.map_eq_some'.1 h
    cases hx
    obtain ⟨hn, hb⟩ := consumerStep_barriers he
    exact .other rfl rfl rfl nofun hn hb

theorem step_sendsNoBarrier (hg : g.sendsNoBarrier = true) (h : g.step u pick = some (g', u')) :
    g'.sendsNoBarrier = true := by
  cases g with
  | emitter e pc =>
    cases pc with
    | none => cases h
    | some pc =>
      obtain ⟨⟨_, _⟩, -, hx⟩ := Option.map_eq_some'.1 h
      cases hx
      exact hg
  | sync | close | consumer =>
    obtain ⟨_, -, hx⟩ := Option.map_eq_some'.1 h
    cases hx
    rfl

theorem syncStep_wait_fulfilled {line l : String} {id : UInt64}
    (h : syncStep u pick line (.wait id) = some (l, .returned .fulfilled, u')) :
    id ∈ u.fulfilled := by
  obtain ⟨x, hx, hr⟩ := Option.map_eq_some'.1 h
  cases hr
  split_ifs at hx with h₁ <;> cases hx
  exact h₁.1

end Goroutine

namespace UISys

def senders (s : UISys) (id : UInt64) : Nat := s.threads.countP (·.sendingID == some id)

def claims (s : UISys) (id : UInt64) : Nat := s.ui.barriers id + s.senders id

structure SyncIDs (s : UISys) : Prop where
  budget : s.ui.nextID.toNat + s.threads.countP Goroutine.unregistered < UInt64.size
  fresh : ∀ id : UInt64, s.ui.nextID.toNat < id.toNat → s.claims id = 0
  unique : ∀ id, s.claims id ≤ 1
  waiting : ∀ g ∈ s.threads, ∀ id, g.waitingID = some id → 0 < s.ui.barriers id
  noForged : ∀ g ∈ s.threads, g.sendsNoBarrier = true

theorem toNat_add_one {n : UInt64} (h : n.toNat + 1 < UInt64.size) : (n + 1).toNat = n.toNat + 1 := by
  simp only [UInt64.toNat, UInt64.add_def, BitVec.toNat_add]
  exact Nat.mod_eq_of_lt h

variable {s s' : UISys}

theorem Start.claims_eq_zero (h : s.Start) (id : UInt64) : s.claims id = 0 := by
  have hi : ∀ g ∈ s.threads, g.sendingID = none := fun g hg => by
    have := h.threads g hg
    cases g <;> simp_all [Goroutine.initial, Goroutine.sendingID]
  have hs : s.senders id = 0 := List.countP_eq_zero.2 fun g hg => by simp [hi g hg]
  simp [claims, hs, UIState.barriers, UIState.history, h.queue, h.handled]

theorem Start.syncIDs (h : s.Start) : s.SyncIDs where
  budget := by
    rw [h.nextID, UInt64.toNat_zero, Nat.zero_add]
    exact Nat.lt_of_le_of_lt (List.countP_le_length _) h.calls
  fresh id _ := h.claims_eq_zero id
  unique id := by rw [h.claims_eq_zero id]; omega
  waiting g hg _ := by
    have := h.threads g hg
    cases g <;> simp_all [Goroutine.initial, Goroutine.waitingID]
  noForged g hg := by
    have := h.threads g hg
    cases g <;> simp_all [Goroutine.initial, Goroutine.sendsNoBarrier]

theorem SyncIDs.claims_step (hi : s.SyncIDs) (h : Step s s') :
    (s'.ui.nextID = s.ui.nextID ∧
      s'.threads.countP Goroutine.unregistered ≤ s.threads.countP Goroutine.unregistered ∧
      ∀ id, s'.claims id ≤ s.claims id) ∨
    (s.ui.nextID.toNat + 1 < UInt64.size ∧ s'.ui.nextID = s.ui.nextID + 1 ∧
      s'.threads.countP Goroutine.unregistered + 1 = s.threads.countP Goroutine.unregistered ∧
      ∀ id, s'.claims id = s.claims id + (if id = s.ui.nextID + 1 then 1 else 0)) := by
  obtain ⟨i, pick, h⟩ := h
  obtain ⟨g, g', hg, hstep, hset⟩ := step?_eq_some h
  have hcount : ∀ p : Goroutine → Bool,
      s'.threads.countP p + (if p g then 1 else 0) = s.threads.countP p + (if p g' then 1 else 0) :=
    fun p => hset ▸ countP_set_add hg
  have hsenders : ∀ id, s'.senders id + (if g.sendingID = some id then 1 else 0) =
      s.senders id + (if g'.sendingID = some id then 1 else 0) := fun id => by
    simpa only [beq_iff_eq] using hcount (·.sendingID == some id)
  have hunreg := hcount Goroutine.unregistered
  cases Goroutine.step_syncEffect (hi.noForged g (List.getElem?_mem hg)) hstep with
  | other hs hs' _ hu hn hb =>
    have : (if g'.unregistered then 1 else 0) ≤ (if g.unregistered then 1 else 0) := by
      split_ifs <;> simp_all
    refine .inl ⟨hn, by omega, fun id => ?_⟩
    have := hsenders id
    simp only [hs, hs', reduceCtorEq, if_false] at this
    simp only [claims, hb]
    omega
  | register hu hu' hs hs' _ hn hb =>
    simp only [hu, hu', if_true, Bool.false_eq_true, if_false] at hunreg
    have := hi.budget
    refine .inr ⟨by omega, hn, by omega, fun id => ?_⟩
    have := hsenders id
    simp only [hs, hs', reduceCtorEq, if_false, Option.some.injEq] at this
    simp only [claims, hb, eq_comm (a := id)]
    omega
  | abandon id₀ hs hs' _ hu' hn hb | send id₀ hs hs' _ hu' hn hb =>
    simp only [hu', Bool.false_eq_true, if_false] at hunreg
    refine .inl ⟨hn, by omega, fun id => ?_⟩
    have := hsenders id
    simp only [hs, hs', reduceCtorEq, if_false, Option.some.injEq] at this
    simp only [claims, hb, eq_comm (a := id)]
    omega

theorem SyncIDs.waiting_step (hi : s.SyncIDs) (h : Step s s') :
    ∀ g ∈ s'.threads, ∀ id, g.waitingID = some id → 0 < s'.ui.barriers id := by
  obtain ⟨i, pick, h⟩ := h
  obtain ⟨g, g', hg, hstep, hset⟩ := step?_eq_some h
  have hmono : ∀ id, s.ui.barriers id ≤ s'.ui.barriers id := fun id =>
    (Goroutine.step_channel hstep).1.history_grows.countP_le _
  intro x hx id hw
  rcases List.mem_or_eq_of_mem_set (hset ▸ hx) with hx | rfl
  · exact Nat.lt_of_lt_of_le (hi.waiting x hx id hw) (hmono id)
  · cases Goroutine.step_syncEffect (hi.noForged g (List.getElem?_mem hg)) hstep with
    | other _ _ hw' | register _ _ _ _ hw' | abandon _ _ _ hw' => simp [hw'] at hw
    | send id₀ _ _ hw' _ _ hb =>
      obtain rfl : id₀ = id := Option.some.inj (hw'.symm.trans hw)
      simp [hb]

theorem SyncIDs.step (hi : s.SyncIDs) (h : Step s s') : s'.SyncIDs := by
  have hnf : ∀ g ∈ s'.threads, g.sendsNoBarrier = true := by
    obtain ⟨i, pick, h⟩ := h
    obtain ⟨g, g', hg, hstep, hset⟩ := step?_eq_some h
    have hgn := hi.noForged g (List.getElem?_mem hg)
    intro x hx
    rcases List.mem_or_eq_of_mem_set (hset ▸ hx) with hx | rfl
    · exact hi.noForged x hx
    · exact Goroutine.step_sendsNoBarrier hgn hstep
  rcases hi.claims_step h with ⟨hn, hu, hc⟩ | ⟨hlt, hn, hu, hc⟩
  · have := hi.budget
    refine ⟨by rw [hn]; omega, fun id hid => ?_, fun id => (hc id).trans (hi.unique id),
      hi.waiting_step h, hnf⟩
    rw [hn] at hid
    exact Nat.eq_zero_of_le_zero ((hc id).trans (hi.fresh id hid).le)
  · have hn' : s'.ui.nextID.toNat = s.ui.nextID.toNat + 1 := by rw [hn, toNat_add_one hlt]
    have := hi.budget
    refine ⟨by omega, fun id hid => ?_, fun id => ?_, hi.waiting_step h, hnf⟩
    · have hne : id ≠ s.ui.nextID + 1 := fun he => by rw [he, toNat_add_one hlt] at hid; omega
      rw [hc id, if_neg hne, hi.fresh id (by omega)]
    · rw [hc id]
      split_ifs with he
      · rw [hi.fresh id (by rw [he, toNat_add_one hlt]; omega)]
      · simpa using hi.unique id

theorem Reachable.syncIDs {s₀ s : UISys} (h : Reachable s₀ s) (h0 : s₀.SyncIDs) : s.SyncIDs := by
  induction h with
  | refl => exact h0
  | tail _ hst ih => exact ih.step hst

theorem sync_returns_after_its_barrier {s₀ s s' : UISys} (h0 : s₀.Start) (hr : Reachable s₀ s)
    {i : Nat} {pick : Bool} {l : String} {id : UInt64}
    (hg : s.threads[i]? = some (.sync l (.wait id))) (hs : s.step? i pick = some s')
    (hret : s'.threads[i]? = some (.sync l (.returned .fulfilled))) :
    ∃ pre e post, s.ui.history = pre ++ e :: post ∧ e.isBarrier id = true ∧
      (∀ x ∈ pre ++ post, x.isBarrier id = false) ∧ pre ++ [e] <+: s.ui.handled := by
  obtain ⟨g, g', hg', hstep, hset⟩ := step?_eq_some hs
  obtain rfl : g = .sync l (.wait id) := Option.some.inj (hg'.symm.trans hg)
  have hi : i < s.threads.length := (List.getElem?_eq_some_iff.1 hg).1
  obtain rfl : g' = .sync l (.returned .fulfilled) := by
    rw [hset, List.getElem?_set_self hi] at hret
    exact Option.some.inj hret
  obtain ⟨⟨_, _, _⟩, hss, hx⟩ := Option.map_eq_some'.1 hstep
  cases hx
  have hful := Goroutine.syncStep_wait_fulfilled hss
  have hids := hr.syncIDs h0.syncIDs
  have hone : s.ui.barriers id = 1 := by
    have := hids.waiting _ (List.getElem?_mem hg) id rfl
    have := hids.unique id
    simp only [claims] at this
    omega
  obtain ⟨e, he, het, heid⟩ := (UISys.Reachable.fulfilledSound hr (by simp [UIState.FulfilledSound,
    h0.fulfilled])) id hful
  obtain ⟨pre, post, hsplit⟩ := List.append_of_mem he
  have heb : e.isBarrier id = true := by simp [Event.isBarrier, het, heid]
  refine ⟨pre, e, post ++ s.ui.queue, by simp [UIState.history, hsplit], heb, ?_, ⟨post, by simp [hsplit]⟩⟩
  have hcount : (pre ++ (post ++ s.ui.queue)).countP (Event.isBarrier id) = 0 := by
    simp only [UIState.barriers, UIState.history, hsplit, List.countP_append, List.countP_cons,
      heb, if_true] at hone
    simp only [List.countP_append]
    omega
  intro x hx
  simpa using List.countP_eq_zero.1 hcount x hx

def emitSyncStart : UISys :=
  ⟨⟨false, "", [], false, false, 0, [], [], [], Time.zero⟩,
    [.emitter { Event.empty EventGroupAdd with groupID := 1 } (some .load), .sync "" .load,
      .consumer .loop]⟩

/-- The emitter sends its event; `Sync` registers id 1 and sends its barrier; the consumer
    handles both. -/
def emitSyncSchedule : List (Nat × Bool) :=
  [(0, true), (0, true), (0, true), (1, true), (1, true), (1, true), (1, true), (2, true), (2, true)]

theorem sync_returns_after_its_barrier_emitted :
    emitSyncStart.Start ∧ Reachable emitSyncStart (emitSyncStart.runSchedule emitSyncSchedule) ∧
      (emitSyncStart.runSchedule emitSyncSchedule).threads[1]? = some (.sync "" (.wait 1)) ∧
      (emitSyncStart.runSchedule emitSyncSchedule).step? 1 true =
        some (emitSyncStart.runSchedule (emitSyncSchedule ++ [(1, true)])) ∧
      (emitSyncStart.runSchedule (emitSyncSchedule ++ [(1, true)])).threads[1]? =
        some (.sync "" (.returned .fulfilled)) ∧
      ∃ pre e post, (emitSyncStart.runSchedule emitSyncSchedule).ui.history = pre ++ e :: post ∧
        e.isBarrier 1 = true ∧ (∀ x ∈ pre ++ post, x.isBarrier 1 = false) ∧
        pre ++ [e] <+: (emitSyncStart.runSchedule emitSyncSchedule).ui.handled := by
  have h0 : emitSyncStart.Start := ⟨rfl, rfl, rfl, rfl, rfl, rfl, rfl, by decide, by decide⟩
  have hr := runSchedule_reachable emitSyncStart emitSyncSchedule
  have hg : (emitSyncStart.runSchedule emitSyncSchedule).threads[1]? = some (.sync "" (.wait 1)) := by
    decide
  have hs : (emitSyncStart.runSchedule emitSyncSchedule).step? 1 true =
      some (emitSyncStart.runSchedule (emitSyncSchedule ++ [(1, true)])) := by decide
  have hret : (emitSyncStart.runSchedule (emitSyncSchedule ++ [(1, true)])).threads[1]? =
      some (.sync "" (.returned .fulfilled)) := by decide
  exact ⟨h0, hr, hg, hs, hret, sync_returns_after_its_barrier h0 hr hg hs hret⟩

end UISys

end TiupPlayground
