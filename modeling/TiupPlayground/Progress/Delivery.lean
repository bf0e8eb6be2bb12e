import TiupPlayground.Progress.Channel

/-!
What the goroutines of a plain-mode `UI` guarantee about its event channel, over every
interleaving of their steps. A step either leaves the consumer's handled events and the
channel's queue alone, appends one event to the queue (the send of `emit`, `emitForced` or of
`Sync`'s barrier), or moves the queue's head to the handled events (`processPlainEvent`).

So the channel's history, the handled events followed by the queued ones, only grows at its
end, and the handled events are always its prefix: no event that entered the channel is lost,
handled twice or reordered. Once `runPlain` closes `doneCh`, it has handled every event that
was in the channel before; and a `Sync` waiter is closed only by a barrier that was handled.
-/
namespace TiupPlayground

namespace UIState

def history (u : UIState) : List Event := u.handled ++ u.queue

section Process

variable (u : UIState) (e : Event)

@[simp] theorem process_handled : (u.process e).handled = u.handled ++ [e] := by
  unfold process fulfillSync; dsimp only; split_ifs <;> rfl

@[simp] theorem process_queue : (u.process e).queue = u.queue := by
  unfold process fulfillSync; dsimp only; split_ifs <;> rfl

@[simp] theorem process_closed : (u.process e).closed = u.closed := by
  unfold process fulfillSync; dsimp only; split_ifs <;> rfl

@[simp] theorem process_closeCh : (u.process e).closeCh = u.closeCh := by
  unfold process fulfillSync; dsimp only; split_ifs <;> rfl

@[simp] theorem process_doneCh : (u.process e).doneCh = u.doneCh := by
  unfold process fulfillSync; dsimp only; split_ifs <;> rfl

@[simp] theorem process_nextID : (u.process e).nextID = u.nextID := by
  unfold process fulfillSync; dsimp only; split_ifs <;> rfl

theorem process_fulfilled :
    (u.process e).fulfilled = u.fulfilled ∨
      e.type = EventSync ∧ (u.process e).fulfilled = e.syncID :: u.fulfilled := by
  unfold process fulfillSync
  dsimp only
  split_ifs with h <;> simp [h]

end Process

inductive Moves (u : UIState) : UIState → Prop
  | keep {u' : UIState} : u'.handled = u.handled → u'.queue = u.queue →
      u'.fulfilled = u.fulfilled → Moves u u'
  | send {u' : UIState} (e : Event) : u'.handled = u.handled → u'.queue = u.queue ++ [e] →
      u'.fulfilled = u.fulfilled → Moves u u'
  | recv (e : Event) (rest : List Event) : u.queue = e :: rest →
      Moves u ({ u with queue := rest }.process e)

namespace Moves

variable {u u' : UIState}

theorem history_grows : Moves u u' → u.history <+: u'.history
  | keep hh hq _ => by rw [history, history, hh, hq]
  | send e hh hq _ => ⟨[e], by simp [history, hh, hq]⟩
  | recv e rest hq => by simp [history, hq]

theorem handled_grows : Moves u u' → u.handled <+: u'.handled
  | keep hh _ _ | send _ hh _ _ => by rw [hh]
  | recv _ _ _ => by simp

end Moves

def FulfilledSound (u : UIState) : Prop :=
  ∀ id ∈ u.fulfilled, ∃ e ∈ u.handled, e.type = EventSync ∧ e.syncID = id

theorem Moves.fulfilledSound {u u' : UIState} (h : Moves u u') (hu : u.FulfilledSound) :
    u'.FulfilledSound := by
  intro id hid
  cases h with
  | keep hh _ hf | send _ hh _ hf =>
    rw [hf] at hid
    rw [hh]
    exact hu id hid
  | recv e rest _ =>
    have hmono : ∀ x ∈ u.handled, x ∈ ({ u with queue := rest }.process e).handled :=
      fun x hx => by simp [hx]
    rcases process_fulfilled { u with queue := rest } e with hf | ⟨he, hf⟩ <;> rw [hf] at hid
    · obtain ⟨x, hx, hxid⟩ := hu id hid
      exact ⟨x, hmono x hx, hxid⟩
    · rcases List.mem_cons.1 hid with rfl | hid
      · exact ⟨e, by simp, he, rfl⟩
      · obtain ⟨x, hx, hxid⟩ := hu id hid
        exact ⟨x, hmono x hx, hxid⟩

end UIState

open UIState

section Steps

variable {u u' : UIState} {pick : Bool}

theorem emitStep_state {e : Event} {pc : EmitPC} {pc' : Option EmitPC}
    (h : emitStep u e pick pc = some (pc', u')) :
    u' = u ∨ u' = { u with queue := u.queue ++ [e] } := by
  cases pc with
  | load | poll => cases h; exact .inl rfl
  | send =>
    simp only [emitStep] at h
    split_ifs at h <;> cases h
    · exact .inr rfl
    · exact .inl rfl

theorem emitStep_channel {e : Event} {pc : EmitPC} {pc' : Option EmitPC}
    (h : emitStep u e pick pc = some (pc', u')) : Moves u u' ∧ u'.doneCh = u.doneCh := by
  rcases emitStep_state h with rfl | rfl
  · exact ⟨.keep rfl rfl rfl, rfl⟩
  · exact ⟨.send e rfl rfl rfl, rfl⟩

theorem syncStep_channel {line l : String} {pc pc' : SyncPC}
    (h : syncStep u pick line pc = some (l, pc', u')) : Moves u u' ∧ u'.doneCh = u.doneCh := by
  cases pc with
  | load | drain | register => cases h; exact ⟨.keep rfl rfl rfl, rfl⟩
  | emit pc =>
    obtain ⟨⟨_, _⟩, he, hx⟩ := Option.map_eq_some'.1 h
    cases hx
    exact emitStep_channel he
  | send id =>
    simp only [syncStep] at h
    split_ifs at h <;> cases h
    · exact ⟨.keep rfl rfl rfl, rfl⟩
    · exact ⟨.send _ rfl rfl rfl, rfl⟩
  | wait id =>
    obtain ⟨_, _, hx⟩ := Option.map_eq_some'.1 h
    cases hx
    exact ⟨.keep rfl rfl rfl, rfl⟩
  | returned => cases h

theorem closeStep_channel {pc pc' : ClosePC} (h : closeStep u pick pc = some (pc', u')) :
    Moves u u' ∧ u'.doneCh = u.doneCh := by
  cases pc with
  | cas | drain | close => cases h; exact ⟨.keep rfl rfl rfl, rfl⟩
  | emit l pc =>
    obtain ⟨⟨_, _⟩, he, hx⟩ := Option.map_eq_some'.1 h
    cases hx
    exact emitStep_channel he
  | wait =>
    simp only [closeStep] at h
    split_ifs at h
    cases h
    exact ⟨.keep rfl rfl rfl, rfl⟩
  | returned => cases h

theorem consumerStep_channel {pc pc' : ConsumerPC} (h : consumerStep u pick pc = some (pc', u')) :
    Moves u u' ∧
      (u'.doneCh = true → u.doneCh = true ∨ u.queue = [] ∧ u'.handled = u.handled) := by
  cases pc with
  | loop =>
    simp only [consumerStep] at h
    split at h
    · split_ifs at h <;> cases h
      · exact ⟨.keep rfl rfl rfl, .inl⟩
      · exact ⟨.recv _ _ ‹_›, fun hd => .inl (by simpa using hd)⟩
    · split_ifs at h
      cases h
      exact ⟨.keep rfl rfl rfl, .inl⟩
  | drain =>
    simp only [consumerStep] at h
    split at h <;> cases h
    · exact ⟨.recv _ _ ‹_›, fun hd => .inl (by simpa using hd)⟩
    · exact ⟨.keep rfl rfl rfl, fun _ => .inr ⟨‹_›, rfl⟩⟩
  | returned => cases h

theorem closeStep_wait_done {pc' : ClosePC} (h : closeStep u pick .wait = some (pc', u')) :
    u.doneCh = true := by
  simp only [closeStep] at h
  split_ifs at h with hd
  exact hd

end Steps

namespace Goroutine

def initial : Goroutine → Bool
  | .emitter e pc => pc == some .load && e.type != EventSync
  | .sync _ pc => pc == .load
  | .close pc => pc == .cas
  | .consumer pc => pc == .loop

variable {u u' : UIState} {pick : Bool} {g g' : Goroutine}

theorem step_channel (h : g.step u pick = some (g', u')) :
    Moves u u' ∧
      (u'.doneCh = true → u.doneCh = true ∨ u.queue = [] ∧ u'.handled = u.handled) := by
  have keeps (h : Moves u u' ∧ u'.doneCh = u.doneCh) :
      Moves u u' ∧
        (u'.doneCh = true → u.doneCh = true ∨ u.queue = [] ∧ u'.handled = u.handled) :=
    ⟨h.1, fun hd => .inl (h.2 ▸ hd)⟩
  cases g with
  | emitter e pc =>
    cases pc with
    | none => cases h
    | some pc =>
      obtain ⟨⟨_, _⟩, he, hx⟩ := Option.map_eq_some'.1 h
      cases hx
      exact keeps (emitStep_channel he)
  | sync line pc =>
    obtain ⟨⟨_, _, _⟩, he, hx⟩ := Option.map_eq_some'.1 h
    cases hx
    exact keeps (syncStep_channel he)
  | close pc =>
    obtain ⟨⟨_, _⟩, he, hx⟩ := Option.map_eq_some'.1 h
    cases hx
    exact keeps (closeStep_channel he)
  | consumer pc =>
    obtain ⟨⟨_, _⟩, he, hx⟩ := Option.map_eq_some'.1 h
    cases hx
    exact consumerStep_channel he

end Goroutine

namespace UISys

structure Start (s : UISys) : Prop where
  closed : s.ui.closed = false
  queue : s.ui.queue = []
  closeCh : s.ui.closeCh = false
  doneCh : s.ui.doneCh = false
  nextID : s.ui.nextID = 0
  fulfilled : s.ui.fulfilled = []
  handled : s.ui.handled = []
  threads : ∀ g ∈ s.threads, g.initial = true
  calls : s.threads.length < UInt64.size

variable {s s' t : UISys}

theorem countP_set_add {α : Type} {p : α → Bool} {l : List α} {i : Nat} {a b : α}
    (h : l[i]? = some a) :
    (l.set i b).countP p + (if p a then 1 else 0) = l.countP p + (if p b then 1 else 0) := by
  obtain ⟨hi, rfl⟩ := List.getElem?_eq_some_iff.1 h
  have := List.boole_getElem_le_countP p l i hi
  rw [List.countP_set p l i _ hi]
  omega

theorem step?_eq_some {i : Nat} {pick : Bool} (h : s.step? i pick = some s') :
    ∃ g g', s.threads[i]? = some g ∧ g.step s.ui pick = some (g', s'.ui) ∧
      s'.threads = s.threads.set i g' := by
  unfold step? at h
  split at h
  · cases h
  · obtain ⟨⟨g', u'⟩, hs, rfl⟩ := Option.map_eq_some'.1 h
    exact ⟨_, g', ‹_›, hs, rfl⟩

theorem Step.channel (h : Step s s') :
    Moves s.ui s'.ui ∧ (s'.ui.doneCh = true →
      s.ui.doneCh = true ∨ s.ui.queue = [] ∧ s'.ui.handled = s.ui.handled) := by
  obtain ⟨i, pick, h⟩ := h
  obtain ⟨g, g', -, hs, -⟩ := step?_eq_some h
  exact Goroutine.step_channel hs

theorem Reachable.fulfilledSound (h : Reachable s t) (hs : s.ui.FulfilledSound) :
    t.ui.FulfilledSound := by
  induction h with
  | refl => exact hs
  | tail _ hmt ih => exact hmt.channel.1.fulfilledSound ih

theorem channel_history_grows (h : Reachable s t) :
    s.ui.history <+: t.ui.history ∧ s.ui.handled <+: t.ui.handled := by
  induction h with
  | refl => exact ⟨List.prefix_refl _, List.prefix_refl _⟩
  | tail _ hst ih => exact ⟨ih.1.trans hst.channel.1.history_grows,
    ih.2.trans hst.channel.1.handled_grows⟩

theorem done_after_handling_history (h : Reachable s t) (hs : s.ui.doneCh = false)
    (ht : t.ui.doneCh = true) : s.ui.history <+: t.ui.handled := by
  induction h with
  | refl => simp [hs] at ht
  | @tail m t hsm hmt ih =>
    rcases hmt.channel.2 ht with hd | ⟨hq, hh⟩
    · exact (ih hd).trans hmt.channel.1.handled_grows
    · simpa only [history, hq, List.append_nil, hh] using (channel_history_grows hsm).1

theorem wait_done {i : Nat} {pick : Bool} (hw : t.threads[i]? = some (.close .wait))
    (hret : t.step? i pick = some t') : t.ui.doneCh = true := by
  obtain ⟨g, g', hw', hstep, -⟩ := step?_eq_some hret
  obtain rfl : g = _ := Option.some.inj (hw'.symm.trans hw)
  obtain ⟨_, hcs, -⟩ := Option.map_eq_some'.1 hstep
  exact closeStep_wait_done hcs

def closeStart : UISys :=
  ⟨⟨false, "abc", [], false, false, 0, [], [], [], Time.zero⟩, [.close .cas, .consumer .loop]⟩

def closeFlushed : UISys := closeStart.runSchedule [(0, true), (0, true), (0, true), (0, true)]

def closeDone : UISys := closeFlushed.runSchedule [(1, true), (0, true), (1, true), (1, true)]

end UISys

end TiupPlayground
