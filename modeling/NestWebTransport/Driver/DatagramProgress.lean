import NestWebTransport.Driver.DatagramDelivery

/-! No incoming datagram stays behind: the adapter comes to rest only for want of datagrams or
reads. -/
namespace NestWebTransport

namespace DatagramEvent

/-- The promises of the adapter and of its readable, which settle by themselves. -/
def isInternal : DatagramEvent → Bool
  | .readableStarted | .pullResumed | .pullSettled | .released => true
  | _ => false

end DatagramEvent

namespace IncomingDatagrams

variable {s t : IncomingDatagrams} {e : DatagramEvent} {es : List DatagramEvent}

/-- What the adapter has yet to do by itself. -/
def load (s : IncomingDatagrams) : Nat := 2 * s.relay.load + if s.releasePending then 1 else 0

/-- An adapter at rest is a relay at rest. -/
theorem rests_of_atRest (hs : Sound s) (hrest : machine.AtRest (·.isInternal = true) s) :
    s.relay.Rests := by
  have hnot : ∀ e : DatagramEvent, e.isInternal = true → s.enabled e = false := by
    intro e he
    by_contra henabled
    exact hrest e (s.next e) he ⟨Bool.not_eq_false _ ▸ henabled, rfl⟩
  intro e he
  cases e with
  | sourceFailed =>
    have hintact : (s.native.stream.state == .errored) = false := by simp [hs.intact]
    exact Bool.and_eq_false_iff.mpr (.inl hintact)
  | started => exact hnot .readableStarted rfl
  | pullResumed stops =>
    have hresolved : s.pull.any (·.isResolved) = false := hnot .pullResumed rfl
    change (s.pull.map DatagramPull.relay).any (·.isResolved) = false
    rcases hpull : s.pull with - | (- | result | -)
    · rfl
    · rfl
    · rw [hpull] at hresolved
      cases hresolved
    · rfl
  | pullSettled =>
    have hfinished : (s.pull == some .finished) = false := hnot .pullSettled rfl
    change (s.pull.map DatagramPull.relay).any (·.isFinished) = false
    rcases hpull : s.pull with - | (- | result | -)
    · rfl
    · rfl
    · rfl
    · rw [hpull] at hfinished
      cases hfinished
  | unlocked =>
    have hpending : s.releasePending = false := hnot .released rfl
    exact Bool.and_eq_false_iff.mpr (.inl hpending)
  | _ => cases he

theorem releasePending_pulled (result : Bool × PullLoop) :
    (s.pulled result).releasePending = s.releasePending := by
  unfold pulled beginPull
  simp only
  split_ifs <;> rfl

theorem releasePending_releaseReader : s.releaseReader.releasePending = s.releasePending := by
  unfold releaseReader
  split_ifs <;> rfl

theorem releasePending_pullResumed : s.pullResumed.releasePending = s.releasePending := by
  unfold pullResumed
  split
  · simp only
    split_ifs
    · exact releasePending_pulled _
    · exact releasePending_releaseReader
  · simp only
    split_ifs
    · exact releasePending_releaseReader
    · exact releasePending_releaseReader
  · exact releasePending_releaseReader

/-- A step the adapter takes by itself unloads the relay. -/
theorem Sound.relay_load_next (h : Sound s) (he : s.enabled e = true)
    {m : RelayEvent (List UInt8)} (hm : m.isInternal = true) (hevent : s.relayEvent e = some m) :
    (s.next e).relay.load < s.relay.load := by
  rw [relay_next h.intact, hevent]
  exact h.relays.load_next (relay_enabled he hevent) hm

/-- Each promise that settles leaves less to do, whichever it is. -/
theorem Sound.load_next (h : Sound s) (he : s.enabled e = true) (hinternal : e.isInternal = true) :
    (s.next e).load < s.load := by
  have hkept : ∀ m : RelayEvent (List UInt8), m.isInternal = true → s.relayEvent e = some m →
      (s.next e).releasePending = s.releasePending → (s.next e).load < s.load := by
    intro m hm hevent hpending
    have hless := h.relay_load_next he hm hevent
    unfold load
    rw [hpending]
    omega
  cases e with
  | readableStarted => exact hkept .started rfl rfl (releasePending_pulled _)
  | pullResumed => exact hkept (.pullResumed false) rfl rfl releasePending_pullResumed
  | pullSettled => exact hkept .pullSettled rfl rfl (releasePending_pulled _)
  | released =>
    have hpending : s.releasePending = true := he
    have hdone : (s.next .released).releasePending = false := rfl
    have hle : (s.next .released).relay.load ≤ s.relay.load := by
      by_cases hreleased : s.readerReleased = true
      · rw [relay_next h.intact, show s.relayEvent .released = none from if_pos hreleased]
        exact Nat.le_of_eq rfl
      · exact Nat.le_of_lt (h.relay_load_next he (m := .unlocked) rfl (if_neg hreleased))
    unfold load
    rw [hpending, hdone, if_pos rfl, if_neg nofun]
    omega
  | _ => cases hinternal

theorem unloads : machine.Unloads (·.isInternal = true) Sound load := by
  intro s e t hs h hinternal
  have ht := h.step hs
  obtain ⟨he, rfl⟩ := hs
  exact ⟨ht, h.load_next he hinternal⟩

/-- Left to itself the adapter comes to rest, in whatever order its promises settle. A read then
waits only while the session goes on and everything it took was delivered, and the native queue
holds datagrams only behind one that no read has asked for. -/
theorem rests_drained (h : machine.Reachable s) :
    (∃ es t, machine.Run s es t ∧ (∀ e ∈ es, e.isInternal = true) ∧
      machine.AtRest (·.isInternal = true) t) ∧
    ∀ es t, machine.Run s es t → (∀ e ∈ es, e.isInternal = true) →
      es.length + t.load ≤ s.load ∧
      (machine.AtRest (·.isInternal = true) t →
        (0 < t.readable.stream.reads →
          t.native.stream.state = .readable ∧ t.readable.delivered = t.native.supplied) ∧
        (Takes t → t.native.stream.queue ≠ [] →
          t.readable.stream.queue.length = 1 ∧ t.readable.stream.reads = 0)) := by
  have hs := sound_of_reachable h
  refine ⟨unloads.exists_rest hs, fun es t hrun hinternal => ⟨?_, fun hrest => ⟨?_, ?_⟩⟩⟩
  · exact unloads.length_add_load_le hrun hinternal hs
  · have ht := sound_of_reachable (h.run hrun)
    intro hreads
    obtain ⟨hstate, -, -, hall⟩ := ht.relays.starves (rests_of_atRest ht hrest) hreads
    exact ⟨hstate, hall⟩
  · have ht := sound_of_reachable (h.run hrun)
    exact ht.relays.stalls (rests_of_atRest ht hrest)

/-- Two datagrams come before the readable has started, and a read behind them. -/
def burst : List DatagramEvent := [.datagram [1], .datagram [2, 3], .read]

theorem rests_drained_after_burst : ∃ s es t, machine.Reachable s ∧ 0 < s.load ∧
    machine.Run s es t ∧ machine.AtRest (·.isInternal = true) t ∧ es.length + t.load ≤ s.load ∧
    (0 < t.readable.stream.reads → t.readable.delivered = t.native.supplied) ∧
    (Takes t → t.native.stream.queue ≠ [] → t.readable.stream.queue.length = 1) := by
  obtain ⟨s, hrun, hload⟩ := program.exists_run burst new (fun s => 0 < s.load) (by decide +kernel)
  have hreachable : machine.Reachable s := ⟨new, burst, rfl, hrun⟩
  obtain ⟨⟨es, t, hsettles, hinternal, hrest⟩, hall⟩ := rests_drained hreachable
  obtain ⟨hbound, hfacts⟩ := hall es t hsettles hinternal
  obtain ⟨hwaits, hstalls⟩ := hfacts hrest
  exact ⟨s, es, t, hreachable, hload, hsettles, hrest, hbound, fun hreads => (hwaits hreads).2,
    fun htakes hqueue => (hstalls htakes hqueue).1⟩

end IncomingDatagrams

end NestWebTransport
