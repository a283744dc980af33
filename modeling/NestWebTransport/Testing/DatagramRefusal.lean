import NestWebTransport.Testing.MockDatagram

/-! A datagram that is refused disables the virtual channel it was written to. -/
namespace NestWebTransport

namespace MockDatagramChannel

open BoundedValueQueue (Sound HasRoom)

variable {o : MockDatagramOptions} {c t : MockDatagramChannel} {datagram : List UInt8}
  {error : Thrown} {e : DatagramChannelEvent} {es : List DatagramChannelEvent}

/-! ### Writes -/

theorem write_of_errored (h : c.errored = some error) :
    c.write o datagram = (.error error, c) := by
  unfold write
  rw [h]

theorem write_ok (h : c.errored = none) (hsink : (c.sink o datagram).1 = .ok ()) :
    c.write o datagram = c.sink o datagram := by
  unfold write
  rw [h]
  generalize c.sink o datagram = answered at hsink
  obtain ⟨result, next⟩ := answered
  obtain rfl := hsink
  rfl

theorem write_error (h : c.errored = none) (hsink : (c.sink o datagram).1 = .error error) :
    c.write o datagram = (.error error, { (c.sink o datagram).2 with errored := some error }) := by
  unfold write
  rw [h]
  generalize c.sink o datagram = answered at hsink
  obtain ⟨result, next⟩ := answered
  obtain rfl := hsink
  rfl

theorem sink_of_size (hsize : ¬ o.maxDatagramSize < datagram.length) :
    c.sink o datagram = c.deliver o datagram := if_neg hsize

theorem deliver_of_room (hsound : Sound o.queueSize c.peer) (hroom : HasRoom c.peer o.queueSize)
    (datagram : List UInt8) :
    (c.deliver o datagram).1 = .ok () ∧ (c.deliver o datagram).2.errored = c.errored := by
  obtain ⟨hresult, -⟩ := hsound.push_of_room hroom o.overflow datagram
  unfold deliver
  simp only
  generalize c.peer.push o.queueSize o.overflow datagram = pushed at hresult
  obtain ⟨result, peer⟩ := pushed
  obtain rfl := hresult
  exact ⟨rfl, rfl⟩

/-- A full queue whose policy drops takes or refuses the datagram without an error. -/
theorem deliver_of_full (hstate : c.peer.state = .open) (hroom : ¬ HasRoom c.peer o.queueSize)
    (hreject : o.overflow ≠ .reject) (hclose : o.overflow ≠ .closeSession) :
    (c.deliver o datagram).1 = .ok () ∧ (c.deliver o datagram).2.errored = c.errored := by
  unfold deliver
  simp only
  rw [BoundedValueQueue.push_of_full hstate hroom]
  cases hoverflow : o.overflow with
  | dropNewest => exact ⟨rfl, rfl⟩
  | reject => exact absurd hoverflow hreject
  | closeSession => exact absurd hoverflow hclose
  | dropOldest =>
    unfold BoundedValueQueue.pushFull
    simp only
    cases c.peer.values with
    | nil => exact ⟨rfl, rfl⟩
    | cons dropped rest => exact ⟨rfl, rfl⟩

/-- A full queue that rejects throws. -/
theorem deliver_of_reject (hstate : c.peer.state = .open) (hroom : ¬ HasRoom c.peer o.queueSize)
    (hreject : o.overflow = .reject) : (c.deliver o datagram).1 = .error queueFull := by
  unfold deliver
  simp only
  rw [BoundedValueQueue.push_of_full hstate hroom, hreject]
  rfl

theorem deliver_peer : (c.deliver o datagram).2.peer =
    (c.peer.push o.queueSize o.overflow datagram).2 := by
  unfold deliver
  simp only
  generalize c.peer.push o.queueSize o.overflow datagram = pushed
  obtain ⟨result, peer⟩ := pushed
  cases result <;> rfl

/-- A write reaches the queue of the peer, or it does not. -/
theorem write_peer (o : MockDatagramOptions) (c : MockDatagramChannel) (datagram : List UInt8) :
    (c.write o datagram).2.peer = c.peer ∨
      (c.write o datagram).2.peer = (c.peer.push o.queueSize o.overflow datagram).2 := by
  have hsink : (c.sink o datagram).2.peer = c.peer ∨
      (c.sink o datagram).2.peer = (c.peer.push o.queueSize o.overflow datagram).2 := by
    unfold sink
    split
    · exact .inl rfl
    · exact .inr deliver_peer
  cases herrored : c.errored with
  | some error =>
    rw [write_of_errored herrored]
    exact .inl rfl
  | none =>
    cases hresult : (c.sink o datagram).1 with
    | ok _ =>
      rw [write_ok herrored hresult]
      exact hsink
    | error error =>
      rw [write_error herrored hresult]
      exact hsink

/-! ### Channels that go on -/

/-- While the queue of the peer is open, the writable has not errored. -/
structure Standing (o : MockDatagramOptions) (c : MockDatagramChannel) : Prop where
  sound : Sound o.queueSize c.peer
  live : c.peer.state = .open → c.errored = none

theorem standing_new : Standing o new := ⟨BoundedValueQueue.sound_new, fun _ => rfl⟩

theorem sound_write (h : Sound o.queueSize c.peer) :
    Sound o.queueSize (c.write o datagram).2.peer := by
  rcases write_peer o c datagram with hpeer | hpeer
  · rw [hpeer]
    exact h
  · rw [hpeer]
    exact h.push datagram

theorem state_write : (c.write o datagram).2.peer.state = c.peer.state := by
  rcases write_peer o c datagram with hpeer | hpeer
  · rw [hpeer]
  · rw [hpeer, BoundedValueQueue.push_state]

/-- A write that is not refused leaves the writable as it is. -/
theorem Standing.write (h : Standing o c) (hclose : o.overflow ≠ .closeSession)
    (hok : ¬ c.Refuses o (.write datagram)) : Standing o (c.write o datagram).2 := by
  refine ⟨sound_write h.sound, fun hopen => ?_⟩
  rw [state_write] at hopen
  have herrored := h.live hopen
  have hsize : ¬ o.maxDatagramSize < datagram.length := fun hlarge => hok ⟨hopen, .inl hlarge⟩
  have hdelivered : (c.deliver o datagram).1 = .ok () ∧
      (c.deliver o datagram).2.errored = c.errored := by
    by_cases hroom : HasRoom c.peer o.queueSize
    · exact deliver_of_room h.sound hroom datagram
    · have hreject : o.overflow ≠ .reject := fun hreject => hok ⟨hopen, .inr ⟨hreject, hroom⟩⟩
      exact deliver_of_full hopen hroom hreject hclose
  have hsink := sink_of_size (c := c) hsize
  rw [write_ok herrored (hsink ▸ hdelivered.1), hsink, hdelivered.2, herrored]

theorem Standing.consume (h : Standing o c) (event : ValueQueueEvent (List UInt8)) :
    Standing o { c with peer := c.peer.next o.queueSize o.overflow event } := by
  refine ⟨h.sound.next event, fun hopen => ?_⟩
  by_contra herrored
  exact BoundedValueQueue.next_shut (fun hstate => herrored (h.live hstate)) event hopen

/-- An event that is not refused leaves the writable without an error while the peer's queue is
open. -/
theorem Standing.next (h : Standing o c) (hclose : o.overflow ≠ .closeSession)
    (hok : ¬ c.Refuses o e) : Standing o (c.next o e) := by
  cases e with
  | write datagram => exact h.write hclose hok
  | consume event => exact h.consume event

/-- The consumer may do with the channel what it may do with the queue. -/
theorem consume_run {events : List (ValueQueueEvent (List UInt8))}
    {peer : BoundedValueQueue (List UInt8)}
    (h : (BoundedValueQueue.machine o.queueSize o.overflow).Run c.peer events peer)
    (hevents : ∀ event ∈ events, event = .read ∨ event = .pull) :
    (machine o).Run c (events.map .consume) { c with peer := peer } := by
  generalize hpeer : c.peer = first at h
  induction h generalizing c with
  | refl =>
    subst hpeer
    exact .refl
  | @stepL s u v event events hstep _ ih =>
    subst hpeer
    obtain ⟨henabled, rfl⟩ := hstep
    have hconsumer : event.isConsumer = true := by
      rcases hevents event List.mem_cons_self with rfl | rfl <;> rfl
    have hnext := ih (c := { c with peer := c.peer.next o.queueSize o.overflow event })
      (fun event hevent => hevents event (List.mem_cons_of_mem _ hevent)) rfl
    refine .stepL ⟨?_, rfl⟩ hnext
    exact Bool.and_eq_true_iff.mpr ⟨hconsumer, henabled⟩

/-- As long as the writable of an open queue has not errored, what finds room is delivered. -/
theorem Standing.usable (h : Standing o c) : c.Usable o := by
  intro es t hes hrun hroom datagram hsize
  have ht : Standing o t := by
    have hstep : ∀ s e t, (∃ event, e = .consume event) → (machine o).Step s e t →
        Standing o s → Standing o t := by
      rintro s e t ⟨event, rfl⟩ ⟨-, rfl⟩ hs
      exact hs.consume event
    exact hrun.invariant_of_events _ hstep hes h
  have hsink := sink_of_size (c := t) (not_lt.mpr hsize)
  have hdelivered := deliver_of_room ht.sound hroom datagram
  have hwrite := write_ok (ht.live hroom.1) (hsink ▸ hdelivered.1)
  refine ⟨?_, ?_⟩
  · rw [hwrite, hsink, hdelivered.1]
    rfl
  · rw [hwrite, hsink, deliver_peer]
    exact (ht.sound.push_of_room hroom o.overflow datagram).2

/-- A writable that has errored delivers nothing, though the consumer makes room. -/
theorem not_usable (hsound : Sound o.queueSize c.peer) (hopen : c.peer.state = .open)
    (herrored : c.errored = some error) : ¬ c.Usable o := by
  intro husable
  obtain ⟨events, peer, hevents, hrun, hroom⟩ :
      ∃ events peer, (∀ e ∈ events, e = .read ∨ e = .pull) ∧
        (BoundedValueQueue.machine o.queueSize o.overflow).Run c.peer events peer ∧
          HasRoom peer o.queueSize := hsound.exists_room hopen
  have hdelivers := husable _ _ (by simp) (consume_run hrun hevents) hroom [] (Nat.zero_le _)
  have hresult := hdelivers.1
  rw [write_of_errored (by exact herrored)] at hresult
  cases hresult

theorem refused_errored (h : Standing o c) (hrefuses : c.Refuses o (.write datagram)) :
    ∃ error, (c.write o datagram).2.errored = some error := by
  obtain ⟨hopen, hrefused⟩ := hrefuses
  have herrored := h.live hopen
  obtain ⟨error, hsink⟩ : ∃ error, (c.sink o datagram).1 = .error error := by
    by_cases hsize : o.maxDatagramSize < datagram.length
    · exact ⟨_, congrArg Prod.fst (if_pos hsize)⟩
    · obtain ⟨hreject, hroom⟩ := hrefused.resolve_left hsize
      rw [sink_of_size hsize]
      exact ⟨_, deliver_of_reject hopen hroom hreject⟩
  refine ⟨error, ?_⟩
  rw [write_error herrored hsink]

/-- The channel is usable in every state of a run exactly if none of its datagrams is refused. -/
theorem usable_iff_no_refusal (o : MockDatagramOptions) (hclose : o.overflow ≠ .closeSession)
    (es : List DatagramChannelEvent) (c : MockDatagramChannel) :
    ((machine o).restrict fun c e => ¬ c.Refuses o e).Run new es c ↔
      ((machine o).restrict fun c _ => c.Usable o).Run new es c ∧ c.Usable o := by
  refine Machine.Run.restrict_iff_good (I := Standing o) ?_ ?_ ?_ standing_new
  · rintro c e t ⟨-, rfl⟩ hc hok
    exact hc.next hclose hok
  · exact fun c hc => hc.usable
  · rintro c e t ⟨-, rfl⟩ hc hrefuses
    have hrefuses := not_not.mp hrefuses
    cases e with
    | consume event => exact hrefuses.elim
    | write datagram =>
      obtain ⟨error, herrored⟩ := refused_errored hc hrefuses
      exact not_usable (sound_write hc.sound) (state_write.trans hrefuses.1) herrored

def smallDatagrams : MockDatagramOptions := ⟨.one, 2, .reject⟩

/-- The consumer takes one datagram before the next is written. -/
theorem usable_iff_no_refusal_small :
    ∃ c, (machine smallDatagrams).Run new
        [.write [1], .consume .read, .consume .pull, .write [2, 3]] c ∧
      c.Usable smallDatagrams ∧ c.received = [1, 2] := by
  obtain ⟨c, hrun, hreceived⟩ := ((program smallDatagrams).restrict
    fun c e => ¬ c.Refuses smallDatagrams e).exists_run
      [.write [1], .consume .read, .consume .pull, .write [2, 3]] new
      (fun c => c.received = [1, 2]) (by decide +kernel)
  have hok := (Program.restrict_run _ _).mp hrun
  have husable := (usable_iff_no_refusal smallDatagrams (by decide) _ c).mp hok
  exact ⟨c, hok.unrestrict, husable.2, hreceived⟩

/-- A datagram of three bytes is refused as too large, which is recoverable; the one after it fits
and finds room, and is not delivered. -/
theorem unusable_after_refusal :
    ∃ c, (machine smallDatagrams).Run new [.write [1, 2, 3]] c ∧
      (new.write smallDatagrams [1, 2, 3]).1 = .error (.core (datagramTooLarge 3 2)) ∧
      (datagramTooLarge 3 2).recoverable = true ∧ HasRoom c.peer smallDatagrams.queueSize ∧
      ¬ c.Delivers smallDatagrams [1] ∧ ¬ c.Usable smallDatagrams := by
  refine ⟨_, .single ⟨rfl, rfl⟩, rfl, rfl, by decide +kernel, ?_, ?_⟩
  · rintro ⟨hresult, -⟩
    cases hresult
  · intro husable
    have hdelivers := husable [] _ (by simp) .refl (by decide +kernel) [1] (by decide)
    have hresult := hdelivers.1
    cases hresult

end MockDatagramChannel

end NestWebTransport
