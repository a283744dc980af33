import NestWebTransport.Driver.DatagramAdapter
import NestWebTransport.Foundation.RelayProgress

/-! Which of the incoming datagrams reach the consumer, and in what order. -/
namespace NestWebTransport

namespace DatagramPull

def relay : DatagramPull → RelayPull (List UInt8)
  | .requested => .requested
  | .resolved result => .resolved result
  | .finished => .finished

theorem relay_answer (answer : Option (ReadResult (List UInt8))) :
    ((answer.map .resolved).getD .requested : DatagramPull).relay =
      (answer.map .resolved).getD .requested := by
  cases answer <;> rfl

end DatagramPull

namespace IncomingDatagrams

variable {s t : IncomingDatagrams} {e : DatagramEvent} {es : List DatagramEvent}
  {native readable : Delivery (List UInt8)} {data : List UInt8}

/-! ### The adapter as a relay -/

def relay (s : IncomingDatagrams) : Relay (List UInt8) where
  source := s.native
  sink := s.readable
  pulls := s.pulls
  pull := s.pull.map DatagramPull.relay
  releasePending := s.releasePending && !s.readerReleased
  released := s.readerReleased
  received := s.received

/-- What an event is to the relay: a datagram that finds no room is none. -/
def relayEvent (s : IncomingDatagrams) : DatagramEvent → Option (RelayEvent (List UInt8))
  | .datagram data => if s.hasRoom then some (.enqueue data) else none
  | .sessionClosed => some .close
  | .read => some .read
  | .cancel => some .cancel
  | .close => some .abort
  | .readableStarted => some .started
  | .pullResumed => some (.pullResumed false)
  | .pullSettled => some .pullSettled
  | .released => if s.readerReleased then none else some .unlocked

/-- A native stream that has not failed answers the read that waits with its end. -/
theorem relay_withNative (hnative : native.stream.state ≠ .errored) :
    (s.withNative native).relay = s.relay.withSource native := by
  unfold withNative Relay.withSource relay
  cases hstate : native.stream.state with
  | errored => exact absurd hstate hnative
  | readable => rcases s.pull with - | (- | result | -) <;> rfl
  | closed => rcases s.pull with - | (- | result | -) <;> rfl

theorem relay_cancelReader (hnative : s.native.stream.state ≠ .errored) :
    s.cancelReader.relay = s.relay.cancelSource := by
  have hcancelled : s.native.cancel.stream.state ≠ .errored := by
    rcases s.native.cancel_cases with ⟨-, heq⟩ | ⟨-, heq⟩
    · rw [heq]
      exact hnative
    · rw [heq]
      nofun
  exact (apply_ite relay _ _ _).trans (if_congr Iff.rfl rfl (relay_withNative hcancelled))

theorem relay_releaseReader (s : IncomingDatagrams) : s.releaseReader.relay = s.relay.release := by
  refine (apply_ite relay _ _ _).trans (if_congr Iff.rfl rfl ?_)
  rcases hpull : s.pull with - | (- | result | -) <;>
    simp [relay, hpull, DatagramPull.relay, RelayPull.ending]

theorem relay_beginPull (s : IncomingDatagrams) : s.beginPull.relay = s.relay.beginPull := by
  refine (apply_ite relay _ _ _).trans (if_congr Iff.rfl rfl ?_)
  simp only [relay, Option.map_some, DatagramPull.relay_answer]

theorem relay_pulled (s : IncomingDatagrams) (result : Bool × PullLoop) :
    (s.pulled result).relay = s.relay.pulled result :=
  (apply_ite relay _ _ _).trans (if_congr Iff.rfl (relay_beginPull _) rfl)

theorem relay_pullCaught (s : IncomingDatagrams) : s.pullCaught.relay = s.relay.pullCaught false :=
  relay_releaseReader _

theorem relay_pullResumed (s : IncomingDatagrams) :
    s.pullResumed.relay = s.relay.pullResumed false := by
  unfold pullResumed Relay.pullResumed
  rw [show s.relay.pull = s.pull.map DatagramPull.relay from rfl]
  rcases s.pull with - | (- | (data | - | -) | -)
  · exact relay_pullCaught _
  · exact relay_pullCaught _
  · exact (apply_ite relay _ _ _).trans (if_congr Iff.rfl (relay_pulled _ _) (relay_pullCaught _))
  · exact (apply_ite relay _ _ _).trans
      (if_congr Iff.rfl (relay_releaseReader _) (relay_pullCaught _))
  · exact relay_pullCaught _
  · exact relay_pullCaught _

theorem relay_read (s : IncomingDatagrams) : s.read.relay = s.relay.read :=
  (apply_ite relay _ _ _).trans (if_congr Iff.rfl (relay_pulled _ _) rfl)

theorem readerReleased_cancelReader : s.cancelReader.readerReleased = s.readerReleased := by
  unfold cancelReader
  split_ifs <;> rfl

theorem relay_releasing (hnative : s.native.stream.state ≠ .errored)
    (readable : Delivery (List UInt8)) :
    relay { cancelReader { s with readable := readable } with releasePending := true } =
      { Relay.cancelSource { s.relay with sink := readable } with
        releasePending := !s.relay.released } := by
  have hcancelled := relay_cancelReader (s := { s with readable := readable }) hnative
  have hsame : (cancelReader { s with readable := readable }).readerReleased = s.readerReleased :=
    readerReleased_cancelReader
  change { (cancelReader { s with readable := readable }).relay with
    releasePending := !(cancelReader { s with readable := readable }).readerReleased } = _
  rw [hcancelled, hsame]
  rfl

theorem relay_enqueueNative (s : IncomingDatagrams) (data : List UInt8) :
    (s.enqueueNative data).relay = s.relay.enqueue data := by
  refine (apply_ite relay _ _ _).trans (if_congr Iff.rfl ?_ rfl)
  unfold relay
  by_cases hreads : 0 < s.native.stream.reads
  · simp [hreads, DatagramPull.relay]
  · simp [hreads]

theorem readerReleased_releaseReader : s.releaseReader.readerReleased = true := by
  unfold releaseReader
  split_ifs with hreleased
  · exact hreleased
  · rfl
  · rfl

theorem datagram_of_room (hroom : s.hasRoom = true) (data : List UInt8) :
    s.datagram data = { s with arrived := s.arrived ++ [data] }.enqueueNative data := if_pos hroom

theorem datagram_of_full (hroom : ¬ s.hasRoom = true) (data : List UInt8) :
    s.datagram data =
      { s with arrived := s.arrived ++ [data], droppedIncoming := s.droppedIncoming + 1 } :=
  if_neg hroom

/-- Each event of the adapter is one event of the relay, or none. -/
theorem relay_next (hnative : s.native.stream.state ≠ .errored) (e : DatagramEvent) :
    (s.next e).relay = (s.relayEvent e).elim s.relay s.relay.next := by
  cases e with
  | datagram data =>
    change (s.datagram data).relay =
      (if s.hasRoom then some (RelayEvent.enqueue data) else none).elim _ _
    by_cases hroom : s.hasRoom = true
    · rw [if_pos hroom, datagram_of_room hroom]
      exact relay_enqueueNative { s with arrived := s.arrived ++ [data] } data
    · rw [if_neg hroom, datagram_of_full hroom]
      rfl
  | sessionClosed =>
    refine relay_withNative fun herrored => hnative ?_
    exact (ReadableStream.close_errored s.native.stream).mp herrored
  | read => exact relay_read s
  | cancel =>
    exact (apply_ite relay _ _ _).trans (if_congr Iff.rfl (relay_releasing hnative _) rfl)
  | close => exact relay_releasing hnative _
  | readableStarted => exact relay_pulled s _
  | pullResumed => exact relay_pullResumed s
  | pullSettled => exact relay_pulled { s with pull := none } _
  | released =>
    have hidle : s.releaseReader.relay.releasePending = false := by
      change (_ && !s.releaseReader.readerReleased) = false
      rw [readerReleased_releaseReader]
      exact Bool.and_false _
    have hsame : relay { s.releaseReader with releasePending := false } =
        s.releaseReader.relay := by
      change { s.releaseReader.relay with releasePending := false } = s.releaseReader.relay
      rw [← hidle]
    refine hsame.trans ((relay_releaseReader s).trans ?_)
    change _ = (if s.readerReleased then none else some RelayEvent.unlocked).elim _ _
    split_ifs with hreleased
    · exact if_pos hreleased
    · rfl

/-- What the adapter may do now, the relay may do as well. -/
theorem relay_enabled (he : s.enabled e = true) {m : RelayEvent (List UInt8)}
    (hevent : s.relayEvent e = some m) : s.relay.enabled m = true := by
  cases e with
  | datagram data => obtain ⟨-, ⟨⟩⟩ := Option.ite_none_right_eq_some.mp hevent; rfl
  | sessionClosed => cases hevent; rfl
  | read => cases hevent; rfl
  | cancel => cases hevent; rfl
  | close => cases hevent; rfl
  | readableStarted => cases hevent; exact he
  | pullResumed =>
    cases hevent
    obtain ⟨pull, hpull, hresolved⟩ := (Option.any_eq_true _ _).mp he
    change (s.pull.map DatagramPull.relay).any (·.isResolved) = true
    rw [hpull]
    cases pull with
    | requested => cases hresolved
    | resolved result => rfl
    | finished => cases hresolved
  | pullSettled =>
    cases hevent
    change (s.pull.map DatagramPull.relay).any (·.isFinished) = true
    rw [show s.pull = some .finished from beq_iff_eq.mp he]
    rfl
  | released =>
    obtain ⟨hreleased, ⟨⟩⟩ := Option.ite_none_left_eq_some.mp hevent
    exact Bool.and_eq_true_iff.mpr ⟨he, by simpa using hreleased⟩

/-! ### The native queue -/

/-- What became of the native stream took nothing in. -/
structure Drains (d d' : Delivery (List UInt8)) : Prop where
  supplied : d'.supplied = d.supplied
  queue : d'.stream.queue.length ≤ d.stream.queue.length
  intact : d.stream.state ≠ .errored → d'.stream.state ≠ .errored
  closed : d'.stream.canCloseOrEnqueue = true → d.stream.canCloseOrEnqueue = true

theorem Drains.refl (d : Delivery (List UInt8)) : Drains d d := ⟨rfl, Nat.le_refl _, id, id⟩

theorem Drains.trans {a b c : Delivery (List UInt8)} (h : Drains a b) (h' : Drains b c) :
    Drains a c :=
  ⟨h'.supplied.trans h.supplied, Nat.le_trans h'.queue h.queue, h'.intact ∘ h.intact,
    h.closed ∘ h'.closed⟩

theorem drains_close (d : Delivery (List UInt8)) : Drains d d.close where
  supplied := rfl
  queue := Delivery.length_close_le d
  intact := (ReadableStream.close_errored d.stream).not.mpr
  closed hopen := by
    have hshut : d.close.stream.canCloseOrEnqueue = false := ReadableStream.close_canCloseOrEnqueue
    exact absurd (hshut.symm.trans hopen) nofun

theorem drains_cancel (d : Delivery (List UInt8)) : Drains d d.cancel := by
  rcases d.cancel_cases with ⟨-, heq⟩ | ⟨-, heq⟩
  · rw [heq]
    exact .refl d
  · rw [heq]
    exact ⟨rfl, Nat.zero_le _, fun _ => nofun, nofun⟩

theorem drains_read (d : Delivery (List UInt8)) : Drains d d.read where
  supplied := Delivery.supplied_read
  queue := d.length_read_le
  intact := (Delivery.read_errored d).not.mpr
  closed hopen := by
    rwa [Delivery.stream_read, ReadableStream.read_canCloseOrEnqueue] at hopen

/-- Steps that bring no datagram. -/
structure Quiet (s t : IncomingDatagrams) : Prop where
  native : Drains s.native t.native
  arrived : t.arrived = s.arrived
  dropped : t.droppedIncoming = s.droppedIncoming

theorem Quiet.refl (s : IncomingDatagrams) : Quiet s s := ⟨.refl _, rfl, rfl⟩

theorem Quiet.cancelReader (h : Quiet s t) : Quiet s t.cancelReader := by
  unfold IncomingDatagrams.cancelReader
  split_ifs
  · exact h
  · exact ⟨h.native.trans (drains_cancel _), h.arrived, h.dropped⟩

theorem Quiet.releaseReader (h : Quiet s t) : Quiet s t.releaseReader := by
  unfold IncomingDatagrams.releaseReader
  split_ifs
  · exact h
  · exact ⟨h.native.trans ⟨rfl, Nat.le_refl _, id, id⟩, h.arrived, h.dropped⟩
  · exact ⟨h.native.trans ⟨rfl, Nat.le_refl _, id, id⟩, h.arrived, h.dropped⟩

theorem Quiet.pulled (h : Quiet s t) (result : Bool × PullLoop) : Quiet s (t.pulled result) := by
  unfold IncomingDatagrams.pulled beginPull
  simp only
  split_ifs
  · exact ⟨h.native, h.arrived, h.dropped⟩
  · exact ⟨h.native.trans (drains_read _), h.arrived, h.dropped⟩
  · exact ⟨h.native, h.arrived, h.dropped⟩

theorem Quiet.withReadable (h : Quiet s t) (readable : Delivery (List UInt8)) :
    Quiet s { t with readable := readable } := ⟨h.native, h.arrived, h.dropped⟩

theorem Quiet.pullCaught (h : Quiet s t) : Quiet s t.pullCaught :=
  (h.withReadable t.readable.error).releaseReader

theorem Quiet.finishing (h : Quiet s t) (received : List (List UInt8)) :
    Quiet s { t with received := received, pull := some .finished } :=
      ⟨h.native, h.arrived, h.dropped⟩

theorem quiet_pullResumed (s : IncomingDatagrams) : Quiet s s.pullResumed := by
  unfold pullResumed
  split
  · rename_i data _
    have hfinished := (Quiet.refl s).finishing (s.received ++ [data])
    simp only
    split_ifs
    · exact (hfinished.withReadable _).pulled _
    · exact hfinished.pullCaught
  · have hfinished := (Quiet.refl s).finishing s.received
    simp only
    split_ifs
    · exact (hfinished.withReadable _).releaseReader
    · exact hfinished.pullCaught
  · exact ((Quiet.refl s).finishing s.received).pullCaught

theorem Quiet.releasing (h : Quiet s t) (pending : Bool) :
    Quiet s { t with releasePending := pending } := ⟨h.native, h.arrived, h.dropped⟩

/-- Nothing but a datagram of the network adds to what has arrived, was dropped or was taken. -/
theorem quiet_next (e : DatagramEvent) (hdatagram : ∀ data, e ≠ .datagram data) :
    Quiet s (s.next e) := by
  have hsame := Quiet.refl s
  cases e with
  | datagram data => exact absurd rfl (hdatagram data)
  | sessionClosed => exact ⟨drains_close _, rfl, rfl⟩
  | read =>
    change Quiet s s.read
    unfold read
    simp only
    split_ifs
    · exact (hsame.withReadable _).pulled _
    · exact hsame.withReadable _
  | cancel =>
    change Quiet s s.cancel
    unfold cancel
    split_ifs
    · exact ((hsame.withReadable _).cancelReader).releasing true
    · exact hsame
  | close => exact ((hsame.withReadable _).cancelReader).releasing true
  | readableStarted => exact hsame.pulled _
  | pullResumed => exact quiet_pullResumed s
  | pullSettled =>
    have hidle : Quiet s { s with pull := none } := ⟨.refl _, rfl, rfl⟩
    exact hidle.pulled _
  | released => exact hsame.releaseReader.releasing false

/-! ### What reaches the consumer -/

/-- The adapter's readable takes datagrams. -/
def Takes (s : IncomingDatagrams) : Prop := s.readable.stream.canCloseOrEnqueue = true

/-- The native queue drops what it has no room for, and the adapter relays the rest. -/
structure Sound (s : IncomingDatagrams) : Prop where
  relays : s.relay.Steady
  intact : s.native.stream.state ≠ .errored
  backlog : s.native.stream.queue.length ≤ incomingHighWaterMark
  counted : s.native.stream.canCloseOrEnqueue = true →
    s.arrived.length = s.native.supplied.length + s.droppedIncoming
  arrives : s.native.supplied.Sublist s.arrived

theorem sound_new : Sound new where
  relays := Relay.steady_new
  intact := nofun
  backlog := Nat.zero_le _
  counted _ := rfl
  arrives := List.Sublist.refl _

theorem Sound.quiet (h : Sound s) (hquiet : Quiet s t) (hrelays : t.relay.Steady) : Sound t where
  relays := hrelays
  intact := hquiet.native.intact h.intact
  backlog := Nat.le_trans hquiet.native.queue h.backlog
  counted hopen := by
    rw [hquiet.arrived, hquiet.dropped, hquiet.native.supplied]
    exact h.counted (hquiet.native.closed hopen)
  arrives := by
    rw [hquiet.arrived, hquiet.native.supplied]
    exact h.arrives

theorem hasRoom_of_open (hopen : s.native.stream.canCloseOrEnqueue = true) :
    s.hasRoom = decide (s.native.stream.queue.length < incomingHighWaterMark) := by
  unfold hasRoom
  rw [ReadableStream.state_of_canCloseOrEnqueue hopen]

/-- A datagram goes to the waiting read or the queue, or is dropped for want of room. -/
theorem Sound.datagram (h : Sound s) (data : List UInt8)
    (hrelays : (s.datagram data).relay.Steady) :
    Sound (s.datagram data) := by
  have harrives := h.arrives.trans (List.sublist_append_left s.arrived [data])
  by_cases hroom : s.hasRoom = true
  · rw [datagram_of_room hroom] at hrelays ⊢
    unfold enqueueNative at hrelays ⊢
    by_cases hopen : s.native.stream.canCloseOrEnqueue = true
    · rw [if_pos hopen] at hrelays ⊢
      have hsupplied := Delivery.supplied_enqueue hopen data
      refine ⟨hrelays, ?_, ?_, fun _ => ?_, ?_⟩
      · exact (Delivery.state_enqueue (d := s.native) data).symm ▸ h.intact
      · rw [hasRoom_of_open hopen, decide_eq_true_eq] at hroom
        change (s.native.enqueue data).stream.queue.length ≤ incomingHighWaterMark
        rcases Delivery.enqueue_cases hopen data with ⟨-, heq⟩ | ⟨-, heq⟩
        · rw [heq]
          exact h.backlog
        · rw [heq, List.length_append]
          exact hroom
      · change (s.arrived ++ [data]).length = (s.native.enqueue data).supplied.length + _
        rw [hsupplied, List.length_append, List.length_append, h.counted hopen]
        exact Nat.add_right_comm _ _ _
      · change (s.native.enqueue data).supplied.Sublist (s.arrived ++ [data])
        rw [hsupplied]
        exact h.arrives.append (List.Sublist.refl _)
    · rw [if_neg hopen] at hrelays ⊢
      exact ⟨hrelays, h.intact, h.backlog, fun hnow => absurd hnow hopen, harrives⟩
  · rw [datagram_of_full hroom] at hrelays ⊢
    refine ⟨hrelays, h.intact, h.backlog, fun hopen => ?_, harrives⟩
    change (s.arrived ++ [data]).length = s.native.supplied.length + (s.droppedIncoming + 1)
    rw [List.length_append, h.counted hopen]
    rfl

/-- The relay keeps its order, and of the rest only an arriving datagram changes the counts. -/
theorem Sound.step (h : Sound s) (hs : machine.Step s e t) : Sound t := by
  obtain ⟨he, rfl⟩ := hs
  have hrelays : (s.next e).relay.Steady := by
    rw [relay_next h.intact]
    cases hevent : s.relayEvent e with
    | none => exact h.relays
    | some m => exact h.relays.step ⟨relay_enabled he hevent, rfl⟩
  by_cases hdatagram : ∃ data, e = .datagram data
  · obtain ⟨data, rfl⟩ := hdatagram
    exact h.datagram data hrelays
  · exact h.quiet (quiet_next e fun data heq => hdatagram ⟨data, heq⟩) hrelays

/-- Every reachable adapter is sound. -/
theorem sound_of_reachable (h : machine.Reachable s) : Sound s := by
  refine h.invariant ?_ fun _ _ _ hs h => h.step hs
  rintro _ rfl
  exact sound_new

/-- Whatever the network, the session and the consumer do: the consumer gets the datagrams that the
native queue took, in order; a datagram is given up only for want of room or at the end. -/
theorem delivers_datagrams (h : machine.Reachable s) :
    (s.readable.delivered <+: s.received ∧ s.received <+: s.native.supplied ∧
      s.native.supplied.Sublist s.arrived) ∧
    (s.native.stream.queue.length ≤ incomingHighWaterMark ∧ s.readable.stream.queue.length ≤ 1) ∧
    (s.native.stream.canCloseOrEnqueue = true →
      s.arrived.length = s.native.supplied.length + s.droppedIncoming) ∧
    s.received.length ≤ s.readable.supplied.length + 1 ∧
    (Takes s → s.native.stream.state = .readable →
      ∃ held : List (List UInt8), held.length ≤ 1 ∧ s.native.supplied =
        s.readable.delivered ++ s.readable.stream.queue ++ held ++ s.native.stream.queue) ∧
    (s.readable.stream.state = .closed → s.readable.cancelled = false →
      s.readable.delivered = s.native.supplied) := by
  have hs := sound_of_reachable h
  obtain ⟨hdelivered, hreceived⟩ := hs.relays.delivered_prefix
  exact ⟨⟨hdelivered, hreceived, hs.arrives⟩, ⟨hs.backlog, hs.relays.bounded⟩, hs.counted,
    hs.relays.received_le, hs.relays.conserves, hs.relays.delivers_all⟩

/-- A full readable, a datagram behind it, and a session that closes. -/
def lastDatagrams : List DatagramEvent :=
  [.readableStarted, .datagram [1], .datagram [2, 3], .pullResumed, .pullSettled, .sessionClosed,
    .read, .pullResumed, .pullSettled, .read, .pullResumed, .pullSettled]

theorem delivers_last_datagrams : ∃ s, machine.Reachable s ∧ s.readable.delivered.length = 2 ∧
    s.readable.delivered = s.native.supplied := by
  obtain ⟨s, hrun, hclosed, hkept, htwo⟩ := program.exists_run lastDatagrams new
    (fun s => s.readable.stream.state = .closed ∧ s.readable.cancelled = false ∧
      s.readable.delivered.length = 2) (by decide +kernel)
  have hreachable : machine.Reachable s := ⟨new, lastDatagrams, rfl, hrun⟩
  obtain ⟨-, -, -, -, -, hall⟩ := delivers_datagrams hreachable
  exact ⟨s, hreachable, htwo, hall hclosed hkept⟩

end IncomingDatagrams

end NestWebTransport
