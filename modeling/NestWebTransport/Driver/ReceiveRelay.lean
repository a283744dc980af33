import NestWebTransport.Driver.ReceiveBridge
import NestWebTransport.Driver.ReceiveFlow
import NestWebTransport.Foundation.RelayProgress
import NestWebTransport.Foundation.Simulation

/-! The bridge is a relay of the native stream's chunks and, to the native stream, its one reader.
-/
namespace NestWebTransport

namespace ReceiveBridge

variable {s t : ReceiveBridge} {e : ReceiveBridgeEvent} {es : List ReceiveBridgeEvent}
  {native : NativeReceiveStream} {chunk : List UInt8}

/-! ### The bridge as a relay -/

def relay (s : ReceiveBridge) : Relay (List UInt8) where
  source := s.native.readable
  sink := s.readable
  pulls := s.pulls
  pull := s.pull
  releasePending := s.finishPending && !s.finished
  released := s.finished
  received := s.received

/-- What an event is to the relay; the native stream's own promises are nothing to it, and neither
is an end behind the end. -/
def relayEvent (s : ReceiveBridge) : ReceiveBridgeEvent → Option (RelayEvent (List UInt8))
  | .data chunk => if s.native.registered then some (.enqueue chunk) else none
  | .fin => if s.native.registered then some .close else none
  | .reset => if s.native.registered then some .fail else none
  | .sessionClose => if s.native.registered then some .fail else none
  | .nativeStarted => none
  | .nativePullSettled => none
  | .read => some .read
  | .cancel => some .cancel
  | .abort => if s.aborted = true ∨ s.finished = true then none else some .abort
  | .readerFailed => some .sourceFailed
  | .readableStarted => some .started
  | .pullResumed => some (.pullResumed (!s.aborted))
  | .pullSettled => some .pullSettled
  | .cancelled => if s.finished then none else some .unlocked

theorem readable_setPulled (native : NativeReceiveStream) (result : Bool × PullLoop) :
    (native.pulled result).readable = native.readable := by
  unfold NativeReceiveStream.pulled
  simp only
  split <;> rfl

theorem readable_read (native : NativeReceiveStream) :
    native.read.readable = native.readable.read := by
  unfold NativeReceiveStream.read
  simp only
  split
  · exact readable_setPulled _ _
  · rfl

theorem readable_cancel (native : NativeReceiveStream) :
    native.cancel.readable = native.readable.cancel := by
  unfold NativeReceiveStream.cancel
  split_ifs with hstate
  · rfl
  · exact ((native.readable.cancel_cases.resolve_right fun h => hstate h.1).2).symm

theorem readable_onData (hregistered : native.registered = true) (chunk : List UInt8) :
    (native.onData chunk).readable = native.readable.enqueue chunk := by
  unfold NativeReceiveStream.onData
  rw [if_pos hregistered]
  simp only
  have hpaused : ∀ n : NativeReceiveStream,
      (if n.isFull then n.setPaused true else n).readable = n.readable := by
    intro n
    split <;> rfl
  by_cases hcan : native.readable.stream.canCloseOrEnqueue = true
  · rw [if_pos hcan]
    exact (hpaused _).trans (readable_setPulled _ _)
  · rw [if_neg hcan]
    unfold Delivery.enqueue
    rw [if_neg hcan]

theorem relay_withNative (s : ReceiveBridge) (native : NativeReceiveStream) :
    (s.withNative native).relay = s.relay.withSource native.readable := rfl

theorem relay_cancelReader (s : ReceiveBridge) : s.cancelReader.relay = s.relay.cancelSource := by
  unfold cancelReader Relay.cancelSource
  cases hfinished : s.finished with
  | true => simp [relay, hfinished]
  | false =>
    rw [if_neg nofun, if_neg (by simp [relay, hfinished]), relay_withNative, readable_cancel]
    rfl

theorem relay_finish (s : ReceiveBridge) : s.finish.relay = s.relay.release := by
  unfold finish Relay.release
  cases hfinished : s.finished with
  | true => simp [relay, hfinished]
  | false =>
    rw [if_neg nofun, if_neg (by simp [relay, hfinished])]
    simp [relay, NativeReceiveStream.release]

theorem finished_finish : s.finish.finished = true := by
  unfold finish
  split_ifs with h
  · exact h
  · rfl

theorem error_error (d : Delivery (List UInt8)) : d.error.error = d.error := by
  rcases d.error.error_cases with ⟨-, heq⟩ | ⟨hstate, -⟩
  · exact heq
  · rcases d.error_cases with ⟨hne, heq⟩ | ⟨-, heq⟩
    · rw [heq] at hstate
      exact absurd hstate hne
    · rw [heq] at hstate
      cases hstate

theorem finished_cancelReader : s.cancelReader.finished = s.finished := by
  unfold cancelReader
  split_ifs <;> rfl

theorem relay_handleAbort (hfinished : s.finished = false) :
    s.handleAbort.relay = s.relay.abort := by
  have hcancelled := relay_cancelReader { s with readable := s.readable.error }
  have hsame : (cancelReader { s with readable := s.readable.error }).finished = s.finished :=
    finished_cancelReader
  unfold handleAbort Relay.abort
  rw [if_neg (by simp [hfinished])]
  change { (cancelReader { s with readable := s.readable.error }).relay with
    releasePending := !(cancelReader { s with readable := s.readable.error }).finished } = _
  rw [hcancelled, hsame]
  rfl

theorem relay_abort (s : ReceiveBridge) :
    s.abort.relay = if s.aborted = true ∨ s.finished = true then s.relay else s.relay.abort := by
  unfold abort
  by_cases haborted : s.aborted = true
  · rw [if_pos haborted, if_pos (.inl haborted)]
  · rw [if_neg haborted]
    by_cases hfinished : s.finished = true
    · rw [if_pos (.inr hfinished)]
      unfold handleAbort
      rw [if_pos hfinished]
      rfl
    · rw [if_neg (by simp [haborted, hfinished])]
      exact relay_handleAbort (s := { s with aborted := true }) (eq_false_of_ne_true hfinished)

theorem release_of_locked {r : Relay (List UInt8)} (hlocked : r.released = false) (pending : Bool) :
    Relay.release { r with releasePending := pending } = r.release := by
  unfold Relay.release
  rw [if_neg (by simp [hlocked]), if_neg (by simp [hlocked])]

/-- The `catch` of the pull stops the source unless the lifecycle was aborted before. -/
theorem relay_pullCaught (s : ReceiveBridge) :
    s.pullCaught.relay = s.relay.pullCaught (!s.aborted) := by
  have herror : (s.relay.sink.error).error = s.relay.sink.error := error_error _
  unfold pullCaught Relay.pullCaught
  rw [relay_finish, relay_abort]
  simp only
  by_cases haborted : s.aborted = true
  · rw [if_pos (.inl haborted), haborted]
    rfl
  · rw [eq_false_of_ne_true haborted]
    by_cases hfinished : s.finished = true
    · rw [if_pos (.inr hfinished)]
      have hreleased : ∀ sink, Relay.cancelSource { s.relay with sink := sink } =
          { s.relay with sink := sink } := fun sink => if_pos hfinished
      simp only [Bool.not_false, if_true]
      rw [hreleased]
      rfl
    · rw [if_neg (by simp [hfinished])]
      have hlocked : (Relay.cancelSource { s.relay with sink := s.relay.sink.error }).released =
          false := Relay.released_cancelSource.trans (eq_false_of_ne_true hfinished)
      unfold Relay.abort
      change Relay.release
        { Relay.cancelSource { s.relay with sink := s.relay.sink.error.error } with
        releasePending := !s.finished } = _
      rw [herror, release_of_locked hlocked]
      rfl

theorem relay_beginPull (s : ReceiveBridge) : s.beginPull.relay = s.relay.beginPull := by
  unfold beginPull Relay.beginPull
  by_cases hfinished : s.finished = true
  · rw [if_pos hfinished, if_pos (show s.relay.released = true from hfinished)]
    rfl
  · rw [if_neg hfinished, if_neg (show ¬ s.relay.released = true from hfinished)]
    simp only [relay, readable_read]

theorem relay_pulled (s : ReceiveBridge) (result : Bool × PullLoop) :
    (s.pulled result).relay = s.relay.pulled result := by
  unfold pulled Relay.pulled
  simp only
  split
  · exact relay_beginPull _
  · rfl

theorem relay_pullResumed (s : ReceiveBridge) :
    s.pullResumed.relay = s.relay.pullResumed (!s.aborted) := by
  unfold pullResumed Relay.pullResumed
  rw [show s.relay.pull = s.pull from rfl]
  rcases s.pull with - | (- | (chunk | - | -) | -)
  · exact relay_pullCaught _
  · exact relay_pullCaught _
  · exact (apply_ite relay _ _ _).trans (if_congr Iff.rfl (relay_pulled _ _) (relay_pullCaught _))
  · exact (apply_ite relay _ _ _).trans (if_congr Iff.rfl (relay_finish _) (relay_pullCaught _))
  · exact relay_pullCaught _
  · exact relay_pullCaught _

theorem relay_read (s : ReceiveBridge) : s.read.relay = s.relay.read :=
  (apply_ite relay _ _ _).trans (if_congr Iff.rfl (relay_pulled _ _) rfl)

theorem relay_cancel (s : ReceiveBridge) : s.cancel.relay = s.relay.cancel := by
  refine (apply_ite relay _ _ _).trans (if_congr Iff.rfl ?_ rfl)
  have hcancelled := relay_cancelReader { s with readable := s.readable.cancel }
  have hsame : (cancelReader { s with readable := s.readable.cancel }).finished = s.finished :=
    finished_cancelReader
  change { (cancelReader { s with readable := s.readable.cancel }).relay with
    releasePending := !(cancelReader { s with readable := s.readable.cancel }).finished } = _
  rw [hcancelled, hsame]
  rfl

theorem relay_readerFailed (s : ReceiveBridge) : s.readerFailed.relay = s.relay.sourceFailed := by
  unfold readerFailed Relay.sourceFailed
  rw [relay_abort, if_pos (.inr finished_finish), relay_finish]
  rfl

theorem relay_enqueue (s : ReceiveBridge) (hregistered : s.native.registered = true)
    (chunk : List UInt8) : (s.onData chunk).relay = s.relay.enqueue chunk := by
  have hreadable := readable_onData hregistered chunk
  unfold onData Relay.enqueue
  by_cases hcan : s.native.readable.stream.canCloseOrEnqueue = true
  · rw [if_pos (show s.relay.source.stream.canCloseOrEnqueue = true from hcan)]
    simp only [relay, hreadable, hregistered, hcan, true_and]
    rfl
  · rw [if_neg (show ¬ s.relay.source.stream.canCloseOrEnqueue = true from hcan)]
    unfold Delivery.enqueue at hreadable
    rw [if_neg hcan] at hreadable
    simp [relay, hreadable, hcan]

theorem readable_onFin (hregistered : native.registered = true) :
    native.onFin.readable = native.readable.close := by
  unfold NativeReceiveStream.onFin
  rw [if_pos hregistered]

theorem readable_onReset (hregistered : native.registered = true) :
    native.onReset.readable = native.readable.error := by
  unfold NativeReceiveStream.onReset
  rw [if_pos hregistered]

/-- Each event of the bridge is one event of the relay, or none. -/
theorem relay_next (s : ReceiveBridge) (e : ReceiveBridgeEvent) :
    (s.next e).relay = (s.relayEvent e).elim s.relay s.relay.next := by
  have hreset : s.onReset.relay =
      (if s.native.registered then some RelayEvent.fail else none).elim s.relay s.relay.next := by
    unfold onReset
    split_ifs with hregistered
    · rw [relay_withNative, readable_onReset hregistered]
      rfl
    · rfl
  cases e with
  | data chunk =>
    change (s.onData chunk).relay =
      (if s.native.registered then some (RelayEvent.enqueue chunk) else none).elim _ _
    split_ifs with hregistered
    · exact relay_enqueue s hregistered chunk
    · unfold onData NativeReceiveStream.onData
      simp [relay, hregistered]
  | fin =>
    change s.onFin.relay = (if s.native.registered then some RelayEvent.close else none).elim _ _
    unfold onFin
    split_ifs with hregistered
    · rw [relay_withNative, readable_onFin hregistered]
      rfl
    · rfl
  | reset => exact hreset
  | sessionClose => exact hreset
  | nativeStarted =>
    change relay { s with native := s.native.pulled _ } = s.relay
    simp only [relay, readable_setPulled]
  | nativePullSettled =>
    change relay { s with native := s.native.pulled _ } = s.relay
    simp only [relay, readable_setPulled]
  | read => exact relay_read s
  | cancel => exact relay_cancel s
  | abort =>
    refine (relay_abort s).trans ?_
    change _ =
      (if s.aborted = true ∨ s.finished = true then none else some RelayEvent.abort).elim _ _
    split_ifs <;> rfl
  | readerFailed => exact relay_readerFailed s
  | readableStarted => exact relay_pulled s _
  | pullResumed => exact relay_pullResumed s
  | pullSettled => exact relay_pulled { s with pull := none } _
  | cancelled =>
    have hidle : s.finish.relay.releasePending = false := by
      change (_ && !s.finish.finished) = false
      rw [finished_finish]
      exact Bool.and_false _
    have hsame : relay { s.finish with finishPending := false } = s.finish.relay := by
      change { s.finish.relay with releasePending := false } = s.finish.relay
      rw [← hidle]
    refine hsame.trans ((relay_finish s).trans ?_)
    change _ = (if s.finished then none else some RelayEvent.unlocked).elim _ _
    split_ifs with hfinished
    · exact if_pos hfinished
    · rfl

/-- What the bridge may do now, the relay may do as well. -/
theorem relay_enabled (s : ReceiveBridge) (e : ReceiveBridgeEvent)
    (m : RelayEvent (List UInt8)) (he : s.enabled e = true) (hevent : s.relayEvent e = some m) :
    s.relay.enabled m = true := by
  cases e with
  | data chunk => obtain ⟨-, ⟨⟩⟩ := Option.ite_none_right_eq_some.mp hevent; rfl
  | fin => obtain ⟨-, ⟨⟩⟩ := Option.ite_none_right_eq_some.mp hevent; rfl
  | reset => obtain ⟨-, ⟨⟩⟩ := Option.ite_none_right_eq_some.mp hevent; rfl
  | sessionClose => obtain ⟨-, ⟨⟩⟩ := Option.ite_none_right_eq_some.mp hevent; rfl
  | nativeStarted => cases hevent
  | nativePullSettled => cases hevent
  | read => cases hevent; rfl
  | cancel => cases hevent; rfl
  | abort => obtain ⟨-, ⟨⟩⟩ := Option.ite_none_left_eq_some.mp hevent; rfl
  | readerFailed => cases hevent; exact he
  | readableStarted => cases hevent; exact he
  | pullResumed => cases hevent; exact he
  | pullSettled => cases hevent; exact he
  | cancelled =>
    obtain ⟨hfinished, ⟨⟩⟩ := Option.ite_none_left_eq_some.mp hevent
    exact Bool.and_eq_true_iff.mpr ⟨he, by simpa using hfinished⟩

/-- The bridge runs as a relay. -/
def relays : program.Projection (Relay.program (α := List UInt8)) where
  state := relay
  event := relayEvent
  initial := rfl
  enabled := relay_enabled
  next s e _ := relay_next s e

/-- What is known of reachable relays holds of the bridge. -/
theorem steady_of_reachable (h : machine.Reachable s) : s.relay.Steady := by
  obtain ⟨_, es, rfl, hrun⟩ := relays.reachable h
  exact Relay.steady_new.run hrun

/-! ### The native stream's reader -/

/-- The bridge does to the native stream what a reader does: it ends nothing. -/
def Reads (n n' : NativeReceiveStream) : Prop :=
  ∃ ms, NativeReceiveStream.machine.Run n ms n' ∧ .fin ∉ ms

theorem Reads.refl (n : NativeReceiveStream) : Reads n n := ⟨[], .refl, List.not_mem_nil⟩

theorem Reads.trans {a b c : NativeReceiveStream} (h : Reads a b) (h' : Reads b c) : Reads a c := by
  obtain ⟨ms, hrun, hnot⟩ := h
  obtain ⟨ns, hrest, hnone⟩ := h'
  refine ⟨ms ++ ns, hrun.append hrest, fun hmem => ?_⟩
  exact (List.mem_append.mp hmem).elim hnot hnone

theorem Reads.of_next {m : ReceiveStreamEvent} (hm : m ≠ .fin) (he : native.enabled m = true) :
    Reads native (native.next m) :=
  ⟨[m], .single ⟨he, rfl⟩, fun hmem => hm (List.mem_singleton.mp hmem).symm⟩

theorem reads_cancelReader (hs : s.native = native) : Reads native s.cancelReader.native := by
  subst hs
  unfold cancelReader
  split_ifs
  · exact .refl _
  · exact Reads.of_next (m := .cancel) nofun rfl

theorem reads_finish (hs : s.native = native) : Reads native s.finish.native := by
  subst hs
  unfold finish
  split_ifs
  · exact .refl _
  · exact Reads.of_next (m := .release) nofun rfl

theorem reads_abort (hs : s.native = native) : Reads native s.abort.native := by
  have hcancelled : Reads native
      (cancelReader { s with aborted := true, readable := s.readable.error }).native :=
    reads_cancelReader hs
  subst hs
  unfold abort handleAbort
  split_ifs
  · exact .refl _
  · exact .refl _
  · exact hcancelled

theorem reads_pulled (hs : s.native = native) (result : Bool × PullLoop) :
    Reads native (s.pulled result).native := by
  subst hs
  unfold pulled beginPull
  simp only
  split_ifs
  · exact .refl _
  · exact Reads.of_next (m := .read) nofun rfl
  · exact .refl _

theorem reads_callPullIfNeeded (hs : s.native = native) : Reads native s.callPullIfNeeded.native :=
  reads_pulled hs _

theorem reads_pullCaught (hs : s.native = native) : Reads native s.pullCaught.native :=
  (reads_abort (s := { s with readable := s.readable.error }) hs).trans (reads_finish rfl)

theorem reads_pullResumed (s : ReceiveBridge) : Reads s.native s.pullResumed.native := by
  unfold pullResumed
  split
  · simp only
    split_ifs
    · exact reads_callPullIfNeeded rfl
    · exact reads_pullCaught rfl
  · simp only
    split_ifs
    · exact reads_finish rfl
    · exact reads_pullCaught rfl
  · exact reads_pullCaught rfl

/-- Each event is a run of the native stream, with a `fin` only for a `fin`. -/
theorem drives : machine.Simulates NativeReceiveStream.machine ReceiveBridge.native
    fun e m => m = .fin → e = .fin := by
  rintro s e t ⟨he, rfl⟩
  have hreads : Reads s.native (s.next e).native →
      ∃ ms, NativeReceiveStream.machine.Run s.native ms (s.next e).native ∧
        ∀ m ∈ ms, m = .fin → e = .fin := by
    rintro ⟨ms, hrun, hnot⟩
    exact ⟨ms, hrun, fun m hm hfin => absurd (hfin ▸ hm) hnot⟩
  have hreset : Reads s.native s.onReset.native := by
    unfold onReset
    split_ifs
    · exact Reads.of_next (m := .reset) nofun rfl
    · exact .refl _
  cases e with
  | data chunk => exact hreads (Reads.of_next (m := .data chunk) nofun rfl)
  | fin =>
    change ∃ ms, NativeReceiveStream.machine.Run s.native ms s.onFin.native ∧ _
    unfold onFin
    split_ifs
    · exact ⟨[.fin], .single ⟨rfl, rfl⟩, fun _ _ _ => rfl⟩
    · exact ⟨[], .refl, fun _ _ _ => rfl⟩
  | reset => exact hreads hreset
  | sessionClose => exact hreads hreset
  | nativeStarted => exact hreads (Reads.of_next (m := .started) nofun he)
  | nativePullSettled => exact hreads (Reads.of_next (m := .pullSettled) nofun he)
  | read =>
    refine hreads ?_
    change Reads s.native s.read.native
    unfold read
    simp only
    split_ifs
    · exact reads_callPullIfNeeded rfl
    · exact .refl _
  | cancel =>
    have hcancelled :
        Reads s.native (cancelReader { s with readable := s.readable.cancel }).native :=
      reads_cancelReader rfl
    refine hreads ?_
    change Reads s.native s.cancel.native
    unfold cancel
    split_ifs
    · exact hcancelled
    · exact .refl _
  | abort => exact hreads (reads_abort rfl)
  | readerFailed =>
    exact hreads ((reads_finish (s := { s with readable := s.readable.error }) rfl).trans
      (reads_abort rfl))
  | readableStarted => exact hreads (reads_pulled rfl _)
  | pullResumed => exact hreads (reads_pullResumed s)
  | pullSettled => exact hreads (reads_pulled (s := { s with pull := none }) rfl _)
  | cancelled => exact hreads (reads_finish rfl)

/-- The bridge reads its native stream as any reader may, so that the stream below is sound. -/
theorem native_of_reachable (h : machine.Reachable s) : NativeReceiveStream.Sound s.native := by
  refine NativeReceiveStream.sound_of_reachable (drives.reachable ?_ h)
  rintro _ rfl
  rfl

/-! ### An end the peer meant -/

/-- The stream is at its end, or comes to it with its last chunk. -/
def Ends (d : Delivery (List UInt8)) : Prop :=
  d.stream.closeRequested = true ∨ d.stream.state = .closed ∧ d.cancelled = false

theorem ends_read {d : Delivery (List UInt8)} (h : Ends d.read) : Ends d := by
  rcases d.read_cases with ⟨-, heq⟩ | ⟨-, -, heq⟩ | ⟨chunk, rest, hstate, -, heq⟩
  · exact heq ▸ h
  · rw [heq] at h
    exact h
  · rw [heq] at h
    unfold Ends at h ⊢
    simp only at h
    split_ifs at h with hlast
    · exact .inl hlast.2
    · exact h

theorem ends_enqueue {d : Delivery (List UInt8)} (h : Ends (d.enqueue chunk)) : Ends d := by
  unfold Delivery.enqueue ReadableStream.enqueue at h
  split_ifs at h <;> exact h

theorem ends_error {d : Delivery (List UInt8)} (h : Ends d.error) : Ends d := by
  rcases d.error_cases with ⟨-, heq⟩ | ⟨-, heq⟩
  · exact heq ▸ h
  · rw [heq] at h
    exact h.imp id fun hclosed => nomatch hclosed.1

theorem ends_cancel {d : Delivery (List UInt8)} (h : Ends d.cancel) : Ends d := by
  rcases d.cancel_cases with ⟨-, heq⟩ | ⟨-, heq⟩
  · exact heq ▸ h
  · rw [heq] at h
    exact h.imp id fun hclosed => nomatch hclosed.2

/-- Nothing but a `fin` ends the native stream cleanly. -/
theorem ends_next {m : ReceiveStreamEvent} (hm : m ≠ .fin)
    (h : Ends (native.next m).readable) : Ends native.readable := by
  have hreset : Ends native.onReset.readable → Ends native.readable := by
    unfold NativeReceiveStream.onReset
    split_ifs
    · exact ends_error
    · exact id
  cases m with
  | data chunk =>
    by_cases hregistered : native.registered = true
    · change Ends (native.onData chunk).readable at h
      rw [readable_onData hregistered] at h
      exact ends_enqueue h
    · change Ends (native.onData chunk).readable at h
      unfold NativeReceiveStream.onData at h
      rw [if_neg hregistered] at h
      exact h
  | fin => exact absurd rfl hm
  | reset => exact hreset h
  | sessionClose => exact hreset h
  | read =>
    change Ends native.read.readable at h
    rw [readable_read] at h
    exact ends_read h
  | cancel =>
    change Ends native.cancel.readable at h
    rw [readable_cancel] at h
    exact ends_cancel h
  | release => exact h
  | started =>
    change Ends (native.pulled _).readable at h
    rwa [readable_setPulled] at h
  | pullSettled =>
    change Ends (native.pulled _).readable at h
    rwa [readable_setPulled] at h

theorem fin_of_ends (h : machine.Run new es s) (hends : Ends s.native.readable) : .fin ∈ es := by
  obtain ⟨ms, hrun, hallows⟩ := drives.run h
  by_contra hnone
  have hnot : ∀ m ∈ ms, m ≠ .fin := by
    intro m hm hfin
    obtain ⟨e, he, hallowed⟩ := hallows m hm
    exact hnone (hallowed hfin ▸ he)
  have hfresh : ¬ Ends NativeReceiveStream.new.readable := by
    rintro (hclosing | hclosed)
    · cases hclosing
    · cases hclosed.1
  refine Machine.Run.invariant_of_events (P := fun n => ¬ Ends n.readable) (· ≠ .fin) ?_ hrun hnot
    hfresh hends
  rintro n m n' hm ⟨-, rfl⟩ hnot hnow
  exact hnot (ends_next hm hnow)

/-! ### What reaches the handler -/

/-- Whatever the peer, the session and the handler do: the reads of a stream get the chunks that
arrived, in order, at most one chunk that was counted is lost, none on the way while both ends are
open, and a stream that ends for its reads without a cancel has been finished by the peer and has
given them everything. -/
theorem delivers_chunks (h : machine.Run new es s) :
    (s.readable.delivered <+: s.received ∧ s.received <+: s.native.arrived ∧
      s.received.length ≤ s.readable.delivered.length + s.readable.stream.queue.length + 1) ∧
    (s.readable.stream.queue.length ≤ 1 ∧
      s.native.readable.stream.queue.length ≤
        NativeReceiveStream.highWaterMark + s.native.overrun) ∧
    (s.readable.stream.canCloseOrEnqueue = true → s.native.readable.stream.state = .readable →
      ∃ held : List (List UInt8), held.length ≤ 1 ∧ s.native.arrived =
        s.readable.delivered ++ s.readable.stream.queue ++ held ++ s.native.readable.stream.queue) ∧
    (s.readable.stream.state = .closed → s.readable.cancelled = false →
      .fin ∈ es ∧ s.readable.delivered = s.native.arrived) := by
  have hreachable : machine.Reachable s := ⟨new, es, rfl, h⟩
  have hs := steady_of_reachable hreachable
  have hn := native_of_reachable hreachable
  have harrives : s.relay.source.supplied = s.native.arrived := hn.arrives
  obtain ⟨hdelivered, hreceived⟩ := hs.delivered_prefix
  have hreceived_le := Relay.received_le_of_reachable (relays.reachable hreachable)
  refine ⟨⟨hdelivered, harrives ▸ hreceived, hreceived_le⟩, ⟨hs.bounded, hn.backlog⟩, ?_, ?_⟩
  · intro htakes hstate
    rw [← harrives]
    exact hs.conserves htakes hstate
  · intro hclosed hkept
    refine ⟨fin_of_ends h (.inr ?_), harrives ▸ hs.delivers_all hclosed hkept⟩
    have hended : ¬ s.relay.Takes := Relay.not_takes_of_state fun hopen =>
      absurd (hclosed.symm.trans hopen) nofun
    have hintact : s.readable.stream.state ≠ .errored := by
      rw [hclosed]
      nofun
    refine ⟨(hs.graceful hended hkept hintact).1, ?_⟩
    by_contra hcut
    rcases (hs.cut (Bool.not_eq_false _ ▸ hcut)).2 with hcancelled | herrored
    · exact absurd (hkept.symm.trans hcancelled) nofun
    · exact hintact herrored

/-- Two chunks, one behind the other, and the end of the stream behind them. -/
def lastChunks : List ReceiveBridgeEvent :=
  [.readableStarted, .data [1], .data [2, 3], .pullResumed, .pullSettled, .fin, .read, .pullResumed,
    .pullSettled, .read, .pullResumed, .pullSettled]

theorem delivers_last_chunks : ∃ s, machine.Run new lastChunks s ∧
    s.readable.delivered.length = 2 ∧ s.readable.delivered = s.native.arrived := by
  obtain ⟨s, hrun, hclosed, hkept, htwo⟩ := program.exists_run lastChunks new
    (fun s => s.readable.stream.state = .closed ∧ s.readable.cancelled = false ∧
      s.readable.delivered.length = 2) (by decide +kernel)
  obtain ⟨-, -, -, hall⟩ := delivers_chunks hrun
  exact ⟨s, hrun, htwo, (hall hclosed hkept).2⟩

end ReceiveBridge

end NestWebTransport
