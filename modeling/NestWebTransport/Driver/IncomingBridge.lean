import NestWebTransport.Driver.IncomingStreams

/-! What every stretch of an incoming collection keeps. -/
namespace NestWebTransport

namespace IncomingStreamBridge

variable {b : IncomingStreamBridge} {e : BridgeEvent}

/-! ### What an event tells of the bridge it resumes -/

theorem readable_of_arrived {stream : NativeStream} (he : b.enabled (.arrived stream) = true) :
    b.source.state = .readable := ReadableStream.state_of_canCloseOrEnqueue he

theorem readable_of_nativeClosed (he : b.enabled .nativeClosed = true) :
    b.source.state = .readable := ReadableStream.state_of_canCloseOrEnqueue he

theorem readable_of_nativeFailed (he : b.enabled .nativeFailed = true) :
    b.source.state = .readable := beq_iff_eq.mp he

theorem continuing_of_pullContinues (he : b.enabled .pullContinues = true) :
    ∃ result, b.pull = .continuing result := by
  unfold enabled at he
  cases hpull : b.pull with
  | continuing result => exact ⟨result, rfl⟩
  | _ =>
    rw [hpull] at he
    cases he

theorem discarding_of_discardSettled (he : b.enabled .discardSettled = true) :
    b.pull = .discarding := beq_iff_eq.mp he

theorem returned_of_pullSettled (he : b.enabled .pullSettled = true) : b.pull = .returned :=
  beq_iff_eq.mp he

/-! ### The invariant -/

/-- What every stretch of a bridge keeps. -/
structure Coherent (b : IncomingStreamBridge) : Prop where
  direct : b.readable.Direct
  unfinished : b.finished = false → b.held = true ∧ b.readable.state = .readable
  cancelling : b.cancelling = true → b.finished = true
  held : b.finished = true → b.readable.state = .readable → b.held = true → b.cancelling = true
  drained : b.finished = true → b.readable.state = .readable → b.source.state ≠ .readable
  reading : b.pull = .reading → b.source.state = .readable
  asks : b.finished = false → (b.pull = .reading ∨ ∃ result, b.pull = .continuing result) →
    0 < b.readable.reads
  discards : b.pull = .discarding → b.finished = true

/-- A pull that has returned is to be repeated while reads wait. -/
structure Sound (b : IncomingStreamBridge) : Prop extends Coherent b where
  again : b.finished = false → b.pull = .returned → 0 < b.readable.reads → b.pullAgain = true

theorem sound_mapIncomingStream : Sound mapIncomingStream := by
  refine ⟨⟨⟨rfl, rfl, fun _ => rfl⟩, fun _ => ⟨rfl, rfl⟩, nofun, nofun, nofun, nofun, ?_, nofun⟩,
    fun _ _ _ => rfl⟩
  rintro - (h | ⟨result, h⟩) <;> cases h

/-- A pull reads from the source, unless it has let go of its reader. -/
theorem beginPull_eq (b : IncomingStreamBridge) : ∃ source pull,
    b.beginPull = { b with source := source, pull := pull } ∧
      (source.state = .readable → b.source.state = .readable) ∧
      ((pull = .reading ∧ source.state = .readable) ∨ ∃ result, pull = .continuing result) := by
  unfold beginPull
  split
  · exact ⟨_, _, rfl, id, Or.inr ⟨_, rfl⟩⟩
  · have hstate := ReadableStream.read_state (r := b.source)
    have hnone := ReadableStream.read_none (r := b.source)
    generalize b.source.read = answered at hstate hnone
    obtain ⟨result, source⟩ := answered
    cases result with
    | none => exact ⟨source, .reading, rfl, hstate, Or.inl ⟨rfl, hnone rfl⟩⟩
    | some result => exact ⟨source, .continuing result, rfl, hstate, Or.inr ⟨result, rfl⟩⟩

/-- After `callPullIfNeeded` a returned pull is repeated where reads wait. -/
theorem Coherent.callPullIfNeeded (h : Coherent b) : Sound b.callPullIfNeeded := by
  unfold IncomingStreamBridge.callPullIfNeeded
  split
  · rename_i hpull
    obtain ⟨hstate, hreads⟩ := h.direct.shouldCallPull_iff.mp hpull
    split
    · obtain ⟨source, pull, heq, hsource, hpulls⟩ := b.beginPull_eq
      rw [heq]
      refine ⟨⟨h.direct, h.unfinished, h.cancelling, h.held, ?_, ?_, fun _ _ => hreads, ?_⟩, ?_⟩
      · exact fun hfinished hreadable hs => h.drained hfinished hreadable (hsource hs)
      · rintro hreading
        rcases hpulls with ⟨-, hs⟩ | ⟨result, hresult⟩
        · exact hs
        · rw [show pull = .reading from hreading] at hresult
          cases hresult
      · intro hdiscarding
        rcases hpulls with ⟨hs, -⟩ | ⟨result, hs⟩ <;>
          rw [show pull = .discarding from hdiscarding] at hs <;> cases hs
      · rintro - hreturned -
        rcases hpulls with ⟨hs, -⟩ | ⟨result, hs⟩ <;>
          rw [show pull = .returned from hreturned] at hs <;> cases hs
    · exact ⟨{ h with }, fun _ _ _ => rfl⟩
  · rename_i hpull
    refine ⟨h, fun hunfinished _ hreads => absurd ?_ hpull⟩
    exact h.direct.shouldCallPull_iff.mpr ⟨(h.unfinished hunfinished).2, hreads⟩

/-- A reader that is let go of leaves a collection that has ended. -/
theorem sound_release {readable : ReadableStream NativeStream} (hdirect : readable.Direct)
    (hended : readable.state ≠ .readable) :
    Sound { b with readable := readable, pull := .returned }.release := by
  refine ⟨⟨hdirect, nofun, fun _ => rfl, ?_, ?_, nofun, nofun, nofun⟩, nofun⟩
  · exact fun _ hstate => absurd hstate hended
  · exact fun _ hstate => absurd hstate hended

theorem cancel_state (r : ReadableStream NativeStream) : r.cancel.state ≠ .readable := by
  unfold ReadableStream.cancel
  split
  · nofun
  · assumption

theorem answer_eq (b : IncomingStreamBridge) (result : ReadResult NativeStream) : ∃ pull,
    b.answer result = { b with pull := pull } ∧ pull ≠ .reading ∧
      (pull = b.pull ∨ b.pull = .reading ∧ pull = .continuing result) := by
  unfold answer
  split
  · exact ⟨_, rfl, nofun, Or.inr ⟨‹_›, rfl⟩⟩
  · exact ⟨b.pull, rfl, ‹_›, Or.inl rfl⟩

/-- `cancel`, of a collection that is still readable or that the application has cancelled. -/
theorem Sound.cancel (h : Sound b) {readable : ReadableStream NativeStream}
    (hreadable : readable = b.readable ∨ readable = b.readable.terminate .closed) :
    Sound { b with readable := readable }.cancel := by
  have hdirect : readable.Direct := by
    rcases hreadable with rfl | rfl
    · exact h.direct
    · exact h.direct.terminate _
  have hstill : readable.state = .readable → readable = b.readable := by
    rcases hreadable with rfl | rfl
    · exact fun _ => rfl
    · nofun
  unfold IncomingStreamBridge.cancel
  split
  · rename_i hfinished
    replace hfinished : b.finished = true := hfinished
    refine ⟨⟨hdirect, fun hf => ?_, h.cancelling, fun _ hstate => ?_, fun _ hstate => ?_, h.reading,
      fun hf => ?_, h.discards⟩, fun hf => ?_⟩
    · rw [show b.finished = false from hf] at hfinished
      cases hfinished
    · exact h.held hfinished (hstill hstate ▸ hstate)
    · exact h.drained hfinished (hstill hstate ▸ hstate)
    · rw [show b.finished = false from hf] at hfinished
      cases hfinished
    · rw [show b.finished = false from hf] at hfinished
      cases hfinished
  · obtain ⟨pull, heq, hpull, -⟩ := answer_eq { b with readable := readable } .done
    rw [heq]
    refine ⟨⟨hdirect, nofun, fun _ => rfl, fun _ _ _ => rfl, fun _ _ => cancel_state _, ?_, nofun,
      fun _ => rfl⟩, nofun⟩
    exact fun hreading => absurd hreading hpull

/-- Once `finish` has run, a pull that goes on leaves the reads as they are. -/
theorem Sound.goes (h : Sound b) (hfinished : b.finished = true) {pull : IncomingPull}
    (hpull : pull ≠ .reading) : Sound { b with pull := pull } := by
  refine ⟨⟨h.direct, h.unfinished, h.cancelling, h.held, h.drained, ?_, ?_, fun _ => hfinished⟩, ?_⟩
  · exact fun hreading => absurd hreading hpull
  · intro hf
    rw [show b.finished = false from hf] at hfinished
    cases hfinished
  · intro hf
    rw [show b.finished = false from hf] at hfinished
    cases hfinished

/-- A stream that is passed on answers one read, and the next pull is begun or remembered. -/
theorem Sound.enqueue (h : Sound b) (hfinished : b.finished = false) {stream : NativeStream}
    (hpull : b.pull = .continuing (.value stream)) :
    Sound { { b with readable := b.readable.enqueue stream }.callPullIfNeeded with
      pull := .returned } := by
  obtain ⟨hdirect, hstate⟩ := h.direct.enqueue (h.asks hfinished (Or.inr ⟨_, hpull⟩)) stream
  have hkept : ∀ pullAgain : Bool,
      (0 < (b.readable.enqueue stream).reads → pullAgain = true) →
      Sound { b with
        readable := b.readable.enqueue stream
        pull := .returned
        pullAgain := pullAgain } := by
    intro pullAgain hagain
    refine ⟨⟨hdirect, ?_, h.cancelling, ?_, ?_, nofun, ?_, nofun⟩, fun _ _ => hagain⟩
    · exact fun hf => ⟨(h.unfinished hf).1, hstate.trans (h.unfinished hf).2⟩
    · exact fun hf hs => h.held hf (hstate ▸ hs)
    · exact fun hf hs => h.drained hf (hstate ▸ hs)
    · rintro - (hs | ⟨result, hs⟩) <;> cases hs
  unfold IncomingStreamBridge.callPullIfNeeded
  split
  · rw [if_neg (by rw [hpull]; nofun)]
    exact hkept true fun _ => rfl
  · rename_i hnot
    refine hkept b.pullAgain fun hreads => absurd ?_ hnot
    exact hdirect.shouldCallPull_iff.mpr ⟨hstate.trans (h.unfinished hfinished).2, hreads⟩

theorem Sound.pullContinues (h : Sound b) : Sound b.pullContinues := by
  unfold IncomingStreamBridge.pullContinues
  split
  · exact sound_release h.direct.error.1 h.direct.error.2
  · split
    · exact h.goes ‹_› nofun
    · exact sound_release h.direct.close.1 h.direct.close.2
  · rename_i stream hpull
    split
    · exact h.goes ‹_› nofun
    · rename_i hfinished
      split
      · exact h.enqueue (by simpa using hfinished) hpull
      · exact sound_release h.direct.error.1 h.direct.error.2
  · exact h

theorem Sound.pullSettled (h : Sound b) : Sound b.pullSettled := by
  unfold IncomingStreamBridge.pullSettled
  split
  · refine Coherent.callPullIfNeeded { h with reading := nofun, asks := ?_, discards := nofun }
    rintro - (hs | ⟨result, hs⟩) <;> cases hs
  · refine ⟨{ h with reading := nofun, asks := ?_, discards := nofun }, nofun⟩
    rintro - (hs | ⟨result, hs⟩) <;> cases hs

/-- The native collection changes while it is readable. -/
theorem Sound.native (h : Sound b) (hsource : b.source.state = .readable)
    (result : ReadResult NativeStream) (source : ReadableStream NativeStream) :
    Sound { b.answer result with source := source } := by
  obtain ⟨pull, heq, hpull, hfrom⟩ := answer_eq b result
  rw [heq]
  refine ⟨⟨h.direct, h.unfinished, h.cancelling, h.held, ?_, ?_, ?_, ?_⟩, ?_⟩
  · exact fun hf hs => absurd hsource (h.drained hf hs)
  · exact fun hreading => absurd hreading hpull
  · intro hf hasks
    rcases hfrom with rfl | ⟨hreading, -⟩
    · exact h.asks hf hasks
    · exact h.asks hf (Or.inl hreading)
  · intro hdiscarding
    rcases hfrom with rfl | ⟨-, hs⟩
    · exact h.discards hdiscarding
    · rw [show pull = .discarding from hdiscarding] at hs
      cases hs
  · intro hf hreturned
    rcases hfrom with rfl | ⟨-, hs⟩
    · exact h.again hf hreturned
    · rw [show pull = .returned from hreturned] at hs
      cases hs

/-- The application has called `read`. -/
theorem Coherent.read (h : Coherent b) : Coherent { b with readable := b.readable.read.2 } := by
  rcases h.direct.read with ⟨-, heq⟩ | ⟨hstate, heq⟩
  · rw [heq]
    exact h
  · rw [heq]
    exact { h with
      direct := ⟨h.direct.queue, h.direct.unrequested, fun hne => absurd hstate hne⟩
      asks := fun _ _ => Nat.succ_pos _ }

/-- Each event keeps the bridge coherent, and a pull that has returned is still to be repeated while
reads wait. -/
theorem Sound.next (h : Sound b) (he : b.enabled e = true) : Sound (b.next e) := by
  cases e with
  | read => exact h.read.callPullIfNeeded
  | cancelled =>
    unfold IncomingStreamBridge.next
    simp only
    split
    · rename_i hstate
      refine h.cancel (Or.inr ?_)
      unfold ReadableStream.cancel
      rw [if_pos hstate]
    · exact h
  | arrived stream => exact h.native (readable_of_arrived he) _ _
  | nativeClosed => exact h.native (readable_of_nativeClosed he) _ _
  | nativeFailed => exact h.native (readable_of_nativeFailed he) _ _
  | pullContinues => exact h.pullContinues
  | discardSettled => exact h.goes (h.discards (discarding_of_discardSettled he)) nofun
  | pullSettled => exact h.pullSettled
  | cancelSettled =>
    have hfinished := h.cancelling he
    exact ⟨{ h with unfinished := nofun, cancelling := fun _ => rfl, held := nofun
                    drained := fun _ => h.drained hfinished, asks := nofun
                    discards := fun _ => rfl }, nofun⟩

end IncomingStreamBridge

end NestWebTransport
