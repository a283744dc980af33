import NestWebTransport.Driver.IncomingHistory
import Mathlib.Data.List.Infix

/-! One native stream that cannot be adapted, and the rest of its collection. -/
namespace NestWebTransport

/-! ### From the native collection to the pull -/

namespace IncomingStreamBridge

variable {b c d : IncomingStreamBridge} {e : BridgeEvent}

def pending (b : IncomingStreamBridge) : List NativeStream := b.inPull ++ b.source.queue

/-- The one native read there can be is that of the pull. -/
structure Sourced (b : IncomingStreamBridge) : Prop where
  reading : b.pull = .reading → b.source.queue = [] ∧ b.source.reads = 1
  unread : b.pull ≠ .reading → b.source.reads = 0

/-- No stream is added, and while the native collection is readable none is lost. -/
structure Pends (b c : IncomingStreamBridge) : Prop where
  pending : c.pending <+: b.pending
  whole : c.source.state = .readable → b.source.state = .readable ∧ c.pending = b.pending

theorem Pends.refl (b : IncomingStreamBridge) : Pends b b := ⟨List.prefix_refl _, fun h => ⟨h, rfl⟩⟩

theorem Pends.trans (h : Pends b c) (h' : Pends c d) : Pends b d :=
  ⟨h'.pending.trans h.pending, fun hs =>
    ⟨(h.whole (h'.whole hs).1).1, (h'.whole hs).2.trans (h.whole (h'.whole hs).1).2⟩⟩

theorem inPull_of_ne (h : ∀ stream, b.pull ≠ .continuing (.value stream)) : b.inPull = [] := by
  unfold inPull
  split
  · rename_i stream hpull
    exact absurd hpull (h stream)
  · rfl

theorem mem_inPull {stream : NativeStream} :
    stream ∈ b.inPull ↔ b.pull = .continuing (.value stream) := by
  unfold inPull
  split
  · rename_i other hpull
    rw [hpull, List.mem_singleton]
    exact ⟨fun h => by rw [h], by rintro ⟨⟩; rfl⟩
  · rename_i hnone
    exact ⟨nofun, fun hpull => absurd hpull (hnone stream)⟩

theorem pending_eq (hpull : c.pull = b.pull) (hqueue : c.source.queue = b.source.queue) :
    c.pending = b.pending := by
  unfold pending inPull
  rw [hpull, hqueue]

theorem Pends.of_same (h : Pends d c) (hpull : d.pull = b.pull) (hsource : d.source = b.source) :
    Pends b c := by
  have hsame : d.pending = b.pending := pending_eq hpull (by rw [hsource])
  exact ⟨hsame ▸ h.pending, fun hs => hsource ▸ hsame ▸ h.whole hs⟩

/-- A pull makes the one native read there is. -/
theorem sourced_beginPull (h : Sourced b) (hpull : b.inPull = []) (hidle : b.pull ≠ .reading) :
    Sourced b.beginPull ∧ Pends b b.beginPull := by
  have hreads := h.unread hidle
  have hsame : ∀ {source : ReadableStream NativeStream} {pull : IncomingPull},
      (source.state = .readable → b.source.state = .readable) →
      inPull { b with source := source, pull := pull } ++ source.queue = b.source.queue →
      Pends b { b with source := source, pull := pull } := by
    intro source pull hstate hqueue
    have hpending : pending { b with source := source, pull := pull } = b.pending := by
      unfold pending
      rw [hpull]
      exact hqueue
    exact ⟨hpending ▸ List.prefix_refl _, fun hreadable => ⟨hstate hreadable, hpending⟩⟩
  unfold beginPull
  split
  · exact ⟨⟨nofun, fun _ => hreads⟩, @hsame b.source _ id rfl⟩
  · rcases b.source.read_cases with ⟨-, heq | heq⟩ | ⟨hstate, hqueue, heq⟩ |
      ⟨chunk, rest, source, hstate, hqueue, heq, hrest, hwaiting⟩
    · rw [heq]
      exact ⟨⟨nofun, fun _ => hreads⟩, @hsame b.source _ id rfl⟩
    · rw [heq]
      exact ⟨⟨nofun, fun _ => hreads⟩, @hsame b.source _ id rfl⟩
    · rw [heq]
      exact ⟨⟨fun _ => ⟨hqueue, congrArg (· + 1) hreads⟩, fun hne => absurd rfl hne⟩,
        hsame (fun _ => hstate) rfl⟩
    · rw [heq]
      refine ⟨⟨nofun, fun _ => ?_⟩, hsame (fun _ => hstate) ?_⟩
      · rcases hwaiting with hwaiting | hwaiting
        · exact hwaiting.trans hreads
        · exact hwaiting
      · rw [hqueue, hrest]
        rfl

theorem sourced_callPullIfNeeded (h : Sourced b) :
    Sourced b.callPullIfNeeded ∧ Pends b b.callPullIfNeeded := by
  unfold callPullIfNeeded
  split
  · split
    · rename_i hidle
      exact sourced_beginPull h (inPull_of_ne (by rw [hidle]; nofun)) (by rw [hidle]; nofun)
    · exact ⟨⟨h.reading, h.unread⟩, ⟨List.prefix_refl _, fun hs => ⟨hs, rfl⟩⟩⟩
  · exact ⟨h, .refl b⟩

/-- The native `read` of a pull settles without a stream. -/
theorem Sourced.settles (result : ReadResult NativeStream)
    (hresult : ∀ stream, result ≠ .value stream)
    (hpull : c.pull = (b.answer result).pull) (hreads : c.source.reads = 0)
    (hqueue : c.source.queue <+: b.source.queue)
    (hwhole : c.source.state = .readable →
      b.source.state = .readable ∧ c.source.queue = b.source.queue) :
    Sourced c ∧ Pends b c := by
  have hinPull : c.inPull = b.inPull := by
    unfold inPull
    rw [hpull]
    unfold IncomingStreamBridge.answer
    by_cases hreading : b.pull = .reading
    · simp only [hreading, if_true]
      cases result with
      | value stream => exact absurd rfl (hresult stream)
      | done => rfl
      | failed => rfl
    · rw [if_neg hreading]
  obtain ⟨pull, heq, hleft, -⟩ := answer_eq b result
  refine ⟨⟨fun hreading => ?_, fun _ => hreads⟩, ?_, fun hreadable => ⟨(hwhole hreadable).1, ?_⟩⟩
  · rw [hpull, heq] at hreading
    exact absurd hreading hleft
  · unfold pending
    rw [hinPull]
    exact (List.prefix_append_right_inj _).mpr hqueue
  · unfold pending
    rw [hinPull, (hwhole hreadable).2]

/-- Nothing is left of a native collection that becomes terminal while it is readable. -/
theorem Sourced.terminates (h : Sourced b)
    (hreading : b.pull = .reading → b.source.state = .readable)
    (hpull : c.pull = (b.answer .done).pull) (hsource : c.source = b.source.cancel) :
    Sourced c ∧ Pends b c := by
  refine Sourced.settles .done nofun hpull ?_ ?_ ?_
  · rw [hsource]
    unfold ReadableStream.cancel
    split
    · rfl
    · rename_i hended
      exact h.unread fun hs => hended (hreading hs)
  · rw [hsource]
    unfold ReadableStream.cancel
    split
    · exact List.nil_prefix
    · exact List.prefix_refl _
  · rw [hsource]
    exact fun hreadable => absurd hreadable (cancel_state _)

theorem Sourced.cancel (h : Sourced b) (hreading : b.pull = .reading → b.source.state = .readable) :
    Sourced b.cancel ∧ Pends b b.cancel := by
  unfold IncomingStreamBridge.cancel
  split
  · exact ⟨h, .refl b⟩
  · exact h.terminates hreading rfl rfl

/-- A pull that is neither reading nor about to go on with a stream changes its stage. -/
theorem Sourced.goes (h : Sourced b) (hpull : b.inPull = []) (hidle : b.pull ≠ .reading)
    (hpull' : c.inPull = []) (hidle' : c.pull ≠ .reading) (hsource : c.source = b.source) :
    Sourced c ∧ Pends b c := by
  have hsame : c.pending = b.pending := by
    unfold pending
    rw [hpull, hpull', hsource]
  refine ⟨⟨fun hreading => absurd hreading hidle', fun _ => ?_⟩, hsame ▸ List.prefix_refl _,
    fun hs => ⟨hsource ▸ hs, hsame⟩⟩
  rw [hsource]
  exact h.unread hidle

/-- The source is not touched between two reads. -/
theorem source_pullContinues (b : IncomingStreamBridge) :
    b.pullContinues.source = b.source ∧ (b.enabled .pullContinues = true →
      b.pullContinues.inPull = [] ∧ b.pullContinues.pull ≠ .reading ∧ b.pull ≠ .reading) := by
  refine ⟨?_, fun he => ?_⟩
  · unfold IncomingStreamBridge.pullContinues
    split
    · rfl
    · split <;> rfl
    · rename_i stream hpull
      split
      · rfl
      · split
        · simp only [IncomingStreamBridge.callPullIfNeeded, hpull]
          split <;> rfl
        · rfl
    · rfl
  · refine ⟨inPull_of_ne fun stream hs => ?_, fun hs => ?_, fun hs => ?_⟩
    · rcases pullContinues_pull he with heq | heq <;> rw [heq] at hs <;> cases hs
    · rcases pullContinues_pull he with heq | heq <;> rw [heq] at hs <;> cases hs
    · simp [enabled, hs] at he

/-- What neither adds a stream nor hands one to the pull. -/
theorem Sourced.next (h : Sourced b) (hsound : Sound b) (he : b.enabled e = true)
    (harrived : ∀ stream, e ≠ .arrived stream)
    (hreceived : e = .pullContinues → b.inPull = []) : Sourced (b.next e) ∧ Pends b (b.next e) := by
  cases e with
  | read =>
    obtain ⟨hsourced, hpends⟩ := sourced_callPullIfNeeded
      (b := { b with readable := b.readable.read.2 }) ⟨h.reading, h.unread⟩
    exact ⟨hsourced, hpends.of_same rfl rfl⟩
  | cancelled =>
    change Sourced (if _ then _ else b) ∧ Pends b (if _ then _ else b)
    split
    · obtain ⟨hsourced, hpends⟩ := Sourced.cancel (b := { b with readable := b.readable.cancel })
        ⟨h.reading, h.unread⟩ hsound.reading
      exact ⟨hsourced, hpends.of_same rfl rfl⟩
    · exact ⟨h, .refl b⟩
  | arrived stream => exact absurd rfl (harrived stream)
  | nativeClosed =>
    by_cases hqueue : b.source.queue = []
    · have hclosed : b.source.close = b.source.cancel := by
        unfold ReadableStream.close ReadableStream.cancel
        rw [if_pos (show b.source.canCloseOrEnqueue = true from he), if_pos hqueue,
          if_pos (readable_of_nativeClosed he)]
      exact h.terminates hsound.reading rfl hclosed
    · have hclosed : b.source.close = { b.source with closeRequested := true } := by
        unfold ReadableStream.close
        rw [if_pos (show b.source.canCloseOrEnqueue = true from he), if_neg hqueue]
      have hunread : b.source.reads = 0 := h.unread fun hs => hqueue (h.reading hs).1
      have hnext : (b.next .nativeClosed).source = { b.source with closeRequested := true } :=
        hclosed
      refine Sourced.settles .done nofun rfl ?_ ?_ ?_ <;> rw [hnext]
      · exact hunread
      · exact fun hs => ⟨hs, rfl⟩
  | nativeFailed =>
    have hnext : (b.next .nativeFailed).source = b.source.terminate .errored :=
      if_pos (readable_of_nativeFailed he)
    refine Sourced.settles .failed nofun rfl ?_ ?_ ?_ <;> rw [hnext]
    · rfl
    · exact List.nil_prefix
    · nofun
  | pullContinues =>
    obtain ⟨hsource, hpulls⟩ := source_pullContinues b
    obtain ⟨hpull, hidle, hbefore⟩ := hpulls he
    exact h.goes (hreceived rfl) hbefore hpull hidle hsource
  | discardSettled =>
    have he := discarding_of_discardSettled he
    exact h.goes (inPull_of_ne (by rw [he]; nofun)) (by rw [he]; nofun) rfl nofun rfl
  | pullSettled =>
    have he := returned_of_pullSettled he
    have hidle : ∀ c : IncomingStreamBridge, c.pull = .idle → c.source = b.source →
        Sourced c ∧ Pends b c := fun c hc hsource =>
      h.goes (inPull_of_ne (by rw [he]; nofun)) (by rw [he]; nofun)
        (inPull_of_ne (by rw [hc]; nofun)) (by rw [hc]; nofun) hsource
    change Sourced b.pullSettled ∧ Pends b b.pullSettled
    unfold IncomingStreamBridge.pullSettled
    split
    · obtain ⟨hsourced, hpends⟩ := hidle { b with pull := .idle, pullAgain := false } rfl rfl
      obtain ⟨hpulled, hpends'⟩ := sourced_callPullIfNeeded hsourced
      exact ⟨hpulled, hpends.trans hpends'⟩
    · exact hidle _ rfl rfl
  | cancelSettled => exact ⟨⟨h.reading, h.unread⟩, ⟨List.prefix_refl _, fun hs => ⟨hs, rfl⟩⟩⟩

/-- A stream that arrives goes to the pull that waits for it, or to the end of the queue. -/
theorem Sourced.arrived (h : Sourced b) {stream : NativeStream}
    (he : b.enabled (.arrived stream) = true) : Sourced (b.next (.arrived stream)) ∧
      (b.next (.arrived stream)).pending = b.pending ++ [stream] ∧
      (b.next (.arrived stream)).source.state = b.source.state := by
  change Sourced { b.answer (.value stream) with source := b.source.enqueue stream } ∧
    pending { b.answer (.value stream) with source := b.source.enqueue stream } = _ ∧
    (b.source.enqueue stream).state = _
  unfold ReadableStream.enqueue IncomingStreamBridge.answer
  rw [if_pos (show b.source.canCloseOrEnqueue = true from he)]
  by_cases hreading : b.pull = .reading
  · obtain ⟨hqueue, hreads⟩ := h.reading hreading
    rw [if_pos hreading, if_pos (by omega)]
    refine ⟨⟨nofun, fun _ => ?_⟩, ?_, rfl⟩
    · change b.source.reads - 1 = 0
      omega
    · unfold pending
      rw [inPull_of_ne (b := b) (by rw [hreading]; nofun)]
      change [stream] ++ b.source.queue = [] ++ b.source.queue ++ [stream]
      rw [hqueue]
      rfl
  · have hreads := h.unread hreading
    rw [if_neg hreading, if_neg (by omega)]
    refine ⟨⟨fun hs => absurd hs hreading, fun _ => hreads⟩, ?_, rfl⟩
    exact (List.append_assoc ..).symm

/-- The stream that the pull goes on with is taken from what is pending. -/
theorem Sourced.received (h : Sourced b) {stream : NativeStream}
    (hpull : b.pull = .continuing (.value stream)) : Sourced b.pullContinues ∧
      b.pending = stream :: b.pullContinues.pending ∧
      b.pullContinues.source.state = b.source.state := by
  obtain ⟨hsource, hpulls⟩ := source_pullContinues b
  obtain ⟨hleft, hidle, hbefore⟩ := hpulls (by simp [enabled, hpull])
  refine ⟨⟨fun hs => absurd hs hidle, fun _ => ?_⟩, ?_, by rw [hsource]⟩
  · rw [hsource]
    exact h.unread hbefore
  · unfold pending
    rw [hleft, hsource]
    unfold inPull
    rw [hpull]
    rfl

/-- A pull that goes on with the end of the native collection finds it ended. -/
def Settles (b : IncomingStreamBridge) : Prop :=
  b.finished = false → b.pull = .continuing .done ∨ b.pull = .continuing .failed →
    b.source.state ≠ .readable

/-- A pull that begins finds the end of the collection only where it has ended. -/
theorem Coherent.settles (h : Coherent b) (hsettles : Settles b) : Settles b.callPullIfNeeded := by
  intro hfinished
  rw [(finished_callPullIfNeeded b).1] at hfinished
  unfold IncomingStreamBridge.callPullIfNeeded
  split
  · split
    · unfold beginPull
      rw [if_neg (by rw [(h.unfinished hfinished).1]; nofun)]
      rcases b.source.read_cases with ⟨hstate, heq | heq⟩ | ⟨-, -, heq⟩ |
        ⟨chunk, rest, source, -, -, heq, -⟩
      · rw [heq]
        exact fun _ => hstate
      · rw [heq]
        exact fun _ => hstate
      · rw [heq]
        rintro (hs | hs) <;> cases hs
      · rw [heq]
        rintro (hs | hs) <;> cases hs
    · exact hsettles hfinished
  · exact hsettles hfinished

/-- An answer that is no stream comes from a collection that has ended. -/
theorem Settles.answer (h : Settles b) (result : ReadResult NativeStream)
    (hpull : c.pull = (b.answer result).pull) (hfinished : c.finished = b.finished)
    (hstate : c.source.state = .readable → b.source.state = .readable)
    (hresult : b.pull = .reading → (∃ stream, result = .value stream) ∨
      c.source.state ≠ .readable) :
    Settles c := by
  intro hunfinished hends hreadable
  rw [hpull] at hends
  unfold IncomingStreamBridge.answer at hends
  by_cases hreading : b.pull = .reading
  · rcases hresult hreading with ⟨stream, rfl⟩ | hended
    · rw [if_pos hreading] at hends
      rcases hends with hs | hs <;> cases hs
    · exact hended hreadable
  · rw [if_neg hreading] at hends
    exact h (hfinished ▸ hunfinished) hends (hstate hreadable)

/-- A pull that goes on with the end of the native collection still finds it ended. -/
theorem Sourced.settles_next (h : Sourced b) (hsound : Sound b) (hsettles : Settles b)
    (he : b.enabled e = true) : Settles (b.next e) := by
  cases e with
  | read => exact hsound.read.settles hsettles
  | cancelled =>
    change Settles (if _ then _ else b)
    split
    · intro hunfinished
      rw [finished_cancel] at hunfinished
      cases hunfinished
    · exact hsettles
  | arrived stream =>
    refine hsettles.answer (.value stream) rfl (finished_answer b _) ?_
      fun _ => Or.inl ⟨stream, rfl⟩
    rw [(h.arrived he).2.2]
    exact id
  | nativeClosed =>
    have hpends := (h.next hsound he nofun nofun).2
    refine hsettles.answer .done rfl (finished_answer b _) (fun hs => (hpends.whole hs).1)
      fun hreading => Or.inr ?_
    have hclosed : b.source.close = b.source.terminate .closed := by
      unfold ReadableStream.close
      rw [if_pos (show b.source.canCloseOrEnqueue = true from he), if_pos (h.reading hreading).1]
    change b.source.close.state ≠ .readable
    rw [hclosed]
    nofun
  | nativeFailed =>
    have hpends := (h.next hsound he nofun nofun).2
    refine hsettles.answer .failed rfl (finished_answer b _) (fun hs => (hpends.whole hs).1)
      fun _ => Or.inr ?_
    have hfailed : b.source.error = b.source.terminate .errored :=
      if_pos (readable_of_nativeFailed he)
    change b.source.error.state ≠ .readable
    rw [hfailed]
    nofun
  | pullContinues =>
    intro _ hs
    change b.pullContinues.pull = _ ∨ b.pullContinues.pull = _ at hs
    rcases pullContinues_pull he with heq | heq <;> rw [heq] at hs <;> rcases hs with hs | hs <;>
      cases hs
  | discardSettled => exact fun _ hs => by rcases hs with hs | hs <;> cases hs
  | pullSettled =>
    change Settles b.pullSettled
    unfold IncomingStreamBridge.pullSettled
    split
    · refine Coherent.settles { hsound with reading := nofun, asks := ?_, discards := nofun } ?_
      · rintro - (hs | ⟨result, hs⟩) <;> cases hs
      · rintro - (hs | hs) <;> cases hs
    · rintro - (hs | hs) <;> cases hs
  | cancelSettled => exact nofun

/-- Only a cancellation or a pull makes a collection finish. -/
theorem finished_of_next (h : Coherent b) (he : b.enabled e = true)
    (hfinished : (b.next e).finished = true) :
    b.finished = true ∨ e = .pullContinues ∨ e = .cancelled ∧ b.readable.state = .readable := by
  cases e with
  | read =>
    exact Or.inl ((finished_callPullIfNeeded { b with readable := b.readable.read.2 }).1.symm.trans
      hfinished)
  | cancelled =>
    by_cases hstate : b.readable.state = .readable
    · exact Or.inr (Or.inr ⟨rfl, hstate⟩)
    · simp only [next, if_neg hstate] at hfinished
      exact Or.inl hfinished
  | arrived stream => exact Or.inl ((finished_answer b _).symm.trans hfinished)
  | nativeClosed => exact Or.inl ((finished_answer b _).symm.trans hfinished)
  | nativeFailed => exact Or.inl ((finished_answer b _).symm.trans hfinished)
  | pullContinues => exact Or.inr (Or.inl rfl)
  | discardSettled => exact Or.inl hfinished
  | pullSettled =>
    change b.pullSettled.finished = true at hfinished
    unfold IncomingStreamBridge.pullSettled at hfinished
    split at hfinished
    · exact Or.inl ((finished_callPullIfNeeded
        { b with pull := .idle, pullAgain := false }).1.symm.trans hfinished)
    · exact Or.inl hfinished
  | cancelSettled => exact Or.inl (h.cancelling he)

end IncomingStreamBridge

/-! ### What becomes of the streams -/

namespace CollectionHistory

variable {h : CollectionHistory} {e : BridgeEvent}

/-- What every stretch keeps while no stream is received that cannot be adapted. -/
structure Kept (h : CollectionHistory) : Prop where
  sound : h.bridge.Sound
  sourced : h.bridge.Sourced
  served : h.bridge.finished = false → h.bridge.Served
  flows : h.received ++ h.bridge.pending <+: h.arrived
  whole : h.bridge.source.state = .readable → h.received ++ h.bridge.pending = h.arrived
  yields : h.yielded <+: h.received.filter (·.adaptable)
  all : h.bridge.finished = false → h.yielded = h.received.filter (·.adaptable)
  settles : h.bridge.Settles
  ends : h.bridge.finished = true → h.cancelled = true ∨ h.bridge.source.state ≠ .readable
  discards : ∀ stream : NativeStream, stream.adaptable = false →
    h.received.count stream = h.discarded.count stream

theorem Kept.tolerates (hk : Kept h) : Tolerates h := by
  have hreceived : h.received <+: h.arrived := (List.prefix_append _ _).trans hk.flows
  refine ⟨hk.yields.trans (hreceived.filter _), fun hunfinished hquiescent hreads => ?_, hk.ends,
    fun stream hstream => Nat.le_of_eq (hk.discards stream hstream)⟩
  have hstate := (hk.sound.unfinished hunfinished).2
  have hreading : h.bridge.pull = .reading :=
    hquiescent.1.resolve_left (hk.served hunfinished hstate hreads)
  have hpending : h.bridge.pending = [] := by
    unfold IncomingStreamBridge.pending
    rw [(hk.sourced.reading hreading).1,
      IncomingStreamBridge.inPull_of_ne (by rw [hreading]; nofun)]
    rfl
  have hwhole := hk.whole (hk.sound.reading hreading)
  rw [hpending, List.append_nil] at hwhole
  rw [hk.all hunfinished, hwhole]

/-- What neither adds a stream nor hands one to the pull. -/
theorem Kept.moves (hk : Kept h) {bridge : IncomingStreamBridge} {cancelled : Bool}
    (hsound : bridge.Sound) (hserved : bridge.finished = false → bridge.Served)
    (hmoves : bridge.Sourced ∧ h.bridge.Pends bridge) (hsettles : bridge.Settles)
    (hfinished : h.bridge.finished = true → bridge.finished = true)
    (hcancelled : h.cancelled = true → cancelled = true)
    (hends : bridge.finished = true → h.bridge.finished = false →
      cancelled = true ∨ bridge.source.state ≠ .readable) :
    Kept { h with bridge := bridge, cancelled := cancelled } := by
  obtain ⟨hsourced, hpends⟩ := hmoves
  have hbefore : bridge.finished = false → h.bridge.finished = false := by
    intro hunfinished
    cases hf : h.bridge.finished with
    | false => rfl
    | true =>
      rw [hfinished hf] at hunfinished
      cases hunfinished
  refine ⟨hsound, hsourced, hserved, ?_, fun hs => ?_, hk.yields, fun hf => hk.all (hbefore hf),
    hsettles, fun hf => ?_, hk.discards⟩
  · exact ((List.prefix_append_right_inj _).mpr hpends.pending).trans hk.flows
  · change h.received ++ bridge.pending = h.arrived
    rw [(hpends.whole hs).2]
    exact hk.whole (hpends.whole hs).1
  · cases hlast : h.bridge.finished with
    | false => exact hends hf hlast
    | true =>
      rcases hk.ends hlast with hcancel | hended
      · exact Or.inl (hcancelled hcancel)
      · exact Or.inr fun hs => hended (hpends.whole hs).1

theorem Kept.serves (hk : Kept h) (he : h.bridge.enabled e = true)
    (hunfinished : (h.bridge.next e).finished = false) : (h.bridge.next e).Served := by
  have hbefore : h.bridge.finished = false := by
    cases hf : h.bridge.finished with
    | false => rfl
    | true =>
      rw [IncomingStreamBridge.finished_next hf e] at hunfinished
      cases hunfinished
  refine hk.sound.served_next (hk.served hbefore) he fun _ hf => ?_
  rw [hbefore] at hf
  cases hf

/-- The pull goes on with a stream: it is yielded, or discarded once the collection has finished. -/
theorem Kept.receive (hk : Kept h) {stream : NativeStream}
    (hpull : h.bridge.pull = .continuing (.value stream)) (hok : h.Adapts .pullContinues) :
    Kept (h.receive stream) := by
  have he : h.bridge.enabled .pullContinues = true := by
    simp [IncomingStreamBridge.enabled, hpull]
  obtain ⟨hsourced, hpending, hstate⟩ := hk.sourced.received hpull
  have hflows : h.received ++ [stream] ++ h.bridge.pullContinues.pending =
      h.received ++ h.bridge.pending := by
    rw [hpending, List.append_assoc]
    rfl
  have hkept : h.bridge.pullContinues.finished = h.bridge.finished := by
    unfold IncomingStreamBridge.pullContinues
    rw [hpull]
    cases hfinished : h.bridge.finished with
    | true => rfl
    | false =>
      simp only [Bool.false_eq_true, if_false,
        hok rfl hfinished stream (IncomingStreamBridge.mem_inPull.mpr hpull), if_true]
      exact (IncomingStreamBridge.finished_callPullIfNeeded _).1
  refine ⟨hk.sound.next he, hsourced, hk.serves he, ?_, fun hs => ?_, ?_, fun hf => ?_,
    hk.sourced.settles_next hk.sound hk.settles he, fun hf => ?_, fun other hother => ?_⟩
  · change h.received ++ [stream] ++ h.bridge.pullContinues.pending <+: h.arrived
    rw [hflows]
    exact hk.flows
  · change h.received ++ [stream] ++ h.bridge.pullContinues.pending = h.arrived
    rw [hflows]
    exact hk.whole (hstate ▸ hs)
  · change (if !h.bridge.finished && stream.adaptable then h.yielded ++ [stream] else h.yielded) <+:
      (h.received ++ [stream]).filter _
    rw [List.filter_append]
    split
    · rename_i hyields
      obtain ⟨hunfinished, hadaptable⟩ := Bool.and_eq_true_iff.mp hyields
      rw [hk.all (by simpa using hunfinished), List.filter_singleton, hadaptable]
      exact List.prefix_refl _
    · exact hk.yields.trans (List.prefix_append _ _)
  · have hunfinished : h.bridge.finished = false := hkept ▸ hf
    have hadaptable := hok rfl hunfinished stream (IncomingStreamBridge.mem_inPull.mpr hpull)
    change (if !h.bridge.finished && stream.adaptable then h.yielded ++ [stream] else h.yielded) =
      (h.received ++ [stream]).filter _
    rw [hunfinished, hadaptable, List.filter_append, ← hk.all hunfinished, List.filter_singleton,
      hadaptable]
    rfl
  · change h.bridge.pullContinues.finished = true at hf
    change _ ∨ h.bridge.pullContinues.source.state ≠ .readable
    rw [hstate]
    exact hk.ends (hkept ▸ hf)
  · change (h.received ++ [stream]).count other =
      (if h.bridge.finished then h.discarded ++ [stream] else h.discarded).count other
    rw [List.count_append, hk.discards other hother]
    cases hfinished : h.bridge.finished with
    | true => exact (List.count_append ..).symm
    | false =>
      have hadaptable := hok rfl hfinished stream (IncomingStreamBridge.mem_inPull.mpr hpull)
      have hne : stream ≠ other := by
        rintro rfl
        rw [hadaptable] at hother
        cases hother
      rw [List.count_singleton, if_neg (by simpa using hne)]
      rfl

/-- While every stream can be adapted, each is passed on, or is still to come. -/
theorem Kept.next (hk : Kept h) (he : h.bridge.enabled e = true) (hok : h.Adapts e) :
    Kept (h.next e) := by
  have hsound := hk.sound.next he
  have hserved := hk.serves he
  have hsettles := hk.sourced.settles_next hk.sound hk.settles he
  have hfinished := fun hf => IncomingStreamBridge.finished_next (b := h.bridge) hf e
  have hothers : (∀ stream, e ≠ .arrived stream) → (e = .pullContinues → h.bridge.inPull = []) →
      ∀ cancelled, (h.cancelled = true → cancelled = true) →
      (h.bridge.finished = false → (h.bridge.next e).finished = true →
        cancelled = true ∨ (h.bridge.next e).source.state ≠ .readable) →
      Kept { h with bridge := h.bridge.next e, cancelled := cancelled } :=
    fun harrived hreceived cancelled hcancelled hends =>
      hk.moves hsound hserved (hk.sourced.next hk.sound he harrived hreceived) hsettles hfinished
        hcancelled fun hf hlast => hends hlast hf
  have hquiet : e ≠ .pullContinues → e ≠ .cancelled → h.bridge.finished = false →
      (h.bridge.next e).finished = true →
        h.cancelled = true ∨ (h.bridge.next e).source.state ≠ .readable := by
    intro hpull hcancelled hlast hf
    rcases IncomingStreamBridge.finished_of_next hk.sound.toCoherent he hf with hs | rfl | ⟨rfl, -⟩
    · rw [hlast] at hs
      cases hs
    · exact absurd rfl hpull
    · exact absurd rfl hcancelled
  cases e with
  | arrived stream =>
    obtain ⟨hsourced, hpending, hstate⟩ := hk.sourced.arrived he
    have hflows : h.received ++ (h.bridge.next (.arrived stream)).pending =
        h.received ++ h.bridge.pending ++ [stream] := by
      rw [hpending, List.append_assoc]
    have hsame : (h.bridge.next (.arrived stream)).finished = h.bridge.finished :=
      IncomingStreamBridge.finished_answer _ _
    have hreadable : h.bridge.source.state = .readable :=
      IncomingStreamBridge.readable_of_arrived he
    have hwhole := hk.whole hreadable
    refine ⟨hsound, hsourced, hserved, ?_, fun _ => ?_, hk.yields, fun hf => hk.all (hsame ▸ hf),
      hsettles, fun hf => ?_, hk.discards⟩
    · change h.received ++ (h.bridge.next (.arrived stream)).pending <+: h.arrived ++ [stream]
      rw [hflows, hwhole]
    · change h.received ++ (h.bridge.next (.arrived stream)).pending = h.arrived ++ [stream]
      rw [hflows, hwhole]
    · refine (hk.ends (hsame ▸ hf)).imp_right fun hended => ?_
      exact absurd hreadable hended
  | cancelled =>
    refine hothers nofun nofun _ (fun hc => by rw [hc]; rfl) fun hlast hf => Or.inl ?_
    rcases IncomingStreamBridge.finished_of_next hk.sound.toCoherent he hf with hs | hs | ⟨-, hs⟩
    · rw [hlast] at hs
      cases hs
    · cases hs
    · rw [hs]
      exact Bool.or_true _
  | pullContinues =>
    have hlast : (∀ stream, h.bridge.pull ≠ .continuing (.value stream)) →
        (h.bridge.finished = false → h.bridge.source.state ≠ .readable) →
        Kept (h.next .pullContinues) := by
      intro hpull hended
      rw [h.next_of_no_value hpull]
      refine hothers nofun (fun _ => IncomingStreamBridge.inPull_of_ne hpull) _ id
        fun hlast _ => Or.inr ?_
      change h.bridge.pullContinues.source.state ≠ .readable
      rw [(IncomingStreamBridge.source_pullContinues _).1]
      exact hended hlast
    obtain ⟨result, hpull⟩ := IncomingStreamBridge.continuing_of_pullContinues he
    cases result with
    | value stream =>
      rw [h.next_of_value hpull]
      exact hk.receive hpull hok
    | done => exact hlast (by rw [hpull]; nofun) fun hf => hk.settles hf (Or.inl hpull)
    | failed => exact hlast (by rw [hpull]; nofun) fun hf => hk.settles hf (Or.inr hpull)
  | read => exact hothers nofun nofun _ id (hquiet nofun nofun)
  | nativeClosed => exact hothers nofun nofun _ id (hquiet nofun nofun)
  | nativeFailed => exact hothers nofun nofun _ id (hquiet nofun nofun)
  | discardSettled => exact hothers nofun nofun _ id (hquiet nofun nofun)
  | pullSettled => exact hothers nofun nofun _ id (hquiet nofun nofun)
  | cancelSettled => exact hothers nofun nofun _ id (hquiet nofun nofun)

theorem Kept.cancel (hk : Kept h) : Kept h.cancel := by
  have hfinished := h.bridge.finished_cancel
  refine hk.moves (hk.sound.cancel (Or.inl rfl)) (fun hf => ?_)
    (hk.sourced.cancel hk.sound.reading) (fun hf => ?_) (fun _ => hfinished) (fun _ => rfl)
    fun _ _ => Or.inl rfl
  · rw [hfinished] at hf
    cases hf
  · rw [hfinished] at hf
    cases hf

theorem kept_new : Kept new where
  sound := IncomingStreamBridge.sound_mapIncomingStream
  sourced := ⟨nofun, fun _ => rfl⟩
  served _ _ hreads := absurd hreads (Nat.lt_irrefl 0)
  flows := List.prefix_refl _
  whole _ := rfl
  yields := List.prefix_refl _
  all _ := rfl
  settles := by
    rintro - (hs | hs) <;> cases hs
  ends := nofun
  discards _ _ := rfl

/-- The stream that cannot be adapted is not discarded. -/
theorem Kept.not_tolerates (hk : Kept h) (hok : ¬ h.Adapts e) : ¬ Tolerates (h.next e) := by
  unfold Adapts at hok
  push Not at hok
  obtain ⟨rfl, hunfinished, stream, hpull, hadaptable⟩ := hok
  rw [IncomingStreamBridge.mem_inPull] at hpull
  have hbad : stream.adaptable = false := by simpa using hadaptable
  have hnext := h.next_of_value hpull
  intro htolerates
  have hcount := htolerates.discards stream hbad
  rw [hnext] at hcount
  change (h.received ++ [stream]).count stream ≤
    (if h.bridge.finished then h.discarded ++ [stream] else h.discarded).count stream at hcount
  rw [hunfinished, List.count_append, hk.discards stream hbad, List.count_singleton_self] at hcount
  exact Nat.not_succ_le_self _ hcount

end CollectionHistory

namespace SessionHistory

variable {s t : SessionHistory} {e : IncomingEvent} {es : List IncomingEvent}

def Adapts (s : SessionHistory) (e : IncomingEvent) : Prop :=
  ∀ k event, e = .bridge k event → (s.collection k).Adapts event

def Tolerates (s : SessionHistory) : Prop := ∀ k, (s.collection k).Tolerates

instance (s : SessionHistory) : (e : IncomingEvent) → Decidable (Adapts s e)
  | .bridge k event =>
    decidable_of_iff ((s.collection k).Adapts event)
      ⟨fun h => by rintro _ _ ⟨⟩; exact h, fun h => h k event rfl⟩
  | .finish => .isTrue nofun

/-- An event concerns the history of one collection; the others are kept as they are. -/
theorem kept_step (hs : program.machine.Step s e t) (h : ∀ k, (s.collection k).Kept)
    (hok : Adapts s e) (k : IncomingStreams) : (t.collection k).Kept := by
  obtain ⟨he, rfl⟩ := hs
  change ((next s e).collection k).Kept
  cases e with
  | bridge j event =>
    change (Function.update s.collection j ((s.collection j).next event) k).Kept
    by_cases hk : k = j
    · subst hk
      rw [Function.update_self]
      exact (h k).next he (hok k event rfl)
    · rw [Function.update_of_ne hk]
      exact h k
  | finish =>
    change (SessionHistory.collection (if s.closed then s else _) k).Kept
    split
    · exact h k
    · exact (h k).cancel

/-- A stream that cannot be adapted is not tolerated. -/
theorem not_tolerates_step (hs : program.machine.Step s e t) (h : ∀ k, (s.collection k).Kept)
    (hok : ¬ Adapts s e) : ¬ Tolerates t := by
  obtain ⟨-, rfl⟩ := hs
  unfold Adapts at hok
  push Not at hok
  obtain ⟨k, event, rfl, hevent⟩ := hok
  intro htolerates
  refine (h k).not_tolerates hevent ?_
  have hk := htolerates k
  change (Function.update s.collection k ((s.collection k).next event) k).Tolerates at hk
  rwa [Function.update_self] at hk

/-- In a run of a session every state tolerates the streams that cannot be adapted just where no
pull goes on with one of them before its collection has finished. -/
theorem collections_tolerate_iff (es : List IncomingEvent) (t : SessionHistory) :
    (program.machine.restrict Adapts).Run new es t ↔
      (program.machine.restrict fun s _ => Tolerates s).Run new es t ∧ Tolerates t :=
  Machine.Run.restrict_iff_good (fun _ _ _ hs hkept hok => kept_step hs hkept hok)
    (fun _ hkept k => (hkept k).tolerates)
    (fun _ _ _ hs hkept hok => not_tolerates_step hs hkept hok)
    fun _ => CollectionHistory.kept_new

def badStream : NativeStream := ⟨1, false⟩

def goodStream : NativeStream := ⟨2, true⟩

/-- A read waits, and two streams arrive, the first of which cannot be adapted: the collection has
finished without either, and the bad one is not discarded. -/
theorem bad_stream_ends : ∃ t, program.machine.Run new
    [.bridge .bidirectional .pullSettled, .bridge .bidirectional .read,
      .bridge .bidirectional (.arrived badStream), .bridge .bidirectional (.arrived goodStream),
      .bridge .bidirectional .pullContinues, .bridge .bidirectional .pullSettled] t ∧
    (t.collection .bidirectional).bridge.readable.state = .errored ∧
    (t.collection .bidirectional).bridge.source.state = .readable ∧
    (t.collection .bidirectional).cancelled = false ∧
    (t.collection .bidirectional).yielded = [] ∧ (t.collection .bidirectional).discarded = [] ∧
    ¬ Tolerates t := by
  obtain ⟨t, hrun, hstate, hsource, hcancelled, hyielded, hdiscarded, hfinished⟩ :=
    program.exists_run
    [.bridge .bidirectional .pullSettled, .bridge .bidirectional .read,
      .bridge .bidirectional (.arrived badStream), .bridge .bidirectional (.arrived goodStream),
      .bridge .bidirectional .pullContinues, .bridge .bidirectional .pullSettled] new
    (fun t => (t.collection .bidirectional).bridge.readable.state = .errored ∧
      (t.collection .bidirectional).bridge.source.state = .readable ∧
      (t.collection .bidirectional).cancelled = false ∧
      (t.collection .bidirectional).yielded = [] ∧ (t.collection .bidirectional).discarded = [] ∧
      (t.collection .bidirectional).bridge.finished = true) (by decide +kernel)
  refine ⟨t, hrun, hstate, hsource, hcancelled, hyielded, hdiscarded, fun htolerates => ?_⟩
  rcases (htolerates .bidirectional).ends hfinished with hs | hs
  · rw [hcancelled] at hs
    cases hs
  · exact hs hsource

/-- Two streams that can be adapted are yielded, with one that cannot behind them. -/
theorem collections_tolerate_iff_good : ∃ t, program.machine.Run new
    [.bridge .bidirectional .pullSettled, .bridge .bidirectional .read,
      .bridge .bidirectional (.arrived goodStream), .bridge .bidirectional (.arrived badStream),
      .bridge .bidirectional .pullContinues, .bridge .bidirectional .pullSettled] t ∧
    (t.collection .bidirectional).yielded = [goodStream] ∧ Tolerates t := by
  obtain ⟨t, hrun, hyielded⟩ := (program.restrict Adapts).exists_run
    [.bridge .bidirectional .pullSettled, .bridge .bidirectional .read,
      .bridge .bidirectional (.arrived goodStream), .bridge .bidirectional (.arrived badStream),
      .bridge .bidirectional .pullContinues, .bridge .bidirectional .pullSettled] new
    (fun t => (t.collection .bidirectional).yielded = [goodStream]) (by decide +kernel)
  have hadapts := (program.restrict_run _).mp hrun
  exact ⟨t, hadapts.unrestrict, hyielded,
    ((collections_tolerate_iff _ t).mp hadapts).2⟩

end SessionHistory

end NestWebTransport
