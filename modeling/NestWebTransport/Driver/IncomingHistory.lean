import NestWebTransport.Driver.IncomingReads

/-! What becomes of the native streams of an incoming collection. -/
namespace NestWebTransport

/-- The stream that a pull is about to go on with. -/
def IncomingStreamBridge.inPull (b : IncomingStreamBridge) : List NativeStream :=
  match b.pull with
  | .continuing (.value stream) => [stream]
  | _ => []

/-- A collection, the streams that arrived in the native one, those that its pulls have gone on
with, those that it has yielded and discarded, and whether `cancel` was called. -/
structure CollectionHistory where
  bridge : IncomingStreamBridge
  arrived : List NativeStream
  received : List NativeStream
  yielded : List NativeStream
  discarded : List NativeStream
  cancelled : Bool

namespace CollectionHistory

variable (h : CollectionHistory)

def new : CollectionHistory := ⟨.mapIncomingStream, [], [], [], [], false⟩

def cancel : CollectionHistory := { h with bridge := h.bridge.cancel, cancelled := true }

/-- `pull` goes on with a stream. -/
def receive (stream : NativeStream) : CollectionHistory :=
  { h with
    bridge := h.bridge.pullContinues
    received := h.received ++ [stream]
    yielded := if !h.bridge.finished && stream.adaptable then h.yielded ++ [stream] else h.yielded
    discarded := if h.bridge.finished then h.discarded ++ [stream] else h.discarded }

def next : BridgeEvent → CollectionHistory
  | .arrived stream =>
    { h with bridge := h.bridge.next (.arrived stream), arrived := h.arrived ++ [stream] }
  | .cancelled =>
    { h with
      bridge := h.bridge.next .cancelled
      cancelled := h.cancelled || h.bridge.readable.state == .readable }
  | .pullContinues =>
    match h.bridge.pull with
    | .continuing (.value stream) => h.receive stream
    | _ => { h with bridge := h.bridge.next .pullContinues }
  | e => { h with bridge := h.bridge.next e }

/-- The history follows the bridge and changes nothing about it. -/
theorem bridge_next (e : BridgeEvent) : (h.next e).bridge = h.bridge.next e := by
  cases e with
  | pullContinues =>
    change (match h.bridge.pull with
      | .continuing (.value stream) => h.receive stream
      | _ => { h with bridge := h.bridge.next .pullContinues }).bridge = _
    split <;> rfl
  | _ => rfl

theorem next_of_value {stream : NativeStream}
    (hpull : h.bridge.pull = .continuing (.value stream)) :
    h.next .pullContinues = h.receive stream := by
  simp only [CollectionHistory.next, hpull]

theorem next_of_no_value (hpull : ∀ stream, h.bridge.pull ≠ .continuing (.value stream)) :
    h.next .pullContinues = { h with bridge := h.bridge.next .pullContinues } := by
  change (match h.bridge.pull with
    | .continuing (.value stream) => h.receive stream
    | _ => { h with bridge := h.bridge.next .pullContinues }) = _
  split
  · rename_i stream hstream
    exact absurd hstream (hpull stream)
  · rfl

/-- A pull goes on with a native stream that can be adapted, unless the collection has finished. -/
def Adapts (e : BridgeEvent) : Prop :=
  e = .pullContinues → h.bridge.finished = false →
    ∀ stream ∈ h.bridge.inPull, stream.adaptable = true

instance (e : BridgeEvent) : Decidable (h.Adapts e) := inferInstanceAs (Decidable (_ → _))

/-- The collection has yielded the streams that can be adapted, in order and all of them when reads
wait and nothing is left to run; it has finished only if it was cancelled or the native collection
has ended; and it has discarded the streams that cannot be adapted. -/
structure Tolerates : Prop where
  ordered : h.yielded <+: h.arrived.filter (·.adaptable)
  served : h.bridge.finished = false → h.bridge.Quiescent → 0 < h.bridge.readable.reads →
    h.yielded = h.arrived.filter (·.adaptable)
  ends : h.bridge.finished = true → h.cancelled = true ∨ h.bridge.source.state ≠ .readable
  discards : ∀ stream : NativeStream, stream.adaptable = false →
    h.received.count stream ≤ h.discarded.count stream

end CollectionHistory

/-! ### Both collections of a session -/

structure SessionHistory where
  closed : Bool
  collection : IncomingStreams → CollectionHistory

namespace SessionHistory

variable (s : SessionHistory)

def state : IncomingState := ⟨s.closed, fun k => (s.collection k).bridge⟩

def new : SessionHistory := ⟨false, fun _ => .new⟩

def enabled (e : IncomingEvent) : Bool := RWebTransportSessionAdapter.enabled s.state e

def next : IncomingEvent → SessionHistory
  | .bridge k e =>
    { s with collection := Function.update s.collection k ((s.collection k).next e) }
  | .finish => if s.closed then s else ⟨true, fun k => (s.collection k).cancel⟩

def program : Program SessionHistory IncomingEvent := ⟨new, enabled, next⟩

variable {s t : SessionHistory} {e : IncomingEvent}

/-- The collections behave as without their history. -/
theorem state_step (hs : program.machine.Step s e t) :
    RWebTransportSessionAdapter.program.machine.Step s.state e t.state := by
  obtain ⟨he, rfl⟩ := hs
  refine ⟨he, ?_⟩
  change (next s e).state = RWebTransportSessionAdapter.next s.state e
  cases e with
  | bridge k event =>
    have hbridges : (fun j => ((next s (.bridge k event)).collection j).bridge) =
        Function.update s.state.bridge k ((s.state.bridge k).next event) := by
      funext j
      change (Function.update s.collection k ((s.collection k).next event) j).bridge = _
      by_cases hj : j = k
      · subst hj
        rw [Function.update_self, Function.update_self, CollectionHistory.bridge_next]
        rfl
      · rw [Function.update_of_ne hj, Function.update_of_ne hj]
        rfl
    unfold state
    rw [hbridges]
    rfl
  | finish =>
    change (if s.closed then s else _ : SessionHistory).state =
      RWebTransportSessionAdapter.finish s.state
    unfold RWebTransportSessionAdapter.finish
    change _ = if s.closed = true then _ else _
    split <;> rfl

/-- A run of the histories is a run of the adapter. -/
theorem state_run {es : List IncomingEvent} (h : program.machine.Run s es t) :
    RWebTransportSessionAdapter.program.machine.Run s.state es t.state := by
  induction h with
  | refl => exact .refl
  | stepL hst _ ih => exact .stepL (state_step hst) ih

end SessionHistory

end NestWebTransport
