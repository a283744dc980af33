import NestWebTransport.Foundation.Program
import NestWebTransport.Foundation.ReadableStream
import Mathlib.Logic.Function.Basic

/-! The incoming collections of a session and the end of its native session.

Each definition is one synchronous stretch of `RWebTransportSessionAdapter`; between two of them a
promise settles. -/
namespace NestWebTransport

/-- A native stream, and whether `adapt` returns for it. -/
structure NativeStream where
  id : Nat
  adaptable : Bool
  deriving DecidableEq, Repr

/-- The promise of `pull`: it awaits the native `read`, or the `discard` of a stream. -/
inductive IncomingPull
  | idle
  | reading
  | continuing (result : ReadResult NativeStream)
  | discarding
  | returned
  deriving DecidableEq, Repr

/-- `source` with its `reader`, which is `held` until `releaseLock`, and the adapted `readable`,
whose controller remembers to `pullAgain`; `cancelling` awaits `reader.cancel`. -/
structure IncomingStreamBridge where
  source : ReadableStream NativeStream
  held : Bool
  finished : Bool
  cancelling : Bool
  readable : ReadableStream NativeStream
  pull : IncomingPull
  pullAgain : Bool

inductive BridgeEvent
  | read
  | cancelled
  | arrived (stream : NativeStream)
  | nativeClosed
  | nativeFailed
  | pullContinues
  | discardSettled
  | pullSettled
  | cancelSettled
  deriving DecidableEq, Repr

/-- A call of the application. -/
def BridgeEvent.isCall : BridgeEvent → Bool
  | .read | .cancelled => true
  | _ => false

namespace IncomingStreamBridge

variable (b : IncomingStreamBridge)

/-- The controller pulls once it has started, as after a pull that is to be repeated. -/
def mapIncomingStream : IncomingStreamBridge where
  source := .new
  held := true
  finished := false
  cancelling := false
  readable := .new
  pull := .returned
  pullAgain := true

/-- `pull` up to `await reader.read()`; a reader without its lock rejects. -/
def beginPull : IncomingStreamBridge :=
  if b.held = false then { b with pull := .continuing .failed }
  else
    match b.source.read with
    | (none, source) => { b with source := source, pull := .reading }
    | (some result, source) => { b with source := source, pull := .continuing result }

/-- The adapted stream has a high water mark of 0. -/
def callPullIfNeeded : IncomingStreamBridge :=
  if b.readable.shouldCallPull 0 then
    if b.pull = .idle then b.beginPull else { b with pullAgain := true }
  else b

/-- The native `read` that `pull` awaits settles. -/
def answer (result : ReadResult NativeStream) : IncomingStreamBridge :=
  if b.pull = .reading then { b with pull := .continuing result } else b

def release : IncomingStreamBridge := { b with finished := true, held := false }

/-- `cancel` up to `await reader.cancel(reason)`. -/
def cancel : IncomingStreamBridge :=
  if b.finished then b
  else { b.answer .done with finished := true, cancelling := true, source := b.source.cancel }

/-- `pull` after `await reader.read()`. -/
def pullContinues : IncomingStreamBridge :=
  match b.pull with
  | .continuing .failed => { b with readable := b.readable.error, pull := .returned }.release
  | .continuing .done =>
    if b.finished then { b with pull := .returned }
    else { b with readable := b.readable.close, pull := .returned }.release
  | .continuing (.value stream) =>
    if b.finished then { b with pull := .discarding }
    else if stream.adaptable then
      { { b with readable := b.readable.enqueue stream }.callPullIfNeeded with pull := .returned }
    else { b with readable := b.readable.error, pull := .returned }.release
  | _ => b

/-- The controller after its pull has fulfilled. -/
def pullSettled : IncomingStreamBridge :=
  if b.pullAgain then { b with pull := .idle, pullAgain := false }.callPullIfNeeded
  else { b with pull := .idle }

def enabled : BridgeEvent → Bool
  | .read | .cancelled => true
  | .arrived _ | .nativeClosed => b.source.canCloseOrEnqueue
  | .nativeFailed => b.source.state == .readable
  | .pullContinues =>
    match b.pull with
    | .continuing _ => true
    | _ => false
  | .discardSettled => b.pull == .discarding
  | .pullSettled => b.pull == .returned
  | .cancelSettled => b.cancelling

def next : BridgeEvent → IncomingStreamBridge
  | .read => { b with readable := b.readable.read.2 }.callPullIfNeeded
  | .cancelled =>
    if b.readable.state = .readable then { b with readable := b.readable.cancel }.cancel else b
  | .arrived stream => { b.answer (.value stream) with source := b.source.enqueue stream }
  | .nativeClosed => { b.answer .done with source := b.source.close }
  | .nativeFailed => { b.answer .failed with source := b.source.error }
  | .pullContinues => b.pullContinues
  | .discardSettled => { b with pull := .returned }
  | .pullSettled => b.pullSettled
  | .cancelSettled => { b with cancelling := false }.release

/-- No continuation is left to run. -/
def Quiescent : Prop := (b.pull = .idle ∨ b.pull = .reading) ∧ b.cancelling = false

instance : Decidable b.Quiescent := inferInstanceAs (Decidable (_ ∧ _))

end IncomingStreamBridge

/-! ### Both collections of a session -/

inductive IncomingStreams
  | bidirectional
  | unidirectional
  deriving DecidableEq, Repr

/-- `closed` tells whether `finish` has run. -/
structure IncomingState where
  closed : Bool
  bridge : IncomingStreams → IncomingStreamBridge

inductive IncomingEvent
  | bridge (k : IncomingStreams) (e : BridgeEvent)
  | finish
  deriving DecidableEq, Repr

def IncomingEvent.isCall : IncomingEvent → Bool
  | .bridge _ e => e.isCall
  | .finish => false

namespace RWebTransportSessionAdapter

variable (s : IncomingState)

def new : IncomingState := ⟨false, fun _ => .mapIncomingStream⟩

/-- `finish`, whichever reason it has. -/
def finish : IncomingState :=
  if s.closed then s else ⟨true, fun k => (s.bridge k).cancel⟩

def enabled : IncomingEvent → Bool
  | .bridge k e => (s.bridge k).enabled e
  | .finish => true

def next : IncomingEvent → IncomingState
  | .bridge k e => { s with bridge := Function.update s.bridge k ((s.bridge k).next e) }
  | .finish => finish s

def program : Program IncomingState IncomingEvent where
  initial := new
  enabled := enabled
  next := next

/-- `finish` has run and no continuation is left. -/
def Settled : Prop := s.closed = true ∧ ∀ k, (s.bridge k).Quiescent

instance : Decidable (Settled s) :=
  decidable_of_iff (s.closed = true ∧ (s.bridge .bidirectional).Quiescent ∧
      (s.bridge .unidirectional).Quiescent)
    ⟨fun h => ⟨h.1, fun k => match k with
      | .bidirectional => h.2.1
      | .unidirectional => h.2.2⟩, fun h => ⟨h.1, h.2 _, h.2 _⟩⟩

end RWebTransportSessionAdapter

end NestWebTransport
