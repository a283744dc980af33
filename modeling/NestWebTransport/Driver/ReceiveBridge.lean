import NestWebTransport.Driver.ReceiveStream
import NestWebTransport.Foundation.Relay

/-! The readable half of a stream as handlers get it: the adapter's bridge over the vendored
`WebTransportReceiveStream`. -/
namespace NestWebTransport

/-- `aborted` once the lifecycle of the stream has been aborted, `finished` once the bridge is;
`finishPending` while `reader.cancel` is awaited before it. `received` are the chunks whose bytes
were counted. -/
structure ReceiveBridge where
  native : NativeReceiveStream
  readable : Delivery (List UInt8)
  pulls : PullLoop
  pull : Option (RelayPull (List UInt8))
  aborted : Bool
  finished : Bool
  finishPending : Bool
  received : List (List UInt8)

inductive ReceiveBridgeEvent
  | data (chunk : List UInt8)
  | fin
  | reset
  | sessionClose
  | nativeStarted
  | nativePullSettled
  | read
  | cancel
  | abort
  | readerFailed
  | readableStarted
  | pullResumed
  | pullSettled
  | cancelled
  deriving DecidableEq, Repr

namespace ReceiveBridge

variable (s : ReceiveBridge)

def new : ReceiveBridge where
  native := .new
  readable := .new
  pulls := .new
  pull := none
  aborted := false
  finished := false
  finishPending := false
  received := []

/-! ### The native stream -/

/-- The native stream may have ended; the read that waits is answered. -/
def withNative (native : NativeReceiveStream) : ReceiveBridge :=
  { s with native := native, pull := RelayPull.ending native.readable.stream.state s.pull }

/-- The sink's `onData`, whose chunk may answer the read that waits. -/
def onData (chunk : List UInt8) : ReceiveBridge :=
  { s with
    native := s.native.onData chunk
    pull :=
      if s.native.registered = true ∧ s.native.readable.stream.canCloseOrEnqueue = true ∧
          0 < s.native.readable.stream.reads then
        some (.resolved (.value chunk))
      else s.pull }

def onFin : ReceiveBridge := if s.native.registered then s.withNative s.native.onFin else s

/-- The sink's `onReset` and `onSessionClose`. -/
def onReset : ReceiveBridge := if s.native.registered then s.withNative s.native.onReset else s

/-! ### The bridge -/

/-- `reader.cancel`, which rejects once the lock is released. -/
def cancelReader : ReceiveBridge := if s.finished then s else s.withNative s.native.cancel

/-- The lock goes; a read that waits is rejected. What the lifecycle does at its last part is for
the other half: this one is finished. -/
def finish : ReceiveBridge :=
  if s.finished then s
  else { s with
    finished := true, native := s.native.release, pull := RelayPull.ending .errored s.pull }

/-- The listener of the lifecycle's signal, which `stop`s the reader. -/
def handleAbort : ReceiveBridge :=
  if s.finished then s
  else { cancelReader { s with readable := s.readable.error } with finishPending := true }

/-- `lifecycle.abort` -/
def abort : ReceiveBridge :=
  if s.aborted then s else handleAbort { s with aborted := true }

/-- `pull` up to its `await`. -/
def beginPull : ReceiveBridge :=
  if s.finished then { s with pull := some (.resolved .failed) }
  else
    { s with
      native := s.native.read
      pull := some ((s.native.readable.stream.read.1.map .resolved).getD .requested) }

def pulled (result : Bool × PullLoop) : ReceiveBridge :=
  let s := { s with pulls := result.2 }
  if result.1 then s.beginPull else s

/-- The readable has the default strategy. -/
def shouldCallPull : Bool := s.readable.stream.shouldCallPull 1

def callPullIfNeeded : ReceiveBridge := s.pulled (s.pulls.callPullIfNeeded s.shouldCallPull)

/-- The `catch` of `pull`. -/
def pullCaught : ReceiveBridge := (abort { s with readable := s.readable.error }).finish

/-- `pull` goes on with the answer of the native read; `controller.close` and `controller.enqueue`
throw where the readable takes nothing. -/
def pullResumed : ReceiveBridge :=
  match s.pull with
  | some (.resolved (.value chunk)) =>
    let s := { s with received := s.received ++ [chunk], pull := some .finished }
    if s.readable.stream.canCloseOrEnqueue then
      callPullIfNeeded { s with readable := s.readable.enqueue chunk }
    else s.pullCaught
  | some (.resolved .done) =>
    let s := { s with pull := some .finished }
    if s.readable.stream.canCloseOrEnqueue then finish { s with readable := s.readable.close }
    else s.pullCaught
  | _ => pullCaught { s with pull := some .finished }

def read : ReceiveBridge :=
  let s := { s with readable := s.readable.read }
  if s.readable.stream.state = .readable then s.callPullIfNeeded else s

def cancel : ReceiveBridge :=
  if s.readable.stream.state = .readable then
    { cancelReader { s with readable := s.readable.cancel } with finishPending := true }
  else s

/-- The rejection of `reader.closed`. -/
def readerFailed : ReceiveBridge := (finish { s with readable := s.readable.error }).abort

def enabled : ReceiveBridgeEvent → Bool
  | .nativeStarted => s.native.enabled .started
  | .nativePullSettled => s.native.enabled .pullSettled
  | .readerFailed => s.native.readable.stream.state == .errored && !s.finished
  | .readableStarted => !s.pulls.started
  | .pullResumed => s.pull.any (·.isResolved)
  | .pullSettled => s.pull.any (·.isFinished)
  | .cancelled => s.finishPending
  | _ => true

def next : ReceiveBridgeEvent → ReceiveBridge
  | .data chunk => s.onData chunk
  | .fin => s.onFin
  | .reset => s.onReset
  | .sessionClose => s.onReset
  | .nativeStarted => { s with native := s.native.next .started }
  | .nativePullSettled => { s with native := s.native.next .pullSettled }
  | .read => s.read
  | .cancel => s.cancel
  | .abort => s.abort
  | .readerFailed => s.readerFailed
  | .readableStarted => s.pulled (s.pulls.start s.shouldCallPull)
  | .pullResumed => s.pullResumed
  | .pullSettled => pulled { s with pull := none } (s.pulls.settle s.shouldCallPull)
  | .cancelled => { s.finish with finishPending := false }

def program : Program ReceiveBridge ReceiveBridgeEvent := ⟨new, enabled, next⟩

def machine : Machine ReceiveBridge ReceiveBridgeEvent := program.machine

end ReceiveBridge

end NestWebTransport
