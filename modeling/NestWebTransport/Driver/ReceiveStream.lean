import NestWebTransport.Foundation.Delivery
import NestWebTransport.Foundation.Program
import NestWebTransport.Foundation.PullLoop
import NestWebTransport.Foundation.Quiescence

/-! `WebTransportReceiveStream` of the vendored sessions, which pauses the native stream while the
queue of its readable is full. -/
namespace NestWebTransport

/-- `registered` while the session core knows the stream's sink, `paused` by the last `setPaused`.
`arrived` are the chunks the sink was given, `overrun` counts those that came in spite of the last
pause. -/
structure NativeReceiveStream where
  readable : Delivery (List UInt8)
  pulls : PullLoop
  registered : Bool
  paused : Bool
  stopSent : Bool
  arrived : List (List UInt8)
  overrun : Nat

inductive ReceiveStreamEvent
  | data (chunk : List UInt8)
  | fin
  | reset
  | sessionClose
  | read
  | cancel
  | release
  | started
  | pullSettled
  deriving DecidableEq, Repr

namespace NativeReceiveStream

variable (s : NativeReceiveStream)

def highWaterMark : Nat := 32

def new : NativeReceiveStream where
  readable := .new
  pulls := .new
  registered := true
  paused := false
  stopSent := false
  arrived := []
  overrun := 0

def setPaused (paused : Bool) : NativeReceiveStream :=
  { s with paused := paused, overrun := if paused then s.overrun else 0 }

/-- The pull loop has taken a step, which may have called `pull`. -/
def pulled (result : Bool × PullLoop) : NativeReceiveStream :=
  let s := { s with pulls := result.2 }
  if result.1 then s.setPaused false else s

def shouldCallPull : Bool := s.readable.stream.shouldCallPull highWaterMark

def callPullIfNeeded : NativeReceiveStream := s.pulled (s.pulls.callPullIfNeeded s.shouldCallPull)

/-- `(controller.desiredSize ?? 1) <= 0` -/
def isFull : Bool :=
  match s.readable.stream.state with
  | .errored => false
  | .closed => true
  | .readable => decide (highWaterMark ≤ s.readable.stream.queue.length)

/-- The sink's `onData`; `controller.enqueue` throws where the readable takes nothing. -/
def onData (chunk : List UInt8) : NativeReceiveStream :=
  if s.registered then
    let s := { s with
      arrived := s.arrived ++ [chunk], overrun := if s.paused then s.overrun + 1 else s.overrun }
    if s.readable.stream.canCloseOrEnqueue then
      let s := callPullIfNeeded { s with readable := s.readable.enqueue chunk }
      if s.isFull then s.setPaused true else s
    else s
  else s

def onFin : NativeReceiveStream :=
  if s.registered then { s with readable := s.readable.close, registered := false } else s

/-- The sink's `onReset` and `onSessionClose`. -/
def onReset : NativeReceiveStream :=
  if s.registered then { s with readable := s.readable.error, registered := false } else s

def read : NativeReceiveStream :=
  let s := { s with readable := s.readable.read }
  if s.readable.stream.state = .readable then s.callPullIfNeeded else s

def cancel : NativeReceiveStream :=
  if s.readable.stream.state = .readable then
    { s with readable := s.readable.cancel, stopSent := true, registered := false }
  else s

/-- The reader gives the lock back; its reads are rejected. -/
def release : NativeReceiveStream :=
  { s with readable := { s.readable with stream := { s.readable.stream with reads := 0 } } }

/-- `pull` returns at once, its promise settles later. -/
def enabled : ReceiveStreamEvent → Bool
  | .started => !s.pulls.started
  | .pullSettled => s.pulls.pulling
  | _ => true

def next : ReceiveStreamEvent → NativeReceiveStream
  | .data chunk => s.onData chunk
  | .fin => s.onFin
  | .reset => s.onReset
  | .sessionClose => s.onReset
  | .read => s.read
  | .cancel => s.cancel
  | .release => s.release
  | .started => s.pulled (s.pulls.start s.shouldCallPull)
  | .pullSettled => s.pulled (s.pulls.settle s.shouldCallPull)

def program : Program NativeReceiveStream ReceiveStreamEvent := ⟨new, enabled, next⟩

def machine : Machine NativeReceiveStream ReceiveStreamEvent := program.machine

end NativeReceiveStream

end NestWebTransport
