import NestWebTransport.Foundation.Delivery
import NestWebTransport.Foundation.Program
import NestWebTransport.Foundation.PullLoop

/-! Incoming datagrams of a session, from the sink of the vendored stream to the adapter's reader.
-/
namespace NestWebTransport

/-- Where the `pull` of the adapter is: it awaits the native read, has its answer, or has
returned. -/
inductive DatagramPull
  | requested
  | resolved (result : ReadResult (List UInt8))
  | finished
  deriving DecidableEq, Repr

namespace DatagramPull

def isResolved : DatagramPull → Bool
  | .resolved _ => true
  | _ => false

end DatagramPull

/-- The native readable, whose one reader is the adapter's, and the adapter's own. `arrived` are the
datagrams of the session, `received` those the adapter has counted. -/
structure IncomingDatagrams where
  native : Delivery (List UInt8)
  arrived : List (List UInt8)
  droppedIncoming : Nat
  readable : Delivery (List UInt8)
  pulls : PullLoop
  pull : Option DatagramPull
  releasePending : Bool
  readerReleased : Bool
  received : List (List UInt8)

inductive DatagramEvent
  | datagram (data : List UInt8)
  | sessionClosed
  | read
  | cancel
  | close
  | readableStarted
  | pullResumed
  | pullSettled
  | released
  deriving DecidableEq, Repr

namespace IncomingDatagrams

variable (s : IncomingDatagrams)

def incomingHighWaterMark : Nat := 64

def new : IncomingDatagrams where
  native := .new
  arrived := []
  droppedIncoming := 0
  readable := .new
  pulls := .new
  pull := none
  releasePending := false
  readerReleased := false
  received := []

/-! ### The native side -/

/-- `(rController.desiredSize ?? 1) > 0` -/
def hasRoom : Bool :=
  match s.native.stream.state with
  | .errored => true
  | .closed => false
  | .readable => decide (s.native.stream.queue.length < incomingHighWaterMark)

/-- `rController.enqueue`, which may answer the read that waits. -/
def enqueueNative (data : List UInt8) : IncomingDatagrams :=
  if s.native.stream.canCloseOrEnqueue then
    { s with
      native := s.native.enqueue data
      pull := if 0 < s.native.stream.reads then some (.resolved (.value data)) else s.pull }
  else s

/-- The sink of the session. -/
def datagram (data : List UInt8) : IncomingDatagrams :=
  let s := { s with arrived := s.arrived ++ [data] }
  if s.hasRoom then s.enqueueNative data
  else { s with droppedIncoming := s.droppedIncoming + 1 }

/-- The native stream may have ended; the read that waits is answered. -/
def withNative (native : Delivery (List UInt8)) : IncomingDatagrams :=
  { s with
    native := native
    pull := if s.pull = some .requested ∧ native.stream.state ≠ .readable then
      some (.resolved .done) else s.pull }

def sessionClosed : IncomingDatagrams := s.withNative s.native.close

/-! ### The adapter -/

/-- `reader.cancel`, which rejects once the lock is released. -/
def cancelReader : IncomingDatagrams :=
  if s.readerReleased then s else s.withNative s.native.cancel

/-- The lock goes; a read that waits is rejected. -/
def releaseReader : IncomingDatagrams :=
  if s.readerReleased then s
  else
    { s with
      readerReleased := true
      native := { s.native with stream := { s.native.stream with reads := 0 } }
      pull := if s.pull = some .requested then some (.resolved .failed) else s.pull }

/-- `pull` up to its `await`. -/
def beginPull : IncomingDatagrams :=
  if s.readerReleased then { s with pull := some (.resolved .failed) }
  else
    { s with
      native := s.native.read
      pull := some ((s.native.stream.read.1.map .resolved).getD .requested) }

def pulled (result : Bool × PullLoop) : IncomingDatagrams :=
  let s := { s with pulls := result.2 }
  if result.1 then s.beginPull else s

/-- The adapter's readable has the default strategy. -/
def shouldCallPull : Bool := s.readable.stream.shouldCallPull 1

def callPullIfNeeded : IncomingDatagrams := s.pulled (s.pulls.callPullIfNeeded s.shouldCallPull)

/-- The `catch` of `pull`. -/
def pullCaught : IncomingDatagrams := releaseReader { s with readable := s.readable.error }

/-- `pull` goes on with the answer of the native read; `controller.close` and `controller.enqueue`
throw where the readable takes nothing. -/
def pullResumed : IncomingDatagrams :=
  match s.pull with
  | some (.resolved (.value data)) =>
    let s := { s with received := s.received ++ [data], pull := some .finished }
    if s.readable.stream.canCloseOrEnqueue then
      callPullIfNeeded { s with readable := s.readable.enqueue data }
    else s.pullCaught
  | some (.resolved .done) =>
    let s := { s with pull := some .finished }
    if s.readable.stream.canCloseOrEnqueue then
      releaseReader { s with readable := s.readable.close }
    else s.pullCaught
  | _ => pullCaught { s with pull := some .finished }

def read : IncomingDatagrams :=
  let s := { s with readable := s.readable.read }
  if s.readable.stream.state = .readable then s.callPullIfNeeded else s

/-- The consumer cancels; the lock goes once the native stream has been cancelled. -/
def cancel : IncomingDatagrams :=
  if s.readable.stream.state = .readable then
    let s := cancelReader { s with readable := s.readable.cancel }
    { s with releasePending := true }
  else s

/-- `close`, when the session ends. -/
def close : IncomingDatagrams :=
  let s := cancelReader { s with readable := s.readable.error }
  { s with releasePending := true }

def enabled : DatagramEvent → Bool
  | .readableStarted => !s.pulls.started
  | .pullResumed => s.pull.any (·.isResolved)
  | .pullSettled => s.pull == some .finished
  | .released => s.releasePending
  | _ => true

def next : DatagramEvent → IncomingDatagrams
  | .datagram data => s.datagram data
  | .sessionClosed => s.sessionClosed
  | .read => s.read
  | .cancel => s.cancel
  | .close => s.close
  | .readableStarted => s.pulled (s.pulls.start s.shouldCallPull)
  | .pullResumed => s.pullResumed
  | .pullSettled => pulled { s with pull := none } (s.pulls.settle s.shouldCallPull)
  | .released => { s.releaseReader with releasePending := false }

def program : Program IncomingDatagrams DatagramEvent := ⟨new, enabled, next⟩

def machine : Machine IncomingDatagrams DatagramEvent := program.machine

end IncomingDatagrams

end NestWebTransport
