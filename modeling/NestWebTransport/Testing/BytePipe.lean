import NestWebTransport.Foundation.Delivery
import NestWebTransport.Foundation.Program
import NestWebTransport.Foundation.PullLoop
import NestWebTransport.Foundation.WritableStream
import NestWebTransport.Module.Options
import NestWebTransport.Testing.MockStream

/-! The byte pipe of the virtual streams, between its writable and its readable side. -/
namespace NestWebTransport

structure BytePipeOptions where
  capacity : PositiveInteger
  maxChunkSize : PositiveInteger

/-- What application code writes: a `Uint8Array`, or something else. -/
inductive PipeChunk
  | bytes (value : List UInt8)
  | other
  deriving DecidableEq, Repr

/-- Where the `write` of the sink is. `waiting` awaits the capacity waiter, `woken` and `refused`
have it resolved and rejected, `ready` has found room, and `stored` and `failed` have settled. -/
inductive WritePhase
  | waiting
  | woken
  | refused
  | ready
  | stored
  | failed
  deriving DecidableEq, Repr

namespace WritePhase

def isSettled : WritePhase → Bool
  | .stored | .failed => true
  | _ => false

def resumes : WritePhase → Bool
  | .woken | .refused | .ready => true
  | _ => false

end WritePhase

/-- A `BoundedBytePipe` with its two streams; `stored` holds the chunks that were enqueued and
`bytes` the lengths `onBytes` was called with. -/
structure BoundedBytePipe where
  readable : Delivery (List UInt8)
  pulls : PullLoop
  writable : WritableStream PipeChunk
  write : Option WritePhase
  capacityWaiter : Bool
  state : PipeState
  terminalNotified : Bool
  terminals : Nat
  bytes : List Nat

inductive BytePipeEvent
  | write (chunk : PipeChunk)
  | closeWriter
  | abortWriter
  | read
  | cancel
  | close
  | abort
  | readableStarted
  | writableStarted
  | pullSettled
  | resumed
  | writeSettled
  | closeSettled
  deriving DecidableEq, Repr

namespace BoundedBytePipe

variable (o : BytePipeOptions) (s : BoundedBytePipe)

def new : BoundedBytePipe where
  readable := .new
  pulls := .new
  writable := .new
  write := none
  capacityWaiter := false
  state := .open
  terminalNotified := false
  terminals := 0
  bytes := []

def notifyTerminal : BoundedBytePipe :=
  if s.terminalNotified then s
  else { s with terminalNotified := true, terminals := s.terminals + 1 }

/-- The waiter is resolved, or rejected; the write that awaits it goes on later. -/
def settleCapacityWaiter (phase : WritePhase) : BoundedBytePipe :=
  if s.capacityWaiter then { s with capacityWaiter := false, write := some phase } else s

def releaseCapacityWaiter : BoundedBytePipe := s.settleCapacityWaiter .woken

def rejectCapacityWaiter : BoundedBytePipe := s.settleCapacityWaiter .refused

/-- The pull loop of the readable has taken a step, which may have called `pull`. -/
def pulled (result : Bool × PullLoop) : BoundedBytePipe :=
  let s := { s with pulls := result.2 }
  if result.1 then s.releaseCapacityWaiter else s

def shouldCallPull : Bool := s.readable.stream.shouldCallPull o.capacity.value

def callPullIfNeeded : BoundedBytePipe :=
  s.pulled (s.pulls.callPullIfNeeded (s.shouldCallPull o))

def closePipe : BoundedBytePipe :=
  if s.state ≠ .open then s
  else
    let s := releaseCapacityWaiter { s with state := .closed }
    notifyTerminal { s with readable := s.readable.close }

/-- `#abort` but for the error of the writable. -/
def abortReadable : BoundedBytePipe :=
  let s := rejectCapacityWaiter { s with state := .aborted }
  { s with readable := s.readable.error }

/-- `abort`. A call of the sink's own `abort` would find the pipe aborted. -/
def abortPipe : BoundedBytePipe :=
  if s.state ≠ .open then s
  else
    let s := s.abortReadable
    notifyTerminal { s with writable := s.writable.error.2 }

/-- The abort listener of the writable's signal. -/
def writableAborted : BoundedBytePipe :=
  if s.state ≠ .open then s else notifyTerminal s.abortReadable

/-- `desiredSize` is positive. -/
def hasCapacity : Bool :=
  s.readable.stream.state == .readable && decide (s.readable.stream.queue.length < o.capacity.value)

/-- `waitForCapacity` up to its next `await`. -/
def waitForCapacity : BoundedBytePipe :=
  if s.state ≠ .open then { s with write := some .refused }
  else if s.hasCapacity o then { s with write := some .ready }
  else { s with write := some .waiting, capacityWaiter := true }

/-- The `catch` of `write`. -/
def writeCaught : BoundedBytePipe := { s.abortPipe with write := some .failed }

/-- `write` of the sink up to its first `await`. -/
def beginWrite (chunk : PipeChunk) : BoundedBytePipe :=
  match chunk with
  | .other => s.writeCaught
  | .bytes value =>
    if o.maxChunkSize.value < value.length then s.writeCaught else s.waitForCapacity o

/-- `write` of the sink has found room for its chunk. -/
def enqueueChunk (value : List UInt8) : BoundedBytePipe :=
  if s.state = .open ∧ s.readable.stream.canCloseOrEnqueue = true then
    let s := callPullIfNeeded o { s with readable := s.readable.enqueue value }
    { s with bytes := s.bytes ++ [value.length], write := some .stored }
  else s.writeCaught

/-- `write` of the sink goes on behind an `await`. -/
def resume : BoundedBytePipe :=
  match s.write, s.writable.inFlight with
  | some .woken, _ => s.waitForCapacity o
  | some .ready, some (.bytes value) => s.enqueueChunk o value
  | _, _ => s.writeCaught

/-- The sink is called. -/
def perform (call : Option (SinkCall PipeChunk)) : BoundedBytePipe :=
  match call with
  | some (.write chunk) => s.beginWrite o chunk
  | some .close => s.closePipe
  | some .abort => s.abortPipe
  | none => s

/-- An operation of the writable, with what its sink does at once. -/
def turn (result : Option (SinkCall PipeChunk) × WritableStream PipeChunk) : BoundedBytePipe :=
  perform o { s with writable := result.2 } result.1

def read : BoundedBytePipe :=
  let s := { s with readable := s.readable.read }
  if s.readable.stream.state = .readable then s.callPullIfNeeded o else s

def cancel : BoundedBytePipe :=
  if s.readable.stream.state = .readable then
    abortPipe { s with readable := s.readable.cancel }
  else s

/-- `writer.abort`. -/
def abortWriter : BoundedBytePipe :=
  if s.writable.state = .closed ∨ s.writable.state = .errored then s
  else
    let s := s.writableAborted
    s.turn o s.writable.abort

def writeSettled : BoundedBytePipe :=
  turn o { s with write := none } (s.writable.writeSettled (s.write == some .stored))

/-- Promises settle at any time after each other; the two ends are used at any time. -/
def enabled : BytePipeEvent → Bool
  | .readableStarted => !s.pulls.started
  | .writableStarted => !s.writable.started
  | .pullSettled => s.pulls.pulling
  | .resumed => s.write.any (·.resumes)
  | .writeSettled => s.write.any (·.isSettled)
  | .closeSettled => s.writable.closeRequest == .inFlight
  | _ => true

def next : BytePipeEvent → BoundedBytePipe
  | .write chunk => s.turn o (s.writable.write chunk)
  | .closeWriter => s.turn o s.writable.close
  | .abortWriter => s.abortWriter o
  | .read => s.read o
  | .cancel => s.cancel
  | .close => s.closePipe
  | .abort => s.abortPipe
  | .readableStarted => s.pulled (s.pulls.start (s.shouldCallPull o))
  | .writableStarted => s.turn o s.writable.start
  | .pullSettled => s.pulled (s.pulls.settle (s.shouldCallPull o))
  | .resumed => s.resume o
  | .writeSettled => s.writeSettled o
  | .closeSettled => { s with writable := s.writable.closeSettled }

def program : Program BoundedBytePipe BytePipeEvent := ⟨new, enabled, next o⟩

def machine : Machine BoundedBytePipe BytePipeEvent := (program o).machine

end BoundedBytePipe

end NestWebTransport
