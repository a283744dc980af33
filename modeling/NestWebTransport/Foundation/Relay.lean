import NestWebTransport.Foundation.Delivery
import NestWebTransport.Foundation.Program
import NestWebTransport.Foundation.PullLoop

/-! A readable stream whose `pull` reads another one, chunk by chunk. -/
namespace NestWebTransport

/-- Where the `pull` is: it awaits the read of the source, has its answer, or has returned. -/
inductive RelayPull (α : Type*)
  | requested
  | resolved (result : ReadResult α)
  | finished
  deriving DecidableEq, Repr

namespace RelayPull

variable {α : Type*}

def isResolved : RelayPull α → Bool
  | .resolved _ => true
  | _ => false

def isFinished : RelayPull α → Bool
  | .finished => true
  | _ => false

/-- The chunk `pull` holds. -/
def held : Option (RelayPull α) → List α
  | some (.resolved (.value chunk)) => [chunk]
  | _ => []

/-- The reads of the source that wait. -/
def asked : Option (RelayPull α) → Nat
  | some .requested => 1
  | _ => 0

/-- A read that waits is answered when its stream ends. -/
def ending : ReadableState → Option (RelayPull α) → Option (RelayPull α)
  | .closed, some .requested => some (.resolved .done)
  | .errored, some .requested => some (.resolved .failed)
  | _, pull => pull

end RelayPull

/-- The source, whose one reader is the relay's, and the sink, a readable of the default strategy.
`received` are the chunks that `pull` was given; `released` once the reader's lock is,
`releasePending` while it is about to be. -/
structure Relay (α : Type*) where
  source : Delivery α
  sink : Delivery α
  pulls : PullLoop
  pull : Option (RelayPull α)
  releasePending : Bool
  released : Bool
  received : List α

inductive RelayEvent (α : Type*)
  | enqueue (chunk : α)
  | close
  | fail
  | read
  | cancel
  | abort
  | sourceFailed
  | started
  | pullResumed (stops : Bool)
  | pullSettled
  | unlocked
  deriving DecidableEq, Repr

namespace Relay

variable {α : Type*} (r : Relay α)

def new : Relay α where
  source := .new
  sink := .new
  pulls := .new
  pull := none
  releasePending := false
  released := false
  received := []

/-! ### The source -/

/-- The source takes a chunk, which may answer the read that waits. -/
def enqueue (chunk : α) : Relay α :=
  if r.source.stream.canCloseOrEnqueue then
    { r with
      source := r.source.enqueue chunk
      pull := if 0 < r.source.stream.reads then some (.resolved (.value chunk)) else r.pull }
  else r

/-- The source may have ended; the read that waits is answered. -/
def withSource (source : Delivery α) : Relay α :=
  { r with source := source, pull := RelayPull.ending source.stream.state r.pull }

/-! ### The relay -/

/-- `reader.cancel`, which rejects once the lock is released. -/
def cancelSource : Relay α := if r.released then r else r.withSource r.source.cancel

/-- The lock goes; a read that waits is rejected. -/
def release : Relay α :=
  if r.released then r
  else
    { r with
      released := true
      releasePending := false
      source := { r.source with stream := { r.source.stream with reads := 0 } }
      pull := RelayPull.ending .errored r.pull }

/-- `pull` up to its `await`. -/
def beginPull : Relay α :=
  if r.released then { r with pull := some (.resolved .failed) }
  else
    { r with
      source := r.source.read
      pull := some ((r.source.stream.read.1.map .resolved).getD .requested) }

def pulled (result : Bool × PullLoop) : Relay α :=
  let r := { r with pulls := result.2 }
  if result.1 then r.beginPull else r

def shouldCallPull : Bool := r.sink.stream.shouldCallPull 1

def callPullIfNeeded : Relay α := r.pulled (r.pulls.callPullIfNeeded r.shouldCallPull)

/-- The `catch` of `pull`, which `stops` the source or leaves it. -/
def pullCaught (stops : Bool) : Relay α :=
  let r := { r with sink := r.sink.error }
  release (if stops then r.cancelSource else r)

/-- `pull` goes on with the answer of its read; `controller.close` and `controller.enqueue` throw
where the sink takes nothing. -/
def pullResumed (stops : Bool) : Relay α :=
  match r.pull with
  | some (.resolved (.value chunk)) =>
    let r := { r with received := r.received ++ [chunk], pull := some .finished }
    if r.sink.stream.canCloseOrEnqueue then
      callPullIfNeeded { r with sink := r.sink.enqueue chunk }
    else r.pullCaught stops
  | some (.resolved .done) =>
    let r := { r with pull := some .finished }
    if r.sink.stream.canCloseOrEnqueue then release { r with sink := r.sink.close }
    else r.pullCaught stops
  | _ => pullCaught { r with pull := some .finished } stops

def read : Relay α :=
  let r := { r with sink := r.sink.read }
  if r.sink.stream.state = .readable then r.callPullIfNeeded else r

/-- The consumer cancels; the lock goes once the source has been cancelled. -/
def cancel : Relay α :=
  if r.sink.stream.state = .readable then
    { cancelSource { r with sink := r.sink.cancel } with releasePending := !r.released }
  else r

/-- Both ends are given up, the lock later. -/
def abort : Relay α :=
  { cancelSource { r with sink := r.sink.error } with releasePending := !r.released }

/-- The rejection of `reader.closed`. -/
def sourceFailed : Relay α := release { r with sink := r.sink.error }

def enabled : RelayEvent α → Bool
  | .sourceFailed => r.source.stream.state == .errored && !r.released
  | .started => !r.pulls.started
  | .pullResumed _ => r.pull.any (·.isResolved)
  | .pullSettled => r.pull.any (·.isFinished)
  | .unlocked => r.releasePending
  | _ => true

def next : RelayEvent α → Relay α
  | .enqueue chunk => r.enqueue chunk
  | .close => r.withSource r.source.close
  | .fail => r.withSource r.source.error
  | .read => r.read
  | .cancel => r.cancel
  | .abort => r.abort
  | .sourceFailed => r.sourceFailed
  | .started => r.pulled (r.pulls.start r.shouldCallPull)
  | .pullResumed stops => r.pullResumed stops
  | .pullSettled => pulled { r with pull := none } (r.pulls.settle r.shouldCallPull)
  | .unlocked => r.release

def program : Program (Relay α) (RelayEvent α) := ⟨new, enabled, next⟩

def machine : Machine (Relay α) (RelayEvent α) := program.machine

end Relay

end NestWebTransport
