import NestWebTransport.Foundation.Conveyor
import NestWebTransport.Foundation.Program
import NestWebTransport.Foundation.ReadableStream
import NestWebTransport.Module.Options

/-! The bounded queue behind the virtual datagrams and the virtual incoming streams. -/
namespace NestWebTransport

inductive QueueOverflowPolicy
  | dropOldest
  | dropNewest
  | reject
  | closeSession
  deriving DecidableEq, Repr

inductive ValueQueueState
  | open
  | closing
  | closed
  | aborted
  deriving DecidableEq, Repr

/-- What `push` returns, or the error it throws. `onCloseSession` has been called where `full` says
so. -/
inductive PushResult (α : Type*)
  | accepted (dropped : Option α)
  | refused (dropped : α)
  | closed
  | full (closesSession : Bool)
  deriving DecidableEq, Repr

/-- The queue, the values that were `pushed` while it was open, and what became of them: `handed` to
the controller of the stream, `dropped` through `onDrop`, `discarded` by `close` or `abort`. -/
structure BoundedValueQueue (α : Type*) where
  readable : ReadableStream α
  values : List α
  waitingForValue : Bool
  state : ValueQueueState
  pushed : List α
  handed : List α
  dropped : List α
  discarded : List α

/-- An operation of the owner, a call of `pull`, or what the consumer does: reads, releases its lock
with reads that wait, cancels. -/
inductive ValueQueueEvent (α : Type*)
  | push (value : α)
  | close (discard : Bool)
  | abort
  | pull
  | read
  | release
  | cancel
  deriving DecidableEq, Repr

def ValueQueueEvent.isConsumer {α : Type*} : ValueQueueEvent α → Bool
  | .pull | .read | .release | .cancel => true
  | .push _ | .close _ | .abort => false

namespace BoundedValueQueue

variable {α : Type*} (capacity : PositiveInteger) (overflow : QueueOverflowPolicy)
  (q : BoundedValueQueue α)

def new : BoundedValueQueue α where
  readable := .new
  values := []
  waitingForValue := false
  state := .open
  pushed := []
  handed := []
  dropped := []
  discarded := []

/-- `controller.enqueue`, which throws where the stream is closed. -/
def enqueue (value : α) : BoundedValueQueue α :=
  if q.readable.canCloseOrEnqueue then
    { q with readable := q.readable.enqueue value, handed := q.handed ++ [value] }
  else q

def onDrop (value : α) : BoundedValueQueue α := { q with dropped := q.dropped ++ [value] }

/-- `values.length = 0`. -/
def clear : BoundedValueQueue α :=
  { q with values := [], discarded := q.discarded ++ q.values }

/-- `push` to an open queue whose store is full. -/
def pushFull (value : α) : PushResult α × BoundedValueQueue α :=
  match overflow with
  | .dropOldest =>
    match q.values with
    | [] => (.accepted none, { q with values := [value] })
    | dropped :: rest =>
      (.accepted (some dropped), { q.onDrop dropped with values := rest ++ [value] })
  | .dropNewest => (.refused value, q.onDrop value)
  | .reject => (.full false, q.onDrop value)
  | .closeSession => (.full true, q.onDrop value)

def push (value : α) : PushResult α × BoundedValueQueue α :=
  if q.state ≠ .open then (.closed, q)
  else
    let q := { q with pushed := q.pushed ++ [value] }
    if q.waitingForValue then (.accepted none, { q with waitingForValue := false }.enqueue value)
    else if q.values.length < capacity.value then
      (.accepted none, { q with values := q.values ++ [value] })
    else q.pushFull overflow value

def finishClose : BoundedValueQueue α :=
  if q.state = .closed then q
  else { q with state := .closed, waitingForValue := false, readable := q.readable.close }

def close (discard : Bool) : BoundedValueQueue α :=
  if q.state ≠ .open ∧ q.state ≠ .closing then q
  else
    let q := if discard then q.clear else q
    let q := { q with state := .closing }
    if q.values = [] then q.finishClose else q

def abort : BoundedValueQueue α :=
  if q.state = .closed ∨ q.state = .aborted then q
  else { q.clear with state := .aborted, waitingForValue := false, readable := q.readable.error }

/-- `pull` of the stream. -/
def flushOne : BoundedValueQueue α :=
  match q.values with
  | value :: rest =>
    let q := { q with values := rest }.enqueue value
    if q.values = [] ∧ q.state = .closing then q.finishClose else q
  | [] =>
    match q.state with
    | .closing => q.finishClose
    | .open => { q with waitingForValue := true }
    | .closed | .aborted => q

/-- The consumer cancels the stream. -/
def cancel : BoundedValueQueue α :=
  if q.readable.state = .readable then { q with readable := q.readable.cancel }.abort else q

/-- `pull` runs where the stream wants a value. -/
def enabled : ValueQueueEvent α → Bool
  | .pull => q.readable.shouldCallPull 0
  | _ => true

def next : ValueQueueEvent α → BoundedValueQueue α
  | .push value => (q.push capacity overflow value).2
  | .close discard => q.close discard
  | .abort => q.abort
  | .pull => q.flushOne
  | .read => { q with readable := q.readable.read.2 }
  | .release => { q with readable := { q.readable with reads := 0 } }
  | .cancel => q.cancel

def program : Program (BoundedValueQueue α) (ValueQueueEvent α) :=
  ⟨new, enabled, next capacity overflow⟩

def machine : Machine (BoundedValueQueue α) (ValueQueueEvent α) :=
  (program capacity overflow).machine

end BoundedValueQueue

end NestWebTransport
