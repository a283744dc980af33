import NestWebTransport.Driver.ErrorMapper
import NestWebTransport.Driver.RWebTransportDriver
import NestWebTransport.Testing.BoundedValueQueue
import NestWebTransport.Testing.MockStream

/-! `MockSessionConnection`: the streams and the termination of a virtual session.

Listeners of abort signals run in the middle of an operation. What the operation does behind them
is a frame of the agenda; the listeners may do anything until the frame is taken up. -/
namespace NestWebTransport

/-- `reason` is missing where it is the text of a value that is no error. -/
structure MockSessionCloseInfo where
  closeCode : Nat
  reason : Option String
  aborted : Bool
  error : Option Thrown
  deriving DecidableEq, Repr

namespace MockSessionCloseInfo

/-- What `close` asks for. -/
def ofClose (closeCode : Option Nat) (reason : Option String) : MockSessionCloseInfo :=
  ⟨closeCode.getD 0, some (reason.getD ""), false, none⟩

/-- What `abort` asks for. -/
def ofAbort (error : Thrown) : MockSessionCloseInfo := ⟨0, error.message, true, some error⟩

end MockSessionCloseInfo

inductive SessionEndpoint
  | first
  | second
  deriving DecidableEq, Repr

def SessionEndpoint.peer : SessionEndpoint → SessionEndpoint
  | .first => .second
  | .second => .first

/-- What is left of an operation behind the listeners of a signal: of `reset`, of `notifyTerminal`,
of a creation that was refused, and of `terminate` before and while it resets the streams. -/
inductive SessionFrame
  | finishReset (id : Nat)
  | onTerminal (id : Nat)
  | refused (id : Nat)
  | snapshot (info : MockSessionCloseInfo)
  | resets (info : MockSessionCloseInfo) (rest : List Nat)
  deriving DecidableEq, Repr

/-- The connection, its agenda with the innermost frame first, the terminations that await their
resets, the `requests` to terminate, and the calls of the hooks: `opened` and `ended` streams, and
`onClosed`. `tracked` is the set of streams, and `termination` tells that it has been assigned. -/
structure MockSessionConnection where
  state : SessionState
  closeInfo : Option MockSessionCloseInfo
  closed : Option MockSessionCloseInfo
  termination : Bool
  streams : Nat → MockStreamLifecycle
  nextStreamId : Nat
  tracked : List Nat
  incoming : SessionEndpoint → Bool → BoundedValueQueue Nat
  agenda : List SessionFrame
  terminations : List MockSessionCloseInfo
  requests : List MockSessionCloseInfo
  opened : List Nat
  ended : List Nat
  onClosed : List MockSessionCloseInfo

/-- An operation of one of the endpoints or of its listeners, the next frame, or the microtask that
ends a termination. -/
inductive MockSessionEvent
  | create (owner : SessionEndpoint) (bidi : Bool)
  | endPipe (id pipe : Nat) (abort : Bool)
  | reset (id : Nat)
  | request (info : MockSessionCloseInfo)
  | consume (endpoint : SessionEndpoint) (bidi : Bool) (event : ValueQueueEvent Nat)
  | proceed
  | settle
  deriving DecidableEq, Repr

namespace MockSessionConnection

def new : MockSessionConnection where
  state := .connected
  closeInfo := none
  closed := none
  termination := false
  streams _ := .new true
  nextStreamId := 0
  tracked := []
  incoming _ _ := .new
  agenda := []
  terminations := []
  requests := []
  opened := []
  ended := []
  onClosed := []

variable (incomingStreamQueueSize : PositiveInteger) (c : MockSessionConnection)

def startStream (bidi : Bool) : MockSessionConnection :=
  { c with
    nextStreamId := c.nextStreamId + 1
    streams := Function.update c.streams c.nextStreamId (.new bidi)
    tracked := c.tracked ++ [c.nextStreamId]
    opened := c.opened ++ [c.nextStreamId] }

def finishStream (id : Nat) : MockSessionConnection :=
  if id ∈ c.tracked then { c with tracked := c.tracked.erase id, ended := c.ended ++ [id] } else c

/-- The lifecycle of a stream has moved on. -/
def act (id : Nat) (moved : LifecycleNotice × MockStreamLifecycle) : MockSessionConnection :=
  let c := { c with streams := Function.update c.streams id moved.2 }
  match moved.1 with
  | .nothing => c
  | .resetting => { c with agenda := .finishReset id :: c.agenda }
  | .aborting => { c with agenda := .onTerminal id :: c.agenda }
  | .terminal => c.finishStream id

def resetStream (id : Nat) : MockSessionConnection := c.act id (c.streams id).reset

def setIncoming (endpoint : SessionEndpoint) (bidi : Bool) (queue : BoundedValueQueue Nat) :
    MockSessionConnection :=
  let queues := Function.update (c.incoming endpoint) bidi queue
  { c with incoming := Function.update c.incoming endpoint queues }

/-- `createBidirectionalStream` and `createUnidirectionalStream`. A full queue resets the stream it
drops, and the creation that fails resets it again. -/
def createStream (owner : SessionEndpoint) (bidi : Bool) : MockSessionConnection :=
  if c.state ≠ .connected then c
  else
    let id := c.nextStreamId
    let c := c.startStream bidi
    let (result, queue) := (c.incoming owner.peer bidi).push incomingStreamQueueSize .reject id
    let c := c.setIncoming owner.peer bidi queue
    match result with
    | .accepted _ | .refused _ => c
    | .full _ => { c with agenda := .refused id :: c.agenda }.resetStream id
    | .closed => c.resetStream id

/-- `terminate` up to the listeners of its signal. -/
def terminate (info : MockSessionCloseInfo) : MockSessionConnection :=
  if c.state = .closed then { c with termination := true }
  else
    { c with
      state := .closing
      closeInfo := some info
      agenda := .snapshot info :: c.agenda }

/-- `close` and `abort` of either endpoint. -/
def beginTermination (info : MockSessionCloseInfo) : MockSessionConnection :=
  let c := { c with requests := c.requests ++ [info] }
  if c.termination then c else c.terminate info

/-- `terminate` behind its resets, up to where it awaits them; then `termination` is assigned. -/
def endIncoming (info : MockSessionCloseInfo) : MockSessionConnection :=
  { c with
    incoming := fun endpoint bidi =>
      if info.aborted then (c.incoming endpoint bidi).abort
      else (c.incoming endpoint bidi).close true
    terminations := c.terminations ++ [info]
    termination := true }

def proceed : MockSessionConnection :=
  match c.agenda with
  | [] => c
  | .finishReset id :: rest => { c with agenda := rest }.act id (c.streams id).finishReset
  | .onTerminal id :: rest => { c with agenda := rest }.finishStream id
  | .refused id :: rest => { c with agenda := rest }.resetStream id
  | .snapshot info :: rest => { c with agenda := .resets info c.tracked :: rest }
  | .resets info (id :: ids) :: rest => { c with agenda := .resets info ids :: rest }.resetStream id
  | .resets info [] :: rest => { c with agenda := rest }.endIncoming info

/-- `terminate` behind its `await`. Terminations settle here in the order they reached it. That is
not the microtask order where one that began inside another had streams: the outer one, with none
left to await, then settles first. -/
def settle : MockSessionConnection :=
  match c.terminations with
  | [] => c
  | info :: rest =>
    { c with
      state := .closed
      closed := c.closed.or (some info)
      terminations := rest
      onClosed := c.onClosed ++ [info] }

def enabled : MockSessionEvent → Bool
  | .create _ _ | .request _ => true
  | .endPipe id _ _ | .reset id => decide (id < c.nextStreamId)
  | .consume endpoint bidi event => event.isConsumer && (c.incoming endpoint bidi).enabled event
  | .proceed => !c.agenda.isEmpty
  | .settle => c.agenda.isEmpty && !c.terminations.isEmpty

def next : MockSessionEvent → MockSessionConnection
  | .create owner bidi => c.createStream incomingStreamQueueSize owner bidi
  | .endPipe id pipe abort =>
    c.act id ((c.streams id).endPipe pipe (if abort then .aborted else .closed))
  | .reset id => c.resetStream id
  | .request info => c.beginTermination info
  | .consume endpoint bidi event =>
    c.setIncoming endpoint bidi
      ((c.incoming endpoint bidi).next incomingStreamQueueSize .reject event)
  | .proceed => c.proceed
  | .settle => c.settle

/-! ### What the session promises -/

structure Kept : Prop where
  opened : c.opened = List.range c.nextStreamId
  paired : c.opened.Perm (c.ended ++ c.tracked)
  tracked : c.agenda = [] → ∀ id < c.nextStreamId, id ∈ c.tracked ↔ ¬ (c.streams id).IsTerminal
  closeInfo : c.closeInfo = c.requests.head?
  closed : ∀ info, c.closed = some info ∨ info ∈ c.onClosed → c.requests.head? = some info
  refuses : c.requests ≠ [] → ∀ owner bidi, c.createStream incomingStreamQueueSize owner bidi = c
  finished : c.state = .closed → c.tracked = [] ∧ ∀ id < c.nextStreamId, (c.streams id).IsTerminal

/-- A request overtakes the one before it: it comes from within the synchronous part of its
termination, and asks for another close info. -/
def Overtakes : MockSessionEvent → Prop
  | .request info => c.requests ≠ [] ∧ c.termination = false ∧ c.closeInfo ≠ some info
  | _ => False

instance : DecidablePred c.Overtakes
  | .request _ => inferInstanceAs (Decidable (_ ∧ _))
  | .create _ _ | .endPipe _ _ _ | .reset _ | .consume _ _ _ | .proceed | .settle =>
    inferInstanceAs (Decidable False)

end MockSessionConnection

end NestWebTransport
