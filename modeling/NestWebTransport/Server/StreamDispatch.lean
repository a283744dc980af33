import NestWebTransport.Foundation.Program
import NestWebTransport.Routing.GatewayRegistry
import NestWebTransport.Server.RuntimeState

/-! One incoming stream, from the pump that tracks it to the end of its task. -/
namespace NestWebTransport

def StreamKind.handlerKind : StreamKind → WebTransportHandlerKind
  | .bidirectional => .bidirectionalStream
  | .unidirectional => .unidirectionalStream

/-- What a dispatch reads; `routing` says for which kinds there is a resolver. -/
structure StreamDispatcher where
  registry : GatewayRegistry
  path : String
  routing : RoutingOptions
  kind : StreamKind

/-- Streams and payloads are known by numbers; a payload that is not an own property is `none`. -/
structure WebTransportRouteResolution where
  route : Option String
  value : Option Nat
  payload : Option Nat
  deriving DecidableEq, Repr

/-- One call of `pipeline.invoke`. -/
structure HandlerInvocation where
  handler : CompiledWebTransportHandler
  value : Nat
  payload : Nat
  deriving DecidableEq, Repr

/-- What is awaited: the submission and the permits of the task, its resolver, the reset of a
stream without a route, a handler, `handleRuntimeError` in the loop over the handlers, the `catch`
of the scheduler, `handleRuntimeError` behind it, or the refusal of the submission. -/
inductive DispatchStage
  | tracked
  | queued
  | waiting
  | resolving
  | unrouted
  | invoking (value payload : Nat) (rest : List CompiledWebTransportHandler)
  | recovering (goesOn : Bool) (value payload : Nat) (rest : List CompiledWebTransportHandler)
  | rejected (error : Failure)
  | failing
  | refusing
  | settled
  deriving DecidableEq, Repr

/-- A tracked stream with what the runtime did about it: `stopped` lists the calls of `reset` or
`stop`, with their codes, and `closings` those of `closeSession`. -/
structure StreamDispatch where
  stream : Nat
  stage : DispatchStage
  aborted : Bool
  invoked : List HandlerInvocation
  stopped : List (Nat × Option CloseCode)
  closings : List (CloseCode × String)
  serverStops : Nat

namespace StreamDispatch

variable (p : StreamDispatcher) (d : StreamDispatch)

/-- `trackStream`. -/
def trackStream (stream : Nat) : StreamDispatch := ⟨stream, .tracked, false, [], [], [], 0⟩

/-- `reset` or `stop`, by the kind of the stream. -/
def stopStream (stream : Nat) (closeCode : Option CloseCode) : StreamDispatch :=
  { d with stopped := d.stopped ++ [(stream, closeCode)] }

def closeSession (closeCode : CloseCode) (reason : String) : StreamDispatch :=
  { d with closings := d.closings ++ [(closeCode, reason)] }

def handleStreamSubmissionOutcome : TaskSubmissionResult → StreamDispatch
  | .started => { d with stage := .waiting }
  | .queued => { d with stage := .queued }
  | .closeSession =>
    { d.closeSession .resourceLimit "Handler queue limit exceeded" with stage := .refusing }
  | .dropped | .rejected | .closed =>
    { d.stopStream d.stream (some .resourceLimit) with stage := .refusing }

/-- What `handleRuntimeError` does before its `await`, and whether it returns `continue`. -/
def handleRuntimeError (error : Failure) (stream : Nat) : StreamDispatch × Bool :=
  match error.scope with
  | none | some .handler => (d, true)
  | some .stream => (d.stopStream stream none, false)
  | some .session => (d.closeSession .internalError error.code, false)
  | some .server | some .fatal => ({ d with serverStops := d.serverStops + 1 }, false)

/-- The rest of the loop over the handlers. -/
def invokeAll (value payload : Nat) : List CompiledWebTransportHandler → StreamDispatch
  | [] => { d with stage := .settled }
  | handler :: rest =>
    if d.aborted then { d with stage := .rejected .abort }
    else { d with
      invoked := d.invoked ++ [⟨handler, value, payload⟩]
      stage := .invoking value payload rest }

/-- What follows the resolver; `none` is a resolution that is null or undefined. -/
def route (kind : WebTransportHandlerKind) (resolution : Option WebTransportRouteResolution) :
    StreamDispatch :=
  if d.aborted then { d with stage := .rejected .abort }
  else
    match resolution with
    | none => { d with stage := .rejected .typeError }
    | some resolution =>
      let value := resolution.value.getD d.stream
      let payload := resolution.payload.getD value
      match p.registry.find p.path kind resolution.route with
      | [] => { d.stopStream d.stream (some .noRoute) with stage := .unrouted }
      | handlers => d.invokeAll value payload handlers

def dispatchStream (kind : WebTransportHandlerKind) (resolver : Bool) : StreamDispatch :=
  if resolver then { d with stage := .resolving }
  else d.route p kind (some ⟨none, some d.stream, some d.stream⟩)

def dispatchBidirectionalStream : StreamDispatch :=
  d.dispatchStream p .bidirectionalStream p.routing.bidirectionalStream

def dispatchUnidirectionalStream : StreamDispatch :=
  d.dispatchStream p .unidirectionalStream p.routing.unidirectionalStream

/-- The task a pump submits. -/
def dispatch : StreamDispatch :=
  match p.kind with
  | .bidirectional => d.dispatchBidirectionalStream p
  | .unidirectional => d.dispatchUnidirectionalStream p

/-- A handler has thrown. -/
def recover (error : Failure) : StreamDispatch :=
  match d.stage with
  | .invoking value payload rest =>
    let (next, goesOn) := d.handleRuntimeError error value
    { next with stage := .recovering goesOn value payload rest }
  | _ => d

/-- The scheduler catches what its task rejected with. -/
def catchError : StreamDispatch :=
  match d.stage with
  | .rejected error =>
    if d.aborted then { d with stage := .settled }
    else { (d.handleRuntimeError error d.stream).1 with stage := .failing }
  | _ => d

/-- An `await` of the runtime itself is over. -/
def proceed : StreamDispatch :=
  match d.stage with
  | .invoking value payload rest => d.invokeAll value payload rest
  | .recovering true value payload rest => d.invokeAll value payload rest
  | _ => { d with stage := .settled }

end StreamDispatch

inductive StreamDispatchEvent
  | submit (outcome : TaskSubmissionResult)
  | start
  | discard
  | granted
  | denied
  | abort
  | resolved (resolution : Option WebTransportRouteResolution)
  | rejected (error : Failure)
  | returned
  | threw (error : Failure)
  | caught
  | proceeds
  deriving DecidableEq, Repr

namespace StreamDispatch

variable (p : StreamDispatcher) (d : StreamDispatch)

def isInvoking : Bool :=
  match d.stage with
  | .invoking _ _ _ => true
  | _ => false

def isRejected : Bool :=
  match d.stage with
  | .rejected _ => true
  | _ => false

/-- `reset`, `stop`, `closeSession` or `handleRuntimeError` is awaited. -/
def isAwaiting : Bool :=
  match d.stage with
  | .unrouted | .recovering _ _ _ _ | .failing | .refusing => true
  | _ => false

def enabled : StreamDispatchEvent → Bool
  | .submit _ => d.stage == .tracked
  | .start | .discard => d.stage == .queued
  | .granted => d.stage == .waiting
  | .denied => d.stage == .waiting && d.aborted
  | .abort => !d.aborted
  | .resolved _ | .rejected _ => d.stage == .resolving
  | .returned | .threw _ => d.isInvoking
  | .caught => d.isRejected
  | .proceeds => d.isAwaiting

def next : StreamDispatchEvent → StreamDispatch
  | .submit outcome => d.handleStreamSubmissionOutcome outcome
  | .start => { d with stage := .waiting }
  | .discard => { d with stage := .settled }
  | .granted => if d.aborted then { d with stage := .rejected .abort } else d.dispatch p
  | .denied => { d with stage := .rejected .abort }
  | .abort => { d with aborted := true }
  | .resolved resolution => d.route p p.kind.handlerKind resolution
  | .rejected error => { d with stage := .rejected error }
  | .returned => d.proceed
  | .threw error => d.recover error
  | .caught => d.catchError
  | .proceeds => d.proceed

def program (stream : Nat) : Program StreamDispatch StreamDispatchEvent :=
  ⟨trackStream stream, enabled, next p⟩

def machine (stream : Nat) : Machine StreamDispatch StreamDispatchEvent :=
  (program p stream).machine

end StreamDispatch

end NestWebTransport
