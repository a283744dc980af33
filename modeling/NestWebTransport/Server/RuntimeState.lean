import NestWebTransport.Execution.ExecutionPipeline
import NestWebTransport.Server.DataPlane
import NestWebTransport.Server.IpRecords
import NestWebTransport.Server.SessionValidation

/-! The state of the runtime.

A session is known by the order in which it became managed. `closeCalls`, `stopCalls` and each
session's `log` record what happened; the program keeps no such record. -/
namespace NestWebTransport

structure WebTransportDriverCapabilities where
  datagrams : Bool
  bidirectionalStreams : Bool
  unidirectionalStreams : Bool
  gracefulShutdown : Bool

/-- What the runtime is constructed with, and the platform's URL parser; `serverSignal` says
whether `server.signal` is present. -/
structure RuntimeDependencies where
  options : NormalizedWebTransportModuleOptions
  serverSignal : Bool
  registry : GatewayRegistry
  application : ApplicationConfig
  capabilities : WebTransportDriverCapabilities
  parseURL : String → Option ParsedURL

inductive CloseCode
  | noError
  | rejected
  | resourceLimit
  | noRoute
  | timeout
  | internalError
  deriving DecidableEq, Repr

def CloseCode.value : CloseCode → Nat
  | .noError => 0
  | .rejected => 0x100
  | .resourceLimit => 0x101
  | .noRoute => 0x102
  | .timeout => 0x103
  | .internalError => 0x104

theorem CloseCode.value_injective : Function.Injective CloseCode.value := by
  intro a b h
  cases a <;> cases b <;> first | rfl | cases h

/-- One call of `closeSession`; `managed` is `none` for a session that was never managed. -/
structure CloseCall where
  managed : Option Nat
  sessionId : String
  closeCode : CloseCode
  reason : String
  deriving DecidableEq, Repr

/-- What `authenticate` resolved to. -/
inductive Principal
  | refused
  | absent
  | value
  deriving DecidableEq, Repr

/-- Handlers are known by their position among the session handlers of the path. -/
inductive AdmissionEvent
  | authenticateStarted
  | authenticated (principal : Principal)
  | handlerStarted (index : Nat)
  | guardDenied (index : Nat)
  | callbackApplied (index : Nat)
  | handlerResolved (index : Nat)
  deriving DecidableEq, Repr

/-- Where `authenticateAndRunSessionHandlers` stands. `invoked` is a handler whose invocation has
fulfilled while the loop has not yet resumed. -/
inductive AdmissionStage
  | queued
  | authenticating
  | invoking (index : Nat) (phase : InvokePhase)
  | invoked (index : Nat)
  | fulfilled
  | rejected (error : Failure)
  deriving DecidableEq, Repr

/-- Where `acceptSession` stands once the session is managed: it awaits the race of the admission
work with the abort signal and the timeout, the race has settled, or it is past it. -/
inductive AcceptPhase
  | racing
  | raceFulfilled
  | raceRejected (error : Failure)
  | returned
  | accepted
  deriving DecidableEq, Repr

inductive DatagramPump
  | idle
  | reading
  | closing
  | ended
  deriving DecidableEq, Repr

inductive DrainLoop
  | idle
  | awaitingCapacity
  | submitted
  deriving DecidableEq, Repr

/-- `done` records that the pump ended because its collection reported `done`. -/
inductive StreamPump
  | idle
  | awaitingCapacity
  | reading
  | refusing
  | discarding
  | submitted
  | closing
  | ended (done : Bool)
  deriving DecidableEq, Repr

def DatagramPump.settled : DatagramPump → Bool
  | .idle | .ended => true
  | _ => false

def DrainLoop.settled : DrainLoop → Bool
  | .idle => true
  | _ => false

def StreamPump.settled : StreamPump → Bool
  | .idle | .ended _ => true
  | _ => false

/-- What `retireSession` awaits: the promises it read when it was called. -/
structure Awaited where
  admission : Bool
  datagramPump : Bool
  drain : Bool
  bidirectionalPump : Bool
  unidirectionalPump : Bool
  deriving DecidableEq, Repr

inductive Retirement
  | none
  | awaiting (awaited : Awaited)
  | retired
  deriving DecidableEq, Repr

/-- `context` is the reason of the context's signal once it is aborted and `work` the admission
work; `admission` says whether `managed.admission` still holds its promise. -/
structure ManagedSession where
  session : WebTransportSession
  sessionAborted : Bool
  intakeAborted : Bool
  context : Option Failure
  finalized : Bool
  datagramReader : Bool
  bidirectionalReader : Bool
  unidirectionalReader : Bool
  bidirectionalStreams : Int
  unidirectionalStreams : Int
  streamIdleWaiters : Nat
  datagramPump : DatagramPump
  drain : DrainLoop
  streamPump : StreamKind → StreamPump
  work : Option Nat
  admission : Bool
  stage : AdmissionStage
  accept : AcceptPhase
  log : List AdmissionEvent
  retirement : Retirement

structure TrackedStream where
  owner : Nat
  kind : StreamKind
  released : Bool
  deriving DecidableEq, Repr

/-- One call of `performStart`; `settled` means that its continuation ran but its `finally` has
not. -/
inductive StartPhase
  | starting
  | settled
  | cleared
  deriving DecidableEq, Repr

/-- What `performStop` awaits; `returned` means that only the `finally` of `stop` is left. -/
inductive StopPhase
  | idle
  | draining
  | cancellingStart
  | closingSessions
  | stoppingDriver
  | returned
  deriving DecidableEq, Repr

/-- How the `driver.stop` that `performStop` awaits ends. The reason of a rejection is `none` where
the driver rejects with `undefined`; the timeout rejects with an error. -/
inductive DriverStopResult
  | fulfilled
  | rejected (reason : Option Failure)
  deriving DecidableEq, Repr

/-- What the `catch` of `performStop` leaves in the variable. -/
def DriverStopResult.driverStopError : DriverStopResult → Option Failure
  | .fulfilled => none
  | .rejected reason => reason

/-- `subscriptions` and `serverAbortListeners` are the session subscriptions at the driver and the
listeners on `server.signal`, by the call of `performStart` they were made for. -/
structure RuntimeState where
  lifecycle : Lifecycle
  startCount : Nat
  start : Nat → StartPhase
  startPromise : Option Nat
  startupController : Option Nat
  unsubscribeFromDriver : Option Nat
  subscriptions : List Nat
  removeServerAbortListener : Option Nat
  serverAbortListeners : List Nat
  stopPhase : StopPhase
  stopCalls : Nat
  plane : DataPlane
  sessions : List (String × Nat)
  outstandingSessions : List Nat
  ipRecords : IpRecords
  managed : Nat → ManagedSession
  activeStreams : Int
  streamCount : Nat
  stream : Nat → TrackedStream
  acceptedSessions : Nat
  rejectedSessions : Nat
  rejections : String → Nat
  closeCalls : List CloseCall

namespace ManagedSession

variable (m : ManagedSession)

def isContextAborted : Bool := m.context.isSome

/-- `managed.session.signal.aborted || managed.intakeController.signal.aborted`. -/
def isIntakeOver : Bool := m.sessionAborted || m.intakeAborted

def streams : StreamKind → Int
  | .bidirectional => m.bidirectionalStreams
  | .unidirectional => m.unidirectionalStreams

def addStreams (kind : StreamKind) (n : Int) : ManagedSession :=
  match kind with
  | .bidirectional => { m with bidirectionalStreams := m.bidirectionalStreams + n }
  | .unidirectional => { m with unidirectionalStreams := m.unidirectionalStreams + n }

/-- The `release` of a stream of this session: the last one resolves the waiters. -/
def releaseStream (kind : StreamKind) : ManagedSession :=
  let m := m.addStreams kind (-1)
  if m.bidirectionalStreams = 0 ∧ m.unidirectionalStreams = 0 then { m with streamIdleWaiters := 0 }
  else m

def waitForStreams : ManagedSession :=
  if m.bidirectionalStreams = 0 ∧ m.unidirectionalStreams = 0 then m
  else { m with streamIdleWaiters := m.streamIdleWaiters + 1 }

def dropReader (kind : StreamKind) : ManagedSession :=
  match kind with
  | .bidirectional => { m with bidirectionalReader := false }
  | .unidirectional => { m with unidirectionalReader := false }

def setStreamPump (kind : StreamKind) (pump : StreamPump) : ManagedSession :=
  { m with streamPump := Function.update m.streamPump kind pump }

/-- The promises `retireSession` awaits besides the idle scheduler. -/
def awaited : Awaited where
  admission := m.admission
  datagramPump := !m.datagramPump.settled
  drain := !m.drain.settled
  bidirectionalPump := !(m.streamPump .bidirectional).settled
  unidirectionalPump := !(m.streamPump .unidirectional).settled

/-- Each pump promise in `awaited` has settled. -/
def pumpsSettled (awaited : Awaited) : Bool :=
  (!awaited.datagramPump || m.datagramPump.settled) && (!awaited.drain || m.drain.settled) &&
    (!awaited.bidirectionalPump || (m.streamPump .bidirectional).settled) &&
    (!awaited.unidirectionalPump || (m.streamPump .unidirectional).settled)

/-- The abort listener of `withAbortSignal` and the rejection of the timeout. -/
def rejectRace (error : Failure) : ManagedSession :=
  if m.accept = .racing then { m with accept := .raceRejected error } else m

def note (event : AdmissionEvent) : ManagedSession := { m with log := m.log ++ [event] }

end ManagedSession

namespace WebTransportRuntime

variable (deps : RuntimeDependencies) (s : RuntimeState) (k : Nat)

/-- A placeholder for the sessions not yet managed. -/
def unmanaged : ManagedSession where
  session := ⟨"", "", none, [], 0⟩
  sessionAborted := false
  intakeAborted := false
  context := none
  finalized := false
  datagramReader := false
  bidirectionalReader := false
  unidirectionalReader := false
  bidirectionalStreams := 0
  unidirectionalStreams := 0
  streamIdleWaiters := 0
  datagramPump := .idle
  drain := .idle
  streamPump := fun _ => .idle
  work := none
  admission := false
  stage := .queued
  accept := .returned
  log := []
  retirement := .none

def new : RuntimeState where
  lifecycle := .new
  startCount := 0
  start := fun _ => .cleared
  startPromise := none
  startupController := none
  unsubscribeFromDriver := none
  subscriptions := []
  removeServerAbortListener := none
  serverAbortListeners := []
  stopPhase := .idle
  stopCalls := 0
  plane := .new deps.options
  sessions := []
  outstandingSessions := []
  ipRecords := .empty
  managed := fun _ => unmanaged
  activeStreams := 0
  streamCount := 0
  stream := fun _ => ⟨0, .bidirectional, true⟩
  acceptedSessions := 0
  rejectedSessions := 0
  rejections := fun _ => 0
  closeCalls := []

def update (f : ManagedSession → ManagedSession) : RuntimeState :=
  { s with managed := Function.update s.managed k (f (s.managed k)) }

/-- Replace the work of the data plane. -/
def setLoad (load : Workload) : RuntimeState :=
  { s with plane := { s.plane with toWorkload := load } }

def sessionHandlers : List CompiledWebTransportHandler :=
  deps.registry.find (s.managed k).session.path .session none

end WebTransportRuntime

end NestWebTransport
