import NestWebTransport.Foundation.Machine
import NestWebTransport.Server.SessionAdmission

/-! The runtime as a machine: one event is one synchronous stretch of the program.

Which event comes next is up to the driver, the application, the timers and the microtask queue. A
timer fires only once the promise continuations before it have run. -/
namespace NestWebTransport

open WebTransportRuntime

inductive RuntimeEvent
  | bootstrap
  | driverStarted (i : Nat) (succeeded : Bool)
  | startCleared (i : Nat)
  | stop
  | drainEnded
  | startCancelled
  | sessionsClosed
  | driverStopped (result : DriverStopResult)
  | stopCleared
  | surfaced (offer : SessionOffer)
  | sessionAborted (k : Nat) (reason : Failure)
  | idleTimeout (k : Nat)
  | handshakeTimeout (k : Nat)
  | continueAdmission (k : Nat)
  | authenticateSettled (k : Nat) (result : Except Failure Principal)
  | pipeline (k : Nat) (event : PipelineEvent)
  | handlerReturned (k : Nat)
  | admissionObserved (k : Nat)
  | retired (k : Nat) (now : Int)
  | callTask
  | resumeTask
  | taskError (w : Nat) (error : Failure)
  | runEnded (w : Nat) (failure : Option Failure)
  | errorObserved (w : Nat)
  | settled (w : Nat)
  | detached (w : Nat)
  | datagramRead (k byteLength : Nat) (now : Int)
  | datagramsDone (k : Nat)
  | datagramReadFailed (k : Nat) (error : Failure)
  | datagramPumpClosed (k : Nat)
  | drainResumed (k : Nat)
  | drainContinued (k : Nat)
  | streamResumed (k : Nat) (kind : StreamKind)
  | streamRead (k : Nat) (kind : StreamKind) (aborted : Bool)
  | streamsDone (k : Nat) (kind : StreamKind)
  | streamReadFailed (k : Nat) (kind : StreamKind) (error : Failure)
  | streamRefused (k : Nat) (kind : StreamKind) (failure : Option Failure)
  | streamDiscarded (k : Nat) (kind : StreamKind) (failure : Option Failure)
  | streamSubmitted (k : Nat) (kind : StreamKind)
  | streamPumpClosed (k : Nat) (kind : StreamKind)
  | streamAborted (i : Nat)

namespace WebTransportRuntime

variable (deps : RuntimeDependencies) (s : RuntimeState)

/-- The outcome of `authenticateAndRunSessionHandlers` is known. -/
def AdmissionStage.isOver : AdmissionStage → Bool
  | .fulfilled | .rejected _ => true
  | _ => false

def AcceptPhase.raceOver : AcceptPhase → Bool
  | .raceFulfilled | .raceRejected _ => true
  | _ => false

/-- The admission work of session `k` has settled. -/
def isAdmissionSettled (k : Nat) : Bool :=
  match (s.managed k).work with
  | none => false
  | some w => decide ((s.plane.work w).phase = .settled)

/-- Everything `retireSession` awaits has settled. -/
def isRetirementReady (k : Nat) : Bool :=
  match (s.managed k).retirement with
  | .awaiting awaited =>
    (!awaited.admission || isAdmissionSettled s k) &&
      !(s.plane.scheduler k).idleWaiters.contains .retirement && (s.managed k).pumpsSettled awaited
  | _ => false

def isPipelineReady (k : Nat) (event : PipelineEvent) : Bool :=
  match (s.managed k).stage with
  | .invoking index phase =>
    match (sessionHandlers deps s k)[index]? with
    | none => false
    | some handler => (advanceInvocation deps handler (s.managed k).context phase event).isSome
  | _ => false

/-- The admission work ends once its outcome is known; a task ends when its code does. -/
def isRunOver (w : Nat) (failure : Option Failure) : Bool :=
  if (s.plane.work w).kind = .admission then
    failure.isNone && AdmissionStage.isOver (s.managed (s.plane.work w).owner).stage
  else true

/-- When an event can be the next one. -/
def enabled : RuntimeEvent → Bool
  | .bootstrap | .stop | .surfaced _ => true
  | .driverStarted i _ => decide (i < s.startCount) && decide (s.start i = .starting)
  | .startCleared i => decide (i < s.startCount) && decide (s.start i = .settled)
  | .drainEnded => decide (s.stopPhase = .draining)
  | .startCancelled => decide (s.stopPhase = .cancellingStart)
  | .sessionsClosed => decide (s.stopPhase = .closingSessions)
  | .driverStopped _ => decide (s.stopPhase = .stoppingDriver)
  | .stopCleared => decide (s.stopPhase = .returned)
  | .sessionAborted k _ => decide (k < s.plane.managedCount) && !(s.managed k).sessionAborted
  | .idleTimeout k =>
    decide (k < s.plane.managedCount) && decide (0 < deps.options.security.idleTimeoutMs.value) &&
      !(s.managed k).finalized && !(s.managed k).intakeAborted &&
      decide ((s.managed k).bidirectionalStreams ≤ 0) &&
      decide ((s.managed k).unidirectionalStreams ≤ 0)
  | .handshakeTimeout k =>
    decide (k < s.plane.managedCount) && decide ((s.managed k).accept = .racing)
  | .continueAdmission k =>
    decide (k < s.plane.managedCount) && AcceptPhase.raceOver (s.managed k).accept
  | .authenticateSettled k _ =>
    decide (k < s.plane.managedCount) && decide ((s.managed k).stage = .authenticating)
  | .pipeline k event => decide (k < s.plane.managedCount) && isPipelineReady deps s k event
  | .handlerReturned k =>
    decide (k < s.plane.managedCount) &&
      match (s.managed k).stage with
      | .invoked _ => true
      | _ => false
  | .admissionObserved k =>
    decide (k < s.plane.managedCount) && (s.managed k).admission && isAdmissionSettled s k
  | .retired k _ => decide (k < s.plane.managedCount) && isRetirementReady s k
  | .callTask => !s.plane.starts.isEmpty
  | .resumeTask => !s.plane.resumes.isEmpty
  | .taskError w _ =>
    decide (w < s.plane.workCount) && decide ((s.plane.work w).phase = .running) &&
      decide ((s.plane.work w).kind ≠ .admission)
  | .runEnded w failure =>
    decide (w < s.plane.workCount) && decide ((s.plane.work w).phase = .running) &&
      isRunOver s w failure
  | .errorObserved w =>
    decide (w < s.plane.workCount) &&
      match (s.plane.work w).phase with
      | .rejected _ => true
      | _ => false
  | .settled w => decide (w < s.plane.workCount) && decide ((s.plane.work w).phase = .finishing)
  | .detached w =>
    decide (w < s.plane.workCount) && s.plane.begun.contains w &&
      decide ((s.plane.work w).phase ≠ .settled)
  | .datagramRead k _ _ | .datagramsDone k | .datagramReadFailed k _ =>
    decide (k < s.plane.managedCount) && decide ((s.managed k).datagramPump = .reading)
  | .datagramPumpClosed k =>
    decide (k < s.plane.managedCount) && decide ((s.managed k).datagramPump = .closing)
  | .drainResumed k =>
    decide (k < s.plane.managedCount) && decide ((s.managed k).drain = .awaitingCapacity) &&
      !(s.plane.scheduler k).capacityWaiters.contains .drain
  | .drainContinued k =>
    decide (k < s.plane.managedCount) && decide ((s.managed k).drain = .submitted)
  | .streamResumed k kind =>
    decide (k < s.plane.managedCount) &&
      decide ((s.managed k).streamPump kind = .awaitingCapacity) &&
      !(s.plane.scheduler k).capacityWaiters.contains (.pump kind)
  | .streamRead k kind _ | .streamsDone k kind | .streamReadFailed k kind _ =>
    decide (k < s.plane.managedCount) && decide ((s.managed k).streamPump kind = .reading)
  | .streamRefused k kind _ =>
    decide (k < s.plane.managedCount) && decide ((s.managed k).streamPump kind = .refusing)
  | .streamDiscarded k kind _ =>
    decide (k < s.plane.managedCount) && decide ((s.managed k).streamPump kind = .discarding)
  | .streamSubmitted k kind =>
    decide (k < s.plane.managedCount) && decide ((s.managed k).streamPump kind = .submitted)
  | .streamPumpClosed k kind =>
    decide (k < s.plane.managedCount) && decide ((s.managed k).streamPump kind = .closing)
  | .streamAborted i => decide (i < s.streamCount) && !(s.stream i).released

/-- The oldest queued microtask that calls a started task. -/
def callTask : RuntimeState :=
  match s.plane.starts with
  | [] => s
  | w :: _ =>
    setLoad s
      (s.plane.toWorkload.callTask (s.managed (s.plane.work w).owner).isContextAborted)

/-- The oldest granted caller resumes: admission work enters its function, a task its dispatch. -/
def resumeTask : RuntimeState :=
  match s.plane.resumes with
  | [] => s
  | w :: _ =>
    let k := (s.plane.work w).owner
    let resumed := setLoad s (s.plane.toWorkload.resumeTask (s.managed k).isContextAborted)
    if (s.plane.work w).kind = .admission then
      match (s.managed k).context with
      | some reason => update resumed k ({ · with stage := .rejected reason })
      | none => authenticateAndRunSessionHandlers deps resumed k
    else resumed

/-- The task's code or the admission work has ended: the `finally` of `HandlerBudget.run`. -/
def runEnded (w : Nat) (failure : Option Failure) : RuntimeState :=
  setLoad s
    (s.plane.toWorkload.finishRun w
      (match failure with
      | none => .finishing
      | some error => (s.plane.work w).failed error))

/-- The `catch` of a started task calls `onError`. -/
def errorObserved (w : Nat) : RuntimeState :=
  let k := (s.plane.work w).owner
  let observed := setLoad s (s.plane.toWorkload.setPhase w .finishing)
  match (s.plane.work w).phase with
  | .rejected error =>
    if (s.managed k).isContextAborted then observed else handleRuntimeError deps observed k error
  | _ => s

/-- The last reaction of a piece of work. -/
def settled (w : Nat) : RuntimeState :=
  if (s.plane.work w).kind = .admission then setLoad s (s.plane.toWorkload.settle w)
  else { s with plane := s.plane.settleTask w }

/-- `retireSession` after its `await`. -/
def retired (k : Nat) (now : Int) : RuntimeState :=
  let s' := update s k ({ · with retirement := .retired })
  if k ∈ s.outstandingSessions then
    { s' with
      outstandingSessions := s.outstandingSessions.erase k
      ipRecords := s.ipRecords.releaseIpSlot (s.managed k).session.ipAddress now }
  else s'

def handlerResumed (k : Nat) : RuntimeState :=
  match (s.managed k).stage with
  | .invoked index => handlerReturned deps s k index
  | _ => s

/-- What the event does. -/
def next : RuntimeEvent → RuntimeState
  | .bootstrap => onApplicationBootstrap deps s
  | .driverStarted i succeeded => driverStarted s i succeeded
  | .startCleared i => startCleared s i
  | .stop => stop deps s
  | .drainEnded => drainEnded s
  | .startCancelled => closeSessions s
  | .sessionsClosed => { s with stopPhase := .stoppingDriver }
  | .driverStopped result => driverStopped s result
  | .stopCleared => { s with stopPhase := .idle }
  | .surfaced offer => acceptSession deps s offer
  | .sessionAborted k reason => sessionAborted s k reason
  | .idleTimeout k => closeSession s k .timeout "Session idle timeout"
  | .handshakeTimeout k => handshakeTimeout s k
  | .continueAdmission k => continueAdmission s k
  | .authenticateSettled k result => authenticateSettled deps s k result
  | .pipeline k event => pipelineStep deps s k event
  | .handlerReturned k => handlerResumed deps s k
  | .admissionObserved k => admissionObserved s k
  | .retired k now => retired s k now
  | .callTask => callTask s
  | .resumeTask => resumeTask deps s
  | .taskError w error => handleRuntimeError deps s (s.plane.work w).owner error
  | .runEnded w failure => runEnded s w failure
  | .errorObserved w => errorObserved deps s w
  | .settled w => settled s w
  | .detached w => setLoad s (s.plane.toWorkload.detach w)
  | .datagramRead k byteLength now => datagramRead deps s k byteLength now
  | .datagramsDone k => endDatagramPump s k
  | .datagramReadFailed k error => datagramReadFailed deps s k error
  | .datagramPumpClosed k => endDatagramPump s k
  | .drainResumed k => drainResumed deps s k
  | .drainContinued k => drainLoop s k
  | .streamResumed k kind => streamResumed s k kind
  | .streamRead k kind aborted => streamRead deps s k kind aborted
  | .streamsDone k kind => endStreamPump s k kind true
  | .streamReadFailed k kind error => streamPumpFailed deps s k kind error
  | .streamRefused k kind failure => streamRefused deps s k kind failure
  | .streamDiscarded k kind failure => streamDiscarded deps s k kind failure
  | .streamSubmitted k kind => streamLoop s k kind
  | .streamPumpClosed k kind => endStreamPump s k kind false
  | .streamAborted i => releaseStream s i

/-- The steps of the runtime. -/
def Step (s : RuntimeState) (e : RuntimeEvent) (t : RuntimeState) : Prop :=
  enabled deps s e = true ∧ t = next deps s e

def machine : Machine RuntimeState RuntimeEvent where
  Initial s := s = new deps
  Step := Step deps

/-- Take the events one after another while they are enabled. -/
def execute : List RuntimeEvent → RuntimeState → Option RuntimeState
  | [], s => some s
  | e :: es, s => if enabled deps s e then execute es (next deps s e) else none

theorem execute_run {es : List RuntimeEvent} {s t : RuntimeState}
    (h : execute deps es s = some t) : (machine deps).Run s es t := by
  induction es generalizing s with
  | nil =>
    cases h
    exact .refl
  | cons e es ih =>
    unfold execute at h
    split at h
    · rename_i he
      exact .stepL ⟨he, rfl⟩ (ih h)
    · cases h

theorem exists_run (es : List RuntimeEvent) (P : RuntimeState → Prop) [DecidablePred P]
    (h : (execute deps es s).any (fun t => decide (P t)) = true) :
    ∃ t, (machine deps).Run s es t ∧ P t := by
  obtain ⟨t, ht, hP⟩ := (Option.any_eq_true _ _).mp h
  exact ⟨t, execute_run deps ht, of_decide_eq_true hP⟩

/-! ### A small server -/

def small (value : Nat) (h : 1 ≤ value ∧ value ≤ maxSafeInteger) : PositiveInteger :=
  ⟨value, h.1, h.2⟩

/-- One started and one queued task per session; no session handlers are awaited long. -/
def smallOptions : NormalizedWebTransportModuleOptions where
  security := ⟨[], false, small 64 (by decide), small 64 (by decide), small 1 (by decide),
    .zero, false⟩
  limits :=
    { server := ⟨small 2 (by decide), small 2 (by decide), .two, small 16 (by decide),
        small 2 (by decide), by decide⟩
      ip := ⟨small 2 (by decide), small 2 (by decide)⟩
      session := ⟨small 2 (by decide), small 2 (by decide), small 8 (by decide),
        small 1 (by decide),
        .zero⟩
      maxLifetimeMs := small 1 (by decide) }
  execution := ⟨small 1 (by decide), .zero, .drop⟩
  queue := ⟨small 2 (by decide), .dropOldest, by decide⟩
  routing := ⟨false, false, false⟩
  shutdown := ⟨true, .zero, small 1 (by decide)⟩
  maxLogsPerSecond := small 1 (by decide)

def smallServer (handlers : List CompiledWebTransportHandler) (filters : List ExceptionFilter) :
    RuntimeDependencies where
  options := smallOptions
  serverSignal := true
  registry := ⟨id, handlers⟩
  application := ⟨[], [], filters, []⟩
  capabilities := ⟨true, true, true, true⟩
  parseURL := fun _ => none

def smallHandler (kind : WebTransportHandlerKind) (guards : List Nat) :
    CompiledWebTransportHandler :=
  ⟨"/", kind, none, true, guards, [], [], []⟩

def smallOffer (id : String) : SessionOffer where
  session := ⟨id, "/", none, [], 64⟩
  aborted := none
  driverRunning := true
  readersThrow := false
  clock := ⟨0, 0, 0⟩
  now := 0

/-- The server starts and a session without session handlers is accepted. -/
def smallAdmission : List RuntimeEvent :=
  [.bootstrap, .driverStarted 0 true, .startCleared 0, .surfaced (smallOffer "a"), .resumeTask,
    .runEnded 0 none, .settled 0, .admissionObserved 0, .continueAdmission 0]

/-- Session `0` is sent a datagram of five bytes; its handler starts. -/
def smallDatagram : List RuntimeEvent :=
  smallAdmission ++ [.datagramRead 0 5 0, .drainResumed 0, .callTask, .resumeTask]

/-- A server with a single datagram handler. -/
def datagramServer : RuntimeDependencies := smallServer [smallHandler .datagram []] []

end WebTransportRuntime

end NestWebTransport
