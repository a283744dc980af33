import NestWebTransport.Server.SessionIntake

/-! From a surfaced session to its pumps. -/
namespace NestWebTransport.WebTransportRuntime

/-- A session the driver surfaces: its getters, whether its signal has aborted when the runtime
registers it, the state of the driver, whether taking a reader throws, and the clock. -/
structure SessionOffer where
  session : WebTransportSession
  aborted : Option Failure
  driverRunning : Bool
  readersThrow : Bool
  clock : IpClock
  now : Int

variable (deps : RuntimeDependencies) (s : RuntimeState) (k : Nat)

/-- Which readers `reserveIncomingReaders` takes; `none` where it throws. -/
def reserveIncomingReaders (offer : SessionOffer) : Option (Bool × Bool × Bool) :=
  let datagram := deps.registry.hasHandlers offer.session.path .datagram
  let bidirectional := deps.registry.hasHandlers offer.session.path .bidirectionalStream
  let unidirectional := deps.registry.hasHandlers offer.session.path .unidirectionalStream
  if offer.readersThrow && (datagram || bidirectional || unidirectional) then none
  else some (datagram, bidirectional, unidirectional)

def ipLimits : IpLimits where
  maxSessions := deps.options.limits.ip.maxSessions.value
  sessionsPerSecond := deps.options.limits.ip.sessionsPerSecond.value
  maxRecords := deps.options.limits.server.maxSessions.value

/-- The new managed session, entered into `sessions` and `outstandingSessions`. -/
def manage (session : WebTransportSession) (readers : Bool × Bool × Bool) (now : Int) :
    RuntimeState :=
  { s with
    plane := s.plane.openSession deps.options now
    managed := Function.update s.managed s.plane.managedCount
      { unmanaged with
        session := session
        datagramReader := readers.1
        bidirectionalReader := readers.2.1
        unidirectionalReader := readers.2.2 }
    sessions := s.sessions ++ [(session.id, s.plane.managedCount)]
    outstandingSessions := s.outstandingSessions ++ [s.plane.managedCount] }

/-- The call of `handlerBudget.run` and the race on its promise. -/
def startAdmission (r : Nat) : RuntimeState :=
  update (setLoad s (s.plane.toWorkload.runAdmission k r false)) k fun m =>
    { m with work := some s.plane.workCount, admission := true, accept := .racing }

/-- `acceptSession` from the registration of the session, up to its first `await`. -/
def registerSession (offer : SessionOffer) (readers : Bool × Bool × Bool) (r : Nat)
    (budget : HandlerBudget) : RuntimeState :=
  let k := s.plane.managedCount
  match offer.aborted with
  | some reason =>
    let s := setLoad s { s.plane.toWorkload with handlerBudget := budget.release r }
    let s := update (manage deps s offer.session readers offer.now) k
      ({ · with sessionAborted := true, context := some reason })
    finalizeSession s k reason
  | none =>
    let s := setLoad s { s.plane.toWorkload with handlerBudget := budget }
    startAdmission (manage deps s offer.session readers offer.now) k r

/-- `acceptSession` up to its first `await`. -/
def acceptSession (offer : SessionOffer) : RuntimeState :=
  let session := offer.session
  if s.lifecycle.acceptingSessions = false ∨ offer.driverRunning = false then
    closeUnmanaged (recordRejection s "server-unavailable") session.id .rejected
      "Server is not accepting sessions"
  else if deps.registry.hasPath session.path = false then
    closeUnmanaged (recordRejection s "no-route") session.id .noRoute
      "No WebTransport gateway for path"
  else
    match session.validateSession deps.options deps.parseURL s.outstandingSessions.length
        (s.sessions.map Prod.fst) with
    | some rejection =>
      closeUnmanaged (recordRejection s rejection.code) session.id .rejected rejection.message
    | none =>
      match s.ipRecords.acquireIpSlot (ipLimits deps) session.ipAddress offer.clock with
      | (false, records) =>
        closeUnmanaged (recordRejection { s with ipRecords := records } "ip-limit") session.id
          .resourceLimit "Per-IP session limit exceeded"
      | (true, records) =>
        match s.plane.handlerBudget.reserve with
        | none =>
          closeUnmanaged
            (recordRejection
              { s with
                ipRecords := records.releaseIpSlot session.ipAddress offer.now
                plane := { s.plane with rejectedHandlers := s.plane.rejectedHandlers + 1 } }
              "handler-limit")
            session.id .resourceLimit "Server work limit exceeded"
        | some (r, budget) =>
          match reserveIncomingReaders deps offer with
          | none =>
            closeUnmanaged
              (recordRejection
                { setLoad s { s.plane.toWorkload with handlerBudget := budget.release r } with
                  ipRecords := records.releaseIpSlot session.ipAddress offer.now }
                "reader-setup")
              session.id .internalError "Incoming reader setup failed"
          | some readers =>
            registerSession deps { s with ipRecords := records } offer readers r budget

/-! ### The admission work -/

/-- `throwIfAdmissionEnded` before `next`. -/
def throwIfAdmissionEnded (next : RuntimeState) : RuntimeState :=
  if (s.managed k).isContextAborted || (s.managed k).finalized then
    update s k fun m => { m with stage := .rejected (m.context.getD .abort) }
  else next

/-- Record where the invocation of the handler at `index` stands. -/
def invocationReached (index : Nat) (invocation : Invocation) : RuntimeState :=
  update s k fun m =>
    match invocation with
    | .pending phase => { m with stage := .invoking index phase }
    | .fulfilled => { m.note (.handlerResolved index) with stage := .invoked index }
    | .rejected error => { m with stage := .rejected error }

/-- The loop of `authenticateAndRunSessionHandlers` reaches the handler at `index`. -/
def runSessionHandlers (index : Nat) : RuntimeState :=
  match (sessionHandlers deps s k)[index]? with
  | none => update s k ({ · with stage := .fulfilled })
  | some _ =>
    throwIfAdmissionEnded s k
      (invocationReached (update s k (·.note (.handlerStarted index))) k index
        (WebTransportExecutionPipeline.invoke (s.managed k).context))

/-- `authenticateAndRunSessionHandlers` up to its first `await`. -/
def authenticateAndRunSessionHandlers : RuntimeState :=
  throwIfAdmissionEnded s k
    (if deps.options.security.authenticate then
      update s k fun m => { m.note .authenticateStarted with stage := .authenticating }
    else runSessionHandlers deps s k 0)

/-- `authenticate` has settled. -/
def authenticateSettled (result : Except Failure Principal) : RuntimeState :=
  match result with
  | .error error => update s k ({ · with stage := .rejected error })
  | .ok principal =>
    throwIfAdmissionEnded s k
      (if principal = .refused then
        update s k ({ · with
          stage := .rejected (.sessionRejected "ERR_WEBTRANSPORT_AUTHENTICATION_REJECTED") })
      else runSessionHandlers deps (update s k (·.note (.authenticated principal))) k 0)

/-- The invocation of the handler at `index` has fulfilled and the loop resumes. -/
def handlerReturned (index : Nat) : RuntimeState :=
  throwIfAdmissionEnded s k (runSessionHandlers deps s k (index + 1))

/-- What an invocation is told while a session handler runs. -/
inductive PipelineEvent
  | gatewayResolved (result : Except Failure Unit)
  | guardsResolved (result : Except Failure Unit)
  | guardDecided (decision : GuardDecision)
  | interceptorsResolved (result : Except Failure Unit)
  | callbackReached
  | intercepted (result : Except Failure Unit)
  | filtersResolved (result : Except Failure Unit)
  | filterReturned (result : Except Failure Unit)

/-- The invocation of `handler` in `phase` takes `event`; `none` where it awaits something else. -/
def advanceInvocation (handler : CompiledWebTransportHandler) (aborted : Option Failure) :
    InvokePhase → PipelineEvent → Option Invocation
  | .resolvingGateway, .gatewayResolved result =>
    some (WebTransportExecutionPipeline.gatewayResolved handler aborted result)
  | .resolvingGuards, .guardsResolved result =>
    some (WebTransportExecutionPipeline.guardsResolved deps.application handler aborted result)
  | .guarding guards, .guardDecided decision =>
    some (WebTransportExecutionPipeline.guardDecided aborted guards decision)
  | .resolvingInterceptors, .interceptorsResolved result =>
    some (WebTransportExecutionPipeline.interceptorsResolved aborted result)
  | .intercepting, .callbackReached => some (.pending .intercepting)
  | .intercepting, .intercepted result =>
    some (WebTransportExecutionPipeline.intercepted aborted result)
  | .resolvingFilters error fromGuard, .filtersResolved result =>
    some (WebTransportExecutionPipeline.filtersResolved deps.application handler error fromGuard
      result)
  | .catching _ _, .filterReturned result =>
    some (WebTransportExecutionPipeline.filterReturned result)
  | _, _ => none

/-- What the log keeps of a pipeline event. -/
def PipelineEvent.note (index : Nat) (aborted : Option Failure) (m : ManagedSession) :
    PipelineEvent → ManagedSession
  | .guardDecided .denied | .guardDecided (.threw _) => m.note (.guardDenied index)
  | .callbackReached =>
    if WebTransportExecutionPipeline.appliesCallback aborted then m.note (.callbackApplied index)
    else m
  | _ => m

def pipelineStep (event : PipelineEvent) : RuntimeState :=
  match (s.managed k).stage with
  | .invoking index phase =>
    match (sessionHandlers deps s k)[index]? with
    | none => s
    | some handler =>
      match advanceInvocation deps handler (s.managed k).context phase event with
      | none => s
      | some invocation =>
        invocationReached (update s k (event.note index (s.managed k).context)) k index invocation
  | _ => s

/-- The promise of the admission work has settled: its two reactions. -/
def admissionObserved : RuntimeState :=
  update s k fun m =>
    { m with
      admission := false
      accept :=
        if m.accept = .racing then
          match m.stage with
          | .fulfilled => .raceFulfilled
          | .rejected error => .raceRejected error
          | _ => .raceRejected (m.context.getD .abort)
        else m.accept }

/-- The pumps `acceptSession` starts. -/
def startPumps : RuntimeState :=
  let s :=
    if (s.managed k).datagramReader then
      update s k fun m =>
        { m with datagramPump := if m.isIntakeOver then .ended else .reading }
    else s
  let s := if (s.managed k).bidirectionalReader then streamLoop s k .bidirectional else s
  if (s.managed k).unidirectionalReader then streamLoop s k .unidirectional else s

/-- `acceptSession` after `await admission`. -/
def continueAdmission : RuntimeState :=
  match (s.managed k).accept with
  | .raceRejected error =>
    let s := recordRejection s (if error.isTimeout then "admission-timeout" else "admission-failed")
    closeSession (update s k ({ · with accept := .returned })) k .rejected "Session rejected"
  | .raceFulfilled =>
    let returned := update s k ({ · with accept := .returned })
    if (s.managed k).sessionAborted then
      finalizeSession returned k ((s.managed k).context.getD .abort)
    else if (s.managed k).intakeAborted ∨ s.lifecycle.state ≠ .running then returned
    else
      startPumps
        (update { s with acceptedSessions := s.acceptedSessions + 1 } k ({ · with
          accept := .accepted })) k
  | _ => s

/-- The handshake timer: it aborts the admission, then rejects the race. -/
def handshakeTimeout : RuntimeState :=
  update (abortAdmission s k .timeout) k (·.rejectRace .timeout)

end NestWebTransport.WebTransportRuntime
