import NestWebTransport.Server.RuntimeState

/-! How sessions and the server are closed. Abort listeners do not call back into the runtime. -/
namespace NestWebTransport.WebTransportRuntime

variable (deps : RuntimeDependencies) (s : RuntimeState) (k : Nat)

/-- `Promise.resolve().then(() => session.close(...))` and its timeout are the driver's. -/
def closeSession (closeCode : CloseCode) (reason : String) : RuntimeState :=
  { s with
    closeCalls := s.closeCalls ++ [⟨some k, (s.managed k).session.id, closeCode, reason⟩] }

/-- `closeSession` for a session that has not become managed. -/
def closeUnmanaged (sessionId : String) (closeCode : CloseCode) (reason : String) : RuntimeState :=
  { s with closeCalls := s.closeCalls ++ [⟨none, sessionId, closeCode, reason⟩] }

def recordRejection (reason : String) : RuntimeState :=
  { s with
    rejectedSessions := s.rejectedSessions + 1
    rejections := Function.update s.rejections reason (s.rejections reason + 1) }

def closeScheduler (discardPending : Bool) : RuntimeState :=
  { s with plane := s.plane.closeScheduler k discardPending }

def clearDatagrams : RuntimeState := { s with plane := s.plane.clearDatagrams k }

def setScheduler (scheduler : BoundedTaskScheduler Nat Waiter) : RuntimeState :=
  setLoad s (s.plane.toWorkload.setScheduler k scheduler)

/-- The abort listeners of the session's context. -/
def contextAborted (reason : Failure) : RuntimeState :=
  update (setLoad s (s.plane.toWorkload.abortWaiters k)) k (·.rejectRace reason)

/-- `managed.admissionController.abort(reason)`. -/
def abortAdmission (reason : Failure) : RuntimeState :=
  if (s.managed k).isContextAborted then s
  else contextAborted (update s k ({ · with context := some reason })) k reason

def stopIntake : RuntimeState :=
  update
    (clearDatagrams (closeScheduler (update s k ({ · with intakeAborted := true })) k false) k) k
    ({ · with
      datagramReader := false
      bidirectionalReader := false
      unidirectionalReader := false })

/-- `retireSession` up to its `await`. -/
def retireSession : RuntimeState :=
  setScheduler (update s k fun m => { m with retirement := .awaiting m.awaited }) k
    ((s.plane.scheduler k).onIdle .retirement)

/-- `reason` is `session.signal.reason ?? 'Session finalized'`. -/
def finalizeSession (reason : Failure) : RuntimeState :=
  if (s.managed k).finalized then s
  else
    let s := stopIntake (update s k ({ · with finalized := true })) k
    let s := clearDatagrams (closeScheduler (abortAdmission s k reason) k true) k
    let s := update s k ({ · with streamIdleWaiters := 0 })
    retireSession { s with sessions := s.sessions.filter (·.1 ≠ (s.managed k).session.id) } k

/-- The `release` of a tracked stream. -/
def releaseStream (i : Nat) : RuntimeState :=
  if (s.stream i).released then s
  else
    update
      { s with
        stream := Function.update s.stream i { s.stream i with released := true }
        activeStreams := s.activeStreams - 1 }
      (s.stream i).owner (·.releaseStream (s.stream i).kind)

/-- The stream listeners on the session's signal. -/
def releaseStreams : RuntimeState :=
  ((List.range s.streamCount).filter fun i => (s.stream i).owner = k).foldl releaseStream s

/-- The session's signal aborts. Its listeners run before those of the context that follows it. -/
def sessionAborted (reason : Failure) : RuntimeState :=
  let followed := !(s.managed k).isContextAborted
  let s := update s k fun m =>
    { m with sessionAborted := true, context := some (m.context.getD reason) }
  let s := releaseStreams (finalizeSession s k reason) k
  let s := setScheduler s k (s.plane.scheduler k).abortCapacityWaiters
  if followed then contextAborted s k reason else s

/-! ### Stopping the server -/

/-- The loop that lets the sessions go once the server is stopping. -/
def abandonSessions : RuntimeState :=
  s.outstandingSessions.foldl
    (fun s k => closeScheduler (abortAdmission s k .unknown) k true) s

def closeSessions : RuntimeState :=
  { s.sessions.foldl
      (fun s entry => closeSession s entry.2 .noError "Server shutting down") s with
    stopPhase := .closingSessions }

/-- `performStop` from the loop over `outstandingSessions` that follows the drain. -/
def forceStop (stoppingDuringStart : Bool) : RuntimeState :=
  let s := abandonSessions s
  if stoppingDuringStart && s.startPromise.isSome then { s with stopPhase := .cancellingStart }
  else closeSessions s

/-- What the drain wait registers for one session. -/
def awaitSession : RuntimeState :=
  update (setScheduler s k ((s.plane.scheduler k).onIdle .stop)) k (·.waitForStreams)

/-- The drain wait registers with every outstanding session. -/
def awaitDrain : RuntimeState :=
  { s.outstandingSessions.foldl awaitSession s with stopPhase := .draining }

/-- The state `performStop` takes before it reaches the sessions. -/
def stopLifecycle (lifecycle : Lifecycle) : Lifecycle :=
  if lifecycle.state = .running then lifecycle.transition .draining
  else if lifecycle.state = .starting then lifecycle.transition .stopping
  else lifecycle

/-- `performStop` once no session takes anything in. -/
def stopSessions (stoppingDuringStart : Bool) : RuntimeState :=
  if s.lifecycle.state = .draining then
    if deps.options.shutdown.graceful then awaitDrain s
    else forceStop { s with lifecycle := s.lifecycle.transition .stopping } stoppingDuringStart
  else forceStop s stoppingDuringStart

/-- What a stored cleanup callback removes from the list it was made for. -/
def cleanedUp (callback : Option Nat) (registered : List Nat) : List Nat :=
  match callback with
  | none => registered
  | some i => registered.erase i

/-- `performStop` takes the lifecycle on and drops what the startup registered. -/
def releaseStartup : RuntimeState :=
  { s with
    lifecycle := stopLifecycle s.lifecycle
    removeServerAbortListener := none
    serverAbortListeners := cleanedUp s.removeServerAbortListener s.serverAbortListeners
    unsubscribeFromDriver := none
    subscriptions := cleanedUp s.unsubscribeFromDriver s.subscriptions }

/-- `performStop` up to its first `await`. -/
def performStop : RuntimeState :=
  if s.lifecycle.state = .stopped then { s with stopPhase := .returned }
  else
    stopSessions deps (s.outstandingSessions.foldl stopIntake (releaseStartup s))
      (s.lifecycle.state == .starting)

def stop : RuntimeState :=
  let s := { s with stopCalls := s.stopCalls + 1 }
  if s.stopPhase = .idle then performStop deps s else s

/-- The drain wait has ended: every session drained, or the timeout passed. -/
def drainEnded : RuntimeState :=
  forceStop { s with lifecycle := s.lifecycle.transition .stopping } false

/-- `driver.stop` has settled or timed out. -/
def driverStopped (result : DriverStopResult) : RuntimeState :=
  let s := s.sessions.foldl (fun s entry => finalizeSession s entry.2 .unknown) s
  let lifecycle :=
    if result.driverStopError.isNone && s.lifecycle.state == .stopping then
      s.lifecycle.transition .stopped
    else s.lifecycle
  { s with lifecycle := lifecycle, stopPhase := .returned }

/-- The synchronous part of `handleRuntimeError`; what it answers is the caller's to use. -/
def handleRuntimeError (error : Failure) : RuntimeState :=
  match error.scope with
  | none | some .handler | some .stream => s
  | some .session => closeSession s k .internalError error.code
  | some .server | some .fatal => stop deps s

/-! ### Starting the server -/

/-- Which handlers `validateRegistryConfiguration` accepts. -/
def isHandlerConfigured (handler : CompiledWebTransportHandler) : Bool :=
  match handler.kind with
  | .session => true
  | .datagram =>
    deps.capabilities.datagrams && (handler.route.isNone || deps.options.routing.datagram)
  | .bidirectionalStream =>
    deps.capabilities.bidirectionalStreams &&
      (handler.route.isNone || deps.options.routing.bidirectionalStream)
  | .unidirectionalStream =>
    deps.capabilities.unidirectionalStreams &&
      (handler.route.isNone || deps.options.routing.unidirectionalStream)

def validateRegistryConfiguration : Bool := deps.registry.handlers.all (isHandlerConfigured deps)

/-- `onApplicationBootstrap` and `performStart` up to its `await`. -/
def onApplicationBootstrap : RuntimeState :=
  if s.startPromise.isSome || s.lifecycle.state != .stopped then s
  else if validateRegistryConfiguration deps = false then s
  else
    { s with
      lifecycle := s.lifecycle.transition .starting
      startupController := some s.startCount
      unsubscribeFromDriver := some s.startCount
      subscriptions := s.subscriptions ++ [s.startCount]
      removeServerAbortListener :=
        if deps.serverSignal then some s.startCount else s.removeServerAbortListener
      serverAbortListeners :=
        if deps.serverSignal then s.serverAbortListeners ++ [s.startCount]
        else s.serverAbortListeners
      startPromise := some s.startCount
      start := Function.update s.start s.startCount .starting
      startCount := s.startCount + 1 }

/-- The `driver.start` of the call `i` of `performStart` has settled. -/
def driverStarted (i : Nat) (succeeded : Bool) : RuntimeState :=
  let s := { s with start := Function.update s.start i .settled }
  let current := s.startupController == some i && s.lifecycle.state == .starting
  if succeeded then
    { s with lifecycle := if current then s.lifecycle.transition .running else s.lifecycle }
  else
    { s with
      unsubscribeFromDriver :=
        if s.unsubscribeFromDriver = some i then none else s.unsubscribeFromDriver
      subscriptions := s.subscriptions.erase i
      removeServerAbortListener :=
        if s.removeServerAbortListener = some i then none else s.removeServerAbortListener
      serverAbortListeners := s.serverAbortListeners.erase i
      lifecycle :=
        if current then (s.lifecycle.transition .stopping).transition .stopped
        else s.lifecycle }

/-- The `finally` of `onApplicationBootstrap`. -/
def startCleared (i : Nat) : RuntimeState :=
  { s with
    start := Function.update s.start i .cleared
    startPromise := if s.startPromise = some i then none else s.startPromise
    startupController := if s.startupController = some i then none else s.startupController }

end NestWebTransport.WebTransportRuntime
