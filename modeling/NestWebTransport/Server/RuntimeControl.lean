import NestWebTransport.Server.WebTransportRuntime

/-! How the runtime starts and stops, apart from its sessions. -/
namespace NestWebTransport

/-- The part of the state that only starting and stopping change. -/
structure Control where
  lifecycle : Lifecycle
  startCount : Nat
  start : Nat → StartPhase
  startPromise : Option Nat
  startupController : Option Nat
  unsubscribeFromDriver : Option Nat
  subscriptions : List Nat
  removeServerAbortListener : Option Nat
  serverAbortListeners : List Nat
  stopPhase : StopPhase
  stopCalls : Nat

def RuntimeState.control (s : RuntimeState) : Control where
  lifecycle := s.lifecycle
  startCount := s.startCount
  start := s.start
  startPromise := s.startPromise
  startupController := s.startupController
  unsubscribeFromDriver := s.unsubscribeFromDriver
  subscriptions := s.subscriptions
  removeServerAbortListener := s.removeServerAbortListener
  serverAbortListeners := s.serverAbortListeners
  stopPhase := s.stopPhase
  stopCalls := s.stopCalls

namespace Control

open WebTransportRuntime (cleanedUp stopLifecycle)

variable {deps : RuntimeDependencies} {graceful : Bool} {c d : Control} {e : RuntimeEvent} {i : Nat}

/-! ### What starting and stopping do -/

def releaseStartup (c : Control) : Control :=
  { c with
    lifecycle := stopLifecycle c.lifecycle
    removeServerAbortListener := none
    serverAbortListeners := cleanedUp c.removeServerAbortListener c.serverAbortListeners
    unsubscribeFromDriver := none
    subscriptions := cleanedUp c.unsubscribeFromDriver c.subscriptions }

def forceStop (c : Control) (stoppingDuringStart : Bool) : Control :=
  if stoppingDuringStart && c.startPromise.isSome then { c with stopPhase := .cancellingStart }
  else { c with stopPhase := .closingSessions }

def stopSessions (graceful : Bool) (c : Control) (stoppingDuringStart : Bool) : Control :=
  if c.lifecycle.state = .draining then
    if graceful then { c with stopPhase := .draining }
    else forceStop { c with lifecycle := c.lifecycle.transition .stopping } stoppingDuringStart
  else c.forceStop stoppingDuringStart

def performStop (graceful : Bool) (c : Control) : Control :=
  if c.lifecycle.state = .stopped then { c with stopPhase := .returned }
  else stopSessions graceful c.releaseStartup (c.lifecycle.state == .starting)

def stop (graceful : Bool) (c : Control) : Control :=
  let c := { c with stopCalls := c.stopCalls + 1 }
  if c.stopPhase = .idle then performStop graceful c else c

/-- `onApplicationBootstrap` where it starts the driver. -/
def bootstrapped (serverSignal : Bool) (c : Control) : Control :=
  { c with
    lifecycle := c.lifecycle.transition .starting
    startupController := some c.startCount
    unsubscribeFromDriver := some c.startCount
    subscriptions := c.subscriptions ++ [c.startCount]
    removeServerAbortListener :=
      if serverSignal then some c.startCount else c.removeServerAbortListener
    serverAbortListeners :=
      if serverSignal then c.serverAbortListeners ++ [c.startCount] else c.serverAbortListeners
    startPromise := some c.startCount
    start := Function.update c.start c.startCount .starting
    startCount := c.startCount + 1 }

/-- The startup `i` is still the current one. -/
def isCurrent (c : Control) (i : Nat) : Bool :=
  c.startupController == some i && c.lifecycle.state == .starting

def driverFulfilled (c : Control) (i : Nat) : Control :=
  { c with
    start := Function.update c.start i .settled
    lifecycle := if c.isCurrent i then c.lifecycle.transition .running else c.lifecycle }

def driverRejected (c : Control) (i : Nat) : Control :=
  { c with
    start := Function.update c.start i .settled
    unsubscribeFromDriver :=
      if c.unsubscribeFromDriver = some i then none else c.unsubscribeFromDriver
    subscriptions := c.subscriptions.erase i
    removeServerAbortListener :=
      if c.removeServerAbortListener = some i then none else c.removeServerAbortListener
    serverAbortListeners := c.serverAbortListeners.erase i
    lifecycle :=
      if c.isCurrent i then (c.lifecycle.transition .stopping).transition .stopped
      else c.lifecycle }

def startCleared (c : Control) (i : Nat) : Control :=
  { c with
    start := Function.update c.start i .cleared
    startPromise := if c.startPromise = some i then none else c.startPromise
    startupController := if c.startupController = some i then none else c.startupController }

def drainEnded (c : Control) : Control :=
  forceStop { c with lifecycle := c.lifecycle.transition .stopping } false

def driverStopped (c : Control) (succeeded : Bool) : Control :=
  { c with
    lifecycle :=
      if succeeded && c.lifecycle.state == .stopping then c.lifecycle.transition .stopped
      else c.lifecycle
    stopPhase := .returned }

/-- What a step of the runtime does to its control; any step may meet an error that stops the
server. -/
inductive Moves (deps : RuntimeDependencies) (c : Control) : RuntimeEvent → Control → Prop
  | rests {e : RuntimeEvent} : Moves deps c e c
  | stops {e : RuntimeEvent} : Moves deps c e (c.stop deps.options.shutdown.graceful)
  | bootstrapped (hpromise : c.startPromise = none) (hstopped : c.lifecycle.state = .stopped) :
      Moves deps c .bootstrap (c.bootstrapped deps.serverSignal)
  | driverFulfilled {i : Nat} (hi : i < c.startCount) (hstarting : c.start i = .starting) :
      Moves deps c (.driverStarted i true) (c.driverFulfilled i)
  | driverRejected {i : Nat} (hi : i < c.startCount) (hstarting : c.start i = .starting) :
      Moves deps c (.driverStarted i false) (c.driverRejected i)
  | startCleared {i : Nat} (hi : i < c.startCount) (hsettled : c.start i = .settled) :
      Moves deps c (.startCleared i) (c.startCleared i)
  | drainEnded (hphase : c.stopPhase = .draining) : Moves deps c .drainEnded c.drainEnded
  | startCancelled (hphase : c.stopPhase = .cancellingStart) :
      Moves deps c .startCancelled { c with stopPhase := .closingSessions }
  | sessionsClosed (hphase : c.stopPhase = .closingSessions) :
      Moves deps c .sessionsClosed { c with stopPhase := .stoppingDriver }
  | driverStopped {result : DriverStopResult} (hphase : c.stopPhase = .stoppingDriver) :
      Moves deps c (.driverStopped result) (c.driverStopped result.driverStopError.isNone)
  | stopCleared (hphase : c.stopPhase = .returned) :
      Moves deps c .stopCleared { c with stopPhase := .idle }

end Control

namespace WebTransportRuntime

variable {deps : RuntimeDependencies} {s t : RuntimeState} {e : RuntimeEvent} {k w i : Nat}

/-! ### The parts of a step that leave the control alone -/

theorem control_foldl {α : Type*} {f : RuntimeState → α → RuntimeState}
    (hf : ∀ s x, (f s x).control = s.control) (xs : List α) (s : RuntimeState) :
    (xs.foldl f s).control = s.control := by
  induction xs generalizing s with
  | nil => rfl
  | cons x xs ih => exact (ih (f s x)).trans (hf s x)

@[simp] theorem control_update (f : ManagedSession → ManagedSession) :
    (update s k f).control = s.control := rfl

@[simp] theorem control_setScheduler (scheduler : BoundedTaskScheduler Nat Waiter) :
    (setScheduler s k scheduler).control = s.control := rfl

@[simp] theorem control_closeScheduler (discardPending : Bool) :
    (closeScheduler s k discardPending).control = s.control := rfl

@[simp] theorem control_clearDatagrams : (clearDatagrams s k).control = s.control := rfl

@[simp] theorem control_stopIntake : (stopIntake s k).control = s.control := by
  unfold stopIntake
  simp only [control_update, control_clearDatagrams, control_closeScheduler]

@[simp] theorem control_retireSession : (retireSession s k).control = s.control := rfl

@[simp] theorem control_contextAborted (reason : Failure) :
    (contextAborted s k reason).control = s.control := rfl

@[simp] theorem control_sessions (sessions : List (String × Nat)) :
    { s with sessions := sessions }.control = s.control := rfl

@[simp] theorem control_abortAdmission (reason : Failure) :
    (abortAdmission s k reason).control = s.control := by
  unfold abortAdmission
  split_ifs
  · rfl
  · rw [control_contextAborted, control_update]

@[simp] theorem control_finalizeSession (reason : Failure) :
    (finalizeSession s k reason).control = s.control := by
  unfold finalizeSession
  by_cases hfinal : (s.managed k).finalized = true
  · rw [if_pos hfinal]
  · rw [if_neg hfinal]
    extract_lets a b c
    have ha : a.control = s.control := control_stopIntake
    have hb : b.control = s.control := by
      unfold b
      rw [control_clearDatagrams, control_closeScheduler, control_abortAdmission, ha]
    have hc : c.control = s.control := (control_update _).trans hb
    clear_value c
    rw [control_retireSession, control_sessions, hc]

@[simp] theorem control_releaseStream (i : Nat) : (releaseStream s i).control = s.control := by
  unfold releaseStream
  split_ifs
  · rfl
  · rfl

@[simp] theorem control_releaseStreams : (releaseStreams s k).control = s.control :=
  control_foldl (fun _ i => control_releaseStream i) _ _

theorem control_sessionAborted (reason : Failure) :
    (sessionAborted s k reason).control = s.control := by
  unfold sessionAborted
  simp only
  split_ifs
  · simp
  · simp

theorem control_handshakeTimeout : (handshakeTimeout s k).control = s.control :=
  control_abortAdmission .timeout

theorem control_throwIfAdmissionEnded {next : RuntimeState} (h : next.control = s.control) :
    (throwIfAdmissionEnded s k next).control = s.control := by
  unfold throwIfAdmissionEnded
  split_ifs
  · rfl
  · exact h

theorem control_runSessionHandlers (index : Nat) :
    (runSessionHandlers deps s k index).control = s.control := by
  unfold runSessionHandlers
  split
  · rfl
  · exact control_throwIfAdmissionEnded rfl

theorem control_authenticate :
    (authenticateAndRunSessionHandlers deps s k).control = s.control := by
  refine control_throwIfAdmissionEnded ?_
  split_ifs
  · rfl
  · exact control_runSessionHandlers 0

theorem control_authenticateSettled (result : Except Failure Principal) :
    (authenticateSettled deps s k result).control = s.control := by
  unfold authenticateSettled
  cases result with
  | error error => rfl
  | ok principal =>
    refine control_throwIfAdmissionEnded ?_
    split_ifs
    · rfl
    · exact control_runSessionHandlers (s := update s k (·.note (.authenticated principal))) 0

theorem control_handlerResumed : (handlerResumed deps s k).control = s.control := by
  unfold handlerResumed
  split
  · exact control_throwIfAdmissionEnded (control_runSessionHandlers _)
  · rfl

theorem control_pipelineStep (event : PipelineEvent) :
    (pipelineStep deps s k event).control = s.control := by
  unfold pipelineStep
  split
  · split
    · rfl
    · split
      · rfl
      · rfl
  · rfl

@[simp] theorem control_setLoad (load : Workload) : (setLoad s load).control = s.control := rfl

@[simp] theorem control_manage (session : WebTransportSession) (readers : Bool × Bool × Bool)
    (now : Int) : (manage deps s session readers now).control = s.control := rfl

theorem control_startAdmission (r : Nat) : (startAdmission s k r).control = s.control := rfl

theorem control_registerSession {offer : SessionOffer} {readers : Bool × Bool × Bool} {r : Nat}
    {budget : HandlerBudget} :
    (registerSession deps s offer readers r budget).control = s.control := by
  unfold registerSession
  simp only
  split
  · rw [control_finalizeSession, control_update, control_manage, control_setLoad]
  · rw [control_startAdmission, control_manage, control_setLoad]

/-- A surfaced session leaves the lifecycle alone. -/
theorem control_acceptSession (offer : SessionOffer) :
    (acceptSession deps s offer).control = s.control := by
  unfold acceptSession
  simp only
  split_ifs
  · rfl
  · rfl
  · split
    · rfl
    · split
      · rfl
      · split
        · rfl
        · split
          · rfl
          · exact control_registerSession

theorem control_streamLoop (kind : StreamKind) : (streamLoop s k kind).control = s.control := by
  unfold streamLoop
  split_ifs
  · rfl
  · rfl

theorem control_startPumps : (startPumps s k).control = s.control := by
  have hstream : ∀ (u : RuntimeState) (kind : StreamKind) (reader : Bool),
      (if reader then streamLoop u k kind else u).control = u.control := by
    intro u kind reader
    split_ifs
    · exact control_streamLoop kind
    · rfl
  unfold startPumps
  simp only [hstream]
  split_ifs
  · rfl
  · rfl

theorem control_continueAdmission : (continueAdmission s k).control = s.control := by
  unfold continueAdmission
  split
  · rfl
  · simp only
    split_ifs
    · exact control_finalizeSession _
    · rfl
    · exact control_startPumps
  · rfl

theorem control_resumeTask : (resumeTask deps s).control = s.control := by
  unfold resumeTask
  split
  · rfl
  · simp only
    split_ifs
    · split
      · rfl
      · exact control_authenticate
    · rfl

theorem control_callTask : (callTask s).control = s.control := by
  unfold callTask
  split
  · rfl
  · rfl

theorem control_settled : (settled s w).control = s.control := by
  unfold settled
  split_ifs
  · rfl
  · rfl

theorem control_retired (now : Int) : (retired s k now).control = s.control := by
  unfold retired
  simp only
  split_ifs
  · rfl
  · rfl

theorem control_drainLoop : (drainLoop s k).control = s.control := by
  unfold drainLoop
  split_ifs
  · rfl
  · rfl

theorem control_drainResumed : (drainResumed deps s k).control = s.control := by
  unfold drainResumed
  split_ifs
  · rfl
  · exact control_drainLoop
  · simp only
    split
    · rfl
    · split_ifs
      · rfl
      · rfl

theorem control_datagramRead (n : Nat) (now : Int) :
    (datagramRead deps s k n now).control = s.control := by
  unfold datagramRead
  split_ifs
  · rfl
  · simp only
    split
    · rfl
    · rfl
    · unfold startDrain
      split_ifs
      · exact control_drainLoop
      · rfl

theorem control_streamResumed (kind : StreamKind) :
    (streamResumed s k kind).control = s.control := by
  unfold streamResumed
  split_ifs
  · rfl
  · exact control_streamLoop kind
  · rfl

theorem control_trackStream (kind : StreamKind) (aborted : Bool) :
    (trackStream s k kind aborted).control = s.control := by
  unfold trackStream
  simp only
  split_ifs
  · exact control_releaseStream _
  · rfl

theorem control_streamRead (kind : StreamKind) (aborted : Bool) :
    (streamRead deps s k kind aborted).control = s.control := by
  unfold streamRead
  split_ifs
  · rfl
  · rfl
  · simp only
    split_ifs
    · exact control_trackStream kind aborted
    · exact control_trackStream kind aborted

/-! ### Stopping -/

theorem control_closeSessions :
    (closeSessions s).control = { s.control with stopPhase := .closingSessions } := by
  rw [← control_foldl (f := fun s entry => closeSession s entry.2 .noError "Server shutting down")
    (fun _ _ => rfl) s.sessions s]
  rfl

theorem control_forceStop (stoppingDuringStart : Bool) :
    (forceStop s stoppingDuringStart).control = s.control.forceStop stoppingDuringStart := by
  have habandon : (abandonSessions s).control = s.control :=
    control_foldl (f := fun s k => closeScheduler (abortAdmission s k .unknown) k true)
      (fun u k => control_abortAdmission (s := u) (k := k) .unknown) _ _
  have hpromise : (abandonSessions s).startPromise = s.control.startPromise :=
    congrArg Control.startPromise habandon
  unfold forceStop Control.forceStop
  simp only [hpromise]
  split_ifs
  · rw [← habandon]
    rfl
  · rw [control_closeSessions, habandon]

theorem control_driverStopped (result : DriverStopResult) :
    (driverStopped s result).control =
      s.control.driverStopped result.driverStopError.isNone := by
  have hfinal : (s.sessions.foldl (fun s entry => finalizeSession s entry.2 .unknown) s).control =
      s.control :=
    control_foldl (f := fun s (entry : String × Nat) => finalizeSession s entry.2 .unknown)
      (fun _ _ => control_finalizeSession .unknown) _ _
  rw [← hfinal]
  rfl

theorem control_stopSessions (stoppingDuringStart : Bool) :
    (stopSessions deps s stoppingDuringStart).control =
      s.control.stopSessions deps.options.shutdown.graceful stoppingDuringStart := by
  have hidle : (s.outstandingSessions.foldl awaitSession s).control = s.control :=
    control_foldl (f := awaitSession) (fun _ _ => rfl) _ _
  have hdrain : (awaitDrain s).control = { s.control with stopPhase := .draining } := by
    rw [← hidle]
    rfl
  unfold stopSessions Control.stopSessions
  simp only [show s.control.lifecycle = s.lifecycle from rfl]
  split_ifs
  · exact hdrain
  · exact control_forceStop _
  · exact control_forceStop _

/-- To the lifecycle a stop does what `Control.stop` does. -/
theorem control_stop : (stop deps s).control = s.control.stop deps.options.shutdown.graceful := by
  have hintake : ∀ u : RuntimeState, (u.outstandingSessions.foldl stopIntake
      (releaseStartup u)).control = u.control.releaseStartup :=
    fun u => control_foldl (f := stopIntake) (fun _ _ => control_stopIntake) _ (releaseStartup u)
  have hperform : ∀ u : RuntimeState, (performStop deps u).control =
      u.control.performStop deps.options.shutdown.graceful := by
    intro u
    unfold performStop Control.performStop
    simp only [show u.control.lifecycle = u.lifecycle from rfl]
    split_ifs
    · rfl
    · rw [control_stopSessions, hintake]
  unfold stop Control.stop
  simp only [show s.control.stopPhase = s.stopPhase from rfl]
  split_ifs
  · exact hperform _
  · rfl

/-- An error leaves the control alone or stops the server. -/
theorem control_handleRuntimeError (error : Failure) :
    (handleRuntimeError deps s k error).control = s.control ∨
      (handleRuntimeError deps s k error).control =
        s.control.stop deps.options.shutdown.graceful := by
  unfold handleRuntimeError
  split
  · exact Or.inl rfl
  · exact Or.inl rfl
  · exact Or.inl rfl
  · exact Or.inl rfl
  · exact Or.inr control_stop
  · exact Or.inr control_stop

theorem moves_handleRuntimeError (error : Failure) :
    Control.Moves deps s.control e (handleRuntimeError deps s k error).control := by
  have hcases : (handleRuntimeError deps s k error).control = s.control ∨ _ :=
    control_handleRuntimeError error
  rcases hcases with heq | heq
  · rw [heq]
    exact .rests
  · rw [heq]
    exact .stops

theorem moves_pumpFailed (error : Failure) :
    Control.Moves deps s.control e (pumpFailed deps s k error).control := by
  unfold pumpFailed
  split_ifs
  · exact .rests
  · exact moves_handleRuntimeError error

theorem moves_streamPumpFailed (kind : StreamKind) (error : Failure) :
    Control.Moves deps s.control e (streamPumpFailed deps s k kind error).control :=
  moves_pumpFailed (s := update s k (·.setStreamPump kind .closing)) error

theorem moves_bootstrap :
    Control.Moves deps s.control .bootstrap (onApplicationBootstrap deps s).control := by
  unfold onApplicationBootstrap
  by_cases hblocked : (s.startPromise.isSome || s.lifecycle.state != .stopped) = true
  · rw [if_pos hblocked]
    exact .rests
  · rw [if_neg hblocked]
    by_cases hinvalid : validateRegistryConfiguration deps = false
    · rw [if_pos hinvalid]
      exact .rests
    · rw [if_neg hinvalid]
      simp only [Bool.or_eq_true, not_or] at hblocked
      have hpromise : s.startPromise = none := by simpa using hblocked.1
      have hstopped : s.lifecycle.state = .stopped := by simpa using hblocked.2
      exact .bootstrapped hpromise hstopped

theorem moves_errorObserved : Control.Moves deps s.control e (errorObserved deps s w).control := by
  unfold errorObserved
  simp only
  split
  · split_ifs
    · exact .rests
    · exact moves_handleRuntimeError
        (s := setLoad s (s.plane.toWorkload.setPhase w .finishing)) _
  · exact .rests

/-- The control moves with the runtime. -/
theorem moves_of_step (h : (machine deps).Step s e t) :
    Control.Moves deps s.control e t.control := by
  obtain ⟨henabled, rfl⟩ := h
  have hrests : ∀ {e : RuntimeEvent} {u : RuntimeState}, u.control = s.control →
      Control.Moves deps s.control e u.control := by
    intro e u heq
    rw [heq]
    exact .rests
  cases e with
  | bootstrap => exact moves_bootstrap
  | driverStarted i succeeded =>
    have hi : i < s.startCount ∧ s.start i = .starting := by simpa [enabled] using henabled
    cases succeeded with
    | true => exact .driverFulfilled hi.1 hi.2
    | false => exact .driverRejected hi.1 hi.2
  | startCleared i =>
    have hi : i < s.startCount ∧ s.start i = .settled := by simpa [enabled] using henabled
    exact .startCleared hi.1 hi.2
  | stop =>
    simp only [next]
    rw [control_stop]
    exact .stops
  | drainEnded =>
    have hphase : s.stopPhase = .draining := by simpa [enabled] using henabled
    have hmove : Control.Moves deps s.control .drainEnded s.control.drainEnded := .drainEnded hphase
    simp only [next, drainEnded]
    rw [control_forceStop]
    exact hmove
  | startCancelled =>
    have hphase : s.stopPhase = .cancellingStart := by simpa [enabled] using henabled
    have hmove : Control.Moves deps s.control .startCancelled
        { s.control with stopPhase := .closingSessions } := .startCancelled hphase
    simp only [next]
    rwa [control_closeSessions]
  | sessionsClosed =>
    have hphase : s.stopPhase = .closingSessions := by simpa [enabled] using henabled
    exact .sessionsClosed hphase
  | driverStopped result =>
    have hphase : s.stopPhase = .stoppingDriver := by simpa [enabled] using henabled
    simp only [next]
    rw [control_driverStopped]
    exact .driverStopped hphase
  | stopCleared =>
    have hphase : s.stopPhase = .returned := by simpa [enabled] using henabled
    exact .stopCleared hphase
  | surfaced offer => exact hrests (control_acceptSession offer)
  | sessionAborted k reason => exact hrests (control_sessionAborted reason)
  | idleTimeout k => exact .rests
  | handshakeTimeout k => exact hrests control_handshakeTimeout
  | continueAdmission k => exact hrests control_continueAdmission
  | authenticateSettled k result => exact hrests (control_authenticateSettled result)
  | pipeline k event => exact hrests (control_pipelineStep event)
  | handlerReturned k => exact hrests control_handlerResumed
  | admissionObserved k => exact .rests
  | retired k now => exact hrests (control_retired now)
  | callTask => exact hrests control_callTask
  | resumeTask => exact hrests control_resumeTask
  | taskError w error => exact moves_handleRuntimeError error
  | runEnded w failure => exact .rests
  | errorObserved w => exact moves_errorObserved
  | settled w => exact hrests control_settled
  | detached w => exact .rests
  | datagramRead k byteLength now => exact hrests (control_datagramRead byteLength now)
  | datagramsDone k => exact .rests
  | datagramReadFailed k error =>
    exact moves_pumpFailed (s := update s k ({ · with datagramPump := .closing })) error
  | datagramPumpClosed k => exact .rests
  | drainResumed k => exact hrests control_drainResumed
  | drainContinued k => exact hrests control_drainLoop
  | streamResumed k kind => exact hrests (control_streamResumed kind)
  | streamRead k kind aborted => exact hrests (control_streamRead kind aborted)
  | streamsDone k kind => exact .rests
  | streamReadFailed k kind error => exact moves_streamPumpFailed kind error
  | streamRefused k kind failure =>
    cases failure with
    | none => exact hrests (control_streamLoop kind)
    | some error => exact moves_streamPumpFailed kind error
  | streamDiscarded k kind failure =>
    cases failure with
    | none => exact .rests
    | some error => exact moves_streamPumpFailed kind error
  | streamSubmitted k kind => exact hrests (control_streamLoop kind)
  | streamPumpClosed k kind => exact .rests
  | streamAborted i => exact hrests (control_releaseStream i)

end WebTransportRuntime

end NestWebTransport
