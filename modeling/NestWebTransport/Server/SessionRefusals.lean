import NestWebTransport.Server.AdmissionGate
import NestWebTransport.Server.RuntimeStanding

/-! How sessions are turned away, and what leaves the refusals alone. -/
namespace NestWebTransport

/-- The call turns a session away: one that never became managed, or one whose admission failed. -/
def CloseCall.turnsAway (call : CloseCall) : Bool :=
  call.managed.isNone || call.closeCode == .rejected

namespace WebTransportRuntime

variable {deps : RuntimeDependencies} {s t u : RuntimeState} {e : RuntimeEvent}
  {es : List RuntimeEvent} {j k w : Nat} {kind : StreamKind}

/-- What the runtime keeps of the sessions it has turned away. -/
def turnedAway (s : RuntimeState) : Nat × (String → Nat) × List CloseCall :=
  (s.rejectedSessions, s.rejections, s.closeCalls.filter CloseCall.turnsAway)

/-! ### What turns no session away -/

theorem turnedAway_foldl {α : Type*} {f : RuntimeState → α → RuntimeState}
    (hf : ∀ s x, turnedAway (f s x) = turnedAway s) (xs : List α) (s : RuntimeState) :
    turnedAway (xs.foldl f s) = turnedAway s := by
  induction xs generalizing s with
  | nil => rfl
  | cons x xs ih => exact (ih (f s x)).trans (hf s x)

@[simp] theorem turnedAway_update (f : ManagedSession → ManagedSession) :
    turnedAway (update s k f) = turnedAway s := rfl

@[simp] theorem turnedAway_setLoad (load : Workload) : turnedAway (setLoad s load) = turnedAway s :=
  rfl

@[simp] theorem turnedAway_setScheduler (scheduler : BoundedTaskScheduler Nat Waiter) :
    turnedAway (setScheduler s k scheduler) = turnedAway s := rfl

@[simp] theorem turnedAway_closeScheduler (discardPending : Bool) :
    turnedAway (closeScheduler s k discardPending) = turnedAway s := rfl

@[simp] theorem turnedAway_clearDatagrams : turnedAway (clearDatagrams s k) = turnedAway s := rfl

@[simp] theorem turnedAway_plane (p : DataPlane) :
    turnedAway { s with plane := p } = turnedAway s :=
  rfl

theorem turnedAway_sessions (sessions : List (String × Nat)) :
    turnedAway { s with sessions := sessions } = turnedAway s := rfl

theorem turnedAway_lifecycle (lifecycle : Lifecycle) :
    turnedAway { s with lifecycle := lifecycle } = turnedAway s := rfl

theorem turnedAway_stopPhase (phase : StopPhase) :
    turnedAway { s with stopPhase := phase } = turnedAway s := rfl

theorem turnedAway_closeSession {closeCode : CloseCode} (hcode : closeCode ≠ .rejected)
    (reason : String) : turnedAway (closeSession s k closeCode reason) = turnedAway s := by
  have hkept : CloseCall.turnsAway ⟨some k, (s.managed k).session.id, closeCode, reason⟩ = false :=
    beq_eq_false_iff_ne.mpr hcode
  unfold turnedAway closeSession
  simp [hkept]

@[simp] theorem turnedAway_stopIntake : turnedAway (stopIntake s k) = turnedAway s := by
  unfold stopIntake
  simp

@[simp] theorem turnedAway_contextAborted (reason : Failure) :
    turnedAway (contextAborted s k reason) = turnedAway s := by
  unfold contextAborted
  simp

@[simp] theorem turnedAway_abortAdmission (reason : Failure) :
    turnedAway (abortAdmission s k reason) = turnedAway s := by
  unfold abortAdmission
  split_ifs
  · rfl
  · simp

@[simp] theorem turnedAway_retireSession : turnedAway (retireSession s k) = turnedAway s := by
  unfold retireSession
  simp

@[simp] theorem turnedAway_finalizeSession (reason : Failure) :
    turnedAway (finalizeSession s k reason) = turnedAway s := by
  unfold finalizeSession
  split_ifs
  · rfl
  · extract_lets v₁ v₂ v₃
    have hlast : turnedAway v₃ = turnedAway s := by
      simp [v₃, v₂, v₁]
    exact (turnedAway_retireSession.trans (turnedAway_sessions _)).trans hlast

@[simp] theorem turnedAway_releaseStream (i : Nat) :
    turnedAway (releaseStream s i) = turnedAway s := by
  unfold releaseStream
  split_ifs
  · rfl
  · rfl

@[simp] theorem turnedAway_releaseStreams : turnedAway (releaseStreams s k) = turnedAway s :=
  turnedAway_foldl (fun _ i => turnedAway_releaseStream i) _ s

theorem turnedAway_sessionAborted (reason : Failure) :
    turnedAway (sessionAborted s k reason) = turnedAway s := by
  unfold sessionAborted
  extract_lets followed v₁ v₂ v₃
  have hlast : turnedAway v₃ = turnedAway s := by
    simp [v₃, v₂, v₁]
  split_ifs
  · exact (turnedAway_contextAborted reason).trans hlast
  · exact hlast

theorem turnedAway_handshakeTimeout : turnedAway (handshakeTimeout s k) = turnedAway s := by
  unfold handshakeTimeout
  simp

/-! ### Stopping and starting -/

theorem turnedAway_abandonSessions : turnedAway (abandonSessions s) = turnedAway s := by
  refine turnedAway_foldl ?_ _ s
  intro v k
  simp

theorem turnedAway_closeSessions : turnedAway (closeSessions s) = turnedAway s := by
  refine (turnedAway_stopPhase _).trans (turnedAway_foldl ?_ _ s)
  intro v entry
  exact turnedAway_closeSession (by decide) _

theorem turnedAway_forceStop (stoppingDuringStart : Bool) :
    turnedAway (forceStop s stoppingDuringStart) = turnedAway s := by
  unfold forceStop
  extract_lets v
  have habandon : turnedAway v = turnedAway s := turnedAway_abandonSessions
  split_ifs
  · exact (turnedAway_stopPhase _).trans habandon
  · exact turnedAway_closeSessions.trans habandon

theorem turnedAway_awaitDrain : turnedAway (awaitDrain s) = turnedAway s := by
  refine (turnedAway_stopPhase _).trans (turnedAway_foldl ?_ _ s)
  intro v k
  unfold awaitSession
  simp

theorem turnedAway_stopSessions (stoppingDuringStart : Bool) :
    turnedAway (stopSessions deps s stoppingDuringStart) = turnedAway s := by
  unfold stopSessions
  split_ifs
  · exact turnedAway_awaitDrain
  · exact (turnedAway_forceStop stoppingDuringStart).trans (turnedAway_lifecycle _)
  · exact turnedAway_forceStop stoppingDuringStart

theorem turnedAway_performStop : turnedAway (performStop deps s) = turnedAway s := by
  have hrelease : turnedAway (releaseStartup s) = turnedAway s := rfl
  unfold performStop
  split_ifs
  · exact turnedAway_stopPhase _
  · refine (turnedAway_stopSessions _).trans ((turnedAway_foldl ?_ _ _).trans hrelease)
    intro v k
    simp

theorem turnedAway_stop : turnedAway (stop deps s) = turnedAway s := by
  unfold stop
  extract_lets v
  have hcalled : turnedAway v = turnedAway s := rfl
  split_ifs
  · exact turnedAway_performStop.trans hcalled
  · exact hcalled

theorem turnedAway_driverStopped (result : DriverStopResult) :
    turnedAway (driverStopped s result) = turnedAway s := by
  unfold driverStopped
  extract_lets v lifecycle
  have hfinal : turnedAway v = turnedAway s := by
    refine turnedAway_foldl ?_ _ s
    intro v entry
    simp
  exact hfinal

theorem turnedAway_bootstrap : turnedAway (onApplicationBootstrap deps s) = turnedAway s := by
  unfold onApplicationBootstrap
  split_ifs
  · rfl
  · rfl
  · rfl
  · rfl

theorem turnedAway_handleRuntimeError (error : Failure) :
    turnedAway (handleRuntimeError deps s k error) = turnedAway s := by
  unfold handleRuntimeError
  split
  · rfl
  · rfl
  · rfl
  · exact turnedAway_closeSession (by decide) error.code
  · exact turnedAway_stop
  · exact turnedAway_stop

/-! ### Admission and work -/

theorem turnedAway_throwIfAdmissionEnded (h : turnedAway t = turnedAway s) :
    turnedAway (throwIfAdmissionEnded s k t) = turnedAway s := by
  unfold throwIfAdmissionEnded
  split_ifs
  · rfl
  · exact h

theorem turnedAway_runSessionHandlers (index : Nat) :
    turnedAway (runSessionHandlers deps s k index) = turnedAway s := by
  unfold runSessionHandlers
  split
  · rfl
  · exact turnedAway_throwIfAdmissionEnded rfl

theorem turnedAway_authenticate :
    turnedAway (authenticateAndRunSessionHandlers deps s k) = turnedAway s := by
  apply turnedAway_throwIfAdmissionEnded
  split_ifs
  · rfl
  · exact turnedAway_runSessionHandlers 0

theorem turnedAway_authenticateSettled (result : Except Failure Principal) :
    turnedAway (authenticateSettled deps s k result) = turnedAway s := by
  cases result with
  | error error => rfl
  | ok principal =>
    apply turnedAway_throwIfAdmissionEnded
    split_ifs
    · rfl
    · exact turnedAway_runSessionHandlers (s := update s k (·.note (.authenticated principal))) 0

theorem turnedAway_handlerResumed : turnedAway (handlerResumed deps s k) = turnedAway s := by
  unfold handlerResumed
  split
  · exact turnedAway_throwIfAdmissionEnded (turnedAway_runSessionHandlers _)
  · rfl

theorem turnedAway_pipelineStep (event : PipelineEvent) :
    turnedAway (pipelineStep deps s k event) = turnedAway s := by
  unfold pipelineStep
  split
  · split
    · rfl
    · split
      · rfl
      · rfl
  · rfl

theorem turnedAway_callTask : turnedAway (callTask s) = turnedAway s := by
  unfold callTask
  split
  · rfl
  · rfl

theorem turnedAway_resumeTask : turnedAway (resumeTask deps s) = turnedAway s := by
  unfold resumeTask
  split
  · rfl
  · simp only
    split_ifs
    · split
      · rfl
      · exact turnedAway_authenticate (s := setLoad s (s.plane.toWorkload.resumeTask _))
    · rfl

theorem turnedAway_errorObserved : turnedAway (errorObserved deps s w) = turnedAway s := by
  unfold errorObserved
  simp only
  split
  · split_ifs
    · rfl
    · exact turnedAway_handleRuntimeError (s := setLoad s _) _
  · rfl

theorem turnedAway_settled : turnedAway (settled s w) = turnedAway s := by
  unfold settled
  split_ifs
  · rfl
  · rfl

theorem turnedAway_retired (now : Int) : turnedAway (retired s k now) = turnedAway s := by
  unfold retired
  simp only
  split_ifs
  · rfl
  · rfl

/-! ### Pumps -/

theorem turnedAway_drainLoop : turnedAway (drainLoop s k) = turnedAway s := by
  unfold drainLoop
  split_ifs
  · rfl
  · rfl

theorem turnedAway_drainResumed : turnedAway (drainResumed deps s k) = turnedAway s := by
  unfold drainResumed
  split_ifs
  · rfl
  · exact turnedAway_drainLoop
  · simp only
    split
    · rfl
    · split_ifs
      · refine (turnedAway_closeSession (by decide) _).trans ?_
        rfl
      · rfl

theorem turnedAway_pumpFailed (error : Failure) :
    turnedAway (pumpFailed deps s k error) = turnedAway s := by
  unfold pumpFailed
  split_ifs
  · rfl
  · exact turnedAway_handleRuntimeError error

theorem turnedAway_datagramRead (n : Nat) (now : Int) :
    turnedAway (datagramRead deps s k n now) = turnedAway s := by
  unfold datagramRead
  split_ifs
  · rfl
  · simp only
    split
    · rfl
    · refine (turnedAway_closeSession (by decide) _).trans ?_
      rfl
    · unfold startDrain
      split_ifs
      · exact turnedAway_drainLoop (s := { s with plane := _ })
      · rfl

theorem turnedAway_streamLoop : turnedAway (streamLoop s k kind) = turnedAway s := by
  unfold streamLoop
  split_ifs
  · rfl
  · rfl

theorem turnedAway_streamResumed : turnedAway (streamResumed s k kind) = turnedAway s := by
  unfold streamResumed
  split_ifs
  · rfl
  · exact turnedAway_streamLoop
  · rfl

/-- No stream turns a session away. -/
theorem turnedAway_streamRead (aborted : Bool) :
    turnedAway (streamRead deps s k kind aborted) = turnedAway s := by
  have htracked : turnedAway (trackStream s k kind aborted) = turnedAway s := by
    unfold trackStream
    simp only
    split_ifs
    · exact turnedAway_releaseStream _
    · rfl
  unfold streamRead
  split_ifs
  · rfl
  · rfl
  · simp only
    split_ifs
    · exact (turnedAway_closeSession (by decide) _).trans htracked
    · exact htracked

theorem turnedAway_streamRefused (failure : Option Failure) :
    turnedAway (streamRefused deps s k kind failure) = turnedAway s := by
  cases failure with
  | none => exact turnedAway_streamLoop
  | some error =>
    exact turnedAway_pumpFailed (s := update s k (·.setStreamPump kind .closing)) error

theorem turnedAway_streamDiscarded (failure : Option Failure) :
    turnedAway (streamDiscarded deps s k kind failure) = turnedAway s := by
  cases failure with
  | none => rfl
  | some error =>
    exact turnedAway_pumpFailed (s := update s k (·.setStreamPump kind .closing)) error

theorem turnedAway_startPumps : turnedAway (startPumps s k) = turnedAway s := by
  have hloop : ∀ (v : RuntimeState) (b : Bool) (kind : StreamKind),
      turnedAway (if b then streamLoop v k kind else v) = turnedAway v := by
    intro v b kind
    cases b with
    | true => exact turnedAway_streamLoop
    | false => rfl
  have hdatagrams : turnedAway
      (if (s.managed k).datagramReader then
        update s k fun m => { m with datagramPump := if m.isIntakeOver then .ended else .reading }
      else s) = turnedAway s := by
    split_ifs
    · rfl
    · rfl
  exact ((hloop _ _ .unidirectional).trans (hloop _ _ .bidirectional)).trans hdatagrams

/-- Only a surfaced session and the end of an admission can turn a session away. -/
theorem turnedAway_step (h : (machine deps).Step s e t) (hsurfaced : ∀ offer, e ≠ .surfaced offer)
    (hcontinued : ∀ k, e ≠ .continueAdmission k) : turnedAway t = turnedAway s := by
  obtain ⟨-, rfl⟩ := h
  cases e with
  | bootstrap => exact turnedAway_bootstrap
  | driverStarted i succeeded =>
    cases succeeded with
    | true => rfl
    | false => rfl
  | startCleared i => rfl
  | stop => exact turnedAway_stop
  | drainEnded => exact turnedAway_forceStop (s := { s with lifecycle := _ }) false
  | startCancelled => exact turnedAway_foldl (fun _ _ => turnedAway_closeSession (by decide) _) _ s
  | sessionsClosed => rfl
  | driverStopped result => exact turnedAway_driverStopped result
  | stopCleared => rfl
  | surfaced offer => exact absurd rfl (hsurfaced offer)
  | sessionAborted k reason => exact turnedAway_sessionAborted reason
  | idleTimeout k => exact turnedAway_closeSession (by decide) _
  | handshakeTimeout k => exact turnedAway_handshakeTimeout
  | continueAdmission k => exact absurd rfl (hcontinued k)
  | authenticateSettled k result => exact turnedAway_authenticateSettled result
  | pipeline k event => exact turnedAway_pipelineStep event
  | handlerReturned k => exact turnedAway_handlerResumed
  | admissionObserved k => rfl
  | retired k now => exact turnedAway_retired now
  | callTask => exact turnedAway_callTask
  | resumeTask => exact turnedAway_resumeTask
  | taskError w error => exact turnedAway_handleRuntimeError error
  | runEnded w failure => rfl
  | errorObserved w => exact turnedAway_errorObserved
  | settled w => exact turnedAway_settled
  | detached w => rfl
  | datagramRead k n now => exact turnedAway_datagramRead n now
  | datagramsDone k => rfl
  | datagramReadFailed k error =>
    exact turnedAway_pumpFailed (s := update s k ({ · with datagramPump := .closing })) error
  | datagramPumpClosed k => rfl
  | drainResumed k => exact turnedAway_drainResumed
  | drainContinued k => exact turnedAway_drainLoop
  | streamResumed k kind => exact turnedAway_streamResumed
  | streamRead k kind aborted => exact turnedAway_streamRead aborted
  | streamsDone k kind => rfl
  | streamReadFailed k kind error =>
    exact turnedAway_pumpFailed (s := update s k (·.setStreamPump kind .closing)) error
  | streamRefused k kind failure => exact turnedAway_streamRefused failure
  | streamDiscarded k kind failure => exact turnedAway_streamDiscarded failure
  | streamSubmitted k kind => exact turnedAway_streamLoop
  | streamPumpClosed k kind => rfl
  | streamAborted i => exact turnedAway_releaseStream i

/-! ### What turns a session away -/

/-- The reasons a session can be turned away for. -/
def rejectionCodes : List String :=
  ["server-unavailable", "no-route", "ERR_WEBTRANSPORT_GLOBAL_SESSION_LIMIT",
    "ERR_WEBTRANSPORT_DUPLICATE_SESSION_ID", "ERR_WEBTRANSPORT_HEADER_LIMIT",
    "ERR_WEBTRANSPORT_ORIGIN_REQUIRED", "ERR_WEBTRANSPORT_ORIGIN_MALFORMED",
    "ERR_WEBTRANSPORT_ORIGIN_REJECTED", "ip-limit", "handler-limit", "reader-setup",
    "admission-timeout", "admission-failed"]

/-- One session is turned away: it is counted once, under one reason, and closed once. -/
def TurnsAway (managed : Option Nat) (s t : RuntimeState) : Prop :=
  ∃ code ∈ rejectionCodes, ∃ call : CloseCall, call.managed = managed ∧
    turnedAway t = (s.rejectedSessions + 1,
      Function.update s.rejections code (s.rejections code + 1),
      s.closeCalls.filter CloseCall.turnsAway ++ [call])

theorem turnsAway_closeUnmanaged {code : String} (hcode : code ∈ rejectionCodes)
    (hsame : turnedAway u = turnedAway s) (sessionId : String) (closeCode : CloseCode)
    (reason : String) :
    TurnsAway none s (closeUnmanaged (recordRejection u code) sessionId closeCode reason) := by
  obtain ⟨hcount, hreasons, hcalls⟩ :
      u.rejectedSessions = s.rejectedSessions ∧ u.rejections = s.rejections ∧
        u.closeCalls.filter CloseCall.turnsAway = s.closeCalls.filter CloseCall.turnsAway := by
    simpa only [turnedAway, Prod.mk.injEq] using hsame
  refine ⟨code, hcode, ⟨none, sessionId, closeCode, reason⟩, rfl, ?_⟩
  unfold turnedAway closeUnmanaged recordRejection
  simp only [List.filter_append, hcount, hreasons, hcalls]
  rfl

/-- Every objection to an origin has a code of the table. -/
theorem validateOrigin_code {session : WebTransportSession}
    {options : NormalizedWebTransportModuleOptions} {parseURL : String → Option ParsedURL}
    {rejection : SessionRejectedError}
    (h : session.validateOrigin options parseURL = some rejection) :
    rejection.code ∈ rejectionCodes := by
  unfold WebTransportSession.validateOrigin at h
  split at h
  · split_ifs at h
    cases h
    decide
  · split at h
    · cases h
      decide
    · split_ifs at h
      cases h
      decide

/-- Every objection to a session has a code of the table. -/
theorem validateSession_code {session : WebTransportSession}
    {options : NormalizedWebTransportModuleOptions} {parseURL : String → Option ParsedURL}
    {outstanding : Nat} {ids : List String} {rejection : SessionRejectedError}
    (h : session.validateSession options parseURL outstanding ids = some rejection) :
    rejection.code ∈ rejectionCodes := by
  unfold WebTransportSession.validateSession at h
  split at h
  · cases h
    decide
  · split at h
    · cases h
      decide
    · split at h
      · cases h
        decide
      · exact validateOrigin_code h

theorem turnedAway_ipRecords (records : IpRecords) :
    turnedAway { s with ipRecords := records } = turnedAway s := rfl

theorem turnedAway_manage (session : WebTransportSession) (readers : Bool × Bool × Bool)
    (now : Int) : turnedAway (manage deps s session readers now) = turnedAway s := rfl

theorem turnedAway_startAdmission (r : Nat) : turnedAway (startAdmission s k r) = turnedAway s := by
  rw [startAdmission, turnedAway_update, turnedAway_setLoad]

/-- A session that is registered is not turned away yet. -/
theorem turnedAway_registerSession (hs : Sound s) (offer : SessionOffer)
    (readers : Bool × Bool × Bool) {r : Nat} {budget : HandlerBudget}
    (hr : s.plane.handlerBudget.reserve = some (r, budget)) (records : IpRecords) :
    turnedAway (registerSession deps { s with ipRecords := records } offer readers r budget) =
        turnedAway s ∧
      (registerSession deps { s with ipRecords := records } offer readers r
        budget).plane.managedCount = s.plane.managedCount + 1 := by
  unfold registerSession
  simp only
  split
  · rename_i reason haborted
    have hopen : Opens deps.options offer readers s _ := opens_aborted records haborted hr
    have hmanaged : s.plane.managedCount < s.plane.managedCount + 1 := Nat.lt_succ_self _
    have hclose : Closing deps.options _ _ :=
      closing_finalizeSession (hopen.sound hs) (hopen.managedCount ▸ hmanaged) reason
    refine ⟨?_, hclose.steady.managedCount.trans hopen.managedCount⟩
    rw [turnedAway_finalizeSession, turnedAway_update, turnedAway_manage, turnedAway_setLoad,
      turnedAway_ipRecords]
  · rename_i haborted
    have hopen : Opens deps.options offer readers s _ := opens_startAdmission records haborted hr
    refine ⟨?_, hopen.managedCount⟩
    rw [turnedAway_startAdmission, turnedAway_manage, turnedAway_setLoad, turnedAway_ipRecords]

/-- A surfaced session is turned away at once, or becomes managed and is not turned away yet. -/
theorem turnedAway_acceptSession (hs : Sound s) (offer : SessionOffer) :
    TurnsAway none s (acceptSession deps s offer) ∧
        (acceptSession deps s offer).plane.managedCount = s.plane.managedCount ∨
      turnedAway (acceptSession deps s offer) = turnedAway s ∧
        (acceptSession deps s offer).plane.managedCount = s.plane.managedCount + 1 := by
  unfold acceptSession
  simp only
  split_ifs
  · exact Or.inl ⟨turnsAway_closeUnmanaged (by decide) rfl _ _ _, rfl⟩
  · exact Or.inl ⟨turnsAway_closeUnmanaged (by decide) rfl _ _ _, rfl⟩
  · split
    · rename_i rejection hrejection
      exact Or.inl ⟨turnsAway_closeUnmanaged (validateSession_code hrejection) rfl _ _ _, rfl⟩
    · split
      · exact Or.inl ⟨turnsAway_closeUnmanaged (by decide) rfl _ _ _, rfl⟩
      · split
        · exact Or.inl ⟨turnsAway_closeUnmanaged (by decide) rfl _ _ _, rfl⟩
        · rename_i r budget hr
          split
          · exact Or.inl ⟨turnsAway_closeUnmanaged (by decide) rfl _ _ _, rfl⟩
          · rename_i readers hreaders
            exact Or.inr (turnedAway_registerSession hs offer readers hr _)

/-- An admission that failed turns its session away; one that was won does not. -/
theorem turnedAway_continueAdmission :
    (∃ error, (s.managed k).accept = .raceRejected error ∧
        TurnsAway (some k) s (continueAdmission s k) ∧
        ((continueAdmission s k).managed k).accept = .returned) ∨
      (∀ error, (s.managed k).accept ≠ .raceRejected error) ∧
        turnedAway (continueAdmission s k) = turnedAway s := by
  unfold continueAdmission
  split
  · rename_i error hrace
    refine Or.inl ⟨error, hrace, ?_, ?_⟩
    · refine ⟨if error.isTimeout then "admission-timeout" else "admission-failed", ?_,
        ⟨some k, (s.managed k).session.id, .rejected, "Session rejected"⟩, rfl, ?_⟩
      · split_ifs
        · decide
        · decide
      · unfold turnedAway closeSession
        simp only [List.filter_append, managed_update, if_pos]
        rfl
    · change ((update _ k ({ · with accept := .returned })).managed k).accept = .returned
      rw [managed_update, if_pos rfl]
  · rename_i hrace
    refine Or.inr ⟨?_, ?_⟩
    · intro error heq
      rw [hrace] at heq
      cases heq
    · simp only
      split_ifs
      · exact turnedAway_finalizeSession _
      · rfl
      · exact turnedAway_startPumps.trans rfl
  · rename_i hfulfilled hrejected
    exact Or.inr ⟨fun error heq => hfulfilled error heq, rfl⟩

end WebTransportRuntime

end NestWebTransport
