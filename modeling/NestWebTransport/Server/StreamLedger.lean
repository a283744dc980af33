import NestWebTransport.Foundation.Tally
import NestWebTransport.Server.RuntimeSessions

/-! The tracked streams of all sessions and what is counted of them. -/
namespace NestWebTransport

namespace TrackedStream

/-- What a tracked stream counts for until it is released. -/
def live (stream : TrackedStream) : Int := if stream.released then 0 else 1

/-- What it counts for among the streams of one kind of one session. -/
def liveOf (k : Nat) (kind : StreamKind) (stream : TrackedStream) : Int :=
  if stream.owner = k ∧ stream.kind = kind then stream.live else 0

theorem live_nonneg (stream : TrackedStream) : 0 ≤ stream.live := by
  unfold live
  split_ifs
  · exact Int.le_refl 0
  · exact Int.zero_le_ofNat 1

theorem liveOf_nonneg (k : Nat) (kind : StreamKind) (stream : TrackedStream) :
    0 ≤ stream.liveOf k kind := by
  unfold liveOf
  split_ifs
  · exact stream.live_nonneg
  · exact Int.le_refl 0

end TrackedStream

/-- What the ledger reads of a session. -/
def ManagedSession.streamView (m : ManagedSession) : Int × Int × Nat × Bool :=
  (m.bidirectionalStreams, m.unidirectionalStreams, m.streamIdleWaiters, m.sessionAborted)

namespace WebTransportRuntime

variable {deps : RuntimeDependencies} {s t u : RuntimeState} {e : RuntimeEvent}
  {es : List RuntimeEvent} {k w i j : Nat} {kind : StreamKind}

/-- The counters agree with the streams that are tracked and not released. -/
structure StreamLedger (deps : RuntimeDependencies) (s : RuntimeState) : Prop where
  counts : ∀ k kind,
    (s.managed k).streams kind = tally s.streamCount (TrackedStream.liveOf k kind) s.stream
  active : s.activeStreams = tally s.streamCount TrackedStream.live s.stream
  waiters : ∀ k, 0 < (s.managed k).streamIdleWaiters →
    ¬ ((s.managed k).bidirectionalStreams = 0 ∧ (s.managed k).unidirectionalStreams = 0)
  limit : ∀ k kind, (s.managed k).streams kind ≤ maxStreamsOf deps kind
  bound : s.activeStreams ≤ deps.options.limits.server.maxStreams.value

/-- No stream is tracked or released and no session aborts. -/
structure Still (deps : RuntimeDependencies) (s t : RuntimeState) : Prop where
  stream : t.stream = s.stream
  streamCount : t.streamCount = s.streamCount
  aborted : ∀ k, (t.managed k).sessionAborted = (s.managed k).sessionAborted
  ledger : StreamLedger deps s → StreamLedger deps t

theorem Still.refl (s : RuntimeState) : Still deps s s := ⟨rfl, rfl, fun _ => rfl, id⟩

theorem Still.trans (h : Still deps s t) (h' : Still deps t u) : Still deps s u where
  stream := h'.stream.trans h.stream
  streamCount := h'.streamCount.trans h.streamCount
  aborted := fun k => (h'.aborted k).trans (h.aborted k)
  ledger := fun hs => h'.ledger (h.ledger hs)

/-- What the ledger reads of a session besides its signal. -/
theorem ledger_congr
    (hsession : ∀ k, (t.managed k).bidirectionalStreams = (s.managed k).bidirectionalStreams ∧
      (t.managed k).unidirectionalStreams = (s.managed k).unidirectionalStreams ∧
      (t.managed k).streamIdleWaiters = (s.managed k).streamIdleWaiters)
    (hactive : t.activeStreams = s.activeStreams) (hcount : t.streamCount = s.streamCount)
    (hstream : t.stream = s.stream) (hs : StreamLedger deps s) : StreamLedger deps t := by
  have hstreams : ∀ k kind, (t.managed k).streams kind = (s.managed k).streams kind := by
    intro k kind
    cases kind with
    | bidirectional => exact (hsession k).1
    | unidirectional => exact (hsession k).2.1
  constructor
  · intro k kind
    rw [hstreams, hcount, hstream]
    exact hs.counts k kind
  · rw [hactive, hcount, hstream]
    exact hs.active
  · intro k
    obtain ⟨hbi, huni, hwaiters⟩ := hsession k
    rw [hbi, huni, hwaiters]
    exact hs.waiters k
  · intro k kind
    rw [hstreams]
    exact hs.limit k kind
  · rw [hactive]
    exact hs.bound

/-- Only what the ledger does not read has changed. -/
theorem Still.of_view (hview : ∀ k, (t.managed k).streamView = (s.managed k).streamView)
    (hactive : t.activeStreams = s.activeStreams) (hcount : t.streamCount = s.streamCount)
    (hstream : t.stream = s.stream) : Still deps s t := by
  simp only [ManagedSession.streamView, Prod.mk.injEq] at hview
  refine ⟨hstream, hcount, fun k => (hview k).2.2.2, ledger_congr (fun k => ?_) hactive hcount
    hstream⟩
  exact ⟨(hview k).1, (hview k).2.1, (hview k).2.2.1⟩

theorem still_foldl {α : Type*} {f : RuntimeState → α → RuntimeState} (xs : List α)
    (hf : ∀ s x, Still deps s (f s x)) : Still deps s (xs.foldl f s) := by
  induction xs generalizing s with
  | nil => exact .refl s
  | cons x xs ih => exact (hf s x).trans (ih (s := f s x))

theorem still_update {f : ManagedSession → ManagedSession}
    (h : (f (s.managed k)).streamView = (s.managed k).streamView) : Still deps s (update s k f) :=
  .of_view (update_field ManagedSession.streamView h) rfl rfl rfl

/-- The data plane has a part in no count of streams. -/
theorem still_plane (p : DataPlane) : Still deps s { s with plane := p } :=
  .of_view (fun _ => rfl) rfl rfl rfl

/-- A waiter is registered while a stream is tracked, or all waiters are released. -/
theorem still_waiters {waiters : Nat} (h : 0 < waiters →
    ¬ ((s.managed k).bidirectionalStreams = 0 ∧ (s.managed k).unidirectionalStreams = 0)) :
    Still deps s (update s k ({ · with streamIdleWaiters := waiters })) := by
  have hstreams : ∀ j kind,
      ((update s k ({ · with streamIdleWaiters := waiters })).managed j).streams
      kind = (s.managed j).streams kind := fun j kind =>
    update_field (fun m => m.streams kind) (by cases kind <;> rfl) j
  refine ⟨rfl, rfl, update_field ManagedSession.sessionAborted rfl, fun hs =>
    ⟨?_, hs.active, ?_, ?_,
    hs.bound⟩⟩
  · intro j kind
    rw [hstreams]
    exact hs.counts j kind
  · intro j
    rw [managed_update]
    split_ifs with hj
    · subst hj
      exact h
    · exact hs.waiters j
  · intro j kind
    rw [hstreams]
    exact hs.limit j kind

theorem still_noWaiters : Still deps s (update s k ({ · with streamIdleWaiters := 0 })) :=
  still_waiters fun h => by cases h

theorem update_eq {f g : ManagedSession → ManagedSession}
    (h : f (s.managed k) = g (s.managed k)) : update s k f = update s k g := by
  unfold update
  rw [h]

/-! ### Closing -/

theorem still_contextAborted (reason : Failure) : Still deps s (contextAborted s k reason) := by
  have hload : Still deps s (setLoad s (s.plane.toWorkload.abortWaiters k)) := still_plane _
  refine hload.trans (still_update ?_)
  unfold ManagedSession.rejectRace
  split_ifs
  · rfl
  · rfl

theorem still_abortAdmission (reason : Failure) : Still deps s (abortAdmission s k reason) := by
  unfold abortAdmission
  split_ifs
  · exact .refl s
  · have hset : Still deps s (update s k ({ · with context := some reason })) := still_update rfl
    exact hset.trans (still_contextAborted reason)

theorem still_closeScheduler (discardPending : Bool) :
    Still deps s (closeScheduler s k discardPending) := still_plane _

theorem still_clearDatagrams : Still deps s (clearDatagrams s k) := still_plane _

theorem still_stopIntake : Still deps s (stopIntake s k) := by
  have hset : Still deps s (update s k ({ · with intakeAborted := true })) := still_update rfl
  exact ((hset.trans (still_closeScheduler false)).trans still_clearDatagrams).trans
    (still_update rfl)

theorem still_retireSession : Still deps s (retireSession s k) := by
  have hset : Still deps s (update s k fun m => { m with retirement := .awaiting m.awaited }) :=
    still_update rfl
  exact hset.trans (still_plane _)

theorem still_finalizeSession (reason : Failure) : Still deps s (finalizeSession s k reason) := by
  have hleave : ∀ v : RuntimeState, Still deps v { v with
      sessions := v.sessions.filter (·.1 ≠ (v.managed k).session.id) } :=
    fun _ => .of_view (fun _ => rfl) rfl rfl rfl
  unfold finalizeSession
  split_ifs
  · exact .refl s
  · have hset : Still deps s (update s k ({ · with finalized := true })) := still_update rfl
    have hintake := hset.trans (still_stopIntake (k := k))
    have habort := hintake.trans (still_abortAdmission (k := k) reason)
    have hclose := (habort.trans (still_closeScheduler (k := k) true)).trans
      (still_clearDatagrams (k := k))
    have hclear := hclose.trans (still_noWaiters (k := k))
    extract_lets v₁ v₂ v₃
    exact (Still.trans hclear (hleave v₃)).trans still_retireSession

theorem still_handshakeTimeout : Still deps s (handshakeTimeout s k) := by
  have habort : Still deps s (abortAdmission s k .timeout) := still_abortAdmission .timeout
  refine habort.trans (still_update ?_)
  unfold ManagedSession.rejectRace
  split_ifs
  · rfl
  · rfl

theorem still_abandonSessions : Still deps s (abandonSessions s) :=
  still_foldl _ fun _ _ => (still_abortAdmission .unknown).trans (still_closeScheduler true)

theorem still_closeSessions : Still deps s (closeSessions s) := by
  have hclose : Still deps s (s.sessions.foldl
      (fun s entry => closeSession s entry.2 .noError "Server shutting down") s) :=
    still_foldl _ fun _ _ => .of_view (fun _ => rfl) rfl rfl rfl
  exact hclose.trans (.of_view (fun _ => rfl) rfl rfl rfl)

theorem still_forceStop (stoppingDuringStart : Bool) :
    Still deps s (forceStop s stoppingDuringStart) := by
  have habandon : Still deps s (abandonSessions s) := still_abandonSessions
  unfold forceStop
  simp only
  split_ifs
  · exact habandon.trans (.of_view (fun _ => rfl) rfl rfl rfl)
  · exact habandon.trans still_closeSessions

theorem still_waitForStreams : Still deps s (update s k (·.waitForStreams)) := by
  by_cases hnone : (s.managed k).bidirectionalStreams = 0 ∧ (s.managed k).unidirectionalStreams = 0
  · refine still_update ?_
    unfold ManagedSession.waitForStreams
    rw [if_pos hnone]
  · have hwait : update s k (·.waitForStreams) = update s k
        ({ · with streamIdleWaiters := (s.managed k).streamIdleWaiters + 1 }) := by
      refine update_eq ?_
      unfold ManagedSession.waitForStreams
      rw [if_neg hnone]
    rw [hwait]
    exact still_waiters fun _ => hnone

theorem still_awaitSession : Still deps s (awaitSession s k) := by
  have hidle : Still deps s (setScheduler s k ((s.plane.scheduler k).onIdle .stop)) := still_plane _
  exact hidle.trans still_waitForStreams

theorem still_awaitDrain : Still deps s (awaitDrain s) := by
  have hwait : Still deps s (s.outstandingSessions.foldl awaitSession s) :=
    still_foldl _ fun _ _ => still_awaitSession
  exact hwait.trans (.of_view (fun _ => rfl) rfl rfl rfl)

theorem still_lifecycle (lifecycle : Lifecycle) : Still deps s { s with lifecycle := lifecycle } :=
  .of_view (fun _ => rfl) rfl rfl rfl

theorem still_stopSessions (stoppingDuringStart : Bool) :
    Still deps s (stopSessions deps s stoppingDuringStart) := by
  unfold stopSessions
  split_ifs
  · exact still_awaitDrain
  · exact (still_lifecycle _).trans (still_forceStop stoppingDuringStart)
  · exact still_forceStop stoppingDuringStart

theorem still_performStop : Still deps s (performStop deps s) := by
  unfold performStop
  split_ifs
  · exact .of_view (fun _ => rfl) rfl rfl rfl
  · have hrelease : Still deps s (releaseStartup s) := .of_view (fun _ => rfl) rfl rfl rfl
    exact (hrelease.trans (still_foldl _ fun _ _ => still_stopIntake)).trans
      (still_stopSessions _)

theorem still_stop : Still deps s (stop deps s) := by
  have hcall : Still deps s { s with stopCalls := s.stopCalls + 1 } :=
    .of_view (fun _ => rfl) rfl rfl rfl
  unfold stop
  simp only
  split_ifs
  · exact hcall.trans still_performStop
  · exact hcall

theorem still_drainEnded : Still deps s (drainEnded s) :=
  (still_lifecycle _).trans (still_forceStop false)

theorem still_driverStopped (result : DriverStopResult) :
    Still deps s (driverStopped s result) := by
  have hfinal : Still deps s
      (s.sessions.foldl (fun s entry => finalizeSession s entry.2 .unknown) s) :=
    still_foldl _ fun _ _ => still_finalizeSession .unknown
  exact hfinal.trans (.of_view (fun _ => rfl) rfl rfl rfl)

theorem still_closeSession (closeCode : CloseCode) (reason : String) :
    Still deps s (closeSession s k closeCode reason) := .of_view (fun _ => rfl) rfl rfl rfl

theorem still_handleRuntimeError (error : Failure) :
    Still deps s (handleRuntimeError deps s k error) := by
  unfold handleRuntimeError
  split
  · exact .refl s
  · exact .refl s
  · exact .refl s
  · exact still_closeSession .internalError error.code
  · exact still_stop
  · exact still_stop

theorem still_bootstrap : Still deps s (onApplicationBootstrap deps s) := by
  unfold onApplicationBootstrap
  split_ifs
  · exact .refl s
  · exact .refl s
  · exact .of_view (fun _ => rfl) rfl rfl rfl
  · exact .of_view (fun _ => rfl) rfl rfl rfl

theorem still_driverStarted (i : Nat) (succeeded : Bool) :
    Still deps s (driverStarted s i succeeded) := by
  cases succeeded with
  | true => exact .of_view (fun _ => rfl) rfl rfl rfl
  | false => exact .of_view (fun _ => rfl) rfl rfl rfl

/-! ### Admission and work -/

theorem still_throwIfAdmissionEnded (h : Still deps s t) :
    Still deps s (throwIfAdmissionEnded s k t) := by
  unfold throwIfAdmissionEnded
  split_ifs
  · exact still_update rfl
  · exact h

theorem still_invocationReached (index : Nat) (invocation : Invocation) :
    Still deps s (invocationReached s k index invocation) := by
  unfold invocationReached
  cases invocation
  · exact still_update rfl
  · exact still_update rfl
  · exact still_update rfl

theorem still_runSessionHandlers (index : Nat) :
    Still deps s (runSessionHandlers deps s k index) := by
  have hnote : Still deps s (update s k (·.note (.handlerStarted index))) := still_update rfl
  unfold runSessionHandlers
  split
  · exact still_update rfl
  · exact still_throwIfAdmissionEnded (hnote.trans (still_invocationReached index _))

theorem still_authenticate : Still deps s (authenticateAndRunSessionHandlers deps s k) := by
  apply still_throwIfAdmissionEnded
  split_ifs
  · exact still_update rfl
  · exact still_runSessionHandlers 0

theorem still_authenticateSettled (result : Except Failure Principal) :
    Still deps s (authenticateSettled deps s k result) := by
  unfold authenticateSettled
  cases result with
  | error error => exact still_update rfl
  | ok principal =>
    have hnote : Still deps s (update s k (·.note (.authenticated principal))) := still_update rfl
    apply still_throwIfAdmissionEnded
    split_ifs
    · exact still_update rfl
    · exact hnote.trans (still_runSessionHandlers 0)

theorem still_handlerResumed : Still deps s (handlerResumed deps s k) := by
  unfold handlerResumed
  split
  · exact still_throwIfAdmissionEnded (still_runSessionHandlers _)
  · exact .refl s

theorem still_pipelineStep (event : PipelineEvent) :
    Still deps s (pipelineStep deps s k event) := by
  have hnote : ∀ index aborted, Still deps s (update s k (event.note index aborted)) := by
    intro index aborted
    refine still_update ?_
    unfold PipelineEvent.note
    split
    · rfl
    · rfl
    · split_ifs
      · rfl
      · rfl
    · rfl
  unfold pipelineStep
  split
  · split
    · exact .refl s
    · split
      · exact .refl s
      · exact (hnote _ _).trans (still_invocationReached _ _)
  · exact .refl s

theorem still_admissionObserved : Still deps s (admissionObserved s k) := by
  unfold admissionObserved
  refine still_update ?_
  rfl

theorem still_callTask : Still deps s (callTask s) := by
  unfold callTask
  split
  · exact .refl s
  · exact still_plane _

theorem still_resumeTask : Still deps s (resumeTask deps s) := by
  unfold resumeTask
  split
  · exact .refl s
  · rename_i w rest hresumes
    have hload : Still deps s (setLoad s (s.plane.toWorkload.resumeTask
        (s.managed (s.plane.work w).owner).isContextAborted)) := still_plane _
    simp only
    split_ifs
    · split
      · exact hload.trans (still_update rfl)
      · exact hload.trans still_authenticate
    · exact hload

theorem still_errorObserved : Still deps s (errorObserved deps s w) := by
  have hobserved : Still deps s (setLoad s (s.plane.toWorkload.setPhase w .finishing)) :=
    still_plane _
  unfold errorObserved
  simp only
  split
  · split_ifs
    · exact hobserved
    · exact hobserved.trans (still_handleRuntimeError _)
  · exact .refl s

theorem still_settled : Still deps s (settled s w) := by
  unfold settled
  split_ifs
  · exact still_plane _
  · exact still_plane _

theorem still_retired (now : Int) : Still deps s (retired s k now) := by
  have hset : Still deps s (update s k ({ · with retirement := .retired })) := still_update rfl
  unfold retired
  simp only
  split_ifs
  · exact hset.trans (.of_view (fun _ => rfl) rfl rfl rfl)
  · exact hset

/-! ### Pumps -/

theorem still_awaitCapacity (waiter : Waiter) : Still deps s (awaitCapacity s k waiter) :=
  still_plane _

theorem still_drainLoop : Still deps s (drainLoop s k) := by
  unfold drainLoop
  split_ifs
  · exact still_update rfl
  · have hset : Still deps s (update s k ({ · with drain := .awaitingCapacity })) :=
      still_update rfl
    exact hset.trans (still_awaitCapacity .drain)

theorem still_drainResumed : Still deps s (drainResumed deps s k) := by
  unfold drainResumed
  split_ifs
  · exact still_update rfl
  · exact still_drainLoop
  · have hplane : Still deps s { s with plane := (s.plane.drainDatagram deps.options k).2 } :=
      still_plane _
    simp only
    split
    · exact hplane.trans (still_update rfl)
    · split_ifs
      · exact (hplane.trans (still_update rfl)).trans
          (still_closeSession .resourceLimit "Handler queue limit exceeded")
      · exact hplane.trans (still_update rfl)

theorem still_endDatagramPump : Still deps s (endDatagramPump s k) := still_update rfl

theorem still_pumpFailed (error : Failure) : Still deps s (pumpFailed deps s k error) := by
  unfold pumpFailed
  split_ifs
  · exact .refl s
  · exact still_handleRuntimeError error

theorem still_datagramReadFailed (error : Failure) :
    Still deps s (datagramReadFailed deps s k error) := by
  have hset : Still deps s (update s k ({ · with datagramPump := .closing })) := still_update rfl
  exact hset.trans (still_pumpFailed error)

theorem still_datagramRead (n : Nat) (now : Int) : Still deps s (datagramRead deps s k n now) := by
  unfold datagramRead
  split_ifs
  · exact still_endDatagramPump
  · simp only
    generalize s.plane.offerDatagram deps.options k n (s.managed k).session.maxDatagramSize now =
      result
    have hplane : Still deps s { s with plane := result.2 } := still_plane _
    split
    · exact hplane
    · exact (hplane.trans (still_update rfl)).trans
        (still_closeSession .resourceLimit "Datagram queue limit exceeded")
    · unfold startDrain
      split_ifs
      · exact hplane.trans still_drainLoop
      · exact hplane

theorem still_setStreamPump (pump : StreamPump) :
    Still deps s (update s k (·.setStreamPump kind pump)) := still_update rfl

theorem still_endStreamPump (done : Bool) : Still deps s (endStreamPump s k kind done) := by
  cases kind with
  | bidirectional => exact still_update rfl
  | unidirectional => exact still_update rfl

theorem still_streamLoop : Still deps s (streamLoop s k kind) := by
  unfold streamLoop
  split_ifs
  · exact still_endStreamPump false
  · exact (still_setStreamPump .awaitingCapacity).trans (still_awaitCapacity _)

theorem still_streamResumed : Still deps s (streamResumed s k kind) := by
  unfold streamResumed
  split_ifs
  · exact still_endStreamPump false
  · exact still_streamLoop
  · exact still_setStreamPump .reading

theorem still_streamPumpFailed (error : Failure) :
    Still deps s (streamPumpFailed deps s k kind error) :=
  (still_setStreamPump .closing).trans (still_pumpFailed error)

theorem still_streamRefused (failure : Option Failure) :
    Still deps s (streamRefused deps s k kind failure) := by
  unfold streamRefused
  cases failure with
  | none => exact still_streamLoop
  | some error => exact still_streamPumpFailed error

theorem still_streamDiscarded (failure : Option Failure) :
    Still deps s (streamDiscarded deps s k kind failure) := by
  unfold streamDiscarded
  cases failure with
  | none => exact still_endStreamPump false
  | some error => exact still_streamPumpFailed error

theorem still_startPumps : Still deps s (startPumps s k) := by
  have hloop : ∀ (v : RuntimeState) (b : Bool) (kind : StreamKind),
      Still deps v (if b then streamLoop v k kind else v) := by
    intro v b kind
    cases b with
    | true => exact still_streamLoop
    | false => exact .refl v
  have hdatagrams : Still deps s
      (if (s.managed k).datagramReader then
        update s k fun m => { m with datagramPump := if m.isIntakeOver then .ended else .reading }
      else s) := by
    split_ifs
    · exact still_update rfl
    · exact .refl s
  exact (hdatagrams.trans (hloop _ _ .bidirectional)).trans (hloop _ _ .unidirectional)

theorem still_continueAdmission : Still deps s (continueAdmission s k) := by
  have hreturned : Still deps s (update s k ({ · with accept := .returned })) := still_update rfl
  have hcount : Still deps s { s with acceptedSessions := s.acceptedSessions + 1 } :=
    .of_view (fun _ => rfl) rfl rfl rfl
  unfold continueAdmission
  split
  · have hrejected : ∀ reason, Still deps s (recordRejection s reason) :=
      fun _ => .of_view (fun _ => rfl) rfl rfl rfl
    exact ((hrejected _).trans (still_update rfl)).trans
      (still_closeSession .rejected "Session rejected")
  · simp only
    split_ifs
    · exact hreturned.trans (still_finalizeSession _)
    · exact hreturned
    · exact (hcount.trans (still_update rfl)).trans still_startPumps
  · exact .refl s

end WebTransportRuntime

end NestWebTransport
