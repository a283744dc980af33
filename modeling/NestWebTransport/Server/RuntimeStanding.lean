import NestWebTransport.Server.IntakeStanding
import NestWebTransport.Server.RuntimeLifecycle

/-! What holds of the intake of every session between two steps of the runtime. -/
namespace NestWebTransport

namespace WebTransportRuntime

variable {deps : RuntimeDependencies} {s t : RuntimeState} {e : RuntimeEvent}
  {es : List RuntimeEvent} {k w j : Nat} {kind : StreamKind}

/-! ### Steps in which no pump takes part -/

theorem ends_winds (hw : Winds s) : Ends s := fun k hk => (hw.retires k hk).intakeAborted

/-- An admission that goes on starts the pumps of a session that is still open, or feeds nothing. -/
theorem quiets_continueAdmission (hw : Winds s) (hk : k < s.plane.managedCount) :
    Quiets s (continueAdmission s k) ∨
      (s.managed k).isIntakeOver = false ∧ s.lifecycle.state = .running ∧
        continueAdmission s k = startPumps (accepted s k) k := by
  have hreturned : Quiets s (update s k ({ · with accept := .returned })) := quiets_update rfl
  unfold continueAdmission
  split
  · have hrejected : ∀ reason, Quiets s (recordRejection s reason) :=
      fun _ => .of_eq (fun _ => rfl) rfl rfl
    have hclosed : ∀ u : RuntimeState, Quiets u (closeSession u k .rejected "Session rejected") :=
      fun _ => .of_eq (fun _ => rfl) rfl rfl
    exact Or.inl (((hrejected _).trans (quiets_update rfl)).trans (hclosed _))
  · simp only
    split_ifs with haborted hclosed
    · refine Or.inl (hreturned.trans (quiets_finalizeSession _ fun hfinal => ?_).1)
      rw [managed_update, if_pos rfl] at hfinal ⊢
      exact ends_winds hw k hk hfinal
    · exact Or.inl hreturned
    · obtain ⟨hintake, hrunning⟩ := not_or.mp hclosed
      refine Or.inr ⟨?_, not_not.mp hrunning, rfl⟩
      simp [ManagedSession.isIntakeOver, haborted, hintake]
  · exact Or.inl (.refl s)

theorem quiets_bootstrap : Quiets s (onApplicationBootstrap deps s) := by
  unfold onApplicationBootstrap
  split_ifs with hblocked
  · exact .refl s
  · exact .refl s
  all_goals
    simp only [Bool.or_eq_true, not_or] at hblocked
    have hstopped : s.lifecycle.state = .stopped := by simpa using hblocked.2
    exact ⟨fun _ => .refl _, fun _ => id, Or.inr (Or.inl (by rw [hstopped]; simp))⟩

/-- A driver that starts or fails feeds no intake. -/
theorem quiets_driverStarted (i : Nat) (succeeded : Bool) :
    Quiets s (driverStarted s i succeeded) := by
  have hstate : (driverStarted s i succeeded).lifecycle.state = s.lifecycle.state ∨
      s.lifecycle.state ≠ .running := by
    by_cases hcurrent : (s.startupController == some i && s.lifecycle.state == .starting) = true
    · simp only [Bool.and_eq_true, beq_iff_eq] at hcurrent
      exact Or.inr (by rw [hcurrent.2]; simp)
    · left
      cases succeeded with
      | true => simp [driverStarted, hcurrent]
      | false => simp [driverStarted, hcurrent]
  refine ⟨fun k => .of_eq ?_, ?_, ?_⟩
  · cases succeeded with
    | true => rfl
    | false => rfl
  · cases succeeded with
    | true => exact fun _ => id
    | false => exact fun _ => id
  · rcases hstate with heq | hnot
    · exact Or.inl heq
    · exact Or.inr (Or.inl hnot)

theorem quiets_admissionObserved : Quiets s (admissionObserved s k) := by
  unfold admissionObserved
  refine quiets_update ?_
  rfl

/-- Only a pump, a surfaced session or an accepted one touches an intake otherwise than quietly. -/
theorem quiets_step (h : (machine deps).Step s e t) (hw : Winds s)
    (hfits : Control.Fits s.control) (hhalted : s.lifecycle.state ≠ .running → Halted s)
    (hpump : e.pump = none) (hsurfaced : ∀ offer, e ≠ .surfaced offer)
    (haccepted : ∀ k, e ≠ .continueAdmission k) : Quiets s t := by
  obtain ⟨henabled, rfl⟩ := h
  have hsound := hw.sound
  cases e with
  | bootstrap => exact quiets_bootstrap
  | driverStarted i succeeded => exact quiets_driverStarted i succeeded
  | startCleared i => exact .of_eq (fun _ => rfl) rfl rfl
  | stop => exact quiets_stop
  | drainEnded =>
    have hphase : s.stopPhase = .draining := by simpa [enabled] using henabled
    have hdraining : s.lifecycle.state = .draining := hfits.draining hphase
    have hnot : s.lifecycle.state ≠ .running := by rw [hdraining]; simp
    exact quiets_drainEnded (hhalted hnot) hnot
  | startCancelled => exact quiets_closeSessions
  | sessionsClosed => exact .of_eq (fun _ => rfl) rfl rfl
  | driverStopped result =>
    exact quiets_driverStopped deps.options hsound (ends_winds hw) result
  | stopCleared => exact .of_eq (fun _ => rfl) rfl rfl
  | surfaced offer => exact absurd rfl (hsurfaced offer)
  | sessionAborted k reason =>
    simp only [enabled, Bool.and_eq_true, decide_eq_true_eq] at henabled
    exact quiets_sessionAborted reason (ends_winds hw k henabled.1)
  | idleTimeout k => exact .of_eq (fun _ => rfl) rfl rfl
  | handshakeTimeout k => exact quiets_handshakeTimeout
  | continueAdmission k => exact absurd rfl (haccepted k)
  | authenticateSettled k result => exact quiets_authenticateSettled result
  | pipeline k event => exact quiets_pipelineStep event
  | handlerReturned k => exact quiets_handlerResumed
  | admissionObserved k => exact quiets_admissionObserved
  | retired k now => exact quiets_retired now
  | callTask => exact quiets_callTask hsound
  | resumeTask => exact quiets_resumeTask hsound
  | taskError w error => exact quiets_handleRuntimeError error
  | runEnded w failure =>
    simp only [enabled, Bool.and_eq_true, decide_eq_true_eq] at henabled
    exact quiets_setLoad (moves_runEnded hsound henabled.1.2 failure).scheduler
  | errorObserved w => exact quiets_errorObserved
  | settled w => exact quiets_settled
  | detached w => exact quiets_setLoad rfl
  | streamAborted i => exact quiets_releaseStream i
  | datagramRead k byteLength now => cases hpump
  | datagramsDone k => cases hpump
  | datagramReadFailed k error => cases hpump
  | datagramPumpClosed k => cases hpump
  | drainResumed k => cases hpump
  | drainContinued k => cases hpump
  | streamResumed k kind => cases hpump
  | streamRead k kind aborted => cases hpump
  | streamsDone k kind => cases hpump
  | streamReadFailed k kind error => cases hpump
  | streamRefused k kind failure => cases hpump
  | streamDiscarded k kind failure => cases hpump
  | streamSubmitted k kind => cases hpump
  | streamPumpClosed k kind => cases hpump

/-! ### The pumps of one session -/

/-- The pumps of session `k` have taken a step, and whatever they closed is closed quietly. -/
structure Feeds (k : Nat) (s t : RuntimeState) : Prop where
  others : ∀ j, j ≠ k → (s.intake j).Quiet (t.intake j)
  standing : (s.intake k).Standing → (t.intake k).Standing
  intakeAborted : (s.managed k).intakeAborted = true → (t.managed k).intakeAborted = true
  outstanding : t.outstandingSessions ⊆ s.outstandingSessions
  halts : t.lifecycle.state = s.lifecycle.state ∨ s.lifecycle.state ≠ .running ∨ Halted t

theorem Quiets.feeds (h : Quiets s t) : Feeds k s t where
  others := fun j _ => h.intake j
  standing := Intake.standing_quiet (h.intake k)
  intakeAborted := (h.intake k).intakeAborted
  outstanding := h.outstanding
  halts := h.halts

/-- The pumps acted on their own session only and closed nothing. -/
theorem Feeds.of_intake (hothers : ∀ j, j ≠ k → t.intake j = s.intake j)
    (hstanding : (s.intake k).Standing → (t.intake k).Standing)
    (haborted : (t.managed k).intakeAborted = (s.managed k).intakeAborted)
    (houtstanding : t.outstandingSessions = s.outstandingSessions)
    (hstate : t.lifecycle.state = s.lifecycle.state) : Feeds k s t where
  others := fun j hj => .of_eq (hothers j hj)
  standing := hstanding
  intakeAborted := fun h => haborted.trans h
  outstanding := fun _ hj => houtstanding ▸ hj
  halts := Or.inl hstate

theorem Feeds.trans {u : RuntimeState} (h : Feeds k s t) (h' : Feeds k t u) : Feeds k s u where
  others := fun j hj => (h.others j hj).trans (h'.others j hj)
  standing := fun hs => h'.standing (h.standing hs)
  intakeAborted := fun hs => h'.intakeAborted (h.intakeAborted hs)
  outstanding := fun _ hj => h.outstanding (h'.outstanding hj)
  halts := by
    rcases h.halts with heq | hnot | hall
    · rcases h'.halts with heq' | hnot | hall
      · exact Or.inl (heq'.trans heq)
      · exact Or.inr (Or.inl (heq ▸ hnot))
      · exact Or.inr (Or.inr hall)
    · exact Or.inr (Or.inl hnot)
    · refine Or.inr (Or.inr fun j hj => ?_)
      have hall := hall j (h'.outstanding hj)
      by_cases he : j = k
      · exact he ▸ h'.intakeAborted (he ▸ hall)
      · exact (h'.others j he).intakeAborted hall

/-- A pump of session `k` goes on to another `await`. -/
theorem feeds_update {f : ManagedSession → ManagedSession}
    (hsession : (f (s.managed k)).sessionAborted = (s.managed k).sessionAborted)
    (hintake : (f (s.managed k)).intakeAborted = (s.managed k).intakeAborted)
    (hdrain : (f (s.managed k)).drain = (s.managed k).drain) : Feeds k s (update s k f) := by
  refine .of_intake (fun j hj => intake_update hj) (fun hs => ?_) ?_ rfl rfl
  · have hnew : (update s k f).intake k = { s.intake k with
        datagramPump := (f (s.managed k)).datagramPump
        streamPump := (f (s.managed k)).streamPump } := by
      simp [RuntimeState.intake, update, hsession, hintake, hdrain]
    rw [hnew]
    exact Intake.standing_pumps _ _ hs
  · rw [managed_update, if_pos rfl]
    exact hintake

theorem feeds_closeSession (closeCode : CloseCode) (reason : String) :
    Feeds k s (closeSession s k closeCode reason) :=
  Quiets.feeds (.of_eq (fun _ => rfl) rfl rfl)

theorem intake_drain (drain : DrainLoop) :
    (update s k ({ · with drain := drain })).intake k = { s.intake k with drain := drain } := by
  simp [RuntimeState.intake, update]

theorem intake_awaitCapacity (waiter : Waiter) :
    (awaitCapacity s k waiter).intake k = { s.intake k with
      scheduler := (s.intake k).scheduler.whenCapacityAvailable waiter
        (s.managed k).sessionAborted } := by
  simp [RuntimeState.intake, awaitCapacity, setScheduler, setLoad, Workload.setScheduler,
    DataPlane.queue]

theorem intake_awaitCapacity_others (waiter : Waiter) (hj : j ≠ k) :
    (awaitCapacity s k waiter).intake j = s.intake j := by
  refine intake_congr ?_ rfl rfl rfl
  simp [awaitCapacity, setScheduler, setLoad, Workload.setScheduler, hj]

theorem isEmpty_iff : (s.plane.buffer k).datagrams.isEmpty = true ↔ s.plane.queue k = [] := by
  rw [BoundedQueue.isEmpty_iff]
  rfl

theorem managed_awaitCapacity (waiter : Waiter) : (awaitCapacity s k waiter).managed = s.managed :=
    rfl

/-- The drain loop tests its condition. It has not registered, whatever it did before. -/
theorem standing_drainLoop (hnone : .drain ∉ (s.intake k).scheduler.capacityWaiters)
    (hs : Intake.Standing { s.intake k with drain := .submitted }) :
    ((drainLoop s k).intake k).Standing := by
  unfold drainLoop
  split_ifs with hend
  · rw [intake_drain]
    refine Intake.standing_idle (i := { s.intake k with drain := .submitted }) hs hnone ?_
    rcases Bool.or_eq_true_iff.mp hend with hempty | hover
    · exact Or.inr (isEmpty_iff.mp hempty)
    · exact Or.inl hover
  · rw [intake_awaitCapacity, intake_drain]
    have hawaiting : Intake.Standing { s.intake k with drain := .awaitingCapacity } :=
      { hs with
        idle := fun h => by cases h
        single := by simp [List.count_eq_zero.mpr hnone] }
    exact Intake.standing_await hawaiting (by simp [List.count_eq_zero.mpr hnone])

/-- The loop condition touches nothing but its own intake. -/
theorem drainLoop_kept :
    (∀ j, j ≠ k → (drainLoop s k).intake j = s.intake j) ∧
      ((drainLoop s k).managed k).intakeAborted = (s.managed k).intakeAborted ∧
      (drainLoop s k).outstandingSessions = s.outstandingSessions ∧
      (drainLoop s k).lifecycle = s.lifecycle := by
  unfold drainLoop
  split_ifs
  · exact ⟨fun j hj => intake_update hj, by simp [update], rfl, rfl⟩
  · refine ⟨fun j hj => ?_, by simp [managed_awaitCapacity, update], rfl, rfl⟩
    rw [intake_awaitCapacity_others _ hj, intake_update hj]

theorem feeds_drainLoop (hstanding : (s.intake k).Standing → ((drainLoop s k).intake k).Standing) :
    Feeds k s (drainLoop s k) := by
  obtain ⟨hothers, haborted, houtstanding, hlifecycle⟩ := drainLoop_kept (s := s) (k := k)
  exact .of_intake hothers hstanding haborted houtstanding (by rw [hlifecycle])

theorem hasCapacity_of_shut {scheduler : BoundedTaskScheduler Nat Waiter}
    (h : scheduler.accepting = false) : scheduler.hasCapacity = false := by
  simp [BoundedTaskScheduler.hasCapacity, h]

theorem feeds_endDatagramPump : Feeds k s (endDatagramPump s k) := feeds_update rfl rfl rfl

/-- A step of the data plane that touches the intake of session `k` alone. -/
theorem intake_plane_others {p : DataPlane} (hscheduler : p.scheduler j = s.plane.scheduler j)
    (hqueue : p.queue j = s.plane.queue j)
    (hreceived : (p.history j).received = (s.plane.history j).received) :
    ({ s with plane := p } : RuntimeState).intake j = s.intake j :=
  intake_congr hscheduler hqueue hreceived rfl

/-- A drain that has waited feeds its own session only. -/
theorem feeds_drainResumed
    (hnone : .drain ∉ (s.plane.scheduler k).capacityWaiters) :
    Feeds k s (drainResumed deps s k) := by
  unfold drainResumed
  split_ifs with hfull hclosed
  · refine .of_intake (fun j hj => intake_update hj) (fun hs => ?_) (by simp [update]) rfl rfl
    rw [intake_drain]
    refine Intake.standing_idle hs hnone (Or.inl ?_)
    rcases Bool.or_eq_true_iff.mp hclosed with haccepting | hover
    · exact Intake.isOver_iff.mpr (Or.inr (hs.closed (of_decide_eq_true haccepting)))
    · exact hover
  · exact feeds_drainLoop fun hs => standing_drainLoop hnone (Intake.standing_submitted hs hnone)
  · simp only
    have hstep := s.plane.drainDatagram_drain deps.options k
    have hothers : ∀ j, j ≠ k → ({ s with plane := (s.plane.drainDatagram deps.options k).2 } :
        RuntimeState).intake j = s.intake j := fun j hj =>
      intake_plane_others (hstep.takes.others j hj) (hstep.queue_others hj) hstep.received
    split
    · rename_i hempty
      obtain ⟨hsame, hqueue⟩ := DataPlane.drainDatagram_none hempty
      rw [hsame]
      refine .of_intake (fun j hj => intake_update hj) (fun hs => ?_) (by simp [update]) rfl rfl
      rw [intake_drain]
      exact Intake.standing_idle hs hnone (Or.inr hqueue)
    · rename_i outcome _
      have hsubmitted : Feeds k s (update { s with
          plane := (s.plane.drainDatagram deps.options k).2 } k
            ({ · with drain := .submitted })) := by
        refine .of_intake (fun j hj => (intake_update hj).trans (hothers j hj)) (fun hs => ?_)
          (by simp [update]) rfl rfl
        rw [intake_drain]
        have hopen : (s.managed k).intakeAborted = false := by
          cases haborted : (s.managed k).intakeAborted with
          | false => rfl
          | true => exact absurd (hasCapacity_of_shut (hs.shut haborted).1) hfull
        exact Intake.standing_takes (Intake.standing_submitted hs hnone) hopen hstep.takes.own
          fun h => by cases h
      split_ifs
      · exact hsubmitted.trans (feeds_closeSession .resourceLimit "Handler queue limit exceeded")
      · exact hsubmitted

/-- An open intake takes a datagram in, and a drain loop runs if one is needed. -/
theorem feeds_datagramRead (n : Nat) (now : Int) : Feeds k s (datagramRead deps s k n now) := by
  unfold datagramRead
  split_ifs with hover
  · exact feeds_endDatagramPump
  · have hopen : (s.managed k).intakeAborted = false := by
      simp only [ManagedSession.isIntakeOver, Bool.or_eq_true, not_or] at hover
      simpa using hover.2
    have hstep := s.plane.offerDatagram_offer deps.options k n (s.managed k).session.maxDatagramSize
      now
    have hkept : (∀ outcome, (s.plane.offerDatagram deps.options k n
          (s.managed k).session.maxDatagramSize now).1 = some outcome → outcome = .closeSession) →
        (s.plane.offerDatagram deps.options k n
          (s.managed k).session.maxDatagramSize now).2.queue k = s.plane.queue k :=
            DataPlane.offerDatagram_queue
    generalize s.plane.offerDatagram deps.options k n (s.managed k).session.maxDatagramSize now =
      result at hstep hkept
    obtain ⟨answer, p⟩ := result
    simp only at hstep hkept ⊢
    have hothers : ∀ j, j ≠ k → ({ s with plane := p } : RuntimeState).intake j = s.intake j :=
      fun j hj => by
        obtain ⟨hqueue, hreceived⟩ := hstep.queue_others hj
        exact intake_plane_others (by rw [hstep.load]) hqueue hreceived
    have hscheduler : (s.plane.scheduler k).Takes (p.scheduler k) := by
      rw [hstep.load]
      exact .refl _
    -- no drain loop is started: the datagram was not queued
    have hunqueued : p.queue k = s.plane.queue k → Feeds k s { s with plane := p } := fun hqueue =>
      .of_intake hothers (fun hs => Intake.standing_takes hs hopen hscheduler fun hidle => by
        rcases hs.idle hidle with hover' | hempty
        · exact absurd hover' hover
        · exact hqueue.trans hempty) rfl rfl rfl
    split
    · exact hunqueued (hkept fun _ h => by cases h)
    · have hclosing : Feeds k { s with plane := p }
          (update { s with plane := p } k ({ · with datagramPump := .closing })) :=
        feeds_update rfl rfl rfl
      exact ((hunqueued (hkept fun _ h => (Option.some.inj h).symm)).trans hclosing).trans
        (feeds_closeSession .resourceLimit "Datagram queue limit exceeded")
    · unfold startDrain
      split_ifs with hidle
      · obtain ⟨hloop, haborted, houtstanding, hlifecycle⟩ :=
          drainLoop_kept (s := { s with plane := p }) (k := k)
        refine .of_intake (fun j hj => (hloop j hj).trans (hothers j hj)) (fun hs => ?_) haborted
          houtstanding (by rw [hlifecycle])
        have hnone := hs.not_waiting (by
          rw [show (s.intake k).drain = .idle from hidle]
          simp)
        refine standing_drainLoop ?_ ?_
        · intro h
          exact hnone (hscheduler.waiters ▸ h)
        · exact Intake.standing_takes
            (Intake.standing_submitted hs hnone) hopen hscheduler fun h => by
            cases h
      · exact .of_intake hothers (fun hs => Intake.standing_takes hs hopen hscheduler fun h =>
          absurd h hidle) rfl rfl rfl

theorem feeds_pumpFailed (error : Failure) : Feeds k s (pumpFailed deps s k error) := by
  unfold pumpFailed
  split_ifs
  · exact (Quiets.refl s).feeds
  · exact (quiets_handleRuntimeError error).feeds

theorem feeds_datagramReadFailed (error : Failure) :
    Feeds k s (datagramReadFailed deps s k error) := by
  have hset : Feeds k s (update s k ({ · with datagramPump := .closing })) :=
    feeds_update rfl rfl rfl
  exact hset.trans (feeds_pumpFailed error)

theorem feeds_setStreamPump (pump : StreamPump) :
    Feeds k s (update s k (·.setStreamPump kind pump)) := feeds_update rfl rfl rfl

theorem feeds_endStreamPump (done : Bool) : Feeds k s (endStreamPump s k kind done) := by
  cases kind with
  | bidirectional => exact feeds_update rfl rfl rfl
  | unidirectional => exact feeds_update rfl rfl rfl

/-- A stream pump waits for capacity, which no drain loop does in its place. -/
theorem feeds_awaitCapacity : Feeds k s (awaitCapacity s k (.pump kind)) := by
  refine .of_intake (fun j hj => intake_awaitCapacity_others _ hj) (fun hs => ?_) rfl rfl rfl
  rw [intake_awaitCapacity]
  exact Intake.standing_await hs (by simpa using hs.single)

theorem feeds_streamLoop : Feeds k s (streamLoop s k kind) := by
  unfold streamLoop
  split_ifs
  · exact feeds_endStreamPump false
  · exact (feeds_setStreamPump .awaitingCapacity).trans feeds_awaitCapacity

theorem feeds_streamResumed : Feeds k s (streamResumed s k kind) := by
  unfold streamResumed
  split_ifs
  · exact feeds_endStreamPump false
  · exact feeds_streamLoop
  · exact feeds_setStreamPump .reading

theorem quiets_trackStream (aborted : Bool) : Quiets s (trackStream s k kind aborted) := by
  have hcount : Quiets s { s with
      stream := Function.update s.stream s.streamCount ⟨k, kind, false⟩
      streamCount := s.streamCount + 1
      activeStreams := s.activeStreams + 1 } := .of_eq (fun _ => rfl) rfl rfl
  have htracked := hcount.trans
    (quiets_update (k := k) (f := (·.addStreams kind 1)) (pumpView_addStreams _ kind 1))
  unfold trackStream
  simp only
  split_ifs
  · exact htracked.trans (quiets_releaseStream s.streamCount)
  · exact htracked

/-- A task of session `k` is submitted while its intake is open. -/
theorem feeds_submit (wkind : WorkKind) (hopen : (s.managed k).isIntakeOver = false) :
    Feeds k s { s with plane := (s.plane.submit deps.options k wkind 0).2 } := by
  obtain ⟨hbuffer, hhistory, -⟩ := s.plane.submit_buffer deps.options k wkind 0
  have hload := s.plane.submit_toWorkload deps.options k wkind 0
  have htakes : Workload.Takes k s.plane.toWorkload
      (s.plane.submit deps.options k wkind 0).2.toWorkload := by
    rw [hload]
    exact Workload.takes_submit _ k _ wkind 0
  generalize (s.plane.submit deps.options k wkind 0).2 = p at hbuffer hhistory htakes
  have hqueue : ∀ j, p.queue j = s.plane.queue j := fun j => by simp only [DataPlane.queue, hbuffer]
  refine .of_intake (fun j hj => ?_) (fun hs => ?_) rfl rfl rfl
  · exact intake_plane_others (htakes.others j hj) (hqueue j) (by rw [hhistory])
  · have hover : (s.intake k).intakeAborted = false := by
      simp only [ManagedSession.isIntakeOver, Bool.or_eq_false_iff] at hopen
      exact hopen.2
    refine Intake.standing_takes hs hover htakes.own fun hidle => ?_
    rcases hs.idle hidle with hover' | hempty
    · rw [show (s.intake k).isOver = (s.managed k).isIntakeOver from rfl, hopen] at hover'
      cases hover'
    · exact (hqueue k).trans hempty

/-- A stream that is read feeds its own session only. -/
theorem feeds_streamRead (aborted : Bool) : Feeds k s (streamRead deps s k kind aborted) := by
  unfold streamRead
  split_ifs with hover
  · exact feeds_setStreamPump .discarding
  · exact feeds_setStreamPump .refusing
  · have htrack : Quiets s (trackStream s k kind aborted) := quiets_trackStream aborted
    have hpumps : Pumping deps.options k s (trackStream s k kind aborted) :=
      pumping_trackStream aborted
    have hopen : ((trackStream s k kind aborted).managed k).isIntakeOver = false := by
      rw [hpumps.pumps.isIntakeOver]
      simpa using hover
    have hsubmit : Feeds k s { trackStream s k kind aborted with
        plane := ((trackStream s k kind aborted).plane.submit deps.options k
          (.stream s.streamCount) 0).2 } := htrack.feeds.trans (feeds_submit _ hopen)
    have hset : Feeds k s (update { trackStream s k kind aborted with
        plane := ((trackStream s k kind aborted).plane.submit deps.options k
          (.stream s.streamCount) 0).2 } k (·.setStreamPump kind .submitted)) :=
      hsubmit.trans (feeds_setStreamPump .submitted)
    simp only
    split_ifs
    · exact hset.trans (feeds_closeSession .resourceLimit "Handler queue limit exceeded")
    · exact hset

theorem feeds_streamPumpFailed (error : Failure) :
    Feeds k s (streamPumpFailed deps s k kind error) :=
  (feeds_setStreamPump .closing).trans (feeds_pumpFailed error)

theorem feeds_streamRefused (failure : Option Failure) :
    Feeds k s (streamRefused deps s k kind failure) := by
  unfold streamRefused
  cases failure with
  | none => exact feeds_streamLoop
  | some error => exact feeds_streamPumpFailed error

theorem feeds_streamDiscarded (failure : Option Failure) :
    Feeds k s (streamDiscarded deps s k kind failure) := by
  unfold streamDiscarded
  cases failure with
  | none => exact feeds_endStreamPump false
  | some error => exact feeds_streamPumpFailed error

theorem feeds_startPumps : Feeds k s (startPumps s k) := by
  have hloop : ∀ (u : RuntimeState) (b : Bool) (kind : StreamKind),
      Feeds k u (if b then streamLoop u k kind else u) := by
    intro u b kind
    cases b with
    | true => exact feeds_streamLoop
    | false => exact (Quiets.refl u).feeds
  have hdatagrams : Feeds k s
      (if (s.managed k).datagramReader then
        update s k fun m => { m with datagramPump := if m.isIntakeOver then .ended else .reading }
      else s) := by
    split_ifs
    · exact feeds_update rfl rfl rfl
    · exact (Quiets.refl s).feeds
  exact (hdatagrams.trans (hloop _ _ .bidirectional)).trans (hloop _ _ .unidirectional)

/-- What a step of the pumps of session `k` does. -/
theorem feeds_step (h : (machine deps).Step s e t) (hpump : e.pump = some k) : Feeds k s t := by
  obtain ⟨henabled, rfl⟩ := h
  cases e <;> cases hpump
  case datagramRead n now => exact feeds_datagramRead n now
  case datagramsDone => exact feeds_endDatagramPump
  case datagramReadFailed error => exact feeds_datagramReadFailed error
  case datagramPumpClosed => exact feeds_endDatagramPump
  case drainResumed =>
    simp only [enabled, Bool.and_eq_true, decide_eq_true_eq] at henabled
    exact feeds_drainResumed (by simpa using henabled.2)
  case drainContinued =>
    simp only [enabled, Bool.and_eq_true, decide_eq_true_eq] at henabled
    refine feeds_drainLoop fun hs => ?_
    have hnone := hs.not_waiting (by
      rw [show (s.intake k).drain = .submitted from henabled.2]
      simp)
    exact standing_drainLoop hnone (Intake.standing_submitted hs hnone)
  case streamResumed kind => exact feeds_streamResumed
  case streamRead kind aborted => exact feeds_streamRead aborted
  case streamsDone kind => exact feeds_endStreamPump true
  case streamReadFailed kind error => exact feeds_streamPumpFailed error
  case streamRefused kind failure => exact feeds_streamRefused failure
  case streamDiscarded kind failure => exact feeds_streamDiscarded failure
  case streamSubmitted kind => exact feeds_streamLoop
  case streamPumpClosed kind => exact feeds_endStreamPump false

/-! ### Between two steps -/

theorem Feeds.halted (h : Feeds k s t) (hs : Halted s) : Halted t := by
  intro j hj
  have haborted := hs j (h.outstanding hj)
  by_cases he : j = k
  · exact he ▸ h.intakeAborted (he ▸ haborted)
  · exact (h.others j he).intakeAborted haborted

structure Stands (s : RuntimeState) : Prop where
  winds : Winds s
  fits : Control.Fits s.control
  halted : s.lifecycle.state ≠ .running → Halted s
  standing : ∀ k, (s.intake k).Standing

/-- A step feeds one session at most, or admits one. -/
theorem feeds_or_admitted (h : (machine deps).Step s e t) (hs : Stands s) :
    (∃ k, Feeds k s t) ∨ s.lifecycle.state = .running ∧ Admitted deps.options s t := by
  cases hpump : e.pump with
  | some k => exact Or.inl ⟨k, feeds_step h hpump⟩
  | none =>
    by_cases hsurfaced : ∃ offer, e = .surfaced offer
    · obtain ⟨offer, rfl⟩ := hsurfaced
      obtain ⟨-, rfl⟩ := h
      rcases surfaced_cases deps s offer with hquiet | hadmitted
      · exact Or.inl ⟨0, hquiet.feeds⟩
      · exact Or.inr hadmitted
    · by_cases haccepted : ∃ k, e = .continueAdmission k
      · obtain ⟨k, rfl⟩ := haccepted
        obtain ⟨henabled, rfl⟩ := h
        simp only [enabled, Bool.and_eq_true, decide_eq_true_eq] at henabled
        rcases quiets_continueAdmission hs.winds henabled.1 with hquiet | ⟨-, -, heq⟩
        · exact Or.inl ⟨k, hquiet.feeds⟩
        · refine Or.inl ⟨k, ?_⟩
          have haccept : Quiets s (accepted s k) := by
            have hcount : Quiets s { s with acceptedSessions := s.acceptedSessions + 1 } :=
              .of_eq (fun _ => rfl) rfl rfl
            exact hcount.trans (quiets_update rfl)
          simp only [next, heq]
          exact haccept.feeds.trans feeds_startPumps
      · have hquiet := quiets_step h hs.winds hs.fits hs.halted hpump
          (fun offer he => hsurfaced ⟨offer, he⟩) fun k he => haccepted ⟨k, he⟩
        exact Or.inl ⟨0, hquiet.feeds⟩

/-- Each step keeps every intake standing, and the server halted where it does not run. -/
theorem stands_step (h : (machine deps).Step s e t) (hs : Stands s) : Stands t := by
  refine ⟨winds_step h hs.winds, Control.fits_moves (moves_of_step h) hs.fits, ?_, ?_⟩
  · intro hnot
    rcases feeds_or_admitted h hs with ⟨k, hfeeds⟩ | ⟨hrunning, hadmitted⟩
    · rcases hfeeds.halts with heq | hother | hall
      · exact hfeeds.halted (hs.halted (heq ▸ hnot))
      · exact hfeeds.halted (hs.halted hother)
      · exact hall
    · exact absurd (hadmitted.state.trans hrunning) hnot
  · intro j
    rcases feeds_or_admitted h hs with ⟨k, hfeeds⟩ | ⟨-, hadmitted⟩
    · by_cases hj : j = k
      · exact hj ▸ hfeeds.standing (hj ▸ hs.standing j)
      · exact Intake.standing_quiet (hfeeds.others j hj) (hs.standing j)
    · by_cases hj : j = s.plane.managedCount
      · exact hj ▸ Intake.standing_quiet hadmitted.fresh (Intake.standing_new deps.options)
      · exact Intake.standing_quiet (hadmitted.old j hj) (hs.standing j)

theorem stands_new (deps : RuntimeDependencies) : Stands (new deps) where
  winds := winds_new deps
  fits := fits_new deps
  halted := fun _ k hk => by cases hk
  standing := fun k =>
    { shut := fun h => by cases h
      closed := fun h => by cases h
      ended := fun h => by cases h
      alert := fun h => absurd rfl h
      idle := fun _ => Or.inr rfl
      single := Nat.zero_le _ }

/-- Every run keeps the intakes standing. -/
theorem stands_run (h : (machine deps).Run (new deps) es s) : Stands s :=
  h.invariant (fun _ _ _ => stands_step) (stands_new deps)

end WebTransportRuntime

end NestWebTransport
