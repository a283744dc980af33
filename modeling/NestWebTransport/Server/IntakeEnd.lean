import NestWebTransport.Server.DrainLoop
import NestWebTransport.Server.StreamTracking

/-! Once its intake has ended, nothing more is taken in for a session. -/
namespace NestWebTransport.WebTransportRuntime

variable {deps : RuntimeDependencies} {s t : RuntimeState} {e : RuntimeEvent}
  {es : List RuntimeEvent} {k w i : Nat} {kind : StreamKind} {aborted : Bool}

/-- A session is entered only into a running server. -/
theorem sessions_subset (hs : Sound s) (h : (machine deps).Step s e t)
    (hstate : s.lifecycle.state ≠ .running) : t.sessions ⊆ s.sessions := by
  cases turn_of_step hs h with
  | closing h => exact h.sessions.subset
  | refused hrecords h => exact fun _ hx => h.sessions ▸ hx
  | opened hchecks hopen hrecords h =>
    have hrunning : s.lifecycle.state = .running := by
      simpa [Lifecycle.acceptingSessions] using hchecks.accepting
    exact absurd hrunning hstate
  | admitting hk hadmits h hwork =>
    have hkept : t.sessions = s.sessions := by rw [h.state]
    exact fun _ hx => hkept ▸ hx
  | observed hk hadmission hsettled => exact fun _ hx => hx
  | returned hk hrace h => exact h.sessions.subset
  | accepted hk hrace hopen hrunning h =>
    have hkept : t.sessions = s.sessions := by
      rw [h.state]
      rfl
    exact fun _ hx => hkept ▸ hx
  | retired hk hready =>
    unfold retired
    simp only
    split_ifs
    · exact fun _ hx => hx
    · exact fun _ hx => hx
  | detached hw hp => exact fun _ hx => hx
  | ended hw hp hover => exact fun _ hx => hx
  | pumping hk hactive h =>
    obtain ⟨u, hpump, hease⟩ := h
    exact fun _ hx => (hease.sessions.trans hpump.sessions) ▸ hx

theorem isIntakeOver_of_aborted (h : (s.managed k).intakeAborted = true) :
    (s.managed k).isIntakeOver = true := by
  simp [ManagedSession.isIntakeOver, h]

/-! ### The pumps after the end of the intake -/

/-- The step leaves the data plane and the tracked streams as they were. -/
def TakesNothing (s t : RuntimeState) : Prop :=
  t.plane = s.plane ∧ t.stream = s.stream ∧ t.streamCount = s.streamCount

theorem takesNothing_pumpFailed (hover : (s.managed k).isIntakeOver = true) (error : Failure) :
    TakesNothing s (pumpFailed deps s k error) := by
  unfold pumpFailed
  rw [if_pos hover]
  exact ⟨rfl, rfl, rfl⟩

theorem takesNothing_streamLoop (hover : (s.managed k).isIntakeOver = true) :
    TakesNothing s (streamLoop s k kind) := by
  unfold streamLoop
  rw [if_pos hover]
  exact ⟨rfl, rfl, rfl⟩

theorem takesNothing_drainLoop (hover : (s.managed k).isIntakeOver = true) :
    TakesNothing s (drainLoop s k) := by
  unfold drainLoop
  rw [if_pos (by simp [hover])]
  exact ⟨rfl, rfl, rfl⟩

theorem takesNothing_streamPumpFailed (hover : (s.managed k).isIntakeOver = true)
    (error : Failure) :
    TakesNothing s (streamPumpFailed deps s k kind error) := by
  have hkept : ((update s k (·.setStreamPump kind .closing)).managed k).isIntakeOver = true := by
    rw [managed_update, if_pos rfl]
    exact hover
  exact takesNothing_pumpFailed hkept error

/-- The pumps and the drain loop of a session whose intake has ended take nothing in. -/
theorem takesNothing_step (h : (machine deps).Step s e t) (hpump : e.pump = some k)
    (hover : (s.managed k).isIntakeOver = true)
    (hfull : (s.plane.scheduler k).hasCapacity = false) :
    TakesNothing s t := by
  obtain ⟨-, rfl⟩ := h
  have hdrain : ∀ d, TakesNothing s (update s k ({ · with drain := d })) := fun _ => ⟨rfl, rfl, rfl⟩
  have hended : TakesNothing s (endDatagramPump s k) := ⟨rfl, rfl, rfl⟩
  have hstream : ∀ kind done, TakesNothing s (endStreamPump s k kind done) :=
    fun _ _ => ⟨rfl, rfl, rfl⟩
  cases e <;> cases hpump
  case datagramRead n now =>
    simp only [next, datagramRead, hover, if_true]
    exact hended
  case datagramsDone => exact hended
  case datagramReadFailed error =>
    have hkept : ((update s k ({ · with datagramPump := .closing })).managed k).isIntakeOver =
        true := by
      rw [managed_update, if_pos rfl]
      exact hover
    exact takesNothing_pumpFailed hkept error
  case datagramPumpClosed => exact hended
  case drainResumed =>
    simp only [next, drainResumed, hfull, hover, Bool.or_true, if_true]
    exact hdrain .idle
  case drainContinued => exact takesNothing_drainLoop hover
  case streamResumed kind =>
    simp only [next, streamResumed, hfull, hover, Bool.or_true, if_true]
    exact hstream kind false
  case streamRead kind aborted =>
    simp only [next, streamRead, hover, if_true]
    exact ⟨rfl, rfl, rfl⟩
  case streamsDone kind => exact hstream kind true
  case streamReadFailed kind error => exact takesNothing_streamPumpFailed hover error
  case streamRefused kind failure =>
    cases failure with
    | none => exact takesNothing_streamLoop hover
    | some error => exact takesNothing_streamPumpFailed hover error
  case streamDiscarded kind failure =>
    cases failure with
    | none => exact hstream kind false
    | some error => exact takesNothing_streamPumpFailed hover error
  case streamSubmitted kind => exact takesNothing_streamLoop hover
  case streamPumpClosed kind => exact hstream kind false

/-- A stream read after the end of the intake is not dispatched: its reset or stop is awaited. -/
theorem streamRead_discarding (hover : (s.managed k).isIntakeOver = true)
    (h : (machine deps).Step s (.streamRead k kind aborted) t) :
    (t.managed k).streamPump kind = .discarding := by
  obtain ⟨-, rfl⟩ := h
  simp only [next, streamRead, hover, if_true]
  rw [managed_update, if_pos rfl]
  exact Function.update_self ..

/-! ### Every step after the end of the intake -/

/-- Only its own pumps feed a session whose intake is over. -/
theorem quiet_elsewhere (h : (machine deps).Step s e t) (hs : Stands s)
    (hk : k < s.plane.managedCount) (hover : (s.managed k).isIntakeOver = true)
    (hpump : e.pump ≠ some k) : (s.intake k).Quiet (t.intake k) := by
  cases hof : e.pump with
  | some j =>
    refine (feeds_step h hof).others k ?_
    rintro rfl
    exact hpump hof
  | none =>
    by_cases hsurfaced : ∃ offer, e = .surfaced offer
    · obtain ⟨offer, rfl⟩ := hsurfaced
      obtain ⟨-, rfl⟩ := h
      rcases surfaced_cases deps s offer with hquiet | ⟨-, hadmitted⟩
      · exact hquiet.intake k
      · exact hadmitted.old k (Nat.ne_of_lt hk)
    · by_cases haccepted : ∃ j, e = .continueAdmission j
      · obtain ⟨j, rfl⟩ := haccepted
        obtain ⟨henabled, rfl⟩ := h
        simp only [enabled, Bool.and_eq_true, decide_eq_true_eq] at henabled
        rcases quiets_continueAdmission hs.winds henabled.1 with hquiet | ⟨hopen, -, heq⟩
        · exact hquiet.intake k
        · have hne : k ≠ j := by
            rintro rfl
            rw [hopen] at hover
            cases hover
          simp only [next, heq]
          have hmark : (accepted s j).intake k = s.intake k :=
            intake_congr rfl rfl rfl (update_field pumpView rfl k)
          rw [← hmark]
          exact feeds_startPumps.others k hne
      · exact (quiets_step h hs.winds hs.fits hs.halted hof
          (fun offer he => hsurfaced ⟨offer, he⟩) fun j he => haccepted ⟨j, he⟩).intake k

/-- Work that a step adds for a managed session was submitted by its own pumps. -/
theorem fresh_pump (h : (machine deps).Step s e t) (hs : Sound s) (hk : k < s.plane.managedCount)
    (hpump : e.pump ≠ some k) (hle : s.plane.workCount ≤ w) (hlt : w < t.plane.workCount) :
    (t.plane.work w).owner ≠ k := by
  cases hof : e.pump with
  | some j =>
    obtain ⟨u, hpumping, hease⟩ := faltering_step hs h hof
    obtain ⟨howner, -⟩ := (hease.steady.contents w).fields
    obtain ⟨hnew, -⟩ := hpumping.fresh w hle (hlt.trans_eq hease.steady.workCount)
    rw [howner, hnew]
    rintro rfl
    exact hpump hof
  | none =>
    by_cases hsurfaced : ∃ offer, e = .surfaced offer
    · obtain ⟨offer, rfl⟩ := hsurfaced
      obtain ⟨-, rfl⟩ := h
      change ((acceptSession deps s offer).plane.work w).owner ≠ k
      change w < (acceptSession deps s offer).plane.workCount at hlt
      rcases surfaced_opens hs with ⟨records, -, h⟩ | ⟨readers, u, -, hopen, -, h⟩
      · have hsame : (acceptSession deps s offer).plane.workCount = s.plane.workCount :=
          h.steady.workCount
        omega
      · obtain ⟨howner, -⟩ := (h.steady.contents w).fields
        obtain ⟨hnew, -⟩ := hopen.fresh w hle (hlt.trans_eq h.steady.workCount)
        rw [howner, hnew]
        omega
    · have hsame := (settles_step hs h hof fun offer he => hsurfaced ⟨offer, he⟩).workCount
      omega

/-- A stream that a step tracks was read by the pump of its session. -/
theorem tracked_pump (h : (machine deps).Step s e t) (hs : StreamsKept deps s)
    (hle : s.streamCount ≤ i) (hlt : i < t.streamCount) : e.pump = some (t.stream i).owner := by
  cases streamTurn_of_step h with
  | still h =>
    rw [h.streamCount] at hlt
    omega
  | welcomes h =>
    rw [h.streamCount] at hlt
    omega
  | tracks hk h =>
    rw [h.streamCount] at hlt
    obtain rfl : i = s.streamCount := by omega
    rw [h.new.1]
    rfl
  | aborts h =>
    rw [(h hs.ledger).streamCount] at hlt
    omega
  | releases hj =>
    rw [releaseStream_streamCount] at hlt
    omega

/-- What a step leaves alone for session `k` once its intake has ended. -/
structure IntakeEnded (k : Nat) (s : RuntimeState) (e : RuntimeEvent) (t : RuntimeState) :
    Prop where
  aborted : (t.managed k).intakeAborted = true
  queue : t.plane.queue k = []
  received : (t.plane.history k).received = (s.plane.history k).received
  work : ∀ w, s.plane.workCount ≤ w → w < t.plane.workCount → (t.plane.work w).owner ≠ k
  streams : ∀ i, s.streamCount ≤ i → i < t.streamCount → (t.stream i).owner ≠ k
  pumps : e.pump = some k → TakesNothing s t
  discards : ∀ kind aborted, e = .streamRead k kind aborted →
    (t.managed k).streamPump kind = .discarding

/-- Once the intake of a session has ended, no step reads or submits anything for it. -/
theorem intakeEnded_step (h : (machine deps).Step s e t) (hs : Stands s)
    (hkept : StreamsKept deps s)
    (hk : k < s.plane.managedCount) (hended : (s.managed k).intakeAborted = true) :
    IntakeEnded k s e t := by
  have hover := isIntakeOver_of_aborted hended
  have hfull := hasCapacity_of_shut ((hs.standing k).shut hended).1
  have hstands : Stands t := stands_step h hs
  by_cases hpump : e.pump = some k
  · have hnothing := takesNothing_step h hpump hover hfull
    obtain ⟨hplane, hstream, hcount⟩ := hnothing
    have haborted := (feeds_step h hpump).intakeAborted hended
    refine ⟨haborted, ((hstands.standing k).shut haborted).2, by rw [hplane], fun w hle hlt => ?_,
      fun i hle hlt => ?_, fun _ => ⟨hplane, hstream, hcount⟩, ?_⟩
    · rw [hplane] at hlt
      omega
    · rw [hcount] at hlt
      omega
    · rintro kind aborted rfl
      exact streamRead_discarding hover h
  · have hquiet := quiet_elsewhere h hs hk hover hpump
    have haborted := hquiet.intakeAborted hended
    refine ⟨haborted, ((hstands.standing k).shut haborted).2, hquiet.received,
      fun w => fresh_pump h hs.winds.sound hk hpump, fun i hle hlt howner => ?_,
      fun he => absurd he hpump, ?_⟩
    · exact hpump (howner ▸ tracked_pump h hkept hle hlt)
    · rintro kind aborted rfl
      exact absurd rfl hpump

/-- Whenever the server is not running, the intake of every session it still holds has ended and no
session enters; and once an intake has ended nothing more is taken in for its session. -/
theorem intakeEnd_run (h : (machine deps).Run (new deps) es s) :
    (s.lifecycle.state ≠ .running →
      (∀ k ∈ s.outstandingSessions, (s.managed k).intakeAborted = true ∧
        (s.plane.scheduler k).accepting = false ∧ s.plane.queue k = []) ∧
      ∀ e t, (machine deps).Step s e t → t.sessions ⊆ s.sessions) ∧
    ∀ k < s.plane.managedCount, (s.managed k).intakeAborted = true →
      ∀ e t, (machine deps).Step s e t → IntakeEnded k s e t := by
  have hs : Stands s := stands_run h
  refine ⟨fun hstate => ⟨fun k hk => ?_, fun e t hst =>
    sessions_subset hs.winds.sound hst hstate⟩, fun k hk hended e t hst =>
    intakeEnded_step hst hs (streamsKept_run h) hk hended⟩
  have haborted := hs.halted hstate k hk
  exact ⟨haborted, (hs.standing k).shut haborted⟩

/-- Both pumps of session `0` read when the server stops; a stream that arrives is discarded. -/
theorem intakeEnd_run_small :
    ∃ s t, (machine streamServer).Run (new streamServer)
        (smallAdmission ++ [.streamResumed 0 .bidirectional, .stop]) s ∧
      s.outstandingSessions = [0] ∧ (s.plane.scheduler 0).accepting = false ∧
      (machine streamServer).Step s (.streamRead 0 .bidirectional false) t ∧
      (t.managed 0).streamPump .bidirectional = .discarding := by
  obtain ⟨s, hrun, hstate, hk, hended, hheld, henabled⟩ := exists_run streamServer
    (new streamServer) (smallAdmission ++ [.streamResumed 0 .bidirectional, .stop])
    (fun s => s.lifecycle.state ≠ .running ∧ 0 < s.plane.managedCount ∧
      (s.managed 0).intakeAborted = true ∧ s.outstandingSessions = [0] ∧
      enabled streamServer s (.streamRead 0 .bidirectional false) = true) (by decide)
  obtain ⟨hhalted, hover⟩ := intakeEnd_run hrun
  have hshut := (hhalted hstate).1 0 (by simp [hheld])
  exact ⟨s, _, hrun, hheld, hshut.2.1, ⟨henabled, rfl⟩,
    (hover 0 hk hended _ _ ⟨henabled, rfl⟩).discards .bidirectional false rfl⟩

end NestWebTransport.WebTransportRuntime
