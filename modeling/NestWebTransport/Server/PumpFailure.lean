import NestWebTransport.Server.AdmissionGate
import NestWebTransport.Server.IntakeEnd

/-! What ends the stream pumps of a session. -/
namespace NestWebTransport

/-- `handleRuntimeError` answers such an error by closing the session or stopping the server. -/
def Failure.closes (error : Failure) : Prop :=
  error.scope = some .session ∨ error.scope = some .server ∨ error.scope = some .fatal
  deriving Decidable

/-- The error in an event that makes a stream pump of session `k` fail. -/
def RuntimeEvent.pumpFailure (k : Nat) : RuntimeEvent → Option Failure
  | .streamReadFailed j _ error => if j = k then some error else none
  | .streamRefused j _ failure => if j = k then failure else none
  | _ => none

namespace WebTransportRuntime

variable {deps : RuntimeDependencies} {s t u : RuntimeState} {e : RuntimeEvent}
  {es pre : List RuntimeEvent} {k j calls : Nat} {kind kind' : StreamKind}

/-! ### What has been initiated stays so -/

/-- Session `k` takes nothing in any more, or it was asked to close, or `stop` was called since
there were `calls` calls of it. -/
def Excused (calls k : Nat) (s : RuntimeState) : Prop :=
  (s.managed k).isIntakeOver = true ∨ (∃ call ∈ s.closeCalls, call.managed = some k) ∨
    calls < s.stopCalls

/-- The end of intakes, close calls and stop calls are never taken back. -/
structure Insists (s t : RuntimeState) : Prop where
  intake : ∀ k < s.plane.managedCount, (s.managed k).isIntakeOver = true →
    (t.managed k).isIntakeOver = true
  closeCalls : s.closeCalls <+: t.closeCalls
  stopCalls : s.stopCalls ≤ t.stopCalls

theorem Excused.insists (hs : Excused calls k s) (h : Insists s t) (hk : k < s.plane.managedCount) :
    Excused calls k t := by
  rcases hs with hover | ⟨call, hcall, hof⟩ | hstop
  · exact Or.inl (h.intake k hk hover)
  · exact Or.inr (Or.inl ⟨call, h.closeCalls.subset hcall, hof⟩)
  · exact Or.inr (Or.inr (hstop.trans_le h.stopCalls))

/-- The calls of `close` only grow, and so does the number of calls of `stop`. -/
theorem closeCalls_step (hs : Sound s) (h : (machine deps).Step s e t) :
    s.closeCalls <+: t.closeCalls ∧ s.stopCalls ≤ t.stopCalls := by
  cases turn_of_step hs h with
  | closing h => exact ⟨h.closeCalls, h.stopCalls⟩
  | refused hrecords h => exact ⟨h.closeCalls, h.stopCalls⟩
  | opened hchecks hopen hrecords h =>
    exact ⟨hopen.closeCalls ▸ h.closeCalls, hopen.stopCalls ▸ h.stopCalls⟩
  | admitting hk hadmits h hwork =>
    rw [h.state]
    exact ⟨List.prefix_refl _, Nat.le_refl _⟩
  | observed hk hadmission hsettled => exact ⟨List.prefix_refl _, Nat.le_refl _⟩
  | returned hk hrace h => exact ⟨h.closeCalls, h.stopCalls⟩
  | accepted hk hrace hopen hrunning h =>
    rw [h.state]
    exact ⟨List.prefix_refl _, Nat.le_refl _⟩
  | retired hk hready =>
    unfold retired
    simp only
    split_ifs
    · exact ⟨List.prefix_refl _, Nat.le_refl _⟩
    · exact ⟨List.prefix_refl _, Nat.le_refl _⟩
  | detached hw hp => exact ⟨List.prefix_refl _, Nat.le_refl _⟩
  | ended hw hp hover => exact ⟨List.prefix_refl _, Nat.le_refl _⟩
  | pumping hk hactive h =>
    obtain ⟨v, hpump, hease⟩ := h
    exact ⟨hpump.closeCalls.trans hease.closeCalls, hpump.stopCalls ▸ hease.stopCalls⟩

/-- No step takes back the end of an intake, a call of `close` or a call of `stop`. -/
theorem insists_step (hs : Sound s) (h : (machine deps).Step s e t) : Insists s t := by
  obtain ⟨hclose, hstop⟩ := closeCalls_step hs h
  exact ⟨fun k hk => isIntakeOver_ages ((turn_of_step hs h).ages hk), hclose, hstop⟩

/-! ### Where a stream pump may be -/

/-- A stream pump that closes, or that ended although its collection did not, has its excuse. -/
def Faces (calls k : Nat) (s : RuntimeState) (pump : StreamPump) : Prop :=
  match pump with
  | .closing | .ended false => Excused calls k s
  | .discarding => (s.managed k).isIntakeOver = true
  | _ => True

theorem Faces.insists {pump : StreamPump} (hs : Faces calls k s pump) (h : Insists s t)
    (hk : k < s.plane.managedCount) : Faces calls k t pump := by
  cases pump with
  | closing => exact Excused.insists hs h hk
  | discarding => exact h.intake k hk hs
  | ended done =>
    cases done with
    | false => exact Excused.insists hs h hk
    | true => trivial
  | _ => trivial

/-- Each stream pump of session `k` is where it may be. -/
def Faced (calls k : Nat) (s : RuntimeState) : Prop :=
  ∀ kind, Faces calls k s ((s.managed k).streamPump kind)

/-- The stream pumps of session `k` are where they were. -/
def PumpsKept (k : Nat) (s t : RuntimeState) : Prop :=
  (t.managed k).streamPump = (s.managed k).streamPump

theorem PumpsKept.trans (h : PumpsKept k s t) (h' : PumpsKept k t u) : PumpsKept k s u :=
  Eq.trans h' h

theorem Quiets.pumpsKept (h : Quiets s t) : PumpsKept k s t := (h.intake k).streamPump

theorem pumpsKept_update {f : ManagedSession → ManagedSession}
    (h : (f (s.managed j)).streamPump = (s.managed j).streamPump) : PumpsKept k s (update s j f) :=
  update_field ManagedSession.streamPump h k

theorem Faced.kept (hs : Faced calls k s) (h : Insists s t) (hk : k < s.plane.managedCount)
    (hkept : PumpsKept k s t) : Faced calls k t := by
  intro kind
  rw [show (t.managed k).streamPump = _ from hkept]
  exact (hs kind).insists h hk

/-- One pump of session `k` goes on to `pump`. -/
def Shifts (k : Nat) (kind : StreamKind) (pump : StreamPump) (s t : RuntimeState) : Prop :=
  (t.managed k).streamPump = Function.update (s.managed k).streamPump kind pump

theorem Faced.shifts {pump : StreamPump} (hs : Faced calls k s) (h : Insists s t)
    (hk : k < s.plane.managedCount) (hshift : Shifts k kind pump s t)
    (hpump : Faces calls k t pump) : Faced calls k t := by
  intro other
  rw [show (t.managed k).streamPump = _ from hshift]
  by_cases hother : other = kind
  · subst hother
    rw [Function.update_self]
    exact hpump
  · rw [Function.update_of_ne hother]
    exact (hs other).insists h hk

/-! ### The datagrams of the session -/

theorem quiets_pumpFailed (error : Failure) : Quiets s (pumpFailed deps s j error) := by
  unfold pumpFailed
  split_ifs
  · exact .refl s
  · exact quiets_handleRuntimeError error

theorem pumpsKept_endDatagramPump : PumpsKept k s (endDatagramPump s j) := pumpsKept_update rfl

theorem pumpsKept_drainLoop : PumpsKept k s (drainLoop s j) := by
  unfold drainLoop
  split_ifs
  · exact pumpsKept_update rfl
  · have hset : PumpsKept k s (update s j ({ · with drain := .awaitingCapacity })) :=
      pumpsKept_update rfl
    exact hset

theorem pumpsKept_drainResumed : PumpsKept k s (drainResumed deps s j) := by
  unfold drainResumed
  split_ifs
  · exact pumpsKept_update rfl
  · exact pumpsKept_drainLoop
  · have hset : ∀ drain, PumpsKept k s (update
        { s with plane := (s.plane.drainDatagram deps.options j).2 } j
        ({ · with drain := drain })) := fun _ => by
      refine PumpsKept.trans (t := { s with plane := (s.plane.drainDatagram deps.options j).2 })
        rfl (pumpsKept_update rfl)
    simp only
    split
    · exact hset .idle
    · split_ifs
      · exact hset .submitted
      · exact hset .submitted

theorem pumpsKept_datagramRead (n : Nat) (now : Int) :
    PumpsKept k s (datagramRead deps s j n now) := by
  have hplane : ∀ p, PumpsKept k s { s with plane := p } := fun _ => rfl
  unfold datagramRead
  split_ifs
  · exact pumpsKept_update rfl
  · simp only
    split
    · exact hplane _
    · have hclosing : ∀ u : RuntimeState,
          PumpsKept k u (update u j ({ · with datagramPump := .closing })) :=
        fun _ => pumpsKept_update rfl
      exact (hplane _).trans (hclosing _)
    · unfold startDrain
      split_ifs
      · exact (hplane _).trans pumpsKept_drainLoop
      · exact hplane _

theorem pumpsKept_datagramReadFailed (error : Failure) :
    PumpsKept k s (datagramReadFailed deps s j error) := by
  have hset : PumpsKept k s (update s j ({ · with datagramPump := .closing })) :=
    pumpsKept_update rfl
  exact hset.trans (quiets_pumpFailed error).pumpsKept

/-! ### The streams of the session -/

theorem shifts_setStreamPump (pump : StreamPump) :
    Shifts k kind pump s (update s k (·.setStreamPump kind pump)) := by
  unfold Shifts
  rw [managed_update, if_pos rfl]
  rfl

theorem shifts_endStreamPump (done : Bool) :
    Shifts k kind (.ended done) s (endStreamPump s k kind done) := by
  unfold Shifts endStreamPump
  rw [managed_update, if_pos rfl]
  cases kind with
  | bidirectional => rfl
  | unidirectional => rfl

theorem Shifts.kept {pump : StreamPump} (h : Shifts k kind pump s t) (h' : PumpsKept k t u) :
    Shifts k kind pump s u := Eq.trans h' h

theorem faced_streamLoop (hs : Faced calls k s) (h : Insists s (streamLoop s k kind))
    (hk : k < s.plane.managedCount) : Faced calls k (streamLoop s k kind) := by
  by_cases hover : (s.managed k).isIntakeOver = true
  · have hended : streamLoop s k kind = endStreamPump s k kind false := if_pos hover
    rw [hended] at h ⊢
    exact hs.shifts h hk (shifts_endStreamPump false) (Or.inl (h.intake k hk hover))
  · have hwaits : streamLoop s k kind =
        awaitCapacity (update s k (·.setStreamPump kind .awaitingCapacity)) k (.pump kind) :=
      if_neg hover
    rw [hwaits] at h ⊢
    exact hs.shifts h hk (shifts_setStreamPump .awaitingCapacity) trivial

/-- A scheduler that accepts no more tasks belongs to an intake that has ended. -/
theorem Stands.isIntakeOver (hs : Stands s) (h : (s.plane.scheduler k).accepting = false) :
    (s.managed k).isIntakeOver = true :=
  isIntakeOver_of_aborted ((hs.standing k).closed h)

theorem faced_streamResumed (hstands : Stands s) (hs : Faced calls k s)
    (h : Insists s (streamResumed s k kind)) (hk : k < s.plane.managedCount) :
    Faced calls k (streamResumed s k kind) := by
  unfold streamResumed at h ⊢
  split_ifs at h ⊢ with hfull hclosed
  · refine hs.shifts h hk (shifts_endStreamPump false) (Or.inl (h.intake k hk ?_))
    rcases Bool.or_eq_true_iff.mp hclosed with hshut | hover
    · exact hstands.isIntakeOver (by simpa using hshut)
    · exact hover
  · exact faced_streamLoop hs h hk
  · exact hs.shifts h hk (shifts_setStreamPump .reading) trivial

/-- A stream that is read is discarded, refused or submitted. -/
theorem shifts_streamRead (aborted : Bool) :
    Shifts k kind
      (if (s.managed k).isIntakeOver then .discarding
      else if isOverStreamLimit deps s k kind then .refusing else .submitted)
      s (streamRead deps s k kind aborted) := by
  have htrack : ∀ p, Shifts k kind .submitted s
      (update { trackStream s k kind aborted with plane := p } k
        (·.setStreamPump kind .submitted)) := by
    intro p
    have hpump : ((trackStream s k kind aborted).managed k).streamPump = _ :=
      trackStream_streamPump aborted
    unfold Shifts
    rw [managed_update, if_pos rfl, ← hpump]
    rfl
  unfold streamRead
  split_ifs
  · exact shifts_setStreamPump .discarding
  · exact shifts_setStreamPump .refusing
  · simp only
    split_ifs
    · exact htrack _
    · exact htrack _

theorem faced_streamRead (hs : Faced calls k s) (aborted : Bool)
    (h : Insists s (streamRead deps s k kind aborted)) (hk : k < s.plane.managedCount) :
    Faced calls k (streamRead deps s k kind aborted) := by
  refine hs.shifts h hk (shifts_streamRead aborted) ?_
  split_ifs with hover
  · exact h.intake k hk hover
  · trivial
  · trivial

/-! ### Failures -/

theorem stopCalls_stop : (stop deps s).stopCalls = s.stopCalls + 1 := by
  have hcontrol : (stop deps s).control = s.control.stop deps.options.shutdown.graceful :=
    control_stop
  have hstops := Control.stops_stop deps.options.shutdown.graceful s.control
  rw [← hcontrol] at hstops
  exact hstops.counted

/-- An error that closes leaves a pump that ends with it an excuse. -/
theorem excused_handleRuntimeError {error : Failure} (h : error.closes)
    (hcalls : calls ≤ s.stopCalls) : Excused calls k (handleRuntimeError deps s k error) := by
  unfold handleRuntimeError
  rcases h with hscope | hscope | hscope
  · rw [hscope]
    exact Or.inr (Or.inl ⟨_, List.mem_append_right _ List.mem_cons_self, rfl⟩)
  · rw [hscope]
    exact Or.inr (Or.inr (by rw [stopCalls_stop]; omega))
  · rw [hscope]
    exact Or.inr (Or.inr (by rw [stopCalls_stop]; omega))

/-- A pump that failed closes its session, unless the intake is over. -/
theorem faced_streamPumpFailed {error : Failure} (hs : Faced calls k s)
    (h : Insists s (streamPumpFailed deps s k kind error)) (hk : k < s.plane.managedCount)
    (hcalls : calls ≤ s.stopCalls)
    (hcaught : (s.managed k).isIntakeOver = false → error.closes) :
    Faced calls k (streamPumpFailed deps s k kind error) := by
  have hshift : Shifts k kind .closing s (streamPumpFailed deps s k kind error) :=
    (shifts_setStreamPump .closing).kept (quiets_pumpFailed error).pumpsKept
  refine hs.shifts h hk hshift ?_
  by_cases hover : (s.managed k).isIntakeOver = true
  · exact Or.inl (h.intake k hk hover)
  · have hkept : ((update s k (·.setStreamPump kind .closing)).managed k).isIntakeOver =
        (s.managed k).isIntakeOver := by
      rw [managed_update, if_pos rfl]
      rfl
    change Excused calls k (pumpFailed deps _ k error)
    unfold pumpFailed
    rw [if_neg (by rw [hkept]; exact hover)]
    exact excused_handleRuntimeError (hcaught (by simpa using hover)) hcalls

/-! ### Steps -/

/-- Whatever makes a stream pump of session `k` fail while its intake is open closes the session
or stops the server. -/
def Caught (k : Nat) (s : RuntimeState) (e : RuntimeEvent) : Prop :=
  (s.managed k).isIntakeOver = false → ∀ error ∈ e.pumpFailure k, error.closes

/-- A step of one of the session's own pumps leaves it where it may be. -/
theorem faced_pump (h : (machine deps).Step s e t) (hcaught : Caught k s e) (hstands : Stands s)
    (hpump : e.pump = some k) (hk : k < s.plane.managedCount) (hcalls : calls ≤ s.stopCalls)
    (hs : Faced calls k s) : Faced calls k t := by
  have hinsists := insists_step hstands.winds.sound h
  obtain ⟨henabled, rfl⟩ := h
  cases e <;> cases hpump
  case datagramRead n now => exact hs.kept hinsists hk (pumpsKept_datagramRead n now)
  case datagramsDone => exact hs.kept hinsists hk pumpsKept_endDatagramPump
  case datagramReadFailed error => exact hs.kept hinsists hk (pumpsKept_datagramReadFailed error)
  case datagramPumpClosed => exact hs.kept hinsists hk pumpsKept_endDatagramPump
  case drainResumed => exact hs.kept hinsists hk pumpsKept_drainResumed
  case drainContinued => exact hs.kept hinsists hk pumpsKept_drainLoop
  case streamResumed kind => exact faced_streamResumed hstands hs hinsists hk
  case streamRead kind aborted => exact faced_streamRead hs aborted hinsists hk
  case streamsDone kind => exact hs.shifts hinsists hk (shifts_endStreamPump true) trivial
  case streamReadFailed kind error =>
    exact faced_streamPumpFailed hs hinsists hk hcalls fun hopen =>
      hcaught hopen error (by simp [RuntimeEvent.pumpFailure])
  case streamRefused kind failure =>
    cases failure with
    | none => exact faced_streamLoop hs hinsists hk
    | some error =>
      exact faced_streamPumpFailed hs hinsists hk hcalls fun hopen =>
        hcaught hopen error (by simp [RuntimeEvent.pumpFailure])
  case streamDiscarded kind failure =>
    have hdiscarding : (s.managed k).streamPump kind = .discarding := by
      simp only [enabled, Bool.and_eq_true, decide_eq_true_eq] at henabled
      exact henabled.2
    have hover : (s.managed k).isIntakeOver = true := by
      have hface := hs kind
      rw [hdiscarding] at hface
      exact hface
    cases failure with
    | none =>
      exact hs.shifts hinsists hk (shifts_endStreamPump false) (Or.inl (hinsists.intake k hk hover))
    | some error =>
      exact faced_streamPumpFailed hs hinsists hk hcalls fun hopen => by
        rw [hover] at hopen
        cases hopen
  case streamSubmitted kind => exact faced_streamLoop hs hinsists hk
  case streamPumpClosed kind =>
    have hclosing : (s.managed k).streamPump kind = .closing := by
      simp only [enabled, Bool.and_eq_true, decide_eq_true_eq] at henabled
      exact henabled.2
    have hexcused : Excused calls k s := by
      have hface := hs kind
      rw [hclosing] at hface
      exact hface
    exact hs.shifts hinsists hk (shifts_endStreamPump false) (hexcused.insists hinsists hk)

/-- A session whose pumps are started. -/
theorem insists_update {f : ManagedSession → ManagedSession}
    (h : (f (s.managed j)).isIntakeOver = (s.managed j).isIntakeOver) :
      Insists s (update s j f) where
  intake := fun i _ hover => (update_field ManagedSession.isIntakeOver h i).trans hover
  closeCalls := List.prefix_refl _
  stopCalls := Nat.le_refl _

theorem insists_streamLoop : Insists s (streamLoop s j kind) := by
  unfold streamLoop
  split_ifs
  · refine insists_update ?_
    cases kind with
    | bidirectional => rfl
    | unidirectional => rfl
  · have hset : Insists s (update s j (·.setStreamPump kind .awaitingCapacity)) :=
      insists_update rfl
    exact { hset with }

/-- The pumps start reading. -/
theorem faced_startPumps (hs : Faced calls k s) (hk : k < s.plane.managedCount) :
    Faced calls k (startPumps s k) := by
  have hloop : ∀ (u : RuntimeState) (b : Bool) (kind : StreamKind), k < u.plane.managedCount →
      Faced calls k u → k < (if b then streamLoop u k kind else u).plane.managedCount ∧
        Faced calls k (if b then streamLoop u k kind else u) := by
    intro u b kind hk hs
    cases b with
    | true =>
      refine ⟨?_, faced_streamLoop hs insists_streamLoop hk⟩
      simp only [if_true, streamLoop]
      split_ifs
      · exact hk
      · exact hk
    | false => exact ⟨hk, hs⟩
  have hread : Faced calls k (update s k fun m =>
      { m with datagramPump := if m.isIntakeOver then .ended else .reading }) :=
    hs.kept (insists_update rfl) hk (pumpsKept_update rfl)
  have hdatagrams : ∀ b : Bool, k < (if b then
        update s k fun m => { m with datagramPump := if m.isIntakeOver then .ended else .reading }
      else s).plane.managedCount ∧ Faced calls k (if b then
        update s k fun m => { m with datagramPump := if m.isIntakeOver then .ended else .reading }
      else s) := by
    intro b
    cases b with
    | true => exact ⟨hk, hread⟩
    | false => exact ⟨hk, hs⟩
  obtain ⟨hcount, hfaced⟩ := hdatagrams (s.managed k).datagramReader
  obtain ⟨hcount, hfaced⟩ := hloop _ _ .bidirectional hcount hfaced
  exact (hloop _ _ .unidirectional hcount hfaced).2

/-- The pumps of a session that is just surfaced have not started. -/
theorem faced_newcomer (h : (machine deps).Step s e t) (hs : Sound s)
    (hle : s.plane.managedCount ≤ k) (hlt : k < t.plane.managedCount) : Faced calls k t := by
  obtain ⟨-, -, hidle⟩ := newcomer_step hs h hle hlt
  intro kind
  have hnone : (t.managed k).streamPump kind = .idle := by
    by_contra hstarted
    exact hidle (Or.inr (Or.inr ⟨kind, hstarted⟩))
  rw [hnone]
  trivial

/-- Where its failures are caught, each stream pump of the session is where it may be. -/
theorem faced_step (h : (machine deps).Step s e t) (hcaught : Caught k s e) (hstands : Stands s)
    (hk : k < t.plane.managedCount) (hcalls : calls ≤ s.stopCalls)
    (hs : k < s.plane.managedCount → Faced calls k s) : Faced calls k t := by
  have hinsists := insists_step hstands.winds.sound h
  by_cases hold : k < s.plane.managedCount
  · have hkept : PumpsKept k s t → Faced calls k t := (hs hold).kept hinsists hold
    cases hpump : e.pump with
    | some j =>
      by_cases hj : k = j
      · exact faced_pump h hcaught hstands (hj ▸ hpump) hold hcalls (hs hold)
      · exact hkept ((feeds_step h hpump).others k hj).streamPump
    | none =>
      by_cases hsurfaced : ∃ offer, e = .surfaced offer
      · obtain ⟨offer, rfl⟩ := hsurfaced
        obtain ⟨-, rfl⟩ := h
        rcases surfaced_cases deps s offer with hquiet | ⟨-, hadmitted⟩
        · exact hkept hquiet.pumpsKept
        · exact hkept (hadmitted.old k (Nat.ne_of_lt hold)).streamPump
      · by_cases haccepted : ∃ j, e = .continueAdmission j
        · obtain ⟨j, rfl⟩ := haccepted
          obtain ⟨henabled, rfl⟩ := h
          simp only [enabled, Bool.and_eq_true, decide_eq_true_eq] at henabled
          rcases quiets_continueAdmission hstands.winds henabled.1 with hquiet | ⟨-, -, heq⟩
          · exact hkept hquiet.pumpsKept
          · have hmark : PumpsKept k s (accepted s j) :=
              update_field ManagedSession.streamPump rfl k
            by_cases hj : k = j
            · subst hj
              have hset : Insists s (update s k ({ · with accept := .accepted })) :=
                insists_update rfl
              have haccept : Insists s (accepted s k) := { hset with }
              simp only [next, heq]
              exact faced_startPumps ((hs hold).kept haccept hold hmark) hold
            · refine hkept ?_
              simp only [next, heq]
              exact hmark.trans (feeds_startPumps.others k hj).streamPump
        · exact hkept (quiets_step h hstands.winds hstands.fits hstands.halted hpump
            (fun offer he => hsurfaced ⟨offer, he⟩) fun j he => haccepted ⟨j, he⟩).pumpsKept
  · exact faced_newcomer h hstands.winds.sound (Nat.not_lt.mp hold) hk

/-! ### Over runs -/

/-- A stream pump of a session surfaced after `s` that has ended while intake is open was told that
its collection is done, unless that session was asked to close or `stop` was called meanwhile. -/
theorem streamPumpEnds_run (hpre : (machine deps).Run (new deps) pre s)
    (hsurfaced : s.plane.managedCount ≤ k) (h : ((machine deps).restrict (Caught k)).Run s es t)
    (hk : k < t.plane.managedCount) {done : Bool}
    (hended : (t.managed k).streamPump kind = .ended done)
    (hopen : (t.managed k).isIntakeOver = false) :
    done = true ∨ (∃ call ∈ t.closeCalls, call.managed = some k) ∨ s.stopCalls < t.stopCalls := by
  have hkeep : ∀ u e v, ((machine deps).restrict (Caught k)).Step u e v →
      Stands u ∧ s.stopCalls ≤ u.stopCalls ∧
        (k < u.plane.managedCount → Faced s.stopCalls k u) →
      Stands v ∧ s.stopCalls ≤ v.stopCalls ∧
        (k < v.plane.managedCount → Faced s.stopCalls k v) := by
    rintro u e v ⟨hcaught, hst⟩ ⟨hstands, hcalls, hfaced⟩
    refine ⟨stands_step hst hstands, ?_, fun hk =>
      faced_step hst hcaught hstands hk hcalls hfaced⟩
    exact hcalls.trans (insists_step hstands.winds.sound hst).stopCalls
  obtain ⟨-, -, hfaced⟩ := h.invariant hkeep
    ⟨stands_run hpre, Nat.le_refl _, fun hk => absurd hk (Nat.not_lt.mpr hsurfaced)⟩
  cases done with
  | true => exact Or.inl rfl
  | false =>
    have hexcused : Excused s.stopCalls k t := by
      have hface := hfaced hk kind
      rw [hended] at hface
      exact hface
    rcases hexcused with hover | hinitiated
    · rw [hopen] at hover
      cases hover
    · exact Or.inr hinitiated

/-- The pump reads a stream, its task runs to the end and the stream stays open. -/
def smallStream (w : Nat) : List RuntimeEvent :=
  [.streamResumed 0 .bidirectional, .streamRead 0 .bidirectional false,
    .streamSubmitted 0 .bidirectional, .callTask, .resumeTask, .runEnded w none, .settled w]

/-- Two streams of session `0` stay open and the `reset` of a third rejects with `error`. -/
def refusedStream (error : Failure) : List RuntimeEvent :=
  smallAdmission ++ smallStream 1 ++ smallStream 2 ++
    [.streamResumed 0 .bidirectional, .streamRead 0 .bidirectional false,
      .streamRefused 0 .bidirectional (some error), .streamPumpClosed 0 .bidirectional]

/-- The `reset` of a stream over the limit rejects with an error of scope `SESSION`. -/
theorem streamPumpEnds_run_small :
    ∃ t, (machine streamServer).Run (new streamServer)
        (refusedStream ⟨[.error, .webTransportError], some .session, "RESET_FAILED"⟩) t ∧
      (t.managed 0).streamPump .bidirectional = .ended false ∧
      (false = true ∨ (∃ call ∈ t.closeCalls, call.managed = some 0) ∨ 0 < t.stopCalls) := by
  obtain ⟨t, hrun, hk, hended, hopen⟩ := exists_run streamServer (new streamServer)
    (refusedStream ⟨[.error, .webTransportError], some .session, "RESET_FAILED"⟩)
    (fun t => 0 < t.plane.managedCount ∧
      (t.managed 0).streamPump .bidirectional = .ended false ∧
      (t.managed 0).isIntakeOver = false) (by decide)
  have hcaught : ∀ e ∈ refusedStream ⟨[.error, .webTransportError], some .session, "RESET_FAILED"⟩,
      ∀ error ∈ e.pumpFailure 0, error.closes := by decide
  have hrestricted : ((machine streamServer).restrict (Caught 0)).Run (new streamServer)
      (refusedStream ⟨[.error, .webTransportError], some .session, "RESET_FAILED"⟩) t :=
    hrun.restrict_of_events fun e he s _ => hcaught e he
  exact ⟨t, hrun, hended,
    streamPumpEnds_run (.refl (s := new streamServer)) (Nat.zero_le 0) hrestricted hk hended hopen⟩

/-- The `reset` rejects with an error of scope `STREAM`: the pump ends, and nothing else does. -/
theorem streamPumpEnds_refused :
    ∃ t, (machine streamServer).Run (new streamServer)
        (refusedStream ⟨[.error, .webTransportError], some .stream, "STREAM_RESET_FAILED"⟩) t ∧
      (t.managed 0).streamPump .bidirectional = .ended false ∧
      (t.managed 0).isIntakeOver = false ∧ t.closeCalls = [] ∧ t.stopCalls = 0 :=
  exists_run streamServer (new streamServer)
    (refusedStream ⟨[.error, .webTransportError], some .stream, "STREAM_RESET_FAILED"⟩)
    (fun t => (t.managed 0).streamPump .bidirectional = .ended false ∧
      (t.managed 0).isIntakeOver = false ∧ t.closeCalls = [] ∧ t.stopCalls = 0) (by decide)

end WebTransportRuntime

end NestWebTransport
