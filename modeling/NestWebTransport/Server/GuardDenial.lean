import NestWebTransport.Server.AdmissionGate

/-! What a session whose guard denies can still reach. -/
namespace NestWebTransport

def AdmissionEvent.isDenial : AdmissionEvent → Bool
  | .guardDenied _ => true
  | _ => false

namespace WebTransportRuntime

variable {deps : RuntimeDependencies} {s t : RuntimeState} {e : RuntimeEvent}
  {es : List RuntimeEvent} {k w i : Nat} {m : ManagedSession}

/-- The denials of the guards of a session's handlers. -/
def denials (m : ManagedSession) : List AdmissionEvent := m.log.filter AdmissionEvent.isDenial

theorem denials_note {event : AdmissionEvent} (h : event.isDenial = false) :
    denials (m.note event) = denials m := by
  simp [denials, ManagedSession.note, h]

/-! ### Outside an invocation -/

theorem denials_throwIfAdmissionEnded {next : RuntimeState}
    (h : denials (next.managed k) = denials (s.managed k)) :
    denials ((throwIfAdmissionEnded s k next).managed k) = denials (s.managed k) := by
  unfold throwIfAdmissionEnded
  split_ifs
  · exact update_field denials rfl k
  · exact h

theorem denials_invocationReached (index : Nat) (invocation : Invocation) :
    denials ((invocationReached s k index invocation).managed k) = denials (s.managed k) := by
  rw [invocationReached, managed_update, if_pos rfl]
  cases invocation with
  | pending phase => rfl
  | fulfilled => exact denials_note (m := s.managed k) rfl
  | rejected error => rfl

theorem denials_runSessionHandlers :
    denials ((runSessionHandlers deps s k i).managed k) = denials (s.managed k) := by
  unfold runSessionHandlers
  split
  · exact update_field denials rfl k
  · refine denials_throwIfAdmissionEnded ((denials_invocationReached _ _).trans ?_)
    exact update_field denials (denials_note rfl) k

theorem denials_authenticate :
    denials ((authenticateAndRunSessionHandlers deps s k).managed k) = denials (s.managed k) := by
  refine denials_throwIfAdmissionEnded ?_
  split_ifs
  · exact update_field denials (denials_note (m := s.managed k) rfl) k
  · exact denials_runSessionHandlers

theorem denials_authenticateSettled (result : Except Failure Principal) :
    denials ((authenticateSettled deps s k result).managed k) = denials (s.managed k) := by
  unfold authenticateSettled
  cases result with
  | error error => exact update_field denials rfl k
  | ok principal =>
    refine denials_throwIfAdmissionEnded ?_
    split_ifs
    · exact update_field denials rfl k
    · exact denials_runSessionHandlers.trans (update_field denials (denials_note rfl) k)

theorem denials_resumeTask {rest : List Nat} (h : s.plane.resumes = w :: rest)
    (howner : (s.plane.work w).owner = k) :
    denials ((resumeTask deps s).managed k) = denials (s.managed k) := by
  unfold resumeTask
  rw [h]
  simp only [howner]
  split_ifs
  · split
    · exact update_field denials rfl k
    · exact denials_authenticate
  · rfl

/-! ### A denial stands -/

/-- The invocation handles the exception a guard raised. -/
def isDenyingPhase : InvokePhase → Bool
  | .resolvingFilters _ fromGuard | .catching _ fromGuard => fromGuard
  | _ => false

/-- The exception a guard raised is on its way to the admission, or something has rejected it. -/
def isDenying : AdmissionStage → Bool
  | .rejected _ => true
  | .invoking _ phase => isDenyingPhase phase
  | _ => false

def isDenyingInvocation : Invocation → Bool
  | .rejected _ => true
  | .pending phase => isDenyingPhase phase
  | .fulfilled => false

/-- A filter returns normally for the exception a guard raised. -/
def SwallowsDenial (s : RuntimeState) : RuntimeEvent → Prop
  | .pipeline k (.filterReturned (.ok _)) =>
    ∃ index error, (s.managed k).stage = .invoking index (.catching error true)
  | _ => False

/-- A guard has denied the session and nothing has swallowed the denial. -/
def DenialStands (m : ManagedSession) : Prop := denials m ≠ [] → isDenying m.stage = true

/-- Only a filter that returns ends the handling of a denial without an error. -/
theorem denying_advance {handler : CompiledWebTransportHandler} {aborted : Option Failure}
    {phase : InvokePhase} {event : PipelineEvent} {invocation : Invocation}
    (h : advanceInvocation deps handler aborted phase event = some invocation)
    (hphase : isDenyingPhase phase = true)
    (hok : ∀ result error, event = .filterReturned (.ok result) → phase ≠ .catching error true) :
    isDenyingInvocation invocation = true := by
  cases phase with
  | resolvingFilters error fromGuard =>
    obtain rfl : fromGuard = true := hphase
    cases event <;> simp only [advanceInvocation, Option.some.injEq, reduceCtorEq] at h
    subst h
    unfold WebTransportExecutionPipeline.filtersResolved
    split
    · rfl
    · split_ifs <;> rfl
  | catching error fromGuard =>
    obtain rfl : fromGuard = true := hphase
    cases event <;> simp only [advanceInvocation, Option.some.injEq, reduceCtorEq] at h
    rename_i result
    subst h
    cases result with
    | error other => rfl
    | ok value => exact absurd rfl (hok value error rfl)
  | resolvingGateway => cases hphase
  | resolvingGuards => cases hphase
  | guarding guards => cases hphase
  | resolvingInterceptors => cases hphase
  | intercepting => cases hphase

/-- A guard that denies sends its exception to the filters. -/
theorem denying_guardDecided {handler : CompiledWebTransportHandler} {aborted : Option Failure}
    {phase : InvokePhase} {decision : GuardDecision} {invocation : Invocation}
    (h : advanceInvocation deps handler aborted phase (.guardDecided decision) = some invocation)
    (hdenied : decision ≠ .allowed) : isDenyingInvocation invocation = true := by
  cases phase <;> simp only [advanceInvocation, Option.some.injEq, reduceCtorEq] at h
  subst h
  unfold WebTransportExecutionPipeline.guardDecided WebTransportExecutionPipeline.caught
  cases decision with
  | allowed => exact absurd rfl hdenied
  | denied => cases aborted <;> rfl
  | threw error => cases aborted <;> rfl

theorem denials_pipelineNote {event : PipelineEvent} {index : Nat} {aborted : Option Failure}
    (h : ∀ decision, event = .guardDecided decision → decision = .allowed) :
    denials (event.note index aborted m) = denials m := by
  unfold PipelineEvent.note
  split
  · exact absurd (h .denied rfl) (by simp)
  · rename_i error
    exact absurd (h (.threw error) rfl) (by simp)
  · split_ifs
    · exact denials_note rfl
    · rfl
  · rfl

/-- In the pipeline of one handler only a filter takes a denial back. -/
theorem denialStands_pipelineStep {event : PipelineEvent}
    (hok : ¬ SwallowsDenial s (.pipeline k event)) (h : DenialStands (s.managed k)) :
    DenialStands ((pipelineStep deps s k event).managed k) := by
  unfold pipelineStep
  split
  · rename_i index phase hstage
    split
    · exact h
    · rename_i handler hsome
      split
      · exact h
      · rename_i invocation hadvance
        intro hdenials
        rw [denials_invocationReached, managed_update, if_pos rfl] at hdenials
        have hdenying : isDenyingInvocation invocation = true := by
          by_cases hdecided : ∀ decision, event = .guardDecided decision → decision = .allowed
          · rw [denials_pipelineNote hdecided] at hdenials
            have hphase := h hdenials
            rw [hstage] at hphase
            refine denying_advance hadvance hphase fun result error hevent hcatching => hok ?_
            rw [hevent]
            exact ⟨index, error, hcatching ▸ hstage⟩
          · push Not at hdecided
            obtain ⟨decision, rfl, hdenied⟩ := hdecided
            exact denying_guardDecided hadvance hdenied
        rw [invocationReached, managed_update, if_pos rfl]
        cases invocation with
        | pending phase' => exact hdenying
        | fulfilled => cases hdenying
        | rejected error => rfl
  · exact h

/-- No event of the admission takes a denial back unless a filter swallows it. -/
theorem denialStands_admits (hs : Sound s) (hu : Unbegun s) (h : Admits deps s k e t)
    (hok : ¬ SwallowsDenial s e) (hd : DenialStands (s.managed k)) :
    DenialStands (t.managed k) := by
  cases h with
  | @authenticated result hstage =>
    intro hdenials
    rw [denials_authenticateSettled] at hdenials
    simpa [hstage, isDenying] using hd hdenials
  | pipeline hready => exact denialStands_pipelineStep hok hd
  | @returned index hstage =>
    intro hdenials
    rw [handlerReturned, denials_throwIfAdmissionEnded denials_runSessionHandlers] at hdenials
    simpa [hstage, isDenying] using hd hdenials
  | @resumed w rest hresumes howner =>
    intro hdenials
    rw [denials_resumeTask hresumes howner] at hdenials
    obtain ⟨hw, hp⟩ := hs.accounted.placement.granted.mem (w := w) (by simp [hresumes])
    by_cases hkind : (s.plane.work w).kind = .admission
    · have hqueued := hu w hw hkind (by simp [Workload.Unlisted, hp])
      rw [howner] at hqueued
      simpa [hqueued, isDenying] using hd hdenials
    · have hdenying := hd hdenials
      unfold resumeTask
      rw [hresumes]
      simpa [hkind, setLoad] using hdenying

/-! ### Every run -/

/-- The runtime while no exception filter swallows a guard's denial. -/
def unswallowed (deps : RuntimeDependencies) : Machine RuntimeState RuntimeEvent :=
  (machine deps).restrict fun s e => ¬ SwallowsDenial s e

/-- Where no filter swallows a denial, the session stays denied. -/
theorem denialStands_step (h : (unswallowed deps).Step s e t) (hs : Screened deps s)
    (hd : ∀ k < s.plane.managedCount, DenialStands (s.managed k)) :
    ∀ k < t.plane.managedCount, DenialStands (t.managed k) := by
  have hsound := hs.winds.sound
  have hturn := turn_of_step hsound h.2
  have hsame : ∀ {m m' : ManagedSession}, progress m' = progress m → DenialStands m →
      DenialStands m' := by
    intro m m' hprogress hm
    have hstage : m'.stage = m.stage := congrArg Prod.fst hprogress
    have hlog : m'.log = m.log := congrArg Prod.snd hprogress
    rwa [DenialStands, denials, hstage, hlog]
  intro k hk
  by_cases hlt : k < s.plane.managedCount
  · rcases hturn.progress hlt with hprogress | hadmits
    · exact hsame hprogress (hd k hlt)
    · exact denialStands_admits hsound hs.unbegun hadmits h.1 (hd k hlt)
  · rcases hturn.managedCount hsound with heq | ⟨heq, offer, readers, u, -, -, hopen, -, hclose⟩
    · omega
    · obtain rfl : k = s.plane.managedCount := by omega
      have hlasts := hclose.managed s.plane.managedCount
      rw [hopen.newcomer] at hlasts
      refine hsame (m := newcomer offer readers s.plane.workCount) ?_ fun hdenials => ?_
      · rw [progress, hlasts.stage, hlasts.log, ← progress]
      · refine absurd ?_ hdenials
        unfold newcomer
        cases offer.aborted <;> rfl

/-- While no exception filter swallows a denial, a session one of whose guards denied is not counted
as accepted, has no pump and runs no handler of a datagram or a stream. -/
theorem guardDenial_run (h : (unswallowed deps).Run (new deps) es t) :
    ∀ k < t.plane.managedCount, (∃ index, .guardDenied index ∈ (t.managed k).log) →
      (t.managed k).accept ≠ .accepted ∧ ¬ Intakes (t.managed k) ∧
        ∀ w < t.plane.workCount,
          (t.plane.work w).owner = k → (t.plane.work w).kind = .admission := by
  have hkeep : ∀ s e t, (unswallowed deps).Step s e t →
      (Screened deps s ∧ ∀ k < s.plane.managedCount, DenialStands (s.managed k)) →
      Screened deps t ∧ ∀ k < t.plane.managedCount, DenialStands (t.managed k) :=
    fun s e t hst hs => ⟨screened_step hst.2 hs.1, denialStands_step hst hs.1 hs.2⟩
  obtain ⟨hs, hd⟩ := h.invariant (P := fun s => Screened deps s ∧
    ∀ k < s.plane.managedCount, DenialStands (s.managed k)) hkeep
    ⟨screened_new deps, fun k hk => absurd hk (Nat.not_lt_zero k)⟩
  rintro k hk ⟨index, hindex⟩
  have haccept : (t.managed k).accept ≠ .accepted := by
    intro haccepted
    have hdenying := hd k hk (List.ne_nil_of_mem (List.mem_filter.mpr ⟨hindex, rfl⟩))
    rw [hs.gated.fulfilled k hk (Or.inr haccepted)] at hdenying
    cases hdenying
  refine ⟨haccept, fun hi => haccept (hs.gated.pumps k hk hi), fun w hw howner => ?_⟩
  by_contra hkind
  exact haccept (howner ▸ hs.gated.tasks w hw hkind)

/-- A session handler behind one guard, under a global filter for every exception. -/
def filteredServer : RuntimeDependencies :=
  smallServer [smallHandler .session [0], smallHandler .datagram []] [⟨[]⟩]

/-- The guard of the session handler denies. -/
def deniedAdmission : List RuntimeEvent :=
  [.bootstrap, .driverStarted 0 true, .startCleared 0, .surfaced (smallOffer "a"), .resumeTask,
    .pipeline 0 (.gatewayResolved (.ok ())), .pipeline 0 (.guardsResolved (.ok ())),
    .pipeline 0 (.guardDecided .denied), .pipeline 0 (.filtersResolved (.ok ()))]

theorem guardDenial_run_denied :
    ∃ t : RuntimeState, .guardDenied 0 ∈ (t.managed 0).log ∧ (t.managed 0).accept ≠ .accepted ∧
      ¬ Intakes (t.managed 0) ∧
      ∀ w < t.plane.workCount, (t.plane.work w).owner = 0 → (t.plane.work w).kind = .admission := by
  obtain ⟨t, hrun, hk, hdenied⟩ := exists_run filteredServer (new filteredServer) deniedAdmission
    (fun t => 0 < t.plane.managedCount ∧ .guardDenied 0 ∈ (t.managed 0).log) (by decide)
  have hok : ∀ e ∈ deniedAdmission, ∀ s, ¬ SwallowsDenial s e := by
    simp [deniedAdmission, SwallowsDenial]
  exact ⟨t, hdenied, guardDenial_run (hrun.restrict_of_events hok) 0 hk ⟨0, hdenied⟩⟩

/-- The filter returns, and the session is accepted. -/
def swallowedAdmission : List RuntimeEvent :=
  deniedAdmission ++ [RuntimeEvent.pipeline 0 (.filterReturned (.ok ())), .handlerReturned 0,
    .runEnded 0 none, .settled 0, .admissionObserved 0, .continueAdmission 0]

theorem guardDenial_swallowed :
    ∃ t : RuntimeState, (machine filteredServer).Run (new filteredServer) swallowedAdmission t ∧
      .guardDenied 0 ∈ (t.managed 0).log ∧ (t.managed 0).accept = .accepted ∧
      t.acceptedSessions = 1 ∧ (t.managed 0).datagramPump = .reading :=
  exists_run filteredServer (new filteredServer) swallowedAdmission
    (fun t => .guardDenied 0 ∈ (t.managed 0).log ∧ (t.managed 0).accept = .accepted ∧
      t.acceptedSessions = 1 ∧ (t.managed 0).datagramPump = .reading) (by decide)

end WebTransportRuntime

end NestWebTransport
