import NestWebTransport.Server.AdmissionScript

/-! What a session has passed before its pumps start, over every run of the runtime. -/
namespace NestWebTransport.WebTransportRuntime

variable {options : NormalizedWebTransportModuleOptions} {deps : RuntimeDependencies}
  {s t u : RuntimeState} {e : RuntimeEvent} {es : List RuntimeEvent} {k w : Nat}

/-! ### Admission work that has not begun -/

/-- Work that has left every list does not come back to one. -/
theorem Turn.unlisted (h : Turn deps s e t) (hs : Sound s) (hw : w < s.plane.workCount)
    (hp : Workload.Unlisted (s.plane.work w).phase) : Workload.Unlisted (t.plane.work w).phase := by
  cases h with
  | closing h => exact h.steady.runs.2 w hp
  | refused hrecords h => exact h.steady.runs.2 w hp
  | opened hchecks hopen hrecords h => exact h.steady.runs.2 w (by rwa [hopen.old w hw])
  | admitting hk hadmits h hwork => exact h.steady.runs.2 w hp
  | observed hk hadmission hsettled => exact hp
  | returned hk hrace h => exact h.steady.runs.2 w hp
  | accepted hk hrace hopen hrunning h => exact h.steady.runs.2 w hp
  | retired hk hready =>
    rw [retired_plane]
    exact hp
  | @detached v hv hp' =>
    by_cases he : w = v
    · subst he
      simpa [setLoad, Workload.detach] using hp
    · simpa [setLoad, Workload.detach, he] using hp
  | @ended v failure hv hp' hover =>
    obtain ⟨phase, hphase, hnew⟩ : ∃ phase, Workload.Unlisted phase ∧
        runEnded s v failure = setLoad s (s.plane.toWorkload.finishRun v phase) := by
      cases failure with
      | none => exact ⟨.finishing, by simp [Workload.Unlisted], rfl⟩
      | some error => exact ⟨_, Workload.failed_unlisted _ error, rfl⟩
    have hset : Workload.Placement [] [] (s.plane.toWorkload.setPhase v phase) :=
      Workload.placement_unlist hs.accounted.placement (by simp [Workload.Unlisted, hp']) hphase
    have hleft : Workload.Placement [] [] { s.plane.toWorkload.setPhase v phase with
        handlerBudget := s.plane.handlerBudget.leave } := { hset with }
    have hbefore : Workload.Unlisted ((s.plane.toWorkload.setPhase v phase).work w).phase := by
      by_cases he : w = v
      · subst he
        simpa [Workload.setPhase] using hphase
      · simpa [Workload.setPhase, he] using hp
    rw [hnew]
    exact (Workload.runs_wake hleft).2 w hbefore
  | pumping hk hactive h =>
    obtain ⟨u, hpump, hease⟩ := h
    exact hease.steady.runs.2 w (by rwa [hpump.old w hw])

theorem unlisted_resumeTask {l : Workload} {rest : List Nat} {aborted : Bool}
    (h : Workload.Placement [] [] l) (hr : l.resumes = w :: rest) :
    Workload.Unlisted ((l.resumeTask aborted).work w).phase := by
  unfold Workload.resumeTask
  rw [hr]
  cases aborted with
  | true =>
    have hresumed := Workload.placement_resumed h hr (Workload.failed_unlisted (l.work w) .unknown)
    have hleft : Workload.Placement [] []
        { ({ l with resumes := rest } : Workload).setPhase w ((l.work w).failed .unknown) with
          handlerBudget := l.handlerBudget.leave } := { hresumed with }
    refine (Workload.runs_wake hleft).2 w ?_
    simpa [Workload.setPhase] using Workload.failed_unlisted (l.work w) .unknown
  | false => simp [Workload.beginTask, Workload.setPhase, Workload.Unlisted]

/-- How far the admission work of a session is, and what it did so far. -/
def progress (m : ManagedSession) : AdmissionStage × List AdmissionEvent := (m.stage, m.log)

/-- A step leaves the admission work of a session where it was or takes it further. -/
theorem Turn.progress (h : Turn deps s e t) (hk : k < s.plane.managedCount) :
    WebTransportRuntime.progress (t.managed k) = WebTransportRuntime.progress (s.managed k) ∨
      Admits deps s k e t := by
  have hlasts : ∀ {m m' : ManagedSession}, m.Lasts m' →
      WebTransportRuntime.progress m' = WebTransportRuntime.progress m := fun h => by
    rw [WebTransportRuntime.progress, h.stage, h.log, ← WebTransportRuntime.progress]
  cases h with
  | closing h => exact Or.inl (hlasts (h.managed k).toLasts)
  | refused hrecords h => exact Or.inl (hlasts (h.managed k).toLasts)
  | opened hchecks hopen hrecords h =>
    left
    rw [hlasts (h.managed k).toLasts, hopen.managed, Function.update_of_ne (Nat.ne_of_lt hk)]
  | @admitting e j t hj hadmits h hwork =>
    by_cases he : k = j
    · rw [he]
      exact Or.inr hadmits
    · rw [h.others k he]
      exact Or.inl rfl
  | observed hj hadmission hsettled => exact Or.inl (update_field _ rfl k)
  | returned hj hrace h =>
    exact Or.inl ((hlasts (h.managed k).toLasts).trans (update_field _ rfl k))
  | @accepted j t hj hrace hopen hrunning h =>
    have hsame := update_field (s := { s with acceptedSessions := s.acceptedSessions + 1 })
      WebTransportRuntime.progress (f := ({ · with accept := .accepted })) (k := j) rfl k
    exact Or.inl ((field_of_others _ h.others (by rw [h.session]; rfl) k).trans hsame)
  | retired hj hready =>
    rw [retired_managed]
    exact Or.inl (update_field _ rfl k)
  | detached hw hp => exact Or.inl rfl
  | ended hw hp hover => exact Or.inl rfl
  | pumping hj hactive h =>
    obtain ⟨u, hpump, hease⟩ := h
    left
    rw [hlasts (hease.managed k).toLasts]
    exact field_of_others _ hpump.others (by rw [hpump.pumps.kept]; rfl) k

theorem throwIfAdmissionEnded_plane {next : RuntimeState} (h : next.plane = s.plane) :
    (throwIfAdmissionEnded s k next).plane = s.plane := by
  unfold throwIfAdmissionEnded
  split_ifs
  · rfl
  · exact h

theorem authenticate_plane : (authenticateAndRunSessionHandlers deps s k).plane = s.plane := by
  refine throwIfAdmissionEnded_plane ?_
  split_ifs
  · rfl
  · unfold runSessionHandlers
    split
    · rfl
    · exact throwIfAdmissionEnded_plane rfl

theorem resumeTask_plane {rest : List Nat} (hr : s.plane.resumes = w :: rest) :
    (resumeTask deps s).plane.toWorkload =
      s.plane.toWorkload.resumeTask (s.managed (s.plane.work w).owner).isContextAborted := by
  unfold resumeTask
  rw [hr]
  simp only
  split_ifs
  · split
    · rfl
    · rw [authenticate_plane]
      rfl
  · rfl

/-- Admission work that still waits for its permit has not begun. -/
def Unbegun (s : RuntimeState) : Prop :=
  ∀ w < s.plane.workCount, (s.plane.work w).kind = .admission →
    ¬ Workload.Unlisted (s.plane.work w).phase → (s.managed (s.plane.work w).owner).stage = .queued

/-- Only a permit begins admission work. -/
theorem unbegun_step (hs : Sound s) (hemployed : Employed s) (h : (machine deps).Step s e t)
    (hu : Unbegun s) : Unbegun t := by
  have hturn := turn_of_step hs h
  intro w hw hkind hlisted
  by_cases hold : w < s.plane.workCount
  · have hcontinues := hturn.continues hs hold
    have hbefore : ¬ Workload.Unlisted (s.plane.work w).phase :=
      fun hp => hlisted (hturn.unlisted hs hold hp)
    have hqueued := hu w hold (hcontinues.kind ▸ hkind) hbefore
    have howned := hs.accounted.placement.owned w hold
    rw [hcontinues.owner]
    rcases hturn.progress howned with hsame | hadmits
    · exact (congrArg Prod.fst hsame).trans hqueued
    · cases hadmits with
      | authenticated hstage => simp [hqueued] at hstage
      | pipeline hready => simp [isPipelineReady, hqueued] at hready
      | returned hstage => simp [hqueued] at hstage
      | @resumed v rest hresumes howner =>
        by_cases hadmission : (s.plane.work v).kind = .admission
        · have hv := (hs.accounted.placement.granted.mem (w := v) (by simp [hresumes])).1
          have hsome := hemployed.admission v hv hadmission
          rw [howner, hemployed.admission w hold (hcontinues.kind ▸ hkind)] at hsome
          obtain rfl : w = v := Option.some.inj hsome
          -- The work has just been taken off the list of granted callers.
          refine absurd ?_ hlisted
          rw [resumeTask_plane hresumes]
          exact unlisted_resumeTask hs.accounted.placement hresumes
        · unfold resumeTask
          rw [hresumes]
          simpa [hadmission, setLoad] using hqueued
  · rcases (hturn.fresh hs (Nat.not_lt.mp hold) hw).1 with ⟨rfl, howner, -⟩ | ⟨-, -, htask⟩
    · rcases hturn.managedCount hs with heq | ⟨heq, offer, readers, u, -, -, hopen, -, hclose⟩
      · have howned := (sound_step hs h).accounted.placement.owned w hw
        omega
      · rw [howner, (hclose.managed _).stage, hopen.newcomer]
        unfold newcomer
        cases offer.aborted <;> rfl
    · exact absurd hkind htask

/-- Each event leaves a session's admission where it was on the script, or one position further. -/
theorem follows_step (hs : Sound s) (hu : Unbegun s) (h : (machine deps).Step s e t)
    (hf : ∀ k < s.plane.managedCount, Follows deps (s.managed k)) :
    ∀ k < t.plane.managedCount, Follows deps (t.managed k) := by
  have hturn := turn_of_step hs h
  have hsame : ∀ {m m' : ManagedSession}, progress m' = progress m → m'.session = m.session →
      Follows deps m → Follows deps m' := by
    intro m m' hprogress hsession hm
    have hstage : m'.stage = m.stage := congrArg Prod.fst hprogress
    have hsteps : steps m' = steps m := by
      have hlog : m'.log = m.log := congrArg Prod.snd hprogress
      rw [steps, hlog, ← steps]
    simpa only [Follows, Performed, OnScript, handlerCount, hstage, hsteps, hsession] using hm
  intro k hk
  by_cases hlt : k < s.plane.managedCount
  · rcases hturn.progress hlt with hprogress | hadmits
    · exact hsame hprogress (hturn.ages hlt).session (hf k hlt)
    · refine follows_admits hadmits (fun w rest hresumes howner hkind => ?_) (hf k hlt)
      obtain ⟨hw, hp⟩ := hs.accounted.placement.granted.mem (w := w) (by simp [hresumes])
      rw [← howner]
      exact hu w hw hkind (by simp [Workload.Unlisted, hp])
  · rcases hturn.managedCount hs with heq | ⟨heq, offer, readers, u, -, -, hopen, -, hclose⟩
    · omega
    · obtain rfl : k = s.plane.managedCount := by omega
      have hlasts := hclose.managed s.plane.managedCount
      rw [hopen.newcomer] at hlasts
      refine hsame (m := newcomer offer readers s.plane.workCount) ?_ hlasts.session ?_
      · rw [progress, hlasts.stage, hlasts.log, ← progress]
      · unfold newcomer Follows
        cases offer.aborted <;> rfl

/-! ### Acceptance -/

/-- `acceptSession` is past its last check for session `k` in state `s`: its admission work has
fulfilled, its signals are not aborted and the server runs. -/
structure Passes (deps : RuntimeDependencies) (s : RuntimeState) (k : Nat) : Prop where
  managed : k < s.plane.managedCount
  race : (s.managed k).accept = .raceFulfilled
  sessionOpen : (s.managed k).sessionAborted = false
  intakeOpen : (s.managed k).intakeAborted = false
  running : s.lifecycle.state = .running

/-- What a step does to `acceptSession` of session `k`. -/
inductive Judged (deps : RuntimeDependencies) (s : RuntimeState) (k : Nat) :
    RuntimeEvent → AcceptPhase → Prop
  | same {e : RuntimeEvent} : Judged deps s k e (s.managed k).accept
  | fulfilled {e : RuntimeEvent} (hrace : (s.managed k).accept = .racing)
      (hstage : (s.managed k).stage = .fulfilled) : Judged deps s k e .raceFulfilled
  | rejected {e : RuntimeEvent} {error : Failure} (hrace : (s.managed k).accept = .racing) :
      Judged deps s k e (.raceRejected error)
  | returned {e : RuntimeEvent} (hrace : AcceptPhase.raceOver (s.managed k).accept = true) :
      Judged deps s k e .returned
  | accepted (h : Passes deps s k) : Judged deps s k (.continueAdmission k) .accepted

theorem judged_lasts {m : ManagedSession} (h : (s.managed k).Lasts m) :
    Judged deps s k e m.accept := by
  rcases h.accept with heq | ⟨hracing, error, heq⟩
  · rw [heq]
    exact .same
  · rw [heq]
    exact .rejected hracing

/-- What any step may do to the acceptance of a session. -/
theorem Turn.judged (h : Turn deps s e t) (hk : k < s.plane.managedCount) :
    Judged deps s k e (t.managed k).accept := by
  have hsame : ∀ {m : ManagedSession}, m.accept = (s.managed k).accept →
      Judged deps s k e m.accept := fun heq => heq ▸ .same
  cases h with
  | closing h => exact judged_lasts (h.managed k).toLasts
  | refused hrecords h => exact judged_lasts (h.managed k).toLasts
  | opened hchecks hopen hrecords h =>
    refine judged_lasts ?_
    have hlasts := (h.managed k).toLasts
    rwa [hopen.managed, Function.update_of_ne (Nat.ne_of_lt hk)] at hlasts
  | admitting hj hadmits h hwork =>
    exact hsame (field_of_others (·.accept) h.others (by rw [h.session]) k)
  | @observed j hj hadmission hsettled =>
    by_cases he : k = j
    · subst he
      rw [admissionObserved, managed_update, if_pos rfl]
      simp only
      split_ifs with hracing
      · split
        · rename_i hstage
          exact .fulfilled hracing hstage
        · exact .rejected hracing
        · exact .rejected hracing
      · exact .same
    · rw [admissionObserved, managed_update, if_neg he]
      exact .same
  | @returned j t hj hrace h =>
    by_cases he : k = j
    · subst he
      rcases (h.managed k).accept with heq | ⟨hracing, -⟩
      · rw [heq, managed_update, if_pos rfl]
        exact .returned hrace
      · rw [managed_update, if_pos rfl] at hracing
        cases hracing
    · have hlasts := (h.managed k).toLasts
      rw [managed_update, if_neg he] at hlasts
      exact judged_lasts hlasts
  | @accepted j t hj hrace hopen hrunning h =>
    by_cases he : k = j
    · subst he
      rw [h.session, WebTransportRuntime.accepted, managed_update, if_pos rfl]
      simp only [ManagedSession.isIntakeOver, Bool.or_eq_false_iff] at hopen
      exact .accepted ⟨hj, hrace, hopen.1, hopen.2, hrunning⟩
    · refine hsame ?_
      rw [h.others k he, WebTransportRuntime.accepted, managed_update, if_neg he]
  | retired hj hready =>
    rw [retired_managed]
    exact hsame (update_field (·.accept) rfl k)
  | detached hw hp => exact .same
  | ended hw hp hover => exact .same
  | pumping hj hactive h =>
    obtain ⟨u, hpump, hease⟩ := h
    have hpumped := field_of_others (·.accept) hpump.others (by rw [hpump.pumps.kept]) k
    rcases (hease.managed k).accept with heq | ⟨hracing, error, heq⟩
    · exact hsame (heq.trans hpumped)
    · rw [heq]
      exact .rejected (hpumped.symm.trans hracing)

theorem Judged.accepted_iff {accept : AcceptPhase} (h : Judged deps s k e accept)
    (hs : (s.managed k).accept = .accepted) : accept = .accepted := by
  cases h with
  | same => exact hs
  | fulfilled hrace hstage => simp [hs] at hrace
  | rejected hrace => simp [hs] at hrace
  | returned hrace => simp [hs, AcceptPhase.raceOver] at hrace
  | accepted h => rfl

theorem accepted_lasts {m m' : ManagedSession} (h : m.Lasts m') :
    m'.accept = .accepted ↔ m.accept = .accepted := by
  rcases h.accept with heq | ⟨hracing, error, heq⟩
  · rw [heq]
  · simp [heq, hracing]

/-- A step accepts no session, or one that passes. -/
theorem Turn.accepts (h : Turn deps s e t) :
    (t.acceptedSessions = s.acceptedSessions ∧ ∀ k < s.plane.managedCount,
      ((t.managed k).accept = .accepted ↔ (s.managed k).accept = .accepted)) ∨
    ∃ k, Passes deps s k ∧ e = .continueAdmission k ∧
      t.acceptedSessions = s.acceptedSessions + 1 ∧ (t.managed k).accept = .accepted ∧
      ∀ j, j ≠ k → (t.managed j).accept = (s.managed j).accept := by
  cases h with
  | closing h => exact Or.inl ⟨h.acceptedSessions, fun k _ => accepted_lasts (h.managed k).toLasts⟩
  | refused hrecords h =>
    exact Or.inl ⟨h.acceptedSessions, fun k _ => accepted_lasts (h.managed k).toLasts⟩
  | opened hchecks hopen hrecords h =>
    refine Or.inl ⟨h.acceptedSessions.trans hopen.acceptedSessions, fun k hk => ?_⟩
    rw [accepted_lasts (h.managed k).toLasts, hopen.managed,
      Function.update_of_ne (Nat.ne_of_lt hk)]
  | admitting hj hadmits h hwork =>
    refine Or.inl ⟨by rw [h.state], fun k _ => ?_⟩
    rw [field_of_others (·.accept) h.others (by rw [h.session]) k]
  | @observed j hj hadmission hsettled =>
    refine Or.inl ⟨rfl, fun k _ => ?_⟩
    rw [admissionObserved, managed_update]
    split_ifs with he hracing
    · subst he
      rw [hracing]
      split <;> simp
    · subst he
      exact Iff.rfl
    · rfl
  | @returned j t hj hrace h =>
    refine Or.inl ⟨h.acceptedSessions, fun k _ => ?_⟩
    rw [accepted_lasts (h.managed k).toLasts, managed_update]
    split_ifs with he
    · subst he
      have hnot : (s.managed k).accept ≠ .accepted := by
        intro hs
        simp [hs, AcceptPhase.raceOver] at hrace
      simp [hnot]
    · rfl
  | @accepted j t hj hrace hopen hrunning h =>
    right
    simp only [ManagedSession.isIntakeOver, Bool.or_eq_false_iff] at hopen
    refine ⟨j, ⟨hj, hrace, hopen.1, hopen.2, hrunning⟩, rfl, by rw [h.state]; rfl, ?_,
      fun i hi => ?_⟩
    · rw [h.session, WebTransportRuntime.accepted, managed_update, if_pos rfl]
    · rw [h.others i hi, WebTransportRuntime.accepted, managed_update, if_neg hi]
  | @retired j now hj hready =>
    have hcount : (WebTransportRuntime.retired s j now).acceptedSessions = s.acceptedSessions := by
      unfold WebTransportRuntime.retired
      simp only
      split_ifs <;> rfl
    refine Or.inl ⟨hcount, fun k _ => ?_⟩
    rw [retired_managed, update_field (·.accept) rfl k]
  | detached hw hp => exact Or.inl ⟨rfl, fun _ _ => Iff.rfl⟩
  | ended hw hp hover => exact Or.inl ⟨rfl, fun _ _ => Iff.rfl⟩
  | pumping hj hactive h =>
    obtain ⟨u, hpump, hease⟩ := h
    refine Or.inl ⟨hease.acceptedSessions.trans hpump.acceptedSessions, fun k _ => ?_⟩
    rw [accepted_lasts (hease.managed k).toLasts,
      field_of_others (·.accept) hpump.others (by rw [hpump.pumps.kept]) k]

/-- Pumps start with the acceptance of their session only. -/
theorem Turn.intakes (h : Turn deps s e t) (hk : k < s.plane.managedCount)
    (hi : Intakes (t.managed k)) : Intakes (s.managed k) ∨ (t.managed k).accept = .accepted := by
  have hlasts : ∀ {m m' : ManagedSession}, m.Lasts m' → Intakes m' → Intakes m := fun h => by
    unfold Intakes
    rw [h.datagramPump, h.drain, h.streamPump]
    exact id
  have hsame : ∀ {u : RuntimeState},
      ((u.managed k).datagramPump, (u.managed k).drain, (u.managed k).streamPump) =
        ((s.managed k).datagramPump, (s.managed k).drain, (s.managed k).streamPump) →
      Intakes (u.managed k) → Intakes (s.managed k) := by
    intro u heq
    simp only [Prod.mk.injEq] at heq
    unfold Intakes
    rw [heq.1, heq.2.1, heq.2.2]
    exact id
  cases h with
  | closing h => exact Or.inl (hlasts (h.managed k).toLasts hi)
  | refused hrecords h => exact Or.inl (hlasts (h.managed k).toLasts hi)
  | opened hchecks hopen hrecords h =>
    have hopened := hlasts (h.managed k).toLasts hi
    rw [hopen.managed, Function.update_of_ne (Nat.ne_of_lt hk)] at hopened
    exact Or.inl hopened
  | admitting hj hadmits h hwork =>
    exact Or.inl (hsame (field_of_others (fun m => (m.datagramPump, m.drain, m.streamPump)) h.others
      (by rw [h.session]) k) hi)
  | observed hj hadmission hsettled =>
    exact Or.inl (hsame (update_field (fun m => (m.datagramPump, m.drain, m.streamPump)) rfl k) hi)
  | returned hj hrace h =>
    exact Or.inl (hsame (update_field (fun m => (m.datagramPump, m.drain, m.streamPump)) rfl k)
      (hlasts (h.managed k).toLasts hi))
  | @accepted j t hj hrace hopen hrunning h =>
    by_cases he : k = j
    · subst he
      right
      rw [h.session, WebTransportRuntime.accepted, managed_update, if_pos rfl]
    · rw [h.others k he, WebTransportRuntime.accepted, managed_update, if_neg he] at hi
      exact Or.inl hi
  | retired hj hready =>
    rw [retired_managed] at hi
    exact Or.inl (hsame (update_field (fun m => (m.datagramPump, m.drain, m.streamPump)) rfl k) hi)
  | detached hw hp => exact Or.inl hi
  | ended hw hp hover => exact Or.inl hi
  | @pumping e j t hj hactive h =>
    obtain ⟨u, hpump, hease⟩ := h
    by_cases he : k = j
    · subst he
      exact Or.inl hactive
    · have hpumped := hlasts (hease.managed k).toLasts hi
      rw [hpump.others k he] at hpumped
      exact Or.inl hpumped

/-- Admission work that has ended is not taken any further. -/
theorem over_admits (hs : Sound s) (hu : Unbegun s) (h : Admits deps s k e t)
    (hover : AdmissionStage.isOver (s.managed k).stage = true) :
    (t.managed k).stage = (s.managed k).stage := by
  cases h with
  | authenticated hstage => simp [hstage, AdmissionStage.isOver] at hover
  | pipeline hready =>
    unfold isPipelineReady at hready
    split at hready
    · rename_i hstage
      simp [hstage, AdmissionStage.isOver] at hover
    · cases hready
  | returned hstage => simp [hstage, AdmissionStage.isOver] at hover
  | @resumed w rest hresumes howner =>
    obtain ⟨hw, hp⟩ := hs.accounted.placement.granted.mem (w := w) (by simp [hresumes])
    by_cases hkind : (s.plane.work w).kind = .admission
    · have hqueued := hu w hw hkind (by simp [Workload.Unlisted, hp])
      rw [howner] at hqueued
      simp [hqueued, AdmissionStage.isOver] at hover
    · unfold resumeTask
      rw [hresumes]
      simp [hkind, setLoad]

/-- 1 for a session that counts as accepted. -/
def ManagedSession.acceptances (m : ManagedSession) : Int := if m.accept = .accepted then 1 else 0

/-- A session whose race is won has all its admission work behind it, and one that is not accepted
has no pumps and no tasks. -/
structure Gated (s : RuntimeState) : Prop where
  fulfilled : ∀ k < s.plane.managedCount, (s.managed k).accept = .raceFulfilled ∨
    (s.managed k).accept = .accepted → (s.managed k).stage = .fulfilled
  pumps : ∀ k < s.plane.managedCount, Intakes (s.managed k) → (s.managed k).accept = .accepted
  tasks : ∀ w < s.plane.workCount, (s.plane.work w).kind ≠ .admission →
    (s.managed (s.plane.work w).owner).accept = .accepted
  counted : (s.acceptedSessions : Int) =
    tally s.plane.managedCount ManagedSession.acceptances s.managed

/-- A newcomer is not accepted and has no pumps yet. -/
theorem newcomer_closes {offer : SessionOffer} {readers : Bool × Bool × Bool} {m : ManagedSession}
    (h : (newcomer offer readers w).Closes m) :
    m.accept ≠ .accepted ∧ m.accept ≠ .raceFulfilled ∧ ¬ Intakes m := by
  have hnew : (newcomer offer readers w).accept ≠ .accepted ∧
      (newcomer offer readers w).accept ≠ .raceFulfilled ∧
        ¬ Intakes (newcomer offer readers w) := by
    unfold newcomer
    cases offer.aborted <;> simp [unmanaged, Intakes]
  refine ⟨?_, ?_, ?_⟩
  · rw [Ne, accepted_lasts h.toLasts]
    exact hnew.1
  · rcases h.accept with heq | ⟨-, error, heq⟩
    · rw [heq]
      exact hnew.2.1
    · simp [heq]
  · unfold Intakes
    rw [h.datagramPump, h.drain, h.streamPump]
    exact hnew.2.2

/-- A session that a step surfaces is not accepted in that step and takes nothing in. -/
theorem newcomer_step (hs : Sound s) (h : (machine deps).Step s e t)
    (hle : s.plane.managedCount ≤ k) (hlt : k < t.plane.managedCount) :
    (t.managed k).accept ≠ .accepted ∧ (t.managed k).accept ≠ .raceFulfilled ∧
      ¬ Intakes (t.managed k) := by
  rcases (turn_of_step hs h).managedCount hs with
    heq | ⟨heq, offer, readers, u, -, -, hopen, -, hclose⟩
  · omega
  · obtain rfl : k = s.plane.managedCount := by omega
    have hcloses := hclose.managed s.plane.managedCount
    rw [hopen.newcomer] at hcloses
    exact newcomer_closes hcloses

/-- Pumps and tasks come to a session with the step that accepts it or behind it, and that step
counts it. -/
theorem gated_step (hs : Sound s) (hu : Unbegun s) (h : (machine deps).Step s e t) (hg : Gated s) :
    Gated t := by
  have hturn := turn_of_step hs h
  have hlast : ∀ k, s.plane.managedCount ≤ k → k < t.plane.managedCount → _ :=
    fun k => newcomer_step hs h
  constructor
  · intro k hk haccept
    by_cases hlt : k < s.plane.managedCount
    · have hstage : (s.managed k).stage = .fulfilled := by
        have hjudged := hturn.judged hlt
        generalize (t.managed k).accept = accept at hjudged haccept
        cases hjudged with
        | same => exact hg.fulfilled k hlt haccept
        | fulfilled hrace hstage => exact hstage
        | rejected hrace => simp at haccept
        | returned hrace => simp at haccept
        | accepted hpass => exact hg.fulfilled k hlt (Or.inl hpass.race)
      rcases hturn.progress hlt with hprogress | hadmits
      · exact (congrArg Prod.fst hprogress).trans hstage
      · rw [over_admits hs hu hadmits (by rw [hstage]; rfl), hstage]
    · obtain ⟨haccepted, hfulfilled, -⟩ := hlast k (Nat.not_lt.mp hlt) hk
      exact absurd haccept (not_or.mpr ⟨hfulfilled, haccepted⟩)
  · intro k hk hi
    by_cases hlt : k < s.plane.managedCount
    · rcases hturn.intakes hlt hi with hbefore | haccepted
      · exact (hturn.judged hlt).accepted_iff (hg.pumps k hlt hbefore)
      · exact haccepted
    · exact absurd hi (hlast k (Nat.not_lt.mp hlt) hk).2.2
  · intro w hw hkind
    by_cases hold : w < s.plane.workCount
    · have hcontinues := hturn.continues hs hold
      rw [hcontinues.owner]
      exact (hturn.judged (hs.accounted.placement.owned w hold)).accepted_iff
        (hg.tasks w hold (hcontinues.kind ▸ hkind))
    · rcases (hturn.fresh hs (Nat.not_lt.mp hold) hw).1 with ⟨-, -, hadmission⟩ |
        ⟨howner, hactive, -⟩
      · exact absurd hadmission hkind
      · exact (hturn.judged howner).accepted_iff (hg.pumps _ howner hactive)
  · have hgrow : tally t.plane.managedCount ManagedSession.acceptances t.managed =
        tally s.plane.managedCount ManagedSession.acceptances t.managed := by
      rcases hturn.managedCount hs with heq | ⟨heq, -⟩
      · rw [heq]
      · have hnew := (hlast s.plane.managedCount le_rfl (by omega)).1
        rw [heq, tally, Finset.sum_range_succ, ← tally]
        simp [ManagedSession.acceptances, hnew]
    rw [hgrow]
    rcases hturn.accepts with ⟨hcount, hiff⟩ | ⟨k, hpass, -, hcount, haccepted, hothers⟩
    · rw [hcount, hg.counted]
      exact tally_congr fun k hk => by simp only [ManagedSession.acceptances, hiff k hk]
    · have hupdate : tally s.plane.managedCount ManagedSession.acceptances t.managed =
          tally s.plane.managedCount ManagedSession.acceptances
            (Function.update s.managed k (t.managed k)) := by
        refine tally_congr fun j _ => ?_
        by_cases he : j = k
        · rw [he, Function.update_self]
        · rw [Function.update_of_ne he, ManagedSession.acceptances, hothers j he,
            ← ManagedSession.acceptances]
      rw [hupdate, tally_update hpass.managed, hcount, Nat.cast_succ, hg.counted]
      simp [ManagedSession.acceptances, haccepted, hpass.race]

/-! ### Every run -/

/-- The facts about admission that hold in every state of a run. -/
structure Screened (deps : RuntimeDependencies) (s : RuntimeState) : Prop where
  winds : Winds s
  unbegun : Unbegun s
  follows : ∀ k < s.plane.managedCount, Follows deps (s.managed k)
  gated : Gated s

/-- The parts of the screening are kept together: each needs the others before the step. -/
theorem screened_step (h : (machine deps).Step s e t) (hs : Screened deps s) : Screened deps t where
  winds := winds_step h hs.winds
  unbegun := unbegun_step hs.winds.sound hs.winds.employed h hs.unbegun
  follows := follows_step hs.winds.sound hs.unbegun h hs.follows
  gated := gated_step hs.winds.sound hs.unbegun h hs.gated

theorem screened_new (deps : RuntimeDependencies) : Screened deps (new deps) where
  winds := winds_new deps
  unbegun := fun w hw => absurd hw (Nat.not_lt_zero w)
  follows := fun k hk => absurd hk (Nat.not_lt_zero k)
  gated := {
    fulfilled := fun k hk => absurd hk (Nat.not_lt_zero k)
    pumps := fun k hk => absurd hk (Nat.not_lt_zero k)
    tasks := fun w hw => absurd hw (Nat.not_lt_zero w)
    counted := rfl }

/-- Every run of the server screens its sessions. -/
theorem screened_run (h : (machine deps).Run (new deps) es t) : Screened deps t :=
  h.invariant (P := Screened deps) (fun _ _ _ => screened_step) (screened_new deps)

/-- The calls into the application the admission work has made. -/
def starts (m : ManagedSession) : List AdmissionEvent := m.log.filter AdmissionEvent.isStart

theorem throwIfAdmissionEnded_log {next : RuntimeState}
    (h : (s.managed k).isContextAborted = true) :
    ((throwIfAdmissionEnded s k next).managed k).log = (s.managed k).log := by
  rw [throwIfAdmissionEnded, h, Bool.true_or, if_pos rfl]
  exact update_field (·.log) rfl k

/-- Nothing starts once the context of the session is aborted. -/
theorem starts_admits (h : Admits deps s k e t) (hs : (s.managed k).isContextAborted = true) :
    starts (t.managed k) = starts (s.managed k) := by
  have hlog : ∀ {m m' : ManagedSession}, m'.log = m.log → starts m' = starts m := fun heq => by
    rw [starts, heq, ← starts]
  cases h with
  | @authenticated result hstage =>
    unfold authenticateSettled
    cases result with
    | error error => exact hlog (update_field (·.log) rfl k)
    | ok principal => exact hlog (throwIfAdmissionEnded_log hs)
  | @pipeline event hready =>
    unfold pipelineStep
    split
    · rename_i index phase hstage
      split
      · rfl
      · split
        · rfl
        · rename_i invocation hadvance
          rw [invocationReached, managed_update, if_pos rfl, managed_update, if_pos rfl]
          have hnote : starts (event.note index (s.managed k).context (s.managed k)) =
              starts (s.managed k) := by
            obtain ⟨reason, hreason⟩ := Option.isSome_iff_exists.mp hs
            unfold PipelineEvent.note
            split
            · simp [starts, ManagedSession.note, AdmissionEvent.isStart]
            · simp [starts, ManagedSession.note, AdmissionEvent.isStart]
            · simp [hreason, WebTransportExecutionPipeline.appliesCallback]
            · rfl
          rw [← hnote]
          cases invocation with
          | pending phase' => rfl
          | fulfilled => simp [starts, ManagedSession.note, AdmissionEvent.isStart]
          | rejected error => rfl
    · rfl
  | returned hstage => exact hlog (throwIfAdmissionEnded_log hs)
  | @resumed w rest hresumes howner =>
    obtain ⟨reason, hreason⟩ := Option.isSome_iff_exists.mp hs
    unfold resumeTask
    rw [hresumes]
    simp only [howner, hreason]
    split_ifs
    · exact hlog (update_field (·.log) rfl k)
    · rfl

/-- Session `k` was surfaced to a server that let it in, and accepted by a later step once its
admission work had fulfilled. -/
def LetIn (deps : RuntimeDependencies) (es : List RuntimeEvent) (t : RuntimeState) (k : Nat) :
    Prop :=
  ∃ first offer u v middle x y last,
    es = first ++ .surfaced offer :: (middle ++ .continueAdmission k :: last) ∧
    (machine deps).Run (new deps) first u ∧ (machine deps).Step u (.surfaced offer) v ∧
    (machine deps).Run v middle x ∧ (machine deps).Step x (.continueAdmission k) y ∧
    (machine deps).Run y last t ∧
    u.plane.managedCount = k ∧ Surfaces deps u offer ∧
    (x.managed k).session = offer.session ∧ Passes deps x k ∧
    Performed deps (script (handlerCount deps (x.managed k))) (x.managed k)

/-- A session that was let in met every check: the path, the limits, the headers and the origin. -/
theorem LetIn.checked (h : LetIn deps es t k) : ∃ first offer rest u,
    es = first ++ .surfaced offer :: rest ∧ (machine deps).Run (new deps) first u ∧
    deps.registry.hasPath offer.session.path = true ∧
    u.outstandingSessions.length < deps.options.limits.server.maxSessions.value ∧
    offer.session.id ∉ u.sessions.map Prod.fst ∧
    WebTransportSession.measureHeaders offer.session.headers ≤
      deps.options.security.maxHeaderSize.value ∧
    offer.session.validateOrigin deps.options deps.parseURL = none := by
  obtain ⟨first, offer, u, v, middle, x, y, last, rfl, hfirst, -, -, -, -, -, hchecks, -⟩ := h
  obtain ⟨hlimit, hfresh, hsize, horigin⟩ :=
    (offer.session.validateSession_eq_none deps.options deps.parseURL).mp hchecks.valid
  exact ⟨first, offer, _, u, rfl, hfirst, hchecks.path, hlimit, hfresh, hsize, horigin⟩

/-- A session keeps its index and what the driver said about it. -/
theorem session_run (h : (machine deps).Run s es t) (hs : Sound s) (hk : k < s.plane.managedCount) :
    k < t.plane.managedCount ∧ (t.managed k).session = (s.managed k).session := by
  induction h with
  | refl => exact ⟨hk, rfl⟩
  | @stepL s u t e es hst hrest ih =>
    have hturn := turn_of_step hs hst
    have hlt : k < u.plane.managedCount := by
      rcases hturn.managedCount hs with heq | ⟨heq, -⟩
      · exact hk.trans_eq heq.symm
      · exact (Nat.lt_succ_of_lt hk).trans_eq heq.symm
    obtain ⟨hcount, hsession⟩ := ih (sound_step hs hst) hlt
    exact ⟨hcount, hsession.trans (hturn.ages hk).session⟩

/-- The run is split at the step that accepts the session and, before it, at the one that surfaced
it. -/
theorem letIn_run (h : (machine deps).Run (new deps) es t) (hk : k < t.plane.managedCount)
    (haccept : (t.managed k).accept = .accepted) : LetIn deps es t k := by
  obtain ⟨before, e, last, x, y, rfl, hbefore, hstep, hnot, hy, hlast⟩ := h.exists_step_of_change
    (P := fun s => k < s.plane.managedCount ∧ (s.managed k).accept = .accepted)
    (fun hnew => absurd hnew.1 (Nat.not_lt_zero k)) ⟨hk, haccept⟩
  have hx := screened_run hbefore
  have hturn := turn_of_step hx.winds.sound hstep
  by_cases hlt : k < x.plane.managedCount
  · have hpass : Passes deps x k ∧ e = .continueAdmission k := by
      have hjudged := hturn.judged hlt
      rw [hy.2] at hjudged
      generalize haccepted : AcceptPhase.accepted = accept at hjudged
      cases hjudged with
      | same => exact absurd ⟨hlt, haccepted.symm⟩ hnot
      | fulfilled hrace hstage => cases haccepted
      | rejected hrace => cases haccepted
      | returned hrace => cases haccepted
      | accepted hpass => exact ⟨hpass, rfl⟩
    obtain ⟨hpass, rfl⟩ := hpass
    obtain ⟨first, e, middle, u, v, rfl, hfirst, hsurfaced, hout, hin, hmiddle⟩ :=
      hbefore.exists_step_of_change (P := fun s => k < s.plane.managedCount)
        (Nat.not_lt_zero k) hlt
    have hu := sound_run hfirst (sound_new deps)
    have hv := sound_step hu hsurfaced
    rcases (turn_of_step hu hsurfaced).managedCount hu with
      heq | ⟨heq, offer, readers, m, rfl, hchecks, hopen, -, hclose⟩
    · omega
    · obtain rfl : k = u.plane.managedCount := by omega
      have hsession : (v.managed u.plane.managedCount).session = offer.session := by
        rw [(hclose.managed _).session, hopen.newcomer]
        unfold newcomer
        cases offer.aborted <;> rfl
      have hperformed := hx.follows _ hlt
      unfold Follows at hperformed
      rw [hx.gated.fulfilled _ hlt (Or.inl hpass.race)] at hperformed
      exact ⟨first, offer, u, v, middle, x, y, last, by simp, hfirst, hsurfaced, hmiddle, hstep,
        hlast, rfl, hchecks, (session_run hmiddle hv hin).2.trans hsession, hpass, hperformed⟩
  · exact absurd hy.2 (newcomer_step hx.winds.sound hstep (Nat.not_lt.mp hlt) hy.1).1

/-- The admission work stays on its script and starts nothing once the context is aborted; without
passing every check a session does not count as accepted and has neither pumps nor tasks. -/
theorem admissionGate_run (h : (machine deps).Run (new deps) es t) :
    (∀ k < t.plane.managedCount, OnScript deps (t.managed k)) ∧
    (∀ e u, (machine deps).Step t e u → ∀ k < t.plane.managedCount,
      (t.managed k).isContextAborted = true → starts (u.managed k) = starts (t.managed k)) ∧
    (t.acceptedSessions : Int) = tally t.plane.managedCount ManagedSession.acceptances t.managed ∧
    (∀ k < t.plane.managedCount, (t.managed k).accept = .accepted → LetIn deps es t k) ∧
    (∀ k < t.plane.managedCount, Intakes (t.managed k) → LetIn deps es t k) ∧
    ∀ w < t.plane.workCount, (t.plane.work w).kind ≠ .admission →
      LetIn deps es t (t.plane.work w).owner := by
  have hs := screened_run h
  refine ⟨fun k hk => (hs.follows k hk).onScript, fun e u hst k hk haborted => ?_, hs.gated.counted,
    fun k hk => letIn_run h hk, fun k hk hi => letIn_run h hk (hs.gated.pumps k hk hi),
    fun w hw hkind => ?_⟩
  · rcases (turn_of_step hs.winds.sound hst).progress hk with hsame | hadmits
    · have hlog : (u.managed k).log = (t.managed k).log := congrArg Prod.snd hsame
      rw [starts, hlog, ← starts]
    · exact starts_admits hadmits haborted
  · exact letIn_run h (hs.winds.sound.accounted.placement.owned w hw) (hs.gated.tasks w hw hkind)

theorem admissionGate_run_small :
    ∃ t : RuntimeState,
      (t.managed 0).accept = .accepted ∧ LetIn datagramServer smallDatagram t 0 := by
  obtain ⟨t, hrun, hk, haccept⟩ := exists_run datagramServer (new datagramServer) smallDatagram
    (fun t => 0 < t.plane.managedCount ∧ (t.managed 0).accept = .accepted) (by decide)
  exact ⟨t, haccept, (admissionGate_run hrun).2.2.2.1 0 hk haccept⟩

end NestWebTransport.WebTransportRuntime
