import NestWebTransport.Server.RuntimePumps

/-! What the admission work, moving work between lists and starting the pumps may change. -/
namespace NestWebTransport.WebTransportRuntime

variable {options : NormalizedWebTransportModuleOptions} {deps : RuntimeDependencies}
  {s t u : RuntimeState} {k w : Nat}

/-! ### One session -/

/-- A stretch that at most moves work between lists and changes session `k` as `R` allows. -/
structure Touching (options : NormalizedWebTransportModuleOptions)
    (R : ManagedSession → ManagedSession → Prop) (k : Nat) (s t : RuntimeState) : Prop where
  state : t = { s with plane := t.plane, managed := t.managed }
  plane : DataPlane.Evolves options s.plane t.plane
  steady : Workload.Steady s.plane.toWorkload t.plane.toWorkload
  accepting : ∀ j, (t.plane.scheduler j).accepting = (s.plane.scheduler j).accepting
  others : ∀ j, j ≠ k → t.managed j = s.managed j
  session : R (s.managed k) (t.managed k)

/-- Only the stage of the admission work and its log differ. -/
def Advances (m m' : ManagedSession) : Prop := m' = { m with stage := m'.stage, log := m'.log }

/-- Only readers and pumps differ. -/
def Launches (m m' : ManagedSession) : Prop :=
  m' = { m with
    datagramReader := m'.datagramReader
    bidirectionalReader := m'.bidirectionalReader
    unidirectionalReader := m'.unidirectionalReader
    datagramPump := m'.datagramPump
    streamPump := m'.streamPump }

theorem Advances.trans {m m' m'' : ManagedSession} (h : Advances m m') (h' : Advances m' m'') :
    Advances m m'' := by
  unfold Advances at *
  rw [h] at h'
  exact h'

theorem Launches.trans {m m' m'' : ManagedSession} (h : Launches m m') (h' : Launches m' m'') :
    Launches m m'' := by
  unfold Launches at *
  rw [h] at h'
  exact h'

/-- The admission work of session `k` goes on. -/
abbrev Admitting (options : NormalizedWebTransportModuleOptions) (k : Nat) (s t : RuntimeState) :
    Prop := Touching options Advances k s t

/-- Pumps of session `k` start. -/
abbrev Launching (options : NormalizedWebTransportModuleOptions) (k : Nat) (s t : RuntimeState) :
    Prop := Touching options Launches k s t

variable {R : ManagedSession → ManagedSession → Prop}

theorem Touching.refl (h : R (s.managed k) (s.managed k)) : Touching options R k s s :=
  ⟨rfl, .refl, .refl _, fun _ => rfl, fun _ _ => rfl, h⟩

theorem Touching.comp (h : Touching options R k s t) (h' : Touching options R k t u)
    (hR : R (s.managed k) (u.managed k)) : Touching options R k s u where
  state := by
    have hu := h'.state
    rw [h.state] at hu
    exact hu
  plane := h.plane.trans h'.plane
  steady := h.steady.trans h'.steady
  accepting := fun j => (h'.accepting j).trans (h.accepting j)
  others := fun j hj => (h'.others j hj).trans (h.others j hj)
  session := hR

theorem Touching.sound (h : Touching options R k s t) (hs : Sound s) : Sound t := by
  have hstate := h.state
  refine ⟨h.plane.accounted hs.accounted, ?_, ?_, ?_⟩
  · rw [h.steady.managedCount, show t.outstandingSessions = s.outstandingSessions by rw [hstate]]
    exact hs.outstanding
  · rw [h.steady.managedCount, show t.sessions = s.sessions by rw [hstate]]
    exact hs.sessions
  · rw [show t.stopPhase = s.stopPhase by rw [hstate],
      show t.stopCalls = s.stopCalls by rw [hstate]]
    exact hs.stopping

theorem touching_update {f : ManagedSession → ManagedSession}
    (h : R (s.managed k) (f (s.managed k))) : Touching options R k s (update s k f) where
  state := rfl
  plane := .refl
  steady := .refl _
  accepting := fun _ => rfl
  others := fun j hj => by rw [managed_update, if_neg hj]
  session := by
    rw [managed_update, if_pos rfl]
    exact h

theorem admitting_refl : Admitting options k s s := .refl (R := Advances) rfl

theorem Touching.admitting (h : Admitting options k s t) (h' : Admitting options k t u) :
    Admitting options k s u := h.comp h' (h.session.trans h'.session)

theorem Touching.launching (h : Launching options k s t) (h' : Launching options k t u) :
    Launching options k s u := h.comp h' (h.session.trans h'.session)

/-! ### The admission work -/

theorem admitting_update {f : ManagedSession → ManagedSession}
    (h : f (s.managed k) =
      { s.managed k with stage := (f (s.managed k)).stage, log := (f (s.managed k)).log }) :
    Admitting options k s (update s k f) := touching_update (R := Advances) h

theorem admitting_note (event : AdmissionEvent) :
    Admitting options k s (update s k (·.note event)) := admitting_update rfl

theorem admitting_throwIfAdmissionEnded (h : Admitting options k s t) :
    Admitting options k s (throwIfAdmissionEnded s k t) := by
  unfold throwIfAdmissionEnded
  split_ifs
  · exact admitting_update rfl
  · exact h

theorem admitting_invocationReached (index : Nat) (invocation : Invocation) :
    Admitting options k s (invocationReached s k index invocation) := by
  unfold invocationReached
  cases invocation
  · exact admitting_update rfl
  · exact admitting_update rfl
  · exact admitting_update rfl

theorem admitting_runSessionHandlers (index : Nat) :
    Admitting options k s (runSessionHandlers deps s k index) := by
  unfold runSessionHandlers
  split
  · exact admitting_update rfl
  · exact admitting_throwIfAdmissionEnded
      ((admitting_note _).admitting (admitting_invocationReached index _))

theorem admitting_authenticate :
    Admitting options k s (authenticateAndRunSessionHandlers deps s k) := by
  apply admitting_throwIfAdmissionEnded
  split_ifs
  · exact admitting_update rfl
  · exact admitting_runSessionHandlers 0

theorem admitting_authenticateSettled (result : Except Failure Principal) :
    Admitting options k s (authenticateSettled deps s k result) := by
  unfold authenticateSettled
  cases result with
  | error error => exact admitting_update rfl
  | ok principal =>
    apply admitting_throwIfAdmissionEnded
    split_ifs
    · exact admitting_update rfl
    · exact (admitting_note _).admitting (admitting_runSessionHandlers 0)

theorem admitting_handlerReturned (index : Nat) :
    Admitting options k s (handlerReturned deps s k index) :=
  admitting_throwIfAdmissionEnded (admitting_runSessionHandlers _)

theorem admitting_pipelineNote (event : PipelineEvent) (index : Nat) (aborted : Option Failure) :
    Admitting options k s (update s k (event.note index aborted)) := by
  refine admitting_update ?_
  unfold PipelineEvent.note
  split
  · rfl
  · rfl
  · split_ifs
    · rfl
    · rfl
  · rfl

theorem admitting_pipelineStep (event : PipelineEvent) :
    Admitting options k s (pipelineStep deps s k event) := by
  unfold pipelineStep
  split
  · split
    · exact admitting_refl
    · split
      · exact admitting_refl
      · exact (admitting_pipelineNote event _ _).admitting (admitting_invocationReached _ _)
  · exact admitting_refl

/-! ### Moving work -/

theorem easing_load {load : Workload} (hi : Workload.Internal s.plane.toWorkload load)
    (hsteady : Workload.Steady s.plane.toWorkload load)
    (hscheduler : load.scheduler = s.plane.scheduler) : Easing options s (setLoad s load) :=
  easing_plane (.single (.internal hi)) hsteady fun k => Or.inl (by rw [hscheduler])

theorem easing_callTask (hs : Sound s) : Easing options s (callTask s) := by
  unfold callTask
  split
  · exact .refl s
  · rename_i w rest hstarts
    have hmoves : Workload.Moves s.plane.toWorkload
        (s.plane.toWorkload.callTask (s.managed (s.plane.work w).owner).isContextAborted) :=
      Workload.moves_callTask hs.accounted.placement
    exact easing_load .callTask (hmoves.steady (Workload.runs_callTask hs.accounted.placement))
      hmoves.scheduler

/-- An error that is reported may close its session or stop the server, and finalizes none. -/
theorem easing_errorObserved (hs : Sound s) (hw : w < s.plane.workCount) :
    Easing deps.options s (errorObserved deps s w) := by
  unfold errorObserved
  split
  · rename_i error hp
    have hobserved : Easing deps.options s
        (setLoad s (s.plane.toWorkload.setPhase w .finishing)) := by
      have hmoves : Workload.Moves s.plane.toWorkload (s.plane.toWorkload.setPhase w .finishing) :=
        Workload.moves_setPhase (by simp [Workload.Moving, hp]) (by simp [Workload.Moving])
      exact easing_load (.observe hw hp)
        (hmoves.steady (Workload.runs_setPhase (by simp [Workload.Unlisted, hp]))) hmoves.scheduler
    simp only
    split_ifs
    · exact hobserved
    · exact hobserved.trans (easing_handleRuntimeError (hobserved.sound hs) error)
  · exact .refl s

/-- A task that settles leaves the schedulers open or closed as they are. -/
theorem settleTask_accepting (l : Workload) (w j : Nat) :
    ((l.settleTask w).scheduler j).accepting = (l.scheduler j).accepting := by
  unfold Workload.settleTask
  generalize hm :
    (l.setScheduler (l.work w).owner (l.scheduler (l.work w).owner).leave).settle w = m
  have hleave : (m.scheduler j).accepting = (l.scheduler j).accepting := by
    rw [← hm]
    by_cases hj : j = (l.work w).owner
    · subst hj
      simp [Workload.settle, Workload.setScheduler, BoundedTaskScheduler.leave]
    · simp [Workload.settle, Workload.setScheduler, hj]
  rw [← hleave]
  simp only
  rw [hm]
  obtain ⟨-, heq⟩ | ⟨v, rest, -, heq⟩ := m.promote_cases (l.work w).owner <;> rw [heq]
  · by_cases hj : j = (l.work w).owner
    · subst hj
      simp [Workload.setScheduler]
    · simp [Workload.setScheduler, hj]
  · by_cases hj : j = (l.work w).owner
    · subst hj
      simp [Workload.promoted, Workload.setScheduler, Workload.setPhase]
    · simp [Workload.promoted, Workload.setScheduler, Workload.setPhase, hj]

theorem easing_settled (hs : Sound s) (hw : w < s.plane.workCount)
    (hp : (s.plane.work w).phase = .finishing) : Easing options s (settled s w) := by
  unfold settled
  split_ifs with hkind
  · exact easing_load (.settleAdmission hw hp hkind) (Workload.steady_settle (by simp [hp])) rfl
  · exact easing_plane (.single (.settleTask hw hp hkind))
      (Workload.steady_settleTask hs.accounted hw hkind hp)
      fun j => Or.inl (settleTask_accepting _ w j)

/-- `authenticate` or a session handler has been called and the loop has not ended. -/
def isWorking : AdmissionStage → Bool
  | .authenticating | .invoking _ _ | .invoked _ => true
  | _ => false

/-- The admission work of session `k` only starts working while it is in user code. -/
def Attended (k : Nat) (s t : RuntimeState) : Prop :=
  isWorking (s.managed k).stage = true ∨ isWorking (t.managed k).stage = false ∨
    ∃ w < s.plane.workCount, (s.plane.work w).kind = .admission ∧ (s.plane.work w).owner = k ∧
      (t.plane.work w).phase = .running

/-- The admission work of a resumed caller goes on, or its task enters user code. -/
theorem admitting_resumeTask {rest : List Nat} (hs : Sound s) (hr : s.plane.resumes = w :: rest) :
    (s.plane.work w).owner < s.plane.managedCount ∧
      Admitting options (s.plane.work w).owner s (resumeTask deps s) ∧
      Attended (s.plane.work w).owner s (resumeTask deps s) := by
  have hw := (hs.accounted.placement.granted.mem (w := w) (by simp [hr])).1
  refine ⟨hs.accounted.placement.owned w hw, ?_⟩
  unfold resumeTask
  rw [hr]
  have hrunning : (s.managed (s.plane.work w).owner).context = none →
      ((s.plane.toWorkload.resumeTask
        (s.managed (s.plane.work w).owner).isContextAborted).work w).phase = .running := by
    intro hcontext
    simp [Workload.resumeTask, hr, ManagedSession.isContextAborted, hcontext, Workload.beginTask,
      Workload.setPhase]
  have hmoves : Workload.Moves s.plane.toWorkload (s.plane.toWorkload.resumeTask
      (s.managed (s.plane.work w).owner).isContextAborted) :=
    Workload.moves_resumeTask hs.accounted.placement
  have hresumed : Admitting options (s.plane.work w).owner s (setLoad s
      (s.plane.toWorkload.resumeTask (s.managed (s.plane.work w).owner).isContextAborted)) :=
    { (admitting_refl : Admitting options _ s s) with
      state := rfl
      plane := .single (.internal .resumeTask)
      steady := hmoves.steady (Workload.runs_resumeTask hs.accounted.placement)
      accepting := fun j =>
        congrArg BoundedTaskScheduler.accepting (congrFun hmoves.scheduler j) }
  simp only
  split_ifs with hkind
  · split
    · refine ⟨hresumed.admitting (admitting_update rfl), Or.inr (Or.inl ?_)⟩
      rw [managed_update, if_pos rfl]
      rfl
    · rename_i hcontext
      have hgoes : ∀ u : RuntimeState, Admitting options (s.plane.work w).owner u
          (authenticateAndRunSessionHandlers deps u (s.plane.work w).owner) :=
        fun u => admitting_authenticate
      refine ⟨hresumed.admitting (hgoes _), Or.inr (Or.inr ⟨w, hw, hkind, rfl, ?_⟩)⟩
      exact (hgoes _).steady.runs.1 w (hrunning hcontext)
  · refine ⟨hresumed, ?_⟩
    cases hworking : isWorking (s.managed (s.plane.work w).owner).stage with
    | true => exact Or.inl hworking
    | false => exact Or.inr (Or.inl hworking)

/-! ### Starting the pumps -/

theorem launching_refl : Launching options k s s := .refl (R := Launches) rfl

theorem launching_awaitCapacity (waiter : Waiter) :
    Launching options k s (awaitCapacity s k waiter) := by
  have hwait : Easing options s (awaitCapacity s k waiter) := easing_awaitCapacity waiter
  have hpump : Pumping options k s (awaitCapacity s k waiter) := pumping_awaitCapacity waiter
  exact {
    state := rfl
    plane := hwait.plane
    steady := hwait.steady
    accepting := hpump.accepting
    others := fun _ _ => rfl
    session := rfl }

theorem launching_streamLoop (kind : StreamKind) : Launching options k s (streamLoop s k kind) := by
  unfold streamLoop
  split_ifs
  · refine touching_update (R := Launches) ?_
    cases kind <;> rfl
  · have hset : Launching options k s (update s k (·.setStreamPump kind .awaitingCapacity)) :=
      touching_update (R := Launches) rfl
    exact hset.launching (launching_awaitCapacity (.pump kind))

/-- The pumps start with nothing read. -/
theorem launching_startPumps : Launching options k s (startPumps s k) := by
  unfold startPumps
  have hdatagram : Launching options k s
      (if (s.managed k).datagramReader then
        update s k fun m => { m with datagramPump := if m.isIntakeOver then .ended else .reading }
      else s) := by
    split_ifs
    · exact touching_update (R := Launches) rfl
    · exact launching_refl
  have hstream : ∀ (t : RuntimeState) (kind : StreamKind) (reader : Bool),
      Launching options k t (if reader then streamLoop t k kind else t) := by
    intro t kind reader
    split_ifs
    · exact launching_streamLoop kind
    · exact launching_refl
  exact (hdatagram.launching (hstream _ .bidirectional _)).launching
    (hstream _ .unidirectional _)

end NestWebTransport.WebTransportRuntime
