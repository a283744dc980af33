import NestWebTransport.Server.RuntimeTurns

/-! What the steps of the runtime do to each piece of work. -/
namespace NestWebTransport.WebTransportRuntime

variable {deps : RuntimeDependencies} {s t u : RuntimeState} {e : RuntimeEvent}
  {es : List RuntimeEvent} {k w : Nat}

/-! ### The initial state -/

theorem accounted_new (options : NormalizedWebTransportModuleOptions) :
    Workload.Accounted (DataPlane.new options).toWorkload where
  placement := {
    waiting := .nil fun i hi => absurd hi (Nat.not_lt_zero i)
    granted := .nil fun i hi => absurd hi (Nat.not_lt_zero i)
    starting := .nil fun i hi => absurd hi (Nat.not_lt_zero i)
    pending := fun k => .nil fun i hi => absurd hi (Nat.not_lt_zero i)
    owned := fun i hi => absurd hi (Nat.not_lt_zero i) }
  reservations := by
    constructor <;> simp [DataPlane.new, HandlerBudget.new]
  running := by simp [Workload.Running, DataPlane.new, HandlerBudget.new]
  bounded := by
    constructor <;> simp [DataPlane.new, HandlerBudget.new]
    omega
  scheduled := by
    constructor <;> simp [DataPlane.new, BoundedTaskScheduler.new]


theorem sound_new (deps : RuntimeDependencies) : Sound (new deps) where
  accounted := accounted_new deps.options
  outstanding := by simp [new]
  sessions := by simp [new]
  stopping := by simp [new]

/-! ### Runs -/

/-- Soundness follows from the turn that a step is. -/
theorem sound_step (hs : Sound s) (h : (machine deps).Step s e t) : Sound t :=
  (turn_of_step hs h).sound hs

/-- A sound server stays sound through any run. -/
theorem sound_run (h : (machine deps).Run s es t) (hs : Sound s) : Sound t :=
  h.invariant (fun _ _ _ hst hs => sound_step hs hst) hs

/-- To the data plane a step of the server is an operation of its own. -/
theorem evolves_step (hs : Sound s) (h : (machine deps).Step s e t) :
    DataPlane.Evolves deps.options s.plane t.plane := (turn_of_step hs h).plane

/-- The data plane evolves along every run of the server. -/
theorem evolves_run (h : (machine deps).Run s es t) (hs : Sound s) :
    DataPlane.Evolves deps.options s.plane t.plane := by
  induction h with
  | refl => exact .refl
  | stepL hst hrest ih => exact (evolves_step hs hst).trans (ih (sound_step hs hst))

/-! ### Work from before the step -/

/-- What a step leaves of a piece of work. -/
structure Continues (a b : Work) : Prop where
  owner : b.owner = a.owner
  kind : b.kind = a.kind
  charged : b.charged = a.charged
  settled : a.phase = .settled → b.phase = .settled

theorem Continues.refl (a : Work) : Continues a a := ⟨rfl, rfl, rfl, id⟩

theorem continues_steady {l l' : Workload} (h : Workload.Steady l l') (w : Nat) :
    Continues (l.work w) (l'.work w) := by
  obtain ⟨howner, hkind, hcharged, -⟩ := (h.contents w).fields
  exact ⟨howner, hkind, hcharged, h.settled w⟩

/-- Work keeps its kind, its owner and its charge through any step. -/
theorem Turn.continues (h : Turn deps s e t) (hs : Sound s) (hw : w < s.plane.workCount) :
    Continues (s.plane.work w) (t.plane.work w) := by
  cases h with
  | closing h => exact continues_steady h.steady w
  | refused hrecords h => exact continues_steady h.steady w
  | opened hchecks hopen hrecords h =>
    have hlast := continues_steady h.steady w
    rwa [hopen.old w hw] at hlast
  | admitting hk hadmits h hwork => exact continues_steady h.steady w
  | observed hk hadmission hsettled => exact .refl _
  | returned hk hrace h => exact continues_steady h.steady w
  | accepted hk hrace hopen hrunning h => exact continues_steady h.steady w
  | retired hk hready =>
    rw [retired_plane]
    exact .refl _
  | @detached v hv hp =>
    by_cases he : w = v
    · subst he
      constructor <;> simp [setLoad, Workload.detach]
    · simpa [setLoad, Workload.detach, he] using Continues.refl (s.plane.work w)
  | @ended v failure hv hp hover =>
    have hkept := (moves_runEnded hs hp failure).work w
    obtain ⟨howner, hkind, hcharged, -⟩ := hkept.same.fields
    exact ⟨howner, hkind, hcharged, hkept.2.mpr⟩
  | pumping hk hactive h =>
    obtain ⟨u, hpump, hease⟩ := h
    have hlast := continues_steady hease.steady w
    rwa [hpump.old w hw] at hlast

/-- Only a handler or a resolver that is told so changes what the array of its datagram reads. -/
theorem Turn.byteLength (h : Turn deps s e t) (hs : Sound s) (hw : w < s.plane.workCount)
    (he : e ≠ .detached w) : (t.plane.work w).byteLength = (s.plane.work w).byteLength := by
  have hsteady : ∀ {l l' : Workload}, Workload.Steady l l' →
      (l'.work w).byteLength = (l.work w).byteLength := fun h => (h.contents w).fields.2.2.2
  cases h with
  | closing h => exact hsteady h.steady
  | refused hrecords h => exact hsteady h.steady
  | opened hchecks hopen hrecords h => rw [hsteady h.steady, hopen.old w hw]
  | admitting hk hadmits h hwork => exact hsteady h.steady
  | observed hk hadmission hsettled => rfl
  | returned hk hrace h => exact hsteady h.steady
  | accepted hk hrace hopen hrunning h => exact hsteady h.steady
  | retired hk hready => rw [retired_plane]
  | @detached v hv hp =>
    have hne : w ≠ v := by
      rintro rfl
      exact he rfl
    simp [setLoad, Workload.detach, hne]
  | @ended v failure hv hp hover =>
    exact ((moves_runEnded hs hp failure).work w).same.fields.2.2.2
  | pumping hk hactive h =>
    obtain ⟨u, hpump, hease⟩ := h
    rw [hsteady hease.steady, hpump.old w hw]

/-- Work is only added. -/
theorem Turn.workCount (h : Turn deps s e t) (hs : Sound s) :
    s.plane.workCount ≤ t.plane.workCount := by
  cases h with
  | closing h => exact h.steady.workCount.ge
  | refused hrecords h => exact h.steady.workCount.ge
  | opened hchecks hopen hrecords h =>
    rw [h.steady.workCount, hopen.workCount]
    exact Nat.le_add_right _ _
  | admitting hk hadmits h hwork => exact h.steady.workCount.ge
  | observed hk hadmission hsettled => exact le_rfl
  | returned hk hrace h => exact h.steady.workCount.ge
  | accepted hk hrace hopen hrunning h => exact h.steady.workCount.ge
  | retired hk hready => rw [retired_plane]
  | detached hv hp => exact le_rfl
  | @ended v failure hv hp hover => exact (moves_runEnded hs hp failure).workCount.ge
  | pumping hk hactive h =>
    obtain ⟨u, hpump, hease⟩ := h
    exact hpump.workCount.trans hease.steady.workCount.ge

/-! ### New work -/

/-- New work is the admission of a session that becomes managed or a task of a session whose pumps
have started. -/
inductive Hired (s : RuntimeState) (e : RuntimeEvent) (a : Work) : Prop
  | admission {offer : SessionOffer} (he : e = .surfaced offer)
    (howner : a.owner = s.plane.managedCount)
      (hkind : a.kind = .admission) : Hired s e a
  | task (howner : a.owner < s.plane.managedCount) (hactive : Intakes (s.managed a.owner))
      (hkind : a.kind ≠ .admission) : Hired s e a

/-- Work that a step adds is the admission of a new session, or was submitted by the pump that
moved. -/
theorem Turn.fresh (h : Turn deps s e t) (hs : Sound s) (hle : s.plane.workCount ≤ w)
    (hlt : w < t.plane.workCount) : Hired s e (t.plane.work w) ∧
      (t.plane.work w).byteLength = (t.plane.work w).charged := by
  have hsame : ∀ {l : Workload}, l.workCount = s.plane.workCount → w < l.workCount → False :=
    fun hcount hlt => by omega
  cases h with
  | closing h => exact (hsame h.steady.workCount hlt).elim
  | refused hrecords h => exact (hsame h.steady.workCount hlt).elim
  | opened hchecks hopen hrecords h =>
    obtain ⟨howner, hkind, hcharged, hlength⟩ := (h.steady.contents w).fields
    obtain ⟨hnew, hadmission, hread⟩ := hopen.fresh w hle (hlt.trans_eq h.steady.workCount)
    exact ⟨.admission rfl (howner.trans hnew) (hkind.trans hadmission), by
      rw [hlength, hread, hcharged]⟩
  | admitting hk hadmits h hwork => exact (hsame h.steady.workCount hlt).elim
  | observed hk hadmission hsettled => exact (hsame rfl hlt).elim
  | returned hk hrace h => exact (hsame h.steady.workCount hlt).elim
  | accepted hk hrace hopen hrunning h => exact (hsame h.steady.workCount hlt).elim
  | retired hk hready =>
    rw [retired_plane] at hlt
    exact (hsame rfl hlt).elim
  | detached hv hp => exact (hsame rfl hlt).elim
  | @ended v failure hv hp hover => exact (hsame (moves_runEnded hs hp failure).workCount hlt).elim
  | pumping hk hactive h =>
    obtain ⟨u, hpump, hease⟩ := h
    obtain ⟨howner, hkind, hcharged, hlength⟩ := (hease.steady.contents w).fields
    obtain ⟨hnew, htask, hread⟩ := hpump.fresh w hle (hlt.trans_eq hease.steady.workCount)
    have hof := howner.trans hnew
    exact ⟨.task (hof ▸ hk) (hof ▸ hactive) (hkind ▸ htask), by rw [hlength, hread, hcharged]⟩

/-! ### Over runs -/

/-- The array of a datagram nobody transferred reads what it was charged. -/
theorem byteLength_run (h : (machine deps).Run (new deps) es t) (hw : w < t.plane.workCount)
    (hes : .detached w ∉ es) : (t.plane.work w).byteLength = (t.plane.work w).charged := by
  have hkeep : ∀ s e t, e ≠ RuntimeEvent.detached w → (machine deps).Step s e t →
      (Sound s ∧ (w < s.plane.workCount → (s.plane.work w).byteLength = (s.plane.work w).charged)) →
      Sound t ∧ (w < t.plane.workCount →
        (t.plane.work w).byteLength = (t.plane.work w).charged) := by
    intro s e t he hst hs
    have hturn := turn_of_step hs.1 hst
    refine ⟨hturn.sound hs.1, fun hlt => ?_⟩
    by_cases hold : w < s.plane.workCount
    · rw [hturn.byteLength hs.1 hold he, (hturn.continues hs.1 hold).charged]
      exact hs.2 hold
    · exact (hturn.fresh hs.1 (Nat.not_lt.mp hold) hlt).2
  have hok : ∀ e ∈ es, e ≠ RuntimeEvent.detached w := by
    rintro e he rfl
    exact hes he
  exact (h.invariant_of_events _ hkeep hok
    ⟨sound_new deps, fun hlt => absurd hlt (Nat.not_lt_zero w)⟩).2 hw

/-- A datagram whose array is transferred away reads no bytes from then on. -/
theorem detached_step (h : (machine deps).Step s (.detached w) t) :
    w < t.plane.workCount ∧ (t.plane.work w).byteLength = 0 := by
  obtain ⟨henabled, rfl⟩ := h
  simp only [enabled, Bool.and_eq_true, decide_eq_true_eq] at henabled
  exact ⟨henabled.1.1, by simp [next, setLoad, Workload.detach]⟩

/-- Once transferred, it reads 0. -/
theorem detached_run (h : (machine deps).Run (new deps) es t) (hes : .detached w ∈ es) :
    w < t.plane.workCount ∧ (t.plane.work w).byteLength = 0 := by
  have hstable : ∀ s f t, (machine deps).Step s f t → Sound s →
      (w < s.plane.workCount ∧ (s.plane.work w).byteLength = 0) →
      w < t.plane.workCount ∧ (t.plane.work w).byteLength = 0 := by
    intro s f t hst hs hzero
    by_cases hf : f = .detached w
    · subst hf
      exact detached_step hst
    · have hturn := turn_of_step hs hst
      refine ⟨hzero.1.trans_le (hturn.workCount hs), ?_⟩
      rw [hturn.byteLength hs hzero.1 hf]
      exact hzero.2
  exact h.holds_after (P := fun s => w < s.plane.workCount ∧ (s.plane.work w).byteLength = 0)
    (fun s e t hst hs => sound_step hs hst) (fun s t hst hs => detached_step hst) hstable
    (sound_new deps) hes

end NestWebTransport.WebTransportRuntime
