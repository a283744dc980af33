import NestWebTransport.Server.RuntimeContents

/-! The aggregate work budget over every run of the runtime. -/
namespace NestWebTransport

variable {options : NormalizedWebTransportModuleOptions} {deps : RuntimeDependencies}
  {s t : RuntimeState} {e : RuntimeEvent} {es : List RuntimeEvent} {k w : Nat}

/-! ### The size of the budget -/

/-- The two sizes a budget was made with. -/
def HandlerBudget.size (budget : HandlerBudget) : Nat × Nat := (budget.concurrency, budget.pending)

namespace Workload

variable {l l' : Workload} {overflow : HandlerOverflowPolicy}

theorem Keeps.size (h : Keeps l l') : l'.handlerBudget.size = l.handlerBudget.size := by
  unfold HandlerBudget.size
  rw [h.concurrency, h.pending]

theorem reserve_size {r : Nat} {budget : HandlerBudget}
    (h : l.handlerBudget.reserve = some (r, budget)) : budget.size = l.handlerBudget.size := by
  obtain ⟨-, -, rfl⟩ := (HandlerBudget.reserve_eq_some _).mp h
  rfl

/-- No operation of the tasks changes the two limits of the budget. -/
theorem size_internal (h : Internal l l') (hl : Placement [] [] l) :
    l'.handlerBudget.size = l.handlerBudget.size := by
  cases h with
  | @returnReservation r budget hr =>
    have hsize : budget.size = l.handlerBudget.size := reserve_size hr
    exact hsize
  | @runAdmission k r budget aborted hk hr =>
    exact (moves_runAdmission { l with handlerBudget := budget } k r aborted).size.trans
      (reserve_size hr)
  | callTask => exact (moves_callTask hl).size
  | resumeTask => exact (moves_resumeTask hl).size
  | finishRun hw hp hnew => exact (moves_finish hl hp hnew).size
  | observe => rfl
  | settleAdmission => rfl
  | abortWaiter => exact (moves_abortWaiter hl).size
  | reconfigure => rfl

/-- No operation changes the two limits of the budget. -/
theorem size_step (h : Step overflow l l') (hl : Placement [] [] l) :
    l'.handlerBudget.size = l.handlerBudget.size := by
  cases h with
  | internal h => exact size_internal h hl
  | openSession => rfl
  | @submit k bytes kind hk hkind =>
    obtain ⟨-, heq⟩ | ⟨r, budget, hr, ⟨heq, -⟩ | ⟨heq, -⟩ | ⟨refusal, -, -, heq⟩⟩ :=
      l.submit_cases k overflow kind bytes <;> rw [heq]
    all_goals
      have hsize : budget.size = l.handlerBudget.size := reserve_size hr
      exact hsize
  | @settleTask w hw hp hkind =>
    unfold settleTask
    obtain ⟨-, heq⟩ | ⟨v, rest, -, heq⟩ := ((l.setScheduler (l.work w).owner
      (l.scheduler (l.work w).owner).leave).settle w).promote_cases (l.work w).owner <;>
      simp only [heq] <;> rfl
  | discard hp => rfl
  | detach => rfl

end Workload

theorem DataPlane.size_evolves {p q : DataPlane} (h : DataPlane.Evolves options p q)
    (hp : Workload.Accounted p.toWorkload) : q.handlerBudget.size = p.handlerBudget.size := by
  induction h with
  | refl => rfl
  | tail hrest hst ih =>
    rcases hst.load with heq | hload
    · rw [heq]
      exact ih
    · exact (Workload.size_step hload (DataPlane.Evolves.accounted hrest hp).placement).trans ih

/-! ### What the budget charges -/

/-- 1 for admission work that has not settled. -/
def Work.unsettledAdmission (a : Work) : Int := if a.kind = .admission then a.unsettled else 0

/-- 1 for a task some scheduler accepted that has neither settled nor been discarded. -/
def Work.unsettledTask (a : Work) : Int := if a.kind = .admission then 0 else a.unsettled

namespace Workload

variable {l : Workload}

/-- The waiters and the callers with a permit are all charged to the budget. -/
theorem waiters_le (h : Accounted l) :
    l.handlerBudget.running + l.handlerBudget.waiters.length ≤ l.handlerBudget.reserved := by
  have hwaiting := h.placement.waiting.length_eq_tally
  have hrunning := h.running
  unfold Running at hrunning
  simp only [List.nil_append, List.length_nil] at hwaiting hrunning
  rw [hrunning, hwaiting, h.reservations.reserved]
  have hsum : tally l.workCount (fun a => a.permits + if a.phase = .waiting then 1 else 0) l.work ≤
      tally l.workCount Work.unsettled l.work := by
    refine tally_mono fun w _ => ?_
    unfold Work.permits Work.unsettled
    cases (l.work w).phase <;> simp
  rw [tally_add] at hsum
  omega

/-- No one waits unless every permit is taken. -/
theorem waiters_le_pending (h : Accounted l) :
    l.handlerBudget.waiters.length ≤ l.handlerBudget.pending := by
  have hle := waiters_le h
  have hreserved := h.bounded.reserved_le
  by_cases hnone : l.handlerBudget.waiters = []
  · simp [hnone]
  · have hfull := h.bounded.waiting hnone
    omega

end Workload

namespace WebTransportRuntime

/-! ### The work of admissions -/

/-- Each managed session knows its own admission work, which is in user code while it works. -/
structure Employed (s : RuntimeState) : Prop where
  work : ∀ k < s.plane.managedCount, ∀ w, (s.managed k).work = some w → w < s.plane.workCount ∧
    (s.plane.work w).kind = .admission ∧ (s.plane.work w).owner = k
  admission : ∀ w < s.plane.workCount, (s.plane.work w).kind = .admission →
    (s.managed (s.plane.work w).owner).work = some w
  working : ∀ k < s.plane.managedCount, isWorking (s.managed k).stage = true →
    ∃ w, (s.managed k).work = some w ∧ (s.plane.work w).phase = .running

/-- A stretch in which no session gets or loses its admission work. -/
theorem employed_keeps (h : Employed s) (hcount : t.plane.managedCount = s.plane.managedCount)
    (hwork : ∀ k, (t.managed k).work = (s.managed k).work)
    (hold : ∀ w < s.plane.workCount, (t.plane.work w).kind = (s.plane.work w).kind ∧
      (t.plane.work w).owner = (s.plane.work w).owner)
    (hle : s.plane.workCount ≤ t.plane.workCount)
    (hnew : ∀ w, s.plane.workCount ≤ w → w < t.plane.workCount → (t.plane.work w).kind ≠ .admission)
    (hworking : ∀ k < s.plane.managedCount, isWorking (t.managed k).stage = true →
      ∃ w, (s.managed k).work = some w ∧ (t.plane.work w).phase = .running) : Employed t where
  work := by
    intro k hk w hw
    rw [hcount] at hk
    rw [hwork] at hw
    obtain ⟨hlt, hkind, howner⟩ := h.work k hk w hw
    rw [(hold w hlt).1, (hold w hlt).2]
    exact ⟨hlt.trans_le hle, hkind, howner⟩
  admission := by
    intro w hw hkind
    by_cases hlt : w < s.plane.workCount
    · rw [(hold w hlt).1] at hkind
      rw [hwork, (hold w hlt).2]
      exact h.admission w hlt hkind
    · exact absurd hkind (hnew w (Nat.not_lt.mp hlt) hw)
  working := by
    intro k hk hstage
    rw [hwork]
    exact hworking k (hcount ▸ hk) hstage

/-- What neither makes nor ends admission work leaves it with its sessions. -/
theorem employed_steady (h : Employed s)
    (hsteady : Workload.Steady s.plane.toWorkload t.plane.toWorkload)
    (hwork : ∀ k, (t.managed k).work = (s.managed k).work)
    (hstage : ∀ k, isWorking (t.managed k).stage = true → isWorking (s.managed k).stage = true ∨
      ∃ w < s.plane.workCount, (s.plane.work w).kind = .admission ∧ (s.plane.work w).owner = k ∧
        (t.plane.work w).phase = .running) : Employed t := by
  refine employed_keeps h hsteady.managedCount hwork (fun w _ => ?_) hsteady.workCount.ge ?_ ?_
  · obtain ⟨howner, hkind, -⟩ := (hsteady.contents w).fields
    exact ⟨hkind, howner⟩
  · intro w hle hlt
    rw [hsteady.workCount] at hlt
    omega
  · intro k hk hworking
    rcases hstage k hworking with hbefore | ⟨w, hw, hkind, rfl, hp⟩
    · obtain ⟨w, hw, hp⟩ := h.working k hk hbefore
      exact ⟨w, hw, hsteady.runs.1 w hp⟩
    · exact ⟨w, h.admission w hw hkind, hp⟩

theorem employed_update {f : ManagedSession → ManagedSession} (h : Employed s)
    (hwork : (f (s.managed k)).work = (s.managed k).work)
    (hstage : (f (s.managed k)).stage = (s.managed k).stage) : Employed (update s k f) := by
  refine employed_steady h (.refl _) (fun j => ?_) fun j hj => Or.inl ?_
  · rw [managed_update]
    split_ifs with he
    · rw [he, hwork]
    · rfl
  · rw [managed_update] at hj
    split_ifs at hj with he
    · rw [he]
      rwa [hstage] at hj
    · exact hj

theorem employed_closing (h : Closing options s t) (hs : Employed s) : Employed t :=
  employed_steady hs h.steady (fun k => (h.managed k).work) fun k hk => Or.inl (by
    rwa [(h.managed k).stage] at hk)

theorem employed_touching {R : ManagedSession → ManagedSession → Prop}
    (h : Touching options R k s t) (hs : Employed s)
    (hwork : (t.managed k).work = (s.managed k).work)
    (hstage : isWorking (t.managed k).stage = true → isWorking (s.managed k).stage = true ∨
      ∃ w < s.plane.workCount, (s.plane.work w).kind = .admission ∧ (s.plane.work w).owner = k ∧
        (t.plane.work w).phase = .running) : Employed t := by
  refine employed_steady hs h.steady (fun j => ?_) fun j hj => ?_
  · by_cases he : j = k
    · rw [he, hwork]
    · rw [h.others j he]
  · by_cases he : j = k
    · subst he
      exact hstage hj
    · rw [h.others j he] at hj
      exact Or.inl hj

/-- The pumps concern no admission work. -/
theorem employed_pumping (h : Pumping options k s t) (hs : Employed s) : Employed t := by
  have hsame : ∀ j, (t.managed j).work = (s.managed j).work ∧
      (t.managed j).stage = (s.managed j).stage := by
    intro j
    by_cases he : j = k
    · subst he
      rw [h.pumps.kept]
      exact ⟨rfl, rfl⟩
    · rw [h.others j he]
      exact ⟨rfl, rfl⟩
  refine employed_keeps hs h.managedCount (fun j => (hsame j).1) (fun w hw => ?_) h.workCount
    (fun w hle hlt => (h.fresh w hle hlt).2.1) fun j hj hworking => ?_
  · rw [h.old w hw]
    exact ⟨rfl, rfl⟩
  · rw [(hsame j).2] at hworking
    obtain ⟨w, hw, hp⟩ := hs.working j hj hworking
    exact ⟨w, hw, by rw [h.old w (hs.work j hj w hw).1]; exact hp⟩

/-- A new session gets admission work of its own. -/
theorem employed_opens {offer : SessionOffer} {readers : Bool × Bool × Bool}
    (h : Opens options offer readers s t) (hsound : Sound s) (hs : Employed s) : Employed t := by
  have hlt : ∀ k < s.plane.managedCount, t.managed k = s.managed k := fun k hk => by
    rw [h.managed, Function.update_of_ne (Nat.ne_of_lt hk)]
  have hnew : t.managed s.plane.managedCount = newcomer offer readers s.plane.workCount := by
    rw [h.managed, Function.update_self]
  have hle : s.plane.workCount ≤ t.plane.workCount := by
    rw [h.workCount]
    exact Nat.le_add_right _ _
  constructor
  · intro k hk w hw
    rw [h.managedCount] at hk
    rcases Nat.lt_succ_iff_lt_or_eq.mp hk with hk | rfl
    · rw [hlt k hk] at hw
      obtain ⟨hw', hkind⟩ := hs.work k hk w hw
      rw [h.old w hw']
      exact ⟨hw'.trans_le hle, hkind⟩
    · rw [hnew] at hw
      unfold newcomer at hw
      cases hoffer : offer.aborted with
      | some reason => simp [hoffer, unmanaged] at hw
      | none =>
        simp only [hoffer, Option.some.injEq] at hw
        subst hw
        have hcount : s.plane.workCount < t.plane.workCount := by simp [h.workCount, hoffer]
        obtain ⟨howner, hkind, -⟩ := h.fresh _ le_rfl hcount
        exact ⟨hcount, hkind, howner⟩
  · intro w hw hkind
    by_cases hold : w < s.plane.workCount
    · rw [h.old w hold] at hkind ⊢
      rw [hlt _ (hsound.accounted.placement.owned w hold)]
      exact hs.admission w hold hkind
    · obtain ⟨howner, -⟩ := h.fresh w (Nat.not_lt.mp hold) hw
      rw [howner, hnew]
      unfold newcomer
      cases hoffer : offer.aborted with
      | some reason => simp [h.workCount, hoffer, hold] at hw
      | none =>
        simp only [h.workCount, hoffer, if_true] at hw
        simp only [Option.some.injEq]
        omega
  · intro k hk hworking
    rw [h.managedCount] at hk
    rcases Nat.lt_succ_iff_lt_or_eq.mp hk with hk | rfl
    · rw [hlt k hk] at hworking ⊢
      obtain ⟨w, hw, hp⟩ := hs.working k hk hworking
      exact ⟨w, hw, by rw [h.old w (hs.work k hk w hw).1]; exact hp⟩
    · rw [hnew] at hworking
      unfold newcomer at hworking
      cases hoffer : offer.aborted <;> simp [hoffer, unmanaged, isWorking] at hworking

theorem running_finish {l : Workload} {phase : WorkPhase} {v : Nat} (h : Workload.Placement [] [] l)
    (hp : (l.work w).phase = .running)
    (hnew : phase = .finishing ∨ ∃ f, phase = (l.work w).failed f)
    (hv : v ≠ w) (hrunning : (l.work v).phase = .running) :
    ((l.finishRun w phase).work v).phase = .running := by
  have hphase : Workload.Unlisted phase := by
    rcases hnew with rfl | ⟨f, rfl⟩
    · simp [Workload.Unlisted]
    · exact Workload.failed_unlisted _ f
  have hlisted : Workload.Unlisted (l.work w).phase := by simp [Workload.Unlisted, hp]
  have hset := Workload.placement_unlist h hlisted hphase
  have hleft : Workload.Placement [] []
      { l.setPhase w phase with handlerBudget := l.handlerBudget.leave } := { hset with }
  exact (Workload.runs_wake hleft).1 v (by simpa [Workload.setPhase, hv] using hrunning)

/-- Admission work that ends is no longer in user code. -/
theorem employed_ended {failure : Option Failure} (hsound : Sound s) (hs : Employed s)
    (hw : w < s.plane.workCount) (hp : (s.plane.work w).phase = .running)
    (hover : isRunOver s w failure = true) : Employed (runEnded s w failure) := by
  have hmoves := moves_runEnded hsound hp failure
  refine employed_keeps hs hmoves.managedCount (fun _ => rfl) (fun v _ => ?_) hmoves.workCount.ge
    (fun v hle hlt => ?_) fun k hk hworking => ?_
  · obtain ⟨howner, hkind, -⟩ := (hmoves.work v).same.fields
    exact ⟨hkind, howner⟩
  · rw [hmoves.workCount] at hlt
    omega
  · have hstage : isWorking (s.managed k).stage = true := hworking
    obtain ⟨v, hv, hrunning⟩ := hs.working k hk hstage
    refine ⟨v, hv, running_finish hsound.accounted.placement hp ?_ ?_ hrunning⟩
    · cases failure with
      | none => exact Or.inl rfl
      | some error => exact Or.inr ⟨error, rfl⟩
    · rintro rfl
      obtain ⟨-, hkind, howner⟩ := hs.work k hk v hv
      -- Its run is over only once the loop has ended.
      simp only [isRunOver, hkind, if_true, howner, Bool.and_eq_true] at hover
      cases hk' : (s.managed k).stage <;>
        simp [hk', isWorking, AdmissionStage.isOver] at hstage hover

/-- Each step leaves every session its own admission work, which runs while it is in user code. -/
theorem employed_step (hsound : Sound s) (hs : Employed s) (h : (machine deps).Step s e t) :
    Employed t := by
  cases turn_of_step hsound h with
  | closing h => exact employed_closing h hs
  | refused hrecords h => exact employed_closing h.closing { hs with }
  | opened hchecks hopen hrecords h => exact employed_closing h (employed_opens hopen hsound hs)
  | admitting hk hadmits h hwork =>
    refine employed_touching h hs (by rw [h.session]) fun hworking => ?_
    rcases hwork with hbefore | hafter | hrunning
    · exact Or.inl hbefore
    · rw [hworking] at hafter
      cases hafter
    · exact Or.inr hrunning
  | observed hk hadmission hsettled => exact employed_update hs rfl rfl
  | returned hk hrace h => exact employed_closing h (employed_update hs rfl rfl)
  | @accepted k t hk hrace hopen hrunning h =>
    have haccepted : Employed (accepted s k) :=
      employed_update (s := { s with acceptedSessions := s.acceptedSessions + 1 }) { hs with }
        rfl rfl
    refine employed_touching h haccepted (by rw [h.session]) fun hworking => Or.inl ?_
    rwa [h.session] at hworking
  | @retired k now hk hready =>
    have hupdate : Employed (update s k ({ · with retirement := .retired })) :=
      employed_update hs rfl rfl
    unfold WebTransportRuntime.retired
    simp only
    split_ifs
    · exact { hupdate with }
    · exact hupdate
  | @detached w hw hp =>
    refine employed_keeps hs rfl (fun _ => rfl) (fun v _ => ?_) le_rfl
      (fun v hle hlt => absurd hlt (Nat.not_lt.mpr hle)) fun k hk hworking => ?_
    · by_cases he : v = w
      · subst he
        simp [setLoad, Workload.detach]
      · simp [setLoad, Workload.detach, he]
    · obtain ⟨v, hv, hrunning⟩ := hs.working k hk hworking
      refine ⟨v, hv, ?_⟩
      by_cases he : v = w
      · subst he
        simpa [setLoad, Workload.detach] using hrunning
      · simpa [setLoad, Workload.detach, he] using hrunning
  | ended hw hp hover => exact employed_ended hsound hs hw hp hover
  | pumping hk hactive h =>
    obtain ⟨u, hpump, hease⟩ := h
    exact employed_closing hease.closing (employed_pumping hpump hs)

theorem employed_new (deps : RuntimeDependencies) : Employed (new deps) := by
  constructor <;> simp [new, DataPlane.new]

/-- In every run the sessions know their admission work. -/
theorem employed_run (h : (machine deps).Run (new deps) es t) : Employed t := by
  have hkeep : ∀ s e t, (machine deps).Step s e t → Sound s ∧ Employed s → Sound t ∧ Employed t :=
    fun s e t hst hs => ⟨sound_step hs.1 hst, employed_step hs.1 hs.2 hst⟩
  exact (h.invariant hkeep ⟨sound_new deps, employed_new deps⟩).2

/-! ### The budget -/

/-- The budget charges each admission whose work has not settled and each task not yet settled,
gives each reservation back once its work settles and not before, and keeps its two bounds. -/
theorem handlerBudget_run (h : (machine deps).Run (new deps) es t) :
    t.plane.handlerBudget.reserved =
      tally t.plane.workCount Work.unsettledAdmission t.plane.work +
        tally t.plane.workCount Work.unsettledTask t.plane.work ∧
    t.plane.handlerBudget.releaseCalls.Nodup ∧
    (∀ r < t.plane.handlerBudget.issued, r ∈ t.plane.handlerBudget.releaseCalls ∨
      ∃ w < t.plane.workCount, (t.plane.work w).reservation = r ∧
        (t.plane.work w).phase ≠ .settled) ∧
    (∀ w < t.plane.workCount, (t.plane.work w).reservation ∈ t.plane.handlerBudget.releaseCalls ↔
      (t.plane.work w).phase = .settled) ∧
    (∀ k < t.plane.managedCount, isWorking (t.managed k).stage = true →
      ∃ w < t.plane.workCount, (t.managed k).work = some w ∧
        (t.plane.work w).kind = .admission ∧ (t.plane.work w).phase = .running ∧
        (t.plane.work w).reservation ∉ t.plane.handlerBudget.releaseCalls) ∧
    t.plane.handlerBudget.running + t.plane.handlerBudget.waiters.length ≤
      t.plane.handlerBudget.reserved ∧
    t.plane.handlerBudget.reserved ≤ deps.options.limits.server.maxConcurrentHandlers.value +
      deps.options.limits.server.maxPendingHandlers.value ∧
    t.plane.handlerBudget.waiters.length ≤ deps.options.limits.server.maxPendingHandlers.value := by
  have haccounted := (sound_run h (sound_new deps)).accounted
  have hreservations := haccounted.reservations
  have hsize := DataPlane.size_evolves (evolves_run h (sound_new deps)) (accounted_new deps.options)
  have hconcurrency : t.plane.handlerBudget.concurrency =
      deps.options.limits.server.maxConcurrentHandlers.value := congrArg Prod.fst hsize
  have hpending : t.plane.handlerBudget.pending =
      deps.options.limits.server.maxPendingHandlers.value := congrArg Prod.snd hsize
  have hkinds : tally t.plane.workCount Work.unsettled t.plane.work =
      tally t.plane.workCount Work.unsettledAdmission t.plane.work +
        tally t.plane.workCount Work.unsettledTask t.plane.work := by
    rw [← tally_add]
    refine tally_congr fun w _ => ?_
    unfold Work.unsettledAdmission Work.unsettledTask
    split_ifs <;> simp
  have hbound := haccounted.bounded.reserved_le
  have hwaiters := Workload.waiters_le_pending haccounted
  rw [hconcurrency, hpending] at hbound
  rw [hpending] at hwaiters
  refine ⟨hreservations.reserved.trans hkinds, hreservations.once, fun r hr => ?_,
    hreservations.settled, fun k hk hworking => ?_, Workload.waiters_le haccounted, hbound,
      hwaiters⟩
  · by_cases hcalled : r ∈ t.plane.handlerBudget.releaseCalls
    · exact Or.inl hcalled
    · rcases hreservations.accounted r hr with hcalls | ⟨w, hw, rfl⟩
      · exact absurd hcalls hcalled
      · exact Or.inr ⟨w, hw, rfl, fun hp => hcalled ((hreservations.settled w hw).mpr hp)⟩
  · have hemployed := employed_run h
    obtain ⟨w, hwork, hp⟩ := hemployed.working k hk hworking
    obtain ⟨hw, hkind, -⟩ := hemployed.work k hk w hwork
    refine ⟨w, hw, hwork, hkind, hp, fun hcalled => ?_⟩
    rw [(hreservations.settled w hw).mp hcalled] at hp
    cases hp

theorem handlerBudget_run_small :
    ∃ t : RuntimeState, t.plane.handlerBudget.reserved = 1 ∧
      t.plane.handlerBudget.reserved =
        tally t.plane.workCount Work.unsettledAdmission t.plane.work +
          tally t.plane.workCount Work.unsettledTask t.plane.work := by
  obtain ⟨t, hrun, ht⟩ := exists_run datagramServer (new datagramServer) smallDatagram
    (fun t => t.plane.handlerBudget.reserved = 1) (by decide)
  exact ⟨t, ht, (handlerBudget_run hrun).1⟩

end WebTransportRuntime

end NestWebTransport
