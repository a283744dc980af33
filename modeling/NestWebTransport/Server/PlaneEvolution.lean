import Mathlib.Logic.Relation
import NestWebTransport.Server.DataPlane
import NestWebTransport.Server.WorkBudget

/-! What one synchronous stretch of the program does to the data plane. -/
namespace NestWebTransport

/-- A closed scheduler without pending tasks that tells a retiring session when it is idle. -/
def BoundedTaskScheduler.Parked (scheduler : BoundedTaskScheduler Nat Waiter) : Prop :=
  scheduler.accepting = false ∧ scheduler.pending = [] ∧
    (scheduler.activeCount = 0 ∨ Waiter.retirement ∈ scheduler.idleWaiters)

theorem BoundedTaskScheduler.Parked.flush {scheduler : BoundedTaskScheduler Nat Waiter}
    (h : scheduler.Parked) : scheduler.flushWaiters.Parked := by
  obtain ⟨hacc, hpend, hidle⟩ := h
  refine ⟨hacc, hpend, ?_⟩
  by_cases hactive : scheduler.activeCount = 0
  · exact Or.inl hactive
  · right
    have hbusy : scheduler.isIdle = false := by simp [BoundedTaskScheduler.isIdle, hactive]
    rw [flushWaiters_idleWaiters, hbusy]
    simpa [hactive] using hidle

theorem BoundedTaskScheduler.Parked.close {scheduler : BoundedTaskScheduler Nat Waiter}
    (h : scheduler.Parked) (discardPending : Bool) : (scheduler.close discardPending).2.Parked := by
  obtain ⟨hacc, hpend, hidle⟩ := h
  refine Parked.flush ⟨rfl, ?_, hidle⟩
  cases discardPending with
  | true => rfl
  | false => exact hpend

namespace Workload

variable {l l' l'' : Workload} {k w : Nat} {ts tg : List Nat} {aborted : Bool}

/-! ### Work in user code -/

/-- Work in user code is left there, and work no list holds stays off the lists. -/
def Runs (l l' : Workload) : Prop :=
  (∀ w, (l.work w).phase = .running → (l'.work w).phase = .running) ∧
    ∀ w, Unlisted (l.work w).phase → Unlisted (l'.work w).phase

theorem Runs.refl (l : Workload) : Runs l l := ⟨fun _ => id, fun _ => id⟩

theorem Runs.trans (h : Runs l l') (h' : Runs l' l'') : Runs l l'' :=
  ⟨fun w hw => h'.1 w (h.1 w hw), fun w hw => h'.2 w (h.2 w hw)⟩

theorem runs_setPhase {phase : WorkPhase}
    (h : Unlisted (l.work w).phase → (l.work w).phase ≠ .running ∧ Unlisted phase) :
    Runs l (l.setPhase w phase) := by
  constructor
  · intro v hv
    have hne : v ≠ w := by
      rintro rfl
      exact (h (by simp [Unlisted, hv])).1 hv
    simpa [setPhase, hne] using hv
  · intro v hv
    by_cases he : v = w
    · subst he
      simpa [setPhase] using (h hv).2
    · simpa [setPhase, he] using hv

theorem runs_settle (hold : (l.work w).phase ≠ .running) : Runs l (l.settle w) := by
  constructor
  · intro v hv
    have hne : v ≠ w := by
      rintro rfl
      exact hold hv
    simpa [settle, hne] using hv
  · intro v hv
    by_cases he : v = w
    · subst he
      simp [settle, Unlisted]
    · simpa [settle, he] using hv

theorem runs_grantAll (h : Placement ts tg l) : Runs l (l.grantAll tg) := by
  induction tg generalizing l with
  | nil => exact .refl l
  | cons w tg ih =>
    have hp := h.waiting.head.2
    have hgrant : Runs l (l.grant w) := runs_setPhase (by simp [Unlisted, hp])
    exact hgrant.trans (ih (placement_grant h))

theorem runs_wake (h : Placement ts [] l) : Runs l l.wake := by
  obtain ⟨n, hn, hgranted, hbudget, -, -⟩ := l.handlerBudget.wake_spec
  unfold wake
  simp only [hgranted, hbudget]
  have hwoken : Placement ts (l.handlerBudget.waiters.take n) { l with
      handlerBudget := { l.handlerBudget with
        waiters := l.handlerBudget.waiters.drop n
        running := l.handlerBudget.running + n } } :=
    { h with waiting := by simpa using h.waiting }
  exact runs_grantAll hwoken

theorem runs_acquire (hp : (l.work w).phase = .starting) : Runs l (l.acquire w aborted) := by
  have hnew : ∀ phase, Runs l (l.setPhase w phase) :=
    fun phase => runs_setPhase (by simp [Unlisted, hp])
  unfold acquire HandlerBudget.acquire
  split_ifs
  · exact hnew _
  · exact hnew .granted
  · exact hnew .waiting

theorem runs_finishRun {phase : WorkPhase} (h : Placement ts [] (l.setPhase w phase))
    (hold : Unlisted (l.work w).phase → (l.work w).phase ≠ .running ∧ Unlisted phase) :
    Runs l (l.finishRun w phase) := by
  have hset : Runs l (l.setPhase w phase) := runs_setPhase hold
  have hleft : Placement ts [] { l.setPhase w phase with handlerBudget := l.handlerBudget.leave } :=
    { h with }
  exact hset.trans (runs_wake hleft)

theorem runs_abortWaiter (h : Placement ts [] l) : Runs l (l.abortWaiter w) := by
  unfold abortWaiter
  split_ifs with hmem
  · have hp := (h.waiting.mem hmem).2
    have hset : Runs l (l.setPhase w ((l.work w).failed .unknown)) :=
      runs_setPhase (by simp [Unlisted, hp])
    exact hset.trans (runs_wake (placement_forget h hmem))
  · exact .refl l

theorem runs_callTask (h : Placement [] [] l) : Runs l (l.callTask aborted) := by
  unfold callTask
  cases hs : l.starts with
  | nil => exact .refl l
  | cons w rest =>
    have hp := (h.starting.mem (w := w) (by simp [hs])).2
    exact runs_acquire (l := { l with starts := rest }) hp

theorem runs_resumeTask (h : Placement [] [] l) : Runs l (l.resumeTask aborted) := by
  unfold resumeTask
  cases hr : l.resumes with
  | nil => exact .refl l
  | cons w rest =>
    have hp := (h.granted.mem (w := w) (by simp [hr])).2
    have hold : ∀ phase : WorkPhase, Unlisted (l.work w).phase →
        (l.work w).phase ≠ .running ∧ Unlisted phase := fun _ => by simp [Unlisted, hp]
    cases aborted with
    | true => exact runs_finishRun (placement_resumed h hr (failed_unlisted _ _)) (hold _)
    | false => exact runs_setPhase (l := { l with resumes := rest }) (hold _)

theorem runs_promote (h : Placement [] [] l) : Runs l (l.promote k) := by
  obtain ⟨-, heq⟩ | ⟨v, rest, hhead, heq⟩ := l.promote_cases k
  · rw [heq]
    exact .refl l
  · rw [heq]
    have hp := ((h.pending k).mem (w := v) (by simp [hhead])).2.1
    exact runs_setPhase (l := l) (by simp [Unlisted, hp])

/-! ### Steady stretches -/

/-- Only how far the work is may differ, and what it gave back. -/
def Work.Same (a b : Work) : Prop := b = { a with phase := b.phase, released := b.released }

theorem Work.Same.trans {a b c : Work} (h : Work.Same a b) (h' : Work.Same b c) :
    Work.Same a c := by
  unfold Work.Same at *
  rw [h] at h'
  exact h'

theorem Work.Same.fields {a b : Work} (h : Work.Same a b) :
    b.owner = a.owner ∧ b.kind = a.kind ∧ b.charged = a.charged ∧ b.byteLength = a.byteLength := by
  rw [h]
  exact ⟨rfl, rfl, rfl, rfl⟩

theorem Work.Kept.same {a b : Work} (h : Work.Kept a b) : Work.Same a b := by
  unfold Work.Same
  rw [h.1]

/-- No work is added, none changes its contents and none leaves user code; parked schedulers stay
parked. -/
structure Steady (l l' : Workload) : Prop where
  managedCount : l'.managedCount = l.managedCount
  workCount : l'.workCount = l.workCount
  contents : ∀ w, Work.Same (l.work w) (l'.work w)
  settled : ∀ w, (l.work w).phase = .settled → (l'.work w).phase = .settled
  runs : Runs l l'
  parked : ∀ k, (l.scheduler k).Parked → (l'.scheduler k).Parked

theorem Steady.refl (l : Workload) : Steady l l :=
  ⟨rfl, rfl, fun _ => rfl, fun _ => id, .refl l, fun _ => id⟩

theorem Steady.trans (h : Steady l l') (h' : Steady l' l'') : Steady l l'' where
  managedCount := h'.managedCount.trans h.managedCount
  workCount := h'.workCount.trans h.workCount
  contents := fun w => (h.contents w).trans (h'.contents w)
  settled := fun w hw => h'.settled w (h.settled w hw)
  runs := h.runs.trans h'.runs
  parked := fun k hk => h'.parked k (h.parked k hk)

/-- Moving work between lists is steady. -/
theorem Moves.steady (hm : Moves l l') (hr : Runs l l') : Steady l l' where
  managedCount := hm.managedCount
  workCount := hm.workCount
  contents := fun w => (hm.work w).same
  settled := fun w => (hm.work w).2.mpr
  runs := hr
  parked := fun k => by rw [hm.scheduler]; exact id

theorem steady_setScheduler {scheduler : BoundedTaskScheduler Nat Waiter}
    (h : (l.scheduler k).Parked → scheduler.Parked) : Steady l (l.setScheduler k scheduler) where
  managedCount := rfl
  workCount := rfl
  contents := fun _ => rfl
  settled := fun _ => id
  runs := .refl l
  parked := fun j hj => by
    by_cases he : j = k
    · subst he
      simpa [setScheduler] using h hj
    · simpa [setScheduler, he] using hj

theorem steady_settle (hold : (l.work w).phase ≠ .running) : Steady l (l.settle w) where
  managedCount := rfl
  workCount := rfl
  contents := fun v => by
    by_cases hv : v = w
    · subst hv
      simp [settle, Work.Same]
    · simp [settle, Work.Same, hv]
  settled := fun v hp => by
    by_cases hv : v = w
    · subst hv
      simp [settle]
    · simpa [settle, hv] using hp
  runs := runs_settle hold
  parked := fun _ => id

/-- A parked scheduler that is idle has no task left to settle. -/
theorem parked_leave (h : Scheduled l) (hw : w < l.workCount) (hkind : (l.work w).kind ≠ .admission)
    (hp : (l.work w).phase = .finishing) (hparked : (l.scheduler (l.work w).owner).Parked) :
    (l.scheduler (l.work w).owner).leave.Parked := by
  obtain ⟨hacc, hpend, hidle⟩ := hparked
  refine ⟨hacc, hpend, Or.inr ?_⟩
  have hone : activeIn (l.work w).owner (l.work w) = 1 := by simp [activeIn, hkind, hp]
  have hle := le_tally (g := activeIn (l.work w).owner) (f := l.work) hw
    fun j _ => by unfold activeIn; split <;> simp
  have hactive := h.active (l.work w).owner
  rcases hidle with hzero | hwaiting
  · omega
  · exact hwaiting

/-- Promoting a task moves no admission. -/
theorem steady_promote (hpl : Placement [] [] l) : Steady l (l.promote k) := by
  have hkeeps := keeps_promote (k := k) hpl
  constructor
  · exact hkeeps.managedCount
  · exact hkeeps.workCount
  · exact fun w => (hkeeps.work w).same
  · exact fun w => (hkeeps.work w).2.mpr
  · exact runs_promote hpl
  · intro j hj
    obtain ⟨-, heq⟩ | ⟨v, rest, hhead, heq⟩ := l.promote_cases k
    · rw [heq]
      exact (steady_setScheduler BoundedTaskScheduler.Parked.flush).parked j hj
    · rw [heq]
      by_cases he : j = k
      · subst he
        -- The scheduler still held a task back, so it was not parked.
        rw [hj.2.1] at hhead
        cases hhead
      · simpa [promoted, setScheduler, setPhase, he] using hj

theorem steady_settleTask (h : Accounted l) (hw : w < l.workCount)
    (hkind : (l.work w).kind ≠ .admission) (hp : (l.work w).phase = .finishing) :
    Steady l (l.settleTask w) := by
  have hleft : Placement [] []
      (l.setScheduler (l.work w).owner (l.scheduler (l.work w).owner).leave) :=
    placement_setScheduler h.placement rfl
  have hsettled := placement_settle (w := w) hleft (by simp [setScheduler, Unlisted, hp])
  have hleave : Steady l (l.setScheduler (l.work w).owner (l.scheduler (l.work w).owner).leave) :=
    steady_setScheduler (parked_leave h.scheduled hw hkind hp)
  have hsettle : Steady _ _ := steady_settle (w := w) (l := l.setScheduler (l.work w).owner
    (l.scheduler (l.work w).owner).leave) (by simp [setScheduler, hp])
  exact (hleave.trans hsettle).trans (steady_promote hsettled)

/-! ### Several steps of the work -/

@[simp] theorem grantAll_scheduler (tg : List Nat) : (l.grantAll tg).scheduler = l.scheduler := by
  induction tg generalizing l with
  | nil => rfl
  | cons w tg ih => exact (ih (l := l.grant w)).trans rfl

@[simp] theorem wake_scheduler : l.wake.scheduler = l.scheduler := by simp [wake]

theorem abortWaiter_scheduler : (l.abortWaiter w).scheduler = l.scheduler := by
  unfold abortWaiter
  split_ifs
  · rw [wake_scheduler]
    rfl
  · rfl

theorem abortWaiters_scheduler (l : Workload) (k : Nat) :
    (l.abortWaiters k).scheduler = l.scheduler := by
  unfold abortWaiters
  generalize l.handlerBudget.waiters.filter (fun w => (l.work w).owner = k) = ws
  induction ws generalizing l with
  | nil => rfl
  | cons w ws ih => exact (ih (l.abortWaiter w)).trans abortWaiter_scheduler

theorem internal_abortWaiters (h : Accounted l) (k : Nat) :
    Relation.ReflTransGen Internal l (l.abortWaiters k) ∧ Steady l (l.abortWaiters k) := by
  unfold abortWaiters
  generalize l.handlerBudget.waiters.filter (fun w => (l.work w).owner = k) = ws
  induction ws generalizing l with
  | nil => exact ⟨.refl, Steady.refl l⟩
  | cons w ws ih =>
    have hstep : Internal l (l.abortWaiter w) := .abortWaiter
    obtain ⟨hrest, hsteady⟩ := ih (accounted_internal hstep h)
    exact ⟨.head hstep hrest,
      ((moves_abortWaiter h.placement).steady (runs_abortWaiter h.placement)).trans hsteady⟩

end Workload

namespace DataPlane

variable {options : NormalizedWebTransportModuleOptions} {p q : DataPlane} {k w : Nat}

/-- What a synchronous stretch does to the data plane: a few of its steps. -/
abbrev Evolves (options : NormalizedWebTransportModuleOptions) : DataPlane → DataPlane → Prop :=
  Relation.ReflTransGen (Step options)

theorem Step.accounted (hs : Step options p q) (h : Workload.Accounted p.toWorkload) :
    Workload.Accounted q.toWorkload := by
  rcases hs.load with heq | hload
  · rw [heq]
    exact h
  · exact Workload.accounted_step hload h

theorem Evolves.accounted (he : Evolves options p q) (h : Workload.Accounted p.toWorkload) :
    Workload.Accounted q.toWorkload := by
  induction he with
  | refl => exact h
  | tail _ hs ih => exact hs.accounted ih

theorem evolves_internal {load : Workload}
    (h : Relation.ReflTransGen Workload.Internal p.toWorkload load) :
    Evolves options p { p with toWorkload := load } := by
  induction h with
  | refl => exact .refl
  | tail _ hs ih => exact ih.tail (.internal hs)

/-- The plane with another scheduler for session `k`. -/
def withScheduler (p : DataPlane) (k : Nat) (scheduler : BoundedTaskScheduler Nat Waiter) :
    DataPlane := { p with toWorkload := p.toWorkload.setScheduler k scheduler }

@[simp] theorem withScheduler_self (scheduler : BoundedTaskScheduler Nat Waiter) :
    (p.withScheduler k scheduler).scheduler k = scheduler := Function.update_self ..

@[simp] theorem withScheduler_same : p.withScheduler k (p.scheduler k) = p := by
  simp [withScheduler, Workload.setScheduler]

@[simp] theorem withScheduler_withScheduler (a b : BoundedTaskScheduler Nat Waiter) :
    (p.withScheduler k a).withScheduler k b = p.withScheduler k b := by
  simp [withScheduler, Workload.setScheduler]

theorem settle_withScheduler (scheduler : BoundedTaskScheduler Nat Waiter) :
    (p.withScheduler k scheduler).settle w = (p.settle w).withScheduler k scheduler := rfl

@[simp] theorem settle_scheduler : (p.settle w).scheduler = p.scheduler := rfl

theorem evolves_setScheduler {scheduler : BoundedTaskScheduler Nat Waiter}
    (hpending : scheduler.pending = (p.scheduler k).pending)
    (hactive : scheduler.activeCount = (p.scheduler k).activeCount)
    (hconcurrent : scheduler.maxConcurrent = (p.scheduler k).maxConcurrent)
    (hbound : scheduler.maxPending = (p.scheduler k).maxPending) :
    Evolves options p (p.withScheduler k scheduler) :=
  .single (.internal (.reconfigure hpending hactive hconcurrent hbound))

/-- Discarding all pending tasks, oldest first. -/
theorem evolves_discard (ds : List Nat) (hpending : (p.scheduler k).pending = ds) :
    Evolves options p
      (ds.foldl settle (p.withScheduler k { p.scheduler k with pending := [] })) := by
  induction ds generalizing p with
  | nil =>
    have hsame : { p.scheduler k with pending := [] } = p.scheduler k := by rw [← hpending]
    rw [hsame, withScheduler_same]
    exact .refl
  | cons w rest ih =>
    have hone : Step options p
        ((p.withScheduler k { p.scheduler k with pending := rest }).settle w) := .discard hpending
    have hrest := ih (p := (p.withScheduler k { p.scheduler k with pending := rest }).settle w)
      (by simp)
    simp only [← settle_withScheduler, settle_scheduler, withScheduler_self,
      withScheduler_withScheduler] at hrest
    exact .head hone hrest

theorem evolves_closeScheduler (discardPending : Bool) :
    Evolves options p (p.closeScheduler k discardPending) := by
  have hclosed : Evolves options p (p.withScheduler k
      { ((p.scheduler k).close discardPending).2 with pending := (p.scheduler k).pending }) :=
    evolves_setScheduler rfl rfl rfl rfl
  cases discardPending with
  | false => exact hclosed
  | true =>
    have hdiscard : Evolves options _ _ := evolves_discard (k := k)
      (p := p.withScheduler k
        { ((p.scheduler k).close true).2 with pending := (p.scheduler k).pending })
      (p.scheduler k).pending (by simp)
    simp only [withScheduler_self, withScheduler_withScheduler] at hdiscard
    exact hclosed.trans hdiscard

theorem steady_settles (ds : List Nat) (hds : ∀ w ∈ ds, (p.work w).phase ≠ .running) :
    Workload.Steady p.toWorkload (ds.foldl settle p).toWorkload := by
  induction ds generalizing p with
  | nil => exact Workload.Steady.refl _
  | cons w rest ih =>
    have hone : Workload.Steady p.toWorkload (p.settle w).toWorkload :=
      Workload.steady_settle (hds w List.mem_cons_self)
    refine hone.trans (ih fun v hv => ?_)
    by_cases he : v = w
    · subst he
      simp [settle, Workload.settle]
    · simpa [settle, onSettled, Workload.settle, he] using hds v (List.mem_cons_of_mem w hv)

theorem steady_closeScheduler (h : Workload.Placement [] [] p.toWorkload) (discardPending : Bool) :
    Workload.Steady p.toWorkload (p.closeScheduler k discardPending).toWorkload := by
  have hset : Workload.Steady p.toWorkload
      (p.toWorkload.setScheduler k ((p.scheduler k).close discardPending).2) :=
    Workload.steady_setScheduler fun h => h.close discardPending
  refine hset.trans (steady_settles (p := p.withScheduler k _) _ fun w hw => ?_)
  have hpending : w ∈ (p.scheduler k).pending := by
    cases discardPending with
    | true => exact hw
    | false => cases hw
  have hp := ((h.pending k).mem hpending).2.1
  simp [withScheduler, Workload.setScheduler, hp]

theorem settles_scheduler (ds : List Nat) : (ds.foldl settle p).scheduler = p.scheduler := by
  induction ds generalizing p with
  | nil => rfl
  | cons w rest ih => exact (ih (p := p.settle w)).trans rfl

theorem closeScheduler_scheduler (discardPending : Bool) :
    (p.closeScheduler k discardPending).scheduler =
      Function.update p.scheduler k ((p.scheduler k).close discardPending).2 :=
  settles_scheduler (p := p.withScheduler k _) _

theorem closeScheduler_scheduler_of_ne {j : Nat} {discardPending : Bool} (hj : j ≠ k) :
    (p.closeScheduler k discardPending).scheduler j = p.scheduler j := by
  rw [closeScheduler_scheduler, Function.update_of_ne hj]

/-- Closing with the pending tasks discarded parks the scheduler, once its idleness is awaited. -/
theorem parked_closeScheduler : ∀ idle : BoundedTaskScheduler Nat Waiter,
    idle = ((p.closeScheduler k true).scheduler k).onIdle .retirement → idle.Parked := by
  intro idle hidle
  rw [hidle, closeScheduler_scheduler, Function.update_self]
  refine ⟨by simp [BoundedTaskScheduler.close], by simp [BoundedTaskScheduler.close], ?_⟩
  by_cases hactive : (p.scheduler k).activeCount = 0
  · left
    simpa [BoundedTaskScheduler.close] using hactive
  · right
    have hbusy : (((p.scheduler k).close true).2).isIdle = false := by
      simp [BoundedTaskScheduler.close, BoundedTaskScheduler.isIdle, hactive]
    simp [BoundedTaskScheduler.onIdle, hbusy]

end DataPlane

end NestWebTransport
