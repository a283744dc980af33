import NestWebTransport.Execution.SchedulerTasks

/-! How many tasks run at once, and in which order they start. -/
namespace NestWebTransport

namespace SchedulerState

/-- Tasks have started in the order they were submitted and none has overtaken the queue. -/
structure InOrder (s : SchedulerState) : Prop where
  starts : s.starts.Pairwise (· < ·)
  ahead : ∀ g ∈ s.starts, ∀ p ∈ s.scheduler.pending, g < p

/-- Both bounds hold, and the queue is only used while every slot is taken. -/
structure Bounded (s : SchedulerState) : Prop where
  active : s.scheduler.activeCount ≤ s.scheduler.maxConcurrent
  pending : s.scheduler.pending.length ≤ s.scheduler.maxPending
  conserving : s.scheduler.pending ≠ [] → s.scheduler.activeCount = s.scheduler.maxConcurrent

/-- The bounds are the ones the scheduler was made with. -/
structure Under (options : BoundedTaskSchedulerOptions) (s : SchedulerState) : Prop where
  maxConcurrent : s.scheduler.maxConcurrent = options.maxConcurrent
  maxPending : s.scheduler.maxPending = options.maxPending

variable {s t : SchedulerState} {options : BoundedTaskSchedulerOptions}

theorem InOrder.congr (h : s.InOrder) (e : SameTasks s t) : t.InOrder := by
  refine ⟨?_, ?_⟩
  · rw [e.starts]
    exact h.starts
  · rw [e.starts, e.pending]
    exact h.ahead

theorem Bounded.congr (h : s.Bounded) (e : SameTasks s t) : t.Bounded := by
  refine ⟨?_, ?_, ?_⟩
  · rw [e.activeCount, e.maxConcurrent]
    exact h.active
  · rw [e.pending, e.maxPending]
    exact h.pending
  · rw [e.activeCount, e.maxConcurrent, e.pending]
    exact h.conserving

theorem Under.congr (h : Under options s) (e : SameTasks s t) : Under options t :=
  ⟨e.maxConcurrent.trans h.maxConcurrent, e.maxPending.trans h.maxPending⟩

/-- What holds between the steps of a scheduler whose bounds are respected. -/
structure Sound (options : BoundedTaskSchedulerOptions) (s : SchedulerState) : Prop where
  ledger : TaskLedger [] s
  inOrder : s.InOrder
  bounded : s.Bounded
  under : Under options s

theorem Sound.congr (h : Sound options s) (e : SameTasks s t) : Sound options t :=
  ⟨h.ledger.congr e, h.inOrder.congr e, h.bounded.congr e, h.under.congr e⟩

/-- A submission starts, waits in line or is refused, as there is room. -/
theorem Sound.submit (h : Sound options s) : Sound options s.submit := by
  obtain ⟨hl, ho, hb, hu⟩ := h
  rcases s.submit_cases with ⟨_, heq⟩ | ⟨_, hslot, heq⟩ | ⟨_, hbusy, hroom, heq⟩
  · rw [heq]
    exact ⟨hl.refuse, ⟨ho.starts, ho.ahead⟩, ⟨hb.active, hb.pending, hb.conserving⟩,
      ⟨hu.maxConcurrent, hu.maxPending⟩⟩
  · have hnone : s.scheduler.pending = [] := by
      by_contra hne
      have hfull := hb.conserving hne
      omega
    rw [heq]
    refine ⟨hl.startNow, ⟨?_, ?_⟩, ⟨?_, hb.pending, fun hne => absurd hnone hne⟩,
      ⟨hu.maxConcurrent, hu.maxPending⟩⟩
    · change (s.starts ++ [s.submissions]).Pairwise (· < ·)
      rw [List.pairwise_append]
      refine ⟨ho.starts, List.pairwise_singleton _ _, fun g hg k hk => ?_⟩
      rw [List.mem_singleton.mp hk]
      exact hl.starts_lt hg
    · intro g _ p hp
      change p ∈ s.scheduler.pending at hp
      rw [hnone] at hp
      cases hp
    · change s.scheduler.activeCount + 1 ≤ s.scheduler.maxConcurrent
      omega
  · rw [heq]
    refine ⟨hl.queue, ⟨ho.starts, ?_⟩, ⟨hb.active, ?_, fun _ => ?_⟩,
      ⟨hu.maxConcurrent, hu.maxPending⟩⟩
    · intro g hg p hp
      rcases List.mem_append.mp hp with hp | hp
      · exact ho.ahead g hg p hp
      · rw [List.mem_singleton.mp hp]
        exact hl.starts_lt hg
    · change (s.scheduler.pending ++ [s.submissions]).length ≤ s.scheduler.maxPending
      rw [List.length_append, List.length_singleton]
      omega
    · have hactive := hb.active
      change s.scheduler.activeCount = s.scheduler.maxConcurrent
      omega

theorem Sound.submits (h : Sound options s) (n : Nat) :
    Sound options (SchedulerState.submit^[n] s) := by
  induction n generalizing s with
  | zero => exact h
  | succ n ih => exact ih h.submit

/-- A slot is free for the head of the queue, as it is right after a task has left. -/
structure Vacated (s : SchedulerState) : Prop where
  active : s.scheduler.activeCount + 1 ≤ s.scheduler.maxConcurrent
  pending : s.scheduler.pending.length ≤ s.scheduler.maxPending
  conserving : s.scheduler.pending ≠ [] → s.scheduler.activeCount + 1 = s.scheduler.maxConcurrent

/-- Starting the head of the queue restores the bounds. -/
theorem sound_promote (hl : TaskLedger [] s) (ho : s.InOrder) (hv : s.Vacated)
    (hu : Under options s) : Sound options s.promote := by
  refine ⟨hl.promote, ?_, ?_, ?_⟩
  · unfold SchedulerState.promote
    split
    · exact ho
    · rename_i k ks hqueue
      have hqueued := hl.queued
      rw [hqueue, List.append_nil, List.pairwise_cons] at hqueued
      have hahead : ∀ g ∈ s.starts, ∀ p ∈ k :: ks, g < p := by
        rw [← hqueue]
        exact ho.ahead
      refine ⟨?_, ?_⟩
      · change (s.starts ++ [k]).Pairwise (· < ·)
        rw [List.pairwise_append]
        refine ⟨ho.starts, List.pairwise_singleton _ _, fun g hg j hj => ?_⟩
        rw [List.mem_singleton.mp hj]
        exact hahead g hg k List.mem_cons_self
      · intro g hg p hp
        rcases List.mem_append.mp hg with hg | hg
        · exact hahead g hg p (List.mem_cons_of_mem _ hp)
        · rw [List.mem_singleton.mp hg]
          exact hqueued.1 p hp
  · obtain ⟨hactive, hpending, hconserving⟩ := hv
    unfold SchedulerState.promote
    split
    · rename_i hnone
      exact ⟨by omega, hpending, fun hne => absurd hnone hne⟩
    · rename_i k ks hqueue
      have hfull := hconserving (by rw [hqueue]; exact List.cons_ne_nil k ks)
      rw [hqueue, List.length_cons] at hpending
      refine ⟨?_, ?_, fun _ => ?_⟩
      · change s.scheduler.activeCount + 1 ≤ s.scheduler.maxConcurrent
        exact hactive
      · change ks.length ≤ s.scheduler.maxPending
        omega
      · change s.scheduler.activeCount + 1 = s.scheduler.maxConcurrent
        exact hfull
  · unfold SchedulerState.promote
    split <;> exact ⟨hu.maxConcurrent, hu.maxPending⟩

/-! ### Observers that submit -/

/-- The observer of `k` leaves the scheduler as it was, or finds intake closed, or finds no queue
and only fills slots that are free. -/
def ReentersSafely (observer : Nat → Nat) (s : SchedulerState) (k : Nat) : Prop :=
  observer k = 0 ∨ s.scheduler.accepting = false ∨ s.scheduler.maxPending = 0 ∨
    (s.scheduler.pending = [] ∧
      observer k + s.scheduler.activeCount ≤ s.scheduler.maxConcurrent + 1)

/-- Submissions that find a free slot each start at once. -/
theorem submits_start (n : Nat) (hnone : s.scheduler.pending = [])
    (hroom : n + s.scheduler.activeCount ≤ s.scheduler.maxConcurrent) :
    (submit^[n] s).scheduler.pending = [] := by
  induction n generalizing s with
  | zero => exact hnone
  | succ n ih =>
    rw [Function.iterate_succ_apply]
    push_cast at hroom
    rcases s.submit_cases with ⟨_, heq⟩ | ⟨_, _, heq⟩ | ⟨_, hbusy, _, _⟩
    · rw [heq]
      refine ih hnone ?_
      change (n : Int) + s.scheduler.activeCount ≤ s.scheduler.maxConcurrent
      omega
    · rw [heq]
      refine ih hnone ?_
      change (n : Int) + (s.scheduler.activeCount + 1) ≤ s.scheduler.maxConcurrent
      omega
    · omega

/-- Submissions that find a queue, or more than fill the free slots, leave a queue behind them and
every slot taken. -/
theorem submits_overfill (n : Nat) (haccepting : s.scheduler.accepting = true)
    (hactive : s.scheduler.activeCount ≤ s.scheduler.maxConcurrent)
    (hroom : 0 < s.scheduler.maxPending)
    (hover : (s.scheduler.pending ≠ [] ∧
        s.scheduler.maxConcurrent ≤ n + s.scheduler.activeCount) ∨
      s.scheduler.maxConcurrent < n + s.scheduler.activeCount) :
    (submit^[n] s).scheduler.pending ≠ [] ∧
      (submit^[n] s).scheduler.activeCount = s.scheduler.maxConcurrent ∧
      (submit^[n] s).scheduler.maxConcurrent = s.scheduler.maxConcurrent := by
  induction n generalizing s with
  | zero =>
    rcases hover with ⟨hne, hfull⟩ | hfull
    · refine ⟨hne, ?_, rfl⟩
      simp only [Function.iterate_zero, id]
      omega
    · omega
  | succ n ih =>
    rw [Function.iterate_succ_apply]
    push_cast at hover
    rcases s.submit_cases with ⟨hrefused, heq⟩ | ⟨_, hslot, heq⟩ | ⟨_, hbusy, _, heq⟩
    · have hfull : (s.scheduler.maxConcurrent : Int) ≤ s.scheduler.activeCount ∧
          s.scheduler.maxPending ≤ s.scheduler.pending.length := by
        rcases hrefused with hclosed | hfull
        · rw [haccepting] at hclosed
          cases hclosed
        · exact hfull
      have hne : s.scheduler.pending ≠ [] := by
        intro hnil
        rw [hnil, List.length_nil] at hfull
        omega
      rw [heq]
      refine ih haccepting hactive hroom (Or.inl ⟨hne, ?_⟩)
      change (s.scheduler.maxConcurrent : Int) ≤ n + s.scheduler.activeCount
      omega
    · rw [heq]
      refine ih haccepting ?_ hroom ?_
      · change s.scheduler.activeCount + 1 ≤ s.scheduler.maxConcurrent
        omega
      · rcases hover with ⟨hne, hfull⟩ | hfull
        · refine Or.inl ⟨hne, ?_⟩
          change (s.scheduler.maxConcurrent : Int) ≤ n + (s.scheduler.activeCount + 1)
          omega
        · refine Or.inr ?_
          change (s.scheduler.maxConcurrent : Int) < n + (s.scheduler.activeCount + 1)
          omega
    · rw [heq]
      refine ih haccepting hactive hroom (Or.inl ⟨?_, ?_⟩)
      · change s.scheduler.pending ++ [s.submissions] ≠ []
        exact List.append_ne_nil_of_right_ne_nil _ (List.cons_ne_nil _ _)
      · change (s.scheduler.maxConcurrent : Int) ≤ n + s.scheduler.activeCount
        omega

section Complete

variable {observer : Nat → Nat} {k : Nat}

/-- A completion whose observer re-enters safely restores everything before the next step. -/
theorem Sound.complete (h : Sound options s) (hk : s.isAt k .finishing)
    (hsafe : ReentersSafely observer s k) : Sound options (s.complete observer k) := by
  obtain ⟨hl, ho, hb, hu⟩ := h
  have hledger := hl.retire hk
  refine Sound.congr ?_ (sameTasks_flushWaiters _)
  have hactive := hb.active
  have hvacated : Vacated ((s.leave k).settled .completed k) := by
    refine ⟨?_, hb.pending, fun hne => ?_⟩
    · change s.scheduler.activeCount - 1 + 1 ≤ s.scheduler.maxConcurrent
      omega
    · have hfull := hb.conserving hne
      change s.scheduler.activeCount - 1 + 1 = s.scheduler.maxConcurrent
      omega
  have hunder : Under options ((s.leave k).settled .completed k) :=
    ⟨hu.maxConcurrent, hu.maxPending⟩
  have horder : InOrder ((s.leave k).settled .completed k) := ⟨ho.starts, ho.ahead⟩
  unfold SchedulerState.settle
  by_cases hclosed : s.scheduler.accepting = false
  · obtain ⟨hscheduler, hstarts⟩ :=
      submits_closed (s := (s.leave k).settled .completed k) hclosed (observer k)
    refine sound_promote (hledger.submits_closed hclosed _) ⟨?_, ?_⟩ ⟨?_, ?_, ?_⟩ ⟨?_, ?_⟩
    · rw [hstarts]
      exact horder.starts
    · rw [hstarts, hscheduler]
      exact horder.ahead
    · rw [hscheduler]
      exact hvacated.active
    · rw [hscheduler]
      exact hvacated.pending
    · rw [hscheduler]
      exact hvacated.conserving
    · rw [hscheduler]
      exact hunder.maxConcurrent
    · rw [hscheduler]
      exact hunder.maxPending
  · by_cases hzero : observer k = 0
    · rw [hzero]
      exact sound_promote hledger horder hvacated hunder
    · -- Without a queue the state is sound already, and the observer must not leave one.
      have hnone : s.scheduler.pending = [] := by
        rcases hsafe with hz | hc | hm | hroom
        · exact absurd hz hzero
        · exact absurd hc hclosed
        · have hpending := hb.pending
          rw [hm] at hpending
          exact List.length_eq_zero_iff.mp (by omega)
        · exact hroom.1
      have hsound : Sound options ((s.leave k).settled .completed k) := by
        refine ⟨hledger, horder, ⟨?_, hb.pending, fun hne => absurd hnone hne⟩, hunder⟩
        have hone := hvacated.active
        omega
      have hleft : (SchedulerState.submit^[observer k]
          ((s.leave k).settled .completed k)).scheduler.pending = [] := by
        rcases hsafe with hz | hc | hm | hroom
        · exact absurd hz hzero
        · exact absurd hc hclosed
        · have hafter := hsound.submits (observer k)
          have hpending := hafter.bounded.pending
          have hmax := hu.maxPending
          rw [hafter.under.maxPending, ← hmax, hm] at hpending
          exact List.length_eq_zero_iff.mp (by omega)
        · refine submits_start _ hnone ?_
          have hfits := hroom.2
          change (observer k : Int) + (s.scheduler.activeCount - 1) ≤ s.scheduler.maxConcurrent
          omega
      have hsame : SchedulerState.promote
            (SchedulerState.submit^[observer k] ((s.leave k).settled .completed k)) =
          SchedulerState.submit^[observer k] ((s.leave k).settled .completed k) := by
        unfold SchedulerState.promote
        rw [hleft]
      rw [hsame]
      exact hsound.submits (observer k)

/-- A completion whose observer does not re-enter safely runs one task too many. -/
theorem Sound.complete_exceeds (h : Sound options s) (hcrowds : ¬ ReentersSafely observer s k) :
    (s.complete observer k).scheduler.activeCount = s.scheduler.maxConcurrent + 1 ∧
      (s.complete observer k).scheduler.maxConcurrent = s.scheduler.maxConcurrent := by
  simp only [ReentersSafely, not_or, not_and, Bool.not_eq_false] at hcrowds
  obtain ⟨hzero, haccepting, hroom, hfits⟩ := hcrowds
  have hactive := h.bounded.active
  obtain ⟨hne, hfull, hmax⟩ :=
      submits_overfill (s := (s.leave k).settled .completed k) (observer k) haccepting
    (by
      change s.scheduler.activeCount - 1 ≤ s.scheduler.maxConcurrent
      omega)
    (Nat.pos_of_ne_zero hroom)
    (by
      change (s.scheduler.pending ≠ [] ∧
          (s.scheduler.maxConcurrent : Int) ≤ observer k + (s.scheduler.activeCount - 1)) ∨
        (s.scheduler.maxConcurrent : Int) < observer k + (s.scheduler.activeCount - 1)
      by_cases hnone : s.scheduler.pending = []
      · have hover := hfits hnone
        exact Or.inr (by omega)
      · have hall := h.bounded.conserving hnone
        exact Or.inl ⟨hnone, by omega⟩)
  have hflush := sameTasks_flushWaiters (promote ((s.leave k).settle observer .completed k))
  unfold SchedulerState.complete
  rw [hflush.activeCount, hflush.maxConcurrent]
  unfold SchedulerState.settle SchedulerState.promote
  split
  · rename_i hnone
    exact absurd hnone hne
  · refine ⟨?_, hmax⟩
    change (SchedulerState.submit^[observer k]
      ((s.leave k).settled .completed k)).scheduler.activeCount + 1 = _
    rw [hfull]
    rfl

end Complete

/-- A close refuses what comes, and discards what waits where it is told to. -/
theorem Sound.close (h : Sound options s) (observer : Nat → Nat) (discardPending : Bool) :
    Sound options (s.close observer discardPending) := by
  obtain ⟨hl, ho, hb, hu⟩ := h
  refine Sound.congr ?_ (sameTasks_flushWaiters _)
  cases discardPending with
  | false =>
    exact ⟨⟨hl.pending, hl.queued, hl.starts, hl.completions, hl.once, hl.active, hl.consistent⟩,
      ⟨ho.starts, ho.ahead⟩, ⟨hb.active, hb.pending, hb.conserving⟩,
      ⟨hu.maxConcurrent, hu.maxPending⟩⟩
  | true =>
    obtain ⟨hdone, hq, hlog⟩ := discard_rest observer _ rfl rfl hl.detach
    change Sound options (s.scheduler.pending.foldl (fun s k => s.settle observer .discarded k) _)
    refine ⟨hdone, ⟨?_, ?_⟩, ⟨?_, ?_, ?_⟩, ⟨?_, ?_⟩⟩
    · rw [hlog]
      exact ho.starts
    · rw [hq]
      intro g _ p hp
      cases hp
    · rw [hq]
      exact hb.active
    · rw [hq]
      exact Nat.zero_le _
    · rw [hq]
      exact fun hne => absurd rfl hne
    · rw [hq]
      exact hu.maxConcurrent
    · rw [hq]
      exact hu.maxPending

theorem sound_new (options : BoundedTaskSchedulerOptions) : Sound options (new options) := by
  refine ⟨⟨?_, ?_, ?_, ?_, ?_, rfl, ?_⟩, ⟨?_, ?_⟩, ⟨?_, ?_, ?_⟩, ⟨rfl, rfl⟩⟩ <;>
    simp [new, BoundedTaskScheduler.new]

/-- Every completion re-enters safely; the other steps run no observer that could. -/
def Safe (observer : Nat → Nat) (s : SchedulerState) : SchedulerEvent → Prop
  | .complete k => ReentersSafely observer s k
  | _ => True

/-- A step whose observer re-enters safely keeps the ledger, the order and the bounds. -/
theorem sound_step {observer : Nat → Nat} {e : SchedulerEvent}
    (hs : (program options observer).machine.Step s e t) (h : Sound options s)
    (hsafe : Safe observer s e) : Sound options t := by
  have hledger := ledger_step hs h.ledger
  obtain ⟨he, rfl⟩ := hs
  have hquiet : ∀ u : SchedulerState, TaskLedger [] u → u.scheduler = s.scheduler →
      u.starts = s.starts → Sound options u := by
    rintro ⟨_⟩ hu rfl rfl
    exact ⟨hu, ⟨h.inOrder.starts, h.inOrder.ahead⟩,
      ⟨h.bounded.active, h.bounded.pending, h.bounded.conserving⟩,
      ⟨h.under.maxConcurrent, h.under.maxPending⟩⟩
  cases e with
  | submit => exact h.submit
  | close discardPending => exact h.close observer discardPending
  | call k => exact hquiet _ hledger rfl rfl
  | fulfil k => exact hquiet _ hledger rfl rfl
  | reject k => exact hquiet _ hledger rfl rfl
  | observed k => exact hquiet _ hledger rfl rfl
  | complete k =>
    obtain ⟨-, hk⟩ := of_decide_eq_true he
    exact h.complete hk hsafe
  | whenCapacityAvailable signal => exact h.congr (sameTasks_whenCapacityAvailable s signal)
  | onIdle signal => exact h.congr (sameTasks_onIdle s signal)
  | abort signal => exact h.congr (sameTasks_abort s signal)
  | listener => exact h.congr (sameTasks_fireListener s)

/-! ### What holds along every run -/

theorem TaskLedger.active_nonneg (h : TaskLedger [] s) : 0 ≤ s.scheduler.activeCount := by
  have hsub : s.completions.length ≤ s.starts.length := by
    refine (List.subperm_of_subset h.once fun k hk => ?_).length_le
    obtain ⟨hlt, hphase⟩ := (h.completions k).mp hk
    exact (h.starts k).mpr ⟨hlt, by simp [TaskPhase.Started, hphase]⟩
  have hactive := h.active
  omega

/-- A submission is refused by a closed scheduler or a full one, and by no other. -/
theorem Sound.refuses_iff (h : Sound options s) :
    (s.scheduler.submit s.submissions).1.isAccepted = false ↔
      s.scheduler.accepting = false ∨ (s.scheduler.activeCount = options.maxConcurrent ∧
        s.scheduler.pending.length = options.maxPending) := by
  have hactive := h.bounded.active
  have hpending := h.bounded.pending
  rw [h.under.maxConcurrent] at hactive
  rw [h.under.maxPending] at hpending
  unfold BoundedTaskScheduler.submit
  rw [h.under.maxConcurrent, h.under.maxPending]
  by_cases haccepting : s.scheduler.accepting = false
  · simp [haccepting, TaskSubmissionResult.isAccepted]
  · rw [if_neg haccepting]
    by_cases hslot : s.scheduler.activeCount < options.maxConcurrent
    · rw [if_pos hslot]
      refine iff_of_false (by simp [TaskSubmissionResult.isAccepted]) ?_
      rintro (hclosed | ⟨hfull, -⟩)
      · exact haccepting hclosed
      · omega
    · rw [if_neg hslot]
      by_cases hroom : s.scheduler.pending.length < options.maxPending
      · rw [if_pos hroom]
        refine iff_of_false (by simp [TaskSubmissionResult.isAccepted]) ?_
        rintro (hclosed | ⟨-, hfull⟩)
        · exact haccepting hclosed
        · omega
      · rw [if_neg hroom]
        exact iff_of_true (by simp) (Or.inr ⟨by omega, by omega⟩)

/-- Once a record is settled it reads so; before that it has not been. -/
theorem settlements_eq {e : TaskEntry} (h : e.Consistent) :
    e.settlements = if e.phase = .completed ∨ e.phase = .discarded then 1 else 0 := by
  obtain ⟨phase, calls, outcome, settlements⟩ := e
  cases phase <;> simp [TaskEntry.Consistent] at h ⊢
  all_goals omega

/-- A scheduler whose observers never submit respects its bounds, starts tasks in submission order
and settles each accepted one exactly once. -/
theorem scheduler_correct (options : BoundedTaskSchedulerOptions) (s : SchedulerState)
    (h : (program options fun _ => 0).machine.Reachable s) :
    (0 ≤ s.scheduler.activeCount ∧ s.scheduler.activeCount ≤ options.maxConcurrent ∧
        s.scheduler.pending.length ≤ options.maxPending ∧
        (s.scheduler.pending ≠ [] → s.scheduler.activeCount = options.maxConcurrent)) ∧
      (s.starts.Pairwise (· < ·) ∧ (∀ g ∈ s.starts, ∀ p ∈ s.scheduler.pending, g < p) ∧
        ∀ k, k ∈ s.starts ↔ k < s.submissions ∧ (s.entry k).phase.Started) ∧
      (∀ k < s.submissions,
        (s.entry k).settlements =
            (if (s.entry k).phase = .completed ∨ (s.entry k).phase = .discarded then 1 else 0) ∧
          (s.entry k).calls ≤ 1 ∧
          ((s.entry k).phase = .completed → k ∈ s.starts ∧ (s.entry k).calls = 1 ∧
            ((s.entry k).outcome = some .fulfilled ∨
              (s.entry k).outcome = some (.rejected true))) ∧
          ((s.entry k).phase = .discarded ∨ (s.entry k).phase = .refused →
            k ∉ s.starts ∧ (s.entry k).calls = 0) ∧
          ((s.entry k).phase.Final → ∀ es t,
            (program options fun _ => 0).machine.Run s es t → t.entry k = s.entry k)) ∧
      (∀ k, s.isAt k .finishing → ((s.complete (fun _ => 0) k).entry k).phase = .completed) ∧
      (∀ k ∈ s.scheduler.pending, ((s.close (fun _ => 0) true).entry k).phase = .discarded) ∧
      ((s.scheduler.submit s.submissions).1.isAccepted = false ↔
        s.scheduler.accepting = false ∨ (s.scheduler.activeCount = options.maxConcurrent ∧
          s.scheduler.pending.length = options.maxPending)) := by
  have hsound : Sound options s := by
    refine h.invariant ?_ fun s e t hs hsound => sound_step hs hsound ?_
    · rintro s rfl
      exact sound_new options
    · cases e <;> first | exact trivial | exact Or.inl rfl
  obtain ⟨hl, ho, hb, hu⟩ := hsound
  have hmax := hu.maxConcurrent
  refine ⟨⟨hl.active_nonneg, ?_, ?_, ?_⟩, ⟨ho.starts, ho.ahead, hl.starts⟩, fun k hk => ?_, ?_, ?_,
    Sound.refuses_iff ⟨hl, ho, hb, hu⟩⟩
  · rw [← hmax]
    exact hb.active
  · rw [← hu.maxPending]
    exact hb.pending
  · rw [← hmax]
    exact hb.conserving
  · have hrecord := hl.consistent k hk
    refine ⟨settlements_eq hrecord, ?_, fun hp => ?_, fun hp => ?_, fun hf es t hr => ?_⟩
    · unfold TaskEntry.Consistent at hrecord
      split at hrecord <;> omega
    · simp only [TaskEntry.Consistent, hp] at hrecord
      exact ⟨(hl.starts k).mpr ⟨hk, by simp [TaskPhase.Started, hp]⟩, hrecord.1, hrecord.2.1⟩
    · rcases hp with hp | hp
      · simp only [TaskEntry.Consistent, hp] at hrecord
        refine ⟨fun hmem => ?_, hrecord.1⟩
        have hstarted := ((hl.starts k).mp hmem).2
        simp [TaskPhase.Started, hp] at hstarted
      · simp only [TaskEntry.Consistent, hp] at hrecord
        refine ⟨fun hmem => ?_, hrecord.1⟩
        have hstarted := ((hl.starts k).mp hmem).2
        simp [TaskPhase.Started, hp] at hstarted
    · exact final_run hr hl hk hf
  · intro k hk
    have hnot : (s.entry k).phase ≠ .pending := by
      rw [hk.2]
      simp
    rw [hl.complete_entry (fun _ => 0) hk hk.1 hnot]
    simp [settled, setEntry]
  · exact fun k hk => hl.close_discards (fun _ => 0) hk

/-- One slot and one place in the queue: the second task waits for the first, the third is refused
and a close discards nothing that has started. -/
theorem scheduler_correct_small :
    ∃ s, (program ⟨1, 1, .drop⟩ fun _ => 0).machine.Reachable s ∧ s.starts = [0, 1] ∧
      (s.entry 0).phase = .completed ∧ (s.entry 2).phase = .refused ∧
      (s.scheduler.activeCount ≤ 1 ∧ s.scheduler.pending.length ≤ 1) := by
  obtain ⟨s, hrun, hstarts, hfirst, hthird⟩ := (program ⟨1, 1, .drop⟩ fun _ => 0).exists_run
    [.submit, .submit, .submit, .call 0, .reject 0, .observed 0, .complete 0, .close true]
    (new ⟨1, 1, .drop⟩)
    (fun s => s.starts = [0, 1] ∧ (s.entry 0).phase = .completed ∧ (s.entry 2).phase = .refused)
    (by decide)
  have hreach : (program ⟨1, 1, .drop⟩ fun _ => 0).machine.Reachable s := ⟨_, _, rfl, hrun⟩
  have hcorrect := scheduler_correct ⟨1, 1, .drop⟩ s hreach
  exact ⟨s, hreach, hstarts, hfirst, hthird, hcorrect.1.2.1, hcorrect.1.2.2.1⟩

/-- The cap holds and no task of the queue has been overtaken. -/
def Capped (options : BoundedTaskSchedulerOptions) (s : SchedulerState) : Prop :=
  s.scheduler.activeCount ≤ options.maxConcurrent ∧ s.InOrder

/-- Whatever the observers submit, a run stays capped and in order throughout exactly when each of
its completions re-enters safely. -/
theorem capped_iff_safe (options : BoundedTaskSchedulerOptions) (observer : Nat → Nat)
    (es : List SchedulerEvent) (t : SchedulerState) :
    ((program options observer).machine.restrict (Safe observer)).Run (new options) es t ↔
      ((program options observer).machine.restrict fun s _ => Capped options s).Run
        (new options) es t ∧ Capped options t := by
  refine Machine.Run.restrict_iff_good (I := Sound options) (G := Capped options)
    (fun s e t hs hsound hsafe => sound_step hs hsound hsafe) (fun s hsound => ?_)
    (fun s e t hs hsound hcrowds hcapped => ?_) (sound_new options)
  · refine ⟨?_, hsound.inOrder⟩
    rw [← hsound.under.maxConcurrent]
    exact hsound.bounded.active
  · cases e with
    | complete k =>
      obtain ⟨-, rfl⟩ := hs
      obtain ⟨hactive, -⟩ := hsound.complete_exceeds hcrowds
      have hcap := hcapped.1
      rw [← hsound.under.maxConcurrent] at hcap
      change (s.complete observer k).scheduler.activeCount ≤ _ at hcap
      omega
    | _ => exact hcrowds trivial

/-- One slot and one waiting task; the observer of the first submits a third. -/
theorem capped_iff_safe_violated :
    ¬ ∀ (options : BoundedTaskSchedulerOptions) (observer : Nat → Nat) (s : SchedulerState),
      (program options observer).machine.Reachable s → Capped options s := by
  intro hall
  obtain ⟨s, hrun, hactive⟩ :=
    (program ⟨1, 1, .drop⟩ (fun k => if k = 0 then 1 else 0)).exists_run
      [.submit, .submit, .call 0, .fulfil 0, .complete 0] (new ⟨1, 1, .drop⟩)
      (fun s => s.scheduler.activeCount = 2) (by decide)
  have hcapped := hall _ _ s ⟨_, _, rfl, hrun⟩
  have hcap := hcapped.1
  rw [hactive] at hcap
  exact absurd hcap (by decide)

/-- In that run some completion does not re-enter safely. -/
theorem capped_iff_safe_small :
    ∃ t, (program ⟨1, 1, .drop⟩ fun k => if k = 0 then 1 else 0).machine.Run (new ⟨1, 1, .drop⟩)
        [.submit, .submit, .call 0, .fulfil 0, .complete 0] t ∧
      ¬ ((program ⟨1, 1, .drop⟩ fun k => if k = 0 then 1 else 0).machine.restrict
          (Safe fun k => if k = 0 then 1 else 0)).Run (new ⟨1, 1, .drop⟩)
        [.submit, .submit, .call 0, .fulfil 0, .complete 0] t := by
  obtain ⟨t, hrun, hactive⟩ :=
    (program ⟨1, 1, .drop⟩ (fun k => if k = 0 then 1 else 0)).exists_run
      [.submit, .submit, .call 0, .fulfil 0, .complete 0] (new ⟨1, 1, .drop⟩)
      (fun s => s.scheduler.activeCount = 2) (by decide)
  refine ⟨t, hrun, fun hsafe => ?_⟩
  have hcap := ((capped_iff_safe ⟨1, 1, .drop⟩ _ _ t).mp hsafe).2.1
  rw [hactive] at hcap
  exact absurd hcap (by decide)

end SchedulerState

end NestWebTransport
