import NestWebTransport.Execution.SchedulerState
import NestWebTransport.Foundation.Table
import Mathlib.Data.List.Nodup

/-! Which tasks the scheduler starts and when it settles them. -/
namespace NestWebTransport

namespace TaskPhase

/-- The phases of a task that `start` has been called on. -/
def Started (phase : TaskPhase) : Prop :=
  phase = .starting ∨ phase = .running ∨ phase = .observing ∨ phase = .finishing ∨
    phase = .completed

/-- The phases of a submission the scheduler is done with. -/
def Final (phase : TaskPhase) : Prop :=
  phase = .refused ∨ phase = .discarded ∨ phase = .completed

theorem Final.not_pending {phase : TaskPhase} (h : phase.Final) : phase ≠ .pending := by
  rcases h with rfl | rfl | rfl <;> simp

end TaskPhase

/-- The record of a submission fits its phase: the task is called once it runs, `onSettled` once
it has completed or been discarded, and only after the task and its error observer settled. -/
def TaskEntry.Consistent (e : TaskEntry) : Prop :=
  match e.phase with
  | .refused | .pending | .starting => e.calls = 0 ∧ e.outcome = none ∧ e.settlements = 0
  | .discarded => e.calls = 0 ∧ e.outcome = none ∧ e.settlements = 1
  | .running => e.calls = 1 ∧ e.outcome = none ∧ e.settlements = 0
  | .observing => e.calls = 1 ∧ e.outcome = some (.rejected false) ∧ e.settlements = 0
  | .finishing =>
    e.calls = 1 ∧ (e.outcome = some .fulfilled ∨ e.outcome = some (.rejected true)) ∧
      e.settlements = 0
  | .completed =>
    e.calls = 1 ∧ (e.outcome = some .fulfilled ∨ e.outcome = some (.rejected true)) ∧
      e.settlements = 1

namespace SchedulerState

/-- The queue, the logs and the records of the tasks agree. `rest` is what a discard in progress
has taken off the queue and not settled yet. -/
structure TaskLedger (rest : List Nat) (s : SchedulerState) : Prop where
  pending : ∀ k, k ∈ s.scheduler.pending ++ rest ↔ k < s.submissions ∧ (s.entry k).phase = .pending
  queued : (s.scheduler.pending ++ rest).Pairwise (· < ·)
  starts : ∀ k, k ∈ s.starts ↔ k < s.submissions ∧ (s.entry k).phase.Started
  completions : ∀ k, k ∈ s.completions ↔ k < s.submissions ∧ (s.entry k).phase = .completed
  once : s.completions.Nodup
  active : s.scheduler.activeCount + s.completions.length = s.starts.length
  consistent : ∀ k < s.submissions, (s.entry k).Consistent

variable {s t : SchedulerState} {rest : List Nat} {options : BoundedTaskSchedulerOptions}

/-! ### Flushing touches waiters only -/

/-- What the tasks depend on is the same in both states. -/
structure SameTasks (s t : SchedulerState) : Prop where
  pending : t.scheduler.pending = s.scheduler.pending
  activeCount : t.scheduler.activeCount = s.scheduler.activeCount
  accepting : t.scheduler.accepting = s.scheduler.accepting
  maxConcurrent : t.scheduler.maxConcurrent = s.scheduler.maxConcurrent
  maxPending : t.scheduler.maxPending = s.scheduler.maxPending
  submissions : t.submissions = s.submissions
  entry : t.entry = s.entry
  starts : t.starts = s.starts
  completions : t.completions = s.completions

theorem SameTasks.refl (s : SchedulerState) : SameTasks s s :=
  ⟨rfl, rfl, rfl, rfl, rfl, rfl, rfl, rfl, rfl⟩

theorem SameTasks.trans {u : SchedulerState} (h : SameTasks s t) (h' : SameTasks t u) :
    SameTasks s u where
  pending := h'.pending.trans h.pending
  activeCount := h'.activeCount.trans h.activeCount
  accepting := h'.accepting.trans h.accepting
  maxConcurrent := h'.maxConcurrent.trans h.maxConcurrent
  maxPending := h'.maxPending.trans h.maxPending
  submissions := h'.submissions.trans h.submissions
  entry := h'.entry.trans h.entry
  starts := h'.starts.trans h.starts
  completions := h'.completions.trans h.completions

theorem sameTasks_finish (s : SchedulerState) (w : Nat) : SameTasks s (s.finish w) := by
  unfold finish
  cases (s.waiter w).kind <;> exact ⟨rfl, rfl, rfl, rfl, rfl, rfl, rfl, rfl, rfl⟩

theorem sameTasks_foldl_finish (ws : List Nat) (s : SchedulerState) :
    SameTasks s (ws.foldl finish s) := by
  induction ws generalizing s with
  | nil => exact .refl s
  | cons w ws ih => exact (sameTasks_finish s w).trans (ih _)

/-- The waiters are none of the tasks' business. -/
theorem sameTasks_flushWaiters (s : SchedulerState) : SameTasks s s.flushWaiters := by
  have hcapacity : ∀ s, SameTasks s (flushCapacity s) := fun s =>
    { sameTasks_foldl_finish s.scheduler.capacityWaiters s with }
  have hidle : ∀ s, SameTasks s (flushIdle s) := fun s =>
    { sameTasks_foldl_finish s.scheduler.idleWaiters s with }
  have hfirst : SameTasks s
      (if s.scheduler.hasCapacity || !s.scheduler.accepting then s.flushCapacity else s) := by
    split
    · exact hcapacity s
    · exact .refl s
  unfold flushWaiters
  generalize (if s.scheduler.hasCapacity || !s.scheduler.accepting then s.flushCapacity else s) = t
    at hfirst
  simp only
  split
  · exact hfirst.trans (hidle t)
  · exact hfirst

theorem sameTasks_whenCapacityAvailable (s : SchedulerState) (signal : Option Nat) :
    SameTasks s (s.whenCapacityAvailable signal) := by
  unfold whenCapacityAvailable
  split
  · exact ⟨rfl, rfl, rfl, rfl, rfl, rfl, rfl, rfl, rfl⟩
  · have henroll : SameTasks s (s.enroll .capacity signal) :=
      ⟨rfl, rfl, rfl, rfl, rfl, rfl, rfl, rfl, rfl⟩
    simp only
    split
    · exact henroll.trans (sameTasks_finish _ _)
    · exact henroll

theorem sameTasks_onIdle (s : SchedulerState) (signal : Option Nat) :
    SameTasks s (s.onIdle signal) := by
  unfold onIdle
  split
  · exact ⟨rfl, rfl, rfl, rfl, rfl, rfl, rfl, rfl, rfl⟩
  · have henroll : SameTasks s (s.enroll .idle signal) :=
      ⟨rfl, rfl, rfl, rfl, rfl, rfl, rfl, rfl, rfl⟩
    simp only
    split
    · exact henroll.trans (sameTasks_finish _ _)
    · exact henroll

theorem sameTasks_abort (s : SchedulerState) (signal : Nat) : SameTasks s (s.abort signal) := by
  unfold abort
  split
  · exact .refl s
  · exact ⟨rfl, rfl, rfl, rfl, rfl, rfl, rfl, rfl, rfl⟩

theorem sameTasks_fireListener (s : SchedulerState) : SameTasks s s.fireListener := by
  unfold fireListener
  split
  · exact .refl s
  · rename_i w ws _
    have hdrop : SameTasks s { s with dispatch := ws } :=
      ⟨rfl, rfl, rfl, rfl, rfl, rfl, rfl, rfl, rfl⟩
    simp only
    split
    · exact hdrop.trans (sameTasks_finish _ _)
    · exact hdrop

/-- The ledger looks at the tasks and their lists only. -/
theorem TaskLedger.congr (h : TaskLedger rest s) (e : SameTasks s t) : TaskLedger rest t := by
  obtain ⟨hp, ha, _, _, _, hsub, hentry, hstarts, hcompletions⟩ := e
  refine ⟨?_, ?_, ?_, ?_, ?_, ?_, ?_⟩
  · rw [hp, hsub, hentry]
    exact h.pending
  · rw [hp]
    exact h.queued
  · rw [hstarts, hsub, hentry]
    exact h.starts
  · rw [hcompletions, hsub, hentry]
    exact h.completions
  · rw [hcompletions]
    exact h.once
  · rw [ha, hcompletions, hstarts]
    exact h.active
  · rw [hsub, hentry]
    exact h.consistent

/-! ### Submitting -/

/-- The next submission gets a record; the scheduler and the log change with its answer. -/
def arrive (s : SchedulerState) (phase : TaskPhase) (q : BoundedTaskScheduler Nat Nat)
    (starts : List Nat) : SchedulerState :=
  { s with
    scheduler := q
    submissions := s.submissions + 1
    entry := Function.update s.entry s.submissions ⟨phase, 0, none, 0⟩
    starts := starts }

/-- The three ways a submission ends: refused when intake is closed or both bounds are full,
started when a slot is idle, queued otherwise. -/
theorem submit_cases (s : SchedulerState) :
    ((s.scheduler.accepting = false ∨ (s.scheduler.maxConcurrent ≤ s.scheduler.activeCount ∧
        s.scheduler.maxPending ≤ s.scheduler.pending.length)) ∧
      s.submit = s.arrive .refused s.scheduler s.starts) ∨
    (s.scheduler.accepting = true ∧ s.scheduler.activeCount < s.scheduler.maxConcurrent ∧
      s.submit = s.arrive .starting
        { s.scheduler with activeCount := s.scheduler.activeCount + 1 }
        (s.starts ++ [s.submissions])) ∨
    (s.scheduler.accepting = true ∧ s.scheduler.maxConcurrent ≤ s.scheduler.activeCount ∧
      s.scheduler.pending.length < s.scheduler.maxPending ∧
      s.submit = s.arrive .pending
        { s.scheduler with pending := s.scheduler.pending ++ [s.submissions] } s.starts) := by
  unfold submit BoundedTaskScheduler.submit
  by_cases haccepting : s.scheduler.accepting = false
  · refine Or.inl ⟨Or.inl haccepting, ?_⟩
    simp only [if_pos haccepting]
    rfl
  · have htrue : s.scheduler.accepting = true := by simpa using haccepting
    by_cases hslot : s.scheduler.activeCount < s.scheduler.maxConcurrent
    · refine Or.inr (Or.inl ⟨htrue, hslot, ?_⟩)
      simp only [if_neg haccepting, if_pos hslot]
      rfl
    · by_cases hroom : s.scheduler.pending.length < s.scheduler.maxPending
      · refine Or.inr (Or.inr ⟨htrue, by omega, hroom, ?_⟩)
        simp only [if_neg haccepting, if_neg hslot, if_pos hroom]
        rfl
      · refine Or.inl ⟨Or.inr ⟨by omega, by omega⟩, ?_⟩
        simp only [if_neg haccepting, if_neg hslot, if_neg hroom]
        cases s.scheduler.overflow <;> rfl

theorem TaskLedger.pending_lt (h : TaskLedger rest s) {k : Nat}
    (hk : k ∈ s.scheduler.pending ++ rest) : k < s.submissions := ((h.pending k).mp hk).1

theorem TaskLedger.starts_lt (h : TaskLedger rest s) {k : Nat} (hk : k ∈ s.starts) :
    k < s.submissions := ((h.starts k).mp hk).1

/-- A record that fits its phase is added without disturbing the others. -/
theorem TaskLedger.consistent_push (h : TaskLedger rest s) {e : TaskEntry} (he : e.Consistent) :
    ∀ k < s.submissions + 1, (Function.update s.entry s.submissions e k).Consistent := by
  intro k hk
  by_cases hks : k = s.submissions
  · subst hks
    rw [Function.update_self]
    exact he
  · rw [Function.update_of_ne hks]
    exact h.consistent k (by omega)

theorem TaskLedger.refuse (h : TaskLedger rest s) :
    TaskLedger rest (s.arrive .refused s.scheduler s.starts) where
  pending k := (h.pending k).trans
    (table_push_not_iff (P := fun e : TaskEntry => e.phase = .pending) (by simp) k).symm
  queued := h.queued
  starts k := (h.starts k).trans
    (table_push_not_iff (P := fun e : TaskEntry => e.phase.Started) (by simp [TaskPhase.Started])
      k).symm
  completions k := (h.completions k).trans
    (table_push_not_iff (P := fun e : TaskEntry => e.phase = .completed) (by simp) k).symm
  once := h.once
  active := h.active
  consistent := h.consistent_push ⟨rfl, rfl, rfl⟩

/-- A task that finds a free slot holds it from its submission on. -/
theorem TaskLedger.startNow (h : TaskLedger rest s) : TaskLedger rest (s.arrive .starting
    { s.scheduler with activeCount := s.scheduler.activeCount + 1 }
    (s.starts ++ [s.submissions])) where
  pending k := (h.pending k).trans
    (table_push_not_iff (P := fun e : TaskEntry => e.phase = .pending) (by simp) k).symm
  queued := h.queued
  starts k := by
    have hpush := table_push_iff (P := fun e : TaskEntry => e.phase.Started) (f := s.entry)
      (n := s.submissions) (v := ⟨.starting, 0, none, 0⟩) k
    refine Iff.trans ?_ hpush.symm
    rw [← h.starts]
    simp [arrive, TaskPhase.Started]
  completions k := (h.completions k).trans
    (table_push_not_iff (P := fun e : TaskEntry => e.phase = .completed) (by simp) k).symm
  once := h.once
  active := by
    have hactive := h.active
    change s.scheduler.activeCount + 1 + s.completions.length = (s.starts ++ [s.submissions]).length
    rw [List.length_append, List.length_singleton]
    push_cast
    omega
  consistent := h.consistent_push ⟨rfl, rfl, rfl⟩

/-- A task that waits is the last in line. -/
theorem TaskLedger.queue (h : TaskLedger [] s) : TaskLedger [] (s.arrive .pending
    { s.scheduler with pending := s.scheduler.pending ++ [s.submissions] } s.starts) where
  pending k := by
    have hpush := table_push_iff (P := fun e : TaskEntry => e.phase = .pending) (f := s.entry)
      (n := s.submissions) (v := ⟨.pending, 0, none, 0⟩) k
    refine Iff.trans ?_ hpush.symm
    rw [← h.pending]
    simp [arrive]
  queued := by
    have hqueued := h.queued
    rw [List.append_nil] at hqueued
    change (s.scheduler.pending ++ [s.submissions] ++ []).Pairwise (· < ·)
    rw [List.append_nil, List.pairwise_append]
    refine ⟨hqueued, List.pairwise_singleton _ _, fun k hk j hj => ?_⟩
    rw [List.mem_singleton.mp hj]
    exact h.pending_lt (by rw [List.append_nil]; exact hk)
  starts k := (h.starts k).trans
    (table_push_not_iff (P := fun e : TaskEntry => e.phase.Started) (by simp [TaskPhase.Started])
      k).symm
  completions k := (h.completions k).trans
    (table_push_not_iff (P := fun e : TaskEntry => e.phase = .completed) (by simp) k).symm
  once := h.once
  active := h.active
  consistent := h.consistent_push ⟨rfl, rfl, rfl⟩

theorem TaskLedger.submits (h : TaskLedger [] s) (n : Nat) :
    TaskLedger [] (SchedulerState.submit^[n] s) := by
  induction n generalizing s with
  | zero => exact h
  | succ n ih =>
    rw [Function.iterate_succ_apply]
    rcases s.submit_cases with ⟨_, heq⟩ | ⟨_, _, heq⟩ | ⟨_, _, _, heq⟩
    · rw [heq]
      exact ih h.refuse
    · rw [heq]
      exact ih h.startNow
    · rw [heq]
      exact ih h.queue

theorem submit_closed (h : s.scheduler.accepting = false) :
    s.submit = s.arrive .refused s.scheduler s.starts := by
  rcases s.submit_cases with ⟨_, heq⟩ | ⟨haccepting, _⟩ | ⟨haccepting, _⟩
  · exact heq
  · rw [h] at haccepting
    cases haccepting
  · rw [h] at haccepting
    cases haccepting

/-- Once intake is closed, submissions only add refused records. -/
theorem submits_closed (h : s.scheduler.accepting = false) (n : Nat) :
    (SchedulerState.submit^[n] s).scheduler = s.scheduler ∧
      (SchedulerState.submit^[n] s).starts = s.starts := by
  induction n generalizing s with
  | zero => exact ⟨rfl, rfl⟩
  | succ n ih =>
    rw [Function.iterate_succ_apply, submit_closed h]
    exact ih (s := s.arrive .refused s.scheduler s.starts) h

theorem TaskLedger.submits_closed (hl : TaskLedger rest s) (h : s.scheduler.accepting = false)
    (n : Nat) : TaskLedger rest (SchedulerState.submit^[n] s) := by
  induction n generalizing s with
  | zero => exact hl
  | succ n ih =>
    rw [Function.iterate_succ_apply, submit_closed h]
    exact ih hl.refuse h

/-! ### Tasks under way -/

/-- A record that replaces another is consistent and so are the others. -/
theorem TaskLedger.consistent_set (h : TaskLedger rest s) {k : Nat} {e : TaskEntry}
    (he : e.Consistent) : ∀ j < s.submissions, (Function.update s.entry k e j).Consistent := by
  intro j hj
  by_cases hjk : j = k
  · subst hjk
    rw [Function.update_self]
    exact he
  · rw [Function.update_of_ne hjk]
    exact h.consistent j hj

/-- A started task moves on without completing. -/
theorem TaskLedger.advance (h : TaskLedger rest s) {k : Nat} {e : TaskEntry}
    (hold : (s.entry k).phase.Started) (hnot : (s.entry k).phase ≠ .completed)
    (hnew : e.phase.Started) (hnot' : e.phase ≠ .completed) (he : e.Consistent) :
    TaskLedger rest (s.setEntry k e) := by
  have hpending : ∀ phase : TaskPhase, phase.Started → phase ≠ .pending := by
    rintro phase hstarted rfl
    simp [TaskPhase.Started] at hstarted
  refine ⟨fun j => ?_, h.queued, fun j => ?_, fun j => ?_, h.once, h.active, h.consistent_set he⟩
  · exact (h.pending j).trans (table_keep_iff (P := fun e : TaskEntry => e.phase = .pending)
      (iff_of_false (hpending _ hnew) (hpending _ hold)) j).symm
  · exact (h.starts j).trans (table_keep_iff (P := fun e : TaskEntry => e.phase.Started)
      (iff_of_true hnew hold) j).symm
  · exact (h.completions j).trans (table_keep_iff (P := fun e : TaskEntry => e.phase = .completed)
      (iff_of_false hnot' hnot) j).symm

theorem TaskLedger.record (h : TaskLedger rest s) {k : Nat} {phase : TaskPhase}
    (hk : s.isAt k phase) : (s.entry k).phase = phase ∧ (s.entry k).Consistent :=
  ⟨hk.2, h.consistent k hk.1⟩

/-! ### Completing and discarding -/

/-- The chain of a task has settled: it leaves, and its observer is called once. -/
theorem TaskLedger.retire (h : TaskLedger [] s) {k : Nat} (hk : s.isAt k .finishing) :
    TaskLedger [] ((s.leave k).settled .completed k) := by
  obtain ⟨hphase, hrecord⟩ := h.record hk
  simp only [TaskEntry.Consistent, hphase] at hrecord
  obtain ⟨hcalls, houtcome, hsettlements⟩ := hrecord
  have hfresh : k ∉ s.completions := by
    intro hmem
    have hdone := ((h.completions k).mp hmem).2
    rw [hphase] at hdone
    cases hdone
  refine ⟨fun j => ?_, h.queued, fun j => ?_, fun j => ?_, ?_, ?_, h.consistent_set ?_⟩
  · exact (h.pending j).trans (table_keep_iff (P := fun e : TaskEntry => e.phase = .pending)
      (iff_of_false (by simp) (by simp [hphase])) j).symm
  · exact (h.starts j).trans (table_keep_iff (P := fun e : TaskEntry => e.phase.Started)
      (iff_of_true (by simp [TaskPhase.Started]) (by simp [TaskPhase.Started, hphase])) j).symm
  · refine Iff.trans ?_
      (table_move_iff (P := fun e : TaskEntry => e.phase = .completed) hk.1 j).symm
    change j ∈ s.completions ++ [k] ↔ _
    rw [List.mem_append, List.mem_singleton, h.completions]
    constructor
    · rintro (⟨hlt, hdone⟩ | rfl)
      · refine Or.inl ⟨?_, hlt, hdone⟩
        rintro rfl
        rw [hphase] at hdone
        cases hdone
      · exact Or.inr ⟨rfl, rfl⟩
    · rintro (⟨-, hlt, hdone⟩ | ⟨he, -⟩)
      · exact Or.inl ⟨hlt, hdone⟩
      · exact Or.inr he
  · change (s.completions ++ [k]).Nodup
    rw [List.nodup_append]
    refine ⟨h.once, List.nodup_singleton _, fun a ha b hb hab => hfresh ?_⟩
    rw [← List.mem_singleton.mp hb, ← hab]
    exact ha
  · have hactive := h.active
    change s.scheduler.activeCount - 1 + ((s.completions ++ [k]).length : Nat) = _
    rw [List.length_append, List.length_singleton]
    push_cast
    change _ = (s.starts.length : Int)
    omega
  · refine ⟨hcalls, houtcome, ?_⟩
    change (s.entry k).settlements + 1 = 1
    omega

/-- The next discarded task is settled without having been started. -/
theorem TaskLedger.discardNext {k : Nat} (h : TaskLedger (k :: rest) s)
    (hnone : s.scheduler.pending = []) : TaskLedger rest (s.settled .discarded k) := by
  have hmem : k ∈ s.scheduler.pending ++ k :: rest :=
    List.mem_append_right _ List.mem_cons_self
  obtain ⟨hlt, hphase⟩ := (h.pending k).mp hmem
  have hrecord := h.consistent k hlt
  simp only [TaskEntry.Consistent, hphase] at hrecord
  obtain ⟨hcalls, houtcome, hsettlements⟩ := hrecord
  have hqueued := h.queued
  rw [hnone, List.nil_append, List.pairwise_cons] at hqueued
  refine ⟨fun j => ?_, ?_, fun j => ?_, fun j => ?_, h.once, h.active, h.consistent_set ?_⟩
  · have hpending := h.pending j
    refine Iff.trans ?_ (table_move_iff (P := fun e : TaskEntry => e.phase = .pending) hlt j).symm
    change j ∈ s.scheduler.pending ++ rest ↔ _
    rw [hnone, List.nil_append] at hpending ⊢
    rw [List.mem_cons] at hpending
    constructor
    · intro hj
      have hne : j ≠ k := by
        rintro rfl
        exact Nat.lt_irrefl j (hqueued.1 j hj)
      exact Or.inl ⟨hne, hpending.mp (Or.inr hj)⟩
    · rintro (⟨hne, hj⟩ | ⟨-, hp⟩)
      · exact (hpending.mpr hj).resolve_left hne
      · cases hp
  · change (s.scheduler.pending ++ rest).Pairwise (· < ·)
    rw [hnone, List.nil_append]
    exact hqueued.2
  · exact (h.starts j).trans (table_keep_iff (P := fun e : TaskEntry => e.phase.Started)
      (iff_of_false (by simp [TaskPhase.Started]) (by simp [TaskPhase.Started, hphase])) j).symm
  · exact (h.completions j).trans (table_keep_iff (P := fun e : TaskEntry => e.phase = .completed)
      (iff_of_false (by simp) (by simp [hphase])) j).symm
  · refine ⟨hcalls, houtcome, ?_⟩
    change (s.entry k).settlements + 1 = 1
    omega

/-- A task taken from the queue starts. -/
theorem TaskLedger.promote (h : TaskLedger [] s) : TaskLedger [] s.promote := by
  unfold SchedulerState.promote
  split
  · exact h
  · rename_i k ks hqueue
    have hmem : k ∈ s.scheduler.pending ++ [] := by
      rw [hqueue]
      exact List.mem_append_left _ List.mem_cons_self
    obtain ⟨hlt, hphase⟩ := (h.pending k).mp hmem
    have hrecord := h.consistent k hlt
    simp only [TaskEntry.Consistent, hphase] at hrecord
    have hqueued := h.queued
    rw [hqueue, List.append_nil, List.pairwise_cons] at hqueued
    refine ⟨fun j => ?_, ?_, fun j => ?_, fun j => ?_, h.once, ?_, h.consistent_set hrecord⟩
    · have hpending := h.pending j
      refine Iff.trans ?_ (table_move_iff (P := fun e : TaskEntry => e.phase = .pending) hlt j).symm
      change j ∈ ks ++ [] ↔ _
      rw [hqueue, List.append_nil, List.mem_cons] at hpending
      rw [List.append_nil]
      constructor
      · intro hj
        have hne : j ≠ k := by
          rintro rfl
          exact Nat.lt_irrefl j (hqueued.1 j hj)
        exact Or.inl ⟨hne, hpending.mp (Or.inr hj)⟩
      · rintro (⟨hne, hj⟩ | ⟨-, hp⟩)
        · exact (hpending.mpr hj).resolve_left hne
        · cases hp
    · change (ks ++ []).Pairwise (· < ·)
      rw [List.append_nil]
      exact hqueued.2
    · refine Iff.trans ?_ (table_move_iff (P := fun e : TaskEntry => e.phase.Started) hlt j).symm
      change j ∈ s.starts ++ [k] ↔ _
      rw [List.mem_append, List.mem_singleton, h.starts]
      constructor
      · rintro (⟨hj, hstarted⟩ | rfl)
        · refine Or.inl ⟨?_, hj, hstarted⟩
          rintro rfl
          rw [hphase] at hstarted
          simp [TaskPhase.Started] at hstarted
        · exact Or.inr ⟨rfl, Or.inl rfl⟩
      · rintro (⟨-, hj, hstarted⟩ | ⟨he, -⟩)
        · exact Or.inl ⟨hj, hstarted⟩
        · exact Or.inr he
    · exact (h.completions j).trans (table_keep_iff (P := fun e : TaskEntry => e.phase = .completed)
        (iff_of_false (by simp) (by simp [hphase])) j).symm
    · have hactive := h.active
      change s.scheduler.activeCount + 1 + (s.completions.length : Int) = (s.starts ++ [k]).length
      rw [List.length_append, List.length_singleton]
      push_cast
      omega

/-! ### Closing -/

section Close

variable (observer : Nat → Nat)

/-- Settling what a discard took off the queue changes nothing but the records. -/
theorem discard_rest (ks : List Nat) (hclosed : s.scheduler.accepting = false)
    (hnone : s.scheduler.pending = []) (hl : TaskLedger ks s) :
    TaskLedger [] (ks.foldl (fun s k => s.settle observer .discarded k) s) ∧
      (ks.foldl (fun s k => s.settle observer .discarded k) s).scheduler = s.scheduler ∧
      (ks.foldl (fun s k => s.settle observer .discarded k) s).starts = s.starts := by
  induction ks generalizing s with
  | nil => exact ⟨hl, rfl, rfl⟩
  | cons k ks ih =>
    obtain ⟨hscheduler, hstarts⟩ :=
      submits_closed (s := s.settled .discarded k) hclosed (observer k)
    have hnext : TaskLedger ks (s.settle observer .discarded k) :=
      (hl.discardNext hnone).submits_closed hclosed _
    have hsame : (s.settle observer .discarded k).scheduler = s.scheduler := hscheduler
    obtain ⟨hdone, hq, hlog⟩ := ih (s := s.settle observer .discarded k)
      (by rw [hsame]; exact hclosed) (by rw [hsame]; exact hnone) hnext
    exact ⟨hdone, hq.trans hsame, hlog.trans hstarts⟩

/-- Taking the queue off for a discard, with intake closed. -/
theorem TaskLedger.detach (hl : TaskLedger [] s) : TaskLedger s.scheduler.pending
    { s with scheduler := { s.scheduler with accepting := false, pending := [] } } := by
  refine ⟨fun k => ?_, ?_, hl.starts, hl.completions, hl.once, hl.active, hl.consistent⟩
  · have hpending := hl.pending k
    rw [List.append_nil] at hpending
    exact hpending
  · have hqueued := hl.queued
    rw [List.append_nil] at hqueued
    exact hqueued

end Close

/-! ### Records that no longer change -/

theorem submits_entry (n : Nat) {k : Nat} (hk : k < s.submissions) :
    (submit^[n] s).entry k = s.entry k := by
  induction n generalizing s with
  | zero => rfl
  | succ n ih =>
    rw [Function.iterate_succ_apply]
    have harrive : ∀ phase q starts, (s.arrive phase q starts).entry k = s.entry k :=
      fun _ _ _ => Function.update_of_ne (Nat.ne_of_lt hk) _ _
    rcases s.submit_cases with ⟨_, heq⟩ | ⟨_, _, heq⟩ | ⟨_, _, _, heq⟩ <;> rw [heq]
    · exact (ih (Nat.lt_succ_of_lt hk)).trans (harrive _ _ _)
    · exact (ih (Nat.lt_succ_of_lt hk)).trans (harrive _ _ _)
    · exact (ih (Nat.lt_succ_of_lt hk)).trans (harrive _ _ _)

theorem submits_submissions (n : Nat) (s : SchedulerState) :
    (submit^[n] s).submissions = s.submissions + n := by
  induction n generalizing s with
  | zero => rfl
  | succ n ih =>
    rw [Function.iterate_succ_apply, ih]
    change s.submissions + 1 + n = s.submissions + (n + 1)
    omega

theorem settle_entry (observer : Nat → Nat) (phase : TaskPhase) {j k : Nat}
    (hj : j < s.submissions) :
    (s.settle observer phase k).entry j = (s.settled phase k).entry j :=
  submits_entry (s := s.settled phase k) _ hj

theorem settle_entry_of_ne (observer : Nat → Nat) (phase : TaskPhase) {j k : Nat}
    (hj : j < s.submissions) (hne : j ≠ k) :
    (s.settle observer phase k).entry j = s.entry j :=
  (settle_entry observer phase hj).trans (Function.update_of_ne hne _ _)

theorem TaskLedger.promote_entry (h : TaskLedger [] s) {k : Nat}
    (hk : (s.entry k).phase ≠ .pending) : s.promote.entry k = s.entry k := by
  unfold SchedulerState.promote
  split
  · rfl
  · rename_i j js hqueue
    refine Function.update_of_ne ?_ _ _
    rintro rfl
    have hmem : k ∈ s.scheduler.pending ++ [] := by
      rw [hqueue]
      exact List.mem_append_left _ List.mem_cons_self
    exact hk ((h.pending k).mp hmem).2

theorem discard_entry (observer : Nat → Nat) (ks : List Nat) {j : Nat} (hj : j < s.submissions)
    (hnot : j ∉ ks) :
    (ks.foldl (fun s k => s.settle observer .discarded k) s).entry j = s.entry j := by
  induction ks generalizing s with
  | nil => rfl
  | cons k ks ih =>
    have hne : j ≠ k := fun he => hnot (he ▸ List.mem_cons_self)
    have hlt : j < (s.settle observer .discarded k).submissions := by
      unfold SchedulerState.settle
      rw [submits_submissions]
      exact Nat.lt_add_right _ hj
    exact (ih hlt fun hmem => hnot (List.mem_cons_of_mem _ hmem)).trans
      (settle_entry_of_ne observer .discarded hj hne)

/-- The completion of a task settles this task and leaves those that do not wait. -/
theorem TaskLedger.complete_entry (h : TaskLedger [] s) (observer : Nat → Nat) {j k : Nat}
    (hk : s.isAt k .finishing) (hj : j < s.submissions) (hp : (s.entry j).phase ≠ .pending) :
    (s.complete observer k).entry j = (s.settled .completed k).entry j := by
  have hsettle : ((s.leave k).settle observer .completed k).entry j =
      (s.settled .completed k).entry j := settle_entry observer .completed hj
  have hnot : (((s.leave k).settle observer .completed k).entry j).phase ≠ .pending := by
    rw [hsettle]
    by_cases hjk : j = k
    · subst hjk
      simp [settled, setEntry]
    · simpa [settled, setEntry, Function.update_of_ne hjk] using hp
  have hledger : TaskLedger [] ((s.leave k).settle observer .completed k) :=
    (h.retire hk).submits (observer k)
  unfold SchedulerState.complete
  rw [(sameTasks_flushWaiters _).entry, hledger.promote_entry hnot, hsettle]

theorem TaskLedger.complete (h : TaskLedger [] s) (observer : Nat → Nat) {k : Nat}
    (hk : s.isAt k .finishing) : TaskLedger [] (s.complete observer k) :=
  TaskLedger.congr (((h.retire hk).submits (observer k)).promote) (sameTasks_flushWaiters _)

theorem TaskLedger.close (h : TaskLedger [] s) (observer : Nat → Nat) (discardPending : Bool) :
    TaskLedger [] (s.close observer discardPending) := by
  refine TaskLedger.congr ?_ (sameTasks_flushWaiters _)
  cases discardPending with
  | false =>
    exact ⟨h.pending, h.queued, h.starts, h.completions, h.once, h.active, h.consistent⟩
  | true => exact (discard_rest observer _ rfl rfl h.detach).1

theorem TaskLedger.close_entry (h : TaskLedger [] s) (observer : Nat → Nat) (discardPending : Bool)
    {k : Nat} (hk : k < s.submissions) (hp : (s.entry k).phase ≠ .pending) :
    (s.close observer discardPending).entry k = s.entry k := by
  unfold SchedulerState.close
  rw [(sameTasks_flushWaiters _).entry]
  cases discardPending with
  | false => rfl
  | true =>
    have hnot : k ∉ s.scheduler.pending := fun hmem =>
      hp ((h.pending k).mp (List.mem_append_left _ hmem)).2
    exact discard_entry observer s.scheduler.pending hk hnot

/-- Every task a discard takes off the queue ends up discarded. -/
theorem discard_reaches (observer : Nat → Nat) (ks : List Nat) (hnodup : ks.Nodup)
    (hlt : ∀ k ∈ ks, k < s.submissions) {j : Nat} (hj : j ∈ ks) :
    ((ks.foldl (fun s k => s.settle observer .discarded k) s).entry j).phase = .discarded := by
  induction ks generalizing s with
  | nil => cases hj
  | cons k ks ih =>
    obtain ⟨hfresh, hrest⟩ := List.nodup_cons.mp hnodup
    have hsub : s.submissions ≤ (s.settle observer .discarded k).submissions := by
      unfold SchedulerState.settle
      rw [submits_submissions]
      exact Nat.le_add_right _ _
    rcases List.mem_cons.mp hj with rfl | hj
    · have hk := hlt j List.mem_cons_self
      rw [List.foldl_cons, discard_entry observer ks (Nat.lt_of_lt_of_le hk hsub) hfresh,
        settle_entry observer .discarded hk]
      simp [settled, setEntry]
    · exact ih hrest (fun i hi => Nat.lt_of_lt_of_le (hlt i (List.mem_cons_of_mem _ hi)) hsub) hj

theorem TaskLedger.close_discards (h : TaskLedger [] s) (observer : Nat → Nat) {k : Nat}
    (hk : k ∈ s.scheduler.pending) : ((s.close observer true).entry k).phase = .discarded := by
  have hqueued := h.queued
  rw [List.append_nil] at hqueued
  unfold SchedulerState.close
  rw [(sameTasks_flushWaiters _).entry]
  refine discard_reaches observer s.scheduler.pending
    (hqueued.imp fun hlt => Nat.ne_of_lt hlt) (fun j hj => ?_) hk
  exact h.pending_lt (List.mem_append_left _ hj)

section Step

variable {observer : Nat → Nat} {e : SchedulerEvent}

/-- The records and the logs agree in every reachable state, however the observers re-enter. -/
theorem ledger_step (hs : (program options observer).machine.Step s e t) (h : TaskLedger [] s) :
    TaskLedger [] t := by
  obtain ⟨he, rfl⟩ := hs
  cases e with
  | submit => exact h.submits 1
  | close discardPending => exact h.close observer discardPending
  | call k =>
    obtain ⟨-, hk⟩ := of_decide_eq_true he
    obtain ⟨hphase, hrecord⟩ := h.record hk
    simp only [TaskEntry.Consistent, hphase] at hrecord
    refine h.advance (Or.inl hphase) (by simp [hphase]) (Or.inr (Or.inl rfl)) (by simp) ?_
    exact ⟨by rw [hrecord.1], hrecord.2.1, hrecord.2.2⟩
  | fulfil k =>
    have hk := of_decide_eq_true he
    obtain ⟨hphase, hrecord⟩ := h.record hk
    simp only [TaskEntry.Consistent, hphase] at hrecord
    refine h.advance (Or.inr (Or.inl hphase)) (by simp [hphase])
      (Or.inr (Or.inr (Or.inr (Or.inl rfl)))) (by simp) ?_
    exact ⟨hrecord.1, Or.inl rfl, hrecord.2.2⟩
  | reject k =>
    have hk := of_decide_eq_true he
    obtain ⟨hphase, hrecord⟩ := h.record hk
    simp only [TaskEntry.Consistent, hphase] at hrecord
    refine h.advance (Or.inr (Or.inl hphase)) (by simp [hphase])
      (Or.inr (Or.inr (Or.inl rfl))) (by simp) ?_
    exact ⟨hrecord.1, rfl, hrecord.2.2⟩
  | observed k =>
    have hk := of_decide_eq_true he
    obtain ⟨hphase, hrecord⟩ := h.record hk
    simp only [TaskEntry.Consistent, hphase] at hrecord
    refine h.advance (Or.inr (Or.inr (Or.inl hphase))) (by simp [hphase])
      (Or.inr (Or.inr (Or.inr (Or.inl rfl)))) (by simp) ?_
    exact ⟨hrecord.1, Or.inr rfl, hrecord.2.2⟩
  | complete k =>
    obtain ⟨-, hk⟩ := of_decide_eq_true he
    exact h.complete observer hk
  | whenCapacityAvailable signal => exact h.congr (sameTasks_whenCapacityAvailable s signal)
  | onIdle signal => exact h.congr (sameTasks_onIdle s signal)
  | abort signal => exact h.congr (sameTasks_abort s signal)
  | listener => exact h.congr (sameTasks_fireListener s)

theorem submissions_complete (observer : Nat → Nat) (k : Nat) (s : SchedulerState) :
    s.submissions ≤ (s.complete observer k).submissions := by
  have hpromote : ∀ u : SchedulerState, u.promote.submissions = u.submissions := by
    intro u
    unfold SchedulerState.promote
    split <;> rfl
  unfold SchedulerState.complete
  rw [(sameTasks_flushWaiters _).submissions, hpromote, SchedulerState.settle,
    submits_submissions]
  exact Nat.le_add_right _ _

theorem submissions_discard (observer : Nat → Nat) (ks : List Nat) (s : SchedulerState) :
    s.submissions ≤
      (ks.foldl (fun s k => s.settle observer .discarded k) s).submissions := by
  induction ks generalizing s with
  | nil => exact Nat.le_refl _
  | cons k ks ih =>
    refine Nat.le_trans ?_ (ih (s.settle observer .discarded k))
    change s.submissions ≤ (submit^[observer k] (s.settled .discarded k)).submissions
    rw [submits_submissions]
    exact Nat.le_add_right _ _

/-- The submissions are counted upwards. -/
theorem submissions_step (hs : (program options observer).machine.Step s e t) :
    s.submissions ≤ t.submissions := by
  obtain ⟨-, rfl⟩ := hs
  cases e with
  | submit => exact Nat.le_succ _
  | close discardPending =>
    change s.submissions ≤ (s.close observer discardPending).submissions
    unfold SchedulerState.close
    rw [(sameTasks_flushWaiters _).submissions]
    cases discardPending with
    | false => exact Nat.le_refl _
    | true =>
      exact submissions_discard observer s.scheduler.pending
        { s with scheduler := { s.scheduler with accepting := false, pending := [] } }
  | call k => exact Nat.le_refl _
  | fulfil k => exact Nat.le_refl _
  | reject k => exact Nat.le_refl _
  | observed k => exact Nat.le_refl _
  | complete k => exact submissions_complete observer k s
  | whenCapacityAvailable signal =>
    exact Nat.le_of_eq (sameTasks_whenCapacityAvailable s signal).submissions.symm
  | onIdle signal => exact Nat.le_of_eq (sameTasks_onIdle s signal).submissions.symm
  | abort signal => exact Nat.le_of_eq (sameTasks_abort s signal).submissions.symm
  | listener => exact Nat.le_of_eq (sameTasks_fireListener s).submissions.symm

/-- A record in a final phase never changes again. -/
theorem final_step (hs : (program options observer).machine.Step s e t) (h : TaskLedger [] s)
    {k : Nat} (hk : k < s.submissions) (hf : (s.entry k).phase.Final) :
    t.entry k = s.entry k := by
  obtain ⟨he, rfl⟩ := hs
  have hne : ∀ j, (s.entry j).phase.Started → (s.entry j).phase ≠ .completed → k ≠ j := by
    rintro j hstarted hnot rfl
    rcases hf with hp | hp | hp
    · rw [hp] at hstarted
      simp [TaskPhase.Started] at hstarted
    · rw [hp] at hstarted
      simp [TaskPhase.Started] at hstarted
    · exact hnot hp
  have hmove : ∀ j v, (s.entry j).phase.Started → (s.entry j).phase ≠ .completed →
      (s.setEntry j v).entry k = s.entry k :=
    fun j v hstarted hnot => Function.update_of_ne (hne j hstarted hnot) _ _
  cases e with
  | submit => exact submits_entry 1 hk
  | close discardPending => exact h.close_entry observer discardPending hk hf.not_pending
  | call j =>
    obtain ⟨-, hj⟩ := of_decide_eq_true he
    exact hmove j _ (by simp [TaskPhase.Started, hj.2]) (by simp [hj.2])
  | fulfil j =>
    have hj := of_decide_eq_true he
    exact hmove j _ (by simp [TaskPhase.Started, hj.2]) (by simp [hj.2])
  | reject j =>
    have hj := of_decide_eq_true he
    exact hmove j _ (by simp [TaskPhase.Started, hj.2]) (by simp [hj.2])
  | observed j =>
    have hj := of_decide_eq_true he
    exact hmove j _ (by simp [TaskPhase.Started, hj.2]) (by simp [hj.2])
  | complete j =>
    obtain ⟨-, hj⟩ := of_decide_eq_true he
    have hkj := hne j (by simp [TaskPhase.Started, hj.2]) (by simp [hj.2])
    exact (h.complete_entry observer hj hk hf.not_pending).trans (Function.update_of_ne hkj _ _)
  | whenCapacityAvailable signal =>
      exact congrFun (sameTasks_whenCapacityAvailable s signal).entry k
  | onIdle signal => exact congrFun (sameTasks_onIdle s signal).entry k
  | abort signal => exact congrFun (sameTasks_abort s signal).entry k
  | listener => exact congrFun (sameTasks_fireListener s).entry k

end Step

/-! ### Runs -/

/-- A settled task stays as it is. -/
theorem final_run {observer : Nat → Nat} {es : List SchedulerEvent}
    (hr : (program options observer).machine.Run s es t) (h : TaskLedger [] s)
    {k : Nat} (hk : k < s.submissions) (hf : (s.entry k).phase.Final) :
    t.entry k = s.entry k := by
  induction hr with
  | refl => rfl
  | stepL hs _ ih =>
    have hstep := final_step hs h hk hf
    have hrest := ih (ledger_step hs h) (Nat.lt_of_lt_of_le hk (submissions_step hs))
      (by rw [hstep]; exact hf)
    exact hrest.trans hstep

end SchedulerState

end NestWebTransport
