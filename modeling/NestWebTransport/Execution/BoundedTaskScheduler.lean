import Mathlib.Data.List.Basic

/-! The per-session task scheduler. Tasks and waiters are named; their promises live elsewhere. -/
namespace NestWebTransport

inductive HandlerOverflowPolicy
  | drop
  | reject
  | closeSession
  deriving DecidableEq, Repr

inductive TaskSubmissionResult
  | started
  | queued
  | dropped
  | rejected
  | closeSession
  | closed
  deriving DecidableEq, Repr

/-- `outcome === 'started' || outcome === 'queued'`. -/
def TaskSubmissionResult.isAccepted : TaskSubmissionResult → Bool
  | .started | .queued => true
  | _ => false

def HandlerOverflowPolicy.refusal : HandlerOverflowPolicy → TaskSubmissionResult
  | .drop => .dropped
  | .reject => .rejected
  | .closeSession => .closeSession

@[simp] theorem HandlerOverflowPolicy.refusal_isAccepted (p : HandlerOverflowPolicy) :
    p.refusal.isAccepted = false := by cases p <;> rfl

/-- A waiter is registered until the promise handed to its caller resolves. -/
structure BoundedTaskScheduler (Task Waiter : Type*) where
  maxConcurrent : Nat
  maxPending : Nat
  overflow : HandlerOverflowPolicy
  pending : List Task
  idleWaiters : List Waiter
  capacityWaiters : List Waiter
  activeCount : Int
  accepting : Bool

namespace BoundedTaskScheduler

variable {Task Waiter : Type*} (s : BoundedTaskScheduler Task Waiter)

def new (maxConcurrent maxPending : Nat) (overflow : HandlerOverflowPolicy) :
    BoundedTaskScheduler Task Waiter :=
  ⟨maxConcurrent, maxPending, overflow, [], [], [], 0, true⟩

def capacity : Nat := s.maxConcurrent + s.maxPending

def hasCapacity : Bool := s.accepting && decide (s.activeCount + s.pending.length < s.capacity)

def isIdle : Bool := s.activeCount == 0 && s.pending.isEmpty

def flushWaiters : BoundedTaskScheduler Task Waiter :=
  { s with
    capacityWaiters := if s.hasCapacity || !s.accepting then [] else s.capacityWaiters
    idleWaiters := if s.isIdle then [] else s.idleWaiters }

/-- A `started` result also queues the microtask that calls the task. -/
def submit (task : Task) : TaskSubmissionResult × BoundedTaskScheduler Task Waiter :=
  if s.accepting = false then (.closed, s)
  else if s.activeCount < s.maxConcurrent then
    (.started, { s with activeCount := s.activeCount + 1 })
  else if s.pending.length < s.maxPending then (.queued, { s with pending := s.pending ++ [task] })
  else (s.overflow.refusal, s)

/-- Returns the discarded tasks, which the caller settles in order. -/
def close (discardPending : Bool) : List Task × BoundedTaskScheduler Task Waiter :=
  let discarded := if discardPending then s.pending else []
  let kept := if discardPending then [] else s.pending
  (discarded, flushWaiters { s with accepting := false, pending := kept })

def whenCapacityAvailable (w : Waiter) (aborted : Bool) : BoundedTaskScheduler Task Waiter :=
  if s.hasCapacity || !s.accepting || aborted then s
  else { s with capacityWaiters := s.capacityWaiters ++ [w] }

def onIdle (w : Waiter) : BoundedTaskScheduler Task Waiter :=
  if s.isIdle then s else { s with idleWaiters := s.idleWaiters ++ [w] }

/-- The caller's signal aborts: `finish` runs for every capacity waiter listening on it. -/
def abortCapacityWaiters : BoundedTaskScheduler Task Waiter := { s with capacityWaiters := [] }

/-- The `finally` reaction of a started task, up to the call of `settle`. -/
def leave : BoundedTaskScheduler Task Waiter := { s with activeCount := s.activeCount - 1 }

/-- The `finally` reaction after `settle`: start the next pending task and flush the waiters. -/
def promote : Option Task × BoundedTaskScheduler Task Waiter :=
  match s.pending with
  | [] => (none, s.flushWaiters)
  | next :: rest =>
    (some next, flushWaiters { s with pending := rest, activeCount := s.activeCount + 1 })

/-! ### What each operation leaves in each field -/

@[simp] theorem flushWaiters_pending : s.flushWaiters.pending = s.pending := rfl
@[simp] theorem flushWaiters_activeCount : s.flushWaiters.activeCount = s.activeCount := rfl
@[simp] theorem flushWaiters_accepting : s.flushWaiters.accepting = s.accepting := rfl
@[simp] theorem flushWaiters_maxConcurrent : s.flushWaiters.maxConcurrent = s.maxConcurrent := rfl
@[simp] theorem flushWaiters_maxPending : s.flushWaiters.maxPending = s.maxPending := rfl
@[simp] theorem flushWaiters_overflow : s.flushWaiters.overflow = s.overflow := rfl
@[simp] theorem flushWaiters_isIdle : s.flushWaiters.isIdle = s.isIdle := rfl

@[simp] theorem leave_pending : s.leave.pending = s.pending := rfl
@[simp] theorem leave_activeCount : s.leave.activeCount = s.activeCount - 1 := rfl
@[simp] theorem leave_maxConcurrent : s.leave.maxConcurrent = s.maxConcurrent := rfl
@[simp] theorem leave_maxPending : s.leave.maxPending = s.maxPending := rfl

theorem flushWaiters_idleWaiters :
    s.flushWaiters.idleWaiters = if s.isIdle then [] else s.idleWaiters := rfl

variable (w : Waiter) (aborted : Bool)

@[simp] theorem whenCapacityAvailable_pending :
    (s.whenCapacityAvailable w aborted).pending = s.pending := by
  unfold whenCapacityAvailable; split <;> rfl

@[simp] theorem whenCapacityAvailable_activeCount :
    (s.whenCapacityAvailable w aborted).activeCount = s.activeCount := by
  unfold whenCapacityAvailable; split <;> rfl

@[simp] theorem whenCapacityAvailable_accepting :
    (s.whenCapacityAvailable w aborted).accepting = s.accepting := by
  unfold whenCapacityAvailable; split <;> rfl

@[simp] theorem whenCapacityAvailable_idleWaiters :
    (s.whenCapacityAvailable w aborted).idleWaiters = s.idleWaiters := by
  unfold whenCapacityAvailable; split <;> rfl

@[simp] theorem whenCapacityAvailable_maxConcurrent :
    (s.whenCapacityAvailable w aborted).maxConcurrent = s.maxConcurrent := by
  unfold whenCapacityAvailable; split <;> rfl

@[simp] theorem whenCapacityAvailable_maxPending :
    (s.whenCapacityAvailable w aborted).maxPending = s.maxPending := by
  unfold whenCapacityAvailable; split <;> rfl

@[simp] theorem onIdle_pending : (s.onIdle w).pending = s.pending := by
  unfold onIdle; split <;> rfl

@[simp] theorem onIdle_activeCount : (s.onIdle w).activeCount = s.activeCount := by
  unfold onIdle; split <;> rfl

@[simp] theorem onIdle_accepting : (s.onIdle w).accepting = s.accepting := by
  unfold onIdle; split <;> rfl

@[simp] theorem onIdle_maxConcurrent : (s.onIdle w).maxConcurrent = s.maxConcurrent := by
  unfold onIdle; split <;> rfl

@[simp] theorem onIdle_maxPending : (s.onIdle w).maxPending = s.maxPending := by
  unfold onIdle; split <;> rfl

theorem hasCapacity_iff : s.hasCapacity = true ↔
    s.accepting = true ∧ s.activeCount + s.pending.length < s.maxConcurrent + s.maxPending := by
  unfold hasCapacity capacity
  rw [Bool.and_eq_true_iff]
  exact and_congr_right fun _ => ⟨fun h => by have := of_decide_eq_true h; omega,
    fun h => decide_eq_true (by omega)⟩

theorem isIdle_iff : s.isIdle = true ↔ s.activeCount = 0 ∧ s.pending = [] := by
  simp [isIdle]

/-- A scheduler with capacity takes the next task, so its own bounds never refuse it. -/
theorem submit_isAccepted_of_hasCapacity (task : Task) (h : s.hasCapacity = true) :
    (s.submit task).1.isAccepted = true := by
  obtain ⟨hacc, hlt⟩ := s.hasCapacity_iff.mp h
  unfold submit
  split_ifs with h1 h2 h3
  · simp [hacc] at h1
  · rfl
  · rfl
  · omega

/-- The four ways `submit` can answer. -/
theorem submit_cases (task : Task) :
    ((s.submit task).1 = .started ∧ s.accepting = true ∧ s.activeCount < s.maxConcurrent ∧
      (s.submit task).2 = { s with activeCount := s.activeCount + 1 }) ∨
    ((s.submit task).1 = .queued ∧ s.accepting = true ∧ ¬ s.activeCount < s.maxConcurrent ∧
      s.pending.length < s.maxPending ∧
      (s.submit task).2 = { s with pending := s.pending ++ [task] }) ∨
    ((s.submit task).1.isAccepted = false ∧ (s.submit task).2 = s) := by
  unfold submit
  split_ifs with h1 h2 h3
  · exact Or.inr (Or.inr ⟨rfl, rfl⟩)
  · exact Or.inl ⟨rfl, by simpa using h1, h2, rfl⟩
  · exact Or.inr (Or.inl ⟨rfl, by simpa using h1, h2, h3, rfl⟩)
  · exact Or.inr (Or.inr ⟨by simp, rfl⟩)

end BoundedTaskScheduler

end NestWebTransport
