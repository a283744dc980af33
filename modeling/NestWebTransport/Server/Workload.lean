import NestWebTransport.Core.Lifecycle
import NestWebTransport.Execution.BoundedTaskScheduler
import NestWebTransport.Foundation.Enumeration
import NestWebTransport.Server.HandlerBudget

/-! The work of all sessions: admissions and accepted tasks, the schedulers that hold the tasks
and the budget they share.

Each definition is one synchronous stretch of the program; the microtasks it queues are kept in
`starts` and `resumes`, in the order they will run. -/
namespace NestWebTransport

inductive StreamKind
  | bidirectional
  | unidirectional
  deriving DecidableEq, Repr

/-- A datagram is known by the number of the read that returned it. -/
inductive WorkKind
  | admission
  | datagram (arrival : Nat)
  | stream (id : Nat)
  deriving DecidableEq, Repr

/-- How far a piece of work is: held by its scheduler, called by a queued microtask, waiting for
a permit, granted one but not resumed, in user code, rejected with its error not yet observed,
or only its `finally` left. -/
inductive WorkPhase
  | pending
  | starting
  | waiting
  | granted
  | running
  | rejected (failure : Failure)
  | finishing
  | settled
  deriving DecidableEq, Repr

/-- For a datagram, `charged` is what it was charged when enqueued and `byteLength` what the
array's `byteLength` reads now. `released` lists the bytes given back by the calls of `settle`. -/
structure Work where
  owner : Nat
  kind : WorkKind
  reservation : Nat
  phase : WorkPhase
  charged : Nat
  byteLength : Nat
  released : List Nat

/-- What the `onSettled` of the work releases; only a datagram task has one. -/
def Work.datagramBytes (work : Work) : Nat :=
  match work.kind with
  | .datagram _ => work.byteLength
  | _ => 0

/-- The phase of work whose `run` rejected. Nothing observes the error of admission work there. -/
def Work.failed (work : Work) (failure : Failure) : WorkPhase :=
  if work.kind = .admission then .finishing else .rejected failure

/-- Who awaits a scheduler. -/
inductive Waiter
  | drain
  | pump (kind : StreamKind)
  | retirement
  | stop
  deriving DecidableEq, Repr

/-- `begun` lists the work that entered user code, in that order; the program keeps no such
record. -/
structure Workload where
  handlerBudget : HandlerBudget
  managedCount : Nat
  scheduler : Nat → BoundedTaskScheduler Nat Waiter
  workCount : Nat
  work : Nat → Work
  starts : List Nat
  resumes : List Nat
  begun : List Nat

namespace Workload

variable (l : Workload) (k w r : Nat)

/-- The scheduler of the next managed session. -/
def openSession (maxConcurrent maxPending : Nat) (overflow : HandlerOverflowPolicy) : Workload :=
  { l with
    managedCount := l.managedCount + 1
    scheduler := Function.update l.scheduler l.managedCount
      (.new maxConcurrent maxPending overflow) }

def setScheduler (scheduler : BoundedTaskScheduler Nat Waiter) : Workload :=
  { l with scheduler := Function.update l.scheduler k scheduler }

def setPhase (phase : WorkPhase) : Workload :=
  { l with work := Function.update l.work w { l.work w with phase := phase } }

/-- A permit is handed over: `running` was counted by the budget, the caller resumes later. -/
def grant : Workload := { l.setPhase w .granted with resumes := l.resumes ++ [w] }

def grantAll (callers : List Nat) : Workload := callers.foldl grant l

/-- The loop of `wake`, with the continuations it queues. -/
def wake : Workload :=
  let (granted, budget) := l.handlerBudget.wake
  grantAll { l with handlerBudget := budget } granted

/-- `settle`, and the `finally(releaseAdmissionBudget)` of admission work. -/
def settle : Workload :=
  { l with
    handlerBudget := l.handlerBudget.release (l.work w).reservation
    work := Function.update l.work w
      { l.work w with
        phase := .settled
        released := (l.work w).datagramBytes :: (l.work w).released } }

/-- The call of `run`, up to its first `await`. -/
def acquire (aborted : Bool) : Workload :=
  let (outcome, budget) := l.handlerBudget.acquire w aborted
  let m := { l with handlerBudget := budget }
  match outcome with
  | .granted => m.grant w
  | .waiting => m.setPhase w .waiting
  | .rejected => m.setPhase w ((l.work w).failed .unknown)

/-- The `finally` of `run`, leaving the work in `phase`. -/
def finishRun (phase : WorkPhase) : Workload :=
  wake { l.setPhase w phase with handlerBudget := l.handlerBudget.leave }

/-- The abort listener of a waiting caller; a caller granted in the meantime has removed it. -/
def abortWaiter : Workload :=
  if w ∈ l.handlerBudget.waiters then
    wake { l.setPhase w ((l.work w).failed .unknown) with
      handlerBudget := l.handlerBudget.forget w }
  else l

/-- What the abort of a session's context does to the budget. -/
def abortWaiters : Workload :=
  (l.handlerBudget.waiters.filter fun w => (l.work w).owner = k).foldl abortWaiter l

/-- Enter work that holds the reservation `r`. -/
def allocate (kind : WorkKind) (phase : WorkPhase) (bytes : Nat) : Workload :=
  { l with
    workCount := l.workCount + 1
    work := Function.update l.work l.workCount ⟨k, kind, r, phase, bytes, bytes, []⟩ }

/-- `scheduler.submit` for a task that holds the reservation `r`; a refused task gives it back. -/
def submitReserved (kind : WorkKind) (bytes : Nat) : TaskSubmissionResult × Workload :=
  let (outcome, scheduler) := (l.scheduler k).submit l.workCount
  match outcome with
  | .started =>
    (.started, { (l.allocate k r kind .starting bytes).setScheduler k scheduler with
      starts := l.starts ++ [l.workCount] })
  | .queued => (.queued, (l.allocate k r kind .pending bytes).setScheduler k scheduler)
  | refusal => (refusal, { l with handlerBudget := l.handlerBudget.release r })

/-- `WebTransportRuntime.submit`, its counters apart. `bytes` is what `onSettled` would release. -/
def submit (overflow : HandlerOverflowPolicy) (kind : WorkKind) (bytes : Nat) :
    TaskSubmissionResult × Workload :=
  match l.handlerBudget.reserve with
  | none => (overflow.refusal, l)
  | some (r, budget) => { l with handlerBudget := budget }.submitReserved k r kind bytes

/-- `handlerBudget.run(authenticateAndRunSessionHandlers)` for the reservation `r`. -/
def runAdmission (aborted : Bool) : Workload :=
  (l.allocate k r .admission .starting 0).acquire l.workCount aborted

/-- The oldest queued microtask that calls a started task. -/
def callTask (aborted : Bool) : Workload :=
  match l.starts with
  | [] => l
  | w :: rest => { l with starts := rest }.acquire w aborted

/-- Enter user code. -/
def beginTask : Workload := { l.setPhase w .running with begun := l.begun ++ [w] }

/-- The oldest granted caller continues after `await this.acquire(signal)`. -/
def resumeTask (aborted : Bool) : Workload :=
  match l.resumes with
  | [] => l
  | w :: rest =>
    let m := { l with resumes := rest }
    if aborted then m.finishRun w ((l.work w).failed .unknown) else m.beginTask w

/-- The `finally` reaction of a started task after `settle`: the next pending task starts. -/
def promote : Workload :=
  let (next, scheduler) := (l.scheduler k).promote
  match next with
  | none => l.setScheduler k scheduler
  | some v => { (l.setScheduler k scheduler).setPhase v .starting with starts := l.starts ++ [v] }

/-- The `finally` reaction of a started task. -/
def settleTask : Workload :=
  let k := (l.work w).owner
  ((l.setScheduler k (l.scheduler k).leave).settle w).promote k

/-- A handler or resolver transfers the buffer of the array it was given. -/
def detach : Workload :=
  { l with work := Function.update l.work w { l.work w with byteLength := 0 } }

/-- What `submit` leaves when the session's scheduler starts the task. -/
def started (budget : HandlerBudget) (kind : WorkKind) (bytes : Nat) : Workload :=
  { (l.allocate k r kind .starting bytes).setScheduler k
      { l.scheduler k with activeCount := (l.scheduler k).activeCount + 1 } with
    handlerBudget := budget
    starts := l.starts ++ [l.workCount] }

/-- What `submit` leaves when the session's scheduler queues the task. -/
def queued (budget : HandlerBudget) (kind : WorkKind) (bytes : Nat) : Workload :=
  { (l.allocate k r kind .pending bytes).setScheduler k
      { l.scheduler k with pending := (l.scheduler k).pending ++ [l.workCount] } with
    handlerBudget := budget }

/-- What `promote` leaves when it starts `v`. -/
def promoted (v : Nat) (rest : List Nat) : Workload :=
  { (l.setScheduler k (BoundedTaskScheduler.flushWaiters { l.scheduler k with
        pending := rest
        activeCount := (l.scheduler k).activeCount + 1 })).setPhase v .starting with
    starts := l.starts ++ [v] }

theorem promote_cases :
    ((l.scheduler k).pending = [] ∧
      l.promote k = l.setScheduler k (l.scheduler k).flushWaiters) ∨
    ∃ v rest, (l.scheduler k).pending = v :: rest ∧ l.promote k = l.promoted k v rest := by
  unfold promote BoundedTaskScheduler.promote
  cases hhead : (l.scheduler k).pending with
  | nil => exact Or.inl ⟨rfl, rfl⟩
  | cons v rest => exact Or.inr ⟨v, rest, rfl, rfl⟩

/-- The four ways `submit` can answer. -/
theorem submit_cases (overflow : HandlerOverflowPolicy) (kind : WorkKind) (bytes : Nat) :
    (l.handlerBudget.reserve = none ∧ l.submit k overflow kind bytes = (overflow.refusal, l)) ∨
    ∃ r budget, l.handlerBudget.reserve = some (r, budget) ∧
      ((l.submit k overflow kind bytes = (.started, l.started k r budget kind bytes) ∧
          (l.scheduler k).accepting = true ∧
          (l.scheduler k).activeCount < (l.scheduler k).maxConcurrent) ∨
        (l.submit k overflow kind bytes = (.queued, l.queued k r budget kind bytes) ∧
          (l.scheduler k).accepting = true ∧
          ¬ (l.scheduler k).activeCount < (l.scheduler k).maxConcurrent ∧
          (l.scheduler k).pending.length < (l.scheduler k).maxPending) ∨
        ∃ refusal, refusal.isAccepted = false ∧ (l.scheduler k).hasCapacity = false ∧
          l.submit k overflow kind bytes =
            (refusal, { l with handlerBudget := budget.release r })) := by
  unfold submit
  cases hr : l.handlerBudget.reserve with
  | none => exact Or.inl ⟨rfl, rfl⟩
  | some reservation =>
    obtain ⟨r, budget⟩ := reservation
    refine Or.inr ⟨r, budget, rfl, ?_⟩
    have hcapacity := (l.scheduler k).submit_isAccepted_of_hasCapacity l.workCount
    simp only [submitReserved]
    generalize hsub : (l.scheduler k).submit l.workCount = result at hcapacity
    obtain ⟨hout, hacc, hlt, hsch⟩ | ⟨hout, hacc, hlt, hpend, hsch⟩ | ⟨hout, hsch⟩ :=
      hsub ▸ (l.scheduler k).submit_cases l.workCount
    · obtain ⟨outcome, scheduler⟩ := result
      simp only at hout hsch
      subst hout hsch
      exact Or.inl ⟨rfl, hacc, hlt⟩
    · obtain ⟨outcome, scheduler⟩ := result
      simp only at hout hsch
      subst hout hsch
      exact Or.inr (Or.inl ⟨rfl, hacc, hlt, hpend⟩)
    · obtain ⟨outcome, scheduler⟩ := result
      have hfull : (l.scheduler k).hasCapacity = false := by
        by_contra hc
        simp [hcapacity (by simpa using hc)] at hout
      refine Or.inr (Or.inr ⟨outcome, hout, hfull, ?_⟩)
      cases outcome <;> first | rfl | simp [TaskSubmissionResult.isAccepted] at hout

theorem submit_managedCount (overflow : HandlerOverflowPolicy) (kind : WorkKind) (bytes : Nat) :
    (l.submit k overflow kind bytes).2.managedCount = l.managedCount := by
  obtain ⟨-, heq⟩ | ⟨r, budget, -, ⟨heq, -⟩ | ⟨heq, -⟩ | ⟨refusal, -, -, heq⟩⟩ :=
    l.submit_cases k overflow kind bytes <;> rw [heq] <;> rfl

theorem settleTask_managedCount : (l.settleTask w).managedCount = l.managedCount := by
  unfold settleTask
  obtain ⟨-, heq⟩ | ⟨v, rest, -, heq⟩ := ((l.setScheduler (l.work w).owner
    (l.scheduler (l.work w).owner).leave).settle w).promote_cases (l.work w).owner <;>
    simp only [heq] <;> rfl

end Workload

end NestWebTransport
