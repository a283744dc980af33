import NestWebTransport.Execution.BoundedTaskScheduler
import NestWebTransport.Foundation.Program
import Mathlib.Logic.Function.Iterate

/-! The scheduler together with its tasks, its waiters and the signals they listen on. -/
namespace NestWebTransport

/-- Where a submission stands. A `starting` task awaits the microtask that calls it; a `finishing`
one awaits the `finally` reaction of its chain. -/
inductive TaskPhase
  | refused
  | pending
  | discarded
  | starting
  | running
  | observing
  | finishing
  | completed
  deriving DecidableEq, Repr

/-- How a task's promise settled, and whether its error observer has settled since. -/
inductive TaskOutcome
  | fulfilled
  | rejected (observed : Bool)
  deriving DecidableEq, Repr

/-- `calls` counts the calls of the task and `settlements` those of its `onSettled`. -/
structure TaskEntry where
  phase : TaskPhase
  calls : Nat
  outcome : Option TaskOutcome
  settlements : Nat
  deriving DecidableEq, Repr

inductive WaiterKind
  | capacity
  | idle
  deriving DecidableEq, Repr

/-- `resolved` counts the calls of the waiter's `finish`; `listening` is its abort listener. -/
structure SchedulerWaiter where
  kind : WaiterKind
  signal : Option Nat
  listening : Bool
  resolved : Nat
  deriving DecidableEq, Repr

/-- Submissions and waiters are numbered as they arrive. `starts` and `completions` log the calls
of `start` and the `finally` reactions; `dispatch` lists the abort listeners still to fire. -/
structure SchedulerState where
  scheduler : BoundedTaskScheduler Nat Nat
  submissions : Nat
  entry : Nat → TaskEntry
  starts : List Nat
  completions : List Nat
  waiters : Nat
  waiter : Nat → SchedulerWaiter
  aborted : Nat → Bool
  dispatch : List Nat

structure BoundedTaskSchedulerOptions where
  maxConcurrent : Nat
  maxPending : Nat
  overflow : HandlerOverflowPolicy
  deriving DecidableEq, Repr

namespace SchedulerState

variable (s : SchedulerState)

def new (options : BoundedTaskSchedulerOptions) : SchedulerState where
  scheduler := .new options.maxConcurrent options.maxPending options.overflow
  submissions := 0
  entry := fun _ => ⟨.refused, 0, none, 0⟩
  starts := []
  completions := []
  waiters := 0
  waiter := fun _ => ⟨.capacity, none, false, 0⟩
  aborted := fun _ => false
  dispatch := []

/-! ### Waiters -/

/-- The `finish` closure of a waiter. -/
def finish (w : Nat) : SchedulerState :=
  { s with
    scheduler :=
      match (s.waiter w).kind with
      | .capacity =>
        { s.scheduler with capacityWaiters := s.scheduler.capacityWaiters.erase w }
      | .idle => { s.scheduler with idleWaiters := s.scheduler.idleWaiters.erase w }
    waiter := Function.update s.waiter w
      { s.waiter w with listening := false, resolved := (s.waiter w).resolved + 1 } }

def flushCapacity : SchedulerState :=
  let flushed := s.scheduler.capacityWaiters.foldl finish s
  { flushed with scheduler := { flushed.scheduler with capacityWaiters := [] } }

def flushIdle : SchedulerState :=
  let flushed := s.scheduler.idleWaiters.foldl finish s
  { flushed with scheduler := { flushed.scheduler with idleWaiters := [] } }

def flushWaiters : SchedulerState :=
  let s := if s.scheduler.hasCapacity || !s.scheduler.accepting then s.flushCapacity else s
  if s.scheduler.isIdle then s.flushIdle else s

def isAborted (signal : Option Nat) : Bool := signal.any s.aborted

/-- A call that returns before it registers anything. -/
def resolveAtOnce (kind : WaiterKind) (signal : Option Nat) : SchedulerState :=
  { s with
    waiters := s.waiters + 1
    waiter := Function.update s.waiter s.waiters ⟨kind, signal, false, 1⟩ }

/-- The promise executor of a waiter, up to its second check. -/
def enroll (kind : WaiterKind) (signal : Option Nat) : SchedulerState :=
  { s with
    scheduler :=
      match kind with
      | .capacity =>
        { s.scheduler with capacityWaiters := s.scheduler.capacityWaiters ++ [s.waiters] }
      | .idle => { s.scheduler with idleWaiters := s.scheduler.idleWaiters ++ [s.waiters] }
    waiters := s.waiters + 1
    waiter := Function.update s.waiter s.waiters ⟨kind, signal, signal.isSome, 0⟩ }

def whenCapacityAvailable (signal : Option Nat) : SchedulerState :=
  if s.scheduler.hasCapacity || !s.scheduler.accepting || s.isAborted signal then
    s.resolveAtOnce .capacity signal
  else
    let t := s.enroll .capacity signal
    if t.scheduler.hasCapacity || !t.scheduler.accepting || t.isAborted signal then
      t.finish s.waiters
    else t

def onIdle (signal : Option Nat) : SchedulerState :=
  if s.scheduler.isIdle || s.isAborted signal then s.resolveAtOnce .idle signal
  else
    let t := s.enroll .idle signal
    if t.scheduler.isIdle || t.isAborted signal then t.finish s.waiters else t

/-- `abort` on a controller: the listeners of its signal fire in the order they were added. -/
def abort (signal : Nat) : SchedulerState :=
  if s.aborted signal then s
  else
    { s with
      aborted := Function.update s.aborted signal true
      dispatch := (List.range s.waiters).filter
        (fun w => (s.waiter w).listening && (s.waiter w).signal == some signal) ++ s.dispatch }

/-- The next listener fires, unless `finish` has removed it in the meantime. -/
def fireListener : SchedulerState :=
  match s.dispatch with
  | [] => s
  | w :: rest =>
    let t := { s with dispatch := rest }
    if (s.waiter w).listening then t.finish w else t

/-! ### Tasks -/

def submit : SchedulerState :=
  let r := s.scheduler.submit s.submissions
  let phase :=
    match r.1 with
    | .started => .starting
    | .queued => .pending
    | _ => .refused
  { s with
    scheduler := r.2
    submissions := s.submissions + 1
    entry := Function.update s.entry s.submissions ⟨phase, 0, none, 0⟩
    starts := if r.1 = .started then s.starts ++ [s.submissions] else s.starts }

def setEntry (k : Nat) (e : TaskEntry) : SchedulerState :=
  { s with entry := Function.update s.entry k e }

/-- The call of `onSettled`, before anything the observer does to the scheduler. -/
def settled (phase : TaskPhase) (k : Nat) : SchedulerState :=
  s.setEntry k { s.entry k with phase := phase, settlements := (s.entry k).settlements + 1 }

/-- `settle`; the observer of submission `k` calls `submit` as often as `observer k` says. -/
def settle (observer : Nat → Nat) (phase : TaskPhase) (k : Nat) : SchedulerState :=
  submit^[observer k] (s.settled phase k)

/-- `start` on a task taken from the queue. -/
def start (k : Nat) : SchedulerState :=
  { s with
    scheduler := { s.scheduler with activeCount := s.scheduler.activeCount + 1 }
    entry := Function.update s.entry k { s.entry k with phase := .starting }
    starts := s.starts ++ [k] }

def leave (k : Nat) : SchedulerState :=
  { s with scheduler := s.scheduler.leave, completions := s.completions ++ [k] }

/-- `shift` and, where it finds a task, `start`. -/
def promote : SchedulerState :=
  match s.scheduler.pending with
  | [] => s
  | next :: rest => start { s with scheduler := { s.scheduler with pending := rest } } next

/-- The `finally` reaction of a started task. -/
def complete (observer : Nat → Nat) (k : Nat) : SchedulerState :=
  (promote ((s.leave k).settle observer .completed k)).flushWaiters

def discard (observer : Nat → Nat) : SchedulerState :=
  s.scheduler.pending.foldl (fun s k => s.settle observer .discarded k)
    { s with scheduler := { s.scheduler with pending := [] } }

def close (observer : Nat → Nat) (discardPending : Bool) : SchedulerState :=
  let s := { s with scheduler := { s.scheduler with accepting := false } }
  let s := if discardPending then s.discard observer else s
  s.flushWaiters

end SchedulerState

/-- What can happen next. Promise reactions wait until an abort has reached all listeners; other
listeners and tasks may use the scheduler. -/
inductive SchedulerEvent
  | submit
  | close (discardPending : Bool)
  | call (k : Nat)
  | fulfil (k : Nat)
  | reject (k : Nat)
  | observed (k : Nat)
  | complete (k : Nat)
  | whenCapacityAvailable (signal : Option Nat)
  | onIdle (signal : Option Nat)
  | abort (signal : Nat)
  | listener
  deriving DecidableEq, Repr

namespace SchedulerState

def isAt (s : SchedulerState) (k : Nat) (phase : TaskPhase) : Prop :=
  k < s.submissions ∧ (s.entry k).phase = phase
  deriving Decidable

def enabled (s : SchedulerState) : SchedulerEvent → Bool
  | .call k => s.dispatch = [] ∧ s.isAt k .starting
  | .fulfil k => s.isAt k .running
  | .reject k => s.isAt k .running
  | .observed k => s.isAt k .observing
  | .complete k => s.dispatch = [] ∧ s.isAt k .finishing
  | .listener => s.dispatch ≠ []
  | _ => true

def next (observer : Nat → Nat) (s : SchedulerState) : SchedulerEvent → SchedulerState
  | .submit => s.submit
  | .close discardPending => s.close observer discardPending
  | .call k => s.setEntry k { s.entry k with phase := .running, calls := (s.entry k).calls + 1 }
  | .fulfil k => s.setEntry k { s.entry k with phase := .finishing, outcome := some .fulfilled }
  | .reject k =>
    s.setEntry k { s.entry k with phase := .observing, outcome := some (.rejected false) }
  | .observed k =>
    s.setEntry k { s.entry k with phase := .finishing, outcome := some (.rejected true) }
  | .complete k => s.complete observer k
  | .whenCapacityAvailable signal => s.whenCapacityAvailable signal
  | .onIdle signal => s.onIdle signal
  | .abort signal => s.abort signal
  | .listener => s.fireListener

/-- `observer k` is the number of calls of `submit` the `onSettled` of submission `k` makes. -/
def program (options : BoundedTaskSchedulerOptions) (observer : Nat → Nat) :
    Program SchedulerState SchedulerEvent :=
  ⟨new options, enabled, next observer⟩

end SchedulerState

end NestWebTransport
