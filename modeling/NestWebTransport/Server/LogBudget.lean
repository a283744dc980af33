import NestWebTransport.Foundation.Program
import NestWebTransport.Module.Options
import Mathlib.Algebra.Order.Ring.Rat
import Mathlib.Data.List.Perm.Basic
import Mathlib.Logic.Function.Basic
import Mathlib.Tactic.Linarith

/-! The log budget of the runtime, with callbacks that may log again before they return.

A `log` call runs until it calls `onError` or `logger`, and goes on when the callback returns. -/
namespace NestWebTransport

inductive LogCallback
  | onError
  | logger
  deriving DecidableEq, Repr

/-- How a callback returns. A rejected promise counts as one that settles. -/
inductive CallbackResult
  | returned
  | threw
  | promise
  deriving DecidableEq, Repr

/-- A `log` call whose callback runs: the number of its record, the window the record is counted in,
and how many promises are `pending`. -/
structure LogCall where
  record : Nat
  window : Rat
  callback : LogCallback
  pending : Nat
  deriving DecidableEq, Repr

structure LogOptions where
  maxLogsPerSecond : PositiveInteger
  onError : Bool

/-- The counters of the runtime, its `log` calls with the innermost first, and what became of the
records: `delivered` to `logger`, `suppressed`, with promises that are `unsettled`, or `observed`
until those have settled. -/
structure LogBudget where
  logWindowAt : Rat
  logsInWindow : Nat
  pendingLogCallbacks : Nat
  suppressedLogs : Nat
  calls : List LogCall
  records : Nat
  delivered : List (Nat × Rat)
  suppressed : List Nat
  unsettled : Nat → Nat
  observed : List Nat

inductive LogEvent
  | log (now : Rat) (error : Bool)
  | callback (result : CallbackResult)
  | settled (record : Nat)
  | allSettled (record : Nat)
  deriving DecidableEq, Repr

def LogEvent.isReturn : LogEvent → Bool
  | .callback _ => true
  | _ => false

namespace LogBudget

def new : LogBudget where
  logWindowAt := 0
  logsInWindow := 0
  pendingLogCallbacks := 0
  suppressedLogs := 0
  calls := []
  records := 0
  delivered := []
  suppressed := []
  unsettled _ := 0
  observed := []

variable (o : LogOptions) (b : LogBudget)

def refreshWindow (now : Rat) : LogBudget :=
  if 1000 ≤ now - b.logWindowAt then { b with logWindowAt := now, logsInWindow := 0 } else b

def isExhausted : Bool :=
  o.maxLogsPerSecond.value ≤ b.logsInWindow || o.maxLogsPerSecond.value ≤ b.pendingLogCallbacks

def suppress : LogBudget :=
  { b with
    suppressedLogs := b.suppressedLogs + 1
    records := b.records + 1
    suppressed := b.suppressed ++ [b.records] }

/-- `logger(entry)` is called. -/
def callLogger (record : Nat) (window : Rat) (pending : Nat) : LogBudget :=
  { b with
    calls := ⟨record, window, .logger, pending⟩ :: b.calls
    delivered := b.delivered ++ [(record, window)] }

def admitRecord (error : Bool) : LogBudget :=
  let record := b.records
  let b := { b with logsInWindow := b.logsInWindow + 1, records := b.records + 1 }
  if error && o.onError then
    { b with calls := ⟨record, b.logWindowAt, .onError, 0⟩ :: b.calls }
  else b.callLogger record b.logWindowAt 0

/-- `log` up to its first callback. -/
def log (now : Rat) (error : Bool) : LogBudget :=
  let b := b.refreshWindow now
  if b.isExhausted o then b.suppress else b.admitRecord o error

/-- `observe` of what the innermost callback returned. -/
def observe (call : LogCall) : CallbackResult → LogBudget × Nat
  | .returned | .threw => (b, call.pending)
  | .promise =>
    ({ b with unsettled := Function.update b.unsettled call.record (b.unsettled call.record + 1) },
      call.pending + 1)

/-- `log` behind its last callback. -/
def finish (record pending : Nat) : LogBudget :=
  if 0 < pending then
    { b with
      pendingLogCallbacks := b.pendingLogCallbacks + 1
      observed := b.observed ++ [record] }
  else b

def callback (result : CallbackResult) : LogBudget :=
  match b.calls with
  | [] => b
  | call :: rest =>
    let (b, pending) := { b with calls := rest }.observe call result
    match call.callback with
    | .onError => b.callLogger call.record call.window pending
    | .logger => b.finish call.record pending

def settled (record : Nat) : LogBudget :=
  { b with unsettled := Function.update b.unsettled record (b.unsettled record - 1) }

def allSettled (record : Nat) : LogBudget :=
  { b with
    pendingLogCallbacks := b.pendingLogCallbacks - 1
    observed := b.observed.erase record }

/-- Promises settle at any time, and what waits for them runs when no call is in progress. -/
def enabled : LogEvent → Bool
  | .log _ _ => true
  | .callback _ => !b.calls.isEmpty
  | .settled record => decide (0 < b.unsettled record)
  | .allSettled record => b.calls.isEmpty && b.observed.contains record && b.unsettled record == 0

def next : LogEvent → LogBudget
  | .log now error => b.log o now error
  | .callback result => b.callback result
  | .settled record => b.settled record
  | .allSettled record => b.allSettled record

def program : Program LogBudget LogEvent := ⟨new, enabled, next o⟩

def machine : Machine LogBudget LogEvent := (program o).machine

/-! ### What the budget promises -/

/-- The records whose call waits for `onError` to return. -/
def waiting : List (Nat × Rat) :=
  (b.calls.filter (·.callback = .onError)).map fun call => (call.record, call.window)

/-- A callback of the record is unfinished: a promise of it has not settled. -/
def isUnfinished (record : Nat) : Bool := b.unsettled record != 0

def unfinished : Nat := (List.range b.records).countP b.isUnfinished

/-- Unfinished, or still in the hands of its `log` call. -/
def isOpen (record : Nat) : Bool := b.isUnfinished record || b.calls.any (·.record == record)

def opened : Nat := (List.range b.records).countP b.isOpen

structure Kept : Prop where
  accounted : ((b.delivered ++ b.waiting).map Prod.fst ++ b.suppressed).Perm (List.range b.records)
  suppressed : b.suppressedLogs = b.suppressed.length
  windows : ∀ window, ((b.delivered ++ b.waiting).map Prod.snd).count window ≤
    o.maxLogsPerSecond.value
  callbacks : b.unfinished ≤ o.maxLogsPerSecond.value

/-! ### Which records are counted -/

variable {o} {b c : LogBudget} {call : LogCall} {rest : List LogCall} {result : CallbackResult}
  {r pending : Nat} {now : Rat} {error : Bool}

/-- The records that are counted in a window, each with it. -/
def budgeted (b : LogBudget) : List (Nat × Rat) := b.delivered ++ b.waiting

structure Ledger (o : LogOptions) (b : LogBudget) : Prop where
  accounted : (b.budgeted.map Prod.fst ++ b.suppressed).Perm (List.range b.records)
  suppressed : b.suppressedLogs = b.suppressed.length
  windows : ∀ window, (b.budgeted.map Prod.snd).count window ≤ o.maxLogsPerSecond.value
  current : (b.budgeted.map Prod.snd).count b.logWindowAt = b.logsInWindow
  past : ∀ window ∈ b.budgeted.map Prod.snd, window ≤ b.logWindowAt

theorem ledger_new : Ledger o new where
  accounted := .refl _
  suppressed := rfl
  windows _ := Nat.zero_le _
  current := rfl
  past _ h := by cases h

theorem Ledger.kept (h : Ledger o b) (hcallbacks : b.unfinished ≤ o.maxLogsPerSecond.value) :
    b.Kept o := ⟨h.accounted, h.suppressed, h.windows, hcallbacks⟩

/-- A ledger depends on the records that are budgeted, in no order. -/
theorem Ledger.congr (h : Ledger o b) (hbudgeted : c.budgeted.Perm b.budgeted)
    (hsuppressed : c.suppressed = b.suppressed) (hcount : c.suppressedLogs = b.suppressedLogs)
    (hrecords : c.records = b.records) (hat : c.logWindowAt = b.logWindowAt)
    (hlogs : c.logsInWindow = b.logsInWindow) : Ledger o c where
  accounted := by
    rw [hsuppressed, hrecords]
    exact ((hbudgeted.map Prod.fst).append_right _).trans h.accounted
  suppressed := by rw [hcount, hsuppressed, h.suppressed]
  windows window := by
    rw [(hbudgeted.map Prod.snd).count_eq]
    exact h.windows window
  current := by
    rw [(hbudgeted.map Prod.snd).count_eq, hat, hlogs]
    exact h.current
  past window hmem := by
    rw [hat]
    exact h.past window ((hbudgeted.map Prod.snd).mem_iff.mp hmem)

/-- No record is counted in a window that begins later. -/
theorem Ledger.refreshWindow (h : Ledger o b) (now : Rat) : Ledger o (b.refreshWindow now) := by
  unfold LogBudget.refreshWindow
  split
  · rename_i hover
    have hlater : b.logWindowAt < now := by linarith
    refine ⟨h.accounted, h.suppressed, h.windows, ?_, fun window hmem => ?_⟩
    · refine List.count_eq_zero.mpr fun hmem => ?_
      exact absurd (h.past now hmem) (not_le.mpr hlater)
    · exact (h.past window hmem).trans hlater.le
  · exact h

theorem Ledger.suppress (h : Ledger o b) : Ledger o b.suppress where
  accounted := by
    change (b.budgeted.map Prod.fst ++ (b.suppressed ++ [b.records])).Perm
      (List.range (b.records + 1))
    rw [← List.append_assoc, List.range_succ]
    exact h.accounted.append_right _
  suppressed := by
    change b.suppressedLogs + 1 = (b.suppressed ++ [b.records]).length
    rw [List.length_append, List.length_singleton, h.suppressed]
  windows := h.windows
  current := h.current
  past := h.past

/-- One more record is counted in the window that goes on. -/
theorem Ledger.admit (h : Ledger o b) (hroom : b.logsInWindow < o.maxLogsPerSecond.value)
    (hbudgeted : c.budgeted.Perm (b.budgeted ++ [(b.records, b.logWindowAt)]))
    (hsuppressed : c.suppressed = b.suppressed) (hcount : c.suppressedLogs = b.suppressedLogs)
    (hrecords : c.records = b.records + 1) (hat : c.logWindowAt = b.logWindowAt)
    (hlogs : c.logsInWindow = b.logsInWindow + 1) : Ledger o c := by
  have hfirst := hbudgeted.map Prod.fst
  have hsecond := hbudgeted.map Prod.snd
  rw [List.map_append, List.map_singleton] at hfirst hsecond
  have hwindow : ∀ window, (c.budgeted.map Prod.snd).count window =
      (b.budgeted.map Prod.snd).count window + if b.logWindowAt = window then 1 else 0 := by
    intro window
    rw [hsecond.count_eq, List.count_append, List.count_singleton, beq_eq_decide]
    simp
  refine ⟨?_, by rw [hcount, hsuppressed, h.suppressed], fun window => ?_, ?_,
    fun window hmem => ?_⟩
  · rw [hsuppressed, hrecords, List.range_succ]
    refine (hfirst.append_right _).trans ?_
    rw [List.append_assoc]
    refine (List.perm_append_comm.append_left _).trans ?_
    rw [← List.append_assoc]
    exact h.accounted.append_right _
  · rw [hwindow]
    split
    · rename_i heq
      rw [← heq, h.current]
      exact hroom
    · exact h.windows window
  · rw [hwindow, hat, if_pos rfl, h.current, hlogs]
  · rw [hat]
    rcases List.mem_append.mp (hsecond.mem_iff.mp hmem) with hmem | hmem
    · exact h.past window hmem
    · exact (List.mem_singleton.mp hmem).le

/-! ### What a callback leaves when it returns -/

/-- How many promises a callback returns. -/
def promises : CallbackResult → Nat
  | .returned | .threw => 0
  | .promise => 1

/-- The state behind `observe`, with the call off the stack. -/
def observing (b : LogBudget) (call : LogCall) (rest : List LogCall) (result : CallbackResult) :
    LogBudget :=
  { b with
    calls := rest
    unsettled := Function.update b.unsettled call.record
      (b.unsettled call.record + promises result) }

theorem observing_self :
    (b.observing call rest result).unsettled call.record =
      b.unsettled call.record + promises result := Function.update_self ..

theorem observing_other (hr : r ≠ call.record) :
    (b.observing call rest result).unsettled r = b.unsettled r := Function.update_of_ne hr ..

/-- Behind `onError` comes the logger, and behind the logger the record is done. -/
theorem callback_eq (hcalls : b.calls = call :: rest) :
    b.callback result =
      match call.callback with
      | .onError => (b.observing call rest result).callLogger call.record call.window
          (call.pending + promises result)
      | .logger => (b.observing call rest result).finish call.record
          (call.pending + promises result) := by
  have hobserve : { b with calls := rest }.observe call result =
      (b.observing call rest result, call.pending + promises result) := by
    cases result with
    | returned => rw [observe, observing, promises, Nat.add_zero, Function.update_eq_self]; rfl
    | threw => rw [observe, observing, promises, Nat.add_zero, Function.update_eq_self]; rfl
    | promise => rfl
  unfold LogBudget.callback
  rw [hcalls]
  simp only [hobserve]

theorem Ledger.finish (h : Ledger o b) : Ledger o (b.finish r pending) := by
  unfold LogBudget.finish
  split
  · exact h.congr (.refl _) rfl rfl rfl rfl rfl
  · exact h

/-- A callback that returns delivers what waited for it, or ends its call. -/
theorem Ledger.callback (h : Ledger o b) : Ledger o (b.callback result) := by
  cases hcalls : b.calls with
  | nil =>
    unfold LogBudget.callback
    rw [hcalls]
    exact h
  | cons call rest =>
    have hwaiting : b.waiting = ((call :: rest).filter (·.callback = .onError)).map
        fun call => (call.record, call.window) := by
      rw [LogBudget.waiting, hcalls]
    rw [callback_eq hcalls]
    cases hcallback : call.callback with
    | onError =>
      refine h.congr ?_ rfl rfl rfl rfl rfl
      have hhead : b.waiting = (call.record, call.window) ::
          (rest.filter (·.callback = .onError)).map fun call => (call.record, call.window) := by
        rw [hwaiting, List.filter_cons_of_pos (by simp [hcallback]), List.map_cons]
      rw [budgeted, budgeted, hhead]
      change ((b.delivered ++ [(call.record, call.window)]) ++
        (List.filter _ (_ :: rest)).map _).Perm _
      rw [List.filter_cons_of_neg (by simp), List.append_assoc]
      exact .refl _
    | logger =>
      have hrest : b.waiting = (rest.filter (·.callback = .onError)).map
          fun call => (call.record, call.window) := by
        rw [hwaiting, List.filter_cons_of_neg (by simp [hcallback])]
      refine Ledger.finish (h.congr (.of_eq ?_) rfl rfl rfl rfl rfl)
      rw [budgeted, budgeted, hrest]
      rfl

/-- A record is taken within the budget of its window, or suppressed. -/
theorem Ledger.log (h : Ledger o b) : Ledger o (b.log o now error) := by
  have hrefreshed := h.refreshWindow now
  unfold LogBudget.log
  generalize b.refreshWindow now = c at hrefreshed
  change Ledger o (if c.isExhausted o then c.suppress else c.admitRecord o error)
  split
  · exact hrefreshed.suppress
  · rename_i hroom
    have hlogs : c.logsInWindow < o.maxLogsPerSecond.value := by
      simp only [isExhausted, Bool.or_eq_true, decide_eq_true_eq, not_or, not_le] at hroom
      exact hroom.1
    unfold admitRecord
    simp only
    split
    · refine hrefreshed.admit hlogs ?_ rfl rfl rfl rfl rfl
      change (c.delivered ++ (List.filter _ (_ :: c.calls)).map _).Perm _
      rw [List.filter_cons_of_pos (by simp), List.map_cons, budgeted, List.append_assoc]
      exact (List.perm_append_singleton _ _).symm.append_left _
    · refine hrefreshed.admit hlogs ?_ rfl rfl rfl rfl rfl
      change ((c.delivered ++ [_]) ++ (List.filter _ (_ :: c.calls)).map _).Perm _
      rw [List.filter_cons_of_neg (by simp), budgeted, List.append_assoc, List.append_assoc]
      exact List.perm_append_comm.append_left _

/-- A record is counted once, in the window it came in or as suppressed. -/
theorem Ledger.next (h : Ledger o b) (e : LogEvent) : Ledger o (b.next o e) := by
  cases e with
  | log now error => exact h.log
  | callback result => exact h.callback
  | settled record => exact h.congr (.refl _) rfl rfl rfl rfl rfl
  | allSettled record => exact h.congr (.refl _) rfl rfl rfl rfl rfl

end LogBudget

end NestWebTransport
