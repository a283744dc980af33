import Mathlib.Data.List.Basic
import Mathlib.Data.List.Nodup
import Mathlib.Tactic.Linarith

/-! The server-wide permit pool. Callers of `run` are named; their continuations live elsewhere. -/
namespace NestWebTransport

/-- `issued` numbers the closures `reserve` has handed out and `releaseCalls` lists the calls of
those closures, latest first; a closure's captured flag is set once its number occurs there. -/
structure HandlerBudget where
  concurrency : Nat
  pending : Nat
  reserved : Int
  running : Int
  waiters : List Nat
  issued : Nat
  releaseCalls : List Nat

inductive AcquireOutcome
  | granted
  | waiting
  | rejected
  deriving DecidableEq, Repr

namespace HandlerBudget

variable (b : HandlerBudget)

def new (concurrency pending : Nat) : HandlerBudget := ⟨concurrency, pending, 0, 0, [], 0, []⟩

def reserve : Option (Nat × HandlerBudget) :=
  if (b.concurrency + b.pending : Int) ≤ b.reserved then none
  else some (b.issued, { b with reserved := b.reserved + 1, issued := b.issued + 1 })

/-- One call of the closure numbered `r`. -/
def release (r : Nat) : HandlerBudget :=
  { b with
    reserved := if r ∈ b.releaseCalls then b.reserved else b.reserved - 1
    releaseCalls := r :: b.releaseCalls }

def acquire (caller : Nat) (aborted : Bool) : AcquireOutcome × HandlerBudget :=
  if aborted then (.rejected, b)
  else if b.running < b.concurrency ∧ b.waiters = [] then
    (.granted, { b with running := b.running + 1 })
  else (.waiting, { b with waiters := b.waiters ++ [caller] })

/-- The loop of `wake` over the waiters it has yet to visit. -/
def wakeLoop : List Nat → HandlerBudget → List Nat × HandlerBudget
  | [], b => ([], b)
  | caller :: rest, b =>
    if (b.concurrency : Int) ≤ b.running then ([], b)
    else
      let r := wakeLoop rest { b with waiters := b.waiters.erase caller, running := b.running + 1 }
      (caller :: r.1, r.2)

/-- Returns the callers it grants, in order. -/
def wake : List Nat × HandlerBudget := wakeLoop b.waiters b

/-- The `finally` of `run`, before it calls `wake`. -/
def leave : HandlerBudget := { b with running := b.running - 1 }

/-- A waiting caller's abort listener, before it calls `wake`. -/
def forget (caller : Nat) : HandlerBudget := { b with waiters := b.waiters.erase caller }

/-- `wake` grants the longest-waiting callers, as many as there are idle permits. -/
theorem wakeLoop_spec (ws : List Nat) (b : HandlerBudget) (h : b.waiters = ws) :
    ∃ n, n ≤ ws.length ∧ (wakeLoop ws b).1 = ws.take n ∧
      (wakeLoop ws b).2 = { b with waiters := ws.drop n, running := b.running + n } ∧
      (n = 0 ∨ b.running + n ≤ b.concurrency) ∧
      (ws.drop n ≠ [] → (b.concurrency : Int) ≤ b.running + n) := by
  induction ws generalizing b with
  | nil => exact ⟨0, by simp, rfl, by simp [wakeLoop, ← h], Or.inl rfl, by simp⟩
  | cons w ws ih =>
    by_cases hb : (b.concurrency : Int) ≤ b.running
    · exact ⟨0, by simp, by simp [wakeLoop, hb], by simp [wakeLoop, hb, ← h], Or.inl rfl,
        fun _ => by simpa using hb⟩
    · obtain ⟨n, hn, hg, hs, hle, hstop⟩ :=
        ih { b with waiters := b.waiters.erase w, running := b.running + 1 } (by simp [h])
      refine ⟨n + 1, by simpa using hn, by simp [wakeLoop, hb, hg], ?_, Or.inr ?_, ?_⟩
      · simp only [wakeLoop, hb, if_false, hs, List.drop_succ_cons]
        congr 1
        omega
      · simp only at hle
        omega
      · intro hd
        have := hstop (by simpa using hd)
        simp only at this
        omega

theorem wake_spec :
    ∃ n, n ≤ b.waiters.length ∧ b.wake.1 = b.waiters.take n ∧
      b.wake.2 = { b with waiters := b.waiters.drop n, running := b.running + n } ∧
      (n = 0 ∨ b.running + n ≤ b.concurrency) ∧
      (b.waiters.drop n ≠ [] → (b.concurrency : Int) ≤ b.running + n) :=
  wakeLoop_spec b.waiters b rfl

/-- Two reservations never share a number. -/
theorem reserve_eq_some {r : Nat} {b' : HandlerBudget} :
    b.reserve = some (r, b') ↔ b.reserved < b.concurrency + b.pending ∧ r = b.issued ∧
      b' = { b with reserved := b.reserved + 1, issued := b.issued + 1 } := by
  unfold reserve
  split_ifs with h
  · simp only [false_iff, not_and]
    omega
  · simp only [Option.some.injEq, Prod.mk.injEq]
    constructor
    · rintro ⟨rfl, rfl⟩
      exact ⟨by omega, rfl, rfl⟩
    · rintro ⟨-, rfl, rfl⟩
      exact ⟨rfl, rfl⟩

end HandlerBudget

end NestWebTransport
