import NestWebTransport.Foundation.Program
import NestWebTransport.Module.Options

/-! The core rate limiter: what it grants over every sequence of calls, and its retry hint. -/
namespace NestWebTransport

structure FixedWindowRateLimiter where
  limit : PositiveInteger
  windowMs : Int
  windowMs_pos : 0 < windowMs
  windowStartedAt : Option Int
  used : Nat
  used_le : used ≤ limit.value

namespace FixedWindowRateLimiter

variable (l : FixedWindowRateLimiter)

def new (limit : PositiveInteger) (windowMs : Int) (h : 0 < windowMs) :
    FixedWindowRateLimiter := ⟨limit, windowMs, h, none, 0, Nat.zero_le _⟩

/-- The constructor, for an integer window. -/
def create (limit : OptionNumber) (windowMs : Int) : Except OptionsError FixedWindowRateLimiter :=
  match limit with
  | .integer value =>
    if h : 1 ≤ value.toNat ∧ value.toNat ≤ maxSafeInteger then
      if hwindow : 0 < windowMs then .ok (new (.ofInt value h) windowMs hwindow)
      else .error (.rangeError "Rate limit window must be a positive finite number")
    else .error (.rangeError "Rate limit must be a positive safe integer")
  | .other => .error (.rangeError "Rate limit must be a positive safe integer")

/-- The window that began at the reading is not the one of `now`. -/
def isOver (now started : Int) : Bool :=
  decide (now < started) || decide (l.windowMs ≤ now - started)

/-- `#refreshWindow` at a finite time. -/
def refreshWindow (now : Int) : FixedWindowRateLimiter :=
  if l.windowStartedAt.all (l.isOver now) then
    { l with windowStartedAt := some now, used := 0, used_le := Nat.zero_le _ }
  else l

def assertAmount (amount : OptionNumber) : Except OptionsError PositiveInteger :=
  match amount with
  | .integer value =>
    if h : 1 ≤ value.toNat ∧ value.toNat ≤ maxSafeInteger then .ok (.ofInt value h)
    else .error (.rangeError "Consumed amount must be a positive safe integer")
  | .other => .error (.rangeError "Consumed amount must be a positive safe integer")

/-- `tryConsume` of an amount that passes its check. -/
def consume (amount : PositiveInteger) (now : Int) : Bool × FixedWindowRateLimiter :=
  let l := l.refreshWindow now
  if h : l.limit.value - l.used < amount.value then (false, l)
  else
    (true, { l with
      used := l.used + amount.value
      used_le := by
        have hused := l.used_le
        omega })

def tryConsume (amount : OptionNumber) (now : Int) :
    Except OptionsError Bool × FixedWindowRateLimiter :=
  match assertAmount amount with
  | .error error => (.error error, l)
  | .ok amount => (.ok (l.consume amount now).1, (l.consume amount now).2)

def retryAfterMs (now : Int) : Int × FixedWindowRateLimiter :=
  let l := l.refreshWindow now
  if l.used < l.limit.value then (0, l)
  else
    match l.windowStartedAt with
    | none => (0, l)
    | some started => (max 0 (started + l.windowMs - now), l)

def reset : FixedWindowRateLimiter :=
  { l with windowStartedAt := none, used := 0, used_le := Nat.zero_le _ }

variable {l} {amount : PositiveInteger} {now time started : Int}

theorem assertAmount_value (amount : PositiveInteger) :
    assertAmount (.integer amount.value) = .ok amount :=
  dif_pos ⟨amount.positive, amount.safe⟩

theorem create_value (limit : PositiveInteger) {windowMs : Int} (h : 0 < windowMs) :
    create (.integer limit.value) windowMs = .ok (new limit windowMs h) := by
  have hlimit : 1 ≤ (limit.value : Int).toNat ∧ (limit.value : Int).toNat ≤ maxSafeInteger :=
    ⟨limit.positive, limit.safe⟩
  simp only [create]
  rw [dif_pos hlimit, dif_pos h]
  rfl

/-- A limiter that was reset is a new one. -/
theorem reset_eq_new : l.reset = new l.limit l.windowMs l.windowMs_pos := rfl

theorem isOver_iff : l.isOver now started = true ↔ now < started ∨ l.windowMs ≤ now - started := by
  simp [isOver]

theorem refreshWindow_limit (now : Int) :
    (l.refreshWindow now).limit = l.limit ∧ (l.refreshWindow now).windowMs = l.windowMs := by
  unfold refreshWindow
  split <;> exact ⟨rfl, rfl⟩

/-- After a refresh the window is the one of the reading. -/
theorem refreshWindow_started (l : FixedWindowRateLimiter) (now : Int) : ∃ started,
    (l.refreshWindow now).windowStartedAt = some started ∧ started ≤ now ∧
      now - started < l.windowMs := by
  have hpos := l.windowMs_pos
  unfold refreshWindow
  split
  · exact ⟨now, rfl, le_rfl, by omega⟩
  · rename_i hkept
    cases hstarted : l.windowStartedAt with
    | none => simp [hstarted] at hkept
    | some started =>
      rw [hstarted, Option.all_some, isOver_iff] at hkept
      exact ⟨started, rfl, by omega, by omega⟩

theorem refreshWindow_of_current (hstarted : l.windowStartedAt = some started)
    (hfrom : started ≤ now) (huntil : now - started < l.windowMs) : l.refreshWindow now = l := by
  unfold refreshWindow
  rw [hstarted, Option.all_some, if_neg (by rw [isOver_iff]; omega)]

theorem refreshWindow_of_over (hstarted : l.windowStartedAt = some started)
    (hover : l.windowMs ≤ now - started) : (l.refreshWindow now).used = 0 := by
  unfold refreshWindow
  rw [hstarted, Option.all_some, if_pos (isOver_iff.mpr (Or.inr hover))]

theorem consume_refused : (l.consume amount now).1 = false ↔
    l.limit.value - (l.refreshWindow now).used < amount.value := by
  rw [← (refreshWindow_limit (l := l) now).1]
  unfold consume
  simp only
  split <;> simp_all

theorem consume_of_refused (h : (l.consume amount now).1 = false) :
    (l.consume amount now).2 = l.refreshWindow now := by
  unfold consume at h ⊢
  simp only at h ⊢
  split at h
  · rename_i hrefused
    rw [dif_pos hrefused]
  · cases h

/-! ### The retry hint -/

/-- In a window that is used up, an amount that fits the limit is refused until it is over. -/
theorem consume_exhausted (hstarted : l.windowStartedAt = some started) (hfrom : started ≤ now)
    (hused : l.used = l.limit.value) (hamount : amount.value ≤ l.limit.value) :
    (l.consume amount now).1 = false ↔ now - started < l.windowMs := by
  have hpositive := amount.positive
  rw [consume_refused]
  by_cases huntil : now - started < l.windowMs
  · rw [refreshWindow_of_current hstarted hfrom huntil]
    omega
  · rw [refreshWindow_of_over hstarted (by omega)]
    omega

theorem retryAfterMs_of_current (hstarted : l.windowStartedAt = some started)
    (hfrom : started ≤ now) (huntil : now - started < l.windowMs) :
    l.retryAfterMs now =
      (if l.used < l.limit.value then 0 else started + l.windowMs - now, l) := by
  unfold retryAfterMs
  rw [refreshWindow_of_current hstarted hfrom huntil]
  simp only
  split
  · rfl
  · rw [hstarted]
    simp only [Prod.mk.injEq, and_true]
    omega

theorem tryConsume_integer (l : FixedWindowRateLimiter) (amount : PositiveInteger) (now : Int) :
    l.tryConsume (.integer amount.value) now =
      (.ok (l.consume amount now).1, (l.consume amount now).2) := by
  unfold tryConsume
  rw [assertAmount_value]

/-- After a refusal, the call is granted once the hint has passed and refused until then. -/
def HintExact (l : FixedWindowRateLimiter) (amount : PositiveInteger) (now : Int) : Prop :=
  let hint := (l.retryAfterMs now).1
  (l.tryConsume (.integer amount.value) (now + hint)).1 = .ok true ∧
    ∀ time, now ≤ time → time < now + hint →
      (l.tryConsume (.integer amount.value) time).1 = .ok false

/-- The hint after a refusal is exact just where the window is used up. -/
theorem hint_exact_iff (l : FixedWindowRateLimiter) (amount : PositiveInteger) (now : Int)
    (hfits : amount.value ≤ l.limit.value)
    (hrefused : (l.tryConsume (.integer amount.value) now).1 = .ok false) :
    HintExact (l.tryConsume (.integer amount.value) now).2 amount now ↔
      (l.tryConsume (.integer amount.value) now).2.used = l.limit.value := by
  rw [tryConsume_integer] at hrefused ⊢
  replace hrefused : (l.consume amount now).1 = false := Except.ok.inj hrefused
  have hshort := consume_refused.mp hrefused
  simp only [consume_of_refused hrefused]
  obtain ⟨started, hstarted, hfrom, huntil⟩ := l.refreshWindow_started now
  obtain ⟨hlimit, hwindow⟩ := refreshWindow_limit (l := l) now
  generalize l.refreshWindow now = r at *
  rw [← hwindow] at huntil
  rw [← hlimit] at hfits hshort ⊢
  unfold HintExact
  simp only [retryAfterMs_of_current hstarted hfrom huntil, tryConsume_integer, Except.ok.injEq]
  have hused := r.used_le
  by_cases hpartly : r.used < r.limit.value
  · -- the hint is 0, and the call is refused again
    have hagain : (r.consume amount now).1 = false := by
      rw [consume_refused, refreshWindow_of_current hstarted hfrom huntil]
      exact hshort
    simp only [if_pos hpartly, add_zero, hagain, Bool.false_eq_true, false_and, false_iff]
    omega
  · have hexhausted : r.used = r.limit.value := by omega
    rw [if_neg hpartly]
    refine iff_of_true ⟨?_, fun time hnow htime => ?_⟩ hexhausted
    · have hover : (r.consume amount (now + (started + r.windowMs - now))).1 = false ↔ _ :=
        consume_exhausted hstarted (by omega) hexhausted hfits
      rw [← Bool.not_eq_false, hover]
      omega
    · exact (consume_exhausted hstarted (hfrom.trans hnow) hexhausted hfits).mpr (by omega)

/-- Two units are refused in a window with one left, and the hint says that they need not wait. -/
theorem hint_of_partly_used :
    let l := ((new ⟨2, by decide, by decide⟩ 1000 (by decide)).tryConsume (.integer 1) 100).2
    (l.tryConsume (.integer 2) 101).1 = .ok false ∧
      ((l.tryConsume (.integer 2) 101).2.retryAfterMs 101).1 = 0 ∧
      ((l.tryConsume (.integer 2) 101).2.tryConsume (.integer 2) (101 + 0)).1 = .ok false := by
  refine ⟨?_, ?_, ?_⟩ <;> rfl

theorem hint_exact_iff_exhausted :
    let l := ((new ⟨2, by decide, by decide⟩ 1000 (by decide)).tryConsume (.integer 2) 100).2
    HintExact (l.tryConsume (.integer 1) 101).2 ⟨1, by decide, by decide⟩ 101 := by
  exact (hint_exact_iff _ ⟨1, by decide, by decide⟩ 101 (by decide) rfl).mpr rfl

end FixedWindowRateLimiter

end NestWebTransport
