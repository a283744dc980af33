import NestWebTransport.Core.FixedWindowRateLimiter

/-! What the rate limiter grants inside one window and inside any interval as long as one. -/
namespace NestWebTransport

/-- An amount the limiter has granted, and when. -/
structure Grant where
  time : Int
  amount : Nat
  deriving DecidableEq, Repr

/-- The total amount of the grants with a property. -/
def granted (p : Int → Bool) (log : List Grant) : Nat :=
  ((log.filter fun g => p g.time).map Grant.amount).sum

variable {p q r : Int → Bool} {log added : List Grant} {g : Grant}

theorem granted_append (p : Int → Bool) (log added : List Grant) :
    granted p (log ++ added) = granted p log + granted p added := by
  simp [granted]

theorem granted_cons (p : Int → Bool) (g : Grant) (log : List Grant) :
    granted p (g :: log) = (if p g.time then g.amount else 0) + granted p log := by
  unfold granted
  rw [List.filter_cons]
  split <;> simp

/-- The grants with a property are among those that have one of two others. -/
theorem granted_le_add (h : ∀ g ∈ log, p g.time = true → q g.time = true ∨ r g.time = true) :
    granted p log ≤ granted q log + granted r log := by
  induction log with
  | nil => exact Nat.zero_le _
  | cons g log ih =>
    have hrest := ih fun g hg => h g (List.mem_cons_of_mem _ hg)
    have hfirst := h g List.mem_cons_self
    simp only [granted_cons]
    split_ifs <;> grind

theorem granted_le (h : ∀ g ∈ log, p g.time = true → q g.time = true) :
    granted p log ≤ granted q log := by
  have hle := granted_le_add (r := fun _ => false) fun g hg hp => Or.inl (h g hg hp)
  simpa [granted] using hle

theorem granted_congr (h : ∀ g ∈ log, p g.time = q g.time) : granted p log = granted q log :=
  le_antisymm (granted_le fun g hg hp => h g hg ▸ hp) (granted_le fun g hg hq => h g hg ▸ hq)

theorem granted_eq_zero (h : ∀ g ∈ log, p g.time = false) : granted p log = 0 := by
  rw [granted_congr (q := fun _ => false) h]
  simp [granted]

/-- A call of `tryConsume`. -/
structure RateCall where
  amount : OptionNumber
  now : Int

/-- A limiter, the last time it was called, and what it has granted. -/
structure RateState where
  limiter : FixedWindowRateLimiter
  clock : Int
  log : List Grant

namespace RateState

variable (s : RateState)

def new (limit : PositiveInteger) (windowMs : Int) (h : 0 < windowMs) (clock : Int) : RateState :=
  ⟨.new limit windowMs h, clock, []⟩

def enabled (call : RateCall) : Bool := decide (s.clock ≤ call.now)

def next (call : RateCall) : RateState :=
  match FixedWindowRateLimiter.assertAmount call.amount with
  | .error _ => ⟨(s.limiter.tryConsume call.amount call.now).2, call.now, s.log⟩
  | .ok amount =>
    ⟨(s.limiter.tryConsume call.amount call.now).2, call.now,
      if (s.limiter.tryConsume call.amount call.now).1 = .ok true then
        s.log ++ [⟨call.now, amount.value⟩]
      else s.log⟩

def program (limit : PositiveInteger) (windowMs : Int) (h : 0 < windowMs) (clock : Int) :
    Program RateState RateCall := ⟨new limit windowMs h clock, enabled, next⟩

variable {s t u : RateState} {call : RateCall} {calls : List RateCall} {now started : Int}
  {limit : PositiveInteger} {windowMs clock : Int} {hwindow : 0 < windowMs}

/-- The times from one on, before another. -/
def within (start stop : Int) (time : Int) : Bool := decide (start ≤ time) && decide (time < stop)

theorem within_iff {start stop time : Int} :
    within start stop time = true ↔ start ≤ time ∧ time < stop := by
  simp [within]

/-- What every run keeps. The grants of a window are those since it started, and those less than
a window before it were all granted in one window. -/
structure Bounded (s : RateState) : Prop where
  times : ∀ g ∈ s.log, g.time ≤ s.clock
  idle : s.limiter.windowStartedAt = none → s.log = []
  current : ∀ started, s.limiter.windowStartedAt = some started → started ≤ s.clock ∧
    (∀ g ∈ s.log, g.time < started + s.limiter.windowMs) ∧
    granted (started ≤ ·) s.log = s.limiter.used
  before : ∀ started, s.limiter.windowStartedAt = some started →
    granted (within (started - s.limiter.windowMs + 1) started) s.log ≤ s.limiter.limit.value
  intervals : ∀ x, granted (within x (x + s.limiter.windowMs)) s.log ≤ 2 * s.limiter.limit.value

theorem bounded_new : Bounded (new limit windowMs hwindow clock) :=
  ⟨nofun, fun _ => rfl, nofun, nofun, fun _ => Nat.zero_le _⟩

theorem Bounded.advance (h : Bounded s) (hnow : s.clock ≤ now) :
    Bounded ⟨s.limiter, now, s.log⟩ :=
  ⟨fun g hg => (h.times g hg).trans hnow, h.idle, fun started hstarted =>
    ⟨(h.current started hstarted).1.trans hnow, (h.current started hstarted).2⟩, h.before,
    h.intervals⟩

/-- A new window starts after every grant, and less than one window back only the grants of the
last one are left. -/
theorem Bounded.renew (h : Bounded s) (hnow : s.clock ≤ now)
    (hover : ∀ started, s.limiter.windowStartedAt = some started →
      started + s.limiter.windowMs ≤ now) :
    Bounded ⟨{ s.limiter with windowStartedAt := some now, used := 0, used_le := Nat.zero_le _ },
      now, s.log⟩ := by
  have hpos := s.limiter.windowMs_pos
  cases hlast : s.limiter.windowStartedAt with
  | none =>
    rw [h.idle hlast]
    exact ⟨nofun, nofun, by rintro started ⟨⟩; exact ⟨le_rfl, nofun, rfl⟩,
      fun _ _ => Nat.zero_le _, fun _ => Nat.zero_le _⟩
  | some last =>
    have hover := hover last hlast
    obtain ⟨-, huntil, hused⟩ := h.current last hlast
    refine ⟨fun g hg => (h.times g hg).trans hnow, nofun, ?_, ?_, h.intervals⟩
    · rintro started ⟨⟩
      refine ⟨le_rfl, fun g hg => ?_, granted_eq_zero fun g hg => ?_⟩
      · have htime := huntil g hg
        change g.time < now + s.limiter.windowMs
        omega
      · have htime := huntil g hg
        simp only [decide_eq_false_iff_not]
        omega
    · rintro started ⟨⟩
      refine (granted_le fun g hg hwithin => ?_).trans (hused.le.trans s.limiter.used_le)
      replace hwithin := within_iff.mp hwithin
      change now - s.limiter.windowMs + 1 ≤ g.time ∧ g.time < now at hwithin
      exact decide_eq_true (by omega)

theorem Bounded.refresh (h : Bounded s) (hnow : s.clock ≤ now) :
    Bounded ⟨s.limiter.refreshWindow now, now, s.log⟩ := by
  unfold FixedWindowRateLimiter.refreshWindow
  split
  · rename_i hover
    refine h.renew hnow fun started hstarted => ?_
    rw [hstarted, Option.all_some, FixedWindowRateLimiter.isOver_iff] at hover
    have hfrom := (h.current started hstarted).1
    omega
  · exact h.advance hnow

/-- Any interval as long as a window meets the grants of the current window and of the last one
only. -/
theorem Bounded.grant (h : Bounded s) (hstarted : s.limiter.windowStartedAt = some started)
    (huntil : s.clock < started + s.limiter.windowMs) {amount : Nat}
    (hfits : s.limiter.used + amount ≤ s.limiter.limit.value) :
    Bounded ⟨{ s.limiter with used := s.limiter.used + amount, used_le := hfits }, s.clock,
      s.log ++ [⟨s.clock, amount⟩]⟩ := by
  obtain ⟨hfrom, hends, hused⟩ := h.current started hstarted
  have htimes : ∀ g ∈ s.log ++ [⟨s.clock, amount⟩], g.time ≤ s.clock := by
    intro g hg
    rcases List.mem_append.mp hg with hg | hg
    · exact h.times g hg
    · rw [List.mem_singleton.mp hg]
  have hcurrent : granted (started ≤ ·) (s.log ++ [⟨s.clock, amount⟩]) =
      s.limiter.used + amount := by
    rw [granted_append, hused, granted_cons, if_pos (decide_eq_true hfrom)]
    rfl
  have hbefore : granted (within (started - s.limiter.windowMs + 1) started)
      (s.log ++ [⟨s.clock, amount⟩]) ≤ s.limiter.limit.value := by
    rw [granted_append, granted_cons, if_neg (by simp [within]; omega)]
    exact h.before started hstarted
  refine ⟨htimes, ?_, ?_, ?_, fun x => ?_⟩
  · intro hnone
    rw [show s.limiter.windowStartedAt = none from hnone] at hstarted
    cases hstarted
  · intro started' hstarted'
    cases hstarted.symm.trans hstarted'
    refine ⟨hfrom, fun g hg => ?_, hcurrent⟩
    exact (htimes g hg).trans_lt huntil
  · intro started' hstarted'
    cases hstarted.symm.trans hstarted'
    exact hbefore
  · change granted (within x (x + s.limiter.windowMs)) (s.log ++ [⟨s.clock, amount⟩]) ≤
      2 * s.limiter.limit.value
    by_cases hx : s.clock < x + s.limiter.windowMs
    · have hsplit : granted (within x (x + s.limiter.windowMs)) (s.log ++ [⟨s.clock, amount⟩]) ≤
          granted (started ≤ ·) (s.log ++ [⟨s.clock, amount⟩]) +
            granted (within (started - s.limiter.windowMs + 1) started)
              (s.log ++ [⟨s.clock, amount⟩]) := by
        refine granted_le_add fun g hg hwithin => ?_
        replace hwithin := within_iff.mp hwithin
        rw [decide_eq_true_eq, within_iff]
        omega
      omega
    · rw [granted_append, granted_cons, if_neg (by simp [within]; omega)]
      exact h.intervals x

/-- A call of `tryConsume` refreshes the window, and then it may be granted. -/
theorem next_cases (s : RateState) (call : RateCall) :
    next s call = ⟨s.limiter, call.now, s.log⟩ ∨
    next s call = ⟨s.limiter.refreshWindow call.now, call.now, s.log⟩ ∨
    ∃ amount h, next s call = ⟨{ s.limiter.refreshWindow call.now with
        used := (s.limiter.refreshWindow call.now).used + amount
        used_le := h }, call.now, s.log ++ [⟨call.now, amount⟩]⟩ := by
  unfold next FixedWindowRateLimiter.tryConsume
  cases FixedWindowRateLimiter.assertAmount call.amount with
  | error error => exact Or.inl rfl
  | ok amount =>
    refine Or.inr ?_
    unfold FixedWindowRateLimiter.consume
    simp only
    split
    · exact Or.inl (by simp)
    · have hused := (s.limiter.refreshWindow call.now).used_le
      exact Or.inr ⟨amount.value, by omega, by simp⟩

/-- A call that reads a later clock grants no more than its window has left. -/
theorem Bounded.next (h : Bounded s) (hnow : s.clock ≤ call.now) : Bounded (next s call) := by
  rcases next_cases s call with heq | heq | ⟨amount, hfits, heq⟩
  · rw [heq]
    exact h.advance hnow
  · rw [heq]
    exact h.refresh hnow
  · obtain ⟨started, hstarted, hfrom, huntil⟩ := s.limiter.refreshWindow_started call.now
    rw [heq]
    refine (h.refresh hnow).grant hstarted ?_ hfits
    rw [(FixedWindowRateLimiter.refreshWindow_limit call.now).2]
    change call.now < _
    omega

/-- Every state of a limiter that was built with valid options is bounded. -/
theorem bounded_run (h : (program limit windowMs hwindow clock).machine.Run
    (new limit windowMs hwindow clock) calls s) : Bounded s := by
  refine h.invariant (P := Bounded) ?_ bounded_new
  rintro s call t ⟨henabled, rfl⟩ hs
  exact hs.next (of_decide_eq_true henabled)

theorem next_options (s : RateState) (call : RateCall) :
    (next s call).limiter.limit = s.limiter.limit ∧
      (next s call).limiter.windowMs = s.limiter.windowMs := by
  have hrefreshed := FixedWindowRateLimiter.refreshWindow_limit (l := s.limiter) call.now
  rcases next_cases s call with heq | heq | ⟨amount, hfits, heq⟩
  · rw [heq]
    exact ⟨rfl, rfl⟩
  · rw [heq]
    exact hrefreshed
  · rw [heq]
    exact hrefreshed

theorem next_log (s : RateState) (call : RateCall) : (next s call).clock = call.now ∧
    ∃ added, (next s call).log = s.log ++ added ∧ ∀ g ∈ added, g.time = call.now := by
  rcases next_cases s call with heq | heq | ⟨amount, hfits, heq⟩
  · rw [heq]
    exact ⟨rfl, [], (List.append_nil _).symm, nofun⟩
  · rw [heq]
    exact ⟨rfl, [], (List.append_nil _).symm, nofun⟩
  · rw [heq]
    exact ⟨rfl, _, rfl, fun g hg => by rw [List.mem_singleton.mp hg]⟩

/-- No call changes the limit or the window. -/
theorem options_run (h : (program limit windowMs hwindow clock).machine.Run s calls t) :
    t.limiter.limit = s.limiter.limit ∧ t.limiter.windowMs = s.limiter.windowMs := by
  induction h with
  | refl => exact ⟨rfl, rfl⟩
  | @stepL s t u call calls hs _ ih =>
    obtain ⟨-, rfl⟩ := hs
    obtain ⟨hlimit, hwindow⟩ := next_options s call
    exact ⟨ih.1.trans hlimit, ih.2.trans hwindow⟩

/-- What is granted later is granted at later times. -/
theorem later_run (h : (program limit windowMs hwindow clock).machine.Run s calls t) :
    ∃ added, t.log = s.log ++ added ∧ ∀ g ∈ added, s.clock ≤ g.time := by
  induction h with
  | refl => exact ⟨[], (List.append_nil _).symm, nofun⟩
  | @stepL s t u call calls hs _ ih =>
    obtain ⟨henabled, rfl⟩ := hs
    have hnow : s.clock ≤ call.now := of_decide_eq_true henabled
    obtain ⟨hclock, first, hfirst, htimes⟩ := next_log s call
    obtain ⟨rest, hrest, hlater⟩ := ih
    refine ⟨first ++ rest, ?_, fun g hg => ?_⟩
    · rw [hrest, ← List.append_assoc]
      exact congrArg (· ++ rest) hfirst
    · rcases List.mem_append.mp hg with hg | hg
      · rw [htimes g hg]
        exact hnow
      · have hle : call.now ≤ g.time := hclock ▸ hlater g hg
        exact hnow.trans hle

/-- A call that opens another window comes after the end of the last one. -/
theorem over_of_renewed (hstarted : s.limiter.windowStartedAt = some started)
    (hfrom : started ≤ call.now)
    (hrenewed : (next s call).limiter.windowStartedAt ≠ some started) :
    started + s.limiter.windowMs ≤ call.now := by
  by_contra hcurrent
  have hkept := FixedWindowRateLimiter.refreshWindow_of_current hstarted hfrom (by omega)
  refine hrenewed ?_
  rcases next_cases s call with heq | heq | ⟨amount, hfits, heq⟩
  · rw [heq]
    exact hstarted
  · rw [heq]
    change (s.limiter.refreshWindow call.now).windowStartedAt = some started
    rw [hkept]
    exact hstarted
  · rw [heq]
    change (s.limiter.refreshWindow call.now).windowStartedAt = some started
    rw [hkept]
    exact hstarted

theorem Bounded.window (h : Bounded s) (hstarted : s.limiter.windowStartedAt = some started) :
    granted (within started (started + s.limiter.windowMs)) s.log = s.limiter.used := by
  obtain ⟨-, huntil, hused⟩ := h.current started hstarted
  rw [← hused]
  refine granted_congr fun g hg => ?_
  simp [within, huntil g hg]

/-- Over every sequence of calls: `used` stays within the limit, the grants of a window amount to
`used` while it lasts and to what `used` was at its end from then on, and the grants of an interval
as long as a window amount to at most twice the limit. -/
theorem rate_bounded (limit : PositiveInteger) (windowMs : Int) (hwindow : 0 < windowMs)
    (clock : Int) (calls : List RateCall) (s : RateState)
    (h : (program limit windowMs hwindow clock).machine.Run (new limit windowMs hwindow clock)
      calls s) :
    s.limiter.used ≤ limit.value ∧
    (∀ started, s.limiter.windowStartedAt = some started →
      granted (within started (started + windowMs)) s.log = s.limiter.used ∧
      ∀ call t later u, (program limit windowMs hwindow clock).machine.Step s call t →
        t.limiter.windowStartedAt ≠ some started →
        (program limit windowMs hwindow clock).machine.Run t later u →
        granted (within started (started + windowMs)) u.log = s.limiter.used) ∧
    ∀ x, granted (within x (x + windowMs)) s.log ≤ 2 * limit.value := by
  have hbounded := bounded_run h
  obtain ⟨hlimit, hlength⟩ : s.limiter.limit = limit ∧ s.limiter.windowMs = windowMs :=
    options_run h
  refine ⟨hlimit ▸ s.limiter.used_le, fun started hstarted => ?_, fun x => ?_⟩
  · have hwhole := hbounded.window hstarted
    rw [hlength] at hwhole
    refine ⟨hwhole, ?_⟩
    rintro call t later u ⟨henabled, rfl⟩ hrenewed hlater
    have hnow : s.clock ≤ call.now := of_decide_eq_true henabled
    have hover := over_of_renewed hstarted
        ((hbounded.current started hstarted).1.trans hnow) hrenewed
    rw [hlength] at hover
    obtain ⟨hclock, first, hfirst, htimes⟩ := next_log s call
    obtain ⟨rest, hrest, hafter⟩ := later_run hlater
    have hnone : granted (within started (started + windowMs)) (first ++ rest) = 0 := by
      refine granted_eq_zero fun g hg => ?_
      have htime : call.now ≤ g.time := by
        rcases List.mem_append.mp hg with hg | hg
        · exact (htimes g hg).ge
        · exact hclock ▸ hafter g hg
      simp only [within, Bool.and_eq_false_iff, decide_eq_false_iff_not]
      omega
    have hwholeLog : u.log = s.log ++ (first ++ rest) := by
      rw [hrest, ← List.append_assoc]
      exact congrArg (· ++ rest) hfirst
    rw [hwholeLog, granted_append, hnone, hwhole, add_zero]
  · have hinterval := hbounded.intervals x
    rwa [hlength, hlimit] at hinterval

/-- The limit is granted at the end of one window and at the start of the next. -/
theorem rate_bounded_twice : ∃ calls s,
    (program ⟨2, by decide, by decide⟩ 1000 (by decide) 0).machine.Run
      (new ⟨2, by decide, by decide⟩ 1000 (by decide) 0) calls s ∧
    granted (within 500 1500) s.log = 3 ∧ ∀ x, granted (within x (x + 1000)) s.log ≤ 2 * 2 := by
  obtain ⟨s, hrun, htwice⟩ :=
    (program ⟨2, by decide, by decide⟩ 1000 (by decide) 0).exists_run
      [⟨.integer 1, 0⟩, ⟨.integer 1, 999⟩, ⟨.integer 2, 1000⟩]
      (new ⟨2, by decide, by decide⟩ 1000 (by decide) 0)
      (fun s => granted (within 500 1500) s.log = 3) (by decide +kernel)
  exact ⟨_, s, hrun, htwice, (rate_bounded _ 1000 (by decide) 0 _ s hrun).2.2⟩

end RateState

end NestWebTransport
