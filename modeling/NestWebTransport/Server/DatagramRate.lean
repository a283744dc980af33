import NestWebTransport.Core.FixedWindowRateLimiter
import NestWebTransport.Foundation.Transcript
import NestWebTransport.Server.WebTransportRuntime

/-! The datagram gate of the runtime beside the core rate limiter. -/
namespace NestWebTransport

namespace FixedWindowRateLimiter

variable {l : FixedWindowRateLimiter} {now : Int} {count : Nat}

/-- `tryConsume(1, now)`. -/
def consumeOne (l : FixedWindowRateLimiter) (now : Int) :
    Except OptionsError Bool × FixedWindowRateLimiter := l.tryConsume (.integer 1) now

theorem consumeOne_eq (l : FixedWindowRateLimiter) (now : Int) : l.consumeOne now =
    (.ok (l.consume ⟨1, by decide, by decide⟩ now).1,
      (l.consume ⟨1, by decide, by decide⟩ now).2) :=
  tryConsume_integer l ⟨1, by decide, by decide⟩ now

theorem consumeOne_of_room (l : FixedWindowRateLimiter) (now : Int)
    (hroom : (l.refreshWindow now).used < l.limit.value) :
    ∃ after : FixedWindowRateLimiter, l.consumeOne now = (.ok true, after) ∧
      after.used = (l.refreshWindow now).used + 1 ∧
      after.windowStartedAt = (l.refreshWindow now).windowStartedAt ∧
      after.windowMs = l.windowMs ∧ after.limit = l.limit := by
  obtain ⟨hlimit, hwindow⟩ := refreshWindow_limit (l := l) now
  have hfits : (l.refreshWindow now).used + 1 ≤ (l.refreshWindow now).limit.value := by
    rw [hlimit]
    omega
  refine ⟨{ l.refreshWindow now with used := _, used_le := hfits }, ?_, rfl, rfl, hwindow, hlimit⟩
  rw [consumeOne_eq, consume]
  simp only
  rw [dif_neg (by rw [hlimit]; omega)]

theorem consumeOne_of_full (hfull : (l.refreshWindow now).used = l.limit.value) :
    l.consumeOne now = (.ok false, l.refreshWindow now) := by
  have hlimit := (refreshWindow_limit (l := l) now).1
  rw [consumeOne_eq, consume]
  simp only
  rw [dif_pos (by rw [hlimit]; omega)]

/-- Only the refreshed window matters to a call. -/
theorem consumeOne_congr {r : FixedWindowRateLimiter}
    (h : r.refreshWindow now = l.refreshWindow now) : r.consumeOne now = l.consumeOne now := by
  simp only [consumeOne_eq, consume, h]

theorem refreshWindow_refreshWindow :
    (l.refreshWindow now).refreshWindow now = l.refreshWindow now := by
  obtain ⟨started, hstarted, hfrom, huntil⟩ := l.refreshWindow_started now
  rw [← (refreshWindow_limit (l := l) now).2] at huntil
  exact refreshWindow_of_current hstarted hfrom huntil

theorem retryAfterMs_snd : (l.retryAfterMs now).2 = l.refreshWindow now := by
  unfold retryAfterMs
  simp only
  split
  · rfl
  · split <;> rfl

/-- A window that has just begun admits the datagrams it has room for. -/
theorem admits_current (count : Nat) (hstarted : l.windowStartedAt = some now)
    (hroom : l.used + count ≤ l.limit.value) :
    let run := transcript consumeOne (List.replicate count now) l
    run.1 = List.replicate count (.ok true) ∧ run.2.windowStartedAt = some now ∧
      run.2.windowMs = l.windowMs ∧ run.2.limit = l.limit := by
  induction count generalizing l with
  | zero => exact ⟨rfl, hstarted, rfl, rfl⟩
  | succ count ih =>
    have hcurrent := refreshWindow_of_current hstarted le_rfl (by have := l.windowMs_pos; omega)
    obtain ⟨after, hfirst, hused, hkept, hwindow, hlimit⟩ :=
      consumeOne_of_room l now (by rw [hcurrent]; omega)
    rw [hcurrent] at hused hkept
    obtain ⟨hanswers, hlast, hwindow', hlimit'⟩ :=
      ih (l := after) (hkept.trans hstarted) (by rw [hused, hlimit]; omega)
    simp only [List.replicate_succ, transcript, hfirst]
    exact ⟨by rw [hanswers], hlast, hwindow'.trans hwindow, hlimit'.trans hlimit⟩

/-- A window that begins at a reading admits a whole limit at once, and the next one follows a
second later. -/
theorem admits_renewed (l : FixedWindowRateLimiter) (now : Int)
    (hover : l.windowStartedAt.all (l.isOver now))
    (hlimit : l.limit.value = count + 1) (hsecond : l.windowMs = 1000) :
    (transcript consumeOne (List.replicate (count + 1) now ++ [now + 1000]) l).1 =
      List.replicate (count + 2) (.ok true) := by
  have hfresh : (l.refreshWindow now).used = 0 ∧
      (l.refreshWindow now).windowStartedAt = some now := by
    unfold refreshWindow
    rw [if_pos hover]
    exact ⟨rfl, rfl⟩
  obtain ⟨hlimit', hwindow⟩ := refreshWindow_limit (l := l) now
  obtain ⟨hfull, hlast, hsecond', hlimit''⟩ := admits_current (l := l.refreshWindow now)
    (count + 1) hfresh.2 (by rw [hfresh.1, hlimit', hlimit]; omega)
  have hsame : transcript consumeOne (List.replicate (count + 1) now) l =
      transcript consumeOne (List.replicate (count + 1) now) (l.refreshWindow now) := by
    simp only [List.replicate_succ, transcript, consumeOne_congr refreshWindow_refreshWindow]
  rw [transcript_append, hsame, hfull]
  generalize (transcript consumeOne (List.replicate (count + 1) now) (l.refreshWindow now)).2 = r
    at hlast hsecond' hlimit''
  have hnext : (r.refreshWindow (now + 1000)).used = 0 :=
    refreshWindow_of_over hlast (by rw [hsecond', hwindow, hsecond]; omega)
  obtain ⟨after, hone, -⟩ := consumeOne_of_room r (now + 1000)
    (by rw [hnext, hlimit'', hlimit', hlimit]; omega)
  simp only [transcript, hone]
  exact (List.replicate_succ' (n := count + 1)).symm

end FixedWindowRateLimiter

namespace DataPlane

variable {options : NormalizedWebTransportModuleOptions} {b : DatagramBuffer}
  {l : FixedWindowRateLimiter} {started now : Int} {readings : List Int}

/-- When the window that a reading falls into began. -/
def windowAt (started now : Int) : Int := if 1000 ≤ now - started then now else started

/-- No reading comes before the window it falls into. -/
def Forward : Int → List Int → Prop
  | _, [] => True
  | started, now :: readings => started ≤ now ∧ Forward (windowAt started now) readings

/-- The window of the last reading. -/
def lastWindow (started : Int) (readings : List Int) : Int := readings.foldl windowAt started

theorem le_windowAt (h : started ≤ now) : started ≤ windowAt started now ∧
    windowAt started now ≤ now := by
  unfold windowAt
  split <;> omega

theorem forward_append {later : List Int} : Forward started (readings ++ later) ↔
    Forward started readings ∧ Forward (lastWindow started readings) later := by
  induction readings generalizing started with
  | nil => exact ⟨fun h => ⟨trivial, h⟩, And.right⟩
  | cons now readings ih =>
    change started ≤ now ∧ Forward (windowAt started now) (readings ++ later) ↔
      (started ≤ now ∧ Forward (windowAt started now) readings) ∧
        Forward (lastWindow (windowAt started now) readings) later
    rw [ih, and_assoc]

theorem forward_of_pairwise (hfrom : ∀ now ∈ readings, started ≤ now)
    (hsorted : readings.Pairwise (· ≤ ·)) : Forward started readings := by
  induction readings generalizing started with
  | nil => trivial
  | cons now readings ih =>
    obtain ⟨hfirst, hrest⟩ := List.pairwise_cons.mp hsorted
    have hnow := hfrom now List.mem_cons_self
    refine ⟨hnow, ih (fun later hlater => ?_) hrest⟩
    exact (le_windowAt hnow).2.trans (hfirst later hlater)

/-- The first reading that comes before its window. -/
theorem exists_backward (h : ¬ Forward started readings) : ∃ done now rest,
    readings = done ++ now :: rest ∧ Forward started done ∧ now < lastWindow started done := by
  induction readings generalizing started with
  | nil => exact absurd trivial h
  | cons now readings ih =>
    by_cases hnow : started ≤ now
    · obtain ⟨done, later, rest, hsplit, hdone, hlater⟩ := ih fun hrest => h ⟨hnow, hrest⟩
      exact ⟨now :: done, later, rest, by rw [hsplit]; rfl, ⟨hnow, hdone⟩, hlater⟩
    · exact ⟨[], now, readings, rfl, trivial, by change now < started; omega⟩

/-- One window, used as much, in the runtime's gate and in the limiter. -/
structure Synced (options : NormalizedWebTransportModuleOptions) (b : DatagramBuffer)
    (l : FixedWindowRateLimiter) : Prop where
  limit : l.limit = options.limits.session.maxDatagramsPerSecond
  windowMs : l.windowMs = 1000
  started : l.windowStartedAt = some b.datagramWindowStartedAt
  used : l.used = b.datagramsInWindow

theorem consumeDatagramRate_started (options : NormalizedWebTransportModuleOptions)
    (b : DatagramBuffer) (now : Int) :
    (consumeDatagramRate options b now).2.datagramWindowStartedAt =
      windowAt b.datagramWindowStartedAt now := by
  unfold consumeDatagramRate windowAt
  simp only [ge_iff_le]
  split <;> split <;> rfl

/-- Both refresh their window at the same reading. -/
theorem Synced.refresh (h : Synced options b l) (hnow : b.datagramWindowStartedAt ≤ now) :
    Synced options
      (if now - b.datagramWindowStartedAt ≥ 1000 then
        { b with datagramWindowStartedAt := now, datagramsInWindow := 0 } else b)
      (l.refreshWindow now) := by
  unfold FixedWindowRateLimiter.refreshWindow
  rw [h.started, Option.all_some]
  by_cases hover : now - b.datagramWindowStartedAt ≥ 1000
  · rw [if_pos hover, if_pos]
    · exact ⟨h.limit, h.windowMs, rfl, rfl⟩
    · rw [FixedWindowRateLimiter.isOver_iff, h.windowMs]
      exact Or.inr hover
  · rw [if_neg hover, if_neg]
    · exact h
    · rw [FixedWindowRateLimiter.isOver_iff, h.windowMs]
      omega

/-- At a reading not before the window the gates decide alike. -/
theorem Synced.consume (h : Synced options b l) (hnow : b.datagramWindowStartedAt ≤ now) :
    (l.consumeOne now).1 = .ok (consumeDatagramRate options b now).1 ∧
      Synced options (consumeDatagramRate options b now).2 (l.consumeOne now).2 := by
  have hrefreshed := h.refresh hnow
  have hlimit := (FixedWindowRateLimiter.refreshWindow_limit (l := l) now).1
  have hused := (l.refreshWindow now).used_le
  rw [hlimit] at hused
  unfold consumeDatagramRate
  simp only
  generalize (if now - b.datagramWindowStartedAt ≥ 1000 then
    { b with datagramWindowStartedAt := now, datagramsInWindow := 0 } else b) = c at hrefreshed ⊢
  by_cases hfull : options.limits.session.maxDatagramsPerSecond.value ≤ c.datagramsInWindow
  · rw [if_pos hfull, FixedWindowRateLimiter.consumeOne_of_full]
    · exact ⟨rfl, hrefreshed⟩
    · rw [← h.limit, ← hrefreshed.used] at hfull
      omega
  · obtain ⟨after, hone, hused', hkept, hwindow, hlimit'⟩ :=
      FixedWindowRateLimiter.consumeOne_of_room l now (by
        rw [hrefreshed.used, h.limit]
        omega)
    rw [if_neg hfull, hone]
    exact ⟨rfl, hlimit'.trans h.limit, hwindow.trans h.windowMs, hkept.trans hrefreshed.started,
      hused'.trans (congrArg (· + 1) hrefreshed.used)⟩

/-- While the clock goes forward the gate and the limiter answer alike, reading by reading. -/
theorem Synced.run (h : Synced options b l)
    (hforward : Forward b.datagramWindowStartedAt readings) :
    let gate := transcript (consumeDatagramRate options) readings b
    let core := transcript FixedWindowRateLimiter.consumeOne readings l
    core.1 = gate.1.map .ok ∧ Synced options gate.2 core.2 ∧
      gate.2.datagramWindowStartedAt = lastWindow b.datagramWindowStartedAt readings := by
  induction readings generalizing b l with
  | nil => exact ⟨rfl, h, rfl⟩
  | cons now readings ih =>
    obtain ⟨hanswer, hnext⟩ := h.consume hforward.1
    have hwindow := consumeDatagramRate_started options b now
    obtain ⟨hrest, hlast, hstarted⟩ := ih hnext (hwindow ▸ hforward.2)
    refine ⟨?_, hlast, ?_⟩
    · simp only [transcript, List.map_cons]
      rw [hanswer, hrest]
    · rw [hwindow] at hstarted
      exact hstarted

/-- The gate admits what the window has room for while no reading reaches its end. -/
theorem count_admitted (options : NormalizedWebTransportModuleOptions) (b : DatagramBuffer)
    (readings : List Int) (huntil : ∀ now ∈ readings, now - b.datagramWindowStartedAt < 1000)
    (hcount : b.datagramsInWindow ≤ options.limits.session.maxDatagramsPerSecond.value) :
    (transcript (consumeDatagramRate options) readings b).1.count true + b.datagramsInWindow ≤
      options.limits.session.maxDatagramsPerSecond.value := by
  induction readings generalizing b with
  | nil => simpa [transcript] using hcount
  | cons now readings ih =>
    have hnow : ¬ 1000 ≤ now - b.datagramWindowStartedAt :=
      not_le.mpr (huntil now List.mem_cons_self)
    have hrest := fun later hlater => huntil later (List.mem_cons_of_mem now hlater)
    simp only [transcript, consumeDatagramRate, ge_iff_le, if_neg hnow]
    by_cases hfull : options.limits.session.maxDatagramsPerSecond.value ≤ b.datagramsInWindow
    · rw [if_pos hfull, List.count_cons_of_ne Bool.false_ne_true]
      exact ih b hrest hcount
    · rw [if_neg hfull, List.count_cons_self]
      have hlater := ih { b with datagramsInWindow := b.datagramsInWindow + 1 } hrest
        (by change b.datagramsInWindow + 1 ≤ _; omega)
      exact (Nat.add_right_comm _ 1 _).trans_le hlater

/-- The runtime's gate for a session opened at `start` and the core limiter, its window opened and
empty at `start`, admit and refuse the same datagrams. -/
def SameDecisions (options : NormalizedWebTransportModuleOptions) (start : Int)
    (readings : List Int) : Prop :=
  let core := ((FixedWindowRateLimiter.new options.limits.session.maxDatagramsPerSecond 1000
    (by decide)).retryAfterMs start).2
  (transcript FixedWindowRateLimiter.consumeOne readings core).1 =
    (transcript (consumeDatagramRate options) readings (newBuffer options start)).1.map .ok

theorem synced_new (start : Int) : Synced options (newBuffer options start)
    ((FixedWindowRateLimiter.new options.limits.session.maxDatagramsPerSecond 1000
      (by decide)).retryAfterMs start).2 := by
  rw [FixedWindowRateLimiter.retryAfterMs_snd]
  exact ⟨rfl, rfl, rfl, rfl⟩

/-- After a reading from before the window the limiter admits a whole limit, and one more a second
later; the gate has no room for as many in the window it stays in. -/
theorem Synced.differ (h : Synced options b l) (hnow : now < b.datagramWindowStartedAt) :
    ∃ later, (now :: later).Pairwise (· ≤ ·) ∧
      (transcript FixedWindowRateLimiter.consumeOne (now :: later) l).1 ≠
        (transcript (consumeDatagramRate options) (now :: later) b).1.map .ok := by
  obtain ⟨count, hcount⟩ : ∃ count,
      options.limits.session.maxDatagramsPerSecond.value = count + 1 :=
    Nat.exists_eq_add_one.mpr options.limits.session.maxDatagramsPerSecond.positive
  refine ⟨List.replicate count now ++ [now + 1000], ?_, fun hsame => ?_⟩
  · rw [← List.cons_append, ← List.replicate_succ, List.pairwise_append]
    refine ⟨List.pairwise_replicate.mpr (Or.inr le_rfl), List.pairwise_singleton _ _, ?_⟩
    intro first hfirst second hsecond
    rw [List.eq_of_mem_replicate hfirst, List.mem_singleton.mp hsecond]
    omega
  · rw [← List.cons_append, ← List.replicate_succ] at hsame
    have hrenewed := FixedWindowRateLimiter.admits_renewed l now
      (by rw [h.started, Option.all_some, FixedWindowRateLimiter.isOver_iff]; exact Or.inl hnow)
      (by rw [h.limit]; exact hcount) h.windowMs
    rw [hrenewed] at hsame
    have hadmitted := count_admitted options b
      (List.replicate (count + 1) now ++ [now + 1000]) (fun reading hreading => by
        rcases List.mem_append.mp hreading with hreading | hreading
        · rw [List.eq_of_mem_replicate hreading]
          omega
        · rw [List.mem_singleton.mp hreading]
          omega) (by rw [← h.limit, ← h.used]; exact l.used_le)
    have hall : (transcript (consumeDatagramRate options)
        (List.replicate (count + 1) now ++ [now + 1000]) b).1 =
          List.replicate (count + 2) true := by
      have hinj : Function.Injective (Except.ok : Bool → Except OptionsError Bool) :=
        fun _ _ => Except.ok.inj
      apply List.map_injective_iff.mpr hinj
      rw [← hsame, List.map_replicate]
    rw [hall, List.count_replicate_self, hcount] at hadmitted
    omega

/-- The two decide alike, and go on doing so from every reading while the clock does not step back,
just where no reading comes before the window it falls into. -/
theorem same_decisions_iff (options : NormalizedWebTransportModuleOptions) (start : Int)
    (readings : List Int) :
    (SameDecisions options start readings ∧
      ∀ done now rest, readings = done ++ now :: rest →
        ∀ later, (now :: later).Pairwise (· ≤ ·) →
          SameDecisions options start (done ++ now :: later)) ↔
      Forward start readings := by
  refine ⟨fun ⟨_, hsame⟩ => ?_, fun h => ?_⟩
  · by_contra hbackward
    obtain ⟨done, now, rest, hsplit, hdone, hnow⟩ := exists_backward hbackward
    obtain ⟨hanswers, hlast, hstarted⟩ := (synced_new start).run hdone
    obtain ⟨later, hsorted, hdiffer⟩ := hlast.differ (hstarted ▸ hnow)
    have hagree := hsame done now rest hsplit later hsorted
    simp only [SameDecisions, transcript_append, List.map_append] at hagree
    exact hdiffer (List.append_inj_right hagree (congrArg List.length hanswers))
  · have hrun : ∀ readings, Forward start readings → SameDecisions options start readings :=
      fun readings hforward => ((synced_new start).run hforward).1
    refine ⟨hrun readings h, fun done now rest hsplit later hsorted => hrun _ ?_⟩
    rw [hsplit, forward_append] at h
    exact forward_append.mpr ⟨h.1, forward_of_pairwise (fun reading hreading => by
      rcases List.mem_cons.mp hreading with rfl | hreading
      · exact h.2.1
      · exact h.2.1.trans ((List.pairwise_cons.mp hsorted).1 reading hreading)) hsorted⟩

/-- The clock steps back by five seconds when a window is used up: the limiter starts another, and
the gate refuses every datagram until the clock is one second past the old one. -/
theorem stepped_back_refused :
    let options := WebTransportRuntime.smallOptions
    let readings := List.replicate 8 5000 ++ [0, 1000, 2000, 5999, 6000]
    ¬ SameDecisions options 5000 readings ∧
      (transcript (consumeDatagramRate options) readings (newBuffer options 5000)).1 =
        List.replicate 8 true ++ [false, false, false, false, true] ∧
      (transcript FixedWindowRateLimiter.consumeOne readings
        ((FixedWindowRateLimiter.new options.limits.session.maxDatagramsPerSecond 1000
          (by decide)).retryAfterMs 5000).2).1 = List.replicate 13 (.ok true) := by
  refine ⟨fun hsame => ?_, rfl, rfl⟩
  exact absurd (congrArg (fun answers => answers[8]?) hsame) (by decide)

end DataPlane

end NestWebTransport
