import NestWebTransport.Foundation.ReadableStream

/-! When the controller of a readable stream calls the `pull` of its source. -/
namespace NestWebTransport

/-- `started` once `start` has settled, `pulling` while the promise of `pull` is pending,
`pullAgain` where the controller wanted to call it meanwhile. -/
structure PullLoop where
  started : Bool
  pulling : Bool
  pullAgain : Bool
  deriving DecidableEq, Repr

namespace PullLoop

variable (l : PullLoop) (should : Bool)

def new : PullLoop := ⟨false, false, false⟩

/-- Whether `pull` is called; `should` is what the stream wants. -/
def callPullIfNeeded : Bool × PullLoop :=
  if l.started && should then
    if l.pulling then (false, { l with pullAgain := true })
    else (true, { l with pulling := true })
  else (false, l)

/-- `start` has fulfilled. -/
def start : Bool × PullLoop := { l with started := true }.callPullIfNeeded should

/-- The promise of `pull` has fulfilled. -/
def settle : Bool × PullLoop :=
  if l.pullAgain then { l with pulling := false, pullAgain := false }.callPullIfNeeded should
  else (false, { l with pulling := false })

/-- The loop looks at the stream again by itself. -/
def returns : Prop := l.started = false ∨ l.pullAgain = true

instance : Decidable l.returns := inferInstanceAs (Decidable (_ ∨ _))

/-- A wish to pull again is kept only while `pull` is pending. -/
structure Sound (l : PullLoop) : Prop where
  pulling : l.pulling = true → l.started = true
  pullAgain : l.pullAgain = true → l.pulling = true

/-- What the controller has yet to do by itself, as far as the loop goes. -/
def load : Nat :=
  (if l.started then 0 else 3) + (if l.pulling then 1 else 0) + if l.pullAgain then 1 else 0

variable {l should}

theorem sound_new : Sound new := ⟨nofun, nofun⟩

theorem Sound.callPullIfNeeded (h : l.Sound) : (l.callPullIfNeeded should).2.Sound := by
  unfold PullLoop.callPullIfNeeded
  split_ifs with hwanted hpulling
  · exact ⟨h.pulling, fun _ => hpulling⟩
  · rw [Bool.and_eq_true] at hwanted
    exact ⟨fun _ => hwanted.1, fun _ => rfl⟩
  · exact h

theorem Sound.start (h : l.Sound) : (l.start should).2.Sound :=
  Sound.callPullIfNeeded ⟨fun _ => rfl, h.pullAgain⟩

theorem Sound.settle (h : l.Sound) (hpulling : l.pulling = true) :
    (l.settle should).2.Sound := by
  have hstarted := h.pulling hpulling
  unfold PullLoop.settle
  split_ifs with hagain
  · exact Sound.callPullIfNeeded ⟨fun _ => hstarted, nofun⟩
  · exact ⟨fun _ => hstarted, fun hkept => absurd hkept hagain⟩

/-- `pull` is called only where the stream wants it. -/
theorem callPullIfNeeded_called (h : (l.callPullIfNeeded should).1 = true) : should = true := by
  unfold PullLoop.callPullIfNeeded at h
  split_ifs at h with hwanted hpulling
  rw [Bool.and_eq_true] at hwanted
  exact hwanted.2

theorem settle_called (h : (l.settle should).1 = true) : should = true := by
  unfold PullLoop.settle at h
  split_ifs at h
  exact callPullIfNeeded_called h

/-- No wish is lost: a stream that wants a pull gets one now, or the loop looks again. -/
theorem callPullIfNeeded_wanted :
    (l.callPullIfNeeded true).1 = true ∨ (l.callPullIfNeeded true).2.returns := by
  unfold PullLoop.callPullIfNeeded returns
  cases hstarted : l.started with
  | false => simp [hstarted]
  | true =>
    cases hpulling : l.pulling with
    | false => simp
    | true => simp

/-- A started loop has a pull under way when the stream wants one, and another one to come unless it
is the one that was called just now. -/
theorem callPullIfNeeded_asks (h : (l.callPullIfNeeded true).2.started = true) :
    (l.callPullIfNeeded true).2.pulling = true ∧
      ((l.callPullIfNeeded true).1 = true ∨ (l.callPullIfNeeded true).2.pullAgain = true) := by
  unfold PullLoop.callPullIfNeeded at h ⊢
  split_ifs at h ⊢ with hwanted hpulling
  · exact ⟨hpulling, .inr rfl⟩
  · exact ⟨rfl, .inl rfl⟩
  · exact absurd (Bool.and_eq_true_iff.mpr ⟨h, rfl⟩) hwanted

/-- When a pull has settled the loop looks again if it was to. -/
theorem settle_wanted (h : l.Sound) (hpulling : l.pulling = true) (hreturns : l.returns) :
    (l.settle true).1 = true ∨ (l.settle true).2.returns := by
  have hagain : l.pullAgain = true := by
    rcases hreturns with hstarted | hagain
    · exact absurd (hstarted.symm.trans (h.pulling hpulling)) nofun
    · exact hagain
  unfold PullLoop.settle
  rw [if_pos hagain]
  exact callPullIfNeeded_wanted

theorem callPullIfNeeded_cases (l : PullLoop) (should : Bool) :
    ((l.callPullIfNeeded should).1 = true ∧ l.pulling = false ∧
      (l.callPullIfNeeded should).2.pulling = true) ∨
    ((l.callPullIfNeeded should).1 = false ∧
      (l.callPullIfNeeded should).2.pulling = l.pulling) := by
  unfold PullLoop.callPullIfNeeded
  split_ifs with hwanted hpulling
  · exact .inr ⟨rfl, rfl⟩
  · exact .inl ⟨rfl, eq_false_of_ne_true hpulling, rfl⟩
  · exact .inr ⟨rfl, rfl⟩

theorem callPullIfNeeded_pulling (h : l.pulling = true) (should : Bool) :
    (l.callPullIfNeeded should).1 = false := by
  rcases l.callPullIfNeeded_cases should with ⟨-, hidle, -⟩ | ⟨hquiet, -⟩
  · exact absurd (h.symm.trans hidle) nofun
  · exact hquiet

/-- A settled pull is followed by the next one, or by none. -/
theorem settle_pulling (l : PullLoop) (should : Bool) :
    (l.settle should).2.pulling = (l.settle should).1 := by
  unfold PullLoop.settle
  split_ifs
  · rcases callPullIfNeeded_cases { l with pulling := false, pullAgain := false } should with
      ⟨hcalled, -, hpulling⟩ | ⟨hcalled, hpulling⟩
    · rw [hcalled, hpulling]
    · rw [hcalled, hpulling]
  · rfl

theorem load_callPullIfNeeded (l : PullLoop) (should : Bool) :
    (l.callPullIfNeeded should).2.load ≤ l.load + 1 := by
  unfold PullLoop.callPullIfNeeded load
  split_ifs <;> simp_all

theorem load_start (hstarted : l.started = false) (should : Bool) :
    (l.start should).2.load < l.load := by
  unfold PullLoop.start PullLoop.callPullIfNeeded load
  split_ifs <;> simp_all

theorem load_settle (hpulling : l.pulling = true) (should : Bool) :
    (l.settle should).2.load < l.load := by
  unfold PullLoop.settle PullLoop.callPullIfNeeded load
  split_ifs <;> simp_all

end PullLoop

end NestWebTransport
