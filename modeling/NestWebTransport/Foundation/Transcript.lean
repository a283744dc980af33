import Mathlib.Tactic.TypeStar

/-! Objects that answer the calls made on them, and when two of them answer alike. -/
namespace NestWebTransport

variable {State Model Call Answer : Type*}

/-- The answers to a sequence of calls, and the state it leaves. -/
def transcript (respond : State → Call → Answer × State) : List Call → State → List Answer × State
  | [], s => ([], s)
  | c :: cs, s =>
    let r := respond s c
    let rest := transcript respond cs r.2
    (r.1 :: rest.1, rest.2)

theorem transcript_append (respond : State → Call → Answer × State) (cs ds : List Call)
    (s : State) :
    transcript respond (cs ++ ds) s =
      ((transcript respond cs s).1 ++ (transcript respond ds (transcript respond cs s).2).1,
        (transcript respond ds (transcript respond cs s).2).2) := by
  induction cs generalizing s with
  | nil => rfl
  | cons c cs ih => simp [transcript, ih]

/-- What every call preserves holds after any sequence of calls. -/
theorem transcript_invariant {respond : State → Call → Answer × State} {P : State → Prop}
    (h : ∀ s c, P s → P (respond s c).2) (cs : List Call) {s : State} (hs : P s) :
    P (transcript respond cs s).2 := by
  induction cs generalizing s with
  | nil => exact hs
  | cons c cs ih => exact ih (h s c hs)

/-- A relation under which both objects answer every call alike is kept along any sequence of
calls, and both give the same answers. -/
theorem transcript_simulates {respond : State → Call → Answer × State}
    {specify : Model → Call → Answer × Model} {R : State → Model → Prop}
    (h : ∀ s m c, R s m → (respond s c).1 = (specify m c).1 ∧ R (respond s c).2 (specify m c).2)
    (cs : List Call) {s : State} {m : Model} (hR : R s m) :
    (transcript respond cs s).1 = (transcript specify cs m).1 ∧
      R (transcript respond cs s).2 (transcript specify cs m).2 := by
  induction cs generalizing s m with
  | nil => exact ⟨rfl, hR⟩
  | cons c cs ih =>
    obtain ⟨hanswer, hnext⟩ := h s m c hR
    obtain ⟨hrest, hlast⟩ := ih hnext
    exact ⟨by simp only [transcript, hanswer, hrest], hlast⟩

end NestWebTransport
