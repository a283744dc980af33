import Mathlib.Data.List.Count

/-! Labelled machines and what their finite runs preserve. -/
namespace NestWebTransport

/-- A labelled transition system with its starting states. -/
structure Machine (State Event : Type*) where
  Initial : State → Prop
  Step : State → Event → State → Prop

namespace Machine

variable {State Event : Type*} {M : Machine State Event} {s t u : State}
  {e : Event} {es fs : List Event} {P Q : State → Prop}

/-- A finite run, its events in the order they happened. -/
inductive Run (M : Machine State Event) : State → List Event → State → Prop
  | refl {s : State} : Run M s [] s
  | stepL {s t u : State} {e : Event} {es : List Event} :
      M.Step s e t → Run M t es u → Run M s (e :: es) u

/-- A state some run reaches from a starting state. -/
def Reachable (M : Machine State Event) (s : State) : Prop :=
  ∃ s₀ es, M.Initial s₀ ∧ M.Run s₀ es s

theorem Run.single (h : M.Step s e t) : M.Run s [e] t := .stepL h .refl

theorem Run.append (h : M.Run s es t) (h' : M.Run t fs u) : M.Run s (es ++ fs) u := by
  induction h with
  | refl => exact h'
  | stepL hs _ ih => exact .stepL hs (ih h')

theorem Run.of_append (h : M.Run s (es ++ fs) u) : ∃ t, M.Run s es t ∧ M.Run t fs u := by
  induction es generalizing s with
  | nil => exact ⟨s, .refl, h⟩
  | cons e es ih =>
    cases h with
    | stepL hs hrest =>
      obtain ⟨t, hes, hfs⟩ := ih hrest
      exact ⟨t, .stepL hs hes, hfs⟩

/-- An invariant need only survive the steps whose events the run contains. -/
theorem Run.invariant_of_events (ok : Event → Prop)
    (hstep : ∀ s e t, ok e → M.Step s e t → P s → P t)
    (h : M.Run s es t) (hok : ∀ e ∈ es, ok e) (hs : P s) : P t := by
  induction h with
  | refl => exact hs
  | stepL hst _ ih =>
    exact ih (fun e he => hok e (List.mem_cons_of_mem _ he))
      (hstep _ _ _ (hok _ List.mem_cons_self) hst hs)

theorem Run.invariant (hstep : ∀ s e t, M.Step s e t → P s → P t)
    (h : M.Run s es t) (hs : P s) : P t :=
  h.invariant_of_events (fun _ => True) (fun s e t _ => hstep s e t) (fun _ _ => trivial) hs

theorem Reachable.invariant (hinit : ∀ s, M.Initial s → P s)
    (hstep : ∀ s e t, M.Step s e t → P s → P t) (h : M.Reachable s) : P s := by
  obtain ⟨s₀, es, h₀, hrun⟩ := h
  exact hrun.invariant hstep (hinit s₀ h₀)

theorem Reachable.run (h : M.Reachable s) (hr : M.Run s es t) : M.Reachable t := by
  obtain ⟨s₀, fs, h₀, hrun⟩ := h
  exact ⟨s₀, fs ++ es, h₀, hrun.append hr⟩

/-- The machine whose steps also meet a condition on the state before and the event. -/
def restrict (M : Machine State Event) (ok : State → Event → Prop) : Machine State Event where
  Initial := M.Initial
  Step s e t := ok s e ∧ M.Step s e t

theorem Run.unrestrict {ok : State → Event → Prop} (h : (M.restrict ok).Run s es t) :
    M.Run s es t := by
  induction h with
  | refl => exact .refl
  | stepL hst _ ih => exact .stepL hst.2 ih

theorem Run.restrict_of_events {ok : State → Event → Prop} (h : M.Run s es t)
    (hok : ∀ e ∈ es, ∀ s, ok s e) : (M.restrict ok).Run s es t := by
  induction h with
  | refl => exact .refl
  | stepL hst _ ih =>
    exact .stepL ⟨hok _ List.mem_cons_self _, hst⟩
      (ih fun e he => hok e (List.mem_cons_of_mem _ he))

/-- Conditions that agree on every step of the machine restrict it to the same runs, as far as an
invariant holds that the steps which meet them keep. -/
theorem Run.restrict_congr {ok ok' : State → Event → Prop}
    (hinv : ∀ s e t, M.Step s e t → P s → ok s e → P t)
    (hok : ∀ s e t, M.Step s e t → P s → (ok s e ↔ ok' s e)) (hs : P s) :
    (M.restrict ok).Run s es t ↔ (M.restrict ok').Run s es t := by
  constructor
  · intro h
    induction h with
    | refl => exact .refl
    | stepL hst _ ih =>
      exact .stepL ⟨(hok _ _ _ hst.2 hs).mp hst.1, hst.2⟩ (ih (hinv _ _ _ hst.2 hs hst.1))
  · intro h
    induction h with
    | refl => exact .refl
    | stepL hst _ ih =>
      have hfirst := (hok _ _ _ hst.2 hs).mpr hst.1
      exact .stepL ⟨hfirst, hst.2⟩ (ih (hinv _ _ _ hst.2 hs hfirst))

/-- Where breaking the condition spoils the next state, a run keeps to the condition exactly when
every state it visits is good. -/
theorem Run.restrict_iff_good {ok : State → Event → Prop} {I G : State → Prop}
    (hkeep : ∀ s e t, M.Step s e t → I s → ok s e → I t) (hgood : ∀ s, I s → G s)
    (hbad : ∀ s e t, M.Step s e t → I s → ¬ ok s e → ¬ G t) (hs : I s) :
    (M.restrict ok).Run s es t ↔ (M.restrict fun s _ => G s).Run s es t ∧ G t := by
  constructor
  · intro hok
    induction hok with
    | refl => exact ⟨.refl, hgood _ hs⟩
    | stepL hst _ ih =>
      obtain ⟨hrun, hlast⟩ := ih (hkeep _ _ _ hst.2 hs hst.1)
      exact ⟨.stepL ⟨hgood _ hs, hst.2⟩ hrun, hlast⟩
  · rintro ⟨hrun, hlast⟩
    induction hrun with
    | refl => exact .refl
    | @stepL s u t e es hst hrest ih =>
      by_cases hok : ok s e
      · exact .stepL ⟨hok, hst.2⟩ (ih (hkeep _ _ _ hst.2 hs hok) hlast)
      · have hu : G u := by
          cases hrest with
          | refl => exact hlast
          | stepL hnext _ => exact hnext.1
        exact absurd hu (hbad _ _ _ hst.2 hs hok)

/-- What holds at the end and not at the start was established by one step of the run. -/
theorem Run.exists_step_of_change (h : M.Run s es t) (hs : ¬ P s) (ht : P t) :
    ∃ pre e post u v, es = pre ++ e :: post ∧ M.Run s pre u ∧ M.Step u e v ∧
      ¬ P u ∧ P v ∧ M.Run v post t := by
  induction h with
  | refl => exact absurd ht hs
  | @stepL s u t e es hst hrest ih =>
    by_cases hu : P u
    · exact ⟨[], e, es, s, u, rfl, .refl, hst, hs, hu, hrest⟩
    · obtain ⟨pre, a, post, v, w, heq, hp, ha, hv, hw, hz⟩ := ih hu ht
      exact ⟨e :: pre, a, post, v, w, by simp [heq], .stepL hst hp, ha, hv, hw, hz⟩

/-- What holds at the end has held since the start or since the step that last established it;
from there on every step meets what holding on to it forces. -/
theorem Run.since {ok : State → Event → Prop}
    (hkeep : ∀ s e t, M.Step s e t → P s → P t → ok s e) (h : M.Run s es t) (ht : P t) :
    (P s ∧ (M.restrict ok).Run s es t) ∨
      ∃ pre e post u v, es = pre ++ e :: post ∧ M.Run s pre u ∧ M.Step u e v ∧
        ¬ P u ∧ P v ∧ (M.restrict ok).Run v post t := by
  induction h with
  | refl => exact Or.inl ⟨ht, .refl⟩
  | @stepL s u t e es hst _ ih =>
    rcases ih ht with ⟨hu, hrest⟩ | ⟨pre, a, post, v, w, heq, hpre, ha, hv, hw, hpost⟩
    · by_cases hs : P s
      · exact Or.inl ⟨hs, .stepL ⟨hkeep _ _ _ hst hs hu, hst⟩ hrest⟩
      · exact Or.inr ⟨[], e, es, s, u, rfl, .refl, hst, hs, hu, hrest⟩
    · exact Or.inr ⟨e :: pre, a, post, v, w, by simp [heq], .stepL hst hpre, ha, hv, hw, hpost⟩

/-- What an event establishes and every step keeps holds from that event on. -/
theorem Run.holds_after {I : State → Prop} (hinv : ∀ s e t, M.Step s e t → I s → I t)
    (hfire : ∀ s t, M.Step s e t → I s → P t) (hstable : ∀ s f t, M.Step s f t → I s → P s → P t)
    (h : M.Run s es t) (hs : I s) (he : e ∈ es) : P t := by
  induction h with
  | refl => cases he
  | @stepL s u t f es hst hrest ih =>
    have hu := hinv _ _ _ hst hs
    rcases List.mem_cons.mp he with rfl | he
    · have hkeep : ∀ a f b, M.Step a f b → I a ∧ P a → I b ∧ P b :=
        fun a f b hab h => ⟨hinv a f b hab h.1, hstable a f b hab h.1 h.2⟩
      exact (hrest.invariant hkeep ⟨hu, hfire _ _ hst hs⟩).2
    · exact ih hu he

/-- An event that establishes a stable property it requires to be absent happens at most once. -/
theorem Run.countP_le_one {I : State → Prop} {p : Event → Bool}
    (hinv : ∀ s e t, M.Step s e t → I s → I t)
    (hstable : ∀ s e t, M.Step s e t → I s → Q s → Q t)
    (hfire : ∀ s e t, M.Step s e t → I s → p e = true → ¬ Q s ∧ Q t)
    (h : M.Run s es t) (hs : I s) :
    es.countP p ≤ 1 ∧ (Q s → es.countP p = 0) := by
  induction h with
  | refl => simp
  | @stepL s u t e es hst _ ih =>
    obtain ⟨hle, hzero⟩ := ih (hinv _ _ _ hst hs)
    cases he : p e with
    | false =>
      rw [List.countP_cons_of_neg (by simp [he])]
      exact ⟨hle, fun hq => hzero (hstable _ _ _ hst hs hq)⟩
    | true =>
      obtain ⟨hns, hu⟩ := hfire _ _ _ hst hs he
      rw [List.countP_cons_of_pos he, hzero hu]
      exact ⟨Nat.le_refl 1, fun hq => absurd hq hns⟩

end Machine

end NestWebTransport
