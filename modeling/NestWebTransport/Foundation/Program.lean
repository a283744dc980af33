import NestWebTransport.Foundation.Machine

/-! Machines whose steps are computed. -/
namespace NestWebTransport

/-- Which events can come next, and what each does. -/
structure Program (State Event : Type*) where
  initial : State
  enabled : State → Event → Bool
  next : State → Event → State

namespace Program

variable {State Event : Type*} (P : Program State Event) {s t : State} {e : Event}
  {es : List Event}

def machine : Machine State Event where
  Initial s := s = P.initial
  Step s e t := P.enabled s e = true ∧ t = P.next s e

/-- Take the events one after another while they are enabled. -/
def execute : List Event → State → Option State
  | [], s => some s
  | e :: es, s => if P.enabled s e then execute es (P.next s e) else none

theorem execute_run (h : P.execute es s = some t) : P.machine.Run s es t := by
  induction es generalizing s with
  | nil =>
    cases h
    exact .refl
  | cons e es ih =>
    unfold execute at h
    split at h
    · rename_i he
      exact .stepL ⟨he, rfl⟩ (ih h)
    · cases h

theorem exists_run (es : List Event) (s : State) (Q : State → Prop) [DecidablePred Q]
    (h : (P.execute es s).any (fun t => decide (Q t)) = true) :
    ∃ t, P.machine.Run s es t ∧ Q t := by
  obtain ⟨t, ht, hQ⟩ := (Option.any_eq_true _ _).mp h
  exact ⟨t, P.execute_run ht, of_decide_eq_true hQ⟩

/-- The events that also meet a condition. -/
def restrict (ok : State → Event → Prop) [∀ s e, Decidable (ok s e)] : Program State Event :=
  { P with enabled := fun s e => decide (ok s e) && P.enabled s e }

/-- To restrict a program is to restrict its machine. -/
theorem restrict_run (ok : State → Event → Prop) [∀ s e, Decidable (ok s e)] :
    (P.restrict ok).machine.Run s es t ↔ (P.machine.restrict ok).Run s es t := by
  have hstep : ∀ s e t,
      (P.restrict ok).machine.Step s e t ↔ (P.machine.restrict ok).Step s e t := by
    intro s e t
    simp [machine, restrict, Machine.restrict, and_assoc]
  constructor
  · intro h
    induction h with
    | refl => exact .refl
    | stepL hs _ ih => exact .stepL ((hstep _ _ _).mp hs) ih
  · intro h
    induction h with
    | refl => exact .refl
    | stepL hs _ ih => exact .stepL ((hstep _ _ _).mpr hs) ih

end Program

end NestWebTransport
