import Mathlib.Logic.Function.Basic

/-! Tables whose first `n` entries are in use, and which of them have a property. -/
namespace NestWebTransport

variable {α : Type*} {f : Nat → α} {P : α → Prop} {v : α} {n j : Nat}

/-- The next entry comes into use. -/
theorem table_push_iff (i : Nat) :
    (i < n + 1 ∧ P (Function.update f n v i)) ↔ (i < n ∧ P (f i)) ∨ (i = n ∧ P v) := by
  by_cases hi : i = n
  · subst hi
    simp
  · rw [Function.update_of_ne hi]
    constructor
    · rintro ⟨hlt, hP⟩
      exact Or.inl ⟨by omega, hP⟩
    · rintro (⟨hlt, hP⟩ | ⟨he, -⟩)
      · exact ⟨by omega, hP⟩
      · exact absurd he hi

/-- One entry in use changes and the rest stay as they are. -/
theorem table_move_iff (hj : j < n) (i : Nat) :
    (i < n ∧ P (Function.update f j v i)) ↔ (i ≠ j ∧ i < n ∧ P (f i)) ∨ (i = j ∧ P v) := by
  by_cases hi : i = j
  · subst hi
    simp [hj]
  · simp [hi]

/-- A change that leaves the property of its entry alone leaves it alone everywhere. -/
theorem table_keep_iff (h : P v ↔ P (f j)) (i : Nat) :
    (i < n ∧ P (Function.update f j v i)) ↔ (i < n ∧ P (f i)) := by
  by_cases hi : i = j
  · subst hi
    rw [Function.update_self, h]
  · rw [Function.update_of_ne hi]

/-- The next entry comes into use without the property. -/
theorem table_push_not_iff (h : ¬ P v) (i : Nat) :
    (i < n + 1 ∧ P (Function.update f n v i)) ↔ (i < n ∧ P (f i)) := by
  rw [table_push_iff]
  simp [h]

end NestWebTransport
