import Mathlib.Algebra.BigOperators.Group.Finset.Basic
import Mathlib.Algebra.Order.BigOperators.Group.Finset
import Mathlib.Algebra.Order.Ring.Int

/-! Integer totals over the first `n` entries of a table. -/
namespace NestWebTransport

variable {α : Type*} {n i : Nat} {g h : α → Int} {f f' : Nat → α} {v : α}

/-- The total of the measure `g` over the entries `f 0, …, f (n - 1)`. -/
def tally (n : Nat) (g : α → Int) (f : Nat → α) : Int := ∑ i ∈ Finset.range n, g (f i)

@[simp] theorem tally_zero : tally 0 g f = 0 := rfl

theorem tally_congr (hf : ∀ i < n, g (f i) = h (f' i)) : tally n g f = tally n h f' :=
  Finset.sum_congr rfl fun i hi => hf i (Finset.mem_range.mp hi)

theorem tally_mono (hf : ∀ i < n, g (f i) ≤ h (f' i)) : tally n g f ≤ tally n h f' :=
  Finset.sum_le_sum fun i hi => hf i (Finset.mem_range.mp hi)

theorem tally_nonneg (hf : ∀ i < n, 0 ≤ g (f i)) : 0 ≤ tally n g f :=
  Finset.sum_nonneg fun i hi => hf i (Finset.mem_range.mp hi)

theorem tally_add : tally n (fun a => g a + h a) f = tally n g f + tally n h f :=
  Finset.sum_add_distrib

/-- Replacing one entry changes the total by the difference of its measures. -/
theorem tally_update (hi : i < n) :
    tally n g (Function.update f i v) = tally n g f - g (f i) + g v := by
  have hmem : i ∈ Finset.range n := Finset.mem_range.mpr hi
  have hrest : ∑ j ∈ (Finset.range n).erase i, g (Function.update f i v j) =
      ∑ j ∈ (Finset.range n).erase i, g (f j) :=
    Finset.sum_congr rfl fun j hj => by rw [Function.update_of_ne (Finset.ne_of_mem_erase hj)]
  have hnew := Finset.sum_erase_add (Finset.range n) (fun j => g (Function.update f i v j)) hmem
  have hold := Finset.sum_erase_add (Finset.range n) (fun j => g (f j)) hmem
  simp only [Function.update_self] at hnew
  simp only [tally]
  omega

theorem tally_update_of_le (hi : n ≤ i) : tally n g (Function.update f i v) = tally n g f :=
  tally_congr fun j hj => by rw [Function.update_of_ne (by omega)]

/-- Allocating the next entry adds its measure. -/
theorem tally_push : tally (n + 1) g (Function.update f n v) = tally n g f + g v := by
  simp only [tally, Finset.sum_range_succ, Function.update_self]
  have := tally_update_of_le (g := g) (f := f) (v := v) (Nat.le_refl n)
  simp only [tally] at this
  omega

/-- One entry is at most the total of a nonnegative measure. -/
theorem le_tally (hi : i < n) (hf : ∀ j < n, 0 ≤ g (f j)) : g (f i) ≤ tally n g f :=
  Finset.single_le_sum (f := fun j => g (f j)) (fun j hj => hf j (Finset.mem_range.mp hj))
    (Finset.mem_range.mpr hi)

theorem tally_eq_zero_iff (hf : ∀ j < n, 0 ≤ g (f j)) :
    tally n g f = 0 ↔ ∀ j < n, g (f j) = 0 := by
  simp only [tally]
  rw [Finset.sum_eq_zero_iff_of_nonneg fun j hj => hf j (Finset.mem_range.mp hj)]
  simp

/-- A measure of ones and zeros counts the entries where it is one. -/
theorem tally_count {p : α → Bool} (hg : ∀ i < n, g (f i) = if p (f i) then 1 else 0) :
    tally n g f = ((List.range n).countP fun i => p (f i) : Nat) := by
  induction n with
  | zero => rfl
  | succ n ih =>
    have hlast := hg n (Nat.lt_succ_self n)
    have hinit := ih fun i hi => hg i (Nat.lt_succ_of_lt hi)
    simp only [tally] at hinit ⊢
    rw [Finset.sum_range_succ, hinit, hlast, List.range_succ, List.countP_append,
      List.countP_singleton]
    split <;> simp

end NestWebTransport
