import NestWebTransport.Foundation.Tally
import Mathlib.Data.List.Nodup
import Mathlib.Algebra.BigOperators.Ring.Finset

/-! Lists that enumerate the entries of a table with a property. -/
namespace NestWebTransport

variable {α : Type*} {l : List Nat} {n w : Nat} {P : α → Prop} {f : Nat → α} {v : α}

/-- `l` lists, once each, the entries among the first `n` that satisfy `P`. -/
def Enumerates (l : List Nat) (n : Nat) (P : α → Prop) (f : Nat → α) : Prop :=
  l.Nodup ∧ ∀ i, i ∈ l ↔ i < n ∧ P (f i)

namespace Enumerates

theorem mem (h : Enumerates l n P f) (hw : w ∈ l) : w < n ∧ P (f w) := (h.2 w).mp hw

theorem head (h : Enumerates (w :: l) n P f) : w < n ∧ P (f w) := h.mem List.mem_cons_self

/-- The entry keeps, or keeps lacking, the property. -/
theorem keep (h : Enumerates l n P f) (hiff : P v ↔ P (f w)) :
    Enumerates l n P (Function.update f w v) := by
  refine ⟨h.1, fun i => ?_⟩
  rw [h.2 i]
  by_cases hi : i = w
  · subst hi
    simp [hiff]
  · simp [Function.update_of_ne hi]

/-- The entry gains the property. -/
theorem enter (h : Enumerates l n P f) (hw : w < n) (hold : ¬ P (f w)) (hnew : P v) :
    Enumerates (l ++ [w]) n P (Function.update f w v) := by
  have hmem : w ∉ l := fun hl => hold (h.mem hl).2
  refine ⟨by simpa [List.nodup_append] using ⟨h.1, fun a ha he => hmem (he ▸ ha)⟩, fun i => ?_⟩
  rw [List.mem_append, List.mem_singleton, h.2 i]
  by_cases hi : i = w
  · subst hi
    simp [hw, hnew]
  · simp [hi]

/-- The entry loses the property. -/
theorem erase (h : Enumerates l n P f) (hnew : ¬ P v) :
    Enumerates (l.erase w) n P (Function.update f w v) := by
  refine ⟨h.1.erase w, fun i => ?_⟩
  rw [h.1.mem_erase_iff, h.2 i]
  by_cases hi : i = w
  · subst hi
    simp [hnew]
  · simp [hi]

/-- The first entry listed loses the property. -/
theorem leave (h : Enumerates (w :: l) n P f) (hnew : ¬ P v) :
    Enumerates l n P (Function.update f w v) := by
  simpa using h.erase (w := w) hnew

/-- The next entry of the table has the property. -/
theorem push (h : Enumerates l n P f) (hnew : P v) :
    Enumerates (l ++ [n]) (n + 1) P (Function.update f n v) := by
  have hmem : n ∉ l := fun hl => Nat.lt_irrefl n (h.mem hl).1
  refine ⟨by simpa [List.nodup_append] using ⟨h.1, fun a ha he => hmem (he ▸ ha)⟩, fun i => ?_⟩
  rw [List.mem_append, List.mem_singleton, h.2 i]
  by_cases hi : i = n
  · subst hi
    simp [hnew]
  · simp only [Function.update_of_ne hi, hi, or_false]
    exact and_congr_left fun _ => by omega

/-- The next entry of the table lacks the property. -/
theorem skip (h : Enumerates l n P f) (hnew : ¬ P v) :
    Enumerates l (n + 1) P (Function.update f n v) := by
  refine ⟨h.1, fun i => ?_⟩
  rw [h.2 i]
  by_cases hi : i = n
  · subst hi
    simp [hnew]
  · simp only [Function.update_of_ne hi]
    exact and_congr_left fun _ => by omega

theorem nil (h : ∀ i < n, ¬ P (f i)) : Enumerates [] n P f :=
  ⟨List.nodup_nil, fun i => by simpa using h i⟩

theorem perm {l' : List Nat} (h : Enumerates l n P f) (hp : l.Perm l') : Enumerates l' n P f :=
  ⟨hp.nodup_iff.mp h.1, fun i => by rw [← hp.mem_iff, h.2 i]⟩

/-- The length of an enumeration is a total. -/
theorem length_eq_tally [DecidablePred P] (h : Enumerates l n P f) :
    (l.length : Int) = tally n (fun a => if P a then 1 else 0) f := by
  have hset : l.toFinset = (Finset.range n).filter fun i => P (f i) := by
    ext i
    simp [h.2 i]
  rw [tally, Finset.sum_boole, ← hset, List.toFinset_card_of_nodup h.1]

end Enumerates

end NestWebTransport
