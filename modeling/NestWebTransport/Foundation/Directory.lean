import Mathlib.Data.Finset.Card

/-! Finite keyed maps whose key set is part of the value. -/
namespace NestWebTransport

/-- A map with finitely many keys; the order in which they were set is not kept. -/
structure Directory (κ ν : Type*) where
  keys : Finset κ
  get : κ → Option ν
  mem_keys : ∀ k, k ∈ keys ↔ (get k).isSome

namespace Directory

variable {κ ν : Type*} (d : Directory κ ν) (k j : κ) (v : ν) (f : ν → Option ν)

def empty : Directory κ ν := ⟨∅, fun _ => none, by simp⟩

@[simp] theorem get_empty : (empty : Directory κ ν).get k = none := rfl

def size : Nat := d.keys.card

/-- Rewrite every value, deleting the keys for which `f` answers `none`. -/
def filterMap : Directory κ ν where
  keys := d.keys.filter fun j => ((d.get j).bind f).isSome
  get := fun j => (d.get j).bind f
  mem_keys j := by
    cases h : d.get j <;> simp [d.mem_keys, h]

@[simp] theorem get_filterMap : (d.filterMap f).get j = (d.get j).bind f := rfl

theorem size_filterMap_le : (d.filterMap f).size ≤ d.size := Finset.card_filter_le _ _

theorem mem_keys_filterMap : j ∈ (d.filterMap f).keys ↔ ((d.get j).bind f).isSome := by
  rw [mem_keys, get_filterMap]

variable [DecidableEq κ]

def set : Directory κ ν where
  keys := insert k d.keys
  get := Function.update d.get k (some v)
  mem_keys j := by by_cases h : j = k <;> simp [h, d.mem_keys]

def delete : Directory κ ν where
  keys := d.keys.erase k
  get := Function.update d.get k none
  mem_keys j := by by_cases h : j = k <;> simp [h, d.mem_keys]

@[simp] theorem get_set_self : (d.set k v).get k = some v := Function.update_self ..

theorem get_set_of_ne (h : j ≠ k) : (d.set k v).get j = d.get j := Function.update_of_ne h ..

@[simp] theorem get_delete_self : (d.delete k).get k = none := Function.update_self ..

theorem get_delete_of_ne (h : j ≠ k) : (d.delete k).get j = d.get j := Function.update_of_ne h ..

theorem size_set_le : (d.set k v).size ≤ d.size + 1 := Finset.card_insert_le _ _

theorem size_set_of_mem (h : (d.get k).isSome) : (d.set k v).size = d.size := by
  have hkeys : (d.set k v).keys = d.keys := Finset.insert_eq_of_mem ((d.mem_keys k).mpr h)
  rw [size, hkeys, size]

theorem size_delete_le : (d.delete k).size ≤ d.size := Finset.card_erase_le

end Directory

end NestWebTransport
