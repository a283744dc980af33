import Mathlib.Data.List.Perm.Basic

/-! Values that arrive one after another, and are handed on, kept in store or lost. -/
namespace NestWebTransport

variable {α : Type*} {arrived handed stored lost lost' rest : List α} {a : α}

/-- Every value that arrived is one of handed on, stored and lost, and what is handed on or stored
is in the order of arrival. -/
structure Conserves (arrived handed stored lost : List α) : Prop where
  accounted : arrived.Perm (handed ++ stored ++ lost)
  ordered : (handed ++ stored).Sublist arrived

namespace Conserves

theorem nil : Conserves (α := α) [] [] [] [] := ⟨.refl _, .refl _⟩

theorem congr (h : Conserves arrived handed stored lost) (hlost : lost.Perm lost') :
    Conserves arrived handed stored lost' :=
  ⟨h.accounted.trans (hlost.append_left _), h.ordered⟩

theorem store (h : Conserves arrived handed stored lost) (a : α) :
    Conserves (arrived ++ [a]) handed (stored ++ [a]) lost where
  accounted := by
    refine (h.accounted.append_right _).trans ?_
    rw [← List.append_assoc, List.append_assoc _ lost, List.append_assoc _ [a]]
    exact List.perm_append_comm.append_left _
  ordered := by
    rw [← List.append_assoc]
    exact h.ordered.append (.refl _)

/-- A value goes past the store only while nothing is in it. -/
theorem handDirectly (h : Conserves arrived handed [] lost) (a : α) :
    Conserves (arrived ++ [a]) (handed ++ [a]) [] lost := by
  have hstored := h.store a
  refine ⟨?_, ?_⟩
  · rw [List.append_nil]
    exact hstored.accounted
  · rw [List.append_nil]
    exact hstored.ordered

theorem handFirst (h : Conserves arrived handed (a :: rest) lost) :
    Conserves arrived (handed ++ [a]) rest lost := by
  have hassoc : (handed ++ [a]) ++ rest = handed ++ a :: rest := List.append_assoc ..
  refine ⟨?_, ?_⟩
  · rw [hassoc]
    exact h.accounted
  · rw [hassoc]
    exact h.ordered

theorem lose (h : Conserves arrived handed stored lost) (a : α) :
    Conserves (arrived ++ [a]) handed stored (lost ++ [a]) where
  accounted := by
    rw [← List.append_assoc]
    exact h.accounted.append_right _
  ordered := h.ordered.trans (List.sublist_append_left ..)

theorem loseFirst (h : Conserves arrived handed (a :: rest) lost) :
    Conserves arrived handed rest (lost ++ [a]) where
  accounted := by
    refine h.accounted.trans ?_
    rw [← List.append_assoc]
    refine (List.Perm.append_right lost List.perm_middle).trans ?_
    exact (List.perm_append_singleton _ _).symm
  ordered := ((List.sublist_cons_self ..).append_left _).trans h.ordered

theorem loseAll (h : Conserves arrived handed stored lost) :
    Conserves arrived handed [] (lost ++ stored) where
  accounted := by
    refine h.accounted.trans ?_
    rw [List.append_nil, List.append_assoc]
    exact List.perm_append_comm.append_left _
  ordered := by
    rw [List.append_nil]
    exact (List.sublist_append_left ..).trans h.ordered

end Conserves

end NestWebTransport
