import Mathlib.Data.List.Nodup

/-! Requests that await their answers, each known by its id. -/
namespace NestWebTransport

/-- `settled` holds the answers in the order they were given. -/
structure RequestTable (ρ : Type*) where
  pending : List Nat
  settled : List (Nat × ρ)

namespace RequestTable

variable {ρ : Type*} (t : RequestTable ρ) (id : Nat) (answer : ρ)

def new : RequestTable ρ := ⟨[], []⟩

def issue : RequestTable ρ := { t with pending := t.pending ++ [id] }

/-- An answer to a request that does not wait is lost. -/
def settle : RequestTable ρ :=
  if id ∈ t.pending then ⟨t.pending.erase id, t.settled ++ [(id, answer)]⟩ else t

def settleAll : RequestTable ρ := ⟨[], t.settled ++ t.pending.map (·, answer)⟩

/-- The requests that were ever issued, in some order. -/
def ids : List Nat := t.pending ++ t.settled.map Prod.fst

variable {t id answer}

theorem ids_issue : (t.issue id).ids.Perm (t.ids ++ [id]) := by
  unfold issue ids
  rw [List.append_assoc, List.append_assoc]
  exact List.perm_append_comm.append_left _

theorem ids_settle : (t.settle id answer).ids.Perm t.ids := by
  unfold settle
  split
  · rename_i hmem
    unfold ids
    rw [List.map_append, List.map_singleton, ← List.append_assoc]
    have hfront : (t.pending.erase id ++ t.settled.map Prod.fst ++ [id]).Perm
        (id :: t.pending.erase id ++ t.settled.map Prod.fst) := List.perm_append_singleton _ _
    exact hfront.trans ((List.perm_cons_erase hmem).symm.append_right _)
  · exact List.Perm.refl _

theorem ids_settleAll : (t.settleAll answer).ids.Perm t.ids := by
  unfold settleAll ids
  rw [List.map_append, List.map_map, List.nil_append]
  have hfst : t.pending.map (Prod.fst ∘ fun j => (j, answer)) = t.pending := List.map_id _
  rw [hfst]
  exact List.perm_append_comm

theorem settled_prefix_settle : t.settled <+: (t.settle id answer).settled := by
  unfold settle
  split
  · exact List.prefix_append _ _
  · exact List.prefix_refl _

theorem mem_settle {x : Nat × ρ} (h : x ∈ (t.settle id answer).settled) :
    x ∈ t.settled ∨ x = (id, answer) := by
  unfold settle at h
  split at h
  · rcases List.mem_append.mp h with hold | hnew
    · exact .inl hold
    · exact .inr (List.mem_singleton.mp hnew)
  · exact .inl h

theorem mem_settleAll {x : Nat × ρ} (h : x ∈ (t.settleAll answer).settled) :
    x ∈ t.settled ∨ x.2 = answer := by
  rcases List.mem_append.mp h with hold | hnew
  · exact .inl hold
  · obtain ⟨j, -, rfl⟩ := List.mem_map.mp hnew
    exact .inr rfl

/-- Distinct requests are settled at most once, and just those that wait are not. -/
theorem count_settled (h : t.ids.Nodup) {j : Nat} (hj : j ∈ t.ids) :
    (t.settled.map Prod.fst).count j = if j ∈ t.pending then 0 else 1 := by
  unfold ids at h hj
  rw [List.nodup_append] at h
  obtain ⟨-, hsettled, hapart⟩ := h
  split
  · rename_i hpending
    apply List.count_eq_zero_of_not_mem
    intro hmem
    exact hapart j hpending j hmem rfl
  · rename_i hpending
    rcases List.mem_append.mp hj with hmem | hmem
    · exact absurd hmem hpending
    · exact List.count_eq_one_of_mem hsettled hmem

end RequestTable

end NestWebTransport
