import NestWebTransport.Foundation.Machine

/-! Steps a machine takes on its own, until it comes to rest. -/
namespace NestWebTransport

namespace Machine

variable {State Event : Type*} {M : Machine State Event} {s t : State} {es : List Event}
  {own : Event → Prop} {I : State → Prop} {load : State → Nat}

/-- No step of the machine's own can be taken. -/
def AtRest (M : Machine State Event) (own : Event → Prop) (s : State) : Prop :=
  ∀ e t, own e → ¬ M.Step s e t

/-- Each step of the machine's own keeps the invariant and leaves less to do. -/
def Unloads (M : Machine State Event) (own : Event → Prop) (I : State → Prop)
    (load : State → Nat) : Prop :=
  ∀ s e t, M.Step s e t → I s → own e → I t ∧ load t < load s

theorem Unloads.length_add_load_le (hm : M.Unloads own I load) (h : M.Run s es t)
    (hown : ∀ e ∈ es, own e) (hs : I s) : es.length + load t ≤ load s := by
  induction h with
  | refl => exact Nat.le_of_eq (Nat.zero_add _)
  | stepL hst _ ih =>
    obtain ⟨hu, hless⟩ := hm _ _ _ hst hs (hown _ List.mem_cons_self)
    have hrest := ih (fun e he => hown e (List.mem_cons_of_mem _ he)) hu
    rw [List.length_cons]
    omega

/-- Left to itself, the machine comes to rest. -/
theorem Unloads.exists_rest (hm : M.Unloads own I load) (hs : I s) :
    ∃ es t, M.Run s es t ∧ (∀ e ∈ es, own e) ∧ M.AtRest own t := by
  induction hn : load s using Nat.strongRecOn generalizing s with
  | ind n ih =>
    by_cases hrest : M.AtRest own s
    · exact ⟨[], s, .refl, fun e he => absurd he List.not_mem_nil, hrest⟩
    · unfold AtRest at hrest
      push Not at hrest
      obtain ⟨e, u, howns, hst⟩ := hrest
      obtain ⟨hu, hless⟩ := hm _ _ _ hst hs howns
      obtain ⟨es, t, hrun, hes, ht⟩ := ih (load u) (hn ▸ hless) hu rfl
      exact ⟨e :: es, t, .stepL hst hrun, List.forall_mem_cons.mpr ⟨howns, hes⟩, ht⟩

end Machine

end NestWebTransport
