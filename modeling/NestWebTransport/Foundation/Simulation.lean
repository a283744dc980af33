import NestWebTransport.Foundation.Program

/-! Machines that run inside other machines. -/
namespace NestWebTransport

namespace Machine

variable {State Event Inner Move : Type*} {M : Machine State Event} {N : Machine Inner Move}
  {f : State → Inner} {s t : State} {es : List Event} {allows : Event → Move → Prop}

/-- Under the map each step of `M` is a run of `N`, whose moves the event allows. -/
def Simulates (M : Machine State Event) (N : Machine Inner Move) (f : State → Inner)
    (allows : Event → Move → Prop) : Prop :=
  ∀ s e t, M.Step s e t → ∃ ms, N.Run (f s) ms (f t) ∧ ∀ m ∈ ms, allows e m

/-- The simulating runs are chained along a run. -/
theorem Simulates.run (hm : M.Simulates N f allows) (h : M.Run s es t) :
    ∃ ms, N.Run (f s) ms (f t) ∧ ∀ m ∈ ms, ∃ e ∈ es, allows e m := by
  induction h with
  | refl => exact ⟨[], .refl, fun m hmem => absurd hmem List.not_mem_nil⟩
  | @stepL s u t e es hst _ ih =>
    obtain ⟨first, hfirst, hallows⟩ := hm _ _ _ hst
    obtain ⟨rest, hrest, hothers⟩ := ih
    refine ⟨first ++ rest, hfirst.append hrest, fun m hmem => ?_⟩
    rcases List.mem_append.mp hmem with hmem | hmem
    · exact ⟨e, List.mem_cons_self, hallows m hmem⟩
    · obtain ⟨e, he, hm⟩ := hothers m hmem
      exact ⟨e, List.mem_cons_of_mem _ he, hm⟩

theorem Simulates.reachable (hm : M.Simulates N f allows)
    (hinit : ∀ s, M.Initial s → N.Initial (f s))
    (h : M.Reachable s) : N.Reachable (f s) := by
  obtain ⟨s₀, es, h₀, hrun⟩ := h
  obtain ⟨ms, hinner, -⟩ := hm.run hrun
  exact ⟨f s₀, ms, hinit s₀ h₀, hinner⟩

end Machine

namespace Program

variable {State Event Inner Move : Type*}

/-- A map of one program's states and events to another's; an event may be none of the other's. -/
structure Projection (P : Program State Event) (Q : Program Inner Move) where
  state : State → Inner
  event : State → Event → Option Move
  initial : state P.initial = Q.initial
  enabled : ∀ s e m, P.enabled s e = true → event s e = some m → Q.enabled (state s) m = true
  next : ∀ s e, P.enabled s e = true →
    state (P.next s e) = (event s e).elim (state s) (Q.next (state s))

variable {P : Program State Event} {Q : Program Inner Move}

/-- A projection is a simulation by single steps and none. -/
theorem Projection.simulates (p : P.Projection Q) :
    P.machine.Simulates Q.machine p.state fun e m => ∃ s, p.event s e = some m := by
  rintro s e t ⟨he, rfl⟩
  have hnext := p.next s e he
  cases hevent : p.event s e with
  | none =>
    rw [hevent] at hnext
    refine ⟨[], ?_, fun m hmem => absurd hmem List.not_mem_nil⟩
    rw [show p.state (P.next s e) = p.state s from hnext]
    exact .refl
  | some m =>
    rw [hevent] at hnext
    refine ⟨[m], .single ⟨p.enabled s e m he hevent, hnext⟩, fun n hmem => ?_⟩
    rw [List.mem_singleton.mp hmem]
    exact ⟨s, hevent⟩

theorem Projection.reachable (p : P.Projection Q) {s : State} (h : P.machine.Reachable s) :
    Q.machine.Reachable (p.state s) := by
  refine p.simulates.reachable ?_ h
  rintro _ rfl
  exact p.initial

end Program

end NestWebTransport
