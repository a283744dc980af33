import NestWebTransport.Foundation.DepthFirst

/-! Which module an enhancer class is resolved in, when its gateway's module does not provide it. -/
namespace NestWebTransport

/-- The modules of an application, with the sets the container keeps for each. A module is imported
by reference and exported by the token of its class. -/
structure ModuleGraph (Module Token : Type) where
  providers : Module → Token → Bool
  injectables : Module → Token → Bool
  exports : Module → Token → Bool
  imports : Module → List Module
  metatype : Module → Token

namespace ModuleGraph

variable {Module Token : Type} [DecidableEq Module] (graph : ModuleGraph Module Token)
  (host : Module) (token : Token)

/-- `candidate.exports.has(token) && candidate.providers.has(token)`. -/
def offers (candidate : Module) : Bool :=
  graph.exports candidate token && graph.providers candidate token

omit [DecidableEq Module] in
theorem offers_iff {candidate : Module} : graph.offers token candidate = true ↔
    graph.exports candidate token = true ∧ graph.providers candidate token = true := by
  rw [offers, Bool.and_eq_true]

/-- The imports `findExported` does not skip: those the candidate exports again. -/
def reexports (candidate : Module) : List Module :=
  (graph.imports candidate).filter fun imported => graph.exports candidate (graph.metatype imported)

omit [DecidableEq Module] in
theorem mem_reexports {candidate imported : Module} : imported ∈ graph.reexports candidate ↔
    imported ∈ graph.imports candidate ∧
      graph.exports candidate (graph.metatype imported) = true := by
  rw [reexports, List.mem_filter]

/-- One set of visited modules serves the search from every import. `fuel` bounds the depth of the
recursion. -/
def findVisibleProviderHost (fuel : Nat) : Option (Option Module) :=
  if graph.providers host token || graph.injectables host token then some (some host)
  else DepthFirst.search graph.reexports (graph.offers token) fuel (graph.imports host)

/-- A chain starts at a direct import of the host, and each module on it exports the next one
again. -/
def Chain (chain : List Module) (last : Module) : Prop :=
  DepthFirst.Leads graph.reexports (graph.imports host) chain last

omit [DecidableEq Module] in
/-- A chain in the terms of the container: an import of the host comes first, each module imports
and exports the next, and the last is the one reached. -/
theorem chain_iff {chain : List Module} {last : Module} : graph.Chain host chain last ↔
    (∃ first ∈ graph.imports host, chain.head? = some first) ∧
    chain.IsChain (fun candidate imported => imported ∈ graph.imports candidate ∧
      graph.exports candidate (graph.metatype imported) = true) ∧
    chain.getLast? = some last := by
  have hlinks : DepthFirst.IsChain graph.reexports chain ↔ chain.IsChain fun candidate imported =>
      imported ∈ graph.imports candidate ∧
        graph.exports candidate (graph.metatype imported) = true := by
    unfold DepthFirst.IsChain
    simp only [mem_reexports]
  exact ⟨fun h => ⟨h.start, hlinks.mp h.chain, h.last⟩, fun h => ⟨h.1, hlinks.mpr h.2.1, h.2.2⟩⟩

/-- Where the chains that meet no module twice end, in depth-first order of the imports. -/
def importOrder [Fintype Module] : List Module :=
  (graph.imports host).flatMap (DepthFirst.allEnds graph.reexports)

/-- The search ends however the imports run in circles, and finds the first module in import order
that offers the token. -/
theorem visible_provider_found [Fintype Module] : ∃ found,
    (∀ fuel, Fintype.card Module < fuel →
      graph.findVisibleProviderHost host token fuel = some found) ∧
    ((graph.providers host token || graph.injectables host token) = true → found = some host) ∧
    ((graph.providers host token || graph.injectables host token) = false →
      (∀ m, found = some m → graph.offers token m = true ∧ ∃ chain, graph.Chain host chain m) ∧
      ((∃ m, found = some m) ↔ ∃ m chain, graph.offers token m = true ∧ graph.Chain host chain m) ∧
      found = (graph.importOrder host).find? (graph.offers token)) := by
  cases hown : graph.providers host token || graph.injectables host token with
  | true => exact ⟨some host, fun _ _ => if_pos hown, fun _ => rfl, fun h => by cases h⟩
  | false =>
    have hsearch := fun fuel (hfuel : Fintype.card Module < fuel) => DepthFirst.search_spec
      graph.reexports (graph.offers token) (graph.imports host) hfuel
    have hsound : ∀ m, (graph.importOrder host).find? (graph.offers token) = some m →
        graph.offers token m = true ∧ ∃ chain, graph.Chain host chain m := fun m hm =>
      ⟨List.find?_some hm, DepthFirst.leads_of_mem (List.mem_of_find?_eq_some hm)⟩
    refine ⟨(graph.importOrder host).find? (graph.offers token), fun fuel hfuel => ?_,
      fun h => (by cases h), fun _ => ⟨hsound, ⟨?_, ?_⟩, rfl⟩⟩
    · rw [findVisibleProviderHost, hown]
      exact (hsearch fuel hfuel).1
    · rintro ⟨m, hm⟩
      exact ⟨m, (hsound m hm).2.imp fun _ hchain => ⟨(hsound m hm).1, hchain⟩⟩
    · rintro ⟨m, chain, hoffers, hchain⟩
      cases hfound : (graph.importOrder host).find? (graph.offers token) with
      | some m' => exact ⟨m', rfl⟩
      | none =>
        have hno := (hsearch _ (Nat.lt_succ_self _)).2 hfound chain m hchain
        rw [hoffers] at hno
        cases hno

end ModuleGraph

end NestWebTransport
