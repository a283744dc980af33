import Mathlib.Data.Fintype.Card
import Mathlib.Data.List.Chain

/-! Depth-first search for a goal with one set of marks, beside the chains it need not follow. -/
namespace NestWebTransport

namespace DepthFirst

variable {V : Type*} [DecidableEq V] (next : V → List V) (goal : V → Bool)

/-- Visit the vertices of a list in turn, until a goal is found. -/
def visitAll (visit : V → List V → Option (Option V × List V)) :
    List V → List V → Option (Option V × List V)
  | [], visited => some (none, visited)
  | v :: rest, visited =>
    match visit v visited with
    | none => none
    | some (some m, visited) => some (some m, visited)
    | some (none, visited) => visitAll visit rest visited

/-- Mark a vertex that has no mark, and visit what follows it unless it is a goal. -/
def visit : Nat → V → List V → Option (Option V × List V)
  | 0, _, _ => none
  | fuel + 1, v, visited =>
    if v ∈ visited then some (none, visited)
    else if goal v then some (some v, v :: visited)
    else visitAll (visit fuel) (next v) (v :: visited)

/-- Search from each start in turn, with the marks of one search kept for the next. -/
def search (fuel : Nat) (starts : List V) : Option (Option V) :=
  (visitAll (visit next goal fuel) starts []).map Prod.fst

/-- The chains from a vertex that meet no vertex twice and none of a path, in depth-first order. -/
def chains : Nat → List V → V → List (List V)
  | 0, _, _ => []
  | fuel + 1, path, v =>
    if v ∈ path then []
    else [v] :: (next v).flatMap fun w => (chains fuel (v :: path) w).map (v :: ·)

/-- Where those chains end. -/
def ends (fuel : Nat) (path : List V) (v : V) : List V :=
  (chains next fuel path v).filterMap List.getLast?

/-- A chain leads from each vertex to one that follows it. -/
def IsChain (c : List V) : Prop := c.IsChain fun v w => w ∈ next v

variable {next goal} {fuel : Nat} {path done visited c : List V} {v w m : V}

/-! ### Chains -/

theorem chains_of_mem (h : v ∈ path) : chains next fuel path v = [] := by
  cases fuel with
  | zero => rfl
  | succ fuel => exact if_pos h

theorem ends_of_mem (h : v ∈ path) : ends next fuel path v = [] := by
  rw [ends, chains_of_mem h, List.filterMap_nil]

theorem getLast_cons_chain (h : c ∈ chains next fuel path w) : (v :: c).getLast? = c.getLast? := by
  cases fuel with
  | zero => cases h
  | succ fuel =>
    cases c with
    | nil =>
      unfold chains at h
      split at h
      · cases h
      · simp at h
    | cons w c => exact List.getLast?_cons_cons

theorem chains_succ (h : v ∉ path) : chains next (fuel + 1) path v =
    [v] :: (next v).flatMap fun w => (chains next fuel (v :: path) w).map (v :: ·) := if_neg h

theorem ends_succ (h : v ∉ path) : ends next (fuel + 1) path v =
    v :: (next v).flatMap (ends next fuel (v :: path)) := by
  have hmap : ∀ w, ((chains next fuel (v :: path) w).map (v :: ·)).filterMap List.getLast? =
      ends next fuel (v :: path) w := by
    intro w
    rw [List.filterMap_map]
    exact List.filterMap_congr fun c hc => getLast_cons_chain hc
  rw [ends, chains_succ h, List.filterMap_cons_some List.getLast?_singleton, List.filterMap_flatMap]
  simp only [hmap]

/-- The chains that are listed are chains from the vertex, and meet no vertex twice. -/
theorem isChain_of_mem (h : c ∈ chains next fuel path v) :
    c.head? = some v ∧ IsChain next c ∧ c.Nodup ∧ ∀ x ∈ c, x ∉ path := by
  induction fuel generalizing path v c with
  | zero => cases h
  | succ fuel ih =>
    by_cases hv : v ∈ path
    · rw [chains_of_mem hv] at h
      cases h
    rw [chains_succ hv] at h
    rcases List.mem_cons.mp h with rfl | h
    · exact ⟨rfl, List.isChain_singleton _, List.nodup_singleton _, by simpa using hv⟩
    obtain ⟨w, hw, hmap⟩ := List.mem_flatMap.mp h
    obtain ⟨rest, hrest, rfl⟩ := List.mem_map.mp hmap
    obtain ⟨hhead, hchain, hnodup, hpath⟩ := ih hrest
    refine ⟨rfl, List.isChain_cons.mpr ⟨fun x hx => ?_, hchain⟩,
      List.nodup_cons.mpr ⟨fun hv' => hpath v hv' List.mem_cons_self, hnodup⟩, fun x hx => ?_⟩
    · rw [hhead] at hx
      cases hx
      exact hw
    · rcases List.mem_cons.mp hx with rfl | hx
      · exact hv
      · exact fun hp => hpath x hx (List.mem_cons_of_mem _ hp)

/-- With a step for every vertex no chain is left out. -/
theorem mem_chains (hlength : c.length ≤ fuel) (hhead : c.head? = some v) (hchain : IsChain next c)
    (hnodup : c.Nodup) (hpath : ∀ x ∈ c, x ∉ path) : c ∈ chains next fuel path v := by
  induction fuel generalizing path v c with
  | zero =>
    cases List.length_eq_zero_iff.mp (Nat.le_zero.mp hlength)
    cases hhead
  | succ fuel ih =>
    cases c with
    | nil => cases hhead
    | cons x c =>
      cases hhead
      rw [chains_succ (hpath v List.mem_cons_self)]
      cases c with
      | nil => exact List.mem_cons_self
      | cons w c =>
        refine List.mem_cons_of_mem _
          (List.mem_flatMap.mpr ⟨w, ?_, List.mem_map.mpr ⟨w :: c, ?_, rfl⟩⟩)
        · exact (List.isChain_cons_cons.mp hchain).1
        · obtain ⟨hv, hrest⟩ := List.nodup_cons.mp hnodup
          refine ih (Nat.le_of_succ_le_succ hlength) rfl (List.isChain_cons_cons.mp hchain).2
            hrest ?_
          intro x hx hp
          rcases List.mem_cons.mp hp with rfl | hp
          · exact hv hx
          · exact hpath x (List.mem_cons_of_mem _ hx) hp

/-! ### Marks -/

/-- Every vertex that is done is no goal, and what follows it is done or still on the path. -/
def Settled (next : V → List V) (goal : V → Bool) (path done : List V) : Prop :=
  ∀ d ∈ done, goal d = false ∧ ∀ w ∈ next d, w ∈ done ∨ w ∈ path

/-- A chain that enters what is done leaves it through the path only. -/
theorem Settled.ends_no_goal (h : Settled next goal path done) {path' : List V}
    (hpath : path ⊆ path') (hv : v ∈ done) : ∀ m ∈ ends next fuel path' v, goal m = false := by
  induction fuel generalizing path' v with
  | zero =>
    intro m hm
    cases hm
  | succ fuel ih =>
    intro m hm
    by_cases hmem : v ∈ path'
    · rw [ends_of_mem hmem] at hm
      cases hm
    rw [ends_succ hmem] at hm
    rcases List.mem_cons.mp hm with rfl | hm
    · exact (h m hv).1
    obtain ⟨w, hw, hm⟩ := List.mem_flatMap.mp hm
    rcases (h v hv).2 w hw with hdone | hp
    · exact ih (fun x hx => List.mem_cons_of_mem _ (hpath hx)) hdone m hm
    · rw [ends_of_mem (List.mem_cons_of_mem _ (hpath hp))] at hm
      cases hm

omit [DecidableEq V] in
/-- What is settled with nothing on the path is closed under chains. -/
theorem Settled.mem_of_isChain (h : Settled next goal [] done) (hchain : IsChain next c)
    (hhead : ∀ v ∈ c.head?, v ∈ done) : ∀ x ∈ c, x ∈ done := by
  induction c with
  | nil =>
    intro x hx
    cases hx
  | cons v c ih =>
    have hv := hhead v rfl
    obtain ⟨hnext, hrest⟩ := List.isChain_cons.mp hchain
    intro x hx
    rcases List.mem_cons.mp hx with rfl | hx
    · exact hv
    · refine ih hrest (fun w hw => ?_) x hx
      exact ((h v hv).2 w (hnext w hw)).resolve_right (List.not_mem_nil)

/-- A search finds the first goal of a list, or marks what it was to cover and settles it. -/
structure Covers (next : V → List V) (goal : V → Bool) (path done expected covered : List V)
    (r : Option V × List V) : Prop where
  found : r.1 = expected.find? goal
  settled : r.1 = none → ∃ done', done ⊆ done' ∧ Settled next goal path done' ∧
    (∀ x, x ∈ r.2 ↔ x ∈ path ∨ x ∈ done') ∧ ∀ v ∈ covered, v ∈ path ∨ v ∈ done'

variable [Fintype V]

/-- How many vertices have no mark. -/
def unmarked (visited : List V) : Nat := (Finset.univ.filter (· ∉ visited)).card

theorem unmarked_le {visited' : List V} (h : visited ⊆ visited') :
    unmarked visited' ≤ unmarked visited := by
  refine Finset.card_le_card fun x hx => ?_
  rw [Finset.mem_filter] at hx ⊢
  exact ⟨hx.1, fun hmem => hx.2 (h hmem)⟩

theorem unmarked_cons (h : v ∉ visited) : unmarked (v :: visited) < unmarked visited := by
  have hsub : Finset.univ.filter (· ∉ v :: visited) ⊆ Finset.univ.filter (· ∉ visited) := by
    intro x hx
    rw [Finset.mem_filter] at hx ⊢
    exact ⟨hx.1, fun hmem => hx.2 (List.mem_cons_of_mem _ hmem)⟩
  refine Finset.card_lt_card ((Finset.ssubset_iff_of_subset hsub).mpr ⟨v, ?_, ?_⟩)
  · simpa using h
  · simp

/-- What one visit covers, a list of visits covers in turn. -/
theorem visitAll_covers {visit : V → List V → Option (Option V × List V)} {bound : Nat}
    {order : V → List V}
    (hvisit : ∀ v done visited, Settled next goal path done →
      (∀ x, x ∈ visited ↔ x ∈ path ∨ x ∈ done) → unmarked visited < bound →
      ∃ r, visit v visited = some r ∧ Covers next goal path done (order v) [v] r)
    (vs : List V) (hsettled : Settled next goal path done)
    (hvisited : ∀ x, x ∈ visited ↔ x ∈ path ∨ x ∈ done) (hbound : unmarked visited < bound) :
    ∃ r, visitAll visit vs visited = some r ∧
      Covers next goal path done (vs.flatMap order) vs r := by
  induction vs generalizing done visited with
  | nil =>
    exact ⟨_, rfl, rfl, fun _ => ⟨done, fun _ h => h, hsettled, hvisited, fun _ h => by cases h⟩⟩
  | cons v vs ih =>
    obtain ⟨⟨found, visited'⟩, hr, hcovers⟩ := hvisit v done visited hsettled hvisited hbound
    rw [visitAll, hr]
    cases found with
    | some m =>
      refine ⟨_, rfl, ?_, fun h => by cases h⟩
      rw [List.flatMap_cons, List.find?_append, ← hcovers.found]
      rfl
    | none =>
      obtain ⟨done', hsub, hsettled', hvisited', hv⟩ := hcovers.settled rfl
      have hmarks : visited ⊆ visited' := fun x hx =>
        (hvisited' x).mpr (((hvisited x).mp hx).imp_right (@hsub x))
      obtain ⟨r, hrest, hcovers'⟩ :=
        ih hsettled' hvisited' ((unmarked_le hmarks).trans_lt hbound)
      refine ⟨r, hrest, ?_, fun h => ?_⟩
      · rw [List.flatMap_cons, List.find?_append, ← hcovers.found, hcovers'.found]
        rfl
      · obtain ⟨done'', hsub', hdone, hmem, hcov⟩ := hcovers'.settled h
        refine ⟨done'', fun x hx => hsub' (hsub hx), hdone, hmem, fun w hw => ?_⟩
        rcases List.mem_cons.mp hw with rfl | hw
        · exact (hv w List.mem_cons_self).imp_right (@hsub' w)
        · exact hcov w hw

/-- A vertex marked before adds nothing; any other is searched with itself on the path. -/
theorem visit_covers (fuel : Nat) (v : V) (hsettled : Settled next goal path done)
    (hvisited : ∀ x, x ∈ visited ↔ x ∈ path ∨ x ∈ done) (hfuel : unmarked visited < fuel) :
    ∃ r, visit next goal fuel v visited = some r ∧
      Covers next goal path done (ends next fuel path v) [v] r := by
  induction fuel generalizing path done visited v with
  | zero => cases hfuel
  | succ fuel ih =>
    by_cases hmark : v ∈ visited
    · refine ⟨(none, visited), if_pos hmark, ?_,
        fun _ => ⟨done, fun _ h => h, hsettled, hvisited, ?_⟩⟩
      · refine (List.find?_eq_none.mpr fun m hm => ?_).symm
        rcases (hvisited v).mp hmark with hpath | hdone
        · rw [ends_of_mem hpath] at hm
          cases hm
        · simp [hsettled.ends_no_goal (fun _ h => h) hdone m hm]
      · intro w hw
        cases List.mem_singleton.mp hw
        exact (hvisited v).mp hmark
    have hpath : v ∉ path := fun h => hmark ((hvisited v).mpr (.inl h))
    rw [visit, if_neg hmark, ends_succ hpath]
    by_cases hgoal : goal v
    · refine ⟨_, if_pos hgoal, ?_, fun h => by cases h⟩
      rw [List.find?_cons_of_pos hgoal]
    rw [if_neg hgoal]
    have hsettled' : Settled next goal (v :: path) done := fun d hd =>
      ⟨(hsettled d hd).1, fun w hw => ((hsettled d hd).2 w hw).imp_right (List.mem_cons_of_mem _)⟩
    have hvisited' : ∀ x, x ∈ v :: visited ↔ x ∈ v :: path ∨ x ∈ done := fun x => by
      rw [List.mem_cons, List.mem_cons, hvisited, or_assoc]
    obtain ⟨r, hr, hcovers⟩ := visitAll_covers (fun w _ _ hs hm hb => ih w hs hm hb) (next v)
      hsettled' hvisited' (Nat.lt_of_lt_of_le (unmarked_cons hmark) (Nat.le_of_lt_succ hfuel))
    refine ⟨r, hr, ?_, fun h => ?_⟩
    · rw [List.find?_cons_of_neg hgoal]
      exact hcovers.found
    · obtain ⟨done', hsub, hdone, hmem, hnext⟩ := hcovers.settled h
      refine ⟨v :: done', fun x hx => List.mem_cons_of_mem _ (hsub hx), ?_, fun x => ?_, ?_⟩
      · -- What is left of the path closes over the vertex itself.
        have hkeep : ∀ w, w ∈ v :: path ∨ w ∈ done' → w ∈ v :: done' ∨ w ∈ path := by
          intro w hw
          simp only [List.mem_cons] at hw ⊢
          tauto
        intro d hd
        rcases List.mem_cons.mp hd with rfl | hd
        · exact ⟨by simpa using hgoal, fun w hw => hkeep w (hnext w hw)⟩
        · exact ⟨(hdone d hd).1, fun w hw => hkeep w ((hdone d hd).2 w hw).symm⟩
      · rw [hmem, List.mem_cons, List.mem_cons]
        tauto
      · intro w hw
        cases List.mem_singleton.mp hw
        exact .inr List.mem_cons_self

/-! ### Searches -/

/-- Fuel for every vertex off the path is enough to list the chains. -/
theorem chains_fuel (hfuel : unmarked path ≤ fuel) :
    chains next (fuel + 1) path v = chains next fuel path v := by
  induction fuel generalizing path v with
  | zero =>
    have hempty := Finset.card_eq_zero.mp (Nat.le_zero.mp hfuel)
    have hv : v ∈ path := by
      by_contra hv
      exact Finset.filter_eq_empty_iff.mp hempty (Finset.mem_univ v) hv
    rw [chains_of_mem hv, chains_of_mem hv]
  | succ fuel ih =>
    by_cases hv : v ∈ path
    · rw [chains_of_mem hv, chains_of_mem hv]
    · have hless := unmarked_cons hv
      have hnext : ∀ w, chains next (fuel + 1) (v :: path) w = chains next fuel (v :: path) w :=
        fun w => ih (by omega)
      rw [chains_succ hv, chains_succ hv]
      simp only [hnext]

/-- The ends of every chain that meets no vertex twice, in depth-first order. -/
def allEnds (next : V → List V) : V → List V := ends next (Fintype.card V) []

theorem unmarked_le_card : unmarked visited ≤ Fintype.card V := Finset.card_le_univ _

theorem ends_eq (hfuel : Fintype.card V ≤ fuel) : ends next fuel [] v = allEnds next v := by
  induction fuel, hfuel using Nat.le_induction with
  | base => rfl
  | succ fuel hle ih => rw [← ih, ends, ends, chains_fuel (unmarked_le_card.trans hle)]

/-- A chain that meets no vertex twice is among those listed, and the listed ones are such. -/
theorem mem_chains_iff : c ∈ chains next (Fintype.card V) [] v ↔
    c.head? = some v ∧ IsChain next c ∧ c.Nodup := by
  constructor
  · intro h
    obtain ⟨hhead, hchain, hnodup, _⟩ := isChain_of_mem h
    exact ⟨hhead, hchain, hnodup⟩
  · rintro ⟨hhead, hchain, hnodup⟩
    exact mem_chains hnodup.length_le_card hhead hchain hnodup fun _ _ h => by cases h

/-- A chain leads from one of the starts to a vertex. -/
structure Leads (next : V → List V) (starts c : List V) (m : V) : Prop where
  start : ∃ v ∈ starts, c.head? = some v
  chain : IsChain next c
  last : c.getLast? = some m

theorem leads_of_mem {starts : List V} (h : m ∈ starts.flatMap (allEnds next)) :
    ∃ c, Leads next starts c m := by
  obtain ⟨v, hv, hm⟩ := List.mem_flatMap.mp h
  obtain ⟨c, hc, hlast⟩ := List.mem_filterMap.mp hm
  obtain ⟨hhead, hchain, _⟩ := mem_chains_iff.mp hc
  exact ⟨c, ⟨v, hv, hhead⟩, hchain, hlast⟩

/-- The search ends, with the first goal in depth-first order or with none that a chain leads to. -/
theorem search_spec (next : V → List V) (goal : V → Bool) (starts : List V)
    (hfuel : Fintype.card V < fuel) :
    search next goal fuel starts = some ((starts.flatMap (allEnds next)).find? goal) ∧
    ((starts.flatMap (allEnds next)).find? goal = none →
      ∀ c m, Leads next starts c m → goal m = false) := by
  have hnone : Settled next goal [] [] := fun d hd => by cases hd
  have hbound : unmarked ([] : List V) < fuel := Nat.lt_of_le_of_lt unmarked_le_card hfuel
  obtain ⟨r, hr, hcovers⟩ := visitAll_covers (fun v _ _ hs hm hb => visit_covers fuel v hs hm hb)
    starts hnone (fun x => by simp) hbound
  have hends : starts.flatMap (ends next fuel []) = starts.flatMap (allEnds next) :=
    List.flatMap_congr fun v _ => ends_eq hfuel.le
  have hfound := hcovers.found
  rw [hends] at hfound
  refine ⟨?_, fun h c m hleads => ?_⟩
  · rw [search, hr, ← hfound]
    rfl
  · obtain ⟨done, _, hsettled, _, hstarts⟩ := hcovers.settled (hfound.trans h)
    obtain ⟨⟨v, hv, hhead⟩, hchain, hlast⟩ := hleads
    have hdone : v ∈ done := (hstarts v hv).resolve_left List.not_mem_nil
    refine (hsettled m (hsettled.mem_of_isChain hchain ?_ m (List.mem_of_getLast? hlast))).1
    intro w hw
    rw [hhead] at hw
    cases hw
    exact hdone

end DepthFirst

end NestWebTransport
