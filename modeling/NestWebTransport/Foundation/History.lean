import Mathlib.Data.List.Basic
import Mathlib.Tactic.TypeStar

/-! Logs each of whose entries was right when it was made, and values handed from call to call. -/
namespace NestWebTransport

section Always

variable {α : Type*} {P : List α → α → Prop} {log added : List α} {a : α}

/-- Every entry meets the condition on it and on what the log held before. -/
def Always (P : List α → α → Prop) (log : List α) : Prop :=
  ∀ pre a post, log = pre ++ a :: post → P pre a

theorem Always.nil : Always P [] := by
  intro pre a post h
  cases pre <;> cases h

theorem Always.snoc (h : Always P log) (ha : P log a) : Always P (log ++ [a]) := by
  intro pre b post hlog
  rcases List.eq_nil_or_concat post with rfl | ⟨rest, c, rfl⟩
  · obtain ⟨rfl, hlast⟩ := List.append_inj' hlog rfl
    cases hlast
    exact ha
  · rw [List.concat_eq_append, ← List.cons_append, ← List.append_assoc] at hlog
    obtain ⟨hinit, -⟩ := List.append_inj' hlog rfl
    exact h pre b rest hinit

/-- Entries about different things, none of which the log has anything against. -/
theorem Always.append_map {κ ν : Type*} {Q : ν → Prop} {v : ν} {log : List (κ × ν)} {keys : List κ}
    (h : Always (fun pre x => ∀ y ∈ pre, y.1 = x.1 → Q y.2) log) (hkeys : keys.Nodup)
    (hlog : ∀ k ∈ keys, ∀ y ∈ log, y.1 = k → Q y.2) :
    Always (fun pre x => ∀ y ∈ pre, y.1 = x.1 → Q y.2) (log ++ keys.map (·, v)) := by
  induction keys generalizing log with
  | nil => simpa using h
  | cons k keys ih =>
    obtain ⟨hnew, hrest⟩ := List.nodup_cons.mp hkeys
    rw [List.map_cons, ← List.singleton_append, ← List.append_assoc]
    apply ih (h.snoc (hlog k List.mem_cons_self)) hrest
    intro j hj y hy hyj
    rcases List.mem_append.mp hy with hold | hlast
    · exact hlog j (List.mem_cons_of_mem _ hj) y hold hyj
    · cases List.mem_singleton.mp hlast
      cases hyj
      exact absurd hj hnew

end Always

section Threads

variable {κ β : Type*} {fs : List κ} {calls : List (κ × β × β)} {v w u : β} {f : κ}

/-- The calls were made one after another, the first on `v`, each next one on what the one before
returned, and the last returned `w`. -/
inductive Threads : List κ → β → List (κ × β × β) → β → Prop
  | nil {v : β} : Threads [] v [] v
  | snoc {fs : List κ} {f : κ} {v w u : β} {calls : List (κ × β × β)} :
      Threads fs v calls w → Threads (fs ++ [f]) v (calls ++ [(f, w, u)]) u

/-- Where the calls behave as functions, their threading is the composition from the left. -/
theorem Threads.foldl {g : κ → β → β} (h : Threads fs v calls w)
    (hcalls : ∀ call ∈ calls, call.2.2 = g call.1 call.2.1) :
    w = fs.foldl (fun value f => g f value) v := by
  induction h with
  | nil => rfl
  | @snoc fs f v w u calls _ ih =>
    have hlast := hcalls (f, w, u) (by simp)
    have hfirst := ih fun call hcall => hcalls call (List.mem_append_left _ hcall)
    rw [List.foldl_append, ← hfirst]
    exact hlast

end Threads

end NestWebTransport
