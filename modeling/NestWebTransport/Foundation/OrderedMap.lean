import Mathlib.Data.List.Nodup

/-! Maps that keep the order in which their keys were first set, and groupings built on them. -/
namespace NestWebTransport

/-- Entries in the order their keys were first set. -/
structure OrderedMap (κ ν : Type*) where
  entries : List (κ × ν)

namespace OrderedMap

variable {κ ν α : Type*} [DecidableEq κ]

def getEntry (k : κ) : List (κ × ν) → Option ν
  | [] => none
  | (j, v) :: rest => if j = k then some v else getEntry k rest

/-- Replace the value where the key stands, or append a new entry. -/
def setEntry (k : κ) (v : ν) : List (κ × ν) → List (κ × ν)
  | [] => [(k, v)]
  | (j, w) :: rest => if j = k then (k, v) :: rest else (j, w) :: setEntry k v rest

variable (m : OrderedMap κ ν) {k j : κ} {v : ν}

def empty : OrderedMap κ ν := ⟨[]⟩

def get (k : κ) : Option ν := getEntry k m.entries

def set (k : κ) (v : ν) : OrderedMap κ ν := ⟨setEntry k v m.entries⟩

def values : List ν := m.entries.map Prod.snd

@[simp] theorem get_empty : (empty : OrderedMap κ ν).get k = none := rfl

@[simp] theorem get_set_self : (m.set k v).get k = some v := by
  obtain ⟨entries⟩ := m
  simp only [get, set]
  induction entries with
  | nil => simp [setEntry, getEntry]
  | cons entry rest ih =>
    by_cases h : entry.1 = k
    · simp [setEntry, getEntry, h]
    · simp [setEntry, getEntry, h, ih]

theorem get_set_of_ne (h : j ≠ k) : (m.set k v).get j = m.get j := by
  obtain ⟨entries⟩ := m
  simp only [get, set]
  induction entries with
  | nil => simp [setEntry, getEntry, Ne.symm h]
  | cons entry rest ih =>
    by_cases hk : entry.1 = k
    · simp [setEntry, getEntry, hk, Ne.symm h]
    · simp [setEntry, getEntry, hk, ih]

/-- A write adds no entry but its own. -/
theorem mem_set {entry : κ × ν} (h : entry ∈ (m.set k v).entries) :
    entry = (k, v) ∨ entry ∈ m.entries := by
  obtain ⟨entries⟩ := m
  simp only [set] at h ⊢
  induction entries with
  | nil => exact Or.inl (List.mem_singleton.mp h)
  | cons first rest ih =>
    unfold setEntry at h
    split at h
    · rcases List.mem_cons.mp h with h | h
      · exact Or.inl h
      · exact Or.inr (List.mem_cons_of_mem _ h)
    · rcases List.mem_cons.mp h with h | h
      · exact Or.inr (h ▸ List.mem_cons_self)
      · exact (ih h).imp_right (List.mem_cons_of_mem _)

def remove (k : κ) : OrderedMap κ ν := ⟨m.entries.filter fun entry => decide (entry.1 ≠ k)⟩

theorem mem_remove {entry : κ × ν} :
    entry ∈ (m.remove k).entries ↔ entry ∈ m.entries ∧ entry.1 ≠ k := by
  simp [remove]

theorem mem_removes {entry : κ × ν} (ks : List κ) :
    entry ∈ (ks.foldl remove m).entries ↔ entry ∈ m.entries ∧ entry.1 ∉ ks := by
  induction ks generalizing m with
  | nil => simp
  | cons k ks ih => rw [List.foldl_cons, ih, mem_remove, List.mem_cons, not_or, and_assoc]

variable {m}

theorem mem_of_get (h : m.get k = some v) : (k, v) ∈ m.entries := by
  obtain ⟨entries⟩ := m
  unfold get at h
  induction entries with
  | nil => cases h
  | cons entry rest ih =>
    unfold getEntry at h
    split at h
    · rename_i hkey
      obtain rfl := hkey
      cases h
      exact List.mem_cons_self
    · exact List.mem_cons_of_mem _ (ih h)

/-- A removal leaves the other keys alone. -/
theorem get_remove_of_ne (h : j ≠ k) : (m.remove k).get j = m.get j := by
  obtain ⟨entries⟩ := m
  unfold get remove
  induction entries with
  | nil => rfl
  | cons entry rest ih =>
    by_cases hk : entry.1 = k
    · simp only [List.filter_cons, hk, ne_eq, not_true, decide_false, Bool.false_eq_true, if_false,
        getEntry, Ne.symm h]
      exact ih
    · simp only [List.filter_cons, hk, ne_eq, not_false_eq_true, decide_true, if_true, getEntry]
      split
      · rfl
      · exact ih

/-- A write with a value of its own keeps the values distinct. -/
theorem nodup_values_set (h : m.values.Nodup) (hv : v ∉ m.values) : (m.set k v).values.Nodup := by
  obtain ⟨entries⟩ := m
  unfold values set at *
  induction entries with
  | nil => exact List.nodup_singleton _
  | cons entry rest ih =>
    rw [List.map_cons, List.mem_cons, not_or] at hv
    obtain ⟨hhead, htail⟩ := List.nodup_cons.mp h
    simp only [setEntry]
    split
    · exact List.nodup_cons.mpr ⟨hv.2, htail⟩
    · refine List.nodup_cons.mpr ⟨?_, ih htail hv.2⟩
      intro hmem
      obtain ⟨other, hother, hval⟩ := List.mem_map.mp hmem
      rcases mem_set ⟨rest⟩ hother with rfl | hold
      · exact hv.1 hval
      · exact hhead (hval ▸ List.mem_map_of_mem hold)

/-- A value the map holds once is gone with its key. -/
theorem not_mem_values_remove (h : m.values.Nodup) (hget : m.get k = some v) :
    v ∉ (m.remove k).values := by
  intro hmem
  obtain ⟨⟨j, w⟩, hentry, rfl⟩ := List.mem_map.mp hmem
  obtain ⟨hold, hne⟩ := m.mem_remove.mp hentry
  have hsame := List.inj_on_of_nodup_map h hold (mem_of_get hget) rfl
  exact hne (congrArg Prod.fst hsame)

variable (g : OrderedMap κ (List α)) {x : α} {l : List α} {key : α → κ}

/-- The group under a key; a missing key has the empty one. -/
def group (k : κ) : List α := (g.get k).getD []

/-- Add to the group under a key, which is created when missing. -/
def push (k : κ) (x : α) : OrderedMap κ (List α) :=
  match g.get k with
  | none => g.set k [x]
  | some xs => g.set k (xs ++ [x])

theorem push_eq : g.push k x = g.set k (g.group k ++ [x]) := by
  unfold push group
  cases g.get k <;> rfl

theorem group_push_self : (g.push k x).group k = g.group k ++ [x] := by
  rw [push_eq, group, get_set_self]
  rfl

theorem group_push_of_ne (h : j ≠ k) : (g.push k x).group j = g.group j := by
  rw [push_eq, group, get_set_of_ne _ h]
  rfl

/-- Pushing adds the one element to what the groups hold together. -/
theorem flatten_push : (g.push k x).values.flatten.Perm (x :: g.values.flatten) := by
  rw [push_eq]
  obtain ⟨entries⟩ := g
  simp only [set, values, group, get]
  induction entries with
  | nil => simp [setEntry, getEntry]
  | cons entry rest ih =>
    obtain ⟨j, xs⟩ := entry
    by_cases h : j = k
    · simp only [setEntry, getEntry, h, if_true, Option.getD_some, List.map_cons,
        List.flatten_cons, List.append_assoc]
      exact List.perm_middle
    · simp only [setEntry, getEntry, h, if_false, List.map_cons, List.flatten_cons]
      exact (ih.append_left xs).trans List.perm_middle

/-- The map groups `l` by `key`: every group lists its members in the order of `l`. -/
structure Groups (g : OrderedMap κ (List α)) (key : α → κ) (l : List α) : Prop where
  group : ∀ k, g.group k = l.filter fun x => key x = k
  perm : g.values.flatten.Perm l

variable {g}

theorem groups_empty : (empty : OrderedMap κ (List α)).Groups key [] :=
  ⟨fun _ => rfl, List.Perm.refl _⟩

theorem Groups.push (h : g.Groups key l) (x : α) : (g.push (key x) x).Groups key (l ++ [x]) where
  group k := by
    rw [List.filter_append]
    by_cases hk : k = key x
    · subst hk
      rw [group_push_self, h.group]
      simp
    · rw [group_push_of_ne _ hk, h.group]
      simp [Ne.symm hk]
  perm := (g.flatten_push).trans ((h.perm.cons x).trans (List.perm_append_singleton x l).symm)

end OrderedMap

end NestWebTransport
