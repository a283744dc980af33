import NestWebTransport.Foundation.UrlPath

/-! References read against a URL with a special scheme and no path of its own.

A reference that begins with two slashes names an authority; a host parser decides whether it
is one. -/
namespace NestWebTransport

namespace UrlPath

/-- Leading and trailing controls and spaces go, then tabs and newlines anywhere. -/
def trimInput (text : List Char) : List Char :=
  ((text.dropWhile isC0OrSpace).rdropWhile isC0OrSpace).filter (!isTabOrNewline ·)

/-- The text before the query and the fragment. -/
def reference (text : List Char) : List Char := (trimInput text).takeWhile (!endsPath ·)

/-- What decides the authorities and the references that begin with no slash. -/
structure Parser where
  isAuthority : List Char → Bool
  isAuthority_nil : isAuthority [] = false
  isAuthority_concat : ∀ text c, isC0OrSpace c = true → isAuthority (text ++ [c]) = false
  readOther : List Char → Option (List (List Char))

variable (u : Parser)

/-- What follows two slashes or more: the path begins after the slash behind the authority. -/
def Parser.readAuthority (text : List Char) : Option (List (List Char)) :=
  if u.isAuthority (text.takeWhile (!isSlash ·)) then
    some (parsePath (text.dropWhile (!isSlash ·)).tail)
  else none

def Parser.readReference : List Char → Option (List (List Char))
  | [] => some [[]]
  | c :: rest =>
    if isSlash c then
      if rest.head?.any isSlash then u.readAuthority (rest.dropWhile isSlash)
      else some (parsePath rest)
    else u.readOther (c :: rest)

/-- The path a text is read as, `none` where the parser rejects the text. -/
def Parser.read (text : List Char) : Option (List (List Char)) := u.readReference (reference text)

def Parser.pathname (text : String) : Option String :=
  (u.read text.toList).map fun path => String.ofList (print path)

variable {u} {c : Char} {text a b segment : List Char} {path : List (List Char)} {n : Nat}

/-! ### Trimming -/

/-- The text without its tabs and newlines. -/
def kept (text : List Char) : List Char := text.filter (!isTabOrNewline ·)

theorem kept_append_slashes (text : List Char) (n : Nat) :
    kept (text ++ slashes n) = kept text ++ slashes n := by
  have hslashes : kept (slashes n) = slashes n :=
    List.filter_eq_self.mpr fun c hc => by rw [List.eq_of_mem_replicate hc]; decide
  rw [kept, List.filter_append, ← kept, ← kept, hslashes]

/-- Tabs and newlines may be taken out before the end is trimmed. -/
theorem filter_rdropWhile (text : List Char) :
    (text.rdropWhile isC0OrSpace).filter (!isTabOrNewline ·) =
      (kept text).rdropWhile isC0OrSpace := by
  induction text using List.reverseRecOn with
  | nil => rfl
  | append_singleton text c ih =>
    rw [kept, List.filter_append]
    by_cases hc : isC0OrSpace c = true
    · rw [List.rdropWhile_concat_pos _ _ _ hc, ih]
      by_cases htab : isTabOrNewline c = true
      · simp [kept, htab]
      · rw [List.filter_singleton, Bool.eq_false_iff.mpr htab]
        exact (List.rdropWhile_concat_pos _ _ _ hc).symm
    · have htab : isTabOrNewline c = false :=
        Bool.eq_false_iff.mpr fun h => hc (isC0OrSpace_of_isTabOrNewline h)
      rw [List.rdropWhile_concat_neg _ _ _ hc, List.filter_append, List.filter_singleton, htab]
      exact (List.rdropWhile_concat_neg _ _ _ hc).symm

theorem trimInput_of_slash (h : text.head? = some '/') :
    trimInput text = (kept text).rdropWhile isC0OrSpace := by
  obtain ⟨rest, rfl⟩ := List.head?_eq_some_iff.mp h
  rw [trimInput, List.dropWhile_cons_of_neg (by decide), filter_rdropWhile]

theorem mem_kept (h : c ∈ text) (hc : isC0OrSpace c = false) : c ∈ kept text := by
  refine List.mem_filter.mpr ⟨h, ?_⟩
  rw [Bool.not_eq_true', Bool.eq_false_iff]
  intro htab
  exact Bool.eq_false_iff.mp hc (isC0OrSpace_of_isTabOrNewline htab)

theorem isC0OrSpace_of_endsPath (h : endsPath c = true) : isC0OrSpace c = false := by
  have hcases : c = '?' ∨ c = '#' := by simpa [endsPath] using h
  rcases hcases with rfl | rfl <;> decide

theorem head?_kept (h : text.head? = some '/') : (kept text).head? = some '/' := by
  obtain ⟨rest, rfl⟩ := List.head?_eq_some_iff.mp h
  rw [kept, List.filter_cons_of_pos (by decide), List.head?_cons]

/-- Where no query and no fragment follows, the reference is all that was not trimmed. -/
theorem reference_of_unended (hslash : text.head? = some '/')
    (h : ∀ c ∈ text, endsPath c = false) :
    reference text = (kept text).rdropWhile isC0OrSpace := by
  rw [reference, trimInput_of_slash hslash]
  refine List.takeWhile_eq_self_iff.mpr fun c hc => ?_
  have hkept : c ∈ kept text := (List.rdropWhile_prefix _ _).subset hc
  rw [h c (List.mem_of_mem_filter hkept), Bool.not_false]

theorem takeWhile_append_of_mem {p : Char → Bool} (h : ∃ c ∈ a, p c = false) (b : List Char) :
    (a ++ b).takeWhile p = a.takeWhile p := by
  obtain ⟨c, hc, hp⟩ := h
  rw [List.takeWhile_append, if_neg]
  intro hlength
  have hself : a.takeWhile p = a := (List.takeWhile_prefix p).eq_of_length hlength
  exact absurd (List.takeWhile_eq_self_iff.mp hself c hc) (by simp [hp])

/-- Where a query or a fragment follows, what comes after it does not matter. -/
theorem reference_of_ended (hslash : text.head? = some '/') (h : ∃ c ∈ text, endsPath c = true) :
    reference text = (kept text).takeWhile (!endsPath ·) := by
  obtain ⟨c, hc, hends⟩ := h
  have hfree := isC0OrSpace_of_endsPath hends
  have hmem : c ∈ (kept text).rdropWhile isC0OrSpace := by
    have hsplit : (kept text).rdropWhile isC0OrSpace ++ (kept text).rtakeWhile isC0OrSpace =
        kept text := List.rdropWhile_append_rtakeWhile
    have hkept : c ∈ kept text := mem_kept hc hfree
    rw [← hsplit] at hkept
    rcases List.mem_append.mp hkept with hkept | hkept
    · exact hkept
    · exact absurd (List.mem_rtakeWhile_imp hkept) (by simp [hfree])
  have hcut := takeWhile_append_of_mem (p := (!endsPath ·)) ⟨c, hmem, by simp [hends]⟩
    ((kept text).rtakeWhile isC0OrSpace)
  rw [List.rdropWhile_append_rtakeWhile] at hcut
  rw [reference, trimInput_of_slash hslash, hcut]

theorem reference_append_slashes (hslash : text.head? = some '/')
    (h : ∃ c ∈ text, endsPath c = true) (n : Nat) :
    reference (text ++ slashes n) = reference text := by
  obtain ⟨c, hc, hends⟩ := h
  have hlong : (text ++ slashes n).head? = some '/' := by
    rw [List.head?_append, hslash]
    rfl
  rw [reference_of_ended hslash ⟨c, hc, hends⟩,
    reference_of_ended hlong ⟨c, List.mem_append_left _ hc, hends⟩, kept_append_slashes]
  exact takeWhile_append_of_mem
    ⟨c, mem_kept hc (isC0OrSpace_of_endsPath hends), by simp [hends]⟩ _

/-- A leading slash stays in front. -/
theorem head?_reference (h : text.head? = some '/') : (reference text).head? = some '/' := by
  obtain ⟨rest, hrest⟩ := List.head?_eq_some_iff.mp (head?_kept h)
  have hhead : ((kept text).rdropWhile isC0OrSpace).head? = some '/' := by
    obtain ⟨after, hafter⟩ := List.rdropWhile_prefix isC0OrSpace (kept text)
    cases htrim : (kept text).rdropWhile isC0OrSpace with
    | nil =>
      have hall := List.rdropWhile_eq_nil_iff.mp htrim '/' (hrest ▸ List.mem_cons_self)
      exact absurd hall (by decide)
    | cons c front =>
      rw [htrim, hrest, List.cons_append] at hafter
      rw [List.head?_cons, (List.cons.inj hafter).1]
  obtain ⟨front, hfront⟩ := List.head?_eq_some_iff.mp hhead
  rw [reference, trimInput_of_slash h, hfront, List.takeWhile_cons_of_pos (by decide),
    List.head?_cons]

/-! ### Reading -/

theorem readReference_slash (rest : List Char) :
    u.readReference ('/' :: rest) =
      if rest.head?.any isSlash then u.readAuthority (rest.dropWhile isSlash)
      else some (parsePath rest) := rfl

theorem exists_parsePath (hslash : text.head? = some '/') (h : u.read text = some path) :
    ∃ tail, path = parsePath tail := by
  obtain ⟨rest, hrest⟩ := List.head?_eq_some_iff.mp (head?_reference hslash)
  rw [Parser.read, hrest, readReference_slash] at h
  split at h
  · unfold Parser.readAuthority at h
    split at h
    · exact ⟨_, (Option.some.inj h).symm⟩
    · cases h
  · exact ⟨_, (Option.some.inj h).symm⟩

theorem read_ne_nil (hslash : text.head? = some '/') (h : u.read text = some path) : path ≠ [] := by
  obtain ⟨tail, rfl⟩ := exists_parsePath hslash h
  exact parsePath_ne_nil tail

theorem read_clean (hslash : text.head? = some '/') (h : u.read text = some path) :
    ∀ s ∈ path, Clean s := by
  obtain ⟨tail, rfl⟩ := exists_parsePath hslash h
  exact parsePath_clean tail

/-! ### Reading what was printed -/

theorem head?_print (h : path ≠ []) : (print path).head? = some '/' := by
  obtain ⟨segment, path, rfl⟩ := List.exists_cons_of_ne_nil h
  rfl

/-- A printed path of clean segments is read as it is. -/
theorem reference_print (h : ∀ s ∈ path, Clean s) (hne : path ≠ []) :
    reference (print path) = print path := by
  have hfree : ∀ c ∈ print path, isC0OrSpace c = false := by
    intro c hc
    rcases mem_print h hc with hplain | rfl
    · exact hplain.not_c0OrSpace
    · decide
  have hkept : kept (print path) = print path := by
    refine List.filter_eq_self.mpr fun c hc => ?_
    rw [Bool.not_eq_true', Bool.eq_false_iff]
    intro htab
    exact Bool.eq_false_iff.mp (hfree c hc) (isC0OrSpace_of_isTabOrNewline htab)
  rw [reference_of_unended (head?_print hne), hkept, List.rdropWhile_eq_self_iff]
  · intro hlast
    rw [hfree _ (List.getLast_mem hlast)]
    exact Bool.false_ne_true
  · intro c hc
    rcases mem_print h hc with hplain | rfl
    · exact hplain.not_endsPath
    · decide

/-- A path whose first segment is not empty is read as it was printed. -/
theorem read_print (h : ∀ s ∈ segment :: path, Clean s) (hne : segment ≠ []) :
    u.read (print (segment :: path)) = some (segment :: path) := by
  obtain ⟨c, front, rfl⟩ := List.exists_cons_of_ne_nil hne
  have hc : isSlash c = false := ((h _ List.mem_cons_self).1 c List.mem_cons_self).2
  rw [Parser.read, reference_print h (by simp), print_cons, readReference_slash, parsePath_print h,
    if_neg]
  simp [hc]

theorem readAuthority_nil : u.readAuthority [] = none := by
  rw [Parser.readAuthority, List.takeWhile_nil, u.isAuthority_nil]
  rfl

/-- What stands behind two slashes is an authority and the path behind it. -/
theorem readAuthority_print (h : ∀ s ∈ segment :: path, Clean s) :
    u.readAuthority (segment ++ print path) =
      if u.isAuthority segment then some (if path = [] then [[]] else path) else none := by
  have hsegment : ∀ c ∈ segment, (!isSlash c) = true := by
    intro c hc
    rw [((h segment List.mem_cons_self).1 c hc).2, Bool.not_false]
  rw [Parser.readAuthority, List.takeWhile_append_of_pos hsegment,
    List.dropWhile_append_of_pos hsegment]
  cases path with
  | nil =>
    rw [print, List.flatMap_nil, List.takeWhile_nil, List.append_nil, if_pos rfl]
    rfl
  | cons next path =>
    have hrest : ∀ s ∈ next :: path, Clean s := fun s hs => h s (List.mem_cons_of_mem _ hs)
    rw [print_cons, List.takeWhile_cons_of_neg (by decide), List.dropWhile_cons_of_neg (by decide),
      List.append_nil, List.tail_cons, parsePath_print hrest, if_neg (List.cons_ne_nil _ _)]

/-- Behind the slashes a printed path begins with its first segment that is not empty. -/
theorem dropWhile_print (h : ∀ s ∈ path, Clean s) :
    (print path).dropWhile isSlash =
      match path.dropWhile List.isEmpty with
      | [] => []
      | first :: rest => first ++ print rest := by
  induction path with
  | nil => rfl
  | cons segment path ih =>
    have hpath := ih fun s hs => h s (List.mem_cons_of_mem _ hs)
    rw [print_cons, List.dropWhile_cons_of_pos rfl]
    cases segment with
    | nil => exact hpath
    | cons c front =>
      have hc : isSlash c = false := ((h _ List.mem_cons_self).1 c List.mem_cons_self).2
      rw [List.cons_append, List.dropWhile_cons_of_neg (by simp [hc])]
      rfl

/-- Behind an empty segment, the first one that is not empty is read as an authority. -/
theorem read_print_nil (h : ∀ s ∈ path, Clean s) (hne : path ≠ []) :
    u.read (print ([] :: path)) =
      match path.dropWhile List.isEmpty with
      | [] => none
      | authority :: rest =>
        if u.isAuthority authority then some (if rest = [] then [[]] else rest) else none := by
  have hclean : ∀ s ∈ [] :: path, Clean s := by
    intro s hs
    rcases List.mem_cons.mp hs with rfl | hs
    · exact clean_nil
    · exact h s hs
  rw [Parser.read, reference_print hclean (by simp), print_cons, List.nil_append,
    readReference_slash, head?_print hne, Option.any_some, if_pos (by decide), dropWhile_print h]
  cases hdrop : path.dropWhile List.isEmpty with
  | nil => exact readAuthority_nil
  | cons authority rest =>
    refine readAuthority_print fun s hs => h s ?_
    exact (List.dropWhile_sublist List.isEmpty).subset (hdrop ▸ hs)

/-! ### Reading with slashes at the end -/

theorem head?_append_slashes (text : List Char) (n : Nat) (h : text ≠ []) :
    (text ++ slashes n).head? = text.head? := by
  obtain ⟨c, rest, rfl⟩ := List.exists_cons_of_ne_nil h
  rfl

theorem isSlash_of_mem_slashes (h : c ∈ slashes n) : isSlash c = true := by
  rw [List.eq_of_mem_replicate h]
  rfl

theorem tail_slashes (n : Nat) : (slashes n).tail = slashes (n - 1) := List.tail_replicate

/-- Slashes behind an authority and its path add empty segments. -/
theorem readAuthority_append_slashes (text : List Char) (n : Nat) :
    ∃ k, n ≤ k + 2 ∧
      u.readAuthority (text ++ slashes n) =
        (u.readAuthority text).map (· ++ List.replicate k []) := by
  have htake : (text ++ slashes n).takeWhile (!isSlash ·) = text.takeWhile (!isSlash ·) := by
    rw [List.takeWhile_append]
    split
    · rename_i hlength
      have hself := (List.takeWhile_prefix (!isSlash ·)).eq_of_length hlength
      have hslashes : (slashes n).takeWhile (!isSlash ·) = [] := by
        cases n with
        | zero => rfl
        | succ n => rfl
      rw [hslashes, List.append_nil, hself]
    · rfl
  obtain ⟨tail, m, htail, hm, hdrop⟩ : ∃ tail m,
      tail = (text.dropWhile (!isSlash ·)).tail ∧ n ≤ m + 1 ∧
        ((text ++ slashes n).dropWhile (!isSlash ·)).tail = tail ++ slashes m := by
    rw [List.dropWhile_append]
    cases hrest : text.dropWhile (!isSlash ·) with
    | nil =>
      refine ⟨[], n - 1, rfl, by omega, ?_⟩
      have hslashes : (slashes n).dropWhile (!isSlash ·) = slashes n := by
        cases n with
        | zero => rfl
        | succ n => rfl
      rw [List.isEmpty_nil, if_pos rfl, hslashes, tail_slashes, List.nil_append]
    | cons c rest => exact ⟨rest, n, rfl, by omega, by rw [if_neg (by simp)]; rfl⟩
  obtain ⟨k, hk, hparse⟩ := parsePath_append_slashes tail m
  refine ⟨k, by omega, ?_⟩
  rw [Parser.readAuthority, Parser.readAuthority, htake, hdrop, hparse, htail]
  split <;> rfl

/-- Slashes behind a reference that is more than one slash add empty segments to its path. -/
theorem readReference_append_slashes (hslash : text.head? = some '/') (hne : text ≠ ['/'])
    (n : Nat) :
    ∃ k, n ≤ k + 2 ∧
      u.readReference (text ++ slashes n) =
        (u.readReference text).map (· ++ List.replicate k []) := by
  obtain ⟨rest, rfl⟩ := List.head?_eq_some_iff.mp hslash
  have hrest : rest ≠ [] := fun h => hne (h ▸ rfl)
  rw [List.cons_append, readReference_slash, readReference_slash, head?_append_slashes _ _ hrest]
  split
  · rw [List.dropWhile_append]
    cases hdrop : rest.dropWhile isSlash with
    | nil =>
      refine ⟨n, by omega, ?_⟩
      have hslashes : (slashes n).dropWhile isSlash = [] :=
        List.dropWhile_eq_nil_iff.mpr fun c hc => isSlash_of_mem_slashes hc
      rw [List.isEmpty_nil, if_pos rfl, hslashes, readAuthority_nil]
      rfl
    | cons c text =>
      rw [if_neg (by simp)]
      exact readAuthority_append_slashes _ _
  · obtain ⟨k, hk, hparse⟩ := parsePath_append_slashes rest n
    exact ⟨k, by omega, by rw [hparse]; rfl⟩

/-! ### Reading with controls and spaces before the slashes at the end -/

theorem takeWhile_space (hb : ∀ c ∈ b, isC0OrSpace c = true) (n : Nat) :
    (b ++ slashes n).takeWhile (!isSlash ·) = b := by
  have hnonslash : ∀ c ∈ b, (!isSlash c) = true := by
    intro c hc
    rw [not_isSlash_of_isC0OrSpace (hb c hc), Bool.not_false]
  rw [List.takeWhile_append_of_pos hnonslash]
  cases n with
  | zero => exact List.append_nil b
  | succ n => exact List.append_nil b

theorem not_isAuthority_space (hne : b ≠ []) (hb : ∀ c ∈ b, isC0OrSpace c = true)
    (text : List Char) : u.isAuthority (text ++ b) = false := by
  obtain ⟨front, last, rfl⟩ : ∃ front last, b = front ++ [last] :=
    ⟨_, _, (List.dropLast_concat_getLast hne).symm⟩
  rw [← List.append_assoc]
  exact u.isAuthority_concat _ _ (hb last (by simp))

/-- An authority with a control or a space at its end is none: only one a slash ends remains. -/
theorem readAuthority_space (hne : b ≠ []) (hb : ∀ c ∈ b, isC0OrSpace c = true)
    (text : List Char) (n : Nat) :
    u.readAuthority (text ++ (b ++ slashes n)) =
      match text.dropWhile (!isSlash ·) with
      | [] => none
      | _ :: rest =>
        if u.isAuthority (text.takeWhile (!isSlash ·)) then
          some (parsePath (rest ++ b ++ slashes n))
        else none := by
  cases hdrop : text.dropWhile (!isSlash ·) with
  | nil =>
    have hauthority : (text ++ (b ++ slashes n)).takeWhile (!isSlash ·) = text ++ b := by
      rw [List.takeWhile_append_of_pos (List.dropWhile_eq_nil_iff.mp hdrop), takeWhile_space hb]
    rw [Parser.readAuthority, hauthority, not_isAuthority_space hne hb, if_neg Bool.false_ne_true]
  | cons c rest =>
    have hmem : c ∈ text.dropWhile (!isSlash ·) := hdrop ▸ List.mem_cons_self
    have hc : (!isSlash c) = false := by
      have hhead := List.head?_dropWhile_not (!isSlash ·) text
      rw [hdrop] at hhead
      simpa using hhead
    have hcut := takeWhile_append_of_mem (p := (!isSlash ·))
      ⟨c, (List.dropWhile_sublist _).subset hmem, hc⟩ (b ++ slashes n)
    rw [Parser.readAuthority, hcut, List.dropWhile_append, hdrop, List.isEmpty_cons,
      if_neg Bool.false_ne_true, List.cons_append, List.tail_cons, ← List.append_assoc]

/-- A reference is read with the spaces that stand before its last slashes. -/
theorem readReference_space (hne : b ≠ []) (hb : ∀ c ∈ b, isC0OrSpace c = true)
    (rest : List Char) (n : Nat) :
    u.readReference ('/' :: rest ++ (b ++ slashes n)) =
      if rest.head?.any isSlash then u.readAuthority (rest.dropWhile isSlash ++ (b ++ slashes n))
      else some (parsePath (rest ++ b ++ slashes n)) := by
  obtain ⟨c, after, rfl⟩ := List.exists_cons_of_ne_nil hne
  have hc : isSlash c = false := not_isSlash_of_isC0OrSpace (hb c List.mem_cons_self)
  rw [List.cons_append, readReference_slash, List.append_assoc]
  cases rest with
  | nil =>
    rw [List.nil_append, if_neg (by simp [hc]), if_neg (by simp)]
  | cons first rest =>
    have hdrop : (first :: rest ++ (c :: after ++ slashes n)).dropWhile isSlash =
        (first :: rest).dropWhile isSlash ++ (c :: after ++ slashes n) := by
      rw [List.dropWhile_append]
      split
      · rename_i hempty
        rw [List.isEmpty_iff.mp hempty, List.cons_append,
          List.dropWhile_cons_of_neg (by simp [hc]), List.nil_append]
      · rfl
    rw [hdrop]
    rfl

/-- A reference that is rejected stays so with controls, spaces and slashes behind it. -/
theorem readReference_space_none (hslash : text.head? = some '/') (hne : b ≠ [])
    (hb : ∀ c ∈ b, isC0OrSpace c = true) (h : u.readReference text = none) (n : Nat) :
    u.readReference (text ++ (b ++ slashes n)) = none := by
  obtain ⟨rest, rfl⟩ := List.head?_eq_some_iff.mp hslash
  rw [readReference_slash] at h
  rw [readReference_space hne hb]
  split at h
  · rename_i hslashes
    rw [if_pos hslashes, readAuthority_space hne hb]
    rw [Parser.readAuthority] at h
    split at h
    · cases h
    · rename_i hauthority
      split
      · rfl
      · exact if_neg hauthority
  · cases h

/-- A reference that is read is rejected, or read as a longer path, with controls or spaces and a
slash behind it. -/
theorem readReference_space_some (hslash : text.head? = some '/') (hne : b ≠ [])
    (hb : ∀ c ∈ b, isC0OrSpace c = true) (h : u.readReference text = some path) :
    u.readReference (text ++ (b ++ slashes 1)) = none ∨
      ∃ longer, u.readReference (text ++ (b ++ slashes 1)) = some longer ∧
        (print path).length < (print (longer.rdropWhile List.isEmpty)).length := by
  obtain ⟨rest, rfl⟩ := List.head?_eq_some_iff.mp hslash
  rw [readReference_slash] at h
  rw [readReference_space hne hb]
  split at h
  · rename_i hslashes
    rw [if_pos hslashes, readAuthority_space hne hb]
    rw [Parser.readAuthority] at h
    split at h
    · rename_i hauthority
      obtain rfl := Option.some.inj h
      split
      · exact Or.inl rfl
      · rename_i c tail hdrop
        rw [if_pos hauthority, hdrop]
        exact Or.inr ⟨_, rfl, length_print_parsePath_lt hne hb tail⟩
    · cases h
  · rename_i hslashes
    obtain rfl := Option.some.inj h
    rw [if_neg hslashes]
    exact Or.inr ⟨_, rfl, length_print_parsePath_lt hne hb rest⟩

/-! ### Reading a text with slashes at its end -/

/-- A query or a fragment is in the text. -/
def Ended (text : List Char) : Prop := ∃ c ∈ text, endsPath c = true

instance : Decidable (Ended text) := inferInstanceAs (Decidable (∃ c ∈ text, _))

/-- Tabs and newlines aside, no control and no space ends the text. -/
def Unpadded (text : List Char) : Prop := (kept text).rtakeWhile isC0OrSpace = []

instance : Decidable (Unpadded text) := inferInstanceAs (Decidable (_ = _))

theorem not_endsPath_of_not_ended (h : ¬Ended text) : ∀ c ∈ text, endsPath c = false :=
  fun c hc => Bool.eq_false_iff.mpr fun hends => h ⟨c, hc, hends⟩

theorem not_ended_append_slashes (h : ¬Ended text) (n : Nat) : ¬Ended (text ++ slashes n) := by
  rintro ⟨c, hc, hends⟩
  rcases List.mem_append.mp hc with hc | hc
  · exact h ⟨c, hc, hends⟩
  · rw [List.eq_of_mem_replicate hc] at hends
    exact absurd hends (by decide)

theorem head?_slashed (h : text.head? = some '/') (n : Nat) :
    (text ++ slashes n).head? = some '/' := by
  obtain ⟨rest, rfl⟩ := List.head?_eq_some_iff.mp h
  rfl

theorem read_append_slashes_of_ended (hslash : text.head? = some '/') (h : Ended text) (n : Nat) :
    u.read (text ++ slashes n) = u.read text := by
  rw [Parser.read, Parser.read, reference_append_slashes hslash h]

/-- Behind a slash nothing is trimmed. -/
theorem reference_slashed (hslash : text.head? = some '/') (h : ¬Ended text) (n : Nat) :
    reference (text ++ slashes (n + 1)) = kept text ++ slashes (n + 1) := by
  rw [reference_of_unended (head?_slashed hslash _)
    (not_endsPath_of_not_ended (not_ended_append_slashes h _)), kept_append_slashes]
  have hlast : kept text ++ slashes (n + 1) = kept text ++ slashes n ++ ['/'] := by
    rw [slashes, List.replicate_succ', ← List.append_assoc]
    rfl
  rw [hlast, List.rdropWhile_concat_neg _ _ _ (by decide)]

theorem kept_eq (text : List Char) :
    (kept text).rdropWhile isC0OrSpace ++ (kept text).rtakeWhile isC0OrSpace = kept text :=
  List.rdropWhile_append_rtakeWhile

theorem read_of_unpadded (hslash : text.head? = some '/') (hended : ¬Ended text)
    (h : Unpadded text) : u.read text = u.readReference (kept text) := by
  have hkept := kept_eq text
  rw [h, List.append_nil] at hkept
  rw [Parser.read, reference_of_unended hslash (not_endsPath_of_not_ended hended), hkept]

/-- Slashes behind an unpadded text that is more than one slash add empty segments. -/
theorem read_append_slashes (hslash : text.head? = some '/') (hended : ¬Ended text)
    (hpad : Unpadded text) (hne : kept text ≠ ['/']) (n : Nat) :
    ∃ k, n ≤ k + 2 ∧
      u.read (text ++ slashes n) = (u.read text).map (· ++ List.replicate k []) := by
  cases n with
  | zero =>
    refine ⟨0, by omega, ?_⟩
    rw [slashes, List.replicate_zero, List.append_nil]
    cases u.read text <;> simp
  | succ n =>
    rw [read_of_unpadded hslash hended hpad, Parser.read, reference_slashed hslash hended]
    exact readReference_append_slashes (head?_kept hslash) hne (n + 1)

theorem mem_pad (hc : c ∈ (kept text).rtakeWhile isC0OrSpace) : isC0OrSpace c = true :=
  List.mem_rtakeWhile_imp hc

theorem head?_trimmed (hslash : text.head? = some '/') (hended : ¬Ended text) :
    ((kept text).rdropWhile isC0OrSpace).head? = some '/' := by
  have h := head?_reference hslash
  rwa [reference_of_unended hslash (not_endsPath_of_not_ended hended)] at h

/-- What is rejected is rejected with slashes behind it. -/
theorem read_none_append_slashes (hslash : text.head? = some '/') (h : u.read text = none)
    (n : Nat) : u.read (text ++ slashes n) = none := by
  by_cases hended : Ended text
  · rw [read_append_slashes_of_ended hslash hended, h]
  · by_cases hpad : Unpadded text
    · have hne : kept text ≠ ['/'] := by
        intro hkept
        rw [read_of_unpadded hslash hended hpad, hkept] at h
        exact absurd h (by simp [readReference_slash])
      obtain ⟨k, -, hread⟩ := read_append_slashes (u := u) hslash hended hpad hne n
      rw [hread, h]
      rfl
    · cases n with
      | zero => rw [slashes, List.replicate_zero, List.append_nil, h]
      | succ n =>
        rw [Parser.read, reference_of_unended hslash (not_endsPath_of_not_ended hended)] at h
        rw [Parser.read, reference_slashed hslash hended, ← kept_eq text, List.append_assoc]
        exact readReference_space_none (head?_trimmed hslash hended) hpad (fun c hc => mem_pad hc) h
          (n + 1)

/-- What is read from a padded text is rejected, or longer, with a slash behind it. -/
theorem read_append_slash_of_padded (hslash : text.head? = some '/') (hended : ¬Ended text)
    (hpad : ¬Unpadded text) (h : u.read text = some path) :
    u.read (text ++ slashes 1) = none ∨
      ∃ longer, u.read (text ++ slashes 1) = some longer ∧
        (print path).length < (print (longer.rdropWhile List.isEmpty)).length := by
  rw [Parser.read, reference_of_unended hslash (not_endsPath_of_not_ended hended)] at h
  rw [Parser.read, reference_slashed hslash hended, ← kept_eq text, List.append_assoc]
  exact readReference_space_some (head?_trimmed hslash hended) hpad (fun c hc => mem_pad hc) h

end UrlPath

end NestWebTransport
