import NestWebTransport.Foundation.UrlReference
import NestWebTransport.Routing.RegistryIndexes

/-! Normalized gateway paths: when one more normalization, slashes at the end and a lookup agree
with them. -/
namespace NestWebTransport

namespace GatewayPath

open UrlPath

variable {u : Parser} {p : String} {text : List Char} {path : List (List Char)}

/-- The normal path as characters: the pathname, or the text itself where it is rejected. -/
def normal (u : Parser) (text : List Char) : List Char :=
  match u.read text with
  | none => text.rdropWhile (· == '/')
  | some path => if path = [[]] then ['/'] else print (path.rdropWhile List.isEmpty)

theorem normal_of_none (h : u.read text = none) : normal u text = text.rdropWhile (· == '/') := by
  rw [normal, h]

theorem normal_of_root (h : u.read text = some [[]]) : normal u text = ['/'] := by
  rw [normal, h]
  rfl

theorem normal_of_some (h : u.read text = some path) (hne : path ≠ [[]]) :
    normal u text = print (path.rdropWhile List.isEmpty) := by
  rw [normal, h]
  exact if_neg hne

theorem length_print_eq_one (h : (print path).length ≤ 1) (hne : path ≠ []) : path = [[]] := by
  obtain ⟨segment, rest, rfl⟩ := List.exists_cons_of_ne_nil hne
  rw [print_cons, List.length_cons, List.length_append] at h
  obtain rfl : segment = [] := List.eq_nil_of_length_eq_zero (by omega)
  cases rest with
  | nil => rfl
  | cons next rest =>
    rw [print_cons, List.length_cons] at h
    omega

theorem startsWith_slash_iff (s : String) :
    s.startsWith "/" = true ↔ s.toList.head? = some '/' := by
  have hiff : s.startsWith "/" = true ↔ ['/'] <+: s.toList := String.startsWith_string_iff
  rw [hiff, List.head?_eq_some_iff]
  exact exists_congr fun rest => eq_comm

theorem read_slash : u.read ['/'] = some [[]] := rfl

/-- Past the parser, normalizing drops the slashes at the end of more than one. -/
theorem normalizeGatewayPath_eq {pathname : String} (h : (u.pathname p).getD p = pathname)
    (hslash : pathname.toList.head? = some '/') :
    normalizeGatewayPath u.pathname p =
      if pathname.toList.length > 1 then stripTrailingSlashes pathname else pathname := by
  rw [normalizeGatewayPath, h, if_pos ((startsWith_slash_iff pathname).mpr hslash),
    String.length_toList]

theorem toList_stripTrailingSlashes (s : String) :
    (stripTrailingSlashes s).toList = s.toList.rdropWhile (· == '/') := String.toList_ofList

/-- Normalization, on the characters of a path. -/
theorem toList_normalizeGatewayPath (hslash : p.toList.head? = some '/') :
    (normalizeGatewayPath u.pathname p).toList = normal u p.toList := by
  cases hread : u.read p.toList with
  | none =>
    have hpathname : (u.pathname p).getD p = p := by
      rw [Parser.pathname, hread]
      rfl
    have hlength : p.toList.length > 1 := by
      obtain ⟨rest, hrest⟩ := List.head?_eq_some_iff.mp hslash
      cases rest with
      | nil =>
        rw [hrest, read_slash] at hread
        cases hread
      | cons c rest =>
        rw [hrest, List.length_cons, List.length_cons]
        omega
    rw [normalizeGatewayPath_eq hpathname hslash, if_pos hlength, toList_stripTrailingSlashes,
      normal_of_none hread]
  | some path =>
    have hne := read_ne_nil hslash hread
    have hpathname : (u.pathname p).getD p = String.ofList (print path) := by
      rw [Parser.pathname, hread]
      rfl
    have hhead : (String.ofList (print path)).toList.head? = some '/' := by
      rw [String.toList_ofList]
      exact head?_print hne
    rw [normalizeGatewayPath_eq hpathname hhead, String.toList_ofList]
    split
    · rename_i hlength
      have hroot : path ≠ [[]] := by
        rintro rfl
        exact absurd hlength (by decide)
      rw [toList_stripTrailingSlashes, String.toList_ofList,
        rdropWhile_print (read_clean hslash hread), normal_of_some hread hroot]
    · rename_i hlength
      obtain rfl := length_print_eq_one (Nat.le_of_not_lt hlength) hne
      rw [String.toList_ofList, normal_of_root hread]
      rfl

/-! ### What normalizing keeps -/

/-- Each character that is normal is plain or a slash, where the text is read. -/
theorem mem_normal (hslash : text.head? = some '/') (h : u.read text = some path) {c : Char}
    (hc : c ∈ normal u text) : Plain c ∨ c = '/' := by
  by_cases hroot : path = [[]]
  · rw [normal_of_root (hroot ▸ h)] at hc
    exact Or.inr (List.mem_singleton.mp hc)
  · rw [normal_of_some h hroot] at hc
    refine mem_print (fun s hs => read_clean hslash h s ?_) hc
    exact (List.rdropWhile_prefix _ _).subset hs

/-- A text that is read has no normal path longer than its pathname. -/
theorem length_normal_le (hne : path ≠ []) (h : u.read text = some path) :
    (normal u text).length ≤ (print path).length := by
  by_cases hroot : path = [[]]
  · obtain rfl := hroot
    rw [normal_of_root h]
    exact Nat.le_refl _
  · rw [normal_of_some h hroot]
    obtain ⟨tail, htail⟩ := List.rdropWhile_prefix List.isEmpty path
    have hprint := congrArg (fun path => (print path).length) htail
    simp only [print_append, List.length_append] at hprint
    omega

/-- What is normal is no other text's slashes: it is a slash, or does not end with one. -/
theorem rdropWhile_ne_slash (text : List Char) : text.rdropWhile (· == '/') ≠ ['/'] := by
  intro h
  have hself := List.rdropWhile_idempotent (· == '/') text
  rw [h] at hself
  exact absurd hself (by decide)

theorem rdropWhile_append_of_pos {α : Type*} {p : α → Bool} {a b : List α} (h : ∀ x ∈ b, p x) :
    (a ++ b).rdropWhile p = a.rdropWhile p := by
  rw [List.rdropWhile, List.rdropWhile, List.reverse_append, List.dropWhile_append_of_pos]
  exact fun x hx => h x (List.mem_reverse.mp hx)

theorem rdropWhile_append_slashes (text : List Char) (n : Nat) :
    (text ++ slashes n).rdropWhile (· == '/') = text.rdropWhile (· == '/') :=
  rdropWhile_append_of_pos fun _ hc => beq_iff_eq.mpr (List.eq_of_mem_replicate hc)

theorem exists_slashes (text : List Char) :
    ∃ n, text = text.rdropWhile (· == '/') ++ slashes n := by
  refine ⟨(text.rtakeWhile (· == '/')).length, ?_⟩
  have hall : text.rtakeWhile (· == '/') = slashes (text.rtakeWhile (· == '/')).length :=
    List.eq_replicate_of_mem fun c hc =>
      beq_iff_eq.mp (List.mem_rtakeWhile_imp (p := (· == '/')) hc)
  rw [← hall, List.rdropWhile_append_rtakeWhile]

/-! ### When a path is regular -/

/-- A text whose normal path holds when it is read again, and with slashes behind it.

A rejected text is not all slashes and is rejected without those at its end. The path of a text
that is read is a slash or more than slashes, it does not begin with two slashes and an authority,
and it is no single slash and keeps all of the text that could stand before a slash. -/
def Regular (u : Parser) (text : List Char) : Prop :=
  match u.read text with
  | none => text.rdropWhile (· == '/') ≠ [] ∧ u.read (text.rdropWhile (· == '/')) = none
  | some path =>
    (path = [[]] ∨ ∃ segment ∈ path, segment ≠ []) ∧
      (path.head? = some [] → ∀ authority ∈ path.find? (!·.isEmpty),
        u.isAuthority authority = false) ∧
      (Ended text ∨ path ≠ [[]] ∧ Unpadded text)

theorem regular_of_none (h : u.read text = none) :
    Regular u text ↔
      text.rdropWhile (· == '/') ≠ [] ∧ u.read (text.rdropWhile (· == '/')) = none := by
  rw [Regular, h]

theorem regular_of_some (h : u.read text = some path) :
    Regular u text ↔
      (path = [[]] ∨ ∃ segment ∈ path, segment ≠ []) ∧
        (path.head? = some [] → ∀ authority ∈ path.find? (!·.isEmpty),
          u.isAuthority authority = false) ∧
        (Ended text ∨ path ≠ [[]] ∧ Unpadded text) := by
  rw [Regular, h]

theorem rdropWhile_isEmpty_ne_nil (h : ∃ segment ∈ path, segment ≠ []) :
    path.rdropWhile List.isEmpty ≠ [] := by
  obtain ⟨segment, hmem, hne⟩ := h
  intro hnil
  exact hne (List.isEmpty_iff.mp (List.rdropWhile_eq_nil_iff.mp hnil segment hmem))

/-- A regular path keeps its leading slash. -/
theorem Regular.head? (hslash : text.head? = some '/') (h : Regular u text) :
    (normal u text).head? = some '/' := by
  cases hread : u.read text with
  | none =>
    obtain ⟨hne, -⟩ := (regular_of_none hread).mp h
    obtain ⟨tail, htail⟩ := List.rdropWhile_prefix (· == '/') text
    rw [normal_of_none hread]
    rw [← htail, List.head?_append_of_ne_nil _ hne] at hslash
    exact hslash
  | some path =>
    obtain ⟨hsegment, -⟩ := (regular_of_some hread).mp h
    by_cases hroot : path = [[]]
    · rw [normal_of_root (hroot ▸ hread)]
      rfl
    · rw [normal_of_some hread hroot]
      exact head?_print (rdropWhile_isEmpty_ne_nil (hsegment.resolve_left hroot))

/-- Normal paths that are not read as an authority are read as they are. -/
theorem normal_print (hclean : ∀ s ∈ path, Clean s) (hpath : path.rdropWhile List.isEmpty = path)
    (hne : path ≠ [])
    (hauthority : path.head? = some [] → ∀ authority ∈ path.find? (!·.isEmpty),
      u.isAuthority authority = false) :
    normal u (print path) = print path := by
  obtain ⟨segment, rest, rfl⟩ := List.exists_cons_of_ne_nil hne
  have hroot : segment :: rest ≠ [[]] := by
    intro heq
    rw [heq] at hpath
    exact absurd hpath (by decide)
  cases segment with
  | cons c front =>
    rw [normal_of_some (read_print hclean (List.cons_ne_nil _ _)) hroot, hpath]
  | nil =>
    have hrest : rest ≠ [] := fun h => hroot (h ▸ rfl)
    have hread := read_print_nil (u := u)
      (fun s hs => hclean s (List.mem_cons_of_mem [] hs)) hrest
    have hnone : u.read (print ([] :: rest)) = none := by
      rw [hread]
      cases hdrop : rest.dropWhile List.isEmpty with
      | nil => rfl
      | cons authority tail =>
        have hfind : ([] :: rest).find? (!·.isEmpty) = some authority := by
          rw [List.find?_not_eq_head?_dropWhile, List.dropWhile_cons_of_pos rfl, hdrop,
            List.head?_cons]
        exact if_neg (by rw [hauthority rfl authority hfind]; exact Bool.false_ne_true)
    rw [normal_of_none hnone, rdropWhile_print hclean, hpath]

theorem find?_rdropWhile (path : List (List Char)) :
    (path.rdropWhile List.isEmpty).find? (!·.isEmpty) = path.find? (!·.isEmpty) := by
  have hempty : (path.rtakeWhile List.isEmpty).find? (!·.isEmpty) = none := by
    refine List.find?_eq_none.mpr fun segment hsegment => ?_
    rw [List.mem_rtakeWhile_imp hsegment]
    exact Bool.false_ne_true
  conv_rhs => rw [← List.rdropWhile_append_rtakeWhile (p := List.isEmpty) (l := path),
    List.find?_append, hempty, Option.or_none]

/-- Normalizing a regular path twice is normalizing it once. -/
theorem Regular.normal_normal (hslash : text.head? = some '/') (h : Regular u text) :
    normal u (normal u text) = normal u text := by
  cases hread : u.read text with
  | none =>
    obtain ⟨hne, hagain⟩ := (regular_of_none hread).mp h
    rw [normal_of_none hread, normal_of_none hagain]
    exact List.rdropWhile_idempotent _ _
  | some path =>
    obtain ⟨hsegment, hauthority, -⟩ := (regular_of_some hread).mp h
    by_cases hroot : path = [[]]
    · have hnormal := normal_of_root (hroot ▸ hread)
      rw [hnormal, normal_of_root read_slash]
    · have hne := rdropWhile_isEmpty_ne_nil (hsegment.resolve_left hroot)
      obtain ⟨tail, htail⟩ := List.rdropWhile_prefix List.isEmpty path
      rw [normal_of_some hread hroot]
      refine normal_print (fun s hs => read_clean hslash hread s ?_)
        (List.rdropWhile_idempotent _ _) hne ?_
      · exact (List.rdropWhile_prefix _ _).subset hs
      · rw [find?_rdropWhile]
        intro hhead
        refine hauthority ?_
        rw [← htail, List.head?_append_of_ne_nil _ hne]
        exact hhead

/-- Trailing slashes make no difference to a regular path. -/
theorem Regular.normal_append_slashes (hslash : text.head? = some '/') (h : Regular u text)
    (n : Nat) : normal u (text ++ slashes n) = normal u text := by
  cases hread : u.read text with
  | none =>
    rw [normal_of_none hread, normal_of_none (read_none_append_slashes hslash hread n),
      rdropWhile_append_slashes]
  | some path =>
    obtain ⟨-, -, hend⟩ := (regular_of_some hread).mp h
    rcases hend with hended | ⟨hroot, hpad⟩
    · rw [normal, normal, read_append_slashes_of_ended hslash hended, hread]
    · by_cases hended : Ended text
      · rw [normal, normal, read_append_slashes_of_ended hslash hended, hread]
      · have hkept : kept text ≠ ['/'] := by
          intro hkept
          rw [read_of_unpadded hslash hended hpad, hkept] at hread
          exact hroot (Option.some.inj hread).symm
        obtain ⟨k, -, hlong⟩ := read_append_slashes (u := u) hslash hended hpad hkept n
        rw [hread] at hlong
        have hroot' : path ++ List.replicate k [] ≠ [[]] := by
          intro heq
          have hlength := congrArg List.length heq
          have hpos := List.length_pos_iff.mpr (read_ne_nil hslash hread)
          rw [List.length_append, List.length_replicate, List.length_singleton] at hlength
          obtain rfl : k = 0 := by omega
          exact hroot (by simpa using heq)
        have hdrop : (path ++ List.replicate k []).rdropWhile List.isEmpty =
            path.rdropWhile List.isEmpty :=
          rdropWhile_append_of_pos fun _ hs => List.isEmpty_iff.mpr (List.eq_of_mem_replicate hs)
        rw [normal_of_some hread hroot, normal_of_some hlong hroot', hdrop]

/-! ### Regular paths are the only ones -/

/-- A rejected text is rejected without the slashes at its end, if its normal path stays. -/
theorem read_rdropWhile (h : u.read text = none)
    (hhead : (normal u text).head? = some '/') (hfixed : normal u (normal u text) = normal u text) :
    u.read (text.rdropWhile (· == '/')) = none := by
  rw [normal_of_none h] at hhead hfixed
  obtain ⟨n, hn⟩ := exists_slashes text
  cases hread : u.read (text.rdropWhile (· == '/')) with
  | none => rfl
  | some path =>
    have hplain : ∀ c ∈ text.rdropWhile (· == '/'), isC0OrSpace c = false := by
      intro c hc
      rw [← hfixed] at hc
      rcases mem_normal hhead hread hc with hc | rfl
      · exact hc.not_c0OrSpace
      · decide
    have hkept : kept (text.rdropWhile (· == '/')) = text.rdropWhile (· == '/') := by
      refine List.filter_eq_self.mpr fun c hc => ?_
      rw [Bool.not_eq_true', Bool.eq_false_iff]
      intro htab
      exact Bool.eq_false_iff.mp (hplain c hc) (isC0OrSpace_of_isTabOrNewline htab)
    have hpad : Unpadded (text.rdropWhile (· == '/')) := by
      rw [Unpadded, hkept, List.rtakeWhile_eq_nil_iff]
      intro hne
      rw [hplain _ (List.getLast_mem hne)]
      exact Bool.false_ne_true
    rw [hn] at h
    by_cases hended : Ended (text.rdropWhile (· == '/'))
    · rw [read_append_slashes_of_ended hhead hended, hread] at h
      exact absurd h (Option.some_ne_none _)
    · have hne : kept (text.rdropWhile (· == '/')) ≠ ['/'] := by
        rw [hkept]
        exact rdropWhile_ne_slash text
      obtain ⟨k, -, hlong⟩ := read_append_slashes (u := u) hhead hended hpad hne n
      rw [hlong, hread] at h
      exact absurd h (Option.some_ne_none _)

theorem exists_segment_ne_nil (h : u.read text = some path) (hroot : path ≠ [[]])
    (hhead : (normal u text).head? = some '/') : ∃ segment ∈ path, segment ≠ [] := by
  by_contra hall
  have hnil : path.rdropWhile List.isEmpty = [] := by
    refine List.rdropWhile_eq_nil_iff.mpr fun segment hsegment => List.isEmpty_iff.mpr ?_
    by_contra hne
    exact hall ⟨segment, hsegment, hne⟩
  rw [normal_of_some h hroot, hnil] at hhead
  cases hhead

/-- A normal path that is read as an authority does not stay. -/
theorem normal_print_ne (hclean : ∀ s ∈ path, Clean s) (hhead : path.head? = some [])
    {authority : List Char} (hfind : path.find? (!·.isEmpty) = some authority)
    (hauthority : u.isAuthority authority = true) : normal u (print path) ≠ print path := by
  obtain ⟨rest, rfl⟩ := List.head?_eq_some_iff.mp hhead
  rw [List.find?_not_eq_head?_dropWhile, List.dropWhile_cons_of_pos rfl] at hfind
  obtain ⟨tail, hdrop⟩ := List.head?_eq_some_iff.mp hfind
  have hne : rest ≠ [] := by
    rintro rfl
    cases hdrop
  have hread := read_print_nil (u := u) (fun s hs => hclean s (List.mem_cons_of_mem [] hs)) hne
  rw [hdrop] at hread
  have hread : u.read (print ([] :: rest)) = some (if tail = [] then [[]] else tail) :=
    hread.trans (if_pos hauthority)
  have hshort : (print (if tail = [] then [[]] else tail)).length ≤ (print tail).length + 1 := by
    split
    · exact Nat.le_add_left _ _
    · exact Nat.le_succ _
  have hnormal := length_normal_le (by split <;> simp_all) hread
  have hlong : (print tail).length + 2 ≤ (print ([] :: rest)).length := by
    rw [← List.takeWhile_append_dropWhile (p := List.isEmpty) (l := rest), hdrop, print_cons,
      print_append, print_cons]
    simp only [List.length_append, List.length_cons]
    omega
  intro heq
  rw [heq] at hnormal
  omega

/-- A path that normalization keeps is not read as an authority the second time. -/
theorem not_isAuthority_of_fixed (hslash : text.head? = some '/') (h : u.read text = some path)
    (hroot : path ≠ [[]]) (hsegment : ∃ segment ∈ path, segment ≠ [])
    (hfixed : normal u (normal u text) = normal u text) (hhead : path.head? = some []) :
    ∀ authority ∈ path.find? (!·.isEmpty), u.isAuthority authority = false := by
  intro authority hfind
  rw [Bool.eq_false_iff]
  intro hauthority
  rw [normal_of_some h hroot] at hfixed
  obtain ⟨tail, htail⟩ := List.rdropWhile_prefix List.isEmpty path
  have hdropped : (path.rdropWhile List.isEmpty).head? = some [] := by
    rw [← htail, List.head?_append_of_ne_nil _ (rdropWhile_isEmpty_ne_nil hsegment)] at hhead
    exact hhead
  refine normal_print_ne (fun s hs => read_clean hslash h s ?_) hdropped
    ((find?_rdropWhile path).trans hfind) hauthority hfixed
  exact (List.rdropWhile_prefix _ _).subset hs

/-- A path whose trailing slash makes no difference ends in no spaces. -/
theorem unpadded_of_trailing (hslash : text.head? = some '/') (h : u.read text = some path)
    (hended : ¬Ended text) (htrailing : normal u (text ++ slashes 1) = normal u text) :
    Unpadded text := by
  by_contra hpad
  rcases read_append_slash_of_padded hslash hended hpad h with hnone | ⟨longer, hlonger, hlength⟩
  · -- the rejected text keeps what the pathname of the other has lost or encoded
    rw [normal_of_none hnone, rdropWhile_append_slashes] at htrailing
    obtain ⟨c, hc⟩ := List.exists_mem_of_ne_nil _ hpad
    have hspace : isC0OrSpace c = true := List.mem_rtakeWhile_imp hc
    have hmem : c ∈ text :=
      List.mem_of_mem_filter ((List.rtakeWhile_suffix isC0OrSpace (l := kept text)).subset hc)
    obtain ⟨n, hn⟩ := exists_slashes text
    rw [hn] at hmem
    rcases List.mem_append.mp hmem with hmem | hmem
    · rw [htrailing] at hmem
      rcases mem_normal hslash h hmem with hplain | rfl
      · exact absurd hspace (Bool.eq_false_iff.mp hplain.not_c0OrSpace)
      · exact absurd hspace (by decide)
    · rw [List.eq_of_mem_replicate hmem] at hspace
      exact absurd hspace (by decide)
  · have hroot : longer ≠ [[]] := by
      rintro rfl
      exact absurd hlength (Nat.not_lt_zero _)
    have hshort := length_normal_le (read_ne_nil hslash h) h
    rw [← htrailing, normal_of_some hlonger hroot] at hshort
    omega

/-- A path that tolerates trailing slashes does not read as the root by another name. -/
theorem ne_root_of_trailing (hslash : text.head? = some '/') (h : u.read text = some path)
    (hended : ¬Ended text) (hpad : Unpadded text)
    (htrailing : ∀ n, normal u (text ++ slashes n) = normal u text) : path ≠ [[]] := by
  rintro rfl
  rw [normal_of_root h] at htrailing
  by_cases hkept : kept text = ['/']
  · have hnone : u.read (text ++ slashes 1) = none := by
      rw [Parser.read, reference_slashed hslash hended, hkept]
      exact readAuthority_nil
    have hone := htrailing 1
    rw [normal_of_none hnone] at hone
    exact rdropWhile_ne_slash _ hone
  · obtain ⟨k, hk, hlong⟩ := read_append_slashes (u := u) hslash hended hpad hkept 3
    obtain ⟨m, rfl⟩ : ∃ m, k = m + 1 := ⟨k - 1, by omega⟩
    have hthree := htrailing 3
    have hdrop : ([[]] ++ List.replicate (m + 1) ([] : List Char)).rdropWhile List.isEmpty =
        [] := by
      refine List.rdropWhile_eq_nil_iff.mpr fun segment hsegment => ?_
      rcases List.mem_append.mp hsegment with hsegment | hsegment
      · rw [List.mem_singleton.mp hsegment]
        rfl
      · rw [List.eq_of_mem_replicate hsegment]
        rfl
    rw [h] at hlong
    rw [normal_of_some hlong (by simp [List.replicate_succ]), hdrop] at hthree
    cases hthree

/-- Conversely only the regular paths have a canonical form. -/
theorem regular_of_normal (hslash : text.head? = some '/')
    (hhead : (normal u text).head? = some '/') (hfixed : normal u (normal u text) = normal u text)
    (htrailing : ¬Ended text → ∀ n, normal u (text ++ slashes n) = normal u text) :
    Regular u text := by
  cases hread : u.read text with
  | none =>
    refine (regular_of_none hread).mpr ⟨?_, read_rdropWhile hread hhead hfixed⟩
    rintro hnil
    rw [normal_of_none hread, hnil] at hhead
    cases hhead
  | some path =>
    refine (regular_of_some hread).mpr ⟨?_, ?_, ?_⟩
    · exact or_iff_not_imp_left.mpr fun hroot => exists_segment_ne_nil hread hroot hhead
    · intro hempty authority hfind
      have hne : authority ≠ [] := by
        have hpos := List.find?_some hfind
        rintro rfl
        cases hpos
      have hroot : path ≠ [[]] := by
        rintro rfl
        cases hfind
      exact not_isAuthority_of_fixed hslash hread hroot ⟨_, List.mem_of_find?_eq_some hfind, hne⟩
        hfixed hempty authority hfind
    · refine or_iff_not_imp_left.mpr fun hended => ?_
      have hpad := unpadded_of_trailing hslash hread hended (htrailing hended 1)
      exact ⟨ne_root_of_trailing hslash hread hended hpad (htrailing hended), hpad⟩

/-! ### Canonical paths -/

def QueryFree (p : String) : Prop := '?' ∉ p.toList.takeWhile (· != '#')

/-- One normal path stands for `p` wherever the registry normalizes it. -/
structure Canonical (u : Parser) (p : String) : Prop where
  slash : (normalizeGatewayPath u.pathname p).startsWith "/" = true
  fixed : normalizeGatewayPath u.pathname (normalizeGatewayPath u.pathname p) =
    normalizeGatewayPath u.pathname p
  trailing : QueryFree p → ∀ n, normalizeGatewayPath u.pathname (p ++ String.ofList (slashes n)) =
    normalizeGatewayPath u.pathname p
  key : ∀ kind route, RegistryIndexes.registryKey u.pathname p kind route =
    RegistryIndexes.registryKey u.pathname (normalizeGatewayPath u.pathname p) kind route
  found : ∀ calls, ∀ handler ∈ registrations calls, handler.gatewayPath = p →
    handler ∈ (RegistryIndexes.after u.pathname calls).find u.pathname p handler.kind handler.route

/-- A handler is in the bucket of its own key. -/
theorem mem_bucket {r : GatewayRegistry} {handler : CompiledWebTransportHandler} {key : String}
    (h : handler ∈ r.handlers)
    (hkey : r.registryKey handler.gatewayPath handler.kind handler.route = key) :
    handler ∈ r.bucket key :=
  List.mem_filter.mpr ⟨h, beq_iff_eq.mpr hkey⟩

/-- Where normalizing twice is normalizing once, a lookup answers what was registered. -/
theorem mem_find {r : GatewayRegistry} {handler : CompiledWebTransportHandler}
    (h : handler ∈ r.handlers)
    (hfixed : r.normalizeGatewayPath (r.normalizeGatewayPath handler.gatewayPath) =
      r.normalizeGatewayPath handler.gatewayPath) :
    handler ∈ r.find handler.gatewayPath handler.kind handler.route := by
  have hkey : ∀ route, r.registryKey handler.gatewayPath handler.kind route =
      r.registryKey (r.normalizeGatewayPath handler.gatewayPath) handler.kind route := by
    intro route
    rw [GatewayRegistry.registryKey, GatewayRegistry.registryKey, hfixed]
  refine List.mem_append.mpr ?_
  cases hroute : handler.route with
  | none => exact Or.inr (mem_bucket h (by rw [hroute]; exact hkey none))
  | some name =>
    by_cases hname : name = ""
    · refine Or.inr (mem_bucket h ?_)
      rw [hroute, hname]
      exact hkey none
    · refine Or.inl ?_
      change handler ∈ if name = "" then [] else _
      rw [if_neg hname]
      exact mem_bucket h (by rw [hroute]; exact hkey (some name))

theorem mem_find_after {parse : String → Option String} {calls : List RegistryCall}
    {handler : CompiledWebTransportHandler} (h : handler ∈ registrations calls)
    (hfixed : normalizeGatewayPath parse (normalizeGatewayPath parse handler.gatewayPath) =
      normalizeGatewayPath parse handler.gatewayPath) :
    handler ∈ (RegistryIndexes.after parse calls).find parse handler.gatewayPath handler.kind
      handler.route := by
  rw [(RegistryIndexes.after_indexes calls).find_eq]
  refine mem_find h ?_
  simp only [RegistryIndexes.normalizeGatewayPath_registryOf]
  exact hfixed

theorem toList_append_slashes (p : String) (n : Nat) :
    (p ++ String.ofList (slashes n)).toList = p.toList ++ slashes n := by
  rw [String.toList_append, String.toList_ofList]

theorem toList_trailing (hslash : p.toList.head? = some '/') (n : Nat) :
    (normalizeGatewayPath u.pathname (p ++ String.ofList (slashes n))).toList =
      normal u (p.toList ++ slashes n) := by
  rw [toList_normalizeGatewayPath, toList_append_slashes]
  rw [toList_append_slashes]
  exact head?_slashed hslash n

/-- A request path has one normal form for the registry exactly if it is regular. -/
theorem canonical_iff_regular (u : Parser) (p : String) (hslash : p.toList.head? = some '/') :
    Canonical u p ↔ Regular u p.toList := by
  have hnormal := toList_normalizeGatewayPath (u := u) hslash
  constructor
  · intro h
    have hhead := (startsWith_slash_iff _).mp h.slash
    have htwice := toList_normalizeGatewayPath (u := u) hhead
    rw [h.fixed, hnormal] at htwice
    rw [hnormal] at hhead
    refine regular_of_normal hslash hhead htwice.symm fun hended n => ?_
    have hquery : QueryFree p := by
      intro hmem
      exact hended ⟨'?', (List.takeWhile_sublist _).subset hmem, by decide⟩
    rw [← toList_trailing hslash, h.trailing hquery, hnormal]
  · intro h
    have hhead : (normalizeGatewayPath u.pathname p).toList.head? = some '/' := by
      rw [hnormal]
      exact h.head? hslash
    have hfixed : normalizeGatewayPath u.pathname (normalizeGatewayPath u.pathname p) =
        normalizeGatewayPath u.pathname p := by
      refine String.toList_inj.mp ?_
      rw [toList_normalizeGatewayPath hhead, hnormal]
      exact h.normal_normal hslash
    refine ⟨(startsWith_slash_iff _).mpr hhead, hfixed, fun _ n => ?_, fun kind route => ?_, ?_⟩
    · refine String.toList_inj.mp ?_
      rw [toList_trailing hslash, hnormal]
      exact h.normal_append_slashes hslash n
    · rw [RegistryIndexes.registryKey, RegistryIndexes.registryKey, hfixed]
    · rintro calls handler hhandler rfl
      exact mem_find_after hhandler hfixed

/-- Authorities that are host names: letters, digits, hyphens and dots. -/
def hostNames : Parser where
  isAuthority text := !text.isEmpty && text.all fun c => c.isAlphanum || c == '-' || c == '.'
  isAuthority_nil := rfl
  isAuthority_concat := by
    intro text c hc
    have hall : ∀ n : Fin 0x21, ((Char.ofNat n).isAlphanum || Char.ofNat n == '-' ||
        Char.ofNat n == '.') = false := by decide
    have hlast := hall ⟨c.toNat, Nat.lt_succ_of_le (of_decide_eq_true hc)⟩
    rw [Char.ofNat_toNat] at hlast
    rw [List.all_append, List.all_cons, hlast, Bool.false_and, Bool.and_false, Bool.and_false]
  readOther text := some (parsePath text)

theorem canonical_iff_regular_chat : Canonical hostNames "/chat/" := by
  have hread : hostNames.read "/chat/".toList = some ["chat".toList, []] := by decide +kernel
  refine (canonical_iff_regular hostNames "/chat/" (by decide)).mpr ((regular_of_some hread).mpr ?_)
  have hpad : Unpadded "/chat/".toList := by decide +kernel
  exact ⟨.inr ⟨"chat".toList, List.mem_cons_self, (by decide)⟩, fun hhead =>
    absurd hhead (by decide),
    .inr ⟨(by decide), hpad⟩⟩

/-- Two slashes are rejected by the parser, and nothing is left of them. -/
theorem not_canonical_slashes :
    normalizeGatewayPath hostNames.pathname "//" = "" ∧ ¬Canonical hostNames "//" := by
  have hnormal : normalizeGatewayPath hostNames.pathname "//" = "" := by decide +kernel
  refine ⟨hnormal, fun h => ?_⟩
  have hslash := h.slash
  rw [hnormal] at hslash
  exact absurd hslash (by decide +kernel)

end GatewayPath

end NestWebTransport
