import Mathlib.Data.List.DropRight
import Mathlib.Data.List.GetD

/-! The path of a URL with a special scheme: how its text is read and printed. -/
namespace NestWebTransport

namespace UrlPath

/-! ### Characters -/

def isSlash (c : Char) : Bool := c == '/' || c == '\\'

def isC0OrSpace (c : Char) : Bool := c.toNat ≤ 0x20

def isTabOrNewline (c : Char) : Bool := c == '\t' || c == '\n' || c == '\r'

def endsPath (c : Char) : Bool := c == '?' || c == '#'

/-- The path percent-encode set. -/
def isEncoded (c : Char) : Bool :=
  isC0OrSpace c || 0x7E < c.toNat || "\"#<>?^`\x7b\x7d".toList.contains c

def hexDigit (n : Nat) : Char := "0123456789ABCDEF".toList.getD n '0'

def percentByte (b : UInt8) : List Char :=
  ['%', hexDigit (b.toNat / 16), hexDigit (b.toNat % 16)]

def encodeChar (c : Char) : List Char :=
  if isEncoded c then (String.utf8EncodeChar c).flatMap percentByte else [c]

def encode (text : List Char) : List Char := text.flatMap encodeChar

/-! ### Paths -/

def isSingleDot (segment : List Char) : Bool :=
  [".", "%2e"].contains (String.ofList (segment.map Char.toLower))

def isDoubleDot (segment : List Char) : Bool :=
  ["..", ".%2e", "%2e.", "%2e%2e"].contains (String.ofList (segment.map Char.toLower))

/-- A segment that a slash follows. -/
def step (path : List (List Char)) (segment : List Char) : List (List Char) :=
  if isDoubleDot segment then path.dropLast
  else if isSingleDot segment then path
  else path ++ [segment]

/-- The segment at the end of the path: dots there leave an empty segment. -/
def finish (path : List (List Char)) (segment : List Char) : List (List Char) :=
  if isDoubleDot segment then path.dropLast ++ [[]]
  else if isSingleDot segment then path ++ [[]]
  else path ++ [segment]

def readPath : List (List Char) → List (List Char) → List (List Char)
  | path, [] => path
  | path, [segment] => finish path segment
  | path, segment :: rest => readPath (step path segment) rest

def parsePath (text : List Char) : List (List Char) :=
  readPath [] ((text.splitOnP isSlash).map encode)

/-- The path as it is printed. -/
def print (path : List (List Char)) : List Char := path.flatMap ('/' :: ·)

variable {c : Char} {text a b segment : List Char} {segments path q : List (List Char)}

/-! ### Plain characters -/

/-- A character that is kept as it is and divides nothing. -/
def Plain (c : Char) : Prop := isEncoded c = false ∧ isSlash c = false

instance : DecidablePred Plain := fun _ => inferInstanceAs (Decidable (_ ∧ _))

theorem plain_hexDigit (n : Nat) : Plain (hexDigit n) := by
  by_cases hn : n < 16
  · have hall : ∀ m : Fin 16, Plain (hexDigit m) := by decide
    exact hall ⟨n, hn⟩
  · have hdefault : hexDigit n = '0' :=
      List.getD_eq_default _ _ (by simpa using Nat.le_of_not_lt hn)
    rw [hdefault]
    decide

theorem plain_of_mem_percentByte {byte : UInt8} (h : c ∈ percentByte byte) : Plain c := by
  simp only [percentByte, List.mem_cons, List.not_mem_nil, or_false] at h
  rcases h with rfl | rfl | rfl
  · decide
  · exact plain_hexDigit _
  · exact plain_hexDigit _

theorem plain_of_mem_encodeChar {d : Char} (hc : isSlash c = false) (h : d ∈ encodeChar c) :
    Plain d := by
  unfold encodeChar at h
  split at h
  · obtain ⟨byte, -, hbyte⟩ := List.mem_flatMap.mp h
    exact plain_of_mem_percentByte hbyte
  · rename_i hcode
    rcases List.mem_singleton.mp h with rfl
    exact ⟨Bool.eq_false_iff.mpr hcode, hc⟩

theorem plain_of_mem_encode {d : Char} (hc : ∀ c ∈ text, isSlash c = false)
    (h : d ∈ encode text) : Plain d := by
  obtain ⟨c, hmem, hd⟩ := List.mem_flatMap.mp h
  exact plain_of_mem_encodeChar (hc c hmem) hd

theorem encode_of_plain (h : ∀ c ∈ text, Plain c) : encode text = text := by
  induction text with
  | nil => rfl
  | cons c text ih =>
    have hchar : encodeChar c = [c] := if_neg (by simp [(h c List.mem_cons_self).1])
    have htext := ih fun d hd => h d (List.mem_cons_of_mem c hd)
    rw [encode, List.flatMap_cons, hchar, ← encode, htext, List.singleton_append]

theorem encode_append : encode (a ++ b) = encode a ++ encode b := List.flatMap_append

theorem Plain.not_c0OrSpace (h : Plain c) : isC0OrSpace c = false := by
  have hcode := h.1
  simp only [isEncoded, Bool.or_eq_false_iff] at hcode
  exact hcode.1.1

theorem Plain.not_endsPath (h : Plain c) : endsPath c = false := by
  rw [Bool.eq_false_iff]
  intro hends
  have hcases : c = '?' ∨ c = '#' := by simpa [endsPath] using hends
  rcases hcases with rfl | rfl
  · exact absurd h (by decide)
  · exact absurd h (by decide)

theorem isC0OrSpace_of_isTabOrNewline (h : isTabOrNewline c = true) : isC0OrSpace c = true := by
  have hcases : (c = '\t' ∨ c = '\n') ∨ c = '\r' := by simpa [isTabOrNewline] using h
  rcases hcases with (rfl | rfl) | rfl <;> decide

theorem not_isSlash_of_isC0OrSpace (h : isC0OrSpace c = true) : isSlash c = false := by
  rw [Bool.eq_false_iff]
  intro hslash
  have hcases : c = '/' ∨ c = '\\' := by simpa [isSlash] using hslash
  rcases hcases with rfl | rfl
  · exact absurd h (by decide)
  · exact absurd h (by decide)

/-! ### Dots -/

def isDot (segment : List Char) : Bool := isDoubleDot segment || isSingleDot segment

/-- A control or a space is written with a digit that no dot segment has. -/
theorem exists_digit_mem_encodeChar (h : isC0OrSpace c = true) :
    ∃ d ∈ encodeChar c, d = '0' ∨ d = '1' := by
  have hall : ∀ n : Fin 0x21, (encodeChar (Char.ofNat n)).any (fun d => d == '0' || d == '1') := by
    decide
  have hc := hall ⟨c.toNat, Nat.lt_succ_of_le (of_decide_eq_true h)⟩
  simpa using hc

/-- A segment with the digit 0 or 1 is no dot segment. -/
theorem not_isDot_of_digit {d : Char} (hmem : d ∈ segment) (hd : d = '0' ∨ d = '1') :
    isDot segment = false := by
  rw [Bool.eq_false_iff]
  intro hdot
  have hlower : d ∈ (String.ofList (segment.map Char.toLower)).toList := by
    rw [String.toList_ofList]
    exact List.mem_map.mpr ⟨d, hmem, by rcases hd with rfl | rfl <;> decide⟩
  have hcases : String.ofList (segment.map Char.toLower) ∈
      ["..", ".%2e", "%2e.", "%2e%2e"] ++ [".", "%2e"] := by
    simpa only [isDot, isDoubleDot, isSingleDot, Bool.or_eq_true, List.contains_iff_mem,
      ← List.mem_append] using hdot
  have hall : ∀ s ∈ ["..", ".%2e", "%2e.", "%2e%2e"] ++ [".", "%2e"],
      '0' ∉ s.toList ∧ '1' ∉ s.toList := by decide
  rcases hd with rfl | rfl
  · exact (hall _ hcases).1 hlower
  · exact (hall _ hcases).2 hlower

/-! ### Reading segments -/

/-- What a path holds once it is read: plain segments that are no dots. -/
def Clean (segment : List Char) : Prop :=
  (∀ c ∈ segment, Plain c) ∧ isDoubleDot segment = false ∧ isSingleDot segment = false

theorem clean_nil : Clean [] := ⟨by simp, by decide, by decide⟩

/-- No segment holds a slash. -/
theorem not_isSlash_of_mem_splitOnP (h : segment ∈ text.splitOnP isSlash) (hc : c ∈ segment) :
    isSlash c = false := by
  induction text generalizing segment with
  | nil =>
    rw [List.splitOnP_nil, List.mem_singleton] at h
    exact absurd hc (h ▸ List.not_mem_nil)
  | cons x text ih =>
    rw [List.splitOnP_cons_eq_if_modifyHead] at h
    split at h
    · rcases List.mem_cons.mp h with rfl | h
      · exact absurd hc List.not_mem_nil
      · exact ih h hc
    · rename_i hx
      obtain ⟨first, rest, hsplit⟩ :=
        List.exists_cons_of_ne_nil (List.splitOnP_ne_nil isSlash text)
      rw [hsplit, List.modifyHead_cons] at h
      rcases List.mem_cons.mp h with rfl | h
      · rcases List.mem_cons.mp hc with rfl | hc
        · exact Bool.eq_false_iff.mpr hx
        · exact ih (hsplit ▸ List.mem_cons_self) hc
      · exact ih (hsplit ▸ List.mem_cons_of_mem _ h) hc

theorem step_eq_append (h : isDot segment = false) : step path segment = path ++ [segment] := by
  simp only [isDot, Bool.or_eq_false_iff] at h
  simp [step, h.1, h.2]

/-- A dot at the end of a path leaves an empty segment behind what it does elsewhere. -/
theorem finish_eq_step :
    finish path segment =
      if isDot segment then step path segment ++ [[]] else step path segment := by
  unfold finish step isDot
  cases isDoubleDot segment <;> cases isSingleDot segment <;> rfl

theorem readPath_append (segments : List (List Char)) (hne : q ≠ []) :
    readPath path (segments ++ q) = readPath (segments.foldl step path) q := by
  induction segments generalizing path with
  | nil => rfl
  | cons first segments ih =>
    obtain ⟨next, rest, hrest⟩ : ∃ next rest, segments ++ q = next :: rest :=
      List.exists_cons_of_ne_nil (by simp [hne])
    rw [List.cons_append, List.foldl_cons, ← ih, hrest]
    rfl

theorem readPath_concat (segments : List (List Char)) (segment : List Char) :
    readPath path (segments ++ [segment]) = finish (segments.foldl step path) segment :=
  readPath_append segments (by simp)

/-- A text as what comes before its last segment and that segment. -/
theorem exists_splitOnP_concat (text : List Char) :
    ∃ segments segment, text.splitOnP isSlash = segments ++ [segment] :=
  ⟨_, _, (List.dropLast_concat_getLast (List.splitOnP_ne_nil isSlash text)).symm⟩

theorem step_clean (hpath : ∀ s ∈ path, Clean s) (h : ∀ c ∈ segment, Plain c) :
    ∀ s ∈ step path segment, Clean s := by
  unfold step
  intro s hs
  split at hs
  · exact hpath s (List.dropLast_subset path hs)
  · split at hs
    · exact hpath s hs
    · rename_i hdouble hsingle
      rcases List.mem_append.mp hs with hs | hs
      · exact hpath s hs
      · rcases List.mem_singleton.mp hs with rfl
        exact ⟨h, Bool.eq_false_iff.mpr hdouble, Bool.eq_false_iff.mpr hsingle⟩

theorem finish_clean (hpath : ∀ s ∈ path, Clean s) (h : ∀ c ∈ segment, Plain c) :
    ∀ s ∈ finish path segment, Clean s := by
  rw [finish_eq_step]
  split
  · intro s hs
    rcases List.mem_append.mp hs with hs | hs
    · exact step_clean hpath h s hs
    · exact List.mem_singleton.mp hs ▸ clean_nil
  · exact step_clean hpath h

theorem foldl_step_clean (hpath : ∀ s ∈ path, Clean s) (h : ∀ s ∈ segments, ∀ c ∈ s, Plain c) :
    ∀ s ∈ segments.foldl step path, Clean s := by
  induction segments generalizing path with
  | nil => exact hpath
  | cons first segments ih =>
    exact ih (step_clean hpath (h first List.mem_cons_self))
      fun s hs => h s (List.mem_cons_of_mem first hs)

theorem parsePath_clean (text : List Char) : ∀ s ∈ parsePath text, Clean s := by
  obtain ⟨segments, segment, hsplit⟩ := exists_splitOnP_concat text
  have hplain : ∀ s ∈ segments ++ [segment], ∀ c ∈ encode s, Plain c := by
    intro s hs c hc
    exact plain_of_mem_encode (fun d hd => not_isSlash_of_mem_splitOnP (hsplit ▸ hs) hd) hc
  rw [parsePath, hsplit, List.map_append, List.map_singleton, readPath_concat]
  refine finish_clean (foldl_step_clean (by simp) ?_) (hplain segment (by simp))
  intro s hs
  obtain ⟨raw, hraw, rfl⟩ := List.mem_map.mp hs
  exact hplain raw (List.mem_append_left _ hraw)

theorem finish_ne_nil : finish path segment ≠ [] := by
  unfold finish
  split
  · simp
  · split <;> simp

theorem parsePath_ne_nil (text : List Char) : parsePath text ≠ [] := by
  obtain ⟨segments, segment, hsplit⟩ := exists_splitOnP_concat text
  rw [parsePath, hsplit, List.map_append, List.map_singleton, readPath_concat]
  exact finish_ne_nil

/-- Reading clean segments gives them back. -/
theorem readPath_of_clean (hq : ∀ s ∈ q, Clean s) (hne : q ≠ []) : readPath path q = path ++ q := by
  induction q generalizing path with
  | nil => exact absurd rfl hne
  | cons segment q ih =>
    have hdot : isDot segment = false := by
      have hsegment := (hq segment List.mem_cons_self).2
      simp [isDot, hsegment.1, hsegment.2]
    cases q with
    | nil =>
      rw [readPath, finish_eq_step, hdot, step_eq_append hdot]
      rfl
    | cons next q =>
      rw [readPath, step_eq_append hdot,
        ih (fun s hs => hq s (List.mem_cons_of_mem _ hs)) (by simp),
        List.append_assoc, List.singleton_append]
      simp

/-! ### Printing -/

theorem print_cons (segment : List Char) (path : List (List Char)) :
    print (segment :: path) = '/' :: (segment ++ print path) := rfl

theorem print_append (path q : List (List Char)) : print (path ++ q) = print path ++ print q :=
  List.flatMap_append

theorem print_concat (path : List (List Char)) (segment : List Char) :
    print (path ++ [segment]) = print path ++ '/' :: segment := by
  rw [print_append, print_cons]
  simp [print]

/-- Printed paths hold plain characters and slashes. -/
theorem mem_print (h : ∀ s ∈ path, Clean s) (hc : c ∈ print path) : Plain c ∨ c = '/' := by
  obtain ⟨segment, hsegment, hc⟩ := List.mem_flatMap.mp hc
  rcases List.mem_cons.mp hc with hc | hc
  · exact Or.inr hc
  · exact Or.inl ((h segment hsegment).1 c hc)

/-- Slashes at the end of a printed path stand for empty segments at its end. -/
theorem rdropWhile_print (h : ∀ s ∈ path, Clean s) :
    (print path).rdropWhile (· == '/') = print (path.rdropWhile List.isEmpty) := by
  induction path using List.reverseRecOn with
  | nil => rfl
  | append_singleton path segment ih =>
    rw [print_concat]
    rcases List.eq_nil_or_concat segment with rfl | ⟨front, last, rfl⟩
    · rw [List.rdropWhile_concat_pos _ _ _ rfl, List.rdropWhile_concat_pos _ _ _ rfl]
      exact ih fun s hs => h s (List.mem_append_left _ hs)
    · rw [List.concat_eq_append] at h ⊢
      have hlast : Plain last := (h (front ++ [last]) (by simp)).1 last (by simp)
      have hkept : ¬(last == '/') = true := by
        rintro heq
        rw [beq_iff_eq.mp heq] at hlast
        exact absurd hlast (by decide)
      have hempty : ¬(front ++ [last]).isEmpty = true := by simp
      rw [List.rdropWhile_concat_neg _ _ _ hempty, print_concat,
        ← List.cons_append, ← List.append_assoc, List.rdropWhile_concat_neg (· == '/') _ _ hkept]

/-- A path splits where it was printed. -/
theorem splitOnP_print (hsegment : ∀ c ∈ segment, Plain c) (h : ∀ s ∈ path, Clean s) :
    (segment ++ print path).splitOnP isSlash = segment :: path := by
  induction path generalizing segment with
  | nil =>
    rw [print, List.flatMap_nil, List.append_nil]
    exact List.splitOnP_eq_singleton fun c hc => (hsegment c hc).2
  | cons next path ih =>
    rw [print_cons, List.splitOnP_append_cons_of_forall_mem (fun c hc => (hsegment c hc).2) '/' rfl,
      ih (h next List.mem_cons_self).1 fun s hs => h s (List.mem_cons_of_mem _ hs)]

theorem map_encode_of_clean (h : ∀ s ∈ path, Clean s) : path.map encode = path := by
  conv_rhs => rw [← List.map_id path]
  exact List.map_congr_left fun s hs => encode_of_plain (h s hs).1

/-- What was printed is read back. -/
theorem parsePath_print (h : ∀ s ∈ segment :: path, Clean s) :
    parsePath (segment ++ print path) = segment :: path := by
  rw [parsePath, splitOnP_print (h segment List.mem_cons_self).1 fun s hs =>
    h s (List.mem_cons_of_mem _ hs), map_encode_of_clean h, readPath_of_clean h (by simp),
    List.nil_append]

/-! ### Slashes and spaces at the end -/

def slashes (n : Nat) : List Char := List.replicate n '/'

theorem splitOnP_append_slashes (text : List Char) (n : Nat) :
    (text ++ slashes n).splitOnP isSlash = text.splitOnP isSlash ++ List.replicate n [] := by
  induction n generalizing text with
  | zero => simp [slashes]
  | succ n ih =>
    have hcut : text ++ slashes (n + 1) = (text ++ ['/']) ++ slashes n := by
      rw [slashes, List.replicate_succ, List.append_assoc, List.singleton_append]
      rfl
    rw [hcut, ih, List.splitOnP_append_cons text [] rfl, List.splitOnP_nil, List.append_assoc,
      List.replicate_succ, List.singleton_append]

/-- Slashes at the end of a path add empty segments, one fewer behind a dot. -/
theorem readPath_append_empty (path : List (List Char)) (hne : segments ≠ []) (n : Nat) :
    ∃ k, n ≤ k + 1 ∧
      readPath path (segments ++ List.replicate n []) =
        readPath path segments ++ List.replicate k [] := by
  obtain ⟨front, last, rfl⟩ : ∃ front last, segments = front ++ [last] :=
    ⟨_, _, (List.dropLast_concat_getLast hne).symm⟩
  cases n with
  | zero => exact ⟨0, by omega, by simp⟩
  | succ n =>
    have hempty : ∀ segment ∈ List.replicate (n + 1) ([] : List Char), Clean segment :=
      fun segment hsegment => List.eq_of_mem_replicate hsegment ▸ clean_nil
    have hread : readPath path (front ++ [last] ++ List.replicate (n + 1) []) =
        step (front.foldl step path) last ++ List.replicate (n + 1) [] := by
      rw [readPath_append _ (by simp), readPath_of_clean hempty (by simp), List.foldl_append,
        List.foldl_cons, List.foldl_nil]
    rw [hread, readPath_concat, finish_eq_step]
    split
    · exact ⟨n, by omega, by simp [List.replicate_succ]⟩
    · exact ⟨n + 1, by omega, rfl⟩

theorem parsePath_append_slashes (text : List Char) (n : Nat) :
    ∃ k, n ≤ k + 1 ∧ parsePath (text ++ slashes n) = parsePath text ++ List.replicate k [] := by
  have hne : (text.splitOnP isSlash).map encode ≠ [] := by
    simp
  obtain ⟨k, hk, hread⟩ := readPath_append_empty [] hne n
  refine ⟨k, hk, ?_⟩
  rw [parsePath, splitOnP_append_slashes, List.map_append, List.map_replicate]
  exact hread

/-- Characters that are no slashes go to the last segment. -/
theorem splitOnP_append (h : text.splitOnP isSlash = segments ++ [segment])
    (hb : ∀ c ∈ b, isSlash c = false) :
    (text ++ b).splitOnP isSlash = segments ++ [segment ++ b] := by
  induction text generalizing segments segment with
  | nil =>
    have hsplit : [] ++ [[]] = segments ++ [segment] := h
    obtain ⟨rfl, hlast⟩ := List.append_inj' hsplit rfl
    obtain rfl : [] = segment := (List.cons.inj hlast).1
    exact List.splitOnP_eq_singleton hb
  | cons x text ih =>
    rw [List.splitOnP_cons_eq_if_modifyHead] at h
    rw [List.cons_append, List.splitOnP_cons_eq_if_modifyHead]
    obtain ⟨front, last, hsplit⟩ := exists_splitOnP_concat text
    rw [ih hsplit]
    rw [hsplit] at h
    split at h
    · rename_i hx
      rw [← List.cons_append] at h
      obtain ⟨rfl, hlast⟩ := List.append_inj' h rfl
      obtain rfl : last = segment := (List.cons.inj hlast).1
      rw [if_pos hx, List.cons_append]
    · rename_i hx
      rw [if_neg hx]
      cases front with
      | nil =>
        have hsplit : [] ++ [x :: last] = segments ++ [segment] := h
        obtain ⟨rfl, hlast⟩ := List.append_inj' hsplit rfl
        obtain rfl : x :: last = segment := (List.cons.inj hlast).1
        rfl
      | cons first front =>
        have hsplit : ((x :: first) :: front) ++ [last] = segments ++ [segment] := h
        obtain ⟨rfl, hlast⟩ := List.append_inj' hsplit rfl
        obtain rfl : last = segment := (List.cons.inj hlast).1
        rfl

theorem length_print_dropLast_le (path : List (List Char)) :
    (print path.dropLast).length ≤ (print path).length := by
  rcases List.eq_nil_or_concat path with rfl | ⟨front, last, rfl⟩
  · exact Nat.le_refl _
  · rw [List.concat_eq_append, List.dropLast_concat, print_append, List.length_append]
    omega

theorem length_print_finish_le (path : List (List Char)) (segment : List Char) :
    (print (finish path segment)).length ≤ (print path).length + segment.length + 1 := by
  have hdrop := length_print_dropLast_le path
  unfold finish
  split
  · rw [print_concat, List.length_append, List.length_cons, List.length_nil]
    omega
  · split
    · rw [print_concat, List.length_append, List.length_cons, List.length_nil]
      omega
    · rw [print_concat, List.length_append, List.length_cons]
      omega

/-- A control or a space before a closing slash is kept: the path is longer than the one without
both. -/
theorem length_print_parsePath_lt (hne : b ≠ []) (hb : ∀ c ∈ b, isC0OrSpace c = true)
    (text : List Char) :
    (print (parsePath text)).length <
      (print ((parsePath (text ++ b ++ slashes 1)).rdropWhile List.isEmpty)).length := by
  obtain ⟨front, last, hsplit⟩ := exists_splitOnP_concat text
  have hnonslash : ∀ c ∈ b, isSlash c = false := fun c hc => not_isSlash_of_isC0OrSpace (hb c hc)
  obtain ⟨c, rest, rfl⟩ := List.exists_cons_of_ne_nil hne
  obtain ⟨d, hd, hdigit⟩ := exists_digit_mem_encodeChar (hb c List.mem_cons_self)
  have hmem : d ∈ encode (c :: rest) := List.mem_flatMap.mpr ⟨c, List.mem_cons_self, hd⟩
  have hdot : isDot (encode last ++ encode (c :: rest)) = false :=
    not_isDot_of_digit (List.mem_append_right _ hmem) hdigit
  have hlong : parsePath (text ++ c :: rest ++ slashes 1) =
      (front.map encode).foldl step [] ++ [encode last ++ encode (c :: rest)] ++ [[]] := by
    rw [parsePath, splitOnP_append_slashes, splitOnP_append hsplit hnonslash]
    simp only [List.replicate_one, List.map_append, List.map_singleton, encode_append]
    rw [readPath_concat, List.foldl_append, List.foldl_cons, List.foldl_nil,
      step_eq_append hdot, finish_eq_step]
    rfl
  have hempty : ¬(encode last ++ encode (c :: rest)).isEmpty = true := by
    rw [List.isEmpty_iff]
    exact List.ne_nil_of_mem (List.mem_append_right _ hmem)
  have hshort := length_print_finish_le ((front.map encode).foldl step []) (encode last)
  have hpos : 0 < (encode (c :: rest)).length := List.length_pos_of_mem hmem
  rw [hlong, List.rdropWhile_concat_pos _ _ _ rfl, List.rdropWhile_concat_neg _ _ _ hempty,
    print_concat, parsePath, hsplit, List.map_append, List.map_singleton, readPath_concat]
  simp only [List.length_append, List.length_cons]
  omega

end UrlPath

end NestWebTransport
