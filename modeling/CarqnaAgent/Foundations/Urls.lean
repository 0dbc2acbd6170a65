import Mathlib
import CarqnaAgent.Foundations.Text

/-!
# Splitting a URL

`urllib.parse.urlsplit`: blanks before the URL and every tab and line break in it go, then
the scheme, the network location, the fragment and the query are cut off, and what is left
is the path. Which network locations are refused (unbalanced brackets, characters that
Unicode normalises to delimiters) is a parameter.

* No part has a code point in it that the splitting takes for something else
  (`plain_of_urlsplit`).
* **A URL with `//` after its scheme and without such code points is cut at the first
  slash after the location, and nothing is lost** (`urlsplit_location`).
-/

set_option autoImplicit false

namespace Foundations

/-- `urllib.parse.SplitResult`. -/
structure SplitResult where
  scheme : PyStr
  netloc : PyStr
  path : PyStr
  query : PyStr
  fragment : PyStr
  deriving DecidableEq

namespace Url

/-- `_UNSAFE_URL_BYTES_TO_REMOVE`. -/
def unsafeChars : PyStr := py "\t\r\n"

/-- The delimiters of `_splitnetloc`. -/
def netlocEnds : PyStr := py "/?#"

/-- `scheme_chars`. -/
def schemeChars : PyStr :=
  py "abcdefghijklmnopqrstuvwxyzABCDEFGHIJKLMNOPQRSTUVWXYZ0123456789+-."

/-- An ASCII letter. -/
def isLetter (c : CodePoint) : Bool :=
  (0x41 ≤ c.val && c.val ≤ 0x5A) || (0x61 ≤ c.val && c.val ≤ 0x7A)

/-- `c.lower()`, for an ASCII character. -/
def lower (c : CodePoint) : CodePoint :=
  if 0x41 ≤ c.val ∧ c.val ≤ 0x5A then CodePoint.ofNat (c.val + 0x20) else c

/-- `s.split(c, 1)`: what stands before the first `c`, and what stands after it. -/
def cutAt (c : CodePoint) (s : PyStr) : PyStr × PyStr :=
  (s.takeWhile (· ≠ c), (s.dropWhile (· ≠ c)).drop 1)

/-- The URL without blanks before it and without tabs and line breaks. -/
def cleaned (url : PyStr) : PyStr :=
  (url.dropWhile fun c => c.val ≤ 0x20).filter fun c => !decide (c ∈ unsafeChars)

/-- The scheme, and the rest of the URL. -/
def splitScheme (url : PyStr) : PyStr × PyStr :=
  let (scheme, rest) := cutAt (CodePoint.ofChar ':') url
  if CodePoint.ofChar ':' ∈ url ∧ scheme.head?.any isLetter ∧
      scheme.all (fun c => decide (c ∈ schemeChars)) then
    (scheme.map lower, rest)
  else ([], url)

/-- `_splitnetloc`, when `//` starts the rest of the URL. -/
def splitNetloc (url : PyStr) : PyStr × PyStr :=
  if (py "//").isPrefixOf url then (url.drop 2).span fun c => !decide (c ∈ netlocEnds)
  else ([], url)

end Url

/-- `urllib.parse.urlsplit`. A network location that is refused raises `ValueError`, here
`none`. -/
def urlsplit (refused : PyStr → Bool) (url : PyStr) : Option SplitResult :=
  let (scheme, rest) := Url.splitScheme (Url.cleaned url)
  let (netloc, rest) := Url.splitNetloc rest
  if refused netloc then none
  else
    let (rest, fragment) := Url.cutAt (CodePoint.ofChar '#') rest
    let (path, query) := Url.cutAt (CodePoint.ofChar '?') rest
    some ⟨scheme, netloc, path, query, fragment⟩

example : urlsplit (fun _ => false) (py "s3://b/x y?v=1#top") =
    some ⟨py "s3", py "b", py "/x y", py "v=1", py "top"⟩ := by decide

namespace Url

/-- The code points a URL takes for something else than a part of a location or a path. -/
def specialChars : PyStr := py "?#\t\r\n"

/-! ## What is left out -/

theorem fst_cutAt_subset (c : CodePoint) (s : PyStr) : (cutAt c s).1 ⊆ s :=
  (List.takeWhile_prefix _).subset

theorem not_mem_fst_cutAt (c : CodePoint) (s : PyStr) : c ∉ (cutAt c s).1 := by
  intro member
  have kept := List.mem_takeWhile_imp member
  simp at kept

theorem cleaned_safe {url : PyStr} {c : CodePoint} (member : c ∈ cleaned url) :
    c ∉ unsafeChars := by
  simpa using (List.mem_filter.mp member).2

theorem snd_splitScheme_subset (url : PyStr) : (splitScheme url).2 ⊆ url := by
  rw [splitScheme]
  dsimp only
  split
  · exact ((List.drop_sublist _ _).trans (List.dropWhile_sublist _)).subset
  · exact List.Subset.refl url

theorem splitNetloc_append (url : PyStr) :
    (splitNetloc url).1 ++ (splitNetloc url).2 = url ∨
      py "//" ++ ((splitNetloc url).1 ++ (splitNetloc url).2) = url := by
  rw [splitNetloc]
  split
  · rename_i starts
    obtain ⟨rest, rfl⟩ := List.isPrefixOf_iff_prefix.mp starts
    refine .inr ?_
    rw [List.span_eq_takeWhile_dropWhile]
    exact congrArg _ (List.takeWhile_append_dropWhile)
  · exact .inl rfl

theorem not_mem_netloc {url : PyStr} {c : CodePoint} (member : c ∈ (splitNetloc url).1) :
    c ∉ netlocEnds := by
  rw [splitNetloc] at member
  split at member
  · rw [List.span_eq_takeWhile_dropWhile] at member
    simpa using List.mem_takeWhile_imp member
  · cases member

theorem not_special_iff {c : CodePoint} :
    c ∉ specialChars ↔ c ≠ CodePoint.ofChar '?' ∧ c ≠ CodePoint.ofChar '#' ∧ c ∉ unsafeChars := by
  simp [specialChars, unsafeChars, py]

theorem ne_of_not_mem_netlocEnds {c : CodePoint} (other : c ∉ netlocEnds) :
    c ≠ CodePoint.ofChar '?' ∧ c ≠ CodePoint.ofChar '#' := by
  constructor
  · rintro rfl
    exact other (by decide)
  · rintro rfl
    exact other (by decide)

/-- What is left of a URL for its location and its path is part of the URL. -/
theorem splitNetloc_subset (url : PyStr) :
    (splitNetloc url).1 ⊆ url ∧ (splitNetloc url).2 ⊆ url := by
  rcases splitNetloc_append url with whole | whole
  · refine ⟨fun c member => ?_, fun c member => ?_⟩
    · exact whole ▸ List.mem_append_left _ member
    · exact whole ▸ List.mem_append_right _ member
  · refine ⟨fun c member => ?_, fun c member => ?_⟩
    · exact whole ▸ List.mem_append_right _ (List.mem_append_left _ member)
    · exact whole ▸ List.mem_append_right _ (List.mem_append_right _ member)

end Url

/-- **No special code point gets into the location or the path.** -/
theorem plain_of_urlsplit {refused : PyStr → Bool} {url : PyStr} {parts : SplitResult}
    (split : urlsplit refused url = some parts) {c : CodePoint}
    (member : c ∈ parts.netloc ∨ c ∈ parts.path) : c ∉ Url.specialChars := by
  rw [urlsplit] at split
  dsimp only at split
  split at split
  · cases split
  · cases split
    have inside := Url.splitNetloc_subset (Url.splitScheme (Url.cleaned url)).2
    have rest := Url.snd_splitScheme_subset (Url.cleaned url)
    rw [Url.not_special_iff]
    rcases member with located | below
    · obtain ⟨query, fragment⟩ := Url.ne_of_not_mem_netlocEnds (Url.not_mem_netloc located)
      exact ⟨query, fragment, Url.cleaned_safe (rest (inside.1 located))⟩
    · have below' := Url.fst_cutAt_subset _ _ below
      refine ⟨?_, ?_, Url.cleaned_safe (rest (inside.2 (Url.fst_cutAt_subset _ _ below')))⟩
      · rintro rfl
        exact Url.not_mem_fst_cutAt _ _ below
      · rintro rfl
        exact Url.not_mem_fst_cutAt _ _ below'

/-! ## A URL with a location -/

namespace Url

theorem cutAt_append {c : CodePoint} {front : PyStr} (fresh : c ∉ front) (back : PyStr) :
    cutAt c (front ++ c :: back) = (front, back) := by
  have kept : ∀ d ∈ front, decide (d ≠ c) = true := fun d member =>
    decide_eq_true fun same => fresh (same ▸ member)
  rw [cutAt, List.takeWhile_append_of_pos kept, List.dropWhile_append_of_pos kept,
    List.takeWhile_cons_of_neg (by simp), List.dropWhile_cons_of_neg (by simp), List.append_nil]
  rfl

theorem cutAt_of_not_mem {c : CodePoint} {s : PyStr} (fresh : c ∉ s) : cutAt c s = (s, []) := by
  have kept : ∀ d ∈ s, decide (d ≠ c) = true := fun d member =>
    decide_eq_true fun same => fresh (same ▸ member)
  rw [cutAt, List.takeWhile_eq_self_iff.mpr kept, List.dropWhile_eq_nil_iff.mpr kept]
  rfl

/-- A scheme as the splitting returns it: letters, digits and signs, in lower case, a letter
first. -/
structure IsScheme (scheme : PyStr) : Prop where
  letter : scheme.head?.any isLetter = true
  chars : ∀ c ∈ scheme, c ∈ schemeChars
  lowered : scheme.map lower = scheme

section Location

variable {scheme : PyStr} (valid : IsScheme scheme) {location path : PyStr}
include valid

theorem splitScheme_append (rest : PyStr) :
    splitScheme (scheme ++ CodePoint.ofChar ':' :: rest) = (scheme, rest) := by
  have colon : CodePoint.ofChar ':' ∉ scheme := by
    have other : CodePoint.ofChar ':' ∉ schemeChars := by decide
    exact fun member => other (valid.chars _ member)
  rw [splitScheme, cutAt_append colon]
  dsimp only
  rw [if_pos ⟨by simp, valid.letter, by simpa using valid.chars⟩, valid.lowered]

/-- A URL without special code points is clean. -/
theorem cleaned_of_plain {rest : PyStr} (plain : ∀ c ∈ rest, c ∉ unsafeChars) :
    cleaned (scheme ++ rest) = scheme ++ rest := by
  obtain ⟨first, others, rfl⟩ : ∃ first others, scheme = first :: others := by
    cases scheme with
    | nil => cases valid.letter
    | cons first others => exact ⟨first, others, rfl⟩
  have all : schemeChars.all (fun c => decide (¬ c.val ≤ 0x20 ∧ c ∉ unsafeChars)) = true := by
    decide
  have listed : ∀ c ∈ schemeChars, ¬ c.val ≤ 0x20 ∧ c ∉ unsafeChars := by
    simpa only [List.all_eq_true, decide_eq_true_eq] using all
  have visible : ¬ decide (first.val ≤ 0x20) = true := by
    rw [decide_eq_true_eq]
    exact (listed _ (valid.chars _ List.mem_cons_self)).1
  rw [cleaned, List.cons_append, List.dropWhile_cons, if_neg visible, ← List.cons_append]
  refine List.filter_eq_self.mpr fun c member => ?_
  rw [Bool.not_eq_true', decide_eq_false_iff_not]
  rcases List.mem_append.mp member with inside | inside
  · exact (listed _ (valid.chars _ inside)).2
  · exact plain c inside

end Location

theorem splitNetloc_append_path {location path : PyStr}
    (inside : ∀ c ∈ location, c ∉ netlocEnds) (rooted : path = [] ∨ py "/" <+: path) :
    splitNetloc (py "//" ++ (location ++ path)) = (location, path) := by
  have kept : ∀ c ∈ location, (!decide (c ∈ netlocEnds)) = true := by
    intro c member
    rw [Bool.not_eq_true', decide_eq_false_iff_not]
    exact inside c member
  have dropped : (py "//" ++ (location ++ path)).drop 2 = location ++ path := rfl
  rw [splitNetloc, if_pos (List.isPrefixOf_iff_prefix.mpr (List.prefix_append _ _)), dropped,
    List.span_eq_takeWhile_dropWhile, List.takeWhile_append_of_pos kept,
    List.dropWhile_append_of_pos kept]
  rcases rooted with rfl | ⟨rest, rfl⟩
  · rw [List.takeWhile_nil, List.dropWhile_nil, List.append_nil]
  · have ends : ¬ (!decide (CodePoint.ofChar '/' ∈ netlocEnds)) = true := by decide
    have first : py "/" ++ rest = CodePoint.ofChar '/' :: rest := rfl
    rw [first, List.takeWhile_cons, List.dropWhile_cons, if_neg ends, if_neg ends, List.append_nil]

end Url

/-- **A plain URL with a location is cut at the first slash after it.** -/
theorem urlsplit_location {refused : PyStr → Bool} {scheme location path : PyStr}
    (valid : Url.IsScheme scheme) (plain : ∀ c ∈ location ++ path, c ∉ Url.specialChars)
    (bare : CodePoint.ofChar '/' ∉ location) (rooted : path = [] ∨ py "/" <+: path) :
    urlsplit refused (scheme ++ py "://" ++ (location ++ path)) =
      if refused location then none else some ⟨scheme, location, path, [], []⟩ := by
  have safe : ∀ c ∈ py "://" ++ (location ++ path), c ∉ Url.unsafeChars := by
    intro c member
    rcases List.mem_append.mp member with sign | inside
    · have signs : (py "://").all (fun c => decide (c ∉ Url.unsafeChars)) = true := by decide
      exact of_decide_eq_true (List.all_eq_true.mp signs c sign)
    · exact (Url.not_special_iff.mp (plain c inside)).2.2
  have inside : ∀ c ∈ location, c ∉ Url.netlocEnds := by
    intro c member ends
    obtain ⟨query, fragment, -⟩ :=
      Url.not_special_iff.mp (plain c (List.mem_append_left _ member))
    have cases : c = CodePoint.ofChar '/' ∨ c = CodePoint.ofChar '?' ∨ c = CodePoint.ofChar '#' := by
      simpa [Url.netlocEnds, py] using ends
    rcases cases with rfl | rfl | rfl
    · exact bare member
    · exact query rfl
    · exact fragment rfl
  have query : CodePoint.ofChar '?' ∉ path := fun member =>
    (Url.not_special_iff.mp (plain _ (List.mem_append_right _ member))).1 rfl
  have fragment : CodePoint.ofChar '#' ∉ path := fun member =>
    (Url.not_special_iff.mp (plain _ (List.mem_append_right _ member))).2.1 rfl
  have signs : py "://" ++ (location ++ path) =
      CodePoint.ofChar ':' :: (py "//" ++ (location ++ path)) := rfl
  rw [urlsplit, List.append_assoc, Url.cleaned_of_plain valid safe, signs,
    Url.splitScheme_append valid]
  dsimp only
  rw [Url.splitNetloc_append_path inside rooted]
  dsimp only
  rw [Url.cutAt_of_not_mem fragment]
  dsimp only
  rw [Url.cutAt_of_not_mem query]

end Foundations
