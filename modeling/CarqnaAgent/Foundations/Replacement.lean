import Mathlib
import CarqnaAgent.Foundations.Text

/-!
# Occurrences and replacements

`s.count(old)` and `s.replace(old, new)` go through a text the same way, from match to
match, so they are about one cut of the text into gaps:

* **the text is some gaps with `old` between them, the replaced text is the same gaps with
  `new` between them**, and the count is the number of places between (`exists_gaps`);
* a text without an occurrence is left alone (`replace_of_absent`, `count_of_absent`);
* an occurrence that is the only one is the one that is replaced (`replace_of_only`).
-/

set_option autoImplicit false

namespace Foundations
namespace PyStr

/-- Some gaps with a mark before each but the first. -/
def joined (mark first : PyStr) (gaps : List PyStr) : PyStr :=
  first ++ gaps.flatMap fun gap => mark ++ gap

section Steps

variable {old : PyStr} (new : PyStr)

theorem replaceFrom_skip (skip : ℕ) (s : PyStr) :
    replaceFrom old new skip s = replaceFrom old new 0 (s.drop skip) := by
  induction skip generalizing s with
  | zero => rfl
  | succ skip ih =>
      cases s with
      | nil => rfl
      | cons c rest => exact ih rest

theorem countFrom_skip (skip : ℕ) (s : PyStr) :
    countFrom old skip s = countFrom old 0 (s.drop skip) := by
  induction skip generalizing s with
  | zero => rfl
  | succ skip ih =>
      cases s with
      | nil => rfl
      | cons c rest => exact ih rest

theorem replaceFrom_match (filled : old ≠ []) (rest : PyStr) :
    replaceFrom old new 0 (old ++ rest) = new ++ replaceFrom old new 0 rest := by
  obtain ⟨c, tail, rfl⟩ := List.exists_cons_of_ne_nil filled
  rw [List.cons_append, replaceFrom, if_pos (by simp), replaceFrom_skip, List.length_cons,
    Nat.add_sub_cancel, List.drop_left]

theorem countFrom_match (filled : old ≠ []) (rest : PyStr) :
    countFrom old 0 (old ++ rest) = countFrom old 0 rest + 1 := by
  obtain ⟨c, tail, rfl⟩ := List.exists_cons_of_ne_nil filled
  rw [List.cons_append, countFrom, if_pos (by simp), countFrom_skip, List.length_cons,
    Nat.add_sub_cancel, List.drop_left]

theorem replaceFrom_other {c : CodePoint} {rest : PyStr} (other : ¬ old <+: c :: rest) :
    replaceFrom old new 0 (c :: rest) = c :: replaceFrom old new 0 rest := by
  rw [replaceFrom, if_neg (by simpa [List.isPrefixOf_iff_prefix] using other)]

theorem countFrom_other {c : CodePoint} {rest : PyStr} (other : ¬ old <+: c :: rest) :
    countFrom old 0 (c :: rest) = countFrom old 0 rest := by
  rw [countFrom, if_neg (by simpa [List.isPrefixOf_iff_prefix] using other)]

/-- Going through a text from match to match. -/
theorem match_induction {motive : PyStr → Prop} (filled : old ≠ []) (nil : motive [])
    (found : ∀ rest, motive rest → motive (old ++ rest))
    (other : ∀ c rest, ¬ old <+: c :: rest → motive rest → motive (c :: rest)) (s : PyStr) :
    motive s := by
  induction size : s.length using Nat.strong_induction_on generalizing s with
  | _ size ih =>
      subst size
      cases s with
      | nil => exact nil
      | cons c rest =>
          by_cases starts : old <+: c :: rest
          · obtain ⟨tail, split⟩ := starts
            have shorter : tail.length < (c :: rest).length := by
              have lengths := congrArg List.length split
              have positive := List.length_pos_iff.mpr filled
              rw [List.length_append] at lengths
              omega
            exact split ▸ found tail (ih _ shorter tail rfl)
          · exact other c rest starts (ih _ (by simp) rest rfl)

end Steps

/-! ## The cut into gaps -/

/-- An empty mark stands before every code point and at the end. -/
theorem exists_gaps_of_nil (s : PyStr) :
    ∃ gaps, s = joined [] [] gaps ∧ (∀ new, replace [] new s = joined new [] gaps) ∧
      count [] s = gaps.length := by
  refine ⟨s.map (fun c => [c]) ++ [[]], ?_, fun new => ?_, by simp [count]⟩
  · induction s with
    | nil => rfl
    | cons c rest ih => exact congrArg (List.cons c) ih
  · rw [replace, if_pos rfl]
    induction s with
    | nil => simp [joined]
    | cons c rest ih =>
        rw [List.map_cons, List.cons_append, joined, List.flatMap_cons, List.flatMap_cons]
        rw [joined] at ih
        simp only [List.nil_append, List.append_assoc, List.cons_append] at ih ⊢
        rw [ih]

/-- **A text and its replacement are the same gaps around `old` and around `new`.** -/
theorem exists_gaps (old s : PyStr) :
    ∃ first gaps, s = joined old first gaps ∧
      (∀ new, replace old new s = joined new first gaps) ∧ count old s = gaps.length := by
  by_cases filled : old = []
  · subst filled
    exact ⟨[], exists_gaps_of_nil s⟩
  · simp only [replace, count, if_neg filled]
    induction s using match_induction filled with
    | nil => exact ⟨[], [], rfl, fun _ => rfl, rfl⟩
    | found rest ih =>
        obtain ⟨first, gaps, whole, replaced, counted⟩ := ih
        refine ⟨[], first :: gaps, ?_, fun new => ?_, ?_⟩
        · rw [joined, List.nil_append, List.flatMap_cons, List.append_assoc, ← joined, ← whole]
        · rw [replaceFrom_match new filled, replaced, joined, joined, List.nil_append,
            List.flatMap_cons, List.append_assoc]
        · rw [countFrom_match filled, counted, List.length_cons]
    | other c rest other ih =>
        obtain ⟨first, gaps, whole, replaced, counted⟩ := ih
        refine ⟨c :: first, gaps, ?_, fun new => ?_, ?_⟩
        · rw [joined, List.cons_append, ← joined, ← whole]
        · rw [replaceFrom_other new other, replaced, joined, joined, List.cons_append]
        · rw [countFrom_other other, counted]

theorem mem_joined {mark first : PyStr} {gaps : List PyStr} {c : CodePoint} :
    c ∈ joined mark first gaps ↔ c ∈ first ∨ ∃ gap ∈ gaps, c ∈ mark ∨ c ∈ gap := by
  simp [joined]

/-- A replacement in a string that can be encoded, by one that can be, can be encoded. -/
theorem encode_replace_isSome {new s : PyStr} (old : PyStr) (encodes : (encode s).isSome)
    (encodes' : (encode new).isSome) : (encode (replace old new s)).isSome := by
  obtain ⟨first, gaps, whole, replaced, -⟩ := exists_gaps old s
  rw [encode_isSome_iff] at encodes encodes' ⊢
  rw [whole] at encodes
  intro c member
  rw [replaced new, mem_joined] at member
  rcases member with inside | ⟨gap, listed, inside | inside⟩
  · exact encodes c (mem_joined.mpr (.inl inside))
  · exact encodes' c inside
  · exact encodes c (mem_joined.mpr (.inr ⟨gap, listed, .inr inside⟩))

/-! ## One occurrence or none -/

section Occurrences

variable {old s : PyStr}

theorem ne_nil_of_absent (absent : ¬ old <:+: s) : old ≠ [] := by
  rintro rfl
  exact absent List.nil_infix

theorem replace_of_absent (absent : ¬ old <:+: s) (new : PyStr) : replace old new s = s := by
  have filled := ne_nil_of_absent absent
  rw [replace, if_neg filled]
  induction s with
  | nil => rfl
  | cons c rest ih =>
      rw [replaceFrom_other new fun starts => absent starts.isInfix,
        ih fun later => absent (List.infix_cons later)]

theorem count_of_absent (absent : ¬ old <:+: s) : count old s = 0 := by
  have filled := ne_nil_of_absent absent
  rw [count, if_neg filled]
  induction s with
  | nil => rfl
  | cons c rest ih =>
      rw [countFrom_other fun starts => absent starts.isInfix,
        ih fun later => absent (List.infix_cons later)]

/-- `front` is the only text before an occurrence. -/
def OnlyAfter (old s front : PyStr) : Prop :=
  ∀ front' back', front' ++ old ++ back' = s → front' = front

theorem OnlyAfter.absent_after (filled : old ≠ []) {back : PyStr}
    (only : OnlyAfter old (old ++ back) []) : ¬ old <:+: back := by
  rintro ⟨between, rest, rfl⟩
  have first : old ++ between = [] := only _ rest (by simp only [List.append_assoc])
  exact filled (List.append_eq_nil_iff.mp first).1

theorem OnlyAfter.tail {c : CodePoint} {front rest : PyStr}
    (only : OnlyAfter old (c :: rest) (c :: front)) : OnlyAfter old rest front := by
  intro front' back' split
  have whole : c :: front' = c :: front := only _ back' (by rw [← split]; rfl)
  exact (List.cons.inj whole).2

theorem OnlyAfter.not_prefix {c : CodePoint} {front rest : PyStr}
    (only : OnlyAfter old (c :: rest) (c :: front)) : ¬ old <+: c :: rest := by
  rintro ⟨back, split⟩
  exact List.cons_ne_nil c front (only [] back split).symm

/-- **The only occurrence is the one that is replaced**, and is counted once. -/
theorem replace_of_only (filled : old ≠ []) {front back : PyStr}
    (only : OnlyAfter old (front ++ old ++ back) front) (new : PyStr) :
    replace old new (front ++ old ++ back) = front ++ new ++ back ∧
      count old (front ++ old ++ back) = 1 := by
  rw [replace, count, if_neg filled, if_neg filled]
  induction front with
  | nil =>
      have absent := OnlyAfter.absent_after filled only
      have kept := replace_of_absent absent new
      have none := count_of_absent absent
      rw [replace, if_neg filled] at kept
      rw [count, if_neg filled] at none
      rw [List.nil_append, List.nil_append, replaceFrom_match new filled, countFrom_match filled,
        kept, none]
      exact ⟨rfl, rfl⟩
  | cons c front ih =>
      obtain ⟨replaced, counted⟩ := ih only.tail
      have other : ¬ old <+: c :: (front ++ old ++ back) := only.not_prefix
      simp only [List.cons_append]
      rw [replaceFrom_other new other, countFrom_other other, replaced, counted]
      exact ⟨rfl, rfl⟩

end Occurrences

end PyStr
end Foundations
