import Mathlib
import CarqnaAgent.Foundations.Replacement

/-!
# Universal newlines

Making every `\r\n` and then every `\r` a `\n` is one pass over the text that remembers
whether the last code point was a `\r` (`replace_replace_eq`).

A cut of the text becomes a cut of the result, but for one thing: a `\n` after a `\r`
belongs to it, and so gives what stands before the cut no line of its own. **The result of
a text in two parts is that of its front, as the back leaves it, and that of its back**
(`newlines_append`).
-/

set_option autoImplicit false

namespace Foundations
namespace PyStr

/-- The carriage return. -/
def cr : CodePoint := CodePoint.ofChar '\r'

/-- The line feed. -/
def lf : CodePoint := CodePoint.ofChar '\n'

/-- The pass over the text. A `\n` right after a `\r` is dropped. -/
def newlinesFrom : Bool → PyStr → PyStr
  | _, [] => []
  | returned, c :: rest =>
      if c = cr then lf :: newlinesFrom true rest
      else if c = lf ∧ returned = true then newlinesFrom false rest
      else c :: newlinesFrom false rest

/-- The text with `\n` for every `\r\n` and every other `\r`. -/
abbrev newlines (s : PyStr) : PyStr := newlinesFrom false s

/-! ## Two replacements in one pass -/

theorem newlinesFrom_true_of_head {s : PyStr} (other : s.head? ≠ some lf) :
    newlinesFrom true s = newlines s := by
  cases s with
  | nil => rfl
  | cons c rest =>
      have different : c ≠ lf := fun same => other (congrArg some same)
      simp only [newlines, newlinesFrom, different, false_and, if_false]

theorem newlines_cons_of_ne {c : CodePoint} (other : c ≠ cr) (rest : PyStr) :
    newlines (c :: rest) = c :: newlines rest := by
  rw [newlines, newlinesFrom, if_neg other, if_neg (by simp)]

theorem newlines_cons_cr (rest : PyStr) : newlines (cr :: rest) = lf :: newlinesFrom true rest := by
  rw [newlines, newlinesFrom, if_pos rfl]

theorem replaceFrom_cr (s : PyStr) :
    replaceFrom [cr] [lf] 0 s = s.map fun c => if c = cr then lf else c := by
  induction s with
  | nil => rfl
  | cons c rest ih =>
      by_cases returns : c = cr
      · subst returns
        have matched := replaceFrom_match [lf] (List.cons_ne_nil cr []) rest
        rw [List.singleton_append] at matched
        rw [matched, ih, List.map_cons, if_pos rfl, List.singleton_append]
      · have other : ¬ [cr] <+: c :: rest := by
          simpa [List.cons_prefix_cons] using fun same : cr = c => returns same.symm
        rw [replaceFrom_other [lf] other, ih, List.map_cons, if_neg returns]

/-- **The two replacements are one pass.** -/
theorem replace_replace_eq (s : PyStr) :
    replace [cr] [lf] (replace [cr, lf] [lf] s) = newlines s := by
  have filled : [cr, lf] ≠ [] := List.cons_ne_nil _ _
  rw [replace, replace, if_neg filled, if_neg (List.cons_ne_nil _ _), replaceFrom_cr]
  induction s using match_induction filled with
  | nil => rfl
  | found rest ih =>
      rw [replaceFrom_match [lf] filled, List.map_append, ih]
      rfl
  | other c rest other ih =>
      rw [replaceFrom_other [lf] other, List.map_cons, ih]
      by_cases returns : c = cr
      · subst returns
        have head : rest.head? ≠ some lf := by
          intro starts
          obtain ⟨tail, rfl⟩ := List.head?_eq_some_iff.mp starts
          exact other ⟨tail, rfl⟩
        rw [if_pos rfl, newlines_cons_cr, newlinesFrom_true_of_head head]
      · rw [if_neg returns, newlines_cons_of_ne returns]

/-! ## The cut of a text -/

/-- The text ends with a carriage return. -/
def Returns (s : PyStr) : Prop := s.getLast? = some cr

/-- The text starts with a line feed. -/
def Feeds (s : PyStr) : Prop := s.head? = some lf

instance (s : PyStr) : Decidable (Returns s) := inferInstanceAs (Decidable (_ = _))

instance (s : PyStr) : Decidable (Feeds s) := inferInstanceAs (Decidable (_ = _))

/-- What the front of a text becomes before the back: a `\r` at the end of the front leaves
its line to a `\n` at the start of the back. -/
def newlinesBefore (front back : PyStr) : PyStr :=
  if Returns front ∧ Feeds back then (newlines front).dropLast else newlines front

theorem newlinesFrom_append (returned : Bool) (front back : PyStr) :
    newlinesFrom returned (front ++ back) =
      newlinesFrom returned front ++
        newlinesFrom (if front = [] then returned else decide (Returns front)) back := by
  induction front generalizing returned with
  | nil => rfl
  | cons c rest ih =>
      have last : (if rest = [] then decide (c = cr) else decide (Returns rest)) =
          decide (Returns (c :: rest)) := by
        cases rest with
        | nil => exact decide_eq_decide.mpr (by simp [Returns])
        | cons d later =>
            rw [if_neg (List.cons_ne_nil d later)]
            exact decide_eq_decide.mpr (by rw [Returns, Returns, List.getLast?_cons_cons])
      rw [if_neg (List.cons_ne_nil c rest), ← last, List.cons_append, newlinesFrom, newlinesFrom]
      by_cases returns : c = cr
      · rw [if_pos returns, if_pos returns, ih, List.cons_append, decide_eq_true returns]
      · rw [if_neg returns, if_neg returns, decide_eq_false returns]
        by_cases dropped : c = lf ∧ returned = true
        · rw [if_pos dropped, if_pos dropped, ih]
        · rw [if_neg dropped, if_neg dropped, ih, List.cons_append]

theorem newlines_of_returns {front : PyStr} (returns : Returns front) :
    ∃ before, front = before ++ [cr] ∧ newlines front = newlines before ++ [lf] := by
  obtain ⟨before, rfl⟩ := List.getLast?_eq_some_iff.mp returns
  refine ⟨before, rfl, ?_⟩
  rw [newlines, newlinesFrom_append]
  rfl

/-- **The result of a text in two parts.** -/
theorem newlines_append (front back : PyStr) :
    newlines (front ++ back) = newlinesBefore front back ++ newlines back := by
  rw [newlines, newlinesFrom_append, newlinesBefore]
  by_cases returns : Returns front
  · have filled : front ≠ [] := by
      rintro rfl
      cases returns
    rw [if_neg filled, decide_eq_true returns]
    by_cases feeds : Feeds back
    · obtain ⟨rest, rfl⟩ := List.head?_eq_some_iff.mp feeds
      obtain ⟨before, -, split⟩ := newlines_of_returns returns
      rw [if_pos ⟨returns, feeds⟩, newlinesFrom, if_neg (by decide), if_pos ⟨rfl, rfl⟩,
        newlines_cons_of_ne (by decide)]
      change newlines front ++ newlines rest = _
      rw [split, List.dropLast_concat, List.append_assoc]
      rfl
    · rw [if_neg fun both => feeds both.2, newlinesFrom_true_of_head feeds]
  · have flag : (if front = [] then false else decide (Returns front)) = false := by
      rw [decide_eq_false returns, ite_self]
    rw [flag, if_neg fun both => returns both.1]

/-- A text without carriage returns is left alone. -/
theorem newlines_of_not_mem {s : PyStr} (free : cr ∉ s) : newlines s = s := by
  induction s with
  | nil => rfl
  | cons c rest ih =>
      rw [List.mem_cons, not_or] at free
      rw [newlines_cons_of_ne (Ne.symm free.1), ih free.2]

theorem not_mem_newlinesFrom (returned : Bool) (s : PyStr) : cr ∉ newlinesFrom returned s := by
  induction s generalizing returned with
  | nil => exact List.not_mem_nil
  | cons c rest ih =>
      rw [newlinesFrom]
      split
      · rw [List.mem_cons, not_or]
        exact ⟨by decide, ih _⟩
      · rename_i other
        split
        · exact ih _
        · rw [List.mem_cons, not_or]
          exact ⟨Ne.symm other, ih _⟩

theorem newlines_eq_nil_iff {s : PyStr} : newlines s = [] ↔ s = [] := by
  constructor
  · intro empty
    cases s with
    | nil => rfl
    | cons c rest =>
        rw [newlines, newlinesFrom] at empty
        split at empty
        · cases empty
        · rw [if_neg (by simp)] at empty
          cases empty
  · rintro rfl
    rfl

/-- Only nothing, or a `\r` whose line the back takes, becomes nothing. -/
theorem newlinesBefore_eq_nil {front back : PyStr} (empty : newlinesBefore front back = []) :
    front = [] ∨ front = [cr] := by
  rw [newlinesBefore] at empty
  split at empty
  · rename_i both
    obtain ⟨before, rfl, split⟩ := newlines_of_returns both.1
    rw [split, List.dropLast_concat, newlines_eq_nil_iff] at empty
    rw [empty]
    exact .inr rfl
  · exact .inl (newlines_eq_nil_iff.mp empty)

/-- Two backs leave the front alike when they start alike, as far as the front can tell. -/
theorem newlinesBefore_eq_iff (front back back' : PyStr) :
    newlinesBefore front back = newlinesBefore front back' ↔
      (Returns front → (Feeds back ↔ Feeds back')) := by
  by_cases returns : Returns front
  · obtain ⟨before, -, split⟩ := newlines_of_returns returns
    simp only [newlinesBefore, returns, true_and, split, List.dropLast_concat, forall_true_left]
    by_cases feeds : Feeds back
    · by_cases feeds' : Feeds back'
      · simp [feeds, feeds']
      · simp [feeds, feeds']
    · by_cases feeds' : Feeds back'
      · simp [feeds, feeds']
      · simp [feeds, feeds']
  · simp [newlinesBefore, returns]

end PyStr
end Foundations
