import Mathlib
import CarqnaAgent.Foundations.Text

/-!
# Path globs

A glob has two wildcards: `*` matches any text without a slash, `**` any text. Every other
code point matches itself, so **a glob without wildcards matches one path, itself**
(`globMatches_literal`).
-/

set_option autoImplicit false

namespace Foundations

/-- A piece of a glob. -/
inductive GlobToken where
  | char (c : CodePoint)
  | star
  | doubleStar
  deriving DecidableEq

namespace Glob

/-- The wildcard. -/
def wildcard : CodePoint := CodePoint.ofChar '*'

/-- The pieces of a glob. -/
def tokens : PyStr → List GlobToken
  | [] => []
  | [c] => [if c = wildcard then .star else .char c]
  | c :: d :: rest =>
      if c = wildcard ∧ d = wildcard then .doubleStar :: tokens rest
      else (if c = wildcard then .star else .char c) :: tokens (d :: rest)

/-- The pieces match the text. -/
def matchTokens : List GlobToken → PyStr → Bool
  | [], text => decide (text = [])
  | .char c :: rest, text =>
      match text with
      | [] => false
      | d :: later => decide (d = c) && matchTokens rest later
  | .star :: rest, text =>
      (List.range ((text.takeWhile (· ≠ CodePoint.ofChar '/')).length + 1)).any fun n =>
        matchTokens rest (text.drop n)
  | .doubleStar :: rest, text => text.tails.any (matchTokens rest)

end Glob

/-- The glob matches the path. -/
def globMatches (glob path : PyStr) : Bool := Glob.matchTokens (Glob.tokens glob) path

example : globMatches (py "/**/x*.md") (py "/a/b/xy.md") = true := by decide
example : globMatches (py "/*") (py "/a/b") = false := by decide

namespace Glob

theorem tokens_literal {glob : PyStr} (literal : wildcard ∉ glob) :
    tokens glob = glob.map .char := by
  induction glob with
  | nil => rfl
  | cons c rest ih =>
      rw [List.mem_cons, not_or] at literal
      obtain ⟨other, others⟩ := literal
      cases rest with
      | nil => rw [tokens, if_neg (Ne.symm other), List.map_cons, List.map_nil]
      | cons d later =>
          rw [tokens, if_neg fun both => other both.1.symm, if_neg (Ne.symm other), ih others]
          rfl

theorem matchTokens_chars (chars text : PyStr) :
    matchTokens (chars.map .char) text = true ↔ text = chars := by
  induction chars generalizing text with
  | nil => simp [matchTokens]
  | cons c rest ih =>
      rw [List.map_cons]
      cases text with
      | nil => simp [matchTokens]
      | cons d later => simp [matchTokens, ih]

end Glob

/-- **A glob without wildcards matches one path, itself.** -/
theorem globMatches_literal {glob : PyStr} (literal : Glob.wildcard ∉ glob) (path : PyStr) :
    globMatches glob path = true ↔ path = glob := by
  rw [globMatches, Glob.tokens_literal literal, Glob.matchTokens_chars]

end Foundations
