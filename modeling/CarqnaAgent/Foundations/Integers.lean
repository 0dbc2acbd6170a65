import Mathlib
import CarqnaAgent.Foundations.Text

/-!
# Python's `int` on text, and `str` on an integer

`int(text)` accepts more than a decimal numeral: surrounding whitespace, a sign,
leading zeros, single underscores between digits, and the decimal digits of every
script. `parseInt` follows the two passes of the interpreter: every Unicode space
becomes a blank and every decimal digit its ASCII form, then the ASCII numeral is
read. The interpreter's limit on the number of digits is a parameter, `0` for no
limit.

* Every code point of an accepted string is a blank, a sign, an underscore or a
  decimal digit (`parseInt_alphabet`), so a string with any other code point is
  refused (`not_mem_of_parseInt`).
* `decimalForm n` is `str(n)`, and reading it back gives `n`
  (`parseInt_decimalForm`). The strings it writes are the canonical ones
  (`canonical_iff`), so an accepted string is the decimal form of its value exactly
  when it is canonical (`eq_decimalForm_iff`).
-/

set_option autoImplicit false

namespace Foundations
namespace PyStr

/-! ## Character classes -/

/-- The zeros of the runs of ten decimal digits of Unicode 15.1 (category `Nd`). -/
def decimalZeros : List ℕ :=
  [0x30, 0x660, 0x6F0, 0x7C0, 0x966, 0x9E6, 0xA66, 0xAE6, 0xB66, 0xBE6, 0xC66, 0xCE6, 0xD66,
    0xDE6, 0xE50, 0xED0, 0xF20, 0x1040, 0x1090, 0x17E0, 0x1810, 0x1946, 0x19D0, 0x1A80, 0x1A90,
    0x1B50, 0x1BB0, 0x1C40, 0x1C50, 0xA620, 0xA8D0, 0xA900, 0xA9D0, 0xA9F0, 0xAA50, 0xABF0,
    0xFF10, 0x104A0, 0x10D30, 0x11066, 0x110F0, 0x11136, 0x111D0, 0x112F0, 0x11450, 0x114D0,
    0x11650, 0x116C0, 0x11730, 0x118E0, 0x11950, 0x11C50, 0x11D50, 0x11DA0, 0x11F50, 0x16A60,
    0x16AC0, 0x16B50, 0x1D7CE, 0x1D7D8, 0x1D7E2, 0x1D7EC, 0x1D7F6, 0x1E140, 0x1E2F0, 0x1E4F0,
    0x1E950, 0x1FBF0]

/-- The value of a decimal digit, `None` for any other code point. -/
def toDecimal? (c : CodePoint) : Option ℕ :=
  (decimalZeros.find? fun base => base ≤ c.val && c.val < base + 10).map (c.val - ·)

/-- The whitespace of `str.isspace` and of a bare `str.strip()`. -/
def isSpace (c : CodePoint) : Bool :=
  (9 ≤ c.val && c.val ≤ 13) || (0x1C ≤ c.val && c.val ≤ 0x20) || c.val == 0x85 ||
    c.val == 0xA0 || c.val == 0x1680 || (0x2000 ≤ c.val && c.val ≤ 0x200A) ||
    c.val == 0x2028 || c.val == 0x2029 || c.val == 0x202F || c.val == 0x205F || c.val == 0x3000

/-- The blanks around a numeral: the ASCII ones and, after the first pass, every
space outside ASCII. The ASCII separators `0x1C … 0x1F` are not among them. -/
def isNumeralBlank (c : CodePoint) : Bool :=
  (9 ≤ c.val && c.val ≤ 13) || c.val == 0x20 || (127 ≤ c.val && isSpace c)

/-! ## Reading -/

/-- Digits with single underscores between them. `afterDigit` says whether the last
code point read was a digit: only then may an underscore or the end follow. -/
def digitsFrom : Bool → PyStr → Option (List ℕ)
  | afterDigit, [] => if afterDigit then some [] else none
  | afterDigit, c :: rest =>
      match toDecimal? c with
      | some digit => (digitsFrom true rest).map (digit :: ·)
      | none =>
          if afterDigit && c == CodePoint.ofChar '_' then digitsFrom false rest else none

/-- The number a list of decimal digits denotes, most significant digit first. -/
def ofDecimals (digits : List ℕ) : ℕ := Nat.ofDigits 10 digits.reverse

/-- Split off the sign. -/
def splitSign : PyStr → Bool × PyStr
  | [] => (false, [])
  | c :: rest =>
      if c = CodePoint.ofChar '-' then (true, rest)
      else if c = CodePoint.ofChar '+' then (false, rest)
      else (false, c :: rest)

/-- `int(text)`, with `None` where it raises `ValueError`. `maxStrDigits` is the
interpreter's `int_max_str_digits`, `0` for no limit. -/
def parseInt (maxStrDigits : ℕ) (text : PyStr) : Option ℤ :=
  let (negative, numeral) := splitSign (stripBy isNumeralBlank text)
  match digitsFrom false numeral with
  | none => none
  | some digits =>
      if maxStrDigits = 0 ∨ digits.length ≤ maxStrDigits then
        some (if negative then -(ofDecimals digits : ℤ) else ofDecimals digits)
      else none

example : parseInt 4300 (py " +0_12\n") = some 12 := by decide
example : parseInt 4300 [0x661, 0x662] = some 12 := by decide
example : parseInt 4300 (py "1__2") = none := by decide
example : parseInt 4300 (py "- 1") = none := by decide

/-- The code points a numeral may consist of. -/
def InNumeral (c : CodePoint) : Prop :=
  isNumeralBlank c = true ∨ c ∈ py "+-_" ∨ (toDecimal? c).isSome

theorem digitsFrom_alphabet {afterDigit : Bool} {s : PyStr} {digits : List ℕ}
    (read : digitsFrom afterDigit s = some digits) :
    ∀ c ∈ s, c = CodePoint.ofChar '_' ∨ (toDecimal? c).isSome := by
  induction s generalizing afterDigit digits with
  | nil => simp
  | cons d rest ih =>
      intro c member
      rw [digitsFrom] at read
      cases value : toDecimal? d with
      | some digit =>
          simp only [value, Option.map_eq_some_iff] at read
          obtain ⟨tail, restRead, -⟩ := read
          rcases List.mem_cons.mp member with rfl | inRest
          · exact .inr (by simp [value])
          · exact ih restRead c inRest
      | none =>
          simp only [value] at read
          split at read
          · rename_i underscore
            simp only [Bool.and_eq_true, beq_iff_eq] at underscore
            rcases List.mem_cons.mp member with rfl | inRest
            · exact .inl underscore.2
            · exact ih read c inRest
          · cases read

theorem mem_splitSign {s : PyStr} {c : CodePoint} (member : c ∈ s) :
    c ∈ py "+-_" ∨ c ∈ (splitSign s).2 := by
  cases s with
  | nil => cases member
  | cons d rest =>
      rw [splitSign]
      split
      · rename_i minus
        rcases List.mem_cons.mp member with rfl | inRest
        · exact .inl (minus ▸ by decide)
        · exact .inr inRest
      · split
        · rename_i plus
          rcases List.mem_cons.mp member with rfl | inRest
          · exact .inl (plus ▸ by decide)
          · exact .inr inRest
        · exact .inr member

/-- **An accepted string consists of blanks, signs, underscores and decimal digits.** -/
theorem parseInt_alphabet {maxStrDigits : ℕ} {text : PyStr} {n : ℤ}
    (read : parseInt maxStrDigits text = some n) : ∀ c ∈ text, InNumeral c := by
  intro c member
  cases blank : isNumeralBlank c with
  | true => exact .inl blank
  | false =>
      have inside := mem_splitSign (mem_stripBy member blank)
      rw [parseInt] at read
      cases digitsRead : digitsFrom false (splitSign (stripBy isNumeralBlank text)).2 with
      | none => simp [digitsRead] at read
      | some digits =>
          rcases inside with sign | inNumeral
          · exact .inr (.inl sign)
          · rcases digitsFrom_alphabet digitsRead c inNumeral with rfl | decimal
            · exact .inr (.inl (by decide))
            · exact .inr (.inr decimal)

theorem not_mem_of_parseInt {maxStrDigits : ℕ} {text : PyStr} {n : ℤ}
    (read : parseInt maxStrDigits text = some n) {c : CodePoint} (foreign : ¬ InNumeral c) :
    c ∉ text :=
  fun member => foreign (parseInt_alphabet read c member)

/-! ## Writing -/

/-- The ASCII code point of a decimal digit. -/
def ofDecimal (digit : ℕ) : CodePoint := CodePoint.ofNat (0x30 + digit)

/-- `str(n)` for a natural number. -/
def naturalForm (n : ℕ) : PyStr :=
  if n = 0 then py "0" else (Nat.digits 10 n).reverse.map ofDecimal

/-- `str(n)`. -/
def decimalForm (n : ℤ) : PyStr :=
  if n < 0 then CodePoint.ofChar '-' :: naturalForm n.natAbs else naturalForm n.natAbs

example : decimalForm (-120) = py "-120" := by
  simp [decimalForm, naturalForm]
  decide

theorem toDecimal?_ofDecimal {digit : ℕ} (small : digit < 10) :
    toDecimal? (ofDecimal digit) = some digit := by
  interval_cases digit <;> decide

theorem digitsFrom_map_ofDecimal {digits : List ℕ} (small : ∀ d ∈ digits, d < 10)
    {afterDigit : Bool} (proper : afterDigit = true ∨ digits ≠ []) :
    digitsFrom afterDigit (digits.map ofDecimal) = some digits := by
  induction digits generalizing afterDigit with
  | nil =>
      rcases proper with rfl | absent
      · rfl
      · exact absurd rfl absent
  | cons d rest ih =>
      have head : toDecimal? (ofDecimal d) = some d :=
        toDecimal?_ofDecimal (small d List.mem_cons_self)
      have tail : digitsFrom true (rest.map ofDecimal) = some rest :=
        ih (fun e member => small e (List.mem_cons_of_mem d member)) (.inl rfl)
      simp [digitsFrom, head, tail]

/-- The digits written for a natural number. -/
def writtenDigits (n : ℕ) : List ℕ := if n = 0 then [0] else (Nat.digits 10 n).reverse

theorem naturalForm_eq (n : ℕ) : naturalForm n = (writtenDigits n).map ofDecimal := by
  unfold naturalForm writtenDigits
  split
  · decide
  · rfl

theorem writtenDigits_lt {n : ℕ} : ∀ d ∈ writtenDigits n, d < 10 := by
  intro d member
  unfold writtenDigits at member
  split at member
  · simp_all
  · exact Nat.digits_lt_base (by decide) (List.mem_reverse.mp member)

theorem writtenDigits_ne_nil {n : ℕ} : writtenDigits n ≠ [] := by
  unfold writtenDigits
  split
  · simp
  · rename_i positive
    simpa [Nat.digits_eq_nil_iff_eq_zero] using positive

theorem ofDecimals_writtenDigits (n : ℕ) : ofDecimals (writtenDigits n) = n := by
  unfold writtenDigits ofDecimals
  split
  · rename_i zero
    simp [zero]
  · rw [List.reverse_reverse, Nat.ofDigits_digits]

/-- The code points `str` writes: no blank, and no sign but the first. -/
theorem ofDecimal_class {digit : ℕ} (small : digit < 10) :
    isNumeralBlank (ofDecimal digit) = false ∧ ofDecimal digit ≠ CodePoint.ofChar '-' ∧
      ofDecimal digit ≠ CodePoint.ofChar '+' := by
  interval_cases digit <;> decide

theorem decimalForm_not_blank {n : ℤ} : ∀ c ∈ decimalForm n, isNumeralBlank c = false := by
  intro c member
  have digit : ∀ m : ℕ, c ∈ naturalForm m → isNumeralBlank c = false := by
    intro m inside
    rw [naturalForm_eq] at inside
    obtain ⟨d, written, rfl⟩ := List.mem_map.mp inside
    exact (ofDecimal_class (writtenDigits_lt d written)).1
  unfold decimalForm at member
  split at member
  · rcases List.mem_cons.mp member with rfl | inside
    · decide
    · exact digit _ inside
  · exact digit _ member

theorem splitSign_naturalForm (n : ℕ) : splitSign (naturalForm n) = (false, naturalForm n) := by
  rw [naturalForm_eq]
  cases written : writtenDigits n with
  | nil => exact absurd written writtenDigits_ne_nil
  | cons d rest =>
      have small : d < 10 := writtenDigits_lt d (written ▸ List.mem_cons_self)
      obtain ⟨-, noMinus, noPlus⟩ := ofDecimal_class small
      simp [splitSign, noMinus, noPlus]

/-- **Reading a written integer gives it back**, when the limit allows its digits. -/
theorem parseInt_decimalForm {maxStrDigits : ℕ} {n : ℤ}
    (allowed : maxStrDigits = 0 ∨ (writtenDigits n.natAbs).length ≤ maxStrDigits) :
    parseInt maxStrDigits (decimalForm n) = some n := by
  have stripped : stripBy isNumeralBlank (decimalForm n) = decimalForm n :=
    stripBy_eq_self
      (fun c head => decimalForm_not_blank c (List.mem_of_mem_head? head))
      (fun c last => decimalForm_not_blank c (List.mem_of_mem_getLast? last))
  have digits : digitsFrom false (naturalForm n.natAbs) = some (writtenDigits n.natAbs) := by
    rw [naturalForm_eq]
    exact digitsFrom_map_ofDecimal writtenDigits_lt (.inr writtenDigits_ne_nil)
  rw [parseInt, stripped]
  by_cases negative : n < 0
  · have sign : splitSign (decimalForm n) = (true, naturalForm n.natAbs) := by
      simp [decimalForm, negative, splitSign]
    simp only [sign, digits, allowed, if_true, ofDecimals_writtenDigits]
    exact congrArg some (by omega)
  · have sign : splitSign (decimalForm n) = (false, naturalForm n.natAbs) := by
      simp [decimalForm, negative, splitSign_naturalForm]
    simp only [sign, digits, allowed, if_true, ofDecimals_writtenDigits]
    exact congrArg some (by simp; omega)

/-! ## The canonical spelling -/

/-- ASCII decimal digits, the first of which is not `0`. -/
def PositiveForm (s : PyStr) : Prop :=
  s ≠ [] ∧ (s.all fun c => decide (0x30 ≤ c.val ∧ c.val ≤ 0x39)) = true ∧
    s.head? ≠ some (CodePoint.ofChar '0')

instance (s : PyStr) : Decidable (PositiveForm s) := inferInstanceAs (Decidable (_ ∧ _ ∧ _))

/-- The spelling `str` gives an integer: `0`, or an optional minus sign and ASCII digits without
a leading zero. -/
def Canonical (text : PyStr) : Prop :=
  text = py "0" ∨ PositiveForm text ∨
    (text.head? = some (CodePoint.ofChar '-') ∧ PositiveForm text.tail)

instance (text : PyStr) : Decidable (Canonical text) := inferInstanceAs (Decidable (_ ∨ _ ∨ _))

example : Canonical (py "-120") ∧ ¬ Canonical (py "+1") ∧ ¬ Canonical (py "01") := by decide

theorem ofDecimal_val {digit : ℕ} (small : digit < 10) : (ofDecimal digit).val = 0x30 + digit :=
  Nat.mod_eq_of_lt (by omega)

theorem ofDecimal_eq {c : CodePoint} (low : 0x30 ≤ c.val) (high : c.val ≤ 0x39) :
    ofDecimal (c.val - 0x30) = c := by
  apply Fin.ext
  rw [ofDecimal_val (by omega)]
  omega

/-- A positive number is written without a leading zero. -/
theorem positiveForm_naturalForm {n : ℕ} (positive : n ≠ 0) : PositiveForm (naturalForm n) := by
  have digits : Nat.digits 10 n ≠ [] := by rwa [Ne, Nat.digits_eq_nil_iff_eq_zero]
  have form : naturalForm n = (Nat.digits 10 n).reverse.map ofDecimal := by
    rw [naturalForm, if_neg positive]
  rw [form]
  refine ⟨by simpa using digits, List.all_eq_true.mpr ?_, ?_⟩
  · intro c member
    rw [decide_eq_true_eq]
    obtain ⟨digit, written, rfl⟩ := List.mem_map.mp member
    have small : digit < 10 := Nat.digits_lt_base (by decide) (List.mem_reverse.mp written)
    rw [ofDecimal_val small]
    omega
  · have last := Nat.getLast_digit_ne_zero 10 positive
    have small : (Nat.digits 10 n).getLast digits < 10 :=
      Nat.digits_lt_base (by decide) (List.getLast_mem digits)
    rw [List.head?_map, List.head?_reverse, List.getLast?_eq_some_getLast digits, Option.map_some]
    intro zero
    have value := congrArg Fin.val (Option.some.inj zero)
    rw [ofDecimal_val small] at value
    change 0x30 + _ = 0x30 at value
    omega

/-- Digits without a leading zero are the written form of a positive number. -/
theorem exists_of_positiveForm {s : PyStr} (form : PositiveForm s) :
    ∃ n : ℕ, n ≠ 0 ∧ s = naturalForm n := by
  obtain ⟨nonempty, allAscii, leading⟩ := form
  have ascii : ∀ c ∈ s, 0x30 ≤ c.val ∧ c.val ≤ 0x39 := by
    intro c member
    simpa using List.all_eq_true.mp allAscii c member
  have spelled : (s.map fun c => c.val - 0x30).map ofDecimal = s := by
    rw [List.map_map]
    exact (List.map_congr_left fun c member =>
      ofDecimal_eq (ascii c member).1 (ascii c member).2).trans (List.map_id s)
  generalize digits_def : (s.map fun c => c.val - 0x30) = digits at spelled
  have small : ∀ digit ∈ digits.reverse, digit < 10 := by
    intro digit member
    rw [List.mem_reverse, ← digits_def] at member
    obtain ⟨c, inside, rfl⟩ := List.mem_map.mp member
    have high := (ascii c inside).2
    omega
  have first : ∀ written : digits.reverse ≠ [], digits.reverse.getLast written ≠ 0 := by
    intro written zero
    have head : digits.head? = some 0 := by
      rw [← List.getLast?_reverse, List.getLast?_eq_some_getLast written, zero]
    apply leading
    rw [← spelled, List.head?_map, head]
    rfl
  have read : Nat.digits 10 (Nat.ofDigits 10 digits.reverse) = digits.reverse :=
    Nat.digits_ofDigits 10 (by decide) _ small first
  have positive : Nat.ofDigits 10 digits.reverse ≠ 0 := by
    intro zero
    rw [zero, Nat.digits_zero] at read
    apply nonempty
    rw [← spelled, List.reverse_eq_nil_iff.mp read.symm]
    rfl
  refine ⟨Nat.ofDigits 10 digits.reverse, positive, ?_⟩
  rw [naturalForm, if_neg positive, read, List.reverse_reverse, spelled]

/-- **The canonical spellings are those `str` writes.** -/
theorem canonical_iff {text : PyStr} : Canonical text ↔ ∃ n : ℤ, text = decimalForm n := by
  constructor
  · rintro (rfl | form | ⟨minus, form⟩)
    · exact ⟨0, by decide⟩
    · obtain ⟨n, -, rfl⟩ := exists_of_positiveForm form
      exact ⟨n, by simp [decimalForm]⟩
    · obtain ⟨n, positive, tail⟩ := exists_of_positiveForm form
      refine ⟨-n, ?_⟩
      have negative : -(n : ℤ) < 0 := by omega
      rw [decimalForm, if_pos negative, Int.natAbs_neg, Int.natAbs_natCast, ← tail]
      exact List.eq_cons_of_mem_head? minus
  · rintro ⟨n, rfl⟩
    unfold decimalForm
    split
    · rename_i negative
      exact .inr (.inr ⟨rfl, positiveForm_naturalForm (by omega)⟩)
    · by_cases zero : n.natAbs = 0
      · rw [zero]
        exact .inl rfl
      · exact .inr (.inl (positiveForm_naturalForm zero))

/-- The limit on digits only refuses. -/
theorem parseInt_unlimited {maxStrDigits : ℕ} {text : PyStr} {n : ℤ}
    (read : parseInt maxStrDigits text = some n) : parseInt 0 text = some n := by
  unfold parseInt at read ⊢
  cases digitsRead : digitsFrom false (splitSign (stripBy isNumeralBlank text)).2 with
  | none => simp [digitsRead] at read
  | some digits =>
      simp only [digitsRead] at read ⊢
      split at read
      · rw [if_pos (.inl trivial)]
        exact read
      · cases read

/-- **An accepted string is what `str` makes of its value exactly when it is canonical.** -/
theorem eq_decimalForm_iff {maxStrDigits : ℕ} {text : PyStr} {n : ℤ}
    (read : parseInt maxStrDigits text = some n) : text = decimalForm n ↔ Canonical text := by
  constructor
  · exact fun written => canonical_iff.mpr ⟨n, written⟩
  · intro canonical
    obtain ⟨m, rfl⟩ := canonical_iff.mp canonical
    have value := (parseInt_unlimited read).symm.trans (parseInt_decimalForm (.inl rfl))
    rw [Option.some.inj value]

end PyStr
end Foundations
