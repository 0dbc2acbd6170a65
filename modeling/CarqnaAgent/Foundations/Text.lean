import Mathlib

/-!
# Python text and bytes

A Python `str` is a sequence of code points, lone surrogates included, and
`bytes` is a sequence of octets. This module has the string methods the modelled
programs use (`lstrip`, `strip`, `replace`, `count`), each by recursion on the list
of code points, and the strict UTF-8 codec, through the one of the standard library.

* Stripping leaves a string whose ends are not in the stripped class
  (`stripBy_head?`, `stripBy_getLast?`), and a string with such ends is left alone
  (`stripBy_eq_self`); so stripping twice is stripping once (`stripBy_stripBy`).
* Decoding undoes encoding (`decode_of_encode`). What can be encoded are the strings without
  surrogates (`encode_isSome_iff`).
-/

set_option autoImplicit false

namespace Foundations

/-- A code point of a Python string: surrogates are code points too. -/
abbrev CodePoint := Fin 0x110000

/-- The code point of a number, `chr(n)`. -/
def CodePoint.ofNat (n : ℕ) : CodePoint := Fin.ofNat 0x110000 n

/-- A Python `str`. -/
abbrev PyStr := List CodePoint

instance PyStr.decidableMem (c : CodePoint) (s : PyStr) : Decidable (c ∈ s) :=
  inferInstanceAs (Decidable (c ∈ (s : List CodePoint)))

/-- A Python `bytes` object. -/
abbrev Bytes := List UInt8

/-- The code point of a character. -/
def CodePoint.ofChar (c : Char) : CodePoint :=
  ⟨c.toNat, by
    have valid := c.valid
    simp only [UInt32.isValidChar, Nat.isValidChar] at valid
    change c.val.toNat < 0x110000
    omega⟩

/-- The character of a code point. A surrogate has none. -/
def CodePoint.toChar? (c : CodePoint) : Option Char :=
  if valid : c.val.isValidChar then some (Char.ofNatAux c.val valid) else none

/-- The string a literal of the source denotes. -/
def py (literal : String) : PyStr := literal.toList.map CodePoint.ofChar

namespace PyStr

/-! ## Stripping -/

/-- Drop the code points of a class from the left end. -/
def lstripBy (drop : CodePoint → Bool) (s : PyStr) : PyStr := s.dropWhile drop

/-- Drop the code points of a class from the right end. -/
def rstripBy (drop : CodePoint → Bool) (s : PyStr) : PyStr := s.rdropWhile drop

/-- Drop the code points of a class from both ends. -/
def stripBy (drop : CodePoint → Bool) (s : PyStr) : PyStr := rstripBy drop (lstripBy drop s)

/-- `s.lstrip(chars)`. -/
abbrev lstrip (chars s : PyStr) : PyStr := lstripBy (fun c => decide (c ∈ chars)) s

/-- `s.strip(chars)`. -/
abbrev strip (chars s : PyStr) : PyStr := stripBy (fun c => decide (c ∈ chars)) s

section Stripping

variable {drop : CodePoint → Bool} {s : PyStr}

theorem lstripBy_head? {c : CodePoint} (head : (lstripBy drop s).head? = some c) :
    drop c = false := by
  induction s with
  | nil => simp [lstripBy] at head
  | cons d rest ih =>
      cases dropped : drop d with
      | true =>
          rw [lstripBy, List.dropWhile_cons_of_pos dropped] at head
          exact ih head
      | false =>
          rw [lstripBy, List.dropWhile_cons_of_neg (by simp [dropped])] at head
          cases head
          exact dropped

theorem lstripBy_eq_self (head : ∀ c, s.head? = some c → drop c = false) :
    lstripBy drop s = s := by
  cases s with
  | nil => rfl
  | cons d rest => exact List.dropWhile_cons_of_neg (by simp [head d rfl])

theorem rstripBy_getLast? {c : CodePoint} (last : (rstripBy drop s).getLast? = some c) :
    drop c = false := by
  have reversed : (lstripBy drop s.reverse).head? = some c := by
    rw [← last, rstripBy, List.rdropWhile, List.getLast?_reverse]
    rfl
  exact lstripBy_head? reversed

theorem rstripBy_eq_self (last : ∀ c, s.getLast? = some c → drop c = false) :
    rstripBy drop s = s := by
  have reversed : lstripBy drop s.reverse = s.reverse :=
    lstripBy_eq_self fun c head => last c (by rwa [List.head?_reverse] at head)
  rw [rstripBy, List.rdropWhile]
  exact (congrArg List.reverse reversed).trans (List.reverse_reverse s)

/-- Stripping the right end keeps the left end. -/
theorem rstripBy_head? {c : CodePoint} (head : (rstripBy drop s).head? = some c) :
    s.head? = some c := by
  obtain ⟨tail, split⟩ : rstripBy drop s <+: s := List.rdropWhile_prefix drop s
  rw [← split]
  cases stripped : rstripBy drop s with
  | nil => rw [stripped] at head; cases head
  | cons d rest => rw [stripped] at head; simpa using head

theorem stripBy_head? {c : CodePoint} (head : (stripBy drop s).head? = some c) :
    drop c = false :=
  lstripBy_head? (rstripBy_head? head)

theorem stripBy_getLast? {c : CodePoint} (last : (stripBy drop s).getLast? = some c) :
    drop c = false :=
  rstripBy_getLast? last

/-- A string whose ends are not in the class is left alone. -/
theorem stripBy_eq_self (head : ∀ c, s.head? = some c → drop c = false)
    (last : ∀ c, s.getLast? = some c → drop c = false) : stripBy drop s = s := by
  rw [stripBy, lstripBy_eq_self head, rstripBy_eq_self last]

theorem stripBy_stripBy : stripBy drop (stripBy drop s) = stripBy drop s :=
  stripBy_eq_self (fun _ => stripBy_head?) fun _ => stripBy_getLast?

/-- A code point of a string is in the class or survives the stripping. -/
theorem mem_stripBy {c : CodePoint} (member : c ∈ s) (kept : drop c = false) :
    c ∈ stripBy drop s := by
  have left : ∀ t : PyStr, c ∈ t → c ∈ lstripBy drop t := by
    intro t inside
    have parts : c ∈ t.takeWhile drop ++ t.dropWhile drop := by
      rwa [List.takeWhile_append_dropWhile]
    rcases List.mem_append.mp parts with dropped | rest
    · exact absurd (List.mem_takeWhile_imp dropped) (by simp [kept])
    · exact rest
  rw [stripBy, rstripBy, List.rdropWhile, List.mem_reverse]
  exact left _ (List.mem_reverse.mpr (left s member))

end Stripping

/-! ## Joining -/

/-- What follows the last separator determines the split of a string. -/
theorem append_separator_inj {c : CodePoint} {front front' back back' : PyStr}
    (free : c ∉ back) (free' : c ∉ back') (same : front ++ c :: back = front' ++ c :: back') :
    front = front' ∧ back = back' := by
  rcases List.append_eq_append_iff.mp same with ⟨rest, front_eq, back_eq⟩ | ⟨rest, front_eq, back_eq⟩
  · cases rest with
    | nil =>
        simp only [List.append_nil, List.nil_append, List.cons.injEq, true_and] at front_eq back_eq
        exact ⟨front_eq.symm, back_eq⟩
    | cons d rest =>
        simp only [List.cons_append, List.cons.injEq] at back_eq
        exact absurd (back_eq.2 ▸ List.mem_append_right rest List.mem_cons_self) free
  · cases rest with
    | nil =>
        simp only [List.append_nil, List.nil_append, List.cons.injEq, true_and] at front_eq back_eq
        exact ⟨front_eq, back_eq.symm⟩
    | cons d rest =>
        simp only [List.cons_append, List.cons.injEq] at back_eq
        exact absurd (back_eq.2 ▸ List.mem_append_right rest List.mem_cons_self) free'

/-! ## Replacing -/

/-- `replace` from inside a match, `skip` code points of which are still to be dropped. -/
def replaceFrom (old new : PyStr) : ℕ → PyStr → PyStr
  | _, [] => []
  | skip + 1, _ :: rest => replaceFrom old new skip rest
  | 0, c :: rest =>
      if old.isPrefixOf (c :: rest) then new ++ replaceFrom old new (old.length - 1) rest
      else c :: replaceFrom old new 0 rest

/-- `s.replace(old, new)`: non-overlapping matches, from the left. An empty `old`
matches before every code point and at the end. -/
def replace (old new s : PyStr) : PyStr :=
  if old = [] then new ++ s.flatMap (fun c => c :: new) else replaceFrom old new 0 s

/-- `count` from inside a match, `skip` code points of which are still to be dropped. -/
def countFrom (old : PyStr) : ℕ → PyStr → ℕ
  | _, [] => 0
  | skip + 1, _ :: rest => countFrom old skip rest
  | 0, c :: rest =>
      if old.isPrefixOf (c :: rest) then countFrom old (old.length - 1) rest + 1
      else countFrom old 0 rest

/-- `s.count(old)`. -/
def count (old s : PyStr) : ℕ :=
  if old = [] then s.length + 1 else countFrom old 0 s

example : replace (py "ab") (py "x") (py "abcabab") = py "xcxx" := by decide
example : count (py "aa") (py "aaaaa") = 2 := by decide

/-! ## UTF-8 -/

/-- `s.encode("utf-8")`. A surrogate raises `UnicodeEncodeError`, here `none`. -/
def encode (s : PyStr) : Option Bytes :=
  (s.mapM CodePoint.toChar?).map fun chars => (String.ofList chars).toByteArray.data.toList

/-- `b.decode("utf-8")`. Ill-formed input raises `UnicodeDecodeError`, here `none`. -/
def decode (b : Bytes) : Option PyStr :=
  (ByteArray.utf8Decode? ⟨b.toArray⟩).map fun chars => chars.toList.map CodePoint.ofChar

theorem ofChar_of_toChar? {c : CodePoint} {d : Char} (read : c.toChar? = some d) :
    CodePoint.ofChar d = c := by
  unfold CodePoint.toChar? at read
  split at read
  · cases read
    exact Fin.ext (by simp [CodePoint.ofChar, Char.toNat, Char.ofNatAux])
  · cases read

theorem map_ofChar_of_mapM {s : PyStr} {chars : List Char}
    (read : s.mapM CodePoint.toChar? = some chars) : chars.map CodePoint.ofChar = s := by
  induction s generalizing chars with
  | nil =>
      cases read
      rfl
  | cons c rest ih =>
      simp only [List.mapM_cons, Option.pure_def, Option.bind_eq_bind, Option.bind_eq_some_iff,
        Option.some.injEq] at read
      obtain ⟨d, head, tail, restRead, rfl⟩ := read
      rw [List.map_cons, ofChar_of_toChar? head, ih restRead]

/-- **Decoding undoes encoding.** -/
theorem decode_of_encode {s : PyStr} {b : Bytes} (encoded : encode s = some b) :
    decode b = some s := by
  obtain ⟨chars, read, rfl⟩ := Option.map_eq_some_iff.mp encoded
  simp only [decode, Array.toArray_toList]
  rw [show ByteArray.mk (String.ofList chars).toByteArray.data = chars.utf8Encode from
    String.toByteArray_ofList]
  simp [map_ofChar_of_mapM read]

theorem toChar?_ofChar (d : Char) : (CodePoint.ofChar d).toChar? = some d := by
  rw [CodePoint.toChar?, dif_pos (show (CodePoint.ofChar d).val.isValidChar from d.valid)]
  rfl

/-- A string without surrogates can be encoded. -/
theorem encode_isSome_iff {s : PyStr} : (encode s).isSome ↔ ∀ c ∈ s, c.toChar?.isSome := by
  rw [encode, Option.isSome_map]
  induction s with
  | nil => simp
  | cons c rest ih =>
      rw [List.forall_mem_cons, ← ih, List.mapM_cons]
      cases c.toChar? with
      | none => simp
      | some d =>
          cases rest.mapM CodePoint.toChar? with
          | none => simp
          | some chars => simp

/-- What was decoded can be encoded. -/
theorem encode_isSome_of_decode {b : Bytes} {s : PyStr} (decoded : decode b = some s) :
    (encode s).isSome := by
  obtain ⟨chars, -, rfl⟩ := Option.map_eq_some_iff.mp decoded
  refine encode_isSome_iff.mpr fun c member => ?_
  obtain ⟨d, -, rfl⟩ := List.mem_map.mp member
  rw [toChar?_ofChar]
  rfl

/-! ## Base 64 -/

/-- The sextet digits of `base64.standard_b64encode`. -/
def base64Digit (sextet : ℕ) : CodePoint :=
  CodePoint.ofNat
    (if sextet < 26 then 0x41 + sextet
    else if sextet < 52 then 0x61 + (sextet - 26)
    else if sextet < 62 then 0x30 + (sextet - 52)
    else if sextet = 62 then 0x2B else 0x2F)

/-- `base64.standard_b64encode(b).decode("ascii")`. -/
def base64 : Bytes → PyStr
  | [] => []
  | [a] => [base64Digit (a.toNat / 4), base64Digit (a.toNat % 4 * 16)] ++ py "=="
  | [a, b] =>
      [base64Digit (a.toNat / 4), base64Digit (a.toNat % 4 * 16 + b.toNat / 16),
        base64Digit (b.toNat % 16 * 4)] ++ py "="
  | a :: b :: c :: rest =>
      [base64Digit (a.toNat / 4), base64Digit (a.toNat % 4 * 16 + b.toNat / 16),
        base64Digit (b.toNat % 16 * 4 + c.toNat / 64), base64Digit (c.toNat % 64)] ++ base64 rest

example : base64 [0x66, 0x6F, 0x6F, 0x62, 0xFF] = py "Zm9vYv8=" := by decide

end PyStr

end Foundations
