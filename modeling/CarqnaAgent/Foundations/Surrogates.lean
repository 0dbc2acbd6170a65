import Mathlib
import CarqnaAgent.Foundations.Newlines

/-!
# Surrogates

UTF-8 has no encoding of a surrogate, so the strings that can be encoded are those
without (`encode_isSome_iff_surrogateFree`). A text that replaces others is in the result
wherever they were: **what replaces at least one occurrence in a text without surrogates
decides whether there are any in the result** (`surrogateFree_replace_iff`). Universal
newlines neither bring nor take any (`surrogateFree_newlines_iff`).
-/

set_option autoImplicit false

namespace Foundations

/-- Half of a surrogate pair. -/
def CodePoint.IsSurrogate (c : CodePoint) : Prop := 0xD800 ≤ c.val ∧ c.val < 0xE000

instance (c : CodePoint) : Decidable c.IsSurrogate :=
  inferInstanceAs (Decidable (_ ∧ _))

theorem CodePoint.toChar?_isSome_iff {c : CodePoint} : c.toChar?.isSome ↔ ¬ c.IsSurrogate := by
  have bound := c.isLt
  unfold toChar? IsSurrogate
  split
  · rename_i valid
    unfold Nat.isValidChar at valid
    exact iff_of_true rfl (by omega)
  · rename_i invalid
    unfold Nat.isValidChar at invalid
    exact iff_of_false Bool.false_ne_true (by omega)

namespace PyStr

/-- No code point is a surrogate. -/
def SurrogateFree (s : PyStr) : Prop := ∀ c ∈ s, ¬ c.IsSurrogate

instance (s : PyStr) : Decidable (SurrogateFree s) := List.decidableBAll _ s

/-- **What can be encoded has no surrogates.** -/
theorem encode_isSome_iff_surrogateFree {s : PyStr} : (encode s).isSome ↔ SurrogateFree s :=
  encode_isSome_iff.trans (forall₂_congr fun _ _ => CodePoint.toChar?_isSome_iff)

/-! ## Replacement -/

theorem surrogateFree_joined_iff {mark first : PyStr} {gaps : List PyStr} (nonempty : gaps ≠ []) :
    SurrogateFree (joined mark first gaps) ↔
      SurrogateFree mark ∧ SurrogateFree first ∧ ∀ gap ∈ gaps, SurrogateFree gap := by
  constructor
  · intro free
    obtain ⟨gap, member⟩ := List.exists_mem_of_ne_nil gaps nonempty
    refine ⟨fun c inside => ?_, fun c inside => ?_, fun gap member c inside => ?_⟩
    · exact free c (mem_joined.mpr (.inr ⟨gap, member, .inl inside⟩))
    · exact free c (mem_joined.mpr (.inl inside))
    · exact free c (mem_joined.mpr (.inr ⟨gap, member, .inr inside⟩))
  · rintro ⟨marks, firsts, others⟩ c inside
    rcases mem_joined.mp inside with inside | ⟨gap, member, inside | inside⟩
    · exact firsts c inside
    · exact marks c inside
    · exact others gap member c inside

/-- **A replacement in a text without surrogates has those of what replaces.** -/
theorem surrogateFree_replace_iff {old new s : PyStr} (occurs : 0 < count old s)
    (free : SurrogateFree s) : SurrogateFree (replace old new s) ↔ SurrogateFree new := by
  obtain ⟨first, gaps, whole, replaced, counted⟩ := exists_gaps old s
  have nonempty : gaps ≠ [] := List.length_pos_iff.mp (counted ▸ occurs)
  rw [whole, surrogateFree_joined_iff nonempty] at free
  rw [replaced new, surrogateFree_joined_iff nonempty]
  exact and_iff_left free.2

/-! ## Line endings -/

theorem surrogateFree_cons_iff {c : CodePoint} {rest : PyStr} :
    SurrogateFree (c :: rest) ↔ ¬ c.IsSurrogate ∧ SurrogateFree rest :=
  List.forall_mem_cons

theorem surrogateFree_newlinesFrom_iff (returned : Bool) (s : PyStr) :
    SurrogateFree (newlinesFrom returned s) ↔ SurrogateFree s := by
  have line : ¬ CodePoint.IsSurrogate lf := by decide
  have carriage : ¬ CodePoint.IsSurrogate cr := by decide
  induction s generalizing returned with
  | nil => exact Iff.rfl
  | cons c rest ih =>
      rw [newlinesFrom, surrogateFree_cons_iff]
      split
      · rename_i returns
        rw [surrogateFree_cons_iff, returns]
        exact and_congr (iff_of_true line carriage) (ih true)
      · split
        · rename_i feeds
          rw [feeds.1, and_iff_right line]
          exact ih false
        · rw [surrogateFree_cons_iff]
          exact and_congr_right fun _ => ih false

theorem surrogateFree_newlines_iff {s : PyStr} : SurrogateFree (newlines s) ↔ SurrogateFree s :=
  surrogateFree_newlinesFrom_iff false s

end PyStr
end Foundations
