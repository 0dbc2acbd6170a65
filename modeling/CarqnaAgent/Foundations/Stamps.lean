import Mathlib

/-!
# Cells stamped by their last writer

A log of entries is written into cells, each entry leaving its own time in its cell.
The cells start with times no later than an epoch, and the entries have times no earlier.

* A cell holds the time of an entry of the log, or what it held at the start
  (`writeAll_cases`).
* **After entries that come in the order of their times, a further entry sets its cell
  back exactly when some entry of that cell is later** (`advances_iff`). Entry by entry,
  the cells are never set back exactly when each is written in the order of time.
-/

set_option autoImplicit false

namespace Foundations
namespace Stamps

variable {Cell Time : Type}

/-! ## Writing -/

section Writing

variable [DecidableEq Cell]

/-- Write one entry. -/
def write (stamps : Cell → Option Time) (entry : Cell × Time) : Cell → Option Time :=
  Function.update stamps entry.1 (some entry.2)

/-- Write a log. -/
def writeAll (stamps : Cell → Option Time) (log : List (Cell × Time)) : Cell → Option Time :=
  log.foldl write stamps

theorem writeAll_concat (stamps : Cell → Option Time) (log : List (Cell × Time))
    (entry : Cell × Time) :
    writeAll stamps (log ++ [entry]) = write (writeAll stamps log) entry := by
  simp [writeAll]

/-- A further entry, if there is one. -/
theorem writeAll_append_toList (stamps : Cell → Option Time) (log : List (Cell × Time))
    (entry : Option (Cell × Time)) :
    writeAll stamps (log ++ entry.toList) =
      entry.elim (writeAll stamps log) (write (writeAll stamps log)) := by
  cases entry with
  | none => simp
  | some entry => exact writeAll_concat stamps log entry

theorem writeAll_cases {stamps : Cell → Option Time} {log : List (Cell × Time)} {cell : Cell}
    {time : Time} (holds : writeAll stamps log cell = some time) :
    (cell, time) ∈ log ∨ stamps cell = some time := by
  induction log using List.reverseRecOn with
  | nil => exact .inr holds
  | append_singleton log entry ih =>
      rw [writeAll_concat, write] at holds
      by_cases here : cell = entry.1
      · subst here
        rw [Function.update_self] at holds
        cases holds
        exact .inl (List.mem_append_right log List.mem_cons_self)
      · rw [Function.update_of_ne here] at holds
        rcases ih holds with written | start
        · exact .inl (List.mem_append_left _ written)
        · exact .inr start

end Writing

/-! ## Order -/

section Order

variable [LinearOrder Time]

/-- The entries of one cell come in the order of their times. -/
def InOrder (log : List (Cell × Time)) : Prop :=
  log.Pairwise fun first second => first.1 = second.1 → first.2 ≤ second.2

/-- The entry does not set its cell back. -/
def Advances (stamps : Cell → Option Time) (entry : Cell × Time) : Prop :=
  ∀ time, stamps entry.1 = some time → time ≤ entry.2

variable {log : List (Cell × Time)} {entry : Cell × Time}

theorem inOrder_nil : InOrder ([] : List (Cell × Time)) := List.Pairwise.nil

theorem inOrder_concat_iff :
    InOrder (log ++ [entry]) ↔
      InOrder log ∧ ∀ earlier ∈ log, earlier.1 = entry.1 → earlier.2 ≤ entry.2 := by
  simp [InOrder, List.pairwise_append]

variable [DecidableEq Cell]

/-- An entry advances its cell exactly when no cell is earlier after it. -/
theorem advances_iff_write_ge {stamps : Cell → Option Time} :
    Advances stamps entry ↔ ∀ cell time after, stamps cell = some time →
      write stamps entry cell = some after → time ≤ after := by
  constructor
  · intro advances cell time after held written
    by_cases here : cell = entry.1
    · subst here
      rw [write, Function.update_self] at written
      exact Option.some.inj written ▸ advances time held
    · rw [write, Function.update_of_ne here, held] at written
      exact (Option.some.inj written).le
  · intro later time held
    exact later entry.1 time entry.2 held (Function.update_self ..)

/-- After entries in order, a cell is at least as late as each of its entries. -/
theorem exists_writeAll_ge (stamps : Cell → Option Time) (inOrder : InOrder log)
    {earlier : Cell × Time} (written : earlier ∈ log) :
    ∃ time, writeAll stamps log earlier.1 = some time ∧ earlier.2 ≤ time := by
  induction log using List.reverseRecOn with
  | nil => cases written
  | append_singleton log entry ih =>
      obtain ⟨before, last⟩ := inOrder_concat_iff.mp inOrder
      rw [writeAll_concat, write]
      by_cases here : earlier.1 = entry.1
      · refine ⟨entry.2, by rw [here, Function.update_self], ?_⟩
        rcases List.mem_append.mp written with old | new
        · exact last earlier old here
        · exact (List.mem_singleton.mp new) ▸ le_rfl
      · rw [Function.update_of_ne here]
        rcases List.mem_append.mp written with old | new
        · exact ih before old
        · exact absurd (congrArg Prod.fst (List.mem_singleton.mp new)) here

/-- **A further entry advances its cell exactly when no entry of the cell is later.** -/
theorem advances_iff {stamps : Cell → Option Time} {epoch : Time}
    (start : ∀ cell time, stamps cell = some time → time ≤ epoch)
    (late : epoch ≤ entry.2) (inOrder : InOrder log) :
    Advances (writeAll stamps log) entry ↔
      ∀ earlier ∈ log, earlier.1 = entry.1 → earlier.2 ≤ entry.2 := by
  constructor
  · intro advances earlier written same
    obtain ⟨time, holds, after⟩ := exists_writeAll_ge stamps inOrder written
    exact after.trans (advances time (same ▸ holds))
  · intro latest time holds
    rcases writeAll_cases holds with written | first
    · exact latest _ written rfl
    · exact (start _ _ first).trans late

/-- **A log stays in order exactly when a further entry, if there is one, advances its cell.** -/
theorem inOrder_append_toList_iff {stamps : Cell → Option Time} {epoch : Time}
    {entry : Option (Cell × Time)}
    (start : ∀ cell time, stamps cell = some time → time ≤ epoch)
    (late : ∀ last, entry = some last → epoch ≤ last.2) :
    InOrder (log ++ entry.toList) ↔
      InOrder log ∧ ∀ last, entry = some last → Advances (writeAll stamps log) last := by
  cases entry with
  | none => simp
  | some last =>
      rw [Option.toList_some, inOrder_concat_iff]
      refine and_congr_right fun inOrder => ?_
      rw [← advances_iff start (late last rfl) inOrder]
      exact ⟨fun advances _ same => Option.some.inj same ▸ advances,
        fun advances => advances last rfl⟩

end Order

end Stamps
end Foundations
