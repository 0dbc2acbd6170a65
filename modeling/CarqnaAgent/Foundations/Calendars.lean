import Mathlib
import CarqnaAgent.Foundations.Datetimes

/-!
# The order of the calendar

`ymdOfDays` counts days into dates. A date determines its day: the days before its year,
and the place of its month and day in the year (`ymdOfDays_spec`). Years do not overlap
(`daysBeforeYear_add_le`) and in a year the dates come in the order of their days
(`monthDay_lt`).

So **dates come in the order of their days**, the year first, then the month, then the day
(`ymdOfDays_lt`), and each has its range (`ymdOfDays_bounds`).
-/

set_option autoImplicit false

namespace Foundations
namespace Datetime

/-! ## Years -/

/-- `datetime._is_leap`. -/
def isLeap (year : ℕ) : Bool := year % 4 = 0 ∧ (year % 100 ≠ 0 ∨ year % 400 = 0)

/-- `datetime._days_before_year`. -/
def daysBeforeYear (year : ℕ) : ℕ :=
  (year - 1) * 365 + (year - 1) / 4 - (year - 1) / 100 + (year - 1) / 400

/-- The days of a year. -/
def daysInYear (year : ℕ) : ℕ := 365 + if isLeap year then 1 else 0

theorem isLeap_iff {year : ℕ} :
    isLeap year = true ↔ year % 4 = 0 ∧ (year % 100 ≠ 0 ∨ year % 400 = 0) := by
  simp [isLeap]

/-- A multiple adds one to a quotient. -/
theorem succ_div_eq (n m : ℕ) : (n + 1) / m = n / m + if (n + 1) % m = 0 then 1 else 0 := by
  rw [Nat.succ_div]
  simp only [Nat.dvd_iff_mod_eq_zero]

theorem daysBeforeYear_succ {year : ℕ} (positive : 1 ≤ year) :
    daysBeforeYear (year + 1) = daysBeforeYear year + daysInYear year := by
  obtain ⟨y, rfl⟩ := Nat.exists_eq_add_of_le' positive
  have hundreds : (y + 1) % 100 = 0 → (y + 1) % 4 = 0 := by omega
  have eras : (y + 1) % 400 = 0 → (y + 1) % 100 = 0 := by omega
  have fewer : y / 100 ≤ y / 4 := Nat.div_le_div_left (by omega) (by omega)
  simp only [daysBeforeYear, daysInYear, isLeap_iff, Nat.add_sub_cancel, succ_div_eq y]
  generalize (y + 1) % 4 = four at *
  generalize (y + 1) % 100 = hundred at *
  generalize (y + 1) % 400 = era at *
  split_ifs <;> omega

/-- Years do not overlap. -/
theorem daysBeforeYear_add_le {year later : ℕ} (positive : 1 ≤ year) (before : year < later) :
    daysBeforeYear year + daysInYear year ≤ daysBeforeYear later := by
  induction later, before using Nat.le_induction with
  | base => rw [Nat.succ_eq_add_one, daysBeforeYear_succ positive]
  | succ later before ih =>
      rw [daysBeforeYear_succ (by omega)]
      omega

/-! ## Days of a year -/

/-- The month and the day of a day of a year, as `_ord2ymd` guesses and corrects them. -/
def monthDay (leapyear : Bool) (n : ℕ) : ℕ × ℕ :=
  let month := (n + 50) / 32
  let preceding := daysBeforeMonth month + if 2 < month ∧ leapyear then 1 else 0
  if n < preceding then
    let earlier := preceding - (daysInMonth (month - 1) + if month - 1 = 2 ∧ leapyear then 1 else 0)
    (month - 1, n - earlier + 1)
  else (month, n - preceding + 1)

/-- A month and a day as one number. -/
def placeInYear (date : ℕ × ℕ) : ℕ := 32 * date.1 + date.2

theorem monthDay_bounds (leapyear : Bool) : ∀ n < 365 + (if leapyear then 1 else 0),
    (monthDay leapyear n).1 ≤ 12 ∧ (monthDay leapyear n).2 < 32 := by
  cases leapyear with
  | false => decide +kernel
  | true => decide +kernel

theorem placeInYear_step (leapyear : Bool) : ∀ n < 364 + (if leapyear then 1 else 0),
    placeInYear (monthDay leapyear n) < placeInYear (monthDay leapyear (n + 1)) := by
  cases leapyear with
  | false => decide +kernel
  | true => decide +kernel

/-- In a year the dates come in the order of their days. -/
theorem monthDay_lt {leapyear : Bool} {n later : ℕ} (before : n < later)
    (bound : later < 365 + (if leapyear then 1 else 0)) :
    (monthDay leapyear n).1 < (monthDay leapyear later).1 ∨
      (monthDay leapyear n).1 = (monthDay leapyear later).1 ∧
        (monthDay leapyear n).2 < (monthDay leapyear later).2 := by
  have places : placeInYear (monthDay leapyear n) < placeInYear (monthDay leapyear later) := by
    induction later, before using Nat.le_induction with
    | base => exact placeInYear_step leapyear n (by omega)
    | succ later before ih =>
        exact (ih (by omega)).trans (placeInYear_step leapyear later (by omega))
  have small := (monthDay_bounds leapyear n (by omega)).2
  have small' := (monthDay_bounds leapyear later bound).2
  unfold placeInYear at places
  omega

/-! ## Dates -/

/-- The days before a year of a cycle of 400, 100 and 4 years. -/
theorem daysBeforeYear_cycles {a b c d : ℕ} (centuries : b ≤ 3) (fours : c ≤ 24) (ones : d ≤ 3) :
    daysBeforeYear (a * 400 + 1 + b * 100 + c * 4 + d) =
      146097 * a + 36524 * b + 1461 * c + 365 * d := by
  have byFour : (a * 400 + 1 + b * 100 + c * 4 + d - 1) / 4 = a * 100 + b * 25 + c := by omega
  have byHundred : (a * 400 + 1 + b * 100 + c * 4 + d - 1) / 100 = a * 4 + b := by omega
  have byEra : (a * 400 + 1 + b * 100 + c * 4 + d - 1) / 400 = a := by omega
  rw [daysBeforeYear, byFour, byHundred, byEra]
  omega

theorem isLeap_cycles {a b c d : ℕ} (centuries : b ≤ 3) (fours : c ≤ 24) (ones : d ≤ 3) :
    isLeap (a * 400 + 1 + b * 100 + c * 4 + d) = true ↔ d = 3 ∧ (c ≠ 24 ∨ b = 3) := by
  rw [isLeap_iff]
  omega

/-- A day of a year of the cycles: the last day of a leap year is the 366th. -/
theorem lt_daysInYear_cycles {a b c d n : ℕ} (centuries : b ≤ 3) (fours : c ≤ 24) (ones : d ≤ 3)
    (inYear : n < 365 ∨ n = 365 ∧ d = 3 ∧ (c ≠ 24 ∨ b = 3)) :
    n < daysInYear (a * 400 + 1 + b * 100 + c * 4 + d) := by
  unfold daysInYear
  rcases inYear with common | ⟨rfl, last⟩
  · omega
  · rw [if_pos ((isLeap_cycles centuries fours ones).mpr last)]
    omega

/-- **A date determines its day.** -/
theorem ymdOfDays_spec (days : ℕ) : ∃ year n,
    ymdOfDays days = (year, monthDay (isLeap year) n) ∧ days = daysBeforeYear year + n ∧
      n < daysInYear year ∧ 1 ≤ year := by
  have cut400 := Nat.div_add_mod days 146097
  have low400 : days % 146097 < 146097 := Nat.mod_lt _ (by omega)
  generalize n400 : days / 146097 = a at cut400
  generalize r400 : days % 146097 = r at cut400 low400
  have cut100 := Nat.div_add_mod r 36524
  have low100 : r % 36524 < 36524 := Nat.mod_lt _ (by omega)
  generalize n100 : r / 36524 = b at cut100
  generalize r100 : r % 36524 = r' at cut100 low100
  have cut4 := Nat.div_add_mod r' 1461
  have low4 : r' % 1461 < 1461 := Nat.mod_lt _ (by omega)
  generalize n4 : r' / 1461 = c at cut4
  generalize r4 : r' % 1461 = r'' at cut4 low4
  have cut1 := Nat.div_add_mod r'' 365
  have low1 : r'' % 365 < 365 := Nat.mod_lt _ (by omega)
  generalize n1 : r'' / 365 = d at cut1
  generalize r1 : r'' % 365 = n at cut1 low1
  simp only [ymdOfDays, n400, r400, n100, r100, n4, r4, n1, r1]
  by_cases last : d = 4 ∨ b = 4
  · -- the year counted is one too many: the day is the last of a leap year
    rw [if_pos last]
    rcases last with rfl | rfl
    · have year : a * 400 + 1 + b * 100 + c * 4 + 4 - 1 = a * 400 + 1 + b * 100 + c * 4 + 3 := by
        omega
      have centuries : b ≤ 3 := by omega
      have fours : c ≤ 23 := by omega
      have leap : isLeap (a * 400 + 1 + b * 100 + c * 4 + 3) = true :=
        (isLeap_cycles centuries (by omega) le_rfl).mpr ⟨rfl, .inl (by omega)⟩
      refine ⟨a * 400 + 1 + b * 100 + c * 4 + 3, 365, ?_, ?_, ?_, by omega⟩
      · rw [year, leap]
        rfl
      · rw [daysBeforeYear_cycles centuries (by omega) le_rfl]
        omega
      · exact lt_daysInYear_cycles centuries (by omega) le_rfl (.inr ⟨rfl, rfl, .inl (by omega)⟩)
    · have year : a * 400 + 1 + 4 * 100 + c * 4 + d - 1 = a * 400 + 1 + 3 * 100 + 24 * 4 + 3 := by
        omega
      have leap : isLeap (a * 400 + 1 + 3 * 100 + 24 * 4 + 3) = true :=
        (isLeap_cycles le_rfl le_rfl le_rfl).mpr ⟨rfl, .inr rfl⟩
      refine ⟨a * 400 + 1 + 3 * 100 + 24 * 4 + 3, 365, ?_, ?_, ?_, by omega⟩
      · rw [year, leap]
        rfl
      · rw [daysBeforeYear_cycles le_rfl le_rfl le_rfl]
        omega
      · exact lt_daysInYear_cycles le_rfl le_rfl le_rfl (.inr ⟨rfl, rfl, .inr rfl⟩)
  · rw [if_neg last]
    have centuries : b ≤ 3 := by omega
    have fours : c ≤ 24 := by omega
    have ones : d ≤ 3 := by omega
    refine ⟨a * 400 + 1 + b * 100 + c * 4 + d, n, ?_, ?_, ?_, by omega⟩
    · have leap : isLeap (a * 400 + 1 + b * 100 + c * 4 + d) =
          decide (d = 3 ∧ (c ≠ 24 ∨ b = 3)) := by
        rw [Bool.eq_iff_iff, decide_eq_true_iff]
        exact isLeap_cycles centuries fours ones
      rw [leap, monthDay]
      split_ifs <;> rfl
    · rw [daysBeforeYear_cycles centuries fours ones]
      omega
    · exact lt_daysInYear_cycles centuries fours ones (.inl low1)

/-- **Dates come in the order of their days.** -/
theorem ymdOfDays_lt {days later : ℕ} (before : days < later) :
    (ymdOfDays days).1 < (ymdOfDays later).1 ∨
      (ymdOfDays days).1 = (ymdOfDays later).1 ∧
        ((ymdOfDays days).2.1 < (ymdOfDays later).2.1 ∨
          (ymdOfDays days).2.1 = (ymdOfDays later).2.1 ∧
            (ymdOfDays days).2.2 < (ymdOfDays later).2.2) := by
  obtain ⟨year, n, date, place, inYear, -⟩ := ymdOfDays_spec days
  obtain ⟨year', n', date', place', inYear', positive⟩ := ymdOfDays_spec later
  rw [date, date']
  rcases lt_trichotomy year year' with earlier | rfl | further
  · exact .inl earlier
  · have following : n < n' := by omega
    exact .inr ⟨rfl, monthDay_lt following inYear'⟩
  · have apart := daysBeforeYear_add_le positive further
    omega

/-- The years of a `datetime` have four digits, its months and days two. -/
theorem ymdOfDays_bounds {days : ℕ} (bound : days < 3652059) :
    (ymdOfDays days).1 < 10000 ∧ (ymdOfDays days).2.1 < 100 ∧ (ymdOfDays days).2.2 < 100 := by
  obtain ⟨year, n, date, place, inYear, positive⟩ := ymdOfDays_spec days
  obtain ⟨month, day⟩ := monthDay_bounds (isLeap year) n inYear
  rw [date]
  refine ⟨?_, Nat.lt_of_le_of_lt month (by omega), Nat.lt_trans day (by omega)⟩
  by_contra late
  have before : daysBeforeYear 10000 ≤ daysBeforeYear year := by
    rcases Nat.eq_or_lt_of_le (not_lt.mp late) with same | further
    · rw [same]
    · exact (Nat.le_add_right _ _).trans (daysBeforeYear_add_le (by omega) further)
  have last : daysBeforeYear 10000 = 3652059 := by decide
  omega

end Datetime
end Foundations
