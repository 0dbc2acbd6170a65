import Mathlib
import CarqnaAgent.Foundations.Integers

/-!
# Timezone-aware datetimes

A `datetime` with a UTC offset is an instant, counted in microseconds from
`0001-01-01T00:00:00` UTC, and the offset it is displayed in. Both the instant and
the local time lie in the years 1 to 9999, so `astimezone(UTC)` is total.
`isoformat` prints the local fields, the fraction only when it is not zero, and the
offset.
-/

set_option autoImplicit false

namespace Foundations

/-- Microseconds in a day. -/
def dayMicroseconds : ℕ := 86400000000

/-- Microseconds in the years 1 to 9999. -/
def maxInstant : ℕ := 3652059 * dayMicroseconds

/-- An aware `datetime`. -/
structure Datetime where
  instant : ℕ
  utcoffset : ℤ
  instant_lt : instant < maxInstant
  local_nonneg : 0 ≤ (instant : ℤ) + utcoffset
  local_lt : (instant : ℤ) + utcoffset < maxInstant
  offset_lt : |utcoffset| < dayMicroseconds
  deriving DecidableEq

namespace Datetime

/-- The instant displayed in UTC. -/
def utc (instant : ℕ) (bound : instant < maxInstant) : Datetime where
  instant := instant
  utcoffset := 0
  instant_lt := bound
  local_nonneg := by simp
  local_lt := by simpa using bound
  offset_lt := by decide

/-- `t.astimezone(UTC)`. -/
def astimezoneUtc (t : Datetime) : Datetime := utc t.instant t.instant_lt

/-- Days before each month of a common year, `datetime._DAYS_BEFORE_MONTH`. -/
def daysBeforeMonth (month : ℕ) : ℕ :=
  [0, 0, 31, 59, 90, 120, 151, 181, 212, 243, 273, 304, 334].getD month 0

/-- Days in each month of a common year, `datetime._DAYS_IN_MONTH`. -/
def daysInMonth (month : ℕ) : ℕ :=
  [0, 31, 28, 31, 30, 31, 30, 31, 31, 30, 31, 30, 31].getD month 0

/-- `datetime._ord2ymd`, for the number of days since `0001-01-01`. -/
def ymdOfDays (days : ℕ) : ℕ × ℕ × ℕ :=
  let n400 := days / 146097
  let r400 := days % 146097
  let n100 := r400 / 36524
  let r100 := r400 % 36524
  let n4 := r100 / 1461
  let r4 := r100 % 1461
  let n1 := r4 / 365
  let n := r4 % 365
  let year := n400 * 400 + 1 + n100 * 100 + n4 * 4 + n1
  if n1 = 4 ∨ n100 = 4 then (year - 1, 12, 31)
  else
    let leapyear : Bool := n1 = 3 ∧ (n4 ≠ 24 ∨ n100 = 3)
    let month := (n + 50) / 32
    let preceding := daysBeforeMonth month + if 2 < month ∧ leapyear then 1 else 0
    if n < preceding then
      let earlier := preceding - (daysInMonth (month - 1) + if month - 1 = 2 ∧ leapyear then 1 else 0)
      (year, month - 1, n - earlier + 1)
    else (year, month, n - preceding + 1)

/-- The last `width` decimal digits, `%0<width>d` of a number that fits. -/
def zeroPadded : ℕ → ℕ → PyStr
  | 0, _ => []
  | width + 1, n => zeroPadded width (n / 10) ++ [PyStr.ofDecimal (n % 10)]

/-- `datetime._format_time`: the fraction is printed only when it is not zero. -/
def formatTime (microseconds : ℕ) : PyStr :=
  let seconds := microseconds / 1000000
  let fraction := microseconds % 1000000
  zeroPadded 2 (seconds / 3600) ++ py ":" ++ zeroPadded 2 (seconds / 60 % 60) ++ py ":" ++
    zeroPadded 2 (seconds % 60) ++
    if fraction = 0 then [] else py "." ++ zeroPadded 6 fraction

/-- `datetime._format_offset`: hours and minutes, then seconds and fraction if any. -/
def formatOffset (utcoffset : ℤ) : PyStr :=
  let magnitude := utcoffset.natAbs
  let seconds := magnitude / 1000000
  let fraction := magnitude % 1000000
  (if utcoffset < 0 then py "-" else py "+") ++
    zeroPadded 2 (seconds / 3600) ++ py ":" ++ zeroPadded 2 (seconds / 60 % 60) ++
    if seconds % 60 = 0 ∧ fraction = 0 then []
    else py ":" ++ zeroPadded 2 (seconds % 60) ++
      if fraction = 0 then [] else py "." ++ zeroPadded 6 fraction

/-- `t.isoformat()`. -/
def isoformat (t : Datetime) : PyStr :=
  let localTime := ((t.instant : ℤ) + t.utcoffset).toNat
  let (year, month, day) := ymdOfDays (localTime / dayMicroseconds)
  zeroPadded 4 year ++ py "-" ++ zeroPadded 2 month ++ py "-" ++ zeroPadded 2 day ++ py "T" ++
    formatTime (localTime % dayMicroseconds) ++ formatOffset t.utcoffset

example : (utc 63902826000000001 (by decide)).isoformat =
    py "2026-01-01T01:00:00.000001+00:00" := by decide

end Datetime

end Foundations
