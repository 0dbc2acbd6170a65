import Mathlib
import CarqnaAgent.Foundations.Calendars

/-!
# The order of timestamps as text

Text is compared code point by code point. Where two texts are made of fields of a fixed
width, the first fields that differ decide (`field_lt`), and numbers padded with zeros to
one width compare as numbers (`zeroPadded_lt`).

`isoformat` leaves a zero fraction out, so its texts in UTC have two lengths. Where one
has the `.` of its fraction the other has the `+` of its offset, and `+` comes before `.`.
So **the texts of timestamps in UTC compare as the timestamps do**
(`isoformat_astimezoneUtc_lt_iff`, `isoformat_astimezoneUtc_eq_iff`).
-/

set_option autoImplicit false

namespace Foundations

/-! ## Fields of text -/

/-- Texts of one length decide for what follows them. -/
theorem append_lt_append_of_lt {first second : PyStr} (width : first.length = second.length)
    (less : first < second) (later later' : PyStr) : first ++ later < second ++ later' := by
  induction first generalizing second with
  | nil =>
      rw [List.length_nil, eq_comm, List.length_eq_zero_iff] at width
      rw [width] at less
      exact absurd less (List.not_lt_nil _)
  | cons c rest ih =>
      cases second with
      | nil => exact absurd less (List.not_lt_nil _)
      | cons d rest' =>
          rw [List.cons_append, List.cons_append, List.cons_lt_cons_iff]
          rcases List.cons_lt_cons_iff.mp less with smaller | ⟨rfl, further⟩
          · exact .inl smaller
          · exact .inr ⟨rfl, ih (Nat.succ.inj width) further⟩

namespace Datetime

@[simp] theorem zeroPadded_length (width n : ℕ) : (zeroPadded width n).length = width := by
  induction width generalizing n with
  | zero => rfl
  | succ width ih => rw [zeroPadded, List.length_append, ih, List.length_singleton]

/-- Numbers of one width compare as numbers. -/
theorem zeroPadded_lt {width n m : ℕ} (less : n < m) (bound : m < 10 ^ width) :
    zeroPadded width n < zeroPadded width m := by
  induction width generalizing n m with
  | zero =>
      rw [pow_zero] at bound
      omega
  | succ width ih =>
      rw [zeroPadded, zeroPadded]
      rw [pow_succ] at bound
      rcases Nat.lt_or_ge (n / 10) (m / 10) with front | front
      · exact append_lt_append_of_lt (by simp) (ih front (by omega)) _ _
      · have same : n / 10 = m / 10 := by omega
        have last : n % 10 < m % 10 := by omega
        rw [same]
        refine List.append_left_lt (List.cons_lt_cons_iff.mpr (.inl ?_))
        rw [Fin.lt_def, PyStr.ofDecimal_val (by omega), PyStr.ofDecimal_val (by omega)]
        omega

/-- A number of fixed width decides, or else what follows it. -/
theorem field_lt {width n m : ℕ} {later later' : PyStr} (bound : m < 10 ^ width)
    (order : n < m ∨ n = m ∧ later < later') :
    zeroPadded width n ++ later < zeroPadded width m ++ later' := by
  rcases order with less | ⟨rfl, less⟩
  · exact append_lt_append_of_lt (by simp) (zeroPadded_lt less bound) _ _
  · exact List.append_left_lt less

/-! ## The time of a day -/

/-- The fraction of a second, then the offset of UTC. -/
def fractionTail (fraction : ℕ) : PyStr :=
  (if fraction = 0 then [] else py "." ++ zeroPadded 6 fraction) ++ py "+00:00"

/-- The fraction that is left out is the smallest. -/
theorem fractionTail_lt {fraction later : ℕ} (less : fraction < later) (bound : later < 1000000) :
    fractionTail fraction < fractionTail later := by
  have nonzero : later ≠ 0 := by omega
  unfold fractionTail
  rw [if_neg nonzero]
  by_cases zero : fraction = 0
  · -- `+` against `.`
    rw [if_pos zero]
    exact List.cons_lt_cons_iff.mpr (.inl (by decide))
  · rw [if_neg zero, List.append_assoc, List.append_assoc]
    exact List.append_left_lt (field_lt bound (.inl less))

/-- The hours decide, then the minutes, then the seconds, then the fractions. -/
theorem time_order {time later : ℕ} (less : time < later) :
    time / 1000000 / 3600 < later / 1000000 / 3600 ∨
      time / 1000000 / 3600 = later / 1000000 / 3600 ∧
        (time / 1000000 / 60 % 60 < later / 1000000 / 60 % 60 ∨
          time / 1000000 / 60 % 60 = later / 1000000 / 60 % 60 ∧
            (time / 1000000 % 60 < later / 1000000 % 60 ∨
              time / 1000000 % 60 = later / 1000000 % 60 ∧
                time % 1000000 < later % 1000000)) := by
  have seconds : time / 1000000 < later / 1000000 ∨
      time / 1000000 = later / 1000000 ∧ time % 1000000 < later % 1000000 := by omega
  rcases seconds with seconds | ⟨same, fraction⟩
  · generalize time / 1000000 = s at *
    generalize later / 1000000 = s' at *
    omega
  · rw [same]
    exact .inr ⟨rfl, .inr ⟨rfl, .inr ⟨rfl, fraction⟩⟩⟩

/-- **The times of a day compare as text.** -/
theorem formatTime_lt {time later : ℕ} (less : time < later) (bound : later < dayMicroseconds) :
    formatTime time ++ py "+00:00" < formatTime later ++ py "+00:00" := by
  rw [dayMicroseconds] at bound
  simp only [formatTime, List.append_assoc]
  refine field_lt (by omega) ((time_order less).imp id (And.imp id fun minutes => ?_))
  refine List.append_left_lt (field_lt (by omega) (minutes.imp id (And.imp id fun seconds => ?_)))
  refine List.append_left_lt (field_lt (by omega) (seconds.imp id (And.imp id fun fraction => ?_)))
  exact fractionTail_lt fraction (by omega)

/-! ## Timestamps -/

/-- The text of a timestamp in UTC. -/
theorem isoformat_utc {instant : ℕ} (bound : instant < maxInstant) :
    (utc instant bound).isoformat =
      zeroPadded 4 (ymdOfDays (instant / dayMicroseconds)).1 ++ (py "-" ++
        (zeroPadded 2 (ymdOfDays (instant / dayMicroseconds)).2.1 ++ (py "-" ++
          (zeroPadded 2 (ymdOfDays (instant / dayMicroseconds)).2.2 ++ (py "T" ++
            (formatTime (instant % dayMicroseconds) ++ py "+00:00")))))) := by
  have offset : formatOffset 0 = py "+00:00" := by decide
  simp only [isoformat, utc, add_zero, Int.toNat_natCast, offset, List.append_assoc]

/-- **A later timestamp has a later text.** -/
theorem isoformat_utc_lt {instant later : ℕ} {bound : instant < maxInstant}
    {bound' : later < maxInstant} (less : instant < later) :
    (utc instant bound).isoformat < (utc later bound').isoformat := by
  have days : later / dayMicroseconds < 3652059 := by
    rw [maxInstant, dayMicroseconds] at bound'
    rw [dayMicroseconds]
    omega
  obtain ⟨year, month, day⟩ := ymdOfDays_bounds days
  have order : instant / dayMicroseconds < later / dayMicroseconds ∨
      instant / dayMicroseconds = later / dayMicroseconds ∧
        instant % dayMicroseconds < later % dayMicroseconds := by
    rw [dayMicroseconds]
    omega
  rw [isoformat_utc, isoformat_utc]
  rcases order with earlier | ⟨same, time⟩
  · refine field_lt year ((ymdOfDays_lt earlier).imp id (And.imp id fun months => ?_))
    refine List.append_left_lt (field_lt month (months.imp id (And.imp id fun days => ?_)))
    exact List.append_left_lt (field_lt day (.inl days))
  · rw [same]
    refine field_lt year (.inr ⟨rfl, List.append_left_lt ?_⟩)
    refine field_lt month (.inr ⟨rfl, List.append_left_lt ?_⟩)
    refine field_lt day (.inr ⟨rfl, List.append_left_lt ?_⟩)
    exact formatTime_lt time (Nat.mod_lt _ (by decide))

/-- **In UTC, texts compare as the timestamps do.** -/
theorem isoformat_astimezoneUtc_lt_iff {s t : Datetime} :
    s.astimezoneUtc.isoformat < t.astimezoneUtc.isoformat ↔ s.instant < t.instant := by
  constructor
  · intro less
    by_contra notLess
    rcases Nat.eq_or_lt_of_le (not_lt.mp notLess) with same | further
    · simp only [astimezoneUtc, same] at less
      exact lt_irrefl _ less
    · exact lt_asymm less (isoformat_utc_lt further)
  · exact isoformat_utc_lt

/-- Equal texts are of equal instants. -/
theorem isoformat_astimezoneUtc_eq_iff {s t : Datetime} :
    s.astimezoneUtc.isoformat = t.astimezoneUtc.isoformat ↔ s.instant = t.instant := by
  constructor
  · intro same
    rcases lt_trichotomy s.instant t.instant with less | equal | further
    · exact absurd same (isoformat_astimezoneUtc_lt_iff.mpr less).ne
    · exact equal
    · exact absurd same (isoformat_astimezoneUtc_lt_iff.mpr further).ne'
  · intro same
    simp only [astimezoneUtc, same]

end Datetime
end Foundations
