import ChainworksForge.Support.Checked
import ChainworksForge.Support.UtcTime
import Mathlib.Data.Nat.Find

/-!
# Arithmetic on dates and times

The days of the common era are numbered, and every number is the number of one date.
Whole seconds are added to a date with a time; the arithmetic is partial, since the
calendar has a first and a last date.
-/

namespace ChainworksForge.Support

namespace NaiveDate

/-! ## The date of a day -/

/-- The year of a day, from an estimate that is wrong by one year at most. -/
def yearOfDay (n : ℤ) : ℤ :=
  let estimate := (n - 1) * 400 / 146097 + 1
  if n ≤ daysBeforeYear estimate then estimate - 1
  else if daysBeforeYear (estimate + 1) < n then estimate + 1
  else estimate

theorem yearOfDay_spec (n : ℤ) :
    daysBeforeYear (yearOfDay n) < n ∧ n ≤ daysBeforeYear (yearOfDay n + 1) := by
  unfold yearOfDay
  simp only
  split_ifs with hearly hlate
  all_goals
    simp only [daysBeforeYear] at *
    omega

/-- The month of a day, from its number in the year. -/
def monthOfOrdinal (year : ℤ) (ordinal : ℕ) : ℕ :=
  Nat.findGreatest (fun month => daysBeforeMonth year month < ordinal) 12

theorem monthOfOrdinal_spec {year : ℤ} {ordinal : ℕ} (hfirst : 1 ≤ ordinal)
    (hlast : ordinal ≤ yearLength year) :
    (1 ≤ monthOfOrdinal year ordinal ∧ monthOfOrdinal year ordinal ≤ 12) ∧
      daysBeforeMonth year (monthOfOrdinal year ordinal) < ordinal ∧
      ordinal ≤ daysBeforeMonth year (monthOfOrdinal year ordinal + 1) := by
  have hjanuary : daysBeforeMonth year 1 < ordinal := by
    simpa [daysBeforeMonth, daysInMonth] using Nat.lt_of_succ_le hfirst
  refine ⟨⟨Nat.le_findGreatest (by omega) hjanuary, Nat.findGreatest_le 12⟩,
    Nat.findGreatest_spec (P := fun month => daysBeforeMonth year month < ordinal)
      (by omega : 1 ≤ 12) hjanuary, ?_⟩
  by_contra hlater
  have hle : monthOfOrdinal year ordinal ≤ 12 := Nat.findGreatest_le 12
  obtain hdecember | hmonth := hle.eq_or_lt
  · rw [hdecember, daysBeforeMonth_end] at hlater
    exact hlater hlast
  · have hnext := Nat.le_findGreatest (P := fun month => daysBeforeMonth year month < ordinal)
      (show monthOfOrdinal year ordinal + 1 ≤ 12 by omega) (by omega)
    rw [← monthOfOrdinal] at hnext
    omega

/-- The number of a day in its year. -/
def ordinalOfDay (n : ℤ) : ℕ := (n - daysBeforeYear (yearOfDay n)).toNat

theorem ordinalOfDay_spec (n : ℤ) :
    1 ≤ ordinalOfDay n ∧ ordinalOfDay n ≤ yearLength (yearOfDay n) := by
  have hyear := yearOfDay_spec n
  rw [daysBeforeYear_succ] at hyear
  unfold ordinalOfDay
  omega

theorem monthOfDay_valid (n : ℤ) :
    1 ≤ monthOfOrdinal (yearOfDay n) (ordinalOfDay n) ∧
      monthOfOrdinal (yearOfDay n) (ordinalOfDay n) ≤ 12 :=
  (monthOfOrdinal_spec (ordinalOfDay_spec n).1 (ordinalOfDay_spec n).2).1

theorem dayOfMonth_valid (n : ℤ) :
    1 ≤ ordinalOfDay n -
        daysBeforeMonth (yearOfDay n) (monthOfOrdinal (yearOfDay n) (ordinalOfDay n)) ∧
      ordinalOfDay n -
        daysBeforeMonth (yearOfDay n) (monthOfOrdinal (yearOfDay n) (ordinalOfDay n)) ≤
        daysInMonth (yearOfDay n) (monthOfOrdinal (yearOfDay n) (ordinalOfDay n)) := by
  have hordinal := ordinalOfDay_spec n
  have hmonth := monthOfOrdinal_spec hordinal.1 hordinal.2
  rw [daysBeforeMonth] at hmonth
  omega

/-- The date of a day of the common era. -/
def ofNumDaysFromCe (n : ℤ) : NaiveDate where
  year := yearOfDay n
  month := monthOfOrdinal (yearOfDay n) (ordinalOfDay n)
  day := ordinalOfDay n -
    daysBeforeMonth (yearOfDay n) (monthOfOrdinal (yearOfDay n) (ordinalOfDay n))
  month_valid := monthOfDay_valid n
  day_valid := dayOfMonth_valid n

@[simp] theorem numDaysFromCe_ofNumDaysFromCe (n : ℤ) :
    (ofNumDaysFromCe n).numDaysFromCe = n := by
  have hordinal := ordinalOfDay_spec n
  have hmonth := monthOfOrdinal_spec hordinal.1 hordinal.2
  have hyear := yearOfDay_spec n
  simp only [numDaysFromCe, ofNumDaysFromCe]
  have hdef : (ordinalOfDay n : ℤ) = n - daysBeforeYear (yearOfDay n) := by
    unfold ordinalOfDay
    omega
  omega

theorem numDaysFromCe_injective : Function.Injective numDaysFromCe := by
  intro a b h
  have hab := (numDaysFromCe_lt_iff a b).not.1 (by omega)
  have hba := (numDaysFromCe_lt_iff b a).not.1 (by omega)
  obtain ⟨year, month, day, _, _⟩ := a
  obtain ⟨year', month', day', _, _⟩ := b
  simp only [Before, not_or, not_and, not_lt] at hab hba
  obtain rfl : year = year' := by omega
  obtain rfl : month = month' := by omega
  obtain rfl : day = day' := by omega
  rfl

@[simp] theorem ofNumDaysFromCe_numDaysFromCe (date : NaiveDate) :
    ofNumDaysFromCe date.numDaysFromCe = date :=
  numDaysFromCe_injective (numDaysFromCe_ofNumDaysFromCe _)

/-- The year of a date is the year of its day. -/
theorem yearOfDay_numDaysFromCe (date : NaiveDate) :
    yearOfDay date.numDaysFromCe = date.year :=
  congrArg NaiveDate.year (ofNumDaysFromCe_numDaysFromCe date)

/-- The days since the last Sunday. -/
def daysFromSunday (date : NaiveDate) : ℕ := (date.numDaysFromCe % 7).toNat

end NaiveDate

/-! ## Adding seconds -/

/-- A date and a time of a zone that is known from elsewhere. -/
abbrev NaiveDateTime := UtcTime

/-- The calendar goes from the first day of year -262143 to the last day of year
262142. -/
def NaiveDate.Representable (date : NaiveDate) : Prop :=
  -262143 ≤ date.year ∧ date.year ≤ 262142

instance NaiveDate.instDecidableRepresentable (date : NaiveDate) :
    Decidable date.Representable :=
  inferInstanceAs (Decidable (_ ∧ _))

namespace UtcTime

variable (t : UtcTime)

/-- The second after a leap second, which is where counting back begins. -/
def borrowed (n : ℤ) : ℤ := if 1000000000 ≤ t.frac ∧ n < 0 then 1 else 0

/-- The time some seconds later.  A leap second counts as the second before it when time
goes on, and as the second after it when time goes back. -/
def plusSeconds (n : ℤ) : UtcTime :=
  if n = 0 then t
  else
    let secs : ℤ := t.secs + t.borrowed n + n
    { date := .ofNumDaysFromCe (t.date.numDaysFromCe + secs / 86400)
      secs := (secs % 86400).toNat
      frac := t.frac % 1000000000
      secs_valid := by omega
      frac_valid := .inl (by omega) }

/-- The time some seconds later, if the calendar has it. -/
def checkedAdd (n : ℤ) : Option UtcTime :=
  if (t.plusSeconds n).date.Representable then some (t.plusSeconds n) else none

theorem seconds_plusSeconds (n : ℤ) :
    (t.plusSeconds n).seconds = t.seconds + t.borrowed n + n := by
  unfold plusSeconds
  split_ifs with hzero
  · simp [borrowed, hzero]
  · simp only [seconds, NaiveDate.numDaysFromCe_ofNumDaysFromCe]
    omega

theorem frac_plusSeconds {n : ℤ} (hn : n ≠ 0) :
    (t.plusSeconds n).frac = t.frac % 1000000000 := by
  rw [plusSeconds, if_neg hn]

theorem frac_plusSeconds_of_whole (hfrac : t.frac = 0) (n : ℤ) : (t.plusSeconds n).frac = 0 := by
  unfold plusSeconds
  split_ifs
  · exact hfrac
  · simp only [hfrac, Nat.zero_mod]

theorem borrowed_of_nonneg {n : ℤ} (hn : 0 ≤ n) : t.borrowed n = 0 :=
  if_neg fun h => absurd h.2 (not_lt.2 hn)

theorem borrowed_of_noLeap (hfrac : t.frac < 1000000000) (n : ℤ) : t.borrowed n = 0 :=
  if_neg fun h => absurd h.1 (not_le.2 hfrac)

/-- The seconds of a time determine its day. -/
theorem numDaysFromCe_eq : t.date.numDaysFromCe = t.seconds / 86400 := by
  have hsecs := t.secs_valid
  unfold seconds
  omega

end UtcTime

namespace NaiveDate

/-- The day before the first day of the calendar. -/
def dayBeforeFirst : ℤ := daysBeforeYear (-262143)

/-- The last day of the calendar. -/
def lastDay : ℤ := daysBeforeYear 262143

/-- The calendar has the days from its first to its last. -/
theorem representable_iff (date : NaiveDate) :
    date.Representable ↔ dayBeforeFirst < date.numDaysFromCe ∧ date.numDaysFromCe ≤ lastDay := by
  have hyear := yearOfDay_spec date.numDaysFromCe
  rw [yearOfDay_numDaysFromCe] at hyear
  unfold Representable dayBeforeFirst lastDay
  constructor
  · rintro ⟨hfirst, hlast⟩
    have hstart := daysBeforeYear_mono hfirst
    have hend := daysBeforeYear_mono (show date.year + 1 ≤ 262143 by omega)
    omega
  · rintro ⟨hfirst, hlast⟩
    by_contra hnot
    obtain hearly | hlate : date.year + 1 ≤ -262143 ∨ 262143 ≤ date.year := by omega
    · have := daysBeforeYear_mono hearly
      omega
    · have := daysBeforeYear_mono hlate
      omega

end NaiveDate

end ChainworksForge.Support
