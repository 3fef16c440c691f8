import ChainworksForge.Support.Numeral
import ChainworksForge.Support.Text
import Mathlib.Data.Prod.Lex
import Mathlib.Order.Monotone.Basic
import Mathlib.Tactic.IntervalCases

/-!
# Times and their texts

A time of the UTC calendar is written with its date, its second and as many groups of
three digits of its fraction as it needs.  The texts of times with years of four digits
are ordered as the times are.
-/

namespace ChainworksForge.Support

/-! ## The calendar -/

def isLeapYear (year : ℤ) : Bool :=
  year % 4 = 0 ∧ (year % 100 ≠ 0 ∨ year % 400 = 0)

def daysInMonth (year : ℤ) : (month : ℕ) → ℕ
  | 0 => 0
  | 2 => if isLeapYear year then 29 else 28
  | 4 | 6 | 9 | 11 => 30
  | _ => 31

/-- The days of a year before a month. -/
def daysBeforeMonth (year : ℤ) : (month : ℕ) → ℕ
  | 0 => 0
  | month + 1 => daysBeforeMonth year month + daysInMonth year month

structure NaiveDate where
  year : ℤ
  month : ℕ
  day : ℕ
  month_valid : 1 ≤ month ∧ month ≤ 12
  day_valid : 1 ≤ day ∧ day ≤ daysInMonth year month

namespace NaiveDate

/-- The days of the common era before a year. -/
def daysBeforeYear (year : ℤ) : ℤ :=
  365 * (year - 1) + (year - 1) / 4 - (year - 1) / 100 + (year - 1) / 400

def numDaysFromCe (date : NaiveDate) : ℤ :=
  daysBeforeYear date.year + daysBeforeMonth date.year date.month + date.day

theorem daysInMonth_pos {year : ℤ} {month : ℕ} (hmonth : 1 ≤ month) :
    1 ≤ daysInMonth year month := by
  unfold daysInMonth
  split <;> try omega
  split <;> omega

/-- The day before. -/
def pred (date : NaiveDate) : NaiveDate :=
  if hday : 1 < date.day then
    { date with
      day := date.day - 1
      day_valid := ⟨by omega, by have := date.day_valid; omega⟩ }
  else if hmonth : 1 < date.month then
    { year := date.year
      month := date.month - 1
      day := daysInMonth date.year (date.month - 1)
      month_valid := ⟨by omega, by have := date.month_valid; omega⟩
      day_valid := ⟨daysInMonth_pos (by omega), le_rfl⟩ }
  else
    { year := date.year - 1
      month := 12
      day := 31
      month_valid := ⟨by omega, le_rfl⟩
      day_valid := ⟨by omega, by simp [daysInMonth]⟩ }

end NaiveDate

/-- A time of the UTC calendar.  In a leap second, which follows the last second of a
minute, the nanoseconds go on counting. -/
structure UtcTime where
  date : NaiveDate
  secs : ℕ
  frac : ℕ
  secs_valid : secs < 86400
  frac_valid : frac < 1000000000 ∨ frac < 2000000000 ∧ secs % 60 = 59

namespace UtcTime

variable (t : UtcTime)

/-- The seconds of the common era, without leap seconds. -/
def seconds : ℤ := t.date.numDaysFromCe * 86400 + t.secs

/-- Times are ordered by their seconds, then by their nanoseconds. -/
def time : ℤ ×ₗ ℕ := toLex (t.seconds, t.frac)

/-- Whether the year is written with four digits. -/
def FourDigitYear : Prop := 0 ≤ t.date.year ∧ t.date.year ≤ 9999

end UtcTime

/-- A time that the clock shows, which has no leap seconds. -/
structure ClockTime extends UtcTime where
  no_leap : frac < 1000000000

/-- The time one second earlier. -/
def ClockTime.minusSecond (now : ClockTime) : ClockTime :=
  if hsecs : now.secs = 0 then
    { now with
      date := now.date.pred
      secs := 86399
      secs_valid := by omega
      frac_valid := .inl now.no_leap }
  else
    { now with
      secs := now.secs - 1
      secs_valid := by have := now.secs_valid; omega
      frac_valid := .inl now.no_leap }

/-! ## The texts -/

def digitChar (digit : ℕ) : Char := Nat.digitChar digit

/-- A number with a given number of digits. -/
def decimal (width n : ℕ) : Text := numeral digitChar 10 width n

/-- A number with its sign and at least four digits. -/
def signedYear (year : ℤ) : Text :=
  (if year < 0 then '-' else '+') ::
    decimal (max 4 (Nat.toDigits 10 year.natAbs).length) year.natAbs

def yearText (year : ℤ) : Text :=
  if 0 ≤ year ∧ year ≤ 9999 then decimal 4 year.toNat else signedYear year

/-- The second that is shown, which is 60 in a leap second. -/
def UtcTime.shownSecond (t : UtcTime) : ℕ :=
  t.secs % 60 + if t.frac < 1000000000 then 0 else 1

/-- The nanoseconds of the second that is shown. -/
def UtcTime.shownNanos (t : UtcTime) : ℕ := t.frac % 1000000000

/-- The text of a time down to its second. -/
def UtcTime.wholeSeconds (t : UtcTime) : Text :=
  yearText t.date.year ++ '-' :: (decimal 2 t.date.month ++ '-' :: (decimal 2 t.date.day ++
    'T' :: (decimal 2 (t.secs / 3600) ++ ':' :: (decimal 2 (t.secs / 60 % 60) ++
      ':' :: decimal 2 t.shownSecond))))

/-- The digits of the nanoseconds, in groups of three, without the last groups that are
zero. -/
def fraction (nanos : ℕ) : Text :=
  if nanos = 0 then []
  else if nanos % 1000000 = 0 then '.' :: decimal 3 (nanos / 1000000)
  else if nanos % 1000 = 0 then '.' :: decimal 6 (nanos / 1000)
  else '.' :: decimal 9 nanos

/-- The text under which a time is stored. -/
def UtcTime.toRfc3339 (t : UtcTime) : Text :=
  t.wholeSeconds ++ (fraction t.shownNanos ++ "+00:00".toList)

/-- The text of a time without its fraction. -/
def UtcTime.toRfc3339Secs (t : UtcTime) : Text := t.wholeSeconds ++ ['Z']

/-! ## The order of dates -/

namespace NaiveDate

def yearLength (year : ℤ) : ℕ := if isLeapYear year then 366 else 365

theorem daysBeforeYear_succ (year : ℤ) :
    daysBeforeYear (year + 1) = daysBeforeYear year + yearLength year := by
  unfold daysBeforeYear yearLength isLeapYear
  by_cases hfour : year % 4 = 0 <;> by_cases hcentury : year % 100 = 0 <;>
    by_cases hera : year % 400 = 0 <;> simp [hfour, hcentury, hera] <;> omega

theorem daysBeforeYear_mono {year year' : ℤ} (hle : year ≤ year') :
    daysBeforeYear year ≤ daysBeforeYear year' := by
  unfold daysBeforeYear
  omega

theorem daysBeforeMonth_end (year : ℤ) : daysBeforeMonth year 13 = yearLength year := by
  by_cases hleap : isLeapYear year = true <;>
    simp [daysBeforeMonth, daysInMonth, yearLength, hleap]

theorem daysBeforeMonth_mono {year : ℤ} : Monotone (daysBeforeMonth year) :=
  monotone_nat_of_le_succ fun _ => Nat.le_add_right _ _

/-- A month ends before the months after it begin. -/
theorem daysBeforeMonth_lt (year : ℤ) {month month' : ℕ} (hlt : month < month') :
    daysBeforeMonth year month + daysInMonth year month ≤ daysBeforeMonth year month' :=
  daysBeforeMonth_mono (Nat.succ_le_of_lt hlt)

theorem ordinal_le (date : NaiveDate) :
    daysBeforeMonth date.year date.month + date.day ≤ yearLength date.year := by
  have hday := date.day_valid
  have hmonth := date.month_valid
  have hend := daysBeforeMonth_lt date.year (show date.month < 13 by omega)
  rw [daysBeforeMonth_end] at hend
  omega

/-- Whether a date comes before another, by its year, its month and its day. -/
def Before (a b : NaiveDate) : Prop :=
  a.year < b.year ∨ a.year = b.year ∧ (a.month < b.month ∨
    a.month = b.month ∧ a.day < b.day)

theorem Before.numDaysFromCe_lt {a b : NaiveDate} (h : Before a b) :
    a.numDaysFromCe < b.numDaysFromCe := by
  have ha := a.day_valid
  have hb := b.day_valid
  unfold numDaysFromCe
  rcases h with hyear | ⟨hyear, hmonth | ⟨hmonth, hday⟩⟩
  · have hstart := daysBeforeYear_mono (Int.add_one_le_of_lt hyear)
    rw [daysBeforeYear_succ] at hstart
    have hordinal := a.ordinal_le
    omega
  · have hstart := daysBeforeMonth_lt b.year hmonth
    rw [hyear] at ha ⊢
    omega
  · rw [hyear, hmonth]
    omega

theorem numDaysFromCe_lt_iff (a b : NaiveDate) :
    a.numDaysFromCe < b.numDaysFromCe ↔ Before a b := by
  refine ⟨fun hlt => ?_, Before.numDaysFromCe_lt⟩
  by_contra hnot
  by_cases hback : Before b a
  · exact absurd hback.numDaysFromCe_lt (by omega)
  · have hsame : a.year = b.year ∧ a.month = b.month ∧ a.day = b.day := by
      unfold Before at hnot hback
      omega
    obtain ⟨hyear, hmonth, hday⟩ := hsame
    rw [numDaysFromCe, numDaysFromCe, hyear, hmonth, hday] at hlt
    exact lt_irrefl _ hlt

theorem numDaysFromCe_eq_iff (a b : NaiveDate) :
    a.numDaysFromCe = b.numDaysFromCe ↔
      a.year = b.year ∧ a.month = b.month ∧ a.day = b.day := by
  have hbefore := numDaysFromCe_lt_iff a b
  have hafter := numDaysFromCe_lt_iff b a
  unfold Before at hbefore hafter
  omega

theorem numDaysFromCe_pred (date : NaiveDate) :
    date.pred.numDaysFromCe = date.numDaysFromCe - 1 := by
  have hday := date.day_valid
  have hmonth := date.month_valid
  unfold pred
  split_ifs with hmany hlater
  · simp only [numDaysFromCe]
    omega
  · obtain ⟨month, hsucc⟩ : ∃ month, date.month = month + 1 := ⟨date.month - 1, by omega⟩
    simp only [numDaysFromCe, hsucc, Nat.add_sub_cancel, daysBeforeMonth]
    omega
  · have hfirst : date.month = 1 := by omega
    have hbefore := daysBeforeYear_succ (date.year - 1)
    have hend := daysBeforeMonth_end (date.year - 1)
    rw [daysBeforeMonth] at hend
    have hdecember : daysInMonth (date.year - 1) 12 = 31 := by simp [daysInMonth]
    have hjanuary : daysBeforeMonth date.year 1 = 0 := by simp [daysBeforeMonth, daysInMonth]
    rw [sub_add_cancel] at hbefore
    simp only [numDaysFromCe, hfirst, hjanuary]
    omega

end NaiveDate

theorem ClockTime.seconds_minusSecond (now : ClockTime) :
    now.minusSecond.seconds = now.seconds - 1 := by
  unfold ClockTime.minusSecond UtcTime.seconds
  split_ifs with hzero
  · simp only [NaiveDate.numDaysFromCe_pred, hzero]
    omega
  · simp only
    omega

/-! ## The order of the texts -/

theorem digitChar_inOrder : DigitsInOrder digitChar 10 := by
  intro d hd e he
  interval_cases d <;> interval_cases e <;> decide

theorem decimal_lt_iff {width n m : ℕ} (hn : n < 10 ^ width) (hm : m < 10 ^ width) :
    decimal width n < decimal width m ↔ n < m :=
  numeral_lt_iff digitChar_inOrder hn hm

theorem decimal_eq_iff {width n m : ℕ} (hn : n < 10 ^ width) (hm : m < 10 ^ width) :
    decimal width n = decimal width m ↔ n = m :=
  eq_iff_eq_of_lt_iff_lt (decimal_lt_iff hn hm) (decimal_lt_iff hm hn)

/-- Numbers of one width that come first are compared first. -/
theorem decimal_append_lt_iff {width n m : ℕ} {s t : Text} (hn : n < 10 ^ width)
    (hm : m < 10 ^ width) :
    decimal width n ++ s < decimal width m ++ t ↔ n < m ∨ n = m ∧ s < t := by
  rw [append_lt_append_iff (by simp [decimal]), decimal_lt_iff hn hm, decimal_eq_iff hn hm]

/-- The minute of a time, and the second that is shown in it. -/
def UtcTime.stamp (t : UtcTime) : ℤ ×ₗ ℕ :=
  toLex (t.date.numDaysFromCe * 1440 + (t.secs / 60 : ℕ), t.shownSecond)

theorem UtcTime.shownSecond_lt (t : UtcTime) : t.shownSecond < 10 ^ 2 := by
  unfold UtcTime.shownSecond
  split_ifs <;> omega

theorem NaiveDate.day_lt (date : NaiveDate) : date.day < 10 ^ 2 := by
  have hday := date.day_valid
  have hmonth : daysInMonth date.year date.month ≤ 31 := by
    unfold daysInMonth
    split <;> try omega
    split <;> omega
  omega

/-- Stamps are compared by their date, their hour, their minute and their second. -/
theorem UtcTime.stamp_lt_iff (a b : UtcTime) :
    a.stamp < b.stamp ↔ a.date.Before b.date ∨
      (a.date.year = b.date.year ∧ a.date.month = b.date.month ∧ a.date.day = b.date.day) ∧
        (a.secs / 3600 < b.secs / 3600 ∨ a.secs / 3600 = b.secs / 3600 ∧
          (a.secs / 60 % 60 < b.secs / 60 % 60 ∨ a.secs / 60 % 60 = b.secs / 60 % 60 ∧
            a.shownSecond < b.shownSecond)) := by
  have hsecsA := a.secs_valid
  have hsecsB := b.secs_valid
  rw [← NaiveDate.numDaysFromCe_lt_iff, ← NaiveDate.numDaysFromCe_eq_iff]
  simp only [stamp, Prod.Lex.toLex_lt_toLex]
  omega

theorem UtcTime.stamp_eq_iff (a b : UtcTime) :
    a.stamp = b.stamp ↔
      (a.date.year = b.date.year ∧ a.date.month = b.date.month ∧ a.date.day = b.date.day) ∧
        a.secs / 3600 = b.secs / 3600 ∧ a.secs / 60 % 60 = b.secs / 60 % 60 ∧
        a.shownSecond = b.shownSecond := by
  have hsecsA := a.secs_valid
  have hsecsB := b.secs_valid
  rw [← NaiveDate.numDaysFromCe_eq_iff]
  simp only [stamp, toLex_inj, Prod.mk.injEq]
  omega

/-- Times with years of four digits are compared by their minute and their second before
what follows in the text. -/
theorem wholeSeconds_append_lt_iff {a b : UtcTime} (ha : a.FourDigitYear)
    (hb : b.FourDigitYear) {s t : Text} :
    a.wholeSeconds ++ s < b.wholeSeconds ++ t ↔
      a.stamp < b.stamp ∨ a.stamp = b.stamp ∧ s < t := by
  obtain ⟨ha0, ha⟩ := ha
  obtain ⟨hb0, hb⟩ := hb
  have hmonthA := a.date.month_valid
  have hmonthB := b.date.month_valid
  have hsecsA := a.secs_valid
  have hsecsB := b.secs_valid
  have hyear : a.date.year.toNat < b.date.year.toNat ↔ a.date.year < b.date.year := by omega
  have hyear' : a.date.year.toNat = b.date.year.toNat ↔ a.date.year = b.date.year := by omega
  simp only [UtcTime.wholeSeconds, yearText, ha0, ha, hb0, hb, and_self, if_true,
    List.append_assoc, List.cons_append]
  rw [decimal_append_lt_iff (by omega) (by omega), List.cons_lt_cons_self,
    decimal_append_lt_iff (by omega) (by omega), List.cons_lt_cons_self,
    decimal_append_lt_iff a.date.day_lt b.date.day_lt, List.cons_lt_cons_self,
    decimal_append_lt_iff (by omega) (by omega), List.cons_lt_cons_self,
    decimal_append_lt_iff (by omega) (by omega), List.cons_lt_cons_self,
    decimal_append_lt_iff a.shownSecond_lt b.shownSecond_lt, hyear, hyear',
    UtcTime.stamp_lt_iff, UtcTime.stamp_eq_iff, NaiveDate.Before]
  simp only [and_or_left, or_assoc, and_assoc]

/-! ## The order of the fractions -/

/-- The digits of a number below a power of a thousand, in groups of three, without the
last groups that are zero. -/
def groups : (count n : ℕ) → Text
  | 0, _ => []
  | count + 1, n =>
      if n = 0 then [] else decimal 3 (n / 1000 ^ count) ++ groups count (n % 1000 ^ count)

theorem fraction_eq_groups (nanos : ℕ) :
    fraction nanos = if nanos = 0 then [] else '.' :: groups 3 nanos := by
  have hsix (n : ℕ) : decimal 6 n = decimal 3 (n / 1000) ++ decimal 3 (n % 1000) :=
    numeral_add 3 3 n
  have hnine (n : ℕ) : decimal 9 n = decimal 6 (n / 1000) ++ decimal 3 (n % 1000) :=
    numeral_add 6 3 n
  unfold fraction
  by_cases hzero : nanos = 0
  · rw [if_pos hzero, if_pos hzero]
  · rw [if_neg hzero, if_neg hzero]
    by_cases hmillis : nanos % 1000000 = 0
    · simp [groups, hzero, hmillis]
    · by_cases hmicros : nanos % 1000 = 0
      · have hlast : nanos % 1000000 % 1000 = 0 := by omega
        have hfront : nanos / 1000 / 1000 = nanos / 1000000 := by omega
        have hback : nanos / 1000 % 1000 = nanos % 1000000 / 1000 := by omega
        simp [groups, hzero, hmillis, hmicros, hlast, hsix, hfront, hback]
      · have hlast : nanos % 1000000 % 1000 = nanos % 1000 := by omega
        have hfront : nanos / 1000 / 1000 = nanos / 1000000 := by omega
        have hback : nanos / 1000 % 1000 = nanos % 1000000 / 1000 := by omega
        simp [groups, hzero, hmillis, hmicros, hlast, hsix, hnine, hfront, hback]

theorem decimal_succ (width n : ℕ) :
    ∃ d < 10, ∃ rest, decimal (width + 1) n = digitChar d :: rest := by
  refine ⟨n / 10 ^ width % 10, Nat.mod_lt _ (by decide), decimal width (n % 10 ^ width), ?_⟩
  rw [decimal, Nat.add_comm, numeral_add]
  simp [numeral, decimal]

/-- A zone sorts before every digit, so of two texts the one that ends sooner is the
smaller. -/
theorem groups_lt_iff {zone : Char} {rest : Text} (hzone : ∀ d < 10, zone < digitChar d)
    {count n m : ℕ} (hn : n < 1000 ^ count) (hm : m < 1000 ^ count) :
    groups count n ++ zone :: rest < groups count m ++ zone :: rest ↔ n < m := by
  induction count generalizing n m with
  | zero =>
      rw [pow_zero] at hn hm
      simp [groups, Nat.lt_one_iff.1 hn, Nat.lt_one_iff.1 hm]
  | succ count ih =>
      have hfront (k : ℕ) (hk : k < 1000 ^ (count + 1)) : k / 1000 ^ count < 1000 :=
        Nat.div_lt_of_lt_mul (hk.trans_eq (pow_succ 1000 count))
      have hback (k : ℕ) : k % 1000 ^ count < 1000 ^ count :=
        Nat.mod_lt k (Nat.pow_pos (by decide))
      simp only [groups]
      by_cases hn0 : n = 0
      · by_cases hm0 : m = 0
        · simp [hn0, hm0]
        · obtain ⟨d, hd, tail, hdecimal⟩ := decimal_succ 2 (m / 1000 ^ count)
          rw [if_pos hn0, if_neg hm0, hdecimal]
          exact iff_of_true (List.Lex.rel (hzone d hd)) (by omega)
      · by_cases hm0 : m = 0
        · obtain ⟨d, hd, tail, hdecimal⟩ := decimal_succ 2 (n / 1000 ^ count)
          rw [if_neg hn0, if_pos hm0, hdecimal]
          exact iff_of_false (lt_asymm (List.Lex.rel (hzone d hd))) (by omega)
        · rw [if_neg hn0, if_neg hm0, List.append_assoc, List.append_assoc,
            decimal_append_lt_iff (hfront n hn) (hfront m hm), ih (hback n) (hback m),
            ← lt_iff_div_mod_lt]

theorem fraction_lt_iff {n m : ℕ} (hn : n < 1000000000) (hm : m < 1000000000) :
    fraction n ++ "+00:00".toList < fraction m ++ "+00:00".toList ↔ n < m := by
  have hplus : ∀ d < 10, '+' < digitChar d := by
    intro d hd
    interval_cases d <;> decide
  rw [fraction_eq_groups, fraction_eq_groups]
  by_cases hn0 : n = 0
  · by_cases hm0 : m = 0
    · simp [hn0, hm0]
    · rw [if_pos hn0, if_neg hm0]
      exact iff_of_true (List.Lex.rel (by decide)) (by omega)
  · by_cases hm0 : m = 0
    · rw [if_neg hn0, if_pos hm0]
      exact iff_of_false (lt_asymm (List.Lex.rel (by decide))) (by omega)
    · rw [if_neg hn0, if_neg hm0, List.cons_append, List.cons_append,
        List.cons_lt_cons_self]
      exact groups_lt_iff hplus hn hm

/-! ## The order of the times -/

theorem UtcTime.time_lt_iff (a b : UtcTime) :
    a.time < b.time ↔ a.stamp < b.stamp ∨ a.stamp = b.stamp ∧ a.shownNanos < b.shownNanos := by
  have hfracA := a.frac_valid
  have hfracB := b.frac_valid
  have hsecsA := a.secs_valid
  have hsecsB := b.secs_valid
  simp only [time, stamp, seconds, shownSecond, shownNanos, Prod.Lex.toLex_lt_toLex, toLex_inj,
    Prod.mk.injEq]
  split_ifs <;> omega

/-- Stored times are ordered as their texts are. -/
theorem toRfc3339_lt_iff {a b : UtcTime} (ha : a.FourDigitYear) (hb : b.FourDigitYear) :
    a.toRfc3339 < b.toRfc3339 ↔ a.time < b.time := by
  have hnanos (t : UtcTime) : t.shownNanos < 1000000000 := Nat.mod_lt _ (by decide)
  rw [UtcTime.toRfc3339, UtcTime.toRfc3339, wholeSeconds_append_lt_iff ha hb,
    fraction_lt_iff (hnanos a) (hnanos b), UtcTime.time_lt_iff]

theorem toRfc3339_eq_iff {a b : UtcTime} (ha : a.FourDigitYear) (hb : b.FourDigitYear) :
    a.toRfc3339 = b.toRfc3339 ↔ a.time = b.time :=
  eq_iff_eq_of_lt_iff_lt (toRfc3339_lt_iff ha hb) (toRfc3339_lt_iff hb ha)

/-- The text of a second accepts what is shown in that second or before it. -/
theorem toRfc3339_le_secs_iff {a b : UtcTime} (ha : a.FourDigitYear)
    (hb : b.FourDigitYear) : a.toRfc3339 ≤ b.toRfc3339Secs ↔ a.stamp ≤ b.stamp := by
  have hzone : ¬(['Z'] < fraction a.shownNanos ++ "+00:00".toList) := by
    refine lt_asymm ?_
    rw [fraction_eq_groups]
    split_ifs
    · exact List.Lex.rel (by decide)
    · exact List.Lex.rel (by decide)
  rw [← not_lt, UtcTime.toRfc3339, UtcTime.toRfc3339Secs, wholeSeconds_append_lt_iff hb ha,
    ← not_lt]
  simp only [hzone, and_false, or_false]

/-- A year that is not written with four digits sorts before every other. -/
theorem secs_lt_toRfc3339 {a b : UtcTime} (ha : a.FourDigitYear) (hb : ¬b.FourDigitYear) :
    b.toRfc3339Secs < a.toRfc3339 := by
  obtain ⟨d, hd, tail, hyear⟩ := decimal_succ 3 a.date.year.toNat
  have hsign : ∀ d < 10, '-' < digitChar d ∧ '+' < digitChar d := by
    intro d hd
    interval_cases d <;> decide
  have hshort : ¬(0 ≤ b.date.year ∧ b.date.year ≤ 9999) := hb
  rw [UtcTime.toRfc3339Secs, UtcTime.toRfc3339, UtcTime.wholeSeconds, UtcTime.wholeSeconds,
    yearText, yearText, if_neg hshort, if_pos ⟨ha.1, ha.2⟩, hyear, signedYear]
  split_ifs
  · exact List.Lex.rel (hsign d hd).1
  · exact List.Lex.rel (hsign d hd).2

theorem stamp_le_of_seconds_lt {a b : UtcTime} (hlt : a.seconds < b.seconds) :
    a.stamp ≤ b.stamp := by
  have hfracA := a.frac_valid
  have hsecsA := a.secs_valid
  have hsecsB := b.secs_valid
  simp only [UtcTime.seconds] at hlt
  simp only [UtcTime.stamp, UtcTime.shownSecond, Prod.Lex.toLex_le_toLex]
  split_ifs <;> omega

theorem seconds_le_of_stamp_le {a b : UtcTime} (hfrac : b.frac < 1000000000)
    (hle : a.stamp ≤ b.stamp) : a.seconds ≤ b.seconds := by
  have hsecsA := a.secs_valid
  have hsecsB := b.secs_valid
  simp only [UtcTime.stamp, UtcTime.shownSecond, hfrac, if_true,
    Prod.Lex.toLex_le_toLex] at hle
  simp only [UtcTime.seconds]
  split_ifs at hle <;> omega

theorem ClockTime.minusSecond_year_le (now : ClockTime) :
    now.minusSecond.date.year ≤ now.date.year := by
  unfold ClockTime.minusSecond NaiveDate.pred
  split_ifs <;> simp

end ChainworksForge.Support
