import ChainworksForge.Provider.FailureClassifier

/-!
# The supported zones

A zone adds an offset to every instant.  Summer time begins and ends at an instant, on
the last Sundays of March and October; the classifier has one offset for every date.
-/

namespace ChainworksForge.Provider

open Support NaiveDate

/-- The day on which the last Sunday of a month falls. -/
def lastSunday (year : ℤ) (month : ℕ) : ℤ :=
  let lastDay := daysBeforeYear year + daysBeforeMonth year (month + 1)
  lastDay - lastDay % 7

/-! ## The loop that goes back to a Sunday -/

section LastSunday

variable {year : ℤ} {month : ℕ}

theorem fromYmdOpt_eq {day : ℕ} (hyear : -262143 ≤ year ∧ year ≤ 262142)
    (hmonth : 1 ≤ month ∧ month ≤ 12) (hday : 1 ≤ day ∧ day ≤ daysInMonth year month) :
    fromYmdOpt year month day = some ⟨year, month, day, hmonth, hday⟩ := by
  rw [fromYmdOpt, dif_pos ⟨hmonth, hday⟩]
  exact if_pos hyear

/-- The loop ends at the last Sunday up to its first day. -/
theorem lastSundayFrom_eq (hyear : -262143 ≤ year ∧ year ≤ 262142)
    (hmonth : 1 ≤ month ∧ month ≤ 12) {day : ℕ} (hday : day ≤ daysInMonth year month)
    (hsunday : (daysBeforeYear year + daysBeforeMonth year month + day) % 7 < day) :
    lastSundayFrom year month day = .ok
      (day - ((daysBeforeYear year + daysBeforeMonth year month + day) % 7).toNat) := by
  induction day with
  | zero => omega
  | succ day ih =>
      rw [lastSundayFrom, fromYmdOpt_eq hyear hmonth ⟨by omega, hday⟩]
      simp only [required, bind, Except.bind]
      split_ifs with hzero
      all_goals
        simp only [daysFromSunday, numDaysFromCe] at hzero
        push_cast at hzero hsunday ⊢
      · refine congrArg Except.ok ?_
        omega
      · rw [ih (by omega) (by omega)]
        refine congrArg Except.ok ?_
        omega

theorem lastDayOfMonth_eq (hmonth : 1 ≤ month ∧ month ≤ 12) :
    lastDayOfMonth year month = daysInMonth year month := by
  obtain ⟨hfirst, hlast⟩ := hmonth
  interval_cases month <;> simp [lastDayOfMonth, daysInMonth]

theorem seven_le_daysInMonth (hmonth : 1 ≤ month) : 7 ≤ daysInMonth year month := by
  unfold daysInMonth
  split <;> try omega
  split <;> omega

theorem lastSundayOfMonth_eq (hyear : -262143 ≤ year ∧ year ≤ 262142)
    (hmonth : 1 ≤ month ∧ month ≤ 12) :
    ∃ day : ℕ, lastSundayOfMonth year month = .ok day ∧
      lastSunday year month = daysBeforeYear year + daysBeforeMonth year month + day := by
  have hseven : 7 ≤ daysInMonth year month := seven_le_daysInMonth hmonth.1
  have hloop := lastSundayFrom_eq hyear hmonth le_rfl
    (by omega : (daysBeforeYear year + daysBeforeMonth year month +
      (daysInMonth year month : ℕ)) % 7 < (daysInMonth year month : ℕ))
  refine ⟨_, by rw [lastSundayOfMonth, lastDayOfMonth_eq hmonth, hloop], ?_⟩
  simp only [lastSunday, daysBeforeMonth]
  omega

end LastSunday

/-! ## The year of Nicosia -/

/-- The last Sundays of March and October lie in these months. -/
theorem lastSunday_bounds (year : ℤ) (month : ℕ) :
    daysBeforeYear year + daysBeforeMonth year (month + 1) - 7 < lastSunday year month ∧
      lastSunday year month ≤ daysBeforeYear year + daysBeforeMonth year (month + 1) := by
  simp only [lastSunday]
  omega

/-- The days of a date with summer time, as the classifier sees it. -/
def IsSummerDay (year day : ℤ) : Prop := lastSunday year 3 ≤ day ∧ day < lastSunday year 10

instance instDecidableIsSummerDay (year day : ℤ) : Decidable (IsSummerDay year day) :=
  inferInstanceAs (Decidable (_ ∧ _))

section SummerDay

variable (date : NaiveDate)

theorem isSummerDay_of_march {sunday : ℕ} (hmonth : date.month = 3)
    (hsunday : lastSunday date.year 3 =
      daysBeforeYear date.year + daysBeforeMonth date.year 3 + sunday) :
    IsSummerDay date.year date.numDaysFromCe ↔ sunday ≤ date.day := by
  have hday := date.day_valid
  have hend := daysBeforeMonth_lt date.year (show date.month < 10 by omega)
  have hautumn := lastSunday_bounds date.year 10
  have hoctober : 7 ≤ daysInMonth date.year 10 := seven_le_daysInMonth (by omega)
  rw [daysBeforeMonth] at hautumn
  rw [IsSummerDay, hsunday, numDaysFromCe]
  rw [hmonth] at hday hend ⊢
  omega

theorem isSummerDay_of_october {sunday : ℕ} (hmonth : date.month = 10)
    (hsunday : lastSunday date.year 10 =
      daysBeforeYear date.year + daysBeforeMonth date.year 10 + sunday) :
    IsSummerDay date.year date.numDaysFromCe ↔ date.day < sunday := by
  have hday := date.day_valid
  have hstart : daysBeforeMonth date.year (3 + 1) ≤ daysBeforeMonth date.year date.month :=
    daysBeforeMonth_mono (by omega)
  have hspring := lastSunday_bounds date.year 3
  rw [IsSummerDay, hsunday, numDaysFromCe]
  rw [hmonth] at hday hstart ⊢
  omega

theorem isSummerDay_of_summer (hmonth : 4 ≤ date.month ∧ date.month ≤ 9) :
    IsSummerDay date.year date.numDaysFromCe := by
  have hday := date.day_valid
  have hstart : daysBeforeMonth date.year (3 + 1) ≤ daysBeforeMonth date.year date.month :=
    daysBeforeMonth_mono hmonth.1
  have hend := daysBeforeMonth_lt date.year (show date.month < 10 by omega)
  have hspring := lastSunday_bounds date.year 3
  have hautumn := lastSunday_bounds date.year 10
  have hoctober : 7 ≤ daysInMonth date.year 10 := seven_le_daysInMonth (by omega)
  rw [daysBeforeMonth] at hautumn
  rw [IsSummerDay, numDaysFromCe]
  omega

theorem not_isSummerDay_of_winter (hmonth : date.month < 3 ∨ 10 < date.month) :
    ¬IsSummerDay date.year date.numDaysFromCe := by
  have hday := date.day_valid
  have hspring := lastSunday_bounds date.year 3
  have hautumn := lastSunday_bounds date.year 10
  have hmarch : 7 ≤ daysInMonth date.year 3 := seven_le_daysInMonth (by omega)
  have hoctober : 7 ≤ daysInMonth date.year 10 := seven_le_daysInMonth (by omega)
  rw [daysBeforeMonth] at hspring
  rw [IsSummerDay, numDaysFromCe]
  rcases hmonth with hearly | hlate
  · have hend := daysBeforeMonth_lt date.year hearly
    omega
  · have hstart : daysBeforeMonth date.year (10 + 1) ≤ daysBeforeMonth date.year date.month :=
      daysBeforeMonth_mono hlate
    omega

/-- The offset of a date is that of its summer day. -/
theorem nicosiaOffset_eq (hdate : date.Representable) :
    nicosiaOffsetSecondsForLocalDate date =
      .ok (if IsSummerDay date.year date.numDaysFromCe then 10800 else 7200) := by
  obtain ⟨march, hmarch, hmarchDay⟩ :=
    lastSundayOfMonth_eq hdate (show 1 ≤ 3 ∧ 3 ≤ 12 by omega)
  obtain ⟨october, hoctober, hoctoberDay⟩ :=
    lastSundayOfMonth_eq hdate (show 1 ≤ 10 ∧ 10 ≤ 12 by omega)
  have hdst : isDstOfLocalDate date =
      .ok (decide (IsSummerDay date.year date.numDaysFromCe)) := by
    unfold isDstOfLocalDate
    split_ifs with hsummer hthree hten
    · rw [decide_eq_true (isSummerDay_of_summer date hsummer)]
    · rw [hmarch, decide_eq_decide.2 (isSummerDay_of_march date hthree hmarchDay)]
      rfl
    · rw [hoctober, decide_eq_decide.2 (isSummerDay_of_october date hten hoctoberDay)]
      rfl
    · rw [decide_eq_false (not_isSummerDay_of_winter date (by omega))]
  rw [nicosiaOffsetSecondsForLocalDate, hdst, Except.map]
  simp only [decide_eq_true_eq]
  rfl

end SummerDay

end ChainworksForge.Provider
