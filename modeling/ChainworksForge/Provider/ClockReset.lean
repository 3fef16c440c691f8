import ChainworksForge.Provider.Zones

/-!
# Resets at a time of the clock

What the classifier computes from an instant, a time of the clock and a zone, in seconds
of the common era.
-/

namespace ChainworksForge.Provider

open Support NaiveDate

/-- The last second of the calendar. -/
def lastSecond : ℤ := lastDay * 86400 + 86399

/-- The offset that the classifier has for a day. -/
def dayOffset (zone : Zone) (day : ℤ) : ℤ :=
  match zone with
  | .utc => 0
  | .nicosia => if IsSummerDay (yearOfDay day) day then 10800 else 7200

theorem dayOffset_bounds (zone : Zone) (day : ℤ) :
    0 ≤ dayOffset zone day ∧ dayOffset zone day ≤ 10800 := by
  cases zone with
  | utc => simp [dayOffset]
  | nicosia =>
      rw [dayOffset]
      split_ifs <;> omega

/-- Going on stays in the calendar until its last second. -/
theorem representable_plusSeconds_iff {t : UtcTime} (ht : t.date.Representable) {n : ℤ}
    (hn : 0 ≤ n) : (t.plusSeconds n).date.Representable ↔ t.seconds + n ≤ lastSecond := by
  have hseconds := t.seconds_plusSeconds n
  rw [t.borrowed_of_nonneg hn] at hseconds
  rw [representable_iff, UtcTime.numDaysFromCe_eq] at ht ⊢
  unfold lastSecond
  omega

theorem addDuration_eq {t : UtcTime} {n : ℤ} (h : (t.plusSeconds n).date.Representable) :
    addDuration t n = .ok (t.plusSeconds n) := by
  rw [addDuration, UtcTime.checkedAdd, if_pos h]
  rfl

theorem addDuration_eq_error {t : UtcTime} {n : ℤ}
    (h : ¬(t.plusSeconds n).date.Representable) :
    addDuration t n = .error .dateTimeOverflow := by
  rw [addDuration, UtcTime.checkedAdd, if_neg h]
  rfl

theorem andTime_time_le_iff (date : NaiveDate) (resetTime : NaiveTime) (t : UtcTime) :
    (andTime date resetTime).time ≤ t.time ↔
      date.numDaysFromCe * 86400 + resetTime.secs ≤ t.seconds := by
  rw [UtcTime.time, UtcTime.time, Prod.Lex.toLex_le_toLex]
  have hseconds : (andTime date resetTime).seconds =
    date.numDaysFromCe * 86400 + resetTime.secs := rfl
  have hfrac : (andTime date resetTime).frac = 0 := rfl
  rw [hseconds, hfrac]
  constructor
  · rintro (hlt | ⟨heq, -⟩)
    · exact hlt.le
    · exact heq.le
  · intro hle
    exact hle.lt_or_eq.imp id fun heq => ⟨heq, Nat.zero_le _⟩

/-- The seconds of a date with a time, moved by an offset. -/
theorem seconds_andTime_plusSeconds (date : NaiveDate) (resetTime : NaiveTime) (n : ℤ) :
    ((andTime date resetTime).plusSeconds n).seconds =
      date.numDaysFromCe * 86400 + resetTime.secs + n := by
  rw [UtcTime.seconds_plusSeconds, UtcTime.borrowed_of_noLeap _ (Nat.zero_lt_succ _), add_zero]
  rfl

theorem nextDay_eq (date : NaiveDate) (hdate : date.Representable) :
    nextDay date =
      if date.numDaysFromCe + 1 ≤ lastDay then
        some (ofNumDaysFromCe (date.numDaysFromCe + 1)) else none := by
  rw [representable_iff] at hdate
  simp only [nextDay, representable_iff, numDaysFromCe_ofNumDaysFromCe]
  by_cases hlast : date.numDaysFromCe + 1 ≤ lastDay
  · rw [if_pos ⟨by omega, hlast⟩, if_pos hlast]
  · rw [if_neg fun h => hlast h.2, if_neg hlast]

theorem targetDate_eq (resetTime : NaiveTime) {localNow : NaiveDateTime}
    (hlocal : localNow.date.Representable) {day : ℤ}
    (hday : day = if localNow.seconds / 86400 * 86400 + resetTime.secs ≤ localNow.seconds then
      localNow.seconds / 86400 + 1 else localNow.seconds / 86400) :
    targetDate localNow resetTime =
      if day ≤ lastDay then some (ofNumDaysFromCe day) else none := by
  have hlast := ((representable_iff _).1 hlocal).2
  rw [← UtcTime.numDaysFromCe_eq] at hday
  rw [targetDate, nextDay_eq _ hlocal]
  by_cases hpassed : localNow.date.numDaysFromCe * 86400 + resetTime.secs ≤ localNow.seconds
  · rw [if_pos ((andTime_time_le_iff _ _ _).2 hpassed), hday, if_pos hpassed]
  · rw [if_neg fun h => hpassed ((andTime_time_le_iff _ _ _).1 h), hday, if_neg hpassed,
      if_pos hlast, ofNumDaysFromCe_numDaysFromCe]

/-- The classifier's offset for a date. -/
theorem timezoneOffsetForLocalDate_eq {timezone : Text} {zone : Zone}
    (hzone : zoneOf timezone = some zone) (date : NaiveDate) (hdate : date.Representable) :
    timezoneOffsetSecondsForLocalDate timezone date =
      .ok (some (dayOffset zone date.numDaysFromCe)) := by
  rw [timezoneOffsetSecondsForLocalDate, hzone]
  cases zone with
  | utc => rfl
  | nicosia =>
      simp only [nicosiaOffset_eq date hdate, dayOffset, yearOfDay_numDaysFromCe]
      rfl

/-- The day whose offset is taken for an instant. -/
def offsetDay (now : ℤ) : ℤ := (now + 7200) / 86400

theorem timezoneOffsetForUtc_eq {timezone : Text} {zone : Zone}
    (hzone : zoneOf timezone = some zone) {now : UtcTime}
    (hshifted : zone = .nicosia → (now.plusSeconds 7200).date.Representable) :
    timezoneOffsetSecondsForUtc timezone now =
      .ok (some (dayOffset zone (offsetDay now.seconds))) := by
  rw [timezoneOffsetSecondsForUtc, hzone]
  cases zone with
  | utc => rfl
  | nicosia =>
      have hdate := hshifted rfl
      have hday : (now.plusSeconds 7200).date.numDaysFromCe = offsetDay now.seconds := by
        rw [UtcTime.numDaysFromCe_eq, UtcTime.seconds_plusSeconds,
          now.borrowed_of_nonneg (by omega), add_zero, offsetDay]
      simp only [addDuration_eq hdate, bind, Except.bind, nicosiaOffset_eq _ hdate, dayOffset,
        ← hday, yearOfDay_numDaysFromCe]
      rfl

/-! ## The reset of a zone -/

section Reset

variable (zone : Zone) (now : ℤ) (resetTime : NaiveTime)

/-- The seconds that the classifier takes for the wall clock. -/
def localSeconds : ℤ := now + dayOffset zone (offsetDay now)

/-- The day on which the classifier expects the reset. -/
def targetDay : ℤ :=
  if localSeconds zone now / 86400 * 86400 + resetTime.secs ≤ localSeconds zone now then
    localSeconds zone now / 86400 + 1
  else localSeconds zone now / 86400

/-- The second that the classifier computes for the reset. -/
def resetSeconds : ℤ :=
  targetDay zone now resetTime * 86400 + resetTime.secs -
    dayOffset zone (targetDay zone now resetTime)

theorem localSeconds_lt_target :
    localSeconds zone now < targetDay zone now resetTime * 86400 + resetTime.secs := by
  unfold targetDay
  split_ifs <;> omega

end Reset

/-- Summer time is over before the calendar ends. -/
theorem lt_lastDay_of_summer {day : ℤ} (hday : day ≤ lastDay)
    (hsummer : IsSummerDay (yearOfDay day) day) : day < lastDay := by
  have hyear : yearOfDay day + 1 ≤ 262143 := by
    by_contra hlate
    have hstart := daysBeforeYear_mono (show (262143 : ℤ) ≤ yearOfDay day by omega)
    have hspec := (yearOfDay_spec day).1
    unfold lastDay at hday
    omega
  have hend := daysBeforeYear_mono hyear
  have hautumn : lastSunday (yearOfDay day) 10 ≤
      daysBeforeYear (yearOfDay day) + daysBeforeMonth (yearOfDay day) 11 :=
    (lastSunday_bounds (yearOfDay day) 10).2
  have hnovember := daysBeforeMonth_lt (yearOfDay day) (show 11 < 13 by omega)
  have hlength : 7 ≤ daysInMonth (yearOfDay day) 11 := seven_le_daysInMonth (by omega)
  rw [daysBeforeYear_succ, ← daysBeforeMonth_end] at hend
  unfold lastDay
  have hlast := hsummer.2
  omega

/-- The wall clock of an instant stays in the calendar if it does two hours later. -/
theorem localSeconds_le_lastSecond {zone : Zone} {now : ℤ} (hnow : now ≤ lastSecond)
    (hshifted : zone = .nicosia → now + 7200 ≤ lastSecond) :
    localSeconds zone now ≤ lastSecond := by
  cases zone with
  | utc => simpa [localSeconds, dayOffset] using hnow
  | nicosia =>
      have hlater := hshifted rfl
      have hday : offsetDay now ≤ lastDay := by
        unfold offsetDay lastSecond at *
        omega
      simp only [localSeconds, dayOffset]
      split_ifs with hsummer
      · have hlast := lt_lastDay_of_summer hday hsummer
        unfold offsetDay lastSecond at *
        omega
      · exact hlater

/-- There is no summer time on the first day of the calendar. -/
theorem dayOffset_firstDay (zone : Zone) (day : ℤ) :
    dayOffset zone (dayBeforeFirst + 1) ≤ dayOffset zone day := by
  cases zone with
  | utc => exact le_rfl
  | nicosia =>
      have hwinter : ¬IsSummerDay (yearOfDay (dayBeforeFirst + 1)) (dayBeforeFirst + 1) := by
        decide +kernel
      simp only [dayOffset, if_neg hwinter]
      split_ifs <;> omega

section Reset

variable {timezone : Text} {zone : Zone} {now : UtcTime} (resetTime : NaiveTime)
  (hzone : zoneOf timezone = some zone) (hnow : now.date.Representable)
  (hshifted : zone = .nicosia → now.seconds + 7200 ≤ lastSecond)

include hnow

theorem seconds_bounds :
    dayBeforeFirst * 86400 + 86400 ≤ now.seconds ∧ now.seconds ≤ lastSecond := by
  rw [representable_iff, UtcTime.numDaysFromCe_eq] at hnow
  unfold lastSecond
  omega

/-- The time of the reset is in the calendar when its day is. -/
theorem representable_reset {targetDate : NaiveDate}
    (htarget : targetDate.numDaysFromCe = targetDay zone now.seconds resetTime)
    (hdate : targetDate.Representable) :
    ((andTime targetDate resetTime).plusSeconds
      (-dayOffset zone targetDate.numDaysFromCe)).date.Representable := by
  have hsecs := resetTime.secs_lt
  have hstart := (seconds_bounds hnow).1
  have hseconds := seconds_andTime_plusSeconds targetDate resetTime
    (-dayOffset zone targetDate.numDaysFromCe)
  have hlater := localSeconds_lt_target zone now.seconds resetTime
  have hfirst := dayOffset_firstDay zone (offsetDay now.seconds)
  have hbounds := dayOffset_bounds zone targetDate.numDaysFromCe
  rw [representable_iff] at hdate ⊢
  rw [UtcTime.numDaysFromCe_eq, hseconds]
  rw [← htarget, localSeconds] at hlater
  by_cases hday : targetDate.numDaysFromCe = dayBeforeFirst + 1
  · rw [hday] at hlater hdate hbounds ⊢
    omega
  · omega

include hzone hshifted

theorem retryAfterForLocalReset_eq :
    (targetDay zone now.seconds resetTime ≤ lastDay →
      ∃ retryAfter, retryAfterForLocalReset now resetTime timezone = .ok (some retryAfter) ∧
        retryAfter.seconds = resetSeconds zone now.seconds resetTime ∧ retryAfter.frac = 0) ∧
    (lastDay < targetDay zone now.seconds resetTime →
      retryAfterForLocalReset now resetTime timezone = .ok none) := by
  have hoffset := timezoneOffsetForUtc_eq hzone fun hnicosia =>
    (representable_plusSeconds_iff hnow (by omega)).2 (hshifted hnicosia)
  have hnonneg := (dayOffset_bounds zone (offsetDay now.seconds)).1
  have hlocal : (now.plusSeconds (dayOffset zone (offsetDay now.seconds))).date.Representable :=
    (representable_plusSeconds_iff hnow hnonneg).2
      (localSeconds_le_lastSecond (seconds_bounds hnow).2 hshifted)
  have hseconds := now.seconds_plusSeconds (dayOffset zone (offsetDay now.seconds))
  rw [now.borrowed_of_nonneg hnonneg, add_zero, ← localSeconds] at hseconds
  have htarget := targetDate_eq resetTime hlocal (by rw [hseconds, ← targetDay])
  rw [retryAfterForLocalReset, hoffset]
  simp only [bind, Except.bind, addDuration_eq hlocal, htarget]
  constructor
  · intro hlast
    have hdate : (ofNumDaysFromCe (targetDay zone now.seconds resetTime)).Representable := by
      rw [representable_iff, UtcTime.numDaysFromCe_eq, hseconds] at hlocal
      have hlater := localSeconds_lt_target zone now.seconds resetTime
      have hsecs := resetTime.secs_lt
      rw [representable_iff, numDaysFromCe_ofNumDaysFromCe]
      omega
    have hreset := representable_reset resetTime hnow
      (numDaysFromCe_ofNumDaysFromCe (targetDay zone now.seconds resetTime)) hdate
    rw [if_pos hlast]
    simp only [timezoneOffsetForLocalDate_eq hzone _ hdate, addDuration_eq hreset]
    refine ⟨_, rfl, ?_, UtcTime.frac_plusSeconds_of_whole _ rfl _⟩
    rw [seconds_andTime_plusSeconds, numDaysFromCe_ofNumDaysFromCe, resetSeconds, sub_eq_add_neg]
  · intro hlast
    rw [if_neg (not_le.2 hlast)]
    rfl

end Reset

end ChainworksForge.Provider
