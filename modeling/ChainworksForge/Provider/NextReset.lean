import ChainworksForge.Provider.NextMoment

/-!
# The reset that a message names

A message names a time of the clock in a supported zone.  The time from which the
provider can be asked again is the next moment at which the clock reads it, but for the
hours around the two changes of a year and the end of the calendar.
-/

namespace ChainworksForge.Provider

open Support NaiveDate WallClock

/-! ## The end of the calendar -/

/-- There is no change close to the end of the calendar. -/
theorem winter_of_end {day : ℤ} (hfirst : lastDay - 10 ≤ day) (hlast : day ≤ lastDay + 1) :
    day + 10 < lastSunday (yearOfDay day) 3 ∨ lastSunday (yearOfDay day) 10 + 10 < day := by
  have hyear := yearOfDay_spec day
  have hsundays := lastSunday_of_year (yearOfDay day)
  unfold lastDay at hfirst hlast
  unfold daysBeforeYear at *
  omega

/-- A named day in the calendar is what the classifier needs of it. -/
theorem namedDay_le_lastDay_iff (zone : Zone) {now : ℤ} (hnow : now ≤ lastSecond)
    (resetTime : NaiveTime) :
    namedDay zone now resetTime ≤ lastDay ↔
      (zone = .nicosia → now + 7200 ≤ lastSecond) ∧ targetDay zone now resetTime ≤ lastDay := by
  cases zone with
  | utc =>
      rw [targetDay_eq_namedDay
        (show dayOffset .utc (offsetDay now) = Zone.utc.offset now from rfl)]
      exact ⟨fun h => ⟨fun hzone => absurd hzone (by decide), h⟩, fun h => h.2⟩
  | nicosia =>
      have hwall := wall_eq .nicosia now
      have hbounds := offset_bounds .nicosia now
      have hnamed := namedDay_cases .nicosia now resetTime
      have h := window (Zone.nicosia.day now)
      simp only [forall_const]
      by_cases hend : lastDay - 10 ≤ Zone.nicosia.day now
      · have hlast : Zone.nicosia.day now ≤ lastDay + 1 := by
          unfold lastSecond at hnow
          omega
        have hwinter := winter_of_end hend hlast
        have hclock := h.offset_cases (t := now) (by omega) (by omega)
        have hcode := h.dayOffset_cases (d := offsetDay now) (by unfold offsetDay; omega)
          (by unfold offsetDay; omega)
        rw [targetDay_eq_namedDay (by unfold offsetDay at hcode ⊢; omega)]
        unfold lastSecond
        omega
      · have hlocal := dayOffset_bounds .nicosia (offsetDay now)
        have htarget : targetDay .nicosia now resetTime ≤ lastDay := by
          unfold targetDay localSeconds
          split_ifs <;> omega
        unfold lastSecond
        omega

/-! ## The moments at which a clock reads a time -/

/-- The wall clock reads a time of day, and its second begins. -/
def ClockReads (zone : Zone) (resetTime : NaiveTime) (t : ℤ ×ₗ ℕ) : Prop :=
  Shows zone.offset resetTime.secs (ofLex t).1 ∧ (ofLex t).2 = 0

/-- A second begins after an instant exactly when it is a later second. -/
theorem time_lt_second_iff (now : UtcTime) (t : ℤ) :
    now.time < toLex (t, 0) ↔ now.seconds < t := by
  rw [UtcTime.time, Prod.Lex.toLex_lt_toLex]
  simp

theorem isLeast_clockReads_iff (zone : Zone) (resetTime : NaiveTime) (now : UtcTime) (next : ℤ) :
    IsLeast {t | now.time < t ∧ ClockReads zone resetTime t} (toLex (next, 0)) ↔
      IsLeast {t | now.seconds < t ∧ Shows zone.offset resetTime.secs t} next := by
  constructor
  · rintro ⟨⟨hnow, hshows, -⟩, hleast⟩
    refine ⟨⟨(time_lt_second_iff now next).1 hnow, hshows⟩, fun t ht => ?_⟩
    have hle := hleast (a := toLex (t, 0)) ⟨(time_lt_second_iff now t).2 ht.1, ht.2, rfl⟩
    rw [Prod.Lex.toLex_le_toLex] at hle
    exact hle.elim le_of_lt fun h => h.1.le
  · rintro ⟨⟨hnow, hshows⟩, hleast⟩
    refine ⟨⟨(time_lt_second_iff now next).2 hnow, hshows, rfl⟩, fun t ht => ?_⟩
    obtain ⟨⟨second, frac⟩, rfl⟩ := toLex.surjective t
    obtain ⟨hlater, hshown, hwhole⟩ := ht
    obtain rfl : frac = 0 := hwhole
    have hle := hleast ⟨(time_lt_second_iff now second).1 hlater, hshown⟩
    rw [Prod.Lex.toLex_le_toLex]
    exact hle.lt_or_eq.imp id fun heq => ⟨heq, le_rfl⟩

/-! ## The reset of a message -/

/-- A message about a quota names its reset by a time of the clock. -/
structure NamesClockTime (readers : Readers) (message : Text) (resetTime : NaiveTime)
    (zone : Zone) : Prop where
  asks : AsksForReset readers message
  noRelative : relativeSecs message = none
  named : ∃ timezone, namedReset message = .ok (some (resetTime, timezone)) ∧
    zoneOf timezone = some zone

/-- The message is answered with the next moment at which the clock reads the named time. -/
def ReadsNextMoment (readers : Readers) (message : Text) (now : UtcTime)
    (resetTime : NaiveTime) (zone : Zone) : Prop :=
  ∃ retryAfter, observationFromAcpErrorMessageAt readers message now =
      .ok (.providerQuota (some retryAfter)) ∧
    now.time < retryAfter.time ∧
    (¬(zone = .nicosia ∧ IsSkipped now.seconds resetTime) →
      IsLeast {t | now.time < t ∧ ClockReads zone resetTime t} retryAfter.time)

variable {readers : Readers} {message : Text} {now : UtcTime} {resetTime : NaiveTime}
  {zone : Zone}

/-- The answer to a message that names a time of the clock. -/
theorem observation_of_names (hnow : now.date.Representable)
    (hnames : NamesClockTime readers message resetTime zone)
    (hrange : RelativeInRange message now) :
    (namedDay zone now.seconds resetTime ≤ lastDay →
      ∃ retryAfter, observationFromAcpErrorMessageAt readers message now =
          .ok (.providerQuota (some retryAfter)) ∧
        retryAfter.time = toLex (resetSeconds zone now.seconds resetTime, 0)) ∧
    (lastDay < namedDay zone now.seconds resetTime → ∀ retryAfter,
      observationFromAcpErrorMessageAt readers message now ≠
        .ok (.providerQuota (some retryAfter))) := by
  obtain ⟨timezone, hnamed, hzone⟩ := hnames.named
  have hlastDay := namedDay_le_lastDay_iff zone (seconds_bounds hnow).2 resetTime
  have hobservation : observationFromAcpErrorMessageAt readers message now =
      (retryAfterForLocalReset now resetTime timezone).map .providerQuota := by
    rw [observation_of_asks now hnames.asks, extractRelativeReset_eq hnow hrange,
      hnames.noRelative]
    simp only [Option.map_none, bind, Except.bind, extractResetClockRetryAfter, hnamed]
  rw [hobservation]
  constructor
  · intro hlast
    obtain ⟨hshifted, htarget⟩ := hlastDay.1 hlast
    obtain ⟨retryAfter, hok, hseconds, hfrac⟩ :=
      (retryAfterForLocalReset_eq resetTime hzone hnow hshifted).1 htarget
    exact ⟨retryAfter, by rw [hok]; rfl, by rw [UtcTime.time, hseconds, hfrac]⟩
  · intro hlast retryAfter hok
    have hout := hlastDay.not.1 (not_le.2 hlast)
    by_cases hshifted : zone = .nicosia → now.seconds + 7200 ≤ lastSecond
    · have htarget := not_le.1 fun htarget => hout ⟨hshifted, htarget⟩
      rw [(retryAfterForLocalReset_eq resetTime hzone hnow hshifted).2 htarget] at hok
      cases hok
    · rw [Classical.not_imp, not_le] at hshifted
      obtain ⟨rfl, hlate⟩ := hshifted
      have hdate := (representable_plusSeconds_iff hnow (by omega)).not.2 (not_le.2 hlate)
      simp only [retryAfterForLocalReset, timezoneOffsetSecondsForUtc, hzone,
        addDuration_eq_error hdate, bind, Except.bind] at hok
      cases hok

theorem isLeast_resetSeconds_utc (now : ℤ) (resetTime : NaiveTime) :
    IsLeast {t | now < t ∧ Shows Zone.utc.offset resetTime.secs t}
      (resetSeconds .utc now resetTime) := by
  have hreset : resetSeconds .utc now resetTime =
      namedDay .utc now resetTime * 86400 + resetTime.secs := by
    rw [resetSeconds,
      targetDay_eq_namedDay (show dayOffset .utc (offsetDay now) = Zone.utc.offset now from rfl),
      dayOffset, sub_zero]
  have hwall := wall_eq .utc now
  have hsecs := resetTime.secs_lt
  have hnamed := namedDay_cases .utc now resetTime
  have hoffset : Zone.utc.offset now = 0 := rfl
  rw [hreset]
  exact isLeast_of_constant (by omega) (by omega)
    (show (namedDay .utc now resetTime * 86400 + resetTime.secs + 0) % 86400 = _ by omega)
    fun _ _ _ => rfl

/-- A skipped time is read with offsets that are right. -/
theorem isReadRight_of_skipped {now : ℤ} (hskip : IsSkipped now resetTime) :
    IsReadRight now resetTime := by
  have h := window (Zone.nicosia.day now)
  have hapart := h.apart
  have hnamed := namedDay_cases .nicosia now resetTime
  have hspring := (h.springDay (namedDay .nicosia now resetTime) (by omega) (by omega)).1 hskip.1
  have hautumn := h.autumnDay (namedDay .nicosia now resetTime) (by omega) (by omega)
  have htoday := h.autumnDay (Zone.nicosia.day now) (by omega) (by omega)
  refine ⟨fun _ => hskip.2.1, fun hday => ?_, fun hday => ?_⟩
  · have hday := hautumn.1 hday
    omega
  · have hday := htoday.1 hday
    omega

/-- The computed reset of a time that is not skipped is the next moment exactly when it is
read right. -/
theorem isLeast_resetSeconds_zone_iff (now : ℤ)
    (hskip : ¬(zone = .nicosia ∧ IsSkipped now resetTime)) :
    IsLeast {t | now < t ∧ Shows zone.offset resetTime.secs t}
        (resetSeconds zone now resetTime) ↔
      (zone = .nicosia → IsReadRight now resetTime) := by
  cases zone with
  | utc =>
      exact ⟨fun _ hzone => absurd hzone (by decide),
        fun _ => isLeast_resetSeconds_utc now resetTime⟩
  | nicosia =>
      rw [isLeast_resetSeconds_iff fun h => hskip ⟨rfl, h⟩]
      exact ⟨fun h _ => h, fun h => h rfl⟩

theorem reads_next_moment_iff (hnow : now.date.Representable)
    (hnames : NamesClockTime readers message resetTime zone) :
    ReadsNextMoment readers message now resetTime zone ↔
      RelativeInRange message now ∧ namedDay zone now.seconds resetTime ≤ lastDay ∧
        (zone = .nicosia → IsReadRight now.seconds resetTime) := by
  constructor
  · rintro ⟨retryAfter, hok, hlater, hleast⟩
    have hrange : RelativeInRange message now := by
      by_contra hout
      obtain ⟨panic, hpanic⟩ := extractRelativeReset_error hnow hout
      rw [observation_of_asks now hnames.asks, hpanic] at hok
      cases hok
    obtain ⟨hfound, hnone⟩ := observation_of_names hnow hnames hrange
    have hlast : namedDay zone now.seconds resetTime ≤ lastDay :=
      not_lt.1 fun hlate => hnone hlate retryAfter hok
    refine ⟨hrange, hlast, ?_⟩
    by_cases hskip : zone = .nicosia ∧ IsSkipped now.seconds resetTime
    · exact fun _ => isReadRight_of_skipped hskip.2
    · obtain ⟨computed, hcomputed, htime⟩ := hfound hlast
      rw [hok] at hcomputed
      obtain rfl : retryAfter = computed := by
        injection hcomputed with hquota
        injection hquota with hsome
        injection hsome
      rw [htime, isLeast_clockReads_iff] at hleast
      exact (isLeast_resetSeconds_zone_iff now.seconds hskip).1 (hleast hskip)
  · rintro ⟨hrange, hlast, hright⟩
    obtain ⟨retryAfter, hok, htime⟩ := (observation_of_names hnow hnames hrange).1 hlast
    refine ⟨retryAfter, hok, ?_, fun hskip => ?_⟩
    · rw [htime, time_lt_second_iff]
      by_cases hskip : zone = .nicosia ∧ IsSkipped now.seconds resetTime
      · obtain ⟨rfl, hskip⟩ := hskip
        exact lt_resetSeconds_of_skipped (window _) resetTime hskip
      · exact ((isLeast_resetSeconds_zone_iff now.seconds hskip).2 hright).1.1
    · rw [htime, isLeast_clockReads_iff]
      exact (isLeast_resetSeconds_zone_iff now.seconds hskip).2 hright

/-! ## Two messages -/

theorem asksForReset_noReaders (hquota : isExplicitProviderQuotaMessage (lower message) = true) :
    AsksForReset noReaders message := by
  refine ⟨?_, hquota, ?_⟩
  · obtain ⟨slice, hslice⟩ := jsonSlice_returns message
    rw [observationFromTypedPayload, hslice]
    cases slice with
    | none => rfl
    | some slice => rfl
  · rw [statedRetryAfter, List.findSome?_eq_none_iff]
    intro marker _
    cases hsplit : Text.splitFirst marker message with
    | none => rfl
    | some halves => rfl

theorem april_valid : 1 ≤ 4 ∧ 4 ≤ 12 := by decide

theorem april_nineteenth_valid : 1 ≤ 19 ∧ 19 ≤ daysInMonth 2026 4 := by decide

theorem afternoon_secs_valid : 59400 < 86400 := by decide

theorem afternoon_frac_valid : 0 < 1000000000 := by decide

/-- The afternoon of 19 April 2026. -/
def aprilAfternoon : UtcTime where
  date := ⟨2026, 4, 19, april_valid, april_nineteenth_valid⟩
  secs := 59400
  frac := 0
  secs_valid := afternoon_secs_valid
  frac_valid := .inl afternoon_frac_valid

/-- Ten in the evening of the same day is the next moment. -/
theorem evening_reset_is_next :
    ReadsNextMoment noReaders "provider limit reached; resets 10pm (Asia/Nicosia)".toList
      aprilAfternoon ⟨22, 0, by decide, by decide⟩ .nicosia := by
  have hnamed : namedReset "provider limit reached; resets 10pm (Asia/Nicosia)".toList =
      .ok (some (⟨22, 0, by decide, by decide⟩, "Asia/Nicosia".toList)) := by
    decide +kernel
  have htoken : relativeToken "provider limit reached; resets 10pm (Asia/Nicosia)".toList =
      none := by
    decide +kernel
  have hrelative : relativeSecs "provider limit reached; resets 10pm (Asia/Nicosia)".toList =
      none := by
    rw [relativeSecs, htoken, Option.bind_none]
  refine (reads_next_moment_iff (by decide)
    ⟨asksForReset_noReaders (by decide +kernel), hrelative, _, hnamed, by decide⟩).2
    ⟨⟨fun token h => ?_, fun secs h => ?_⟩, by decide +kernel, fun _ =>
      ⟨by decide +kernel, by decide +kernel, by decide +kernel⟩⟩
  · rw [htoken] at h
    cases h
  · rw [hrelative] at h
    cases h

/-- A quarter of an hour before the last Sunday of March 2026 begins in Nicosia. -/
def marchEvening : UtcTime where
  date := ⟨2026, 3, 28, by decide, by decide⟩
  secs := 78300
  frac := 0
  secs_valid := by decide
  frac_valid := .inl (by decide)

/-- A quarter past midnight is read as a moment that has passed. -/
theorem midnight_reset_has_passed :
    ¬∀ (readers : Readers) (message : Text) (now : UtcTime) (resetTime : NaiveTime)
      (zone : Zone), now.date.Representable → NamesClockTime readers message resetTime zone →
        ReadsNextMoment readers message now resetTime zone := by
  intro h
  have hnamed : namedReset "provider limit reached; resets 12:15am (Asia/Nicosia)".toList =
      .ok (some (⟨0, 15, by decide, by decide⟩, "Asia/Nicosia".toList)) := by
    decide +kernel
  have htoken : relativeToken "provider limit reached; resets 12:15am (Asia/Nicosia)".toList =
      none := by
    decide +kernel
  have hrelative : relativeSecs "provider limit reached; resets 12:15am (Asia/Nicosia)".toList =
      none := by
    rw [relativeSecs, htoken, Option.bind_none]
  obtain ⟨retryAfter, hok, hlater, -⟩ := h noReaders _ marchEvening _ .nicosia (by decide)
    ⟨asksForReset_noReaders (by decide +kernel), hrelative, _, hnamed, by decide⟩
  have hseconds : (providerQuotaRetryAfterFromMessageAt noReaders
      "provider limit reached; resets 12:15am (Asia/Nicosia)".toList marchEvening).map
        (fun retryAfter => retryAfter.map UtcTime.seconds) =
      .ok (some (marchEvening.seconds - 1800)) := by
    decide +kernel
  rw [providerQuotaRetryAfterFromMessageAt, hok] at hseconds
  simp only [Except.map, Option.map_some, Except.ok.injEq, Option.some.injEq] at hseconds
  rw [UtcTime.time, UtcTime.time, Prod.Lex.toLex_lt_toLex] at hlater
  simp only at hlater
  omega

end ChainworksForge.Provider
