import ChainworksForge.Provider.NoPanic
import ChainworksForge.Support.WallClock

/-!
# The next moment at which a clock reads a time

Summer time in Nicosia goes from one instant to another; the classifier takes one offset
for every date.  Around the two changes of a year the two disagree.
-/

namespace ChainworksForge.Provider

open Support NaiveDate WallClock

/-! ## The wall clock -/

/-- The instant of a change: 01:00 UTC on the last Sunday of a month. -/
def changeAt (year : ℤ) (month : ℕ) : ℤ := lastSunday year month * 86400 + 3600

def SummerTime (t : ℤ) : Prop :=
  changeAt (yearOfDay (t / 86400)) 3 ≤ t ∧ t < changeAt (yearOfDay (t / 86400)) 10

instance instDecidableSummerTime (t : ℤ) : Decidable (SummerTime t) :=
  inferInstanceAs (Decidable (_ ∧ _))

namespace Zone

/-- The offset of a zone at an instant. -/
def offset : Zone → ℤ → ℤ
  | utc, _ => 0
  | nicosia, t => if SummerTime t then 10800 else 7200

/-- The wall clock at an instant. -/
def wall (zone : Zone) (t : ℤ) : ℤ := t + zone.offset t

/-- The time of day that the wall clock shows. -/
def timeOfDay (zone : Zone) (t : ℤ) : ℤ := zone.wall t % 86400

/-- The date that the wall clock shows. -/
def day (zone : Zone) (t : ℤ) : ℤ := zone.wall t / 86400

end Zone

/-- The day on which a time is named next. -/
def namedDay (zone : Zone) (now : ℤ) (resetTime : NaiveTime) : ℤ :=
  if resetTime.secs ≤ zone.timeOfDay now then zone.day now + 1 else zone.day now

/-- A day on which summer time begins or ends. -/
def IsChangeDay (day : ℤ) (month : ℕ) : Prop := day = lastSunday (yearOfDay day) month

instance instDecidableIsChangeDay (day : ℤ) (month : ℕ) : Decidable (IsChangeDay day month) :=
  inferInstanceAs (Decidable (_ = _))

/-! ## The changes around a day -/

/-- The two changes of one year decide about the days around a day. -/
structure Window (day spring autumn : ℤ) : Prop where
  apart : spring + 200 ≤ autumn
  summerDay : ∀ d, day - 3 ≤ d → d ≤ day + 3 →
    (IsSummerDay (yearOfDay d) d ↔ spring ≤ d ∧ d < autumn)
  springDay : ∀ d, day - 3 ≤ d → d ≤ day + 3 → (IsChangeDay d 3 ↔ d = spring)
  autumnDay : ∀ d, day - 3 ≤ d → d ≤ day + 3 → (IsChangeDay d 10 ↔ d = autumn)
  summerTime : ∀ t, (day - 3) * 86400 ≤ t → t < (day + 4) * 86400 →
    (SummerTime t ↔ spring * 86400 + 3600 ≤ t ∧ t < autumn * 86400 + 3600)

theorem lastSunday_of_year (year : ℤ) :
    (daysBeforeYear year + 84 ≤ lastSunday year 3 ∧
      lastSunday year 3 ≤ daysBeforeYear year + 91) ∧
    daysBeforeYear year + 298 ≤ lastSunday year 10 ∧
      lastSunday year 10 ≤ daysBeforeYear year + 305 := by
  have hspring := lastSunday_bounds year 3
  have hautumn := lastSunday_bounds year 10
  by_cases hleap : isLeapYear year = true
  · simp only [daysBeforeMonth, daysInMonth, hleap] at hspring hautumn
    push_cast at hspring hautumn
    omega
  · simp only [daysBeforeMonth, daysInMonth, hleap] at hspring hautumn
    push_cast at hspring hautumn
    omega

/-- A day near a day of a year is in that year, or so near to its ends that neither year
has a change close by. -/
theorem year_near (day d : ℤ) (hnear : day - 3 ≤ d ∧ d ≤ day + 3) :
    yearOfDay d = yearOfDay day ∨
      ((d < lastSunday (yearOfDay day) 3 ∨ lastSunday (yearOfDay day) 10 + 1 < d) ∧
        (d < lastSunday (yearOfDay d) 3 ∨ lastSunday (yearOfDay d) 10 + 1 < d)) := by
  have hday := yearOfDay_spec day
  have hd := yearOfDay_spec d
  have hlengths (year : ℤ) : daysBeforeYear year + 365 ≤ daysBeforeYear (year + 1) := by
    rw [daysBeforeYear_succ, yearLength]
    split_ifs <;> push_cast <;> omega
  have hdaySunday := lastSunday_of_year (yearOfDay day)
  have hdSunday := lastSunday_of_year (yearOfDay d)
  rcases lt_trichotomy (yearOfDay d) (yearOfDay day) with hbefore | heq | hafter
  · have hmono := daysBeforeYear_mono (Int.add_one_le_of_lt hbefore)
    have hlength := hlengths (yearOfDay d)
    right
    omega
  · exact .inl heq
  · have hmono := daysBeforeYear_mono (Int.add_one_le_of_lt hafter)
    have hlength := hlengths (yearOfDay day)
    right
    omega

theorem window (day : ℤ) :
    Window day (lastSunday (yearOfDay day) 3) (lastSunday (yearOfDay day) 10) where
  apart := by
    have hsundays := lastSunday_of_year (yearOfDay day)
    omega
  summerDay d hfirst hlast := by
    rcases year_near day d ⟨hfirst, hlast⟩ with heq | ⟨hday, hd⟩
    · rw [heq]
      rfl
    · unfold IsSummerDay
      have hsundays := lastSunday_of_year (yearOfDay d)
      have hsundays' := lastSunday_of_year (yearOfDay day)
      omega
  springDay d hfirst hlast := by
    rcases year_near day d ⟨hfirst, hlast⟩ with heq | ⟨hday, hd⟩
    · rw [IsChangeDay, heq]
    · unfold IsChangeDay
      have hsundays := lastSunday_of_year (yearOfDay d)
      have hsundays' := lastSunday_of_year (yearOfDay day)
      omega
  autumnDay d hfirst hlast := by
    rcases year_near day d ⟨hfirst, hlast⟩ with heq | ⟨hday, hd⟩
    · rw [IsChangeDay, heq]
    · unfold IsChangeDay
      have hsundays := lastSunday_of_year (yearOfDay d)
      have hsundays' := lastSunday_of_year (yearOfDay day)
      omega
  summerTime t hfirst hlast := by
    unfold SummerTime changeAt
    rcases year_near day (t / 86400) ⟨by omega, by omega⟩ with heq | ⟨hday, hd⟩
    · rw [heq]
    · have hsundays := lastSunday_of_year (yearOfDay (t / 86400))
      have hsundays' := lastSunday_of_year (yearOfDay day)
      omega

namespace Window

variable {day spring autumn : ℤ} (h : Window day spring autumn)

include h

theorem offset_cases {t : ℤ} (hfirst : (day - 3) * 86400 ≤ t) (hlast : t < (day + 4) * 86400) :
    (spring * 86400 + 3600 ≤ t ∧ t < autumn * 86400 + 3600 ∧ Zone.nicosia.offset t = 10800) ∨
      ((t < spring * 86400 + 3600 ∨ autumn * 86400 + 3600 ≤ t) ∧
        Zone.nicosia.offset t = 7200) := by
  have hsummer := h.summerTime t hfirst hlast
  rw [Zone.offset]
  split_ifs with htime
  · exact .inl ⟨(hsummer.1 htime).1, (hsummer.1 htime).2, rfl⟩
  · have hout := hsummer.not.1 htime
    exact .inr ⟨by omega, rfl⟩

theorem dayOffset_cases {d : ℤ} (hfirst : day - 3 ≤ d) (hlast : d ≤ day + 3) :
    (spring ≤ d ∧ d < autumn ∧ dayOffset .nicosia d = 10800) ∨
      ((d < spring ∨ autumn ≤ d) ∧ dayOffset .nicosia d = 7200) := by
  have hsummer := h.summerDay d hfirst hlast
  rw [dayOffset]
  split_ifs with hday
  · exact .inl ⟨(hsummer.1 hday).1, (hsummer.1 hday).2, rfl⟩
  · have hout := hsummer.not.1 hday
    exact .inr ⟨by omega, rfl⟩

end Window

theorem offset_bounds (zone : Zone) (t : ℤ) : 0 ≤ zone.offset t ∧ zone.offset t ≤ 10800 := by
  cases zone with
  | utc => exact ⟨le_rfl, by simp [Zone.offset]⟩
  | nicosia =>
      rw [Zone.offset]
      split_ifs <;> omega

/-- The wall clock consists of its date and its time of day. -/
theorem wall_eq (zone : Zone) (t : ℤ) :
    t + zone.offset t = zone.day t * 86400 + zone.timeOfDay t ∧
      0 ≤ zone.timeOfDay t ∧ zone.timeOfDay t < 86400 := by
  have hwall : zone.wall t = t + zone.offset t := rfl
  unfold Zone.day Zone.timeOfDay
  omega

/-- With the offset of the clock, the classifier expects the reset on the named day. -/
theorem targetDay_eq_namedDay {zone : Zone} {now : ℤ} {resetTime : NaiveTime}
    (hcode : dayOffset zone (offsetDay now) = zone.offset now) :
    targetDay zone now resetTime = namedDay zone now resetTime := by
  have hwall := wall_eq zone now
  have hlocal : localSeconds zone now = zone.day now * 86400 + zone.timeOfDay now := by
    rw [localSeconds, hcode, hwall.1]
  have htoday : localSeconds zone now / 86400 = zone.day now := by
    rw [hlocal]
    omega
  rw [targetDay, namedDay, htoday, hlocal]
  split_ifs <;> omega

/-! ## The offset taken for an instant -/

section Around

variable {now spring autumn : ℤ} (h : Window (Zone.nicosia.day now) spring autumn)

include h

/-- Only on the day of a change, and before it, does the classifier take another offset than
that of the clock. -/
theorem codeOffset_cases :
    (Zone.nicosia.day now = spring ∧ Zone.nicosia.offset now = 7200 ∧
      dayOffset .nicosia (offsetDay now) = 10800) ∨
    (Zone.nicosia.day now = autumn ∧ Zone.nicosia.offset now = 10800 ∧
      3600 ≤ Zone.nicosia.timeOfDay now ∧ dayOffset .nicosia (offsetDay now) = 7200) ∨
    (dayOffset .nicosia (offsetDay now) = Zone.nicosia.offset now ∧
      (Zone.nicosia.day now = spring → Zone.nicosia.offset now = 10800) ∧
      (Zone.nicosia.day now = autumn → Zone.nicosia.offset now = 10800 →
        Zone.nicosia.timeOfDay now < 3600)) := by
  have hwall := wall_eq .nicosia now
  have hbounds := offset_bounds .nicosia now
  have hapart := h.apart
  have hclock := h.offset_cases (t := now) (by omega) (by omega)
  have hcode := h.dayOffset_cases (d := offsetDay now) (by unfold offsetDay; omega)
    (by unfold offsetDay; omega)
  unfold offsetDay at hcode ⊢
  rcases hclock with ⟨hafter, hbefore, hclock⟩ | ⟨hafter | hbefore, hclock⟩ <;>
    rcases hcode with ⟨hsummer, hwinter, hcode⟩ | ⟨hwinter | hwinter, hcode⟩ <;>
    rw [hclock] at hwall <;> omega

variable (resetTime : NaiveTime)

/-- The reset that is computed before a change on its day, and at any other time. -/
theorem resetSeconds_cases :
    (Zone.nicosia.day now = spring ∧ Zone.nicosia.offset now = 7200 ∧
      ((resetTime.secs ≤ Zone.nicosia.timeOfDay now + 3600 ∧
          resetSeconds .nicosia now resetTime =
            (spring + 1) * 86400 + resetTime.secs - 10800) ∨
        (Zone.nicosia.timeOfDay now + 3600 < resetTime.secs ∧
          resetSeconds .nicosia now resetTime = spring * 86400 + resetTime.secs - 10800))) ∨
    (Zone.nicosia.day now = autumn ∧ Zone.nicosia.offset now = 10800 ∧
      3600 ≤ Zone.nicosia.timeOfDay now ∧
      ((resetTime.secs ≤ Zone.nicosia.timeOfDay now - 3600 ∧
          resetSeconds .nicosia now resetTime =
            (autumn + 1) * 86400 + resetTime.secs - 7200) ∨
        (Zone.nicosia.timeOfDay now - 3600 < resetTime.secs ∧
          resetSeconds .nicosia now resetTime = autumn * 86400 + resetTime.secs - 7200))) ∨
    (resetSeconds .nicosia now resetTime = namedDay .nicosia now resetTime * 86400 +
        resetTime.secs - dayOffset .nicosia (namedDay .nicosia now resetTime) ∧
      (Zone.nicosia.day now = spring → Zone.nicosia.offset now = 10800) ∧
      (Zone.nicosia.day now = autumn → Zone.nicosia.offset now = 10800 →
        Zone.nicosia.timeOfDay now < 3600)) := by
  have hwall := wall_eq .nicosia now
  have hapart := h.apart
  have hsecs := resetTime.secs_lt
  have hclock := h.offset_cases (t := now)
    (by have := offset_bounds .nicosia now; omega) (by have := offset_bounds .nicosia now; omega)
  rcases codeOffset_cases h with
    ⟨hday, hoffset, hcode⟩ | ⟨hday, hoffset, htime, hcode⟩ | ⟨hcode, hspring, htime⟩
  · refine .inl ⟨hday, hoffset, ?_⟩
    have htarget := h.dayOffset_cases (d := spring) (by omega) (by omega)
    have hlater := h.dayOffset_cases (d := spring + 1) (by omega) (by omega)
    have htoday : localSeconds .nicosia now / 86400 = spring := by
      rw [localSeconds, hcode]
      omega
    simp only [resetSeconds, targetDay, htoday]
    rw [localSeconds, hcode]
    split_ifs with hpassed
    · exact .inl ⟨by omega, by omega⟩
    · exact .inr ⟨by omega, by omega⟩
  · refine .inr (.inl ⟨hday, hoffset, htime, ?_⟩)
    have htarget := h.dayOffset_cases (d := autumn) (by omega) (by omega)
    have hlater := h.dayOffset_cases (d := autumn + 1) (by omega) (by omega)
    have htoday : localSeconds .nicosia now / 86400 = autumn := by
      rw [localSeconds, hcode]
      omega
    simp only [resetSeconds, targetDay, htoday]
    rw [localSeconds, hcode]
    split_ifs with hpassed
    · exact .inl ⟨by omega, by omega⟩
    · exact .inr ⟨by omega, by omega⟩
  · refine .inr (.inr ⟨?_, hspring, htime⟩)
    rw [resetSeconds, targetDay_eq_namedDay hcode]

end Around

theorem namedDay_cases (zone : Zone) (now : ℤ) (resetTime : NaiveTime) :
    (resetTime.secs ≤ zone.timeOfDay now ∧ namedDay zone now resetTime = zone.day now + 1) ∨
      (zone.timeOfDay now < resetTime.secs ∧ namedDay zone now resetTime = zone.day now) := by
  unfold namedDay
  split_ifs with hpassed
  · exact .inl ⟨hpassed, rfl⟩
  · exact .inr ⟨not_le.1 hpassed, rfl⟩

/-! ## Resets in Nicosia -/

/-- The time is named on the day on which summer time begins, and skipped on it. -/
def IsSkipped (now : ℤ) (resetTime : NaiveTime) : Prop :=
  IsChangeDay (namedDay .nicosia now resetTime) 3 ∧ 10800 ≤ resetTime.secs ∧
    resetTime.secs < 14400

/-- The offsets that the classifier takes are those of the clock. -/
structure IsReadRight (now : ℤ) (resetTime : NaiveTime) : Prop where
  /-- The time is not read before summer time begins on that day. -/
  spring : IsChangeDay (namedDay .nicosia now resetTime) 3 → 10800 ≤ resetTime.secs
  /-- The time is not read before summer time ends on that day. -/
  autumn : IsChangeDay (namedDay .nicosia now resetTime) 10 →
    now < namedDay .nicosia now resetTime * 86400 + 3600 → 14400 ≤ resetTime.secs
  /-- Before summer time ends on that day, the time was not read within the last hour. -/
  repeated : IsChangeDay (Zone.nicosia.day now) 10 →
    now < Zone.nicosia.day now * 86400 + 3600 → 3600 ≤ Zone.nicosia.timeOfDay now →
    Zone.nicosia.timeOfDay now - 3600 < resetTime.secs →
    resetTime.secs ≤ Zone.nicosia.timeOfDay now → 10800 ≤ resetTime.secs

/-- Without a change before the time is named, it is read as it is named. -/
theorem isLeast_of_noChange {now : ℤ} (resetTime : NaiveTime)
    (hconstant : ∀ t, now < t → t ≤ namedDay .nicosia now resetTime * 86400 + resetTime.secs -
      Zone.nicosia.offset now → Zone.nicosia.offset t = Zone.nicosia.offset now) :
    IsLeast {t | now < t ∧ Shows Zone.nicosia.offset resetTime.secs t}
      (namedDay .nicosia now resetTime * 86400 + resetTime.secs - Zone.nicosia.offset now) := by
  have hwall := wall_eq .nicosia now
  have hsecs := resetTime.secs_lt
  have hnamed := namedDay_cases .nicosia now resetTime
  exact isLeast_of_constant (by omega) (by omega) (by omega) hconstant

section Nicosia

variable {now spring autumn : ℤ} (h : Window (Zone.nicosia.day now) spring autumn)
  (resetTime : NaiveTime)

include h

/-- Before summer time begins, it is passed when the time comes later. -/
theorem isLeast_of_spring {next : ℤ} (hnow : now < spring * 86400 + 3600)
    (hnear : spring ≤ Zone.nicosia.day now + 1)
    (hlate : spring * 86400 + 3600 ≤
      namedDay .nicosia now resetTime * 86400 + resetTime.secs - 7200)
    (hnext : spring * 86400 + 3600 ≤ next ∧ next ≤ spring * 86400 + 3599 + 86400)
    (hshows : (next + 10800) % 86400 = resetTime.secs) :
    IsLeast {t | now < t ∧ Shows Zone.nicosia.offset resetTime.secs t} next := by
  have hwall := wall_eq .nicosia now
  have hbounds := offset_bounds .nicosia now
  have hapart := h.apart
  have hsecs := resetTime.secs_lt
  have hnamed := namedDay_cases .nicosia now resetTime
  have hwinter (t : ℤ) (hfirst : now ≤ t) (hlast : t < spring * 86400 + 3600) :
      Zone.nicosia.offset t = 7200 := by
    have hcases := h.offset_cases (t := t) (by omega) (by omega)
    omega
  have hoffset := hwinter now le_rfl hnow
  have hafter : IsLeast {t | spring * 86400 + 3600 - 1 < t ∧
      Shows Zone.nicosia.offset resetTime.secs t} next :=
    isLeast_of_constant (by omega) (by omega) hshows fun t hfirst hlast => by
      have hcases := h.offset_cases (t := t) (by omega) (by omega)
      omega
  exact isLeast_of_change hnow (by omega) (by omega) hlate
    (fun t hfirst hlast => hwinter t hfirst.le hlast) hafter

/-- Before summer time ends, its end is passed when the time comes later. -/
theorem isLeast_of_autumn {next : ℤ} (hsummer : spring * 86400 + 3600 ≤ now)
    (hnow : now < autumn * 86400 + 3600) (hnear : autumn ≤ Zone.nicosia.day now + 1)
    (hlate : autumn * 86400 + 3600 ≤
      namedDay .nicosia now resetTime * 86400 + resetTime.secs - 10800)
    (hnext : autumn * 86400 + 3600 ≤ next ∧ next ≤ autumn * 86400 + 3599 + 86400)
    (hshows : (next + 7200) % 86400 = resetTime.secs) :
    IsLeast {t | now < t ∧ Shows Zone.nicosia.offset resetTime.secs t} next := by
  have hwall := wall_eq .nicosia now
  have hbounds := offset_bounds .nicosia now
  have hapart := h.apart
  have hsecs := resetTime.secs_lt
  have hnamed := namedDay_cases .nicosia now resetTime
  have hdst (t : ℤ) (hfirst : now ≤ t) (hlast : t < autumn * 86400 + 3600) :
      Zone.nicosia.offset t = 10800 := by
    have hcases := h.offset_cases (t := t) (by omega) (by omega)
    omega
  have hoffset := hdst now le_rfl hnow
  have hafter : IsLeast {t | autumn * 86400 + 3600 - 1 < t ∧
      Shows Zone.nicosia.offset resetTime.secs t} next :=
    isLeast_of_constant (by omega) (by omega) hshows fun t hfirst hlast => by
      have hcases := h.offset_cases (t := t) (by omega) (by omega)
      omega
  exact isLeast_of_change hnow (by omega) (by omega) hlate
    (fun t hfirst hlast => hdst t hfirst.le hlast) hafter

/-- What the classifier gets right, around the changes of a year. -/
structure IsRightAround (now spring autumn : ℤ) (resetTime : NaiveTime) : Prop where
  onSpring : namedDay .nicosia now resetTime = spring → 14400 ≤ resetTime.secs
  onAutumn : namedDay .nicosia now resetTime = autumn → now < autumn * 86400 + 3600 →
    14400 ≤ resetTime.secs
  repeated : Zone.nicosia.day now = autumn → now < autumn * 86400 + 3600 →
    3600 ≤ Zone.nicosia.timeOfDay now →
    Zone.nicosia.timeOfDay now - 3600 < resetTime.secs →
    resetTime.secs ≤ Zone.nicosia.timeOfDay now → 10800 ≤ resetTime.secs

theorem IsReadRight.around (hright : IsReadRight now resetTime)
    (hskip : ¬IsSkipped now resetTime) : IsRightAround now spring autumn resetTime := by
  have hnamed := namedDay_cases .nicosia now resetTime
  have hspringDay := h.springDay (namedDay .nicosia now resetTime) (by omega) (by omega)
  have hautumnDay := h.autumnDay (namedDay .nicosia now resetTime) (by omega) (by omega)
  have htoday := h.autumnDay (Zone.nicosia.day now) (by omega) (by omega)
  refine ⟨fun hday => ?_, fun hday hbefore => ?_, fun hday hbefore => ?_⟩
  · have hlate := hright.spring (hspringDay.2 hday)
    by_contra hearly
    exact hskip ⟨hspringDay.2 hday, hlate, not_le.1 hearly⟩
  · exact hright.autumn (hautumnDay.2 hday) (by rwa [hday])
  · exact hright.repeated (htoday.2 hday) (by rwa [hday])

theorem isLeast_resetSeconds_of_around (hright : IsRightAround now spring autumn resetTime) :
    IsLeast {t | now < t ∧ Shows Zone.nicosia.offset resetTime.secs t}
      (resetSeconds .nicosia now resetTime) := by
  have hwall := wall_eq .nicosia now
  have hbounds := offset_bounds .nicosia now
  have hapart := h.apart
  have hsecs := resetTime.secs_lt
  have hnamed := namedDay_cases .nicosia now resetTime
  have hclock := h.offset_cases (t := now) (by omega) (by omega)
  have htarget := h.dayOffset_cases (d := namedDay .nicosia now resetTime) (by omega) (by omega)
  rcases resetSeconds_cases h resetTime with
    ⟨hday, hoffset, hreset⟩ | ⟨hday, hoffset, htime, hreset⟩ | ⟨hreset, -, htime⟩
  · -- before summer time begins, on its day
    have hspring := hright.onSpring
    have hnow : now < spring * 86400 + 3600 := by omega
    exact isLeast_of_spring h resetTime hnow (by omega) (by omega) (by omega) (by omega)
  · -- before summer time ends, on its day
    have hautumn := hright.onAutumn
    have hrepeated := hright.repeated
    have hnow : now < autumn * 86400 + 3600 := by omega
    exact isLeast_of_autumn h resetTime (by omega) hnow (by omega) (by omega) (by omega) (by omega)
  · rcases hclock with ⟨hafter, hbefore, hoffset⟩ | ⟨hbefore | hafter, hoffset⟩
    · by_cases hlate : autumn * 86400 + 3600 ≤
          namedDay .nicosia now resetTime * 86400 + resetTime.secs - 10800
      · exact isLeast_of_autumn h resetTime hafter hbefore (by omega) hlate (by omega) (by omega)
      · have hautumn := hright.onAutumn
        have hsame : dayOffset .nicosia (namedDay .nicosia now resetTime) =
            Zone.nicosia.offset now := by
          omega
        rw [hreset, hsame]
        refine isLeast_of_noChange resetTime fun t hfirst hlast => ?_
        have hcases := h.offset_cases (t := t) (by omega) (by omega)
        omega
    · have hspring := hright.onSpring
      by_cases hlate : spring * 86400 + 3600 ≤
          namedDay .nicosia now resetTime * 86400 + resetTime.secs - 7200
      · exact isLeast_of_spring h resetTime hbefore (by omega) hlate (by omega) (by omega)
      · have hsame : dayOffset .nicosia (namedDay .nicosia now resetTime) =
            Zone.nicosia.offset now := by
          omega
        rw [hreset, hsame]
        refine isLeast_of_noChange resetTime fun t hfirst hlast => ?_
        have hcases := h.offset_cases (t := t) (by omega) (by omega)
        omega
    · have hsame : dayOffset .nicosia (namedDay .nicosia now resetTime) =
          Zone.nicosia.offset now := by
        omega
      rw [hreset, hsame]
      refine isLeast_of_noChange resetTime fun t hfirst hlast => ?_
      have hcases := h.offset_cases (t := t) (by omega) (by omega)
      omega

/-- The reset of a skipped time comes later than the instant. -/
theorem lt_resetSeconds_of_skipped (hskip : IsSkipped now resetTime) :
    now < resetSeconds .nicosia now resetTime := by
  have hwall := wall_eq .nicosia now
  have hbounds := offset_bounds .nicosia now
  have hapart := h.apart
  have hnamed := namedDay_cases .nicosia now resetTime
  have hclock := h.offset_cases (t := now) (by omega) (by omega)
  obtain ⟨hchange, hlate, hearly⟩ := hskip
  have hspring := (h.springDay (namedDay .nicosia now resetTime) (by omega) (by omega)).1 hchange
  rcases resetSeconds_cases h resetTime with
    ⟨hday, hoffset, hreset⟩ | ⟨hday, hoffset, htime, hreset⟩ | ⟨hreset, hnone, -⟩
  · omega
  · omega
  · have htarget := h.dayOffset_cases (d := namedDay .nicosia now resetTime) (by omega) (by omega)
    omega

/-- A time that is read before summer time begins, on its day, is read wrong. -/
theorem not_isLeast_of_spring (hday : namedDay .nicosia now resetTime = spring)
    (hearly : resetTime.secs < 10800) :
    ¬IsLeast {t | now < t ∧ Shows Zone.nicosia.offset resetTime.secs t}
      (resetSeconds .nicosia now resetTime) := by
  rintro ⟨⟨-, hshows⟩, hleast⟩
  have hwall := wall_eq .nicosia now
  have hbounds := offset_bounds .nicosia now
  have hapart := h.apart
  have hnamed := namedDay_cases .nicosia now resetTime
  have hclock := h.offset_cases (t := now) (by omega) (by omega)
  have hnow : now < spring * 86400 + resetTime.secs - 7200 := by omega
  -- the time is read with the offset of the winter
  have hfirst := h.offset_cases (t := spring * 86400 + resetTime.secs - 7200) (by omega) (by omega)
  have hle := hleast ⟨hnow, by unfold Shows; omega⟩
  have hreset : resetSeconds .nicosia now resetTime = spring * 86400 + resetTime.secs - 10800 := by
    have htarget := h.dayOffset_cases (d := spring) (by omega) (by omega)
    rcases resetSeconds_cases h resetTime with
      ⟨-, -, hreset⟩ | ⟨hautumn, -, -, -⟩ | ⟨hreset, -⟩
    · omega
    · omega
    · rw [hday] at hreset
      omega
  have hoffset := h.offset_cases (t := resetSeconds .nicosia now resetTime) (by omega) (by omega)
  unfold Shows at hshows
  omega

/-- A time that is read before summer time ends, on its day, is read wrong. -/
theorem not_isLeast_of_autumn (hday : namedDay .nicosia now resetTime = autumn)
    (hnow : now < autumn * 86400 + 3600) (hearly : resetTime.secs < 14400) :
    ¬IsLeast {t | now < t ∧ Shows Zone.nicosia.offset resetTime.secs t}
      (resetSeconds .nicosia now resetTime) := by
  rintro ⟨-, hleast⟩
  have hwall := wall_eq .nicosia now
  have hbounds := offset_bounds .nicosia now
  have hapart := h.apart
  have hnamed := namedDay_cases .nicosia now resetTime
  have hclock := h.offset_cases (t := now) (by omega) (by omega)
  -- the time is read with the offset of the summer
  have hfirst := h.offset_cases (t := autumn * 86400 + resetTime.secs - 10800) (by omega)
    (by omega)
  have hle := hleast ⟨show now < autumn * 86400 + resetTime.secs - 10800 by omega,
    by unfold Shows; omega⟩
  have htarget := h.dayOffset_cases (d := autumn) (by omega) (by omega)
  rcases resetSeconds_cases h resetTime with
    ⟨hspring, -, -⟩ | ⟨-, -, -, hreset⟩ | ⟨hreset, -⟩
  · omega
  · omega
  · rw [hday] at hreset
    omega

/-- A time that was read within the last hour before summer time ends is read wrong. -/
theorem not_isLeast_of_repeated (hday : Zone.nicosia.day now = autumn)
    (hnow : now < autumn * 86400 + 3600) (htime : 3600 ≤ Zone.nicosia.timeOfDay now)
    (hrecent : Zone.nicosia.timeOfDay now - 3600 < resetTime.secs)
    (hpassed : resetTime.secs ≤ Zone.nicosia.timeOfDay now) (hearly : resetTime.secs < 10800) :
    ¬IsLeast {t | now < t ∧ Shows Zone.nicosia.offset resetTime.secs t}
      (resetSeconds .nicosia now resetTime) := by
  rintro ⟨⟨-, hshows⟩, -⟩
  have hwall := wall_eq .nicosia now
  have hbounds := offset_bounds .nicosia now
  have hapart := h.apart
  have hclock := h.offset_cases (t := now) (by omega) (by omega)
  have hreset : resetSeconds .nicosia now resetTime = autumn * 86400 + resetTime.secs - 7200 := by
    rcases resetSeconds_cases h resetTime with
      ⟨hspring, -, -⟩ | ⟨-, -, -, hreset⟩ | ⟨-, -, hnone⟩
    · omega
    · omega
    · have hlate := hnone hday (by omega)
      omega
  have hoffset := h.offset_cases (t := resetSeconds .nicosia now resetTime) (by omega) (by omega)
  unfold Shows at hshows
  omega

end Nicosia

/-- A time that the spring change does not skip is read as the next moment exactly when the
offsets that the classifier takes are right. -/
theorem isLeast_resetSeconds_iff {now : ℤ} {resetTime : NaiveTime}
    (hskip : ¬IsSkipped now resetTime) :
    IsLeast {t | now < t ∧ Shows Zone.nicosia.offset resetTime.secs t}
      (resetSeconds .nicosia now resetTime) ↔ IsReadRight now resetTime := by
  have h := window (Zone.nicosia.day now)
  have hnamed := namedDay_cases .nicosia now resetTime
  have hspringDay := h.springDay (namedDay .nicosia now resetTime) (by omega) (by omega)
  have hautumnDay := h.autumnDay (namedDay .nicosia now resetTime) (by omega) (by omega)
  have htoday := h.autumnDay (Zone.nicosia.day now) (by omega) (by omega)
  refine ⟨fun hleast => ⟨fun hday => ?_, fun hday hnow => ?_, fun hday hnow htime hrecent
    hpassed => ?_⟩, fun hright => ?_⟩
  · by_contra hearly
    exact not_isLeast_of_spring h resetTime (hspringDay.1 hday) (not_le.1 hearly) hleast
  · by_contra hearly
    have hautumn := hautumnDay.1 hday
    exact not_isLeast_of_autumn h resetTime hautumn (by rwa [← hautumn]) (not_le.1 hearly) hleast
  · by_contra hearly
    have hautumn := htoday.1 hday
    exact not_isLeast_of_repeated h resetTime hautumn (by rwa [← hautumn]) htime hrecent hpassed
      (not_le.1 hearly) hleast
  · exact isLeast_resetSeconds_of_around h resetTime (hright.around h resetTime hskip)

end ChainworksForge.Provider
