import ChainworksForge.Support.UtcTime

/-!
# The due test

A queue item is stored with its time as a text, to the precision that the time has.  It is
due if its text is not after the text of the second before the present one.  What the test
accepts is not after the present, and what lies two seconds or more before it is accepted.
-/

namespace ChainworksForge.Queue

open ChainworksForge.Support

def indexableDueTimestamp (now : ClockTime) : Text := now.minusSecond.toRfc3339Secs

/-- What the textual test accepts is not after the present. -/
theorem time_le_of_due {a : UtcTime} {now : ClockTime} (ha : a.FourDigitYear)
    (hdue : a.toRfc3339 ≤ indexableDueTimestamp now) : a.time ≤ now.time := by
  have hcutoff : now.minusSecond.FourDigitYear := by
    by_contra hnot
    exact absurd (secs_lt_toRfc3339 ha hnot) (not_lt.2 hdue)
  have hseconds := seconds_le_of_stamp_le now.minusSecond.no_leap
    ((toRfc3339_le_secs_iff ha hcutoff).1 hdue)
  rw [now.seconds_minusSecond] at hseconds
  rw [UtcTime.time, UtcTime.time, Prod.Lex.toLex_le_toLex]
  omega

/-- What lies two seconds or more before the present is accepted. -/
theorem due_of_time_le {a : UtcTime} {now : ClockTime} (ha : a.FourDigitYear)
    (hyear : now.date.year ≤ 9999)
    (hpast : a.time ≤ toLex (now.seconds - 2, now.frac)) :
    a.toRfc3339 ≤ indexableDueTimestamp now := by
  have hseconds : a.seconds < now.minusSecond.seconds := by
    rw [now.seconds_minusSecond]
    rw [UtcTime.time, Prod.Lex.toLex_le_toLex] at hpast
    omega
  have hcutoff : now.minusSecond.FourDigitYear := by
    refine ⟨?_, now.minusSecond_year_le.trans hyear⟩
    by_contra hnegative
    have hbefore : NaiveDate.Before now.minusSecond.date a.date :=
      .inl (by have := ha.1; omega)
    have hdays := hbefore.numDaysFromCe_lt
    have hsecs := now.minusSecond.secs_valid
    simp only [UtcTime.seconds] at hseconds
    omega
  exact (toRfc3339_le_secs_iff ha hcutoff).2 (stamp_le_of_seconds_lt hseconds)

/-- **Due times.**  The textual test accepts nothing that is after the present, and, while
the year has four digits, all that lies two seconds or more before it; rows ordered by
their texts, then by their numbers, are ordered by their times, then by their numbers. -/
theorem due_text_follows_time {a b : UtcTime} (ha : a.FourDigitYear) (hb : b.FourDigitYear)
    (now : ClockTime) (i j : ℤ) :
    (a.toRfc3339 ≤ indexableDueTimestamp now → a.time ≤ now.time) ∧
    (now.date.year ≤ 9999 → a.time ≤ toLex (now.seconds - 2, now.frac) →
      a.toRfc3339 ≤ indexableDueTimestamp now) ∧
    (toLex (a.toRfc3339, i) < toLex (b.toRfc3339, j) ↔
      toLex (a.time, i) < toLex (b.time, j)) := by
  refine ⟨time_le_of_due ha, due_of_time_le ha, ?_⟩
  rw [Prod.Lex.toLex_lt_toLex, Prod.Lex.toLex_lt_toLex]
  exact or_congr (toRfc3339_lt_iff ha hb) (and_congr_left' (toRfc3339_eq_iff ha hb))

/-- A morning in August. -/
def augustMorning (frac : ℕ) (hfrac : frac < 1000000000) : ClockTime where
  date := ⟨2026, 8, 10, by decide, by decide⟩
  secs := 23410
  frac := frac
  secs_valid := by decide
  frac_valid := .inl hfrac
  no_leap := hfrac

theorem due_text_follows_time_august :
    (augustMorning 0 (by decide)).toRfc3339 = "2026-08-10T06:30:10+00:00".toList ∧
    (toLex ((augustMorning 0 (by decide)).toRfc3339, (2 : ℤ)) <
        toLex ((augustMorning 500000000 (by decide)).toRfc3339, (1 : ℤ)) ↔
      toLex ((augustMorning 0 (by decide)).time, (2 : ℤ)) <
        toLex ((augustMorning 500000000 (by decide)).time, (1 : ℤ))) :=
  ⟨by decide, (due_text_follows_time ⟨by decide, by decide⟩ ⟨by decide, by decide⟩
    (augustMorning 0 (by decide)) 2 1).2.2⟩

/-- The third second of the year ten thousand. -/
def tenThousand : ClockTime where
  date := ⟨10000, 1, 1, by decide, by decide⟩
  secs := 2
  frac := 0
  secs_valid := by decide
  frac_valid := .inl (by decide)
  no_leap := by decide

/-- In the year ten thousand the test accepts nothing of the years before. -/
theorem tenThousand_defers_past :
    (augustMorning 0 (by decide)).FourDigitYear ∧
    (augustMorning 0 (by decide)).time ≤
      toLex (tenThousand.seconds - 2, tenThousand.frac) ∧
    ¬(augustMorning 0 (by decide)).toRfc3339 ≤ indexableDueTimestamp tenThousand := by
  refine ⟨⟨by decide, by decide⟩, by decide, by decide⟩

end ChainworksForge.Queue
