import Mathlib.Order.Bounds.Basic
import Mathlib.Order.Lattice

/-!
# Clocks with an offset

A wall clock shows an instant moved by an offset, which may change.  The first instant
at which it shows a time of day is found piece by piece: up to a change the offset is
constant, and the search goes on behind a change that comes before the time is shown.
-/

namespace ChainworksForge.Support.WallClock

/-- A clock whose offset changes shows a time of day. -/
def Shows (offsetAt : ℤ → ℤ) (time t : ℤ) : Prop := (t + offsetAt t) % 86400 = time

variable {offsetAt : ℤ → ℤ} {offset time now first : ℤ}

/-- A clock with a constant offset shows every time of day once a day. -/
theorem le_of_shows {t : ℤ} (hday : first ≤ now + 86400)
    (hshows : (first + offset) % 86400 = time) (hnow : now < t)
    (ht : (t + offset) % 86400 = time) : first ≤ t := by
  omega

/-- Where the offset is constant, an instant of the next day that shows the time is the
first. -/
theorem isLeast_of_constant (hnow : now < first) (hday : first ≤ now + 86400)
    (hshows : (first + offset) % 86400 = time)
    (hconstant : ∀ t, now < t → t ≤ first → offsetAt t = offset) :
    IsLeast {t | now < t ∧ Shows offsetAt time t} first := by
  refine ⟨⟨hnow, ?_⟩, fun t ht => ?_⟩
  · rw [Shows, hconstant first hnow le_rfl, hshows]
  · by_contra hearly
    have hclock := ht.2
    rw [Shows, hconstant t ht.1 (not_le.1 hearly).le] at hclock
    exact hearly (le_of_shows hday hshows ht.1 hclock)

/-- A change that comes before the time is shown is passed. -/
theorem isLeast_of_change {change next : ℤ} (hnow : now < change)
    (hday : first ≤ now + 86400) (hshows : (first + offset) % 86400 = time)
    (hlate : change ≤ first) (hbefore : ∀ t, now < t → t < change → offsetAt t = offset)
    (hafter : IsLeast {t | change - 1 < t ∧ Shows offsetAt time t} next) :
    IsLeast {t | now < t ∧ Shows offsetAt time t} next := by
  obtain ⟨⟨hnext, hclock⟩, hleast⟩ := hafter
  refine ⟨⟨by omega, hclock⟩, fun t ht => ?_⟩
  by_cases hearly : t < change
  · have hshown := ht.2
    rw [Shows, hbefore t ht.1 hearly] at hshown
    have hle := le_of_shows hday hshows ht.1 hshown
    omega
  · exact hleast ⟨by omega, ht.2⟩

end ChainworksForge.Support.WallClock
