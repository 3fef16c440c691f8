import Mathlib.Data.List.DropRight
import Mathlib.Data.List.Induction
import Mathlib.Order.Lattice

/-!
# The write that survives a pairwise choice

Some writes carry a stamp and some do not.  Of two writes, one after the other, the
one with the larger stamp is kept when both are stamped, and the later one otherwise.
The choice is not transitive: a write without a stamp takes the place of every write
before it and gives it up to every write after it, whatever their stamps are.  So only
the stamps after the last unstamped write count.
-/

namespace ChainworksForge.Support

variable {ω τ : Type} [LinearOrder τ] (stamp : ω → Option τ)

/-- Both writes are stamped, and the second stamp is the larger one. -/
def Outdated (w v : ω) : Prop :=
  ∃ s t, stamp w = some s ∧ stamp v = some t ∧ s < t

/-- The choice between a kept write and the next one. -/
def newer (kept w : ω) : ω :=
  match stamp w, stamp kept with
  | some new, some old => if old ≤ new then w else kept
  | _, _ => w

/-- The write that is kept after all of a list. -/
def survivor (writes : List ω) : Option ω :=
  writes.foldl (fun kept w => some (kept.elim w fun old => newer stamp old w)) none

@[simp]
theorem survivor_nil : survivor stamp [] = none := rfl

theorem survivor_concat (writes : List ω) (w : ω) :
    survivor stamp (writes ++ [w]) =
      some ((survivor stamp writes).elim w fun old => newer stamp old w) := by
  rw [survivor, List.foldl_append]
  rfl

theorem survivor_isSome {writes : List ω} (h : writes ≠ []) :
    (survivor stamp writes).isSome = true := by
  rw [← List.dropLast_concat_getLast h, survivor_concat]
  rfl

/-- The writes after the last one without a stamp. -/
def stampedTail (writes : List ω) : List ω :=
  writes.rtakeWhile fun w => (stamp w).isSome

section Tails

omit [LinearOrder τ]

theorem stampedTail_concat_of_none {writes : List ω} {w : ω} (h : stamp w = none) :
    stampedTail stamp (writes ++ [w]) = [] :=
  List.rtakeWhile_concat_neg _ _ _ (by simp [h])

theorem stampedTail_concat_of_some {writes : List ω} {w : ω} {t : τ}
    (h : stamp w = some t) :
    stampedTail stamp (writes ++ [w]) = stampedTail stamp writes ++ [w] :=
  List.rtakeWhile_concat_pos _ _ _ (by simp [h])

end Tails

/-- Where the kept write stands among the writes. -/
structure IsSurvivor (writes : List ω) (w : ω) : Prop where
  mem : w ∈ writes
  unstamped : stamp w = none → writes.getLast? = some w
  stamped : ∀ t, stamp w = some t → w ∈ stampedTail stamp writes ∧
    ∀ v ∈ stampedTail stamp writes, ∀ s, stamp v = some s → s ≤ t

variable {stamp}

theorem isSurvivor_single (w : ω) : IsSurvivor stamp [w] w where
  mem := List.mem_singleton_self w
  unstamped _ := rfl
  stamped t ht := by
    rw [← List.nil_append [w], stampedTail_concat_of_some stamp ht]
    refine ⟨List.mem_singleton_self w, ?_⟩
    intro v hv s hs
    rw [List.mem_singleton.1 hv, ht] at hs
    exact le_of_eq (Option.some.inj hs).symm

theorem IsSurvivor.stampedTail_eq_nil {writes : List ω} {w : ω}
    (h : IsSurvivor stamp writes w) (hw : stamp w = none) :
    stampedTail stamp writes = [] := by
  obtain ⟨front, hfront⟩ := List.getLast?_eq_some_iff.1 (h.unstamped hw)
  rw [hfront]
  exact stampedTail_concat_of_none stamp hw

/-- The later write takes the place of the kept one. -/
theorem IsSurvivor.concat_later {writes : List ω} {kept w : ω}
    (h : IsSurvivor stamp writes kept)
    (hold : ∀ s t, stamp kept = some s → stamp w = some t → s ≤ t) :
    IsSurvivor stamp (writes ++ [w]) w where
  mem := by simp
  unstamped _ := List.getLast?_concat
  stamped t ht := by
    rw [stampedTail_concat_of_some stamp ht]
    refine ⟨by simp, ?_⟩
    intro v hv s hs
    rcases List.mem_append.1 hv with hv | hv
    · cases hkept : stamp kept with
      | none =>
          rw [h.stampedTail_eq_nil hkept] at hv
          exact absurd hv (List.not_mem_nil)
      | some old =>
          exact le_trans ((h.stamped old hkept).2 v hv s hs) (hold old t hkept ht)
    · rw [List.mem_singleton.1 hv, ht] at hs
      exact le_of_eq (Option.some.inj hs).symm

/-- The kept write outlives a later one with a smaller stamp. -/
theorem IsSurvivor.concat_kept {writes : List ω} {kept w : ω} {s t : τ}
    (h : IsSurvivor stamp writes kept) (hs : stamp kept = some s)
    (ht : stamp w = some t) (hlt : t < s) : IsSurvivor stamp (writes ++ [w]) kept where
  mem := List.mem_append_left _ h.mem
  unstamped hnone := by rw [hs] at hnone; cases hnone
  stamped s' hs' := by
    obtain rfl : s = s' := Option.some.inj (hs.symm.trans hs')
    rw [stampedTail_concat_of_some stamp ht]
    refine ⟨List.mem_append_left _ (h.stamped s hs).1, ?_⟩
    intro v hv r hr
    rcases List.mem_append.1 hv with hv | hv
    · exact (h.stamped s hs).2 v hv r hr
    · rw [List.mem_singleton.1 hv, ht] at hr
      exact (Option.some.inj hr) ▸ le_of_lt hlt

theorem IsSurvivor.newer {writes : List ω} {kept w : ω}
    (h : IsSurvivor stamp writes kept) :
    IsSurvivor stamp (writes ++ [w]) (newer stamp kept w) := by
  rw [Support.newer]
  split
  · rename_i new old hnew hold
    by_cases hle : old ≤ new
    · rw [if_pos hle]
      apply h.concat_later
      intro s t hs ht
      rw [hold] at hs
      rw [hnew] at ht
      rwa [← Option.some.inj hs, ← Option.some.inj ht]
    · rw [if_neg hle]
      exact h.concat_kept hold hnew (lt_of_not_ge hle)
  · rename_i hneither
    apply h.concat_later
    intro s t hs ht
    exact absurd hs (hneither t s ht)

theorem isSurvivor_of_survivor {writes : List ω} {w : ω}
    (h : survivor stamp writes = some w) : IsSurvivor stamp writes w := by
  induction writes using List.reverseRecOn generalizing w with
  | nil => cases h
  | append_singleton writes v ih =>
      rw [survivor_concat] at h
      cases hkept : survivor stamp writes with
      | none =>
          have hnil : writes = [] := by
            by_contra hne
            have hsome := survivor_isSome stamp hne
            rw [hkept] at hsome
            cases hsome
          rw [hkept] at h
          obtain rfl := Option.some.inj h
          rw [hnil]
          exact isSurvivor_single v
      | some kept =>
          rw [hkept] at h
          obtain rfl := Option.some.inj h
          exact (ih hkept).newer

variable (stamp) in
/-- The stamps after the last unstamped write, if there are any, reach every stamp of
another list. -/
def Reaches (earlier writes : List ω) : Prop :=
  stampedTail stamp writes = [] ∨
    ∀ v ∈ earlier, ∀ t, stamp v = some t →
      ∃ w ∈ stampedTail stamp writes, ∃ s, stamp w = some s ∧ t ≤ s

/-- What the survivor is not outdated by. -/
theorem IsSurvivor.reaches_iff {earlier writes : List ω} {w : ω}
    (h : IsSurvivor stamp writes w) :
    Reaches stamp earlier writes ↔ ∀ v ∈ earlier, ¬Outdated stamp w v := by
  constructor
  · rintro hreach v hv ⟨s, t, hs, ht, hlt⟩
    obtain ⟨hmem, hmax⟩ := h.stamped s hs
    rcases hreach with hnil | hreach
    · rw [hnil] at hmem
      exact absurd hmem List.not_mem_nil
    · obtain ⟨u, hu, r, hr, hle⟩ := hreach v hv t ht
      exact absurd (lt_of_lt_of_le hlt hle) (not_lt_of_ge (hmax u hu r hr))
  · intro hnone
    cases hs : stamp w with
    | none => exact Or.inl (h.stampedTail_eq_nil hs)
    | some s =>
        refine Or.inr ?_
        intro v hv t ht
        refine ⟨w, (h.stamped s hs).1, s, hs, ?_⟩
        exact le_of_not_gt fun hlt => hnone v hv ⟨s, t, hs, ht, hlt⟩

/-- A write is outdated by a stamp of the tail exactly when the survivor outdates it. -/
theorem IsSurvivor.outdated_iff {writes : List ω} {w e : ω}
    (h : IsSurvivor stamp writes w) :
    (∀ v ∈ stampedTail stamp writes, ¬Outdated stamp e v) ↔ ¬Outdated stamp e w := by
  constructor
  · rintro hnone ⟨s, t, hs, ht, hlt⟩
    exact hnone w (h.stamped t ht).1 ⟨s, t, hs, ht, hlt⟩
  · rintro hw v hv ⟨s, t, hs, ht, hlt⟩
    apply hw
    cases hstamp : stamp w with
    | none =>
        rw [h.stampedTail_eq_nil hstamp] at hv
        exact absurd hv List.not_mem_nil
    | some r =>
        exact ⟨s, r, hs, hstamp, lt_of_lt_of_le hlt ((h.stamped r hstamp).2 v hv t ht)⟩

end ChainworksForge.Support
