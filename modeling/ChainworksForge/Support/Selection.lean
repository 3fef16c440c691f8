import Mathlib.Data.List.Induction
import Mathlib.Order.Lattice

/-!
# Selection of a candidate of maximal rank

A scan over a list that keeps one candidate and replaces it only by a strictly
higher ranked one.  Elements without a rank are skipped.  The scan returns an
element of maximal rank; when two ranked elements never tie, the element does
not depend on the order of the list.
-/

namespace ChainworksForge.Support

variable {α β : Type} [LinearOrder β]

/-- One step of the scan. -/
def keepBest (rank : α → Option β) (best : Option (β × α)) (a : α) :
    Option (β × α) :=
  match rank a with
  | none => best
  | some score =>
      match best with
      | none => some (score, a)
      | some (previous, b) =>
          if previous < score then some (score, a) else some (previous, b)

/-- The first element of maximal rank, with its rank. -/
def selectBest (rank : α → Option β) (l : List α) : Option (β × α) :=
  l.foldl (keepBest rank) none

/-- What a scan has found: an optional ranked element of the list that no other
ranked element exceeds. -/
def IsBest (rank : α → Option β) (l : List α) : Option (β × α) → Prop
  | none => ∀ a ∈ l, rank a = none
  | some (score, a) =>
      a ∈ l ∧ rank a = some score ∧
        ∀ b ∈ l, ∀ other, rank b = some other → other ≤ score

/-- One step extends the scanned part by one element. -/
theorem isBest_keepBest
    (rank : α → Option β) (l : List α) (best : Option (β × α)) (a : α)
    (hbest : IsBest rank l best) :
    IsBest rank (l ++ [a]) (keepBest rank best a) := by
  cases hrank : rank a with
  | none =>
      have hstep : keepBest rank best a = best := by
        simp [keepBest, hrank]
      rw [hstep]
      cases best with
      | none =>
          intro b hb
          rcases List.mem_append.1 hb with hb | hb
          · exact hbest b hb
          · rw [List.mem_singleton.1 hb]
            exact hrank
      | some found =>
          obtain ⟨hmem, hscore, hmax⟩ := hbest
          refine ⟨List.mem_append_left _ hmem, hscore, ?_⟩
          intro b hb other hother
          rcases List.mem_append.1 hb with hb | hb
          · exact hmax b hb other hother
          · rw [List.mem_singleton.1 hb, hrank] at hother
            cases hother
  | some score =>
      cases best with
      | none =>
          have hstep : keepBest rank none a = some (score, a) := by
            simp [keepBest, hrank]
          rw [hstep]
          refine ⟨by simp, hrank, ?_⟩
          intro b hb other hother
          rcases List.mem_append.1 hb with hb | hb
          · rw [hbest b hb] at hother
            cases hother
          · rw [List.mem_singleton.1 hb, hrank] at hother
            exact le_of_eq (Option.some.inj hother).symm
      | some found =>
          obtain ⟨previous, c⟩ := found
          obtain ⟨hmem, hscore, hmax⟩ := hbest
          by_cases hlt : previous < score
          · have hstep :
                keepBest rank (some (previous, c)) a = some (score, a) := by
              simp [keepBest, hrank, hlt]
            rw [hstep]
            refine ⟨by simp, hrank, ?_⟩
            intro b hb other hother
            rcases List.mem_append.1 hb with hb | hb
            · exact (hmax b hb other hother).trans hlt.le
            · rw [List.mem_singleton.1 hb, hrank] at hother
              exact le_of_eq (Option.some.inj hother).symm
          · have hstep :
                keepBest rank (some (previous, c)) a = some (previous, c) := by
              simp [keepBest, hrank, hlt]
            rw [hstep]
            refine ⟨List.mem_append_left _ hmem, hscore, ?_⟩
            intro b hb other hother
            rcases List.mem_append.1 hb with hb | hb
            · exact hmax b hb other hother
            · rw [List.mem_singleton.1 hb, hrank] at hother
              have hle : score ≤ previous := le_of_not_gt hlt
              rwa [← Option.some.inj hother]

/-- Scanning a whole list finds a best element of it. -/
theorem isBest_selectBest (rank : α → Option β) (l : List α) :
    IsBest rank l (selectBest rank l) := by
  -- The scanned part grows from the right, so the induction is on the reversed list.
  induction l using List.reverseRecOn with
  | nil =>
      intro a ha
      cases ha
  | append_singleton l a ih =>
      have hstep :
          selectBest rank (l ++ [a]) = keepBest rank (selectBest rank l) a := by
        simp [selectBest]
      rw [hstep]
      exact isBest_keepBest rank l _ a ih

/-- No element is selected exactly when no element has a rank. -/
theorem selectBest_eq_none_iff (rank : α → Option β) (l : List α) :
    selectBest rank l = none ↔ ∀ a ∈ l, rank a = none := by
  have hbest := isBest_selectBest rank l
  constructor
  · intro hnone
    rw [hnone] at hbest
    exact hbest
  · intro hall
    cases hsel : selectBest rank l with
    | none => rfl
    | some found =>
        rw [hsel] at hbest
        obtain ⟨hmem, hscore, -⟩ := hbest
        rw [hall _ hmem] at hscore
        cases hscore

/-- Two elements of a list never tie when they are distinct. -/
def NoTies (rank : α → Option β) (l : List α) : Prop :=
  ∀ a ∈ l, ∀ b ∈ l, ∀ score, rank a = some score → rank b = some score → a = b

/-- Without ties the best element is unique. -/
theorem isBest_unique
    (rank : α → Option β) (l l' : List α) (best best' : Option (β × α))
    (hties : NoTies rank l) (hmem : ∀ a, a ∈ l ↔ a ∈ l')
    (hbest : IsBest rank l best) (hbest' : IsBest rank l' best') :
    best = best' := by
  cases best with
  | none =>
      cases best' with
      | none => rfl
      | some found =>
          obtain ⟨hin, hscore, -⟩ := hbest'
          rw [hbest _ ((hmem _).2 hin)] at hscore
          cases hscore
  | some found =>
      obtain ⟨score, a⟩ := found
      obtain ⟨hin, hscore, hmax⟩ := hbest
      cases best' with
      | none =>
          rw [hbest' _ ((hmem _).1 hin)] at hscore
          cases hscore
      | some found' =>
          obtain ⟨score', b⟩ := found'
          obtain ⟨hin', hscore', hmax'⟩ := hbest'
          have hle : score ≤ score' := hmax' a ((hmem a).1 hin) score hscore
          have hge : score' ≤ score := hmax b ((hmem b).2 hin') score' hscore'
          obtain rfl : score = score' := le_antisymm hle hge
          rw [hties a hin b ((hmem b).2 hin') score hscore hscore']

/-- Without ties the selection does not depend on the order of the list. -/
theorem selectBest_perm
    (rank : α → Option β) (l l' : List α) (hperm : l.Perm l')
    (hties : NoTies rank l) :
    selectBest rank l = selectBest rank l' :=
  isBest_unique rank l l' _ _ hties (fun _ => hperm.mem_iff)
    (isBest_selectBest rank l) (isBest_selectBest rank l')

end ChainworksForge.Support
