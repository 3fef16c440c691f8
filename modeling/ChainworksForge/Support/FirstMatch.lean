import Mathlib.Data.List.Nodup
import Mathlib.Data.List.Perm.Basic

/-!
# The first match and the order of a list

A search returns the first element of a list that passes a test.  Its result is
the same for every order of the list exactly when at most one element passes.
-/

namespace ChainworksForge.Support

variable {α : Type} {p : α → Bool} {l : List α}

/-- At most one element of a list passes a test. -/
def AtMostOne (p : α → Bool) (l : List α) : Prop :=
  ∀ a ∈ l, ∀ b ∈ l, p a = true → p b = true → a = b

theorem AtMostOne.of_perm {l' : List α} (h : AtMostOne p l) (hperm : l'.Perm l) :
    AtMostOne p l' := by
  intro a ha b hb
  exact h a (hperm.subset ha) b (hperm.subset hb)

/-- The only match is the first one. -/
theorem AtMostOne.find?_eq_some
    (h : AtMostOne p l) {a : α} (ha : a ∈ l) (hpass : p a = true) :
    l.find? p = some a := by
  obtain ⟨b, hb⟩ := Option.isSome_iff_exists.mp
    (List.find?_isSome.mpr ⟨a, ha, hpass⟩)
  rw [hb, h b (List.mem_of_find?_eq_some hb) a ha (List.find?_some hb) hpass]

/-- The first match of a list with at most one match survives reordering. -/
theorem AtMostOne.find?_eq_of_perm
    (h : AtMostOne p l) {l' : List α} (hperm : l'.Perm l) :
    l'.find? p = l.find? p := by
  cases hfound : l.find? p with
  | none =>
      rw [List.find?_eq_none] at hfound ⊢
      intro a ha
      exact hfound a (hperm.subset ha)
  | some a =>
      exact (h.of_perm hperm).find?_eq_some
        (hperm.symm.subset (List.mem_of_find?_eq_some hfound))
        (List.find?_some hfound)

/-- Two matches can each be moved to the front. -/
theorem atMostOne_of_find?_perm
    (h : ∀ first second : List α, first.Perm l → second.Perm l →
      first.find? p = second.find? p) :
    AtMostOne p l := by
  classical
  intro a ha b hb hpassA hpassB
  have hfirst := (List.perm_cons_erase ha).symm
  have hsecond := (List.perm_cons_erase hb).symm
  simpa [hpassA, hpassB] using h _ _ hfirst hsecond

/-- Entries with distinct keys have at most one match for a key. -/
theorem atMostOne_key
    {κ β : Type} [DecidableEq κ] {entries : List (κ × β)}
    (hkeys : (entries.map Prod.fst).Nodup) (key : κ) :
    AtMostOne (fun entry => entry.1 = key) entries := by
  intro a ha b hb hkeyA hkeyB
  exact List.inj_on_of_nodup_map hkeys ha hb
    ((of_decide_eq_true hkeyA).trans (of_decide_eq_true hkeyB).symm)

end ChainworksForge.Support
