import Mathlib.Data.List.Sort
import Mathlib.Data.List.Nodup

/-!
# Ranked lists and bounded filling

A stable sort by a rank in a linear order, and a loop that appends admitted
elements until a limit is reached.  When no two elements of a list share a rank,
the sorted list depends on the elements alone and not on their order.
-/

namespace ChainworksForge.Support

section Ranked

variable {α β : Type} [LinearOrder β] (rank : α → β)

/-- The list in ascending order of the ranks. -/
def sortByRank (l : List α) : List α :=
  l.insertionSort fun a b => rank a ≤ rank b

theorem sortByRank_perm (l : List α) : (sortByRank rank l).Perm l :=
  List.perm_insertionSort _ l

@[simp]
theorem mem_sortByRank {l : List α} {a : α} :
    a ∈ sortByRank rank l ↔ a ∈ l :=
  (sortByRank_perm rank l).mem_iff

@[simp]
theorem length_sortByRank (l : List α) :
    (sortByRank rank l).length = l.length :=
  (sortByRank_perm rank l).length_eq

theorem pairwise_sortByRank (l : List α) :
    (sortByRank rank l).Pairwise fun a b => rank a ≤ rank b := by
  have htotal : Std.Total fun a b : α => rank a ≤ rank b :=
    ⟨fun a b => le_total (rank a) (rank b)⟩
  have htrans : IsTrans α fun a b => rank a ≤ rank b :=
    ⟨fun _ _ _ => le_trans⟩
  exact List.pairwise_insertionSort _ l

/-- Without shared ranks the order of the input does not matter. -/
theorem sortByRank_eq_of_perm
    {l l' : List α} (hperm : l.Perm l')
    (hrank : ∀ a ∈ l, ∀ b ∈ l, rank a = rank b → a = b) :
    sortByRank rank l = sortByRank rank l' := by
  apply List.Perm.eq_of_pairwise _ (pairwise_sortByRank rank l)
    (pairwise_sortByRank rank l')
  · exact (sortByRank_perm rank l).trans
      (hperm.trans (sortByRank_perm rank l').symm)
  · intro a b ha hb hab hba
    have ha' : a ∈ l := (mem_sortByRank rank).1 ha
    have hb' : b ∈ l := hperm.mem_iff.2 ((mem_sortByRank rank).1 hb)
    exact hrank a ha' b hb' (le_antisymm hab hba)

/-- Sorting commutes with a map that keeps the ranks. -/
theorem map_sortByRank
    {γ : Type} {f : γ → α} (l : List γ) :
    (sortByRank (fun c => rank (f c)) l).map f =
      sortByRank rank (l.map f) := by
  exact List.map_insertionSort _ _ f l fun _ _ _ _ => Iff.rfl

theorem filter_orderedInsert {p : α → Bool} {a : α} {l : List α}
    (hl : l.Pairwise fun b c => rank b ≤ rank c) :
    (l.orderedInsert (fun b c => rank b ≤ rank c) a).filter p =
      if p a then (l.filter p).orderedInsert (fun b c => rank b ≤ rank c) a
      else l.filter p := by
  induction l with
  | nil => by_cases ha : p a = true <;> simp [ha]
  | cons b l ih =>
      obtain ⟨hb, hl'⟩ := List.pairwise_cons.1 hl
      by_cases hab : rank a ≤ rank b
      · rw [List.orderedInsert_cons_of_le _ l hab]
        by_cases ha : p a = true
        · rw [List.filter_cons_of_pos ha, if_pos ha]
          -- every element that is left ranks behind the one that is inserted
          cases hrest : (b :: l).filter p with
          | nil => rfl
          | cons c rest =>
              have hc : c ∈ b :: l := List.mem_of_mem_filter (hrest ▸ List.mem_cons_self)
              have hac : rank a ≤ rank c := by
                rcases List.mem_cons.1 hc with rfl | hc
                · exact hab
                · exact le_trans hab (hb c hc)
              rw [List.orderedInsert_cons_of_le _ rest hac]
        · rw [List.filter_cons_of_neg ha, if_neg ha]
      · rw [List.orderedInsert_of_not_le _ l hab]
        by_cases hp : p b = true
        · rw [List.filter_cons_of_pos hp, ih hl', List.filter_cons_of_pos hp]
          by_cases ha : p a = true
          · rw [if_pos ha, if_pos ha,
              List.orderedInsert_of_not_le (fun b c => rank b ≤ rank c) _ hab]
          · rw [if_neg ha, if_neg ha]
        · rw [List.filter_cons_of_neg hp, ih hl', List.filter_cons_of_neg hp]

/-- Sorting commutes with a filter. -/
theorem filter_sortByRank {p : α → Bool} (l : List α) :
    (sortByRank rank l).filter p = sortByRank rank (l.filter p) := by
  induction l with
  | nil => rfl
  | cons a l ih =>
      have hinsert := filter_orderedInsert rank (p := p) (a := a)
        (pairwise_sortByRank rank l)
      rw [ih] at hinsert
      rw [sortByRank, List.insertionSort_cons, ← sortByRank, hinsert]
      by_cases ha : p a = true
      · rw [if_pos ha, List.filter_cons_of_pos ha, sortByRank, sortByRank,
          List.insertionSort_cons]
      · rw [if_neg ha, List.filter_cons_of_neg ha]

/-- The elements that a cut of the sorted list drops rank behind those that it
keeps. -/
theorem rank_take_le_drop
    {l : List α} {n : ℕ} {a b : α}
    (ha : a ∈ (sortByRank rank l).take n)
    (hb : b ∈ (sortByRank rank l).drop n) :
    rank a ≤ rank b := by
  have hsorted := pairwise_sortByRank rank l
  rw [← List.take_append_drop n (sortByRank rank l)] at hsorted
  exact (List.pairwise_append.1 hsorted).2.2 a ha b hb

/-- A cut depends on the values of the predicate on the list alone. -/
theorem takeWhile_congr
    {p q : α → Bool} {l : List α} (h : ∀ a ∈ l, p a = q a) :
    l.takeWhile p = l.takeWhile q := by
  induction l with
  | nil => rfl
  | cons a rest ih =>
      rw [List.takeWhile_cons, List.takeWhile_cons, h a (.head _),
        ih fun b hb => h b (.tail _ hb)]

end Ranked

section Fill

variable {α : Type} (limit : ℕ) (admits : List α → α → Bool)

/-- Append the admitted elements of a list one after the other and stop when the
limit is reached. -/
def fillUpTo : List α → List α → List α
  | selected, [] => selected
  | selected, c :: rest =>
      if limit ≤ selected.length then selected
      else if admits selected c then fillUpTo (selected ++ [c]) rest
      else fillUpTo selected rest

/-- When the admission of an element does not depend on the other admitted
elements of the list, the loop appends a part of a filtered list. -/
theorem fillUpTo_eq
    (admitted : α → Bool) (selected : List α) {l : List α} (hnodup : l.Nodup)
    (hadmits : ∀ c ∈ l, ∀ added, c ∉ added → added ⊆ l →
      admits (selected ++ added) c = admitted c) :
    fillUpTo limit admits selected l =
      selected ++ (l.filter admitted).take (limit - selected.length) := by
  induction l generalizing selected with
  | nil => simp [fillUpTo]
  | cons c rest ih =>
      obtain ⟨hc, hrest⟩ := List.nodup_cons.1 hnodup
      have hnone : ∀ d ∈ rest, ∀ added, d ∉ added → added ⊆ rest →
          admits (selected ++ added) d = admitted d := by
        intro d hd added hadded hsub
        exact hadmits d (.tail _ hd) added hadded
          (List.Subset.trans hsub (List.subset_cons_self c rest))
      have hhead : admits selected c = admitted c := by
        simpa using hadmits c (.head _) [] (by simp) (by simp)
      rw [fillUpTo]
      by_cases hfull : limit ≤ selected.length
      · rw [if_pos hfull]
        simp [Nat.sub_eq_zero_of_le hfull]
      · rw [if_neg hfull, hhead]
        by_cases hadmit : admitted c = true
        · have hnext : ∀ d ∈ rest, ∀ added, d ∉ added → added ⊆ rest →
              admits (selected ++ [c] ++ added) d = admitted d := by
            intro d hd added hadded hsub
            rw [List.append_assoc]
            apply hadmits d (.tail _ hd)
            · rw [List.singleton_append, List.mem_cons, not_or]
              exact ⟨fun heq => hc (heq ▸ hd), hadded⟩
            · rw [List.singleton_append]
              exact List.cons_subset_cons c hsub
          have hlimit : limit - selected.length =
              (limit - (selected.length + 1)) + 1 := by omega
          rw [if_pos hadmit, ih (selected ++ [c]) hrest hnext,
            List.filter_cons_of_pos hadmit, hlimit, List.take_succ_cons]
          simp
        · rw [if_neg hadmit, ih selected hrest hnone,
            List.filter_cons_of_neg hadmit]

/-- What is left out of a filled list was left out for lack of room. -/
theorem mem_fill_or_full
    {selected l : List α} {c : α} (hroom : selected.length ≤ limit)
    (hc : c ∈ l) :
    c ∈ selected ++ l.take (limit - selected.length) ∨
      (selected ++ l.take (limit - selected.length)).length = limit := by
  by_cases hshort : l.length ≤ limit - selected.length
  · left
    rw [List.take_of_length_le hshort]
    exact List.mem_append_right _ hc
  · right
    rw [List.length_append, List.length_take]
    omega

theorem length_fill_le
    {selected l : List α} (hroom : selected.length ≤ limit) :
    (selected ++ l.take (limit - selected.length)).length ≤ limit := by
  rw [List.length_append, List.length_take]
  omega

end Fill

end ChainworksForge.Support
