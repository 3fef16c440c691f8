import Mathlib.Data.List.Forall2
import Mathlib.Logic.Function.Iterate

/-!
# Limited passes over a list

A pass looks at the first elements of a list, as many as its limit admits, and lets
those go that are done.  The elements that are kept stay where they are, and the next
pass looks at them again.  How many elements have left after a number of passes is a
recursion on that number: each pass reaches as far as the limit and the elements that
have left so far.
-/

namespace ChainworksForge.Support

variable {α : Type} (limit : ℕ) (leaves : α → Bool) (l : List α)

/-- One pass: of the first elements those that leave are removed. -/
def pass : List α := (l.take limit).filter (fun a => !leaves a) ++ l.drop limit

/-- How many elements have left after a number of passes. -/
def departed : ℕ → ℕ
  | 0 => 0
  | i + 1 => (l.take (limit + departed i)).countP leaves

theorem departed_succ (i : ℕ) :
    departed limit leaves l (i + 1) =
      (l.take (limit + departed limit leaves l i)).countP leaves := rfl

/-- A longer front holds more of the elements that leave. -/
theorem countP_take_mono {m n : ℕ} (h : m ≤ n) :
    (l.take m).countP leaves ≤ (l.take n).countP leaves :=
  (List.take_sublist_take_left h).countP_le

theorem departed_le_succ (i : ℕ) :
    departed limit leaves l i ≤ departed limit leaves l (i + 1) := by
  induction i with
  | zero => exact Nat.zero_le _
  | succ i ih =>
      exact countP_take_mono leaves l (Nat.add_le_add_left ih limit)

/-- A pass leaves a list alone in which nothing leaves. -/
theorem pass_eq_self (h : ∀ a ∈ l.take limit, leaves a = false) :
    pass limit leaves l = l := by
  have hkept : (l.take limit).filter (fun a => !leaves a) = l.take limit := by
    rw [List.filter_eq_self]
    intro a ha
    rw [h a ha]
    rfl
  rw [pass, hkept, List.take_append_drop]

/-- A pass over a list without repetitions removes what was seen and leaves. -/
theorem filter_eq_pass [DecidableEq α] (hnodup : l.Nodup) :
    l.filter (fun a => !(decide (a ∈ l.take limit) && leaves a)) =
      pass limit leaves l := by
  have hsplit := List.take_append_drop limit l
  have hdisjoint : ∀ a ∈ l.drop limit, a ∉ l.take limit := by
    rw [← hsplit] at hnodup
    intro a hdrop htake
    exact (List.nodup_append.1 hnodup).2.2 a htake a hdrop rfl
  have hfront : (l.take limit).filter
      (fun a => !(decide (a ∈ l.take limit) && leaves a)) =
        (l.take limit).filter fun a => !leaves a := by
    refine List.filter_congr ?_
    intro a ha
    rw [decide_eq_true ha, Bool.true_and]
  have hrest : (l.drop limit).filter
      (fun a => !(decide (a ∈ l.take limit) && leaves a)) = l.drop limit := by
    rw [List.filter_eq_self]
    intro a ha
    rw [decide_eq_false (hdisjoint a ha)]
    rfl
  calc l.filter (fun a => !(decide (a ∈ l.take limit) && leaves a))
      = (l.take limit ++ l.drop limit).filter
          (fun a => !(decide (a ∈ l.take limit) && leaves a)) := by rw [hsplit]
    _ = pass limit leaves l := by rw [List.filter_append, hfront, hrest, pass]

/-- The list after at least one pass: the front that was reached without the elements
that leave, and the rest. -/
theorem iterate_pass (i : ℕ) :
    (pass limit leaves)^[i + 1] l =
      (l.take (limit + departed limit leaves l i)).filter (fun a => !leaves a) ++
        l.drop (limit + departed limit leaves l i) := by
  induction i with
  | zero => rfl
  | succ i ih =>
      rw [Function.iterate_succ_apply', ih]
      have hmono := departed_le_succ limit leaves l i
      generalize hreach : limit + departed limit leaves l i = reach
      have hnext : departed limit leaves l (i + 1) = (l.take reach).countP leaves := by
        rw [departed_succ, hreach]
      have hcount : ((l.take reach).filter fun a => !leaves a).length +
          (l.take reach).countP leaves = (l.take reach).length := by
        rw [← List.countP_eq_length_filter, Nat.add_comm]
        simpa using (List.length_eq_countP_add_countP leaves (l := l.take reach)).symm
      rw [List.length_take] at hcount
      rw [hnext] at hmono ⊢
      generalize (l.take reach).countP leaves = gone at hcount hmono ⊢
      by_cases hend : l.length ≤ reach
      · -- everything was reached, and what is there is kept
        have hnone : ∀ a ∈ ((l.take reach).filter fun a => !leaves a) ++ l.drop reach,
            leaves a = false := by
          intro a ha
          rw [List.drop_eq_nil_of_le hend, List.append_nil, List.mem_filter] at ha
          simpa using ha.2
        rw [pass_eq_self limit leaves _ fun a ha => hnone a (List.mem_of_mem_take ha),
          List.take_of_length_le hend, List.drop_eq_nil_of_le hend,
          List.take_of_length_le (by omega), List.drop_eq_nil_of_le (by omega)]
      · -- the kept elements of the front are looked at again
        have hfront : ((l.take reach).filter fun a => !leaves a).length ≤ limit := by omega
        obtain ⟨more, hmore⟩ : ∃ more, limit + gone = reach + more :=
          ⟨limit + gone - reach, by omega⟩
        have hrest : limit - ((l.take reach).filter fun a => !leaves a).length = more := by
          omega
        have hagain : ((l.take reach).filter fun a => !leaves a).filter
            (fun a => !leaves a) = (l.take reach).filter fun a => !leaves a := by
          rw [List.filter_filter]
          simp only [Bool.and_self]
        rw [pass, List.take_append, List.drop_append, hrest, List.take_of_length_le hfront,
          List.drop_eq_nil_of_le hfront, List.filter_append, hagain, hmore, List.take_add,
          List.filter_append, List.drop_drop, List.nil_append, List.append_assoc]

/-- Nothing that leaves is left exactly when all of it has departed. -/
theorem forall_iterate_pass_iff (count : ℕ) :
    (∀ a ∈ (pass limit leaves)^[count] l, leaves a = false) ↔
      departed limit leaves l count = l.countP leaves := by
  cases count with
  | zero =>
      rw [Function.iterate_zero, id, departed, eq_comm, List.countP_eq_zero]
      simp only [Bool.not_eq_true]
  | succ i =>
      have hsplit : l.countP leaves = departed limit leaves l (i + 1) +
          (l.drop (limit + departed limit leaves l i)).countP leaves := by
        rw [departed_succ, ← List.countP_append, List.take_append_drop]
      rw [iterate_pass, hsplit]
      constructor
      · intro h
        have hrest : (l.drop (limit + departed limit leaves l i)).countP leaves = 0 := by
          rw [List.countP_eq_zero]
          intro a ha htrue
          rw [h a (List.mem_append_right _ ha)] at htrue
          cases htrue
        omega
      · intro h a ha
        rcases List.mem_append.1 ha with hfront | hrest
        · simpa using (List.mem_filter.1 hfront).2
        · have hzero : (l.drop (limit + departed limit leaves l i)).countP leaves = 0 := by
            omega
          simpa using List.countP_eq_zero.1 hzero a hrest

/-- A front of kept elements that fills the limit is never passed. -/
theorem iterate_pass_of_full (h : ∀ a ∈ l.take limit, leaves a = false) (count : ℕ) :
    (pass limit leaves)^[count] l = l := by
  induction count with
  | zero => rfl
  | succ i ih => rw [Function.iterate_succ_apply', ih, pass_eq_self limit leaves l h]

/-! ## Elements and their successors -/

section Successors

variable {β γ : Type} {R : α → β → Prop} {S : β → γ → Prop} {T : α → γ → Prop}
  {as : List α} {bs : List β} {cs : List γ}

theorem exists_mem_left_of_forall₂ (h : List.Forall₂ R as bs) {b : β} (hb : b ∈ bs) :
    ∃ a ∈ as, R a b := by
  induction h with
  | nil => cases hb
  | cons hhead _ ih =>
      rcases List.mem_cons.1 hb with rfl | hb
      · exact ⟨_, List.mem_cons_self, hhead⟩
      · obtain ⟨a, ha, hrel⟩ := ih hb
        exact ⟨a, List.mem_cons_of_mem _ ha, hrel⟩

theorem exists_mem_right_of_forall₂ (h : List.Forall₂ R as bs) {a : α} (ha : a ∈ as) :
    ∃ b ∈ bs, R a b :=
  exists_mem_left_of_forall₂ h.flip ha

/-- Two steps in a row, for the elements that are there. -/
theorem forall₂_trans_of_mem (hfirst : List.Forall₂ R as bs)
    (hsecond : List.Forall₂ S bs cs)
    (htrans : ∀ a ∈ as, ∀ b c, R a b → S b c → T a c) : List.Forall₂ T as cs := by
  induction hfirst generalizing cs with
  | nil =>
      cases hsecond
      exact .nil
  | cons hhead _ ih =>
      cases hsecond with
      | cons hhead' htail' =>
          exact .cons (htrans _ List.mem_cons_self _ _ hhead hhead')
            (ih htail' fun a ha => htrans a (List.mem_cons_of_mem _ ha))

/-- A filter of the successors that only selects elements that have not changed. -/
theorem filter_of_forall₂ {R : α → α → Prop} {p q : α → Bool} {bs : List α}
    (h : List.Forall₂ R as bs)
    (hfilter : ∀ a ∈ as, ∀ b, R a b → p b = q a ∧ (q a = true → b = a)) :
    bs.filter p = as.filter q := by
  induction h with
  | nil => rfl
  | cons hhead _ ih =>
      obtain ⟨hsame, hkept⟩ := hfilter _ List.mem_cons_self _ hhead
      have hrest := ih fun a ha => hfilter a (List.mem_cons_of_mem _ ha)
      cases hq : q _ with
      | true =>
          rw [List.filter_cons_of_pos (hsame.trans hq), List.filter_cons_of_pos hq, hrest,
            hkept hq]
      | false =>
          rw [List.filter_cons_of_neg (by rw [hsame, hq]; decide),
            List.filter_cons_of_neg (by rw [hq]; decide), hrest]

end Successors

end ChainworksForge.Support
