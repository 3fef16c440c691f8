import ChainworksForge.Support.Ranking

/-!
# Lists of ascending rank

In a list of strictly ascending rank, an interval of ranks selects a part of the list
without gaps.
-/

namespace ChainworksForge.Support

variable {α β : Type} [LinearOrder β] {rank : α → β} {l before window after : List α}

theorem sortByRank_eq_self (h : l.Pairwise fun a b => rank a < rank b) :
    sortByRank rank l = l :=
  List.Pairwise.insertionSort_eq (h.imp fun hlt => hlt.le)

theorem rank_le_getLast {last : α} (h : l.Pairwise fun a b => rank a < rank b)
    (hlast : l.getLast? = some last) {a : α} (ha : a ∈ l) : rank a ≤ rank last := by
  obtain ⟨init, rfl⟩ := List.getLast?_eq_some_iff.1 hlast
  rw [List.mem_append, List.mem_singleton] at ha
  rcases ha with ha | rfl
  · exact ((List.pairwise_append.1 h).2.2 a ha last List.mem_cons_self).le
  · exact le_rfl

theorem rank_head_le {first : α} (h : l.Pairwise fun a b => rank a < rank b)
    (hfirst : l.head? = some first) {a : α} (ha : a ∈ l) : rank first ≤ rank a := by
  cases l with
  | nil => cases ha
  | cons b rest =>
      obtain rfl := Option.some.inj hfirst
      rcases List.mem_cons.1 ha with rfl | ha
      · exact le_rfl
      · exact ((List.pairwise_cons.1 h).1 a ha).le

/-- The ranks above the last one of a part select what comes behind it. -/
theorem filter_above_eq {last : α}
    (h : (before ++ after).Pairwise fun a b => rank a < rank b)
    (hlast : before.getLast? = some last) :
    (before ++ after).filter (fun a => rank last < rank a) = after := by
  obtain ⟨hbefore, -, hcross⟩ := List.pairwise_append.1 h
  have hmem : last ∈ before := List.mem_of_getLast? hlast
  have hnone : before.filter (fun a => rank last < rank a) = [] := by
    rw [List.filter_eq_nil_iff]
    intro a ha
    simpa using rank_le_getLast hbefore hlast ha
  have hall : after.filter (fun a => rank last < rank a) = after := by
    rw [List.filter_eq_self]
    intro a ha
    simpa using hcross last hmem a ha
  rw [List.filter_append, hnone, hall, List.nil_append]

/-- The ranks from the first to the last one of a part select the part. -/
theorem filter_between_eq {first last : α}
    (h : (before ++ window ++ after).Pairwise fun a b => rank a < rank b)
    (hfirst : window.head? = some first) (hlast : window.getLast? = some last) :
    (before ++ window ++ after).filter
      (fun a => rank first ≤ rank a ∧ rank a ≤ rank last) = window := by
  obtain ⟨hinner, -, hafter⟩ := List.pairwise_append.1 h
  obtain ⟨-, hwindow, hbefore⟩ := List.pairwise_append.1 hinner
  have hfirstMem : first ∈ window := List.mem_of_head? hfirst
  have hlastMem : last ∈ window := List.mem_of_getLast? hlast
  have hnone : before.filter (fun a => rank first ≤ rank a ∧ rank a ≤ rank last) = [] := by
    rw [List.filter_eq_nil_iff]
    intro a ha hselected
    exact absurd (hbefore a ha first hfirstMem) (not_lt.2 (of_decide_eq_true hselected).1)
  have hnone' : after.filter (fun a => rank first ≤ rank a ∧ rank a ≤ rank last) = [] := by
    rw [List.filter_eq_nil_iff]
    intro a ha hselected
    exact absurd (hafter last (List.mem_append_right _ hlastMem) a ha)
      (not_lt.2 (of_decide_eq_true hselected).2)
  have hall : window.filter (fun a => rank first ≤ rank a ∧ rank a ≤ rank last) =
      window := by
    rw [List.filter_eq_self]
    intro a ha
    exact decide_eq_true ⟨rank_head_le hwindow hfirst ha, rank_le_getLast hwindow hlast ha⟩
  rw [List.filter_append, List.filter_append, hnone, hnone', hall, List.nil_append,
    List.append_nil]

end ChainworksForge.Support
