import Mathlib.Algebra.GroupWithZero.Nat
import Mathlib.Data.List.Basic

/-!
# Exploration of a graph with a worklist

A stack of pending nodes is popped until it is empty.  Boundary nodes are noted
and not entered; every other node is entered once, and entering it either fails
or pushes its successors.

An exploration that ends has found a set of entered nodes that is closed under
successors up to the boundary, so every path from a root that avoids the
boundary stays inside it.  An exploration with as much fuel as there are roots
and edges always ends.
-/

namespace ChainworksForge.Support

variable {α ε : Type}

/-! ## Explored sets -/

/-- A node is accounted for when it is on the boundary, entered or pending. -/
def Accounted (boundary : α → Bool) (seen pending : List α) (a : α) : Prop :=
  boundary a = true ∨ a ∈ seen ∨ a ∈ pending

/-- The entered nodes are inside the boundary, were entered without failure, and
their successors are accounted for. -/
def Entered (boundary : α → Bool) (expand : α → Except ε (List α))
    (seen pending : List α) : Prop :=
  ∀ a ∈ seen, boundary a = false ∧
    ∃ next, expand a = .ok next ∧ ∀ b ∈ next, Accounted boundary seen pending b

/-- What a finished exploration from `roots` has found. -/
structure ExploredFrom (boundary : α → Bool) (expand : α → Except ε (List α))
    (roots seen : List α) : Prop where
  roots_mem : ∀ a ∈ roots, Accounted boundary seen [] a
  closed : Entered boundary expand seen []

/-- Accounting survives popping a node that is accounted for otherwise, and
pushing and entering more. -/
theorem Accounted.mono
    (boundary : α → Bool) {seen pending seen' pending' : List α} {a : α}
    (hseen : ∀ b ∈ seen, b ∈ seen')
    (hpending : ∀ b ∈ pending, Accounted boundary seen' pending' b)
    (ha : Accounted boundary seen pending a) :
    Accounted boundary seen' pending' a := by
  rcases ha with ha | ha | ha
  · exact Or.inl ha
  · exact Or.inr (Or.inl (hseen a ha))
  · exact hpending a ha

/-- A path from a root that avoids the boundary only visits entered nodes. -/
theorem ExploredFrom.mem_of_path
    {boundary : α → Bool} {expand : α → Except ε (List α)} {roots seen : List α}
    (hexplored : ExploredFrom boundary expand roots seen)
    (edge : α → α → Prop)
    (hedge : ∀ a b next, a ∈ seen → expand a = .ok next → edge a b → b ∈ next)
    (a : α) (path : List α) (hroot : a ∈ roots)
    (hchain : (a :: path).IsChain edge)
    (havoid : ∀ b ∈ a :: path, boundary b = false) :
    ∀ b ∈ a :: path, b ∈ seen := by
  have hstart : a ∈ seen := by
    rcases hexplored.roots_mem a hroot with h | h | h
    · rw [havoid a List.mem_cons_self] at h
      cases h
    · exact h
    · cases h
  clear hroot
  -- The induction follows the path; its first node is entered.
  induction path generalizing a with
  | nil =>
      intro b hb
      rw [List.mem_singleton.1 hb]
      exact hstart
  | cons b path ih =>
      rw [List.isChain_cons_cons] at hchain
      obtain ⟨hab, hchain⟩ := hchain
      obtain ⟨-, next, hnext, hacc⟩ := hexplored.closed a hstart
      have hb : b ∈ seen := by
        rcases hacc b (hedge a b next hstart hnext hab) with h | h | h
        · rw [havoid b (by simp)] at h
          cases h
        · exact h
        · cases h
      have hrest := ih b hchain (fun c hc => havoid c (List.mem_cons_of_mem _ hc)) hb
      intro c hc
      rcases List.mem_cons.1 hc with rfl | hc
      · exact hstart
      · exact hrest c hc

/-! ## The exploration -/

variable [DecidableEq α]

/-- Explore from a stack of pending nodes.  The result holds the entered nodes
and whether the boundary was met; `none` means that the fuel ran out. -/
def explore (boundary : α → Bool) (expand : α → Except ε (List α)) :
    ℕ → List α → List α → Bool → Option (Except ε (List α × Bool))
  | _, [], seen, hit => some (.ok (seen, hit))
  | 0, _ :: _, _, _ => none
  | fuel + 1, a :: pending, seen, hit =>
      if boundary a then explore boundary expand fuel pending seen true
      else if a ∈ seen then explore boundary expand fuel pending seen hit
      else
        match expand a with
        | .error e => some (.error e)
        | .ok next =>
            explore boundary expand fuel (next.reverse ++ pending) (a :: seen) hit

/-- The invariant of the exploration holds until it ends. -/
theorem exploredFrom_of_explore
    (boundary : α → Bool) (expand : α → Except ε (List α)) (roots : List α) :
    ∀ (fuel : ℕ) (pending seen : List α) (hit : Bool) (result : List α × Bool),
      (∀ a ∈ roots, Accounted boundary seen pending a) →
      Entered boundary expand seen pending →
      explore boundary expand fuel pending seen hit = some (.ok result) →
      ExploredFrom boundary expand roots result.1 := by
  intro fuel
  induction fuel with
  | zero =>
      intro pending seen hit result hroots hentered hexplore
      cases pending with
      | nil =>
          simp only [explore, Option.some.injEq, Except.ok.injEq] at hexplore
          subst hexplore
          exact ⟨hroots, hentered⟩
      | cons a pending => simp [explore] at hexplore
  | succ fuel ih =>
      intro pending seen hit result hroots hentered hexplore
      cases pending with
      | nil =>
          simp only [explore, Option.some.injEq, Except.ok.injEq] at hexplore
          subst hexplore
          exact ⟨hroots, hentered⟩
      | cons a pending =>
          -- A popped node that is on the boundary or entered stays accounted for.
          have hpop : Accounted boundary seen pending a →
              ∀ b ∈ a :: pending, Accounted boundary seen pending b := by
            intro ha b hb
            rcases List.mem_cons.1 hb with rfl | hb
            · exact ha
            · exact Or.inr (Or.inr hb)
          have hskip : Accounted boundary seen pending a →
              (∀ b ∈ roots, Accounted boundary seen pending b) ∧
                Entered boundary expand seen pending := by
            intro ha
            constructor
            · intro b hb
              exact (hroots b hb).mono boundary (fun _ h => h) (hpop ha)
            · intro b hb
              obtain ⟨hinside, next, hnext, hacc⟩ := hentered b hb
              refine ⟨hinside, next, hnext, ?_⟩
              intro c hc
              exact (hacc c hc).mono boundary (fun _ h => h) (hpop ha)
          by_cases hboundary : boundary a = true
          · rw [explore, if_pos hboundary] at hexplore
            obtain ⟨hroots', hentered'⟩ := hskip (Or.inl hboundary)
            exact ih pending seen true result hroots' hentered' hexplore
          · rw [explore, if_neg hboundary] at hexplore
            by_cases hseen : a ∈ seen
            · rw [if_pos hseen] at hexplore
              obtain ⟨hroots', hentered'⟩ := hskip (Or.inr (Or.inl hseen))
              exact ih pending seen hit result hroots' hentered' hexplore
            · rw [if_neg hseen] at hexplore
              cases hexpand : expand a with
              | error e => simp [hexpand] at hexplore
              | ok next =>
                  simp only [hexpand] at hexplore
                  have hgrow : ∀ b ∈ a :: pending,
                      Accounted boundary (a :: seen) (next.reverse ++ pending) b := by
                    intro b hb
                    rcases List.mem_cons.1 hb with rfl | hb
                    · exact Or.inr (Or.inl List.mem_cons_self)
                    · exact Or.inr (Or.inr (List.mem_append_right _ hb))
                  refine ih _ _ hit result ?_ ?_ hexplore
                  · intro b hb
                    exact (hroots b hb).mono boundary
                      (fun _ h => List.mem_cons_of_mem _ h) hgrow
                  · intro b hb
                    rcases List.mem_cons.1 hb with rfl | hb
                    · refine ⟨by simpa using hboundary, next, hexpand, ?_⟩
                      intro c hc
                      exact Or.inr (Or.inr (List.mem_append_left _ (by simpa using hc)))
                    · obtain ⟨hinside, next', hnext', hacc⟩ := hentered b hb
                      refine ⟨hinside, next', hnext', ?_⟩
                      intro c hc
                      exact (hacc c hc).mono boundary
                        (fun _ h => List.mem_cons_of_mem _ h) hgrow

/-! ## Termination -/

/-- Number of edges out of a node. -/
def outDegree (expand : α → Except ε (List α)) (a : α) : ℕ :=
  match expand a with
  | .ok next => next.length
  | .error _ => 0

/-- Number of edges out of the nodes of a universe that are not yet entered. -/
def openEdges (expand : α → Except ε (List α)) (nodes seen : List α) : ℕ :=
  ((nodes.filter (· ∉ seen)).map (outDegree expand)).sum

/-- Entering a node of the universe closes its edges. -/
theorem openEdges_cons_add_le
    (expand : α → Except ε (List α)) (nodes seen : List α) (a : α)
    (ha : a ∉ seen) (hmem : outDegree expand a ≠ 0 → a ∈ nodes) :
    openEdges expand nodes (a :: seen) + outDegree expand a ≤
      openEdges expand nodes seen := by
  have hmono : ∀ l : List α,
      openEdges expand l (a :: seen) ≤ openEdges expand l seen := by
    intro l
    induction l with
    | nil => simp [openEdges]
    | cons b l ih =>
        simp only [openEdges, List.filter_cons, List.mem_cons] at ih ⊢
        by_cases hb : b ∈ seen
        · simpa [hb] using ih
        · by_cases hba : b = a
          · simp only [hba, ha, true_or, not_true_eq_false, decide_false,
              not_false_eq_true, decide_true, if_true, List.map_cons, List.sum_cons]
            simp only [Bool.false_eq_true, if_false]
            omega
          · simp only [hb, hba, or_self, not_false_eq_true, decide_true, if_true,
              List.map_cons, List.sum_cons]
            omega
  by_cases hzero : outDegree expand a = 0
  · rw [hzero, Nat.add_zero]
    exact hmono nodes
  · obtain ⟨before, after, rfl⟩ := List.append_of_mem (hmem hzero)
    have hsplit : ∀ s : List α,
        openEdges expand (before ++ a :: after) s =
          openEdges expand before s + openEdges expand (a :: after) s := by
      intro s
      simp [openEdges]
    have hnew : openEdges expand (a :: after) (a :: seen) =
        openEdges expand after (a :: seen) := by
      simp [openEdges]
    have hold : openEdges expand (a :: after) seen =
        outDegree expand a + openEdges expand after seen := by
      simp [openEdges, ha]
    rw [hsplit, hsplit, hnew, hold]
    have h₁ := hmono before
    have h₂ := hmono after
    omega

/-- An exploration with enough fuel for its pending nodes and the open edges
ends. -/
theorem explore_ne_none
    (boundary : α → Bool) (expand : α → Except ε (List α)) (nodes : List α)
    (hnodes : ∀ a, outDegree expand a ≠ 0 → a ∈ nodes) :
    ∀ (fuel : ℕ) (pending seen : List α) (hit : Bool),
      pending.length + openEdges expand nodes seen ≤ fuel →
      explore boundary expand fuel pending seen hit ≠ none := by
  intro fuel
  induction fuel with
  | zero =>
      intro pending seen hit hfuel
      cases pending with
      | nil => simp [explore]
      | cons a pending => simp at hfuel
  | succ fuel ih =>
      intro pending seen hit hfuel
      cases pending with
      | nil => simp [explore]
      | cons a pending =>
          rw [List.length_cons] at hfuel
          by_cases hboundary : boundary a = true
          · rw [explore, if_pos hboundary]
            exact ih pending seen true (by omega)
          · rw [explore, if_neg hboundary]
            by_cases hseen : a ∈ seen
            · rw [if_pos hseen]
              exact ih pending seen hit (by omega)
            · rw [if_neg hseen]
              cases hexpand : expand a with
              | error e => simp
              | ok next =>
                  have hclosed :=
                    openEdges_cons_add_le expand nodes seen a hseen (hnodes a)
                  have hdegree : outDegree expand a = next.length := by
                    simp [outDegree, hexpand]
                  apply ih
                  rw [List.length_append, List.length_reverse]
                  omega

end ChainworksForge.Support
