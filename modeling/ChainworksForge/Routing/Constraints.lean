import ChainworksForge.Routing.Selection

/-!
# Constraints on the selected reviewers

What the selection rules guarantee for every list of candidates with distinct
identifiers, and when the fallback for under-specified proposals keeps the
exclusions of an operator.
-/

namespace ChainworksForge.Routing

open ChainworksForge.Support ChainworksForge.Workflow

/-- Candidates with distinct identifiers and overrides without conflicts. -/
structure Prepared
    (scored : List ScoredCandidate) (options : ReviewRoutingOptions) :
    Prop where
  nodup : (scored.map (·.agentId)).Nodup
  compatible : ∀ c ∈ scored, c.overrideSource.isSome = true →
    c.agentId ∉ options.forceExclude

/-- A rule other than the fallback selects the candidate if there is room. -/
def ScoredCandidate.Qualifies
    (options : ReviewRoutingOptions) (c : ScoredCandidate) : Prop :=
  c.mandatory = true ∨ c.overrideSource.isSome = true ∨
    (c.agentId ∉ options.forceExclude ∧ scoreThreshold ≤ c.thresholdScore)

instance (options : ReviewRoutingOptions) (c : ScoredCandidate) :
    Decidable (c.Qualifies options) :=
  inferInstanceAs (Decidable (_ ∨ _ ∨ _))

section Rules

variable {scored : List ScoredCandidate} {options : ReviewRoutingOptions}

theorem eq_of_agentId_eq
    (hnodup : (scored.map (·.agentId)).Nodup) {c d : ScoredCandidate}
    (hc : c ∈ scored) (hd : d ∈ scored) (h : c.agentId = d.agentId) : c = d :=
  List.inj_on_of_nodup_map hnodup hc hd h

theorem hasAgent_eq_true_iff {selected : List ScoredCandidate} {id : String} :
    hasAgent selected id = true ↔ ∃ c ∈ selected, c.agentId = id := by
  simp [hasAgent]

/-- Among candidates with distinct identifiers, having an agent is having its
candidate. -/
theorem hasAgent_iff_mem
    (hnodup : (scored.map (·.agentId)).Nodup)
    {selected : List ScoredCandidate} (hsub : selected ⊆ scored)
    {c : ScoredCandidate} (hc : c ∈ scored) :
    hasAgent selected c.agentId = true ↔ c ∈ selected := by
  rw [hasAgent_eq_true_iff]
  constructor
  · rintro ⟨d, hd, hid⟩
    rwa [← eq_of_agentId_eq hnodup (hsub hd) hc hid]
  · intro h
    exact ⟨c, h, rfl⟩

theorem mandatoryCandidates_perm :
    (mandatoryCandidates scored).Perm (scored.filter (·.mandatory)) := by
  rw [mandatoryCandidates]
  by_cases h : maxSelectedReviewers < (scored.filter (·.mandatory)).length
  · rw [if_pos h]
    exact sortByRank_perm _ _
  · rw [if_neg h]

theorem mem_mandatoryCandidates {c : ScoredCandidate} :
    c ∈ mandatoryCandidates scored ↔ c ∈ scored ∧ c.mandatory = true := by
  rw [mandatoryCandidates_perm.mem_iff, List.mem_filter]

theorem mem_selectMandatory {c : ScoredCandidate}
    (hc : c ∈ selectMandatory scored) : c ∈ scored ∧ c.mandatory = true :=
  mem_mandatoryCandidates.1 (List.mem_of_mem_take hc)

theorem length_selectMandatory_le :
    (selectMandatory scored).length ≤ maxSelectedReviewers :=
  List.length_take_le _ _

/-- The candidates that an override adds to the mandatory ones. -/
def forcedCandidates
    (scored : List ScoredCandidate) (options : ReviewRoutingOptions)
    (selected : List ScoredCandidate) : List ScoredCandidate :=
  scored.filter fun c =>
    c.overrideSource.isSome && !hasAgent selected c.agentId &&
      !options.forceExclude.contains c.agentId

theorem addForceIncluded_eq
    (hnodup : (scored.map (·.agentId)).Nodup)
    {selected : List ScoredCandidate} (hsub : selected ⊆ scored) :
    addForceIncluded scored options selected =
      selected ++ (forcedCandidates scored options selected).take
        (maxSelectedReviewers - selected.length) := by
  apply fillUpTo_eq maxSelectedReviewers _ _ _ (List.Nodup.of_map _ hnodup)
  intro c hc added hadded hsubset
  have hsame : hasAgent (selected ++ added) c.agentId =
      hasAgent selected c.agentId := by
    rw [Bool.eq_iff_iff,
      hasAgent_iff_mem hnodup (List.append_subset.2 ⟨hsub, hsubset⟩) hc,
      hasAgent_iff_mem hnodup hsub hc, List.mem_append]
    exact or_iff_left hadded
  rw [hsame]

theorem nodup_optionalCandidates
    (hnodup : (scored.map (·.agentId)).Nodup)
    (selected : List ScoredCandidate) :
    (optionalCandidates scored options selected).Nodup :=
  (List.Nodup.of_map _ hnodup).filter _

theorem fillByScore_eq
    (hnodup : (scored.map (·.agentId)).Nodup)
    (selected : List ScoredCandidate) :
    fillByScore scored options selected =
      selected ++
        (sortByRank ScoredCandidate.rank
          (optionalCandidates scored options selected)).take
            (maxSelectedReviewers - selected.length) := by
  have hsorted : (sortByRank ScoredCandidate.rank
      (optionalCandidates scored options selected)).Nodup :=
    (sortByRank_perm _ _).nodup_iff.2 (nodup_optionalCandidates hnodup selected)
  have hfill := fillUpTo_eq maxSelectedReviewers (fun _ _ => true)
    (fun _ => true) selected hsorted fun _ _ _ _ _ => rfl
  rw [fillByScore, hfill, List.filter_true]

theorem mem_forcedCandidates
    (h : Prepared scored options)
    {selected : List ScoredCandidate} (hsub : selected ⊆ scored)
    {c : ScoredCandidate} :
    c ∈ forcedCandidates scored options selected ↔
      c ∈ scored ∧ c.overrideSource.isSome = true ∧ c ∉ selected := by
  rw [forcedCandidates, List.mem_filter]
  constructor
  · rintro ⟨hc, hforced⟩
    simp only [Bool.and_eq_true, Bool.not_eq_true'] at hforced
    refine ⟨hc, hforced.1.1, fun hmem => ?_⟩
    rw [(hasAgent_iff_mem h.nodup hsub hc).2 hmem] at hforced
    exact absurd hforced.1.2 (by decide)
  · rintro ⟨hc, hforced, hmem⟩
    refine ⟨hc, ?_⟩
    have hnot : hasAgent selected c.agentId = false := by
      rw [← Bool.not_eq_true, hasAgent_iff_mem h.nodup hsub hc]
      exact hmem
    have hallowed := h.compatible c hc hforced
    simp [hforced, hnot, hallowed]

theorem mem_optionalCandidates
    (h : Prepared scored options)
    {selected : List ScoredCandidate} (hsub : selected ⊆ scored)
    {c : ScoredCandidate} :
    c ∈ optionalCandidates scored options selected ↔
      c ∈ scored ∧ c.mandatory = false ∧ c.overrideSource.isSome = false ∧
        c.agentId ∉ options.forceExclude ∧
        scoreThreshold ≤ c.thresholdScore ∧ c ∉ selected := by
  rw [optionalCandidates, List.mem_filter, and_congr_right_iff]
  intro hc
  have hmem := not_congr (hasAgent_iff_mem h.nodup hsub hc)
  rw [Bool.not_eq_true] at hmem
  simp [hmem, and_assoc]

/-- The mandatory candidates followed by those that an override adds. -/
def firstChosen (scored : List ScoredCandidate) (options : ReviewRoutingOptions) :
    List ScoredCandidate :=
  selectMandatory scored ++
    (forcedCandidates scored options (selectMandatory scored)).take
      (maxSelectedReviewers - (selectMandatory scored).length)

theorem selectMandatory_subset : selectMandatory scored ⊆ scored :=
  fun _ hc => (mem_selectMandatory hc).1

theorem mem_firstChosen
    (h : Prepared scored options) {c : ScoredCandidate}
    (hc : c ∈ firstChosen scored options) :
    c ∈ scored ∧ (c.mandatory = true ∨ c.overrideSource.isSome = true) := by
  rcases List.mem_append.1 hc with hc | hc
  · obtain ⟨hscored, hmandatory⟩ := mem_selectMandatory hc
    exact ⟨hscored, .inl hmandatory⟩
  · obtain ⟨hscored, hforced, -⟩ :=
      (mem_forcedCandidates h selectMandatory_subset).1
        (List.mem_of_mem_take hc)
    exact ⟨hscored, .inr hforced⟩

/-- No exclusion applies to the candidates chosen first. -/
theorem retainAllowed_firstChosen (h : Prepared scored options) :
    retainAllowed options (firstChosen scored options) =
      firstChosen scored options := by
  apply List.filter_eq_self.2
  intro c hc
  obtain ⟨hscored, hmandatory | hforced⟩ := mem_firstChosen h hc
  · rw [hmandatory, Bool.or_true]
  · have hallowed := h.compatible c hscored hforced
    simp [hallowed]

/-- The three rules one after the other. -/
theorem chosenByRules_eq (h : Prepared scored options) :
    chosenByRules scored options =
      firstChosen scored options ++
        (sortByRank ScoredCandidate.rank
          (optionalCandidates scored options
            (firstChosen scored options))).take
              (maxSelectedReviewers - (firstChosen scored options).length) := by
  have hfirst : addForceIncluded scored options (selectMandatory scored) =
      firstChosen scored options :=
    addForceIncluded_eq h.nodup selectMandatory_subset
  rw [chosenByRules, hfirst, retainAllowed_firstChosen h,
    fillByScore_eq h.nodup]

theorem firstChosen_subset (h : Prepared scored options) :
    firstChosen scored options ⊆ scored :=
  fun _ hc => (mem_firstChosen h hc).1

theorem length_firstChosen_le :
    (firstChosen scored options).length ≤ maxSelectedReviewers :=
  length_fill_le _ length_selectMandatory_le

theorem length_chosenByRules_le (h : Prepared scored options) :
    (chosenByRules scored options).length ≤ maxSelectedReviewers := by
  rw [chosenByRules_eq h]
  exact length_fill_le _ length_firstChosen_le

theorem firstChosen_starts (h : Prepared scored options) :
    firstChosen scored options <+: chosenByRules scored options := by
  rw [chosenByRules_eq h]
  exact List.prefix_append _ _

theorem selectMandatory_starts (h : Prepared scored options) :
    selectMandatory scored <+: chosenByRules scored options :=
  (List.prefix_append _ _).trans (firstChosen_starts h)

/-- Only candidates that qualify are chosen. -/
theorem mem_chosenByRules
    (h : Prepared scored options) {c : ScoredCandidate}
    (hc : c ∈ chosenByRules scored options) :
    c ∈ scored ∧ c.Qualifies options := by
  rw [chosenByRules_eq h] at hc
  rcases List.mem_append.1 hc with hc | hc
  · obtain ⟨hscored, hmandatory | hforced⟩ := mem_firstChosen h hc
    · exact ⟨hscored, .inl hmandatory⟩
    · exact ⟨hscored, .inr (.inl hforced)⟩
  · have hoptional := (mem_sortByRank _).1 (List.mem_of_mem_take hc)
    obtain ⟨hscored, -, -, hallowed, hscore, -⟩ :=
      (mem_optionalCandidates h (firstChosen_subset h)).1 hoptional
    exact ⟨hscored, .inr (.inr ⟨hallowed, hscore⟩)⟩

/-- A full part of the chosen list is all of it. -/
theorem length_eq_of_start
    (h : Prepared scored options) {part : List ScoredCandidate}
    (hstart : part <+: chosenByRules scored options)
    (hfull : part.length = maxSelectedReviewers) :
    (chosenByRules scored options).length = maxSelectedReviewers :=
  le_antisymm (length_chosenByRules_le h) (hfull ▸ hstart.length_le)

/-- A candidate that qualifies is chosen unless the places are taken. -/
theorem chosen_or_full
    (h : Prepared scored options) {c : ScoredCandidate} (hc : c ∈ scored)
    (hqualifies : c.Qualifies options) :
    c ∈ chosenByRules scored options ∨
      (chosenByRules scored options).length = maxSelectedReviewers := by
  by_cases hfirst : c ∈ firstChosen scored options
  · exact .inl ((firstChosen_starts h).subset hfirst)
  by_cases hmandatory : c.mandatory = true
  · have hall : c ∈ mandatoryCandidates scored :=
      mem_mandatoryCandidates.2 ⟨hc, hmandatory⟩
    have hempty : ([] : List ScoredCandidate).length ≤ maxSelectedReviewers :=
      Nat.zero_le _
    rcases mem_fill_or_full maxSelectedReviewers hempty hall
      with hplace | hfull
    · exact (hfirst (List.mem_append_left _ hplace)).elim
    · exact .inr (length_eq_of_start h (selectMandatory_starts h) hfull)
  by_cases hforced : c.overrideSource.isSome = true
  · have hmissing : c ∉ selectMandatory scored :=
      fun hmem => hfirst (List.mem_append_left _ hmem)
    have hall := (mem_forcedCandidates h selectMandatory_subset).2
      ⟨hc, hforced, hmissing⟩
    rcases mem_fill_or_full maxSelectedReviewers length_selectMandatory_le hall
      with hplace | hfull
    · exact (hfirst hplace).elim
    · exact .inr (length_eq_of_start h (firstChosen_starts h) hfull)
  · obtain ⟨hallowed, hscore⟩ :=
      (hqualifies.resolve_left hmandatory).resolve_left hforced
    rw [Bool.not_eq_true] at hmandatory hforced
    have hoptional := (mem_optionalCandidates h (firstChosen_subset h)).2
      ⟨hc, hmandatory, hforced, hallowed, hscore, hfirst⟩
    rw [chosenByRules_eq h]
    exact mem_fill_or_full maxSelectedReviewers length_firstChosen_le
      ((mem_sortByRank _).2 hoptional)

theorem nodup_chosenByRules (h : Prepared scored options) :
    (chosenByRules scored options).Nodup := by
  have hscored : scored.Nodup := List.Nodup.of_map _ h.nodup
  have hmandatory : (selectMandatory scored).Nodup :=
    (mandatoryCandidates_perm.nodup_iff.2 (hscored.filter _)).sublist
      (List.take_sublist _ _)
  have hfirst : (firstChosen scored options).Nodup := by
    apply hmandatory.append ((hscored.filter _).sublist (List.take_sublist _ _))
    intro c hc hforced
    exact ((mem_forcedCandidates h selectMandatory_subset).1
      (List.mem_of_mem_take hforced)).2.2 hc
  rw [chosenByRules_eq h]
  apply hfirst.append
  · exact ((sortByRank_perm _ _).nodup_iff.2
      (nodup_optionalCandidates h.nodup _)).sublist (List.take_sublist _ _)
  · intro c hc hoptional
    have hmem := (mem_sortByRank _).1 (List.mem_of_mem_take hoptional)
    exact ((mem_optionalCandidates h (firstChosen_subset h)).1
      hmem).2.2.2.2.2 hc

/-- Too few reviewers are chosen exactly when too few candidates qualify. -/
theorem length_chosenByRules_lt_iff (h : Prepared scored options) :
    (chosenByRules scored options).length < minSelectedReviewers ↔
      (scored.filter fun c => c.Qualifies options).length <
        minSelectedReviewers := by
  have hsub : chosenByRules scored options ⊆
      scored.filter fun c => c.Qualifies options := by
    intro c hc
    obtain ⟨hscored, hqualifies⟩ := mem_chosenByRules h hc
    simpa using ⟨hscored, hqualifies⟩
  constructor
  · intro hfew
    have hall : (scored.filter fun c => c.Qualifies options) ⊆
        chosenByRules scored options := by
      intro c hc
      simp only [List.mem_filter, decide_eq_true_eq] at hc
      apply (chosen_or_full h hc.1 hc.2).resolve_right
      intro hfull
      rw [hfull] at hfew
      exact absurd hfew (by decide)
    have hle := (List.subperm_of_subset
      ((List.Nodup.of_map _ h.nodup).filter _) hall).length_le
    omega
  · intro hfew
    have hle := (List.subperm_of_subset (nodup_chosenByRules h) hsub).length_le
    omega

/-! ## The fallback -/

/-- A fallback adds the candidate of its identifier and nothing else. -/
theorem mem_addFallback
    (hnodup : (scored.map (·.agentId)).Nodup)
    {selected : List ScoredCandidate} (hsub : selected ⊆ scored)
    (id : String) {c : ScoredCandidate} :
    c ∈ addFallback scored selected id ↔
      c ∈ selected ∨ c ∈ scored ∧ c.agentId = id := by
  rw [addFallback]
  by_cases hhas : hasAgent selected id = true
  · rw [if_pos hhas]
    obtain ⟨d, hd, hid⟩ := hasAgent_eq_true_iff.1 hhas
    refine ⟨.inl, ?_⟩
    rintro (hc | ⟨hc, hcid⟩)
    · exact hc
    · rwa [eq_of_agentId_eq hnodup hc (hsub hd) (hcid.trans hid.symm)]
  · rw [if_neg hhas]
    cases hfind : scored.find? (·.agentId == id) with
    | none =>
        refine ⟨.inl, ?_⟩
        rintro (hc | ⟨hc, hcid⟩)
        · exact hc
        · have hnone := List.find?_eq_none.1 hfind c hc
          simp [hcid] at hnone
    | some d =>
        have hd : d ∈ scored := List.mem_of_find?_eq_some hfind
        have hdid : d.agentId = id := by
          simpa using List.find?_some hfind
        rw [List.mem_append, List.mem_singleton]
        apply or_congr_right
        constructor
        · rintro rfl
          exact ⟨hd, hdid⟩
        · rintro ⟨hc, hcid⟩
          exact eq_of_agentId_eq hnodup hc hd (hcid.trans hdid.symm)

theorem nodup_addFallback
    {selected : List ScoredCandidate} (hselected : selected.Nodup)
    (id : String) : (addFallback scored selected id).Nodup := by
  rw [addFallback]
  by_cases hhas : hasAgent selected id = true
  · rwa [if_pos hhas]
  · rw [if_neg hhas]
    cases hfind : scored.find? (·.agentId == id) with
    | none => exact hselected
    | some d =>
        have hdid : d.agentId = id := by
          simpa using List.find?_some hfind
        apply hselected.append (List.nodup_singleton d)
        rw [List.disjoint_singleton]
        intro hd
        exact hhas (hasAgent_eq_true_iff.2 ⟨d, hd, hdid⟩)

theorem length_addFallback_le
    (scored selected : List ScoredCandidate) (id : String) :
    (addFallback scored selected id).length ≤ selected.length + 1 := by
  rw [addFallback]
  split
  · omega
  · split <;> simp

theorem chosenByRules_subset (h : Prepared scored options) :
    chosenByRules scored options ⊆ scored :=
  fun _ hc => (mem_chosenByRules h hc).1

/-- The reviewers are those that the rules chose and, when these are too few, the
candidates for under-specified proposals. -/
theorem mem_chosenReviewers
    (h : Prepared scored options) {c : ScoredCandidate} :
    c ∈ chosenReviewers scored options ↔
      c ∈ chosenByRules scored options ∨
        (chosenByRules scored options).length < minSelectedReviewers ∧
          c ∈ scored ∧ c.agentId ∈ fallbackIds := by
  rw [chosenReviewers]
  by_cases hfew : (chosenByRules scored options).length < minSelectedReviewers
  · have hfirst := mem_addFallback h.nodup (chosenByRules_subset h)
      "proposal_reviewer_product_owner" (c := c)
    have hsub : addFallback scored (chosenByRules scored options)
        "proposal_reviewer_product_owner" ⊆ scored := by
      intro d hd
      rcases (mem_addFallback h.nodup (chosenByRules_subset h) _).1 hd
        with hd | hd
      · exact chosenByRules_subset h hd
      · exact hd.1
    rw [if_pos hfew, fallbackIds, List.foldl_cons, List.foldl_cons,
      List.foldl_nil, mem_addFallback h.nodup hsub _, hfirst]
    simp [hfew, or_assoc, and_or_left]
  · rw [if_neg hfew]
    simp [hfew]

theorem chosenReviewers_subset (h : Prepared scored options) :
    chosenReviewers scored options ⊆ scored := by
  intro c hc
  rcases (mem_chosenReviewers h).1 hc with hc | ⟨-, hc, -⟩
  · exact chosenByRules_subset h hc
  · exact hc

theorem nodup_chosenReviewers (h : Prepared scored options) :
    (chosenReviewers scored options).Nodup := by
  rw [chosenReviewers]
  split
  · exact nodup_addFallback (nodup_addFallback (nodup_chosenByRules h) _) _
  · exact nodup_chosenByRules h

theorem length_chosenReviewers_le (h : Prepared scored options) :
    (chosenReviewers scored options).length ≤ maxSelectedReviewers := by
  rw [chosenReviewers]
  by_cases hfew : (chosenByRules scored options).length < minSelectedReviewers
  · rw [if_pos hfew, fallbackIds, List.foldl_cons, List.foldl_cons,
      List.foldl_nil]
    have hfirst := length_addFallback_le scored
      (chosenByRules scored options) "proposal_reviewer_product_owner"
    have hsecond := length_addFallback_le scored
      (addFallback scored (chosenByRules scored options)
        "proposal_reviewer_product_owner") "proposal_reviewer_architect"
    rw [minSelectedReviewers] at hfew
    rw [maxSelectedReviewers]
    omega
  · rw [if_neg hfew]
    exact length_chosenByRules_le h

/-- Nothing is added to a full list. -/
theorem chosenReviewers_of_full
    (hfull : (chosenByRules scored options).length = maxSelectedReviewers) :
    chosenReviewers scored options = chosenByRules scored options := by
  rw [chosenReviewers, hfull]
  exact if_neg (by decide)

/-- A mandatory candidate is left out only for five mandatory candidates that
rank before it. -/
theorem overflow_of_not_chosen
    (h : Prepared scored options) {c : ScoredCandidate} (hc : c ∈ scored)
    (hmandatory : c.mandatory = true)
    (hunchosen : c ∉ chosenReviewers scored options) :
    c ∈ mandatoryOverflow scored ∧
      (chosenReviewers scored options).length = maxSelectedReviewers ∧
      ∀ d ∈ chosenReviewers scored options,
        d.mandatory = true ∧ d.rank ≤ c.rank := by
  have hall : c ∈ selectMandatory scored ++ mandatoryOverflow scored := by
    rw [selectMandatory, mandatoryOverflow, List.take_append_drop]
    exact mem_mandatoryCandidates.2 ⟨hc, hmandatory⟩
  have hdropped : c ∈ mandatoryOverflow scored := by
    refine (List.mem_append.1 hall).resolve_left fun hplace => hunchosen ?_
    exact (mem_chosenReviewers h).2
      (.inl ((selectMandatory_starts h).subset hplace))
  have hmany : maxSelectedReviewers < (mandatoryCandidates scored).length := by
    have hpos := List.length_pos_of_mem hdropped
    rw [mandatoryOverflow, List.length_drop] at hpos
    omega
  have htaken : (selectMandatory scored).length = maxSelectedReviewers := by
    rw [selectMandatory, List.length_take]
    omega
  have hfull := length_eq_of_start h (selectMandatory_starts h) htaken
  have hchosen : chosenReviewers scored options = selectMandatory scored := by
    rw [chosenReviewers_of_full hfull]
    exact ((selectMandatory_starts h).eq_of_length
      (htaken.trans hfull.symm)).symm
  have hsorted : mandatoryCandidates scored =
      sortByRank ScoredCandidate.rank (scored.filter (·.mandatory)) := by
    rw [mandatoryCandidates, if_pos]
    rwa [← mandatoryCandidates_perm.length_eq]
  rw [hchosen]
  refine ⟨hdropped, htaken, fun d hd => ⟨(mem_selectMandatory hd).2, ?_⟩⟩
  rw [selectMandatory, hsorted] at hd
  rw [mandatoryOverflow, hsorted] at hdropped
  exact rank_take_le_drop _ hd hdropped

end Rules

/-! ## The plan -/

section Plan

variable (library : RoutingLibrary)
  (bindings : List CompiledDynamicAgentBinding)
  (fingerprint : ProposalFingerprint) (options : ReviewRoutingOptions)
  (inputHashes : InputSnapshotHashes)

/-- The bindings that may be selected. -/
def eligibleBindings : List CompiledDynamicAgentBinding :=
  (partitionCandidates bindings).1

theorem mem_eligibleBindings {b : CompiledDynamicAgentBinding} :
    b ∈ eligibleBindings bindings ↔
      b ∈ bindings ∧ b.enabledForProposalReview = true := by
  simp [eligibleBindings, partitionCandidates]

theorem nodup_eligibleBindings
    {bindings : List CompiledDynamicAgentBinding}
    (hnodup : (bindings.map (·.agentId)).Nodup) :
    ((eligibleBindings bindings).map (·.agentId)).Nodup :=
  hnodup.sublist ((List.filter_sublist).map _)

/-- The final candidate of an eligible binding. -/
def finalCandidate (binding : CompiledDynamicAgentBinding) : ScoredCandidate :=
  let initial := (eligibleBindings bindings).map
    (scoreCandidate (hashString library) fingerprint options)
  let c := scoreCandidate (hashString library) fingerprint options binding
  penalize (rankedBefore initial c) c

variable {bindings}

theorem scoredCandidates_eq
    (hnodup : (bindings.map (·.agentId)).Nodup) :
    scoredCandidates library bindings fingerprint options =
      (eligibleBindings bindings).map
        (finalCandidate library bindings fingerprint options) := by
  have hinitial : (((eligibleBindings bindings).map
      (scoreCandidate (hashString library) fingerprint options)).map
        (·.agentId)).Nodup := by
    rw [List.map_map]
    exact nodup_eligibleBindings hnodup
  rw [scoredCandidates]
  exact (applyOverlapPenalties_eq hinitial).trans List.map_map

theorem mem_scoredCandidates
    (hnodup : (bindings.map (·.agentId)).Nodup) {c : ScoredCandidate} :
    c ∈ scoredCandidates library bindings fingerprint options ↔
      ∃ b ∈ bindings, b.enabledForProposalReview = true ∧
        finalCandidate library bindings fingerprint options b = c := by
  rw [scoredCandidates_eq library fingerprint options hnodup, List.mem_map]
  simp only [mem_eligibleBindings, and_assoc]

omit library fingerprint in
/-- Overrides are valid if they include eligible agents only and exclude none of
these. -/
theorem validateOverrides_eq_ok
    {eligible : List CompiledDynamicAgentBinding} :
    validateOverrides options eligible = .ok () ↔
      (∀ id ∈ options.forceInclude, id ∈ eligible.map (·.agentId)) ∧
        ∀ id ∈ options.forceExclude, id ∉ options.forceInclude := by
  rw [validateOverrides]
  by_cases hunknown : options.forceInclude.any fun id =>
      !(eligible.map (·.agentId)).contains id
  · rw [if_pos hunknown]
    simp only [reduceCtorEq, false_iff, not_and]
    intro hall
    obtain ⟨id, hid, hnot⟩ := List.any_eq_true.1 hunknown
    have hmem := hall id hid
    simp only [Bool.not_eq_true', List.contains_eq_mem,
      decide_eq_false_iff_not] at hnot
    exact (hnot hmem).elim
  · rw [if_neg hunknown]
    have hall : ∀ id ∈ options.forceInclude, id ∈ eligible.map (·.agentId) := by
      intro id hid
      by_contra hnot
      exact hunknown (List.any_eq_true.2 ⟨id, hid, by simpa using hnot⟩)
    rw [and_iff_right hall]
    simp

variable {options}

theorem prepared_scoredCandidates
    (hnodup : (bindings.map (·.agentId)).Nodup)
    (hvalid : validateOverrides options (partitionCandidates bindings).1 =
      .ok ()) :
    Prepared (scoredCandidates library bindings fingerprint options)
      options where
  nodup := by
    rw [scoredCandidates_eq library fingerprint options hnodup, List.map_map]
    exact nodup_eligibleBindings hnodup
  compatible := by
    intro c hc hforced
    obtain ⟨b, -, -, rfl⟩ :=
      (mem_scoredCandidates library fingerprint options hnodup).1 hc
    have hincluded : b.agentId ∈ options.forceInclude := by
      by_contra hnot
      simp [finalCandidate, scoreCandidate, hnot] at hforced
    intro hexcluded
    exact ((validateOverrides_eq_ok options).1 hvalid).2 _ hexcluded hincluded

variable (options)

/-- The identifiers of the selected agents of a plan. -/
def AgentSelectionPlanV1.selectedIds (plan : AgentSelectionPlanV1) :
    List String :=
  plan.selectedAgents.map (·.agentId)

/-- The constraints that a plan has to honour. -/
structure HonoursConstraints
    (bindings : List CompiledDynamicAgentBinding)
    (fingerprint : ProposalFingerprint) (options : ReviewRoutingOptions)
    (plan : AgentSelectionPlanV1) : Prop where
  partition :
    (plan.selectedIds ++ plan.rejectedAlternatives.map (·.agentId) ++
      plan.ineligibleCandidates.map (·.agentId)).Perm
        (bindings.map (·.agentId))
  atMostFive : plan.selectedAgents.length ≤ 5
  mandatory : ∀ b ∈ bindings, b.enabledForProposalReview = true →
    isMandatory fingerprint b.routingMetadata = true →
    b.agentId ∈ plan.selectedIds ∨
      ∃ r ∈ plan.rejectedAlternatives, r.agentId = b.agentId ∧
        r.reason = "mandatory_overflow_pruned" ∧
        plan.selectedAgents.length = 5 ∧
        ∀ s ∈ plan.selectedAgents, s.mandatory = true ∧
          (r.score < s.score ∨ r.score = s.score ∧ s.agentId < r.agentId)
  forceIncluded : ∀ id ∈ options.forceInclude, id ∉ plan.selectedIds →
    plan.selectedAgents.length = 5
  forceExcluded : ∀ b ∈ bindings, b.agentId ∈ options.forceExclude →
    isMandatory fingerprint b.routingMetadata = false →
    b.agentId ∉ plan.selectedIds

/-- A rule other than the fallback selects the agent of a binding if there is
room. -/
def Qualifies (binding : CompiledDynamicAgentBinding) : Prop :=
  isMandatory fingerprint binding.routingMetadata = true ∨
    binding.agentId ∈ options.forceInclude ∨
    (binding.agentId ∉ options.forceExclude ∧
      scoreThreshold ≤
        (scoreTerms fingerprint options binding).totalWithWeights
          binding.routingMetadata.scoreWeights)

instance (binding : CompiledDynamicAgentBinding) :
    Decidable (Qualifies fingerprint options binding) :=
  inferInstanceAs (Decidable (_ ∨ _ ∨ _))

/-- At least two eligible agents qualify, or no eligible reviewer of the fallback
is both optional and excluded. -/
def FallbackAllowed (bindings : List CompiledDynamicAgentBinding) : Prop :=
  ((eligibleBindings bindings).filter fun b =>
      Qualifies fingerprint options b).length < 2 →
    ∀ b ∈ eligibleBindings bindings, b.agentId ∈ fallbackIds →
      isMandatory fingerprint b.routingMetadata = false →
      b.agentId ∉ options.forceExclude

variable {options}

theorem selectedAgents_perm :
    (selectionPlan library bindings fingerprint options
      inputHashes).selectedAgents.Perm
        ((chosenReviewers (scoredCandidates library bindings fingerprint options)
          options).map (·.toSelectedAgent)) :=
  (sortByRank_perm _ _).map _

theorem selectedIds_perm :
    (selectionPlan library bindings fingerprint options
      inputHashes).selectedIds.Perm
        ((chosenReviewers (scoredCandidates library bindings fingerprint options)
          options).map (·.agentId)) := by
  rw [AgentSelectionPlanV1.selectedIds]
  apply ((selectedAgents_perm library fingerprint inputHashes).map _).trans
  rw [List.map_map]
  rfl

theorem length_selectedAgents :
    (selectionPlan library bindings fingerprint options
      inputHashes).selectedAgents.length =
        (chosenReviewers (scoredCandidates library bindings fingerprint options)
          options).length := by
  rw [(selectedAgents_perm library fingerprint inputHashes).length_eq,
    List.length_map]

/-- A candidate qualifies if its binding does. -/
theorem qualifies_finalCandidate
    (bindings : List CompiledDynamicAgentBinding)
    (options : ReviewRoutingOptions) (b : CompiledDynamicAgentBinding) :
    (finalCandidate library bindings fingerprint options b).Qualifies options ↔
      Qualifies fingerprint options b := by
  have hforced : (finalCandidate library bindings fingerprint options
      b).overrideSource.isSome = true ↔ b.agentId ∈ options.forceInclude := by
    by_cases h : b.agentId ∈ options.forceInclude <;>
      simp [finalCandidate, scoreCandidate, h]
  exact or_congr_right (or_congr_left hforced)

section Valid

variable (hnodup : (bindings.map (·.agentId)).Nodup)
  (hvalid : validateOverrides options (partitionCandidates bindings).1 = .ok ())

include hnodup hvalid

/-- An agent is selected if its candidate was chosen. -/
theorem mem_selectedIds {b : CompiledDynamicAgentBinding}
    (hb : b ∈ bindings) (henabled : b.enabledForProposalReview = true) :
    b.agentId ∈ (selectionPlan library bindings fingerprint options
        inputHashes).selectedIds ↔
      finalCandidate library bindings fingerprint options b ∈
        chosenReviewers (scoredCandidates library bindings fingerprint options)
          options := by
  have hprepared := prepared_scoredCandidates library fingerprint hnodup hvalid
  have hscored := (mem_scoredCandidates library fingerprint options hnodup).2
    ⟨b, hb, henabled, rfl⟩
  rw [(selectedIds_perm library fingerprint inputHashes).mem_iff, List.mem_map]
  constructor
  · rintro ⟨c, hc, hid⟩
    rwa [← eq_of_agentId_eq hprepared.nodup
      (chosenReviewers_subset hprepared hc) hscored hid]
  · intro h
    exact ⟨_, h, rfl⟩

/-- Every binding is selected, rejected or ineligible, and only one of these. -/
theorem selectionPlan_partition :
    let plan := selectionPlan library bindings fingerprint options inputHashes
    (plan.selectedIds ++ plan.rejectedAlternatives.map (·.agentId) ++
      plan.ineligibleCandidates.map (·.agentId)).Perm
        (bindings.map (·.agentId)) := by
  intro plan
  have hprepared := prepared_scoredCandidates library fingerprint hnodup hvalid
  set scored := scoredCandidates library bindings fingerprint options
    with hscored
  have hselected : plan.selectedIds.Perm
      ((scored.filter fun c => plan.selectedIds.contains c.agentId).map
        (·.agentId)) := by
    apply (selectedIds_perm library fingerprint inputHashes).trans
    apply List.Perm.map
    rw [List.perm_ext_iff_of_nodup (nodup_chosenReviewers hprepared)
      ((List.Nodup.of_map _ hprepared.nodup).filter _)]
    intro c
    rw [List.mem_filter, List.contains_iff_mem,
      (selectedIds_perm library fingerprint inputHashes).mem_iff, List.mem_map]
    constructor
    · intro hc
      exact ⟨chosenReviewers_subset hprepared hc, c, hc, rfl⟩
    · rintro ⟨hc, d, hd, hid⟩
      rwa [← eq_of_agentId_eq hprepared.nodup
        (chosenReviewers_subset hprepared hd) hc hid]
  have hrejected : plan.rejectedAlternatives.map (·.agentId) =
      (scored.filter fun c => !plan.selectedIds.contains c.agentId).map
        (·.agentId) := by
    simp only [plan, selectionPlan, rejectedAlternatives, List.map_map]
    rfl
  have hids : scored.map (·.agentId) =
      (eligibleBindings bindings).map (·.agentId) := by
    rw [hscored, scoredCandidates_eq library fingerprint options hnodup,
      List.map_map]
    rfl
  have hineligible : plan.ineligibleCandidates.map (·.agentId) =
      (bindings.filter (!·.enabledForProposalReview)).map (·.agentId) := by
    simp only [plan, selectionPlan, partitionCandidates, List.map_map]
    rfl
  have hscoredIds : (plan.selectedIds ++
      plan.rejectedAlternatives.map (·.agentId)).Perm
        ((eligibleBindings bindings).map (·.agentId)) := by
    rw [hrejected, ← hids]
    apply (hselected.append_right _).trans
    rw [← List.map_append]
    exact (List.filter_append_perm _ scored).map _
  apply (hscoredIds.append_right _).trans
  rw [hineligible, ← List.map_append]
  exact (List.filter_append_perm _ bindings).map _

/-- A mandatory agent is selected or pruned by agents that rank before it. -/
theorem selectionPlan_mandatory {b : CompiledDynamicAgentBinding}
    (hb : b ∈ bindings) (henabled : b.enabledForProposalReview = true)
    (hmandatory : isMandatory fingerprint b.routingMetadata = true) :
    let plan := selectionPlan library bindings fingerprint options inputHashes
    b.agentId ∈ plan.selectedIds ∨
      ∃ r ∈ plan.rejectedAlternatives, r.agentId = b.agentId ∧
        r.reason = "mandatory_overflow_pruned" ∧
        plan.selectedAgents.length = 5 ∧
        ∀ s ∈ plan.selectedAgents, s.mandatory = true ∧
          (r.score < s.score ∨ r.score = s.score ∧ s.agentId < r.agentId) := by
  intro plan
  by_cases hselected : b.agentId ∈ plan.selectedIds
  · exact .inl hselected
  right
  have hprepared := prepared_scoredCandidates library fingerprint hnodup hvalid
  set scored := scoredCandidates library bindings fingerprint options
    with hscoredDef
  set c := finalCandidate library bindings fingerprint options b with hcDef
  have hc : c ∈ scored :=
    (mem_scoredCandidates library fingerprint options hnodup).2
      ⟨b, hb, henabled, rfl⟩
  have hunchosen : c ∉ chosenReviewers scored options := fun h =>
    hselected ((mem_selectedIds library fingerprint inputHashes hnodup hvalid hb
      henabled).2 h)
  obtain ⟨hpruned, hfull, hranked⟩ := overflow_of_not_chosen hprepared hc
    hmandatory hunchosen
  have hprunedIds : c.agentId ∈ (mandatoryOverflow scored).map (·.agentId) :=
    List.mem_map_of_mem hpruned
  refine ⟨{ agentId := c.agentId, routingId := c.routingId
            score := c.totalScore, scoreTerms := c.terms
            reason := rejectionReason plan.selectedIds
              ((mandatoryOverflow scored).map (·.agentId)) c },
    ?_, rfl, ?_, ?_, ?_⟩
  · apply List.mem_map.2
    refine ⟨c, List.mem_filter.2 ⟨hc, ?_⟩, rfl⟩
    rw [Bool.not_eq_true', ← Bool.not_eq_true, List.contains_iff_mem]
    exact hselected
  · rw [rejectionReason, if_pos (List.contains_iff_mem.2 hprunedIds)]
  · rw [length_selectedAgents]
    exact hfull
  · intro s hs
    obtain ⟨d, hd, rfl⟩ := List.mem_map.1
      ((selectedAgents_perm library fingerprint inputHashes).mem_iff.1 hs)
    obtain ⟨hdmandatory, hle⟩ := hranked d hd
    refine ⟨hdmandatory, ?_⟩
    rcases (ScoredCandidate.rank_le_iff d c).1 hle with hlt | ⟨heq, hid⟩
    · exact .inl hlt
    · refine .inr ⟨heq.symm, lt_of_le_of_ne hid fun hsame => ?_⟩
      apply hunchosen
      rwa [← eq_of_agentId_eq hprepared.nodup
        (chosenReviewers_subset hprepared hd) hc hsame]

theorem selectionPlan_forceIncluded {id : String}
    (hid : id ∈ options.forceInclude)
    (hunselected : id ∉ (selectionPlan library bindings fingerprint options
      inputHashes).selectedIds) :
    (selectionPlan library bindings fingerprint options
      inputHashes).selectedAgents.length = 5 := by
  have hprepared := prepared_scoredCandidates library fingerprint hnodup hvalid
  obtain ⟨b, hb, rfl⟩ := List.mem_map.1
    (((validateOverrides_eq_ok options).1 hvalid).1 id hid)
  obtain ⟨hmem, henabled⟩ := (mem_eligibleBindings bindings).1 hb
  have hc := (mem_scoredCandidates library fingerprint options hnodup).2
    ⟨b, hmem, henabled, rfl⟩
  have hqualifies := (qualifies_finalCandidate library fingerprint bindings
    options b).2 (.inr (.inl hid))
  rw [length_selectedAgents]
  rcases chosen_or_full hprepared hc hqualifies with hchosen | hfull
  · have hselected := (mem_selectedIds library fingerprint inputHashes hnodup
      hvalid hmem henabled).2 ((mem_chosenReviewers hprepared).2 (.inl hchosen))
    exact (hunselected hselected).elim
  · rw [chosenReviewers_of_full hfull]
    exact hfull

/-- The fallback applies when fewer than two eligible agents qualify. -/
theorem fallback_applies_iff :
    (chosenByRules (scoredCandidates library bindings fingerprint options)
        options).length < minSelectedReviewers ↔
      ((eligibleBindings bindings).filter fun b =>
        Qualifies fingerprint options b).length < 2 := by
  have hprepared := prepared_scoredCandidates library fingerprint hnodup hvalid
  have hsame : (fun c : ScoredCandidate => decide (c.Qualifies options)) ∘
      finalCandidate library bindings fingerprint options =
        fun b => decide (Qualifies fingerprint options b) := by
    funext b
    exact decide_eq_decide.2
      (qualifies_finalCandidate library fingerprint bindings options b)
  rw [length_chosenByRules_lt_iff hprepared,
    scoredCandidates_eq library fingerprint options hnodup, List.filter_map,
    List.length_map, hsame]
  rfl

/-- Only eligible agents are selected. -/
theorem enabled_of_mem_selectedIds {b : CompiledDynamicAgentBinding}
    (hb : b ∈ bindings)
    (hselected : b.agentId ∈ (selectionPlan library bindings fingerprint options
      inputHashes).selectedIds) :
    b.enabledForProposalReview = true := by
  have hprepared := prepared_scoredCandidates library fingerprint hnodup hvalid
  rw [(selectedIds_perm library fingerprint inputHashes).mem_iff,
    List.mem_map] at hselected
  obtain ⟨c, hc, hid⟩ := hselected
  obtain ⟨d, hd, henabled, rfl⟩ :=
    (mem_scoredCandidates library fingerprint options hnodup).1
      (chosenReviewers_subset hprepared hc)
  have hsame : d = b := List.inj_on_of_nodup_map hnodup hd hb hid
  rwa [hsame] at henabled

/-- An excluded optional agent is selected by the fallback alone. -/
theorem mem_selectedIds_of_excluded {b : CompiledDynamicAgentBinding}
    (hb : b ∈ bindings) (henabled : b.enabledForProposalReview = true)
    (hexcluded : b.agentId ∈ options.forceExclude)
    (hoptional : isMandatory fingerprint b.routingMetadata = false) :
    b.agentId ∈ (selectionPlan library bindings fingerprint options
        inputHashes).selectedIds ↔
      ((eligibleBindings bindings).filter fun b =>
        Qualifies fingerprint options b).length < 2 ∧
          b.agentId ∈ fallbackIds := by
  have hprepared := prepared_scoredCandidates library fingerprint hnodup hvalid
  have hunqualified : ¬Qualifies fingerprint options b := by
    rintro (hmandatory | hforced | ⟨hallowed, -⟩)
    · rw [hmandatory] at hoptional
      exact absurd hoptional (by decide)
    · exact ((validateOverrides_eq_ok options).1 hvalid).2 _ hexcluded hforced
    · exact hallowed hexcluded
  rw [mem_selectedIds library fingerprint inputHashes hnodup hvalid hb henabled,
    mem_chosenReviewers hprepared,
    fallback_applies_iff library fingerprint hnodup hvalid]
  constructor
  · rintro (hchosen | ⟨hfew, -, hid⟩)
    · have hqualifies := (mem_chosenByRules hprepared hchosen).2
      exact (hunqualified ((qualifies_finalCandidate library fingerprint bindings
        options b).1 hqualifies)).elim
    · exact ⟨hfew, hid⟩
  · rintro ⟨hfew, hid⟩
    exact .inr ⟨hfew, (mem_scoredCandidates library fingerprint options
      hnodup).2 ⟨b, hb, henabled, rfl⟩, hid⟩

end Valid

omit library in
/-- A routing succeeds with its plan if the overrides are valid. -/
theorem routeProposalReviewers_eq_success
    {library : RoutingLibrary} {call : RoutingCall}
    {plan : AgentSelectionPlanV1} {receipt : RoutingReceipt}
    {execution : SystemExecution}
    (h : routeProposalReviewers library call bindings fingerprint options
      inputHashes = .success plan receipt execution) :
    validateOverrides options (partitionCandidates bindings).1 = .ok () ∧
      plan = selectionPlan library bindings fingerprint options inputHashes := by
  rw [routeProposalReviewers] at h
  cases hvalid : validateOverrides options (partitionCandidates bindings).1 with
  | error kind =>
      rw [hvalid] at h
      exact RoutingOutcome.noConfusion h
  | ok =>
      rw [hvalid] at h
      injection h with hplan
      exact ⟨rfl, hplan.symm⟩

end Plan

/-- A successful routing honours the constraints exactly when the fallback does
not bring back an excluded reviewer. -/
theorem routing_honours_constraints_iff
    (library : RoutingLibrary) (call : RoutingCall)
    (bindings : List CompiledDynamicAgentBinding)
    (fingerprint : ProposalFingerprint) (options : ReviewRoutingOptions)
    (inputHashes : InputSnapshotHashes)
    (hnodup : (bindings.map (·.agentId)).Nodup)
    (plan : AgentSelectionPlanV1) (receipt : RoutingReceipt)
    (execution : SystemExecution)
    (hroute : routeProposalReviewers library call bindings fingerprint options
      inputHashes = .success plan receipt execution) :
    HonoursConstraints bindings fingerprint options plan ↔
      FallbackAllowed fingerprint options bindings := by
  obtain ⟨hvalid, rfl⟩ := routeProposalReviewers_eq_success _ _ hroute
  constructor
  · intro hhonours hfew b heligible hid hoptional hexcluded
    obtain ⟨hb, henabled⟩ := (mem_eligibleBindings bindings).1 heligible
    apply hhonours.forceExcluded b hb hexcluded hoptional
    exact (mem_selectedIds_of_excluded library fingerprint inputHashes hnodup
      hvalid hb henabled hexcluded hoptional).2 ⟨hfew, hid⟩
  · intro hallowed
    refine ⟨?_, ?_, ?_, ?_, ?_⟩
    · exact selectionPlan_partition library fingerprint inputHashes hnodup hvalid
    · rw [length_selectedAgents]
      exact length_chosenReviewers_le
        (prepared_scoredCandidates library fingerprint hnodup hvalid)
    · intro b hb henabled hmandatory
      exact selectionPlan_mandatory library fingerprint inputHashes hnodup hvalid
        hb henabled hmandatory
    · intro id hid hunselected
      exact selectionPlan_forceIncluded library fingerprint inputHashes hnodup
        hvalid hid hunselected
    · intro b hb hexcluded hoptional hselected
      have henabled := enabled_of_mem_selectedIds library fingerprint
        inputHashes hnodup hvalid hb hselected
      obtain ⟨hfew, hid⟩ := (mem_selectedIds_of_excluded library fingerprint
        inputHashes hnodup hvalid hb henabled hexcluded hoptional).1 hselected
      exact hallowed hfew b
        ((mem_eligibleBindings bindings).2 ⟨hb, henabled⟩) hid hoptional
        hexcluded

/-! ## An excluded architect -/

/-- A binding of an agent without tags. -/
def plainBinding (agentId : String) : CompiledDynamicAgentBinding where
  bindingId := agentId
  agentId := agentId
  resolvedAgentSnapshotJson := ""
  outputContracts := []
  permissionHash := ""
  worktreeHash := ""
  mcpProfileHash := ""
  skillHash := ""
  routingMetadataHash := ""
  enabledForProposalReview := true
  rolloutWave := ""
  catalogSnapshotHash := ""
  routingMetadata :=
    { routingId := agentId, family := "", capabilities := [], stackTags := []
      surfaces := [], risks := [], enabledForProposalReview := true
      rolloutWave := "" }

/-- The two reviewers of an under-specified proposal. -/
def fallbackBindings : List CompiledDynamicAgentBinding :=
  fallbackIds.map plainBinding

def blankLibrary : RoutingLibrary where
  sha256 := fun _ => ""
  jsonText := fun _ => ""
  rfc3339 := fun _ => ""

def blankCall : RoutingCall where
  runId := ""
  stageId := ""
  attemptId := 1
  systemExecutionId := ""
  receiptId := ""
  now := 0

/-- The plan of a routing, if it succeeds. -/
def RoutingOutcome.plan? : RoutingOutcome → Option AgentSelectionPlanV1
  | .success plan _ _ => some plan
  | .failure _ _ _ _ => none

theorem routing_honours_constraints_fallback :
    HonoursConstraints fallbackBindings {} {}
      (selectionPlan blankLibrary fallbackBindings {} {} {}) :=
  (routing_honours_constraints_iff blankLibrary blankCall fallbackBindings {} {}
    {} (by decide) _ _ _ rfl).2 (by
      intro _ b _ _ _
      exact List.not_mem_nil)

/-- The fallback selects an architect whom the operator excludes and whom no rule
makes mandatory. -/
theorem excluded_architect_selected :
    let options : ReviewRoutingOptions :=
      { forceExclude := ["proposal_reviewer_architect"] }
    let plan := selectionPlan blankLibrary fallbackBindings {} options {}
    (routeProposalReviewers blankLibrary blankCall fallbackBindings {} options
        {}).plan? = some plan ∧
      "proposal_reviewer_architect" ∈ plan.selectedIds ∧
      ¬HonoursConstraints fallbackBindings {} options plan := by
  intro options plan
  have hselected : "proposal_reviewer_architect" ∈ plan.selectedIds := by
    decide +kernel
  refine ⟨rfl, hselected, fun hhonours => ?_⟩
  exact hhonours.forceExcluded (plainBinding "proposal_reviewer_architect")
    (by decide) (by decide) rfl hselected

end ChainworksForge.Routing
