import ChainworksForge.Routing.Constraints

/-!
# The order of the candidates

The scores of the candidates do not depend on the order of the bindings.  The
selection depends on it only where the agents that an operator includes compete
for too few places: they are taken in the order of the bindings, while all other
choices go by rank.
-/

namespace ChainworksForge.Routing

open ChainworksForge.Support ChainworksForge.Workflow

/-- Two outcomes select the same agents with the same scores and reject the same
agents for the same reasons. -/
def SameRouting : RoutingOutcome → RoutingOutcome → Prop
  | .success plan _ _, .success other _ _ =>
      plan.selectedAgents = other.selectedAgents ∧
        plan.planHash = other.planHash ∧
        plan.rejectedAlternatives.Perm other.rejectedAlternatives
  | .failure kind _ _ _, .failure other _ _ _ => kind = other
  | _, _ => False

/-- The included candidates that are not mandatory have a place, or mandatory
candidates take all places. -/
def CandidatesFit (scored : List ScoredCandidate) : Prop :=
  maxSelectedReviewers ≤ (scored.filter (·.mandatory)).length ∨
    (scored.filter (·.mandatory)).length +
        (scored.filter fun c =>
          !c.mandatory && c.overrideSource.isSome).length ≤
      maxSelectedReviewers

section Candidates

variable {scored other : List ScoredCandidate} {options : ReviewRoutingOptions}

theorem Prepared.of_perm
    (h : Prepared scored options) (hperm : scored.Perm other) :
    Prepared other options where
  nodup := (hperm.map _).nodup_iff.1 h.nodup
  compatible := fun c hc => h.compatible c (hperm.mem_iff.2 hc)

theorem rank_injOn (hnodup : (scored.map (·.agentId)).Nodup) :
    ∀ a ∈ scored, ∀ b ∈ scored, a.rank = b.rank → a = b :=
  fun _ ha _ hb h => eq_of_agentId_eq hnodup ha hb
    (ScoredCandidate.agentId_eq_of_rank_eq h)

/-- Ranking a part of the candidates does not depend on their order. -/
theorem sortByRank_filter_eq
    (h : Prepared scored options) (hperm : scored.Perm other)
    (p : ScoredCandidate → Bool) :
    sortByRank ScoredCandidate.rank (scored.filter p) =
      sortByRank ScoredCandidate.rank (other.filter p) := by
  apply sortByRank_eq_of_perm _ (hperm.filter p)
  intro a ha b hb
  exact rank_injOn h.nodup a (List.mem_of_mem_filter ha) b
    (List.mem_of_mem_filter hb)

theorem rankedBefore_eq
    (hnodup : (scored.map (·.agentId)).Nodup) (hperm : scored.Perm other)
    (c : ScoredCandidate) : rankedBefore scored c = rankedBefore other c := by
  rw [rankedBefore, rankedBefore,
    sortByRank_eq_of_perm _ hperm (rank_injOn hnodup)]

theorem mandatoryCandidates_eq_or
    (h : Prepared scored options) (hperm : scored.Perm other) :
    mandatoryCandidates scored = mandatoryCandidates other ∨
      (mandatoryCandidates scored).length ≤ maxSelectedReviewers ∧
        (mandatoryCandidates scored).Perm (mandatoryCandidates other) := by
  have hlength : (scored.filter (·.mandatory)).length =
      (other.filter (·.mandatory)).length := (hperm.filter _).length_eq
  by_cases hmany :
      maxSelectedReviewers < (scored.filter (·.mandatory)).length
  · left
    rw [mandatoryCandidates, mandatoryCandidates, if_pos hmany,
      if_pos (hlength ▸ hmany), sortByRank_filter_eq h hperm]
  · right
    rw [mandatoryCandidates, mandatoryCandidates, if_neg hmany,
      if_neg (hlength ▸ hmany)]
    exact ⟨not_lt.1 hmany, hperm.filter _⟩

theorem selectMandatory_perm
    (h : Prepared scored options) (hperm : scored.Perm other) :
    (selectMandatory scored).Perm (selectMandatory other) := by
  rw [selectMandatory, selectMandatory]
  rcases mandatoryCandidates_eq_or h hperm with heq | ⟨hfew, hsame⟩
  · rw [heq]
  · rw [List.take_of_length_le hfew,
      List.take_of_length_le (hsame.length_eq ▸ hfew)]
    exact hsame

theorem mandatoryOverflow_eq
    (h : Prepared scored options) (hperm : scored.Perm other) :
    mandatoryOverflow scored = mandatoryOverflow other := by
  rw [mandatoryOverflow, mandatoryOverflow]
  rcases mandatoryCandidates_eq_or h hperm with heq | ⟨hfew, hsame⟩
  · rw [heq]
  · rw [List.drop_of_length_le hfew,
      List.drop_of_length_le (hsame.length_eq ▸ hfew)]

theorem length_selectMandatory :
    (selectMandatory scored).length =
      min maxSelectedReviewers (scored.filter (·.mandatory)).length := by
  rw [selectMandatory, List.length_take, mandatoryCandidates_perm.length_eq]

/-- With few mandatory candidates, those that an override adds are the others
that it includes. -/
theorem forcedCandidates_eq
    (h : Prepared scored options)
    (hfew : (scored.filter (·.mandatory)).length ≤ maxSelectedReviewers) :
    forcedCandidates scored options (selectMandatory scored) =
      scored.filter fun c => !c.mandatory && c.overrideSource.isSome := by
  apply List.filter_congr
  intro c hc
  have hall : c ∈ selectMandatory scored ↔ c.mandatory = true := by
    rw [selectMandatory, List.take_of_length_le
      (mandatoryCandidates_perm.length_eq ▸ hfew), mem_mandatoryCandidates]
    exact and_iff_right hc
  have hhas : hasAgent (selectMandatory scored) c.agentId = c.mandatory := by
    rw [Bool.eq_iff_iff, hasAgent_iff_mem h.nodup selectMandatory_subset hc]
    exact hall
  by_cases hforced : c.overrideSource.isSome = true
  · have hallowed := h.compatible c hc hforced
    simp [hhas, hforced, hallowed]
  · rw [Bool.not_eq_true] at hforced
    simp [hforced]

/-- When the included candidates fit, the order does not decide which of them are
chosen. -/
theorem firstChosen_perm
    (h : Prepared scored options) (hperm : scored.Perm other)
    (hfit : CandidatesFit scored) :
    (firstChosen scored options).Perm (firstChosen other options) := by
  have hother := h.of_perm hperm
  have hmandatory := (hperm.filter (·.mandatory)).length_eq
  have hlength := (selectMandatory_perm h hperm).length_eq
  rw [firstChosen, firstChosen, ← hlength]
  by_cases hfull :
      maxSelectedReviewers ≤ (scored.filter (·.mandatory)).length
  · have hnone : maxSelectedReviewers - (selectMandatory scored).length = 0 := by
      rw [length_selectMandatory]
      omega
    rw [hnone, List.take_zero, List.take_zero, List.append_nil,
      List.append_nil]
    exact selectMandatory_perm h hperm
  · have hroom := hfit.resolve_left hfull
    have hforced := (hperm.filter fun c =>
      !c.mandatory && c.overrideSource.isSome)
    have hlast : (scored.filter fun c =>
        !c.mandatory && c.overrideSource.isSome).length ≤
          maxSelectedReviewers - (selectMandatory scored).length := by
      rw [length_selectMandatory]
      omega
    rw [forcedCandidates_eq h (by omega), forcedCandidates_eq hother (by omega),
      List.take_of_length_le hlast,
      List.take_of_length_le (hforced.length_eq ▸ hlast)]
    exact (selectMandatory_perm h hperm).append hforced

theorem chosenByRules_perm
    (h : Prepared scored options) (hperm : scored.Perm other)
    (hfit : CandidatesFit scored) :
    (chosenByRules scored options).Perm (chosenByRules other options) := by
  have hother := h.of_perm hperm
  have hfirst := firstChosen_perm h hperm hfit
  have hoptional : (optionalCandidates scored options
      (firstChosen scored options)).Perm
        (optionalCandidates other options (firstChosen other options)) := by
    rw [List.perm_ext_iff_of_nodup (nodup_optionalCandidates h.nodup _)
      (nodup_optionalCandidates hother.nodup _)]
    intro c
    rw [mem_optionalCandidates h (firstChosen_subset h),
      mem_optionalCandidates hother (firstChosen_subset hother),
      hperm.mem_iff, hfirst.mem_iff]
  rw [chosenByRules_eq h, chosenByRules_eq hother, hfirst.length_eq,
    sortByRank_eq_of_perm _ hoptional]
  · exact hfirst.append_right _
  · intro a ha b hb
    exact rank_injOn h.nodup a (List.mem_of_mem_filter ha) b
      (List.mem_of_mem_filter hb)

/-- When the included candidates fit, the result does not depend on the order. -/
theorem selectReviewers_eq
    (h : Prepared scored options) (hperm : scored.Perm other)
    (hfit : CandidatesFit scored) :
    selectReviewers scored options = selectReviewers other options := by
  have hother := h.of_perm hperm
  have hrules := chosenByRules_perm h hperm hfit
  have hchosen :
      (chosenReviewers scored options).Perm (chosenReviewers other options) := by
    rw [List.perm_ext_iff_of_nodup (nodup_chosenReviewers h)
      (nodup_chosenReviewers hother)]
    intro c
    rw [mem_chosenReviewers h, mem_chosenReviewers hother, hrules.mem_iff,
      hrules.length_eq, hperm.mem_iff]
  have hsorted : sortByRank ScoredCandidate.finalRank
      (chosenReviewers scored options) =
        sortByRank ScoredCandidate.finalRank (chosenReviewers other options) := by
    apply sortByRank_eq_of_perm _ hchosen
    intro a ha b hb hrank
    exact eq_of_agentId_eq h.nodup (chosenReviewers_subset h ha)
      (chosenReviewers_subset h hb)
      (ScoredCandidate.agentId_eq_of_finalRank_eq hrank)
  rw [selectReviewers, selectReviewers, hsorted, hrules.length_eq,
    mandatoryOverflow_eq h hperm]

/-- The first of the candidates is chosen if an override includes it and there is
a place besides the mandatory candidates. -/
theorem chosen_of_first
    {c : ScoredCandidate} (h : Prepared (c :: scored) options)
    (hforced : c.overrideSource.isSome = true)
    (hroom : ((c :: scored).filter (·.mandatory)).length <
      maxSelectedReviewers) :
    c ∈ chosenReviewers (c :: scored) options := by
  apply (mem_chosenReviewers h).2
  left
  apply (firstChosen_starts h).subset
  by_cases hmandatory : c ∈ selectMandatory (c :: scored)
  · exact List.mem_append_left _ hmandatory
  · apply List.mem_append_right
    have hmem := (mem_forcedCandidates h selectMandatory_subset).2
      ⟨.head _, hforced, hmandatory⟩
    have hadmitted := (List.mem_filter.1 hmem).2
    have hplaces : maxSelectedReviewers -
        (selectMandatory (c :: scored)).length =
          maxSelectedReviewers - (selectMandatory (c :: scored)).length - 1 +
            1 := by
      rw [length_selectMandatory]
      omega
    rw [forcedCandidates, List.filter_cons, if_pos hadmitted, hplaces,
      List.take_succ_cons]
    exact .head _

/-- When the included candidates do not fit, one of them is not chosen. -/
theorem exists_unchosen
    (h : Prepared scored options) (hfit : ¬CandidatesFit scored) :
    ∃ c ∈ scored, c.overrideSource.isSome = true ∧
      c ∉ chosenReviewers scored options := by
  by_contra hall
  push Not at hall
  apply hfit
  right
  have hscored : scored.Nodup := List.Nodup.of_map _ h.nodup
  have hfew : (scored.filter (·.mandatory)).length < maxSelectedReviewers :=
    not_le.1 fun hle => hfit (.inl hle)
  rw [← List.length_append]
  apply le_trans _ (length_chosenReviewers_le h)
  apply List.Subperm.length_le
  apply List.subperm_of_subset
  · apply (hscored.filter _).append (hscored.filter _)
    intro c hmandatory hforced
    have hfirst := (List.mem_filter.1 hmandatory).2
    have hsecond := (List.mem_filter.1 hforced).2
    simp [hfirst] at hsecond
  · intro c hc
    rcases List.mem_append.1 hc with hc | hc
    · apply (mem_chosenReviewers h).2
      left
      apply (selectMandatory_starts h).subset
      rw [selectMandatory, List.take_of_length_le
        (mandatoryCandidates_perm.length_eq ▸ hfew.le)]
      exact mandatoryCandidates_perm.mem_iff.2 hc
    · obtain ⟨hmem, hforced⟩ := List.mem_filter.1 hc
      rw [Bool.and_eq_true] at hforced
      exact hall c hmem hforced.2

end Candidates

/-! ## Permutations of the bindings -/

section Bindings

variable (library : RoutingLibrary)
  {bindings others : List CompiledDynamicAgentBinding}
  (fingerprint : ProposalFingerprint) (options : ReviewRoutingOptions)

theorem eligibleBindings_perm (hperm : bindings.Perm others) :
    (eligibleBindings bindings).Perm (eligibleBindings others) :=
  hperm.filter _

/-- The final candidate of a binding does not depend on the order. -/
theorem finalCandidate_eq
    (hnodup : (bindings.map (·.agentId)).Nodup) (hperm : bindings.Perm others) :
    finalCandidate library bindings fingerprint options =
      finalCandidate library others fingerprint options := by
  funext b
  have hinitial : (((eligibleBindings bindings).map
      (scoreCandidate (hashString library) fingerprint options)).map
        (·.agentId)).Nodup := by
    rw [List.map_map]
    exact nodup_eligibleBindings hnodup
  rw [finalCandidate, finalCandidate, rankedBefore_eq hinitial
    ((eligibleBindings_perm hperm).map _)]

theorem scoredCandidates_perm
    (hnodup : (bindings.map (·.agentId)).Nodup) (hperm : bindings.Perm others) :
    (scoredCandidates library bindings fingerprint options).Perm
      (scoredCandidates library others fingerprint options) := by
  rw [scoredCandidates_eq library fingerprint options hnodup,
    scoredCandidates_eq library fingerprint options
      ((hperm.map _).nodup_iff.1 hnodup),
    finalCandidate_eq library fingerprint options hnodup hperm]
  exact (eligibleBindings_perm hperm).map _

theorem validateOverrides_perm (hperm : bindings.Perm others) :
    validateOverrides options (partitionCandidates bindings).1 =
      validateOverrides options (partitionCandidates others).1 := by
  have hids : ∀ id, ((partitionCandidates bindings).1.map
      (·.agentId)).contains id =
        ((partitionCandidates others).1.map (·.agentId)).contains id := by
    intro id
    rw [Bool.eq_iff_iff, List.contains_iff_mem, List.contains_iff_mem]
    exact ((eligibleBindings_perm hperm).map _).mem_iff
  simp only [validateOverrides, hids]

/-- The agents that an operator includes have a place besides the mandatory ones,
or mandatory agents take all places. -/
def ForceIncludedFit (bindings : List CompiledDynamicAgentBinding) : Prop :=
  let mandatory := (eligibleBindings bindings).filter fun b =>
    isMandatory fingerprint b.routingMetadata
  let included := (eligibleBindings bindings).filter fun b =>
    !isMandatory fingerprint b.routingMetadata &&
      options.forceInclude.contains b.agentId
  5 ≤ mandatory.length ∨ mandatory.length + included.length ≤ 5

theorem candidatesFit_iff (hnodup : (bindings.map (·.agentId)).Nodup) :
    CandidatesFit (scoredCandidates library bindings fingerprint options) ↔
      ForceIncludedFit fingerprint options bindings := by
  have hforced : ∀ b, (finalCandidate library bindings fingerprint options
      b).overrideSource.isSome = options.forceInclude.contains b.agentId := by
    intro b
    by_cases h : b.agentId ∈ options.forceInclude <;>
      simp [finalCandidate, scoreCandidate, h]
  rw [scoredCandidates_eq library fingerprint options hnodup, CandidatesFit,
    List.filter_map, List.filter_map, List.length_map, List.length_map,
    ForceIncludedFit]
  simp only [Function.comp_def, hforced]
  rfl

variable (call : RoutingCall) (inputHashes : InputSnapshotHashes)

theorem routeProposalReviewers_of_ok
    (hvalid : validateOverrides options (partitionCandidates bindings).1 =
      .ok ()) :
    ∃ receipt execution,
      routeProposalReviewers library call bindings fingerprint options
          inputHashes =
        .success
          (selectionPlan library bindings fingerprint options inputHashes)
          receipt execution := by
  rw [routeProposalReviewers, hvalid]
  exact ⟨_, _, rfl⟩

/-- Outcomes that are the same select the same agents. -/
theorem selectedIds_eq_of_sameRouting
    (hperm : bindings.Perm others)
    (hvalid : validateOverrides options (partitionCandidates bindings).1 =
      .ok ())
    (hsame : SameRouting
      (routeProposalReviewers library call bindings fingerprint options
        inputHashes)
      (routeProposalReviewers library call others fingerprint options
        inputHashes)) :
    (selectionPlan library bindings fingerprint options
        inputHashes).selectedIds =
      (selectionPlan library others fingerprint options
        inputHashes).selectedIds := by
  obtain ⟨receipt, execution, hroute⟩ := routeProposalReviewers_of_ok
    library fingerprint options call inputHashes hvalid
  obtain ⟨receipt', execution', hroute'⟩ := routeProposalReviewers_of_ok
    library fingerprint options call inputHashes
      (validateOverrides_perm options hperm ▸ hvalid)
  rw [hroute, hroute'] at hsame
  exact congrArg (List.map (·.agentId)) hsame.1

/-- When the included agents fit, permuted bindings are routed alike. -/
theorem sameRouting_of_fit
    (hnodup : (bindings.map (·.agentId)).Nodup) (hperm : bindings.Perm others)
    (hfit : validateOverrides options (partitionCandidates bindings).1 =
      .ok () → ForceIncludedFit fingerprint options bindings) :
    SameRouting
      (routeProposalReviewers library call bindings fingerprint options
        inputHashes)
      (routeProposalReviewers library call others fingerprint options
        inputHashes) := by
  have hsame := validateOverrides_perm options hperm
  cases hvalid : validateOverrides options (partitionCandidates bindings).1 with
  | error kind =>
      rw [routeProposalReviewers, routeProposalReviewers, ← hsame, hvalid]
      exact rfl
  | ok =>
      obtain ⟨receipt, execution, hroute⟩ := routeProposalReviewers_of_ok
        library fingerprint options call inputHashes hvalid
      obtain ⟨receipt', execution', hroute'⟩ := routeProposalReviewers_of_ok
        library fingerprint options call inputHashes (hsame ▸ hvalid)
      have hprepared :=
        prepared_scoredCandidates library fingerprint hnodup hvalid
      have hscored :=
        scoredCandidates_perm library fingerprint options hnodup hperm
      have hresult := selectReviewers_eq hprepared hscored
        ((candidatesFit_iff library fingerprint options hnodup).2
          (hfit hvalid))
      rw [hroute, hroute']
      refine ⟨?_, ?_, ?_⟩
      · simp only [selectionPlan, hresult]
      · simp only [selectionPlan, hresult]
      · simp only [selectionPlan, hresult, rejectedAlternatives]
        exact (hscored.filter _).map _

/-- When the included agents do not fit, one that is not selected would be
selected in the first position. -/
theorem exists_permutation_of_not_fit
    (hnodup : (bindings.map (·.agentId)).Nodup)
    (hvalid : validateOverrides options (partitionCandidates bindings).1 =
      .ok ())
    (hfit : ¬ForceIncludedFit fingerprint options bindings) :
    ∃ others, bindings.Perm others ∧
      ¬SameRouting
        (routeProposalReviewers library call bindings fingerprint options
          inputHashes)
        (routeProposalReviewers library call others fingerprint options
          inputHashes) := by
  have hprepared := prepared_scoredCandidates library fingerprint hnodup hvalid
  have hcandidates := (not_congr
    (candidatesFit_iff library fingerprint options hnodup)).2 hfit
  obtain ⟨c, hc, hforced, hunchosen⟩ := exists_unchosen hprepared hcandidates
  obtain ⟨b, hb, henabled, rfl⟩ :=
    (mem_scoredCandidates library fingerprint options hnodup).1 hc
  have hperm : bindings.Perm (b :: bindings.erase b) := List.perm_cons_erase hb
  refine ⟨b :: bindings.erase b, hperm, ?_⟩
  have hvalid' := validateOverrides_perm options hperm ▸ hvalid
  have hnodup' := (hperm.map (·.agentId)).nodup_iff.1 hnodup
  have hprepared' :=
    prepared_scoredCandidates library fingerprint hnodup' hvalid'
  have hscored :=
    scoredCandidates_perm library fingerprint options hnodup hperm
  have hfinal : finalCandidate library (b :: bindings.erase b) fingerprint
      options b = finalCandidate library bindings fingerprint options b := by
    rw [finalCandidate_eq library fingerprint options hnodup hperm]
  obtain ⟨rest, hfirst⟩ : ∃ rest, scoredCandidates library
      (b :: bindings.erase b) fingerprint options =
        finalCandidate library bindings fingerprint options b :: rest := by
    rw [scoredCandidates_eq library fingerprint options hnodup',
      eligibleBindings, partitionCandidates, List.filter_cons, if_pos henabled,
      List.map_cons, hfinal]
    exact ⟨_, rfl⟩
  have hroom : ((scoredCandidates library (b :: bindings.erase b) fingerprint
      options).filter (·.mandatory)).length < maxSelectedReviewers := by
    rw [← (hscored.filter _).length_eq]
    exact not_le.1 fun hle => hcandidates (.inl hle)
  have hchosen : finalCandidate library (b :: bindings.erase b) fingerprint
      options b ∈ chosenReviewers (scoredCandidates library
        (b :: bindings.erase b) fingerprint options) options := by
    rw [hfirst] at hroom hprepared' ⊢
    rw [hfinal]
    exact chosen_of_first hprepared' hforced hroom
  have hselected := (mem_selectedIds library fingerprint inputHashes hnodup'
    hvalid' (.head _) henabled).2 hchosen
  have hunselected := fun h => hunchosen ((mem_selectedIds library fingerprint
    inputHashes hnodup hvalid hb henabled).1 h)
  intro hsame
  apply hunselected
  rw [selectedIds_eq_of_sameRouting library fingerprint options call inputHashes
    hperm hvalid hsame]
  exact hselected

end Bindings

/-- Routing does not depend on the order of the bindings exactly when the
included agents fit, or the overrides are refused. -/
theorem routing_order_independent_iff
    (library : RoutingLibrary) (call : RoutingCall)
    (bindings : List CompiledDynamicAgentBinding)
    (fingerprint : ProposalFingerprint) (options : ReviewRoutingOptions)
    (inputHashes : InputSnapshotHashes)
    (hnodup : (bindings.map (·.agentId)).Nodup) :
    (∀ others, bindings.Perm others →
      SameRouting
        (routeProposalReviewers library call bindings fingerprint options
          inputHashes)
        (routeProposalReviewers library call others fingerprint options
          inputHashes)) ↔
      (validateOverrides options (partitionCandidates bindings).1 = .ok () →
        ForceIncludedFit fingerprint options bindings) := by
  constructor
  · intro hsame hvalid
    by_contra hfit
    obtain ⟨others, hperm, hdiffer⟩ := exists_permutation_of_not_fit library
      fingerprint options call inputHashes hnodup hvalid hfit
    exact hdiffer (hsame others hperm)
  · intro hfit others hperm
    exact sameRouting_of_fit library fingerprint options call inputHashes hnodup
      hperm hfit

/-- The two reviewers of an under-specified proposal in the other order. -/
theorem routing_order_independent_fallback :
    SameRouting
      (routeProposalReviewers blankLibrary blankCall fallbackBindings {} {} {})
      (routeProposalReviewers blankLibrary blankCall fallbackBindings.reverse {}
        {} {}) :=
  (routing_order_independent_iff blankLibrary blankCall fallbackBindings {} {} {}
    (by decide)).2 (fun _ => .inr (by decide)) fallbackBindings.reverse
      (List.reverse_perm _).symm

/-- Six agents that an operator includes. -/
def includedIds : List String := ["a", "b", "c", "d", "e", "f"]

/-- Of six included agents the last in the order of the bindings is left out. -/
theorem sixth_included_agent_rejected :
    let options : ReviewRoutingOptions := { forceInclude := includedIds }
    let bindings := includedIds.map plainBinding
    let plan := selectionPlan blankLibrary bindings {} options {}
    let reversed := selectionPlan blankLibrary bindings.reverse {} options {}
    plan.selectedIds = ["a", "b", "c", "d", "e"] ∧
      reversed.selectedIds = ["b", "c", "d", "e", "f"] ∧
      ¬SameRouting
        (routeProposalReviewers blankLibrary blankCall bindings {} options {})
        (routeProposalReviewers blankLibrary blankCall bindings.reverse {}
          options {}) := by
  intro options bindings plan reversed
  have hplan : plan.selectedIds = ["a", "b", "c", "d", "e"] := by
    decide +kernel
  have hreversed : reversed.selectedIds = ["b", "c", "d", "e", "f"] := by
    decide +kernel
  refine ⟨hplan, hreversed, ?_⟩
  intro hsame
  have hids : plan.selectedIds = reversed.selectedIds :=
    selectedIds_eq_of_sameRouting blankLibrary {} options blankCall {}
      (List.reverse_perm bindings).symm (by decide +kernel) hsame
  rw [hplan, hreversed] at hids
  exact absurd hids (by decide)

end ChainworksForge.Routing
