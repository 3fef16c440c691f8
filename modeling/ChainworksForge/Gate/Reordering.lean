import ChainworksForge.Gate.LocalCode

/-!
# The order of the blockers

The agent that writes an assessment orders its blockers freely.  The counts do
not depend on the order.  The status and the route do not either, as long as the
blockers of lower layers agree on the layer; where they do not, the first one
decides.  The primary owner is that of the first blocker.
-/

namespace ChainworksForge.Gate

open ChainworksForge.Support

variable {assessment reordered : Json}

/-- The same assessment with its blockers in another order, within and across the
lists. -/
structure Reordering (assessment reordered : Json) : Prop where
  schema : reordered.getStr "schema_version" = assessment.getStr "schema_version"
  lists : ∀ name ∈ blockerListNames, listError reordered name = listError assessment name
  blockers : (rawBlockers reordered).Perm (rawBlockers assessment)

/-- An assessment without errors. -/
def IsValid (assessment : Json) : Prop :=
  listErrors assessment = [] ∧ schemaErrors assessment = [] ∧
    ∀ raw ∈ rawBlockers assessment, ∀ check ∈ blockerChecks raw, check.passed = true

/-- The lower layer that a blocker belongs to. -/
def lowerLayerOf (raw : Json) : Option BoundaryStatus :=
  lowerLayerStatusForBlocker (readBlocker raw 0)

/-- All blockers of lower layers belong to the same one. -/
def LowerLayersAgree (assessment : Json) : Prop :=
  ∀ raw ∈ rawBlockers assessment, ∀ other ∈ rawBlockers assessment,
    ∀ status status', lowerLayerOf raw = some status →
      lowerLayerOf other = some status' → status = status'

/-! ## What does not depend on positions -/

section Positions

variable {raw raw' : List Json}

theorem any_readBlockers {p : BoundaryBlocker → Bool} (hp : Positionless p) :
    (readBlockers raw).any p = raw.any fun blocker => p (readBlocker blocker 0) := by
  have hmap := map_readBlockers hp raw
  have hany : ((readBlockers raw).map p).any id = (readBlockers raw).any p := by
    rw [List.any_map]
    rfl
  rw [← hany, hmap, List.any_map]
  rfl

theorem countP_readBlockers {p : BoundaryBlocker → Bool} (hp : Positionless p) :
    (readBlockers raw).countP p =
      raw.countP fun blocker => p (readBlocker blocker 0) := by
  have hmap := map_readBlockers hp raw
  have hcount : ((readBlockers raw).map p).countP id = (readBlockers raw).countP p := by
    rw [List.countP_map]
    rfl
  rw [← hcount, hmap, List.countP_map]
  rfl

theorem any_eq_of_perm {α : Type} {l l' : List α} (h : l.Perm l') (p : α → Bool) :
    l.any p = l'.any p := by
  rw [Bool.eq_iff_iff, List.any_eq_true, List.any_eq_true]
  simp only [h.mem_iff]

/-- Reordered blockers satisfy what does not depend on positions alike. -/
theorem any_readBlockers_of_perm (h : raw'.Perm raw) {p : BoundaryBlocker → Bool}
    (hp : Positionless p) :
    (readBlockers raw').any p = (readBlockers raw).any p := by
  rw [any_readBlockers hp, any_readBlockers hp, any_eq_of_perm h]

theorem countP_readBlockers_of_perm (h : raw'.Perm raw) {p : BoundaryBlocker → Bool}
    (hp : Positionless p) :
    (readBlockers raw').countP p = (readBlockers raw).countP p := by
  rw [countP_readBlockers hp, countP_readBlockers hp, h.countP_eq]

/-- Blockers without errors carry the signature that is looked up. -/
theorem any_isBlockedNoProgress_of_perm (h : raw'.Perm raw) (verified : List Text)
    (hvalid : ∀ value ∈ raw, ∀ check ∈ blockerChecks value, check.passed = true) :
    (readBlockers raw').any (fun blocker => isBlockedNoProgress blocker verified) =
      (readBlockers raw).any fun blocker => isBlockedNoProgress blocker verified := by
  have hposition {value : Json} (hvalue : value ∈ raw) (idx other : ℕ) :
      isBlockedNoProgress (readBlocker value idx) verified =
        isBlockedNoProgress (readBlocker value other) verified := by
    obtain ⟨signature, hsignature⟩ :=
      Option.isSome_iff_exists.1 (signature_isSome_of_valid (hvalid value hvalue))
    simp [isBlockedNoProgress, readBlocker, hasClass, hsignature]
  have htransfer {xs ys : List Json} (hsub : ∀ value ∈ xs, value ∈ ys)
      (hys : ∀ value ∈ xs, value ∈ raw)
      (hany : (readBlockers xs).any (fun b => isBlockedNoProgress b verified) = true) :
      (readBlockers ys).any (fun b => isBlockedNoProgress b verified) = true := by
    obtain ⟨blocker, hmem, hblocked⟩ := List.any_eq_true.1 hany
    obtain ⟨idx, hidx, rfl⟩ := mem_readBlockers.1 hmem
    have hvalue : xs.get ⟨idx, hidx⟩ ∈ xs := List.get_mem _ _
    obtain ⟨other, hother⟩ := List.get_of_mem (hsub _ hvalue)
    refine List.any_eq_true.2 ⟨readBlocker (ys.get other) other,
      mem_readBlockers.2 ⟨other, other.isLt, rfl⟩, ?_⟩
    rw [hother, hposition (hys _ hvalue) _ idx]
    exact hblocked
  rw [Bool.eq_iff_iff]
  constructor
  · exact htransfer (fun _ hmem => h.mem_iff.1 hmem) fun _ hmem => h.mem_iff.1 hmem
  · exact htransfer (fun _ hmem => h.mem_iff.2 hmem) fun _ hmem => hmem

end Positions

/-! ## The status -/

theorem errors_eq_nil_iff :
    listErrors assessment ++ schemaErrors assessment ++
        (readBlockers (rawBlockers assessment)).flatMap
          BoundaryBlocker.validationErrors = [] ↔ IsValid assessment := by
  have hblockers : (readBlockers (rawBlockers assessment)).flatMap
      BoundaryBlocker.validationErrors = [] ↔
        ∀ raw ∈ rawBlockers assessment,
          ∀ check ∈ blockerChecks raw, check.passed = true := by
    rw [List.flatMap_eq_nil_iff]
    constructor
    · intro hall raw hraw
      obtain ⟨idx, hidx⟩ := List.get_of_mem hraw
      subst hidx
      exact (blockerValidationErrors_eq_nil_iff _ idx).1
        (hall _ (mem_readBlockers.2 ⟨idx, idx.isLt, rfl⟩))
    · intro hall blocker hmem
      obtain ⟨idx, hidx, rfl⟩ := mem_readBlockers.1 hmem
      exact (blockerValidationErrors_eq_nil_iff _ idx).2
        (hall _ (List.get_mem _ _))
  rw [List.append_eq_nil_iff, List.append_eq_nil_iff, hblockers, IsValid, and_assoc]

theorem Reordering.isValid_iff (h : Reordering assessment reordered) :
    IsValid reordered ↔ IsValid assessment := by
  have hlists : listErrors reordered = listErrors assessment :=
    List.flatMap_congr fun name hname => h.lists name hname
  have hschema : schemaErrors reordered = schemaErrors assessment := by
    rw [schemaErrors, schemaErrors, h.schema]
  simp only [IsValid, hlists, hschema, h.blockers.mem_iff]

theorem lowerLayerStatus_readBlockers (raw : List Json) :
    lowerLayerStatus (readBlockers raw) = raw.findSome? lowerLayerOf := by
  have hmap := map_readBlockers positionless_lowerLayerStatusForBlocker raw
  have hfind (l : List BoundaryBlocker) :
      (l.map lowerLayerStatusForBlocker).findSome? id = lowerLayerStatus l := by
    rw [List.findSome?_map]
    rfl
  rw [← hfind, hmap, List.findSome?_map]
  rfl

theorem boundaryStatus_of_perm {raw raw' : List Json} (h : raw'.Perm raw)
    (verified : List Text)
    (hvalid : ∀ value ∈ raw, ∀ check ∈ blockerChecks value, check.passed = true) :
    boundaryStatus verified (readBlockers raw') =
      boundaryStatus verified (readBlockers raw) := by
  have hany {p : BoundaryBlocker → Bool} (hp : Positionless p) :=
    any_readBlockers_of_perm h hp
  have hempty : (readBlockers raw').isEmpty = (readBlockers raw).isEmpty := by
    rw [Bool.eq_iff_iff, List.isEmpty_iff, List.isEmpty_iff, readBlockers_eq_nil_iff,
      readBlockers_eq_nil_iff]
    constructor
    · rintro rfl
      exact h.nil_eq.symm
    · rintro rfl
      exact h.eq_nil
  simp only [boundaryStatus, hany positionless_isStaleReview,
    hany positionless_isLocalCodeTail, hany positionless_isReviewOwned,
    hany positionless_isInvalidClaim, hany positionless_isFollowupProposal,
    hany positionless_isReleaseBlockingExternal,
    any_isBlockedNoProgress_of_perm h verified hvalid, hempty]

/-- The first lower layer of lists with the same blockers is the same when the layers
agree. -/
theorem findSome?_lowerLayerOf_of_perm {raw raw' : List Json} (h : raw'.Perm raw)
    (hagree : ∀ value ∈ raw, ∀ other ∈ raw, ∀ status status',
      lowerLayerOf value = some status → lowerLayerOf other = some status' →
        status = status') :
    raw'.findSome? lowerLayerOf = raw.findSome? lowerLayerOf := by
  cases hfirst : raw.findSome? lowerLayerOf with
  | none =>
      rw [List.findSome?_eq_none_iff] at hfirst ⊢
      exact fun value hvalue => hfirst value (h.mem_iff.1 hvalue)
  | some status =>
      obtain ⟨value, hvalue, hstatus⟩ := List.exists_of_findSome?_eq_some hfirst
      cases hother : raw'.findSome? lowerLayerOf with
      | none =>
          have hnone := List.findSome?_eq_none_iff.1 hother value (h.mem_iff.2 hvalue)
          rw [hstatus] at hnone
          cases hnone
      | some status' =>
          obtain ⟨other, hmem, hstatus'⟩ := List.exists_of_findSome?_eq_some hother
          rw [hagree other (h.mem_iff.1 hmem) value hvalue status' status hstatus' hstatus]

/-! ## The evaluation -/

theorem evaluateBlockers_status (context : BoundaryEvaluationContext)
    (errors : List Text) (blockers : List BoundaryBlocker) :
    (evaluateBlockers context errors blockers).status =
      assessmentStatus context.serverVerifiedNoProgressSignatures errors blockers :=
  rfl

/-- The status of an evaluated assessment. -/
theorem status_eq {context : BoundaryEvaluationContext} {evaluation : BoundaryEvaluation}
    (hrun : evaluateQualityGateBoundaryAssessmentWithContext context assessment =
      .ok evaluation) :
    (IsValid assessment → evaluation.status =
      ((rawBlockers assessment).findSome? lowerLayerOf).getD
        (boundaryStatus context.serverVerifiedNoProgressSignatures
          (readBlockers (rawBlockers assessment)))) ∧
    (¬IsValid assessment → evaluation.status = .invalidClaim) := by
  obtain ⟨-, rfl⟩ := evaluate_eq_ok_iff.1 hrun
  rw [← errors_eq_nil_iff, ← lowerLayerStatus_readBlockers]
  refine ⟨fun hvalid => ?_, fun hinvalid => ?_⟩
  · rw [evaluateBlockers_status, assessmentStatus, if_neg (not_not.2 hvalid)]
  · rw [evaluateBlockers_status, assessmentStatus, if_pos hinvalid]

/-- The route follows from the status. -/
theorem workflowRouteHint_eq {context : BoundaryEvaluationContext}
    {evaluation : BoundaryEvaluation}
    (hrun : evaluateQualityGateBoundaryAssessmentWithContext context assessment =
      .ok evaluation) :
    evaluation.workflowRouteHint = routeHintForStatus evaluation.status := by
  obtain ⟨-, rfl⟩ := evaluate_eq_ok_iff.1 hrun
  rfl

theorem Reordering.status_eq {context : BoundaryEvaluationContext}
    {evaluation evaluation' : BoundaryEvaluation} (h : Reordering assessment reordered)
    (hrun : evaluateQualityGateBoundaryAssessmentWithContext context assessment =
      .ok evaluation)
    (hrun' : evaluateQualityGateBoundaryAssessmentWithContext context reordered =
      .ok evaluation')
    (hagree : IsValid assessment → LowerLayersAgree assessment) :
    evaluation'.status = evaluation.status := by
  have hstatus := Gate.status_eq hrun
  have hstatus' := Gate.status_eq hrun'
  by_cases hvalid : IsValid assessment
  · rw [hstatus.1 hvalid, hstatus'.1 (h.isValid_iff.2 hvalid),
      findSome?_lowerLayerOf_of_perm h.blockers (hagree hvalid),
      boundaryStatus_of_perm h.blockers _ hvalid.2.2]
  · rw [hstatus.2 hvalid, hstatus'.2 (mt h.isValid_iff.1 hvalid)]

def countNames : List String :=
  ["external_blocker_count", "release_blocking_external_blocker_count",
    "followup_code_tail_count", "invalid_claim_count", "review_refresh_required_count"]

theorem Reordering.countFields_eq (h : Reordering assessment reordered) :
    countFields (readBlockers (rawBlockers reordered)) =
      countFields (readBlockers (rawBlockers assessment)) := by
  have hcount {p : BoundaryBlocker → Bool} (hp : Positionless p) :=
    countP_readBlockers_of_perm h.blockers hp
  simp only [countFields, hcount positionless_isExternal,
    hcount positionless_isReleaseBlockingExternal,
    hcount positionless_isFollowupProposal, hcount positionless_isInvalidClaim,
    hcount positionless_hasAgedEvidence]

/-- A count of the payload is the one among the count fields. -/
theorem payload_count {context : BoundaryEvaluationContext} {errors : List Text}
    {blockers : List BoundaryBlocker} {name : String} (hname : name ∈ countNames) :
    (evaluateBlockers context errors blockers).payload.get name.toList =
      (countFields blockers).lookup name := by
  have hfound : ∃ count, (countFields blockers).reverse.lookup name = some count ∧
      (countFields blockers).lookup name = some count := by
    simp only [countNames, List.mem_cons, List.not_mem_nil, or_false] at hname
    rcases hname with rfl | rfl | rfl | rfl | rfl
    all_goals exact ⟨_, rfl, rfl⟩
  obtain ⟨count, hlast, hfirst⟩ := hfound
  rw [evaluateBlockers, Json.get_ofFields, List.reverse_append, List.lookup_append, hlast,
    hfirst]
  rfl

/-- The flags of the payload, under their names. -/
def flagFields (verifiedSignatures errors : List Text) (blockers : List BoundaryBlocker) :
    List (String × Json) :=
  let validationErrors :=
    errors ++ claimErrors (assessmentStatus verifiedSignatures errors blockers) blockers
  [("local_work_complete", .bool (!blockers.any isLocalCodeTail &&
      (lowerLayerStatus blockers).isNone && validationErrors.isEmpty)),
    ("local_code_tail_present", .bool (blockers.any isLocalCodeTail)),
    ("followup_proposal_required", .bool (blockers.any isFollowupProposal)),
    ("has_release_blocking_external_blockers",
      .bool (blockers.any isReleaseBlockingExternal)),
    ("has_no_release_blocking_external_blockers",
      .bool (!blockers.any isReleaseBlockingExternal))]

def flagNames : List String :=
  ["local_work_complete", "local_code_tail_present", "followup_proposal_required",
    "has_release_blocking_external_blockers", "has_no_release_blocking_external_blockers"]

/-- A flag of the payload is the one among the flag fields. -/
theorem payload_flag {context : BoundaryEvaluationContext} {errors : List Text}
    {blockers : List BoundaryBlocker} {name : String} (hname : name ∈ flagNames) :
    (evaluateBlockers context errors blockers).payload.get name.toList =
      (flagFields context.serverVerifiedNoProgressSignatures errors blockers).lookup
        name := by
  rw [evaluateBlockers, Json.get_ofFields, List.reverse_append, List.lookup_append]
  simp only [flagNames, List.mem_cons, List.not_mem_nil, or_false] at hname
  rcases hname with rfl | rfl | rfl | rfl | rfl
  all_goals rfl

/-- The errors of an evaluated assessment. -/
def assessmentErrors (assessment : Json) : List Text :=
  listErrors assessment ++ schemaErrors assessment ++
    (readBlockers (rawBlockers assessment)).flatMap BoundaryBlocker.validationErrors

/-- Local work is complete in every order or in none: without a lower layer the status,
and with it the errors it adds, does not depend on the order. -/
theorem Reordering.localWork_eq (h : Reordering assessment reordered)
    (verifiedSignatures : List Text) :
    ((lowerLayerStatus (readBlockers (rawBlockers reordered))).isNone &&
        (assessmentErrors reordered ++ claimErrors
          (assessmentStatus verifiedSignatures (assessmentErrors reordered)
            (readBlockers (rawBlockers reordered)))
          (readBlockers (rawBlockers reordered))).isEmpty) =
      ((lowerLayerStatus (readBlockers (rawBlockers assessment))).isNone &&
        (assessmentErrors assessment ++ claimErrors
          (assessmentStatus verifiedSignatures (assessmentErrors assessment)
            (readBlockers (rawBlockers assessment)))
          (readBlockers (rawBlockers assessment))).isEmpty) := by
  have hlower : (lowerLayerStatus (readBlockers (rawBlockers reordered))).isNone =
      (lowerLayerStatus (readBlockers (rawBlockers assessment))).isNone := by
    rw [lowerLayerStatus_readBlockers, lowerLayerStatus_readBlockers, Bool.eq_iff_iff,
      Option.isNone_iff_eq_none, Option.isNone_iff_eq_none, List.findSome?_eq_none_iff,
      List.findSome?_eq_none_iff]
    simp only [h.blockers.mem_iff]
  rw [hlower]
  by_cases hvalid : IsValid assessment
  swap
  · have herrors : assessmentErrors assessment ≠ [] := mt errors_eq_nil_iff.1 hvalid
    have herrors' : assessmentErrors reordered ≠ [] :=
      mt errors_eq_nil_iff.1 (mt h.isValid_iff.1 hvalid)
    have hadded {errors : List Text} (hne : errors ≠ []) (added : List Text) :
        (errors ++ added).isEmpty = false :=
      List.isEmpty_eq_false_iff.2 (List.append_ne_nil_of_left_ne_nil hne added)
    rw [hadded herrors, hadded herrors']
  have herrors : assessmentErrors assessment = [] := errors_eq_nil_iff.2 hvalid
  have herrors' : assessmentErrors reordered = [] :=
    errors_eq_nil_iff.2 (h.isValid_iff.2 hvalid)
  cases hlayer : lowerLayerStatus (readBlockers (rawBlockers assessment)) with
  | some status => rfl
  | none =>
      rw [hlayer, Option.isNone_none, Option.isNone_iff_eq_none] at hlower
      simp only [herrors, herrors', assessmentStatus, hlower, hlayer, ne_eq,
        not_true_eq_false, if_false, Option.getD_none, List.nil_append, claimErrors,
        boundaryStatus_of_perm h.blockers verifiedSignatures hvalid.2.2,
        any_readBlockers_of_perm h.blockers positionless_isInvalidClaim]

theorem Reordering.flagFields_eq (h : Reordering assessment reordered)
    (verifiedSignatures : List Text) :
    flagFields verifiedSignatures (assessmentErrors reordered)
        (readBlockers (rawBlockers reordered)) =
      flagFields verifiedSignatures (assessmentErrors assessment)
        (readBlockers (rawBlockers assessment)) := by
  have hany {p : BoundaryBlocker → Bool} (hp : Positionless p) :=
    any_readBlockers_of_perm h.blockers hp
  simp only [flagFields, hany positionless_isLocalCodeTail,
    hany positionless_isFollowupProposal, hany positionless_isReleaseBlockingExternal,
    Bool.and_assoc, h.localWork_eq verifiedSignatures]

/-- Reordering the blockers keeps the counts and the flags; it keeps the status and
the route unless the assessment is valid and its blockers belong to different lower
layers, where the first of these blockers decides the status; and the primary owner
is that of the first blocker. -/
theorem reordering_keeps_route (context : BoundaryEvaluationContext)
    (assessment reordered : Json) (evaluation : BoundaryEvaluation)
    (h : Reordering assessment reordered)
    (hrun : evaluateQualityGateBoundaryAssessmentWithContext context assessment =
      .ok evaluation) :
    ∃ evaluation',
      evaluateQualityGateBoundaryAssessmentWithContext context reordered =
        .ok evaluation' ∧
      (∀ name ∈ countNames ++ flagNames,
        evaluation'.payload.get name.toList = evaluation.payload.get name.toList) ∧
      evaluation'.invalidClaimCount = evaluation.invalidClaimCount ∧
      evaluation'.followupProposalRequired = evaluation.followupProposalRequired ∧
      evaluation'.hasReleaseBlockingExternalBlockers =
        evaluation.hasReleaseBlockingExternalBlockers ∧
      evaluation'.hasNoReleaseBlockingExternalBlockers =
        evaluation.hasNoReleaseBlockingExternalBlockers ∧
      ((IsValid assessment → LowerLayersAgree assessment) →
        evaluation'.status = evaluation.status ∧
          evaluation'.workflowRouteHint = evaluation.workflowRouteHint) ∧
      (∀ status, IsValid assessment →
        (rawBlockers reordered).findSome? lowerLayerOf = some status →
          evaluation'.status = status) ∧
      (∀ first, (rawBlockers reordered).head? = some first →
        evaluation'.primaryOwnerClass = ownerClassOf first) := by
  obtain ⟨hobjects, hevaluation⟩ := evaluate_eq_ok_iff.1 hrun
  have hrun' : evaluateQualityGateBoundaryAssessmentWithContext context reordered =
      .ok _ :=
    evaluate_eq_ok_iff.2
      ⟨fun raw hraw => hobjects raw (h.blockers.mem_iff.1 hraw), rfl⟩
  have hexternal := any_readBlockers_of_perm h.blockers
    positionless_isReleaseBlockingExternal
  refine ⟨_, hrun', fun name hname => ?_, ?_, ?_, ?_, ?_, fun hagree => ?_,
    fun status hvalid hfirst => ?_, fun first hfirst => ?_⟩
  · obtain hcount | hflag := List.mem_append.1 hname
    · rw [hevaluation, payload_count hcount, payload_count hcount, h.countFields_eq]
    · rw [hevaluation, payload_flag hflag, payload_flag hflag]
      exact congrArg _ (h.flagFields_eq _)
  · rw [hevaluation]
    exact countP_readBlockers_of_perm h.blockers positionless_isInvalidClaim
  · rw [hevaluation]
    exact any_readBlockers_of_perm h.blockers positionless_isFollowupProposal
  · rw [hevaluation]
    exact hexternal
  · rw [hevaluation]
    exact congrArg (!·) hexternal
  · have hstatus := h.status_eq hrun hrun' hagree
    refine ⟨hstatus, ?_⟩
    rw [workflowRouteHint_eq hrun, workflowRouteHint_eq hrun', hstatus]
  · rw [(Gate.status_eq hrun').1 (h.isValid_iff.2 hvalid), hfirst]
    rfl
  · obtain ⟨rest, hraw⟩ := List.head?_eq_some_iff.1 hfirst
    rw [hraw]
    rfl

/-! ## Two layers -/

def outputSettlementBlocker : Json :=
  sampleBlocker "output_settlement" "missing_required_outputs" []

def runtimeRecoveryBlocker : Json :=
  sampleBlocker "runtime_recovery" "provider_recovery" []

theorem rawBlockers_sampleAssessment (blockers : List Json) :
    rawBlockers (sampleAssessment blockers) = blockers := by
  have hunder (name : String) : rawBlockersUnder (sampleAssessment blockers) name =
      if name = "blockers" then blockers else [] := by
    rw [rawBlockersUnder, sampleAssessment, Json.get_ofFields]
    by_cases hname : name = "blockers"
    · subst hname
      rfl
    · rw [if_neg hname, List.reverse_cons, List.reverse_singleton, List.singleton_append,
        List.lookup_cons, beq_false_of_ne hname]
      by_cases hschema : name = "schema_version"
      · subst hschema
        rfl
      · rw [List.lookup_cons, beq_false_of_ne hschema]
        rfl
  rw [rawBlockers, funext hunder]
  simp [blockerListNames]

theorem reordering_keeps_route_sample :
    ∃ evaluation',
      evaluateQualityGateBoundaryAssessmentWithContext sampleContext
        (sampleAssessment [runtimeRecoveryBlocker, outputSettlementBlocker]) =
          .ok evaluation' ∧
      evaluation'.invalidClaimCount = 0 := by
  have hrun : evaluateQualityGateBoundaryAssessmentWithContext sampleContext
      (sampleAssessment [outputSettlementBlocker, runtimeRecoveryBlocker]) = .ok _ :=
    evaluate_eq_ok_iff.2 ⟨by decide +kernel, rfl⟩
  have hreordering : Reordering
      (sampleAssessment [outputSettlementBlocker, runtimeRecoveryBlocker])
      (sampleAssessment [runtimeRecoveryBlocker, outputSettlementBlocker]) := by
    refine ⟨by decide +kernel, by decide +kernel, ?_⟩
    rw [rawBlockers_sampleAssessment, rawBlockers_sampleAssessment]
    exact List.Perm.swap _ _ _
  obtain ⟨evaluation', hrun', -, hcount, -⟩ :=
    reordering_keeps_route sampleContext _ _ _ hreordering hrun
  exact ⟨evaluation', hrun', hcount.trans (by decide +kernel)⟩

/-- The order of two blockers of different layers decides the status, the route and
the primary owner. -/
theorem first_lower_layer_decides :
    (evaluateQualityGateBoundaryAssessmentWithContext sampleContext
        (sampleAssessment [outputSettlementBlocker, runtimeRecoveryBlocker])).toOption.map
      (fun evaluation => (evaluation.status, evaluation.primaryOwnerClass)) =
      some (.outputSettlementRequired, "output_settlement".toList) ∧
    (evaluateQualityGateBoundaryAssessmentWithContext sampleContext
        (sampleAssessment [runtimeRecoveryBlocker, outputSettlementBlocker])).toOption.map
      (fun evaluation => (evaluation.status, evaluation.primaryOwnerClass)) =
      some (.runtimeRecoveryRequired, "runtime_recovery".toList) := by
  decide +kernel

end ChainworksForge.Gate
