import ChainworksForge.Gate.Assessment

/-!
# Evaluating a blocker assessment

The blockers of an assessment decide the status of the boundary between review
and release, and the status decides the route of the workflow.
-/

namespace ChainworksForge.Gate

open ChainworksForge.Support

inductive BoundaryStatus where
  | outputSettlementRequired
  | sideEffectReconciliationRequired
  | runtimeRecoveryRequired
  | reviewRefreshRequired
  | localCodeTailPresent
  | invalidClaim
  | blockedNoProgress
  | awaitingHumanBoundaryApproval
  | pass
deriving DecidableEq

namespace BoundaryStatus

def text : BoundaryStatus → Text
  | outputSettlementRequired => "output_settlement_required".toList
  | sideEffectReconciliationRequired => "side_effect_reconciliation_required".toList
  | runtimeRecoveryRequired => "runtime_recovery_required".toList
  | reviewRefreshRequired => "review_refresh_required".toList
  | localCodeTailPresent => "local_code_tail_present".toList
  | invalidClaim => "invalid_claim".toList
  | blockedNoProgress => "blocked_no_progress".toList
  | awaitingHumanBoundaryApproval => "awaiting_human_boundary_approval".toList
  | pass => "pass".toList

end BoundaryStatus

def routeHintForStatus : BoundaryStatus → String
  | .outputSettlementRequired => "output_settlement_recovery"
  | .sideEffectReconciliationRequired => "side_effect_reconciliation"
  | .runtimeRecoveryRequired => "runtime_recovery"
  | .reviewRefreshRequired => "implementation_review_refresh"
  | .localCodeTailPresent => "implementation_refine"
  | .invalidClaim => "implementation_review_refresh"
  | .blockedNoProgress | .awaitingHumanBoundaryApproval => "human_boundary_approval"
  | .pass => "next_release_or_closeout_state"

def allowedRoutesForStatus (status : BoundaryStatus) : List Text :=
  [(routeHintForStatus status).toList]

/-! ## Classes of blockers -/

variable (blocker : BoundaryBlocker)

/-- A blocker whose owner class or blocker class is one of the given. -/
def hasClass (names : List String) : Bool :=
  blocker.ownerClass ∈ texts names || blocker.blockerClass ∈ texts names

def isInvalidClaim : Bool := hasClass blocker ["invalid_claim", "invalid_blocker_claim"]

def lowerLayerStatusForBlocker : Option BoundaryStatus :=
  if hasClass blocker ["output_settlement", "missing_required_outputs"] then
    some .outputSettlementRequired
  else if hasClass blocker ["side_effect", "side_effect_reconciliation"] then
    some .sideEffectReconciliationRequired
  else if hasClass blocker ["runtime_recovery", "provider_recovery"] then
    some .runtimeRecoveryRequired
  else none

/-- Evidence that is not fresh. -/
def hasAgedEvidence : Bool :=
  blocker.evidenceFreshness ∈ texts ["stale", "unknown", "superseded"]

def isStaleReview : Bool :=
  hasAgedEvidence blocker || blocker.ownerClass ∈ texts ["review_refresh", "stale_review"]

def isLocalCodeTail : Bool :=
  blocker.isCodeWriterBlocking && blocker.evidenceFreshness = "fresh".toList &&
    blocker.ownerClass ∈ localCodeOwnerClasses

def isBlockedNoProgress (verifiedSignatures : List Text) : Bool :=
  blocker.blockerSignatureId ∈ verifiedSignatures &&
    hasClass blocker ["blocked_no_progress", "no_progress"]

def isReviewOwned : Bool :=
  blocker.ownerClass ∈
    texts ["security_reviewer", "prepush_reviewer", "implementation_auditor", "unknown"]

def isFollowupProposal : Bool := blocker.ownerClass = "followup_proposal".toList

def isExternal : Bool :=
  blocker.ownerClass ∈
    texts ["external_blocker", "external_evidence", "external_environment",
      "release_evidence", "operator", "remote_host"]

def isReleaseBlockingExternal : Bool := blocker.releaseBlocking && isExternal blocker

/-! ## The status -/

section Status

variable (verifiedSignatures : List Text) (errors : List Text)
  (blockers : List BoundaryBlocker)

/-- The status of the first blocker of a lower layer. -/
def lowerLayerStatus : Option BoundaryStatus :=
  blockers.findSome? lowerLayerStatusForBlocker

/-- The status that the blockers without a lower layer decide. -/
def boundaryStatus : BoundaryStatus :=
  if blockers.any isStaleReview then .reviewRefreshRequired
  else if blockers.any isLocalCodeTail then .localCodeTailPresent
  else if blockers.any isReviewOwned then .reviewRefreshRequired
  else if blockers.any isInvalidClaim then .invalidClaim
  else if blockers.any fun blocker => isBlockedNoProgress blocker verifiedSignatures then
    .blockedNoProgress
  else if blockers.any isFollowupProposal || blockers.any isReleaseBlockingExternal then
    .awaitingHumanBoundaryApproval
  else if blockers.isEmpty then .pass
  else .awaitingHumanBoundaryApproval

/-- The status of an assessment with the given errors and blockers. -/
def assessmentStatus : BoundaryStatus :=
  if errors ≠ [] then .invalidClaim
  else (lowerLayerStatus blockers).getD (boundaryStatus verifiedSignatures blockers)

def primaryOwnerClass (status : BoundaryStatus) : Text :=
  match blockers with
  | blocker :: _ => blocker.ownerClass
  | [] => if status = .pass then "none".toList else "unknown".toList

end Status

/-! ## The payload -/

def routeStatusForOwner (ownerClass : Text) : BoundaryStatus :=
  if ownerClass ∈ texts ["output_settlement", "missing_required_outputs"] then
    .outputSettlementRequired
  else if ownerClass ∈ texts ["side_effect", "side_effect_reconciliation"] then
    .sideEffectReconciliationRequired
  else if ownerClass ∈ texts ["runtime_recovery", "provider_recovery"] then
    .runtimeRecoveryRequired
  else if ownerClass ∈ texts ["review_refresh", "stale_review", "security_reviewer",
      "prepush_reviewer", "implementation_auditor", "unknown"] then
    .reviewRefreshRequired
  else if ownerClass ∈ localCodeOwnerClasses then .localCodeTailPresent
  else if ownerClass ∈ texts ["invalid_claim", "invalid_blocker_claim"] then .invalidClaim
  else if ownerClass ∈ texts ["blocked_no_progress", "no_progress"] then .blockedNoProgress
  else .awaitingHumanBoundaryApproval

def jsonTexts (values : List Text) : Json := .array (values.map Json.string)

def jsonNat (n : ℕ) : Json := .number (JsonNumber.ofInt n)

def jsonOptionNat (n : Option ℕ) : Json := (n.map jsonNat).getD .null

def blockerJson : Json :=
  Json.ofFields
    [("id", .string blocker.id),
      ("summary", .string blocker.summary),
      ("blocker_signature_id", .string blocker.blockerSignatureId),
      ("evidence_fingerprint", .string blocker.evidenceFingerprint),
      ("evidence_freshness", .string blocker.evidenceFreshness),
      ("source_artifact_generation_id", Json.ofOption blocker.sourceArtifactGenerationId),
      ("observed_after_stage_execution_id",
        .string blocker.observedAfterStageExecutionId),
      ("observed_after_agent_execution_id",
        .string blocker.observedAfterAgentExecutionId),
      ("owner_class", .string blocker.ownerClass),
      ("is_code_writer_blocking", .bool blocker.isCodeWriterBlocking),
      ("class", .string blocker.blockerClass),
      ("severity", .string blocker.severity),
      ("release_blocking", .bool blocker.releaseBlocking),
      ("server_verified_no_progress", .bool blocker.serverVerifiedNoProgress),
      ("no_progress_repeat_count", jsonOptionNat blocker.noProgressRepeatCount),
      ("budget_source", Json.ofOption blocker.budgetSource),
      ("budget_remaining", jsonOptionNat blocker.budgetRemaining),
      ("last_progress_fingerprint", Json.ofOption blocker.lastProgressFingerprint),
      ("gate_command", Json.ofOption blocker.gateCommand),
      ("evidence_refs", jsonTexts blocker.evidenceRefs),
      ("allowed_workflow_routes", jsonTexts
        (if blocker.allowedWorkflowRoutes = [] then
          allowedRoutesForStatus (routeStatusForOwner blocker.ownerClass)
        else blocker.allowedWorkflowRoutes)),
      ("forbidden_routes", jsonTexts blocker.forbiddenRoutes)]

structure BoundaryEvaluationContext where
  runId : Text
  stageExecutionId : Text
  assessmentGenerationId : Text
  updatedAt : Text
  serverVerifiedNoProgressSignatures : List Text
deriving DecidableEq

structure BoundaryEvaluation where
  status : BoundaryStatus
  workflowRouteHint : String
  followupProposalRequired : Bool
  hasReleaseBlockingExternalBlockers : Bool
  hasNoReleaseBlockingExternalBlockers : Bool
  invalidClaimCount : ℕ
  primaryOwnerClass : Text
  payload : Json
deriving DecidableEq

def schemaErrors (assessment : Json) : List Text :=
  if assessment.getStr "schema_version" =
      some "quality_gate_blocker_assessment_v1".toList then []
  else ["assessment schema_version must be quality_gate_blocker_assessment_v1".toList]

/-- The error that a status of invalid claims adds. -/
def claimErrors (status : BoundaryStatus) (blockers : List BoundaryBlocker) : List Text :=
  if status = .invalidClaim then
    if blockers.any isInvalidClaim then
      ["assessment contains invalid or locally solvable blocker claims".toList]
    else
      ["assessment contains blockers without required server-owned evidence fields".toList]
  else []

/-- The counts of the payload, under their names. -/
def countFields (blockers : List BoundaryBlocker) : List (String × Json) :=
  [("external_blocker_count", jsonNat (blockers.countP isExternal)),
    ("release_blocking_external_blocker_count",
      jsonNat (blockers.countP isReleaseBlockingExternal)),
    ("followup_code_tail_count", jsonNat (blockers.countP isFollowupProposal)),
    ("invalid_claim_count", jsonNat (blockers.countP isInvalidClaim)),
    ("review_refresh_required_count", jsonNat (blockers.countP hasAgedEvidence))]

/-- The evaluation of blockers that were read with the given errors. -/
def evaluateBlockers (context : BoundaryEvaluationContext) (errors : List Text)
    (blockers : List BoundaryBlocker) : BoundaryEvaluation :=
  let verified := context.serverVerifiedNoProgressSignatures
  let status := assessmentStatus verified errors blockers
  let validationErrors := errors ++ claimErrors status blockers
  let localCodeTail := blockers.any isLocalCodeTail
  let releaseBlocking := blockers.any isReleaseBlockingExternal
  let noProgress := blockers.find? fun blocker => isBlockedNoProgress blocker verified
  let hardBlockers := blockers.filter fun blocker =>
    blocker.releaseBlocking || blocker.ownerClass ≠ "invalid_claim".toList
  let payload := Json.ofFields
    ([("schema_version", Json.ofString "blocker_boundary_status_v1"),
      ("run_id", .string context.runId),
      ("stage_execution_id", .string context.stageExecutionId),
      ("status", .string status.text),
      ("assessment_generation_id", .string context.assessmentGenerationId),
      ("local_work_complete", .bool (!localCodeTail &&
        (lowerLayerStatus blockers).isNone && validationErrors.isEmpty)),
      ("local_code_tail_present", .bool localCodeTail),
      ("followup_proposal_required", .bool (blockers.any isFollowupProposal)),
      ("has_release_blocking_external_blockers", .bool releaseBlocking),
      ("has_no_release_blocking_external_blockers", .bool !releaseBlocking),
      ("primary_owner_class", .string (primaryOwnerClass blockers status)),
      ("blockers", .array (blockers.map blockerJson)),
      ("hard_blockers", .array (hardBlockers.map blockerJson)),
      ("workflow_route_hint", Json.ofString (routeHintForStatus status)),
      ("projection_integrity", Json.ofString
        (if validationErrors.isEmpty then "valid" else "tamper_detected")),
      ("updated_at", .string context.updatedAt),
      ("allowed_workflow_routes", jsonTexts (allowedRoutesForStatus status)),
      ("no_progress_repeat_count",
        jsonOptionNat (noProgress.bind BoundaryBlocker.noProgressRepeatCount)),
      ("budget_source", Json.ofOption (noProgress.bind BoundaryBlocker.budgetSource)),
      ("budget_remaining",
        jsonOptionNat (noProgress.bind BoundaryBlocker.budgetRemaining)),
      ("last_progress_fingerprint",
        Json.ofOption (noProgress.bind BoundaryBlocker.lastProgressFingerprint)),
      ("validation_errors", jsonTexts validationErrors),
      ("warnings", jsonTexts
        (if status = .localCodeTailPresent then
          ["local code-owned work remains; boundary acceptance cannot route to release".toList]
        else []))] ++ countFields blockers)
  { status
    workflowRouteHint := routeHintForStatus status
    followupProposalRequired := blockers.any isFollowupProposal
    hasReleaseBlockingExternalBlockers := releaseBlocking
    hasNoReleaseBlockingExternalBlockers := !releaseBlocking
    invalidClaimCount := blockers.countP isInvalidClaim
    primaryOwnerClass := primaryOwnerClass blockers status
    payload }

/-- The evaluation of an assessment: its blockers are read, and the errors of its
lists, its schema and its blockers come before the status. -/
def evaluateQualityGateBoundaryAssessmentWithContext
    (context : BoundaryEvaluationContext) (assessment : Json) :
    Except Text BoundaryEvaluation := do
  let (blockers, errors) ← parseBlockers assessment
  return evaluateBlockers context
    (errors ++ schemaErrors assessment ++
      blockers.flatMap BoundaryBlocker.validationErrors) blockers

end ChainworksForge.Gate
