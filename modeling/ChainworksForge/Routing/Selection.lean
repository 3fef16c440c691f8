import ChainworksForge.Routing.Scoring
import Mathlib.Data.List.Destutter

/-!
# Routing of proposal reviewers

The router splits the bindings into eligible and ineligible ones, checks the
overrides, scores the eligible candidates and selects at most five of them.
Digests, JSON texts and the rendering of times are parameters; identifiers and
the time of a routing are arguments.
-/

namespace ChainworksForge.Routing

open ChainworksForge.Support ChainworksForge.Workflow

def maxSelectedReviewers : ℕ := 5

def minSelectedReviewers : ℕ := 2

def scoreThreshold : ℤ := 6

/-- A reviewer selected by the router. -/
structure SelectedAgent where
  agentId : String
  routingId : String
  score : ℤ
  mandatory : Bool
  overrideSource : Option String
  scoreTerms : ScoreTerms
  rationale : String
  evidenceRefs : List RoutingEvidenceRef
  materializationBindingId : String
deriving DecidableEq

/-- A candidate that was scored and not selected. -/
structure RejectedAlternative where
  agentId : String
  routingId : String
  score : ℤ
  reason : String
  scoreTerms : ScoreTerms
deriving DecidableEq

/-- A candidate that may not be selected. -/
structure IneligibleCandidate where
  agentId : String
  routingId : String
  reason : String
deriving DecidableEq

/-- Digests of all inputs of a routing. -/
structure InputSnapshotHashes where
  workflowSnapshotHash : String := ""
  catalogSnapshotHash : String := ""
  routingMetadataHash : String := ""
  candidateBindingHash : String := ""
  evidenceHash : String := ""
  overrideHash : Option String := none
deriving DecidableEq

/-- Why a routing failed. -/
inductive RoutingFailureKind where
  | overrideConflict
  | mandatoryOverflow
  | disabledRolloutWave
  | unknownAgent
  | placeholderResolvedAgent
  | malformedRoutingMetadata
  | mixedVersionSnapshot
  | missingOutputContract
deriving DecidableEq

def RoutingFailureKind.text : RoutingFailureKind → String
  | overrideConflict => "override_conflict"
  | mandatoryOverflow => "mandatory_overflow"
  | disabledRolloutWave => "disabled_rollout_wave"
  | unknownAgent => "unknown_agent"
  | placeholderResolvedAgent => "placeholder_resolved_agent"
  | malformedRoutingMetadata => "malformed_routing_metadata"
  | mixedVersionSnapshot => "mixed_version_snapshot"
  | missingOutputContract => "missing_output_contract"

/-- The routing plan artifact. -/
structure AgentSelectionPlanV1 where
  schemaVersion : String
  routingRulesVersion : String
  proposalMd5 : String
  planHash : String
  mode : ReviewRoutingMode
  fingerprint : List String
  selectedAgents : List SelectedAgent
  rejectedAlternatives : List RejectedAlternative
  ineligibleCandidates : List IneligibleCandidate
  warnings : List String
  inputSnapshotHashes : InputSnapshotHashes
deriving DecidableEq

/-- Terminal status of a routing. -/
inductive RoutingReceiptStatus where
  | succeeded
  | failed
  | blocked
deriving DecidableEq

/-- The receipt of a routing. -/
structure RoutingReceipt where
  receiptId : String
  runId : String
  stageId : String
  attemptId : ℤ
  systemExecutionId : String
  status : RoutingReceiptStatus
  failureKind : Option String
  planHash : Option String
  inputSnapshotHashesJson : Option String
  operatorActionsJson : Option String
  createdAt : Nat
deriving DecidableEq

/-- Status of a task without a provider. -/
inductive SystemExecutionStatus where
  | queued
  | running
  | succeeded
  | blocked
  | failed
deriving DecidableEq

/-- The record of a task without a provider. -/
structure SystemExecution where
  id : String
  runId : String
  stageId : String
  attemptId : ℤ
  taskId : String
  taskType : String
  status : SystemExecutionStatus
  startedAt : Nat
  completedAt : Option Nat
  receiptId : Option String
  planHash : Option String
  failureKind : Option String
deriving DecidableEq

/-- The outcome of a routing. -/
inductive RoutingOutcome where
  | success
      (plan : AgentSelectionPlanV1) (receipt : RoutingReceipt)
      (systemExecution : SystemExecution)
  | failure
      (failureKind : RoutingFailureKind) (receipt : RoutingReceipt)
      (systemExecution : SystemExecution) (validationFailureJson : String)
deriving DecidableEq

/-- The libraries that the router calls. -/
structure RoutingLibrary where
  sha256 : List UInt8 → String
  jsonText : Json → String
  rfc3339 : Nat → String

/-- The run, stage and attempt of a routing, its fresh identifiers and time. -/
structure RoutingCall where
  runId : String
  stageId : String
  attemptId : ℤ
  systemExecutionId : String
  receiptId : String
  now : Nat

/-! ## Candidates and overrides -/

/-- The eligible bindings and the others. -/
def partitionCandidates (bindings : List CompiledDynamicAgentBinding) :
    List CompiledDynamicAgentBinding × List IneligibleCandidate :=
  (bindings.filter (·.enabledForProposalReview),
    (bindings.filter (!·.enabledForProposalReview)).map fun b =>
      { agentId := b.agentId
        routingId := b.routingMetadata.routingId
        reason := "disabled_by_rollout_wave" })

/-- An override names an eligible agent and does not contradict another. -/
def validateOverrides
    (options : ReviewRoutingOptions)
    (eligible : List CompiledDynamicAgentBinding) :
    Except RoutingFailureKind Unit :=
  if options.forceInclude.any fun id =>
      !(eligible.map (·.agentId)).contains id then
    .error .unknownAgent
  else if options.forceExclude.any options.forceInclude.contains then
    .error .overrideConflict
  else .ok ()

/-! ## Selection -/

/-- The selected reviewers and how they were found. -/
structure SelectionResult where
  agents : List SelectedAgent
  underSpecifiedFallback : Bool
  mandatoryOverflowPrunedAgentIds : List String

def ScoredCandidate.toSelectedAgent (c : ScoredCandidate) : SelectedAgent where
  agentId := c.agentId
  routingId := c.routingId
  score := c.totalScore
  mandatory := c.mandatory
  overrideSource := c.overrideSource
  scoreTerms := c.terms
  rationale := c.rationale
  evidenceRefs := c.evidenceRefs
  materializationBindingId := c.bindingId

/-- Whether a list of candidates has an agent. -/
def hasAgent (selected : List ScoredCandidate) (agentId : String) : Bool :=
  selected.any (·.agentId == agentId)

section Select

variable (scored : List ScoredCandidate) (options : ReviewRoutingOptions)

/-- The mandatory candidates, ranked when there are too many. -/
def mandatoryCandidates : List ScoredCandidate :=
  let mandatory := scored.filter (·.mandatory)
  if maxSelectedReviewers < mandatory.length then
    sortByRank ScoredCandidate.rank mandatory
  else mandatory

/-- The mandatory reviewers. -/
def selectMandatory : List ScoredCandidate :=
  (mandatoryCandidates scored).take maxSelectedReviewers

/-- The mandatory candidates for whom there is no room. -/
def mandatoryOverflow : List ScoredCandidate :=
  (mandatoryCandidates scored).drop maxSelectedReviewers

/-- Add the candidates that an override includes, in the order of the
candidates. -/
def addForceIncluded (selected : List ScoredCandidate) : List ScoredCandidate :=
  fillUpTo maxSelectedReviewers
    (fun selected c =>
      c.overrideSource.isSome && !hasAgent selected c.agentId &&
        !options.forceExclude.contains c.agentId)
    selected scored

/-- Remove the candidates that an override excludes, unless they are mandatory. -/
def retainAllowed (selected : List ScoredCandidate) : List ScoredCandidate :=
  selected.filter fun c =>
    !options.forceExclude.contains c.agentId || c.mandatory

/-- The candidates that can fill the remaining places. -/
def optionalCandidates (selected : List ScoredCandidate) :
    List ScoredCandidate :=
  scored.filter fun c =>
    !c.mandatory && c.overrideSource.isNone &&
      !options.forceExclude.contains c.agentId &&
      decide (scoreThreshold ≤ c.thresholdScore) &&
      !hasAgent selected c.agentId

/-- Fill the remaining places by score. -/
def fillByScore (selected : List ScoredCandidate) : List ScoredCandidate :=
  fillUpTo maxSelectedReviewers (fun _ _ => true) selected
    (sortByRank ScoredCandidate.rank
      (optionalCandidates scored options selected))

/-- The reviewers of an under-specified proposal. -/
def fallbackIds : List String :=
  ["proposal_reviewer_product_owner", "proposal_reviewer_architect"]

/-- Add one reviewer of an under-specified proposal. -/
def addFallback (selected : List ScoredCandidate) (fallbackId : String) :
    List ScoredCandidate :=
  if hasAgent selected fallbackId then selected
  else
    match scored.find? (·.agentId == fallbackId) with
    | some c => selected ++ [c]
    | none => selected

/-- The reviewers before the fallback. -/
def chosenByRules : List ScoredCandidate :=
  fillByScore scored options
    (retainAllowed options
      (addForceIncluded scored options (selectMandatory scored)))

/-- The reviewers after the fallback. -/
def chosenReviewers : List ScoredCandidate :=
  let chosen := chosenByRules scored options
  if chosen.length < minSelectedReviewers then
    fallbackIds.foldl (addFallback scored) chosen
  else chosen

/-- Apply the selection rules. -/
def selectReviewers : SelectionResult where
  agents :=
    (sortByRank ScoredCandidate.finalRank (chosenReviewers scored options)).map
      (·.toSelectedAgent)
  underSpecifiedFallback :=
    decide ((chosenByRules scored options).length < minSelectedReviewers)
  mandatoryOverflowPrunedAgentIds :=
    (mandatoryOverflow scored).map (·.agentId)

end Select

/-! ## Rejections and the plan hash -/

/-- Why a candidate was rejected. -/
def rejectionReason
    (selectedIds prunedIds : List String) (c : ScoredCandidate) : String :=
  if prunedIds.contains c.agentId then "mandatory_overflow_pruned"
  else if c.overrideSource.isSome &&
      decide (maxSelectedReviewers ≤ selectedIds.dedup.length) then
    "force_include_over_capacity"
  else if c.totalScore < scoreThreshold then "below_threshold"
  else "not_selected"

/-- The candidates that were not selected. -/
def rejectedAlternatives
    (scored : List ScoredCandidate) (selectedIds prunedIds : List String) :
    List RejectedAlternative :=
  (scored.filter fun c => !selectedIds.contains c.agentId).map fun c =>
    { agentId := c.agentId
      routingId := c.routingId
      score := c.totalScore
      reason := rejectionReason selectedIds prunedIds c
      scoreTerms := c.terms }

/-- The little endian bytes of a signed 64 bit integer. -/
def leBytes (n : ℤ) : List UInt8 :=
  (List.range 8).map fun i =>
    UInt8.ofNat ((n % 2 ^ 64).toNat / 256 ^ i % 256)

def textBytes (s : String) : List UInt8 :=
  s.toUTF8.toList

section Route

variable (library : RoutingLibrary)

/-- The digest of the selected agents with their scores and of the inputs. -/
def computePlanHash
    (selected : List SelectedAgent) (inputHashes : InputSnapshotHashes) :
    String :=
  library.sha256
    ((selected.flatMap fun agent =>
        textBytes agent.agentId ++ leBytes agent.score) ++
      textBytes inputHashes.workflowSnapshotHash ++
      textBytes inputHashes.catalogSnapshotHash ++
      textBytes inputHashes.routingMetadataHash ++
      textBytes inputHashes.candidateBindingHash ++
      textBytes inputHashes.evidenceHash ++
      (inputHashes.overrideHash.map textBytes).getD [])

def hashString (s : String) : String :=
  library.sha256 (textBytes s)

private def jsonString (s : String) : Json := .string s.toList

private def jsonOption (s : Option String) : Json :=
  (s.map jsonString).getD .null

/-- The JSON text of the input digests, a record in the order of its fields. -/
def inputHashesJson (hashes : InputSnapshotHashes) : String :=
  library.jsonText (.object
    [("workflow_snapshot_hash".toList, jsonString hashes.workflowSnapshotHash),
      ("catalog_snapshot_hash".toList, jsonString hashes.catalogSnapshotHash),
      ("routing_metadata_hash".toList, jsonString hashes.routingMetadataHash),
      ("candidate_binding_hash".toList,
        jsonString hashes.candidateBindingHash),
      ("evidence_hash".toList, jsonString hashes.evidenceHash),
      ("override_hash".toList, jsonOption hashes.overrideHash)])

/-- The overrides of an operator, when there are any. -/
def operatorActionsJson (options : ReviewRoutingOptions) : Option String :=
  if options.forceInclude.isEmpty && options.forceExclude.isEmpty &&
      options.overrideReason.isNone && options.operatorId.isNone &&
      options.createdAt.isNone then
    none
  else
    some (library.jsonText (.object
      [("created_at".toList,
          jsonOption (options.createdAt.map library.rfc3339)),
        ("force_exclude".toList, .array (options.forceExclude.map jsonString)),
        ("force_include".toList, .array (options.forceInclude.map jsonString)),
        ("operator_id".toList, jsonOption options.operatorId),
        ("override_reason".toList, jsonOption options.overrideReason)]))

/-- The record of a routing that ends now. -/
def routerExecution
    (call : RoutingCall) (status : SystemExecutionStatus)
    (planHash failureKind : Option String) : SystemExecution where
  id := call.systemExecutionId
  runId := call.runId
  stageId := call.stageId
  attemptId := call.attemptId
  taskId := "proposal_review_router"
  taskType := "proposal_review_router"
  status := status
  startedAt := call.now
  completedAt := some call.now
  receiptId := some call.receiptId
  planHash := planHash
  failureKind := failureKind

def makeFailure
    (failureKind : RoutingFailureKind) (call : RoutingCall)
    (inputHashes : InputSnapshotHashes) : RoutingOutcome :=
  .failure failureKind
    { receiptId := call.receiptId
      runId := call.runId
      stageId := call.stageId
      attemptId := call.attemptId
      systemExecutionId := call.systemExecutionId
      status := .failed
      failureKind := some failureKind.text
      planHash := none
      inputSnapshotHashesJson := some (inputHashesJson library inputHashes)
      operatorActionsJson := none
      createdAt := call.now }
    (routerExecution call .failed none (some failureKind.text))
    (library.jsonText (.object
      [("failure_kind".toList, jsonString failureKind.text),
        ("receipt_id".toList, jsonString call.receiptId)]))

variable (call : RoutingCall) (bindings : List CompiledDynamicAgentBinding)
  (fingerprint : ProposalFingerprint) (options : ReviewRoutingOptions)
  (inputHashes : InputSnapshotHashes)

/-- The eligible candidates with their final scores. -/
def scoredCandidates : List ScoredCandidate :=
  applyOverlapPenalties
    ((partitionCandidates bindings).1.map
      (scoreCandidate (hashString library) fingerprint options))

/-- The plan of a routing whose overrides are valid. -/
def selectionPlan : AgentSelectionPlanV1 :=
  let scored := scoredCandidates library bindings fingerprint options
  let result := selectReviewers scored options
  let selectedIds := result.agents.map (·.agentId)
  let prunedIds := result.mandatoryOverflowPrunedAgentIds
  { schemaVersion := "1"
    routingRulesVersion := "1"
    proposalMd5 := fingerprint.proposalMd5
    planHash := computePlanHash library result.agents inputHashes
    mode := options.mode
    fingerprint :=
      ((fingerprint.stackTags ++ fingerprint.surfaces ++
        fingerprint.risks).insertionSort (· ≤ ·)).destutter (· ≠ ·)
    selectedAgents := result.agents
    rejectedAlternatives := rejectedAlternatives scored selectedIds prunedIds
    ineligibleCandidates := (partitionCandidates bindings).2
    warnings :=
      (if result.underSpecifiedFallback then ["under_specified_selection"]
        else []) ++
      (if prunedIds.isEmpty then [] else ["mandatory_overflow_pruned"])
    inputSnapshotHashes := inputHashes }

/-- Run the routing algorithm. -/
def routeProposalReviewers : RoutingOutcome :=
  match validateOverrides options (partitionCandidates bindings).1 with
  | .error failureKind => makeFailure library failureKind call inputHashes
  | .ok () =>
      let plan := selectionPlan library bindings fingerprint options inputHashes
      .success plan
        { receiptId := call.receiptId
          runId := call.runId
          stageId := call.stageId
          attemptId := call.attemptId
          systemExecutionId := call.systemExecutionId
          status := .succeeded
          failureKind := none
          planHash := some plan.planHash
          inputSnapshotHashesJson := some (inputHashesJson library inputHashes)
          operatorActionsJson := operatorActionsJson library options
          createdAt := call.now }
        (routerExecution call .succeeded (some plan.planHash) none)

end Route

end ChainworksForge.Routing
