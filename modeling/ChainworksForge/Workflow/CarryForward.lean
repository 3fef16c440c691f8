import ChainworksForge.Workflow.Plan
import ChainworksForge.Support.Checked
import ChainworksForge.Support.Worklist

/-!
# Continuation targets

Validation of a compiled plan as the target of a blocked run's continuation.
The plan declares a closed profile: a review state, an approval gate and a
preparation state.  The validator walks the transition graph without crossing
the gate, checks every state and every agent on the way, and returns the plan
with those agents stripped of write access.

JSON texts, digests and the JSON form of a resolved agent come from libraries
outside the repository; they enter through `SnapshotCodec`.
-/

namespace ChainworksForge.Workflow

open ChainworksForge.Support

/-- Library functions on snapshot texts. -/
structure SnapshotCodec where
  parseJson : String → Result Json
  sha256 : String → String
  decodeAgent : String → Result ResolvedAgent
  encodeAgent : ResolvedAgent → String

/-! ## Snapshot integrity -/

/-- Why a snapshot pair is not intact. -/
inductive SnapshotIntegrityInvalidReasonV1 where
  | incompleteQuartet
  | malformedHash
  | digestMismatch
deriving DecidableEq

/-- Integrity of a snapshot pair. -/
inductive SnapshotIntegrityV1 where
  | absent
  | verified
  | invalid (reason : SnapshotIntegrityInvalidReasonV1)
deriving DecidableEq

/-- A lower-case hexadecimal digest of 64 digits. -/
def isCanonicalSha256 (value : String) : Bool :=
  value.toList.length == 64 &&
    value.toList.all fun c => c.isDigit || ('a' ≤ c && c ≤ 'f')

/-- Check that both snapshots are present and match their digests. -/
def verifyCompletePairV1 (codec : SnapshotCodec)
    (workflowJson catalogJson workflowHash catalogHash : Option String) :
    SnapshotIntegrityV1 :=
  match workflowJson, catalogJson, workflowHash, catalogHash with
  | none, none, none, none => .absent
  | some workflowJson, some catalogJson, some workflowHash, some catalogHash =>
      if [workflowJson, catalogJson, workflowHash, catalogHash].any
          fun value => (Text.trim value.toList).isEmpty then
        .invalid .incompleteQuartet
      else if !isCanonicalSha256 workflowHash || !isCanonicalSha256 catalogHash then
        .invalid .malformedHash
      else if codec.sha256 workflowJson != workflowHash ||
          codec.sha256 catalogJson != catalogHash then
        .invalid .digestMismatch
      else .verified
  | _, _, _, _ => .invalid .incompleteQuartet

/-! ## The continuation profile -/

/-- The closed profile that opts a workflow into continuation. -/
structure ContinuationProfileV1 where
  schemaVersion : String
  profile : String
  reviewState : String
  approvalState : String
  preparationState : String
  proposalInput : String
  preparationTask : String
deriving DecidableEq

/-- The member names of a profile, in declaration order. -/
def continuationProfileKeys : List String :=
  [ "schema_version", "profile", "review_state", "approval_state",
    "preparation_state", "proposal_input", "preparation_task" ]

/-- Build a profile from the texts of its members in declaration order. -/
def continuationProfileOfTexts : List Text → Option ContinuationProfileV1
  | [schemaVersion, profile, reviewState, approvalState, preparationState,
      proposalInput, preparationTask] =>
      some
        { schemaVersion := String.ofList schemaVersion
          profile := String.ofList profile
          reviewState := String.ofList reviewState
          approvalState := String.ofList approvalState
          preparationState := String.ofList preparationState
          proposalInput := String.ofList proposalInput
          preparationTask := String.ofList preparationTask }
  | _ => none

/-- Decode a profile: an object with exactly its members, or the array of its
members in declaration order. -/
def decodeContinuationProfile : Json → Option ContinuationProfileV1
  | .object fields =>
      if fields.all fun field =>
          continuationProfileKeys.any fun key => key.toList == field.1 then
        (continuationProfileKeys.mapM fun key =>
          ((Json.object fields).get key.toList).bind Json.asStr).bind
          continuationProfileOfTexts
      else none
  | .array items => (items.mapM Json.asStr).bind continuationProfileOfTexts
  | _ => none

/-- A validated continuation target. -/
structure ContinuationTargetV1 where
  schemaVersion : String
  profile : ContinuationProfileV1
  plan : RunPlan

/-! ## Agent policies -/

/-- The permission profile of an agent in the catalog. -/
def permission (agent : ResolvedAgent) (catalog : Json) : Result Json := do
  let name ← required agent.permissionProfile
    "target_policy_incompatible: missing permission profile"
  required ((catalog.index "permission_profiles").get name.toList)
    "target_policy_incompatible: unknown permission profile"

/-- The root under which a metadata-only agent may write. -/
def metaRootText : Text :=
  "$\x7bCHAINWORKS_META_ROOT:-.chainworks\x7d/".toList

/-- Shell commands that do not change the product. -/
def readOnlyCommands : List Text :=
  [ "rg".toList, "fd".toList, "find".toList, "ls".toList, "cat".toList,
    "git status".toList, "git diff --stat".toList, "git diff --name-only".toList ]

/-- A write path must be a text below the metadata root without `..`. -/
def validateWritePath (path : Json) : Result Unit := do
  let text ← required path.asStr "target_policy_incompatible: write path"
  ensure
    (Text.startsWith text metaRootText &&
      !(Text.splitOn '/' text).any fun c => c == "..".toList)
    "target_policy_incompatible: pre-gate product write"

/-- A declared headless capability must have no gates. -/
def validateNoXcodeGates (policy : Json) : Result Unit :=
  match policy.get "xcode_headless".toList with
  | some headless =>
      ensure ((headless.index "gates").asArray == some [])
        "target_policy_incompatible: pre-gate Xcode execution"
  | none => pure ()

/-- An agent that may only write metadata and cannot change the repository. -/
def validateMetadataOnly (agent : ResolvedAgent) (catalog : Json) : Result Unit := do
  ensure (!agent.worktreeWriteEnabled || agent.worktreeStrategy == some "meta_only")
    "target_policy_incompatible: pre-gate writer"
  let policy ← permission agent catalog
  let writes ← required ((policy.index "filesystem").index "write").asArray
    "target_policy_incompatible: explicit metadata writes required"
  writes.forM validateWritePath
  ["checkout", "commit", "push"].forM fun capability =>
    ensure ((policy.index "git").index capability == .bool false)
      "target_policy_incompatible: pre-gate git mutation"
  ensure ((policy.index "mcp").index "runtime_authority" == .bool false)
    "target_policy_incompatible: pre-gate runtime mutation"
  let shell ← required ((policy.index "shell").index "allow").asArray
    "target_policy_incompatible: shell policy absent"
  shell.forM fun command =>
    ensure (command.asStr.any fun text => readOnlyCommands.contains text)
      "target_policy_incompatible: pre-gate shell mutation"
  validateNoXcodeGates policy

/-- An agent that executes on the Xcode host must have an explicit headless
capability. -/
def validateHeadless (agent : ResolvedAgent) (catalog : Json) : Result Unit :=
  if agent.requiresXcodeHostExecution then do
    let policy ← permission agent catalog
    ensure
      ((policy.index "xcode_headless").index "read" == .bool true &&
        ((policy.index "xcode_headless").index "gates").asArray.any
          fun gates => !gates.isEmpty)
      "target_policy_incompatible: explicit headless capability required"
  else pure ()

/-! ## Walks over the transition graph -/

namespace CompiledState

/-- Targets of the outgoing transitions. -/
def targets (state : CompiledState) : List String :=
  state.transitions.map (·.toState)

/-- The owner and the agents of the run block. -/
def runAgents (state : CompiledState) : List ResolvedAgent :=
  state.owner :: state.tasks.map (·.agent)

/-- The owner and the agents of both blocks. -/
def allAgents (state : CompiledState) : List ResolvedAgent :=
  state.owner :: (state.tasks ++ state.postApprovalTasks).map (·.agent)

end CompiledState

namespace RunPlan

/-- Identifiers of the compiled states. -/
def stateIds (plan : RunPlan) : List String :=
  plan.states.map (·.1)

/-- Targets of a state; an unknown state has none. -/
def targetsOf (plan : RunPlan) (stateId : String) : List String :=
  match plan.state? stateId with
  | some state => state.targets
  | none => []

/-- Number of transitions of the plan. -/
def edgeCount (plan : RunPlan) : ℕ :=
  (plan.stateIds.map fun id => (plan.targetsOf id).length).sum

end RunPlan

/-- Enter a state before the gate: check it and its agents, and return its
targets. -/
def enterPreGate (plan : RunPlan) (profile : ContinuationProfileV1) (catalog : Json)
    (id : String) : Result (List String) := do
  let state ← required (plan.state? id) "target_profile_invalid: unknown transition"
  ensure
    (!state.isManualGate && !state.isEnd && state.postApprovalTasks.isEmpty &&
      id != profile.preparationState && !state.transitions.isEmpty)
    "target_profile_invalid: pre-approval bypass or unsupported terminal"
  state.runAgents.forM fun agent => validateMetadataOnly agent catalog
  pure state.targets

/-- Message of a walk whose fuel ran out; `explore_preGate_ne_none` shows that
there is none. -/
def walkIncomplete : String :=
  "target_profile_invalid: walk incomplete"

/-- The states before the gate, and whether the gate was met. -/
def preGateStates (plan : RunPlan) (profile : ContinuationProfileV1) (catalog : Json)
    (rejectedState : String) : Result (List String × Bool) :=
  (explore (fun id => id == profile.approvalState) (enterPreGate plan profile catalog)
    (2 + plan.edgeCount) [rejectedState, profile.reviewState] [] false).getD
    (.error walkIncomplete)

/-- Whether every walk from `start` meets the review state before the gate, and
some walk meets it. -/
def reachesReview (plan : RunPlan) (start review gate : String) : Bool :=
  match
    explore (fun id => id == review)
      (fun id => if id == gate then .error () else .ok (plan.targetsOf id))
      (1 + plan.edgeCount) [start] [] false with
  | some (.ok (_, reviewReached)) => reviewReached
  | _ => false

/-! ## Validation -/

/-- Condition of the transition from the review to the gate. -/
def reviewSuccessCondition : String :=
  "proposal_review_summary.average_score >= vars.proposal_score_target and " ++
    "proposal_review_summary.min_individual_score >= " ++
    "vars.min_individual_proposal_score and proposal_review_summary.blocker_count == 0"

/-- Condition of the transition from the review to the refinement. -/
def reviewRefinementCondition : String :=
  "proposal_review_summary.average_score < vars.proposal_score_target or " ++
    "proposal_review_summary.min_individual_score < " ++
    "vars.min_individual_proposal_score or proposal_review_summary.blocker_count > 0"

/-- Condition of the granted transition of a gate. -/
def grantCondition : Text :=
  "approval.granted == true".toList

/-- Condition of the rejected transition of a gate. -/
def rejectionCondition : Text :=
  "approval.rejected == true".toList

/-- Equality of texts up to whitespace. -/
def sameWords (a b : String) : Bool :=
  Text.words a.toList == Text.words b.toList

/-- The worktree strategy of agents without write access. -/
def sharedWorktreeStrategy : String :=
  "shared_implementation_worktree"

/-- Strip an agent of write access. -/
def ResolvedAgent.withoutWrites (agent : ResolvedAgent) : ResolvedAgent :=
  { agent with
    worktreeWriteEnabled := false
    worktreeStrategy := some sharedWorktreeStrategy }

/-- An agent after it was written to and read back from JSON: a temperature that
is not finite is written as `null`. -/
def ResolvedAgent.throughJson (agent : ResolvedAgent) : ResolvedAgent :=
  { agent with temperature := agent.temperature.filter F64.isFinite }

/-- Strip the owner and the task agents of a state of write access. -/
def CompiledState.withoutWrites (state : CompiledState) : CompiledState :=
  { state with
    owner := state.owner.withoutWrites
    tasks := state.tasks.map fun task => { task with agent := task.agent.withoutWrites } }

/-- Strip the states with the given identifiers of write access. -/
def stripStates (ids : List String) (states : List (String × CompiledState)) :
    List (String × CompiledState) :=
  states.map fun entry =>
    if ids.contains entry.1 then (entry.1, entry.2.withoutWrites) else entry

/-- Check an enabled reviewer and freeze it without write access. -/
def freezeReviewer (codec : SnapshotCodec) (catalog : Json)
    (binding : CompiledDynamicAgentBinding) : Result CompiledDynamicAgentBinding :=
  if !binding.enabledForProposalReview then pure binding
  else do
    let agent ← withContext (codec.decodeAgent binding.resolvedAgentSnapshotJson)
      "target_profile_invalid: incomplete dynamic reviewer"
    validateMetadataOnly agent catalog
    validateHeadless agent catalog
    pure
      { binding with
        resolvedAgentSnapshotJson := codec.encodeAgent agent.withoutWrites
        worktreeHash := codec.sha256 sharedWorktreeStrategy }

/-- The profile is supported and belongs to the release workflow. -/
def profileSupported (workflow : Json) (profile : ContinuationProfileV1) : Bool :=
  profile.schemaVersion == "blocked_run_continuation_profile_v1" &&
    profile.profile == "implementation_restart_v1" &&
    profile.proposalInput == "proposal_current" &&
    profile.preparationTask == "freeze_approved_proposal_and_prepare_worktree" &&
    (workflow.index "workflow").index "id" == .string "proposal_to_release".toList

/-- The three states of the profile are different. -/
def entryStatesDistinct (profile : ContinuationProfileV1) : Bool :=
  profile.reviewState != profile.approvalState &&
    profile.reviewState != profile.preparationState &&
    profile.approvalState != profile.preparationState

/-- The review state routes to dynamic reviewers. -/
def isReviewRouter (review : CompiledState) : Bool :=
  (review.systemTask.any fun t =>
      t.taskType == "proposal_review_router" && t.executorMode == "system.routing") &&
    (review.dynamicParallel.any fun d => d.outputContract == "proposal_review_v1") &&
    !review.isManualGate && !review.isEnd

/-- The approval state is a gate without work of its own. -/
def isFreshGate (gate : CompiledState) : Bool :=
  gate.isManualGate && gate.tasks.isEmpty && gate.postApprovalTasks.isEmpty &&
    gate.transitions.length == 2

/-- The first transition of a state with exactly the given condition. -/
def findTransition (state : CompiledState) (condition : Text) :
    Option CompiledTransition :=
  state.transitions.find? fun t => Text.trim t.condition.toList == condition

/-- The review routes to the gate on success and to the rejected state
otherwise. -/
def reviewRoutes (review : CompiledState) (approvalState rejectedState : String) :
    Bool :=
  review.transitions.length == 2 &&
    (review.transitions.any fun t =>
      t.toState == approvalState && sameWords t.condition reviewSuccessCondition) &&
    review.transitions.any fun t =>
      t.toState == rejectedState && sameWords t.condition reviewRefinementCondition

/-- The preparation starts with a fresh freeze of the approved proposal. -/
def preparationFresh (profile : ContinuationProfileV1) (preparation : CompiledState)
    (first : CompiledTask) : Bool :=
  first.taskName == profile.preparationTask && !first.parallel &&
    first.inputs.contains profile.proposalInput &&
    (["approved_proposal", "implementation_plan", "implementation_backlog"].all
      fun name => first.outputs.contains name) &&
    (preparation.tasks.drop 1).any fun t => t.agent.agentId == "code_writer"

/-- Validate a compiled plan as a continuation target. -/
def validateContinuationTargetV1 (codec : SnapshotCodec) (plan : RunPlan) :
    Result ContinuationTargetV1 := do
  ensure
    (verifyCompletePairV1 codec (some plan.workflowSnapshotJson)
      (some plan.catalogSnapshotJson) (some plan.workflowSnapshotHash)
      (some plan.catalogSnapshotHash) == .verified)
    "target_profile_invalid: snapshot integrity"
  let workflow ← codec.parseJson plan.workflowSnapshotJson
  let catalog ← codec.parseJson plan.catalogSnapshotJson
  let profile ← required
    (decodeContinuationProfile (workflow.index "blocked_run_continuation"))
    "target_profile_invalid: explicit closed profile required"
  ensure (profileSupported workflow profile) "target_profile_invalid: unsupported profile"
  ensure (entryStatesDistinct profile) "target_profile_invalid: aliased entry states"
  let review ← required (plan.state? profile.reviewState)
    "target_profile_invalid: missing review state"
  ensure (isReviewRouter review)
    "target_profile_invalid: review router and reviewers required"
  let gate ← required (plan.state? profile.approvalState)
    "target_profile_invalid: missing approval state"
  ensure (isFreshGate gate) "target_profile_invalid: fresh manual gate required"
  let granted ← required (findTransition gate grantCondition)
    "target_profile_invalid: exact grant predicate required"
  let rejected ← required (findTransition gate rejectionCondition)
    "target_profile_invalid: exact rejection predicate required"
  ensure
    (granted.toState == profile.preparationState &&
      rejected.toState != profile.approvalState)
    "target_profile_invalid: approval routing"
  ensure (reviewRoutes review profile.approvalState rejected.toState)
    "target_profile_invalid: review outcome routing"
  let walk ← preGateStates plan profile catalog rejected.toState
  ensure (walk.2 && walk.1.contains rejected.toState)
    "target_profile_invalid: unreachable gate"
  ensure (reachesReview plan rejected.toState profile.reviewState profile.approvalState)
    "target_profile_invalid: rejection must return through review"
  validateMetadataOnly gate.owner catalog
  let preparation ← required (plan.state? profile.preparationState)
    "target_profile_invalid: missing preparation state"
  let first ← required preparation.tasks.head?
    "target_profile_invalid: missing preparation task"
  ensure (preparationFresh profile preparation first)
    "target_profile_invalid: fresh preparation contracts required"
  plan.states.forM fun entry =>
    entry.2.allAgents.forM fun agent => validateHeadless agent catalog
  let bindings ← plan.dynamicCandidateBindings.mapM (freezeReviewer codec catalog)
  ensure (plan.dynamicCandidateBindings.any (·.enabledForProposalReview))
    "target_profile_invalid: no enabled reviewers"
  let preGate := profile.approvalState :: walk.1
  pure
    { schemaVersion := "run_continuation_target_v1"
      profile := profile
      plan :=
        { plan with
          dynamicCandidateBindings := bindings
          states := stripStates preGate plan.states
          initialState := profile.reviewState } }

end ChainworksForge.Workflow
