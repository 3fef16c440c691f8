import ChainworksForge.Condition.Tree
import ChainworksForge.Engine.Database
import ChainworksForge.Engine.ReviewSummary
import Mathlib.Data.Prod.Lex
import Mathlib.Data.List.Dedup

/-!
# Taking a transition

`evaluateAndTransition` evaluates every outgoing transition of a state, lets
two guards change the results, and moves the run when exactly one candidate is
matched.  The first guard is the loop budget of the target state.  The second
one sends an implementation review that is not complete back to refinement.
Everything else blocks the run with a recorded conflict.

`World` collects what one step of the engine reads outside the rows of the run:
the clock, the reads of a condition, and the answers of the checks that a step
makes before it dispatches work.
-/

namespace ChainworksForge.Engine

open ChainworksForge.Support ChainworksForge.Workflow
open ChainworksForge.Condition
  (CandidateTransitionResult Context evaluateConditionClassified)

/-- An agent that the reviewer routing selected. -/
structure SelectedAgent where
  agentId : String
deriving DecidableEq, Repr

/-- The plan that the reviewer routing wrote. -/
structure AgentSelectionPlan where
  planHash : String
  selectedAgents : List SelectedAgent
deriving DecidableEq, Repr

/-- How the automatic retry of a failed stage ended. -/
inductive FailedStageRetry where
  /-- There is no automatic retry. -/
  | notScheduled
  /-- The recorded retry authority does not fit the source execution;
  `retained` says whether the stage was still current when that was noted. -/
  | authorityInvalid (retained : Bool)
  /-- One invocation is queued again on a new attempt. -/
  | scheduled (source : InvokeItem)
deriving DecidableEq, Repr

/-- What one step reads outside the rows of the run. -/
structure World where
  now : Nat
  /-- Reads of a condition; the state, the variables and the approvals are
  taken from the run. -/
  reads : Context
  jsonText : Json → Text
  /-- The approval binding of a carried-forward run at a transition. -/
  validateTransition : String → String → Except Text Unit
  /-- The approval of a carried-forward run could be published again. -/
  repairMissingApproval : Bool
  ideaPresent : Bool
  /-- The active self-assessment of the implementation says blocked. -/
  selfAssessmentBlocked : Bool
  synthesizeReview : Except Text Unit
  authorizeSnapshot : Except Text Unit
  rolloutContractHold : Bool
  approvedProposalPresent : Bool
  provisionWorktree : Except Text String
  worktreeReady : Bool
  boundaryEvaluation : Except Text Unit
  /-- Whether the reviewer routing succeeds. -/
  routingSucceeds : Bool
  /-- The file of the selection plan, after the routing. -/
  selectionPlan : Option (Except Text AgentSelectionPlan)
  decodeAgent : String → Except Text ResolvedAgent
  alreadyMaterialized : String → Bool
  /-- The materialization record of a selected agent was new. -/
  recordInserted : Nat → Bool
  /-- The required inputs of a code writer that are missing. -/
  handoffMissing : CompiledTask → List String
  buildPrompt : CompiledTask → Except Text Unit
  buildReviewerPrompt : SelectedAgent → Except Text Unit
  buildOwnerPrompt : Except Text Unit
  /-- The checks before an invocation is queued. -/
  beforeDispatch : Nat → Except Text Unit
  failedStageRetry : StageExecution → Except Text FailedStageRetry

/-- The reads of a condition of a state. -/
def World.context
    (world : World) (plan : RunPlan) (db : Database) (stateId : String) :
    Context :=
  { world.reads with
    currentStateId := stateId.toList
    planVariables := fun name =>
      (plan.vars.find? fun entry => entry.1.toList = name).map (·.2)
    approvals := db.approvals.map fun row =>
      { stageId := row.stageId.toList, decision := row.decision } }

/-! ## Loop budget -/

/-- A loop counter that has reached its limit. -/
structure CloseoutLoopBudgetExhaustion where
  counter : String
  iterations : Nat
  max : Nat
deriving DecidableEq, Repr

/-- The iterations of a state with a completed execution. -/
def completedIterations
    (stages : List StageExecution) (stateId : String) : List ℤ :=
  (stages.filter fun stage =>
      stage.stageId = stateId ∧ stage.status = .completed).map
    (·.iteration)

/-- The number of distinct nonnegative completed iterations. -/
def loopIterationsForState
    (stages : List StageExecution) (stateId : String) : Nat :=
  ((completedIterations stages stateId).filter fun i => 0 ≤ i).dedup.length

/-- The exhausted loop of a target state, if its budget is spent. -/
def closeoutLoopBudgetExhaustion
    (plan : RunPlan) (stages : List StageExecution) (refineStateId : String) :
    Option CloseoutLoopBudgetExhaustion :=
  (plan.state? refineStateId).bind fun targetState =>
    targetState.loopConfig.bind fun loopConfig =>
      let iterations := loopIterationsForState stages refineStateId
      if loopConfig.max ≤ iterations then
        some { counter := loopConfig.counter, iterations := iterations,
               max := loopConfig.max }
      else none

/-! ## Candidates -/

/-- Name of a transition. -/
def transitionIdFor
    (currentStateId toStateId : String) (transitionIndex : Nat) : String :=
  currentStateId ++ "__to__" ++ toStateId ++ "__" ++ toString transitionIndex

/-- Evaluate the condition of one transition. -/
def evaluateTransitionCandidate
    (ctx : Context) (currentStateId : String)
    (transition : CompiledTransition × Nat) :
    Option CandidateTransitionEvaluation :=
  (evaluateConditionClassified ctx transition.1.condition.toList).map
    fun condition =>
      { transitionId :=
          transitionIdFor currentStateId transition.1.toState transition.2
        fromStateId := currentStateId
        toStateId := transition.1.toState
        conditionExpressionId :=
          some ("transition_condition_" ++ toString transition.2)
        result := condition.result
        requiredArtifacts := condition.requiredArtifacts
        missingArtifacts := condition.missingArtifacts
        missingFields := condition.missingFields
        sourceArtifactIds := condition.sourceArtifactIds
        sanitizedDiagnostic := condition.sanitizedDiagnostic }

/-- Give a candidate another result with a diagnostic. -/
def CandidateTransitionEvaluation.override
    (candidate : CandidateTransitionEvaluation)
    (result : CandidateTransitionResult) (diagnostic : Text) :
    CandidateTransitionEvaluation :=
  { candidate with
    result := result, sanitizedDiagnostic := some diagnostic }

/-- `iterations/max` of an exhausted loop, after its counter. -/
def CloseoutLoopBudgetExhaustion.describe
    (exhaustion : CloseoutLoopBudgetExhaustion) : Text :=
  (exhaustion.counter ++ ": " ++ toString exhaustion.iterations ++ "/" ++
    toString exhaustion.max ++ " iterations").toList

/-- Reject a matched candidate whose target has no iteration left. -/
def applyLoopBudget
    (plan : RunPlan) (allStages : List StageExecution)
    (candidate : CandidateTransitionEvaluation) :
    CandidateTransitionEvaluation :=
  if candidate.result = .matched then
    match closeoutLoopBudgetExhaustion plan allStages candidate.toStateId with
    | some exhaustion =>
        candidate.override .notMatched
          ("Loop budget exhausted for ".toList ++ exhaustion.describe)
    | none => candidate
  else candidate

/-- Label of a review status in a diagnostic. -/
def reviewStatusLabel
    (world : World) : Condition.CanonicalContractField → Text
  | .resolved (.string value) => value
  | .resolved value => world.jsonText value
  | .missingControlled contractId => "missing:".toList ++ contractId
  | .uncontrolledAlias => "uncontrolled_alias".toList

/-- The review status that completes an implementation. -/
def implementationReviewTargetStatus (plan : RunPlan) : Text :=
  ((plan.vars.lookup "implementation_review_target_status").bind
    Json.asStr).getD "code_complete".toList

/-- A review status that sends an implementation back. -/
def statusRequiresRefine : Condition.CanonicalContractField → Bool
  | .resolved (.string value) =>
      value = "needs_code_fixes".toList || value = "invalid".toList ||
        value = "release_evidence_blocked".toList
  | _ => false

/--
Keep an implementation review that is not complete out of manual release.  The
guard only looks at one state of the shipped workflows.
-/
def applyImplementationReviewRefinementGuard
    (plan : RunPlan) (world : World) (ctx : Context) (currentStateId : String)
    (state : CompiledState) (allStages : List StageExecution)
    (candidates : List CandidateTransitionEvaluation) :
    Except Failure (List CandidateTransitionEvaluation) :=
  if currentStateId ≠ "state_9_implementation_reviewed" then .ok candidates
  else
    match state.transitions.findIdx? fun transition =>
        transition.toState = "state_11_manual_release" with
    | none => .ok candidates
    | some releaseIndex =>
        let releaseMatched :=
          (candidates[releaseIndex]?).map (·.result) = some .matched
        match Condition.canonicalContractFieldResult ctx
            "implementation_review_summary".toList "status".toList with
        | .error error => .error (.error error)
        | .ok status =>
            let label := "implementation_review_summary.status=".toList ++
              reviewStatusLabel world status
            if status = .resolved
                (.string (implementationReviewTargetStatus plan)) then
              .ok candidates
            else if ¬releaseMatched ∧ ¬statusRequiresRefine status then
              .ok candidates
            else
              match state.transitions.findIdx? fun transition =>
                  transition.toState = "state_10_implementation_refined" with
              | none =>
                  .ok (candidates.modify releaseIndex fun candidate =>
                    candidate.override .notMatched (label ++
                      (" cannot enter manual release, and no refinement " ++
                        "transition exists").toList))
              | some refineIndex =>
                  let held := candidates.modify releaseIndex fun candidate =>
                    candidate.override .notMatched (label ++
                      (" routes back to implementation refinement, not " ++
                        "manual release").toList)
                  match closeoutLoopBudgetExhaustion plan allStages
                      "state_10_implementation_refined" with
                  | some exhaustion =>
                      .ok (held.modify refineIndex fun candidate =>
                        candidate.override .notMatched (label ++
                          (" requires refinement, but loop budget exhausted " ++
                            "for ").toList ++ exhaustion.describe))
                  | none =>
                      .ok (held.modify refineIndex fun candidate =>
                        candidate.override .matched (label ++
                          (" requires continued implementation " ++
                            "refinement").toList))

/-- The candidates of a state after both guards. -/
def candidateEvaluations
    (plan : RunPlan) (world : World) (db : Database) (currentStateId : String)
    (state : CompiledState) (allStages : List StageExecution) :
    Except Failure (List CandidateTransitionEvaluation) :=
  let ctx := world.context plan db currentStateId
  match state.transitions.zipIdx.mapM
      (evaluateTransitionCandidate ctx currentStateId) with
  | none => .error .panic
  | some evaluated =>
      applyImplementationReviewRefinementGuard plan world ctx currentStateId
        state allStages (evaluated.map (applyLoopBudget plan allStages))

/-! ## Conflicts -/

/-- A candidate that reads the proposal review summary. -/
def readsProposalReviewSummary
    (candidate : CandidateTransitionEvaluation) : Bool :=
  "proposal_review_summary".toList ∈ candidate.requiredArtifacts

/-- The contradiction in a review summary that some candidate reads. -/
def aggregateTransitionTruthConflict
    (ctx : Context) (candidates : List CandidateTransitionEvaluation) :
    Option Text :=
  if candidates.any readsProposalReviewSummary then
    (Condition.readArtifactJson ctx "proposal_review_summary".toList).bind
      proposalReviewSummaryTransitionTruthConflict
  else none

/-- Mark the candidates that read a contradictory summary. -/
def annotateAggregateTransitionTruthConflict
    (candidates : List CandidateTransitionEvaluation) (diagnostic : Text) :
    List CandidateTransitionEvaluation :=
  candidates.map fun candidate =>
    if readsProposalReviewSummary candidate then
      candidate.override .evaluationError diagnostic
    else candidate

/-- The candidates that are matched. -/
def matchedCandidates
    (candidates : List CandidateTransitionEvaluation) :
    List CandidateTransitionEvaluation :=
  candidates.filter fun candidate => candidate.result = .matched

/-- Why some candidates do not decide a transition. -/
def classifyWorkflowConflictReason
    (candidates : List CandidateTransitionEvaluation) :
    Option WorkflowConflictReason :=
  let matchedCount := (matchedCandidates candidates).length
  if matchedCount = 1 then none
  else if 1 < matchedCount then
    some .multipleDeclarativeTransitionsMatchedWithoutTieBreak
  else if candidates.any fun candidate =>
      candidate.result = .invalidExpression ||
        candidate.result = .evaluationError then
    some .workflowConflictUnverifiable
  else if candidates.any fun candidate => candidate.result = .missingInput then
    some .requiredArtifactOrFieldMissingForTransition
  else some .noDeclarativeTransitionMatched

def initialWorkflowConflictStatus :
    WorkflowConflictReason → WorkflowConflictStatus
  | .aggregateTransitionTruthConflicted => .operatorConfirmationRequired
  | .workflowConflictUnverifiable => .terminalUnverifiable
  | _ => .unresolved

/-- The latest execution of a state, by iteration, attempt and start. -/
def latestStageExecutionIdForState
    (allStages : List StageExecution) (stateId : String) :
    Option StageExecutionId :=
  let later (a b : StageExecution) : StageExecution :=
    if toLex (a.iteration, toLex (a.attemptNumber, (a.startedAt : ℤ))) ≤
        toLex (b.iteration, toLex (b.attemptNumber, (b.startedAt : ℤ)))
      then b else a
  match allStages.filter fun stage => stage.stageId = stateId with
  | [] => none
  | first :: rest => some (rest.foldl later first).id

/-- Record a conflict at a state and block the run. -/
def recordWorkflowConflictAndBlock
    (db : Database) (currentStateId : String)
    (allStages : List StageExecution)
    (candidates : List CandidateTransitionEvaluation)
    (reasonOverride : Option WorkflowConflictReason) : Database :=
  let reason := (reasonOverride.or
    (classifyWorkflowConflictReason candidates)).getD
      .noDeclarativeTransitionMatched
  (db.upsertConflict
    { stageExecutionId :=
        latestStageExecutionIdForState allStages currentStateId
      currentStateId := currentStateId
      reason := reason
      status := initialWorkflowConflictStatus reason
      candidateTransitions := candidates }).blockRun

/-! ## The transition -/

/-- The iteration number after the highest one of a state. -/
def nextIteration (stages : List StageExecution) (stateId : String) : ℤ :=
  (((stages.filter fun stage => stage.stageId = stateId).map
    (·.iteration)).max?.getD 0) + 1

/-- A new execution of a state, in its next iteration. -/
def newStage
    (world : World) (db : Database) (stateId : String)
    (state : CompiledState) : StageExecution where
  id := db.stages.length
  stageId := stateId
  status := .pending
  iteration := nextIteration db.listStages stateId
  attemptNumber := 1
  startedAt := world.now
  stageType := state.stateType

/-- Move the run along a selected transition.  A transition of a state to
itself creates the next iteration at once. -/
def takeTransition
    (plan : RunPlan) (world : World) (currentStateId target : String)
    (db : Database) : Outcome :=
  match world.validateTransition currentStateId target with
  | .error error => { database := db, failure := some (.error error) }
  | .ok () =>
      if target = currentStateId then
        match plan.state? target with
        | none =>
            { database := db
              failure := some (.error
                ("Transition target state not found: " ++ target).toList) }
        | some targetState =>
            { database := (db.insertStage
                (newStage world db target targetState)).setCurrentState
                  target }
      else { database := db.setCurrentState target }

/-- Evaluate the transitions of a state and advance the run. -/
def evaluateAndTransition
    (plan : RunPlan) (world : World) (currentStateId : String)
    (allStages : List StageExecution) (db : Database) : Outcome :=
  match plan.state? currentStateId with
  | none => { database := db }
  | some state =>
      if state.isEnd then { database := db.setRunStatus .completed }
      else
        match candidateEvaluations plan world db currentStateId state
            allStages with
        | .error failure => { database := db, failure := some failure }
        | .ok candidates =>
            let ctx := world.context plan db currentStateId
            match aggregateTransitionTruthConflict ctx candidates with
            | some diagnostic =>
                { database := recordWorkflowConflictAndBlock db currentStateId
                    allStages
                    (annotateAggregateTransitionTruthConflict candidates
                      diagnostic)
                    (some .aggregateTransitionTruthConflicted) }
            | none =>
                match matchedCandidates candidates with
                | [selected] =>
                    takeTransition plan world currentStateId
                      selected.toStateId db
                | [] =>
                    if state.transitions.isEmpty then
                      { database := db.setRunStatus .completed }
                    else
                      { database := recordWorkflowConflictAndBlock db
                          currentStateId allStages candidates none }
                | _ =>
                    { database := recordWorkflowConflictAndBlock db
                        currentStateId allStages candidates none }

/-! ## A quiet world -/

/-- Reads that find no artifact, no contract and no approval binding. -/
def emptyContext : Context where
  currentStateId := []
  planVariables := fun _ => none
  artifactPath := fun _ => none
  hasMetaRoot := false
  artifactRoot := []
  runId := []
  pathExists := fun _ => false
  readJson := fun _ => none
  controlledField := fun _ _ => .ok none
  controlledExists := fun _ => .ok false
  outputForPredicate := fun _ => .ok .ordinaryRun
  selfAssessmentSummary := none
  approvals := []
  authorizes := fun _ => .ok none
  runtimeFlavor := .multiThread

/-- A world in which no check of a step objects. -/
def quietWorld (now : Nat) : World where
  now := now
  reads := emptyContext
  jsonText := fun _ => []
  validateTransition := fun _ _ => .ok ()
  repairMissingApproval := false
  ideaPresent := true
  selfAssessmentBlocked := false
  synthesizeReview := .ok ()
  authorizeSnapshot := .ok ()
  rolloutContractHold := false
  approvedProposalPresent := true
  provisionWorktree := .ok "/worktree"
  worktreeReady := true
  boundaryEvaluation := .ok ()
  routingSucceeds := true
  selectionPlan := none
  decodeAgent := fun agentId => .ok { agentId := agentId, provider := "acp" }
  alreadyMaterialized := fun _ => false
  recordInserted := fun _ => true
  handoffMissing := fun _ => []
  buildPrompt := fun _ => .ok ()
  buildReviewerPrompt := fun _ => .ok ()
  buildOwnerPrompt := .ok ()
  beforeDispatch := fun _ => .ok ()
  failedStageRetry := fun _ => .ok .notScheduled

end ChainworksForge.Engine
