import ChainworksForge.Engine.Transition

/-!
# Advancing a run

`advanceRunWorkflow` is the step of the orchestrator.  It looks at the latest
execution of the current state.  A running execution is kick-started, moved to
its next phase of tasks, or settled.  A completed one is left along a
transition.  A terminal execution of an earlier visit is stale, and the state
is entered afresh.

Work is dispatched in phases.  The tasks of phase 0 are queued when the state
is entered; a later phase is queued when everything queued so far is settled
and nothing failed.  A state with `dynamicParallel` queues the selected
reviewers in place of its phase 0.
-/

namespace ChainworksForge.Engine

open ChainworksForge.Support ChainworksForge.Workflow

/-! ## Votes of agent executions -/

/-- The execution that stands for an invocation: the claimed one, otherwise
the last one of its agent. -/
def workItemAgentExecution
    (item : InvokeItem) (stageAgentExecutions : List AgentExecution) :
    Option AgentExecution :=
  let finishedAt (execution : AgentExecution) : Nat :=
    execution.completedAt.getD execution.startedAt
  match item.claimedExecution with
  | some claimedId =>
      stageAgentExecutions.find? fun execution => execution.id = claimedId
  | none =>
      match stageAgentExecutions.filter fun execution =>
          execution.agentId = item.agentId with
      | [] => none
      | first :: rest =>
          some (rest.foldl (fun latest execution =>
            if finishedAt latest ≤ finishedAt execution then execution
            else latest) first)

/-- An invocation that needs no further work. -/
def authoritativeInvokeSettled
    (stageAgentExecutions : List AgentExecution) (item : InvokeItem) : Bool :=
  match item.status with
  | .completed | .failed | .cancelled => true
  | .running =>
      (workItemAgentExecution item stageAgentExecutions).any fun execution =>
        execution.status ≠ .running
  | .pending => false

/-- An execution whose outcome counts as a failure. -/
def agentExecutionVotesFailed
    (facts : List RuntimeFacts) (execution : AgentExecution) : Bool :=
  if execution.status = .failed then true
  else
    match facts.find? fun row => row.agentExecutionId = execution.id with
    | none => execution.status = .completed
    | some row =>
        row.failureKind.isSome ||
          row.outputSettlement = .missingRequiredOutputs ||
          row.outputSettlement = .invalidRequiredOutputs

/-- An invocation that failed. -/
def authoritativeInvokeFailed
    (stageAgentExecutions : List AgentExecution) (facts : List RuntimeFacts)
    (item : InvokeItem) : Bool :=
  match item.status with
  | .failed => true
  | .cancelled | .pending => false
  | .completed =>
      (workItemAgentExecution item stageAgentExecutions).any
        (agentExecutionVotesFailed facts)
  | .running =>
      (workItemAgentExecution item stageAgentExecutions).any fun execution =>
        execution.status ≠ .running &&
          agentExecutionVotesFailed facts execution

namespace Database

/-- The agent executions of a stage execution. -/
def stageAgentExecutions
    (db : Database) (id : StageExecutionId) : List AgentExecution :=
  db.executions.filter fun execution => execution.stageExecutionId = id

/-- Whether an invocation of a stage is settled. -/
def settled (db : Database) (item : InvokeItem) : Bool :=
  authoritativeInvokeSettled
    (db.stageAgentExecutions item.stageExecutionId) item

/-- Whether an invocation of a stage failed. -/
def voteFailed (db : Database) (item : InvokeItem) : Bool :=
  authoritativeInvokeFailed
    (db.stageAgentExecutions item.stageExecutionId) db.facts item

end Database

/-! ## Tasks and phases -/

/-- The tasks that a running execution works through. -/
def effectiveTasks
    (state : CompiledState) (isPostApproval : Bool) : List CompiledTask :=
  if isPostApproval && !state.postApprovalTasks.isEmpty then
    state.postApprovalTasks
  else state.tasks

/-- Some approval of the state was granted. -/
def isPostApproval
    (state : CompiledState) (stateId : String) (db : Database) : Bool :=
  state.isManualGate &&
    db.approvals.any fun row =>
      row.stageId = stateId ∧ row.decision = .granted

/-- The phase that an invocation belongs to. -/
def itemPhase
    (effective : List CompiledTask) (item : InvokeItem) : Option Nat :=
  item.dynamicPhase.or ((effective[item.taskIndex]?).map (·.phase))

/-- The highest phase that was queued. -/
def currentPhase
    (effective : List CompiledTask) (invokes : List InvokeItem) : Nat :=
  (invokes.filterMap (itemPhase effective)).max?.getD 0

/-- The lowest phase above a given one. -/
def nextPhase (effective : List CompiledTask) (phase : Nat) : Option Nat :=
  ((effective.map (·.phase)).filter fun p => phase < p).min?

/-- Some invocation belongs to a phase. -/
def phaseEnqueued
    (effective : List CompiledTask) (invokes : List InvokeItem) (phase : Nat) :
    Bool :=
  invokes.any fun item => itemPhase effective item = some phase

/-- The tasks of a phase, with their positions. -/
def tasksOfPhase
    (effective : List CompiledTask) (phase : Nat) :
    List (CompiledTask × Nat) :=
  effective.zipIdx.filter fun entry => entry.1.phase = phase

/-! ## Dispatch -/

def isCodeWriterImplementationTask (task : CompiledTask) : Bool :=
  task.agent.agentId = "code_writer" &&
    (task.taskName = "start_implementation" ||
      task.taskName = "initial_implementation" ||
      task.taskName = "continue_implementation" ||
      task.taskName = "refine_implementation" ||
      task.taskName = "refine_implementation_from_findings")

def isInlineRuntimeInput (inputName : String) : Bool :=
  inputName = "input.idea" || inputName = "idea" ||
    inputName = "input.file" || inputName = "file"

/-- The inputs of a task that have to be artifacts. -/
def requiredArtifacts (task : CompiledTask) : List String :=
  task.inputs.filter fun name => !isInlineRuntimeInput name

/-- Record that inputs of an implementation task are missing. -/
def persistImplementationHandoffUnavailableConflict
    (db : Database) (stage : StageExecution)
    (required missing : List String) : Database :=
  db.upsertConflict
    { stageExecutionId := some stage.id
      currentStateId := stage.stageId
      reason := .implementationHandoffUnavailable
      status := .unresolved
      candidateTransitions :=
        [{ transitionId := stage.stageId ++ "__implementation_handoff"
           fromStateId := stage.stageId
           toStateId := stage.stageId
           conditionExpressionId :=
             some "implementation_handoff.required_inputs"
           result := .missingInput
           requiredArtifacts := required.map (·.toList)
           missingArtifacts := missing.map (·.toList)
           missingFields := []
           sourceArtifactIds := []
           sanitizedDiagnostic := some
             ("Implementation handoff is missing required input " ++
               "artifact(s): " ++ String.intercalate ", " missing).toList }] }

/-- Block a stage and its run because a prompt cannot be built. -/
def blockPromptFinalizationFailure
    (db : Database) (stage : StageExecution) : Database :=
  (db.setStageStatus stage.id .blocked).setRunStatus .blocked

/-- Continue with the idea of the run, or block the stage without it. -/
def withIdea
    (plan : RunPlan) (world : World) (stage : StageExecution) (db : Database)
    (next : Outcome) : Outcome :=
  if world.ideaPresent then next
  else if plan.missionContextVersion = some "agent_mission_context_v1" then
    { database := blockPromptFinalizationFailure db stage }
  else
    { database := db
      failure := some (.error "mission_context_source_missing: Idea".toList) }

/-- The invocation of a task. -/
def taskItem
    (stage : StageExecution) (agentId : String) (taskIndex totalTasks : Nat) :
    InvokeItem where
  id := .task stage.id taskIndex
  stageExecutionId := stage.id
  agentId := agentId
  taskIndex := taskIndex
  totalTasks := totalTasks

/-- Queue the invocation of a task. -/
def enqueueInvokeAgent
    (world : World) (db : Database) (item : InvokeItem) :
    Except Failure Database :=
  match world.beforeDispatch item.taskIndex with
  | .error error => .error (.error error)
  | .ok () =>
      match db.enqueueInvoke item with
      | none => .error (.error "UNIQUE constraint failed: work_items.id".toList)
      | some db => .ok db

/-- Queue some tasks one after the other.  A missing input or a prompt that
cannot be built blocks the stage; an error leaves the rest undispatched. -/
def dispatchTasks
    (world : World) (stage : StageExecution) (totalTasks : Nat) :
    List (CompiledTask × Nat) → Database → Outcome
  | [], db => { database := db }
  | (task, taskIndex) :: rest, db =>
      let missing := world.handoffMissing task
      if isCodeWriterImplementationTask task && !missing.isEmpty then
        { database :=
            ((persistImplementationHandoffUnavailableConflict db stage
              (requiredArtifacts task) missing).setStageStatus stage.id
                .blocked).blockRun }
      else
        match world.buildPrompt task with
        | .error _ => { database := blockPromptFinalizationFailure db stage }
        | .ok () =>
            match enqueueInvokeAgent world db
                (taskItem stage task.agent.agentId taskIndex totalTasks) with
            | .error failure => { database := db, failure := some failure }
            | .ok db => dispatchTasks world stage totalTasks rest db

/-- Queue the owner of a state without tasks. -/
def dispatchOwner
    (world : World) (stage : StageExecution) (state : CompiledState)
    (db : Database) : Outcome :=
  match world.buildOwnerPrompt with
  | .error error => { database := db, failure := some (.error error) }
  | .ok () =>
      match enqueueInvokeAgent world db
          (taskItem stage state.owner.agentId 0 1) with
      | .error failure => { database := db, failure := some failure }
      | .ok db => { database := db }

/-- Queue the first phase of some tasks, or the owner where there are none. -/
def dispatchFirstPhase
    (world : World) (stage : StageExecution) (state : CompiledState)
    (tasks : List CompiledTask) (db : Database) : Outcome :=
  if tasks.isEmpty then dispatchOwner world stage state db
  else dispatchTasks world stage tasks.length (tasksOfPhase tasks 0) db

/-! ## Selected reviewers -/

/-- The reviewers of a selection plan that are to be queued, or the reason why
none is. -/
def prepareReviewers
    (plan : RunPlan) (world : World) (stage : StageExecution)
    (selection : AgentSelectionPlan) (totalTasks : Nat) :
    List (SelectedAgent × Nat) → Except (Option Failure) (List InvokeItem)
  | [] => .ok []
  | (selected, index) :: rest =>
      let later := prepareReviewers plan world stage selection totalTasks rest
      match plan.dynamicCandidateBindings.reverse.find? fun binding =>
          binding.agentId = selected.agentId with
      | none => later
      | some binding =>
          if world.alreadyMaterialized binding.bindingId then later
          else
            match world.decodeAgent binding.resolvedAgentSnapshotJson with
            | .error error => .error (some (.error error))
            | .ok agent =>
                match world.buildReviewerPrompt selected with
                | .error _ => .error none
                | .ok () =>
                    match later with
                    | .error reason => .error reason
                    | .ok items =>
                        .ok ({ id := .reviewer stage.id selection.planHash index
                               stageExecutionId := stage.id
                               agentId := agent.agentId
                               taskIndex := index
                               totalTasks := totalTasks
                               dynamicPhase := some 0 } :: items)

/-- Queue some items in one transaction. -/
def enqueueAll (items : List InvokeItem) (db : Database) : Option Database :=
  items.foldlM Database.enqueueInvoke db

/-- Queue the selected reviewers of a stage together. -/
def materializeDynamicParallel
    (plan : RunPlan) (world : World) (stage : StageExecution)
    (selection : AgentSelectionPlan) (db : Database) : Outcome :=
  let thenTaskCount :=
    ((plan.state? stage.stageId).map fun state =>
      (state.tasks.filter fun task => 0 < task.phase).length).getD 0
  let totalTasks := selection.selectedAgents.length + thenTaskCount
  match prepareReviewers plan world stage selection totalTasks
      selection.selectedAgents.zipIdx with
  | .error none => { database := blockPromptFinalizationFailure db stage }
  | .error (some failure) => { database := db, failure := some failure }
  | .ok prepared =>
      match enqueueAll (prepared.filter fun item =>
          world.recordInserted item.taskIndex) db with
      | none =>
          { database := db
            failure := some (.error
              "UNIQUE constraint failed: work_items.id".toList) }
      | some db => { database := db }

/-- Run the in-process task of a state, or route its reviewers.  The Boolean
says whether the stage was settled by that. -/
def executeSystemRoutingIfApplicable
    (plan : RunPlan) (world : World) (stage : StageExecution)
    (db : Database) : Except Failure (Bool × Database) :=
  let systemTask := (plan.state? stage.stageId).bind (·.systemTask)
  match systemTask.filter fun task =>
      task.taskType = "quality_gate_boundary_evaluator" with
  | some task =>
      if task.executorMode ≠ "system.quality_gate_boundary" then
        .error (.error
          ("P094 quality_gate_boundary_evaluator requires " ++
            "executor_mode=system.quality_gate_boundary").toList)
      else
        match world.boundaryEvaluation with
        | .error error => .error (.error error)
        | .ok () => .ok (true, db.setStageStatus stage.id .completed)
  | none =>
      if plan.dynamicCandidateBindings.isEmpty || world.routingSucceeds then
        .ok (false, db)
      else
        .ok (true, (db.setStageStatus stage.id .failed).setRunStatus .blocked)

/-- Route and queue the selected reviewers where there is a selection plan;
otherwise queue the static tasks. -/
def dispatchStage
    (plan : RunPlan) (world : World) (stage : StageExecution)
    (state : CompiledState) (tasks : List CompiledTask)
    (db : Database) : Outcome :=
  match executeSystemRoutingIfApplicable plan world stage db with
  | .error failure => { database := db, failure := some failure }
  | .ok (true, db) => { database := db }
  | .ok (false, db) =>
      match state.dynamicParallel, world.selectionPlan with
      | some _, some (.ok selection) =>
          materializeDynamicParallel plan world stage selection db
      | some _, some (.error error) =>
          { database := db, failure := some (.error error) }
      | _, _ => dispatchFirstPhase world stage state tasks db

/-! ## A running execution -/

/-- Start an execution that runs without any invocation. -/
def kickstart
    (plan : RunPlan) (world : World) (stage : StageExecution)
    (state : CompiledState) (effective : List CompiledTask)
    (db : Database) : Outcome :=
  withIdea plan world stage db
    (if state.dynamicParallel.isSome then
      dispatchStage plan world stage state effective db
    else dispatchFirstPhase world stage state effective db)

/-- The next attempt number of a state. -/
def nextAttemptNumber
    (stages : List StageExecution) (stage : StageExecution) : ℤ :=
  (((stages.filter fun other => other.stageId = stage.stageId).map
    (·.attemptNumber)).max?.getD stage.attemptNumber) + 1

/-- Replace an execution by another attempt at the same iteration. -/
def supersedeStage
    (world : World) (db : Database) (stage : StageExecution)
    (status : StageStatus) : Database :=
  let attempt : StageExecution :=
    { stage with
      id := db.stages.length
      status := status
      attemptNumber := nextAttemptNumber db.listStages stage
      startedAt := world.now }
  (((db.setStageStatus stage.id .skipped).insertStage attempt).setRunStatus
    .running).setCurrentState stage.stageId

/-- The invocation of a targeted retry on a new attempt. -/
def retryItem (source : InvokeItem) (attempt : StageExecutionId) : InvokeItem :=
  { source with
    id := .targetedRetry attempt
    stageExecutionId := attempt
    claimedExecution := none
    status := .pending }

/-- Queue one invocation again on a new running attempt. -/
def scheduleTargetedRetry
    (world : World) (db : Database) (stage : StageExecution)
    (source : InvokeItem) : Outcome :=
  let attempt := db.stages.length
  match (supersedeStage world db stage .running).enqueueInvoke
      (retryItem source attempt) with
  | none =>
      { database := db
        failure := some (.error
          "UNIQUE constraint failed: work_items.id".toList) }
  | some db => { database := db }

/-- Settle an execution whose invocations are all settled. -/
def settleRunning
    (plan : RunPlan) (world : World) (stateId : String) (state : CompiledState)
    (stage : StageExecution) (allStages : List StageExecution)
    (failed : Nat) (db : Database) : Outcome :=
  if 0 < failed then
    let settledFailed : Outcome :=
      { database :=
          (db.setStageStatus stage.id .failed).setRunStatus .blocked }
    match world.failedStageRetry stage with
    | .error error => { database := db, failure := some (.error error) }
    | .ok (.scheduled source) => scheduleTargetedRetry world db stage source
    | .ok (.authorityInvalid false) => { database := db }
    | .ok (.authorityInvalid true) => settledFailed
    | .ok .notScheduled => settledFailed
  else
    let db := db.setStageStatus stage.id .completed
    if state.isEnd then { database := db.setRunStatus .completed }
    -- the list of executions was read before this one was settled
    else evaluateAndTransition plan world stateId allStages db

/-- Advance a running execution. -/
def advanceRunning
    (plan : RunPlan) (world : World) (stateId : String) (state : CompiledState)
    (stage : StageExecution) (allStages : List StageExecution)
    (db : Database) : Outcome :=
  let invokes := db.stageInvokes stage.id
  let effective := effectiveTasks state (isPostApproval state stateId db)
  let failed := (invokes.filter db.voteFailed).length
  if invokes.any fun item => item.status.inFlight then { database := db }
  else if invokes.isEmpty then
    kickstart plan world stage state effective db
  else if invokes.all db.settled then
    match nextPhase effective (currentPhase effective invokes) with
    | some phase =>
        if !phaseEnqueued effective invokes phase && failed == 0 then
          withIdea plan world stage db
            (dispatchTasks world stage effective.length
              (tasksOfPhase effective phase) db)
        else
          settleRunning plan world stateId state stage allStages failed db
    | none => settleRunning plan world stateId state stage allStages failed db
  else { database := db }

/-! ## Entering a state -/

def stateProducesImplementationReview (state : CompiledState) : Bool :=
  (state.tasks.any fun task =>
      "implementation_review_summary" ∈ task.outputs) ||
    state.transitions.any fun transition =>
      (Text.splitFirst "implementation_review_summary.".toList
        transition.condition.toList).isSome

/-- An agent that writes to a worktree of its own or a shared one. -/
def needsWorktree (agent : ResolvedAgent) : Bool :=
  agent.worktreeWriteEnabled && agent.worktreeStrategy ≠ some "meta_only"

/-- An agent that works in a worktree, writing or not. -/
def usesWorktree (agent : ResolvedAgent) : Bool :=
  agent.worktreeStrategy = some "dedicated" ||
    agent.worktreeStrategy = some "shared_implementation_worktree"

/-- The agents of a state: its owner and those of its tasks. -/
def stateAgents (state : CompiledState) : List ResolvedAgent :=
  state.tasks.map (·.agent) ++ state.postApprovalTasks.map (·.agent) ++
    [state.owner]

/-- Wait for an approval of an execution of a manual gate. -/
def awaitApproval (db : Database) (stage : StageExecution) : Database :=
  let db := (db.setStageStatus stage.id .waitingApproval).requestApproval
    stage.stageId
  if db.run.status = .waitingApproval then db
  else db.setRunStatus .waitingApproval

/-- Start the pending execution of a state, or create one. -/
def openStage
    (world : World) (stateId : String) (state : CompiledState)
    (pending : Option StageExecution) (db : Database) :
    StageExecution × Database :=
  match pending with
  | some stage => (stage, db)
  | none =>
      let stage := newStage world db stateId state
      (stage, db.insertStage stage)

/-- Hold an implementation before it starts. -/
def holdImplementationStart
    (world : World) (stage : StageExecution) (task : CompiledTask)
    (db : Database) : Database :=
  let missing :=
    if "approved_proposal" ∈ requiredArtifacts task ∧
        ¬world.approvedProposalPresent then ["approved_proposal"] else []
  let noted :=
    if missing.isEmpty then db
    else persistImplementationHandoffUnavailableConflict db stage
      (requiredArtifacts task) missing
  (noted.setStageStatus stage.id .blocked).blockRun

/-- Dispatch the work of a running execution if its worktree is ready. -/
def dispatchWork
    (plan : RunPlan) (world : World) (state : CompiledState)
    (stage : StageExecution) (db : Database) : Outcome :=
  withIdea plan world stage db
    (if ((stateAgents state).any needsWorktree ||
        (stateAgents state).any usesWorktree) && !world.worktreeReady then
      { database := db.setRunStatus .blocked }
    else dispatchStage plan world stage state state.tasks db)

/-- Provision a worktree where one is needed, then dispatch the work. -/
def startWork
    (plan : RunPlan) (world : World) (state : CompiledState)
    (stage : StageExecution) (db : Database) : Outcome :=
  if (stateAgents state).any needsWorktree && db.run.worktreeRoot.isNone then
    withIdea plan world stage db
      (match world.provisionWorktree with
      | .error _ => { database := db.setRunStatus .blocked }
      | .ok root =>
          dispatchWork plan world state stage
            { db with run := { db.run with worktreeRoot := some root } })
  else dispatchWork plan world state stage db

/-- Enter a state that computes. -/
def enterCompute
    (plan : RunPlan) (world : World) (stateId : String) (state : CompiledState)
    (pending : Option StageExecution) (db : Database) : Outcome :=
  let (stage, db) := openStage world stateId state pending db
  let start : Outcome :=
    let running := db.setStageStatus stage.id .running
    startWork plan world state stage
      (if running.run.status = .running then running
      else running.setRunStatus .running)
  match (state.tasks ++ state.postApprovalTasks).find?
      isCodeWriterImplementationTask with
  | none => start
  | some task =>
      match world.authorizeSnapshot with
      | .error error => { database := db, failure := some (.error error) }
      | .ok () =>
          if world.rolloutContractHold then
            { database := holdImplementationStart world stage task db }
          else start

/-- Complete a review of a blocked implementation without running it. -/
def synthesizeBlockedReview
    (plan : RunPlan) (world : World) (stateId : String) (state : CompiledState)
    (pending : Option StageExecution) (db : Database) : Outcome :=
  let (stage, db) := openStage world stateId state pending db
  let db := db.setStageStatus stage.id .running
  match world.synthesizeReview with
  | .error error => { database := db, failure := some (.error error) }
  | .ok () =>
      let db := db.setStageStatus stage.id .completed
      evaluateAndTransition plan world stateId db.listStages db

/-- Settle an end state without tasks. -/
def completeBareEnd
    (world : World) (stateId : String) (state : CompiledState)
    (db : Database) : Outcome :=
  let db := db.insertStage (newStage world db stateId state)
  match db.listStages.find? fun stage => stage.stageId = stateId with
  | none => { database := db, failure := some .panic }
  | some endStage =>
      { database :=
          (db.setStageStatus endStage.id .completed).setRunStatus .completed }

/-- Enter a state. -/
def enterState
    (plan : RunPlan) (world : World) (stateId : String) (state : CompiledState)
    (pending : Option StageExecution) (db : Database) : Outcome :=
  if state.isEnd && state.tasks.isEmpty then
    completeBareEnd world stateId state db
  else if state.isManualGate then
    let stage := newStage world db stateId state
    { database := awaitApproval (db.insertStage stage) stage }
  else if stateProducesImplementationReview state &&
      world.selfAssessmentBlocked then
    synthesizeBlockedReview plan world stateId state pending db
  else enterCompute plan world stateId state pending db

/-! ## The step -/

/-- A terminal execution of an earlier visit: an execution of another state
started after it. -/
def stageIsStale
    (allStages : List StageExecution) (stage : StageExecution) : Bool :=
  stage.status.isTerminal &&
    allStages.any fun other =>
      other.stageId ≠ stage.stageId ∧ stage.startedAt < other.startedAt

/-- Act on the latest execution of a state. -/
def advanceStage
    (plan : RunPlan) (world : World) (stateId : String) (state : CompiledState)
    (stage : StageExecution) (allStages : List StageExecution)
    (db : Database) : Outcome :=
  match stage.status with
  | .running => advanceRunning plan world stateId state stage allStages db
  | .waitingApproval =>
      if world.repairMissingApproval then
        { database := (db.requestApproval stateId).setRunStatus
            .waitingApproval }
      else { database := db }
  | .completed => evaluateAndTransition plan world stateId allStages db
  | .failed | .blocked =>
      if state.isEnd && allStages.any fun other =>
          other.stageId = stateId ∧ other.status = .completed then
        { database := db.setRunStatus .completed }
      else { database := db.blockRun }
  | .skipped => evaluateAndTransition plan world stateId allStages db
  | .pending =>
      if state.isManualGate then { database := awaitApproval db stage }
      else enterState plan world stateId state (some stage) db
  | .ready => enterState plan world stateId state none db

/-- One step of the orchestrator, for the current state of the run or for a
targeted execution. -/
def advanceRunWorkflow
    (plan : RunPlan) (world : World) (target : Option StageExecution)
    (db : Database) : Outcome :=
  let stateId := (target.map (·.stageId)).getD
    (db.run.currentState.getD plan.initialState)
  match plan.state? stateId with
  | none => { database := db }
  | some state =>
      let allStages := db.listStages
      let current := target.or
        ((allStages.filter fun stage => stage.stageId = stateId).getLast?)
      match current with
      | none => enterState plan world stateId state none db
      | some stage =>
          if target.isNone && stageIsStale allStages stage then
            enterState plan world stateId state none db
          else advanceStage plan world stateId state stage allStages db

/-- Advance a run. -/
def advanceRun (plan : RunPlan) (world : World) (db : Database) : Outcome :=
  if db.run.status.isTerminal then { database := db }
  else advanceRunWorkflow plan world none db

/-- Advance a run at the execution that an active retry authority names. -/
def advanceRunTargeted
    (plan : RunPlan) (world : World) (target : StageExecutionId)
    (db : Database) : Outcome :=
  match db.findStage target with
  | none =>
      { database := db
        failure := some (.error "advance_run_target_missing".toList) }
  | some stage =>
      if stage.status.isTerminal && stage.status ≠ .completed then
        { database := db }
      else if db.run.status.isTerminal then { database := db }
      else advanceRunWorkflow plan world (some stage) db

end ChainworksForge.Engine
