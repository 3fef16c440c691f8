import ChainworksForge.Engine.Advance

/-!
# Commands, agents and runs

Besides the orchestrator, three parties write the rows of a run: the workers
that execute invocations, the reviewers who decide approvals, and the operator
who retries stages.  `Event` names every step, `Database.apply` is its effect,
and a run is a list of events.  A refused command changes nothing.
-/

namespace ChainworksForge.Engine

open ChainworksForge.Support ChainworksForge.Workflow
open ChainworksForge.Condition (ApprovalDecision)

/-! ## Approvals -/

/-- An approval that waits for a decision. -/
def ApprovalRow.isOpen (row : ApprovalRow) : Bool :=
  row.decision = .pending || row.decision = .requested

/-- The decision of an approval command. -/
def decisionOf (grant : Bool) : ApprovalDecision :=
  if grant then .granted else .rejected

/-- Write a decision. -/
def Database.decideApproval
    (db : Database) (approvalId : Nat) (decision : ApprovalDecision) :
    Database :=
  { db with
    approvals := db.approvals.map fun row =>
      if row.id = approvalId then { row with decision := decision } else row }

/-- The state of the shipped workflows whose rejection goes to refinement. -/
def manualReleaseStateId : String := "state_11_manual_release"

/-- Where a rejected manual release is sent. -/
def implementationRefinedStateId : String := "state_10_implementation_refined"

/-- The status of a waiting execution after a decision. -/
def statusAfterDecision
    (plan : RunPlan) (grant : Bool) (stage : StageExecution) : StageStatus :=
  if stage.stageType = some "manual_gate" then
    if grant && (plan.state? stage.stageId).any fun state =>
        !state.postApprovalTasks.isEmpty then .running
    else .completed
  else if grant then .running
  else .blocked

/-- The execution that waits for a decision on a state. -/
def Database.waitingStage
    (db : Database) (stageId : String) : Option StageExecution :=
  db.listStages.find? fun stage =>
    stage.stageId = stageId ∧ stage.status = .waitingApproval

/-- Decide an approval and settle the execution that waits for it. -/
def settleApproval
    (plan : RunPlan) (grant : Bool) (approval : ApprovalRow) (db : Database) :
    Database :=
  let db := db.decideApproval approval.id (decisionOf grant)
  match db.waitingStage approval.stageId with
  | none => db
  | some stage =>
      db.setStageStatus stage.id (statusAfterDecision plan grant stage)

/-- `ApproveStage` and `RejectStage`: decide the open approval of a state. -/
def decideStage
    (plan : RunPlan) (grant : Bool) (stageId : String) (db : Database) :
    Database :=
  match db.approvals.find? fun row => row.stageId = stageId ∧ row.isOpen with
  | none => db
  | some approval => settleApproval plan grant approval db

/-- A rejection that sends the run back to refinement at once. -/
def reroutesToRefinement
    (grant : Bool) (approval : ApprovalRow) (db : Database) : Bool :=
  !grant && approval.stageId = manualReleaseStateId &&
    (db.waitingStage approval.stageId).any fun stage =>
      stage.stageType = some "manual_gate"

/-- `ResolveApproval`: decide an approval by its identifier. -/
def resolveApproval
    (plan : RunPlan) (grant : Bool) (approvalId : Nat) (db : Database) :
    Database :=
  match db.approvals.find? fun row => row.id = approvalId ∧ row.isOpen with
  | none => db
  | some approval =>
      let settledDb := settleApproval plan grant approval db
      if reroutesToRefinement grant approval db then
        (settledDb.setRunStatus .running).setCurrentState
          implementationRefinedStateId
      else settledDb

/-! ## Retries -/

/-- A run that must not be retried any more. -/
def runForbidsRetry (run : RunRow) : Bool :=
  run.status = .completed || run.status = .cancelled ||
    run.status = .cancelling || run.cancellationSettled

/-- The latest execution of a state. -/
def Database.latestStage
    (db : Database) (stageId : String) : Option StageExecution :=
  (db.listStages.filter fun stage => stage.stageId = stageId).getLast?

/-- The latest execution of a state if a retry may replace it. -/
def retryableStage (db : Database) (stageId : String) : Option StageExecution :=
  (db.latestStage stageId).filter fun stage =>
    !runForbidsRetry db.run &&
      (stage.status = .failed || stage.status = .blocked ||
        (stage.status = .completed && db.run.status = .blocked))

/-- Cancel what is still in flight for a logical state. -/
def cancelInFlight
    (db : Database) (stage : StageExecution) : Database :=
  { db with
    invokes := db.invokes.map fun item =>
      if item.status.inFlight ∧
          ((db.findStage item.stageExecutionId).any fun row =>
            row.stageId = stage.stageId) then
        { item with status := .cancelled }
      else item
    executions := db.executions.map fun execution =>
      if execution.stageExecutionId = stage.id ∧
          execution.status = .running then
        { execution with status := .cancelled }
      else execution }

/-- `RetryStage`: a new pending attempt at the latest iteration of a state. -/
def retryStage (world : World) (stageId : String) (db : Database) : Database :=
  match retryableStage db stageId with
  | none => db
  | some stage => supersedeStage world (cancelInFlight db stage) stage .pending

/-- `RetryAgentExecution`: run one invocation of the latest execution again. -/
def retryAgentExecution
    (world : World) (stageId : String) (source : InvokeItem) (db : Database) :
    Database :=
  match (retryableStage db stageId).filter fun stage =>
      stage.id = source.stageExecutionId ∧ source ∈ db.invokes with
  | none => db
  | some stage => (scheduleTargetedRetry world db stage source).database

/-! ## Workers -/

/-- What workers may change about an invocation: its claim, and its status as
long as it is in flight. -/
def InvokeItem.Progressed (before after : InvokeItem) : Prop :=
  after = { before with
      status := after.status, claimedExecution := after.claimedExecution } ∧
    (before.status.inFlight = false → after = before)

instance (before after : InvokeItem) : Decidable (before.Progressed after) :=
  inferInstanceAs (Decidable (_ ∧ _))

/-- The rows that workers have written. -/
structure Activity where
  invokes : List InvokeItem
  executions : List AgentExecution
  facts : List RuntimeFacts

/-- The workers only made progress on the queued invocations. -/
def Activity.Progresses (activity : Activity) (db : Database) : Prop :=
  List.Forall₂ InvokeItem.Progressed db.invokes activity.invokes

instance (activity : Activity) (db : Database) :
    Decidable (activity.Progresses db) :=
  inferInstanceAs (Decidable (List.Forall₂ _ _ _))

/-- Every queued invocation ends with valid outputs. -/
def finishAll (db : Database) : Activity where
  invokes := db.invokes.zipIdx.map fun entry =>
    if entry.1.status.inFlight then
      { entry.1 with
        status := .completed, claimedExecution := some entry.2 }
    else entry.1
  executions := db.invokes.zipIdx.map fun entry =>
    { id := entry.2
      stageExecutionId := entry.1.stageExecutionId
      agentId := entry.1.agentId
      status := .completed
      startedAt := 0 }
  facts := db.invokes.zipIdx.map fun entry =>
    { agentExecutionId := entry.2
      outputSettlement := .validOutputsFromCompletedExecution }

/-- Write what workers did. -/
def recordActivity (activity : Activity) (db : Database) : Database :=
  if activity.Progresses db then
    { db with
      invokes := activity.invokes
      executions := activity.executions
      facts := activity.facts }
  else db

/-- The end of the only task of a stage, which settles the stage as well. -/
def finishSingleTask
    (activity : Activity) (item : InvokeItem) (completed : Bool)
    (db : Database) : Database :=
  if item ∈ db.invokes ∧ item.status.inFlight ∧ item.totalTasks ≤ 1 then
    (recordActivity activity db).setStageStatus item.stageExecutionId
      (if completed then .completed else .failed)
  else db

/-! ## Runs -/

/-- A step of some party. -/
inductive Event where
  | advance (world : World)
  | advanceTargeted (world : World) (target : StageExecutionId)
  | activity (activity : Activity)
  | finishSingleTask (activity : Activity) (item : InvokeItem)
      (completed : Bool)
  | decideStage (grant : Bool) (stageId : String)
  | resolveApproval (grant : Bool) (approvalId : Nat)
  | retryStage (world : World) (stageId : String)
  | retryAgentExecution (world : World) (stageId : String)
      (source : InvokeItem)

/-- The rows after a step. -/
def Database.apply (plan : RunPlan) (db : Database) : Event → Database
  | .advance world => (advanceRun plan world db).database
  | .advanceTargeted world target =>
      (advanceRunTargeted plan world target db).database
  | .activity activity => recordActivity activity db
  | .finishSingleTask activity item completed =>
      Engine.finishSingleTask activity item completed db
  | .decideStage grant stageId => Engine.decideStage plan grant stageId db
  | .resolveApproval grant approvalId =>
      Engine.resolveApproval plan grant approvalId db
  | .retryStage world stageId => Engine.retryStage world stageId db
  | .retryAgentExecution world stageId source =>
      Engine.retryAgentExecution world stageId source db

/-- The clock that a step reads, if it reads one. -/
def Event.clock : Event → Option Nat
  | .advance world => some world.now
  | .advanceTargeted world _ => some world.now
  | .retryStage world _ => some world.now
  | .retryAgentExecution world _ _ => some world.now
  | _ => none

/-- The rows after a run. -/
def Database.applyAll
    (plan : RunPlan) (db : Database) (events : List Event) : Database :=
  events.foldl (Database.apply plan) db

/-- A run whose steps all meet a condition on the rows before the step. -/
def RunMeets
    (plan : RunPlan) (condition : Database → Event → Prop) :
    Database → List Event → Prop
  | _, [] => True
  | db, event :: rest =>
      condition db event ∧ RunMeets plan condition (db.apply plan event) rest

/-- An invariant that every step of a run preserves holds after the run. -/
theorem invariant_applyAll
    {plan : RunPlan} {condition : Database → Event → Prop}
    {invariant : Database → Prop}
    (hstep : ∀ db event, invariant db → condition db event →
      invariant (db.apply plan event))
    {db : Database} {events : List Event}
    (hdb : invariant db) (hrun : RunMeets plan condition db events) :
    invariant (db.applyAll plan events) := by
  induction events generalizing db with
  | nil => exact hdb
  | cons event rest ih =>
      obtain ⟨hevent, hrest⟩ := hrun
      exact ih (hstep db event hdb hevent) hrest

end ChainworksForge.Engine
