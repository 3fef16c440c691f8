import ChainworksForge.Condition.Values
import ChainworksForge.Workflow.Plan
import Mathlib.Data.List.Sort

/-!
# The rows that drive one run

The orchestrator keeps no state of its own.  Each step reads the rows of a run,
decides, and writes rows back.  `Database` holds the rows of one run that the
decisions depend on: the run itself, its stage executions, the invocations of
agents with their executions and runtime facts, the approvals and the recorded
conflicts.

Identifiers that the program draws at random are numbered in the order in
which they are drawn.  Events, projections, the command journal and the texts
of prompts are not read by any decision below and are left out.
-/

namespace ChainworksForge.Engine

open ChainworksForge.Support
open ChainworksForge.Condition (ApprovalDecision CandidateTransitionResult)

/-- Status of a run. -/
inductive RunStatus where
  | pending
  | ready
  | running
  | waitingApproval
  | blocked
  | completed
  | failed
  | cancelled
  | cancelling
deriving DecidableEq, Repr

namespace RunStatus

/-- A terminal run is not advanced any more. -/
def isTerminal (status : RunStatus) : Bool :=
  status = completed || status = failed || status = cancelled

end RunStatus

/-- Status of a stage execution. -/
inductive StageStatus where
  | pending
  | ready
  | running
  | waitingApproval
  | blocked
  | completed
  | failed
  | skipped
deriving DecidableEq, Repr

namespace StageStatus

/-- The four statuses in which an execution is over. -/
def isTerminal (status : StageStatus) : Bool :=
  status = completed || status = failed || status = blocked ||
    status = skipped

end StageStatus

/-- Number of a stage execution. -/
abbrev StageExecutionId := Nat

/-- One attempt at one iteration of a state. -/
structure StageExecution where
  id : StageExecutionId
  /-- Logical state that the execution belongs to. -/
  stageId : String
  status : StageStatus
  iteration : ℤ
  attemptNumber : ℤ
  startedAt : Nat
  stageType : Option String := none
deriving DecidableEq, Repr

/-- The columns of a run that a step reads or writes. -/
structure RunRow where
  status : RunStatus
  currentState : Option String := none
  worktreeRoot : Option String := none
  cancellationSettled : Bool := false
deriving DecidableEq, Repr

/-- Status of a queued work item. -/
inductive WorkItemStatus where
  | pending
  | running
  | completed
  | failed
  | cancelled
deriving DecidableEq, Repr

namespace WorkItemStatus

/-- The item still waits for a worker or is being worked on. -/
def inFlight (status : WorkItemStatus) : Bool :=
  status = pending || status = running

end WorkItemStatus

/-- Primary key of an invocation. -/
inductive InvokeItemId where
  /-- `p058-invoke:<stage execution>:<task index>` -/
  | task (stage : StageExecutionId) (taskIndex : Nat)
  /-- `p060-dynamic:<stage execution>:<plan hash>:<index>` -/
  | reviewer (stage : StageExecutionId) (planHash : String) (index : Nat)
  /-- `p058-targeted-retry:<stage execution>` -/
  | targetedRetry (stage : StageExecutionId)
deriving DecidableEq, Repr

/-- A queued invocation of an agent, with the payload fields that are read. -/
structure InvokeItem where
  id : InvokeItemId
  stageExecutionId : StageExecutionId
  agentId : String
  taskIndex : Nat
  totalTasks : Nat
  dynamicPhase : Option Nat := none
  /-- The agent execution that a worker started for the item. -/
  claimedExecution : Option Nat := none
  status : WorkItemStatus := .pending
deriving DecidableEq, Repr

/-- Status of an agent execution. -/
inductive AgentStatus where
  | running
  | completed
  | failed
  | cancelled
deriving DecidableEq, Repr

/-- One execution of an agent. -/
structure AgentExecution where
  id : Nat
  stageExecutionId : StageExecutionId
  agentId : String
  status : AgentStatus
  startedAt : Nat
  completedAt : Option Nat := none
deriving DecidableEq, Repr

/-- How the outputs of an agent execution were settled. -/
inductive AgentOutputSettlement where
  | none
  | missingRequiredOutputs
  | invalidRequiredOutputs
  | validOutputsFromCompletedExecution
  | validOutputsFromFailedExecution
  | ignoredLateOutputs
  | validOutputsFromRepair
deriving DecidableEq, Repr

/-- Runtime facts of an agent execution. -/
structure RuntimeFacts where
  agentExecutionId : Nat
  failureKind : Option String := none
  outputSettlement : AgentOutputSettlement := .none
deriving DecidableEq, Repr

/-- An approval that was asked for a logical state. -/
structure ApprovalRow where
  id : Nat
  stageId : String
  decision : ApprovalDecision
deriving DecidableEq, Repr

/-- One outgoing transition with the result of its condition. -/
structure CandidateTransitionEvaluation where
  transitionId : String
  fromStateId : String
  toStateId : String
  conditionExpressionId : Option String
  result : CandidateTransitionResult
  requiredArtifacts : List Text
  missingArtifacts : List Text
  missingFields : List Text
  sourceArtifactIds : List Text
  sanitizedDiagnostic : Option Text
deriving DecidableEq, Repr

/-- Why a run could not take a transition. -/
inductive WorkflowConflictReason where
  | invalidNextStageHint
  | noDeclarativeTransitionMatched
  | multipleDeclarativeTransitionsMatchedWithoutTieBreak
  | requiredArtifactOrFieldMissingForTransition
  | aggregateTransitionTruthConflicted
  | workflowConflictUnverifiable
  | implementationHandoffUnavailable
deriving DecidableEq, Repr

/-- Where a conflict stands. -/
inductive WorkflowConflictStatus where
  | unresolved
  | leadMediationPending
  | operatorConfirmationRequired
  | resolved
  | superseded
  | terminalUnverifiable
deriving DecidableEq, Repr

/-- A recorded conflict. -/
structure WorkflowConflictRecord where
  stageExecutionId : Option StageExecutionId
  currentStateId : String
  reason : WorkflowConflictReason
  status : WorkflowConflictStatus
  candidateTransitions : List CandidateTransitionEvaluation
deriving DecidableEq, Repr

/-- The rows of one run. -/
structure Database where
  run : RunRow
  stages : List StageExecution := []
  invokes : List InvokeItem := []
  executions : List AgentExecution := []
  facts : List RuntimeFacts := []
  approvals : List ApprovalRow := []
  conflicts : List WorkflowConflictRecord := []
deriving DecidableEq, Repr

/-- Why a step stopped before its end. -/
inductive Failure where
  | panic
  | error (message : Text)
deriving DecidableEq, Repr

/-- The rows after a step.  What was written before a failure stays written. -/
structure Outcome where
  database : Database
  failure : Option Failure := none
deriving DecidableEq, Repr

namespace Database

/-! ## Reads -/

/-- All stage executions in the order of their start. -/
def listStages (db : Database) : List StageExecution :=
  db.stages.insertionSort fun a b => a.startedAt ≤ b.startedAt

/-- A stage execution by its identifier. -/
def findStage (db : Database) (id : StageExecutionId) : Option StageExecution :=
  db.stages.find? fun stage => stage.id = id

/-- The invocations that were queued for a stage execution. -/
def stageInvokes (db : Database) (id : StageExecutionId) : List InvokeItem :=
  db.invokes.filter fun item => item.stageExecutionId = id

/-! ## Writes -/

/-- Change the status of a run. -/
def setRunStatus (db : Database) (status : RunStatus) : Database :=
  { db with run := { db.run with status := status } }

/-- Move a run to a state. -/
def setCurrentState (db : Database) (stateId : String) : Database :=
  { db with run := { db.run with currentState := some stateId } }

/-- Change the status of a stage execution. -/
def setStageStatus
    (db : Database) (id : StageExecutionId) (status : StageStatus) : Database :=
  { db with
    stages := db.stages.map fun stage =>
      if stage.id = id then { stage with status := status } else stage }

/-- Add a stage execution. -/
def insertStage (db : Database) (stage : StageExecution) : Database :=
  { db with stages := db.stages ++ [stage] }

/-- Ask for an approval of a logical state. -/
def requestApproval (db : Database) (stageId : String) : Database :=
  { db with
    approvals := db.approvals ++
      [{ id := db.approvals.length, stageId := stageId,
         decision := .requested }] }

/-- Queue an invocation.  A second item under one key violates the key. -/
def enqueueInvoke (db : Database) (item : InvokeItem) : Option Database :=
  if db.invokes.any fun other => other.id = item.id then none
  else some { db with invokes := db.invokes ++ [item] }

/-- Record a conflict, replacing one with the same reason and candidates. -/
def upsertConflict
    (db : Database) (record : WorkflowConflictRecord) : Database :=
  { db with
    conflicts := (db.conflicts.filter fun other =>
        ¬(other.currentStateId = record.currentStateId ∧
          other.reason = record.reason ∧
          other.candidateTransitions = record.candidateTransitions)) ++
      [record] }

/-- Block a run unless it is blocked already. -/
def blockRun (db : Database) : Database :=
  if db.run.status = .blocked then db else db.setRunStatus .blocked

/-! ## What a write leaves alone -/

@[simp] theorem setRunStatus_stages (db : Database) (status : RunStatus) :
    (db.setRunStatus status).stages = db.stages := rfl

@[simp] theorem setRunStatus_currentState
    (db : Database) (status : RunStatus) :
    (db.setRunStatus status).run.currentState = db.run.currentState := rfl

@[simp] theorem setRunStatus_status (db : Database) (status : RunStatus) :
    (db.setRunStatus status).run.status = status := rfl

@[simp] theorem setRunStatus_invokes (db : Database) (status : RunStatus) :
    (db.setRunStatus status).invokes = db.invokes := rfl

@[simp] theorem setCurrentState_stages (db : Database) (stateId : String) :
    (db.setCurrentState stateId).stages = db.stages := rfl

@[simp] theorem setCurrentState_currentState
    (db : Database) (stateId : String) :
    (db.setCurrentState stateId).run.currentState = some stateId := rfl

@[simp] theorem setCurrentState_invokes (db : Database) (stateId : String) :
    (db.setCurrentState stateId).invokes = db.invokes := rfl

@[simp] theorem setStageStatus_run
    (db : Database) (id : StageExecutionId) (status : StageStatus) :
    (db.setStageStatus id status).run = db.run := rfl

@[simp] theorem setStageStatus_invokes
    (db : Database) (id : StageExecutionId) (status : StageStatus) :
    (db.setStageStatus id status).invokes = db.invokes := rfl

@[simp] theorem insertStage_run (db : Database) (stage : StageExecution) :
    (db.insertStage stage).run = db.run := rfl

@[simp] theorem insertStage_stages (db : Database) (stage : StageExecution) :
    (db.insertStage stage).stages = db.stages ++ [stage] := rfl

@[simp] theorem insertStage_invokes (db : Database) (stage : StageExecution) :
    (db.insertStage stage).invokes = db.invokes := rfl

@[simp] theorem requestApproval_run (db : Database) (stageId : String) :
    (db.requestApproval stageId).run = db.run := rfl

@[simp] theorem requestApproval_stages (db : Database) (stageId : String) :
    (db.requestApproval stageId).stages = db.stages := rfl

@[simp] theorem requestApproval_invokes (db : Database) (stageId : String) :
    (db.requestApproval stageId).invokes = db.invokes := rfl

@[simp] theorem upsertConflict_run
    (db : Database) (record : WorkflowConflictRecord) :
    (db.upsertConflict record).run = db.run := rfl

@[simp] theorem upsertConflict_stages
    (db : Database) (record : WorkflowConflictRecord) :
    (db.upsertConflict record).stages = db.stages := rfl

@[simp] theorem upsertConflict_invokes
    (db : Database) (record : WorkflowConflictRecord) :
    (db.upsertConflict record).invokes = db.invokes := rfl

@[simp] theorem blockRun_stages (db : Database) :
    db.blockRun.stages = db.stages := by
  unfold blockRun
  split <;> rfl

@[simp] theorem blockRun_currentState (db : Database) :
    db.blockRun.run.currentState = db.run.currentState := by
  unfold blockRun
  split <;> rfl

@[simp] theorem blockRun_status (db : Database) :
    db.blockRun.run.status = .blocked := by
  unfold blockRun
  split
  · assumption
  · rfl

@[simp] theorem blockRun_invokes (db : Database) :
    db.blockRun.invokes = db.invokes := by
  unfold blockRun
  split <;> rfl

@[simp] theorem blockRun_approvals (db : Database) :
    db.blockRun.approvals = db.approvals := by
  unfold blockRun
  split <;> rfl

@[simp] theorem blockRun_conflicts (db : Database) :
    db.blockRun.conflicts = db.conflicts := by
  unfold blockRun
  split <;> rfl

end Database

end ChainworksForge.Engine
