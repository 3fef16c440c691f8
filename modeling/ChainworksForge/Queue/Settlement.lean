import ChainworksForge.Queue.PostInvoke

/-!
# Settling an item

A worker completes or fails the item it has claimed, or returns it to the queue
when the database was busy.  Each operation first checks that the worker still
owns the attempt.  A running invocation is completed only if its outputs are
proved valid, and every settled invocation of a run queues an advance of it.
-/

namespace ChainworksForge.Queue

open ChainworksForge.Support

variable (db : Database)

/-! ## The attempt -/

/-- Whether a host interruption still has to clean up after an execution. -/
def hostInterruptionCleanupHoldsAttempt (agent : Uuid) : Bool :=
  db.hostInterruptions.rows.any fun row =>
    row.agentExecutionId = agent ∧ row.settlementStatus = "cleanup_pending".toList ∧
      row.cleanupStatus = "pending".toList ∧ row.retryEnqueuedAt = none

/-- Whether an item is still in the attempt that a worker expects. -/
def matchesWorkItemAttempt (item : WorkItem) (expected : Option Uuid) : Bool :=
  match expected with
  | none => true
  | some agent =>
      item.kind = .invokeAgent ∧ item.status = .running ∧
        item.payload.bind claimedAgent = some agent.text ∧
        ¬(db.agentExecutions.find agent).any (·.status = .cancelled) ∧
        ¬hostInterruptionCleanupHoldsAttempt db agent

/-! ## The completion guard -/

/-- Whether the tables hold valid outputs of an execution for an item.  The
settlements that count as valid are given. -/
def hasValidOutputs (settlements : List AgentOutputSettlement) (item : WorkItem)
    (stage : Uuid) (agent : Uuid) (facts : AgentExecutionRuntimeFacts) : Prop :=
  (facts.outputSettlement ∈ settlements ∧ 0 < facts.validRequiredOutputs) ∨
  (∃ generation ∈ db.contractGenerations,
    some generation.runId = item.runId ∧
      generation.sourceStageExecutionId = some stage ∧
      generation.sourceAgentExecutionId = agent ∧
      generation.sourceWorkItemId = some item.id ∧
      generation.outputSettlement ∈ settlements ∧
      generation.valid = true ∧ generation.sourceGenerationVerified = true) ∨
  ∃ diagnostics ∈ db.discoveryDiagnostics,
    diagnostics.agentExecutionId = agent ∧
      diagnostics.missingRequiredOutputCount = 0 ∧
      diagnostics.rejectedOutputCount = 0 ∧ diagnostics.staleOutputCount = 0

instance (settlements : List AgentOutputSettlement) (item : WorkItem)
    (stage agent : Uuid) (facts : AgentExecutionRuntimeFacts) :
    Decidable (hasValidOutputs db settlements item stage agent facts) := by
  delta hasValidOutputs
  infer_instance

/-- Whether an active or closed claim ties an execution to an item. -/
def hasSourceClaim (item : WorkItem) (stage agent : Uuid) : Prop :=
  ∃ claim ∈ db.claims.rows,
    some claim.key.runId = item.runId ∧ claim.key.stageExecutionId = some stage ∧
      claim.key.agentExecutionId = agent ∧ claim.key.sourceWorkItemId = item.id ∧
      (claim.claimState = .active ∨ claim.claimState = .closed)

instance (item : WorkItem) (stage agent : Uuid) :
    Decidable (hasSourceClaim db item stage agent) := by
  delta hasSourceClaim
  infer_instance

/-- Whether the run of an item owns a stage, an execution in it with one of the
given states, a claim of the item by that execution, and valid outputs of it. -/
def ownsValidOutputs (statuses : List AgentStatus)
    (settlements : List AgentOutputSettlement) (item : WorkItem)
    (stage agent : Text) : Prop :=
  ∃ stageExecution ∈ db.stageExecutions,
    stageExecution.id.text = stage ∧ some stageExecution.runId = item.runId ∧
    ∃ execution ∈ db.agentExecutions.rows,
      execution.id.text = agent ∧
        execution.stageExecutionId = some stageExecution.id ∧
        execution.status ∈ statuses ∧
        hasSourceClaim db item stageExecution.id execution.id ∧
        ∃ facts ∈ db.runtimeFacts.rows,
          facts.agentExecutionId = execution.id ∧
            hasValidOutputs db settlements item stageExecution.id execution.id facts

instance (statuses : List AgentStatus) (settlements : List AgentOutputSettlement)
    (item : WorkItem) (stage agent : Text) :
    Decidable (ownsValidOutputs db statuses settlements item stage agent) := by
  delta ownsValidOutputs
  infer_instance

/-- The settlements of a turn of its own. -/
def turnSettlements : List AgentOutputSettlement :=
  [.validOutputsFromCompletedExecution, .validOutputsFromFailedExecution]

/-- The settlements of a turn or of a repair turn. -/
def acceptedSettlements : List AgentOutputSettlement :=
  [.validOutputsFromCompletedExecution, .validOutputsFromFailedExecution,
    .validOutputsFromRepair]

/-- A text member that is not blank. -/
def nonBlank (value : Option Text) : Option Text :=
  value.filter fun text => !text.trim.isEmpty

/-- The facts of a payload that the completion guard reads. -/
structure CompletionOwner where
  agent : Text
  runId : Text
  stage : Text

/-- Read the owner of an invocation from its payload. -/
def completionOwner (itemId : Text) (payload : Option Json) :
    Except Text CompletionOwner := do
  let payload ← required payload
    ("parse InvokeAgent work item payload before complete: ".toList ++ itemId)
  let agent ← required (nonBlank (claimedAgent payload))
    ("refusing to complete running InvokeAgent work item ".toList ++ itemId ++
      ": missing p058_claimed.agent_execution_id".toList)
  let runId ← required (nonBlank (payload.getStr "run_id"))
    ("refusing to complete running InvokeAgent work item ".toList ++ itemId ++
      ": missing run_id".toList)
  let stage ← required (nonBlank (payload.getStr "stage_execution_id"))
    ("refusing to complete running InvokeAgent work item ".toList ++ itemId ++
      ": missing stage_execution_id".toList)
  return { agent, runId, stage }

/-- Whether the tables prove the outputs that an owner claims for an item. -/
def provesCompletion (itemId : Text) (owner : CompletionOwner) : Prop :=
  ∃ item ∈ db.workItems.rows,
    item.id = itemId ∧ item.runId.map Uuid.text = some owner.runId ∧
      ownsValidOutputs db [.running, .completed, .failed] acceptedSettlements item
        owner.stage owner.agent

instance (itemId : Text) (owner : CompletionOwner) :
    Decidable (provesCompletion db itemId owner) := by
  delta provesCompletion
  infer_instance

/-- Whether contract generations prove the outputs of an execution. -/
def hasContractGeneration (itemId : Text) (owner : CompletionOwner)
    (agent : Uuid) : Prop :=
  ∃ item ∈ db.workItems.rows,
    item.id = itemId ∧ item.runId.map Uuid.text = some owner.runId ∧
    ∃ stageExecution ∈ db.stageExecutions,
      stageExecution.id.text = owner.stage ∧
        some stageExecution.runId = item.runId ∧
      ∃ generation ∈ db.contractGenerations,
        some generation.runId = item.runId ∧
          generation.sourceStageExecutionId = some stageExecution.id ∧
          generation.sourceAgentExecutionId = agent ∧
          generation.sourceWorkItemId = some item.id ∧
          generation.outputSettlement ∈ acceptedSettlements ∧
          generation.valid = true ∧ generation.sourceGenerationVerified = true

instance (itemId : Text) (owner : CompletionOwner) (agent : Uuid) :
    Decidable (hasContractGeneration db itemId owner agent) := by
  delta hasContractGeneration
  infer_instance

/-- Refuse to complete a running invocation whose outputs are not proved.  The
facts of one that contract generations prove are repaired. -/
def validateRunningInvokeCompletionHasValidOutputs
    (itemId : Text) (payload : Option Json) (now : Instant) :
    Except Text Database := do
  let owner ← completionOwner itemId payload
  ensure (provesCompletion db itemId owner)
    ("refusing to complete running InvokeAgent work item ".toList ++ itemId ++
      ": runtime facts, active-or-closed source claim, and agent execution do not ".toList ++
      "prove the same run owner with valid required outputs".toList)
  return { db with
    runtimeFacts := db.runtimeFacts.update
      (fun facts => facts.agentExecutionId.text = owner.agent ∧
        facts.validRequiredOutputs = 0 ∧
        hasContractGeneration db itemId owner facts.agentExecutionId)
      (fun facts => { facts with validRequiredOutputs := 1, updatedAt := now }) }

/-! ## Completing and failing -/

/-- The state that the execution of a completed item is left in. -/
def settledStatus (execution : AgentExecution) : AgentStatus :=
  if db.runtimeFacts.rows.any (fun facts =>
      facts.agentExecutionId = execution.id ∧
        facts.outputSettlement ∈ turnSettlements ∧ 0 < facts.validRequiredOutputs) then
    .completed
  else .failed

/-- Settle the execution that has claimed a completed item and close its claim. -/
def settleClaim (itemId agent : Text) (now : Instant) : Database :=
  { db with
    agentExecutions := db.agentExecutions.update
      (fun execution => execution.id.text = agent ∧ execution.status = .running)
      (fun execution => { execution with
        status := settledStatus db execution
        completedAt := execution.completedAt.or (some now) })
    claims := db.claims.update
      (fun claim => claim.key.sourceWorkItemId = itemId ∧
        claim.key.agentExecutionId.text = agent ∧ claim.claimState = .active)
      (fun claim => { claim with
        claimState := .closed
        closedAt := claim.closedAt.or (some now)
        updatedAt := now }) }

/-- The identifier of the advance that follows an invocation. -/
def advanceAfterInvokeId (itemId : Text) : Text :=
  "advance-after-invoke:".toList ++ itemId

/-- The advance that follows an invocation. -/
def advanceAfterInvoke (itemId : Text) (runId : Uuid) (payload : Json)
    (stageId : Option Text) (now : Instant) : WorkItem where
  id := advanceAfterInvokeId itemId
  kind := .advanceRun
  payload := some payload
  status := .pending
  runId := some runId
  stageId := stageId
  createdAt := now
  scheduledAt := now
  startedAt := none
  completedAt := none
  failedAt := none
  attemptCount := 0
  lastError := none

/-- Queue the advance of the run that an invocation belonged to. -/
def enqueueAdvance (item : WorkItem) (outcome : InvokeOutcome) (now : Instant) :
    Except Text Database :=
  match item.runId with
  | none => .ok db
  | some runId => do
      let (settled, payload, stageId) ←
        buildPostInvokeAdvancePayload db now runId outcome item.id item.payload
      return { settled with
        workItems := settled.workItems.insertOrIgnore
          (advanceAfterInvoke item.id runId payload stageId now) }

/-- Whether an item has not been settled yet. -/
def WorkItem.isOpen (item : WorkItem) : Bool :=
  item.status = .pending ∨ item.status = .running

/-- Mark an open item as completed. -/
def markCompleted (itemId : Text) (now : Instant) : Database :=
  { db with
    workItems := db.workItems.update
      (fun item => item.id = itemId ∧ item.isOpen)
      (fun item => { item with status := .completed, completedAt := some now }) }

/-- Mark an open item as failed. -/
def markFailed (itemId error : Text) (now : Instant) : Database :=
  { db with
    workItems := db.workItems.update
      (fun item => item.id = itemId ∧ item.isOpen)
      (fun item => { item with
        status := .failed, failedAt := some now, lastError := some error }) }

/-- Complete a running invocation whose outputs are proved. -/
def completeRunningInvoke (item : WorkItem) (now : Instant) :
    Except Text Database := do
  let guarded ← validateRunningInvokeCompletionHasValidOutputs db item.id
    item.payload now
  let marked := markCompleted guarded item.id now
  let settled := match item.payload.bind claimedAgent with
    | none => marked
    | some agent => settleClaim marked item.id agent now
  enqueueAdvance settled item .completed now

/-- Complete an item on behalf of an attempt. -/
def completeAttemptWithCapacity
    (itemId : Text) (expected : Option Uuid) (now : Instant) : Except Text Database :=
  match db.workItems.find itemId with
  | none => .ok db
  | some item =>
      if ¬matchesWorkItemAttempt db item expected then .ok db
      else if ¬item.isOpen then .ok db
      else if item.kind = .invokeAgent ∧ item.status = .running then
        completeRunningInvoke db item now
      else .ok (markCompleted db itemId now)

/-- Fail an item on behalf of an attempt. -/
def failAttemptWithCapacity
    (itemId error : Text) (expected : Option Uuid) (now : Instant) :
    Except Text Database :=
  match db.workItems.find itemId with
  | none => .ok db
  | some item =>
      if ¬matchesWorkItemAttempt db item expected then .ok db
      else if ¬item.isOpen then .ok db
      else if item.kind = .invokeAgent then
        enqueueAdvance (markFailed db itemId error now) item .failed now
      else .ok (markFailed db itemId error now)

/-- The seconds that an item waits after a busy database. -/
def backoffSeconds (attemptCount : ℕ) : ℕ :=
  min (2 ^ min attemptCount 6) 60

/-- Return a running item to the queue after a busy database.  The claim stays
with the item; `later` is the moment some seconds from now. -/
def requeueAttemptAfterTransientPersistenceContention
    (itemId : Text) (later : ℕ → Instant) (error : Text) (expected : Option Uuid) :
    Database × Bool :=
  match db.workItems.find itemId with
  | none => (db, false)
  | some item =>
      if item.status ≠ .running then (db, false)
      else if ¬matchesWorkItemAttempt db item expected then (db, false)
      else
        ({ db with
            workItems := db.workItems.update
              (fun row => row.id = itemId ∧ row.status = .running)
              (fun row => { row with
                status := .pending
                scheduledAt := later (backoffSeconds item.attemptCount)
                startedAt := none
                failedAt := none
                lastError := some
                  ("transient_persistence_contention: ".toList ++ error) }) },
          true)

end ChainworksForge.Queue
