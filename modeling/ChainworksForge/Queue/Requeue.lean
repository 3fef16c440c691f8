import Mathlib.Data.List.Sort
import ChainworksForge.Queue.RecoveryMatrix
import ChainworksForge.Queue.Settlement

/-!
# Returning abandoned invocations to the queue

An abandoned invocation loses its claim: the execution is cancelled, the claim
is superseded and the record of it is taken out of the payload, which is stamped
with the reason.  The operations differ in which running items they select and
in what they stamp.
-/

namespace ChainworksForge.Queue

open ChainworksForge.Support

/-! ## The steps that every operation is made of -/

/-- A member that is put into a payload; it never stands for a claim. -/
structure Stamp where
  key : String
  value : Json
  not_claim : key ≠ "p058_claimed"

/-- The payload of an item that has lost its claim. -/
def requeuedPayload (payload : Json) (stamp : Stamp) : Json :=
  (payload.remove "p058_claimed").insert stamp.key stamp.value

/-- What happens to the other columns of an item that returns to the queue. -/
structure RequeueColumns where
  scheduledAt : Option Instant
  keepsCompletedAt : Bool
  lastError : Option Text

section Steps

variable (db : Database)

/-- Return a running item to the queue. -/
def requeueRunning (itemId : Text) (payload : Json) (columns : RequeueColumns) :
    Database :=
  { db with
    workItems := db.workItems.update
      (fun item => item.id = itemId ∧ item.status = .running)
      (fun item => { item with
        status := .pending
        payload := some payload
        scheduledAt := columns.scheduledAt.getD item.scheduledAt
        startedAt := none
        completedAt := if columns.keepsCompletedAt then item.completedAt else none
        failedAt := none
        lastError := columns.lastError }) }

/-- Cancel a running execution. -/
def cancelExecution (agent : Text) (settledAt : Instant) : Database :=
  { db with
    agentExecutions := db.agentExecutions.update
      (fun execution => execution.id.text = agent ∧ execution.status = .running)
      (fun execution => { execution with
        status := .cancelled
        completedAt := execution.completedAt.or (some settledAt) }) }

/-- Supersede the active claim of an item by an execution. -/
def supersedeClaim (key : ArtifactSourceGenerationClaimKey) (agent itemId : Text)
    (settledAt : Instant) : Database :=
  { db with
    claims := db.claims.update
      (fun claim => claim.key.runId = key.runId ∧
        claim.key.ownerKind = key.ownerKind ∧ claim.key.ownerId = key.ownerId ∧
        claim.key.agentExecutionId.text = agent ∧
        claim.key.sourceWorkItemId = key.sourceWorkItemId ∧
        claim.claimState = .active)
      (fun claim => { claim with
        claimState := .supersededPendingRetry
        supersedingWorkItemId := some itemId
        supersededAt := some settledAt
        updatedAt := settledAt }) }

/-- Take the claim of an abandoned attempt back. -/
def supersedeAbandonedPreclaimForRetry (itemId : Text) (payload : Json)
    (settledAt : Instant) : Database :=
  match claimedAgent payload with
  | none => db
  | some agent =>
      match claimedKey payload with
      | none => cancelExecution db agent settledAt
      | some key =>
          supersedeClaim (cancelExecution db agent settledAt) key agent itemId
            settledAt

/-- Take back the claim of an item and return the item to the queue. -/
def abandonAndRequeue (itemId : Text) (payload : Json) (stamp : Stamp)
    (columns : RequeueColumns) (settledAt : Instant) : Database :=
  requeueRunning (supersedeAbandonedPreclaimForRetry db itemId payload settledAt)
    itemId (requeuedPayload payload stamp) columns

/-- The running invocations that satisfy a condition, in queue order. -/
def runningInvokes (selects : WorkItem → Bool) : List WorkItem :=
  (db.workItems.rows.filter fun item =>
    item.kind = .invokeAgent ∧ item.status = .running ∧ selects item).insertionSort
      fun a b => a.scheduledAt.text ≤ b.scheduledAt.text

/-- The execution that has claimed an item. -/
def claimedExecution (item : WorkItem) : Option AgentExecution :=
  (item.payload.bind claimedAgent).bind fun agent =>
    db.agentExecutions.rows.find? fun execution => execution.id.text = agent

/-- Whether the runtime facts of an execution are those of a valid turn. -/
def hasTurnOutputs (execution : AgentExecution) : Bool :=
  (db.runtimeFacts.find execution.id).any fun facts =>
    facts.outputSettlement ∈ turnSettlements ∧ 0 < facts.validRequiredOutputs

/-- Whether a payload has a member for a targeted retry. -/
def hasTargetedRetry (payload : Json) : Bool :=
  (payload.get "targeted_retry".toList).isSome

end Steps

/-! ## Requeues by stage and by identifier -/

section ByStage

variable (db : Database)

/-- Whether a targeted retry of a finished execution keeps its item running.
The execution states that are compared are those bound at the two positions of
the statement, the kind of the item and its state. -/
def keptByStageRequeue (item : WorkItem) (payload : Json) : Bool :=
  hasTargetedRetry payload && (claimedExecution db item).any fun execution =>
    execution.status = .running && hasTurnOutputs db execution

theorem startupRecovery_ne_claimed : "p061_startup_recovery" ≠ "p058_claimed" := by decide

/-- The stamp of the stage requeue. -/
def stageRequeueStamp (now : Instant) : Stamp where
  key := "p061_startup_recovery"
  value := Json.ofFields
    [("requeued_at", .string now.text),
      ("reason", Json.ofString "startup_repair_preclaimed_invoke_agent")]
  not_claim := startupRecovery_ne_claimed

/-- Requeue one item of a stage that was claimed before its worker started. -/
def requeuePreclaimedInvoke (stageExecutionId : Text) (now : Instant)
    (db : Database) (item : WorkItem) : Database :=
  match item.payload with
  | none => db
  | some payload =>
      if (payload.getPath ["p058_claimed".toList,
            "agent_execution_id".toList]).isSome ∧
          payload.getStr "stage_execution_id" = some stageExecutionId then
        abandonAndRequeue db item.id payload (stageRequeueStamp now)
          { scheduledAt := none, keepsCompletedAt := true, lastError := none } now
      else db

/-- Requeue the claimed invocations of a stage. -/
def requeueRunningPreclaimedInvokeForStage
    (runId : Uuid) (stageExecutionId stageId : Text) (now : Instant) : Database :=
  (runningInvokes db fun item =>
    item.runId = some runId ∧ item.stageId = some stageId ∧
      item.payload.any (fun payload => !keptByStageRequeue db item payload)).foldl
    (requeuePreclaimedInvoke stageExecutionId now) db

/-- The stamp of a reconciliation. -/
def reconciliationStamp (itemId reason staleClass : Text) (scheduledAt : Instant) :
    Stamp where
  key := "p080_reconciliation"
  value := Json.ofFields
    [("requeued_at", .string scheduledAt.text),
      ("reason", .string reason),
      ("source_work_item_id", .string itemId),
      ("stale_class", .string staleClass)]
  not_claim := by decide

/-- Requeue one running invocation that a reconciliation found stale. -/
def p080RequeueRunningInvokeAgentById
    (itemId : Text) (runId : Uuid) (stageId : Text) (scheduledAt : Instant)
    (reason staleClass : Text) : Database × Bool :=
  match db.workItems.find itemId with
  | none => (db, false)
  | some item =>
      if item.runId = some runId ∧ item.stageId = some stageId ∧
          item.kind = .invokeAgent ∧ item.status = .running then
        (abandonAndRequeue db itemId (item.payload.getD (.object []))
          (reconciliationStamp itemId reason staleClass scheduledAt)
          { scheduledAt := some scheduledAt, keepsCompletedAt := false,
            lastError := some reason } scheduledAt, true)
      else (db, false)

end ByStage

/-! ## Requeues after a failed prompt -/

section AfterPrompt

variable (db : Database)

/-- The stamp of a requeue after a closed prompt. -/
def activePromptStamp (key : ArtifactSourceGenerationClaimKey)
    (failedGeneration : Option Text) (scheduledAt : Instant) (reason : Text) :
    Stamp where
  key := "acp_active_prompt_recovery"
  value := Json.ofFields
    [("reason", .string reason),
      ("failed_agent_execution_id", .string key.agentExecutionId.text),
      ("failed_session_generation_id", Json.ofOption failedGeneration),
      ("requeued_at", .string scheduledAt.text)]
  not_claim := by decide

/-- The stamp of a requeue after a wait for the provider. -/
def providerCapacityStamp (key : ArtifactSourceGenerationClaimKey)
    (scheduledAt : Instant) (reason : Text) : Stamp where
  key := "acp_provider_capacity_recovery"
  value := Json.ofFields
    [("reason", .string reason),
      ("failed_agent_execution_id", .string key.agentExecutionId.text),
      ("requeued_at", .string scheduledAt.text)]
  not_claim := by decide

/-- Return an item to the queue and supersede the claim with the given key. -/
def requeueAndSupersede (itemId : Text) (key : ArtifactSourceGenerationClaimKey)
    (payload : Json) (stamp : Stamp) (columns : RequeueColumns)
    (scheduledAt : Instant) : Database :=
  supersedeClaim (requeueRunning db itemId (requeuedPayload payload stamp) columns)
    key key.agentExecutionId.text itemId scheduledAt

/-- Requeue an invocation whose prompt was closed.  Only the attempt that holds
the claim may do so. -/
def requeueRunningInvokeAgentAfterActivePromptClose
    (itemId : Text) (key : ArtifactSourceGenerationClaimKey)
    (failedGeneration : Option Text) (scheduledAt : Instant) (reason : Text) :
    Except Text (Database × Bool) :=
  match db.workItems.find itemId with
  | none => .ok (db, false)
  | some item =>
      if item.kind = .invokeAgent ∧ item.status = .running then do
        let payload ← required item.payload
          "parse InvokeAgent payload for requeue".toList
        if claimedKey payload = some key ∧ key.sourceWorkItemId = itemId ∧
            claimedAgent payload = some key.agentExecutionId.text then
          return (requeueAndSupersede db itemId key payload
            (activePromptStamp key failedGeneration scheduledAt reason)
            { scheduledAt := some scheduledAt, keepsCompletedAt := false,
              lastError := none } scheduledAt, true)
        else return (db, false)
      else .ok (db, false)

/-- Requeue an invocation that waits for its provider. -/
def requeueRunningInvokeAgentAfterProviderCapacityWait
    (itemId : Text) (key : ArtifactSourceGenerationClaimKey)
    (scheduledAt : Instant) (reason : Text) : Except Text (Database × Bool) :=
  match db.workItems.find itemId with
  | none => .ok (db, false)
  | some item =>
      if item.kind = .invokeAgent ∧ item.status = .running then do
        let payload ← required item.payload
          "parse InvokeAgent payload for provider capacity requeue".toList
        return (requeueAndSupersede db itemId key payload
          (providerCapacityStamp key scheduledAt reason)
          { scheduledAt := some scheduledAt, keepsCompletedAt := false,
            lastError := some reason } scheduledAt, true)
      else .ok (db, false)

end AfterPrompt

/-! ## Requeues after a host interruption -/

section HostInterruption

variable (db : Database)

/-- The stamp of a host interruption. -/
def hostInterruptionStamp (stageExecutionId : Text) (scheduledAt : Instant) :
    Stamp where
  key := "host_interruption_retry"
  value := Json.ofFields
    [("stage_execution_id", .string stageExecutionId),
      ("scheduled_at", .string scheduledAt.text)]
  not_claim := by decide

/-- The execution that a host interruption hit, and the epoch of it. -/
structure InterruptedExecution where
  agent : Uuid
  epochId : Text

/-- Whether an item belongs to the interrupted execution.  An item without a
claim does so only if it is the single candidate of that agent. -/
def belongsToInterrupted (candidates : ℕ) (agentId : Option Text) (payload : Json)
    (agent : Uuid) : Bool :=
  match claimedRecord payload with
  | some record => record.getStr "agent_execution_id" = some agent.text
  | none =>
      candidates = 1 ∧ agentId.isSome ∧ payload.getStr "agent_id" = agentId

/-- Supersede the claim of the interrupted execution and record the epoch. -/
def supersedeInterruptedClaim (itemId : Text) (runId stageExecutionId : Uuid)
    (interrupted : InterruptedExecution) (scheduledAt : Instant) : Database :=
  { db with
    claims := db.claims.update
      (fun claim => claim.key.runId = runId ∧
        claim.key.ownerKind = .stageExecution ∧
        claim.key.ownerId = stageExecutionId.text ∧
        claim.key.stageExecutionId = some stageExecutionId ∧
        claim.key.agentExecutionId = interrupted.agent ∧
        claim.key.sourceWorkItemId = itemId ∧
        (claim.claimState = .active ∨
          claim.claimState = .supersededPendingRetry ∧
            claim.supersedingWorkItemId = some itemId))
      (fun claim => { claim with
        claimState := .supersededPendingRetry
        supersedingWorkItemId := some itemId
        supersessionJournalId := some interrupted.epochId
        supersededAt := claim.supersededAt.or (some scheduledAt)
        updatedAt := scheduledAt }) }

/-- Requeue one item of an interrupted stage. -/
def requeueInterruptedInvoke (runId stageExecutionId : Uuid)
    (scheduledAt : Instant) (interrupted : Option InterruptedExecution)
    (candidates : ℕ) (agentId : Option Text) (db : Database) (item : WorkItem) :
    Database :=
  match item.payload with
  | none => db
  | some payload =>
      if payload.getStr "stage_execution_id" = some stageExecutionId.text ∧
          interrupted.all (fun execution =>
            belongsToInterrupted candidates agentId payload execution.agent) then
        let requeued := abandonAndRequeue db item.id payload
          (hostInterruptionStamp stageExecutionId.text scheduledAt)
          { scheduledAt := some scheduledAt, keepsCompletedAt := false,
            lastError := none } scheduledAt
        match interrupted with
        | none => requeued
        | some execution =>
            supersedeInterruptedClaim requeued item.id runId stageExecutionId
              execution scheduledAt
      else db

/-- Requeue the invocations of an interrupted stage, or those of one of its
executions. -/
def requeueHostInterruptedInvoke
    (runId : Uuid) (stageId : Text) (stageExecutionId : Uuid)
    (scheduledAt : Instant) (interrupted : Option InterruptedExecution) : Database :=
  let rows := runningInvokes db fun item =>
    item.runId = some runId ∧ item.stageId = some stageId
  let agentId := interrupted.bind fun execution =>
    (db.agentExecutions.find execution.agent).map (·.agentId)
  rows.foldl
    (requeueInterruptedInvoke runId stageExecutionId scheduledAt interrupted
      rows.length agentId) db

end HostInterruption

end ChainworksForge.Queue
