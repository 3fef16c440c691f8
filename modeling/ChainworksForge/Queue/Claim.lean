import ChainworksForge.Queue.Settlement

/-!
# Claiming an invocation

A worker that starts an invocation claims its item.  An item that still carries
the claim of an earlier start is resumed under that claim.  Any other item gets a
new execution, whose claim is written into the payload and into the table of
claims.
-/

namespace ChainworksForge.Queue

open ChainworksForge.Support

/-- A member that the escalation of an invocation sets or takes out. -/
structure PayloadEdit where
  key : String
  value : Option Json

def applyEdit (payload : Json) (edit : PayloadEdit) : Json :=
  match edit.value with
  | some value => payload.insert edit.key value
  | none => payload.remove edit.key

/-- What a worker brings to a claim: the identifiers of the new execution and of
its session, and the edits of the escalation that applies. -/
structure ClaimStart where
  agent : Uuid
  sessionGenerationId : Text
  escalation : List PayloadEdit
  now : Instant

/-- The attempt that a worker has claimed an item for. -/
structure ClaimedInvokeAgentStart where
  workItemId : Text
  agentExecutionId : Uuid
  sessionGenerationId : Option Text
  artifactClaimKey : ArtifactSourceGenerationClaimKey

/-- The payload names the run of its item. -/
def withRunId (payload : Json) (runId : Option Uuid) : Json :=
  match runId with
  | none => payload
  | some runId =>
      if payload.getStr "run_id" = some runId.text then payload
      else payload.insert "run_id" (.string runId.text)

/-- Whether an invocation needs a session generation of its own. -/
def requiresInvocationGeneration (payload : Json) : Bool :=
  (payload.getStr "session_reuse_scope").isSome ||
    ((payload.get "declared_outputs".toList).bind Json.asArray).any
      fun outputs => !outputs.isEmpty

section Rows

variable (db : Database)

/-- Mark a pending item as running, with the payload that its claim leaves. -/
def startItem (itemId : Text) (payload : Json) (now : Instant) : Database :=
  { db with
    workItems := db.workItems.update
      (fun item => item.id = itemId ∧ item.status = .pending)
      (fun item => { item with
        status := .running
        payload := some payload
        startedAt := some now
        failedAt := none
        lastError := none
        attemptCount := item.attemptCount + 1 }) }

/-- Take the session generation out of an execution and its active claim. -/
def dropSession (agent : Uuid) (key : ArtifactSourceGenerationClaimKey)
    (now : Instant) : Database :=
  { db with
    agentExecutions := db.agentExecutions.update
      (fun execution => execution.id = agent)
      (fun execution => { execution with sessionGenerationId := none })
    claims := db.claims.update
      (fun claim => claim.primaryKey = key.primaryKey ∧ claim.claimState = .active)
      (fun claim => { claim with
        currentSessionGenerationId := none, updatedAt := now }) }

/-- Settle the claims that waited for the retry of an item. -/
def finalizePendingRetrySupersession (itemId : Text) (agent : Uuid)
    (now : Instant) : Database :=
  { db with
    claims := db.claims.update
      (fun claim => claim.supersedingWorkItemId = some itemId ∧
        claim.claimState = .supersededPendingRetry)
      (fun claim => { claim with
        claimState := .superseded
        supersededByAgentExecutionId := some agent
        updatedAt := now }) }

end Rows

/-! ## Resuming -/

section Resume

variable (db : Database)

/-- The record of a claim without its session. -/
def withoutSession (record : Json) : Json :=
  (record.remove "session_generation_id").remove "session_policy_decision"

/-- The session generation that the record of a claim names. -/
def claimedSession (record : Json) : Option Text :=
  ((record.getPath (["session_policy_decision", "generation", "id"].map
    String.toList)).or (record.get "session_generation_id".toList)).bind Json.asStr

/-- Resume an item under the claim that it carries. -/
def resumeClaim (item : WorkItem) (payload record : Json) (now : Instant) :
    Except Text (Database × ClaimedInvokeAgentStart) := do
  let rawKey ← required (record.get "artifact_claim_key".toList)
    "p058_claimed missing artifact_claim_key".toList
  let key ← required (ArtifactSourceGenerationClaimKey.ofValue rawKey)
    "invalid artifact_claim_key".toList
  let rawAgent ← required (record.getStr "agent_execution_id")
    "p058_claimed missing agent_execution_id".toList
  let agent ← required (Uuid.parse rawAgent) "invalid agent_execution_id".toList
  let _ ← required key.stageExecutionId
    "preclaimed InvokeAgent start requires stage-owned artifact claim".toList
  let claimed : ClaimedInvokeAgentStart := {
    workItemId := item.id
    agentExecutionId := agent
    sessionGenerationId := claimedSession record
    artifactClaimKey := key }
  if !requiresInvocationGeneration payload && claimed.sessionGenerationId.isSome then
    return (dropSession
      (startItem db item.id
        (payload.insert "p058_claimed" (withoutSession record)) now)
      agent key now, { claimed with sessionGenerationId := none })
  else return (startItem db item.id payload now, claimed)

end Resume

/-! ## A new execution -/

section Start

variable (db : Database)

/-- The key of the claim of a new execution. -/
def startedKey (runId stageExecutionId agent : Uuid) (itemId : Text) :
    ArtifactSourceGenerationClaimKey where
  runId := runId
  ownerKind := .stageExecution
  ownerId := stageExecutionId.text
  stageExecutionId := some stageExecutionId
  agentExecutionId := agent
  sourceWorkItemId := itemId

/-- The record of a new claim. -/
def startedRecord (key : ArtifactSourceGenerationClaimKey)
    (sessionGenerationId : Option Text) : Json :=
  Json.ofFields
    ([("agent_execution_id", .string key.agentExecutionId.text),
      ("artifact_claim_key", key.toValue)] ++
      match sessionGenerationId with
      | none => []
      | some id =>
          [("session_generation_id", .string id),
            ("session_policy_decision", Json.ofFields
              [("generation", Json.ofFields [("id", .string id)])])])

/-- The execution that a claim starts. -/
def startedExecution (agent stageExecutionId : Uuid) (agentId : Text)
    (sessionGenerationId : Option Text) : AgentExecution where
  id := agent
  stageExecutionId := some stageExecutionId
  agentId := agentId
  status := .running
  completedAt := none
  sessionGenerationId := sessionGenerationId

/-- The claim that an execution starts with. -/
def startedClaim (key : ArtifactSourceGenerationClaimKey)
    (sessionGenerationId : Option Text) (now : Instant) :
    ArtifactSourceGenerationClaim where
  key := key
  currentSessionGenerationId := sessionGenerationId
  claimState := .active
  supersedingWorkItemId := none
  supersededByAgentExecutionId := none
  supersessionJournalId := none
  supersededAt := none
  closedAt := none
  createdAt := now
  updatedAt := now

/-- Start a new execution for an item. -/
def startClaim (item : WorkItem) (payload : Json) (start : ClaimStart) :
    Except Text (Database × ClaimedInvokeAgentStart) := do
  let runId ← required item.runId "InvokeAgent work item missing run_id".toList
  let rawStage ← required (payload.getStr "stage_execution_id")
    "InvokeAgent payload missing stage_execution_id".toList
  let stageExecutionId ← required (Uuid.parse rawStage)
    "invalid stage_execution_id".toList
  let stageId ← required (payload.getStr "stage_id")
    "InvokeAgent payload missing stage_id".toList
  let agentId := (payload.getStr "agent_id").getD stageId
  let session := if requiresInvocationGeneration payload then
    some start.sessionGenerationId else none
  let escalated := start.escalation.foldl applyEdit payload
  let _ ← required (escalated.getStr "provider")
    "InvokeAgent payload missing provider".toList
  let key := startedKey runId stageExecutionId start.agent item.id
  let started := startItem db item.id
    (escalated.insert "p058_claimed" (startedRecord key session)) start.now
  let executions ← required
    (started.agentExecutions.insert
      (startedExecution start.agent stageExecutionId agentId session))
    "UNIQUE constraint failed: agent_executions.id".toList
  let claims ← required
    (started.claims.insert (startedClaim key session start.now))
    "UNIQUE constraint failed: artifact_source_generation_claims".toList
  -- A new execution has no runtime facts yet.
  return (finalizePendingRetrySupersession
      { started with
        agentExecutions := executions
        runtimeFacts := started.runtimeFacts.insertOrIgnore {
          agentExecutionId := start.agent
          outputSettlement := .none
          validRequiredOutputs := 0
          updatedAt := start.now }
        claims := claims }
      item.id start.agent start.now,
    { workItemId := item.id
      agentExecutionId := start.agent
      sessionGenerationId := session
      artifactClaimKey := key })

/-- Claim a pending invocation.  One without a session scope is failed. -/
def claimInvokeAgentWorkItemWithStart (itemId : Text) (start : ClaimStart) :
    Except Text (Database × Option ClaimedInvokeAgentStart) :=
  match db.workItems.find itemId with
  | none => .ok (db, none)
  | some item =>
      if item.kind = .invokeAgent ∧ item.status = .pending then do
        let payload ← required item.payload "invalid InvokeAgent payload".toList
        if (payload.get "session_reuse_scope".toList).isNone then
          let failed ← failAttemptWithCapacity db itemId
            ("InvokeAgent payload missing session_reuse_scope; refusing legacy ".toList ++
              "sessionless ACP fallback".toList)
            none start.now
          return (failed, none)
        else
          let owned := withRunId payload item.runId
          let (changed, claimed) ← match claimedRecord owned with
            | some record => resumeClaim db item owned record start.now
            | none => startClaim db item owned start
          return (changed, some claimed)
      else .ok (db, none)

end Start

end ChainworksForge.Queue
