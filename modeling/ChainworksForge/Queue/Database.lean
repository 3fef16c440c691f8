import ChainworksForge.Support.Checked
import ChainworksForge.Support.Json
import ChainworksForge.Support.Table
import ChainworksForge.Support.Uuid

/-!
# The tables of the work queue

The queue keeps its items in one table and reads what became of an invocation
from the tables of executions, source-generation claims, runtime facts, contract
generations and diagnostics.  Every operation is a transaction: it returns the
changed tables or an error, and after an error nothing has changed.

A payload is the value that its text reads as; it is absent when the text is not
JSON.
-/

namespace ChainworksForge.Queue

open ChainworksForge.Support

/-- A moment, with the text it is written as. -/
structure Instant where
  ticks : ℕ
  text : Text
deriving DecidableEq

inductive WorkItemKind where
  | invokeAgent
  | settleStage
  | advanceRun
  | rebuildProjection
  | startupRepair
  | triggerNextStage
  | stewardAnalysis
  | processContinuation
  | prepareRunContinuation
deriving DecidableEq

inductive WorkItemStatus where
  | pending
  | running
  | completed
  | failed
  | cancelled
deriving DecidableEq

inductive AgentStatus where
  | running
  | completed
  | failed
  | cancelled
deriving DecidableEq

inductive AgentOutputSettlement where
  | none
  | missingRequiredOutputs
  | invalidRequiredOutputs
  | validOutputsFromCompletedExecution
  | validOutputsFromFailedExecution
  | ignoredLateOutputs
  | validOutputsFromRepair
deriving DecidableEq

inductive ArtifactSourceClaimState where
  | active
  | supersededPendingRetry
  | superseded
  | closed
  | legacyUnowned
deriving DecidableEq

inductive OwnerKind where
  | stageExecution
  | leadConflictMediation
deriving DecidableEq

inductive RetryAuthorityState where
  | active
  | terminalized
  | superseded
  | recoveredOrphan
  | invalid
deriving DecidableEq

inductive SessionGenerationStatus where
  | active
  | invalidated
  | closed
  | reset
deriving DecidableEq

def OwnerKind.text : OwnerKind → Text
  | stageExecution => "stage_execution".toList
  | leadConflictMediation => "lead_conflict_mediation".toList

def OwnerKind.parse (raw : Text) : Option OwnerKind :=
  [stageExecution, leadConflictMediation].find? (·.text = raw)

@[simp]
theorem OwnerKind.parse_text (kind : OwnerKind) : parse kind.text = some kind := by
  cases kind <;> decide

/-! ## Source-generation claims -/

/-- Which execution claimed which item for which owner. -/
structure ArtifactSourceGenerationClaimKey where
  runId : Uuid
  ownerKind : OwnerKind
  ownerId : Text
  stageExecutionId : Option Uuid
  agentExecutionId : Uuid
  sourceWorkItemId : Text
deriving DecidableEq

namespace ArtifactSourceGenerationClaimKey

def toValue (key : ArtifactSourceGenerationClaimKey) : Json :=
  Json.ofFields
    [("run_id", .string key.runId.text),
      ("owner_kind", .string key.ownerKind.text),
      ("owner_id", .string key.ownerId),
      ("stage_execution_id", Json.ofOption (key.stageExecutionId.map Uuid.text)),
      ("agent_execution_id", .string key.agentExecutionId.text),
      ("source_work_item_id", .string key.sourceWorkItemId)]

def uuidOfValue (value : Json) : Option Uuid :=
  value.asStr.bind Uuid.parse

/-- An optional identifier; both a missing field and `null` stand for none. -/
def optionalUuidOfValue : Option Json → Option (Option Uuid)
  | none | some .null => some none
  | some value => (uuidOfValue value).map some

/-- The key with the given members. -/
def ofMembers (runId ownerKind ownerId : Json) (stageExecutionId : Option Json)
    (agentExecutionId sourceWorkItemId : Json) :
    Option ArtifactSourceGenerationClaimKey := do
  let runId ← uuidOfValue runId
  let ownerKind ← ownerKind.asStr.bind OwnerKind.parse
  let ownerId ← ownerId.asStr
  let stageExecutionId ← optionalUuidOfValue stageExecutionId
  let agentExecutionId ← uuidOfValue agentExecutionId
  let sourceWorkItemId ← sourceWorkItemId.asStr
  return { runId, ownerKind, ownerId, stageExecutionId, agentExecutionId,
           sourceWorkItemId }

/-- Read a key; its members may stand in an object or, in order, in an array. -/
def ofValue (value : Json) : Option ArtifactSourceGenerationClaimKey :=
  match value with
  | .array [runId, ownerKind, ownerId, stage, agent, source] =>
      ofMembers runId ownerKind ownerId (some stage) agent source
  | .object _ => do
      ofMembers (← value.get "run_id".toList) (← value.get "owner_kind".toList)
        (← value.get "owner_id".toList) (value.get "stage_execution_id".toList)
        (← value.get "agent_execution_id".toList)
        (← value.get "source_work_item_id".toList)
  | _ => none

end ArtifactSourceGenerationClaimKey

/-- The primary key of the table of claims. -/
structure ClaimPrimaryKey where
  runId : Uuid
  ownerKind : OwnerKind
  ownerId : Text
  agentExecutionId : Uuid
  sourceWorkItemId : Text
deriving DecidableEq

def ArtifactSourceGenerationClaimKey.primaryKey
    (key : ArtifactSourceGenerationClaimKey) : ClaimPrimaryKey :=
  { runId := key.runId, ownerKind := key.ownerKind, ownerId := key.ownerId,
    agentExecutionId := key.agentExecutionId,
    sourceWorkItemId := key.sourceWorkItemId }

structure ArtifactSourceGenerationClaim where
  key : ArtifactSourceGenerationClaimKey
  currentSessionGenerationId : Option Text
  claimState : ArtifactSourceClaimState
  supersedingWorkItemId : Option Text
  supersededByAgentExecutionId : Option Uuid
  supersessionJournalId : Option Text
  supersededAt : Option Instant
  closedAt : Option Instant
  createdAt : Instant
  updatedAt : Instant
deriving DecidableEq

def ArtifactSourceGenerationClaim.primaryKey
    (claim : ArtifactSourceGenerationClaim) : ClaimPrimaryKey :=
  claim.key.primaryKey

/-! ## Rows -/

structure WorkItem where
  id : Text
  kind : WorkItemKind
  payload : Option Json
  status : WorkItemStatus
  runId : Option Uuid
  stageId : Option Text
  createdAt : Instant
  scheduledAt : Instant
  startedAt : Option Instant
  completedAt : Option Instant
  failedAt : Option Instant
  attemptCount : ℕ
  lastError : Option Text
deriving DecidableEq

structure AgentExecution where
  id : Uuid
  stageExecutionId : Option Uuid
  agentId : Text
  status : AgentStatus
  completedAt : Option Instant
  sessionGenerationId : Option Text
deriving DecidableEq

structure AgentExecutionRuntimeFacts where
  agentExecutionId : Uuid
  outputSettlement : AgentOutputSettlement
  validRequiredOutputs : ℕ
  updatedAt : Instant
deriving DecidableEq

structure ArtifactContractGeneration where
  runId : Uuid
  sourceStageExecutionId : Option Uuid
  sourceAgentExecutionId : Uuid
  sourceWorkItemId : Option Text
  outputSettlement : AgentOutputSettlement
  valid : Bool
  sourceGenerationVerified : Bool
deriving DecidableEq

structure DiscoveryDiagnostics where
  agentExecutionId : Uuid
  missingRequiredOutputCount : ℕ
  rejectedOutputCount : ℕ
  staleOutputCount : ℕ
deriving DecidableEq

structure StageExecution where
  id : Uuid
  runId : Uuid
deriving DecidableEq

structure RetryStageExecutionAuthority where
  id : Text
  runId : Uuid
  stageId : Text
  targetStageExecutionId : Uuid
  sourceInvokeWorkItemId : Option Text
  authorityState : RetryAuthorityState
  updatedAt : Instant
  terminalReason : Option Text
deriving DecidableEq

structure HostInterruptionAffectedExecution where
  epochId : Text
  agentExecutionId : Uuid
  runId : Option Uuid
  stageExecutionId : Text
  settlementStatus : Text
  cleanupStatus : Text
  retryEnqueuedAt : Option Instant
deriving DecidableEq

def HostInterruptionAffectedExecution.primaryKey
    (row : HostInterruptionAffectedExecution) : Text × Uuid :=
  (row.epochId, row.agentExecutionId)

structure StartupRepair where
  id : Text
  runId : Option Uuid
  repairKind : Text
  repairedAt : Instant
  notes : Option Json
deriving DecidableEq

structure CommandJournalEntry where
  id : Text
  runId : Option Uuid
  createdAt : Instant
deriving DecidableEq

structure SessionGeneration where
  id : Text
  lineageId : Text
  status : SessionGenerationStatus
  providerSessionId : Option Text
  createdAt : Instant
  lastActivityAt : Option Instant
  endedAt : Option Instant
  endReason : Option Text
deriving DecidableEq

/-- The record that a generation was invalidated. -/
structure SessionInvalidation where
  lineageId : Text
  generationId : Text
  recordedAt : Instant
  details : Json
deriving DecidableEq

/-- The tables. -/
structure Database where
  workItems : Table WorkItem.id
  agentExecutions : Table AgentExecution.id
  runtimeFacts : Table AgentExecutionRuntimeFacts.agentExecutionId
  claims : Table ArtifactSourceGenerationClaim.primaryKey
  contractGenerations : List ArtifactContractGeneration
  discoveryDiagnostics : List DiscoveryDiagnostics
  stageExecutions : List StageExecution
  retryAuthorities : Table RetryStageExecutionAuthority.id
  hostInterruptions : Table HostInterruptionAffectedExecution.primaryKey
  startupRepairs : Table StartupRepair.id
  commandJournal : Table CommandJournalEntry.id
  sessionGenerations : Table SessionGeneration.id
  sessionInvalidations : List SessionInvalidation

def Database.empty : Database where
  workItems := Table.empty
  agentExecutions := Table.empty
  runtimeFacts := Table.empty
  claims := Table.empty
  contractGenerations := []
  discoveryDiagnostics := []
  stageExecutions := []
  retryAuthorities := Table.empty
  hostInterruptions := Table.empty
  startupRepairs := Table.empty
  commandJournal := Table.empty
  sessionGenerations := Table.empty
  sessionInvalidations := []

/-- The identifier with one digit throughout. -/
def repeatedUuid (digit : Fin 16) : Uuid :=
  ⟨List.replicate 32 digit, List.length_replicate⟩

/-! ## What a payload says about its claim -/

/-- The record of the claim in a payload. -/
def claimedRecord (payload : Json) : Option Json :=
  payload.get "p058_claimed".toList

/-- The execution that a payload says has claimed the item. -/
def claimedAgent (payload : Json) : Option Text :=
  payload.pathStr ["p058_claimed", "agent_execution_id"]

/-- The claim key that a payload carries. -/
def claimedKey (payload : Json) : Option ArtifactSourceGenerationClaimKey :=
  (payload.getPath ["p058_claimed".toList, "artifact_claim_key".toList]).bind
    ArtifactSourceGenerationClaimKey.ofValue

theorem claimedAgent_eq (payload : Json) :
    claimedAgent payload =
      (claimedRecord payload).bind fun record =>
        record.getStr "agent_execution_id" := by
  simp only [claimedAgent, claimedRecord, Json.pathStr, Json.getStr, List.map,
    Json.getPath]
  cases payload.get "p058_claimed".toList with
  | none => rfl
  | some record =>
      simp only [Option.bind_some]
      cases record.get "agent_execution_id".toList <;> rfl

theorem claimedKey_eq (payload : Json) :
    claimedKey payload =
      (claimedRecord payload).bind fun record =>
        (record.get "artifact_claim_key".toList).bind
          ArtifactSourceGenerationClaimKey.ofValue := by
  simp only [claimedKey, claimedRecord, Json.getPath]
  cases payload.get "p058_claimed".toList with
  | none => rfl
  | some record =>
      simp only [Option.bind_some]
      cases record.get "artifact_claim_key".toList <;> rfl

namespace ArtifactSourceGenerationClaimKey

@[simp]
theorem optionalUuidOfValue_ofOption (id : Option Uuid) :
    optionalUuidOfValue (some (Json.ofOption (id.map Uuid.text))) = some id := by
  cases id <;> simp [optionalUuidOfValue, Json.ofOption, uuidOfValue]

/-- A key is read as it was written. -/
@[simp]
theorem ofValue_toValue (key : ArtifactSourceGenerationClaimKey) :
    ofValue key.toValue = some key := by
  have hobject : key.toValue.isObject = true := by
    rw [toValue, Json.isObject_ofFields]
  obtain ⟨fields, hfields⟩ : ∃ fields, key.toValue = .object fields := by
    revert hobject
    cases key.toValue <;> simp [Json.isObject]
  have hget (name : String) : key.toValue.get name.toList = _ :=
    Json.get_ofFields _ name
  have hread : ofValue key.toValue = (do
      ofMembers (← key.toValue.get "run_id".toList)
        (← key.toValue.get "owner_kind".toList)
        (← key.toValue.get "owner_id".toList)
        (key.toValue.get "stage_execution_id".toList)
        (← key.toValue.get "agent_execution_id".toList)
        (← key.toValue.get "source_work_item_id".toList)) := by
    rw [hfields]
    rfl
  rw [hread]
  simp only [hget]
  simp [List.lookup_cons, ofMembers, uuidOfValue]

end ArtifactSourceGenerationClaimKey

end ChainworksForge.Queue
