import ChainworksForge.Queue.Database
import ChainworksForge.Support.Ranking

/-!
# The session store

A lineage groups the provider sessions that one run keeps for an agent or for a
family of agents; a generation is one such session.  The lineage row names its
active generation.  Events record what became of a generation, and the tables of
executions and runtime facts say how the executions bound to it ended.

Moments are counted in nanoseconds.  A failed statement is an error of the whole
transaction.
-/

namespace ChainworksForge.Session

open ChainworksForge.Support
open ChainworksForge.Queue (SessionGenerationStatus AgentStatus AgentOutputSettlement)

inductive SessionEventType where
  | created
  | reused
  | invalidated
  | closed
  | operatorReset
  | budgetExceeded
  | compacted
  | outputContractRepairStarted
  | outputContractRepairSucceeded
  | outputContractRepairFailed
  | outputContractRepairSkipped
  | codeWriterCompletionStarted
  | codeWriterCompletionSucceeded
  | codeWriterCompletionFailed
deriving DecidableEq

inductive SessionReuseDisposition where
  | fresh
  | reused
  | reusedAfterResume
  | freshAfterReset
  | freshAfterInvalidation
  | freshAfterBudget
  | freshAfterCompaction
  | freshAfterTransportError
  | freshAfterTimeout
  | freshSessionRequired
  | unverifiableSessionHistory
deriving DecidableEq

structure SessionLineage where
  id : Text
  runId : Text
  agentId : Text
  lineageId : Text
  sessionReuseScope : Text
  sessionFamilyId : Option Text
  activeGenerationId : Option Text
  createdAt : ℤ
  closedAt : Option ℤ
deriving DecidableEq

structure SessionGeneration where
  id : Text
  lineageId : Text
  generation : ℤ
  invocationOwnerKey : Text
  providerSessionId : Option Text
  bindingFingerprint : Text
  rehydratedFromCheckpointArtifactId : Option Text
  workingDirectory : Text
  workspaceMode : Text
  runtimeProvider : Text
  runtimeModel : Text
  status : SessionGenerationStatus
  turnCount : ℤ
  estimatedInputTokens : ℤ
  latestCachedInputTokens : Option ℤ
  latestOutputTokens : Option ℤ
  latestModelContextWindow : Option ℤ
  cumulativePromptTokens : ℤ
  cumulativeCostCents : ℤ
  createdAt : ℤ
  lastActivityAt : Option ℤ
  endedAt : Option ℤ
  endReason : Option Text
deriving DecidableEq

structure SessionEvent where
  id : Text
  lineageId : Text
  generationId : Text
  eventType : SessionEventType
  recordedAt : ℤ
  details : Option Json
deriving DecidableEq

/-- What the policy reads of an execution. -/
structure AgentExecution where
  id : Text
  sessionGenerationId : Option Text
  status : AgentStatus
  provider : Text
deriving DecidableEq

/-- What the policy reads of the facts of an execution. -/
structure AgentExecutionRuntimeFacts where
  agentExecutionId : Text
  failureKind : Option Text
  failureKindRawDebug : Option Text
  failureMessageRedacted : Option Text
  supervisionClassification : Option Text
  outputSettlement : AgentOutputSettlement
deriving DecidableEq

structure Store where
  lineages : Table SessionLineage.id
  generations : Table SessionGeneration.id
  events : Table SessionEvent.id
  executions : Table AgentExecution.id
  runtimeFacts : Table AgentExecutionRuntimeFacts.agentExecutionId

def Store.empty : Store where
  lineages := Table.empty
  generations := Table.empty
  events := Table.empty
  executions := Table.empty
  runtimeFacts := Table.empty

variable (db : Store)

/-! ## Statements -/

/-- The first lineage of a run with a key. -/
def findLineageByRunAndKey (runId lineageKey : Text) : Option SessionLineage :=
  db.lineages.rows.find? fun lineage =>
    lineage.runId = runId ∧ lineage.lineageId = lineageKey

/-- The generation that the active pointer of a lineage names. -/
def findActiveGeneration (lineageId : Text) : Option SessionGeneration :=
  ((db.lineages.find lineageId).bind SessionLineage.activeGenerationId).bind
    db.generations.find

def generationsOf (lineageId : Text) : List SessionGeneration :=
  db.generations.rows.filter fun generation => generation.lineageId = lineageId

/-- The generations of a lineage, in ascending order of their numbers. -/
def listGenerationsForLineage (lineageId : Text) : List SessionGeneration :=
  sortByRank SessionGeneration.generation (generationsOf db lineageId)

def nextGenerationNumber (lineageId : Text) : ℤ :=
  (((generationsOf db lineageId).map SessionGeneration.generation).max?).getD 0 + 1

def countGenerationEvents (generationId : Text) (eventType : SessionEventType) : ℕ :=
  db.events.rows.countP fun event =>
    event.generationId = generationId ∧ event.eventType = eventType

def insertLineage (lineage : SessionLineage) : Except Text Store :=
  match db.lineages.insert lineage with
  | some lineages => .ok { db with lineages }
  | none => .error "insert session_lineage".toList

def insertGeneration (generation : SessionGeneration) : Except Text Store :=
  match db.generations.insert generation with
  | some generations => .ok { db with generations }
  | none => .error "insert session_generation".toList

def insertEvent (event : SessionEvent) : Except Text Store :=
  match db.events.insert event with
  | some events => .ok { db with events }
  | none => .error "insert session_event".toList

/-- Point a lineage at a generation. -/
def setActiveGeneration (lineageId : Text) (generationId : Option Text) : Store :=
  { db with
    lineages := db.lineages.update (fun lineage => lineage.id = lineageId)
      fun lineage => { lineage with activeGenerationId := generationId } }

def endGeneration (generationId : Text) (status : SessionGenerationStatus)
    (endReason : Text) (endedAt : ℤ) : Store :=
  { db with
    generations := db.generations.update (fun row => row.id = generationId)
      fun row =>
        { row with
          status := status, endReason := some endReason, endedAt := some endedAt } }

/-! ## Failed executions of a generation -/

/-- A fragment with single-character wildcards at the front of a text. -/
def likeFront : Text → Text → Bool
  | [], _ => true
  | _ :: _, [] => false
  | p :: pattern, c :: text =>
      (p = '_' || Text.asciiLower p = Text.asciiLower c) && likeFront pattern text

/-- The comparison of a nullable column with a fragment between two wildcards. -/
def likeAnywhere (column : Option Text) (fragment : String) : Bool :=
  (column.getD []).tails.any fun rest => likeFront fragment.toList rest

/-- Whether an execution bound to a generation failed with facts of a kind. -/
def hasFailedExecution (generationId : Text)
    (kind : AgentExecution → AgentExecutionRuntimeFacts → Bool) : Bool :=
  db.executions.rows.any fun execution =>
    execution.sessionGenerationId = some generationId && execution.status = .failed &&
      (db.runtimeFacts.find execution.id).any (kind execution)

def missingRequiredOutputs (_ : AgentExecution) (facts : AgentExecutionRuntimeFacts) :
    Bool :=
  facts.failureKind = some "missing_required_outputs".toList ||
    facts.outputSettlement = .missingRequiredOutputs

def toolOutputBudgetExceeded (_ : AgentExecution)
    (facts : AgentExecutionRuntimeFacts) : Bool :=
  facts.failureKind = some "tool_output_budget_exceeded".toList ||
    likeAnywhere facts.supervisionClassification "tool_output_budget_exceeded" ||
    likeAnywhere facts.supervisionClassification "codex_unbounded_tool_output" ||
    likeAnywhere facts.failureKindRawDebug "tool_output_budget_exceeded" ||
    likeAnywhere facts.failureKindRawDebug "codex_unbounded_tool_output" ||
    likeAnywhere facts.failureMessageRedacted "tool_output_budget_exceeded" ||
    likeAnywhere facts.failureMessageRedacted "codex_unbounded_tool_output"

def claudeLongContextCreditsRequired (execution : AgentExecution)
    (facts : AgentExecutionRuntimeFacts) : Bool :=
  (execution.provider = "claude".toList || execution.provider = "claude_acp".toList) &&
    facts.failureKind = some "provider_quota".toList &&
    (likeAnywhere facts.failureKindRawDebug "claude_long_context_credits_required" ||
      likeAnywhere facts.failureKindRawDebug
        "Usage credits are required for long context requests" ||
      likeAnywhere facts.failureMessageRedacted
        "Usage credits are required for long context requests")

end ChainworksForge.Session
