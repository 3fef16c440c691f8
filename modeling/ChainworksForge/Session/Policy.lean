import ChainworksForge.Session.Budget

/-!
# The session policy

Before an invocation starts, the policy finds the lineage of its agent or family,
repairs a lineage with several active generations, and decides whether the live
session of the active generation may be used again.  When it may not, the old
generation is ended and a new one is created.

The identifiers and the clock readings that a call draws are given by an
environment, one for each purpose a call draws them for.
-/

namespace ChainworksForge.Session

open ChainworksForge.Support

structure SessionPolicyInput where
  runId : Text
  agentId : Text
  provider : Text
  model : Text
  workingDirectory : Text
  workspaceMode : Text
  sessionReuseScope : Option Text
  sessionFamilyId : Option Text
  invocationOwnerKey : Text
  bindingFingerprint : Text
deriving DecidableEq

structure SessionPolicyDecision where
  lineage : SessionLineage
  generation : SessionGeneration
  disposition : SessionReuseDisposition
  shouldReuseLiveSession : Bool
  sessionResetReason : Option Text
  invalidatedGenerationIds : List Text
deriving DecidableEq

/-- What an identifier or a clock reading is drawn for. -/
inductive Draw where
  | lineage
  | generation
  | checkpointArtifact
  | idleAge
  | ending (generationId : Text)
  | event (generationId : Text) (eventType : SessionEventType)
deriving DecidableEq

structure Environment where
  uuid : Draw → Text
  now : Draw → ℤ
  display : F64 → Text

variable (env : Environment) (db : Store)

/-- The key of the lineage that an input belongs to. -/
def SessionPolicyInput.lineageKey (input : SessionPolicyInput) : Text :=
  input.sessionFamilyId.getD input.agentId

def SessionPolicyDecision.withGenerationToClose (decision : SessionPolicyDecision)
    (generationId : Text) : SessionPolicyDecision :=
  { decision with
    invalidatedGenerationIds := decision.invalidatedGenerationIds ++ [generationId] }

/-! ## Events, ends and creations -/

def recordEvent (lineage : SessionLineage) (generationId : Text)
    (eventType : SessionEventType) (details : Option Json) : Except Text Store :=
  insertEvent db
    { id := env.uuid (.event generationId eventType), lineageId := lineage.id,
      generationId, eventType, recordedAt := env.now (.event generationId eventType),
      details }

/-- End a generation and record why. -/
def finishGeneration (lineage : SessionLineage) (generation : SessionGeneration)
    (status : Queue.SessionGenerationStatus) (endReason : Text)
    (eventType : SessionEventType) (details : List (String × Json)) :
    Except Text Store :=
  recordEvent env
    (endGeneration db generation.id status endReason (env.now (.ending generation.id)))
    lineage generation.id eventType (some (Json.ofFields details))

def invalidateGeneration (lineage : SessionLineage) (generation : SessionGeneration)
    (reason : Text) : Except Text Store :=
  finishGeneration env db lineage generation .invalidated reason .invalidated
    [("reason", .string reason)]

def duplicateActiveSessionOwnerReason : Text :=
  "duplicate_active_session_owner_rejected".toList

def invalidateDuplicateActiveGeneration (lineage : SessionLineage)
    (generation : SessionGeneration) (survivingGenerationId : Text) :
    Except Text Store :=
  finishGeneration env db lineage generation .invalidated
    duplicateActiveSessionOwnerReason .invalidated
    [("reason", .string duplicateActiveSessionOwnerReason),
      ("surviving_generation_id", .string survivingGenerationId)]

/-- The generation that a call creates. -/
def newGeneration (lineage : SessionLineage) (input : SessionPolicyInput)
    (rehydratedFromCheckpointArtifactId : Option Text) : SessionGeneration where
  id := env.uuid .generation
  lineageId := lineage.id
  generation := nextGenerationNumber db lineage.id
  invocationOwnerKey := input.invocationOwnerKey
  providerSessionId := none
  bindingFingerprint := input.bindingFingerprint
  rehydratedFromCheckpointArtifactId := rehydratedFromCheckpointArtifactId
  workingDirectory := input.workingDirectory
  workspaceMode := input.workspaceMode
  runtimeProvider := input.provider
  runtimeModel := input.model
  status := .active
  turnCount := 0
  estimatedInputTokens := 0
  latestCachedInputTokens := none
  latestOutputTokens := none
  latestModelContextWindow := none
  cumulativePromptTokens := 0
  cumulativeCostCents := 0
  createdAt := env.now .generation
  lastActivityAt := none
  endedAt := none
  endReason := none

def createGeneration (lineage : SessionLineage) (input : SessionPolicyInput)
    (disposition : SessionReuseDisposition) (sessionResetReason : Option Text)
    (rehydratedFromCheckpointArtifactId : Option Text) :
    Except Text (SessionPolicyDecision × Store) := do
  let generation := newGeneration env db lineage input rehydratedFromCheckpointArtifactId
  let db ← insertGeneration db generation
  let db := setActiveGeneration db lineage.id (some generation.id)
  let db ← recordEvent env db lineage generation.id .created none
  return (⟨lineage, generation, disposition, false, sessionResetReason, []⟩, db)

/-! ## Duplicate active generations -/

/-- The later of two generations by number and creation; the second on a tie. -/
def laterGeneration (best generation : SessionGeneration) : SessionGeneration :=
  if best.generation < generation.generation ∨
      (best.generation = generation.generation ∧ best.createdAt ≤ generation.createdAt)
  then generation
  else best

/-- The active generation that is kept: the one the lineage names, or else the
latest. -/
def selectActiveGenerationSurvivor (first : SessionGeneration)
    (rest : List SessionGeneration) (lineage : SessionLineage) : SessionGeneration :=
  let named := (first :: rest).find? fun generation =>
    lineage.activeGenerationId = some generation.id
  named.getD (rest.foldl laterGeneration first)

def activeGenerations (lineageId : Text) : List SessionGeneration :=
  (listGenerationsForLineage db lineageId).filter fun generation =>
    generation.status = .active

/-- Keep one active generation of a lineage with several. -/
def repairDuplicateActiveGenerations (lineage : SessionLineage) :
    Except Text (SessionLineage × Store) :=
  match activeGenerations db lineage.id with
  | [] | [_] => .ok (lineage, db)
  | first :: rest => do
      let survivor := selectActiveGenerationSurvivor first rest lineage
      let repaired := { lineage with activeGenerationId := some survivor.id }
      let db :=
        if lineage.activeGenerationId = some survivor.id then db
        else setActiveGeneration db lineage.id (some survivor.id)
      let duplicates := (first :: rest).filter fun generation =>
        generation.id ≠ survivor.id
      let db ← duplicates.foldlM (fun db duplicate =>
        invalidateDuplicateActiveGeneration env db repaired duplicate survivor.id) db
      return (repaired, db)

/-! ## The live session -/

/-- Why a live session is not used again, and what the new one is called. -/
structure Refusal where
  reason : Text
  disposition : SessionReuseDisposition
  sessionResetReason : Option Text
deriving DecidableEq

/-- The first objection to using the session of an active generation again. -/
def refusal (lineage : SessionLineage) (input : SessionPolicyInput)
    (active : SessionGeneration) : Option Refusal :=
  let scope := lineage.sessionReuseScope
  if hasFailedExecution db active.id claudeLongContextCreditsRequired then
    some ⟨"claude_long_context_credits_required".toList, .freshAfterInvalidation,
      some "claude_long_context_credits_required".toList⟩
  else if hasFailedExecution db active.id missingRequiredOutputs then
    some ⟨"previous_missing_required_outputs".toList, .freshAfterInvalidation, none⟩
  else if hasFailedExecution db active.id toolOutputBudgetExceeded then
    some ⟨"tool_output_budget_exceeded".toList, .freshAfterInvalidation,
      some "tool_output_budget_exceeded".toList⟩
  else if scope = "none".toList then
    some ⟨"scope_none_requires_fresh_session".toList, .freshSessionRequired,
      some "policy_forbid".toList⟩
  else if active.bindingFingerprint ≠ input.bindingFingerprint then
    some ⟨"binding_fingerprint_changed".toList, .freshSessionRequired,
      some "provider_mismatch".toList⟩
  else if scope = "same_invocation_owner".toList ∧
      active.invocationOwnerKey ≠ input.invocationOwnerKey then
    some ⟨"invocation_owner_changed".toList, .freshSessionRequired,
      some "policy_forbid".toList⟩
  else none

/-- The decision of the budget on a generation. -/
def budgetDecision (active : SessionGeneration) : BudgetDecision :=
  evaluate env.display (budgetSignalsFromGeneration db (env.now .idleAge) active) {}

/-- Use the session of an active generation again, or replace the generation. -/
def settleActiveGeneration (lineage : SessionLineage) (input : SessionPolicyInput)
    (active : SessionGeneration) : Except Text (SessionPolicyDecision × Store) :=
  match refusal db lineage input active with
  | some objection => do
      let db ← invalidateGeneration env db lineage active objection.reason
      let (decision, db) ← createGeneration env db lineage input objection.disposition
        objection.sessionResetReason none
      return (decision.withGenerationToClose active.id, db)
  | none =>
      match budgetDecision env db active with
      | .continueReuse => do
          let db ← recordEvent env db lineage active.id .reused none
          return (⟨lineage, active, .reused, true, none, []⟩, db)
      | .compact reason => do
          let checkpoint := env.uuid .checkpointArtifact
          let db ← finishGeneration env db lineage active .closed
            ("budget_compaction_checkpoint:".toList ++ checkpoint) .compacted
            [("reason", .string reason), ("checkpoint_artifact_id", .string checkpoint)]
          let (decision, db) ← createGeneration env db lineage input .reusedAfterResume
            none (some checkpoint)
          return (decision.withGenerationToClose active.id, db)
      | .invalidate reason => do
          let db ← finishGeneration env db lineage active .invalidated reason
            .budgetExceeded [("reason", .string reason)]
          let (decision, db) ← createGeneration env db lineage input .freshAfterBudget
            none none
          return (decision.withGenerationToClose active.id, db)

/-! ## The next generation of a lineage without a live session -/

def checkpointArtifactIdFromEndReason (reason : Text) : Option Text :=
  (Text.stripFront reason "budget_compaction_checkpoint:".toList).or
    (Text.stripFront reason "checkpoint_resume:".toList)

/-- What the end of the last generation makes of the next one. -/
def mapLastGenerationState (generation : SessionGeneration) :
    SessionReuseDisposition × Option Text :=
  let mentions (fragment : String) :=
    generation.endReason.any fun reason => Text.contains reason fragment.toList
  if generation.status = .reset || mentions "reset" then (.freshAfterReset, none)
  else
    match generation.endReason.bind checkpointArtifactIdFromEndReason with
    | some checkpoint => (.reusedAfterResume, some checkpoint)
    | none =>
        if mentions "budget" || mentions "cost" then (.freshAfterBudget, none)
        else if mentions "compact" then (.freshAfterCompaction, none)
        else if mentions "transport" || mentions "missing_live_handle" then
          (.freshAfterTransportError, none)
        else if mentions "timeout" then (.freshAfterTimeout, none)
        else if mentions "checkpoint" || mentions "resume" then
          (.reusedAfterResume, none)
        else if generation.endReason.isSome && generation.status = .invalidated then
          (.freshAfterInvalidation, none)
        else (.fresh, none)

/-- Create the generation that follows the last one of a lineage. -/
def createNextGeneration (lineage : SessionLineage) (input : SessionPolicyInput) :
    Except Text (SessionPolicyDecision × Store) :=
  let last := (listGenerationsForLineage db lineage.id).getLast?
  let (disposition, checkpoint) := (last.map mapLastGenerationState).getD (.fresh, none)
  let resetReason :=
    if disposition = .freshAfterReset then last.bind SessionGeneration.endReason
    else none
  createGeneration env db lineage input disposition resetReason checkpoint

/-! ## The policy -/

/-- The lineage that a call inserts for an input. -/
def newLineage (input : SessionPolicyInput) : SessionLineage where
  id := env.uuid .lineage
  runId := input.runId
  agentId := input.agentId
  lineageId := input.lineageKey
  sessionReuseScope := input.sessionReuseScope.getD "none".toList
  sessionFamilyId := input.sessionFamilyId
  activeGenerationId := none
  createdAt := env.now .lineage
  closedAt := none

def findOrInsertLineage (input : SessionPolicyInput) :
    Except Text (SessionLineage × Store) :=
  match findLineageByRunAndKey db input.runId input.lineageKey with
  | some existing => .ok (existing, db)
  | none => do
      let db ← insertLineage db (newLineage env input)
      return (newLineage env input, db)

/-- The decision on a lineage whose duplicates have been repaired. -/
def decideGeneration (lineage : SessionLineage) (input : SessionPolicyInput) :
    Except Text (SessionPolicyDecision × Store) :=
  match findActiveGeneration db lineage.id with
  | none =>
      if lineage.activeGenerationId.isSome then
        createGeneration env db lineage input .unverifiableSessionHistory none none
      else createNextGeneration env db lineage input
  | some active =>
      if active.status = .active then settleActiveGeneration env db lineage input active
      else createNextGeneration env db lineage input

def ensurePolicy (input : SessionPolicyInput) :
    Except Text (SessionPolicyDecision × Store) := do
  let (lineage, db) ← findOrInsertLineage env db input
  let (lineage, db) ← repairDuplicateActiveGenerations env db lineage
  decideGeneration env db lineage input

end ChainworksForge.Session
