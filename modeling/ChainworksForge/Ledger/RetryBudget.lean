import ChainworksForge.Queue.Database
import ChainworksForge.Support.Ranking
import Mathlib.Data.Char
import Mathlib.Data.List.Lex

/-!
# The retry-budget ledger

An execution that a provider's quota stopped leaves a hold in the ledger.  The
hold waits for the reset of the quota; a retry before or after the reset consumes
the budget of the hold and leaves the journal entry that ordered it.

A moment is compared by its place in time in the program and by its text in a
statement on the table.
-/

namespace ChainworksForge.Ledger

open ChainworksForge.Support
open ChainworksForge.Queue (Instant OwnerKind)

inductive HoldState where
  | waitingForReset
  | resetElapsed
  | resetElapsedRetryScheduled
  | earlyRetryConsumed
deriving DecidableEq

structure AgentRetryBudgetLedgerRow where
  id : Text
  runId : Uuid
  ownerKind : OwnerKind
  ownerId : Text
  stageExecutionId : Option Uuid
  agentExecutionId : Uuid
  failureKind : Text
  retryAfter : Option Instant
  normalBudgetConsumed : Bool
  earlyRetryJournalId : Option Text
  idempotencyKey : Text
  state : HoldState
  createdAt : Instant
  updatedAt : Instant
deriving DecidableEq

/-- What the ledger reads of an execution. -/
structure AgentExecution where
  id : Uuid
  provider : Text
  providerFamily : Option Text
  model : Option Text
deriving DecidableEq

/-- What the ledger reads of the authority of a retry. -/
structure RetryStageExecutionAuthority where
  targetStageExecutionId : Uuid
  isActive : Bool
  sourceCommandJournalId : Text
deriving DecidableEq

structure CommandJournalEntry where
  id : Text
  payload : Option Json
deriving DecidableEq

structure Store where
  ledger : Table AgentRetryBudgetLedgerRow.id
  executions : List AgentExecution
  authorities : List RetryStageExecutionAuthority
  journal : List CommandJournalEntry

variable (db : Store)

def providerQuota : Text := "provider_quota".toList

/-! ## Recording a hold -/

/-- What is known of the failure that a hold is recorded for. -/
structure QuotaFailure where
  runId : Uuid
  ownerKind : OwnerKind
  ownerId : Text
  stageExecutionId : Option Uuid
  agentExecutionId : Uuid
  retryAfter : Option Instant
deriving DecidableEq

/-- The key under which a failure is recorded once. -/
def QuotaFailure.idempotencyKey (failure : QuotaFailure) : Text :=
  List.intercalate ":".toList
    [failure.runId.text, failure.ownerKind.text, failure.ownerId,
      failure.agentExecutionId.text,
      (failure.retryAfter.map Instant.text).getD "none".toList, providerQuota]

/-- The owner that the table admits: a stage with its own name, or a mediation without
a stage. -/
def QuotaFailure.hasOwner (failure : QuotaFailure) : Bool :=
  match failure.ownerKind with
  | .stageExecution => failure.stageExecutionId.any fun stage =>
      failure.ownerId = stage.text
  | .leadConflictMediation => failure.stageExecutionId.isNone

def QuotaFailure.holdState (failure : QuotaFailure) (now : Instant) : HoldState :=
  if failure.retryAfter.any fun moment => now.ticks < moment.ticks then .waitingForReset
  else .resetElapsed

def QuotaFailure.row (failure : QuotaFailure) (id : Text) (now : Instant) :
    AgentRetryBudgetLedgerRow where
  id := id
  runId := failure.runId
  ownerKind := failure.ownerKind
  ownerId := failure.ownerId
  stageExecutionId := failure.stageExecutionId
  agentExecutionId := failure.agentExecutionId
  failureKind := providerQuota
  retryAfter := failure.retryAfter
  normalBudgetConsumed := false
  earlyRetryJournalId := none
  idempotencyKey := failure.idempotencyKey
  state := failure.holdState now
  createdAt := now
  updatedAt := now

/-- Record a failure; a hold that is already recorded under its key is renewed. -/
def upsertQuotaFailureForOwner (failure : QuotaFailure) (id : Text) (now : Instant) :
    Except Text Store :=
  let key := failure.idempotencyKey
  if !failure.hasOwner then .error "CHECK constraint failed".toList
  else if db.ledger.rows.any fun row => row.idempotencyKey = key then
    .ok { db with
      ledger := db.ledger.update (fun row => row.idempotencyKey = key) fun row =>
        { row with
          retryAfter := failure.retryAfter, state := failure.holdState now,
          updatedAt := now } }
  else
    match db.ledger.insert (failure.row id now) with
    | some ledger => .ok { db with ledger }
    | none => .error "UNIQUE constraint failed".toList

/-! ## Waiting for the reset -/

def findById (id : Text) : Except Text AgentRetryBudgetLedgerRow :=
  required (db.ledger.find id) "no rows returned".toList

/-- Change the holds that satisfy a condition. -/
def updateHolds (condition : AgentRetryBudgetLedgerRow → Bool)
    (change : AgentRetryBudgetLedgerRow → AgentRetryBudgetLedgerRow)
    (hkey : ∀ row, (change row).id = row.id := by intro; rfl) : Store :=
  { db with ledger := db.ledger.update condition change hkey }

/-- The number of holds that a statement would change. -/
def affected (condition : AgentRetryBudgetLedgerRow → Bool) : ℕ :=
  db.ledger.rows.countP condition

def markQuotaResetElapsed (id : Text) (now : Instant) : Except Text Store := do
  let db := updateHolds db (fun row => row.id = id ∧ row.normalBudgetConsumed = false)
    fun row => { row with state := .resetElapsed, updatedAt := now }
  let _ ← findById db id
  return db

def markElapsedProviderQuotaWaits (now : Instant) : Store :=
  updateHolds db
    (fun row => row.failureKind = providerQuota ∧ row.normalBudgetConsumed = false ∧
      row.state = .waitingForReset ∧
      row.retryAfter.any fun moment => ¬now.text < moment.text)
    fun row => { row with state := .resetElapsed, updatedAt := now }

/-- Change one hold; a statement that does not change exactly one is an error. -/
def updateOneHold (id : Text) (condition : AgentRetryBudgetLedgerRow → Bool)
    (change : AgentRetryBudgetLedgerRow → AgentRetryBudgetLedgerRow) (message : String)
    (hkey : ∀ row, (change row).id = row.id := by intro; rfl) : Except Text Store := do
  ensure (affected db condition = 1)
    ("quota ledger ".toList ++ id ++ " ".toList ++ message.toList)
  let db := updateHolds db condition change hkey
  let _ ← findById db id
  return db

def deferResetElapsedRetry (id : Text) (retryAfter updatedAt : Instant) :
    Except Text Store :=
  updateOneHold db id
    (fun row => row.id = id ∧ row.failureKind = providerQuota ∧
      row.normalBudgetConsumed = false ∧
      (row.state = .waitingForReset ∨ row.state = .resetElapsed) ∧
      row.retryAfter.all fun moment => moment.text < retryAfter.text)
    (fun row => { row with
      retryAfter := some retryAfter, state := .waitingForReset, updatedAt := updatedAt })
    "cannot be deferred to a later provider reset"

def reconcileHistoricalQuotaReset (id : Text) (retryAfter updatedAt : Instant) :
    Except Text Store :=
  updateOneHold db id
    (fun row => row.id = id ∧ row.failureKind = providerQuota ∧
      row.normalBudgetConsumed = false ∧ row.state = .waitingForReset ∧
      row.retryAfter.any fun moment => retryAfter.text < moment.text)
    (fun row => { row with
      retryAfter := some retryAfter, state := .resetElapsed, updatedAt := updatedAt })
    "cannot be reconciled to a prior provider reset"

/-! ## Consuming the budget -/

/-- The hold after a retry has consumed its budget; the first journal entry stays. -/
def AgentRetryBudgetLedgerRow.consumedBy (row : AgentRetryBudgetLedgerRow)
    (journalId : Text) (state : HoldState) (now : Instant) : AgentRetryBudgetLedgerRow :=
  { row with
    normalBudgetConsumed := true
    earlyRetryJournalId := some (row.earlyRetryJournalId.getD journalId)
    state := state
    updatedAt := now }

/-- Consume the elapsed holds of the owner of a hold. -/
def markResetElapsedRetryScheduled (id journalId : Text) (now : Instant) :
    Except Text Store := do
  let condition (row : AgentRetryBudgetLedgerRow) : Bool :=
    row.failureKind = providerQuota ∧ row.normalBudgetConsumed = false ∧
      row.state = .resetElapsed ∧
      db.ledger.rows.any fun source => source.id = id ∧ source.runId = row.runId ∧
        source.ownerKind = row.ownerKind ∧ source.ownerId = row.ownerId
  ensure (affected db condition ≠ 0)
    ("quota ledger ".toList ++ id ++
      " was already consumed or is not reset_elapsed".toList)
  let db := updateHolds db condition
    fun row => row.consumedBy journalId .resetElapsedRetryScheduled now
  let _ ← findById db id
  return db

/-- Consume a hold before its reset.  The statement has no condition but the name of
the hold. -/
def consumeEarlyQuotaRetry (id journalId : Text) (now : Instant) :
    Except Text Store := do
  let db := updateHolds db (fun row => row.id = id)
    fun row => row.consumedBy journalId .earlyRetryConsumed now
  let _ ← findById db id
  return db

/-- Two models that may share a quota: a missing or blank one stands for any. -/
def sameModel (stored requested : Option Text) : Bool :=
  let isBlank (model : Option Text) := model.all fun text =>
    text.all fun c => c = ' '
  isBlank stored || isBlank requested ||
    stored.map (List.map Text.asciiLower) = requested.map (List.map Text.asciiLower)

/-- Whether an execution draws on the quota of a provider family and model. -/
def drawsOn (execution : AgentExecution) (providerFamily : Text) (model : Option Text) :
    Bool :=
  execution.providerFamily.getD execution.provider = providerFamily &&
    sameModel execution.model model

/-- The waiting holds of a provider family. -/
def isActiveFamilyHold (providerFamily : Text) (model : Option Text) (now : Instant)
    (row : AgentRetryBudgetLedgerRow) : Bool :=
  row.failureKind = providerQuota ∧ row.normalBudgetConsumed = false ∧
    row.state = .waitingForReset ∧
    (row.retryAfter.any fun moment => now.text < moment.text) ∧
    db.executions.any fun execution =>
      execution.id = row.agentExecutionId ∧ drawsOn execution providerFamily model

/-- Consume every waiting hold of a provider family. -/
def consumeFamilyHolds (providerFamily : Text) (model : Option Text) (now : Instant)
    (journalId : Text) : Store :=
  updateHolds db (isActiveFamilyHold db providerFamily model now)
    fun row => row.consumedBy journalId .earlyRetryConsumed now

def consumeActiveProviderFamilyQuotaForOperatorOverride (providerFamily : Text)
    (model : Option Text) (now : Instant) (journalId : Text) : Store :=
  consumeFamilyHolds db providerFamily model now journalId

/-- The journal entry that orders a retry to consume its budget. -/
def consumingAuthority (targetStageExecutionId : Uuid) :
    Except Text (Option Text) := do
  let found := db.authorities.find? fun authority =>
    authority.targetStageExecutionId = targetStageExecutionId ∧ authority.isActive ∧
      db.journal.any fun entry => entry.id = authority.sourceCommandJournalId
  match found with
  | none => return none
  | some authority =>
      let entry := db.journal.find? fun entry =>
        entry.id = authority.sourceCommandJournalId
      let payload ← required (entry.bind CommandJournalEntry.payload)
        "expected value".toList
      let consumes := (payload.getPath
        ["RetryStage".toList, "consume_quota_budget_now".toList]).bind Json.asBool
      return if consumes = some true then some authority.sourceCommandJournalId else none

def consumeActiveProviderFamilyQuotaForRetryTarget (targetStageExecutionId : Uuid)
    (providerFamily : Text) (model : Option Text) (now : Instant) :
    Except Text Store := do
  match ← consumingAuthority db targetStageExecutionId with
  | none => return db
  | some journalId => return consumeFamilyHolds db providerFamily model now journalId

/-- What a retry of a stage does to one hold of the stage: a waiting hold is consumed
if the command says so and stops the retry otherwise, and another hold counts as
elapsed. -/
def applyQuotaRetryBudgetForHold (consumeNow : Bool) (journalId : Text)
    (stageExecutionId : Uuid) (now : Instant) (db : Store)
    (row : AgentRetryBudgetLedgerRow) : Except Text Store :=
  if row.normalBudgetConsumed then .ok db
  else if row.retryAfter.any fun moment => now.ticks < moment.ticks then
    if consumeNow then consumeEarlyQuotaRetry db row.id journalId now
    else .error ("provider quota retry-after for stage ".toList ++ stageExecutionId.text)
  else markQuotaResetElapsed db row.id now

def applyQuotaRetryBudgetForStage (runId stageExecutionId : Uuid) (consumeNow : Bool)
    (journalId : Text) (now : Instant) : Except Text Store :=
  let holds := db.ledger.rows.filter fun row =>
    row.runId = runId ∧ row.ownerKind = .stageExecution ∧
      row.ownerId = stageExecutionId.text ∧ row.failureKind = providerQuota
  (sortByRank (fun row => row.createdAt.text) holds).foldlM
    (applyQuotaRetryBudgetForHold consumeNow journalId stageExecutionId now)
    db

/-! ## Histories -/

/-- One transaction on the ledger. -/
inductive LedgerAction where
  | upsertQuotaFailure (failure : QuotaFailure) (id : Text) (now : Instant)
  | markQuotaResetElapsed (id : Text) (now : Instant)
  | markElapsedProviderQuotaWaits (now : Instant)
  | deferResetElapsedRetry (id : Text) (retryAfter updatedAt : Instant)
  | reconcileHistoricalQuotaReset (id : Text) (retryAfter updatedAt : Instant)
  | markResetElapsedRetryScheduled (id journalId : Text) (now : Instant)
  | consumeEarlyQuotaRetry (id journalId : Text) (now : Instant)
  | consumeForRetryTarget (stageExecutionId : Uuid) (providerFamily : Text)
      (model : Option Text) (now : Instant)
  | consumeForOperatorOverride (providerFamily : Text) (model : Option Text)
      (now : Instant) (journalId : Text)
  | applyQuotaRetryBudget (runId stageExecutionId : Uuid) (consumeNow : Bool)
      (journalId : Text) (now : Instant)

/-- The result of a transaction. -/
def attempt : LedgerAction → Except Text Store
  | .upsertQuotaFailure failure id now => upsertQuotaFailureForOwner db failure id now
  | .markQuotaResetElapsed id now => Ledger.markQuotaResetElapsed db id now
  | .markElapsedProviderQuotaWaits now =>
      .ok (Ledger.markElapsedProviderQuotaWaits db now)
  | .deferResetElapsedRetry id retryAfter updatedAt =>
      Ledger.deferResetElapsedRetry db id retryAfter updatedAt
  | .reconcileHistoricalQuotaReset id retryAfter updatedAt =>
      Ledger.reconcileHistoricalQuotaReset db id retryAfter updatedAt
  | .markResetElapsedRetryScheduled id journalId now =>
      Ledger.markResetElapsedRetryScheduled db id journalId now
  | .consumeEarlyQuotaRetry id journalId now =>
      Ledger.consumeEarlyQuotaRetry db id journalId now
  | .consumeForRetryTarget stageExecutionId providerFamily model now =>
      consumeActiveProviderFamilyQuotaForRetryTarget db stageExecutionId providerFamily
        model now
  | .consumeForOperatorOverride providerFamily model now journalId =>
      .ok (consumeActiveProviderFamilyQuotaForOperatorOverride db providerFamily model
        now journalId)
  | .applyQuotaRetryBudget runId stageExecutionId consumeNow journalId now =>
      applyQuotaRetryBudgetForStage db runId stageExecutionId consumeNow journalId now

/-- The tables after a transaction; an error rolls it back. -/
def perform (action : LedgerAction) : Store :=
  match attempt db action with
  | .ok changed => changed
  | .error _ => db

end ChainworksForge.Ledger
