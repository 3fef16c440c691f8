import ChainworksForge.Support.Checked
import ChainworksForge.Support.Ranking
import ChainworksForge.Support.Table
import ChainworksForge.Support.Uuid
import Mathlib.Data.Char
import Mathlib.Data.List.Lex

/-!
# The ledger of side effects

A release writes to systems outside the control plane.  Each such write has a row in
the ledger before it starts, and the row is changed by statements that state what they
expect to find: the status, the owner, the lease.

An index admits one unresolved effect for a run and a target.  It is checked by every
statement that changes a status, not only by an insertion.  Moments are texts.
-/

namespace ChainworksForge.Release

open ChainworksForge.Support

inductive EffectKind where
  | gitCommit
  | gitPush
  | buildArchive
  | connectUpload
  | tagCreate
  | artifactPublish
deriving DecidableEq

def EffectKind.leaseTtlSeconds : EffectKind → ℕ
  | .gitCommit | .tagCreate => 30
  | .gitPush | .artifactPublish => 30
  | .buildArchive => 60
  | .connectUpload => 60

def EffectKind.deadlineSeconds : EffectKind → ℕ
  | .gitCommit => 60
  | .gitPush => 120
  | .buildArchive => 7200
  | .connectUpload => 3600
  | .tagCreate => 60
  | .artifactPublish => 120

inductive SideEffectStatus where
  | prepared
  | executing
  | externallyObserved
  | needsReconciliation
  | settled
  | reconciled
  | conflict
  | unrecoverable
deriving DecidableEq

def SideEffectStatus.isUnresolved : SideEffectStatus → Bool
  | .prepared | .executing | .externallyObserved | .needsReconciliation | .conflict
  | .unrecoverable => true
  | .settled | .reconciled => false

/-- The statuses that the table of the settlements admits. -/
def SideEffectStatus.isSettlement : SideEffectStatus → Bool
  | .settled | .reconciled | .conflict | .unrecoverable => true
  | .prepared | .executing | .externallyObserved | .needsReconciliation => false

structure SideEffect where
  id : Text
  runId : Uuid
  stageExecutionId : Uuid
  agentExecutionId : Option Uuid
  effectKind : EffectKind
  targetKey : Text
  idempotencyKey : Text
  idempotencyKeyVersion : ℤ
  requestFingerprint : Text
  requestFingerprintVersion : ℤ
  status : SideEffectStatus
  ownerInstanceId : Option Text
  leaseAcquiredAt : Option Text
  leaseRenewedAt : Option Text
  leaseExpiresAt : Option Text
  deadlineAt : Option Text
  externalWriteStartedAt : Option Text
  externalWriteAttempted : Bool
  attemptBudgetRemaining : ℤ
  expectedEvidenceJson : Option Text
  observedEvidenceSummaryJson : Option Text
  evidenceRoot : Option Text
  lastErrorKind : Option Text
  lastError : Option Text
  settlementTxnId : Option Text
  createdAt : Text
  updatedAt : Text
deriving DecidableEq

inductive ExitStatus where
  | succeeded
  | failed
deriving DecidableEq

structure SideEffectAttempt where
  id : Text
  sideEffectId : Text
  attemptNumber : ℕ
  ownerInstanceId : Text
  startedAt : Text
  completedAt : Option Text
  deadlineAt : Option Text
  exitStatus : Option ExitStatus
  observedEvidenceSummaryJson : Option Text
  errorKind : Option Text
  error : Option Text
deriving DecidableEq

structure SideEffectSettlement where
  id : Text
  sideEffectId : Text
  settlementStatus : SideEffectStatus
  settlementSource : Text
  receiptArtifactId : Option Text
  appliedAt : Text
  appliedBy : Text
  dispositionId : Option Text
  settlementAttemptId : Option Text
  decisionJson : Option Text
  decisionJsonHash : Option Text
deriving DecidableEq

structure Store where
  effects : Table SideEffect.id
  attempts : Table SideEffectAttempt.id
  settlements : Table SideEffectSettlement.id

variable (db : Store)

/-! ## Statements -/

/-- Two effects of the same run and target. -/
def SideEffect.sameTarget (effect other : SideEffect) : Bool :=
  effect.runId = other.runId ∧ effect.targetKey = other.targetKey

/-- The index on the unresolved targets admits a row. -/
def admitsTarget (effect : SideEffect) : Bool :=
  !effect.status.isUnresolved || db.effects.rows.all fun other =>
    other.id = effect.id || !other.status.isUnresolved || !other.sameTarget effect

def uniqueViolation : Text := "UNIQUE constraint failed".toList

def checkViolation : Text := "CHECK constraint failed".toList

def insertEffect (effect : SideEffect) : Except Text Store := do
  ensure (db.effects.rows.all fun other => other.idempotencyKey ≠ effect.idempotencyKey)
    uniqueViolation
  ensure (admitsTarget db effect) uniqueViolation
  let effects ← required (db.effects.insert effect) uniqueViolation
  return { db with effects }

/-- A statement on the effect of an identifier: whether it found the row as it expects
it, and the ledger after the change. -/
def compareAndSet (id : Text) (expected : SideEffect → Bool)
    (change : SideEffect → SideEffect)
    (hkey : ∀ effect, (change effect).id = effect.id := by intro; rfl) :
    Except Text (Store × Bool) :=
  match db.effects.find id with
  | none => .ok (db, false)
  | some effect =>
      if expected effect then
        if admitsTarget db (change effect) then
          .ok ({ db with
            effects := db.effects.update (fun row => row.id = id) change hkey }, true)
        else .error uniqueViolation
      else .ok (db, false)

/-- The sources that the table of the settlements admits. -/
def settlementSources : List Text :=
  ["executor".toList, "mcp_operator".toList, "startup_recovery".toList,
    "watchdog".toList]

def insertSettlement (settlement : SideEffectSettlement) : Except Text Store := do
  ensure (settlement.settlementStatus.isSettlement &&
    settlementSources.contains settlement.settlementSource) checkViolation
  ensure (db.settlements.rows.all fun other =>
    other.sideEffectId ≠ settlement.sideEffectId ∧
      (settlement.dispositionId.isNone ∨ other.dispositionId ≠ settlement.dispositionId))
    uniqueViolation
  let settlements ← required (db.settlements.insert settlement) uniqueViolation
  return { db with settlements }

/-- Whether an effect has been settled. -/
def hasSettlement (effectId : Text) : Bool :=
  db.settlements.rows.any fun settlement => settlement.sideEffectId = effectId

def findByIdempotencyKey (key : Text) : Option SideEffect :=
  db.effects.rows.find? fun effect => effect.idempotencyKey = key

def listUnresolvedByRunAndTargetKey (runId : Uuid) (targetKey : Text) :
    List SideEffect :=
  sortByRank SideEffect.createdAt (db.effects.rows.filter fun effect =>
    effect.runId = runId ∧ effect.targetKey = targetKey ∧ effect.status.isUnresolved)

/-! ## The executor -/

/-- Take the lease of a prepared effect and record the attempt. -/
def executorStartCas (effectId ownerInstanceId attemptId leaseAcquiredAt
    leaseExpiresAt : Text) (deadlineAt : Option Text) (now : Text) :
    Except Text (Store × Bool) := do
  let (changed, won) ← compareAndSet db effectId
    (fun effect => effect.status = .prepared ∧
      (effect.leaseExpiresAt.all fun expiry => expiry < now) ∧
      effect.externalWriteAttempted = false)
    fun effect => { effect with
      status := .executing
      ownerInstanceId := some ownerInstanceId
      leaseAcquiredAt := some leaseAcquiredAt
      leaseRenewedAt := some leaseAcquiredAt
      leaseExpiresAt := some leaseExpiresAt
      deadlineAt := deadlineAt.or effect.deadlineAt
      updatedAt := now }
  if !won then return (db, false)
  let earlier := (changed.attempts.rows.filter fun attempt =>
    attempt.sideEffectId = effectId).map SideEffectAttempt.attemptNumber
  let attempts ← required (changed.attempts.insert
    { id := attemptId
      sideEffectId := effectId
      attemptNumber := earlier.foldr max 0 + 1
      ownerInstanceId := ownerInstanceId
      startedAt := now
      completedAt := none
      deadlineAt := deadlineAt
      exitStatus := none
      observedEvidenceSummaryJson := none
      errorKind := none
      error := none }) uniqueViolation
  return ({ changed with attempts }, true)

def leaseRenewCas (effectId ownerInstanceId newExpiresAt now : Text) :
    Except Text (Store × Bool) :=
  compareAndSet db effectId
    (fun effect => effect.status = .executing ∧
      effect.ownerInstanceId = some ownerInstanceId ∧
      effect.leaseExpiresAt.any fun expiry => ¬expiry < now)
    fun effect => { effect with
      leaseRenewedAt := some now, leaseExpiresAt := some newExpiresAt, updatedAt := now }

structure ExecutorSettleCasParams where
  effectId : Text
  ownerInstanceId : Text
  settlementAttemptId : Text
  observedLeaseRenewedAt : Text
  newStatus : SideEffectStatus
  observedEvidenceSummaryJson : Option Text
  settlementTxnId : Text
  lastErrorKind : Option Text
  lastError : Option Text
  now : Text
  settlementSource : Text
  receiptArtifactId : Option Text
  decisionJson : Option Text
  decisionJsonHash : Option Text
  dispositionId : Option Text

/-- Record how the attempt of a settlement ended. -/
def completeAttempt (params : ExecutorSettleCasParams) : Store :=
  { db with
    attempts := db.attempts.update
      (fun attempt => attempt.id = params.settlementAttemptId ∧
        attempt.sideEffectId = params.effectId)
      fun attempt => { attempt with
        completedAt := some params.now
        exitStatus := some (if params.newStatus = .settled then .succeeded else .failed)
        observedEvidenceSummaryJson := params.observedEvidenceSummaryJson
        errorKind := params.lastErrorKind
        error := params.lastError } }

/-- Settle an executing or observed effect.  The ledger of a transaction that answers
`false` may already hold the new status: it is the caller that has to roll it back. -/
def executorSettleCasTx (params : ExecutorSettleCasParams) (settlementId : Text) :
    Except Text (Store × Bool) := do
  let (db, updated) ← compareAndSet db params.effectId
    (fun effect => effect.ownerInstanceId = some params.ownerInstanceId ∧
      hasSettlement db params.effectId = false ∧
      ((effect.status = .executing ∧
          (effect.leaseExpiresAt.any fun expiry => ¬expiry < params.now) ∧
          effect.leaseRenewedAt = some params.observedLeaseRenewedAt) ∨
        effect.status = .externallyObserved))
    fun effect => { effect with
      status := params.newStatus
      observedEvidenceSummaryJson :=
        params.observedEvidenceSummaryJson.or effect.observedEvidenceSummaryJson
      lastErrorKind := params.lastErrorKind
      lastError := params.lastError
      settlementTxnId := some params.settlementTxnId
      updatedAt := params.now }
  if !updated then return (db, false)
  if !db.attempts.rows.any fun attempt => attempt.id = params.settlementAttemptId ∧
      attempt.sideEffectId = params.effectId then return (completeAttempt db params, false)
  let db ← insertSettlement (completeAttempt db params)
    { id := settlementId
      sideEffectId := params.effectId
      settlementStatus := params.newStatus
      settlementSource := params.settlementSource
      receiptArtifactId := params.receiptArtifactId
      appliedAt := params.now
      appliedBy := params.ownerInstanceId
      dispositionId := params.dispositionId
      settlementAttemptId := some params.settlementAttemptId
      decisionJson := params.decisionJson
      decisionJsonHash := params.decisionJsonHash }
  return (db, true)

def executorSettleCas (params : ExecutorSettleCasParams) (settlementId : Text) :
    Except Text (Store × Bool) := do
  let (changed, settled) ← executorSettleCasTx db params settlementId
  return if settled then (changed, true) else (db, false)

/-- Leave an executing effect to reconciliation after a failure. -/
def executorFailCasTx (effectId ownerInstanceId attemptId observedLeaseRenewedAt
    lastErrorKind lastError now : Text) : Except Text (Store × Bool) := do
  let (db, updated) ← compareAndSet db effectId
    (fun effect => effect.status = .executing ∧
      effect.ownerInstanceId = some ownerInstanceId ∧
      effect.leaseRenewedAt.or effect.leaseAcquiredAt = some observedLeaseRenewedAt)
    fun effect => { effect with
      status := .needsReconciliation, lastErrorKind := some lastErrorKind
      lastError := some lastError, updatedAt := now }
  if !updated then return (db, false)
  return ({ db with
    attempts := db.attempts.update
      (fun attempt => attempt.id = attemptId ∧ attempt.sideEffectId = effectId)
      fun attempt => { attempt with
        completedAt := some now, exitStatus := some .failed
        errorKind := some lastErrorKind, error := some lastError } }, true)

/-- Mark that the external write is about to start. -/
def markExternalWriteStarted (effectId ownerInstanceId startedAt : Text) :
    Except Text (Store × Bool) :=
  compareAndSet db effectId
    (fun effect => effect.status = .executing ∧
      effect.ownerInstanceId = some ownerInstanceId ∧
      effect.externalWriteAttempted = false ∧ hasSettlement db effectId = false)
    fun effect => { effect with
      externalWriteStartedAt := some startedAt, externalWriteAttempted := true
      updatedAt := startedAt }

/-! ## The watchdog -/

def listWatchdogRecoveryCandidates (now : Text) (limit : ℕ) : List SideEffect :=
  let overdue (moment : Option Text) : Bool := moment.any fun text => text < now
  (sortByRank SideEffect.updatedAt (db.effects.rows.filter fun effect =>
    (effect.status = .executing ∧
      (overdue effect.leaseExpiresAt ∨ overdue effect.deadlineAt)) ∨
    ((effect.status = .prepared ∨ effect.status = .externallyObserved) ∧
      overdue effect.deadlineAt) ∨
    (effect.status = .settled ∧ effect.observedEvidenceSummaryJson.isSome))).take limit

/-- Leave an effect to reconciliation if it is still as the watchdog observed it. -/
def reaperTransitionCas (observed : SideEffect) (now lastErrorKind lastError : Text) :
    Except Text (Store × Bool) :=
  let overdue (moment : Option Text) : Bool := moment.any fun text => text < now
  let transition (expected : SideEffect → Bool) : Except Text (Store × Bool) :=
    compareAndSet db observed.id expected fun effect => { effect with
      status := .needsReconciliation, lastErrorKind := some lastErrorKind
      lastError := some lastError, updatedAt := now }
  match observed.status with
  | .executing => transition fun effect => effect.status = .executing ∧
      effect.ownerInstanceId.isSome ∧
      effect.ownerInstanceId = observed.ownerInstanceId ∧
      (effect.leaseRenewedAt.or effect.leaseAcquiredAt).isSome ∧
      effect.leaseRenewedAt.or effect.leaseAcquiredAt = observed.leaseRenewedAt ∧
      (overdue effect.leaseExpiresAt ∨ overdue effect.deadlineAt)
  | .prepared => transition fun effect => effect.status = .prepared ∧
      effect.updatedAt = observed.updatedAt ∧ overdue effect.deadlineAt
  | .externallyObserved => transition fun effect =>
      effect.status = .externallyObserved ∧ effect.updatedAt = observed.updatedAt ∧
      overdue effect.deadlineAt
  | _ => .error "reaper_transition_cas: invalid source status".toList

/-- Reopen a settled effect whose evidence does not stand. -/
def markSettledEvidenceFailed (observed : SideEffect)
    (lastErrorKind lastError now : Text) : Except Text (Store × Bool) :=
  compareAndSet db observed.id
    (fun effect => effect.status = .settled ∧ effect.updatedAt = observed.updatedAt)
    fun effect => { effect with
      status := .needsReconciliation, lastErrorKind := some lastErrorKind
      lastError := some lastError, updatedAt := now }

/-! ## The operator -/

inductive DispositionOutcome where
  | applied
  | alreadyApplied
  | payloadMismatch
  | notApplicable
deriving DecidableEq

structure OperatorDisposition where
  effectId : Text
  newStatus : SideEffectStatus
  settlementSource : Text
  dispositionId : Text
  decisionJson : Text
  decisionJsonHash : Text
  appliedBy : Text
  now : Text

/-- Give a waiting effect the status of a disposition and record the settlement. -/
def settleForOperator (disposition : OperatorDisposition) (settlementId : Text) :
    Except Text (Store × DispositionOutcome) := do
  let (changed, updated) ← compareAndSet db disposition.effectId
    (fun effect => effect.status = .needsReconciliation ∨ effect.status = .conflict ∨
      effect.status = .unrecoverable)
    fun effect => { effect with
      status := disposition.newStatus, updatedAt := disposition.now }
  if !updated then return (db, .notApplicable)
  let settledDb ← insertSettlement changed
    { id := settlementId
      sideEffectId := disposition.effectId
      settlementStatus := disposition.newStatus
      settlementSource := disposition.settlementSource
      receiptArtifactId := none
      appliedAt := disposition.now
      appliedBy := disposition.appliedBy
      dispositionId := some disposition.dispositionId
      settlementAttemptId := none
      decisionJson := some disposition.decisionJson
      decisionJsonHash := some disposition.decisionJsonHash }
  return (settledDb, .applied)

/-- Settle an effect that waits for reconciliation.  A disposition that is already in
the table answers for itself, and an effect is settled once.  A column without a value
is read as the empty text. -/
def applyOperatorDispositionTx (disposition : OperatorDisposition) (settlementId : Text) :
    Except Text (Store × DispositionOutcome) :=
  match db.settlements.rows.find? fun settlement =>
      settlement.dispositionId = some disposition.dispositionId with
  | some existing =>
      if existing.sideEffectId = disposition.effectId ∧
          existing.decisionJsonHash.getD [] = disposition.decisionJsonHash ∧
          existing.decisionJson = some disposition.decisionJson then
        .ok (db, .alreadyApplied)
      else .ok (db, .payloadMismatch)
  | none =>
      match db.settlements.rows.find? fun settlement =>
          settlement.sideEffectId = disposition.effectId with
      | some settlement =>
          .ok (db, if settlement.dispositionId.getD [] = disposition.dispositionId then
            .alreadyApplied else .notApplicable)
      | none => settleForOperator db disposition settlementId

end ChainworksForge.Release
