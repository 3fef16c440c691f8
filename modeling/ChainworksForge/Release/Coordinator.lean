import ChainworksForge.Release.SideEffects

/-!
# Coordinators, watchdog and operator

Any number of parties work on the ledger.  A coordinator prepares an effect by two
reads and an insertion, takes its lease, marks the write, renews the lease and
settles; a watchdog reads the candidates and then visits them one by one; an operator
disposes of an effect in one transaction.  Between two steps of a party every other
party may take steps, so each step stands for itself and what a party remembers is
kept apart from the ledger.
-/

namespace ChainworksForge.Release

open ChainworksForge.Support

structure PrepareEffectIntent where
  runId : Uuid
  stageExecutionId : Uuid
  agentExecutionId : Option Uuid
  effectKind : EffectKind
  targetKey : Text
  idempotencyKey : Text
  idempotencyKeyVersion : ℤ
  requestFingerprint : Text
  requestFingerprintVersion : ℤ
  expectedEvidenceJson : Option Text
  evidenceRoot : Option Text
  deadlineAt : Option Text
deriving DecidableEq

structure DurableEffectCoordinator where
  instanceId : Text
  enabled : Bool
deriving DecidableEq

/-- What a coordinator knows of the effect that it executes. -/
structure ExecutorLease where
  effectId : Text
  attemptId : Text
  leaseAcquiredAt : Text
  leaseRenewedAt : Text
  ownerInstanceId : Text
deriving DecidableEq

/-- Why an intent is not prepared. -/
inductive PrepareDenied where
  | disabled
  | unresolvedEffect (effectId key : Text)
  | keyConsumed (effectId key : Text) (status : SideEffectStatus)
  | unresolvedTarget (targetKey : Text) (effectIds : List Text)
  | notInserted (error : Text)

section Prepare

variable (db : Store) (intent : PrepareEffectIntent)

/-- The first read of a preparation: the key of the intent is new. -/
def checkIdempotencyKey (coordinator : DurableEffectCoordinator) :
    Except PrepareDenied Unit := do
  ensure coordinator.enabled .disabled
  match findByIdempotencyKey db intent.idempotencyKey with
  | some existing =>
      if existing.status.isUnresolved then
        .error (.unresolvedEffect existing.id intent.idempotencyKey)
      else .error (.keyConsumed existing.id intent.idempotencyKey existing.status)
  | none => return

/-- The second read: no unresolved effect has the target. -/
def checkTargetKey : Except PrepareDenied Unit :=
  let sameTarget := (listUnresolvedByRunAndTargetKey db intent.runId
    intent.targetKey).filter fun effect => effect.idempotencyKey ≠ intent.idempotencyKey
  ensure sameTarget.isEmpty
    (.unresolvedTarget intent.targetKey (sameTarget.map SideEffect.id))

/-- The row of a prepared intent. -/
def PrepareEffectIntent.effect (later : Text → ℕ → Text) (effectId now : Text) :
    SideEffect where
  id := effectId
  runId := intent.runId
  stageExecutionId := intent.stageExecutionId
  agentExecutionId := intent.agentExecutionId
  effectKind := intent.effectKind
  targetKey := intent.targetKey
  idempotencyKey := intent.idempotencyKey
  idempotencyKeyVersion := intent.idempotencyKeyVersion
  requestFingerprint := intent.requestFingerprint
  requestFingerprintVersion := intent.requestFingerprintVersion
  status := .prepared
  ownerInstanceId := none
  leaseAcquiredAt := none
  leaseRenewedAt := none
  leaseExpiresAt := none
  deadlineAt := intent.deadlineAt.or (some (later now intent.effectKind.deadlineSeconds))
  externalWriteStartedAt := none
  externalWriteAttempted := false
  attemptBudgetRemaining := 3
  expectedEvidenceJson := intent.expectedEvidenceJson
  observedEvidenceSummaryJson := none
  evidenceRoot := intent.evidenceRoot
  lastErrorKind := none
  lastError := none
  settlementTxnId := none
  createdAt := now
  updatedAt := now

end Prepare

/-! ## Parties -/

/-- What a party remembers between two steps. -/
inductive Phase where
  | idle
  | keyChecked (coordinator : DurableEffectCoordinator) (intent : PrepareEffectIntent)
  | targetChecked (coordinator : DurableEffectCoordinator)
      (intent : PrepareEffectIntent)
  | prepared (coordinator : DurableEffectCoordinator) (effectId : Text)
      (effectKind : EffectKind)
  | leased (lease : ExecutorLease) (effectKind : EffectKind)
  | watching (now : Text) (candidates : List SideEffect)
deriving DecidableEq

structure System where
  ledger : Store
  phase : ℕ → Phase

inductive Event where
  | checkIdempotencyKey (party : ℕ) (coordinator : DurableEffectCoordinator)
      (intent : PrepareEffectIntent)
  | checkTargetKey (party : ℕ)
  | insertIntent (party : ℕ) (effectId now : Text)
  | executorStart (party : ℕ) (attemptId now : Text)
  | renewLease (party : ℕ) (now : Text)
  | markWriteStarted (party : ℕ) (now : Text)
  | settleSuccess (party : ℕ) (evidenceSummary : Option Text)
      (settlementTxnId settlementId now : Text)
  | releaseSuccess (party : ℕ) (evidenceSummary receiptArtifactId settlementTxnId
      settlementId now : Text)
  | settleFailure (party : ℕ) (errorKind error now : Text)
  | watchdogPass (party : ℕ) (now : Text)
  | watchdogNext (party : ℕ) (evidenceError : Option Text)
  | disposition (disposition : OperatorDisposition) (settlementId : Text)

/-- What is asked of the ledger to settle a leased effect. -/
def ExecutorLease.settleParams (lease : ExecutorLease) (evidenceSummary : Option Text)
    (settlementTxnId : Text) (receiptArtifactId : Option Text) (now : Text) :
    ExecutorSettleCasParams where
  effectId := lease.effectId
  ownerInstanceId := lease.ownerInstanceId
  settlementAttemptId := lease.attemptId
  observedLeaseRenewedAt := lease.leaseRenewedAt
  newStatus := .settled
  observedEvidenceSummaryJson := evidenceSummary
  settlementTxnId := settlementTxnId
  lastErrorKind := none
  lastError := none
  now := now
  settlementSource := "executor".toList
  receiptArtifactId := receiptArtifactId
  decisionJson := none
  decisionJsonHash := none
  dispositionId := none

/-- The errors that the watchdog leaves at an effect. -/
def watchdogError : SideEffectStatus → Text × Text
  | .prepared => ("prepared_deadline_expired".toList,
      "watchdog: prepared intent expired before executor ownership".toList)
  | .externallyObserved => ("external_write_unsettled_deadline_expired".toList,
      "watchdog: external write remained unsettled past deadline".toList)
  | _ => ("lease_or_deadline_expired".toList,
      "watchdog: lease or deadline expired".toList)

/-- What the watchdog does about one candidate, given what it found of the evidence of
a settled one. -/
def watchdogVisit (db : Store) (now : Text) (candidate : SideEffect)
    (evidenceError : Option Text) : Except Text (Store × Bool) :=
  if candidate.status = .settled then
    match evidenceError with
    | none => .ok (db, false)
    | some error => markSettledEvidenceFailed db candidate
        "evidence_integrity_failed".toList ("watchdog: ".toList ++ error) now
  else
    let (lastErrorKind, lastError) := watchdogError candidate.status
    reaperTransitionCas db candidate now lastErrorKind lastError

/-- The ledger after a transaction whose answer is not looked at; an error rolls it
back. -/
def commitResult {α : Type} (db : Store) : Except Text (Store × α) → Store
  | .ok (changed, _) => changed
  | .error _ => db

section Step

variable (later : Text → ℕ → Text) (s : System)

/-- A step of one party: the ledger and what the party remembers change. -/
def System.advance (party : ℕ) (ledger : Store) (next : Phase) : System where
  ledger := ledger
  phase := Function.update s.phase party next

/-- Take the lease of the effect that the party has prepared. -/
def startExecutor (party : ℕ) (coordinator : DurableEffectCoordinator) (effectId : Text)
    (effectKind : EffectKind) (attemptId now : Text) : System :=
  match executorStartCas s.ledger effectId coordinator.instanceId attemptId now
      (later now effectKind.leaseTtlSeconds)
      (some (later now effectKind.deadlineSeconds)) now with
  | .ok (ledger, true) => s.advance party ledger
      (.leased ⟨effectId, attemptId, now, now, coordinator.instanceId⟩ effectKind)
  | .ok (ledger, false) => s.advance party ledger .idle
  | .error _ => s.advance party s.ledger .idle

/-- Renew the lease that the party holds; without it the party gives up. -/
def renewHeldLease (party : ℕ) (lease : ExecutorLease) (effectKind : EffectKind)
    (now : Text) : System :=
  match leaseRenewCas s.ledger lease.effectId lease.ownerInstanceId
      (later now effectKind.leaseTtlSeconds) now with
  | .ok (ledger, true) => s.advance party ledger
      (.leased { lease with leaseRenewedAt := now } effectKind)
  | .ok (ledger, false) => s.advance party ledger .idle
  | .error _ => s.advance party s.ledger .idle

/-- Mark the write of the leased effect; a party that misses the mark gives up. -/
def markLeasedWrite (party : ℕ) (lease : ExecutorLease) (effectKind : EffectKind)
    (now : Text) : System :=
  match markExternalWriteStarted s.ledger lease.effectId lease.ownerInstanceId now with
  | .ok (ledger, true) => s.advance party ledger (.leased lease effectKind)
  | .ok (ledger, false) => s.advance party ledger .idle
  | .error _ => s.advance party s.ledger .idle

/-- The system after an event; an event that does not fit the phase of its party has
no effect. -/
def step : Event → System
  | .checkIdempotencyKey party coordinator intent =>
      match s.phase party, Release.checkIdempotencyKey s.ledger intent coordinator with
      | .idle, .ok _ => s.advance party s.ledger (.keyChecked coordinator intent)
      | _, _ => s
  | .checkTargetKey party =>
      match s.phase party with
      | .keyChecked coordinator intent =>
          match Release.checkTargetKey s.ledger intent with
          | .ok _ => s.advance party s.ledger (.targetChecked coordinator intent)
          | .error _ => s.advance party s.ledger .idle
      | _ => s
  | .insertIntent party effectId now =>
      match s.phase party with
      | .targetChecked coordinator intent =>
          match insertEffect s.ledger (intent.effect later effectId now) with
          | .ok ledger => s.advance party ledger
              (.prepared coordinator effectId intent.effectKind)
          | .error _ => s.advance party s.ledger .idle
      | _ => s
  | .executorStart party attemptId now =>
      match s.phase party with
      | .prepared coordinator effectId effectKind =>
          startExecutor later s party coordinator effectId effectKind attemptId now
      | _ => s
  | .renewLease party now =>
      match s.phase party with
      | .leased lease effectKind => renewHeldLease later s party lease effectKind now
      | _ => s
  | .markWriteStarted party now =>
      match s.phase party with
      | .leased lease effectKind => markLeasedWrite s party lease effectKind now
      | _ => s
  | .settleSuccess party evidenceSummary settlementTxnId settlementId now =>
      match s.phase party with
      | .leased lease _ => s.advance party
          (commitResult s.ledger (executorSettleCas s.ledger
            (lease.settleParams evidenceSummary settlementTxnId none now) settlementId))
          .idle
      | _ => s
  | .releaseSuccess party evidenceSummary receiptArtifactId settlementTxnId settlementId
      now =>
      match s.phase party with
      -- the release executor commits whatever the settlement answers
      | .leased lease _ => s.advance party
          (commitResult s.ledger (executorSettleCasTx s.ledger
            (lease.settleParams (some evidenceSummary) settlementTxnId
              (some receiptArtifactId) now) settlementId)) .idle
      | _ => s
  | .settleFailure party errorKind error now =>
      match s.phase party with
      | .leased lease _ => s.advance party
          (commitResult s.ledger (executorFailCasTx s.ledger lease.effectId
            lease.ownerInstanceId lease.attemptId lease.leaseRenewedAt errorKind error
            now)) .idle
      | _ => s
  | .watchdogPass party now =>
      match s.phase party with
      | .idle => s.advance party s.ledger
          (.watching now (listWatchdogRecoveryCandidates s.ledger now 100))
      | _ => s
  | .watchdogNext party evidenceError =>
      match s.phase party with
      | .watching _ [] => s.advance party s.ledger .idle
      | .watching now (candidate :: rest) => s.advance party
          (commitResult s.ledger (watchdogVisit s.ledger now candidate evidenceError))
          (.watching now rest)
      | _ => s
  | .disposition disposition settlementId =>
      { s with
        ledger := commitResult s.ledger
          (applyOperatorDispositionTx s.ledger disposition settlementId) }

/-- The effect whose write an event marks as started. -/
def markedEffect : Event → Option Text
  | .markWriteStarted party now =>
      match s.phase party with
      | .leased lease _ =>
          match markExternalWriteStarted s.ledger lease.effectId lease.ownerInstanceId
              now with
          | .ok (_, true) => some lease.effectId
          | _ => none
      | _ => none
  | _ => none

end Step

end ChainworksForge.Release
