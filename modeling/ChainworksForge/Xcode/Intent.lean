import ChainworksForge.Support.Checked
import ChainworksForge.Support.UtcTime
import ChainworksForge.Support.Uuid

/-!
# Attempts at an effect

An attempt at an effect on a project is recorded with the intent it was made for, and,
when it is settled, with the outcome and what proves it.  The record holds bounded texts
only; every part of it is validated when it is given and when it is read back.
-/

namespace ChainworksForge.Xcode

open ChainworksForge.Support

/-! ## Checks -/

inductive InputReasonCode where
  | invalidText
  | invalidUuid
  | invalidDigest
  | invalidProjectKey
  | bindingRequired
  | invalidSchema
  | invalidTimestamp
  | invalidRevision
  | invalidOutcome
  | invalidEvidenceReference
  | unsettledOperation
  | invalidLimit
deriving DecidableEq

structure InputError where
  field : Text
  code : InputReasonCode
deriving DecidableEq

/-- Refuse a field unless it meets a condition. -/
def require (condition : Bool) (field : String) (code : InputReasonCode) :
    Except InputError Unit :=
  ensure condition ⟨field.toList, code⟩

/-- The control characters. -/
def isControl (c : Char) : Bool :=
  c.toNat < 32 || (127 ≤ c.toNat && c.toNat < 160)

def validateText (field : String) (value : Text) (maxBytes : ℕ) : Except InputError Unit :=
  require (!value.isEmpty && value.trim = value && value.byteLength ≤ maxBytes &&
    !value.any isControl) field .invalidText

def isLowerHex (c : Char) : Bool :=
  ('0' ≤ c && c ≤ '9') || ('a' ≤ c && c ≤ 'f')

def validateDigest (field : String) (value : Text) : Except InputError Unit :=
  require (value.length = 64 && value.all isLowerHex) field .invalidDigest

/-- The identifiers whose digits are all the least or all the greatest are refused. -/
def validateUuid (field : String) (value : Uuid) : Except InputError Unit :=
  require (value.digits.any (· ≠ 0) && value.digits.any (· ≠ 15)) field .invalidUuid

def maxRevision : ℤ := 9223372036854775807

def validateRevision (revision : ℤ) : Except InputError Unit :=
  require (0 ≤ revision ∧ revision < maxRevision) "revision" .invalidRevision

/-- The first second of the epoch. -/
def epochSeconds : ℤ := 719163 * 86400

def validateTime (now : UtcTime) (previous : Option UtcTime) : Except InputError Unit :=
  require (epochSeconds ≤ now.seconds && !previous.any fun previous => now.time < previous.time)
    "timestamp" .invalidTimestamp

def isEvidenceChar (c : Char) : Bool :=
  ('0' ≤ c && c ≤ '9') || ('a' ≤ c && c ≤ 'z') || ('A' ≤ c && c ≤ 'Z') ||
    ['_', '-', '/', '.'].contains c

/-- Whether a part of a path is empty or leads nowhere else. -/
def isPlainPart (part : Text) : Bool :=
  !part.isEmpty && part ≠ ['.'] && part ≠ ['.', '.']

def validateEvidenceRef (field : String) (value : Text) : Except InputError Unit :=
  require (!value.isEmpty && value.length ≤ 256 && value.head? ≠ some '/' &&
    value.all isEvidenceChar && (value.splitOn '/').all isPlainPart)
    field .invalidEvidenceReference

/-! ## Intents -/

inductive AttemptState where
  | prepared
  | dispatched
  | succeeded
  | failed
  | unknown
  | reconciled
deriving DecidableEq

inductive EffectOrigin where
  | lifecycle
  | mcp
  | shim
deriving DecidableEq

inductive EffectClass where
  | mutate
  | execute
deriving DecidableEq

structure ProjectKey where
  version : ℕ
  uid : ℕ
  canonicalPath : Text
  device : Text
  inode : Text
deriving DecidableEq

/-- Whether a text is a decimal number of 64 bits without leading zeros. -/
def isDecimal (value : Text) : Bool :=
  !value.isEmpty && value.length ≤ 20 && value.all (fun c => '0' ≤ c && c ≤ '9') &&
    (value = ['0'] || value.head? ≠ some '0') &&
    Nat.ofDigitChars 10 value 0 < 2 ^ 64

def ProjectKey.validate (key : ProjectKey) : Except InputError Unit :=
  let path := key.canonicalPath
  require (key.version = 1 && path.byteLength ≤ 2048 && path.head? = some '/' &&
    path.getLast? ≠ some '/' && !path.any isControl &&
    (Text.splitOn '/' (path.drop 1)).all isPlainPart &&
    isDecimal key.device && isDecimal key.inode)
    "project_key" .invalidProjectKey

structure SchemaIdentity where
  contractId : Text
  version : ℕ
  manifestDigest : Text
  schemaDigest : Text
deriving DecidableEq

def SchemaIdentity.validate (schema : SchemaIdentity) : Except InputError Unit := do
  validateText "contract_id" schema.contractId 128
  require (schema.version ≠ 0) "schema_version" .invalidSchema
  validateDigest "manifest_digest" schema.manifestDigest
  validateDigest "schema_digest" schema.schemaDigest

structure NormalizedIntent where
  runId : Uuid
  ownerLineage : Text
  invocationId : Uuid
  projectKey : ProjectKey
  operationKey : Uuid
  operation : Text
  targetDigest : Text
  bindingDigest : Option Text
  requestDigest : Text
  origin : EffectOrigin
  effectClass : EffectClass
  resultSchema : SchemaIdentity
deriving DecidableEq

namespace NormalizedIntent

variable (intent : NormalizedIntent)

/-- Only opening a workspace does without a binding. -/
def validateBinding : Except InputError Unit :=
  match intent.bindingDigest with
  | some digest => validateDigest "binding_digest" digest
  | none =>
      require (intent.origin = .lifecycle && intent.effectClass = .mutate &&
        intent.operation = "workspace_open".toList) "binding_digest" .bindingRequired

def validate : Except InputError Unit := do
  validateUuid "run_id" intent.runId
  validateUuid "invocation_id" intent.invocationId
  validateUuid "operation_key" intent.operationKey
  validateText "owner_lineage" intent.ownerLineage 256
  validateText "operation" intent.operation 128
  intent.projectKey.validate
  validateDigest "target_digest" intent.targetDigest
  validateDigest "request_digest" intent.requestDigest
  intent.validateBinding
  intent.resultSchema.validate

/-- Whether another intent differs at most in its invocation. -/
def sameOperation (other : NormalizedIntent) : Bool :=
  intent = { other with invocationId := intent.invocationId }

end NormalizedIntent

/-! ## Outcomes -/

/-- A text from which credentials have been removed. -/
structure RedactedText where
  text : Text
deriving DecidableEq

/-- Redact a text; `strip` removes what looks like a credential. -/
def RedactedText.new (strip : Text → Text) (value : Text) : Except InputError RedactedText := do
  validateText "redacted_text" value 512
  validateText "redacted_text" (strip value) 512
  return ⟨strip value⟩

inductive EffectErrorCode where
  | cancelledBeforeDispatch
  | terminalFailure
  | outcomeUnknown
  | reconciledNotApplied
  | reconciledPartial
deriving DecidableEq

inductive HistoricalPayload where
  | result (summary : RedactedText)
  | error (code : EffectErrorCode) (message : RedactedText)
deriving DecidableEq

structure HistoricalResult where
  schemaVersion : ℕ
  schema : SchemaIdentity
  payload : HistoricalPayload
  resultDigest : Text
deriving DecidableEq

namespace HistoricalResult

variable (outcome : HistoricalResult)

def validate (schema : SchemaIdentity) : Except InputError Unit := do
  require (outcome.schemaVersion = 1 ∧ outcome.schema = schema) "outcome_schema" .invalidSchema
  outcome.schema.validate
  validateDigest "result_digest" outcome.resultDigest

/-- Whether the outcome is an error with a code. -/
def isError (expected : EffectErrorCode) : Bool :=
  match outcome.payload with
  | .error code _ => code = expected
  | .result _ => false

def isResult : Bool :=
  match outcome.payload with
  | .result _ => true
  | .error _ _ => false

def requireError (expected : EffectErrorCode) : Except InputError Unit :=
  require (outcome.isError expected) "outcome" .invalidOutcome

def requireResult : Except InputError Unit :=
  require outcome.isResult "outcome" .invalidOutcome

end HistoricalResult

inductive UncertaintyReason where
  | restart
  | transportLost
  | partialEffect
  | asyncInFlight
  | cancelledAfterDispatch
deriving DecidableEq

structure SettlementProof where
  evidenceRef : Text
  activeOperationCheckRef : Text
  noOperationInFlight : Bool
deriving DecidableEq

def SettlementProof.validate (proof : SettlementProof) : Except InputError Unit := do
  validateEvidenceRef "evidence_ref" proof.evidenceRef
  validateEvidenceRef "active_operation_check_ref" proof.activeOperationCheckRef
  require proof.noOperationInFlight "no_operation_in_flight" .unsettledOperation

inductive Completion where
  | succeeded (outcome : HistoricalResult) (proof : SettlementProof)
  | failed (outcome : HistoricalResult) (proof : SettlementProof)
  | unknown (reason : UncertaintyReason)

inductive ReconciliationDisposition where
  | applied
  | notApplied
  | partly
deriving DecidableEq

structure Reconciliation where
  operatorId : Text
  inspectedState : RedactedText
  proof : SettlementProof
  disposition : ReconciliationDisposition
  outcome : HistoricalResult
deriving DecidableEq

def Reconciliation.validate (reconciliation : Reconciliation) (schema : SchemaIdentity) :
    Except InputError Unit := do
  validateText "operator_id" reconciliation.operatorId 256
  reconciliation.proof.validate
  reconciliation.outcome.validate schema
  match reconciliation.disposition with
  | .applied => reconciliation.outcome.requireResult
  | .notApplied => reconciliation.outcome.requireError .reconciledNotApplied
  | .partly => reconciliation.outcome.requireError .reconciledPartial

/-! ## Attempts -/

structure StoredAttempt where
  sequence : ℕ
  attemptId : Uuid
  nonce : Uuid
  intent : NormalizedIntent
  state : AttemptState
  revision : ℤ
  createdAt : UtcTime
  updatedAt : UtcTime
  dispatchedAt : Option UtcTime
  completedAt : Option UtcTime
  outcome : Option HistoricalResult
  resultDigest : Option Text
  uncertaintyReason : Option UncertaintyReason
  settlementProof : Option SettlementProof
  reconciliation : Option Reconciliation
  reconciliationEvidenceRef : Option Text

structure AttemptRevision where
  attemptId : Uuid
  revision : ℤ

end ChainworksForge.Xcode
