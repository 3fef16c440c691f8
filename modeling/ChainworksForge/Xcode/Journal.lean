import ChainworksForge.Support.Table
import ChainworksForge.Xcode.Intent

/-!
# The journal of effects

The journal has a row for every attempt and, for every attempt whose effect may be under
way, a row that holds the project.  Each call reads and writes both tables in one
transaction: a call that fails leaves them as they were.
-/

namespace ChainworksForge.Xcode

open ChainworksForge.Support

/-! ## Tables -/

inductive JournalError where
  | invalidInput (error : InputError)
  | intentConflict
  | projectHeld
  | revisionConflict
  | invalidTransition
  | notFound
  | corruptRecord
  | storage (reason : Text)

structure ProjectHold where
  projectKey : ProjectKey
  attemptId : Uuid
  uid : ℕ
  canonicalPath : Text
  device : Text
  inode : Text
deriving DecidableEq

structure Journal where
  attempts : Table StoredAttempt.attemptId
  holds : List ProjectHold

def Journal.empty : Journal := ⟨Table.empty, []⟩

/-- What the journal takes from its surroundings: how credentials are removed from a text,
and which rows are within the size limits of their columns. -/
structure Surroundings where
  strip : Text → Text
  fits : StoredAttempt → Bool

/-- Report a refused field. -/
def input {α : Type} (x : Except InputError α) : Except JournalError α :=
  x.mapError .invalidInput

/-- Report a record that cannot be read. -/
def corrupt {α : Type} (x : Except InputError α) : Except JournalError α :=
  x.mapError fun _ => .corruptRecord

/-! ## Reading a row -/

section Reading

variable (strip : Text → Text)

def HistoricalPayload.reread : HistoricalPayload → Except InputError HistoricalPayload
  | .result summary => do return .result (← RedactedText.new strip summary.text)
  | .error code message => do return .error code (← RedactedText.new strip message.text)

def HistoricalResult.reread (outcome : HistoricalResult) :
    Except InputError HistoricalResult := do
  return { outcome with payload := ← outcome.payload.reread strip }

def Reconciliation.reread (reconciliation : Reconciliation) :
    Except InputError Reconciliation := do
  return { reconciliation with
    inspectedState := ← RedactedText.new strip reconciliation.inspectedState.text
    outcome := ← reconciliation.outcome.reread strip }

/-- Read a value that may be absent. -/
def rereadOption {α : Type} (reread : α → Except InputError α) :
    Option α → Except InputError (Option α)
  | none => return none
  | some value => do return some (← reread value)

/-- Check a value that may be absent. -/
def validateOption {α : Type} (validate : α → Except InputError Unit) :
    Option α → Except InputError Unit
  | none => return ()
  | some value => validate value

/-- The times of a row; they are read back if their years have four digits. -/
def StoredAttempt.times (row : StoredAttempt) : List UtcTime :=
  [row.createdAt, row.updatedAt] ++ row.dispatchedAt.toList ++ row.completedAt.toList

instance instDecidableFourDigitYear (t : UtcTime) : Decidable t.FourDigitYear :=
  inferInstanceAs (Decidable (0 ≤ t.date.year ∧ t.date.year ≤ 9999))

/-- Read a row. -/
def parse (row : StoredAttempt) : Except JournalError StoredAttempt := do
  ensure (row.times.all fun t => t.FourDigitYear) .corruptRecord
  let outcome ← corrupt (rereadOption (HistoricalResult.reread strip) row.outcome)
  let reconciliation ←
    corrupt (rereadOption (Reconciliation.reread strip) row.reconciliation)
  corrupt row.intent.validate
  corrupt (validateOption (fun outcome => outcome.validate row.intent.resultSchema) outcome)
  corrupt (validateOption SettlementProof.validate row.settlementProof)
  corrupt (validateOption (fun reconciliation =>
    reconciliation.validate row.intent.resultSchema) reconciliation)
  return { row with outcome, reconciliation }

end Reading

/-! ## What the tables accept -/

/-- The columns that a state requires and excludes. -/
def shapeCheck (row : StoredAttempt) : Bool :=
  match row.state with
  | .prepared => row.dispatchedAt.isNone && row.completedAt.isNone && row.outcome.isNone &&
      row.uncertaintyReason.isNone && row.settlementProof.isNone
  | .dispatched => row.dispatchedAt.isSome && row.completedAt.isNone && row.outcome.isNone &&
      row.uncertaintyReason.isNone && row.settlementProof.isNone
  | .unknown => row.dispatchedAt.isSome && row.completedAt.isNone && row.outcome.isNone &&
      row.uncertaintyReason.isSome && row.settlementProof.isNone
  | .succeeded => row.dispatchedAt.isSome && row.completedAt.isSome &&
      row.outcome.any HistoricalResult.isResult && row.uncertaintyReason.isNone &&
      row.settlementProof.isSome
  | .failed => row.completedAt.isSome && row.uncertaintyReason.isNone &&
      ((row.dispatchedAt.isNone && row.settlementProof.isNone &&
          row.outcome.any (·.isError .cancelledBeforeDispatch)) ||
        (row.dispatchedAt.isSome && row.settlementProof.isSome &&
          row.outcome.any (·.isError .terminalFailure)))
  | .reconciled => row.dispatchedAt.isSome && row.completedAt.isSome && row.outcome.isSome &&
      row.settlementProof.isSome && row.uncertaintyReason.isSome

/-- Whether the digest and the schema of an outcome are those of its row, and a
reconciliation is there exactly when the attempt is reconciled. -/
def referenceCheck (row : StoredAttempt) : Bool :=
  row.resultDigest = row.outcome.map HistoricalResult.resultDigest ∧
    row.outcome.all (fun outcome =>
      outcome.schemaVersion = 1 ∧ outcome.schema = row.intent.resultSchema) ∧
    row.reconciliation.isSome = (row.state = .reconciled : Bool) ∧
    row.reconciliationEvidenceRef.isSome = (row.state = .reconciled : Bool)

/-- Whether the table of attempts accepts a row. -/
def rowCheck (fits : StoredAttempt → Bool) (row : StoredAttempt) : Bool :=
  0 ≤ row.revision && shapeCheck row && referenceCheck row && fits row

/-- The transitions that the table of attempts lets through. -/
def transitionGuard : AttemptState → AttemptState → Bool
  | .prepared, .dispatched => true
  | .prepared, .failed => true
  | .dispatched, .succeeded => true
  | .dispatched, .failed => true
  | .dispatched, .unknown => true
  | .unknown, .reconciled => true
  | _, _ => false

/-- Whether the effect of an attempt may be under way. -/
def StoredAttempt.isUncertain (attempt : StoredAttempt) : Bool :=
  attempt.state = .dispatched ∨ attempt.state = .unknown

/-- The attempts of one owner on one project that are the same operation. -/
def StoredAttempt.operation (attempt : StoredAttempt) : Text × ProjectKey × Uuid :=
  (attempt.intent.ownerLineage, attempt.intent.projectKey, attempt.intent.operationKey)

/-- The hold of an attempt. -/
def StoredAttempt.hold (attempt : StoredAttempt) : ProjectHold where
  projectKey := attempt.intent.projectKey
  attemptId := attempt.attemptId
  uid := attempt.intent.projectKey.uid
  canonicalPath := attempt.intent.projectKey.canonicalPath
  device := attempt.intent.projectKey.device
  inode := attempt.intent.projectKey.inode

/-- Whether two holds take one place in the table. -/
def ProjectHold.clashes (a b : ProjectHold) : Bool :=
  a.projectKey = b.projectKey ∨ a.attemptId = b.attemptId ∨
    (a.uid = b.uid ∧ a.canonicalPath = b.canonicalPath) ∨
    (a.uid = b.uid ∧ a.device = b.device ∧ a.inode = b.inode)

/-! ## Statements -/

section Statements

variable (surroundings : Surroundings) (journal : Journal)

def findOperation (intent : NormalizedIntent) : Option StoredAttempt :=
  journal.attempts.rows.find? fun row =>
    row.operation = (intent.ownerLineage, intent.projectKey, intent.operationKey)

def insertAttempt (row : StoredAttempt) : Except JournalError Journal := do
  ensure (rowCheck surroundings.fits row) (.storage "check".toList)
  ensure (!journal.attempts.rows.any fun other => other.operation = row.operation)
    (.storage "unique".toList)
  let attempts ← required (journal.attempts.insert row) (.storage "unique".toList)
  return { journal with attempts }

def load (ownerLineage : Text) (attemptId : Uuid) : Except JournalError StoredAttempt := do
  input (validateText "owner_lineage" ownerLineage 256)
  input (validateUuid "attempt_id" attemptId)
  let row ← required ((journal.attempts.find attemptId).filter fun row =>
    row.intent.ownerLineage = ownerLineage) .notFound
  parse surroundings.strip row

def checkTransition (attempt : StoredAttempt) (revision : ℤ) (source : AttemptState)
    (now : UtcTime) : Except JournalError Unit := do
  input (validateRevision revision)
  ensure (attempt.revision = revision) .revisionConflict
  ensure (attempt.state = source) .invalidTransition
  input (validateTime now (some attempt.updatedAt))

/-- A project is held if a hold has its path or its inode. -/
def projectIsHeld (project : ProjectKey) : Bool :=
  journal.holds.any fun hold => hold.uid = project.uid ∧
    (hold.canonicalPath = project.canonicalPath ∨ hold.inode = project.inode)

def ensureUnheld (project : ProjectKey) : Except JournalError Unit :=
  ensure (!projectIsHeld journal project) .projectHeld

def isHoldOf (attempt : StoredAttempt) (hold : ProjectHold) : Bool :=
  hold.projectKey = attempt.intent.projectKey ∧ hold.attemptId = attempt.attemptId

def requireHold (attempt : StoredAttempt) : Except JournalError Unit :=
  ensure (journal.holds.any (isHoldOf attempt)) .corruptRecord

def insertHold (hold : ProjectHold) : Except JournalError Journal := do
  ensure (journal.attempts.rows.any fun row => row.attemptId = hold.attemptId ∧
    row.intent.projectKey = hold.projectKey ∧ row.isUncertain)
    (.storage "xcode_effect_hold_requires_dispatch".toList)
  ensure (!journal.holds.any hold.clashes) (.storage "unique".toList)
  return { journal with holds := journal.holds ++ [hold] }

def releaseHold (attempt : StoredAttempt) : Except JournalError Journal := do
  ensure (!journal.attempts.rows.any fun row =>
    row.isUncertain ∧ (journal.holds.filter (isHoldOf attempt)).any (·.attemptId = row.attemptId))
    (.storage "xcode_effect_hold_unsettled".toList)
  ensure ((journal.holds.filter (isHoldOf attempt)).length = 1) .corruptRecord
  return { journal with holds := journal.holds.filter fun hold => !isHoldOf attempt hold }

/-- A row after it has been written. -/
def StoredAttempt.written (row attempt : StoredAttempt) (now : UtcTime) : StoredAttempt :=
  { row with
    state := attempt.state
    revision := row.revision + 1
    updatedAt := now
    dispatchedAt := attempt.dispatchedAt
    completedAt := attempt.completedAt
    outcome := attempt.outcome
    resultDigest := attempt.resultDigest
    uncertaintyReason := attempt.uncertaintyReason
    settlementProof := attempt.settlementProof
    reconciliation := attempt.reconciliation
    reconciliationEvidenceRef := attempt.reconciliationEvidenceRef }

/-- Write an attempt if its row has the expected revision. -/
def persist (attempt : StoredAttempt) (revision : ℤ) (now : UtcTime) :
    Except JournalError (Journal × StoredAttempt) := do
  let row ← required ((journal.attempts.find attempt.attemptId).filter fun row =>
    row.revision = revision) .revisionConflict
  ensure (transitionGuard row.state attempt.state)
    (.storage "xcode_effect_invalid_transition".toList)
  ensure (rowCheck surroundings.fits (row.written attempt now)) (.storage "check".toList)
  return ({ journal with
      attempts := journal.attempts.update (fun row => row.attemptId = attempt.attemptId)
        (fun row => row.written attempt now) },
    { attempt with revision := revision + 1, updatedAt := now })

end Statements

/-! ## Calls -/

inductive DispatchDecision where
  | dispatch (attempt : StoredAttempt)
  | existing (attempt : StoredAttempt)

inductive Reply where
  | attempt (attempt : StoredAttempt)
  | decision (decision : DispatchDecision)
  | recovered (attempts : List StoredAttempt)

section Calls

variable (surroundings : Surroundings) (journal : Journal)

/-- The row of a new attempt. -/
def preparedAttempt (intent : NormalizedIntent) (id : Uuid) (now : UtcTime) :
    StoredAttempt where
  sequence := journal.attempts.rows.length + 1
  attemptId := id
  nonce := id
  intent := intent
  state := .prepared
  revision := 0
  createdAt := now
  updatedAt := now
  dispatchedAt := none
  completedAt := none
  outcome := none
  resultDigest := none
  uncertaintyReason := none
  settlementProof := none
  reconciliation := none
  reconciliationEvidenceRef := none

def prepare (intent : NormalizedIntent) (id : Uuid) (now : UtcTime) :
    Except JournalError (Journal × Reply) := do
  input intent.validate
  input (validateTime now none)
  match findOperation journal intent with
  | some row =>
      let existing ← parse surroundings.strip row
      ensure (existing.intent.sameOperation intent) .intentConflict
      return (journal, .attempt existing)
  | none =>
      ensureUnheld journal intent.projectKey
      let row := preparedAttempt journal intent id now
      let inserted ← insertAttempt surroundings journal row
      let attempt ← parse surroundings.strip row
      return (inserted, .attempt attempt)

def dispatch (ownerLineage : Text) (nonce : Uuid) (requestDigest : Text)
    (expectedRevision : ℤ) (now : UtcTime) : Except JournalError (Journal × Reply) := do
  input (validateDigest "request_digest" requestDigest)
  input (validateRevision expectedRevision)
  let attempt ← load surroundings journal ownerLineage nonce
  ensure (attempt.intent.requestDigest = requestDigest) .intentConflict
  if attempt.state ≠ .prepared then return (journal, .decision (.existing attempt))
  else
    checkTransition attempt expectedRevision .prepared now
    ensureUnheld journal attempt.intent.projectKey
    let (written, dispatched) ← persist surroundings journal
      { attempt with state := .dispatched, dispatchedAt := some now } expectedRevision now
    let held ← insertHold written attempt.hold
    return (held, .decision (.dispatch dispatched))

/-- The attempt with the outcome that a completion gives it. -/
def completed (attempt : StoredAttempt) (completion : Completion) (now : UtcTime) :
    Except JournalError StoredAttempt :=
  match completion with
  | .succeeded outcome proof => do
      input (outcome.validate attempt.intent.resultSchema)
      input proof.validate
      input outcome.requireResult
      return { attempt with
        state := .succeeded
        completedAt := some now
        outcome := some outcome
        resultDigest := some outcome.resultDigest
        settlementProof := some proof }
  | .failed outcome proof => do
      input (outcome.validate attempt.intent.resultSchema)
      input proof.validate
      input (outcome.requireError .terminalFailure)
      return { attempt with
        state := .failed
        completedAt := some now
        outcome := some outcome
        resultDigest := some outcome.resultDigest
        settlementProof := some proof }
  | .unknown reason =>
      .ok { attempt with state := .unknown, uncertaintyReason := some reason }

def complete (ownerLineage : Text) (attemptId : Uuid) (expectedRevision : ℤ)
    (completion : Completion) (now : UtcTime) : Except JournalError (Journal × Reply) := do
  let attempt ← load surroundings journal ownerLineage attemptId
  checkTransition attempt expectedRevision .dispatched now
  requireHold journal attempt
  let settled ← completed attempt completion now
  let (written, attempt) ← persist surroundings journal settled expectedRevision now
  if attempt.state ≠ .unknown then
    let released ← releaseHold written attempt
    return (released, .attempt attempt)
  else return (written, .attempt attempt)

def cancel (ownerLineage : Text) (attemptId : Uuid) (expectedRevision : ℤ)
    (outcome : HistoricalResult) (now : UtcTime) : Except JournalError (Journal × Reply) := do
  let attempt ← load surroundings journal ownerLineage attemptId
  checkTransition attempt expectedRevision .prepared now
  input (outcome.validate attempt.intent.resultSchema)
  input (outcome.requireError .cancelledBeforeDispatch)
  let (written, attempt) ← persist surroundings journal
    { attempt with
      state := .failed
      completedAt := some now
      outcome := some outcome
      resultDigest := some outcome.resultDigest } expectedRevision now
  return (written, .attempt attempt)

/-- Mark one dispatched attempt as unknown after a restart. -/
def recoverOne (now : UtcTime) (journal : Journal) (expected : AttemptRevision) :
    Except JournalError (Journal × StoredAttempt) := do
  input (validateUuid "attempt_id" expected.attemptId)
  let row ← required (journal.attempts.find expected.attemptId) .notFound
  let attempt ← parse surroundings.strip row
  checkTransition attempt expected.revision .dispatched now
  requireHold journal attempt
  persist surroundings journal
    { attempt with state := .unknown, uncertaintyReason := some .restart }
    expected.revision now

/-- Mark the attempts of a batch, one after the other. -/
def recoverAll (now : UtcTime) :
    Journal → List AttemptRevision → Except JournalError (Journal × List StoredAttempt)
  | journal, [] => return (journal, [])
  | journal, expected :: rest => do
      let (marked, attempt) ← recoverOne surroundings now journal expected
      let (journal, attempts) ← recoverAll now marked rest
      return (journal, attempt :: attempts)

def recoverDispatched (expected : List AttemptRevision) (now : UtcTime) :
    Except JournalError (Journal × Reply) := do
  input (require (!expected.isEmpty && expected.length ≤ 100) "recovery_batch" .invalidLimit)
  let (recovered, attempts) ← recoverAll surroundings now journal expected
  return (recovered, .recovered attempts)

def reconcile (ownerLineage : Text) (attemptId : Uuid) (expectedRevision : ℤ)
    (reconciliation : Reconciliation) (now : UtcTime) :
    Except JournalError (Journal × Reply) := do
  let attempt ← load surroundings journal ownerLineage attemptId
  checkTransition attempt expectedRevision .unknown now
  input (reconciliation.validate attempt.intent.resultSchema)
  requireHold journal attempt
  let (written, attempt) ← persist surroundings journal
    { attempt with
      state := .reconciled
      completedAt := some now
      outcome := some reconciliation.outcome
      resultDigest := some reconciliation.outcome.resultDigest
      settlementProof := some reconciliation.proof
      reconciliation := some reconciliation
      reconciliationEvidenceRef := some reconciliation.proof.evidenceRef } expectedRevision now
  let released ← releaseHold written attempt
  return (released, .attempt attempt)

/-- A call; a new attempt brings the identifier that is drawn for it. -/
inductive Call where
  | prepare (intent : NormalizedIntent) (id : Uuid) (now : UtcTime)
  | dispatch (ownerLineage : Text) (nonce : Uuid) (requestDigest : Text)
      (expectedRevision : ℤ) (now : UtcTime)
  | complete (ownerLineage : Text) (attemptId : Uuid) (expectedRevision : ℤ)
      (completion : Completion) (now : UtcTime)
  | cancel (ownerLineage : Text) (attemptId : Uuid) (expectedRevision : ℤ)
      (outcome : HistoricalResult) (now : UtcTime)
  | recoverDispatched (expected : List AttemptRevision) (now : UtcTime)
  | reconcile (ownerLineage : Text) (attemptId : Uuid) (expectedRevision : ℤ)
      (reconciliation : Reconciliation) (now : UtcTime)

/-- The transaction of a call. -/
def transaction : Call → Except JournalError (Journal × Reply)
  | .prepare intent id now => prepare surroundings journal intent id now
  | .dispatch owner nonce digest revision now =>
      dispatch surroundings journal owner nonce digest revision now
  | .complete owner id revision completion now =>
      complete surroundings journal owner id revision completion now
  | .cancel owner id revision outcome now =>
      cancel surroundings journal owner id revision outcome now
  | .recoverDispatched expected now => recoverDispatched surroundings journal expected now
  | .reconcile owner id revision reconciliation now =>
      reconcile surroundings journal owner id revision reconciliation now

/-- The journal after a call, and its reply; a transaction that fails is rolled back. -/
def perform (call : Call) : Journal × Except JournalError Reply :=
  match transaction surroundings journal call with
  | .ok (journal, reply) => (journal, .ok reply)
  | .error error => (journal, .error error)

end Calls

end ChainworksForge.Xcode
