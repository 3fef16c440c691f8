import ChainworksForge.Support.Checked
import ChainworksForge.Support.Encoding
import ChainworksForge.Support.Ranking
import ChainworksForge.Support.Runs

/-!
# The audit log

Decisions at the boundary are appended to a log.  A row holds the hash of its columns
and of the row before it; a checkpoint holds the hash of a window of up to a thousand
row hashes.  Rows that a checkpoint covers are deleted when they are old enough.

Rows are numbered as the database numbers the rows of a table without a numbering of
its own: one above the highest number in the table.  The hash is a parameter of the
model.
-/

namespace ChainworksForge.Audit

open ChainworksForge.Support

/-- The columns of an entry that are stored as they are given. -/
structure AuditColumns where
  id : Text
  requestId : Text
  timestampMs : ℤ
  eventType : Text
  principalId : Option Text
  principalClass : Option Text
  callerClass : Option Text
  tokenId : Option Text
  transport : Text
  actionAttempted : Text
  decision : Text
  denialReasonCode : Option Text
  rowId : Option Text
  envGateState : Option Text
  sourceIpHashOrLocalProcessId : Option Text
  boundaryPolicyMode : Text
  fixtureVersion : Text
  payload : Text
  createdAtMs : ℤ
deriving DecidableEq

structure AuditEntry extends AuditColumns where
  originalPayloadBytes : Option Text
  diagnosticTruncated : Bool
  checkpointId : Option Text
deriving DecidableEq

structure AuditLogRow extends AuditColumns where
  rowid : ℤ
  payloadSchemaVersion : ℤ
  payloadSha256 : Text
  diagnosticTruncated : ℤ
  prevHash : Option Text
  rowHash : Text
  checkpointId : Option Text
deriving DecidableEq

structure AuditLogCheckpoint where
  checkpointId : Text
  checkpointSeq : ℤ
  coveredStartId : Text
  coveredEndId : Text
  coveredRowCount : ℤ
  previousCheckpointHash : Option Text
  checkpointHash : Text
  createdAtMs : ℤ
deriving DecidableEq

structure AuditLog where
  rows : List AuditLogRow
  checkpoints : List AuditLogCheckpoint
deriving DecidableEq

/-! ## Hashes -/

/-- The character between two fields of a canonical form. -/
def unitSeparator : Char := Char.ofNat 0x1f

/-- Fields in a row, with the separator between any two. -/
def joinFields (fields : List Text) : Text := List.intercalate [unitSeparator] fields

/-- The fields that the hash of a row is taken over; an absent column counts as an
empty one. -/
def AuditColumns.canonicalFields (columns : AuditColumns)
    (payloadSha256 diagnosticTruncated prevHash : Text) : List Text :=
  [columns.id, columns.requestId, intText columns.timestampMs, columns.eventType,
    columns.principalId.getD [], columns.principalClass.getD [],
    columns.callerClass.getD [], columns.tokenId.getD [], columns.transport,
    columns.actionAttempted, columns.decision, columns.denialReasonCode.getD [],
    columns.rowId.getD [], columns.envGateState.getD [],
    columns.sourceIpHashOrLocalProcessId.getD [], columns.boundaryPolicyMode,
    columns.fixtureVersion, intText 1, columns.payload, payloadSha256,
    diagnosticTruncated, intText columns.createdAtMs, prevHash]

section Hashes

variable (sha256 : Text → Text)

def computeRowHash (entry : AuditEntry) (payloadSha256 prevHash : Text) : Text :=
  sha256 (joinFields (entry.canonicalFields payloadSha256
    (intText (if entry.diagnosticTruncated then 1 else 0)) prevHash))

/-- The hash of a stored row.  The hash of a payload that was not truncated is computed
again. -/
def computeRowHashForVerification (row : AuditLogRow) : Text :=
  sha256 (joinFields (row.canonicalFields
    (if row.diagnosticTruncated ≠ 0 then row.payloadSha256 else sha256 row.payload)
    (intText row.diagnosticTruncated) (row.prevHash.getD [])))

/-- The hash of a checkpoint: the one before it, the hashes of its rows, and its own
data. -/
def computeCheckpointHash (previous : Option Text) (rowHashes : List Text)
    (checkpointId : Text) (checkpointSeq : ℤ) (coveredStartId coveredEndId : Text)
    (coveredRowCount createdAtMs : ℤ) : Text :=
  sha256 (previous.getD [] ++ rowHashes.flatten ++
    joinFields [checkpointId, intText checkpointSeq, coveredStartId, coveredEndId,
      intText coveredRowCount, intText createdAtMs])

end Hashes

/-! ## Queries -/

section Queries

variable (db : AuditLog)

def AuditLog.byRowid : List AuditLogRow := sortByRank AuditLogRow.rowid db.rows

def AuditLog.latestCheckpoint : Option AuditLogCheckpoint :=
  (sortByRank AuditLogCheckpoint.checkpointSeq db.checkpoints).getLast?

def AuditLog.rowidOf (id : Text) : Option ℤ :=
  (db.rows.find? fun row => row.id = id).map AuditLogRow.rowid

def fetchPrevHash : Option Text := db.byRowid.getLast?.map AuditLogRow.rowHash

/-- The number of a new row. -/
def AuditLog.nextRowid : ℤ := (db.byRowid.getLast?.map AuditLogRow.rowid).getD 0 + 1

end Queries

/-! ## Appending -/

def maxPayloadBytes : ℕ := 16384

def uniqueViolation : Text := "UNIQUE constraint failed".toList

def checkViolation : Text := "CHECK constraint failed".toList

/-- The fields that must not contain the separator, in the order of the checks. -/
def AuditEntry.checkedFields (entry : AuditEntry) : List (String × Option Text) :=
  [("id", some entry.id), ("request_id", some entry.requestId),
    ("event_type", some entry.eventType), ("transport", some entry.transport),
    ("action_attempted", some entry.actionAttempted), ("decision", some entry.decision),
    ("boundary_policy_mode", some entry.boundaryPolicyMode),
    ("fixture_version", some entry.fixtureVersion), ("payload", some entry.payload),
    ("principal_id", entry.principalId), ("principal_class", entry.principalClass),
    ("caller_class", entry.callerClass), ("token_id", entry.tokenId),
    ("denial_reason_code", entry.denialReasonCode), ("row_id", entry.rowId),
    ("env_gate_state", entry.envGateState),
    ("source_ip_hash_or_local_process_id", entry.sourceIpHashOrLocalProcessId)]

def assertNoDelimiter (field : String × Option Text) : Except Text Unit :=
  ensure (decide (unitSeparator ∉ field.2.getD []))
    ("audit_log field '".toList ++ field.1.toList ++
      "' contains illegal ASCII Unit Separator (0x1F) byte; ".toList ++
      "field rejected before hash-chain computation".toList)

def callerClasses : List String :=
  ["ui_operator", "agent_operator", "automation", "observer", "developer_break_glass"]

def transports : List String :=
  ["graphql_query", "graphql_subscription", "graphql_mutation", "mcp_initialize",
    "mcp_tools_list", "mcp_tools_call", "debug_endpoint"]

def decisions : List String := ["allow", "deny", "redact", "drop_resource"]

def denialReasonCodes : List String :=
  ["UNAUTHENTICATED", "AMBIGUOUS_CALLER", "CAPABILITY_OUT_OF_SCOPE",
    "NON_APPROVAL_MUTATION", "APPROVAL_NOT_ACTIONABLE", "OBSERVER_SCOPE",
    "BREAK_GLASS_DISABLED", "MATRIX_NO_ROW", "E_AUDIT_UNAVAILABLE",
    "E_FIXTURE_DIGEST_MISMATCH", "SQLITE_CONTENTION_RETRY_EXHAUSTED",
    "IDEMPOTENCY_CONFLICT"]

def boundaryPolicyModes : List String :=
  ["shadow", "enforce", "read_only_safe_mode", "legacy_compat"]

/-- The constraints of the table on one row. -/
def AuditLogRow.passesChecks (row : AuditLogRow) : Bool :=
  let within (bound : ℕ) (text : Text) : Bool := text.length ≤ bound
  let filled (bound : ℕ) (text : Text) : Bool := 0 < text.length ∧ text.length ≤ bound
  let oneOf (texts : List String) (text : Text) : Bool :=
    texts.any fun name => text = name.toList
  filled 256 row.id && filled 256 row.requestId && filled 128 row.eventType &&
    row.principalId.all (within 256) && row.principalClass.all (within 64) &&
    row.callerClass.all (oneOf callerClasses) && row.tokenId.all (within 256) &&
    oneOf transports row.transport && filled 512 row.actionAttempted &&
    oneOf decisions row.decision && row.denialReasonCode.all (oneOf denialReasonCodes) &&
    row.rowId.all (within 256) && row.envGateState.all (within 64) &&
    row.sourceIpHashOrLocalProcessId.all (within 256) &&
    oneOf boundaryPolicyModes row.boundaryPolicyMode && filled 128 row.fixtureVersion &&
    decide (1 ≤ row.payloadSchemaVersion) && decide (0 < Text.byteLength row.payload) &&
    decide (Text.byteLength row.payload ≤ maxPayloadBytes) &&
    decide (row.payloadSha256.length = 64) &&
    decide (row.diagnosticTruncated = 0 ∨ row.diagnosticTruncated = 1) &&
    row.prevHash.all (fun hash => hash.length = 64) && decide (row.rowHash.length = 64) &&
    row.checkpointId.all (within 256)

def insertRow (db : AuditLog) (row : AuditLogRow) : Except Text AuditLog := do
  ensure row.passesChecks checkViolation
  ensure (db.rows.all fun other => other.id ≠ row.id ∧ other.rowHash ≠ row.rowHash)
    uniqueViolation
  return { db with rows := db.rows ++ [row] }

section Append

variable (sha256 : Text → Text) (db : AuditLog)

/-- The hash of a payload; of a truncated one, of what it was before if that is
given. -/
def AuditEntry.computedPayloadSha256 (entry : AuditEntry) : Text :=
  if entry.diagnosticTruncated then sha256 (entry.originalPayloadBytes.getD entry.payload)
  else sha256 entry.payload

/-- The row of an entry behind the rows of a log. -/
def AuditEntry.row (entry : AuditEntry) : AuditLogRow where
  toAuditColumns := entry.toAuditColumns
  rowid := db.nextRowid
  payloadSchemaVersion := 1
  payloadSha256 := entry.computedPayloadSha256 sha256
  diagnosticTruncated := if entry.diagnosticTruncated then 1 else 0
  prevHash := fetchPrevHash db
  rowHash := computeRowHash sha256 entry (entry.computedPayloadSha256 sha256)
    ((fetchPrevHash db).getD [])
  checkpointId := entry.checkpointId

def appendTx (entry : AuditEntry) : Except Text AuditLog := do
  ensure (Text.byteLength entry.payload ≤ maxPayloadBytes)
    ("audit_log payload exceeds ".toList ++ intText maxPayloadBytes ++
      " byte limit (".toList ++ intText (Text.byteLength entry.payload) ++
      " bytes supplied); ".toList ++
      "caller must truncate with diagnostic_truncated=1 before calling append_tx".toList)
  entry.checkedFields.forM assertNoDelimiter
  insertRow db (entry.row sha256 db)

end Append

/-! ## Checkpoints -/

def AuditLogCheckpoint.passesChecks (checkpoint : AuditLogCheckpoint) : Bool :=
  let filled (text : Text) : Bool := 0 < text.length ∧ text.length ≤ 256
  filled checkpoint.checkpointId && filled checkpoint.coveredStartId &&
    filled checkpoint.coveredEndId && decide (0 < checkpoint.coveredRowCount) &&
    checkpoint.previousCheckpointHash.all (fun hash => hash.length = 64) &&
    decide (checkpoint.checkpointHash.length = 64)

def insertCheckpoint (db : AuditLog) (checkpoint : AuditLogCheckpoint) :
    Except Text AuditLog := do
  ensure checkpoint.passesChecks checkViolation
  ensure (db.checkpoints.all fun other => other.checkpointId ≠ checkpoint.checkpointId ∧
    other.checkpointSeq ≠ checkpoint.checkpointSeq) uniqueViolation
  return { db with checkpoints := db.checkpoints ++ [checkpoint] }

section Checkpoints

variable (sha256 : Text → Text) (db : AuditLog)

/-- The number of the last row of the latest checkpoint; zero without a checkpoint, and
also if that row is no longer in the log. -/
def lastCoveredRowid : ℤ :=
  match db.latestCheckpoint with
  | none => 0
  | some checkpoint => (db.rowidOf checkpoint.coveredEndId).getD 0

/-- The rows behind the last covered one. -/
def uncheckedRows : List AuditLogRow :=
  db.byRowid.filter fun row => lastCoveredRowid db < row.rowid

/-- The rows that the next checkpoint covers. -/
def checkpointWindow : List AuditLogRow := (uncheckedRows db).take 1000

/-- The checkpoint of a window. -/
def checkpointOf (first last : AuditLogRow) (window : List AuditLogRow)
    (checkpointId : Text) (nowMs : ℤ) : AuditLogCheckpoint :=
  let previousHash := db.latestCheckpoint.map AuditLogCheckpoint.checkpointHash
  let nextSeq := (db.latestCheckpoint.map AuditLogCheckpoint.checkpointSeq).getD 0 + 1
  { checkpointId := checkpointId
    checkpointSeq := nextSeq
    coveredStartId := first.id
    coveredEndId := last.id
    coveredRowCount := window.length
    previousCheckpointHash := previousHash
    checkpointHash := computeCheckpointHash sha256 previousHash
      (window.map AuditLogRow.rowHash) checkpointId nextSeq first.id last.id
      window.length nowMs
    createdAtMs := nowMs }

/-- Stamp the rows of a window with the checkpoint that covers them. -/
def stampWindow (checkpointId : Text) (after last : ℤ) : AuditLog :=
  { db with
    rows := db.rows.map fun row =>
      if after < row.rowid ∧ row.rowid ≤ last then
        { row with checkpointId := some checkpointId }
      else row }

def writeCheckpointInner (minUnchecked : ℕ) (checkpointId : Text) (nowMs : ℤ) :
    Except Text (AuditLog × Bool) :=
  if (uncheckedRows db).length < minUnchecked then .ok (db, false)
  else
    match (checkpointWindow db).head?, (checkpointWindow db).getLast? with
    | some first, some last => do
        let written ← insertCheckpoint db
          (checkpointOf sha256 db first last (checkpointWindow db) checkpointId nowMs)
        return (stampWindow written checkpointId (lastCoveredRowid db) last.rowid, true)
    | _, _ => .ok (db, false)

def writeCheckpointIfNonEmpty (checkpointId : Text) (nowMs : ℤ) :
    Except Text (AuditLog × Bool) :=
  writeCheckpointInner sha256 db 1 checkpointId nowMs

def writeCheckpointIfNeeded (checkpointId : Text) (nowMs : ℤ) :
    Except Text (AuditLog × Bool) :=
  writeCheckpointInner sha256 db 1000 checkpointId nowMs

/-! ## Verification -/

inductive AuditIntegrityState where
  | noCheckpoints
  | verified
  | degraded
  | tamperSuspected
deriving DecidableEq

/-- The rows between the first and the last row of a checkpoint, both found by their
identifiers. -/
def coveredWindow (checkpoint : AuditLogCheckpoint) : List AuditLogRow :=
  match db.rowidOf checkpoint.coveredStartId, db.rowidOf checkpoint.coveredEndId with
  | some first, some last =>
      db.byRowid.filter fun row => first ≤ row.rowid ∧ row.rowid ≤ last
  | _, _ => []

def verifyLatestCheckpoint : AuditIntegrityState :=
  match db.latestCheckpoint with
  | none => .noCheckpoints
  | some checkpoint =>
      let window := coveredWindow db checkpoint
      if window.isEmpty then .degraded
      else if window.any fun row =>
          computeRowHashForVerification sha256 row ≠ row.rowHash then .tamperSuspected
      else if computeCheckpointHash sha256 checkpoint.previousCheckpointHash
          (window.map AuditLogRow.rowHash) checkpoint.checkpointId
          checkpoint.checkpointSeq checkpoint.coveredStartId checkpoint.coveredEndId
          checkpoint.coveredRowCount checkpoint.createdAtMs = checkpoint.checkpointHash
      then .verified
      else .tamperSuspected

end Checkpoints

/-! ## Retention -/

/-- Ninety days in milliseconds. -/
def retentionMinMs : ℤ := 90 * 24 * 60 * 60 * 1000

/-- A row that retention may delete: it is old and has a checkpoint. -/
def AuditLogRow.isExpired (nowMs : ℤ) (row : AuditLogRow) : Bool :=
  row.createdAtMs < nowMs - retentionMinMs ∧ row.checkpointId.isSome

section Retention

variable (sha256 : Text → Text) (db : AuditLog)

def deleteExpired (nowMs : ℤ) : AuditLog :=
  { db with rows := db.rows.filter fun row => !row.isExpired nowMs }

/-- How much of the budget for payloads is used, in percent. -/
def payloadBudgetUsedPercent : ℕ :=
  let budget := db.rows.length * maxPayloadBytes
  let used := (db.rows.map fun row => row.payload.length).sum
  if 0 < budget then min (used * 100 / budget) 100 else 0

def halfOpenProbeSuccessCount : ℕ :=
  min 3 (db.rows.countP fun row =>
    row.eventType = "audit_budget_half_open_probe".toList ∧
      row.decision = "allow".toList)

/-- The probes that are missing; a probe is appended only while the budget is
healthy. -/
def missingProbes : ℕ :=
  if payloadBudgetUsedPercent db < 80 then 3 - halfOpenProbeSuccessCount db else 0

/-- The probe of an index, with the identifier and the moment of its append. -/
def halfOpenProbe (idx : ℕ) (uuid : Text) (nowMs : ℤ) : AuditEntry where
  id := "audit-budget-half-open-".toList ++ uuid
  requestId := "audit-budget-half-open-probe-".toList ++ intText idx
  timestampMs := nowMs
  eventType := "audit_budget_half_open_probe".toList
  principalId := none
  principalClass := none
  callerClass := none
  tokenId := none
  transport := "mcp_tools_call".toList
  actionAttempted := "half_open_probe".toList
  decision := "allow".toList
  denialReasonCode := none
  rowId := some "p081.audit_budget.recovery.half_open_probe".toList
  envGateState := none
  sourceIpHashOrLocalProcessId := none
  boundaryPolicyMode := "read_only_safe_mode".toList
  fixtureVersion := "p081-boundary-matrix-v1".toList
  payload := "\x7b\"probe_index\":".toList ++ intText (idx + 1) ++
    ",\"schema_version\":\"audit_budget_half_open_probe_v1\",".toList ++
    "\"target_probe_count\":3\x7d".toList
  createdAtMs := nowMs
  originalPayloadBytes := none
  diagnosticTruncated := false
  checkpointId := none

/-- Append entries until one is refused; each append is a transaction of its own. -/
def appendUntilError (db : AuditLog) : List AuditEntry → AuditLog
  | [] => db
  | entry :: rest =>
      match appendTx sha256 db entry with
      | .ok appended => appendUntilError appended rest
      | .error _ => db

/-- Delete the expired rows and append the missing probes; `probe` gives the
identifier and the moment of each. -/
def deleteOldRows (nowMs : ℤ) (probe : ℕ → Text × ℤ) : AuditLog :=
  let kept := deleteExpired db nowMs
  appendUntilError sha256 kept ((List.range (missingProbes kept)).map fun idx =>
    halfOpenProbe idx (probe idx).1 (probe idx).2)

/-! ## Histories -/

inductive AuditAction where
  | append (entry : AuditEntry)
  | writeCheckpointIfNeeded (checkpointId : Text) (nowMs : ℤ)
  | writeCheckpointIfNonEmpty (checkpointId : Text) (nowMs : ℤ)
  | deleteOldRows (nowMs : ℤ) (probe : ℕ → Text × ℤ)

/-- The log after a transaction; an error rolls it back. -/
def commitResult : Except Text (AuditLog × Bool) → AuditLog
  | .ok (changed, _) => changed
  | .error _ => db

def perform : AuditAction → AuditLog
  | .append entry => appendUntilError sha256 db [entry]
  | .writeCheckpointIfNeeded checkpointId nowMs =>
      commitResult db (Audit.writeCheckpointIfNeeded sha256 db checkpointId nowMs)
  | .writeCheckpointIfNonEmpty checkpointId nowMs =>
      commitResult db (Audit.writeCheckpointIfNonEmpty sha256 db checkpointId nowMs)
  | .deleteOldRows nowMs probe => Audit.deleteOldRows sha256 db nowMs probe

end Retention

def emptyLog : AuditLog := ⟨[], []⟩

end ChainworksForge.Audit
