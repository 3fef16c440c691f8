import ChainworksForge.Support.Json

/-!
# Readbacks of startup repairs

A repair leaves a readback that says which scenario it was, what was decided and
which item it concerned.  A readback with a word outside the approved
vocabularies is replaced by a sentinel.
-/

namespace ChainworksForge.Queue

open ChainworksForge.Support

def validScenarioStatuses : List String :=
  ["repaired", "rejected", "held", "pending", "cancelled", "not_applicable"]

def validRecoveryDecisions : List String :=
  ["retry", "wait", "reconcile_side_effects", "operator_approval_required",
    "inspect_duplicate_owner", "cancel", "no_mutation"]

def validProjectionIntegrities : List String :=
  ["valid", "stale", "tamper_detected", "unavailable"]

def reasonStartupRequeueOnce : String := "startup_requeue_once"

def reasonStartupRequeueExhausted : String := "startup_requeue_exhausted"

def reasonStartupStalled : String := "startup_stalled"

def allReasonCodes : List String :=
  ["resume_claim_status", reasonStartupRequeueOnce, reasonStartupRequeueExhausted,
    "invalid_stage_for_retry", "ignored_late_outputs", "duplicate_owner_repaired",
    reasonStartupStalled, "stale_repaired", "needs_effect_reconciliation",
    "requires_effect_reconciliation", "valid_identifier_guidance",
    "approval_pending_operator_action_required",
    "duplicate_mediation_owner_rejected", "cancel_active_stage_requested",
    "cancel_pending_approval_preserved", "cancel_pending_approval_expired",
    "cancel_side_effect_reconciliation_required",
    "cancel_startup_repair_converged", "cancelled_provider_late_output_ignored",
    "repair_crash_resume_idempotent"]

def schemaReadbackV1 : String := "p082_recovery_matrix_readback_v1"

def schemaStartupRepairSummaryV1 : String := "p082_startup_repair_summary_v1"

/-- What a readback says about a repair. -/
structure ReadbackInput where
  scenarioId : String
  scenarioStatus : String
  recoveryDecision : String
  recoveryReasonCode : String
  recoveryNextAction : String
  sourceTable : String
  sourceRepository : String
  sourceIdentifier : Text
  sourceJsonKey : Option String
  projectionIntegrity : String
  updatedAt : Text

/-- The sentinel of a readback that may not be written. -/
def readbackSentinel (error : String) : Json :=
  Json.ofFields
    [("schema_version",
        Json.ofString "p082_recovery_matrix_readback_v1_VALIDATION_ERROR"),
      ("error", Json.ofString error)]

def buildReadbackV1 (input : ReadbackInput) : Json :=
  if input.scenarioStatus ∉ validScenarioStatuses then
    readbackSentinel ("invalid scenario_status '" ++ input.scenarioStatus ++ "'")
  else if input.recoveryDecision ∉ validRecoveryDecisions then
    readbackSentinel ("invalid recovery_decision '" ++ input.recoveryDecision ++ "'")
  else if input.projectionIntegrity ∉ validProjectionIntegrities then
    readbackSentinel ("invalid recovery_projection_integrity '" ++
      input.projectionIntegrity ++ "'")
  else if input.scenarioStatus ≠ "not_applicable" ∧ input.recoveryNextAction = "" then
    readbackSentinel
      ("recovery_next_action must be non-empty for scenario_status '" ++
        input.scenarioStatus ++ "'")
  else if input.recoveryReasonCode ∉ allReasonCodes then
    readbackSentinel ("unknown reason_code '" ++ input.recoveryReasonCode ++ "'")
  else
    Json.ofFields
      [("schema_version", Json.ofString schemaReadbackV1),
        ("scenario_id", Json.ofString input.scenarioId),
        ("scenario_status", Json.ofString input.scenarioStatus),
        ("recovery_decision", Json.ofString input.recoveryDecision),
        ("recovery_reason_code", Json.ofString input.recoveryReasonCode),
        ("recovery_next_action", Json.ofString input.recoveryNextAction),
        ("recovery_hold_conditions", .array []),
        ("recovery_side_effect_blocking_status", .null),
        ("recovery_retry_identifier_guidance", .null),
        ("recovery_late_output_settlement", .null),
        ("recovery_startup_repair_summary", .null),
        ("recovery_operator_message", .null),
        ("recovery_projection_integrity", Json.ofString input.projectionIntegrity),
        ("source_table", Json.ofString input.sourceTable),
        ("source_repository", Json.ofString input.sourceRepository),
        ("source_identifier", .string input.sourceIdentifier),
        ("source_json_key", Json.ofOption (input.sourceJsonKey.map String.toList)),
        ("updated_at", .string input.updatedAt),
        ("diagnostic_redaction", Json.ofString "none")]

/-- What a summary says about the repair of one item. -/
structure StartupRepairSummaryInput where
  startupRepairId : Text
  sourceWorkItemId : Text
  sourceCommandJournalId : Text
  requeueGeneration : ℤ
  maxRequeueGeneration : ℤ
  replayed : Bool
  staleAfterMs : ℤ
  staleCutoff : Text
  xcodeRequired : Bool
  nextRetryOrBackoffTime : Option Text
  backpressureScope : String

def buildStartupRepairSummary (input : StartupRepairSummaryInput) : Json :=
  Json.ofFields
    [("schema_version", Json.ofString schemaStartupRepairSummaryV1),
      ("startup_repair_id", .string input.startupRepairId),
      ("source_work_item_id", .string input.sourceWorkItemId),
      ("source_command_journal_id", .string input.sourceCommandJournalId),
      ("requeue_generation", .number (.ofInt input.requeueGeneration)),
      ("max_requeue_generation", .number (.ofInt input.maxRequeueGeneration)),
      ("replayed", .bool input.replayed),
      ("stale_after_ms", .number (.ofInt input.staleAfterMs)),
      ("stale_cutoff", .string input.staleCutoff),
      ("xcode_required", .bool input.xcodeRequired),
      ("next_retry_or_backoff_time", Json.ofOption input.nextRetryOrBackoffTime),
      ("backpressure_scope", Json.ofString input.backpressureScope)]

/-- Whether a readback is a sentinel. -/
def isReadbackSentinel (readback : Json) : Bool :=
  (readback.getStr "schema_version").any
    fun version => Text.endsWith version "_VALIDATION_ERROR".toList

/-- Put a summary and a message into a readback; a sentinel stays as it is. -/
def setReadbackStartupRepair (readback summary : Json)
    (operatorMessage : Option Text) : Json :=
  if isReadbackSentinel readback then readback
  else
    let summarised := readback.insert "recovery_startup_repair_summary" summary
    match operatorMessage with
    | none => summarised
    | some message =>
        summarised.insert "recovery_operator_message" (.string message)

def xcodeStartupGraceSeconds : ℤ := 12 * 60

def standardStartupGraceSeconds : ℤ := 3 * 60

end ChainworksForge.Queue
