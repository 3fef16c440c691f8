import ChainworksForge.Support.Checked
import ChainworksForge.Support.Json
import ChainworksForge.Support.Uuid

/-!
# The payload of a queued advance

`parseValue` reads the payload of an `AdvanceRun` item and refuses combinations
of fields that no producer may write.  `classifyAdvancePayloadScope` is what the
queue decides from it before an item is claimed.

The writer and the reader of JSON texts are a parameter.
-/

namespace ChainworksForge.Queue

open ChainworksForge.Support

/-- A library that writes and reads JSON texts. -/
structure JsonCodec where
  write : Json → Text
  read : Text → Option Json

/-- The library reads the text of a value as that value. -/
def JsonCodec.ReadsBack (codec : JsonCodec) (value : Json) : Prop :=
  codec.read (codec.write value) = some value

/-- Why an advance was queued. -/
inductive AdvanceRunEnqueueReason where
  | normalAdvance
  | retryStage
  | targetedAgentRetry
  | postInvokeCompletion
  | postInvokeFailure
  | startupRecovery
  | abandonedAdvanceRequeue
deriving DecidableEq

namespace AdvanceRunEnqueueReason

def text : AdvanceRunEnqueueReason → Text
  | normalAdvance => "normal_advance".toList
  | retryStage => "retry_stage".toList
  | targetedAgentRetry => "targeted_agent_retry".toList
  | postInvokeCompletion => "post_invoke_completion".toList
  | postInvokeFailure => "post_invoke_failure".toList
  | startupRecovery => "startup_recovery".toList
  | abandonedAdvanceRequeue => "abandoned_advance_requeue".toList

def all : List AdvanceRunEnqueueReason :=
  [normalAdvance, retryStage, targetedAgentRetry, postInvokeCompletion,
    postInvokeFailure, startupRecovery, abandonedAdvanceRequeue]

def parse (raw : Text) : Option AdvanceRunEnqueueReason :=
  all.find? (·.text = raw)

@[simp]
theorem parse_text (reason : AdvanceRunEnqueueReason) :
    parse reason.text = some reason := by
  cases reason <;> decide

/-- The reasons that may carry a target. -/
def isTargeted : AdvanceRunEnqueueReason → Bool
  | retryStage | postInvokeCompletion | postInvokeFailure | startupRecovery
  | abandonedAdvanceRequeue => true
  | normalAdvance | targetedAgentRetry => false

/-- The reasons that follow an invocation. -/
def isPostInvoke : AdvanceRunEnqueueReason → Bool
  | postInvokeCompletion | postInvokeFailure => true
  | _ => false

end AdvanceRunEnqueueReason

/-- The payload of an advance. -/
structure AdvanceRunPayloadV1 where
  schemaVersion : Option Text
  runId : Uuid
  stageId : Option Text
  targetStageExecutionId : Option Uuid
  retryAuthorityId : Option Text
  sourceStageExecutionId : Option Uuid
  sourceWorkItemId : Option Text
  sourceInvokeWorkItemId : Option Text
  sourceAgentExecutionId : Option Text
  enqueueReason : Option AdvanceRunEnqueueReason
  reason : Option Text
deriving DecidableEq

/-- Why a payload is refused. -/
inductive AdvanceRunPayloadError where
  | notObject
  | missingRunId
  | invalidRunId
  | unsupportedSchemaVersion
  | invalidId (field : String)
  | missingTargetField (field : String)
  | invalidEnqueueReason
  | missingEnqueueReason
  | targetedFieldsNotAllowed
  | targetLost
  | targetRequired
  | missingPostInvokeField (field : String)
  | sourceTargetMismatch
  | invalidEntryKind
deriving DecidableEq

def AdvanceRunPayloadError.code : AdvanceRunPayloadError → String
  | notObject => "advance_run_payload_malformed"
  | missingRunId => "advance_run_payload_missing_run_id"
  | invalidRunId => "advance_run_payload_invalid_run_id"
  | unsupportedSchemaVersion => "advance_run_payload_unsupported_schema_version"
  | invalidId field =>
      if field = "target_stage_execution_id" then
        "advance_run_payload_invalid_target_stage_execution_id"
      else if field = "source_stage_execution_id" then
        "advance_run_payload_invalid_source_stage_execution_id"
      else "advance_run_payload_invalid_id"
  | missingTargetField field =>
      if field = "stage_id" then "advance_run_payload_missing_stage_id"
      else if field = "retry_authority_id" then
        "advance_run_payload_missing_retry_authority"
      else if field = "target_stage_execution_id" then
        "advance_run_payload_missing_target_for_authority"
      else "advance_run_payload_missing_target_field"
  | invalidEnqueueReason => "advance_run_payload_invalid_enqueue_reason"
  | missingEnqueueReason => "advance_run_payload_missing_enqueue_reason"
  | targetedFieldsNotAllowed =>
      "advance_run_payload_target_not_allowed_for_normal_advance"
  | targetLost => "advance_run_payload_target_lost"
  | targetRequired => "advance_run_payload_target_required"
  | missingPostInvokeField field =>
      if field = "source_invoke_work_item_id" then
        "advance_run_payload_missing_source_invoke_work_item_id"
      else if field = "source_stage_execution_id" then
        "advance_run_payload_missing_source_stage_execution_id"
      else "advance_run_payload_missing_post_invoke_field"
  | sourceTargetMismatch => "advance_run_source_target_mismatch"
  | invalidEntryKind => "advance_run_invalid_entry_kind"

/-- The schema version that the reader supports. -/
def supportedSchemaVersion : Text := "advance_run_payload.v1".toList

namespace AdvanceRunPayloadV1

/-- Whether an optional text is missing or empty. -/
def isBlank (field : Option Text) : Bool := (field.getD []).isEmpty

/-- The rules for a payload with a target. -/
def validateTargeted (payload : AdvanceRunPayloadV1) :
    Except AdvanceRunPayloadError Unit := do
  let targeted := payload.enqueueReason.any (·.isTargeted)
  let postInvoke := payload.enqueueReason.any (·.isPostInvoke)
  if !targeted then throw .targetedFieldsNotAllowed
  if isBlank payload.stageId then throw (.missingTargetField "stage_id")
  if isBlank payload.retryAuthorityId then
    throw (.missingTargetField "retry_authority_id")
  if postInvoke && isBlank payload.sourceInvokeWorkItemId then
    throw (.missingPostInvokeField "source_invoke_work_item_id")
  if postInvoke then
    match payload.sourceStageExecutionId with
    | none => throw (.missingPostInvokeField "source_stage_execution_id")
    | some source =>
        if some source ≠ payload.targetStageExecutionId then
          throw .sourceTargetMismatch

/-- The rules for a payload without a target. -/
def validateRunScoped (payload : AdvanceRunPayloadV1) :
    Except AdvanceRunPayloadError Unit := do
  let targeted := payload.enqueueReason.any (·.isTargeted)
  if payload.retryAuthorityId.isSome || payload.sourceStageExecutionId.isSome ||
      payload.sourceInvokeWorkItemId.isSome ||
      payload.sourceAgentExecutionId.isSome then
    throw (.missingTargetField "target_stage_execution_id")
  if payload.schemaVersion.isSome && payload.sourceWorkItemId.isSome &&
      targeted && payload.stageId.isNone then
    throw .targetLost
  if payload.schemaVersion.isSome && payload.sourceWorkItemId.isSome &&
      targeted && payload.stageId.isSome then
    throw .targetRequired

/-- The rules for the fields of a payload. -/
def validate (payload : AdvanceRunPayloadV1) :
    Except AdvanceRunPayloadError Unit := do
  if payload.schemaVersion.isSome && payload.enqueueReason.isNone then
    throw .missingEnqueueReason
  if payload.enqueueReason = some .targetedAgentRetry then
    throw .invalidEntryKind
  if payload.targetStageExecutionId.isSome then payload.validateTargeted
  else payload.validateRunScoped

/-- An optional identifier of an object. -/
def optionalUuid (value : Json) (field : String) :
    Except AdvanceRunPayloadError (Option Uuid) :=
  match value.getStr field with
  | none => .ok none
  | some raw =>
      match Uuid.parse raw with
      | none => .error (.invalidId field)
      | some id => .ok (some id)

/-- An optional reason of an object. -/
def optionalReason (value : Json) :
    Except AdvanceRunPayloadError (Option AdvanceRunEnqueueReason) :=
  match value.getStr "enqueue_reason" with
  | none => .ok none
  | some raw =>
      match AdvanceRunEnqueueReason.parse raw with
      | none => .error .invalidEnqueueReason
      | some reason => .ok (some reason)

/-- The run that a payload names. -/
def requiredRunId (value : Json) : Except AdvanceRunPayloadError Uuid :=
  match value.getStr "run_id" with
  | none => .error .missingRunId
  | some raw =>
      match Uuid.parse raw with
      | none => .error .invalidRunId
      | some id => .ok id

/-- Read the fields of an object. -/
def readFields (value : Json) :
    Except AdvanceRunPayloadError AdvanceRunPayloadV1 := do
  let runId ← requiredRunId value
  let schemaVersion := value.getStr "schema_version"
  if schemaVersion ≠ none ∧ schemaVersion ≠ some supportedSchemaVersion then
    throw .unsupportedSchemaVersion
  let target ← optionalUuid value "target_stage_execution_id"
  let source ← optionalUuid value "source_stage_execution_id"
  let enqueueReason ← optionalReason value
  return {
    schemaVersion := schemaVersion
    runId := runId
    stageId := value.getStr "stage_id"
    targetStageExecutionId := target
    retryAuthorityId := value.getStr "retry_authority_id"
    sourceStageExecutionId := source
    sourceWorkItemId := value.getStr "source_work_item_id"
    sourceInvokeWorkItemId := value.getStr "source_invoke_work_item_id"
    sourceAgentExecutionId := value.getStr "source_agent_execution_id"
    enqueueReason := enqueueReason
    reason := value.getStr "reason" }

/-- Read and check a payload. -/
def parseValue (value : Json) :
    Except AdvanceRunPayloadError AdvanceRunPayloadV1 := do
  if !value.isObject then throw .notObject
  let payload ← readFields value
  payload.validate
  return payload

def parseJson (codec : JsonCodec) (raw : Text) :
    Except AdvanceRunPayloadError AdvanceRunPayloadV1 :=
  match codec.read raw with
  | none => .error .notObject
  | some value => parseValue value

/-- The JSON value of a payload; fields without a value are written as `null`. -/
def toValue (payload : AdvanceRunPayloadV1) : Json :=
  Json.ofFields
    [("schema_version", Json.ofOption payload.schemaVersion),
      ("run_id", .string payload.runId.text),
      ("stage_id", Json.ofOption payload.stageId),
      ("target_stage_execution_id",
        Json.ofOption (payload.targetStageExecutionId.map Uuid.text)),
      ("retry_authority_id", Json.ofOption payload.retryAuthorityId),
      ("source_stage_execution_id",
        Json.ofOption (payload.sourceStageExecutionId.map Uuid.text)),
      ("source_work_item_id", Json.ofOption payload.sourceWorkItemId),
      ("source_invoke_work_item_id",
        Json.ofOption payload.sourceInvokeWorkItemId),
      ("source_agent_execution_id",
        Json.ofOption payload.sourceAgentExecutionId),
      ("enqueue_reason", Json.ofOption (payload.enqueueReason.map (·.text))),
      ("reason", Json.ofOption payload.reason)]

/-- A payload that keeps the rules and has a schema version that can be read. -/
def IsValid (payload : AdvanceRunPayloadV1) : Prop :=
  payload.validate = .ok () ∧
    (payload.schemaVersion = none ∨
      payload.schemaVersion = some supportedSchemaVersion)

/-- A payload is accepted if its fields can be read and keep the rules. -/
theorem parseValue_eq_ok_iff (value : Json) (payload : AdvanceRunPayloadV1) :
    parseValue value = .ok payload ↔
      value.isObject = true ∧ readFields value = .ok payload ∧
        payload.validate = .ok () := by
  rw [parseValue]
  cases hobject : value.isObject with
  | false => simp [bind, Except.bind, throw, throwThe, MonadExceptOf.throw]
  | true =>
      simp only [Bool.not_true, Bool.false_eq_true, if_false, true_and]
      change (readFields value >>= fun read => read.validate >>= fun _ =>
        pure read) = _ ↔ _
      rw [bind_eq_ok_iff]
      constructor
      · rintro ⟨read, hread, hchecked⟩
        obtain ⟨_, hvalid, hsame⟩ := (bind_eq_ok_iff _ _ _).1 hchecked
        rw [(pure_eq_ok_iff _ _).1 hsame] at hread hvalid
        exact ⟨hread, hvalid⟩
      · rintro ⟨hread, hvalid⟩
        refine ⟨payload, hread, ?_⟩
        rw [hvalid]
        rfl

section Written

variable (payload : AdvanceRunPayloadV1)

theorem requiredRunId_toValue :
    requiredRunId payload.toValue = .ok payload.runId := by
  simp [requiredRunId, toValue, Json.getStr_ofFields, List.lookup_cons]

theorem optionalReason_toValue :
    optionalReason payload.toValue = .ok payload.enqueueReason := by
  cases h : payload.enqueueReason <;>
    simp [optionalReason, toValue, Json.getStr_ofFields, List.lookup_cons, h]

theorem readFields_toValue
    (hversion : payload.schemaVersion = none ∨
      payload.schemaVersion = some supportedSchemaVersion) :
    readFields payload.toValue = .ok payload := by
  have hsupported : ¬(payload.schemaVersion ≠ none ∧
      payload.schemaVersion ≠ some supportedSchemaVersion) := by
    tauto
  have htarget : optionalUuid payload.toValue "target_stage_execution_id" =
      .ok payload.targetStageExecutionId := by
    cases h : payload.targetStageExecutionId <;>
      simp [optionalUuid, toValue, Json.getStr_ofFields, List.lookup_cons, h]
  have hsource : optionalUuid payload.toValue "source_stage_execution_id" =
      .ok payload.sourceStageExecutionId := by
    cases h : payload.sourceStageExecutionId <;>
      simp [optionalUuid, toValue, Json.getStr_ofFields, List.lookup_cons, h]
  have hschema : payload.toValue.getStr "schema_version" =
      payload.schemaVersion := by
    simp [toValue, Json.getStr_ofFields, List.lookup_cons]
  rw [readFields, requiredRunId_toValue, htarget, hsource,
    optionalReason_toValue, hschema]
  simp only [hsupported, if_false]
  simp [toValue, Json.getStr_ofFields, List.lookup_cons, bind, Except.bind, pure,
    Except.pure]

/-- A valid payload is read as it was written. -/
theorem parseValue_toValue (hvalid : payload.IsValid) :
    parseValue payload.toValue = .ok payload := by
  have hobject : payload.toValue.isObject = true := by
    rw [toValue, Json.isObject_ofFields]
  rw [parseValue_eq_ok_iff]
  exact ⟨hobject, readFields_toValue payload hvalid.2, hvalid.1⟩

end Written

/-- The rules hold for a target whose source and authority are named. -/
theorem validate_of_target
    {payload : AdvanceRunPayloadV1} {reason : AdvanceRunEnqueueReason}
    {target : Uuid} {stageId authorityId itemId : Text}
    (hreason : payload.enqueueReason = some reason)
    (hpost : reason.isPostInvoke = true)
    (htarget : payload.targetStageExecutionId = some target)
    (hsource : payload.sourceStageExecutionId = some target)
    (hstage : payload.stageId = some stageId)
    (hauthority : payload.retryAuthorityId = some authorityId)
    (hitem : payload.sourceInvokeWorkItemId = some itemId) :
    payload.validate = .ok () ↔
      stageId ≠ [] ∧ authorityId ≠ [] ∧ itemId ≠ [] := by
  have hentry : reason ≠ .targetedAgentRetry := by
    rintro rfl
    exact absurd hpost (by decide)
  have htargeted : reason.isTargeted = true := by
    cases reason <;> first | rfl | exact absurd hpost (by decide)
  simp only [validate, validateTargeted, hreason, htarget, hsource, hstage,
    hauthority, hitem, isBlank]
  by_cases h1 : stageId = [] <;> by_cases h2 : authorityId = [] <;>
    by_cases h3 : itemId = [] <;>
      simp [h1, h2, h3, hentry, htargeted, hpost, bind, Except.bind, pure,
        Except.pure, throw, throwThe, MonadExceptOf.throw]

end AdvanceRunPayloadV1

/-! ## The scope of an advance -/

/-- What the queue decides from a payload. -/
inductive AdvancePayloadScope where
  | legacyRunScoped
  | targeted
  | malformed (code : String)
deriving DecidableEq

/-- Whether a payload has a field of a typed or targeted advance. -/
def payloadLooksTargetedOrTyped (codec : JsonCodec) (raw : Text) : Bool :=
  match codec.read raw with
  | none => true
  | some value =>
      ["schema_version", "target_stage_execution_id", "retry_authority_id",
        "source_stage_execution_id", "source_work_item_id",
        "source_invoke_work_item_id"].any fun key =>
          (value.get key.toList).isSome

def classifyAdvancePayloadScope (codec : JsonCodec) (raw : Text) :
    AdvancePayloadScope :=
  match AdvanceRunPayloadV1.parseJson codec raw with
  | .ok payload =>
      if payload.targetStageExecutionId.isSome then .targeted
      else .legacyRunScoped
  | .error error =>
      if payloadLooksTargetedOrTyped codec raw then .malformed error.code
      else .legacyRunScoped

/-- Whether a payload belongs to an authority. -/
inductive AdvancePayloadAuthorityMatch where
  | isMatch
  | noMatch
  | malformed (code : String)
deriving DecidableEq

def advancePayloadMatchesAuthority
    (codec : JsonCodec) (raw retryAuthorityId : Text) (target : Uuid) :
    AdvancePayloadAuthorityMatch :=
  match AdvanceRunPayloadV1.parseJson codec raw with
  | .error error =>
      if payloadLooksTargetedOrTyped codec raw then .malformed error.code
      else .noMatch
  | .ok _ =>
      match codec.read raw with
      | none => .malformed "advance_run_payload_malformed"
      | some value =>
          if value.getStr "retry_authority_id" = some retryAuthorityId ∧
              value.getStr "target_stage_execution_id" = some target.text then
            .isMatch
          else .noMatch

end ChainworksForge.Queue
