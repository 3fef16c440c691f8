import ChainworksForge.Support.Checked
import ChainworksForge.Support.Json

/-!
# Reading a blocker assessment

An assessment lists its blockers under five names; the lists are read one after
the other.  A blocker that is not an object stops the reading.  Every other
defect of a blocker is recorded as an error of that blocker, and a default stands
for the field.
-/

namespace ChainworksForge.Gate

open ChainworksForge.Support

def texts (names : List String) : List Text := names.map String.toList

def qualityGateBlockerOwnerClasses : List Text :=
  texts ["output_settlement", "missing_required_outputs", "side_effect",
    "side_effect_reconciliation", "runtime_recovery", "provider_recovery",
    "review_refresh", "stale_review", "security_reviewer", "prepush_reviewer",
    "implementation_auditor", "unknown", "code_writer", "local_code", "docs_guardian",
    "test_owner", "implementation", "invalid_claim", "invalid_blocker_claim",
    "blocked_no_progress", "no_progress", "followup_proposal", "external_blocker",
    "external_evidence", "external_environment", "release_evidence", "operator",
    "remote_host"]

def qualityGateBlockerClasses : List Text :=
  texts ["output_settlement", "missing_required_outputs", "side_effect",
    "side_effect_reconciliation", "runtime_recovery", "provider_recovery",
    "review_refresh", "stale_review", "local_code_tail", "local_code", "code_issue",
    "docs_guardian", "test_failure", "implementation", "invalid_claim",
    "invalid_blocker_claim", "blocked_no_progress", "no_progress",
    "followup_proposal", "external_blocker", "external_evidence",
    "external_environment", "remote_environment_required", "release_evidence",
    "operator_decision_required"]

def evidenceFreshnessValues : List Text :=
  texts ["fresh", "stale", "unknown", "superseded"]

def severityValues : List Text := texts ["hard", "soft", "advisory"]

/-- The owner classes whose work is local code. -/
def localCodeOwnerClasses : List Text :=
  texts ["code_writer", "local_code", "docs_guardian", "test_owner", "implementation"]

structure BoundaryBlocker where
  id : Text
  summary : Text
  blockerSignatureId : Text
  evidenceFingerprint : Text
  evidenceFreshness : Text
  sourceArtifactGenerationId : Option Text
  observedAfterStageExecutionId : Text
  observedAfterAgentExecutionId : Text
  ownerClass : Text
  blockerClass : Text
  isCodeWriterBlocking : Bool
  severity : Text
  releaseBlocking : Bool
  serverVerifiedNoProgress : Bool
  noProgressRepeatCount : Option ℕ
  budgetSource : Option Text
  budgetRemaining : Option ℕ
  lastProgressFingerprint : Option Text
  allowedWorkflowRoutes : List Text
  forbiddenRoutes : List Text
  gateCommand : Option Text
  evidenceRefs : List Text
  validationErrors : List Text
deriving DecidableEq

/-! ## Fields -/

variable (blocker : Json) (idx : ℕ)

/-- The texts of an array member; a missing array has none. -/
def stringArrayField (field : String) : List Text :=
  (((blocker.get field.toList).bind Json.asArray).getD []).filterMap Json.asStr

def hasArrayField (field : String) : Bool :=
  ((blocker.get field.toList).bind Json.asArray).isSome

def boolField (field : String) : Option Bool :=
  (blocker.get field.toList).bind Json.asBool

def u64Field (field : String) : Option ℕ :=
  (blocker.get field.toList).bind Json.asU64

/-- One check of a field, with what is said about a blocker that fails it. -/
structure FieldCheck where
  field : String
  complaint : Text
  passed : Bool

/-- The field has to be there. -/
def FieldCheck.required (field : String) (value : Option α) : FieldCheck :=
  ⟨field, "is required".toList, value.isSome⟩

/-- The value has to be one of the known ones. -/
def FieldCheck.known (field : String) (known : List Text) (value : Text) : FieldCheck :=
  ⟨field, "has unknown value ".toList ++ value, value ∈ known⟩

/-- A field that a verified repetition has to carry. -/
def FieldCheck.verified (field : String) (isVerified : Bool) (value : Option α) :
    FieldCheck :=
  ⟨field, "is required for server_verified_no_progress".toList,
    !isVerified || value.isSome⟩

/-- The text `blocker[idx].field complaint`. -/
def FieldCheck.error (check : FieldCheck) : Text :=
  "blocker[".toList ++ (toString idx).toList ++ "].".toList ++ check.field.toList ++
    " ".toList ++ check.complaint

/-- The owner class, under one of two names. -/
def ownerClassField : Option Text :=
  (blocker.getStr "owner_class").or (blocker.getStr "owner")

def blockerClassField : Option Text :=
  (blocker.getStr "blocker_class").or (blocker.getStr "class")

/-- The member that says whether a blocker blocks the release; the second name is
read only where the first is missing. -/
def releaseBlockingField : Option Bool :=
  ((blocker.get "release_blocking".toList).or
    (blocker.get "is_release_blocking".toList)).bind Json.asBool

def evidenceFreshnessField : Option Text :=
  (blocker.getStr "evidence_freshness").or (blocker.getStr "freshness")

def summaryField : Option Text :=
  (blocker.getStr "summary").or (blocker.getStr "description")

/-- The owner class that a blocker counts under. -/
def ownerClassOf : Text := (ownerClassField blocker).getD "unknown".toList

def blockerClassOf : Text := (blockerClassField blocker).getD (ownerClassOf blocker)

def evidenceFreshnessOf : Text :=
  (evidenceFreshnessField blocker).getD "unknown".toList

def isCodeWriterBlockingOf : Bool :=
  (boolField blocker "is_code_writer_blocking").getD
    (ownerClassOf blocker ∈ localCodeOwnerClasses)

def serverVerifiedNoProgressOf : Bool :=
  (boolField blocker "server_verified_no_progress").getD false

/-- The checks of a blocker, in the order in which they are made. -/
def blockerChecks : List FieldCheck :=
  let isVerified := serverVerifiedNoProgressOf blocker
  [.required "owner_class" (ownerClassField blocker),
    .known "owner_class" qualityGateBlockerOwnerClasses (ownerClassOf blocker),
    .required "blocker_class" (blockerClassField blocker),
    .known "blocker_class" qualityGateBlockerClasses (blockerClassOf blocker),
    .required "release_blocking" (releaseBlockingField blocker),
    ⟨"allowed_workflow_routes", "must be non-empty".toList,
      stringArrayField blocker "allowed_workflow_routes" ≠ []⟩,
    ⟨"forbidden_routes", "is required".toList, hasArrayField blocker "forbidden_routes"⟩,
    ⟨"evidence_refs", "must be non-empty".toList,
      stringArrayField blocker "evidence_refs" ≠ []⟩,
    .required "evidence_freshness" (evidenceFreshnessField blocker),
    .known "evidence_freshness" evidenceFreshnessValues (evidenceFreshnessOf blocker),
    .verified "no_progress_repeat_count" isVerified
      (u64Field blocker "no_progress_repeat_count"),
    .verified "budget_source" isVerified (blocker.getStr "budget_source"),
    .verified "budget_remaining" isVerified (u64Field blocker "budget_remaining"),
    .verified "last_progress_fingerprint" isVerified
      (blocker.getStr "last_progress_fingerprint"),
    .required "summary" (summaryField blocker),
    .required "blocker_signature_id" (blocker.getStr "blocker_signature_id"),
    .required "evidence_fingerprint" (blocker.getStr "evidence_fingerprint"),
    .required "source_artifact_generation_id"
      (blocker.getStr "source_artifact_generation_id"),
    .required "observed_after_stage_execution_id"
      (blocker.getStr "observed_after_stage_execution_id"),
    .required "observed_after_agent_execution_id"
      (blocker.getStr "observed_after_agent_execution_id"),
    .required "severity" (blocker.getStr "severity"),
    ⟨"severity", "has unknown value ".toList ++ (blocker.getStr "severity").getD [],
      (blocker.getStr "severity").all (· ∈ severityValues)⟩,
    .required "gate_command" (blocker.getStr "gate_command")]

/-- The errors of a blocker: one for each check it fails. -/
def blockerValidationErrors : List Text :=
  ((blockerChecks blocker).filter fun check => !check.passed).map (·.error idx)

/-- A name that stands for a missing identifier. -/
def fallbackId (stem : String) : Text := stem.toList ++ (toString idx).toList

/-- The blocker that an object is read as. -/
def readBlocker : BoundaryBlocker where
  id := (blocker.getStr "id").getD (fallbackId idx "blocker-")
  summary := (summaryField blocker).getD "unspecified blocker".toList
  blockerSignatureId := (blocker.getStr "blocker_signature_id").getD
    (fallbackId idx "missing-blocker-signature-")
  evidenceFingerprint := (blocker.getStr "evidence_fingerprint").getD
    (fallbackId idx "missing-evidence-fingerprint-")
  evidenceFreshness := evidenceFreshnessOf blocker
  sourceArtifactGenerationId := blocker.getStr "source_artifact_generation_id"
  observedAfterStageExecutionId :=
    (blocker.getStr "observed_after_stage_execution_id").getD "unknown".toList
  observedAfterAgentExecutionId :=
    (blocker.getStr "observed_after_agent_execution_id").getD "unknown".toList
  ownerClass := ownerClassOf blocker
  blockerClass := blockerClassOf blocker
  isCodeWriterBlocking := isCodeWriterBlockingOf blocker
  severity := (blocker.getStr "severity").getD "hard".toList
  releaseBlocking := (releaseBlockingField blocker).getD false
  serverVerifiedNoProgress := serverVerifiedNoProgressOf blocker
  noProgressRepeatCount := u64Field blocker "no_progress_repeat_count"
  budgetSource := blocker.getStr "budget_source"
  budgetRemaining := u64Field blocker "budget_remaining"
  lastProgressFingerprint := blocker.getStr "last_progress_fingerprint"
  allowedWorkflowRoutes := stringArrayField blocker "allowed_workflow_routes"
  forbiddenRoutes := stringArrayField blocker "forbidden_routes"
  gateCommand := blocker.getStr "gate_command"
  evidenceRefs := stringArrayField blocker "evidence_refs"
  validationErrors := blockerValidationErrors blocker idx

/-- Read the blocker at a position. -/
def parseBlocker : Except Text BoundaryBlocker :=
  if blocker.isObject then .ok (readBlocker blocker idx)
  else .error ("blocker at index ".toList ++ (toString idx).toList ++
    " must be an object".toList)

/-! ## The five lists -/

def blockerListNames : List String :=
  ["blockers", "candidate_blockers", "external_blockers", "followup_code_tail",
    "local_code_tail"]

/-- The blockers under one name. -/
def rawBlockersUnder (assessment : Json) (name : String) : List Json :=
  ((assessment.get name.toList).bind Json.asArray).getD []

/-- The blockers of an assessment, list after list. -/
def rawBlockers (assessment : Json) : List Json :=
  blockerListNames.flatMap (rawBlockersUnder assessment)

/-- The error of a list that is not one, or of the missing main list. -/
def listError (assessment : Json) (name : String) : List Text :=
  match assessment.get name.toList with
  | some (.array _) => []
  | some _ => ["assessment.".toList ++ name.toList ++ " must be an array".toList]
  | none =>
      if name = "blockers" then ["assessment.blockers is required".toList] else []

def listErrors (assessment : Json) : List Text :=
  blockerListNames.flatMap (listError assessment)

def parseBlockers (assessment : Json) :
    Except Text (List BoundaryBlocker × List Text) := do
  let blockers ← (rawBlockers assessment).zipIdx.mapM fun entry =>
    parseBlocker entry.1 entry.2
  return (blockers, listErrors assessment)

end ChainworksForge.Gate
