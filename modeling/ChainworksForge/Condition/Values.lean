import ChainworksForge.Condition.Result

/-!
# Values that a condition reads

A condition compares workflow variables, fields of artifacts and literals.
`Context` lists every read the evaluator performs while it evaluates one
condition: the compiled plan's variables and artifact paths, the canonical
contract rows, carried-forward outputs, files, the self-assessment summary and
the approval facts.  The reads are functions of the names that occur in the
condition, and they stay fixed during one evaluation.

`none` as the result of a resolution or an evaluation stands for a panic: a
slice whose bounds are not inside the text.
-/

namespace ChainworksForge.Condition

open ChainworksForge.Support

/-- Comparison operators of the condition language. -/
inductive CompOp where
  | eq
  | ne
  | lt
  | le
  | gt
  | ge
deriving DecidableEq, Repr

/-- Decision on an approval row. -/
inductive ApprovalDecision where
  | pending
  | requested
  | granted
  | rejected
  | expired
deriving DecidableEq, Repr

/-- Approval row: the logical state it was asked for and its decision. -/
structure Approval where
  stageId : Text
  decision : ApprovalDecision
deriving DecidableEq, Repr

/-- Canonical reading of a controlled artifact field. -/
inductive CanonicalContractField where
  | resolved (value : Json)
  | missingControlled (contractId : Text)
  | uncontrolledAlias
deriving DecidableEq, Repr

/-- Verified current output of a carried-forward run. -/
inductive OutputResolution where
  | ordinaryRun
  | missing
  | output (content : Option Json)
deriving DecidableEq, Repr

/-- Kind of asynchronous runtime that executes the evaluator. -/
inductive RuntimeFlavor where
  | multiThread
  | currentThread
  | outside
deriving DecidableEq, Repr

/-- Everything that one evaluation of a condition reads. -/
structure Context where
  /-- Logical state whose outgoing transitions are evaluated. -/
  currentStateId : Text
  /-- Workflow variables of the plan. -/
  planVariables : Text → Option Json
  /-- Resolved path of a declared artifact. -/
  artifactPath : Text → Option Text
  /-- The run carries its own metadata root. -/
  hasMetaRoot : Bool
  artifactRoot : Text
  runId : Text
  pathExists : Text → Bool
  /-- Parsed content of a readable JSON file. -/
  readJson : Text → Option Json
  /-- Canonical value of a field of a controlled contract. -/
  controlledField : Text → Text → Except Text (Option Json)
  /-- Whether a controlled contract has an active generation. -/
  controlledExists : Text → Except Text Bool
  outputForPredicate : Text → Except Text OutputResolution
  /-- Active self-assessment summary of the run, as JSON. -/
  selfAssessmentSummary : Option Json
  approvals : List Approval
  /-- Answer of the carried-forward approval binding for a decision. -/
  authorizes : ApprovalDecision → Except Text (Option Bool)
  runtimeFlavor : RuntimeFlavor

/-! ## Controlled contracts -/

/-- The contract that controls an artifact alias. -/
def contractIdForAlias (artifactAlias : Text) : Option Text :=
  (([("prepush_review_report", "prepush_review_v1"),
    ("docs_report", "docs_report_v1"),
    ("audit_report", "audit_report_v1"),
    ("security_report", "security_report_v1"),
    ("implementation_review_summary", "implementation_review_summary_v1"),
    ("implementation_self_assessment_v2",
      "implementation_self_assessment_v2"),
    ("tests_result_v1", "tests_result_v1"),
    ("implementation_closeout_readiness_v1",
      "implementation_closeout_readiness_v1"),
    ("proposal_gate_result_v1", "proposal_gate_result_v1"),
    ("proposal_decomposition_plan", "proposal_decomposition_plan_v1"),
    ("quality_gate_blocker_assessment",
      "quality_gate_blocker_assessment_v1"),
    ("blocker_boundary_status", "blocker_boundary_status_v1"),
    ("blocker_boundary_approval_request",
      "blocker_boundary_approval_request_v1"),
    ("blocker_boundary_human_decision",
      "blocker_boundary_human_decision_v1"),
    ("followup_proposal_seed", "followup_proposal_seed_v1")].map
      fun entry : String × String => (entry.1.toList, entry.2.toList)).lookup
    artifactAlias)

/-- Canonical reading of a field through the contract tables. -/
def canonicalContractFieldResult
    (ctx : Context) (artifactAlias fieldName : Text) :
    Except Text CanonicalContractField :=
  match contractIdForAlias artifactAlias with
  | none => .ok .uncontrolledAlias
  | some contractId =>
      match ctx.controlledField contractId fieldName with
      | .error error => .error error
      | .ok none => .ok (.missingControlled contractId)
      | .ok (some value) => .ok (.resolved value)

/-- Existence of an artifact through the contract tables. -/
def activeContractExistsResult
    (ctx : Context) (artifactAlias : Text) :
    Except Text CanonicalContractField :=
  match contractIdForAlias artifactAlias with
  | none => .ok .uncontrolledAlias
  | some contractId =>
      match ctx.controlledExists contractId with
      | .error error => .error error
      | .ok false => .ok (.missingControlled contractId)
      | .ok true => .ok (.resolved (.bool true))

/-! ## Artifact fields -/

def isImplementationSelfAssessmentAlias (artifactName : Text) : Bool :=
  artifactName = "implementation_self_assessment_v2".toList ||
    artifactName = "implementation_self_assessment".toList

/-- A member of a JSON object, by its literal key or by a dotted path. -/
def extractJsonField (json : Json) (fieldName : Text) : Option Json :=
  match json.get fieldName with
  | some value => some value
  | none => json.getPath (Text.splitOn '.' fieldName)

/-- A field of the active self-assessment summary, with its two old names. -/
def activeImplementationSelfAssessmentSummaryField
    (ctx : Context) (fieldName : Text) : Option Json :=
  ctx.selfAssessmentSummary.bind fun summary =>
    if fieldName = "seemingly_complete".toList then
      extractJsonField summary "implementation_complete".toList
    else if fieldName = "blocking_remaining_code_tasks".toList then
      extractJsonField summary "blocking_remaining_code_task_count".toList
    else extractJsonField summary fieldName

/-- The file that holds a declared artifact, with the two legacy places. -/
def artifactFile (ctx : Context) (artifactName : Text) : Option Text :=
  (ctx.artifactPath artifactName).bind fun resolved =>
    if ctx.pathExists resolved then some resolved
    else if ctx.hasMetaRoot then none
    else
      let alt := ctx.artifactRoot ++ "/".toList ++ artifactName
      let alt2 := ctx.artifactRoot ++ "/".toList ++ ctx.runId ++
        "/".toList ++ artifactName
      if ctx.pathExists alt then some alt
      else if ctx.pathExists alt2 then some alt2
      else none

/-- Read a field of a JSON artifact. -/
def readArtifactField
    (ctx : Context) (artifactName fieldName : Text) : Option Json :=
  if isImplementationSelfAssessmentAlias artifactName then
    activeImplementationSelfAssessmentSummaryField ctx fieldName
  else
    match ctx.outputForPredicate artifactName with
    | .ok (.output content) =>
        content.bind fun json => extractJsonField json fieldName
    | .ok .ordinaryRun =>
        (artifactFile ctx artifactName).bind fun path =>
          (ctx.readJson path).bind fun json => extractJsonField json fieldName
    | _ => none

/-- Read a whole JSON artifact. -/
def readArtifactJson (ctx : Context) (artifactName : Text) : Option Json :=
  match ctx.outputForPredicate artifactName with
  | .ok (.output content) => content
  | .ok .ordinaryRun => (artifactFile ctx artifactName).bind ctx.readJson
  | _ => none

/-! ## Resolving a reference or a literal -/

/-- Lookup through the contract tables, as far as the runtime allows it. -/
def controlledReference
    (ctx : Context) (artifactName fieldName : Text) : Option Json :=
  let unavailable :=
    if (contractIdForAlias artifactName).isSome then some Json.null else none
  match ctx.runtimeFlavor with
  | .multiThread =>
      match canonicalContractFieldResult ctx artifactName fieldName with
      | .ok (.resolved value) => some value
      | .ok (.missingControlled _) => some .null
      | .ok .uncontrolledAlias => none
      | .error _ => unavailable
  | .currentThread => unavailable
  | .outside => unavailable

/-- Value of a dotted reference to an artifact field. -/
def resolveArtifactReference (ctx : Context) (trimmed : Text) : Option Json :=
  match Text.splitOnce '.' trimmed with
  | none => none
  | some (artifactName, fieldName) =>
      let summary :=
        if isImplementationSelfAssessmentAlias artifactName then
          readArtifactField ctx artifactName fieldName
        else none
      (summary.or (controlledReference ctx artifactName fieldName)).or
        (readArtifactField ctx artifactName fieldName)

/-- Whether a text begins and ends with a character. -/
def isQuotedBy (quote : Char) (t : Text) : Bool :=
  Text.startsWith t [quote] && Text.endsWith t [quote]

/--
Value of a literal.  Stripping the quotes slices `1 .. len - 1`, which is out
of bounds on a single quote character.
-/
def resolveLiteral (trimmed : Text) : Option Json :=
  if trimmed = "true".toList then some (.bool true)
  else if trimmed = "false".toList then some (.bool false)
  else
    match F64.parseI64 trimmed with
    | some n => some (.number (.ofInt n))
    | none =>
        match F64.parse trimmed with
        | some f => some (Json.ofF64 f)
        | none =>
            if isQuotedBy '\'' trimmed || isQuotedBy '"' trimmed then
              if trimmed.length < 2 then none
              else some (.string (trimmed.drop 1).dropLast)
            else some (.string trimmed)

/-- Resolve a reference or a literal to a JSON value. -/
def resolveValue (ctx : Context) (refStr : Text) : Option Json :=
  let trimmed := Text.trim refStr
  match Text.stripFront trimmed "vars.".toList with
  | some varName => some ((ctx.planVariables varName).getD .null)
  | none =>
      match resolveArtifactReference ctx trimmed with
      | some value => some value
      | none => resolveLiteral trimmed

/-! ## Comparing -/

/-- Two doubles that the language counts as equal. -/
def withinEpsilon (l r : F64) : Bool :=
  F64.lt (F64.abs (F64.sub l r)) (.fin F64.epsilon)

/-- Two doubles that the language counts as different. -/
def beyondEpsilon (l r : F64) : Bool :=
  F64.le (.fin F64.epsilon) (F64.abs (F64.sub l r))

/-- Numeric comparison. -/
def compareNumbers (op : CompOp) (l r : F64) : Bool :=
  match op with
  | .eq => withinEpsilon l r
  | .ne => beyondEpsilon l r
  | .lt => F64.lt l r
  | .le => F64.le l r
  | .gt => F64.lt r l
  | .ge => F64.le r l

/-- Comparison of values that are not both numeric. -/
def compareStructural (op : CompOp) (lhs rhs : Json) : Bool :=
  match op with
  | .eq => lhs = rhs
  | .ne => lhs ≠ rhs
  | _ => false

/-- Apply a comparison operator to two JSON values. -/
def applyComparison (lhs : Json) (op : CompOp) (rhs : Json) : Bool :=
  match lhs.toF64, rhs.toF64 with
  | some l, some r => compareNumbers op l r
  | _, _ => compareStructural op lhs rhs

/-! ## Artifact leaves -/

/-- Evaluate `exists(artifact)`. -/
def evaluateArtifactExistsClassified
    (ctx : Context) (artifactName : Text) : ClassifiedConditionEvaluation :=
  let present := ClassifiedConditionEvaluation.matched
    |>.withRequiredArtifact artifactName
    |>.withSourceArtifact artifactName
  let absent (diagnostic : Text) :=
    ClassifiedConditionEvaluation.missingInput diagnostic
      |>.withRequiredArtifact artifactName
      |>.withMissingArtifact artifactName
  let uncontrolled :=
    match ctx.outputForPredicate artifactName with
    | .ok (.output _) => present
    | .ok .missing | .error _ =>
        absent ("Artifact ".toList ++ artifactName ++
          " has no verified current provider output".toList)
    | .ok .ordinaryRun =>
        match ctx.artifactPath artifactName with
        | none =>
            ClassifiedConditionEvaluation.invalidExpression
              ("Artifact ".toList ++ artifactName ++
                " is not declared by the workflow/catalog contract".toList)
              |>.withRequiredArtifact artifactName
        | some _ =>
            if (artifactFile ctx artifactName).isSome then present
            else absent ("Declared artifact ".toList ++ artifactName ++
              " is absent".toList)
  match activeContractExistsResult ctx artifactName with
  | .ok (.resolved _) => present
  | .ok (.missingControlled contractId) =>
      absent ("Controlled artifact ".toList ++ contractId ++
        " is missing canonical DB truth".toList)
  | .ok .uncontrolledAlias => uncontrolled
  | .error error =>
      match contractIdForAlias artifactName with
      | some contractId =>
          absent ("Controlled artifact ".toList ++ contractId ++
            " lookup failed: ".toList ++ error)
      | none => uncontrolled

/-- Evaluate a comparison whose left side is a field of an artifact. -/
def evaluateArtifactFieldComparisonClassified
    (ctx : Context) (artifactName fieldName : Text)
    (op : CompOp) (rhs : Text) : Option ClassifiedConditionEvaluation :=
  let fieldRef := artifactName ++ ".".toList ++ fieldName
  let compareWith (value : Json) : Option ClassifiedConditionEvaluation :=
    (resolveValue ctx rhs).map fun rv =>
      (ClassifiedConditionEvaluation.ofBool (applyComparison value op rv))
        |>.withRequiredArtifact artifactName
        |>.withSourceArtifact artifactName
  let absent (diagnostic : Text) :=
    ClassifiedConditionEvaluation.missingInput diagnostic
      |>.withRequiredArtifact artifactName
      |>.withMissingField fieldRef
  let uncontrolled : Option ClassifiedConditionEvaluation :=
    if (ctx.artifactPath artifactName).isNone then
      some (ClassifiedConditionEvaluation.invalidExpression
        ("Artifact field ".toList ++ fieldRef ++
          " references an undeclared artifact".toList)
        |>.withRequiredArtifact artifactName)
    else
      match readArtifactField ctx artifactName fieldName with
      | some value => compareWith value
      | none =>
          let present := evaluateArtifactExistsClassified ctx artifactName
          if present.result = .missingInput ∧
              artifactName ∈ present.missingArtifacts then some present
          else some (absent ("Declared artifact field ".toList ++ fieldRef ++
            " is absent".toList))
  match canonicalContractFieldResult ctx artifactName fieldName with
  | .ok (.resolved value) => compareWith value
  | .ok (.missingControlled contractId) =>
      let summary :=
        if isImplementationSelfAssessmentAlias artifactName then
          activeImplementationSelfAssessmentSummaryField ctx fieldName
        else none
      match summary with
      | some value => compareWith value
      | none =>
          some (absent ("Controlled artifact field ".toList ++ contractId ++
            ".".toList ++ fieldName ++
            " is missing canonical DB truth".toList))
  | .ok .uncontrolledAlias => uncontrolled
  | .error error =>
      match contractIdForAlias artifactName with
      | some contractId =>
          some (absent ("Controlled artifact field ".toList ++ contractId ++
            ".".toList ++ fieldName ++ " lookup failed: ".toList ++ error))
      | none => uncontrolled

end ChainworksForge.Condition
