import ChainworksForge.Support.Text
import Mathlib.Data.Nat.Notation

/-!
# Closeout readiness

Before the release of an implementation the engine synthesizes a decision from the
result of the proposal gate, the review, the self-assessment of the implementation, the
accepted risks and the reports.  The routes are tried one after the other: the
fingerprint, the mode, the review, the gate, and then the matrix of the remaining
inputs.  Outside enforcement a decision to enter the manual release is capped at the
end.
-/

namespace ChainworksForge.Closeout

open ChainworksForge.Support

inductive CloseoutReadinessMode where
  | advisory
  | enforcement
deriving DecidableEq

def CloseoutReadinessMode.asStr : CloseoutReadinessMode → Text
  | .advisory => "advisory".toList
  | .enforcement => "enforcement".toList

inductive CloseoutReadinessModeError where
  | missing
  | unknown (value : Text)
  | conflicting (column snapshot : Text)
  | malformed (message : Text)
deriving DecidableEq

def CloseoutReadinessModeError.display : CloseoutReadinessModeError → Text
  | .missing => "closeout_readiness_mode missing".toList
  | .unknown value => "unknown closeout_readiness_mode value: ".toList ++ value
  | .conflicting column snapshot =>
      "conflicting closeout_readiness_mode: column=".toList ++ column ++
        " snapshot=".toList ++ snapshot
  | .malformed message => "malformed closeout_readiness_mode: ".toList ++ message

inductive CloseoutReadinessModeResult where
  | known (mode : CloseoutReadinessMode)
  | legacyFallbackAdvisory
  | diagnostic (error : CloseoutReadinessModeError)
deriving DecidableEq

namespace CloseoutReadinessModeResult

def effectiveMode : CloseoutReadinessModeResult → CloseoutReadinessMode
  | .known mode => mode
  | .legacyFallbackAdvisory => .advisory
  | .diagnostic _ => .advisory

def isEnforcement (result : CloseoutReadinessModeResult) : Bool :=
  result.effectiveMode = .enforcement

end CloseoutReadinessModeResult

inductive ProposalGateStatus where
  | passed
  | failed
  | waived
  | missingDefinition
  | stale
  | invalid
  | unauthorized
  | superseded
deriving DecidableEq

def ProposalGateStatus.asStr : ProposalGateStatus → Text
  | .passed => "passed".toList
  | .failed => "failed".toList
  | .waived => "waived".toList
  | .missingDefinition => "missing_definition".toList
  | .stale => "stale".toList
  | .invalid => "invalid".toList
  | .unauthorized => "unauthorized".toList
  | .superseded => "superseded".toList

inductive ProposalGateFailureClassification where
  | codeOwnedBudgetRemaining
  | unclearOrNonCodeOwned
  | budgetExhausted
deriving DecidableEq

structure ProposalGateLineage where
  currentFingerprint : Text
deriving DecidableEq

structure ProposalGateResult where
  status : ProposalGateStatus
  diagnosticReason : Option Text
  authorizationLineage : Option ProposalGateLineage
  failureClassification : Option ProposalGateFailureClassification
deriving DecidableEq

structure CloseoutFingerprint where
  proposalOrFreezeDigest : Text
  runId : Text
  stageId : Text
  workflowDigest : Text
  worktreeHead : Text
  dirtyOrChangedFileDigest : Text
  upstreamActiveGenerationIds : List Text
  contractVersion : Text
  computedAt : Text
  latencyMs : ℕ
deriving DecidableEq

/-- The generation identifier of a fingerprint, given the digest of a text. -/
def CloseoutFingerprint.shortHash (sha256 : Text → Text) (fingerprint : CloseoutFingerprint) :
    Text :=
  (sha256 (fingerprint.proposalOrFreezeDigest ++ ['\x00'] ++ fingerprint.runId ++ ['\x00'] ++
    fingerprint.stageId ++ ['\x00'] ++ fingerprint.worktreeHead ++ ['\x00'] ++
      fingerprint.dirtyOrChangedFileDigest)).take 8

structure RemainingCodeTaskSummary where
  summary : Text
  blocking : Bool
deriving DecidableEq

inductive HandoffOwnerClass where
  | docs
  | manualEvidence
  | release
  | ops
  | product
  | humanOperator
  | unknown
deriving DecidableEq

def HandoffOwnerClass.asStr : HandoffOwnerClass → Text
  | .docs => "docs".toList
  | .manualEvidence => "manual_evidence".toList
  | .release => "release".toList
  | .ops => "ops".toList
  | .product => "product".toList
  | .humanOperator => "human_operator".toList
  | .unknown => "unknown".toList

structure HandoffTaskSummary where
  ownerClass : HandoffOwnerClass
deriving DecidableEq

structure ImplementationSelfAssessmentSummary where
  blockingRemainingCodeTaskCount : Option ℕ
  handoffTaskCount : Option ℕ
  remainingCodeTasks : List RemainingCodeTaskSummary
  handoffTasks : List HandoffTaskSummary
  knownRisks : List Text
deriving DecidableEq

/-! ## Accepted risks -/

structure RiskAcceptanceLineage where
  riskId : Text
  title : Text
  authority : Text
  journalOrDecisionId : Text
  sourceGenerationIds : List Text
deriving DecidableEq

/-- The errors of the fields that are required. -/
def RiskAcceptanceLineage.errors (lineage : RiskAcceptanceLineage) : List Text :=
  let blank (text : Text) (error : String) : List Text :=
    if (Text.trim text).isEmpty then [error.toList] else []
  blank lineage.riskId "risk_id is required and must not be empty" ++
    blank lineage.title "title is required and must not be empty" ++
    blank lineage.authority "authority is required and must not be empty" ++
    blank lineage.journalOrDecisionId
      "journal_or_decision_id is required and must not be empty" ++
    if lineage.sourceGenerationIds.isEmpty then
      ["source_generation_ids must contain at least one entry".toList]
    else []

def RiskAcceptanceLineage.validate (lineage : RiskAcceptanceLineage) :
    Except (List Text) Unit :=
  if lineage.errors.isEmpty then .ok () else .error lineage.errors

def RiskAcceptanceLineage.isValid (lineage : RiskAcceptanceLineage) : Bool :=
  lineage.validate.isOk

def risksSatisfyEnterManualRelease (lineage : List RiskAcceptanceLineage) : Bool :=
  lineage.all RiskAcceptanceLineage.isValid

/-! ## Inputs and result -/

inductive CloseoutReadinessStatus where
  | ready
  | readyWithRisks
  | handoffRequired
  | notReady
  | blocked
  | invalid
  | unknown
deriving DecidableEq

inductive CloseoutReadinessDecision where
  | enterManualRelease
  | returnToCodeRefine
  | awaitNonCodeHandoff
  | awaitGateDefinition
  | awaitOperatorDecision
  | blockWithEvidence
deriving DecidableEq

structure CloseoutReadiness where
  runId : Text
  stageId : Text
  status : CloseoutReadinessStatus
  decision : CloseoutReadinessDecision
  generationId : Text
  readinessMode : Text
  diagnosticReason : Option Text
  primaryUnblock : Option Text
  codeBlockerCount : ℕ
  handoffOwner : Option Text
  riskSettlementRequired : Bool
  fingerprint : Option CloseoutFingerprint
  synthesizedAt : Text
deriving DecidableEq

/-- The inputs of the synthesizer, with the identifier that it draws and the moment at
which it runs. -/
structure SynthesizerInputs where
  runId : Text
  stageId : Text
  gateResult : ProposalGateResult
  modeResult : CloseoutReadinessModeResult
  implementationReviewStatus : Option Text
  selfAssessment : Option ImplementationSelfAssessmentSummary
  acceptedRisks : List RiskAcceptanceLineage
  loopBudgetRemaining : Bool
  fingerprint : Option CloseoutFingerprint
  fingerprintLatencyExceeded : Bool
  controlledReportsGreen : Option Bool
  previousBlockerDigest : Option Text
  generationId : Text
  now : Text

structure SynthesizerResult where
  readiness : CloseoutReadiness
  currentBlockerDigest : Option Text

/-! ## The digest of the blockers -/

def fnvOffset : UInt64 := 14695981039346656037

def fnvPrime : UInt64 := 1099511628211

def feed (h : UInt64) (bytes : List UInt8) : UInt64 :=
  bytes.foldl (fun h b => (h ^^^ b.toUInt64) * fnvPrime) h

def utf8 (text : Text) : List UInt8 := text.flatMap String.utf8EncodeChar

def leBytes (n : UInt64) : List UInt8 :=
  (List.range 8).map fun i => (n >>> (8 * i).toUInt64).toUInt8

/-- Sixteen hexadecimal digits. -/
def hex16 (n : UInt64) : Text :=
  let digits := Nat.toDigits 16 n.toNat
  List.replicate (16 - digits.length) '0' ++ digits

def computeBlockerDigest (assessment : ImplementationSelfAssessmentSummary)
    (gate : ProposalGateResult) : Text :=
  let count := (assessment.blockingRemainingCodeTaskCount.getD 0).toUInt64
  let h := feed (feed (feed fnvOffset (leBytes count)) (utf8 gate.status.asStr)) [1]
  hex16 ((assessment.remainingCodeTasks.filter RemainingCodeTaskSummary.blocking).foldl
    (fun h task => feed (feed h (utf8 task.summary)) [2]) h)

/-! ## Routes -/

section Routes

variable (inputs : SynthesizerInputs)

/-- The record of a decision that counts no blockers and names no owner. -/
def SynthesizerInputs.readiness (status : CloseoutReadinessStatus)
    (decision : CloseoutReadinessDecision) (diagnosticReason primaryUnblock : Option Text) :
    CloseoutReadiness where
  runId := inputs.runId
  stageId := inputs.stageId
  status := status
  decision := decision
  generationId := inputs.generationId
  readinessMode := inputs.modeResult.effectiveMode.asStr
  diagnosticReason := diagnosticReason
  primaryUnblock := primaryUnblock
  codeBlockerCount := 0
  handoffOwner := none
  riskSettlementRequired := false
  fingerprint := inputs.fingerprint
  synthesizedAt := inputs.now

/-- Outside enforcement the manual release is not entered. -/
def maybeCapAdvisoryDecision (r : CloseoutReadiness)
    (modeResult : CloseoutReadinessModeResult) : CloseoutReadiness :=
  if modeResult.isEnforcement then r
  else match r.decision with
    | .enterManualRelease =>
        { r with
          decision := .awaitOperatorDecision
          diagnosticReason := some ("advisory_mode: ".toList ++
            modeResult.effectiveMode.asStr ++ (" — manual release is diagnostic-only " ++
              "until cutover to enforcement").toList) }
    | _ => r

def routeImplementationReviewStatus : Option CloseoutReadiness := do
  let status := Text.trim (← inputs.implementationReviewStatus)
  if status ≠ "needs_code_fixes".toList ∧ status ≠ "invalid".toList then none
  else
    let reason := "implementation_review_summary.status=".toList ++ status
    let r := if inputs.loopBudgetRemaining then
      inputs.readiness .notReady .returnToCodeRefine
        (some (reason ++ (" requires implementation refinement; release gate is not " ++
          "required for code-fix routing").toList))
        (some "Resolve implementation review code blockers".toList)
    else
      inputs.readiness .notReady .awaitOperatorDecision
        (some (reason ++ (" requires refinement, but refinement loop budget is " ++
          "exhausted").toList))
        (some ("Operator decision required for exhausted implementation refinement " ++
          "budget").toList)
    some { r with codeBlockerCount := 1 }

inductive GateRouted where
  | awaitGateDefinition
  | rerunOrImportCurrentReceipt
  | awaitOperatorDecision
  | returnToCodeRefine
  | unauthorizedWaiver
  | staleWaiver
deriving DecidableEq

/-- The decision that the status of the gate makes by itself. -/
def routeGateCause (gate : ProposalGateResult) (budgetRemaining : Bool) :
    Option GateRouted :=
  match gate.status with
  | .passed => none
  | .waived =>
      match gate.authorizationLineage with
      | none => some .unauthorizedWaiver
      | some lineage =>
          if (Text.trim lineage.currentFingerprint).isEmpty then some .staleWaiver else none
  | .missingDefinition => some .awaitGateDefinition
  | .stale | .superseded => some .rerunOrImportCurrentReceipt
  | .unauthorized => some .awaitOperatorDecision
  | .failed =>
      match gate.failureClassification with
      | some .codeOwnedBudgetRemaining => some .returnToCodeRefine
      | some .budgetExhausted | some .unclearOrNonCodeOwned => some .awaitOperatorDecision
      | none => if budgetRemaining then some .returnToCodeRefine
          else some .awaitOperatorDecision
  | .invalid => some .awaitOperatorDecision

def gateRoutedReadiness : GateRouted → CloseoutReadiness
  | .awaitGateDefinition => inputs.readiness .unknown .awaitGateDefinition
      (some ("gate missing_definition: closeout release gate not registered; register " ++
        "or import the governed gate before manual release").toList)
      (some "Register or import the closeout release gate before manual release".toList)
  | .rerunOrImportCurrentReceipt => inputs.readiness .unknown .awaitOperatorDecision
      (some ("gate ".toList ++ inputs.gateResult.status.asStr ++
        (": stale or superseded receipt — rerun or import a current receipt").toList))
      (some "Rerun or import current governed gate receipt".toList)
  | .awaitOperatorDecision => inputs.readiness .blocked .awaitOperatorDecision
      (some ("gate ".toList ++ inputs.gateResult.status.asStr ++ ": ".toList ++
        inputs.gateResult.diagnosticReason.getD "operator decision required".toList))
      (some "Operator decision required for gate settlement".toList)
  | .returnToCodeRefine => inputs.readiness .notReady .returnToCodeRefine
      (some ("gate failed: code work required; proposal gate failed with budget " ++
        "remaining").toList)
      (some "Fix gate failures and re-run the closeout release gate".toList)
  | .unauthorizedWaiver => inputs.readiness .blocked .awaitOperatorDecision
      (some ("waived gate rejected: authorization_lineage missing — unmanaged waivers " ++
        "are not permitted; re-submit with full lineage").toList)
      (some ("Re-submit gate waiver with authorization_lineage and " ++
        "current_fingerprint").toList)
  | .staleWaiver => inputs.readiness .blocked .awaitOperatorDecision
      (some ("waived gate rejected: current_fingerprint empty — stale waivers without " ++
        "current fingerprint are not permitted").toList)
      (some "Re-submit gate waiver with a non-empty current_fingerprint".toList)

/-- Blocking code tasks remain. -/
def routeCodeBlockers (assessment : ImplementationSelfAssessmentSummary) (count : ℕ) :
    CloseoutReadiness :=
  let digest := computeBlockerDigest assessment inputs.gateResult
  let remaining := (toString count).toList
  let (decision, reason) : CloseoutReadinessDecision × Text :=
    if inputs.previousBlockerDigest = some digest then
      (.awaitOperatorDecision, ("soft_convergence_checkpoint: repeated identical " ++
        "blockers without diff or gate progress — operator decision required").toList)
    else if inputs.loopBudgetRemaining then
      (.returnToCodeRefine, remaining ++ (" blocking code task(s) remain; budget " ++
        "remaining — returning to refine").toList)
    else
      (.awaitOperatorDecision, remaining ++ (" blocking code task(s) remain; budget " ++
        "exhausted — operator decision required").toList)
  { inputs.readiness .notReady decision (some reason)
      (some "Resolve blocking code tasks".toList) with
    codeBlockerCount := count % 2 ^ 32 }

/-- Tasks are left to others. -/
def routeHandoff (assessment : ImplementationSelfAssessmentSummary) (count : ℕ) :
    CloseoutReadiness :=
  { inputs.readiness .handoffRequired .awaitNonCodeHandoff
      (some ((toString count).toList ++
        " handoff task(s) require non-code settlement".toList))
      (some "Settle handoff tasks through governed channels".toList) with
    handoffOwner := assessment.handoffTasks.head?.map fun task => task.ownerClass.asStr }

/-- What is decided about the risks, the last branches of the matrix. -/
def routeRisks (assessment : ImplementationSelfAssessmentSummary) : CloseoutReadiness :=
  let unacceptedRiskCount :=
    inputs.acceptedRisks.countP fun lineage => !lineage.isValid
  let risksPresent := !assessment.knownRisks.isEmpty
  let satisfied := risksSatisfyEnterManualRelease inputs.acceptedRisks
  if (0 < unacceptedRiskCount ∨ (inputs.acceptedRisks.isEmpty ∧ risksPresent)) ∧
      risksPresent ∧
      (inputs.acceptedRisks.length < assessment.knownRisks.length ∨ ¬satisfied) then
    { inputs.readiness .readyWithRisks .awaitOperatorDecision
        (some ("risks present: typed risk acceptance lineage required for " ++
          "enter_manual_release").toList)
        (some "Provide typed risk acceptance lineage".toList) with
      riskSettlementRequired := true }
  else if risksPresent ∧ ¬satisfied then
    { inputs.readiness .readyWithRisks .awaitOperatorDecision
        (some "ready_with_risks: acceptance_required — typed lineage needed".toList)
        (some "Settle risks through governed waiver or release-owner decision".toList) with
      riskSettlementRequired := true }
  else if risksPresent ∧ satisfied then
    inputs.readiness .readyWithRisks .enterManualRelease none none
  else inputs.readiness .ready .enterManualRelease none none

def applyDecisionMatrix : CloseoutReadiness :=
  match inputs.selfAssessment with
  | none => inputs.readiness .unknown .awaitOperatorDecision
      (some "implementation self-assessment unavailable".toList)
      (some "Implementation self-assessment artifact required".toList)
  | some assessment =>
      if inputs.modeResult.isEnforcement ∧ inputs.controlledReportsGreen ≠ some true then
        inputs.readiness .blocked .awaitOperatorDecision
          (some ("enforcement_mode: controlled reports required — audit, docs, " ++
            "security, prepush, and tests must be green before manual release").toList)
          (some "Ensure all controlled reports are green".toList)
      else if 0 < assessment.blockingRemainingCodeTaskCount.getD 0 then
        routeCodeBlockers inputs assessment
          (assessment.blockingRemainingCodeTaskCount.getD 0)
      else if 0 < assessment.handoffTaskCount.getD 0 then
        routeHandoff inputs assessment (assessment.handoffTaskCount.getD 0)
      else routeRisks inputs assessment

/-- The readiness of an implementation. -/
def synthesizeReadiness : CloseoutReadiness :=
  if inputs.fingerprintLatencyExceeded then
    { inputs.readiness .unknown .blockWithEvidence
        (some "closeout_fingerprint_unavailable: latency budget exceeded".toList)
        (some "Fingerprint unavailable — rerun or waive".toList) with fingerprint := none }
  else match inputs.modeResult with
    | .diagnostic error => inputs.readiness .blocked .awaitOperatorDecision
        (some ("diagnostic_mode: ".toList ++ error.display ++ (" — cannot enter manual " ++
          "release without operator decision grounded in enforcement truth").toList))
        (some "Resolve closeout_readiness_mode configuration".toList)
    | modeResult =>
        match routeImplementationReviewStatus inputs with
        | some reviewRouted => maybeCapAdvisoryDecision reviewRouted modeResult
        | none =>
            match routeGateCause inputs.gateResult inputs.loopBudgetRemaining with
            | some gateRouted =>
                maybeCapAdvisoryDecision (gateRoutedReadiness inputs gateRouted) modeResult
            | none => maybeCapAdvisoryDecision (applyDecisionMatrix inputs) modeResult

def synthesizeImplementationCloseoutReadinessForState9 : SynthesizerResult where
  readiness := synthesizeReadiness inputs
  currentBlockerDigest := inputs.selfAssessment.map fun assessment =>
    computeBlockerDigest assessment inputs.gateResult

end Routes

end ChainworksForge.Closeout
