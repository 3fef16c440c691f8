import ChainworksForge.Closeout.Synthesis

/-!
# When the manual release is entered

Each route gives a necessary condition for the two decisions that let work go on: the
one that enters the manual release and the one that returns to the refinement of the
code.  The conditions are collected from the routes in the order in which they are
tried.
-/

namespace ChainworksForge.Closeout

open ChainworksForge.Support

variable {inputs : SynthesizerInputs}

/-- The review does not ask for fixes. -/
def ReviewAdmits (inputs : SynthesizerInputs) : Prop :=
  ∀ status, inputs.implementationReviewStatus = some status →
    Text.trim status ≠ "needs_code_fixes".toList ∧ Text.trim status ≠ "invalid".toList

/-- The gate passed, or it was waived with a fingerprint. -/
def GateAdmits (gate : ProposalGateResult) : Prop :=
  gate.status = .passed ∨
    (gate.status = .waived ∧ ∃ lineage, gate.authorizationLineage = some lineage ∧
      Text.trim lineage.currentFingerprint ≠ [])

/-- The self-assessment counts no blocking code task and no handoff task, and every
acceptance of a risk is valid if there are risks to accept. -/
def AssessmentAdmits (inputs : SynthesizerInputs)
    (assessment : ImplementationSelfAssessmentSummary) : Prop :=
  assessment.blockingRemainingCodeTaskCount.getD 0 = 0 ∧
    assessment.handoffTaskCount.getD 0 = 0 ∧
    (assessment.knownRisks ≠ [] → inputs.acceptedRisks ≠ [] ∧
      ∀ lineage ∈ inputs.acceptedRisks, lineage.isValid = true)

/-- What the synthesizer asks for before the manual release. -/
structure IsEarned (inputs : SynthesizerInputs) : Prop where
  mode : inputs.modeResult = .known .enforcement
  fingerprint : inputs.fingerprintLatencyExceeded = false
  review : ReviewAdmits inputs
  gate : GateAdmits inputs.gateResult
  assessment : ∃ assessment, inputs.selfAssessment = some assessment ∧
    AssessmentAdmits inputs assessment
  reports : inputs.controlledReportsGreen = some true

/-! ## Routes -/

theorem maybeCapAdvisoryDecision_enter {r : CloseoutReadiness}
    {modeResult : CloseoutReadinessModeResult}
    (h : (maybeCapAdvisoryDecision r modeResult).decision = .enterManualRelease) :
    modeResult = .known .enforcement ∧ r.decision = .enterManualRelease := by
  unfold maybeCapAdvisoryDecision at h
  split_ifs at h with henforced
  · refine ⟨?_, h⟩
    have hmode : modeResult.effectiveMode = .enforcement := of_decide_eq_true henforced
    cases modeResult with
    | known mode => rw [show mode = .enforcement from hmode]
    | legacyFallbackAdvisory => cases hmode
    | diagnostic error => cases hmode
  · split at h
    · cases h
    · rename_i hnot
      exact absurd h hnot

theorem maybeCapAdvisoryDecision_return {r : CloseoutReadiness}
    {modeResult : CloseoutReadinessModeResult}
    (h : (maybeCapAdvisoryDecision r modeResult).decision = .returnToCodeRefine) :
    r.decision = .returnToCodeRefine := by
  unfold maybeCapAdvisoryDecision at h
  split_ifs at h
  · exact h
  · split at h
    · cases h
    · exact h

theorem routeImplementationReviewStatus_some {r : CloseoutReadiness}
    (h : routeImplementationReviewStatus inputs = some r) :
    r.decision ≠ .enterManualRelease ∧
      (r.decision = .returnToCodeRefine → inputs.loopBudgetRemaining = true) := by
  unfold routeImplementationReviewStatus at h
  obtain ⟨status, -, h⟩ := Option.bind_eq_some_iff.1 h
  dsimp only at h
  split_ifs at h with hother hbudget
  · obtain rfl := Option.some.inj h
    exact ⟨by simp [SynthesizerInputs.readiness], fun _ => hbudget⟩
  · obtain rfl := Option.some.inj h
    exact ⟨by simp [SynthesizerInputs.readiness], by simp [SynthesizerInputs.readiness]⟩

theorem routeImplementationReviewStatus_none
    (h : routeImplementationReviewStatus inputs = none) : ReviewAdmits inputs := by
  intro status hstatus
  unfold routeImplementationReviewStatus at h
  rw [hstatus] at h
  dsimp only [Option.bind_some, bind, Option.bind] at h
  split_ifs at h with hother
  exact hother

theorem routeGateCause_none {gate : ProposalGateResult} {budgetRemaining : Bool}
    (h : routeGateCause gate budgetRemaining = none) : GateAdmits gate := by
  unfold routeGateCause at h
  split at h
  · rename_i hstatus
    exact .inl hstatus
  · rename_i hstatus
    split at h
    · cases h
    · rename_i lineage hlineage
      split_ifs at h with hblank
      refine .inr ⟨hstatus, lineage, hlineage, fun hempty => hblank ?_⟩
      rw [hempty]
      rfl
  · cases h
  · cases h
  · cases h
  · cases h
  · split at h
    · cases h
    · cases h
    · cases h
    · split_ifs at h
  · cases h

/-- The gate sends the work back if it failed in the code and the budget remains, or if
the failure was classified so. -/
theorem routeGateCause_return {gate : ProposalGateResult} {budgetRemaining : Bool}
    (h : routeGateCause gate budgetRemaining = some .returnToCodeRefine) :
    budgetRemaining = true ∨ (gate.status = .failed ∧
      gate.failureClassification = some .codeOwnedBudgetRemaining) := by
  unfold routeGateCause at h
  split at h
  · cases h
  · split at h
    · cases h
    · split_ifs at h
      cases h
  · cases h
  · cases h
  · cases h
  · cases h
  · rename_i hstatus
    split at h
    · rename_i hclass
      exact .inr ⟨hstatus, hclass⟩
    · cases h
    · cases h
    · split_ifs at h with hbudget
      · exact .inl hbudget
      · cases h
  · cases h

theorem gateRoutedReadiness_decision (inputs : SynthesizerInputs) (route : GateRouted) :
    (gateRoutedReadiness inputs route).decision ≠ .enterManualRelease ∧
      ((gateRoutedReadiness inputs route).decision = .returnToCodeRefine →
        route = .returnToCodeRefine) := by
  cases route <;> simp [gateRoutedReadiness, SynthesizerInputs.readiness]

theorem routeCodeBlockers_decision (assessment : ImplementationSelfAssessmentSummary)
    (count : ℕ) :
    (routeCodeBlockers inputs assessment count).decision ≠ .enterManualRelease ∧
      ((routeCodeBlockers inputs assessment count).decision = .returnToCodeRefine →
        inputs.loopBudgetRemaining = true) := by
  unfold routeCodeBlockers
  dsimp only [SynthesizerInputs.readiness]
  split_ifs with hsame hbudget
  · exact ⟨by simp, by simp⟩
  · exact ⟨by simp, fun _ => hbudget⟩
  · exact ⟨by simp, by simp⟩

theorem routeRisks_enter {assessment : ImplementationSelfAssessmentSummary}
    (h : (routeRisks inputs assessment).decision = .enterManualRelease)
    (hrisks : assessment.knownRisks ≠ []) :
    inputs.acceptedRisks ≠ [] ∧ ∀ lineage ∈ inputs.acceptedRisks,
      lineage.isValid = true := by
  have hpresent : (!assessment.knownRisks.isEmpty) = true := by simpa using hrisks
  unfold routeRisks at h
  dsimp only [SynthesizerInputs.readiness] at h
  simp only [hpresent, true_and, and_true] at h
  split_ifs at h with hopen hsatisfied
  refine ⟨fun hnone => hopen ⟨.inr ?_, .inl ?_⟩, ?_⟩
  · rw [hnone]
    rfl
  · rw [hnone]
    exact List.length_pos_iff.2 hrisks
  · exact List.all_eq_true.1 hsatisfied

theorem routeRisks_ne_return {assessment : ImplementationSelfAssessmentSummary} :
    (routeRisks inputs assessment).decision ≠ .returnToCodeRefine := by
  unfold routeRisks
  dsimp only [SynthesizerInputs.readiness]
  split_ifs <;> simp

/-- What the matrix asks for in enforcement. -/
theorem applyDecisionMatrix_enter (hmode : inputs.modeResult = .known .enforcement)
    (h : (applyDecisionMatrix inputs).decision = .enterManualRelease) :
    (∃ assessment, inputs.selfAssessment = some assessment ∧
      AssessmentAdmits inputs assessment) ∧ inputs.controlledReportsGreen = some true := by
  have henforced : inputs.modeResult.isEnforcement = true := by
    rw [hmode]
    rfl
  unfold applyDecisionMatrix at h
  split at h
  · cases h
  · rename_i assessment hassessment
    split_ifs at h with hreports hblocked hhandoff
    · cases h
    · exact absurd h (routeCodeBlockers_decision assessment _).1
    · cases h
    · refine ⟨⟨assessment, hassessment, by omega, by omega, routeRisks_enter h⟩, ?_⟩
      by_contra hred
      exact hreports ⟨henforced, hred⟩

theorem applyDecisionMatrix_return
    (h : (applyDecisionMatrix inputs).decision = .returnToCodeRefine) :
    inputs.loopBudgetRemaining = true := by
  unfold applyDecisionMatrix at h
  split at h
  · cases h
  · rename_i assessment hassessment
    split_ifs at h
    · cases h
    · exact (routeCodeBlockers_decision assessment _).2 h
    · cases h
    · exact absurd h routeRisks_ne_return

/-! ## The decision -/

/-- The routes that are tried after the fingerprint and the mode. -/
theorem synthesizeReadiness_cases (inputs : SynthesizerInputs) :
    ((synthesizeReadiness inputs).decision ≠ .enterManualRelease ∧
      (synthesizeReadiness inputs).decision ≠ .returnToCodeRefine) ∨
    (inputs.fingerprintLatencyExceeded = false ∧
      ((∃ r, routeImplementationReviewStatus inputs = some r ∧
          synthesizeReadiness inputs = maybeCapAdvisoryDecision r inputs.modeResult) ∨
        (routeImplementationReviewStatus inputs = none ∧
          ((∃ route, routeGateCause inputs.gateResult inputs.loopBudgetRemaining =
              some route ∧ synthesizeReadiness inputs =
                maybeCapAdvisoryDecision (gateRoutedReadiness inputs route)
                  inputs.modeResult) ∨
            (routeGateCause inputs.gateResult inputs.loopBudgetRemaining = none ∧
              synthesizeReadiness inputs = maybeCapAdvisoryDecision
                (applyDecisionMatrix inputs) inputs.modeResult))))) := by
  unfold synthesizeReadiness
  split_ifs with hexceeded
  · exact .inl ⟨by simp [SynthesizerInputs.readiness], by simp [SynthesizerInputs.readiness]⟩
  · split
    · exact .inl ⟨by simp [SynthesizerInputs.readiness],
        by simp [SynthesizerInputs.readiness]⟩
    · refine .inr ⟨by simpa using hexceeded, ?_⟩
      split
      · rename_i r hreview
        exact .inl ⟨r, hreview, rfl⟩
      · rename_i hreview
        refine .inr ⟨hreview, ?_⟩
        split
        · rename_i route hroute
          exact .inl ⟨route, hroute, rfl⟩
        · rename_i hroute
          exact .inr ⟨hroute, rfl⟩

/-- The manual release is entered only when the synthesizer's conditions are met, and
work is returned to the refinement only if the budget remains or the failure of the
gate was classified so. -/
theorem manual_release_is_earned (inputs : SynthesizerInputs) :
    ((synthesizeImplementationCloseoutReadinessForState9 inputs).readiness.decision =
      .enterManualRelease → IsEarned inputs) ∧
    ((synthesizeImplementationCloseoutReadinessForState9 inputs).readiness.decision =
      .returnToCodeRefine → inputs.loopBudgetRemaining = true ∨
        (inputs.gateResult.status = .failed ∧ inputs.gateResult.failureClassification =
          some .codeOwnedBudgetRemaining)) := by
  change ((synthesizeReadiness inputs).decision = _ → _) ∧
    ((synthesizeReadiness inputs).decision = _ → _)
  rcases synthesizeReadiness_cases inputs with ⟨henter, hreturn⟩ |
    ⟨hfingerprint, ⟨r, hreview, hdecision⟩ |
      ⟨hreview, ⟨route, hroute, hdecision⟩ | ⟨hroute, hdecision⟩⟩⟩
  · exact ⟨fun h => absurd h henter, fun h => absurd h hreturn⟩
  · rw [hdecision]
    obtain ⟨hnot, hbudget⟩ := routeImplementationReviewStatus_some hreview
    exact ⟨fun h => absurd (maybeCapAdvisoryDecision_enter h).2 hnot,
      fun h => .inl (hbudget (maybeCapAdvisoryDecision_return h))⟩
  · rw [hdecision]
    obtain ⟨hnot, hsame⟩ := gateRoutedReadiness_decision inputs route
    refine ⟨fun h => absurd (maybeCapAdvisoryDecision_enter h).2 hnot, fun h => ?_⟩
    rw [hsame (maybeCapAdvisoryDecision_return h)] at hroute
    exact routeGateCause_return hroute
  · rw [hdecision]
    refine ⟨fun h => ?_, fun h => .inl ?_⟩
    · obtain ⟨hmode, hmatrix⟩ := maybeCapAdvisoryDecision_enter h
      obtain ⟨hassessment, hreports⟩ := applyDecisionMatrix_enter hmode hmatrix
      exact ⟨hmode, hfingerprint, routeImplementationReviewStatus_none hreview,
        routeGateCause_none hroute, hassessment, hreports⟩
    · exact applyDecisionMatrix_return (maybeCapAdvisoryDecision_return h)

/-! ## What is not asked for -/

def greenAssessment : ImplementationSelfAssessmentSummary := ⟨some 0, some 0, [], [], []⟩

def passedGate : ProposalGateResult := ⟨.passed, none, none, none⟩

/-- Everything is in order, and there is a fingerprint. -/
def greenInputs : SynthesizerInputs where
  runId := "run".toList
  stageId := "state_9".toList
  gateResult := passedGate
  modeResult := .known .enforcement
  implementationReviewStatus := none
  selfAssessment := some greenAssessment
  acceptedRisks := []
  loopBudgetRemaining := true
  fingerprint := some ⟨[], [], [], [], [], [], [], [], [], 0⟩
  fingerprintLatencyExceeded := false
  controlledReportsGreen := some true
  previousBlockerDigest := none
  generationId := "cr".toList
  now := "1".toList

/-- The manual release is entered with the conditions met. -/
theorem green_inputs_are_earned : IsEarned greenInputs :=
  (manual_release_is_earned greenInputs).1 rfl

/-- A waiver that names another fingerprint than the present one. -/
def waivedInputs : SynthesizerInputs :=
  { greenInputs with
    gateResult := ⟨.waived, none, some ⟨"fp-abc12345".toList⟩, none⟩ }

/-- A listed blocking task and a listed handoff task that were not counted. -/
def uncountedInputs : SynthesizerInputs :=
  { greenInputs with
    selfAssessment := some ⟨none, none, [⟨"task".toList, true⟩], [⟨.docs⟩], []⟩ }

/-- An invalid acceptance, and no risk to accept. -/
def invalidAcceptanceInputs : SynthesizerInputs :=
  { greenInputs with acceptedRisks := [⟨[], [], [], [], []⟩] }

/-- A failure of the gate that was classified while the budget remained. -/
def classifiedInputs : SynthesizerInputs :=
  { greenInputs with
    gateResult := ⟨.failed, none, none, some .codeOwnedBudgetRemaining⟩
    loopBudgetRemaining := false }

/-- The decision of the synthesizer. -/
def decisionFor (inputs : SynthesizerInputs) : CloseoutReadinessDecision :=
  (synthesizeImplementationCloseoutReadinessForState9 inputs).readiness.decision

/-- The manual release is entered without a fingerprint, with a waiver for another
fingerprint, with blocking and handoff tasks that are listed and not counted, and with
an invalid acceptance; and work is returned without a budget. -/
theorem manual_release_asks_for_less :
    decisionFor { greenInputs with fingerprint := none } = .enterManualRelease ∧
    (decisionFor waivedInputs = .enterManualRelease ∧
      ∀ sha256 fingerprint, waivedInputs.fingerprint = some fingerprint →
        fingerprint.shortHash sha256 ≠ "fp-abc12345".toList) ∧
    (decisionFor uncountedInputs = .enterManualRelease ∧
      ∃ assessment, uncountedInputs.selfAssessment = some assessment ∧
        assessment.remainingCodeTasks.any RemainingCodeTaskSummary.blocking = true ∧
        assessment.handoffTasks ≠ []) ∧
    (decisionFor invalidAcceptanceInputs = .enterManualRelease ∧
      ∃ lineage ∈ invalidAcceptanceInputs.acceptedRisks, lineage.isValid = false) ∧
    (decisionFor classifiedInputs = .returnToCodeRefine ∧
      classifiedInputs.loopBudgetRemaining = false) := by
  refine ⟨rfl, ⟨rfl, ?_⟩, ⟨rfl, _, rfl, rfl, List.cons_ne_nil _ _⟩,
    ⟨rfl, _, List.mem_singleton_self _, rfl⟩, rfl, rfl⟩
  intro sha256 fingerprint _ hsame
  have hlength := congrArg List.length hsame
  rw [CloseoutFingerprint.shortHash, List.length_take] at hlength
  have heleven : "fp-abc12345".toList.length = 11 := rfl
  omega

end ChainworksForge.Closeout
