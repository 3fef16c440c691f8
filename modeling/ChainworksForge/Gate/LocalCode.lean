import ChainworksForge.Gate.Reading

/-!
# Local code work and the release

A blocker of local code keeps an assessment from the release and from the human
approval, unless the assessment itself says that the blocker does not block the
code writer.  The release is reached exactly without errors and without blockers.
-/

namespace ChainworksForge.Gate

open ChainworksForge.Support

/-- The statuses whose route leads to the release or to the human approval. -/
def LeavesLocalWork (status : BoundaryStatus) : Prop :=
  status = .pass ∨ status = .blockedNoProgress ∨ status = .awaitingHumanBoundaryApproval

theorem leavesLocalWork_iff (status : BoundaryStatus) :
    LeavesLocalWork status ↔
      routeHintForStatus status = "next_release_or_closeout_state" ∨
        routeHintForStatus status = "human_boundary_approval" := by
  cases status <;> simp [LeavesLocalWork, routeHintForStatus]

theorem lowerLayerStatusForBlocker_recovers {blocker : BoundaryBlocker}
    {status : BoundaryStatus} (hlower : lowerLayerStatusForBlocker blocker = some status) :
    ¬LeavesLocalWork status := by
  unfold lowerLayerStatusForBlocker at hlower
  split_ifs at hlower <;> obtain rfl := Option.some.inj hlower <;>
    simp [LeavesLocalWork]

/-- A blocker that is stale or a local code tail keeps the status from leaving. -/
theorem boundaryStatus_of_local {verified : List Text} {blockers : List BoundaryBlocker}
    {blocker : BoundaryBlocker} (hmem : blocker ∈ blockers)
    (hlocal : isStaleReview blocker = true ∨ isLocalCodeTail blocker = true) :
    ¬LeavesLocalWork (boundaryStatus verified blockers) := by
  unfold boundaryStatus
  by_cases hstale : blockers.any isStaleReview = true
  · rw [if_pos hstale]
    simp [LeavesLocalWork]
  · have htail : blockers.any isLocalCodeTail = true := by
      rcases hlocal with haged | htail
      · exact absurd (List.any_eq_true.2 ⟨blocker, hmem, haged⟩) hstale
      · exact List.any_eq_true.2 ⟨blocker, hmem, htail⟩
    rw [if_neg hstale, if_pos htail]
    simp [LeavesLocalWork]

theorem assessmentStatus_of_local (verified : List Text) {errors : List Text}
    {blockers : List BoundaryBlocker} {blocker : BoundaryBlocker}
    (hmem : blocker ∈ blockers)
    (hlocal : errors = [] →
      isStaleReview blocker = true ∨ isLocalCodeTail blocker = true) :
    ¬LeavesLocalWork (assessmentStatus verified errors blockers) := by
  unfold assessmentStatus
  split_ifs with herrors
  · simp [LeavesLocalWork]
  · cases hlower : lowerLayerStatus blockers with
    | none => exact boundaryStatus_of_local hmem (hlocal (not_not.1 herrors))
    | some status =>
        obtain ⟨other, -, hstatus⟩ := List.exists_of_findSome?_eq_some hlower
        exact lowerLayerStatusForBlocker_recovers hstatus

/-- A local-code blocker that blocks the code writer is stale or a local code tail. -/
theorem stale_or_tail {raw : Json} {idx : ℕ}
    (howner : ownerClassOf raw ∈ localCodeOwnerClasses)
    (hflag : boolField raw "is_code_writer_blocking" ≠ some false)
    (hvalid : ∀ check ∈ blockerChecks raw, check.passed = true) :
    isStaleReview (readBlocker raw idx) = true ∨
      isLocalCodeTail (readBlocker raw idx) = true := by
  have hblocking : isCodeWriterBlockingOf raw = true := by
    unfold isCodeWriterBlockingOf
    cases hfield : boolField raw "is_code_writer_blocking" with
    | none => simpa using howner
    | some flag =>
        rw [hfield] at hflag
        simpa using hflag
  have hfreshness := freshness_mem_of_valid hvalid
  by_cases hfresh : evidenceFreshnessOf raw = "fresh".toList
  · right
    simp [isLocalCodeTail, readBlocker, hblocking, hfresh, howner]
  · left
    have haged : evidenceFreshnessOf raw ∈ texts ["stale", "unknown", "superseded"] := by
      have hvalues : evidenceFreshnessValues =
          "fresh".toList :: texts ["stale", "unknown", "superseded"] := rfl
      rw [hvalues, List.mem_cons] at hfreshness
      exact hfreshness.resolve_left hfresh
    simp [isStaleReview, hasAgedEvidence, readBlocker, haged]

/-- The status is a pass exactly without errors and blockers. -/
theorem assessmentStatus_eq_pass_iff {verified errors : List Text}
    {blockers : List BoundaryBlocker} :
    assessmentStatus verified errors blockers = .pass ↔ errors = [] ∧ blockers = [] := by
  constructor
  · intro hpass
    unfold assessmentStatus at hpass
    split_ifs at hpass with herrors
    refine ⟨not_not.1 herrors, ?_⟩
    cases hlower : lowerLayerStatus blockers with
    | some status =>
        obtain ⟨other, -, hstatus⟩ := List.exists_of_findSome?_eq_some hlower
        rw [hlower, Option.getD_some] at hpass
        exact absurd (.inl hpass) (lowerLayerStatusForBlocker_recovers hstatus)
    | none =>
        rw [hlower, Option.getD_none] at hpass
        unfold boundaryStatus at hpass
        split_ifs at hpass with _ _ _ _ _ _ hempty
        exact List.isEmpty_iff.1 hempty
  · rintro ⟨rfl, rfl⟩
    rfl

theorem mem_rawBlockers_of_list {assessment raw : Json} {name : String}
    (hname : name ∈ blockerListNames) (hraw : raw ∈ rawBlockersUnder assessment name) :
    raw ∈ rawBlockers assessment :=
  List.mem_flatMap.2 ⟨name, hname, hraw⟩

theorem readBlockers_eq_nil_iff {raw : List Json} : readBlockers raw = [] ↔ raw = [] := by
  simp [readBlockers]

/-- The errors of an assessment include those of each of its blockers. -/
theorem valid_of_no_errors {assessment raw : Json} {idx : ℕ}
    (hmem : readBlocker raw idx ∈ readBlockers (rawBlockers assessment))
    (herrors : listErrors assessment ++ schemaErrors assessment ++
      (readBlockers (rawBlockers assessment)).flatMap
        BoundaryBlocker.validationErrors = []) :
    ∀ check ∈ blockerChecks raw, check.passed = true := by
  have hall := List.flatMap_eq_nil_iff.1 (List.append_eq_nil_iff.1 herrors).2
  exact (blockerValidationErrors_eq_nil_iff raw idx).1 (hall _ hmem)

/-- A blocker of local code that is not declared as harmless to the code writer keeps
every assessment from the release and from the human approval, and the release is
reached exactly with the right schema, no error and no blocker. -/
theorem local_code_never_leaves (context : BoundaryEvaluationContext)
    (assessment : Json) (evaluation : BoundaryEvaluation)
    (hrun : evaluateQualityGateBoundaryAssessmentWithContext context assessment =
      .ok evaluation) :
    ((∃ name ∈ blockerListNames, ∃ raw ∈ rawBlockersUnder assessment name,
        ownerClassOf raw ∈ localCodeOwnerClasses ∧
          boolField raw "is_code_writer_blocking" ≠ some false) →
      evaluation.workflowRouteHint ≠ "next_release_or_closeout_state" ∧
        evaluation.workflowRouteHint ≠ "human_boundary_approval") ∧
    (evaluation.workflowRouteHint = "next_release_or_closeout_state" ↔
      assessment.getStr "schema_version" =
          some "quality_gate_blocker_assessment_v1".toList ∧
        listErrors assessment = [] ∧
        (∀ name ∈ blockerListNames, rawBlockersUnder assessment name = [])) := by
  obtain ⟨-, rfl⟩ := evaluate_eq_ok_iff.1 hrun
  constructor
  · rintro ⟨name, hname, raw, hraw, howner, hflag⟩
    obtain ⟨idx, hidx⟩ := List.get_of_mem (mem_rawBlockers_of_list hname hraw)
    have hmem : readBlocker raw idx ∈ readBlockers (rawBlockers assessment) :=
      mem_readBlockers.2 ⟨idx, idx.isLt, by rw [← hidx]⟩
    have hleaves := assessmentStatus_of_local
      context.serverVerifiedNoProgressSignatures hmem
      fun herrors => stale_or_tail howner hflag (valid_of_no_errors hmem herrors)
    rw [leavesLocalWork_iff, not_or] at hleaves
    exact hleaves
  · have hpass (status : BoundaryStatus) :
        routeHintForStatus status = "next_release_or_closeout_state" ↔
          status = .pass := by
      cases status <;> simp [routeHintForStatus]
    have hschema : schemaErrors assessment = [] ↔ assessment.getStr "schema_version" =
        some "quality_gate_blocker_assessment_v1".toList := by
      unfold schemaErrors
      split <;> simp_all
    have hraw : rawBlockers assessment = [] ↔
        ∀ name ∈ blockerListNames, rawBlockersUnder assessment name = [] :=
      List.flatMap_eq_nil_iff
    simp only [evaluateBlockers, hpass, assessmentStatus_eq_pass_iff,
      readBlockers_eq_nil_iff, List.append_eq_nil_iff, hschema]
    rw [← hraw]
    constructor
    · rintro ⟨⟨⟨hlists, hschema⟩, -⟩, hempty⟩
      exact ⟨hschema, hlists, hempty⟩
    · rintro ⟨hschema, hlists, hempty⟩
      refine ⟨⟨⟨hlists, hschema⟩, ?_⟩, hempty⟩
      rw [hempty]
      rfl

/-! ## A declared exception -/

/-- A complete blocker of an owner and a class, with further members. -/
def sampleBlocker (ownerClass blockerClass : String) (members : List (String × Json)) :
    Json :=
  Json.ofFields
    ([("owner_class", Json.ofString ownerClass),
      ("blocker_class", Json.ofString blockerClass),
      ("release_blocking", .bool true),
      ("allowed_workflow_routes", .array [Json.ofString "human_boundary_approval"]),
      ("forbidden_routes", .array []),
      ("evidence_refs", .array [Json.ofString "artifact"]),
      ("evidence_freshness", Json.ofString "fresh"),
      ("summary", Json.ofString "summary"),
      ("blocker_signature_id", Json.ofString "signature"),
      ("evidence_fingerprint", Json.ofString "fingerprint"),
      ("source_artifact_generation_id", Json.ofString "generation"),
      ("observed_after_stage_execution_id", Json.ofString "stage"),
      ("observed_after_agent_execution_id", Json.ofString "agent"),
      ("severity", Json.ofString "hard"),
      ("gate_command", Json.ofString "gate")] ++ members)

def sampleAssessment (blockers : List Json) : Json :=
  Json.ofFields
    [("schema_version", Json.ofString "quality_gate_blocker_assessment_v1"),
      ("blockers", .array blockers)]

def sampleContext : BoundaryEvaluationContext where
  runId := "run".toList
  stageExecutionId := "stage".toList
  assessmentGenerationId := "assessment".toList
  updatedAt := "now".toList
  serverVerifiedNoProgressSignatures := []

def codeWriterAssessment : Json :=
  sampleAssessment [sampleBlocker "code_writer" "local_code_tail" []]

theorem code_writer_blocker_stays_local :
    ∃ evaluation,
      evaluateQualityGateBoundaryAssessmentWithContext sampleContext
        codeWriterAssessment = .ok evaluation ∧
      evaluation.workflowRouteHint ≠ "next_release_or_closeout_state" ∧
      evaluation.workflowRouteHint ≠ "human_boundary_approval" := by
  have hrun : evaluateQualityGateBoundaryAssessmentWithContext sampleContext
      codeWriterAssessment = .ok _ :=
    evaluate_eq_ok_iff.2 ⟨by decide +kernel, rfl⟩
  refine ⟨_, hrun, (local_code_never_leaves _ _ _ hrun).1 ?_⟩
  refine ⟨"blockers", by decide, sampleBlocker "code_writer" "local_code_tail" [], ?_⟩
  decide +kernel

/-- A fresh blocker of the code writer that is declared not to block it goes to the
human approval, also from the list of local code. -/
theorem declared_harmless_code_goes_to_human :
    let blocker := sampleBlocker "code_writer" "local_code_tail"
      [("is_code_writer_blocking", .bool false)]
    let assessment := (sampleAssessment []).insert "local_code_tail" (.array [blocker])
    blocker ∈ rawBlockersUnder assessment "local_code_tail" ∧
      ownerClassOf blocker ∈ localCodeOwnerClasses ∧
      ∃ evaluation,
        evaluateQualityGateBoundaryAssessmentWithContext sampleContext assessment =
          .ok evaluation ∧
        evaluation.workflowRouteHint = "human_boundary_approval" := by
  intro blocker assessment
  have hcomputed : ownerClassOf blocker ∈ localCodeOwnerClasses ∧
      (∀ raw ∈ rawBlockers assessment, raw.isObject = true) ∧
      ∀ evaluation ∈ (evaluateQualityGateBoundaryAssessmentWithContext sampleContext
        assessment).toOption, evaluation.workflowRouteHint = "human_boundary_approval" := by
    decide +kernel
  obtain ⟨howner, hobjects, hroute⟩ := hcomputed
  have hrun : evaluateQualityGateBoundaryAssessmentWithContext sampleContext assessment =
      .ok _ :=
    evaluate_eq_ok_iff.2 ⟨hobjects, rfl⟩
  refine ⟨?_, howner, _, hrun, hroute _ (by rw [hrun]; rfl)⟩
  rw [rawBlockersUnder, Json.get_insert_self rfl]
  exact List.mem_cons_self

end ChainworksForge.Gate
