import ChainworksForge.Gate.Evaluation

/-!
# What the evaluation reads of a blocker

The position of a blocker shows in the texts of its errors and in the names that
stand for missing identifiers, and nowhere else.
-/

namespace ChainworksForge.Gate

open ChainworksForge.Support

/-- The blockers that a list of objects is read as. -/
def readBlockers (raw : List Json) : List BoundaryBlocker :=
  raw.zipIdx.map fun entry => readBlocker entry.1 entry.2

theorem mapM_parseBlocker_eq_ok_iff {entries : List (Json × ℕ)}
    {blockers : List BoundaryBlocker} :
    entries.mapM (fun entry => parseBlocker entry.1 entry.2) = .ok blockers ↔
      (∀ entry ∈ entries, entry.1.isObject = true) ∧
        blockers = entries.map fun entry => readBlocker entry.1 entry.2 := by
  rw [mapM_eq_ok_iff]
  constructor
  · intro hforall
    induction hforall with
    | nil => simp
    | cons hhead _ ih =>
        unfold parseBlocker at hhead
        split at hhead
        · obtain rfl := Except.ok.inj hhead
          obtain ⟨hobjects, rfl⟩ := ih
          refine ⟨List.forall_mem_cons.2 ⟨by assumption, hobjects⟩, rfl⟩
        · cases hhead
  · rintro ⟨hobjects, rfl⟩
    rw [List.forall₂_map_right_iff, List.forall₂_same]
    intro entry hentry
    exact if_pos (hobjects entry hentry)

/-- An evaluation succeeds exactly if every blocker is an object. -/
theorem evaluate_eq_ok_iff {context : BoundaryEvaluationContext} {assessment : Json}
    {evaluation : BoundaryEvaluation} :
    evaluateQualityGateBoundaryAssessmentWithContext context assessment =
        .ok evaluation ↔
      (∀ raw ∈ rawBlockers assessment, raw.isObject = true) ∧
        evaluation = evaluateBlockers context
          (listErrors assessment ++ schemaErrors assessment ++
            (readBlockers (rawBlockers assessment)).flatMap
              BoundaryBlocker.validationErrors)
          (readBlockers (rawBlockers assessment)) := by
  have hobjects : (∀ entry ∈ (rawBlockers assessment).zipIdx,
      entry.1.isObject = true) ↔
        ∀ raw ∈ rawBlockers assessment, raw.isObject = true := by
    constructor
    · intro h raw hraw
      obtain ⟨i, hi, rfl⟩ := List.getElem_of_mem hraw
      exact h _ (List.mk_mem_zipIdx_iff_getElem?.2 (List.getElem?_eq_getElem hi))
    · intro h entry hentry
      exact h _ (List.fst_mem_of_mem_zipIdx hentry)
  simp only [evaluateQualityGateBoundaryAssessmentWithContext, parseBlockers,
    bind_eq_ok_iff, pure_eq_ok_iff, mapM_parseBlocker_eq_ok_iff, hobjects,
    Prod.exists, Prod.mk.injEq]
  constructor
  · rintro ⟨_, _, ⟨_, ⟨hall, rfl⟩, rfl, rfl⟩, rfl⟩
    exact ⟨hall, rfl⟩
  · rintro ⟨hall, rfl⟩
    exact ⟨_, _, ⟨_, ⟨hall, rfl⟩, rfl, rfl⟩, rfl⟩

/-- What does not depend on the position of a blocker. -/
def Positionless {γ : Type} (f : BoundaryBlocker → γ) : Prop :=
  ∀ raw idx, f (readBlocker raw idx) = f (readBlocker raw 0)

theorem positionless_hasClass (names : List String) :
    Positionless fun blocker => hasClass blocker names := by
  intro raw idx
  rw [Bool.eq_iff_iff]
  simp only [hasClass, Bool.or_eq_true, decide_eq_true_eq]
  exact Iff.rfl

theorem positionless_isInvalidClaim : Positionless isInvalidClaim :=
  positionless_hasClass _

theorem positionless_lowerLayerStatusForBlocker :
    Positionless lowerLayerStatusForBlocker := by
  intro raw idx
  have hclass (names : List String) := positionless_hasClass names raw idx
  simp only [lowerLayerStatusForBlocker, hclass]

theorem positionless_hasAgedEvidence : Positionless hasAgedEvidence := by
  intro raw idx
  rw [Bool.eq_iff_iff]
  simp only [hasAgedEvidence, decide_eq_true_eq]
  exact Iff.rfl

theorem positionless_isStaleReview : Positionless isStaleReview := by
  intro raw idx
  rw [Bool.eq_iff_iff]
  simp only [isStaleReview, positionless_hasAgedEvidence raw idx, Bool.or_eq_true,
    decide_eq_true_eq]
  exact Iff.rfl

theorem positionless_isLocalCodeTail : Positionless isLocalCodeTail := by
  intro raw idx
  rw [Bool.eq_iff_iff]
  simp only [isLocalCodeTail, Bool.and_eq_true, decide_eq_true_eq]
  exact Iff.rfl

theorem positionless_isReviewOwned : Positionless isReviewOwned := by
  intro raw idx
  rw [Bool.eq_iff_iff]
  simp only [isReviewOwned, decide_eq_true_eq]
  exact Iff.rfl

theorem positionless_isFollowupProposal : Positionless isFollowupProposal := by
  intro raw idx
  rw [Bool.eq_iff_iff]
  simp only [isFollowupProposal, decide_eq_true_eq]
  exact Iff.rfl

theorem positionless_isExternal : Positionless isExternal := by
  intro raw idx
  rw [Bool.eq_iff_iff]
  simp only [isExternal, decide_eq_true_eq]
  exact Iff.rfl

theorem positionless_isReleaseBlockingExternal :
    Positionless isReleaseBlockingExternal := by
  intro raw idx
  simp only [isReleaseBlockingExternal, positionless_isExternal raw idx]
  rfl

/-- What does not depend on the position can be read at any. -/
theorem map_readBlockers {γ : Type} {f : BoundaryBlocker → γ} (hf : Positionless f)
    (raw : List Json) :
    (readBlockers raw).map f = raw.map fun blocker => f (readBlocker blocker 0) := by
  have hfst : raw.zipIdx.map Prod.fst = raw := List.zipIdx_map_fst 0 raw
  conv_rhs => rw [← hfst]
  simp only [readBlockers, List.map_map]
  exact List.map_congr_left fun entry _ => hf entry.1 entry.2

/-- A blocker without errors passes every check. -/
theorem blockerValidationErrors_eq_nil_iff (raw : Json) (idx : ℕ) :
    blockerValidationErrors raw idx = [] ↔
      ∀ check ∈ blockerChecks raw, check.passed = true := by
  simp [blockerValidationErrors, List.filter_eq_nil_iff]

/-- A blocker without errors has a known freshness. -/
theorem freshness_mem_of_valid {raw : Json}
    (hvalid : ∀ check ∈ blockerChecks raw, check.passed = true) :
    evidenceFreshnessOf raw ∈ evidenceFreshnessValues := by
  have hpassed := hvalid
    (.known "evidence_freshness" evidenceFreshnessValues (evidenceFreshnessOf raw))
    (by simp only [blockerChecks, List.mem_cons, true_or, or_true])
  simpa [FieldCheck.known] using hpassed

/-- A blocker without errors carries its signature. -/
theorem signature_isSome_of_valid {raw : Json}
    (hvalid : ∀ check ∈ blockerChecks raw, check.passed = true) :
    (raw.getStr "blocker_signature_id").isSome = true :=
  hvalid (.required "blocker_signature_id" (raw.getStr "blocker_signature_id"))
    (by simp only [blockerChecks, List.mem_cons, true_or, or_true])

theorem mem_readBlockers {raw : List Json} {blocker : BoundaryBlocker} :
    blocker ∈ readBlockers raw ↔ ∃ idx, ∃ h : idx < raw.length,
      readBlocker (raw.get ⟨idx, h⟩) idx = blocker := by
  simp only [readBlockers, List.mem_map, Prod.exists, List.mk_mem_zipIdx_iff_getElem?]
  constructor
  · rintro ⟨value, idx, hvalue, rfl⟩
    obtain ⟨hidx, rfl⟩ := List.getElem?_eq_some_iff.1 hvalue
    exact ⟨idx, hidx, rfl⟩
  · rintro ⟨idx, hidx, rfl⟩
    exact ⟨_, idx, List.getElem?_eq_getElem hidx, rfl⟩

end ChainworksForge.Gate
