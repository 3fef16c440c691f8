import ChainworksForge.Support.Ranking
import ChainworksForge.Workflow.Plan
import Mathlib.Data.Prod.Lex
import Mathlib.Data.String.Basic

/-!
# Scores of the candidate reviewers

Every candidate binding is scored against the fingerprint of a proposal.  A
second pass subtracts a penalty for evidence that a higher ranked candidate
covers already.  Scores are signed machine integers of 64 bits.

The digest of evidence texts is a parameter.
-/

namespace ChainworksForge.Routing

open ChainworksForge.Support ChainworksForge.Workflow

/-- The result of 64 bit arithmetic that wraps around. -/
def wrap64 (n : ℤ) : ℤ := n.bmod (2 ^ 64)

/-- Evidence that supports a routing decision. -/
structure RoutingEvidenceRef where
  evidenceId : String
  evidenceType : String
  hash : String
  normalizedValue : Option String := none
  path : Option String := none
  symbol : Option String := none
  span : Option String := none
deriving DecidableEq

/-- Evidence extracted from a proposal. -/
structure ProposalFingerprint where
  proposalMd5 : String := ""
  stackTags : List String := []
  surfaces : List String := []
  risks : List String := []
  strongKeywords : List String := []
  repoSignals : List String := []
  crossStackDependencies : List String := []
  baselineGaps : List String := []
  evidenceRefs : List RoutingEvidenceRef := []

/-- Routing mode of a proposal review. -/
inductive ReviewRoutingMode where
  | dynamic
  | legacyFixed
  | shadowDynamic
deriving DecidableEq

/-- Overrides that are frozen at the start of a run. -/
structure ReviewRoutingOptions where
  mode : ReviewRoutingMode := .dynamic
  forceInclude : List String := []
  forceExclude : List String := []
  overrideReason : Option String := none
  operatorId : Option String := none
  createdAt : Option Nat := none

/-- Score breakdown of a candidate. -/
structure ScoreTerms where
  forceInclude : ℤ := 0
  stackMatches : ℤ := 0
  surfaceMatches : ℤ := 0
  riskMatches : ℤ := 0
  strongKeywordMatches : ℤ := 0
  repoSignalMatches : ℤ := 0
  crossStackDependencyMatches : ℤ := 0
  baselineGapMatches : ℤ := 0
  overlapPenalty : ℤ := 0
deriving DecidableEq

/-- The weighted sum of the terms.  Wrapping once is wrapping after every
operation. -/
def ScoreTerms.totalWithWeights
    (terms : ScoreTerms) (weights : ScoreWeights) : ℤ :=
  wrap64
    (terms.forceInclude * weights.forceInclude
      + terms.stackMatches * weights.stackMatches
      + terms.surfaceMatches * weights.surfaceMatches
      + terms.riskMatches * weights.riskMatches
      + terms.strongKeywordMatches * weights.strongKeywordMatches
      + terms.repoSignalMatches * weights.repoSignalMatches
      + terms.crossStackDependencyMatches * weights.crossStackDependencyMatches
      + terms.baselineGapMatches * weights.baselineGapMatches
      - terms.overlapPenalty * weights.overlapPenalty)

/-- A candidate with its score. -/
structure ScoredCandidate where
  agentId : String
  routingId : String
  bindingId : String
  mandatory : Bool
  overrideSource : Option String
  terms : ScoreTerms
  weights : ScoreWeights
  rationale : String
  evidenceRefs : List RoutingEvidenceRef
deriving DecidableEq

namespace ScoredCandidate

def totalScore (c : ScoredCandidate) : ℤ :=
  c.terms.totalWithWeights c.weights

/-- The score without the overlap penalty. -/
def thresholdScore (c : ScoredCandidate) : ℤ :=
  { c.terms with overlapPenalty := 0 }.totalWithWeights c.weights

/-- Higher scores come first, ties are broken by the agent's identifier. -/
def rank (c : ScoredCandidate) : ℤᵒᵈ ×ₗ String :=
  toLex (OrderDual.toDual c.totalScore, c.agentId)

/-- Mandatory candidates come before the others. -/
def finalRank (c : ScoredCandidate) : Boolᵒᵈ ×ₗ ℤᵒᵈ ×ₗ String :=
  toLex (OrderDual.toDual c.mandatory, c.rank)

theorem agentId_eq_of_rank_eq
    {a b : ScoredCandidate} (h : a.rank = b.rank) : a.agentId = b.agentId :=
  congrArg (fun r => (ofLex r).2) h

theorem agentId_eq_of_finalRank_eq
    {a b : ScoredCandidate} (h : a.finalRank = b.finalRank) :
    a.agentId = b.agentId :=
  agentId_eq_of_rank_eq (congrArg (fun r => (ofLex r).2) h)

/-- A rank says which score is higher and how a tie is broken. -/
theorem rank_le_iff (a b : ScoredCandidate) :
    a.rank ≤ b.rank ↔
      b.totalScore < a.totalScore ∨
        a.totalScore = b.totalScore ∧ a.agentId ≤ b.agentId := by
  simp [rank, Prod.Lex.toLex_le_toLex]

end ScoredCandidate

section Score

variable (hashString : String → String)
  (fingerprint : ProposalFingerprint) (options : ReviewRoutingOptions)

/-- Evidence for one matched tag. -/
def matchEvidence (label kind tag : String) : RoutingEvidenceRef where
  evidenceId := label ++ ":" ++ tag
  evidenceType := kind
  hash := hashString tag
  normalizedValue := some tag

/-- Evidence for the tags of a list that match. -/
def matchEvidences
    (label kind : String) (tags : List String) (isMatch : String → Bool) :
    List RoutingEvidenceRef :=
  (tags.filter isMatch).map (matchEvidence hashString label kind)

/-- The tags that are looked up among the strong keywords. -/
def keywordTags (metadata : RoutingMetadata) : List String :=
  if metadata.strongProposalKeywords.isEmpty then metadata.capabilities
  else metadata.strongProposalKeywords

/-- Whether a repository signal names the agent's files or symbols, or its stacks
and surfaces when it declares neither. -/
def repoSignalMatches (metadata : RoutingMetadata) (signal : String) : Bool :=
  let tags := metadata.strongRepoFiles ++ metadata.strongRepoSymbols
  tags.contains signal ||
    (tags.isEmpty &&
      (metadata.stackTags.contains signal || metadata.surfaces.contains signal))

/-- Whether a baseline gap is one that the agent covers. -/
def baselineGapMatches (metadata : RoutingMetadata) (gap : String) : Bool :=
  metadata.capabilities.contains gap || metadata.risks.contains gap

/-- Whether a rule of the agent makes it mandatory. -/
def isMandatory (metadata : RoutingMetadata) : Bool :=
  metadata.mandatoryWhen.any fun rule =>
    fingerprint.risks.contains rule || fingerprint.stackTags.contains rule ||
      fingerprint.surfaces.contains rule

/-- The terms of a candidate before the overlap penalty. -/
def scoreTerms (binding : CompiledDynamicAgentBinding) : ScoreTerms :=
  let metadata := binding.routingMetadata
  { forceInclude :=
      if options.forceInclude.contains binding.agentId then 1 else 0
    stackMatches :=
      (metadata.stackTags.filter fingerprint.stackTags.contains).length
    surfaceMatches :=
      (metadata.surfaces.filter fingerprint.surfaces.contains).length
    riskMatches := (metadata.risks.filter fingerprint.risks.contains).length
    strongKeywordMatches :=
      ((keywordTags metadata).filter fingerprint.strongKeywords.contains).length
    repoSignalMatches :=
      (fingerprint.repoSignals.filter (repoSignalMatches metadata)).length
    crossStackDependencyMatches :=
      (fingerprint.crossStackDependencies.filter
        metadata.stackTags.contains).length
    baselineGapMatches :=
      (fingerprint.baselineGaps.filter (baselineGapMatches metadata)).length }

/-- The parts of the rationale that a list of terms gives. -/
def rationaleParts (terms : ScoreTerms) : List String :=
  let parts :=
    (if 0 < terms.forceInclude then ["force_include override"] else []) ++
    (if 0 < terms.stackMatches then
      [toString terms.stackMatches ++ " stack match(es)"] else []) ++
    (if 0 < terms.surfaceMatches then
      [toString terms.surfaceMatches ++ " surface match(es)"] else []) ++
    (if 0 < terms.riskMatches then
      [toString terms.riskMatches ++ " risk match(es)"] else [])
  if parts.isEmpty then ["no direct matches"] else parts

/-- The evidence for the matches of a candidate. -/
def candidateEvidence (metadata : RoutingMetadata) : List RoutingEvidenceRef :=
  matchEvidences hashString "stack" "stack_match" metadata.stackTags
      fingerprint.stackTags.contains ++
    matchEvidences hashString "surface" "surface_match" metadata.surfaces
      fingerprint.surfaces.contains ++
    matchEvidences hashString "risk" "risk_match" metadata.risks
      fingerprint.risks.contains ++
    matchEvidences hashString "keyword" "strong_keyword_match"
      (keywordTags metadata) fingerprint.strongKeywords.contains ++
    matchEvidences hashString "repo" "repo_signal_match"
      fingerprint.repoSignals (repoSignalMatches metadata) ++
    matchEvidences hashString "cross_stack" "cross_stack_dependency_match"
      fingerprint.crossStackDependencies metadata.stackTags.contains ++
    matchEvidences hashString "baseline_gap" "baseline_gap_match"
      fingerprint.baselineGaps (baselineGapMatches metadata)

/-- Score one binding against the fingerprint. -/
def scoreCandidate (binding : CompiledDynamicAgentBinding) : ScoredCandidate :=
  let metadata := binding.routingMetadata
  let terms := scoreTerms fingerprint options binding
  { agentId := binding.agentId
    routingId := metadata.routingId
    bindingId := binding.bindingId
    mandatory := isMandatory fingerprint metadata
    overrideSource :=
      if options.forceInclude.contains binding.agentId then
        some "force_include"
      else none
    terms := terms
    weights := metadata.scoreWeights
    rationale := "; ".intercalate (rationaleParts terms)
    evidenceRefs := candidateEvidence hashString fingerprint metadata }

end Score

/-! ## Overlap penalties -/

/-- The evidence of some candidates that can be covered. -/
def coveredEvidence (earlier : List ScoredCandidate) : List String :=
  earlier.flatMap fun c =>
    (c.evidenceRefs.filter fun evidence =>
      evidence.evidenceType == "stack_match" ||
        evidence.evidenceType == "surface_match" ||
        evidence.evidenceType == "risk_match").map (·.evidenceId)

/-- A candidate with the penalty for what earlier candidates cover. -/
def penalize
    (earlier : List ScoredCandidate) (c : ScoredCandidate) : ScoredCandidate :=
  let overlap : ℤ :=
    (c.evidenceRefs.filter fun evidence =>
      (coveredEvidence earlier).contains evidence.evidenceId).length
  { c with
    terms := { c.terms with overlapPenalty := overlap }
    rationale :=
      if 0 < overlap then
        c.rationale ++ "; " ++ toString overlap ++ " overlap penalty term(s)"
      else c.rationale }

/-- Penalize every candidate for the evidence of the candidates that rank before
it.  The order is that of the scores without penalties. -/
def applyOverlapPenalties (scored : List ScoredCandidate) :
    List ScoredCandidate :=
  let order := sortByRank (fun entry => entry.1.rank) scored.zipIdx
  scored.zipIdx.map fun entry =>
    penalize ((order.takeWhile fun other => other.2 ≠ entry.2).map (·.1))
      entry.1

section Penalty

variable (earlier : List ScoredCandidate) (c : ScoredCandidate)

@[simp]
theorem penalize_agentId : (penalize earlier c).agentId = c.agentId := rfl

@[simp]
theorem penalize_mandatory : (penalize earlier c).mandatory = c.mandatory := rfl

@[simp]
theorem penalize_overrideSource :
    (penalize earlier c).overrideSource = c.overrideSource := rfl

@[simp]
theorem penalize_thresholdScore :
    (penalize earlier c).thresholdScore = c.thresholdScore := rfl

end Penalty

/-- The candidates that rank before a candidate. -/
def rankedBefore (scored : List ScoredCandidate) (c : ScoredCandidate) :
    List ScoredCandidate :=
  (sortByRank ScoredCandidate.rank scored).takeWhile fun other =>
    other.agentId ≠ c.agentId

/-- Positions can be exchanged for identifiers when these are distinct. -/
theorem index_eq_iff_agentId_eq
    {scored : List ScoredCandidate} (hnodup : (scored.map (·.agentId)).Nodup)
    {c d : ScoredCandidate} {i j : ℕ}
    (hc : (c, i) ∈ scored.zipIdx) (hd : (d, j) ∈ scored.zipIdx) :
    i = j ↔ c.agentId = d.agentId := by
  have hi := List.mem_zipIdx_iff_getElem?.1 hc
  have hj := List.mem_zipIdx_iff_getElem?.1 hd
  simp only at hi hj
  constructor
  · intro hij
    rw [hij, hj] at hi
    rw [Option.some.inj hi]
  · intro hid
    have hilt : i < (scored.map (·.agentId)).length := by
      rw [List.length_map]
      exact (List.getElem?_eq_some_iff.1 hi).1
    apply (List.getElem?_inj hilt hnodup).1
    rw [List.getElem?_map, List.getElem?_map, hi, hj, Option.map_some,
      Option.map_some, hid]

/-- With distinct identifiers a penalty depends on the ranked candidates alone. -/
theorem applyOverlapPenalties_eq
    {scored : List ScoredCandidate}
    (hnodup : (scored.map (·.agentId)).Nodup) :
    applyOverlapPenalties scored =
      scored.map fun c => penalize (rankedBefore scored c) c := by
  have hfst : scored.zipIdx.map (·.1) = scored := by simp
  have hmapped : scored.map (fun c => penalize (rankedBefore scored c) c) =
      scored.zipIdx.map fun entry =>
        penalize (rankedBefore scored entry.1) entry.1 := by
    conv_lhs => rw [← hfst, List.map_map, hfst]
    rfl
  rw [applyOverlapPenalties, hmapped]
  apply List.map_congr_left
  rintro ⟨c, i⟩ hc
  congr 1
  have hsorted : sortByRank ScoredCandidate.rank scored =
      (sortByRank (fun entry : ScoredCandidate × ℕ => entry.1.rank)
        scored.zipIdx).map (·.1) := by
    rw [map_sortByRank, hfst]
  rw [rankedBefore, hsorted, List.takeWhile_map]
  congr 1
  apply takeWhile_congr
  rintro ⟨d, j⟩ hd
  have heq := index_eq_iff_agentId_eq hnodup ((mem_sortByRank _).1 hd) hc
  simpa using heq

end ChainworksForge.Routing
