import ChainworksForge.Support.Json

/-!
# Contradictions in a proposal review summary

A proposal review summary states a verdict several times: as `pass`, as a count
and lists of blockers, and as a decision in words.  Before a transition that
reads the summary is taken, the engine checks that these agree.
-/

namespace ChainworksForge.Engine

open ChainworksForge.Support

/-- The statements of a summary that decide a transition. -/
structure ProposalReviewSummaryTransitionTruth where
  contractId : Text
  pass : Option Bool
  blockerCount : Option Nat
  hasBlockingIssues : Bool
  hasRequiredChanges : Bool
  decision : Option Text
deriving DecidableEq, Repr

namespace ProposalReviewSummaryTransitionTruth

/-- Some statement of the summary names a blocker. -/
def hasBlockingEvidence (truth : ProposalReviewSummaryTransitionTruth) : Bool :=
  (truth.blockerCount.any fun count => 0 < count) ||
    truth.hasBlockingIssues || truth.hasRequiredChanges

end ProposalReviewSummaryTransitionTruth

/-- Contract of the second format of a summary. -/
def proposalReviewSummaryV2ContractId : Text :=
  "proposal_review_summary_v2".toList

def looksLikeProposalReviewSummaryV2 (rawJson : Json) : Bool :=
  (rawJson.get "blocking_required_changes".toList).isSome ||
    (rawJson.get "advisory_follow_ups".toList).isSome

/-- A value that lists something. -/
def jsonValueHasEntries : Option Json → Bool
  | some (.array items) => !items.isEmpty
  | some (.object fields) => !fields.isEmpty
  | some (.string value) => Text.trim value ≠ []
  | some (.bool b) => b
  | some (.number n) => n.asU64.any fun count => 0 < count
  | _ => false

/-- An empty list or an empty object. -/
def jsonValueIsEmptyCollection : Json → Bool
  | .array items => items.isEmpty
  | .object fields => fields.isEmpty
  | _ => false

/-- Read the statements of a summary in either format. -/
def proposalReviewSummaryTransitionTruth
    (rawJson : Json) : ProposalReviewSummaryTransitionTruth :=
  let isV2 := looksLikeProposalReviewSummaryV2 rawJson
  { contractId :=
      if isV2 then proposalReviewSummaryV2ContractId
      else "proposal_review_summary_v1".toList
    pass := (rawJson.get "pass".toList).bind Json.asBool
    blockerCount := (rawJson.get "blocker_count".toList).bind Json.asU64
    hasBlockingIssues :=
      jsonValueHasEntries (rawJson.get "blocking_issues".toList)
    hasRequiredChanges :=
      jsonValueHasEntries (rawJson.get
        (if isV2 then "blocking_required_changes".toList
          else "required_changes".toList))
    decision := (rawJson.get "decision".toList).bind Json.asStr }

/-- A text contains another one. -/
def containsText (t u : String) (text : Text) : Bool :=
  (Text.splitFirst t.toList text).isSome ||
    (Text.splitFirst u.toList text).isSome

/-- The contradiction in a summary, if its statements disagree. -/
def proposalReviewSummaryTransitionTruthConflict
    (rawJson : Json) : Option Text :=
  let truth := proposalReviewSummaryTransitionTruth rawJson
  let explicitlyNoBlockingIssues :=
    (rawJson.get "blocking_issues".toList).any jsonValueIsEmptyCollection
  let explicitlyNoRequiredChanges :=
    (rawJson.get
      (if truth.contractId = proposalReviewSummaryV2ContractId then
        "blocking_required_changes".toList
      else "required_changes".toList)).any jsonValueIsEmptyCollection
  let decision := (truth.decision.getD []).map Text.asciiLower
  let decisionPasses := containsText "pass" "approve" decision
  let decisionBlocks :=
    containsText "fail" "block" decision ||
      containsText "revise" "changes_required" decision
  if truth.pass = some true ∧ truth.hasBlockingEvidence then
    some (truth.contractId ++
      " has pass=true while blocker evidence is non-empty".toList)
  else if truth.pass = some false ∧ truth.blockerCount = some 0 ∧
      explicitlyNoBlockingIssues ∧ explicitlyNoRequiredChanges then
    some (truth.contractId ++
      " has pass=false while blocker evidence is explicitly empty".toList)
  else if decisionPasses ∧
      (truth.pass = some false ∨ truth.hasBlockingEvidence) then
    some (truth.contractId ++
      " decision indicates pass while authoritative fields block".toList)
  else if decisionBlocks ∧ truth.pass = some true ∧
      ¬truth.hasBlockingEvidence then
    some (truth.contractId ++
      " decision indicates blocking while authoritative fields pass".toList)
  else none

end ChainworksForge.Engine
