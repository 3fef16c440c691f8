import ChainworksForge.Support.Json

/-!
# Classified results of a transition condition

The engine does not evaluate a transition condition to a Boolean.  It answers
with a five-valued class, the artifacts and fields that were consulted or
missing, and an optional diagnostic.  This module gives the record, its two
binary combiners and the order of the failure classes.

On the classes alone the combiners are `andResult` and `orResult`: the more
severe failure wins, and without a failure the Boolean combination decides.
-/

namespace ChainworksForge.Condition

open ChainworksForge.Support

/-- Class of one evaluated transition condition. -/
inductive CandidateTransitionResult where
  | matched
  | notMatched
  | missingInput
  | invalidExpression
  | evaluationError
deriving DecidableEq, Repr

namespace CandidateTransitionResult

/-- The condition was evaluated to a truth value. -/
def isTwoValued : CandidateTransitionResult → Bool
  | matched => true
  | notMatched => true
  | _ => false

end CandidateTransitionResult

open CandidateTransitionResult

/-- Result of evaluating a condition, with the evidence it consulted. -/
structure ClassifiedConditionEvaluation where
  result : CandidateTransitionResult
  requiredArtifacts : List Text
  missingArtifacts : List Text
  missingFields : List Text
  sourceArtifactIds : List Text
  sanitizedDiagnostic : Option Text
deriving DecidableEq, Repr

/-- Append a value unless it is already listed. -/
def pushUnique (values : List Text) (value : Text) : List Text :=
  if value ∈ values then values else values ++ [value]

namespace ClassifiedConditionEvaluation

/-- An evaluation without any consulted artifact. -/
def new
    (result : CandidateTransitionResult)
    (sanitizedDiagnostic : Option Text) :
    ClassifiedConditionEvaluation where
  result := result
  requiredArtifacts := []
  missingArtifacts := []
  missingFields := []
  sourceArtifactIds := []
  sanitizedDiagnostic := sanitizedDiagnostic

/-- The condition holds. -/
def matched : ClassifiedConditionEvaluation :=
  new .matched none

/-- The condition is evaluated and does not hold. -/
def notMatched : ClassifiedConditionEvaluation :=
  new .notMatched none

/-- The truth value of a decided comparison. -/
def ofBool (b : Bool) : ClassifiedConditionEvaluation :=
  if b then matched else notMatched

/-- An input of the condition is not available. -/
def missingInput (diagnostic : Text) : ClassifiedConditionEvaluation :=
  new .missingInput (some diagnostic)

/-- The condition is not an expression of the supported language. -/
def invalidExpression (diagnostic : Text) : ClassifiedConditionEvaluation :=
  new .invalidExpression (some diagnostic)

/-- Record an artifact that the condition depends on. -/
def withRequiredArtifact
    (e : ClassifiedConditionEvaluation) (artifactName : Text) :
    ClassifiedConditionEvaluation :=
  { e with requiredArtifacts := pushUnique e.requiredArtifacts artifactName }

/-- Record an artifact that is absent. -/
def withMissingArtifact
    (e : ClassifiedConditionEvaluation) (artifactName : Text) :
    ClassifiedConditionEvaluation :=
  { e with missingArtifacts := pushUnique e.missingArtifacts artifactName }

/-- Record a field that is absent. -/
def withMissingField
    (e : ClassifiedConditionEvaluation) (fieldRef : Text) :
    ClassifiedConditionEvaluation :=
  { e with missingFields := pushUnique e.missingFields fieldRef }

/-- Record an artifact that supplied a value. -/
def withSourceArtifact
    (e : ClassifiedConditionEvaluation) (artifactName : Text) :
    ClassifiedConditionEvaluation :=
  { e with sourceArtifactIds := pushUnique e.sourceArtifactIds artifactName }

end ClassifiedConditionEvaluation

open ClassifiedConditionEvaluation

/-- The most severe failure class among some evaluations, if any failed. -/
def dominantResultForAll
    (evaluations : List ClassifiedConditionEvaluation) :
    Option CandidateTransitionResult :=
  [CandidateTransitionResult.evaluationError, .invalidExpression,
    .missingInput].find? fun result =>
      evaluations.any fun evaluation => evaluation.result = result

/-- Merge the evidence of two evaluations under a given class. -/
def combineWithResult
    (result : CandidateTransitionResult)
    (left right : ClassifiedConditionEvaluation) :
    ClassifiedConditionEvaluation where
  result := result
  requiredArtifacts :=
    (left.requiredArtifacts ++ right.requiredArtifacts).foldl pushUnique []
  missingArtifacts :=
    (left.missingArtifacts ++ right.missingArtifacts).foldl pushUnique []
  missingFields :=
    (left.missingFields ++ right.missingFields).foldl pushUnique []
  sourceArtifactIds :=
    (left.sourceArtifactIds ++ right.sourceArtifactIds).foldl pushUnique []
  sanitizedDiagnostic :=
    left.sanitizedDiagnostic.or right.sanitizedDiagnostic

/-- Conjunction of two evaluations. -/
def combineAnd
    (left right : ClassifiedConditionEvaluation) :
    ClassifiedConditionEvaluation :=
  let result := (dominantResultForAll [left, right]).getD
    (if left.result = .matched ∧ right.result = .matched then .matched
      else .notMatched)
  combineWithResult result left right

/-- Disjunction of two evaluations. -/
def combineOr
    (left right : ClassifiedConditionEvaluation) :
    ClassifiedConditionEvaluation :=
  let result := (dominantResultForAll [left, right]).getD
    (if left.result = .matched ∨ right.result = .matched then .matched
      else .notMatched)
  combineWithResult result left right

/-! ## Failure classes -/

/-- Severity of a class; the two truth values have none. -/
def severity : CandidateTransitionResult → Nat
  | .matched => 0
  | .notMatched => 0
  | .missingInput => 1
  | .invalidExpression => 2
  | .evaluationError => 3

theorem severity_eq_zero_iff
    {r : CandidateTransitionResult} :
    severity r = 0 ↔ r.isTwoValued = true := by
  cases r <;> simp [severity, CandidateTransitionResult.isTwoValued]

/-- Among failures, the severity determines the class. -/
theorem eq_of_severity_eq
    {r s : CandidateTransitionResult}
    (h : severity r = severity s) (hr : severity r ≠ 0) :
    r = s := by
  cases r <;> cases s <;> simp_all [severity]

/-- Class of a conjunction, as a function of the classes of its operands. -/
def andResult (l r : CandidateTransitionResult) : CandidateTransitionResult :=
  if severity l < severity r then r
  else if 0 < severity l then l
  else if l = .matched then r
  else l

/-- Class of a disjunction, as a function of the classes of its operands. -/
def orResult (l r : CandidateTransitionResult) : CandidateTransitionResult :=
  if severity l < severity r then r
  else if 0 < severity l then l
  else if l = .matched then l
  else r

theorem combineAnd_result
    (left right : ClassifiedConditionEvaluation) :
    (combineAnd left right).result = andResult left.result right.result := by
  obtain ⟨l⟩ := left
  obtain ⟨r⟩ := right
  cases l <;> cases r <;> rfl

theorem combineOr_result
    (left right : ClassifiedConditionEvaluation) :
    (combineOr left right).result = orResult left.result right.result := by
  obtain ⟨l⟩ := left
  obtain ⟨r⟩ := right
  cases l <;> cases r <;> rfl

theorem severity_andResult
    (l r : CandidateTransitionResult) :
    severity (andResult l r) = max (severity l) (severity r) := by
  cases l <;> cases r <;> rfl

theorem severity_orResult
    (l r : CandidateTransitionResult) :
    severity (orResult l r) = max (severity l) (severity r) := by
  cases l <;> cases r <;> rfl

theorem andResult_matched_iff
    (l r : CandidateTransitionResult) :
    andResult l r = .matched ↔ l = .matched ∧ r = .matched := by
  cases l <;> cases r <;> decide

/-- A disjunction holds when both sides were evaluated and one of them holds. -/
theorem orResult_matched_iff
    (l r : CandidateTransitionResult) :
    orResult l r = .matched ↔
      (l.isTwoValued = true ∧ r.isTwoValued = true) ∧
        (l = .matched ∨ r = .matched) := by
  cases l <;> cases r <;> decide

theorem andResult_isTwoValued
    (l r : CandidateTransitionResult) :
    (andResult l r).isTwoValued = true ↔
      l.isTwoValued = true ∧ r.isTwoValued = true := by
  cases l <;> cases r <;> decide

theorem orResult_isTwoValued
    (l r : CandidateTransitionResult) :
    (orResult l r).isTwoValued = true ↔
      l.isTwoValued = true ∧ r.isTwoValued = true := by
  cases l <;> cases r <;> decide

/-- The class of a conjunction does not depend on the order of its operands. -/
theorem andResult_comm
    (l r : CandidateTransitionResult) :
    andResult l r = andResult r l := by
  cases l <;> cases r <;> rfl

/-- The class of a disjunction does not depend on the order of its operands. -/
theorem orResult_comm
    (l r : CandidateTransitionResult) :
    orResult l r = orResult r l := by
  cases l <;> cases r <;> rfl

end ChainworksForge.Condition
