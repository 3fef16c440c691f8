import ChainworksForge.Condition.Runtime

/-!
# The expression tree behind a condition

The evaluator's splitting determines a binary tree of connectives over atoms,
and that tree depends on the text alone.  Evaluation is a fold of the tree with
`andResult` and `orResult`.  Two facts about the fold carry the fail-closed
reading of a condition:

* it is `matched` exactly when every leaf was evaluated and the Boolean
  combination of the leaves is true;
* a failure has the severity of the worst leaf, whatever the shape of the tree
  and the order of the operands.
-/

namespace ChainworksForge.Condition

open ChainworksForge.Support

/-- Connectives over atoms. -/
inductive ConditionTree where
  | leaf (trimmed : Text)
  | conj (left right : ConditionTree)
  | disj (left right : ConditionTree)
deriving DecidableEq, Repr

namespace ConditionTree

/-- Atoms of a tree, from left to right. -/
def leaves : ConditionTree → List Text
  | leaf trimmed => [trimmed]
  | conj left right => left.leaves ++ right.leaves
  | disj left right => left.leaves ++ right.leaves

/-- Boolean value of a tree under a truth assignment to its atoms. -/
def Holds (truth : Text → Prop) : ConditionTree → Prop
  | leaf trimmed => truth trimmed
  | conj left right => left.Holds truth ∧ right.Holds truth
  | disj left right => left.Holds truth ∨ right.Holds truth

/-- Class of a tree under an assignment of classes to its atoms. -/
def fold
    (classOf : Text → CandidateTransitionResult) :
    ConditionTree → CandidateTransitionResult
  | leaf trimmed => classOf trimmed
  | conj left right => andResult (left.fold classOf) (right.fold classOf)
  | disj left right => orResult (left.fold classOf) (right.fold classOf)

theorem fold_isTwoValued
    (classOf : Text → CandidateTransitionResult) (tree : ConditionTree) :
    (tree.fold classOf).isTwoValued = true ↔
      ∀ t ∈ tree.leaves, (classOf t).isTwoValued = true := by
  induction tree with
  | leaf trimmed => simp [fold, leaves]
  | conj left right ihl ihr =>
      rw [fold, andResult_isTwoValued, ihl, ihr, leaves, List.forall_mem_append]
  | disj left right ihl ihr =>
      rw [fold, orResult_isTwoValued, ihl, ihr, leaves, List.forall_mem_append]

/-- A tree is matched when all leaves were evaluated and it holds. -/
theorem fold_matched_iff
    (classOf : Text → CandidateTransitionResult) (tree : ConditionTree) :
    tree.fold classOf = .matched ↔
      (∀ t ∈ tree.leaves, (classOf t).isTwoValued = true) ∧
        tree.Holds (fun t => classOf t = .matched) := by
  induction tree with
  | leaf trimmed =>
      simp only [fold, leaves, Holds, List.mem_singleton, forall_eq]
      constructor
      · intro h
        simp [h, CandidateTransitionResult.isTwoValued]
      · exact And.right
  | conj left right ihl ihr =>
      rw [fold, andResult_matched_iff, ihl, ihr, leaves,
        List.forall_mem_append, Holds]
      tauto
  | disj left right ihl ihr =>
      rw [fold, orResult_matched_iff, fold_isTwoValued, fold_isTwoValued,
        ihl, ihr, leaves, List.forall_mem_append, Holds]
      tauto

/-- The severity of a tree is that of its worst leaf. -/
theorem severity_fold
    (classOf : Text → CandidateTransitionResult) (tree : ConditionTree) :
    severity (tree.fold classOf) =
      (tree.leaves.map fun t => severity (classOf t)).foldr max 0 := by
  have happend : ∀ xs ys : List Nat,
      (xs ++ ys).foldr max 0 = max (xs.foldr max 0) (ys.foldr max 0) := by
    intro xs ys
    induction xs with
    | nil => simp
    | cons x xs ih => simp [ih, max_assoc]
  induction tree with
  | leaf trimmed => simp [fold, leaves]
  | conj left right ihl ihr =>
      rw [fold, severity_andResult, ihl, ihr, leaves, List.map_append, happend]
  | disj left right ihl ihr =>
      rw [fold, severity_orResult, ihl, ihr, leaves, List.map_append, happend]

/-- Rearranging the atoms of a tree does not change its failure class. -/
theorem fold_eq_of_perm
    (classOf : Text → CandidateTransitionResult)
    {tree other : ConditionTree}
    (hperm : tree.leaves.Perm other.leaves)
    (hfail : (tree.fold classOf).isTwoValued = false) :
    other.fold classOf = tree.fold classOf := by
  have hsame : severity (other.fold classOf) = severity (tree.fold classOf) := by
    rw [severity_fold, severity_fold]
    exact (hperm.symm.map _).foldr_eq 0
  refine eq_of_severity_eq hsame ?_
  rw [hsame, Ne, severity_eq_zero_iff, hfail]
  simp

end ConditionTree

/-! ## The tree of a text -/

/-- The tree of a text, with a bound on the length of the text. -/
def conditionTreeWithFuel : Nat → Text → ConditionTree
  | 0, condition => .leaf condition
  | fuel + 1, condition =>
      let trimmed := normalizeCondition condition
      match evaluateConstant trimmed with
      | some _ => .leaf trimmed
      | none =>
          match splitConnective trimmed " and ".toList with
          | some (lhs, rhs) =>
              .conj (conditionTreeWithFuel fuel lhs)
                (conditionTreeWithFuel fuel rhs)
          | none =>
              match splitConnective trimmed " or ".toList with
              | some (lhs, rhs) =>
                  .disj (conditionTreeWithFuel fuel lhs)
                    (conditionTreeWithFuel fuel rhs)
              | none => .leaf trimmed

/-- The tree of connectives that the evaluator finds in a text. -/
def conditionTree (condition : Text) : ConditionTree :=
  conditionTreeWithFuel (condition.length + 1) condition

/-- Evaluate an atom: a constant or a leaf expression. -/
def evaluateAtom
    (ctx : Context) (trimmed : Text) :
    Option ClassifiedConditionEvaluation :=
  match evaluateConstant trimmed with
  | some constant => some constant
  | none => evaluateLeaf ctx trimmed

/-- Evaluate every atom of a tree and combine the results. -/
def evaluateTree
    (ctx : Context) : ConditionTree → Option ClassifiedConditionEvaluation
  | .leaf trimmed => evaluateAtom ctx trimmed
  | .conj left right =>
      (evaluateTree ctx left).bind fun l =>
        (evaluateTree ctx right).map fun r => combineAnd l r
  | .disj left right =>
      (evaluateTree ctx left).bind fun l =>
        (evaluateTree ctx right).map fun r => combineOr l r

theorem evaluateWithFuel_eq_evaluateTree
    (ctx : Context) {n : Nat} {condition : Text}
    (hn : condition.length < n) :
    evaluateWithFuel ctx n condition =
      evaluateTree ctx (conditionTreeWithFuel n condition) := by
  induction n generalizing condition with
  | zero => omega
  | succ n ih =>
      have hlen := normalizeCondition_length_le condition
      cases hconstant : evaluateConstant (normalizeCondition condition) with
      | some constant =>
          simp only [evaluateWithFuel, conditionTreeWithFuel, hconstant,
            evaluateTree, evaluateAtom]
      | none =>
          cases hand :
              splitConnective (normalizeCondition condition) " and ".toList with
          | some halves =>
              obtain ⟨hl, hr⟩ := splitConnective_length_lt (by decide) hand
              simp only [evaluateWithFuel, conditionTreeWithFuel, hconstant,
                hand, evaluateTree]
              rw [ih (by omega), ih (by omega)]
          | none =>
              cases hor :
                  splitConnective (normalizeCondition condition)
                    " or ".toList with
              | some halves =>
                  obtain ⟨hl, hr⟩ := splitConnective_length_lt (by decide) hor
                  simp only [evaluateWithFuel, conditionTreeWithFuel,
                    hconstant, hand, hor, evaluateTree]
                  rw [ih (by omega), ih (by omega)]
              | none =>
                  simp only [evaluateWithFuel, conditionTreeWithFuel,
                    hconstant, hand, hor, evaluateTree, evaluateAtom]

/-- Evaluating a text is evaluating its tree. -/
theorem evaluateConditionClassified_eq_evaluateTree
    (ctx : Context) (condition : Text) :
    evaluateConditionClassified ctx condition =
      evaluateTree ctx (conditionTree condition) :=
  evaluateWithFuel_eq_evaluateTree ctx (Nat.lt_succ_self _)

/-- Class of an atom in a context, for atoms whose evaluation returns. -/
def atomClass (ctx : Context) (trimmed : Text) : CandidateTransitionResult :=
  ((evaluateAtom ctx trimmed).map (·.result)).getD .evaluationError

/-- The class of an evaluated tree is the fold of the classes of its atoms. -/
theorem evaluateTree_result
    {ctx : Context} {tree : ConditionTree}
    {evaluation : ClassifiedConditionEvaluation}
    (h : evaluateTree ctx tree = some evaluation) :
    evaluation.result = tree.fold (atomClass ctx) := by
  induction tree generalizing evaluation with
  | leaf trimmed =>
      rw [evaluateTree] at h
      simp [ConditionTree.fold, atomClass, h]
  | conj left right ihl ihr =>
      simp only [evaluateTree, Option.bind_eq_some_iff,
        Option.map_eq_some_iff] at h
      obtain ⟨l, hl, r, hr, rfl⟩ := h
      rw [combineAnd_result, ihl hl, ihr hr, ConditionTree.fold]
  | disj left right ihl ihr =>
      simp only [evaluateTree, Option.bind_eq_some_iff,
        Option.map_eq_some_iff] at h
      obtain ⟨l, hl, r, hr, rfl⟩ := h
      rw [combineOr_result, ihl hl, ihr hr, ConditionTree.fold]

/-- The class of an evaluated condition, through its tree. -/
theorem evaluateConditionClassified_result
    {ctx : Context} {condition : Text}
    {evaluation : ClassifiedConditionEvaluation}
    (h : evaluateConditionClassified ctx condition = some evaluation) :
    evaluation.result = (conditionTree condition).fold (atomClass ctx) := by
  rw [evaluateConditionClassified_eq_evaluateTree] at h
  exact evaluateTree_result h

end ChainworksForge.Condition
