import ChainworksForge.Condition.Answers
import ChainworksForge.Condition.Slices

/-!
# The conditions that are read without a panic

Two slices may fail.  At run time the value of a quoted literal is what stands
between its quotes, and a lone quote character has no such slice.  In the lint
the bytes compared with a connective word may end inside a character.
`condition_never_panics_iff` says that nothing else can go wrong.
-/

namespace ChainworksForge.Condition

open ChainworksForge.Support

/-- The evaluator reads the text as `exists(...)`. -/
def IsExistsCall (trimmed : Text) : Prop :=
  (Text.startsWith trimmed "exists(".toList &&
    Text.endsWith trimmed ")".toList) = true

/-- The atom is a comparison with a lone quote character on one side. -/
def ComparesLoneQuote (trimmed : Text) : Prop :=
  ¬IsExistsCall trimmed ∧
    ∃ lhs op rhs, findComparison trimmed = some (lhs, op, rhs) ∧
      (IsLoneQuote lhs ∨ IsLoneQuote rhs)

/-! ## Atoms -/

theorem findComparison_trimmed
    {trimmed lhs rhs : Text} {op : CompOp}
    (h : findComparison trimmed = some (lhs, op, rhs)) :
    Text.trim lhs = lhs ∧ Text.trim rhs = rhs := by
  obtain ⟨entry, -, hentry⟩ := List.exists_of_findSome?_eq_some h
  obtain ⟨halves, -, hhalves⟩ := Option.map_eq_some_iff.mp hentry
  obtain ⟨rfl, hrest⟩ := Prod.mk.inj hhalves
  obtain ⟨-, rfl⟩ := Prod.mk.inj hrest
  exact ⟨Text.trimmedBy_trimMatches _ _, Text.trimmedBy_trimMatches _ _⟩

theorem evaluateConstant_of_comparison
    {trimmed lhs rhs : Text} {op : CompOp}
    (h : findComparison trimmed = some (lhs, op, rhs)) :
    evaluateConstant trimmed = none := by
  have hother : ∀ constant : Text, findComparison constant = none →
      trimmed ≠ constant := by
    rintro constant hnone rfl
    exact absurd (hnone.symm.trans h) (Option.some_ne_none _).symm
  rw [evaluateConstant, if_neg, if_neg]
  · rintro (hconstant | hconstant)
    · exact hother _ (by decide) hconstant
    · exact hother _ (by decide) hconstant
  · rintro (hconstant | hconstant)
    · exact hother _ (by decide) hconstant
    · exact hother _ (by decide) hconstant

theorem not_isLoneQuote_of_approval
    {trimmed lhs rhs : Text} {op : CompOp} (fact : Text)
    (h : findComparison trimmed = some (lhs, op, rhs))
    (hfact : (findComparison fact).all (fun halves =>
      !decide (IsLoneQuote halves.1) && !decide (IsLoneQuote halves.2.2)) = true)
    (hlone : IsLoneQuote lhs ∨ IsLoneQuote rhs) : trimmed ≠ fact := by
  rintro rfl
  rw [h] at hfact
  simp only [Option.all_some, Bool.and_eq_true, Bool.not_eq_true',
    decide_eq_false_iff_not] at hfact
  exact hlone.elim hfact.1 hfact.2

theorem evaluateComparison_ne_none
    (ctx : Context) {lhs rhs : Text} (op : CompOp)
    (hlhs : resolveValue ctx lhs ≠ none) (hrhs : resolveValue ctx rhs ≠ none) :
    evaluateComparison ctx lhs op rhs ≠ none := by
  obtain ⟨lv, hlv⟩ := Option.ne_none_iff_exists'.mp hlhs
  obtain ⟨rv, hrv⟩ := Option.ne_none_iff_exists'.mp hrhs
  unfold evaluateComparison
  cases artifactFieldRef lhs with
  | none => simp [hlv, hrv]
  | some reference =>
      unfold evaluateArtifactFieldComparisonClassified
      simp only [hrv, Option.map_some]
      split
      · exact Option.some_ne_none _
      · split
        · exact Option.some_ne_none _
        · exact Option.some_ne_none _
      · split
        · exact Option.some_ne_none _
        · split
          · exact Option.some_ne_none _
          · split
            · exact Option.some_ne_none _
            · exact Option.some_ne_none _
      · split
        · exact Option.some_ne_none _
        · split
          · exact Option.some_ne_none _
          · split
            · exact Option.some_ne_none _
            · split
              · exact Option.some_ne_none _
              · exact Option.some_ne_none _

/-- An atom that compares no lone quote is evaluated in every context. -/
theorem evaluateAtom_ne_none
    (ctx : Context) {trimmed : Text} (h : ¬ComparesLoneQuote trimmed) :
    evaluateAtom ctx trimmed ≠ none := by
  unfold evaluateAtom
  cases evaluateConstant trimmed with
  | some constant => exact Option.some_ne_none _
  | none =>
      unfold evaluateLeaf
      split_ifs with hexists hgranted hrejected
      · exact Option.some_ne_none _
      · exact Option.some_ne_none _
      · exact Option.some_ne_none _
      cases hcomparison : findComparison trimmed with
      | none => exact Option.some_ne_none _
      | some halves =>
          obtain ⟨lhs, op, rhs⟩ := halves
          have hlone : ¬(IsLoneQuote lhs ∨ IsLoneQuote rhs) := fun hlone =>
            h ⟨hexists, lhs, op, rhs, hcomparison, hlone⟩
          obtain ⟨hlhs, hrhs⟩ := findComparison_trimmed hcomparison
          refine evaluateComparison_ne_none ctx op ?_ ?_
          · rw [Ne, resolveValue_eq_none_iff, hlhs]
            exact fun h => hlone (.inl h)
          · rw [Ne, resolveValue_eq_none_iff, hrhs]
            exact fun h => hlone (.inr h)

/-- The context in which an atom's left side has a value. -/
def atomContext (trimmed : Text) : Context :=
  let fieldName :=
    match findComparison trimmed with
    | some (lhs, _, _) => ((artifactFieldRef lhs).map (·.2)).getD []
    | none => []
  answeringContext fieldName .null fun _ => none

theorem artifactFieldRef_of_isLoneQuote {t : Text} (h : IsLoneQuote t) :
    artifactFieldRef t = none := by
  obtain rfl | rfl := h
  · decide
  · decide

/-- An atom that compares a lone quote panics in some context. -/
theorem evaluateAtom_atomContext
    {trimmed : Text} (h : ComparesLoneQuote trimmed) :
    evaluateAtom (atomContext trimmed) trimmed = none := by
  obtain ⟨hexists, lhs, op, rhs, hcomparison, hlone⟩ := h
  have hgranted := not_isLoneQuote_of_approval
    "approval.granted == true".toList hcomparison (by decide) hlone
  have hrejected := not_isLoneQuote_of_approval
    "approval.rejected == true".toList hcomparison (by decide) hlone
  obtain ⟨hlhs, hrhs⟩ := findComparison_trimmed hcomparison
  unfold IsExistsCall at hexists
  rw [evaluateAtom, evaluateConstant_of_comparison hcomparison]
  simp only
  rw [evaluateLeaf, if_neg hexists, if_neg hgranted, if_neg hrejected,
    hcomparison]
  simp only
  unfold evaluateComparison
  cases hreference : artifactFieldRef lhs with
  | none =>
      obtain hlone | hlone := hlone
      · have hnone : resolveValue (atomContext trimmed) lhs = none :=
          (resolveValue_eq_none_iff _ _).mpr (by rwa [hlhs])
        simp [hnone]
      · have hnone : resolveValue (atomContext trimmed) rhs = none :=
          (resolveValue_eq_none_iff _ _).mpr (by rwa [hrhs])
        simp [hnone]
  | some reference =>
      have hright : IsLoneQuote rhs := by
        obtain hlone | hlone := hlone
        · rw [artifactFieldRef_of_isLoneQuote hlone] at hreference
          cases hreference
        · exact hlone
      have hnone : resolveValue (atomContext trimmed) rhs = none :=
        (resolveValue_eq_none_iff _ _).mpr (by rwa [hrhs])
      have hcontext : atomContext trimmed =
          answeringContext reference.2 .null fun _ => none := by
        rw [atomContext, hcomparison]
        simp only [hreference, Option.map_some, Option.getD_some]
      rw [hcontext] at hnone ⊢
      refine (evaluateArtifactField_answeringContext rfl op rhs).trans ?_
      rw [hnone, Option.map_none]

/-! ## Trees -/

/-- A tree is evaluated exactly when each of its atoms is. -/
theorem evaluateTree_eq_none_iff
    (ctx : Context) (tree : ConditionTree) :
    evaluateTree ctx tree = none ↔
      ∃ leaf ∈ tree.leaves, evaluateAtom ctx leaf = none := by
  have hboth : ∀ {left right : ConditionTree}
      (combine : ClassifiedConditionEvaluation →
        ClassifiedConditionEvaluation → ClassifiedConditionEvaluation),
      (evaluateTree ctx left).bind (fun l =>
          (evaluateTree ctx right).map fun r => combine l r) = none ↔
        evaluateTree ctx left = none ∨ evaluateTree ctx right = none := by
    intro left right combine
    cases evaluateTree ctx left with
    | none => simp
    | some l =>
        cases evaluateTree ctx right with
        | none => simp
        | some r => simp
  induction tree with
  | leaf trimmed => simp [evaluateTree, ConditionTree.leaves]
  | conj left right ihl ihr =>
      refine (hboth _).trans ?_
      simp only [ConditionTree.leaves, List.mem_append, or_and_right, exists_or,
        ihl, ihr]
  | disj left right ihl ihr =>
      refine (hboth _).trans ?_
      simp only [ConditionTree.leaves, List.mem_append, or_and_right, exists_or,
        ihl, ihr]

/-- No atom of the condition compares a lone quote. -/
def ComparesNoLoneQuote (condition : Text) : Prop :=
  ∀ leaf ∈ (conditionTree condition).leaves, ¬ComparesLoneQuote leaf

theorem evaluates_in_every_context_iff (condition : Text) :
    (∀ ctx, evaluateConditionClassified ctx condition ≠ none) ↔
      ComparesNoLoneQuote condition := by
  simp only [evaluateConditionClassified_eq_evaluateTree, Ne,
    evaluateTree_eq_none_iff]
  constructor
  · intro h leaf hleaf hlone
    exact h (atomContext leaf) ⟨leaf, hleaf, evaluateAtom_atomContext hlone⟩
  · rintro h ctx ⟨leaf, hleaf, hnone⟩
    exact evaluateAtom_ne_none ctx (h leaf hleaf) hnone

/-- A condition is read without a panic by the evaluator, in every context, and
by the lint exactly when no atom compares a lone quote and the lint's slices
fit. -/
theorem condition_never_panics_iff (condition : Text) :
    ((∀ ctx, evaluateConditionClassified ctx condition ≠ none) ∧
        Lint.parseConditionDnf condition ≠ none) ↔
      ComparesNoLoneQuote condition ∧ LintSlicesFit condition :=
  and_congr (evaluates_in_every_context_iff condition)
    (parseConditionDnf_ne_none_iff condition)

/-- A comparison with a lone quote aborts the evaluation, and a condition whose
field name has an accent aborts the lint. -/
theorem condition_panics :
    ¬∀ condition : Text,
      (∀ ctx, evaluateConditionClassified ctx condition ≠ none) ∧
        Lint.parseConditionDnf condition ≠ none := by
  intro h
  refine (h "abé == 1".toList).2 ?_
  decide

end ChainworksForge.Condition
