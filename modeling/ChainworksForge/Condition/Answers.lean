import ChainworksForge.Condition.Tree

/-!
# Contexts that answer every reference

Whether an evaluation returns is a question about all contexts.  The contexts
below give every variable and every artifact field one value, so that a
comparison in them is decided by its right side.  A literal is the only value
that may not resolve: a lone quote character has no text between its quotes.
-/

namespace ChainworksForge.Condition

open ChainworksForge.Support

/-! ## Lone quotes -/

/-- A single quote character. -/
def IsLoneQuote (t : Text) : Prop :=
  t = ['\''] ∨ t = ['"']

instance instDecidableIsLoneQuote (t : Text) : Decidable (IsLoneQuote t) :=
  inferInstanceAs (Decidable (t = ['\''] ∨ t = ['"']))

theorem head_of_isQuotedBy
    {quote : Char} {t : Text} (h : isQuotedBy quote t = true) :
    ∃ rest, t = quote :: rest := by
  obtain ⟨rest, rfl⟩ := List.isPrefixOf_iff_prefix.mp
    (Bool.and_eq_true_iff.mp h).1
  exact ⟨rest, rfl⟩

theorem isLoneQuote_of_quoted
    {t : Text} (hquoted : (isQuotedBy '\'' t || isQuotedBy '"' t) = true)
    (hlen : t.length < 2) : IsLoneQuote t := by
  have hrest : ∀ {quote : Char}, isQuotedBy quote t = true → t = [quote] := by
    intro quote hquote
    obtain ⟨rest, rfl⟩ := head_of_isQuotedBy hquote
    rw [List.length_cons] at hlen
    rw [List.length_eq_zero_iff.mp (by omega : rest.length = 0)]
  obtain h | h := Bool.or_eq_true_iff.mp hquoted
  · exact .inl (hrest h)
  · exact .inr (hrest h)

/-- The literals that have no value are the lone quotes. -/
theorem resolveLiteral_eq_none_iff (t : Text) :
    resolveLiteral t = none ↔ IsLoneQuote t := by
  constructor
  · intro h
    have htrue : t ≠ "true".toList := by
      rintro rfl
      exact absurd h (by decide)
    have hfalse : t ≠ "false".toList := by
      rintro rfl
      exact absurd h (by decide)
    rw [resolveLiteral, if_neg htrue, if_neg hfalse] at h
    cases hint : F64.parseI64 t with
    | some n => simp [hint] at h
    | none =>
        cases hfloat : F64.parse t with
        | some x => simp [hint, hfloat] at h
        | none =>
            simp only [hint, hfloat] at h
            split_ifs at h with hquoted hlen
            exact isLoneQuote_of_quoted hquoted hlen
  · rintro (rfl | rfl)
    · decide +kernel
    · decide +kernel

/-- A text without a dot refers to no artifact and no variable. -/
theorem resolveValue_of_no_dot
    (ctx : Context) {t : Text} (htrim : Text.Trimmed t) (hdot : '.' ∉ t) :
    resolveValue ctx t = resolveLiteral t := by
  have hvars : Text.stripFront t "vars.".toList = none := by
    cases hstrip : Text.stripFront t "vars.".toList with
    | none => rfl
    | some rest =>
        obtain ⟨front, hfront, hsame⟩ := List.dropPrefix?_eq_some_iff.mp hstrip
        rw [beq_iff_eq] at hsame
        refine absurd ?_ hdot
        rw [hfront, hsame]
        simp
  have hreference : resolveArtifactReference ctx t = none := by
    have hsplit : ∀ u : Text, '.' ∉ u → Text.splitOnce '.' u = none := by
      intro u hu
      induction u with
      | nil => rfl
      | cons c rest ih =>
          rw [List.mem_cons, not_or] at hu
          rw [Text.splitOnce, if_neg (Ne.symm hu.1), ih hu.2]
          rfl
    rw [resolveArtifactReference, hsplit t hdot]
  have htext : Text.trim t = t := htrim
  rw [resolveValue, htext]
  simp only [hvars, hreference]

theorem resolveValue_eq_none_iff (ctx : Context) (t : Text) :
    resolveValue ctx t = none ↔ IsLoneQuote (Text.trim t) := by
  constructor
  · intro h
    unfold resolveValue at h
    dsimp only at h
    cases hvars : Text.stripFront (Text.trim t) "vars.".toList with
    | some name =>
        simp only [hvars] at h
        exact absurd h (Option.some_ne_none _)
    | none =>
        cases hreference : resolveArtifactReference ctx (Text.trim t) with
        | some value =>
            simp only [hvars, hreference] at h
            exact absurd h (Option.some_ne_none _)
        | none =>
            simp only [hvars, hreference] at h
            exact (resolveLiteral_eq_none_iff _).mp h
  · intro h
    have hdot : '.' ∉ Text.trim t := by
      obtain h | h := h
      · rw [h]
        decide
      · rw [h]
        decide
    have hsame : resolveValue ctx t = resolveValue ctx (Text.trim t) := by
      rw [resolveValue, resolveValue,
        show Text.trim (Text.trim t) = Text.trim t from
          Text.trimmedBy_trimMatches _ _]
    have htrim : Text.Trimmed (Text.trim t) := Text.trimmedBy_trimMatches _ _
    rw [hsame, resolveValue_of_no_dot ctx htrim hdot]
    exact (resolveLiteral_eq_none_iff _).mpr h

/-! ## Contexts with one value -/

/-- The name under which the self-assessment summary holds a field. -/
def summaryFieldName (fieldName : Text) : Text :=
  if fieldName = "seemingly_complete".toList then
    "implementation_complete".toList
  else if fieldName = "blocking_remaining_code_tasks".toList then
    "blocking_remaining_code_task_count".toList
  else fieldName

/-- Every variable and every field of the given name has one value; some
artifacts have a content of their own. -/
def answeringContext
    (fieldName : Text) (value : Json) (contents : Text → Option Json) :
    Context where
  currentStateId := []
  planVariables := fun _ => some value
  artifactPath := fun _ => some []
  hasMetaRoot := true
  artifactRoot := []
  runId := []
  pathExists := fun _ => false
  readJson := fun _ => none
  controlledField := fun _ _ => .ok (some value)
  controlledExists := fun _ => .ok true
  outputForPredicate := fun artifactName =>
    .ok (.output (some ((contents artifactName).getD
      (.object [(fieldName, value)]))))
  selfAssessmentSummary := some (.object [(summaryFieldName fieldName, value)])
  approvals := []
  authorizes := fun _ => .ok none
  runtimeFlavor := .multiThread

section Answering

variable {fieldName : Text} {value : Json} {contents : Text → Option Json}

theorem extractJsonField_self (key : Text) (value : Json) :
    extractJsonField (.object [(key, value)]) key = some value := by
  simp [extractJsonField, Json.get]

theorem readArtifactField_answeringContext
    {artifactName : Text} (hcontent : contents artifactName = none) :
    readArtifactField (answeringContext fieldName value contents) artifactName
      fieldName = some value := by
  unfold readArtifactField
  by_cases hsummary : isImplementationSelfAssessmentAlias artifactName = true
  · rw [if_pos hsummary, activeImplementationSelfAssessmentSummaryField]
    have hfield : ∀ key : Text, extractJsonField
        (.object [(key, value)]) key = some value := fun key =>
      extractJsonField_self key value
    simp only [answeringContext, Option.bind_some, summaryFieldName]
    split_ifs
    · exact hfield _
    · exact hfield _
    · exact hfield _
  · rw [if_neg hsummary]
    simp only [answeringContext, hcontent, Option.getD_none, Option.bind_some]
    exact extractJsonField_self fieldName value

/-- A comparison of a field in such a context compares its value. -/
theorem evaluateArtifactField_answeringContext
    {artifactName : Text} (hcontent : contents artifactName = none)
    (op : CompOp) (rhs : Text) :
    evaluateArtifactFieldComparisonClassified
        (answeringContext fieldName value contents) artifactName fieldName op
        rhs =
      (resolveValue (answeringContext fieldName value contents) rhs).map
        fun rv =>
          ((ClassifiedConditionEvaluation.ofBool
            (applyComparison value op rv)).withRequiredArtifact
              artifactName).withSourceArtifact artifactName := by
  have hread : readArtifactField (answeringContext fieldName value contents)
      artifactName fieldName = some value :=
    readArtifactField_answeringContext hcontent
  unfold evaluateArtifactFieldComparisonClassified canonicalContractFieldResult
  cases hcontract : contractIdForAlias artifactName with
  | none =>
      simp only [hread]
      rfl
  | some contractId => rfl

end Answering

end ChainworksForge.Condition
