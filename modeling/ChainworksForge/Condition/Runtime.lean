import ChainworksForge.Condition.Values

/-!
# The runtime evaluator of transition conditions

`evaluateConditionClassified` is the evaluator that the engine runs.  It strips
quotes from the whole text, looks for the first ` and ` outside parentheses,
only then for the first ` or `, and evaluates what is left as a single atom.
Both operands of a connective are always evaluated.

The evaluator recurses on shorter texts.  The model carries that bound as an
explicit fuel, and `evaluateConditionClassified_eq` is the recursion equation
without it.  The tree `conditionTree` that the splitting determines is
independent of the context, and `evaluateConditionClassified_eq_evaluateTree`
says that evaluating a text is evaluating its tree.
-/

namespace ChainworksForge.Condition

open ChainworksForge.Support

/-! ## Splitting at a connective -/

/-- Nesting depth after one more character. -/
def parenStep (depth : ℤ) (c : Char) : ℤ :=
  if c = '(' then depth + 1 else if c = ')' then depth - 1 else depth

/--
Scan for a connective outside parentheses.  `before` holds the characters
already passed, in reverse.
-/
def splitConnectiveLoop (connective : Text) :
    Text → ℤ → Text → Option (Text × Text)
  | _, _, [] => none
  | before, depth, c :: rest =>
      let depth := parenStep depth c
      let continued := splitConnectiveLoop connective (c :: before) depth rest
      if depth = 0 then
        match Text.stripFront (c :: rest) connective with
        | some after =>
            let lhs := Text.trim before.reverse
            let rhs := Text.trim after
            if lhs ≠ [] ∧ rhs ≠ [] then some (lhs, rhs) else continued
        | none => continued
      else continued

/-- Split on a connective keyword, respecting parentheses depth. -/
def splitConnective (expr connective : Text) : Option (Text × Text) :=
  splitConnectiveLoop connective [] 0 expr

/-! ## Atoms -/

/-- Strip whitespace, then any double quotes, from a condition. -/
def normalizeCondition (condition : Text) : Text :=
  Text.trimMatches (· == '"') (Text.trim condition)

/-- The two Boolean constants. -/
def evaluateConstant (trimmed : Text) : Option ClassifiedConditionEvaluation :=
  if trimmed = "true".toList ∨ trimmed = "'true'".toList then
    some .matched
  else if trimmed = "false".toList ∨ trimmed = "'false'".toList then
    some .notMatched
  else none

/-- An approval fact of the current state. -/
def evaluateApproval
    (ctx : Context) (decision : ApprovalDecision) :
    ClassifiedConditionEvaluation :=
  match ctx.authorizes decision with
  | .ok (some b) => .ofBool b
  | .error _ =>
      .new .evaluationError (some "stale_approval_binding".toList)
  | .ok none =>
      .ofBool (ctx.approvals.any fun a =>
        a.stageId = ctx.currentStateId ∧ a.decision = decision)

/-- Artifact and field of a dotted reference. -/
def artifactFieldRef (refStr : Text) : Option (Text × Text) :=
  if Text.startsWith refStr "vars.".toList ||
      Text.startsWith refStr "approval.".toList then none
  else
    match Text.splitOnce '.' refStr with
    | some (artifactName, fieldName) =>
        if artifactName = [] ∨ fieldName = [] then none
        else some (artifactName, fieldName)
    | none => none

/-- The operators in the order in which the evaluator looks for them. -/
def comparisonOperators : List (Text × CompOp) :=
  [(" <= ".toList, .le), (" >= ".toList, .ge), (" != ".toList, .ne),
    (" == ".toList, .eq), (" < ".toList, .lt), (" > ".toList, .gt)]

/-- Left side, operator and right side of a comparison. -/
def findComparison (trimmed : Text) : Option (Text × CompOp × Text) :=
  comparisonOperators.findSome? fun entry =>
    (Text.splitFirst entry.1 trimmed).map fun halves =>
      (Text.trim halves.1, entry.2, Text.trim halves.2)

/-- Evaluate a comparison. -/
def evaluateComparison
    (ctx : Context) (lhs : Text) (op : CompOp) (rhs : Text) :
    Option ClassifiedConditionEvaluation :=
  match artifactFieldRef lhs with
  | some (artifactName, fieldName) =>
      evaluateArtifactFieldComparisonClassified ctx artifactName fieldName
        op rhs
  | none =>
      (resolveValue ctx lhs).bind fun lv =>
        (resolveValue ctx rhs).map fun rv =>
          .ofBool (applyComparison lv op rv)

/-- Evaluate a text without connectives. -/
def evaluateLeaf
    (ctx : Context) (trimmed : Text) :
    Option ClassifiedConditionEvaluation :=
  if Text.startsWith trimmed "exists(".toList &&
      Text.endsWith trimmed ")".toList then
    let artifactName :=
      Text.trimMatches (· == '"')
        (Text.trimMatches (· == '\'') (trimmed.drop 7).dropLast)
    some (evaluateArtifactExistsClassified ctx artifactName)
  else if trimmed = "approval.granted == true".toList then
    some (evaluateApproval ctx .granted)
  else if trimmed = "approval.rejected == true".toList then
    some (evaluateApproval ctx .rejected)
  else
    match findComparison trimmed with
    | some (lhs, op, rhs) => evaluateComparison ctx lhs op rhs
    | none =>
        some (.invalidExpression
          ("Unsupported transition condition: ".toList ++ trimmed))

/-! ## The evaluator -/

/-- The evaluator with an explicit bound on the length of its argument. -/
def evaluateWithFuel
    (ctx : Context) : Nat → Text → Option ClassifiedConditionEvaluation
  | 0, _ => none
  | fuel + 1, condition =>
      let trimmed := normalizeCondition condition
      match evaluateConstant trimmed with
      | some constant => some constant
      | none =>
          match splitConnective trimmed " and ".toList with
          | some (lhs, rhs) =>
              (evaluateWithFuel ctx fuel lhs).bind fun left =>
                (evaluateWithFuel ctx fuel rhs).map fun right =>
                  combineAnd left right
          | none =>
              match splitConnective trimmed " or ".toList with
              | some (lhs, rhs) =>
                  (evaluateWithFuel ctx fuel lhs).bind fun left =>
                    (evaluateWithFuel ctx fuel rhs).map fun right =>
                      combineOr left right
              | none => evaluateLeaf ctx trimmed

/-- Evaluate a transition condition. -/
def evaluateConditionClassified
    (ctx : Context) (condition : Text) :
    Option ClassifiedConditionEvaluation :=
  evaluateWithFuel ctx (condition.length + 1) condition

/-! ## Splitting shortens -/

theorem normalizeCondition_length_le
    (condition : Text) :
    (normalizeCondition condition).length ≤ condition.length :=
  le_trans (Text.trimMatches_length_le _ _) (Text.trim_length_le _)

/-- Nesting depth after a text. -/
def parenDepth (depth : ℤ) (t : Text) : ℤ :=
  t.foldl parenStep depth

/-- A split cuts the text at an occurrence of the connective at depth zero. -/
theorem splitConnectiveLoop_eq_some
    {connective before t lhs rhs : Text} {depth : ℤ}
    (h : splitConnectiveLoop connective before depth t = some (lhs, rhs)) :
    ∃ front back, t = front ++ connective ++ back ∧
      lhs = Text.trim (before.reverse ++ front) ∧ rhs = Text.trim back ∧
      lhs ≠ [] ∧ rhs ≠ [] := by
  induction t generalizing before depth with
  | nil => simp [splitConnectiveLoop] at h
  | cons c rest ih =>
      have hcontinue :
          splitConnectiveLoop connective (c :: before) (parenStep depth c)
              rest = some (lhs, rhs) →
            ∃ front back, c :: rest = front ++ connective ++ back ∧
              lhs = Text.trim (before.reverse ++ front) ∧
              rhs = Text.trim back ∧ lhs ≠ [] ∧ rhs ≠ [] := by
        intro hrest
        obtain ⟨front, back, hsplit, hlhs, hrhs, hne⟩ := ih hrest
        refine ⟨c :: front, back, by simp [hsplit], ?_, hrhs, hne⟩
        simpa using hlhs
      simp only [splitConnectiveLoop] at h
      split_ifs at h with hdepth
      · split at h
        · rename_i after hafter
          split_ifs at h with hne
          · simp only [Option.some.injEq, Prod.mk.injEq] at h
            obtain ⟨rfl, rfl⟩ := h
            obtain ⟨p, hp, hpeq⟩ :=
              List.dropPrefix?_eq_some_iff.mp hafter
            rw [beq_iff_eq] at hpeq
            subst hpeq
            exact ⟨[], after, by simpa using hp, by simp, rfl, hne⟩
          · exact hcontinue h
        · exact hcontinue h
      · exact hcontinue h

theorem splitConnective_length_lt
    {expr connective lhs rhs : Text}
    (hconn : connective ≠ [])
    (h : splitConnective expr connective = some (lhs, rhs)) :
    lhs.length < expr.length ∧ rhs.length < expr.length := by
  obtain ⟨front, back, rfl, rfl, rfl, -⟩ := splitConnectiveLoop_eq_some h
  have hpos : 0 < connective.length := List.length_pos_of_ne_nil hconn
  have hfront := Text.trim_length_le ([].reverse ++ front)
  have hback := Text.trim_length_le back
  simp only [List.reverse_nil, List.nil_append, List.length_append] at *
  omega

/-! ## The recursion equation -/

theorem evaluateWithFuel_eq
    (ctx : Context) {n m : Nat} {condition : Text}
    (hn : condition.length < n) (hm : condition.length < m) :
    evaluateWithFuel ctx n condition = evaluateWithFuel ctx m condition := by
  induction n generalizing m condition with
  | zero => omega
  | succ n ih =>
      obtain ⟨m, rfl⟩ : ∃ k, m = k + 1 := ⟨m - 1, by omega⟩
      have hlen := normalizeCondition_length_le condition
      have hoperand :
          ∀ {connective lhs rhs : Text}, connective ≠ [] →
            splitConnective (normalizeCondition condition) connective =
              some (lhs, rhs) →
            evaluateWithFuel ctx n lhs = evaluateWithFuel ctx m lhs ∧
              evaluateWithFuel ctx n rhs = evaluateWithFuel ctx m rhs := by
        intro connective lhs rhs hconn hsplit
        obtain ⟨hl, hr⟩ := splitConnective_length_lt hconn hsplit
        exact ⟨ih (by omega) (by omega), ih (by omega) (by omega)⟩
      simp only [evaluateWithFuel]
      split
      · rfl
      · split
        · rename_i lhs rhs hsplit
          obtain ⟨hl, hr⟩ := hoperand (by decide) hsplit
          rw [hl, hr]
        · split
          · rename_i lhs rhs hsplit
            obtain ⟨hl, hr⟩ := hoperand (by decide) hsplit
            rw [hl, hr]
          · rfl

/-- The evaluator calls itself on the two operands of the first connective. -/
theorem evaluateConditionClassified_eq
    (ctx : Context) (condition : Text) :
    evaluateConditionClassified ctx condition =
      match evaluateConstant (normalizeCondition condition) with
      | some constant => some constant
      | none =>
          match splitConnective (normalizeCondition condition)
              " and ".toList with
          | some (lhs, rhs) =>
              (evaluateConditionClassified ctx lhs).bind fun left =>
                (evaluateConditionClassified ctx rhs).map fun right =>
                  combineAnd left right
          | none =>
              match splitConnective (normalizeCondition condition)
                  " or ".toList with
              | some (lhs, rhs) =>
                  (evaluateConditionClassified ctx lhs).bind fun left =>
                    (evaluateConditionClassified ctx rhs).map fun right =>
                      combineOr left right
              | none => evaluateLeaf ctx (normalizeCondition condition) := by
  have hlen := normalizeCondition_length_le condition
  have hoperand :
      ∀ {connective lhs rhs : Text}, connective ≠ [] →
        splitConnective (normalizeCondition condition) connective =
          some (lhs, rhs) →
        evaluateWithFuel ctx condition.length lhs =
            evaluateConditionClassified ctx lhs ∧
          evaluateWithFuel ctx condition.length rhs =
            evaluateConditionClassified ctx rhs := by
    intro connective lhs rhs hconn hsplit
    obtain ⟨hl, hr⟩ := splitConnective_length_lt hconn hsplit
    exact ⟨evaluateWithFuel_eq ctx (by omega) (by omega),
      evaluateWithFuel_eq ctx (by omega) (by omega)⟩
  rw [evaluateConditionClassified, evaluateWithFuel]
  split
  · rfl
  · split
    · rename_i lhs rhs hsplit
      obtain ⟨hl, hr⟩ := hoperand (by decide) hsplit
      rw [hl, hr]
    · split
      · rename_i lhs rhs hsplit
        obtain ⟨hl, hr⟩ := hoperand (by decide) hsplit
        rw [hl, hr]
      · rfl

end ChainworksForge.Condition
