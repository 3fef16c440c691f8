import ChainworksForge.Condition.Runtime

/-!
# The ends of an operand

The evaluator strips the double quotes at the two ends of a text before it splits
it, and trims what a split leaves.  So the outer operands of a split lose their
quotes first and the blanks behind them next.  A further split does not see these
blanks (`splitConnective_trim`), but an atom may.  `ReadsAlike` says that it does
not: then the bare operand is evaluated like the operand itself
(`evaluateConditionClassified_bareFront`, `evaluateConditionClassified_bareBack`).
-/

namespace ChainworksForge.Condition

open ChainworksForge.Support

/-! ## Blanks at the ends of a split -/

theorem parenStep_of_isWhitespace
    {c : Char} (hc : Text.isWhitespace c = true) (depth : ℤ) :
    parenStep depth c = depth := by
  have hopen : c ≠ '(' := by
    rintro rfl
    exact absurd hc (by decide)
  have hclose : c ≠ ')' := by
    rintro rfl
    exact absurd hc (by decide)
  rw [parenStep, if_neg hopen, if_neg hclose]

section Blanks

variable {connective w : Text} (hw : ∀ c ∈ w, Text.isWhitespace c = true)

include hw

theorem trim_append_left (t : Text) : Text.trim (w ++ t) = Text.trim t := by
  rw [Text.trim, Text.trimMatches, List.dropWhile_append_of_pos hw]
  rfl

theorem trim_append_right (t : Text) : Text.trim (t ++ w) = Text.trim t := by
  rw [Text.trim, Text.trimMatches, ← Text.dropWhile_rdropWhile,
    Text.rdropWhile_append_of_all _ hw, Text.dropWhile_rdropWhile]
  rfl

theorem splitConnectiveLoop_before
    (before t : Text) (depth : ℤ) :
    splitConnectiveLoop connective (before ++ w) depth t =
      splitConnectiveLoop connective before depth t := by
  induction t generalizing before depth with
  | nil => rfl
  | cons c rest ih =>
      have htrim : Text.trim (before ++ w).reverse = Text.trim before.reverse := by
        rw [List.reverse_append]
        exact trim_append_left (fun c hc => hw c (List.mem_reverse.mp hc)) _
      simp only [splitConnectiveLoop, htrim]
      rw [← List.cons_append, ih]

/-- What stands before a split is trimmed, so blanks in front of a text are not seen. -/
theorem splitConnective_append_left
    (t : Text) :
    splitConnective (w ++ t) connective = splitConnective t connective := by
  rw [splitConnective, splitConnective]
  induction w with
  | nil => rfl
  | cons c w ih =>
      have hc := hw c List.mem_cons_self
      have hnext : splitConnectiveLoop connective [c] 0 (w ++ t) =
          splitConnectiveLoop connective [] 0 t := by
        rw [← ih fun d hd => hw d (List.mem_cons_of_mem _ hd)]
        exact splitConnectiveLoop_before (w := [c])
          (fun d hd => (List.mem_singleton.mp hd).symm ▸ hc) [] _ 0
      rw [List.cons_append, splitConnectiveLoop]
      simp only [parenStep_of_isWhitespace hc, ↓reduceIte]
      split
      · rw [if_neg fun h => h.1 rfl]
        exact hnext
      · exact hnext

theorem splitConnectiveLoop_blanks
    (before : Text) (depth : ℤ) :
    splitConnectiveLoop connective before depth w = none := by
  induction w generalizing before depth with
  | nil => rfl
  | cons c w ih =>
      have hnext := ih (fun d hd => hw d (List.mem_cons_of_mem _ hd)) (c :: before)
        (parenStep depth c)
      rw [splitConnectiveLoop]
      simp only [hnext]
      split_ifs
      · split
        · rename_i after hafter
          obtain ⟨p, hp, -⟩ := List.dropPrefix?_eq_some_iff.mp hafter
          have hblank : ∀ d ∈ after, Text.isWhitespace d = true := fun d hd =>
            hw d (hp ▸ List.mem_append_right _ hd)
          have hnil : Text.trim after = [] := trim_append_right hblank []
          rw [if_neg fun h => h.2 hnil]
        · rfl
      · rfl

theorem splitConnectiveLoop_append_right
    (before t : Text) (depth : ℤ) :
    splitConnectiveLoop connective before depth (t ++ w) =
      splitConnectiveLoop connective before depth t := by
  induction t generalizing before depth with
  | nil => exact splitConnectiveLoop_blanks hw before depth
  | cons c rest ih =>
      rw [List.cons_append, splitConnectiveLoop, splitConnectiveLoop, ih]
      split_ifs
      · cases hstrip : Text.stripFront (c :: rest) connective with
        | some after =>
            obtain ⟨p, hp, hconn⟩ := List.dropPrefix?_eq_some_iff.mp hstrip
            have hlong : Text.stripFront (c :: (rest ++ w)) connective =
                some (after ++ w) := by
              refine List.dropPrefix?_eq_some_iff.mpr ⟨p, ?_, hconn⟩
              rw [← List.cons_append, hp, List.append_assoc]
            simp only [hlong, trim_append_right hw]
        | none =>
            cases hlong : Text.stripFront (c :: (rest ++ w)) connective with
            | none => rfl
            | some after =>
                -- the connective ends among the blanks, so nothing is left behind it
                obtain ⟨p, hp, hconn⟩ := List.dropPrefix?_eq_some_iff.mp hlong
                have hblank : ∀ d ∈ after, Text.isWhitespace d = true := by
                  rw [← List.cons_append, List.append_eq_append_iff] at hp
                  rcases hp with ⟨v, -, hv⟩ | ⟨v, hv, -⟩
                  · intro d hd
                    exact hw d (hv ▸ List.mem_append_right _ hd)
                  · have hsome : Text.stripFront (c :: rest) connective = some v :=
                      List.dropPrefix?_eq_some_iff.mpr ⟨p, hv, hconn⟩
                    rw [hstrip] at hsome
                    exact absurd hsome (Option.some_ne_none v).symm
                have hnil : Text.trim after = [] := trim_append_right hblank []
                simp only [hnil, ne_eq, not_true_eq_false, and_false, if_false]
      · rfl

end Blanks

/-- A split does not see the blanks in front of a text. -/
theorem splitConnective_dropWhile
    (t connective : Text) :
    splitConnective (t.dropWhile Text.isWhitespace) connective =
      splitConnective t connective := by
  conv_rhs => rw [← List.takeWhile_append_dropWhile (p := Text.isWhitespace) (l := t)]
  exact (splitConnective_append_left (fun c hc => List.mem_takeWhile_imp hc) _).symm

/-- A split does not see the blanks behind a text. -/
theorem splitConnective_rdropWhile
    (t connective : Text) :
    splitConnective (t.rdropWhile Text.isWhitespace) connective =
      splitConnective t connective := by
  conv_rhs => rw [← List.rdropWhile_append_rtakeWhile (p := Text.isWhitespace) (l := t)]
  exact (splitConnectiveLoop_append_right
    (fun c hc => List.mem_rtakeWhile_imp hc) [] _ 0).symm

theorem splitConnective_trim
    (t connective : Text) :
    splitConnective (Text.trim t) connective = splitConnective t connective := by
  rw [Text.trim, Text.trimMatches, splitConnective_rdropWhile, splitConnective_dropWhile]

/-! ## The evaluation of a normalized text -/

/-- What the evaluator does with a condition whose quotes are stripped. -/
def evaluateOperand
    (ctx : Context) (u : Text) : Option ClassifiedConditionEvaluation :=
  match evaluateConstant u with
  | some constant => some constant
  | none =>
      match splitConnective u " and ".toList with
      | some (lhs, rhs) =>
          (evaluateConditionClassified ctx lhs).bind fun left =>
            (evaluateConditionClassified ctx rhs).map fun right =>
              combineAnd left right
      | none =>
          match splitConnective u " or ".toList with
          | some (lhs, rhs) =>
              (evaluateConditionClassified ctx lhs).bind fun left =>
                (evaluateConditionClassified ctx rhs).map fun right =>
                  combineOr left right
          | none => evaluateLeaf ctx u

theorem evaluateConditionClassified_eq_operand
    (ctx : Context) (condition : Text) :
    evaluateConditionClassified ctx condition =
      evaluateOperand ctx (normalizeCondition condition) :=
  evaluateConditionClassified_eq ctx condition

/-- The comparison that a text without connectives is read as. -/
def leafComparison (u : Text) : Option (Text × CompOp × Text) :=
  if (evaluateConstant u).isSome ∨
      (Text.startsWith u "exists(".toList && Text.endsWith u ")".toList) = true ∨
      u = "approval.granted == true".toList ∨
      u = "approval.rejected == true".toList then none
  else findComparison u

/-- The second text is the first one, or both are read as the same comparison. -/
def ReadsAlike (u v : Text) : Prop :=
  v = u ∨ ((leafComparison u).isSome = true ∧ leafComparison v = leafComparison u)

instance (u v : Text) : Decidable (ReadsAlike u v) :=
  inferInstanceAs (Decidable (_ ∨ _))

theorem evaluateConstant_of_blank
    {t : Text} (h : ' ' ∈ t) :
    evaluateConstant t = none := by
  have hne : ∀ u : Text, ' ' ∉ u → t ≠ u := by
    rintro u hu rfl
    exact hu h
  simp only [evaluateConstant, hne "true".toList (by decide),
    hne "'true'".toList (by decide), hne "false".toList (by decide),
    hne "'false'".toList (by decide), or_self, ↓reduceIte]

/-- A text that is split at a connective is no constant. -/
theorem evaluateConstant_of_split
    {u connective : Text} {halves : Text × Text} (hblank : ' ' ∈ connective)
    (h : splitConnective u connective = some halves) :
    evaluateConstant u = none := by
  obtain ⟨front, back, rfl, -⟩ := splitConnectiveLoop_eq_some h
  exact evaluateConstant_of_blank
    (List.mem_append_left _ (List.mem_append_right _ hblank))

theorem evaluate_of_leafComparison
    {u lhs rhs : Text} {op : CompOp}
    (h : leafComparison u = some (lhs, op, rhs)) (ctx : Context) :
    evaluateConstant u = none ∧
      evaluateLeaf ctx u = evaluateComparison ctx lhs op rhs := by
  unfold leafComparison at h
  split_ifs at h with hother
  obtain ⟨hconstant, hexists, hgranted, hrejected⟩ : ¬_ ∧ ¬_ ∧ ¬_ ∧ ¬_ := by
    simpa only [not_or] using hother
  refine ⟨by simpa using hconstant, ?_⟩
  rw [evaluateLeaf, if_neg hexists, if_neg hgranted, if_neg hrejected, h]

/-- Texts that are split alike and read alike are evaluated alike. -/
theorem evaluateOperand_congr
    (ctx : Context) {u v : Text}
    (hsplit : ∀ connective, splitConnective v connective =
      splitConnective u connective)
    (halike : ReadsAlike u v ∨
      (splitConnective u " and ".toList).isSome = true ∨
      (splitConnective u " or ".toList).isSome = true) :
    evaluateOperand ctx v = evaluateOperand ctx u := by
  have hconstants : ∀ connective : Text, ' ' ∈ connective →
      (splitConnective u connective).isSome = true →
        evaluateConstant u = none ∧ evaluateConstant v = none := by
    intro connective hblank hsome
    obtain ⟨halves, hu⟩ := Option.isSome_iff_exists.mp hsome
    exact ⟨evaluateConstant_of_split hblank hu,
      evaluateConstant_of_split hblank ((hsplit connective).trans hu)⟩
  unfold evaluateOperand
  rw [hsplit, hsplit]
  obtain (rfl | ⟨hsome, hsame⟩) | hand | hor := halike
  · rfl
  · -- both are the same comparison, if no connective splits them
    obtain ⟨⟨lhs, op, rhs⟩, hu⟩ := Option.isSome_iff_exists.mp hsome
    obtain ⟨hconstant, hleaf⟩ := evaluate_of_leafComparison hu ctx
    obtain ⟨hconstant', hleaf'⟩ :=
      evaluate_of_leafComparison (hsame.trans hu) ctx
    rw [hconstant, hconstant', hleaf, hleaf']
  · obtain ⟨hu, hv⟩ := hconstants _ (by decide) hand
    obtain ⟨⟨lhs, rhs⟩, hhalves⟩ := Option.isSome_iff_exists.mp hand
    rw [hu, hv, hhalves]
  · obtain ⟨hu, hv⟩ := hconstants _ (by decide) hor
    obtain ⟨⟨lhs, rhs⟩, hhalves⟩ := Option.isSome_iff_exists.mp hor
    rw [hu, hv, hhalves]

/-! ## Bare operands -/

/-- A text without the blanks, the quotes and the blanks in front of it. -/
def bareFront (t : Text) : Text :=
  ((t.dropWhile Text.isWhitespace).dropWhile (· == '"')).dropWhile
    Text.isWhitespace

/-- A text without the blanks, the quotes and the blanks behind it. -/
def bareBack (t : Text) : Text :=
  ((t.rdropWhile Text.isWhitespace).rdropWhile (· == '"')).rdropWhile
    Text.isWhitespace

theorem dropWhile_of_head
    {p : Char → Bool} {t : Text} (h : ∀ c ∈ t.head?, p c = false) :
    t.dropWhile p = t := by
  cases t with
  | nil => rfl
  | cons c rest => exact List.dropWhile_cons_of_neg (by simp [h c rfl])

theorem rdropWhile_of_getLast
    {p : Char → Bool} {t : Text} (h : ∀ c ∈ t.getLast?, p c = false) :
    t.rdropWhile p = t := by
  rw [List.rdropWhile, dropWhile_of_head (by simpa using h), List.reverse_reverse]

/-- Stripping the front again leaves only the blanks to see. -/
theorem normalizeCondition_bareFront
    {t : Text} (hquote : (bareFront t).head? ≠ some '"') :
    normalizeCondition (bareFront t) =
      (normalizeCondition t).dropWhile Text.isWhitespace := by
  have hblanks : (bareFront t).dropWhile Text.isWhitespace = bareFront t :=
    List.dropWhile_idempotent _ _
  have hquotes : (bareFront t).dropWhile (· == '"') = bareFront t := by
    refine dropWhile_of_head fun c hc => ?_
    rw [beq_eq_false_iff_ne]
    rintro rfl
    exact hquote hc
  simp only [normalizeCondition, Text.trim, Text.trimMatches,
    Text.dropWhile_rdropWhile, hblanks, hquotes]
  rfl

theorem normalizeCondition_bareBack
    {t : Text} (hquote : (bareBack t).getLast? ≠ some '"') :
    normalizeCondition (bareBack t) =
      (normalizeCondition t).rdropWhile Text.isWhitespace := by
  have hblanks : (bareBack t).rdropWhile Text.isWhitespace = bareBack t :=
    List.rdropWhile_idempotent _ _
  have hquotes : (bareBack t).rdropWhile (· == '"') = bareBack t := by
    refine rdropWhile_of_getLast fun c hc => ?_
    rw [beq_eq_false_iff_ne]
    rintro rfl
    exact hquote hc
  simp only [normalizeCondition, Text.trim, Text.trimMatches,
    ← Text.dropWhile_rdropWhile, hblanks, hquotes]
  rfl

/-- The bare text is what a split of the normalized text sees. -/
theorem trim_normalizeCondition
    (t : Text) :
    Text.trim (normalizeCondition t) = bareBack (bareFront t) := by
  simp only [normalizeCondition, Text.trim, Text.trimMatches, bareBack, bareFront,
    Text.dropWhile_rdropWhile]

/-- The atom of an operand that is cut behind it keeps its front. -/
def FrontKept (t : Text) : Prop :=
  (bareFront t).head? ≠ some '"' ∧
    ReadsAlike (normalizeCondition t) (normalizeCondition (bareFront t))

/-- The atom of an operand that is cut before it keeps its back. -/
def BackKept (t : Text) : Prop :=
  (bareBack t).getLast? ≠ some '"' ∧
    ReadsAlike (normalizeCondition t) (normalizeCondition (bareBack t))

instance (t : Text) : Decidable (FrontKept t) :=
  inferInstanceAs (Decidable (_ ∧ _))

instance (t : Text) : Decidable (BackKept t) :=
  inferInstanceAs (Decidable (_ ∧ _))

/-- The blanks and quotes in front of an operand do not change its evaluation. -/
theorem evaluateConditionClassified_bareFront
    (ctx : Context) {t : Text} (hquote : (bareFront t).head? ≠ some '"')
    (halike : FrontKept t ∨
      (splitConnective (normalizeCondition t) " and ".toList).isSome = true ∨
      (splitConnective (normalizeCondition t) " or ".toList).isSome = true) :
    evaluateConditionClassified ctx (bareFront t) =
      evaluateConditionClassified ctx t := by
  rw [evaluateConditionClassified_eq_operand,
    evaluateConditionClassified_eq_operand ctx t]
  refine evaluateOperand_congr ctx (fun connective => ?_)
    (halike.imp_left And.right)
  rw [normalizeCondition_bareFront hquote, splitConnective_dropWhile]

/-- The blanks and quotes behind an operand do not change its evaluation. -/
theorem evaluateConditionClassified_bareBack
    (ctx : Context) {t : Text} (hquote : (bareBack t).getLast? ≠ some '"')
    (halike : BackKept t ∨
      (splitConnective (normalizeCondition t) " and ".toList).isSome = true ∨
      (splitConnective (normalizeCondition t) " or ".toList).isSome = true) :
    evaluateConditionClassified ctx (bareBack t) =
      evaluateConditionClassified ctx t := by
  rw [evaluateConditionClassified_eq_operand,
    evaluateConditionClassified_eq_operand ctx t]
  refine evaluateOperand_congr ctx (fun connective => ?_)
    (halike.imp_left And.right)
  rw [normalizeCondition_bareBack hquote, splitConnective_rdropWhile]

/-- The evaluator does not see the blanks around a condition. -/
theorem evaluateConditionClassified_trim
    (ctx : Context) (t : Text) :
    evaluateConditionClassified ctx (Text.trim t) =
      evaluateConditionClassified ctx t := by
  have htrim : Text.trim (Text.trim t) = Text.trim t :=
    Text.trimmedBy_trimMatches _ t
  rw [evaluateConditionClassified_eq_operand,
    evaluateConditionClassified_eq_operand ctx t, normalizeCondition, htrim]
  rfl

/-! ## Texts that are more than quotes and blanks -/

/-- Some character is neither a blank nor a double quote. -/
def Worded (t : Text) : Prop :=
  ∃ c ∈ t, Text.isWhitespace c = false ∧ c ≠ '"'

instance (t : Text) : Decidable (Worded t) :=
  List.decidableBEx _ t

section Worded

variable {t : Text}

theorem Worded.mono {u : Text} (h : Worded t) (hsub : ∀ c ∈ t, c ∈ u) :
    Worded u := by
  obtain ⟨c, hc, hword⟩ := h
  exact ⟨c, hsub c hc, hword⟩

theorem Worded.ne_nil (h : Worded t) : t ≠ [] := by
  rintro rfl
  obtain ⟨c, hc, -⟩ := h
  exact absurd hc List.not_mem_nil

/-- Dropping blanks or quotes in front keeps what is neither. -/
theorem Worded.dropWhile (h : Worded t) {p : Char → Bool}
    (hp : ∀ c, p c = true → Text.isWhitespace c = true ∨ c = '"') :
    Worded (t.dropWhile p) := by
  obtain ⟨c, hc, hblank, hquote⟩ := h
  refine ⟨c, ?_, hblank, hquote⟩
  rw [← List.takeWhile_append_dropWhile (p := p) (l := t), List.mem_append] at hc
  refine hc.resolve_left fun hfront => ?_
  obtain hspace | hsame := hp c (List.mem_takeWhile_imp hfront)
  · rw [hblank] at hspace
    exact Bool.false_ne_true hspace
  · exact hquote hsame

theorem Worded.reverse (h : Worded t) : Worded t.reverse :=
  h.mono fun _ hc => List.mem_reverse.mpr hc

theorem Worded.rdropWhile (h : Worded t) {p : Char → Bool}
    (hp : ∀ c, p c = true → Text.isWhitespace c = true ∨ c = '"') :
    Worded (t.rdropWhile p) :=
  (h.reverse.dropWhile hp).reverse

theorem Worded.bareFront (h : Worded t) : Worded (bareFront t) :=
  ((h.dropWhile fun _ hc => .inl hc).dropWhile
    fun _ hc => .inr (beq_iff_eq.mp hc)).dropWhile fun _ hc => .inl hc

theorem Worded.bareBack (h : Worded t) : Worded (bareBack t) :=
  ((h.rdropWhile fun _ hc => .inl hc).rdropWhile
    fun _ hc => .inr (beq_iff_eq.mp hc)).rdropWhile fun _ hc => .inl hc

theorem Worded.trim (h : Worded t) : Worded (Text.trim t) :=
  (h.dropWhile fun _ hc => .inl hc).rdropWhile fun _ hc => .inl hc

/-- Dropping characters in front of a worded text stays inside it. -/
theorem dropWhile_append_of_worded (h : Worded t) {p : Char → Bool}
    (hp : ∀ c, p c = true → Text.isWhitespace c = true ∨ c = '"') (x : Text) :
    (t ++ x).dropWhile p = t.dropWhile p ++ x := by
  rw [List.dropWhile_append, if_neg]
  simpa using (h.dropWhile hp).ne_nil

theorem bareFront_append (h : Worded t) (x : Text) :
    Condition.bareFront (t ++ x) = Condition.bareFront t ++ x := by
  have hblank : ∀ c, Text.isWhitespace c = true →
      Text.isWhitespace c = true ∨ c = '"' := fun _ => .inl
  have hquote : ∀ c : Char, (c == '"') = true →
      Text.isWhitespace c = true ∨ c = '"' := fun _ hc => .inr (beq_iff_eq.mp hc)
  have hfirst := h.dropWhile hblank
  rw [Condition.bareFront, dropWhile_append_of_worded h hblank,
    dropWhile_append_of_worded hfirst hquote,
    dropWhile_append_of_worded (hfirst.dropWhile hquote) hblank]
  rfl

theorem bareBack_append (h : Worded t) (x : Text) :
    Condition.bareBack (x ++ t) = x ++ Condition.bareBack t := by
  have hblank : ∀ c, Text.isWhitespace c = true →
      Text.isWhitespace c = true ∨ c = '"' := fun _ => .inl
  have hquote : ∀ c : Char, (c == '"') = true →
      Text.isWhitespace c = true ∨ c = '"' := fun _ hc => .inr (beq_iff_eq.mp hc)
  have hfirst := h.rdropWhile hblank
  have hsecond := hfirst.rdropWhile hquote
  rw [Condition.bareBack, Text.rdropWhile_append_of_ne_nil _ hfirst.ne_nil,
    Text.rdropWhile_append_of_ne_nil _ hsecond.ne_nil,
    Text.rdropWhile_append_of_ne_nil _ (hsecond.rdropWhile hblank).ne_nil]
  rfl

end Worded

end ChainworksForge.Condition
