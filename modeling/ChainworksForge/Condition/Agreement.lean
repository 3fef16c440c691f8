import ChainworksForge.Condition.Clauses

/-!
# Where the evaluator and the lint agree

On a condition joined from atoms that both keep whole, the evaluator computes a
conjunction of the maximal `or` runs, because it cuts at ` and ` first.  The lint
computes a disjunction of the maximal `and` runs.  With mixed connectives these
are different Boolean functions.

The two readings are always related in one direction: when every `or` run has a
true atom, some `and` run consists of true atoms (`exists_and_run_of_or_runs`).
So the readings disagree exactly when an `and` run is true as a whole while an
`or` run is false as a whole.
-/

namespace ChainworksForge.Condition

open ChainworksForge.Support

/-! ## Classes of conditions -/

/-- Class that the evaluator returns for a condition; `none` is a panic. -/
def conditionClass
    (ctx : Context) (condition : Text) : Option CandidateTransitionResult :=
  (evaluateConditionClassified ctx condition).map (·.result)

/-- The evaluator returns `Matched`. -/
def ConditionMatched (ctx : Context) (condition : Text) : Prop :=
  conditionClass ctx condition = some .matched

instance (ctx : Context) (condition : Text) :
    Decidable (ConditionMatched ctx condition) :=
  inferInstanceAs (Decidable (conditionClass ctx condition = some .matched))

/-- The evaluator returns `Matched` or `NotMatched`. -/
def ConditionDecided (ctx : Context) (condition : Text) : Prop :=
  (conditionClass ctx condition).any (·.isTwoValued) = true

instance (ctx : Context) (condition : Text) :
    Decidable (ConditionDecided ctx condition) :=
  inferInstanceAs
    (Decidable ((conditionClass ctx condition).any (·.isTwoValued) = true))

theorem ConditionMatched.decided
    {ctx : Context} {condition : Text}
    (h : ConditionMatched ctx condition) :
    ConditionDecided ctx condition := by
  unfold ConditionMatched at h
  simp [ConditionDecided, h, CandidateTransitionResult.isTwoValued]

/-- Two evaluated operands combined by a connective. -/
def combine (k : Connective)
    (left right : ClassifiedConditionEvaluation) :
    ClassifiedConditionEvaluation :=
  match k with
  | .and => combineAnd left right
  | .or => combineOr left right

theorem conditionMatched_of_and
    {ctx : Context} {condition lhs rhs : Text}
    (h : evaluateConditionClassified ctx condition =
      (evaluateConditionClassified ctx lhs).bind fun left =>
        (evaluateConditionClassified ctx rhs).map (combine .and left)) :
    (ConditionMatched ctx condition ↔
      ConditionMatched ctx lhs ∧ ConditionMatched ctx rhs) ∧
    (ConditionDecided ctx condition ↔
      ConditionDecided ctx lhs ∧ ConditionDecided ctx rhs) := by
  unfold ConditionMatched ConditionDecided conditionClass
  rw [h]
  cases evaluateConditionClassified ctx lhs with
  | none => simp
  | some left =>
      cases evaluateConditionClassified ctx rhs with
      | none => simp
      | some right =>
          simp [combine, combineAnd_result, andResult_matched_iff,
            andResult_isTwoValued]

theorem conditionMatched_of_or
    {ctx : Context} {condition lhs rhs : Text}
    (h : evaluateConditionClassified ctx condition =
      (evaluateConditionClassified ctx lhs).bind fun left =>
        (evaluateConditionClassified ctx rhs).map (combine .or left)) :
    (ConditionMatched ctx condition ↔
      (ConditionDecided ctx lhs ∧ ConditionDecided ctx rhs) ∧
        (ConditionMatched ctx lhs ∨ ConditionMatched ctx rhs)) ∧
    (ConditionDecided ctx condition ↔
      ConditionDecided ctx lhs ∧ ConditionDecided ctx rhs) := by
  unfold ConditionMatched ConditionDecided conditionClass
  rw [h]
  cases evaluateConditionClassified ctx lhs with
  | none => simp
  | some left =>
      cases evaluateConditionClassified ctx rhs with
      | none => simp
      | some right =>
          simp [combine, combineOr_result, orResult_matched_iff,
            orResult_isTwoValued]

/-- The blanks around a condition change neither class. -/
theorem conditionClass_trim
    (ctx : Context) (condition : Text) :
    conditionClass ctx (Text.trim condition) = conditionClass ctx condition := by
  rw [conditionClass, evaluateConditionClassified_trim]
  rfl

/-! ## Atoms beside a cut -/

section Beside

variable {before after before' after' : Option Connective} {k : Connective}
  {first t : Text} {rest : Joints}

/-- An atom that is kept between two joints is kept when a joint beside it is gone. -/
theorem KeptAtom.weaken
    (h : KeptAtom before after t) (hbefore : before' = none ∨ before' = before)
    (hafter : after' = none ∨ after' = after)
    (hbegins : beginsOperand before' after' → beginsOperand before after)
    (hends : endsOperand before' after' → endsOperand before after) :
    KeptAtom before' after' t where
  worded := h.worded
  quiet k := by
    have hquiet := h.quiet k
    have hwithout : quietBefore k.text (blankAt after') 0
        (blankAt before ++ t) = true := by
      rcases hafter with rfl | rfl
      · exact quietBefore_of_append (x := blankAt after) hquiet
      · exact hquiet
    rcases hbefore with rfl | rfl
    · rw [quietBefore_append, parenDepth_blankAt] at hwithout
      exact hwithout.2
    · exact hwithout
  balanced hne := h.balanced (by
    rintro rfl
    exact hne (hafter.elim id id))
  whole := h.whole
  closed hne := h.closed (by
    rintro rfl
    exact hne (hafter.elim id id))
  asciiHead k hk := h.asciiHead k (by
    rcases hbefore with rfl | rfl
    · exact absurd hk.symm (Option.some_ne_none k)
    · exact hk)
  front hbegin := h.front (hbegins hbegin)
  back hend := h.back (hends hend)

/-- The atoms before the first ` and ` are kept without it. -/
theorem keptAtoms_before_and
    (h : AtomsAt KeptAtom before first rest (some .and))
    (hbefore : before ≠ some .and) (hrest : ∀ joint ∈ rest, joint.1 ≠ .and) :
    AtomsAt KeptAtom before first rest none := by
  induction rest generalizing before first with
  | nil =>
      refine h.weaken (.inr rfl) (.inl rfl) ?_ ?_
      · rintro (hor | ⟨hand, -⟩)
        · exact absurd hor.symm (Option.some_ne_none _)
        · exact absurd hand.symm (Option.some_ne_none _)
      · rintro (⟨hor, -⟩ | ⟨hand, -⟩)
        · exact .inl ⟨hor, by decide⟩
        · exact absurd hand hbefore
  | cons joint rest ih =>
      obtain ⟨k', u⟩ := joint
      rw [List.forall_mem_cons] at hrest
      exact ⟨h.1, ih h.2 (by simpa using hrest.1) hrest.2⟩

/-- The atoms behind a joint are kept without it, unless it is an ` or ` that an
` and ` follows. -/
theorem keptAtoms_behind
    (h : AtomsAt KeptAtom (some k) first rest none)
    (hk : k = .and ∨ ∀ joint ∈ rest, joint.1 ≠ .and) :
    AtomsAt KeptAtom none first rest none := by
  have hfirst : ∀ {after : Option Connective},
      (k = .and ∨ after ≠ some .and) → KeptAtom (some k) after first →
        KeptAtom none after first := by
    intro after hand hkept
    refine hkept.weaken (.inl rfl) (.inr rfl) ?_ ?_
    · rintro (hor | ⟨hafter, -⟩)
      · exact .inl hor
      · refine .inr ⟨hafter, ?_⟩
        rcases hand with rfl | hne
        · decide
        · exact absurd hafter hne
    · rintro (⟨hor, -⟩ | ⟨hand, -⟩)
      · exact absurd hor.symm (Option.some_ne_none _)
      · exact absurd hand.symm (Option.some_ne_none _)
  cases rest with
  | nil => exact hfirst (.inr (Option.some_ne_none _).symm) h
  | cons joint rest =>
      obtain ⟨k', u⟩ := joint
      refine ⟨hfirst (hk.imp_right fun hne => ?_) h.1, h.2⟩
      simpa using hne (k', u) List.mem_cons_self

end Beside

/-! ## The evaluator on joined conditions -/

section Operands

variable (ctx : Context) {first t : Text} {front back rest : Joints}
  {k : Connective}

/-- A joined condition with a joint is split. -/
theorem splitConnective_joinAtoms_isSome
    {before after : Option Connective}
    (hatoms : AtomsAt KeptAtom before first rest after) (hrest : rest ≠ []) :
    (splitConnective (normalizeCondition (joinAtoms first rest))
        " and ".toList).isSome = true ∨
      (splitConnective (normalizeCondition (joinAtoms first rest))
        " or ".toList).isSome = true := by
  have hruntime := hatoms.imp KeptAtom.toRuntimeAtom
  have hsome : ∀ k : Connective, (∃ joint ∈ rest, joint.1 = k) →
      (splitConnective (normalizeCondition (joinAtoms first rest))
        k.text).isSome = true := by
    rintro k ⟨joint, hjoint, hk⟩
    rcases exists_first_joint k rest with hnone | ⟨front, u, back, rfl, hfront⟩
    · exact absurd hk (hnone joint hjoint)
    · rw [splitConnective_joinAtoms _ hruntime hfront]
      rfl
  obtain ⟨⟨k, u⟩, hjoint⟩ := List.exists_mem_of_ne_nil rest hrest
  cases k with
  | and => exact .inl (hsome .and ⟨_, hjoint, rfl⟩)
  | or => exact .inr (hsome .or ⟨_, hjoint, rfl⟩)

/-- The operand before a joint is evaluated like the joined text it is cut from. -/
theorem evaluateConditionClassified_frontOperand
    (hatoms : AtomsAt KeptAtom none first front (some k))
    (hfront : ∀ joint ∈ front, joint.1 ≠ .and) :
    evaluateConditionClassified ctx (Text.trim (bareFront (joinAtoms first front))) =
      evaluateConditionClassified ctx (joinAtoms first front) := by
  rw [evaluateConditionClassified_trim]
  have hkept : FrontKept first := by
    cases front with
    | nil =>
        refine KeptAtom.front hatoms ?_
        cases k with
        | and => exact .inr ⟨rfl, by decide⟩
        | or => exact .inl rfl
    | cons joint front =>
        obtain ⟨k', u⟩ := joint
        have hor : k' = .or := by
          have hne := hfront (k', u) List.mem_cons_self
          cases k' with
          | and => exact absurd rfl hne
          | or => rfl
        exact hatoms.1.front (.inl (congrArg some hor))
  have hworded := hatoms.head.worded
  have hhead : (bareFront (joinAtoms first front)).head? ≠ some '"' := by
    obtain ⟨x, hx⟩ := joinAtoms_eq_append first front
    rw [hx, bareFront_append hworded,
      List.head?_append_of_ne_nil _ hworded.bareFront.ne_nil]
    exact hkept.1
  refine evaluateConditionClassified_bareFront ctx hhead ?_
  cases front with
  | nil => exact .inl hkept
  | cons joint front =>
      exact .inr (splitConnective_joinAtoms_isSome hatoms (List.cons_ne_nil _ _))

/-- The operand behind a joint is evaluated like the joined text it is cut from. -/
theorem evaluateConditionClassified_backOperand
    (hatoms : AtomsAt KeptAtom (some k) t back none) :
    evaluateConditionClassified ctx (Text.trim (bareBack (joinAtoms t back))) =
      evaluateConditionClassified ctx (joinAtoms t back) := by
  rw [evaluateConditionClassified_trim]
  have hlast : ∀ {k : Connective} {u : Text},
      KeptAtom (some k) none u → BackKept u := by
    intro k u hkept
    refine hkept.back ?_
    cases k with
    | and => exact .inr ⟨rfl, rfl⟩
    | or => exact .inl ⟨rfl, by decide⟩
  rcases List.eq_nil_or_concat back with rfl | ⟨front, ⟨k', u⟩, rfl⟩
  · have hkept : BackKept t := hlast hatoms
    exact evaluateConditionClassified_bareBack ctx hkept.1 (.inl hkept)
  · rw [List.concat_eq_append] at hatoms ⊢
    have hu : KeptAtom (some k') none u := (atomsAt_append.mp hatoms).2
    have hend : (bareBack (joinAtoms t (front ++ [(k', u)]))).getLast? ≠
        some '"' := by
      have htext : joinAtoms t (front ++ [(k', u)]) =
          (joinAtoms t front ++ k'.text) ++ u := by
        rw [joinAtoms_append, ← List.append_assoc]
        rfl
      rw [htext, bareBack_append hu.worded,
        List.getLast?_append_of_ne_nil _ hu.worded.bareBack.ne_nil]
      exact (hlast hu).1
    exact evaluateConditionClassified_bareBack ctx hend
      (.inr (splitConnective_joinAtoms_isSome hatoms (by simp)))

/-- The first ` and ` of a condition splits it, whatever stands around it. -/
theorem evaluateConditionClassified_and
    (hatoms : AtomsAt KeptAtom none first (front ++ (.and, t) :: back) none)
    (hfront : ∀ joint ∈ front, joint.1 ≠ Connective.and) :
    evaluateConditionClassified ctx
        (joinAtoms first (front ++ (.and, t) :: back)) =
      (evaluateConditionClassified ctx (joinAtoms first front)).bind
        fun left =>
          (evaluateConditionClassified ctx (joinAtoms t back)).map
            (combine .and left) := by
  obtain ⟨hfirst, ht⟩ := atomsAt_append.mp hatoms
  have hsplit : splitConnective (normalizeCondition
      (joinAtoms first (front ++ (.and, t) :: back))) " and ".toList = _ :=
    splitConnective_joinAtoms _ (hatoms.imp KeptAtom.toRuntimeAtom) hfront
  rw [evaluateConditionClassified_eq_operand, evaluateOperand,
    evaluateConstant_of_split (by decide) hsplit, hsplit]
  simp only
  rw [evaluateConditionClassified_frontOperand ctx hfirst hfront,
    evaluateConditionClassified_backOperand ctx ht]
  rfl

/-- Without ` and ` the first ` or ` splits the condition. -/
theorem evaluateConditionClassified_or
    (hatoms : AtomsAt KeptAtom none first ((.or, t) :: back) none)
    (hback : ∀ joint ∈ back, joint.1 ≠ Connective.and) :
    evaluateConditionClassified ctx (joinAtoms first ((.or, t) :: back)) =
      (evaluateConditionClassified ctx first).bind fun left =>
        (evaluateConditionClassified ctx (joinAtoms t back)).map
          (combine .or left) := by
  have hruntime := hatoms.imp KeptAtom.toRuntimeAtom
  have hnone : splitConnective (normalizeCondition
      (joinAtoms first ((.or, t) :: back))) " and ".toList = none :=
    splitConnective_joinAtoms_none hruntime
      (List.forall_mem_cons.mpr ⟨fun hand => Connective.noConfusion hand, hback⟩)
  have hsplit : splitConnective (normalizeCondition
      (joinAtoms first ((.or, t) :: back))) " or ".toList = some
        (Text.trim (bareFront (joinAtoms first [])),
          Text.trim (bareBack (joinAtoms t back))) :=
    splitConnective_joinAtoms [] hruntime (by simp)
  have hfirst : AtomsAt KeptAtom none first [] (some .or) := hatoms.1
  rw [evaluateConditionClassified_eq_operand, evaluateOperand,
    evaluateConstant_of_split (by decide) hsplit, hnone, hsplit]
  simp only
  rw [evaluateConditionClassified_frontOperand ctx hfirst (by simp),
    evaluateConditionClassified_backOperand ctx hatoms.2]
  rfl

end Operands

/-! ## Runs -/

theorem runs_ne_nil
    (k : Connective) (first : Text) (rest : Joints) :
    runs k first rest ≠ [] := by
  cases rest with
  | nil => simp [runs]
  | cons joint rest =>
      obtain ⟨k', t⟩ := joint
      rw [runs]
      split_ifs
      · cases runs k t rest <;> simp [consRun]
      · simp

theorem runs_of_all
    {k : Connective} {first : Text} {rest : Joints}
    (h : ∀ joint ∈ rest, joint.1 = k) :
    runs k first rest = [atomsOf first rest] := by
  induction rest generalizing first with
  | nil => rfl
  | cons joint rest ih =>
      obtain ⟨k', t⟩ := joint
      have hk : k' = k := h (k', t) (by simp)
      rw [runs, if_pos hk, ih fun joint hjoint => h joint (by simp [hjoint])]
      rfl

theorem runs_append
    {k k' : Connective} (hk : k' ≠ k) {first t : Text} {front back : Joints}
    (h : ∀ joint ∈ front, joint.1 = k) :
    runs k first (front ++ (k', t) :: back) =
      atomsOf first front :: runs k t back := by
  induction front generalizing first with
  | nil =>
      rw [List.nil_append, runs, if_neg hk]
      rfl
  | cons joint front ih =>
      obtain ⟨k'', u⟩ := joint
      have hk'' : k'' = k := h (k'', u) (by simp)
      rw [List.cons_append, runs, if_pos hk'',
        ih fun joint hjoint => h joint (by simp [hjoint])]
      rfl

/--
When every `or` run has a true atom, some `and` run consists of true atoms.
-/
theorem exists_and_run_of_or_runs
    (truth : Text → Prop) {first : Text} {rest : Joints}
    (h : ∀ run ∈ runs .or first rest, ∃ a ∈ run, truth a) :
    ∃ run ∈ runs .and first rest, ∀ a ∈ run, truth a := by
  induction rest generalizing first with
  | nil =>
      obtain ⟨a, ha, htrue⟩ := h [first] (by simp [runs])
      rw [List.mem_singleton] at ha
      subst ha
      exact ⟨[a], by simp [runs], by simpa using htrue⟩
  | cons joint rest ih =>
      obtain ⟨k, t⟩ := joint
      cases k with
      | and =>
          rw [runs, if_neg (by decide), List.forall_mem_cons] at h
          obtain ⟨hfirst, hrest⟩ := h
          obtain ⟨a, ha, htrue⟩ := hfirst
          rw [List.mem_singleton] at ha
          subst ha
          obtain ⟨run, hrun, hall⟩ := ih hrest
          rw [runs, if_pos rfl]
          cases hruns : runs .and t rest with
          | nil => exact absurd hruns (runs_ne_nil _ _ _)
          | cons head others =>
              rw [hruns, List.mem_cons] at hrun
              rcases hrun with rfl | hrun
              · refine ⟨a :: run, by simp [consRun], ?_⟩
                simpa using ⟨htrue, hall⟩
              · exact ⟨run, by simp [consRun, hrun], hall⟩
      | or =>
          by_cases hfirst : truth first
          · refine ⟨[first], ?_, by simpa using hfirst⟩
            rw [runs, if_neg (by decide)]
            simp
          · rw [runs, if_pos rfl] at h
            have htail : ∀ run ∈ runs .or t rest, ∃ a ∈ run, truth a := by
              cases hruns : runs .or t rest with
              | nil => simp
              | cons head others =>
                  rw [hruns, consRun, List.forall_mem_cons] at h
                  rw [List.forall_mem_cons]
                  refine ⟨?_, h.2⟩
                  obtain ⟨a, ha, htrue⟩ := h.1
                  rcases List.mem_cons.mp ha with rfl | ha
                  · exact absurd htrue hfirst
                  · exact ⟨a, ha, htrue⟩
            obtain ⟨run, hrun, hall⟩ := ih htail
            refine ⟨run, ?_, hall⟩
            rw [runs, if_neg (by decide)]
            exact List.mem_cons_of_mem _ hrun

/-! ## The two readings -/

theorem conditionDecided_joinAtoms_of_no_and
    {ctx : Context} {first : Text} {rest : Joints}
    (hkept : KeptWhole first rest)
    (hrest : ∀ joint ∈ rest, joint.1 ≠ Connective.and) :
    (ConditionDecided ctx (joinAtoms first rest) ↔
      ∀ a ∈ atomsOf first rest, ConditionDecided ctx a) ∧
    (ConditionMatched ctx (joinAtoms first rest) ↔
      (∀ a ∈ atomsOf first rest, ConditionDecided ctx a) ∧
        ∃ a ∈ atomsOf first rest, ConditionMatched ctx a) := by
  induction rest generalizing first with
  | nil =>
      simp only [joinAtoms, atomsOf, List.map_nil, List.mem_singleton,
        forall_eq, exists_eq_left, true_and]
      exact ⟨fun h => ⟨h.decided, h⟩, And.right⟩
  | cons joint rest ih =>
      obtain ⟨k, t⟩ := joint
      have hk : k = .or := by
        have := hrest (k, t) (by simp)
        cases k with
        | and => exact absurd rfl this
        | or => rfl
      subst hk
      have htail : ∀ joint ∈ rest, joint.1 ≠ Connective.and :=
        fun joint hjoint => hrest joint (by simp [hjoint])
      obtain ⟨hmatched, hdecided⟩ := conditionMatched_of_or
        (evaluateConditionClassified_or ctx hkept htail)
      obtain ⟨ihDecided, ihMatched⟩ :=
        ih (keptAtoms_behind hkept.2 (.inr htail)) htail
      rw [hdecided, hmatched, ihDecided, ihMatched, atomsOf_cons,
        List.forall_mem_cons]
      simp only [List.mem_cons, exists_eq_or_imp, true_and]
      constructor
      · rintro ⟨hall, hfirst | ⟨-, hother⟩⟩
        · exact ⟨hall, Or.inl hfirst⟩
        · exact ⟨hall, Or.inr hother⟩
      · rintro ⟨hall, hfirst | hother⟩
        · exact ⟨hall, Or.inl hfirst⟩
        · exact ⟨hall, Or.inr ⟨hall.2, hother⟩⟩

theorem mem_atomsOf_append
    {first : Text} {front : Joints} {k : Connective} {t : Text}
    {back : Joints} {a : Text} :
    a ∈ atomsOf first (front ++ (k, t) :: back) ↔
      a ∈ atomsOf first front ∨ a ∈ atomsOf t back := by
  simp only [atomsOf, List.map_append, List.map_cons, List.mem_cons,
    List.mem_append]
  tauto

/--
The evaluator reads a joined condition as a conjunction of `or` runs, provided
that every atom is evaluated.
-/
theorem conditionMatched_joinAtoms
    {ctx : Context} {first : Text} {rest : Joints}
    (hkept : KeptWhole first rest) :
    ConditionMatched ctx (joinAtoms first rest) ↔
      (∀ a ∈ atomsOf first rest, ConditionDecided ctx a) ∧
        ∀ run ∈ runs .or first rest, ∃ a ∈ run, ConditionMatched ctx a := by
  induction hn : rest.length using Nat.strong_induction_on
    generalizing first rest with
  | _ n ih =>
      have hor : ∀ joints : Joints,
          (∀ joint ∈ joints, joint.1 ≠ Connective.and) →
          ∀ joint ∈ joints, joint.1 = Connective.or := by
        intro joints h joint hjoint
        have := h joint hjoint
        cases hk : joint.1 with
        | and => exact absurd hk this
        | or => rfl
      rcases exists_first_joint .and rest with hnone | hsplit
      · rw [(conditionDecided_joinAtoms_of_no_and hkept hnone).2,
          runs_of_all (hor rest hnone)]
        simp
      · obtain ⟨front, t, back, rfl, hfront⟩ := hsplit
        obtain ⟨hfirst, ht⟩ := atomsAt_append.mp hkept
        have hleft : KeptWhole first front :=
          keptAtoms_before_and hfirst (Option.some_ne_none _).symm hfront
        have hright : KeptWhole t back := keptAtoms_behind ht (.inl rfl)
        rw [(conditionMatched_of_and
            (evaluateConditionClassified_and ctx hkept hfront)).1,
          (conditionDecided_joinAtoms_of_no_and hleft hfront).2,
          ih back.length (by simp at hn; omega) hright rfl,
          runs_append (by decide) (hor front hfront), List.forall_mem_cons]
        simp only [mem_atomsOf_append, or_imp, forall_and]
        exact and_and_and_comm

/--
Some clause of the lint's normal form has all of its atoms true.  The atoms are
judged by the evaluator on the texts that the lint parsed them from.
-/
def LintClauseHolds (ctx : Context) (condition : Text) : Prop :=
  ∃ clauses, Lint.clauseTexts condition = some clauses ∧
    Lint.parseConditionDnf condition =
      some (clauses.map fun clause => clause.map Lint.parseAtom) ∧
    ∃ clause ∈ clauses, ∀ a ∈ clause, ConditionMatched ctx a

/-- Only the two spellings of a letter have the same lower case. -/
theorem eq_of_asciiLower_eq
    {c : Char} (n : Nat) (hn : n < 128)
    (h : Text.asciiLower c = Char.ofNat (n + 32)) :
    c = Char.ofNat (n + 32) ∨ c = Char.ofNat n := by
  unfold Text.asciiLower at h
  split_ifs at h with hupper
  · right
    have hc : c.toNat ≤ 90 := hupper.2
    have hvalid : ∀ m, m < 200 → (Char.ofNat m).toNat = m := by
      decide +kernel
    have hnat := congrArg Char.toNat h
    rw [hvalid _ (by omega), hvalid _ (by omega)] at hnat
    rw [← Char.ofNat_toNat c]
    congr 1
    omega
  · exact Or.inl h

/-- The only decided spelling of the lint's constant is the lower-case one. -/
theorem trim_eq_true_of_decided
    {ctx : Context} {t : Text} (hdecided : ConditionDecided ctx t)
    (htrue : Text.eqIgnoreAsciiCase (Text.trim t) "true".toList = true) :
    Text.trim t = "true".toList := by
  have hdec : ConditionDecided ctx (Text.trim t) := by
    rw [ConditionDecided, conditionClass_trim]
    exact hdecided
  rw [Text.eqIgnoreAsciiCase, beq_iff_eq] at htrue
  generalize Text.trim t = u at htrue hdec
  obtain ⟨a, b, c, d, rfl⟩ : ∃ a b c d, u = [a, b, c, d] := by
    have hlen := congrArg List.length htrue
    rw [List.length_map] at hlen
    exact List.length_eq_four.mp hlen
  simp only [List.map_cons, List.map_nil] at htrue
  obtain ⟨ha, hb, hc, hd⟩ : Text.asciiLower a = 't' ∧
      Text.asciiLower b = 'r' ∧ Text.asciiLower c = 'u' ∧
      Text.asciiLower d = 'e' := by
    injection htrue with h₁ htrue
    injection htrue with h₂ htrue
    injection htrue with h₃ htrue
    injection htrue with h₄ htrue
    exact ⟨h₁, h₂, h₃, h₄⟩
  rcases eq_of_asciiLower_eq 84 (by decide) ha with rfl | rfl <;>
    rcases eq_of_asciiLower_eq 82 (by decide) hb with rfl | rfl <;>
    rcases eq_of_asciiLower_eq 85 (by decide) hc with rfl | rfl <;>
    rcases eq_of_asciiLower_eq 69 (by decide) hd with rfl | rfl <;>
    first | rfl | exact absurd (show false = true from hdec) (by decide)

/-- The blanks of a joint are not at the ends of the text. -/
theorem blank_mem_trim_joinAtoms
    {first t : Text} {rest : Joints} {k : Connective}
    (hfirst : Worded first) (ht : Worded t) :
    ' ' ∈ Text.trim (joinAtoms first ((k, t) :: rest)) := by
  have hblank : ∀ c, Text.isWhitespace c = true →
      Text.isWhitespace c = true ∨ c = '"' := fun _ => .inl
  have hback := (worded_joinAtoms ht rest).rdropWhile hblank
  rw [joinAtoms, List.append_assoc, Text.trim, Text.trimMatches,
    dropWhile_append_of_worded hfirst hblank, ← List.append_assoc,
    Text.rdropWhile_append_of_ne_nil _ hback.ne_nil]
  exact List.mem_append_left _
    (List.mem_append_right _ List.mem_cons_self)

/-- The lint reads a joined condition as a disjunction of `and` runs. -/
theorem lintClauseHolds_joinAtoms
    {ctx : Context} {first : Text} {rest : Joints}
    (hkept : KeptWhole first rest)
    (hdecided : ∀ a ∈ atomsOf first rest, ConditionDecided ctx a) :
    LintClauseHolds ctx (joinAtoms first rest) ↔
      ∃ run ∈ runs .and first rest, ∀ a ∈ run, ConditionMatched ctx a := by
  by_cases htrue : Text.eqIgnoreAsciiCase (Text.trim (joinAtoms first rest))
      "true".toList = true
  · -- The lint short-cuts the constant; a decided spelling of it is `true`.
    have hclauses : Lint.clauseTexts (joinAtoms first rest) = some [[]] := by
      rw [Lint.clauseTexts, htrue]
      rfl
    have hrest : rest = [] := by
      cases rest with
      | nil => rfl
      | cons joint rest =>
          obtain ⟨k, t⟩ := joint
          have hmem : ' ' ∈ Text.trim (joinAtoms first ((k, t) :: rest)) :=
            blank_mem_trim_joinAtoms hkept.1.worded hkept.2.head.worded
          have hlower : ' ' ∈ (Text.trim (joinAtoms first ((k, t) :: rest))).map
              Text.asciiLower := List.mem_map.mpr ⟨' ', hmem, by decide⟩
          rw [Text.eqIgnoreAsciiCase, beq_iff_eq] at htrue
          rw [htrue] at hlower
          exact absurd hlower (by decide)
    subst hrest
    have hmatched : ConditionMatched ctx first := by
      rw [ConditionMatched, ← conditionClass_trim,
        trim_eq_true_of_decided (hdecided first List.mem_cons_self) htrue]
      rfl
    constructor
    · intro _
      exact ⟨[first], List.mem_cons_self, by simpa using hmatched⟩
    · intro _
      refine ⟨[[]], hclauses, ?_, [], List.mem_cons_self, by simp⟩
      rw [Lint.parseConditionDnf, hclauses, Option.map_some]
  · rw [Bool.not_eq_true] at htrue
    have hclauses := Lint.clauseTexts_joinAtoms hkept htrue
    have hmatched : ∀ run : List Text,
        (∀ a ∈ run.map Text.trim, ConditionMatched ctx a) ↔
          ∀ a ∈ run, ConditionMatched ctx a := by
      intro run
      simp only [List.forall_mem_map, ConditionMatched, conditionClass_trim]
    constructor
    · rintro ⟨clauses, htexts, -, clause, hclause, hholds⟩
      rw [hclauses, Option.some.injEq] at htexts
      subst htexts
      obtain ⟨run, hrun, rfl⟩ := List.mem_map.mp hclause
      exact ⟨run, hrun, (hmatched run).mp hholds⟩
    · rintro ⟨run, hrun, hholds⟩
      refine ⟨_, hclauses, ?_, run.map Text.trim, List.mem_map_of_mem hrun,
        (hmatched run).mpr hholds⟩
      rw [Lint.parseConditionDnf, hclauses, Option.map_some]

/-- A context of an ordinary run that supplies workflow variables only. -/
def variablesOnly (entries : List (String × Json)) : Context where
  currentStateId := "state_1".toList
  planVariables := fun name =>
    (entries.map fun entry => (entry.1.toList, entry.2)).lookup name
  artifactPath := fun _ => none
  hasMetaRoot := true
  artifactRoot := []
  runId := []
  pathExists := fun _ => false
  readJson := fun _ => none
  controlledField := fun _ _ => .ok none
  controlledExists := fun _ => .ok false
  outputForPredicate := fun _ => .ok .ordinaryRun
  selfAssessmentSummary := none
  approvals := []
  authorizes := fun _ => .ok none
  runtimeFlavor := .multiThread

/-- Three variables of which only the last one is one. -/
def lastVariableSet : Context :=
  variablesOnly [("a", .number (.posInt 0)), ("b", .number (.posInt 0)),
    ("c", .number (.posInt 1))]

end ChainworksForge.Condition
