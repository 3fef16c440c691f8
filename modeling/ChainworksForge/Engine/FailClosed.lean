import ChainworksForge.Engine.Transition

/-!
# Transition evaluation fails closed

A condition that could not be evaluated never decides a transition, and a run
only moves along the single matched candidate.  `Selects` says that the guarded
candidates of a state select one target.  `evaluateAndTransition_of_selects`
and `evaluateAndTransition_of_not_selects` are the two halves of the behaviour:
with a selection the outcome is that of `takeTransition`, and without one the
run stays in its state for one of the reasons in `Held`.
-/

namespace ChainworksForge.Engine

open ChainworksForge.Support ChainworksForge.Workflow ChainworksForge.Condition

section Selection

variable (plan : RunPlan) (world : World) (stateId : String)
  (allStages : List StageExecution) (db : Database)

/-- Exactly one candidate is matched after both guards, and no candidate reads
a contradictory review summary. -/
def Selects (target : String) : Prop :=
  ∃ state candidates selected,
    plan.state? stateId = some state ∧ state.isEnd = false ∧
      candidateEvaluations plan world db stateId state allStages =
        .ok candidates ∧
      aggregateTransitionTruthConflict (world.context plan db stateId)
        candidates = none ∧
      matchedCandidates candidates = [selected] ∧
      selected.toStateId = target

/-- The candidates that are recorded when none of them is selected. -/
def heldCandidates
    (ctx : Context) (candidates : List CandidateTransitionEvaluation) :
    List CandidateTransitionEvaluation :=
  match aggregateTransitionTruthConflict ctx candidates with
  | some diagnostic =>
      annotateAggregateTransitionTruthConflict candidates diagnostic
  | none => candidates

/-- Why none of them is selected.  A contradictory review summary goes before
what the candidates say. -/
def heldReason
    (ctx : Context) (candidates : List CandidateTransitionEvaluation) :
    WorkflowConflictReason :=
  if (aggregateTransitionTruthConflict ctx candidates).isSome then
    .aggregateTransitionTruthConflicted
  else
    (classifyWorkflowConflictReason candidates).getD
      .noDeclarativeTransitionMatched

/-- The outcome of an evaluation that selects no transition. -/
inductive Held : Outcome → Prop where
  /-- The state is not in the plan. -/
  | unknown (h : plan.state? stateId = none) :
      Held { database := db }
  /-- An end state, or a state without transitions, completes the run. -/
  | completed (state : CompiledState) (h : plan.state? stateId = some state)
      (hfinal : state.isEnd = true ∨ state.transitions = []) :
      Held { database := db.setRunStatus .completed }
  /-- The evaluation stopped; nothing was written. -/
  | failed (state : CompiledState) (h : plan.state? stateId = some state)
      (hend : state.isEnd = false) (failure : Failure)
      (hfailed : candidateEvaluations plan world db stateId state allStages =
        .error failure) :
      Held { database := db, failure := some failure }
  /-- A conflict is recorded and the run is blocked. -/
  | conflict (state : CompiledState) (h : plan.state? stateId = some state)
      (hend : state.isEnd = false) (hleaves : state.transitions ≠ [])
      (candidates : List CandidateTransitionEvaluation)
      (hcandidates : candidateEvaluations plan world db stateId state
        allStages = .ok candidates) :
      Held
        { database :=
            recordWorkflowConflictAndBlock db stateId allStages
              (heldCandidates (world.context plan db stateId) candidates)
              (some (heldReason (world.context plan db stateId)
                candidates)) }

variable {plan world stateId allStages db}

/-- A selected transition is taken. -/
theorem evaluateAndTransition_of_selects
    {target : String} (h : Selects plan world stateId allStages db target) :
    evaluateAndTransition plan world stateId allStages db =
      takeTransition plan world stateId target db := by
  obtain ⟨state, candidates, selected, hstate, hend, hcandidates, htruth,
    hmatched, rfl⟩ := h
  simp only [evaluateAndTransition, hstate, hend, hcandidates, htruth,
    hmatched, Bool.false_eq_true, if_false]

/-- A state without transitions has no candidates. -/
theorem candidateEvaluations_of_nil
    {state : CompiledState} (h : state.transitions = []) :
    candidateEvaluations plan world db stateId state allStages = .ok [] := by
  simp only [candidateEvaluations, h, List.zipIdx_nil, List.mapM_nil,
    Option.pure_def, List.map_nil, applyImplementationReviewRefinementGuard,
    List.findIdx?_nil, ite_self]

theorem recordWorkflowConflictAndBlock_none
    (candidates : List CandidateTransitionEvaluation) :
    recordWorkflowConflictAndBlock db stateId allStages candidates none =
      recordWorkflowConflictAndBlock db stateId allStages candidates
        (some ((classifyWorkflowConflictReason candidates).getD
          .noDeclarativeTransitionMatched)) := by
  unfold recordWorkflowConflictAndBlock
  rw [Option.none_or, Option.some_or, Option.getD_some]

/-- Without a selection the run is held. -/
theorem evaluateAndTransition_of_not_selects
    (h : ∀ target, ¬Selects plan world stateId allStages db target) :
    Held plan world stateId allStages db
      (evaluateAndTransition plan world stateId allStages db) := by
  unfold evaluateAndTransition
  split
  · rename_i hstate
    exact .unknown hstate
  · rename_i state hstate
    by_cases hend : state.isEnd = true
    · rw [if_pos hend]
      exact .completed state hstate (.inl hend)
    rw [if_neg hend]
    rw [Bool.not_eq_true] at hend
    split
    · rename_i failure hfailed
      exact .failed state hstate hend failure hfailed
    · rename_i candidates hcandidates
      have hheld : state.transitions ≠ [] → Held plan world stateId allStages
          db _ := fun hleaves =>
        .conflict state hstate hend hleaves candidates hcandidates
      dsimp only
      split
      · rename_i diagnostic htruth
        have hleaves : state.transitions ≠ [] := by
          intro hempty
          rw [candidateEvaluations_of_nil hempty] at hcandidates
          obtain rfl := Except.ok.inj hcandidates
          exact absurd htruth (by simp [aggregateTransitionTruthConflict])
        have hconflict := hheld hleaves
        rwa [heldCandidates, heldReason, htruth] at hconflict
      · rename_i htruth
        have hconflict : state.transitions ≠ [] →
            Held plan world stateId allStages db
              { database := recordWorkflowConflictAndBlock db stateId allStages
                  candidates none } := by
          intro hleaves
          have hconflict := hheld hleaves
          rw [heldCandidates, heldReason, htruth] at hconflict
          rwa [recordWorkflowConflictAndBlock_none]
        split
        · rename_i selected hmatched
          -- this branch is a selection
          exact absurd
            ⟨state, candidates, selected, hstate, hend, hcandidates, htruth,
              hmatched, rfl⟩
            (h selected.toStateId)
        · by_cases hempty : state.transitions.isEmpty = true
          · rw [if_pos hempty]
            exact .completed state hstate (.inr (by simpa using hempty))
          · rw [if_neg hempty]
            exact hconflict (by simpa using hempty)
        · rename_i hmany
          refine hconflict fun hempty => ?_
          -- without transitions nothing is matched
          rw [candidateEvaluations_of_nil hempty] at hcandidates
          obtain rfl := Except.ok.inj hcandidates
          exact absurd rfl hmany

/-- The record of a conflict between the candidates of a state. -/
def conflictOf
    (ctx : Context) (stateId : String) (allStages : List StageExecution)
    (candidates : List CandidateTransitionEvaluation) :
    WorkflowConflictRecord where
  stageExecutionId := latestStageExecutionIdForState allStages stateId
  currentStateId := stateId
  reason := heldReason ctx candidates
  status := initialWorkflowConflictStatus (heldReason ctx candidates)
  candidateTransitions := heldCandidates ctx candidates

/-- A step recorded one new conflict, beside conflicts that were on record
before it, and blocked the run. -/
def ConflictRecorded
    (record : WorkflowConflictRecord) (before after : Database) : Prop :=
  after.run.status = .blocked ∧
    ∃ kept, kept.Sublist before.conflicts ∧
      after.conflicts = kept ++ [record]

theorem conflictRecorded_recordWorkflowConflictAndBlock
    (ctx : Context) (db : Database) (stateId : String)
    (allStages : List StageExecution)
    (candidates : List CandidateTransitionEvaluation) :
    ConflictRecorded (conflictOf ctx stateId allStages candidates) db
      (recordWorkflowConflictAndBlock db stateId allStages
        (heldCandidates ctx candidates) (some (heldReason ctx candidates))) := by
  unfold recordWorkflowConflictAndBlock
  constructor
  · exact Database.blockRun_status _
  · rw [Database.blockRun_conflicts]
    exact ⟨_, List.filter_sublist, rfl⟩

namespace Held

variable {outcome : Outcome} {state : CompiledState}

/-- A held run stays in its state. -/
theorem currentState_eq (h : Held plan world stateId allStages db outcome) :
    outcome.database.run.currentState = db.run.currentState := by
  cases h with
  | unknown => rfl
  | completed => rfl
  | failed => rfl
  | conflict =>
      simp only [recordWorkflowConflictAndBlock, Database.blockRun_currentState,
        Database.upsertConflict_run]

/-- A held run gets no new stage execution. -/
theorem stages_eq (h : Held plan world stateId allStages db outcome) :
    outcome.database.stages = db.stages := by
  cases h with
  | unknown => rfl
  | completed => rfl
  | failed => rfl
  | conflict =>
      simp only [recordWorkflowConflictAndBlock, Database.blockRun_stages,
        Database.upsertConflict_stages]

theorem of_unknown (h : Held plan world stateId allStages db outcome)
    (hstate : plan.state? stateId = none) : outcome = { database := db } := by
  cases h with
  | unknown => rfl
  | completed _ hfound => simp [hstate] at hfound
  | failed _ hfound => simp [hstate] at hfound
  | conflict _ hfound => simp [hstate] at hfound

theorem of_final (h : Held plan world stateId allStages db outcome)
    (hstate : plan.state? stateId = some state)
    (hfinal : state.isEnd = true ∨ state.transitions = []) :
    outcome = { database := db.setRunStatus .completed } := by
  cases h with
  | unknown hfound => simp [hstate] at hfound
  | completed => rfl
  | failed found hfound hend failure hfailed =>
      obtain rfl := Option.some.inj (hfound.symm.trans hstate)
      obtain hend' | hempty := hfinal
      · simp [hend] at hend'
      · simp [candidateEvaluations_of_nil hempty] at hfailed
  | conflict found hfound hend hleaves =>
      obtain rfl := Option.some.inj (hfound.symm.trans hstate)
      simp [hend, hleaves] at hfinal

theorem of_failed (h : Held plan world stateId allStages db outcome)
    (hstate : plan.state? stateId = some state) (hend : state.isEnd = false)
    (failure : Failure)
    (hfailed : candidateEvaluations plan world db stateId state allStages =
      .error failure) :
    outcome = { database := db, failure := some failure } := by
  cases h with
  | unknown hfound => simp [hstate] at hfound
  | completed found hfound hfinal =>
      obtain rfl := Option.some.inj (hfound.symm.trans hstate)
      obtain hend' | hempty := hfinal
      · simp [hend] at hend'
      · simp [candidateEvaluations_of_nil hempty] at hfailed
  | failed found hfound _ other hother =>
      obtain rfl := Option.some.inj (hfound.symm.trans hstate)
      rw [Except.error.inj (hother.symm.trans hfailed)]
  | conflict found hfound _ _ candidates hcandidates =>
      obtain rfl := Option.some.inj (hfound.symm.trans hstate)
      simp [hfailed] at hcandidates

theorem of_candidates (h : Held plan world stateId allStages db outcome)
    (hstate : plan.state? stateId = some state) (hend : state.isEnd = false)
    (hleaves : state.transitions ≠ [])
    (candidates : List CandidateTransitionEvaluation)
    (hcandidates : candidateEvaluations plan world db stateId state allStages =
      .ok candidates) :
    outcome.failure = none ∧
      ConflictRecorded
        (conflictOf (world.context plan db stateId) stateId allStages
          candidates) db outcome.database := by
  cases h with
  | unknown hfound => simp [hstate] at hfound
  | completed found hfound hfinal =>
      obtain rfl := Option.some.inj (hfound.symm.trans hstate)
      simp [hend, hleaves] at hfinal
  | failed found hfound _ failure hfailed =>
      obtain rfl := Option.some.inj (hfound.symm.trans hstate)
      simp [hcandidates] at hfailed
  | conflict found hfound _ _ others hothers =>
      obtain rfl := Option.some.inj (hfound.symm.trans hstate)
      obtain rfl := Except.ok.inj (hothers.symm.trans hcandidates)
      exact ⟨rfl, conflictRecorded_recordWorkflowConflictAndBlock _ _ _ _ _⟩

end Held

end Selection

/-! ## The loop budget of a selected target -/

/-- A matched candidate leads to a state with an iteration left. -/
def WithinLoopBudget
    (plan : RunPlan) (allStages : List StageExecution)
    (candidate : CandidateTransitionEvaluation) : Prop :=
  candidate.result = .matched →
    closeoutLoopBudgetExhaustion plan allStages candidate.toStateId = none

theorem withinLoopBudget_applyLoopBudget
    (plan : RunPlan) (allStages : List StageExecution)
    (candidate : CandidateTransitionEvaluation) :
    WithinLoopBudget plan allStages
      (applyLoopBudget plan allStages candidate) := by
  unfold WithinLoopBudget applyLoopBudget
  split_ifs with hmatched
  · split
    · intro h
      simp [CandidateTransitionEvaluation.override] at h
    · rename_i hnone
      intro _
      exact hnone
  · intro h
    exact absurd h hmatched

theorem mem_of_mem_modify
    {α : Type} {l : List α} {i : Nat} {f : α → α} {a : α}
    (h : a ∈ l.modify i f) :
    a ∈ l ∨ ∃ b, l[i]? = some b ∧ a = f b := by
  obtain ⟨j, hj⟩ := List.mem_iff_getElem?.mp h
  rw [List.getElem?_modify] at hj
  by_cases hij : i = j
  · subst hij
    obtain ⟨b, hb, hab⟩ := Option.map_eq_some_iff.mp hj
    exact .inr ⟨b, hb, by simpa using hab.symm⟩
  · obtain ⟨b, hb, hab⟩ := Option.map_eq_some_iff.mp hj
    rw [if_neg hij] at hab
    exact .inl (hab ▸ List.mem_of_getElem? hb)

/-- Overriding a candidate keeps the budget if the new result does. -/
theorem withinLoopBudget_modify
    {plan : RunPlan} {allStages : List StageExecution}
    {candidates : List CandidateTransitionEvaluation} {i : Nat}
    {result : CandidateTransitionResult} {diagnostic : Text}
    (hall : ∀ c ∈ candidates, WithinLoopBudget plan allStages c)
    (hresult : result = .matched → ∀ c, candidates[i]? = some c →
      closeoutLoopBudgetExhaustion plan allStages c.toStateId = none) :
    ∀ c ∈ candidates.modify i fun c => c.override result diagnostic,
      WithinLoopBudget plan allStages c := by
  intro c hc
  obtain hc | ⟨b, hb, rfl⟩ := mem_of_mem_modify hc
  · exact hall c hc
  · intro hmatched
    exact hresult hmatched b hb

/-- Overriding a candidate keeps the targets. -/
theorem map_toStateId_modify
    (candidates : List CandidateTransitionEvaluation) (i : Nat)
    (result : CandidateTransitionResult) (diagnostic : Text) :
    (candidates.modify i fun c => c.override result diagnostic).map
        (·.toStateId) = candidates.map (·.toStateId) := by
  refine List.ext_getElem? fun j => ?_
  rw [List.getElem?_map, List.getElem?_map, List.getElem?_modify]
  cases candidates[j]? with
  | none => rfl
  | some c =>
      by_cases hij : i = j
      · simp [hij, CandidateTransitionEvaluation.override]
      · simp [hij]

theorem withinLoopBudget_refinementGuard
    {plan : RunPlan} {world : World} {ctx : Context} {stateId : String}
    {state : CompiledState} {allStages : List StageExecution}
    {candidates guarded : List CandidateTransitionEvaluation}
    (htargets : candidates.map (·.toStateId) =
      state.transitions.map (·.toState))
    (hall : ∀ c ∈ candidates, WithinLoopBudget plan allStages c)
    (h : applyImplementationReviewRefinementGuard plan world ctx stateId state
      allStages candidates = .ok guarded) :
    ∀ c ∈ guarded, WithinLoopBudget plan allStages c := by
  unfold applyImplementationReviewRefinementGuard at h
  split_ifs at h
  · exact Except.ok.inj h ▸ hall
  split at h
  · exact Except.ok.inj h ▸ hall
  dsimp only at h
  split at h
  · simp at h
  split_ifs at h
  · exact Except.ok.inj h ▸ hall
  · exact Except.ok.inj h ▸ hall
  split at h
  · exact Except.ok.inj h ▸ withinLoopBudget_modify hall (by simp)
  rename_i refineIndex hrefine
  split at h
  · exact Except.ok.inj h ▸ withinLoopBudget_modify
      (withinLoopBudget_modify hall (by simp)) (by simp)
  · rename_i hbudget
    refine Except.ok.inj h ▸ withinLoopBudget_modify
      (withinLoopBudget_modify hall (by simp)) ?_
    intro _ c hc
    -- the refined candidate stands at the transition to refinement
    obtain ⟨hlt, htarget, -⟩ := List.findIdx?_eq_some_iff_getElem.mp hrefine
    have hstate := congrArg (Option.map (·.toStateId)) hc
    rw [← List.getElem?_map, map_toStateId_modify, htargets,
      List.getElem?_map, List.getElem?_eq_getElem hlt, Option.map_some,
      Option.map_some, Option.some.injEq] at hstate
    rw [← hstate, of_decide_eq_true htarget]
    exact hbudget

theorem forall₂_of_mapM
    {α β : Type} {f : α → Option β} {l : List α} {l' : List β}
    (h : l.mapM f = some l') : List.Forall₂ (fun a b => f a = some b) l l' := by
  induction l generalizing l' with
  | nil =>
      rw [List.mapM_nil] at h
      obtain rfl := Option.some.inj h
      exact .nil
  | cons a rest ih =>
      rw [List.mapM_cons] at h
      obtain ⟨b, hb, hrest⟩ := Option.bind_eq_some_iff.mp h
      obtain ⟨bs, hbs, hcons⟩ := Option.bind_eq_some_iff.mp hrest
      obtain rfl := Option.some.inj hcons
      exact .cons hb (ih hbs)

/-- The candidates stand for the transitions of the state, in order. -/
theorem map_toStateId_of_mapM
    {ctx : Context} {stateId : String} {transitions : List CompiledTransition}
    {evaluated : List CandidateTransitionEvaluation}
    (h : transitions.zipIdx.mapM (evaluateTransitionCandidate ctx stateId) =
      some evaluated) :
    evaluated.map (·.toStateId) = transitions.map (·.toState) := by
  have hall := forall₂_of_mapM h
  have hmap : evaluated.map (·.toStateId) =
      transitions.zipIdx.map fun entry => entry.1.toState := by
    clear h
    generalize transitions.zipIdx = entries at hall
    induction hall with
    | nil => rfl
    | cons hhead _ ih =>
        obtain ⟨condition, -, rfl⟩ := Option.map_eq_some_iff.mp hhead
        rw [List.map_cons, List.map_cons, ih]
  have hfst : (transitions.zipIdx.map Prod.fst).map CompiledTransition.toState =
      transitions.map (·.toState) := by
    rw [List.zipIdx_map_fst]
  rw [hmap, ← hfst, List.map_map]
  rfl

/-- A selected target has an iteration left in the list that was checked. -/
theorem not_exhausted_of_selects
    {plan : RunPlan} {world : World} {stateId target : String}
    {allStages : List StageExecution} {db : Database}
    (h : Selects plan world stateId allStages db target) :
    closeoutLoopBudgetExhaustion plan allStages target = none := by
  obtain ⟨state, candidates, selected, -, -, hcandidates, -, hmatched, rfl⟩ := h
  unfold candidateEvaluations at hcandidates
  dsimp only at hcandidates
  split at hcandidates
  · simp at hcandidates
  rename_i evaluated hevaluated
  have htargets : (evaluated.map (applyLoopBudget plan allStages)).map
      (·.toStateId) = state.transitions.map (·.toState) := by
    rw [← map_toStateId_of_mapM hevaluated, List.map_map]
    refine List.map_congr_left fun c _ => ?_
    rw [Function.comp_apply]
    unfold applyLoopBudget
    split_ifs
    · split <;> rfl
    · rfl
  have hall : ∀ c ∈ evaluated.map (applyLoopBudget plan allStages),
      WithinLoopBudget plan allStages c := by
    intro c hc
    obtain ⟨b, -, rfl⟩ := List.mem_map.mp hc
    exact withinLoopBudget_applyLoopBudget plan allStages b
  have hselected : selected ∈ matchedCandidates candidates := by
    rw [hmatched]
    exact List.mem_singleton_self selected
  obtain ⟨hmem, hresult⟩ := List.mem_filter.mp hselected
  exact withinLoopBudget_refinementGuard htargets hall hcandidates selected
    hmem (of_decide_eq_true hresult)

/-- A run that takes a transition is in the target, unless the transition is
refused and nothing changes. -/
theorem takeTransition_currentState
    (plan : RunPlan) (world : World) (stateId target : String)
    (db : Database) :
    (takeTransition plan world stateId target db).database.run.currentState =
        some target ∨
      ((takeTransition plan world stateId target db).failure.isSome = true ∧
        (takeTransition plan world stateId target db).database = db) := by
  unfold takeTransition
  split
  · exact .inr ⟨rfl, rfl⟩
  · split
    · split
      · exact .inr ⟨rfl, rfl⟩
      · exact .inl rfl
    · exact .inl rfl

/-- A state with an owner and some transitions. -/
def plainState
    (id : String) (transitions : List CompiledTransition) : CompiledState where
  id := id
  label := id
  owner := { agentId := "lead", provider := "acp" }
  isManualGate := false
  isEnd := false
  transitions := transitions

/-- A draft that is always followed by its archive. -/
def draftPlan : RunPlan where
  initialState := "draft"
  states :=
    [("draft", plainState "draft" [{ toState := "archive", condition := "true" }]),
      ("archive", plainState "archive" [])]

/-- A run that is being worked on. -/
def runningDatabase (stateId : String) : Database where
  run := { status := .running, currentState := some stateId }

end ChainworksForge.Engine
