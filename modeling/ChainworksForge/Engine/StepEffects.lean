import ChainworksForge.Engine.FailClosed
import ChainworksForge.Engine.StageEffects

/-!
# What a step of the orchestrator does

A step acts on one execution: the latest one of the current state, or a new one.
`StepEffect` says what it may do to the rows of a run.  No approval is decided.
Every execution keeps its number and its state, and new executions get new
numbers.  Invocations are only queued for the execution that the step acts on
and for new ones, and always under new keys.  Other executions keep their
status, except that entering an end state without tasks completes the first
execution of that state.
-/

namespace ChainworksForge.Engine

open ChainworksForge.Support ChainworksForge.Workflow

/-- Number and state of an execution. -/
def StageExecution.key (stage : StageExecution) : StageExecutionId × String :=
  (stage.id, stage.stageId)

/-- The state that the next step looks at. -/
def Database.here (plan : RunPlan) (db : Database) : String :=
  db.run.currentState.getD plan.initialState

/-- Executions are numbered in the order in which they were created. -/
def Database.IsNumbered (db : Database) : Prop :=
  db.stages.map (·.id) = List.range db.stages.length

/-- What a step that acts on one execution may do; `bare` holds of a state that
it enters and that is an end state without tasks. -/
structure StepEffect
    (bare : String → Prop) (acting : StageExecutionId) (before after : Database) :
    Prop where
  approvals : AsksApprovals before after
  rows : before.stages.map (·.key) <+: after.stages.map (·.key)
  numbered : before.IsNumbered → after.IsNumbered
  invokes : Relation.ReflTransGen
    (fun a b => ∃ execution,
      (execution = acting ∨ before.stages.length ≤ execution) ∧
        Enqueues execution a b)
    before.invokes after.invokes
  others : before.IsNumbered → ∀ row ∈ after.stages, row.id ≠ acting →
    row.id < before.stages.length →
      row ∈ before.stages ∨ (row.status = .completed ∧ bare row.stageId)

namespace StepEffect

variable {bare : String → Prop} {acting : StageExecutionId} {a b c : Database}

theorem of_same
    (happrovals : AsksApprovals a b) (hstages : b.stages = a.stages)
    (hinvokes : b.invokes = a.invokes) : StepEffect bare acting a b :=
  ⟨happrovals, by rw [hstages], by
    unfold Database.IsNumbered
    rw [hstages]
    exact id, by rw [hinvokes], fun _ row hrow _ _ => .inl (hstages ▸ hrow)⟩

theorem refl (acting : StageExecutionId) (db : Database) :
    StepEffect bare acting db db :=
  of_same (.of_eq rfl) rfl rfl

theorem length_le (hab : StepEffect bare acting a b) :
    a.stages.length ≤ b.stages.length := by
  have hlength := hab.rows.length_le
  rwa [List.length_map, List.length_map] at hlength

theorem trans (hab : StepEffect bare acting a b) (hbc : StepEffect bare acting b c) :
    StepEffect bare acting a c := by
  have hle := hab.length_le
  refine ⟨hab.approvals.trans hbc.approvals, hab.rows.trans hbc.rows,
    hbc.numbered ∘ hab.numbered, hab.invokes.trans ?_, ?_⟩
  · refine Relation.ReflTransGen.mono ?_ _ _ hbc.invokes
    rintro x y ⟨execution, hexecution, henqueues⟩
    exact ⟨execution, hexecution.imp_right hle.trans, henqueues⟩
  · intro hnumbered row hrow hne hlt
    obtain hrow | hbare := hbc.others (hab.numbered hnumbered) row hrow hne
      (hlt.trans_le hle)
    · exact hab.others hnumbered row hrow hne hlt
    · exact .inr hbare

/-- A change of the status of the execution that a step acts on. -/
theorem of_restatus
    {status : StageStatus} (happrovals : AsksApprovals a b)
    (hstages : b.stages = restatus a.stages acting status)
    (hinvokes : Relation.ReflTransGen
      (fun x y => ∃ execution,
        (execution = acting ∨ a.stages.length ≤ execution) ∧
          Enqueues execution x y)
      a.invokes b.invokes) : StepEffect bare acting a b := by
  refine ⟨happrovals, ?_, ?_, hinvokes, ?_⟩
  · rw [hstages, map_restatus _ fun _ _ => rfl]
  · unfold Database.IsNumbered
    rw [hstages, map_restatus _ fun _ _ => rfl, restatus, List.length_map]
    exact fun h => h
  · intro _ row hrow hne _
    rw [hstages] at hrow
    obtain ⟨before, hbefore, rfl⟩ := List.mem_map.mp hrow
    by_cases hid : before.id = acting
    · simp [hid] at hne
    · rw [if_neg hid]
      exact .inl hbefore

/-- Dispatching work for the execution that a step acts on. -/
theorem of_stageEffect
    {stage : StageExecution} (h : StageEffect True stage a b) :
    StepEffect bare stage.id a b := by
  have hinvokes : Relation.ReflTransGen
      (fun x y => ∃ execution,
        (execution = stage.id ∨ a.stages.length ≤ execution) ∧
          Enqueues execution x y)
      a.invokes b.invokes := by
    refine Relation.ReflTransGen.mono ?_ _ _ h.invokes
    exact fun x y hxy => ⟨stage.id, .inl rfl, hxy⟩
  obtain hsame | ⟨status, -, -, hstages⟩ := h.stages
  · refine ⟨h.approvals, by rw [hsame], ?_, hinvokes,
      fun _ row hrow _ _ => .inl (hsame ▸ hrow)⟩
    unfold Database.IsNumbered
    rw [hsame]
    exact id
  · exact of_restatus h.approvals hstages hinvokes

theorem setStageStatus (db : Database) (status : StageStatus) :
    StepEffect bare acting db (db.setStageStatus acting status) :=
  of_restatus (.of_eq rfl) rfl .refl

theorem insertStage
    {db : Database} {stage : StageExecution}
    (hid : stage.id = db.stages.length) :
    StepEffect bare acting db (db.insertStage stage) := by
  refine ⟨.of_eq rfl, ?_, ?_, .refl, ?_⟩
  · simp
  · intro hnumbered
    exact ids_concat_iff.mpr ⟨hnumbered, hid⟩
  · intro _ row hrow _ hlt
    obtain hrow | hrow := List.mem_append.mp hrow
    · exact .inl hrow
    · rw [List.mem_singleton.mp hrow, hid] at hlt
      exact absurd hlt (lt_irrefl _)

end StepEffect

open StepEffect

section Step

variable {bare : String → Prop} (plan : RunPlan) (world : World) (stateId : String)
  (state : CompiledState) (acting : StageExecutionId)

theorem stepEffect_evaluateAndTransition
    (allStages : List StageExecution) (db : Database) :
    StepEffect bare acting db
      (evaluateAndTransition plan world stateId allStages db).database := by
  by_cases hselects :
      ∃ target, Selects plan world stateId allStages db target
  · obtain ⟨target, hselects⟩ := hselects
    rw [evaluateAndTransition_of_selects hselects]
    unfold takeTransition
    split
    · exact refl acting db
    · split_ifs
      · split
        · exact refl acting db
        · exact (insertStage rfl).trans (of_same (.of_eq rfl) rfl rfl)
      · exact of_same (.of_eq rfl) rfl rfl
  · rw [not_exists] at hselects
    have hheld := evaluateAndTransition_of_not_selects hselects
    generalize evaluateAndTransition plan world stateId allStages db = outcome
      at hheld
    cases hheld with
    | unknown => exact refl acting db
    | completed => exact of_same (.of_eq rfl) rfl rfl
    | failed => exact refl acting db
    | conflict =>
        unfold recordWorkflowConflictAndBlock
        exact of_same (.of_eq (by simp; rfl)) (by simp) (by simp)

/-- Opening a state adds at most the execution that the step then acts on. -/
theorem stepEffect_openStage
    (pending : Option StageExecution) (db : Database) :
    StepEffect bare (openStage world stateId state pending db).1.id db
      (openStage world stateId state pending db).2 := by
  cases pending with
  | none => exact insertStage rfl
  | some stage => exact refl stage.id db

theorem stepEffect_enterCompute
    (pending : Option StageExecution) (db : Database) :
    StepEffect bare (openStage world stateId state pending db).1.id db
      (enterCompute plan world stateId state pending db).database := by
  have hopened : StepEffect bare (openStage world stateId state pending db).1.id
      db (openStage world stateId state pending db).2 :=
    stepEffect_openStage world stateId state pending db
  unfold enterCompute
  generalize openStage world stateId state pending db = opened at hopened ⊢
  obtain ⟨stage, entered⟩ := opened
  have hstart : StepEffect bare stage.id entered
      (startWork plan world state stage
        (if (entered.setStageStatus stage.id .running).run.status = .running
        then entered.setStageStatus stage.id .running
        else (entered.setStageStatus stage.id .running).setRunStatus
          .running)).database := by
    refine .trans ?_
      (of_stageEffect (stageEffect_startWork plan world stage state _).weaken)
    split_ifs
    · exact setStageStatus _ _
    · exact (setStageStatus _ _).trans (of_same (.of_eq rfl) rfl rfl)
  refine hopened.trans ?_
  dsimp only
  split
  · exact hstart
  · split
    · exact refl stage.id entered
    · by_cases hhold : world.rolloutContractHold = true
      · rw [if_pos hhold]
        exact of_stageEffect
          (stageEffect_holdImplementationStart world stage _ entered)
      · rw [if_neg hhold]
        exact hstart

theorem stepEffect_synthesizeBlockedReview
    (pending : Option StageExecution) (db : Database) :
    StepEffect bare (openStage world stateId state pending db).1.id db
      (synthesizeBlockedReview plan world stateId state pending
        db).database := by
  have hopened : StepEffect bare (openStage world stateId state pending db).1.id
      db (openStage world stateId state pending db).2 :=
    stepEffect_openStage world stateId state pending db
  unfold synthesizeBlockedReview
  generalize openStage world stateId state pending db = opened at hopened ⊢
  obtain ⟨stage, entered⟩ := opened
  refine (hopened.trans (setStageStatus entered .running)).trans ?_
  dsimp only
  split
  · exact refl _ _
  · exact (setStageStatus _ _).trans
      (stepEffect_evaluateAndTransition plan world stateId _ _ _)

/-- The states that are end states without tasks. -/
def entersBareEnd
    (stateId : String) (state : CompiledState) (entered : String) : Prop :=
  entered = stateId ∧ (state.isEnd && state.tasks.isEmpty) = true

theorem stepEffect_completeBareEnd
    (hbare : (state.isEnd && state.tasks.isEmpty) = true) (db : Database) :
    StepEffect (entersBareEnd stateId state) acting db
      (completeBareEnd world stateId state db).database := by
  have hnew : StepEffect (entersBareEnd stateId state) acting db
      (db.insertStage (newStage world db stateId state)) :=
    insertStage rfl
  unfold completeBareEnd
  dsimp only
  split
  · exact hnew
  · rename_i endStage hend
    have hsettled : StepEffect (entersBareEnd stateId state) endStage.id
        (db.insertStage (newStage world db stateId state))
        ((db.insertStage (newStage world db stateId state)).setStageStatus
          endStage.id .completed) :=
      setStageStatus _ _
    refine hnew.trans
      ⟨hsettled.approvals, hsettled.rows, hsettled.numbered, .refl, ?_⟩
    intro hnumbered row hrow _ hlt
    by_cases hid : row.id = endStage.id
    · -- the first execution of the state is the one that is completed
      obtain ⟨old, hold, rfl⟩ := List.mem_map.mp hrow
      have hmem : endStage ∈
          (db.insertStage (newStage world db stateId state)).stages :=
        (List.mem_insertionSort _).mp (List.mem_of_find?_eq_some hend)
      have hstate : endStage.stageId = stateId := by
        simpa using List.find?_some hend
      by_cases hold' : old.id = endStage.id
      · obtain rfl := eq_of_ids hnumbered hold hmem hold'
        rw [if_pos rfl]
        exact .inr ⟨rfl, hstate, hbare⟩
      · rw [if_neg hold'] at hid
        exact absurd hid hold'
    · exact hsettled.others hnumbered row hrow hid hlt

theorem stepEffect_enterState
    (pending : Option StageExecution) (db : Database) :
    StepEffect (entersBareEnd stateId state)
      (openStage world stateId state pending db).1.id db
      (enterState plan world stateId state pending db).database ∨
    StepEffect (entersBareEnd stateId state) db.stages.length db
      (enterState plan world stateId state pending db).database := by
  unfold enterState
  split_ifs with hbare
  · exact .inl (stepEffect_completeBareEnd world stateId state _ hbare db)
  · right
    let stage := newStage world db stateId state
    have hnew : StepEffect (entersBareEnd stateId state) stage.id db
        (db.insertStage stage) := insertStage rfl
    exact hnew.trans (of_stageEffect (stageEffect_awaitApproval stage _))
  · exact .inl (stepEffect_synthesizeBlockedReview plan world stateId state
      pending db)
  · exact .inl (stepEffect_enterCompute plan world stateId state pending db)

theorem stepEffect_supersedeStage
    (db : Database) (stage : StageExecution) (status : StageStatus) :
    StepEffect bare stage.id db (supersedeStage world db stage status) := by
  refine (setStageStatus db .skipped).trans ?_
  refine (insertStage ?_).trans (of_same (.of_eq rfl) rfl rfl)
  simp [Database.setStageStatus]

theorem stepEffect_scheduleTargetedRetry
    (db : Database) (stage : StageExecution) (source : InvokeItem) :
    StepEffect bare stage.id db
      (scheduleTargetedRetry world db stage source).database := by
  have hattempt : StepEffect bare stage.id db
      (supersedeStage world db stage .running) :=
    stepEffect_supersedeStage world db stage .running
  unfold scheduleTargetedRetry
  dsimp only
  split
  · exact refl stage.id db
  · rename_i after hafter
    obtain ⟨hstages, -, happrovals⟩ := enqueueInvoke_same hafter
    have hqueued : EnqueuesFor db.stages.length
        (supersedeStage world db stage .running) after :=
      .enqueueInvoke ⟨rfl, rfl⟩ hafter
    refine ⟨hattempt.approvals.trans (.of_eq happrovals), ?_, ?_,
      hattempt.invokes.trans ?_, ?_⟩
    · rw [hstages]
      exact hattempt.rows
    · unfold Database.IsNumbered
      rw [hstages]
      exact hattempt.numbered
    · refine Relation.ReflTransGen.mono ?_ _ _ hqueued
      exact fun x y hxy => ⟨db.stages.length, .inr le_rfl, hxy⟩
    · rw [hstages]
      exact hattempt.others

theorem stepEffect_settleRunning
    (stage : StageExecution) (allStages : List StageExecution) (failed : Nat)
    (db : Database) :
    StepEffect bare stage.id db
      (settleRunning plan world stateId state stage allStages failed
        db).database := by
  have hfailed : StepEffect bare stage.id db
      ((db.setStageStatus stage.id .failed).setRunStatus .blocked) :=
    (setStageStatus db .failed).trans (of_same (.of_eq rfl) rfl rfl)
  unfold settleRunning
  by_cases hvotes : 0 < failed
  · rw [if_pos hvotes]
    dsimp only
    split
    · exact refl stage.id db
    · exact stepEffect_scheduleTargetedRetry world db stage _
    · exact refl stage.id db
    · exact hfailed
    · exact hfailed
  · rw [if_neg hvotes]
    refine (setStageStatus db .completed).trans ?_
    dsimp only
    split_ifs
    · exact of_same (.of_eq rfl) rfl rfl
    · exact stepEffect_evaluateAndTransition plan world stateId stage.id _ _

theorem stepEffect_advanceRunning
    (stage : StageExecution) (allStages : List StageExecution)
    (db : Database) :
    StepEffect bare stage.id db
      (advanceRunning plan world stateId state stage allStages
        db).database := by
  have hsettle : ∀ failed, StepEffect bare stage.id db
      (settleRunning plan world stateId state stage allStages failed
        db).database := fun failed =>
    stepEffect_settleRunning plan world stateId state stage allStages failed db
  unfold advanceRunning
  dsimp only
  split_ifs
  · exact refl stage.id db
  · exact of_stageEffect
      (stageEffect_kickstart plan world stage state _ db).weaken
  · split
    · split_ifs
      · exact of_stageEffect (stageEffect_withIdea plan world stage
          (stageEffect_dispatchTasks world stage _ _ db))
      · exact hsettle _
    · exact hsettle _
  · exact refl stage.id db

/-- A step on an execution acts on it or on a new one. -/
theorem stepEffect_advanceStage
    (stage : StageExecution) (allStages : List StageExecution)
    (db : Database) :
    ∃ acting, (acting = stage.id ∨ acting = db.stages.length) ∧
      StepEffect (entersBareEnd stateId state) acting db
        (advanceStage plan world stateId state stage allStages
          db).database := by
  have hleave : StepEffect (entersBareEnd stateId state) stage.id db
      (evaluateAndTransition plan world stateId allStages db).database :=
    stepEffect_evaluateAndTransition plan world stateId stage.id allStages db
  have hstuck : StepEffect (entersBareEnd stateId state) stage.id db
      (if state.isEnd && allStages.any fun other =>
          other.stageId = stateId ∧ other.status = .completed then
        ({ database := db.setRunStatus .completed } : Outcome)
      else { database := db.blockRun }).database := by
    split_ifs
    · exact of_same (.of_eq rfl) rfl rfl
    · exact of_same (.of_eq (by simp)) (by simp) (by simp)
  unfold advanceStage
  split
  · exact ⟨_, .inl rfl,
      stepEffect_advanceRunning plan world stateId state stage allStages db⟩
  · refine ⟨_, .inl rfl, ?_⟩
    split_ifs
    · exact of_same (.requestApproval db stateId) rfl rfl
    · exact refl _ db
  · exact ⟨_, .inl rfl, hleave⟩
  · exact ⟨_, .inl rfl, hstuck⟩
  · exact ⟨_, .inl rfl, hstuck⟩
  · exact ⟨_, .inl rfl, hleave⟩
  · split_ifs
    · exact ⟨_, .inl rfl, of_stageEffect (stageEffect_awaitApproval stage db)⟩
    · obtain h | h :=
        stepEffect_enterState plan world stateId state (some stage) db
      · exact ⟨_, .inl rfl, h⟩
      · exact ⟨_, .inr rfl, h⟩
  · obtain h | h := stepEffect_enterState plan world stateId state none db
    · exact ⟨_, .inr rfl, h⟩
    · exact ⟨_, .inr rfl, h⟩

theorem stepEffect_advanceRunWorkflow
    (target : Option StageExecution) (db : Database) :
    ∃ bare acting, StepEffect bare acting db
      (advanceRunWorkflow plan world target db).database := by
  unfold advanceRunWorkflow
  dsimp only
  split
  · exact ⟨fun _ => True, 0, refl 0 db⟩
  · rename_i state _
    have henter : ∃ bare acting, StepEffect bare acting db
        (enterState plan world ((target.map (·.stageId)).getD
          (db.run.currentState.getD plan.initialState)) state none
            db).database := by
      obtain h | h := stepEffect_enterState plan world _ state none db
      · exact ⟨_, _, h⟩
      · exact ⟨_, _, h⟩
    split
    · exact henter
    · split_ifs
      · exact henter
      · obtain ⟨acting, -, h⟩ :=
          stepEffect_advanceStage plan world _ state _ db.listStages db
        exact ⟨_, acting, h⟩

theorem stepEffect_advanceRun (db : Database) :
    ∃ bare acting, StepEffect bare acting db
      (advanceRun plan world db).database := by
  unfold advanceRun
  split_ifs
  · exact ⟨fun _ => True, 0, refl 0 db⟩
  · exact stepEffect_advanceRunWorkflow plan world none db

theorem stepEffect_advanceRunTargeted
    (target : StageExecutionId) (db : Database) :
    ∃ bare acting, StepEffect bare acting db
      (advanceRunTargeted plan world target db).database := by
  unfold advanceRunTargeted
  split
  · exact ⟨fun _ => True, 0, refl 0 db⟩
  · split_ifs
    · exact ⟨fun _ => True, 0, refl 0 db⟩
    · exact ⟨fun _ => True, 0, refl 0 db⟩
    · exact stepEffect_advanceRunWorkflow plan world _ db

end Step

/-! ## The execution that a step looks at -/

/-- A state that is not in the plan holds the run. -/
theorem advanceRunWorkflow_unknown
    {plan : RunPlan} {world : World} {db : Database}
    (h : plan.state? (db.here plan) = none) :
    advanceRunWorkflow plan world none db = { database := db } := by
  unfold advanceRunWorkflow
  rw [Database.here] at h
  simp only [Option.map_none, Option.getD_none, h]

/-- An untargeted step looks at the latest execution of the current state. -/
theorem advanceRunWorkflow_known
    {plan : RunPlan} {world : World} {db : Database} {state : CompiledState}
    (h : plan.state? (db.here plan) = some state) :
    advanceRunWorkflow plan world none db =
      match latestOf db.listStages (db.here plan) with
      | none => enterState plan world (db.here plan) state none db
      | some stage =>
          if stageIsStale db.listStages stage then
            enterState plan world (db.here plan) state none db
          else advanceStage plan world (db.here plan) state stage
            db.listStages db := by
  unfold advanceRunWorkflow
  rw [Database.here] at h ⊢
  simp only [Option.map_none, Option.getD_none, h, Option.none_or,
    Option.isNone_none, Bool.true_and]
  rfl

end ChainworksForge.Engine
