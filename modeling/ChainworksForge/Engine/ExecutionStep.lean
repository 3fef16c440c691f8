import ChainworksForge.Engine.Batches

/-!
# What a step does to one execution

`ExecutionStep` says what a step of the orchestrator does to one execution:
nothing is queued for it, or one batch is.  The batch is that of the first phase
and nothing was queued before, or it is that of the next phase and everything
that was queued before has settled without failure.
-/

namespace ChainworksForge.Engine

open ChainworksForge.Support ChainworksForge.Workflow

/-- A task of an execution is queued. -/
def Queued
    (db : Database) (execution : StageExecutionId) (taskIndex : Nat) : Prop :=
  ∃ item ∈ db.invokes, item.id = .task execution taskIndex

/-- Everything that is queued for an execution has settled without failure. -/
def Succeeded (db : Database) (execution : StageExecutionId) : Prop :=
  ∀ item ∈ db.stageInvokes execution, item.status.inFlight = false ∧
    db.settled item = true ∧ db.voteFailed item = false

/-- The ways in which a step completes an execution without running tasks: the
in-process quality gate, an end state without tasks, and the review of an
implementation that reported itself blocked. -/
def CompletesWithoutTasks (world : World) (state : CompiledState) : Prop :=
  (∃ task, state.systemTask = some task ∧
      task.taskType = "quality_gate_boundary_evaluator") ∨
    (state.isEnd && state.tasks.isEmpty) = true ∨
    (stateProducesImplementationReview state &&
      world.selfAssessmentBlocked) = true

/-! ## Phases -/

theorem le_currentPhase
    {tasks : List CompiledTask} {items : List InvokeItem} {item : InvokeItem}
    {phase : Nat} (hitem : item ∈ items)
    (hphase : itemPhase tasks item = some phase) :
    phase ≤ currentPhase tasks items := by
  have hmem : phase ∈ items.filterMap (itemPhase tasks) :=
    List.mem_filterMap.mpr ⟨item, hitem, hphase⟩
  unfold currentPhase
  cases hmax : (items.filterMap (itemPhase tasks)).max? with
  | none =>
      rw [List.max?_eq_none_iff] at hmax
      simp [hmax] at hmem
  | some top => exact (List.max?_eq_some_iff.mp hmax).2 _ hmem

/-- The current phase is that of some queued invocation, if any has one. -/
theorem exists_currentPhase
    {tasks : List CompiledTask} {items : List InvokeItem} {item : InvokeItem}
    {phase : Nat} (hitem : item ∈ items)
    (hphase : itemPhase tasks item = some phase) :
    ∃ top ∈ items, itemPhase tasks top = some (currentPhase tasks items) := by
  have hmem : phase ∈ items.filterMap (itemPhase tasks) :=
    List.mem_filterMap.mpr ⟨item, hitem, hphase⟩
  unfold currentPhase
  cases hmax : (items.filterMap (itemPhase tasks)).max? with
  | none =>
      rw [List.max?_eq_none_iff] at hmax
      simp [hmax] at hmem
  | some top =>
      exact List.mem_filterMap.mp (List.max?_eq_some_iff.mp hmax).1

theorem lt_of_nextPhase
    {tasks : List CompiledTask} {current phase : Nat}
    (h : nextPhase tasks current = some phase) : current < phase := by
  have hmem := (List.min?_eq_some_iff.mp h).1
  simpa using (List.mem_filter.mp hmem).2

/-- No task lies strictly between the current phase and the next one. -/
theorem le_of_lt_nextPhase
    {tasks : List CompiledTask} {current phase : Nat} {task : CompiledTask}
    (h : nextPhase tasks current = some phase) (htask : task ∈ tasks)
    (hlt : task.phase < phase) : task.phase ≤ current := by
  by_contra hgt
  have hmem : task.phase ∈
      (tasks.map (·.phase)).filter fun p => current < p :=
    List.mem_filter.mpr ⟨List.mem_map_of_mem htask, by simpa using hgt⟩
  have hle := (List.min?_eq_some_iff.mp h).2 _ hmem
  omega

/-- Without a next phase no task lies above the current one. -/
theorem le_of_nextPhase_eq_none
    {tasks : List CompiledTask} {current : Nat} {task : CompiledTask}
    (h : nextPhase tasks current = none) (htask : task ∈ tasks) :
    task.phase ≤ current := by
  by_contra hgt
  have hmem : task.phase ∈
      (tasks.map (·.phase)).filter fun p => current < p :=
    List.mem_filter.mpr ⟨List.mem_map_of_mem htask, by simpa using hgt⟩
  rw [nextPhase, List.min?_eq_none_iff] at h
  simp [h] at hmem

/-! ## What a step does to one execution -/

/-- Nothing was queued for an execution. -/
def QueuesNothing
    (execution : StageExecutionId) (before after : Database) : Prop :=
  ∃ new, after.invokes = before.invokes ++ new ∧
    ∀ item ∈ new, item.stageExecutionId ≠ execution ∧
      item.id.execution ≠ execution

/-- The row of an execution after a step that queues nothing for it. -/
def KeepsRow
    (execution : StageExecutionId) (completes : Prop)
    (before after : Database) : Prop :=
  ∀ row ∈ after.stages, row.id = execution → row ∈ before.stages ∨
    (row.status.isStarted = true ∧
      (row.IsOpen → ∃ old ∈ before.stages, old.id = execution ∧ old.IsOpen) ∧
      (row.status = .completed → completes))

/-- What a step does to one execution. -/
inductive ExecutionStep
    (world : World) (state : CompiledState) (stateId : String)
    (tasks : List CompiledTask) (execution : StageExecutionId)
    (before after : Database) : Prop where
  | quiet (hqueue : QueuesNothing execution before after)
      (hrow : KeepsRow execution
        (CompletesWithoutTasks world state ∨
          ∃ stage ∈ before.stages, stage.id = execution ∧ stage.IsOpen ∧
            readyToComplete stateId state stage before = true)
        before after)
  | dispatched (stage : StageExecution) (hstage : stage ∈ before.stages)
      (hid : stage.id = execution) (hopen : stage.IsOpen) (phase : Nat)
      (hphase : (phase = 0 ∧ before.stageInvokes execution = []) ∨
        (Succeeded before execution ∧
          before.stageInvokes execution ≠ [] ∧
          nextPhase tasks
            (currentPhase tasks (before.stageInvokes execution)) =
              some phase))
      (hdispatch : Dispatches tasks stage phase before after)
      (hrow : KeepsRow execution (CompletesWithoutTasks world state) before
        after)
      (hstarted : ∀ row ∈ after.stages, row.id = execution →
        row.status.isStarted = true)

namespace QueuesNothing

variable {execution : StageExecutionId} {a b c : Database}

theorem of_invokes_eq (h : b.invokes = a.invokes) :
    QueuesNothing execution a b :=
  ⟨[], by rw [h, List.append_nil], by simp⟩

theorem of_stepEffect
    {bare : String → Prop} {acting : StageExecutionId}
    (h : StepEffect bare acting a b) (hne : execution ≠ acting)
    (hlt : execution < a.stages.length) : QueuesNothing execution a b := by
  have hnew : ∀ {x y : List InvokeItem},
      Relation.ReflTransGen (fun x y => ∃ other,
        (other = acting ∨ a.stages.length ≤ other) ∧ Enqueues other x y) x y →
      ∃ new, y = x ++ new ∧ ∀ item ∈ new,
        item.stageExecutionId ≠ execution ∧ item.id.execution ≠ execution := by
    intro x y hxy
    induction hxy with
    | refl => exact ⟨[], by simp, by simp⟩
    | tail _ hstep ih =>
        obtain ⟨new, rfl, hothers⟩ := ih
        obtain ⟨other, hother, item, ⟨hpayload, hkey⟩, -, rfl⟩ := hstep
        have hotherNe : other ≠ execution := by
          rintro rfl
          obtain h | h := hother
          · exact hne h
          · exact absurd hlt h.not_gt
        refine ⟨new ++ [item], by rw [List.append_assoc], ?_⟩
        intro entry hentry
        obtain hentry | hentry := List.mem_append.mp hentry
        · exact hothers entry hentry
        · rw [List.mem_singleton.mp hentry, hpayload, hkey]
          exact ⟨hotherNe, hotherNe⟩
  exact hnew h.invokes

theorem stageInvokes_eq (h : QueuesNothing execution a b) :
    b.stageInvokes execution = a.stageInvokes execution := by
  obtain ⟨new, hnew, hothers⟩ := h
  have hnone : new.filter (fun item => item.stageExecutionId = execution) =
      [] := by
    rw [List.filter_eq_nil_iff]
    intro item hitem
    simpa using (hothers item hitem).1
  rw [Database.stageInvokes, Database.stageInvokes, hnew, List.filter_append,
    hnone, List.append_nil]

theorem queued_iff (h : QueuesNothing execution a b) (taskIndex : Nat) :
    Queued b execution taskIndex ↔ Queued a execution taskIndex := by
  obtain ⟨new, hnew, hothers⟩ := h
  unfold Queued
  rw [hnew]
  constructor
  · rintro ⟨item, hitem, hid⟩
    obtain hitem | hitem := List.mem_append.mp hitem
    · exact ⟨item, hitem, hid⟩
    · refine absurd ?_ (hothers item hitem).2
      rw [hid]
      rfl
  · rintro ⟨item, hitem, hid⟩
    exact ⟨item, List.mem_append_left _ hitem, hid⟩

end QueuesNothing

namespace KeepsRow

variable {execution : StageExecutionId} {completes : Prop} {a b : Database}

theorem of_mem
    (h : ∀ row ∈ b.stages, row.id = execution → row ∈ a.stages) :
    KeepsRow execution completes a b := fun row hrow hid =>
  .inl (h row hrow hid)

/-- A further step that leaves the row alone. -/
theorem trans_mem
    {c : Database} (hab : KeepsRow execution completes a b)
    (hbc : ∀ row ∈ c.stages, row.id = execution → row ∈ b.stages) :
    KeepsRow execution completes a c := fun row hrow hid =>
  hab row (hbc row hrow hid) hid

/-- A change of the status of an execution. -/
theorem of_restatus
    {status : StageStatus}
    (hstages : b.stages = restatus a.stages execution status)
    (hstarted : status.isStarted = true)
    (hopen : status.isTerminal = false →
      ∃ old ∈ a.stages, old.id = execution ∧ old.IsOpen)
    (hcompletes : status = .completed → completes) :
    KeepsRow execution completes a b := by
  intro row hrow hid
  rw [hstages] at hrow
  obtain ⟨old, hold, rfl⟩ := List.mem_map.mp hrow
  by_cases hsame : old.id = execution
  · rw [if_pos hsame]
    exact .inr ⟨hstarted, hopen, hcompletes⟩
  · rw [if_neg hsame] at hid
    exact absurd hid hsame

theorem of_stageEffect
    {stage : StageExecution} (h : StageEffect completes stage a b)
    (hstage : stage ∈ a.stages) (hopen : stage.IsOpen) :
    KeepsRow stage.id completes a b := by
  obtain hsame | ⟨status, hstarted, hcompletes, hstages⟩ := h.stages
  · exact of_mem fun row hrow _ => hsame ▸ hrow
  · exact of_restatus hstages hstarted (fun _ => ⟨stage, hstage, rfl, hopen⟩)
      hcompletes

theorem mono
    {weaker : Prop} (h : KeepsRow execution completes a b)
    (hweaker : completes → weaker) : KeepsRow execution weaker a b := by
  intro row hrow hid
  obtain hold | ⟨hstarted, hopen, hcompletes⟩ := h row hrow hid
  · exact .inl hold
  · exact .inr ⟨hstarted, hopen, hweaker ∘ hcompletes⟩

end KeepsRow

/-- Dispatching work does not reset an execution that was started. -/
theorem isStarted_of_stageEffect
    {completes : Prop} {stage : StageExecution} {a b : Database}
    (h : StageEffect completes stage a b)
    (ha : ∀ row ∈ a.stages, row.id = stage.id → row.status.isStarted = true) :
    ∀ row ∈ b.stages, row.id = stage.id → row.status.isStarted = true := by
  intro row hrow hid
  obtain hsame | ⟨status, hstarted, -, hstages⟩ := h.stages
  · exact ha row (hsame ▸ hrow) hid
  · rw [hstages] at hrow
    obtain ⟨old, hold, rfl⟩ := List.mem_map.mp hrow
    split_ifs at hid ⊢ with hsame
    · exact hstarted
    · exact absurd hid hsame

/-- A step keeps the state of an execution. -/
theorem StepEffect.exists_old
    {bare : String → Prop} {acting : StageExecutionId} {a b : Database}
    (h : StepEffect bare acting a b) (hnumbered : a.IsNumbered)
    {row : StageExecution} (hrow : row ∈ b.stages)
    (hlt : row.id < a.stages.length) :
    ∃ old ∈ a.stages, old.id = row.id ∧ old.stageId = row.stageId := by
  obtain ⟨i, hi⟩ := List.mem_iff_getElem?.mp hrow
  have hid : row.id = i := by
    have hget : (b.stages.map (·.id))[i]? = some row.id := by
      rw [List.getElem?_map, hi]
      rfl
    rw [h.numbered hnumbered] at hget
    obtain ⟨_, hrange⟩ := List.getElem?_eq_some_iff.mp hget
    simpa using hrange.symm
  have hkey := List.prefix_iff_getElem?.mp h.rows i (by simpa [hid] using hlt)
  rw [List.getElem?_map, hi, Option.map_some, Option.some.injEq] at hkey
  rw [List.getElem_map] at hkey
  exact ⟨_, List.getElem_mem _, (congrArg Prod.fst hkey).symm,
    (congrArg Prod.snd hkey).symm⟩

/-- Where an execution stands in the rows of a run. -/
structure Located
    (state : CompiledState) (stateId : String) (tasks : List CompiledTask)
    (execution : StageExecutionId) (db : Database) : Prop where
  numbered : db.IsNumbered
  inRange : execution < db.stages.length
  ofState : ∀ row ∈ db.stages, row.id = execution → row.stageId = stateId
  effective : effectiveTasks state (isPostApproval state stateId db) = tasks
  keys : ∀ item ∈ db.invokes,
    item.stageExecutionId = execution ↔ item.id.execution = execution
  indexed : ∀ item ∈ db.stageInvokes execution, ∀ i,
    item.id = .task execution i →
      item.taskIndex = i ∧ item.dynamicPhase = none
  pendingEmpty : ∀ row ∈ db.stages, row.id = execution →
    row.status = .pending → db.stageInvokes execution = []

namespace Located

variable {state : CompiledState} {stateId : String}
  {tasks : List CompiledTask} {execution : StageExecutionId} {db : Database}

theorem unused
    (hloc : Located state stateId tasks execution db)
    (hempty : db.stageInvokes execution = []) : Unused execution db := by
  intro item hitem hkey
  have hpayload := (hloc.keys item hitem).mpr hkey
  have hmem : item ∈ db.stageInvokes execution :=
    List.mem_filter.mpr ⟨hitem, by simpa using hpayload⟩
  simp [hempty] at hmem

/-- A state that is not a manual gate works through its own tasks. -/
theorem tasks_eq
    (hloc : Located state stateId tasks execution db)
    (hgate : state.isManualGate = false) : tasks = state.tasks := by
  rw [← hloc.effective]
  simp [isPostApproval, effectiveTasks, hgate]

/-- A task with a phase above the current one is not queued. -/
theorem fresh_of_nextPhase
    (hloc : Located state stateId tasks execution db) {phase : Nat}
    (hnext : nextPhase tasks (currentPhase tasks (db.stageInvokes execution)) =
      some phase) :
    ∀ entry ∈ tasksOfPhase tasks phase, ∀ item ∈ db.invokes,
      item.id ≠ .task execution entry.2 := by
  intro entry hentry item hitem hid
  obtain ⟨hmem, hphase⟩ := List.mem_filter.mp hentry
  have htask : tasks[entry.2]? = some entry.1 :=
    List.mem_zipIdx_iff_getElem?.mp hmem
  have hown : item ∈ db.stageInvokes execution := by
    refine List.mem_filter.mpr ⟨hitem, ?_⟩
    rw [decide_eq_true_eq, hloc.keys item hitem, hid]
    rfl
  obtain ⟨hindex, hdynamic⟩ := hloc.indexed item hown entry.2 hid
  have hitemPhase : itemPhase tasks item = some phase := by
    rw [itemPhase, hdynamic, Option.none_or, hindex, htask, Option.map_some]
    simpa using hphase
  have hle := le_currentPhase hown hitemPhase
  have hlt := lt_of_nextPhase hnext
  omega

end Located

/-! ## Steps on an execution -/

section Steps

variable {plan : RunPlan} {world : World} {state : CompiledState}
  {stateId : String} {tasks : List CompiledTask}
  {execution : StageExecutionId} {db : Database}

/-- A step that acts on another execution. -/
theorem executionStep_of_stepEffect
    (hloc : Located state stateId tasks execution db)
    (hstate : plan.state? stateId = some state)
    {here : String} {entered : CompiledState}
    (hentered : plan.state? here = some entered)
    {acting : StageExecutionId} (hne : execution ≠ acting) {after : Database}
    (h : StepEffect (entersBareEnd here entered) acting db after) :
    ExecutionStep world state stateId tasks execution db after := by
  refine .quiet (.of_stepEffect h hne hloc.inRange) ?_
  intro row hrow hid
  obtain hold | ⟨hstatus, hhere, hbare⟩ := h.others hloc.numbered row hrow
    (hid ▸ hne) (hid ▸ hloc.inRange)
  · exact .inl hold
  · -- an end state without tasks may complete another execution of itself
    obtain ⟨old, hold, holdId, holdState⟩ :=
      h.exists_old hloc.numbered hrow (hid ▸ hloc.inRange)
    have hsame : here = stateId := by
      rw [← hhere, ← holdState, hloc.ofState old hold (holdId.trans hid)]
    subst hsame
    obtain rfl := Option.some.inj (hentered.symm.trans hstate)
    refine .inr ⟨by rw [hstatus]; rfl, ?_, fun _ => .inl (.inr (.inl hbare))⟩
    intro hopen
    simp [StageExecution.IsOpen, hstatus, StageStatus.isTerminal] at hopen

theorem completesWithoutTasks_of_hasQualityGate
    {stage : StageExecution} (hstate : plan.state? stage.stageId = some state)
    (h : HasQualityGate plan stage) : CompletesWithoutTasks world state := by
  obtain ⟨task, htask, htype⟩ := h
  rw [hstate, Option.bind_some] at htask
  exact .inl ⟨task, htask, htype⟩

/-- Settling an execution queues nothing for it. -/
theorem queuesNothing_settleRunning
    {stage : StageExecution} (hlt : stage.id < db.stages.length)
    (allStages : List StageExecution) (failed : Nat) :
    QueuesNothing stage.id db
      (settleRunning plan world stateId state stage allStages failed
        db).database := by
  unfold settleRunning
  by_cases hvotes : 0 < failed
  · rw [if_pos hvotes]
    dsimp only
    split
    · exact .of_invokes_eq rfl
    · rename_i source _
      unfold scheduleTargetedRetry
      dsimp only
      split
      · exact .of_invokes_eq rfl
      · rename_i after hafter
        -- the invocation belongs to the new attempt
        unfold Database.enqueueInvoke at hafter
        split_ifs at hafter
        obtain rfl := Option.some.inj hafter
        refine ⟨[retryItem source db.stages.length], rfl, ?_⟩
        intro item hitem
        rw [List.mem_singleton.mp hitem]
        exact ⟨hlt.ne', hlt.ne'⟩
    · exact .of_invokes_eq rfl
    · exact .of_invokes_eq rfl
    · exact .of_invokes_eq rfl
  · rw [if_neg hvotes]
    dsimp only
    split_ifs
    · exact .of_invokes_eq rfl
    · have hleave : StepEffect (fun _ => False) db.stages.length
          (db.setStageStatus stage.id .completed)
          (evaluateAndTransition plan world stateId allStages
            (db.setStageStatus stage.id .completed)).database :=
        stepEffect_evaluateAndTransition plan world stateId _ allStages _
      have hqueue : QueuesNothing stage.id
          (db.setStageStatus stage.id .completed)
          (evaluateAndTransition plan world stateId allStages
            (db.setStageStatus stage.id .completed)).database :=
        .of_stepEffect hleave hlt.ne (by simpa [Database.setStageStatus])
      exact hqueue

/-- Settling an execution ends it or leaves it alone. -/
theorem keepsRow_settleRunning
    {stage : StageExecution} (hnumbered : db.IsNumbered)
    (hlt : stage.id < db.stages.length)
    (allStages : List StageExecution) {failed : Nat} {completes : Prop}
    (hcompletes : failed = 0 → completes) :
    KeepsRow stage.id completes db
      (settleRunning plan world stateId state stage allStages failed
        db).database := by
  have hfailed : KeepsRow stage.id completes db
      ((db.setStageStatus stage.id .failed).setRunStatus .blocked) :=
    .of_restatus rfl rfl (by rintro ⟨⟩) (by rintro ⟨⟩)
  unfold settleRunning
  by_cases hvotes : 0 < failed
  · rw [if_pos hvotes]
    dsimp only
    split
    · exact .of_mem fun _ hrow _ => hrow
    · rename_i source _
      unfold scheduleTargetedRetry
      dsimp only
      split
      · exact .of_mem fun _ hrow _ => hrow
      · rename_i after hafter
        have hskipped : KeepsRow stage.id completes db
            (db.setStageStatus stage.id .skipped) :=
          .of_restatus rfl rfl (by rintro ⟨⟩) (by rintro ⟨⟩)
        refine hskipped.trans_mem fun row hrow hid => ?_
        rw [(enqueueInvoke_same hafter).1] at hrow
        obtain hrow | hrow := List.mem_append.mp hrow
        · exact hrow
        · rw [List.mem_singleton.mp hrow] at hid
          exact absurd hid hlt.ne'
    · exact .of_mem fun _ hrow _ => hrow
    · exact hfailed
    · exact hfailed
  · rw [if_neg hvotes]
    have hcompleted : KeepsRow stage.id completes db
        (db.setStageStatus stage.id .completed) :=
      .of_restatus rfl rfl (by rintro ⟨⟩) fun _ => hcompletes (by omega)
    dsimp only
    split_ifs
    · exact hcompleted
    · have hleave : StepEffect (fun _ => False) db.stages.length
          (db.setStageStatus stage.id .completed)
          (evaluateAndTransition plan world stateId allStages
            (db.setStageStatus stage.id .completed)).database :=
        stepEffect_evaluateAndTransition plan world stateId _ allStages _
      have hsettled : StepEffect (fun _ => False) stage.id db
          (db.setStageStatus stage.id .completed) := .setStageStatus db .completed
      refine hcompleted.trans_mem fun row hrow hid => ?_
      obtain hold | ⟨-, hfalse⟩ := hleave.others (hsettled.numbered hnumbered)
        row hrow (hid ▸ hlt.ne) (by simpa [Database.setStageStatus, hid])
      · exact hold
      · exact hfalse.elim

theorem executionStep_advanceRunning
    (hloc : Located state stateId tasks execution db)
    (hstate : plan.state? stateId = some state)
    (hgate : state.isManualGate = true → state.dynamicParallel = none)
    (hwhole : ∀ phase, ¬StopsMidway world (tasksOfPhase tasks phase))
    {stage : StageExecution} (hstage : stage ∈ db.stages)
    (hid : stage.id = execution) (hrunning : stage.status = .running)
    (allStages : List StageExecution) :
    ExecutionStep world state stateId tasks execution db
      (advanceRunning plan world stateId state stage allStages
        db).database := by
  have hstageState : plan.state? stage.stageId = some state := by
    rw [hloc.ofState stage hstage hid, hstate]
  have hopen : stage.IsOpen := by
    rw [StageExecution.IsOpen, hrunning]
    rfl
  subst hid
  have hstarted : ∀ row ∈ db.stages, row.id = stage.id →
      row.status.isStarted = true := by
    intro row hrow hrowId
    rw [eq_of_ids hloc.numbered hrow hstage hrowId, hrunning]
    rfl
  have hsettle : ∀ failed,
      (failed = 0 → readyToComplete stateId state stage db = true) →
      ExecutionStep world state stateId tasks stage.id db
        (settleRunning plan world stateId state stage allStages failed
          db).database := by
    intro failed hready
    exact .quiet (queuesNothing_settleRunning hloc.inRange allStages failed)
      (keepsRow_settleRunning hloc.numbered hloc.inRange allStages
        fun h => .inr ⟨stage, hstage, rfl, hopen, hready h⟩)
  unfold advanceRunning
  dsimp only
  rw [hloc.effective]
  by_cases hflight : ((db.stageInvokes stage.id).any
      fun item => item.status.inFlight) = true
  · rw [if_pos hflight]
    exact .quiet (.of_invokes_eq rfl) (.of_mem fun _ hrow _ => hrow)
  rw [if_neg hflight]
  by_cases hempty : (db.stageInvokes stage.id).isEmpty = true
  · rw [if_pos hempty]
    have hnone : db.stageInvokes stage.id = [] := by simpa using hempty
    have htasks : state.dynamicParallel.isSome = true → tasks = state.tasks := by
      intro hdynamic
      refine hloc.tasks_eq ?_
      by_contra hmanual
      rw [hgate (by simpa using hmanual)] at hdynamic
      simp at hdynamic
    exact .dispatched stage hstage rfl hopen 0 (.inl ⟨rfl, hnone⟩)
      (dispatches_kickstart plan stage tasks (hwhole 0) hstageState htasks
        (hloc.unused hnone))
      ((KeepsRow.of_stageEffect
        (stageEffect_kickstart plan world stage state tasks db) hstage
          hopen).mono (completesWithoutTasks_of_hasQualityGate hstageState))
      (isStarted_of_stageEffect
        (stageEffect_kickstart plan world stage state tasks db) hstarted)
  rw [if_neg hempty]
  by_cases hsettled : (db.stageInvokes stage.id).all db.settled = true
  · rw [if_pos hsettled]
    split
    · rename_i phase hphase
      split_ifs with hdispatch
      · rw [Bool.and_eq_true, beq_iff_eq, List.length_eq_zero_iff,
          List.filter_eq_nil_iff] at hdispatch
        have heffect : StageEffect (CompletesWithoutTasks world state) stage db
            (withIdea plan world stage db
              (dispatchTasks world stage tasks.length
                (tasksOfPhase tasks phase) db)).database :=
          stageEffect_withIdea plan world stage
            (stageEffect_dispatchTasks world stage _ _ db)
        refine .dispatched stage hstage rfl hopen phase
          (.inr ⟨?_, by simpa using hempty, hphase⟩) ?_
          (KeepsRow.of_stageEffect heffect hstage hopen)
          (isStarted_of_stageEffect heffect hstarted)
        · intro item hitem
          simp only [List.any_eq_true, not_exists, not_and] at hflight
          rw [List.all_eq_true] at hsettled
          exact ⟨by simpa using hflight item hitem, hsettled item hitem,
            by simpa using hdispatch.2 item hitem⟩
        · exact dispatches_withIdea plan stage tasks
            (dispatches_dispatchTasks stage tasks (hwhole phase)
              (hloc.fresh_of_nextPhase hphase))
      · refine hsettle _ (readyToComplete_of_settled hflight hempty hsettled ?_)
        rw [hloc.effective]
        intro other hother hfailed
        obtain rfl := Option.some.inj (hphase.symm.trans hother)
        simpa [hfailed] using hdispatch
    · rename_i hphase
      refine hsettle _ (readyToComplete_of_settled hflight hempty hsettled ?_)
      rw [hloc.effective]
      intro other hother
      simp [hphase] at hother
  · rw [if_neg hsettled]
    exact .quiet (.of_invokes_eq rfl) (.of_mem fun _ hrow _ => hrow)

/-- Starting a pending execution queues its first batch. -/
theorem executionStep_enterCompute
    (hloc : Located state stateId tasks execution db)
    (hstate : plan.state? stateId = some state)
    (hgate : state.isManualGate = false)
    (hwhole : ∀ phase, ¬StopsMidway world (tasksOfPhase tasks phase))
    {stage : StageExecution} (hstage : stage ∈ db.stages)
    (hid : stage.id = execution) (hpending : stage.status = .pending) :
    ExecutionStep world state stateId tasks execution db
      (enterCompute plan world stateId state (some stage) db).database := by
  have hstageState : plan.state? stage.stageId = some state := by
    rw [hloc.ofState stage hstage hid, hstate]
  have hopen : stage.IsOpen := by
    rw [StageExecution.IsOpen, hpending]
    rfl
  subst hid
  have hnone := hloc.pendingEmpty stage hstage rfl hpending
  obtain rfl := hloc.tasks_eq hgate
  have hstart : ExecutionStep world state stateId state.tasks stage.id db
      (startWork plan world state stage
        (if (db.setStageStatus stage.id .running).run.status = .running
        then db.setStageStatus stage.id .running
        else (db.setStageStatus stage.id .running).setRunStatus
          .running)).database := by
    have hrunning : StageEffect (HasQualityGate plan stage) stage db
        (if (db.setStageStatus stage.id .running).run.status = .running
        then db.setStageStatus stage.id .running
        else (db.setStageStatus stage.id .running).setRunStatus .running) := by
      split_ifs
      · exact .setStageStatus stage db rfl (by rintro ⟨⟩)
      · exact (StageEffect.setStageStatus stage db rfl (by rintro ⟨⟩)).trans
          (.setRunStatus stage _ (by simp))
    have hinvokes : (if (db.setStageStatus stage.id .running).run.status =
          .running then db.setStageStatus stage.id .running
        else (db.setStageStatus stage.id .running).setRunStatus
          .running).invokes = db.invokes := by
      split_ifs <;> rfl
    have hrows : ∀ row ∈ (if (db.setStageStatus stage.id .running).run.status =
          .running then db.setStageStatus stage.id .running
        else (db.setStageStatus stage.id .running).setRunStatus
          .running).stages, row.id = stage.id →
        row.status.isStarted = true := by
      have hrestatus : (if (db.setStageStatus stage.id .running).run.status =
          .running then db.setStageStatus stage.id .running
        else (db.setStageStatus stage.id .running).setRunStatus
          .running).stages = restatus db.stages stage.id .running := by
        split_ifs <;> rfl
      rw [hrestatus]
      intro row hrow hid
      obtain ⟨old, hold, rfl⟩ := List.mem_map.mp hrow
      split_ifs at hid ⊢ with hsame
      · rfl
      · exact absurd hid hsame
    refine .dispatched stage hstage rfl hopen 0 (.inl ⟨rfl, hnone⟩) ?_ ?_
      (isStarted_of_stageEffect (stageEffect_startWork plan world stage state _)
        hrows)
    · refine Dispatches.of_before_eq
        (dispatches_startWork plan stage (hwhole 0) hstageState ?_) hinvokes
      unfold Unused
      rw [hinvokes]
      exact hloc.unused hnone
    · exact (KeepsRow.of_stageEffect (hrunning.trans
        (stageEffect_startWork plan world stage state _)) hstage hopen).mono
          (completesWithoutTasks_of_hasQualityGate hstageState)
  unfold enterCompute openStage
  dsimp only
  split
  · exact hstart
  · rename_i task _
    split
    · exact .quiet (.of_invokes_eq rfl) (.of_mem fun _ hrow _ => hrow)
    · by_cases hhold : world.rolloutContractHold = true
      · rw [if_pos hhold]
        refine .quiet (.of_invokes_eq ?_) (KeepsRow.of_stageEffect
          (stageEffect_holdImplementationStart world stage task db) hstage
            hopen)
        unfold holdImplementationStart
        rw [Database.blockRun_invokes, Database.setStageStatus_invokes]
        split_ifs <;> rfl
      · rw [if_neg hhold]
        exact hstart

/-- A review of a blocked implementation is completed without its tasks. -/
theorem executionStep_synthesizeBlockedReview
    (hloc : Located state stateId tasks execution db)
    (hreview : (stateProducesImplementationReview state &&
      world.selfAssessmentBlocked) = true)
    {stage : StageExecution} (hstage : stage ∈ db.stages)
    (hid : stage.id = execution) (hpending : stage.status = .pending) :
    ExecutionStep world state stateId tasks execution db
      (synthesizeBlockedReview plan world stateId state (some stage)
        db).database := by
  have hopen : stage.IsOpen := by
    rw [StageExecution.IsOpen, hpending]
    rfl
  subst hid
  have hrunning : StepEffect (fun _ => False) stage.id db
      (db.setStageStatus stage.id .running) := .setStageStatus db .running
  unfold synthesizeBlockedReview openStage
  dsimp only
  split
  · exact .quiet (.of_invokes_eq rfl) (.of_restatus rfl rfl
      (fun _ => ⟨stage, hstage, rfl, hopen⟩) (by rintro ⟨⟩))
  · let completed := (db.setStageStatus stage.id .running).setStageStatus
      stage.id .completed
    have hcompleted : StepEffect (fun _ => False) stage.id db completed :=
      hrunning.trans (.setStageStatus _ .completed)
    have hlength : completed.stages.length = db.stages.length := by
      simp [completed, Database.setStageStatus]
    have hleave : StepEffect (fun _ => False) completed.stages.length completed
        (evaluateAndTransition plan world stateId completed.listStages
          completed).database :=
      stepEffect_evaluateAndTransition plan world stateId _ _ _
    have hlt : stage.id < completed.stages.length := by
      rw [hlength]
      exact hloc.inRange
    have hqueue : QueuesNothing stage.id completed
        (evaluateAndTransition plan world stateId completed.listStages
          completed).database :=
      .of_stepEffect hleave hlt.ne hlt
    have hrow : KeepsRow stage.id
        (CompletesWithoutTasks world state ∨ ∃ old ∈ db.stages,
          old.id = stage.id ∧ old.IsOpen ∧
            readyToComplete stateId state old db = true)
        db completed := by
      refine .of_restatus (StageEffect.restatus_restatus _ _ _ _) rfl (by rintro ⟨⟩) ?_
      exact fun _ => .inl (.inr (.inr hreview))
    refine .quiet hqueue (hrow.trans_mem fun row hmem hrowId => ?_)
    obtain hold | ⟨-, hfalse⟩ := hleave.others
      (hcompleted.numbered hloc.numbered) row hmem (hrowId ▸ hlt.ne)
      (hrowId ▸ hlt)
    · exact hold
    · exact hfalse.elim

/-- What a step on the latest execution of its state does to it. -/
theorem executionStep_advanceStage
    (hloc : Located state stateId tasks execution db)
    (hstate : plan.state? stateId = some state)
    (hgate : state.isManualGate = true → state.dynamicParallel = none)
    (hwhole : ∀ phase, ¬StopsMidway world (tasksOfPhase tasks phase))
    {stage : StageExecution} (hstage : stage ∈ db.stages)
    (hid : stage.id = execution) :
    ExecutionStep world state stateId tasks execution db
      (advanceStage plan world stateId state stage db.listStages
        db).database := by
  have hnew : ∀ {after : Database},
      StepEffect (entersBareEnd stateId state) db.stages.length db after →
        ExecutionStep world state stateId tasks execution db after :=
    fun h => executionStep_of_stepEffect hloc hstate hstate
      hloc.inRange.ne h
  have hleave := hnew (stepEffect_evaluateAndTransition plan world stateId _
    db.listStages db)
  have hsame : ∀ {after : Database}, after.stages = db.stages →
      after.invokes = db.invokes →
        ExecutionStep world state stateId tasks execution db after :=
    fun hstages hinvokes => .quiet (.of_invokes_eq hinvokes)
      (.of_mem fun _ hrow _ => hstages ▸ hrow)
  have hstuck : ExecutionStep world state stateId tasks execution db
      (if state.isEnd && db.listStages.any fun other =>
          other.stageId = stateId ∧ other.status = .completed then
        ({ database := db.setRunStatus .completed } : Outcome)
      else { database := db.blockRun }).database := by
    split_ifs
    · exact hsame rfl rfl
    · exact hsame (by simp) (by simp)
  unfold advanceStage
  cases hstatus : stage.status with
  | running =>
      exact executionStep_advanceRunning hloc hstate hgate hwhole hstage hid
        hstatus db.listStages
  | waitingApproval =>
      dsimp only
      split_ifs
      · exact hsame rfl rfl
      · exact hsame rfl rfl
  | completed => exact hleave
  | skipped => exact hleave
  | failed => exact hstuck
  | blocked => exact hstuck
  | ready =>
      obtain h | h := stepEffect_enterState plan world stateId state none db
      · exact hnew h
      · exact hnew h
  | pending =>
      have hopen : stage.IsOpen := by
        rw [StageExecution.IsOpen, hstatus]
        rfl
      dsimp only
      by_cases hmanual : state.isManualGate = true
      · rw [if_pos hmanual]
        subst hid
        refine .quiet (.of_invokes_eq ?_) (KeepsRow.of_stageEffect
          (stageEffect_awaitApproval stage db) hstage hopen)
        unfold awaitApproval
        dsimp only
        split_ifs <;> rfl
      · rw [if_neg hmanual]
        unfold enterState
        by_cases hbare : (state.isEnd && state.tasks.isEmpty) = true
        · rw [if_pos hbare]
          exact hnew (stepEffect_completeBareEnd world stateId state _ hbare db)
        · rw [if_neg hbare, if_neg hmanual]
          split_ifs with hreview
          · exact executionStep_synthesizeBlockedReview hloc hreview hstage hid
              hstatus
          · exact executionStep_enterCompute hloc hstate
              (by simpa using hmanual) hwhole hstage hid hstatus

/-- What a step of the orchestrator does to one execution. -/
theorem executionStep_advanceRun
    (hloc : Located state stateId tasks execution db)
    (hstate : plan.state? stateId = some state)
    (hgate : state.isManualGate = true → state.dynamicParallel = none)
    (hwhole : ∀ phase, ¬StopsMidway world (tasksOfPhase tasks phase)) :
    ExecutionStep world state stateId tasks execution db
      (advanceRun plan world db).database := by
  have hsame : ExecutionStep world state stateId tasks execution db db :=
    .quiet (.of_invokes_eq rfl) (.of_mem fun _ hrow _ => hrow)
  unfold advanceRun
  by_cases hterminal : db.run.status.isTerminal = true
  · rw [if_pos hterminal]
    exact hsame
  rw [if_neg hterminal]
  cases hentered : plan.state? (db.here plan) with
  | none =>
      rw [advanceRunWorkflow_unknown hentered]
      exact hsame
  | some entered =>
      have henter : ExecutionStep world state stateId tasks execution db
          (enterState plan world (db.here plan) entered none db).database := by
        obtain h | h :=
          stepEffect_enterState plan world (db.here plan) entered none db
        · exact executionStep_of_stepEffect hloc hstate hentered
            hloc.inRange.ne h
        · exact executionStep_of_stepEffect hloc hstate hentered
            hloc.inRange.ne h
      rw [advanceRunWorkflow_known hentered]
      split
      · exact henter
      · rename_i stage hlatest
        split_ifs
        · exact henter
        · obtain ⟨hlisted, hhere⟩ := latestOf_mem hlatest
          have hmem : stage ∈ db.stages :=
            (List.mem_insertionSort _).mp hlisted
          by_cases hid : stage.id = execution
          · have hsameState : db.here plan = stateId := by
              rw [← hhere, hloc.ofState stage hmem hid]
            rw [hsameState] at hentered ⊢
            obtain rfl := Option.some.inj (hentered.symm.trans hstate)
            exact executionStep_advanceStage hloc hstate hgate hwhole hmem hid
          · obtain ⟨acting, hacting, h⟩ := stepEffect_advanceStage plan world
              (db.here plan) entered stage db.listStages db
            refine executionStep_of_stepEffect hloc hstate hentered ?_ h
            obtain rfl | rfl := hacting
            · exact fun hsame => hid hsame.symm
            · exact hloc.inRange.ne

end Steps

end ChainworksForge.Engine
