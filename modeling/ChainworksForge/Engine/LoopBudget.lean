import ChainworksForge.Engine.StepEffects

/-!
# Loop budgets over whole runs

The budget of a loop is checked when a transition into its state is taken, and
the iteration is opened later.  This module proves that the completed
iterations of a state stay within its limit in every state of every orderly
run, and shows a run that is not orderly and exceeds the limit.

A run is orderly when no step opens an iteration behind the back of that check.
The one step of the orchestrator that does so settles a running execution and
then evaluates the transitions with the list of executions it had read before:
at a state that transitions to itself the iteration that was just completed is
not counted.
-/

namespace ChainworksForge.Engine

open ChainworksForge.Support ChainworksForge.Workflow

namespace Database

/-- A clock that does not run backwards shows no earlier time than the start
of an execution. -/
def ClockAt (db : Database) (now : Nat) : Prop :=
  ∀ stage ∈ db.stages, stage.startedAt ≤ now

end Database

/--
The step completes the running execution of the current state, selects the
state itself again from the list it had read before, and the completed
iterations have reached the limit.
-/
def LoopsPastLimit (plan : RunPlan) (world : World) (db : Database) : Prop :=
  ∃ state stage,
    plan.state? (db.here plan) = some state ∧
      latestOf db.listStages (db.here plan) = some stage ∧
      stage.status = .running ∧
      readyToComplete (db.here plan) state stage db = true ∧
      Selects plan world (db.here plan) db.listStages
        (db.setStageStatus stage.id .completed) (db.here plan) ∧
      ¬Room plan (db.setStageStatus stage.id .completed).stages (db.here plan)

/-- The condition under which a step respects the loop budgets. -/
def Orderly (plan : RunPlan) (db : Database) (event : Event) : Prop :=
  (∀ now, event.clock = some now → db.ClockAt now) ∧
    match event with
    | .advance world => ¬LoopsPastLimit plan world db
    | .advanceTargeted world target =>
        ¬LoopsPastLimit plan world db ∧
          -- a completed target is only left while nothing else is open
          ∀ stage, db.findStage target = some stage →
            stage.status = .completed → AllClosed db.stages
    | .finishSingleTask _ item _ =>
        ∀ stage ∈ db.stages, stage.id = item.stageExecutionId → stage.IsOpen
    | .resolveApproval grant approvalId =>
        ∀ approval,
          (db.approvals.find? fun row =>
            row.id = approvalId ∧ row.isOpen) = some approval →
          reroutesToRefinement grant approval db = true →
          Room plan db.stages implementationRefinedStateId
    | .retryStage _ stageId =>
        ∀ stage ∈ db.stages, stage.IsOpen → stage.stageId = stageId
    | .retryAgentExecution _ stageId _ =>
        ∀ stage ∈ db.stages, stage.IsOpen → stage.stageId = stageId
    | .activity _ => True
    | .decideStage _ _ => True

/-! ## The invariant -/

/-- The executions of a run form a lineage, a completed run has no open
execution, and an end state without tasks is only entered to complete it. -/
structure LoopInvariant (plan : RunPlan) (db : Database) : Prop where
  lineage : Lineage plan (db.here plan) db.stages
  completedClosed : db.run.status = .completed → AllClosed db.stages
  bareEnd : ∀ stage ∈ db.stages, ∀ state,
    plan.state? stage.stageId = some state → state.isEnd = true →
      state.tasks.isEmpty = true → db.run.status = .completed

/-- The open execution of a run. -/
structure ActiveStage
    (plan : RunPlan) (stage : StageExecution) (db : Database) : Prop where
  inv : LoopInvariant plan db
  last : db.stages.getLast? = some stage
  isOpen : stage.IsOpen

theorem listStages_eq
    {plan : RunPlan} {here : String} {db : Database}
    (hline : Lineage plan here db.stages) : db.listStages = db.stages :=
  List.Pairwise.insertionSort_eq hline.sorted

namespace LoopInvariant

variable {plan : RunPlan} {db after : Database} {world : World}
  {stage : StageExecution}

/-- Rows that are not executions do not matter, nor does the status of a run
as long as it is not completed. -/
theorem of_same
    (hinv : LoopInvariant plan db) (hstages : after.stages = db.stages)
    (hcurrent : after.run.currentState = db.run.currentState)
    (hstatus : after.run.status = .completed ↔ db.run.status = .completed) :
    LoopInvariant plan after := by
  have hhere : after.here plan = db.here plan := by
    rw [Database.here, Database.here, hcurrent]
  refine ⟨?_, ?_, ?_⟩
  · rw [hhere, hstages]
    exact hinv.lineage
  · rw [hstages, hstatus]
    exact hinv.completedClosed
  · rw [hstages, hstatus]
    exact hinv.bareEnd

/-- A run that is not completed may be. -/
theorem complete
    (hinv : LoopInvariant plan db) (hclosed : AllClosed db.stages) :
    LoopInvariant plan (db.setRunStatus .completed) :=
  ⟨hinv.lineage, fun _ => hclosed, fun _ _ _ _ _ _ => rfl⟩

/-- The open execution of a run belongs to the current state. -/
theorem activeStage
    (hinv : LoopInvariant plan db) (hstage : stage ∈ db.stages)
    (hopen : stage.IsOpen) :
    ActiveStage plan stage db ∧ stage.stageId = db.here plan :=
  ⟨⟨hinv, (hinv.lineage.openLast stage hstage hopen).1, hopen⟩,
    (hinv.lineage.openLast stage hstage hopen).2⟩

end LoopInvariant

namespace ActiveStage

variable {plan : RunPlan} {db after : Database} {stage : StageExecution}

theorem mem (hactive : ActiveStage plan stage db) : stage ∈ db.stages :=
  List.mem_of_getLast? hactive.last

theorem notCompleted (hactive : ActiveStage plan stage db) :
    db.run.status ≠ .completed := fun h =>
  hactive.inv.completedClosed h stage hactive.mem hactive.isOpen

theorem stageId_eq (hactive : ActiveStage plan stage db) :
    stage.stageId = db.here plan :=
  (hactive.inv.lineage.openLast stage hactive.mem hactive.isOpen).2

/-- The executions of a run after the status of the open one has changed. -/
theorem stages_restatus
    (hactive : ActiveStage plan stage db) (status : StageStatus) :
    ∃ init, db.stages = init ++ [stage] ∧
      restatus db.stages stage.id status =
        init ++ [{ stage with status := status }] := by
  obtain ⟨init, hinit⟩ := List.getLast?_eq_some_iff.mp hactive.last
  have hids := hactive.inv.lineage.ids
  rw [hinit] at hids ⊢
  exact ⟨init, rfl, restatus_concat hids status⟩

/-- Dispatching work for the open execution keeps the invariant. -/
theorem of_stageEffect
    (hactive : ActiveStage plan stage db)
    (heffect : StageEffect True stage db after) : LoopInvariant plan after := by
  have hnot : after.run.status ≠ .completed := fun h =>
    hactive.notCompleted (heffect.status h)
  have hhere : after.here plan = db.here plan := by
    rw [Database.here, Database.here, heffect.currentState]
  have hids : ∀ other ∈ after.stages, ∃ row ∈ db.stages,
      row.stageId = other.stageId := by
    intro other hother
    obtain hsame | ⟨status, -, -, hstages⟩ := heffect.stages
    · exact ⟨other, hsame ▸ hother, rfl⟩
    · rw [hstages] at hother
      obtain ⟨row, hrow, rfl⟩ := List.mem_map.mp hother
      exact ⟨row, hrow, by split_ifs <;> rfl⟩
  refine ⟨?_, fun h => absurd h hnot, ?_⟩
  · rw [hhere]
    obtain hsame | ⟨status, hstarted, -, hstages⟩ := heffect.stages
    · rw [hsame]
      exact hactive.inv.lineage
    · obtain ⟨init, hinit, hrestatus⟩ := hactive.stages_restatus status
      have hline := hactive.inv.lineage
      rw [hinit] at hline
      rw [hstages, hrestatus]
      exact hline.restatus_open hactive.isOpen
        (StageStatus.ne_ready_of_isStarted hstarted)
  · intro other hother state hstate hend htasks
    obtain ⟨row, hrow, hrowState⟩ := hids other hother
    rw [← hrowState] at hstate
    exact absurd (hactive.inv.bareEnd row hrow state hstate hend htasks)
      hactive.notCompleted

/-- A change of the open execution to a status in which it is over. -/
theorem settle
    (hactive : ActiveStage plan stage db) {status : StageStatus}
    (hterminal : status.isTerminal = true) :
    LoopInvariant plan (db.setStageStatus stage.id status) ∧
      AllClosed (db.setStageStatus stage.id status).stages := by
  refine ⟨hactive.of_stageEffect (.setStageStatus stage db
    (StageStatus.isStarted_of_isTerminal hterminal) fun _ => trivial), ?_⟩
  obtain ⟨init, hinit, hrestatus⟩ := hactive.stages_restatus status
  have hline := hactive.inv.lineage
  rw [hinit] at hline
  have hstages : (db.setStageStatus stage.id status).stages =
      init ++ [{ stage with status := status }] := hrestatus
  rw [hstages]
  intro other hother hopen
  obtain hother | hother := List.mem_append.mp hother
  · exact hline.closed_of_concat other hother hopen
  · obtain rfl := List.mem_singleton.mp hother
    simp [StageExecution.IsOpen, hterminal] at hopen

/-- A change of the open execution to another open status. -/
theorem reopen
    (hactive : ActiveStage plan stage db) {status : StageStatus}
    (hopen : status.isTerminal = false) (hstarted : status.isStarted = true) :
    ActiveStage plan { stage with status := status }
      (db.setStageStatus stage.id status) := by
  refine ⟨hactive.of_stageEffect (.setStageStatus stage db hstarted
    fun _ => trivial), ?_,
    hopen⟩
  obtain ⟨init, -, hrestatus⟩ := hactive.stages_restatus status
  have hstages : (db.setStageStatus stage.id status).stages =
      init ++ [{ stage with status := status }] := hrestatus
  rw [hstages, List.getLast?_concat]

/-- Rows that are not executions do not matter. -/
theorem of_same
    (hactive : ActiveStage plan stage db) (hstages : after.stages = db.stages)
    (hcurrent : after.run.currentState = db.run.currentState)
    (hstatus : after.run.status ≠ .completed) :
    ActiveStage plan stage after := by
  refine ⟨hactive.inv.of_same hstages hcurrent ?_, ?_, hactive.isOpen⟩
  · exact iff_of_false hstatus hactive.notCompleted
  · rw [hstages]
    exact hactive.last

/-- The open execution is the latest one of the current state. -/
theorem latest (hactive : ActiveStage plan stage db) :
    latestOf db.stages (db.here plan) = some stage := by
  obtain ⟨init, hinit⟩ := List.getLast?_eq_some_iff.mp hactive.last
  rw [hinit, latestOf_concat, if_pos hactive.stageId_eq]

/-- A change of the open execution does not count for another state. -/
theorem room_of_ne
    (hactive : ActiveStage plan stage db) (status : StageStatus)
    {stateId : String} (hne : stateId ≠ db.here plan)
    (hroom : Room plan db.stages stateId) :
    Room plan (db.setStageStatus stage.id status).stages stateId := by
  obtain ⟨init, hinit, hrestatus⟩ := hactive.stages_restatus status
  have hother : stage.stageId ≠ stateId := fun h =>
    hne (h.symm.trans hactive.stageId_eq)
  have hstages : (db.setStageStatus stage.id status).stages =
      init ++ [{ stage with status := status }] := hrestatus
  intro limit hlimit
  have hold := hroom limit hlimit
  rw [hinit, completedSet_concat, if_neg (fun h => hother h.1)] at hold
  rwa [hstages, completedSet_concat, if_neg (fun h => hother h.1)]

end ActiveStage

/-! ## Operations that keep the invariant -/

namespace LoopInvariant

variable {plan : RunPlan} {db after : Database} {world : World}
  {stage : StageExecution}

/-- Moving a run to a state with room. -/
theorem moved
    (hinv : LoopInvariant plan db) (hclosed : AllClosed db.stages)
    (hnot : db.run.status ≠ .completed) {target : String}
    (hroom : Room plan db.stages target) :
    LoopInvariant plan (db.setCurrentState target) :=
  ⟨hinv.lineage.moveTo hclosed hroom, fun _ => hclosed,
    fun stage hstage state hstate hend htasks =>
      absurd (hinv.bareEnd stage hstage state hstate hend htasks) hnot⟩

/-- Opening an execution of a state that has work to do. -/
theorem opened
    (hinv : LoopInvariant plan db) (hclosed : AllClosed db.stages)
    (hnot : db.run.status ≠ .completed)
    (hopen : stage.IsOpen) (hready : stage.status ≠ .ready)
    (hid : stage.id = db.stages.length) (hpositive : 0 < stage.iteration)
    (hclock : db.ClockAt stage.startedAt)
    (hroom : stage.iteration ∉ completedSet db.stages stage.stageId →
      Room plan db.stages stage.stageId)
    (hwork : ∀ state, plan.state? stage.stageId = some state →
      state.isEnd = true → state.tasks.isEmpty = false)
    (hstages : after.stages = db.stages ++ [stage])
    (hhere : after.here plan = stage.stageId)
    (hafter : after.run.status ≠ .completed) :
    ActiveStage plan stage after := by
  refine ⟨⟨?_, fun h => absurd h hafter, ?_⟩, ?_, hopen⟩
  · rw [hhere, hstages]
    exact hinv.lineage.open_stage hclosed hopen hready hid hpositive hclock
      hroom
  · rw [hstages]
    intro other hother state hstate hend htasks
    obtain hother | hother := List.mem_append.mp hother
    · exact absurd (hinv.bareEnd other hother state hstate hend htasks) hnot
    · obtain rfl := List.mem_singleton.mp hother
      simp [hwork state hstate hend] at htasks
  · rw [hstages, List.getLast?_concat]

/-- Opening the next iteration of a state with room. -/
theorem opened_newStage
    (hinv : LoopInvariant plan db) (hclosed : AllClosed db.stages)
    (hnot : db.run.status ≠ .completed) (hclock : db.ClockAt world.now)
    {stateId : String} {state : CompiledState}
    (hroom : Room plan db.stages stateId)
    (hwork : ∀ found, plan.state? stateId = some found →
      found.isEnd = true → found.tasks.isEmpty = false)
    (hstages : after.stages = db.stages ++ [newStage world db stateId state])
    (hhere : after.here plan = stateId)
    (hafter : after.run.status ≠ .completed) :
    ActiveStage plan (newStage world db stateId state) after := by
  obtain ⟨hpositive, -⟩ := hinv.lineage.nextIteration_spec stateId
  refine hinv.opened hclosed hnot (by rfl) (by simp [newStage]) rfl ?_ hclock
    (fun _ => hroom) hwork hstages hhere hafter
  rw [newStage, listStages_eq hinv.lineage]
  exact hpositive

/-- Leaving a state whose executions are over. -/
theorem evaluateAndTransition
    (hinv : LoopInvariant plan db) (hclosed : AllClosed db.stages)
    (hnot : db.run.status ≠ .completed) (hclock : db.ClockAt world.now)
    {stateId : String} {allStages : List StageExecution}
    (hroom : ∀ target, Selects plan world stateId allStages db target →
      Room plan db.stages target) :
    LoopInvariant plan
      (evaluateAndTransition plan world stateId allStages db).database := by
  by_cases hselects :
      ∃ target, Selects plan world stateId allStages db target
  · obtain ⟨target, hselects⟩ := hselects
    rw [evaluateAndTransition_of_selects hselects]
    have hleft := hroom target hselects
    obtain ⟨state, -, -, hstate, hend, -⟩ := hselects
    unfold takeTransition
    split
    · exact hinv
    · by_cases hself : target = stateId
      · subst hself
        rw [if_pos rfl, hstate]
        refine ActiveStage.inv (hinv.opened_newStage hclosed hnot hclock hleft
          ?_ rfl rfl hnot)
        intro found hfound hfoundEnd
        obtain rfl := Option.some.inj (hstate.symm.trans hfound)
        simp [hend] at hfoundEnd
      · rw [if_neg hself]
        exact hinv.moved hclosed hnot hleft
  · rw [not_exists] at hselects
    have hheld := evaluateAndTransition_of_not_selects hselects
    have hstages := hheld.stages_eq
    have hcurrent := hheld.currentState_eq
    generalize Engine.evaluateAndTransition plan world stateId allStages db =
      outcome at hheld hstages hcurrent
    cases hheld with
    | unknown => exact hinv
    | completed => exact hinv.complete hclosed
    | failed => exact hinv
    | conflict =>
        refine hinv.of_same hstages hcurrent (iff_of_false ?_ hnot)
        simp [recordWorkflowConflictAndBlock]

/-- Leaving a state with the present list of executions. -/
theorem evaluateAndTransition_listStages
    (hinv : LoopInvariant plan db) (hclosed : AllClosed db.stages)
    (hnot : db.run.status ≠ .completed) (hclock : db.ClockAt world.now)
    (stateId : String) :
    LoopInvariant plan
      (Engine.evaluateAndTransition plan world stateId db.listStages
        db).database := by
  refine hinv.evaluateAndTransition hclosed hnot hclock fun target h => ?_
  have hleft := not_exhausted_of_selects h
  rw [listStages_eq hinv.lineage] at hleft
  exact hinv.lineage.room_of_not_exhausted hleft

/-- Replacing the latest execution of a state by another attempt. -/
theorem supersedeStage
    (hinv : LoopInvariant plan db) (hnot : db.run.status ≠ .completed)
    (hclock : db.ClockAt world.now)
    (hlatest : latestOf db.stages stage.stageId = some stage)
    (honly : ∀ other ∈ db.stages, other.IsOpen → other.id = stage.id)
    {status : StageStatus} (hopen : status.isTerminal = false)
    (hready : status ≠ .ready) :
    LoopInvariant plan (supersedeStage world db stage status) := by
  obtain ⟨hmem, -⟩ := latestOf_mem hlatest
  obtain ⟨hline, hclosed, hroom⟩ := hinv.lineage.skip_latest hlatest honly
  have hskipped : LoopInvariant plan (db.setStageStatus stage.id .skipped) := by
    refine ⟨hline, fun _ => hclosed, ?_⟩
    intro other hother state hstate hend htasks
    obtain ⟨before, hbefore, rfl⟩ := List.mem_map.mp hother
    refine absurd (hinv.bareEnd before hbefore state ?_ hend htasks) hnot
    split_ifs at hstate <;> exact hstate
  let attempt : StageExecution :=
    { stage with
      id := db.stages.length
      status := status
      attemptNumber := nextAttemptNumber db.listStages stage
      startedAt := world.now }
  have hattempt : attempt.IsOpen := hopen
  refine (hskipped.opened hclosed hnot hattempt hready ?_
    (hinv.lineage.positive stage hmem) ?_ hroom ?_ rfl rfl ?_).inv
  · simp [attempt, Database.setStageStatus]
  · intro other hother
    obtain ⟨before, hbefore, rfl⟩ := List.mem_map.mp hother
    have hle := hclock before hbefore
    split_ifs <;> exact hle
  · intro state hstate hend
    by_contra htasks
    exact hnot
      (hinv.bareEnd stage hmem state hstate hend (by simpa using htasks))
  · simp [Engine.supersedeStage, Database.setCurrentState]

end LoopInvariant

/-! ## Entering a state -/

section Entering

variable {plan : RunPlan} {world : World} {stateId : String}
  {state : CompiledState} {db : Database}

/-- The latest execution of the current state, if there is one, belongs to an
earlier visit. -/
structure Arrives (plan : RunPlan) (world : World) (db : Database) :
    Prop where
  inv : LoopInvariant plan db
  notCompleted : db.run.status ≠ .completed
  clock : db.ClockAt world.now
  enters : Enters (db.here plan) db.stages (db.here plan)

namespace Arrives

theorem allClosed (h : Arrives plan world db) : AllClosed db.stages := by
  refine h.inv.lineage.allClosed fun stage hstage hopen => ?_
  have hstale := h.enters.2 stage hstage
  unfold stageIsStale at hstale
  rw [(show stage.status.isTerminal = false from hopen), Bool.false_and]
    at hstale
  exact Bool.false_ne_true hstale

theorem room (h : Arrives plan world db) :
    Room plan db.stages (db.here plan) :=
  h.inv.lineage.strict _ (.inl h.enters)

/-- The execution that is created on arrival is the open one. -/
theorem activeStage
    (h : Arrives plan world db) (hstate : plan.state? (db.here plan) = some state)
    (hwork : (state.isEnd && state.tasks.isEmpty) = false) :
    ActiveStage plan (newStage world db (db.here plan) state)
      (db.insertStage (newStage world db (db.here plan) state)) := by
  refine h.inv.opened_newStage h.allClosed h.notCompleted h.clock h.room ?_ rfl
    rfl h.notCompleted
  intro found hfound hend
  obtain rfl := Option.some.inj (hstate.symm.trans hfound)
  rwa [hend, Bool.true_and] at hwork

end Arrives

/-- Where a pending execution is started or a new one is created. -/
def EntersWith
    (plan : RunPlan) (world : World) (pending : Option StageExecution)
    (db : Database) : Prop :=
  match pending with
  | none => Arrives plan world db
  | some stage =>
      ActiveStage plan stage db ∧ db.ClockAt world.now

/-- Opening a state leaves its execution as the open one. -/
theorem EntersWith.openStage
    {pending : Option StageExecution} (h : EntersWith plan world pending db)
    (hstate : plan.state? (db.here plan) = some state)
    (hwork : (state.isEnd && state.tasks.isEmpty) = false) :
    let opened := openStage world (db.here plan) state pending db
    ActiveStage plan opened.1 opened.2 ∧ opened.2.ClockAt world.now := by
  cases pending with
  | some stage => exact h
  | none =>
      refine ⟨h.activeStage hstate hwork, ?_⟩
      intro other hother
      obtain hother | hother := List.mem_append.mp hother
      · exact h.clock other hother
      · rw [List.mem_singleton.mp hother]
        exact le_rfl

/-- A change of status keeps the starts of the executions. -/
theorem clockAt_setStageStatus
    {now : Nat} (hclock : db.ClockAt now) (id : StageExecutionId)
    (status : StageStatus) : (db.setStageStatus id status).ClockAt now := by
  intro stage hstage
  obtain ⟨before, hbefore, rfl⟩ := List.mem_map.mp hstage
  have hle := hclock before hbefore
  split_ifs <;> exact hle

theorem loopInvariant_enterCompute
    {pending : Option StageExecution} (h : EntersWith plan world pending db)
    (hstate : plan.state? (db.here plan) = some state)
    (hwork : (state.isEnd && state.tasks.isEmpty) = false) :
    LoopInvariant plan
      (enterCompute plan world (db.here plan) state pending db).database := by
  obtain ⟨hactive, -⟩ := h.openStage hstate hwork
  unfold enterCompute
  generalize openStage world (db.here plan) state pending db = opened
    at hactive ⊢
  obtain ⟨stage, entered⟩ := opened
  have hstart : StageEffect True stage entered
      (startWork plan world state stage
        (if (entered.setStageStatus stage.id .running).run.status = .running
        then entered.setStageStatus stage.id .running
        else (entered.setStageStatus stage.id .running).setRunStatus
          .running)).database := by
    have hrunning : StageEffect True stage entered
        (entered.setStageStatus stage.id .running) :=
      .setStageStatus stage entered rfl nofun
    refine .trans ?_ (stageEffect_startWork plan world stage state _).weaken
    split_ifs
    · exact hrunning
    · exact hrunning.trans (.setRunStatus stage _ (by simp))
  dsimp only
  split
  · exact hactive.of_stageEffect hstart
  · split
    · exact hactive.inv
    · by_cases hhold : world.rolloutContractHold = true
      · rw [if_pos hhold]
        exact hactive.of_stageEffect
          (stageEffect_holdImplementationStart world stage _ entered)
      · rw [if_neg hhold]
        exact hactive.of_stageEffect hstart

theorem loopInvariant_synthesizeBlockedReview
    {pending : Option StageExecution} (h : EntersWith plan world pending db)
    (hstate : plan.state? (db.here plan) = some state)
    (hwork : (state.isEnd && state.tasks.isEmpty) = false) :
    LoopInvariant plan
      (synthesizeBlockedReview plan world (db.here plan) state pending
        db).database := by
  obtain ⟨hactive, hclock⟩ := h.openStage hstate hwork
  unfold synthesizeBlockedReview
  generalize openStage world (db.here plan) state pending db = opened
    at hactive hclock ⊢
  obtain ⟨stage, entered⟩ := opened
  have hrunning := hactive.reopen
    (rfl : StageStatus.running.isTerminal = false) rfl
  dsimp only
  split
  · exact hrunning.inv
  · obtain ⟨hinv, hclosed⟩ :=
      hrunning.settle (rfl : StageStatus.completed.isTerminal = true)
    exact hinv.evaluateAndTransition_listStages hclosed hactive.notCompleted
      (clockAt_setStageStatus (clockAt_setStageStatus hclock _ _) _ _)
      (db.here plan)

/-- An end state without tasks is entered once, and the run is completed. -/
theorem loopInvariant_completeBareEnd
    (h : Arrives plan world db)
    (hstate : plan.state? (db.here plan) = some state)
    (hend : state.isEnd = true) (htasks : state.tasks.isEmpty = true) :
    LoopInvariant plan
      (completeBareEnd world (db.here plan) state db).database := by
  have hnone : ∀ stage ∈ db.stages, stage.stageId ≠ db.here plan := by
    intro stage hstage hhere
    exact h.notCompleted
      (h.inv.bareEnd stage hstage state (by rw [hhere, hstate]) hend htasks)
  have hnext := h.inv.lineage.nextIteration_spec (db.here plan)
  have hopen : (newStage world db (db.here plan) state).IsOpen := rfl
  have hline : Lineage plan (db.here plan)
      (db.insertStage (newStage world db (db.here plan) state)).stages := by
    refine h.inv.lineage.open_stage h.allClosed hopen (by simp [newStage]) rfl
      ?_ h.clock (fun _ => h.room)
    rw [newStage, listStages_eq h.inv.lineage]
    exact hnext.1
  have hfind : ((db.insertStage (newStage world db (db.here plan)
      state)).listStages.find? fun stage => stage.stageId = db.here plan) =
        some (newStage world db (db.here plan) state) := by
    rw [listStages_eq hline, Database.insertStage, List.find?_append,
      List.find?_eq_none.mpr (by simpa using hnone)]
    simp [newStage]
  have hrestatus := restatus_concat hline.ids .completed
  have hcompleted := hline.restatus_open hopen
    (by simp : StageStatus.completed ≠ .ready)
  have hclosed : AllClosed (db.stages ++
      [{ newStage world db (db.here plan) state with
         status := .completed }]) := by
    intro stage hstage hopen
    obtain hstage | hstage := List.mem_append.mp hstage
    · exact h.allClosed stage hstage hopen
    · obtain rfl := List.mem_singleton.mp hstage
      simp [StageExecution.IsOpen, StageStatus.isTerminal] at hopen
  simp only [completeBareEnd, hfind]
  rw [← hrestatus] at hcompleted hclosed
  exact ⟨hcompleted, fun _ => hclosed, fun _ _ _ _ _ _ => rfl⟩

theorem loopInvariant_enterState
    {pending : Option StageExecution} (h : EntersWith plan world pending db)
    (hgate : pending.isSome = true → state.isManualGate = false)
    (hstate : plan.state? (db.here plan) = some state) :
    LoopInvariant plan
      (enterState plan world (db.here plan) state pending db).database := by
  unfold enterState
  by_cases hbare : (state.isEnd && state.tasks.isEmpty) = true
  · rw [if_pos hbare]
    obtain ⟨hend, htasks⟩ := Bool.and_eq_true_iff.mp hbare
    cases pending with
    | none => exact loopInvariant_completeBareEnd h hstate hend htasks
    | some stage =>
        obtain ⟨hactive, -⟩ := h
        -- such a state is only entered to complete the run
        refine absurd (hactive.inv.bareEnd stage hactive.mem state ?_ hend
          htasks) hactive.notCompleted
        rw [hactive.stageId_eq, hstate]
  · rw [if_neg hbare]
    have hwork : (state.isEnd && state.tasks.isEmpty) = false := by
      simpa using hbare
    by_cases hmanual : state.isManualGate = true
    · rw [if_pos hmanual]
      cases pending with
      | none =>
          have hactive := h.activeStage hstate hwork
          refine hactive.of_stageEffect ?_
          exact stageEffect_awaitApproval _ _
      | some stage => simp [hmanual] at hgate
    · rw [if_neg hmanual]
      split_ifs
      · exact loopInvariant_synthesizeBlockedReview h hstate hwork
      · exact loopInvariant_enterCompute h hstate hwork

end Entering

/-! ## Settling a running execution -/

section Step

variable {plan : RunPlan} {world : World} {state : CompiledState}
  {stage : StageExecution} {db : Database}

theorem loopInvariant_scheduleTargetedRetry
    (hinv : LoopInvariant plan db) (hnot : db.run.status ≠ .completed)
    (hclock : db.ClockAt world.now)
    (hlatest : latestOf db.stages stage.stageId = some stage)
    (honly : ∀ other ∈ db.stages, other.IsOpen → other.id = stage.id)
    (source : InvokeItem) :
    LoopInvariant plan
      (scheduleTargetedRetry world db stage source).database := by
  unfold scheduleTargetedRetry
  dsimp only
  split
  · exact hinv
  · rename_i after hafter
    obtain ⟨hstages, hrun, -⟩ := enqueueInvoke_same hafter
    have hattempt := hinv.supersedeStage hnot hclock hlatest honly
      (rfl : StageStatus.running.isTerminal = false) (by simp)
    exact hattempt.of_same hstages (by rw [hrun]) (by rw [hrun])

theorem loopInvariant_settleRunning
    (hactive : ActiveStage plan stage db) (hrunning : stage.status = .running)
    (hclock : db.ClockAt world.now)
    (hstate : plan.state? (db.here plan) = some state) {failed : Nat}
    (hready : failed = 0 →
      readyToComplete (db.here plan) state stage db = true)
    (horderly : ¬LoopsPastLimit plan world db) :
    LoopInvariant plan
      (settleRunning plan world (db.here plan) state stage db.listStages failed
        db).database := by
  have hlist := listStages_eq hactive.inv.lineage
  have hfailed : LoopInvariant plan
      ((db.setStageStatus stage.id .failed).setRunStatus .blocked) :=
    hactive.of_stageEffect ((StageEffect.setStageStatus stage db rfl nofun).trans
      (.setRunStatus stage _ (by simp)))
  unfold settleRunning
  by_cases hvotes : 0 < failed
  · rw [if_pos hvotes]
    dsimp only
    split
    · exact hactive.inv
    · rename_i source _
      refine loopInvariant_scheduleTargetedRetry hactive.inv
        hactive.notCompleted hclock ?_ ?_ source
      · rw [hactive.stageId_eq]
        exact hactive.latest
      · intro other hother hopen
        have hlast := (hactive.inv.activeStage hother hopen).1.last
        rw [hactive.last] at hlast
        rw [Option.some.inj hlast]
    · exact hactive.inv
    · exact hfailed
    · exact hfailed
  · rw [if_neg hvotes]
    obtain ⟨hinv, hclosed⟩ :=
      hactive.settle (rfl : StageStatus.completed.isTerminal = true)
    dsimp only
    by_cases hend : state.isEnd = true
    · rw [if_pos hend]
      exact hinv.complete hclosed
    · rw [if_neg hend]
      refine hinv.evaluateAndTransition hclosed hactive.notCompleted
        (clockAt_setStageStatus hclock _ _) fun target hselects => ?_
      by_cases hself : target = db.here plan
      · subst hself
        by_contra hroom
        exact horderly ⟨state, stage, hstate, by rw [hlist, hactive.latest],
          hrunning, hready (by omega), hselects, hroom⟩
      · have hleft := not_exhausted_of_selects hselects
        rw [hlist] at hleft
        exact hactive.room_of_ne .completed hself
          (hactive.inv.lineage.room_of_not_exhausted hleft)

theorem loopInvariant_advanceRunning
    (hactive : ActiveStage plan stage db) (hrunning : stage.status = .running)
    (hclock : db.ClockAt world.now)
    (hstate : plan.state? (db.here plan) = some state)
    (horderly : ¬LoopsPastLimit plan world db) :
    LoopInvariant plan
      (advanceRunning plan world (db.here plan) state stage db.listStages
        db).database := by
  unfold advanceRunning
  dsimp only
  by_cases hflight : ((db.stageInvokes stage.id).any
      fun item => item.status.inFlight) = true
  · rw [if_pos hflight]
    exact hactive.inv
  rw [if_neg hflight]
  by_cases hempty : (db.stageInvokes stage.id).isEmpty = true
  · rw [if_pos hempty]
    exact hactive.of_stageEffect
      (stageEffect_kickstart plan world stage state _ db).weaken
  rw [if_neg hempty]
  by_cases hsettled : (db.stageInvokes stage.id).all db.settled = true
  · rw [if_pos hsettled]
    split
    · rename_i phase hphase
      split_ifs with hdispatch
      · exact hactive.of_stageEffect (stageEffect_withIdea plan world stage
          (stageEffect_dispatchTasks world stage _ _ db))
      · refine loopInvariant_settleRunning hactive hrunning hclock hstate
          (readyToComplete_of_settled hflight hempty hsettled ?_) horderly
        intro other hother hfailed
        obtain rfl := Option.some.inj (hphase.symm.trans hother)
        simpa [hfailed] using hdispatch
    · rename_i hphase
      refine loopInvariant_settleRunning hactive hrunning hclock hstate
        (readyToComplete_of_settled hflight hempty hsettled ?_) horderly
      intro other hother
      simp [hphase] at hother
  · rw [if_neg hsettled]
    exact hactive.inv

/-- An execution that is over leaves its state, completes the run or blocks
it. -/
theorem loopInvariant_advanceStage_closed
    (hinv : LoopInvariant plan db) (hnot : db.run.status ≠ .completed)
    (hclock : db.ClockAt world.now) (hclosed : AllClosed db.stages)
    (hstage : stage ∈ db.stages) (stateId : String) :
    LoopInvariant plan
      (advanceStage plan world stateId state stage db.listStages
        db).database := by
  have hterminal := hclosed stage hstage
  have hleave :=
    hinv.evaluateAndTransition_listStages hclosed hnot hclock stateId
  have hblocked : LoopInvariant plan db.blockRun :=
    hinv.of_same (by simp) (by simp) (iff_of_false (by simp) hnot)
  have hstuck : LoopInvariant plan
      (if state.isEnd && db.listStages.any fun other =>
          other.stageId = stateId ∧ other.status = .completed then
        ({ database := db.setRunStatus .completed } : Outcome)
      else { database := db.blockRun }).database := by
    split_ifs
    · exact hinv.complete hclosed
    · exact hblocked
  unfold advanceStage
  cases hstatus : stage.status with
  | completed => exact hleave
  | skipped => exact hleave
  | failed => exact hstuck
  | blocked => exact hstuck
  | running => simp [StageExecution.IsOpen, hstatus, StageStatus.isTerminal] at hterminal
  | waitingApproval =>
      simp [StageExecution.IsOpen, hstatus, StageStatus.isTerminal] at hterminal
  | pending => simp [StageExecution.IsOpen, hstatus, StageStatus.isTerminal] at hterminal
  | ready => simp [StageExecution.IsOpen, hstatus, StageStatus.isTerminal] at hterminal

/-- The open execution is started, advanced or waited for. -/
theorem loopInvariant_advanceStage_open
    (hactive : ActiveStage plan stage db) (hclock : db.ClockAt world.now)
    (hstate : plan.state? (db.here plan) = some state)
    (horderly : ¬LoopsPastLimit plan world db) :
    LoopInvariant plan
      (advanceStage plan world (db.here plan) state stage db.listStages
        db).database := by
  have hopen : stage.status.isTerminal = false := hactive.isOpen
  unfold advanceStage
  cases hstatus : stage.status with
  | running =>
      exact loopInvariant_advanceRunning hactive hstatus hclock hstate horderly
  | waitingApproval =>
      dsimp only
      split_ifs
      · exact hactive.inv.of_same rfl rfl
          (iff_of_false (by simp) hactive.notCompleted)
      · exact hactive.inv
  | pending =>
      dsimp only
      by_cases hgate : state.isManualGate = true
      · rw [if_pos hgate]
        exact hactive.of_stageEffect (stageEffect_awaitApproval stage db)
      · rw [if_neg hgate]
        exact loopInvariant_enterState ⟨hactive, hclock⟩
          (fun _ => by simpa using hgate) hstate
  | ready => exact absurd hstatus (hactive.inv.lineage.neverReady stage hactive.mem)
  | completed => simp [hstatus, StageStatus.isTerminal] at hopen
  | failed => simp [hstatus, StageStatus.isTerminal] at hopen
  | blocked => simp [hstatus, StageStatus.isTerminal] at hopen
  | skipped => simp [hstatus, StageStatus.isTerminal] at hopen

/-- A step at the current state keeps the invariant. -/
theorem loopInvariant_advanceRun
    (hinv : LoopInvariant plan db) (hclock : db.ClockAt world.now)
    (horderly : ¬LoopsPastLimit plan world db) :
    LoopInvariant plan (advanceRun plan world db).database := by
  unfold advanceRun
  by_cases hterminal : db.run.status.isTerminal = true
  · rw [if_pos hterminal]
    exact hinv
  rw [if_neg hterminal]
  have hnot : db.run.status ≠ .completed := by
    intro h
    simp [h, RunStatus.isTerminal] at hterminal
  have hlist := listStages_eq hinv.lineage
  cases hstate : plan.state? (db.here plan) with
  | none =>
      rw [advanceRunWorkflow_unknown hstate]
      exact hinv
  | some state =>
      have harrives : (∀ stage,
            latestOf db.stages (db.here plan) = some stage →
              stageIsStale db.stages stage = true) →
          Arrives plan world db := fun h => ⟨hinv, hnot, hclock, rfl, h⟩
      rw [advanceRunWorkflow_known hstate, hlist]
      split
      · rename_i hlatest
        exact loopInvariant_enterState (harrives (by simp [hlatest])) (by simp)
          hstate
      · rename_i stage hlatest
        by_cases hstale : stageIsStale db.stages stage = true
        · rw [if_pos hstale]
          refine loopInvariant_enterState (harrives fun other hother => ?_)
            (by simp) hstate
          rwa [← Option.some.inj (hlatest.symm.trans hother)]
        · rw [if_neg hstale, ← hlist]
          obtain ⟨hmem, -⟩ := latestOf_mem hlatest
          by_cases hopen : stage.IsOpen
          · exact loopInvariant_advanceStage_open
              (hinv.activeStage hmem hopen).1 hclock hstate horderly
          · refine loopInvariant_advanceStage_closed hinv hnot hclock
              (hinv.lineage.allClosed fun other hother => ?_) hmem _
            rwa [← Option.some.inj (hlatest.symm.trans hother)]

/-- A step at a targeted execution keeps the invariant. -/
theorem loopInvariant_advanceRunTargeted
    (hinv : LoopInvariant plan db) (hclock : db.ClockAt world.now)
    (horderly : ¬LoopsPastLimit plan world db) {target : StageExecutionId}
    (htarget : ∀ stage, db.findStage target = some stage →
      stage.status = .completed → AllClosed db.stages) :
    LoopInvariant plan (advanceRunTargeted plan world target db).database := by
  unfold advanceRunTargeted
  split
  · exact hinv
  rename_i stage hstage
  have hmem : stage ∈ db.stages := List.mem_of_find?_eq_some hstage
  by_cases hover : (stage.status.isTerminal && stage.status ≠ .completed) = true
  · rw [if_pos hover]
    exact hinv
  rw [if_neg hover]
  by_cases hterminal : db.run.status.isTerminal = true
  · rw [if_pos hterminal]
    exact hinv
  rw [if_neg hterminal]
  have hnot : db.run.status ≠ .completed := by
    intro h
    simp [h, RunStatus.isTerminal] at hterminal
  unfold advanceRunWorkflow
  dsimp only [Option.map_some, Option.getD_some]
  split
  · exact hinv
  · rename_i state hstate
    simp only [Option.some_or, Option.isNone_some, Bool.false_and,
      Bool.false_eq_true, if_false]
    by_cases hopen : stage.IsOpen
    · obtain ⟨hactive, hhere⟩ := hinv.activeStage hmem hopen
      rw [hhere] at hstate ⊢
      exact loopInvariant_advanceStage_open hactive hclock hstate horderly
    · have hcompleted : stage.status = .completed := by
        by_contra hother
        exact hover (by simpa [StageExecution.IsOpen, hother] using hopen)
      exact loopInvariant_advanceStage_closed hinv hnot hclock
        (htarget stage hstage hcompleted) hmem _

end Step

/-! ## Commands -/

section Commands

variable {plan : RunPlan} {world : World} {stage : StageExecution}
  {db : Database}

theorem recordActivity_same (activity : Activity) (db : Database) :
    (recordActivity activity db).stages = db.stages ∧
      (recordActivity activity db).run = db.run := by
  unfold recordActivity
  split_ifs
  · exact ⟨rfl, rfl⟩
  · exact ⟨rfl, rfl⟩

theorem loopInvariant_recordActivity
    (hinv : LoopInvariant plan db) (activity : Activity) :
    LoopInvariant plan (recordActivity activity db) := by
  obtain ⟨hstages, hrun⟩ := recordActivity_same activity db
  exact hinv.of_same hstages (by rw [hrun]) (by rw [hrun])

theorem loopInvariant_finishSingleTask
    (hinv : LoopInvariant plan db) (activity : Activity) {item : InvokeItem}
    (completed : Bool)
    (hopen : ∀ stage ∈ db.stages, stage.id = item.stageExecutionId →
      stage.IsOpen) :
    LoopInvariant plan (finishSingleTask activity item completed db) := by
  unfold finishSingleTask
  by_cases hitem : item ∈ db.invokes ∧ item.status.inFlight ∧
      item.totalTasks ≤ 1
  · rw [if_pos hitem]
    have hrecorded := loopInvariant_recordActivity hinv activity
    obtain ⟨hstages, hrun⟩ := recordActivity_same activity db
    rw [← hstages] at hopen
    generalize recordActivity activity db = recorded at hrecorded hopen
    by_cases hstage : ∃ stage ∈ recorded.stages,
        stage.id = item.stageExecutionId
    · obtain ⟨stage, hmem, hid⟩ := hstage
      rw [← hid]
      obtain ⟨hactive, -⟩ := hrecorded.activeStage hmem (hopen stage hmem hid)
      refine (hactive.settle ?_).1
      cases completed <;> rfl
    · -- no execution has this number
      have hsame : restatus recorded.stages item.stageExecutionId
          (if completed then .completed else .failed) = recorded.stages := by
        refine (List.map_congr_left fun other hother => ?_).trans
          (List.map_id _)
        rw [if_neg fun hid => hstage ⟨other, hother, hid⟩, id_eq]
      exact hrecorded.of_same hsame rfl Iff.rfl
  · rw [if_neg hitem]
    exact hinv

/-- The execution that waits for an approval is the open one. -/
theorem activeStage_of_waitingStage
    (hinv : LoopInvariant plan db) {stageId : String}
    (h : db.waitingStage stageId = some stage) :
    ActiveStage plan stage db ∧ stage.stageId = stageId := by
  rw [Database.waitingStage, listStages_eq hinv.lineage] at h
  have hmem := List.mem_of_find?_eq_some h
  have hfound := List.find?_some h
  rw [decide_eq_true_eq] at hfound
  have hopen : stage.IsOpen := by
    rw [StageExecution.IsOpen, hfound.2]
    rfl
  exact ⟨(hinv.activeStage hmem hopen).1, hfound.1⟩

theorem statusAfterDecision_isStarted
    (plan : RunPlan) (grant : Bool) (stage : StageExecution) :
    (statusAfterDecision plan grant stage).isStarted = true := by
  unfold statusAfterDecision
  split_ifs <;> rfl

theorem loopInvariant_settleApproval
    (hinv : LoopInvariant plan db) (grant : Bool) (approval : ApprovalRow) :
    LoopInvariant plan (settleApproval plan grant approval db) := by
  have hdecided : LoopInvariant plan
      (db.decideApproval approval.id (decisionOf grant)) :=
    hinv.of_same rfl rfl Iff.rfl
  unfold settleApproval
  dsimp only
  split
  · exact hdecided
  · rename_i stage hwaiting
    obtain ⟨hactive, -⟩ := activeStage_of_waitingStage hdecided hwaiting
    exact hactive.of_stageEffect
      (.setStageStatus stage _ (statusAfterDecision_isStarted plan grant stage)
        fun _ => trivial)

theorem loopInvariant_decideStage
    (hinv : LoopInvariant plan db) (grant : Bool) (stageId : String) :
    LoopInvariant plan (decideStage plan grant stageId db) := by
  unfold decideStage
  split
  · exact hinv
  · exact loopInvariant_settleApproval hinv grant _

/-- A rejected release goes to refinement if there is room for it. -/
theorem loopInvariant_resolveApproval
    (hinv : LoopInvariant plan db) (grant : Bool) {approvalId : Nat}
    (hroom : ∀ approval,
      (db.approvals.find? fun row =>
        row.id = approvalId ∧ row.isOpen) = some approval →
      reroutesToRefinement grant approval db = true →
      Room plan db.stages implementationRefinedStateId) :
    LoopInvariant plan (resolveApproval plan grant approvalId db) := by
  unfold resolveApproval
  split
  · exact hinv
  rename_i approval happroval
  dsimp only
  by_cases hreroute : reroutesToRefinement grant approval db = true
  · rw [if_pos hreroute]
    have hleft := hroom approval happroval hreroute
    simp only [reroutesToRefinement, Bool.and_eq_true, Bool.not_eq_true',
      decide_eq_true_eq, Option.any_eq_true] at hreroute
    obtain ⟨⟨rfl, hrelease⟩, stage, hwaiting, hgate⟩ := hreroute
    -- the decision does not change which execution waits
    have hdecided : LoopInvariant plan
        (db.decideApproval approval.id (decisionOf false)) :=
      hinv.of_same rfl rfl Iff.rfl
    have hwaiting' : (db.decideApproval approval.id
        (decisionOf false)).waitingStage approval.stageId = some stage :=
      hwaiting
    obtain ⟨hactive, hstage⟩ :=
      activeStage_of_waitingStage hdecided hwaiting'
    have hstatus : statusAfterDecision plan false stage = .completed := by
      simp [statusAfterDecision, hgate]
    have hsettled : settleApproval plan false approval db =
        (db.decideApproval approval.id (decisionOf false)).setStageStatus
          stage.id .completed := by
      simp only [settleApproval, hwaiting', hstatus]
    obtain ⟨hinv', hclosed⟩ :=
      hactive.settle (rfl : StageStatus.completed.isTerminal = true)
    rw [hsettled]
    have hrunning : LoopInvariant plan
        (((db.decideApproval approval.id (decisionOf false)).setStageStatus
          stage.id .completed).setRunStatus .running) :=
      hinv'.of_same rfl rfl (iff_of_false (by simp) hactive.notCompleted)
    refine hrunning.moved hclosed (by simp) (hactive.room_of_ne _ ?_ hleft)
    rw [← hactive.stageId_eq, hstage, hrelease]
    decide
  · rw [if_neg hreroute]
    exact loopInvariant_settleApproval hinv grant approval

/-- What a retry may replace, if nothing of another state is open. -/
theorem retryableStage_spec
    (hinv : LoopInvariant plan db) {stageId : String}
    (h : retryableStage db stageId = some stage)
    (hopen : ∀ other ∈ db.stages, other.IsOpen → other.stageId = stageId) :
    latestOf db.stages stage.stageId = some stage ∧
      db.run.status ≠ .completed ∧ AllClosed db.stages := by
  obtain ⟨hlatest, hallowed⟩ := Option.filter_eq_some_iff.mp h
  rw [Database.latestStage, listStages_eq hinv.lineage] at hlatest
  have hlatest : latestOf db.stages stageId = some stage := hlatest
  obtain ⟨hmem, rfl⟩ := latestOf_mem hlatest
  rw [Bool.and_eq_true] at hallowed
  refine ⟨hlatest, ?_, ?_⟩
  · intro hcompleted
    simp [runForbidsRetry, hcompleted] at hallowed
  · intro other hother hother_open
    obtain ⟨hactive, hhere⟩ := hinv.activeStage hother hother_open
    have hsame := hactive.latest
    rw [← hhere, hopen other hother hother_open, hlatest] at hsame
    obtain rfl := Option.some.inj hsame
    have hterminal : stage.status.isTerminal = false := hother_open
    revert hallowed hterminal
    cases stage.status <;> simp [StageStatus.isTerminal]

theorem loopInvariant_retryStage
    (hinv : LoopInvariant plan db) (hclock : db.ClockAt world.now)
    {stageId : String}
    (hopen : ∀ stage ∈ db.stages, stage.IsOpen → stage.stageId = stageId) :
    LoopInvariant plan (retryStage world stageId db) := by
  unfold retryStage
  split
  · exact hinv
  · rename_i stage hstage
    obtain ⟨hlatest, hnot, hclosed⟩ := retryableStage_spec hinv hstage hopen
    have hcancelled : LoopInvariant plan (cancelInFlight db stage) :=
      hinv.of_same rfl rfl Iff.rfl
    exact hcancelled.supersedeStage hnot hclock hlatest
      (fun other hother h => absurd h (hclosed other hother)) rfl (by simp)

theorem loopInvariant_retryAgentExecution
    (hinv : LoopInvariant plan db) (hclock : db.ClockAt world.now)
    {stageId : String}
    (hopen : ∀ stage ∈ db.stages, stage.IsOpen → stage.stageId = stageId)
    (source : InvokeItem) :
    LoopInvariant plan (retryAgentExecution world stageId source db) := by
  unfold retryAgentExecution
  split
  · exact hinv
  · rename_i stage hstage
    obtain ⟨hstage, -⟩ := Option.filter_eq_some_iff.mp hstage
    obtain ⟨hlatest, hnot, hclosed⟩ := retryableStage_spec hinv hstage hopen
    exact loopInvariant_scheduleTargetedRetry hinv hnot hclock hlatest
      (fun other hother h => absurd h (hclosed other hother)) source

/-- Every orderly step keeps the invariant. -/
theorem loopInvariant_apply
    {event : Event} (hinv : LoopInvariant plan db)
    (horderly : Orderly plan db event) :
    LoopInvariant plan (db.apply plan event) := by
  obtain ⟨hclock, horderly⟩ := horderly
  cases event with
  | advance world =>
      exact loopInvariant_advanceRun hinv (hclock _ rfl) horderly
  | advanceTargeted world target =>
      exact loopInvariant_advanceRunTargeted hinv (hclock _ rfl) horderly.1
        horderly.2
  | activity activity => exact loopInvariant_recordActivity hinv activity
  | finishSingleTask activity item completed =>
      exact loopInvariant_finishSingleTask hinv activity completed horderly
  | decideStage grant stageId =>
      exact loopInvariant_decideStage hinv grant stageId
  | resolveApproval grant approvalId =>
      exact loopInvariant_resolveApproval hinv grant horderly
  | retryStage world stageId =>
      exact loopInvariant_retryStage hinv (hclock _ rfl) horderly
  | retryAgentExecution world stageId source =>
      exact loopInvariant_retryAgentExecution hinv (hclock _ rfl) horderly
        source

end Commands

/-! ## Runs -/

/-- A run that was started and not advanced yet. -/
structure Fresh (plan : RunPlan) (db : Database) : Prop where
  stages : db.stages = []
  atInitialState : db.here plan = plan.initialState
  notCompleted : db.run.status ≠ .completed

theorem loopInvariant_of_fresh
    {plan : RunPlan} {db : Database} (hfresh : Fresh plan db)
    (hinitial : Room plan [] plan.initialState) : LoopInvariant plan db := by
  refine ⟨?_, fun h => absurd h hfresh.notCompleted, ?_⟩
  · rw [hfresh.stages, hfresh.atInitialState]
    refine ⟨rfl, .nil, by simp, by simp, by simp, ?_, ?_⟩
    · intro stateId limit _
      exact Nat.zero_le limit
    · intro stateId hmay
      obtain ⟨rfl, -⟩ | ⟨stage, hlatest, -⟩ := hmay
      · exact hinitial
      · simp [latestOf] at hlatest
  · rw [hfresh.stages]
    simp

/--
In every state of every orderly run the number of distinct completed
iterations of a state is at most the limit of its loop.
-/
theorem completedIterations_le_loopMax
    (plan : RunPlan) (db : Database) (hfresh : Fresh plan db)
    (hinitial : ∀ limit, loopLimit plan plan.initialState = some limit →
      0 < limit)
    (events : List Event) (hrun : RunMeets plan (Orderly plan) db events)
    (stateId : String) (state : CompiledState) (loop : CompiledLoop)
    (hstate : plan.state? stateId = some state)
    (hloop : state.loopConfig = some loop) :
    (completedSet (db.applyAll plan events).stages stateId).card ≤ loop.max := by
  have hinv : LoopInvariant plan (db.applyAll plan events) :=
    invariant_applyAll (fun _ _ => loopInvariant_apply)
      (loopInvariant_of_fresh hfresh hinitial) hrun
  refine hinv.lineage.bounded stateId loop.max ?_
  rw [loopLimit, hstate, Option.bind_some, hloop, Option.map_some]

/-! ## A state that transitions to itself -/

/-- A refinement that always asks for one more iteration and may have one. -/
def refineState (agents : List String) : CompiledState :=
  { plainState "refine" [{ toState := "refine", condition := "true" }] with
    tasks := agents.map fun agentId =>
      { agent := { agentId := agentId, provider := "acp" }
        taskName := "refine"
        parallel := true }
    loopConfig := some { counter := "refinements", max := 1 } }

/-- The plan with this state alone. -/
def refinePlan (agents : List String) : RunPlan where
  initialState := "refine"
  states := [("refine", refineState agents)]

/-- A step that has not started or whose execution is over does not complete a
running execution. -/
theorem not_loopsPastLimit
    {plan : RunPlan} {world : World} {db : Database}
    (h : (latestOf db.listStages (db.here plan)).map (·.status) ≠
      some .running) :
    ¬LoopsPastLimit plan world db := by
  rintro ⟨state, stage, -, hlatest, hrunning, -⟩
  rw [hlatest, Option.map_some, hrunning] at h
  exact h rfl

/-- One writer: its worker settles the execution, and the next step counts it. -/
theorem completedIterations_le_loopMax_refine :
    let plan := refinePlan ["writer"]
    let start := runningDatabase "refine"
    let opened := start.apply plan (.advance (quietWorld 1))
    let finished := Event.finishSingleTask (finishAll opened)
      (taskItem (newStage (quietWorld 1) start "refine" (refineState ["writer"]))
        "writer" 0 1) true
    completedSet (start.applyAll plan
      [.advance (quietWorld 1), finished, .advance (quietWorld 2)]).stages
        "refine" = {1} ∧
    (completedSet (start.applyAll plan
      [.advance (quietWorld 1), finished, .advance (quietWorld 2)]).stages
        "refine").card ≤ 1 := by
  intro plan start opened finished
  have hone : ∀ limit, loopLimit plan plan.initialState = some limit →
      0 < limit := by
    intro limit hlimit
    obtain rfl : 1 = limit := Option.some.inj hlimit
    exact Nat.one_pos
  refine ⟨by decide +kernel, completedIterations_le_loopMax plan start
    ⟨rfl, rfl, by decide⟩ hone _ ?_ "refine" (refineState ["writer"]) _ rfl rfl⟩
  have hopen : ∀ stage ∈ opened.stages, stage.id = 0 →
      stage.status.isTerminal = false := by
    decide +kernel
  have hclock : ∀ stage ∈ (opened.apply plan finished).stages,
      stage.startedAt ≤ 2 := by
    decide +kernel
  refine ⟨⟨?_, not_loopsPastLimit (by decide)⟩, ⟨by simp [Event.clock, finished],
    hopen⟩, ⟨?_, not_loopsPastLimit (by decide +kernel)⟩, trivial⟩
  · intro now _ stage hstage
    exact absurd hstage List.not_mem_nil
  · rintro now ⟨rfl⟩
    exact hclock

/-- Two writers: the step that settles the execution also takes the transition
and does not count the iteration it completed. -/
theorem refine_exceeds_loopMax :
    let plan := refinePlan ["writer", "editor"]
    let start := runningDatabase "refine"
    let opened := start.apply plan (.advance (quietWorld 1))
    let looped := opened.applyAll plan
      [.activity (finishAll opened), .advance (quietWorld 2),
        .advance (quietWorld 3)]
    loopLimit plan "refine" = some 1 ∧
      (completedSet (looped.applyAll plan
        [.activity (finishAll looped), .advance (quietWorld 4)]).stages
          "refine").card = 2 := by
  decide +kernel

end ChainworksForge.Engine
