import ChainworksForge.Engine.Lineage
import Mathlib.Logic.Relation

/-!
# What dispatching work does to a stage

Every way of dispatching the work of a stage changes at most the status of that
stage and the status of the run, asks for approvals, and queues invocations of
that stage under new keys.  `StageEffect` says so once; the invariants of runs
then never look into the dispatch functions.
-/

namespace ChainworksForge.Engine

open ChainworksForge.Support ChainworksForge.Workflow

/-- One approval was asked for. -/
def AsksApproval (before after : List ApprovalRow) : Prop :=
  ∃ stageId, after = before ++
    [{ id := before.length, stageId := stageId, decision := .requested }]

/-- Some approvals were asked for, and nothing was decided. -/
def AsksApprovals (before after : Database) : Prop :=
  Relation.ReflTransGen AsksApproval before.approvals after.approvals

namespace AsksApprovals

variable {a b c : Database}

theorem of_eq (h : b.approvals = a.approvals) : AsksApprovals a b := by
  rw [AsksApprovals, h]

theorem trans (hab : AsksApprovals a b) (hbc : AsksApprovals b c) :
    AsksApprovals a c :=
  Relation.ReflTransGen.trans hab hbc

theorem requestApproval (db : Database) (stageId : String) :
    AsksApprovals db (db.requestApproval stageId) :=
  .single ⟨stageId, rfl⟩

end AsksApprovals

/-- The execution that the key of an invocation names. -/
def InvokeItemId.execution : InvokeItemId → StageExecutionId
  | .task stage _ => stage
  | .reviewer stage _ _ => stage
  | .targetedRetry stage => stage

/-- An invocation of one execution, by its payload and by its key. -/
def InvokeItem.BelongsTo
    (item : InvokeItem) (execution : StageExecutionId) : Prop :=
  item.stageExecutionId = execution ∧ item.id.execution = execution

/-- The invocation of a selected reviewer. -/
def InvokeItem.IsReviewer (item : InvokeItem) : Prop :=
  item.dynamicPhase = some 0 ∧
    ∀ execution taskIndex, item.id ≠ .task execution taskIndex

/-- One invocation of an execution was queued under a new key. -/
def Enqueues
    (execution : StageExecutionId) (before after : List InvokeItem) : Prop :=
  ∃ item, item.BelongsTo execution ∧
    (∀ other ∈ before, other.id ≠ item.id) ∧ after = before ++ [item]

/-- Some invocations of an execution were queued, and no other row of the
queue changed. -/
def EnqueuesFor
    (execution : StageExecutionId) (before after : Database) : Prop :=
  Relation.ReflTransGen (Enqueues execution) before.invokes after.invokes

namespace EnqueuesFor

variable {execution : StageExecutionId} {a b c : Database}

theorem of_eq (h : b.invokes = a.invokes) : EnqueuesFor execution a b := by
  rw [EnqueuesFor, h]

theorem trans
    (hab : EnqueuesFor execution a b) (hbc : EnqueuesFor execution b c) :
    EnqueuesFor execution a c :=
  Relation.ReflTransGen.trans hab hbc

theorem enqueueInvoke
    {item : InvokeItem} (hitem : item.BelongsTo execution)
    (h : a.enqueueInvoke item = some b) : EnqueuesFor execution a b := by
  unfold Database.enqueueInvoke at h
  split_ifs at h with hkey
  obtain rfl := Option.some.inj h
  refine .single ⟨item, hitem, ?_, rfl⟩
  simpa using hkey

end EnqueuesFor

/-- At most the status of one stage execution changed, the run is where it
was, it was not completed by the change, and no approval was decided.  The
execution itself is only completed if `completes` holds. -/
structure StageEffect
    (completes : Prop) (stage : StageExecution) (before after : Database) :
    Prop where
  currentState : after.run.currentState = before.run.currentState
  status : after.run.status = .completed → before.run.status = .completed
  stages : after.stages = before.stages ∨
    ∃ status : StageStatus, status.isStarted = true ∧
      (status = .completed → completes) ∧
      after.stages = restatus before.stages stage.id status
  approvals : AsksApprovals before after
  invokes : EnqueuesFor stage.id before after

/-- Queueing an invocation changes the queue only. -/
theorem enqueueInvoke_same
    {item : InvokeItem} {db after : Database}
    (h : db.enqueueInvoke item = some after) :
    after.stages = db.stages ∧ after.run = db.run ∧
      after.approvals = db.approvals := by
  unfold Database.enqueueInvoke at h
  split_ifs at h
  obtain rfl := Option.some.inj h
  exact ⟨rfl, rfl, rfl⟩

namespace StageEffect

variable {completes : Prop} {stage : StageExecution} {a b c : Database}

theorem refl (stage : StageExecution) (db : Database) :
    StageEffect completes stage db db :=
  ⟨rfl, id, .inl rfl, .of_eq rfl, .of_eq rfl⟩

theorem restatus_restatus
    (stages : List StageExecution) (id : StageExecutionId)
    (first second : StageStatus) :
    restatus (restatus stages id first) id second =
      restatus stages id second := by
  rw [restatus, restatus, restatus, List.map_map]
  refine List.map_congr_left fun other _ => ?_
  by_cases h : other.id = id
  · simp [h]
  · simp [h]

theorem trans (hab : StageEffect completes stage a b) (hbc : StageEffect completes stage b c) :
    StageEffect completes stage a c := by
  refine ⟨hbc.currentState.trans hab.currentState,
    fun h => hab.status (hbc.status h), ?_,
    hab.approvals.trans hbc.approvals, hab.invokes.trans hbc.invokes⟩
  obtain hb | ⟨second, hstarted, hcompletes, hb⟩ := hbc.stages
  · rw [hb]
    exact hab.stages
  · refine .inr ⟨second, hstarted, hcompletes, ?_⟩
    obtain ha | ⟨first, -, -, ha⟩ := hab.stages
    · rw [hb, ha]
    · rw [hb, ha, restatus_restatus]

/-- The effect without the condition on completion. -/
theorem weaken (hab : StageEffect completes stage a b) :
    StageEffect True stage a b := by
  refine ⟨hab.currentState, hab.status, ?_, hab.approvals, hab.invokes⟩
  obtain hsame | ⟨status, hstarted, -, hstages⟩ := hab.stages
  · exact .inl hsame
  · exact .inr ⟨status, hstarted, fun _ => trivial, hstages⟩

/-- Only rows that are not executions changed. -/
theorem of_same
    (hrun : b.run = a.run) (hstages : b.stages = a.stages)
    (happrovals : AsksApprovals a b) (hinvokes : EnqueuesFor stage.id a b) :
    StageEffect completes stage a b :=
  ⟨by rw [hrun], by rw [hrun]; exact id, .inl hstages, happrovals, hinvokes⟩

theorem setStageStatus
    (stage : StageExecution) (db : Database) {status : StageStatus}
    (hstarted : status.isStarted = true)
    (hcompletes : status = .completed → completes) :
    StageEffect completes stage db (db.setStageStatus stage.id status) :=
  ⟨rfl, id, .inr ⟨status, hstarted, hcompletes, rfl⟩, .of_eq rfl, .of_eq rfl⟩

theorem setRunStatus
    (stage : StageExecution) (db : Database) {status : RunStatus}
    (hstatus : status ≠ .completed) :
    StageEffect completes stage db (db.setRunStatus status) :=
  ⟨rfl, fun h => absurd h hstatus, .inl rfl, .of_eq rfl, .of_eq rfl⟩

theorem blockRun (stage : StageExecution) (db : Database) :
    StageEffect completes stage db db.blockRun :=
  ⟨Database.blockRun_currentState db, by simp, .inl (by simp),
    .of_eq (by simp), .of_eq (by simp)⟩

theorem enqueueInvoke
    {item : InvokeItem} {db after : Database} (hitem : item.BelongsTo stage.id)
    (h : db.enqueueInvoke item = some after) : StageEffect completes stage db after := by
  obtain ⟨hstages, hrun, happrovals⟩ := enqueueInvoke_same h
  exact of_same hrun hstages (.of_eq happrovals) (.enqueueInvoke hitem h)

end StageEffect

open StageEffect

section Dispatch

variable {completes : Prop} (plan : RunPlan) (world : World)
  (stage : StageExecution) (state : CompiledState)

theorem stageEffect_blockPromptFinalizationFailure (db : Database) :
    StageEffect completes stage db (blockPromptFinalizationFailure db stage) :=
  (setStageStatus stage db rfl nofun).trans
    (setRunStatus stage _ (by simp))

/-- Blocking a stage and its run after noting why. -/
theorem stageEffect_blockStage
    {db noted : Database} (hnoted : StageEffect completes stage db noted) :
    StageEffect completes stage db
      (noted.setStageStatus stage.id .blocked).blockRun :=
  hnoted.trans
    ((setStageStatus stage noted rfl nofun).trans (blockRun stage _))

theorem stageEffect_withIdea
    {db : Database} {next : Outcome}
    (hnext : StageEffect completes stage db next.database) :
    StageEffect completes stage db (withIdea plan world stage db next).database := by
  unfold withIdea
  split_ifs
  · exact hnext
  · exact stageEffect_blockPromptFinalizationFailure stage db
  · exact refl stage db

theorem stageEffect_enqueueInvokeAgent
    {item : InvokeItem} {db after : Database} (hitem : item.BelongsTo stage.id)
    (h : enqueueInvokeAgent world db item = .ok after) :
    StageEffect completes stage db after := by
  unfold enqueueInvokeAgent at h
  split at h
  · simp at h
  · split at h
    · simp at h
    · rename_i queued
      obtain rfl := Except.ok.inj h
      exact enqueueInvoke hitem queued

theorem taskItem_belongsTo
    (agentId : String) (taskIndex totalTasks : Nat) :
    (taskItem stage agentId taskIndex totalTasks).BelongsTo stage.id :=
  ⟨rfl, rfl⟩

theorem stageEffect_dispatchTasks
    (totalTasks : Nat) (tasks : List (CompiledTask × Nat)) (db : Database) :
    StageEffect completes stage db
      (dispatchTasks world stage totalTasks tasks db).database := by
  induction tasks generalizing db with
  | nil => exact refl stage db
  | cons entry rest ih =>
      obtain ⟨task, taskIndex⟩ := entry
      simp only [dispatchTasks]
      split_ifs
      · exact stageEffect_blockStage stage (of_same rfl rfl (.of_eq rfl) (.of_eq rfl))
      · split
        · exact stageEffect_blockPromptFinalizationFailure stage db
        · split
          · exact refl stage db
          · rename_i after hafter
            exact (stageEffect_enqueueInvokeAgent world stage
              (taskItem_belongsTo stage _ _ _) hafter).trans (ih after)

theorem stageEffect_dispatchOwner (db : Database) :
    StageEffect completes stage db (dispatchOwner world stage state db).database := by
  unfold dispatchOwner
  split
  · exact refl stage db
  · split
    · exact refl stage db
    · rename_i after hafter
      exact stageEffect_enqueueInvokeAgent world stage
        (taskItem_belongsTo stage _ _ _) hafter

theorem stageEffect_dispatchFirstPhase
    (tasks : List CompiledTask) (db : Database) :
    StageEffect completes stage db
      (dispatchFirstPhase world stage state tasks db).database := by
  unfold dispatchFirstPhase
  split_ifs
  · exact stageEffect_dispatchOwner world stage state db
  · exact stageEffect_dispatchTasks world stage _ _ db

theorem stageEffect_enqueueAll
    {items : List InvokeItem} {db after : Database}
    (hitems : ∀ item ∈ items, item.BelongsTo stage.id)
    (h : enqueueAll items db = some after) : StageEffect completes stage db after := by
  induction items generalizing db with
  | nil =>
      obtain rfl := Option.some.inj h
      exact refl stage db
  | cons item rest ih =>
      rw [enqueueAll, List.foldlM_cons] at h
      obtain ⟨next, hnext, hrest⟩ := Option.bind_eq_some_iff.mp h
      obtain ⟨hitem, hothers⟩ := List.forall_mem_cons.mp hitems
      exact (enqueueInvoke hitem hnext).trans (ih hothers hrest)

/-- A prepared reviewer belongs to the stage and counts as its phase 0. -/
theorem prepareReviewers_spec
    {selection : AgentSelectionPlan} {totalTasks : Nat}
    {selected : List (SelectedAgent × Nat)} {items : List InvokeItem}
    (h : prepareReviewers plan world stage selection totalTasks selected =
      .ok items) :
    ∀ item ∈ items, item.BelongsTo stage.id ∧ item.IsReviewer ∧
      item.totalTasks = totalTasks := by
  induction selected generalizing items with
  | nil =>
      obtain rfl := Except.ok.inj h
      simp
  | cons entry rest ih =>
      obtain ⟨agent, index⟩ := entry
      simp only [prepareReviewers] at h
      split at h
      · exact ih h
      · split_ifs at h
        · exact ih h
        · split at h
          · simp at h
          · split at h
            · simp at h
            · split at h
              · simp at h
              · rename_i later hlater
                obtain rfl := Except.ok.inj h
                rw [List.forall_mem_cons]
                exact ⟨⟨⟨rfl, rfl⟩, ⟨rfl, nofun⟩, rfl⟩, ih hlater⟩

theorem stageEffect_materializeDynamicParallel
    (selection : AgentSelectionPlan) (db : Database) :
    StageEffect completes stage db
      (materializeDynamicParallel plan world stage selection db).database := by
  unfold materializeDynamicParallel
  dsimp only
  split
  · exact stageEffect_blockPromptFinalizationFailure stage db
  · exact refl stage db
  · split
    · exact refl stage db
    · rename_i prepared hprepared _ after hafter
      refine stageEffect_enqueueAll stage (fun item hitem => ?_) hafter
      exact (prepareReviewers_spec plan world stage hprepared item
        (List.mem_of_mem_filter hitem)).1

/-- The state of an execution runs an in-process quality gate. -/
def HasQualityGate (plan : RunPlan) (stage : StageExecution) : Prop :=
  ∃ task, (plan.state? stage.stageId).bind (·.systemTask) = some task ∧
    task.taskType = "quality_gate_boundary_evaluator"

theorem stageEffect_executeSystemRoutingIfApplicable
    {db after : Database} {settled : Bool}
    (h : executeSystemRoutingIfApplicable plan world stage db =
      .ok (settled, after)) :
    StageEffect (HasQualityGate plan stage) stage db after := by
  unfold executeSystemRoutingIfApplicable at h
  dsimp only at h
  split at h
  · rename_i task htask
    split_ifs at h
    split at h
    · simp at h
    · obtain ⟨-, rfl⟩ := Prod.mk.inj (Except.ok.inj h)
      obtain ⟨hsystem, htype⟩ := Option.filter_eq_some_iff.mp htask
      exact setStageStatus stage db rfl
        fun _ => ⟨task, hsystem, by simpa using htype⟩
  · split_ifs at h
    · obtain ⟨-, rfl⟩ := Prod.mk.inj (Except.ok.inj h)
      exact refl stage db
    · obtain ⟨-, rfl⟩ := Prod.mk.inj (Except.ok.inj h)
      exact (setStageStatus stage db rfl nofun).trans
        (setRunStatus stage _ (by simp))

theorem stageEffect_dispatchStage
    (tasks : List CompiledTask) (db : Database) :
    StageEffect (HasQualityGate plan stage) stage db
      (dispatchStage plan world stage state tasks db).database := by
  unfold dispatchStage
  split
  · exact refl stage db
  · rename_i hrouting
    exact stageEffect_executeSystemRoutingIfApplicable plan world stage hrouting
  · rename_i routed hrouting
    have hrouted :=
      stageEffect_executeSystemRoutingIfApplicable plan world stage hrouting
    refine hrouted.trans ?_
    split
    · exact stageEffect_materializeDynamicParallel plan world stage _ routed
    · exact refl stage routed
    · exact stageEffect_dispatchFirstPhase world stage state tasks routed

theorem stageEffect_kickstart (effective : List CompiledTask) (db : Database) :
    StageEffect (HasQualityGate plan stage) stage db
      (kickstart plan world stage state effective db).database := by
  apply stageEffect_withIdea
  split_ifs
  · exact stageEffect_dispatchStage plan world stage state effective db
  · exact stageEffect_dispatchFirstPhase world stage state effective db

theorem stageEffect_dispatchWork (db : Database) :
    StageEffect (HasQualityGate plan stage) stage db
      (dispatchWork plan world state stage db).database := by
  apply stageEffect_withIdea
  split_ifs
  · exact setRunStatus stage db (by simp)
  · exact stageEffect_dispatchStage plan world stage state state.tasks db

theorem stageEffect_startWork (db : Database) :
    StageEffect (HasQualityGate plan stage) stage db
      (startWork plan world state stage db).database := by
  unfold startWork
  split_ifs
  · apply stageEffect_withIdea
    split
    · exact setRunStatus stage db (by simp)
    · rename_i root _
      have hroot : StageEffect (HasQualityGate plan stage) stage db
          { db with run := { db.run with worktreeRoot := some root } } :=
        ⟨rfl, id, .inl rfl, .of_eq rfl, .of_eq rfl⟩
      exact hroot.trans (stageEffect_dispatchWork plan world stage state _)
  · exact stageEffect_dispatchWork plan world stage state db

theorem stageEffect_holdImplementationStart
    (task : CompiledTask) (db : Database) :
    StageEffect completes stage db (holdImplementationStart world stage task db) := by
  unfold holdImplementationStart
  apply stageEffect_blockStage
  by_cases hempty : (if "approved_proposal" ∈ requiredArtifacts task ∧
      ¬world.approvedProposalPresent then ["approved_proposal"]
        else []).isEmpty = true
  · rw [if_pos hempty]
    exact refl stage db
  · rw [if_neg hempty]
    exact of_same rfl rfl (.of_eq rfl) (.of_eq rfl)

theorem stageEffect_awaitApproval (db : Database) :
    StageEffect completes stage db (awaitApproval db stage) := by
  have hwaiting : StageEffect completes stage db
      ((db.setStageStatus stage.id .waitingApproval).requestApproval
        stage.stageId) :=
    (setStageStatus stage db rfl nofun).trans
      (of_same rfl rfl (.requestApproval _ _) (.of_eq rfl))
  unfold awaitApproval
  dsimp only
  split_ifs
  · exact hwaiting
  · exact hwaiting.trans (setRunStatus stage _ (by simp))

end Dispatch

/-! ## A running execution with nothing left to do -/

/-- The invocations of a running execution are all settled without a failure,
and no later phase waits to be queued. -/
def readyToComplete
    (stateId : String) (state : CompiledState) (stage : StageExecution)
    (db : Database) : Bool :=
  let invokes := db.stageInvokes stage.id
  let effective := effectiveTasks state (isPostApproval state stateId db)
  !invokes.isEmpty &&
    (invokes.all fun item =>
      !item.status.inFlight && db.settled item && !db.voteFailed item) &&
    (nextPhase effective (currentPhase effective invokes)).all
      (phaseEnqueued effective invokes)

/-- The work that is left for a running execution without a failure. -/
theorem readyToComplete_of_settled
    {stage : StageExecution} {state : CompiledState} {db : Database}
    {stateId : String}
    (hflight : ¬((db.stageInvokes stage.id).any
      fun item => item.status.inFlight) = true)
    (hempty : ¬(db.stageInvokes stage.id).isEmpty = true)
    (hsettled : (db.stageInvokes stage.id).all db.settled = true)
    (hnext : ∀ phase,
      nextPhase (effectiveTasks state (isPostApproval state stateId db))
        (currentPhase (effectiveTasks state (isPostApproval state stateId db))
          (db.stageInvokes stage.id)) = some phase →
      ((db.stageInvokes stage.id).filter db.voteFailed).length = 0 →
      phaseEnqueued (effectiveTasks state (isPostApproval state stateId db))
        (db.stageInvokes stage.id) phase = true)
    (hfailed : ((db.stageInvokes stage.id).filter db.voteFailed).length = 0) :
    readyToComplete stateId state stage db = true := by
  unfold readyToComplete
  dsimp only
  rw [Bool.and_eq_true, Bool.and_eq_true]
  refine ⟨⟨by simpa using hempty, ?_⟩, ?_⟩
  · rw [List.length_eq_zero_iff, List.filter_eq_nil_iff] at hfailed
    simp only [List.any_eq_true, not_exists, not_and] at hflight
    rw [List.all_eq_true] at hsettled ⊢
    intro item hitem
    simp [hflight item hitem, hsettled item hitem, hfailed item hitem]
  · rw [Option.all_eq_true]
    exact fun phase hphase => hnext phase hphase hfailed

end ChainworksForge.Engine
