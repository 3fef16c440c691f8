import ChainworksForge.Engine.StepEffects

/-!
# What a dispatch queues

A dispatch queues one batch of invocations for an execution.  The batch holds
the tasks of one phase, or the owner of a state without tasks, or the selected
reviewers in place of the first phase.  If a prompt cannot be built or an input
is missing, only the first tasks of the phase are queued, and the execution is
blocked and never resumed.

A check before an invocation that fails does not block the execution.  If it
fails at the first task nothing is queued; if it fails later the phase stays half
queued.  The results below are about dispatches that do not stop midway.
-/

namespace ChainworksForge.Engine

open ChainworksForge.Support ChainworksForge.Workflow

/-- The invocations of some tasks. -/
def taskItems
    (stage : StageExecution) (totalTasks : Nat)
    (entries : List (CompiledTask × Nat)) : List InvokeItem :=
  entries.map fun entry =>
    taskItem stage entry.1.agent.agentId entry.2 totalTasks

/-- The number of tasks after the first phase. -/
def laterTasks (tasks : List CompiledTask) : Nat :=
  (tasks.filter fun task => 0 < task.phase).length

/-- The execution is over. -/
def Database.IsOver (db : Database) (execution : StageExecutionId) : Prop :=
  ∀ row ∈ db.stages, row.id = execution → row.status.isTerminal = true

/-- A batch of invocations for a phase; `past` says that the execution is over
after the dispatch. -/
inductive Batch
    (tasks : List CompiledTask) (stage : StageExecution) (past : Prop)
    (phase : Nat) : List InvokeItem → Prop where
  | nothing : Batch tasks stage past phase []
  | tasks (entries : List (CompiledTask × Nat))
      (hentries : entries <+: tasksOfPhase tasks phase)
      (hwhole : entries = tasksOfPhase tasks phase ∨ past) :
      Batch tasks stage past phase (taskItems stage tasks.length entries)
  | owner (agentId : String) (htasks : tasks = []) :
      Batch tasks stage past phase [taskItem stage agentId 0 1]
  | reviewers (items : List InvokeItem) (hphase : phase = 0)
      (hitems : ∀ item ∈ items, item.IsReviewer ∧ item.BelongsTo stage.id ∧
        items.length + laterTasks tasks ≤ item.totalTasks) :
      Batch tasks stage past phase items

/-- One batch was queued for an execution. -/
def Dispatches
    (tasks : List CompiledTask) (stage : StageExecution) (phase : Nat)
    (before after : Database) : Prop :=
  ∃ new, Batch tasks stage (after.IsOver stage.id) phase new ∧
    after.invokes = before.invokes ++ new

namespace Dispatches

variable {tasks : List CompiledTask} {stage : StageExecution} {phase : Nat}
  {before after : Database}

theorem of_invokes_eq (h : after.invokes = before.invokes) :
    Dispatches tasks stage phase before after :=
  ⟨[], .nothing, by rw [h, List.append_nil]⟩

theorem of_before_eq
    {other : Database} (h : Dispatches tasks stage phase other after)
    (hinvokes : other.invokes = before.invokes) :
    Dispatches tasks stage phase before after := by
  obtain ⟨new, hbatch, hnew⟩ := h
  exact ⟨new, hbatch, by rw [hnew, hinvokes]⟩

end Dispatches

open Dispatches

theorem isOver_of_restatus
    {db after : Database} {execution : StageExecutionId} {status : StageStatus}
    (hstages : after.stages = restatus db.stages execution status)
    (hterminal : status.isTerminal = true) : after.IsOver execution := by
  intro row hrow hid
  rw [hstages] at hrow
  obtain ⟨before, -, rfl⟩ := List.mem_map.mp hrow
  split_ifs at hid ⊢ with hbefore
  · exact hterminal
  · exact absurd hid hbefore

theorem enqueueInvoke_eq_some_of_fresh
    {db : Database} {item : InvokeItem}
    (hfresh : ∀ other ∈ db.invokes, other.id ≠ item.id) :
    db.enqueueInvoke item =
      some { db with invokes := db.invokes ++ [item] } := by
  unfold Database.enqueueInvoke
  rw [if_neg]
  simpa using hfresh

/-! ## Batches that stop midway -/

section Stops

variable {world : World}

/-- No missing input and no prompt that cannot be built blocks the execution at
a task. -/
structure Passes (world : World) (task : CompiledTask) : Prop where
  inputs : ¬(isCodeWriterImplementationTask task &&
    !(world.handoffMissing task).isEmpty) = true
  prompt : world.buildPrompt task = .ok ()

/-- The first tasks of a batch are queued when the check before the next one
fails. -/
def StopsAfter (world : World) (queued batch : List (CompiledTask × Nat)) :
    Prop :=
  ∃ entry rest, batch = queued ++ entry :: rest ∧
    (∀ other ∈ queued, Passes world other.1 ∧
      world.beforeDispatch other.2 = .ok ()) ∧
    Passes world entry.1 ∧ world.beforeDispatch entry.2 ≠ .ok ()

/-- A part of a batch is queued and the execution goes on without the rest. -/
def StopsMidway (world : World) (batch : List (CompiledTask × Nat)) : Prop :=
  ∃ queued, queued ≠ [] ∧ StopsAfter world queued batch

theorem StopsAfter.cons {queued batch : List (CompiledTask × Nat)}
    {task : CompiledTask} {i : Nat} (h : StopsAfter world queued batch)
    (hpasses : Passes world task) (hcheck : world.beforeDispatch i = .ok ()) :
    StopsAfter world ((task, i) :: queued) ((task, i) :: batch) := by
  obtain ⟨entry, rest, rfl, hqueued, hentry⟩ := h
  exact ⟨entry, rest, rfl, List.forall_mem_cons.mpr ⟨⟨hpasses, hcheck⟩, hqueued⟩,
    hentry⟩

/-- Checks that pass stop no batch. -/
theorem not_stopsMidway_of_checks
    (hchecks : ∀ i, world.beforeDispatch i = .ok ())
    (batch : List (CompiledTask × Nat)) : ¬StopsMidway world batch := by
  rintro ⟨queued, -, entry, rest, -, -, -, hfails⟩
  exact hfails (hchecks entry.2)

end Stops

section Dispatch

variable (plan : RunPlan) {world : World} (stage : StageExecution)
  {state : CompiledState} (tasks : List CompiledTask)

/-- An invocation whose check fails is not queued. -/
theorem enqueueInvokeAgent_of_check
    (db : Database) (item : InvokeItem)
    (hcheck : world.beforeDispatch item.taskIndex ≠ .ok ()) :
    ∃ failure, enqueueInvokeAgent world db item = .error failure := by
  unfold enqueueInvokeAgent
  split
  · exact ⟨_, rfl⟩
  · rename_i hpasses
    exact absurd hpasses hcheck

theorem enqueueInvokeAgent_of_fresh
    {db : Database} {item : InvokeItem}
    (hcheck : world.beforeDispatch item.taskIndex = .ok ())
    (hfresh : ∀ other ∈ db.invokes, other.id ≠ item.id) :
    enqueueInvokeAgent world db item =
      .ok { db with invokes := db.invokes ++ [item] } := by
  unfold enqueueInvokeAgent
  rw [hcheck, enqueueInvoke_eq_some_of_fresh hfresh]

/-- Queueing a task leaves the keys of the tasks after it unused. -/
theorem fresh_of_queued
    (entry : CompiledTask × Nat) (totalTasks : Nat)
    {rest : List (CompiledTask × Nat)} (hnew : entry.2 ∉ rest.map (·.2))
    {db : Database}
    (hfresh : ∀ other ∈ rest, ∀ item ∈ db.invokes,
      item.id ≠ .task stage.id other.2) :
    ∀ other ∈ rest,
      ∀ item ∈ ({ db with
          invokes := db.invokes ++
            [taskItem stage entry.1.agent.agentId entry.2 totalTasks] } :
        Database).invokes,
      item.id ≠ .task stage.id other.2 := by
  intro other hother item hitem
  obtain hitem | hitem := List.mem_append.mp hitem
  · exact hfresh other hother item hitem
  · rw [List.mem_singleton.mp hitem]
    intro hid
    obtain ⟨-, hindex⟩ := InvokeItemId.task.inj hid
    exact hnew (List.mem_map.mpr ⟨other, hother, hindex.symm⟩)

variable (world) in
/-- Queueing tasks one after the other ends with all of them queued, or with
the first ones queued and the execution blocked, or with the tasks queued
before a check that fails. -/
theorem dispatchTasks_spec
    (totalTasks : Nat) {entries : List (CompiledTask × Nat)}
    (hnodup : (entries.map (·.2)).Nodup) {db : Database}
    (hfresh : ∀ entry ∈ entries, ∀ item ∈ db.invokes,
      item.id ≠ .task stage.id entry.2) :
    ∃ done, done <+: entries ∧
      (dispatchTasks world stage totalTasks entries db).database.invokes =
        db.invokes ++ taskItems stage totalTasks done ∧
      (done = entries ∨
        (dispatchTasks world stage totalTasks entries db).database.IsOver
          stage.id ∨
        StopsAfter world done entries) := by
  induction entries generalizing db with
  | nil => exact ⟨[], List.prefix_rfl, by simp [dispatchTasks, taskItems], .inl rfl⟩
  | cons entry rest ih =>
      obtain ⟨task, taskIndex⟩ := entry
      simp only [dispatchTasks]
      by_cases hmissing : (isCodeWriterImplementationTask task &&
          !(world.handoffMissing task).isEmpty) = true
      · rw [if_pos hmissing]
        refine ⟨[], List.nil_prefix, ?_, .inr (.inl ?_)⟩
        · simp [taskItems, persistImplementationHandoffUnavailableConflict]
        · exact isOver_of_restatus (Database.blockRun_stages _)
            (rfl : StageStatus.blocked.isTerminal = true)
      rw [if_neg hmissing]
      split
      · exact ⟨[], List.nil_prefix, by
          simp [taskItems, blockPromptFinalizationFailure],
          .inr (.inl (isOver_of_restatus rfl rfl))⟩
      · rename_i hprompt
        have hpasses : Passes world task := ⟨hmissing, hprompt⟩
        let item := taskItem stage task.agent.agentId taskIndex totalTasks
        have hitem : ∀ other ∈ db.invokes, other.id ≠ item.id :=
          hfresh (task, taskIndex) List.mem_cons_self
        by_cases hcheck : world.beforeDispatch taskIndex = .ok ()
        swap
        · obtain ⟨failure, hfailed⟩ := enqueueInvokeAgent_of_check db item hcheck
          rw [hfailed]
          refine ⟨[], List.nil_prefix, by simp [taskItems], .inr (.inr ?_)⟩
          exact ⟨(task, taskIndex), rest, rfl, by simp, hpasses, hcheck⟩
        rw [enqueueInvokeAgent_of_fresh hcheck hitem]
        dsimp only
        rw [List.map_cons, List.nodup_cons] at hnodup
        obtain ⟨done, hprefix, hinvokes, hwhole⟩ := ih hnodup.2
          (fresh_of_queued stage (task, taskIndex) totalTasks hnodup.1
            fun other hother => hfresh other (List.mem_cons_of_mem _ hother))
        refine ⟨(task, taskIndex) :: done, ?_, ?_, ?_⟩
        · exact (List.prefix_cons_inj _).mpr hprefix
        · rw [hinvokes]
          simp [taskItems]
        · obtain rfl | hover | hstops := hwhole
          · exact .inl rfl
          · exact .inr (.inl hover)
          · exact .inr (.inr (hstops.cons hpasses hcheck))

/-- A batch that stops leaves the invocations before the failed check in the
queue and every other row as it was, the status of the execution included. -/
theorem dispatchTasks_of_stopsAfter
    (totalTasks : Nat) {queued batch : List (CompiledTask × Nat)}
    (hstops : StopsAfter world queued batch)
    (hnodup : (batch.map (·.2)).Nodup) {db : Database}
    (hfresh : ∀ entry ∈ batch, ∀ item ∈ db.invokes,
      item.id ≠ .task stage.id entry.2) :
    ∃ failure, dispatchTasks world stage totalTasks batch db =
      { database :=
          { db with invokes := db.invokes ++ taskItems stage totalTasks queued }
        failure := some failure } := by
  obtain ⟨last, rest, rfl, hqueued, hpasses, hfails⟩ := hstops
  induction queued generalizing db with
  | nil =>
      obtain ⟨failure, hfailed⟩ := enqueueInvokeAgent_of_check db
        (taskItem stage last.1.agent.agentId last.2 totalTasks) hfails
      refine ⟨failure, ?_⟩
      rw [List.nil_append, dispatchTasks, if_neg hpasses.inputs, hpasses.prompt]
      dsimp only
      rw [hfailed]
      simp [taskItems]
  | cons entry queued ih =>
      obtain ⟨⟨hentry, hcheck⟩, hothers⟩ := List.forall_mem_cons.mp hqueued
      rw [List.cons_append, List.map_cons, List.nodup_cons] at hnodup
      rw [List.cons_append, List.forall_mem_cons] at hfresh
      obtain ⟨failure, hrest⟩ := ih hnodup.2
        (fresh_of_queued stage entry totalTasks hnodup.1 hfresh.2) hothers
      refine ⟨failure, ?_⟩
      rw [List.cons_append, dispatchTasks, if_neg hentry.inputs, hentry.prompt]
      dsimp only
      rw [enqueueInvokeAgent_of_fresh hcheck hfresh.1]
      dsimp only
      rw [hrest]
      simp [taskItems]

theorem tasksOfPhase_nodup (phase : Nat) :
    ((tasksOfPhase tasks phase).map (·.2)).Nodup := by
  have hall : (tasks.zipIdx.map (·.2)).Nodup := by
    have hrange := List.zipIdx_map_snd 0 tasks
    rw [show (fun entry : CompiledTask × Nat => entry.2) = Prod.snd from rfl,
      hrange]
    exact List.nodup_range'
  exact hall.sublist (List.filter_sublist.map _)

/-- Queueing the tasks of a phase. -/
theorem dispatches_dispatchTasks
    {phase : Nat} (hwhole : ¬StopsMidway world (tasksOfPhase tasks phase))
    {db : Database}
    (hfresh : ∀ entry ∈ tasksOfPhase tasks phase, ∀ item ∈ db.invokes,
      item.id ≠ .task stage.id entry.2) :
    Dispatches tasks stage phase db
      (dispatchTasks world stage tasks.length (tasksOfPhase tasks phase)
        db).database := by
  obtain ⟨done, hprefix, hinvokes, hdone | hover | hstops⟩ := dispatchTasks_spec
    world stage tasks.length (tasksOfPhase_nodup tasks phase) hfresh
  · exact ⟨_, .tasks done hprefix (.inl hdone), hinvokes⟩
  · exact ⟨_, .tasks done hprefix (.inr hover), hinvokes⟩
  · -- the first check fails and nothing is queued
    obtain rfl : done = [] := by
      by_contra hqueued
      exact hwhole ⟨done, hqueued, hstops⟩
    exact ⟨[], .nothing, hinvokes⟩

/-- Queueing the owner of a state without tasks. -/
theorem dispatches_dispatchOwner
    (htasks : tasks = []) (phase : Nat) (db : Database) :
    Dispatches tasks stage phase db
      (dispatchOwner world stage state db).database := by
  unfold dispatchOwner
  split
  · exact of_invokes_eq rfl
  · split
    · exact of_invokes_eq rfl
    · rename_i after hafter
      refine ⟨_, .owner state.owner.agentId htasks, ?_⟩
      unfold enqueueInvokeAgent at hafter
      split at hafter
      · simp at hafter
      · split at hafter
        · simp at hafter
        · rename_i queued hqueued
          obtain rfl := Except.ok.inj hafter
          unfold Database.enqueueInvoke at hqueued
          split_ifs at hqueued
          obtain rfl := Option.some.inj hqueued
          rfl

theorem enqueueAll_invokes
    {items : List InvokeItem} {db after : Database}
    (h : enqueueAll items db = some after) :
    after.invokes = db.invokes ++ items := by
  induction items generalizing db with
  | nil =>
      obtain rfl := Option.some.inj h
      rw [List.append_nil]
  | cons item rest ih =>
      rw [enqueueAll, List.foldlM_cons] at h
      obtain ⟨next, hnext, hrest⟩ := Option.bind_eq_some_iff.mp h
      unfold Database.enqueueInvoke at hnext
      split_ifs at hnext
      obtain rfl := Option.some.inj hnext
      rw [ih hrest, List.append_assoc, List.singleton_append]

variable (world) in
/-- At most one invocation is prepared for each selected agent. -/
theorem prepareReviewers_length_le
    {selection : AgentSelectionPlan} {totalTasks : Nat}
    {selected : List (SelectedAgent × Nat)} {items : List InvokeItem}
    (h : prepareReviewers plan world stage selection totalTasks selected =
      .ok items) : items.length ≤ selected.length := by
  induction selected generalizing items with
  | nil =>
      obtain rfl := Except.ok.inj h
      exact le_rfl
  | cons entry rest ih =>
      obtain ⟨agent, index⟩ := entry
      simp only [prepareReviewers] at h
      rw [List.length_cons]
      split at h
      · exact (ih h).trans (Nat.le_succ _)
      · split_ifs at h
        · exact (ih h).trans (Nat.le_succ _)
        · split at h
          · simp at h
          · split at h
            · simp at h
            · split at h
              · simp at h
              · rename_i later hlater
                obtain rfl := Except.ok.inj h
                exact Nat.succ_le_succ (ih hlater)

/-- Queueing the selected reviewers. -/
theorem dispatches_materializeDynamicParallel
    (hstate : plan.state? stage.stageId = some state)
    (selection : AgentSelectionPlan) (db : Database) :
    Dispatches state.tasks stage 0 db
      (materializeDynamicParallel plan world stage selection db).database := by
  unfold materializeDynamicParallel
  dsimp only
  split
  · exact of_invokes_eq rfl
  · exact of_invokes_eq rfl
  · rename_i prepared hprepared
    split
    · exact of_invokes_eq rfl
    · rename_i after hafter
      refine ⟨_, .reviewers _ rfl ?_, enqueueAll_invokes hafter⟩
      intro item hitem
      obtain ⟨hbelongs, hreviewer, htotal⟩ := prepareReviewers_spec plan world
        stage hprepared item (List.mem_of_mem_filter hitem)
      refine ⟨hreviewer, hbelongs, ?_⟩
      have hlength := prepareReviewers_length_le plan world stage hprepared
      have hfilter := List.length_filter_le
        (fun item => world.recordInserted item.taskIndex) prepared
      rw [List.length_zipIdx] at hlength
      rw [htotal, hstate, Option.map_some, Option.getD_some, laterTasks]
      omega

/-- The routing of a stage queues nothing. -/
theorem executeSystemRoutingIfApplicable_invokes
    {db after : Database} {settled : Bool}
    (h : executeSystemRoutingIfApplicable plan world stage db =
      .ok (settled, after)) : after.invokes = db.invokes := by
  unfold executeSystemRoutingIfApplicable at h
  dsimp only at h
  split at h
  · split_ifs at h
    split at h
    · simp at h
    · obtain ⟨-, rfl⟩ := Prod.mk.inj (Except.ok.inj h)
      rfl
  · split_ifs at h
    · obtain ⟨-, rfl⟩ := Prod.mk.inj (Except.ok.inj h)
      rfl
    · obtain ⟨-, rfl⟩ := Prod.mk.inj (Except.ok.inj h)
      rfl

/-- The invocation keys of an execution are all unused. -/
def Unused (execution : StageExecutionId) (db : Database) : Prop :=
  ∀ item ∈ db.invokes, item.id.execution ≠ execution

theorem dispatches_dispatchFirstPhase
    (hwhole : ¬StopsMidway world (tasksOfPhase tasks 0)) {db : Database}
    (hunused : Unused stage.id db) :
    Dispatches tasks stage 0 db
      (dispatchFirstPhase world stage state tasks db).database := by
  unfold dispatchFirstPhase
  by_cases hempty : tasks.isEmpty = true
  · rw [if_pos hempty]
    exact dispatches_dispatchOwner stage tasks (by simpa using hempty) 0 db
  · rw [if_neg hempty]
    refine dispatches_dispatchTasks stage tasks hwhole ?_
    intro entry _ item hitem hid
    exact hunused item hitem (by rw [hid]; rfl)

theorem dispatches_dispatchStage
    (hwhole : ¬StopsMidway world (tasksOfPhase tasks 0))
    (hstate : plan.state? stage.stageId = some state)
    (htasks : state.dynamicParallel.isSome = true → tasks = state.tasks)
    {db : Database} (hunused : Unused stage.id db) :
    Dispatches tasks stage 0 db
      (dispatchStage plan world stage state tasks db).database := by
  unfold dispatchStage
  split
  · exact of_invokes_eq rfl
  · rename_i hrouting
    exact of_invokes_eq
      (executeSystemRoutingIfApplicable_invokes plan stage hrouting)
  · rename_i routed hrouting
    have hrouted :=
      executeSystemRoutingIfApplicable_invokes plan stage hrouting
    refine of_before_eq ?_ hrouted
    split
    · rename_i hdynamic _
      rw [htasks (by rw [hdynamic]; rfl)]
      exact dispatches_materializeDynamicParallel plan stage hstate _ routed
    · exact of_invokes_eq rfl
    · refine dispatches_dispatchFirstPhase stage tasks hwhole ?_
      unfold Unused
      rw [hrouted]
      exact hunused

theorem dispatches_withIdea
    {phase : Nat} {db : Database} {next : Outcome}
    (hnext : Dispatches tasks stage phase db next.database) :
    Dispatches tasks stage phase db
      (withIdea plan world stage db next).database := by
  unfold withIdea
  split_ifs
  · exact hnext
  · exact of_invokes_eq rfl
  · exact of_invokes_eq rfl

theorem dispatches_kickstart
    (hwhole : ¬StopsMidway world (tasksOfPhase tasks 0))
    (hstate : plan.state? stage.stageId = some state)
    (htasks : state.dynamicParallel.isSome = true → tasks = state.tasks)
    {db : Database} (hunused : Unused stage.id db) :
    Dispatches tasks stage 0 db
      (kickstart plan world stage state tasks db).database := by
  apply dispatches_withIdea
  split_ifs
  · exact dispatches_dispatchStage plan stage tasks hwhole hstate htasks
      hunused
  · exact dispatches_dispatchFirstPhase stage tasks hwhole hunused

theorem dispatches_startWork
    (hwhole : ¬StopsMidway world (tasksOfPhase state.tasks 0))
    (hstate : plan.state? stage.stageId = some state) {db : Database}
    (hunused : Unused stage.id db) :
    Dispatches state.tasks stage 0 db
      (startWork plan world state stage db).database := by
  have hwork : ∀ ready : Database, ready.invokes = db.invokes →
      Dispatches state.tasks stage 0 db
        (dispatchWork plan world state stage ready).database := by
    intro ready hready
    refine of_before_eq ?_ hready
    apply dispatches_withIdea
    split_ifs
    · exact of_invokes_eq rfl
    · refine dispatches_dispatchStage plan stage state.tasks hwhole hstate
        (fun _ => rfl) ?_
      unfold Unused
      rw [hready]
      exact hunused
  unfold startWork
  split_ifs
  · apply dispatches_withIdea
    split
    · exact of_invokes_eq rfl
    · exact hwork _ rfl
  · exact hwork db rfl

end Dispatch

end ChainworksForge.Engine
