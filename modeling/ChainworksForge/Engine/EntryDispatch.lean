import ChainworksForge.Engine.Phases
import ChainworksForge.Workflow.RunBlocks

/-!
# Dispatch of a compiled block

The orchestrator queues the tasks of phase zero when it enters a state.  A
block whose first compiled phase is another one leaves the execution without
work.
-/

namespace ChainworksForge.Engine

open ChainworksForge.Support ChainworksForge.Workflow

/-- Nothing keeps tasks from being queued: their artifacts are present, their
prompts can be built, their dispatch is permitted and nothing is queued yet. -/
structure ReadyToQueue
    (world : World) (stage : StageExecution) (tasks : List CompiledTask)
    (db : Database) : Prop where
  artifacts : ∀ task ∈ tasks, world.handoffMissing task = []
  prompts : ∀ task ∈ tasks, world.buildPrompt task = .ok ()
  checks : ∀ i, world.beforeDispatch i = .ok ()
  unused : Unused stage.id db

/-- The dispatch on entry queues the invocation of a task. -/
def QueuesOnEntry (tasks : List CompiledTask) : Prop :=
  ∀ world stage state db, ReadyToQueue world stage tasks db →
    ∃ i task, tasks[i]? = some task ∧
      taskItem stage task.agent.agentId i tasks.length ∈
        (dispatchFirstPhase world stage state tasks db).database.invokes

section Dispatch

variable {world : World} {stage : StageExecution} {tasks : List CompiledTask}

/-- Tasks that nothing holds back are queued one after the other. -/
theorem dispatchTasks_of_ready
    (hartifacts : ∀ task ∈ tasks, world.handoffMissing task = [])
    (hprompts : ∀ task ∈ tasks, world.buildPrompt task = .ok ())
    (hchecks : ∀ i, world.beforeDispatch i = .ok ())
    (totalTasks : Nat) {entries : List (CompiledTask × Nat)}
    (hentries : ∀ entry ∈ entries, entry.1 ∈ tasks)
    (hnodup : (entries.map (·.2)).Nodup) {db : Database}
    (hfresh : ∀ entry ∈ entries, ∀ item ∈ db.invokes,
      item.id ≠ .task stage.id entry.2) :
    (dispatchTasks world stage totalTasks entries db).database.invokes =
      db.invokes ++ taskItems stage totalTasks entries := by
  induction entries generalizing db with
  | nil => simp [dispatchTasks, taskItems]
  | cons entry rest ih =>
      obtain ⟨task, taskIndex⟩ := entry
      have htask : task ∈ tasks := hentries (task, taskIndex) List.mem_cons_self
      let item := taskItem stage task.agent.agentId taskIndex totalTasks
      have hitem : ∀ other ∈ db.invokes, other.id ≠ item.id :=
        hfresh (task, taskIndex) List.mem_cons_self
      have hqueued : enqueueInvokeAgent world db item =
          .ok { db with invokes := db.invokes ++ [item] } := by
        unfold enqueueInvokeAgent
        rw [hchecks, enqueueInvoke_eq_some_of_fresh hitem]
      rw [List.map_cons, List.nodup_cons] at hnodup
      let queuedDb : Database := { db with invokes := db.invokes ++ [item] }
      have hrest : ∀ other ∈ rest, ∀ queued ∈ queuedDb.invokes,
          queued.id ≠ .task stage.id other.2 := by
        intro other hother queued hmem
        obtain hmem | hmem := List.mem_append.mp hmem
        · exact hfresh other (List.mem_cons_of_mem _ hother) queued hmem
        · rw [List.mem_singleton.mp hmem]
          intro hid
          obtain ⟨-, hindex⟩ := InvokeItemId.task.inj hid
          exact hnodup.1 (List.mem_map.mpr ⟨other, hother, hindex.symm⟩)
      have hrun : dispatchTasks world stage totalTasks
          ((task, taskIndex) :: rest) db =
            dispatchTasks world stage totalTasks rest queuedDb := by
        simp only [dispatchTasks, hartifacts task htask, hprompts task htask]
        rw [if_neg (by simp), hqueued]
      rw [hrun, ih (fun other hother =>
        hentries other (List.mem_cons_of_mem _ hother)) hnodup.2 hrest]
      simp [queuedDb, taskItems, item]

/-- A task of phase zero is queued on entry. -/
theorem queuesOnEntry_of_zero
    (hzero : ∃ task ∈ tasks, task.phase = 0) : QueuesOnEntry tasks := by
  intro world stage state db hready
  obtain ⟨task, htask, hphase⟩ := hzero
  obtain ⟨i, hi⟩ := List.mem_iff_getElem?.mp htask
  have hentry : (task, i) ∈ tasksOfPhase tasks 0 :=
    List.mem_filter.mpr
      ⟨List.mem_zipIdx_iff_getElem?.mpr hi, decide_eq_true hphase⟩
  have hmem : ∀ entry ∈ tasksOfPhase tasks 0, entry.1 ∈ tasks :=
    fun entry hentry => List.mem_of_getElem?
      (List.mem_zipIdx_iff_getElem?.mp (List.mem_of_mem_filter hentry))
  have hinvokes := dispatchTasks_of_ready hready.artifacts hready.prompts
    hready.checks tasks.length hmem (tasksOfPhase_nodup tasks 0)
    (fun entry _ item hitem hid => hready.unused item hitem (by rw [hid]; rfl))
  refine ⟨i, task, hi, ?_⟩
  rw [dispatchFirstPhase, if_neg (by
    rw [List.isEmpty_iff]
    exact List.ne_nil_of_mem htask), hinvokes]
  exact List.mem_append_right _ (List.mem_map_of_mem hentry)

end Dispatch

/-- A section comes before the tasks that run after the others. -/
def StartsBeforeThen (block : RunBlock) : Prop :=
  block.sequence.getD [] ≠ [] ∨ block.parallel.getD [] ≠ [] ∨
    block.thenTasks.getD [] = []

theorem startsBeforeThen_iff (block : RunBlock) :
    StartsBeforeThen block ↔
      0 < block.firstPhases ∨ (block.thenTasks.getD []).length = 0 := by
  rw [StartsBeforeThen, ← List.length_pos_iff, ← List.length_pos_iff,
    ← List.length_eq_zero_iff, RunBlock.firstPhases]
  omega

/--
The phases of a compiled block are contiguous from zero, every task that is not
parallel comes after everything before it, and the dispatch on entry queues a
task of a block that has tasks, exactly when a section comes before the tasks
that run after the others and the phases of the block fit into 32 bits.
-/
theorem compileRunBlock_dispatches_iff
    (agents : List (String × AgentBinding)) (contracts : ContractLookup)
    (block : RunBlock) (tasks : List CompiledTask)
    (hcompiled : compileRunBlock agents contracts block = .ok tasks) :
    (Contiguous tasks ∧ StrictlyOrdered tasks ∧
        (tasks ≠ [] → QueuesOnEntry tasks)) ↔
      StartsBeforeThen block ∧ block.phaseCount ≤ phaseLimit := by
  obtain ⟨sections⟩ := nonempty_sections hcompiled
  rw [startsBeforeThen_iff]
  constructor
  · rintro ⟨hcontiguous, hordered, -⟩
    exact ⟨sections.starts_of_ordered hcontiguous hordered,
      sections.phaseCount_le hordered⟩
  · rintro ⟨hstart, hfit⟩
    have hcontiguous := sections.contiguous_of_fit hstart hfit
    refine ⟨hcontiguous, sections.strictlyOrdered_of_fit hstart hfit, ?_⟩
    intro hnonempty
    obtain ⟨task, htask⟩ := List.exists_mem_of_ne_nil tasks hnonempty
    exact queuesOnEntry_of_zero (hcontiguous task htask 0 (Nat.zero_le _))

/-! ## A check after nothing -/

/-- The agents of the blocks below. -/
def writerBindings : List (String × AgentBinding) :=
  [("writer", { backendProfileId := "acp", provider := "acp" })]

/-- A draft and a check after it. -/
def draftThenCheck : RunBlock where
  parallel := some [{ agent := "writer", task := "draft" }]
  thenTasks := some [{ agent := "writer", task := "check" }]

/-- A check after nothing. -/
def loneCheck : RunBlock where
  thenTasks := some [{ agent := "writer", task := "check" }]

/-- A compiled task of the writer. -/
def writerTask (taskName : String) (parallel : Bool) (phase : Nat) :
    CompiledTask where
  agent := { agentId := "writer", backendProfileId := some "acp"
             provider := "acp" }
  taskName := taskName
  parallel := parallel
  phase := phase

theorem draftThenCheck_dispatches :
    QueuesOnEntry [writerTask "draft" true 0, writerTask "check" false 1] :=
  ((compileRunBlock_dispatches_iff writerBindings {} draftThenCheck _
    rfl).mpr ⟨.inr (.inl (by decide)), by decide⟩).2.2 (by decide)

/-- The check of the block alone is in phase one, and the dispatch on entry
queues nothing. -/
theorem loneCheck_is_not_dispatched :
    compileRunBlock writerBindings {} loneCheck =
        .ok [writerTask "check" false 1] ∧
      ReadyToQueue (quietWorld 0)
        { id := 0, stageId := "review", status := .running, iteration := 1,
          attemptNumber := 1, startedAt := 0 }
        [writerTask "check" false 1] openedReview ∧
      (dispatchFirstPhase (quietWorld 0)
        { id := 0, stageId := "review", status := .running, iteration := 1,
          attemptNumber := 1, startedAt := 0 } checkedState
        [writerTask "check" false 1] openedReview).database.invokes = [] :=
  ⟨rfl, ⟨fun _ _ => rfl, fun _ _ => rfl, fun _ => rfl,
    fun _ hitem => absurd hitem List.not_mem_nil⟩, by decide⟩

end ChainworksForge.Engine
