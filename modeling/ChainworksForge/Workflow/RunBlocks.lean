import ChainworksForge.Support.Checked
import ChainworksForge.Workflow.Contracts

/-!
# Compilation of run blocks

The tasks of a run block in phases.  The items of a sequence take the phases
from zero on, parallel tasks take phase zero, and the tasks after them take the
phases behind the highest one.  Phases are unsigned 32-bit numbers.
-/

namespace ChainworksForge.Workflow

open ChainworksForge.Support

/-- The frozen binding of an agent. -/
structure AgentBinding where
  backendProfileId : String
  provider : String
  model : Option String := none
  effort : Option String := none
  maxTurns : Option Nat := none
  temperature : Option F64 := none
  prompt : Option String := none
  permissionProfile : Option String := none
  skillRef : Option String := none
  skillRole : Option String := none
  skillSnapshotHash : Option String := none
  requestedMcpServerIds : List String := []
  outputContract : Option String := none
  resolvedSkill : Option ResolvedSkill := none
  worktreeWriteEnabled : Bool := false
  worktreeStrategy : Option String := none
  sessionReuseScope : Option String := none
  sessionFamilyId : Option String := none
  xcodeBrokerRequired : Bool := false
  xcodeShimInjectionSignal : Bool := false
  requiresXcodeHostExecution : Bool := false
  xcodePromptLintWarnings : List String := []
  toolchainCachePolicy : Option ToolchainCachePolicySnapshot := none

/-- The agent behind a reference; an unknown one fails the compilation. -/
def resolveAgent
    (agentId : String) (agents : List (String × AgentBinding)) :
    Result ResolvedAgent :=
  match agents.lookup agentId with
  | some binding =>
      .ok { agentId := agentId
            backendProfileId := some binding.backendProfileId
            provider := binding.provider
            model := binding.model
            effort := binding.effort
            maxTurns := binding.maxTurns
            temperature := binding.temperature
            prompt := binding.prompt
            permissionProfile := binding.permissionProfile
            skillRef := binding.skillRef
            skillRole := binding.skillRole
            skillSnapshotHash := binding.skillSnapshotHash
            requestedMcpServerIds := binding.requestedMcpServerIds
            resolvedSkill := binding.resolvedSkill
            outputContract := binding.outputContract
            worktreeWriteEnabled := binding.worktreeWriteEnabled
            worktreeStrategy := binding.worktreeStrategy
            sessionReuseScope := binding.sessionReuseScope
            sessionFamilyId := binding.sessionFamilyId
            xcodeBrokerRequired := binding.xcodeBrokerRequired
            xcodeShimInjectionSignal := binding.xcodeShimInjectionSignal
            requiresXcodeHostExecution := binding.requiresXcodeHostExecution
            xcodePromptLintWarnings := binding.xcodePromptLintWarnings
            toolchainCachePolicy := binding.toolchainCachePolicy }
  | none =>
      .error ("agent '" ++ agentId ++ "' not found in catalog; workflow " ++
        "compile failed. Add the agent to the catalog or correct the " ++
        "reference.")

/-- The compiled reuse policy; an output must be produced by default. -/
def compileReusePolicy (policy : OutputPolicyDef) : OutputPolicy where
  reusePolicy :=
    match policy.reusePolicy.getD .mustProduce with
    | .mustProduce => .mustProduce
    | .allowUnchangedExisting => .allowUnchangedExisting

/-- The output policies of a task; each must belong to a declared output. -/
def compileOutputPolicies
    (outputs : List String)
    (policies : Option (List (String × OutputPolicyDef))) :
    Result (List (String × OutputPolicy)) :=
  let policies := policies.getD []
  match policies.find? fun entry => entry.1 ∉ outputs with
  | some entry =>
      .error ("output_policies key '" ++ entry.1 ++
        "' does not match any declared task output")
  | none =>
      .ok (policies.map fun entry => (entry.1, compileReusePolicy entry.2))

/-- Compile a task into phase zero. -/
def compileAgentTask
    (task : AgentTask) (agents : List (String × AgentBinding))
    (contracts : ContractLookup) (parallel : Bool) : Result CompiledTask := do
  let agent ← resolveAgent task.agent agents
  let outputs := task.outputs.getD []
  let outputPolicies ← compileOutputPolicies outputs task.outputPolicies
  let outputSchemas := outputs.filterMap fun outputName =>
    (contracts.resolve outputName agent.outputContract outputs.length).map
      fun schema => (outputName, schema)
  pure { agent := agent
         taskName := task.task
         inputs := task.inputs.getD []
         outputs := outputs
         outputPolicies := outputPolicies
         outputSchemas := outputSchemas
         parallel := parallel
         phase := 0
         selectedOutputsFrom := task.selectedOutputsFrom.map fun selected =>
           { sourcePlan := selected.sourcePlan
             outputContract := selected.outputContract } }

/-- The number of phases. -/
def phaseLimit : Nat := 2 ^ 32

section Block

variable (agents : List (String × AgentBinding)) (contracts : ContractLookup)

/-- Compile a task into a phase. -/
def compileTaskIn
    (task : AgentTask) (parallel : Bool) (phase : Nat) : Result CompiledTask :=
  (compileAgentTask task agents contracts parallel).map fun compiled =>
    { compiled with phase := phase % phaseLimit }

/-- The items of a sequence, each in a phase of its own. -/
def compileSequence (items : List AgentTask) : Result (List CompiledTask) :=
  items.zipIdx.mapM fun entry =>
    compileTaskIn agents contracts entry.1 false entry.2

/-- Parallel tasks, all in phase zero. -/
def compileParallel (items : List AgentTask) : Result (List CompiledTask) :=
  items.mapM fun task => compileTaskIn agents contracts task true 0

/-- Tasks after the others, each in a phase of its own from `nextPhase` on. -/
def compileThen (nextPhase : Nat) (items : List AgentTask) :
    Result (List CompiledTask) :=
  (items.zipIdx nextPhase).mapM fun entry =>
    compileTaskIn agents contracts entry.1 false entry.2

/-- The highest phase of some tasks; zero without tasks. -/
def highestPhase (tasks : List CompiledTask) : Nat :=
  (tasks.map (·.phase)).max?.getD 0

/-- The compiled tasks of a run block. -/
def compileRunBlock (block : RunBlock) : Result (List CompiledTask) := do
  let sequential ← compileSequence agents contracts (block.sequence.getD [])
  let parallel ← compileParallel agents contracts (block.parallel.getD [])
  let tasks := sequential ++ parallel
  let later ← compileThen agents contracts (highestPhase tasks + 1)
    (block.thenTasks.getD [])
  pure (tasks ++ later)

end Block

/-! ## The phases of the sections -/

section Phases

variable {agents : List (String × AgentBinding)} {contracts : ContractLookup}

/-- A compiled task is in the given phase and keeps the mark of its section. -/
theorem compileTaskIn_spec
    {task : AgentTask} {parallel : Bool} {phase : Nat} {compiled : CompiledTask}
    (h : compileTaskIn agents contracts task parallel phase = .ok compiled) :
    compiled.phase = phase % phaseLimit ∧ compiled.parallel = parallel := by
  obtain ⟨plain, hplain, rfl⟩ := map_eq_ok_iff.mp h
  refine ⟨rfl, ?_⟩
  obtain ⟨agent, -, hpolicies⟩ := (bind_eq_ok_iff _ _ _).mp hplain
  obtain ⟨policies, -, hpure⟩ := (bind_eq_ok_iff _ _ _).mp hpolicies
  obtain rfl := (pure_eq_ok_iff _ _).mp hpure
  rfl

/-- What a section compiles to: the marks and the phases of its tasks. -/
def Phased (parallel : Bool) (phases : List Nat) (tasks : List CompiledTask) :
    Prop :=
  tasks.map (·.phase) = phases ∧ ∀ task ∈ tasks, task.parallel = parallel

theorem phased_nil (parallel : Bool) : Phased parallel [] [] :=
  ⟨rfl, by simp⟩

theorem Phased.cons
    {parallel : Bool} {phases : List Nat} {tasks : List CompiledTask}
    {task : CompiledTask} {phase : Nat} (h : Phased parallel phases tasks)
    (hphase : task.phase = phase) (hparallel : task.parallel = parallel) :
    Phased parallel (phase :: phases) (task :: tasks) := by
  refine ⟨by rw [List.map_cons, h.1, hphase], ?_⟩
  simpa [hparallel] using h.2

theorem phased_of_mapM
    {α : Type} {items : List α} {compile : α → Result CompiledTask}
    {phase : α → Nat} {parallel : Bool}
    (hcompile : ∀ item compiled, compile item = .ok compiled →
      compiled.phase = phase item ∧ compiled.parallel = parallel)
    {tasks : List CompiledTask} (h : items.mapM compile = .ok tasks) :
    Phased parallel (items.map phase) tasks := by
  induction items generalizing tasks with
  | nil =>
      obtain rfl := (pure_eq_ok_iff _ _).mp h
      exact phased_nil parallel
  | cons item rest ih =>
      rw [List.mapM_cons] at h
      obtain ⟨task, htask, hrest⟩ := (bind_eq_ok_iff _ _ _).mp h
      obtain ⟨later, hlater, hpure⟩ := (bind_eq_ok_iff _ _ _).mp hrest
      obtain rfl := (pure_eq_ok_iff _ _).mp hpure
      obtain ⟨hphase, hparallel⟩ := hcompile item task htask
      exact (ih hlater).cons hphase hparallel

theorem phased_of_compileThen
    {nextPhase : Nat} {items : List AgentTask} {tasks : List CompiledTask}
    (h : compileThen agents contracts nextPhase items = .ok tasks) :
    Phased false
      ((List.range' nextPhase items.length).map (· % phaseLimit)) tasks := by
  have hphased := phased_of_mapM
    (fun entry compiled hentry => compileTaskIn_spec hentry) h
  rwa [← List.zipIdx_map_snd nextPhase items, List.map_map]

theorem phased_of_compileSequence
    {items : List AgentTask} {tasks : List CompiledTask}
    (h : compileSequence agents contracts items = .ok tasks) :
    Phased false ((List.range' 0 items.length).map (· % phaseLimit)) tasks :=
  phased_of_compileThen h

theorem phased_of_compileParallel
    {items : List AgentTask} {tasks : List CompiledTask}
    (h : compileParallel agents contracts items = .ok tasks) :
    Phased true (List.replicate items.length 0) tasks := by
  have hphased := phased_of_mapM
    (fun task compiled htask => compileTaskIn_spec htask) h
  rwa [List.map_const'] at hphased

end Phases

/-- The number of phases before the tasks that run after the others. -/
def RunBlock.firstPhases (block : RunBlock) : Nat :=
  max (block.sequence.getD []).length (min 1 (block.parallel.getD []).length)

/-- The number of phases that a block needs. -/
def RunBlock.phaseCount (block : RunBlock) : Nat :=
  block.firstPhases + (block.thenTasks.getD []).length

/-- Phases without a gap: every phase below one of a task has a task. -/
def Contiguous (tasks : List CompiledTask) : Prop :=
  ∀ task ∈ tasks, ∀ phase ≤ task.phase, ∃ other ∈ tasks, other.phase = phase

/-- Tasks that are not parallel run after everything before them. -/
def StrictlyOrdered (tasks : List CompiledTask) : Prop :=
  tasks.Pairwise fun before task =>
    task.parallel = false → before.phase < task.phase

theorem length_le_of_pairwise_lt
    {phases : List Nat} {limit : Nat} (hlt : phases.Pairwise (· < ·))
    (hbound : ∀ phase ∈ phases, phase < limit) : phases.length ≤ limit := by
  have hsubset : phases ⊆ List.range limit := fun phase hphase =>
    List.mem_range.mpr (hbound phase hphase)
  have hnodup : phases.Nodup := hlt.imp fun h => Nat.ne_of_lt h
  simpa using (List.subperm_of_subset hnodup hsubset).length_le

section Compiled

variable {sequential parallel later : List CompiledTask}

/-- The phases of a task that is not parallel increase along a chain. -/
theorem StrictlyOrdered.pairwise_lt
    {tasks chain : List CompiledTask} (h : StrictlyOrdered tasks)
    (hchain : chain.Sublist tasks)
    (htail : ∀ task ∈ chain.tail, task.parallel = false) :
    (chain.map (·.phase)).Pairwise (· < ·) := by
  rw [List.pairwise_map]
  cases chain with
  | nil => exact List.Pairwise.nil
  | cons first rest =>
      obtain ⟨hfirst, hrest⟩ := List.pairwise_cons.mp (h.sublist hchain)
      refine List.pairwise_cons.mpr
        ⟨fun task htask => hfirst task htask (htail task htask), ?_⟩
      exact hrest.imp_of_mem fun _ htask hlt => hlt (htail _ htask)

theorem mem_map_range'_mod {x start count : Nat}
    (hfit : start + count ≤ phaseLimit) :
    x ∈ (List.range' start count).map (· % phaseLimit) ↔
      start ≤ x ∧ x < start + count := by
  rw [List.mem_map]
  constructor
  · rintro ⟨y, hy, rfl⟩
    have hmem := List.mem_range'_1.mp hy
    rwa [Nat.mod_eq_of_lt (by omega)]
  · intro hx
    exact ⟨x, List.mem_range'_1.mpr hx, Nat.mod_eq_of_lt (by omega)⟩

/-- The phase after the first sections of a block. -/
theorem highestPhase_succ
    {n m : Nat} (hfit : n ≤ phaseLimit) (hpos : 0 < max n (min 1 m))
    (hsequential : sequential.map (·.phase) =
      (List.range' 0 n).map (· % phaseLimit))
    (hparallel : parallel.map (·.phase) = List.replicate m 0) :
    highestPhase (sequential ++ parallel) + 1 = max n (min 1 m) := by
  have hmax : ((sequential ++ parallel).map (·.phase)).max? =
      some (max n (min 1 m) - 1) := by
    rw [List.map_append, hsequential, hparallel, List.max?_eq_some_iff]
    constructor
    · rw [List.mem_append, mem_map_range'_mod (by omega), List.mem_replicate]
      omega
    · intro phase hphase
      rw [List.mem_append, mem_map_range'_mod (by omega),
        List.mem_replicate] at hphase
      omega
  rw [highestPhase, hmax, Option.getD_some]
  omega

end Compiled

/-- The sections of a compiled block. -/
structure Sections (block : RunBlock) (tasks : List CompiledTask) where
  sequential : List CompiledTask
  parallel : List CompiledTask
  later : List CompiledTask
  tasks_eq : tasks = sequential ++ parallel ++ later
  sequential_phased : Phased false
    ((List.range' 0 (block.sequence.getD []).length).map (· % phaseLimit))
    sequential
  parallel_phased : Phased true
    (List.replicate (block.parallel.getD []).length 0) parallel
  later_phased : Phased false
    ((List.range' (highestPhase (sequential ++ parallel) + 1)
      (block.thenTasks.getD []).length).map (· % phaseLimit)) later

theorem nonempty_sections
    {agents : List (String × AgentBinding)} {contracts : ContractLookup}
    {block : RunBlock} {tasks : List CompiledTask}
    (h : compileRunBlock agents contracts block = .ok tasks) :
    Nonempty (Sections block tasks) := by
  obtain ⟨sequential, hsequential, hrest⟩ := (bind_eq_ok_iff _ _ _).mp h
  obtain ⟨parallel, hparallel, hrest⟩ := (bind_eq_ok_iff _ _ _).mp hrest
  obtain ⟨later, hlater, hpure⟩ := (bind_eq_ok_iff _ _ _).mp hrest
  obtain rfl := (pure_eq_ok_iff _ _).mp hpure
  exact ⟨⟨sequential, parallel, later, rfl,
    phased_of_compileSequence hsequential, phased_of_compileParallel hparallel,
    phased_of_compileThen hlater⟩⟩

namespace Sections

variable {block : RunBlock} {tasks : List CompiledTask}
  (sections : Sections block tasks)

include sections

theorem length_sequential :
    sections.sequential.length = (block.sequence.getD []).length := by
  simpa using congrArg List.length sections.sequential_phased.1

theorem length_parallel :
    sections.parallel.length = (block.parallel.getD []).length := by
  simpa using congrArg List.length sections.parallel_phased.1

theorem length_later :
    sections.later.length = (block.thenTasks.getD []).length := by
  simpa using congrArg List.length sections.later_phased.1

theorem phase_lt {task : CompiledTask} (htask : task ∈ tasks) :
    task.phase < phaseLimit := by
  have hwrapped : ∀ {part : List CompiledTask} {phases : List Nat},
      part.map (·.phase) = phases.map (· % phaseLimit) → task ∈ part →
        task.phase < phaseLimit := by
    intro part phases hphases hmem
    have hphase := List.mem_map_of_mem (f := CompiledTask.phase) hmem
    rw [hphases, List.mem_map] at hphase
    obtain ⟨phase, -, heq⟩ := hphase
    rw [← heq]
    exact Nat.mod_lt _ (by decide)
  rw [sections.tasks_eq, List.append_assoc, List.mem_append,
    List.mem_append] at htask
  obtain hmem | hmem | hmem := htask
  · exact hwrapped sections.sequential_phased.1 hmem
  · have hphase := List.mem_map_of_mem (f := CompiledTask.phase) hmem
    rw [sections.parallel_phased.1, List.mem_replicate] at hphase
    rw [hphase.2]
    decide
  · exact hwrapped sections.later_phased.1 hmem

/-- The tasks of an ordered block fit into the phases. -/
theorem phaseCount_le (hordered : StrictlyOrdered tasks) :
    block.phaseCount ≤ phaseLimit := by
  have hbound : ∀ task ∈ tasks, task.phase < phaseLimit :=
    fun _ htask => sections.phase_lt htask
  rw [sections.tasks_eq] at hordered hbound
  have hchain : ∀ chain : List CompiledTask,
      chain.Sublist (sections.sequential ++ sections.parallel ++
        sections.later) →
      (∀ task ∈ chain.tail, task.parallel = false) →
        chain.length ≤ phaseLimit := by
    intro chain hsublist htail
    have hlt := hordered.pairwise_lt hsublist htail
    simpa using length_le_of_pairwise_lt hlt (by
      intro phase hphase
      obtain ⟨task, htask, rfl⟩ := List.mem_map.mp hphase
      exact hbound task (hsublist.subset htask))
  have hsequential := sections.length_sequential
  have hparallel := sections.length_parallel
  have hlater := sections.length_later
  have hmarks : ∀ task ∈ sections.sequential ++ sections.later,
      task.parallel = false := by
    intro task htask
    obtain hmem | hmem := List.mem_append.mp htask
    · exact sections.sequential_phased.2 task hmem
    · exact sections.later_phased.2 task hmem
  by_cases hmain : sections.sequential = [] ∧ sections.parallel ≠ []
  · -- a parallel task stands for the first phase
    obtain ⟨hempty, hsome⟩ := hmain
    obtain ⟨first, rest, hfirst⟩ := List.exists_cons_of_ne_nil hsome
    have hle := hchain (first :: sections.later) (by
      rw [hempty, hfirst]
      exact List.Sublist.cons_cons _ (List.sublist_append_right _ _))
      fun task htask => sections.later_phased.2 task htask
    rw [hempty] at hsequential
    rw [hfirst] at hparallel
    simp only [List.length_cons, List.length_nil] at hsequential hparallel hle
    rw [RunBlock.phaseCount, RunBlock.firstPhases]
    omega
  · have hle := hchain (sections.sequential ++ sections.later) (by
      rw [List.append_assoc]
      exact List.Sublist.append_left (List.sublist_append_right _ _) _)
      fun task htask => hmarks task (List.mem_of_mem_tail htask)
    rw [List.length_append] at hle
    rw [RunBlock.phaseCount, RunBlock.firstPhases]
    by_cases hempty : sections.sequential = []
    · have hnone : sections.parallel = [] := by
        by_contra hsome
        exact hmain ⟨hempty, hsome⟩
      rw [hnone] at hparallel
      simp only [List.length_nil] at hparallel
      omega
    · have hpos := List.length_pos_iff.mpr hempty
      omega

/-- A first section puts the later tasks right behind its phases. -/
theorem later_phases
    (hfirst : 0 < block.firstPhases) (hfit : block.phaseCount ≤ phaseLimit) :
    sections.later.map (·.phase) =
      (List.range' block.firstPhases
        (block.thenTasks.getD []).length).map (· % phaseLimit) := by
  unfold RunBlock.phaseCount at hfit
  unfold RunBlock.firstPhases at hfirst hfit ⊢
  rw [sections.later_phased.1, highestPhase_succ (by omega) hfirst
    sections.sequential_phased.1 sections.parallel_phased.1]

/-- The phases of a block that fits are those below its count. -/
theorem exists_phase_iff
    (hstart : 0 < block.firstPhases ∨ (block.thenTasks.getD []).length = 0)
    (hfit : block.phaseCount ≤ phaseLimit) (phase : Nat) :
    (∃ task ∈ tasks, task.phase = phase) ↔ phase < block.phaseCount := by
  have hsequential : (∃ task ∈ sections.sequential, task.phase = phase) ↔
      phase < (block.sequence.getD []).length := by
    rw [← List.mem_map (f := CompiledTask.phase), sections.sequential_phased.1,
      mem_map_range'_mod (by
        unfold RunBlock.phaseCount RunBlock.firstPhases at hfit
        omega)]
    omega
  have hparallel : (∃ task ∈ sections.parallel, task.phase = phase) ↔
      (block.parallel.getD []).length ≠ 0 ∧ phase = 0 := by
    rw [← List.mem_map (f := CompiledTask.phase), sections.parallel_phased.1,
      List.mem_replicate]
  have hlater : (∃ task ∈ sections.later, task.phase = phase) ↔
      block.firstPhases ≤ phase ∧ phase < block.phaseCount := by
    obtain hfirst | hnone := hstart
    · rw [← List.mem_map (f := CompiledTask.phase), sections.later_phases hfirst hfit,
        mem_map_range'_mod hfit]
      rfl
    · have hempty : sections.later = [] :=
        List.length_eq_zero_iff.mp (sections.length_later.trans hnone)
      rw [hempty, RunBlock.phaseCount, hnone]
      simp only [List.not_mem_nil, false_and, exists_false, false_iff]
      omega
  have hsplit : (∃ task ∈ tasks, task.phase = phase) ↔
      (∃ task ∈ sections.sequential, task.phase = phase) ∨
        (∃ task ∈ sections.parallel, task.phase = phase) ∨
        ∃ task ∈ sections.later, task.phase = phase := by
    conv_lhs => rw [sections.tasks_eq]
    simp only [List.mem_append, or_and_right, exists_or, or_assoc]
  rw [hsplit, hsequential, hparallel, hlater]
  unfold RunBlock.phaseCount RunBlock.firstPhases
  omega

theorem contiguous_of_fit
    (hstart : 0 < block.firstPhases ∨ (block.thenTasks.getD []).length = 0)
    (hfit : block.phaseCount ≤ phaseLimit) : Contiguous tasks := by
  intro task htask phase hle
  rw [sections.exists_phase_iff hstart hfit]
  exact hle.trans_lt
    ((sections.exists_phase_iff hstart hfit _).mp ⟨task, htask, rfl⟩)

theorem strictlyOrdered_of_fit
    (hstart : 0 < block.firstPhases ∨ (block.thenTasks.getD []).length = 0)
    (hfit : block.phaseCount ≤ phaseLimit) : StrictlyOrdered tasks := by
  have hsequence : 0 + (block.sequence.getD []).length ≤ phaseLimit := by
    unfold RunBlock.phaseCount RunBlock.firstPhases at hfit
    omega
  have hincreasing : ∀ {part : List CompiledTask} {start count : Nat},
      start + count ≤ phaseLimit →
      part.map (·.phase) =
        (List.range' start count).map (· % phaseLimit) →
      StrictlyOrdered part := by
    intro part start count hle hphases
    have hplain : (List.range' start count).map (· % phaseLimit) =
        List.range' start count := by
      refine (List.map_congr_left fun phase hphase => ?_).trans (List.map_id _)
      have hmem := List.mem_range'_1.mp hphase
      exact Nat.mod_eq_of_lt (by omega)
    have hlt : (part.map (·.phase)).Pairwise (· < ·) := by
      rw [hphases, hplain]
      exact List.pairwise_lt_range'
    unfold StrictlyOrdered
    refine (List.pairwise_map.mp hlt).imp ?_
    intro before task hphase _
    exact hphase
  have hlater : ∀ before ∈ sections.sequential ++ sections.parallel,
      ∀ task ∈ sections.later, before.phase < task.phase := by
    intro before hbefore task htask
    have hfirst : 0 < block.firstPhases := hstart.resolve_right fun hnone => by
      rw [List.length_eq_zero_iff.mp (sections.length_later.trans hnone)] at htask
      exact List.not_mem_nil htask
    have hphase := List.mem_map_of_mem (f := CompiledTask.phase) htask
    rw [sections.later_phases hfirst hfit, mem_map_range'_mod hfit] at hphase
    refine lt_of_lt_of_le ?_ hphase.1
    obtain hmem | hmem := List.mem_append.mp hbefore
    · have hbeforePhase := List.mem_map_of_mem (f := CompiledTask.phase) hmem
      rw [sections.sequential_phased.1, mem_map_range'_mod hsequence]
        at hbeforePhase
      unfold RunBlock.firstPhases
      omega
    · have hbeforePhase := List.mem_map_of_mem (f := CompiledTask.phase) hmem
      rw [sections.parallel_phased.1, List.mem_replicate] at hbeforePhase
      rw [hbeforePhase.2]
      exact hfirst
  have hunordered : ∀ before : CompiledTask, ∀ task ∈ sections.parallel,
      task.parallel = false → before.phase < task.phase := by
    intro before task htask hmark
    rw [sections.parallel_phased.2 task htask] at hmark
    exact absurd hmark (by decide)
  rw [StrictlyOrdered, sections.tasks_eq, List.pairwise_append,
    List.pairwise_append]
  refine ⟨⟨?_, ?_, ?_⟩, ?_, ?_⟩
  · exact hincreasing hsequence sections.sequential_phased.1
  · exact List.pairwise_of_forall_mem_list fun before _ task htask =>
      hunordered before task htask
  · exact fun before _ task htask => hunordered before task htask
  · obtain hfirst | hnone := hstart
    · exact hincreasing hfit (sections.later_phases hfirst hfit)
    · rw [List.length_eq_zero_iff.mp (sections.length_later.trans hnone)]
      exact List.Pairwise.nil
  · intro before hbefore task htask _
    exact hlater before hbefore task htask

/-- Where phases are contiguous and ordered, later tasks follow a section. -/
theorem starts_of_ordered
    (hcontiguous : Contiguous tasks) (hordered : StrictlyOrdered tasks) :
    0 < block.firstPhases ∨ (block.thenTasks.getD []).length = 0 := by
  by_contra hnot
  obtain ⟨hfirst, hlater⟩ := not_or.mp hnot
  have hsequence : (block.sequence.getD []).length = 0 := by
    unfold RunBlock.firstPhases at hfirst
    omega
  have hparallel : (block.parallel.getD []).length = 0 := by
    unfold RunBlock.firstPhases at hfirst
    omega
  have hempty : sections.sequential ++ sections.parallel = [] := by
    rw [List.length_eq_zero_iff.mp (sections.length_sequential.trans hsequence),
      List.length_eq_zero_iff.mp (sections.length_parallel.trans hparallel)]
    rfl
  have hphases := sections.later_phased.1
  rw [hempty] at hphases
  obtain ⟨count, hcount⟩ := Nat.exists_eq_succ_of_ne_zero hlater
  have hmarks := sections.later_phased.2
  cases hcases : sections.later with
  | nil => exact hlater (by rw [← sections.length_later, hcases, List.length_nil])
  | cons first rest =>
      have htasks : tasks = first :: rest := by
        rw [sections.tasks_eq, hempty, hcases]
        rfl
      -- the first task is in phase one, so a task of phase zero comes later
      have hone : first.phase = 1 := by
        rw [hcases, hcount, List.range'_succ, List.map_cons, List.map_cons]
          at hphases
        exact List.head_eq_of_cons_eq hphases
      obtain ⟨zero, hzero, hphase⟩ := hcontiguous first
        (by rw [htasks]; exact List.mem_cons_self) 0 (Nat.zero_le _)
      rw [htasks] at hordered hzero
      obtain rfl | hrest := List.mem_cons.mp hzero
      · omega
      · have hlt := (List.pairwise_cons.mp hordered).1 zero hrest
          (hmarks zero (by rw [hcases]; exact List.mem_cons_of_mem _ hrest))
        omega

end Sections

end ChainworksForge.Workflow
