import ChainworksForge.Engine.Commands
import Mathlib.Data.Finset.Card

/-!
# The lineage of stage executions

The executions of a run form one line: at most one of them is open, it is the
last one, and it belongs to the current state.  `Lineage` states this together
with the loop budget of every state.

A state with a limit keeps more than a bound on its completed iterations.  As
long as one more iteration may complete, the bound is strict.  That is the case
when the latest iteration is not completed yet, and when the run is at the
state and the next step opens a new iteration there (`MayOpen`).

Four operations on the list of executions keep a lineage: changing the status
of the open execution, opening an execution, moving the run, and replacing an
execution by another attempt.
-/

namespace ChainworksForge.Engine

open ChainworksForge.Support ChainworksForge.Workflow

/-- The execution was handed to a worker, a reviewer or the next step. -/
def StageStatus.isStarted (status : StageStatus) : Bool :=
  status ≠ pending && status ≠ ready

theorem StageStatus.ne_ready_of_isStarted
    {status : StageStatus} (h : status.isStarted = true) : status ≠ ready := by
  rintro rfl
  simp [isStarted] at h

theorem StageStatus.isStarted_of_isTerminal
    {status : StageStatus} (h : status.isTerminal = true) :
    status.isStarted = true := by
  revert h
  cases status <;> simp [isTerminal, isStarted]

namespace StageExecution

/-- The execution is not over. -/
def IsOpen (stage : StageExecution) : Prop :=
  stage.status.isTerminal = false

end StageExecution

/-- No execution is open. -/
def AllClosed (stages : List StageExecution) : Prop :=
  ∀ stage ∈ stages, ¬stage.IsOpen

/-- The latest execution of a state in an ordered list. -/
def latestOf
    (stages : List StageExecution) (stateId : String) :
    Option StageExecution :=
  (stages.filter fun stage => stage.stageId = stateId).getLast?

/-- The list after the status of one execution has changed. -/
def restatus
    (stages : List StageExecution) (id : StageExecutionId)
    (status : StageStatus) : List StageExecution :=
  stages.map fun stage =>
    if stage.id = id then { stage with status := status } else stage

/-- The distinct iterations of a state with a completed execution. -/
def completedSet
    (stages : List StageExecution) (stateId : String) : Finset ℤ :=
  (completedIterations stages stateId).toFinset

/-- The limit of the loop through a state. -/
def loopLimit (plan : RunPlan) (stateId : String) : Option Nat :=
  ((plan.state? stateId).bind (·.loopConfig)).map (·.max)

/-- A further iteration of a state fits into its budget. -/
def Room
    (plan : RunPlan) (stages : List StageExecution) (stateId : String) : Prop :=
  ∀ limit, loopLimit plan stateId = some limit →
    (completedSet stages stateId).card < limit

/-- The next step at the current state enters it afresh. -/
def Enters
    (here : String) (stages : List StageExecution) (stateId : String) : Prop :=
  here = stateId ∧
    ∀ stage, latestOf stages stateId = some stage →
      stageIsStale stages stage = true

/-- One more iteration of a state may complete. -/
def MayOpen
    (here : String) (stages : List StageExecution) (stateId : String) : Prop :=
  Enters here stages stateId ∨
    ∃ stage, latestOf stages stateId = some stage ∧
      stage.iteration ∉ completedSet stages stateId

/-- One line of executions within the loop budgets of a plan. -/
structure Lineage
    (plan : RunPlan) (here : String) (stages : List StageExecution) :
    Prop where
  ids : stages.map (·.id) = List.range stages.length
  sorted : stages.Pairwise fun a b => a.startedAt ≤ b.startedAt
  positive : ∀ stage ∈ stages, 0 < stage.iteration
  neverReady : ∀ stage ∈ stages, stage.status ≠ .ready
  openLast : ∀ stage ∈ stages, stage.IsOpen →
    stages.getLast? = some stage ∧ stage.stageId = here
  bounded : ∀ stateId limit, loopLimit plan stateId = some limit →
    (completedSet stages stateId).card ≤ limit
  strict : ∀ stateId, MayOpen here stages stateId → Room plan stages stateId

/-! ## Lists of executions -/

theorem mem_completedSet
    {stages : List StageExecution} {stateId : String} {iteration : ℤ} :
    iteration ∈ completedSet stages stateId ↔
      ∃ stage ∈ stages, stage.stageId = stateId ∧
        stage.status = .completed ∧ stage.iteration = iteration := by
  simp [completedSet, completedIterations, and_assoc]

theorem latestOf_mem
    {stages : List StageExecution} {stateId : String} {stage : StageExecution}
    (h : latestOf stages stateId = some stage) :
    stage ∈ stages ∧ stage.stageId = stateId := by
  simpa using List.mem_of_getLast? h

theorem latestOf_concat
    (stages : List StageExecution) (stage : StageExecution)
    (stateId : String) :
    latestOf (stages ++ [stage]) stateId =
      if stage.stageId = stateId then some stage
      else latestOf stages stateId := by
  unfold latestOf
  by_cases h : stage.stageId = stateId
  · simp [h]
  · simp [h]

theorem id_lt_of_ids
    {stages : List StageExecution}
    (hids : stages.map (·.id) = List.range stages.length)
    {stage : StageExecution} (hstage : stage ∈ stages) :
    stage.id < stages.length := by
  have hmem : stage.id ∈ stages.map (·.id) := List.mem_map_of_mem hstage
  rwa [hids, List.mem_range] at hmem

/-- Executions are told apart by their numbers. -/
theorem eq_of_ids
    {stages : List StageExecution}
    (hids : stages.map (·.id) = List.range stages.length)
    {a b : StageExecution} (ha : a ∈ stages) (hb : b ∈ stages)
    (hid : a.id = b.id) : a = b := by
  have hnodup : (stages.map (·.id)).Nodup := by
    rw [hids]
    exact List.nodup_range
  exact List.inj_on_of_nodup_map hnodup ha hb hid

theorem ids_concat_iff
    {stages : List StageExecution} {stage : StageExecution} :
    (stages ++ [stage]).map (·.id) =
        List.range (stages ++ [stage]).length ↔
      stages.map (·.id) = List.range stages.length ∧
        stage.id = stages.length := by
  rw [List.map_append, List.length_append, List.length_singleton,
    List.range_succ]
  constructor
  · intro h
    obtain ⟨hinit, hlast⟩ := List.append_inj' h rfl
    exact ⟨hinit, by simpa using hlast⟩
  · rintro ⟨hinit, hlast⟩
    simp [hinit, hlast]

/-- Changing the last execution leaves the ones before it alone. -/
theorem restatus_concat
    {stages : List StageExecution} {stage : StageExecution}
    (hids : (stages ++ [stage]).map (·.id) =
      List.range (stages ++ [stage]).length)
    (status : StageStatus) :
    restatus (stages ++ [stage]) stage.id status =
      stages ++ [{ stage with status := status }] := by
  obtain ⟨hinit, hlast⟩ := ids_concat_iff.mp hids
  have hsame : restatus stages stage.id status = stages := by
    refine (List.map_congr_left ?_).trans (List.map_id stages)
    intro other hother
    have hlt := id_lt_of_ids hinit hother
    rw [if_neg (hlast ▸ hlt.ne), id_eq]
  simp only [restatus, List.map_append, List.map_cons, List.map_nil,
    if_true] at hsame ⊢
  rw [hsame]

theorem completedSet_concat
    (stages : List StageExecution) (stage : StageExecution)
    (stateId : String) :
    completedSet (stages ++ [stage]) stateId =
      if stage.stageId = stateId ∧ stage.status = .completed then
        insert stage.iteration (completedSet stages stateId)
      else completedSet stages stateId := by
  ext iteration
  by_cases h : stage.stageId = stateId ∧ stage.status = .completed
  · rw [if_pos h, Finset.mem_insert, mem_completedSet, mem_completedSet]
    constructor
    · rintro ⟨other, hother, hstate, hstatus, rfl⟩
      obtain hother | hother := List.mem_append.mp hother
      · exact .inr ⟨other, hother, hstate, hstatus, rfl⟩
      · exact .inl (by rw [List.mem_singleton.mp hother])
    · rintro (rfl | ⟨other, hother, hrest⟩)
      · exact ⟨stage, by simp, h.1, h.2, rfl⟩
      · exact ⟨other, List.mem_append_left _ hother, hrest⟩
  · rw [if_neg h, mem_completedSet, mem_completedSet]
    constructor
    · rintro ⟨other, hother, hstate, hstatus, rfl⟩
      obtain hother | hother := List.mem_append.mp hother
      · exact ⟨other, hother, hstate, hstatus, rfl⟩
      · obtain rfl := List.mem_singleton.mp hother
        exact absurd ⟨hstate, hstatus⟩ h
    · rintro ⟨other, hother, hrest⟩
      exact ⟨other, List.mem_append_left _ hother, hrest⟩

/-- The last execution of an ordered list is not stale. -/
theorem stageIsStale_concat_self
    {stages : List StageExecution} {stage : StageExecution}
    (hsorted : (stages ++ [stage]).Pairwise fun a b =>
      a.startedAt ≤ b.startedAt)
    (status : StageStatus) :
    stageIsStale (stages ++ [{ stage with status := status }])
      { stage with status := status } = false := by
  have hle : ∀ other ∈ stages, other.startedAt ≤ stage.startedAt := by
    intro other hother
    exact (List.pairwise_append.mp hsorted).2.2 other hother stage (by simp)
  unfold stageIsStale
  rw [Bool.and_eq_false_iff]
  right
  simp only [List.any_eq_false, decide_eq_true_eq, not_and, not_lt]
  intro other hother hne
  obtain hother | hother := List.mem_append.mp hother
  · exact hle other hother
  · rw [List.mem_singleton.mp hother]

/-- The status of other executions does not matter for staleness. -/
theorem stageIsStale_congr
    {stages others : List StageExecution} {stage : StageExecution}
    (h : stages.map (fun s => (s.stageId, s.startedAt)) =
      others.map fun s => (s.stageId, s.startedAt)) :
    stageIsStale stages stage = stageIsStale others stage := by
  have hany : ∀ list : List StageExecution,
      (list.any fun other => other.stageId ≠ stage.stageId ∧
          stage.startedAt < other.startedAt) =
        (list.map fun s => (s.stageId, s.startedAt)).any fun entry =>
          entry.1 ≠ stage.stageId ∧ stage.startedAt < entry.2 := by
    intro list
    rw [List.any_map]
    rfl
  unfold stageIsStale
  rw [hany stages, hany others, h]

/-- One execution after a change of status. -/
def restatusOne
    (id : StageExecutionId) (status : StageStatus) (stage : StageExecution) :
    StageExecution :=
  if stage.id = id then { stage with status := status } else stage

theorem map_restatus
    {β : Type} (f : StageExecution → β)
    (hf : ∀ stage status, f { stage with status := status } = f stage)
    (stages : List StageExecution) (id : StageExecutionId)
    (status : StageStatus) :
    (restatus stages id status).map f = stages.map f := by
  rw [restatus, List.map_map]
  refine List.map_congr_left fun stage _ => ?_
  rw [Function.comp_apply]
  split_ifs
  · exact hf stage status
  · rfl

theorem latestOf_restatus
    (stages : List StageExecution) (id : StageExecutionId)
    (status : StageStatus) (stateId : String) :
    latestOf (restatus stages id status) stateId =
      (latestOf stages stateId).map (restatusOne id status) := by
  have hstate : ((fun stage : StageExecution => decide (stage.stageId = stateId)) ∘
      restatusOne id status) = fun stage => decide (stage.stageId = stateId) := by
    funext stage
    simp only [Function.comp_apply, restatusOne]
    split_ifs <;> rfl
  have hmap : restatus stages id status =
      stages.map (restatusOne id status) := rfl
  rw [latestOf, hmap, List.filter_map, hstate, List.getLast?_map, latestOf]

/-- Setting an execution aside completes nothing. -/
theorem completedSet_skip_subset
    (stages : List StageExecution) (id : StageExecutionId)
    (stateId : String) :
    completedSet (restatus stages id .skipped) stateId ⊆
      completedSet stages stateId := by
  intro iteration hmem
  obtain ⟨stage, hstage, hstate, hstatus, rfl⟩ := mem_completedSet.mp hmem
  obtain ⟨before, hbefore, rfl⟩ := List.mem_map.mp hstage
  by_cases hid : before.id = id
  · simp [hid] at hstatus
  · rw [if_neg hid] at hstate hstatus ⊢
    exact mem_completedSet.mpr ⟨before, hbefore, hstate, hstatus, rfl⟩

/-- Setting an execution aside matters to its own state only. -/
theorem completedSet_skip_of_ne
    {stages : List StageExecution} {old : StageExecution} {stateId : String}
    (hold : ∀ stage ∈ stages, stage.id = old.id →
      stage.stageId = old.stageId)
    (hne : old.stageId ≠ stateId) :
    completedSet (restatus stages old.id .skipped) stateId =
      completedSet stages stateId := by
  refine (completedSet_skip_subset stages old.id stateId).antisymm ?_
  intro iteration hmem
  obtain ⟨stage, hstage, hstate, hstatus, rfl⟩ := mem_completedSet.mp hmem
  have hid : stage.id ≠ old.id := fun hid =>
    hne ((hold stage hstage hid).symm.trans hstate)
  refine mem_completedSet.mpr ⟨stage, ?_, hstate, hstatus, rfl⟩
  exact List.mem_map.mpr ⟨stage, hstage, if_neg hid⟩

/-! ## Facts about a lineage -/

namespace Lineage

variable {plan : RunPlan} {here : String} {stages : List StageExecution}

/-- If the latest execution of the current state is over, all are. -/
theorem allClosed
    (hline : Lineage plan here stages)
    (hlatest : ∀ stage, latestOf stages here = some stage → ¬stage.IsOpen) :
    AllClosed stages := by
  intro stage hstage hopen
  obtain ⟨hlast, rfl⟩ := hline.openLast stage hstage hopen
  obtain ⟨init, rfl⟩ := List.getLast?_eq_some_iff.mp hlast
  exact hlatest stage (by rw [latestOf_concat, if_pos rfl]) hopen

/-- The executions before the open one are over. -/
theorem closed_of_concat
    {init : List StageExecution} {stage : StageExecution}
    (hline : Lineage plan here (init ++ [stage])) :
    AllClosed init := by
  intro other hother hopen
  obtain ⟨hlast, -⟩ :=
    hline.openLast other (List.mem_append_left _ hother) hopen
  obtain ⟨hids, hid⟩ := ids_concat_iff.mp hline.ids
  have hlt := id_lt_of_ids hids hother
  rw [List.getLast?_concat, Option.some.injEq] at hlast
  rw [← hlast] at hlt
  exact absurd hid hlt.ne

/-- The latest execution of the current state is stale whatever its status,
because an open one is never older than another. -/
theorem stale_of_restatusOne
    (hline : Lineage plan here stages) {stage : StageExecution}
    (hlatest : latestOf stages here = some stage)
    {id : StageExecutionId} {status : StageStatus}
    (hstale : stageIsStale stages (restatusOne id status stage) = true) :
    stageIsStale stages stage = true := by
  obtain ⟨hmem, -⟩ := latestOf_mem hlatest
  have hlater : (stages.any fun other => other.stageId ≠ stage.stageId ∧
      stage.startedAt < other.startedAt) = true := by
    unfold stageIsStale restatusOne at hstale
    split_ifs at hstale <;> exact (Bool.and_eq_true_iff.mp hstale).2
  by_cases hopen : stage.IsOpen
  · obtain ⟨hlast, -⟩ := hline.openLast stage hmem hopen
    obtain ⟨init, rfl⟩ := List.getLast?_eq_some_iff.mp hlast
    have hfresh := stageIsStale_concat_self hline.sorted .completed
    have hcongr : stageIsStale (init ++ [{ stage with status := .completed }])
        { stage with status := .completed } =
          stageIsStale (init ++ [stage]) { stage with status := .completed } :=
      stageIsStale_congr (by simp)
    rw [hcongr] at hfresh
    unfold stageIsStale at hfresh
    rw [hlater] at hfresh
    simp [StageStatus.isTerminal] at hfresh
  · unfold stageIsStale
    rw [hlater]
    simpa [StageExecution.IsOpen] using hopen

/-- The bound on the completed iterations in the form of the budget check. -/
theorem loopIterationsForState_eq
    (hline : Lineage plan here stages) (stateId : String) :
    loopIterationsForState stages stateId =
      (completedSet stages stateId).card := by
  have hall : ∀ i ∈ completedIterations stages stateId, 0 ≤ i := by
    intro i hi
    obtain ⟨stage, hstage, -, -, rfl⟩ :=
      mem_completedSet.mp (List.mem_toFinset.mpr hi)
    exact (hline.positive stage hstage).le
  rw [loopIterationsForState, List.filter_eq_self.mpr (by simpa using hall),
    completedSet, List.card_toFinset]

/-- The budget check finds room exactly when there is room. -/
theorem room_of_not_exhausted
    (hline : Lineage plan here stages) {stateId : String}
    (h : closeoutLoopBudgetExhaustion plan stages stateId = none) :
    Room plan stages stateId := by
  intro limit hlimit
  obtain ⟨loopConfig, hconfig, rfl⟩ := Option.map_eq_some_iff.mp hlimit
  obtain ⟨state, hstate, hloop⟩ := Option.bind_eq_some_iff.mp hconfig
  simp only [closeoutLoopBudgetExhaustion, hstate, hloop, Option.bind_some,
    ite_eq_right_iff, reduceCtorEq, imp_false, not_le] at h
  rwa [hline.loopIterationsForState_eq] at h

/-! ## Operations that keep a lineage -/

/-- Changing the status of the open execution. -/
theorem restatus_open
    {init : List StageExecution} {stage : StageExecution}
    (hline : Lineage plan here (init ++ [stage])) (hopen : stage.IsOpen)
    {status : StageStatus} (hready : status ≠ .ready) :
    Lineage plan here (init ++ [{ stage with status := status }]) := by
  have hclosed := hline.closed_of_concat
  have hstate : stage.stageId = here :=
    (hline.openLast stage (by simp) hopen).2
  have hnotCompleted : stage.status ≠ .completed := by
    intro h
    simp [StageExecution.IsOpen, h, StageStatus.isTerminal] at hopen
  have hset : ∀ stateId,
      completedSet (init ++ [stage]) stateId = completedSet init stateId := by
    intro stateId
    rw [completedSet_concat, if_neg (fun h => hnotCompleted h.2)]
  -- the execution itself is the only one whose iteration may still complete
  have hown : stage.iteration ∉ completedSet init here → Room plan init here := by
    intro hiteration limit hlimit
    have hroom := hline.strict here
      (.inr ⟨stage, by rw [latestOf_concat, if_pos hstate], by rwa [hset]⟩)
      limit hlimit
    rwa [hset] at hroom
  refine ⟨?_, ?_, ?_, ?_, ?_, ?_, ?_⟩
  · simpa using hline.ids
  · simpa [List.pairwise_append] using hline.sorted
  · intro other hother
    obtain hother | hother := List.mem_append.mp hother
    · exact hline.positive other (List.mem_append_left _ hother)
    · obtain rfl := List.mem_singleton.mp hother
      exact hline.positive stage (by simp)
  · intro other hother
    obtain hother | hother := List.mem_append.mp hother
    · exact hline.neverReady other (List.mem_append_left _ hother)
    · obtain rfl := List.mem_singleton.mp hother
      exact hready
  · intro other hother hother_open
    obtain hother | hother := List.mem_append.mp hother
    · exact absurd hother_open (hclosed other hother)
    · obtain rfl := List.mem_singleton.mp hother
      exact ⟨List.getLast?_concat, hstate⟩
  · intro stateId limit hlimit
    have hold := hline.bounded stateId limit hlimit
    rw [hset] at hold
    rw [completedSet_concat]
    split_ifs with h
    · obtain rfl : here = stateId := hstate.symm.trans h.1
      by_cases hiteration : stage.iteration ∈ completedSet init here
      · rwa [Finset.insert_eq_of_mem hiteration]
      · rw [Finset.card_insert_of_notMem hiteration]
        exact hown hiteration limit hlimit
    · exact hold
  · intro stateId hmay
    by_cases hsame : stateId = here
    · subst hsame
      -- the last execution is never stale, so its iteration is not completed
      have hlatest : latestOf (init ++ [{ stage with status := status }])
          stateId = some { stage with status := status } := by
        rw [latestOf_concat, if_pos hstate]
      obtain ⟨-, hstale⟩ | ⟨other, hother, hiteration⟩ := hmay
      · have := hstale _ hlatest
        rw [stageIsStale_concat_self hline.sorted] at this
        exact absurd this (by simp)
      · obtain rfl := Option.some.inj (hlatest.symm.trans hother)
        rw [completedSet_concat] at hiteration
        split_ifs at hiteration with h
        · exact absurd (Finset.mem_insert_self _ _) hiteration
        · intro limit hlimit
          rw [completedSet_concat, if_neg h]
          exact hown hiteration limit hlimit
    · have hne : stage.stageId ≠ stateId := fun h => hsame (h.symm.trans hstate)
      obtain ⟨hhere, -⟩ | ⟨other, hother, hiteration⟩ := hmay
      · exact absurd hhere.symm hsame
      · intro limit hlimit
        have hroom := hline.strict stateId
          (.inr ⟨other, by
            rw [latestOf_concat, if_neg hne] at hother ⊢
            exact hother, by
            rw [completedSet_concat, if_neg (fun h => hne h.1)] at hiteration
            rwa [hset]⟩) limit hlimit
        rw [hset] at hroom
        rwa [completedSet_concat, if_neg (fun h => hne h.1)]

/-- Moving the run to a state with room. -/
theorem moveTo
    (hline : Lineage plan here stages) (hclosed : AllClosed stages)
    {target : String} (hroom : Room plan stages target) :
    Lineage plan target stages := by
  refine ⟨hline.ids, hline.sorted, hline.positive, hline.neverReady, ?_,
    hline.bounded, ?_⟩
  · intro stage hstage hopen
    exact absurd hopen (hclosed stage hstage)
  · intro stateId hmay
    obtain ⟨rfl, -⟩ | hlatest := hmay
    · exact hroom
    · exact hline.strict stateId (.inr hlatest)

/-- Opening an execution after all others are over.  Its iteration is either
new, with room for it, or the latest one of its state. -/
theorem open_stage
    (hline : Lineage plan here stages) (hclosed : AllClosed stages)
    {stage : StageExecution} (hopen : stage.IsOpen)
    (hready : stage.status ≠ .ready) (hid : stage.id = stages.length)
    (hpositive : 0 < stage.iteration)
    (hclock : ∀ other ∈ stages, other.startedAt ≤ stage.startedAt)
    (hroom : stage.iteration ∉ completedSet stages stage.stageId →
      Room plan stages stage.stageId) :
    Lineage plan stage.stageId (stages ++ [stage]) := by
  have hnotCompleted : stage.status ≠ .completed := by
    intro h
    simp [StageExecution.IsOpen, h, StageStatus.isTerminal] at hopen
  have hset : ∀ stateId,
      completedSet (stages ++ [stage]) stateId =
        completedSet stages stateId := by
    intro stateId
    rw [completedSet_concat, if_neg (fun h => hnotCompleted h.2)]
  have hsorted : (stages ++ [stage]).Pairwise fun a b =>
      a.startedAt ≤ b.startedAt := by
    refine List.pairwise_append.mpr ⟨hline.sorted, by simp, ?_⟩
    simpa using hclock
  refine ⟨ids_concat_iff.mpr ⟨hline.ids, hid⟩, hsorted, ?_, ?_, ?_, ?_, ?_⟩
  · intro other hother
    obtain hother | hother := List.mem_append.mp hother
    · exact hline.positive other hother
    · rwa [List.mem_singleton.mp hother]
  · intro other hother
    obtain hother | hother := List.mem_append.mp hother
    · exact hline.neverReady other hother
    · rwa [List.mem_singleton.mp hother]
  · intro other hother hother_open
    obtain hother | hother := List.mem_append.mp hother
    · exact absurd hother_open (hclosed other hother)
    · obtain rfl := List.mem_singleton.mp hother
      exact ⟨List.getLast?_concat, rfl⟩
  · intro stateId limit hlimit
    rw [hset]
    exact hline.bounded stateId limit hlimit
  · intro stateId hmay limit hlimit
    rw [hset]
    have hlatest := latestOf_concat stages stage stateId
    by_cases hstate : stage.stageId = stateId
    · rw [if_pos hstate] at hlatest
      subst hstate
      obtain ⟨-, hstale⟩ | ⟨other, hother, hiteration⟩ := hmay
      · have hfresh := stageIsStale_concat_self hsorted stage.status
        exact absurd (hstale stage hlatest) (by simp [hfresh])
      · obtain rfl := Option.some.inj (hlatest.symm.trans hother)
        rw [hset] at hiteration
        exact hroom hiteration limit hlimit
    · rw [if_neg hstate] at hlatest
      obtain ⟨hhere, -⟩ | ⟨other, hother, hiteration⟩ := hmay
      · exact absurd hhere hstate
      · rw [hlatest] at hother
        rw [hset] at hiteration
        exact hline.strict stateId (.inr ⟨other, hother, hiteration⟩) limit
          hlimit

/-- The next iteration of a state is new. -/
theorem nextIteration_spec
    (hline : Lineage plan here stages) (stateId : String) :
    0 < nextIteration stages stateId ∧
      nextIteration stages stateId ∉ completedSet stages stateId := by
  have hbound : ∀ stage ∈ stages, stage.stageId = stateId →
      stage.iteration < nextIteration stages stateId := by
    intro stage hstage hstate
    have hmem : stage.iteration ∈
        (stages.filter fun other => other.stageId = stateId).map
          (·.iteration) :=
      List.mem_map_of_mem (by simpa using ⟨hstage, hstate⟩)
    unfold nextIteration
    generalize (stages.filter fun other => other.stageId = stateId).map
      (·.iteration) = iterations at hmem
    cases hmax : iterations.max? with
    | none =>
        rw [List.max?_eq_none_iff] at hmax
        simp [hmax] at hmem
    | some top =>
        have hle := (List.max?_eq_some_iff.mp hmax).2 _ hmem
        rw [Option.getD_some]
        exact Int.lt_add_one_of_le hle
  constructor
  · unfold nextIteration
    cases hmax : ((stages.filter fun other => other.stageId = stateId).map
        (·.iteration)).max? with
    | none => simp
    | some top =>
        obtain ⟨hmem, -⟩ := List.max?_eq_some_iff.mp hmax
        obtain ⟨stage, hstage, rfl⟩ := List.mem_map.mp hmem
        have := hline.positive stage (List.mem_of_mem_filter hstage)
        rw [Option.getD_some]
        omega
  · intro hmem
    obtain ⟨stage, hstage, hstate, -, heq⟩ := mem_completedSet.mp hmem
    exact absurd heq (hbound stage hstage hstate).ne

/-- Setting aside the latest execution of a state. -/
theorem skip_latest
    (hline : Lineage plan here stages) {old : StageExecution}
    (hlatest : latestOf stages old.stageId = some old)
    (honly : ∀ stage ∈ stages, stage.IsOpen → stage.id = old.id) :
    Lineage plan here (restatus stages old.id .skipped) ∧
      AllClosed (restatus stages old.id .skipped) ∧
      (old.iteration ∉
          completedSet (restatus stages old.id .skipped) old.stageId →
        Room plan (restatus stages old.id .skipped) old.stageId) := by
  obtain ⟨hold, -⟩ := latestOf_mem hlatest
  have hsubset := fun stateId => completedSet_skip_subset stages old.id stateId
  have hroomMono : ∀ stateId, Room plan stages stateId →
      Room plan (restatus stages old.id .skipped) stateId := by
    intro stateId hroom limit hlimit
    exact (Finset.card_le_card (hsubset stateId)).trans_lt
      (hroom limit hlimit)
  have hownState : ∀ stage ∈ stages, stage.id = old.id →
      stage.stageId = old.stageId := by
    intro stage hstage hid
    rw [eq_of_ids hline.ids hstage hold hid]
  have hclosed : AllClosed (restatus stages old.id .skipped) := by
    intro stage hstage hopen
    obtain ⟨before, hbefore, rfl⟩ := List.mem_map.mp hstage
    split_ifs at hopen with hid
    · simp [StageExecution.IsOpen, StageStatus.isTerminal] at hopen
    · exact hid (honly before hbefore hopen)
  -- the iteration that was set aside either gave up its place or had one
  have hown : old.iteration ∉
        completedSet (restatus stages old.id .skipped) old.stageId →
      Room plan (restatus stages old.id .skipped) old.stageId := by
    intro hiteration limit hlimit
    by_cases hbefore : old.iteration ∈ completedSet stages old.stageId
    · have hlt := Finset.card_lt_card
        ((Finset.ssubset_iff_of_subset (hsubset old.stageId)).mpr
          ⟨_, hbefore, hiteration⟩)
      exact hlt.trans_le (hline.bounded old.stageId limit hlimit)
    · exact hroomMono old.stageId
        (hline.strict old.stageId (.inr ⟨old, hlatest, hbefore⟩)) limit hlimit
  have hstale : ∀ stage, stageIsStale (restatus stages old.id .skipped) stage =
      stageIsStale stages stage := fun stage =>
    stageIsStale_congr (map_restatus _ (fun _ _ => rfl) stages old.id .skipped)
  refine ⟨⟨?_, ?_, ?_, ?_, ?_, ?_, ?_⟩, hclosed, hown⟩
  · rw [map_restatus _ (fun _ _ => rfl), hline.ids, restatus, List.length_map]
  · have hsorted := hline.sorted
    rw [← List.pairwise_map (f := fun s : StageExecution => s.startedAt)
      (R := (· ≤ ·))] at hsorted ⊢
    rwa [map_restatus _ (fun _ _ => rfl)]
  · intro stage hstage
    obtain ⟨before, hbefore, rfl⟩ := List.mem_map.mp hstage
    have := hline.positive before hbefore
    split_ifs <;> exact this
  · intro stage hstage
    obtain ⟨before, hbefore, rfl⟩ := List.mem_map.mp hstage
    split_ifs
    · simp
    · exact hline.neverReady before hbefore
  · intro stage hstage hopen
    exact absurd hopen (hclosed stage hstage)
  · intro stateId limit hlimit
    exact (Finset.card_le_card (hsubset stateId)).trans
      (hline.bounded stateId limit hlimit)
  · intro stateId hmay
    obtain ⟨rfl, henters⟩ | ⟨stage, hstage, hiteration⟩ := hmay
    · refine hroomMono here (hline.strict here (.inl ⟨rfl, ?_⟩))
      intro stage hstage
      have hafter := henters _ (by rw [latestOf_restatus, hstage]; rfl)
      rw [hstale] at hafter
      exact hline.stale_of_restatusOne hstage hafter
    · by_cases hsame : old.stageId = stateId
      · subst hsame
        rw [latestOf_restatus, hlatest] at hstage
        obtain rfl := Option.some.inj hstage
        have hkeep : (restatusOne old.id .skipped old).iteration =
            old.iteration := by
          simp [restatusOne]
        rw [hkeep] at hiteration
        exact hown hiteration
      · refine hroomMono stateId (hline.strict stateId (.inr ?_))
        rw [latestOf_restatus] at hstage
        obtain ⟨before, hbefore, rfl⟩ := Option.map_eq_some_iff.mp hstage
        refine ⟨before, hbefore, ?_⟩
        rw [completedSet_skip_of_ne hownState hsame] at hiteration
        have hkeep : (restatusOne old.id .skipped before).iteration =
            before.iteration := by
          unfold restatusOne
          split_ifs <;> rfl
        rwa [hkeep] at hiteration

end Lineage

end ChainworksForge.Engine
