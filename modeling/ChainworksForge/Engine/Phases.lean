import ChainworksForge.Engine.ExecutionStep

/-!
# The phases of one execution

`PhaseInvariant` states how the queued invocations of an execution follow the
phases of its tasks, and `phases_in_order` is the order of the phases over every
interleaving of steps and settlements.

The selected reviewers of a state stand in for its first phase.  A task is due
if it belongs to a later phase or no reviewer was selected.
-/

namespace ChainworksForge.Engine

open ChainworksForge.Support ChainworksForge.Workflow

section Statement

variable (db : Database) (execution : StageExecutionId)

/-- Selected reviewers are queued for an execution. -/
def HasReviewers : Prop :=
  ∃ item ∈ db.stageInvokes execution, item.IsReviewer

/-- A task that an execution has to run. -/
def Due (task : CompiledTask) : Prop :=
  0 < task.phase ∨ ¬HasReviewers db execution

/-- An execution has reached a status. -/
def HasStatus (status : StageStatus) : Prop :=
  ∃ row ∈ db.stages, row.id = execution ∧ row.status = status

/-- An execution is not over. -/
def InProgress : Prop :=
  ∃ row ∈ db.stages, row.id = execution ∧ row.IsOpen

end Statement

/-! ## The invariant -/

/-- A queued invocation stands for a task of the list. -/
def StandsFor
    (tasks : List CompiledTask) (execution : StageExecutionId)
    (item : InvokeItem) (task : CompiledTask) : Prop :=
  ∃ i, item.id = .task execution i ∧ tasks[i]? = some task

/-- How the queued invocations of an execution follow its phases. -/
structure PhaseInvariant
    (state : CompiledState) (stateId : String) (tasks : List CompiledTask)
    (execution : StageExecutionId) (db : Database) : Prop
    extends Located state stateId tasks execution db where
  nodup : ((db.stageInvokes execution).map (·.id)).Nodup
  kinds : ∀ item ∈ db.stageInvokes execution, item.IsReviewer ∨
    (item.totalTasks = tasks.length ∧
      ∃ task, StandsFor tasks execution item task) ∨
    (tasks = [] ∧ item.id = .task execution 0)
  /-- Reviewers never run beside the first phase. -/
  exclusive : HasReviewers db execution →
    ∀ item ∈ db.stageInvokes execution, item.IsReviewer ∨
      ∃ task, StandsFor tasks execution item task ∧ 0 < task.phase
  /-- A reviewer that counts as the only task is the only one. -/
  alone : ∀ item ∈ db.stageInvokes execution, item.IsReviewer →
    item.totalTasks ≤ 1 → laterTasks tasks = 0 ∧
      ∀ other ∈ db.stageInvokes execution, other.IsReviewer →
        other.id = item.id
  /-- Lower phases are queued as a whole. -/
  ordered : InProgress db execution →
    ∀ item ∈ db.stageInvokes execution, ∀ phase,
      itemPhase tasks item = some phase →
      ∀ j task, tasks[j]? = some task → task.phase ≤ phase →
        Due db execution task → Queued db execution j
  /-- Lower phases are over when a later one is queued. -/
  lowerOver : ∀ item ∈ db.stageInvokes execution,
    ∀ later ∈ db.stageInvokes execution, ∀ p q,
      itemPhase tasks item = some p → itemPhase tasks later = some q →
      p < q → item.status.inFlight = false

/-! ## Batches -/

section Batches

variable {tasks : List CompiledTask} {stage : StageExecution} {past : Prop}
  {phase : Nat} {new : List InvokeItem}

/-- What an invocation of a batch can be. -/
theorem Batch.item_cases
    (h : Batch tasks stage past phase new) {item : InvokeItem}
    (hitem : item ∈ new) :
    (item.IsReviewer ∧ item.BelongsTo stage.id ∧ phase = 0 ∧
      new.length + laterTasks tasks ≤ item.totalTasks ∧
      ∀ other ∈ new, other.IsReviewer) ∨
    (∃ i task, item = taskItem stage task.agent.agentId i tasks.length ∧
      tasks[i]? = some task ∧ task.phase = phase) ∨
    (tasks = [] ∧ ∃ agentId, item = taskItem stage agentId 0 1) := by
  cases h with
  | nothing => simp at hitem
  | tasks entries hentries hwhole =>
      obtain ⟨entry, hentry, rfl⟩ := List.mem_map.mp hitem
      obtain ⟨hmem, hphase⟩ := List.mem_filter.mp (hentries.subset hentry)
      exact .inr (.inl ⟨entry.2, entry.1, rfl,
        List.mem_zipIdx_iff_getElem?.mp hmem, by simpa using hphase⟩)
  | owner agentId htasks =>
      exact .inr (.inr ⟨htasks, agentId, List.mem_singleton.mp hitem⟩)
  | reviewers _ hphase hitems =>
      obtain ⟨hreviewer, hbelongs, htotal⟩ := hitems item hitem
      exact .inl ⟨hreviewer, hbelongs, hphase, htotal,
        fun other hother => (hitems other hother).1⟩

theorem Batch.belongsTo
    (h : Batch tasks stage past phase new) {item : InvokeItem}
    (hitem : item ∈ new) : item.BelongsTo stage.id := by
  obtain ⟨-, hbelongs, -⟩ | ⟨i, task, rfl, -⟩ | ⟨-, agentId, rfl⟩ :=
    h.item_cases hitem
  · exact hbelongs
  · exact ⟨rfl, rfl⟩
  · exact ⟨rfl, rfl⟩

/-- A batch that holds a task holds all tasks of the phase, or the execution is
over. -/
theorem Batch.whole
    (h : Batch tasks stage past phase new) (hover : ¬past)
    {item : InvokeItem} (hitem : item ∈ new) {i : Nat} {task : CompiledTask}
    (heq : item = taskItem stage task.agent.agentId i tasks.length)
    (htask : tasks[i]? = some task) {j : Nat} {other : CompiledTask}
    (hother : tasks[j]? = some other) (hphase : other.phase = phase) :
    ∃ queued ∈ new, queued.id = .task stage.id j := by
  cases h with
  | nothing => simp at hitem
  | tasks entries hentries hwhole =>
      rw [hwhole.resolve_right hover]
      have hentry : (other, j) ∈ tasksOfPhase tasks phase :=
        List.mem_filter.mpr
          ⟨List.mem_zipIdx_iff_getElem?.mpr hother, by simpa using hphase⟩
      exact ⟨_, List.mem_map_of_mem hentry, rfl⟩
  | owner agentId htasks => simp [htasks] at htask
  | reviewers _ _ hitems =>
      refine absurd ?_ ((hitems item hitem).1.2 stage.id i)
      rw [heq]
      rfl

end Batches

/-! ## The work of the workers -/

theorem exists_left_of_forall₂
    {α β : Type} {R : α → β → Prop} {l : List α} {l' : List β}
    (h : List.Forall₂ R l l') {b : β} (hb : b ∈ l') : ∃ a ∈ l, R a b := by
  induction h with
  | nil => simp at hb
  | cons hhead _ ih =>
      obtain rfl | hb := List.mem_cons.mp hb
      · exact ⟨_, List.mem_cons_self, hhead⟩
      · obtain ⟨a, ha, hab⟩ := ih hb
        exact ⟨a, List.mem_cons_of_mem _ ha, hab⟩

theorem exists_right_of_forall₂
    {α β : Type} {R : α → β → Prop} {l : List α} {l' : List β}
    (h : List.Forall₂ R l l') {a : α} (ha : a ∈ l) : ∃ b ∈ l', R a b := by
  obtain ⟨b, hb, hab⟩ := exists_left_of_forall₂ h.flip ha
  exact ⟨b, hb, hab⟩

/-- What workers leave alone about an invocation. -/
structure SameWork (before after : InvokeItem) : Prop where
  id : after.id = before.id
  stageExecutionId : after.stageExecutionId = before.stageExecutionId
  taskIndex : after.taskIndex = before.taskIndex
  totalTasks : after.totalTasks = before.totalTasks
  dynamicPhase : after.dynamicPhase = before.dynamicPhase
  ends : before.status.inFlight = false → after.status.inFlight = false

theorem sameWork_of_progressed
    {before after : InvokeItem} (h : before.Progressed after) :
    SameWork before after := by
  obtain ⟨heq, hover⟩ := h
  refine ⟨?_, ?_, ?_, ?_, ?_, fun hsettled => ?_⟩
  · rw [heq]
  · rw [heq]
  · rw [heq]
  · rw [heq]
  · rw [heq]
  · rw [hover hsettled]
    exact hsettled

theorem SameWork.itemPhase_eq
    {before after : InvokeItem} (h : SameWork before after)
    (tasks : List CompiledTask) :
    itemPhase tasks after = itemPhase tasks before := by
  rw [itemPhase, itemPhase, h.dynamicPhase, h.taskIndex]

theorem SameWork.isReviewer_iff
    {before after : InvokeItem} (h : SameWork before after) :
    after.IsReviewer ↔ before.IsReviewer := by
  rw [InvokeItem.IsReviewer, InvokeItem.IsReviewer, h.dynamicPhase, h.id]

theorem map_id_of_sameWork
    {before after : List InvokeItem} (h : List.Forall₂ SameWork before after) :
    after.map (·.id) = before.map (·.id) := by
  induction h with
  | nil => rfl
  | cons hhead _ ih => rw [List.map_cons, List.map_cons, hhead.id, ih]

/-! ## Steps keep the invariant -/

section Steps

variable {plan : RunPlan} {world : World} {state : CompiledState}
  {stateId : String} {tasks : List CompiledTask}
  {execution : StageExecutionId} {db after : Database}

theorem not_isOver_of_inProgress (h : InProgress db execution) :
    ¬db.IsOver execution := by
  obtain ⟨row, hrow, hid, hopen⟩ := h
  intro hover
  rw [StageExecution.IsOpen, hover row hrow hid] at hopen
  exact Bool.noConfusion hopen

theorem isPostApproval_of_asksApprovals
    (h : AsksApprovals db after) :
    isPostApproval state stateId after = isPostApproval state stateId db := by
  have hany : ∀ {x y : List ApprovalRow},
      Relation.ReflTransGen AsksApproval x y →
        (y.any fun row => row.stageId = stateId ∧ row.decision = .granted) =
          x.any fun row => row.stageId = stateId ∧ row.decision = .granted := by
    intro x y hxy
    induction hxy with
    | refl => rfl
    | tail _ hstep ih =>
        obtain ⟨asked, rfl⟩ := hstep
        rw [List.any_append, ih]
        simp
  unfold isPostApproval
  rw [hany h]

/-- A step queues every invocation under a new key. -/
theorem nodup_stageInvokes_of_stepEffect
    {bare : String → Prop} {acting : StageExecutionId}
    (h : StepEffect bare acting db after)
    (hnodup : ((db.stageInvokes execution).map (·.id)).Nodup) :
    ((after.stageInvokes execution).map (·.id)).Nodup := by
  have hgrow : ∀ {x y : List InvokeItem},
      Relation.ReflTransGen (fun x y => ∃ other,
        (other = acting ∨ db.stages.length ≤ other) ∧ Enqueues other x y) x y →
      ((x.filter fun item => item.stageExecutionId = execution).map
        (·.id)).Nodup →
      ((y.filter fun item => item.stageExecutionId = execution).map
        (·.id)).Nodup := by
    intro x y hxy hx
    induction hxy with
    | refl => exact hx
    | tail _ hstep ih =>
        obtain ⟨other, -, item, -, hfresh, rfl⟩ := hstep
        rw [List.filter_append, List.map_append, List.nodup_append]
        refine ⟨ih, ?_, ?_⟩
        · by_cases hown : item.stageExecutionId = execution
          · simp [hown]
          · simp [hown]
        · intro id hid other hother heq
          obtain ⟨old, hold, rfl⟩ := List.mem_map.mp hid
          obtain ⟨queued, hqueued, rfl⟩ := List.mem_map.mp hother
          rw [List.mem_singleton.mp (List.mem_of_mem_filter hqueued)] at heq
          exact hfresh old (List.mem_of_mem_filter hold) heq
  exact hgrow h.invokes hnodup

/-- What a step keeps about the place of an execution. -/
theorem located_of_stepEffect
    (hloc : Located state stateId tasks execution db)
    {bare : String → Prop} {acting : StageExecutionId}
    (h : StepEffect bare acting db after)
    (hkeys : ∀ item ∈ after.invokes,
      item.stageExecutionId = execution ↔ item.id.execution = execution)
    (hindexed : ∀ item ∈ after.stageInvokes execution, ∀ i,
      item.id = .task execution i →
        item.taskIndex = i ∧ item.dynamicPhase = none)
    (hpending : ∀ row ∈ after.stages, row.id = execution →
      row.status = .pending → after.stageInvokes execution = []) :
    Located state stateId tasks execution after := by
  refine ⟨h.numbered hloc.numbered, hloc.inRange.trans_le h.length_le, ?_, ?_,
    hkeys, hindexed, hpending⟩
  · intro row hrow hid
    obtain ⟨old, hold, holdId, holdState⟩ :=
      h.exists_old hloc.numbered hrow (hid ▸ hloc.inRange)
    rw [← holdState, hloc.ofState old hold (holdId.trans hid)]
  · rw [isPostApproval_of_asksApprovals h.approvals]
    exact hloc.effective

namespace PhaseInvariant

/-- A step that queues nothing for the execution. -/
theorem quiet
    (hinv : PhaseInvariant state stateId tasks execution db)
    {bare : String → Prop} {acting : StageExecutionId}
    (heffect : StepEffect bare acting db after)
    (hqueue : QueuesNothing execution db after) {completes : Prop}
    (hrow : KeepsRow execution completes db after) :
    PhaseInvariant state stateId tasks execution after := by
  have hitems := hqueue.stageInvokes_eq
  have hreviewers : HasReviewers after execution ↔ HasReviewers db execution := by
    rw [HasReviewers, HasReviewers, hitems]
  have hprogress : InProgress after execution → InProgress db execution := by
    rintro ⟨row, hmem, hid, hopen⟩
    obtain hold | ⟨-, hold, -⟩ := hrow row hmem hid
    · exact ⟨row, hold, hid, hopen⟩
    · exact hold hopen
  have hloc : Located state stateId tasks execution after := by
    refine located_of_stepEffect hinv.toLocated heffect ?_ ?_ ?_
    · obtain ⟨new, hnew, hothers⟩ := hqueue
      rw [hnew]
      intro item hitem
      obtain hitem | hitem := List.mem_append.mp hitem
      · exact hinv.keys item hitem
      · exact iff_of_false (hothers item hitem).1 (hothers item hitem).2
    · rw [hitems]
      exact hinv.indexed
    · intro row hmem hid hpending
      rw [hitems]
      obtain hold | ⟨hstarted, -, -⟩ := hrow row hmem hid
      · exact hinv.pendingEmpty row hold hid hpending
      · simp [hpending, StageStatus.isStarted] at hstarted
  refine ⟨hloc, ?_, ?_, ?_, ?_, ?_, ?_⟩
  · rw [hitems]
    exact hinv.nodup
  · rw [hitems]
    exact hinv.kinds
  · rw [hitems, hreviewers]
    exact hinv.exclusive
  · rw [hitems]
    exact hinv.alone
  · rw [hitems]
    intro hafter item hitem phase hphase j task htask hle hdue
    rw [hqueue.queued_iff]
    refine hinv.ordered (hprogress hafter) item hitem phase hphase j task htask
      hle ?_
    rwa [Due, hreviewers] at hdue
  · rw [hitems]
    exact hinv.lowerOver

/-- The rows after a batch was queued. -/
theorem located_of_batch
    (hinv : PhaseInvariant state stateId tasks execution db)
    {bare : String → Prop} {acting : StageExecutionId}
    (heffect : StepEffect bare acting db after)
    {stage : StageExecution} (hid : stage.id = execution) {past : Prop}
    {phase : Nat} {new : List InvokeItem}
    (hbatch : Batch tasks stage past phase new)
    (hnew : after.invokes = db.invokes ++ new)
    (hstarted : ∀ row ∈ after.stages, row.id = execution →
      row.status.isStarted = true) :
    Located state stateId tasks execution after ∧
      after.stageInvokes execution = db.stageInvokes execution ++ new := by
  have hitems : after.stageInvokes execution =
      db.stageInvokes execution ++ new := by
    rw [Database.stageInvokes, hnew, List.filter_append]
    congr 1
    refine List.filter_eq_self.mpr fun item hitem => ?_
    rw [decide_eq_true_eq, (hbatch.belongsTo hitem).1, hid]
  refine ⟨located_of_stepEffect hinv.toLocated heffect ?_ ?_ ?_, hitems⟩
  · rw [hnew]
    intro item hitem
    obtain hitem | hitem := List.mem_append.mp hitem
    · exact hinv.keys item hitem
    · obtain ⟨hpayload, hkey⟩ := hbatch.belongsTo hitem
      exact iff_of_true (hpayload.trans hid) (hkey.trans hid)
  · rw [hitems]
    intro item hitem i hitemId
    obtain hitem | hitem := List.mem_append.mp hitem
    · exact hinv.indexed item hitem i hitemId
    · obtain ⟨hreviewer, -⟩ | ⟨j, task, rfl, -⟩ | ⟨-, agentId, rfl⟩ :=
        hbatch.item_cases hitem
      · exact absurd hitemId (hreviewer.2 execution i)
      · exact ⟨(InvokeItemId.task.inj hitemId).2, rfl⟩
      · exact ⟨(InvokeItemId.task.inj hitemId).2, rfl⟩
  · intro row hrow hrowId hpending
    have := hstarted row hrow hrowId
    simp [hpending, StageStatus.isStarted] at this

theorem itemPhase_taskItem
    {stage : StageExecution} {i totalTasks : Nat} {agentId : String}
    {task : CompiledTask} (htask : tasks[i]? = some task) :
    itemPhase tasks (taskItem stage agentId i totalTasks) =
      some task.phase := by
  simp [itemPhase, taskItem, htask]

theorem itemPhase_reviewer {item : InvokeItem} (h : item.IsReviewer) :
    itemPhase tasks item = some 0 := by
  simp [itemPhase, h.1]

/-- Every invocation of a batch that has a phase has the phase of the batch. -/
theorem itemPhase_of_batch
    {stage : StageExecution} {past : Prop} {phase : Nat}
    {new : List InvokeItem} (hbatch : Batch tasks stage past phase new)
    {item : InvokeItem} (hitem : item ∈ new) {p : Nat}
    (hp : itemPhase tasks item = some p) : p = phase := by
  obtain ⟨hreviewer, -, rfl, -⟩ | ⟨i, task, rfl, htask, rfl⟩ |
    ⟨rfl, agentId, rfl⟩ := hbatch.item_cases hitem
  · rw [itemPhase_reviewer hreviewer] at hp
    exact (Option.some.inj hp).symm
  · rw [itemPhase_taskItem htask] at hp
    exact (Option.some.inj hp).symm
  · simp [itemPhase, taskItem] at hp

/-- What an invocation of a batch stands for. -/
theorem kinds_of_batch
    {stage : StageExecution} (hid : stage.id = execution) {past : Prop}
    {phase : Nat} {new : List InvokeItem}
    (hbatch : Batch tasks stage past phase new) {item : InvokeItem}
    (hitem : item ∈ new) :
    item.IsReviewer ∨
      (item.totalTasks = tasks.length ∧
        ∃ task, StandsFor tasks execution item task) ∨
      (tasks = [] ∧ item.id = .task execution 0) := by
  subst hid
  obtain ⟨hreviewer, -⟩ | ⟨i, task, rfl, htask, -⟩ | ⟨htasks, agentId, rfl⟩ :=
    hbatch.item_cases hitem
  · exact .inl hreviewer
  · exact .inr (.inl ⟨rfl, task, i, rfl, htask⟩)
  · exact .inr (.inr ⟨htasks, rfl⟩)

/-- The first batch of an execution. -/
theorem firstBatch
    (hinv : PhaseInvariant state stateId tasks execution db)
    {bare : String → Prop} {acting : StageExecutionId}
    (heffect : StepEffect bare acting db after)
    {stage : StageExecution} (hid : stage.id = execution)
    (hempty : db.stageInvokes execution = [])
    (hdispatch : Dispatches tasks stage 0 db after)
    (hstarted : ∀ row ∈ after.stages, row.id = execution →
      row.status.isStarted = true) :
    PhaseInvariant state stateId tasks execution after := by
  obtain ⟨new, hbatch, hnew⟩ := hdispatch
  obtain ⟨hloc, hitems⟩ :=
    hinv.located_of_batch heffect hid hbatch hnew hstarted
  rw [hempty, List.nil_append] at hitems
  refine ⟨hloc, nodup_stageInvokes_of_stepEffect heffect hinv.nodup, ?_, ?_,
    ?_, ?_, ?_⟩
  · rw [hitems]
    exact fun item hitem => kinds_of_batch hid hbatch hitem
  · rw [HasReviewers, hitems]
    rintro ⟨reviewer, hmem, hreviewer⟩ item hitem
    obtain ⟨-, -, -, -, hall⟩ | ⟨i, task, rfl, -⟩ | ⟨-, agentId, rfl⟩ :=
      hbatch.item_cases hmem
    · exact .inl (hall item hitem)
    · exact absurd rfl (hreviewer.2 stage.id i)
    · exact absurd rfl (hreviewer.2 stage.id 0)
  · rw [hitems]
    intro item hitem hreviewer htotal
    obtain ⟨-, -, -, hlength, -⟩ | ⟨i, task, rfl, -⟩ | ⟨-, agentId, rfl⟩ :=
      hbatch.item_cases hitem
    · have hpos : 0 < new.length := List.length_pos_of_mem hitem
      refine ⟨by omega, fun other hother _ => ?_⟩
      obtain ⟨only, rfl⟩ := List.length_eq_one_iff.mp
        (by omega : new.length = 1)
      rw [List.mem_singleton.mp hitem, List.mem_singleton.mp hother]
    · exact absurd rfl (hreviewer.2 stage.id i)
    · exact absurd rfl (hreviewer.2 stage.id 0)
  · intro hprogress item hitem phase hphase j task htask hle hdue
    rw [hitems] at hitem
    obtain rfl := itemPhase_of_batch hbatch hitem hphase
    obtain ⟨hreviewer, -⟩ | ⟨i, first, heq, hfirst, -⟩ | ⟨rfl, -⟩ :=
      hbatch.item_cases hitem
    · -- a reviewer stands in for the tasks of the first phase
      refine absurd ?_ (hdue.resolve_left (by omega))
      exact ⟨item, by rw [hitems]; exact hitem, hreviewer⟩
    · have hover := not_isOver_of_inProgress (hid ▸ hprogress)
      obtain ⟨queued, hqueued, hqueuedId⟩ :=
        hbatch.whole hover hitem heq hfirst htask (by omega)
      refine ⟨queued, ?_, by rw [hqueuedId, hid]⟩
      rw [hnew]
      exact List.mem_append_right _ hqueued
    · simp at htask
  · rw [hitems]
    intro item hitem later hlater p q hp hq hlt
    obtain rfl := itemPhase_of_batch hbatch hitem hp
    obtain rfl := itemPhase_of_batch hbatch hlater hq
    exact absurd hlt (lt_irrefl _)

/-- The batch of the next phase. -/
theorem nextBatch
    (hinv : PhaseInvariant state stateId tasks execution db)
    {bare : String → Prop} {acting : StageExecutionId}
    (heffect : StepEffect bare acting db after)
    {stage : StageExecution} (hstage : stage ∈ db.stages)
    (hid : stage.id = execution) (hopen : stage.IsOpen) {phase : Nat}
    (hsucceeded : Succeeded db execution)
    (hnext : nextPhase tasks (currentPhase tasks (db.stageInvokes execution)) =
      some phase)
    (hdispatch : Dispatches tasks stage phase db after)
    (hstarted : ∀ row ∈ after.stages, row.id = execution →
      row.status.isStarted = true)
    (hlower : ∀ j task, tasks[j]? = some task → task.phase < phase →
      Due db execution task → Queued db execution j) :
    PhaseInvariant state stateId tasks execution after := by
  obtain ⟨new, hbatch, hnew⟩ := hdispatch
  obtain ⟨hloc, hitems⟩ :=
    hinv.located_of_batch heffect hid hbatch hnew hstarted
  have hpos := lt_of_nextPhase hnext
  -- the batch holds tasks only
  have htasks : ∀ item ∈ new, ∃ i task,
      item = taskItem stage task.agent.agentId i tasks.length ∧
        tasks[i]? = some task ∧ task.phase = phase := by
    intro item hitem
    obtain ⟨-, -, hzero, -⟩ | htask | ⟨rfl, -⟩ := hbatch.item_cases hitem
    · omega
    · exact htask
    · simp [nextPhase] at hnext
  have hnoReviewer : ∀ item ∈ new, ¬item.IsReviewer := by
    intro item hitem hreviewer
    obtain ⟨i, task, rfl, -⟩ := htasks item hitem
    exact hreviewer.2 stage.id i rfl
  have hreviewers : HasReviewers after execution ↔
      HasReviewers db execution := by
    rw [HasReviewers, HasReviewers, hitems]
    constructor
    · rintro ⟨item, hitem, hreviewer⟩
      obtain hitem | hitem := List.mem_append.mp hitem
      · exact ⟨item, hitem, hreviewer⟩
      · exact absurd hreviewer (hnoReviewer item hitem)
    · rintro ⟨item, hitem, hreviewer⟩
      exact ⟨item, List.mem_append_left _ hitem, hreviewer⟩
  have hqueued : ∀ j, Queued db execution j → Queued after execution j := by
    rintro j ⟨item, hitem, hitemId⟩
    exact ⟨item, by rw [hnew]; exact List.mem_append_left _ hitem, hitemId⟩
  refine ⟨hloc, nodup_stageInvokes_of_stepEffect heffect hinv.nodup, ?_, ?_,
    ?_, ?_, ?_⟩
  · rw [hitems]
    intro item hitem
    obtain hitem | hitem := List.mem_append.mp hitem
    · exact hinv.kinds item hitem
    · exact kinds_of_batch hid hbatch hitem
  · rw [hreviewers, hitems]
    intro hold item hitem
    obtain hitem | hitem := List.mem_append.mp hitem
    · exact hinv.exclusive hold item hitem
    · obtain ⟨i, task, rfl, htask, rfl⟩ := htasks item hitem
      refine .inr ⟨task, ⟨i, ?_, htask⟩, by omega⟩
      rw [← hid]
      rfl
  · rw [hitems]
    intro item hitem hreviewer htotal
    obtain hitem | hitem := List.mem_append.mp hitem
    · obtain ⟨hlater, honly⟩ := hinv.alone item hitem hreviewer htotal
      refine ⟨hlater, fun other hother hotherReviewer => ?_⟩
      obtain hother | hother := List.mem_append.mp hother
      · exact honly other hother hotherReviewer
      · exact absurd hotherReviewer (hnoReviewer other hother)
    · exact absurd hreviewer (hnoReviewer item hitem)
  · intro hprogress item hitem p hp j task htask hle hdue
    have hdueBefore : Due db execution task := by
      rwa [Due, hreviewers] at hdue
    rw [hitems] at hitem
    obtain hitem | hitem := List.mem_append.mp hitem
    · exact hqueued j (hinv.ordered ⟨stage, hstage, hid, hopen⟩ item hitem p hp
        j task htask hle hdueBefore)
    · obtain rfl := itemPhase_of_batch hbatch hitem hp
      obtain hlt | heq := hle.lt_or_eq
      · exact hqueued j (hlower j task htask hlt hdueBefore)
      · obtain ⟨i, first, hfirst, hfirstTask, -⟩ := htasks item hitem
        have hover := not_isOver_of_inProgress (hid ▸ hprogress)
        obtain ⟨queued, hmem, hqueuedId⟩ :=
          hbatch.whole hover hitem hfirst hfirstTask htask heq
        refine ⟨queued, ?_, by rw [hqueuedId, hid]⟩
        rw [hnew]
        exact List.mem_append_right _ hmem
  · rw [hitems]
    intro item hitem later hlater p q hp hq hlt
    obtain hitem | hitem := List.mem_append.mp hitem
    · exact (hsucceeded item hitem).1
    · obtain rfl := itemPhase_of_batch hbatch hitem hp
      obtain hlater | hlater := List.mem_append.mp hlater
      · have := le_currentPhase hlater hq
        omega
      · obtain rfl := itemPhase_of_batch hbatch hlater hq
        exact absurd hlt (lt_irrefl _)

/-- A task that a dispatch queued belongs to the phase of its batch. -/
theorem phase_of_dispatched
    {stage : StageExecution} {phase : Nat}
    (hdispatch : Dispatches tasks stage phase db after) {i : Nat}
    {task : CompiledTask} (htask : tasks[i]? = some task)
    (hafter : Queued after execution i) (hbefore : ¬Queued db execution i) :
    task.phase = phase := by
  obtain ⟨new, hbatch, hnew⟩ := hdispatch
  obtain ⟨item, hitem, hitemId⟩ := hafter
  rw [hnew] at hitem
  obtain hitem | hitem := List.mem_append.mp hitem
  · exact absurd ⟨item, hitem, hitemId⟩ hbefore
  · obtain ⟨hreviewer, -⟩ | ⟨j, other, rfl, hother, hphase⟩ | ⟨rfl, -⟩ :=
      hbatch.item_cases hitem
    · exact absurd hitemId (hreviewer.2 execution i)
    · obtain ⟨-, rfl⟩ := InvokeItemId.task.inj hitemId
      rw [htask] at hother
      rw [Option.some.inj hother, hphase]
    · simp at htask

/-- Below the next phase everything due is queued. -/
theorem queued_below_nextPhase
    (hinv : PhaseInvariant state stateId tasks execution db)
    (hprogress : InProgress db execution)
    (hnonempty : db.stageInvokes execution ≠ []) {current : Nat}
    (hcurrent : current = currentPhase tasks (db.stageInvokes execution))
    {j : Nat} {task : CompiledTask} (htask : tasks[j]? = some task)
    (hle : task.phase ≤ current) (hdue : Due db execution task) :
    Queued db execution j := by
  obtain ⟨item, hitem⟩ := List.exists_mem_of_ne_nil _ hnonempty
  have hphase : ∃ p, itemPhase tasks item = some p := by
    obtain hreviewer | ⟨-, other, i, hitemId, hother⟩ | ⟨rfl, -⟩ :=
      hinv.kinds item hitem
    · exact ⟨0, itemPhase_reviewer hreviewer⟩
    · obtain ⟨hindex, hdynamic⟩ := hinv.indexed item hitem i hitemId
      exact ⟨other.phase, by simp [itemPhase, hindex, hdynamic, hother]⟩
    · simp at htask
  obtain ⟨p, hp⟩ := hphase
  obtain ⟨top, htop, htopPhase⟩ := exists_currentPhase hitem hp
  exact hinv.ordered hprogress top htop _ htopPhase j task htask
    (hcurrent ▸ hle) hdue

/-- A step of the orchestrator. -/
theorem advanceRun
    (hinv : PhaseInvariant state stateId tasks execution db)
    (hstate : plan.state? stateId = some state)
    (hgate : state.isManualGate = true → state.dynamicParallel = none)
    (hwhole : ∀ phase, ¬StopsMidway world (tasksOfPhase tasks phase)) :
    PhaseInvariant state stateId tasks execution
      (advanceRun plan world db).database := by
  obtain ⟨bare, acting, heffect⟩ := stepEffect_advanceRun plan world db
  have hstep := executionStep_advanceRun hinv.toLocated hstate hgate hwhole
  cases hstep with
  | quiet hqueue hrow => exact hinv.quiet heffect hqueue hrow
  | dispatched stage hstage hid hopen phase hphase hdispatch hrow hstarted =>
      obtain ⟨rfl, hempty⟩ | ⟨hsucceeded, hnonempty, hnext⟩ := hphase
      · exact hinv.firstBatch heffect hid hempty hdispatch hstarted
      · refine hinv.nextBatch heffect hstage hid hopen hsucceeded hnext
          hdispatch hstarted fun j task htask hlt hdue => ?_
        exact hinv.queued_below_nextPhase ⟨stage, hstage, hid, hopen⟩ hnonempty
          rfl htask
          (le_of_lt_nextPhase hnext (List.mem_of_getElem? htask) hlt) hdue

/-- The work of the workers keeps everything but statuses and claims. -/
theorem of_progress
    (hinv : PhaseInvariant state stateId tasks execution db)
    (hstages : after.stages = db.stages)
    (happrovals : after.approvals = db.approvals)
    (hprogress : List.Forall₂ InvokeItem.Progressed db.invokes after.invokes) :
    PhaseInvariant state stateId tasks execution after := by
  have hall : List.Forall₂ SameWork db.invokes after.invokes :=
    hprogress.imp fun _ _ => sameWork_of_progressed
  have hown : List.Forall₂ SameWork (db.stageInvokes execution)
      (after.stageInvokes execution) := by
    refine List.rel_filter ?_ hall
    intro a b hab
    simp [hab.stageExecutionId]
  have hback : ∀ {item}, item ∈ after.stageInvokes execution →
      ∃ old ∈ db.stageInvokes execution, SameWork old item :=
    fun hitem => exists_left_of_forall₂ hown hitem
  have hids : (after.stageInvokes execution).map (·.id) =
      (db.stageInvokes execution).map (·.id) := map_id_of_sameWork hown
  have hreviewers : HasReviewers after execution → HasReviewers db execution := by
    rintro ⟨item, hitem, hreviewer⟩
    obtain ⟨old, hold, hsame⟩ := hback hitem
    exact ⟨old, hold, hsame.isReviewer_iff.mp hreviewer⟩
  have hreviewersBack : HasReviewers db execution →
      HasReviewers after execution := by
    rintro ⟨item, hitem, hreviewer⟩
    obtain ⟨new, hnew, hsame⟩ := exists_right_of_forall₂ hown hitem
    exact ⟨new, hnew, hsame.isReviewer_iff.mpr hreviewer⟩
  have hempty : db.stageInvokes execution = [] →
      after.stageInvokes execution = [] := by
    intro hnone
    rw [hnone] at hown
    exact List.forall₂_nil_left_iff.mp hown
  refine ⟨⟨?_, ?_, ?_, ?_, ?_, ?_, ?_⟩, ?_, ?_, ?_, ?_, ?_, ?_⟩
  · rw [Database.IsNumbered, hstages]
    exact hinv.numbered
  · rw [hstages]
    exact hinv.inRange
  · rw [hstages]
    exact hinv.ofState
  · have hpost : isPostApproval state stateId after =
        isPostApproval state stateId db := by
      rw [isPostApproval, isPostApproval, happrovals]
    rw [hpost]
    exact hinv.effective
  · intro item hitem
    obtain ⟨old, hold, hsame⟩ := exists_left_of_forall₂ hall hitem
    rw [hsame.stageExecutionId, hsame.id]
    exact hinv.keys old hold
  · intro item hitem i hid
    obtain ⟨old, hold, hsame⟩ := hback hitem
    rw [hsame.taskIndex, hsame.dynamicPhase]
    exact hinv.indexed old hold i (hsame.id ▸ hid)
  · rw [hstages]
    intro row hrow hid hpending
    exact hempty (hinv.pendingEmpty row hrow hid hpending)
  · rw [hids]
    exact hinv.nodup
  · intro item hitem
    obtain ⟨old, hold, hsame⟩ := hback hitem
    rw [hsame.isReviewer_iff, hsame.totalTasks, hsame.id]
    obtain hreviewer | ⟨htotal, task, i, hid, htask⟩ | howner :=
      hinv.kinds old hold
    · exact .inl hreviewer
    · exact .inr (.inl ⟨htotal, task, i, hsame.id.trans hid, htask⟩)
    · exact .inr (.inr howner)
  · intro hafter item hitem
    obtain ⟨old, hold, hsame⟩ := hback hitem
    rw [hsame.isReviewer_iff]
    obtain hreviewer | ⟨task, ⟨i, hid, htask⟩, hpos⟩ :=
      hinv.exclusive (hreviewers hafter) old hold
    · exact .inl hreviewer
    · exact .inr ⟨task, ⟨i, hsame.id.trans hid, htask⟩, hpos⟩
  · intro item hitem hreviewer htotal
    obtain ⟨old, hold, hsame⟩ := hback hitem
    obtain ⟨hlater, honly⟩ := hinv.alone old hold
      (hsame.isReviewer_iff.mp hreviewer) (hsame.totalTasks ▸ htotal)
    refine ⟨hlater, fun other hother hotherReviewer => ?_⟩
    obtain ⟨oldOther, holdOther, hsameOther⟩ := hback hother
    rw [hsameOther.id, hsame.id]
    exact honly oldOther holdOther
      (hsameOther.isReviewer_iff.mp hotherReviewer)
  · intro hopen item hitem phase hphase j task htask hle hdue
    obtain ⟨old, hold, hsame⟩ := hback hitem
    rw [InProgress, hstages] at hopen
    rw [hsame.itemPhase_eq] at hphase
    obtain ⟨queued, hqueued, hid⟩ := hinv.ordered hopen old hold phase hphase j
      task htask hle (hdue.imp_right fun h => h ∘ hreviewersBack)
    obtain ⟨new, hnew, hsameNew⟩ := exists_right_of_forall₂ hall hqueued
    exact ⟨new, hnew, hsameNew.id.trans hid⟩
  · intro item hitem later hlater p q hp hq hlt
    obtain ⟨old, hold, hsame⟩ := hback hitem
    obtain ⟨oldLater, holdLater, hsameLater⟩ := hback hlater
    rw [hsame.itemPhase_eq] at hp
    rw [hsameLater.itemPhase_eq] at hq
    exact hsame.ends (hinv.lowerOver old hold oldLater holdLater p q hp hq hlt)

/-- Ending some execution from outside. -/
theorem settleStage
    (hinv : PhaseInvariant state stateId tasks execution db)
    (settledId : StageExecutionId) {status : StageStatus}
    (hterminal : status.isTerminal = true) :
    PhaseInvariant state stateId tasks execution
      (db.setStageStatus settledId status) := by
  have heffect : StepEffect (fun _ => False) settledId db
      (db.setStageStatus settledId status) := .setStageStatus db status
  have hrow : KeepsRow execution True db
      (db.setStageStatus settledId status) := by
    intro row hrow hid
    obtain ⟨old, hold, rfl⟩ := List.mem_map.mp hrow
    by_cases hsame : old.id = settledId
    · rw [if_pos hsame]
      refine .inr ⟨StageStatus.isStarted_of_isTerminal hterminal, ?_,
        fun _ => trivial⟩
      intro hopen
      rw [StageExecution.IsOpen, hterminal] at hopen
      exact Bool.noConfusion hopen
    · rw [if_neg hsame]
      exact .inl hold
  exact hinv.quiet heffect (.of_invokes_eq rfl) hrow

theorem recordActivity
    (hinv : PhaseInvariant state stateId tasks execution db)
    (activity : Activity) :
    PhaseInvariant state stateId tasks execution
      (recordActivity activity db) := by
  unfold Engine.recordActivity
  split_ifs with hprogress
  · exact hinv.of_progress rfl rfl hprogress
  · exact hinv

theorem finishSingleTask
    (hinv : PhaseInvariant state stateId tasks execution db)
    (activity : Activity) (item : InvokeItem) (completed : Bool) :
    PhaseInvariant state stateId tasks execution
      (finishSingleTask activity item completed db) := by
  unfold Engine.finishSingleTask
  by_cases hitem : item ∈ db.invokes ∧ item.status.inFlight ∧
      item.totalTasks ≤ 1
  · rw [if_pos hitem]
    refine (hinv.recordActivity activity).settleStage _ ?_
    cases completed <;> rfl
  · rw [if_neg hitem]
    exact hinv

end PhaseInvariant

end Steps

/-! ## The order of the phases -/

/-- A step of the orchestrator that leaves no phase of the tasks half queued, or
a settlement of work. -/
def Schedules (tasks : List CompiledTask) (_ : Database) : Event → Prop
  | .advance world => ∀ phase, ¬StopsMidway world (tasksOfPhase tasks phase)
  | .activity _ => True
  | .finishSingleTask _ _ _ => True
  | _ => False

/-- An execution of a state was opened and nothing was queued for it. -/
structure Opened
    (stateId : String) (execution : StageExecutionId) (db : Database) :
    Prop where
  numbered : db.IsNumbered
  inRange : execution < db.stages.length
  ofState : ∀ row ∈ db.stages, row.id = execution → row.stageId = stateId
  unused : ∀ item ∈ db.invokes,
    item.stageExecutionId ≠ execution ∧ item.id.execution ≠ execution

section Run

variable {plan : RunPlan} {state : CompiledState} {stateId : String}
  {tasks : List CompiledTask} {execution : StageExecutionId}
  {before : Database}

theorem phaseInvariant_of_opened
    {start : Database} (h : Opened stateId execution start)
    (htasks : tasks =
      effectiveTasks state (isPostApproval state stateId start)) :
    PhaseInvariant state stateId tasks execution start := by
  have hempty : start.stageInvokes execution = [] := by
    refine List.filter_eq_nil_iff.mpr fun item hitem => ?_
    simpa using (h.unused item hitem).1
  refine ⟨⟨h.numbered, h.inRange, h.ofState, htasks.symm, ?_, ?_, ?_⟩, ?_, ?_,
    ?_, ?_, ?_, ?_⟩
  · intro item hitem
    exact iff_of_false (h.unused item hitem).1 (h.unused item hitem).2
  all_goals simp [hempty]

/-- Every step of such a run keeps the invariant. -/
theorem PhaseInvariant.apply
    (hinv : PhaseInvariant state stateId tasks execution before)
    (hstate : plan.state? stateId = some state)
    (hgate : state.isManualGate = true → state.dynamicParallel = none)
    {event : Event} (hevent : Schedules tasks before event) :
    PhaseInvariant state stateId tasks execution (before.apply plan event) := by
  cases event with
  | advance world => exact hinv.advanceRun hstate hgate hevent
  | activity activity => exact hinv.recordActivity activity
  | finishSingleTask activity item completed =>
      exact hinv.finishSingleTask activity item completed
  | _ => exact hevent.elim

/-- Only the orchestrator queues a task, and only in its turn. -/
theorem PhaseInvariant.queued_in_turn
    (hinv : PhaseInvariant state stateId tasks execution before)
    (hstate : plan.state? stateId = some state)
    (hgate : state.isManualGate = true → state.dynamicParallel = none)
    {event : Event} (hevent : Schedules tasks before event) {i : Nat}
    {task : CompiledTask} (htask : tasks[i]? = some task)
    (hafter : Queued (before.apply plan event) execution i)
    (hbefore : ¬Queued before execution i) :
    Succeeded before execution ∧
      ∀ j other, tasks[j]? = some other → other.phase < task.phase →
        Due before execution other → Queued before execution j := by
  have hrecord : ∀ activity,
      Queued (Engine.recordActivity activity before) execution i →
        Queued before execution i := by
    intro activity
    unfold Engine.recordActivity
    split_ifs with hprogress
    · rintro ⟨item, hitem, hid⟩
      obtain ⟨old, hold, hsame⟩ := exists_left_of_forall₂ hprogress hitem
      exact ⟨old, hold, (sameWork_of_progressed hsame).id ▸ hid⟩
    · exact id
  cases event with
  | activity activity => exact absurd (hrecord activity hafter) hbefore
  | finishSingleTask activity item completed =>
      refine absurd ?_ hbefore
      unfold Database.apply Engine.finishSingleTask at hafter
      dsimp only at hafter
      by_cases hitem : item ∈ before.invokes ∧ item.status.inFlight ∧
          item.totalTasks ≤ 1
      · rw [if_pos hitem] at hafter
        exact hrecord activity hafter
      · rwa [if_neg hitem] at hafter
  | advance world =>
      have hstep := executionStep_advanceRun hinv.toLocated hstate hgate hevent
      cases hstep with
      | quiet hqueue => exact absurd ((hqueue.queued_iff i).mp hafter) hbefore
      | dispatched stage hstage hid hopen phase hphase hdispatch =>
          obtain ⟨rfl, hempty⟩ | ⟨hsucceeded, hnonempty, hnext⟩ := hphase
          · refine ⟨by simp [Succeeded, hempty], fun j other _ hlt => ?_⟩
            -- the first batch holds tasks of phase 0 only
            have hzero := PhaseInvariant.phase_of_dispatched hdispatch htask hafter
              hbefore
            omega
          · have hphase := PhaseInvariant.phase_of_dispatched hdispatch htask hafter
              hbefore
            refine ⟨hsucceeded, fun j other hother hlt hdue => ?_⟩
            exact hinv.queued_below_nextPhase ⟨stage, hstage, hid, hopen⟩
              hnonempty rfl hother (le_of_lt_nextPhase hnext
                (List.mem_of_getElem? hother) (hphase ▸ hlt)) hdue
  | _ => exact hevent.elim

/-- A running execution with nothing left to do has run all its phases. -/
theorem PhaseInvariant.ready_spec
    (hinv : PhaseInvariant state stateId tasks execution before)
    {stage : StageExecution} (hstage : stage ∈ before.stages)
    (hid : stage.id = execution) (hopen : stage.IsOpen)
    (hready : readyToComplete stateId state stage before = true) :
    Succeeded before execution ∧
      ∀ j other, tasks[j]? = some other → Due before execution other →
        Queued before execution j := by
  unfold readyToComplete at hready
  dsimp only at hready
  rw [hid, hinv.effective, Bool.and_eq_true, Bool.and_eq_true] at hready
  obtain ⟨⟨hnonempty, hsettled⟩, hphases⟩ := hready
  have hnone : nextPhase tasks
      (currentPhase tasks (before.stageInvokes execution)) = none := by
    cases hnext : nextPhase tasks
        (currentPhase tasks (before.stageInvokes execution)) with
    | none => rfl
    | some phase =>
        rw [hnext, Option.all_some, phaseEnqueued, List.any_eq_true] at hphases
        obtain ⟨item, hitem, hphase⟩ := hphases
        have hle := le_currentPhase hitem (by simpa using hphase)
        have hlt := lt_of_nextPhase hnext
        omega
  constructor
  · intro item hitem
    have := List.all_eq_true.mp hsettled item hitem
    simpa [and_assoc] using this
  · intro j other hother hdue
    exact hinv.queued_below_nextPhase ⟨stage, hstage, hid, hopen⟩
      (by simpa using hnonempty) rfl hother
      (le_of_nextPhase_eq_none hnone (List.mem_of_getElem? hother)) hdue

/-- The only task of an execution is queued and nothing else is in flight. -/
theorem PhaseInvariant.single_spec
    (hinv : PhaseInvariant state stateId tasks execution before)
    {item : InvokeItem} (hitem : item ∈ before.stageInvokes execution)
    (htotal : item.totalTasks ≤ 1) :
    (∀ j other, tasks[j]? = some other → Due before execution other →
      Queued before execution j) ∧
    ∀ other ∈ before.stageInvokes execution, other.id ≠ item.id →
      other.status.inFlight = false := by
  obtain hreviewer | ⟨hlength, task, i, hid, htask⟩ | ⟨rfl, hid⟩ :=
    hinv.kinds item hitem
  · obtain ⟨hlater, honly⟩ := hinv.alone item hitem hreviewer htotal
    have hfirst : ∀ other ∈ tasks, ¬0 < other.phase := by
      intro other hother hpos
      have hmem : other ∈ tasks.filter fun task => 0 < task.phase :=
        List.mem_filter.mpr ⟨hother, by simpa using hpos⟩
      rw [List.length_eq_zero_iff.mp hlater] at hmem
      simp at hmem
    constructor
    · intro j other hother hdue
      obtain hpos | hnone := hdue
      · exact absurd hpos (hfirst other (List.mem_of_getElem? hother))
      · exact absurd ⟨item, hitem, hreviewer⟩ hnone
    · intro other hother hne
      obtain hotherReviewer | ⟨first, ⟨j, -, hfirstTask⟩, hpos⟩ :=
        hinv.exclusive ⟨item, hitem, hreviewer⟩ other hother
      · exact absurd (honly other hother hotherReviewer) hne
      · exact absurd hpos (hfirst first (List.mem_of_getElem? hfirstTask))
  · -- the list has one task
    have hone : ∀ j other, tasks[j]? = some other → j = 0 := by
      intro j other hother
      have := (List.getElem?_eq_some_iff.mp hother).1
      omega
    obtain rfl := hone i task htask
    constructor
    · intro j other hother _
      obtain rfl := hone j other hother
      exact ⟨item, List.mem_of_mem_filter hitem, hid⟩
    · intro other hother hne
      obtain hreviewer | ⟨-, first, j, hotherId, hfirst⟩ | ⟨rfl, -⟩ :=
        hinv.kinds other hother
      · -- the reviewers were over before the task was queued
        have hzero : itemPhase tasks other = some 0 :=
          itemPhase_reviewer hreviewer
        obtain hitemReviewer | ⟨later, ⟨j, hlaterId, hlaterTask⟩, hpos⟩ :=
          hinv.exclusive ⟨other, hother, hreviewer⟩ item hitem
        · exact absurd hid (hitemReviewer.2 execution 0)
        · obtain ⟨hindex, hdynamic⟩ := hinv.indexed item hitem j hlaterId
          have hphase : itemPhase tasks item = some later.phase := by
            simp [itemPhase, hindex, hdynamic, hlaterTask]
          exact hinv.lowerOver other hother item hitem 0 later.phase hzero
            hphase hpos
      · obtain rfl := hone j first hfirst
        exact absurd (hotherId.trans hid.symm) hne
      · simp at htask
  · constructor
    · intro j other hother
      simp at hother
    · intro other hother hne
      obtain hreviewer | ⟨-, first, j, -, hfirst⟩ | ⟨-, hotherId⟩ :=
        hinv.kinds other hother
      · obtain hitemReviewer | ⟨later, ⟨j, -, hlaterTask⟩, -⟩ :=
          hinv.exclusive ⟨other, hother, hreviewer⟩ item hitem
        · exact absurd hid (hitemReviewer.2 execution 0)
        · simp at hlaterTask
      · simp at hfirst
      · exact absurd (hotherId.trans hid.symm) hne

/-- An execution is completed by a step after all its phases, or by the worker
of its only task, or without tasks by design. -/
theorem PhaseInvariant.completed_spec
    (hinv : PhaseInvariant state stateId tasks execution before)
    (hstate : plan.state? stateId = some state)
    (hgate : state.isManualGate = true → state.dynamicParallel = none)
    {event : Event} (hevent : Schedules tasks before event)
    (hafter : HasStatus (before.apply plan event) execution .completed)
    (hbefore : ¬HasStatus before execution .completed) :
    (∃ world, event = .advance world ∧ CompletesWithoutTasks world state) ∨
    ((∀ j other, tasks[j]? = some other → Due before execution other →
        Queued before execution j) ∧
      (Succeeded before execution ∨
        ∃ activity item, event = .finishSingleTask activity item true ∧
          item ∈ before.stageInvokes execution ∧
          ∀ other ∈ before.stageInvokes execution, other.id ≠ item.id →
            other.status.inFlight = false)) := by
  obtain ⟨row, hrow, hid, hstatus⟩ := hafter
  have hold : row ∉ before.stages := fun h => hbefore ⟨row, h, hid, hstatus⟩
  cases event with
  | activity activity =>
      have hsame : (Engine.recordActivity activity before).stages =
          before.stages := by
        unfold Engine.recordActivity
        split_ifs <;> rfl
      exact absurd (hsame ▸ hrow) hold
  | finishSingleTask activity item completed =>
      have hsame : (Engine.recordActivity activity before).stages =
          before.stages := by
        unfold Engine.recordActivity
        split_ifs <;> rfl
      unfold Database.apply Engine.finishSingleTask at hrow
      dsimp only at hrow
      by_cases hitem : item ∈ before.invokes ∧ item.status.inFlight ∧
          item.totalTasks ≤ 1
      · rw [if_pos hitem] at hrow
        obtain ⟨old, holdRow, rfl⟩ := List.mem_map.mp hrow
        rw [hsame] at holdRow
        by_cases hown : old.id = item.stageExecutionId
        · rw [if_pos hown] at hid hstatus
          obtain rfl : completed = true := by
            by_contra hfalse
            simp [hfalse] at hstatus
          have hmem : item ∈ before.stageInvokes execution :=
            List.mem_filter.mpr ⟨hitem.1, by simpa [hown] using hid⟩
          obtain ⟨hqueued, hothers⟩ := hinv.single_spec hmem hitem.2.2
          exact .inr ⟨hqueued, .inr ⟨activity, item, rfl, hmem, hothers⟩⟩
        · rw [if_neg hown] at hold
          exact absurd holdRow hold
      · rw [if_neg hitem] at hrow
        exact absurd hrow hold
  | advance world =>
      have hstep := executionStep_advanceRun hinv.toLocated hstate hgate hevent
      cases hstep with
      | quiet hqueue hkeeps =>
          obtain h | ⟨-, -, hcompletes⟩ := hkeeps row hrow hid
          · exact absurd h hold
          · obtain hdesign | ⟨stage, hstage, hstageId, hopen, hready⟩ :=
              hcompletes hstatus
            · exact .inl ⟨world, rfl, hdesign⟩
            · obtain ⟨hsucceeded, hqueued⟩ :=
                hinv.ready_spec hstage hstageId hopen hready
              exact .inr ⟨hqueued, .inl hsucceeded⟩
      | dispatched stage hstage hstageId hopen phase hphase hdispatch hkeeps =>
          obtain h | ⟨-, -, hcompletes⟩ := hkeeps row hrow hid
          · exact absurd h hold
          · exact .inl ⟨world, rfl, hcompletes hstatus⟩
  | _ => exact hevent.elim

end Run

/--
The phases of one execution, over every interleaving of steps of the
orchestrator with settlements of its work.  A task is queued only when
everything queued before has settled without failure and every due task of a
lower phase was queued.  No invocation is queued twice.  The execution is
completed only when every due task was queued, and everything has settled
without failure or the worker of the only task reports its end, unless the
state completes without tasks by design.
-/
theorem phases_in_order
    (plan : RunPlan) (state : CompiledState) (stateId : String)
    (hstate : plan.state? stateId = some state)
    (hgate : state.isManualGate = true → state.dynamicParallel = none)
    (execution : StageExecutionId) (start : Database)
    (hopened : Opened stateId execution start)
    (events : List Event)
    (hrun : RunMeets plan (Schedules (effectiveTasks state
      (isPostApproval state stateId start))) start events)
    (next : Event)
    (hnext : Schedules (effectiveTasks state (isPostApproval state stateId start))
      (start.applyAll plan events) next) :
    let tasks := effectiveTasks state (isPostApproval state stateId start)
    let before := start.applyAll plan events
    let after := before.apply plan next
    (∀ i task, tasks[i]? = some task → Queued after execution i →
      ¬Queued before execution i →
      Succeeded before execution ∧
        ∀ j other, tasks[j]? = some other → other.phase < task.phase →
          Due before execution other → Queued before execution j) ∧
    ((after.stageInvokes execution).map (·.id)).Nodup ∧
    (HasStatus after execution .completed →
      ¬HasStatus before execution .completed →
      (∃ world, next = .advance world ∧ CompletesWithoutTasks world state) ∨
      ((∀ j other, tasks[j]? = some other → Due before execution other →
          Queued before execution j) ∧
        (Succeeded before execution ∨
          ∃ activity item, next = .finishSingleTask activity item true ∧
            item ∈ before.stageInvokes execution ∧
            ∀ other ∈ before.stageInvokes execution, other.id ≠ item.id →
              other.status.inFlight = false))) := by
  intro tasks before after
  have hinv : PhaseInvariant state stateId tasks execution before :=
    invariant_applyAll (fun _ _ h hevent => h.apply hstate hgate hevent)
      (phaseInvariant_of_opened hopened rfl) hrun
  refine ⟨?_, ?_, ?_⟩
  · intro i task htask hafter hbefore
    exact hinv.queued_in_turn hstate hgate hnext htask hafter hbefore
  · exact (hinv.apply hstate hgate hnext).nodup
  · intro hafter hbefore
    exact hinv.completed_spec hstate hgate hnext hafter hbefore

/-! ## A draft and its check -/

/-- A draft that is followed by a check. -/
def checkedState : CompiledState :=
  { plainState "review" [] with
    tasks :=
      [{ agent := { agentId := "drafter", provider := "acp" }
         taskName := "draft", parallel := true, phase := 0 },
        { agent := { agentId := "checker", provider := "acp" }
          taskName := "check", parallel := false, phase := 1 }] }

/-- The plan with this state alone. -/
def checkedPlan : RunPlan where
  initialState := "review"
  states := [("review", checkedState)]

/-- A run with one pending execution of the state. -/
def openedReview : Database where
  run := { status := .running, currentState := some "review" }
  stages :=
    [{ id := 0, stageId := "review", status := .pending, iteration := 1,
       attemptNumber := 1, startedAt := 0 }]

instance (db : Database) (execution : StageExecutionId) (taskIndex : Nat) :
    Decidable (Queued db execution taskIndex) :=
  inferInstanceAs (Decidable (∃ item ∈ db.invokes, _))

theorem opened_openedReview : Opened "review" 0 openedReview :=
  ⟨rfl, by decide, by decide, by decide⟩

theorem phases_in_order_check :
    let before := openedReview.applyAll checkedPlan
      [.advance (quietWorld 1),
        .activity (finishAll
          (openedReview.apply checkedPlan (.advance (quietWorld 1))))]
    let after := before.apply checkedPlan (.advance (quietWorld 2))
    Queued after 0 1 ∧ Succeeded before 0 ∧ Queued before 0 0 := by
  intro before after
  have hafter : Queued after 0 1 := by decide +kernel
  have hbefore : ¬Queued before 0 1 := by decide +kernel
  have hwhole : ∀ now phase, ¬StopsMidway (quietWorld now)
      (tasksOfPhase (effectiveTasks checkedState
        (isPostApproval checkedState "review" openedReview)) phase) :=
    fun _ _ => not_stopsMidway_of_checks (fun _ => rfl) _
  have hrun : RunMeets checkedPlan (Schedules (effectiveTasks checkedState
        (isPostApproval checkedState "review" openedReview))) openedReview
      [.advance (quietWorld 1),
        .activity (finishAll
          (openedReview.apply checkedPlan (.advance (quietWorld 1))))] :=
    ⟨hwhole 1, trivial, trivial⟩
  have horder := (phases_in_order checkedPlan checkedState "review" rfl nofun 0
    openedReview opened_openedReview _ hrun (.advance (quietWorld 2))
    (hwhole 2)).1
  obtain ⟨hsucceeded, hlower⟩ := horder 1 _ rfl hafter hbefore
  refine ⟨hafter, hsucceeded, hlower 0 _ rfl (by decide) (.inr ?_)⟩
  rintro ⟨item, hitem, hphase, -⟩
  have hstatic : ∀ item ∈ before.stageInvokes 0, item.dynamicPhase = none := by
    decide +kernel
  simp [hstatic item hitem] at hphase

/-- The state with both tasks in one phase. -/
def pairedPlan : RunPlan where
  initialState := "review"
  states :=
    [("review",
      { checkedState with
        tasks := checkedState.tasks.map fun task => { task with phase := 0 } })]

/-- A world in which the check before the second task fails. -/
def refusingWorld (now : Nat) : World :=
  { quietWorld now with
    beforeDispatch := fun i => if i = 1 then .error [] else .ok () }

instance (db : Database) (execution : StageExecutionId) (status : StageStatus) :
    Decidable (HasStatus db execution status) :=
  inferInstanceAs (Decidable (∃ row ∈ db.stages, _))

/-- A phase that stops midway is not taken up again: the execution is completed
without its second task. -/
example :
    let opened := openedReview.apply pairedPlan (.advance (refusingWorld 1))
    let after := openedReview.applyAll pairedPlan
      [.advance (refusingWorld 1), .activity (finishAll opened),
        .advance (quietWorld 2)]
    HasStatus after 0 .completed ∧ ¬Queued after 0 1 := by
  decide +kernel

/-- The state with selected reviewers in place of its draft. -/
def reviewedPlan : RunPlan where
  initialState := "review"
  states :=
    [("review",
      { checkedState with
        dynamicParallel := some
          { selectorArtifact := "plan", outputContract := "review"
            inputs := [] } })]
  dynamicCandidateBindings :=
    [{ bindingId := "b", agentId := "reviewer", resolvedAgentSnapshotJson := ""
       outputContracts := [], permissionHash := "", worktreeHash := ""
       mcpProfileHash := "", skillHash := "", routingMetadataHash := ""
       enabledForProposalReview := true, rolloutWave := ""
       catalogSnapshotHash := ""
       routingMetadata :=
         { routingId := "", family := "", capabilities := [], stackTags := []
           surfaces := [], risks := [], enabledForProposalReview := true
           rolloutWave := "" } }]

/-- A world whose routing selects the reviewer. -/
def reviewedWorld (now : Nat) : World :=
  { quietWorld now with
    selectionPlan := some (.ok
      { planHash := "h", selectedAgents := [{ agentId := "reviewer" }] }) }

/-- The check is queued although the draft of the lower phase never was: the
selected reviewer took its place. -/
theorem reviewers_replace_draft :
    let opened := openedReview.apply reviewedPlan (.advance (reviewedWorld 1))
    let after := openedReview.applyAll reviewedPlan
      [.advance (reviewedWorld 1), .activity (finishAll opened),
        .advance (reviewedWorld 2)]
    Queued after 0 1 ∧ ¬Queued after 0 0 := by
  decide +kernel

end ChainworksForge.Engine
