import ChainworksForge.Queue.Loops
import ChainworksForge.Queue.Sweeps

/-!
# Accepted work at startup

Three passes run over the running invocations at startup: the complete sweep, the
fail sweep and the startup requeue.  An invocation whose outputs the completion
guard accepts is selected by the complete sweep, unless one of the gates of that
sweep excludes it.  A selected invocation is completed, or it stays running when
the recovery ends early; so does one that the startup requeue keeps.
-/

namespace ChainworksForge.Queue

open ChainworksForge.Support

/-! ## What the completion guard accepts -/

section Guard

variable {db : Database} {item : WorkItem} {payload : Json} {now : Instant}

/-- The guard accepts the outputs of a running invocation. -/
def GuardAccepts (db : Database) (item : WorkItem) (now : Instant) : Prop :=
  ∃ guarded, validateRunningInvokeCompletionHasValidOutputs db item.id item.payload
    now = .ok guarded

/-- What the complete sweep asks of an accepted invocation.  It is not one that
the daemon queued for missing outputs, which a pass of its own handles; the retry
it belongs to is the one that was claimed; its execution has ended; and its
outputs come from a turn of that execution. -/
structure SweepGates (db : Database) (item : WorkItem) (payload : Json) : Prop where
  ordinary : isAutoContractOutputRetry item.id = false
  linked : hasConsistentRetryLinkage payload = true
  ended : ∀ execution ∈ db.agentExecutions.rows,
    claimedAgent payload = some execution.id.text → execution.status ≠ .running
  factsOfTurn : ∀ facts ∈ db.runtimeFacts.rows,
    claimedAgent payload = some facts.agentExecutionId.text →
      facts.outputSettlement ≠ .validOutputsFromRepair
  generationsOfTurn : ∀ generation ∈ db.contractGenerations,
    claimedAgent payload = some generation.sourceAgentExecutionId.text →
      generation.outputSettlement ≠ .validOutputsFromRepair

theorem nonBlank_eq_some {value : Option Text} {text : Text}
    (h : nonBlank value = some text) : value = some text :=
  (Option.filter_eq_some_iff.1 h).1

/-- What an accepted invocation has: a stage and an execution that its payload
names, and valid outputs of that execution. -/
theorem GuardAccepts.owns (haccepts : GuardAccepts db item now)
    (hfound : db.workItems.find item.id = some item) (hpayload : item.payload = some payload) :
    ∃ stage agent, payload.getStr "stage_execution_id" = some stage ∧
      claimedAgent payload = some agent ∧
      ownsValidOutputs db [.running, .completed, .failed] acceptedSettlements item stage
        agent := by
  obtain ⟨guarded, hguard⟩ := haccepts
  obtain ⟨owner, howner, hguard⟩ := (bind_eq_ok_iff _ _ _).1 hguard
  obtain ⟨_, hensure, _⟩ := (bind_eq_ok_iff _ _ _).1 hguard
  have hproves := of_decide_eq_true ((ensure_eq_ok_iff _ _ _).1 hensure)
  obtain ⟨read, hread, howner⟩ := (bind_eq_ok_iff _ _ _).1 howner
  obtain ⟨agent, hagent, howner⟩ := (bind_eq_ok_iff _ _ _).1 howner
  obtain ⟨runId, _, howner⟩ := (bind_eq_ok_iff _ _ _).1 howner
  obtain ⟨stage, hstage, howner⟩ := (bind_eq_ok_iff _ _ _).1 howner
  obtain rfl := (pure_eq_ok_iff _ _).1 howner
  obtain rfl : payload = read := by
    have hsome := (required_eq_ok_iff _ _ _).1 hread
    rw [hpayload] at hsome
    exact Option.some.inj hsome
  obtain ⟨row, hrow, hid, _, howns⟩ := hproves
  obtain rfl : row = item := by
    have hsame := db.workItems.find_of_mem hrow
    rw [hid, hfound] at hsame
    exact (Option.some.inj hsame).symm
  exact ⟨stage, agent, nonBlank_eq_some ((required_eq_ok_iff _ _ _).1 hstage),
    nonBlank_eq_some ((required_eq_ok_iff _ _ _).1 hagent), howns⟩

theorem mem_turnSettlements {settlement : AgentOutputSettlement}
    (haccepted : settlement ∈ acceptedSettlements)
    (hturn : settlement ≠ .validOutputsFromRepair) : settlement ∈ turnSettlements := by
  cases settlement <;> simp_all [acceptedSettlements, turnSettlements]

/-- The complete sweep selects every accepted invocation that passes its gates. -/
theorem completeSelects_of_accepts (haccepts : GuardAccepts db item now)
    (hfound : db.workItems.find item.id = some item)
    (hpayload : item.payload = some payload) (hgates : SweepGates db item payload) :
    completeSelects db item = true := by
  obtain ⟨stage, agent, hstage, hagent, stageExecution, hmem, htext, hrun, execution,
    hexecution, hname, hof, hstatus, hclaim, facts, hfacts, hfactsOf, hvalid⟩ :=
      haccepts.owns hfound hpayload
  have hnamed : claimedAgent payload = some execution.id.text := by
    rw [hagent, hname]
  have hended : execution.status ∈ [AgentStatus.completed, .failed] := by
    have hne := hgates.ended execution hexecution hnamed
    simpa [hne] using hstatus
  have hturn : hasValidOutputs db turnSettlements item stageExecution.id execution.id
      facts := by
    rcases hvalid with ⟨hsettled, hpositive⟩ |
      ⟨generation, hgeneration, hgrun, hgstage, hgagent, hgitem, hgsettled, hgvalid⟩ |
      hclean
    · refine .inl ⟨mem_turnSettlements hsettled ?_, hpositive⟩
      exact hgates.factsOfTurn facts hfacts (by rw [hfactsOf, hnamed])
    · refine .inr (.inl ⟨generation, hgeneration, hgrun, hgstage, hgagent, hgitem,
        mem_turnSettlements hgsettled ?_, hgvalid⟩)
      exact hgates.generationsOfTurn generation hgeneration (by rw [hgagent, hnamed])
    · exact .inr (.inr hclean)
  have howns : ownsValidOutputs db [.completed, .failed] turnSettlements item stage
      agent :=
    ⟨stageExecution, hmem, htext, hrun, execution, hexecution, hname, hof, hended,
      hclaim, facts, hfacts, hfactsOf, hturn⟩
  simp [completeSelects, hpayload, hgates.ordinary, hgates.linked, hstage, hagent, howns]

end Guard

/-! ## Sweeps -/

section Sweeps

variable {db db' : Database} {item : WorkItem} {now : Instant}

/-- What every transaction of a sweep preserves holds after the sweep. -/
theorem settleAll_preserves {settle : Database → Text → Except Text Database}
    {P : Database → Prop} {ids : List Text}
    (hstep : ∀ db id db', id ∈ ids → P db → settle db id = .ok db' → P db')
    (hdb : P db) : P (settleAll settle ids db).1 := by
  induction ids generalizing db with
  | nil => exact hdb
  | cons id rest ih =>
      rw [settleAll]
      cases hsettle : settle db id with
      | error e => exact hdb
      | ok settled =>
          exact ih (fun db id db' hid => hstep db id db' (List.mem_cons_of_mem _ hid))
            (hstep db id settled List.mem_cons_self hdb hsettle)

/-- A sweep that ends well settles every item that it has selected. -/
theorem settleAll_settles {settle : Database → Text → Except Text Database}
    (Pending Settled : Database → Prop) {ids : List Text} {id : Text} (hid : id ∈ ids)
    (hother : ∀ db other db', other ≠ id → Pending db → settle db other = .ok db' →
      Pending db')
    (hsettle : ∀ db db', Pending db → settle db id = .ok db' → Settled db')
    (hsettled : ∀ db other db', Settled db → settle db other = .ok db' → Settled db')
    (hdb : Pending db) :
    (Pending (settleAll settle ids db).1 ∨ Settled (settleAll settle ids db).1) ∧
      ((settleAll settle ids db).2 = true → Settled (settleAll settle ids db).1) := by
  induction ids generalizing db with
  | nil => cases hid
  | cons first rest ih =>
      rw [settleAll]
      cases hfirst : settle db first with
      | error e => exact ⟨.inl hdb, fun h => Bool.noConfusion h⟩
      | ok changed =>
          by_cases hsame : first = id
          · subst hsame
            have hrest : Settled (settleAll settle rest changed).1 :=
              settleAll_preserves (fun db other db' _ => hsettled db other db')
                (hsettle db changed hdb hfirst)
            exact ⟨.inr hrest, fun _ => hrest⟩
          · have hmem : id ∈ rest := (List.mem_cons.1 hid).resolve_left (Ne.symm hsame)
            exact ih hmem (hother db first changed hsame hdb hfirst)

/-- The item is completed. -/
def IsCompleted (db : Database) (id : Text) : Prop :=
  ∃ row, db.workItems.find id = some row ∧ row.status = .completed

/-- A settled item is left alone. -/
theorem IsCompleted.complete {id itemId : Text} {expected : Option Uuid}
    (hdone : IsCompleted db id)
    (hcomplete : completeAttemptWithCapacity db itemId expected now = .ok db') :
    IsCompleted db' id := by
  obtain ⟨row, hrow, hstatus⟩ := hdone
  refine ⟨row, ?_, hstatus⟩
  by_cases hid : id = itemId
  · subst hid
    rcases completeAttempt_cases hcomplete with rfl | ⟨target, htarget, _, _, hopen, _⟩
    · exact hrow
    · rw [hrow] at htarget
      obtain rfl := Option.some.inj htarget
      simp [WorkItem.isOpen, hstatus] at hopen
  · exact completeAttempt_find_of_ne hcomplete hid hrow

theorem IsCompleted.fail {id itemId error : Text} {expected : Option Uuid}
    (hdone : IsCompleted db id)
    (hfail : failAttemptWithCapacity db itemId error expected now = .ok db') :
    IsCompleted db' id := by
  obtain ⟨row, hrow, hstatus⟩ := hdone
  refine ⟨row, ?_, hstatus⟩
  by_cases hid : id = itemId
  · subst hid
    rcases failAttempt_cases hfail with rfl | ⟨target, htarget, _, _, hopen, _⟩
    · exact hrow
    · rw [hrow] at htarget
      obtain rfl := Option.some.inj htarget
      simp [WorkItem.isOpen, hstatus] at hopen
  · exact failAttempt_find_of_ne hfail hid hrow

/-- The startup requeue leaves alone what it does not select. -/
theorem requeueOnStartup_find_of_unselected {scheduledAt : Instant} {reason : Text}
    {id : Text} {row : WorkItem} (hrow : db.workItems.find id = some row)
    (hunselected : row.status = .running → startupRequeueSelects db row = false)
    (hrequeue : requeueRunningInvokeAgentOnStartup db scheduledAt reason = .ok db') :
    db'.workItems.find id = some row := by
  refine foldlM_preserves (P := fun db : Database => db.workItems.find id = some row)
    (fun _ other _ hmem hkept hhandled => ?_) hrow hrequeue
  have hne : id ≠ other.id := by
    rintro rfl
    obtain rfl : row = other := by
      rw [find_of_mem_runningInvokes hmem] at hrow
      exact (Option.some.inj hrow).symm
    obtain ⟨_, _, hrunning, hselected⟩ := mem_runningInvokes.1 hmem
    rw [hunselected hrunning] at hselected
    cases hselected
  exact (startupRequeueItem_find_of_ne hhandled hne).trans hkept

/-- A running invocation is completed by a sweep that reaches it. -/
theorem isCompleted_of_complete (hitem : FetchedInvoke db item)
    (hcomplete : completeAttemptWithCapacity db item.id none now = .ok db') :
    IsCompleted db' item.id := by
  have hopen : item.isOpen = true := by simp [WorkItem.isOpen, hitem.running]
  simp only [completeAttemptWithCapacity, hitem.found, matchesWorkItemAttempt, hopen,
    hitem.invoke, hitem.running, not_true_eq_false, and_self, if_true, if_false]
    at hcomplete
  have hmarked : (markCompleted db item.id now).workItems.find item.id =
      some { item with status := .completed, completedAt := some now } := by
    rw [markCompleted, Table.find_update, hitem.found, Option.map_some,
      if_pos (decide_eq_true ⟨rfl, hopen⟩)]
  exact ⟨_, completeRunningInvoke_find hcomplete hmarked, rfl⟩

end Sweeps

/-! ## Invocations that the startup requeue keeps -/

section Kept

variable {db db' : Database} {item : WorkItem} {payload : Json} {now : Instant}

/-- Queueing an advance leaves the executions and their facts. -/
theorem enqueueAdvance_frame {outcome : InvokeOutcome}
    (henqueue : enqueueAdvance db item outcome now = .ok db') :
    db'.agentExecutions = db.agentExecutions ∧ db'.runtimeFacts = db.runtimeFacts := by
  rcases enqueueAdvance_cases henqueue with
    ⟨_, rfl⟩ | ⟨runId, payload, stageId, authorities, _, rfl⟩
  · exact ⟨rfl, rfl⟩
  · exact ⟨rfl, rfl⟩

theorem claimedExecution_eq_some_iff {execution : AgentExecution} :
    claimedExecution db item = some execution ↔
      execution ∈ db.agentExecutions.rows ∧
        item.claimant = some execution.id.text := by
  rw [claimedExecution, Option.bind_eq_some_iff]
  constructor
  · rintro ⟨agent, hagent, hfind⟩
    obtain rfl : execution.id.text = agent := by simpa using List.find?_some hfind
    exact ⟨List.mem_of_find?_eq_some hfind, hagent⟩
  · rintro ⟨hmem, hagent⟩
    refine ⟨_, hagent, ?_⟩
    cases hfind : db.agentExecutions.rows.find?
        (fun other => other.id.text = execution.id.text) with
    | none =>
        have hnone := List.find?_eq_none.1 hfind execution hmem
        simp at hnone
    | some other =>
        have hsame : other.id = execution.id :=
          Uuid.text_injective (by simpa using List.find?_some hfind)
        rw [List.inj_on_of_nodup_map db.agentExecutions.distinct
          (List.mem_of_find?_eq_some hfind) hmem hsame]

/-- A targeted retry of a completed execution with valid outputs. -/
theorem keptByStartupRequeue_iff :
    keptByStartupRequeue db item payload = true ↔
      hasTargetedRetry payload = true ∧ ∃ execution ∈ db.agentExecutions.rows,
        item.claimant = some execution.id.text ∧ execution.status = .completed ∧
          hasTurnOutputs db execution = true := by
  simp only [keptByStartupRequeue, Bool.and_eq_true, Option.any_eq_true,
    claimedExecution_eq_some_iff, decide_eq_true_eq]
  constructor
  · rintro ⟨hretry, execution, ⟨hmem, hclaimant⟩, hstatus, houtputs⟩
    exact ⟨hretry, execution, hmem, hclaimant, hstatus, houtputs⟩
  · rintro ⟨hretry, execution, hmem, hclaimant, hstatus, houtputs⟩
    exact ⟨hretry, execution, ⟨hmem, hclaimant⟩, hstatus, houtputs⟩

/-- The guard keeps the valid outputs that the facts of an execution count. -/
theorem hasTurnOutputs_of_guard {execution : AgentExecution} {itemId : Text}
    {read : Option Json} {guarded : Database}
    (houtputs : hasTurnOutputs db execution = true)
    (hguard : validateRunningInvokeCompletionHasValidOutputs db itemId read now =
      .ok guarded) : hasTurnOutputs guarded execution = true := by
  obtain ⟨owner, _, hguard⟩ := (bind_eq_ok_iff _ _ _).1 hguard
  obtain ⟨_, _, hguard⟩ := (bind_eq_ok_iff _ _ _).1 hguard
  obtain rfl := (pure_eq_ok_iff _ _).1 hguard
  simp only [hasTurnOutputs, Option.any_eq_true, decide_eq_true_eq] at houtputs ⊢
  obtain ⟨facts, hfind, hsettled, hpositive⟩ := houtputs
  rw [Table.find_update, hfind, Option.map_some]
  refine ⟨_, rfl, ?_⟩
  split_ifs
  · exact ⟨hsettled, Nat.one_pos⟩
  · exact ⟨hsettled, hpositive⟩

/-- Completing an invocation leaves a completed execution with its outputs. -/
theorem kept_of_completeRunningInvoke {other : WorkItem}
    (hkept : keptByStartupRequeue db item payload = true)
    (hcomplete : completeRunningInvoke db other now = .ok db') :
    keptByStartupRequeue db' item payload = true := by
  obtain ⟨hretry, execution, hmem, hclaimant, hstatus, houtputs⟩ :=
    keptByStartupRequeue_iff.1 hkept
  obtain ⟨guarded, hguard, hcomplete⟩ := (bind_eq_ok_iff _ _ _).1 hcomplete
  have houtputs' := hasTurnOutputs_of_guard houtputs hguard
  obtain ⟨facts, rfl⟩ := validateRunningInvokeCompletion_frame hguard
  obtain ⟨hexecutions, hfacts⟩ := enqueueAdvance_frame hcomplete
  refine keptByStartupRequeue_iff.2 ⟨hretry, execution, ?_, hclaimant, hstatus, ?_⟩
  · rw [hexecutions]
    cases other.payload.bind claimedAgent with
    | none => exact hmem
    | some agent =>
        refine List.mem_map.2 ⟨execution, hmem, if_neg ?_⟩
        simp [hstatus]
  · rw [hasTurnOutputs, hfacts]
    cases other.payload.bind claimedAgent with
    | none => exact houtputs'
    | some agent => exact houtputs'

theorem kept_of_complete {itemId : Text} {expected : Option Uuid}
    (hkept : keptByStartupRequeue db item payload = true)
    (hcomplete : completeAttemptWithCapacity db itemId expected now = .ok db') :
    keptByStartupRequeue db' item payload = true := by
  rcases completeAttempt_cases hcomplete with
    rfl | ⟨target, _, _, _, _, ⟨_, _, hrunning⟩ | ⟨_, rfl⟩⟩
  · exact hkept
  · exact kept_of_completeRunningInvoke hkept hrunning
  · exact hkept

theorem kept_of_fail {itemId error : Text} {expected : Option Uuid}
    (hkept : keptByStartupRequeue db item payload = true)
    (hfail : failAttemptWithCapacity db itemId error expected now = .ok db') :
    keptByStartupRequeue db' item payload = true := by
  rcases failAttempt_cases hfail with
    rfl | ⟨target, _, _, _, _, ⟨_, hqueued⟩ | ⟨_, rfl⟩⟩
  · exact hkept
  · obtain ⟨hexecutions, hfacts⟩ := enqueueAdvance_frame hqueued
    rw [keptByStartupRequeue_iff] at hkept ⊢
    simp only [hasTurnOutputs, hexecutions, hfacts]
    exact hkept
  · exact hkept

/-- The fail sweep does not select an invocation of a completed execution. -/
theorem failSelects_of_kept (hkept : keptByStartupRequeue db item payload = true) :
    failSelects db item = false := by
  obtain ⟨_, execution, hmem, hclaimant, hstatus, _⟩ := keptByStartupRequeue_iff.1 hkept
  have hclaimed : claimedExecution db item = some execution :=
    claimedExecution_eq_some_iff.2 ⟨hmem, hclaimant⟩
  cases hpayload : item.payload with
  | none => simp [failSelects, hpayload]
  | some read => simp [failSelects, hpayload, hclaimed, hstatus]

/-- A running invocation that the startup requeue would keep. -/
structure KeptRunning (db : Database) (item : WorkItem) (payload : Json) : Prop
    extends FetchedInvoke db item where
  read : item.payload = some payload
  kept : keptByStartupRequeue db item payload = true

end Kept

/-! ## The main result -/

section Recovery

variable {db : Database} {item : WorkItem} {payload : Json} {now : Instant}

theorem mem_ids_runningInvokes {selects : WorkItem → Bool} (hitem : FetchedInvoke db item) :
    item.id ∈ (runningInvokes db selects).map (·.id) ↔ selects item = true := by
  rw [List.mem_map]
  constructor
  · rintro ⟨row, hrow, hid⟩
    obtain rfl : row = item := by
      have hfound := find_of_mem_runningInvokes hrow
      rw [hid, hitem.found] at hfound
      exact (Option.some.inj hfound).symm
    exact (mem_runningInvokes.1 hrow).2.2.2
  · intro hselects
    exact ⟨item, mem_runningInvokes.2 ⟨(db.workItems.find_eq_some_iff.1 hitem.found).1,
      hitem.invoke, hitem.running, hselects⟩, rfl⟩

/-- The complete sweep completes an item that it selects, or ends early and leaves
it running. -/
theorem completeSweep_of_selected (hitem : FetchedInvoke db item)
    (hselected : completeSelects db item = true) (now : Instant) :
    let swept := completeRunningInvokeAgentsWithTerminalValidOutputsOnStartup db now
    (FetchedInvoke swept.1 item ∨ IsCompleted swept.1 item.id) ∧
      (swept.2 = true → IsCompleted swept.1 item.id) := by
  refine settleAll_settles (fun db => FetchedInvoke db item)
    (fun db => IsCompleted db item.id) ((mem_ids_runningInvokes hitem).2 hselected)
    ?_ ?_ ?_ hitem
  · intro db other db' hne hpending hcomplete
    exact { hpending with
      found := completeAttempt_find_of_ne hcomplete (Ne.symm hne) hpending.found }
  · exact fun _ _ hpending hcomplete => isCompleted_of_complete hpending hcomplete
  · exact fun _ _ _ hdone hcomplete => hdone.complete hcomplete

/-- The complete sweep completes an item that the startup requeue keeps, or leaves
it so. -/
theorem completeSweep_of_kept (hkept : KeptRunning db item payload) (now : Instant) :
    let swept := completeRunningInvokeAgentsWithTerminalValidOutputsOnStartup db now
    KeptRunning swept.1 item payload ∨ IsCompleted swept.1 item.id := by
  refine settleAll_preserves
    (P := fun db => KeptRunning db item payload ∨ IsCompleted db item.id)
    (fun db id db' _ hdb hcomplete => ?_) (.inl hkept)
  rcases hdb with hkept | hdone
  · by_cases hid : item.id = id
    · subst hid
      exact .inr (isCompleted_of_complete hkept.toFetchedInvoke hcomplete)
    · exact .inl { hkept with
        found := completeAttempt_find_of_ne hcomplete hid hkept.found
        kept := kept_of_complete hkept.kept hcomplete }
  · exact .inr (hdone.complete hcomplete)

theorem failSweep_of_completed {id : Text} (hdone : IsCompleted db id) (now : Instant)
    (reason : Text) :
    IsCompleted
      (failRunningInvokeAgentsWithTerminalFailedOutputsOnStartup db now reason).1 id :=
  settleAll_preserves (P := fun db => IsCompleted db id)
    (fun _ _ _ _ hdone hfail => hdone.fail hfail) hdone

theorem failSweep_of_kept (hkept : KeptRunning db item payload) (now : Instant)
    (reason : Text) :
    KeptRunning
      (failRunningInvokeAgentsWithTerminalFailedOutputsOnStartup db now reason).1 item
      payload := by
  have hunselected : item.id ∉ (runningInvokes db (failSelects db)).map (·.id) := by
    rw [mem_ids_runningInvokes hkept.toFetchedInvoke, failSelects_of_kept hkept.kept]
    exact Bool.false_ne_true
  refine settleAll_preserves (P := fun db => KeptRunning db item payload)
    (fun db id db' hid hkept hfail => ?_) hkept
  have hne : item.id ≠ id := by
    rintro rfl
    exact hunselected hid
  exact { hkept with
    found := failAttempt_find_of_ne hfail hne hkept.found
    kept := kept_of_fail hkept.kept hfail }

/-- The item is neither failed nor returned to the queue. -/
def NotDiscarded (db : Database) (id : Text) : Prop :=
  ∃ row, db.workItems.find id = some row ∧
    (row.status = .completed ∨ row.status = .running)

theorem IsCompleted.notDiscarded {id : Text} (hdone : IsCompleted db id) :
    NotDiscarded db id := by
  obtain ⟨row, hrow, hstatus⟩ := hdone
  exact ⟨row, hrow, .inl hstatus⟩

theorem FetchedInvoke.notDiscarded (hitem : FetchedInvoke db item) :
    NotDiscarded db item.id :=
  ⟨item, hitem.found, .inr hitem.running⟩

/-- What holds before the startup requeue and keeps an item from it. -/
theorem notDiscarded_of_requeue {id : Text} {reason : Text} {requeued : Database}
    {row : WorkItem} (hrow : db.workItems.find id = some row)
    (hstatus : row.status = .completed ∨ row.status = .running)
    (hunselected : row.status = .running → startupRequeueSelects db row = false)
    (hrequeue : requeueRunningInvokeAgentOnStartup db now reason = .ok requeued) :
    NotDiscarded requeued id :=
  ⟨row, requeueOnStartup_find_of_unselected hrow hunselected hrequeue, hstatus⟩

theorem startupRequeueSelects_of_kept (hkept : KeptRunning db item payload) :
    startupRequeueSelects db item = false := by
  simp [startupRequeueSelects, hkept.read, hkept.kept]

/-- The fail sweep and the startup requeue leave an item that is completed, or one
that the startup requeue keeps. -/
theorem notDiscarded_after_complete
    (hswept : KeptRunning db item payload ∨ IsCompleted db item.id) (now : Instant)
    (reason : Text) :
    let failed := failRunningInvokeAgentsWithTerminalFailedOutputsOnStartup db now reason
    NotDiscarded failed.1 item.id ∧
      ∀ requeueReason requeued,
        requeueRunningInvokeAgentOnStartup failed.1 now requeueReason = .ok requeued →
          NotDiscarded requeued item.id := by
  rcases hswept with hkept | hdone
  · have hafter := failSweep_of_kept hkept now reason
    exact ⟨hafter.toFetchedInvoke.notDiscarded, fun _ _ hrequeue =>
      notDiscarded_of_requeue hafter.found (.inr hafter.running)
        (fun _ => startupRequeueSelects_of_kept hafter) hrequeue⟩
  · obtain ⟨row, hrow, hstatus⟩ := failSweep_of_completed hdone now reason
    exact ⟨⟨row, hrow, .inl hstatus⟩, fun _ _ hrequeue =>
      notDiscarded_of_requeue hrow (.inl hstatus) (fun hrunning => by simp [hstatus] at hrunning)
        hrequeue⟩

/-- The recovery does not discard an item that the complete sweep has completed or
that the startup requeue keeps, nor one that is running when the complete sweep
ends early. -/
theorem recover_notDiscarded (payload : Json)
    (hended : NotDiscarded
      (completeRunningInvokeAgentsWithTerminalValidOutputsOnStartup db now).1 item.id)
    (hswept :
      (completeRunningInvokeAgentsWithTerminalValidOutputsOnStartup db now).2 = true →
        KeptRunning
          (completeRunningInvokeAgentsWithTerminalValidOutputsOnStartup db now).1 item
          payload ∨
        IsCompleted
          (completeRunningInvokeAgentsWithTerminalValidOutputsOnStartup db now).1
          item.id) :
    NotDiscarded (recoverRunningInvokes db now).1 item.id := by
  rw [recoverRunningInvokes]
  revert hended hswept
  generalize completeRunningInvokeAgentsWithTerminalValidOutputsOnStartup db now = swept
  obtain ⟨completed, completedAll⟩ := swept
  intro hended hswept
  cases completedAll with
  | false => exact hended
  | true =>
      obtain ⟨hfailed, hrequeued⟩ := notDiscarded_after_complete (hswept rfl) now
        "startup_repair_terminal_agent_missing_outputs".toList
      revert hfailed hrequeued
      simp only [Bool.not_true, Bool.false_eq_true, if_false]
      generalize failRunningInvokeAgentsWithTerminalFailedOutputsOnStartup completed now
        "startup_repair_terminal_agent_missing_outputs".toList = swept
      obtain ⟨failed, failedAll⟩ := swept
      intro hfailed hrequeued
      cases failedAll with
      | false => exact hfailed
      | true =>
          simp only [Bool.not_true, Bool.false_eq_true, if_false]
          cases hrequeue : requeueRunningInvokeAgentOnStartup failed now
              "startup_repair_abandoned_invoke_agent".toList with
          | error e => exact hfailed
          | ok requeued => exact hrequeued _ requeued hrequeue

/-- Whatever the tables hold, the recovery at startup neither fails nor requeues a
running invocation whose outputs the completion guard accepts, if it passes the
gates of the complete sweep or is one that the startup requeue keeps. -/
theorem accepted_work_survives_startup (db : Database) (now : Instant)
    (item : WorkItem) (payload : Json) (hitem : FetchedInvoke db item)
    (hpayload : item.payload = some payload) (haccepts : GuardAccepts db item now)
    (hgates : SweepGates db item payload ∨
      keptByStartupRequeue db item payload = true) :
    NotDiscarded (recoverRunningInvokes db now).1 item.id := by
  rcases hgates with hgates | hkept
  · have hselected := completeSelects_of_accepts haccepts hitem.found hpayload hgates
    obtain ⟨hended, hswept⟩ := completeSweep_of_selected hitem hselected now
    refine recover_notDiscarded payload ?_ fun hall => .inr (hswept hall)
    rcases hended with hrunning | hdone
    · exact hrunning.notDiscarded
    · exact hdone.notDiscarded
  · have hswept := completeSweep_of_kept
      { hitem with read := hpayload, kept := hkept : KeptRunning db item payload } now
    refine recover_notDiscarded payload ?_ fun _ => hswept
    rcases hswept with hkept | hdone
    · exact hkept.toFetchedInvoke.notDiscarded
    · exact hdone.notDiscarded

end Recovery

section FinishedInvocation

/-- The claim of a finished invocation. -/
def finishedKey (id : Text) : ArtifactSourceGenerationClaimKey where
  runId := repeatedUuid 1
  ownerKind := .stageExecution
  ownerId := (repeatedUuid 2).text
  stageExecutionId := some (repeatedUuid 2)
  agentExecutionId := repeatedUuid 3
  sourceWorkItemId := id

/-- An invocation whose execution has finished while it was still running. -/
def finishedItem (id : Text) : WorkItem where
  id := id
  kind := .invokeAgent
  payload := some (Json.ofFields
    [("run_id", .string (repeatedUuid 1).text),
      ("stage_execution_id", .string (repeatedUuid 2).text),
      ("p058_claimed", Json.ofFields
        [("agent_execution_id", .string (repeatedUuid 3).text),
          ("artifact_claim_key", (finishedKey id).toValue)])])
  status := .running
  runId := some (repeatedUuid 1)
  stageId := some "build".toList
  createdAt := ⟨0, []⟩
  scheduledAt := ⟨0, []⟩
  startedAt := some ⟨0, []⟩
  completedAt := none
  failedAt := none
  attemptCount := 1
  lastError := none

/-- The tables of that invocation: a completed execution with a valid output. -/
def finishedQueue (id : Text) : Database :=
  { Database.empty with
    workItems := ⟨[finishedItem id], List.nodup_singleton _⟩
    stageExecutions := [⟨repeatedUuid 2, repeatedUuid 1⟩]
    agentExecutions := ⟨[{
      id := repeatedUuid 3
      stageExecutionId := some (repeatedUuid 2)
      agentId := "builder".toList
      status := .completed
      completedAt := some ⟨0, []⟩
      sessionGenerationId := none }], List.nodup_singleton _⟩
    runtimeFacts := ⟨[{
      agentExecutionId := repeatedUuid 3
      outputSettlement := .validOutputsFromCompletedExecution
      validRequiredOutputs := 1
      updatedAt := ⟨0, []⟩ }], List.nodup_singleton _⟩
    claims := ⟨[startedClaim (finishedKey id) none ⟨0, []⟩], List.nodup_singleton _⟩ }

theorem fetchedInvoke_finishedItem (id : Text) :
    FetchedInvoke (finishedQueue id) (finishedItem id) where
  found := (finishedQueue id).workItems.find_of_mem (List.mem_singleton.2 rfl)
  invoke := rfl
  running := rfl

theorem guardAccepts_of_isOk {db : Database} {item : WorkItem} {now : Instant}
    (hok : (validateRunningInvokeCompletionHasValidOutputs db item.id item.payload
      now).isOk = true) : GuardAccepts db item now :=
  (isOk_eq_true_iff _).1 hok

/-- A finished invocation survives the startup. -/
theorem accepted_work_survives_startup_finished :
    NotDiscarded (recoverRunningInvokes (finishedQueue "item".toList) ⟨1, []⟩).1
      "item".toList :=
  accepted_work_survives_startup (finishedQueue "item".toList) ⟨1, []⟩
    (finishedItem "item".toList) _ (fetchedInvoke_finishedItem _) rfl
    (guardAccepts_of_isOk (by decide +kernel))
    (.inl {
      ordinary := by decide +kernel
      linked := by decide +kernel
      ended := by decide +kernel
      factsOfTurn := by decide +kernel
      generationsOfTurn := by decide +kernel })

/-- A finished invocation that the daemon had queued for missing outputs is
accepted by the guard, and the startup requeues it. -/
theorem auto_retry_requeued_at_startup :
    FetchedInvoke (finishedQueue "auto-contract-output-retry:item".toList)
        (finishedItem "auto-contract-output-retry:item".toList) ∧
      GuardAccepts (finishedQueue "auto-contract-output-retry:item".toList)
        (finishedItem "auto-contract-output-retry:item".toList) ⟨1, []⟩ ∧
      ¬NotDiscarded
        (recoverRunningInvokes
          (finishedQueue "auto-contract-output-retry:item".toList) ⟨1, []⟩).1
        "auto-contract-output-retry:item".toList := by
  refine ⟨fetchedInvoke_finishedItem _, guardAccepts_of_isOk (by decide +kernel), ?_⟩
  rintro ⟨row, hrow, hstatus⟩
  have hpending : ((recoverRunningInvokes
      (finishedQueue "auto-contract-output-retry:item".toList) ⟨1, []⟩).1.workItems.find
        "auto-contract-output-retry:item".toList).map (·.status) = some .pending := by
    decide +kernel
  rw [hrow, Option.map_some, Option.some.injEq] at hpending
  rw [hpending] at hstatus
  rcases hstatus with h | h <;> cases h

end FinishedInvocation

end ChainworksForge.Queue
