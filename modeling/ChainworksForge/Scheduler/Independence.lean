import ChainworksForge.Scheduler.Refresh

/-!
# Which other items can stop a settlement

The settlement of an item reads no other item until the summaries are refreshed.  The
refresh succeeds exactly when every other invocation that is due or running has a payload
that reads as JSON and no two due invocations of one stage execution, with one provider
and one reason, belong to different runs.
-/

namespace ChainworksForge.Scheduler

open ChainworksForge.Support ChainworksForge.Queue

/-! ## Reading the queue -/

/-- What the refresh reads of the items whose payloads read as JSON. -/
def worksOf (items : List WorkItem) : List PendingInvokeAgentWork :=
  items.filterMap fun item => item.payload.map (workOf item)

theorem parseInvokeAgentWorkRow_eq_ok_iff {item : WorkItem} {work : PendingInvokeAgentWork} :
    parseInvokeAgentWorkRow item = .ok work ↔
      ∃ payload, item.payload = some payload ∧ workOf item payload = work := by
  rw [parseInvokeAgentWorkRow, bind_eq_ok_iff]
  simp only [required_eq_ok_iff, pure_eq_ok_iff]

theorem mapM_parse_eq_ok_iff {items : List WorkItem} {works : List PendingInvokeAgentWork} :
    items.mapM parseInvokeAgentWorkRow = .ok works ↔
      (∀ item ∈ items, item.payload.isSome = true) ∧ worksOf items = works := by
  rw [mapM_eq_ok_iff]
  simp only [parseInvokeAgentWorkRow_eq_ok_iff]
  induction items generalizing works with
  | nil =>
      rw [List.forall₂_nil_left_iff]
      exact ⟨fun hworks => ⟨List.forall_mem_nil _, hworks.symm⟩, fun hworks => hworks.2.symm⟩
  | cons item items ih =>
      simp only [List.forall₂_cons_left_iff, List.forall_mem_cons, ih]
      cases hpayload : item.payload with
      | none => simp
      | some payload =>
          have hworks : worksOf (item :: items) = workOf item payload :: worksOf items := by
            simp [worksOf, hpayload]
          rw [hworks]
          constructor
          · rintro ⟨_, rest, ⟨_, hsame, rfl⟩, ⟨hsome, rfl⟩, rfl⟩
            obtain rfl := Option.some.inj hsame
            exact ⟨⟨rfl, hsome⟩, rfl⟩
          · rintro ⟨⟨-, hsome⟩, rfl⟩
            exact ⟨_, _, ⟨payload, rfl, rfl⟩, ⟨hsome, rfl⟩, rfl⟩

theorem canonicalizeKnownAlias_ne_nil {raw family : Text}
    (h : ProviderFamily.canonicalizeKnownAlias raw = some family) : family ≠ [] := by
  obtain ⟨known, -, rfl⟩ := Option.map_eq_some_iff.1 h
  cases known <;> decide

theorem providerFamily_ne_nil {items : List WorkItem} {work : PendingInvokeAgentWork}
    (hwork : work ∈ worksOf items) : work.providerFamily ≠ some [] := by
  obtain ⟨item, -, hitem⟩ := List.mem_filterMap.1 hwork
  obtain ⟨payload, -, rfl⟩ := Option.map_eq_some_iff.1 hitem
  intro hnil
  obtain ⟨raw, -, hraw⟩ := Option.bind_eq_some_iff.1 hnil
  exact canonicalizeKnownAlias_ne_nil hraw rfl

/-! ## Writing the summaries -/

theorem insertAll_eq_ok_iff {rows : List SchedulerQueueSummary} {summaries : Summaries} :
    (∃ written, rows.foldlM insertQueueSummary summaries = .ok written) ↔
      (summaries.rows.map SchedulerQueueSummary.primaryKey ++
        rows.map SchedulerQueueSummary.primaryKey).Nodup := by
  induction rows generalizing summaries with
  | nil => simpa [pure, Except.pure] using summaries.distinct
  | cons row rows ih =>
      by_cases hfree : summaries.find row.primaryKey = none
      · have hinsert : insertQueueSummary summaries row =
            .ok (summaries.add row hfree) := by
          simp [insertQueueSummary, Table.insert, hfree, required]
        rw [List.foldlM_cons, hinsert]
        change (∃ written, rows.foldlM insertQueueSummary (summaries.add row hfree) =
          .ok written) ↔ _
        rw [ih]
        simp [Table.add]
      · have hinsert : insertQueueSummary summaries row =
            .error "insert refreshed scheduler queue summary".toList := by
          simp [insertQueueSummary, Table.insert, hfree, required]
        rw [List.foldlM_cons, hinsert]
        refine iff_of_false (by rintro ⟨written, hwritten⟩; cases hwritten) ?_
        intro hnodup
        rw [Table.find_eq_none_iff, not_not] at hfree
        exact List.disjoint_of_nodup_append hnodup hfree (by simp)

/-- The columns of the primary key that a group is written under. -/
def SummaryKey.primaryKey (key : SummaryKey) : Text × Text × Text × Text :=
  (key.scope, key.scopeId, key.providerFamily.getD [], key.topReason)

/-- No two items of one stage execution, with one provider and one reason, belong to
different runs. -/
def StagesApart (reasonOf : PendingInvokeAgentWork → Text)
    (works : List PendingInvokeAgentWork) : Prop :=
  ∀ work ∈ works, ∀ other ∈ works, ∀ stage, work.stageExecutionId = some stage →
    other.stageExecutionId = some stage → work.providerFamily = other.providerFamily →
      reasonOf work = reasonOf other → work.runId = other.runId

theorem mem_summaryKeys {reasonOf : PendingInvokeAgentWork → Text}
    {work : PendingInvokeAgentWork} {key : SummaryKey} :
    key ∈ summaryKeys reasonOf work ↔
      key = ⟨"global".toList, [], none, none, work.providerFamily, reasonOf work⟩ ∨
      (∃ runId, work.runId = some runId ∧
        key = ⟨"run".toList, runId, some runId, none, work.providerFamily,
          reasonOf work⟩) ∨
      ∃ stage, work.stageExecutionId = some stage ∧
        key = ⟨"stage".toList, stage, work.runId, some stage, work.providerFamily,
          reasonOf work⟩ := by
  simp [summaryKeys, Option.mem_toList, eq_comm]

theorem eq_of_getD_nil_eq {a b : Option Text} (ha : a ≠ some []) (hb : b ≠ some [])
    (h : a.getD [] = b.getD []) : a = b := by
  cases a with
  | none =>
      cases b with
      | none => rfl
      | some b => exact absurd (congrArg some h.symm) hb
  | some a =>
      cases b with
      | none => exact absurd (congrArg some h) ha
      | some b => exact congrArg some h

/-- The table can tell the groups apart exactly when the stage executions are apart. -/
theorem primaryKeys_nodup_iff {reasonOf : PendingInvokeAgentWork → Text}
    {pending : List PendingInvokeAgentWork}
    (hfamily : ∀ work ∈ pending, work.providerFamily ≠ some []) :
    ((groupedKeys reasonOf pending).map SummaryKey.primaryKey).Nodup ↔
      StagesApart reasonOf pending := by
  have hperm : (groupedKeys reasonOf pending).Perm
      (pending.flatMap (summaryKeys reasonOf)).dedup := List.perm_insertionSort _ _
  rw [(hperm.map _).nodup_iff, List.nodup_map_iff_inj_on (List.nodup_dedup _)]
  simp only [List.mem_dedup, List.mem_flatMap, mem_summaryKeys]
  constructor
  · intro hinj work hwork other hother stage hstage hotherStage hprovider hreason
    have hkey := hinj _ ⟨work, hwork, .inr (.inr ⟨stage, hstage, rfl⟩)⟩
      _ ⟨other, hother, .inr (.inr ⟨stage, hotherStage, rfl⟩)⟩
      (by simp [SummaryKey.primaryKey, hprovider, hreason])
    exact congrArg SummaryKey.runId hkey
  · rintro hapart key ⟨work, hwork, hkey⟩ key' ⟨other, hother, hkey'⟩ hsame
    have hscopes : "global".toList ≠ "run".toList ∧ "global".toList ≠ "stage".toList ∧
        "run".toList ≠ "stage".toList := by decide
    obtain ⟨hgr, hgs, hrs⟩ := hscopes
    rcases hkey with rfl | ⟨runId, hrun, rfl⟩ | ⟨stage, hstage, rfl⟩ <;>
      rcases hkey' with rfl | ⟨runId', hrun', rfl⟩ | ⟨stage', hstage', rfl⟩ <;>
      simp only [SummaryKey.primaryKey, Prod.mk.injEq, hgr, hgs, hrs, hgr.symm, hgs.symm,
        hrs.symm, false_and, true_and] at hsame
    · obtain ⟨hfamilies, hreason⟩ := hsame
      rw [eq_of_getD_nil_eq (hfamily work hwork) (hfamily other hother) hfamilies, hreason]
    · obtain ⟨rfl, hfamilies, hreason⟩ := hsame
      rw [eq_of_getD_nil_eq (hfamily work hwork) (hfamily other hother) hfamilies, hreason]
    · obtain ⟨rfl, hfamilies, hreason⟩ := hsame
      have hsameFamily :=
        eq_of_getD_nil_eq (hfamily work hwork) (hfamily other hother) hfamilies
      rw [hapart work hwork other hother stage hstage hstage' hsameFamily hreason,
        hsameFamily, hreason]

theorem insertRefreshed_eq_ok_iff (reasonOf : PendingInvokeAgentWork → Text)
    (items : List WorkItem) (now : Instant) :
    (∃ written, ((groupedKeys reasonOf (worksOf items)).map
      (summaryOf reasonOf (worksOf items) now)).foldlM insertQueueSummary Table.empty =
        .ok written) ↔ StagesApart reasonOf (worksOf items) := by
  rw [insertAll_eq_ok_iff, List.map_map,
    ← primaryKeys_nodup_iff fun _ hwork => providerFamily_ne_nil hwork]
  exact Iff.rfl

/-! ## When the refresh commits -/

/-- The reason the refresh gives for an item. -/
def refreshReason (providers : ProviderTables) (capacity : InvokeAgentCapacityConfig)
    (queue : Database) (work : PendingInvokeAgentWork) : Text :=
  topReasonForItem work
    (activeCountsOf providers queue.stageExecutions (runningExecutions queue)
      (worksOf (heldInvokes queue)))
    capacity

theorem refresh_commits_iff {providers : ProviderTables}
    {capacity : InvokeAgentCapacityConfig} {now : Instant} {tables : SchedulerTables} :
    (∃ refreshed,
      refreshQueueSummariesForNotification providers capacity now tables = .ok refreshed) ↔
      (∀ item ∈ dueInvokes tables.queue now ++ heldInvokes tables.queue,
        item.payload.isSome = true) ∧
      StagesApart (refreshReason providers capacity tables.queue)
        (worksOf (dueInvokes tables.queue now)) := by
  simp only [refreshQueueSummariesForNotification, loadPendingInvokeAgentWork,
    ActiveCounts.load, loadRunningInvokeAgentWork, bind_eq_ok_iff, pure_eq_ok_iff,
    mapM_parse_eq_ok_iff]
  have hinsert := insertRefreshed_eq_ok_iff
    (refreshReason providers capacity tables.queue) (dueInvokes tables.queue now) now
  constructor
  · rintro ⟨_, _, ⟨hdue, rfl⟩, _, ⟨_, ⟨hrunning, rfl⟩, rfl⟩, summaries, hsummaries, -⟩
    exact ⟨List.forall_mem_append.2 ⟨hdue, hrunning⟩,
      hinsert.1 ⟨summaries, hsummaries⟩⟩
  · rintro ⟨hreadable, hstages⟩
    obtain ⟨hdue, hrunning⟩ := List.forall_mem_append.1 hreadable
    obtain ⟨summaries, hsummaries⟩ := hinsert.2 hstages
    exact ⟨_, _, ⟨hdue, rfl⟩, _, ⟨_, ⟨hrunning, rfl⟩, rfl⟩, summaries, hsummaries, rfl⟩

/-! ## The settlement reads no other item -/

section OtherItems

variable {queue changed settled : Database} {items : Table WorkItem.id} {item : WorkItem}
  {itemId : Text} {now : Instant}

theorem checkSourceInvoke_withItems {hints : InvokeHints} {sourceStage : Option Text}
    {found : RetryStageExecutionAuthority} {active : Option RetryStageExecutionAuthority}
    (hcheck : checkSourceInvoke queue now itemId hints sourceStage found =
      .ok (settled, active)) :
    checkSourceInvoke { queue with workItems := items } now itemId hints sourceStage found =
      .ok ({ settled with workItems := items }, active) := by
  simp only [checkSourceInvoke] at hcheck ⊢
  cases hsource : found.sourceInvokeWorkItemId with
  | none =>
      simp only [hsource] at hcheck
      cases hcheck
      rfl
  | some sourceInvoke =>
      simp only [hsource] at hcheck ⊢
      split_ifs at hcheck ⊢ <;> cases hcheck <;> rfl

theorem resolveAuthority_withItems {runId : Uuid} {source : Option Json}
    {active : Option RetryStageExecutionAuthority}
    (hresolve : resolveAuthority queue now runId itemId source = .ok (settled, active)) :
    resolveAuthority { queue with workItems := items } now runId itemId source =
      .ok ({ settled with workItems := items }, active) := by
  simp only [resolveAuthority] at hresolve
  obtain ⟨_, hagent, hresolve⟩ := (bind_eq_ok_iff _ _ _).1 hresolve
  obtain ⟨_, hdurable, hresolve⟩ := (bind_eq_ok_iff _ _ _).1 hresolve
  obtain ⟨_, hstage, hresolve⟩ := (bind_eq_ok_iff _ _ _).1 hresolve
  obtain ⟨found, hfound, hresolve⟩ := (bind_eq_ok_iff _ _ _).1 hresolve
  obtain ⟨_, hactive, hresolve⟩ := (bind_eq_ok_iff _ _ _).1 hresolve
  rw [resolveAuthority]
  refine (bind_eq_ok_iff _ _ _).2 ⟨_, hagent, (bind_eq_ok_iff _ _ _).2 ⟨_, hdurable,
    (bind_eq_ok_iff _ _ _).2 ⟨_, hstage, (bind_eq_ok_iff _ _ _).2 ⟨found, hfound,
      (bind_eq_ok_iff _ _ _).2 ⟨_, hactive, ?_⟩⟩⟩⟩⟩
  cases found with
  | none =>
      cases hresolve
      rfl
  | some authority =>
      obtain ⟨⟨checked, kept⟩, hcheck, hresolve⟩ := (bind_eq_ok_iff _ _ _).1 hresolve
      obtain ⟨_, htarget, hsame⟩ := (bind_eq_ok_iff _ _ _).1 hresolve
      cases hsame
      exact (bind_eq_ok_iff _ _ _).2 ⟨_, checkSourceInvoke_withItems hcheck,
        (bind_eq_ok_iff _ _ _).2 ⟨_, htarget, rfl⟩⟩

theorem enqueueAdvance_withItems {outcome : InvokeOutcome}
    (hsame : changed = { queue with workItems := changed.workItems })
    (henqueue : enqueueAdvance queue item outcome now = .ok settled) :
    ∃ settled', enqueueAdvance changed item outcome now = .ok settled' := by
  rw [hsame]
  rw [enqueueAdvance] at henqueue ⊢
  cases hrun : item.runId with
  | none => exact ⟨_, rfl⟩
  | some runId =>
      simp only [hrun] at henqueue
      obtain ⟨built, hbuild, -⟩ := (bind_eq_ok_iff _ _ _).1 henqueue
      obtain ⟨⟨resolved, active⟩, hresolve, -⟩ := (bind_eq_ok_iff _ _ _).1 hbuild
      exact ⟨_, (bind_eq_ok_iff _ _ _).2 ⟨_, (bind_eq_ok_iff _ _ _).2
        ⟨_, resolveAuthority_withItems hresolve, rfl⟩, rfl⟩⟩

theorem ownRow_iff (hown : items.find itemId = queue.workItems.find itemId)
    (row : WorkItem) :
    (row ∈ items.rows ∧ row.id = itemId) ↔
      row ∈ queue.workItems.rows ∧ row.id = itemId := by
  rw [← Table.find_eq_some_iff, ← Table.find_eq_some_iff, hown]

theorem provesCompletion_withItems {owner : CompletionOwner}
    (hown : items.find itemId = queue.workItems.find itemId) :
    provesCompletion { queue with workItems := items } itemId owner ↔
      provesCompletion queue itemId owner := by
  constructor
  · rintro ⟨row, hmem, hid, hproved⟩
    exact ⟨row, ((ownRow_iff hown row).1 ⟨hmem, hid⟩).1, hid, hproved⟩
  · rintro ⟨row, hmem, hid, hproved⟩
    exact ⟨row, ((ownRow_iff hown row).2 ⟨hmem, hid⟩).1, hid, hproved⟩

theorem hasContractGeneration_withItems {owner : CompletionOwner} {agent : Uuid}
    (hown : items.find itemId = queue.workItems.find itemId) :
    hasContractGeneration { queue with workItems := items } itemId owner agent ↔
      hasContractGeneration queue itemId owner agent := by
  constructor
  · rintro ⟨row, hmem, hid, hproved⟩
    exact ⟨row, ((ownRow_iff hown row).1 ⟨hmem, hid⟩).1, hid, hproved⟩
  · rintro ⟨row, hmem, hid, hproved⟩
    exact ⟨row, ((ownRow_iff hown row).2 ⟨hmem, hid⟩).1, hid, hproved⟩

theorem validate_withItems {payload : Option Json}
    (hown : items.find itemId = queue.workItems.find itemId)
    (hvalid : validateRunningInvokeCompletionHasValidOutputs queue itemId payload now =
      .ok settled) :
    validateRunningInvokeCompletionHasValidOutputs { queue with workItems := items } itemId
      payload now = .ok { settled with workItems := items } := by
  obtain ⟨owner, howner, hvalid⟩ := (bind_eq_ok_iff _ _ _).1 hvalid
  obtain ⟨_, hproved, hsame⟩ := (bind_eq_ok_iff _ _ _).1 hvalid
  cases hsame
  refine (bind_eq_ok_iff _ _ _).2 ⟨owner, howner, (bind_eq_ok_iff _ _ _).2 ⟨(), ?_, ?_⟩⟩
  · rw [ensure_eq_ok_iff, decide_eq_true_eq] at hproved ⊢
    exact (provesCompletion_withItems hown).2 hproved
  · simp only [hasContractGeneration_withItems hown]
    rfl

theorem completeRunningInvoke_withItems
    (hown : items.find item.id = queue.workItems.find item.id)
    (hcomplete : completeRunningInvoke queue item now = .ok settled) :
    ∃ settled', completeRunningInvoke { queue with workItems := items } item now =
      .ok settled' := by
  obtain ⟨guarded, hguard, hadvance⟩ := (bind_eq_ok_iff _ _ _).1 hcomplete
  have hguard' := validate_withItems hown hguard
  cases hclaim : item.payload.bind claimedAgent with
  | none =>
      simp only [hclaim] at hadvance
      have hexists : ∃ settled', enqueueAdvance
          (markCompleted { guarded with workItems := items } item.id now)
          item .completed now = .ok settled' := by
        refine enqueueAdvance_withItems ?_ hadvance
        rfl
      obtain ⟨settled', hsettled⟩ := hexists
      refine ⟨settled', (bind_eq_ok_iff _ _ _).2 ⟨_, hguard', ?_⟩⟩
      simp only [hclaim]
      exact hsettled
  | some agent =>
      simp only [hclaim] at hadvance
      have hexists : ∃ settled', enqueueAdvance
          (settleClaim (markCompleted { guarded with workItems := items } item.id now)
            item.id agent now) item .completed now = .ok settled' := by
        refine enqueueAdvance_withItems ?_ hadvance
        rfl
      obtain ⟨settled', hsettled⟩ := hexists
      refine ⟨settled', (bind_eq_ok_iff _ _ _).2 ⟨_, hguard', ?_⟩⟩
      simp only [hclaim]
      exact hsettled

theorem settle_withItems {settlement : Settlement} {expected : Option Uuid}
    (hsame : changed = { queue with workItems := changed.workItems })
    (hown : changed.workItems.find itemId = queue.workItems.find itemId)
    (hsettle : settlement.settle queue itemId expected now = .ok settled) :
    ∃ settled', settlement.settle changed itemId expected now = .ok settled' := by
  have hmatch (item : WorkItem) : matchesWorkItemAttempt changed item expected =
      matchesWorkItemAttempt queue item expected := by
    rw [hsame]
    rfl
  cases settlement with
  | complete =>
      simp only [Settlement.settle, completeAttemptWithCapacity, hown, hmatch] at hsettle ⊢
      cases hfind : queue.workItems.find itemId with
      | none => exact ⟨_, rfl⟩
      | some item =>
          simp only [hfind] at hsettle ⊢
          split_ifs at hsettle ⊢ with hattempt hopen hrunning
          · obtain rfl := (queue.workItems.find_eq_some_iff.1 hfind).2
            rw [hsame]
            exact completeRunningInvoke_withItems hown hsettle
          · exact ⟨_, rfl⟩
          · exact ⟨_, rfl⟩
          · exact ⟨_, rfl⟩
  | fail error =>
      simp only [Settlement.settle, failAttemptWithCapacity, hown, hmatch] at hsettle ⊢
      cases hfind : queue.workItems.find itemId with
      | none => exact ⟨_, rfl⟩
      | some item =>
          simp only [hfind] at hsettle ⊢
          split_ifs at hsettle ⊢ with hattempt hopen hinvoke
          · refine enqueueAdvance_withItems ?_ hsettle
            rw [hsame]
            rfl
          · exact ⟨_, rfl⟩
          · exact ⟨_, rfl⟩
          · exact ⟨_, rfl⟩

/-- Whether the settlement goes through by itself depends on no other item. -/
theorem settle_commits_withItems {settlement : Settlement} {expected : Option Uuid}
    (hown : items.find itemId = queue.workItems.find itemId) :
    (∃ settled, settlement.settle { queue with workItems := items } itemId expected now =
      .ok settled) ↔
    ∃ settled, settlement.settle queue itemId expected now = .ok settled := by
  constructor
  · rintro ⟨settled, hsettled⟩
    refine settle_withItems ?_ ?_ hsettled
    · rfl
    · exact hown.symm
  · rintro ⟨settled, hsettled⟩
    exact settle_withItems rfl hown hsettled

end OtherItems

/-! ## What the settlement leaves for the refresh -/

/-- The other invocations that are due. -/
def otherDueInvokes (queue : Database) (itemId : Text) (now : Instant) : List WorkItem :=
  queue.workItems.rows.filter fun other =>
    other.id ≠ itemId ∧ other.kind = .invokeAgent ∧ other.status = .pending ∧
      other.scheduledAt.text ≤ now.text

/-- The other invocations that a worker holds. -/
def otherHeldInvokes (queue : Database) (itemId : Text) : List WorkItem :=
  queue.workItems.rows.filter fun other =>
    other.id ≠ itemId ∧ other.kind = .invokeAgent ∧ other.status = .running

/-- The executions that are still running once an item is settled. -/
def stillRunning (settlement : Settlement) (queue : Database) (item : WorkItem) :
    List AgentExecution :=
  match settlement with
  | .complete => (runningExecutions queue).filter fun execution =>
      ¬(item.status = .running ∧
        item.payload.bind claimedAgent = some execution.id.text)
  | .fail _ => runningExecutions queue

/-- The reason given for another item once an item is settled. -/
def reasonAfter (providers : ProviderTables) (capacity : InvokeAgentCapacityConfig)
    (settlement : Settlement) (queue : Database) (item : WorkItem)
    (work : PendingInvokeAgentWork) : Text :=
  topReasonForItem work
    (activeCountsOf providers queue.stageExecutions (stillRunning settlement queue item)
      (worksOf (otherHeldInvokes queue item.id)))
    capacity

/-- The payloads of the other invocations that are due or running read as JSON, and the
due ones of one stage execution with one provider and one reason are of one run. -/
structure OthersInOrder (providers : ProviderTables) (capacity : InvokeAgentCapacityConfig)
    (settlement : Settlement) (queue : Database) (item : WorkItem) (now : Instant) :
    Prop where
  readable : ∀ other ∈ otherDueInvokes queue item.id now ++ otherHeldInvokes queue item.id,
    other.payload.isSome = true
  apart : StagesApart (reasonAfter providers capacity settlement queue item)
    (worksOf (otherDueInvokes queue item.id now))

theorem filter_map_eq_filter {α : Type*} {f : α → α} {p q : α → Bool} {l : List α}
    (hcondition : ∀ a, p (f a) = q a) (hsame : ∀ a, q a = true → f a = a) :
    (l.map f).filter p = l.filter q := by
  have hcomp : p ∘ f = q := funext hcondition
  rw [List.filter_map, hcomp]
  exact (List.map_congr_left fun a ha => hsame a (List.mem_filter.1 ha).2).trans
    (List.map_id' _)

/-- A row that is added and does not satisfy the condition is not read. -/
theorem filter_insertOrIgnore {κ ρ : Type} [DecidableEq κ] {key : ρ → κ}
    {table : Table key} {row : ρ} {p : ρ → Bool} (hrow : p row = false) :
    (table.insertOrIgnore row).rows.filter p = table.rows.filter p := by
  by_cases hfree : table.find (key row) = none
  · simp [Table.insertOrIgnore, Table.insert, hfree, Table.add, hrow]
  · simp [Table.insertOrIgnore, Table.insert, hfree]

section Settled

variable {queue settled : Database} {item : WorkItem} {itemId : Text} {now : Instant}
  {p q : WorkItem → Bool}

/-- A condition on open invocations sees the queue of the others once an item is
marked. -/
theorem filter_marked {change : WorkItem → WorkItem}
    (hkey : ∀ row, (change row).id = row.id)
    (hclosed : ∀ row, (change row).isOpen = false)
    (hopen : ∀ row, p row = true → row.isOpen = true)
    (hother : ∀ row, q row = (decide (row.id ≠ itemId) && p row)) :
    (queue.workItems.update (fun row => row.id = itemId ∧ row.isOpen) change
      hkey).rows.filter p = queue.workItems.rows.filter q := by
  have hunread (row : WorkItem) : p (change row) = false := by
    rw [← Bool.not_eq_true]
    intro htrue
    exact Bool.noConfusion ((hclosed row).symm.trans (hopen _ htrue))
  refine filter_map_eq_filter (fun row => ?_) fun row hrow => ?_
  · rw [hother]
    by_cases hid : row.id = itemId
    · by_cases hrowOpen : row.isOpen = true
      · simp [hid, hrowOpen, hunread]
      · have hnot : p row = false := by
          rw [← Bool.not_eq_true]
          exact fun htrue => hrowOpen (hopen row htrue)
        simp [hid, hrowOpen, hnot]
    · simp [hid]
  · rw [hother, Bool.and_eq_true, decide_eq_true_eq] at hrow
    simp [hrow.1]

/-- The advance of a run that is queued is no invocation. -/
theorem enqueueAdvance_leaves {outcome : InvokeOutcome}
    (henqueue : enqueueAdvance queue item outcome now = .ok settled) :
    settled.stageExecutions = queue.stageExecutions ∧
      settled.agentExecutions = queue.agentExecutions ∧
      ∀ p : WorkItem → Bool, (∀ row, p row = true → row.kind = .invokeAgent) →
        settled.workItems.rows.filter p = queue.workItems.rows.filter p := by
  rcases enqueueAdvance_cases henqueue with
    ⟨-, rfl⟩ | ⟨runId, payload, stageId, authorities, -, rfl⟩
  · exact ⟨rfl, rfl, fun _ _ => rfl⟩
  · refine ⟨rfl, rfl, fun p hinvoke => filter_insertOrIgnore ?_⟩
    rw [← Bool.not_eq_true]
    intro htrue
    have hkind := hinvoke _ htrue
    simp [advanceAfterInvoke] at hkind

/-- What a settled invocation leaves in the tables that the refresh reads. -/
structure LeavesOthers (settlement : Settlement) (queue : Database) (item : WorkItem)
    (settled : Database) : Prop where
  stages : settled.stageExecutions = queue.stageExecutions
  running : runningExecutions settled = stillRunning settlement queue item
  rows : ∀ p q : WorkItem → Bool,
    (∀ row, p row = true → row.kind = .invokeAgent ∧ row.isOpen = true) →
    (∀ row, q row = (decide (row.id ≠ item.id) && p row)) →
      settled.workItems.rows.filter p = queue.workItems.rows.filter q

theorem filter_markCompleted (hp : ∀ row, p row = true → row.isOpen = true)
    (hq : ∀ row, q row = (decide (row.id ≠ itemId) && p row)) :
    (markCompleted queue itemId now).workItems.rows.filter p =
      queue.workItems.rows.filter q := by
  refine filter_marked ?_ (fun row => ?_) hp hq
  · exact fun _ => rfl
  · simp [WorkItem.isOpen]

theorem filter_markFailed {error : Text} (hp : ∀ row, p row = true → row.isOpen = true)
    (hq : ∀ row, q row = (decide (row.id ≠ itemId) && p row)) :
    (markFailed queue itemId error now).workItems.rows.filter p =
      queue.workItems.rows.filter q := by
  refine filter_marked ?_ (fun row => ?_) hp hq
  · exact fun _ => rfl
  · simp [WorkItem.isOpen]

theorem fail_leavesOthers {error : Text}
    (hadvance : enqueueAdvance (markFailed queue item.id error now) item .failed now =
      .ok settled) :
    LeavesOthers (.fail error) queue item settled := by
  obtain ⟨hstages, hexecutions, hrows⟩ := enqueueAdvance_leaves hadvance
  refine ⟨hstages, ?_, fun p q hp hq => ?_⟩
  · rw [runningExecutions, hexecutions]
    rfl
  · rw [hrows p fun row hrow => (hp row hrow).1]
    exact filter_markFailed (fun row hrow => (hp row hrow).2) hq

/-- The execution that held the item runs no longer. -/
theorem running_settleClaim {agent : Text} :
    runningExecutions (settleClaim queue itemId agent now) =
      (runningExecutions queue).filter fun execution => ¬(agent = execution.id.text) := by
  rw [runningExecutions, runningExecutions, List.filter_filter]
  refine filter_map_eq_filter (fun execution => ?_) fun execution hexecution => ?_
  · by_cases hagent : execution.id.text = agent
    · by_cases hrunning : execution.status = .running
      · have hsettled : settledStatus queue execution ≠ .running := by
          rw [settledStatus]
          split_ifs <;> decide
        simp [hagent, hrunning, hsettled]
      · simp [hagent, hrunning]
    · simp [hagent, Ne.symm hagent]
  · simp only [Bool.and_eq_true, decide_eq_true_eq] at hexecution
    simp [Ne.symm hexecution.1]

theorem completeRunning_leavesOthers (hrunning : item.status = .running)
    (hcomplete : completeRunningInvoke queue item now = .ok settled) :
    LeavesOthers .complete queue item settled := by
  obtain ⟨guarded, hguard, hadvance⟩ := (bind_eq_ok_iff _ _ _).1 hcomplete
  obtain ⟨facts, rfl⟩ := validateRunningInvokeCompletion_frame hguard
  obtain ⟨hstages, hexecutions, hrows⟩ := enqueueAdvance_leaves hadvance
  cases hclaim : item.payload.bind claimedAgent with
  | none =>
      simp only [hclaim] at hstages hexecutions hrows
      refine ⟨hstages, ?_, fun p q hp hq => ?_⟩
      · rw [runningExecutions, hexecutions]
        simp [stillRunning, hclaim, runningExecutions, markCompleted]
      · rw [hrows p fun row hrow => (hp row hrow).1]
        exact filter_markCompleted (fun row hrow => (hp row hrow).2) hq
  | some agent =>
      simp only [hclaim] at hstages hexecutions hrows
      refine ⟨hstages, ?_, fun p q hp hq => ?_⟩
      · rw [runningExecutions, hexecutions]
        refine running_settleClaim.trans ?_
        simp [stillRunning, hclaim, hrunning, runningExecutions, markCompleted]
      · rw [hrows p fun row hrow => (hp row hrow).1]
        exact filter_markCompleted (fun row hrow => (hp row hrow).2) hq

theorem completePending_leavesOthers (hpending : item.status ≠ .running) :
    LeavesOthers .complete queue item (markCompleted queue item.id now) := by
  refine ⟨rfl, ?_, fun p q hp hq => filter_markCompleted (fun row hrow => (hp row hrow).2) hq⟩
  simp [stillRunning, hpending, runningExecutions, markCompleted]

theorem settle_leavesOthers {settlement : Settlement} {expected : Option Uuid}
    (hfind : queue.workItems.find itemId = some item)
    (hinvoke : settlesInvoke queue itemId expected = true)
    (hsettle : settlement.settle queue itemId expected now = .ok settled) :
    LeavesOthers settlement queue item settled := by
  obtain rfl := (queue.workItems.find_eq_some_iff.1 hfind).2
  obtain ⟨hattempt, hopen, hkind⟩ : matchesWorkItemAttempt queue item expected = true ∧
      item.isOpen = true ∧ item.kind = .invokeAgent := by
    simpa [settlesInvoke, hfind] using hinvoke
  cases settlement with
  | complete =>
      simp only [Settlement.settle, completeAttemptWithCapacity, hfind, hattempt, hopen,
        hkind, not_true_eq_false, if_false, true_and] at hsettle
      split_ifs at hsettle with hrunning
      · exact completeRunning_leavesOthers hrunning hsettle
      · cases hsettle
        exact completePending_leavesOthers hrunning
  | fail error =>
      simp only [Settlement.settle, failAttemptWithCapacity, hfind, hattempt, hopen, hkind,
        not_true_eq_false, if_false, if_true] at hsettle
      exact fail_leavesOthers hsettle

end Settled

/-! ## When a settlement commits -/

section Commits

variable {providers : ProviderTables} {capacity : InvokeAgentCapacityConfig}
  {settlement : Settlement} {tables : SchedulerTables} {queue settled : Database}
  {item : WorkItem} {itemId : Text} {expected : Option Uuid} {now : Instant}

theorem stagesApart_congr {reasonOf : PendingInvokeAgentWork → Text}
    {works works' : List PendingInvokeAgentWork} (hperm : works.Perm works') :
    StagesApart reasonOf works ↔ StagesApart reasonOf works' := by
  simp only [StagesApart, hperm.mem_iff]

/-- The refresh after a settlement reads the others as they were before it. -/
theorem othersInOrder_iff (hleaves : LeavesOthers settlement queue item settled) :
    ((∀ other ∈ dueInvokes settled now ++ heldInvokes settled,
        other.payload.isSome = true) ∧
      StagesApart (refreshReason providers capacity settled)
        (worksOf (dueInvokes settled now))) ↔
      OthersInOrder providers capacity settlement queue item now := by
  have hdue : (dueInvokes settled now).Perm (otherDueInvokes queue item.id now) := by
    refine (List.perm_insertionSort _ _).trans (List.Perm.of_eq ?_)
    refine hleaves.rows _ _ (fun row hrow => ?_) fun row => ?_
    · simp only [decide_eq_true_eq] at hrow
      exact ⟨hrow.1, by simp [WorkItem.isOpen, hrow.2.1]⟩
    · simp
  have hrunning : heldInvokes settled = otherHeldInvokes queue item.id := by
    refine hleaves.rows _ _ (fun row hrow => ?_) fun row => ?_
    · simp only [decide_eq_true_eq] at hrow
      exact ⟨hrow.1, by simp [WorkItem.isOpen, hrow.2]⟩
    · simp
  have hreason : refreshReason providers capacity settled =
      reasonAfter providers capacity settlement queue item := by
    funext work
    rw [refreshReason, reasonAfter, hleaves.stages, hleaves.running, hrunning]
  have hreadable (other : WorkItem) :
      other ∈ dueInvokes settled now ++ heldInvokes settled ↔
        other ∈ otherDueInvokes queue item.id now ++ otherHeldInvokes queue item.id := by
    rw [hrunning, List.mem_append, List.mem_append, hdue.mem_iff]
  have hworks : (worksOf (dueInvokes settled now)).Perm
      (worksOf (otherDueInvokes queue item.id now)) := hdue.filterMap _
  simp only [hreadable]
  rw [hreason, stagesApart_congr hworks]
  constructor
  · rintro ⟨hpayloads, hapart⟩
    exact ⟨hpayloads, hapart⟩
  · rintro ⟨hpayloads, hapart⟩
    exact ⟨hpayloads, hapart⟩

theorem exists_of_settlesInvoke (hinvoke : settlesInvoke queue itemId expected = true) :
    ∃ item, queue.workItems.find itemId = some item := by
  cases hfind : queue.workItems.find itemId with
  | none => simp [settlesInvoke, hfind] at hinvoke
  | some item => exact ⟨item, rfl⟩

/-- A settlement commits exactly when it goes through by itself and, if it settles an
open invocation, the others are in order. -/
theorem settleAttempt_commits_iff :
    (∃ written, settleAttemptWithRefresh providers capacity settlement tables itemId expected
      now = .ok written) ↔
    (∃ settled, settlement.settle tables.queue itemId expected now = .ok settled) ∧
      ∀ item, tables.queue.workItems.find itemId = some item →
        settlesInvoke tables.queue itemId expected = true →
          OthersInOrder providers capacity settlement tables.queue item now := by
  simp only [settleAttemptWithRefresh, bind_eq_ok_iff]
  by_cases hinvoke : settlesInvoke tables.queue itemId expected = true
  · obtain ⟨item, hfind⟩ := exists_of_settlesInvoke hinvoke
    have hothers (settled : Database)
        (hsettle : settlement.settle tables.queue itemId expected now = .ok settled) :
        (∃ written, refreshQueueSummariesForNotification providers capacity now
          { tables with queue := settled } = .ok written) ↔
        OthersInOrder providers capacity settlement tables.queue item now :=
      refresh_commits_iff.trans (othersInOrder_iff (settle_leavesOthers hfind hinvoke hsettle))
    simp only [hinvoke, if_true, hfind]
    constructor
    · rintro ⟨written, settled, hsettle, hrefresh⟩
      refine ⟨⟨settled, hsettle⟩, fun other hother _ => ?_⟩
      obtain rfl := Option.some.inj hother
      exact (hothers settled hsettle).1 ⟨written, hrefresh⟩
    · rintro ⟨⟨settled, hsettle⟩, horder⟩
      obtain ⟨written, hwritten⟩ := (hothers settled hsettle).2 (horder item rfl trivial)
      exact ⟨written, settled, hsettle, hwritten⟩
  · simp only [hinvoke]
    constructor
    · rintro ⟨-, settled, hsettle, -⟩
      exact ⟨⟨settled, hsettle⟩, fun _ _ hfalse => absurd hfalse (by simp)⟩
    · rintro ⟨⟨settled, hsettle⟩, -⟩
      exact ⟨_, settled, hsettle, rfl⟩

/-- **Independence.**  Of two queues with the same row for the item, either both or
neither let its settlement commit, exactly when, if the settlement goes through by itself
and settles an open invocation, the others are in order in both or in neither. -/
theorem settlement_independent_iff {items : Table WorkItem.id}
    (hown : items.find itemId = tables.queue.workItems.find itemId) :
    ((∃ written, settleAttemptWithRefresh providers capacity settlement tables itemId
        expected now = .ok written) ↔
      ∃ written, settleAttemptWithRefresh providers capacity settlement
        { tables with queue := { tables.queue with workItems := items } } itemId
        expected now = .ok written) ↔
    ((∃ settled, settlement.settle tables.queue itemId expected now = .ok settled) →
      settlesInvoke tables.queue itemId expected = true →
        ∀ item, tables.queue.workItems.find itemId = some item →
          (OthersInOrder providers capacity settlement tables.queue item now ↔
            OthersInOrder providers capacity settlement
              { tables.queue with workItems := items } item now)) := by
  have hinvoke : settlesInvoke { tables.queue with workItems := items } itemId expected =
      settlesInvoke tables.queue itemId expected := by
    simp only [settlesInvoke, hown]
    rfl
  rw [settleAttempt_commits_iff, settleAttempt_commits_iff]
  simp only [settle_commits_withItems hown, hown, hinvoke]
  constructor
  · intro hsame hsettles htrue item hfind
    constructor
    · intro horder
      refine (hsame.1 ⟨hsettles, fun other hother _ => ?_⟩).2 item hfind htrue
      obtain rfl := Option.some.inj (hfind.symm.trans hother)
      exact horder
    · intro horder
      refine (hsame.2 ⟨hsettles, fun other hother _ => ?_⟩).2 item hfind htrue
      obtain rfl := Option.some.inj (hfind.symm.trans hother)
      exact horder
  · intro hsame
    refine and_congr_right fun hsettles => ?_
    exact forall₃_congr fun item hfind htrue => hsame hsettles htrue item hfind

end Commits

/-- An invocation in the queue. -/
def queuedInvoke (id : String) (runId : Uuid) (payload : Option Json) : WorkItem where
  id := id.toList
  kind := .invokeAgent
  payload := payload
  status := .pending
  runId := some runId
  stageId := none
  createdAt := ⟨0, []⟩
  scheduledAt := ⟨0, []⟩
  startedAt := none
  completedAt := none
  failedAt := none
  attemptCount := 0
  lastError := none

def stagePayload : Option Json :=
  some (Json.ofFields [("stage_execution_id", .string "stage".toList)])

/-- Three queued invocations; the run and the payload of the last one are given. -/
def crowdedItems (runId : Uuid) (payload : Option Json) : Table WorkItem.id where
  rows := [queuedInvoke "first" (repeatedUuid 1) (some (.object [])),
    queuedInvoke "second" (repeatedUuid 1) stagePayload,
    queuedInvoke "third" runId payload]
  distinct := by
    change ["first".toList, "second".toList, "third".toList].Nodup
    decide

def crowdedTables (items : Table WorkItem.id) : SchedulerTables where
  queue := { Database.empty with workItems := items }
  summaries := Table.empty
  monitor := Monitor.initial

/-- Fail the first of the queued invocations. -/
def failFirst (items : Table WorkItem.id) : Except Text SchedulerTables :=
  settleAttemptWithRefresh ⟨fun _ => none, []⟩ ⟨8, 8, 8, fun _ => 8⟩ (.fail "stopped".toList)
    (crowdedTables items) "first".toList none ⟨1, []⟩

theorem crowd_inOrder {payload : Option Json}
    (hpayload : payload = stagePayload ∨ payload = some .null) :
    OthersInOrder ⟨fun _ => none, []⟩ ⟨8, 8, 8, fun _ => 8⟩ (.fail "stopped".toList)
      (crowdedTables (crowdedItems (repeatedUuid 1) payload)).queue
      (queuedInvoke "first" (repeatedUuid 1) (some (.object []))) ⟨1, []⟩ := by
  have hrun : ∀ work ∈ worksOf (otherDueInvokes
      (crowdedTables (crowdedItems (repeatedUuid 1) payload)).queue "first".toList ⟨1, []⟩),
      work.runId = some (repeatedUuid 1).text := by
    rcases hpayload with rfl | rfl <;> decide
  refine ⟨?_, fun work hwork other hother _ _ _ _ _ =>
    (hrun work hwork).trans (hrun other hother).symm⟩
  rcases hpayload with rfl | rfl <;> decide

/-- Another payload of the last invocation changes nothing if its run is the same. -/
theorem settlement_independent_of_payload :
    (∃ written, failFirst (crowdedItems (repeatedUuid 1) stagePayload) = .ok written) ↔
      ∃ written, failFirst (crowdedItems (repeatedUuid 1) (some .null)) = .ok written := by
  have hown : (crowdedItems (repeatedUuid 1) (some .null)).find "first".toList =
      (crowdedTables (crowdedItems (repeatedUuid 1) stagePayload)).queue.workItems.find
        "first".toList := rfl
  refine (settlement_independent_iff hown).2 fun _ _ item hitem => ?_
  obtain rfl := Option.some.inj hitem
  exact iff_of_true (crowd_inOrder (.inl rfl)) (crowd_inOrder (.inr rfl))

/-- The same settlement commits or is rolled back, depending on the run or the payload of
another invocation. -/
theorem others_block_settlement :
    (∃ written, failFirst (crowdedItems (repeatedUuid 1) stagePayload) = .ok written) ∧
    (¬∃ written, failFirst (crowdedItems (repeatedUuid 2) stagePayload) = .ok written) ∧
    ¬∃ written, failFirst (crowdedItems (repeatedUuid 1) none) = .ok written := by
  refine ⟨(isOk_eq_true_iff _).1 (by decide +kernel), ?_, ?_⟩
  · rw [← isOk_eq_true_iff]
    decide +kernel
  · rw [← isOk_eq_true_iff]
    decide +kernel

end ChainworksForge.Scheduler
