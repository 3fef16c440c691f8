import ChainworksForge.Queue.History

/-!
# What an action can do

No action removes an item, an execution or a repair record, or changes the kind
or the run of an item.  A new item is the advance of an invocation.  The claim of
an item stays, or it is taken out, or it becomes that of a new execution.
-/

namespace ChainworksForge.Queue

open ChainworksForge.Support

/-- The execution that has claimed an item, by its payload. -/
def WorkItem.claimant (item : WorkItem) : Option Text :=
  item.payload.bind claimedAgent

/-- What can become of an item.  The executions that may claim it anew are
given. -/
structure ItemEvolves (fresh : Uuid → Prop) (item item' : WorkItem) : Prop where
  id : item'.id = item.id
  kind : item'.kind = item.kind
  runId : item'.runId = item.runId
  claimant : item'.claimant = item.claimant ∨ item'.claimant = none ∨
    ∃ agent, fresh agent ∧ item'.claimant = some agent.text

/-- What can become of the items of the queue. -/
structure ItemsEvolve (fresh : Uuid → Prop) (items items' : Table WorkItem.id) :
    Prop where
  kept : ∀ id item, items.find id = some item →
    ∃ item', items'.find id = some item' ∧ ItemEvolves fresh item item'
  added : ∀ id item', items'.find id = some item' → items.find id = none →
    ∃ source ∈ items.rows, source.kind = .invokeAgent ∧
      id = advanceAfterInvokeId source.id ∧ item'.kind = .advanceRun ∧
      source.runId.isSome = true ∧ item'.runId = source.runId

/-- What can become of the tables. -/
structure Evolves (fresh : Uuid → Prop) (db db' : Database) : Prop where
  executions : Table.KeepsKeys db.agentExecutions db'.agentExecutions
  repairs : Table.KeepsKeys db.startupRepairs db'.startupRepairs
  items : ItemsEvolve fresh db.workItems db'.workItems

section Laws

variable {fresh : Uuid → Prop}

theorem ItemEvolves.refl (item : WorkItem) : ItemEvolves fresh item item :=
  ⟨rfl, rfl, rfl, .inl rfl⟩

theorem ItemEvolves.trans {a b c : WorkItem} (hab : ItemEvolves fresh a b)
    (hbc : ItemEvolves fresh b c) : ItemEvolves fresh a c := by
  refine ⟨hbc.id.trans hab.id, hbc.kind.trans hab.kind, hbc.runId.trans hab.runId, ?_⟩
  rcases hbc.claimant with hsame | hnone | hfresh
  · rw [hsame]
    exact hab.claimant
  · exact .inr (.inl hnone)
  · exact .inr (.inr hfresh)

theorem ItemsEvolve.refl (items : Table WorkItem.id) :
    ItemsEvolve fresh items items where
  kept := fun _ item hitem => ⟨item, hitem, .refl item⟩
  added := fun id item' hsome hnone => by
    rw [hnone] at hsome
    cases hsome

theorem ItemsEvolve.trans {items₁ items₂ items₃ : Table WorkItem.id}
    (h₁ : ItemsEvolve fresh items₁ items₂) (h₂ : ItemsEvolve fresh items₂ items₃) :
    ItemsEvolve fresh items₁ items₃ where
  kept := by
    intro id item hitem
    obtain ⟨item', hitem', hevolves⟩ := h₁.kept id item hitem
    obtain ⟨item'', hitem'', hevolves'⟩ := h₂.kept id item' hitem'
    exact ⟨item'', hitem'', hevolves.trans hevolves'⟩
  added := by
    intro id item'' hitem'' hnone
    cases hmiddle : items₂.find id with
    | some item' =>
        obtain ⟨source, hsource, hinvoke, hid, hkind, hrun, hsame⟩ :=
          h₁.added id item' hmiddle hnone
        obtain ⟨item, hitem, hevolves⟩ := h₂.kept id item' hmiddle
        obtain rfl : item = item'' := by
          rw [hitem] at hitem''
          exact Option.some.inj hitem''
        exact ⟨source, hsource, hinvoke, hid, hevolves.kind.trans hkind, hrun,
          hevolves.runId.trans hsame⟩
    | none =>
        obtain ⟨source, hsource, hinvoke, hid, hkind, hrun, hsame⟩ :=
          h₂.added id item'' hitem'' hmiddle
        have hfound := items₂.find_of_mem hsource
        cases hold : items₁.find source.id with
        | some old =>
            obtain ⟨item, hitem, hevolves⟩ := h₁.kept source.id old hold
            obtain rfl : item = source := by
              rw [hitem] at hfound
              exact Option.some.inj hfound
            exact ⟨old, (items₁.find_eq_some_iff.1 hold).1,
              hevolves.kind ▸ hinvoke, hevolves.id ▸ hid, hkind,
              hevolves.runId ▸ hrun, hsame.trans hevolves.runId⟩
        | none =>
            -- A new item is an advance, and an advance has no advance of its own.
            obtain ⟨_, _, _, _, hadvance, _⟩ := h₁.added source.id source hfound hold
            rw [hinvoke] at hadvance
            cases hadvance

theorem ItemsEvolve.mono {fresh' : Uuid → Prop} {items items' : Table WorkItem.id}
    (hfresh : ∀ agent, fresh agent → fresh' agent)
    (h : ItemsEvolve fresh items items') : ItemsEvolve fresh' items items' where
  kept := by
    intro id item hitem
    obtain ⟨item', hitem', hevolves⟩ := h.kept id item hitem
    refine ⟨item', hitem', hevolves.id, hevolves.kind, hevolves.runId, ?_⟩
    rcases hevolves.claimant with hsame | hnone | ⟨agent, hagent, hclaim⟩
    · exact .inl hsame
    · exact .inr (.inl hnone)
    · exact .inr (.inr ⟨agent, hfresh agent hagent, hclaim⟩)
  added := h.added

theorem itemsEvolve_update {items : Table WorkItem.id} {condition : WorkItem → Bool}
    {change : WorkItem → WorkItem}
    (hkey : ∀ item, (change item).id = item.id)
    (hchange : ∀ item, condition item = true → ItemEvolves fresh item (change item)) :
    ItemsEvolve fresh items (items.update condition change hkey) where
  kept := by
    intro id item hitem
    rw [Table.find_update, hitem]
    refine ⟨_, rfl, ?_⟩
    by_cases hrow : condition item = true
    · simpa [hrow] using hchange item hrow
    · simpa [hrow] using ItemEvolves.refl item
  added := by
    intro id item' hsome hnone
    rw [Table.find_update, hnone] at hsome
    cases hsome

theorem itemsEvolve_insertOrIgnore {items : Table WorkItem.id} {source : WorkItem}
    (hsource : source ∈ items.rows) (hinvoke : source.kind = .invokeAgent)
    {runId : Uuid} (hrun : source.runId = some runId) (payload : Json)
    (stageId : Option Text) (now : Instant) :
    ItemsEvolve fresh items (items.insertOrIgnore
      (advanceAfterInvoke source.id runId payload stageId now)) where
  kept := fun id item hitem =>
    ⟨item, items.find_insertOrIgnore_of_some hitem, .refl item⟩
  added := by
    intro id item' hsome hnone
    rw [Table.find_insertOrIgnore, hnone, Option.none_or] at hsome
    split_ifs at hsome with hid
    obtain rfl := Option.some.inj hsome
    exact ⟨source, hsource, hinvoke, hid.symm, rfl, by rw [hrun]; rfl, hrun.symm⟩

theorem Evolves.refl (db : Database) : Evolves fresh db db :=
  ⟨.refl _, .refl _, .refl _⟩

theorem Evolves.trans {db₁ db₂ db₃ : Database} (h₁ : Evolves fresh db₁ db₂)
    (h₂ : Evolves fresh db₂ db₃) : Evolves fresh db₁ db₃ :=
  ⟨h₁.executions.trans h₂.executions, h₁.repairs.trans h₂.repairs,
    h₁.items.trans h₂.items⟩

theorem Evolves.mono {fresh' : Uuid → Prop} {db db' : Database}
    (hfresh : ∀ agent, fresh agent → fresh' agent) (h : Evolves fresh db db') :
    Evolves fresh' db db' :=
  ⟨h.executions, h.repairs, h.items.mono hfresh⟩

end Laws

/-! ## Claims in payloads -/

theorem claimedRecord_requeuedPayload (payload : Json) (stamp : Stamp) :
    claimedRecord (requeuedPayload payload stamp) = none := by
  have hne : "p058_claimed".toList ≠ stamp.key.toList :=
    fun h => stamp.not_claim (String.toList_injective h).symm
  rw [claimedRecord, requeuedPayload, Json.get_insert_of_ne hne]
  exact Json.get_remove_self payload "p058_claimed"

theorem claimedAgent_requeuedPayload (payload : Json) (stamp : Stamp) :
    claimedAgent (requeuedPayload payload stamp) = none := by
  rw [claimedAgent_eq, claimedRecord_requeuedPayload]
  rfl

theorem claimedRecord_withRunId (payload : Json) (runId : Option Uuid) :
    claimedRecord (withRunId payload runId) = claimedRecord payload := by
  cases runId with
  | none => rfl
  | some runId =>
      rw [withRunId]
      split_ifs
      · rfl
      · exact Json.get_insert_of_ne (by decide) _

theorem claimedAgent_withRunId (payload : Json) (runId : Option Uuid) :
    claimedAgent (withRunId payload runId) = claimedAgent payload := by
  rw [claimedAgent_eq, claimedAgent_eq, claimedRecord_withRunId]

theorem getStr_withoutSession (record : Json) :
    (withoutSession record).getStr "agent_execution_id" =
      record.getStr "agent_execution_id" := by
  rw [Json.getStr, Json.getStr, withoutSession, Json.get_remove_of_ne (by decide),
    Json.get_remove_of_ne (by decide)]

example : (withoutSession (.ofFields [("agent_execution_id", .string "a".toList)])).getStr
    "agent_execution_id" = some "a".toList := by decide +kernel

/-! ## Steps of the operations -/

section Steps

variable {fresh : Uuid → Prop} (db : Database)

theorem requeueRunning_evolves (itemId : Text) (payload : Json) (stamp : Stamp)
    (columns : RequeueColumns) :
    Evolves fresh db
      (requeueRunning db itemId (requeuedPayload payload stamp) columns) := by
  refine ⟨.refl _, .refl _, itemsEvolve_update (fun _ => by rfl) fun item _ => ?_⟩
  exact ⟨rfl, rfl, rfl, .inr (.inl (claimedAgent_requeuedPayload payload stamp))⟩

theorem supersedeAbandoned_evolves (itemId : Text) (payload : Json)
    (settledAt : Instant) :
    Evolves fresh db
      (supersedeAbandonedPreclaimForRetry db itemId payload settledAt) := by
  rw [supersedeAbandonedPreclaimForRetry]
  cases claimedAgent payload with
  | none => exact .refl db
  | some agent =>
      cases claimedKey payload with
      | none => exact ⟨Table.keepsKeys_update _ fun _ => by rfl, .refl _, .refl _⟩
      | some key => exact ⟨Table.keepsKeys_update _ fun _ => by rfl, .refl _, .refl _⟩

theorem abandonAndRequeue_evolves (itemId : Text) (payload : Json) (stamp : Stamp)
    (columns : RequeueColumns) (settledAt : Instant) :
    Evolves fresh db
      (abandonAndRequeue db itemId payload stamp columns settledAt) :=
  (supersedeAbandoned_evolves db itemId payload settledAt).trans
    (requeueRunning_evolves _ itemId payload stamp columns)

theorem requeueAndSupersede_evolves (itemId : Text)
    (key : ArtifactSourceGenerationClaimKey) (payload : Json) (stamp : Stamp)
    (columns : RequeueColumns) (scheduledAt : Instant) :
    Evolves fresh db
      (requeueAndSupersede db itemId key payload stamp columns scheduledAt) :=
  (requeueRunning_evolves db itemId payload stamp columns).trans
    ⟨.refl _, .refl _, .refl _⟩

theorem markCompleted_evolves (itemId : Text) (now : Instant) :
    Evolves fresh db (markCompleted db itemId now) := by
  refine ⟨.refl _, .refl _, itemsEvolve_update (fun _ => by rfl) fun item _ => ?_⟩
  exact ⟨rfl, rfl, rfl, .inl rfl⟩

theorem markFailed_evolves (itemId error : Text) (now : Instant) :
    Evolves fresh db (markFailed db itemId error now) := by
  refine ⟨.refl _, .refl _, itemsEvolve_update (fun _ => by rfl) fun item _ => ?_⟩
  exact ⟨rfl, rfl, rfl, .inl rfl⟩

theorem failExhausted_evolves (itemId : Text) (now : Instant) :
    Evolves fresh db (failExhausted db itemId now) := by
  refine ⟨.refl _, .refl _, itemsEvolve_update (fun _ => by rfl) fun item _ => ?_⟩
  exact ⟨rfl, rfl, rfl, .inl rfl⟩

theorem settleHostCleanup_evolves (agent : Text) (now : Instant)
    (row : HostInterruptionAffectedExecution) :
    Evolves fresh db (settleHostCleanup agent now db row) := by
  have hended (generationId : Text) :
      Evolves fresh db (endActiveGeneration db generationId row.epochId now) := by
    rw [endActiveGeneration]
    cases db.sessionGenerations.find generationId with
    | none => exact .refl db
    | some generation =>
        simp only
        split_ifs
        · exact ⟨.refl _, .refl _, .refl _⟩
        · exact .refl db
  rw [settleHostCleanup]
  cases (db.agentExecutions.find row.agentExecutionId).bind
      (·.sessionGenerationId) with
  | none => exact ⟨.refl _, .refl _, .refl _⟩
  | some generationId => exact (hended generationId).trans ⟨.refl _, .refl _, .refl _⟩

theorem settleHostCleanupAfterStartupRequeue_evolves (itemId : Text)
    (agent : Option Text) (now : Instant) :
    Evolves fresh db
      (settleHostCleanupAfterStartupRequeue db itemId agent now) := by
  cases agent with
  | none => exact .refl db
  | some agent =>
      exact foldl_preserves (P := Evolves fresh db)
        (fun db' row _ h => h.trans (settleHostCleanup_evolves db' agent now row))
        (.refl db)

theorem requeueOnStartup_evolves (itemId : Text) (payload : Json) (stamp : Stamp)
    (reason : Text) (scheduledAt : Instant) :
    Evolves fresh db
      (requeueOnStartup db itemId payload stamp reason scheduledAt) :=
  (requeueRunning_evolves db itemId payload stamp _).trans
    (settleHostCleanupAfterStartupRequeue_evolves _ itemId _ scheduledAt)

theorem recordRepair_evolves (repair : StartupRepair) :
    Evolves fresh db (recordRepair db repair) :=
  ⟨.refl _, Table.keepsKeys_insertOrIgnore _ repair, .refl _⟩

theorem updateRepairNotes_evolves (repairId : Text)
    (change : Option Json → Option Json) :
    Evolves fresh db (updateRepairNotes db repairId change) :=
  ⟨.refl _, Table.keepsKeys_update _ fun _ => by rfl, .refl _⟩

theorem applyStartupDecision_evolves (item : WorkItem) (payload : Json)
    (runId : Option Uuid) (scheduledAt : Instant) (reason : Text)
    (decision : StartupDecision) :
    Evolves fresh db
      (applyStartupDecision db item payload runId scheduledAt reason decision) := by
  cases decision with
  | plain => exact requeueOnStartup_evolves db _ _ _ _ _
  | once journalId integrity =>
      exact (recordRepair_evolves db _).trans
        (requeueOnStartup_evolves _ _ _ _ _ _)
  | replay journalId =>
      exact (updateRepairNotes_evolves db _ _).trans
        (requeueOnStartup_evolves _ _ _ _ _ _)
  | exhausted journalId =>
      exact (updateRepairNotes_evolves db _ _).trans (failExhausted_evolves _ _ _)

example : (failExhausted Database.empty "item".toList ⟨0, []⟩).workItems.rows = [] := by
  decide +kernel

end Steps

/-! ## Settlements -/

section Settlements

variable {fresh : Uuid → Prop} {db db' : Database} {item : WorkItem} {now : Instant}

/-- Building the payload of an advance changes at most the authorities. -/
theorem checkSourceInvoke_frame {itemId : Text} {hints : InvokeHints}
    {sourceStage : Option Text} {found : RetryStageExecutionAuthority}
    {active : Option RetryStageExecutionAuthority}
    (hcheck : checkSourceInvoke db now itemId hints sourceStage found =
      .ok (db', active)) :
    ∃ authorities, db' = { db with retryAuthorities := authorities } := by
  rw [checkSourceInvoke] at hcheck
  split at hcheck
  · cases hcheck
    exact ⟨db.retryAuthorities, rfl⟩
  · split_ifs at hcheck <;> cases hcheck
    · exact ⟨db.retryAuthorities, rfl⟩
    · exact ⟨db.retryAuthorities, rfl⟩
    · exact ⟨_, rfl⟩

theorem resolveAuthority_frame {runId : Uuid} {itemId : Text} {source : Option Json}
    {active : Option RetryStageExecutionAuthority}
    (hresolve : resolveAuthority db now runId itemId source = .ok (db', active)) :
    ∃ authorities, db' = { db with retryAuthorities := authorities } := by
  simp only [resolveAuthority] at hresolve
  obtain ⟨_, _, hresolve⟩ := (bind_eq_ok_iff _ _ _).1 hresolve
  obtain ⟨_, _, hresolve⟩ := (bind_eq_ok_iff _ _ _).1 hresolve
  obtain ⟨_, _, hresolve⟩ := (bind_eq_ok_iff _ _ _).1 hresolve
  obtain ⟨found, _, hresolve⟩ := (bind_eq_ok_iff _ _ _).1 hresolve
  obtain ⟨_, _, hresolve⟩ := (bind_eq_ok_iff _ _ _).1 hresolve
  cases found with
  | none =>
      cases hresolve
      exact ⟨db.retryAuthorities, rfl⟩
  | some row =>
      obtain ⟨⟨checked, kept⟩, hcheck, hresolve⟩ := (bind_eq_ok_iff _ _ _).1 hresolve
      obtain ⟨_, _, hsame⟩ := (bind_eq_ok_iff _ _ _).1 hresolve
      obtain ⟨rfl, rfl⟩ : checked = db' ∧ kept = active := by
        simpa using (pure_eq_ok_iff _ _).1 hsame
      exact checkSourceInvoke_frame hcheck

/-- A queued advance leaves the other tables as they are, apart from the
authorities. -/
theorem enqueueAdvance_cases {outcome : InvokeOutcome}
    (henqueue : enqueueAdvance db item outcome now = .ok db') :
    (item.runId = none ∧ db' = db) ∨
      ∃ runId payload stageId authorities,
        item.runId = some runId ∧
        db' = { db with
          retryAuthorities := authorities
          workItems := db.workItems.insertOrIgnore
            (advanceAfterInvoke item.id runId payload stageId now) } := by
  rw [enqueueAdvance] at henqueue
  split at henqueue
  · rename_i hrun
    cases henqueue
    exact .inl ⟨hrun, rfl⟩
  · rename_i runId hrun
    obtain ⟨⟨settled, payload, stageId⟩, hbuild, henqueue⟩ :=
      (bind_eq_ok_iff _ _ _).1 henqueue
    obtain ⟨⟨resolved, active⟩, hresolve, hbuild⟩ := (bind_eq_ok_iff _ _ _).1 hbuild
    obtain ⟨rfl, rfl, rfl⟩ := by simpa using (pure_eq_ok_iff _ _).1 hbuild
    obtain ⟨authorities, rfl⟩ := resolveAuthority_frame hresolve
    obtain rfl := (pure_eq_ok_iff _ _).1 henqueue
    exact .inr ⟨runId, _, _, authorities, hrun, rfl⟩

theorem enqueueAdvance_evolves {outcome : InvokeOutcome}
    (hsource : ∃ row ∈ db.workItems.rows, row.id = item.id ∧
      row.kind = .invokeAgent ∧ row.runId = item.runId)
    (henqueue : enqueueAdvance db item outcome now = .ok db') :
    Evolves fresh db db' := by
  rcases enqueueAdvance_cases henqueue with
    ⟨_, rfl⟩ | ⟨runId, payload, stageId, authorities, hrun, rfl⟩
  · exact .refl db'
  · obtain ⟨row, hrow, hid, hkind, hsame⟩ := hsource
    refine ⟨.refl _, .refl _, ?_⟩
    rw [← hid]
    exact itemsEvolve_insertOrIgnore hrow hkind (hsame.trans hrun) payload stageId now

/-- The guard changes at most the runtime facts. -/
theorem validateRunningInvokeCompletion_frame {itemId : Text} {payload : Option Json}
    (hvalid : validateRunningInvokeCompletionHasValidOutputs db itemId payload now =
      .ok db') :
    ∃ facts, db' = { db with runtimeFacts := facts } := by
  obtain ⟨owner, _, hvalid⟩ := (bind_eq_ok_iff _ _ _).1 hvalid
  obtain ⟨_, _, hvalid⟩ := (bind_eq_ok_iff _ _ _).1 hvalid
  obtain rfl := (pure_eq_ok_iff _ _).1 hvalid
  exact ⟨_, rfl⟩

/-- An item that an evolution has kept is a row of the new table. -/
theorem Evolves.exists_row (hevolves : Evolves fresh db db')
    (hitem : db.workItems.find item.id = some item) :
    ∃ row ∈ db'.workItems.rows, row.id = item.id ∧ row.kind = item.kind ∧
      row.runId = item.runId := by
  obtain ⟨row, hrow, hrowEvolves⟩ := hevolves.items.kept item.id item hitem
  exact ⟨row, (db'.workItems.find_eq_some_iff.1 hrow).1, hrowEvolves.id,
    hrowEvolves.kind, hrowEvolves.runId⟩

theorem settleClaim_evolves (itemId agent : Text) (now : Instant) :
    Evolves fresh db (settleClaim db itemId agent now) :=
  ⟨Table.keepsKeys_update _ fun _ => by rfl, .refl _, .refl _⟩

theorem completeRunningInvoke_evolves
    (hitem : db.workItems.find item.id = some item)
    (hinvoke : item.kind = .invokeAgent)
    (hcomplete : completeRunningInvoke db item now = .ok db') :
    Evolves fresh db db' := by
  obtain ⟨guarded, hguard, hcomplete⟩ := (bind_eq_ok_iff _ _ _).1 hcomplete
  obtain ⟨facts, rfl⟩ := validateRunningInvokeCompletion_frame hguard
  have hguarded : Evolves fresh db { db with runtimeFacts := facts } :=
    ⟨.refl _, .refl _, .refl _⟩
  have hmarked := hguarded.trans (markCompleted_evolves _ item.id now)
  cases hclaim : item.payload.bind claimedAgent with
  | none =>
      rw [hclaim] at hcomplete
      refine hmarked.trans (enqueueAdvance_evolves ?_ hcomplete)
      simpa [hinvoke] using hmarked.exists_row hitem
  | some agent =>
      rw [hclaim] at hcomplete
      have hsettled := hmarked.trans (settleClaim_evolves item.id agent now)
      refine hsettled.trans (enqueueAdvance_evolves ?_ hcomplete)
      simpa [hinvoke] using hsettled.exists_row hitem

/-- Completing changes nothing, or settles a running invocation, or marks
another open item. -/
theorem completeAttempt_cases {itemId : Text} {expected : Option Uuid}
    (hcomplete : completeAttemptWithCapacity db itemId expected now = .ok db') :
    db' = db ∨ ∃ item, db.workItems.find itemId = some item ∧ item.id = itemId ∧
      matchesWorkItemAttempt db item expected = true ∧ item.isOpen = true ∧
      ((item.kind = .invokeAgent ∧ item.status = .running ∧
          completeRunningInvoke db item now = .ok db') ∨
        ¬(item.kind = .invokeAgent ∧ item.status = .running) ∧
          db' = markCompleted db itemId now) := by
  rw [completeAttemptWithCapacity] at hcomplete
  cases hfind : db.workItems.find itemId with
  | none =>
      rw [hfind] at hcomplete
      cases hcomplete
      exact .inl rfl
  | some item =>
      have hid : item.id = itemId := (db.workItems.find_eq_some_iff.1 hfind).2
      simp only [hfind] at hcomplete
      by_cases hattempt : matchesWorkItemAttempt db item expected = true
      · by_cases hopen : item.isOpen = true
        · refine .inr ⟨item, rfl, hid, hattempt, hopen, ?_⟩
          by_cases hrunning : item.kind = .invokeAgent ∧ item.status = .running
          · simp only [hattempt, hopen, hrunning, not_true_eq_false, and_self,
              if_true, if_false] at hcomplete
            exact .inl ⟨hrunning.1, hrunning.2, hcomplete⟩
          · simp only [hattempt, hopen, hrunning, not_true_eq_false, if_false]
              at hcomplete
            cases hcomplete
            exact .inr ⟨hrunning, rfl⟩
        · simp only [hattempt, hopen, not_true_eq_false, if_false] at hcomplete
          cases hcomplete
          exact .inl rfl
      · simp only [hattempt] at hcomplete
        cases hcomplete
        exact .inl rfl

/-- Failing changes nothing, or marks an open item and queues the advance of an
invocation. -/
theorem failAttempt_cases {itemId error : Text} {expected : Option Uuid}
    (hfail : failAttemptWithCapacity db itemId error expected now = .ok db') :
    db' = db ∨ ∃ item, db.workItems.find itemId = some item ∧ item.id = itemId ∧
      matchesWorkItemAttempt db item expected = true ∧ item.isOpen = true ∧
      ((item.kind = .invokeAgent ∧
          enqueueAdvance (markFailed db itemId error now) item .failed now = .ok db') ∨
        item.kind ≠ .invokeAgent ∧ db' = markFailed db itemId error now) := by
  rw [failAttemptWithCapacity] at hfail
  cases hfind : db.workItems.find itemId with
  | none =>
      rw [hfind] at hfail
      cases hfail
      exact .inl rfl
  | some item =>
      have hid : item.id = itemId := (db.workItems.find_eq_some_iff.1 hfind).2
      simp only [hfind] at hfail
      by_cases hattempt : matchesWorkItemAttempt db item expected = true
      · by_cases hopen : item.isOpen = true
        · refine .inr ⟨item, rfl, hid, hattempt, hopen, ?_⟩
          by_cases hinvoke : item.kind = .invokeAgent
          · simp only [hattempt, hopen, hinvoke, not_true_eq_false, if_true,
              if_false] at hfail
            exact .inl ⟨hinvoke, hfail⟩
          · simp only [hattempt, hopen, hinvoke, not_true_eq_false, if_false] at hfail
            cases hfail
            exact .inr ⟨hinvoke, rfl⟩
        · simp only [hattempt, hopen, not_true_eq_false, if_false] at hfail
          cases hfail
          exact .inl rfl
      · simp only [hattempt] at hfail
        cases hfail
        exact .inl rfl

theorem completeAttempt_evolves {itemId : Text} {expected : Option Uuid}
    (hcomplete : completeAttemptWithCapacity db itemId expected now = .ok db') :
    Evolves fresh db db' := by
  rcases completeAttempt_cases hcomplete with
    rfl | ⟨item, hfind, rfl, _, _, ⟨hinvoke, _, hrunning⟩ | ⟨_, rfl⟩⟩
  · exact .refl db'
  · exact completeRunningInvoke_evolves hfind hinvoke hrunning
  · exact markCompleted_evolves db item.id now

theorem failAttempt_evolves {itemId error : Text} {expected : Option Uuid}
    (hfail : failAttemptWithCapacity db itemId error expected now = .ok db') :
    Evolves fresh db db' := by
  rcases failAttempt_cases hfail with
    rfl | ⟨item, hfind, rfl, _, _, ⟨hinvoke, hqueued⟩ | ⟨_, rfl⟩⟩
  · exact .refl db'
  · have hmarked : Evolves fresh db (markFailed db item.id error now) :=
      markFailed_evolves db item.id error now
    refine hmarked.trans (enqueueAdvance_evolves ?_ hqueued)
    simpa [hinvoke] using hmarked.exists_row hfind
  · exact markFailed_evolves db item.id error now

end Settlements

/-! ## Requeues -/

section Requeues

variable {fresh : Uuid → Prop} {db db' : Database}

theorem transientRequeue_evolves (itemId : Text) (later : ℕ → Instant)
    (error : Text) (expected : Option Uuid) :
    Evolves fresh db (requeueAttemptAfterTransientPersistenceContention db itemId
      later error expected).1 := by
  rw [requeueAttemptAfterTransientPersistenceContention]
  cases db.workItems.find itemId with
  | none => exact .refl db
  | some item =>
      simp only
      split_ifs
      · exact .refl db
      · refine ⟨.refl _, .refl _, itemsEvolve_update (fun _ => by rfl) fun item _ => ?_⟩
        exact ⟨rfl, rfl, rfl, .inl rfl⟩
      · exact .refl db

theorem activePromptClose_evolves {itemId : Text}
    {key : ArtifactSourceGenerationClaimKey} {generation : Option Text}
    {scheduledAt : Instant} {reason : Text} {requeued : Bool}
    (hrequeue : requeueRunningInvokeAgentAfterActivePromptClose db itemId key
      generation scheduledAt reason = .ok (db', requeued)) :
    Evolves fresh db db' := by
  rw [requeueRunningInvokeAgentAfterActivePromptClose] at hrequeue
  split at hrequeue
  · cases hrequeue
    exact .refl db
  · split_ifs at hrequeue
    · obtain ⟨payload, _, hrequeue⟩ := (bind_eq_ok_iff _ _ _).1 hrequeue
      split_ifs at hrequeue <;> cases hrequeue
      · exact requeueAndSupersede_evolves db _ _ _ _ _ _
      · exact .refl db
    · cases hrequeue
      exact .refl db

theorem providerCapacityWait_evolves {itemId : Text}
    {key : ArtifactSourceGenerationClaimKey} {scheduledAt : Instant} {reason : Text}
    {requeued : Bool}
    (hrequeue : requeueRunningInvokeAgentAfterProviderCapacityWait db itemId key
      scheduledAt reason = .ok (db', requeued)) :
    Evolves fresh db db' := by
  rw [requeueRunningInvokeAgentAfterProviderCapacityWait] at hrequeue
  split at hrequeue
  · cases hrequeue
    exact .refl db
  · split_ifs at hrequeue
    · obtain ⟨payload, _, hrequeue⟩ := (bind_eq_ok_iff _ _ _).1 hrequeue
      cases hrequeue
      exact requeueAndSupersede_evolves db _ _ _ _ _ _
    · cases hrequeue
      exact .refl db

theorem requeuePreclaimedInvoke_evolves (stageExecutionId : Text) (now : Instant)
    (item : WorkItem) :
    Evolves fresh db (requeuePreclaimedInvoke stageExecutionId now db item) := by
  rw [requeuePreclaimedInvoke]
  split
  · exact .refl db
  · split_ifs
    · exact abandonAndRequeue_evolves db _ _ _ _ _
    · exact .refl db

theorem requeueInterruptedInvoke_evolves (runId stageExecutionId : Uuid)
    (scheduledAt : Instant) (interrupted : Option InterruptedExecution)
    (candidates : ℕ) (agentId : Option Text) (item : WorkItem) :
    Evolves fresh db (requeueInterruptedInvoke runId stageExecutionId scheduledAt
      interrupted candidates agentId db item) := by
  rw [requeueInterruptedInvoke]
  split
  · exact .refl db
  · split_ifs
    · have hrequeue (payload : Json) (stamp : Stamp) (columns : RequeueColumns)
          (settledAt : Instant) : Evolves fresh db
            (abandonAndRequeue db item.id payload stamp columns settledAt) :=
        abandonAndRequeue_evolves db item.id payload stamp columns settledAt
      cases interrupted with
      | none => exact hrequeue _ _ _ _
      | some execution =>
          exact (hrequeue _ _ _ _).trans ⟨.refl _, .refl _, .refl _⟩
    · exact .refl db

theorem startupRequeueItem_evolves {scheduledAt : Instant} {reason : Text}
    {item : WorkItem}
    (hrequeue : startupRequeueItem scheduledAt reason db item = .ok db') :
    Evolves fresh db db' := by
  obtain ⟨decision, _, hrequeue⟩ := (bind_eq_ok_iff _ _ _).1 hrequeue
  obtain rfl := (pure_eq_ok_iff _ _).1 hrequeue
  exact (supersedeAbandoned_evolves db _ _ _).trans
    (applyStartupDecision_evolves _ _ _ _ _ _ _)

theorem requeueStalePreSession_evolves {scheduledAt : Instant}
    {cutoffs : StaleCutoffs} {reason : Text} {item : WorkItem}
    (hrequeue : requeueStalePreSession scheduledAt cutoffs reason db item = .ok db') :
    Evolves fresh db db' := by
  rw [requeueStalePreSession] at hrequeue
  split_ifs at hrequeue
  · obtain rfl := (pure_eq_ok_iff _ _).1 hrequeue
    exact .refl db
  · obtain rfl := (pure_eq_ok_iff _ _).1 hrequeue
    exact abandonAndRequeue_evolves db _ _ _ _ _

theorem requeueStaleStarting_evolves {scheduledAt : Instant}
    {cutoffs : StaleCutoffs} {reason : Text} {row : WorkItem × SessionGeneration}
    (hrequeue : requeueStaleStarting scheduledAt cutoffs reason db row = .ok db') :
    Evolves fresh db db' := by
  rw [requeueStaleStarting] at hrequeue
  split_ifs at hrequeue
  · obtain rfl := (pure_eq_ok_iff _ _).1 hrequeue
    exact .refl db
  · obtain ⟨repairs, hrepairs, hrequeue⟩ := (bind_eq_ok_iff _ _ _).1 hrequeue
    obtain rfl := (pure_eq_ok_iff _ _).1 hrequeue
    have hinserted := (required_eq_ok_iff _ _ _).1 hrepairs
    have hinvalidated : Evolves fresh db (invalidateStarting
        (supersedeAbandonedPreclaimForRetry db row.1.id
          (row.1.payload.getD (.object [])) scheduledAt) row.2 row.1.id
        (cutoffs.of (xcodeRequired (row.1.payload.getD (.object []))))
        scheduledAt) :=
      (supersedeAbandoned_evolves db _ _ _).trans ⟨.refl _, .refl _, .refl _⟩
    exact (hinvalidated.trans (requeueRunning_evolves _ _ _ _ _)).trans
      ⟨.refl _, Table.keepsKeys_of_insert _ hinserted, .refl _⟩

end Requeues

/-! ## Claims -/

section Claims

variable {db db' : Database} {item : WorkItem}

/-- The executions that are not in the tables. -/
def Unused (db : Database) (agent : Uuid) : Prop :=
  db.agentExecutions.find agent = none

/-- Starting an item with the claim it carries, or with that of a new
execution. -/
theorem startItem_evolves {fresh : Uuid → Prop} {payload : Json} {now : Instant}
    (hitem : db.workItems.find item.id = some item)
    (hclaim : claimedAgent payload = item.claimant ∨
      ∃ agent, fresh agent ∧ claimedAgent payload = some agent.text) :
    Evolves fresh db (startItem db item.id payload now) := by
  refine ⟨.refl _, .refl _, ?_, ?_⟩
  · intro id row hrow
    rw [startItem, Table.find_update, hrow]
    refine ⟨_, rfl, ?_⟩
    by_cases hstarted : row.id = item.id ∧ row.status = .pending
    · have hid : row.id = id := (db.workItems.find_eq_some_iff.1 hrow).2
      obtain rfl : row = item := by
        rw [← hid, hstarted.1, hitem] at hrow
        exact (Option.some.inj hrow).symm
      simp only [hstarted, and_self, decide_true, if_true]
      refine ⟨rfl, rfl, rfl, ?_⟩
      rcases hclaim with hsame | hfresh
      · exact .inl hsame
      · exact .inr (.inr hfresh)
    · simp only [hstarted, decide_false, Bool.false_eq_true, if_false]
      exact .refl row
  · intro id row hsome hnone
    rw [startItem, Table.find_update, hnone] at hsome
    cases hsome

theorem resumeClaim_cases {payload record : Json} {now : Instant}
    {claimed : ClaimedInvokeAgentStart}
    (hresume : resumeClaim db item payload record now = .ok (db', claimed)) :
    ∃ raw, record.getStr "agent_execution_id" = some raw ∧
      Uuid.parse raw = some claimed.agentExecutionId ∧
      (db' = startItem db item.id payload now ∨
        ∃ agent key, db' = dropSession (startItem db item.id
          (payload.insert "p058_claimed" (withoutSession record)) now) agent key
          now) := by
  obtain ⟨rawKey, _, hresume⟩ := (bind_eq_ok_iff _ _ _).1 hresume
  obtain ⟨key, _, hresume⟩ := (bind_eq_ok_iff _ _ _).1 hresume
  obtain ⟨raw, hraw, hresume⟩ := (bind_eq_ok_iff _ _ _).1 hresume
  obtain ⟨agent, hagent, hresume⟩ := (bind_eq_ok_iff _ _ _).1 hresume
  obtain ⟨stage, _, hresume⟩ := (bind_eq_ok_iff _ _ _).1 hresume
  refine ⟨raw, (required_eq_ok_iff _ _ _).1 hraw, ?_⟩
  simp only at hresume
  split_ifs at hresume <;> cases hresume
  · exact ⟨(required_eq_ok_iff _ _ _).1 hagent, .inr ⟨agent, key, rfl⟩⟩
  · exact ⟨(required_eq_ok_iff _ _ _).1 hagent, .inl rfl⟩

theorem isObject_of_claimedRecord {payload record : Json}
    (hrecord : claimedRecord payload = some record) : payload.isObject = true := by
  cases payload with
  | object fields => rfl
  | null | bool _ | number _ | string _ | array _ => cases hrecord

/-- Whatever resuming writes, the execution that has claimed the item stays. -/
theorem resumeClaim_evolves {fresh : Uuid → Prop} {payload record : Json}
    {now : Instant} {claimed : ClaimedInvokeAgentStart}
    (hitem : db.workItems.find item.id = some item)
    (hrecord : claimedRecord payload = some record)
    (hclaim : claimedAgent payload = item.claimant)
    (hresume : resumeClaim db item payload record now = .ok (db', claimed)) :
    Evolves fresh db db' := by
  obtain ⟨raw, _, _, rfl | ⟨agent, key, rfl⟩⟩ := resumeClaim_cases hresume
  · exact startItem_evolves hitem (.inl hclaim)
  · have hkept : claimedAgent (payload.insert "p058_claimed" (withoutSession record)) =
        item.claimant := by
      rw [← hclaim, claimedAgent_eq, claimedAgent_eq, claimedRecord,
        Json.get_insert_self (isObject_of_claimedRecord hrecord), hrecord]
      exact getStr_withoutSession record
    exact (startItem_evolves hitem (.inl hkept)).trans
      ⟨Table.keepsKeys_update _ fun _ => by rfl, .refl _, .refl _⟩

/-- The record of a new claim names its execution. -/
theorem getStr_startedRecord (key : ArtifactSourceGenerationClaimKey)
    (session : Option Text) :
    (startedRecord key session).getStr "agent_execution_id" =
      some key.agentExecutionId.text := by
  cases session <;> simp [startedRecord, Json.getStr_ofFields, List.lookup_cons]

theorem isObject_applyEdit (payload : Json) (edit : PayloadEdit) :
    (applyEdit payload edit).isObject = payload.isObject := by
  rw [applyEdit]
  cases edit.value with
  | none => cases payload <;> rfl
  | some value => exact Json.isObject_insert payload edit.key value

theorem isObject_escalated (payload : Json) (edits : List PayloadEdit) :
    (edits.foldl applyEdit payload).isObject = payload.isObject :=
  foldl_preserves (P := fun edited => edited.isObject = payload.isObject)
    (fun edited edit _ h => (isObject_applyEdit edited edit).trans h) rfl

/-- What starting a new execution does. -/
theorem startClaim_cases {payload : Json} {start : ClaimStart}
    {claimed : ClaimedInvokeAgentStart}
    (hstart : startClaim db item payload start = .ok (db', claimed)) :
    ∃ runId stageExecutionId agentId session executions claims facts,
      item.runId = some runId ∧
      claimed.agentExecutionId = start.agent ∧
      claimed.artifactClaimKey =
        startedKey runId stageExecutionId start.agent item.id ∧
      db.agentExecutions.insert
        (startedExecution start.agent stageExecutionId agentId session) =
          some executions ∧
      db.claims.insert (startedClaim claimed.artifactClaimKey session start.now) =
        some claims ∧
      db' = finalizePendingRetrySupersession
        { startItem db item.id
            ((start.escalation.foldl applyEdit payload).insert "p058_claimed"
              (startedRecord claimed.artifactClaimKey session)) start.now with
          agentExecutions := executions
          runtimeFacts := facts
          claims := claims }
        item.id start.agent start.now := by
  obtain ⟨runId, hrun, hstart⟩ := (bind_eq_ok_iff _ _ _).1 hstart
  obtain ⟨rawStage, _, hstart⟩ := (bind_eq_ok_iff _ _ _).1 hstart
  obtain ⟨stage, _, hstart⟩ := (bind_eq_ok_iff _ _ _).1 hstart
  obtain ⟨stageId, _, hstart⟩ := (bind_eq_ok_iff _ _ _).1 hstart
  obtain ⟨_, _, hstart⟩ := (bind_eq_ok_iff _ _ _).1 hstart
  obtain ⟨executions, hexecutions, hstart⟩ := (bind_eq_ok_iff _ _ _).1 hstart
  obtain ⟨claims, hclaims, hstart⟩ := (bind_eq_ok_iff _ _ _).1 hstart
  cases hstart
  exact ⟨runId, stage, _, _, executions, claims, _,
    (required_eq_ok_iff _ _ _).1 hrun, rfl, rfl,
    (required_eq_ok_iff _ _ _).1 hexecutions,
    (required_eq_ok_iff _ _ _).1 hclaims, rfl⟩

theorem startClaim_evolves {payload : Json} {start : ClaimStart}
    {claimed : ClaimedInvokeAgentStart} (hobject : payload.isObject = true)
    (hitem : db.workItems.find item.id = some item)
    (hstart : startClaim db item payload start = .ok (db', claimed)) :
    Evolves (Unused db) db db' := by
  obtain ⟨runId, stage, agentId, session, executions, claims, facts, _, _, hkey,
    hexecutions, _, rfl⟩ := startClaim_cases hstart
  have hunused : Unused db start.agent :=
    ((db.agentExecutions.insert_eq_some_iff).1 hexecutions).1
  have hescalated : (start.escalation.foldl applyEdit payload).isObject = true :=
    (isObject_escalated payload start.escalation).trans hobject
  have hclaim : claimedAgent ((start.escalation.foldl applyEdit payload).insert
      "p058_claimed" (startedRecord claimed.artifactClaimKey session)) =
        some start.agent.text := by
    rw [claimedAgent_eq, claimedRecord, Json.get_insert_self hescalated,
      Option.bind_some, getStr_startedRecord, hkey]
    rfl
  have hstarted : Evolves _ db (startItem db item.id _ start.now) :=
    startItem_evolves hitem (.inr ⟨start.agent, hunused, hclaim⟩)
  exact ⟨Table.keepsKeys_of_insert _ hexecutions, .refl _, hstarted.items⟩

/-- A claim changes nothing, or fails the item, or resumes it, or starts a new
execution for it. -/
theorem claim_cases {itemId : Text} {start : ClaimStart}
    {claimed : Option ClaimedInvokeAgentStart}
    (hclaim : claimInvokeAgentWorkItemWithStart db itemId start =
      .ok (db', claimed)) :
    (claimed = none ∧ (db' = db ∨ ∃ error,
      failAttemptWithCapacity db itemId error none start.now = .ok db')) ∨
    ∃ item payload attempt, db.workItems.find itemId = some item ∧
      item.id = itemId ∧ item.kind = .invokeAgent ∧ item.status = .pending ∧
      item.payload = some payload ∧ payload.isObject = true ∧
      claimed = some attempt ∧
      ((∃ record, claimedRecord (withRunId payload item.runId) = some record ∧
          resumeClaim db item (withRunId payload item.runId) record start.now =
            .ok (db', attempt)) ∨
        claimedRecord (withRunId payload item.runId) = none ∧
          startClaim db item (withRunId payload item.runId) start =
            .ok (db', attempt)) := by
  rw [claimInvokeAgentWorkItemWithStart] at hclaim
  cases hfind : db.workItems.find itemId with
  | none =>
      rw [hfind] at hclaim
      cases hclaim
      exact .inl ⟨rfl, .inl rfl⟩
  | some item =>
      simp only [hfind] at hclaim
      split_ifs at hclaim with hpending
      · obtain ⟨payload, hpayload, hclaim⟩ := (bind_eq_ok_iff _ _ _).1 hclaim
        split_ifs at hclaim with hscope
        · obtain ⟨failed, hfailed, hclaim⟩ := (bind_eq_ok_iff _ _ _).1 hclaim
          cases hclaim
          exact .inl ⟨rfl, .inr ⟨_, hfailed⟩⟩
        · have hobject : payload.isObject = true := by
            revert hscope
            cases payload <;> simp [Json.get, Json.isObject]
          have hitem := (db.workItems.find_eq_some_iff.1 hfind).2
          have hread := (required_eq_ok_iff _ _ _).1 hpayload
          split at hclaim
          · rename_i record hrecord
            obtain ⟨⟨changed, attempt⟩, hattempt, hclaim⟩ :=
              (bind_eq_ok_iff _ _ _).1 hclaim
            cases hclaim
            exact .inr ⟨item, payload, attempt, rfl, hitem, hpending.1, hpending.2,
              hread, hobject, rfl, .inl ⟨record, hrecord, hattempt⟩⟩
          · rename_i hrecord
            obtain ⟨⟨changed, attempt⟩, hattempt, hclaim⟩ :=
              (bind_eq_ok_iff _ _ _).1 hclaim
            cases hclaim
            exact .inr ⟨item, payload, attempt, rfl, hitem, hpending.1, hpending.2,
              hread, hobject, rfl, .inr ⟨hrecord, hattempt⟩⟩
      · cases hclaim
        exact .inl ⟨rfl, .inl rfl⟩

theorem isObject_withRunId (payload : Json) (runId : Option Uuid) :
    (withRunId payload runId).isObject = payload.isObject := by
  cases runId with
  | none => rfl
  | some runId =>
      rw [withRunId]
      split_ifs
      · rfl
      · exact Json.isObject_insert payload "run_id" _

theorem claim_evolves {itemId : Text} {start : ClaimStart}
    {claimed : Option ClaimedInvokeAgentStart}
    (hclaim : claimInvokeAgentWorkItemWithStart db itemId start =
      .ok (db', claimed)) :
    Evolves (Unused db) db db' := by
  rcases claim_cases hclaim with ⟨_, rfl | ⟨error, hfail⟩⟩ |
    ⟨item, payload, attempt, hfind, rfl, _, _, hpayload, hobject, _,
      ⟨record, hrecord, hresume⟩ | ⟨_, hstart⟩⟩
  · exact .refl db'
  · exact failAttempt_evolves hfail
  · refine resumeClaim_evolves hfind hrecord ?_ hresume
    rw [claimedAgent_withRunId, WorkItem.claimant, hpayload]
    rfl
  · exact startClaim_evolves ((isObject_withRunId _ _).trans hobject) hfind hstart

end Claims

/-! ## Actions -/

section Actions

variable (db : Database)

/-- Every action evolves the tables; only executions that are not in use may
claim an item anew. -/
theorem perform_evolves (action : QueueAction) :
    Evolves (Unused db) db (perform db action) := by
  cases action with
  | claim itemId start =>
      refine committed_preserves (.refl db) fun db' hresult => ?_
      obtain ⟨⟨_, claimed⟩, hclaim, rfl⟩ := map_eq_ok_iff.1 hresult
      exact claim_evolves hclaim
  | complete itemId expected now =>
      exact committed_preserves (.refl db) fun _ => completeAttempt_evolves
  | fail itemId error expected now =>
      exact committed_preserves (.refl db) fun _ => failAttempt_evolves
  | transientRequeue itemId later error expected =>
      exact transientRequeue_evolves itemId later error expected
  | activePromptClose itemId key generation scheduledAt reason =>
      refine committed_preserves (.refl db) fun db' hresult => ?_
      obtain ⟨⟨_, _⟩, hrequeue, rfl⟩ := map_eq_ok_iff.1 hresult
      exact activePromptClose_evolves hrequeue
  | providerCapacityWait itemId key scheduledAt reason =>
      refine committed_preserves (.refl db) fun db' hresult => ?_
      obtain ⟨⟨_, _⟩, hrequeue, rfl⟩ := map_eq_ok_iff.1 hresult
      exact providerCapacityWait_evolves hrequeue
  | stageRequeue runId stageExecutionId stageId now =>
      exact foldl_preserves (P := Evolves _ db)
        (fun _ item _ h => h.trans (requeuePreclaimedInvoke_evolves _ now item))
        (.refl db)
  | reconcile itemId runId stageId scheduledAt reason staleClass =>
      rw [perform, p080RequeueRunningInvokeAgentById]
      split
      · exact .refl db
      · split_ifs
        · exact abandonAndRequeue_evolves db _ _ _ _ _
        · exact .refl db
  | hostInterruption runId stageId stageExecutionId scheduledAt interrupted =>
      exact foldl_preserves (P := Evolves _ db)
        (fun _ item _ h => h.trans (requeueInterruptedInvoke_evolves runId _ _ _ _ _
          item)) (.refl db)
  | startupRequeue scheduledAt reason =>
      exact committed_preserves (.refl db) fun _ hloop =>
        foldlM_preserves (P := Evolves _ db)
          (fun _ _ _ _ h hstep => h.trans (startupRequeueItem_evolves hstep))
          (.refl db) hloop
  | stalePreSession scheduledAt cutoffs reason =>
      exact committed_preserves (.refl db) fun _ hloop =>
        foldlM_preserves (P := Evolves _ db)
          (fun _ _ _ _ h hstep => h.trans (requeueStalePreSession_evolves hstep))
          (.refl db) hloop
  | staleStarting scheduledAt cutoffs reason =>
      exact committed_preserves (.refl db) fun _ hloop =>
        foldlM_preserves (P := Evolves _ db)
          (fun _ _ _ _ h hstep => h.trans (requeueStaleStarting_evolves hstep))
          (.refl db) hloop

end Actions

end ChainworksForge.Queue
