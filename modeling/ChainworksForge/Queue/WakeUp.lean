import ChainworksForge.Queue.Effects
import ChainworksForge.Queue.Loops
import ChainworksForge.Queue.Sweeps

/-!
# The advance after an invocation

An invocation that is completed or failed by its worker or by a sweep queues an
advance of its run, so that the run is looked at again.  An invocation whose
startup requeue is exhausted is failed without one: its run is held until an
operator clears it.
-/

namespace ChainworksForge.Queue

open ChainworksForge.Support

/-- Every item with a derived identifier is the advance of an invocation. -/
def AdvancesNamed (db : Database) : Prop :=
  ∀ item ∈ db.workItems.rows, ∀ sourceId, item.id = advanceAfterInvokeId sourceId →
    ∃ source, db.workItems.find sourceId = some source ∧
      source.kind = .invokeAgent ∧ item.kind = .advanceRun ∧
      item.runId = source.runId

/-- The advance of an invocation is in the queue. -/
def HasAdvance (db : Database) (item : WorkItem) : Prop :=
  ∃ advance, db.workItems.find (advanceAfterInvokeId item.id) = some advance ∧
    advance.kind = .advanceRun ∧ advance.runId = item.runId

theorem advanceAfterInvokeId_injective {a b : Text}
    (h : advanceAfterInvokeId a = advanceAfterInvokeId b) : a = b :=
  List.append_cancel_left h

section Invariant

variable {db db' : Database}

theorem AdvancesNamed.evolves {fresh : Uuid → Prop} (hnamed : AdvancesNamed db)
    (hevolves : Evolves fresh db db') : AdvancesNamed db' := by
  intro item' hitem' sourceId hid
  have hfound := db'.workItems.find_of_mem hitem'
  cases hold : db.workItems.find item'.id with
  | some item =>
      obtain ⟨kept, hkept, hitem⟩ := hevolves.items.kept item'.id item hold
      obtain rfl : kept = item' := by
        rw [hkept] at hfound
        exact Option.some.inj hfound
      obtain ⟨hmem, hsame⟩ := db.workItems.find_eq_some_iff.1 hold
      obtain ⟨source, hsource, hinvoke, hkind, hrun⟩ :=
        hnamed item hmem sourceId (hsame.trans hid)
      obtain ⟨source', hsource', hsourceEvolves⟩ :=
        hevolves.items.kept sourceId source hsource
      exact ⟨source', hsource', hsourceEvolves.kind.trans hinvoke,
        hitem.kind.trans hkind,
        hitem.runId.trans (hrun.trans hsourceEvolves.runId.symm)⟩
  | none =>
      obtain ⟨source, hsource, hinvoke, hadvance, hkind, _, hrun⟩ :=
        hevolves.items.added item'.id item' hfound hold
      obtain rfl : sourceId = source.id :=
        advanceAfterInvokeId_injective (hid.symm.trans hadvance)
      obtain ⟨source', hsource', hsourceEvolves⟩ :=
        hevolves.items.kept source.id source (db.workItems.find_of_mem hsource)
      exact ⟨source', hsource', hsourceEvolves.kind.trans hinvoke, hkind,
        hrun.trans hsourceEvolves.runId.symm⟩

/-- An item with the derived identifier of an invocation is its advance. -/
theorem AdvancesNamed.hasAdvance {item : WorkItem} (hnamed : AdvancesNamed db)
    (hitem : ∃ row, db.workItems.find item.id = some row ∧ row.runId = item.runId)
    (hsome : (db.workItems.find (advanceAfterInvokeId item.id)).isSome = true) :
    HasAdvance db item := by
  obtain ⟨row, hrow, hrun⟩ := hitem
  obtain ⟨advance, hadvance⟩ := Option.isSome_iff_exists.1 hsome
  obtain ⟨hmem, hid⟩ := db.workItems.find_eq_some_iff.1 hadvance
  obtain ⟨source, hsource, _, hkind, hsame⟩ := hnamed advance hmem item.id hid
  obtain rfl : source = row := by
    rw [hsource] at hrow
    exact Option.some.inj hrow
  exact ⟨advance, hadvance, hkind, hsame.trans hrun⟩

end Invariant

/-! ## Histories -/

/-- The tables that a queue reaches: items are queued under identifiers that are
not derived, and actions are taken in any order. -/
inductive QueueHistory (initial : Database) : Database → Prop
  | start : QueueHistory initial initial
  | act {db : Database} (history : QueueHistory initial db) (action : QueueAction) :
      QueueHistory initial (perform db action)
  | enqueue {db : Database} (history : QueueHistory initial db) (item : WorkItem)
      (items : Table WorkItem.id) (hinsert : db.workItems.insert item = some items)
      (hown : ∀ sourceId, item.id ≠ advanceAfterInvokeId sourceId) :
      QueueHistory initial { db with workItems := items }

theorem QueueHistory.advancesNamed {initial db : Database}
    (history : QueueHistory initial db) (hnamed : AdvancesNamed initial) :
    AdvancesNamed db := by
  induction history with
  | start => exact hnamed
  | act _ action ih => exact ih.evolves (perform_evolves _ action)
  | @enqueue db _ item items hinsert hown ih =>
      obtain ⟨hfree, rfl⟩ := db.workItems.insert_eq_some_iff.1 hinsert
      intro row hrow sourceId hid
      rcases List.mem_append.1 hrow with hold | hnew
      · obtain ⟨source, hsource, hfacts⟩ := ih row hold sourceId hid
        refine ⟨source, ?_, hfacts⟩
        have hne : item.id ≠ sourceId := by
          rintro rfl
          rw [hfree] at hsource
          cases hsource
        change (db.workItems.add item hfree).find sourceId = some source
        rw [Table.find_add, if_neg hne]
        exact hsource
      · obtain rfl := List.mem_singleton.1 hnew
        exact absurd hid (hown sourceId)

/-! ## The settling passes -/

/-- The passes that settle running invocations: a worker's own, the sweeps at
startup, and the startup requeue. -/
inductive SettlingPass where
  | complete (itemId : Text) (expected : Option Uuid) (now : Instant)
  | fail (itemId error : Text) (expected : Option Uuid) (now : Instant)
  | completeSweep (now : Instant)
  | failSweep (now : Instant) (reason : Text)
  | startupRequeue (scheduledAt : Instant) (reason : Text)

/-- The tables after a pass. -/
def SettlingPass.run (db : Database) : SettlingPass → Database
  | .complete itemId expected now => perform db (.complete itemId expected now)
  | .fail itemId error expected now => perform db (.fail itemId error expected now)
  | .completeSweep now =>
      (completeRunningInvokeAgentsWithTerminalValidOutputsOnStartup db now).1
  | .failSweep now reason =>
      (failRunningInvokeAgentsWithTerminalFailedOutputsOnStartup db now reason).1
  | .startupRequeue scheduledAt reason =>
      perform db (.startupRequeue scheduledAt reason)

/-- The startup requeue, whose exhaustion fails an item. -/
def SettlingPass.isStartupRequeue : SettlingPass → Bool
  | .startupRequeue _ _ => true
  | _ => false

/-- An invocation of a run that was running. -/
structure RunningInvoke (db : Database) (item : WorkItem) : Prop
    extends FetchedInvoke db item where
  run : item.runId.isSome = true

/-- An invocation of a run that has been completed or failed. -/
structure LeavesRunning (db db' : Database) (item : WorkItem) : Prop
    extends RunningInvoke db item where
  settled : ∃ row, db'.workItems.find item.id = some row ∧
    (row.status = .completed ∨ row.status = .failed)

/-- Every running invocation of a run stays as it is or has its advance. -/
def Wakes (db db' : Database) : Prop :=
  ∀ item, RunningInvoke db item → db'.workItems.find item.id = some item ∨
    (db'.workItems.find (advanceAfterInvokeId item.id)).isSome = true

section Wakes

variable {db db' db'' : Database} {item : WorkItem}

theorem Wakes.refl (db : Database) : Wakes db db := fun _ hitem => .inl hitem.found

theorem Wakes.trans {fresh : Uuid → Prop} (h₁ : Wakes db db') (h₂ : Wakes db' db'')
    (hevolves : Evolves fresh db' db'') : Wakes db db'' := by
  intro item hitem
  rcases h₁ item hitem with hsame | hadvance
  · exact h₂ item { hitem with found := hsame }
  · right
    obtain ⟨advance, hadvance⟩ := Option.isSome_iff_exists.1 hadvance
    obtain ⟨kept, hkept, _⟩ := hevolves.items.kept _ advance hadvance
    rw [hkept]
    rfl

/-- An item that stays as it is does not leave its running state. -/
theorem LeavesRunning.find_ne (hleaves : LeavesRunning db db' item) :
    db'.workItems.find item.id ≠ some item := by
  intro hsame
  obtain ⟨row, hrow, hstatus⟩ := hleaves.settled
  rw [hsame] at hrow
  obtain rfl := Option.some.inj hrow
  rw [hleaves.running] at hstatus
  rcases hstatus with h | h <;> cases h

theorem find_isSome_of_enqueueAdvance {outcome : InvokeOutcome} {now : Instant}
    (hrun : item.runId.isSome = true)
    (henqueue : enqueueAdvance db item outcome now = .ok db') :
    (db'.workItems.find (advanceAfterInvokeId item.id)).isSome = true := by
  rcases enqueueAdvance_cases henqueue with
    ⟨hnone, _⟩ | ⟨runId, payload, stageId, authorities, _, rfl⟩
  · rw [hnone] at hrun
    cases hrun
  · rw [Table.find_insertOrIgnore]
    simp [advanceAfterInvoke]

/-- A completed invocation has its advance in the queue. -/
theorem find_isSome_of_completeRunningInvoke {now : Instant}
    (hrun : item.runId.isSome = true)
    (hcomplete : completeRunningInvoke db item now = .ok db') :
    (db'.workItems.find (advanceAfterInvokeId item.id)).isSome = true := by
  obtain ⟨guarded, hguard, hcomplete⟩ := (bind_eq_ok_iff _ _ _).1 hcomplete
  cases hclaim : item.payload.bind claimedAgent with
  | none =>
      rw [hclaim] at hcomplete
      exact find_isSome_of_enqueueAdvance hrun hcomplete
  | some agent =>
      rw [hclaim] at hcomplete
      exact find_isSome_of_enqueueAdvance hrun hcomplete

/-- A row under the identifier of a running invocation is that invocation. -/
theorem RunningInvoke.eq_of_find {row : WorkItem} (hitem : RunningInvoke db item)
    (hrow : db.workItems.find item.id = some row) : row = item := by
  rw [hitem.found] at hrow
  exact (Option.some.inj hrow).symm

theorem completeAttempt_wakes {itemId : Text} {expected : Option Uuid}
    {now : Instant}
    (hcomplete : completeAttemptWithCapacity db itemId expected now = .ok db') :
    Wakes db db' := by
  intro item hitem
  by_cases hid : item.id = itemId
  · subst hid
    rcases completeAttempt_cases hcomplete with
      rfl | ⟨target, htarget, _, _, _, ⟨_, _, hrunning⟩ | ⟨hother, _⟩⟩
    · exact .inl hitem.found
    · obtain rfl := hitem.eq_of_find htarget
      exact .inr (find_isSome_of_completeRunningInvoke hitem.run hrunning)
    · obtain rfl := hitem.eq_of_find htarget
      exact absurd ⟨hitem.invoke, hitem.running⟩ hother
  · exact .inl (completeAttempt_find_of_ne hcomplete hid hitem.found)

theorem failAttempt_wakes {itemId error : Text} {expected : Option Uuid}
    {now : Instant}
    (hfail : failAttemptWithCapacity db itemId error expected now = .ok db') :
    Wakes db db' := by
  intro item hitem
  by_cases hid : item.id = itemId
  · subst hid
    rcases failAttempt_cases hfail with
      rfl | ⟨target, htarget, _, _, _, ⟨_, hqueued⟩ | ⟨hother, _⟩⟩
    · exact .inl hitem.found
    · obtain rfl := hitem.eq_of_find htarget
      exact .inr (find_isSome_of_enqueueAdvance hitem.run hqueued)
    · obtain rfl := hitem.eq_of_find htarget
      exact absurd hitem.invoke hother
  · exact .inl (failAttempt_find_of_ne hfail hid hitem.found)

/-- A sweep whose every transaction wakes and evolves does so as a whole. -/
theorem settleAll_wakes {fresh : Uuid → Prop}
    {settle : Database → Text → Except Text Database}
    (hstep : ∀ db itemId db', settle db itemId = .ok db' →
      Wakes db db' ∧ Evolves fresh db db') (ids : List Text) (db : Database) :
    Wakes db (settleAll settle ids db).1 ∧
      Evolves fresh db (settleAll settle ids db).1 := by
  induction ids generalizing db with
  | nil => exact ⟨.refl db, .refl db⟩
  | cons itemId rest ih =>
      rw [settleAll]
      cases hsettle : settle db itemId with
      | error e => exact ⟨.refl db, .refl db⟩
      | ok settled =>
          obtain ⟨hwakes, hevolves⟩ := hstep db itemId settled hsettle
          obtain ⟨hrest, hrestEvolves⟩ := ih settled
          exact ⟨hwakes.trans hrest hrestEvolves, hevolves.trans hrestEvolves⟩

/-- Every pass evolves the tables, and every pass except the startup requeue
wakes the runs of the items it settles. -/
theorem SettlingPass.run_evolves (db : Database) (pass : SettlingPass) :
    Evolves (Unused db) db (pass.run db) ∧
      (pass.isStartupRequeue = false → Wakes db (pass.run db)) := by
  cases pass with
  | complete itemId expected now =>
      exact ⟨perform_evolves db (.complete itemId expected now), fun _ =>
        committed_preserves (.refl db) fun _ => completeAttempt_wakes⟩
  | fail itemId error expected now =>
      exact ⟨perform_evolves db (.fail itemId error expected now), fun _ =>
        committed_preserves (.refl db) fun _ => failAttempt_wakes⟩
  | completeSweep now =>
      obtain ⟨hwakes, hevolves⟩ := settleAll_wakes
        (fun _ _ _ h => ⟨completeAttempt_wakes h, completeAttempt_evolves h⟩)
        ((runningInvokes db (completeSelects db)).map (·.id)) db
      exact ⟨hevolves, fun _ => hwakes⟩
  | failSweep now reason =>
      obtain ⟨hwakes, hevolves⟩ := settleAll_wakes
        (fun _ _ _ h => ⟨failAttempt_wakes h, failAttempt_evolves h⟩)
        ((runningInvokes db (failSelects db)).map (·.id)) db
      exact ⟨hevolves, fun _ => hwakes⟩
  | startupRequeue scheduledAt reason =>
      exact ⟨perform_evolves db (.startupRequeue scheduledAt reason),
        fun h => Bool.noConfusion h⟩

end Wakes

/-! ## The startup requeue adds no item -/

section Startup

/-- The two tables have the same keys. -/
def SameItems (db db' : Database) : Prop :=
  ∀ id, (db'.workItems.find id).isSome = (db.workItems.find id).isSome

variable {db db' : Database}

theorem SameItems.refl (db : Database) : SameItems db db := fun _ => rfl

theorem SameItems.trans {db'' : Database} (h₁ : SameItems db db')
    (h₂ : SameItems db' db'') : SameItems db db'' :=
  fun id => (h₂ id).trans (h₁ id)

theorem sameItems_of_eq (hitems : db'.workItems = db.workItems) :
    SameItems db db' := by
  intro id
  rw [hitems]

theorem requeueOnStartup_sameItems (itemId : Text) (payload : Json) (stamp : Stamp)
    (reason : Text) (scheduledAt : Instant) :
    SameItems db (requeueOnStartup db itemId payload stamp reason scheduledAt) := by
  intro id
  rw [requeueOnStartup, settleHostCleanup_workItems, requeueRunning,
    Table.find_update, Option.isSome_map]

theorem failExhausted_sameItems (itemId : Text) (scheduledAt : Instant) :
    SameItems db (failExhausted db itemId scheduledAt) := by
  intro id
  rw [failExhausted, Table.find_update, Option.isSome_map]

theorem applyStartupDecision_sameItems (item : WorkItem) (payload : Json)
    (runId : Option Uuid) (scheduledAt : Instant) (reason : Text)
    (decision : StartupDecision) :
    SameItems db
      (applyStartupDecision db item payload runId scheduledAt reason decision) := by
  cases decision with
  | plain => exact requeueOnStartup_sameItems _ _ _ _ _
  | once journalId integrity =>
      exact (sameItems_of_eq rfl).trans (requeueOnStartup_sameItems _ _ _ _ _)
  | replay journalId =>
      exact (sameItems_of_eq rfl).trans (requeueOnStartup_sameItems _ _ _ _ _)
  | exhausted journalId =>
      exact (sameItems_of_eq rfl).trans (failExhausted_sameItems _ _)

theorem startupRequeueItem_sameItems {scheduledAt : Instant} {reason : Text}
    {item : WorkItem}
    (hrequeue : startupRequeueItem scheduledAt reason db item = .ok db') :
    SameItems db db' := by
  obtain ⟨decision, _, hrequeue⟩ := (bind_eq_ok_iff _ _ _).1 hrequeue
  obtain rfl := (pure_eq_ok_iff _ _).1 hrequeue
  exact (sameItems_of_eq (supersedeAbandoned_workItems _ _ _)).trans
    (applyStartupDecision_sameItems _ _ _ _ _ _)

theorem startupRequeue_sameItems (db : Database) (scheduledAt : Instant)
    (reason : Text) :
    SameItems db (perform db (.startupRequeue scheduledAt reason)) :=
  committed_preserves (.refl db) fun _ hloop =>
    foldlM_preserves (P := SameItems db)
      (fun _ _ _ _ h hstep => h.trans (startupRequeueItem_sameItems hstep))
      (.refl db) hloop

end Startup

/-! ## The main result -/

/-- In every history, an invocation that a pass completes or fails has its
advance in the queue after the pass, unless the startup requeue failed it: that
pass holds the run and adds nothing. -/
theorem wake_up_iff (initial db : Database) (hnamed : AdvancesNamed initial)
    (history : QueueHistory initial db) (pass : SettlingPass) (item : WorkItem)
    (hleaves : LeavesRunning db (pass.run db) item) :
    HasAdvance (pass.run db) item ↔
      pass.isStartupRequeue = false ∨ HasAdvance db item := by
  have hold : AdvancesNamed db := history.advancesNamed hnamed
  obtain ⟨hevolves, hwakes⟩ := SettlingPass.run_evolves db pass
  have hnew : AdvancesNamed (pass.run db) := hold.evolves hevolves
  obtain ⟨row, hrow, hrowEvolves⟩ := hevolves.items.kept item.id item hleaves.found
  have hadvances (hsome : ((pass.run db).workItems.find
      (advanceAfterInvokeId item.id)).isSome = true) : HasAdvance (pass.run db) item :=
    hnew.hasAdvance ⟨row, hrow, hrowEvolves.runId⟩ hsome
  constructor
  · rintro ⟨advance, hadvance, _⟩
    cases pass with
    | startupRequeue scheduledAt reason =>
        right
        refine hold.hasAdvance ⟨item, hleaves.found, rfl⟩ ?_
        rw [← startupRequeue_sameItems db scheduledAt reason]
        exact Option.isSome_iff_exists.2 ⟨advance, hadvance⟩
    | complete _ _ _ | fail _ _ _ _ | completeSweep _ | failSweep _ _ =>
        exact .inl rfl
  · rintro (hother | ⟨advance, hadvance, _⟩)
    · rcases hwakes hother item hleaves.toRunningInvoke with hsame | hsome
      · exact absurd hsame hleaves.find_ne
      · exact hadvances hsome
    · obtain ⟨kept, hkept, _⟩ := hevolves.items.kept _ advance hadvance
      exact hadvances (Option.isSome_iff_exists.2 ⟨kept, hkept⟩)

section HeldRun

/-- A running invocation of a run. -/
def heldItem : WorkItem where
  id := "item".toList
  kind := .invokeAgent
  payload := some (Json.ofFields
    [("stage_execution_id", .string (repeatedUuid 2).text)])
  status := .running
  runId := some (repeatedUuid 1)
  stageId := some "build".toList
  createdAt := ⟨0, []⟩
  scheduledAt := ⟨0, []⟩
  startedAt := some ⟨0, []⟩
  completedAt := none
  failedAt := none
  attemptCount := 1
  lastError := none

/-- A queue in which that invocation has used up its requeue for the latest
command of its run. -/
def heldQueue : Database :=
  { Database.empty with
    workItems := ⟨[heldItem], List.nodup_singleton _⟩
    stageExecutions := [⟨repeatedUuid 2, repeatedUuid 1⟩]
    commandJournal := .singleton ⟨"journal".toList, some (repeatedUuid 1), ⟨0, []⟩⟩
    startupRepairs := .singleton {
      id := startupRepairId "journal".toList "item".toList
      runId := repeatedUuid 1
      repairKind := "p082_requeue_once".toList
      repairedAt := ⟨0, []⟩
      notes := some (Json.ofFields [("preexisting", .bool true)]) } }

theorem advancesNamed_heldQueue : AdvancesNamed heldQueue := by
  intro item hitem sourceId hid
  obtain rfl : item = heldItem := List.mem_singleton.1 hitem
  have hhead : some 'i' = some 'a' := congrArg List.head? hid
  exact absurd hhead (by decide)

theorem runningInvoke_heldItem : RunningInvoke heldQueue heldItem :=
  ⟨⟨rfl, rfl, rfl⟩, rfl⟩

theorem leavesRunning_heldItem {db' : Database}
    (hstatus : (db'.workItems.find heldItem.id).map (·.status) = some .failed) :
    LeavesRunning heldQueue db' heldItem := by
  obtain ⟨row, hrow, hfailed⟩ := Option.map_eq_some_iff.1 hstatus
  exact { runningInvoke_heldItem with settled := ⟨row, hrow, .inr hfailed⟩ }

/-- A worker that fails the invocation leaves the advance of its run. -/
theorem wake_up_after_fail :
    HasAdvance (SettlingPass.run heldQueue (.fail "item".toList [] none ⟨1, []⟩))
      heldItem :=
  (wake_up_iff heldQueue heldQueue advancesNamed_heldQueue .start
    (.fail "item".toList [] none ⟨1, []⟩) heldItem
    (leavesRunning_heldItem (by decide +kernel))).2 (.inl rfl)

/-- The startup requeue fails the invocation and leaves no advance of its run. -/
theorem exhausted_requeue_holds_run :
    AdvancesNamed heldQueue ∧
      LeavesRunning heldQueue
        (SettlingPass.run heldQueue (.startupRequeue ⟨1, []⟩ [])) heldItem ∧
      ¬HasAdvance (SettlingPass.run heldQueue (.startupRequeue ⟨1, []⟩ []))
        heldItem := by
  refine ⟨advancesNamed_heldQueue, leavesRunning_heldItem (by decide +kernel), ?_⟩
  rintro ⟨advance, hadvance, _⟩
  have hnone : (SettlingPass.run heldQueue
      (.startupRequeue ⟨1, []⟩ [])).workItems.find
        (advanceAfterInvokeId heldItem.id) = none := by
    decide +kernel
  rw [hnone] at hadvance
  cases hadvance

end HeldRun

end ChainworksForge.Queue
