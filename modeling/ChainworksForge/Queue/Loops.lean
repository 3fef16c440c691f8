import ChainworksForge.Queue.Effects

/-!
# The rows of a loop

A requeue fetches the running invocations it selects and handles them one after
another.  Handling one of them leaves the rows of the others as they were
fetched.
-/

namespace ChainworksForge.Queue

open ChainworksForge.Support

/-- An item that a requeue has fetched: a running invocation in the tables. -/
structure FetchedInvoke (db : Database) (item : WorkItem) : Prop where
  found : db.workItems.find item.id = some item
  invoke : item.kind = .invokeAgent
  running : item.status = .running

section Fetched

variable {db db' : Database} {selects : WorkItem → Bool} {item : WorkItem}

theorem mem_runningInvokes :
    item ∈ runningInvokes db selects ↔
      item ∈ db.workItems.rows ∧ item.kind = .invokeAgent ∧
        item.status = .running ∧ selects item = true := by
  rw [runningInvokes, List.mem_insertionSort, List.mem_filter, decide_eq_true_iff]

theorem nodup_runningInvokes :
    ((runningInvokes db selects).map WorkItem.id).Nodup := by
  have hperm := (List.perm_insertionSort
    (fun a b : WorkItem => a.scheduledAt.text ≤ b.scheduledAt.text)
    (db.workItems.rows.filter fun item =>
      item.kind = .invokeAgent ∧ item.status = .running ∧ selects item)).map WorkItem.id
  exact hperm.nodup_iff.2
    (List.Nodup.sublist (List.filter_sublist.map _) db.workItems.distinct)

/-- The rows of the requeue of sessions that never started. -/
theorem nodup_startingRows :
    (((runningInvokes db selects).filterMap fun item =>
      (startingGeneration db item).map fun generation =>
        (item, generation)).map fun row => row.1.id).Nodup := by
  have hsublist (items : List WorkItem) :
      ((items.filterMap fun item => (startingGeneration db item).map fun generation =>
        (item, generation)).map fun row => row.1.id).Sublist (items.map WorkItem.id) := by
    induction items with
    | nil => exact .slnil
    | cons item items ih =>
        cases hgeneration : startingGeneration db item with
        | none => simpa [hgeneration] using ih.cons item.id
        | some generation => simpa [hgeneration] using ih
  exact nodup_runningInvokes.sublist (hsublist _)

theorem find_of_mem_runningInvokes (hitem : item ∈ runningInvokes db selects) :
    db.workItems.find item.id = some item :=
  db.workItems.find_of_mem (mem_runningInvokes.1 hitem).1

theorem fetchedInvoke_of_mem {selects : WorkItem → Bool}
    (hitem : item ∈ runningInvokes db selects) : FetchedInvoke db item :=
  ⟨find_of_mem_runningInvokes hitem, (mem_runningInvokes.1 hitem).2.1,
    (mem_runningInvokes.1 hitem).2.2.1⟩

theorem FetchedInvoke.congr (hitem : FetchedInvoke db item)
    (hsame : db'.workItems.find item.id = db.workItems.find item.id) :
    FetchedInvoke db' item :=
  { hitem with found := hsame.trans hitem.found }

end Fetched

/-! ## Steps leave the other rows alone -/

section Frames

variable {db db' : Database} {itemId id : Text}

theorem supersedeAbandoned_workItems (itemId : Text) (payload : Json)
    (settledAt : Instant) :
    (supersedeAbandonedPreclaimForRetry db itemId payload settledAt).workItems =
      db.workItems := by
  rw [supersedeAbandonedPreclaimForRetry]
  cases claimedAgent payload with
  | none => rfl
  | some agent => cases claimedKey payload <;> rfl

/-- Closing interruptions changes at most the interruptions and the sessions. -/
theorem settleHostCleanup_frame (db : Database) (itemId : Text)
    (agent : Option Text) (now : Instant) :
    ∃ interruptions generations invalidations,
      settleHostCleanupAfterStartupRequeue db itemId agent now =
        { db with
          hostInterruptions := interruptions
          sessionGenerations := generations
          sessionInvalidations := invalidations } := by
  cases agent with
  | none => exact ⟨_, _, _, rfl⟩
  | some agent =>
      refine foldl_preserves (P := fun db' : Database =>
        ∃ interruptions generations invalidations, db' = { db with
          hostInterruptions := interruptions
          sessionGenerations := generations
          sessionInvalidations := invalidations }) ?_ ⟨_, _, _, rfl⟩
      rintro _ row _ ⟨interruptions, generations, invalidations, rfl⟩
      rw [settleHostCleanup]
      simp only
      cases (db.agentExecutions.find row.agentExecutionId).bind
          (·.sessionGenerationId) with
      | none => exact ⟨_, _, _, rfl⟩
      | some generationId =>
          simp only [endActiveGeneration]
          cases generations.find generationId with
          | none => exact ⟨_, _, _, rfl⟩
          | some generation =>
              simp only
              split_ifs
              · exact ⟨_, _, _, rfl⟩
              · exact ⟨_, _, _, rfl⟩

theorem settleHostCleanup_workItems (itemId : Text) (agent : Option Text)
    (now : Instant) :
    (settleHostCleanupAfterStartupRequeue db itemId agent now).workItems =
      db.workItems := by
  obtain ⟨_, _, _, hframe⟩ := settleHostCleanup_frame db itemId agent now
  rw [hframe]

theorem settleHostCleanup_claims (itemId : Text) (agent : Option Text)
    (now : Instant) :
    (settleHostCleanupAfterStartupRequeue db itemId agent now).claims =
      db.claims := by
  obtain ⟨_, _, _, hframe⟩ := settleHostCleanup_frame db itemId agent now
  rw [hframe]

theorem requeueRunning_find_of_ne (payload : Json) (columns : RequeueColumns)
    (hne : id ≠ itemId) :
    (requeueRunning db itemId payload columns).workItems.find id =
      db.workItems.find id :=
  Table.find_update_of_ne _ (fun _ htrue => (of_decide_eq_true htrue).1) hne
    fun _ => by rfl

theorem failExhausted_find_of_ne (scheduledAt : Instant) (hne : id ≠ itemId) :
    (failExhausted db itemId scheduledAt).workItems.find id = db.workItems.find id :=
  Table.find_update_of_ne _ (fun _ htrue => (of_decide_eq_true htrue).1) hne
    fun _ => by rfl

theorem markCompleted_find_of_ne {now : Instant} (hne : id ≠ itemId) :
    (markCompleted db itemId now).workItems.find id = db.workItems.find id :=
  Table.find_update_of_ne _ (fun _ htrue => (of_decide_eq_true htrue).1) hne
    fun _ => by rfl

theorem markFailed_find_of_ne {error : Text} {now : Instant} (hne : id ≠ itemId) :
    (markFailed db itemId error now).workItems.find id = db.workItems.find id :=
  Table.find_update_of_ne _ (fun _ htrue => (of_decide_eq_true htrue).1) hne
    fun _ => by rfl

theorem abandonAndRequeue_find_of_ne (payload : Json) (stamp : Stamp)
    (columns : RequeueColumns) (settledAt : Instant) (hne : id ≠ itemId) :
    (abandonAndRequeue db itemId payload stamp columns settledAt).workItems.find id =
      db.workItems.find id := by
  rw [abandonAndRequeue, requeueRunning_find_of_ne _ _ hne,
    supersedeAbandoned_workItems]

theorem requeueOnStartup_find_of_ne (payload : Json) (stamp : Stamp)
    (reason : Text) (scheduledAt : Instant) (hne : id ≠ itemId) :
    (requeueOnStartup db itemId payload stamp reason scheduledAt).workItems.find id =
      db.workItems.find id := by
  rw [requeueOnStartup, settleHostCleanup_workItems,
    requeueRunning_find_of_ne _ _ hne]

variable {item : WorkItem}

theorem applyStartupDecision_find_of_ne (payload : Json) (runId : Option Uuid)
    (scheduledAt : Instant) (reason : Text) (decision : StartupDecision)
    (hne : id ≠ item.id) :
    (applyStartupDecision db item payload runId scheduledAt reason
      decision).workItems.find id = db.workItems.find id := by
  cases decision with
  | plain => exact requeueOnStartup_find_of_ne _ _ _ _ hne
  | once journalId integrity => exact requeueOnStartup_find_of_ne _ _ _ _ hne
  | replay journalId => exact requeueOnStartup_find_of_ne _ _ _ _ hne
  | exhausted journalId => exact failExhausted_find_of_ne _ hne

theorem startupRequeueItem_find_of_ne {scheduledAt : Instant} {reason : Text}
    (hrequeue : startupRequeueItem scheduledAt reason db item = .ok db')
    (hne : id ≠ item.id) : db'.workItems.find id = db.workItems.find id := by
  obtain ⟨decision, _, hrequeue⟩ := (bind_eq_ok_iff _ _ _).1 hrequeue
  obtain rfl := (pure_eq_ok_iff _ _).1 hrequeue
  rw [applyStartupDecision_find_of_ne _ _ _ _ _ hne, supersedeAbandoned_workItems]

theorem requeuePreclaimedInvoke_find_of_ne (stageExecutionId : Text) (now : Instant)
    (hne : id ≠ item.id) :
    (requeuePreclaimedInvoke stageExecutionId now db item).workItems.find id =
      db.workItems.find id := by
  rw [requeuePreclaimedInvoke]
  split
  · rfl
  · split_ifs
    · exact abandonAndRequeue_find_of_ne _ _ _ _ hne
    · rfl

theorem requeueInterruptedInvoke_find_of_ne (runId stageExecutionId : Uuid)
    (scheduledAt : Instant) (interrupted : Option InterruptedExecution)
    (candidates : ℕ) (agentId : Option Text) (hne : id ≠ item.id) :
    (requeueInterruptedInvoke runId stageExecutionId scheduledAt interrupted
      candidates agentId db item).workItems.find id = db.workItems.find id := by
  rw [requeueInterruptedInvoke]
  split
  · rfl
  · split_ifs
    · cases interrupted with
      | none => exact abandonAndRequeue_find_of_ne _ _ _ _ hne
      | some execution => exact abandonAndRequeue_find_of_ne _ _ _ _ hne
    · rfl

theorem requeueStalePreSession_find_of_ne {scheduledAt : Instant}
    {cutoffs : StaleCutoffs} {reason : Text}
    (hrequeue : requeueStalePreSession scheduledAt cutoffs reason db item = .ok db')
    (hne : id ≠ item.id) : db'.workItems.find id = db.workItems.find id := by
  rw [requeueStalePreSession] at hrequeue
  split_ifs at hrequeue
  · obtain rfl := (pure_eq_ok_iff _ _).1 hrequeue
    rfl
  · obtain rfl := (pure_eq_ok_iff _ _).1 hrequeue
    exact abandonAndRequeue_find_of_ne _ _ _ _ hne

theorem requeueStaleStarting_find_of_ne {scheduledAt : Instant}
    {cutoffs : StaleCutoffs} {reason : Text} {row : WorkItem × SessionGeneration}
    (hrequeue : requeueStaleStarting scheduledAt cutoffs reason db row = .ok db')
    (hne : id ≠ row.1.id) : db'.workItems.find id = db.workItems.find id := by
  rw [requeueStaleStarting] at hrequeue
  split_ifs at hrequeue
  · obtain rfl := (pure_eq_ok_iff _ _).1 hrequeue
    rfl
  · obtain ⟨repairs, _, hrequeue⟩ := (bind_eq_ok_iff _ _ _).1 hrequeue
    obtain rfl := (pure_eq_ok_iff _ _).1 hrequeue
    exact (requeueRunning_find_of_ne _ _ hne).trans
      (congrArg (Table.find · id) (supersedeAbandoned_workItems _ _ _))

end Frames

/-! ## Settling leaves the other rows alone -/

section Settled

variable {db db' : Database} {item : WorkItem}

theorem enqueueAdvance_find {outcome : InvokeOutcome} {now : Instant} {id : Text}
    {row : WorkItem} (henqueue : enqueueAdvance db item outcome now = .ok db')
    (hrow : db.workItems.find id = some row) : db'.workItems.find id = some row := by
  rcases enqueueAdvance_cases henqueue with
    ⟨_, rfl⟩ | ⟨runId, payload, stageId, authorities, _, rfl⟩
  · exact hrow
  · exact db.workItems.find_insertOrIgnore_of_some hrow

/-- A running invocation that is completed. -/
theorem completeRunningInvoke_find {id : Text} {row : WorkItem} {now : Instant}
    (hcomplete : completeRunningInvoke db item now = .ok db')
    (hrow : (markCompleted db item.id now).workItems.find id = some row) :
    db'.workItems.find id = some row := by
  obtain ⟨guarded, hguard, hcomplete⟩ := (bind_eq_ok_iff _ _ _).1 hcomplete
  obtain ⟨facts, rfl⟩ := validateRunningInvokeCompletion_frame hguard
  cases hclaim : item.payload.bind claimedAgent with
  | none =>
      rw [hclaim] at hcomplete
      exact enqueueAdvance_find hcomplete hrow
  | some agent =>
      rw [hclaim] at hcomplete
      exact enqueueAdvance_find hcomplete hrow

theorem completeAttempt_find_of_ne {itemId id : Text} {expected : Option Uuid}
    {now : Instant} {row : WorkItem}
    (hcomplete : completeAttemptWithCapacity db itemId expected now = .ok db')
    (hne : id ≠ itemId) (hrow : db.workItems.find id = some row) :
    db'.workItems.find id = some row := by
  have hmarked : (markCompleted db itemId now).workItems.find id = some row :=
    (markCompleted_find_of_ne hne).trans hrow
  rcases completeAttempt_cases hcomplete with
    rfl | ⟨target, _, rfl, _, _, ⟨_, _, hrunning⟩ | ⟨_, rfl⟩⟩
  · exact hrow
  · exact completeRunningInvoke_find hrunning hmarked
  · exact hmarked

theorem failAttempt_find_of_ne {itemId id error : Text} {expected : Option Uuid}
    {now : Instant} {row : WorkItem}
    (hfail : failAttemptWithCapacity db itemId error expected now = .ok db')
    (hne : id ≠ itemId) (hrow : db.workItems.find id = some row) :
    db'.workItems.find id = some row := by
  have hmarked : (markFailed db itemId error now).workItems.find id = some row :=
    (markFailed_find_of_ne hne).trans hrow
  rcases failAttempt_cases hfail with
    rfl | ⟨target, _, rfl, _, _, ⟨_, hqueued⟩ | ⟨_, rfl⟩⟩
  · exact hrow
  · exact enqueueAdvance_find hqueued hmarked
  · exact hmarked

end Settled

end ChainworksForge.Queue
