import ChainworksForge.Queue.Loops

/-!
# Targeted retries that have produced their outputs

The requeue of a stage means to leave a targeted retry alone once its execution is over
and valid outputs of it are recorded.  The two places of its statement that name the
states of such an execution are bound to the kind and the state of the item instead, so
it leaves alone what is still running and takes back what is over.
-/

namespace ChainworksForge.Queue

open ChainworksForge.Support

variable {db : Database} {item : WorkItem} {payload : Json}

/-- A targeted retry whose claimed execution is over, with valid outputs recorded. -/
structure ProducedOutputs (db : Database) (item : WorkItem) (payload : Json) : Prop where
  targeted : hasTargetedRetry payload = true
  finished : ∃ execution, claimedExecution db item = some execution ∧
    (execution.status = .completed ∨ execution.status = .failed) ∧
    hasTurnOutputs db execution = true

theorem ProducedOutputs.not_kept (h : ProducedOutputs db item payload) :
    keptByStageRequeue db item payload = false := by
  obtain ⟨execution, hexecution, hover, houtputs⟩ := h.finished
  have hstatus : execution.status ≠ .running := by
    rcases hover with hstatus | hstatus
    · rw [hstatus]
      decide
    · rw [hstatus]
      decide
  rw [keptByStageRequeue, hexecution]
  simp [hstatus]

/-- A claimed execution is named in the payload. -/
theorem ProducedOutputs.claimed (h : ProducedOutputs db item payload)
    (hpayload : item.payload = some payload) :
    (payload.getPath ["p058_claimed".toList, "agent_execution_id".toList]).isSome =
      true := by
  obtain ⟨execution, hexecution, -⟩ := h.finished
  rw [claimedExecution, hpayload, Option.bind_some] at hexecution
  obtain ⟨agent, hagent, -⟩ := Option.bind_eq_some_iff.1 hexecution
  rw [claimedAgent, Json.pathStr] at hagent
  obtain ⟨value, hvalue, -⟩ := Option.bind_eq_some_iff.1 hagent
  exact Option.isSome_iff_exists.2 ⟨value, hvalue⟩

/-- Whether the stage requeue fetches a running item and takes it back. -/
def TakenByStageRequeue (db : Database) (runId : Uuid) (stageExecutionId stageId : Text)
    (item : WorkItem) (payload : Json) : Prop :=
  item.runId = some runId ∧ item.stageId = some stageId ∧
    keptByStageRequeue db item payload = false ∧
    (payload.getPath ["p058_claimed".toList, "agent_execution_id".toList]).isSome = true ∧
    payload.getStr "stage_execution_id" = some stageExecutionId

/-- An item that is handled is pending afterwards when the requeue takes it back, and is
left as it was otherwise. -/
theorem requeuePreclaimedInvoke_find {db : Database} (stageExecutionId : Text)
    (now : Instant) (hfound : db.workItems.find item.id = some item)
    (hrunning : item.status = .running) (hpayload : item.payload = some payload) :
    if (payload.getPath ["p058_claimed".toList, "agent_execution_id".toList]).isSome ∧
        payload.getStr "stage_execution_id" = some stageExecutionId then
      ∃ row, (requeuePreclaimedInvoke stageExecutionId now db item).workItems.find
        item.id = some row ∧ row.status = .pending
    else (requeuePreclaimedInvoke stageExecutionId now db item).workItems.find item.id =
      some item := by
  rw [requeuePreclaimedInvoke, hpayload]
  simp only
  split_ifs with htaken
  · rw [abandonAndRequeue, requeueRunning, supersedeAbandoned_workItems,
      Table.find_update, hfound, Option.map_some, if_pos (by simp [hrunning])]
    exact ⟨_, rfl, rfl⟩
  · exact hfound

/-- Handling some rows, none of which is the given one, leaves it alone. -/
theorem foldl_requeuePreclaimedInvoke_find (stageExecutionId : Text) (now : Instant)
    {items : List WorkItem} {id : Text} (hother : id ∉ items.map WorkItem.id)
    (db : Database) :
    (items.foldl (requeuePreclaimedInvoke stageExecutionId now) db).workItems.find id =
      db.workItems.find id := by
  induction items generalizing db with
  | nil => rfl
  | cons item items ih =>
      rw [List.map_cons, List.mem_cons, not_or] at hother
      rw [List.foldl_cons, ih hother.2,
        requeuePreclaimedInvoke_find_of_ne stageExecutionId now hother.1]

/-- The stage requeue leaves a running invocation alone exactly when it does not take it
back. -/
theorem stageRequeue_find_iff {runId : Uuid} {stageExecutionId stageId : Text}
    {now : Instant} (hitem : item ∈ db.workItems.rows) (hkind : item.kind = .invokeAgent)
    (hrunning : item.status = .running) (hpayload : item.payload = some payload) :
    (requeueRunningPreclaimedInvokeForStage db runId stageExecutionId stageId
        now).workItems.find item.id = some item ↔
      ¬TakenByStageRequeue db runId stageExecutionId stageId item payload := by
  rw [requeueRunningPreclaimedInvokeForStage]
  generalize hrows : (runningInvokes db fun item =>
    item.runId = some runId ∧ item.stageId = some stageId ∧
      item.payload.any (fun payload => !keptByStageRequeue db item payload)) = rows
  have hnodup : (rows.map WorkItem.id).Nodup := hrows ▸ nodup_runningInvokes
  have hfound := db.workItems.find_of_mem hitem
  have hmem : item ∈ rows ↔ item.runId = some runId ∧ item.stageId = some stageId ∧
      keptByStageRequeue db item payload = false := by
    rw [← hrows, mem_runningInvokes]
    simp [hitem, hkind, hrunning, hpayload]
  by_cases hfetched : item ∈ rows
  · obtain ⟨front, rest, hsplit⟩ := List.append_of_mem hfetched
    rw [hsplit, List.map_append, List.map_cons, List.nodup_append,
      List.nodup_cons] at hnodup
    have hfront : item.id ∉ front.map WorkItem.id := fun hin =>
      hnodup.2.2 _ hin _ List.mem_cons_self rfl
    rw [hsplit, List.foldl_append, List.foldl_cons,
      foldl_requeuePreclaimedInvoke_find stageExecutionId now hnodup.2.1.1]
    have hstep := requeuePreclaimedInvoke_find stageExecutionId now
      ((foldl_requeuePreclaimedInvoke_find stageExecutionId now hfront db).trans hfound)
      hrunning hpayload
    obtain ⟨hrun, hstage, hkept⟩ := hmem.1 hfetched
    split_ifs at hstep with htaken
    · obtain ⟨row, hrow, hpending⟩ := hstep
      rw [hrow]
      refine iff_of_false ?_ (not_not_intro ⟨hrun, hstage, hkept, htaken.1, htaken.2⟩)
      intro hsame
      rw [Option.some.inj hsame, hrunning] at hpending
      cases hpending
    · refine iff_of_true hstep ?_
      rintro ⟨-, -, -, hclaimed, hexecution⟩
      exact htaken ⟨hclaimed, hexecution⟩
  · have hout : item.id ∉ rows.map WorkItem.id := by
      intro hin
      obtain ⟨other, hother, hid⟩ := List.mem_map.1 hin
      rw [← hrows] at hother
      have hsame := find_of_mem_runningInvokes hother
      rw [hid, hfound] at hsame
      rw [hrows, ← Option.some.inj hsame] at hother
      exact hfetched hother
    refine iff_of_true
      ((foldl_requeuePreclaimedInvoke_find stageExecutionId now hout db).trans hfound) ?_
    rintro ⟨hrun, hstage, hkept, -⟩
    exact hfetched (hmem.2 ⟨hrun, hstage, hkept⟩)

/-- A targeted retry that has produced its outputs is left alone by the stage requeue
exactly when it belongs to another run, another stage or another execution of the
stage. -/
theorem stageRequeue_spares_iff {runId : Uuid} {stageExecutionId stageId : Text}
    {now : Instant} (hitem : item ∈ db.workItems.rows) (hkind : item.kind = .invokeAgent)
    (hrunning : item.status = .running) (hpayload : item.payload = some payload)
    (hproduced : ProducedOutputs db item payload) :
    (requeueRunningPreclaimedInvokeForStage db runId stageExecutionId stageId
        now).workItems.find item.id = some item ↔
      ¬(item.runId = some runId ∧ item.stageId = some stageId ∧
        payload.getStr "stage_execution_id" = some stageExecutionId) := by
  rw [stageRequeue_find_iff hitem hkind hrunning hpayload, TakenByStageRequeue,
    hproduced.claimed hpayload, hproduced.not_kept]
  simp only [true_and]

/-! ## A finished retry -/

/-- The payload of a targeted retry that an execution has claimed. -/
def finishedRetryPayload : Json :=
  Json.ofFields
    [("targeted_retry", Json.ofFields []),
      ("stage_execution_id", .string (repeatedUuid 2).text),
      ("p058_claimed", Json.ofFields
        [("agent_execution_id", .string (repeatedUuid 3).text)])]

/-- A running targeted retry. -/
def finishedRetry : WorkItem where
  id := "item".toList
  kind := .invokeAgent
  payload := some finishedRetryPayload
  status := .running
  runId := some (repeatedUuid 1)
  stageId := some "build".toList
  createdAt := ⟨0, []⟩
  scheduledAt := ⟨0, []⟩
  startedAt := some ⟨1, []⟩
  completedAt := none
  failedAt := none
  attemptCount := 1
  lastError := none

/-- The queue after its execution was completed with a valid output. -/
def finishedRetryQueue : Database :=
  { Database.empty with
    workItems := Table.singleton finishedRetry
    agentExecutions := Table.singleton
      ⟨repeatedUuid 3, some (repeatedUuid 2), "writer".toList, .completed, some ⟨2, []⟩,
        none⟩
    runtimeFacts := Table.singleton
      ⟨repeatedUuid 3, .validOutputsFromCompletedExecution, 1, ⟨2, []⟩⟩ }

theorem finishedRetry_produced :
    ProducedOutputs finishedRetryQueue finishedRetry finishedRetryPayload where
  targeted := by decide
  finished := ⟨⟨repeatedUuid 3, some (repeatedUuid 2), "writer".toList, .completed,
    some ⟨2, []⟩, none⟩, by decide, .inl rfl, by decide⟩

theorem finishedRetry_mem : finishedRetry ∈ finishedRetryQueue.workItems.rows :=
  List.mem_singleton_self finishedRetry

/-- A repair of another execution of the stage leaves the finished retry alone. -/
theorem finished_retry_is_spared :
    (requeueRunningPreclaimedInvokeForStage finishedRetryQueue (repeatedUuid 1)
      (repeatedUuid 4).text "build".toList ⟨3, []⟩).workItems.find "item".toList =
        some finishedRetry :=
  (stageRequeue_spares_iff finishedRetry_mem rfl rfl rfl finishedRetry_produced).2
    (by decide)

/-- A repair of the stage takes the finished retry back, although its execution was
completed with valid outputs. -/
theorem finished_retry_is_taken_back :
    ProducedOutputs finishedRetryQueue finishedRetry finishedRetryPayload ∧
      (requeueRunningPreclaimedInvokeForStage finishedRetryQueue (repeatedUuid 1)
        (repeatedUuid 2).text "build".toList ⟨3, []⟩).workItems.find "item".toList ≠
          some finishedRetry := by
  refine ⟨finishedRetry_produced, ?_⟩
  have htaken : TakenByStageRequeue finishedRetryQueue (repeatedUuid 1)
      (repeatedUuid 2).text "build".toList finishedRetry finishedRetryPayload :=
    ⟨rfl, rfl, finishedRetry_produced.not_kept, finishedRetry_produced.claimed rfl,
      by decide⟩
  exact fun hsame =>
    (stageRequeue_find_iff finishedRetry_mem rfl rfl rfl).1 hsame htaken

end ChainworksForge.Queue
