import ChainworksForge.Queue.Requeue

/-!
# Recovery at startup

A daemon that starts finds invocations that its predecessor left running.  The
complete sweep settles those with proved outputs, the fail sweep those whose
execution ended without them, and the startup requeue returns the rest to the
queue: once for each command that the item came from, which a repair record with
a derived identifier keeps count of.
-/

namespace ChainworksForge.Queue

open ChainworksForge.Support

/-! ## The command that an item came from -/

section Journal

/-- The first of the journal identifiers that a payload carries. -/
def p082SourceCommandJournalIdFromPayload (payload : Json) : Option Text :=
  [["targeted_retry", "journal_id"], ["operator_retry_instruction", "journal_id"],
    ["source_command_journal_id"], ["journal_id"]].findSome? fun path =>
      ((payload.pathStr path).map Text.trim).filter fun id => !id.isEmpty

variable (db : Database)

/-- The latest command of a run; no command is stored under the empty text. -/
def p082LatestCommandJournalIdForRun (runId : Option Uuid) : Option Text :=
  (((db.commandJournal.rows.filter fun entry =>
    runId.isSome ∧ entry.runId = runId).insertionSort fun a b =>
      b.createdAt.text < a.createdAt.text ∨
        b.createdAt.text = a.createdAt.text ∧ b.id ≤ a.id).head?).map (·.id)

/-- The run column of a command, if there is the command; a column without a run is
read as the empty text. -/
def p082CommandJournalRunId (journalId : Text) : Option (Option Uuid) :=
  (db.commandJournal.find journalId).map (·.runId)

/-- The command that an item came from, and whether the payload can be
trusted.  An item without a run has the empty text for its run. -/
def p082ResolveSourceCommandJournalId (payload : Json) (runId : Option Uuid) :
    Option Text × String :=
  let foreign := (nonBlank (payload.getStr "run_id")).any
    fun raw => raw.trim ≠ (runId.map Uuid.text).getD []
  let integrity := if foreign then "tamper_detected" else "valid"
  match p082SourceCommandJournalIdFromPayload payload with
  | none => (p082LatestCommandJournalIdForRun db runId, integrity)
  | some journalId =>
      if p082CommandJournalRunId db journalId = some runId then
        (some journalId, integrity)
      else (p082LatestCommandJournalIdForRun db runId, "tamper_detected")

end Journal

/-! ## Cleanup of interrupted executions -/

section Cleanup

variable (db : Database)

/-- Whether a host interruption still waits for a requeued item. -/
def awaitsStartupRequeue (itemId agent : Text)
    (row : HostInterruptionAffectedExecution) : Bool :=
  row.agentExecutionId.text = agent ∧
    row.settlementStatus = "cleanup_pending".toList ∧
    row.cleanupStatus = "pending".toList ∧
    (∃ execution ∈ db.agentExecutions.rows,
      execution.id = row.agentExecutionId ∧
        execution.stageExecutionId.map Uuid.text = some row.stageExecutionId) ∧
    ∃ item ∈ db.workItems.rows,
      item.id = itemId ∧ item.runId.isSome ∧ item.runId = row.runId ∧
        item.payload.bind (·.getStr "stage_execution_id") =
          some row.stageExecutionId ∧
        item.status = .pending

/-- End the active generation of an execution. -/
def endActiveGeneration (generationId epochId : Text) (now : Instant) : Database :=
  match db.sessionGenerations.find generationId with
  | none => db
  | some generation =>
      if generation.status = .active then
        { db with
          sessionGenerations := db.sessionGenerations.update
            (fun row => row.id = generationId)
            (fun row => { row with
              status := .invalidated
              endReason := some "host_interruption_startup_recovery".toList
              endedAt := some now })
          sessionInvalidations := db.sessionInvalidations ++ [{
            lineageId := generation.lineageId
            generationId := generationId
            recordedAt := now
            details := Json.ofFields
              [("reason", Json.ofString "host_interruption_startup_recovery"),
                ("epoch_id", .string epochId)] }] }
      else db

/-- Close one interruption whose retry the startup repair owns. -/
def settleHostCleanup (agent : Text) (now : Instant) (db : Database)
    (row : HostInterruptionAffectedExecution) : Database :=
  let generation := (db.agentExecutions.find row.agentExecutionId).bind
    (·.sessionGenerationId)
  let ended := match generation with
    | none => db
    | some generationId => endActiveGeneration db generationId row.epochId now
  { ended with
    hostInterruptions := ended.hostInterruptions.update
      (fun other => other.epochId = row.epochId ∧
        other.agentExecutionId.text = agent ∧
        other.settlementStatus = "cleanup_pending".toList)
      (fun other => { other with
        settlementStatus := "retry_recovered_on_startup".toList
        cleanupStatus := "unknown_after_restart".toList
        retryEnqueuedAt := some now }) }

/-- Close the interruptions of the execution that a requeued item had. -/
def settleHostCleanupAfterStartupRequeue (itemId : Text) (agent : Option Text)
    (now : Instant) : Database :=
  match agent with
  | none => db
  | some agent =>
      (db.hostInterruptions.rows.filter (awaitsStartupRequeue db itemId agent)).foldl
        (settleHostCleanup agent now) db

end Cleanup

/-! ## The startup requeue -/

section Requeue

/-- The identifier of the repair record of an item and a command. -/
def startupRepairId (journalId itemId : Text) : Text :=
  "p082-requeue:".toList ++ journalId ++ ":".toList ++ itemId ++ ":1".toList

/-- The summary of a startup requeue. -/
def startupRequeueSummary (journalId itemId : Text) (replayed : Bool)
    (scheduledAt : Instant) : Json :=
  buildStartupRepairSummary {
    startupRepairId := startupRepairId journalId itemId
    sourceWorkItemId := itemId
    sourceCommandJournalId := journalId
    requeueGeneration := 1
    maxRequeueGeneration := 1
    replayed := replayed
    staleAfterMs := 60000
    staleCutoff := scheduledAt.text
    xcodeRequired := false
    nextRetryOrBackoffTime := none
    backpressureScope := "global" }

/-- The notes of the repair that consumes the only generation. -/
def requeueOnceNotes (journalId itemId : Text) (integrity : String)
    (scheduledAt : Instant) : Json :=
  Json.ofFields
    [("p082_recovery_matrix_readback",
      setReadbackStartupRepair
        (buildReadbackV1 {
          scenarioId := "P082-R01"
          scenarioStatus := "repaired"
          recoveryDecision := "retry"
          recoveryReasonCode := reasonStartupRequeueOnce
          recoveryNextAction :=
            "Startup recovery requeued abandoned InvokeAgent work item."
          sourceTable := "startup_repairs, work_items, command_journal"
          sourceRepository := "startup_repairs, work_items"
          sourceIdentifier := startupRepairId journalId itemId
          sourceJsonKey :=
            some "startup_repairs.notes.p082_recovery_matrix_readback"
          projectionIntegrity := integrity
          updatedAt := scheduledAt.text })
        (startupRequeueSummary journalId itemId false scheduledAt) none)]

/-- The notes of an item whose generation was already consumed. -/
def requeueExhaustedNotes (journalId itemId : Text) (scheduledAt : Instant) : Json :=
  Json.ofFields
    [("p082_recovery_matrix_readback",
      setReadbackStartupRepair
        (buildReadbackV1 {
          scenarioId := "P082-R16"
          scenarioStatus := "held"
          recoveryDecision := "wait"
          recoveryReasonCode := reasonStartupRequeueExhausted
          recoveryNextAction := "Startup requeue generation 1 was already consumed; " ++
            "no duplicate work was enqueued."
          sourceTable := "startup_repairs, work_items"
          sourceRepository := "startup_repairs, work_items"
          sourceIdentifier := startupRepairId journalId itemId
          sourceJsonKey :=
            some "startup_repairs.notes.p082_recovery_matrix_readback"
          projectionIntegrity := "valid"
          updatedAt := scheduledAt.text })
        (startupRequeueSummary journalId itemId true scheduledAt)
        (some ("Startup requeue exhausted: generation 1 was already consumed. ".toList ++
          "Use existing recovery inspection or cancellation paths to clear the ".toList ++
          "hold.".toList)))]

/-- Whether notes are those of the repair that consumed the generation of an
item. -/
def isRequeueOnceReplay (repairId itemId : Text) (notes : Json) : Bool :=
  notes.pathStr ["p082_recovery_matrix_readback", "scenario_id"] =
      some "P082-R01".toList ∧
    notes.pathStr ["p082_recovery_matrix_readback", "recovery_reason_code"] =
      some reasonStartupRequeueOnce.toList ∧
    notes.pathStr ["p082_recovery_matrix_readback",
      "recovery_startup_repair_summary", "startup_repair_id"] = some repairId ∧
    notes.pathStr ["p082_recovery_matrix_readback",
      "recovery_startup_repair_summary", "source_work_item_id"] = some itemId ∧
    (notes.getPath (["p082_recovery_matrix_readback",
      "recovery_startup_repair_summary", "requeue_generation"].map
        String.toList)).bind Json.asI64 = some 1

/-- Whether a payload is stamped with the repair of an item. -/
def isStampedReplay (repairId itemId : Text) (payload : Json) : Bool :=
  payload.pathStr ["p061_startup_recovery", "startup_repair_id"] = some repairId ∧
    (payload.getPath (["p061_startup_recovery", "requeue_generation"].map
      String.toList)).bind Json.asI64 = some 1 ∧
    payload.pathStr ["p061_startup_recovery", "source_work_item_id"] = some itemId

/-- Mark the notes of a repair as replayed. -/
def markReplayed (notes : Json) (scheduledAt : Instant) : Json :=
  match notes.get "p082_recovery_matrix_readback".toList with
  | none => notes
  | some readback =>
      match readback.get "recovery_startup_repair_summary".toList with
      | none => notes
      | some summary =>
          notes.insert "p082_recovery_matrix_readback"
            (readback.insert "recovery_startup_repair_summary"
              ((summary.insert "replayed" (.bool true)).insert
                "next_retry_or_backoff_time" (.string scheduledAt.text)))

/-- The stamp of a requeue whose command is not known. -/
def plainRequeueStamp (itemId reason : Text) (scheduledAt : Instant) : Stamp where
  key := "p061_startup_recovery"
  value := Json.ofFields
    [("requeued_at", .string scheduledAt.text),
      ("reason", .string reason),
      ("source_work_item_id", .string itemId),
      ("requeue_generation", .number (.posInt 1)),
      ("max_requeue_generation", .number (.posInt 1))]
  not_claim := startupRecovery_ne_claimed

/-- The stamp of a requeue that a repair record counts. -/
def recordedRequeueStamp (journalId itemId reason : Text) (scheduledAt : Instant)
    (replayed : Bool) : Stamp where
  key := "p061_startup_recovery"
  value := Json.ofFields
    ([("requeued_at", .string scheduledAt.text),
      ("reason", .string reason),
      ("startup_repair_id", .string (startupRepairId journalId itemId)),
      ("source_command_journal_id", .string journalId),
      ("source_work_item_id", .string itemId),
      ("requeue_generation", .number (.posInt 1)),
      ("max_requeue_generation", .number (.posInt 1))] ++
      if replayed then [("replayed", .bool true)] else [])
  not_claim := startupRecovery_ne_claimed

variable (db : Database)

/-- What the startup requeue does with an item. -/
inductive StartupDecision where
  /-- No command is known: requeue without a record. -/
  | plain
  /-- The generation is free: record the repair and requeue. -/
  | once (journalId : Text) (integrity : String)
  /-- The record is taken for a repeated repair: requeue again. -/
  | replay (journalId : Text)
  /-- The generation was consumed: fail the item. -/
  | exhausted (journalId : Text)
deriving DecidableEq

/-- The decision for a running item of a run. -/
def startupDecision (item : WorkItem) (payload : Json) (runId : Option Uuid) :
    Except Text StartupDecision := do
  let (journal, integrity) := p082ResolveSourceCommandJournalId db payload runId
  match journal with
  | none => return .plain
  | some journalId =>
      let repairId := startupRepairId journalId item.id
      match db.startupRepairs.find repairId with
      | none => return .once journalId integrity
      | some repair =>
          let notes ← required repair.notes
            "load startup repair notes for P082 crash replay".toList
          if isStampedReplay repairId item.id payload ∨
              isRequeueOnceReplay repairId item.id notes then
            return .replay journalId
          else return .exhausted journalId

/-- Record a repair that was not recorded before. -/
def recordRepair (repair : StartupRepair) : Database :=
  { db with startupRepairs := db.startupRepairs.insertOrIgnore repair }

/-- Change the notes of a repair. -/
def updateRepairNotes (repairId : Text) (change : Option Json → Option Json) :
    Database :=
  { db with
    startupRepairs := db.startupRepairs.update
      (fun repair => repair.id = repairId)
      (fun repair => { repair with notes := change repair.notes }) }

/-- Return an item to the queue at startup. -/
def requeueOnStartup (itemId : Text) (payload : Json) (stamp : Stamp)
    (reason : Text) (scheduledAt : Instant) : Database :=
  settleHostCleanupAfterStartupRequeue
    (requeueRunning db itemId (requeuedPayload payload stamp)
      { scheduledAt := none, keepsCompletedAt := false, lastError := some reason })
    itemId (claimedAgent payload) scheduledAt

/-- Fail an item whose generation was consumed. -/
def failExhausted (itemId : Text) (scheduledAt : Instant) : Database :=
  { db with
    workItems := db.workItems.update
      (fun item => item.id = itemId ∧ item.status = .running)
      (fun item => { item with
        status := .failed
        failedAt := some scheduledAt
        lastError := some
          "startup_requeue_exhausted: generation 1 already consumed".toList }) }

/-- Carry out a decision. -/
def applyStartupDecision (item : WorkItem) (payload : Json) (runId : Option Uuid)
    (scheduledAt : Instant) (reason : Text) : StartupDecision → Database
  | .plain =>
      requeueOnStartup db item.id payload
        (plainRequeueStamp item.id reason scheduledAt) reason scheduledAt
  | .once journalId integrity =>
      requeueOnStartup
        (recordRepair db {
          id := startupRepairId journalId item.id
          runId := runId
          repairKind := "p082_requeue_once".toList
          repairedAt := scheduledAt
          notes := some (requeueOnceNotes journalId item.id integrity scheduledAt) })
        item.id payload
        (recordedRequeueStamp journalId item.id reason scheduledAt false)
        reason scheduledAt
  | .replay journalId =>
      requeueOnStartup
        (updateRepairNotes db (startupRepairId journalId item.id)
          (·.map fun notes => markReplayed notes scheduledAt))
        item.id payload
        (recordedRequeueStamp journalId item.id reason scheduledAt true)
        reason scheduledAt
  | .exhausted journalId =>
      failExhausted
        (updateRepairNotes db (startupRepairId journalId item.id)
          fun _ => some (requeueExhaustedNotes journalId item.id scheduledAt))
        item.id scheduledAt

/-- Handle one item that the startup requeue has selected. -/
def startupRequeueItem (scheduledAt : Instant) (reason : Text) (db : Database)
    (item : WorkItem) : Except Text Database := do
  let payload := item.payload.getD (.object [])
  let superseded := supersedeAbandonedPreclaimForRetry db item.id payload scheduledAt
  let decision ← startupDecision superseded item payload item.runId
  return applyStartupDecision superseded item payload item.runId scheduledAt reason
    decision

/-- Whether a targeted retry of a completed execution keeps its item running. -/
def keptByStartupRequeue (item : WorkItem) (payload : Json) : Bool :=
  hasTargetedRetry payload && (claimedExecution db item).any fun execution =>
    execution.status = .completed && hasTurnOutputs db execution

/-- Whether the startup requeue selects a running item. -/
def startupRequeueSelects (item : WorkItem) : Bool :=
  item.payload.any fun payload => !keptByStartupRequeue db item payload

/-- The startup requeue, over all running invocations. -/
def requeueRunningInvokeAgentOnStartup (scheduledAt : Instant) (reason : Text) :
    Except Text Database :=
  (runningInvokes db (startupRequeueSelects db)).foldlM
    (startupRequeueItem scheduledAt reason) db

end Requeue

end ChainworksForge.Queue
