import ChainworksForge.Queue.Startup

/-!
# Invocations that never reached a session

An invocation that was claimed but has no session, or whose session never heard
from its provider, is stale after a grace period, which is longer for work that
waits for Xcode.  It returns to the queue with a readback of the repair.
-/

namespace ChainworksForge.Queue

open ChainworksForge.Support

/-- Whether an invocation waits for Xcode. -/
def xcodeRequired (payload : Json) : Bool :=
  ((payload.get "xcode_broker_required".toList).bind Json.asBool).getD false ||
    ((payload.get "requested_mcp_server_ids".toList).bind Json.asArray).any
      fun servers => servers.any fun server => server.asStr = some "xcode".toList

/-- The moments before which work is stale. -/
structure StaleCutoffs where
  standard : Instant
  xcode : Instant

def StaleCutoffs.of (cutoffs : StaleCutoffs) (xcode : Bool) : Instant :=
  if xcode then cutoffs.xcode else cutoffs.standard

/-- The grace period in milliseconds. -/
def staleAfterMs (xcode : Bool) : ℤ :=
  (if xcode then xcodeStartupGraceSeconds else standardStartupGraceSeconds) * 1000

/-- When the work on an item began. -/
def workStartedAt (item : WorkItem) : Instant :=
  item.startedAt.getD item.scheduledAt

section Stale

variable (db : Database)

/-- The command of a stale item; without one the readback says so. -/
def staleSourceCommand (payload : Json) (runId : Option Uuid) : Text × String :=
  let (journal, integrity) := p082ResolveSourceCommandJournalId db payload runId
  match journal with
  | some journalId => (journalId, integrity)
  | none =>
      ("no-journal-found".toList,
        if integrity = "tamper_detected" then integrity else "unavailable")

/-- The summary of a stale startup. -/
def staleSummary (repairId itemId journalId : Text) (xcode : Bool)
    (cutoff : Instant) : Json :=
  buildStartupRepairSummary {
    startupRepairId := repairId
    sourceWorkItemId := itemId
    sourceCommandJournalId := journalId
    requeueGeneration := 1
    maxRequeueGeneration := 1
    replayed := false
    staleAfterMs := staleAfterMs xcode
    staleCutoff := cutoff.text
    xcodeRequired := xcode
    nextRetryOrBackoffTime := none
    backpressureScope := "startup" }

/-- The readback of a stale startup. -/
def staleReadback (nextAction sourceTable sourceRepository : String)
    (itemId : Text) (integrity : String) (scheduledAt : Instant) (summary : Json)
    (operatorMessage : Option Text) : Json :=
  setReadbackStartupRepair
    (buildReadbackV1 {
      scenarioId := "P082-R05"
      scenarioStatus := "repaired"
      recoveryDecision := "retry"
      recoveryReasonCode := reasonStartupStalled
      recoveryNextAction := nextAction
      sourceTable := sourceTable
      sourceRepository := sourceRepository
      sourceIdentifier := itemId
      sourceJsonKey := some "work_items.payload_json.p061_startup_recovery"
      projectionIntegrity := integrity
      updatedAt := scheduledAt.text })
    summary operatorMessage

/-- The columns of an item that was stale at startup. -/
def staleColumns (reason : Text) : RequeueColumns :=
  { scheduledAt := none, keepsCompletedAt := false, lastError := some reason }

/-! ## No session -/

/-- The stamp of an item without a session. -/
def preSessionStamp (itemId journalId : Text) (integrity : String)
    (cutoffs : StaleCutoffs) (xcode : Bool) (reason : Text)
    (scheduledAt : Instant) : Stamp where
  key := "p061_startup_recovery"
  value :=
    let cutoff := cutoffs.of xcode
    let message := if xcode then
        some ("Xcode startup grace exceeded 12 minutes (cutoff: ".toList ++
          cutoff.text ++ "); pre-session work item ".toList ++ itemId ++
          " requeued for retry. Next check: daemon scheduler next cycle ".toList ++
          "(no manual intervention required).".toList)
      else none
    let summary := staleSummary ("p082-stale-pre-session:".toList ++ itemId) itemId
      journalId xcode cutoff
    Json.ofFields
      [("requeued_at", .string scheduledAt.text),
        ("reason", .string reason),
        ("stale_cutoff", .string cutoff.text),
        ("xcode_grace_applied", .bool xcode),
        ("standard_stale_cutoff", .string cutoffs.standard.text),
        ("xcode_stale_cutoff", .string cutoffs.xcode.text),
        ("p082_recovery_matrix_readback", staleReadback
          "Stale ACP pre-session startup repaired; work item requeued."
          "work_items, agent_executions" "work_items" itemId integrity scheduledAt
          summary message)]
  not_claim := startupRecovery_ne_claimed

/-- Requeue one item without a session. -/
def requeueStalePreSession (scheduledAt : Instant) (cutoffs : StaleCutoffs)
    (reason : Text) (db : Database) (item : WorkItem) : Except Text Database := do
  let payload := item.payload.getD (.object [])
  let xcode := xcodeRequired payload
  if (cutoffs.of xcode).ticks < (workStartedAt item).ticks then return db
  else
    let superseded :=
      supersedeAbandonedPreclaimForRetry db item.id payload scheduledAt
    let (journalId, integrity) := staleSourceCommand superseded payload item.runId
    return requeueRunning superseded item.id
      (requeuedPayload payload
        (preSessionStamp item.id journalId integrity cutoffs xcode reason
          scheduledAt))
      (staleColumns reason)

/-- Requeue the claimed invocations without a session. -/
def requeueStalePreSessionInvokeAgents (scheduledAt : Instant)
    (cutoffs : StaleCutoffs) (reason : Text) : Except Text Database :=
  (runningInvokes db fun item =>
    (claimedExecution db item).any fun execution =>
      execution.status = .running ∧ execution.sessionGenerationId = none).foldlM
    (requeueStalePreSession scheduledAt cutoffs reason) db

/-! ## A session that never started -/

/-- The active generation of an item's execution that never heard from its
provider. -/
def startingGeneration (item : WorkItem) : Option SessionGeneration := do
  let execution ← claimedExecution db item
  let generationId ← execution.sessionGenerationId
  let generation ← db.sessionGenerations.find generationId
  if execution.status = .running ∧ generation.status = .active ∧
      generation.providerSessionId = none ∧ generation.lastActivityAt = none then
    some generation
  else none

/-- Invalidate a generation that never started. -/
def invalidateStarting (generation : SessionGeneration) (itemId : Text)
    (cutoff scheduledAt : Instant) : Database :=
  { db with
    sessionGenerations := db.sessionGenerations.update
      (fun row => row.id = generation.id ∧ row.status = .active ∧
        row.providerSessionId = none)
      (fun row => { row with
        status := .invalidated
        endedAt := some scheduledAt
        endReason := some "stale_acp_startup_without_provider_session".toList })
    sessionInvalidations := db.sessionInvalidations ++ [{
      lineageId := generation.lineageId
      generationId := generation.id
      recordedAt := scheduledAt
      details := Json.ofFields
        [("reason", Json.ofString "stale_acp_startup_without_provider_session"),
          ("stale_cutoff", .string cutoff.text),
          ("source_work_item_id", .string itemId)] }] }

/-- The identifier of the repair of a generation that never started. -/
def staleStartupRepairId (generationId : Text) : Text :=
  "p082-stale-startup:".toList ++ generationId

/-- The stamp of an item whose session never started. -/
def startingStamp (itemId generationId : Text) (integrity : String)
    (cutoff : Instant) (xcode : Bool) (reason : Text) (scheduledAt : Instant)
    (summary : Json) : Stamp where
  key := "p061_startup_recovery"
  value :=
    let message := if xcode then
        some ("Xcode startup grace exceeded 12 minutes (cutoff: ".toList ++
          cutoff.text ++ "); session generation ".toList ++ generationId ++
          " invalidated and work item requeued for retry. Next check: daemon ".toList ++
          "scheduler next cycle (no manual intervention required).".toList)
      else none
    Json.ofFields
      [("requeued_at", .string scheduledAt.text),
        ("reason", .string reason),
        ("stale_cutoff", .string cutoff.text),
        ("p082_recovery_matrix_readback", staleReadback
          "Stale ACP startup repaired; session generation invalidated and work item requeued."
          "work_items, session_generations, session_events"
          "work_items, sessions, startup_repairs" itemId integrity scheduledAt
          summary message)]
  not_claim := startupRecovery_ne_claimed

/-- Requeue one item whose session never started. -/
def requeueStaleStarting (scheduledAt : Instant) (cutoffs : StaleCutoffs)
    (reason : Text) (db : Database) (row : WorkItem × SessionGeneration) :
    Except Text Database := do
  let (item, generation) := row
  let payload := item.payload.getD (.object [])
  let xcode := xcodeRequired payload
  let cutoff := cutoffs.of xcode
  if cutoff.ticks < (workStartedAt item).ticks ∨
      cutoff.ticks < generation.createdAt.ticks then return db
  else
    let superseded :=
      supersedeAbandonedPreclaimForRetry db item.id payload scheduledAt
    let invalidated :=
      invalidateStarting superseded generation item.id cutoff scheduledAt
    let (journalId, integrity) := staleSourceCommand invalidated payload item.runId
    let repairId := staleStartupRepairId generation.id
    let summary := staleSummary repairId item.id journalId xcode cutoff
    let requeued := requeueRunning invalidated item.id
      (requeuedPayload payload
        (startingStamp item.id generation.id integrity cutoff xcode reason
          scheduledAt summary))
      (staleColumns reason)
    let repairs ← required
      (requeued.startupRepairs.insert {
        id := repairId
        runId := item.runId
        repairKind := "p082_stale_startup_repair".toList
        repairedAt := scheduledAt
        notes := some
          (Json.ofFields [("p082_startup_repair_summary", summary)]) })
      "write P082-R05 startup repair readback".toList
    return { requeued with startupRepairs := repairs }

/-- Requeue the claimed invocations whose session never started. -/
def requeueStaleStartingInvokeAgentSessions (scheduledAt : Instant)
    (cutoffs : StaleCutoffs) (reason : Text) : Except Text Database :=
  ((runningInvokes db fun item => (startingGeneration db item).isSome).filterMap
    fun item => (startingGeneration db item).map fun generation =>
      (item, generation)).foldlM
    (requeueStaleStarting scheduledAt cutoffs reason) db

end Stale

end ChainworksForge.Queue
