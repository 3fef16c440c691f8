import ChainworksForge.Queue.Loops
import ChainworksForge.Scheduler.Backpressure
import Mathlib.Data.List.Dedup

/-!
# The refresh of the queue summaries

Settling an invocation refreshes the summaries of the queue in the same transaction.
The refresh reads every invocation that is due and every one that is running, counts
what is active, groups what is due by scope, provider and reason, and replaces the table
of summaries.  A payload that is not JSON stops it, and so do two groups that the table
cannot tell apart.
-/

namespace ChainworksForge.Scheduler

open ChainworksForge.Support ChainworksForge.Queue

/-! ## Providers and capacity -/

inductive ProviderFamily where
  | claude
  | gemini
  | codex
  | auggie
  | junie
deriving DecidableEq

namespace ProviderFamily

def asStr : ProviderFamily → Text
  | claude => "claude".toList
  | gemini => "gemini".toList
  | codex => "codex".toList
  | auggie => "auggie".toList
  | junie => "junie".toList

def aliases : ProviderFamily → List String
  | claude => ["claude", "claude_acp", "claude_agent", "claude_agent_acp"]
  | gemini => ["gemini", "gemini_acp", "gemini_cli", "gemini_cli_acp"]
  | codex => ["codex", "codex_acp", "codex_cli", "codex_cli_acp", "openai_codex"]
  | auggie => ["auggie", "auggie_acp"]
  | junie => ["junie", "junie_acp"]

def normalizeProviderAlias (raw : Text) : Text :=
  (raw.trim.map Text.asciiLower).map fun c => if c = '-' then '_' else c

def resolve (raw : Text) : Option ProviderFamily :=
  [claude, gemini, codex, auggie, junie].find? fun family =>
    (family.aliases.map String.toList).contains (normalizeProviderAlias raw)

def canonicalizeKnownAlias (raw : Text) : Option Text := (resolve raw).map asStr

end ProviderFamily

structure InvokeAgentCapacityConfig where
  globalActiveAgentExecutions : ℕ
  perRunActiveAgentExecutions : ℕ
  xcodeMcpActiveInvocations : ℕ
  providerCap : ProviderFamily → ℕ

/-! ## The invocations of the queue -/

structure PendingInvokeAgentWork where
  runId : Option Text
  stageExecutionId : Option Text
  providerFamily : Option Text
  model : Option Text
  scheduledAt : Instant
  requiresXcodeMcp : Bool
  startupRecoveryRequeued : Bool
deriving DecidableEq

def invokePayloadRequiresXcodeMcp (payload : Json) : Bool :=
  let flag (key : String) : Bool := ((payload.get key.toList).bind Json.asBool).getD false
  flag "xcode_broker_required" || flag "xcode_shim_injection_signal" ||
    flag "requires_xcode_host_execution" ||
    ((payload.get "requested_mcp_server_ids".toList).bind Json.asArray).any fun servers =>
      (servers.filterMap Json.asStr).any fun server =>
        server = "xcode".toList ∨ server = "xcode_broker".toList

/-- What the refresh reads of an item whose payload is given. -/
def workOf (item : WorkItem) (payload : Json) : PendingInvokeAgentWork where
  runId := item.runId.map Uuid.text
  stageExecutionId := payload.getStr "stage_execution_id"
  providerFamily := (payload.getStr "provider").bind ProviderFamily.canonicalizeKnownAlias
  model := payload.getStr "model"
  scheduledAt := item.scheduledAt
  requiresXcodeMcp := invokePayloadRequiresXcodeMcp payload
  startupRecoveryRequeued := (payload.get "p061_startup_recovery".toList).isSome

def parseInvokeAgentWorkRow (item : WorkItem) : Except Text PendingInvokeAgentWork := do
  let payload ← required item.payload "parse InvokeAgent work payload".toList
  return workOf item payload

/-- The invocations that are due, in queue order. -/
def dueInvokes (queue : Database) (now : Instant) : List WorkItem :=
  (queue.workItems.rows.filter fun item =>
    item.kind = .invokeAgent ∧ item.status = .pending ∧
      item.scheduledAt.text ≤ now.text).insertionSort
        fun a b => a.scheduledAt.text ≤ b.scheduledAt.text

def loadPendingInvokeAgentWork (queue : Database) (now : Instant) :
    Except Text (List PendingInvokeAgentWork) :=
  (dueInvokes queue now).mapM parseInvokeAgentWorkRow

/-- The invocations that a worker holds. -/
def heldInvokes (queue : Database) : List WorkItem :=
  queue.workItems.rows.filter fun item => item.kind = .invokeAgent ∧ item.status = .running

def loadRunningInvokeAgentWork (queue : Database) :
    Except Text (List PendingInvokeAgentWork) :=
  (heldInvokes queue).mapM parseInvokeAgentWorkRow

/-! ## What is active -/

/-- What the refresh reads of the other tables: the provider of an execution, and the
scopes whose quota is waited for. -/
structure ProviderTables where
  executionProvider : Uuid → Option Text
  quotaWaitScopes : List Text

structure ActiveCounts where
  global : ℕ
  xcodeMcp : ℕ
  byRun : Text → ℕ
  byProvider : Text → ℕ
  providerQuotaWaitScopes : List Text

def providerQuotaWaitScopeKey (providerFamily : Text) (model : Option Text) : Text :=
  let normalized := ((model.map Text.trim).filter fun text => !text.isEmpty).map
    fun text => List.map Text.asciiLower text
  providerFamily ++ "::".toList ++ normalized.getD "*".toList

/-- The executions that are running. -/
def runningExecutions (queue : Database) : List AgentExecution :=
  queue.agentExecutions.rows.filter fun execution => execution.status = .running

/-- The counts, given the executions and the invocations that are running. -/
def activeCountsOf (providers : ProviderTables) (stages : List StageExecution)
    (executions : List AgentExecution) (running : List PendingInvokeAgentWork) :
    ActiveCounts where
  global := max executions.length running.length
  xcodeMcp := running.countP PendingInvokeAgentWork.requiresXcodeMcp
  byRun runId := max
    (executions.countP fun execution =>
      stages.any fun stage =>
        some stage.id = execution.stageExecutionId ∧ stage.runId.text = runId)
    (running.countP fun work => work.runId = some runId)
  byProvider family := max
    (executions.countP fun execution =>
      (providers.executionProvider execution.id).getD [] = family ∧ family ≠ [])
    (running.countP fun work => work.providerFamily = some family)
  providerQuotaWaitScopes := providers.quotaWaitScopes

def ActiveCounts.load (providers : ProviderTables) (queue : Database) :
    Except Text ActiveCounts := do
  let running ← loadRunningInvokeAgentWork queue
  return activeCountsOf providers queue.stageExecutions (runningExecutions queue) running

def topReasonForItem (work : PendingInvokeAgentWork) (active : ActiveCounts)
    (capacity : InvokeAgentCapacityConfig) : Text :=
  if work.startupRecoveryRequeued then "startup_recovery_backpressure".toList
  else if work.requiresXcodeMcp ∧
      active.xcodeMcp ≥ capacity.xcodeMcpActiveInvocations then
    "xcode_mcp_capacity".toList
  else if work.runId.any fun runId =>
      active.byRun runId ≥ capacity.perRunActiveAgentExecutions then
    "run_capacity".toList
  else if work.providerFamily.any fun family =>
      active.providerQuotaWaitScopes.contains (providerQuotaWaitScopeKey family none) ||
        active.providerQuotaWaitScopes.contains
          (providerQuotaWaitScopeKey family work.model) then
    "provider_quota_wait".toList
  else if work.providerFamily.any fun family =>
      (ProviderFamily.resolve family).any fun known =>
        active.byProvider family ≥ capacity.providerCap known then
    "provider_capacity".toList
  else if active.global ≥ capacity.globalActiveAgentExecutions then
    "global_capacity".toList
  else "queued".toList

/-! ## Groups -/

structure SummaryKey where
  scope : Text
  scopeId : Text
  runId : Option Text
  stageExecutionId : Option Text
  providerFamily : Option Text
  topReason : Text
deriving DecidableEq

/-- The columns by which groups are ordered. -/
def SummaryKey.columns (key : SummaryKey) : List (List Text) :=
  [[key.scope], [key.scopeId], key.runId.toList, key.stageExecutionId.toList,
    key.providerFamily.toList, [key.topReason]]

/-- The groups that an item is counted in. -/
def summaryKeys (reasonOf : PendingInvokeAgentWork → Text) (work : PendingInvokeAgentWork) :
    List SummaryKey :=
  ⟨"global".toList, [], none, none, work.providerFamily, reasonOf work⟩ ::
    ((work.runId.map fun runId =>
      ⟨"run".toList, runId, some runId, none, work.providerFamily, reasonOf work⟩).toList ++
    (work.stageExecutionId.map fun stage =>
      ⟨"stage".toList, stage, work.runId, some stage, work.providerFamily,
        reasonOf work⟩).toList)

/-- The age of an item, in milliseconds. -/
def ageMs (now : Instant) (work : PendingInvokeAgentWork) : ℤ :=
  max ((now.ticks : ℤ) - work.scheduledAt.ticks) 0

/-- The primary key of the table of summaries. -/
def SchedulerQueueSummary.primaryKey (summary : SchedulerQueueSummary) :
    Text × Text × Text × Text :=
  (summary.scope, summary.scopeId, summary.providerFamily.getD [], summary.topReason)

/-- The summary of a group. -/
def summaryOf (reasonOf : PendingInvokeAgentWork → Text)
    (pending : List PendingInvokeAgentWork) (now : Instant) (key : SummaryKey) :
    SchedulerQueueSummary :=
  let members := pending.filter fun work => (summaryKeys reasonOf work).contains key
  { scope := key.scope
    scopeId := key.scopeId
    runId := key.runId
    stageExecutionId := key.stageExecutionId
    providerFamily := key.providerFamily
    topReason := key.topReason
    queuedCount := members.length
    oldestQueuedAgeMs := (members.map (ageMs now)).foldl max 0
    globalQueueDepth := pending.length
    staleAfterMs := Scheduler.staleAfterMs
    updatedAt := now }

/-- The groups, in the order in which they are written. -/
def groupedKeys (reasonOf : PendingInvokeAgentWork → Text)
    (pending : List PendingInvokeAgentWork) : List SummaryKey :=
  (pending.flatMap (summaryKeys reasonOf)).dedup.insertionSort
    fun a b => a.columns ≤ b.columns

abbrev Summaries := Table SchedulerQueueSummary.primaryKey

/-- Write one summary; a taken key stops the refresh. -/
def insertQueueSummary (summaries : Summaries) (summary : SchedulerQueueSummary) :
    Except Text Summaries :=
  required (summaries.insert summary) "insert refreshed scheduler queue summary".toList

/-! ## The refresh -/

/-- The tables that settling an invocation writes. -/
structure SchedulerTables where
  queue : Database
  summaries : Summaries
  monitor : Monitor

def refreshQueueSummariesForNotification (providers : ProviderTables)
    (capacity : InvokeAgentCapacityConfig) (now : Instant) (tables : SchedulerTables) :
    Except Text SchedulerTables := do
  let pending ← loadPendingInvokeAgentWork tables.queue now
  let active ← ActiveCounts.load providers tables.queue
  let reasonOf work := topReasonForItem work active capacity
  let refreshed := (groupedKeys reasonOf pending).map (summaryOf reasonOf pending now)
  let summaries ← refreshed.foldlM insertQueueSummary Table.empty
  return { tables with
    summaries
    monitor := tables.monitor.observe
      ⟨pending.length, (pending.map (ageMs now)).foldl max 0, refreshed, now⟩ }

/-- The two ways in which a worker settles an item. -/
inductive Settlement where
  | complete
  | fail (error : Text)

/-- Settle the item, without the refresh. -/
def Settlement.settle (settlement : Settlement) (queue : Database) (itemId : Text)
    (expected : Option Uuid) (now : Instant) : Except Text Database :=
  match settlement with
  | .complete => completeAttemptWithCapacity queue itemId expected now
  | .fail error => failAttemptWithCapacity queue itemId error expected now

/-- Whether the call settles an open invocation. -/
def settlesInvoke (queue : Database) (itemId : Text) (expected : Option Uuid) : Bool :=
  (queue.workItems.find itemId).any fun item =>
    matchesWorkItemAttempt queue item expected ∧ item.isOpen ∧ item.kind = .invokeAgent

/-- Settle an item and, when it was an open invocation, refresh the summaries. -/
def settleAttemptWithRefresh (providers : ProviderTables)
    (capacity : InvokeAgentCapacityConfig) (settlement : Settlement)
    (tables : SchedulerTables) (itemId : Text) (expected : Option Uuid) (now : Instant) :
    Except Text SchedulerTables := do
  let queue ← settlement.settle tables.queue itemId expected now
  if settlesInvoke tables.queue itemId expected then
    refreshQueueSummariesForNotification providers capacity now { tables with queue }
  else return { tables with queue }

end ChainworksForge.Scheduler
