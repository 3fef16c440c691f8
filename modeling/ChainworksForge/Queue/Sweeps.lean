import ChainworksForge.Queue.Startup

/-!
# The sweeps at startup

The complete sweep and the fail sweep select items first and then settle them
one by one, each in a transaction of its own; an error ends the recovery.  The
startup requeue follows them.
-/

namespace ChainworksForge.Queue

open ChainworksForge.Support

/-- The value that a statement extracts from a JSON member. -/
inductive SqlValue where
  | text (value : Text)
  | number (value : ℚ)
  | composite (value : Json)
deriving DecidableEq

/-- The value of a member; a missing member and `null` have none. -/
def sqlValue : Option Json → Option SqlValue
  | none | some .null => none
  | some (.bool b) => some (.number (if b then 1 else 0))
  | some (.number n) => some (.number n.toRat)
  | some (.string s) => some (.text s)
  | some (.array items) => some (.composite (.array items))
  | some (.object fields) => some (.composite (.object fields))

/-- Whether two members have the same value. -/
def sqlEqual (a b : Option Json) : Bool :=
  (sqlValue a).isSome ∧ sqlValue a = sqlValue b

/-- The member that a sequence of keys leads to. -/
def member (payload : Json) (path : List String) : Option Json :=
  payload.getPath (path.map String.toList)

section Selections

variable (db : Database)

/-- Whether the retry that a payload belongs to is the one that was claimed. -/
def hasConsistentRetryLinkage (payload : Json) : Bool :=
  ((payload.get "retry_authority_id".toList).isNone ∧
    (payload.get "targeted_retry".toList).isNone) ∨
  (sqlEqual (member payload ["targeted_retry", "target_stage_execution_id"])
      (member payload ["p058_claimed", "artifact_claim_key", "stage_execution_id"]) ∧
    sqlEqual (member payload ["targeted_retry", "retry_authority_id"])
      (member payload ["retry_authority_id"]))

/-- Whether an item is a retry that the daemon queued for missing outputs. -/
def isAutoContractOutputRetry (itemId : Text) : Bool :=
  Text.startsWith (itemId.map Text.asciiLower) "auto-contract-output-retry:".toList

/-- Whether the complete sweep selects a running item. -/
def completeSelects (item : WorkItem) : Bool :=
  item.payload.any fun payload =>
    !isAutoContractOutputRetry item.id && hasConsistentRetryLinkage payload &&
      (payload.getStr "stage_execution_id").any fun stage =>
        (claimedAgent payload).any fun agent =>
          ownsValidOutputs db [.completed, .failed] turnSettlements item stage agent

/-- Whether the fail sweep selects a running item. -/
def failSelects (item : WorkItem) : Bool :=
  item.payload.any fun payload =>
    (payload.getStr "stage_execution_id").any fun stage =>
      (claimedExecution db item).any fun execution =>
        (∃ stageExecution ∈ db.stageExecutions,
          stageExecution.id.text = stage ∧ some stageExecution.runId = item.runId ∧
            execution.stageExecutionId = some stageExecution.id) ∧
        (execution.status = .failed ∨ execution.status = .cancelled) ∧
        ¬hasTurnOutputs db execution ∧
        ¬∃ diagnostics ∈ db.discoveryDiagnostics,
          diagnostics.agentExecutionId = execution.id ∧
            diagnostics.missingRequiredOutputCount = 0 ∧
            diagnostics.rejectedOutputCount = 0 ∧ diagnostics.staleOutputCount = 0

end Selections

/-- Settle the given items one by one, until an error. -/
def settleAll (settle : Database → Text → Except Text Database) :
    List Text → Database → Database × Bool
  | [], db => (db, true)
  | itemId :: rest, db =>
      match settle db itemId with
      | .error _ => (db, false)
      | .ok settled => settleAll settle rest settled

section Recovery

variable (db : Database)

/-- The complete sweep. -/
def completeRunningInvokeAgentsWithTerminalValidOutputsOnStartup (now : Instant) :
    Database × Bool :=
  settleAll (fun db itemId => completeAttemptWithCapacity db itemId none now)
    ((runningInvokes db (completeSelects db)).map (·.id)) db

/-- The fail sweep. -/
def failRunningInvokeAgentsWithTerminalFailedOutputsOnStartup
    (now : Instant) (reason : Text) : Database × Bool :=
  settleAll (fun db itemId => failAttemptWithCapacity db itemId reason none now)
    ((runningInvokes db (failSelects db)).map (·.id)) db

/-- The three passes over the running invocations.  The flag tells whether they
ran to their end. -/
def recoverRunningInvokes (now : Instant) : Database × Bool :=
  let (completed, completedAll) :=
    completeRunningInvokeAgentsWithTerminalValidOutputsOnStartup db now
  if !completedAll then (completed, false)
  else
    let (failed, failedAll) :=
      failRunningInvokeAgentsWithTerminalFailedOutputsOnStartup completed now
        "startup_repair_terminal_agent_missing_outputs".toList
    if !failedAll then (failed, false)
    else
      match requeueRunningInvokeAgentOnStartup failed now
          "startup_repair_abandoned_invoke_agent".toList with
      | .error _ => (failed, false)
      | .ok requeued => (requeued, true)

end Recovery

end ChainworksForge.Queue
