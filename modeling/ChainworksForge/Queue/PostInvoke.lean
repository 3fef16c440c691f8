import ChainworksForge.Queue.AdvancePayload
import ChainworksForge.Queue.Database

/-!
# The advance that follows an invocation

When an invocation is settled, the queue builds the payload of the advance that
re-evaluates its run.  `resolveAuthority` finds the retry authority that the
invocation belongs to from the hints in its own payload;
`buildPostInvokeAdvancePayload` names that authority and its target, or the run
alone if there is none.
-/

namespace ChainworksForge.Queue

open ChainworksForge.Support

/-- How an invocation ended. -/
inductive InvokeOutcome where
  | completed
  | failed
deriving DecidableEq

namespace InvokeOutcome

def reason : InvokeOutcome → Text
  | completed => "invoke_agent_completed".toList
  | failed => "invoke_agent_failed".toList

def enqueueReason : InvokeOutcome → AdvanceRunEnqueueReason
  | completed => .postInvokeCompletion
  | failed => .postInvokeFailure

def terminalWorkItemField : InvokeOutcome → String
  | completed => "completed_invoke_work_item_id"
  | failed => "failed_invoke_work_item_id"

end InvokeOutcome

/-- What a payload says about the stage and the authority of an invocation. -/
structure InvokeHints where
  explicitTarget : Option Text
  topLevelAgent : Option Text
  targetedAgent : Option Text
  claimedAgent : Option Text
  stageExecutionId : Option Text
  retryAuthorityId : Option Text
  hasTargetedRetry : Bool
  sourceWorkItemId : Option Text

namespace InvokeHints

def ofPayload (source : Json) : InvokeHints where
  explicitTarget := source.getStr "target_stage_execution_id"
  topLevelAgent := source.getStr "source_agent_execution_id"
  targetedAgent := source.pathStr ["targeted_retry", "source_agent_execution_id"]
  claimedAgent := Queue.claimedAgent source
  stageExecutionId := source.getStr "stage_execution_id"
  retryAuthorityId := (source.getStr "retry_authority_id").or
    (source.pathStr ["targeted_retry", "retry_authority_id"])
  hasTargetedRetry := (source.get "targeted_retry".toList).isSome
  sourceWorkItemId := (source.pathStr ["targeted_retry", "source_work_item_id"]).or
    (source.getStr "source_work_item_id")

variable (hints : InvokeHints)

/-- The execution that the invocation was made by. -/
def durableAgent : Option Text :=
  hints.claimedAgent.or (hints.targetedAgent.or hints.topLevelAgent)

def hasTargetedHint : Bool :=
  hints.explicitTarget.isSome || hints.retryAuthorityId.isSome ||
    hints.hasTargetedRetry

/-- The execution named at the top level must be the one that made the
invocation; the one being retried may differ from the one that has claimed the
item. -/
def checkSourceAgent (itemId : Text) : Except Text Unit :=
  match hints.topLevelAgent, hints.claimedAgent, hints.targetedAgent with
  | some top, some claimed, _ =>
      if top ≠ claimed then
        .error ("advance_run_source_agent_mismatch: source invoke ".toList ++
          itemId ++ " source_agent_execution_id ".toList ++ top ++
          " does not match durable p058_claimed agent ".toList ++ claimed)
      else .ok ()
  | some top, none, some targeted =>
      if top ≠ targeted then
        .error ("advance_run_source_agent_mismatch: source invoke ".toList ++
          itemId ++ " source_agent_execution_id ".toList ++ top ++
          " does not match targeted_retry.source_agent_execution_id ".toList ++
          targeted)
      else .ok ()
  | _, _, _ => .ok ()

end InvokeHints

section Lookup

variable (db : Database)

/-- The stage of an execution. -/
def findAgentExecutionStageId (raw : Text) : Option Uuid :=
  match Uuid.parse raw with
  | none => none
  | some _ =>
      (db.agentExecutions.rows.find? fun row => row.id.text = raw).bind
        (·.stageExecutionId)

/-- The stage that an invocation ran in. -/
def sourceStageExecutionId (hints : InvokeHints) : Option Text :=
  hints.explicitTarget.or (hints.stageExecutionId.or
    ((hints.durableAgent.bind (findAgentExecutionStageId db)).map Uuid.text))

/-- The active authority for a target. -/
def findActiveRetryAuthorityByTarget (runId : Uuid) (target : Text) :
    Except Text (Option RetryStageExecutionAuthority) :=
  match db.retryAuthorities.rows.filter (fun row =>
      row.targetStageExecutionId.text = target ∧ row.runId = runId ∧
        row.authorityState = .active) with
  | [] => .ok none
  | [row] => .ok (some row)
  | _ => .error ("advance_run_authority_conflict: target stage ".toList ++ target ++
      " has duplicate active retry authorities".toList)

/-- The active authority with an identifier. -/
def findActiveRetryAuthorityById (runId : Uuid) (authorityId : Text) :
    Option RetryStageExecutionAuthority :=
  (db.retryAuthorities.find authorityId).filter fun row =>
    row.runId = runId ∧ row.authorityState = .active

/-- The authority of two hints that must not contradict each other. -/
def agreeOnAuthority (itemId : Text) :
    (byTarget byId : Option RetryStageExecutionAuthority) →
      Except Text (Option RetryStageExecutionAuthority)
  | some target, some source =>
      if target.id ≠ source.id then
        .error ("advance_run_source_authority_mismatch: source invoke ".toList ++
          itemId ++ " target resolves ".toList ++ target.id ++
          ", source resolves ".toList ++ source.id)
      else .ok (some target)
  | some row, none | none, some row => .ok (some row)
  | none, none => .ok none

/-- The active authority that the hints of a payload lead to. -/
def findActiveRetryAuthority
    (runId : Uuid) (itemId : Text) (sourceStage authorityId : Option Text) :
    Except Text (Option RetryStageExecutionAuthority) :=
  let byTarget := match sourceStage with
    | some target => findActiveRetryAuthorityByTarget db runId target
    | none => .ok none
  let byId := authorityId.bind (findActiveRetryAuthorityById db runId)
  byTarget >>= fun byTarget => agreeOnAuthority itemId byTarget byId

/-- Close an active authority. -/
def markTerminalized (id : Text) (now : Instant) (reason : Text) : Database :=
  { db with
    retryAuthorities := db.retryAuthorities.update
      (fun row => row.id = id ∧ row.authorityState = .active)
      (fun row => { row with
        authorityState := .terminalized
        terminalReason := some reason
        updatedAt := now }) }

/-- An authority that names another invocation is an error if the payload hints
at a retry, unless the payload shows that it descends from that invocation.
Without such a hint the authority is stale and is closed. -/
def checkSourceInvoke
    (now : Instant) (itemId : Text) (hints : InvokeHints) (sourceStage : Option Text)
    (active : RetryStageExecutionAuthority) :
    Except Text (Database × Option RetryStageExecutionAuthority) :=
  match active.sourceInvokeWorkItemId with
  | none => .ok (db, some active)
  | some sourceInvoke =>
      if sourceInvoke = itemId then .ok (db, some active)
      else if hints.hasTargetedHint then
        if hints.sourceWorkItemId ≠ some sourceInvoke ∧
            ¬(hints.retryAuthorityId = some active.id ∧
              sourceStage = some active.targetStageExecutionId.text ∧
                hints.claimedAgent.isSome) then
          .error ("advance_run_source_authority_mismatch: source invoke ".toList ++
            itemId ++ " does not match authority source invoke ".toList ++
            sourceInvoke)
        else .ok (db, some active)
      else
        .ok (markTerminalized db active.id now
          "stale_targeted_authority_superseded_by_normal_invoke".toList, none)

/-- The stage of the invocation must be the target of its authority. -/
def checkAuthorityTarget
    (itemId : Text) (sourceStage : Option Text)
    (active : Option RetryStageExecutionAuthority) : Except Text Unit :=
  match active, sourceStage with
  | some authority, some stage =>
      if authority.targetStageExecutionId.text ≠ stage then
        .error ("advance_run_source_target_mismatch: source invoke ".toList ++
          itemId ++ " stage ".toList ++ stage ++
          " does not match authority target ".toList ++
          authority.targetStageExecutionId.text)
      else .ok ()
  | _, _ => .ok ()

/-- The authority that a settled invocation belongs to. -/
def resolveAuthority
    (now : Instant) (runId : Uuid) (itemId : Text) (source : Option Json) :
    Except Text (Database × Option RetryStageExecutionAuthority) := do
  let hints := InvokeHints.ofPayload (source.getD (.object []))
  hints.checkSourceAgent itemId
  ensure (!(hints.hasTargetedHint && hints.durableAgent.isSome &&
      (hints.durableAgent.bind (findAgentExecutionStageId db)).isNone))
    ("advance_run_source_agent_mismatch: targeted InvokeAgent ".toList ++
      itemId ++ " source agent has no durable stage".toList)
  let sourceStage := sourceStageExecutionId db hints
  ensure (!(hints.hasTargetedHint && sourceStage.isNone))
    ("advance_run_source_target_mismatch: targeted InvokeAgent ".toList ++
      itemId ++ " has no durable source stage".toList)
  let found ← findActiveRetryAuthority db runId itemId sourceStage
    hints.retryAuthorityId
  -- An authority that was closed while the invocation was settling leaves the
  -- run to be re-evaluated as a whole.
  ensure (!(hints.hasTargetedHint && found.isNone && hints.retryAuthorityId.isNone))
    ("advance_run_source_authority_mismatch: targeted InvokeAgent ".toList ++
      itemId ++ " has no active retry authority".toList)
  match found with
  | none => return (db, none)
  | some authority =>
      let (settled, active) ←
        checkSourceInvoke db now itemId hints sourceStage authority
      checkAuthorityTarget itemId sourceStage active
      return (settled, active)

end Lookup

/-- The fields of every advance that follows an invocation. -/
def postInvokeFields (runId : Uuid) (outcome : InvokeOutcome) (itemId : Text) :
    List (String × Json) :=
  [("schema_version", .string supportedSchemaVersion),
    ("run_id", .string runId.text),
    ("reason", .string outcome.reason),
    ("enqueue_reason", .string outcome.enqueueReason.text),
    (outcome.terminalWorkItemField, .string itemId)]

/-- The fields of an advance for the target of an authority. -/
def targetFields (itemId : Text) (agent : Option Text)
    (authority : RetryStageExecutionAuthority) : List (String × Json) :=
  [("stage_id", .string authority.stageId),
    ("target_stage_execution_id", .string authority.targetStageExecutionId.text),
    ("retry_authority_id", .string authority.id),
    ("source_work_item_id", .string itemId),
    ("source_invoke_work_item_id", .string itemId),
    ("source_stage_execution_id", .string authority.targetStageExecutionId.text)] ++
  (agent.map fun id => ("source_agent_execution_id", Json.string id)).toList

/-- The payload for a run, or for the target of an authority. -/
def postInvokePayload
    (runId : Uuid) (outcome : InvokeOutcome) (itemId : Text) (agent : Option Text)
    (active : Option RetryStageExecutionAuthority) : Json :=
  Json.ofFields (postInvokeFields runId outcome itemId ++
    (active.map (targetFields itemId agent)).getD [])

/-- The payload of the advance, and the stage it is queued under. -/
def buildPostInvokeAdvancePayload
    (db : Database) (now : Instant) (runId : Uuid) (outcome : InvokeOutcome)
    (itemId : Text) (source : Option Json) :
    Except Text (Database × Json × Option Text) := do
  let (settled, active) ← resolveAuthority db now runId itemId source
  let agent := (InvokeHints.ofPayload (source.getD (.object []))).durableAgent
  return (settled, postInvokePayload runId outcome itemId agent active,
    active.map (·.stageId))

end ChainworksForge.Queue
