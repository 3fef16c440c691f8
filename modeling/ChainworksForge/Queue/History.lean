import ChainworksForge.Queue.Claim
import ChainworksForge.Queue.StaleStartup

/-!
# Histories of the queue

An action is one transaction on the queue: a claim, a settlement or a requeue.
An action that ends in an error changes nothing.
-/

namespace ChainworksForge.Queue

open ChainworksForge.Support

/-- One transaction on the queue. -/
inductive QueueAction where
  | claim (itemId : Text) (start : ClaimStart)
  | complete (itemId : Text) (expected : Option Uuid) (now : Instant)
  | fail (itemId error : Text) (expected : Option Uuid) (now : Instant)
  | transientRequeue (itemId : Text) (later : ℕ → Instant) (error : Text)
      (expected : Option Uuid)
  | activePromptClose (itemId : Text) (key : ArtifactSourceGenerationClaimKey)
      (failedGeneration : Option Text) (scheduledAt : Instant) (reason : Text)
  | providerCapacityWait (itemId : Text) (key : ArtifactSourceGenerationClaimKey)
      (scheduledAt : Instant) (reason : Text)
  | stageRequeue (runId : Uuid) (stageExecutionId stageId : Text) (now : Instant)
  | reconcile (itemId : Text) (runId : Uuid) (stageId : Text)
      (scheduledAt : Instant) (reason staleClass : Text)
  | hostInterruption (runId : Uuid) (stageId : Text) (stageExecutionId : Uuid)
      (scheduledAt : Instant) (interrupted : Option InterruptedExecution)
  | startupRequeue (scheduledAt : Instant) (reason : Text)
  | stalePreSession (scheduledAt : Instant) (cutoffs : StaleCutoffs) (reason : Text)
  | staleStarting (scheduledAt : Instant) (cutoffs : StaleCutoffs) (reason : Text)

/-- The tables after a transaction; an error rolls it back. -/
def committed (db : Database) : Except Text Database → Database
  | .ok changed => changed
  | .error _ => db

/-- The tables after an action. -/
def perform (db : Database) : QueueAction → Database
  | .claim itemId start =>
      committed db ((claimInvokeAgentWorkItemWithStart db itemId start).map (·.1))
  | .complete itemId expected now =>
      committed db (completeAttemptWithCapacity db itemId expected now)
  | .fail itemId error expected now =>
      committed db (failAttemptWithCapacity db itemId error expected now)
  | .transientRequeue itemId later error expected =>
      (requeueAttemptAfterTransientPersistenceContention db itemId later error
        expected).1
  | .activePromptClose itemId key generation scheduledAt reason =>
      committed db ((requeueRunningInvokeAgentAfterActivePromptClose db itemId key
        generation scheduledAt reason).map (·.1))
  | .providerCapacityWait itemId key scheduledAt reason =>
      committed db ((requeueRunningInvokeAgentAfterProviderCapacityWait db itemId key
        scheduledAt reason).map (·.1))
  | .stageRequeue runId stageExecutionId stageId now =>
      requeueRunningPreclaimedInvokeForStage db runId stageExecutionId stageId now
  | .reconcile itemId runId stageId scheduledAt reason staleClass =>
      (p080RequeueRunningInvokeAgentById db itemId runId stageId scheduledAt reason
        staleClass).1
  | .hostInterruption runId stageId stageExecutionId scheduledAt interrupted =>
      requeueHostInterruptedInvoke db runId stageId stageExecutionId scheduledAt
        interrupted
  | .startupRequeue scheduledAt reason =>
      committed db (requeueRunningInvokeAgentOnStartup db scheduledAt reason)
  | .stalePreSession scheduledAt cutoffs reason =>
      committed db (requeueStalePreSessionInvokeAgents db scheduledAt cutoffs reason)
  | .staleStarting scheduledAt cutoffs reason =>
      committed db
        (requeueStaleStartingInvokeAgentSessions db scheduledAt cutoffs reason)

/-- The tables after a sequence of actions. -/
def performAll (db : Database) (actions : List QueueAction) : Database :=
  actions.foldl perform db

theorem committed_preserves {P : Database → Prop} {db : Database}
    {result : Except Text Database} (hdb : P db)
    (hresult : ∀ changed, result = .ok changed → P changed) :
    P (committed db result) := by
  cases result with
  | error _ => exact hdb
  | ok changed => exact hresult changed rfl

end ChainworksForge.Queue
