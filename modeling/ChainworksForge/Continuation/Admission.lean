import ChainworksForge.Support.Table
import ChainworksForge.Support.Text
import Mathlib.Data.List.Basic

/-!
# Continuations of agent work

A continuation asks an agent execution to go on with its work.  It is admitted in one
transaction that checks its idempotency key, the agent, the limits of automatic
continuations and the depth of the queue; workers claim it, a sweep fails it when nobody
came, and a cancelled run marks it.
-/

namespace ChainworksForge.Continuation

open ChainworksForge.Support

inductive ContinuationStatus where
  | accepted
  | queued
  | starting
  | running
  | preflightPassed
  | promptSent
  | observing
  | worktreeObserved
  | needsContinuationReconciliation
  | finalizing
  | cancelling
  | succeeded
  | noProgress
  | failed
  | cancelled
deriving DecidableEq

namespace ContinuationStatus

def isTerminal : ContinuationStatus → Bool
  | succeeded => true
  | noProgress => true
  | failed => true
  | cancelled => true
  | _ => false

def isPromptSentOrLater : ContinuationStatus → Bool
  | promptSent => true
  | observing => true
  | worktreeObserved => true
  | needsContinuationReconciliation => true
  | finalizing => true
  | _ => false

/-- No worker has begun, or one is about to. -/
def isAdmitted : ContinuationStatus → Bool
  | accepted => true
  | queued => true
  | starting => true
  | _ => false

/-- The status counts for the concurrency. -/
def isActiveExecution : ContinuationStatus → Bool
  | starting => true
  | running => true
  | preflightPassed => true
  | promptSent => true
  | observing => true
  | worktreeObserved => true
  | finalizing => true
  | _ => false

end ContinuationStatus

inductive Mode where
  | liveHandleContinuation
  | providerSessionResurrection
  | outputOnlyRecovery
deriving DecidableEq

inductive TriggerKind where
  | operatorMcp
  | leadAuto
deriving DecidableEq

structure ContinuationRecord where
  id : Text
  runId : Text
  stageExecutionId : Text
  agentExecutionId : Text
  mode : Mode
  triggerKind : TriggerKind
  status : ContinuationStatus
  failureReason : Option Text
  idempotencyScope : Text
  idempotencyKey : Text
  requestFingerprintSha256 : Text
  conflictCount : ℕ
  createdAt : Text
  updatedAt : Text
deriving DecidableEq

/-- What an admission asks for. -/
structure ContinuationAdmission where
  continuationId : Text
  runId : Text
  stageExecutionId : Text
  agentExecutionId : Text
  mode : Mode
  triggerKind : TriggerKind
  idempotencyScope : Text
  idempotencyKey : Text
  requestFingerprintSha256 : Text
  createdAt : Text

abbrev Continuations := Table ContinuationRecord.id

def queueDepthMax : ℕ := 64

def concurrencyMax : ℕ := 16

/-! ## The unique indexes -/

/-- Two rows of one index entry: the same key of a run, or two resurrections of an agent,
both of them not terminal. -/
def ContinuationRecord.Clashes (row other : ContinuationRecord) : Prop :=
  row.status.isTerminal = false ∧ other.status.isTerminal = false ∧
    (row.runId = other.runId ∧ row.idempotencyKey = other.idempotencyKey ∨
      row.mode = .providerSessionResurrection ∧ other.mode = .providerSessionResurrection ∧
        row.agentExecutionId = other.agentExecutionId)

instance decidableClashes (row other : ContinuationRecord) : Decidable (row.Clashes other) :=
  inferInstanceAs (Decidable (_ ∧ _))

/-- The rows respect the unique indexes. -/
def RespectsIndexes (table : Continuations) : Prop :=
  table.rows.Pairwise fun row other => ¬row.Clashes other

instance decidableRespectsIndexes (table : Continuations) : Decidable (RespectsIndexes table) :=
  inferInstanceAs (Decidable (List.Pairwise _ _))

/-- A statement that the indexes refuse changes nothing. -/
def commit (table changed : Continuations) : Continuations :=
  if RespectsIndexes changed then changed else table

/-! ## Admission -/

inductive AtomicAdmissionOutcome where
  | accepted
  | replay (record : ContinuationRecord)
  | idempotencyConflict
  | alreadyRunning (record : ContinuationRecord)
  | leadAutoLimitExceeded (scope : Text) (currentCount maxCount : ℕ)
  | saturated (queueDepth concurrency : ℕ)
deriving DecidableEq

/-- The row of a condition that was created last. -/
def latestWhere (table : Continuations) (condition : ContinuationRecord → Bool) :
    Option ContinuationRecord :=
  (table.rows.filter condition).foldl
    (fun latest row =>
      match latest with
      | none => some row
      | some best => if best.createdAt < row.createdAt then some row else some best)
    none

/-- The idempotency key of a row, in its scope. -/
def ContinuationRecord.idempotency (row : ContinuationRecord) : Text × Text :=
  (row.idempotencyScope, row.idempotencyKey)

/-- The automatic continuations of an agent execution. -/
def leadAutoAgentCount (table : Continuations) (agentExecutionId : Text) : ℕ :=
  table.rows.countP fun row =>
    row.triggerKind = .leadAuto ∧ row.agentExecutionId = agentExecutionId

/-- The automatic continuations of a stage execution. -/
def leadAutoStageCount (table : Continuations) (stageExecutionId : Text) : ℕ :=
  table.rows.countP fun row =>
    row.triggerKind = .leadAuto ∧ row.stageExecutionId = stageExecutionId

/-- The rows that are not terminal. -/
def queueDepth (table : Continuations) : ℕ :=
  table.rows.countP fun row => !row.status.isTerminal

def concurrency (table : Continuations) : ℕ :=
  table.rows.countP fun row => row.status.isActiveExecution

def incrementConflictCount (table : Continuations) (id : Text) : Continuations :=
  table.update (fun row => row.id = id)
    (fun row => { row with conflictCount := row.conflictCount + 1 }) fun _ => rfl

namespace ContinuationAdmission

variable (admission : ContinuationAdmission)

/-- The row that is inserted. -/
def record : ContinuationRecord where
  id := admission.continuationId
  runId := admission.runId
  stageExecutionId := admission.stageExecutionId
  agentExecutionId := admission.agentExecutionId
  mode := admission.mode
  triggerKind := admission.triggerKind
  status := .accepted
  failureReason := none
  idempotencyScope := admission.idempotencyScope
  idempotencyKey := admission.idempotencyKey
  requestFingerprintSha256 := admission.requestFingerprintSha256
  conflictCount := 0
  createdAt := admission.createdAt
  updatedAt := admission.createdAt

/-- The limit of automatic continuations that the admission would break. -/
def leadAutoRefusal (table : Continuations) : Option AtomicAdmissionOutcome :=
  if admission.triggerKind = .leadAuto then
    if 1 ≤ leadAutoAgentCount table admission.agentExecutionId then
      some (.leadAutoLimitExceeded "agent_execution".toList
        (leadAutoAgentCount table admission.agentExecutionId) 1)
    else if 2 ≤ leadAutoStageCount table admission.stageExecutionId then
      some (.leadAutoLimitExceeded "stage_execution".toList
        (leadAutoStageCount table admission.stageExecutionId) 2)
    else none
  else none

/-- Insert the row; a taken id or an index refuses it with an error. -/
def insert (table : Continuations) : Continuations × Option AtomicAdmissionOutcome :=
  match table.insert admission.record with
  | none => (table, none)
  | some inserted =>
      if RespectsIndexes inserted then (inserted, some .accepted) else (table, none)

end ContinuationAdmission

/-- Admit a continuation in one transaction; no outcome is an error of the database. -/
def admitContinuationAtomic (table : Continuations) (admission : ContinuationAdmission) :
    Continuations × Option AtomicAdmissionOutcome :=
  match latestWhere table fun row =>
      row.idempotency = (admission.idempotencyScope, admission.idempotencyKey) with
  | some existing =>
      if existing.requestFingerprintSha256 = admission.requestFingerprintSha256 then
        (table, some (.replay existing))
      else (incrementConflictCount table existing.id, some .idempotencyConflict)
  | none =>
      match latestWhere table fun row =>
          row.agentExecutionId = admission.agentExecutionId ∧
            row.status.isTerminal = false with
      | some active => (table, some (.alreadyRunning active))
      | none =>
          match admission.leadAutoRefusal table with
          | some refusal => (table, some refusal)
          | none =>
              if queueDepthMax ≤ queueDepth table ∨ concurrencyMax ≤ concurrency table then
                (table, some (.saturated (queueDepth table) (concurrency table)))
              else admission.insert table

/-! ## Status changes -/

/-- Write a status into the rows of a condition. -/
def writeStatus (table : Continuations) (condition : ContinuationRecord → Bool)
    (status : ContinuationStatus) (failureReason : Option Text) (now : Text) : Continuations :=
  commit table (table.update condition
    (fun row => { row with status, failureReason, updatedAt := now }) fun _ => rfl)

def updateContinuationStatus (table : Continuations) (id : Text) (newStatus : ContinuationStatus)
    (failureReason : Option Text) (now : Text) : Continuations :=
  writeStatus table (fun row => row.id = id) newStatus failureReason now

def updateContinuationStatusUnlessCancelling (table : Continuations) (id : Text)
    (newStatus : ContinuationStatus) (failureReason : Option Text) (now : Text) :
    Continuations :=
  writeStatus table (fun row => row.id = id ∧ row.status ≠ .cancelling) newStatus failureReason
    now

/-- Fail what was admitted before the cutoff and not begun. -/
def sweepAdmissionTimeouts (table : Continuations) (cutoff now : Text) : Continuations :=
  writeStatus table (fun row => row.status.isAdmitted ∧ row.createdAt < cutoff) .failed
    (some "admission_timeout".toList) now

/-- Mark what a cancelled run has running. -/
def markActiveForRunCancelling (table : Continuations) (runId now : Text) : Continuations :=
  writeStatus table (fun row => row.runId = runId ∧ row.status.isTerminal = false) .cancelling
    (some "run_cancel_requested".toList) now

inductive ContinuationClaimOutcome where
  | claimed
  | missing
  | terminal
  | promptAlreadySent
  | alreadyActive
deriving DecidableEq

/-- A worker claims a row before it talks to the provider. -/
def claimForContinuationWorker (table : Continuations) (id now : Text) :
    Continuations × ContinuationClaimOutcome :=
  match table.find id with
  | none => (table, .missing)
  | some record =>
      if record.status.isTerminal then (table, .terminal)
      else if record.status.isPromptSentOrLater then (table, .promptAlreadySent)
      else if record.status.isAdmitted then
        (table.update (fun row => row.id = id ∧ row.status.isAdmitted)
          (fun row => { row with status := .starting, updatedAt := now }) fun _ => rfl,
         .claimed)
      else (table, .alreadyActive)

/-! ## Runs -/

inductive Event where
  | insert (admission : ContinuationAdmission)
  | claim (id now : Text)
  | update (id : Text) (newStatus : ContinuationStatus) (failureReason : Option Text)
      (now : Text)
  | updateUnlessCancelling (id : Text) (newStatus : ContinuationStatus)
      (failureReason : Option Text) (now : Text)
  | sweep (cutoff now : Text)
  | cancelRun (runId now : Text)

def perform (table : Continuations) : Event → Continuations
  | .insert admission => (admitContinuationAtomic table admission).1
  | .claim id now => (claimForContinuationWorker table id now).1
  | .update id newStatus failureReason now =>
      updateContinuationStatus table id newStatus failureReason now
  | .updateUnlessCancelling id newStatus failureReason now =>
      updateContinuationStatusUnlessCancelling table id newStatus failureReason now
  | .sweep cutoff now => sweepAdmissionTimeouts table cutoff now
  | .cancelRun runId now => markActiveForRunCancelling table runId now

end ChainworksForge.Continuation
