import ChainworksForge.Shutdown.Receipts
import ChainworksForge.Support.Runs
import Mathlib.Data.List.Perm.Basic
import Mathlib.Logic.Function.Basic

/-!
# Dispatchers of shutdown signals

A dispatcher takes a batch of planned signals and walks it: it asks whether a kill must
wait, probes the process, compares its identity, claims the row, sends the signal and
records what came of it.  Any number of dispatchers work on the same rows, each of their
questions and statements is one step, and a crash ends a dispatcher between two steps.
-/

namespace ChainworksForge.Shutdown

open ChainworksForge.Support

/-! ## Batches -/

structure PlannedSignalDetail where
  key : SignalKey
  processId : ℤ
  processStartIdentity : Text
deriving DecidableEq

/-- The fates of the processes of the sessions that have a row. -/
abbrev ProcessFates := Text → Option (Option Text)

def identityAmbiguous : Text := "identity_ambiguous".toList

/-- The session is not held for a manual check. -/
def ProcessFates.mayDispatch (fates : ProcessFates) (providerSessionId : Text) : Bool :=
  fates providerSessionId ≠ some (some identityAmbiguous)

def ShutdownSignalSideEffect.isUnissued (row : ShutdownSignalSideEffect) : Bool :=
  row.intentState = .planned ∧ row.issuedAtMonotonicMs = none

def ShutdownSignalSideEffect.detail (row : ShutdownSignalSideEffect) :
    PlannedSignalDetail where
  key := row.key
  processId := row.processId
  processStartIdentity := row.processStartIdentity

/-- The graceful signals of a session and an epoch. -/
def gracefulOf (signals : Signals) (providerSessionId : Text) (shutdownEpoch : ℤ) :
    List ShutdownSignalSideEffect :=
  signals.rows.filter fun row =>
    row.key.providerSessionId = providerSessionId ∧
      row.key.shutdownEpoch = shutdownEpoch ∧ row.key.signalKind = .graceful

/-- The planned signals of all sessions; a kill only where its graceful signal was observed
or never planned. -/
def loadPlannedForDispatch (signals : Signals) (fates : ProcessFates) :
    List PlannedSignalDetail :=
  (signals.rows.filter fun row =>
    let graceful := gracefulOf signals row.key.providerSessionId row.key.shutdownEpoch
    row.isUnissued && fates.mayDispatch row.key.providerSessionId &&
      (row.key.signalKind ≠ .kill ∨
        (graceful.any fun row => row.intentState = .observed) ∨ graceful = []) &&
      !row.processStartIdentity.isEmpty).map ShutdownSignalSideEffect.detail

/-- The planned signals of one session and epoch. -/
def loadPlannedForDispatchScoped (signals : Signals) (fates : ProcessFates)
    (providerSessionId : Text) (shutdownEpoch : ℤ) : List PlannedSignalDetail :=
  (signals.rows.filter fun row =>
    row.isUnissued && row.key.providerSessionId = providerSessionId &&
      row.key.shutdownEpoch = shutdownEpoch &&
      fates.mayDispatch row.key.providerSessionId &&
      !row.processStartIdentity.isEmpty && 0 < row.processId).map
        ShutdownSignalSideEffect.detail

/-- The batch has the loaded signals by epoch and generation; the order of equals is the
database's. -/
def IsBatchOf (loaded batch : List PlannedSignalDetail) : Prop :=
  batch.Perm loaded ∧ batch.Pairwise fun a b =>
    a.key.shutdownEpoch < b.key.shutdownEpoch ∨
      a.key.shutdownEpoch = b.key.shutdownEpoch ∧ a.key.generation ≤ b.key.generation

instance decidableIsBatchOf (loaded batch : List PlannedSignalDetail) :
    Decidable (IsBatchOf loaded batch) :=
  inferInstanceAs (Decidable (_ ∧ _))

/-- Some graceful signal of the session and epoch is planned, claimed or issued. -/
def hasUnobservedGracefulSignal (signals : Signals) (providerSessionId : Text)
    (shutdownEpoch : ℤ) : Bool :=
  (gracefulOf signals providerSessionId shutdownEpoch).any fun row =>
    row.intentState.isUnobserved

/-! ## Dispatchers -/

inductive IdentityVerificationResult where
  | matched
  | mismatch
  | unverifiable
deriving DecidableEq

/-- The answers of the database, the operating system and the clock to one step. -/
structure World where
  dbOk : Bool
  alive : Bool
  identity : IdentityVerificationResult
  sendOk : Bool
  nowMs : ℤ

/-- Where a dispatcher stands with the first signal of its batch. -/
inductive Phase where
  | next
  | guarded
  | alive
  | ambiguous
  | verified
  | claimed
  | sent
  | failed
  | issued
deriving DecidableEq

structure Dispatcher where
  batch : List PlannedSignalDetail
  phase : Phase := .next
  gracefulJustIssued : List (Text × ℤ) := []
  dispatched : ℕ := 0
deriving DecidableEq

/-- Go on with the next signal. -/
def Dispatcher.advance (d : Dispatcher) : Dispatcher :=
  { d with batch := d.batch.tail, phase := .next }

/-- What a dispatcher does to a process: it finds the identity to match, or it sends the
signal. -/
inductive Act where
  | verified (i : ℕ) (signal : PlannedSignalDetail)
  | sent (i : ℕ) (signal : PlannedSignalDetail)
deriving DecidableEq

/-- The rows, the dispatchers that were started so far and what they did. -/
structure System where
  signals : Signals
  fates : ProcessFates
  started : ℕ
  dispatchers : ℕ → Option Dispatcher
  acts : List Act

namespace System

/-- No row, no session and no dispatcher. -/
def start : System where
  signals := Table.empty
  fates := fun _ => none
  started := 0
  dispatchers := fun _ => none
  acts := []

variable (sys : System) (i : ℕ) (d : Dispatcher) (signal : PlannedSignalDetail)
  (world : World)

def setDispatcher (d : Option Dispatcher) : System :=
  { sys with dispatchers := Function.update sys.dispatchers i d }

@[simp]
theorem setDispatcher_dispatchers_self (d : Option Dispatcher) :
    (sys.setDispatcher i d).dispatchers i = d := by
  simp [setDispatcher]

@[simp]
theorem setDispatcher_dispatchers_of_ne (d : Option Dispatcher) {j : ℕ} (hne : j ≠ i) :
    (sys.setDispatcher i d).dispatchers j = sys.dispatchers j := by
  simp [setDispatcher, hne]

/-- A statement that may fail; a failure is logged and changes nothing. -/
def write (statement : Signals → Signals × Bool) : System :=
  if world.dbOk then { sys with signals := (statement sys.signals).1 } else sys

/-! ## One step of a dispatcher -/

/-- A kill waits for the graceful signal; a guard that cannot ask makes it wait. -/
def stepNext : System :=
  let pair := (signal.key.providerSessionId, signal.key.shutdownEpoch)
  if signal.key.signalKind = .kill ∧
      (pair ∈ d.gracefulJustIssued ∨ world.dbOk = false ∨
        hasUnobservedGracefulSignal sys.signals pair.1 pair.2) then
    sys.setDispatcher i (some d.advance)
  else sys.setDispatcher i (some { d with phase := .guarded })

/-- Is there a process to signal? -/
def stepGuarded : System :=
  if signal.processId ≤ 0 then
    (sys.write world fun signals => markSignalIdentityMismatch signals signal.key
      (some "invalid_pid_not_positive".toList)).setDispatcher i (some d.advance)
  else if !world.alive then
    (sys.write world fun signals => markSignalIdentityMismatch signals signal.key
      (some "process_absent_on_recovery".toList)).setDispatcher i (some d.advance)
  else sys.setDispatcher i (some { d with phase := .alive })

/-- Is it the process that was meant? -/
def stepAlive : System :=
  match world.identity with
  | .matched =>
      { sys with acts := sys.acts ++ [Act.verified i signal] }.setDispatcher i
        (some { d with phase := .verified })
  | .mismatch =>
      (sys.write world fun signals => markSignalIdentityMismatch signals signal.key
        (some "identity_mismatch_on_recovery".toList)).setDispatcher i
          (some { d with phase := .ambiguous })
  | .unverifiable =>
      (sys.write world fun signals => markSignalIdentityMismatch signals signal.key
        (some "identity_unverifiable_on_recovery".toList)).setDispatcher i
          (some { d with phase := .ambiguous })

/-- Hold the session for a manual check. -/
def stepAmbiguous : System :=
  let held : ProcessFates :=
    if world.dbOk ∧ (sys.fates signal.key.providerSessionId).isSome then
      Function.update sys.fates signal.key.providerSessionId
        (some (some identityAmbiguous))
    else sys.fates
  { sys with fates := held }.setDispatcher i (some d.advance)

/-- Claim the row; who does not get it leaves the signal alone. -/
def stepVerified : System :=
  if world.dbOk ∧ (markSignalDispatching sys.signals signal.key).2 then
    { sys with signals := (markSignalDispatching sys.signals signal.key).1 }.setDispatcher i
      (some { d with phase := .claimed })
  else sys.setDispatcher i (some d.advance)

/-- Send the signal. -/
def stepClaimed : System :=
  if world.sendOk then
    { sys with acts := sys.acts ++ [Act.sent i signal] }.setDispatcher i
      (some { d with phase := .sent })
  else sys.setDispatcher i (some { d with phase := .failed })

/-- Record that the signal was sent. -/
def stepSent : System :=
  if world.dbOk then
    { sys with
      signals := (markSignalIssued sys.signals signal.key world.nowMs).1 }.setDispatcher i
        (some { d with phase := .issued, dispatched := d.dispatched + 1 })
  else sys.setDispatcher i (some d.advance)

/-- Record that the signal was not sent. -/
def stepFailed : System :=
  (sys.write world fun signals => markSignalIdentityMismatch signals signal.key
    (some "signal_send_failed".toList)).setDispatcher i (some d.advance)

/-- Is the process gone? -/
def stepIssued : System :=
  if !world.alive then
    (sys.write world fun signals =>
      markSignalObserved signals signal.key world.nowMs).setDispatcher i (some d.advance)
  else if signal.key.signalKind = .graceful then
    let pair := (signal.key.providerSessionId, signal.key.shutdownEpoch)
    sys.setDispatcher i
      (some { d.advance with gracefulJustIssued := pair :: d.gracefulJustIssued })
  else sys.setDispatcher i (some d.advance)

/-- The next step of a dispatcher with its first signal. -/
def stepSignal : System :=
  match d.phase with
  | .next => sys.stepNext i d signal world
  | .guarded => sys.stepGuarded i d signal world
  | .alive => sys.stepAlive i d signal world
  | .ambiguous => sys.stepAmbiguous i d signal world
  | .verified => sys.stepVerified i d signal world
  | .claimed => sys.stepClaimed i d signal world
  | .sent => sys.stepSent i d signal world
  | .failed => sys.stepFailed i d signal world
  | .issued => sys.stepIssued i d signal world

/-- A dispatcher whose batch is empty is done. -/
def dispatchStep : System :=
  match sys.dispatchers i with
  | none => sys
  | some d =>
      match d.batch with
      | [] => sys
      | signal :: _ => sys.stepSignal i d signal world

/-- Start a new dispatcher with a batch of what it loaded. -/
def startDispatcher (loaded batch : List PlannedSignalDetail) : System :=
  if IsBatchOf loaded batch then
    { sys with started := sys.started + 1 }.setDispatcher sys.started (some { batch })
  else sys

/-- Plan the graceful signal and the kill of a session.  A statement that fails ends the
command, and what it wrote before is committed. -/
def planShutdown (providerSessionId : Text) (cancellationEpoch processId : ℤ)
    (processStartIdentity : Text) (baselineSampleId : Option Text)
    (gracefulOk killOk : Bool) : System :=
  if 0 < processId ∧ processStartIdentity ≠ [] ∧ gracefulOk then
    let graceful := insertSignalPlanned sys.signals
      ⟨providerSessionId, cancellationEpoch, .graceful, 1⟩ processId processStartIdentity
      baselineSampleId
    if killOk then
      { sys with
        signals := insertSignalPlanned graceful
          ⟨providerSessionId, cancellationEpoch, .kill, 1⟩ processId processStartIdentity
          baselineSampleId }
    else { sys with signals := graceful }
  else sys

end System

/-! ## Runs -/

inductive Event where
  | planShutdown (providerSessionId : Text) (cancellationEpoch processId : ℤ)
      (processStartIdentity : Text) (baselineSampleId : Option Text)
      (gracefulOk killOk : Bool)
  | suppress (key : SignalKey) (errorCode : Option Text)
  | setProcessFate (providerSessionId : Text) (fate : Option Text)
  | startRecovery (batch : List PlannedSignalDetail)
  | startScoped (providerSessionId : Text) (shutdownEpoch : ℤ)
      (batch : List PlannedSignalDetail)
  | step (i : ℕ) (world : World)
  | crash (i : ℕ)

def perform (sys : System) : Event → System
  | .planShutdown providerSessionId cancellationEpoch processId identity baseline
      gracefulOk killOk =>
      sys.planShutdown providerSessionId cancellationEpoch processId identity baseline
        gracefulOk killOk
  | .suppress key errorCode =>
      { sys with signals := (markSignalSuppressed sys.signals key errorCode).1 }
  | .setProcessFate providerSessionId fate =>
      { sys with fates := Function.update sys.fates providerSessionId (some fate) }
  | .startRecovery batch =>
      sys.startDispatcher (loadPlannedForDispatch sys.signals sys.fates) batch
  | .startScoped providerSessionId shutdownEpoch batch =>
      sys.startDispatcher (loadPlannedForDispatchScoped sys.signals sys.fates
        providerSessionId shutdownEpoch) batch
  | .step i world => sys.dispatchStep i world
  | .crash i => sys.setDispatcher i none

/-! ## A session with both signals -/

/-- The pair of the session and its only epoch. -/
def onePair : Text × ℤ := (['s'], 1)

def planOne : Event := .planShutdown onePair.1 onePair.2 42 ['i'] none true true

def oneGraceful : PlannedSignalDetail := ⟨⟨['s'], 1, .graceful, 1⟩, 42, ['i']⟩

def oneKill : PlannedSignalDetail := ⟨⟨['s'], 1, .kill, 1⟩, 42, ['i']⟩

/-- The row of the graceful signal before it is issued. -/
def oneRow (state : IntentState) : ShutdownSignalSideEffect :=
  ⟨oneGraceful.key, 42, ['i'], state, none, none, none, none⟩

/-- Everything answers as it should, and the process stays. -/
def goodWorld : World := ⟨true, true, .matched, true, 5⟩

/-- The session is planned and a dispatcher claims its graceful signal. -/
def claimOne : List Event :=
  [planOne, .startScoped onePair.1 onePair.2 [oneGraceful, oneKill], .step 0 goodWorld,
    .step 0 goodWorld, .step 0 goodWorld, .step 0 goodWorld]

end ChainworksForge.Shutdown
