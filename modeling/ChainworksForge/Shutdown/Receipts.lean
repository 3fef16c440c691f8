import ChainworksForge.Support.Json
import ChainworksForge.Support.Table

/-!
# The planned shutdown signals

A signal to the process of a provider session is a row before it is sent.  Every change of
a row is one statement that names the states it may start from, so that of two dispatchers
one claims a planned row and the other changes nothing.
-/

namespace ChainworksForge.Shutdown

open ChainworksForge.Support

inductive SignalKind where
  | graceful
  | kill
deriving DecidableEq

inductive IntentState where
  | planned
  | dispatching
  | issued
  | observed
  | suppressed
  | identityMismatch
deriving DecidableEq

namespace IntentState

/-- A graceful signal in such a state holds the kill signal back. -/
def isUnobserved : IntentState → Bool
  | planned => true
  | dispatching => true
  | issued => true
  | _ => false

end IntentState

/-- A session, an epoch, a kind and a generation have at most one row. -/
structure SignalKey where
  providerSessionId : Text
  shutdownEpoch : ℤ
  signalKind : SignalKind
  generation : ℤ
deriving DecidableEq

structure ShutdownSignalSideEffect where
  key : SignalKey
  processId : ℤ
  processStartIdentity : Text
  intentState : IntentState
  issuedAtMonotonicMs : Option ℤ
  observedExitAtMonotonicMs : Option ℤ
  baselineSampleId : Option Text
  errorCode : Option Text
deriving DecidableEq

abbrev Signals := Table ShutdownSignalSideEffect.key

/-! ## The statements -/

/-- Plan a signal; a row that is there stays. -/
def insertSignalPlanned (signals : Signals) (key : SignalKey) (processId : ℤ)
    (processStartIdentity : Text) (baselineSampleId : Option Text) : Signals :=
  signals.insertOrIgnore
    { key
      processId
      processStartIdentity
      intentState := .planned
      issuedAtMonotonicMs := none
      observedExitAtMonotonicMs := none
      baselineSampleId
      errorCode := none }

/-- What a statement writes into a row beside the state. -/
structure Written where
  issuedAtMonotonicMs : Option ℤ := none
  observedExitAtMonotonicMs : Option ℤ := none
  errorCode : Option (Option Text) := none

/-- The row with a new state. -/
def ShutdownSignalSideEffect.moveTo (row : ShutdownSignalSideEffect)
    (state : IntentState) (written : Written) : ShutdownSignalSideEffect :=
  { row with
    intentState := state
    issuedAtMonotonicMs := written.issuedAtMonotonicMs.or row.issuedAtMonotonicMs
    observedExitAtMonotonicMs :=
      written.observedExitAtMonotonicMs.or row.observedExitAtMonotonicMs
    errorCode := written.errorCode.getD row.errorCode }

theorem ShutdownSignalSideEffect.moveTo_key (row : ShutdownSignalSideEffect)
    (state : IntentState) (written : Written) : (row.moveTo state written).key = row.key :=
  rfl

/-- Move the row of a key from one of the allowed states; say whether a row moved. -/
def moveSignal (signals : Signals) (key : SignalKey) (allowed : List IntentState)
    (state : IntentState) (written : Written) : Signals × Bool :=
  (signals.update (fun row => row.key = key ∧ row.intentState ∈ allowed)
    (fun row => row.moveTo state written) (fun row => row.moveTo_key state written),
   signals.rows.any fun row => row.key = key ∧ row.intentState ∈ allowed)

/-- Claim a planned signal. -/
def markSignalDispatching (signals : Signals) (key : SignalKey) : Signals × Bool :=
  moveSignal signals key [.planned] .dispatching {}

def markSignalIssued (signals : Signals) (key : SignalKey) (issuedAtMonotonicMs : ℤ) :
    Signals × Bool :=
  moveSignal signals key [.dispatching] .issued
    { issuedAtMonotonicMs := some issuedAtMonotonicMs }

def markSignalObserved (signals : Signals) (key : SignalKey)
    (observedExitAtMonotonicMs : ℤ) : Signals × Bool :=
  moveSignal signals key [.issued] .observed
    { observedExitAtMonotonicMs := some observedExitAtMonotonicMs }

def markSignalSuppressed (signals : Signals) (key : SignalKey) (errorCode : Option Text) :
    Signals × Bool :=
  moveSignal signals key [.planned, .issued] .suppressed { errorCode := some errorCode }

def markSignalIdentityMismatch (signals : Signals) (key : SignalKey)
    (errorCode : Option Text) : Signals × Bool :=
  moveSignal signals key [.planned, .issued] .identityMismatch
    { errorCode := some errorCode }

/-! ## What a statement does to a row -/

section Statements

variable {signals : Signals} {key k : SignalKey} {allowed : List IntentState}
  {state : IntentState} {written : Written} {row : ShutdownSignalSideEffect}

/-- The row of a key after a statement. -/
theorem find_moveSignal :
    (moveSignal signals key allowed state written).1.find k =
      (signals.find k).map fun row =>
        if row.key = key ∧ row.intentState ∈ allowed then row.moveTo state written
        else row := by
  have hfind := @Table.find_update _ _ _ _ signals
    (fun row => decide (row.key = key ∧ row.intentState ∈ allowed))
    (fun row => row.moveTo state written) (fun row => row.moveTo_key state written) k
  simp only [decide_eq_true_eq] at hfind
  exact hfind

/-- A statement leaves the rows of the other keys. -/
theorem find_moveSignal_of_ne (hne : k ≠ key) :
    (moveSignal signals key allowed state written).1.find k = signals.find k := by
  have hcondition : ∀ row : ShutdownSignalSideEffect,
      decide (row.key = key ∧ row.intentState ∈ allowed) = true → row.key = key :=
    fun row hrow => (of_decide_eq_true hrow).1
  exact signals.find_update_of_ne hcondition hne
    fun row => row.moveTo_key state written

/-- The statement says that a row moved exactly when the row was in an allowed state. -/
theorem moveSignal_snd_iff :
    (moveSignal signals key allowed state written).2 = true ↔
      ∃ row, signals.find key = some row ∧ row.intentState ∈ allowed := by
  rw [moveSignal, List.any_eq_true]
  constructor
  · rintro ⟨row, hrow, hmoves⟩
    obtain ⟨rfl, hallowed⟩ := of_decide_eq_true hmoves
    exact ⟨row, signals.find_of_mem hrow, hallowed⟩
  · rintro ⟨row, hfind, hallowed⟩
    obtain ⟨hrow, hkey⟩ := signals.find_eq_some_iff.1 hfind
    exact ⟨row, hrow, decide_eq_true ⟨hkey, hallowed⟩⟩

theorem find_moveSignal_self (hfind : signals.find key = some row)
    (hallowed : row.intentState ∈ allowed) :
    (moveSignal signals key allowed state written).1.find key =
      some (row.moveTo state written) := by
  have hkey := (signals.find_eq_some_iff.1 hfind).2
  rw [find_moveSignal, hfind, Option.map_some, if_pos ⟨hkey, hallowed⟩]

theorem find_moveSignal_refused (hfind : signals.find k = some row)
    (hrefused : row.intentState ∉ allowed) :
    (moveSignal signals key allowed state written).1.find k = some row := by
  rw [find_moveSignal, hfind, Option.map_some, if_neg fun h => hrefused h.2]

/-- Planning a signal leaves the rows that are there. -/
theorem find_insertSignalPlanned_of_some {processId : ℤ} {identity : Text}
    {baseline : Option Text} (hfind : signals.find k = some row) :
    (insertSignalPlanned signals key processId identity baseline).find k = some row :=
  signals.find_insertOrIgnore_of_some hfind

/-- A row that is there after planning was there or is the planned one. -/
theorem find_insertSignalPlanned_eq_some {processId : ℤ} {identity : Text}
    {baseline : Option Text}
    (hfind : (insertSignalPlanned signals key processId identity baseline).find k =
      some row) :
    signals.find k = some row ∨
      key = k ∧ row =
        { key
          processId
          processStartIdentity := identity
          intentState := .planned
          issuedAtMonotonicMs := none
          observedExitAtMonotonicMs := none
          baselineSampleId := baseline
          errorCode := none } := by
  rw [insertSignalPlanned, Table.find_insertOrIgnore] at hfind
  cases hbefore : signals.find k with
  | some old =>
      rw [hbefore, Option.some_or] at hfind
      exact .inl hfind
  | none =>
      rw [hbefore, Option.none_or] at hfind
      split_ifs at hfind with hkey
      exact .inr ⟨hkey, (Option.some.inj hfind).symm⟩

end Statements

/-! ## Rows that were not claimed and rows that were -/

/-- The key has no row, or a planned one. -/
def IsUnclaimed (signals : Signals) (key : SignalKey) : Prop :=
  ∀ row, signals.find key = some row → row.intentState = .planned

/-- The row of the key is claimed, and nothing has been recorded since. -/
def IsDispatching (signals : Signals) (key : SignalKey) : Prop :=
  ∃ row, signals.find key = some row ∧ row.intentState = .dispatching

section Claims

variable {signals : Signals} {key k : SignalKey}

theorem IsDispatching.not_unclaimed (hdispatching : IsDispatching signals k) :
    ¬IsUnclaimed signals k := by
  obtain ⟨row, hfind, hstate⟩ := hdispatching
  intro hunclaimed
  exact absurd (hstate.symm.trans (hunclaimed row hfind)) (by decide)

/-- No statement takes a claim back. -/
theorem isUnclaimed_of_moveSignal {allowed : List IntentState} {state : IntentState}
    {written : Written} (hstate : state ≠ .planned)
    (hunclaimed : IsUnclaimed (moveSignal signals key allowed state written).1 k) :
    IsUnclaimed signals k := by
  intro row hfind
  by_cases hmoves : row.key = key ∧ row.intentState ∈ allowed
  · have hplanned := hunclaimed (row.moveTo state written)
      (by rw [find_moveSignal, hfind, Option.map_some, if_pos hmoves])
    exact absurd hplanned hstate
  · exact hunclaimed row (by rw [find_moveSignal, hfind, Option.map_some, if_neg hmoves])

theorem IsDispatching.moveSignal {allowed : List IntentState} {state : IntentState}
    {written : Written} (hdispatching : IsDispatching signals k)
    (hrefused : IntentState.dispatching ∉ allowed) :
    IsDispatching (moveSignal signals key allowed state written).1 k := by
  obtain ⟨row, hfind, hstate⟩ := hdispatching
  exact ⟨row, find_moveSignal_refused hfind (hstate ▸ hrefused), hstate⟩

theorem IsDispatching.moveSignal_of_ne {allowed : List IntentState} {state : IntentState}
    {written : Written} (hdispatching : IsDispatching signals k) (hne : k ≠ key) :
    IsDispatching (Shutdown.moveSignal signals key allowed state written).1 k := by
  obtain ⟨row, hfind, hstate⟩ := hdispatching
  exact ⟨row, (find_moveSignal_of_ne hne).trans hfind, hstate⟩

theorem isUnclaimed_of_insertSignalPlanned {processId : ℤ} {identity : Text}
    {baseline : Option Text}
    (hunclaimed : IsUnclaimed
      (insertSignalPlanned signals key processId identity baseline) k) :
    IsUnclaimed signals k :=
  fun row hfind => hunclaimed row (find_insertSignalPlanned_of_some hfind)

theorem IsDispatching.insertSignalPlanned {processId : ℤ} {identity : Text}
    {baseline : Option Text} (hdispatching : IsDispatching signals k) :
    IsDispatching (insertSignalPlanned signals key processId identity baseline) k := by
  obtain ⟨row, hfind, hstate⟩ := hdispatching
  exact ⟨row, find_insertSignalPlanned_of_some hfind, hstate⟩

/-- The claim goes through exactly on a planned row. -/
theorem markSignalDispatching_snd_iff :
    (markSignalDispatching signals key).2 = true ↔
      ∃ row, signals.find key = some row ∧ row.intentState = .planned := by
  rw [markSignalDispatching, moveSignal_snd_iff]
  simp only [List.mem_singleton]

/-- A row that was claimed is dispatching. -/
theorem isDispatching_markSignalDispatching
    (hclaimed : (markSignalDispatching signals key).2 = true) :
    IsDispatching (markSignalDispatching signals key).1 key := by
  obtain ⟨row, hfind, hstate⟩ := markSignalDispatching_snd_iff.1 hclaimed
  exact ⟨_, find_moveSignal_self hfind (hstate ▸ List.mem_singleton_self _), rfl⟩

end Claims

end ChainworksForge.Shutdown
