import ChainworksForge.Support.Runs
import ChainworksForge.Support.Text
import Mathlib.Algebra.Group.Int.Defs
import Mathlib.Algebra.Group.Nat.Defs
import Mathlib.Data.Int.Notation
import Mathlib.Logic.Function.Basic

/-!
# The projection invalidation log

A projection is stale from the moment a row of its source changes to the moment it is
rebuilt.  What is stale stands in a log, one row for a key of a projection and its source;
the rows that wait are bounded in number and size, and a pair of projection and source
whose rows would not fit has its cursor poisoned instead.
-/

namespace ChainworksForge.Projection

open ChainworksForge.Support

/-- A projection and the source it is built from. -/
structure Pair where
  projectionName : Text
  sourceName : Text
deriving DecidableEq

structure Invalidation where
  pair : Pair
  primaryKey : Text
  invalidationKind : Text
  payloadJson : Option Text
  sizeBytes : ℕ
  createdAtMs : ℤ
  isConsumed : Bool
  consumedAtMs : Option ℤ
deriving DecidableEq

structure ProjectionCursor where
  watermarkMs : ℤ
  isPoisoned : Bool
  lastError : Option Text
  updatedAtMs : ℤ
  throttledUntilMs : Option ℤ
  firstHealthyAtMs : Option ℤ
deriving DecidableEq

structure Store where
  log : List Invalidation
  cursors : Pair → Option ProjectionCursor

def Store.empty : Store where
  log := []
  cursors := fun _ => none

def maxInvalidationRows : ℤ := 50000

def maxInvalidationBytes : ℤ := 64 * 1024 * 1024

def backlogThrottleMs : ℤ := 60000

structure ProjectionInvalidationThrottle where
  retryAfterMs : ℤ
deriving DecidableEq

/-! ## Rows that wait -/

/-- The row waits for a rebuild of the pair. -/
def Invalidation.isPendingOf (row : Invalidation) (pair : Pair) : Bool :=
  row.pair = pair ∧ row.isConsumed = false

/-- The row waits for a rebuild of the pair at a key. -/
def Invalidation.isPendingAt (row : Invalidation) (pair : Pair) (primaryKey : Text) : Bool :=
  row.pair = pair ∧ row.primaryKey = primaryKey ∧ row.isConsumed = false

def totalBytes (rows : List Invalidation) : ℕ :=
  (rows.map Invalidation.sizeBytes).sum

/-- The rows of the pair that wait. -/
def pendingRows (log : List Invalidation) (pair : Pair) : List Invalidation :=
  log.filter fun row => row.isPendingOf pair

/-- The rows of a key that wait. -/
def existingRows (log : List Invalidation) (pair : Pair) (primaryKey : Text) :
    List Invalidation :=
  log.filter fun row => row.isPendingAt pair primaryKey

/-- The row after a rebuild that consumes the rows of a condition. -/
def Invalidation.consume (now : ℤ) (condition : Invalidation → Bool) (row : Invalidation) :
    Invalidation :=
  if condition row ∧ row.isConsumed = false then
    { row with isConsumed := true, consumedAtMs := some now }
  else row

/-! ## The operations -/

/-- The number of bytes of a serialised payload. -/
def payloadSize (payloadJson : Option Text) : ℕ :=
  (payloadJson.map Text.byteLength).getD 0

/-- The pair would hold too many rows or bytes with the new row in place of those of its
key. -/
def ExceedsBacklog (log : List Invalidation) (pair : Pair) (primaryKey : Text)
    (sizeBytes : ℕ) : Prop :=
  let finalCount : ℤ :=
    (pendingRows log pair).length - (existingRows log pair primaryKey).length + 1
  let finalBytes : ℤ :=
    totalBytes (pendingRows log pair) - totalBytes (existingRows log pair primaryKey) +
      sizeBytes
  maxInvalidationRows < finalCount ∨ maxInvalidationBytes < finalBytes

instance decidableExceedsBacklog (log : List Invalidation) (pair : Pair) (primaryKey : Text)
    (sizeBytes : ℕ) : Decidable (ExceedsBacklog log pair primaryKey sizeBytes) :=
  inferInstanceAs (Decidable (_ ∨ _))

namespace Store

variable (store : Store) (pair : Pair) (now : ℤ)

/-- Change the cursor of the pair, or insert one. -/
def upsertCursor (fresh : ProjectionCursor) (change : ProjectionCursor → ProjectionCursor) :
    Store :=
  { store with
    cursors := Function.update store.cursors pair
      (some ((store.cursors pair).elim fresh change)) }

/-- Change the cursor of the pair if there is one. -/
def updateCursor (change : ProjectionCursor → ProjectionCursor) : Store :=
  { store with
    cursors := Function.update store.cursors pair ((store.cursors pair).map change) }

@[simp]
theorem cursors_upsertCursor_self (fresh : ProjectionCursor)
    (change : ProjectionCursor → ProjectionCursor) :
    (store.upsertCursor pair fresh change).cursors pair =
      some ((store.cursors pair).elim fresh change) := by
  simp [upsertCursor]

@[simp]
theorem cursors_upsertCursor_of_ne (fresh : ProjectionCursor)
    (change : ProjectionCursor → ProjectionCursor) {pair' : Pair} (hne : pair' ≠ pair) :
    (store.upsertCursor pair fresh change).cursors pair' = store.cursors pair' := by
  simp [upsertCursor, hne]

@[simp]
theorem cursors_updateCursor_of_ne (change : ProjectionCursor → ProjectionCursor)
    {pair' : Pair} (hne : pair' ≠ pair) :
    (store.updateCursor pair change).cursors pair' = store.cursors pair' := by
  simp [updateCursor, hne]

/-- Record that a key of the pair is stale.  A row that waits at the key gives way to the new
one, but only when the new one fits. -/
def recordInvalidationInternal (primaryKey kind : Text) (payloadJson : Option Text) :
    Store × Option ProjectionInvalidationThrottle :=
  let sizeBytes := payloadSize payloadJson
  if ExceedsBacklog store.log pair primaryKey sizeBytes then
    (store.upsertCursor pair
      { watermarkMs := now
        isPoisoned := true
        lastError := some "projection_invalidation_backlog_exceeded".toList
        updatedAtMs := now
        throttledUntilMs := some (now + backlogThrottleMs)
        firstHealthyAtMs := none }
      fun cursor =>
        { cursor with
          isPoisoned := true
          lastError := some "projection_invalidation_backlog_exceeded".toList
          throttledUntilMs := some (now + backlogThrottleMs)
          updatedAtMs := now
          firstHealthyAtMs := none },
     some { retryAfterMs := backlogThrottleMs })
  else
    ({ store with
       log := store.log.filter (fun row => !row.isPendingAt pair primaryKey) ++
        [{ pair
           primaryKey
           invalidationKind := kind
           payloadJson
           sizeBytes
           createdAtMs := now
           isConsumed := false
           consumedAtMs := none }] },
     none)

def runSummaries : Pair := ⟨"run_summaries".toList, "runs".toList⟩

/-- A run came to its end.  A throttled record is swallowed, and the watermark moves. -/
def invalidateProjectionsTerminal (runId : Text) : Store :=
  let recorded := (store.recordInvalidationInternal runSummaries now runId "upsert".toList
    none).1
  recorded.upsertCursor runSummaries
    { watermarkMs := now
      isPoisoned := false
      lastError := none
      updatedAtMs := now
      throttledUntilMs := none
      firstHealthyAtMs := some now }
    fun cursor =>
      { cursor with
        watermarkMs := now
        updatedAtMs := now
        firstHealthyAtMs :=
          if cursor.isPoisoned then none else cursor.firstHealthyAtMs.or (some now) }

/-- Consume the rows that satisfy a condition and wait. -/
def consume (condition : Invalidation → Bool) : Store :=
  { store with log := store.log.map (Invalidation.consume now condition) }

/-- A rebuild of the whole pair consumes what was there when it read its source. -/
def markConsumed (beforeMs : ℤ) : Store :=
  store.consume now fun row => row.pair = pair ∧ row.createdAtMs ≤ beforeMs

/-- A rebuild of one key. -/
def markConsumedEntity (primaryKey : Text) (beforeMs : ℤ) : Store :=
  store.consume now fun row =>
    row.pair = pair ∧ row.primaryKey = primaryKey ∧ row.createdAtMs ≤ beforeMs

/-- An operator clears the poison of the pair. -/
def clearPoison : Store :=
  store.updateCursor pair fun cursor =>
    { cursor with
      isPoisoned := false
      lastError := none
      throttledUntilMs := none
      updatedAtMs := now
      firstHealthyAtMs := none }

/-- An operator clears the rows that wait as well. -/
def clearBacklog : Store :=
  { store with log := store.log.filter fun row => !row.isPendingOf pair }.clearPoison pair now

/-- A rebuild that failed freezes the cursor. -/
def freezeCursorAfterRetryExhaustion : Store :=
  store.upsertCursor pair
    { watermarkMs := now
      isPoisoned := true
      lastError := some "projection_invalidation_consumer_retry_exhausted".toList
      updatedAtMs := now
      throttledUntilMs := none
      firstHealthyAtMs := none }
    fun cursor =>
      { cursor with
        isPoisoned := true
        lastError := some "projection_invalidation_consumer_retry_exhausted".toList
        updatedAtMs := now
        firstHealthyAtMs := none }

/-- A consumed row goes after a day, when a healthy cursor has moved past it. -/
def isReapable (row : Invalidation) : Bool :=
  row.isConsumed &&
    match row.consumedAtMs with
    | none => false
    | some consumedAtMs =>
        consumedAtMs < now - 24 * 60 * 60 * 1000 &&
          match store.cursors row.pair with
          | none => false
          | some cursor => !cursor.isPoisoned && consumedAtMs ≤ cursor.watermarkMs

def reapConsumedLog : Store :=
  { store with log := store.log.filter fun row => !store.isReapable now row }

end Store

/-! ## Runs -/

inductive Event where
  | record (pair : Pair) (primaryKey kind : Text) (payloadJson : Option Text) (now : ℤ)
  | terminal (runId : Text) (now : ℤ)
  | markConsumed (pair : Pair) (beforeMs now : ℤ)
  | markConsumedEntity (pair : Pair) (primaryKey : Text) (beforeMs now : ℤ)
  | clearBacklog (pair : Pair) (now : ℤ)
  | clearPoison (pair : Pair) (now : ℤ)
  | freeze (pair : Pair) (now : ℤ)
  | reap (now : ℤ)

def perform (store : Store) : Event → Store
  | .record pair primaryKey kind payloadJson now =>
      (store.recordInvalidationInternal pair now primaryKey kind payloadJson).1
  | .terminal runId now => store.invalidateProjectionsTerminal now runId
  | .markConsumed pair beforeMs now => store.markConsumed pair now beforeMs
  | .markConsumedEntity pair primaryKey beforeMs now =>
      store.markConsumedEntity pair now primaryKey beforeMs
  | .clearBacklog pair now => store.clearBacklog pair now
  | .clearPoison pair now => store.clearPoison pair now
  | .freeze pair now => store.freezeCursorAfterRetryExhaustion pair now
  | .reap now => store.reapConsumedLog now

/-- The log and the cursors after a run from an empty log. -/
def storeAfter (events : List Event) : Store := runFrom perform Store.empty events

end ChainworksForge.Projection
