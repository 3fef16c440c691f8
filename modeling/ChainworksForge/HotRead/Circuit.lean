import Mathlib.Algebra.Group.Nat.Defs
import Mathlib.Algebra.Group.Int.Defs
import Mathlib.Data.Int.Basic
import Mathlib.Data.List.TakeWhile
import Mathlib.Logic.Function.Basic

/-!
# The circuit breaker of a hot read surface

A surface has one row with the state of its circuit.  A reader checks the circuit, reads,
and then records a success or a violation; a record reads the row, works out the next row
and writes it back, without a transaction around the two.  Counters are signed machine
integers of 32 bits.
-/

namespace ChainworksForge.HotRead

/-- The result of 32 bit arithmetic that wraps around. -/
def wrap32 (n : ℤ) : ℤ := n.bmod (2 ^ 32)

theorem wrap32_of_small {n : ℤ} (hlow : 0 ≤ n) (hhigh : n < 2 ^ 31) : wrap32 n = n :=
  Int.bmod_eq_of_le (by omega) (by omega)

inductive CircuitStatus
  | closed
  | opened
  | halfOpen
deriving DecidableEq

/-- What a record reads and writes of the row of a surface. -/
structure CircuitState where
  circuitStatus : CircuitStatus
  consecutiveSuccesses : ℤ
  consecutiveFailures : ℤ
  lastOpenedAtMs : Option ℤ
  retryAfterMs : Option ℤ
deriving DecidableEq

/-- A surface without a row is closed. -/
def getCircuitState (row : Option CircuitState) : CircuitState :=
  row.getD ⟨.closed, 0, 0, none, none⟩

/-- The row that `record_violation` writes, having read the clock at `now` and the state
`seen`. -/
def recordViolation (row : Option CircuitState) (now : ℤ) (seen : CircuitState) :
    CircuitState :=
  let nextFailures := wrap32 (seen.consecutiveFailures + 1)
  if 3 ≤ nextFailures then
    { circuitStatus := .opened
      consecutiveSuccesses := 0
      consecutiveFailures := nextFailures
      lastOpenedAtMs := some now
      retryAfterMs := some (now + 30000) }
  else
    { circuitStatus := seen.circuitStatus
      consecutiveSuccesses := 0
      consecutiveFailures := nextFailures
      -- the statement keeps the old time: `COALESCE(excluded.…, last_opened_at_ms)`
      lastOpenedAtMs := row.bind CircuitState.lastOpenedAtMs
      retryAfterMs := none }

/-- The status and the successes in a row that `record_success` writes. -/
def nextSuccess (seen : CircuitState) : CircuitStatus × ℤ :=
  match seen.circuitStatus with
  | .halfOpen =>
      if 3 ≤ wrap32 (seen.consecutiveSuccesses + 1) then (.closed, 0)
      else (.halfOpen, wrap32 (seen.consecutiveSuccesses + 1))
  | .closed => (.closed, wrap32 (seen.consecutiveSuccesses + 1))
  | .opened => (.halfOpen, 1)

/-- The row that `record_success` writes, having read the state `seen`. -/
def recordSuccess (row : Option CircuitState) (seen : CircuitState) : CircuitState where
  circuitStatus := (nextSuccess seen).1
  consecutiveSuccesses := (nextSuccess seen).2
  consecutiveFailures := 0
  lastOpenedAtMs := row.bind CircuitState.lastOpenedAtMs
  retryAfterMs := none

/-! ## The check of a reader -/

inductive LivenessMode
  | disabled
  | observe
  | enforce
deriving DecidableEq

inductive CheckResult
  | allowed (isProbe probeGuard : Bool)
  | denied (status : CircuitStatus) (lastOpened retryAfter : Option ℤ)
deriving DecidableEq

def CheckResult.isDenied : CheckResult → Bool
  | .allowed .. => false
  | .denied .. => true

/-- Whether the reader gets the probe of the surface, and whether the surface has a probe in
flight afterwards. -/
def tryAcquireProbe (inFlight : Bool) : Bool × Bool :=
  if inFlight then (false, true) else (true, true)

/-- The status that a check goes by: an open circuit is half open from its retry time on. -/
def CircuitState.statusAt (state : CircuitState) (now : ℤ) : CircuitStatus :=
  if state.circuitStatus = .opened ∧ (state.retryAfterMs.all fun t => t ≤ now) then .halfOpen
  else state.circuitStatus

/-- The answer of a check, and whether the surface has a probe in flight afterwards. -/
def check (mode : LivenessMode) (row : Option CircuitState) (now : ℤ) (inFlight : Bool) :
    CheckResult × Bool :=
  if mode = .disabled then (.allowed false false, inFlight)
  else
    let state := getCircuitState row
    match state.statusAt now, mode with
    | .opened, .enforce => (.denied .opened state.lastOpenedAtMs state.retryAfterMs, inFlight)
    | .halfOpen, mode =>
        let probe := tryAcquireProbe inFlight
        if probe.1 then (.allowed true true, probe.2)
        else if mode = .enforce then
          (.denied .halfOpen state.lastOpenedAtMs state.retryAfterMs, probe.2)
        else (.allowed false false, probe.2)
    | _, _ => (.allowed false false, inFlight)

/-- In enforce mode a check is denied before the retry time, and while the circuit is half
open with a probe in flight. -/
theorem check_isDenied_iff {row : Option CircuitState} {now : ℤ} {inFlight : Bool} :
    (check .enforce row now inFlight).1.isDenied = true ↔
      (getCircuitState row).statusAt now = .opened ∨
        (getCircuitState row).statusAt now = .halfOpen ∧ inFlight = true := by
  cases hstatus : (getCircuitState row).statusAt now <;> cases inFlight <;>
    simp [check, hstatus, tryAcquireProbe, CheckResult.isDenied]

/-- In enforce mode a check that is allowed is a probe exactly if the circuit is half open,
and a probe finds none in flight and leaves itself in flight. -/
theorem check_allowed {row : Option CircuitState} {now : ℤ} {inFlight after : Bool}
    {isProbe probeGuard : Bool}
    (hcheck : check .enforce row now inFlight = (.allowed isProbe probeGuard, after)) :
    probeGuard = isProbe ∧ after = (inFlight || probeGuard) ∧
      (probeGuard = true → inFlight = false) := by
  revert hcheck
  cases hstatus : (getCircuitState row).statusAt now <;> cases inFlight <;>
    simp +contextual [check, hstatus, tryAcquireProbe]

/-- A check that is denied leaves the probes as they are. -/
theorem check_denied {row : Option CircuitState} {now : ℤ} {inFlight after : Bool}
    {status : CircuitStatus} {lastOpened retryAfter : Option ℤ}
    (hcheck : check .enforce row now inFlight =
      (.denied status lastOpened retryAfter, after)) : after = inFlight := by
  revert hcheck
  cases hstatus : (getCircuitState row).statusAt now <;> cases inFlight <;>
    simp +contextual [check, hstatus, tryAcquireProbe]

/-! ## Rows as records write them -/

/-- A circuit is open after three failures, and only an open circuit has a retry time. -/
structure CircuitState.WellFormed (state : CircuitState) : Prop where
  failures : 0 ≤ state.consecutiveFailures
  opened : state.circuitStatus = .opened ↔ 3 ≤ state.consecutiveFailures
  successes : state.circuitStatus = .halfOpen →
    0 ≤ state.consecutiveSuccesses ∧ state.consecutiveSuccesses < 3
  retry : state.retryAfterMs.isSome = true → state.circuitStatus = .opened

theorem wellFormed_getCircuitState_none : (getCircuitState none).WellFormed where
  failures := by decide
  opened := by decide
  successes := by decide
  retry := by decide

section Writes

variable {row : Option CircuitState} {now : ℤ} {seen : CircuitState}

theorem recordViolation_of_two_le (hcount : seen.consecutiveFailures + 1 < 2 ^ 31)
    (htwo : 2 ≤ seen.consecutiveFailures) :
    recordViolation row now seen =
      ⟨.opened, 0, seen.consecutiveFailures + 1, some now, some (now + 30000)⟩ := by
  have hwrap : wrap32 (seen.consecutiveFailures + 1) = seen.consecutiveFailures + 1 :=
    wrap32_of_small (by omega) hcount
  have hthree : 3 ≤ seen.consecutiveFailures + 1 := by omega
  simp only [recordViolation, hwrap, if_pos hthree]

theorem recordViolation_of_lt_two (hseen : seen.WellFormed)
    (htwo : seen.consecutiveFailures < 2) :
    recordViolation row now seen =
      ⟨seen.circuitStatus, 0, seen.consecutiveFailures + 1,
        row.bind CircuitState.lastOpenedAtMs, none⟩ := by
  have hlow := hseen.failures
  have hwrap : wrap32 (seen.consecutiveFailures + 1) = seen.consecutiveFailures + 1 :=
    wrap32_of_small (by omega) (by omega)
  have hthree : ¬3 ≤ seen.consecutiveFailures + 1 := by omega
  simp only [recordViolation, hwrap, if_neg hthree]

theorem recordViolation_wellFormed (hseen : seen.WellFormed)
    (hcount : seen.consecutiveFailures + 1 < 2 ^ 31) :
    (recordViolation row now seen).WellFormed := by
  have hlow := hseen.failures
  by_cases htwo : 2 ≤ seen.consecutiveFailures
  · rw [recordViolation_of_two_le hcount htwo]
    exact ⟨by simp only; omega, ⟨fun _ => by simp only; omega, fun _ => rfl⟩,
      fun hhalf => by simp at hhalf, fun _ => rfl⟩
  · have hlt : seen.consecutiveFailures < 2 := by omega
    have hopened : seen.circuitStatus ≠ .opened := fun hopened => by
      have := hseen.opened.1 hopened
      omega
    rw [recordViolation_of_lt_two hseen hlt]
    exact ⟨by simp only; omega, ⟨fun h => absurd h hopened, fun h => by simp only at h; omega⟩,
      fun _ => by simp, fun hsome => by simp at hsome⟩

theorem nextSuccess_ne_opened : (nextSuccess seen).1 ≠ .opened := by
  cases hstatus : seen.circuitStatus with
  | closed => simp [nextSuccess, hstatus]
  | opened => simp [nextSuccess, hstatus]
  | halfOpen =>
      by_cases hthree : 3 ≤ wrap32 (seen.consecutiveSuccesses + 1) <;>
        simp [nextSuccess, hstatus, hthree]

/-- What a success makes of a half-open circuit. -/
theorem nextSuccess_of_halfOpen (hseen : seen.WellFormed)
    (hstatus : seen.circuitStatus = .halfOpen) :
    nextSuccess seen = (.closed, 0) ∧ seen.consecutiveSuccesses = 2 ∨
      nextSuccess seen = (.halfOpen, seen.consecutiveSuccesses + 1) ∧
        seen.consecutiveSuccesses < 2 := by
  obtain ⟨hlow, hhigh⟩ := hseen.successes hstatus
  have hwrap : wrap32 (seen.consecutiveSuccesses + 1) = seen.consecutiveSuccesses + 1 :=
    wrap32_of_small (by omega) (by omega)
  simp only [nextSuccess, hstatus, hwrap]
  by_cases hthree : 3 ≤ seen.consecutiveSuccesses + 1
  · rw [if_pos hthree]
    exact .inl ⟨rfl, by omega⟩
  · rw [if_neg hthree]
    exact .inr ⟨rfl, by omega⟩

theorem recordSuccess_wellFormed (hseen : seen.WellFormed) :
    (recordSuccess row seen).WellFormed where
  failures := Int.le_refl _
  opened := iff_of_false nextSuccess_ne_opened (by simp [recordSuccess])
  successes := by
    intro hhalf
    change 0 ≤ (nextSuccess seen).2 ∧ (nextSuccess seen).2 < 3
    change (nextSuccess seen).1 = .halfOpen at hhalf
    cases hstatus : seen.circuitStatus with
    | closed => simp [nextSuccess, hstatus] at hhalf
    | opened => simp [nextSuccess, hstatus]
    | halfOpen =>
        have hlow := (hseen.successes hstatus).1
        rcases nextSuccess_of_halfOpen hseen hstatus with ⟨hnext, -⟩ | ⟨hnext, hcount⟩
        · rw [hnext]
          exact ⟨Int.le_refl _, by decide⟩
        · rw [hnext]
          exact ⟨by simp only; omega, by simp only; omega⟩
  retry := fun hsome => by simp [recordSuccess] at hsome

end Writes

end ChainworksForge.HotRead
