import ChainworksForge.HotRead.Circuit
import ChainworksForge.Support.Runs

/-!
# Concurrent readers of one surface

Each reader checks, reads and records.  A record reads the row and writes it back in two
steps, and other readers move in between.  The breaker is safe in a run in which no record
is written from a view that other records have overtaken; three short runs show what an
overtaken record does.
-/

namespace ChainworksForge.HotRead

open ChainworksForge.Support

/-! ## The readers and their steps -/

/-- Where a reader stands. -/
inductive Phase
  | idle
  | admitted
  /-- It is in `record_violation` and has read the clock. -/
  | violating (now : ℤ)
  /-- It is in `record_violation` and has read the row as well. -/
  | failing (now : ℤ) (seen : CircuitState)
  /-- It is in `record_success` and has read the row. -/
  | succeeding (seen : CircuitState)

structure Reader where
  phase : Phase
  probeGuard : Bool

/-- What a write recorded: a violation with the retry time if it opened the circuit. -/
inductive Record
  | success
  | violation (opened : Option ℤ)
deriving DecidableEq

/-- The surface with its readers.  The records are kept for the statements, the latest
first. -/
structure Breaker where
  row : Option CircuitState
  clock : ℤ
  inFlight : Bool
  readers : ℕ → Reader
  records : List Record

def Breaker.start (clock : ℤ) : Breaker where
  row := none
  clock := clock
  inFlight := false
  readers := fun _ => ⟨.idle, false⟩
  records := []

namespace Breaker

/-- The state that is stored for the surface. -/
def stored (breaker : Breaker) : CircuitState := getCircuitState breaker.row

/-- The answer to a check made now. -/
def answer (breaker : Breaker) : CheckResult × Bool :=
  check .enforce breaker.row breaker.clock breaker.inFlight

def setPhase (breaker : Breaker) (i : ℕ) (phase : Phase) : Breaker :=
  { breaker with
    readers := Function.update breaker.readers i { breaker.readers i with phase := phase } }

/-- A reader without a guard asks for admission. -/
def checkIn (breaker : Breaker) (i : ℕ) : Breaker :=
  match breaker.answer with
  | (.allowed _ probeGuard, inFlight) =>
      { breaker with
        inFlight := inFlight
        readers := Function.update breaker.readers i ⟨.admitted, probeGuard⟩ }
  | (.denied .., inFlight) => { breaker with inFlight := inFlight }

/-- The guard of a reader goes out of scope. -/
def dropGuard (breaker : Breaker) (i : ℕ) : Breaker :=
  { breaker with
    inFlight := false
    readers := Function.update breaker.readers i
      { breaker.readers i with probeGuard := false } }

/-- The second step of `record_success`. -/
def writeSuccess (breaker : Breaker) (seen : CircuitState) : Breaker :=
  { breaker with
    row := some (recordSuccess breaker.row seen)
    records := .success :: breaker.records }

/-- The second step of `record_violation`. -/
def writeViolation (breaker : Breaker) (now : ℤ) (seen : CircuitState) : Breaker :=
  let next := recordViolation breaker.row now seen
  { breaker with
    row := some next
    records := .violation next.retryAfterMs :: breaker.records }

end Breaker

inductive Event
  | tick (ms : ℕ)
  | check (i : ℕ)
  | dropGuard (i : ℕ)
  | startViolation (i : ℕ)
  | readViolation (i : ℕ)
  | readSuccess (i : ℕ)
  | write (i : ℕ)

/-- One step of one reader; a reader that is not there makes none. -/
def Breaker.step (breaker : Breaker) : Event → Breaker
  | .tick ms => { breaker with clock := breaker.clock + ms }
  | .check i =>
      match breaker.readers i with
      | ⟨.idle, false⟩ => breaker.checkIn i
      | _ => breaker
  | .dropGuard i => if (breaker.readers i).probeGuard then breaker.dropGuard i else breaker
  | .startViolation i =>
      match (breaker.readers i).phase with
      | .admitted => breaker.setPhase i (.violating breaker.clock)
      | _ => breaker
  | .readViolation i =>
      match (breaker.readers i).phase with
      | .violating now => breaker.setPhase i (.failing now breaker.stored)
      | _ => breaker
  | .readSuccess i =>
      match (breaker.readers i).phase with
      | .admitted => breaker.setPhase i (.succeeding breaker.stored)
      | _ => breaker
  | .write i =>
      match (breaker.readers i).phase with
      | .failing now seen => (breaker.writeViolation now seen).setPhase i .idle
      | .succeeding seen => (breaker.writeSuccess seen).setPhase i .idle
      | _ => breaker

/-! ## What a safe breaker guarantees -/

/-- Every opening in the records has three successes in a row after it. -/
def Healed (records : List Record) : Prop :=
  ∀ later t earlier, records = later ++ .violation (some t) :: earlier →
    [.success, .success, .success] <:+: later

structure Breaker.Safe (breaker : Breaker) : Prop where
  /-- No check is allowed before the retry time of a violation that opened the circuit. -/
  waits : ∀ t, .violation (some t) ∈ breaker.records → breaker.clock < t →
    breaker.answer.1.isDenied = true
  /-- Three violations in a row leave the circuit open. -/
  opens : ∀ a b c earlier,
    breaker.records = .violation a :: .violation b :: .violation c :: earlier →
      breaker.stored.circuitStatus = .opened
  /-- A circuit that was opened is closed only after three successes in a row. -/
  closes : breaker.stored.circuitStatus = .closed → Healed breaker.records
  /-- At most one reader holds a guard. -/
  single : ∀ i j, (breaker.readers i).probeGuard = true →
    (breaker.readers j).probeGuard = true → i = j
  /-- While a guard is alive and the circuit half open, every check is denied. -/
  probes : ∀ i, (breaker.readers i).probeGuard = true →
    breaker.stored.statusAt breaker.clock = .halfOpen → breaker.answer.1.isDenied = true

/-! ## Records that others have overtaken -/

/-- The successes that count towards closing the circuit. -/
def CircuitState.credit (state : CircuitState) : ℤ :=
  if state.circuitStatus = .halfOpen then state.consecutiveSuccesses else 0

/-- The circuit does not wait for its retry time, and the view of the success is neither
closed while the circuit is not, nor ahead in successes of a circuit that is not closed. -/
@[mk_iff]
structure SuccessInTime (clock : ℤ) (stored seen : CircuitState) : Prop where
  retry : ∀ t ∈ stored.retryAfterMs, t ≤ clock
  closed : seen.circuitStatus = .closed → stored.circuitStatus = .closed
  halfOpen : seen.circuitStatus = .halfOpen →
    stored.circuitStatus = .closed ∨ seen.consecutiveSuccesses ≤ stored.credit

/-- A violation that opens the circuit does not take back a later retry time, and another
one has counted every failure and does not close the circuit. -/
@[mk_iff]
structure ViolationInTime (clock now : ℤ) (stored seen : CircuitState) : Prop where
  count : seen.consecutiveFailures + 1 < 2 ^ 31
  retry : 2 ≤ seen.consecutiveFailures →
    ∀ t ∈ stored.retryAfterMs, t ≤ clock ∨ t ≤ now + 30000
  failures : seen.consecutiveFailures < 2 →
    stored.consecutiveFailures ≤ seen.consecutiveFailures
  closed : seen.consecutiveFailures < 2 → seen.circuitStatus = .closed →
    stored.circuitStatus = .closed

/-- The record that a reader is about to write is not overtaken. -/
def Phase.InTime (clock : ℤ) (stored : CircuitState) : Phase → Prop
  | .failing now seen => ViolationInTime clock now stored seen
  | .succeeding seen => SuccessInTime clock stored seen
  | _ => True

/-- The step writes no record that others have overtaken. -/
def InTime (breaker : Breaker) : Event → Prop
  | .write i => (breaker.readers i).phase.InTime breaker.clock breaker.stored
  | _ => True

section Decisions

variable (clock now : ℤ) (stored seen : CircuitState)

instance SuccessInTime.decidable : Decidable (SuccessInTime clock stored seen) :=
  decidable_of_iff' _ (successInTime_iff clock stored seen)

instance ViolationInTime.decidable : Decidable (ViolationInTime clock now stored seen) :=
  decidable_of_iff' _ (violationInTime_iff clock now stored seen)

instance Phase.decidableInTime : (phase : Phase) → Decidable (phase.InTime clock stored)
  | .failing now seen => inferInstanceAs (Decidable (ViolationInTime clock now stored seen))
  | .succeeding seen => inferInstanceAs (Decidable (SuccessInTime clock stored seen))
  | .idle | .admitted | .violating _ => inferInstanceAs (Decidable True)

instance InTime.decidable (breaker : Breaker) : (event : Event) → Decidable (InTime breaker event)
  | .write i => Phase.decidableInTime breaker.clock breaker.stored (breaker.readers i).phase
  | .tick _ | .check _ | .dropGuard _ | .startViolation _ | .readViolation _ | .readSuccess _ =>
      inferInstanceAs (Decidable True)

end Decisions

/-! ## Counting the records -/

def Record.isSuccess : Record → Bool
  | .success => true
  | .violation _ => false

/-- The successes since the last violation. -/
def successesOf (records : List Record) : ℕ := (records.takeWhile Record.isSuccess).length

/-- The violations since the last success. -/
def violationsOf (records : List Record) : ℕ :=
  (records.takeWhile fun record => !record.isSuccess).length

section Records

variable {records : List Record} {opened : Option ℤ}

@[simp]
theorem successesOf_success : successesOf (.success :: records) = successesOf records + 1 := rfl

@[simp]
theorem violationsOf_success : violationsOf (.success :: records) = 0 := rfl

@[simp]
theorem violationsOf_violation :
    violationsOf (.violation opened :: records) = violationsOf records + 1 := rfl

theorem Healed.cons {record : Record} (h : Healed records)
    (hrecord : ∀ t, record ≠ .violation (some t)) : Healed (record :: records) := by
  intro later t earlier hrecords
  cases later with
  | nil => exact absurd (List.cons.inj hrecords).1 (hrecord t)
  | cons first later =>
      obtain ⟨-, hrest⟩ := List.cons.inj hrecords
      exact (h later t earlier hrest).trans (List.suffix_cons _ _).isInfix

theorem Healed.success (h : Healed records) : Healed (.success :: records) :=
  h.cons fun _ hsame => by cases hsame

theorem Healed.violation (h : Healed records) : Healed (.violation none :: records) :=
  h.cons fun _ hsame => by cases hsame

/-- Three successes in a row come after everything before them. -/
theorem healed_of_successes (hthree : 3 ≤ successesOf records) : Healed records := by
  have hrow : [Record.success, .success, .success] <+: records.takeWhile Record.isSuccess := by
    have hall : records.takeWhile Record.isSuccess =
        List.replicate (successesOf records) .success := by
      refine List.eq_replicate_of_mem fun record hrecord => ?_
      have hsuccess := List.mem_takeWhile_imp hrecord
      cases record with
      | success => rfl
      | violation _ => cases hsuccess
    rw [hall]
    exact ⟨List.replicate (successesOf records - 3) .success, by
      rw [← Nat.add_sub_of_le hthree, List.replicate_add, Nat.add_sub_cancel_left]
      rfl⟩
  intro later t earlier hrecords
  have hbefore : records.takeWhile Record.isSuccess <+: later := by
    rw [hrecords, List.takeWhile_append]
    split
    · simp [Record.isSuccess]
    · exact List.takeWhile_prefix _
  exact (hrow.trans hbefore).isInfix

end Records

/-! ## What the records say of the stored state -/

/-- What holds between the stored state and the records. -/
structure Accounts (clock : ℤ) (stored : CircuitState) (records : List Record) : Prop where
  waits : ∀ t, .violation (some t) ∈ records → clock < t → ∃ r ∈ stored.retryAfterMs, t ≤ r
  failures : min (violationsOf records : ℤ) 3 ≤ stored.consecutiveFailures
  closed : stored.circuitStatus = .closed → Healed records
  halfOpen : stored.circuitStatus = .halfOpen →
    Healed records ∨ stored.consecutiveSuccesses ≤ successesOf records

section Accounts

variable {clock now : ℤ} {stored seen : CircuitState} {row : Option CircuitState}
  {records : List Record}

theorem Accounts.start : Accounts clock (getCircuitState none) [] where
  waits := fun _ hmem => absurd hmem List.not_mem_nil
  failures := by decide
  closed := fun _ later _ _ hrecords => by cases later <;> cases hrecords
  halfOpen := fun hstatus => by cases hstatus

theorem Accounts.tick (h : Accounts clock stored records) (ms : ℕ) :
    Accounts (clock + ms) stored records :=
  ⟨fun t hmem hlt => h.waits t hmem (by omega), h.failures, h.closed, h.halfOpen⟩

theorem Accounts.success (h : Accounts clock stored records) (hseen : seen.WellFormed)
    (htime : SuccessInTime clock stored seen) :
    Accounts clock (recordSuccess row seen) (.success :: records) where
  waits := by
    intro t hmem hlt
    have hold : .violation (some t) ∈ records := by simpa using hmem
    obtain ⟨r, hr, htr⟩ := h.waits t hold hlt
    have hpassed := htime.retry r hr
    omega
  failures := by
    change min (0 : ℤ) 3 ≤ 0
    decide
  closed := by
    intro hclosed
    change (nextSuccess seen).1 = .closed at hclosed
    cases hstatus : seen.circuitStatus with
    | closed => exact (h.closed (htime.closed hstatus)).success
    | opened => simp [nextSuccess, hstatus] at hclosed
    | halfOpen =>
        rcases nextSuccess_of_halfOpen hseen hstatus with ⟨-, htwo⟩ | ⟨hnext, -⟩
        · rcases htime.halfOpen hstatus with hstored | hcredit
          · exact (h.closed hstored).success
          · by_cases hhalf : stored.circuitStatus = .halfOpen
            · rw [CircuitState.credit, if_pos hhalf] at hcredit
              rcases h.halfOpen hhalf with hhealed | hsuccesses
              · exact hhealed.success
              · exact healed_of_successes (by rw [successesOf_success]; omega)
            · rw [CircuitState.credit, if_neg hhalf] at hcredit
              omega
        · rw [hnext] at hclosed
          cases hclosed
  halfOpen := by
    intro hhalf
    change (nextSuccess seen).1 = .halfOpen at hhalf
    change Healed _ ∨ (nextSuccess seen).2 ≤ _
    rw [successesOf_success]
    cases hstatus : seen.circuitStatus with
    | closed => simp [nextSuccess, hstatus] at hhalf
    | opened =>
        refine .inr ?_
        simp only [nextSuccess, hstatus]
        omega
    | halfOpen =>
        rcases nextSuccess_of_halfOpen hseen hstatus with ⟨hnext, -⟩ | ⟨hnext, -⟩
        · rw [hnext] at hhalf
          cases hhalf
        · rw [hnext]
          rcases htime.halfOpen hstatus with hstored | hcredit
          · exact .inl (h.closed hstored).success
          · by_cases hstored : stored.circuitStatus = .halfOpen
            · rw [CircuitState.credit, if_pos hstored] at hcredit
              exact (h.halfOpen hstored).imp Healed.success fun hsuccesses => by
                simp only
                omega
            · rw [CircuitState.credit, if_neg hstored] at hcredit
              refine .inr ?_
              simp only
              omega

theorem Accounts.violation (h : Accounts clock stored records) (hstored : stored.WellFormed)
    (hseen : seen.WellFormed) (htime : ViolationInTime clock now stored seen) :
    Accounts clock (recordViolation row now seen)
      (.violation (recordViolation row now seen).retryAfterMs :: records) := by
  by_cases htwo : 2 ≤ seen.consecutiveFailures
  · rw [recordViolation_of_two_le htime.count htwo]
    refine ⟨fun t hmem hlt => ⟨now + 30000, rfl, ?_⟩, ?_, fun hclosed => ?_, fun hhalf => ?_⟩
    · rcases List.mem_cons.1 hmem with hnew | hold
      · cases hnew
        exact Int.le_refl _
      · obtain ⟨r, hr, htr⟩ := h.waits t hold hlt
        have hlater := htime.retry htwo r hr
        omega
    · simp only
      omega
    · cases hclosed
    · cases hhalf
  · have hlt : seen.consecutiveFailures < 2 := by omega
    have hcounted := htime.failures hlt
    have hnotOpened : stored.circuitStatus ≠ .opened := fun hopened => by
      have hthree := hstored.opened.1 hopened
      omega
    rw [recordViolation_of_lt_two hseen hlt]
    refine ⟨fun t hmem hlater => ?_, ?_,
      fun hclosed => (h.closed (htime.closed hlt hclosed)).violation, fun _ => .inr ?_⟩
    · -- the circuit is not open, so no retry time is left to wait for
      have hold : .violation (some t) ∈ records := by simpa using hmem
      obtain ⟨r, hr, -⟩ := h.waits t hold hlater
      exact absurd (hstored.retry (by rw [Option.mem_def.1 hr]; rfl)) hnotOpened
    · have hfailures := h.failures
      rw [violationsOf_violation]
      push_cast
      omega
    · exact Int.natCast_nonneg _

end Accounts

/-! ## One step -/

/-- The states that the records of a phase were read from are well formed. -/
def Phase.WellFormed : Phase → Prop
  | .failing _ seen => seen.WellFormed
  | .succeeding seen => seen.WellFormed
  | _ => True

structure Breaker.Sound (breaker : Breaker) : Prop where
  stored : breaker.stored.WellFormed
  phases : ∀ i, (breaker.readers i).phase.WellFormed
  accounts : Accounts breaker.clock breaker.stored breaker.records
  single : ∀ i j, (breaker.readers i).probeGuard = true →
    (breaker.readers j).probeGuard = true → i = j
  guarded : ∀ i, (breaker.readers i).probeGuard = true → breaker.inFlight = true

namespace Breaker

variable {breaker : Breaker} {i : ℕ} {phase : Phase}

@[simp]
theorem setPhase_probeGuard (j : ℕ) :
    ((breaker.setPhase i phase).readers j).probeGuard = (breaker.readers j).probeGuard := by
  by_cases hj : j = i
  · subst hj
    simp [setPhase]
  · simp [setPhase, hj]

theorem setPhase_phases (hphases : ∀ j, (breaker.readers j).phase.WellFormed)
    (hphase : phase.WellFormed) (j : ℕ) :
    ((breaker.setPhase i phase).readers j).phase.WellFormed := by
  by_cases hj : j = i
  · subst hj
    simpa [setPhase] using hphase
  · simpa [setPhase, hj] using hphases j

theorem Sound.setPhase (h : breaker.Sound) (hphase : phase.WellFormed) :
    (breaker.setPhase i phase).Sound where
  stored := h.stored
  phases := setPhase_phases h.phases hphase
  accounts := h.accounts
  single j k hj hk := h.single j k (by simpa using hj) (by simpa using hk)
  guarded j hj := h.guarded j (by simpa using hj)

theorem Sound.checkIn (h : breaker.Sound) (hidle : (breaker.readers i).probeGuard = false) :
    (breaker.checkIn i).Sound := by
  cases hanswer : breaker.answer with
  | mk result inFlight =>
  cases result with
  | denied status lastOpened retryAfter =>
      have hsame := check_denied hanswer
      simp only [Breaker.checkIn, hanswer]
      rw [hsame]
      exact h
  | allowed isProbe probeGuard =>
      obtain ⟨-, hafter, hfree⟩ := check_allowed hanswer
      -- a probe is admitted only when no reader holds a guard
      have hnone : probeGuard = true → ∀ j, (breaker.readers j).probeGuard = false :=
        fun hprobe j => by
          by_contra hguard
          have hbusy := h.guarded j (by simpa using hguard)
          rw [hfree hprobe] at hbusy
          cases hbusy
      have hreaders : ∀ j, (Function.update breaker.readers i ⟨.admitted, probeGuard⟩ j).probeGuard
          = true → j = i ∧ probeGuard = true ∨ j ≠ i ∧ (breaker.readers j).probeGuard = true := by
        intro j hj
        by_cases hji : j = i
        · subst hji
          exact .inl ⟨rfl, by simpa using hj⟩
        · exact .inr ⟨hji, by simpa [hji] using hj⟩
      simp only [Breaker.checkIn, hanswer]
      refine ⟨h.stored, fun j => ?_, h.accounts, fun j k hj hk => ?_, fun j hj => ?_⟩
      · by_cases hji : j = i
        · subst hji
          simp [Phase.WellFormed]
        · simpa [hji] using h.phases j
      · rcases hreaders j hj with ⟨rfl, hprobe⟩ | ⟨-, hold⟩
        · rcases hreaders k hk with ⟨rfl, -⟩ | ⟨-, hother⟩
          · rfl
          · rw [hnone hprobe k] at hother
            cases hother
        · rcases hreaders k hk with ⟨rfl, hprobe⟩ | ⟨-, hother⟩
          · rw [hnone hprobe j] at hold
            cases hold
          · exact h.single j k hold hother
      · rw [hafter]
        rcases hreaders j hj with ⟨-, hprobe⟩ | ⟨-, hold⟩
        · simp [hprobe]
        · simp [h.guarded j hold]

theorem Sound.dropGuard (h : breaker.Sound) (hguard : (breaker.readers i).probeGuard = true) :
    (breaker.dropGuard i).Sound := by
  -- the reader held the only guard
  have hnone : ∀ j, ((breaker.dropGuard i).readers j).probeGuard ≠ true := by
    intro j hj
    by_cases hji : j = i
    · subst hji
      simp [Breaker.dropGuard] at hj
    · exact hji (h.single j i (by simpa [Breaker.dropGuard, hji] using hj) hguard)
  refine ⟨h.stored, fun j => ?_, h.accounts, fun j k hj => absurd hj (hnone j),
    fun j hj => absurd hj (hnone j)⟩
  by_cases hji : j = i
  · subst hji
    simpa [Breaker.dropGuard] using h.phases j
  · simpa [Breaker.dropGuard, hji] using h.phases j

theorem Sound.writeSuccess {seen : CircuitState} (h : breaker.Sound) (hseen : seen.WellFormed)
    (htime : SuccessInTime breaker.clock breaker.stored seen) :
    (breaker.writeSuccess seen).Sound where
  stored := recordSuccess_wellFormed hseen
  phases := h.phases
  accounts := h.accounts.success hseen htime
  single := h.single
  guarded := h.guarded

theorem Sound.writeViolation {now : ℤ} {seen : CircuitState} (h : breaker.Sound)
    (hseen : seen.WellFormed)
    (htime : ViolationInTime breaker.clock now breaker.stored seen) :
    (breaker.writeViolation now seen).Sound where
  stored := recordViolation_wellFormed hseen htime.count
  phases := h.phases
  accounts := h.accounts.violation h.stored hseen htime
  single := h.single
  guarded := h.guarded

theorem Sound.start (clock : ℤ) : (start clock).Sound where
  stored := wellFormed_getCircuitState_none
  phases := fun _ => trivial
  accounts := .start
  single := fun _ _ hi => by cases hi
  guarded := fun _ hi => by cases hi

theorem Sound.step (h : breaker.Sound) {event : Event} (htime : InTime breaker event) :
    (breaker.step event).Sound := by
  cases event with
  | tick ms => exact ⟨h.stored, h.phases, h.accounts.tick ms, h.single, h.guarded⟩
  | check i =>
      simp only [Breaker.step]
      split
      · rename_i hreader
        exact h.checkIn (by rw [hreader])
      · exact h
  | dropGuard i =>
      simp only [Breaker.step]
      split
      · rename_i hguard
        exact h.dropGuard hguard
      · exact h
  | startViolation i =>
      simp only [Breaker.step]
      split
      · exact h.setPhase trivial
      · exact h
  | readViolation i =>
      simp only [Breaker.step]
      split
      · exact h.setPhase h.stored
      · exact h
  | readSuccess i =>
      simp only [Breaker.step]
      split
      · exact h.setPhase h.stored
      · exact h
  | write i =>
      have hphase := h.phases i
      cases hwrite : (breaker.readers i).phase with
      | failing now seen =>
          simp only [InTime, hwrite] at hphase htime
          simp only [Breaker.step, hwrite]
          exact (h.writeViolation hphase htime).setPhase trivial
      | succeeding seen =>
          simp only [InTime, hwrite] at hphase htime
          simp only [Breaker.step, hwrite]
          exact (h.writeSuccess hphase htime).setPhase trivial
      | idle => simpa only [Breaker.step, hwrite] using h
      | admitted => simpa only [Breaker.step, hwrite] using h
      | violating now => simpa only [Breaker.step, hwrite] using h

/-! ## Runs -/

theorem Sound.safe (h : breaker.Sound) : breaker.Safe where
  waits t hmem hlt := by
    obtain ⟨r, hr, htr⟩ := h.accounts.waits t hmem hlt
    have hretry : breaker.stored.retryAfterMs = some r := hr
    have hopened := h.stored.retry (by rw [hretry]; rfl)
    refine check_isDenied_iff.2 (.inl ?_)
    change breaker.stored.statusAt breaker.clock = .opened
    have hwaits : ¬r ≤ breaker.clock := by omega
    simp [CircuitState.statusAt, hretry, hopened, hwaits]
  opens a b c earlier hrecords := by
    have hfailures := h.accounts.failures
    rw [hrecords] at hfailures
    simp only [violationsOf_violation] at hfailures
    push_cast at hfailures
    exact h.stored.opened.2 (by omega)
  closes := h.accounts.closed
  single := h.single
  probes i hguard hhalf := check_isDenied_iff.2 (.inr ⟨hhalf, h.guarded i hguard⟩)

/-- A breaker is safe in every run in which no record is written from an overtaken view. -/
theorem safe_of_inTime (clock : ℤ) (events : List Event)
    (hmeets : RunMeets Breaker.step InTime (start clock) events) :
    (runFrom Breaker.step (start clock) events).Safe :=
  Sound.safe (runFrom_invariant_of_meets Breaker.step (C := InTime)
    (fun _ _ htime h => Sound.step h htime) (Sound.start clock) hmeets)

/-! ## Examples of runs -/

/-- A reader that is admitted records a violation. -/
def violates (i : ℕ) : List Event := [.startViolation i, .readViolation i, .write i]

/-- A reader is admitted, succeeds, and gives its guard back. -/
def succeeds (i : ℕ) : List Event := [.check i, .readSuccess i, .write i, .dropGuard i]

/-- Four readers are admitted, and three of them open the circuit until 30000. -/
def openingRun : List Event :=
  [.check 0, .check 1, .check 2, .check 3] ++ violates 0 ++ violates 1 ++ violates 2

/-- The circuit opens, waits, and is closed by three probes. -/
theorem recovery_is_safe :
    (runFrom Breaker.step (start 0)
      (openingRun ++ [.tick 30000] ++ succeeds 4 ++ succeeds 5 ++ succeeds 6)).Safe :=
  safe_of_inTime 0 (openingRun ++ [.tick 30000] ++ succeeds 4 ++ succeeds 5 ++ succeeds 6)
    (by decide +kernel)

/-- While a probe reads, the fourth reader opens the circuit anew, until 60000.  The probe
then succeeds. -/
def lateSuccessRun : List Event :=
  openingRun ++ [.tick 30000, .check 4] ++ violates 3 ++
    [.readSuccess 4, .write 4, .dropGuard 4]

/-- Three readers read the row before any of them writes it. -/
def lostViolationsRun : List Event :=
  [.check 0, .check 1, .check 2, .startViolation 0, .startViolation 1, .startViolation 2,
    .readViolation 0, .readViolation 1, .readViolation 2, .write 0, .write 1, .write 2]

/-- A reader reads the row while the circuit is closed, and writes it back when the circuit
has been open and has waited. -/
def staleClosedRun : List Event :=
  [.check 0, .check 1, .check 2, .check 3, .readSuccess 3] ++ violates 0 ++ violates 1 ++
    violates 2 ++ [.tick 30000, .write 3]

/-- A success lets a check through before the retry time, violations that overlap leave the
circuit closed, and one success closes a circuit that was open. -/
theorem overtaken_records_are_unsafe :
    ¬(runFrom Breaker.step (start 0) lateSuccessRun).Safe ∧
    ¬(runFrom Breaker.step (start 0) lostViolationsRun).Safe ∧
    ¬(runFrom Breaker.step (start 0) staleClosedRun).Safe := by
  refine ⟨fun hsafe => ?_, fun hsafe => ?_, fun hsafe => ?_⟩
  · have hdenied := hsafe.waits 60000 (by decide +kernel) (by decide +kernel)
    have hallowed : (runFrom Breaker.step (start 0) lateSuccessRun).answer.1.isDenied = false := by
      decide +kernel
    rw [hallowed] at hdenied
    cases hdenied
  · have hrecords : (runFrom Breaker.step (start 0) lostViolationsRun).records =
        [.violation none, .violation none, .violation none] := by decide +kernel
    have hopened := hsafe.opens none none none [] hrecords
    have hclosed : (runFrom Breaker.step (start 0) lostViolationsRun).stored.circuitStatus =
        .closed := by decide +kernel
    rw [hclosed] at hopened
    cases hopened
  · have hrecords : (runFrom Breaker.step (start 0) staleClosedRun).records =
        [.success, .violation (some 30000), .violation none, .violation none] := by
      decide +kernel
    have hclosed : (runFrom Breaker.step (start 0) staleClosedRun).stored.circuitStatus =
        .closed := by decide +kernel
    have hthree := (hsafe.closes hclosed [.success] 30000 _ hrecords).length_le
    simp at hthree

end Breaker

end ChainworksForge.HotRead
