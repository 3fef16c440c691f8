import ChainworksForge.Queue.Database
import ChainworksForge.Support.Runs

/-!
# Notifications of sustained backpressure

Every refresh of the queue stores a snapshot.  Two snapshots of high pressure in a row
make the backpressure active, two of low pressure in a row make it clear again, and a
snapshot between the two thresholds returns to the last confirmed state.  A
notification is given when a pending state is confirmed; the condition looks at the
state before the snapshot and at nothing older.

One snapshot of high pressure undoes the confirmation of the active state when it
follows one of low pressure: the state is then pending again, as if it had been clear.
-/

namespace ChainworksForge.Scheduler

open ChainworksForge.Support ChainworksForge.Queue

/-! ## Snapshots -/

def sustainedBackpressureThresholdMs : ℤ := 5 * 60000

def sustainedBackpressureClearMs : ℤ := 2 * 60000

/-- A snapshot goes stale a minute after it was taken. -/
def staleAfterMs : ℤ := 60000

inductive BackpressureState where
  | clear
  | pendingActive
  | active
  | pendingClear
deriving DecidableEq

structure SchedulerQueueSummary where
  scope : Text
  scopeId : Text
  runId : Option Text
  stageExecutionId : Option Text
  providerFamily : Option Text
  topReason : Text
  queuedCount : ℤ
  oldestQueuedAgeMs : ℤ
  globalQueueDepth : ℤ
  staleAfterMs : ℤ
  updatedAt : Instant
deriving DecidableEq

structure SchedulerHealthSnapshot where
  queuedCount : ℤ
  oldestQueuedAgeMs : ℤ
  globalQueueDepth : ℤ
  sustainedBackpressureState : BackpressureState
  fireConsecutiveSnapshots : ℤ
  clearConsecutiveSnapshots : ℤ
  staleAfterMs : ℤ
  updatedAt : Instant
deriving DecidableEq

structure BackpressureHysteresis where
  state : BackpressureState
  fireConsecutiveSnapshots : ℤ
  clearConsecutiveSnapshots : ℤ
deriving DecidableEq

def pressureHigh (queuedCount oldestQueuedAgeMs : ℤ) : Bool :=
  queuedCount > 0 && oldestQueuedAgeMs ≥ sustainedBackpressureThresholdMs

def pressureClear (queuedCount oldestQueuedAgeMs : ℤ) : Bool :=
  queuedCount == 0 || oldestQueuedAgeMs < sustainedBackpressureClearMs

/-- The state before a snapshot; without one it is clear. -/
def previousState (previous : Option SchedulerHealthSnapshot) : BackpressureState :=
  (previous.map SchedulerHealthSnapshot.sustainedBackpressureState).getD .clear

def nextSustainedBackpressureState (previousSnapshot : Option SchedulerHealthSnapshot)
    (queuedCount oldestQueuedAgeMs : ℤ) : BackpressureHysteresis :=
  let previousFire :=
    (previousSnapshot.map SchedulerHealthSnapshot.fireConsecutiveSnapshots).getD 0
  let previousClear :=
    (previousSnapshot.map SchedulerHealthSnapshot.clearConsecutiveSnapshots).getD 0
  if pressureHigh queuedCount oldestQueuedAgeMs then
    let fire :=
      match previousState previousSnapshot with
      | .pendingActive | .active => min (previousFire + 1) 2
      | _ => 1
    ⟨if fire ≥ 2 then .active else .pendingActive, fire, 0⟩
  else if pressureClear queuedCount oldestQueuedAgeMs then
    match previousState previousSnapshot with
    | .active | .pendingClear =>
        let cleared := min (previousClear + 1) 2
        ⟨if cleared ≥ 2 then .clear else .pendingClear, 0, cleared⟩
    | _ => ⟨.clear, 0, 2⟩
  else
    match previousState previousSnapshot with
    | .active | .pendingClear => ⟨.active, 2, 0⟩
    | _ => ⟨.clear, 0, 0⟩

/-! ## Notifications -/

structure SchedulerBackpressureNotification where
  runId : Option Text
  stageExecutionId : Option Text
  providerFamily : Option Text
  topReason : Text
  queuedCount : ℤ
  oldestQueuedAgeMs : ℤ
  globalQueueDepth : ℤ
  state : BackpressureState
  updatedAt : Instant
  staleAfterMs : ℤ
deriving DecidableEq

def reasonPriority (reason : Text) : ℕ :=
  if reason = "provider_quota_wait".toList then 7
  else if reason = "xcode_mcp_capacity".toList then 6
  else if reason = "run_capacity".toList then 5
  else if reason = "provider_capacity".toList then 4
  else if reason = "global_capacity".toList then 3
  else if reason = "startup_recovery_backpressure".toList then 2
  else if reason = "db_writer_capacity".toList then 1
  else 0

def scopePriority (scope : Text) : ℕ :=
  if scope = "stage".toList then 2 else if scope = "run".toList then 1 else 0

/-- The order in which summaries are preferred; a smaller scope identifier wins. -/
def compareSummaries (left right : SchedulerQueueSummary) : Ordering :=
  (compare (reasonPriority left.topReason) (reasonPriority right.topReason)).then
    ((compare left.oldestQueuedAgeMs right.oldestQueuedAgeMs).then
      ((compare left.queuedCount right.queuedCount).then
        ((compare (scopePriority left.scope) (scopePriority right.scope)).then
          (compare right.scopeId left.scopeId))))

/-- The last of the preferred summaries. -/
def selectNotificationSummary (summaries : List SchedulerQueueSummary) :
    Option SchedulerQueueSummary :=
  summaries.foldl (fun best summary =>
    match best with
    | none => some summary
    | some kept =>
        if compareSummaries kept summary = .gt then some kept else some summary) none

def backpressureNotificationFromParts (snapshot : SchedulerHealthSnapshot)
    (summary : Option SchedulerQueueSummary) : SchedulerBackpressureNotification where
  runId := summary.bind SchedulerQueueSummary.runId
  stageExecutionId := summary.bind SchedulerQueueSummary.stageExecutionId
  providerFamily := summary.bind SchedulerQueueSummary.providerFamily
  topReason := (summary.map SchedulerQueueSummary.topReason).getD "clear".toList
  queuedCount := (summary.map SchedulerQueueSummary.queuedCount).getD snapshot.queuedCount
  oldestQueuedAgeMs := snapshot.oldestQueuedAgeMs
  globalQueueDepth := snapshot.globalQueueDepth
  state := snapshot.sustainedBackpressureState
  updatedAt := snapshot.updatedAt
  staleAfterMs := snapshot.staleAfterMs

def notificationForStateTransition (previousState : BackpressureState)
    (snapshot : SchedulerHealthSnapshot) (summaries : List SchedulerQueueSummary) :
    Option SchedulerBackpressureNotification :=
  let crossedNotificationBoundary :=
    (snapshot.sustainedBackpressureState = .active ∧ previousState = .pendingActive ∧
      snapshot.fireConsecutiveSnapshots ≥ 2) ∨
    (snapshot.sustainedBackpressureState = .clear ∧ previousState = .pendingClear ∧
      snapshot.clearConsecutiveSnapshots ≥ 2)
  if crossedNotificationBoundary then
    some (backpressureNotificationFromParts snapshot
      (selectNotificationSummary summaries))
  else none

/-! ## A sequence of observations -/

/-- What a refresh finds in the queue. -/
structure Observation where
  queuedCount : ℤ
  oldestQueuedAgeMs : ℤ
  summaries : List SchedulerQueueSummary
  now : Instant

/-- The latest snapshot, and the notifications given so far. -/
structure Monitor where
  latest : Option SchedulerHealthSnapshot
  emitted : List SchedulerBackpressureNotification

namespace Monitor

def initial : Monitor := ⟨none, []⟩

def state (monitor : Monitor) : BackpressureState := previousState monitor.latest

/-- One refresh: a new snapshot, and its notification. -/
def observe (monitor : Monitor) (seen : Observation) : Monitor :=
  let hysteresis := nextSustainedBackpressureState monitor.latest seen.queuedCount
    seen.oldestQueuedAgeMs
  let snapshot : SchedulerHealthSnapshot := {
    queuedCount := seen.queuedCount
    oldestQueuedAgeMs := seen.oldestQueuedAgeMs
    globalQueueDepth := seen.queuedCount
    sustainedBackpressureState := hysteresis.state
    fireConsecutiveSnapshots := hysteresis.fireConsecutiveSnapshots
    clearConsecutiveSnapshots := hysteresis.clearConsecutiveSnapshots
    staleAfterMs := Scheduler.staleAfterMs
    updatedAt := seen.now }
  { latest := some snapshot
    emitted := monitor.emitted ++
      (notificationForStateTransition monitor.state snapshot seen.summaries).toList }

def run (observations : List Observation) : Monitor :=
  runFrom observe initial observations

/-- The states that the notifications announce. -/
def announced (monitor : Monitor) : List BackpressureState :=
  monitor.emitted.map SchedulerBackpressureNotification.state

end Monitor

/-! ## The automaton of the states -/

inductive Pressure where
  | high
  | between
  | low
deriving DecidableEq

def Observation.pressure (seen : Observation) : Pressure :=
  if pressureHigh seen.queuedCount seen.oldestQueuedAgeMs then .high
  else if pressureClear seen.queuedCount seen.oldestQueuedAgeMs then .low
  else .between

/-- The state after an observation, with its counters. -/
def BackpressureState.hysteresis : BackpressureState → Pressure → BackpressureHysteresis
  | .pendingActive, .high | .active, .high => ⟨.active, 2, 0⟩
  | .clear, .high | .pendingClear, .high => ⟨.pendingActive, 1, 0⟩
  | .active, .between | .pendingClear, .between => ⟨.active, 2, 0⟩
  | .clear, .between | .pendingActive, .between => ⟨.clear, 0, 0⟩
  | .active, .low => ⟨.pendingClear, 0, 1⟩
  | .clear, .low | .pendingActive, .low | .pendingClear, .low => ⟨.clear, 0, 2⟩

def BackpressureState.after (state : BackpressureState) (pressure : Pressure) :
    BackpressureState :=
  (state.hysteresis pressure).state

theorem pressure_eq_high_iff {seen : Observation} :
    seen.pressure = .high ↔
      pressureHigh seen.queuedCount seen.oldestQueuedAgeMs = true := by
  rw [Observation.pressure]
  split_ifs with hhigh hlow <;> simp [hhigh]

theorem of_after_eq_pendingActive {state : BackpressureState} {pressure : Pressure}
    (h : state.after pressure = .pendingActive) :
    pressure = .high ∧ (state = .clear ∨ state = .pendingClear) := by
  cases state <;> cases pressure <;>
    first | exact ⟨rfl, .inl rfl⟩ | exact ⟨rfl, .inr rfl⟩ | cases h

/-- What the step from a state to the next announces. -/
def announces : BackpressureState → BackpressureState → List BackpressureState
  | .pendingActive, .active => [.active]
  | .pendingClear, .clear => [.clear]
  | _, _ => []

/-- The counters that belong to a state. -/
structure CountersFit (state : BackpressureState) (fire cleared : ℤ) : Prop where
  pendingActive : state = .pendingActive → fire = 1
  active : state = .active → fire = 2 ∧ cleared = 0
  pendingClear : state = .pendingClear → cleared = 1

theorem countersFit_hysteresis (state : BackpressureState) (pressure : Pressure) :
    CountersFit (state.hysteresis pressure).state
      (state.hysteresis pressure).fireConsecutiveSnapshots
      (state.hysteresis pressure).clearConsecutiveSnapshots := by
  cases state <;> cases pressure <;> constructor <;> decide

namespace Monitor

/-- The counters of the latest snapshot are those of its state. -/
def Counted (monitor : Monitor) : Prop :=
  CountersFit monitor.state
    ((monitor.latest.map SchedulerHealthSnapshot.fireConsecutiveSnapshots).getD 0)
    ((monitor.latest.map SchedulerHealthSnapshot.clearConsecutiveSnapshots).getD 0)

theorem Counted.next_eq {monitor : Monitor} (h : monitor.Counted) (seen : Observation) :
    nextSustainedBackpressureState monitor.latest seen.queuedCount
      seen.oldestQueuedAgeMs = monitor.state.hysteresis seen.pressure := by
  obtain ⟨hpendingActive, hactive, hpendingClear⟩ := h
  have hprevious : previousState monitor.latest = monitor.state := rfl
  cases hstate : monitor.state with
  | clear =>
      simp only [nextSustainedBackpressureState, Observation.pressure, hprevious, hstate]
      split_ifs <;> simp_all [BackpressureState.hysteresis]
  | pendingActive =>
      simp only [nextSustainedBackpressureState, Observation.pressure, hprevious, hstate,
        hpendingActive hstate]
      split_ifs <;> simp_all [BackpressureState.hysteresis]
  | active =>
      simp only [nextSustainedBackpressureState, Observation.pressure, hprevious, hstate,
        hactive hstate]
      split_ifs <;> simp_all [BackpressureState.hysteresis]
  | pendingClear =>
      simp only [nextSustainedBackpressureState, Observation.pressure, hprevious, hstate,
        hpendingClear hstate]
      split_ifs <;> simp_all [BackpressureState.hysteresis]

/-- An observation moves the monitor as the automaton does. -/
theorem Counted.observe {monitor : Monitor} (h : monitor.Counted) (seen : Observation) :
    (monitor.observe seen).Counted ∧
      (monitor.observe seen).state = monitor.state.after seen.pressure ∧
      (monitor.observe seen).announced = monitor.announced ++
        announces monitor.state (monitor.state.after seen.pressure) := by
  have hnext := h.next_eq seen
  have hcounted : (monitor.observe seen).Counted := by
    rw [Monitor.observe, hnext]
    exact countersFit_hysteresis monitor.state seen.pressure
  have hstate : (monitor.observe seen).state = monitor.state.after seen.pressure := by
    rw [Monitor.observe, hnext]
    rfl
  refine ⟨hcounted, hstate, ?_⟩
  rw [Monitor.announced, Monitor.observe, hnext, List.map_append]
  refine congrArg (monitor.announced ++ ·) ?_
  cases monitor.state <;> cases seen.pressure <;> rfl

theorem run_concat (observations : List Observation) (seen : Observation) :
    run (observations ++ [seen]) = (run observations).observe seen :=
  runFrom_concat observe initial observations seen

theorem run_counted (observations : List Observation) : (run observations).Counted :=
  runFrom_invariant observe (fun _ seen h => (h.observe seen).1)
    (by constructor <;> intro h <;> cases h) observations

theorem run_state_concat (observations : List Observation) (seen : Observation) :
    (run (observations ++ [seen])).state =
      (run observations).state.after seen.pressure := by
  rw [run_concat]
  exact ((run_counted observations).observe seen).2.1

theorem run_announced_concat (observations : List Observation) (seen : Observation) :
    (run (observations ++ [seen])).announced = (run observations).announced ++
      announces (run observations).state
        ((run observations).state.after seen.pressure) := by
  rw [run_concat]
  exact ((run_counted observations).observe seen).2.2

/-- The backpressure has been confirmed and not taken back. -/
def IsConfirmed (monitor : Monitor) : Prop :=
  monitor.state = .active ∨ monitor.state = .pendingClear

/-- The last notification before a confirmed state is an active one. -/
theorem last_of_confirmed {observations : List Observation}
    (h : (run observations).IsConfirmed) :
    (run observations).announced.getLast? = some .active := by
  induction observations using List.reverseRecOn with
  | nil => rcases h with h | h <;> cases h
  | append_singleton observations seen ih =>
      rw [IsConfirmed, run_state_concat] at h
      rw [run_announced_concat]
      rw [IsConfirmed] at ih
      cases hstate : (run observations).state <;> cases hpressure : seen.pressure <;>
        rw [hstate, hpressure] at h <;> rw [hstate] at ih <;>
        simp_all [BackpressureState.after, BackpressureState.hysteresis, announces]

end Monitor

/-! ## When the notifications alternate -/

/-- The announcement that is due after another one. -/
def BackpressureState.opposite : BackpressureState → BackpressureState
  | .active => .clear
  | _ => .active

/-- The announcements alternate, beginning with the given one. -/
def Alternates : BackpressureState → List BackpressureState → Prop
  | _, [] => True
  | due, state :: rest => state = due ∧ Alternates due.opposite rest

theorem alternates_concat {due state : BackpressureState}
    {announced : List BackpressureState} :
    Alternates due (announced ++ [state]) ↔ Alternates due announced ∧
      state = announced.getLast?.elim due BackpressureState.opposite := by
  induction announced generalizing due with
  | nil => simp [Alternates]
  | cons first rest ih =>
      rw [List.cons_append, Alternates, Alternates, ih, and_assoc]
      refine and_congr_right ?_
      rintro rfl
      refine and_congr_right fun _ => ?_
      cases hlast : rest.getLast? with
      | none =>
          rw [List.getLast?_eq_none_iff] at hlast
          simp [hlast]
      | some last => simp [List.getLast?_cons, hlast]

theorem opposite_eq_active {state : BackpressureState} (h : state ≠ .active) :
    state.opposite = .active := by
  cases state <;> first | rfl | exact absurd rfl h

/-- The notifications so far alternate, and a clear state has been announced. -/
structure InOrder (monitor : Monitor) : Prop where
  alternates : Alternates .active monitor.announced
  settled : monitor.state = .clear → monitor.announced.getLast? ≠ some .active

/-- An observation keeps the order unless a pending state has forgotten an active
one. -/
theorem inOrder_concat {observations : List Observation} (seen : Observation)
    (h : InOrder (Monitor.run observations))
    (hpending : (Monitor.run observations).state = .pendingActive →
      (Monitor.run observations).announced.getLast? ≠ some .active) :
    InOrder (Monitor.run (observations ++ [seen])) := by
  have hlast : (Monitor.run observations).IsConfirmed →
      (Monitor.run observations).announced.getLast? = some .active :=
    Monitor.last_of_confirmed
  obtain ⟨halternates, hsettled⟩ := h
  have hdue : (Monitor.run observations).announced.getLast? ≠ some .active →
      BackpressureState.active =
        (Monitor.run observations).announced.getLast?.elim .active
          BackpressureState.opposite := by
    intro hne
    cases hget : (Monitor.run observations).announced.getLast? with
    | none => rfl
    | some last =>
        rw [hget] at hne
        exact (opposite_eq_active fun heq => hne (congrArg some heq)).symm
  constructor
  · rw [Monitor.run_announced_concat]
    cases hstate : (Monitor.run observations).state <;> cases seen.pressure <;>
      simp only [BackpressureState.after, BackpressureState.hysteresis, announces,
        List.append_nil] <;> try exact halternates
    · exact alternates_concat.2 ⟨halternates, hdue (hpending hstate)⟩
    · refine alternates_concat.2 ⟨halternates, ?_⟩
      rw [hlast (Or.inr hstate)]
      rfl
  · intro hclear
    rw [Monitor.run_state_concat] at hclear
    rw [Monitor.run_announced_concat, hclear]
    cases hstate : (Monitor.run observations).state with
    | clear =>
        simp only [announces, List.append_nil]
        exact hsettled hstate
    | pendingActive =>
        simp only [announces, List.append_nil]
        exact hpending hstate
    | active =>
        rw [hstate] at hclear
        cases hpressure : seen.pressure <;> rw [hpressure] at hclear <;> cases hclear
    | pendingClear => simp [announces]

/-- The notifications of a sequence of observations alternate, and none is left open when
the state is clear, exactly when no high pressure is seen between the two snapshots that
would confirm a clear state, unless it is the last thing seen. -/
theorem notifications_alternate_iff (observations : List Observation) :
    (∀ seen, seen <+: observations → InOrder (Monitor.run seen)) ↔
      ∀ earlier seen next later, observations = earlier ++ seen :: next :: later →
        (Monitor.run earlier).state = .pendingClear →
          pressureHigh seen.queuedCount seen.oldestQueuedAgeMs = false := by
  constructor
  · intro horder earlier seen next later hsplit hpending
    by_contra hhigh
    have hpressure : seen.pressure = .high := pressure_eq_high_iff.2 (by simpa using hhigh)
    have hlast := Monitor.last_of_confirmed (Or.inr hpending)
    have hstate : (Monitor.run (earlier ++ [seen])).state = .pendingActive := by
      rw [Monitor.run_state_concat, hpending, hpressure]
      rfl
    have hannounced : (Monitor.run (earlier ++ [seen])).announced =
        (Monitor.run earlier).announced := by
      rw [Monitor.run_announced_concat, hpending, hpressure]
      exact List.append_nil _
    have hnext := horder (earlier ++ [seen] ++ [next]) ⟨later, by simp [hsplit]⟩
    obtain ⟨halternates, hsettled⟩ := hnext
    rw [Monitor.run_announced_concat, hstate, hannounced] at halternates hsettled
    rw [Monitor.run_state_concat, hstate] at hsettled
    cases hp : next.pressure with
    | high =>
        rw [hp] at halternates
        have hdue := (alternates_concat.1 halternates).2
        rw [hlast] at hdue
        cases hdue
    | between =>
        rw [hp] at hsettled
        rw [show
          announces .pendingActive (BackpressureState.after .pendingActive .between) = [] from
          rfl, List.append_nil] at hsettled
        exact hsettled rfl hlast
    | low =>
        rw [hp] at hsettled
        rw [show announces .pendingActive (BackpressureState.after .pendingActive .low) = [] from
          rfl, List.append_nil] at hsettled
        exact hsettled rfl hlast
  · intro hcondition
    induction observations using List.reverseRecOn with
    | nil =>
        intro seen hseen
        rw [List.prefix_nil.1 hseen]
        exact ⟨trivial, by simp [Monitor.run, Monitor.announced, Monitor.initial]⟩
    | append_singleton observations last ih =>
        have hbefore := ih fun earlier seen next later hsplit => hcondition earlier seen
          next (later ++ [last]) (by simp [hsplit])
        intro seen hseen
        rcases List.prefix_concat_iff.1 hseen with rfl | hseen
        · apply inOrder_concat last (hbefore observations List.prefix_rfl)
          intro hstate
          -- The observation that made the state pending was not made in a state that
          -- was pending already; it found a clear one.
          rcases List.eq_nil_or_concat observations with rfl | ⟨front, first, rfl⟩
          · cases hstate
          · rw [List.concat_eq_append] at *
            rw [Monitor.run_state_concat] at hstate
            obtain ⟨hhigh, hclear | hpending⟩ := of_after_eq_pendingActive hstate
            · have hnone : announces .clear
                  (BackpressureState.after .clear first.pressure) = [] := by
                rw [hhigh]
                rfl
              rw [Monitor.run_announced_concat, hclear, hnone, List.append_nil]
              exact (hbefore front (List.prefix_append _ _)).settled hclear
            · have hlow := hcondition front first last [] (by simp) hpending
              rw [pressure_eq_high_iff, hlow] at hhigh
              cases hhigh
        · exact hbefore seen hseen

/-! ## An active state that is announced twice -/

/-- An observation with the given age of the oldest item. -/
def sampleObservation (ageMs : ℤ) : Observation :=
  ⟨1, ageMs, [], ⟨0, []⟩⟩

/-- One snapshot of low pressure between two spells of high pressure makes the second
spell announced as active again, with no clear announcement in between. -/
theorem active_is_announced_twice :
    ¬∀ seen, seen <+: [300000, 300000, 0, 300000, 300000].map sampleObservation →
      InOrder (Monitor.run seen) := by
  intro horder
  have halternates := (horder _ List.prefix_rfl).alternates
  exact absurd halternates.2.1 (by decide)

end ChainworksForge.Scheduler
