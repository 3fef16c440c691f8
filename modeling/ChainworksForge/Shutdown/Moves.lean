import ChainworksForge.Shutdown.Dispatch

/-!
# What a dispatcher can do in one step

Every step of a dispatcher either leaves the system or is one of the moves below.  The
invariants of the following modules are read off the moves and never off the steps.
-/

namespace ChainworksForge.Shutdown

open ChainworksForge.Support

variable {sys sys' : System} {i : ℕ} {d : Dispatcher} {signal : PlannedSignalDetail}
  {world : World}

/-- The session and epoch of a signal. -/
def PlannedSignalDetail.pair (signal : PlannedSignalDetail) : Text × ℤ :=
  (signal.key.providerSessionId, signal.key.shutdownEpoch)

/-- No graceful signal of the pair is planned, claimed or issued. -/
def GracefulSettled (signals : Signals) (pair : Text × ℤ) : Prop :=
  hasUnobservedGracefulSignal signals pair.1 pair.2 = false

/-- A signal may go past the kill guard. -/
def MayPass (signals : Signals) (signal : PlannedSignalDetail) : Prop :=
  signal.key.signalKind = .kill → GracefulSettled signals signal.pair

/-- What a dispatcher becomes when it gives its first signal up. -/
def IsAdvanced (d d' : Dispatcher) : Prop :=
  d'.batch = d.batch.tail ∧ d'.phase = .next

/-- What a dispatcher becomes when the row of its first signal did not fit the process. -/
def IsRefused (d d' : Dispatcher) : Prop :=
  IsAdvanced d d' ∨ d'.batch = d.batch ∧ d'.phase = .ambiguous

/-- Why a row may be marked as not fitting its process. -/
def MayRefuse (d : Dispatcher) (signal : PlannedSignalDetail) (world : World) : Prop :=
  d.phase = .failed ∨ signal.processId ≤ 0 ∨ world.alive = false ∨ world.identity ≠ .matched

/-- The moves of a dispatcher with its first signal. -/
inductive Moves (sys : System) (i : ℕ) (d : Dispatcher) (signal : PlannedSignalDetail)
    (world : World) : System → Prop where
  | giveUp (d' : Dispatcher) (hd' : IsAdvanced d d') :
      Moves sys i d signal world (sys.setDispatcher i (some d'))
  | pass (hphase : d.phase = .next) (hpass : MayPass sys.signals signal) :
      Moves sys i d signal world (sys.setDispatcher i (some { d with phase := .guarded }))
  | probe (hphase : d.phase = .guarded) (hpid : 0 < signal.processId) :
      Moves sys i d signal world (sys.setDispatcher i (some { d with phase := .alive }))
  | verify (hphase : d.phase = .alive) :
      Moves sys i d signal world
        ({ sys with acts := sys.acts ++ [Act.verified i signal] }.setDispatcher i
          (some { d with phase := .verified }))
  | refuse (signals : Signals) (errorCode : Option Text) (d' : Dispatcher)
      (hsignals : signals = sys.signals ∨
        signals = (markSignalIdentityMismatch sys.signals signal.key errorCode).1)
      (hmay : MayRefuse d signal world) (hd' : IsRefused d d') :
      Moves sys i d signal world ({ sys with signals := signals }.setDispatcher i (some d'))
  | hold (fates : ProcessFates) (d' : Dispatcher) (hd' : IsAdvanced d d') :
      Moves sys i d signal world ({ sys with fates := fates }.setDispatcher i (some d'))
  | claim (hphase : d.phase = .verified)
      (hclaimed : (markSignalDispatching sys.signals signal.key).2 = true) :
      Moves sys i d signal world
        ({ sys with signals := (markSignalDispatching sys.signals signal.key).1
          }.setDispatcher i (some { d with phase := .claimed }))
  | send (hphase : d.phase = .claimed) :
      Moves sys i d signal world
        ({ sys with acts := sys.acts ++ [Act.sent i signal] }.setDispatcher i
          (some { d with phase := .sent }))
  | miss (hphase : d.phase = .claimed) :
      Moves sys i d signal world (sys.setDispatcher i (some { d with phase := .failed }))
  | issue (nowMs : ℤ) (hphase : d.phase = .sent) :
      Moves sys i d signal world
        ({ sys with signals := (markSignalIssued sys.signals signal.key nowMs).1
          }.setDispatcher i
            (some { d with phase := .issued, dispatched := d.dispatched + 1 }))
  | observe (signals : Signals) (nowMs : ℤ) (d' : Dispatcher) (hphase : d.phase = .issued)
      (hsignals : signals = sys.signals ∨
        signals = (markSignalObserved sys.signals signal.key nowMs).1)
      (hgone : world.alive = false) (hd' : IsAdvanced d d') :
      Moves sys i d signal world ({ sys with signals := signals }.setDispatcher i (some d'))

/-! ## Every step is a move -/

theorem isAdvanced_advance (d : Dispatcher) : IsAdvanced d d.advance := ⟨rfl, rfl⟩

/-- A statement that may fail changes the rows or leaves them. -/
theorem write_eq (sys : System) (world : World) (statement : Signals → Signals × Bool) :
    ∃ signals, sys.write world statement = { sys with signals := signals } ∧
      (signals = sys.signals ∨ signals = (statement sys.signals).1) := by
  by_cases hdb : world.dbOk = true
  · exact ⟨_, if_pos hdb, .inr rfl⟩
  · exact ⟨sys.signals, if_neg hdb, .inl rfl⟩

theorem moves_of_refused (errorCode : Option Text) {d' : Dispatcher}
    (hmay : MayRefuse d signal world) (hd' : IsRefused d d') :
    Moves sys i d signal world ((sys.write world fun signals =>
      markSignalIdentityMismatch signals signal.key errorCode).setDispatcher i (some d')) := by
  obtain ⟨signals, hwrite, hsignals⟩ := write_eq sys world
    fun signals => markSignalIdentityMismatch signals signal.key errorCode
  rw [hwrite]
  exact .refuse signals errorCode d' hsignals hmay hd'

theorem stepNext_moves (hphase : d.phase = .next) :
    Moves sys i d signal world (sys.stepNext i d signal world) := by
  rw [System.stepNext]
  split
  · exact .giveUp _ (isAdvanced_advance d)
  next hguard =>
    refine .pass hphase fun hkill => ?_
    rw [not_and_or, not_or, not_or] at hguard
    exact Bool.eq_false_iff.2 (hguard.resolve_left (not_not_intro hkill)).2.2

theorem stepGuarded_moves (hphase : d.phase = .guarded) :
    Moves sys i d signal world (sys.stepGuarded i d signal world) := by
  rw [System.stepGuarded]
  split
  next hpid => exact moves_of_refused _ (.inr (.inl hpid)) (.inl (isAdvanced_advance d))
  next hpid =>
    split
    next hgone =>
      exact moves_of_refused _ (.inr (.inr (.inl (by simpa using hgone))))
        (.inl (isAdvanced_advance d))
    · exact .probe hphase (by omega)

theorem stepAlive_moves (hphase : d.phase = .alive) :
    Moves sys i d signal world (sys.stepAlive i d signal world) := by
  rw [System.stepAlive]
  split
  · exact .verify hphase
  next hidentity =>
    exact moves_of_refused _ (.inr (.inr (.inr (by rw [hidentity]; decide))))
      (.inr ⟨rfl, rfl⟩)
  next hidentity =>
    exact moves_of_refused _ (.inr (.inr (.inr (by rw [hidentity]; decide))))
      (.inr ⟨rfl, rfl⟩)

theorem stepVerified_moves (hphase : d.phase = .verified) :
    Moves sys i d signal world (sys.stepVerified i d signal world) := by
  rw [System.stepVerified]
  split
  next hclaimed => exact .claim hphase hclaimed.2
  · exact .giveUp _ (isAdvanced_advance d)

theorem stepClaimed_moves (hphase : d.phase = .claimed) :
    Moves sys i d signal world (sys.stepClaimed i d signal world) := by
  rw [System.stepClaimed]
  split
  · exact .send hphase
  · exact .miss hphase

theorem stepSent_moves (hphase : d.phase = .sent) :
    Moves sys i d signal world (sys.stepSent i d signal world) := by
  rw [System.stepSent]
  split
  · exact .issue _ hphase
  · exact .giveUp _ (isAdvanced_advance d)

theorem stepIssued_moves (hphase : d.phase = .issued) :
    Moves sys i d signal world (sys.stepIssued i d signal world) := by
  rw [System.stepIssued]
  split
  next hgone =>
    obtain ⟨signals, hwrite, hsignals⟩ := write_eq sys world
      fun signals => markSignalObserved signals signal.key world.nowMs
    rw [hwrite]
    exact .observe signals _ _ hphase hsignals (by simpa using hgone) (isAdvanced_advance d)
  · split
    · exact .giveUp _ ⟨rfl, rfl⟩
    · exact .giveUp _ (isAdvanced_advance d)

theorem stepSignal_moves : Moves sys i d signal world (sys.stepSignal i d signal world) := by
  rw [System.stepSignal]
  split
  next hphase => exact stepNext_moves hphase
  next hphase => exact stepGuarded_moves hphase
  next hphase => exact stepAlive_moves hphase
  next hphase => exact .hold _ _ (isAdvanced_advance d)
  next hphase => exact stepVerified_moves hphase
  next hphase => exact stepClaimed_moves hphase
  next hphase => exact stepSent_moves hphase
  next hphase => exact moves_of_refused _ (.inl hphase) (.inl (isAdvanced_advance d))
  next hphase => exact stepIssued_moves hphase

/-- A dispatcher has a first signal. -/
structure StandsAt (sys : System) (i : ℕ) (d : Dispatcher) (signal : PlannedSignalDetail) :
    Prop where
  running : sys.dispatchers i = some d
  head : d.batch.head? = some signal

/-- A step leaves the system or moves a dispatcher with its first signal. -/
theorem dispatchStep_cases (sys : System) (i : ℕ) (world : World) :
    sys.dispatchStep i world = sys ∨
      ∃ d signal, StandsAt sys i d signal ∧
        Moves sys i d signal world (sys.dispatchStep i world) := by
  rw [System.dispatchStep]
  split
  · exact .inl rfl
  next d hrunning =>
    split
    · exact .inl rfl
    next signal rest hbatch =>
      exact .inr ⟨d, signal, ⟨hrunning, by rw [hbatch, List.head?_cons]⟩, stepSignal_moves⟩

/-- Planning changes the rows only. -/
theorem planShutdown_eq (providerSessionId identity : Text) (epoch processId : ℤ)
    (baseline : Option Text) (gracefulOk killOk : Bool) :
    sys.planShutdown providerSessionId epoch processId identity baseline gracefulOk killOk =
      { sys with
        signals := (sys.planShutdown providerSessionId epoch processId identity baseline
          gracefulOk killOk).signals } := by
  rw [System.planShutdown]
  split
  · dsimp only
    split
    · rfl
    · rfl
  · rfl

end ChainworksForge.Shutdown
