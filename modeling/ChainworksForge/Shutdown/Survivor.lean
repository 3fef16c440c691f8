import ChainworksForge.Shutdown.KillOrder

/-!
# A process that survives the graceful signal

The kill is held back until the graceful signal is in a last state, and while its process
answers, the graceful signal never comes to one: it waits to be sent, it is claimed, or it
is issued.  So the kill is for processes that are gone.
-/

namespace ChainworksForge.Shutdown

open ChainworksForge.Support

variable {sys sys' : System} {i j : ℕ} {d d' : Dispatcher} {signal : PlannedSignalDetail}
  {world : World} {key : SignalKey} {row : ShutdownSignalSideEffect} {pair : Text × ℤ}

/-! ## Failed sends -/

/-- A dispatcher that stands at a signal it failed to send has left its claim for good. -/
def FailedOrphaned (sys : System) : Prop :=
  ∀ i key, StandsIn sys .failed i key → ∃ row, Orphaned sys key row

/-- Only a failed send brings a dispatcher there. -/
theorem Moves.standsIn_failed (hat : StandsAt sys i d signal)
    (hmoves : Moves sys i d signal world sys') (hfailed : StandsIn sys' .failed j key) :
    StandsIn sys .failed j key ∨ d.phase = .claimed ∧ signal.key = key ∧
      sys' = sys.setDispatcher i (some { d with phase := .failed }) := by
  have hset {sys'' : System} {d' : Dispatcher}
      (hfailed : StandsIn (sys''.setDispatcher i (some d')) .failed j key)
      (hsame : sys''.dispatchers = sys.dispatchers) (hphase : d'.phase ≠ .failed) :
      StandsIn sys .failed j key := standsIn_of_phase_ne hsame hphase hfailed
  have hadvanced {d' : Dispatcher} (hd' : IsAdvanced d d') : d'.phase ≠ .failed :=
    hd'.2 ▸ Phase.noConfusion
  cases hmoves with
  | giveUp d' hd' => exact .inl (hset hfailed rfl (hadvanced hd'))
  | pass => exact .inl (hset hfailed rfl Phase.noConfusion)
  | probe => exact .inl (hset hfailed rfl Phase.noConfusion)
  | verify => exact .inl (hset hfailed rfl Phase.noConfusion)
  | refuse signals errorCode d' _ _ hd' =>
      have hphase : d'.phase ≠ .failed := by
        obtain hd' | ⟨-, hphase⟩ := hd'
        · exact hadvanced hd'
        · exact hphase ▸ Phase.noConfusion
      exact .inl (hset hfailed rfl hphase)
  | hold fates d' hd' => exact .inl (hset hfailed rfl (hadvanced hd'))
  | claim => exact .inl (hset hfailed rfl Phase.noConfusion)
  | send => exact .inl (hset hfailed rfl Phase.noConfusion)
  | miss hphase =>
      obtain hbefore | ⟨-, first, signal', hfirst, hhead, hkey, -⟩ :=
        standsIn_setDispatcher rfl hfailed
      · exact .inl hbefore
      · cases hfirst
        obtain rfl := Option.some.inj (hat.head.symm.trans hhead)
        exact .inr ⟨hphase, hkey, rfl⟩
  | issue => exact .inl (hset hfailed rfl Phase.noConfusion)
  | observe signals nowMs d' _ _ _ hd' => exact .inl (hset hfailed rfl (hadvanced hd'))

/-- A failed send leaves the row claimed. -/
theorem orphaned_of_failed (hclaims : KeyInvariant sys signal.key)
    (hat : StandsAt sys i d signal) (hphase : d.phase = .claimed) :
    ∃ row, Orphaned (sys.setDispatcher i (some { d with phase := .failed })) signal.key
      row := by
  have hworks : Works sys i signal.key := .inl ⟨d, signal, hat, rfl, hphase⟩
  obtain ⟨row, hfind, hstate⟩ := hclaims.row_of_works i hworks
  refine ⟨row, hfind, hstate, fun j hj => ?_⟩
  have hbefore : Works sys j signal.key :=
    works_of_phase_ne rfl Phase.noConfusion Phase.noConfusion hj
  obtain rfl := hclaims.works_unique j i hbefore hworks
  exact hj.elim (not_standsIn_of_set Phase.noConfusion)
    (not_standsIn_of_set Phase.noConfusion)

theorem FailedOrphaned.perform (horphans : FailedOrphaned sys)
    (hclaims : ∀ key, KeyInvariant sys key) (event : Event) :
    FailedOrphaned (perform sys event) := by
  intro j key hfailed
  have hkeep (hbefore : StandsIn sys .failed j key) :
      ∃ row, Orphaned (Shutdown.perform sys event) key row := by
    obtain ⟨row, horphaned⟩ := horphans j key hbefore
    exact ⟨row, (horphaned.perform event).1⟩
  have hsame {sys' : System} (hfailed : StandsIn sys' .failed j key)
      (hsame : sys'.dispatchers = sys.dispatchers) : StandsIn sys .failed j key :=
    (standsIn_congr hsame).1 hfailed
  cases event with
  | planShutdown =>
      rw [Shutdown.perform, planShutdown_eq] at hfailed
      exact hkeep (hsame hfailed rfl)
  | suppress => exact hkeep (hsame hfailed rfl)
  | setProcessFate => exact hkeep (hsame hfailed rfl)
  | startRecovery => exact hkeep (standsIn_startDispatcher Phase.noConfusion hfailed)
  | startScoped => exact hkeep (standsIn_startDispatcher Phase.noConfusion hfailed)
  | step i world =>
      obtain hsame | ⟨d, signal, hat, hmoves⟩ := dispatchStep_cases sys i world
      · exact hkeep (hsame ▸ hfailed)
      · obtain hbefore | ⟨hphase, rfl, hset⟩ := hmoves.standsIn_failed hat hfailed
        · exact hkeep hbefore
        · rw [Shutdown.perform, hset]
          exact orphaned_of_failed (hclaims signal.key) hat hphase
  | crash =>
      obtain hbefore | ⟨-, d', -, hset, -⟩ := standsIn_setDispatcher rfl hfailed
      · exact hkeep hbefore
      · cases hset

theorem failedOrphaned_start : FailedOrphaned System.start := by
  rintro i key ⟨d, signal, ⟨hrunning, -⟩, -⟩
  cases hrunning

/-! ## Positive process numbers -/

/-- The rows are about processes, not process groups. -/
def ProcessesPositive (signals : Signals) : Prop :=
  ∀ key row, signals.find key = some row → 0 < row.processId

/-- The process of a known signal has a positive number as well. -/
theorem IsKnown.pid_pos (hknown : IsKnown sys.signals signal)
    (hpositive : ProcessesPositive sys.signals) : 0 < signal.processId := by
  obtain ⟨-, row, hfind, hdetail⟩ := hknown
  exact hdetail ▸ hpositive _ row hfind

theorem ProcessesPositive.insertSignalPlanned {signals : Signals}
    (hpositive : ProcessesPositive signals) {processId : ℤ} {identity : Text}
    {baseline : Option Text} (hpid : 0 < processId) :
    ProcessesPositive (insertSignalPlanned signals key processId identity baseline) := by
  intro k row hfind
  obtain hbefore | ⟨-, rfl⟩ := find_insertSignalPlanned_eq_some hfind
  · exact hpositive k row hbefore
  · exact hpid

/-- Planning makes sure of the number, and no statement changes it. -/
theorem processesPositive_planShutdown (hpositive : ProcessesPositive sys.signals)
    (providerSessionId identity : Text) (epoch processId : ℤ) (baseline : Option Text)
    (gracefulOk killOk : Bool) :
    ProcessesPositive (sys.planShutdown providerSessionId epoch processId identity baseline
      gracefulOk killOk).signals := by
  rw [System.planShutdown]
  split
  next hvalid =>
    dsimp only
    split
    · exact (hpositive.insertSignalPlanned hvalid.1).insertSignalPlanned hvalid.1
    · exact hpositive.insertSignalPlanned hvalid.1
  · exact hpositive

theorem ProcessesPositive.moveSignal {signals : Signals} (hpositive : ProcessesPositive signals)
    {moved : SignalKey} {allowed : List IntentState} {state : IntentState}
    {written : Written} :
    ProcessesPositive (moveSignal signals moved allowed state written).1 := by
  intro k row hfind
  rw [find_moveSignal, Option.map_eq_some_iff] at hfind
  obtain ⟨before, hbefore, rfl⟩ := hfind
  split_ifs with hmoves
  · exact hpositive k before hbefore
  · exact hpositive k before hbefore

theorem ProcessesPositive.moves (hpositive : ProcessesPositive sys.signals)
    (hmoves : Moves sys i d signal world sys') : ProcessesPositive sys'.signals := by
  cases hmoves with
  | giveUp => exact hpositive
  | pass => exact hpositive
  | probe => exact hpositive
  | verify => exact hpositive
  | refuse signals errorCode d' hsignals =>
      obtain rfl | rfl := hsignals
      · exact hpositive
      · exact hpositive.moveSignal
  | hold => exact hpositive
  | claim => exact hpositive.moveSignal
  | send => exact hpositive
  | miss => exact hpositive
  | issue => exact hpositive.moveSignal
  | observe signals nowMs d' _ hsignals =>
      obtain rfl | rfl := hsignals
      · exact hpositive
      · exact hpositive.moveSignal

theorem ProcessesPositive.perform (hpositive : ProcessesPositive sys.signals) (event : Event) :
    ProcessesPositive (perform sys event).signals := by
  cases event with
  | planShutdown => exact processesPositive_planShutdown hpositive _ _ _ _ _ _ _
  | suppress => exact hpositive.moveSignal
  | setProcessFate => exact hpositive
  | startRecovery =>
      rw [Shutdown.perform, startDispatcher_signals]
      exact hpositive
  | startScoped =>
      rw [Shutdown.perform, startDispatcher_signals]
      exact hpositive
  | step i world =>
      obtain hsame | ⟨d, signal, -, hmoves⟩ := dispatchStep_cases sys i world
      · rw [Shutdown.perform, hsame]
        exact hpositive
      · exact hpositive.moves hmoves
  | crash => exact hpositive

/-! ## Processes that answer -/

/-- The row of the key, if it is there, is in no last state. -/
def StaysOpen (signals : Signals) (key : SignalKey) : Prop :=
  ∀ row, signals.find key = some row → row.intentState.isUnobserved = true

theorem StaysOpen.insertSignalPlanned {signals : Signals} (hopen : StaysOpen signals key)
    {planned : SignalKey} {processId : ℤ} {identity : Text} {baseline : Option Text} :
    StaysOpen (insertSignalPlanned signals planned processId identity baseline) key := by
  intro row hfind
  obtain hbefore | ⟨-, rfl⟩ := find_insertSignalPlanned_eq_some hfind
  · exact hopen row hbefore
  · rfl

/-- A statement that moves the row moves it to a state that is no last one. -/
theorem StaysOpen.moveSignal {signals : Signals} (hopen : StaysOpen signals key)
    {moved : SignalKey} {allowed : List IntentState} {state : IntentState} {written : Written}
    (hmoves : ∀ row, signals.find key = some row → key = moved → row.intentState ∈ allowed →
      state.isUnobserved = true) :
    StaysOpen (moveSignal signals moved allowed state written).1 key := by
  intro row hfind
  rw [find_moveSignal, Option.map_eq_some_iff] at hfind
  obtain ⟨before, hbefore, rfl⟩ := hfind
  split_ifs with hmoved
  · obtain ⟨-, rfl⟩ := signals.find_eq_some_iff.1 hbefore
    exact hmoves before hbefore hmoved.1 hmoved.2
  · exact hopen before hbefore

/-- Whoever asks for the process of the signal of the key finds it alive and matching, and
nobody gives the signal up as a duplicate. -/
def Survives (key : SignalKey) (sys : System) : Event → Prop
  | .suppress suppressed _ => suppressed ≠ key
  | .step i world => ∀ d signal, StandsAt sys i d signal → signal.key = key →
      world.alive = true ∧ world.identity = .matched
  | _ => True

/-- What is known in every state of a run, beside the order of the acts. -/
structure RunInvariant (sys : System) : Prop where
  order : OrderInvariant sys
  claims : ∀ key, KeyInvariant sys key
  orphans : FailedOrphaned sys
  positive : ProcessesPositive sys.signals

theorem RunInvariant.perform (hinvariant : RunInvariant sys) (event : Event) :
    RunInvariant (perform sys event) where
  order := hinvariant.order.perform event hinvariant.claims
  claims key := (hinvariant.claims key).perform event
  orphans := hinvariant.orphans.perform hinvariant.claims event
  positive := hinvariant.positive.perform event

theorem runInvariant_start : RunInvariant System.start where
  order := orderInvariant_start
  claims _ := keyInvariant_start
  orphans := failedOrphaned_start
  positive _ _ hfind := by cases hfind

theorem StaysOpen.moves (hopen : StaysOpen sys.signals key) (hinvariant : RunInvariant sys)
    (hat : StandsAt sys i d signal) (hmoves : Moves sys i d signal world sys')
    (hsurvives : signal.key = key → world.alive = true ∧ world.identity = .matched) :
    StaysOpen sys'.signals key := by
  cases hmoves with
  | giveUp => exact hopen
  | pass => exact hopen
  | probe => exact hopen
  | verify => exact hopen
  | refuse signals errorCode d' hsignals hmay =>
      obtain rfl | rfl := hsignals
      · exact hopen
      refine hopen.moveSignal fun row hfind hkey hallowed => ?_
      obtain ⟨halive, hmatched⟩ := hsurvives hkey.symm
      have hknown := hinvariant.order.known i d hat.running signal
        (List.mem_of_head? hat.head)
      obtain hfailed | hpid | hgone | hidentity := hmay
      · -- the row of a failed send is claimed, and the mark does not reach it
        obtain ⟨row', horphaned⟩ := hinvariant.orphans i key
          ⟨d, signal, hat, hkey.symm, hfailed⟩
        rw [horphaned.find] at hfind
        cases hfind
        rw [horphaned.dispatching] at hallowed
        exact absurd hallowed (by decide)
      · exact absurd (hknown.pid_pos hinvariant.positive) (not_lt.2 hpid)
      · exact absurd (halive.symm.trans hgone) (by decide)
      · exact absurd hmatched hidentity
  | hold => exact hopen
  | claim => exact hopen.moveSignal fun _ _ _ _ => rfl
  | send => exact hopen
  | miss => exact hopen
  | issue => exact hopen.moveSignal fun _ _ _ _ => rfl
  | observe signals nowMs d' _ hsignals hgone =>
      obtain rfl | rfl := hsignals
      · exact hopen
      · refine hopen.moveSignal fun row _ hkey _ => ?_
        exact absurd ((hsurvives hkey.symm).1.symm.trans hgone) (by decide)

theorem StaysOpen.perform (hopen : StaysOpen sys.signals key) (hinvariant : RunInvariant sys)
    {event : Event} (hsurvives : Survives key sys event) :
    StaysOpen (perform sys event).signals key := by
  cases event with
  | planShutdown =>
      rw [Shutdown.perform, System.planShutdown]
      split
      · dsimp only
        split
        · exact hopen.insertSignalPlanned.insertSignalPlanned
        · exact hopen.insertSignalPlanned
      · exact hopen
  | suppress => exact hopen.moveSignal fun _ _ hkey _ => absurd hkey.symm hsurvives
  | setProcessFate => exact hopen
  | startRecovery =>
      rw [Shutdown.perform, startDispatcher_signals]
      exact hopen
  | startScoped =>
      rw [Shutdown.perform, startDispatcher_signals]
      exact hopen
  | step i world =>
      obtain hsame | ⟨d, signal, hat, hmoves⟩ := dispatchStep_cases sys i world
      · rw [Shutdown.perform, hsame]
        exact hopen
      · exact hopen.moves hinvariant hat hmoves (hsurvives d signal hat)
  | crash => exact hopen

/-- While the process of the graceful signal of a session and epoch answers as itself, no
kill of that session and epoch is sent, whatever else happens. -/
theorem surviving_process_is_never_killed (pair : Text × ℤ) (events : List Event)
    (hsurvives : RunMeets perform (Survives (gracefulKey pair)) System.start events) :
    ∀ i signal, Act.sent i signal ∈ (runFrom perform System.start events).acts →
      signal.key.signalKind = .kill → signal.pair ≠ pair := by
  have hrun := runFrom_invariant_of_meets perform
    (P := fun sys => RunInvariant sys ∧ StaysOpen sys.signals (gracefulKey pair))
    (fun sys event hsurvives h => ⟨h.1.perform event, h.2.perform h.1 hsurvives⟩)
    ⟨runInvariant_start, fun _ hfind => by cases hfind⟩ hsurvives
  rintro i signal hsent hkill rfl
  have hdone := (kill_follows_settled_graceful events).1 i signal hsent hkill
  obtain ⟨row, hfind⟩ := hdone.planned
  have hlast := gracefulSettled_iff.1 hdone.settled _ row isGracefulOf_gracefulKey hfind
  exact absurd (hlast.symm.trans (hrun.2 row hfind)) (by decide)

theorem surviving_process_is_never_killed_one :
    RunMeets perform (Survives (gracefulKey onePair)) System.start
        (claimOne ++ [.step 0 goodWorld, .step 0 goodWorld]) ∧
      ∀ i signal, Act.sent i signal ∈ (runFrom perform System.start
          (claimOne ++ [.step 0 goodWorld, .step 0 goodWorld])).acts →
        signal.key.signalKind = .kill → signal.pair ≠ onePair := by
  have hsurvives : RunMeets perform (Survives (gracefulKey onePair)) System.start
      (claimOne ++ [.step 0 goodWorld, .step 0 goodWorld]) :=
    ⟨trivial, trivial, fun _ _ _ _ => ⟨rfl, rfl⟩, fun _ _ _ _ => ⟨rfl, rfl⟩,
      fun _ _ _ _ => ⟨rfl, rfl⟩, fun _ _ _ _ => ⟨rfl, rfl⟩, fun _ _ _ _ => ⟨rfl, rfl⟩,
      fun _ _ _ _ => ⟨rfl, rfl⟩, trivial⟩
  exact ⟨hsurvives, surviving_process_is_never_killed onePair
    (claimOne ++ [.step 0 goodWorld, .step 0 goodWorld]) hsurvives⟩

end ChainworksForge.Shutdown
