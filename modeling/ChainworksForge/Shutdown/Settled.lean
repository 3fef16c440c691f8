import ChainworksForge.Shutdown.Lifecycle

/-!
# Settled graceful signals

The kill of a session and epoch waits until the graceful signal that was planned with it is
in a last state.  Once that is so, no statement changes it.
-/

namespace ChainworksForge.Shutdown

open ChainworksForge.Support

variable {signals signals' : Signals} {sys sys' : System} {i : ℕ} {d : Dispatcher}
  {signal : PlannedSignalDetail} {world : World} {pair : Text × ℤ}

/-! ## Settled pairs -/

/-- The graceful signal that is planned together with the kill. -/
def gracefulKey (pair : Text × ℤ) : SignalKey :=
  ⟨pair.1, pair.2, .graceful, 1⟩

/-- The key is the one of a graceful signal of the pair. -/
def IsGracefulOf (pair : Text × ℤ) (key : SignalKey) : Prop :=
  key.providerSessionId = pair.1 ∧ key.shutdownEpoch = pair.2 ∧ key.signalKind = .graceful

instance decidableIsGracefulOf (pair : Text × ℤ) (key : SignalKey) :
    Decidable (IsGracefulOf pair key) :=
  inferInstanceAs (Decidable (_ ∧ _))

theorem isGracefulOf_gracefulKey : IsGracefulOf pair (gracefulKey pair) := ⟨rfl, rfl, rfl⟩

theorem gracefulSettled_iff :
    GracefulSettled signals pair ↔ ∀ key row, IsGracefulOf pair key →
      signals.find key = some row → row.intentState.isUnobserved = false := by
  rw [GracefulSettled, hasUnobservedGracefulSignal, gracefulOf, List.any_eq_false]
  constructor
  · intro hsettled key row hkey hfind
    obtain ⟨hrow, rfl⟩ := signals.find_eq_some_iff.1 hfind
    exact Bool.eq_false_iff.2 (hsettled row (List.mem_filter.2 ⟨hrow, decide_eq_true hkey⟩))
  · intro hsettled row hrow
    obtain ⟨hrow, hkey⟩ := List.mem_filter.1 hrow
    exact Bool.eq_false_iff.1
      (hsettled row.key row (of_decide_eq_true hkey) (signals.find_of_mem hrow))

/-- The graceful signal of the pair was planned, and all its graceful signals are in a last
state. -/
structure GracefulDone (signals : Signals) (pair : Text × ℤ) : Prop where
  planned : ∃ row, signals.find (gracefulKey pair) = some row
  settled : GracefulSettled signals pair

/-- A claimed graceful signal is not in a last state. -/
theorem GracefulDone.not_dispatching {key : SignalKey} (hdone : GracefulDone signals pair)
    (hkey : IsGracefulOf pair key) : ¬IsDispatching signals key := by
  rintro ⟨row, hfind, hstate⟩
  have hlast := gracefulSettled_iff.1 hdone.settled key row hkey hfind
  rw [hstate] at hlast
  cases hlast

/-- Every kill has the graceful signal that was planned with it. -/
def KillsPlanned (signals : Signals) : Prop :=
  ∀ key row, signals.find key = some row → key.signalKind = .kill →
    ∃ graceful, signals.find (gracefulKey (key.providerSessionId, key.shutdownEpoch)) =
      some graceful

/-- The rows became others and no graceful signal was planned for a pair that had one. -/
structure KeepsDone (signals signals' : Signals) : Prop where
  follows : Follows signals signals'
  done : ∀ pair, GracefulDone signals pair → GracefulDone signals' pair
  killsPlanned : KillsPlanned signals → KillsPlanned signals'

theorem keepsDone_refl (signals : Signals) : KeepsDone signals signals :=
  ⟨follows_refl signals, fun _ => id, id⟩

theorem KeepsDone.trans {signals'' : Signals} (h : KeepsDone signals signals')
    (h' : KeepsDone signals' signals'') : KeepsDone signals signals'' :=
  ⟨h.follows.trans h'.follows, fun pair hdone => h'.done pair (h.done pair hdone),
    h'.killsPlanned ∘ h.killsPlanned⟩

/-- Without a new row, what is done stays done. -/
theorem keepsDone_of_follows (hfollows : Follows signals signals')
    (hold : ∀ key row, signals'.find key = some row → ∃ before, signals.find key = some before) :
    KeepsDone signals signals' where
  follows := hfollows
  done pair hdone := by
    obtain ⟨row, hfind⟩ := hdone.planned
    obtain ⟨row', hfind', -⟩ := hfollows.kept _ row hfind
    refine ⟨⟨row', hfind'⟩, gracefulSettled_iff.2 fun key after hkey hafter => ?_⟩
    obtain ⟨before, hbefore⟩ := hold key after hafter
    have hlast := gracefulSettled_iff.1 hdone.settled key before hkey hbefore
    obtain ⟨became, hbecame, hbecomes⟩ := hfollows.kept key before hbefore
    rw [hafter] at hbecame
    cases hbecame
    rw [hbecomes.eq_of_settled hlast]
    exact hlast
  killsPlanned hkills key row hfind hkind := by
    obtain ⟨before, hbefore⟩ := hold key row hfind
    obtain ⟨graceful, hgraceful⟩ := hkills key before hbefore hkind
    obtain ⟨graceful', hgraceful', -⟩ := hfollows.kept _ graceful hgraceful
    exact ⟨graceful', hgraceful'⟩

theorem keepsDone_moveSignal {key : SignalKey} {allowed : List IntentState}
    {state : IntentState} {written : Written}
    (hfollows : Follows signals (moveSignal signals key allowed state written).1) :
    KeepsDone signals (moveSignal signals key allowed state written).1 := by
  refine keepsDone_of_follows hfollows fun k row hfind => ?_
  rw [find_moveSignal, Option.map_eq_some_iff] at hfind
  obtain ⟨before, hbefore, -⟩ := hfind
  exact ⟨before, hbefore⟩

/-- A planned graceful signal of generation one is new only to a pair that had none. -/
theorem keepsDone_planGraceful {processId : ℤ} {identity : Text} {baseline : Option Text} :
    KeepsDone signals
      (insertSignalPlanned signals (gracefulKey pair) processId identity baseline) where
  follows := follows_insertSignalPlanned
  done pair' hdone := by
    obtain ⟨row, hfind⟩ := hdone.planned
    refine ⟨⟨row, find_insertSignalPlanned_of_some hfind⟩,
      gracefulSettled_iff.2 fun key after hkey hafter => ?_⟩
    obtain hbefore | ⟨rfl, -⟩ := find_insertSignalPlanned_eq_some hafter
    · exact gracefulSettled_iff.1 hdone.settled key after hkey hbefore
    · obtain rfl : pair = pair' := Prod.ext hkey.1 hkey.2.1
      rw [find_insertSignalPlanned_of_some hfind] at hafter
      cases hafter
      exact gracefulSettled_iff.1 hdone.settled _ row hkey hfind
  killsPlanned hkills key row hfind hkind := by
    obtain hbefore | ⟨rfl, -⟩ := find_insertSignalPlanned_eq_some hfind
    · obtain ⟨graceful, hgraceful⟩ := hkills key row hbefore hkind
      exact ⟨graceful, find_insertSignalPlanned_of_some hgraceful⟩
    · cases hkind

/-- A kill is planned after its graceful signal. -/
theorem keepsDone_planKill {processId : ℤ} {identity : Text} {baseline : Option Text}
    (hgraceful : ∃ row, signals.find (gracefulKey pair) = some row) :
    KeepsDone signals
      (insertSignalPlanned signals ⟨pair.1, pair.2, .kill, 1⟩ processId identity baseline)
      where
  follows := follows_insertSignalPlanned
  done pair' hdone := by
    obtain ⟨row, hfind⟩ := hdone.planned
    refine ⟨⟨row, find_insertSignalPlanned_of_some hfind⟩,
      gracefulSettled_iff.2 fun key after hkey hafter => ?_⟩
    obtain hbefore | ⟨rfl, -⟩ := find_insertSignalPlanned_eq_some hafter
    · exact gracefulSettled_iff.1 hdone.settled key after hkey hbefore
    · cases hkey.2.2
  killsPlanned hkills key row hfind hkind := by
    obtain hbefore | ⟨rfl, -⟩ := find_insertSignalPlanned_eq_some hfind
    · obtain ⟨graceful, hfound⟩ := hkills key row hbefore hkind
      exact ⟨graceful, find_insertSignalPlanned_of_some hfound⟩
    · obtain ⟨graceful, hfound⟩ := hgraceful
      exact ⟨graceful, find_insertSignalPlanned_of_some hfound⟩

theorem find_insertSignalPlanned_self (signals : Signals) (key : SignalKey) (processId : ℤ)
    (identity : Text) (baseline : Option Text) :
    ∃ row, (insertSignalPlanned signals key processId identity baseline).find key =
      some row := by
  cases hbefore : signals.find key with
  | some row => exact ⟨row, find_insertSignalPlanned_of_some hbefore⟩
  | none =>
      rw [insertSignalPlanned, Table.find_insertOrIgnore, hbefore, Option.none_or, if_pos rfl]
      exact ⟨_, rfl⟩

theorem keepsDone_planShutdown {providerSessionId identity : Text} {epoch processId : ℤ}
    {baseline : Option Text} {gracefulOk killOk : Bool} :
    KeepsDone sys.signals (sys.planShutdown providerSessionId epoch processId identity
      baseline gracefulOk killOk).signals := by
  have hgraceful : KeepsDone sys.signals (insertSignalPlanned sys.signals
      (gracefulKey (providerSessionId, epoch)) processId identity baseline) :=
    keepsDone_planGraceful
  rw [System.planShutdown]
  split
  · dsimp only
    split
    · exact hgraceful.trans (keepsDone_planKill (find_insertSignalPlanned_self _ _ _ _ _))
    · exact hgraceful
  · exact keepsDone_refl _

end ChainworksForge.Shutdown
