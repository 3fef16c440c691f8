import ChainworksForge.Shutdown.Moves

/-!
# A shutdown signal is sent at most once

Whatever the dispatchers do, in whatever order, and wherever they crash or lose the
database, the process of a planned signal receives the signal at most once.
-/

namespace ChainworksForge.Shutdown

open ChainworksForge.Support

/-- The act sends the signal of a key. -/
def Act.sends (act : Act) (key : SignalKey) : Bool :=
  match act with
  | .verified _ _ => false
  | .sent _ signal => signal.key = key

/-- How often the signal of a key was sent. -/
def System.sentCount (sys : System) (key : SignalKey) : ℕ :=
  sys.acts.countP fun act => act.sends key

/-- A dispatcher stands at the signal of a key in some phase. -/
def StandsIn (sys : System) (phase : Phase) (i : ℕ) (key : SignalKey) : Prop :=
  ∃ d signal, StandsAt sys i d signal ∧ signal.key = key ∧ d.phase = phase

/-- A dispatcher has claimed the signal of a key and has not recorded what came of it. -/
def Works (sys : System) (i : ℕ) (key : SignalKey) : Prop :=
  StandsIn sys .claimed i key ∨ StandsIn sys .sent i key

variable {sys sys' : System} {i j : ℕ} {d d' : Dispatcher} {signal : PlannedSignalDetail}
  {key : SignalKey} {phase : Phase} {world : World}

/-! ## Where the dispatchers stand after a step -/

/-- The rows and the acts say nothing of where a dispatcher stands. -/
theorem standsIn_congr (hsame : sys'.dispatchers = sys.dispatchers) :
    StandsIn sys' phase j key ↔ StandsIn sys phase j key := by
  constructor
  · rintro ⟨d', signal', ⟨hrunning, hhead⟩, hrest⟩
    exact ⟨d', signal', ⟨hsame ▸ hrunning, hhead⟩, hrest⟩
  · rintro ⟨d', signal', ⟨hrunning, hhead⟩, hrest⟩
    exact ⟨d', signal', ⟨hsame ▸ hrunning, hhead⟩, hrest⟩

/-- A dispatcher that stands somewhere after one was set stood there before, or is the one
that was set. -/
theorem standsIn_setDispatcher (hsame : sys'.dispatchers = sys.dispatchers)
    {next : Option Dispatcher} (hstands : StandsIn (sys'.setDispatcher i next) phase j key) :
    StandsIn sys phase j key ∨
      j = i ∧ ∃ d' signal', next = some d' ∧ d'.batch.head? = some signal' ∧
        signal'.key = key ∧ d'.phase = phase := by
  obtain ⟨d', signal', ⟨hrunning, hhead⟩, hkey, hphase⟩ := hstands
  by_cases hij : j = i
  · subst hij
    rw [System.setDispatcher_dispatchers_self] at hrunning
    exact .inr ⟨rfl, d', signal', hrunning, hhead, hkey, hphase⟩
  · rw [System.setDispatcher_dispatchers_of_ne _ _ _ hij] at hrunning
    exact .inl ((standsIn_congr hsame).1 ⟨d', signal', ⟨hrunning, hhead⟩, hkey, hphase⟩)

/-- Only the phase that a dispatcher is set to can be new. -/
theorem standsIn_of_phase_ne (hsame : sys'.dispatchers = sys.dispatchers)
    (hphase : d'.phase ≠ phase)
    (hstands : StandsIn (sys'.setDispatcher i (some d')) phase j key) :
    StandsIn sys phase j key := by
  obtain hbefore | ⟨-, set, -, hset, -, -, hphase'⟩ := standsIn_setDispatcher hsame hstands
  · exact hbefore
  · cases hset
    exact absurd hphase' hphase

/-- A dispatcher that is set with the same batch stands at the same signal. -/
theorem standsIn_of_batch_eq (hsame : sys'.dispatchers = sys.dispatchers)
    (hat : StandsAt sys i d signal) (hbatch : d'.batch = d.batch)
    (hstands : StandsIn (sys'.setDispatcher i (some d')) phase j key) :
    StandsIn sys phase j key ∨ j = i ∧ signal.key = key ∧ d'.phase = phase := by
  obtain hbefore | ⟨hij, set, signal', hset, hhead, hkey, hphase⟩ :=
    standsIn_setDispatcher hsame hstands
  · exact .inl hbefore
  · cases hset
    rw [hbatch, hat.head] at hhead
    cases hhead
    exact .inr ⟨hij, hkey, hphase⟩

/-- The dispatcher that is set stands in its phase only. -/
theorem not_standsIn_of_set (hphase : d'.phase ≠ phase) :
    ¬StandsIn (sys'.setDispatcher i (some d')) phase i key := by
  rintro ⟨set, signal', ⟨hrunning, -⟩, -, hphase'⟩
  rw [System.setDispatcher_dispatchers_self] at hrunning
  cases hrunning
  exact hphase hphase'

/-! ## The invariant of a key -/

/-- One dispatcher at most works on a signal, its row is claimed, and the signal is sent
once at most, after the claim. -/
structure KeyInvariant (sys : System) (key : SignalKey) : Prop where
  row_of_works : ∀ i, Works sys i key → IsDispatching sys.signals key
  works_unique : ∀ i j, Works sys i key → Works sys j key → i = j
  unsent_of_unclaimed : IsUnclaimed sys.signals key → sys.sentCount key = 0
  unsent_of_claimed : ∀ i, StandsIn sys .claimed i key → sys.sentCount key = 0
  sent_once : sys.sentCount key ≤ 1

/-- The step does nothing to the signal of the key but perhaps give it up. -/
structure IsQuiet (sys sys' : System) (key : SignalKey) : Prop where
  claimed : ∀ j, StandsIn sys' .claimed j key → StandsIn sys .claimed j key
  sent : ∀ j, StandsIn sys' .sent j key → StandsIn sys .sent j key
  count : sys'.sentCount key = sys.sentCount key
  unclaimed : IsUnclaimed sys'.signals key → IsUnclaimed sys.signals key
  dispatching : ∀ j, Works sys' j key → IsDispatching sys.signals key →
    IsDispatching sys'.signals key

theorem IsQuiet.works (hquiet : IsQuiet sys sys' key) (hworks : Works sys' j key) :
    Works sys j key :=
  hworks.imp (hquiet.claimed j) (hquiet.sent j)

theorem KeyInvariant.of_isQuiet (hinvariant : KeyInvariant sys key)
    (hquiet : IsQuiet sys sys' key) : KeyInvariant sys' key where
  row_of_works i hworks :=
    hquiet.dispatching i hworks (hinvariant.row_of_works i (hquiet.works hworks))
  works_unique i j hi hj :=
    hinvariant.works_unique i j (hquiet.works hi) (hquiet.works hj)
  unsent_of_unclaimed hunclaimed :=
    hquiet.count.trans (hinvariant.unsent_of_unclaimed (hquiet.unclaimed hunclaimed))
  unsent_of_claimed i hclaimed :=
    hquiet.count.trans (hinvariant.unsent_of_claimed i (hquiet.claimed i hclaimed))
  sent_once := hquiet.count.trans_le hinvariant.sent_once

/-! ## Quiet steps -/

/-- What a statement does to the rows of a key that is not claimed, and to one that is. -/
structure KeepsClaims (signals signals' : Signals) (key : SignalKey) : Prop where
  unclaimed : IsUnclaimed signals' key → IsUnclaimed signals key
  dispatching : IsDispatching signals key → IsDispatching signals' key

theorem keepsClaims_refl {signals : Signals} : KeepsClaims signals signals key := ⟨id, id⟩

theorem keepsClaims_moveSignal {signals : Signals} {moved : SignalKey}
    {allowed : List IntentState} {state : IntentState} {written : Written}
    (hstate : state ≠ .planned) (hrefused : IntentState.dispatching ∉ allowed) :
    KeepsClaims signals (moveSignal signals moved allowed state written).1 key :=
  ⟨isUnclaimed_of_moveSignal hstate, fun hdispatching => hdispatching.moveSignal hrefused⟩

theorem keepsClaims_moveSignal_of_ne {signals : Signals} {moved : SignalKey}
    {allowed : List IntentState} {state : IntentState} {written : Written}
    (hstate : state ≠ .planned) (hne : key ≠ moved) :
    KeepsClaims signals (moveSignal signals moved allowed state written).1 key :=
  ⟨isUnclaimed_of_moveSignal hstate, fun hdispatching => hdispatching.moveSignal_of_ne hne⟩

theorem keepsClaims_insertSignalPlanned {signals : Signals} {planned : SignalKey}
    {processId : ℤ} {identity : Text} {baseline : Option Text} :
    KeepsClaims signals (insertSignalPlanned signals planned processId identity baseline)
      key :=
  ⟨isUnclaimed_of_insertSignalPlanned, IsDispatching.insertSignalPlanned⟩

theorem KeepsClaims.trans {signals signals' signals'' : Signals}
    (h : KeepsClaims signals signals' key) (h' : KeepsClaims signals' signals'' key) :
    KeepsClaims signals signals'' key :=
  ⟨h.unclaimed ∘ h'.unclaimed, h'.dispatching ∘ h.dispatching⟩

theorem sentCount_congr (hacts : sys'.acts = sys.acts) :
    sys'.sentCount key = sys.sentCount key := by
  rw [System.sentCount, System.sentCount, hacts]

/-- A step that sets a dispatcher to a phase in which it does not work, sends nothing and
keeps the claims is quiet. -/
theorem isQuiet_of_setDispatcher (hsame : sys'.dispatchers = sys.dispatchers)
    (hcount : sys'.sentCount key = sys.sentCount key)
    (hkeeps : KeepsClaims sys.signals sys'.signals key)
    (hclaimed : d'.phase ≠ .claimed) (hsent : d'.phase ≠ .sent) :
    IsQuiet sys (sys'.setDispatcher i (some d')) key where
  claimed _ := standsIn_of_phase_ne hsame hclaimed
  sent _ := standsIn_of_phase_ne hsame hsent
  count := hcount
  unclaimed := hkeeps.unclaimed
  dispatching _ _ := hkeeps.dispatching

/-- A step that sets no dispatcher, sends nothing and keeps the claims is quiet. -/
theorem isQuiet_of_same (hsame : sys'.dispatchers = sys.dispatchers)
    (hacts : sys'.acts = sys.acts) (hkeeps : KeepsClaims sys.signals sys'.signals key) :
    IsQuiet sys sys' key where
  claimed _ := (standsIn_congr hsame).1
  sent _ := (standsIn_congr hsame).1
  count := sentCount_congr hacts
  unclaimed := hkeeps.unclaimed
  dispatching _ _ := hkeeps.dispatching

theorem isQuiet_crash : IsQuiet sys (sys.setDispatcher i none) key := by
  have hbefore (phase : Phase) (j : ℕ)
      (hstands : StandsIn (sys.setDispatcher i none) phase j key) :
      StandsIn sys phase j key := by
    obtain hbefore | ⟨-, d', -, hset, -⟩ := standsIn_setDispatcher rfl hstands
    · exact hbefore
    · cases hset
  exact ⟨hbefore .claimed, hbefore .sent, rfl, id, fun _ _ => id⟩

theorem keepsClaims_planShutdown {providerSessionId identity : Text} {epoch processId : ℤ}
    {baseline : Option Text} {gracefulOk killOk : Bool} :
    KeepsClaims sys.signals (sys.planShutdown providerSessionId epoch processId identity
      baseline gracefulOk killOk).signals key := by
  rw [System.planShutdown]
  split
  · dsimp only
    split
    · exact keepsClaims_insertSignalPlanned.trans keepsClaims_insertSignalPlanned
    · exact keepsClaims_insertSignalPlanned
  · exact keepsClaims_refl

theorem isQuiet_planShutdown {providerSessionId identity : Text} {epoch processId : ℤ}
    {baseline : Option Text} {gracefulOk killOk : Bool} :
    IsQuiet sys (sys.planShutdown providerSessionId epoch processId identity baseline
      gracefulOk killOk) key := by
  rw [planShutdown_eq]
  exact isQuiet_of_same rfl rfl keepsClaims_planShutdown

/-- A new dispatcher stands before its first signal. -/
theorem standsIn_startDispatcher {loaded batch : List PlannedSignalDetail}
    (hphase : Phase.next ≠ phase)
    (hstands : StandsIn (sys.startDispatcher loaded batch) phase j key) :
    StandsIn sys phase j key := by
  rw [System.startDispatcher] at hstands
  split at hstands
  · refine standsIn_of_phase_ne ?_ hphase hstands
    rfl
  · exact hstands

theorem isQuiet_startDispatcher {loaded batch : List PlannedSignalDetail} :
    IsQuiet sys (sys.startDispatcher loaded batch) key := by
  rw [System.startDispatcher]
  split
  · exact isQuiet_of_setDispatcher rfl rfl keepsClaims_refl Phase.noConfusion Phase.noConfusion
  · exact isQuiet_of_same rfl rfl keepsClaims_refl

/-! ## The moves of a dispatcher -/

theorem IsRefused.phase_ne (hrefused : IsRefused d d') :
    d'.phase ≠ .claimed ∧ d'.phase ≠ .sent := by
  obtain ⟨-, hphase⟩ | ⟨-, hphase⟩ := hrefused
  · rw [hphase]
    decide
  · rw [hphase]
    decide

theorem IsAdvanced.phase_ne (hadvanced : IsAdvanced d d') :
    d'.phase ≠ .claimed ∧ d'.phase ≠ .sent :=
  IsRefused.phase_ne (.inl hadvanced)

/-- A move that sets the phase but does not claim, send or record leaves the claims. -/
theorem keepsClaims_of_refused {signals : Signals} {errorCode : Option Text}
    (hsignals : signals = sys.signals ∨
      signals = (markSignalIdentityMismatch sys.signals signal.key errorCode).1) :
    KeepsClaims sys.signals signals key := by
  obtain rfl | rfl := hsignals
  · exact keepsClaims_refl
  · exact keepsClaims_moveSignal (by decide) (by decide)

/-- A claim gives the signal to the dispatcher that made it. -/
theorem KeyInvariant.claim (hinvariant : KeyInvariant sys key)
    (hat : StandsAt sys i d signal) (hsame : sys'.dispatchers = sys.dispatchers)
    (hacts : sys'.acts = sys.acts)
    (hsignals : sys'.signals = (markSignalDispatching sys.signals signal.key).1)
    (hclaimed : (markSignalDispatching sys.signals signal.key).2 = true)
    (hbatch : d'.batch = d.batch) :
    KeyInvariant (sys'.setDispatcher i (some d')) key := by
  have hstand {phase : Phase} {j : ℕ}
      (hstands : StandsIn (sys'.setDispatcher i (some d')) phase j key) :
      StandsIn sys phase j key ∨ j = i ∧ signal.key = key ∧ d'.phase = phase :=
    standsIn_of_batch_eq hsame hat hbatch hstands
  have hcount : (sys'.setDispatcher i (some d')).sentCount key = sys.sentCount key :=
    sentCount_congr hacts
  by_cases hkey : signal.key = key
  · subst hkey
    obtain ⟨row, hfind, hplanned⟩ := markSignalDispatching_snd_iff.1 hclaimed
    have hunclaimed : IsUnclaimed sys.signals signal.key := fun row' hfind' => by
      rw [hfind] at hfind'
      cases hfind'
      exact hplanned
    have hidle (j : ℕ) : ¬Works sys j signal.key := fun hworks =>
      (hinvariant.row_of_works j hworks).not_unclaimed hunclaimed
    have hwho (j : ℕ) (hworks : Works (sys'.setDispatcher i (some d')) j signal.key) :
        j = i := by
      obtain hstands | hstands := hworks
      · exact ((hstand hstands).resolve_left fun h => hidle j (.inl h)).1
      · exact ((hstand hstands).resolve_left fun h => hidle j (.inr h)).1
    have hunsent := hcount.trans (hinvariant.unsent_of_unclaimed hunclaimed)
    have hdispatching : IsDispatching sys'.signals signal.key :=
      hsignals.symm ▸ isDispatching_markSignalDispatching hclaimed
    exact
      { row_of_works := fun _ _ => hdispatching
        works_unique := fun j j' hj hj' => (hwho j hj).trans (hwho j' hj').symm
        unsent_of_unclaimed := fun _ => hunsent
        unsent_of_claimed := fun _ _ => hunsent
        sent_once := hunsent.trans_le (Nat.zero_le 1) }
  · have hkeeps : KeepsClaims sys.signals sys'.signals key :=
      hsignals.symm ▸ keepsClaims_moveSignal_of_ne (by decide) (Ne.symm hkey)
    exact hinvariant.of_isQuiet
      { claimed := fun _ hstands => (hstand hstands).resolve_right fun h => hkey h.2.1
        sent := fun _ hstands => (hstand hstands).resolve_right fun h => hkey h.2.1
        count := hcount
        unclaimed := hkeeps.unclaimed
        dispatching := fun _ _ => hkeeps.dispatching }

/-- The dispatcher that holds the claim sends the signal. -/
theorem KeyInvariant.send (hinvariant : KeyInvariant sys key)
    (hat : StandsAt sys i d signal) (hphase : d.phase = .claimed)
    (hsame : sys'.dispatchers = sys.dispatchers)
    (hacts : sys'.acts = sys.acts ++ [Act.sent i signal])
    (hsignals : sys'.signals = sys.signals) (hbatch : d'.batch = d.batch)
    (hsent : d'.phase = .sent) :
    KeyInvariant (sys'.setDispatcher i (some d')) key := by
  have hstand {phase : Phase} {j : ℕ}
      (hstands : StandsIn (sys'.setDispatcher i (some d')) phase j key) :
      StandsIn sys phase j key ∨ j = i ∧ signal.key = key ∧ d'.phase = phase :=
    standsIn_of_batch_eq hsame hat hbatch hstands
  have hcount : (sys'.setDispatcher i (some d')).sentCount key =
      sys.sentCount key + if signal.key = key then 1 else 0 := by
    rw [System.sentCount, System.sentCount, System.setDispatcher, hacts, List.countP_append,
      List.countP_singleton]
    simp only [Act.sends, decide_eq_true_eq]
  have hkeeps : KeepsClaims sys.signals sys'.signals key := hsignals.symm ▸ keepsClaims_refl
  have hmoved : d'.phase ≠ .claimed := hsent ▸ Phase.noConfusion
  by_cases hkey : signal.key = key
  · subst hkey
    have hholds : StandsIn sys .claimed i signal.key := ⟨d, signal, hat, rfl, hphase⟩
    have hworks (j : ℕ) (hworks : Works (sys'.setDispatcher i (some d')) j signal.key) :
        Works sys j signal.key := by
      obtain hstands | hstands := hworks
      · exact .inl (standsIn_of_phase_ne hsame hmoved hstands)
      · obtain hbefore | ⟨rfl, -⟩ := hstand hstands
        · exact .inr hbefore
        · exact .inl hholds
    have hnone (j : ℕ) : ¬StandsIn (sys'.setDispatcher i (some d')) .claimed j signal.key := by
      intro hstands
      have hbefore := standsIn_of_phase_ne hsame hmoved hstands
      obtain rfl := hinvariant.works_unique j i (.inl hbefore) (.inl hholds)
      exact not_standsIn_of_set hmoved hstands
    have hdispatching := hkeeps.dispatching (hinvariant.row_of_works i (.inl hholds))
    rw [hinvariant.unsent_of_claimed i hholds, if_pos rfl] at hcount
    exact
      { row_of_works := fun _ _ => hdispatching
        works_unique := fun j j' hj hj' =>
          hinvariant.works_unique j j' (hworks j hj) (hworks j' hj')
        unsent_of_unclaimed := fun hunclaimed =>
          absurd hunclaimed hdispatching.not_unclaimed
        unsent_of_claimed := fun j hj => absurd hj (hnone j)
        sent_once := hcount.le }
  · exact hinvariant.of_isQuiet
      { claimed := fun _ hstands => (hstand hstands).resolve_right fun h => hkey h.2.1
        sent := fun _ hstands => (hstand hstands).resolve_right fun h => hkey h.2.1
        count := hcount.trans (by rw [if_neg hkey, Nat.add_zero])
        unclaimed := hkeeps.unclaimed
        dispatching := fun _ _ => hkeeps.dispatching }

/-- The dispatcher that sent the signal records it and is done with the claim. -/
theorem KeyInvariant.issue (hinvariant : KeyInvariant sys key)
    (hat : StandsAt sys i d signal) (hphase : d.phase = .sent) {nowMs : ℤ}
    (hsame : sys'.dispatchers = sys.dispatchers) (hacts : sys'.acts = sys.acts)
    (hsignals : sys'.signals = (markSignalIssued sys.signals signal.key nowMs).1)
    (hissued : d'.phase = .issued) :
    KeyInvariant (sys'.setDispatcher i (some d')) key := by
  have hclaimed : d'.phase ≠ .claimed := hissued ▸ Phase.noConfusion
  have hsent : d'.phase ≠ .sent := hissued ▸ Phase.noConfusion
  refine hinvariant.of_isQuiet
    { claimed := fun _ => standsIn_of_phase_ne hsame hclaimed
      sent := fun _ => standsIn_of_phase_ne hsame hsent
      count := sentCount_congr hacts
      unclaimed := fun hunclaimed => isUnclaimed_of_moveSignal (by decide)
        (hsignals ▸ hunclaimed)
      dispatching := fun j hworks hdispatching => ?_ }
  by_cases hkey : key = signal.key
  · -- only the dispatcher that has just left the signal worked on it
    have hbefore : Works sys j key := hworks.imp (standsIn_of_phase_ne hsame hclaimed)
      (standsIn_of_phase_ne hsame hsent)
    obtain rfl := hinvariant.works_unique j i hbefore (.inr ⟨d, signal, hat, hkey.symm, hphase⟩)
    exact absurd hworks
      (not_or.2 ⟨not_standsIn_of_set hclaimed, not_standsIn_of_set hsent⟩)
  · exact hsignals.symm ▸ hdispatching.moveSignal_of_ne hkey

theorem KeyInvariant.moves (hinvariant : KeyInvariant sys key)
    (hat : StandsAt sys i d signal) (hmoves : Moves sys i d signal world sys') :
    KeyInvariant sys' key := by
  cases hmoves with
  | giveUp d' hd' =>
      exact hinvariant.of_isQuiet
        (isQuiet_of_setDispatcher rfl rfl keepsClaims_refl hd'.phase_ne.1 hd'.phase_ne.2)
  | pass =>
      exact hinvariant.of_isQuiet
        (isQuiet_of_setDispatcher rfl rfl keepsClaims_refl Phase.noConfusion
          Phase.noConfusion)
  | probe =>
      exact hinvariant.of_isQuiet
        (isQuiet_of_setDispatcher rfl rfl keepsClaims_refl Phase.noConfusion
          Phase.noConfusion)
  | verify =>
      refine hinvariant.of_isQuiet
        (isQuiet_of_setDispatcher rfl ?_ keepsClaims_refl Phase.noConfusion Phase.noConfusion)
      rw [System.sentCount, List.countP_append, List.countP_singleton]
      rfl
  | refuse signals errorCode d' hsignals _ hd' =>
      exact hinvariant.of_isQuiet (isQuiet_of_setDispatcher rfl rfl
        (keepsClaims_of_refused hsignals) hd'.phase_ne.1 hd'.phase_ne.2)
  | hold fates d' hd' =>
      exact hinvariant.of_isQuiet
        (isQuiet_of_setDispatcher rfl rfl keepsClaims_refl hd'.phase_ne.1 hd'.phase_ne.2)
  | claim _ hclaimed => exact hinvariant.claim hat rfl rfl rfl hclaimed rfl
  | send hphase => exact hinvariant.send hat hphase rfl rfl rfl rfl rfl
  | miss =>
      exact hinvariant.of_isQuiet
        (isQuiet_of_setDispatcher rfl rfl keepsClaims_refl Phase.noConfusion
          Phase.noConfusion)
  | issue nowMs hphase => exact hinvariant.issue hat hphase rfl rfl rfl rfl
  | observe signals nowMs d' _ hsignals _ hd' =>
      have hkeeps : KeepsClaims sys.signals signals key := by
        obtain rfl | rfl := hsignals
        · exact keepsClaims_refl
        · exact keepsClaims_moveSignal (by decide) (by decide)
      exact hinvariant.of_isQuiet
        (isQuiet_of_setDispatcher rfl rfl hkeeps hd'.phase_ne.1 hd'.phase_ne.2)

/-! ## Runs -/

theorem KeyInvariant.perform (event : Event) (hinvariant : KeyInvariant sys key) :
    KeyInvariant (perform sys event) key := by
  cases event with
  | planShutdown => exact hinvariant.of_isQuiet isQuiet_planShutdown
  | suppress =>
      exact hinvariant.of_isQuiet
        (isQuiet_of_same rfl rfl (keepsClaims_moveSignal (by decide) (by decide)))
  | setProcessFate =>
      exact hinvariant.of_isQuiet (isQuiet_of_same rfl rfl keepsClaims_refl)
  | startRecovery => exact hinvariant.of_isQuiet isQuiet_startDispatcher
  | startScoped => exact hinvariant.of_isQuiet isQuiet_startDispatcher
  | step i world =>
      obtain hsame | ⟨d, signal, hat, hmoves⟩ := dispatchStep_cases sys i world
      · rw [Shutdown.perform, hsame]
        exact hinvariant
      · exact hinvariant.moves hat hmoves
  | crash => exact hinvariant.of_isQuiet isQuiet_crash

theorem keyInvariant_start : KeyInvariant System.start key := by
  have hnone (phase : Phase) (i : ℕ) : ¬StandsIn System.start phase i key := by
    rintro ⟨d, signal, ⟨hrunning, -⟩, -⟩
    cases hrunning
  exact
    { row_of_works := fun i hworks => absurd hworks (not_or.2 ⟨hnone _ i, hnone _ i⟩)
      works_unique := fun i _ hworks => absurd hworks (not_or.2 ⟨hnone _ i, hnone _ i⟩)
      unsent_of_unclaimed := fun _ => rfl
      unsent_of_claimed := fun _ _ => rfl
      sent_once := Nat.zero_le 1 }

theorem keyInvariant_run (events : List Event) :
    KeyInvariant (runFrom perform System.start events) key :=
  runFrom_invariant perform (P := fun sys => KeyInvariant sys key)
    (fun _ event hinvariant => hinvariant.perform event) keyInvariant_start events

/-- Over any run of any dispatchers, with crashes and failures of the database anywhere, no
signal of a session, an epoch, a kind and a generation is sent twice. -/
theorem signal_sent_at_most_once (events : List Event) (key : SignalKey) :
    (runFrom perform System.start events).sentCount key ≤ 1 :=
  (keyInvariant_run events).sent_once

end ChainworksForge.Shutdown
