import ChainworksForge.Shutdown.SentOnce
import ChainworksForge.Shutdown.Settled

/-!
# The kill comes after the graceful signal

A kill of a session and epoch is sent only when the graceful signal of the same session and
epoch was planned and has come to a last state, and no graceful signal follows the kill.
What is sent goes to the process of the row, after its identity was found to match.
-/

namespace ChainworksForge.Shutdown

open ChainworksForge.Support

variable {signals signals' : Signals} {sys sys' : System} {i : ℕ} {d d' : Dispatcher}
  {signal : PlannedSignalDetail} {world : World}

/-! ## What the dispatchers know -/

/-- A signal to send is the one of a row, with an identity to match. -/
structure IsKnown (signals : Signals) (signal : PlannedSignalDetail) : Prop where
  identity : signal.processStartIdentity ≠ []
  row : ∃ row, signals.find signal.key = some row ∧ row.detail = signal

/-- A kill has its graceful signal behind it. -/
def KillDone (signals : Signals) (signal : PlannedSignalDetail) : Prop :=
  signal.key.signalKind = .kill → GracefulDone signals signal.pair

theorem IsKnown.keep (hknown : IsKnown signals signal) (hkeeps : KeepsDone signals signals') :
    IsKnown signals' signal := by
  obtain ⟨hidentity, row, hfind, hdetail⟩ := hknown
  obtain ⟨row', hfind', hbecomes⟩ := hkeeps.follows.kept _ row hfind
  exact ⟨hidentity, row', hfind', hbecomes.detail_eq.trans hdetail⟩

theorem KillDone.keep (hdone : KillDone signals signal) (hkeeps : KeepsDone signals signals') :
    KillDone signals' signal :=
  fun hkill => hkeeps.done _ (hdone hkill)

/-- The loaded signals are known. -/
theorem isKnown_detail {row : ShutdownSignalSideEffect} (hrow : row ∈ signals.rows)
    (hidentity : row.processStartIdentity.isEmpty = false) : IsKnown signals row.detail :=
  ⟨List.isEmpty_eq_false_iff.1 hidentity, row, signals.find_of_mem hrow, rfl⟩

theorem isKnown_of_loaded {fates : ProcessFates}
    (hsignal : signal ∈ loadPlannedForDispatch signals fates) : IsKnown signals signal := by
  obtain ⟨row, hrow, rfl⟩ := List.mem_map.1 hsignal
  obtain ⟨hrow, hloaded⟩ := List.mem_filter.1 hrow
  simp only [Bool.and_eq_true, Bool.not_eq_true'] at hloaded
  exact isKnown_detail hrow hloaded.2

theorem isKnown_of_loaded_scoped {fates : ProcessFates} {providerSessionId : Text}
    {shutdownEpoch : ℤ}
    (hsignal : signal ∈ loadPlannedForDispatchScoped signals fates providerSessionId
      shutdownEpoch) : IsKnown signals signal := by
  obtain ⟨row, hrow, rfl⟩ := List.mem_map.1 hsignal
  obtain ⟨hrow, hloaded⟩ := List.mem_filter.1 hrow
  simp only [Bool.and_eq_true, Bool.not_eq_true'] at hloaded
  exact isKnown_detail hrow hloaded.1.2

/-! ## The invariant -/

/-- What a dispatcher has made sure of when it stands in a phase. -/
def Standing (sys : System) (i : ℕ) (signal : PlannedSignalDetail) : Phase → Prop
  | .guarded => KillDone sys.signals signal
  | .alive => KillDone sys.signals signal ∧ 0 < signal.processId
  | .verified => KillDone sys.signals signal ∧ 0 < signal.processId ∧
      Act.verified i signal ∈ sys.acts
  | .claimed => KillDone sys.signals signal ∧ 0 < signal.processId ∧
      Act.verified i signal ∈ sys.acts
  | _ => True

/-- No graceful signal is sent after the kill of its pair. -/
def KillsLast (before after : Act) : Prop :=
  ∀ i signal j later, before = .sent i signal → after = .sent j later →
    signal.key.signalKind = .kill → signal.pair = later.pair → later.key.signalKind = .kill

/-- What holds of a sent signal, the act at a place. -/
structure SentWell (sys : System) (n i : ℕ) (signal : PlannedSignalDetail) : Prop where
  known : IsKnown sys.signals signal
  pid : 0 < signal.processId
  verified : ∃ m < n, sys.acts[m]? = some (.verified i signal)
  done : KillDone sys.signals signal

structure OrderInvariant (sys : System) : Prop where
  kills : KillsPlanned sys.signals
  known : ∀ i d, sys.dispatchers i = some d → ∀ signal ∈ d.batch, IsKnown sys.signals signal
  stands : ∀ i d signal, StandsAt sys i d signal → Standing sys i signal d.phase
  sent : ∀ n i signal, sys.acts[n]? = some (.sent i signal) → SentWell sys n i signal
  ordered : sys.acts.Pairwise KillsLast

theorem Standing.keep {phase : Phase} (hstanding : Standing sys i signal phase)
    (hkeeps : KeepsDone sys.signals sys'.signals) (hacts : ∀ act ∈ sys.acts, act ∈ sys'.acts) :
    Standing sys' i signal phase := by
  cases phase with
  | guarded => exact KillDone.keep hstanding hkeeps
  | alive => exact ⟨hstanding.1.keep hkeeps, hstanding.2⟩
  | verified => exact ⟨hstanding.1.keep hkeeps, hstanding.2.1, hacts _ hstanding.2.2⟩
  | claimed => exact ⟨hstanding.1.keep hkeeps, hstanding.2.1, hacts _ hstanding.2.2⟩
  | next => trivial
  | ambiguous => trivial
  | sent => trivial
  | failed => trivial
  | issued => trivial

theorem OrderInvariant.write (hinvariant : OrderInvariant sys)
    (hkeeps : KeepsDone sys.signals signals) :
    OrderInvariant { sys with signals := signals } where
  kills := hkeeps.killsPlanned hinvariant.kills
  known i d hd signal hsignal := (hinvariant.known i d hd signal hsignal).keep hkeeps
  stands i d signal hat :=
    (hinvariant.stands i d signal ⟨hat.running, hat.head⟩).keep hkeeps fun _ => id
  sent n i signal hsent := by
    obtain ⟨hknown, hpid, hverified, hdone⟩ := hinvariant.sent n i signal hsent
    exact ⟨hknown.keep hkeeps, hpid, hverified, hdone.keep hkeeps⟩
  ordered := hinvariant.ordered

theorem OrderInvariant.refate (hinvariant : OrderInvariant sys) (fates : ProcessFates) :
    OrderInvariant { sys with fates := fates } where
  kills := hinvariant.kills
  known := hinvariant.known
  stands i d signal hat :=
    (hinvariant.stands i d signal ⟨hat.running, hat.head⟩).keep (keepsDone_refl _) fun _ => id
  sent n i signal hsent := by
    obtain ⟨hknown, hpid, hverified, hdone⟩ := hinvariant.sent n i signal hsent
    exact ⟨hknown, hpid, hverified, hdone⟩
  ordered := hinvariant.ordered

/-- Only a claimed signal of a known row is sent, and only to a verified process. -/
def MaySend (sys : System) : Act → Prop
  | .verified _ _ => True
  | .sent i signal => IsKnown sys.signals signal ∧ Standing sys i signal .claimed ∧
      IsDispatching sys.signals signal.key

theorem OrderInvariant.act (hinvariant : OrderInvariant sys) (act : Act)
    (hmay : MaySend sys act) : OrderInvariant { sys with acts := sys.acts ++ [act] } where
  kills := hinvariant.kills
  known := hinvariant.known
  stands i d signal hat :=
    (hinvariant.stands i d signal ⟨hat.running, hat.head⟩).keep (keepsDone_refl _)
      fun _ hmem => List.mem_append_left _ hmem
  sent n i signal hsent := by
    by_cases hn : n < sys.acts.length
    · rw [List.getElem?_append_left hn] at hsent
      obtain ⟨hknown, hpid, ⟨m, hm, hverified⟩, hdone⟩ := hinvariant.sent n i signal hsent
      refine ⟨hknown, hpid, ⟨m, hm, ?_⟩, hdone⟩
      exact (List.getElem?_append_left (hm.trans hn)).trans hverified
    · rw [List.getElem?_append_right (Nat.le_of_not_lt hn), List.getElem?_singleton] at hsent
      split_ifs at hsent
      cases hsent
      obtain ⟨hknown, ⟨hdone, hpid, hverified⟩, -⟩ := hmay
      obtain ⟨m, hm, hget⟩ := List.mem_iff_getElem.1 hverified
      refine ⟨hknown, hpid, ⟨m, hm.trans_le (Nat.le_of_not_lt hn), ?_⟩, hdone⟩
      exact (List.getElem?_append_left hm).trans (hget ▸ List.getElem?_eq_getElem hm)
  ordered := by
    refine List.pairwise_append.2 ⟨hinvariant.ordered, List.pairwise_singleton _ _,
      fun before hbefore after hafter i signal j later hsent hlater hkill hpair => ?_⟩
    rw [List.mem_singleton.1 hafter] at hlater
    subst hlater hsent
    obtain ⟨n, hn, hget⟩ := List.mem_iff_getElem.1 hbefore
    have hdone := (hinvariant.sent n i signal (hget ▸ List.getElem?_eq_getElem hn)).done hkill
    -- a graceful signal that is sent now would still be claimed
    cases hkind : later.key.signalKind with
    | kill => rfl
    | graceful =>
        rw [hpair] at hdone
        exact absurd hmay.2.2 (hdone.not_dispatching ⟨rfl, rfl, hkind⟩)

theorem OrderInvariant.set (hinvariant : OrderInvariant sys) {next : Option Dispatcher}
    (hbatch : ∀ d, next = some d → ∀ signal ∈ d.batch, IsKnown sys.signals signal)
    (hstanding : ∀ d signal, next = some d → d.batch.head? = some signal →
      Standing sys i signal d.phase) :
    OrderInvariant (sys.setDispatcher i next) where
  kills := hinvariant.kills
  known j d hd := by
    by_cases hij : j = i
    · subst hij
      rw [System.setDispatcher_dispatchers_self] at hd
      exact hbatch d hd
    · rw [System.setDispatcher_dispatchers_of_ne _ _ _ hij] at hd
      exact hinvariant.known j d hd
  stands j d signal hat := by
    obtain ⟨hrunning, hhead⟩ := hat
    have hbefore : Standing sys j signal d.phase := by
      by_cases hij : j = i
      · subst hij
        rw [System.setDispatcher_dispatchers_self] at hrunning
        exact hstanding d signal hrunning hhead
      · rw [System.setDispatcher_dispatchers_of_ne _ _ _ hij] at hrunning
        exact hinvariant.stands j d signal ⟨hrunning, hhead⟩
    exact hbefore.keep (keepsDone_refl _) fun _ => id
  sent n i signal hsent := by
    obtain ⟨hknown, hpid, hverified, hdone⟩ := hinvariant.sent n i signal hsent
    exact ⟨hknown, hpid, hverified, hdone⟩
  ordered := hinvariant.ordered

/-! ## Steps -/

/-- A dispatcher that goes on or stops needs nothing new. -/
theorem OrderInvariant.refused (hinvariant : OrderInvariant sys)
    (hknown : ∀ signal ∈ d.batch, IsKnown sys.signals signal) (hd' : IsRefused d d') :
    OrderInvariant (sys.setDispatcher i (some d')) := by
  refine hinvariant.set (fun set hset signal hsignal => ?_) fun set signal hset _ => ?_
  · cases hset
    obtain ⟨hbatch, -⟩ | ⟨hbatch, -⟩ := hd'
    · exact hknown signal (List.mem_of_mem_tail (hbatch ▸ hsignal))
    · exact hknown signal (hbatch ▸ hsignal)
  · cases hset
    obtain ⟨-, hphase⟩ | ⟨-, hphase⟩ := hd'
    · rw [hphase]
      trivial
    · rw [hphase]
      trivial

/-- A dispatcher that stays at its signal has made sure of what its new phase asks. -/
theorem OrderInvariant.stay (hinvariant : OrderInvariant sys)
    (hknown : ∀ signal ∈ d.batch, IsKnown sys.signals signal)
    (hhead : d.batch.head? = some signal) (hbatch : d'.batch = d.batch)
    (hstanding : Standing sys i signal d'.phase) :
    OrderInvariant (sys.setDispatcher i (some d')) := by
  refine hinvariant.set (fun set hset signal hsignal => ?_) fun set first hset hfirst => ?_
  · cases hset
    exact hknown signal (hbatch ▸ hsignal)
  · cases hset
    rw [hbatch, hhead] at hfirst
    cases hfirst
    exact hstanding

/-- Past the guard the graceful signal of a kill is done. -/
theorem OrderInvariant.killDone (hinvariant : OrderInvariant sys)
    (hknown : IsKnown sys.signals signal) (hpass : MayPass sys.signals signal) :
    KillDone sys.signals signal := by
  intro hkill
  obtain ⟨row, hfind, -⟩ := hknown.row
  exact ⟨hinvariant.kills signal.key row hfind hkill, hpass hkill⟩

theorem OrderInvariant.moves (hinvariant : OrderInvariant sys)
    (hclaims : ∀ key, KeyInvariant sys key) (hat : StandsAt sys i d signal)
    (hmoves : Moves sys i d signal world sys') : OrderInvariant sys' := by
  have hknown := hinvariant.known i d hat.running
  have hhead := hknown signal (List.mem_of_head? hat.head)
  have hstanding := hinvariant.stands i d signal hat
  have hsignals {signals : Signals} (hkeeps : KeepsDone sys.signals signals) :
      OrderInvariant { sys with signals := signals } ∧
        ∀ signal ∈ d.batch, IsKnown signals signal :=
    ⟨hinvariant.write hkeeps, fun signal hsignal => (hknown signal hsignal).keep hkeeps⟩
  cases hmoves with
  | giveUp d' hd' => exact hinvariant.refused hknown (.inl hd')
  | pass _ hpass => exact hinvariant.stay hknown hat.head rfl (hinvariant.killDone hhead hpass)
  | probe hphase hpid =>
      rw [hphase] at hstanding
      exact hinvariant.stay hknown hat.head rfl ⟨hstanding, hpid⟩
  | verify hphase =>
      rw [hphase] at hstanding
      exact (hinvariant.act (.verified i signal) trivial).stay hknown hat.head rfl
        ⟨hstanding.1, hstanding.2, List.mem_append_right _ (List.mem_singleton_self _)⟩
  | refuse signals errorCode d' hwritten _ hd' =>
      have hkeeps : KeepsDone sys.signals signals := by
        obtain rfl | rfl := hwritten
        · exact keepsDone_refl _
        · exact keepsDone_moveSignal follows_markSignalIdentityMismatch
      exact (hsignals hkeeps).1.refused (hsignals hkeeps).2 hd'
  | hold fates d' hd' => exact (hinvariant.refate fates).refused hknown (.inl hd')
  | claim hphase =>
      have hkeeps : KeepsDone sys.signals (markSignalDispatching sys.signals signal.key).1 :=
        keepsDone_moveSignal follows_markSignalDispatching
      rw [hphase] at hstanding
      exact (hsignals hkeeps).1.stay (hsignals hkeeps).2 hat.head rfl
        ⟨hstanding.1.keep hkeeps, hstanding.2⟩
  | send hphase =>
      have hdispatching := (hclaims signal.key).row_of_works i
        (.inl ⟨d, signal, hat, rfl, hphase⟩)
      rw [hphase] at hstanding
      exact (hinvariant.act (.sent i signal) ⟨hhead, hstanding, hdispatching⟩).stay hknown
        hat.head rfl trivial
  | miss => exact hinvariant.stay hknown hat.head rfl trivial
  | issue nowMs =>
      have hkeeps : KeepsDone sys.signals (markSignalIssued sys.signals signal.key nowMs).1 :=
        keepsDone_moveSignal follows_markSignalIssued
      exact (hsignals hkeeps).1.stay (hsignals hkeeps).2 hat.head rfl trivial
  | observe signals nowMs d' _ hwritten _ hd' =>
      have hkeeps : KeepsDone sys.signals signals := by
        obtain rfl | rfl := hwritten
        · exact keepsDone_refl _
        · exact keepsDone_moveSignal follows_markSignalObserved
      exact (hsignals hkeeps).1.refused (hsignals hkeeps).2 (.inl hd')

theorem OrderInvariant.start (hinvariant : OrderInvariant sys)
    {loaded batch : List PlannedSignalDetail}
    (hloaded : ∀ signal ∈ loaded, IsKnown sys.signals signal) :
    OrderInvariant (sys.startDispatcher loaded batch) := by
  rw [System.startDispatcher]
  split
  next hbatch =>
    have hstarted : OrderInvariant { sys with started := sys.started + 1 } :=
      { kills := hinvariant.kills
        known := hinvariant.known
        stands := fun i d signal hat =>
          (hinvariant.stands i d signal ⟨hat.running, hat.head⟩).keep (keepsDone_refl _)
            fun _ => id
        sent := fun n i signal hsent => by
          obtain ⟨hknown, hpid, hverified, hdone⟩ := hinvariant.sent n i signal hsent
          exact ⟨hknown, hpid, hverified, hdone⟩
        ordered := hinvariant.ordered }
    refine hstarted.set (fun set hset signal hsignal => ?_) fun set signal hset _ => ?_
    · cases hset
      exact hloaded signal (hbatch.1.mem_iff.1 hsignal)
    · cases hset
      trivial
  · exact hinvariant

theorem OrderInvariant.perform (event : Event) (hinvariant : OrderInvariant sys)
    (hclaims : ∀ key, KeyInvariant sys key) : OrderInvariant (perform sys event) := by
  cases event with
  | planShutdown =>
      rw [Shutdown.perform, planShutdown_eq]
      exact hinvariant.write keepsDone_planShutdown
  | suppress => exact hinvariant.write (keepsDone_moveSignal follows_markSignalSuppressed)
  | setProcessFate => exact hinvariant.refate _
  | startRecovery => exact hinvariant.start fun _ => isKnown_of_loaded
  | startScoped => exact hinvariant.start fun _ => isKnown_of_loaded_scoped
  | step i world =>
      obtain hsame | ⟨d, signal, hat, hmoves⟩ := dispatchStep_cases sys i world
      · rw [Shutdown.perform, hsame]
        exact hinvariant
      · exact hinvariant.moves hclaims hat hmoves
  | crash =>
      refine hinvariant.set (fun d hd => ?_) fun d _ hd => ?_
      · cases hd
      · cases hd

theorem orderInvariant_start : OrderInvariant System.start where
  kills _ _ hfind := by cases hfind
  known _ _ hrunning := by cases hrunning
  stands _ _ _ hat := by cases hat.running
  sent _ _ _ hsent := by cases hsent
  ordered := .nil

theorem orderInvariant_run (events : List Event) :
    OrderInvariant (runFrom perform System.start events) :=
  (runFrom_invariant perform
    (P := fun sys => OrderInvariant sys ∧ ∀ key, KeyInvariant sys key)
    (fun _ event h => ⟨h.1.perform event h.2, fun key => (h.2 key).perform event⟩)
    ⟨orderInvariant_start, fun _ => keyInvariant_start⟩ events).1

/-! ## What is sent -/

/-- Over any run, a kill that was sent has the graceful signal of its session and epoch in a
last state, and no graceful signal of that session and epoch is sent after it. -/
theorem kill_follows_settled_graceful (events : List Event) :
    (∀ i signal, Act.sent i signal ∈ (runFrom perform System.start events).acts →
      signal.key.signalKind = .kill →
        GracefulDone (runFrom perform System.start events).signals signal.pair) ∧
    (runFrom perform System.start events).acts.Pairwise KillsLast := by
  have hinvariant := orderInvariant_run events
  refine ⟨fun i signal hsent => ?_, hinvariant.ordered⟩
  obtain ⟨n, hn, hget⟩ := List.mem_iff_getElem.1 hsent
  exact (hinvariant.sent n i signal (hget ▸ List.getElem?_eq_getElem hn)).done

/-- Over any run, what a dispatcher sends goes to a process with a positive number and a
stored identity, both those of the signal's row, and the same dispatcher found the identity
to match before. -/
theorem sent_to_verified_process (events : List Event) (n i : ℕ)
    (signal : PlannedSignalDetail)
    (hsent : (runFrom perform System.start events).acts[n]? = some (.sent i signal)) :
    0 < signal.processId ∧ signal.processStartIdentity ≠ [] ∧
      (∃ m < n, (runFrom perform System.start events).acts[m]? =
        some (.verified i signal)) ∧
      ∃ row, (runFrom perform System.start events).signals.find signal.key = some row ∧
        row.detail = signal := by
  obtain ⟨⟨hidentity, hrow⟩, hpid, hverified, -⟩ :=
    (orderInvariant_run events).sent n i signal hsent
  exact ⟨hpid, hidentity, hverified, hrow⟩

theorem sent_to_verified_process_one :
    0 < oneGraceful.processId ∧ oneGraceful.processStartIdentity ≠ [] ∧
      (∃ m < 1, (runFrom perform System.start (claimOne ++ [.step 0 goodWorld])).acts[m]? =
        some (.verified 0 oneGraceful)) ∧
      ∃ row, (runFrom perform System.start (claimOne ++ [.step 0 goodWorld])).signals.find
        oneGraceful.key = some row ∧ row.detail = oneGraceful :=
  sent_to_verified_process (claimOne ++ [.step 0 goodWorld]) 1 0 oneGraceful (by decide)

/-! ## Claims that nobody works on -/

/-- The row is claimed, and no dispatcher is to send its signal or to record it. -/
structure Orphaned (sys : System) (key : SignalKey) (row : ShutdownSignalSideEffect) :
    Prop where
  find : sys.signals.find key = some row
  dispatching : row.intentState = .dispatching
  idle : ∀ i, ¬Works sys i key

variable {key : SignalKey} {row : ShutdownSignalSideEffect}

theorem Orphaned.isDispatching (h : Orphaned sys key row) : IsDispatching sys.signals key :=
  ⟨row, h.find, h.dispatching⟩

/-- No statement but the record of a sending changes a claimed row. -/
theorem find_moveSignal_of_dispatching {moved : SignalKey} {allowed : List IntentState}
    {state : IntentState} {written : Written} (hfind : signals.find key = some row)
    (hstate : row.intentState = .dispatching)
    (hother : key ≠ moved ∨ IntentState.dispatching ∉ allowed) :
    (moveSignal signals moved allowed state written).1.find key = some row := by
  obtain hne | hrefused := hother
  · exact (find_moveSignal_of_ne hne).trans hfind
  · exact find_moveSignal_refused hfind (hstate ▸ hrefused)

/-- A step that leaves the row and puts no dispatcher to work on it. -/
theorem Orphaned.keep (h : Orphaned sys key row) (hfind : sys'.signals.find key = some row)
    (hworks : ∀ j, Works sys' j key → Works sys j key) : Orphaned sys' key row :=
  ⟨hfind, h.dispatching, fun j hj => h.idle j (hworks j hj)⟩

/-- A dispatcher that goes to a phase in which it does not work. -/
theorem works_of_phase_ne {j : ℕ} (hsame : sys'.dispatchers = sys.dispatchers)
    (hclaimed : d'.phase ≠ .claimed) (hsent : d'.phase ≠ .sent)
    (hworks : Works (sys'.setDispatcher i (some d')) j key) : Works sys j key :=
  hworks.imp (standsIn_of_phase_ne hsame hclaimed) (standsIn_of_phase_ne hsame hsent)

/-- A dispatcher that stays at another signal. -/
theorem works_of_key_ne {j : ℕ} (hsame : sys'.dispatchers = sys.dispatchers)
    (hat : StandsAt sys i d signal) (hbatch : d'.batch = d.batch) (hkey : signal.key ≠ key)
    (hworks : Works (sys'.setDispatcher i (some d')) j key) : Works sys j key :=
  hworks.imp
    (fun hstands => (standsIn_of_batch_eq hsame hat hbatch hstands).resolve_right fun h =>
      hkey h.2.1)
    (fun hstands => (standsIn_of_batch_eq hsame hat hbatch hstands).resolve_right fun h =>
      hkey h.2.1)

theorem Orphaned.moves (h : Orphaned sys key row) (hat : StandsAt sys i d signal)
    (hmoves : Moves sys i d signal world sys') :
    Orphaned sys' key row ∧ sys'.sentCount key = sys.sentCount key := by
  have hidle {phase : Phase} (hphase : d.phase = phase)
      (hworks : phase = .claimed ∨ phase = .sent) : signal.key ≠ key := by
    rintro rfl
    exact h.idle i (hworks.imp (fun heq => ⟨d, signal, hat, rfl, hphase.trans heq⟩)
      fun heq => ⟨d, signal, hat, rfl, hphase.trans heq⟩)
  cases hmoves with
  | giveUp d' hd' =>
      exact ⟨h.keep h.find fun _ => works_of_phase_ne rfl hd'.phase_ne.1 hd'.phase_ne.2, rfl⟩
  | pass =>
      exact ⟨h.keep h.find fun _ =>
        works_of_phase_ne rfl Phase.noConfusion Phase.noConfusion, rfl⟩
  | probe =>
      exact ⟨h.keep h.find fun _ =>
        works_of_phase_ne rfl Phase.noConfusion Phase.noConfusion, rfl⟩
  | verify =>
      refine ⟨h.keep h.find fun _ =>
        works_of_phase_ne rfl Phase.noConfusion Phase.noConfusion, ?_⟩
      exact List.countP_append.trans (Nat.add_zero _)
  | refuse signals errorCode d' hsignals _ hd' =>
      refine ⟨h.keep ?_ fun _ => works_of_phase_ne rfl hd'.phase_ne.1 hd'.phase_ne.2, rfl⟩
      obtain rfl | rfl := hsignals
      · exact h.find
      · exact find_moveSignal_of_dispatching h.find h.dispatching (.inr (by decide))
  | hold fates d' hd' =>
      exact ⟨h.keep h.find fun _ => works_of_phase_ne rfl hd'.phase_ne.1 hd'.phase_ne.2, rfl⟩
  | claim _ hclaimed =>
      have hkey : signal.key ≠ key := by
        rintro rfl
        obtain ⟨planned, hfind, hplanned⟩ := markSignalDispatching_snd_iff.1 hclaimed
        rw [h.find] at hfind
        cases hfind
        exact absurd (h.dispatching.symm.trans hplanned) (by decide)
      exact ⟨h.keep (find_moveSignal_of_dispatching h.find h.dispatching (.inl hkey.symm))
        fun _ => works_of_key_ne rfl hat rfl hkey, rfl⟩
  | send hphase =>
      have hkey := hidle hphase (.inl rfl)
      refine ⟨h.keep h.find fun _ => works_of_key_ne rfl hat rfl hkey, ?_⟩
      refine List.countP_append.trans (Nat.add_eq_left.2 ?_)
      rw [List.countP_singleton, Act.sends, decide_eq_false hkey]
      rfl
  | miss hphase =>
      exact ⟨h.keep h.find fun _ =>
        works_of_phase_ne rfl Phase.noConfusion Phase.noConfusion, rfl⟩
  | issue nowMs hphase =>
      have hkey := hidle hphase (.inr rfl)
      exact ⟨h.keep (find_moveSignal_of_dispatching h.find h.dispatching (.inl hkey.symm))
        fun _ => works_of_key_ne rfl hat rfl hkey, rfl⟩
  | observe signals nowMs d' _ hsignals _ hd' =>
      refine ⟨h.keep ?_ fun _ => works_of_phase_ne rfl hd'.phase_ne.1 hd'.phase_ne.2, rfl⟩
      obtain rfl | rfl := hsignals
      · exact h.find
      · exact find_moveSignal_of_dispatching h.find h.dispatching (.inr (by decide))

theorem Orphaned.quiet (h : Orphaned sys key row) (hquiet : IsQuiet sys sys' key)
    (hfind : sys'.signals.find key = some row) :
    Orphaned sys' key row ∧ sys'.sentCount key = sys.sentCount key :=
  ⟨h.keep hfind fun _ => hquiet.works, hquiet.count⟩

theorem Orphaned.perform (h : Orphaned sys key row) (event : Event) :
    Orphaned (perform sys event) key row ∧
      (Shutdown.perform sys event).sentCount key = sys.sentCount key := by
  cases event with
  | planShutdown =>
      refine h.quiet isQuiet_planShutdown ?_
      rw [Shutdown.perform, System.planShutdown]
      split
      · dsimp only
        split
        · exact find_insertSignalPlanned_of_some (find_insertSignalPlanned_of_some h.find)
        · exact find_insertSignalPlanned_of_some h.find
      · exact h.find
  | suppress =>
      refine h.quiet
        (isQuiet_of_same rfl rfl (keepsClaims_moveSignal (by decide) (by decide))) ?_
      exact find_moveSignal_of_dispatching h.find h.dispatching (.inr (by decide))
  | setProcessFate => exact h.quiet (isQuiet_of_same rfl rfl keepsClaims_refl) h.find
  | startRecovery =>
      refine h.quiet isQuiet_startDispatcher ?_
      rw [Shutdown.perform, startDispatcher_signals]
      exact h.find
  | startScoped =>
      refine h.quiet isQuiet_startDispatcher ?_
      rw [Shutdown.perform, startDispatcher_signals]
      exact h.find
  | step i world =>
      obtain hsame | ⟨d, signal, hat, hmoves⟩ := dispatchStep_cases sys i world
      · rw [Shutdown.perform, hsame]
        exact ⟨h, rfl⟩
      · exact h.moves hat hmoves
  | crash => exact h.quiet isQuiet_crash h.find

/-- A claim that nobody works on any more, after a crash or a failed send, is never taken
up: the row stays claimed and its signal is not sent from then on; and when the signal is a
graceful one, no kill of its session and epoch is ever sent. -/
theorem orphaned_claim_is_final (events later : List Event)
    (horphaned : Orphaned (runFrom perform System.start events) key row) :
    Orphaned (runFrom perform System.start (events ++ later)) key row ∧
      (runFrom perform System.start (events ++ later)).sentCount key =
        (runFrom perform System.start events).sentCount key ∧
      (key.signalKind = .graceful → ∀ i signal,
        Act.sent i signal ∈ (runFrom perform System.start (events ++ later)).acts →
          signal.key.signalKind = .kill →
            signal.pair ≠ (key.providerSessionId, key.shutdownEpoch)) := by
  have hkept : Orphaned (runFrom perform System.start (events ++ later)) key row ∧
      (runFrom perform System.start (events ++ later)).sentCount key =
        (runFrom perform System.start events).sentCount key := by
    rw [runFrom_append]
    refine runFrom_invariant perform (P := fun sys => Orphaned sys key row ∧
      sys.sentCount key = (runFrom perform System.start events).sentCount key)
      (fun sys event h => ?_) ⟨horphaned, rfl⟩ later
    exact ⟨(h.1.perform event).1, (h.1.perform event).2.trans h.2⟩
  refine ⟨hkept.1, hkept.2, fun hkind i signal hsent hkill hpair => ?_⟩
  have hdone := (kill_follows_settled_graceful (events ++ later)).1 i signal hsent hkill
  rw [hpair] at hdone
  exact hdone.not_dispatching ⟨rfl, rfl, hkind⟩ hkept.1.isDispatching

/-- The dispatcher crashes between the claim and the sending. -/
theorem crashed_claim_is_orphaned :
    Orphaned (runFrom perform System.start (claimOne ++ [.crash 0])) oneGraceful.key
      (oneRow .dispatching) where
  find := by decide
  dispatching := rfl
  idle i hworks := by
    have hnone : (runFrom perform System.start (claimOne ++ [.crash 0])).dispatchers i =
        none := by
      cases i with
      | zero => rfl
      | succ n => rfl
    obtain ⟨d, signal, ⟨hrunning, -⟩, -⟩ | ⟨d, signal, ⟨hrunning, -⟩, -⟩ := hworks
    · rw [hnone] at hrunning
      cases hrunning
    · rw [hnone] at hrunning
      cases hrunning

theorem orphaned_claim_is_final_one :
    Orphaned (runFrom perform System.start (claimOne ++ [.crash 0] ++ [planOne]))
        oneGraceful.key (oneRow .dispatching) ∧
      (runFrom perform System.start (claimOne ++ [.crash 0] ++ [planOne])).sentCount
          oneGraceful.key =
        (runFrom perform System.start (claimOne ++ [.crash 0])).sentCount
          oneGraceful.key ∧
      (oneGraceful.key.signalKind = .graceful → ∀ i signal,
        Act.sent i signal ∈
            (runFrom perform System.start (claimOne ++ [.crash 0] ++ [planOne])).acts →
          signal.key.signalKind = .kill →
            signal.pair ≠ (oneGraceful.key.providerSessionId,
              oneGraceful.key.shutdownEpoch)) :=
  orphaned_claim_is_final (claimOne ++ [.crash 0]) [planOne] crashed_claim_is_orphaned

end ChainworksForge.Shutdown
