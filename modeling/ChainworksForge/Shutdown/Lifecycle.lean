import ChainworksForge.Shutdown.Moves
import Mathlib.Logic.Relation

/-!
# The life of a signal row

A row is planned once, keeps the process it is about, and only moves forward: from planned
by a claim to dispatching, by the record of the sending to issued, and from planned or
issued to one of the states it never leaves.
-/

namespace ChainworksForge.Shutdown

open ChainworksForge.Support

/-! ## Single rows -/

/-- How far a row is. -/
def IntentState.rank : IntentState → ℕ
  | planned => 0
  | dispatching => 1
  | issued => 2
  | observed => 3
  | suppressed => 3
  | identityMismatch => 3

/-- What a statement makes of a row. -/
inductive Rewrites (row : ShutdownSignalSideEffect) : ShutdownSignalSideEffect → Prop where
  | dispatching (hstate : row.intentState ∈ [IntentState.planned]) :
      Rewrites row (row.moveTo .dispatching {})
  | issued (nowMs : ℤ) (hstate : row.intentState ∈ [IntentState.dispatching]) :
      Rewrites row (row.moveTo .issued { issuedAtMonotonicMs := some nowMs })
  | observed (nowMs : ℤ) (hstate : row.intentState ∈ [IntentState.issued]) :
      Rewrites row (row.moveTo .observed { observedExitAtMonotonicMs := some nowMs })
  | suppressed (errorCode : Option Text)
      (hstate : row.intentState ∈ [IntentState.planned, .issued]) :
      Rewrites row (row.moveTo .suppressed { errorCode := some errorCode })
  | identityMismatch (errorCode : Option Text)
      (hstate : row.intentState ∈ [IntentState.planned, .issued]) :
      Rewrites row (row.moveTo .identityMismatch { errorCode := some errorCode })

variable {row row' : ShutdownSignalSideEffect}

theorem rank_lt_of_mem {allowed : List IntentState} {state : IntentState}
    (hallowed : allowed.all (fun before => before.rank < state.rank) = true)
    (hstate : row.intentState ∈ allowed) : row.intentState.rank < state.rank :=
  of_decide_eq_true (List.all_eq_true.1 hallowed _ hstate)

theorem Rewrites.rank_lt (h : Rewrites row row') :
    row.intentState.rank < row'.intentState.rank := by
  cases h with
  | dispatching hstate => exact rank_lt_of_mem rfl hstate
  | issued _ hstate => exact rank_lt_of_mem rfl hstate
  | observed _ hstate => exact rank_lt_of_mem rfl hstate
  | suppressed _ hstate => exact rank_lt_of_mem rfl hstate
  | identityMismatch _ hstate => exact rank_lt_of_mem rfl hstate

theorem Rewrites.detail_eq (h : Rewrites row row') : row'.detail = row.detail := by
  cases h with
  | dispatching => rfl
  | issued => rfl
  | observed => rfl
  | suppressed => rfl
  | identityMismatch => rfl

theorem Rewrites.baseline_eq (h : Rewrites row row') :
    row'.baselineSampleId = row.baselineSampleId := by
  cases h with
  | dispatching => rfl
  | issued => rfl
  | observed => rfl
  | suppressed => rfl
  | identityMismatch => rfl

/-- The times of a row tell what happened to its signal. -/
structure WellTimed (row : ShutdownSignalSideEffect) : Prop where
  unissued : row.intentState.rank < 2 → row.issuedAtMonotonicMs = none
  issued : row.intentState = .issued ∨ row.intentState = .observed →
    row.issuedAtMonotonicMs.isSome
  observed : row.intentState = .observed ↔ row.observedExitAtMonotonicMs.isSome

theorem WellTimed.unobserved (hrow : WellTimed row) (hstate : row.intentState ≠ .observed) :
    row.observedExitAtMonotonicMs = none :=
  Option.not_isSome_iff_eq_none.1 (mt hrow.observed.2 hstate)

theorem Rewrites.wellTimed (h : Rewrites row row') (hrow : WellTimed row) :
    WellTimed row' := by
  have hopen : row.intentState ≠ .observed := by
    intro hstate
    have hrank := h.rank_lt
    rw [hstate] at hrank
    cases hstate' : row'.intentState with
    | _ => simp [hstate', IntentState.rank] at hrank
  have hexit := hrow.unobserved hopen
  cases h with
  | dispatching hstate =>
      have hnone := hrow.unissued (by rw [List.mem_singleton.1 hstate]; decide)
      exact ⟨fun _ => hnone, by simp [ShutdownSignalSideEffect.moveTo],
        by simp [ShutdownSignalSideEffect.moveTo, hexit]⟩
  | issued nowMs hstate =>
      exact ⟨by simp [ShutdownSignalSideEffect.moveTo, IntentState.rank],
        by simp [ShutdownSignalSideEffect.moveTo],
        by simp [ShutdownSignalSideEffect.moveTo, hexit]⟩
  | observed nowMs hstate =>
      have hsome := hrow.issued (.inl (List.mem_singleton.1 hstate))
      exact ⟨by simp [ShutdownSignalSideEffect.moveTo, IntentState.rank], fun _ => hsome,
        by simp [ShutdownSignalSideEffect.moveTo]⟩
  | suppressed _ hstate =>
      exact ⟨by simp [ShutdownSignalSideEffect.moveTo, IntentState.rank],
        by simp [ShutdownSignalSideEffect.moveTo],
        by simp [ShutdownSignalSideEffect.moveTo, hexit]⟩
  | identityMismatch _ hstate =>
      exact ⟨by simp [ShutdownSignalSideEffect.moveTo, IntentState.rank],
        by simp [ShutdownSignalSideEffect.moveTo],
        by simp [ShutdownSignalSideEffect.moveTo, hexit]⟩

/-- A row that was rewritten some number of times. -/
abbrev Becomes : ShutdownSignalSideEffect → ShutdownSignalSideEffect → Prop :=
  Relation.ReflTransGen Rewrites

/-- A row moved forward, or nothing happened to it. -/
theorem Becomes.eq_or_rank_lt (h : Becomes row row') :
    row' = row ∨ row.intentState.rank < row'.intentState.rank := by
  induction h with
  | refl => exact .inl rfl
  | tail _ hlast ih =>
      obtain rfl | ih := ih
      · exact .inr hlast.rank_lt
      · exact .inr (ih.trans hlast.rank_lt)

theorem Becomes.detail_eq (h : Becomes row row') : row'.detail = row.detail := by
  induction h with
  | refl => rfl
  | tail _ hlast ih => exact hlast.detail_eq.trans ih

theorem Becomes.baseline_eq (h : Becomes row row') :
    row'.baselineSampleId = row.baselineSampleId := by
  induction h with
  | refl => rfl
  | tail _ hlast ih => exact hlast.baseline_eq.trans ih

theorem Becomes.wellTimed (h : Becomes row row') (hrow : WellTimed row) : WellTimed row' := by
  induction h with
  | refl => exact hrow
  | tail _ hlast ih => exact hlast.wellTimed ih

theorem rank_le_three (state : IntentState) : state.rank ≤ 3 := by
  cases state <;> decide

/-- A row in a last state stays as it is. -/
theorem Becomes.eq_of_settled (h : Becomes row row')
    (hsettled : row.intentState.isUnobserved = false) : row' = row := by
  have hrank : row.intentState.rank = 3 := by
    cases hstate : row.intentState <;> simp_all [IntentState.isUnobserved, IntentState.rank]
  refine h.eq_or_rank_lt.resolve_right fun hlt => ?_
  have hle := rank_le_three row'.intentState
  omega

/-! ## Tables -/

/-- The rows of the one table became those of the other, beside new planned rows. -/
structure Follows (signals signals' : Signals) : Prop where
  kept : ∀ k row, signals.find k = some row →
    ∃ row', signals'.find k = some row' ∧ Becomes row row'
  wellTimed : (∀ k row, signals.find k = some row → WellTimed row) →
    ∀ k row, signals'.find k = some row → WellTimed row

theorem follows_refl (signals : Signals) : Follows signals signals :=
  ⟨fun _ row hfind => ⟨row, hfind, .refl⟩, id⟩

theorem Follows.trans {signals signals' signals'' : Signals} (h : Follows signals signals')
    (h' : Follows signals' signals'') : Follows signals signals'' where
  kept k row hfind := by
    obtain ⟨row', hfind', hbecomes⟩ := h.kept k row hfind
    obtain ⟨row'', hfind'', hbecomes'⟩ := h'.kept k row' hfind'
    exact ⟨row'', hfind'', hbecomes.trans hbecomes'⟩
  wellTimed := h'.wellTimed ∘ h.wellTimed

section Statements

variable {signals : Signals} {key : SignalKey}

/-- A statement whose rewriting of a row is one of the five. -/
theorem follows_moveSignal {allowed : List IntentState} {state : IntentState}
    {written : Written}
    (hrewrites : ∀ row : ShutdownSignalSideEffect, row.intentState ∈ allowed →
      Rewrites row (row.moveTo state written)) :
    Follows signals (moveSignal signals key allowed state written).1 where
  kept k row hfind := by
    rw [find_moveSignal, hfind, Option.map_some]
    refine ⟨_, rfl, ?_⟩
    split_ifs with hmoves
    · exact .single (hrewrites row hmoves.2)
    · exact .refl
  wellTimed hrows k row hfind := by
    rw [find_moveSignal, Option.map_eq_some_iff] at hfind
    obtain ⟨before, hbefore, rfl⟩ := hfind
    split_ifs with hmoves
    · exact (hrewrites before hmoves.2).wellTimed (hrows k before hbefore)
    · exact hrows k before hbefore

theorem follows_markSignalDispatching :
    Follows signals (markSignalDispatching signals key).1 :=
  follows_moveSignal fun _ => .dispatching

theorem follows_markSignalIssued {nowMs : ℤ} :
    Follows signals (markSignalIssued signals key nowMs).1 :=
  follows_moveSignal fun _ => .issued nowMs

theorem follows_markSignalObserved {nowMs : ℤ} :
    Follows signals (markSignalObserved signals key nowMs).1 :=
  follows_moveSignal fun _ => .observed nowMs

theorem follows_markSignalSuppressed {errorCode : Option Text} :
    Follows signals (markSignalSuppressed signals key errorCode).1 :=
  follows_moveSignal fun _ => .suppressed errorCode

theorem follows_markSignalIdentityMismatch {errorCode : Option Text} :
    Follows signals (markSignalIdentityMismatch signals key errorCode).1 :=
  follows_moveSignal fun _ => .identityMismatch errorCode

theorem follows_insertSignalPlanned {processId : ℤ} {identity : Text}
    {baseline : Option Text} :
    Follows signals (insertSignalPlanned signals key processId identity baseline) where
  kept _ row hfind := ⟨row, find_insertSignalPlanned_of_some hfind, .refl⟩
  wellTimed hrows k row hfind := by
    obtain hbefore | ⟨-, rfl⟩ := find_insertSignalPlanned_eq_some hfind
    · exact hrows k row hbefore
    · exact ⟨fun _ => rfl, by simp, by simp⟩

end Statements

/-! ## Runs -/

variable {sys sys' : System} {i : ℕ} {d : Dispatcher} {signal : PlannedSignalDetail} {world : World}

theorem Moves.follows (hmoves : Moves sys i d signal world sys') :
    Follows sys.signals sys'.signals := by
  cases hmoves with
  | giveUp => exact follows_refl _
  | pass => exact follows_refl _
  | probe => exact follows_refl _
  | verify => exact follows_refl _
  | refuse signals errorCode d' hsignals =>
      obtain rfl | rfl := hsignals
      · exact follows_refl _
      · exact follows_markSignalIdentityMismatch
  | hold => exact follows_refl _
  | claim => exact follows_markSignalDispatching
  | send => exact follows_refl _
  | miss => exact follows_refl _
  | issue => exact follows_markSignalIssued
  | observe signals nowMs d' _ hsignals =>
      obtain rfl | rfl := hsignals
      · exact follows_refl _
      · exact follows_markSignalObserved

theorem follows_planShutdown {providerSessionId identity : Text} {epoch processId : ℤ}
    {baseline : Option Text} {gracefulOk killOk : Bool} :
    Follows sys.signals (sys.planShutdown providerSessionId epoch processId identity
      baseline gracefulOk killOk).signals := by
  rw [System.planShutdown]
  split
  · dsimp only
    split
    · exact follows_insertSignalPlanned.trans follows_insertSignalPlanned
    · exact follows_insertSignalPlanned
  · exact follows_refl _

theorem startDispatcher_signals (loaded batch : List PlannedSignalDetail) :
    (sys.startDispatcher loaded batch).signals = sys.signals := by
  rw [System.startDispatcher]
  split
  · rfl
  · rfl

theorem follows_perform (sys : System) (event : Event) :
    Follows sys.signals (perform sys event).signals := by
  cases event with
  | planShutdown => exact follows_planShutdown
  | suppress => exact follows_markSignalSuppressed
  | setProcessFate => exact follows_refl _
  | startRecovery => exact startDispatcher_signals _ _ ▸ follows_refl _
  | startScoped => exact startDispatcher_signals _ _ ▸ follows_refl _
  | step i world =>
      obtain hsame | ⟨d, signal, -, hmoves⟩ := dispatchStep_cases sys i world
      · rw [perform, hsame]
        exact follows_refl _
      · exact hmoves.follows
  | crash => exact follows_refl _

theorem follows_run (sys : System) (events : List Event) :
    Follows sys.signals (runFrom perform sys events).signals :=
  runFrom_related perform (R := fun sys sys' => Follows sys.signals sys'.signals)
    (fun sys => follows_refl sys.signals) Follows.trans follows_perform sys events

/-- A row that some run has planned stays, keeps its process and only moves forward; in a
last state nothing of it changes; and its times tell which state it has reached. -/
theorem signal_row_moves_forward (events later : List Event) (key : SignalKey)
    (row : ShutdownSignalSideEffect)
    (hfind : (runFrom perform System.start events).signals.find key = some row) :
    ∃ row', (runFrom perform System.start (events ++ later)).signals.find key = some row' ∧
      row'.detail = row.detail ∧ row'.baselineSampleId = row.baselineSampleId ∧
      (row' = row ∨ row.intentState.isUnobserved ∧
        row.intentState.rank < row'.intentState.rank) ∧
      WellTimed row ∧ WellTimed row' := by
  rw [runFrom_append]
  have hstart := follows_run System.start events
  have hlater := follows_run (runFrom perform System.start events) later
  have htimed := hstart.wellTimed fun k row hnone => by cases hnone
  obtain ⟨row', hfind', hbecomes⟩ := hlater.kept key row hfind
  refine ⟨row', hfind', hbecomes.detail_eq, hbecomes.baseline_eq, ?_, htimed key row hfind,
    hbecomes.wellTimed (htimed key row hfind)⟩
  cases hopen : row.intentState.isUnobserved with
  | false => exact .inl (hbecomes.eq_of_settled hopen)
  | true => exact hbecomes.eq_or_rank_lt.imp_right fun hlt => ⟨rfl, hlt⟩

theorem signal_row_moves_forward_one :
    ∃ row', (runFrom perform System.start
        ([planOne] ++ [.suppress oneGraceful.key none])).signals.find oneGraceful.key =
        some row' ∧
      row'.detail = (oneRow .planned).detail ∧
      row'.baselineSampleId = (oneRow .planned).baselineSampleId ∧
      (row' = oneRow .planned ∨ (oneRow .planned).intentState.isUnobserved ∧
        (oneRow .planned).intentState.rank < row'.intentState.rank) ∧
      WellTimed (oneRow .planned) ∧ WellTimed row' :=
  signal_row_moves_forward [planOne] [.suppress oneGraceful.key none] oneGraceful.key
    (oneRow .planned) (by decide)

end ChainworksForge.Shutdown
