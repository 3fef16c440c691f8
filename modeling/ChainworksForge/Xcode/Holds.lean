import ChainworksForge.Support.Runs
import ChainworksForge.Xcode.Journal

/-!
# Holds and dispatched attempts

Every call that succeeds changes the journal in one of a few ways: it adds an attempt,
dispatches one and holds its project, marks dispatched ones as unknown, settles one and
releases its project, or cancels one that was not dispatched.  From this the holds match
the attempts whose effect may be under way, in every run and for every order of calls, and
no attempt is dispatched twice.
-/

namespace ChainworksForge.Xcode

open ChainworksForge.Support

/-! ## Rows that are read -/

/-- What an attempt that is read keeps of its row. -/
structure ReadFrom (row attempt : StoredAttempt) : Prop where
  attemptId : attempt.attemptId = row.attemptId
  intent : attempt.intent = row.intent
  state : attempt.state = row.state
  revision : attempt.revision = row.revision
  dispatchedAt : attempt.dispatchedAt = row.dispatchedAt

theorem parse_readFrom {strip : Text → Text} {row attempt : StoredAttempt}
    (hparse : parse strip row = .ok attempt) : ReadFrom row attempt := by
  obtain ⟨_, _, hparse⟩ := (bind_eq_ok_iff _ _ _).1 hparse
  obtain ⟨_, _, hparse⟩ := (bind_eq_ok_iff _ _ _).1 hparse
  obtain ⟨_, _, hparse⟩ := (bind_eq_ok_iff _ _ _).1 hparse
  obtain ⟨_, _, hparse⟩ := (bind_eq_ok_iff _ _ _).1 hparse
  obtain ⟨_, _, hparse⟩ := (bind_eq_ok_iff _ _ _).1 hparse
  obtain ⟨_, _, hparse⟩ := (bind_eq_ok_iff _ _ _).1 hparse
  obtain ⟨_, _, hparse⟩ := (bind_eq_ok_iff _ _ _).1 hparse
  obtain rfl := (pure_eq_ok_iff _ _).1 hparse
  exact ⟨rfl, rfl, rfl, rfl, rfl⟩

section Calls

variable {surroundings : Surroundings} {journal journal' : Journal}
  {attempt attempt' row : StoredAttempt} {owner : Text} {id : Uuid} {revision : ℤ}
  {now : UtcTime}

theorem load_readFrom (hload : load surroundings journal owner id = .ok attempt) :
    ∃ row, journal.attempts.find id = some row ∧ ReadFrom row attempt := by
  obtain ⟨_, _, hload⟩ := (bind_eq_ok_iff _ _ _).1 hload
  obtain ⟨_, _, hload⟩ := (bind_eq_ok_iff _ _ _).1 hload
  obtain ⟨row, hrow, hparse⟩ := (bind_eq_ok_iff _ _ _).1 hload
  rw [required_eq_ok_iff, Option.filter_eq_some_iff] at hrow
  exact ⟨row, hrow.1, parse_readFrom hparse⟩

theorem ReadFrom.id_eq (hread : ReadFrom row attempt)
    (hfind : journal.attempts.find id = some row) : attempt.attemptId = id :=
  hread.attemptId.trans (journal.attempts.find_eq_some_iff.1 hfind).2

theorem checkTransition_state {source : AttemptState}
    (hcheck : checkTransition attempt revision source now = .ok ()) :
    attempt.state = source := by
  obtain ⟨_, _, hcheck⟩ := (bind_eq_ok_iff _ _ _).1 hcheck
  obtain ⟨_, _, hcheck⟩ := (bind_eq_ok_iff _ _ _).1 hcheck
  obtain ⟨_, hstate, _⟩ := (bind_eq_ok_iff _ _ _).1 hcheck
  simpa [ensure_eq_ok_iff] using hstate

/-! ## One row is replaced -/

/-- An attempt is moved on by one write. -/
structure Moves (fits : StoredAttempt → Bool) (old new : StoredAttempt) : Prop where
  attemptId : new.attemptId = old.attemptId
  intent : new.intent = old.intent
  revision : new.revision = old.revision + 1
  transition : transitionGuard old.state new.state = true
  checked : rowCheck fits new = true
  dispatchedAt : old.dispatchedAt.isSome = true → new.dispatchedAt.isSome = true

/-- A call replaces one row of the attempts. -/
structure Turn (fits : StoredAttempt → Bool) (journal journal' : Journal)
    (old new : StoredAttempt) : Prop where
  split : ∃ pre post, journal.attempts.rows = pre ++ old :: post ∧
    journal'.attempts.rows = pre ++ new :: post
  moves : Moves fits old new

/-- In a table the rows before and after the row with a key are not touched when that row
is updated. -/
theorem exists_split {κ ρ : Type} [DecidableEq κ] {key : ρ → κ} {table : Table key} {k : κ}
    {row : ρ} (hfind : table.find k = some row) (change : ρ → ρ)
    (hkey : ∀ row, key (change row) = key row) :
    ∃ pre post, table.rows = pre ++ row :: post ∧
      (table.update (fun row => key row = k) change hkey).rows = pre ++ change row :: post := by
  obtain ⟨hmem, rfl⟩ := table.find_eq_some_iff.1 hfind
  obtain ⟨pre, post, hsplit⟩ := List.append_of_mem hmem
  have hdistinct := table.distinct
  rw [hsplit, List.map_append, List.map_cons, List.nodup_append] at hdistinct
  obtain ⟨-, hpost, hapart⟩ := hdistinct
  refine ⟨pre, post, hsplit, ?_⟩
  have hpre : ∀ other ∈ pre, (if key other = key row then change other else other) = other :=
    fun other hother => if_neg fun hsame =>
      hapart _ (List.mem_map_of_mem hother) _ List.mem_cons_self hsame
  have hrest : ∀ other ∈ post, (if key other = key row then change other else other) = other :=
    fun other hother => if_neg fun hsame : key other = key row =>
      (List.nodup_cons.1 hpost).1 (hsame ▸ List.mem_map_of_mem hother)
  simp only [Table.update, hsplit, List.map_append, List.map_cons, decide_eq_true_eq, if_true]
  rw [List.map_congr_left hpre, List.map_congr_left hrest, List.map_id', List.map_id']

theorem persist_turn
    (hpersist : persist surroundings journal attempt revision now = .ok (journal', attempt'))
    (hfind : journal.attempts.find id = some row) (hid : attempt.attemptId = id)
    (hdispatched : row.dispatchedAt.isSome = true → attempt.dispatchedAt.isSome = true) :
    Turn surroundings.fits journal journal' row (row.written attempt now) ∧
      journal'.holds = journal.holds ∧
      attempt' = { attempt with revision := revision + 1, updatedAt := now } := by
  subst hid
  obtain ⟨found, hfound, hwrite⟩ := (bind_eq_ok_iff _ _ _).1 hpersist
  rw [required_eq_ok_iff, Option.filter_eq_some_iff, hfind] at hfound
  obtain rfl := Option.some.inj hfound.1
  obtain ⟨_, htransition, hchecks⟩ := (bind_eq_ok_iff _ _ _).1 hwrite
  obtain ⟨_, hchecked, hdone⟩ := (bind_eq_ok_iff _ _ _).1 hchecks
  rw [ensure_eq_ok_iff] at htransition hchecked
  cases (pure_eq_ok_iff _ _).1 hdone
  exact ⟨⟨exists_split hfind (fun row => row.written attempt now) fun _ => rfl,
    ⟨rfl, rfl, rfl, htransition, hchecked, hdispatched⟩⟩, rfl, rfl⟩

/-! ## What a call changes -/

/-- The ways in which a call changes the journal. -/
inductive Change (fits : StoredAttempt → Bool) (journal journal' : Journal) : Prop
  | added (row : StoredAttempt) (hstate : row.state = .prepared)
      (hchecked : rowCheck fits row = true)
      (hnew : ∀ other ∈ journal.attempts.rows, other.operation ≠ row.operation)
      (hrows : journal'.attempts.rows = journal.attempts.rows ++ [row])
      (hholds : journal'.holds = journal.holds)
  | dispatched (old new : StoredAttempt) (hturn : Turn fits journal journal' old new)
      (hold : old.state = .prepared) (hnew : new.state = .dispatched)
      (hfree : projectIsHeld journal new.intent.projectKey = false)
      (hholds : journal'.holds = journal.holds ++ [new.hold])
  | marked (old new : StoredAttempt) (hturn : Turn fits journal journal' old new)
      (hold : old.state = .dispatched) (hnew : new.state = .unknown)
      (hholds : journal'.holds = journal.holds)
  | settled (old new : StoredAttempt) (hturn : Turn fits journal journal' old new)
      (hold : old.isUncertain = true) (hnew : new.isUncertain = false)
      (hholds : journal'.holds = journal.holds.filter fun hold => !isHoldOf new hold)
  | cancelled (old new : StoredAttempt) (hturn : Turn fits journal journal' old new)
      (hold : old.state = .prepared) (hnew : new.state = .failed)
      (hholds : journal'.holds = journal.holds)

theorem prepare_change {intent : NormalizedIntent} {reply : Reply}
    (hprepare : prepare surroundings journal intent id now = .ok (journal', reply)) :
    (journal' = journal ∨ Change surroundings.fits journal journal') ∧
      ∃ attempt, reply = .attempt attempt := by
  obtain ⟨_, _, hprepare⟩ := (bind_eq_ok_iff _ _ _).1 hprepare
  obtain ⟨_, _, hprepare⟩ := (bind_eq_ok_iff _ _ _).1 hprepare
  cases hfound : findOperation journal intent with
  | some row =>
      simp only [hfound] at hprepare
      obtain ⟨existing, _, hprepare⟩ := (bind_eq_ok_iff _ _ _).1 hprepare
      obtain ⟨_, _, hdone⟩ := (bind_eq_ok_iff _ _ _).1 hprepare
      cases (pure_eq_ok_iff _ _).1 hdone
      exact ⟨.inl rfl, existing, rfl⟩
  | none =>
      simp only [hfound] at hprepare
      obtain ⟨_, _, hprepare⟩ := (bind_eq_ok_iff _ _ _).1 hprepare
      obtain ⟨inserted, hinsert, hprepare⟩ := (bind_eq_ok_iff _ _ _).1 hprepare
      obtain ⟨attempt, _, hdone⟩ := (bind_eq_ok_iff _ _ _).1 hprepare
      cases (pure_eq_ok_iff _ _).1 hdone
      obtain ⟨_, hchecked, hinsert⟩ := (bind_eq_ok_iff _ _ _).1 hinsert
      obtain ⟨_, hunique, hinsert⟩ := (bind_eq_ok_iff _ _ _).1 hinsert
      obtain ⟨attempts, hattempts, hdone⟩ := (bind_eq_ok_iff _ _ _).1 hinsert
      cases (pure_eq_ok_iff _ _).1 hdone
      rw [ensure_eq_ok_iff] at hchecked hunique
      rw [required_eq_ok_iff, Table.insert_eq_some_iff] at hattempts
      obtain ⟨hfree, rfl⟩ := hattempts
      refine ⟨.inr (.added _ rfl hchecked ?_ rfl rfl), attempt, rfl⟩
      simpa [List.any_eq_false] using hunique

theorem dispatch_change {digest : Text} {reply : Reply}
    (hdispatch : dispatch surroundings journal owner id digest revision now =
      .ok (journal', reply)) :
    (journal' = journal ∧ ∃ attempt, reply = .decision (.existing attempt)) ∨
      ∃ old new attempt, Turn surroundings.fits journal journal' old new ∧
        old.state = .prepared ∧ new.state = .dispatched ∧
        projectIsHeld journal new.intent.projectKey = false ∧
        journal'.holds = journal.holds ++ [new.hold] ∧
        reply = .decision (.dispatch attempt) ∧ attempt.attemptId = new.attemptId ∧
        attempt.intent = new.intent := by
  obtain ⟨_, _, hdispatch⟩ := (bind_eq_ok_iff _ _ _).1 hdispatch
  obtain ⟨_, _, hdispatch⟩ := (bind_eq_ok_iff _ _ _).1 hdispatch
  obtain ⟨attempt, hload, hdispatch⟩ := (bind_eq_ok_iff _ _ _).1 hdispatch
  obtain ⟨_, _, hdispatch⟩ := (bind_eq_ok_iff _ _ _).1 hdispatch
  obtain ⟨row, hfind, hread⟩ := load_readFrom hload
  split_ifs at hdispatch with hstate
  · cases (pure_eq_ok_iff _ _).1 hdispatch
    exact .inl ⟨rfl, attempt, rfl⟩
  · rw [not_not] at hstate
    obtain ⟨_, _, hdispatch⟩ := (bind_eq_ok_iff _ _ _).1 hdispatch
    obtain ⟨_, hunheld, hdispatch⟩ := (bind_eq_ok_iff _ _ _).1 hdispatch
    obtain ⟨⟨written, dispatched⟩, hpersist, hdispatch⟩ := (bind_eq_ok_iff _ _ _).1 hdispatch
    obtain ⟨held, hinsert, hdone⟩ := (bind_eq_ok_iff _ _ _).1 hdispatch
    obtain ⟨_, _, hinsert⟩ := (bind_eq_ok_iff _ _ _).1 hinsert
    obtain ⟨_, _, hinsert⟩ := (bind_eq_ok_iff _ _ _).1 hinsert
    cases (pure_eq_ok_iff _ _).1 hinsert
    cases (pure_eq_ok_iff _ _).1 hdone
    obtain ⟨hturn, hholds, rfl⟩ := persist_turn hpersist hfind (hread.id_eq hfind)
      fun _ => rfl
    have hfree : projectIsHeld journal row.intent.projectKey = false := by
      rw [ensureUnheld, ensure_eq_ok_iff, Bool.not_eq_true', hread.intent] at hunheld
      exact hunheld
    have hhold : attempt.hold = (row.written
        { attempt with state := .dispatched, dispatchedAt := some now } now).hold := by
      simp only [StoredAttempt.hold, StoredAttempt.written, hread.intent, hread.attemptId]
    refine .inr ⟨row, _, _, ⟨hturn.split, hturn.moves⟩, hread.state.symm.trans hstate, rfl, hfree,
      ?_, rfl, hread.attemptId, hread.intent⟩
    rw [hhold, ← hholds]

theorem completed_spec {completion : Completion} {settled : StoredAttempt}
    (hcompleted : completed attempt completion now = .ok settled) :
    settled.attemptId = attempt.attemptId ∧ settled.dispatchedAt = attempt.dispatchedAt ∧
      settled.intent = attempt.intent := by
  cases completion with
  | unknown reason =>
      cases hcompleted
      exact ⟨rfl, rfl, rfl⟩
  | succeeded outcome proof =>
      obtain ⟨_, _, hcompleted⟩ := (bind_eq_ok_iff _ _ _).1 hcompleted
      obtain ⟨_, _, hcompleted⟩ := (bind_eq_ok_iff _ _ _).1 hcompleted
      obtain ⟨_, _, hdone⟩ := (bind_eq_ok_iff _ _ _).1 hcompleted
      cases (pure_eq_ok_iff _ _).1 hdone
      exact ⟨rfl, rfl, rfl⟩
  | failed outcome proof =>
      obtain ⟨_, _, hcompleted⟩ := (bind_eq_ok_iff _ _ _).1 hcompleted
      obtain ⟨_, _, hcompleted⟩ := (bind_eq_ok_iff _ _ _).1 hcompleted
      obtain ⟨_, _, hdone⟩ := (bind_eq_ok_iff _ _ _).1 hcompleted
      cases (pure_eq_ok_iff _ _).1 hdone
      exact ⟨rfl, rfl, rfl⟩

theorem isHoldOf_congr {a b : StoredAttempt} (hid : a.attemptId = b.attemptId)
    (hintent : a.intent = b.intent) : isHoldOf a = isHoldOf b := by
  funext hold
  simp only [isHoldOf, hid, hintent]

theorem releaseHold_spec (hrelease : releaseHold journal attempt = .ok journal')
    (hid : attempt.attemptId = row.attemptId) (hintent : attempt.intent = row.intent) :
    journal'.attempts = journal.attempts ∧
      journal'.holds = journal.holds.filter fun hold => !isHoldOf row hold := by
  obtain ⟨_, _, hrelease⟩ := (bind_eq_ok_iff _ _ _).1 hrelease
  obtain ⟨_, _, hdone⟩ := (bind_eq_ok_iff _ _ _).1 hrelease
  cases (pure_eq_ok_iff _ _).1 hdone
  rw [isHoldOf_congr hid hintent]
  exact ⟨rfl, rfl⟩

/-- From a dispatched attempt the table lets through only what settles it, or leaves it
unknown. -/
theorem transition_of_dispatched {state : AttemptState}
    (h : transitionGuard .dispatched state = true) :
    state = .succeeded ∨ state = .failed ∨ state = .unknown := by
  revert h
  cases state <;> decide

theorem complete_change {completion : Completion} {reply : Reply}
    (hcomplete : complete surroundings journal owner id revision completion now =
      .ok (journal', reply)) :
    Change surroundings.fits journal journal' ∧ ∃ attempt, reply = .attempt attempt := by
  obtain ⟨attempt, hload, hcomplete⟩ := (bind_eq_ok_iff _ _ _).1 hcomplete
  obtain ⟨_, hcheck, hcomplete⟩ := (bind_eq_ok_iff _ _ _).1 hcomplete
  obtain ⟨_, _, hcomplete⟩ := (bind_eq_ok_iff _ _ _).1 hcomplete
  obtain ⟨settled, hsettled, hcomplete⟩ := (bind_eq_ok_iff _ _ _).1 hcomplete
  obtain ⟨⟨written, attempt'⟩, hpersist, hcomplete⟩ := (bind_eq_ok_iff _ _ _).1 hcomplete
  obtain ⟨row, hfind, hread⟩ := load_readFrom hload
  obtain ⟨hid, hdispatched, hintent⟩ := completed_spec hsettled
  have hsource : row.state = .dispatched :=
    hread.state.symm.trans (checkTransition_state hcheck)
  obtain ⟨hturn, hholds, rfl⟩ := persist_turn hpersist hfind (hid.trans (hread.id_eq hfind))
    fun hsome => by rw [hdispatched, hread.dispatchedAt, hsome]
  have hguard := hturn.moves.transition
  rw [hsource] at hguard
  simp only at hcomplete
  split_ifs at hcomplete with hunknown
  · obtain ⟨released, hrelease, hdone⟩ := (bind_eq_ok_iff _ _ _).1 hcomplete
    cases (pure_eq_ok_iff _ _).1 hdone
    obtain ⟨hattempts, hreleased⟩ := releaseHold_spec hrelease
      (hid.trans hread.attemptId) (hintent.trans hread.intent)
    refine ⟨.settled row _ ⟨?_, hturn.moves⟩ (by simp [StoredAttempt.isUncertain, hsource]) ?_ ?_,
      _, rfl⟩
    · rw [hattempts]
      exact hturn.split
    · have hstate : settled.state = .succeeded ∨ settled.state = .failed ∨
          settled.state = .unknown := transition_of_dispatched hguard
      rcases hstate with hstate | hstate | hstate
      · simp [StoredAttempt.isUncertain, StoredAttempt.written, hstate]
      · simp [StoredAttempt.isUncertain, StoredAttempt.written, hstate]
      · exact absurd hstate hunknown
    · rw [hreleased, hholds]
      rfl
  · rw [not_not] at hunknown
    cases (pure_eq_ok_iff _ _).1 hcomplete
    exact ⟨.marked row _ hturn hsource hunknown hholds, _, rfl⟩

theorem cancel_change {outcome : HistoricalResult} {reply : Reply}
    (hcancel : cancel surroundings journal owner id revision outcome now =
      .ok (journal', reply)) :
    ∃ old new attempt, Turn surroundings.fits journal journal' old new ∧
      old.state = .prepared ∧ new.state = .failed ∧ new.dispatchedAt = old.dispatchedAt ∧
      journal'.holds = journal.holds ∧ reply = .attempt attempt ∧
      attempt.attemptId = new.attemptId := by
  obtain ⟨attempt, hload, hcancel⟩ := (bind_eq_ok_iff _ _ _).1 hcancel
  obtain ⟨_, hcheck, hcancel⟩ := (bind_eq_ok_iff _ _ _).1 hcancel
  obtain ⟨_, _, hcancel⟩ := (bind_eq_ok_iff _ _ _).1 hcancel
  obtain ⟨_, _, hcancel⟩ := (bind_eq_ok_iff _ _ _).1 hcancel
  obtain ⟨⟨written, attempt'⟩, hpersist, hdone⟩ := (bind_eq_ok_iff _ _ _).1 hcancel
  obtain ⟨row, hfind, hread⟩ := load_readFrom hload
  cases (pure_eq_ok_iff _ _).1 hdone
  obtain ⟨hturn, hholds, rfl⟩ := persist_turn hpersist hfind (hread.id_eq hfind)
    fun hsome => by rw [hread.dispatchedAt, hsome]
  exact ⟨row, _, _, hturn, hread.state.symm.trans (checkTransition_state hcheck), rfl,
    hread.dispatchedAt, hholds, rfl, hread.attemptId⟩

theorem reconcile_change {reconciliation : Reconciliation} {reply : Reply}
    (hreconcile : reconcile surroundings journal owner id revision reconciliation now =
      .ok (journal', reply)) :
    Change surroundings.fits journal journal' ∧ ∃ attempt, reply = .attempt attempt := by
  obtain ⟨attempt, hload, hreconcile⟩ := (bind_eq_ok_iff _ _ _).1 hreconcile
  obtain ⟨_, hcheck, hreconcile⟩ := (bind_eq_ok_iff _ _ _).1 hreconcile
  obtain ⟨_, _, hreconcile⟩ := (bind_eq_ok_iff _ _ _).1 hreconcile
  obtain ⟨_, _, hreconcile⟩ := (bind_eq_ok_iff _ _ _).1 hreconcile
  obtain ⟨⟨written, attempt'⟩, hpersist, hreconcile⟩ := (bind_eq_ok_iff _ _ _).1 hreconcile
  obtain ⟨released, hrelease, hdone⟩ := (bind_eq_ok_iff _ _ _).1 hreconcile
  obtain ⟨row, hfind, hread⟩ := load_readFrom hload
  cases (pure_eq_ok_iff _ _).1 hdone
  obtain ⟨hturn, hholds, rfl⟩ := persist_turn hpersist hfind (hread.id_eq hfind)
    fun hsome => by rw [hread.dispatchedAt, hsome]
  have hsource : row.state = .unknown := hread.state.symm.trans (checkTransition_state hcheck)
  obtain ⟨hattempts, hreleased⟩ := releaseHold_spec hrelease hread.attemptId hread.intent
  refine ⟨.settled row _ ⟨?_, hturn.moves⟩ (by simp [StoredAttempt.isUncertain, hsource])
    (by simp [StoredAttempt.isUncertain, StoredAttempt.written]) ?_, _, rfl⟩
  · rw [hattempts]
    exact hturn.split
  · rw [hreleased, hholds]
    rfl

theorem recoverOne_change {expected : AttemptRevision}
    (hrecover : recoverOne surroundings now journal expected = .ok (journal', attempt')) :
    ∃ old new, Turn surroundings.fits journal journal' old new ∧ old.state = .dispatched ∧
      new.state = .unknown ∧ journal'.holds = journal.holds := by
  obtain ⟨_, _, hrecover⟩ := (bind_eq_ok_iff _ _ _).1 hrecover
  obtain ⟨row, hrow, hrecover⟩ := (bind_eq_ok_iff _ _ _).1 hrecover
  obtain ⟨attempt, hparse, hrecover⟩ := (bind_eq_ok_iff _ _ _).1 hrecover
  obtain ⟨_, hcheck, hrecover⟩ := (bind_eq_ok_iff _ _ _).1 hrecover
  obtain ⟨_, _, hpersist⟩ := (bind_eq_ok_iff _ _ _).1 hrecover
  rw [required_eq_ok_iff] at hrow
  have hread := parse_readFrom hparse
  obtain ⟨hturn, hholds, -⟩ := persist_turn hpersist hrow (hread.id_eq hrow)
    fun hsome => by rw [hread.dispatchedAt, hsome]
  exact ⟨row, _, hturn, hread.state.symm.trans (checkTransition_state hcheck), rfl, hholds⟩

end Calls

/-! ## Holds match the uncertain attempts -/

/-- Two projects that may be one: the user is the same, and so is the path or the inode. -/
def Alias (a b : ProjectKey) : Prop :=
  a.uid = b.uid ∧ (a.canonicalPath = b.canonicalPath ∨ a.inode = b.inode)

/-- The holds are those of the uncertain attempts, whose projects are apart. -/
structure Journal.Sound (fits : StoredAttempt → Bool) (journal : Journal) : Prop where
  matched : journal.holds.Perm
    ((journal.attempts.rows.filter StoredAttempt.isUncertain).map StoredAttempt.hold)
  apart : ∀ a ∈ journal.attempts.rows, ∀ b ∈ journal.attempts.rows, a.isUncertain = true →
    b.isUncertain = true → a.attemptId ≠ b.attemptId →
      ¬Alias a.intent.projectKey b.intent.projectKey
  operations : (journal.attempts.rows.map StoredAttempt.operation).Nodup
  checked : ∀ row ∈ journal.attempts.rows, rowCheck fits row = true

theorem Journal.sound_empty {fits : StoredAttempt → Bool} : Journal.empty.Sound fits where
  matched := List.Perm.refl []
  apart := fun _ ha => absurd ha List.not_mem_nil
  operations := List.nodup_nil
  checked := fun _ hrow => absurd hrow List.not_mem_nil

section Invariant

variable {fits : StoredAttempt → Bool} {journal journal' : Journal} {old new : StoredAttempt}

theorem Moves.operation_eq (h : Moves fits old new) : new.operation = old.operation := by
  rw [StoredAttempt.operation, StoredAttempt.operation, h.intent]

theorem Moves.hold_eq (h : Moves fits old new) : new.hold = old.hold := by
  simp only [StoredAttempt.hold, h.intent, h.attemptId]

theorem Turn.mem_old (h : Turn fits journal journal' old new) :
    old ∈ journal.attempts.rows := by
  obtain ⟨pre, post, hrows, -⟩ := h.split
  simp [hrows]

/-- The rows around the one that is replaced are those of other attempts. -/
theorem Turn.others (h : Turn fits journal journal' old new) :
    ∃ pre post, journal.attempts.rows = pre ++ old :: post ∧
      journal'.attempts.rows = pre ++ new :: post ∧
      (∀ row ∈ pre, row.attemptId ≠ old.attemptId) ∧
      ∀ row ∈ post, row.attemptId ≠ old.attemptId := by
  obtain ⟨pre, post, hrows, hrows'⟩ := h.split
  have hdistinct := journal.attempts.distinct
  rw [hrows, List.map_append, List.map_cons, List.nodup_append] at hdistinct
  obtain ⟨-, hpost, hapart⟩ := hdistinct
  exact ⟨pre, post, hrows, hrows',
    fun row hrow => hapart _ (List.mem_map_of_mem hrow) _ List.mem_cons_self,
    fun row hrow hsame => (List.nodup_cons.1 hpost).1 (List.mem_map.2 ⟨row, hrow, hsame⟩)⟩

/-- The rows after a turn are the new one and the others. -/
theorem Turn.mem_iff (h : Turn fits journal journal' old new) (row : StoredAttempt) :
    row ∈ journal'.attempts.rows ↔
      row = new ∨ row ∈ journal.attempts.rows ∧ row.attemptId ≠ old.attemptId := by
  obtain ⟨pre, post, hrows, hrows', hpre, hrest⟩ := h.others
  rw [hrows, hrows']
  simp only [List.mem_append, List.mem_cons]
  constructor
  · rintro (hrow | rfl | hrow)
    · exact .inr ⟨.inl hrow, hpre row hrow⟩
    · exact .inl rfl
    · exact .inr ⟨.inr (.inr hrow), hrest row hrow⟩
  · rintro (rfl | ⟨hrow | rfl | hrow, hne⟩)
    · exact .inr (.inl rfl)
    · exact .inl hrow
    · exact absurd rfl hne
    · exact .inr (.inr hrow)

theorem Turn.operations (h : Turn fits journal journal' old new) :
    journal'.attempts.rows.map StoredAttempt.operation =
      journal.attempts.rows.map StoredAttempt.operation := by
  obtain ⟨pre, post, hrows, hrows'⟩ := h.split
  rw [hrows, hrows', List.map_append, List.map_append, List.map_cons, List.map_cons,
    h.moves.operation_eq]

theorem Turn.checked (h : Turn fits journal journal' old new)
    (hchecked : ∀ row ∈ journal.attempts.rows, rowCheck fits row = true) :
    ∀ row ∈ journal'.attempts.rows, rowCheck fits row = true := by
  intro row hrow
  rcases (h.mem_iff row).1 hrow with rfl | ⟨hrow, -⟩
  · exact h.moves.checked
  · exact hchecked row hrow

/-- Unless a new attempt becomes uncertain the uncertain ones stay apart. -/
theorem Turn.apart (h : Turn fits journal journal' old new) (hsound : journal.Sound fits)
    (hnew : new.isUncertain = true → old.isUncertain = true) :
    ∀ a ∈ journal'.attempts.rows, ∀ b ∈ journal'.attempts.rows, a.isUncertain = true →
      b.isUncertain = true → a.attemptId ≠ b.attemptId →
        ¬Alias a.intent.projectKey b.intent.projectKey := by
  intro a ha b hb huncertain huncertain' hne
  rcases (h.mem_iff a).1 ha with rfl | ⟨ha, -⟩ <;>
    rcases (h.mem_iff b).1 hb with rfl | ⟨hb, -⟩
  · exact absurd rfl hne
  · rw [h.moves.intent]
    rw [h.moves.attemptId] at hne
    exact hsound.apart old h.mem_old b hb (hnew huncertain) huncertain' hne
  · rw [h.moves.intent]
    rw [h.moves.attemptId] at hne
    exact hsound.apart a ha old h.mem_old huncertain (hnew huncertain') hne
  · exact hsound.apart a ha b hb huncertain huncertain' hne

theorem alias_symm {a b : ProjectKey} (h : Alias a b) : Alias b a :=
  ⟨h.1.symm, h.2.imp Eq.symm Eq.symm⟩

/-- No uncertain attempt is on a project that is not held. -/
theorem Journal.Sound.not_alias (hsound : journal.Sound fits) {project : ProjectKey}
    (hfree : projectIsHeld journal project = false) {row : StoredAttempt}
    (hrow : row ∈ journal.attempts.rows) (huncertain : row.isUncertain = true) :
    ¬Alias row.intent.projectKey project := by
  intro halias
  have hhold : row.hold ∈ journal.holds := hsound.matched.mem_iff.2
    (List.mem_map_of_mem (List.mem_filter.2 ⟨hrow, huncertain⟩))
  have hheld : projectIsHeld journal project = true := by
    rw [projectIsHeld, List.any_eq_true]
    exact ⟨row.hold, hhold, decide_eq_true halias⟩
  rw [hfree] at hheld
  cases hheld

theorem Change.sound (h : Change fits journal journal') (hsound : journal.Sound fits) :
    journal'.Sound fits := by
  cases h with
  | added row hstate hchecked hnew hrows hholds =>
      have hcertain : row.isUncertain = false := by simp [StoredAttempt.isUncertain, hstate]
      constructor
      · rw [hholds, hrows, List.filter_append, List.filter_cons_of_neg (by simp [hcertain])]
        simpa using hsound.matched
      · intro a ha b hb huncertain huncertain'
        rw [hrows, List.mem_append, List.mem_singleton] at ha hb
        rcases ha with ha | rfl
        · rcases hb with hb | rfl
          · exact hsound.apart a ha b hb huncertain huncertain'
          · simp [hcertain] at huncertain'
        · simp [hcertain] at huncertain
      · rw [hrows, List.map_append, List.nodup_append]
        refine ⟨hsound.operations, List.nodup_singleton _, ?_⟩
        rintro _ hother _ hsame rfl
        obtain ⟨other, hmem, hother⟩ := List.mem_map.1 hother
        rw [List.map_singleton, List.mem_singleton] at hsame
        exact hnew other hmem (hother.trans hsame)
      · intro other hother
        rw [hrows, List.mem_append, List.mem_singleton] at hother
        rcases hother with hother | rfl
        · exact hsound.checked other hother
        · exact hchecked
  | dispatched old new hturn hold hnew hfree hholds =>
      have hcertain : old.isUncertain = false := by simp [StoredAttempt.isUncertain, hold]
      have huncertain : new.isUncertain = true := by simp [StoredAttempt.isUncertain, hnew]
      refine ⟨?_, ?_, hturn.operations ▸ hsound.operations, hturn.checked hsound.checked⟩
      · obtain ⟨pre, post, hrows, hrows'⟩ := hturn.split
        have hmatched := hsound.matched
        rw [hrows, List.filter_append, List.filter_cons_of_neg (by simp [hcertain]),
          List.map_append] at hmatched
        rw [hholds, hrows', List.filter_append, List.filter_cons_of_pos huncertain,
          List.map_append, List.map_cons]
        exact (hmatched.append_right _).trans
          ((List.perm_append_singleton _ _).trans List.perm_middle.symm)
      · intro a ha b hb ha' hb' hne
        rcases (hturn.mem_iff a).1 ha with rfl | ⟨ha, -⟩ <;>
          rcases (hturn.mem_iff b).1 hb with rfl | ⟨hb, -⟩
        · exact absurd rfl hne
        · exact fun halias => hsound.not_alias hfree hb hb' (alias_symm halias)
        · exact hsound.not_alias hfree ha ha'
        · exact hsound.apart a ha b hb ha' hb' hne
  | marked old new hturn hold hnew hholds =>
      have hbefore : old.isUncertain = true := by simp [StoredAttempt.isUncertain, hold]
      have hafter : new.isUncertain = true := by simp [StoredAttempt.isUncertain, hnew]
      refine ⟨?_, hturn.apart hsound fun _ => hbefore, hturn.operations ▸ hsound.operations,
        hturn.checked hsound.checked⟩
      obtain ⟨pre, post, hrows, hrows'⟩ := hturn.split
      have hmatched := hsound.matched
      rw [hrows, List.filter_append, List.filter_cons_of_pos hbefore, List.map_append,
        List.map_cons, ← hturn.moves.hold_eq] at hmatched
      rwa [hholds, hrows', List.filter_append, List.filter_cons_of_pos hafter, List.map_append,
        List.map_cons]
  | settled old new hturn hold hnew hholds =>
      refine ⟨?_, hturn.apart hsound fun _ => hold, hturn.operations ▸ hsound.operations,
        hturn.checked hsound.checked⟩
      obtain ⟨pre, post, hrows, hrows', hpre, hrest⟩ := hturn.others
      have hreleased : isHoldOf new old.hold = true := by
        simp [isHoldOf, StoredAttempt.hold, hturn.moves.intent, hturn.moves.attemptId]
      have hkept (rows : List StoredAttempt)
          (hothers : ∀ row ∈ rows, row.attemptId ≠ old.attemptId) :
          ((rows.filter StoredAttempt.isUncertain).map StoredAttempt.hold).filter
              (fun hold => !isHoldOf new hold) =
            (rows.filter StoredAttempt.isUncertain).map StoredAttempt.hold := by
        refine List.filter_eq_self.2 fun hold hmem => ?_
        obtain ⟨row, hrow, rfl⟩ := List.mem_map.1 hmem
        have hne := hothers row (List.mem_filter.1 hrow).1
        simp [isHoldOf, StoredAttempt.hold, hturn.moves.attemptId, hne]
      have hmatched := hsound.matched.filter fun hold => !isHoldOf new hold
      rw [hrows, List.filter_append, List.filter_cons_of_pos hold, List.map_append, List.map_cons,
        List.filter_append, List.filter_cons_of_neg (by simp [hreleased]), hkept pre hpre,
        hkept post hrest] at hmatched
      rwa [hholds, hrows', List.filter_append, List.filter_cons_of_neg (by simp [hnew]),
        List.map_append]
  | cancelled old new hturn hold hnew hholds =>
      have hbefore : old.isUncertain = false := by simp [StoredAttempt.isUncertain, hold]
      have hafter : new.isUncertain = false := by simp [StoredAttempt.isUncertain, hnew]
      refine ⟨?_, hturn.apart hsound fun htrue => ?_, hturn.operations ▸ hsound.operations,
        hturn.checked hsound.checked⟩
      · obtain ⟨pre, post, hrows, hrows'⟩ := hturn.split
        have hmatched := hsound.matched
        rw [hrows, List.filter_append, List.filter_cons_of_neg (by simp [hbefore])] at hmatched
        rwa [hholds, hrows', List.filter_append, List.filter_cons_of_neg (by simp [hafter])]
      · rw [hafter] at htrue
        cases htrue

end Invariant

end ChainworksForge.Xcode
