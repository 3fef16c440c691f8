import ChainworksForge.Xcode.Holds

/-!
# What every run of the journal guarantees

A run is a list of calls, in any order and with any arguments.  After every run the holds
match the uncertain attempts, an attempt that is over stays as it is, and no attempt was
dispatched twice, or dispatched and cancelled.
-/

namespace ChainworksForge.Xcode

open ChainworksForge.Support

/-! ## Rows from call to call -/

/-- Every row is kept, or moved on by one write. -/
def Evolves (fits : StoredAttempt → Bool) (journal journal' : Journal) : Prop :=
  ∀ row ∈ journal.attempts.rows, ∃ row' ∈ journal'.attempts.rows,
    row'.attemptId = row.attemptId ∧ (row' = row ∨ Moves fits row row')

/-- Every row is kept, or was dispatched and is now unknown. -/
def Marked (fits : StoredAttempt → Bool) (journal journal' : Journal) : Prop :=
  ∀ row ∈ journal.attempts.rows, ∃ row' ∈ journal'.attempts.rows,
    row'.attemptId = row.attemptId ∧
      (row' = row ∨ Moves fits row row' ∧ row.state = .dispatched ∧ row'.state = .unknown)

section Rows

variable {fits : StoredAttempt → Bool} {journal journal' journal'' : Journal}
  {old new : StoredAttempt}

theorem Evolves.refl (journal : Journal) : Evolves fits journal journal :=
  fun row hrow => ⟨row, hrow, rfl, .inl rfl⟩

/-- Attempts with one identifier are one row. -/
theorem Journal.row_unique {row other : StoredAttempt} (hrow : row ∈ journal.attempts.rows)
    (hother : other ∈ journal.attempts.rows) (hid : row.attemptId = other.attemptId) :
    row = other :=
  List.inj_on_of_nodup_map journal.attempts.distinct hrow hother hid

theorem Turn.old_or_kept (h : Turn fits journal journal' old new) {row : StoredAttempt}
    (hrow : row ∈ journal.attempts.rows) : row = old ∨ row ∈ journal'.attempts.rows := by
  by_cases hid : row.attemptId = old.attemptId
  · exact .inl (journal.row_unique hrow h.mem_old hid)
  · exact .inr ((h.mem_iff row).2 (.inr ⟨hrow, hid⟩))

theorem Turn.mem_new (h : Turn fits journal journal' old new) :
    new ∈ journal'.attempts.rows :=
  (h.mem_iff new).2 (.inl rfl)

theorem Turn.evolves (h : Turn fits journal journal' old new) :
    Evolves fits journal journal' := by
  intro row hrow
  rcases h.old_or_kept hrow with rfl | hkept
  · exact ⟨new, h.mem_new, h.moves.attemptId, .inr h.moves⟩
  · exact ⟨row, hkept, rfl, .inl rfl⟩

theorem Change.evolves (h : Change fits journal journal') : Evolves fits journal journal' := by
  cases h with
  | added row hstate hchecked hnew hrows hholds =>
      intro other hother
      exact ⟨other, hrows ▸ List.mem_append_left _ hother, rfl, .inl rfl⟩
  | dispatched old new hturn => exact hturn.evolves
  | marked old new hturn => exact hturn.evolves
  | settled old new hturn => exact hturn.evolves
  | cancelled old new hturn => exact hturn.evolves

theorem Marked.trans (h : Marked fits journal journal') (h' : Marked fits journal' journal'') :
    Marked fits journal journal'' := by
  intro row hrow
  obtain ⟨row', hrow', hid, hstep⟩ := h row hrow
  obtain ⟨row'', hrow'', hid', hstep'⟩ := h' row' hrow'
  refine ⟨row'', hrow'', hid'.trans hid, ?_⟩
  rcases hstep with rfl | ⟨hmoves, hbefore, hafter⟩
  · exact hstep'
  · rcases hstep' with rfl | ⟨-, hagain, -⟩
    · exact .inr ⟨hmoves, hbefore, hafter⟩
    · rw [hafter] at hagain
      cases hagain

theorem Marked.evolves (h : Marked fits journal journal') : Evolves fits journal journal' := by
  intro row hrow
  obtain ⟨row', hrow', hid, hstep⟩ := h row hrow
  exact ⟨row', hrow', hid, hstep.imp_right fun hmarked => hmarked.1⟩

end Rows

section Calls

variable {surroundings : Surroundings} {journal journal' : Journal} {now : UtcTime}

theorem recoverAll_spec {expected : List AttemptRevision} {attempts : List StoredAttempt}
    (hsound : journal.Sound surroundings.fits)
    (hrecover : recoverAll surroundings now journal expected = .ok (journal', attempts)) :
    journal'.Sound surroundings.fits ∧ Marked surroundings.fits journal journal' := by
  induction expected generalizing journal attempts with
  | nil =>
      cases (pure_eq_ok_iff _ _).1 hrecover
      exact ⟨hsound, fun row hrow => ⟨row, hrow, rfl, .inl rfl⟩⟩
  | cons expected rest ih =>
      obtain ⟨⟨marked, attempt⟩, hone, hrecover⟩ := (bind_eq_ok_iff _ _ _).1 hrecover
      obtain ⟨⟨recovered, others⟩, hrest, hdone⟩ := (bind_eq_ok_iff _ _ _).1 hrecover
      cases (pure_eq_ok_iff _ _).1 hdone
      obtain ⟨old, new, hturn, hold, hnew, hholds⟩ := recoverOne_change hone
      obtain ⟨hafter, hmarked⟩ := ih ((Change.marked old new hturn hold hnew hholds).sound hsound)
        hrest
      refine ⟨hafter, Marked.trans (fun row hrow => ?_) hmarked⟩
      rcases hturn.old_or_kept hrow with rfl | hkept
      · exact ⟨new, hturn.mem_new, hturn.moves.attemptId, .inr ⟨hturn.moves, hold, hnew⟩⟩
      · exact ⟨row, hkept, rfl, .inl rfl⟩

/-- The attempts of the decisions to dispatch in a reply. -/
def Reply.sent : Reply → List StoredAttempt
  | .decision (.dispatch row) => [row]
  | _ => []

/-- The attempts that a call with its reply has cancelled. -/
def Call.cancelled (call : Call) (reply : Reply) : List StoredAttempt :=
  match call, reply with
  | .cancel .., .attempt row => [row]
  | _, _ => []

/-- What the reply of a call says of the rows. -/
structure ReplySpec (fits : StoredAttempt → Bool) (journal journal' : Journal) (call : Call)
    (reply : Reply) : Prop where
  sent : ∀ attempt ∈ reply.sent, ∃ old new, Turn fits journal journal' old new ∧
    old.state = .prepared ∧ new.state = .dispatched ∧ attempt.attemptId = new.attemptId ∧
    attempt.intent = new.intent
  cancelled : ∀ attempt ∈ call.cancelled reply, ∃ old new, Turn fits journal journal' old new ∧
    old.state = .prepared ∧ new.state = .failed ∧ new.dispatchedAt = old.dispatchedAt ∧
    attempt.attemptId = new.attemptId

theorem transaction_spec {call : Call} {reply : Reply}
    (hsound : journal.Sound surroundings.fits)
    (hcall : transaction surroundings journal call = .ok (journal', reply)) :
    journal'.Sound surroundings.fits ∧ Evolves surroundings.fits journal journal' ∧
      ReplySpec surroundings.fits journal journal' call reply := by
  cases call with
  | prepare intent id now =>
      obtain ⟨hchange, attempt, rfl⟩ := prepare_change hcall
      have hreply : ReplySpec surroundings.fits journal journal' (.prepare intent id now)
          (.attempt attempt) :=
        ⟨fun _ hsent => absurd hsent List.not_mem_nil,
          fun _ hcancelled => absurd hcancelled List.not_mem_nil⟩
      rcases hchange with rfl | hchange
      · exact ⟨hsound, .refl _, hreply⟩
      · exact ⟨hchange.sound hsound, hchange.evolves, hreply⟩
  | dispatch owner nonce digest revision now =>
      rcases dispatch_change hcall with ⟨rfl, attempt, rfl⟩ |
        ⟨old, new, attempt, hturn, hold, hnew, hfree, hholds, rfl, hid, hintent⟩
      · exact ⟨hsound, .refl _, fun _ hsent => absurd hsent List.not_mem_nil,
          fun _ hcancelled => absurd hcancelled List.not_mem_nil⟩
      · refine ⟨(Change.dispatched old new hturn hold hnew hfree hholds).sound hsound,
          hturn.evolves, fun sent hsent => ?_,
          fun _ hcancelled => absurd hcancelled List.not_mem_nil⟩
        obtain rfl := List.mem_singleton.1 hsent
        exact ⟨old, new, hturn, hold, hnew, hid, hintent⟩
  | complete owner id revision completion now =>
      obtain ⟨hchange, attempt, rfl⟩ := complete_change hcall
      exact ⟨hchange.sound hsound, hchange.evolves,
        fun _ hsent => absurd hsent List.not_mem_nil,
        fun _ hcancelled => absurd hcancelled List.not_mem_nil⟩
  | cancel owner id revision outcome now =>
      obtain ⟨old, new, attempt, hturn, hold, hnew, hdispatched, hholds, rfl, hid⟩ :=
        cancel_change hcall
      refine ⟨(Change.cancelled old new hturn hold hnew hholds).sound hsound, hturn.evolves,
        fun _ hsent => absurd hsent List.not_mem_nil, fun cancelled hcancelled => ?_⟩
      obtain rfl := List.mem_singleton.1 hcancelled
      exact ⟨old, new, hturn, hold, hnew, hdispatched, hid⟩
  | recoverDispatched expected now =>
      obtain ⟨_, _, hrecover⟩ := (bind_eq_ok_iff _ _ _).1 hcall
      obtain ⟨⟨recovered, attempts⟩, hall, hdone⟩ := (bind_eq_ok_iff _ _ _).1 hrecover
      cases (pure_eq_ok_iff _ _).1 hdone
      obtain ⟨hafter, hmarked⟩ := recoverAll_spec hsound hall
      exact ⟨hafter, hmarked.evolves, fun _ hsent => absurd hsent List.not_mem_nil,
        fun _ hcancelled => absurd hcancelled List.not_mem_nil⟩
  | reconcile owner id revision reconciliation now =>
      obtain ⟨hchange, attempt, rfl⟩ := reconcile_change hcall
      exact ⟨hchange.sound hsound, hchange.evolves,
        fun _ hsent => absurd hsent List.not_mem_nil,
        fun _ hcancelled => absurd hcancelled List.not_mem_nil⟩

end Calls

/-! ## Runs -/

/-- A run so far: the journal, the attempts of the decisions to dispatch that were
returned, and those that were cancelled. -/
structure History where
  journal : Journal
  sent : List StoredAttempt
  cancelled : List StoredAttempt

namespace History

def empty : History := ⟨Journal.empty, [], []⟩

def step (surroundings : Surroundings) (history : History) (call : Call) : History :=
  match perform surroundings history.journal call with
  | (journal, .ok reply) =>
      ⟨journal, history.sent ++ reply.sent, history.cancelled ++ call.cancelled reply⟩
  | (journal, .error _) => { history with journal }

/-- The run of a list of calls on the empty journal. -/
def run (surroundings : Surroundings) (calls : List Call) : History :=
  runFrom (step surroundings) empty calls

/-- What is sent and what is cancelled stays in the rows. -/
structure Sound (fits : StoredAttempt → Bool) (history : History) : Prop where
  journal : history.journal.Sound fits
  sent : ∀ attempt ∈ history.sent, ∃ row ∈ history.journal.attempts.rows,
    row.attemptId = attempt.attemptId ∧ row.intent = attempt.intent ∧
      row.dispatchedAt.isSome = true
  cancelled : ∀ attempt ∈ history.cancelled, ∃ row ∈ history.journal.attempts.rows,
    row.attemptId = attempt.attemptId ∧ row.state = .failed ∧ row.dispatchedAt = none
  once : (history.sent.map StoredAttempt.attemptId).Nodup

end History

def AttemptState.isFinal (state : AttemptState) : Bool :=
  state = .succeeded ∨ state = .failed ∨ state = .reconciled

section Runs

variable {surroundings : Surroundings} {fits : StoredAttempt → Bool}
  {journal journal' : Journal} {row row' : StoredAttempt} {history : History}

/-- A row that is over is not moved on. -/
theorem Moves.not_final (h : Moves fits row row') : row.state.isFinal = false := by
  have htransition := h.transition
  cases hstate : row.state <;> rw [hstate] at htransition <;>
    first | decide | exact absurd htransition (by simp [transitionGuard])

theorem Evolves.final (h : Evolves fits journal journal') (hrow : row ∈ journal.attempts.rows)
    (hfinal : row.state.isFinal = true) : row ∈ journal'.attempts.rows := by
  obtain ⟨row', hrow', -, rfl | hmoves⟩ := h row hrow
  · exact hrow'
  · rw [hmoves.not_final] at hfinal
    cases hfinal

theorem dispatchedAt_of_prepared (hchecked : rowCheck fits row = true)
    (hstate : row.state = .prepared) : row.dispatchedAt = none := by
  simp only [rowCheck, shapeCheck, hstate, Bool.and_eq_true, Option.isNone_iff_eq_none]
    at hchecked
  exact hchecked.1.1.2.1.1.1.1

theorem dispatchedAt_of_dispatched (hchecked : rowCheck fits row = true)
    (hstate : row.state = .dispatched) : row.dispatchedAt.isSome = true := by
  simp only [rowCheck, shapeCheck, hstate, Bool.and_eq_true] at hchecked
  exact hchecked.1.1.2.1.1.1.1

/-- A call that succeeds keeps what is known of the attempts sent and cancelled. -/
theorem History.Sound.step_ok {call : Call} {reply : Reply} (h : history.Sound fits)
    (hjournal : journal'.Sound fits) (hevolves : Evolves fits history.journal journal')
    (hreply : ReplySpec fits history.journal journal' call reply) :
    History.Sound fits ⟨journal', history.sent ++ reply.sent,
      history.cancelled ++ call.cancelled reply⟩ := by
  refine ⟨hjournal, fun attempt hattempt => ?_, fun attempt hattempt => ?_, ?_⟩
  · rcases List.mem_append.1 hattempt with hattempt | hattempt
    · obtain ⟨row, hrow, hid, hintent, hsome⟩ := h.sent attempt hattempt
      obtain ⟨row', hrow', hid', rfl | hmoves⟩ := hevolves row hrow
      · exact ⟨row', hrow', hid, hintent, hsome⟩
      · exact ⟨row', hrow', hid'.trans hid, hmoves.intent.trans hintent,
          hmoves.dispatchedAt hsome⟩
    · obtain ⟨old, new, hturn, -, hnew, hid, hintent⟩ := hreply.sent attempt hattempt
      exact ⟨new, hturn.mem_new, hid.symm, hintent.symm,
        dispatchedAt_of_dispatched hturn.moves.checked hnew⟩
  · rcases List.mem_append.1 hattempt with hattempt | hattempt
    · obtain ⟨row, hrow, hid, hfailed, hnone⟩ := h.cancelled attempt hattempt
      exact ⟨row, hevolves.final hrow (by rw [hfailed]; decide), hid, hfailed, hnone⟩
    · obtain ⟨old, new, hturn, hold, hnew, hsame, hid⟩ := hreply.cancelled attempt hattempt
      have hnone := dispatchedAt_of_prepared (h.journal.checked old hturn.mem_old) hold
      exact ⟨new, hturn.mem_new, hid.symm, hnew, hsame.trans hnone⟩
  · rw [List.map_append, List.nodup_append]
    refine ⟨h.once, ?_, ?_⟩
    · rcases reply with _ | decision | _
      · exact List.nodup_nil
      · cases decision with
        | dispatch row => exact List.nodup_singleton _
        | existing row => exact List.nodup_nil
      · exact List.nodup_nil
    · intro id hbefore id' hnow hsame
      obtain ⟨first, hfirst, rfl⟩ := List.mem_map.1 hbefore
      obtain ⟨second, hsecond, rfl⟩ := List.mem_map.1 hnow
      obtain ⟨row, hrow, hid, -, hsome⟩ := h.sent first hfirst
      obtain ⟨old, new, hturn, hold, -, hid', -⟩ := hreply.sent second hsecond
      have hrowOld : row = old := history.journal.row_unique hrow hturn.mem_old
        (hid.trans (hsame.trans (hid'.trans hturn.moves.attemptId)))
      have hnone := dispatchedAt_of_prepared (h.journal.checked old hturn.mem_old) hold
      rw [hrowOld, hnone] at hsome
      cases hsome

theorem History.Sound.step (h : history.Sound surroundings.fits) (call : Call) :
    (history.step surroundings call).Sound surroundings.fits := by
  rw [History.step, perform]
  cases hcall : transaction surroundings history.journal call with
  | error error => exact ⟨h.journal, h.sent, h.cancelled, h.once⟩
  | ok result =>
      obtain ⟨hjournal, hevolves, hreply⟩ := transaction_spec h.journal hcall
      exact h.step_ok hjournal hevolves hreply

theorem History.sound_run (surroundings : Surroundings) (calls : List Call) :
    (History.run surroundings calls).Sound surroundings.fits := by
  refine runFrom_invariant (History.step surroundings) (fun history call h => h.step call) ?_
    calls
  exact ⟨Journal.sound_empty, fun _ hattempt => absurd hattempt List.not_mem_nil,
    fun _ hattempt => absurd hattempt List.not_mem_nil, List.nodup_nil⟩

theorem perform_evolves (hsound : journal.Sound surroundings.fits) (call : Call) :
    Evolves surroundings.fits journal (perform surroundings journal call).1 := by
  rw [perform]
  cases hcall : transaction surroundings journal call with
  | error error => exact .refl journal
  | ok result => exact (transaction_spec hsound hcall).2.1

theorem History.step_journal (call : Call) :
    (history.step surroundings call).journal =
      (perform surroundings history.journal call).1 := by
  rw [History.step]
  generalize perform surroundings history.journal call = result
  obtain ⟨journal, error | reply⟩ := result
  · rfl
  · rfl

/-- What the journal guarantees after a run. -/
structure Guarantees (surroundings : Surroundings) (calls : List Call) : Prop where
  matched : (History.run surroundings calls).journal.holds.Perm
    (((History.run surroundings calls).journal.attempts.rows.filter
      StoredAttempt.isUncertain).map StoredAttempt.hold)
  apart : ∀ a ∈ (History.run surroundings calls).journal.attempts.rows,
    ∀ b ∈ (History.run surroundings calls).journal.attempts.rows, a.isUncertain = true →
      b.isUncertain = true → a.attemptId ≠ b.attemptId →
        ¬Alias a.intent.projectKey b.intent.projectKey
  sentOnce : ((History.run surroundings calls).sent.map StoredAttempt.attemptId).Nodup
  operationOnce : ((History.run surroundings calls).sent.map StoredAttempt.operation).Nodup
  notCancelled : ∀ a ∈ (History.run surroundings calls).sent,
    ∀ b ∈ (History.run surroundings calls).cancelled, a.attemptId ≠ b.attemptId
  final : ∀ later, ∀ row ∈ (History.run surroundings calls).journal.attempts.rows,
    row.state.isFinal = true →
      row ∈ (History.run surroundings (calls ++ later)).journal.attempts.rows
  revision : ∀ call, ∀ row ∈ (History.run surroundings calls).journal.attempts.rows,
    ∃ row' ∈ (History.run surroundings (calls ++ [call])).journal.attempts.rows,
      row'.attemptId = row.attemptId ∧ (row' = row ∨ row'.revision = row.revision + 1)
  refused : ∀ call error,
    (perform surroundings (History.run surroundings calls).journal call).2 = .error error →
      (History.run surroundings (calls ++ [call])).journal =
        (History.run surroundings calls).journal

/-- **The journal.**  Every run of calls keeps the holds in step with the attempts whose
effect may be under way, and sends each of them at most once. -/
theorem journal_guarantees (surroundings : Surroundings) (calls : List Call) :
    Guarantees surroundings calls := by
  have hsound := History.sound_run surroundings calls
  have hconcat (call : Call) : (History.run surroundings (calls ++ [call])).journal =
      (perform surroundings (History.run surroundings calls).journal call).1 := by
    rw [History.run, runFrom_concat, History.step_journal]
    rfl
  refine ⟨hsound.journal.matched, hsound.journal.apart, hsound.once, ?_, ?_, ?_, ?_, ?_⟩
  · refine List.Nodup.map_on ?_ (List.Nodup.of_map _ hsound.once)
    intro a ha b hb hsame
    obtain ⟨row, hrow, hid, hintent, -⟩ := hsound.sent a ha
    obtain ⟨row', hrow', hid', hintent', -⟩ := hsound.sent b hb
    have hoperation : row.operation = row'.operation := by
      rw [StoredAttempt.operation, StoredAttempt.operation, hintent, hintent']
      exact hsame
    have hrows : row = row' :=
      List.inj_on_of_nodup_map hsound.journal.operations hrow hrow' hoperation
    refine List.inj_on_of_nodup_map hsound.once ha hb ?_
    rw [← hid, ← hid', hrows]
  · intro a ha b hb hsame
    obtain ⟨row, hrow, hid, -, hsome⟩ := hsound.sent a ha
    obtain ⟨row', hrow', hid', -, hnone⟩ := hsound.cancelled b hb
    have hrows : row = row' := (History.run surroundings calls).journal.row_unique hrow hrow'
      (hid.trans (hsame.trans hid'.symm))
    rw [hrows, hnone] at hsome
    cases hsome
  · intro later row hrow hfinal
    rw [History.run, runFrom_append]
    refine (runFrom_invariant (History.step surroundings)
      (P := fun history => history.Sound surroundings.fits ∧
        row ∈ history.journal.attempts.rows) (fun history call h => ⟨h.1.step call, ?_⟩)
      ⟨hsound, hrow⟩ later).2
    rw [History.step_journal]
    exact (perform_evolves h.1.journal call).final h.2 hfinal
  · intro call row hrow
    obtain ⟨row', hrow', hid, hstep⟩ := perform_evolves hsound.journal call row hrow
    rw [hconcat]
    exact ⟨row', hrow', hid, hstep.imp_right Moves.revision⟩
  · intro call error herror
    rw [hconcat]
    rw [perform] at herror ⊢
    cases hcall : transaction surroundings (History.run surroundings calls).journal call with
    | error error => rfl
    | ok result =>
        rw [hcall] at herror
        cases herror

end Runs

end ChainworksForge.Xcode
