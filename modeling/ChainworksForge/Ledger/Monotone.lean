import ChainworksForge.Ledger.RetryBudget
import ChainworksForge.Support.Runs

/-!
# The budget of a hold is consumed once

No transaction takes the consumption of a hold back or changes the journal entry
that it was consumed by.  One statement consumes a hold without looking at its
state; it keeps the journal entry of an earlier consumption all the same.
-/

namespace ChainworksForge.Ledger

open ChainworksForge.Support

variable {db db' : Store} {journalId : Option Text}

/-! ## What a transaction does to a hold -/

/-- What can become of a hold in a transaction for a journal entry: its budget stays
as it is, or the transaction consumes it, and an earlier journal entry stays. -/
def HoldStep (journalId : Option Text) (row row' : AgentRetryBudgetLedgerRow) : Prop :=
  (row'.normalBudgetConsumed = row.normalBudgetConsumed ∧
    row'.earlyRetryJournalId = row.earlyRetryJournalId) ∨
  (row'.normalBudgetConsumed = true ∧ ∃ id, journalId = some id ∧
    row'.earlyRetryJournalId = some (row.earlyRetryJournalId.getD id))

theorem HoldStep.refl (row : AgentRetryBudgetLedgerRow) : HoldStep journalId row row :=
  .inl ⟨rfl, rfl⟩

theorem HoldStep.trans {row row' row'' : AgentRetryBudgetLedgerRow}
    (h : HoldStep journalId row row') (h' : HoldStep journalId row' row'') :
    HoldStep journalId row row'' := by
  rcases h with ⟨hconsumed, hjournal⟩ | ⟨hconsumed, id, hid, hjournal⟩
  · rcases h' with ⟨hconsumed', hjournal'⟩ | ⟨hconsumed', id, hid, hjournal'⟩
    · exact .inl ⟨hconsumed'.trans hconsumed, hjournal'.trans hjournal⟩
    · exact .inr ⟨hconsumed', id, hid, by rw [hjournal', hjournal]⟩
  · rcases h' with ⟨hconsumed', hjournal'⟩ | ⟨hconsumed', id', hid', hjournal'⟩
    · exact .inr ⟨hconsumed'.trans hconsumed, id, hid, hjournal'.trans hjournal⟩
    · refine .inr ⟨hconsumed', id, hid, ?_⟩
      rw [hjournal', hjournal]
      rfl

/-- What a transaction does to the ledger: every hold stays and takes a step, and a
new hold is not consumed. -/
structure LedgerStep (journalId : Option Text) (db db' : Store) : Prop where
  kept : ∀ id row, db.ledger.find id = some row →
    ∃ row', db'.ledger.find id = some row' ∧ HoldStep journalId row row'
  added : ∀ id row, db'.ledger.find id = some row → db.ledger.find id = none →
    row.normalBudgetConsumed = false ∧ row.earlyRetryJournalId = none

theorem LedgerStep.refl (db : Store) : LedgerStep journalId db db where
  kept := fun _ row hrow => ⟨row, hrow, .refl row⟩
  added := fun id row hsome hnone => by
    rw [hnone] at hsome
    cases hsome

theorem LedgerStep.trans {db₁ db₂ db₃ : Store} (h₁ : LedgerStep journalId db₁ db₂)
    (h₂ : LedgerStep journalId db₂ db₃)
    (hkeys : ∀ id, db₁.ledger.find id = none → db₂.ledger.find id = none) :
    LedgerStep journalId db₁ db₃ where
  kept := by
    intro id row hrow
    obtain ⟨row', hrow', hstep⟩ := h₁.kept id row hrow
    obtain ⟨row'', hrow'', hstep'⟩ := h₂.kept id row' hrow'
    exact ⟨row'', hrow'', hstep.trans hstep'⟩
  added := fun id row hsome hnone => h₂.added id row hsome (hkeys id hnone)

/-- A change of holds is a step if the change of each hold is one. -/
theorem ledgerStep_updateHolds {condition : AgentRetryBudgetLedgerRow → Bool}
    {change : AgentRetryBudgetLedgerRow → AgentRetryBudgetLedgerRow}
    {hkey : ∀ row, (change row).id = row.id}
    (hchange : ∀ row, HoldStep journalId row (change row)) :
    LedgerStep journalId db (updateHolds db condition change hkey) where
  kept := by
    intro id row hrow
    refine ⟨if condition row then change row else row, ?_, ?_⟩
    · rw [updateHolds, Table.find_update, hrow]
      rfl
    · split
      · exact hchange row
      · exact .refl row
  added := by
    intro id row hsome hnone
    rw [updateHolds, Table.find_update, hnone] at hsome
    cases hsome

theorem find_updateHolds_eq_none {condition : AgentRetryBudgetLedgerRow → Bool}
    {change : AgentRetryBudgetLedgerRow → AgentRetryBudgetLedgerRow}
    {hkey : ∀ row, (change row).id = row.id} {id : Text}
    (hnone : db.ledger.find id = none) :
    (updateHolds db condition change hkey).ledger.find id = none := by
  rw [updateHolds, Table.find_update, hnone]
  rfl

theorem holdStep_consumedBy (row : AgentRetryBudgetLedgerRow) (id : Text)
    (state : HoldState) (now : Queue.Instant) :
    HoldStep (some id) row (row.consumedBy id state now) :=
  .inr ⟨rfl, id, rfl, rfl⟩

/-! ## Single transactions -/

theorem upsertQuotaFailureForOwner_step {failure : QuotaFailure} {id : Text}
    {now : Queue.Instant} (hrun : upsertQuotaFailureForOwner db failure id now = .ok db') :
    LedgerStep journalId db db' := by
  simp only [upsertQuotaFailureForOwner] at hrun
  split_ifs at hrun with howner hknown
  · obtain rfl := Except.ok.inj hrun
    exact ledgerStep_updateHolds fun row => .inl ⟨rfl, rfl⟩
  · split at hrun
    · rename_i ledger hinsert
      obtain rfl := Except.ok.inj hrun
      obtain ⟨hfree, rfl⟩ := (Table.insert_eq_some_iff _).1 hinsert
      refine ⟨fun other row hrow => ⟨row, ?_, .refl row⟩, fun other row hsome hnone => ?_⟩
      · rw [Table.find_add, if_neg]
        · exact hrow
        · rintro rfl
          rw [hrow] at hfree
          cases hfree
      · rw [Table.find_add] at hsome
        split at hsome
        · obtain rfl := Option.some.inj hsome
          exact ⟨rfl, rfl⟩
        · rw [hnone] at hsome
          cases hsome
    · cases hrun

/-- A transaction that changes holds and then reads one back. -/
theorem updateHolds_of_read {changed : Store} {id : Text}
    (hrun : (do
      let _ ← findById changed id
      return changed : Except Text Store) = .ok db') : db' = changed := by
  simp only [bind_eq_ok_iff, pure_eq_ok_iff] at hrun
  obtain ⟨-, -, rfl⟩ := hrun
  rfl

theorem markQuotaResetElapsed_eq {id : Text} {now : Queue.Instant}
    (hrun : markQuotaResetElapsed db id now = .ok db') :
    LedgerStep journalId db db' ∧
      ∀ other, db.ledger.find other = none → db'.ledger.find other = none := by
  obtain rfl := updateHolds_of_read hrun
  exact ⟨ledgerStep_updateHolds fun row => .inl ⟨rfl, rfl⟩,
    fun other => find_updateHolds_eq_none⟩

theorem updateOneHold_step {id : Text} {condition : AgentRetryBudgetLedgerRow → Bool}
    {change : AgentRetryBudgetLedgerRow → AgentRetryBudgetLedgerRow} {message : String}
    {hkey : ∀ row, (change row).id = row.id}
    (hchange : ∀ row, HoldStep journalId row (change row))
    (hrun : updateOneHold db id condition change message hkey = .ok db') :
    LedgerStep journalId db db' := by
  rw [updateOneHold, bind_eq_ok_iff] at hrun
  obtain ⟨-, -, hrun⟩ := hrun
  obtain rfl := updateHolds_of_read hrun
  exact ledgerStep_updateHolds hchange

theorem consumeEarlyQuotaRetry_step {id entry : Text} {now : Queue.Instant}
    (hrun : consumeEarlyQuotaRetry db id entry now = .ok db') :
    LedgerStep (some entry) db db' ∧
      ∀ other, db.ledger.find other = none → db'.ledger.find other = none := by
  obtain rfl := updateHolds_of_read hrun
  exact ⟨ledgerStep_updateHolds fun row => holdStep_consumedBy row _ _ _,
    fun other => find_updateHolds_eq_none⟩

theorem markResetElapsedRetryScheduled_step {id entry : Text} {now : Queue.Instant}
    (hrun : markResetElapsedRetryScheduled db id entry now = .ok db') :
    LedgerStep (some entry) db db' := by
  simp only [markResetElapsedRetryScheduled, bind_eq_ok_iff] at hrun
  obtain ⟨-, -, hrun⟩ := hrun
  obtain rfl := updateHolds_of_read ((bind_eq_ok_iff _ _ _).2 hrun)
  exact ledgerStep_updateHolds fun row => holdStep_consumedBy row _ _ _

theorem consumeFamilyHolds_step (db : Store) (providerFamily : Text)
    (model : Option Text) (now : Queue.Instant) (entry : Text) :
    LedgerStep (some entry) db (consumeFamilyHolds db providerFamily model now entry) :=
  ledgerStep_updateHolds fun row => holdStep_consumedBy row _ _ _

/-- The loop over the holds of a stage, each of which is consumed or marked. -/
theorem applyQuotaRetryBudgetForStage_step {runId stageExecutionId : Uuid}
    {consumeNow : Bool} {entry : Text} {now : Queue.Instant}
    (hrun : applyQuotaRetryBudgetForStage db runId stageExecutionId consumeNow entry now =
      .ok db') : LedgerStep (some entry) db db' := by
  have hloop : LedgerStep (some entry) db db' ∧
      ∀ other, db.ledger.find other = none → db'.ledger.find other = none := by
    refine foldlM_preserves (P := fun mid => LedgerStep (some entry) db mid ∧
      ∀ other, db.ledger.find other = none → mid.ledger.find other = none) ?_
      ⟨.refl db, fun _ hnone => hnone⟩ hrun
    rintro mid row next - ⟨hstep, hkeys⟩ hnext
    have hone : LedgerStep (some entry) mid next ∧
        ∀ other, mid.ledger.find other = none → next.ledger.find other = none := by
      unfold applyQuotaRetryBudgetForHold at hnext
      split_ifs at hnext
      · obtain rfl := Except.ok.inj hnext
        exact ⟨.refl mid, fun _ hnone => hnone⟩
      · exact consumeEarlyQuotaRetry_step hnext
      · exact markQuotaResetElapsed_eq hnext
    exact ⟨hstep.trans hone.1 hkeys, fun other hnone => hone.2 other (hkeys other hnone)⟩
  exact hloop.1

/-! ## Every transaction -/

/-- The journal entry of the retry that a transaction belongs to. -/
def LedgerAction.retryOf (db : Store) : LedgerAction → Option Text
  | .markResetElapsedRetryScheduled _ journalId _ => some journalId
  | .consumeEarlyQuotaRetry _ journalId _ => some journalId
  | .consumeForOperatorOverride _ _ _ journalId => some journalId
  | .applyQuotaRetryBudget _ _ _ journalId _ => some journalId
  | .consumeForRetryTarget stageExecutionId _ _ _ =>
      (consumingAuthority db stageExecutionId).toOption.join
  | _ => none

theorem attempt_step {action : LedgerAction} (hrun : attempt db action = .ok db') :
    LedgerStep (action.retryOf db) db db' := by
  cases action with
  | upsertQuotaFailure failure id now => exact upsertQuotaFailureForOwner_step hrun
  | markQuotaResetElapsed id now => exact (markQuotaResetElapsed_eq hrun).1
  | markElapsedProviderQuotaWaits now =>
      obtain rfl := Except.ok.inj hrun
      exact ledgerStep_updateHolds fun row => .inl ⟨rfl, rfl⟩
  | deferResetElapsedRetry id retryAfter updatedAt =>
      refine updateOneHold_step (fun row => ?_) hrun
      exact .inl ⟨rfl, rfl⟩
  | reconcileHistoricalQuotaReset id retryAfter updatedAt =>
      refine updateOneHold_step (fun row => ?_) hrun
      exact .inl ⟨rfl, rfl⟩
  | markResetElapsedRetryScheduled id entry now =>
      exact markResetElapsedRetryScheduled_step hrun
  | consumeEarlyQuotaRetry id entry now => exact (consumeEarlyQuotaRetry_step hrun).1
  | consumeForRetryTarget stageExecutionId providerFamily model now =>
      simp only [attempt, consumeActiveProviderFamilyQuotaForRetryTarget,
        bind_eq_ok_iff] at hrun
      obtain ⟨authority, hauthority, hrun⟩ := hrun
      have hjournal : LedgerAction.retryOf db
          (.consumeForRetryTarget stageExecutionId providerFamily model now) =
            authority := by
        simp [LedgerAction.retryOf, hauthority, Except.toOption]
      rw [hjournal]
      cases authority with
      | none =>
          obtain rfl := (pure_eq_ok_iff _ _).1 hrun
          exact .refl db
      | some entry =>
          obtain rfl := (pure_eq_ok_iff _ _).1 hrun
          exact consumeFamilyHolds_step db _ _ _ entry
  | consumeForOperatorOverride providerFamily model now entry =>
      obtain rfl := Except.ok.inj hrun
      exact consumeFamilyHolds_step db _ _ _ entry
  | applyQuotaRetryBudget runId stageExecutionId consumeNow entry now =>
      exact applyQuotaRetryBudgetForStage_step hrun

theorem perform_step (db : Store) (action : LedgerAction) :
    LedgerStep (action.retryOf db) db (perform db action) := by
  unfold perform
  split
  · rename_i changed hrun
    exact attempt_step hrun
  · exact .refl db

/-! ## Runs -/

/-- The budget of a hold has been consumed. -/
def IsConsumed (id : Text) (db : Store) : Prop :=
  ∃ row, db.ledger.find id = some row ∧ row.normalBudgetConsumed = true

theorem isConsumed_iff {id : Text} :
    IsConsumed id db ↔ (db.ledger.find id).any (·.normalBudgetConsumed) = true := by
  rw [Option.any_eq_true]
  exact Iff.rfl

/-- The budget of a hold has been consumed by the retry of a journal entry. -/
def IsConsumedBy (id journalId : Text) (db : Store) : Prop :=
  ∃ row, db.ledger.find id = some row ∧ row.normalBudgetConsumed = true ∧
    row.earlyRetryJournalId = some journalId

/-- A journal entry stands exactly at the consumed holds. -/
def JournalRecorded (db : Store) : Prop :=
  ∀ id row, db.ledger.find id = some row →
    (row.normalBudgetConsumed = true ↔ row.earlyRetryJournalId.isSome = true)

theorem HoldStep.consumed {row row' : AgentRetryBudgetLedgerRow}
    (h : HoldStep journalId row row') (hconsumed : row.normalBudgetConsumed = true) :
    row'.normalBudgetConsumed = true := by
  rcases h with ⟨hsame, -⟩ | ⟨htrue, -⟩
  · rw [hsame, hconsumed]
  · exact htrue

theorem HoldStep.journal {row row' : AgentRetryBudgetLedgerRow} {id : Text}
    (h : HoldStep journalId row row') (hjournal : row.earlyRetryJournalId = some id) :
    row'.earlyRetryJournalId = some id := by
  rcases h with ⟨-, hsame⟩ | ⟨-, other, -, hkept⟩
  · rw [hsame, hjournal]
  · rw [hkept, hjournal]
    rfl

theorem isConsumed_perform (id : Text) (db : Store) (action : LedgerAction)
    (h : IsConsumed id db) : IsConsumed id (perform db action) := by
  obtain ⟨row, hrow, hconsumed⟩ := h
  obtain ⟨row', hrow', hstep⟩ := (perform_step db action).kept id row hrow
  exact ⟨row', hrow', hstep.consumed hconsumed⟩

theorem isConsumedBy_perform (id entry : Text) (db : Store) (action : LedgerAction)
    (h : IsConsumedBy id entry db) : IsConsumedBy id entry (perform db action) := by
  obtain ⟨row, hrow, hconsumed, hjournal⟩ := h
  obtain ⟨row', hrow', hstep⟩ := (perform_step db action).kept id row hrow
  exact ⟨row', hrow', hstep.consumed hconsumed, hstep.journal hjournal⟩

theorem journalRecorded_perform (db : Store) (action : LedgerAction)
    (h : JournalRecorded db) : JournalRecorded (perform db action) := by
  intro id row' hrow'
  have hstep := perform_step db action
  cases hold : db.ledger.find id with
  | none =>
      obtain ⟨hconsumed, hjournal⟩ := hstep.added id row' hrow' hold
      simp [hconsumed, hjournal]
  | some row =>
      obtain ⟨kept, hkept, hhold⟩ := hstep.kept id row hold
      rw [hrow'] at hkept
      obtain rfl := Option.some.inj hkept
      rcases hhold with ⟨hconsumed, hjournal⟩ | ⟨hconsumed, entry, -, hjournal⟩
      · rw [hconsumed, hjournal]
        exact h id row hold
      · simp [hconsumed, hjournal]

/-- The transaction that consumes a hold leaves its own journal entry there. -/
theorem consumed_by_action {db : Store} {action : LedgerAction} {id : Text}
    (hrecorded : JournalRecorded db) (hbefore : ¬IsConsumed id db)
    (hafter : IsConsumed id (perform db action)) :
    ∃ entry, action.retryOf db = some entry ∧
      IsConsumedBy id entry (perform db action) := by
  obtain ⟨row', hrow', hconsumed⟩ := hafter
  have hstep := perform_step db action
  cases hold : db.ledger.find id with
  | none =>
      have hnew := (hstep.added id row' hrow' hold).1
      rw [hnew] at hconsumed
      cases hconsumed
  | some row =>
      have hfalse : row.normalBudgetConsumed = false := by
        rw [← Bool.not_eq_true]
        exact fun htrue => hbefore ⟨row, hold, htrue⟩
      have hnone : row.earlyRetryJournalId = none := by
        have hiff := hrecorded id row hold
        rw [hfalse] at hiff
        simpa using hiff
      obtain ⟨kept, hkept, hhold⟩ := hstep.kept id row hold
      rw [hrow'] at hkept
      obtain rfl := Option.some.inj hkept
      rcases hhold with ⟨hsame, -⟩ | ⟨-, entry, hentry, hjournal⟩
      · rw [hsame, hfalse] at hconsumed
        cases hconsumed
      · refine ⟨entry, hentry, row', hrow', hconsumed, ?_⟩
        rw [hjournal, hnone]
        rfl

/-! ## A second consumption -/

/-- What the consuming calls answer for a hold that is consumed.  The early retry
succeeds again and writes its state and its time, under the journal entry that stands
there; the other calls leave the hold as it is. -/
structure AnsweredAgain (db : Store) (row : AgentRetryBudgetLedgerRow) : Prop where
  early : ∀ entry now, ∃ db', consumeEarlyQuotaRetry db row.id entry now = .ok db' ∧
    db'.ledger.find row.id = some (row.consumedBy entry .earlyRetryConsumed now)
  elapsed : ∀ source entry now db',
    markResetElapsedRetryScheduled db source entry now = .ok db' →
      db'.ledger.find row.id = some row
  family : ∀ providerFamily model now entry,
    (consumeFamilyHolds db providerFamily model now entry).ledger.find row.id = some row
  stage : ∀ consumeNow entry stageExecutionId now,
    applyQuotaRetryBudgetForHold consumeNow entry stageExecutionId now db row = .ok db

theorem find_updateHolds {row : AgentRetryBudgetLedgerRow} {id : Text}
    {condition : AgentRetryBudgetLedgerRow → Bool}
    {change : AgentRetryBudgetLedgerRow → AgentRetryBudgetLedgerRow}
    {hkey : ∀ row, (change row).id = row.id} (hrow : db.ledger.find id = some row) :
    (updateHolds db condition change hkey).ledger.find id =
      some (if condition row then change row else row) := by
  rw [updateHolds, Table.find_update, hrow]
  rfl

/-- A statement about holds that are not consumed leaves a consumed one. -/
theorem find_updateHolds_of_consumed {row : AgentRetryBudgetLedgerRow} {id : Text}
    {condition : AgentRetryBudgetLedgerRow → Bool}
    {change : AgentRetryBudgetLedgerRow → AgentRetryBudgetLedgerRow}
    {hkey : ∀ row, (change row).id = row.id} (hrow : db.ledger.find id = some row)
    (hfalse : condition row = false) :
    (updateHolds db condition change hkey).ledger.find id = some row := by
  rw [find_updateHolds hrow, hfalse]
  rfl

theorem answeredAgain {row : AgentRetryBudgetLedgerRow} {id : Text}
    (hrow : db.ledger.find id = some row) (hconsumed : row.normalBudgetConsumed = true) :
    AnsweredAgain db row := by
  obtain rfl : row.id = id := (db.ledger.find_eq_some_iff.1 hrow).2
  refine ⟨fun entry now => ?_, fun source entry now db' hrun => ?_,
    fun providerFamily model now entry => ?_, fun consumeNow entry stage now => ?_⟩
  · have hread : (updateHolds db (fun other => other.id = row.id)
        fun other => other.consumedBy entry .earlyRetryConsumed now).ledger.find row.id =
          some (row.consumedBy entry .earlyRetryConsumed now) := by
      refine (find_updateHolds hrow).trans ?_
      rw [decide_eq_true rfl, if_pos rfl]
    refine ⟨_, ?_, hread⟩
    rw [consumeEarlyQuotaRetry, bind_eq_ok_iff]
    exact ⟨_, (required_eq_ok_iff _ _ _).2 hread, rfl⟩
  · simp only [markResetElapsedRetryScheduled, bind_eq_ok_iff] at hrun
    obtain ⟨-, -, hrun⟩ := hrun
    obtain rfl := updateHolds_of_read ((bind_eq_ok_iff _ _ _).2 hrun)
    exact find_updateHolds_of_consumed hrow (by simp [hconsumed])
  · exact find_updateHolds_of_consumed hrow (by simp [isActiveFamilyHold, hconsumed])
  · rw [applyQuotaRetryBudgetForHold, if_pos hconsumed]

/-- Over every run of transactions, a consumed hold stays consumed and keeps its
journal entry, at most one transaction consumes a hold, and where journal entries
stand exactly at consumed holds, as in an empty ledger, this transaction's journal
entry is the one that stays.  A consuming call for a consumed hold changes neither. -/
theorem ledger_is_monotone (db : Store) (events later : List LedgerAction) (id : Text) :
    (IsConsumed id (runFrom perform db events) →
      IsConsumed id (runFrom perform db (events ++ later))) ∧
    (∀ entry, IsConsumedBy id entry (runFrom perform db events) →
      IsConsumedBy id entry (runFrom perform db (events ++ later))) ∧
    (∀ action other, BringsAbout perform (IsConsumed id) db events action →
      ¬BringsAbout perform (IsConsumed id) db (events ++ action :: later) other) ∧
    (JournalRecorded db →
      JournalRecorded (runFrom perform db events) ∧
      ∀ action, BringsAbout perform (IsConsumed id) db events action →
        ∃ entry, action.retryOf (runFrom perform db events) = some entry ∧
          IsConsumedBy id entry (runFrom perform db (events ++ action :: later))) ∧
    (∀ row, (runFrom perform db events).ledger.find id = some row →
      row.normalBudgetConsumed = true → AnsweredAgain (runFrom perform db events) row) := by
  refine ⟨fun hconsumed => ?_, fun entry hconsumed => ?_, fun action other hfirst => ?_,
    fun hrecorded => ⟨?_, fun action hfirst => ?_⟩, fun row => answeredAgain⟩
  · rw [runFrom_append]
    exact runFrom_invariant perform (isConsumed_perform id) hconsumed later
  · rw [runFrom_append]
    exact runFrom_invariant perform (isConsumedBy_perform id entry) hconsumed later
  · exact bringsAbout_at_most_once perform (isConsumed_perform id) hfirst
  · exact runFrom_invariant perform journalRecorded_perform hrecorded events
  · have hmid := runFrom_invariant perform journalRecorded_perform hrecorded events
    obtain ⟨hbefore, hafter⟩ := hfirst
    rw [runFrom_concat] at hafter
    obtain ⟨entry, hentry, hby⟩ := consumed_by_action hmid hbefore hafter
    refine ⟨entry, hentry, ?_⟩
    rw [runFrom_append, runFrom_cons]
    exact runFrom_invariant perform (isConsumedBy_perform id entry) hby later

/-! ## A repeated consumption -/

def emptyLedger : Store := ⟨Table.empty, [], [], []⟩

def sampleFailure : QuotaFailure where
  runId := Queue.repeatedUuid 1
  ownerKind := .stageExecution
  ownerId := (Queue.repeatedUuid 2).text
  stageExecutionId := some (Queue.repeatedUuid 2)
  agentExecutionId := Queue.repeatedUuid 3
  retryAfter := some ⟨100, "100".toList⟩

/-- A hold is recorded. -/
def recordedHold : List LedgerAction :=
  [.upsertQuotaFailure sampleFailure "hold".toList ⟨1, "001".toList⟩]

/-- Two retries consume it, and the failure is delivered again. -/
def repeatedConsumption : List LedgerAction :=
  [.consumeEarlyQuotaRetry "hold".toList "second".toList ⟨3, "003".toList⟩,
    .upsertQuotaFailure sampleFailure "again".toList ⟨4, "004".toList⟩]

/-- The hold stays with the first of two retries that consume it. -/
theorem first_retry_keeps_the_hold :
    IsConsumedBy "hold".toList "first".toList
      (runFrom perform emptyLedger
        (recordedHold ++
          .consumeEarlyQuotaRetry "hold".toList "first".toList ⟨2, "002".toList⟩ ::
            repeatedConsumption)) := by
  have hrecorded : JournalRecorded emptyLedger := by
    intro id row hrow
    cases hrow
  obtain ⟨-, hfirst⟩ := (ledger_is_monotone emptyLedger recordedHold repeatedConsumption
    "hold".toList).2.2.2.1 hrecorded
  have hconsumes : BringsAbout perform (IsConsumed "hold".toList) emptyLedger recordedHold
      (.consumeEarlyQuotaRetry "hold".toList "first".toList ⟨2, "002".toList⟩) := by
    constructor
    · rw [isConsumed_iff]
      decide +kernel
    · rw [isConsumed_iff]
      decide +kernel
  obtain ⟨entry, hentry, hby⟩ := hfirst _ hconsumes
  obtain rfl := Option.some.inj hentry
  exact hby

end ChainworksForge.Ledger
