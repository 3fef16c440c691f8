import ChainworksForge.Release.Resolution

/-!
# Refused settlements

A settlement runs in a transaction of its caller, which commits its own work next to
it.  Up to three tables change, one statement after the other, and the settlement may
refuse after the first of them.  What is left then stays with the caller's work.

The statement on the effect decides almost everything: where it finds the row it
expects, the attempt that the call names should exist and belong to the effect.
-/

namespace ChainworksForge.Release

open ChainworksForge.Support

/-- The arguments of `executorFailCasTx`. -/
structure ExecutorFailCasParams where
  effectId : Text
  ownerInstanceId : Text
  attemptId : Text
  observedLeaseRenewedAt : Text
  lastErrorKind : Text
  lastError : Text
  now : Text

/-- The calls that settle an effect inside the transaction of a caller. -/
inductive SettlementCall where
  | executorSettle (params : ExecutorSettleCasParams) (settlementId : Text)
  | executorFail (params : ExecutorFailCasParams)
  | operatorDisposition (disposition : OperatorDisposition) (settlementId : Text)

namespace SettlementCall

/-- The ledger inside the transaction after a call, and whether the call reports
success. -/
def run (db : Store) : SettlementCall → Except Text (Store × Bool)
  | executorSettle params settlementId => executorSettleCasTx db params settlementId
  | executorFail params =>
      executorFailCasTx db params.effectId params.ownerInstanceId params.attemptId
        params.observedLeaseRenewedAt params.lastErrorKind params.lastError params.now
  | operatorDisposition disposition settlementId =>
      (applyOperatorDispositionTx db disposition settlementId).map fun (changed, outcome) =>
        (changed, decide (outcome = .applied))

def effectId : SettlementCall → Text
  | executorSettle params _ => params.effectId
  | executorFail params => params.effectId
  | operatorDisposition disposition _ => disposition.effectId

/-- The status that a call gives its effect. -/
def newStatus : SettlementCall → SideEffectStatus
  | executorSettle params _ => params.newStatus
  | executorFail _ => .needsReconciliation
  | operatorDisposition disposition _ => disposition.newStatus

/-- The attempt that a call completes; a disposition completes none. -/
def attemptId : SettlementCall → Option Text
  | executorSettle params _ => some params.settlementAttemptId
  | executorFail params => some params.attemptId
  | operatorDisposition _ _ => none

/-- Whether a call records a settlement; a failure waits for one. -/
def settles : SettlementCall → Bool
  | executorSettle _ _ => true
  | executorFail _ => false
  | operatorDisposition _ _ => true

end SettlementCall

/-- The end of an attempt whose effect gets a status. -/
def exitStatusOf (status : SideEffectStatus) : ExitStatus :=
  if status = .settled then .succeeded else .failed

/-- The settlements of an effect have the status and the attempt of a call. -/
def SettlementsAgree (db : Store) (call : SettlementCall) : Prop :=
  ∀ settlement ∈ db.settlements.rows, settlement.sideEffectId = call.effectId →
    settlement.settlementStatus = call.newStatus ∧
      settlement.settlementAttemptId = call.attemptId

/-- An attempt exists and belongs to an effect. -/
def attemptBelongs (db : Store) (attemptId effectId : Text) : Bool :=
  db.attempts.rows.any fun attempt => attempt.id = attemptId ∧ attempt.sideEffectId = effectId

/-- The effect, its attempt and its settlement agree on the outcome of a call. -/
structure AgreesOn (db : Store) (call : SettlementCall) : Prop where
  effect : ∃ effect, db.effects.find call.effectId = some effect ∧
    effect.status = call.newStatus
  attempt : ∀ attemptId, call.attemptId = some attemptId →
    ∃ attempt, db.attempts.find attemptId = some attempt ∧
      attempt.sideEffectId = call.effectId ∧
      attempt.exitStatus = some (exitStatusOf call.newStatus)
  settled : call.settles = true → hasSettlement db call.effectId = true
  settlements : SettlementsAgree db call

/-- A refused call leaves the ledger of the transaction as it was, and after a success
the rows agree. -/
structure Sound (db : Store) (call : SettlementCall) : Prop where
  refused : ∀ changed, call.run db = .ok (changed, false) → changed = db
  agreed : ∀ changed, call.run db = .ok (changed, true) → AgreesOn changed call

/-! ## The statement on the effect -/

/-- A statement finds the row that it expects, and the index admits the change. -/
def StatementWins (db : Store) (id : Text) (expected : SideEffect → Bool)
    (change : SideEffect → SideEffect) (effect : SideEffect) : Prop :=
  db.effects.find id = some effect ∧ expected effect = true ∧
    admitsTarget db (change effect) = true

/-- The row that a settlement expects. -/
def settleExpects (db : Store) (params : ExecutorSettleCasParams) (effect : SideEffect) :
    Bool :=
  effect.ownerInstanceId = some params.ownerInstanceId ∧
    hasSettlement db params.effectId = false ∧
    ((effect.status = .executing ∧
        (effect.leaseExpiresAt.any fun expiry => ¬expiry < params.now) ∧
        effect.leaseRenewedAt = some params.observedLeaseRenewedAt) ∨
      effect.status = .externallyObserved)

/-- The row that a settlement leaves. -/
def settleChange (params : ExecutorSettleCasParams) (effect : SideEffect) : SideEffect :=
  { effect with
    status := params.newStatus
    observedEvidenceSummaryJson :=
      params.observedEvidenceSummaryJson.or effect.observedEvidenceSummaryJson
    lastErrorKind := params.lastErrorKind
    lastError := params.lastError
    settlementTxnId := some params.settlementTxnId
    updatedAt := params.now }

theorem settleChange_id (params : ExecutorSettleCasParams) (effect : SideEffect) :
    (settleChange params effect).id = effect.id := rfl

/-- The row that a failure expects. -/
def failExpects (params : ExecutorFailCasParams) (effect : SideEffect) : Bool :=
  effect.status = .executing ∧ effect.ownerInstanceId = some params.ownerInstanceId ∧
    effect.leaseRenewedAt.or effect.leaseAcquiredAt = some params.observedLeaseRenewedAt

/-- The row that a failure leaves. -/
def failChange (params : ExecutorFailCasParams) (effect : SideEffect) : SideEffect :=
  { effect with
    status := .needsReconciliation, lastErrorKind := some params.lastErrorKind
    lastError := some params.lastError, updatedAt := params.now }

theorem failChange_id (params : ExecutorFailCasParams) (effect : SideEffect) :
    (failChange params effect).id = effect.id := rfl

/-- The rows are such that a call is sound: wherever its statement on the effect wins,
the attempt that it names belongs to the effect.  A settlement that would write the
values the effect already holds needs no attempt, and a failure also finds no
settlement of another outcome. -/
def SettlementCall.FindsRows (db : Store) : SettlementCall → Prop
  | executorSettle params _ => ∀ effect,
      StatementWins db params.effectId (settleExpects db params) (settleChange params) effect →
        attemptBelongs db params.settlementAttemptId params.effectId = true ∨
          settleChange params effect = effect
  | executorFail params => ∀ effect,
      StatementWins db params.effectId (failExpects params) (failChange params) effect →
        attemptBelongs db params.attemptId params.effectId = true ∧
          SettlementsAgree db (executorFail params)
  | operatorDisposition _ _ => True

/-- The ledger with one effect changed. -/
def changeEffect (db : Store) (id : Text) (change : SideEffect → SideEffect)
    (hkey : ∀ effect, (change effect).id = effect.id := by intro; rfl) : Store :=
  { db with effects := db.effects.update (fun row => row.id = id) change hkey }

variable {db changed : Store}

section Statement

variable {id : Text} {expected : SideEffect → Bool} {change : SideEffect → SideEffect}
  (hkey : ∀ effect, (change effect).id = effect.id) {effect : SideEffect}

theorem compareAndSet_of_wins (hwins : StatementWins db id expected change effect) :
    compareAndSet db id expected change hkey =
      .ok (changeEffect db id change hkey, true) := by
  obtain ⟨hfind, hexpected, hadmits⟩ := hwins
  simp only [compareAndSet, hfind, hexpected, hadmits, if_true, changeEffect]

/-- A statement leaves the ledger or wins. -/
theorem compareAndSet_wins {won : Bool}
    (hrun : compareAndSet db id expected change hkey = .ok (changed, won)) :
    (won = false ∧ changed = db) ∨
    (won = true ∧ changed = changeEffect db id change hkey ∧
      ∃ effect, StatementWins db id expected change effect) := by
  rcases compareAndSet_cases hkey hrun with
    hlost | ⟨hwon, effect, hfind, hexpected, hadmits, hchanged⟩
  · exact .inl hlost
  · exact .inr ⟨hwon, hchanged, effect, hfind, hexpected, hadmits⟩

/-- The row of the statement after it won. -/
theorem find_changeEffect (hwins : StatementWins db id expected change effect) :
    (changeEffect db id change hkey).effects.find id = some (change effect) := by
  have hid : effect.id = id := (db.effects.find_eq_some_iff.1 hwins.1).2
  rw [changeEffect, Table.find_update, hwins.1, Option.map_some,
    if_pos (decide_eq_true hid)]

/-- A statement that wins leaves the ledger only where it changes nothing. -/
theorem changeEffect_eq_self_iff (hwins : StatementWins db id expected change effect) :
    changeEffect db id change hkey = db ↔ change effect = effect := by
  constructor
  · intro hsame
    have hfind := find_changeEffect hkey hwins
    rw [hsame, hwins.1] at hfind
    exact (Option.some.inj hfind).symm
  · intro hsame
    have hupdate : db.effects.update (fun row => row.id = id) change hkey = db.effects := by
      refine db.effects.update_eq_self hkey fun row hrow hcondition => ?_
      -- the only row of the identifier is the one that was found
      have hfound := db.effects.find_of_mem hrow
      rw [of_decide_eq_true hcondition, hwins.1] at hfound
      rw [← Option.some.inj hfound, hsame]
    rw [changeEffect, hupdate]

end Statement

/-- A settlement whose attempt is not in the table completes none. -/
theorem completeAttempt_eq_self {params : ExecutorSettleCasParams}
    (hmissing : attemptBelongs db params.settlementAttemptId params.effectId = false) :
    completeAttempt db params = db := by
  rw [completeAttempt, Table.update_eq_self]
  intro attempt hmem hcondition
  exact absurd hcondition (List.any_eq_false.1 hmissing attempt hmem)

/-- The attempt that belongs to an effect, after any change of it. -/
theorem find_attempt_update {attemptId effectId : Text}
    (hbelongs : attemptBelongs db attemptId effectId = true) :
    ∃ attempt, attempt.sideEffectId = effectId ∧
      ∀ (change : SideEffectAttempt → SideEffectAttempt)
        (hkey : ∀ attempt, (change attempt).id = attempt.id),
        (db.attempts.update
          (fun attempt => attempt.id = attemptId ∧ attempt.sideEffectId = effectId)
            change hkey).find attemptId = some (change attempt) := by
  obtain ⟨attempt, hmem, hmatch⟩ := List.any_eq_true.1 hbelongs
  have hfind := db.attempts.find_of_mem hmem
  rw [(of_decide_eq_true hmatch).1] at hfind
  refine ⟨attempt, (of_decide_eq_true hmatch).2, fun change hkey => ?_⟩
  rw [Table.find_update, hfind, Option.map_some, if_pos hmatch]

/-! ## What a call leaves -/

/-- An effect and its attempt that agree on a call agree on it with the settlement that
is recorded. -/
theorem agreesOn_of_insertSettlement {call : SettlementCall}
    {settlement : SideEffectSettlement}
    (hinsert : insertSettlement db settlement = .ok changed)
    (heffectId : settlement.sideEffectId = call.effectId)
    (hstatus : settlement.settlementStatus = call.newStatus)
    (hattemptId : settlement.settlementAttemptId = call.attemptId)
    (heffect : ∃ effect, db.effects.find call.effectId = some effect ∧
      effect.status = call.newStatus)
    (hattempt : ∀ attemptId, call.attemptId = some attemptId →
      ∃ attempt, db.attempts.find attemptId = some attempt ∧
        attempt.sideEffectId = call.effectId ∧
        attempt.exitStatus = some (exitStatusOf call.newStatus)) :
    AgreesOn changed call := by
  simp only [insertSettlement, bind_eq_ok_iff, ensure_eq_ok_iff, required_eq_ok_iff,
    pure_eq_ok_iff] at hinsert
  obtain ⟨-, -, -, hunique, settlements, hadd, rfl⟩ := hinsert
  obtain ⟨hnone, rfl⟩ := (Table.insert_eq_some_iff _).1 hadd
  refine ⟨heffect, hattempt, fun _ => ?_, ?_⟩
  · refine List.any_eq_true.2 ⟨settlement, ?_, decide_eq_true heffectId⟩
    exact List.mem_append_right _ (List.mem_singleton_self _)
  · intro other hother hid
    rcases List.mem_append.1 hother with hold | hnew
    · have hdifferent := (of_decide_eq_true (List.all_eq_true.1 hunique other hold)).1
      exact absurd (hid.trans heffectId.symm) hdifferent
    · rw [List.mem_singleton.1 hnew]
      exact ⟨hstatus, hattemptId⟩

/-- A settlement refuses for the statement on the effect or for its attempt, or it
leaves rows that agree. -/
theorem executorSettleCasTx_outcome {params : ExecutorSettleCasParams}
    {settlementId : Text} {settled : Bool}
    (hrun : executorSettleCasTx db params settlementId = .ok (changed, settled)) :
    (settled = false ∧ changed = db) ∨
    ∃ effect, StatementWins db params.effectId (settleExpects db params)
        (settleChange params) effect ∧
      ((attemptBelongs db params.settlementAttemptId params.effectId = false ∧
          settled = false ∧
          changed = changeEffect db params.effectId (settleChange params)) ∨
        (settled = true ∧ AgreesOn changed (.executorSettle params settlementId))) := by
  rw [executorSettleCasTx, bind_eq_ok_iff] at hrun
  obtain ⟨⟨updatedDb, updated⟩, hset, hrun⟩ := hrun
  rcases compareAndSet_wins _ hset with ⟨rfl, rfl⟩ | ⟨rfl, rfl, effect, hwins⟩
  · obtain ⟨rfl, rfl⟩ := Prod.mk.inj ((pure_eq_ok_iff _ _).1 hrun)
    exact .inl ⟨rfl, rfl⟩
  · refine .inr ⟨effect, hwins, ?_⟩
    dsimp only at hrun
    split_ifs at hrun with hlost hattempt
    · cases hlost
    · obtain ⟨rfl, rfl⟩ := Prod.mk.inj ((pure_eq_ok_iff _ _).1 hrun)
      have hmissing : attemptBelongs db params.settlementAttemptId params.effectId =
          false := by
        simpa [attemptBelongs, changeEffect] using hattempt
      refine .inl ⟨hmissing, rfl, ?_⟩
      exact completeAttempt_eq_self hmissing
    · obtain ⟨settledDb, hinsert, hrun⟩ := (bind_eq_ok_iff _ _ _).1 hrun
      obtain ⟨rfl, rfl⟩ := Prod.mk.inj ((pure_eq_ok_iff _ _).1 hrun)
      have hbelongs : attemptBelongs db params.settlementAttemptId params.effectId =
          true := by
        simpa [attemptBelongs, changeEffect] using hattempt
      refine .inr ⟨rfl, agreesOn_of_insertSettlement hinsert rfl rfl rfl ?_ ?_⟩
      · exact ⟨_, find_changeEffect (settleChange_id params) hwins, rfl⟩
      · rintro attemptId ⟨⟩
        obtain ⟨attempt, heffectId, hfind⟩ := find_attempt_update hbelongs
        exact ⟨_, hfind _ (by intro; rfl), heffectId, rfl⟩

/-- A failure is refused by the statement on the effect, or it changes the effect and
whichever attempt belongs to it. -/
theorem executorFailCasTx_outcome {params : ExecutorFailCasParams} {failed : Bool}
    (hrun : (SettlementCall.executorFail params).run db = .ok (changed, failed)) :
    (failed = false ∧ changed = db) ∨
    (failed = true ∧ ∃ effect, StatementWins db params.effectId (failExpects params)
        (failChange params) effect ∧
      (AgreesOn changed (.executorFail params) ↔
        attemptBelongs db params.attemptId params.effectId = true ∧
          SettlementsAgree db (.executorFail params))) := by
  rw [SettlementCall.run, executorFailCasTx, bind_eq_ok_iff] at hrun
  obtain ⟨⟨updatedDb, updated⟩, hset, hrun⟩ := hrun
  rcases compareAndSet_wins _ hset with ⟨rfl, rfl⟩ | ⟨rfl, rfl, effect, hwins⟩
  · obtain ⟨rfl, rfl⟩ := Prod.mk.inj ((pure_eq_ok_iff _ _).1 hrun)
    exact .inl ⟨rfl, rfl⟩
  · obtain ⟨rfl, rfl⟩ := Prod.mk.inj ((pure_eq_ok_iff _ _).1 hrun)
    refine .inr ⟨rfl, effect, hwins, fun hagrees => ⟨?_, hagrees.settlements⟩, ?_⟩
    · obtain ⟨attempt, hfind, heffectId, -⟩ := hagrees.attempt params.attemptId rfl
      rw [Table.find_update, Option.map_eq_some_iff] at hfind
      obtain ⟨old, hfind, rfl⟩ := hfind
      obtain ⟨hmem, hid⟩ := (db.attempts.find_eq_some_iff).1 hfind
      refine List.any_eq_true.2 ⟨old, hmem, decide_eq_true ⟨hid, Eq.trans ?_ heffectId⟩⟩
      split <;> rfl
    · rintro ⟨hbelongs, hsettlements⟩
      refine ⟨⟨_, find_changeEffect (failChange_id params) hwins, rfl⟩, ?_, ?_, hsettlements⟩
      swap
      · exact fun hsettles => absurd hsettles Bool.false_ne_true
      rintro attemptId ⟨⟩
      obtain ⟨attempt, heffectId, hfind⟩ := find_attempt_update hbelongs
      exact ⟨_, hfind _ (by intro; rfl), heffectId, rfl⟩

/-- A disposition leaves the ledger unless it is applied, and then the rows agree. -/
theorem applyOperatorDispositionTx_outcome {disposition : OperatorDisposition}
    {settlementId : Text} {outcome : DispositionOutcome}
    (hrun : applyOperatorDispositionTx db disposition settlementId =
      .ok (changed, outcome)) :
    (outcome ≠ .applied ∧ changed = db) ∨
    (outcome = .applied ∧
      AgreesOn changed (.operatorDisposition disposition settlementId)) := by
  unfold applyOperatorDispositionTx at hrun
  split at hrun
  · left
    split_ifs at hrun
    · obtain ⟨rfl, rfl⟩ := Prod.mk.inj (Except.ok.inj hrun)
      exact ⟨by decide, rfl⟩
    · obtain ⟨rfl, rfl⟩ := Prod.mk.inj (Except.ok.inj hrun)
      exact ⟨by decide, rfl⟩
  · split at hrun
    · left
      obtain ⟨rfl, rfl⟩ := Prod.mk.inj (Except.ok.inj hrun)
      refine ⟨?_, rfl⟩
      split_ifs <;> decide
    · rw [settleForOperator, bind_eq_ok_iff] at hrun
      obtain ⟨⟨updatedDb, updated⟩, hset, hrun⟩ := hrun
      rcases compareAndSet_wins _ hset with ⟨rfl, rfl⟩ | ⟨rfl, rfl, effect, hwins⟩
      · obtain ⟨rfl, rfl⟩ := Prod.mk.inj ((pure_eq_ok_iff _ _).1 hrun)
        exact .inl ⟨by decide, rfl⟩
      · obtain ⟨settledDb, hinsert, hrun⟩ := (bind_eq_ok_iff _ _ _).1 hrun
        obtain ⟨rfl, rfl⟩ := Prod.mk.inj ((pure_eq_ok_iff _ _).1 hrun)
        refine .inr ⟨rfl, agreesOn_of_insertSettlement hinsert rfl rfl rfl ?_ ?_⟩
        · exact ⟨_, find_changeEffect (by intro; rfl) hwins, rfl⟩
        · rintro attemptId ⟨⟩

/-! ## The calls that are sound -/

theorem executorSettle_sound_iff {params : ExecutorSettleCasParams} {settlementId : Text} :
    Sound db (.executorSettle params settlementId) ↔
      (SettlementCall.executorSettle params settlementId).FindsRows db := by
  constructor
  · intro hsound effect hwins
    by_cases hbelongs : attemptBelongs db params.settlementAttemptId params.effectId = true
    · exact .inl hbelongs
    · -- the statement wins, the attempt is missing, and the call answers `false`
      have hrun : (SettlementCall.executorSettle params settlementId).run db =
          .ok (changeEffect db params.effectId (settleChange params), false) := by
        have hmissing := Bool.eq_false_iff.2 hbelongs
        refine (bind_eq_ok_iff _ _ _).2
          ⟨_, compareAndSet_of_wins (settleChange_id params) hwins, ?_⟩
        dsimp only
        rw [if_neg Bool.noConfusion, if_pos]
        · refine (pure_eq_ok_iff _ _).2 (Prod.ext ?_ rfl)
          exact completeAttempt_eq_self hmissing
        · simpa [attemptBelongs, changeEffect] using hmissing
      exact .inr
        ((changeEffect_eq_self_iff (settleChange_id params) hwins).1 (hsound.refused _ hrun))
  · intro hrows
    refine ⟨fun changed hrun => ?_, fun changed hrun => ?_⟩
    · rcases executorSettleCasTx_outcome hrun with
        ⟨-, hsame⟩ | ⟨effect, hwins, ⟨hmissing, -, rfl⟩ | ⟨htrue, -⟩⟩
      · exact hsame
      · rcases hrows effect hwins with hbelongs | hsame
        · exact absurd (hbelongs.symm.trans hmissing) Bool.noConfusion
        · exact (changeEffect_eq_self_iff (settleChange_id params) hwins).2 hsame
      · cases htrue
    · rcases executorSettleCasTx_outcome hrun with
        ⟨hfalse, -⟩ | ⟨effect, -, ⟨-, hfalse, -⟩ | ⟨-, hagrees⟩⟩
      · cases hfalse
      · cases hfalse
      · exact hagrees

theorem executorFail_sound_iff {params : ExecutorFailCasParams} :
    Sound db (.executorFail params) ↔
      (SettlementCall.executorFail params).FindsRows db := by
  constructor
  · intro hsound effect hwins
    obtain ⟨changed, hrun⟩ : ∃ changed, (SettlementCall.executorFail params).run db =
        .ok (changed, true) :=
      ⟨_, (bind_eq_ok_iff _ _ _).2
        ⟨_, compareAndSet_of_wins (failChange_id params) hwins, (pure_eq_ok_iff _ _).2 rfl⟩⟩
    rcases executorFailCasTx_outcome hrun with ⟨hfalse, -⟩ | ⟨-, other, -, hiff⟩
    · cases hfalse
    · exact hiff.1 (hsound.agreed changed hrun)
  · intro hrows
    refine ⟨fun changed hrun => ?_, fun changed hrun => ?_⟩
    · rcases executorFailCasTx_outcome hrun with ⟨-, hsame⟩ | ⟨htrue, -⟩
      · exact hsame
      · cases htrue
    · rcases executorFailCasTx_outcome hrun with ⟨hfalse, -⟩ | ⟨-, effect, hwins, hiff⟩
      · cases hfalse
      · exact hiff.2 (hrows effect hwins)

theorem operatorDisposition_sound (disposition : OperatorDisposition)
    (settlementId : Text) : Sound db (.operatorDisposition disposition settlementId) := by
  refine ⟨fun changed hrun => ?_, fun changed hrun => ?_⟩
  · obtain ⟨⟨after, outcome⟩, happly, hanswer⟩ := map_eq_ok_iff.1 hrun
    obtain ⟨rfl, hrefused⟩ := Prod.mk.inj hanswer
    rcases applyOperatorDispositionTx_outcome happly with ⟨-, hsame⟩ | ⟨happlied, -⟩
    · exact hsame
    · exact absurd happlied (of_decide_eq_false hrefused)
  · obtain ⟨⟨after, outcome⟩, happly, hanswer⟩ := map_eq_ok_iff.1 hrun
    obtain ⟨rfl, hsuccess⟩ := Prod.mk.inj hanswer
    rcases applyOperatorDispositionTx_outcome happly with ⟨hrefused, -⟩ | ⟨-, hagrees⟩
    · exact absurd (of_decide_eq_true hsuccess) hrefused
    · exact hagrees

/-- A call is sound exactly where it finds the rows: what it refuses leaves the ledger
of the transaction as it was, and what it reports agrees. -/
theorem settlement_sound_iff (db : Store) (call : SettlementCall) :
    Sound db call ↔ call.FindsRows db := by
  cases call with
  | executorSettle params settlementId => exact executorSettle_sound_iff
  | executorFail params => exact executorFail_sound_iff
  | operatorDisposition disposition settlementId =>
      exact iff_of_true (operatorDisposition_sound disposition settlementId) trivial

/-- A party that holds the lease of an effect settles it with an attempt that does not
belong to it. -/
def foreignAttemptCall : SettlementCall :=
  .executorSettle ((⟨"a".toList, "u".toList, "1".toList, "1".toList, "o".toList⟩ :
    ExecutorLease).settleParams none "txn".toList none "2".toList) "settlement".toList

/-- The settlement is refused, and the effect stays settled in the transaction. -/
theorem refused_settlement_changes_effect :
    ¬Sound (runFrom (perform sampleLater) emptyLedger leaseOperations)
      foreignAttemptCall := by
  have hbefore : ((runFrom (perform sampleLater) emptyLedger leaseOperations).effects.find
      "a".toList).any (fun effect => effect.status = .settled) = false := by
    decide +kernel
  have hafter : ((foreignAttemptCall.run
      (runFrom (perform sampleLater) emptyLedger leaseOperations)).toOption.any
        fun answer => !answer.2 && (answer.1.effects.find "a".toList).any fun effect =>
          effect.status = .settled) = true := by decide +kernel
  intro hsound
  cases hrun : foreignAttemptCall.run
      (runFrom (perform sampleLater) emptyLedger leaseOperations) with
  | error message => simp [hrun, Except.toOption] at hafter
  | ok answer =>
      obtain ⟨changed, success⟩ := answer
      rw [hrun] at hafter
      obtain ⟨hrefused, hsettled⟩ := Bool.and_eq_true_iff.1 hafter
      obtain rfl : success = false := by simpa using hrefused
      rw [hsound.refused changed hrun, hbefore] at hsettled
      cases hsettled

end ChainworksForge.Release
