import ChainworksForge.Release.Coordinator
import ChainworksForge.Support.Runs

/-!
# An external write happens once

No transaction makes an effect prepared or takes back that its write was attempted,
and an effect is executing only if it was prepared or executing before.  The index on
the unresolved targets survives every transaction, also the ones that reopen a settled
effect.  The rest follows for every interleaving of the parties.
-/

namespace ChainworksForge.Release

open ChainworksForge.Support

/-! ## What a transaction does to an effect -/

/-- What can become of an effect in a transaction. -/
structure EffectStep (before after : SideEffect) : Prop where
  target : after.runId = before.runId ∧ after.targetKey = before.targetKey
  attempted : before.externalWriteAttempted = true → after.externalWriteAttempted = true
  prepared : after.status = .prepared → before.status = .prepared
  executing : after.status = .executing →
    before.status = .prepared ∨ before.status = .executing

theorem EffectStep.refl (effect : SideEffect) : EffectStep effect effect :=
  ⟨⟨rfl, rfl⟩, id, id, .inr⟩

theorem EffectStep.trans {effect₁ effect₂ effect₃ : SideEffect}
    (h₁ : EffectStep effect₁ effect₂) (h₂ : EffectStep effect₂ effect₃) :
    EffectStep effect₁ effect₃ where
  target := ⟨h₂.target.1.trans h₁.target.1, h₂.target.2.trans h₁.target.2⟩
  attempted := fun h => h₂.attempted (h₁.attempted h)
  prepared := fun h => h₁.prepared (h₂.prepared h)
  executing := by
    intro h
    rcases h₂.executing h with hprepared | hexecuting
    · exact .inl (h₁.prepared hprepared)
    · exact h₁.executing hexecuting

/-- A change that leaves the target and the mark alone and gives a status that is
neither prepared nor executing. -/
theorem effectStep_of_status {before after : SideEffect}
    (htarget : after.runId = before.runId ∧ after.targetKey = before.targetKey)
    (hattempted : after.externalWriteAttempted = before.externalWriteAttempted)
    (hprepared : after.status ≠ .prepared) (hexecuting : after.status ≠ .executing) :
    EffectStep before after where
  target := htarget
  attempted := fun h => hattempted.trans h
  prepared := fun h => absurd h hprepared
  executing := fun h => absurd h hexecuting

abbrev Effects := Table SideEffect.id

variable {effects effects' : Effects} {db db' : Store}

/-- The index: two unresolved effects of one target are the same. -/
def UniqueTargets (effects : Effects) : Prop :=
  ∀ effect ∈ effects.rows, ∀ other ∈ effects.rows, effect.status.isUnresolved = true →
    other.status.isUnresolved = true → other.sameTarget effect = true →
      other.id = effect.id

/-- What a transaction does to the ledger: every effect stays and takes a step, and
the index still holds. -/
structure EffectsStep (effects effects' : Effects) : Prop where
  kept : ∀ id effect, effects.find id = some effect →
    ∃ effect', effects'.find id = some effect' ∧ EffectStep effect effect'
  unique : UniqueTargets effects → UniqueTargets effects'

theorem EffectsStep.refl (effects : Effects) : EffectsStep effects effects :=
  ⟨fun _ effect hfind => ⟨effect, hfind, .refl effect⟩, id⟩

theorem EffectsStep.trans {effects₁ effects₂ effects₃ : Effects}
    (h₁ : EffectsStep effects₁ effects₂) (h₂ : EffectsStep effects₂ effects₃) :
    EffectsStep effects₁ effects₃ where
  kept := by
    intro id effect hfind
    obtain ⟨effect₂, hfind₂, hstep₂⟩ := h₁.kept id effect hfind
    obtain ⟨effect₃, hfind₃, hstep₃⟩ := h₂.kept id effect₂ hfind₂
    exact ⟨effect₃, hfind₃, hstep₂.trans hstep₃⟩
  unique := fun h => h₂.unique (h₁.unique h)

/-! ## Single statements -/

theorem admitsTarget_iff {effect : SideEffect} :
    admitsTarget db effect = true ↔
      (effect.status.isUnresolved = true → ∀ other ∈ db.effects.rows,
        other.status.isUnresolved = true → other.sameTarget effect = true →
          other.id = effect.id) := by
  simp only [admitsTarget, Bool.or_eq_true, Bool.not_eq_true', List.all_eq_true,
    decide_eq_true_eq]
  constructor
  · rintro (hresolved | hall) hunresolved other hother hopen hsame
    · rw [hunresolved] at hresolved
      cases hresolved
    · rcases hall other hother with (hid | hresolved) | hdifferent
      · exact hid
      · rw [hopen] at hresolved
        cases hresolved
      · rw [hsame] at hdifferent
        cases hdifferent
  · intro h
    cases hstatus : effect.status.isUnresolved with
    | false => exact .inl rfl
    | true =>
        refine .inr fun other hother => ?_
        cases hopen : other.status.isUnresolved with
        | false => exact .inl (.inr rfl)
        | true =>
            cases hsame : other.sameTarget effect with
            | false => exact .inr rfl
            | true => exact .inl (.inl (h hstatus other hother hopen hsame))

section CompareAndSet

variable {id : Text} {expected : SideEffect → Bool} {change : SideEffect → SideEffect}
  (hkey : ∀ effect, (change effect).id = effect.id)

/-- What a statement on one effect can do. -/
theorem compareAndSet_cases {won : Bool}
    (hrun : compareAndSet db id expected change hkey = .ok (db', won)) :
    (won = false ∧ db' = db) ∨
    (won = true ∧ ∃ effect, db.effects.find id = some effect ∧ expected effect = true ∧
      admitsTarget db (change effect) = true ∧
      db' = { db with
        effects := db.effects.update (fun row => row.id = id) change hkey }) := by
  unfold compareAndSet at hrun
  split at hrun
  · obtain ⟨rfl, rfl⟩ := Prod.mk.inj (Except.ok.inj hrun)
    exact .inl ⟨rfl, rfl⟩
  · rename_i effect hfind
    split_ifs at hrun with hexpected hadmits
    · obtain ⟨rfl, rfl⟩ := Prod.mk.inj (Except.ok.inj hrun)
      exact .inr ⟨rfl, effect, hfind, hexpected, hadmits, rfl⟩
    · obtain ⟨rfl, rfl⟩ := Prod.mk.inj (Except.ok.inj hrun)
      exact .inl ⟨rfl, rfl⟩

theorem uniqueTargets_update {effect : SideEffect}
    (hfind : db.effects.find id = some effect)
    (hadmits : admitsTarget db (change effect) = true)
    (hunique : UniqueTargets db.effects) :
    UniqueTargets (db.effects.update (fun row => row.id = id) change hkey) := by
  rw [admitsTarget_iff] at hadmits
  obtain ⟨hmem, hid⟩ := db.effects.find_eq_some_iff.1 hfind
  -- a changed row is the change of the effect that was found
  have hrow : ∀ row ∈ db.effects.rows, row.id = id → row = effect := by
    intro row hrow hrowId
    exact List.inj_on_of_nodup_map db.effects.distinct hrow hmem (hrowId.trans hid.symm)
  intro row' hrow' other' hother' hopen hopen' hsame
  obtain ⟨row, hmemRow, rfl⟩ := (Table.mem_update db.effects).1 hrow'
  obtain ⟨other, hmemOther, rfl⟩ := (Table.mem_update db.effects).1 hother'
  simp only [decide_eq_true_eq] at hopen hopen' hsame ⊢
  by_cases hchanged : row.id = id
  · obtain rfl := hrow row hmemRow hchanged
    rw [if_pos hchanged] at hopen hsame ⊢
    by_cases hchanged' : other.id = id
    · obtain rfl := hrow other hmemOther hchanged'
      rw [if_pos hchanged]
    · rw [if_neg hchanged'] at hopen' hsame ⊢
      exact hadmits hopen other hmemOther hopen' hsame
  · rw [if_neg hchanged] at hopen hsame ⊢
    by_cases hchanged' : other.id = id
    · obtain rfl := hrow other hmemOther hchanged'
      rw [if_pos hchanged'] at hopen' hsame ⊢
      have hflip : row.sameTarget (change other) = true := by
        simp only [SideEffect.sameTarget, decide_eq_true_eq] at hsame ⊢
        exact ⟨hsame.1.symm, hsame.2.symm⟩
      exact (hadmits hopen' row hmemRow hopen hflip).symm
    · rw [if_neg hchanged'] at hopen' hsame ⊢
      exact hunique row hmemRow other hmemOther hopen hopen' hsame

theorem compareAndSet_step {won : Bool}
    (hchange : ∀ effect, expected effect = true → EffectStep effect (change effect))
    (hrun : compareAndSet db id expected change hkey = .ok (db', won)) :
    EffectsStep db.effects db'.effects := by
  rcases compareAndSet_cases hkey hrun with ⟨-, rfl⟩ | ⟨-, effect, hfind, hexpected, hadmits, rfl⟩
  · exact .refl _
  · refine ⟨fun other row hrow => ?_, uniqueTargets_update hkey hfind hadmits⟩
    refine ⟨if row.id = id then change row else row, ?_, ?_⟩
    · rw [Table.find_update, hrow, Option.map_some]
      simp only [decide_eq_true_eq]
    split
    · rename_i hchanged
      have hother : other = id :=
        (db.effects.find_eq_some_iff.1 hrow).2.symm.trans hchanged
      subst hother
      rw [hrow] at hfind
      obtain rfl := Option.some.inj hfind
      exact hchange row hexpected
    · exact .refl row

/-- A statement that wins has changed the row it expected. -/
theorem compareAndSet_won
    (hrun : compareAndSet db id expected change hkey = .ok (db', true)) :
    ∃ effect, db.effects.find id = some effect ∧ expected effect = true ∧
      db'.effects.find id = some (change effect) := by
  rcases compareAndSet_cases hkey hrun with ⟨hfalse, -⟩ | ⟨-, effect, hfind, hexpected, -, rfl⟩
  · cases hfalse
  · refine ⟨effect, hfind, hexpected, ?_⟩
    have hid := (db.effects.find_eq_some_iff.1 hfind).2
    rw [Table.find_update, hfind, Option.map_some, if_pos (decide_eq_true hid)]

end CompareAndSet

theorem insertEffect_step {effect : SideEffect}
    (hrun : insertEffect db effect = .ok db') : EffectsStep db.effects db'.effects := by
  simp only [insertEffect, bind_eq_ok_iff, ensure_eq_ok_iff, required_eq_ok_iff,
    pure_eq_ok_iff] at hrun
  obtain ⟨-, -, -, hadmits, changed, hinsert, rfl⟩ := hrun
  obtain ⟨hfree, rfl⟩ := (Table.insert_eq_some_iff _).1 hinsert
  rw [admitsTarget_iff] at hadmits
  refine ⟨fun id row hrow => ⟨row, ?_, .refl row⟩, fun hunique => ?_⟩
  · rw [Table.find_add, if_neg]
    · exact hrow
    · rintro rfl
      rw [hrow] at hfree
      cases hfree
  · intro row hrow other hother hopen hopen' hsame
    simp only [Table.add, List.mem_append, List.mem_singleton] at hrow hother
    rcases hrow with hrow | rfl
    · rcases hother with hother | rfl
      · exact hunique row hrow other hother hopen hopen' hsame
      · have hflip : row.sameTarget other = true := by
          simp only [SideEffect.sameTarget, decide_eq_true_eq] at hsame ⊢
          exact ⟨hsame.1.symm, hsame.2.symm⟩
        exact (hadmits hopen' row hrow hopen hflip).symm
    · rcases hother with hother | rfl
      · exact hadmits hopen other hother hopen' hsame
      · rfl

theorem insertSettlement_effects {settlement : SideEffectSettlement}
    (hrun : insertSettlement db settlement = .ok db') :
    db'.effects = db.effects ∧ settlement.settlementStatus.isSettlement = true := by
  simp only [insertSettlement, bind_eq_ok_iff, ensure_eq_ok_iff, required_eq_ok_iff,
    pure_eq_ok_iff, Bool.and_eq_true] at hrun
  obtain ⟨-, hcheck, -, -, settlements, -, rfl⟩ := hrun
  exact ⟨rfl, hcheck.1⟩

/-! ## Transactions -/

theorem executorStartCas_step {effectId ownerInstanceId attemptId leaseAcquiredAt
    leaseExpiresAt now : Text} {deadlineAt : Option Text} {won : Bool}
    (hrun : executorStartCas db effectId ownerInstanceId attemptId leaseAcquiredAt
      leaseExpiresAt deadlineAt now = .ok (db', won)) :
    EffectsStep db.effects db'.effects := by
  rw [executorStartCas, bind_eq_ok_iff] at hrun
  obtain ⟨⟨changed, updated⟩, hset, hrun⟩ := hrun
  have hstep : EffectsStep db.effects changed.effects := by
    refine compareAndSet_step _ (fun effect hexpected => ?_) hset
    have hprepared := (of_decide_eq_true hexpected).1
    exact ⟨⟨rfl, rfl⟩, id, fun h => (by cases h), fun _ => .inl hprepared⟩
  cases updated with
  | false =>
      obtain ⟨rfl, rfl⟩ := Prod.mk.inj ((pure_eq_ok_iff _ _).1 hrun)
      exact .refl _
  | true =>
      obtain ⟨attempts, -, hrun⟩ := (bind_eq_ok_iff _ _ _).1 hrun
      obtain ⟨rfl, rfl⟩ := Prod.mk.inj ((pure_eq_ok_iff _ _).1 hrun)
      exact hstep

theorem leaseRenewCas_step {effectId ownerInstanceId newExpiresAt now : Text} {won : Bool}
    (hrun : leaseRenewCas db effectId ownerInstanceId newExpiresAt now = .ok (db', won)) :
    EffectsStep db.effects db'.effects := by
  refine compareAndSet_step _ ?_ hrun
  intro effect hexpected
  exact ⟨⟨rfl, rfl⟩, id, id, .inr⟩

theorem markExternalWriteStarted_step {effectId ownerInstanceId startedAt : Text}
    {won : Bool}
    (hrun : markExternalWriteStarted db effectId ownerInstanceId startedAt =
      .ok (db', won)) : EffectsStep db.effects db'.effects := by
  refine compareAndSet_step _ ?_ hrun
  intro effect hexpected
  exact ⟨⟨rfl, rfl⟩, fun _ => rfl, id, .inr⟩

theorem executorSettleCasTx_step {params : ExecutorSettleCasParams} {settlementId : Text}
    {settled : Bool} (hprepared : params.newStatus ≠ .prepared)
    (hexecuting : params.newStatus ≠ .executing)
    (hrun : executorSettleCasTx db params settlementId = .ok (db', settled)) :
    EffectsStep db.effects db'.effects := by
  rw [executorSettleCasTx, bind_eq_ok_iff] at hrun
  obtain ⟨⟨changed, updated⟩, hset, hrun⟩ := hrun
  have hstep : EffectsStep db.effects changed.effects := by
    refine compareAndSet_step _ ?_ hset
    intro effect hexpected
    exact effectStep_of_status ⟨rfl, rfl⟩ rfl hprepared hexecuting
  dsimp only at hrun
  split_ifs at hrun with hlost hattempt
  · obtain ⟨rfl, rfl⟩ := Prod.mk.inj ((pure_eq_ok_iff _ _).1 hrun)
    exact hstep
  · obtain ⟨rfl, rfl⟩ := Prod.mk.inj ((pure_eq_ok_iff _ _).1 hrun)
    exact hstep
  · obtain ⟨settledDb, hinsert, hrun⟩ := (bind_eq_ok_iff _ _ _).1 hrun
    obtain ⟨rfl, rfl⟩ := Prod.mk.inj ((pure_eq_ok_iff _ _).1 hrun)
    rw [(insertSettlement_effects hinsert).1]
    exact hstep

theorem executorSettleCas_step {params : ExecutorSettleCasParams} {settlementId : Text}
    {settled : Bool} (hprepared : params.newStatus ≠ .prepared)
    (hexecuting : params.newStatus ≠ .executing)
    (hrun : executorSettleCas db params settlementId = .ok (db', settled)) :
    EffectsStep db.effects db'.effects := by
  rw [executorSettleCas, bind_eq_ok_iff] at hrun
  obtain ⟨⟨changed, won⟩, hsettle, hrun⟩ := hrun
  cases won with
  | false =>
      obtain ⟨rfl, -⟩ := Prod.mk.inj ((pure_eq_ok_iff _ _).1 hrun)
      exact .refl _
  | true =>
      obtain ⟨rfl, -⟩ := Prod.mk.inj ((pure_eq_ok_iff _ _).1 hrun)
      exact executorSettleCasTx_step hprepared hexecuting hsettle

theorem executorFailCasTx_step {effectId ownerInstanceId attemptId
    observedLeaseRenewedAt lastErrorKind lastError now : Text} {failed : Bool}
    (hrun : executorFailCasTx db effectId ownerInstanceId attemptId
      observedLeaseRenewedAt lastErrorKind lastError now = .ok (db', failed)) :
    EffectsStep db.effects db'.effects := by
  rw [executorFailCasTx, bind_eq_ok_iff] at hrun
  obtain ⟨⟨changed, updated⟩, hset, hrun⟩ := hrun
  have hstep : EffectsStep db.effects changed.effects := by
    refine compareAndSet_step _ ?_ hset
    intro effect hexpected
    exact effectStep_of_status ⟨rfl, rfl⟩ rfl (by simp) (by simp)
  cases updated with
  | false =>
      obtain ⟨rfl, -⟩ := Prod.mk.inj ((pure_eq_ok_iff _ _).1 hrun)
      exact hstep
  | true =>
      obtain ⟨rfl, -⟩ := Prod.mk.inj ((pure_eq_ok_iff _ _).1 hrun)
      exact hstep

theorem reaperTransitionCas_step {observed : SideEffect}
    {now lastErrorKind lastError : Text} {won : Bool}
    (hrun : reaperTransitionCas db observed now lastErrorKind lastError =
      .ok (db', won)) : EffectsStep db.effects db'.effects := by
  have hchange (effect : SideEffect) : EffectStep effect { effect with
      status := .needsReconciliation, lastErrorKind := some lastErrorKind
      lastError := some lastError, updatedAt := now } :=
    effectStep_of_status ⟨rfl, rfl⟩ rfl (by simp) (by simp)
  unfold reaperTransitionCas at hrun
  split at hrun
  · exact compareAndSet_step _ (fun effect _ => hchange effect) hrun
  · exact compareAndSet_step _ (fun effect _ => hchange effect) hrun
  · exact compareAndSet_step _ (fun effect _ => hchange effect) hrun
  · cases hrun

theorem watchdogVisit_step {now : Text} {candidate : SideEffect}
    {evidenceError : Option Text} {won : Bool}
    (hrun : watchdogVisit db now candidate evidenceError = .ok (db', won)) :
    EffectsStep db.effects db'.effects := by
  unfold watchdogVisit at hrun
  split_ifs at hrun
  · cases evidenceError with
    | none =>
        obtain ⟨rfl, -⟩ := Prod.mk.inj (Except.ok.inj hrun)
        exact .refl _
    | some error =>
        refine compareAndSet_step _ ?_ hrun
        intro effect hexpected
        exact effectStep_of_status ⟨rfl, rfl⟩ rfl (by simp) (by simp)
  · exact reaperTransitionCas_step hrun

/-- The table of the settlements refuses the statuses of an open effect, and the
transaction with it. -/
theorem settleForOperator_step {disposition : OperatorDisposition} {settlementId : Text}
    {outcome : DispositionOutcome}
    (hrun : settleForOperator db disposition settlementId = .ok (db', outcome)) :
    EffectsStep db.effects db'.effects := by
  rw [settleForOperator, bind_eq_ok_iff] at hrun
  obtain ⟨⟨changed, updated⟩, hset, hrun⟩ := hrun
  cases updated with
  | false =>
      obtain ⟨rfl, -⟩ := Prod.mk.inj ((pure_eq_ok_iff _ _).1 hrun)
      exact .refl _
  | true =>
      obtain ⟨settledDb, hinsert, hrun⟩ := (bind_eq_ok_iff _ _ _).1 hrun
      obtain ⟨rfl, -⟩ := Prod.mk.inj ((pure_eq_ok_iff _ _).1 hrun)
      obtain ⟨heffects, hstatus⟩ := insertSettlement_effects hinsert
      rw [heffects]
      refine compareAndSet_step _ (fun effect _ => ?_) hset
      refine effectStep_of_status ⟨rfl, rfl⟩ rfl ?_ ?_
      · intro hprepared
        change disposition.newStatus = .prepared at hprepared
        change disposition.newStatus.isSettlement = true at hstatus
        rw [hprepared] at hstatus
        cases hstatus
      · intro hexecuting
        change disposition.newStatus = .executing at hexecuting
        change disposition.newStatus.isSettlement = true at hstatus
        rw [hexecuting] at hstatus
        cases hstatus

theorem applyOperatorDispositionTx_step {disposition : OperatorDisposition}
    {settlementId : Text} {outcome : DispositionOutcome}
    (hrun : applyOperatorDispositionTx db disposition settlementId = .ok (db', outcome)) :
    EffectsStep db.effects db'.effects := by
  unfold applyOperatorDispositionTx at hrun
  split at hrun
  · split_ifs at hrun
    · obtain ⟨rfl, -⟩ := Prod.mk.inj (Except.ok.inj hrun)
      exact .refl _
    · obtain ⟨rfl, -⟩ := Prod.mk.inj (Except.ok.inj hrun)
      exact .refl _
  · split at hrun
    · obtain ⟨rfl, -⟩ := Prod.mk.inj (Except.ok.inj hrun)
      exact .refl _
    · exact settleForOperator_step hrun

/-- A transaction that is rolled back on an error. -/
theorem commitResult_step {α : Type} {result : Except Text (Store × α)}
    (hstep : ∀ changed answer, result = .ok (changed, answer) →
      EffectsStep db.effects changed.effects) :
    EffectsStep db.effects (commitResult db result).effects := by
  cases result with
  | error message => exact .refl _
  | ok pair => exact hstep pair.1 pair.2 rfl

/-! ## Every party -/

variable (later : Text → ℕ → Text) (s : System)

theorem startExecutor_step (party : ℕ) (coordinator : DurableEffectCoordinator)
    (effectId : Text) (effectKind : EffectKind) (attemptId now : Text) :
    EffectsStep s.ledger.effects
      (startExecutor later s party coordinator effectId effectKind attemptId
        now).ledger.effects := by
  unfold startExecutor
  split
  · rename_i ledger hrun
    exact executorStartCas_step hrun
  · rename_i ledger hrun
    exact executorStartCas_step hrun
  · exact .refl _

theorem renewHeldLease_step (party : ℕ) (lease : ExecutorLease) (effectKind : EffectKind)
    (now : Text) :
    EffectsStep s.ledger.effects
      (renewHeldLease later s party lease effectKind now).ledger.effects := by
  unfold renewHeldLease
  split
  · rename_i ledger hrun
    exact leaseRenewCas_step hrun
  · rename_i ledger hrun
    exact leaseRenewCas_step hrun
  · exact .refl _

theorem markLeasedWrite_step (party : ℕ) (lease : ExecutorLease)
    (effectKind : EffectKind) (now : Text) :
    EffectsStep s.ledger.effects
      (markLeasedWrite s party lease effectKind now).ledger.effects := by
  unfold markLeasedWrite
  split
  · rename_i ledger hrun
    exact markExternalWriteStarted_step hrun
  · rename_i ledger hrun
    exact markExternalWriteStarted_step hrun
  · exact .refl _

theorem step_effects (event : Event) :
    EffectsStep s.ledger.effects (step later s event).ledger.effects := by
  cases event with
  | checkIdempotencyKey party coordinator intent =>
      simp only [step]
      split
      · exact .refl _
      · exact .refl _
  | checkTargetKey party =>
      simp only [step]
      split
      · split
        · exact .refl _
        · exact .refl _
      · exact .refl _
  | insertIntent party effectId now =>
      simp only [step]
      split
      · split
        · rename_i ledger hrun
          exact insertEffect_step hrun
        · exact .refl _
      · exact .refl _
  | executorStart party attemptId now =>
      simp only [step]
      split
      · exact startExecutor_step later s party _ _ _ attemptId now
      · exact .refl _
  | renewLease party now =>
      simp only [step]
      split
      · exact renewHeldLease_step later s party _ _ now
      · exact .refl _
  | markWriteStarted party now =>
      simp only [step]
      split
      · exact markLeasedWrite_step s party _ _ now
      · exact .refl _
  | settleSuccess party evidenceSummary settlementTxnId settlementId now =>
      simp only [step]
      split
      · exact commitResult_step fun changed answer hrun =>
          executorSettleCas_step (by simp [ExecutorLease.settleParams])
            (by simp [ExecutorLease.settleParams]) hrun
      · exact .refl _
  | releaseSuccess party evidenceSummary receiptArtifactId settlementTxnId settlementId
      now =>
      simp only [step]
      split
      · exact commitResult_step fun changed answer hrun =>
          executorSettleCasTx_step (by simp [ExecutorLease.settleParams])
            (by simp [ExecutorLease.settleParams]) hrun
      · exact .refl _
  | settleFailure party errorKind error now =>
      simp only [step]
      split
      · exact commitResult_step fun changed answer hrun => executorFailCasTx_step hrun
      · exact .refl _
  | watchdogPass party now =>
      simp only [step]
      split
      · exact .refl _
      · exact .refl _
  | watchdogNext party evidenceError =>
      simp only [step]
      split
      · exact .refl _
      · exact commitResult_step fun changed answer hrun => watchdogVisit_step hrun
      · exact .refl _
  | disposition disposition settlementId =>
      exact commitResult_step fun changed answer hrun =>
        applyOperatorDispositionTx_step hrun

theorem run_effects (events : List Event) :
    EffectsStep s.ledger.effects (runFrom (step later) s events).ledger.effects :=
  runFrom_related (step later)
    (R := fun t u => EffectsStep t.ledger.effects u.ledger.effects)
    (fun t => .refl t.ledger.effects) (fun h h' => h.trans h')
    (fun t event => step_effects later t event) s events

/-! ## Marks -/

/-- An effect is executing. -/
def IsExecuting (effectId : Text) (s : System) : Prop :=
  ∃ effect, s.ledger.effects.find effectId = some effect ∧ effect.status = .executing

theorem isExecuting_iff {effectId : Text} :
    IsExecuting effectId s ↔
      (s.ledger.effects.find effectId).any (fun effect => effect.status = .executing) =
        true := by
  simp only [IsExecuting, Option.any_eq_true, decide_eq_true_eq]

/-- The write of an effect has been attempted. -/
def IsAttempted (effectId : Text) (s : System) : Prop :=
  ∃ effect, s.ledger.effects.find effectId = some effect ∧
    effect.externalWriteAttempted = true

/-- An effect has left the statuses that precede its write. -/
def HasLeft (effectId : Text) (s : System) : Prop :=
  ∃ effect, s.ledger.effects.find effectId = some effect ∧
    effect.status ≠ .prepared ∧ effect.status ≠ .executing

theorem isAttempted_run {effectId : Text} (h : IsAttempted effectId s)
    (events : List Event) : IsAttempted effectId (runFrom (step later) s events) := by
  obtain ⟨effect, hfind, hattempted⟩ := h
  obtain ⟨effect', hfind', hstep⟩ := (run_effects later s events).kept _ _ hfind
  exact ⟨effect', hfind', hstep.attempted hattempted⟩

theorem hasLeft_run {effectId : Text} (h : HasLeft effectId s) (events : List Event) :
    HasLeft effectId (runFrom (step later) s events) := by
  obtain ⟨effect, hfind, hprepared, hexecuting⟩ := h
  obtain ⟨effect', hfind', hstep⟩ := (run_effects later s events).kept _ _ hfind
  refine ⟨effect', hfind', fun h => hprepared (hstep.prepared h), fun h => ?_⟩
  rcases hstep.executing h with h | h
  · exact hprepared h
  · exact hexecuting h

/-- An effect that was executing and is not any more has left. -/
theorem hasLeft_of_not_executing {effectId : Text} {events : List Event}
    (hbefore : IsExecuting effectId s)
    (hafter : ¬IsExecuting effectId (runFrom (step later) s events)) :
    HasLeft effectId (runFrom (step later) s events) := by
  obtain ⟨effect, hfind, hexecuting⟩ := hbefore
  obtain ⟨effect', hfind', hstep⟩ := (run_effects later s events).kept _ _ hfind
  refine ⟨effect', hfind', fun h => ?_, fun h => hafter ⟨effect', hfind', h⟩⟩
  rw [hstep.prepared h] at hexecuting
  cases hexecuting

/-- A mark finds an executing effect whose write was not attempted, and leaves it
attempted. -/
theorem markedEffect_spec {event : Event} {effectId : Text}
    (h : markedEffect s event = some effectId) :
    IsExecuting effectId s ∧ ¬IsAttempted effectId s ∧
      IsAttempted effectId (step later s event) := by
  unfold markedEffect at h
  split at h
  · rename_i party now
    split at h
    · rename_i lease effectKind hphase
      split at h
      · rename_i ledger hmark
        obtain rfl := Option.some.inj h
        obtain ⟨effect, hfind, hexpected, hfind'⟩ := compareAndSet_won _ hmark
        obtain ⟨hexecuting, -, hunattempted, -⟩ := of_decide_eq_true hexpected
        refine ⟨⟨effect, hfind, hexecuting⟩, ?_, ?_⟩
        · rintro ⟨other, hother, hattempted⟩
          rw [hfind] at hother
          obtain rfl := Option.some.inj hother
          rw [hunattempted] at hattempted
          cases hattempted
        · simp only [step, hphase, markLeasedWrite, hmark]
          exact ⟨_, hfind', rfl⟩
      · cases h
    · cases h
  · cases h

/-- The ledger is empty and every party is idle. -/
def initialSystem : System := ⟨⟨Table.empty, Table.empty, Table.empty⟩, fun _ => .idle⟩

/-- Over every interleaving of the parties: an effect that has stopped executing is
not marked any more, and of two marks the second belongs to another effect; if both
effects have one run and target, the first is settled or reconciled by then. -/
theorem external_write_is_marked_once (before between : List Event) :
    (∀ after event effectId,
      IsExecuting effectId (runFrom (step later) initialSystem before) →
      ¬IsExecuting effectId (runFrom (step later) initialSystem (before ++ between)) →
      markedEffect (runFrom (step later) initialSystem (before ++ between ++ after)) event ≠
        some effectId) ∧
    ∀ first second effectId effectId',
      markedEffect (runFrom (step later) initialSystem before) first = some effectId →
      markedEffect (runFrom (step later) initialSystem (before ++ first :: between))
        second = some effectId' →
      effectId ≠ effectId' ∧
      ∃ effect effect',
        (runFrom (step later) initialSystem
          (before ++ first :: between)).ledger.effects.find effectId = some effect ∧
        (runFrom (step later) initialSystem
          (before ++ first :: between)).ledger.effects.find effectId' = some effect' ∧
        (effect.runId = effect'.runId → effect.targetKey = effect'.targetKey →
          effect.status = .settled ∨ effect.status = .reconciled) := by
  constructor
  · intro after event effectId hbefore hbetween hmarked
    rw [runFrom_append] at hbetween
    have hleft := hasLeft_of_not_executing later _ hbefore hbetween
    have hlater := hasLeft_run later _ hleft after
    rw [← runFrom_append, ← runFrom_append, ← List.append_assoc] at hlater
    obtain ⟨⟨effect, hfind, hexecuting⟩, -⟩ := markedEffect_spec later _ hmarked
    obtain ⟨left, hleftFind, -, hnot⟩ := hlater
    rw [hfind] at hleftFind
    obtain rfl := Option.some.inj hleftFind
    exact hnot hexecuting
  · intro first second effectId effectId' hfirst hsecond
    obtain ⟨-, -, hattempted⟩ := markedEffect_spec later _ hfirst
    have hlater := isAttempted_run later _ hattempted between
    rw [← runFrom_cons, ← runFrom_append] at hlater
    obtain ⟨⟨effect', hfind', hexecuting⟩, hunattempted, -⟩ :=
      markedEffect_spec later _ hsecond
    have hne : effectId ≠ effectId' := by
      rintro rfl
      exact hunattempted hlater
    obtain ⟨effect, hfind, -⟩ := hlater
    refine ⟨hne, effect, effect', hfind, hfind', fun hrunId htarget => ?_⟩
    have hunique : UniqueTargets (runFrom (step later) initialSystem
        (before ++ first :: between)).ledger.effects := by
      refine (run_effects later initialSystem _).unique ?_
      intro effect heffect
      cases heffect
    obtain ⟨hmem, hid⟩ := (Table.find_eq_some_iff _).1 hfind
    obtain ⟨hmem', hid'⟩ := (Table.find_eq_some_iff _).1 hfind'
    by_contra hunsettled
    -- both effects would be unresolved, against the index
    have hopen : effect.status.isUnresolved = true := by
      cases hstatus : effect.status with
      | settled => exact absurd (.inl hstatus) hunsettled
      | reconciled => exact absurd (.inr hstatus) hunsettled
      | _ => rfl
    have hopen' : effect'.status.isUnresolved = true := by
      rw [hexecuting]
      rfl
    have hsame : effect.sameTarget effect' = true :=
      decide_eq_true ⟨hrunId, htarget⟩
    have hids := hunique effect' hmem' effect hmem hopen' hopen hsame
    exact hne (hid.symm.trans (hids.trans hid'))

/-! ## Two writes to one target -/

def sampleUuid : Uuid := ⟨List.replicate 32 1, rfl⟩

def sampleIntent (key : Text) : PrepareEffectIntent where
  runId := sampleUuid
  stageExecutionId := sampleUuid
  agentExecutionId := none
  effectKind := .gitPush
  targetKey := "refs/heads/main".toList
  idempotencyKey := key
  idempotencyKeyVersion := 1
  requestFingerprint := "fingerprint".toList
  requestFingerprintVersion := 1
  expectedEvidenceJson := none
  evidenceRoot := none
  deadlineAt := none

/-- A clock that writes every later moment in the same way. -/
def sampleLater : Text → ℕ → Text := fun _ _ => "9".toList

/-- A party prepares an effect and takes its lease. -/
def leasedBy (party : ℕ) (key now : Text) : List Event :=
  [.checkIdempotencyKey party ⟨key, true⟩ (sampleIntent key), .checkTargetKey party,
    .insertIntent party key now, .executorStart party key now]

/-- The first party settles. -/
def settlesFirst : Event :=
  .settleSuccess 1 none "txn".toList "settlement".toList "2".toList

/-- The first party marks its write and settles, and a second one prepares the same
target. -/
def secondLeased : List Event :=
  leasedBy 1 "a".toList "1".toList ++
    .markWriteStarted 1 "1".toList :: settlesFirst :: leasedBy 2 "b".toList "3".toList

/-- Two parties write to one target, the second after the first has settled; a settled
effect is not marked. -/
theorem second_write_follows_settlement :
    (∃ effect effect',
      (runFrom (step sampleLater) initialSystem secondLeased).ledger.effects.find
          "a".toList = some effect ∧
      (runFrom (step sampleLater) initialSystem secondLeased).ledger.effects.find
          "b".toList = some effect' ∧
      (effect.runId = effect'.runId → effect.targetKey = effect'.targetKey →
        effect.status = .settled ∨ effect.status = .reconciled)) ∧
    markedEffect (runFrom (step sampleLater) initialSystem
      (leasedBy 1 "a".toList "1".toList ++ [settlesFirst] ++ []))
        (.markWriteStarted 1 "2".toList) ≠ some "a".toList := by
  constructor
  · have hfirst : markedEffect (runFrom (step sampleLater) initialSystem
        (leasedBy 1 "a".toList "1".toList)) (.markWriteStarted 1 "1".toList) =
          some "a".toList := by decide +kernel
    have hsecond : markedEffect (runFrom (step sampleLater) initialSystem secondLeased)
        (.markWriteStarted 2 "3".toList) = some "b".toList := by decide +kernel
    exact ((external_write_is_marked_once sampleLater (leasedBy 1 "a".toList "1".toList)
      (settlesFirst :: leasedBy 2 "b".toList "3".toList)).2 _ _ _ _ hfirst hsecond).2
  · have hexecuting : IsExecuting "a".toList (runFrom (step sampleLater) initialSystem
        (leasedBy 1 "a".toList "1".toList)) := by
      rw [isExecuting_iff]
      decide +kernel
    have hsettled : ¬IsExecuting "a".toList (runFrom (step sampleLater) initialSystem
        (leasedBy 1 "a".toList "1".toList ++ [settlesFirst])) := by
      rw [isExecuting_iff]
      decide +kernel
    exact (external_write_is_marked_once sampleLater (leasedBy 1 "a".toList "1".toList)
      [settlesFirst]).1 [] _ _ hexecuting hsettled

end ChainworksForge.Release
