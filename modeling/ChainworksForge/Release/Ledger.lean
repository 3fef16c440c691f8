import ChainworksForge.Release.WriteOnce

/-!
# The operations of the ledger

The ledger is changed by a few transactions, and whoever calls them chooses their
arguments: the executor its new status, the operator a disposition, the watchdog what
it has observed.  The operations are collected here with arbitrary arguments, so that
a run of operations covers every history of every party.

An operation leaves the ledger alone, prepares one effect, moves one effect, or moves
one effect and records its settlement.  `Change` says which status each of them may
find and leave; the results on whole runs only split on it.
-/

namespace ChainworksForge.Release

open ChainworksForge.Support

inductive Operation where
  | insert (intent : PrepareEffectIntent) (effectId now : Text)
  | executorStart (effectId ownerInstanceId attemptId leaseAcquiredAt
      leaseExpiresAt : Text) (deadlineAt : Option Text) (now : Text)
  | leaseRenew (effectId ownerInstanceId newExpiresAt now : Text)
  | markWriteStarted (effectId ownerInstanceId startedAt : Text)
  | executorSettle (params : ExecutorSettleCasParams) (settlementId : Text)
  /-- The settlement inside a transaction that is committed whatever it answers. -/
  | executorSettleTx (params : ExecutorSettleCasParams) (settlementId : Text)
  | executorFail (effectId ownerInstanceId attemptId observedLeaseRenewedAt
      lastErrorKind lastError now : Text)
  | reaperTransition (observed : SideEffect) (now lastErrorKind lastError : Text)
  | settledEvidenceFailed (observed : SideEffect) (lastErrorKind lastError now : Text)
  | operatorDisposition (disposition : OperatorDisposition) (settlementId : Text)

variable (later : Text → ℕ → Text)

/-- The ledger after an operation; an error rolls it back. -/
def perform (db : Store) : Operation → Store
  | .insert intent effectId now =>
      match insertEffect db (intent.effect later effectId now) with
      | .ok changed => changed
      | .error _ => db
  | .executorStart effectId ownerInstanceId attemptId leaseAcquiredAt leaseExpiresAt
      deadlineAt now =>
      commitResult db (executorStartCas db effectId ownerInstanceId attemptId
        leaseAcquiredAt leaseExpiresAt deadlineAt now)
  | .leaseRenew effectId ownerInstanceId newExpiresAt now =>
      commitResult db (leaseRenewCas db effectId ownerInstanceId newExpiresAt now)
  | .markWriteStarted effectId ownerInstanceId startedAt =>
      commitResult db (markExternalWriteStarted db effectId ownerInstanceId startedAt)
  | .executorSettle params settlementId =>
      commitResult db (executorSettleCas db params settlementId)
  | .executorSettleTx params settlementId =>
      commitResult db (executorSettleCasTx db params settlementId)
  | .executorFail effectId ownerInstanceId attemptId observedLeaseRenewedAt
      lastErrorKind lastError now =>
      commitResult db (executorFailCasTx db effectId ownerInstanceId attemptId
        observedLeaseRenewedAt lastErrorKind lastError now)
  | .reaperTransition observed now lastErrorKind lastError =>
      commitResult db (reaperTransitionCas db observed now lastErrorKind lastError)
  | .settledEvidenceFailed observed lastErrorKind lastError now =>
      commitResult db (markSettledEvidenceFailed db observed lastErrorKind lastError now)
  | .operatorDisposition disposition settlementId =>
      commitResult db (applyOperatorDispositionTx db disposition settlementId)

/-- The ledger in which nothing was prepared yet. -/
def emptyLedger : Store := ⟨Table.empty, Table.empty, Table.empty⟩

/-! ## The parties perform operations -/

theorem startExecutor_ledger (s : System) (party : ℕ)
    (coordinator : DurableEffectCoordinator) (effectId : Text) (effectKind : EffectKind)
    (attemptId now : Text) :
    (startExecutor later s party coordinator effectId effectKind attemptId now).ledger =
      perform later s.ledger (.executorStart effectId coordinator.instanceId attemptId now
        (later now effectKind.leaseTtlSeconds)
        (some (later now effectKind.deadlineSeconds)) now) := by
  rw [startExecutor, perform]
  split
  · rename_i ledger hrun
    rw [hrun]
    rfl
  · rename_i ledger hrun
    rw [hrun]
    rfl
  · rename_i error hrun
    rw [hrun]
    rfl

theorem renewHeldLease_ledger (s : System) (party : ℕ) (lease : ExecutorLease)
    (effectKind : EffectKind) (now : Text) :
    (renewHeldLease later s party lease effectKind now).ledger =
      perform later s.ledger (.leaseRenew lease.effectId lease.ownerInstanceId
        (later now effectKind.leaseTtlSeconds) now) := by
  rw [renewHeldLease, perform]
  split
  · rename_i ledger hrun
    rw [hrun]
    rfl
  · rename_i ledger hrun
    rw [hrun]
    rfl
  · rename_i error hrun
    rw [hrun]
    rfl

theorem markLeasedWrite_ledger (s : System) (party : ℕ) (lease : ExecutorLease)
    (effectKind : EffectKind) (now : Text) :
    (markLeasedWrite s party lease effectKind now).ledger =
      perform later s.ledger
        (.markWriteStarted lease.effectId lease.ownerInstanceId now) := by
  rw [markLeasedWrite, perform]
  split
  · rename_i ledger hrun
    rw [hrun]
    rfl
  · rename_i ledger hrun
    rw [hrun]
    rfl
  · rename_i error hrun
    rw [hrun]
    rfl

/-- A visit of the watchdog is at most one operation. -/
theorem watchdogVisit_ledger (db : Store) (now : Text) (candidate : SideEffect)
    (evidenceError : Option Text) :
    commitResult db (watchdogVisit db now candidate evidenceError) = db ∨
      ∃ operation, commitResult db (watchdogVisit db now candidate evidenceError) =
        perform later db operation := by
  unfold watchdogVisit
  split
  · split
    · exact .inl rfl
    · exact .inr ⟨.settledEvidenceFailed candidate _ _ now, rfl⟩
  · exact .inr ⟨.reaperTransition candidate now _ _, rfl⟩

/-- A step of a party is at most one operation of the ledger. -/
theorem step_ledger (s : System) (event : Event) :
    (step later s event).ledger = s.ledger ∨
      ∃ operation, (step later s event).ledger = perform later s.ledger operation := by
  cases event with
  | checkIdempotencyKey party coordinator intent =>
      left
      simp only [step]
      split
      · rfl
      · rfl
  | checkTargetKey party =>
      left
      simp only [step]
      split
      · split
        · rfl
        · rfl
      · rfl
  | insertIntent party effectId now =>
      simp only [step]
      split
      · rename_i coordinator intent hphase
        right
        refine ⟨.insert intent effectId now, ?_⟩
        rw [perform]
        cases insertEffect s.ledger (intent.effect later effectId now) with
        | ok ledger => rfl
        | error error => rfl
      · exact .inl rfl
  | executorStart party attemptId now =>
      simp only [step]
      split
      · exact .inr ⟨_, startExecutor_ledger later s party _ _ _ attemptId now⟩
      · exact .inl rfl
  | renewLease party now =>
      simp only [step]
      split
      · exact .inr ⟨_, renewHeldLease_ledger later s party _ _ now⟩
      · exact .inl rfl
  | markWriteStarted party now =>
      simp only [step]
      split
      · exact .inr ⟨_, markLeasedWrite_ledger later s party _ _ now⟩
      · exact .inl rfl
  | settleSuccess party evidenceSummary settlementTxnId settlementId now =>
      simp only [step]
      split
      · exact .inr ⟨.executorSettle _ settlementId, rfl⟩
      · exact .inl rfl
  | releaseSuccess party evidenceSummary receiptArtifactId settlementTxnId settlementId
      now =>
      simp only [step]
      split
      · exact .inr ⟨.executorSettleTx _ settlementId, rfl⟩
      · exact .inl rfl
  | settleFailure party errorKind error now =>
      simp only [step]
      split
      · exact .inr ⟨.executorFail _ _ _ _ errorKind error now, rfl⟩
      · exact .inl rfl
  | watchdogPass party now =>
      left
      simp only [step]
      split
      · rfl
      · rfl
  | watchdogNext party evidenceError =>
      simp only [step]
      split
      · exact .inl rfl
      · exact watchdogVisit_ledger later s.ledger _ _ evidenceError
      · exact .inl rfl
  | disposition disposition settlementId =>
      exact .inr ⟨.operatorDisposition disposition settlementId, rfl⟩

/-- Every ledger that the parties reach is reached by operations. -/
theorem exists_operations (s : System) (events : List Event) :
    ∃ operations, (runFrom (step later) s events).ledger =
      runFrom (perform later) s.ledger operations := by
  induction events generalizing s with
  | nil => exact ⟨[], rfl⟩
  | cons event events ih =>
      obtain ⟨operations, hrun⟩ := ih (step later s event)
      rcases step_ledger later s event with hsame | ⟨operation, hoperation⟩
      · refine ⟨operations, ?_⟩
        rw [runFrom_cons, hrun, hsame]
      · refine ⟨operation :: operations, ?_⟩
        rw [runFrom_cons, hrun, hoperation, runFrom_cons]

/-! ## What an operation does -/

/-- One row of the effects is replaced, and the index still holds. -/
structure Replaces (effects effects' : Effects) (before after : SideEffect) : Prop where
  found : effects.find before.id = some before
  replaced : effects'.find before.id = some after
  others : ∀ id, id ≠ before.id → effects'.find id = effects.find id
  unique : UniqueTargets effects → UniqueTargets effects'

/-- An effect has an owner and a lease. -/
def SideEffect.IsHeld (effect : SideEffect) : Prop :=
  effect.ownerInstanceId.isSome = true ∧ effect.leaseRenewedAt.isSome = true

/-- The statuses that wait for the operator. -/
def SideEffectStatus.isBlocked : SideEffectStatus → Bool
  | .needsReconciliation | .conflict | .unrecoverable => true
  | .prepared | .executing | .externallyObserved | .settled | .reconciled => false

/-- A write is under way or has been observed. -/
def SideEffectStatus.isStarted : SideEffectStatus → Bool
  | .executing | .externallyObserved => true
  | .prepared | .needsReconciliation | .settled | .reconciled | .conflict
  | .unrecoverable => false

/-- The attempt that a settlement names belongs to its effect. -/
def hasAttempt (db : Store) (params : ExecutorSettleCasParams) : Bool :=
  db.attempts.rows.any fun attempt => attempt.id = params.settlementAttemptId ∧
    attempt.sideEffectId = params.effectId

/-- The moves of an effect that record no settlement. -/
inductive Moves (db : Store) (before after : SideEffect) : Operation → Prop
  | starts {operation : Operation} (hbefore : before.status = .prepared)
      (hafter : after.status = .executing) (hheld : after.IsHeld) :
      Moves db before after operation
  | stays {operation : Operation} (hbefore : before.status = .executing)
      (hafter : after.status = .executing) (hheld : before.IsHeld → after.IsHeld) :
      Moves db before after operation
  | recovers {operation : Operation}
      (hbefore : before.status = .prepared ∨ before.status.isStarted = true)
      (hafter : after.status = .needsReconciliation) : Moves db before after operation
  | reopens {observed : SideEffect} {lastErrorKind lastError now : Text}
      (hobserved : before.id = observed.id ∧ before.updatedAt = observed.updatedAt)
      (hbefore : before.status = .settled)
      (hafter : after.status = .needsReconciliation) :
      Moves db before after (.settledEvidenceFailed observed lastErrorKind lastError now)
  | misses {params : ExecutorSettleCasParams} {settlementId : Text}
      (hid : before.id = params.effectId)
      (hbefore : before.status.isStarted = true) (hafter : after.status = params.newStatus)
      (hheld : before.IsHeld → after.IsHeld) (hfree : hasSettlement db before.id = false)
      (hattempt : hasAttempt db params = false) :
      Moves db before after (.executorSettleTx params settlementId)

/-- The moves of an effect that record its settlement. -/
inductive Settles (before after : SideEffect) : Operation → Prop
  | byExecutor {params : ExecutorSettleCasParams} {settlementId : Text}
      (hid : before.id = params.effectId)
      (hbefore : before.status.isStarted = true)
      (hafter : after.status = params.newStatus) :
      Settles before after (.executorSettle params settlementId)
  | byRelease {params : ExecutorSettleCasParams} {settlementId : Text}
      (hid : before.id = params.effectId)
      (hbefore : before.status.isStarted = true)
      (hafter : after.status = params.newStatus) :
      Settles before after (.executorSettleTx params settlementId)
  | byOperator {disposition : OperatorDisposition} {settlementId : Text}
      (hid : before.id = disposition.effectId)
      (hbefore : before.status.isBlocked = true)
      (hafter : after.status = disposition.newStatus) :
      Settles before after (.operatorDisposition disposition settlementId)

/-- A settlement of an effect that had none, with the status that the effect gets. -/
structure Records (db db' : Store) (effect : SideEffect) (settlement : SideEffectSettlement) :
    Prop where
  rows : db'.settlements.rows = db.settlements.rows ++ [settlement]
  free : hasSettlement db settlement.sideEffectId = false
  effectId : settlement.sideEffectId = effect.id
  status : settlement.settlementStatus = effect.status
  isSettlement : effect.status.isSettlement = true

/-- What an operation does to the effects and the settlements. -/
inductive Change (db db' : Store) (operation : Operation) : Prop
  | none (heffects : db'.effects = db.effects)
      (hsettlements : db'.settlements = db.settlements) : Change db db' operation
  | prepares (effect : SideEffect) (hstatus : effect.status = .prepared)
      (hfree : db.effects.find effect.id = none)
      (hrows : db'.effects.rows = db.effects.rows ++ [effect])
      (hunique : UniqueTargets db.effects → UniqueTargets db'.effects)
      (hsettlements : db'.settlements = db.settlements) : Change db db' operation
  | moves (before after : SideEffect)
      (hreplaces : Replaces db.effects db'.effects before after)
      (hsettlements : db'.settlements = db.settlements)
      (hmoves : Moves db before after operation) : Change db db' operation
  | settles (before after : SideEffect) (settlement : SideEffectSettlement)
      (hreplaces : Replaces db.effects db'.effects before after)
      (hrecords : Records db db' after settlement)
      (hsettles : Settles before after operation) : Change db db' operation

variable {db db' : Store}

/-- A statement on one effect leaves the ledger or replaces the row it expected. -/
theorem compareAndSet_replaces {id : Text} {expected : SideEffect → Bool}
    {change : SideEffect → SideEffect} {won : Bool}
    (hkey : ∀ effect, (change effect).id = effect.id)
    (hrun : compareAndSet db id expected change hkey = .ok (db', won)) :
    (won = false ∧ db' = db) ∨
    (won = true ∧ db'.settlements = db.settlements ∧ db'.attempts = db.attempts ∧
      ∃ effect, effect.id = id ∧ expected effect = true ∧
        Replaces db.effects db'.effects effect (change effect)) := by
  rcases compareAndSet_cases hkey hrun with hlost | ⟨hwon, effect, hfind, hexpected, hadmits, rfl⟩
  · exact .inl hlost
  · have hid : effect.id = id := (db.effects.find_eq_some_iff.1 hfind).2
    subst hid
    refine .inr ⟨hwon, rfl, rfl, effect, rfl, hexpected, hfind, ?_, ?_, ?_⟩
    · rw [Table.find_update, hfind, Option.map_some, if_pos (decide_eq_true rfl)]
    · intro other hother
      refine Table.find_update_of_ne db.effects ?_ hother hkey
      intro row hrow
      exact of_decide_eq_true hrow
    · exact uniqueTargets_update hkey hfind hadmits

/-- An operation that is one statement and records no settlement. -/
theorem change_of_compareAndSet {id : Text} {expected : SideEffect → Bool}
    {change : SideEffect → SideEffect} {operation : Operation}
    (hkey : ∀ effect, (change effect).id = effect.id)
    (hmoves : ∀ effect, effect.id = id → expected effect = true →
      Moves db effect (change effect) operation) :
    Change db (commitResult db (compareAndSet db id expected change hkey)) operation := by
  cases hrun : compareAndSet db id expected change hkey with
  | error message => exact .none rfl rfl
  | ok answer =>
      obtain ⟨changed, won⟩ := answer
      rcases compareAndSet_replaces hkey hrun with
        ⟨-, rfl⟩ | ⟨-, hsettlements, -, effect, hid, hexpected, hreplaces⟩
      · exact .none rfl rfl
      · exact .moves effect _ hreplaces hsettlements (hmoves effect hid hexpected)

theorem insertSettlement_records {settlement : SideEffectSettlement}
    (hrun : insertSettlement db settlement = .ok db') {effect : SideEffect}
    (heffectId : settlement.sideEffectId = effect.id)
    (hstatus : settlement.settlementStatus = effect.status) :
    Records db db' effect settlement := by
  simp only [insertSettlement, bind_eq_ok_iff, ensure_eq_ok_iff, required_eq_ok_iff,
    pure_eq_ok_iff, Bool.and_eq_true, List.all_eq_true, decide_eq_true_eq] at hrun
  obtain ⟨-, ⟨hcheck, -⟩, -, hfree, settlements, hinsert, rfl⟩ := hrun
  obtain ⟨-, rfl⟩ := (Table.insert_eq_some_iff _).1 hinsert
  refine ⟨rfl, ?_, heffectId, hstatus, hstatus ▸ hcheck⟩
  rw [hasSettlement, List.any_eq_false]
  intro other hother
  exact fun htrue => (hfree other hother).1 (of_decide_eq_true htrue)

theorem Records.of_settlements_eq {db₀ : Store} {effect : SideEffect}
    {settlement : SideEffectSettlement} (hrecords : Records db db' effect settlement)
    (hsame : db.settlements = db₀.settlements) : Records db₀ db' effect settlement where
  rows := by
    rw [← hsame]
    exact hrecords.rows
  free := by
    rw [hasSettlement, ← hsame]
    exact hrecords.free
  effectId := hrecords.effectId
  status := hrecords.status
  isSettlement := hrecords.isSettlement

theorem insertEffect_change {effect : SideEffect} {operation : Operation}
    (hstatus : effect.status = .prepared) (hrun : insertEffect db effect = .ok db') :
    Change db db' operation := by
  have hunique := (insertEffect_step hrun).unique
  simp only [insertEffect, bind_eq_ok_iff, ensure_eq_ok_iff, required_eq_ok_iff,
    pure_eq_ok_iff] at hrun
  obtain ⟨-, -, -, -, changed, hinsert, rfl⟩ := hrun
  obtain ⟨hfree, rfl⟩ := (Table.insert_eq_some_iff _).1 hinsert
  exact .prepares effect hstatus hfree rfl hunique rfl

theorem executorStartCas_change (effectId ownerInstanceId attemptId leaseAcquiredAt
    leaseExpiresAt : Text) (deadlineAt : Option Text) (now : Text)
    {operation : Operation} :
    Change db (commitResult db (executorStartCas db effectId ownerInstanceId attemptId
      leaseAcquiredAt leaseExpiresAt deadlineAt now)) operation := by
  cases hrun : executorStartCas db effectId ownerInstanceId attemptId leaseAcquiredAt
      leaseExpiresAt deadlineAt now with
  | error message => exact .none rfl rfl
  | ok answer =>
      obtain ⟨final, won⟩ := answer
      rw [executorStartCas, bind_eq_ok_iff] at hrun
      obtain ⟨⟨changed, updated⟩, hset, hrun⟩ := hrun
      cases updated with
      | false =>
          obtain ⟨rfl, -⟩ := Prod.mk.inj ((pure_eq_ok_iff _ _).1 hrun)
          exact .none rfl rfl
      | true =>
          obtain ⟨attempts, -, hrun⟩ := (bind_eq_ok_iff _ _ _).1 hrun
          obtain ⟨rfl, -⟩ := Prod.mk.inj ((pure_eq_ok_iff _ _).1 hrun)
          rcases compareAndSet_replaces _ hset with
            ⟨hlost, -⟩ | ⟨-, hsettlements, -, effect, -, hexpected, hreplaces⟩
          · cases hlost
          · exact .moves effect _ hreplaces hsettlements
              (.starts (of_decide_eq_true hexpected).1 rfl ⟨rfl, rfl⟩)

theorem leaseRenewCas_change (effectId ownerInstanceId newExpiresAt now : Text)
    {operation : Operation} :
    Change db (commitResult db
      (leaseRenewCas db effectId ownerInstanceId newExpiresAt now)) operation := by
  refine change_of_compareAndSet _ ?_
  intro effect hid hexpected
  have hstatus := (of_decide_eq_true hexpected).1
  exact .stays hstatus hstatus fun hheld => ⟨hheld.1, rfl⟩

theorem markExternalWriteStarted_change (effectId ownerInstanceId startedAt : Text)
    {operation : Operation} :
    Change db (commitResult db
      (markExternalWriteStarted db effectId ownerInstanceId startedAt)) operation := by
  refine change_of_compareAndSet _ ?_
  intro effect hid hexpected
  have hstatus := (of_decide_eq_true hexpected).1
  exact .stays hstatus hstatus id

/-- A settlement loses, misses its attempt, or is recorded. -/
theorem executorSettleCasTx_cases {params : ExecutorSettleCasParams} {settlementId : Text}
    {settled : Bool}
    (hrun : executorSettleCasTx db params settlementId = .ok (db', settled)) :
    (settled = false ∧ db' = db) ∨
    ∃ before after, before.id = params.effectId ∧ before.status.isStarted = true ∧
      after.status = params.newStatus ∧ (before.IsHeld → after.IsHeld) ∧
      Replaces db.effects db'.effects before after ∧
      ((settled = false ∧ db'.settlements = db.settlements ∧
          hasSettlement db before.id = false ∧ hasAttempt db params = false) ∨
        (settled = true ∧ ∃ settlement, Records db db' after settlement)) := by
  rw [executorSettleCasTx, bind_eq_ok_iff] at hrun
  obtain ⟨⟨changed, updated⟩, hset, hrun⟩ := hrun
  rcases compareAndSet_replaces _ hset with
    ⟨rfl, rfl⟩ | ⟨rfl, hsettlements, hattempts, effect, hid, hexpected, hreplaces⟩
  · obtain ⟨rfl, rfl⟩ := Prod.mk.inj ((pure_eq_ok_iff _ _).1 hrun)
    exact .inl ⟨rfl, rfl⟩
  · right
    obtain ⟨-, hfree, hstatus⟩ := of_decide_eq_true hexpected
    have hstarted : effect.status.isStarted = true := by
      rcases hstatus with ⟨hexecuting, -⟩ | hobserved
      · rw [hexecuting]
        rfl
      · rw [hobserved]
        rfl
    dsimp only at hrun
    split_ifs at hrun with hlost hattempt
    · cases hlost
    · obtain ⟨rfl, rfl⟩ := Prod.mk.inj ((pure_eq_ok_iff _ _).1 hrun)
      refine ⟨effect, _, hid, hstarted, ?_, ?_, hreplaces, .inl ⟨rfl, hsettlements, ?_, ?_⟩⟩
      · rfl
      · exact fun hheld => hheld
      · rw [hid]
        exact hfree
      · rw [hasAttempt, ← hattempts]
        simpa using hattempt
    · obtain ⟨settledDb, hinsert, hrun⟩ := (bind_eq_ok_iff _ _ _).1 hrun
      obtain ⟨rfl, rfl⟩ := Prod.mk.inj ((pure_eq_ok_iff _ _).1 hrun)
      have hfinal := hreplaces
      rw [show changed.effects = settledDb.effects from
        (insertSettlement_effects hinsert).1.symm] at hfinal
      refine ⟨effect, _, hid, hstarted, ?_, ?_, hfinal, .inr ⟨rfl, ?_⟩⟩
      · rfl
      · exact fun hheld => hheld
      · refine ⟨_, (insertSettlement_records hinsert ?_ ?_).of_settlements_eq hsettlements⟩
        · exact hid.symm
        · rfl

theorem executorSettleCas_change (params : ExecutorSettleCasParams) (settlementId : Text) :
    Change db (commitResult db (executorSettleCas db params settlementId))
      (.executorSettle params settlementId) := by
  cases hrun : executorSettleCas db params settlementId with
  | error message => exact .none rfl rfl
  | ok answer =>
      obtain ⟨final, won⟩ := answer
      rw [executorSettleCas, bind_eq_ok_iff] at hrun
      obtain ⟨⟨changed, settled⟩, hsettle, hrun⟩ := hrun
      cases settled with
      | false =>
          obtain ⟨rfl, -⟩ := Prod.mk.inj ((pure_eq_ok_iff _ _).1 hrun)
          exact .none rfl rfl
      | true =>
          obtain ⟨rfl, -⟩ := Prod.mk.inj ((pure_eq_ok_iff _ _).1 hrun)
          rcases executorSettleCasTx_cases hsettle with ⟨hlost, -⟩ |
            ⟨before, after, hid, hstarted, hstatus, -, hreplaces, ⟨hlost, -⟩ | ⟨-, settlement,
              hrecords⟩⟩
          · cases hlost
          · cases hlost
          · exact .settles before after settlement hreplaces hrecords
              (.byExecutor hid hstarted hstatus)

theorem executorSettleCasTx_change (params : ExecutorSettleCasParams)
    (settlementId : Text) :
    Change db (commitResult db (executorSettleCasTx db params settlementId))
      (.executorSettleTx params settlementId) := by
  cases hrun : executorSettleCasTx db params settlementId with
  | error message => exact .none rfl rfl
  | ok answer =>
      obtain ⟨final, settled⟩ := answer
      rcases executorSettleCasTx_cases hrun with ⟨-, rfl⟩ |
        ⟨before, after, hid, hstarted, hstatus, hheld, hreplaces,
          ⟨-, hsettlements, hfree, hattempt⟩ | ⟨-, settlement, hrecords⟩⟩
      · exact .none rfl rfl
      · exact .moves before after hreplaces hsettlements
          (.misses hid hstarted hstatus hheld hfree hattempt)
      · exact .settles before after settlement hreplaces hrecords
          (.byRelease hid hstarted hstatus)

theorem executorFailCasTx_change (effectId ownerInstanceId attemptId
    observedLeaseRenewedAt lastErrorKind lastError now : Text) {operation : Operation} :
    Change db (commitResult db (executorFailCasTx db effectId ownerInstanceId attemptId
      observedLeaseRenewedAt lastErrorKind lastError now)) operation := by
  cases hrun : executorFailCasTx db effectId ownerInstanceId attemptId
      observedLeaseRenewedAt lastErrorKind lastError now with
  | error message => exact .none rfl rfl
  | ok answer =>
      obtain ⟨final, failed⟩ := answer
      rw [executorFailCasTx, bind_eq_ok_iff] at hrun
      obtain ⟨⟨changed, updated⟩, hset, hrun⟩ := hrun
      rcases compareAndSet_replaces _ hset with
        ⟨rfl, rfl⟩ | ⟨rfl, hsettlements, -, effect, -, hexpected, hreplaces⟩
      · obtain ⟨rfl, -⟩ := Prod.mk.inj ((pure_eq_ok_iff _ _).1 hrun)
        exact .none rfl rfl
      · obtain ⟨rfl, -⟩ := Prod.mk.inj ((pure_eq_ok_iff _ _).1 hrun)
        refine .moves effect _ hreplaces hsettlements (.recovers (.inr ?_) rfl)
        rw [(of_decide_eq_true hexpected).1]
        rfl

theorem reaperTransitionCas_change (observed : SideEffect)
    (now lastErrorKind lastError : Text) {operation : Operation} :
    Change db (commitResult db
      (reaperTransitionCas db observed now lastErrorKind lastError)) operation := by
  unfold reaperTransitionCas
  dsimp only
  split
  · refine change_of_compareAndSet _ ?_
    intro effect hid hexpected
    refine .recovers (.inr ?_) rfl
    rw [(of_decide_eq_true hexpected).1]
    rfl
  · refine change_of_compareAndSet _ ?_
    intro effect hid hexpected
    exact .recovers (.inl (of_decide_eq_true hexpected).1) rfl
  · refine change_of_compareAndSet _ ?_
    intro effect hid hexpected
    refine .recovers (.inr ?_) rfl
    rw [(of_decide_eq_true hexpected).1]
    rfl
  · exact .none rfl rfl

theorem markSettledEvidenceFailed_change (observed : SideEffect)
    (lastErrorKind lastError now : Text) :
    Change db (commitResult db
      (markSettledEvidenceFailed db observed lastErrorKind lastError now))
        (.settledEvidenceFailed observed lastErrorKind lastError now) := by
  refine change_of_compareAndSet _ ?_
  intro effect hid hexpected
  obtain ⟨hstatus, hupdated⟩ := of_decide_eq_true hexpected
  exact .reopens ⟨hid, hupdated⟩ hstatus rfl

/-- A disposition leaves the ledger, or it settles a blocked effect that had no
settlement. -/
theorem applyOperatorDispositionTx_cases {disposition : OperatorDisposition}
    {settlementId : Text} {outcome : DispositionOutcome}
    (hrun : applyOperatorDispositionTx db disposition settlementId = .ok (db', outcome)) :
    (outcome ≠ .applied ∧ db' = db) ∨
    (outcome = .applied ∧ ∃ before after settlement, before.id = disposition.effectId ∧
      before.status.isBlocked = true ∧ after.status = disposition.newStatus ∧
      Replaces db.effects db'.effects before after ∧ Records db db' after settlement) := by
  unfold applyOperatorDispositionTx at hrun
  split at hrun
  · left
    split_ifs at hrun
    · obtain ⟨rfl, rfl⟩ := Prod.mk.inj (Except.ok.inj hrun)
      exact ⟨by decide, rfl⟩
    · obtain ⟨rfl, rfl⟩ := Prod.mk.inj (Except.ok.inj hrun)
      exact ⟨by decide, rfl⟩
  · split at hrun
    · left
      obtain ⟨rfl, rfl⟩ := Prod.mk.inj (Except.ok.inj hrun)
      refine ⟨?_, rfl⟩
      split_ifs <;> decide
    · rw [settleForOperator, bind_eq_ok_iff] at hrun
      obtain ⟨⟨changed, updated⟩, hset, hrun⟩ := hrun
      rcases compareAndSet_replaces _ hset with
        ⟨rfl, rfl⟩ | ⟨rfl, hsettlements, -, effect, hid, hexpected, hreplaces⟩
      · obtain ⟨rfl, rfl⟩ := Prod.mk.inj ((pure_eq_ok_iff _ _).1 hrun)
        exact .inl ⟨by decide, rfl⟩
      · right
        obtain ⟨settledDb, hinsert, hrun⟩ := (bind_eq_ok_iff _ _ _).1 hrun
        obtain ⟨rfl, rfl⟩ := Prod.mk.inj ((pure_eq_ok_iff _ _).1 hrun)
        have hfinal := hreplaces
        rw [show changed.effects = settledDb.effects from
          (insertSettlement_effects hinsert).1.symm] at hfinal
        refine ⟨rfl, effect, _, _, hid, ?_, ?_, hfinal,
          (insertSettlement_records hinsert ?_ ?_).of_settlements_eq hsettlements⟩
        · rcases of_decide_eq_true hexpected with hstatus | hstatus | hstatus <;>
            rw [hstatus] <;> rfl
        · rfl
        · exact hid.symm
        · rfl

theorem applyOperatorDispositionTx_change (disposition : OperatorDisposition)
    (settlementId : Text) :
    Change db (commitResult db (applyOperatorDispositionTx db disposition settlementId))
      (.operatorDisposition disposition settlementId) := by
  cases hrun : applyOperatorDispositionTx db disposition settlementId with
  | error message => exact .none rfl rfl
  | ok answer =>
      obtain ⟨final, outcome⟩ := answer
      rcases applyOperatorDispositionTx_cases hrun with ⟨-, rfl⟩ |
        ⟨-, before, after, settlement, hid, hblocked, hstatus, hreplaces, hrecords⟩
      · exact .none rfl rfl
      · exact .settles before after settlement hreplaces hrecords
          (.byOperator hid hblocked hstatus)

/-- Every operation changes the ledger as described. -/
theorem perform_change (db : Store) (operation : Operation) :
    Change db (perform later db operation) operation := by
  cases operation with
  | insert intent effectId now =>
      rw [perform]
      split
      · rename_i changed hrun
        exact insertEffect_change rfl hrun
      · exact .none rfl rfl
  | executorStart => exact executorStartCas_change _ _ _ _ _ _ _
  | leaseRenew => exact leaseRenewCas_change _ _ _ _
  | markWriteStarted => exact markExternalWriteStarted_change _ _ _
  | executorSettle => exact executorSettleCas_change _ _
  | executorSettleTx => exact executorSettleCasTx_change _ _
  | executorFail => exact executorFailCasTx_change _ _ _ _ _ _ _
  | reaperTransition => exact reaperTransitionCas_change _ _ _ _
  | settledEvidenceFailed => exact markSettledEvidenceFailed_change _ _ _ _
  | operatorDisposition => exact applyOperatorDispositionTx_change _ _

end ChainworksForge.Release
