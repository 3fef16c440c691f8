import ChainworksForge.Release.Ledger
import Mathlib.Data.Fintype.EquivFin

/-!
# Resolving a blocked effect

An effect that waits for reconciliation, or was found in conflict or unrecoverable,
blocks its run until an operator disposes of it.  A disposition is applied only if the
effect has no settlement yet.  An effect that is blocked after it was settled, because
its evidence failed or because the settlement itself said conflict or unrecoverable,
therefore stays blocked.
-/

namespace ChainworksForge.Release

open ChainworksForge.Support

/-! ## The preflight of a run -/

inductive ReconciliationBlockReason where
  | unresolvedPrepared
  | unresolvedExecuting
  | externallyObservedPending
  | needsReconciliation
  | conflict
  | unrecoverable
deriving DecidableEq

structure RequiresEffectReconciliationEnvelope where
  runId : Uuid
  stageExecutionId : Uuid
  agentExecutionId : Option Uuid
  effectIds : List Text
  reason : ReconciliationBlockReason
deriving DecidableEq

def listUnresolvedForRun (db : Store) (runId : Uuid) : List SideEffect :=
  sortByRank SideEffect.createdAt (db.effects.rows.filter fun effect =>
    effect.runId = runId ∧ effect.status.isUnresolved)

def classifyUnresolvedReason (effects : List SideEffect) : ReconciliationBlockReason :=
  if effects.any fun effect => effect.status = .conflict then .conflict
  else if effects.any fun effect => effect.status = .unrecoverable then .unrecoverable
  else if effects.any fun effect => effect.status = .needsReconciliation then
    .needsReconciliation
  else if effects.any fun effect => effect.status = .externallyObserved then
    .externallyObservedPending
  else if effects.any fun effect => effect.status = .executing then .unresolvedExecuting
  else .unresolvedPrepared

/-- A run goes on if none of its effects is unresolved. -/
def runUnresolvedEffectsPreflight (db : Store) (runId : Uuid) :
    Except RequiresEffectReconciliationEnvelope Unit :=
  match listUnresolvedForRun db runId with
  | [] => .ok ()
  | first :: rest => .error
      { runId := runId
        stageExecutionId := first.stageExecutionId
        agentExecutionId := none
        effectIds := (first :: rest).map SideEffect.id
        reason := classifyUnresolvedReason (first :: rest) }

/-- The preflight of a run is refused because of an effect. -/
def BlocksRun (db : Store) (runId : Uuid) (effectId : Text) : Prop :=
  ∃ envelope, runUnresolvedEffectsPreflight db runId = .error envelope ∧
    effectId ∈ envelope.effectIds

theorem blocksRun_iff {db : Store} {runId : Uuid} {effectId : Text} :
    BlocksRun db runId effectId ↔
      ∃ effect, db.effects.find effectId = some effect ∧ effect.runId = runId ∧
        effect.status.isUnresolved = true := by
  have hids : BlocksRun db runId effectId ↔
      effectId ∈ (listUnresolvedForRun db runId).map SideEffect.id := by
    unfold BlocksRun runUnresolvedEffectsPreflight
    cases hlist : listUnresolvedForRun db runId with
    | nil => simp
    | cons first rest => simp
  rw [hids]
  simp only [listUnresolvedForRun, List.mem_map, mem_sortByRank, List.mem_filter,
    decide_eq_true_eq, Table.find_eq_some_iff]
  constructor
  · rintro ⟨effect, ⟨hmem, hrun, hopen⟩, hid⟩
    exact ⟨effect, ⟨hmem, hid⟩, hrun, hopen⟩
  · rintro ⟨effect, ⟨hmem, hid⟩, hrun, hopen⟩
    exact ⟨effect, ⟨hmem, hrun, hopen⟩, hid⟩

/-! ## Dispositions that apply -/

variable {db db' : Store}

/-- An effect is resolved and its run is not refused because of it. -/
def IsResolved (db : Store) (effectId : Text) : Prop :=
  ∃ effect, db.effects.find effectId = some effect ∧
    (effect.status = .reconciled ∨ effect.status = .settled) ∧
    ¬BlocksRun db effect.runId effectId

/-- Some disposition with a fresh identifier is applied and resolves the effect. -/
def IsResolvable (db : Store) (effectId : Text) : Prop :=
  ∃ disposition settlementId db', disposition.effectId = effectId ∧
    (∀ settlement ∈ db.settlements.rows,
      settlement.dispositionId ≠ some disposition.dispositionId) ∧
    applyOperatorDispositionTx db disposition settlementId = .ok (db', .applied) ∧
    IsResolved db' effectId

theorem hasSettlement_eq_false_iff {effectId : Text} :
    hasSettlement db effectId = false ↔
      ∀ settlement ∈ db.settlements.rows, settlement.sideEffectId ≠ effectId := by
  simp [hasSettlement]

theorem isResolved_of_find {effectId : Text} {effect : SideEffect}
    (hfind : db.effects.find effectId = some effect)
    (hstatus : effect.status = .reconciled ∨ effect.status = .settled) :
    IsResolved db effectId := by
  refine ⟨effect, hfind, hstatus, ?_⟩
  rw [blocksRun_iff]
  rintro ⟨other, hother, -, hopen⟩
  rw [hfind] at hother
  obtain rfl := Option.some.inj hother
  rcases hstatus with hstatus | hstatus <;> simp [hstatus, SideEffectStatus.isUnresolved] at hopen

/-- Identifiers do not run out. -/
theorem exists_text_notMem (taken : List Text) : ∃ text : Text, text ∉ taken := by
  obtain ⟨text, htext⟩ := Infinite.exists_notMem_finset taken.toFinset
  exact ⟨text, fun hmem => htext (List.mem_toFinset.2 hmem)⟩

/-- The disposition by which an operator confirms an effect. -/
def reconciles (effectId dispositionId : Text) : OperatorDisposition where
  effectId := effectId
  newStatus := .reconciled
  settlementSource := "mcp_operator".toList
  dispositionId := dispositionId
  decisionJson := []
  decisionJsonHash := []
  appliedBy := []
  now := []

theorem compareAndSet_eq_ok {id : Text} {expected : SideEffect → Bool}
    {change : SideEffect → SideEffect} {effect : SideEffect}
    (hkey : ∀ effect, (change effect).id = effect.id)
    (hfind : db.effects.find id = some effect) (hexpected : expected effect = true)
    (hadmits : admitsTarget db (change effect) = true) :
    compareAndSet db id expected change hkey = .ok ({ db with
      effects := db.effects.update (fun row => row.id = id) change hkey }, true) := by
  simp only [compareAndSet, hfind, hexpected, hadmits, if_true]

/-- A settlement is inserted if its status and source are admitted and neither its
identifier, its effect nor its disposition is taken. -/
theorem insertSettlement_eq_ok {settlement : SideEffectSettlement}
    (hcheck : settlement.settlementStatus.isSettlement = true)
    (hsource : settlementSources.contains settlement.settlementSource = true)
    (hfree : ∀ other ∈ db.settlements.rows, other.sideEffectId ≠ settlement.sideEffectId)
    (hfresh : ∀ other ∈ db.settlements.rows,
      other.dispositionId ≠ settlement.dispositionId)
    (hnone : db.settlements.find settlement.id = none) :
    insertSettlement db settlement =
      .ok { db with settlements := db.settlements.add settlement hnone } := by
  simp only [insertSettlement, bind_eq_ok_iff, ensure_eq_ok_iff, required_eq_ok_iff,
    pure_eq_ok_iff, Bool.and_eq_true, List.all_eq_true, decide_eq_true_eq]
  exact ⟨(), ⟨hcheck, hsource⟩, (),
    fun other hother => ⟨hfree other hother, .inr (hfresh other hother)⟩,
    _, (Table.insert_eq_some_iff _).2 ⟨hnone, rfl⟩, rfl⟩

/-- The operator reconciles a blocked effect that has no settlement. -/
theorem exists_settleForOperator {effect : SideEffect} {dispositionId settlementId : Text}
    (hfind : db.effects.find effect.id = some effect)
    (hblocked : effect.status.isBlocked = true)
    (hfree : ∀ settlement ∈ db.settlements.rows, settlement.sideEffectId ≠ effect.id)
    (hfresh : ∀ settlement ∈ db.settlements.rows,
      settlement.dispositionId ≠ some dispositionId)
    (hnone : db.settlements.find settlementId = none) :
    ∃ db', settleForOperator db (reconciles effect.id dispositionId) settlementId =
        .ok (db', .applied) ∧
      db'.effects.find effect.id =
        some { effect with status := .reconciled, updatedAt := [] } := by
  have hexpected : effect.status = .needsReconciliation ∨ effect.status = .conflict ∨
      effect.status = .unrecoverable := by
    cases hstatus : effect.status <;>
      simp [hstatus, SideEffectStatus.isBlocked] at hblocked ⊢
  have hsource : settlementSources.contains "mcp_operator".toList = true := by decide
  simp only [settleForOperator, bind_eq_ok_iff]
  refine ⟨_, ⟨_, compareAndSet_eq_ok _ hfind (decide_eq_true hexpected) rfl,
    (bind_eq_ok_iff _ _ _).2
      ⟨_, insertSettlement_eq_ok rfl hsource hfree hfresh hnone, rfl⟩⟩, ?_⟩
  change (db.effects.update (fun row => row.id = effect.id)
    (fun row => { row with status := .reconciled, updatedAt := [] })).find effect.id = _
  rw [Table.find_update, hfind, Option.map_some, if_pos (decide_eq_true rfl)]

/-- A blocked effect is resolvable if it has no settlement. -/
theorem isResolvable_of_free {effect : SideEffect}
    (hfind : db.effects.find effect.id = some effect)
    (hblocked : effect.status.isBlocked = true)
    (hfree : hasSettlement db effect.id = false) : IsResolvable db effect.id := by
  rw [hasSettlement_eq_false_iff] at hfree
  obtain ⟨dispositionId, hdisposition⟩ := exists_text_notMem
    (db.settlements.rows.filterMap SideEffectSettlement.dispositionId)
  obtain ⟨settlementId, hsettlement⟩ := exists_text_notMem
    (db.settlements.rows.map SideEffectSettlement.id)
  have hfresh : ∀ settlement ∈ db.settlements.rows,
      settlement.dispositionId ≠ some dispositionId := by
    intro settlement hmem heq
    exact hdisposition (List.mem_filterMap.2 ⟨settlement, hmem, heq⟩)
  obtain ⟨db', hsettle, hresolved⟩ := exists_settleForOperator hfind hblocked hfree hfresh
    (db.settlements.find_eq_none_iff.2 hsettlement)
  refine ⟨reconciles effect.id dispositionId, settlementId, db', rfl, hfresh, ?_,
    isResolved_of_find hresolved (.inl rfl)⟩
  unfold applyOperatorDispositionTx
  -- neither the disposition nor the effect is found among the settlements
  split
  · rename_i existing hexisting
    have hsame := List.find?_some hexisting
    exact absurd (of_decide_eq_true hsame)
      (hfresh existing (List.mem_of_find?_eq_some hexisting))
  · split
    · rename_i existing hexisting
      have hsame := List.find?_some hexisting
      exact absurd (of_decide_eq_true hsame)
        (hfree existing (List.mem_of_find?_eq_some hexisting))
    · exact hsettle

/-- Exactly the settlement of a blocked effect keeps it from being resolved. -/
theorem isResolvable_iff {effect : SideEffect}
    (hfind : db.effects.find effect.id = some effect)
    (hblocked : effect.status.isBlocked = true) :
    IsResolvable db effect.id ↔ hasSettlement db effect.id = false := by
  constructor
  · rintro ⟨disposition, settlementId, db', heffectId, -, hrun, -⟩
    rcases applyOperatorDispositionTx_cases hrun with ⟨hnot, -⟩ |
      ⟨-, before, after, settlement, hid, -, -, hreplaces, hrecords⟩
    · exact absurd rfl hnot
    · have hafter : after.id = before.id :=
        ((Table.find_eq_some_iff _).1 hreplaces.replaced).2
      rw [← heffectId, ← hid, ← hafter, ← hrecords.effectId]
      exact hrecords.free
  · exact isResolvable_of_free hfind hblocked

/-! ## Runs -/

/-- No status that blocks. -/
def SideEffectStatus.Unblocks (status : SideEffectStatus) : Prop :=
  status ≠ .conflict ∧ status ≠ .unrecoverable

/-- The operations that keep blocked effects resolvable: a settlement does not block,
and an effect that has a settlement is not reopened. -/
def KeepsResolvable (db : Store) : Operation → Prop
  | .executorSettle params _ => params.newStatus.Unblocks
  | .executorSettleTx params _ => params.newStatus.Unblocks
  | .operatorDisposition disposition _ => disposition.newStatus.Unblocks
  | .settledEvidenceFailed observed _ _ _ =>
      ∀ effect, db.effects.find observed.id = some effect → effect.status = .settled →
        effect.updatedAt = observed.updatedAt → hasSettlement db observed.id = false
  | _ => True

/-- Every settlement belongs to an effect that it has resolved. -/
def SettlementsResolve (db : Store) : Prop :=
  ∀ settlement ∈ db.settlements.rows, ∃ effect,
    db.effects.find settlement.sideEffectId = some effect ∧
    (effect.status = .settled ∨ effect.status = .reconciled)

theorem settlementsResolve_empty : SettlementsResolve emptyLedger := by
  intro settlement hmem
  cases hmem

theorem Settles.unblocks {before after : SideEffect} {operation : Operation}
    (hsettles : Settles before after operation) (hkeeps : KeepsResolvable db operation) :
    after.status.Unblocks := by
  cases hsettles with
  | byExecutor hid hbefore hafter =>
      rw [hafter]
      exact hkeeps
  | byRelease hid hbefore hafter =>
      rw [hafter]
      exact hkeeps
  | byOperator hid hbefore hafter =>
      rw [hafter]
      exact hkeeps

/-- A settled or reconciled effect with a settlement does not move. -/
theorem Moves.not_resolved {before after : SideEffect} {operation : Operation}
    (hmoves : Moves db before after operation) (hkeeps : KeepsResolvable db operation)
    (hfind : db.effects.find before.id = some before)
    (hsettled : hasSettlement db before.id = true) :
    ¬(before.status = .settled ∨ before.status = .reconciled) := by
  cases hmoves with
  | starts hbefore => simp [hbefore]
  | stays hbefore => simp [hbefore]
  | recovers hbefore =>
      rcases hbefore with hbefore | hbefore
      · simp [hbefore]
      · rintro (h | h) <;> simp [h, SideEffectStatus.isStarted] at hbefore
  | reopens hobserved hbefore hafter =>
      have hfree := hkeeps before (hobserved.1 ▸ hfind) hbefore hobserved.2
      rw [← hobserved.1, hsettled] at hfree
      cases hfree
  | misses hid hbefore hafter hheld hfree =>
      rw [hsettled] at hfree
      cases hfree

theorem perform_settlementsResolve (later : Text → ℕ → Text) (operation : Operation)
    (hkeeps : KeepsResolvable db operation) (hinv : SettlementsResolve db) :
    SettlementsResolve (perform later db operation) := by
  intro settlement hmem
  cases perform_change later db operation with
  | none heffects hsettlements =>
      rw [heffects]
      exact hinv settlement (hsettlements ▸ hmem)
  | prepares effect hstatus hfree hrows hunique hsettlements =>
      obtain ⟨found, hfind, hresolved⟩ := hinv settlement (hsettlements ▸ hmem)
      refine ⟨found, ?_, hresolved⟩
      obtain ⟨hfoundMem, hid⟩ := (Table.find_eq_some_iff _).1 hfind
      rw [Table.find_eq_some_iff, hrows]
      exact ⟨List.mem_append_left _ hfoundMem, hid⟩
  | moves before after hreplaces hsettlements hmoves =>
      obtain ⟨found, hfind, hresolved⟩ := hinv settlement (hsettlements ▸ hmem)
      refine ⟨found, ?_, hresolved⟩
      rw [hreplaces.others]
      · exact hfind
      · intro hsame
        rw [hsame, hreplaces.found] at hfind
        obtain rfl := Option.some.inj hfind
        have hsettled : hasSettlement db before.id = true := by
          rw [hasSettlement, List.any_eq_true]
          exact ⟨settlement, hsettlements ▸ hmem, decide_eq_true hsame⟩
        exact hmoves.not_resolved hkeeps hreplaces.found hsettled hresolved
  | settles before after added hreplaces hrecords hsettles =>
      have hafter : after.id = before.id :=
        ((Table.find_eq_some_iff _).1 hreplaces.replaced).2
      rw [hrecords.rows, List.mem_append, List.mem_singleton] at hmem
      rcases hmem with hmem | rfl
      · obtain ⟨found, hfind, hresolved⟩ := hinv settlement hmem
        refine ⟨found, ?_, hresolved⟩
        rw [hreplaces.others]
        · exact hfind
        · intro hsame
          refine hasSettlement_eq_false_iff.1 hrecords.free settlement hmem ?_
          rw [hsame, hrecords.effectId, hafter]
      · refine ⟨after, ?_, ?_⟩
        · rw [hrecords.effectId, hafter]
          exact hreplaces.replaced
        · obtain ⟨hconflict, hunrecoverable⟩ := hsettles.unblocks hkeeps
          have hsettlement := hrecords.isSettlement
          cases hstatus : after.status <;>
            simp [hstatus, SideEffectStatus.isSettlement] at hsettlement hconflict hunrecoverable ⊢

/-- In every ledger, exactly the settlement of a blocked effect keeps it from being
resolved; in a run whose settlements do not block and whose settled effects are not
reopened every blocked effect is resolvable. -/
theorem blocked_effects_are_resolvable (later : Text → ℕ → Text)
    (operations : List Operation) (effect : SideEffect)
    (hfind : (runFrom (perform later) emptyLedger operations).effects.find effect.id =
      some effect)
    (hblocked : effect.status.isBlocked = true) :
    (IsResolvable (runFrom (perform later) emptyLedger operations) effect.id ↔
      hasSettlement (runFrom (perform later) emptyLedger operations) effect.id = false) ∧
    (RunMeets (perform later) KeepsResolvable emptyLedger operations →
      IsResolvable (runFrom (perform later) emptyLedger operations) effect.id) := by
  have hiff := isResolvable_iff hfind hblocked
  refine ⟨hiff, fun hmeets => hiff.2 ?_⟩
  have hinv : SettlementsResolve (runFrom (perform later) emptyLedger operations) :=
    runFrom_invariant_of_meets (perform later) (C := KeepsResolvable)
      (fun db operation hkeeps => perform_settlementsResolve later operation hkeeps)
      settlementsResolve_empty hmeets
  rw [hasSettlement_eq_false_iff]
  rintro settlement hmem hid
  obtain ⟨found, hfound, hresolved⟩ := hinv settlement hmem
  rw [hid, hfind] at hfound
  obtain rfl := Option.some.inj hfound
  rcases hresolved with hstatus | hstatus <;>
    simp [hstatus, SideEffectStatus.isBlocked] at hblocked

/-! ## A settled effect that is reopened -/

/-- A party prepares an effect and takes its lease. -/
def leaseOperations : List Operation :=
  [.insert (sampleIntent "a".toList) "a".toList "1".toList,
    .executorStart "a".toList "o".toList "t".toList "1".toList "9".toList none "1".toList]

/-- The party fails. -/
def failsOperation : Operation :=
  .executorFail "a".toList "o".toList "t".toList "1".toList "kind".toList "error".toList
    "2".toList

/-- The effect that the party has left to reconciliation. -/
def failedEffect : SideEffect :=
  { (sampleIntent "a".toList).effect sampleLater "a".toList "1".toList with
    status := .needsReconciliation
    ownerInstanceId := some "o".toList
    leaseAcquiredAt := some "1".toList
    leaseRenewedAt := some "1".toList
    leaseExpiresAt := some "9".toList
    lastErrorKind := some "kind".toList
    lastError := some "error".toList
    updatedAt := "2".toList }

/-- An effect whose executor failed is resolvable. -/
theorem failed_effect_is_resolvable :
    IsResolvable (runFrom (perform sampleLater) emptyLedger
      (leaseOperations ++ [failsOperation])) failedEffect.id := by
  refine (blocked_effects_are_resolvable sampleLater _ failedEffect ?_ rfl).2 ?_
  · decide +kernel
  · exact ⟨trivial, trivial, trivial, trivial⟩

/-- The first party settles with evidence, and a watchdog does not find it. -/
def reopenedEvents : List Event :=
  leasedBy 1 "a".toList "1".toList ++
    [.settleSuccess 1 (some "e".toList) "txn".toList "settlement".toList "2".toList,
      .watchdogPass 2 "3".toList, .watchdogNext 2 (some "missing".toList)]

/-- A party settles an effect, the watchdog reopens it, and no disposition resolves
it. -/
theorem reopened_effect_is_not_resolvable :
    ∃ operations, runFrom (perform sampleLater) emptyLedger operations =
        (runFrom (step sampleLater) initialSystem reopenedEvents).ledger ∧
      ∃ effect, (runFrom (perform sampleLater) emptyLedger operations).effects.find
          effect.id = some effect ∧ effect.status = .needsReconciliation ∧
        ¬IsResolvable (runFrom (perform sampleLater) emptyLedger operations) effect.id := by
  obtain ⟨operations, hledger⟩ := exists_operations sampleLater initialSystem reopenedEvents
  refine ⟨operations, hledger.symm, ?_⟩
  have hinitial : initialSystem.ledger = emptyLedger := rfl
  rw [← hinitial, ← hledger]
  have hfind : ((runFrom (step sampleLater) initialSystem
      reopenedEvents).ledger.effects.find "a".toList).any
        (fun effect => effect.status = .needsReconciliation) = true := by decide +kernel
  have hsettled : hasSettlement (runFrom (step sampleLater) initialSystem
      reopenedEvents).ledger "a".toList = true := by decide +kernel
  obtain ⟨effect, hfound, hstatus⟩ := (Option.any_eq_true _ _).1 hfind
  have hid : effect.id = "a".toList := ((Table.find_eq_some_iff _).1 hfound).2
  have hblocked : effect.status.isBlocked = true := by
    rw [of_decide_eq_true hstatus]
    rfl
  rw [← hid] at hfound hsettled
  refine ⟨effect, hfound, of_decide_eq_true hstatus, ?_⟩
  rw [isResolvable_iff hfound hblocked, hsettled]
  exact Bool.noConfusion

end ChainworksForge.Release
