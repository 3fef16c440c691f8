import ChainworksForge.Release.Resolution

/-!
# Legal transitions

The domain names the moves between the statuses of an effect that are legal.  The
statements of the ledger do not consult it; each has its own condition on the status it
finds.  A run keeps to the legal moves, and keeps the effects paired with their
settlements, as long as no settled effect is reopened, the executor asks for a status
that is legal from the one it finds, and a settlement that misses its attempt is not
committed.
-/

namespace ChainworksForge.Release

open ChainworksForge.Support

def SideEffectStatus.canTransitionTo : SideEffectStatus → SideEffectStatus → Bool
  | .prepared, .executing => true
  | .prepared, .needsReconciliation => true
  | .executing, .externallyObserved => true
  | .executing, .needsReconciliation => true
  | .executing, .settled => true
  | .executing, .conflict => true
  | .executing, .unrecoverable => true
  | .externallyObserved, .settled => true
  | .externallyObserved, .needsReconciliation => true
  | .needsReconciliation, .reconciled => true
  | .needsReconciliation, .conflict => true
  | .needsReconciliation, .unrecoverable => true
  | .needsReconciliation, .settled => true
  | .conflict, .reconciled => true
  | .conflict, .unrecoverable => true
  | _, _ => false

variable {db db' : Store}

/-- Every effect keeps its status or makes a legal move, and no effect leaves a settled
or reconciled status. -/
structure LegalChange (db db' : Store) : Prop where
  legal : ∀ id before after, db.effects.find id = some before →
    db'.effects.find id = some after → before.status ≠ after.status →
      before.status.canTransitionTo after.status = true
  stays : ∀ id before, db.effects.find id = some before →
    before.status = .settled ∨ before.status = .reconciled →
      ∃ after, db'.effects.find id = some after ∧ after.status = before.status

/-- An effect has a status of a settlement exactly if it has a settlement with it. -/
def Paired (db : Store) : Prop :=
  ∀ effect ∈ db.effects.rows, ∀ status : SideEffectStatus, status.isSettlement = true →
    (effect.status = status ↔ ∃ settlement ∈ db.settlements.rows,
      settlement.sideEffectId = effect.id ∧ settlement.settlementStatus = status)

/-- Every settlement has the status of its effect. -/
def SettlementsMatch (db : Store) : Prop :=
  ∀ settlement ∈ db.settlements.rows, settlement.settlementStatus.isSettlement = true ∧
    ∃ effect, db.effects.find settlement.sideEffectId = some effect ∧
      effect.status = settlement.settlementStatus

/-- Every effect with the status of a settlement has one. -/
def EffectsSettled (db : Store) : Prop :=
  ∀ id effect, db.effects.find id = some effect → effect.status.isSettlement = true →
    hasSettlement db id = true

theorem hasSettlement_eq_true_iff {effectId : Text} :
    hasSettlement db effectId = true ↔
      ∃ settlement ∈ db.settlements.rows, settlement.sideEffectId = effectId := by
  simp [hasSettlement]

/-- The pairing, read from both tables. -/
theorem paired_of_match (hmatch : SettlementsMatch db) (hsettled : EffectsSettled db) :
    Paired db := by
  intro effect hmem status hstatus
  have hfind := db.effects.find_of_mem hmem
  constructor
  · rintro rfl
    obtain ⟨settlement, hsettlement, hid⟩ :=
      hasSettlement_eq_true_iff.1 (hsettled _ effect hfind hstatus)
    obtain ⟨-, found, hfound, hsame⟩ := hmatch settlement hsettlement
    rw [hid, hfind] at hfound
    obtain rfl := Option.some.inj hfound
    exact ⟨settlement, hsettlement, hid, hsame.symm⟩
  · rintro ⟨settlement, hsettlement, hid, rfl⟩
    obtain ⟨-, found, hfound, hsame⟩ := hmatch settlement hsettlement
    rw [hid, hfind] at hfound
    obtain rfl := Option.some.inj hfound
    exact hsame

/-! ## Steps -/

/-- The operations that keep to the legal moves. -/
def KeepsLegal (db : Store) : Operation → Prop
  | .executorSettle params _ =>
      ∀ effect, db.effects.find params.effectId = some effect →
        effect.status.isStarted = true → params.newStatus.isSettlement = true →
        effect.status.canTransitionTo params.newStatus = true
  | .executorSettleTx params _ => hasAttempt db params = true ∧
      ∀ effect, db.effects.find params.effectId = some effect →
        effect.status.isStarted = true → params.newStatus.isSettlement = true →
        effect.status.canTransitionTo params.newStatus = true
  | .settledEvidenceFailed observed _ _ _ =>
      ∀ effect, db.effects.find observed.id = some effect →
        ¬(effect.status = .settled ∧ effect.updatedAt = observed.updatedAt)
  | _ => True

/-- The effects and the settlements agree. -/
structure Agrees (db : Store) : Prop where
  settlements : SettlementsMatch db
  effects : EffectsSettled db

theorem agrees_empty : Agrees emptyLedger := by
  constructor
  · intro settlement hmem
    cases hmem
  · intro id effect hfind
    cases hfind

/-- An effect that moves had no settlement and gets none, and its move is legal. -/
theorem Moves.legal {before after : SideEffect} {operation : Operation}
    (hmoves : Moves db before after operation) (hkeeps : KeepsLegal db operation)
    (hfind : db.effects.find before.id = some before) :
    before.status.isSettlement = false ∧ after.status.isSettlement = false ∧
      (before.status = after.status ∨
        before.status.canTransitionTo after.status = true) := by
  cases hmoves with
  | starts hbefore hafter =>
      rw [hbefore, hafter]
      decide
  | stays hbefore hafter =>
      rw [hbefore, hafter]
      decide
  | recovers hbefore hafter =>
      rw [hafter]
      rcases hbefore with hbefore | hbefore
      · rw [hbefore]
        decide
      · cases hstatus : before.status <;>
          simp [hstatus, SideEffectStatus.isStarted, SideEffectStatus.isSettlement,
            SideEffectStatus.canTransitionTo] at hbefore ⊢
  | reopens hobserved hbefore hafter =>
      exact absurd ⟨hbefore, hobserved.2⟩ (hkeeps before (hobserved.1 ▸ hfind))
  | misses hid hbefore hafter hheld hfree hattempt =>
      have hpresent := hkeeps.1
      rw [hattempt] at hpresent
      cases hpresent

/-- A settlement is recorded with a legal move, of an effect that has none. -/
theorem Settles.legal {before after : SideEffect} {operation : Operation}
    (hsettles : Settles before after operation) (hkeeps : KeepsLegal db operation)
    (hagrees : Agrees db) (hfind : db.effects.find before.id = some before)
    (hfree : hasSettlement db before.id = false)
    (hsettlement : after.status.isSettlement = true) :
    before.status.canTransitionTo after.status = true := by
  cases hsettles with
  | byExecutor hid hbefore hafter =>
      rw [hafter]
      exact hkeeps before (hid ▸ hfind) hbefore (hafter ▸ hsettlement)
  | byRelease hid hbefore hafter =>
      rw [hafter]
      exact hkeeps.2 before (hid ▸ hfind) hbefore (hafter ▸ hsettlement)
  | byOperator hid hbefore hafter =>
      -- conflict and unrecoverable come with a settlement
      have hnot : before.status.isSettlement = false := by
        by_contra hstatus
        have htaken := hagrees.effects _ before hfind (by simpa using hstatus)
        rw [hfree] at htaken
        cases htaken
      cases hstatus : before.status <;>
        cases hstatus' : after.status <;>
          simp [hstatus, hstatus', SideEffectStatus.isBlocked, SideEffectStatus.isSettlement,
            SideEffectStatus.canTransitionTo] at hbefore hnot hsettlement ⊢

/-- A replaced row gives a legal change if its own move is legal. -/
theorem Replaces.legalChange {before after : SideEffect}
    (hreplaces : Replaces db.effects db'.effects before after)
    (hlegal : before.status = after.status ∨
      before.status.canTransitionTo after.status = true) : LegalChange db db' := by
  constructor
  · intro id row row' hrow hrow' hne
    by_cases hid : id = before.id
    · subst hid
      rw [hreplaces.found] at hrow
      rw [hreplaces.replaced] at hrow'
      obtain rfl := Option.some.inj hrow
      obtain rfl := Option.some.inj hrow'
      exact hlegal.resolve_left hne
    · rw [hreplaces.others id hid, hrow] at hrow'
      obtain rfl := Option.some.inj hrow'
      exact absurd rfl hne
  · intro id row hrow hresolved
    by_cases hid : id = before.id
    · subst hid
      rw [hreplaces.found] at hrow
      obtain rfl := Option.some.inj hrow
      refine ⟨after, hreplaces.replaced, ?_⟩
      rcases hlegal with hsame | hlegal
      · exact hsame.symm
      · rcases hresolved with hstatus | hstatus <;>
          simp [hstatus, SideEffectStatus.canTransitionTo] at hlegal
    · exact ⟨row, (hreplaces.others id hid).trans hrow, rfl⟩

theorem legalChange_of_effects_eq (heffects : db'.effects = db.effects) :
    LegalChange db db' := by
  constructor
  · intro id before after hbefore hafter hne
    rw [heffects, hbefore] at hafter
    obtain rfl := Option.some.inj hafter
    exact absurd rfl hne
  · intro id before hbefore hresolved
    exact ⟨before, heffects ▸ hbefore, rfl⟩

/-- Rows that are added do not move the others. -/
theorem legalChange_of_append {effect : SideEffect}
    (hrows : db'.effects.rows = db.effects.rows ++ [effect]) : LegalChange db db' := by
  have hkeep : ∀ id row, db.effects.find id = some row → db'.effects.find id = some row := by
    intro id row hfind
    obtain ⟨hmem, hid⟩ := db.effects.find_eq_some_iff.1 hfind
    rw [Table.find_eq_some_iff, hrows]
    exact ⟨List.mem_append_left _ hmem, hid⟩
  constructor
  · intro id before after hbefore hafter hne
    rw [hkeep id before hbefore] at hafter
    obtain rfl := Option.some.inj hafter
    exact absurd rfl hne
  · intro id before hbefore hresolved
    exact ⟨before, hkeep id before hbefore, rfl⟩

section Agreement

variable (hagrees : Agrees db)

include hagrees

theorem agrees_of_eq (heffects : db'.effects = db.effects)
    (hsettlements : db'.settlements = db.settlements) : Agrees db' := by
  obtain ⟨hmatch, hsettled⟩ := hagrees
  constructor
  · intro settlement hmem
    rw [heffects]
    exact hmatch settlement (hsettlements ▸ hmem)
  · intro id effect hfind hstatus
    rw [hasSettlement, hsettlements]
    exact hsettled id effect (heffects ▸ hfind) hstatus

theorem agrees_of_append {effect : SideEffect} (hstatus : effect.status = .prepared)
    (hfree : db.effects.find effect.id = none)
    (hrows : db'.effects.rows = db.effects.rows ++ [effect])
    (hsettlements : db'.settlements = db.settlements) : Agrees db' := by
  constructor
  · intro settlement hmem
    obtain ⟨hcheck, found, hfind, hsame⟩ :=
      hagrees.settlements settlement (hsettlements ▸ hmem)
    obtain ⟨hfound, hid⟩ := db.effects.find_eq_some_iff.1 hfind
    refine ⟨hcheck, found, ?_, hsame⟩
    rw [Table.find_eq_some_iff, hrows]
    exact ⟨List.mem_append_left _ hfound, hid⟩
  · intro id row hfind hsettlement
    obtain ⟨hmem, hid⟩ := (Table.find_eq_some_iff _).1 hfind
    rw [hrows, List.mem_append, List.mem_singleton] at hmem
    rcases hmem with hmem | rfl
    · rw [hasSettlement, hsettlements]
      exact hagrees.effects id row (db.effects.find_eq_some_iff.2 ⟨hmem, hid⟩) hsettlement
    · rw [hstatus] at hsettlement
      cases hsettlement

theorem agrees_of_moves {before after : SideEffect}
    (hreplaces : Replaces db.effects db'.effects before after)
    (hsettlements : db'.settlements = db.settlements)
    (hbefore : before.status.isSettlement = false)
    (hafter : after.status.isSettlement = false) : Agrees db' := by
  constructor
  · intro settlement hmem
    obtain ⟨hcheck, found, hfind, hsame⟩ :=
      hagrees.settlements settlement (hsettlements ▸ hmem)
    refine ⟨hcheck, found, ?_, hsame⟩
    rw [hreplaces.others]
    · exact hfind
    · intro hid
      rw [hid, hreplaces.found] at hfind
      obtain rfl := Option.some.inj hfind
      rw [hsame, hcheck] at hbefore
      cases hbefore
  · intro id row hfind hsettlement
    rw [hasSettlement, hsettlements]
    by_cases hid : id = before.id
    · rw [hid, hreplaces.replaced] at hfind
      obtain rfl := Option.some.inj hfind
      rw [hafter] at hsettlement
      cases hsettlement
    · rw [hreplaces.others id hid] at hfind
      exact hagrees.effects id row hfind hsettlement

theorem agrees_of_settles {before after : SideEffect} {settlement : SideEffectSettlement}
    (hreplaces : Replaces db.effects db'.effects before after)
    (hrecords : Records db db' after settlement) : Agrees db' := by
  have hafter : after.id = before.id :=
    ((Table.find_eq_some_iff _).1 hreplaces.replaced).2
  constructor
  · intro other hmem
    rw [hrecords.rows, List.mem_append, List.mem_singleton] at hmem
    rcases hmem with hmem | rfl
    · obtain ⟨hcheck, found, hfind, hsame⟩ := hagrees.settlements other hmem
      refine ⟨hcheck, found, ?_, hsame⟩
      rw [hreplaces.others]
      · exact hfind
      · intro hid
        refine hasSettlement_eq_false_iff.1 hrecords.free other hmem ?_
        rw [hid, hrecords.effectId, hafter]
    · rw [hrecords.status, hrecords.effectId, hafter]
      exact ⟨hrecords.isSettlement, after, hreplaces.replaced, rfl⟩
  · intro id row hfind hsettlement
    rw [hasSettlement_eq_true_iff, hrecords.rows]
    by_cases hid : id = before.id
    · refine ⟨settlement, List.mem_append_right _ (List.mem_singleton_self _), ?_⟩
      rw [hid, hrecords.effectId, hafter]
    · rw [hreplaces.others id hid] at hfind
      obtain ⟨other, hmem, hother⟩ :=
        hasSettlement_eq_true_iff.1 (hagrees.effects id row hfind hsettlement)
      exact ⟨other, List.mem_append_left _ hmem, hother⟩

end Agreement

/-- One operation that keeps to the legal moves. -/
theorem perform_legal (later : Text → ℕ → Text) (operation : Operation)
    (hkeeps : KeepsLegal db operation) (hagrees : Agrees db) :
    Agrees (perform later db operation) ∧ LegalChange db (perform later db operation) := by
  cases perform_change later db operation with
  | none heffects hsettlements =>
      exact ⟨agrees_of_eq hagrees heffects hsettlements,
        legalChange_of_effects_eq heffects⟩
  | prepares effect hstatus hfree hrows hunique hsettlements =>
      exact ⟨agrees_of_append hagrees hstatus hfree hrows hsettlements,
        legalChange_of_append hrows⟩
  | moves before after hreplaces hsettlements hmoves =>
      obtain ⟨hbefore, hafter, hlegal⟩ := hmoves.legal hkeeps hreplaces.found
      exact ⟨agrees_of_moves hagrees hreplaces hsettlements hbefore hafter,
        hreplaces.legalChange hlegal⟩
  | settles before after settlement hreplaces hrecords hsettles =>
      have hafter : after.id = before.id :=
        ((Table.find_eq_some_iff _).1 hreplaces.replaced).2
      have hfree : hasSettlement db before.id = false := by
        rw [← hafter, ← hrecords.effectId]
        exact hrecords.free
      have hlegal := hsettles.legal hkeeps hagrees hreplaces.found hfree
        hrecords.isSettlement
      exact ⟨agrees_of_settles hagrees hreplaces hrecords, hreplaces.legalChange (.inr hlegal)⟩

/-! ## Runs -/

/-- A run whose operations keep to the legal moves pairs the effects with their
settlements, and each of its operations changes the effects legally. -/
theorem ledger_obeys_transitions (later : Text → ℕ → Text) (operations : List Operation)
    (hmeets : RunMeets (perform later) KeepsLegal emptyLedger operations) :
    Paired (runFrom (perform later) emptyLedger operations) ∧
    ∀ earlier operation rest, operations = earlier ++ operation :: rest →
      LegalChange (runFrom (perform later) emptyLedger earlier)
        (runFrom (perform later) emptyLedger (earlier ++ [operation])) := by
  constructor
  · have hagrees : Agrees (runFrom (perform later) emptyLedger operations) :=
      runFrom_invariant_of_meets (perform later) (C := KeepsLegal)
        (fun db operation hkeeps hagrees => (perform_legal later operation hkeeps hagrees).1)
        agrees_empty hmeets
    exact paired_of_match hagrees.settlements hagrees.effects
  · rintro earlier operation rest rfl
    obtain ⟨hbefore, hkeeps, -⟩ := (runMeets_append _ _ _).1 hmeets
    have hagrees : Agrees (runFrom (perform later) emptyLedger earlier) :=
      runFrom_invariant_of_meets (perform later) (C := KeepsLegal)
        (fun db operation hkeeps hagrees => (perform_legal later operation hkeeps hagrees).1)
        agrees_empty hbefore
    rw [runFrom_concat]
    exact (perform_legal later operation hkeeps hagrees).2

/-- A party that fails moves legally. -/
theorem failed_effect_moves_legally :
    LegalChange (runFrom (perform sampleLater) emptyLedger leaseOperations)
      (runFrom (perform sampleLater) emptyLedger (leaseOperations ++ [failsOperation])) :=
  (ledger_obeys_transitions sampleLater (leaseOperations ++ [failsOperation])
    ⟨trivial, trivial, trivial, trivial⟩).2 leaseOperations failsOperation [] rfl

/-- The party settles. -/
def settlesOperation : Operation :=
  .executorSettle ((⟨"a".toList, "t".toList, "1".toList, "1".toList, "o".toList⟩ :
    ExecutorLease).settleParams (some "e".toList) "txn".toList none "2".toList)
    "settlement".toList

/-- The watchdog does not find the evidence. -/
def reopensOperation : Operation :=
  .settledEvidenceFailed failedEffect "kind".toList "error".toList "3".toList

/-- The watchdog reopens the effect that a party has settled: the move is not legal and
leaves the settled status, and the effect is not paired with its settlement any more. -/
theorem reopening_is_not_legal :
    ¬LegalChange
      (runFrom (perform sampleLater) emptyLedger (leaseOperations ++ [settlesOperation]))
      (runFrom (perform sampleLater) emptyLedger
        (leaseOperations ++ [settlesOperation, reopensOperation])) ∧
    ¬Paired (runFrom (perform sampleLater) emptyLedger
      (leaseOperations ++ [settlesOperation, reopensOperation])) := by
  have hbefore : ((runFrom (perform sampleLater) emptyLedger
      (leaseOperations ++ [settlesOperation])).effects.find "a".toList).any
        (fun effect => effect.status = .settled) = true := by decide +kernel
  have hafter : ((runFrom (perform sampleLater) emptyLedger
      (leaseOperations ++ [settlesOperation, reopensOperation])).effects.find
        "a".toList).any (fun effect => effect.status = .needsReconciliation) = true := by
    decide +kernel
  have hsettlement : (runFrom (perform sampleLater) emptyLedger (leaseOperations ++
      [settlesOperation, reopensOperation])).settlements.rows.any (fun settlement =>
        settlement.sideEffectId = "a".toList ∧ settlement.settlementStatus = .settled) =
          true := by
    decide +kernel
  obtain ⟨before, hfind, hsettled⟩ := (Option.any_eq_true _ _).1 hbefore
  obtain ⟨after, hfind', hopen⟩ := (Option.any_eq_true _ _).1 hafter
  obtain ⟨settlement, hmem, hmatch⟩ := List.any_eq_true.1 hsettlement
  have hsettled := of_decide_eq_true hsettled
  have hopen := of_decide_eq_true hopen
  constructor
  · intro hchange
    obtain ⟨row, hrow, hsame⟩ := hchange.stays _ before hfind (.inl hsettled)
    rw [hfind'] at hrow
    obtain rfl := Option.some.inj hrow
    rw [hopen, hsettled] at hsame
    cases hsame
  · intro hpaired
    obtain ⟨hafterMem, hid⟩ := (Table.find_eq_some_iff _).1 hfind'
    obtain ⟨heffectId, hstatus⟩ := of_decide_eq_true hmatch
    have hsame := (hpaired after hafterMem .settled rfl).2
      ⟨settlement, hmem, heffectId.trans hid.symm, hstatus⟩
    rw [hopen] at hsame
    cases hsame

end ChainworksForge.Release
