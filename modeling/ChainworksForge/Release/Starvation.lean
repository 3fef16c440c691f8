import ChainworksForge.Release.Ledger
import ChainworksForge.Support.Passes

/-!
# Passes of the watchdog

A pass of the watchdog reads at most a hundred candidates, those that were touched
longest ago first, and visits them one after the other.  Candidates are the effects
that are overdue and, on every pass again, the settled effects that have evidence.  A
settled effect whose evidence stands is not touched, so it keeps its place in front of
the later ones.

What a number of passes brings about depends on the candidates as a list: which of
them leave it when they are visited, and how many stand in front of them that do not.
-/

namespace ChainworksForge.Release

open ChainworksForge.Support

/-! ## Candidates -/

/-- A lease or a deadline has expired before the effect was settled. -/
def SideEffect.isOverdue (now : Text) (effect : SideEffect) : Bool :=
  let past (moment : Option Text) : Bool := moment.any fun text => text < now
  (effect.status = .executing ∧ (past effect.leaseExpiresAt ∨ past effect.deadlineAt)) ∨
    ((effect.status = .prepared ∨ effect.status = .externallyObserved) ∧
      past effect.deadlineAt)

/-- A settled effect with evidence. -/
def SideEffect.hasEvidence (effect : SideEffect) : Bool :=
  effect.status = .settled ∧ effect.observedEvidenceSummaryJson.isSome

/-- What is wrong with the evidence of an effect, given what is wrong with the files
that a summary names. -/
def verifyObservedEvidenceSummary (files : Text → Option Text) (effect : SideEffect) :
    Option Text :=
  match effect.observedEvidenceSummaryJson with
  | none => some "missing observed evidence summary".toList
  | some raw => files raw

/-- The candidates of a pass, oldest first. -/
def recoveryCandidates (db : Store) (now : Text) : List SideEffect :=
  sortByRank SideEffect.updatedAt (db.effects.rows.filter fun effect =>
    effect.isOverdue now || effect.hasEvidence)

theorem listWatchdogRecoveryCandidates_eq (db : Store) (now : Text) (limit : ℕ) :
    listWatchdogRecoveryCandidates db now limit =
      (recoveryCandidates db now).take limit := by
  simp only [listWatchdogRecoveryCandidates, recoveryCandidates, SideEffect.isOverdue,
    SideEffect.hasEvidence]
  congr 2
  refine List.filter_congr ?_
  intro effect heffect
  rw [← Bool.decide_or]
  exact decide_eq_decide.2 (by simp only [or_assoc])

variable (files : Text → Option Text)

/-- The watchdog visits one candidate. -/
def visitCandidate (now : Text) (db : Store) (candidate : SideEffect) : Store :=
  commitResult db (watchdogVisit db now candidate
    (verifyObservedEvidenceSummary files candidate))

/-- One pass of the watchdog, with no other activity. -/
def watchdogPass (db : Store) (now : Text) : Store :=
  (listWatchdogRecoveryCandidates db now 100).foldl (visitCandidate files now) db

/-- A settled effect whose evidence does not stand. -/
def SideEffect.fails (effect : SideEffect) : Bool :=
  effect.hasEvidence && (verifyObservedEvidenceSummary files effect).isSome

/-- A visit is to leave the effect to reconciliation. -/
def SideEffect.recovers (now : Text) (effect : SideEffect) : Bool :=
  effect.isOverdue now || effect.fails files

/-- A party that is left alone performs a pass. -/
theorem watchdogPass_run (later : Text → ℕ → Text) (s : System) (party : ℕ) (now : Text)
    (hidle : s.phase party = .idle) :
    (runFrom (step later) s (.watchdogPass party now ::
      (listWatchdogRecoveryCandidates s.ledger now 100).map fun candidate =>
        .watchdogNext party (verifyObservedEvidenceSummary files candidate))).ledger =
      watchdogPass files s.ledger now := by
  have hvisits : ∀ (candidates : List SideEffect) (t : System),
      t.phase party = .watching now candidates →
      (runFrom (step later) t (candidates.map fun candidate =>
        .watchdogNext party (verifyObservedEvidenceSummary files candidate))).ledger =
        candidates.foldl (visitCandidate files now) t.ledger := by
    intro candidates
    induction candidates with
    | nil =>
        intro t ht
        rfl
    | cons candidate rest ih =>
        intro t ht
        rw [List.map_cons, runFrom_cons, List.foldl_cons]
        have hstep : step later t (.watchdogNext party
            (verifyObservedEvidenceSummary files candidate)) =
            t.advance party (visitCandidate files now t.ledger candidate)
              (.watching now rest) := by
          simp only [step, ht]
          rfl
        rw [hstep]
        exact ih _ (Function.update_self _ _ _)
  rw [runFrom_cons]
  have hstart : step later s (.watchdogPass party now) =
      s.advance party s.ledger
        (.watching now (listWatchdogRecoveryCandidates s.ledger now 100)) := by
    simp only [step, hidle]
  rw [hstart]
  exact hvisits _ _ (Function.update_self _ _ _)

/-! ## One visit -/

/-- An effect as the watchdog leaves it. -/
def leftToReconciliation (now lastErrorKind lastError : Text) (effect : SideEffect) :
    SideEffect :=
  { effect with
    status := .needsReconciliation
    lastErrorKind := some lastErrorKind
    lastError := some lastError
    updatedAt := now }

/-- The row of a candidate is left to reconciliation. -/
def leaveToReconciliation (db : Store) (effectId now lastErrorKind lastError : Text) :
    Store :=
  { db with
    effects := db.effects.update (fun row => row.id = effectId)
      (leftToReconciliation now lastErrorKind lastError) }

variable {db : Store} {now : Text} {candidate : SideEffect}

theorem compareAndSet_leave (db : Store) (effectId : Text) {expected : SideEffect → Bool}
    (now lastErrorKind lastError : Text) :
    commitResult db (compareAndSet db effectId expected
        (leftToReconciliation now lastErrorKind lastError)) = db ∨
      (commitResult db (compareAndSet db effectId expected
          (leftToReconciliation now lastErrorKind lastError)) =
        leaveToReconciliation db effectId now lastErrorKind lastError ∧
      ∃ row, db.effects.find effectId = some row ∧ expected row = true) := by
  cases hrun : compareAndSet db effectId expected
      (leftToReconciliation now lastErrorKind lastError) with
  | error message => exact .inl rfl
  | ok answer =>
      obtain ⟨changed, won⟩ := answer
      rcases compareAndSet_cases _ hrun with
        ⟨-, rfl⟩ | ⟨-, row, hfind, hexpected, -, rfl⟩
      · exact .inl rfl
      · exact .inr ⟨rfl, row, hfind, hexpected⟩

/-- A visit leaves the ledger, or it leaves to reconciliation an effect that still has
the status that was observed, and its evidence does not stand if it is settled. -/
theorem visitCandidate_cases :
    visitCandidate files now db candidate = db ∨
      ∃ lastErrorKind lastError, visitCandidate files now db candidate =
        leaveToReconciliation db candidate.id now lastErrorKind lastError ∧
      ∃ row, db.effects.find candidate.id = some row ∧ row.status = candidate.status ∧
        (row.status = .settled →
          (verifyObservedEvidenceSummary files candidate).isSome = true) := by
  unfold visitCandidate watchdogVisit
  split_ifs with hsettled
  · cases hverify : verifyObservedEvidenceSummary files candidate with
    | none => exact .inl rfl
    | some error =>
        rcases compareAndSet_leave db candidate.id now _ _ with
          hsame | ⟨hleave, row, hfind, hexpected⟩
        · exact .inl hsame
        · exact .inr ⟨_, _, hleave, row, hfind,
            (of_decide_eq_true hexpected).1.trans hsettled.symm, fun _ => rfl⟩
  · -- each guard of the reaper starts with the status that was observed
    have hguard : ∀ {expected : SideEffect → Bool} {lastErrorKind lastError : Text},
        (∀ row, expected row = true → row.status = candidate.status) →
        commitResult db (compareAndSet db candidate.id expected
            (leftToReconciliation now lastErrorKind lastError)) = db ∨
        ∃ kind error, commitResult db (compareAndSet db candidate.id expected
            (leftToReconciliation now lastErrorKind lastError)) =
          leaveToReconciliation db candidate.id now kind error ∧
        ∃ row, db.effects.find candidate.id = some row ∧ row.status = candidate.status ∧
          (row.status = .settled →
            (verifyObservedEvidenceSummary files candidate).isSome = true) := by
      intro expected lastErrorKind lastError hstatus
      rcases compareAndSet_leave db candidate.id now lastErrorKind lastError with
        hsame | ⟨hleave, row, hfind, hexpected⟩
      · exact .inl hsame
      · have hrow := hstatus row hexpected
        exact .inr ⟨_, _, hleave, row, hfind, hrow,
          fun hsettled' => absurd (hrow.symm.trans hsettled') hsettled⟩
    unfold reaperTransitionCas
    dsimp only
    split
    · rename_i hstatus
      exact hguard fun row hexpected => (of_decide_eq_true hexpected).1.trans hstatus.symm
    · rename_i hstatus
      exact hguard fun row hexpected => (of_decide_eq_true hexpected).1.trans hstatus.symm
    · rename_i hstatus
      exact hguard fun row hexpected => (of_decide_eq_true hexpected).1.trans hstatus.symm
    · exact .inl rfl

theorem visitCandidate_step (db : Store) (now : Text) (candidate : SideEffect) :
    EffectsStep db.effects (visitCandidate files now db candidate).effects :=
  commitResult_step fun _ _ hrun => watchdogVisit_step hrun

/-- A settled effect with evidence that stands is left alone. -/
theorem visitCandidate_of_stands (hevidence : candidate.hasEvidence = true)
    (hstands : candidate.recovers files now = false) :
    visitCandidate files now db candidate = db := by
  have hsettled : candidate.status = .settled := (of_decide_eq_true hevidence).1
  have hverify : verifyObservedEvidenceSummary files candidate = none := by
    simp only [SideEffect.recovers, SideEffect.fails, hevidence, Bool.true_and,
      Bool.or_eq_false_iff, Option.isSome_eq_false_iff, Option.isNone_iff_eq_none] at hstands
    exact hstands.2
  simp only [visitCandidate, watchdogVisit, hsettled, if_true, hverify]
  rfl

/-- A candidate that is to be recovered is, if the index admits it. -/
theorem visitCandidate_of_recovers (hmem : candidate ∈ db.effects.rows)
    (hheld : candidate.status.isStarted = true → candidate.IsHeld)
    (hadmits : ∀ other ∈ db.effects.rows, other.status.isUnresolved = true →
      other.sameTarget candidate = true → other.id = candidate.id)
    (hrecovers : candidate.recovers files now = true) :
    ∃ lastErrorKind lastError, visitCandidate files now db candidate =
      leaveToReconciliation db candidate.id now lastErrorKind lastError := by
  have hfind := db.effects.find_of_mem hmem
  have hset : ∀ {expected : SideEffect → Bool} {lastErrorKind lastError : Text},
      expected candidate = true →
      commitResult db (compareAndSet db candidate.id expected
          (leftToReconciliation now lastErrorKind lastError)) =
        leaveToReconciliation db candidate.id now lastErrorKind lastError := by
    intro expected lastErrorKind lastError hexpected
    have hadmitted : admitsTarget db
        (leftToReconciliation now lastErrorKind lastError candidate) = true :=
      admitsTarget_iff.2 fun _ => hadmits
    simp only [compareAndSet, hfind, hexpected, hadmitted, if_true]
    rfl
  unfold visitCandidate watchdogVisit
  by_cases hsettled : candidate.status = .settled
  · rw [if_pos hsettled]
    have hverify : (verifyObservedEvidenceSummary files candidate).isSome = true := by
      simp only [SideEffect.recovers, SideEffect.fails, Bool.or_eq_true,
        Bool.and_eq_true] at hrecovers
      rcases hrecovers with hoverdue | ⟨-, hverify⟩
      · simp [SideEffect.isOverdue, hsettled] at hoverdue
      · exact hverify
    obtain ⟨error, herror⟩ := Option.isSome_iff_exists.1 hverify
    rw [herror]
    exact ⟨_, _, hset (decide_eq_true ⟨hsettled, rfl⟩)⟩
  · rw [if_neg hsettled]
    have hoverdue : candidate.isOverdue now = true := by
      simp only [SideEffect.recovers, SideEffect.fails, SideEffect.hasEvidence,
        hsettled, false_and, decide_false, Bool.false_and, Bool.or_false] at hrecovers
      exact hrecovers
    rcases of_decide_eq_true hoverdue with ⟨hexecuting, hpast⟩ | ⟨hstatus, hpast⟩
    · obtain ⟨howner, hrenewed⟩ := hheld (by rw [hexecuting]; rfl)
      obtain ⟨renewed, hrenewed⟩ := Option.isSome_iff_exists.1 hrenewed
      simp only [reaperTransitionCas, hexecuting]
      refine ⟨_, _, hset (decide_eq_true ⟨hexecuting, howner, rfl, ?_, ?_, hpast⟩)⟩
      · rw [hrenewed]
        rfl
      · rw [hrenewed]
        rfl
    · rcases hstatus with hprepared | hobserved
      · simp only [reaperTransitionCas, hprepared]
        exact ⟨_, _, hset (decide_eq_true ⟨hprepared, rfl, hpast⟩)⟩
      · simp only [reaperTransitionCas, hobserved]
        exact ⟨_, _, hset (decide_eq_true ⟨hobserved, rfl, hpast⟩)⟩

/-! ## What the ledger promises -/

/-- The index holds, and every effect whose write was started has an owner and a
lease. -/
structure IsKept (db : Store) : Prop where
  unique : UniqueTargets db.effects
  held : ∀ effect ∈ db.effects.rows, effect.status.isStarted = true → effect.IsHeld

theorem isKept_empty : IsKept emptyLedger where
  unique := by
    intro effect hmem
    cases hmem
  held := by
    intro effect hmem
    cases hmem

theorem Moves.isHeld {before after : SideEffect} {operation : Operation}
    (hmoves : Moves db before after operation)
    (hbefore : before.status.isStarted = true → before.IsHeld)
    (hafter : after.status.isStarted = true) : after.IsHeld := by
  cases hmoves with
  | starts _ _ hheld => exact hheld
  | stays hstatus _ hheld => exact hheld (hbefore (by rw [hstatus]; rfl))
  | recovers _ hstatus =>
      rw [hstatus] at hafter
      cases hafter
  | reopens _ _ hstatus =>
      rw [hstatus] at hafter
      cases hafter
  | misses _ hstarted _ hheld => exact hheld (hbefore hstarted)

theorem perform_isKept (later : Text → ℕ → Text) (operation : Operation)
    (hkept : IsKept db) : IsKept (perform later db operation) := by
  obtain ⟨hunique, hheld⟩ := hkept
  cases perform_change later db operation with
  | none heffects hsettlements =>
      rw [← heffects] at hunique hheld
      exact ⟨hunique, hheld⟩
  | prepares effect hstatus hfree hrows hunique' hsettlements =>
      refine ⟨hunique' hunique, ?_⟩
      intro row hmem hstarted
      rw [hrows, List.mem_append, List.mem_singleton] at hmem
      rcases hmem with hmem | rfl
      · exact hheld row hmem hstarted
      · rw [hstatus] at hstarted
        cases hstarted
  | moves before after hreplaces hsettlements hmoves =>
      refine ⟨hreplaces.unique hunique, ?_⟩
      have hbefore := hheld before ((Table.find_eq_some_iff _).1 hreplaces.found).1
      intro row hmem hstarted
      have hfind := Table.find_of_mem _ hmem
      by_cases hid : row.id = before.id
      · rw [hid, hreplaces.replaced] at hfind
        obtain rfl := Option.some.inj hfind
        exact hmoves.isHeld hbefore hstarted
      · rw [hreplaces.others _ hid] at hfind
        exact hheld row ((Table.find_eq_some_iff _).1 hfind).1 hstarted
  | settles before after settlement hreplaces hrecords hsettles =>
      refine ⟨hreplaces.unique hunique, ?_⟩
      intro row hmem hstarted
      have hfind := Table.find_of_mem _ hmem
      by_cases hid : row.id = before.id
      · rw [hid, hreplaces.replaced] at hfind
        obtain rfl := Option.some.inj hfind
        have hsettlement := hrecords.isSettlement
        cases hstatus : after.status <;>
          simp [hstatus, SideEffectStatus.isStarted,
            SideEffectStatus.isSettlement] at hstarted hsettlement
      · rw [hreplaces.others _ hid] at hfind
        exact hheld row ((Table.find_eq_some_iff _).1 hfind).1 hstarted

/-- Every history leaves such a ledger. -/
theorem isKept_run (later : Text → ℕ → Text) (operations : List Operation) :
    IsKept (runFrom (perform later) emptyLedger operations) :=
  runFrom_invariant (perform later)
    (fun _ operation hkept => perform_isKept later operation hkept) isKept_empty operations

/-! ## A pass -/

/-- Nothing is in the way of the settled effects whose evidence does not stand: no
other unresolved or failing effect has the same target. -/
def NoCollisions (db : Store) : Prop :=
  ∀ effect ∈ db.effects.rows, effect.fails files = true →
    ∀ other ∈ db.effects.rows, other.sameTarget effect = true → other.id ≠ effect.id →
      other.status.isUnresolved = false ∧ other.fails files = false

/-- The row of an effect before and after some candidates were visited. -/
def Recovered (now : Text) (visited : List SideEffect) (row row' : SideEffect) : Prop :=
  if row ∈ visited ∧ row.recovers files now = true then
    row'.status = .needsReconciliation ∧ row'.id = row.id ∧ row'.runId = row.runId ∧
      row'.targetKey = row.targetKey
  else row' = row

variable {files}

theorem Recovered.id_eq {visited : List SideEffect} {row row' : SideEffect}
    (h : Recovered files now visited row row') : row'.id = row.id := by
  unfold Recovered at h
  split_ifs at h
  · exact h.2.1
  · rw [h]

theorem Recovered.sameTarget {visited : List SideEffect} {row row' : SideEffect}
    (h : Recovered files now visited row row') :
    row'.runId = row.runId ∧ row'.targetKey = row.targetKey := by
  unfold Recovered at h
  split_ifs at h
  · exact h.2.2
  · rw [h]
    exact ⟨rfl, rfl⟩

/-- A row that does not wait for reconciliation was not changed. -/
theorem Recovered.eq_of_ne {visited : List SideEffect} {row row' : SideEffect}
    (h : Recovered files now visited row row')
    (hne : row'.status ≠ .needsReconciliation) : row' = row := by
  unfold Recovered at h
  split_ifs at h
  · exact absurd h.1 hne
  · exact h

theorem SideEffect.isUnresolved_of_isOverdue {effect : SideEffect}
    (h : effect.isOverdue now = true) : effect.status.isUnresolved = true := by
  rcases of_decide_eq_true h with ⟨hstatus, -⟩ | ⟨hstatus | hstatus, -⟩ <;>
    rw [hstatus] <;> rfl

theorem SideEffect.status_of_fails {effect : SideEffect} (h : effect.fails files = true) :
    effect.status = .settled := by
  simp only [SideEffect.fails, SideEffect.hasEvidence, Bool.and_eq_true,
    decide_eq_true_eq] at h
  exact h.1.1

/-- What a pass needs of the ledger and keeps. -/
structure IsClear (files : Text → Option Text) (db : Store) : Prop extends IsKept db where
  collisions : NoCollisions files db

theorem IsClear.of_recovered {db' : Store} {visited : List SideEffect}
    (hclear : IsClear files db) (hunique : UniqueTargets db'.effects)
    (hrows : List.Forall₂ (Recovered files now visited) db.effects.rows
      db'.effects.rows) : IsClear files db' := by
  refine ⟨⟨hunique, ?_⟩, ?_⟩
  · intro row' hmem' hstarted
    obtain ⟨row, hmem, hrecovered⟩ := exists_mem_left_of_forall₂ hrows hmem'
    obtain rfl := hrecovered.eq_of_ne (by rintro h; rw [h] at hstarted; cases hstarted)
    exact hclear.held _ hmem hstarted
  · intro effect' heffect' hfails other' hother' hsame hid
    obtain ⟨effect, heffect, hrecovered⟩ := exists_mem_left_of_forall₂ hrows heffect'
    have hsettled := SideEffect.status_of_fails hfails
    obtain rfl := hrecovered.eq_of_ne (by rw [hsettled]; decide)
    obtain ⟨other, hother, hrecovered'⟩ := exists_mem_left_of_forall₂ hrows hother'
    have hsame' : other.sameTarget effect' = true := by
      obtain ⟨hrun, htarget⟩ := hrecovered'.sameTarget
      simp only [SideEffect.sameTarget, hrun, htarget] at hsame ⊢
      exact hsame
    obtain ⟨hresolved, hstands⟩ := hclear.collisions effect' heffect hfails other hother hsame'
      (by rw [← hrecovered'.id_eq]; exact hid)
    -- the other effect is not one that a visit recovers
    have hstays : other.recovers files now = false := by
      rw [SideEffect.recovers, hstands, Bool.or_false]
      by_contra hoverdue
      have hopen := SideEffect.isUnresolved_of_isOverdue (by simpa using hoverdue)
      rw [hresolved] at hopen
      cases hopen
    rw [Recovered, hstays, if_neg (by simp)] at hrecovered'
    rw [hrecovered']
    exact ⟨hresolved, hstands⟩

/-- A visit recovers its candidate if it is to be recovered, and no other effect. -/
theorem visitCandidate_recovered (hclear : IsClear files db)
    (hmem : candidate ∈ db.effects.rows)
    (hcandidate : (candidate.isOverdue now || candidate.hasEvidence) = true) :
    List.Forall₂ (Recovered files now [candidate]) db.effects.rows
      (visitCandidate files now db candidate).effects.rows := by
  by_cases hrecovers : candidate.recovers files now = true
  · have hadmits : ∀ other ∈ db.effects.rows, other.status.isUnresolved = true →
        other.sameTarget candidate = true → other.id = candidate.id := by
      intro other hother hopen hsame
      rw [SideEffect.recovers, Bool.or_eq_true] at hrecovers
      rcases hrecovers with hoverdue | hfails
      · exact hclear.unique candidate hmem other hother
          (SideEffect.isUnresolved_of_isOverdue hoverdue) hopen hsame
      · by_contra hid
        have hresolved := (hclear.collisions candidate hmem hfails other hother hsame hid).1
        rw [hopen] at hresolved
        cases hresolved
    obtain ⟨lastErrorKind, lastError, hvisit⟩ := visitCandidate_of_recovers files hmem
      (hclear.held candidate hmem) hadmits hrecovers
    rw [hvisit]
    change List.Forall₂ _ _ (List.map _ _)
    rw [List.forall₂_map_right_iff, List.forall₂_same]
    intro row hrow
    by_cases hid : row.id = candidate.id
    · obtain rfl := List.inj_on_of_nodup_map db.effects.distinct hrow hmem hid
      rw [Recovered, if_pos ⟨List.mem_singleton_self _, hrecovers⟩,
        if_pos (decide_eq_true rfl)]
      exact ⟨rfl, rfl, rfl, rfl⟩
    · rw [Recovered, if_neg, if_neg (by simpa using hid)]
      rintro ⟨hsame, -⟩
      exact hid (congrArg SideEffect.id (List.mem_singleton.1 hsame))
  · have hstands : candidate.recovers files now = false := by simpa using hrecovers
    have hevidence : candidate.hasEvidence = true := by
      rw [SideEffect.recovers, Bool.or_eq_false_iff] at hstands
      rw [hstands.1, Bool.false_or] at hcandidate
      exact hcandidate
    rw [visitCandidate_of_stands files hevidence hstands, List.forall₂_same]
    intro row hrow
    rw [Recovered, if_neg]
    rintro ⟨hsame, hrow'⟩
    rw [List.mem_singleton.1 hsame] at hrow'
    exact hrecovers hrow'

/-- The visits of some candidates, one after the other. -/
theorem foldl_visitCandidate_recovered (hclear : IsClear files db)
    {visited : List SideEffect} (hnodup : (visited.map SideEffect.id).Nodup)
    (hvisited : ∀ candidate ∈ visited, candidate ∈ db.effects.rows ∧
      (candidate.isOverdue now || candidate.hasEvidence) = true) :
    IsClear files (visited.foldl (visitCandidate files now) db) ∧
      List.Forall₂ (Recovered files now visited) db.effects.rows
        (visited.foldl (visitCandidate files now) db).effects.rows := by
  induction visited generalizing db with
  | nil =>
      refine ⟨hclear, ?_⟩
      rw [List.foldl_nil, List.forall₂_same]
      intro row hrow
      rw [Recovered, if_neg (by simp)]
  | cons candidate rest ih =>
      obtain ⟨hmem, hcandidate⟩ := hvisited candidate List.mem_cons_self
      rw [List.map_cons, List.nodup_cons] at hnodup
      have hfirst := visitCandidate_recovered hclear hmem hcandidate
      have hclear' := hclear.of_recovered
        ((visitCandidate_step files db now candidate).unique hclear.unique) hfirst
      have hne : ∀ other ∈ rest, other.id ≠ candidate.id := by
        intro other hother hid
        exact hnodup.1 (List.mem_map.2 ⟨other, hother, hid⟩)
      have hrest : ∀ other ∈ rest,
          other ∈ (visitCandidate files now db candidate).effects.rows ∧
            (other.isOverdue now || other.hasEvidence) = true := by
        intro other hother
        obtain ⟨hotherMem, hotherCandidate⟩ := hvisited other (List.mem_cons_of_mem _ hother)
        obtain ⟨other', hother', hrecovered⟩ := exists_mem_right_of_forall₂ hfirst hotherMem
        rw [Recovered, if_neg] at hrecovered
        · rw [← hrecovered]
          exact ⟨hother', hrecovered ▸ hotherCandidate⟩
        · rintro ⟨hsame, -⟩
          exact hne other hother (congrArg SideEffect.id (List.mem_singleton.1 hsame))
      obtain ⟨hfinal, hrows⟩ := ih hclear' hnodup.2 hrest
      refine ⟨hfinal, forall₂_trans_of_mem hfirst hrows ?_⟩
      intro row hrow row₁ row₂ hrow₁ hrow₂
      by_cases hsame : row = candidate
      · -- the candidate is not visited a second time
        subst hsame
        have hout : row₁ ∉ rest := fun hmem₁ => hne row₁ hmem₁ hrow₁.id_eq
        rw [Recovered, if_neg (fun h => hout h.1)] at hrow₂
        subst hrow₂
        simp only [Recovered, List.mem_cons, List.not_mem_nil, or_false, true_or,
          true_and] at hrow₁ ⊢
        exact hrow₁
      · rw [Recovered, if_neg (by simp [hsame])] at hrow₁
        subst hrow₁
        simp only [Recovered, List.mem_cons, hsame, false_or] at hrow₂ ⊢
        exact hrow₂

theorem mem_recoveryCandidates {effect : SideEffect} :
    effect ∈ recoveryCandidates db now ↔
      effect ∈ db.effects.rows ∧ (effect.isOverdue now || effect.hasEvidence) = true := by
  rw [recoveryCandidates, mem_sortByRank, List.mem_filter]

theorem nodup_recoveryCandidates (db : Store) (now : Text) :
    ((recoveryCandidates db now).map SideEffect.id).Nodup := by
  refine ((sortByRank_perm SideEffect.updatedAt _).map _).nodup_iff.2 ?_
  exact db.effects.distinct.sublist (List.filter_sublist.map _)

/-- A pass recovers the candidates that it reads. -/
theorem watchdogPass_recovered (hclear : IsClear files db) (now : Text) :
    IsClear files (watchdogPass files db now) ∧
      List.Forall₂ (Recovered files now ((recoveryCandidates db now).take 100))
        db.effects.rows (watchdogPass files db now).effects.rows := by
  rw [watchdogPass, listWatchdogRecoveryCandidates_eq]
  refine foldl_visitCandidate_recovered hclear ?_ ?_
  · exact (nodup_recoveryCandidates db now).sublist ((List.take_sublist _ _).map _)
  · intro candidate hcandidate
    exact mem_recoveryCandidates.1 (List.mem_of_mem_take hcandidate)

/-- No lease and no deadline of the ledger expires between two moments. -/
def IsQuiet (db : Store) (now later : Text) : Prop :=
  ∀ effect ∈ db.effects.rows, effect.isOverdue later = effect.isOverdue now

theorem IsQuiet.recoveryCandidates_eq {later : Text} (hquiet : IsQuiet db now later) :
    recoveryCandidates db later = recoveryCandidates db now := by
  rw [recoveryCandidates, recoveryCandidates]
  congr 1
  refine List.filter_congr ?_
  intro effect heffect
  rw [hquiet effect heffect]

theorem not_candidate_of_status (now : Text) {effect : SideEffect}
    (hstatus : effect.status = .needsReconciliation) :
    effect.isOverdue now = false ∧ effect.hasEvidence = false := by
  simp [SideEffect.isOverdue, SideEffect.hasEvidence, hstatus]

theorem IsQuiet.of_recovered {db' : Store} {later moment : Text}
    {visited : List SideEffect} (hquiet : IsQuiet db now later)
    (hrows : List.Forall₂ (Recovered files moment visited) db.effects.rows
      db'.effects.rows) : IsQuiet db' now later := by
  intro effect' heffect'
  obtain ⟨effect, heffect, hrecovered⟩ := exists_mem_left_of_forall₂ hrows heffect'
  by_cases hstatus : effect'.status = .needsReconciliation
  · rw [(not_candidate_of_status later hstatus).1, (not_candidate_of_status now hstatus).1]
  · obtain rfl := hrecovered.eq_of_ne hstatus
    exact hquiet _ heffect

/-- The candidates after a pass are those of a pass over the candidates. -/
theorem recoveryCandidates_watchdogPass {later : Text} (hclear : IsClear files db)
    (hquiet : IsQuiet db now later) :
    recoveryCandidates (watchdogPass files db later) now =
      pass 100 (fun effect => effect.recovers files now) (recoveryCandidates db now) := by
  have hrows := (watchdogPass_recovered hclear later).2
  rw [hquiet.recoveryCandidates_eq] at hrows
  have hfilter : (watchdogPass files db later).effects.rows.filter
      (fun effect => effect.isOverdue now || effect.hasEvidence) =
      (db.effects.rows.filter fun effect => effect.isOverdue now || effect.hasEvidence).filter
        (fun effect => !(decide (effect ∈ (recoveryCandidates db now).take 100) &&
          effect.recovers files now)) := by
    rw [List.filter_filter]
    refine filter_of_forall₂ hrows ?_
    intro row hrow row' hrecovered
    have hmoment : row.recovers files later = row.recovers files now := by
      rw [SideEffect.recovers, SideEffect.recovers, hquiet row hrow]
    rw [Recovered, hmoment] at hrecovered
    by_cases hleaves : row ∈ (recoveryCandidates db now).take 100 ∧
        row.recovers files now = true
    · rw [if_pos hleaves] at hrecovered
      obtain ⟨hoverdue, hevidence⟩ := not_candidate_of_status now hrecovered.1
      simp [hoverdue, hevidence, hleaves.1, hleaves.2]
    · rw [if_neg hleaves] at hrecovered
      subst hrecovered
      have hstays : (decide (row' ∈ (recoveryCandidates db now).take 100) &&
          row'.recovers files now) = false := by
        by_contra htrue
        simp only [Bool.not_eq_false, Bool.and_eq_true, decide_eq_true_eq] at htrue
        exact hleaves htrue
      rw [hstays]
      exact ⟨rfl, fun _ => rfl⟩
  rw [recoveryCandidates, hfilter, ← filter_sortByRank, ← recoveryCandidates]
  exact filter_eq_pass 100 _ _ ((nodup_recoveryCandidates db now).of_map _)

/-- Passes at several moments. -/
def watchdogPasses (files : Text → Option Text) (db : Store) (moments : List Text) : Store :=
  moments.foldl (watchdogPass files) db

/-- The candidates after a number of passes. -/
theorem recoveryCandidates_watchdogPasses (hclear : IsClear files db)
    {moments : List Text} (hquiet : ∀ later ∈ moments, IsQuiet db now later) :
    recoveryCandidates (watchdogPasses files db moments) now =
      (pass 100 fun effect => effect.recovers files now)^[moments.length]
        (recoveryCandidates db now) := by
  induction moments generalizing db with
  | nil => rfl
  | cons later moments ih =>
      obtain ⟨hclear', hrows⟩ := watchdogPass_recovered hclear later
      have hnext := ih hclear' fun moment hmoment =>
        (hquiet moment (List.mem_cons_of_mem _ hmoment)).of_recovered hrows
      rw [recoveryCandidates_watchdogPass hclear (hquiet later List.mem_cons_self)] at hnext
      exact hnext

/-! ## Effects that no pass recovers -/

/-- The rows of a ledger that do not wait for reconciliation were there before. -/
def IsFrom (rows : List SideEffect) (db : Store) : Prop :=
  ∀ row ∈ db.effects.rows, row.status ≠ .needsReconciliation → row ∈ rows

theorem mem_leaveToReconciliation {effectId lastErrorKind lastError : Text}
    {row : SideEffect} :
    row ∈ (leaveToReconciliation db effectId now lastErrorKind lastError).effects.rows ↔
      ∃ old ∈ db.effects.rows, (if old.id = effectId then
        leftToReconciliation now lastErrorKind lastError old else old) = row := by
  simp only [leaveToReconciliation, Table.update, List.mem_map, decide_eq_true_eq]

/-- A row that was not visited is still there. -/
theorem mem_leave_of_ne {effectId lastErrorKind lastError : Text} {row : SideEffect}
    (hrow : row ∈ db.effects.rows) (hne : row.id ≠ effectId) :
    row ∈ (leaveToReconciliation db effectId now lastErrorKind lastError).effects.rows :=
  mem_leaveToReconciliation.2 ⟨row, hrow, if_neg hne⟩

/-- A row that was visited waits for reconciliation. -/
theorem mem_leave_of_eq {effectId lastErrorKind lastError : Text} {row : SideEffect}
    (hrow : row ∈ db.effects.rows) (heq : row.id = effectId) :
    leftToReconciliation now lastErrorKind lastError row ∈
      (leaveToReconciliation db effectId now lastErrorKind lastError).effects.rows :=
  mem_leaveToReconciliation.2 ⟨row, hrow, if_pos heq⟩

theorem visitCandidate_isFrom {rows : List SideEffect} (hfrom : IsFrom rows db) :
    IsFrom rows (visitCandidate files now db candidate) := by
  rcases visitCandidate_cases files with hsame | ⟨lastErrorKind, lastError, hleave, -⟩
  · rw [hsame]
    exact hfrom
  · rw [hleave]
    intro row hrow hstatus
    obtain ⟨old, hold, rfl⟩ := mem_leaveToReconciliation.1 hrow
    split_ifs at hstatus ⊢
    · exact absurd rfl hstatus
    · exact hfrom old hold hstatus

/-- A settled effect whose evidence does not stand and that no pass recovers: it has no
evidence, or another unresolved or failing effect has its target. -/
def IsStuck (files : Text → Option Text) (db : Store) : Prop :=
  ∃ effect ∈ db.effects.rows, effect.status = .settled ∧
    (verifyObservedEvidenceSummary files effect).isSome = true ∧
    (effect.observedEvidenceSummaryJson = none ∨
      ∃ other ∈ db.effects.rows, other.id ≠ effect.id ∧ other.sameTarget effect = true ∧
        (other.status.isUnresolved = true ∨ other.fails files = true))

theorem sameTarget_symm {effect other : SideEffect} (h : other.sameTarget effect = true) :
    effect.sameTarget other = true := by
  simp only [SideEffect.sameTarget, decide_eq_true_eq] at h ⊢
  exact ⟨h.1.symm, h.2.symm⟩

theorem visitCandidate_isStuck {rows : List SideEffect}
    (hdistinct : (rows.map SideEffect.id).Nodup) (hfrom : IsFrom rows db)
    (hunique : UniqueTargets db.effects) (hmem : candidate ∈ rows)
    (hcandidate : (candidate.isOverdue now || candidate.hasEvidence) = true)
    (hstuck : IsStuck files db) :
    IsStuck files (visitCandidate files now db candidate) := by
  have hunique' := (visitCandidate_step files db now candidate).unique hunique
  rcases visitCandidate_cases files with
    hsame | ⟨lastErrorKind, lastError, hleave, row, hfind, hstatus, -⟩
  · rw [hsame]
    exact hstuck
  · rw [hleave] at hunique' ⊢
    obtain ⟨effect, heffect, hsettled, hverify, hreason⟩ := hstuck
    rcases hreason with hnone | ⟨other, hother, hid, hsame, hopen⟩
    · -- an effect without evidence is not a candidate
      refine ⟨effect, mem_leave_of_ne heffect ?_, hsettled, hverify, .inl hnone⟩
      intro hid
      have hrow : row = effect := by
        rw [← hid, db.effects.find_of_mem heffect] at hfind
        exact (Option.some.inj hfind).symm
      obtain rfl := List.inj_on_of_nodup_map hdistinct
        (hfrom effect heffect (by rw [hsettled]; decide)) hmem hid
      simp [SideEffect.isOverdue, SideEffect.hasEvidence, hsettled, hnone] at hcandidate
    · by_cases hvisited : effect.id = candidate.id
      · -- the effect was reopened, so the other one fails and is now stuck itself
        have hother' : other ∈ (leaveToReconciliation db candidate.id now lastErrorKind
            lastError).effects.rows := mem_leave_of_ne hother (hvisited ▸ hid)
        have heffect' : leftToReconciliation now lastErrorKind lastError effect ∈
            (leaveToReconciliation db candidate.id now lastErrorKind
              lastError).effects.rows := mem_leave_of_eq heffect hvisited
        rcases hopen with hopen | hfails
        · exact absurd (hunique' _ heffect' other hother' rfl hopen hsame) hid
        · refine ⟨other, hother', SideEffect.status_of_fails hfails, ?_, .inr
            ⟨_, heffect', fun h => hid h.symm, sameTarget_symm hsame, .inl rfl⟩⟩
          rw [SideEffect.fails, Bool.and_eq_true] at hfails
          exact hfails.2
      · refine ⟨effect, mem_leave_of_ne heffect hvisited, hsettled, hverify, .inr ?_⟩
        by_cases hvisited' : other.id = candidate.id
        · exact ⟨_, mem_leave_of_eq hother hvisited', hid, hsame, .inl rfl⟩
        · exact ⟨other, mem_leave_of_ne hother hvisited', hid, hsame, hopen⟩

/-- The visits of some candidates of a ledger, one after the other. -/
theorem foldl_visitCandidate_isStuck {rows visited : List SideEffect}
    (hdistinct : (rows.map SideEffect.id).Nodup) (hfrom : IsFrom rows db)
    (hunique : UniqueTargets db.effects)
    (hvisited : ∀ candidate ∈ visited, candidate ∈ rows ∧
      (candidate.isOverdue now || candidate.hasEvidence) = true) :
    IsFrom rows (visited.foldl (visitCandidate files now) db) ∧
      UniqueTargets (visited.foldl (visitCandidate files now) db).effects ∧
      (IsStuck files db → IsStuck files (visited.foldl (visitCandidate files now) db)) := by
  induction visited generalizing db with
  | nil => exact ⟨hfrom, hunique, id⟩
  | cons candidate rest ih =>
      obtain ⟨hmem, hcandidate⟩ := hvisited candidate List.mem_cons_self
      obtain ⟨hfrom', hunique', hstuck⟩ := ih (visitCandidate_isFrom hfrom)
        ((visitCandidate_step files db now candidate).unique hunique)
        fun other hother => hvisited other (List.mem_cons_of_mem _ hother)
      exact ⟨hfrom', hunique', fun h =>
        hstuck (visitCandidate_isStuck hdistinct hfrom hunique hmem hcandidate h)⟩

theorem watchdogPass_isStuck (files : Text → Option Text)
    (hunique : UniqueTargets db.effects) (now : Text) :
    IsFrom db.effects.rows (watchdogPass files db now) ∧
      UniqueTargets (watchdogPass files db now).effects ∧
      (IsStuck files db → IsStuck files (watchdogPass files db now)) := by
  rw [watchdogPass, listWatchdogRecoveryCandidates_eq]
  refine foldl_visitCandidate_isStuck db.effects.distinct (fun row hrow _ => hrow) hunique ?_
  intro candidate hcandidate
  exact mem_recoveryCandidates.1 (List.mem_of_mem_take hcandidate)

/-- A stuck effect is stuck after any number of passes, and no pass settles anything. -/
theorem watchdogPasses_isStuck (files : Text → Option Text)
    (hunique : UniqueTargets db.effects) (moments : List Text) :
    IsFrom db.effects.rows (watchdogPasses files db moments) ∧
      (IsStuck files db → IsStuck files (watchdogPasses files db moments)) := by
  induction moments generalizing db with
  | nil => exact ⟨fun row hrow _ => hrow, id⟩
  | cons now moments ih =>
      obtain ⟨hfrom, hunique', hstuck⟩ := watchdogPass_isStuck files hunique now
      obtain ⟨hfrom', hstuck'⟩ := ih hunique'
      refine ⟨fun row hrow hstatus => ?_, fun h => hstuck' (hstuck h)⟩
      exact hfrom row (hfrom' row hrow hstatus) hstatus

/-! ## When the passes are enough -/

/-- No effect is overdue, and the evidence of every settled effect stands. -/
def IsCleared (files : Text → Option Text) (db : Store) (now : Text) : Prop :=
  ∀ effect ∈ db.effects.rows, effect.isOverdue now = false ∧
    (effect.status = .settled → verifyObservedEvidenceSummary files effect = none)

/-- Every settled effect has evidence. -/
def HasEvidence (db : Store) : Prop :=
  ∀ effect ∈ db.effects.rows, effect.status = .settled →
    effect.observedEvidenceSummaryJson.isSome = true

/-- The number of effects that are overdue. -/
def overdueCount (db : Store) (now : Text) : ℕ :=
  db.effects.rows.countP fun effect => effect.isOverdue now

theorem IsStuck.not_isCleared (hstuck : IsStuck files db) : ¬IsCleared files db now := by
  obtain ⟨effect, heffect, hsettled, hverify, -⟩ := hstuck
  intro hcleared
  rw [(hcleared effect heffect).2 hsettled] at hverify
  cases hverify

/-- Without a stuck effect every settled effect has evidence, and nothing collides. -/
theorem of_not_isStuck (h : ¬IsStuck files db) : HasEvidence db ∧ NoCollisions files db := by
  constructor
  · intro effect heffect hsettled
    by_contra hnone
    have hnone : effect.observedEvidenceSummaryJson = none := by simpa using hnone
    refine h ⟨effect, heffect, hsettled, ?_, .inl hnone⟩
    rw [verifyObservedEvidenceSummary, hnone]
    rfl
  · intro effect heffect hfails other hother hsame hid
    have hverify : (verifyObservedEvidenceSummary files effect).isSome = true := by
      rw [SideEffect.fails, Bool.and_eq_true] at hfails
      exact hfails.2
    by_contra hnot
    rw [not_and_or, Bool.not_eq_false, Bool.not_eq_false] at hnot
    exact h ⟨effect, heffect, SideEffect.status_of_fails hfails, hverify,
      .inr ⟨other, hother, hid, hsame, hnot⟩⟩

/-- In a ledger whose settled effects have evidence, nothing is to be recovered exactly
if no candidate is. -/
theorem isCleared_iff (hevidence : HasEvidence db) :
    IsCleared files db now ↔
      ∀ effect ∈ recoveryCandidates db now, effect.recovers files now = false := by
  constructor
  · intro hcleared effect hcandidate
    obtain ⟨hmem, -⟩ := mem_recoveryCandidates.1 hcandidate
    obtain ⟨hoverdue, hverify⟩ := hcleared effect hmem
    rw [SideEffect.recovers, hoverdue, Bool.false_or]
    by_contra hfails
    have hfails : effect.fails files = true := by simpa using hfails
    have hsettled := SideEffect.status_of_fails hfails
    rw [SideEffect.fails, hverify hsettled] at hfails
    simp at hfails
  · intro hcandidates effect hmem
    constructor
    · by_contra hoverdue
      have hoverdue : effect.isOverdue now = true := by simpa using hoverdue
      have hcandidate : effect ∈ recoveryCandidates db now :=
        mem_recoveryCandidates.2 ⟨hmem, by rw [hoverdue, Bool.true_or]⟩
      have hstays := hcandidates effect hcandidate
      rw [SideEffect.recovers, hoverdue, Bool.true_or] at hstays
      cases hstays
    · intro hsettled
      have heffect : effect.hasEvidence = true :=
        decide_eq_true ⟨hsettled, hevidence effect hmem hsettled⟩
      have hcandidate : effect ∈ recoveryCandidates db now :=
        mem_recoveryCandidates.2 ⟨hmem, by rw [heffect, Bool.or_true]⟩
      have hstays := hcandidates effect hcandidate
      rw [SideEffect.recovers, SideEffect.fails, heffect, Bool.true_and,
        Bool.or_eq_false_iff] at hstays
      simpa using hstays.2

/-- The passes that the overdue effects would fill leave nothing to be recovered exactly
if every settled effect has evidence, no failing effect collides with another effect of
its target, and the effects that are to be recovered are reached: each pass reads a
hundred candidates, those in front that stay in the list are read again by every pass,
and all that leave it have to be among the candidates that are reached. -/
theorem watchdog_clears_iff (files : Text → Option Text) {db : Store} {now : Text}
    (hkept : IsKept db) {moments : List Text}
    (hcount : moments.length = (overdueCount db now + 99) / 100)
    (hquiet : ∀ later ∈ moments, IsQuiet db now later) :
    IsCleared files (watchdogPasses files db moments) now ↔
      HasEvidence db ∧ NoCollisions files db ∧
        departed 100 (fun effect => effect.recovers files now) (recoveryCandidates db now)
            ((overdueCount db now + 99) / 100) =
          (recoveryCandidates db now).countP fun effect => effect.recovers files now := by
  obtain ⟨hfrom, hstuck⟩ := watchdogPasses_isStuck files hkept.unique moments
  have hevidence' : HasEvidence db → HasEvidence (watchdogPasses files db moments) := by
    intro hevidence effect heffect hsettled
    exact hevidence effect (hfrom effect heffect (by rw [hsettled]; decide)) hsettled
  have hreached : HasEvidence db → NoCollisions files db →
      (IsCleared files (watchdogPasses files db moments) now ↔
        departed 100 (fun effect => effect.recovers files now) (recoveryCandidates db now)
            ((overdueCount db now + 99) / 100) =
          (recoveryCandidates db now).countP fun effect => effect.recovers files now) := by
    intro hevidence hcollisions
    rw [isCleared_iff (hevidence' hevidence),
      recoveryCandidates_watchdogPasses ⟨hkept, hcollisions⟩ hquiet, ← hcount]
    exact forall_iterate_pass_iff 100 _ _ _
  constructor
  · intro hcleared
    have hfree : ¬IsStuck files db := fun h => (hstuck h).not_isCleared hcleared
    obtain ⟨hevidence, hcollisions⟩ := of_not_isStuck hfree
    exact ⟨hevidence, hcollisions, (hreached hevidence hcollisions).1 hcleared⟩
  · rintro ⟨hevidence, hcollisions, hdeparted⟩
    exact (hreached hevidence hcollisions).2 hdeparted

/-- One effect whose lease has expired is recovered by one pass. -/
theorem overdue_effect_is_recovered :
    IsCleared (fun _ => none) (watchdogPasses (fun _ => none)
      (runFrom (perform sampleLater) emptyLedger
        [.insert (sampleIntent "a".toList) "a".toList "1".toList]) ["99".toList])
      "99".toList := by
  have hrows : (runFrom (perform sampleLater) emptyLedger
      [.insert (sampleIntent "a".toList) "a".toList "1".toList]).effects.rows.all
        (fun effect => effect.status = .prepared) = true := by decide +kernel
  refine (watchdog_clears_iff _ (isKept_run sampleLater _) ?_ ?_).2 ⟨?_, ?_, ?_⟩
  · decide +kernel
  · intro moment hmoment effect _
    rw [List.mem_singleton.1 hmoment]
  · intro effect heffect hsettled
    have hstatus := of_decide_eq_true (List.all_eq_true.1 hrows effect heffect)
    rw [hstatus] at hsettled
    cases hsettled
  · intro effect heffect hfails
    have hstatus := of_decide_eq_true (List.all_eq_true.1 hrows effect heffect)
    rw [SideEffect.status_of_fails hfails] at hstatus
    cases hstatus
  · decide +kernel

/-! ## A hundred settled effects -/

/-- A settled effect with evidence, older than every other. -/
def standingEffect (n : ℕ) : SideEffect :=
  { (sampleIntent (List.replicate n 'a')).effect sampleLater (List.replicate n 'a')
      "1".toList with
    status := .settled
    observedEvidenceSummaryJson := some "e".toList }

/-- An effect that was prepared and not started in time. -/
def lateEffect : SideEffect :=
  { (sampleIntent "b".toList).effect sampleLater "b".toList "2".toList with
    deadlineAt := some "3".toList }

theorem distinct_starvedRows :
    (((List.range 100).map standingEffect ++ [lateEffect]).map SideEffect.id).Nodup := by
  rw [List.map_append, List.map_map]
  refine List.Nodup.append ?_ (List.nodup_singleton _) ?_
  · refine List.nodup_range.map ?_
    intro m n hmn
    have hlength := congrArg List.length hmn
    simpa [standingEffect, PrepareEffectIntent.effect] using hlength
  · intro id hid hlate
    obtain ⟨n, -, rfl⟩ := List.mem_map.1 hid
    have hsame : List.replicate n 'a' = "b".toList := List.mem_singleton.1 hlate
    cases n with
    | zero => cases hsame
    | succ n => cases hsame

/-- A hundred settled effects in front of an effect that is overdue. -/
def starvedLedger : Store :=
  ⟨⟨(List.range 100).map standingEffect ++ [lateEffect], distinct_starvedRows⟩,
    Table.empty, Table.empty⟩

theorem mem_starvedLedger {effect : SideEffect} (h : effect ∈ starvedLedger.effects.rows) :
    (∃ n, effect = standingEffect n) ∨ effect = lateEffect := by
  rcases List.mem_append.1 h with h | h
  · obtain ⟨n, -, rfl⟩ := List.mem_map.1 h
    exact .inl ⟨n, rfl⟩
  · exact .inr (List.mem_singleton.1 h)

theorem isClear_starvedLedger : IsClear (fun _ => none) starvedLedger := by
  refine ⟨⟨?_, ?_⟩, ?_⟩
  · intro effect heffect other hother hopen hopen' _
    rcases mem_starvedLedger heffect with ⟨n, rfl⟩ | rfl
    · cases hopen
    · rcases mem_starvedLedger hother with ⟨n, rfl⟩ | rfl
      · cases hopen'
      · rfl
  · intro effect heffect hstarted
    rcases mem_starvedLedger heffect with ⟨n, rfl⟩ | rfl
    · cases hstarted
    · cases hstarted
  · intro effect heffect hfails
    rcases mem_starvedLedger heffect with ⟨n, rfl⟩ | rfl
    · cases hfails
    · cases hfails

/-- One effect is overdue, so that one pass should do, and no number of passes recovers
it. -/
theorem overdue_effect_is_starved :
    IsKept starvedLedger ∧ overdueCount starvedLedger "5".toList = 1 ∧
      ∀ count, ¬IsCleared (fun _ => none) (watchdogPasses (fun _ => none) starvedLedger
        (List.replicate count "5".toList)) "5".toList := by
  refine ⟨isClear_starvedLedger.toIsKept, by decide +kernel, ?_⟩
  intro count hcleared
  have hfull : ((recoveryCandidates starvedLedger "5".toList).take 100).all
      (fun effect => !effect.recovers (fun _ => none) "5".toList) = true := by
    decide +kernel
  have hquiet : ∀ moment ∈ List.replicate count "5".toList,
      IsQuiet starvedLedger "5".toList moment := by
    intro moment hmoment effect _
    rw [List.eq_of_mem_replicate hmoment]
  have hcandidates := recoveryCandidates_watchdogPasses isClear_starvedLedger hquiet
  rw [iterate_pass_of_full 100 _ _ fun effect heffect => by
    simpa using List.all_eq_true.1 hfull effect heffect] at hcandidates
  have hlate : lateEffect ∈ recoveryCandidates starvedLedger "5".toList :=
    mem_recoveryCandidates.2 ⟨List.mem_append_right _ (List.mem_singleton_self _),
      by decide +kernel⟩
  rw [← hcandidates] at hlate
  obtain ⟨hmem, -⟩ := mem_recoveryCandidates.1 hlate
  have hoverdue := (hcleared lateEffect hmem).1
  revert hoverdue
  decide +kernel

end ChainworksForge.Release
