import ChainworksForge.Session.OneLive

/-!
# When a live session is used again

A call answers that the live session may be used again only for the active
generation of the lineage of its input, with the same fingerprint, within the
scope that the lineage was opened with, without a disqualifying failure and
within the budget.  The scope is the one stored with the lineage: what the input
itself declares is read only when the call opens the lineage.
-/

namespace ChainworksForge.Session

open ChainworksForge.Support

variable {env : Environment} {db db' : Store} {lineage : SessionLineage}
  {generation : SessionGeneration} {input : SessionPolicyInput}
  {decision : SessionPolicyDecision}

/-- A scope admits the generation for an owner. -/
def ScopeAdmits (scope ownerKey : Text) (generation : SessionGeneration) : Prop :=
  scope ≠ "none".toList ∧
    (scope = "same_invocation_owner".toList → generation.invocationOwnerKey = ownerKey)

instance (scope ownerKey : Text) (generation : SessionGeneration) :
    Decidable (ScopeAdmits scope ownerKey generation) := by
  delta ScopeAdmits
  infer_instance

/-- No execution of the generation failed in a way that rules out its session. -/
def NoDisqualifyingFailure (db : Store) (generationId : Text) : Prop :=
  hasFailedExecution db generationId claudeLongContextCreditsRequired = false ∧
    hasFailedExecution db generationId missingRequiredOutputs = false ∧
    hasFailedExecution db generationId toolOutputBudgetExceeded = false

/-- The guards of the policy, read off the absence of an objection. -/
theorem refusal_eq_none_iff :
    refusal db lineage input generation = none ↔
      NoDisqualifyingFailure db generation.id ∧
        generation.bindingFingerprint = input.bindingFingerprint ∧
        ScopeAdmits lineage.sessionReuseScope input.invocationOwnerKey generation := by
  simp only [refusal, NoDisqualifyingFailure, ScopeAdmits]
  split_ifs <;> simp_all

/-! ## Pointers name own generations -/

/-- The active pointer of every lineage names a generation of that lineage. -/
def OwnPointers (db : Store) : Prop :=
  ∀ id lineage generationId, db.lineages.find id = some lineage →
    lineage.activeGenerationId = some generationId →
    ∃ generation, db.generations.find generationId = some generation ∧
      generation.lineageId = lineage.id

/-- Stores whose lineages come from another keep its pointers. -/
theorem OwnPointers.keep (hown : OwnPointers db)
    (hlineages : ∀ id row, db'.lineages.find id = some row →
      row.activeGenerationId ≠ none → db.lineages.find id = some row)
    (hkept : KeepsGenerations db db') : OwnPointers db' := by
  intro id lineage generationId hrow hpointer
  have hold := hlineages id lineage hrow (by rw [hpointer]; exact Option.some_ne_none _)
  obtain ⟨generation, hstored, hlineage⟩ := hown id lineage generationId hold hpointer
  obtain ⟨kept, hkept, hsame⟩ := hkept generationId generation hstored
  exact ⟨kept, hkept, hsame.trans hlineage⟩

/-- Pointing one lineage at a generation of its own. -/
theorem OwnPointers.point (hown : OwnPointers db) (lineageId generationId : Text)
    (hother : ∀ id, id ≠ lineageId → db'.lineages.find id = db.lineages.find id)
    (hpointed : ∀ row, db'.lineages.find lineageId = some row →
      row.activeGenerationId = some generationId)
    (hstored : ∃ generation, db'.generations.find generationId = some generation ∧
      generation.lineageId = lineageId)
    (hkept : KeepsGenerations db db') : OwnPointers db' := by
  intro id row named hrow hpointer
  have hid : row.id = id := (db'.lineages.find_eq_some_iff.1 hrow).2
  by_cases hsame : id = lineageId
  · subst hsame
    rw [hpointed row hrow] at hpointer
    obtain rfl := Option.some.inj hpointer
    rw [hid]
    exact hstored
  · rw [hother id hsame] at hrow
    obtain ⟨generation, hold, hlineage⟩ := hown id row named hrow hpointer
    obtain ⟨kept, hkept, hkeeps⟩ := hkept named generation hold
    exact ⟨kept, hkept, hkeeps.trans hlineage⟩

theorem createGeneration_ownPointers {disposition : SessionReuseDisposition}
    {resetReason checkpoint : Option Text} (hown : OwnPointers db)
    (hrow : db.lineages.find lineage.id = some lineage)
    (hrun : createGeneration env db lineage input disposition resetReason checkpoint =
      .ok (decision, db')) : OwnPointers db' := by
  obtain ⟨-, ⟨hfree, hgenerations⟩, hlineages⟩ := createGeneration_cases hrun
  refine hown.point lineage.id (env.uuid .generation) ?_ ?_ ?_ ?_
  · intro id hother
    rw [hlineages, find_setActiveGeneration hrow, if_neg hother]
  · intro row hpointed
    rw [hlineages, find_setActiveGeneration hrow, if_pos rfl] at hpointed
    obtain rfl := Option.some.inj hpointed
    rfl
  · refine ⟨newGeneration env db lineage input checkpoint, ?_, rfl⟩
    rw [hgenerations, find_add_newGeneration, if_pos rfl]
  · intro id generation hstored
    refine ⟨generation, ?_, rfl⟩
    rw [hgenerations, find_add_newGeneration, if_neg]
    · exact hstored
    · rintro rfl
      rw [hfree] at hstored
      cases hstored

theorem Decides.ownPointers (hown : OwnPointers db)
    (hrow : db.lineages.find lineage.id = some lineage)
    (hdecides : Decides env db lineage input decision db') : OwnPointers db' := by
  cases hdecides with
  | reuse named live reusable lineages generations =>
      exact hown.keep (fun id row hsome _ => lineages ▸ hsome)
        (keepsGenerations_of_eq generations)
  | replace named live unusable lineages notActive generations created =>
      have hended := hown.keep (fun id row hsome _ => lineages ▸ hsome)
        (keepsGenerations_endGeneration generations)
      exact createGeneration_ownPointers hended (lineages ▸ hrow) created
  | create idle created => exact createGeneration_ownPointers hown hrow created

theorem repairDuplicateActiveGenerations_ownPointers {repaired : SessionLineage}
    (hown : OwnPointers db) (hrow : db.lineages.find lineage.id = some lineage)
    (hrun : repairDuplicateActiveGenerations env db lineage = .ok (repaired, db')) :
    OwnPointers db' := by
  rcases repairDuplicateActiveGenerations_cases hrow hrun with
    ⟨-, -, rfl⟩ | ⟨-, survivor, rfl, hpointed, hother, hsurvivor, hlive, hkept, -⟩
  · exact hown
  · refine hown.point lineage.id survivor.id hother ?_ ?_ hkept
    · intro row hsome
      rw [hpointed] at hsome
      obtain rfl := Option.some.inj hsome
      rfl
    · have hstays := (hlive lineage.id survivor).2 ⟨hsurvivor, fun _ => rfl⟩
      exact ⟨survivor, hstays.stored, hstays.lineageId⟩

/-- Every call keeps the pointers on own generations. -/
theorem ensurePolicy_ownPointers (hown : OwnPointers db)
    (hrun : ensurePolicy env db input = .ok (decision, db')) : OwnPointers db' := by
  obtain ⟨lineage, found, repaired, fixed, hfound, hfixed, hdecide⟩ :=
    ensurePolicy_eq_ok_iff.1 hrun
  obtain ⟨-, -, -, hrow, hsame, hback⟩ := findOrInsertLineage_cases hfound
  have hfoundOwn := hown.keep hback (keepsGenerations_of_eq hsame.generations)
  have hfixedOwn := repairDuplicateActiveGenerations_ownPointers hfoundOwn hrow hfixed
  have hfixedRow : fixed.lineages.find repaired.id = some repaired := by
    rcases repairDuplicateActiveGenerations_cases hrow hfixed with
      ⟨-, rfl, rfl⟩ | ⟨-, survivor, rfl, hpointed, -⟩
    · exact hrow
    · exact hpointed
  exact (decideGeneration_decides hdecide).ownPointers hfixedOwn hfixedRow

/-! ## The guards -/

/-- What a call guarantees when it answers that a live session may be used again. -/
structure SoundReuse (env : Environment) (db : Store) (input : SessionPolicyInput)
    (decision : SessionPolicyDecision) : Prop where
  active : decision.generation.status = .active
  keyed : decision.lineage.runId = input.runId ∧
    decision.lineage.lineageId = input.lineageKey
  named : decision.lineage.activeGenerationId = some decision.generation.id
  fingerprint : decision.generation.bindingFingerprint = input.bindingFingerprint
  scope : ScopeAdmits decision.lineage.sessionReuseScope input.invocationOwnerKey
    decision.generation
  failures : NoDisqualifyingFailure db decision.generation.id
  budget : budgetDecision env db decision.generation = .continueReuse

/-- The failures and the budget of a generation are read from tables that the repair
leaves alone. -/
theorem noDisqualifyingFailure_of_sameHistory {generationId : Text}
    (hsame : SameHistory generationId db db') :
    NoDisqualifyingFailure db' generationId ↔ NoDisqualifyingFailure db generationId := by
  simp only [NoDisqualifyingFailure, hasFailedExecution, hsame.executions,
    hsame.runtimeFacts]

theorem budgetDecision_of_sameHistory (hsame : SameHistory generation.id db db') :
    budgetDecision env db' generation = budgetDecision env db generation := by
  simp only [budgetDecision, budgetSignalsFromGeneration, hsame.compactions]

/-- A reused generation has passed every guard of the call's last step. -/
theorem Decides.reuse_cases (hdecides : Decides env db lineage input decision db')
    (hreuse : decision.shouldReuseLiveSession = true) :
    decision.lineage = lineage ∧
      findActiveGeneration db lineage.id = some decision.generation ∧
      decision.generation.status = .active ∧
      Reusable env db lineage input decision.generation ∧
      db'.lineages = db.lineages ∧ db'.generations = db.generations := by
  cases hdecides with
  | reuse named live reusable lineages generations =>
      exact ⟨rfl, named, live, reusable, lineages, generations⟩
  | replace named live unusable lineages notActive generations created =>
      obtain ⟨rfl, -, -⟩ := createGeneration_cases created
      cases hreuse
  | create idle created =>
      obtain ⟨rfl, -, -⟩ := createGeneration_cases created
      cases hreuse

/-- A live session is used again only for the active generation that the lineage of
the input names, with the fingerprint of the input, within the stored scope of the
lineage, without a disqualifying failure and within the budget; and where pointers
name own generations the generation belongs to that lineage. -/
theorem live_reuse_sound (env : Environment) (db : Store) (input : SessionPolicyInput)
    (decision : SessionPolicyDecision) (db' : Store)
    (hrun : ensurePolicy env db input = .ok (decision, db'))
    (hreuse : decision.shouldReuseLiveSession = true) :
    SoundReuse env db input decision ∧
      db'.lineages.find decision.lineage.id = some decision.lineage ∧
      db'.generations.find decision.generation.id = some decision.generation ∧
      (OwnPointers db → decision.generation.lineageId = decision.lineage.id) := by
  have hown' : OwnPointers db → OwnPointers db' := fun hown =>
    ensurePolicy_ownPointers hown hrun
  obtain ⟨lineage, found, repaired, fixed, hfound, hfixed, hdecide⟩ :=
    ensurePolicy_eq_ok_iff.1 hrun
  obtain ⟨-, hrunId, hkey, hrow, hsame, -⟩ := findOrInsertLineage_cases hfound
  obtain ⟨rfl, hnamed, hlive, ⟨hrefusal, hbudget⟩, hlineages, hgenerations⟩ :=
    (decideGeneration_decides hdecide).reuse_cases hreuse
  -- the repaired lineage keeps its key, and what the guards read is not touched
  have hfixedRow : decision.lineage.runId = lineage.runId ∧
      decision.lineage.lineageId = lineage.lineageId ∧
      fixed.lineages.find decision.lineage.id = some decision.lineage ∧
      SameHistory decision.generation.id found fixed := by
    rcases repairDuplicateActiveGenerations_cases hrow hfixed with
      ⟨-, hrepaired, rfl⟩ | ⟨-, survivor, hrepaired, hpointed, -, -, -, -, hhistory⟩
    · rw [hrepaired]
      exact ⟨rfl, rfl, hrow, .refl _ _⟩
    · have hid : decision.lineage.id = lineage.id := by rw [hrepaired]
      exact ⟨by rw [hrepaired], by rw [hrepaired], hid ▸ hpointed, hhistory _⟩
  obtain ⟨hsameRun, hsameKey, hstored, hhistory⟩ := hfixedRow
  have hhistory : SameHistory decision.generation.id db fixed := by
    refine SameHistory.trans ⟨hsame.executions, hsame.runtimeFacts, ?_⟩ hhistory
    rw [countGenerationEvents, hsame.events, countGenerationEvents]
  obtain ⟨hfailures, hfingerprint, hscope⟩ := refusal_eq_none_iff.1 hrefusal
  rw [findActiveGeneration_eq hstored] at hnamed
  obtain ⟨id, hpointer, hfind⟩ := Option.bind_eq_some_iff.1 hnamed
  obtain rfl : decision.generation.id = id :=
    (fixed.generations.find_eq_some_iff.1 hfind).2
  refine ⟨⟨hlive, ⟨hsameRun.trans hrunId, hsameKey.trans hkey⟩, hpointer, hfingerprint,
    hscope, (noDisqualifyingFailure_of_sameHistory hhistory).1 hfailures, ?_⟩,
    hlineages ▸ hstored, hgenerations ▸ hfind, fun hown => ?_⟩
  · rw [← budgetDecision_of_sameHistory hhistory]
    exact hbudget
  · obtain ⟨generation, hgeneration, hlineage⟩ :=
      hown' hown decision.lineage.id decision.lineage _ (hlineages ▸ hstored) hpointer
    rw [hgenerations, hfind] at hgeneration
    obtain rfl := Option.some.inj hgeneration
    exact hlineage

/-! ## The scope of the input -/

/-- One lineage whose pointer names its live generation. -/
def namedStore : Store :=
  sampleStore { sampleLineage with activeGenerationId := some sampleGeneration.id }
    sampleGeneration

theorem live_reuse_sound_sample :
    ∃ decision db', ensurePolicy sampleEnvironment namedStore sampleInput =
        .ok (decision, db') ∧
      decision.shouldReuseLiveSession = true ∧
      SoundReuse sampleEnvironment namedStore sampleInput decision := by
  have hreuse : (ensurePolicy sampleEnvironment namedStore sampleInput).toOption.any
      (fun result => result.1.shouldReuseLiveSession) = true := by
    decide +kernel
  cases hrun : ensurePolicy sampleEnvironment namedStore sampleInput with
  | error message =>
      rw [hrun] at hreuse
      cases hreuse
  | ok result =>
      rw [hrun] at hreuse
      exact ⟨result.1, result.2, rfl, hreuse,
        (live_reuse_sound _ _ _ _ _ hrun hreuse).1⟩

/-- An agent of the family that declares the scope `none` joins the live session
that another agent opened. -/
theorem declared_scope_is_not_read :
    ∃ decision db',
      ensurePolicy sampleEnvironment namedStore
          { sampleInput with
            agentId := "reviewer".toList, sessionReuseScope := some "none".toList } =
        .ok (decision, db') ∧
      decision.shouldReuseLiveSession = true ∧ decision.lineage.agentId = "writer".toList ∧
      ¬ScopeAdmits "none".toList sampleInput.invocationOwnerKey decision.generation := by
  have hreuse : (ensurePolicy sampleEnvironment namedStore
      { sampleInput with
        agentId := "reviewer".toList,
        sessionReuseScope := some "none".toList }).toOption.any
      (fun result => result.1.shouldReuseLiveSession = true ∧
        result.1.lineage.agentId = "writer".toList) = true := by
    decide +kernel
  cases hrun : ensurePolicy sampleEnvironment namedStore
      { sampleInput with
        agentId := "reviewer".toList, sessionReuseScope := some "none".toList } with
  | error message =>
      rw [hrun] at hreuse
      cases hreuse
  | ok result =>
      rw [hrun] at hreuse
      obtain ⟨hreuse, hagent⟩ :
          result.1.shouldReuseLiveSession = true ∧
            result.1.lineage.agentId = "writer".toList := by
        simpa [Except.toOption] using hreuse
      exact ⟨result.1, result.2, rfl, hreuse, hagent, fun hadmits => hadmits.1 rfl⟩

end ChainworksForge.Session
