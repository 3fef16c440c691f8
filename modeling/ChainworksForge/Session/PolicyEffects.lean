import ChainworksForge.Session.Policy

/-!
# What the policy does to the tables

Events are only added; executions and facts are only read.  A generation is ended
or added, and a lineage is added or pointed at another generation.
-/

namespace ChainworksForge.Session

open ChainworksForge.Support

variable {env : Environment} {db db' : Store} {lineage : SessionLineage}
  {generation : SessionGeneration} {input : SessionPolicyInput}

/-! ## Single statements -/

/-- Two stores that differ in their lineages, generations and new events only, where
no new event is a compaction of the given generation. -/
structure SameHistory (generationId : Text) (db db' : Store) : Prop where
  executions : db'.executions = db.executions
  runtimeFacts : db'.runtimeFacts = db.runtimeFacts
  compactions : countGenerationEvents db' generationId .compacted =
    countGenerationEvents db generationId .compacted

theorem SameHistory.refl (generationId : Text) (db : Store) :
    SameHistory generationId db db :=
  ⟨rfl, rfl, rfl⟩

theorem SameHistory.trans {generationId : Text} {db₁ db₂ db₃ : Store}
    (h₁ : SameHistory generationId db₁ db₂) (h₂ : SameHistory generationId db₂ db₃) :
    SameHistory generationId db₁ db₃ :=
  ⟨h₂.executions.trans h₁.executions, h₂.runtimeFacts.trans h₁.runtimeFacts,
    h₂.compactions.trans h₁.compactions⟩

/-- An event leaves lineages and generations alone. -/
theorem recordEvent_frame {generationId : Text} {eventType : SessionEventType}
    {details : Option Json}
    (hrun : recordEvent env db lineage generationId eventType details = .ok db') :
    db'.lineages = db.lineages ∧ db'.generations = db.generations ∧
      db'.executions = db.executions ∧ db'.runtimeFacts = db.runtimeFacts := by
  unfold recordEvent insertEvent at hrun
  split at hrun
  · obtain rfl := Except.ok.inj hrun
    exact ⟨rfl, rfl, rfl, rfl⟩
  · cases hrun

theorem recordEvent_sameHistory {generationId : Text} {eventType : SessionEventType}
    {details : Option Json} (hkind : eventType ≠ .compacted) (id : Text)
    (hrun : recordEvent env db lineage generationId eventType details = .ok db') :
    SameHistory id db db' := by
  obtain ⟨-, -, hexecutions, hfacts⟩ := recordEvent_frame hrun
  refine ⟨hexecutions, hfacts, ?_⟩
  unfold recordEvent insertEvent at hrun
  split at hrun
  case h_2 => cases hrun
  case h_1 events hinsert =>
    obtain rfl := Except.ok.inj hrun
    obtain ⟨hfree, rfl⟩ := (Table.insert_eq_some_iff _).1 hinsert
    simp [countGenerationEvents, Table.add, List.countP_append, hkind]

theorem finishGeneration_frame {status : Queue.SessionGenerationStatus}
    {endReason : Text} {eventType : SessionEventType} {details : List (String × Json)}
    (hrun : finishGeneration env db lineage generation status endReason eventType
      details = .ok db') :
    db'.lineages = db.lineages ∧
      db'.generations = (endGeneration db generation.id status endReason
        (env.now (.ending generation.id))).generations := by
  obtain ⟨hlineages, hgenerations, -, -⟩ := recordEvent_frame hrun
  exact ⟨hlineages, hgenerations⟩

/-- The pointed lineage names the generation; the others keep their pointers. -/
theorem find_setActiveGeneration {generationId : Option Text}
    (hrow : db.lineages.find lineage.id = some lineage) (id : Text) :
    (setActiveGeneration db lineage.id generationId).lineages.find id =
      if id = lineage.id then
        some { lineage with activeGenerationId := generationId }
      else db.lineages.find id := by
  unfold setActiveGeneration
  by_cases hsame : id = lineage.id
  · subst hsame
    rw [Table.find_update, hrow, if_pos rfl]
    simp
  · rw [if_neg hsame]
    refine db.lineages.find_update_of_ne (fun row hkey => ?_) hsame fun _ => by rfl
    simpa using hkey

/-- Every generation stays, and stays with its lineage. -/
def KeepsGenerations (db db' : Store) : Prop :=
  ∀ id generation, db.generations.find id = some generation →
    ∃ kept, db'.generations.find id = some kept ∧ kept.lineageId = generation.lineageId

theorem KeepsGenerations.trans {db₁ db₂ db₃ : Store} (h₁ : KeepsGenerations db₁ db₂)
    (h₂ : KeepsGenerations db₂ db₃) : KeepsGenerations db₁ db₃ := by
  intro id generation hstored
  obtain ⟨mid, hmid, hlineage⟩ := h₁ id generation hstored
  obtain ⟨kept, hkept, hsame⟩ := h₂ id mid hmid
  exact ⟨kept, hkept, hsame.trans hlineage⟩

theorem keepsGenerations_of_eq (hgenerations : db'.generations = db.generations) :
    KeepsGenerations db db' := by
  intro id generation hstored
  exact ⟨generation, hgenerations ▸ hstored, rfl⟩

theorem keepsGenerations_endGeneration {generationId endReason : Text}
    {status : Queue.SessionGenerationStatus} {endedAt : ℤ}
    (hgenerations : db'.generations =
      (endGeneration db generationId status endReason endedAt).generations) :
    KeepsGenerations db db' := by
  intro id generation hstored
  rw [hgenerations, endGeneration, Table.find_update, hstored, Option.map_some]
  refine ⟨_, rfl, ?_⟩
  split <;> rfl

/-! ## Live generations -/

/-- An active generation of a lineage. -/
structure IsLive (db : Store) (lineageId : Text) (generation : SessionGeneration) :
    Prop where
  stored : db.generations.find generation.id = some generation
  lineageId : generation.lineageId = lineageId
  status : generation.status = .active

theorem mem_activeGenerations_iff {lineageId : Text} :
    generation ∈ activeGenerations db lineageId ↔ IsLive db lineageId generation := by
  simp only [activeGenerations, listGenerationsForLineage, generationsOf,
    List.mem_filter, mem_sortByRank, decide_eq_true_eq]
  constructor
  · rintro ⟨⟨hmem, hlineage⟩, hstatus⟩
    exact ⟨db.generations.find_of_mem hmem, hlineage, hstatus⟩
  · intro hlive
    exact ⟨⟨((db.generations.find_eq_some_iff).1 hlive.stored).1, hlive.lineageId⟩,
      hlive.status⟩

/-- Ending a generation leaves the other live generations. -/
theorem isLive_endGeneration_iff {lineageId generationId endReason : Text}
    {status : Queue.SessionGenerationStatus} {endedAt : ℤ}
    (hgenerations : db'.generations =
      (endGeneration db generationId status endReason endedAt).generations)
    (hended : status ≠ .active) :
    IsLive db' lineageId generation ↔
      IsLive db lineageId generation ∧ generation.id ≠ generationId := by
  have hfind (id : Text) : db'.generations.find id =
      (db.generations.find id).map fun row =>
        if row.id = generationId then
          { row with
            status := status, endReason := some endReason, endedAt := some endedAt }
        else row := by
    rw [hgenerations, endGeneration, Table.find_update]
    simp
  constructor
  · rintro ⟨hstored, hlineage, hactive⟩
    rw [hfind] at hstored
    obtain ⟨row, hrow, hchange⟩ := Option.map_eq_some_iff.1 hstored
    by_cases hsame : row.id = generationId
    · rw [if_pos hsame] at hchange
      rw [← hchange] at hactive
      exact absurd hactive hended
    · rw [if_neg hsame] at hchange
      subst hchange
      exact ⟨⟨hrow, hlineage, hactive⟩, hsame⟩
  · rintro ⟨⟨hstored, hlineage, hactive⟩, hother⟩
    refine ⟨?_, hlineage, hactive⟩
    rw [hfind, hstored, Option.map_some, if_neg hother]

theorem isLive_of_generations {lineageId : Text}
    (hgenerations : db'.generations = db.generations) :
    IsLive db' lineageId generation ↔ IsLive db lineageId generation := by
  constructor
  · rintro ⟨hstored, hlineage, hactive⟩
    exact ⟨hgenerations ▸ hstored, hlineage, hactive⟩
  · rintro ⟨hstored, hlineage, hactive⟩
    exact ⟨hgenerations ▸ hstored, hlineage, hactive⟩

/-! ## Creation -/

/-- A creation adds the drawn generation and points the lineage at it. -/
theorem createGeneration_cases {disposition : SessionReuseDisposition}
    {resetReason checkpoint : Option Text} {decision : SessionPolicyDecision}
    (hrun : createGeneration env db lineage input disposition resetReason checkpoint =
      .ok (decision, db')) :
    decision = ⟨lineage, newGeneration env db lineage input checkpoint, disposition,
        false, resetReason, []⟩ ∧
      (∃ hfree : db.generations.find (env.uuid .generation) = none,
        db'.generations =
          db.generations.add (newGeneration env db lineage input checkpoint) hfree) ∧
      db'.lineages =
        (setActiveGeneration db lineage.id (some (env.uuid .generation))).lineages := by
  simp only [createGeneration, bind_eq_ok_iff, pure_eq_ok_iff, Prod.mk.injEq] at hrun
  obtain ⟨inserted, hinsert, recorded, hrecord, hdecision, rfl⟩ := hrun
  obtain ⟨hlineages, hgenerations, -, -⟩ := recordEvent_frame hrecord
  unfold insertGeneration at hinsert
  split at hinsert
  case h_2 => cases hinsert
  case h_1 generations hadd =>
    obtain rfl := Except.ok.inj hinsert
    obtain ⟨hfree, rfl⟩ := (Table.insert_eq_some_iff _).1 hadd
    exact ⟨hdecision.symm, ⟨hfree, hgenerations⟩, hlineages⟩

theorem find_add_newGeneration {checkpoint : Option Text}
    (hfree : db.generations.find (env.uuid .generation) = none) (id : Text) :
    (db.generations.add (newGeneration env db lineage input checkpoint) hfree).find id =
      if env.uuid .generation = id then
        some (newGeneration env db lineage input checkpoint)
      else db.generations.find id :=
  db.generations.find_add hfree

/-- The live generations after a creation. -/
theorem isLive_createGeneration_iff {disposition : SessionReuseDisposition}
    {resetReason checkpoint : Option Text} {decision : SessionPolicyDecision}
    (hrun : createGeneration env db lineage input disposition resetReason checkpoint =
      .ok (decision, db')) (generation : SessionGeneration) :
    IsLive db' lineage.id generation ↔
      generation = decision.generation ∨ IsLive db lineage.id generation := by
  obtain ⟨rfl, ⟨hfree, hgenerations⟩, -⟩ := createGeneration_cases hrun
  constructor
  · rintro ⟨hstored, hlineage, hactive⟩
    rw [hgenerations, find_add_newGeneration] at hstored
    split at hstored
    · exact .inl (Option.some.inj hstored).symm
    · exact .inr ⟨hstored, hlineage, hactive⟩
  · rintro (rfl | hlive)
    · refine ⟨?_, rfl, rfl⟩
      rw [hgenerations, find_add_newGeneration]
      exact if_pos rfl
    · refine ⟨?_, hlive.lineageId, hlive.status⟩
      rw [hgenerations, find_add_newGeneration, if_neg]
      · exact hlive.stored
      · intro hdrawn
        rw [hdrawn, hlive.stored] at hfree
        cases hfree

/-! ## The lineage of an input -/

/-- The lineage that a call works on: the stored one, or the one it inserts. -/
def lineageFor (env : Environment) (db : Store) (input : SessionPolicyInput) :
    SessionLineage :=
  (findLineageByRunAndKey db input.runId input.lineageKey).getD (newLineage env input)

/-- Two stores with the same generations, events, executions and facts. -/
structure SameSessions (db db' : Store) : Prop where
  generations : db'.generations = db.generations
  events : db'.events = db.events
  executions : db'.executions = db.executions
  runtimeFacts : db'.runtimeFacts = db.runtimeFacts

/-- The lineage that a call works on is stored under the key of the input. -/
theorem findOrInsertLineage_cases
    (hrun : findOrInsertLineage env db input = .ok (lineage, db')) :
    lineage = lineageFor env db input ∧ lineage.runId = input.runId ∧
      lineage.lineageId = input.lineageKey ∧
      db'.lineages.find lineage.id = some lineage ∧ SameSessions db db' ∧
      ∀ id row, db'.lineages.find id = some row → row.activeGenerationId ≠ none →
        db.lineages.find id = some row := by
  unfold findOrInsertLineage at hrun
  split at hrun
  case h_1 existing hfound =>
    obtain ⟨rfl, rfl⟩ := Prod.mk.inj (Except.ok.inj hrun)
    have hkey : existing.runId = input.runId ∧ existing.lineageId = input.lineageKey := by
      simpa using List.find?_some hfound
    refine ⟨by rw [lineageFor, hfound]; rfl, hkey.1, hkey.2, ?_, ⟨rfl, rfl, rfl, rfl⟩,
      fun _ _ hrow _ => hrow⟩
    exact db.lineages.find_of_mem (List.mem_of_find?_eq_some hfound)
  case h_2 hnone =>
    simp only [bind_eq_ok_iff, pure_eq_ok_iff, Prod.mk.injEq] at hrun
    obtain ⟨inserted, hinsert, rfl, rfl⟩ := hrun
    unfold insertLineage at hinsert
    split at hinsert
    case h_2 => cases hinsert
    case h_1 lineages hadd =>
      obtain rfl := Except.ok.inj hinsert
      obtain ⟨hfree, rfl⟩ := (Table.insert_eq_some_iff _).1 hadd
      refine ⟨by rw [lineageFor, hnone]; rfl, rfl, rfl, ?_, ⟨rfl, rfl, rfl, rfl⟩, ?_⟩
      · rw [Table.find_add, if_pos rfl]
      · intro id row hrow hpointer
        rw [Table.find_add] at hrow
        split at hrow
        · obtain rfl := Option.some.inj hrow
          exact absurd rfl hpointer
        · exact hrow

/-! ## The repair -/

theorem foldl_laterGeneration_mem (first : SessionGeneration)
    (rest : List SessionGeneration) :
    rest.foldl laterGeneration first ∈ first :: rest := by
  refine foldl_preserves (P := fun best => best ∈ first :: rest) ?_
    List.mem_cons_self
  intro best next hnext hbest
  unfold laterGeneration
  split
  · exact List.mem_cons_of_mem _ hnext
  · exact hbest

theorem selectActiveGenerationSurvivor_mem (first : SessionGeneration)
    (rest : List SessionGeneration) (lineage : SessionLineage) :
    selectActiveGenerationSurvivor first rest lineage ∈ first :: rest := by
  simp only [selectActiveGenerationSurvivor]
  cases hfound : (first :: rest).find?
      fun generation => lineage.activeGenerationId = some generation.id with
  | none => exact foldl_laterGeneration_mem first rest
  | some named => exact List.mem_of_find?_eq_some hfound

/-- What the loop over the duplicates leaves: the lineages, and of the live
generations those that were not ended. -/
structure Ended (duplicates : List SessionGeneration) (db db' : Store) : Prop where
  lineages : db'.lineages = db.lineages
  live : ∀ lineageId generation, IsLive db' lineageId generation ↔
    IsLive db lineageId generation ∧ ∀ duplicate ∈ duplicates,
      generation.id ≠ duplicate.id
  kept : KeepsGenerations db db'
  history : ∀ id, SameHistory id db db'

theorem foldlM_invalidateDuplicate_ended {survivingId : Text}
    {duplicates : List SessionGeneration}
    (hrun : duplicates.foldlM (fun db duplicate =>
      invalidateDuplicateActiveGeneration env db lineage duplicate survivingId) db =
        .ok db') :
    Ended duplicates db db' := by
  induction duplicates generalizing db with
  | nil =>
      obtain rfl : db = db' := by simpa [pure_eq_ok_iff] using hrun
      exact ⟨rfl, fun _ _ => by simp, keepsGenerations_of_eq rfl, fun id => .refl id db⟩
  | cons duplicate duplicates ih =>
      rw [List.foldlM_cons, bind_eq_ok_iff] at hrun
      obtain ⟨mid, hstep, hrest⟩ := hrun
      obtain ⟨hlineages, hgenerations⟩ := finishGeneration_frame hstep
      have hlater := ih hrest
      refine ⟨hlater.lineages.trans hlineages, fun lineageId generation => ?_,
        (keepsGenerations_endGeneration hgenerations).trans hlater.kept, fun id => ?_⟩
      · rw [hlater.live, isLive_endGeneration_iff hgenerations (by decide),
          List.forall_mem_cons]
        tauto
      · have hfirst := recordEvent_sameHistory (by decide) id hstep
        exact SameHistory.trans ⟨hfirst.executions, hfirst.runtimeFacts,
          hfirst.compactions⟩ (hlater.history id)

/-- A live generation is none of the duplicates of a survivor exactly if it is of
another lineage or the survivor itself. -/
theorem not_duplicate_iff {lineageId otherId : Text} {survivor : SessionGeneration}
    {actives : List SessionGeneration}
    (hactive : activeGenerations db lineageId = actives)
    (hlive : IsLive db otherId generation) :
    (∀ duplicate ∈ actives.filter fun row => row.id ≠ survivor.id,
        generation.id ≠ duplicate.id) ↔
      (otherId = lineageId → generation.id = survivor.id) := by
  subst hactive
  constructor
  · rintro hnone rfl
    by_contra hother
    refine hnone generation ?_ rfl
    exact List.mem_filter.2 ⟨mem_activeGenerations_iff.2 hlive, by simpa using hother⟩
  · intro hown duplicate hduplicate hsame
    obtain ⟨hmem, hother⟩ := List.mem_filter.1 hduplicate
    have hstored := (mem_activeGenerations_iff.1 hmem).stored
    rw [← hsame, hlive.stored] at hstored
    obtain rfl := Option.some.inj hstored
    have hlineage : otherId = lineageId :=
      hlive.lineageId.symm.trans (mem_activeGenerations_iff.1 hmem).lineageId
    exact absurd (hown hlineage) (by simpa using hother)

/-- Pointing a lineage at a generation it may already name. -/
theorem pointAt_cases (hrow : db.lineages.find lineage.id = some lineage)
    (generationId : Text) :
    let pointed :=
      if lineage.activeGenerationId = some generationId then db
      else setActiveGeneration db lineage.id (some generationId)
    (∀ id, pointed.lineages.find id =
      if id = lineage.id then
        some { lineage with activeGenerationId := some generationId }
      else db.lineages.find id) ∧ SameSessions db pointed := by
  intro pointed
  by_cases hsame : lineage.activeGenerationId = some generationId
  · have hpointed : pointed = db := if_pos hsame
    rw [hpointed]
    refine ⟨fun id => ?_, ⟨rfl, rfl, rfl, rfl⟩⟩
    by_cases hid : id = lineage.id
    · rw [if_pos hid, hid, hrow, ← hsame]
    · rw [if_neg hid]
  · have hpointed : pointed = setActiveGeneration db lineage.id (some generationId) :=
      if_neg hsame
    rw [hpointed]
    exact ⟨find_setActiveGeneration hrow, ⟨rfl, rfl, rfl, rfl⟩⟩

/-- A repair either finds at most one live generation and changes nothing, or keeps
one live generation of the lineage and points the lineage at it. -/
theorem repairDuplicateActiveGenerations_cases {repaired : SessionLineage}
    (hrow : db.lineages.find lineage.id = some lineage)
    (hrun : repairDuplicateActiveGenerations env db lineage = .ok (repaired, db')) :
    ((activeGenerations db lineage.id).length < 2 ∧ repaired = lineage ∧ db' = db) ∨
    (2 ≤ (activeGenerations db lineage.id).length ∧
      ∃ survivor, repaired = { lineage with activeGenerationId := some survivor.id } ∧
        db'.lineages.find lineage.id = some repaired ∧
        (∀ id, id ≠ lineage.id → db'.lineages.find id = db.lineages.find id) ∧
        IsLive db lineage.id survivor ∧
        (∀ lineageId generation, IsLive db' lineageId generation ↔
          IsLive db lineageId generation ∧
            (lineageId = lineage.id → generation.id = survivor.id)) ∧
        KeepsGenerations db db' ∧ ∀ id, SameHistory id db db') := by
  unfold repairDuplicateActiveGenerations at hrun
  split at hrun
  case h_1 hactive =>
    obtain ⟨rfl, rfl⟩ := Prod.mk.inj (Except.ok.inj hrun)
    exact .inl ⟨by simp [hactive], rfl, rfl⟩
  case h_2 only hactive =>
    obtain ⟨rfl, rfl⟩ := Prod.mk.inj (Except.ok.inj hrun)
    exact .inl ⟨by simp [hactive], rfl, rfl⟩
  case h_3 first rest hsecond hactive =>
    simp only [bind_eq_ok_iff, pure_eq_ok_iff, Prod.mk.injEq] at hrun
    obtain ⟨final, hloop, rfl, rfl⟩ := hrun
    set survivor := selectActiveGenerationSurvivor first rest lineage
    have hmem : survivor ∈ activeGenerations db lineage.id := by
      rw [hactive]
      exact selectActiveGenerationSurvivor_mem first rest lineage
    have hsurvivor := mem_activeGenerations_iff.1 hmem
    have hended := foldlM_invalidateDuplicate_ended hloop
    have hpointed := pointAt_cases hrow survivor.id
    have hkept := (keepsGenerations_of_eq hpointed.2.generations).trans hended.kept
    refine .inr ⟨?_, survivor, rfl, ?_, ?_, hsurvivor, ?_, hkept, ?_⟩
    · rw [hactive]
      cases rest with
      | nil => exact absurd rfl hsecond
      | cons second rest => simp
    · rw [hended.lineages, hpointed.1, if_pos rfl]
    · intro id hother
      rw [hended.lineages, hpointed.1, if_neg hother]
    · intro lineageId generation
      rw [hended.live, isLive_of_generations hpointed.2.generations]
      exact and_congr_right fun hlive =>
        not_duplicate_iff hactive hlive
    · intro id
      have hloop := hended.history id
      exact ⟨hloop.executions.trans hpointed.2.executions,
        hloop.runtimeFacts.trans hpointed.2.runtimeFacts, by
          rw [hloop.compactions, countGenerationEvents, hpointed.2.events,
            countGenerationEvents]⟩

/-! ## The decision -/

/-- Whether the session of an active generation is used again. -/
def Reusable (env : Environment) (db : Store) (lineage : SessionLineage)
    (input : SessionPolicyInput) (active : SessionGeneration) : Prop :=
  refusal db lineage input active = none ∧ budgetDecision env db active = .continueReuse

/-- What can become of a lineage whose duplicates have been repaired. -/
inductive Decides (env : Environment) (db : Store) (lineage : SessionLineage)
    (input : SessionPolicyInput) : SessionPolicyDecision → Store → Prop
  | reuse {active db'}
      (named : findActiveGeneration db lineage.id = some active)
      (live : active.status = .active) (reusable : Reusable env db lineage input active)
      (lineages : db'.lineages = db.lineages)
      (generations : db'.generations = db.generations) :
      Decides env db lineage input ⟨lineage, active, .reused, true, none, []⟩ db'
  | replace {active ended status endReason endedAt disposition resetReason checkpoint
        decision db'}
      (named : findActiveGeneration db lineage.id = some active)
      (live : active.status = .active) (unusable : ¬Reusable env db lineage input active)
      (lineages : ended.lineages = db.lineages) (notActive : status ≠ .active)
      (generations : ended.generations =
        (endGeneration db active.id status endReason endedAt).generations)
      (created : createGeneration env ended lineage input disposition resetReason
        checkpoint = .ok (decision, db')) :
      Decides env db lineage input (decision.withGenerationToClose active.id) db'
  | create {disposition resetReason checkpoint decision db'}
      (idle : ∀ active, findActiveGeneration db lineage.id = some active →
        active.status ≠ .active)
      (created : createGeneration env db lineage input disposition resetReason
        checkpoint = .ok (decision, db')) :
      Decides env db lineage input decision db'

theorem settleActiveGeneration_decides {active : SessionGeneration}
    {decision : SessionPolicyDecision}
    (named : findActiveGeneration db lineage.id = some active)
    (live : active.status = .active)
    (hrun : settleActiveGeneration env db lineage input active = .ok (decision, db')) :
    Decides env db lineage input decision db' := by
  unfold settleActiveGeneration at hrun
  split at hrun
  case h_1 objection hrefused =>
    have unusable : ¬Reusable env db lineage input active := by
      rintro ⟨hnone, -⟩
      rw [hnone] at hrefused
      cases hrefused
    simp only [bind_eq_ok_iff, pure_eq_ok_iff, Prod.exists, Prod.mk.injEq] at hrun
    obtain ⟨ended, hended, created, final, hcreated, rfl, rfl⟩ := hrun
    obtain ⟨hlineages, hgenerations⟩ := finishGeneration_frame hended
    exact .replace named live unusable hlineages (by decide) hgenerations hcreated
  case h_2 hnone =>
    split at hrun
    case h_1 hbudget =>
      simp only [bind_eq_ok_iff, pure_eq_ok_iff, Prod.mk.injEq] at hrun
      obtain ⟨recorded, hrecord, rfl, rfl⟩ := hrun
      obtain ⟨hlineages, hgenerations, -, -⟩ := recordEvent_frame hrecord
      exact .reuse named live ⟨hnone, hbudget⟩ hlineages hgenerations
    case h_2 reason hbudget =>
      have unusable : ¬Reusable env db lineage input active := by
        rintro ⟨-, hcontinue⟩
        rw [hcontinue] at hbudget
        cases hbudget
      simp only [bind_eq_ok_iff, pure_eq_ok_iff, Prod.exists, Prod.mk.injEq] at hrun
      obtain ⟨ended, hended, created, final, hcreated, rfl, rfl⟩ := hrun
      obtain ⟨hlineages, hgenerations⟩ := finishGeneration_frame hended
      exact .replace named live unusable hlineages (by decide) hgenerations hcreated
    case h_3 reason hbudget =>
      have unusable : ¬Reusable env db lineage input active := by
        rintro ⟨-, hcontinue⟩
        rw [hcontinue] at hbudget
        cases hbudget
      simp only [bind_eq_ok_iff, pure_eq_ok_iff, Prod.exists, Prod.mk.injEq] at hrun
      obtain ⟨ended, hended, created, final, hcreated, rfl, rfl⟩ := hrun
      obtain ⟨hlineages, hgenerations⟩ := finishGeneration_frame hended
      exact .replace named live unusable hlineages (by decide) hgenerations hcreated

theorem decideGeneration_decides {decision : SessionPolicyDecision}
    (hrun : decideGeneration env db lineage input = .ok (decision, db')) :
    Decides env db lineage input decision db' := by
  unfold decideGeneration at hrun
  split at hrun
  case h_1 hnone =>
    have idle : ∀ active, findActiveGeneration db lineage.id = some active →
        active.status ≠ .active := by
      intro active hsome
      rw [hnone] at hsome
      cases hsome
    split at hrun
    · exact .create idle hrun
    · exact .create idle hrun
  case h_2 active named =>
    split at hrun
    case isTrue live => exact settleActiveGeneration_decides named live hrun
    case isFalse hended =>
      refine .create ?_ hrun
      intro other hother
      rw [named] at hother
      obtain rfl := Option.some.inj hother
      exact hended

/-- A call finds or inserts its lineage, repairs it and decides. -/
theorem ensurePolicy_eq_ok_iff {decision : SessionPolicyDecision} :
    ensurePolicy env db input = .ok (decision, db') ↔
      ∃ lineage found repaired fixed,
        findOrInsertLineage env db input = .ok (lineage, found) ∧
        repairDuplicateActiveGenerations env found lineage = .ok (repaired, fixed) ∧
        decideGeneration env fixed repaired input = .ok (decision, db') := by
  simp only [ensurePolicy, bind_eq_ok_iff, Prod.exists]
  constructor
  · rintro ⟨lineage, found, hfound, repaired, fixed, hfixed, hrun⟩
    exact ⟨lineage, found, repaired, fixed, hfound, hfixed, hrun⟩
  · rintro ⟨lineage, found, repaired, fixed, hfound, hfixed, hrun⟩
    exact ⟨lineage, found, hfound, repaired, fixed, hfixed, hrun⟩

end ChainworksForge.Session
