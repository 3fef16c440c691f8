import ChainworksForge.Session.LiveReuse

/-!
# What a decision records

A decision records a compaction only of a generation whose reported usage reaches a
bound, and it retires that generation: it ends the generation and opens another one.
No decision brings a retired generation back, so a generation is compacted once at
most.
-/

namespace ChainworksForge.Session

open ChainworksForge.Support

/-! ## The bounds of a compaction -/

/-- The signals reach a bound that asks for a compaction: one of the first two, or a
later one below the bounds on the prompt tokens, the cost and the idle time. -/
def ReachesCompaction (signals : BudgetSignals) (config : BudgetConfig) : Prop :=
  config.maxTurns ≤ signals.turnCount ∨
  config.maxEstimatedInputTokens ≤ signals.estimatedInputTokens ∨
  (signals.cumulativePromptTokens < config.maxCumulativePromptTokens ∧
    signals.cumulativeCostCents < config.maxCumulativeCostCents ∧
    config.maxIdleAgeSeconds.le signals.idleAgeSeconds = false ∧
    (F64.lt (.fin (1 / 2)) (signals.effectivePromptSizeFraction.getD (.fin 0)) = true ∨
      (F64.lt (signals.cachedTokenShare.getD (.fin 1)) (.ofRat (1 / 5)) = true ∧
        50000 < signals.estimatedInputTokens) ∨
      F64.lt config.maxTranscriptGrowthRatio
        (signals.transcriptGrowthRatio.getD (.fin 1)) = true))

section Bounds

variable {p : Prop} [Decidable p] {text : Text} {later : BudgetDecision}

/-- A bound that asks for a compaction, before the bounds that come later. -/
theorem ite_compact_iff :
    (∃ reason, (if p then .compact text else later) = BudgetDecision.compact reason) ↔
      p ∨ ∃ reason, later = .compact reason := by
  split_ifs with hreached
  · exact iff_of_true ⟨text, rfl⟩ (.inl hreached)
  · exact (or_iff_right hreached).symm

/-- A bound that gives the session up, before the bounds that come later. -/
theorem ite_invalidate_iff :
    (∃ reason, (if p then .invalidate text else later) = BudgetDecision.compact reason) ↔
      ¬p ∧ ∃ reason, later = .compact reason := by
  split_ifs with hreached
  · exact iff_of_false (fun ⟨_, h⟩ => by cases h) fun h => h.1 hreached
  · exact (and_iff_right hreached).symm

end Bounds

theorem evaluate_compact_iff {display : F64 → Text} {signals : BudgetSignals}
    {config : BudgetConfig} :
    (∃ reason, evaluate display signals config = .compact reason) ↔
      ReachesCompaction signals config := by
  have hreuse : ¬∃ reason, BudgetDecision.continueReuse = .compact reason :=
    fun ⟨_, h⟩ => by cases h
  simp only [evaluate, ite_compact_iff, ite_invalidate_iff, hreuse, and_false, or_false,
    not_le, Bool.not_eq_true, Bool.and_eq_true, decide_eq_true_eq, ReachesCompaction]

/-- The generation whose session a decision is about: the survivor of several live
ones, or the live one that the lineage names. -/
def activeFor (env : Environment) (db : Store) (input : SessionPolicyInput) :
    Option SessionGeneration :=
  let lineage := lineageFor env db input
  match activeGenerations db lineage.id with
  | first :: second :: rest =>
      some (selectActiveGenerationSurvivor first (second :: rest) lineage)
  | _ => (lineage.activeGenerationId.bind db.generations.find).filter fun generation =>
      generation.status = .active

/-- A decision finds a generation used up: it is the active one, the usage that its
turns reported reaches a bound of a compaction, and the input raises no objection to
its session. -/
def FindsUsedUp (env : Environment) (db : Store) (input : SessionPolicyInput)
    (generationId : Text) : Prop :=
  ∃ active, activeFor env db input = some active ∧ active.id = generationId ∧
    refusal db (lineageFor env db input) input active = none ∧
    ReachesCompaction (budgetSignalsFromGeneration db (env.now .idleAge) active) {}

variable {env : Environment} {db db' : Store} {lineage : SessionLineage}
  {generation : SessionGeneration} {input : SessionPolicyInput}

/-! ## Retired generations -/

/-- A stored generation that is not live. -/
def Retired (db : Store) (generationId : Text) : Prop :=
  ∃ row, db.generations.find generationId = some row ∧ row.status ≠ .active

/-- A retired generation stays retired where no generation comes to life. -/
theorem Retired.keep {generationId : Text} (hretired : Retired db generationId)
    (hkept : KeepsGenerations db db')
    (hlive : ∀ lineageId generation, IsLive db' lineageId generation →
      IsLive db lineageId generation) :
    Retired db' generationId := by
  obtain ⟨row, hrow, hstatus⟩ := hretired
  obtain ⟨kept, hstored, -⟩ := hkept generationId row hrow
  refine ⟨kept, hstored, fun hactive => ?_⟩
  have hid : kept.id = generationId := (db'.generations.find_eq_some_iff.1 hstored).2
  have hbefore := (hlive kept.lineageId kept ⟨hid ▸ hstored, rfl, hactive⟩).stored
  rw [hid, hrow] at hbefore
  obtain rfl := Option.some.inj hbefore
  exact hstatus hactive

theorem Retired.of_generations {generationId : Text} (hretired : Retired db generationId)
    (hgenerations : db'.generations = db.generations) : Retired db' generationId := by
  obtain ⟨row, hrow, hstatus⟩ := hretired
  exact ⟨row, hgenerations ▸ hrow, hstatus⟩

theorem Retired.endGeneration {generationId endedId endReason : Text}
    {status : Queue.SessionGenerationStatus} {endedAt : ℤ}
    (hretired : Retired db generationId)
    (hgenerations : db'.generations =
      (endGeneration db endedId status endReason endedAt).generations)
    (hended : status ≠ .active) : Retired db' generationId :=
  hretired.keep (keepsGenerations_endGeneration hgenerations) fun _ _ hlive =>
    ((isLive_endGeneration_iff hgenerations hended).1 hlive).1

/-- The generation that is ended is retired. -/
theorem retired_endGeneration {endReason : Text}
    {status : Queue.SessionGenerationStatus} {endedAt : ℤ}
    (hstored : db.generations.find generation.id = some generation)
    (hgenerations : db'.generations =
      (endGeneration db generation.id status endReason endedAt).generations)
    (hended : status ≠ .active) : Retired db' generation.id := by
  rw [Retired, hgenerations, endGeneration, Table.find_update, hstored, Option.map_some]
  exact ⟨_, rfl, by simpa using hended⟩

theorem Retired.createGeneration {generationId : Text}
    {disposition : SessionReuseDisposition} {resetReason checkpoint : Option Text}
    {decision : SessionPolicyDecision} (hretired : Retired db generationId)
    (hrun : createGeneration env db lineage input disposition resetReason checkpoint =
      .ok (decision, db')) : Retired db' generationId := by
  obtain ⟨row, hrow, hstatus⟩ := hretired
  obtain ⟨-, ⟨hfree, hgenerations⟩, -⟩ := createGeneration_cases hrun
  refine ⟨row, ?_, hstatus⟩
  rw [hgenerations, find_add_newGeneration, if_neg]
  · exact hrow
  · rintro rfl
    rw [hfree] at hrow
    cases hrow

theorem Decides.retired {generationId : Text} {decision : SessionPolicyDecision}
    (hdecides : Decides env db lineage input decision db')
    (hretired : Retired db generationId) : Retired db' generationId := by
  cases hdecides with
  | reuse named live reusable lineages generations =>
      exact hretired.of_generations generations
  | replace named live unusable lineages notActive generations created =>
      exact (hretired.endGeneration generations notActive).createGeneration created
  | create idle created => exact hretired.createGeneration created

/-- No decision brings a retired generation back to life. -/
theorem ensurePolicy_retired {generationId : Text} {decision : SessionPolicyDecision}
    (hrun : ensurePolicy env db input = .ok (decision, db'))
    (hretired : Retired db generationId) : Retired db' generationId := by
  obtain ⟨lineage, found, repaired, fixed, hfound, hfixed, hdecide⟩ :=
    ensurePolicy_eq_ok_iff.1 hrun
  obtain ⟨-, -, -, hrow, hsame, -⟩ := findOrInsertLineage_cases hfound
  have hfoundRetired := hretired.of_generations hsame.generations
  refine (decideGeneration_decides hdecide).retired ?_
  rcases repairDuplicateActiveGenerations_cases hrow hfixed with
    ⟨-, -, rfl⟩ | ⟨-, survivor, -, -, -, -, hlive, hkept, -⟩
  · exact hfoundRetired
  · exact hfoundRetired.keep hkept fun lineageId generation hstays =>
      ((hlive lineageId generation).1 hstays).1

/-- The generation that a decision is about is live. -/
theorem activeFor_live {active : SessionGeneration}
    (hactive : activeFor env db input = some active) :
    db.generations.find active.id = some active ∧ active.status = .active := by
  simp only [activeFor] at hactive
  split at hactive
  case h_1 first second rest hlist =>
    have hlive : IsLive db (lineageFor env db input).id active := by
      rw [← mem_activeGenerations_iff, hlist, ← Option.some.inj hactive]
      exact selectActiveGenerationSurvivor_mem _ _ _
    exact ⟨hlive.stored, hlive.status⟩
  case h_2 =>
    obtain ⟨hnamed, hlive⟩ := Option.filter_eq_some_iff.1 hactive
    obtain ⟨id, -, hstored⟩ := Option.bind_eq_some_iff.1 hnamed
    obtain rfl := (db.generations.find_eq_some_iff.1 hstored).2
    exact ⟨hstored, of_decide_eq_true hlive⟩

/-! ## What a decision records -/

/-- The events that a call adds, all of them of one lineage. -/
def Records (db db' : Store) (lineageId : Text) (kinds : List SessionEventType) : Prop :=
  ∃ events, db'.events.rows = db.events.rows ++ events ∧
    (∀ event ∈ events, event.lineageId = lineageId) ∧
    events.map SessionEvent.eventType = kinds

theorem Records.refl (db : Store) (lineageId : Text) : Records db db lineageId [] :=
  ⟨[], (List.append_nil _).symm, fun _ h => absurd h List.not_mem_nil, rfl⟩

theorem Records.trans {db₁ db₂ db₃ : Store} {lineageId : Text}
    {kinds kinds' : List SessionEventType} (h₁ : Records db₁ db₂ lineageId kinds)
    (h₂ : Records db₂ db₃ lineageId kinds') :
    Records db₁ db₃ lineageId (kinds ++ kinds') := by
  obtain ⟨events, hrows, hlineage, rfl⟩ := h₁
  obtain ⟨events', hrows', hlineage', rfl⟩ := h₂
  refine ⟨events ++ events', ?_, ?_, List.map_append⟩
  · rw [hrows', hrows, List.append_assoc]
  · intro event hevent
    rcases List.mem_append.1 hevent with hevent | hevent
    · exact hlineage event hevent
    · exact hlineage' event hevent

theorem records_of_events_eq {lineageId : Text} (hevents : db'.events = db.events) :
    Records db db' lineageId [] :=
  ⟨[], by rw [hevents, List.append_nil], fun _ h => absurd h List.not_mem_nil, rfl⟩

theorem recordEvent_records {mid : Store} {generationId : Text}
    {eventType : SessionEventType} {details : Option Json}
    (hrun : recordEvent env mid lineage generationId eventType details = .ok db')
    (hevents : mid.events = db.events) : Records db db' lineage.id [eventType] := by
  unfold recordEvent insertEvent at hrun
  split at hrun
  case h_2 => cases hrun
  case h_1 events hinsert =>
    obtain rfl := Except.ok.inj hrun
    obtain ⟨hfree, rfl⟩ := (Table.insert_eq_some_iff _).1 hinsert
    rw [Records, ← hevents]
    refine ⟨_, by rw [Table.add], fun event hevent => ?_, rfl⟩
    rw [List.mem_singleton.1 hevent]

theorem finishGeneration_records {status : Queue.SessionGenerationStatus}
    {endReason : Text} {eventType : SessionEventType} {details : List (String × Json)}
    (hrun : finishGeneration env db lineage generation status endReason eventType
      details = .ok db') :
    Records db db' lineage.id [eventType] :=
  recordEvent_records hrun rfl

theorem createGeneration_records {disposition : SessionReuseDisposition}
    {resetReason checkpoint : Option Text} {decision : SessionPolicyDecision}
    (hrun : createGeneration env db lineage input disposition resetReason checkpoint =
      .ok (decision, db')) : Records db db' lineage.id [.created] := by
  simp only [createGeneration, bind_eq_ok_iff, pure_eq_ok_iff, Prod.mk.injEq] at hrun
  obtain ⟨inserted, hinsert, recorded, hrecord, -, rfl⟩ := hrun
  unfold insertGeneration at hinsert
  split at hinsert
  case h_2 => cases hinsert
  case h_1 generations hadd =>
    obtain rfl := Except.ok.inj hinsert
    exact recordEvent_records hrecord rfl

/-- A repair records invalidations only. -/
theorem foldlM_invalidateDuplicate_records {survivingId : Text}
    {duplicates : List SessionGeneration}
    (hrun : duplicates.foldlM (fun db duplicate =>
      invalidateDuplicateActiveGeneration env db lineage duplicate survivingId) db =
        .ok db') :
    ∃ kinds, Records db db' lineage.id kinds ∧ ∀ kind ∈ kinds, kind = .invalidated := by
  induction duplicates generalizing db with
  | nil =>
      obtain rfl : db = db' := by simpa [pure_eq_ok_iff] using hrun
      exact ⟨[], .refl db _, by simp⟩
  | cons duplicate duplicates ih =>
      rw [List.foldlM_cons, bind_eq_ok_iff] at hrun
      obtain ⟨mid, hstep, hrest⟩ := hrun
      obtain ⟨kinds, hrecords, hinvalidated⟩ := ih hrest
      exact ⟨_, (finishGeneration_records hstep).trans hrecords,
        List.forall_mem_cons.2 ⟨rfl, hinvalidated⟩⟩

theorem repairDuplicateActiveGenerations_records {repaired : SessionLineage}
    (hrun : repairDuplicateActiveGenerations env db lineage = .ok (repaired, db')) :
    ∃ kinds, Records db db' lineage.id kinds ∧ ∀ kind ∈ kinds, kind = .invalidated := by
  unfold repairDuplicateActiveGenerations at hrun
  split at hrun
  case h_1 =>
    obtain ⟨-, rfl⟩ := Prod.mk.inj (Except.ok.inj hrun)
    exact ⟨[], .refl db _, by simp⟩
  case h_2 =>
    obtain ⟨-, rfl⟩ := Prod.mk.inj (Except.ok.inj hrun)
    exact ⟨[], .refl db _, by simp⟩
  case h_3 first rest hsecond hactive =>
    simp only [bind_eq_ok_iff, pure_eq_ok_iff, Prod.mk.injEq] at hrun
    obtain ⟨final, hloop, -, rfl⟩ := hrun
    obtain ⟨kinds, hrecords, hinvalidated⟩ := foldlM_invalidateDuplicate_records hloop
    refine ⟨[] ++ kinds, Records.trans (records_of_events_eq ?_) hrecords, hinvalidated⟩
    split <;> rfl

/-- The input has no objection to a generation, and the budget asks for its compaction. -/
def CompactionDue (env : Environment) (db : Store) (lineage : SessionLineage)
    (input : SessionPolicyInput) (active : SessionGeneration) : Prop :=
  refusal db lineage input active = none ∧
    ∃ reason, budgetDecision env db active = .compact reason

/-- A decision on a live generation records a compaction exactly where one is due; then
the generation is retired and the lineage is not given up. -/
theorem settleActiveGeneration_records {active : SessionGeneration}
    {decision : SessionPolicyDecision}
    (hstored : db.generations.find active.id = some active)
    (hrun : settleActiveGeneration env db lineage input active = .ok (decision, db')) :
    ∃ kinds, Records db db' lineage.id kinds ∧ kinds.count .compacted ≤ 1 ∧
      (.compacted ∈ kinds ↔ CompactionDue env db lineage input active) ∧
      (.compacted ∈ kinds → .budgetExceeded ∉ kinds ∧ Retired db' active.id) := by
  unfold settleActiveGeneration at hrun
  split at hrun
  case h_1 objection hrefused =>
    have hnot : ¬CompactionDue env db lineage input active := by
      rintro ⟨hnone, -⟩
      rw [hrefused] at hnone
      cases hnone
    simp only [bind_eq_ok_iff, pure_eq_ok_iff, Prod.exists, Prod.mk.injEq] at hrun
    obtain ⟨ended, hended, created, final, hcreated, -, rfl⟩ := hrun
    exact ⟨_, (finishGeneration_records hended).trans (createGeneration_records hcreated),
      by decide, iff_of_false (by decide) hnot, fun hmem => absurd hmem (by decide)⟩
  case h_2 hnone =>
    have hnot (hbudget : ∀ reason, budgetDecision env db active ≠ .compact reason) :
        ¬CompactionDue env db lineage input active := by
      rintro ⟨-, reason, hcompact⟩
      exact hbudget reason hcompact
    split at hrun
    case h_1 hbudget =>
      simp only [bind_eq_ok_iff, pure_eq_ok_iff, Prod.mk.injEq] at hrun
      obtain ⟨recorded, hrecord, -, rfl⟩ := hrun
      exact ⟨_, recordEvent_records hrecord rfl, by decide,
        iff_of_false (by decide) (hnot (by simp [hbudget])),
        fun hmem => absurd hmem (by decide)⟩
    case h_2 reason hbudget =>
      simp only [bind_eq_ok_iff, pure_eq_ok_iff, Prod.exists, Prod.mk.injEq] at hrun
      obtain ⟨ended, hended, created, final, hcreated, -, rfl⟩ := hrun
      obtain ⟨-, hgenerations⟩ := finishGeneration_frame hended
      have hretired := retired_endGeneration hstored hgenerations (by decide)
      exact ⟨_, (finishGeneration_records hended).trans (createGeneration_records hcreated),
        by decide, iff_of_true (by decide) ⟨hnone, reason, hbudget⟩,
        fun _ => ⟨by decide, hretired.createGeneration hcreated⟩⟩
    case h_3 reason hbudget =>
      simp only [bind_eq_ok_iff, pure_eq_ok_iff, Prod.exists, Prod.mk.injEq] at hrun
      obtain ⟨ended, hended, created, final, hcreated, -, rfl⟩ := hrun
      exact ⟨_, (finishGeneration_records hended).trans (createGeneration_records hcreated),
        by decide, iff_of_false (by decide) (hnot (by simp [hbudget])),
        fun hmem => absurd hmem (by decide)⟩

theorem decideGeneration_records {decision : SessionPolicyDecision}
    (hrun : decideGeneration env db lineage input = .ok (decision, db')) :
    ∃ kinds, Records db db' lineage.id kinds ∧ kinds.count .compacted ≤ 1 ∧
      (.compacted ∈ kinds ↔ ∃ active, (findActiveGeneration db lineage.id = some active ∧
        active.status = .active) ∧ CompactionDue env db lineage input active) ∧
      (.compacted ∈ kinds → .budgetExceeded ∉ kinds ∧
        ∀ active, findActiveGeneration db lineage.id = some active →
          Retired db' active.id) := by
  have hcreates {disposition : SessionReuseDisposition} {resetReason checkpoint : Option Text}
      (hcreated : createGeneration env db lineage input disposition resetReason checkpoint =
        .ok (decision, db')) :
      ∃ kinds, Records db db' lineage.id kinds ∧ kinds.count .compacted ≤ 1 ∧
        .compacted ∉ kinds :=
    ⟨_, createGeneration_records hcreated, by decide, by decide⟩
  unfold decideGeneration at hrun
  split at hrun
  case h_1 hunnamed =>
    have hnext : ∃ kinds, Records db db' lineage.id kinds ∧
        kinds.count .compacted ≤ 1 ∧ .compacted ∉ kinds := by
      split at hrun
      · exact hcreates hrun
      · exact hcreates hrun
    obtain ⟨kinds, hrecords, hcount, hnone⟩ := hnext
    refine ⟨kinds, hrecords, hcount, iff_of_false hnone ?_, fun hmem => absurd hmem hnone⟩
    rintro ⟨active, ⟨hnamed, -⟩, -⟩
    rw [hunnamed] at hnamed
    cases hnamed
  case h_2 active hnamed =>
    have honly {other : SessionGeneration}
        (hother : findActiveGeneration db lineage.id = some other) : other = active :=
      Option.some.inj (hother.symm.trans hnamed)
    split at hrun
    case isTrue hlive =>
      obtain ⟨id, -, hfind⟩ := Option.bind_eq_some_iff.1 hnamed
      obtain rfl := (db.generations.find_eq_some_iff.1 hfind).2
      obtain ⟨kinds, hrecords, hcount, hdue, hcompacts⟩ :=
        settleActiveGeneration_records hfind hrun
      refine ⟨kinds, hrecords, hcount,
        hdue.trans ⟨fun h => ⟨active, ⟨hnamed, hlive⟩, h⟩, ?_⟩,
        fun hmem => ⟨(hcompacts hmem).1, fun other hother => ?_⟩⟩
      · rintro ⟨other, ⟨hother, -⟩, h⟩
        exact honly hother ▸ h
      · exact honly hother ▸ (hcompacts hmem).2
    case isFalse hended =>
      obtain ⟨kinds, hrecords, hcount, hnone⟩ := hcreates hrun
      refine ⟨kinds, hrecords, hcount, iff_of_false hnone ?_, fun hmem => absurd hmem hnone⟩
      rintro ⟨other, ⟨hother, hlive⟩, -⟩
      exact hended (honly hother ▸ hlive)

/-- The survivor of a repair is the one that is selected. -/
theorem repaired_eq {repaired : SessionLineage} {first second : SessionGeneration}
    {rest : List SessionGeneration}
    (hactive : activeGenerations db lineage.id = first :: second :: rest)
    (hrun : repairDuplicateActiveGenerations env db lineage = .ok (repaired, db')) :
    repaired = { lineage with
      activeGenerationId :=
        some (selectActiveGenerationSurvivor first (second :: rest) lineage).id } := by
  simp only [repairDuplicateActiveGenerations, hactive, bind_eq_ok_iff, pure_eq_ok_iff,
    Prod.mk.injEq] at hrun
  obtain ⟨final, -, rfl, -⟩ := hrun
  rfl

theorem refusal_of_sameHistory {generationId : Text} {repaired : SessionLineage}
    (hsame : SameHistory generationId db db')
    (hscope : repaired.sessionReuseScope = lineage.sessionReuseScope) :
    refusal db' repaired input generation = refusal db lineage input generation := by
  have hfailures (kind : AgentExecution → AgentExecutionRuntimeFacts → Bool) :
      hasFailedExecution db' generation.id kind = hasFailedExecution db generation.id kind := by
    rw [hasFailedExecution, hsame.executions, hsame.runtimeFacts, hasFailedExecution]
  simp only [refusal, hfailures]
  rw [hscope]

/-- The live generation that a call decides on after the repair. -/
theorem activeFor_iff {found fixed : Store} {repaired : SessionLineage}
    {active : SessionGeneration} (hlineage : lineage = lineageFor env db input)
    (hrow : found.lineages.find lineage.id = some lineage) (hsame : SameSessions db found)
    (hfixed : repairDuplicateActiveGenerations env found lineage = .ok (repaired, fixed)) :
    (findActiveGeneration fixed repaired.id = some active ∧ active.status = .active) ↔
      activeFor env db input = some active := by
  have hactives : activeGenerations db lineage.id = activeGenerations found lineage.id := by
    rw [activeGenerations, listGenerationsForLineage, generationsOf, ← hsame.generations]
    rfl
  rw [activeFor, ← hlineage]
  rcases repairDuplicateActiveGenerations_cases hrow hfixed with
    ⟨hfew, rfl, rfl⟩ | ⟨hmany, survivor, hrepaired, hpointed, -, hsurvivor, hstays, -, -⟩
  · rw [findActiveGeneration_eq hrow, hsame.generations]
    rw [← hactives] at hfew
    split
    · rename_i hlist
      rw [hlist, List.length_cons, List.length_cons] at hfew
      omega
    · rw [Option.filter_eq_some_iff, decide_eq_true_eq]
  · -- the lineage names the survivor, which is the selected generation
    rw [← hactives] at hmany
    cases hlist : activeGenerations db lineage.id with
    | nil =>
        rw [hlist] at hmany
        simp at hmany
    | cons first rest =>
        cases rest with
        | nil =>
            rw [hlist] at hmany
            simp at hmany
        | cons second rest =>
            have hselected := repaired_eq (hactives ▸ hlist) hfixed
            set selected := selectActiveGenerationSurvivor first (second :: rest) lineage
            have hmem : selected ∈ activeGenerations found lineage.id := by
              rw [← hactives, hlist]
              exact selectActiveGenerationSurvivor_mem _ _ _
            have hlive := mem_activeGenerations_iff.1 hmem
            have hid : survivor.id = selected.id := by
              rw [hrepaired] at hselected
              exact Option.some.inj (congrArg SessionLineage.activeGenerationId hselected)
            have hsurvives := ((hstays lineage.id survivor).2 ⟨hsurvivor, fun _ => rfl⟩).stored
            have hfound := hlive.stored
            rw [← hid, hsurvivor.stored] at hfound
            have hrepairedId : repaired.id = lineage.id := by rw [hrepaired]
            rw [findActiveGeneration_eq (hrepairedId ▸ hpointed), hrepaired,
              Option.bind_some, hsurvives, hfound]
            refine and_iff_left_of_imp fun hsame => ?_
            rw [← Option.some.inj hsame]
            exact hlive.status

/-- A call records at most one compaction, and records one exactly when it finds a
generation used up; then it retires the generation and does not give the lineage up. -/
theorem ensurePolicy_records {decision : SessionPolicyDecision}
    (hrun : ensurePolicy env db input = .ok (decision, db')) :
    ∃ kinds, Records db db' (lineageFor env db input).id kinds ∧
      kinds.count .compacted ≤ 1 ∧
      (.compacted ∈ kinds ↔ ∃ generationId, FindsUsedUp env db input generationId) ∧
      (.compacted ∈ kinds → .budgetExceeded ∉ kinds ∧
        ∀ generationId, FindsUsedUp env db input generationId →
          Retired db' generationId) := by
  obtain ⟨lineage, found, repaired, fixed, hfound, hfixed, hdecide⟩ :=
    ensurePolicy_eq_ok_iff.1 hrun
  obtain ⟨hlineage, -, -, hrow, hsame, -⟩ := findOrInsertLineage_cases hfound
  obtain ⟨repairKinds, hrepair, hinvalidated⟩ :=
    repairDuplicateActiveGenerations_records hfixed
  obtain ⟨kinds, hrecords, hcount, hdue, hcompacts⟩ := decideGeneration_records hdecide
  have hnone {kind : SessionEventType} (hkind : kind ≠ .invalidated) :
      kind ∉ repairKinds := fun hmem => hkind (hinvalidated kind hmem)
  have hrepaired : repaired.id = lineage.id ∧
      repaired.sessionReuseScope = lineage.sessionReuseScope ∧
      ∀ id, SameHistory id found fixed := by
    rcases repairDuplicateActiveGenerations_cases hrow hfixed with
      ⟨-, rfl, rfl⟩ | ⟨-, survivor, rfl, -, -, -, -, -, hhistory⟩
    · exact ⟨rfl, rfl, fun id => .refl id _⟩
    · exact ⟨rfl, rfl, hhistory⟩
  obtain ⟨hid, hscope, hhistory⟩ := hrepaired
  rw [hid] at hrecords
  have hwhole (id : Text) : SameHistory id db fixed := by
    refine SameHistory.trans ⟨hsame.executions, hsame.runtimeFacts, ?_⟩ (hhistory id)
    rw [countGenerationEvents, hsame.events, countGenerationEvents]
  have hasked (active : SessionGeneration) :
      CompactionDue env fixed repaired input active ↔
        refusal db lineage input active = none ∧
          ReachesCompaction (budgetSignalsFromGeneration db (env.now .idleAge) active) {} := by
    rw [CompactionDue, refusal_of_sameHistory (hwhole active.id) hscope,
      budgetDecision_of_sameHistory (hwhole active.id), budgetDecision, evaluate_compact_iff]
  have hmem : .compacted ∈ repairKinds ++ kinds ↔ .compacted ∈ kinds := by
    rw [List.mem_append, or_iff_right (hnone (by decide))]
  rw [← hlineage]
  refine ⟨repairKinds ++ kinds, ?_, ?_, ?_, fun hcompacted => ⟨?_, ?_⟩⟩
  · exact ((records_of_events_eq hsame.events).trans hrepair).trans hrecords
  · rwa [List.count_append, List.count_eq_zero.2 (hnone (by decide)), zero_add]
  · rw [hmem, hdue]
    constructor
    · rintro ⟨active, hnamed, hasks⟩
      exact ⟨active.id, active, (activeFor_iff hlineage hrow hsame hfixed).1 hnamed, rfl,
        hlineage ▸ (hasked active).1 hasks⟩
    · rintro ⟨generationId, active, hactive, -, hfinds⟩
      exact ⟨active, (activeFor_iff hlineage hrow hsame hfixed).2 hactive,
        (hasked active).2 (hlineage ▸ hfinds)⟩
  · rw [List.mem_append, not_or]
    exact ⟨hnone (by decide), (hcompacts (hmem.1 hcompacted)).1⟩
  · rintro generationId ⟨active, hactive, rfl, -⟩
    exact (hcompacts (hmem.1 hcompacted)).2 active
      ((activeFor_iff hlineage hrow hsame hfixed).2 hactive).1

end ChainworksForge.Session
