import ChainworksForge.Session.Records
import ChainworksForge.Support.Runs

/-!
# Repeated compactions

A compaction closes the generation of a lineage and opens the next one.  The budget
gives a lineage up after three compactions, but it counts the compactions of the
generation that it looks at, and a generation is compacted once at most: the bounds
that ask for a compaction are never overruled.

So what bounds the compactions of a lineage is only how many of its generations the
turns use up.  Decisions and reports follow each other in a run, with arbitrary
arguments.
-/

namespace ChainworksForge.Session

open ChainworksForge.Support

/-! ## Runs -/

/-- The usage that a turn reports for a generation. -/
structure UsageReport where
  providerSessionId : Text
  turnCount : ℤ
  promptTokensIncrement : ℤ
  costCentsIncrement : ℤ
  estimatedInputTokens : ℤ
  latestCachedInputTokens : Option ℤ
  latestOutputTokens : Option ℤ
  latestModelContextWindow : Option ℤ
  lastActivityAt : ℤ

def updateGenerationUsage (db : Store) (generationId : Text) (report : UsageReport) : Store :=
  { db with
    generations := db.generations.update (fun row => row.id = generationId) fun row =>
      { row with
        providerSessionId := some report.providerSessionId
        turnCount := report.turnCount
        estimatedInputTokens := report.estimatedInputTokens
        latestCachedInputTokens := report.latestCachedInputTokens
        latestOutputTokens := report.latestOutputTokens
        latestModelContextWindow := report.latestModelContextWindow
        cumulativePromptTokens := row.cumulativePromptTokens + report.promptTokensIncrement
        cumulativeCostCents := row.cumulativeCostCents + report.costCentsIncrement
        lastActivityAt := some report.lastActivityAt } }

def updateGenerationRuntimeSession (db : Store) (generationId providerSessionId : Text)
    (turnCount : ℤ) : Store :=
  { db with
    generations := db.generations.update (fun row => row.id = generationId) fun row =>
      { row with
        providerSessionId := some providerSessionId
        turnCount := max row.turnCount turnCount } }

def touchGenerationActivity (db : Store) (generationId : Text) (lastActivityAt : ℤ) :
    Store :=
  { db with
    generations := db.generations.update
      (fun row => row.id = generationId ∧ row.status = .active) fun row =>
        { row with lastActivityAt := some lastActivityAt } }

inductive PolicyEvent where
  | ensure (env : Environment) (input : SessionPolicyInput)
  | usage (generationId : Text) (report : UsageReport)
  | runtimeSession (generationId providerSessionId : Text) (turnCount : ℤ)
  | activity (generationId : Text) (lastActivityAt : ℤ)

/-- The store after an event; a failed decision is rolled back. -/
def policyStep (db : Store) : PolicyEvent → Store
  | .ensure env input =>
      match ensurePolicy env db input with
      | .ok (_, changed) => changed
      | .error _ => db
  | .usage generationId report => updateGenerationUsage db generationId report
  | .runtimeSession generationId providerSessionId turnCount =>
      updateGenerationRuntimeSession db generationId providerSessionId turnCount
  | .activity generationId lastActivityAt =>
      touchGenerationActivity db generationId lastActivityAt

/-- The compactions after the last decision of the budget to invalidate. -/
def churnOf (kinds : List SessionEventType) : ℕ :=
  kinds.foldl (fun count kind =>
    if kind = .compacted then count + 1 else if kind = .budgetExceeded then 0 else count) 0

/-- What was recorded for a lineage since a store, in the order of the records. -/
def recordedSince (start db : Store) (lineageId : Text) : List SessionEventType :=
  ((db.events.rows.drop start.events.rows.length).filter fun event =>
    event.lineageId = lineageId).map SessionEvent.eventType

/-! ## Used-up generations -/

/-- A decision that commits finds a generation of the lineage used up. -/
def UsesUp (db : Store) (event : PolicyEvent) (lineageId generationId : Text) : Prop :=
  ∃ env input, event = .ensure env input ∧ (ensurePolicy env db input).isOk = true ∧
    (lineageFor env db input).id = lineageId ∧ FindsUsedUp env db input generationId

/-- A decision among the events that follow a store finds the generation used up. -/
def UsedUpDuring (db : Store) (events : List PolicyEvent) (lineageId generationId : Text) :
    Prop :=
  ∃ before event after, events = before ++ event :: after ∧
    UsesUp (runFrom policyStep db before) event lineageId generationId

/-- In every stretch of a run in which the budget does not give a lineage up, the
decisions on the lineage find at most three of its generations used up. -/
def UsesUpThree (start : Store) (events : List PolicyEvent) : Prop :=
  ∀ before middle after lineageId, events = before ++ middle ++ after →
    .budgetExceeded ∉ recordedSince (runFrom policyStep start before)
      (runFrom policyStep start (before ++ middle)) lineageId →
    ∃ generationIds : List Text, generationIds.length ≤ 3 ∧
      ∀ generationId, UsedUpDuring (runFrom policyStep start before) middle lineageId
        generationId → generationId ∈ generationIds

variable {db db' start : Store} {event : PolicyEvent}
  {lineageId generationId otherId : Text}

/-- A decision finds one generation used up at most. -/
theorem UsesUp.unique (h : UsesUp db event lineageId generationId)
    (h' : UsesUp db event lineageId otherId) : otherId = generationId := by
  obtain ⟨env, input, rfl, -, -, active, hactive, rfl, -⟩ := h
  obtain ⟨env', input', hsame, -, -, other, hother, rfl, -⟩ := h'
  obtain ⟨rfl, rfl⟩ := PolicyEvent.ensure.inj hsame
  rw [hactive] at hother
  rw [Option.some.inj hother]

/-- A generation that is found used up is live. -/
theorem UsesUp.not_retired (h : UsesUp db event lineageId generationId) :
    ¬Retired db generationId := by
  obtain ⟨env, input, -, -, -, active, hactive, rfl, -⟩ := h
  obtain ⟨hstored, hlive⟩ := activeFor_live hactive
  rintro ⟨row, hrow, hended⟩
  rw [hstored] at hrow
  obtain rfl := Option.some.inj hrow
  exact hended hlive

theorem usedUpDuring_concat_iff {events : List PolicyEvent} :
    UsedUpDuring db (events ++ [event]) lineageId generationId ↔
      UsedUpDuring db events lineageId generationId ∨
        UsesUp (runFrom policyStep db events) event lineageId generationId := by
  constructor
  · rintro ⟨before, used, after, hevents, huses⟩
    rcases List.eq_nil_or_concat after with rfl | ⟨later, last, rfl⟩
    · obtain ⟨rfl, hlast⟩ := List.append_inj' hevents rfl
      obtain rfl := List.singleton_inj.1 hlast
      exact .inr huses
    · rw [List.concat_eq_append, ← List.cons_append, ← List.append_assoc] at hevents
      obtain ⟨rfl, -⟩ := List.append_inj' hevents rfl
      exact .inl ⟨before, used, later, rfl, huses⟩
  · rintro (⟨before, used, after, rfl, huses⟩ | huses)
    · exact ⟨before, used, after ++ [event], by simp, huses⟩
    · exact ⟨events, event, [], rfl, huses⟩

/-- No event brings a retired generation back to life. -/
theorem policyStep_retired (event : PolicyEvent)
    (hretired : Retired db generationId) : Retired (policyStep db event) generationId := by
  obtain ⟨row, hrow, hended⟩ := hretired
  -- a report leaves the states of the generations alone
  cases event with
  | usage reportedId report =>
      rw [policyStep, Retired, updateGenerationUsage, Table.find_update, hrow,
        Option.map_some]
      refine ⟨_, rfl, ?_⟩
      split <;> exact hended
  | runtimeSession reportedId providerSessionId turnCount =>
      rw [policyStep, Retired, updateGenerationRuntimeSession, Table.find_update, hrow,
        Option.map_some]
      refine ⟨_, rfl, ?_⟩
      split <;> exact hended
  | activity reportedId lastActivityAt =>
      rw [policyStep, Retired, touchGenerationActivity, Table.find_update, hrow,
        Option.map_some]
      refine ⟨_, rfl, ?_⟩
      split <;> exact hended
  | ensure env input =>
      cases hrun : ensurePolicy env db input with
      | error message =>
          rw [policyStep, hrun]
          exact ⟨row, hrow, hended⟩
      | ok result =>
          rw [policyStep, hrun]
          exact ensurePolicy_retired hrun ⟨row, hrow, hended⟩

/-- What an event records: one compaction at most, and one exactly where it finds a
generation used up, which it retires; then it does not give the lineage up. -/
structure StepRecords (db : Store) (event : PolicyEvent) (lineageId : Text)
    (kinds : List SessionEventType) : Prop where
  records : Records db (policyStep db event) lineageId kinds
  once : kinds.count .compacted ≤ 1
  compacts_iff : .compacted ∈ kinds ↔ ∃ generationId, UsesUp db event lineageId generationId
  own : ∀ otherId generationId, UsesUp db event otherId generationId → otherId = lineageId
  retires : ∀ generationId, UsesUp db event lineageId generationId →
    Retired (policyStep db event) generationId
  kept : .compacted ∈ kinds → .budgetExceeded ∉ kinds

/-- An event that uses nothing up and records nothing. -/
theorem stepRecords_of_events_eq (hevents : (policyStep db event).events = db.events)
    (hnone : ∀ lineageId generationId, ¬UsesUp db event lineageId generationId)
    (lineageId : Text) : StepRecords db event lineageId [] where
  records := records_of_events_eq hevents
  once := Nat.zero_le 1
  compacts_iff := iff_of_false List.not_mem_nil fun ⟨_, huses⟩ => hnone _ _ huses
  own otherId generationId huses := absurd huses (hnone otherId generationId)
  retires generationId huses := absurd huses (hnone lineageId generationId)
  kept hmem := absurd hmem List.not_mem_nil

theorem policyStep_records (db : Store) (event : PolicyEvent) :
    ∃ lineageId kinds, StepRecords db event lineageId kinds := by
  cases event with
  | usage reportedId report =>
      refine ⟨[], [], stepRecords_of_events_eq rfl ?_ []⟩
      rintro lineageId generationId ⟨env, input, hsame, -⟩
      cases hsame
  | runtimeSession reportedId providerSessionId turnCount =>
      refine ⟨[], [], stepRecords_of_events_eq rfl ?_ []⟩
      rintro lineageId generationId ⟨env, input, hsame, -⟩
      cases hsame
  | activity reportedId lastActivityAt =>
      refine ⟨[], [], stepRecords_of_events_eq rfl ?_ []⟩
      rintro lineageId generationId ⟨env, input, hsame, -⟩
      cases hsame
  | ensure env input =>
      cases hrun : ensurePolicy env db input with
      | error message =>
          -- a failed decision is rolled back
          refine ⟨[], [], stepRecords_of_events_eq (by rw [policyStep, hrun]) ?_ []⟩
          rintro lineageId generationId ⟨env', input', hsame, hcommits, -⟩
          obtain ⟨rfl, rfl⟩ := PolicyEvent.ensure.inj hsame
          rw [hrun] at hcommits
          cases hcommits
      | ok result =>
          have hchanged : policyStep db (.ensure env input) = result.2 := by
            rw [policyStep, hrun]
          have huses (lineageId generationId : Text) :
              UsesUp db (.ensure env input) lineageId generationId ↔
                (lineageFor env db input).id = lineageId ∧
                  FindsUsedUp env db input generationId := by
            constructor
            · rintro ⟨env', input', hsame, -, hfor, hfinds⟩
              obtain ⟨rfl, rfl⟩ := PolicyEvent.ensure.inj hsame
              exact ⟨hfor, hfinds⟩
            · rintro ⟨hfor, hfinds⟩
              exact ⟨env, input, rfl, by rw [hrun]; rfl, hfor, hfinds⟩
          obtain ⟨kinds, hrecords, hcount, hfinds, hcompacts⟩ := ensurePolicy_records hrun
          have hiff : .compacted ∈ kinds ↔ ∃ generationId,
              UsesUp db (.ensure env input) (lineageFor env db input).id generationId := by
            simp only [hfinds, huses, true_and]
          refine ⟨_, kinds, hchanged ▸ hrecords, hcount, hiff, fun otherId id hused => ?_,
            fun id hused => ?_, fun hmem => (hcompacts hmem).1⟩
          · exact ((huses otherId id).1 hused).1.symm
          · rw [hchanged]
            exact (hcompacts (hiff.2 ⟨id, hused⟩)).2 id ((huses _ id).1 hused).2

/-! ## Runs of decisions -/

theorem churnOf_append {kinds later : List SessionEventType}
    (hkept : .budgetExceeded ∉ later) :
    churnOf (kinds ++ later) = churnOf kinds + later.count .compacted := by
  rw [churnOf, List.foldl_append, ← churnOf]
  generalize churnOf kinds = count
  induction later generalizing count with
  | nil => rfl
  | cons kind later ih =>
      rw [List.mem_cons, not_or] at hkept
      rw [List.foldl_cons, ih hkept.2, List.count_cons]
      by_cases hcompacted : kind = .compacted
      · rw [if_pos hcompacted, hcompacted, beq_self_eq_true, if_pos rfl]
        omega
      · rw [if_neg hcompacted, if_neg (Ne.symm hkept.1), beq_eq_false_iff_ne.2 hcompacted,
          if_neg Bool.false_ne_true, add_zero]

/-- Where the lineage is given up and not compacted, the count starts again. -/
theorem churnOf_append_of_given_up {kinds later : List SessionEventType}
    (hgiven : .budgetExceeded ∈ later) (hnone : .compacted ∉ later) :
    churnOf (kinds ++ later) = 0 := by
  rw [churnOf, List.foldl_append, ← churnOf]
  generalize churnOf kinds = count
  induction later generalizing count with
  | nil => exact absurd hgiven List.not_mem_nil
  | cons kind later ih =>
      rw [List.mem_cons, not_or] at hnone
      rw [List.foldl_cons, if_neg (Ne.symm hnone.1)]
      by_cases hlater : .budgetExceeded ∈ later
      · exact ih hlater hnone.2 _
      · have hkind : kind = .budgetExceeded :=
          ((List.mem_cons.1 hgiven).resolve_right hlater).symm
        have hrest : churnOf ([] ++ later) = churnOf [] + later.count .compacted :=
          churnOf_append hlater
        rw [List.count_eq_zero.2 hnone.2] at hrest
        rw [if_pos hkind]
        exact hrest

/-- A run only adds events. -/
def Extends (start db : Store) : Prop := start.events.rows <+: db.events.rows

/-- What a call records is added to what its lineage has recorded, and nothing to the
others. -/
theorem recordedSince_of_records {kinds : List SessionEventType}
    (hextends : Extends start db) (hrecords : Records db db' lineageId kinds)
    (otherId : Text) :
    recordedSince start db' otherId =
      recordedSince start db otherId ++ if lineageId = otherId then kinds else [] := by
  obtain ⟨events, hrows, hlineage, rfl⟩ := hrecords
  rw [recordedSince, hrows, List.drop_append_of_le_length hextends.length_le,
    List.filter_append, List.map_append, recordedSince]
  congr 1
  split
  · rename_i hsame
    rw [List.filter_eq_self.2]
    intro event hevent
    exact decide_eq_true ((hlineage event hevent).trans hsame)
  · rename_i hother
    rw [List.filter_eq_nil_iff.2]
    · rfl
    · intro event hevent hsame
      exact hother ((hlineage event hevent).symm.trans (of_decide_eq_true hsame))

theorem recordedSince_self (start : Store) (lineageId : Text) :
    recordedSince start start lineageId = [] := by
  rw [recordedSince, List.drop_length]
  rfl

theorem recordedSince_trans (hfirst : Extends start db) (hsecond : Extends db db')
    (lineageId : Text) :
    recordedSince start db' lineageId =
      recordedSince start db lineageId ++ recordedSince db db' lineageId := by
  obtain ⟨added, hadded⟩ := hsecond
  rw [recordedSince, recordedSince, recordedSince, ← hadded, List.drop_left,
    List.drop_append_of_le_length hfirst.length_le, List.filter_append, List.map_append]

theorem extends_runFrom (start : Store) (events : List PolicyEvent) :
    Extends start (runFrom policyStep start events) := by
  refine runFrom_related policyStep (R := Extends) (fun _ => List.prefix_rfl)
    (fun hfirst hsecond => hfirst.trans hsecond) (fun db event => ?_) start events
  obtain ⟨lineageId, kinds, hstep⟩ := policyStep_records db event
  obtain ⟨added, hrows, -⟩ := hstep.records
  exact ⟨added, hrows.symm⟩

/-- The compactions of a lineage since the budget last gave it up are traced to that
many different generations, each found used up since then. -/
def Traced (start : Store) (events : List PolicyEvent) (lineageId : Text) : Prop :=
  ∃ (before middle : List PolicyEvent) (generationIds : List Text),
    events = before ++ middle ∧
    .budgetExceeded ∉ recordedSince (runFrom policyStep start before)
      (runFrom policyStep start events) lineageId ∧
    churnOf (recordedSince start (runFrom policyStep start events) lineageId) ≤
      generationIds.length ∧
    generationIds.Nodup ∧
    ∀ generationId ∈ generationIds,
      UsedUpDuring (runFrom policyStep start before) middle lineageId generationId ∧
        Retired (runFrom policyStep start events) generationId

theorem Traced.concat {events : List PolicyEvent} (htraced : Traced start events lineageId)
    (event : PolicyEvent) : Traced start (events ++ [event]) lineageId := by
  obtain ⟨before, middle, generationIds, rfl, hkept, hchurn, hnodup, hused⟩ := htraced
  set db := runFrom policyStep start (before ++ middle)
  have hreached : db = runFrom policyStep (runFrom policyStep start before) middle :=
    runFrom_append policyStep start before middle
  have hnext : runFrom policyStep start ((before ++ middle) ++ [event]) =
      policyStep db event := runFrom_concat policyStep start _ event
  obtain ⟨recordedId, kinds, hstep⟩ := policyStep_records db event
  have hsince := recordedSince_of_records
    (hreached ▸ extends_runFrom (runFrom policyStep start before) middle) hstep.records
    lineageId
  have hall := recordedSince_of_records (extends_runFrom start (before ++ middle))
    hstep.records lineageId
  have hlater : ∀ generationId ∈ generationIds,
      UsedUpDuring (runFrom policyStep start before) (middle ++ [event]) lineageId
          generationId ∧ Retired (policyStep db event) generationId :=
    fun generationId hmem => ⟨usedUpDuring_concat_iff.2 (.inl (hused generationId hmem).1),
      policyStep_retired event (hused generationId hmem).2⟩
  by_cases hlineage : recordedId = lineageId
  · subst hlineage
    rw [if_pos rfl] at hsince hall
    by_cases hgiven : .budgetExceeded ∈ kinds
    · -- the lineage is given up, and a new stretch begins
      refine ⟨(before ++ middle) ++ [event], [], [], (List.append_nil _).symm, ?_, ?_,
        List.nodup_nil, by simp⟩
      · rw [recordedSince_self]
        exact List.not_mem_nil
      · rw [hnext, hall,
          churnOf_append_of_given_up hgiven fun hmem => hstep.kept hmem hgiven]
        exact Nat.zero_le _
    · have hstays : .budgetExceeded ∉ recordedSince (runFrom policyStep start before)
          (policyStep db event) recordedId := by
        rw [hsince, List.mem_append, not_or]
        exact ⟨hkept, hgiven⟩
      by_cases hcompacted : .compacted ∈ kinds
      · -- a generation that was live until now is compacted
        obtain ⟨generationId, huses⟩ := hstep.compacts_iff.1 hcompacted
        refine ⟨before, middle ++ [event], generationId :: generationIds,
          List.append_assoc _ _ _, hnext ▸ hstays, ?_, ?_, ?_⟩
        · rw [hnext, hall, churnOf_append hgiven, List.length_cons]
          exact Nat.add_le_add hchurn hstep.once
        · exact List.nodup_cons.2
            ⟨fun hmem => huses.not_retired (hused generationId hmem).2, hnodup⟩
        · rw [hnext, List.forall_mem_cons]
          exact ⟨⟨usedUpDuring_concat_iff.2 (.inr (hreached ▸ huses)),
            hstep.retires generationId huses⟩, hlater⟩
      · refine ⟨before, middle ++ [event], generationIds, List.append_assoc _ _ _,
          hnext ▸ hstays, ?_, hnodup, hnext ▸ hlater⟩
        rw [hnext, hall, churnOf_append hgiven, List.count_eq_zero.2 hcompacted]
        exact hchurn
  · rw [if_neg hlineage, List.append_nil] at hsince hall
    refine ⟨before, middle ++ [event], generationIds, List.append_assoc _ _ _, ?_, ?_,
      hnodup, hnext ▸ hlater⟩
    · rw [hnext, hsince]
      exact hkept
    · rw [hnext, hall]
      exact hchurn

theorem traced (start : Store) (events : List PolicyEvent) (lineageId : Text) :
    Traced start events lineageId := by
  induction events using List.reverseRecOn with
  | nil =>
      refine ⟨[], [], [], rfl, ?_, ?_, List.nodup_nil, by simp⟩
      · rw [recordedSince_self]
        exact List.not_mem_nil
      · rw [runFrom_nil, recordedSince_self]
        exact Nat.zero_le _
  | append_singleton events event ih => exact ih.concat event

/-- Every generation that is found used up has a compaction of its own. -/
theorem usedUp_le_compactions (db : Store) (events : List PolicyEvent) (lineageId : Text) :
    ∃ generationIds : List Text,
      generationIds.length ≤
        (recordedSince db (runFrom policyStep db events) lineageId).count .compacted ∧
      ∀ generationId, UsedUpDuring db events lineageId generationId →
        generationId ∈ generationIds := by
  induction events using List.reverseRecOn with
  | nil =>
      refine ⟨[], Nat.zero_le _, ?_⟩
      rintro generationId ⟨before, event, after, hevents, -⟩
      simp at hevents
  | append_singleton events event ih =>
      obtain ⟨generationIds, hlength, hfound⟩ := ih
      obtain ⟨recordedId, kinds, hstep⟩ :=
        policyStep_records (runFrom policyStep db events) event
      rw [runFrom_concat,
        recordedSince_of_records (extends_runFrom db events) hstep.records, List.count_append]
      by_cases huses : ∃ generationId,
          UsesUp (runFrom policyStep db events) event lineageId generationId
      · obtain ⟨generationId, huses⟩ := huses
        obtain rfl := hstep.own lineageId generationId huses
        have hcompacted := List.count_pos_iff.2 (hstep.compacts_iff.2 ⟨generationId, huses⟩)
        refine ⟨generationId :: generationIds, ?_, fun otherId hother => ?_⟩
        · rw [if_pos rfl, List.length_cons]
          exact Nat.add_le_add hlength hcompacted
        · rcases usedUpDuring_concat_iff.1 hother with hbefore | hnow
          · exact List.mem_cons_of_mem _ (hfound otherId hbefore)
          · exact huses.unique hnow ▸ List.mem_cons_self
      · refine ⟨generationIds, hlength.trans (Nat.le_add_right _ _), fun otherId hother => ?_⟩
        rcases usedUpDuring_concat_iff.1 hother with hbefore | hnow
        · exact hfound otherId hbefore
        · exact absurd ⟨otherId, hnow⟩ huses

/-- An environment whose draws are told apart by a call as well. -/
def callEnvironment (call : Text) : Environment :=
  { sampleEnvironment with uuid := fun draw => call ++ sampleEnvironment.uuid draw }

/-- A turn reports twenty turns of a generation, and the next decision follows. -/
def churningEvents (generationId call : Text) : List PolicyEvent :=
  [.runtimeSession generationId "session".toList 20,
    .ensure (callEnvironment call) sampleInput]

/-- Four rounds: each reports the turns of the generation that the round before it
created. -/
def churningRun : List PolicyEvent :=
  churningEvents sampleGeneration.id "a".toList ++
    churningEvents "ageneration-2".toList "b".toList ++
    churningEvents "bgeneration-2".toList "c".toList ++
    churningEvents "cgeneration-2".toList "d".toList

/-- A run whose decisions find no other generations used up than three. -/
theorem usesUpThree_of_runMeets {events : List PolicyEvent} (generationIds : List Text)
    (hlength : generationIds.length ≤ 3)
    (hmeets : RunMeets policyStep (fun db event => ∀ lineageId generationId,
      UsesUp db event lineageId generationId → generationId ∈ generationIds) start events) :
    UsesUpThree start events := by
  rintro before middle after lineageId rfl -
  refine ⟨generationIds, hlength, ?_⟩
  rintro generationId ⟨earlier, event, later, rfl, huses⟩
  rw [List.append_assoc, runMeets_append, List.append_assoc, runMeets_append] at hmeets
  exact hmeets.2.2.1 lineageId generationId huses

end ChainworksForge.Session
