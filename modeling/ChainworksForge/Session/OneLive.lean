import ChainworksForge.Session.PolicyEffects

/-!
# One live generation per lineage

After a call of the policy the lineage should have one live generation, the one
its active pointer names.  The repair looks at lineages with several live
generations only: a single live generation that the pointer does not name is
passed over, and the call creates a second one beside it.
-/

namespace ChainworksForge.Session

open ChainworksForge.Support

variable {env : Environment} {db db' : Store} {lineage : SessionLineage}
  {generation : SessionGeneration} {input : SessionPolicyInput}
  {decision : SessionPolicyDecision}

/-- The decided generation is live, the lineage names it and it is the only live
generation of the lineage. -/
structure OneLiveGeneration (db : Store) (decision : SessionPolicyDecision) : Prop where
  named : (db.lineages.find decision.lineage.id).bind SessionLineage.activeGenerationId =
    some decision.generation.id
  live : IsLive db decision.lineage.id decision.generation
  only : ∀ generation, IsLive db decision.lineage.id generation →
    generation.id = decision.generation.id

/-- Every live generation of the lineage is the one its pointer names, and a live
generation of another lineage that the pointer names is not used again. -/
def PointerCoversLive (env : Environment) (db : Store) (lineage : SessionLineage)
    (input : SessionPolicyInput) : Prop :=
  (∀ generation ∈ activeGenerations db lineage.id,
    lineage.activeGenerationId = some generation.id) ∧
  ∀ generation, lineage.activeGenerationId.bind db.generations.find = some generation →
    generation.status = .active → Reusable env db lineage input generation →
    generation.lineageId = lineage.id

/-- The states of a lineage's rows from which a call leaves one live generation. -/
def Recoverable (env : Environment) (db : Store) (input : SessionPolicyInput) : Prop :=
  2 ≤ (activeGenerations db (lineageFor env db input).id).length ∨
    PointerCoversLive env db (lineageFor env db input) input

/-! ## The decision -/

theorem findActiveGeneration_eq (hrow : db.lineages.find lineage.id = some lineage) :
    findActiveGeneration db lineage.id =
      lineage.activeGenerationId.bind db.generations.find := by
  rw [findActiveGeneration, hrow]
  rfl

/-- A creation leaves one live generation exactly if there was none. -/
theorem oneLiveGeneration_create_iff {disposition : SessionReuseDisposition}
    {resetReason checkpoint : Option Text}
    (hrow : db.lineages.find lineage.id = some lineage)
    (hrun : createGeneration env db lineage input disposition resetReason checkpoint =
      .ok (decision, db')) :
    OneLiveGeneration db' decision ↔ ∀ generation, ¬IsLive db lineage.id generation := by
  have hlive := isLive_createGeneration_iff hrun
  obtain ⟨hdecision, ⟨hfree, -⟩, hlineages⟩ := createGeneration_cases hrun
  have hlineage : decision.lineage = lineage := by rw [hdecision]
  have hid : decision.generation.id = env.uuid .generation := by
    rw [hdecision]
    rfl
  constructor
  · intro hone generation hold
    have hsame := hone.only generation (hlineage ▸ (hlive generation).2 (.inr hold))
    have hstored := hold.stored
    rw [hsame, hid, hfree] at hstored
    cases hstored
  · intro hnone
    refine ⟨?_, ?_, ?_⟩
    · rw [hlineage, hlineages, find_setActiveGeneration hrow, if_pos rfl, hid]
      rfl
    · rw [hlineage]
      exact (hlive _).2 (.inl rfl)
    · intro generation hother
      rw [hlineage] at hother
      rcases (hlive generation).1 hother with rfl | hold
      · rfl
      · exact absurd hold (hnone generation)

theorem oneLiveGeneration_close_iff {generationId : Text} :
    OneLiveGeneration db (decision.withGenerationToClose generationId) ↔
      OneLiveGeneration db decision := by
  constructor
  · rintro ⟨hnamed, hlive, honly⟩
    exact ⟨hnamed, hlive, honly⟩
  · rintro ⟨hnamed, hlive, honly⟩
    exact ⟨hnamed, hlive, honly⟩

theorem Decides.oneLiveGeneration_iff
    (hrow : db.lineages.find lineage.id = some lineage)
    (hdecides : Decides env db lineage input decision db') :
    OneLiveGeneration db' decision ↔ PointerCoversLive env db lineage input := by
  have hpointer := findActiveGeneration_eq hrow
  cases hdecides with
  | reuse named live reusable lineages generations =>
      rename_i active
      have hnamed := hpointer ▸ named
      obtain ⟨id, hid, hstored⟩ := Option.bind_eq_some_iff.1 hnamed
      have hactive : active.id = id := (db.generations.find_eq_some_iff.1 hstored).2
      subst hactive
      have hlive {lineageId : Text} {generation : SessionGeneration} :
          IsLive db' lineageId generation ↔ IsLive db lineageId generation :=
        isLive_of_generations generations
      constructor
      · rintro ⟨-, hone, honly⟩
        refine ⟨fun generation hmem => ?_, fun generation hsome _ _ => ?_⟩
        · have hmem := mem_activeGenerations_iff.1 hmem
          rw [hid, honly generation (hlive.2 hmem)]
        · rw [hnamed] at hsome
          obtain rfl := Option.some.inj hsome
          exact hone.lineageId
      · rintro ⟨hcovers, hown⟩
        refine ⟨?_, hlive.2 ⟨hstored, hown active hnamed live reusable, live⟩, ?_⟩
        · rw [lineages, hrow]
          exact hid
        · intro generation hother
          have hsame := hcovers generation
            (mem_activeGenerations_iff.2 (hlive.1 hother))
          rw [hid] at hsame
          exact (Option.some.inj hsame).symm
  | replace named live unusable lineages notActive generations created =>
      rename_i active ended _ _ _ _ _ _ decision
      have hnamed := hpointer ▸ named
      obtain ⟨id, hid, hstored⟩ := Option.bind_eq_some_iff.1 hnamed
      have hactive : active.id = id := (db.generations.find_eq_some_iff.1 hstored).2
      subst hactive
      have hrow' : ended.lineages.find lineage.id = some lineage := lineages ▸ hrow
      rw [oneLiveGeneration_close_iff, oneLiveGeneration_create_iff hrow' created]
      constructor
      · intro hnone
        refine ⟨fun generation hmem => ?_, fun generation hsome _ hreusable => ?_⟩
        · by_contra hother
          refine hnone generation ((isLive_endGeneration_iff generations notActive).2
            ⟨mem_activeGenerations_iff.1 hmem, fun hsame => hother ?_⟩)
          rw [hid, hsame]
        · rw [hnamed] at hsome
          obtain rfl := Option.some.inj hsome
          exact absurd hreusable unusable
      · rintro ⟨hcovers, -⟩ generation hlive
        obtain ⟨hold, hother⟩ := (isLive_endGeneration_iff generations notActive).1 hlive
        have hsame := hcovers generation (mem_activeGenerations_iff.2 hold)
        rw [hid] at hsame
        exact hother (Option.some.inj hsame).symm
  | create idle created =>
      rw [oneLiveGeneration_create_iff hrow created]
      constructor
      · intro hnone
        refine ⟨fun generation hmem =>
          absurd (mem_activeGenerations_iff.1 hmem) (hnone generation), ?_⟩
        intro generation hsome hlive _
        exact absurd hlive (idle generation (hpointer ▸ hsome))
      · rintro ⟨hcovers, -⟩ generation hlive
        have hnamed := hcovers generation (mem_activeGenerations_iff.2 hlive)
        refine idle generation ?_ hlive.status
        rw [hpointer, hnamed]
        exact hlive.stored

/-! ## The whole call -/

theorem pointerCoversLive_of_sameSessions (hsame : SameSessions db db') :
    PointerCoversLive env db' lineage input ↔ PointerCoversLive env db lineage input := by
  have hdb : db' = { db with lineages := db'.lineages } := by
    cases db
    cases db'
    obtain ⟨rfl, rfl, rfl, rfl⟩ := hsame
    rfl
  rw [hdb]
  exact Iff.rfl

/-- A repaired lineage names its only live generation. -/
theorem pointerCoversLive_of_survivor (survivor : SessionGeneration)
    (hnamed : lineage.activeGenerationId = some survivor.id)
    (hsurvivor : IsLive db lineage.id survivor)
    (honly : ∀ generation, IsLive db lineage.id generation →
      generation.id = survivor.id) :
    PointerCoversLive env db lineage input := by
  refine ⟨fun generation hmem => ?_, fun generation hsome _ _ => ?_⟩
  · rw [hnamed, honly generation (mem_activeGenerations_iff.1 hmem)]
  · rw [hnamed, Option.bind_some, hsurvivor.stored] at hsome
    obtain rfl := Option.some.inj hsome
    exact hsurvivor.lineageId

/-- A call leaves the decided generation as the only live one of its lineage, named
by the pointer, exactly if the lineage had several live generations before or its
pointer named the only one. -/
theorem one_live_generation_iff (env : Environment) (db : Store)
    (input : SessionPolicyInput) (decision : SessionPolicyDecision) (db' : Store)
    (hrun : ensurePolicy env db input = .ok (decision, db')) :
    OneLiveGeneration db' decision ↔ Recoverable env db input := by
  obtain ⟨lineage, found, repaired, fixed, hfound, hfixed, hdecide⟩ :=
    ensurePolicy_eq_ok_iff.1 hrun
  obtain ⟨hlineage, -, -, hrow, hsame, -⟩ := findOrInsertLineage_cases hfound
  have hactives : activeGenerations found lineage.id =
      activeGenerations db lineage.id := by
    rw [activeGenerations, listGenerationsForLineage, generationsOf, hsame.generations]
    rfl
  have hdecides := decideGeneration_decides hdecide
  rw [Recoverable, ← hlineage, ← hactives]
  rcases repairDuplicateActiveGenerations_cases hrow hfixed with
    ⟨hfew, rfl, rfl⟩ | ⟨hmany, survivor, rfl, hnamed, -, hsurvivor, hlive, -, -⟩
  · -- at most one live generation: the repair changes nothing
    rw [hdecides.oneLiveGeneration_iff hrow, pointerCoversLive_of_sameSessions hsame]
    constructor
    · exact .inr
    · rintro (hmany | hcovers)
      · omega
      · exact hcovers
  · rw [hdecides.oneLiveGeneration_iff hnamed]
    refine ⟨fun _ => .inl hmany, fun _ => ?_⟩
    refine pointerCoversLive_of_survivor survivor rfl ?_ ?_
    · exact (hlive _ _).2 ⟨hsurvivor, fun _ => rfl⟩
    · intro generation hother
      exact ((hlive _ _).1 hother).2 rfl

/-! ## A stranded generation -/

/-- An environment whose draws are told apart by their purpose. -/
def sampleEnvironment : Environment where
  uuid
    | .lineage => "lineage-2".toList
    | .generation => "generation-2".toList
    | .checkpointArtifact => "checkpoint".toList
    | .idleAge => "idle".toList
    | .ending generationId => "end-".toList ++ generationId
    | .event generationId eventType =>
        "event-".toList ++ generationId ++
          (if eventType = .created then "-created".toList else "-other".toList)
  now := fun _ => 2000000000
  display := fun _ => []

def sampleInput : SessionPolicyInput where
  runId := "run".toList
  agentId := "writer".toList
  provider := "claude".toList
  model := "model".toList
  workingDirectory := "/work".toList
  workspaceMode := "worktree".toList
  sessionReuseScope := some "same_agent_family_within_run".toList
  sessionFamilyId := some "family".toList
  invocationOwnerKey := "owner".toList
  bindingFingerprint := "fingerprint".toList

def sampleLineage : SessionLineage where
  id := "lineage-1".toList
  runId := "run".toList
  agentId := "writer".toList
  lineageId := "family".toList
  sessionReuseScope := "same_agent_family_within_run".toList
  sessionFamilyId := some "family".toList
  activeGenerationId := none
  createdAt := 0
  closedAt := none

def sampleGeneration : SessionGeneration where
  id := "generation-1".toList
  lineageId := "lineage-1".toList
  generation := 1
  invocationOwnerKey := "owner".toList
  providerSessionId := none
  bindingFingerprint := "fingerprint".toList
  rehydratedFromCheckpointArtifactId := none
  workingDirectory := "/work".toList
  workspaceMode := "worktree".toList
  runtimeProvider := "claude".toList
  runtimeModel := "model".toList
  status := .active
  turnCount := 0
  estimatedInputTokens := 0
  latestCachedInputTokens := none
  latestOutputTokens := none
  latestModelContextWindow := none
  cumulativePromptTokens := 0
  cumulativeCostCents := 0
  createdAt := 1000000000
  lastActivityAt := none
  endedAt := none
  endReason := none

/-- The rows of one lineage with one generation. -/
def sampleStore (lineage : SessionLineage) (generation : SessionGeneration) : Store :=
  { Store.empty with
    lineages := ⟨[lineage], List.nodup_singleton _⟩
    generations := ⟨[generation], List.nodup_singleton _⟩ }

/-- The rows left by a crash after a generation was inserted and before the lineage
was pointed at it. -/
def strandedStore : Store := sampleStore sampleLineage sampleGeneration

/-- The next call leaves the stranded generation live and creates another. -/
theorem stranded_generation_stays_live :
    ∃ decision db', ensurePolicy sampleEnvironment strandedStore sampleInput =
        .ok (decision, db') ∧
      ¬OneLiveGeneration db' decision := by
  have hsome : (ensurePolicy sampleEnvironment strandedStore sampleInput).toOption.any
      (fun result => sampleGeneration ∈
          activeGenerations result.2 result.1.lineage.id ∧
        sampleGeneration.id ≠ result.1.generation.id) = true := by
    decide +kernel
  cases hrun : ensurePolicy sampleEnvironment strandedStore sampleInput with
  | error message =>
      rw [hrun] at hsome
      cases hsome
  | ok result =>
      rw [hrun] at hsome
      have hlive : sampleGeneration ∈ activeGenerations result.2 result.1.lineage.id ∧
          sampleGeneration.id ≠ result.1.generation.id := by
        simpa [Except.toOption] using hsome
      refine ⟨result.1, result.2, rfl, fun hone => hlive.2 ?_⟩
      exact hone.only sampleGeneration (mem_activeGenerations_iff.1 hlive.1)

/-- A named generation is used again and stays the only live one. -/
theorem named_generation_stays_the_only_one :
    ∃ decision db', ensurePolicy sampleEnvironment
        (sampleStore
          { sampleLineage with activeGenerationId := some sampleGeneration.id }
          sampleGeneration) sampleInput = .ok (decision, db') ∧
      OneLiveGeneration db' decision := by
  cases hrun : ensurePolicy sampleEnvironment
      (sampleStore { sampleLineage with activeGenerationId := some sampleGeneration.id }
        sampleGeneration) sampleInput with
  | error message =>
      have hsome : (ensurePolicy sampleEnvironment
          (sampleStore
            { sampleLineage with activeGenerationId := some sampleGeneration.id }
            sampleGeneration) sampleInput).isOk = true := by
        decide +kernel
      rw [hrun] at hsome
      cases hsome
  | ok result =>
      refine ⟨result.1, result.2, rfl, ?_⟩
      refine (one_live_generation_iff _ _ _ _ _ hrun).2 (.inr ⟨?_, ?_⟩)
      · decide +kernel
      · intro generation hsome _ _
        have hstored : some sampleGeneration = some generation := hsome
        obtain rfl := Option.some.inj hstored
        rfl

end ChainworksForge.Session
