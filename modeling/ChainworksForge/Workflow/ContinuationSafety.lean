import ChainworksForge.Workflow.CarryForward

/-!
# Safety of continuation targets

What an accepted continuation target guarantees, in terms of paths of its
transition graph: before the approval gate only ordinary states are visited and
only agents without write access run there, and a rejection cannot come back to
the gate without a new review.
-/

namespace ChainworksForge.Workflow

open ChainworksForge.Support

/-! ## Metadata-only policies -/

/-- A permission policy that only allows metadata writes and read-only commands. -/
structure MetadataOnlyPolicy (policy : Json) : Prop where
  writes :
    ∃ paths, ((policy.index "filesystem").index "write").asArray = some paths ∧
      ∀ path ∈ paths, ∃ text, path.asStr = some text ∧
        Text.startsWith text metaRootText = true ∧
        "..".toList ∉ Text.splitOn '/' text
  git :
    ∀ capability ∈ ["checkout", "commit", "push"],
      (policy.index "git").index capability = .bool false
  runtime : (policy.index "mcp").index "runtime_authority" = .bool false
  shell :
    ∃ commands, ((policy.index "shell").index "allow").asArray = some commands ∧
      ∀ command ∈ commands, ∃ text ∈ readOnlyCommands, command.asStr = some text
  xcode :
    ∀ headless, policy.get "xcode_headless".toList = some headless →
      (headless.index "gates").asArray = some []

/-- The catalog gives the agent a metadata-only policy. -/
def MetadataOnly (agent : ResolvedAgent) (catalog : Json) : Prop :=
  ∃ policy, permission agent catalog = .ok policy ∧ MetadataOnlyPolicy policy

theorem validateWritePath_eq_ok_iff (path : Json) :
    validateWritePath path = .ok () ↔
      ∃ text, path.asStr = some text ∧ Text.startsWith text metaRootText = true ∧
        "..".toList ∉ Text.splitOn '/' text := by
  simp only [validateWritePath, bind_eq_ok_iff, required_eq_ok_iff, ensure_eq_ok_iff,
    Bool.and_eq_true, Bool.not_eq_true', List.any_eq_false, beq_iff_eq]
  constructor
  · rintro ⟨text, htext, hroot, hdots⟩
    exact ⟨text, htext, hroot, fun hmem => hdots _ hmem rfl⟩
  · rintro ⟨text, htext, hroot, hdots⟩
    exact ⟨text, htext, hroot, fun c hc heq => hdots (heq ▸ hc)⟩

theorem validateNoXcodeGates_eq_ok_iff (policy : Json) :
    validateNoXcodeGates policy = .ok () ↔
      ∀ headless, policy.get "xcode_headless".toList = some headless →
        (headless.index "gates").asArray = some [] := by
  unfold validateNoXcodeGates
  cases policy.get "xcode_headless".toList with
  | none => simp [pure, Except.pure]
  | some headless => simp [ensure_eq_ok_iff]

/-- The check of an agent accepts exactly the metadata-only agents that do not
write to a product worktree. -/
theorem validateMetadataOnly_eq_ok_iff (agent : ResolvedAgent) (catalog : Json) :
    validateMetadataOnly agent catalog = .ok () ↔
      (agent.worktreeWriteEnabled = false ∨
          agent.worktreeStrategy = some "meta_only") ∧
        MetadataOnly agent catalog := by
  simp only [validateMetadataOnly, bind_eq_ok_iff, required_eq_ok_iff, ensure_eq_ok_iff,
    forM_eq_ok_iff, validateNoXcodeGates_eq_ok_iff, Bool.or_eq_true, Bool.not_eq_true',
    beq_iff_eq, exists_const, validateWritePath_eq_ok_iff]
  constructor
  · rintro ⟨hwriter, policy, hpolicy, paths, hpaths, hwrites, hgit, hruntime,
      commands, hcommands, hshell, hheadless⟩
    refine ⟨hwriter, policy, hpolicy, ⟨paths, hpaths, hwrites⟩, hgit, hruntime,
      ⟨commands, hcommands, ?_⟩, hheadless⟩
    intro command hcommand
    have hallowed := hshell command hcommand
    cases htext : command.asStr with
    | none => simp [htext] at hallowed
    | some text => exact ⟨text, by simpa [htext] using hallowed, rfl⟩
  · rintro ⟨hwriter, policy, hpolicy, hmeta⟩
    obtain ⟨paths, hpaths, hwrites⟩ := hmeta.writes
    obtain ⟨commands, hcommands, hshell⟩ := hmeta.shell
    refine ⟨hwriter, policy, hpolicy, paths, hpaths, hwrites, hmeta.git,
      hmeta.runtime, commands, hcommands, ?_, hmeta.xcode⟩
    intro command hcommand
    obtain ⟨text, hmem, htext⟩ := hshell command hcommand
    simpa [htext] using hmem

/-- Stripping write access keeps the permission policy. -/
theorem MetadataOnly.withoutWrites
    {agent : ResolvedAgent} {catalog : Json} (hmeta : MetadataOnly agent catalog) :
    MetadataOnly agent.withoutWrites catalog :=
  hmeta

/-! ## The two walks -/

/-- A transition of the plan. -/
def TransitionEdge (plan : RunPlan) (a b : String) : Prop :=
  b ∈ plan.targetsOf a

/-- What the walk has checked about a state before the gate. -/
structure PreGateState (plan : RunPlan) (profile : ContinuationProfileV1)
    (catalog : Json) (id : String) (state : CompiledState) : Prop where
  found : plan.state? id = some state
  notGate : state.isManualGate = false
  notEnd : state.isEnd = false
  noPostTasks : state.postApprovalTasks = []
  notPreparation : id ≠ profile.preparationState
  agents : ∀ agent ∈ state.runAgents, validateMetadataOnly agent catalog = .ok ()

/-- Entering a state returns its targets after all checks. -/
theorem preGateState_of_enterPreGate
    {plan : RunPlan} {profile : ContinuationProfileV1} {catalog : Json} {id : String}
    {next : List String} (henter : enterPreGate plan profile catalog id = .ok next) :
    ∃ state, PreGateState plan profile catalog id state ∧ next = state.targets := by
  simp only [enterPreGate, bind_eq_ok_iff, required_eq_ok_iff, ensure_eq_ok_iff,
    forM_eq_ok_iff, pure_eq_ok_iff, exists_const, Bool.and_eq_true, Bool.not_eq_true',
    bne_iff_ne, List.isEmpty_iff] at henter
  obtain ⟨state, hfound, ⟨⟨⟨⟨hgate, hend⟩, hpost⟩, hprep⟩, -⟩, hagents, hnext⟩ := henter
  exact ⟨state, ⟨hfound, hgate, hend, hpost, hprep, hagents⟩, hnext.symm⟩

/-- A state with targets is a state of the plan. -/
theorem mem_stateIds_of_targetsOf
    (plan : RunPlan) (id : String) (htargets : (plan.targetsOf id).length ≠ 0) :
    id ∈ plan.stateIds := by
  by_contra hmem
  have hnone : plan.state? id = none := by
    rw [RunPlan.state?, List.lookup_eq_none_iff]
    intro entry hentry
    rw [bne_iff_ne]
    rintro rfl
    exact hmem (List.mem_map_of_mem hentry)
  simp [RunPlan.targetsOf, hnone] at htargets

/-- The targets of a plan bound the open edges of a walk over it. -/
theorem openEdges_le_edgeCount
    {ε : Type} (plan : RunPlan) (expand : String → Except ε (List String))
    (hexpand : ∀ id, outDegree expand id ≤ (plan.targetsOf id).length) :
    openEdges expand plan.stateIds [] ≤ plan.edgeCount := by
  have hall : plan.stateIds.filter (fun id => id ∉ ([] : List String)) =
      plan.stateIds := by
    simp
  unfold openEdges RunPlan.edgeCount
  rw [hall]
  exact List.sum_le_sum fun id _ => hexpand id

/-- Entering a state yields at most its targets. -/
theorem outDegree_enterPreGate_le
    (plan : RunPlan) (profile : ContinuationProfileV1) (catalog : Json) (id : String) :
    outDegree (enterPreGate plan profile catalog) id ≤ (plan.targetsOf id).length := by
  unfold outDegree
  cases henter : enterPreGate plan profile catalog id with
  | error e => exact Nat.zero_le _
  | ok next =>
      obtain ⟨state, hstate, rfl⟩ := preGateState_of_enterPreGate henter
      simp [RunPlan.targetsOf, hstate.found]

/-- The walk before the gate always ends. -/
theorem explore_preGate_ne_none
    (plan : RunPlan) (profile : ContinuationProfileV1) (catalog : Json)
    (first second : String) :
    explore (fun id => id == profile.approvalState) (enterPreGate plan profile catalog)
      (2 + plan.edgeCount) [first, second] [] false ≠ none := by
  have hdegree := outDegree_enterPreGate_le plan profile catalog
  apply explore_ne_none _ _ plan.stateIds
  · intro id hid
    have hle := hdegree id
    exact mem_stateIds_of_targetsOf plan id (by omega)
  · have hopen := openEdges_le_edgeCount plan _ hdegree
    simpa using hopen

/-- Expansion of a state in the walk towards the review. -/
def expandUntilGate (plan : RunPlan) (gate : String) (id : String) :
    Except Unit (List String) :=
  if id == gate then .error () else .ok (plan.targetsOf id)

/-- The walk towards the review always ends. -/
theorem explore_review_ne_none (plan : RunPlan) (start review gate : String) :
    explore (fun id => id == review) (expandUntilGate plan gate)
      (1 + plan.edgeCount) [start] [] false ≠ none := by
  have hdegree : ∀ id,
      outDegree (expandUntilGate plan gate) id ≤ (plan.targetsOf id).length := by
    intro id
    unfold outDegree expandUntilGate
    by_cases hgate : id = gate
    · simp [hgate]
    · simp [hgate]
  apply explore_ne_none _ _ plan.stateIds
  · intro id hid
    have hle := hdegree id
    exact mem_stateIds_of_targetsOf plan id (by omega)
  · have hopen := openEdges_le_edgeCount plan _ hdegree
    simpa using hopen

/-- What the walk before the gate has found. -/
theorem exploredFrom_of_preGateStates
    {plan : RunPlan} {profile : ContinuationProfileV1} {catalog : Json}
    {rejectedState : String} {walk : List String × Bool}
    (hwalk : preGateStates plan profile catalog rejectedState = .ok walk) :
    ExploredFrom (fun id => id == profile.approvalState)
      (enterPreGate plan profile catalog) [rejectedState, profile.reviewState] walk.1 := by
  cases hexplore : explore (fun id => id == profile.approvalState)
      (enterPreGate plan profile catalog) (2 + plan.edgeCount)
      [rejectedState, profile.reviewState] [] false with
  | none => exact absurd hexplore (explore_preGate_ne_none plan profile catalog _ _)
  | some result =>
      rw [preGateStates, hexplore, Option.getD_some] at hwalk
      subst hwalk
      refine exploredFrom_of_explore _ _ _ _ _ _ _ walk ?_ ?_ hexplore
      · intro id hid
        exact Or.inr (Or.inr hid)
      · intro id hid
        cases hid

/-- Every path before the gate visits checked states only. -/
theorem preGateState_of_path
    {plan : RunPlan} {profile : ContinuationProfileV1} {catalog : Json}
    {rejectedState : String} {walk : List String × Bool}
    (hwalk : preGateStates plan profile catalog rejectedState = .ok walk)
    (path : List String)
    (hchain : (profile.reviewState :: path).IsChain (TransitionEdge plan))
    (havoid : profile.approvalState ∉ profile.reviewState :: path) :
    ∀ id ∈ profile.reviewState :: path,
      id ∈ walk.1 ∧ ∃ state, PreGateState plan profile catalog id state := by
  have hexplored := exploredFrom_of_preGateStates hwalk
  have henter : ∀ id ∈ walk.1, ∃ next state,
      enterPreGate plan profile catalog id = .ok next ∧
        PreGateState plan profile catalog id state ∧ next = state.targets := by
    intro id hid
    obtain ⟨-, next, hnext, -⟩ := hexplored.closed id hid
    obtain ⟨state, hstate, htargets⟩ := preGateState_of_enterPreGate hnext
    exact ⟨next, state, hnext, hstate, htargets⟩
  have hmem : ∀ id ∈ profile.reviewState :: path, id ∈ walk.1 := by
    refine hexplored.mem_of_path (TransitionEdge plan) ?_ _ path (by simp) hchain ?_
    · intro a b next ha hnext hedge
      obtain ⟨state, hstate, rfl⟩ := preGateState_of_enterPreGate hnext
      simpa [TransitionEdge, RunPlan.targetsOf, hstate.found] using hedge
    · intro id hid
      simp only [beq_eq_false_iff_ne, ne_eq]
      rintro rfl
      exact havoid hid
  intro id hid
  obtain ⟨next, state, -, hstate, -⟩ := henter id (hmem id hid)
  exact ⟨hmem id hid, state, hstate⟩

/-- When the walk towards the review succeeds, every path from its start to the
gate passes through the review. -/
theorem review_mem_of_reachesReview
    {plan : RunPlan} {start review gate : String}
    (hreaches : reachesReview plan start review gate = true)
    (path : List String) (hchain : (start :: path).IsChain (TransitionEdge plan))
    (hgate : gate ∈ start :: path) :
    review ∈ start :: path := by
  by_contra hmissing
  cases hexplore : explore (fun id => id == review) (expandUntilGate plan gate)
      (1 + plan.edgeCount) [start] [] false with
  | none => exact explore_review_ne_none plan start review gate hexplore
  | some result =>
      have hwalk : explore (fun id => id == review)
          (fun id => if id == gate then .error () else .ok (plan.targetsOf id))
          (1 + plan.edgeCount) [start] [] false = some result := hexplore
      rw [reachesReview, hwalk] at hreaches
      cases result with
      | error e => cases hreaches
      | ok walk =>
          have hexplored : ExploredFrom (fun id => id == review)
              (expandUntilGate plan gate) [start] walk.1 := by
            refine exploredFrom_of_explore _ _ _ _ _ _ _ walk ?_ ?_ hexplore
            · intro id hid
              exact Or.inr (Or.inr hid)
            · intro id hid
              cases hid
          have hseen := hexplored.mem_of_path (TransitionEdge plan)
            (by
              intro a b next _ hnext hedge
              unfold expandUntilGate at hnext
              split at hnext
              · cases hnext
              · cases hnext
                exact hedge)
            start path (by simp) hchain
            (by
              intro id hid
              simp only [beq_eq_false_iff_ne, ne_eq]
              rintro rfl
              exact hmissing hid)
          -- An entered gate would have stopped the walk.
          obtain ⟨-, next, hnext, -⟩ := hexplored.closed gate (hseen gate hgate)
          simp [expandUntilGate] at hnext

/-! ## The returned plan -/

/-- Stripping states changes no identifier. -/
theorem lookup_stripStates
    (ids : List String) (states : List (String × CompiledState)) (id : String) :
    (stripStates ids states).lookup id =
      (states.lookup id).map fun state =>
        if ids.contains id then state.withoutWrites else state := by
  induction states with
  | nil => rfl
  | cons entry states ih =>
      obtain ⟨key, state⟩ := entry
      have hcons : stripStates ids ((key, state) :: states) =
          (key, if ids.contains key then state.withoutWrites else state) ::
            stripStates ids states := by
        by_cases hkey : ids.contains key = true
        · simp only [stripStates, List.map_cons, if_pos hkey]
        · simp only [stripStates, List.map_cons, if_neg hkey]
      rw [hcons, List.lookup_cons, List.lookup_cons, ih]
      by_cases hkey : id = key
      · subst hkey
        simp
      · have hbeq : (id == key) = false := by simpa using hkey
        simp only [hbeq]

/-- The agents of a stripped state are the stripped agents of the state. -/
theorem runAgents_withoutWrites (state : CompiledState) :
    state.withoutWrites.runAgents = state.runAgents.map (·.withoutWrites) := by
  simp [CompiledState.withoutWrites, CompiledState.runAgents, Function.comp_def]

/-- Two transitions with different conditions are the only two of a gate. -/
theorem eq_of_findTransition
    {gate : CompiledState} {granted rejected other : CompiledTransition}
    (hlength : gate.transitions.length = 2)
    (hgranted : findTransition gate grantCondition = some granted)
    (hrejected : findTransition gate rejectionCondition = some rejected)
    (hmem : other ∈ gate.transitions)
    (hother : Text.trim other.condition.toList = rejectionCondition) :
    other = rejected := by
  have hg := List.find?_some hgranted
  have hr := List.find?_some hrejected
  have hgmem := List.mem_of_find?_eq_some hgranted
  have hrmem := List.mem_of_find?_eq_some hrejected
  rw [beq_iff_eq] at hg hr
  have hdiff : grantCondition ≠ rejectionCondition := by decide
  have hne : other ≠ granted := by
    rintro rfl
    exact hdiff (hg.symm.trans hother)
  have hne' : rejected ≠ granted := by
    rintro rfl
    exact hdiff (hg.symm.trans hr)
  obtain ⟨x, y, hxy⟩ := List.length_eq_two.1 hlength
  rw [hxy] at hmem hgmem hrmem
  simp only [List.mem_cons, List.not_mem_nil, or_false] at hmem hgmem hrmem
  rcases hgmem with rfl | rfl
  · rcases hmem with rfl | rfl
    · exact absurd rfl hne
    · rcases hrmem with rfl | rfl
      · exact absurd rfl hne'
      · rfl
  · rcases hmem with rfl | rfl
    · rcases hrmem with rfl | rfl
      · rfl
      · exact absurd rfl hne'
    · exact absurd rfl hne

/-- The facts that an accepted target rests on. -/
structure AcceptedTarget (codec : SnapshotCodec) (plan : RunPlan)
    (target : ContinuationTargetV1) where
  catalog : Json
  gate : CompiledState
  granted : CompiledTransition
  rejected : CompiledTransition
  walk : List String × Bool
  parsed : codec.parseJson plan.catalogSnapshotJson = .ok catalog
  gateFound : plan.state? target.profile.approvalState = some gate
  gateTransitions : gate.transitions.length = 2
  grantedFound : findTransition gate grantCondition = some granted
  rejectedFound : findTransition gate rejectionCondition = some rejected
  walked : preGateStates plan target.profile catalog rejected.toState = .ok walk
  returns :
    reachesReview plan rejected.toState target.profile.reviewState
      target.profile.approvalState = true
  reviewers :
    plan.dynamicCandidateBindings.mapM (freezeReviewer codec catalog) =
      .ok target.plan.dynamicCandidateBindings
  states :
    target.plan.states =
      stripStates (target.profile.approvalState :: walk.1) plan.states
  initial : target.plan.initialState = target.profile.reviewState
  snapshot : target.plan.catalogSnapshotJson = plan.catalogSnapshotJson

/-- A target that the validator returns is accepted in this sense. -/
theorem nonempty_acceptedTarget
    {codec : SnapshotCodec} {plan : RunPlan} {target : ContinuationTargetV1}
    (hvalid : validateContinuationTargetV1 codec plan = .ok target) :
    Nonempty (AcceptedTarget codec plan target) := by
  simp only [validateContinuationTargetV1, bind_eq_ok_iff, required_eq_ok_iff,
    ensure_eq_ok_iff, pure_eq_ok_iff, exists_const] at hvalid
  obtain ⟨-, workflow, -, catalog, hcatalog, profile, -, -, -, review, -, -, gate, hgate,
    hfresh, granted, hgranted, rejected, hrejected, -, -, walk, hwalk, -, hreturns, -, -,
    -, -, -, -, -, -, -, bindings, hbindings, -, rfl⟩ := hvalid
  simp only [isFreshGate, Bool.and_eq_true, beq_iff_eq] at hfresh
  exact ⟨⟨catalog, gate, granted, rejected, walk, hcatalog, hgate, hfresh.2, hgranted,
    hrejected, hwalk, hreturns, hbindings, rfl, rfl, rfl⟩⟩

namespace AcceptedTarget

variable {codec : SnapshotCodec} {plan : RunPlan} {target : ContinuationTargetV1}

/-- The states of the returned plan. -/
theorem state?_target (accepted : AcceptedTarget codec plan target) (id : String) :
    target.plan.state? id =
      (plan.state? id).map fun state =>
        if (target.profile.approvalState :: accepted.walk.1).contains id then
          state.withoutWrites
        else state := by
  rw [RunPlan.state?, accepted.states, lookup_stripStates]
  rfl

/-- The returned plan has the transitions of the given one. -/
theorem targetsOf_target (accepted : AcceptedTarget codec plan target) (id : String) :
    target.plan.targetsOf id = plan.targetsOf id := by
  unfold RunPlan.targetsOf
  rw [accepted.state?_target]
  cases plan.state? id with
  | none => rfl
  | some state =>
      rw [Option.map_some]
      by_cases hmem :
          (target.profile.approvalState :: accepted.walk.1).contains id = true
      · rw [if_pos hmem]
        rfl
      · rw [if_neg hmem]

/-- A path of the returned plan is a path of the given one. -/
theorem isChain_plan (accepted : AcceptedTarget codec plan target) (path : List String)
    (hchain : path.IsChain (TransitionEdge target.plan)) :
    path.IsChain (TransitionEdge plan) := by
  refine hchain.imp ?_
  intro a b hedge
  rwa [TransitionEdge, accepted.targetsOf_target] at hedge

/-- An enabled reviewer of the returned plan is the frozen form of a checked one. -/
theorem reviewer_checked (accepted : AcceptedTarget codec plan target)
    (binding : CompiledDynamicAgentBinding)
    (hmem : binding ∈ target.plan.dynamicCandidateBindings)
    (henabled : binding.enabledForProposalReview = true) :
    ∃ source ∈ plan.dynamicCandidateBindings, ∃ agent,
      codec.decodeAgent source.resolvedAgentSnapshotJson = .ok agent ∧
        validateMetadataOnly agent accepted.catalog = .ok () ∧
        binding.resolvedAgentSnapshotJson = codec.encodeAgent agent.withoutWrites := by
  obtain ⟨source, hsource, hfreeze⟩ :=
    exists_of_mem_mapM _ _ _ accepted.reviewers binding hmem
  refine ⟨source, hsource, ?_⟩
  by_cases hoff : source.enabledForProposalReview = true
  · simp only [freezeReviewer, hoff, Bool.not_true, Bool.false_eq_true, if_false,
      bind_eq_ok_iff, pure_eq_ok_iff, withContext_eq_ok_iff] at hfreeze
    obtain ⟨agent, hagent, ⟨⟩, hmeta, -, -, rfl⟩ := hfreeze
    exact ⟨agent, hagent, hmeta, rfl⟩
  · simp only [freezeReviewer, hoff, Bool.not_false, if_true, pure_eq_ok_iff] at hfreeze
    rw [← hfreeze] at henabled
    exact absurd henabled hoff

end AcceptedTarget

/-- What every accepted continuation target guarantees.  From the initial state
every path that has not crossed the approval state visits states of the plan
that are neither manual gates nor end states nor the preparation state and have
no tasks after approval, and whose owner and task agents cannot write and are
metadata-only; every enabled reviewer is frozen as such an agent; and every path
from the target of a rejection back to the gate passes through the review.

The hypothesis is the round trip of a frozen agent through its JSON text. -/
theorem validateContinuationTargetV1_safe
    (codec : SnapshotCodec) (plan : RunPlan) (target : ContinuationTargetV1)
    (hvalid : validateContinuationTargetV1 codec plan = .ok target)
    (hroundTrip : ∀ binding ∈ plan.dynamicCandidateBindings, ∀ agent,
      codec.decodeAgent binding.resolvedAgentSnapshotJson = .ok agent →
        codec.decodeAgent (codec.encodeAgent agent.withoutWrites) =
          .ok agent.withoutWrites.throughJson) :
    ∃ catalog, codec.parseJson target.plan.catalogSnapshotJson = .ok catalog ∧
      (∀ path,
        (target.plan.initialState :: path).IsChain (TransitionEdge target.plan) →
        target.profile.approvalState ∉ target.plan.initialState :: path →
        ∀ id ∈ target.plan.initialState :: path,
          ∃ state, target.plan.state? id = some state ∧
            state.isManualGate = false ∧ state.isEnd = false ∧
            id ≠ target.profile.preparationState ∧ state.postApprovalTasks = [] ∧
            ∀ agent ∈ state.runAgents,
              agent.worktreeWriteEnabled = false ∧ MetadataOnly agent catalog) ∧
      (∀ binding ∈ target.plan.dynamicCandidateBindings,
        binding.enabledForProposalReview = true →
          ∃ agent, codec.decodeAgent binding.resolvedAgentSnapshotJson = .ok agent ∧
            agent.worktreeWriteEnabled = false ∧ MetadataOnly agent catalog) ∧
      ∃ gate, target.plan.state? target.profile.approvalState = some gate ∧
        (∃ rejected ∈ gate.transitions,
          Text.trim rejected.condition.toList = rejectionCondition) ∧
        ∀ rejected ∈ gate.transitions,
          Text.trim rejected.condition.toList = rejectionCondition →
          ∀ path, (rejected.toState :: path).IsChain (TransitionEdge target.plan) →
            target.profile.approvalState ∈ rejected.toState :: path →
            target.profile.reviewState ∈ rejected.toState :: path := by
  obtain ⟨accepted⟩ := nonempty_acceptedTarget hvalid
  refine ⟨accepted.catalog, ?_, ?_, ?_, ?_⟩
  · rw [accepted.snapshot]
    exact accepted.parsed
  · rw [accepted.initial]
    intro path hchain havoid id hid
    obtain ⟨hwalked, state, hstate⟩ := preGateState_of_path accepted.walked path
      (accepted.isChain_plan _ hchain) havoid id hid
    have hstripped :
        (target.profile.approvalState :: accepted.walk.1).contains id = true := by
      simp [hwalked]
    refine ⟨state.withoutWrites, ?_, hstate.notGate, hstate.notEnd, hstate.notPreparation,
      hstate.noPostTasks, ?_⟩
    · rw [accepted.state?_target, hstate.found, Option.map_some, if_pos hstripped]
    · intro agent hagent
      rw [runAgents_withoutWrites] at hagent
      obtain ⟨source, hsource, rfl⟩ := List.mem_map.1 hagent
      have hmeta := ((validateMetadataOnly_eq_ok_iff _ _).1
        (hstate.agents source hsource)).2
      exact ⟨rfl, hmeta.withoutWrites⟩
  · intro binding hmem henabled
    obtain ⟨source, hsource, agent, hdecode, hchecked, hencoded⟩ :=
      accepted.reviewer_checked binding hmem henabled
    have hmeta := ((validateMetadataOnly_eq_ok_iff _ _).1 hchecked).2
    refine ⟨agent.withoutWrites.throughJson, ?_, rfl, hmeta⟩
    rw [hencoded]
    exact hroundTrip source hsource agent hdecode
  · have hgate : target.plan.state? target.profile.approvalState =
        some accepted.gate.withoutWrites := by
      rw [accepted.state?_target, accepted.gateFound, Option.map_some, if_pos (by simp)]
    have hrejected := List.find?_some accepted.rejectedFound
    have hrejectedMem := List.mem_of_find?_eq_some accepted.rejectedFound
    rw [beq_iff_eq] at hrejected
    refine ⟨accepted.gate.withoutWrites, hgate, ⟨accepted.rejected, hrejectedMem, hrejected⟩,
      ?_⟩
    intro rejected hmem hcondition path hchain hreach
    obtain rfl : rejected = accepted.rejected :=
      eq_of_findTransition accepted.gateTransitions accepted.grantedFound
        accepted.rejectedFound hmem hcondition
    exact review_mem_of_reachesReview accepted.returns path
      (accepted.isChain_plan _ hchain) hreach

/-! ## A target that is accepted -/

namespace ContinuationExample

/-- JSON text of a workflow snapshot with a continuation profile. -/
def workflowText : String :=
  "\x7b" ++ "\"blocked_run_continuation\":\x7b\"approval_state\":\"gate\"," ++
  "\"preparation_state\":\"prepare\"," ++
  "\"preparation_task\":\"freeze_approved_proposal_and_prepare_worktree\"," ++
  "\"profile\":\"implementation_restart_v1\",\"proposal_input\":\"proposal_current\"," ++
  "\"review_state\":\"review\",\"schema_version\":\"blocked_run_continuation_profile_v1\"\x7d," ++
  "\"workflow\":\x7b\"id\":\"proposal_to_release\"\x7d\x7d"

/-- JSON text of a catalog snapshot with one permission profile. -/
def catalogText : String :=
  "\x7b" ++ "\"permission_profiles\":\x7b\"metadata\":\x7b\"filesystem\":\x7b\"write\":" ++
  "[\"$\x7bCHAINWORKS_META_ROOT:-.chainworks\x7d/reviews\"]\x7d," ++
  "\"git\":\x7b\"checkout\":false,\"commit\":false,\"push\":false\x7d," ++
  "\"mcp\":\x7b\"runtime_authority\":false\x7d," ++
  "\"shell\":\x7b\"allow\":[\"rg\"]\x7d\x7d\x7d\x7d"

theorem catalogText_ne : catalogText ≠ workflowText := by decide +kernel

/-- The value of the workflow text. -/
def workflowJson : Json :=
  .object
    [ ("blocked_run_continuation".toList, .object
        [ ("approval_state".toList, .string "gate".toList),
          ("preparation_state".toList, .string "prepare".toList),
          ("preparation_task".toList,
            .string "freeze_approved_proposal_and_prepare_worktree".toList),
          ("profile".toList, .string "implementation_restart_v1".toList),
          ("proposal_input".toList, .string "proposal_current".toList),
          ("review_state".toList, .string "review".toList),
          ("schema_version".toList,
            .string "blocked_run_continuation_profile_v1".toList) ]),
      ("workflow".toList, .object
        [("id".toList, .string "proposal_to_release".toList)]) ]

/-- The value of the catalog text. -/
def catalogJson : Json :=
  .object
    [ ("permission_profiles".toList, .object
        [ ("metadata".toList, .object
            [ ("filesystem".toList, .object
                [ ("write".toList, .array
                    [.string "$\x7bCHAINWORKS_META_ROOT:-.chainworks\x7d/reviews".toList]) ]),
              ("git".toList, .object
                [ ("checkout".toList, .bool false), ("commit".toList, .bool false),
                  ("push".toList, .bool false) ]),
              ("mcp".toList, .object [("runtime_authority".toList, .bool false)]),
              ("shell".toList, .object
                [("allow".toList, .array [.string "rg".toList])]) ]) ]) ]

/-- JSON text of the reviewer. -/
def reviewerText : String :=
  "\x7b\"agent_id\":\"reviewer\",\"backend_profile_id\":\"fast\",\"provider\":\"claude\"," ++
  "\"model\":null,\"effort\":null,\"max_turns\":null,\"temperature\":null," ++
  "\"prompt\":null,\"permission_profile\":\"metadata\",\"skill_ref\":null," ++
  "\"skill_role\":null,\"skill_snapshot_hash\":null,\"requested_mcp_server_ids\":[]," ++
  "\"resolved_skill\":null,\"output_contract\":null,\"worktree_write_enabled\":false," ++
  "\"worktree_strategy\":null,\"session_reuse_scope\":null,\"session_family_id\":null," ++
  "\"xcode_broker_required\":false," ++
  "\"xcode_shim_injection_signal\":false," ++
  "\"requires_xcode_host_execution\":false,\"xcode_prompt_lint_warnings\":[]\x7d"

/-- JSON text of the reviewer without write access. -/
def frozenReviewerText : String :=
  "\x7b\"agent_id\":\"reviewer\",\"backend_profile_id\":\"fast\",\"provider\":\"claude\"," ++
  "\"model\":null,\"effort\":null,\"max_turns\":null,\"temperature\":null," ++
  "\"prompt\":null,\"permission_profile\":\"metadata\",\"skill_ref\":null," ++
  "\"skill_role\":null,\"skill_snapshot_hash\":null,\"requested_mcp_server_ids\":[]," ++
  "\"resolved_skill\":null,\"output_contract\":null,\"worktree_write_enabled\":false," ++
  "\"worktree_strategy\":\"shared_implementation_worktree\",\"session_reuse_scope\":null," ++
  "\"session_family_id\":null,\"xcode_broker_required\":false," ++
  "\"xcode_shim_injection_signal\":false," ++
  "\"requires_xcode_host_execution\":false,\"xcode_prompt_lint_warnings\":[]\x7d"

/-- The reviewer. -/
def reviewer : ResolvedAgent where
  agentId := "reviewer"
  backendProfileId := some "fast"
  provider := "claude"
  permissionProfile := some "metadata"

/-- The library functions on the texts above. -/
def codec : SnapshotCodec where
  parseJson text :=
    if text = workflowText then .ok workflowJson
    else if text = catalogText then .ok catalogJson
    else .error "expected value"
  sha256 text :=
    if text = workflowText then
      "84012c57bcb06ed350b31333fad811d0e509b43cd75a455168dd8312a2e7a9ea"
    else if text = catalogText then
      "407c5a3a54cf7d98e432ca389b6963321e383439daff7ebb7ae3290fd5683d01"
    else "e5f9a3caa63048499ffc550d36a5b1eb44e9fbb96cf5819a4550a1f448eb3326"
  decodeAgent text :=
    if text = reviewerText then .ok reviewer
    else if text = frozenReviewerText then .ok reviewer.withoutWrites
    else .error "expected value"
  encodeAgent agent :=
    if agent = reviewer then reviewerText else frozenReviewerText

/-- The agent that writes the product after approval. -/
def codeWriter : ResolvedAgent where
  agentId := "code_writer"
  provider := "claude"
  worktreeWriteEnabled := true
  worktreeStrategy := some "dedicated"

/-- A review, a gate and a preparation; a rejection goes back to the review. -/
def plan : RunPlan where
  initialState := "review"
  states :=
    [ ("review",
        { id := "review", label := "Review", owner := reviewer
          isManualGate := false, isEnd := false
          transitions :=
            [ { toState := "gate", condition := reviewSuccessCondition },
              { toState := "review", condition := reviewRefinementCondition } ]
          dynamicParallel := some
            { selectorArtifact := "agent_selection_plan_v1"
              outputContract := "proposal_review_v1", inputs := [] }
          systemTask := some
            { taskType := "proposal_review_router", executorMode := "system.routing" } }),
      ("gate",
        { id := "gate", label := "Gate", owner := reviewer
          isManualGate := true, isEnd := false
          transitions :=
            [ { toState := "prepare", condition := "approval.granted == true" },
              { toState := "review", condition := "approval.rejected == true" } ] }),
      ("prepare",
        { id := "prepare", label := "Prepare", owner := reviewer
          isManualGate := false, isEnd := false
          tasks :=
            [ { agent := reviewer
                taskName := "freeze_approved_proposal_and_prepare_worktree"
                inputs := ["proposal_current"]
                outputs :=
                  ["approved_proposal", "implementation_plan", "implementation_backlog"]
                parallel := false },
              { agent := codeWriter, taskName := "implement", parallel := false
                phase := 1 } ] }) ]
  workflowSnapshotHash :=
    "84012c57bcb06ed350b31333fad811d0e509b43cd75a455168dd8312a2e7a9ea"
  catalogSnapshotHash :=
    "407c5a3a54cf7d98e432ca389b6963321e383439daff7ebb7ae3290fd5683d01"
  workflowSnapshotJson := workflowText
  catalogSnapshotJson := catalogText
  dynamicCandidateBindings :=
    [ { bindingId := "bind-reviewer", agentId := "reviewer"
        resolvedAgentSnapshotJson := reviewerText
        outputContracts := [], permissionHash := "", worktreeHash := ""
        mcpProfileHash := "", skillHash := "", routingMetadataHash := ""
        enabledForProposalReview := true, rolloutWave := "unknown"
        catalogSnapshotHash := ""
        routingMetadata :=
          { routingId := "reviewer", family := "review", capabilities := []
            stackTags := [], surfaces := [], risks := []
            enabledForProposalReview := true, rolloutWave := "unknown" } } ]

/-- The profile that the workflow snapshot declares. -/
def profile : ContinuationProfileV1 where
  schemaVersion := "blocked_run_continuation_profile_v1"
  profile := "implementation_restart_v1"
  reviewState := "review"
  approvalState := "gate"
  preparationState := "prepare"
  proposalInput := "proposal_current"
  preparationTask := "freeze_approved_proposal_and_prepare_worktree"

end ContinuationExample

/-- A text with a first character that is no whitespace is not blank. -/
theorem trim_isEmpty_of_first {c : Char} (t : Text) (hc : Text.isWhitespace c = false) :
    (Text.trim (c :: t)).isEmpty = false := by
  have hhead : (c :: t).dropWhile Text.isWhitespace = c :: t := by
    rw [List.dropWhile_cons, hc]
    rfl
  have hnonempty : (c :: t).rdropWhile Text.isWhitespace ≠ [] := by
    intro hnil
    have hall := List.rdropWhile_eq_nil_iff.1 hnil c List.mem_cons_self
    exact absurd hall (by simp [hc])
  rw [Text.trim, Text.trimMatches, hhead]
  simpa using hnonempty

theorem isCanonicalSha256_ofList (digits : List Char) :
    isCanonicalSha256 (String.ofList digits) =
      (digits.length == 64 && digits.all fun c => c.isDigit || ('a' ≤ c && c ≤ 'f')) := by
  rw [isCanonicalSha256, String.toList_ofList]

/-- The two snapshots of the example match their digests. -/
theorem verifyCompletePairV1_example :
    verifyCompletePairV1 ContinuationExample.codec
      (some ContinuationExample.workflowText) (some ContinuationExample.catalogText)
      (some ContinuationExample.plan.workflowSnapshotHash)
      (some ContinuationExample.plan.catalogSnapshotHash) = .verified := by
  have hworkflow : ∃ t, ContinuationExample.workflowText.toList = '\x7b' :: t := by
    simp only [ContinuationExample.workflowText, String.append_assoc, String.toList_append]
    exact ⟨_, List.singleton_append⟩
  have hcatalog : ∃ t, ContinuationExample.catalogText.toList = '\x7b' :: t := by
    simp only [ContinuationExample.catalogText, String.append_assoc, String.toList_append]
    exact ⟨_, List.singleton_append⟩
  have hblank : [ContinuationExample.workflowText, ContinuationExample.catalogText,
      ContinuationExample.plan.workflowSnapshotHash,
      ContinuationExample.plan.catalogSnapshotHash].any
        (fun value => (Text.trim value.toList).isEmpty) = false := by
    obtain ⟨t, ht⟩ := hworkflow
    obtain ⟨u, hu⟩ := hcatalog
    have hworkflowHash : ∃ t,
        ContinuationExample.plan.workflowSnapshotHash.toList = '8' :: t :=
      ⟨_, String.toList_ofList⟩
    have hcatalogHash : ∃ t,
        ContinuationExample.plan.catalogSnapshotHash.toList = '4' :: t :=
      ⟨_, String.toList_ofList⟩
    obtain ⟨v, hv⟩ := hworkflowHash
    obtain ⟨w, hw⟩ := hcatalogHash
    simp only [List.any_cons, List.any_nil, ht, hu, hv, hw, Bool.or_false]
    rw [trim_isEmpty_of_first t rfl, trim_isEmpty_of_first u rfl,
      trim_isEmpty_of_first v rfl, trim_isEmpty_of_first w rfl]
    rfl
  have hcanonical :
      (!isCanonicalSha256 ContinuationExample.plan.workflowSnapshotHash ||
        !isCanonicalSha256 ContinuationExample.plan.catalogSnapshotHash) = false := by
    simp only [ContinuationExample.plan]
    rw [isCanonicalSha256_ofList, isCanonicalSha256_ofList]
    decide +kernel
  unfold verifyCompletePairV1
  simp only [hblank, Bool.false_eq_true, if_false]
  simp only [hcanonical, Bool.false_eq_true, if_false, ContinuationExample.codec,
    if_neg ContinuationExample.catalogText_ne]
  decide +kernel

/-- The plan of the example is accepted, and its reviewers cannot write. -/
theorem validateContinuationTargetV1_accepts_example :
    ∃ target catalog,
      validateContinuationTargetV1 ContinuationExample.codec ContinuationExample.plan =
          .ok target ∧
        ContinuationExample.codec.parseJson target.plan.catalogSnapshotJson =
          .ok catalog ∧
        ∀ binding ∈ target.plan.dynamicCandidateBindings,
          binding.enabledForProposalReview = true →
            ∃ agent,
              ContinuationExample.codec.decodeAgent binding.resolvedAgentSnapshotJson =
                  .ok agent ∧
                agent.worktreeWriteEnabled = false ∧ MetadataOnly agent catalog := by
  have hworkflow :
      ContinuationExample.codec.parseJson ContinuationExample.plan.workflowSnapshotJson =
        .ok ContinuationExample.workflowJson := by
    simp only [ContinuationExample.codec, ContinuationExample.plan, if_true]
  have hcatalog :
      ContinuationExample.codec.parseJson ContinuationExample.plan.catalogSnapshotJson =
        .ok ContinuationExample.catalogJson := by
    simp only [ContinuationExample.codec, ContinuationExample.plan,
      if_neg ContinuationExample.catalogText_ne, if_true]
  have hroutes : ∀ review,
      ContinuationExample.plan.state? "review" = some review →
        reviewRoutes review "gate" "review" = true := by
    rintro review ⟨⟩
    simp [reviewRoutes, sameWords]
  have hreviewer : ∃ bindings,
      ContinuationExample.plan.dynamicCandidateBindings.mapM
          (freezeReviewer ContinuationExample.codec ContinuationExample.catalogJson) =
        .ok bindings := by
    have hok : (ContinuationExample.plan.dynamicCandidateBindings.mapM
        (freezeReviewer ContinuationExample.codec
          ContinuationExample.catalogJson)).isOk = true := by
      decide +kernel
    cases hmap : ContinuationExample.plan.dynamicCandidateBindings.mapM
        (freezeReviewer ContinuationExample.codec ContinuationExample.catalogJson) with
    | error e =>
        rw [hmap] at hok
        cases hok
    | ok bindings => exact ⟨bindings, rfl⟩
  obtain ⟨bindings, hbindings⟩ := hreviewer
  have hvalid : ∃ target,
      validateContinuationTargetV1 ContinuationExample.codec ContinuationExample.plan =
        .ok target := by
    simp only [validateContinuationTargetV1, bind_eq_ok_iff, required_eq_ok_iff,
      ensure_eq_ok_iff, pure_eq_ok_iff, exists_const]
    refine ⟨_, beq_iff_eq.2 verifyCompletePairV1_example, _, hworkflow, _, hcatalog,
      ContinuationExample.profile, by decide +kernel, by decide +kernel,
      by decide +kernel, _, rfl, by decide +kernel, _, rfl, by decide +kernel, _, rfl, _,
      rfl, by decide +kernel, hroutes _ rfl, (["review"], true), by decide +kernel,
      by decide +kernel, by decide +kernel, (), by decide +kernel, _, rfl, _, rfl,
      by decide +kernel, (), by decide +kernel, bindings, hbindings, by decide +kernel, rfl⟩
  obtain ⟨target, hvalid⟩ := hvalid
  obtain ⟨catalog, hparsed, -, hreviewers, -⟩ :=
    validateContinuationTargetV1_safe ContinuationExample.codec
      ContinuationExample.plan target hvalid
      (by
        intro binding hbinding agent hagent
        have hreviewer : agent = ContinuationExample.reviewer := by
          rw [ContinuationExample.plan, List.mem_singleton] at hbinding
          rw [hbinding] at hagent
          simpa [ContinuationExample.codec] using hagent.symm
        rw [hreviewer]
        decide +kernel)
  exact ⟨target, catalog, hvalid, hparsed, hreviewers⟩

end ChainworksForge.Workflow
