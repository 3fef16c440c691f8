import ChainworksForge.Workflow.DirectCommandSteps

/-!
# What the direct-command lint reports

Every part of the two files is visited by a pass.  A pass over a typed list records each
visited text.  A pass over a raw node loses a text when a later text has the same path,
and leaves out a text that mentions no tool; either kind of pass drops a text in which no
tool is found.  `lint_reports_every_hard_failure_iff` says that each hard failure is
reported exactly when no pass loses one and no message panics.
-/

namespace ChainworksForge.Workflow

open ChainworksForge.Support

/-! ## Passes -/

/-- The texts below one part of a file, and in whose name they are recorded. -/
structure CommandPass where
  owner : CommandOwner
  leaves : List (Text × Text)
  inScope : Text → Bool := fun _ => true
  isRaw : Bool := false

namespace CommandPass

/-- The texts that the pass visits as commands, with their paths. -/
def visited (pass : CommandPass) : List (Text × Text) :=
  pass.leaves.filter fun leaf => pass.inScope leaf.1

/-- The texts that reach the recorder. -/
def recorded (pass : CommandPass) : List (Text × Text) :=
  if pass.isRaw then
    (writeAll pass.leaves []).filter fun leaf =>
      pass.inScope leaf.1 && mentionsXcodeToolOrPath leaf.2
  else pass.visited

def steps (pass : CommandPass) : List ScanStep :=
  pass.recorded.map fun leaf => .command pass.owner leaf.1 leaf.2

/-- A pass over a list of commands under the path of the list. -/
def indexed
    (owner : CommandOwner) (listPath : Text) (commands : List (Text × Nat)) :
    CommandPass where
  owner := owner
  leaves := commands.map fun command =>
    (indexedPath listPath command.2, command.1)

/-- A pass over the texts below a raw node. -/
def raw
    (debugKey : Yaml → Text) (owner : CommandOwner) (skip : Text → Bool)
    (nodePath : Text) (node : Yaml) : CommandPass where
  owner := owner
  leaves := yamlLeaves debugKey node nodePath
  inScope := fun path => !skip path && isCommandLikePath path
  isRaw := true

end CommandPass

def shellAllowPasses (catalog : AgentCatalogFile) : List CommandPass :=
  ((catalog.permissionProfiles.bind Yaml.asMapping).getD []).flatMap fun entry =>
    entry.1.asStr.toList.map fun profileId =>
      .indexed (.shellAllowlist profileId.toList)
        ("permission_profiles.".toList ++ profileId.toList ++
          ".shell.allow".toList)
        (shellAllowCommands entry.2)

def requiredToolPasses (catalog : AgentCatalogFile) : List CommandPass :=
  catalog.agentList.map fun agent =>
    .indexed (.requiredTool agent.id.toList)
      ("agents.".toList ++ agent.id.toList ++ ".required_tools".toList)
      (((agent.requiredTools.getD []).map String.toList).zipIdx)

def taskPasses
    (blockPath collection : Text) (tasks : Option (List AgentTask)) :
    List CommandPass :=
  (tasks.getD []).zipIdx.map fun task =>
    { owner := .workflowTask task.1.agent.toList
      leaves :=
        [(indexedPath (blockPath ++ ".".toList ++ collection) task.2 ++
          ".task".toList, task.1.task.toList)] }

def runBlockPasses (blockPath : Text) (run : RunBlock) : List CommandPass :=
  taskPasses blockPath "sequence".toList run.sequence ++
    taskPasses blockPath "parallel".toList run.parallel ++
    taskPasses blockPath "then".toList run.thenTasks

def workflowTaskPasses (workflow : WorkflowFile) : List CommandPass :=
  workflow.states.flatMap fun state =>
    (runBlocks state.2).flatMap fun block =>
      runBlockPasses
        ("states.".toList ++ state.1.toList ++ ".".toList ++ block.1) block.2

def promptSteps (catalog : AgentCatalogFile) : List ScanStep :=
  catalog.agentList.flatMap fun agent =>
    (agentPromptTexts agent).map fun field =>
      .prompt agent.id.toList field.1 field.2

section Passes

variable (debugKey : Yaml → Text)

def rawAgentPasses (catalogRaw : Yaml) : List CommandPass :=
  (((mappingGet catalogRaw "agents").bind Yaml.asSequence).getD []).flatMap
    fun agent =>
      ((mappingGet agent "id").bind Yaml.asStr).toList.map fun agentId =>
        .raw debugKey (.adapterRawCommand agentId.toList)
          isTypedAgentCommandField ("agents.".toList ++ agentId.toList) agent

def rawStatePasses (workflowRaw : Yaml) : List CommandPass :=
  (((mappingGet workflowRaw "states").bind Yaml.asMapping).getD []).flatMap
    fun entry =>
      entry.1.asStr.toList.flatMap fun stateId =>
        ((mappingGet entry.2 "owner").bind Yaml.asStr).toList.map fun owner =>
          .raw debugKey (.stateRawCommand owner.toList) (fun _ => false)
            ("states.".toList ++ stateId.toList) entry.2

def rawDocumentPass (sourceDocument : Text) (raw : Yaml) : CommandPass :=
  .raw debugKey (.rawYamlCommand sourceDocument) (fun _ => false) sourceDocument
    raw

variable (catalog : AgentCatalogFile) (workflow : WorkflowFile)
  (workflowRaw catalogRaw : Yaml)

/-- The passes before the free texts of the agents are read. -/
def earlyPasses : List CommandPass :=
  shellAllowPasses catalog ++ requiredToolPasses catalog

/-- The passes after the free texts of the agents are read. -/
def latePasses : List CommandPass :=
  rawAgentPasses debugKey catalogRaw ++ workflowTaskPasses workflow ++
    rawStatePasses debugKey workflowRaw ++
    [rawDocumentPass debugKey "workflow".toList workflowRaw,
      rawDocumentPass debugKey "catalog".toList catalogRaw]

def commandPasses : List CommandPass :=
  earlyPasses catalog ++ latePasses debugKey workflow workflowRaw catalogRaw

def scanSteps : List ScanStep :=
  (earlyPasses catalog).flatMap CommandPass.steps ++ promptSteps catalog ++
    (latePasses debugKey workflow workflowRaw catalogRaw).flatMap
      CommandPass.steps

/-- The texts about which the scan writes a message. -/
def messageTexts : List Text :=
  ((scanSteps debugKey catalog workflow workflowRaw catalogRaw).filter
    ScanStep.writesMessage).map ScanStep.raw

end Passes

/-! ## The scan runs its passes -/

namespace CommandPass

theorem visited_of_default {pass : CommandPass} (h : pass.inScope = fun _ => true) :
    pass.visited = pass.leaves := by
  rw [visited, h]
  exact List.filter_true _

theorem recorded_of_typed {pass : CommandPass} (h : pass.isRaw = false) :
    pass.recorded = pass.visited := by
  rw [recorded, h, if_neg Bool.false_ne_true]

theorem recorded_of_raw {pass : CommandPass} (h : pass.isRaw = true) :
    pass.recorded = (writeAll pass.leaves []).filter fun leaf =>
      pass.inScope leaf.1 && mentionsXcodeToolOrPath leaf.2 := by
  rw [recorded, if_pos h]

end CommandPass

theorem recordIndexed_eq
    (owner : CommandOwner) (listPath : Text) (commands : List (Text × Nat))
    (scan : DirectCommandScan) :
    recordIndexed owner listPath commands scan =
      runSteps (CommandPass.indexed owner listPath commands).steps scan := by
  rw [CommandPass.steps, CommandPass.recorded_of_typed rfl,
    CommandPass.visited_of_default rfl, CommandPass.indexed, List.map_map,
    runSteps, List.foldlM_map]
  rfl

theorem recordRaw_eq
    (debugKey : Yaml → Text) (owner : CommandOwner) (skip : Text → Bool)
    (nodePath : Text) (node : Yaml) (scan : DirectCommandScan) :
    recordRaw debugKey owner skip nodePath node scan =
      runSteps (CommandPass.raw debugKey owner skip nodePath node).steps scan := by
  rw [recordRaw, collectYamlStrings_eq, CommandPass.steps,
    CommandPass.recorded_of_raw rfl, runSteps, List.foldlM_map,
    List.foldlM_filter]
  congr 1
  funext scan leaf
  rw [CommandPass.raw]
  cases hskip : skip leaf.1 with
  | true => simp [hskip]
  | false =>
      cases hpath : isCommandLikePath leaf.1 with
      | false => simp [hpath]
      | true =>
          cases hmention : mentionsXcodeToolOrPath leaf.2 with
          | false => simp
          | true => simp [hskip, hpath, ScanStep.run]

theorem flatMap_steps {α : Type} (l : List α) (passes : α → List CommandPass) :
    (l.flatMap passes).flatMap CommandPass.steps =
      l.flatMap fun a => (passes a).flatMap CommandPass.steps :=
  List.flatMap_assoc

theorem scanPermissionProfileShellAllow_eq
    (catalog : AgentCatalogFile) (scan : DirectCommandScan) :
    scanPermissionProfileShellAllow catalog scan =
      runSteps ((shellAllowPasses catalog).flatMap CommandPass.steps) scan := by
  rw [scanPermissionProfileShellAllow, shellAllowPasses]
  cases catalog.permissionProfiles.bind Yaml.asMapping with
  | none => rfl
  | some profileMap =>
      rw [Option.getD_some, flatMap_steps]
      apply foldlM_runSteps
      intro entry _ scan
      cases entry.1.asStr with
      | none => rfl
      | some profileId =>
          simp [recordIndexed_eq]

theorem scanAgentRequiredTools_eq
    (catalog : AgentCatalogFile) (scan : DirectCommandScan) :
    scanAgentRequiredTools catalog scan =
      runSteps ((requiredToolPasses catalog).flatMap CommandPass.steps) scan := by
  rw [scanAgentRequiredTools, requiredToolPasses, List.flatMap_map]
  apply foldlM_runSteps
  intro agent _ scan
  exact recordIndexed_eq _ _ _ scan

theorem scanAgentPromptText_eq
    (catalog : AgentCatalogFile) (scan : DirectCommandScan) :
    scanAgentPromptText catalog scan = runSteps (promptSteps catalog) scan := by
  rw [scanAgentPromptText, promptSteps]
  apply foldlM_runSteps
  intro agent _ scan
  rw [runSteps, List.foldlM_map]
  rfl

theorem scanAgentTasks_eq
    (blockPath collection : Text) (tasks : Option (List AgentTask))
    (scan : DirectCommandScan) :
    scanAgentTasks blockPath collection tasks scan =
      runSteps ((taskPasses blockPath collection tasks).flatMap CommandPass.steps)
        scan := by
  rw [scanAgentTasks, taskPasses, List.flatMap_map]
  apply foldlM_runSteps
  intro task _ scan
  rw [CommandPass.steps, CommandPass.recorded_of_typed rfl,
    CommandPass.visited_of_default rfl]
  simp [runSteps, ScanStep.run]

theorem scanWorkflowRunBlocks_eq
    (workflow : WorkflowFile) (scan : DirectCommandScan) :
    scanWorkflowRunBlocks workflow scan =
      runSteps ((workflowTaskPasses workflow).flatMap CommandPass.steps) scan := by
  rw [scanWorkflowRunBlocks, workflowTaskPasses, flatMap_steps]
  apply foldlM_runSteps
  intro state _ scan
  rw [flatMap_steps]
  apply foldlM_runSteps
  intro block _ scan
  rw [runBlockPasses, List.flatMap_append, List.flatMap_append, runSteps_append,
    runSteps_append, scanRunBlock]
  simp only [scanAgentTasks_eq]

section Scan

variable (debugKey : Yaml → Text)

theorem scanRawAgentCommandLikeValues_eq
    (catalogRaw : Yaml) (scan : DirectCommandScan) :
    scanRawAgentCommandLikeValues debugKey catalogRaw scan =
      runSteps ((rawAgentPasses debugKey catalogRaw).flatMap CommandPass.steps)
        scan := by
  rw [scanRawAgentCommandLikeValues, rawAgentPasses]
  cases (mappingGet catalogRaw "agents").bind Yaml.asSequence with
  | none => rfl
  | some agents =>
      rw [Option.getD_some, flatMap_steps]
      apply foldlM_runSteps
      intro agent _ scan
      cases (mappingGet agent "id").bind Yaml.asStr with
      | none => rfl
      | some agentId => simp [recordRaw_eq]

theorem scanRawWorkflowStateCommandLikeValues_eq
    (workflowRaw : Yaml) (scan : DirectCommandScan) :
    scanRawWorkflowStateCommandLikeValues debugKey workflowRaw scan =
      runSteps ((rawStatePasses debugKey workflowRaw).flatMap CommandPass.steps)
        scan := by
  rw [scanRawWorkflowStateCommandLikeValues, rawStatePasses]
  cases (mappingGet workflowRaw "states").bind Yaml.asMapping with
  | none => rfl
  | some states =>
      rw [Option.getD_some, flatMap_steps]
      apply foldlM_runSteps
      intro entry _ scan
      cases entry.1.asStr with
      | none => rfl
      | some stateId =>
          cases (mappingGet entry.2 "owner").bind Yaml.asStr with
          | none => rfl
          | some owner => simp [recordRaw_eq]

variable (catalog : AgentCatalogFile) (workflow : WorkflowFile)
  (workflowRaw catalogRaw : Yaml)

/-- The scan of both files is the run of its steps. -/
theorem scanCatalog_eq :
    scanCatalog debugKey catalog workflow workflowRaw catalogRaw =
      runSteps (scanSteps debugKey catalog workflow workflowRaw catalogRaw) {} := by
  simp only [scanCatalog, scanSteps, earlyPasses, latePasses, rawDocumentPass,
    List.flatMap_append, List.flatMap_cons, List.flatMap_nil, List.append_nil,
    runSteps_append, scanPermissionProfileShellAllow_eq,
    scanAgentRequiredTools_eq, scanAgentPromptText_eq,
    scanRawAgentCommandLikeValues_eq, scanWorkflowRunBlocks_eq,
    scanRawWorkflowStateCommandLikeValues_eq, scanRawCommandLikeValues,
    recordRaw_eq, Option.bind_eq_bind, Option.bind_assoc]

/-- The scan ends without a panic exactly when byte 160 of no text in a message is inside
a character. -/
theorem scanCatalog_ne_none_iff :
    scanCatalog debugKey catalog workflow workflowRaw catalogRaw ≠ none ↔
      ∀ raw ∈ messageTexts debugKey catalog workflow workflowRaw catalogRaw,
        ¬Text.CutsCharacter 160 (joinedWords raw) := by
  rw [scanCatalog_eq, Ne, runSteps_eq_none_iff, messageTexts]
  simp only [List.mem_map, List.mem_filter, ScanStep.Panics]
  constructor
  · rintro h raw ⟨step, ⟨hstep, hwrites⟩, rfl⟩ hcut
    exact h ⟨step, hstep, hwrites, hcut⟩
  · rintro h ⟨step, hstep, hwrites, hcut⟩
    exact h step.raw ⟨step, ⟨hstep, hwrites⟩, rfl⟩ hcut

/-- The scan returns exactly when byte 160 of no text in a message is inside a
character; the walk over the flags of `xcrun` always returns. -/
theorem scanCatalog_returns_iff :
    ((∀ argvTokens, hasUnknownXcrunFlag argvTokens ≠ none) ∧
        scanCatalog debugKey catalog workflow workflowRaw catalogRaw ≠ none) ↔
      ∀ raw ∈ messageTexts debugKey catalog workflow workflowRaw catalogRaw,
        ¬Text.CutsCharacter 160 (joinedWords raw) := by
  have hflags : ∀ argvTokens, hasUnknownXcrunFlag argvTokens ≠ none := fun argv =>
    Option.isSome_iff_ne_none.1 (hasUnknownXcrunFlag_isSome argv)
  rw [and_iff_right hflags]
  exact scanCatalog_ne_none_iff debugKey catalog workflow workflowRaw catalogRaw

end Scan

/-! ## What a pass loses -/

namespace CommandPass

/-- A text whose declaration must fail. -/
def hardFails (leaf : Text × Text) : Bool :=
  (commandErrorCode leaf.2).isSome

/-- A text in which the recorder finds a tool and a failure. -/
def isReported (leaf : Text × Text) : Bool :=
  (commandTool leaf.2).isSome && (commandErrorCode leaf.2).isSome

/-- The visited texts whose errors the pass reports. -/
def kept (pass : CommandPass) : List (Text × Text) :=
  if pass.isRaw then
    (lastWrites pass.visited).filter fun leaf =>
      mentionsXcodeToolOrPath leaf.2 && isReported leaf
  else pass.visited.filter isReported

/-- Every visited text that must fail names a tool; in a raw node it also mentions one in
the raw spelling, and no later text has its path. -/
def Complete (pass : CommandPass) : Prop :=
  ∀ front leaf back, pass.visited = front ++ leaf :: back → hardFails leaf = true →
    (commandTool leaf.2).isSome = true ∧
      (pass.isRaw = true → mentionsXcodeToolOrPath leaf.2 = true ∧
        leaf.1 ∉ back.map Prod.fst)

/-- The errors that the visited texts call for. -/
def hardFailures (pass : CommandPass) : List (Option Text) :=
  (pass.visited.filter hardFails).map fun leaf =>
    failureText pass.owner.sourceDocument leaf.1 leaf.2

theorem hardFails_of_isReported {leaf : Text × Text} (h : isReported leaf = true) :
    hardFails leaf = true :=
  (Bool.and_eq_true_iff.1 h).2

/-- What reaches the recorder and is reported there. -/
theorem recorded_filter_perm (pass : CommandPass) :
    (pass.recorded.filter isReported).Perm pass.kept := by
  rw [kept]
  cases hraw : pass.isRaw with
  | false => rw [recorded_of_typed hraw, if_neg Bool.false_ne_true]
  | true =>
      rw [recorded_of_raw hraw, if_pos rfl, visited, lastWrites_filter_key,
        List.filter_filter, List.filter_filter]
      refine ((writeAll_perm pass.leaves).2.filter _).trans ?_
      refine List.Perm.of_eq (List.filter_congr fun leaf _ => ?_)
      cases pass.inScope leaf.1 with
      | false => simp
      | true => simp [Bool.and_comm]

theorem kept_sublist (pass : CommandPass) :
    pass.kept.Sublist (pass.visited.filter hardFails) := by
  rw [kept]
  split_ifs
  · refine ((lastWrites_sublist pass.visited).filter _).trans ?_
    refine List.monotone_filter_right _ fun leaf hleaf => ?_
    exact hardFails_of_isReported (Bool.and_eq_true_iff.1 hleaf).2
  · exact List.monotone_filter_right _ fun leaf hleaf => hardFails_of_isReported hleaf

/-- A pass keeps every hard failure exactly when it is complete. -/
theorem kept_eq_iff (pass : CommandPass) :
    pass.kept = pass.visited.filter hardFails ↔ pass.Complete := by
  rw [kept, Complete]
  cases hraw : pass.isRaw with
  | true =>
      rw [if_pos rfl, filter_lastWrites_eq_iff]
      · constructor
        · intro h front leaf back hvisited hfails
          obtain ⟨hselect, hlast⟩ := h front leaf back hvisited hfails
          obtain ⟨hmention, hreported⟩ := Bool.and_eq_true_iff.1 hselect
          exact ⟨(Bool.and_eq_true_iff.1 hreported).1, fun _ => ⟨hmention, hlast⟩⟩
        · intro h front leaf back hvisited hfails
          obtain ⟨htool, hlast⟩ := h front leaf back hvisited hfails
          obtain ⟨hmention, hlast⟩ := hlast rfl
          refine ⟨Bool.and_eq_true_iff.2 ⟨hmention, ?_⟩, hlast⟩
          exact Bool.and_eq_true_iff.2 ⟨htool, hfails⟩
      · intro leaf hleaf
        exact hardFails_of_isReported (Bool.and_eq_true_iff.1 hleaf).2
  | false =>
      rw [if_neg Bool.false_ne_true]
      constructor
      · intro h front leaf back hvisited hfails
        refine ⟨?_, fun hfalse => absurd hfalse Bool.false_ne_true⟩
        have hmem : leaf ∈ pass.visited.filter isReported := by
          rw [h, List.mem_filter, hvisited]
          exact ⟨List.mem_append_right _ List.mem_cons_self, hfails⟩
        exact (Bool.and_eq_true_iff.1 (List.mem_filter.1 hmem).2).1
      · intro h
        refine List.filter_congr fun leaf hleaf => ?_
        obtain ⟨front, back, hvisited⟩ := List.append_of_mem hleaf
        cases hfails : hardFails leaf with
        | true =>
            exact Bool.and_eq_true_iff.2 ⟨(h front leaf back hvisited hfails).1, hfails⟩
        | false =>
            by_contra hreported
            rw [Bool.not_eq_false] at hreported
            exact absurd (hardFails_of_isReported hreported) (by simp [hfails])

/-- The errors of a pass that does not panic. -/
theorem steps_errors
    {pass : CommandPass} (hpanics : ∀ step ∈ pass.steps, ¬step.Panics) :
    (pass.steps.flatMap ScanStep.errors).map some =
      (pass.recorded.filter isReported).map fun leaf =>
        failureText pass.owner.sourceDocument leaf.1 leaf.2 := by
  rw [steps] at hpanics ⊢
  generalize pass.recorded = recorded at hpanics ⊢
  induction recorded with
  | nil => rfl
  | cons leaf rest ih =>
      rw [List.map_cons] at hpanics ⊢
      have hleaf := hpanics _ List.mem_cons_self
      have hrest := ih fun step hstep => hpanics step (List.mem_cons_of_mem _ hstep)
      rw [List.flatMap_cons, List.map_append, hrest, List.filter_cons]
      cases htool : commandTool leaf.2 with
      | none => simp [isReported, ScanStep.errors, htool]
      | some tool =>
          cases hcode : commandErrorCode leaf.2 with
          | none => simp [isReported, ScanStep.errors, failureText, htool, hcode]
          | some code =>
              have hcut : compactValue leaf.2 ≠ none := by
                rw [Ne, compactValue_eq_none_iff]
                intro hcut
                refine hleaf ⟨?_, hcut⟩
                simp [ScanStep.writesMessage, htool, hcode]
              obtain ⟨compact, hcompact⟩ := Option.ne_none_iff_exists'.1 hcut
              simp [isReported, ScanStep.errors, failureText, htool, hcode, hcompact]

/-- The reported errors are no more than those that are called for, and as many exactly
when every pass is complete. -/
theorem length_kept_eq_iff (passes : List CommandPass) :
    (passes.map fun pass => pass.kept.length).sum =
        (passes.map fun pass => pass.hardFailures.length).sum ↔
      ∀ pass ∈ passes, pass.Complete := by
  have hle : ∀ pass : CommandPass, pass.kept.length ≤ pass.hardFailures.length := by
    intro pass
    rw [hardFailures, List.length_map]
    exact pass.kept_sublist.length_le
  have hone : ∀ pass : CommandPass,
      pass.kept.length = pass.hardFailures.length ↔ pass.Complete := by
    intro pass
    rw [← kept_eq_iff, hardFailures, List.length_map]
    exact ⟨pass.kept_sublist.eq_of_length, congrArg List.length⟩
  induction passes with
  | nil => simp
  | cons pass rest ih =>
      have hrest : (rest.map fun pass => pass.kept.length).sum ≤
          (rest.map fun pass => pass.hardFailures.length).sum :=
        List.sum_le_sum fun other _ => hle other
      have hpass := hle pass
      rw [List.forall_mem_cons]
      refine Iff.trans ?_ (and_congr (hone pass) ih)
      rw [List.map_cons, List.map_cons, List.sum_cons, List.sum_cons]
      omega

end CommandPass

section Lint

variable (debugKey : Yaml → Text) (catalog : AgentCatalogFile)
  (workflow : WorkflowFile) (workflowRaw catalogRaw : Yaml)

/-- The errors of a scan that returns. -/
theorem scanCatalog_errors_perm
    {scan : DirectCommandScan}
    (h : scanCatalog debugKey catalog workflow workflowRaw catalogRaw = some scan) :
    (scan.errors.map some).Perm
      ((commandPasses debugKey catalog workflow workflowRaw catalogRaw).flatMap
        fun pass => pass.kept.map fun leaf =>
          failureText pass.owner.sourceDocument leaf.1 leaf.2) := by
  rw [scanCatalog_eq] at h
  have hpanics : ∀ pass ∈
      commandPasses debugKey catalog workflow workflowRaw catalogRaw,
      ∀ step ∈ pass.steps, ¬step.Panics := by
    intro pass hpass step hstep hpanic
    have hmem : step ∈ scanSteps debugKey catalog workflow workflowRaw catalogRaw := by
      rw [commandPasses, List.mem_append] at hpass
      simp only [scanSteps, List.mem_append, List.mem_flatMap]
      rcases hpass with hpass | hpass
      · exact .inl (.inl ⟨pass, hpass, hstep⟩)
      · exact .inr ⟨pass, hpass, hstep⟩
    have hnone := (runSteps_eq_none_iff _ {}).2 ⟨step, hmem, hpanic⟩
    exact absurd (hnone.symm.trans h) (Option.some_ne_none _).symm
  have hprompts : (promptSteps catalog).flatMap ScanStep.errors = [] := by
    rw [List.flatMap_eq_nil_iff]
    intro step hstep
    simp only [promptSteps, List.mem_flatMap, List.mem_map] at hstep
    obtain ⟨agent, -, field, -, rfl⟩ := hstep
    rfl
  have herrors : scan.errors =
      (commandPasses debugKey catalog workflow workflowRaw catalogRaw).flatMap
        fun pass => pass.steps.flatMap ScanStep.errors := by
    rw [runSteps_errors h, scanSteps, List.flatMap_append, List.flatMap_append,
      hprompts, List.append_nil, commandPasses, List.flatMap_append,
      List.flatMap_assoc, List.flatMap_assoc]
    rfl
  rw [herrors, List.map_flatMap]
  refine List.Perm.flatMap_left _ fun pass hpass => ?_
  rw [CommandPass.steps_errors (hpanics pass hpass)]
  exact pass.recorded_filter_perm.map _

/-- A scan with errors fails the compilation, whatever it would go on to compile. -/
theorem compileLoaded_fails {scan : DirectCommandScan}
    (hscan : scanCatalog debugKey catalog workflow workflowRaw catalogRaw = some scan)
    (herrors : scan.errors ≠ []) {α : Type} (rest : DirectCommandScan → Result α) :
    ∃ message, compileLoaded debugKey catalog workflow workflowRaw catalogRaw rest =
      some (.error message) := by
  unfold compileLoaded
  split
  · exact ⟨_, rfl⟩
  · split
    · exact ⟨_, rfl⟩
    · rw [hscan, Option.map_some, DirectCommandScan.ensureNoErrors,
        if_neg (mt List.isEmpty_iff.1 herrors)]
      exact ⟨_, rfl⟩

/-- The scan returns with an error for each visited text that must fail exactly when no
message panics and every pass is complete.  Any error fails the compilation. -/
theorem lint_reports_every_hard_failure_iff :
    ((∃ scan, scanCatalog debugKey catalog workflow workflowRaw catalogRaw =
        some scan ∧
      (scan.errors.map some).Perm
        ((commandPasses debugKey catalog workflow workflowRaw catalogRaw).flatMap
          CommandPass.hardFailures)) ↔
      (∀ raw ∈ messageTexts debugKey catalog workflow workflowRaw catalogRaw,
        ¬Text.CutsCharacter 160 (joinedWords raw)) ∧
      ∀ pass ∈ commandPasses debugKey catalog workflow workflowRaw catalogRaw,
        pass.Complete) ∧
    ∀ scan, scanCatalog debugKey catalog workflow workflowRaw catalogRaw = some scan →
      scan.errors ≠ [] → ∀ (α : Type) (rest : DirectCommandScan → Result α),
        ∃ message, compileLoaded debugKey catalog workflow workflowRaw catalogRaw
          rest = some (.error message) := by
  refine ⟨?_, fun scan hscan herrors α rest =>
    compileLoaded_fails debugKey catalog workflow workflowRaw catalogRaw hscan herrors
      rest⟩
  have hreturns := scanCatalog_ne_none_iff debugKey catalog workflow workflowRaw
    catalogRaw
  constructor
  · rintro ⟨scan, hscan, hperm⟩
    refine ⟨hreturns.1 ?_, ?_⟩
    · rw [hscan]
      exact Option.some_ne_none _
    rw [← CommandPass.length_kept_eq_iff]
    have hlength := ((scanCatalog_errors_perm _ _ _ _ _ hscan).symm.trans
      hperm).length_eq
    simpa only [List.length_flatMap, List.length_map] using hlength
  · rintro ⟨hfit, hcomplete⟩
    obtain ⟨scan, hscan⟩ := Option.ne_none_iff_exists'.1 (hreturns.2 hfit)
    refine ⟨scan, hscan, (scanCatalog_errors_perm _ _ _ _ _ hscan).trans ?_⟩
    refine List.Perm.of_eq (List.flatMap_congr fun pass hpass => ?_)
    rw [CommandPass.hardFailures, (CommandPass.kept_eq_iff pass).2 (hcomplete pass hpass)]

end Lint

/-! ## A lost failure and a panic -/

/-- One agent, which requires a program inside the Xcode bundle. -/
def developerPathCatalog : AgentCatalogFile where
  agents := some
    [{ id := "a"
       backendProfile := "b"
       requiredTools := some ["/Applications/Xcode/Contents/Developer/swift"] }]

set_option maxRecDepth 4000 in
/-- A path into the Xcode bundle is a hard failure, and it names no tool. -/
theorem developer_path_is_lost :
    ¬∀ (debugKey : Yaml → Text) (catalog : AgentCatalogFile)
      (workflow : WorkflowFile) (workflowRaw catalogRaw : Yaml),
      ∃ scan, scanCatalog debugKey catalog workflow workflowRaw catalogRaw =
          some scan ∧
        (scan.errors.map some).Perm
          ((commandPasses debugKey catalog workflow workflowRaw
            catalogRaw).flatMap CommandPass.hardFailures) := by
  intro h
  obtain ⟨scan, hscan, hperm⟩ := h (fun _ => []) developerPathCatalog
    { initialState := "s", states := [] } .null .null
  have hlength := ((scanCatalog_errors_perm _ _ _ _ _ hscan).symm.trans
    hperm).length_eq
  simp only [List.length_flatMap, List.length_map] at hlength
  have hcomplete := (CommandPass.length_kept_eq_iff _).1 hlength
  refine absurd (hcomplete (.indexed (.requiredTool "a".toList)
    ("agents.".toList ++ "a".toList ++ ".required_tools".toList)
    [("/Applications/Xcode/Contents/Developer/swift".toList, 0)])
    (by simp [commandPasses, earlyPasses, requiredToolPasses,
      developerPathCatalog, AgentCatalogFile.agentList]) []
    (indexedPath ("agents.".toList ++ "a".toList ++ ".required_tools".toList) 0,
      "/Applications/Xcode/Contents/Developer/swift".toList) [] ?_ ?_).1 ?_
  · rfl
  · decide
  · decide

/-- One agent, whose prompt has an accent across byte 160. -/
def longPromptCatalog : AgentCatalogFile where
  agents := some
    [{ id := "a"
       backendProfile := "b"
       prompt := some (String.ofList
         ("xcrun: ".toList ++ List.replicate 77 'é')) }]

/-- A long prompt in which byte 160 is inside a character aborts the scan. -/
theorem long_prompt_panics :
    ¬∀ (debugKey : Yaml → Text) (catalog : AgentCatalogFile)
      (workflow : WorkflowFile) (workflowRaw catalogRaw : Yaml),
      (∀ argvTokens, hasUnknownXcrunFlag argvTokens ≠ none) ∧
        scanCatalog debugKey catalog workflow workflowRaw catalogRaw ≠ none := by
  intro h
  refine (h (fun _ => []) longPromptCatalog
    { initialState := "s", states := [] } .null .null).2 ?_
  rw [scanCatalog_eq, runSteps_eq_none_iff]
  refine ⟨.prompt "a".toList "prompt".toList
    ("xcrun: ".toList ++ List.replicate 77 'é'), ?_, by decide, ?_⟩
  · simp [scanSteps, promptSteps, agentPromptTexts, longPromptCatalog,
      AgentCatalogFile.agentList]
  · rw [← compactValue_eq_none_iff]
    decide

end ChainworksForge.Workflow
