import ChainworksForge.Support.OrderedMap
import ChainworksForge.Workflow.Catalog
import ChainworksForge.Workflow.XcodeCommand

/-!
# The scan for direct Xcode commands

Before a workflow is compiled, the texts of its two files that may be commands are
scanned.  Typed fields are read one by one.  Untyped parts are flattened first: every
text below a node goes into a map under the path that leads to it, and of two texts with
the same path the later one stays.

A scan writes messages with the beginning of the text they are about.  Cutting that
beginning may panic, and the scan is `none` then; see `compactValue`.
-/

namespace ChainworksForge.Workflow

open ChainworksForge.Support

/-! ## The result of a scan -/

/-- Insert a text into an ascending list of distinct texts. -/
def insertDistinct (t : Text) : List Text → List Text
  | [] => [t]
  | u :: rest =>
      if t < u then t :: u :: rest
      else if t = u then u :: rest
      else u :: insertDistinct t rest

structure AgentXcodeSignals where
  xcodeShimInjectionSignal : Bool := false
  requiresXcodeHostExecution : Bool := false
  xcodePromptLintWarnings : List Text := []
deriving DecidableEq

def AgentXcodeSignals.recordCommandDeclaration (signals : AgentXcodeSignals) :
    AgentXcodeSignals :=
  { signals with
    xcodeShimInjectionSignal := true
    requiresXcodeHostExecution := true }

inductive DirectCommandPolicyDecision where
  | allow
  | hardFail
  | softWarning
deriving DecidableEq

structure DirectCommandDeclaration where
  sourceDocument : Text
  sourcePath : Text
  declarationKind : Text
  tokenizationMode : Text
  rawValue : Text
  argvTokens : List Text
  matchedXcodeTool : Option Text
  policyDecision : DirectCommandPolicyDecision
  contributesToXcodeShimInjectionSignal : Bool
  warningOrErrorCode : Option Text
deriving DecidableEq

structure DirectCommandScan where
  agentSignals : Text → Option AgentXcodeSignals := fun _ => none
  permissionProfileSignals : Text → Option AgentXcodeSignals := fun _ => none
  declarations : List DirectCommandDeclaration := []
  errors : List Text := []

/-- Change the signals of an entry, which starts without any. -/
def modifySignals
    (signals : Text → Option AgentXcodeSignals) (id : Text)
    (change : AgentXcodeSignals → AgentXcodeSignals) :
    Text → Option AgentXcodeSignals :=
  Function.update signals id (some (change ((signals id).getD {})))

/-! ## One command -/

/-- Where a command stands and in whose name it is recorded. -/
structure CommandOwner where
  agentId : Option Text := none
  permissionProfileId : Option Text := none
  sourceDocument : Text
  declarationKind : Text

namespace CommandOwner

def shellAllowlist (profileId : Text) : CommandOwner where
  permissionProfileId := some profileId
  sourceDocument := "catalog".toList
  declarationKind := "shell_allowlist".toList

def requiredTool (agentId : Text) : CommandOwner where
  agentId := some agentId
  sourceDocument := "catalog".toList
  declarationKind := "required_tool".toList

def workflowTask (agentId : Text) : CommandOwner where
  agentId := some agentId
  sourceDocument := "workflow".toList
  declarationKind := "workflow_task".toList

def adapterRawCommand (agentId : Text) : CommandOwner where
  agentId := some agentId
  sourceDocument := "catalog".toList
  declarationKind := "adapter_raw_command".toList

def stateRawCommand (owner : Text) : CommandOwner where
  agentId := some owner
  sourceDocument := "workflow".toList
  declarationKind := "state_raw_command".toList

def rawYamlCommand (sourceDocument : Text) : CommandOwner where
  sourceDocument := sourceDocument
  declarationKind := "raw_yaml_command".toList

end CommandOwner

/-- The text of an error. -/
def commandErrorText
    (sourceDocument sourcePath errorCode compact : Text) : Text :=
  sourceDocument ++ ":".toList ++ sourcePath ++ ": ".toList ++ errorCode ++
    ": ".toList ++ compact

def recordSignals
    (scan : DirectCommandScan) (owner : CommandOwner)
    (classification : CommandClassification) : DirectCommandScan :=
  if classification.contributesToXcodeShimInjectionSignal then
    { scan with
      agentSignals :=
        match owner.agentId with
        | some agentId =>
            modifySignals scan.agentSignals agentId
              AgentXcodeSignals.recordCommandDeclaration
        | none => scan.agentSignals
      permissionProfileSignals :=
        match owner.permissionProfileId with
        | some profileId =>
            modifySignals scan.permissionProfileSignals profileId
              AgentXcodeSignals.recordCommandDeclaration
        | none => scan.permissionProfileSignals }
  else scan

def recordCommand
    (owner : CommandOwner) (scan : DirectCommandScan) (sourcePath raw : Text) :
    Option DirectCommandScan :=
  (classifyCommand raw).bind fun classification =>
    match classification.matchedXcodeTool with
    | none => some scan
    | some matchedTool =>
        let scan := recordSignals scan owner classification
        let errors :=
          match classification.errorCode with
          | some errorCode =>
              (compactValue raw).map fun compact =>
                scan.errors ++ [commandErrorText owner.sourceDocument sourcePath
                  errorCode compact]
          | none => some scan.errors
        errors.map fun errors =>
          { scan with
            errors
            declarations := scan.declarations ++
              [{ sourceDocument := owner.sourceDocument
                 sourcePath
                 declarationKind := owner.declarationKind
                 tokenizationMode := "shell_words_scaffold".toList
                 rawValue := raw
                 argvTokens := classification.argvTokens
                 matchedXcodeTool := some matchedTool
                 policyDecision :=
                   if classification.errorCode.isSome then .hardFail else .allow
                 contributesToXcodeShimInjectionSignal :=
                   classification.contributesToXcodeShimInjectionSignal
                 warningOrErrorCode := classification.errorCode }] }

/-! ## Flattening -/

/-- A path followed by an index. -/
def indexedPath (sourcePath : Text) (idx : Nat) : Text :=
  sourcePath ++ "[".toList ++ (Nat.repr idx).toList ++ "]".toList

section Flattening

-- The debug spelling of a key that is no text is that of the value library.
variable (debugKey : Yaml → Text)

/-- A path followed by a key. -/
def keyedPath (sourcePath : Text) (key : Yaml) : Text :=
  sourcePath ++ ".".toList ++ (key.asStr.map String.toList).getD (debugKey key)

mutual

def collectYamlStrings :
    Yaml → Text → List (Text × Text) → List (Text × Text)
  | .string s, sourcePath, strings => insertEntry sourcePath s.toList strings
  | .sequence items, sourcePath, strings =>
      collectItemStrings items 0 sourcePath strings
  | .mapping entries, sourcePath, strings =>
      collectEntryStrings entries sourcePath strings
  | .tagged _ value, sourcePath, strings =>
      collectYamlStrings value sourcePath strings
  | .null, _, strings | .bool _, _, strings | .number _, _, strings => strings
termination_by structural value => value

def collectItemStrings :
    List Yaml → Nat → Text → List (Text × Text) → List (Text × Text)
  | [], _, _, strings => strings
  | item :: rest, idx, sourcePath, strings =>
      collectItemStrings rest (idx + 1) sourcePath
        (collectYamlStrings item (indexedPath sourcePath idx) strings)
termination_by structural items => items

def collectEntryStrings :
    List (Yaml × Yaml) → Text → List (Text × Text) → List (Text × Text)
  | [], _, strings => strings
  | (key, value) :: rest, sourcePath, strings =>
      collectEntryStrings rest sourcePath
        (collectYamlStrings value (keyedPath debugKey sourcePath key) strings)
termination_by structural entries => entries

end

end Flattening

def mappingGet (value : Yaml) (key : String) : Option Yaml :=
  value.asMapping.bind (Yaml.lookupKey key)

def isCommandLikePath (sourcePath : Text) : Bool :=
  let lower := sourcePath.map Text.asciiLower
  Text.contains lower ".command".toList ||
    Text.contains lower ".commands".toList ||
    Text.contains lower ".cmd".toList ||
    Text.contains lower ".argv".toList ||
    Text.contains lower ".args".toList ||
    Text.contains lower ".shell.".toList ||
    Text.contains lower ".required_tools".toList ||
    Text.contains lower ".allowed_commands".toList

def isTypedAgentCommandField (sourcePath : Text) : Bool :=
  Text.contains sourcePath ".required_tools".toList

/-! ## Typed fields -/

/-- Record the commands of a list under the path of the list. -/
def recordIndexed
    (owner : CommandOwner) (listPath : Text) (commands : List (Text × Nat))
    (scan : DirectCommandScan) : Option DirectCommandScan :=
  commands.foldlM (fun scan command =>
    recordCommand owner scan (indexedPath listPath command.2) command.1) scan

/-- The texts of a shell allow-list, with their places. -/
def shellAllowCommands (profileValue : Yaml) : List (Text × Nat) :=
  match ((mappingGet profileValue "shell").bind fun shell =>
      mappingGet shell "allow").bind Yaml.asSequence with
  | some allow =>
      allow.zipIdx.filterMap fun command =>
        command.1.asStr.map fun raw => (raw.toList, command.2)
  | none => []

def scanPermissionProfileShellAllow
    (catalog : AgentCatalogFile) (scan : DirectCommandScan) :
    Option DirectCommandScan :=
  match catalog.permissionProfiles.bind Yaml.asMapping with
  | some profileMap =>
      profileMap.foldlM (fun scan entry =>
        match entry.1.asStr with
        | some profileId =>
            recordIndexed (.shellAllowlist profileId.toList)
              ("permission_profiles.".toList ++ profileId.toList ++
                ".shell.allow".toList)
              (shellAllowCommands entry.2) scan
        | none => some scan) scan
  | none => some scan

def scanAgentRequiredTools
    (catalog : AgentCatalogFile) (scan : DirectCommandScan) :
    Option DirectCommandScan :=
  catalog.agentList.foldlM (fun scan agent =>
    recordIndexed (.requiredTool agent.id.toList)
      ("agents.".toList ++ agent.id.toList ++ ".required_tools".toList)
      (((agent.requiredTools.getD []).map String.toList).zipIdx) scan) scan

/-- The free texts of an agent, under their field names. -/
def agentPromptTexts (agent : AgentEntry) : List (Text × Text) :=
  [("prompt".toList, agent.prompt), ("notes".toList, agent.notes),
    ("title".toList, agent.title)].filterMap fun field =>
      field.2.map fun raw => (field.1, raw.toList)

def recordPromptText
    (agentId field raw : Text) (scan : DirectCommandScan) :
    Option DirectCommandScan :=
  if mentionsXcodeToolOrPath raw then
    (compactValue raw).map fun compact =>
      let warning := "p051_prompt_mentions_xcode_command:".toList ++ field ++
        ":".toList ++ compact
      { scan with
        agentSignals := modifySignals scan.agentSignals agentId fun signals =>
          { signals with
            xcodePromptLintWarnings :=
              insertDistinct warning signals.xcodePromptLintWarnings }
        declarations := scan.declarations ++
          [{ sourceDocument := "catalog".toList
             sourcePath := "agents.".toList ++ agentId ++ ".".toList ++ field
             declarationKind := "prompt_text".toList
             tokenizationMode := "plain_text".toList
             rawValue := raw
             argvTokens := []
             matchedXcodeTool := matchedXcodeTool raw
             policyDecision := .softWarning
             contributesToXcodeShimInjectionSignal := false
             warningOrErrorCode :=
               some "p051_prompt_mentions_xcode_command".toList }] }
  else some scan

def scanAgentPromptText
    (catalog : AgentCatalogFile) (scan : DirectCommandScan) :
    Option DirectCommandScan :=
  catalog.agentList.foldlM (fun scan agent =>
    (agentPromptTexts agent).foldlM (fun scan field =>
      recordPromptText agent.id.toList field.1 field.2 scan) scan) scan

def scanAgentTasks
    (blockPath collection : Text) (tasks : Option (List AgentTask))
    (scan : DirectCommandScan) : Option DirectCommandScan :=
  (tasks.getD []).zipIdx.foldlM (fun scan task =>
    recordCommand (.workflowTask task.1.agent.toList) scan
      (indexedPath (blockPath ++ ".".toList ++ collection) task.2 ++
        ".task".toList)
      task.1.task.toList) scan

def scanRunBlock
    (blockPath : Text) (run : RunBlock) (scan : DirectCommandScan) :
    Option DirectCommandScan :=
  ((scanAgentTasks blockPath "sequence".toList run.sequence scan).bind
    (scanAgentTasks blockPath "parallel".toList run.parallel)).bind
    (scanAgentTasks blockPath "then".toList run.thenTasks)

/-- The blocks of a state, under their field names. -/
def runBlocks (state : WorkflowState) : List (Text × RunBlock) :=
  [("run".toList, state.run),
    ("run_after_approval".toList, state.runAfterApproval)].filterMap
      fun block => block.2.map fun run => (block.1, run)

def scanWorkflowRunBlocks
    (workflow : WorkflowFile) (scan : DirectCommandScan) :
    Option DirectCommandScan :=
  workflow.states.foldlM (fun scan state =>
    (runBlocks state.2).foldlM (fun scan block =>
      scanRunBlock
        ("states.".toList ++ state.1.toList ++ ".".toList ++ block.1) block.2
        scan) scan) scan

/-! ## Untyped parts -/

section Raw

variable (debugKey : Yaml → Text)

/-- Record the texts of a node that stand under command-like paths and mention a
tool. -/
def recordRaw
    (owner : CommandOwner) (skip : Text → Bool) (nodePath : Text) (node : Yaml)
    (scan : DirectCommandScan) : Option DirectCommandScan :=
  (collectYamlStrings debugKey node nodePath []).foldlM (fun scan entry =>
    if skip entry.1 || !isCommandLikePath entry.1 ||
        !mentionsXcodeToolOrPath entry.2 then some scan
    else recordCommand owner scan entry.1 entry.2) scan

def scanRawAgentCommandLikeValues
    (catalogRaw : Yaml) (scan : DirectCommandScan) :
    Option DirectCommandScan :=
  match (mappingGet catalogRaw "agents").bind Yaml.asSequence with
  | some agents =>
      agents.foldlM (fun scan agent =>
        match (mappingGet agent "id").bind Yaml.asStr with
        | some agentId =>
            recordRaw debugKey (.adapterRawCommand agentId.toList)
              isTypedAgentCommandField ("agents.".toList ++ agentId.toList)
              agent scan
        | none => some scan) scan
  | none => some scan

def scanRawWorkflowStateCommandLikeValues
    (workflowRaw : Yaml) (scan : DirectCommandScan) :
    Option DirectCommandScan :=
  match (mappingGet workflowRaw "states").bind Yaml.asMapping with
  | some states =>
      states.foldlM (fun scan entry =>
        match entry.1.asStr, (mappingGet entry.2 "owner").bind Yaml.asStr with
        | some stateId, some owner =>
            recordRaw debugKey (.stateRawCommand owner.toList)
              (fun _ => false) ("states.".toList ++ stateId.toList) entry.2 scan
        | _, _ => some scan) scan
  | none => some scan

def scanRawCommandLikeValues
    (sourceDocument : Text) (raw : Yaml) (scan : DirectCommandScan) :
    Option DirectCommandScan :=
  recordRaw debugKey (.rawYamlCommand sourceDocument) (fun _ => false)
    sourceDocument raw scan

/-- Scan both files, in their typed and in their raw form. -/
def scanCatalog
    (catalog : AgentCatalogFile) (workflow : WorkflowFile)
    (workflowRaw catalogRaw : Yaml) : Option DirectCommandScan := do
  let scan ← scanPermissionProfileShellAllow catalog {}
  let scan ← scanAgentRequiredTools catalog scan
  let scan ← scanAgentPromptText catalog scan
  let scan ← scanRawAgentCommandLikeValues debugKey catalogRaw scan
  let scan ← scanWorkflowRunBlocks workflow scan
  let scan ← scanRawWorkflowStateCommandLikeValues debugKey workflowRaw scan
  let scan ← scanRawCommandLikeValues debugKey "workflow".toList workflowRaw scan
  scanRawCommandLikeValues debugKey "catalog".toList catalogRaw scan

/-! ## The compilation -/

/-- A scan with errors stops the compilation. -/
def DirectCommandScan.ensureNoErrors (scan : DirectCommandScan) : Result Unit :=
  if scan.errors.isEmpty then pure ()
  else
    throw <| "P051 direct-command catalog lint failed:\n" ++
      String.ofList (List.intercalate ['\n'] scan.errors)

/-- The compilation of the loaded files up to the scan; `rest` is what is compiled when
the scan has no errors. -/
def compileLoaded {α : Type}
    (catalog : AgentCatalogFile) (workflow : WorkflowFile)
    (workflowRaw catalogRaw : Yaml) (rest : DirectCommandScan → Result α) :
    Option (Result α) :=
  match validateCatalogHasExactlyOneSystemLead catalog with
  | .error message => some (.error message)
  | .ok _ =>
      match validateToolchainCachePolicies catalog with
      | .error message => some (.error message)
      | .ok () =>
          (scanCatalog debugKey catalog workflow workflowRaw catalogRaw).map fun scan =>
            do
              scan.ensureNoErrors
              rest scan

end Raw

end ChainworksForge.Workflow
