import ChainworksForge.Support.Yaml

/-!
# Workflow definitions

The typed content of a workflow file.  Maps are lists of keyed entries in the
order in which the map is iterated; every reader below looks entries up by key
or ranges over all of them.
-/

namespace ChainworksForge.Workflow

open ChainworksForge.Support

/-- Reuse policy of a declared output. -/
inductive OutputReusePolicyDef where
  | mustProduce
  | allowUnchangedExisting
deriving DecidableEq

/-- Policy entry of a declared output. -/
structure OutputPolicyDef where
  reusePolicy : Option OutputReusePolicyDef := none
deriving DecidableEq

/-- Selection of reviewer artifacts for an aggregation task. -/
structure SelectedOutputsFromDef where
  sourcePlan : String
  outputContract : String
deriving DecidableEq

/-- A single agent invocation within a run block. -/
structure AgentTask where
  agent : String
  task : String
  inputs : Option (List String) := none
  outputs : Option (List String) := none
  outputPolicies : Option (List (String × OutputPolicyDef)) := none
  selectedOutputsFrom : Option SelectedOutputsFromDef := none
deriving DecidableEq

/-- Reviewers that are materialized from a selector artifact. -/
structure DynamicParallelDef where
  selectorArtifact : String
  outputContract : String
  inputs : List String := []
deriving DecidableEq

/-- A task that the control plane executes in process. -/
structure SystemTaskDef where
  taskType : String
  executorMode : String
deriving DecidableEq

/-- The execution block of a state. -/
structure RunBlock where
  sequence : Option (List AgentTask) := none
  parallel : Option (List AgentTask) := none
  thenTasks : Option (List AgentTask) := none
  dynamicParallel : Option DynamicParallelDef := none
  systemTask : Option SystemTaskDef := none
deriving DecidableEq

namespace RunBlock

/-- The authored tasks of a block, in the order in which it is compiled. -/
def tasks (block : RunBlock) : List AgentTask :=
  block.sequence.getD [] ++ block.parallel.getD [] ++ block.thenTasks.getD []

end RunBlock

/-- A transition to another state under a condition. -/
structure Transition where
  toState : String
  when : String
deriving DecidableEq

/-- Loop configuration of a revision cycle. -/
structure LoopConfig where
  counter : String
  max : Yaml

/-- Authored policy for valid outputs of failed executions. -/
structure DegradedOutputPolicyDef where
  mode : String
  contracts : Option (List String) := none
  failureKinds : Option (List String) := none
  maxSettlement : Option String := none
deriving DecidableEq

/-- A single state of the workflow. -/
structure WorkflowState where
  label : String
  stateType : Option String := none
  owner : String
  approval : Option String := none
  approvalPolicy : Option String := none
  run : Option RunBlock := none
  runAfterApproval : Option RunBlock := none
  loopConfig : Option LoopConfig := none
  transitions : Option (List Transition) := none
  degradedOutputPolicy : Option DegradedOutputPolicyDef := none

namespace WorkflowState

/-- Whether the state requires human approval. -/
def isManualGate (state : WorkflowState) : Bool :=
  state.stateType == some "manual_gate" || state.approval == some "required"

/-- Whether the state may not be bound to automatic escalation.  Every type
that is not a compute, start or end type counts. -/
def isUnsafeForEscalation (state : WorkflowState) : Bool :=
  state.isManualGate ||
    match state.stateType with
    | some t => !(t == "start" || t == "end" || t == "manual_gate")
    | none => false

/-- Whether the state is an end state. -/
def isEnd (state : WorkflowState) : Bool :=
  state.stateType == some "end"

/-- The run block and the block after approval. -/
def blocks (state : WorkflowState) : List RunBlock :=
  state.run.toList ++ state.runAfterApproval.toList

end WorkflowState

/-- Opt-in for compatibility discovery. -/
inductive LegacyBroadDiscoveryPolicy where
  | disabled
  | workflowOptIn
deriving DecidableEq

/-- Discovery section of a workflow. -/
structure DiscoveryDef where
  legacyBroadDiscoveryPolicy : Option LegacyBroadDiscoveryPolicy := none
deriving DecidableEq

/-- Metadata section of a workflow. -/
structure WorkflowMeta where
  id : Option String := none
  name : Option String := none
  description : Option String := none
  family : Option String := none
  riskClass : Option String := none
  stack : Option String := none
  usesAgentCatalog : Option String := none
  requiredProviders : Option (List String) := none
  execution : Option Yaml := none
  ideaInput : Option Yaml := none
  closeoutReadinessMode : Option String := none

/-- Root of a workflow file. -/
structure WorkflowFile where
  schemaVersion : Option Nat := none
  workflow : Option WorkflowMeta := none
  discovery : Option DiscoveryDef := none
  blockedRunContinuation : Option Json := none
  vars : Option (List (String × Yaml)) := none
  initialState : String
  states : List (String × WorkflowState)
  scoring : Option Yaml := none
  failurePolicy : Option Yaml := none

end ChainworksForge.Workflow
