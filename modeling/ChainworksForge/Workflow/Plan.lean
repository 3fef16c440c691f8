import ChainworksForge.Workflow.Catalog

/-!
# Compiled run plans

The output of the workflow compiler: every state with its resolved agents, its
tasks in phases, its transitions and its loop limit, and the frozen bindings
and policies that the orchestrator reads while it drives a run.
-/

namespace ChainworksForge.Workflow

open ChainworksForge.Support

/-- Frozen toolchain cache policy of an agent. -/
structure ToolchainCachePolicySnapshot where
  version : Nat
  enabled : Bool
  xcodeScope : Option ToolchainCacheScope := none
  goScope : Option ToolchainCacheScope := none
deriving DecidableEq

/-- A resolved skill, ready for prompt injection. -/
structure ResolvedSkill where
  id : String
  skillType : String
  injectedContent : String
  role : Option String := none
deriving DecidableEq

/-- A resolved agent binding. -/
structure ResolvedAgent where
  agentId : String
  backendProfileId : Option String := none
  provider : String
  model : Option String := none
  effort : Option String := none
  maxTurns : Option Nat := none
  temperature : Option F64 := none
  prompt : Option String := none
  permissionProfile : Option String := none
  skillRef : Option String := none
  skillRole : Option String := none
  skillSnapshotHash : Option String := none
  requestedMcpServerIds : List String := []
  resolvedSkill : Option ResolvedSkill := none
  outputContract : Option String := none
  worktreeWriteEnabled : Bool := false
  worktreeStrategy : Option String := none
  sessionReuseScope : Option String := none
  sessionFamilyId : Option String := none
  xcodeBrokerRequired : Bool := false
  xcodeShimInjectionSignal : Bool := false
  requiresXcodeHostExecution : Bool := false
  xcodePromptLintWarnings : List String := []
  toolchainCachePolicy : Option ToolchainCachePolicySnapshot := none
deriving DecidableEq

/-- Selection of reviewer artifacts for an aggregation task. -/
structure CompiledSelectedOutputsFrom where
  sourcePlan : String
  outputContract : String
deriving DecidableEq

/-- Reuse policy of an output. -/
inductive OutputReusePolicy where
  | mustProduce
  | allowUnchangedExisting
deriving DecidableEq

/-- Policy of an output. -/
structure OutputPolicy where
  reusePolicy : OutputReusePolicy
deriving DecidableEq

/-- Output schema resolved from a catalog contract. -/
structure OutputSchema where
  contractId : String
  format : String
  humanFormat : Option String := none
  machineFormat : Option String := none
  validationMode : Option String := none
  normalizedArtifactName : Option String := none
  rawArtifactName : Option String := none
  requiredFields : List String := []
deriving DecidableEq

/-- A compiled agent task.  Tasks of a phase are only enqueued after every task
of the lower phases has settled. -/
structure CompiledTask where
  agent : ResolvedAgent
  taskName : String
  inputs : List String := []
  outputs : List String := []
  outputPolicies : List (String × OutputPolicy) := []
  outputSchemas : List (String × OutputSchema) := []
  parallel : Bool
  phase : Nat := 0
  selectedOutputsFrom : Option CompiledSelectedOutputsFrom := none
deriving DecidableEq

/-- A compiled transition with its condition. -/
structure CompiledTransition where
  toState : String
  condition : String
deriving DecidableEq

/-- A compiled loop limit. -/
structure CompiledLoop where
  counter : String
  max : Nat
deriving DecidableEq

/-- Policy for valid outputs of failed executions. -/
structure DegradedOutputPolicy where
  mode : String := "deny"
  contracts : List String := []
  failureKinds : List String := []
  maxSettlement : String := "valid_outputs_from_failed_execution"
deriving DecidableEq

/-- Compiled reviewer fan-out. -/
structure CompiledDynamicParallel where
  selectorArtifact : String
  outputContract : String
  inputs : List String
deriving DecidableEq

/-- Compiled in-process task. -/
structure CompiledSystemTask where
  taskType : String
  executorMode : String
deriving DecidableEq

/-- A compiled state. -/
structure CompiledState where
  id : String
  label : String
  stateType : Option String := none
  owner : ResolvedAgent
  isManualGate : Bool
  isEnd : Bool
  tasks : List CompiledTask := []
  postApprovalTasks : List CompiledTask := []
  transitions : List CompiledTransition := []
  loopConfig : Option CompiledLoop := none
  degradedOutputPolicy : DegradedOutputPolicy := {}
  dynamicParallel : Option CompiledDynamicParallel := none
  systemTask : Option CompiledSystemTask := none
deriving DecidableEq

/-- A frozen tier of an escalation policy. -/
structure EscalationTierSnapshot where
  tierId : String
  kind : String
  backendProfileId : Option String := none
  maxAttempts : Option Nat := none
deriving DecidableEq

/-- A frozen escalation policy. -/
structure EscalationPolicySnapshot where
  policyId : String
  schemaVersion : String
  enabledDefault : Bool
  appliesToAgentId : Option String := none
  appliesToBackendProfileId : Option String := none
  appliesToStageId : Option String := none
  maxChainAttempts : Nat
  maxChainWallClockSeconds : Nat
  triggers : List String
  tiers : List EscalationTierSnapshot
  policyHash : String
  digestVersion : Option String := none
  rolloutOverrideState : Option String := none
deriving DecidableEq

/-- Routing metadata frozen with a candidate binding. -/
structure RoutingMetadata where
  routingId : String
  family : String
  capabilities : List String
  stackTags : List String
  surfaces : List String
  risks : List String
  enabledForProposalReview : Bool
  rolloutWave : String
  mandatoryWhen : List String := []
  usuallyPairWith : List String := []
  closeAlternatives : List String := []
  strongProposalKeywords : List String := []
  strongRepoFiles : List String := []
  strongRepoSymbols : List String := []
  scoreWeights : ScoreWeights := {}
deriving DecidableEq

/-- A frozen candidate for dynamic reviewer materialization. -/
structure CompiledDynamicAgentBinding where
  bindingId : String
  agentId : String
  resolvedAgentSnapshotJson : String
  outputContracts : List String
  permissionHash : String
  worktreeHash : String
  mcpProfileHash : String
  skillHash : String
  routingMetadataHash : String
  enabledForProposalReview : Bool
  rolloutWave : String
  catalogSnapshotHash : String
  routingMetadata : RoutingMetadata
deriving DecidableEq

/-- A fully compiled run plan. -/
structure RunPlan where
  initialState : String
  states : List (String × CompiledState)
  vars : List (String × Json) := []
  artifactPaths : List (String × String) := []
  workflowFamily : Option String := none
  riskClass : Option String := none
  stack : Option String := none
  legacyBroadDiscoveryPolicy : LegacyBroadDiscoveryPolicy := .disabled
  workflowSnapshotHash : String := ""
  catalogSnapshotHash : String := ""
  workflowSnapshotJson : String := ""
  catalogSnapshotJson : String := ""
  missionContextVersion : Option String := none
  dynamicCandidateBindings : List CompiledDynamicAgentBinding := []
  runPlanSnapshotFormatVersion : Option Nat := none
  closeoutReadinessMode : Option String := none
  escalationPolicies : List EscalationPolicySnapshot := []

namespace RunPlan

/-- The compiled state under an identifier. -/
def state? (plan : RunPlan) (stateId : String) : Option CompiledState :=
  plan.states.lookup stateId

end RunPlan

end ChainworksForge.Workflow
