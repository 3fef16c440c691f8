import ChainworksForge.Workflow.Definition

/-!
# Agent catalogs

The typed content of an agent catalog file and the checks that read nothing
else: the single system lead, the toolchain cache policies and the format
version of a frozen catalog.
-/

namespace ChainworksForge.Workflow

open ChainworksForge.Support

/-- Outcome of a fallible operation; the error is the text of its message. -/
abbrev Result (α : Type) :=
  Except String α

/-! ## Escalation policies -/

/-- Trigger vocabulary of an escalation policy. -/
inductive EscalationTriggerYaml where
  | repeatedSameBlockerDigest
  | contractOutputFailure
  | staleNoOutput
  | providerQuotaExhausted
  | transportFailure
  | loopBudgetThreshold
  | operatorForcedReservedRejected
deriving DecidableEq

/-- Wire spelling of a trigger. -/
def EscalationTriggerYaml.asRawStr : EscalationTriggerYaml → String
  | repeatedSameBlockerDigest => "repeated_same_blocker_digest"
  | contractOutputFailure => "contract_output_failure"
  | staleNoOutput => "stale_no_output"
  | providerQuotaExhausted => "provider_quota_exhausted"
  | transportFailure => "transport_failure"
  | loopBudgetThreshold => "loop_budget_threshold"
  | operatorForcedReservedRejected => "operator_forced_reserved_rejected"

/-- Binding selector of an escalation policy. -/
structure AppliesToYaml where
  agentId : Option String := none
  backendProfileId : Option String := none
  stageId : Option String := none
deriving DecidableEq

/-- One tier of an escalation chain. -/
structure EscalationTierYaml where
  tierId : String
  kind : String
  backendProfileId : Option String := none
  maxAttempts : Option Nat := none
deriving DecidableEq

/-- An authored escalation policy. -/
structure EscalationPolicyYaml where
  policyId : String
  schemaVersion : String
  enabledDefault : Bool
  appliesTo : AppliesToYaml
  maxChainAttempts : Nat
  maxChainWallClockSeconds : Nat
  triggers : List EscalationTriggerYaml
  tiers : List EscalationTierYaml
deriving DecidableEq

/-! ## Catalog entries -/

/-- Scope of a toolchain cache. -/
inductive ToolchainCacheScope where
  | run
  | session
deriving DecidableEq

/-- Toolchain cache policy of an agent. -/
structure ToolchainCachePolicyYaml where
  version : Nat
  enabled : Bool
  xcodeScope : Option ToolchainCacheScope := none
  goScope : Option ToolchainCacheScope := none
deriving DecidableEq

/-- A skill definition. -/
structure SkillDef where
  skillType : String
  path : Option String := none
  name : Option String := none
  description : Option String := none
  notes : Option String := none
deriving DecidableEq

/-- An output contract definition. -/
structure ContractDef where
  format : Option String := none
  humanFormat : Option String := none
  machineFormat : Option String := none
  validationMode : Option String := none
  normalizedArtifactName : Option String := none
  rawArtifactName : Option String := none
  requiredFields : List String := []
deriving DecidableEq

/-- A backend profile: provider, model and transport options. -/
structure BackendProfile where
  provider : String
  model : Option String := none
  effort : Option String := none
  temperature : Option F64 := none
  maxTurns : Option Nat := none
  structuredOutput : Option String := none
  mcp : Option (List String) := none
  runtimeProfile : Option String := none
deriving DecidableEq

/-- A runtime profile. -/
structure RuntimeProfile where
  capabilityClass : Option String := none
  adapterFamily : Option String := none
  transportKind : Option String := none
  mcpRealizationPath : Option String := none
  requires : Option (List String) := none
deriving DecidableEq

/-- A worktree policy. -/
structure WorktreePolicy where
  strategy : String
  path : Option String := none
  baseBranch : Option String := none
  writeEnabled : Bool := false
deriving DecidableEq

/-- Continuation over a live session handle. -/
structure LiveHandleContinuationYaml where
  enabled : Bool
  requireLiveSession : Bool := false
deriving DecidableEq

/-- Recovery of missing outputs without source edits. -/
structure OutputOnlyRecoveryYaml where
  enabled : Bool
  allowedTriggers : List String := []
  requireLiveSession : Bool := false
  sourceEditAllowance : Bool := false
deriving DecidableEq

/-- Continuation through a recorded provider session. -/
structure ProviderSessionResurrectionYaml where
  enabled : Bool
  allowedTriggers : List String := []
  requireRecordedProviderSessionId : Bool := false
  failClosedWhenUnsupported : Bool := false
deriving DecidableEq

/-- Opt-in for same-session work continuation. -/
structure ContinuationCapabilityYaml where
  enabled : Bool
  allowedTriggers : List String := []
  allowedSessionScope : List String := []
  forbiddenStageKinds : List String := []
  liveHandleContinuation : Option LiveHandleContinuationYaml := none
  providerSessionResurrection : Option ProviderSessionResurrectionYaml := none
  outputOnlyRecovery : Option OutputOnlyRecoveryYaml := none
  requireSameWorktree : Bool := false
  requireNoUnresolvedSideEffects : Bool := false
deriving DecidableEq

/-- System-level role of an agent. -/
inductive SystemRole where
  | lead
deriving DecidableEq

/-- Weights of the reviewer routing score. -/
structure ScoreWeights where
  forceInclude : ℤ := 5
  stackMatches : ℤ := 4
  surfaceMatches : ℤ := 3
  riskMatches : ℤ := 3
  strongKeywordMatches : ℤ := 2
  repoSignalMatches : ℤ := 2
  crossStackDependencyMatches : ℤ := 2
  baselineGapMatches : ℤ := 1
  overlapPenalty : ℤ := 3
deriving DecidableEq

/-- Routing metadata of an agent. -/
structure RoutingMetadataYaml where
  routingId : String
  family : String
  capabilities : List String := []
  stackTags : List String := []
  surfaces : List String := []
  risks : List String := []
  enabledForProposalReview : Bool := false
  rolloutWave : Option String := none
  mandatoryWhen : List String := []
  usuallyPairWith : List String := []
  closeAlternatives : List String := []
  strongProposalKeywords : List String := []
  strongRepoFiles : List String := []
  strongRepoSymbols : List String := []
  scoreWeights : ScoreWeights := {}
deriving DecidableEq

/-- An agent definition. -/
structure AgentEntry where
  id : String
  title : Option String := none
  mode : Option String := none
  systemRole : Option SystemRole := none
  backendProfile : String
  permissionProfile : Option String := none
  skillRef : Option String := none
  skillRole : Option String := none
  sessionReuseScope : Option String := none
  sessionFamilyId : Option String := none
  inputs : Option (List String) := none
  outputs : Option (List String) := none
  outputContract : Option String := none
  leadResolutionContract : Option String := none
  requiresHumanApproval : Option Bool := none
  prompt : Option String := none
  notes : Option String := none
  worktreePolicy : Option WorktreePolicy := none
  continuationCapability : Option ContinuationCapabilityYaml := none
  requiredTools : Option (List String) := none
  xcodeBrokerRequired : Option Bool := none
  xcodeShimInjectionSignal : Option Bool := none
  requiresXcodeHostExecution : Option Bool := none
  routing : Option RoutingMetadataYaml := none
  toolchainCachePolicy : Option ToolchainCachePolicyYaml := none
deriving DecidableEq

/-- Root of an agent catalog file. -/
structure AgentCatalogFile where
  schemaVersion : Option Nat := none
  catalogSnapshotFormatVersion : Option Nat := none
  app : Option Yaml := none
  paths : Option (List (String × String)) := none
  artifacts : Option (List (String × String)) := none
  skills : Option (List (String × SkillDef)) := none
  contracts : Option (List (String × ContractDef)) := none
  runtimeProfiles : Option (List (String × RuntimeProfile)) := none
  backendProfiles : Option (List (String × BackendProfile)) := none
  permissionProfiles : Option Yaml := none
  agents : Option (List AgentEntry) := none
  escalationPolicies : Option (List EscalationPolicyYaml) := none

namespace AgentCatalogFile

/-- The declared agents; none when the section is absent. -/
def agentList (catalog : AgentCatalogFile) : List AgentEntry :=
  catalog.agents.getD []

/-- The declared escalation policies; none when the section is absent. -/
def policyList (catalog : AgentCatalogFile) : List EscalationPolicyYaml :=
  catalog.escalationPolicies.getD []

/-- Whether a keyed section holds an entry under `key`. -/
def containsKey {α : Type} (entries : List (String × α)) (key : String) : Bool :=
  (entries.lookup key).isSome

/-- Whether the catalog declares the backend profile. -/
def hasBackendProfile (catalog : AgentCatalogFile) (profileId : String) : Bool :=
  match catalog.backendProfiles with
  | some profiles => containsKey profiles profileId
  | none => false

/-- Whether the catalog declares the agent. -/
def hasAgent (catalog : AgentCatalogFile) (agentId : String) : Bool :=
  catalog.agentList.any fun agent => agent.id == agentId

end AgentCatalogFile

/-! ## Catalog checks -/

/-- Whether the permission profiles declare a profile; a tagged section declares
none. -/
def permissionProfileExists (permissionProfiles : Option Yaml) (name : String) :
    Bool :=
  match permissionProfiles with
  | some (.mapping entries) => (Yaml.lookupKey name entries).isSome
  | _ => false

/-- The lead's backend profile, permission profile and resolution contract must
all be declared. -/
def validateSystemLeadRuntimeCoverage
    (catalog : AgentCatalogFile) (lead : AgentEntry) : Result Unit := do
  let some profiles := catalog.backendProfiles
    | throw "lead_backend_profile_missing: backend_profiles is empty"
  if !AgentCatalogFile.containsKey profiles lead.backendProfile then
    throw <| "lead_backend_profile_missing: system lead '" ++ lead.id ++
      "' references unknown backend_profile '" ++ lead.backendProfile ++ "'"
  let some permissionProfile := lead.permissionProfile
    | throw <| "lead_permission_profile_missing: system lead '" ++ lead.id ++
        "' must declare permission_profile"
  if !permissionProfileExists catalog.permissionProfiles permissionProfile then
    throw <| "lead_permission_profile_missing: system lead '" ++ lead.id ++
      "' references unknown permission_profile '" ++ permissionProfile ++ "'"
  let some contractId := lead.leadResolutionContract
    | throw <| "lead_resolution_contract_missing: system lead '" ++ lead.id ++
        "' must declare lead_resolution_contract"
  let some contracts := catalog.contracts
    | throw "lead_resolution_contract_missing: contracts is empty"
  if !AgentCatalogFile.containsKey contracts contractId then
    throw <| "lead_resolution_contract_missing: system lead '" ++ lead.id ++
      "' references unknown lead_resolution_contract '" ++ contractId ++ "'"

/-- An executable catalog has exactly one system lead, and it is covered. -/
def validateCatalogHasExactlyOneSystemLead
    (catalog : AgentCatalogFile) : Result AgentEntry :=
  match catalog.agentList.filter fun agent => agent.systemRole == some .lead with
  | [lead] => do
      validateSystemLeadRuntimeCoverage catalog lead
      pure lead
  | [] =>
      throw <| "lead_missing: executable agent catalog must declare exactly " ++
        "one agents[].system_role=lead"
  | leads =>
      throw <| "lead_ambiguous: executable agent catalog declares multiple " ++
        "system leads: " ++ String.intercalate ", " (leads.map (·.id))

/-- Only version 1 of the toolchain cache policy is supported. -/
def ToolchainCachePolicyYaml.validate
    (policy : ToolchainCachePolicyYaml) : Result Unit :=
  if policy.version != 1 then
    throw <| "toolchain_cache_policy.version=" ++ toString policy.version ++
      " is not supported; only version 1 is valid"
  else pure ()

/-- Every toolchain cache policy of the catalog must be supported. -/
def validateToolchainCachePolicies (catalog : AgentCatalogFile) : Result Unit :=
  catalog.agentList.forM fun agent =>
    match agent.toolchainCachePolicy with
    | none => pure ()
    | some policy =>
        match policy.validate with
        | .ok _ => pure ()
        | .error e => throw ("agent '" ++ agent.id ++ "': " ++ e)

/-- Format version of catalog snapshots that carry toolchain cache policies. -/
def catalogSnapshotFormatVersion : Nat :=
  1

/-- Compatibility of a frozen catalog's format version with its policies. -/
def validateCatalogSnapshotFormatVersion
    (catalog : AgentCatalogFile) : Result Bool :=
  let hasPolicy := catalog.agentList.any (·.toolchainCachePolicy.isSome)
  match catalog.catalogSnapshotFormatVersion with
  | none =>
      if !hasPolicy then pure false
      else
        throw <| "frozen_snapshot_contract_incompatible: catalog snapshot " ++
          "contains toolchain_cache_policy entries but omits " ++
          "catalog_snapshot_format_version; mixed-version snapshot is not supported"
  | some v =>
      if v = catalogSnapshotFormatVersion then pure true
      else
        throw <| "frozen_snapshot_contract_incompatible: catalog snapshot " ++
          "requires format version " ++ toString v ++
          " but this reader only supports version " ++
          toString catalogSnapshotFormatVersion

end ChainworksForge.Workflow
