import ChainworksForge.Workflow.Plan
import ChainworksForge.Support.Selection

/-!
# Escalation policies

Structural checks of authored escalation policies, the checks against the
catalog and the workflow, the compilation into frozen snapshots and the
resolution of a policy for one agent execution.

Hashing and JSON texts come from libraries outside the repository; they enter
through `TextCodec`.
-/

namespace ChainworksForge.Workflow

open ChainworksForge.Support

/-- Library functions on texts: the compact JSON text of a value and the
hexadecimal SHA-256 digest of a text. -/
structure TextCodec where
  jsonText : Json → String
  sha256 : String → String

/-- The first failed check of a list; a check is its failure and its message. -/
def firstFailure : List (Bool × String) → Result Unit
  | [] => pure ()
  | (failed, message) :: checks =>
      if failed then throw message else firstFailure checks

/-- A list of checks passes exactly when each of them does. -/
theorem firstFailure_eq_ok_iff (checks : List (Bool × String)) :
    firstFailure checks = .ok () ↔ ∀ check ∈ checks, check.1 = false := by
  induction checks with
  | nil => simp [firstFailure, pure, Except.pure]
  | cons check checks ih =>
      obtain ⟨failed, message⟩ := check
      cases failed with
      | false => simp [firstFailure, ih]
      | true => simp [firstFailure, throw, throwThe, MonadExceptOf.throw]

/-! ## Structure of one policy -/

/-- The supported schema version. -/
def escalationSchemaVersion : String :=
  "escalation_policy_v1"

/-- Maximum number of tiers of a policy. -/
def policyMaxTiers : Nat :=
  32

/-- Maximum number of triggers of a policy. -/
def policyMaxTriggers : Nat :=
  16

/-- Maximum length of an identifier in bytes. -/
def policyIdMaxLen : Nat :=
  64

/-- A safe identifier: 1 to 64 ASCII letters, digits or characters of `_.:-`. -/
def isSafePolicyIdentifier (s : String) : Bool :=
  !s.toList.isEmpty && decide (Text.byteLength s.toList ≤ policyIdMaxLen) &&
    s.toList.all fun c => c.isAlphanum || c == '_' || c == '.' || c == ':' || c == '-'

/-- Head of every message about a policy. -/
def policyMessage (policy : EscalationPolicyYaml) (text : String) : String :=
  "escalation_policy_v1 '" ++ policy.policyId ++ "': " ++ text

/-- Head of every message about a tier. -/
def tierMessage
    (policy : EscalationPolicyYaml) (tier : EscalationTierYaml) (text : String) :
    String :=
  "escalation_policy_v1 '" ++ policy.policyId ++ "' tier '" ++ tier.tierId ++
    "': " ++ text

/-- The check that a declared selector is a safe identifier. -/
def selectorCheck
    (policy : EscalationPolicyYaml) (field : String) (value : Option String) :
    Bool × String :=
  (value.any fun id => !isSafePolicyIdentifier id,
    policyMessage policy <| "applies_to." ++ field ++ " must be 1-" ++
      toString policyIdMaxLen ++ " ASCII alphanumeric/_.:-characters (P058-SEC-L1)")

/-- A tier has a safe identifier, a known kind and the fields its kind needs. -/
def validateTierStructure
    (policy : EscalationPolicyYaml) (tier : EscalationTierYaml) : Result Unit :=
  if !isSafePolicyIdentifier tier.tierId then
    throw <| policyMessage policy <| "tier_id must be 1-" ++ toString policyIdMaxLen ++
      " ASCII alphanumeric/_.:-characters; " ++
      "got value that fails identifier validation (P058-SEC-L1)"
  else
    match tier.kind with
    | "backend_profile" =>
        firstFailure
          [ (tier.backendProfileId.isNone,
              tierMessage policy tier
                "kind 'backend_profile' requires backend_profile_id"),
            (tier.backendProfileId.any fun id => !isSafePolicyIdentifier id,
              tierMessage policy tier <| "backend_profile_id must be 1-" ++
                toString policyIdMaxLen ++
                " ASCII alphanumeric/_.:-characters (P058-SEC-L1)"),
            (tier.maxAttempts.isNone,
              tierMessage policy tier
                "kind 'backend_profile' requires max_attempts") ]
    | "same_backend_retry" | "lead_mediation" =>
        firstFailure
          [ (tier.maxAttempts.isNone,
              tierMessage policy tier
                ("kind '" ++ tier.kind ++ "' requires max_attempts")) ]
    | "pause" => pure ()
    | other =>
        throw <| tierMessage policy tier <| "unknown kind '" ++ other ++
          "'; expected one of: same_backend_retry, backend_profile, " ++
          "lead_mediation, pause"

/-- The checks of a policy before its tiers, in order. -/
def policyStructureChecks (policy : EscalationPolicyYaml) : List (Bool × String) :=
  [ (!isSafePolicyIdentifier policy.policyId,
      "escalation_policy_v1: policy_id must be 1-" ++ toString policyIdMaxLen ++
        " ASCII alphanumeric/_.:-characters; " ++
        "got value that fails identifier validation (P058-SEC-L1)"),
    (policy.schemaVersion != escalationSchemaVersion,
      policyMessage policy <| "schema_version must be '" ++ escalationSchemaVersion ++
        "'; got '" ++ policy.schemaVersion ++ "'"),
    (policy.tiers.isEmpty, policyMessage policy "tiers must not be empty"),
    (decide (policyMaxTiers < policy.tiers.length),
      policyMessage policy <| "tiers must not exceed " ++ toString policyMaxTiers ++
        " entries; got " ++ toString policy.tiers.length ++ " (P058-SEC-M1)"),
    (policy.triggers.isEmpty, policyMessage policy "triggers must not be empty"),
    (decide (policyMaxTriggers < policy.triggers.length),
      policyMessage policy <| "triggers must not exceed " ++
        toString policyMaxTriggers ++ " entries; got " ++
        toString policy.triggers.length ++ " (P058-SEC-M1)"),
    selectorCheck policy "agent_id" policy.appliesTo.agentId,
    selectorCheck policy "backend_profile_id" policy.appliesTo.backendProfileId,
    selectorCheck policy "stage_id" policy.appliesTo.stageId,
    (policy.appliesTo.agentId.isNone && policy.appliesTo.backendProfileId.isNone &&
        policy.appliesTo.stageId.isNone,
      policyMessage policy <| "applies_to must set at least one of agent_id, " ++
        "backend_profile_id, or stage_id"),
    (policy.appliesTo.agentId.isSome && policy.appliesTo.backendProfileId.isSome,
      policyMessage policy <| "applies_to combining agent_id and backend_profile_id " ++
        "is not a recognised binding pattern and will never be matched at runtime; " ++
        "use a single specificity axis or a recognised two-field combination " ++
        "(stage_id+agent_id or stage_id+backend_profile_id) " ++
        "(escalation_policy_ambiguous_at_compile)") ]

/-- The structural check of one policy. -/
def validatePolicyStructure (policy : EscalationPolicyYaml) : Result Unit := do
  firstFailure (policyStructureChecks policy)
  policy.tiers.forM (validateTierStructure policy)

/-- What the structural check guarantees about the selectors and the tiers. -/
structure WellFormedPolicy (policy : EscalationPolicyYaml) : Prop where
  hasTier : policy.tiers ≠ []
  hasSelector :
    policy.appliesTo.agentId.isSome ∨ policy.appliesTo.backendProfileId.isSome ∨
      policy.appliesTo.stageId.isSome
  singleAxis :
    policy.appliesTo.agentId = none ∨ policy.appliesTo.backendProfileId = none

/-- A policy that passes the structural check is well formed. -/
theorem wellFormedPolicy_of_validatePolicyStructure
    (policy : EscalationPolicyYaml)
    (hvalid : validatePolicyStructure policy = .ok ()) :
    WellFormedPolicy policy := by
  have hchecks : firstFailure (policyStructureChecks policy) = .ok () := by
    cases hfirst : firstFailure (policyStructureChecks policy) with
    | error e =>
        simp [validatePolicyStructure, hfirst, bind, Except.bind] at hvalid
    | ok u => rfl
  rw [firstFailure_eq_ok_iff] at hchecks
  simp only [policyStructureChecks, List.mem_cons, List.not_mem_nil, or_false,
    forall_eq_or_imp, forall_eq] at hchecks
  obtain ⟨-, -, htiers, -, -, -, -, -, -, hany, hboth⟩ := hchecks
  constructor
  · simpa using htiers
  · cases hagent : policy.appliesTo.agentId <;>
      cases hprofile : policy.appliesTo.backendProfileId <;>
      cases hstage : policy.appliesTo.stageId <;>
      simp_all
  · cases hagent : policy.appliesTo.agentId <;>
      cases hprofile : policy.appliesTo.backendProfileId <;>
      simp_all

/-! ## Checks against the catalog and the workflow -/

/-- A compile diagnostic with its stable reason code. -/
structure EscalationCompileDiagnostic where
  policyId : String
  pauseReasonCode : String
  detail : String
deriving DecidableEq

/-- Reason code of an unknown backend profile. -/
def unknownBackendProfileCode : String :=
  "escalation_policy_unknown_backend_profile"

/-- Reason code of an ambiguous binding. -/
def ambiguousAtCompileCode : String :=
  "escalation_policy_ambiguous_at_compile"

/-- Reason code of a binding to a side-effect stage. -/
def unsafeForSideEffectStageCode : String :=
  "escalation_policy_unsafe_for_side_effect_stage"

/-- A diagnostic about one policy. -/
def policyDiagnostic (policy : EscalationPolicyYaml) (code detail : String) :
    EscalationCompileDiagnostic where
  policyId := policy.policyId
  pauseReasonCode := code
  detail := "policy '" ++ policy.policyId ++ "' " ++ detail

/-- The diagnostic of a declared selector that fails a test. -/
def selectorDiagnostic
    (policy : EscalationPolicyYaml) (value : Option String) (fails : String → Bool)
    (code : String) (detail : String → String) :
    List EscalationCompileDiagnostic :=
  match value with
  | some id => if fails id then [policyDiagnostic policy code (detail id)] else []
  | none => []

/-- Selectors and profile tiers must name entries of the catalog. -/
def validatePoliciesAgainstCatalog
    (catalog : AgentCatalogFile) : List EscalationCompileDiagnostic :=
  catalog.policyList.flatMap fun policy =>
    selectorDiagnostic policy policy.appliesTo.backendProfileId
        (fun id => !catalog.hasBackendProfile id) unknownBackendProfileCode
        (fun id => "applies_to.backend_profile_id '" ++ id ++
          "' does not exist in catalog; the policy would compile but never match " ++
          "any agent execution at runtime") ++
      selectorDiagnostic policy policy.appliesTo.agentId
        (fun id => !catalog.hasAgent id) ambiguousAtCompileCode
        (fun id => "applies_to.agent_id '" ++ id ++
          "' does not exist in the agent catalog; the policy would compile but " ++
          "never match any agent execution at runtime") ++
      policy.tiers.flatMap fun tier =>
        if tier.kind == "backend_profile" then
          selectorDiagnostic policy tier.backendProfileId
            (fun id => !catalog.hasBackendProfile id) unknownBackendProfileCode
            (fun id => "tier '" ++ tier.tierId ++
              "' references unknown backend_profile_id '" ++ id ++ "'")
        else []

/-- Debug spelling of an identifier. -/
def debugText (s : String) : String :=
  "\"" ++ s ++ "\""

/-- Debug spelling of an optional identifier. -/
def debugOption : Option String → String
  | some s => "Some(" ++ debugText s ++ ")"
  | none => "None"

/-- The diagnostics of policies that share their whole binding.  They are
grouped per binding in the source; here they come in policy order. -/
def identicalBindingDiagnostics
    (policies : List EscalationPolicyYaml) : List EscalationCompileDiagnostic :=
  policies.flatMap fun policy =>
    let sharing := policies.filter fun other => other.appliesTo == policy.appliesTo
    if 1 < sharing.length then
      [policyDiagnostic policy ambiguousAtCompileCode <|
        "has the same applies_to binding (agent_id=" ++
          debugOption policy.appliesTo.agentId ++ ", backend_profile_id=" ++
          debugOption policy.appliesTo.backendProfileId ++ ", stage_id=" ++
          debugOption policy.appliesTo.stageId ++ ") as: " ++
          String.intercalate ", "
            ((sharing.map (·.policyId)).filter fun id => id != policy.policyId)]
    else []

/-- The pair of diagnostics of two policies on different axes that match the
same agent. -/
def crossAxisDiagnostics
    (first second : EscalationPolicyYaml) (firstBinding secondBinding reason : String) :
    List EscalationCompileDiagnostic :=
  [ policyDiagnostic first ambiguousAtCompileCode <|
      "(" ++ firstBinding ++ ") and policy '" ++ second.policyId ++ "' (" ++
        secondBinding ++ ") " ++ reason,
    policyDiagnostic second ambiguousAtCompileCode <|
      "(" ++ secondBinding ++ ") and policy '" ++ first.policyId ++ "' (" ++
        firstBinding ++ ") " ++ reason ]

/-- Policies bound to an agent and policies bound to the agent's profile in the
same stage scope. -/
def crossAxisBindingDiagnostics
    (policies : List EscalationPolicyYaml) (agentToProfile : String → Option String)
    (stageScoped : Bool) : List EscalationCompileDiagnostic :=
  policies.flatMap fun agentPolicy =>
    match agentPolicy.appliesTo.agentId, agentPolicy.appliesTo.backendProfileId with
    | some agentId, none =>
        if agentPolicy.appliesTo.stageId.isSome == stageScoped then
          match agentToProfile agentId with
          | none => []
          | some agentProfile =>
              policies.flatMap fun profilePolicy =>
                match profilePolicy.appliesTo.agentId,
                    profilePolicy.appliesTo.backendProfileId with
                | none, some profileId =>
                    if profilePolicy.appliesTo.stageId == agentPolicy.appliesTo.stageId &&
                        agentProfile == profileId then
                      let stageText := match agentPolicy.appliesTo.stageId with
                        | some stageId => "stage_id=" ++ debugText stageId ++ ", "
                        | none => ""
                      let stageReason := match agentPolicy.appliesTo.stageId with
                        | some stageId => " in stage '" ++ stageId ++ "'"
                        | none => ""
                      crossAxisDiagnostics agentPolicy profilePolicy
                        (stageText ++ "agent_id=" ++ debugText agentId)
                        (stageText ++ "backend_profile_id=" ++ debugText profileId)
                        ("have equal specificity and both match agent '" ++ agentId ++
                          "' which uses profile '" ++ agentProfile ++ "'" ++ stageReason ++
                          "; declare deterministic precedence or use a single binding axis")
                    else []
                | _, _ => []
        else []
    | _, _ => []

/-- Equal-specificity bindings: identical bindings, then stage-scoped pairs,
then unscoped pairs of an agent and its profile. -/
def validatePoliciesForAmbiguousBindings
    (policies : List EscalationPolicyYaml) (agentToProfile : String → Option String) :
    List EscalationCompileDiagnostic :=
  identicalBindingDiagnostics policies ++
    crossAxisBindingDiagnostics policies agentToProfile true ++
    crossAxisBindingDiagnostics policies agentToProfile false

/-- Bindings to side-effect stages, or to agents and profiles that run there. -/
def validatePoliciesForUnsafeStageBindings
    (policies : List EscalationPolicyYaml)
    (unsafeStageIds unsafeAgentIds unsafeBackendProfileIds : List String) :
    List EscalationCompileDiagnostic :=
  policies.flatMap fun policy =>
    selectorDiagnostic policy policy.appliesTo.stageId
        (unsafeStageIds.contains ·) unsafeForSideEffectStageCode
        (fun id => "targets side-effect/release stage '" ++ id ++
          "'; auto-escalation on manual-gate and release stages is not permitted") ++
      selectorDiagnostic policy policy.appliesTo.agentId
        (unsafeAgentIds.contains ·) unsafeForSideEffectStageCode
        (fun id => "targets agent '" ++ id ++
          "' which runs in a side-effect/release stage; " ++
          "auto-escalation on manual-gate and release stages is not permitted") ++
      selectorDiagnostic policy policy.appliesTo.backendProfileId
        (unsafeBackendProfileIds.contains ·) unsafeForSideEffectStageCode
        (fun id => "targets backend_profile '" ++ id ++
          "' which is used by an agent running in a side-effect/release stage; " ++
          "auto-escalation on manual-gate and release stages is not permitted")

/-- Stage selectors must name states of the workflow. -/
def validateAppliesToStageSelectors
    (policies : List EscalationPolicyYaml) (allStageIds : List String) :
    List EscalationCompileDiagnostic :=
  policies.flatMap fun policy =>
    selectorDiagnostic policy policy.appliesTo.stageId
      (fun id => !allStageIds.contains id) ambiguousAtCompileCode
      (fun id => "applies_to.stage_id '" ++ id ++
        "' does not exist in the workflow states; the policy would compile but " ++
        "never match any agent execution at runtime")

/-! ## Compilation -/

/-- A keyed member that is left out when it is absent. -/
def optionalMember (key : String) (value : Option Json) : List (Text × Json) :=
  match value with
  | some json => [(key.toList, json)]
  | none => []

/-- JSON string of a text. -/
def jsonString (s : String) : Json :=
  .string s.toList

/-- The serialized policy, with keys in order. -/
def policyJson (policy : EscalationPolicyYaml) : Json :=
  .object
    [ ("applies_to".toList, .object <|
        optionalMember "agent_id" (policy.appliesTo.agentId.map jsonString) ++
        optionalMember "backend_profile_id"
          (policy.appliesTo.backendProfileId.map jsonString) ++
        optionalMember "stage_id" (policy.appliesTo.stageId.map jsonString)),
      ("enabled_default".toList, .bool policy.enabledDefault),
      ("max_chain_attempts".toList, .number (.posInt policy.maxChainAttempts)),
      ("max_chain_wall_clock_seconds".toList,
        .number (.posInt policy.maxChainWallClockSeconds)),
      ("policy_id".toList, jsonString policy.policyId),
      ("schema_version".toList, jsonString policy.schemaVersion),
      ("tiers".toList, .array <| policy.tiers.map fun tier => .object <|
        optionalMember "backend_profile_id" (tier.backendProfileId.map jsonString) ++
        [("kind".toList, jsonString tier.kind)] ++
        optionalMember "max_attempts"
          (tier.maxAttempts.map fun n => .number (.posInt n)) ++
        [("tier_id".toList, jsonString tier.tierId)]),
      ("triggers".toList,
        .array <| policy.triggers.map fun trigger => jsonString trigger.asRawStr) ]

/-- Digest of the canonical JSON text of a policy. -/
def computePolicyHash (codec : TextCodec) (policy : EscalationPolicyYaml) : String :=
  "sha256:" ++ codec.sha256 (codec.jsonText (policyJson policy))

/-- The profile of an agent; the last entry of an identifier wins. -/
def agentToProfile (catalog : AgentCatalogFile) (agentId : String) : Option String :=
  (catalog.agentList.reverse.find? fun agent => agent.id == agentId).map
    (·.backendProfile)

/-- The frozen form of one policy. -/
def freezePolicy (codec : TextCodec) (policy : EscalationPolicyYaml) :
    EscalationPolicySnapshot where
  policyId := policy.policyId
  schemaVersion := policy.schemaVersion
  enabledDefault := policy.enabledDefault
  appliesToAgentId := policy.appliesTo.agentId
  appliesToBackendProfileId := policy.appliesTo.backendProfileId
  appliesToStageId := policy.appliesTo.stageId
  maxChainAttempts := policy.maxChainAttempts
  maxChainWallClockSeconds := policy.maxChainWallClockSeconds
  triggers := policy.triggers.map (·.asRawStr)
  tiers := policy.tiers.map fun tier =>
    { tierId := tier.tierId
      kind := tier.kind
      backendProfileId := tier.backendProfileId
      maxAttempts := tier.maxAttempts }
  policyHash := computePolicyHash codec policy
  digestVersion := some "escalation_blocker_digest_v1"
  rolloutOverrideState := none

/-- All diagnostics of the escalation policies of a catalog. -/
def escalationDiagnostics
    (catalog : AgentCatalogFile)
    (unsafeStageIds unsafeAgentIds unsafeBackendProfileIds allStageIds : List String) :
    List EscalationCompileDiagnostic :=
  validatePoliciesAgainstCatalog catalog ++
    validatePoliciesForAmbiguousBindings catalog.policyList (agentToProfile catalog) ++
    validatePoliciesForUnsafeStageBindings catalog.policyList
      unsafeStageIds unsafeAgentIds unsafeBackendProfileIds ++
    validateAppliesToStageSelectors catalog.policyList allStageIds

/-- Compile the escalation policies of a catalog.  The structure of every policy
is checked before any diagnostic is built. -/
def compileEscalationPolicies
    (codec : TextCodec) (catalog : AgentCatalogFile)
    (unsafeStageIds unsafeAgentIds unsafeBackendProfileIds allStageIds : List String) :
    Result (List EscalationPolicySnapshot) := do
  catalog.policyList.forM fun policy =>
    match validatePolicyStructure policy with
    | .ok _ => pure ()
    | .error e =>
        throw <| "escalation_policy compile failed: " ++
          "[escalation_policy_compile_failed] policy structural validation: " ++ e
  match escalationDiagnostics catalog
      unsafeStageIds unsafeAgentIds unsafeBackendProfileIds allStageIds with
  | [] => pure (catalog.policyList.map (freezePolicy codec))
  | diagnostics =>
      throw <| "escalation_policy compile failed:\n" ++
        String.intercalate "\n"
          (diagnostics.map fun d => "[" ++ d.pauseReasonCode ++ "] " ++ d.detail)

/-! ## Resolution -/

/-- A resolved policy with its first tier. -/
structure ResolvedEscalationPolicy where
  policyId : String
  policyHash : String
  firstTierId : String
  firstTierKindRaw : String
deriving DecidableEq

/-- Score of an enabled policy that matches an execution. -/
def bindingScore (stageId agentId : String) (backendProfileId : Option String)
    (policy : EscalationPolicySnapshot) : Option ℕ :=
  if !policy.enabledDefault then none
  else
    match policy.appliesToStageId, policy.appliesToAgentId,
        policy.appliesToBackendProfileId with
    | some s, some a, none => if s == stageId && a == agentId then some 5 else none
    | some s, none, some bp =>
        if s == stageId && backendProfileId == some bp then some 4 else none
    | some s, none, none => if s == stageId then some 3 else none
    | none, some a, none => if a == agentId then some 2 else none
    | none, none, some bp => if backendProfileId == some bp then some 1 else none
    | _, _, _ => none

/-- The resolved form of a policy; absent when it has no tier. -/
def resolvedPolicy (policy : EscalationPolicySnapshot) :
    Option ResolvedEscalationPolicy :=
  policy.tiers.head?.map fun firstTier =>
    { policyId := policy.policyId
      policyHash := policy.policyHash
      firstTierId := firstTier.tierId
      firstTierKindRaw := firstTier.kind }

/-- The best matching policy for one agent execution. -/
def resolvePolicyForAgent
    (policies : List EscalationPolicySnapshot) (stageId agentId : String)
    (backendProfileId : Option String) : Option ResolvedEscalationPolicy :=
  (selectBest (bindingScore stageId agentId backendProfileId) policies).bind
    fun best => resolvedPolicy best.2

/-! ## Resolution as a choice of the most specific candidate

A policy applies to an execution when every selector it declares names the
execution.  A stage selector weighs more than the two others together, and an
agent selector more than a profile selector.
-/

/-- Every declared selector of a policy names the execution. -/
structure AppliesTo
    (policy : EscalationPolicySnapshot) (stageId agentId : String)
    (backendProfileId : Option String) : Prop where
  stage : ∀ s, policy.appliesToStageId = some s → s = stageId
  agent : ∀ a, policy.appliesToAgentId = some a → a = agentId
  profile : ∀ bp, policy.appliesToBackendProfileId = some bp → backendProfileId = some bp

/-- An enabled policy that applies. -/
def IsCandidate
    (stageId agentId : String) (backendProfileId : Option String)
    (policy : EscalationPolicySnapshot) : Prop :=
  policy.enabledDefault = true ∧ AppliesTo policy stageId agentId backendProfileId

/-- Specificity of a binding. -/
def specificity (policy : EscalationPolicySnapshot) : ℕ :=
  (if policy.appliesToStageId.isSome then 3 else 0) +
    (if policy.appliesToAgentId.isSome then 2 else 0) +
    (if policy.appliesToBackendProfileId.isSome then 1 else 0)

/-- The snapshot of a structurally valid policy. -/
def FrozenFrom (codec : TextCodec) (policy : EscalationPolicySnapshot) : Prop :=
  ∃ source, WellFormedPolicy source ∧ freezePolicy codec source = policy

/-- The score of a structurally valid policy is its specificity, and it has a
score exactly when it is a candidate. -/
theorem bindingScore_eq_some_iff
    (codec : TextCodec) (policy : EscalationPolicySnapshot)
    (hfrozen : FrozenFrom codec policy) (stageId agentId : String)
    (backendProfileId : Option String) (score : ℕ) :
    bindingScore stageId agentId backendProfileId policy = some score ↔
      IsCandidate stageId agentId backendProfileId policy ∧
        score = specificity policy := by
  obtain ⟨source, hwf, rfl⟩ := hfrozen
  have hselector := hwf.hasSelector
  have haxis := hwf.singleAxis
  have happlies :
      AppliesTo (freezePolicy codec source) stageId agentId backendProfileId ↔
        (∀ s, source.appliesTo.stageId = some s → s = stageId) ∧
          (∀ a, source.appliesTo.agentId = some a → a = agentId) ∧
          ∀ bp, source.appliesTo.backendProfileId = some bp →
            backendProfileId = some bp :=
    ⟨fun h => ⟨h.stage, h.agent, h.profile⟩, fun h => ⟨h.1, h.2.1, h.2.2⟩⟩
  unfold IsCandidate
  rw [happlies]
  cases henabled : source.enabledDefault with
  | false => simp [bindingScore, freezePolicy, henabled]
  | true =>
      -- One case for each of the five binding patterns; the others are malformed.
      cases hs : source.appliesTo.stageId <;>
        cases ha : source.appliesTo.agentId <;>
        cases hb : source.appliesTo.backendProfileId <;>
        simp_all [bindingScore, specificity, freezePolicy, and_assoc,
          eq_comm (a := score)]

/-- The rank of a candidate is its specificity. -/
theorem bindingScore_of_isCandidate
    (codec : TextCodec) (policy : EscalationPolicySnapshot)
    (hfrozen : FrozenFrom codec policy) (stageId agentId : String)
    (backendProfileId : Option String)
    (hcandidate : IsCandidate stageId agentId backendProfileId policy) :
    bindingScore stageId agentId backendProfileId policy = some (specificity policy) :=
  (bindingScore_eq_some_iff codec policy hfrozen stageId agentId backendProfileId _).2
    ⟨hcandidate, rfl⟩

/-- Without a diagnostic no two policies share their binding. -/
theorem nodup_appliesTo_of_identicalBindingDiagnostics
    (policies : List EscalationPolicyYaml)
    (hnone : identicalBindingDiagnostics policies = []) :
    (policies.map (·.appliesTo)).Nodup := by
  rw [List.nodup_iff_count_le_one]
  intro binding
  rw [List.count, List.countP_map, List.countP_eq_length_filter]
  by_cases hmem : ∃ policy ∈ policies, policy.appliesTo = binding
  · obtain ⟨policy, hpolicy, rfl⟩ := hmem
    have hsingle := (List.flatMap_eq_nil_iff.1 hnone) policy hpolicy
    by_contra hmany
    have hshared :
        1 < (policies.filter fun other => other.appliesTo == policy.appliesTo).length :=
      Nat.lt_of_not_le hmany
    simp only [hshared, if_true] at hsingle
    cases hsingle
  · have hempty :
        policies.filter (fun policy => policy.appliesTo == binding) = [] := by
      rw [List.filter_eq_nil_iff]
      intro policy hpolicy heq
      exact hmem ⟨policy, hpolicy, by simpa using heq⟩
    have hzero :
        (policies.filter ((fun x => x == binding) ∘ fun p => p.appliesTo)).length = 0 :=
      congrArg List.length hempty
    omega

/-- Policies that pass both checks have pairwise different bindings. -/
theorem nodup_appliesTo_of_unambiguous
    (policies : List EscalationPolicyYaml) (agentToProfile : String → Option String)
    (hunambiguous :
      validatePoliciesForAmbiguousBindings policies agentToProfile = []) :
    (policies.map (·.appliesTo)).Nodup := by
  apply nodup_appliesTo_of_identicalBindingDiagnostics
  rw [validatePoliciesForAmbiguousBindings, List.append_assoc] at hunambiguous
  exact (List.append_eq_nil_iff.1 hunambiguous).1

/-- A weight determines which selectors are declared. -/
theorem selectors_eq_of_weight_eq
    (s a b s' a' b' : Bool) (haxis : a = false ∨ b = false)
    (haxis' : a' = false ∨ b' = false)
    (hweight :
      (if s then 3 else 0) + (if a then 2 else 0) + (if b then 1 else 0) =
        (if s' then 3 else 0) + (if a' then 2 else 0) + (if b' then 1 else 0)) :
    s = s' ∧ a = a' ∧ b = b' := by
  revert s a b s' a' b'
  decide

/-- Two options that are declared together and never name different values are
equal. -/
theorem option_eq_of_isSome_eq
    {α : Type} (o o' : Option α) (hsome : o.isSome = o'.isSome)
    (hsame : ∀ x y, o = some x → o' = some y → x = y) :
    o = o' := by
  cases o with
  | none =>
      cases o' with
      | none => rfl
      | some y => cases hsome
  | some x =>
      cases o' with
      | none => cases hsome
      | some y => rw [hsame x y rfl rfl]

/-- Two candidates of one execution with the same specificity have the same
binding. -/
theorem appliesTo_eq_of_specificity_eq
    (codec : TextCodec) (first second : EscalationPolicyYaml)
    (hfirst : WellFormedPolicy first) (hsecond : WellFormedPolicy second)
    (stageId agentId : String) (backendProfileId : Option String)
    (hcand₁ : IsCandidate stageId agentId backendProfileId (freezePolicy codec first))
    (hcand₂ : IsCandidate stageId agentId backendProfileId (freezePolicy codec second))
    (hspec :
      specificity (freezePolicy codec first) = specificity (freezePolicy codec second)) :
    first.appliesTo = second.appliesTo := by
  obtain ⟨-, happ₁⟩ := hcand₁
  obtain ⟨-, happ₂⟩ := hcand₂
  obtain ⟨hstage, hagent, hprofile⟩ :=
    selectors_eq_of_weight_eq
      first.appliesTo.stageId.isSome first.appliesTo.agentId.isSome
      first.appliesTo.backendProfileId.isSome
      second.appliesTo.stageId.isSome second.appliesTo.agentId.isSome
      second.appliesTo.backendProfileId.isSome
      (by simpa using hfirst.singleAxis) (by simpa using hsecond.singleAxis) hspec
  have hstage' : first.appliesTo.stageId = second.appliesTo.stageId :=
    option_eq_of_isSome_eq _ _ hstage fun x y hx hy =>
      (happ₁.stage x hx).trans (happ₂.stage y hy).symm
  have hagent' : first.appliesTo.agentId = second.appliesTo.agentId :=
    option_eq_of_isSome_eq _ _ hagent fun x y hx hy =>
      (happ₁.agent x hx).trans (happ₂.agent y hy).symm
  have hprofile' :
      first.appliesTo.backendProfileId = second.appliesTo.backendProfileId :=
    option_eq_of_isSome_eq _ _ hprofile fun x y hx hy =>
      Option.some.inj ((happ₁.profile x hx).symm.trans (happ₂.profile y hy))
  calc
    first.appliesTo =
        ⟨first.appliesTo.agentId, first.appliesTo.backendProfileId,
          first.appliesTo.stageId⟩ := rfl
    _ = ⟨second.appliesTo.agentId, second.appliesTo.backendProfileId,
          second.appliesTo.stageId⟩ := by rw [hagent', hprofile', hstage']
    _ = second.appliesTo := rfl

/-- Among structurally valid policies with different bindings no two candidates
of one execution tie. -/
theorem noTies_bindingScore
    (codec : TextCodec) (policies : List EscalationPolicyYaml)
    (hwf : ∀ policy ∈ policies, WellFormedPolicy policy)
    (hnodup : (policies.map (·.appliesTo)).Nodup)
    (stageId agentId : String) (backendProfileId : Option String) :
    NoTies (bindingScore stageId agentId backendProfileId)
      (policies.map (freezePolicy codec)) := by
  intro a ha b hb score hscore_a hscore_b
  obtain ⟨first, hfirst, rfl⟩ := List.mem_map.1 ha
  obtain ⟨second, hsecond, rfl⟩ := List.mem_map.1 hb
  rw [bindingScore_eq_some_iff codec _ ⟨first, hwf first hfirst, rfl⟩] at hscore_a
  rw [bindingScore_eq_some_iff codec _ ⟨second, hwf second hsecond, rfl⟩] at hscore_b
  have hbinding : first.appliesTo = second.appliesTo :=
    appliesTo_eq_of_specificity_eq codec first second (hwf first hfirst)
      (hwf second hsecond) stageId agentId backendProfileId hscore_a.1 hscore_b.1
      (hscore_a.2.symm.trans hscore_b.2)
  rw [List.inj_on_of_nodup_map hnodup hfirst hsecond hbinding]

/-- The resolved form of a frozen valid policy exists. -/
theorem resolvedPolicy_isSome
    (codec : TextCodec) (source : EscalationPolicyYaml) (hwf : WellFormedPolicy source) :
    (resolvedPolicy (freezePolicy codec source)).isSome := by
  cases htiers : source.tiers with
  | nil => exact absurd htiers hwf.hasTier
  | cons tier tiers => simp [resolvedPolicy, freezePolicy, htiers]

/-- A resolution finds nothing exactly when no policy is a candidate. -/
theorem resolvePolicyForAgent_eq_none_iff
    (codec : TextCodec) (policies : List EscalationPolicyYaml)
    (hwf : ∀ policy ∈ policies, WellFormedPolicy policy)
    (stageId agentId : String) (backendProfileId : Option String) :
    resolvePolicyForAgent (policies.map (freezePolicy codec)) stageId agentId
        backendProfileId = none ↔
      ∀ policy ∈ policies,
        ¬IsCandidate stageId agentId backendProfileId (freezePolicy codec policy) := by
  have hbest := isBest_selectBest (bindingScore stageId agentId backendProfileId)
    (policies.map (freezePolicy codec))
  constructor
  · intro hnone policy hpolicy hcandidate
    cases hsel : selectBest (bindingScore stageId agentId backendProfileId)
        (policies.map (freezePolicy codec)) with
    | none =>
        rw [hsel] at hbest
        have hscore := bindingScore_of_isCandidate codec _
          ⟨policy, hwf policy hpolicy, rfl⟩ stageId agentId backendProfileId hcandidate
        rw [hbest _ (List.mem_map_of_mem hpolicy)] at hscore
        cases hscore
    | some found =>
        rw [hsel] at hbest
        obtain ⟨hmem, -, -⟩ := hbest
        obtain ⟨source, hsource, hfreeze⟩ := List.mem_map.1 hmem
        have hsome := resolvedPolicy_isSome codec source (hwf source hsource)
        rw [resolvePolicyForAgent, hsel, Option.bind_some, ← hfreeze] at hnone
        rw [hnone] at hsome
        cases hsome
  · intro hall
    have hunranked :
        selectBest (bindingScore stageId agentId backendProfileId)
          (policies.map (freezePolicy codec)) = none := by
      rw [selectBest_eq_none_iff]
      intro policy hpolicy
      obtain ⟨source, hsource, rfl⟩ := List.mem_map.1 hpolicy
      cases hscore :
          bindingScore stageId agentId backendProfileId (freezePolicy codec source) with
      | none => rfl
      | some score =>
          rw [bindingScore_eq_some_iff codec _ ⟨source, hwf source hsource, rfl⟩] at hscore
          exact absurd hscore.1 (hall source hsource)
    rw [resolvePolicyForAgent, hunranked, Option.bind_none]

/-- For a catalog whose policies pass the structural and the ambiguity checks,
the resolution for any execution is the same for every order of the policies;
it finds nothing exactly when no enabled policy applies, and otherwise it
returns the enabled policy that applies and is strictly more specific than every
other one. -/
theorem resolvePolicyForAgent_unique_mostSpecific
    (codec : TextCodec) (catalog : AgentCatalogFile)
    (hstructure :
      ∀ policy ∈ catalog.policyList, validatePolicyStructure policy = .ok ())
    (hunambiguous :
      validatePoliciesForAmbiguousBindings catalog.policyList
        (agentToProfile catalog) = [])
    (stageId agentId : String) (backendProfileId : Option String) :
    let policies := catalog.policyList.map (freezePolicy codec)
    (∀ reordered : List EscalationPolicySnapshot, reordered.Perm policies →
        resolvePolicyForAgent reordered stageId agentId backendProfileId =
          resolvePolicyForAgent policies stageId agentId backendProfileId) ∧
      (resolvePolicyForAgent policies stageId agentId backendProfileId = none ↔
        ∀ policy ∈ policies, ¬IsCandidate stageId agentId backendProfileId policy) ∧
      ∀ resolved,
        resolvePolicyForAgent policies stageId agentId backendProfileId =
            some resolved →
          ∃ before policy after, policies = before ++ policy :: after ∧
            IsCandidate stageId agentId backendProfileId policy ∧
            (∀ other ∈ before ++ after,
              IsCandidate stageId agentId backendProfileId other →
                specificity other < specificity policy) ∧
            resolvedPolicy policy = some resolved := by
  have hwf : ∀ policy ∈ catalog.policyList, WellFormedPolicy policy :=
    fun policy hpolicy =>
      wellFormedPolicy_of_validatePolicyStructure policy (hstructure policy hpolicy)
  have hnodup : (catalog.policyList.map (·.appliesTo)).Nodup :=
    nodup_appliesTo_of_unambiguous _ _ hunambiguous
  have hties := noTies_bindingScore codec catalog.policyList hwf hnodup
    stageId agentId backendProfileId
  intro policies
  refine ⟨?_, ?_, ?_⟩
  · intro reordered hperm
    unfold resolvePolicyForAgent
    rw [selectBest_perm _ policies reordered hperm.symm hties]
  · rw [resolvePolicyForAgent_eq_none_iff codec _ hwf]
    simp [policies]
  · intro resolved hresolved
    rw [resolvePolicyForAgent, Option.bind_eq_some_iff] at hresolved
    obtain ⟨⟨score, policy⟩, hsel, hpolicy⟩ := hresolved
    have hbest := isBest_selectBest (bindingScore stageId agentId backendProfileId) policies
    rw [hsel] at hbest
    obtain ⟨hmem, hscore, hmax⟩ := hbest
    have hfrozen : ∀ p ∈ policies, FrozenFrom codec p := by
      intro p hp
      obtain ⟨source, hsource, rfl⟩ := List.mem_map.1 hp
      exact ⟨source, hwf source hsource, rfl⟩
    obtain ⟨hcandidate, rfl⟩ :=
      (bindingScore_eq_some_iff codec policy (hfrozen policy hmem) _ _ _ _).1 hscore
    obtain ⟨before, after, hsplit⟩ := List.append_of_mem hmem
    have hdistinct : policies.Nodup := by
      have hinj : (policies.map fun p =>
          (⟨p.appliesToAgentId, p.appliesToBackendProfileId, p.appliesToStageId⟩ :
            AppliesToYaml)).Nodup := by
        simpa [policies, Function.comp_def, freezePolicy] using hnodup
      exact hinj.of_map _
    refine ⟨before, policy, after, hsplit, hcandidate, ?_, hpolicy⟩
    intro other hother hcandidate'
    have hother_mem : other ∈ policies := by
      rw [hsplit]
      simp only [List.mem_append, List.mem_cons] at hother ⊢
      tauto
    have hother_score := bindingScore_of_isCandidate codec other
      (hfrozen other hother_mem) stageId agentId backendProfileId hcandidate'
    have hle : specificity other ≤ specificity policy :=
      hmax other hother_mem _ hother_score
    refine lt_of_le_of_ne hle ?_
    intro hequal
    have hsame : other = policy :=
      hties other hother_mem policy hmem _ hother_score (by rw [hequal, hscore])
    rw [hsplit, List.nodup_middle, List.nodup_cons] at hdistinct
    exact hdistinct.1 (hsame ▸ hother)

/-- A policy of a stage or an agent that pauses at once. -/
def pausePolicy (policyId : String) (appliesTo : AppliesToYaml) :
    EscalationPolicyYaml where
  policyId := policyId
  schemaVersion := "escalation_policy_v1"
  enabledDefault := true
  appliesTo := appliesTo
  maxChainAttempts := 3
  maxChainWallClockSeconds := 3600
  triggers := [.contractOutputFailure]
  tiers := [{ tierId := "t1", kind := "pause" }]

/-- A policy of the stage `build`. -/
def buildStagePolicy : EscalationPolicyYaml :=
  pausePolicy "build_stage" { stageId := some "build" }

/-- A policy of the agent `coder`. -/
def coderAgentPolicy : EscalationPolicyYaml :=
  pausePolicy "coder_agent" { agentId := some "coder" }

/-- A catalog with the two policies. -/
def stageAndAgentCatalog : AgentCatalogFile where
  agents := some [{ id := "coder", backendProfile := "fast" }]
  escalationPolicies := some [coderAgentPolicy, buildStagePolicy]

/-- JSON text of the stage policy. -/
def buildStageText : String :=
  "\x7b\"applies_to\":\x7b\"stage_id\":\"build\"\x7d,\"enabled_default\":true," ++
    "\"max_chain_attempts\":3,\"max_chain_wall_clock_seconds\":3600," ++
    "\"policy_id\":\"build_stage\",\"schema_version\":\"escalation_policy_v1\"," ++
    "\"tiers\":[\x7b\"kind\":\"pause\",\"tier_id\":\"t1\"\x7d]," ++
    "\"triggers\":[\"contract_output_failure\"]\x7d"

/-- JSON text of the agent policy. -/
def coderAgentText : String :=
  "\x7b\"applies_to\":\x7b\"agent_id\":\"coder\"\x7d,\"enabled_default\":true," ++
    "\"max_chain_attempts\":3,\"max_chain_wall_clock_seconds\":3600," ++
    "\"policy_id\":\"coder_agent\",\"schema_version\":\"escalation_policy_v1\"," ++
    "\"tiers\":[\x7b\"kind\":\"pause\",\"tier_id\":\"t1\"\x7d]," ++
    "\"triggers\":[\"contract_output_failure\"]\x7d"

/-- The JSON texts and digests of the two policies. -/
def stageAndAgentCodec : TextCodec where
  jsonText json :=
    if json = policyJson buildStagePolicy then buildStageText else coderAgentText
  sha256 text :=
    if text = buildStageText then
      "b1a096573a85a7168376ac15175cb216ec3cccc5ef556873ea1ddb36bb2ddbe3"
    else "c1c46401246c15300c47c99bc484398a7e9fe753c49d917cd9c0d00fdbf272bf"

/-- In the stage `build` the stage policy wins over the agent policy in either
order. -/
theorem resolvePolicyForAgent_stage_over_agent :
    resolvePolicyForAgent
        [ freezePolicy stageAndAgentCodec buildStagePolicy,
          freezePolicy stageAndAgentCodec coderAgentPolicy ]
        "build" "coder" (some "fast") =
      some
        { policyId := "build_stage"
          policyHash :=
            "sha256:b1a096573a85a7168376ac15175cb216ec3cccc5ef556873ea1ddb36bb2ddbe3"
          firstTierId := "t1"
          firstTierKindRaw := "pause" } := by
  have hspec := resolvePolicyForAgent_unique_mostSpecific stageAndAgentCodec
    stageAndAgentCatalog
    (by
      intro policy hpolicy
      have hcases : policy = coderAgentPolicy ∨ policy = buildStagePolicy := by
        simpa [stageAndAgentCatalog, AgentCatalogFile.policyList] using hpolicy
      rcases hcases with rfl | rfl
      · rfl
      · rfl)
    (by decide +kernel) "build" "coder" (some "fast")
  have hswap := hspec.1
    [ freezePolicy stageAndAgentCodec buildStagePolicy,
      freezePolicy stageAndAgentCodec coderAgentPolicy ] (List.Perm.swap _ _ _)
  rw [hswap]
  decide +kernel

end ChainworksForge.Workflow
