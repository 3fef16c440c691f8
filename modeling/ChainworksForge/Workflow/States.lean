import ChainworksForge.Workflow.RunBlocks

/-!
# Compilation of states

A state is compiled from its definition, the agents, the contracts and the workflow's
variables.  Only the limit of its loop depends on the variables: `compileState_eq` says
that two compilations with different variables differ at most there.
-/

namespace ChainworksForge.Workflow

open ChainworksForge.Support

/-! ## Variables -/

/-- A YAML number as JSON; a positive number from `2 ^ 63` on is read as a double. -/
def yamlNumberToJson (n : YamlNumber) : Json :=
  match n.asI64 with
  | some i => .number (.ofInt i)
  | none => Json.ofF64 n.asF64

mutual

def yamlToJson : Yaml → Json
  | .null => .null
  | .bool b => .bool b
  | .number n => yamlNumberToJson n
  | .string s => .string s.toList
  | .sequence items => .array (yamlItemsToJson items)
  | .mapping entries => .object (yamlEntriesToJson entries)
  | .tagged _ value => yamlToJson value
termination_by structural value => value

def yamlItemsToJson : List Yaml → List Json
  | [] => []
  | item :: rest => yamlToJson item :: yamlItemsToJson rest
termination_by structural items => items

/-- Entries under text keys, in the order of the keys. -/
def yamlEntriesToJson : List (Yaml × Yaml) → List (Text × Json)
  | [] => []
  | (key, value) :: rest =>
      match key.asStr with
      | some k =>
          if (yamlEntriesToJson rest).any fun field => field.1 = k.toList then
            yamlEntriesToJson rest
          else Json.insertField k.toList (yamlToJson value) (yamlEntriesToJson rest)
      | none => yamlEntriesToJson rest
termination_by structural entries => entries

end

/-- The variables that a plan is compiled with. -/
def compileVariables (vars : Option (List (String × Yaml))) :
    List (String × Json) :=
  (vars.getD []).map fun entry => (entry.1, yamlToJson entry.2)

/-! ## Loops -/

/-- The limit of a loop: a literal, a variable, or ten. -/
def resolveLoopMax (val : Yaml) (vars : List (String × Json)) : Nat :=
  match val.asU64 with
  | some n => n
  | none =>
      match val.asStr.bind fun s => Text.stripFront s.toList "vars.".toList with
      | some varName =>
          ((vars.lookup (String.ofList varName)).bind Json.asU64).getD 10
      | none => 10

def compileLoop (lc : LoopConfig) (vars : List (String × Json)) : CompiledLoop where
  counter := lc.counter
  max := resolveLoopMax lc.max vars

/-! ## States -/

section States

variable (agents : List (String × AgentBinding)) (contracts : ContractLookup)

def compileDegradedOutputPolicy (policy : Option DegradedOutputPolicyDef) :
    Result DegradedOutputPolicy :=
  match policy with
  | none => .ok {}
  | some policy =>
      if policy.mode = "deny" then .ok {}
      else if policy.mode = "allow_valid_contract_outputs" then do
        let contractIds := policy.contracts.getD []
        ensure (contractIds ≠ [])
          "degraded_output_policy allow_valid_contract_outputs requires contracts"
        contractIds.forM fun contractId =>
          ensure (AgentCatalogFile.containsKey contracts.byContractId contractId)
            ("unknown degraded_output_policy contract_id: " ++ contractId)
        let failureKinds := policy.failureKinds.getD []
        failureKinds.forM fun failureKind =>
          ensure (failureKind ∈ ["provider_failure", "provider_quota",
              "provider_timeout", "transport_interrupted"])
            ("unknown degraded_output_policy failure_kind: " ++ failureKind)
        let maxSettlement :=
          policy.maxSettlement.getD "valid_outputs_from_failed_execution"
        ensure (maxSettlement = "valid_outputs_from_failed_execution")
          ("unknown degraded_output_policy max_settlement: " ++ maxSettlement)
        pure { mode := "allow_valid_contract_outputs"
               contracts := contractIds
               failureKinds := failureKinds
               maxSettlement := maxSettlement }
      else .error ("unknown degraded_output_policy mode: " ++ policy.mode)

/-- The tasks of an optional run block. -/
def compileBlockTasks (block : Option RunBlock) : Result (List CompiledTask) :=
  match block with
  | some block => compileRunBlock agents contracts block
  | none => .ok []

def compileState
    (vars : List (String × Json)) (stateId : String) (state : WorkflowState) :
    Result CompiledState := do
  let owner ← resolveAgent state.owner agents
  let tasks ← compileBlockTasks agents contracts state.run
  let postApprovalTasks ← compileBlockTasks agents contracts state.runAfterApproval
  let transitions := (state.transitions.getD []).map fun t =>
    { toState := t.toState, condition := t.when : CompiledTransition }
  let loopConfig := state.loopConfig.map fun lc => compileLoop lc vars
  let degradedOutputPolicy ←
    compileDegradedOutputPolicy contracts state.degradedOutputPolicy
  pure { id := stateId
         label := state.label
         stateType := state.stateType
         owner
         isManualGate := state.isManualGate
         isEnd := state.isEnd
         tasks
         postApprovalTasks
         transitions
         loopConfig
         degradedOutputPolicy
         dynamicParallel := (state.run.bind RunBlock.dynamicParallel).map fun dp =>
           { selectorArtifact := dp.selectorArtifact
             outputContract := dp.outputContract
             inputs := dp.inputs }
         systemTask := (state.run.bind RunBlock.systemTask).map fun st =>
           { taskType := st.taskType
             executorMode := st.executorMode } }

/-- The states and the variables of a compiled plan. -/
structure CompiledWorkflow where
  states : List (String × CompiledState)
  vars : List (String × Json)

def compileWorkflowStates (wf : WorkflowFile) : Result CompiledWorkflow := do
  let vars := compileVariables wf.vars
  let states ← wf.states.mapM fun entry =>
    (compileState agents contracts vars entry.1 entry.2).map fun compiled =>
      (entry.1, compiled)
  pure { states, vars }

variable {agents contracts}

/-- The variables of a compilation show only in the limit of the loop. -/
theorem compileState_eq
    (vars vars' : List (String × Json)) (stateId : String) (state : WorkflowState) :
    compileState agents contracts vars' stateId state =
      (compileState agents contracts vars stateId state).map fun compiled =>
        { compiled with
          loopConfig := state.loopConfig.map fun lc => compileLoop lc vars' } := by
  rw [compileState, compileState]
  cases resolveAgent state.owner agents with
  | error e => rfl
  | ok owner =>
      cases compileBlockTasks agents contracts state.run with
      | error e => rfl
      | ok tasks =>
          cases compileBlockTasks agents contracts state.runAfterApproval with
          | error e => rfl
          | ok postApprovalTasks =>
              cases compileDegradedOutputPolicy contracts
                  state.degradedOutputPolicy with
              | error e => rfl
              | ok policy => rfl

/-- A compiled state has the compiled loop of its definition. -/
theorem compileState_loopConfig
    {vars : List (String × Json)} {stateId : String} {state : WorkflowState}
    {compiled : CompiledState}
    (h : compileState agents contracts vars stateId state = .ok compiled) :
    compiled.loopConfig = state.loopConfig.map fun lc => compileLoop lc vars := by
  rw [compileState_eq vars, map_eq_ok_iff] at h
  obtain ⟨other, -, rfl⟩ := h
  rfl

end States

end ChainworksForge.Workflow
