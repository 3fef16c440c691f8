import ChainworksForge.Workflow.States

/-!
# Extension of a loop budget

An operator adds cycles to a loop counter.  The extension looks for the first object of
the frozen snapshot that has the counter and a text as its limit, and raises the variable
that the text names.  The loops are compiled anew from the snapshot, each from its own
limit, and a variable from `2 ^ 63` on is no longer an integer there.
-/

namespace ChainworksForge.Engine

open ChainworksForge.Support ChainworksForge.Workflow

/-! ## The extension -/

structure WorkflowLoopBudgetExtensionCmd where
  counter : Text
  additionalCycles : Nat
  reason : Text
  targetConflictId : Option Text := none

structure LoopBudgetExtensionResult where
  counter : Text
  variableName : Text
  previousMax : Nat
  newMax : Nat
  additionalCycles : Nat
  reason : Text
  targetConflictId : Option Text
  workflowSnapshotHash : Text

def validateLoopBudgetExtension (extension : WorkflowLoopBudgetExtensionCmd) :
    Result Unit := do
  ensure (Text.trim extension.counter ≠ []) "loop budget counter is required"
  ensure (extension.additionalCycles ≠ 0)
    "additional_cycles must be greater than zero"
  ensure (extension.additionalCycles ≤ 100) "additional_cycles must be <= 100"
  ensure (Text.trim extension.reason ≠ []) "loop budget extension reason is required"

/-- The text limit of an object with the counter. -/
def ownMaxExpr (counter : Text) (fields : List (Text × Json)) : Option Text :=
  if (fields.lookup "counter".toList).bind Json.asStr = some counter then
    (fields.lookup "max".toList).bind Json.asStr
  else none

mutual

/-- The first text limit of the counter in an object and in the objects below it. -/
def findMaxExpr (counter : Text) : Json → Option Text
  | .object fields => (ownMaxExpr counter fields).or (findMaxInFields counter fields)
  | _ => none
termination_by structural value => value

def findMaxInFields (counter : Text) : List (Text × Json) → Option Text
  | [] => none
  | (_, .array items) :: rest =>
      (findMaxInItems counter items).or (findMaxInFields counter rest)
  | (_, child) :: rest =>
      (findMaxExpr counter child).or (findMaxInFields counter rest)
termination_by structural fields => fields

def findMaxInItems (counter : Text) : List Json → Option Text
  | [] => none
  | item :: rest => (findMaxExpr counter item).or (findMaxInItems counter rest)
termination_by structural items => items

end

def findLoopBudgetVariable (snapshot : Json) (counter : Text) :
    Result (Text × Nat) := do
  let maxExpr ← required (findMaxExpr counter snapshot)
    ("loop budget counter " ++ String.ofList counter ++
      " not found in workflow snapshot")
  let variableName ← required (Text.stripFront maxExpr "vars.".toList)
    ("loop budget counter " ++ String.ofList counter ++ " max is not vars.*")
  let previousMax ← required
    (((snapshot.get "variables".toList).bind fun vars => vars.get variableName).bind
      Json.asU64)
    ("loop budget variable " ++ String.ofList variableName ++
      " is missing or not numeric")
  pure (variableName, previousMax)

/-- Put a new limit under a variable of the snapshot. -/
def setLoopBudgetVariable (snapshot : Json) (variableName : Text) (newMax : Nat) :
    Result Json :=
  match snapshot.get "variables".toList with
  | some (.object fields) =>
      .ok (snapshot.insert "variables"
        (.object (Json.insertField variableName (.number (.posInt newMax)) fields)))
  | _ => .error "workflow snapshot has no mutable variables object"

/-- Extend the budget in the frozen snapshot of a run: the new snapshot and the record of
the change. -/
def extendWorkflowLoopBudget
    (workflowSnapshotHash : Json → Text) (runId : Text) (frozen : Option Json)
    (extension : WorkflowLoopBudgetExtensionCmd) :
    Result (Json × LoopBudgetExtensionResult) := do
  validateLoopBudgetExtension extension
  let snapshot ← required frozen
    ("Run " ++ String.ofList runId ++ " has no frozen workflow snapshot")
  let counter := Text.trim extension.counter
  let (variableName, previousMax) ← findLoopBudgetVariable snapshot counter
  let newMax := previousMax + extension.additionalCycles
  ensure (newMax < 2 ^ 64) "loop budget extension overflows u64"
  let updated ← setLoopBudgetVariable snapshot variableName newMax
  pure (updated,
    { counter
      variableName
      previousMax
      newMax
      additionalCycles := extension.additionalCycles
      reason := Text.trim extension.reason
      targetConflictId := extension.targetConflictId
      workflowSnapshotHash := workflowSnapshotHash updated })

/-! ## The frozen snapshot -/

mutual

/-- A JSON value read as a YAML value. -/
def jsonToYaml : Json → Yaml
  | .null => .null
  | .bool b => .bool b
  | .number (.posInt n) => .number (.posInt n)
  | .number (.negInt n) => .number (.negInt n)
  | .number (.float q) => .number (.float (.fin q))
  | .string s => .string (String.ofList s)
  | .array items => .sequence (jsonItemsToYaml items)
  | .object fields => .mapping (jsonFieldsToYaml fields)
termination_by structural value => value

def jsonItemsToYaml : List Json → List Yaml
  | [] => []
  | item :: rest => jsonToYaml item :: jsonItemsToYaml rest
termination_by structural items => items

def jsonFieldsToYaml : List (Text × Json) → List (Yaml × Yaml)
  | [] => []
  | (key, value) :: rest =>
      (.string (String.ofList key), jsonToYaml value) :: jsonFieldsToYaml rest
termination_by structural fields => fields

end

/-- The members of an object as the variables of a workflow. -/
def snapshotVariables (fields : List (Text × Json)) : List (String × Yaml) :=
  fields.map fun field => (String.ofList field.1, jsonToYaml field.2)

/-- The optional map of variables of a workflow. -/
def readVariables : Option Json → Result (Option (List (String × Yaml)))
  | none => .ok none
  | some .null => .ok none
  | some (.object fields) => .ok (some (snapshotVariables fields))
  | some _ => .error "invalid type: expected a map"

section Recompilation

variable (readMembers : Json → Result WorkflowFile)
  (agents : List (String × AgentBinding)) (contracts : ContractLookup)

/-- The workflow of a snapshot; `readMembers` reads the members other than the variables. -/
def readWorkflow (snapshot : Json) : Result WorkflowFile := do
  let vars ← readVariables (snapshot.get "variables".toList)
  let members ← readMembers (snapshot.remove "variables")
  pure { members with vars }

/-- The states and the variables of the plan that a snapshot is compiled to. -/
def compileFromSnapshot (snapshot : Json) : Result CompiledWorkflow := do
  let wf ← readWorkflow readMembers snapshot
  compileWorkflowStates agents contracts wf

end Recompilation

/-! ## What the extension changes -/

/-- The variables of a plan, read back from the members of the snapshot. -/
theorem lookup_compileVariables (fields : List (Text × Json)) (name : Text) :
    (compileVariables (some (snapshotVariables fields))).lookup (String.ofList name) =
      (fields.lookup name).map fun value => yamlToJson (jsonToYaml value) := by
  rw [compileVariables, Option.getD_some, snapshotVariables, List.map_map]
  induction fields with
  | nil => rfl
  | cons field rest ih =>
      rw [List.map_cons, Function.comp_apply, List.lookup_cons, List.lookup_cons]
      by_cases hname : name = field.1
      · simp [hname]
      · have hne : String.ofList name ≠ String.ofList field.1 := fun h =>
          hname (String.ofList_injective h)
        rw [beq_false_of_ne hne, beq_false_of_ne hname]
        exact ih

theorem setLoopBudgetVariable_eq_ok {snapshot updated : Json} {variableName : Text}
    {newMax : Nat} (h : setLoopBudgetVariable snapshot variableName newMax = .ok updated) :
    ∃ fields, snapshot.get "variables".toList = some (.object fields) ∧
      updated = snapshot.insert "variables"
        (.object (Json.insertField variableName (.number (.posInt newMax)) fields)) := by
  rw [setLoopBudgetVariable] at h
  cases hget : snapshot.get "variables".toList with
  | none => simp only [hget, reduceCtorEq] at h
  | some member =>
      cases member with
      | object fields =>
          simp only [hget, Except.ok.injEq] at h
          exact ⟨fields, rfl, h.symm⟩
      | _ => simp only [hget, reduceCtorEq] at h

theorem asU64_eq_some_iff {value : Json} {n : Nat} :
    value.asU64 = some n ↔ value = .number (.posInt n) := by
  cases value with
  | number m => cases m <;> simp [Json.asU64, JsonNumber.asU64]
  | _ => simp [Json.asU64]

/-- What an accepted extension has checked and written. -/
theorem extendWorkflowLoopBudget_eq_ok
    {workflowSnapshotHash : Json → Text} {runId : Text} {snapshot updated : Json}
    {extension : WorkflowLoopBudgetExtensionCmd} {result : LoopBudgetExtensionResult}
    (h : extendWorkflowLoopBudget workflowSnapshotHash runId (some snapshot) extension =
      .ok (updated, result)) :
    (extension.additionalCycles ≠ 0 ∧ extension.additionalCycles ≤ 100) ∧
      result.counter = Text.trim extension.counter ∧
      ∃ previousMax fields,
        findLoopBudgetVariable snapshot (Text.trim extension.counter) =
          .ok (result.variableName, previousMax) ∧
        snapshot.get "variables".toList = some (.object fields) ∧
        fields.lookup result.variableName = some (.number (.posInt previousMax)) ∧
        updated = snapshot.insert "variables" (.object (Json.insertField result.variableName
          (.number (.posInt (previousMax + extension.additionalCycles))) fields)) := by
  simp only [extendWorkflowLoopBudget, validateLoopBudgetExtension, bind_eq_ok_iff,
    ensure_eq_ok_iff, required_eq_ok_iff, pure_eq_ok_iff, Option.some.injEq,
    decide_eq_true_eq, Prod.mk.injEq, exists_const] at h
  obtain ⟨⟨-, hpos, hle, -⟩, _, rfl, ⟨variableName, previousMax⟩, hfind, -, _, hset,
    rfl, rfl⟩ := h
  refine ⟨⟨hpos, hle⟩, rfl, previousMax, ?_⟩
  obtain ⟨fields, hfields, rfl⟩ := setLoopBudgetVariable_eq_ok hset
  refine ⟨fields, hfind, hfields, ?_, rfl⟩
  simp only [findLoopBudgetVariable, bind_eq_ok_iff, required_eq_ok_iff,
    pure_eq_ok_iff, Prod.mk.injEq] at hfind
  obtain ⟨-, -, _, -, _, hprevious, rfl, rfl⟩ := hfind
  rw [hfields, Option.bind_some, Option.bind_eq_some_iff] at hprevious
  obtain ⟨value, hvalue, hnumber⟩ := hprevious
  rwa [asU64_eq_some_iff.1 hnumber] at hvalue

/-- The workflow of an extended snapshot differs in its variables. -/
theorem readWorkflow_insert {readMembers : Json → Result WorkflowFile}
    {snapshot : Json} {fields : List (Text × Json)} {wf : WorkflowFile}
    (hget : snapshot.get "variables".toList = some (.object fields))
    (hread : readWorkflow readMembers snapshot = .ok wf)
    (extended : List (Text × Json)) :
    wf.vars = some (snapshotVariables fields) ∧
      readWorkflow readMembers (snapshot.insert "variables" (.object extended)) =
        .ok { wf with vars := some (snapshotVariables extended) } := by
  have hobject : snapshot.isObject = true := by
    cases snapshot with
    | object fields => rfl
    | _ => exact absurd hget (by simp [Json.get])
  rw [readWorkflow, hget, readVariables] at hread
  obtain ⟨_, hvars, hread⟩ := (bind_eq_ok_iff _ _ _).1 hread
  obtain ⟨members, hmembers, hwf⟩ := (bind_eq_ok_iff _ _ _).1 hread
  obtain rfl := Except.ok.inj hvars
  obtain rfl := (pure_eq_ok_iff _ _).1 hwf
  refine ⟨rfl, ?_⟩
  rw [readWorkflow, Json.get_insert_self hobject, Json.remove_insert_self]
  refine (bind_eq_ok_iff _ _ _).2 ⟨_, rfl, ?_⟩
  exact (bind_eq_ok_iff _ _ _).2 ⟨members, hmembers, rfl⟩

/-! ## Loops under the two values of the variable -/

/-- The limit is the text `vars.` with the name of the variable. -/
def RefersTo (variableName : Text) (max : Yaml) : Prop :=
  (max.asStr.bind fun s => Text.stripFront s.toList "vars.".toList) = some variableName

instance decidableRefersTo (variableName : Text) (max : Yaml) :
    Decidable (RefersTo variableName max) :=
  inferInstanceAs (Decidable (_ = _))

/-- A loop with the counter takes its limit from the variable, which stays a 64-bit signed
integer; a loop with another counter does not, or the variable was no such integer. -/
def LoopIsIsolated
    (counter variableName : Text) (previousMax newMax : Nat) (lc : LoopConfig) : Prop :=
  (lc.counter.toList = counter → RefersTo variableName lc.max ∧ newMax < 2 ^ 63) ∧
    (lc.counter.toList ≠ counter → RefersTo variableName lc.max → 2 ^ 63 ≤ previousMax)

instance decidableLoopIsIsolated (counter variableName : Text) (previousMax newMax : Nat)
    (lc : LoopConfig) :
    Decidable (LoopIsIsolated counter variableName previousMax newMax lc) :=
  inferInstanceAs (Decidable (_ ∧ _))

/-- The compiled loop with `k` more cycles if it has the counter. -/
def raisedLoop (counter : Text) (k : Nat) (loop : CompiledLoop) : CompiledLoop :=
  if loop.counter.toList = counter then { loop with max := loop.max + k } else loop

/-- The value of a variable as a limit. -/
theorem limit_of_posInt (n : Nat) :
    ((some (yamlToJson (jsonToYaml (.number (.posInt n))))).bind Json.asU64).getD 10 =
      if n < 2 ^ 63 then n else 10 := by
  rw [jsonToYaml, yamlToJson, yamlNumberToJson, YamlNumber.asI64]
  by_cases h : n < 2 ^ 63
  · rw [if_pos h, if_pos h]
    simp [Json.asU64, JsonNumber.ofInt, JsonNumber.asU64]
  · rw [if_neg h, if_neg h, YamlNumber.asF64]
    cases F64.ofRat n <;> rfl

theorem asU64_eq_none_of_refersTo {variableName : Text} {max : Yaml}
    (h : RefersTo variableName max) : max.asU64 = none := by
  rw [RefersTo, Yaml.asStr] at h
  rw [Yaml.asU64]
  cases hvalue : max.untag with
  | number n => exact absurd h (by simp [hvalue])
  | _ => rfl

theorem resolveLoopMax_of_refersTo {variableName : Text} {max : Yaml}
    (h : RefersTo variableName max) (vars : List (String × Json)) :
    resolveLoopMax max vars =
      ((vars.lookup (String.ofList variableName)).bind Json.asU64).getD 10 := by
  rw [resolveLoopMax, asU64_eq_none_of_refersTo h]
  rw [RefersTo] at h
  simp only [h]

/-- A limit that does not name the variable is the same under both lists. -/
theorem resolveLoopMax_congr {variableName : Text} {max : Yaml}
    {vars vars' : List (String × Json)} (h : ¬RefersTo variableName max)
    (hsame : ∀ name, name ≠ String.ofList variableName →
      vars'.lookup name = vars.lookup name) :
    resolveLoopMax max vars' = resolveLoopMax max vars := by
  rw [resolveLoopMax, resolveLoopMax]
  cases max.asU64 with
  | some n => rfl
  | none =>
      rw [RefersTo] at h
      cases hname : max.asStr.bind fun s =>
          Text.stripFront s.toList "vars.".toList with
      | none => rfl
      | some name =>
          have hne : String.ofList name ≠ String.ofList variableName := fun heq =>
            h (hname.trans (congrArg some (String.ofList_injective heq)))
          simp only [hsame _ hne]

/-- A compiled loop is raised exactly when the loop is isolated. -/
theorem compileLoop_eq_raisedLoop_iff
    (counter : Text) {variableName : Text} {previousMax k : Nat} (hpos : k ≠ 0)
    (hle : k ≤ 100)
    {vars vars' : List (String × Json)}
    (hvars : vars.lookup (String.ofList variableName) =
      some (yamlToJson (jsonToYaml (.number (.posInt previousMax)))))
    (hvars' : vars'.lookup (String.ofList variableName) =
      some (yamlToJson (jsonToYaml (.number (.posInt (previousMax + k))))))
    (hsame : ∀ name, name ≠ String.ofList variableName →
      vars'.lookup name = vars.lookup name) (lc : LoopConfig) :
    compileLoop lc vars' = raisedLoop counter k (compileLoop lc vars) ↔
      LoopIsIsolated counter variableName previousMax (previousMax + k) lc := by
  rw [LoopIsIsolated, raisedLoop, compileLoop, compileLoop]
  by_cases hcounter : lc.counter.toList = counter
  · rw [if_pos hcounter]
    simp only [hcounter, ne_eq, not_true_eq_false, false_imp_iff, and_true,
      true_imp_iff, CompiledLoop.mk.injEq, true_and]
    by_cases hrefers : RefersTo variableName lc.max
    · rw [resolveLoopMax_of_refersTo hrefers, resolveLoopMax_of_refersTo hrefers,
        hvars, hvars', limit_of_posInt, limit_of_posInt, and_iff_right hrefers]
      split_ifs <;> omega
    · rw [resolveLoopMax_congr hrefers hsame]
      simp only [hrefers, false_and, iff_false]
      omega
  · rw [if_neg hcounter]
    simp only [hcounter, ne_eq, not_false_eq_true, false_imp_iff, true_and,
      true_imp_iff, CompiledLoop.mk.injEq]
    by_cases hrefers : RefersTo variableName lc.max
    · rw [resolveLoopMax_of_refersTo hrefers, resolveLoopMax_of_refersTo hrefers,
        hvars, hvars', limit_of_posInt, limit_of_posInt]
      simp only [hrefers, true_imp_iff]
      split_ifs <;> omega
    · rw [resolveLoopMax_congr hrefers hsame]
      simp only [hrefers, false_imp_iff]

/-! ## Whole plans -/

/-- A map of outputs that a pairing with the inputs replaces is the pairing exactly when
each input meets the condition under which its output is replaced so. -/
theorem zipWith_eq_map_iff {α β γ : Type} {R : α → β → Prop} {C : α → Prop}
    {replace : α → β → γ} {g : β → γ} {l : List α} {bs : List β}
    (h : List.Forall₂ R l bs) (hiff : ∀ a b, R a b → (replace a b = g b ↔ C a)) :
    List.zipWith replace l bs = bs.map g ↔ ∀ a ∈ l, C a := by
  induction h with
  | nil => simp
  | cons hhead _ ih =>
      rw [List.zipWith_cons_cons, List.map_cons, List.cons.injEq, hiff _ _ hhead, ih,
        List.forall_mem_cons]

/-- A checked map with other outputs, each made of an input and of its output before. -/
theorem mapM_eq_ok_zipWith {ε α β : Type} {f g : α → Except ε β}
    {replace : α → β → β} {l : List α} {bs : List β} (hmap : l.mapM f = .ok bs)
    (hstep : ∀ a b, f a = .ok b → g a = .ok (replace a b)) :
    l.mapM g = .ok (List.zipWith replace l bs) := by
  rw [mapM_eq_ok_iff] at hmap ⊢
  induction hmap with
  | nil => exact .nil
  | cons hhead _ ih => exact .cons (hstep _ _ hhead) ih

section Plans

variable {agents : List (String × AgentBinding)} {contracts : ContractLookup}

/-- The compiled states under other variables: each with its loop compiled anew. -/
def withVariables (vars : List (String × Json)) (source : String × WorkflowState)
    (entry : String × CompiledState) : String × CompiledState :=
  (entry.1, { entry.2 with
    loopConfig := source.2.loopConfig.map fun lc => compileLoop lc vars })

/-- The variables of a compilation show in the compiled loops only. -/
theorem compileWorkflowStates_vars {wf : WorkflowFile} {before : CompiledWorkflow}
    (h : compileWorkflowStates agents contracts wf = .ok before)
    (vars : Option (List (String × Yaml))) :
    compileWorkflowStates agents contracts { wf with vars } =
      .ok { states := List.zipWith (withVariables (compileVariables vars)) wf.states
              before.states
            vars := compileVariables vars } := by
  obtain ⟨states, hstates, hbefore⟩ := (bind_eq_ok_iff _ _ _).1 h
  obtain rfl := (pure_eq_ok_iff _ _).1 hbefore
  refine (bind_eq_ok_iff _ _ _).2 ⟨_, mapM_eq_ok_zipWith hstates ?_, rfl⟩
  intro source entry hentry
  obtain ⟨compiled, hcompiled, rfl⟩ := map_eq_ok_iff.1 hentry
  rw [compileState_eq (compileVariables wf.vars), hcompiled]
  rfl

/-- Raising the loops of a compiled plan: the states with the counter in their loop get
`k` more cycles, and the variables other than `variableName` keep their values. -/
def ExtendsExactly (counter variableName : Text) (k : Nat)
    (before after : CompiledWorkflow) : Prop :=
  (after.states = before.states.map fun entry => (entry.1, { entry.2 with
    loopConfig := entry.2.loopConfig.map (raisedLoop counter k) })) ∧
  ∀ name, name ≠ String.ofList variableName →
    after.vars.lookup name = before.vars.lookup name

/-- Every loop of the workflow is isolated from the others for the extension. -/
def BudgetIsIsolated (snapshot : Json) (wf : WorkflowFile)
    (extension : WorkflowLoopBudgetExtensionCmd) : Prop :=
  ∀ variableName previousMax,
    findLoopBudgetVariable snapshot (Text.trim extension.counter) =
      .ok (variableName, previousMax) →
    ∀ entry ∈ wf.states, ∀ lc ∈ entry.2.loopConfig,
      LoopIsIsolated (Text.trim extension.counter) variableName previousMax
        (previousMax + extension.additionalCycles) lc

/-- The compiled states are the raised ones exactly when every loop is isolated. -/
theorem withVariables_eq_raised_iff
    {vars vars' : List (String × Json)} {counter variableName : Text}
    {previousMax k : Nat}
    (hloop : ∀ lc, compileLoop lc vars' = raisedLoop counter k (compileLoop lc vars) ↔
      LoopIsIsolated counter variableName previousMax (previousMax + k) lc)
    (source : String × WorkflowState) (entry : String × CompiledState)
    (hentry : (compileState agents contracts vars source.1 source.2).map
      (fun compiled => (source.1, compiled)) = .ok entry) :
    (withVariables vars' source entry = (entry.1, { entry.2 with
        loopConfig := entry.2.loopConfig.map (raisedLoop counter k) })) ↔
      ∀ lc ∈ source.2.loopConfig,
        LoopIsIsolated counter variableName previousMax (previousMax + k) lc := by
  obtain ⟨compiled, hcompiled, rfl⟩ := map_eq_ok_iff.1 hentry
  have hbefore := compileState_loopConfig hcompiled
  rw [withVariables, Prod.mk.injEq, and_iff_right rfl, CompiledState.mk.injEq]
  simp only [true_and, and_true, hbefore]
  cases source.2.loopConfig with
  | none => simp
  | some lc => simp [hloop]

/-- An accepted extension by `k` raises the loops with the counter by `k`, and leaves the
other compiled states and the other variables alone, exactly when every loop with the
counter names the raised variable, the new limit is below `2 ^ 63`, and no other loop
names the variable unless its value was at least `2 ^ 63` before. -/
theorem loop_extension_exact_iff
    {workflowSnapshotHash : Json → Text} {runId : Text}
    {readMembers : Json → Result WorkflowFile} {snapshot updated : Json}
    {extension : WorkflowLoopBudgetExtensionCmd} {result : LoopBudgetExtensionResult}
    (haccept : extendWorkflowLoopBudget workflowSnapshotHash runId (some snapshot)
      extension = .ok (updated, result))
    {wf : WorkflowFile} (hread : readWorkflow readMembers snapshot = .ok wf)
    {before : CompiledWorkflow}
    (hbefore : compileFromSnapshot readMembers agents contracts snapshot = .ok before) :
    (∃ after, compileFromSnapshot readMembers agents contracts updated = .ok after ∧
      ExtendsExactly result.counter result.variableName extension.additionalCycles
        before after) ↔
      BudgetIsIsolated snapshot wf extension := by
  obtain ⟨⟨hpos, hle⟩, hcounter, previousMax, fields, hfind, hfields, hprevious, rfl⟩ :=
    extendWorkflowLoopBudget_eq_ok haccept
  rw [compileFromSnapshot, hread] at hbefore
  replace hbefore : compileWorkflowStates agents contracts wf = .ok before := hbefore
  let extended := Json.insertField result.variableName
    (.number (.posInt (previousMax + extension.additionalCycles))) fields
  obtain ⟨hvars, hupdated⟩ := readWorkflow_insert hfields hread extended
  have hafter := compileWorkflowStates_vars hbefore (some (snapshotVariables extended))
  obtain ⟨states, hstates, heq⟩ := (bind_eq_ok_iff _ _ _).1 hbefore
  obtain rfl := (pure_eq_ok_iff _ _).1 heq
  have hsame : ∀ name, name ≠ String.ofList result.variableName →
      (compileVariables (some (snapshotVariables extended))).lookup name =
        (compileVariables wf.vars).lookup name := by
    intro name hname
    have hne : name.toList ≠ result.variableName := fun h =>
      hname (by rw [← h, String.ofList_toList])
    rw [← String.ofList_toList (s := name), hvars, lookup_compileVariables,
      lookup_compileVariables, Json.lookup_insertField_of_ne fields hne]
  have hold : (compileVariables wf.vars).lookup (String.ofList result.variableName) =
      some (yamlToJson (jsonToYaml (.number (.posInt previousMax)))) := by
    rw [hvars, lookup_compileVariables, hprevious, Option.map_some]
  have hnew : (compileVariables (some (snapshotVariables extended))).lookup
      (String.ofList result.variableName) = some (yamlToJson (jsonToYaml
        (.number (.posInt (previousMax + extension.additionalCycles))))) := by
    rw [lookup_compileVariables, Json.lookup_insertField_self, Option.map_some]
  have hloop := compileLoop_eq_raisedLoop_iff (Text.trim extension.counter) hpos hle
    hold hnew hsame
  have hforall := zipWith_eq_map_iff ((mapM_eq_ok_iff _ _ _).1 hstates)
    (withVariables_eq_raised_iff hloop)
  rw [BudgetIsIsolated, compileFromSnapshot, hupdated, hcounter]
  constructor
  · rintro ⟨after, hcompiled, hraised, -⟩ variableName value hfound
    obtain ⟨rfl, rfl⟩ := Prod.mk.inj (Except.ok.inj (hfind.symm.trans hfound))
    obtain rfl := Except.ok.inj (hafter.symm.trans hcompiled)
    exact hforall.1 hraised
  · intro hisolated
    exact ⟨_, hafter, hforall.2 (hisolated _ _ hfind), hsame⟩

end Plans

/-! ## Two loops on one variable -/

/-- A state with its label, its owner and its loop. -/
def readLoopState (value : Json) : Result WorkflowState := do
  let label ← required (value.getStr "label") "missing field label"
  let owner ← required (value.getStr "owner") "missing field owner"
  match value.get "loop".toList with
  | none => pure { label := String.ofList label, owner := String.ofList owner }
  | some loop =>
      let counter ← required (loop.getStr "counter") "missing field counter"
      let max ← required (loop.get "max".toList) "missing field max"
      pure { label := String.ofList label
             owner := String.ofList owner
             loopConfig := some { counter := String.ofList counter, max := jsonToYaml max } }

/-- A workflow with its initial state and the loops of its states. -/
def readLoopStates (snapshot : Json) : Result WorkflowFile := do
  let initialState ← required (snapshot.getStr "initial_state")
    "missing field initial_state"
  match snapshot.get "states".toList with
  | some (.object fields) => do
      let states ← fields.mapM fun field => do
        let state ← readLoopState field.2
        pure (String.ofList field.1, state)
      pure { initialState := String.ofList initialState, states }
  | _ => .error "missing field states"

/-- A state of the agent `a` with a loop. -/
def loopStateJson (counter max : String) : Json :=
  .ofFields [("label", .ofString "A"), ("owner", .ofString "a"),
    ("loop", .ofFields [("counter", .ofString counter), ("max", .ofString max)])]

/-- Two loops, the first with three cycles by the variable `m`. -/
def twoLoopsSnapshot (secondMax : String) (m : Nat) : Json :=
  .ofFields [("initial_state", .ofString "s"),
    ("states", .ofFields [("s", loopStateJson "c" "vars.m"),
      ("t", loopStateJson "d" secondMax)]),
    ("variables", .ofFields [("m", .number (.posInt m)), ("n", .number (.posInt 7))])]

/-- One more cycle for the counter `c`. -/
def oneMoreCycle : WorkflowLoopBudgetExtensionCmd where
  counter := "c".toList
  additionalCycles := 1
  reason := "r".toList

/-- The agent of the states. -/
def loopAgents : List (String × AgentBinding) :=
  [("a", { backendProfileId := "b", provider := "p" })]

/-- The loops of a snapshot with two of them. -/
def compiledLoops (secondMax : String) (m : Nat) : Result (List (Option CompiledLoop)) :=
  (compileFromSnapshot readLoopStates loopAgents {} (twoLoopsSnapshot secondMax m)).map
    fun plan => plan.states.map fun entry => entry.2.loopConfig

/-- Where both loops name the variable, one more cycle for the first is one more cycle for
the second. -/
theorem shared_variable_moves_both_loops :
    ¬∀ (workflowSnapshotHash : Json → Text) (runId : Text)
      (readMembers : Json → Result WorkflowFile) (snapshot updated : Json)
      (extension : WorkflowLoopBudgetExtensionCmd) (result : LoopBudgetExtensionResult)
      (agents : List (String × AgentBinding)) (contracts : ContractLookup)
      (before : CompiledWorkflow),
      extendWorkflowLoopBudget workflowSnapshotHash runId (some snapshot) extension =
        .ok (updated, result) →
      compileFromSnapshot readMembers agents contracts snapshot = .ok before →
      ∃ after, compileFromSnapshot readMembers agents contracts updated = .ok after ∧
        ExtendsExactly result.counter result.variableName extension.additionalCycles
          before after := by
  intro h
  have hbefore : compiledLoops "vars.m" 3 =
      .ok [some { counter := "c", max := 3 }, some { counter := "d", max := 3 }] := rfl
  have hafter : compiledLoops "vars.m" 4 =
      .ok [some { counter := "c", max := 4 }, some { counter := "d", max := 4 }] := rfl
  obtain ⟨before, hcompiled, hloops⟩ := map_eq_ok_iff.1 hbefore
  obtain ⟨after, hrecompiled, hraised, -⟩ := h (fun _ => []) "r".toList readLoopStates
    (twoLoopsSnapshot "vars.m" 3) (twoLoopsSnapshot "vars.m" 4) oneMoreCycle _ loopAgents
    {} before rfl hcompiled
  rw [compiledLoops, hrecompiled, Except.map, hraised, List.map_map] at hafter
  have hsecond := congrArg (List.map (Option.map (raisedLoop "c".toList 1))) hloops
  rw [List.map_map] at hsecond
  exact absurd (hsecond.symm.trans (Except.ok.inj hafter)) (by decide)

/-- Where the second loop names another variable, only the first gets the cycle. -/
theorem loop_extension_exact_two_loops :
    ∃ before after,
      compileFromSnapshot readLoopStates loopAgents {} (twoLoopsSnapshot "vars.n" 3) =
        .ok before ∧
      compileFromSnapshot readLoopStates loopAgents {} (twoLoopsSnapshot "vars.n" 4) =
        .ok after ∧
      ExtendsExactly "c".toList "m".toList 1 before after := by
  obtain ⟨before, hbefore⟩ : ∃ before, compileFromSnapshot readLoopStates loopAgents {}
      (twoLoopsSnapshot "vars.n" 3) = .ok before := ⟨_, rfl⟩
  have haccept : ∃ result, extendWorkflowLoopBudget (fun _ => []) "r".toList
      (some (twoLoopsSnapshot "vars.n" 3)) oneMoreCycle =
        .ok (twoLoopsSnapshot "vars.n" 4, result) ∧
      result.counter = "c".toList ∧ result.variableName = "m".toList := ⟨_, rfl, rfl, rfl⟩
  obtain ⟨result, haccept, hcounter, hname⟩ := haccept
  have hread : ∃ wf, readWorkflow readLoopStates (twoLoopsSnapshot "vars.n" 3) = .ok wf ∧
      ∀ entry ∈ wf.states, ∀ lc ∈ entry.2.loopConfig,
        LoopIsIsolated "c".toList "m".toList 3 4 lc := by
    refine ⟨_, rfl, ?_⟩
    decide
  obtain ⟨wf, hread, hisolated⟩ := hread
  obtain ⟨after, hafter, hexact⟩ :=
    (loop_extension_exact_iff haccept hread hbefore).2 fun variableName value hfind => by
      have hfound : findLoopBudgetVariable (twoLoopsSnapshot "vars.n" 3) "c".toList =
        .ok ("m".toList, 3) := rfl
      obtain ⟨rfl, rfl⟩ := Prod.mk.inj (Except.ok.inj (hfound.symm.trans hfind))
      exact hisolated
  rw [hcounter, hname] at hexact
  exact ⟨before, after, hbefore, hafter, hexact⟩

end ChainworksForge.Engine
