import ChainworksForge.Workflow.DirectCommand

/-!
# The scan as a list of steps

A scan is a sequence of steps, each of which records a command or a free text.  The
steps depend on the two files alone, so the scan returns exactly when no step panics, and
its errors are those of its steps.  The steps that record commands come from passes: a
pass visits the texts of a typed list or of a node, each under its path.
-/

namespace ChainworksForge.Workflow

open ChainworksForge.Support

/-! ## Steps -/

/-- One record of a scan. -/
inductive ScanStep where
  | command (owner : CommandOwner) (sourcePath raw : Text)
  | prompt (agentId field raw : Text)

namespace ScanStep

def run (scan : DirectCommandScan) : ScanStep → Option DirectCommandScan
  | command owner sourcePath raw => recordCommand owner scan sourcePath raw
  | prompt agentId field raw => recordPromptText agentId field raw scan

def raw : ScanStep → Text
  | command _ _ raw | prompt _ _ raw => raw

/-- The step writes a message about its text. -/
def writesMessage : ScanStep → Bool
  | command _ _ raw => (commandTool raw).isSome && (commandErrorCode raw).isSome
  | prompt _ _ raw => mentionsXcodeToolOrPath raw

/-- The step panics on its message. -/
def Panics (step : ScanStep) : Prop :=
  step.writesMessage = true ∧ Text.CutsCharacter 160 (joinedWords step.raw)

end ScanStep

/-- The error about a text, if it has a hard-fail code and its beginning can be cut. -/
def failureText (sourceDocument sourcePath raw : Text) : Option Text :=
  (commandErrorCode raw).bind fun errorCode =>
    (compactValue raw).map fun compact =>
      commandErrorText sourceDocument sourcePath errorCode compact

/-- The errors of a step. -/
def ScanStep.errors : ScanStep → List Text
  | command owner sourcePath raw =>
      if (commandTool raw).isSome then
        (failureText owner.sourceDocument sourcePath raw).toList
      else []
  | prompt _ _ _ => []

theorem recordSignals_errors
    (scan : DirectCommandScan) (owner : CommandOwner)
    (classification : CommandClassification) :
    (recordSignals scan owner classification).errors = scan.errors := by
  rw [recordSignals]
  split_ifs
  · rfl
  · rfl

namespace ScanStep

theorem run_eq_none_iff (step : ScanStep) (scan : DirectCommandScan) :
    step.run scan = none ↔ step.Panics := by
  cases step with
  | command owner sourcePath text =>
      rw [run, recordCommand, classifyCommand_eq, Option.bind_some, Panics,
        writesMessage, raw]
      cases htool : commandTool text with
      | none => simp
      | some tool =>
          cases hcode : commandErrorCode text with
          | none => simp
          | some code => simp [compactValue_eq_none_iff]
  | prompt agentId field text =>
      rw [run, recordPromptText, Panics, writesMessage, raw]
      by_cases hmention : mentionsXcodeToolOrPath text = true
      · rw [if_pos hmention, Option.map_eq_none_iff, compactValue_eq_none_iff,
          and_iff_right hmention]
      · rw [if_neg hmention]
        exact iff_of_false (Option.some_ne_none _) fun h => hmention h.1

theorem run_errors
    {step : ScanStep} {scan after : DirectCommandScan}
    (h : step.run scan = some after) : after.errors = scan.errors ++ step.errors := by
  cases step with
  | command owner sourcePath text =>
      rw [run, recordCommand, classifyCommand_eq, Option.bind_some] at h
      rw [errors, failureText]
      cases htool : commandTool text with
      | none =>
          simp only [htool, Option.some.injEq] at h
          simp [h]
      | some tool =>
          cases hcode : commandErrorCode text with
          | none =>
              simp only [htool, hcode, Option.map_some, Option.some.injEq] at h
              simp [← h, recordSignals_errors]
          | some code =>
              simp only [htool, hcode, Option.map_map, Option.map_eq_some_iff] at h
              obtain ⟨compact, hcompact, rfl⟩ := h
              simp [hcompact, recordSignals_errors]
  | prompt agentId field text =>
      rw [run, recordPromptText] at h
      rw [errors, List.append_nil]
      split_ifs at h with hmention
      · obtain ⟨compact, -, rfl⟩ := Option.map_eq_some_iff.1 h
        rfl
      · rw [Option.some.inj h]

end ScanStep

/-- Run the steps of a scan, one after the other. -/
def runSteps (steps : List ScanStep) (scan : DirectCommandScan) :
    Option DirectCommandScan :=
  steps.foldlM (fun scan step => step.run scan) scan

/-- A scan returns exactly when no step panics. -/
theorem runSteps_eq_none_iff (steps : List ScanStep) (scan : DirectCommandScan) :
    runSteps steps scan = none ↔ ∃ step ∈ steps, step.Panics := by
  induction steps generalizing scan with
  | nil => simp [runSteps]
  | cons step rest ih =>
      rw [runSteps, List.foldlM_cons, List.exists_mem_cons_iff,
        ← step.run_eq_none_iff scan]
      cases hstep : step.run scan with
      | none => simp
      | some after =>
          rw [Option.bind_eq_bind, Option.bind_some]
          exact (ih after).trans (or_iff_right (Option.some_ne_none _)).symm

/-- The errors of a scan are those of its steps. -/
theorem runSteps_errors
    {steps : List ScanStep} {scan after : DirectCommandScan}
    (h : runSteps steps scan = some after) :
    after.errors = scan.errors ++ steps.flatMap ScanStep.errors := by
  induction steps generalizing scan with
  | nil =>
      obtain rfl := Option.some.inj h
      simp
  | cons step rest ih =>
      rw [runSteps, List.foldlM_cons, Option.bind_eq_bind,
        Option.bind_eq_some_iff] at h
      obtain ⟨middle, hstep, hrest⟩ := h
      rw [ih hrest, step.run_errors hstep, List.flatMap_cons, List.append_assoc]

theorem runSteps_append (front back : List ScanStep) (scan : DirectCommandScan) :
    runSteps (front ++ back) scan = (runSteps front scan).bind (runSteps back) :=
  List.foldlM_append

/-- A loop whose rounds are runs of steps is a run of all the steps. -/
theorem foldlM_runSteps
    {α : Type} {round : DirectCommandScan → α → Option DirectCommandScan}
    {steps : α → List ScanStep} (l : List α)
    (h : ∀ a ∈ l, ∀ scan, round scan a = runSteps (steps a) scan)
    (scan : DirectCommandScan) :
    l.foldlM round scan = runSteps (l.flatMap steps) scan := by
  induction l generalizing scan with
  | nil => rfl
  | cons a rest ih =>
      rw [List.foldlM_cons, List.flatMap_cons, runSteps_append,
        h a List.mem_cons_self, Option.bind_eq_bind]
      congr 1
      funext middle
      exact ih (fun b hb => h b (List.mem_cons_of_mem a hb)) middle

/-! ## Flattened texts -/

section Leaves

variable (debugKey : Yaml → Text)

mutual

/-- The texts below a node with their paths, in the order of the walk. -/
def yamlLeaves : Yaml → Text → List (Text × Text)
  | .string s, sourcePath => [(sourcePath, s.toList)]
  | .sequence items, sourcePath => itemLeaves items 0 sourcePath
  | .mapping entries, sourcePath => entryLeaves entries sourcePath
  | .tagged _ value, sourcePath => yamlLeaves value sourcePath
  | .null, _ | .bool _, _ | .number _, _ => []
termination_by structural value => value

def itemLeaves : List Yaml → Nat → Text → List (Text × Text)
  | [], _, _ => []
  | item :: rest, idx, sourcePath =>
      yamlLeaves item (indexedPath sourcePath idx) ++
        itemLeaves rest (idx + 1) sourcePath
termination_by structural items => items

def entryLeaves : List (Yaml × Yaml) → Text → List (Text × Text)
  | [], _ => []
  | (key, value) :: rest, sourcePath =>
      yamlLeaves value (keyedPath debugKey sourcePath key) ++
        entryLeaves rest sourcePath
termination_by structural entries => entries

end

theorem writeAll_append (front back entries : List (Text × Text)) :
    writeAll (front ++ back) entries = writeAll back (writeAll front entries) :=
  List.foldl_append

mutual

/-- Flattening a node writes its leaves into the map. -/
theorem collectYamlStrings_eq (value : Yaml) (sourcePath : Text)
    (strings : List (Text × Text)) :
    collectYamlStrings debugKey value sourcePath strings =
      writeAll (yamlLeaves debugKey value sourcePath) strings := by
  match value with
  | .string s => rw [collectYamlStrings, yamlLeaves]; rfl
  | .sequence items =>
      rw [collectYamlStrings, yamlLeaves]
      exact collectItemStrings_eq items 0 sourcePath strings
  | .mapping entries =>
      rw [collectYamlStrings, yamlLeaves]
      exact collectEntryStrings_eq entries sourcePath strings
  | .tagged _ value =>
      rw [collectYamlStrings, yamlLeaves]
      exact collectYamlStrings_eq value sourcePath strings
  | .null => rw [collectYamlStrings, yamlLeaves]; rfl
  | .bool _ => rw [collectYamlStrings, yamlLeaves]; rfl
  | .number _ => rw [collectYamlStrings, yamlLeaves]; rfl
termination_by structural value

theorem collectItemStrings_eq (items : List Yaml) (idx : Nat) (sourcePath : Text)
    (strings : List (Text × Text)) :
    collectItemStrings debugKey items idx sourcePath strings =
      writeAll (itemLeaves debugKey items idx sourcePath) strings := by
  match items with
  | [] => rw [collectItemStrings, itemLeaves]; rfl
  | item :: rest =>
      rw [collectItemStrings, itemLeaves, writeAll_append,
        ← collectYamlStrings_eq item]
      exact collectItemStrings_eq rest (idx + 1) sourcePath _
termination_by structural items

theorem collectEntryStrings_eq (entries : List (Yaml × Yaml)) (sourcePath : Text)
    (strings : List (Text × Text)) :
    collectEntryStrings debugKey entries sourcePath strings =
      writeAll (entryLeaves debugKey entries sourcePath) strings := by
  match entries with
  | [] => rw [collectEntryStrings, entryLeaves]; rfl
  | (key, value) :: rest =>
      rw [collectEntryStrings, entryLeaves, writeAll_append,
        ← collectYamlStrings_eq value]
      exact collectEntryStrings_eq rest sourcePath _
termination_by structural entries

end

end Leaves

end ChainworksForge.Workflow
