import ChainworksForge.Support.FirstMatch
import ChainworksForge.Support.Text
import ChainworksForge.Workflow.Plan

/-!
# Output contracts

The lookup from output names to the contracts of a catalog.  A contract is
registered under its identifier, its artifact names and the same names without
a version suffix.  The contracts of a catalog come from a hash map, and a name
belongs to the contract that is iterated first.
-/

namespace ChainworksForge.Workflow

open ChainworksForge.Support

/-- The text before and after the last occurrence of a marker. -/
def rsplitMarker (marker id : Text) : Option (Text × Text) :=
  (Text.splitFirst marker.reverse id.reverse).map fun halves =>
    (halves.2.reverse, halves.1.reverse)

/-- A contract identifier without its trailing version suffix. -/
def stripVersionSuffix (id : String) : Option String :=
  ["_v", "-v", "_V", "-V"].findSome? fun marker =>
    match rsplitMarker marker.toList id.toList with
    | none => none
    | some (stem, tail) =>
        if !tail.isEmpty && tail.all Char.isDigit then
          some (String.ofList stem)
        else none

/-- The resolved schema of a contract. -/
def outputSchema (contractId : String) (contract : ContractDef) :
    OutputSchema where
  contractId := contractId
  format := contract.format.getD "json"
  humanFormat := contract.humanFormat.or
    (if contract.validationMode = some "structured_with_human_companion" then
      some "markdown"
    else none)
  machineFormat := contract.machineFormat
  validationMode := contract.validationMode
  normalizedArtifactName := contract.normalizedArtifactName
  rawArtifactName := contract.rawArtifactName
  requiredFields := contract.requiredFields

/-- Lookup from output names and contract identifiers to schemas. -/
structure ContractLookup where
  byContractId : List (String × OutputSchema) := []
  byOutput : List (String × OutputSchema) := []

/-- Insert an entry unless its key is taken. -/
def entryOrInsert
    (lookup : List (String × OutputSchema)) (key : String)
    (schema : OutputSchema) : List (String × OutputSchema) :=
  if AgentCatalogFile.containsKey lookup key then lookup
  else lookup ++ [(key, schema)]

/-- Register a name of a contract and its versionless stem. -/
def registerContractAlias
    (lookup : List (String × OutputSchema)) (name : String)
    (schema : OutputSchema) : List (String × OutputSchema) :=
  match stripVersionSuffix name with
  | some stem => entryOrInsert (entryOrInsert lookup name schema) stem schema
  | none => entryOrInsert lookup name schema

/-- Register an artifact name where the contract has one. -/
def registerArtifactName
    (lookup : List (String × OutputSchema)) (name : Option String)
    (schema : OutputSchema) : List (String × OutputSchema) :=
  match name with
  | some name => registerContractAlias lookup name schema
  | none => lookup

/-- Register a contract of the catalog. -/
def registerContract
    (lookup : ContractLookup) (entry : String × ContractDef) :
    ContractLookup :=
  let schema := outputSchema entry.1 entry.2
  let byOutput := registerContractAlias lookup.byOutput entry.1 schema
  let byOutput :=
    registerArtifactName byOutput entry.2.normalizedArtifactName schema
  let byOutput := registerArtifactName byOutput entry.2.rawArtifactName schema
  { byContractId := (entry.1, schema) :: lookup.byContractId
    byOutput := byOutput }

/-- The lookup of a catalog, built in the iteration order of its contracts. -/
def buildContractLookup (catalog : AgentCatalogFile) : ContractLookup :=
  (catalog.contracts.getD []).foldl registerContract {}

namespace ContractLookup

/-- Whether an output name matches a name or a stem of a contract. -/
def outputMatchesContract
    (lookup : ContractLookup) (outputName contractId : String) : Bool :=
  match lookup.byContractId.lookup contractId with
  | none => false
  | some schema =>
      let outputStem := stripVersionSuffix outputName
      let names := contractId ::
        (schema.normalizedArtifactName.toList ++ schema.rawArtifactName.toList)
      names.any fun name =>
        outputName = name || stripVersionSuffix name = some outputName ||
          outputStem = some name || outputStem = stripVersionSuffix name

/-- The contract of an output.  The explicit contract of a task is
authoritative for a single output. -/
def resolve
    (lookup : ContractLookup) (outputName : String)
    (explicitContract : Option String) (outputCount : Nat) :
    Option OutputSchema :=
  let named := (lookup.byOutput.lookup outputName).or
    ((stripVersionSuffix outputName).bind fun stem =>
      lookup.byOutput.lookup stem)
  match explicitContract with
  | some contractId =>
      if outputCount = 1 || lookup.outputMatchesContract outputName contractId
      then lookup.byContractId.lookup contractId
      else named
  | none => named

end ContractLookup

/-! ## The names of a contract -/

/-- The identifier and the artifact names of a contract. -/
def contractNames (entry : String × ContractDef) : List String :=
  entry.1 :: (entry.2.normalizedArtifactName.toList ++
    entry.2.rawArtifactName.toList)

/-- The names of a contract, with and without their version suffixes. -/
def contractAliases (entry : String × ContractDef) : List String :=
  (contractNames entry).flatMap fun name =>
    name :: (stripVersionSuffix name).toList

/-- The schema of a contract of the catalog. -/
def schemaOf (entry : String × ContractDef) : OutputSchema :=
  outputSchema entry.1 entry.2

/-- The first of several contracts that has a name. -/
def firstNamed
    (contracts : List (String × ContractDef)) (name : String) :
    Option OutputSchema :=
  (contracts.find? fun entry => name ∈ contractAliases entry).map schemaOf

section Registration

variable {lookup : List (String × OutputSchema)} {schema : OutputSchema}

theorem lookup_entryOrInsert (key name : String) :
    (entryOrInsert lookup key schema).lookup name =
      (lookup.lookup name).or (if name = key then some schema else none) := by
  unfold entryOrInsert AgentCatalogFile.containsKey
  by_cases htaken : (lookup.lookup key).isSome
  · rw [if_pos htaken]
    by_cases hname : name = key
    · rw [hname, if_pos rfl]
      obtain ⟨value, hvalue⟩ := Option.isSome_iff_exists.mp htaken
      rw [hvalue]
      rfl
    · rw [if_neg hname, Option.or_none]
  · rw [if_neg htaken, List.lookup_append, List.lookup_cons]
    congr 1
    by_cases hname : name = key
    · simp [hname]
    · simp [hname, beq_eq_false_iff_ne.mpr hname]

/-- A name is found where it was found before, or stands for the new contract. -/
theorem lookup_registerContractAlias (key name : String) :
    (registerContractAlias lookup key schema).lookup name =
      (lookup.lookup name).or
        (if name = key ∨ stripVersionSuffix key = some name then some schema
          else none) := by
  unfold registerContractAlias
  cases hstem : stripVersionSuffix key with
  | none => simp [lookup_entryOrInsert]
  | some stem =>
      rw [lookup_entryOrInsert, lookup_entryOrInsert, Option.or_assoc]
      congr 1
      by_cases hkey : name = key
      · simp [hkey]
      · simp [hkey, eq_comm]

theorem lookup_registerArtifactName (key : Option String) (name : String) :
    (registerArtifactName lookup key schema).lookup name =
      (lookup.lookup name).or
        (if ∃ own ∈ key, name = own ∨ stripVersionSuffix own = some name then
          some schema
        else none) := by
  cases key with
  | none => simp [registerArtifactName]
  | some key =>
      rw [registerArtifactName, lookup_registerContractAlias]
      simp

end Registration

theorem mem_contractAliases {entry : String × ContractDef} {name : String} :
    name ∈ contractAliases entry ↔
      ∃ own ∈ contractNames entry,
        name = own ∨ stripVersionSuffix own = some name := by
  simp [contractAliases, eq_comm]

/-- Registration gives a contract the names that are still free. -/
theorem lookup_byOutput_registerContract
    (lookup : ContractLookup) (entry : String × ContractDef) (name : String) :
    (registerContract lookup entry).byOutput.lookup name =
      (lookup.byOutput.lookup name).or
        (if name ∈ contractAliases entry then some (schemaOf entry)
          else none) := by
  have hsplit : name ∈ contractAliases entry ↔
      (name = entry.1 ∨ stripVersionSuffix entry.1 = some name) ∨
      (∃ own ∈ entry.2.normalizedArtifactName,
        name = own ∨ stripVersionSuffix own = some name) ∨
      ∃ own ∈ entry.2.rawArtifactName,
        name = own ∨ stripVersionSuffix own = some name := by
    rw [mem_contractAliases]
    simp only [contractNames, List.mem_cons, List.mem_append,
      Option.mem_toList, Option.mem_def, or_and_right, exists_or,
      exists_eq_left]
  simp only [registerContract, lookup_registerArtifactName,
    lookup_registerContractAlias, Option.or_assoc]
  congr 1
  by_cases hid : name = entry.1 ∨ stripVersionSuffix entry.1 = some name
  · rw [if_pos hid, if_pos (hsplit.mpr (.inl hid))]
    rfl
  · rw [if_neg hid, Option.none_or]
    by_cases hnormalized : ∃ own ∈ entry.2.normalizedArtifactName,
        name = own ∨ stripVersionSuffix own = some name
    · rw [if_pos hnormalized, if_pos (hsplit.mpr (.inr (.inl hnormalized)))]
      rfl
    · rw [if_neg hnormalized, Option.none_or]
      refine if_congr ⟨fun h => hsplit.mpr (.inr (.inr h)), fun h => ?_⟩ rfl rfl
      exact ((hsplit.mp h).resolve_left hid).resolve_left hnormalized

/-- The lookup finds the first contract that has a name. -/
theorem lookup_byOutput_foldl
    (contracts : List (String × ContractDef)) (lookup : ContractLookup)
    (name : String) :
    (contracts.foldl registerContract lookup).byOutput.lookup name =
      (lookup.byOutput.lookup name).or (firstNamed contracts name) := by
  induction contracts generalizing lookup with
  | nil => simp [firstNamed]
  | cons entry rest ih =>
      rw [List.foldl_cons, ih, lookup_byOutput_registerContract,
        Option.or_assoc]
      congr 1
      by_cases hname : name ∈ contractAliases entry
      · simp [firstNamed, hname]
      · simp [firstNamed, hname]

theorem lookup_byOutput (catalog : AgentCatalogFile) (name : String) :
    (buildContractLookup catalog).byOutput.lookup name =
      firstNamed (catalog.contracts.getD []) name := by
  rw [buildContractLookup, lookup_byOutput_foldl]
  exact Option.none_or

/-- Several contracts with distinct identifiers are found by identifier. -/
theorem lookup_byContractId_foldl
    (contracts : List (String × ContractDef))
    (hkeys : (contracts.map Prod.fst).Nodup) (lookup : ContractLookup)
    (contractId : String) :
    (contracts.foldl registerContract lookup).byContractId.lookup contractId =
      ((contracts.find? fun entry => entry.1 = contractId).map schemaOf).or
        (lookup.byContractId.lookup contractId) := by
  induction contracts generalizing lookup with
  | nil => rfl
  | cons entry rest ih =>
      obtain ⟨hfresh, hrest⟩ := List.nodup_cons.mp hkeys
      rw [List.foldl_cons, ih hrest, registerContract, List.lookup_cons]
      by_cases hid : entry.1 = contractId
      · have hnone : rest.find? (fun other => other.1 = contractId) = none := by
          rw [List.find?_eq_none]
          intro other hother hsame
          exact hfresh (List.mem_map.mpr
            ⟨other, hother, (of_decide_eq_true hsame).trans hid.symm⟩)
        simp [hid, hnone, schemaOf]
      · simp [hid, beq_eq_false_iff_ne.mpr (Ne.symm hid)]

theorem lookup_byContractId
    (catalog : AgentCatalogFile)
    (hkeys : ((catalog.contracts.getD []).map Prod.fst).Nodup)
    (contractId : String) :
    (buildContractLookup catalog).byContractId.lookup contractId =
      ((catalog.contracts.getD []).find? fun entry =>
        entry.1 = contractId).map schemaOf := by
  rw [buildContractLookup, lookup_byContractId_foldl _ hkeys]
  exact Option.or_none

theorem lookup_byContractId_of_mem
    (catalog : AgentCatalogFile)
    (hkeys : ((catalog.contracts.getD []).map Prod.fst).Nodup)
    {entry : String × ContractDef} (hentry : entry ∈ catalog.contracts.getD []) :
    (buildContractLookup catalog).byContractId.lookup entry.1 =
      some (schemaOf entry) := by
  rw [lookup_byContractId catalog hkeys, (atMostOne_key hkeys
    entry.1).find?_eq_some hentry (decide_eq_true rfl), Option.map_some]

/-! ## The order of the contracts -/

/-- A name of a contract, with or without its version suffix, that an output
bears. -/
def NamesContract (outputName : String) (entry : String × ContractDef) : Prop :=
  outputName ∈ contractAliases entry ∨
    ∃ stem, stripVersionSuffix outputName = some stem ∧
      stem ∈ contractAliases entry

/-- No name belongs to two contracts. -/
def Unambiguous (contracts : List (String × ContractDef)) : Prop :=
  ∀ name, AtMostOne (fun entry => name ∈ contractAliases entry) contracts

/-- Wherever an identifier has no version suffix, every name of every other
contract has one. -/
def VersionedBeside (contracts : List (String × ContractDef)) : Prop :=
  ∀ entry ∈ contracts, ∀ other ∈ contracts, other ≠ entry →
    stripVersionSuffix entry.1 = none →
      ∀ name ∈ contractNames other, stripVersionSuffix name ≠ none

/-- The explicit contract of a task leaves an output to its own name: there is
none, it is the contract of that name, or it is another contract that neither is
authoritative nor shares a name with the output. -/
def LeftToName
    (contracts : List (String × ContractDef)) (entry : String × ContractDef)
    (explicitContract : Option String) (outputCount : Nat) : Prop :=
  ∀ contractId ∈ explicitContract, contractId = entry.1 ∨
    (outputCount ≠ 1 ∧ ∀ other ∈ contracts, other.1 = contractId →
      ¬NamesContract entry.1 other)

/-- A catalog whose contracts are iterated in another order. -/
def AgentCatalogFile.withContracts
    (catalog : AgentCatalogFile) (contracts : List (String × ContractDef)) :
    AgentCatalogFile :=
  { catalog with contracts := some contracts }

theorem mem_contractAliases_self (entry : String × ContractDef) :
    entry.1 ∈ contractAliases entry :=
  mem_contractAliases.mpr ⟨entry.1, List.mem_cons_self, .inl rfl⟩

/-- A schema tells its contract. -/
theorem eq_of_schemaOf_eq
    {contracts : List (String × ContractDef)}
    (hkeys : (contracts.map Prod.fst).Nodup) {a b : String × ContractDef}
    (ha : a ∈ contracts) (hb : b ∈ contracts) (h : schemaOf a = schemaOf b) :
    a = b :=
  List.inj_on_of_nodup_map hkeys ha hb (congrArg OutputSchema.contractId h)

/-- Resolution reads the two maps of a lookup by key alone. -/
theorem resolve_congr
    {lookup other : ContractLookup}
    (hid : ∀ key, lookup.byContractId.lookup key =
      other.byContractId.lookup key)
    (houtput : ∀ key, lookup.byOutput.lookup key = other.byOutput.lookup key) :
    lookup.resolve = other.resolve := by
  funext outputName explicitContract outputCount
  cases explicitContract with
  | none => simp only [ContractLookup.resolve, houtput]
  | some contractId =>
      have hmatch : lookup.outputMatchesContract outputName contractId =
          other.outputMatchesContract outputName contractId := by
        rw [ContractLookup.outputMatchesContract,
          ContractLookup.outputMatchesContract, hid]
      simp only [ContractLookup.resolve, hid, houtput]
      exact if_congr (by rw [hmatch]) rfl rfl

section Catalog

variable (catalog : AgentCatalogFile)

/-- The contract of an output that no explicit contract binds. -/
theorem resolve_none (outputName : String) (outputCount : Nat) :
    (buildContractLookup catalog).resolve outputName none outputCount =
      (firstNamed (catalog.contracts.getD []) outputName).or
        ((stripVersionSuffix outputName).bind
          (firstNamed (catalog.contracts.getD []))) := by
  simp only [ContractLookup.resolve, lookup_byOutput]

/-- A name that a contract has is resolved by the first such contract. -/
theorem resolve_none_of_find?
    {outputName : String} {entry : String × ContractDef}
    (h : (catalog.contracts.getD []).find?
      (fun entry => outputName ∈ contractAliases entry) = some entry)
    (outputCount : Nat) :
    (buildContractLookup catalog).resolve outputName none outputCount =
      some (schemaOf entry) := by
  rw [resolve_none, firstNamed, h]
  rfl

/-- Two outputs without a version suffix and a version-free name of a contract
are taken for a match. -/
theorem outputMatchesContract_iff
    (hkeys : ((catalog.contracts.getD []).map Prod.fst).Nodup)
    {other : String × ContractDef} (hother : other ∈ catalog.contracts.getD [])
    (outputName : String) :
    (buildContractLookup catalog).outputMatchesContract outputName other.1 =
        true ↔
      NamesContract outputName other ∨
        (stripVersionSuffix outputName = none ∧
          ∃ name ∈ contractNames other, stripVersionSuffix name = none) := by
  have hfound : (buildContractLookup catalog).byContractId.lookup other.1 =
      some (schemaOf other) :=
    lookup_byContractId_of_mem catalog hkeys hother
  have hmatch : (buildContractLookup catalog).outputMatchesContract outputName
      other.1 = true ↔ ∃ name ∈ contractNames other,
        ((outputName = name ∨ stripVersionSuffix name = some outputName) ∨
          stripVersionSuffix outputName = some name) ∨
        stripVersionSuffix outputName = stripVersionSuffix name := by
    rw [ContractLookup.outputMatchesContract, hfound]
    simp only [List.any_eq_true, Bool.or_eq_true, decide_eq_true_eq]
    rfl
  rw [hmatch]
  constructor
  · rintro ⟨name, hname, (hown | hstem) | hsame⟩
    · exact .inl (.inl (mem_contractAliases.mpr ⟨name, hname, hown⟩))
    · exact .inl (.inr ⟨name, hstem, mem_contractAliases.mpr
        ⟨name, hname, .inl rfl⟩⟩)
    · cases hversion : stripVersionSuffix name with
      | none => exact .inr ⟨hsame.trans hversion, name, hname, hversion⟩
      | some stem =>
          exact .inl (.inr ⟨stem, hsame.trans hversion,
            mem_contractAliases.mpr ⟨name, hname, .inr hversion⟩⟩)
  · rintro ((halias | ⟨stem, hstem, halias⟩) | ⟨hnone, name, hname, hversion⟩)
    · obtain ⟨name, hname, hown⟩ := mem_contractAliases.mp halias
      exact ⟨name, hname, .inl (.inl hown)⟩
    · obtain ⟨name, hname, rfl | hown⟩ := mem_contractAliases.mp halias
      · exact ⟨stem, hname, .inl (.inr hstem)⟩
      · exact ⟨name, hname, .inr (hstem.trans hown.symm)⟩
    · exact ⟨name, hname, .inr (hnone.trans hversion.symm)⟩

/-- An output left to its name finds the contract of that name. -/
theorem resolve_of_leftToName
    (hkeys : ((catalog.contracts.getD []).map Prod.fst).Nodup)
    (hnames : Unambiguous (catalog.contracts.getD []))
    (hversions : VersionedBeside (catalog.contracts.getD []))
    {entry : String × ContractDef} (hentry : entry ∈ catalog.contracts.getD [])
    {explicitContract : Option String} {outputCount : Nat}
    (hleft : LeftToName (catalog.contracts.getD []) entry explicitContract
      outputCount) :
    (buildContractLookup catalog).resolve entry.1 explicitContract outputCount =
      some (schemaOf entry) := by
  have hfirst := (hnames entry.1).find?_eq_some hentry
    (decide_eq_true (mem_contractAliases_self entry))
  have hnamed := resolve_none_of_find? catalog hfirst outputCount
  cases explicitContract with
  | none => exact hnamed
  | some contractId =>
      by_cases hbound : (decide (outputCount = 1) ||
          (buildContractLookup catalog).outputMatchesContract entry.1
            contractId) = true
      · have hresolve : (buildContractLookup catalog).resolve entry.1
            (some contractId) outputCount =
              (buildContractLookup catalog).byContractId.lookup contractId :=
          if_pos hbound
        obtain rfl | ⟨hcount, hother⟩ := hleft contractId rfl
        · exact hresolve.trans (lookup_byContractId_of_mem catalog hkeys hentry)
        · -- only a match without any version suffix is left
          rw [decide_eq_false hcount, Bool.false_or] at hbound
          cases hfound : (catalog.contracts.getD []).find? fun other =>
              other.1 = contractId with
          | none =>
              have hlookup := lookup_byContractId catalog hkeys contractId
              rw [hfound] at hlookup
              rw [ContractLookup.outputMatchesContract, hlookup] at hbound
              exact absurd hbound Bool.false_ne_true
          | some other =>
              have hmem := List.mem_of_find?_eq_some hfound
              obtain rfl : other.1 = contractId := by
                simpa using List.find?_some hfound
              obtain hshared | ⟨hnone, name, hname, hversion⟩ :=
                (outputMatchesContract_iff catalog hkeys hmem entry.1).mp hbound
              · exact absurd hshared (hother other hmem rfl)
              · by_cases hsame : other = entry
                · rw [hresolve, hsame]
                  exact lookup_byContractId_of_mem catalog hkeys hentry
                · exact absurd hversion
                    (hversions entry hentry other hmem hsame hnone name hname)
      · exact (if_neg hbound).trans hnamed

end Catalog

/-- The names of a catalog whose resolution ignores the order are unambiguous. -/
theorem unambiguous_of_resolve_perm
    (catalog : AgentCatalogFile) {contracts : List (String × ContractDef)}
    (hkeys : (contracts.map Prod.fst).Nodup)
    (h : ∀ first second : List (String × ContractDef), first.Perm contracts →
      second.Perm contracts → ∀ outputName,
        (buildContractLookup (catalog.withContracts first)).resolve outputName
            none 0 =
          (buildContractLookup (catalog.withContracts second)).resolve
            outputName none 0) :
    Unambiguous contracts := by
  intro name
  refine atMostOne_of_find?_perm fun first second hfirst hsecond => ?_
  cases hfound : first.find? fun entry => name ∈ contractAliases entry with
  | none =>
      rw [List.find?_eq_none] at hfound
      refine (List.find?_eq_none.mpr fun entry hentry => ?_).symm
      exact hfound entry (hfirst.symm.subset (hsecond.subset hentry))
  | some a =>
      have ha := List.mem_of_find?_eq_some hfound
      obtain ⟨b, hb⟩ := Option.isSome_iff_exists.mp (List.find?_isSome.mpr
        ⟨a, hsecond.symm.subset (hfirst.subset ha), List.find?_some hfound⟩)
      have hresolve := h first second hfirst hsecond name
      rw [resolve_none_of_find? (catalog.withContracts first) hfound,
        resolve_none_of_find? (catalog.withContracts second) hb,
        Option.some_inj] at hresolve
      rw [hb, eq_of_schemaOf_eq hkeys (hfirst.subset ha)
        (hsecond.subset (List.mem_of_find?_eq_some hb)) hresolve]

/--
Resolution ignores the iteration order of the contracts, and an output that is
named like a contract and left to its name finds that contract, exactly when no
name belongs to two contracts and no contract has a version-free name beside
another with a version-free identifier.
-/
theorem resolution_is_stable_iff
    (catalog : AgentCatalogFile) (contracts : List (String × ContractDef))
    (hkeys : (contracts.map Prod.fst).Nodup) :
    ((∀ first second : List (String × ContractDef), first.Perm contracts →
        second.Perm contracts →
        ∀ outputName explicitContract outputCount,
          (buildContractLookup (catalog.withContracts first)).resolve outputName
              explicitContract outputCount =
            (buildContractLookup (catalog.withContracts second)).resolve
              outputName explicitContract outputCount) ∧
      ∀ order : List (String × ContractDef), order.Perm contracts →
        ∀ entry ∈ contracts, ∀ explicitContract outputCount,
          LeftToName contracts entry explicitContract outputCount →
            (buildContractLookup (catalog.withContracts order)).resolve entry.1
                explicitContract outputCount = some (schemaOf entry)) ↔
      Unambiguous contracts ∧ VersionedBeside contracts := by
  constructor
  · rintro ⟨hstable, hown⟩
    have hnames : Unambiguous contracts :=
      unambiguous_of_resolve_perm catalog hkeys
        fun first second hfirst hsecond outputName =>
          hstable first second hfirst hsecond outputName none 0
    refine ⟨hnames, fun entry hentry other hother hne hnone name hname hversion =>
      hne ?_⟩
    have hleft : LeftToName contracts entry (some other.1) 0 := by
      intro contractId hcontract
      obtain rfl := Option.mem_some_iff.mp hcontract
      refine .inr ⟨Nat.zero_ne_one, fun same hsame hid => ?_⟩
      obtain rfl : same = other := List.inj_on_of_nodup_map hkeys hsame hother hid
      rintro (halias | ⟨stem, hstem, -⟩)
      · exact hne (hnames entry.1 same hsame entry hentry (decide_eq_true halias)
          (decide_eq_true (mem_contractAliases_self entry)))
      · rw [hnone] at hstem
        exact Option.some_ne_none stem hstem.symm
    have hresolve := hown contracts (List.Perm.refl _) entry hentry _ _ hleft
    have hmatch := (outputMatchesContract_iff (catalog.withContracts contracts)
      hkeys hother entry.1).mpr (.inr ⟨hnone, name, hname, hversion⟩)
    have hbound : (buildContractLookup
        (catalog.withContracts contracts)).resolve entry.1 (some other.1) 0 =
          some (schemaOf other) :=
      (if_pos (by rw [hmatch, Bool.or_true])).trans
        (lookup_byContractId_of_mem (catalog.withContracts contracts) hkeys
          hother)
    exact eq_of_schemaOf_eq hkeys hother hentry
      (Option.some_inj.mp (hbound.symm.trans hresolve))
  · rintro ⟨hnames, hversions⟩
    have hrun : ∀ order : List (String × ContractDef), order.Perm contracts →
        (buildContractLookup (catalog.withContracts order)).resolve =
          (buildContractLookup (catalog.withContracts contracts)).resolve := by
      intro order hperm
      have hkeysOrder : (order.map Prod.fst).Nodup :=
        ((hperm.map Prod.fst).nodup_iff).mpr hkeys
      refine resolve_congr (fun key => ?_) fun key => ?_
      · rw [lookup_byContractId (catalog.withContracts order) hkeysOrder,
          lookup_byContractId (catalog.withContracts contracts) hkeys]
        exact congrArg (Option.map schemaOf)
          ((atMostOne_key hkeys key).find?_eq_of_perm hperm)
      · rw [lookup_byOutput, lookup_byOutput]
        exact congrArg (Option.map schemaOf)
          ((hnames key).find?_eq_of_perm hperm)
    constructor
    · intro first second hfirst hsecond outputName explicitContract outputCount
      rw [hrun first hfirst, hrun second hsecond]
    · intro order hperm entry hentry explicitContract outputCount hleft
      rw [hrun order hperm]
      exact resolve_of_leftToName (catalog.withContracts contracts) hkeys hnames
        hversions hentry hleft

/-! ## A review beside a versioned plan -/

def planContract : String × ContractDef := ("plan_v1", {})

def reviewContract : String × ContractDef := ("review", {})

/-- The plan under another version. -/
def revisedPlanContract : String × ContractDef :=
  ("plan_v2", { requiredFields := ["status"] })

theorem plan_beside_review_is_stable :
    (buildContractLookup (({} : AgentCatalogFile).withContracts
        [reviewContract, planContract])).resolve "plan" none 2 =
      (buildContractLookup (({} : AgentCatalogFile).withContracts
        [planContract, reviewContract])).resolve "plan" none 2 := by
  have hplan : contractAliases planContract = ["plan_v1", "plan"] := by decide
  have hreview : contractAliases reviewContract = ["review"] := by decide
  have hnames : Unambiguous [planContract, reviewContract] := by
    intro name a ha b hb hnameA hnameB
    have hshared : name ∈ contractAliases planContract →
        name ∉ contractAliases reviewContract := by
      rw [hplan, hreview]
      intro hmem
      obtain rfl | rfl : name = "plan_v1" ∨ name = "plan" := by simpa using hmem
      · decide
      · decide
    have hmemA := of_decide_eq_true hnameA
    have hmemB := of_decide_eq_true hnameB
    obtain rfl | rfl : a = planContract ∨ a = reviewContract := by
      simpa using ha
    · obtain rfl | rfl : b = planContract ∨ b = reviewContract := by
        simpa using hb
      · rfl
      · exact absurd hmemB (hshared hmemA)
    · obtain rfl | rfl : b = planContract ∨ b = reviewContract := by
        simpa using hb
      · exact absurd hmemA (hshared hmemB)
      · rfl
  have hversions : VersionedBeside [planContract, reviewContract] := by
    unfold VersionedBeside
    decide
  exact ((resolution_is_stable_iff {} [planContract, reviewContract]
    (by decide)).mpr ⟨hnames, hversions⟩).1 _ _ (List.Perm.swap _ _ _)
      (List.Perm.refl _) "plan" none 2

/-- Two versions of a contract share their stem, and the first one iterated
takes it. -/
theorem plan_versions_collide :
    [revisedPlanContract, planContract].Perm
        [planContract, revisedPlanContract] ∧
      (buildContractLookup (({} : AgentCatalogFile).withContracts
          [revisedPlanContract, planContract])).resolve "plan" none 2 ≠
        (buildContractLookup (({} : AgentCatalogFile).withContracts
          [planContract, revisedPlanContract])).resolve "plan" none 2 :=
  ⟨List.Perm.swap _ _ _, by decide⟩

end ChainworksForge.Workflow
