import ChainworksForge.Support.Checked
import ChainworksForge.Support.Yaml

/-!
# Bounded decoding of workflow YAML

A new run reads its files through a decoder of its own.  It counts every node
that it enters, refuses a tree that is too deep or too large, and refuses a
mapping with the same key twice.  The input of the decoder is the tree of calls
that the parser makes on a visitor; aliases are already resolved there.

`parseDuplicateAwareYaml_eq_ok_iff` says that the decoder accepts a document
exactly when it is within both limits, has no duplicate key at any level and
holds no integer wider than 64 bits, and that the accepted value is the plain
reading of the tree.
-/

namespace ChainworksForge.Workflow

open ChainworksForge.Support

/-! ## What the parser delivers -/

/-- A visit of a scalar.  Integers that exceed 64 bits come in a wider type. -/
inductive YamlScalar where
  | unit
  | none
  | bool (b : Bool)
  | i64 (n : ℤ)
  | u64 (n : Nat)
  | i128 (n : ℤ)
  | u128 (n : Nat)
  | f64 (x : F64)
  | str (s : String)

mutual

/-- The visits of one node and all nodes below it. -/
inductive YamlEvents where
  | scalar (s : YamlScalar)
  | present (inner : YamlEvents)
  | seq (items : YamlItems)
  | map (entries : YamlEntries)
  | enum (tag : String) (value : YamlEvents)

/-- The items of a sequence. -/
inductive YamlItems where
  | nil
  | cons (item : YamlEvents) (rest : YamlItems)

/-- The keys and values of a mapping. -/
inductive YamlEntries where
  | nil
  | cons (key value : YamlEvents) (rest : YamlEntries)

end

/-! ## The budget -/

inductive YamlDecodeError where
  | complexityExceeded (depth maxDepth node maxNodes : Nat)
  | duplicateKey
  | invalidType (n : ℤ) (type : String)
  | emptyDocument
  | multipleDocuments
deriving DecidableEq

/-- The text of an error. -/
def YamlDecodeError.message : YamlDecodeError → String
  | complexityExceeded depth maxDepth node maxNodes =>
      s!"new_run_yaml_complexity_exceeded: YAML reached depth {depth}/{maxDepth} " ++
        s!"and node {node}/{maxNodes}"
  | duplicateKey => "duplicate YAML mapping key"
  | invalidType n type =>
      s!"invalid type: integer `{n}` as {type}, expected a bounded YAML value " ++
        "without duplicate mapping keys"
  | emptyDocument => "YAML document is empty"
  | multipleDocuments => "multiple YAML documents are not supported"

/-- The largest machine word. -/
def usizeMax : Nat := 2 ^ 64 - 1

def saturatingAdd (n m : Nat) : Nat :=
  min (n + m) usizeMax

/-- The limits of a decode.  A limit is a word below the largest one, at which
the counters would stop. -/
structure YamlDecodeBudget where
  maxDepth : Nat
  maxNodes : Nat
  maxDepth_lt : maxDepth < usizeMax
  maxNodes_lt : maxNodes < usizeMax

/-- The limits of the files of a new run. -/
def newRunYamlBudget : YamlDecodeBudget where
  maxDepth := 64
  maxNodes := 100000
  maxDepth_lt := by decide
  maxNodes_lt := by decide

/-- Count one more node at a depth. -/
def YamlDecodeBudget.enter
    (budget : YamlDecodeBudget) (nodes depth : Nat) :
    Except YamlDecodeError Nat :=
  let nextNodes := saturatingAdd nodes 1
  if depth > budget.maxDepth ∨ nextNodes > budget.maxNodes then
    .error (.complexityExceeded depth budget.maxDepth nextNodes budget.maxNodes)
  else .ok nextNodes

/-! ## The decoder -/

/-- A signed number in the representation of the value type. -/
def yamlNumberOfInt (n : ℤ) : YamlNumber :=
  if n < 0 then .negInt n else .posInt n.toNat

/-- The value of a scalar; the visitor has no case for wider integers. -/
def visitScalar : YamlScalar → Except YamlDecodeError Yaml
  | .unit | .none => .ok .null
  | .bool b => .ok (.bool b)
  | .i64 n => .ok (.number (yamlNumberOfInt n))
  | .u64 n => .ok (.number (.posInt n))
  | .i128 n => .error (.invalidType n "i128")
  | .u128 n => .error (.invalidType n "u128")
  | .f64 x => .ok (.number (.float x))
  | .str s => .ok (.string s)

section Decoder

-- The equality of mapping keys is that of the value library.
variable (sameKey : Yaml → Yaml → Bool) (budget : YamlDecodeBudget)

/-- Whether a mapping holds a key. -/
def containsKey (values : List (Yaml × Yaml)) (key : Yaml) : Bool :=
  values.any fun entry => sameKey entry.1 key

mutual

/-- Visit a node that was entered at a depth; the second component of a result
is the number of nodes entered so far. -/
def visit (depth nodes : Nat) :
    YamlEvents → Except YamlDecodeError (Yaml × Nat)
  | .scalar s => (visitScalar s).map fun value => (value, nodes)
  | .present inner => visit depth nodes inner
  | .seq items =>
      (visitSeq (saturatingAdd depth 1) [] nodes items).map fun result =>
        (.sequence result.1, result.2)
  | .map entries =>
      (visitMap (saturatingAdd depth 1) [] nodes entries).map fun result =>
        (.mapping result.1, result.2)
  | .enum tag value => do
      let child := saturatingAdd depth 1
      let nodes ← budget.enter nodes child
      let value ← visit child nodes value
      .ok (.tagged tag value.1, value.2)

def visitSeq (child : Nat) (values : List Yaml) (nodes : Nat) :
    YamlItems → Except YamlDecodeError (List Yaml × Nat)
  | .nil => .ok (values, nodes)
  | .cons item rest => do
      let nodes ← budget.enter nodes child
      let value ← visit child nodes item
      visitSeq child (values ++ [value.1]) value.2 rest

def visitMap (child : Nat) (values : List (Yaml × Yaml)) (nodes : Nat) :
    YamlEntries → Except YamlDecodeError (List (Yaml × Yaml) × Nat)
  | .nil => .ok (values, nodes)
  | .cons key value rest => do
      let nodes ← budget.enter nodes child
      let key ← visit child nodes key
      let nodes ← budget.enter key.2 child
      let value ← visit child nodes value
      if containsKey sameKey values key.1 then .error .duplicateKey
      else visitMap child (values ++ [(key.1, value.1)]) value.2 rest

end

/-- Decode the only document of a file. -/
def parseDuplicateAwareYaml :
    List YamlEvents → Except YamlDecodeError Yaml
  | [] => .error .emptyDocument
  | document :: documents => do
      let nodes ← budget.enter 0 1
      let value ← visit sameKey budget 1 nodes document
      if documents ≠ [] then .error .multipleDocuments else .ok value.1

end Decoder

/-! ## Plain reading -/

/-- The value of a scalar for a reader without limits. -/
def YamlScalar.value : YamlScalar → Yaml
  | unit | none => .null
  | bool b => .bool b
  | i64 n | i128 n => .number (yamlNumberOfInt n)
  | u64 n | u128 n => .number (.posInt n)
  | f64 x => .number (.float x)
  | str s => .string s

mutual

/-- The value of a tree for a reader without limits. -/
def YamlEvents.value : YamlEvents → Yaml
  | .scalar s => s.value
  | .present inner => inner.value
  | .seq items => .sequence items.values
  | .map entries => .mapping entries.values
  | .enum tag value => .tagged tag value.value

def YamlItems.values : YamlItems → List Yaml
  | .nil => []
  | .cons item rest => item.value :: rest.values

def YamlEntries.values : YamlEntries → List (Yaml × Yaml)
  | .nil => []
  | .cons key value rest => (key.value, value.value) :: rest.values

end

/-! ## Limits -/

mutual

/-- The number of levels under a node. -/
def YamlEvents.height : YamlEvents → Nat
  | .scalar _ => 0
  | .present inner => inner.height
  | .seq items => items.height
  | .map entries => entries.height
  | .enum _ value => value.height + 1

def YamlItems.height : YamlItems → Nat
  | .nil => 0
  | .cons item rest => max (item.height + 1) rest.height

def YamlEntries.height : YamlEntries → Nat
  | .nil => 0
  | .cons key value rest =>
      max (max (key.height + 1) (value.height + 1)) rest.height

end

mutual

/-- The number of nodes under a node; keys are nodes too. -/
def YamlEvents.descendants : YamlEvents → Nat
  | .scalar _ => 0
  | .present inner => inner.descendants
  | .seq items => items.nodeCount
  | .map entries => entries.nodeCount
  | .enum _ value => value.descendants + 1

def YamlItems.nodeCount : YamlItems → Nat
  | .nil => 0
  | .cons item rest => item.descendants + 1 + rest.nodeCount

def YamlEntries.nodeCount : YamlEntries → Nat
  | .nil => 0
  | .cons key value rest =>
      key.descendants + 1 + (value.descendants + 1) + rest.nodeCount

end

/-- Nesting depth of a tree; a scalar has depth one. -/
def YamlEvents.depth (tree : YamlEvents) : Nat :=
  tree.height + 1

/-- Number of nodes of a tree. -/
def YamlEvents.nodeCount (tree : YamlEvents) : Nat :=
  tree.descendants + 1

/-! ## Keys and integers -/

/-- Whether a scalar is an integer that no 64-bit type holds. -/
def YamlScalar.IsWide : YamlScalar → Prop
  | i128 _ | u128 _ => True
  | _ => False

mutual

/-- No scalar of the tree is an integer wider than 64 bits. -/
def YamlEvents.NoWideInteger : YamlEvents → Prop
  | .scalar s => ¬s.IsWide
  | .present inner => inner.NoWideInteger
  | .seq items => items.NoWideInteger
  | .map entries => entries.NoWideInteger
  | .enum _ value => value.NoWideInteger

def YamlItems.NoWideInteger : YamlItems → Prop
  | .nil => True
  | .cons item rest => item.NoWideInteger ∧ rest.NoWideInteger

def YamlEntries.NoWideInteger : YamlEntries → Prop
  | .nil => True
  | .cons key value rest =>
      key.NoWideInteger ∧ value.NoWideInteger ∧ rest.NoWideInteger

end

section Keys

variable (sameKey : Yaml → Yaml → Bool)

/-- No two keys of a mapping are equal. -/
def DistinctKeys (values : List (Yaml × Yaml)) : Prop :=
  values.Pairwise fun first second => sameKey first.1 second.1 = false

mutual

/-- No mapping at any level of the tree has two equal keys. -/
def YamlEvents.NoDuplicateKeys : YamlEvents → Prop
  | .scalar _ => True
  | .present inner => inner.NoDuplicateKeys
  | .seq items => items.NoDuplicateKeys
  | .map entries =>
      DistinctKeys sameKey entries.values ∧ entries.NoDuplicateKeys
  | .enum _ value => value.NoDuplicateKeys

def YamlItems.NoDuplicateKeys : YamlItems → Prop
  | .nil => True
  | .cons item rest => item.NoDuplicateKeys ∧ rest.NoDuplicateKeys

def YamlEntries.NoDuplicateKeys : YamlEntries → Prop
  | .nil => True
  | .cons key value rest =>
      key.NoDuplicateKeys ∧ value.NoDuplicateKeys ∧ rest.NoDuplicateKeys

end

end Keys

/-! ## The decoder against the plain reading -/

theorem visitScalar_eq_ok_iff (s : YamlScalar) (value : Yaml) :
    visitScalar s = .ok value ↔ ¬s.IsWide ∧ value = s.value := by
  cases s with
  | i128 n => simp [visitScalar, YamlScalar.IsWide]
  | u128 n => simp [visitScalar, YamlScalar.IsWide]
  | _ => simp [visitScalar, YamlScalar.IsWide, YamlScalar.value, eq_comm]

section Budget

variable {budget : YamlDecodeBudget}

/-- A node is entered exactly when it is within both limits. -/
theorem enter_eq_ok_iff {nodes depth result : Nat} :
    budget.enter nodes depth = .ok result ↔
      depth ≤ budget.maxDepth ∧ nodes + 1 ≤ budget.maxNodes ∧
        result = nodes + 1 := by
  have hlt := budget.maxNodes_lt
  have hnext : saturatingAdd nodes 1 ≤ budget.maxNodes ↔
      nodes + 1 ≤ budget.maxNodes := by
    rw [saturatingAdd]
    omega
  have hsame : nodes + 1 ≤ budget.maxNodes → saturatingAdd nodes 1 = nodes + 1 :=
    by
    intro h
    rw [saturatingAdd]
    omega
  unfold YamlDecodeBudget.enter
  dsimp only
  by_cases hlimit : depth > budget.maxDepth ∨
      saturatingAdd nodes 1 > budget.maxNodes
  · rw [if_pos hlimit]
    refine iff_of_false (by simp) ?_
    rintro ⟨hdepth, hnodes, -⟩
    have := hnext.mpr hnodes
    omega
  · rw [not_or] at hlimit
    have hnodes := hnext.mp (Nat.le_of_not_lt hlimit.2)
    rw [if_neg (not_or.mpr hlimit), hsame hnodes, Except.ok.injEq]
    constructor
    · rintro rfl
      exact ⟨Nat.le_of_not_lt hlimit.1, hnodes, rfl⟩
    · rintro ⟨-, -, rfl⟩
      rfl

/-- Below the limit the depth of a child is one more. -/
theorem child_depth {depth : Nat} (h : depth ≤ budget.maxDepth) :
    saturatingAdd depth 1 = depth + 1 := by
  have hlt := budget.maxDepth_lt
  rw [saturatingAdd]
  omega

/-- A child is entered and visited exactly when its depth and all its nodes are
within the limits and its own visit succeeds. -/
theorem enter_visit_bind_eq_ok_iff
    {sameKey : Yaml → Yaml → Bool} {depth nodes : Nat} {tree : YamlEvents}
    {valid : Prop} {β : Type}
    (hvisit : ∀ result : Yaml × Nat, depth ≤ budget.maxDepth →
      nodes + 1 ≤ budget.maxNodes →
      (visit sameKey budget depth (nodes + 1) tree = .ok result ↔
        (depth + tree.height ≤ budget.maxDepth ∧
          nodes + 1 + tree.descendants ≤ budget.maxNodes ∧ valid) ∧
          result = (tree.value, nodes + 1 + tree.descendants)))
    (next : Yaml × Nat → Except YamlDecodeError β) (b : β) :
    (budget.enter nodes depth >>= fun entered =>
        visit sameKey budget depth entered tree >>= next) = .ok b ↔
      (depth + tree.height ≤ budget.maxDepth ∧
        nodes + 1 + tree.descendants ≤ budget.maxNodes ∧ valid) ∧
        next (tree.value, nodes + 1 + tree.descendants) = .ok b := by
  rw [bind_eq_ok_iff]
  constructor
  · rintro ⟨entered, henter, hnext⟩
    obtain ⟨hdepth, hnodes, rfl⟩ := enter_eq_ok_iff.mp henter
    obtain ⟨result, hresult, hnext⟩ := (bind_eq_ok_iff _ _ _).mp hnext
    obtain ⟨hvalid, rfl⟩ := (hvisit result hdepth hnodes).mp hresult
    exact ⟨hvalid, hnext⟩
  · rintro ⟨⟨hdepth, hnodes, hvalid⟩, hnext⟩
    have hlow : depth ≤ budget.maxDepth := by omega
    have hnode : nodes + 1 ≤ budget.maxNodes := by omega
    refine ⟨nodes + 1, enter_eq_ok_iff.mpr ⟨hlow, hnode, rfl⟩, ?_⟩
    rw [bind_eq_ok_iff]
    exact ⟨_, (hvisit _ hlow hnode).mpr ⟨⟨hdepth, hnodes, hvalid⟩, rfl⟩, hnext⟩

theorem containsKey_eq_false_iff
    {sameKey : Yaml → Yaml → Bool} {values : List (Yaml × Yaml)} {key : Yaml} :
    containsKey sameKey values key = false ↔
      ∀ entry ∈ values, sameKey entry.1 key = false := by
  simp [containsKey]

/-- A new entry keeps the keys distinct when its key is not held yet. -/
theorem distinctKeys_concat_iff
    {sameKey : Yaml → Yaml → Bool} {values : List (Yaml × Yaml)}
    {entry : Yaml × Yaml} (hvalues : DistinctKeys sameKey values) :
    DistinctKeys sameKey (values ++ [entry]) ↔
      containsKey sameKey values entry.1 = false := by
  rw [DistinctKeys, List.pairwise_append, containsKey_eq_false_iff]
  constructor
  · rintro ⟨-, -, hnew⟩ old hold
    exact hnew old hold entry (List.mem_singleton_self entry)
  · intro hnew
    refine ⟨hvalues, List.pairwise_singleton _ _, fun old hold other hother => ?_⟩
    rw [List.mem_singleton.mp hother]
    exact hnew old hold

end Budget

section Visits

variable {sameKey : Yaml → Yaml → Bool} {budget : YamlDecodeBudget}

mutual

/-- A visit succeeds exactly when the tree below the node is within the limits,
holds no wide integer and no duplicate key; it returns the plain value. -/
theorem visit_eq_ok_iff
    (tree : YamlEvents) {depth nodes : Nat}
    (hdepth : depth ≤ budget.maxDepth) (hnodes : nodes ≤ budget.maxNodes)
    (result : Yaml × Nat) :
    visit sameKey budget depth nodes tree = .ok result ↔
      (depth + tree.height ≤ budget.maxDepth ∧
        nodes + tree.descendants ≤ budget.maxNodes ∧ tree.NoWideInteger ∧
          tree.NoDuplicateKeys sameKey) ∧
        result = (tree.value, nodes + tree.descendants) := by
  match tree with
  | .scalar s =>
      rw [visit, map_eq_ok_iff]
      simp only [visitScalar_eq_ok_iff, YamlEvents.height,
        YamlEvents.descendants, YamlEvents.NoWideInteger,
        YamlEvents.NoDuplicateKeys, YamlEvents.value, Nat.add_zero, hdepth,
        hnodes, true_and, and_true]
      constructor
      · rintro ⟨value, ⟨hwide, rfl⟩, rfl⟩
        exact ⟨hwide, rfl⟩
      · rintro ⟨hwide, rfl⟩
        exact ⟨s.value, ⟨hwide, rfl⟩, rfl⟩
  | .present inner =>
      rw [visit]
      exact visit_eq_ok_iff inner hdepth hnodes result
  | .seq items =>
      rw [visit, map_eq_ok_iff, child_depth hdepth]
      simp only [visitSeq_eq_ok_iff items hdepth hnodes [] _]
      constructor
      · rintro ⟨_, ⟨hvalid, rfl⟩, rfl⟩
        exact ⟨hvalid, rfl⟩
      · rintro ⟨hvalid, rfl⟩
        exact ⟨_, ⟨hvalid, rfl⟩, rfl⟩
  | .map entries =>
      rw [visit, map_eq_ok_iff, child_depth hdepth]
      simp only [visitMap_eq_ok_iff entries hdepth hnodes List.Pairwise.nil _]
      constructor
      · rintro ⟨_, ⟨hvalid, rfl⟩, rfl⟩
        exact ⟨hvalid, rfl⟩
      · rintro ⟨hvalid, rfl⟩
        exact ⟨_, ⟨hvalid, rfl⟩, rfl⟩
  | .enum tag value =>
      rw [visit, child_depth hdepth, enter_visit_bind_eq_ok_iff
        fun result hd hn => visit_eq_ok_iff value hd hn result]
      simp only [YamlEvents.height, YamlEvents.descendants,
        YamlEvents.NoWideInteger, YamlEvents.NoDuplicateKeys, YamlEvents.value,
        Except.ok.injEq, Nat.add_assoc, Nat.add_comm 1, eq_comm (b := result)]

theorem visitSeq_eq_ok_iff
    (items : YamlItems) {depth nodes : Nat}
    (hdepth : depth ≤ budget.maxDepth) (hnodes : nodes ≤ budget.maxNodes)
    (values : List Yaml) (result : List Yaml × Nat) :
    visitSeq sameKey budget (depth + 1) values nodes items = .ok result ↔
      (depth + items.height ≤ budget.maxDepth ∧
        nodes + items.nodeCount ≤ budget.maxNodes ∧ items.NoWideInteger ∧
          items.NoDuplicateKeys sameKey) ∧
        result = (values ++ items.values, nodes + items.nodeCount) := by
  match items with
  | .nil =>
      simp [visitSeq, YamlItems.height, YamlItems.nodeCount,
        YamlItems.NoWideInteger, YamlItems.NoDuplicateKeys, YamlItems.values,
        hdepth, hnodes, eq_comm]
  | .cons item rest =>
      rw [visitSeq, enter_visit_bind_eq_ok_iff
        fun result hd hn => visit_eq_ok_iff item hd hn result]
      simp only [YamlItems.height, YamlItems.nodeCount, YamlItems.NoWideInteger,
        YamlItems.NoDuplicateKeys, YamlItems.values]
      constructor
      · rintro ⟨⟨hheight, hcount, hwide, hkeys⟩, hrest⟩
        obtain ⟨⟨hheight', hcount', hwide', hkeys'⟩, rfl⟩ :=
          (visitSeq_eq_ok_iff rest hdepth hcount _ result).mp hrest
        refine ⟨⟨by omega, by omega, ⟨hwide, hwide'⟩, hkeys, hkeys'⟩, ?_⟩
        rw [List.append_assoc, List.singleton_append]
        exact Prod.ext rfl (by dsimp only; omega)
      · rintro ⟨⟨hheight, hcount, ⟨hwide, hwide'⟩, hkeys, hkeys'⟩, rfl⟩
        have hitem : nodes + 1 + item.descendants ≤ budget.maxNodes := by omega
        refine ⟨⟨by omega, hitem, hwide, hkeys⟩, ?_⟩
        rw [visitSeq_eq_ok_iff rest hdepth hitem]
        refine ⟨⟨by omega, by omega, hwide', hkeys'⟩, ?_⟩
        rw [List.append_assoc, List.singleton_append]
        exact Prod.ext rfl (by dsimp only; omega)

theorem visitMap_eq_ok_iff
    (entries : YamlEntries) {depth nodes : Nat}
    (hdepth : depth ≤ budget.maxDepth) (hnodes : nodes ≤ budget.maxNodes)
    {values : List (Yaml × Yaml)} (hvalues : DistinctKeys sameKey values)
    (result : List (Yaml × Yaml) × Nat) :
    visitMap sameKey budget (depth + 1) values nodes entries = .ok result ↔
      (depth + entries.height ≤ budget.maxDepth ∧
        nodes + entries.nodeCount ≤ budget.maxNodes ∧ entries.NoWideInteger ∧
          DistinctKeys sameKey (values ++ entries.values) ∧
            entries.NoDuplicateKeys sameKey) ∧
        result = (values ++ entries.values, nodes + entries.nodeCount) := by
  match entries with
  | .nil =>
      simp [visitMap, YamlEntries.height, YamlEntries.nodeCount,
        YamlEntries.NoWideInteger, YamlEntries.NoDuplicateKeys,
        YamlEntries.values, hdepth, hnodes, hvalues, eq_comm]
  | .cons key value rest =>
      rw [visitMap, enter_visit_bind_eq_ok_iff
        fun result hd hn => visit_eq_ok_iff key hd hn result,
        enter_visit_bind_eq_ok_iff
          fun result hd hn => visit_eq_ok_iff value hd hn result]
      simp only [YamlEntries.height, YamlEntries.nodeCount,
        YamlEntries.NoWideInteger, YamlEntries.NoDuplicateKeys,
        YamlEntries.values]
      have happend : values ++ (key.value, value.value) :: rest.values =
          (values ++ [(key.value, value.value)]) ++ rest.values := by
        rw [List.append_assoc, List.singleton_append]
      rw [happend]
      by_cases hheld : containsKey sameKey values key.value = true
      · rw [if_pos hheld]
        refine iff_of_false ?_ ?_
        · rintro ⟨-, -, h⟩
          cases h
        · rintro ⟨⟨-, -, -, hdistinct, -⟩, -⟩
          have hnew := (distinctKeys_concat_iff hvalues).mp
            (List.pairwise_append.mp hdistinct).1
          exact absurd (hheld.symm.trans hnew) (by decide)
      rw [if_neg hheld]
      have hconcat : DistinctKeys sameKey
          (values ++ [(key.value, value.value)]) :=
        (distinctKeys_concat_iff hvalues).mpr (Bool.eq_false_iff.mpr hheld)
      constructor
      · rintro ⟨⟨hkeyHeight, hkeyCount, hkeyWide, hkeyKeys⟩,
          ⟨hvalueHeight, hvalueCount, hvalueWide, hvalueKeys⟩, hrest⟩
        obtain ⟨⟨hheight, hcount, hwide, hdistinct, hkeys⟩, rfl⟩ :=
          (visitMap_eq_ok_iff rest hdepth hvalueCount hconcat result).mp hrest
        refine ⟨⟨by omega, by omega, ⟨hkeyWide, hvalueWide, hwide⟩, hdistinct,
          hkeyKeys, hvalueKeys, hkeys⟩, ?_⟩
        exact Prod.ext rfl (by dsimp only; omega)
      · rintro ⟨⟨hheight, hcount, ⟨hkeyWide, hvalueWide, hwide⟩, hdistinct,
          hkeyKeys, hvalueKeys, hkeys⟩, rfl⟩
        have hvalueCount : nodes + 1 + key.descendants + 1 + value.descendants ≤
            budget.maxNodes := by omega
        refine ⟨⟨by omega, by omega, hkeyWide, hkeyKeys⟩,
          ⟨by omega, hvalueCount, hvalueWide, hvalueKeys⟩, ?_⟩
        rw [visitMap_eq_ok_iff rest hdepth hvalueCount hconcat]
        refine ⟨⟨by omega, by omega, hwide, hdistinct, hkeys⟩, ?_⟩
        exact Prod.ext rfl (by dsimp only; omega)

end

end Visits

/-- A document is accepted exactly when it is within both limits, has no
duplicate key at any level and holds no integer wider than 64 bits; the
accepted value is the plain one. -/
theorem parseDuplicateAwareYaml_eq_ok_iff
    (sameKey : Yaml → Yaml → Bool) (budget : YamlDecodeBudget)
    (tree : YamlEvents) (value : Yaml) :
    parseDuplicateAwareYaml sameKey budget [tree] = .ok value ↔
      (tree.depth ≤ budget.maxDepth ∧ tree.nodeCount ≤ budget.maxNodes ∧
        tree.NoWideInteger ∧ tree.NoDuplicateKeys sameKey) ∧
        value = tree.value := by
  rw [parseDuplicateAwareYaml, enter_visit_bind_eq_ok_iff
    fun result hd hn => visit_eq_ok_iff tree hd hn result]
  simp only [YamlEvents.depth, YamlEvents.nodeCount, ne_eq, not_true_eq_false,
    if_false, Except.ok.injEq, Nat.zero_add, Nat.add_comm 1,
    eq_comm (b := value)]

/-- The integer `2 ^ 64` alone is refused under the limits of a new run. -/
theorem wide_integer_is_refused :
    ¬∀ (sameKey : Yaml → Yaml → Bool) (budget : YamlDecodeBudget)
      (tree : YamlEvents),
      (∃ value, parseDuplicateAwareYaml sameKey budget [tree] = .ok value) ↔
        tree.depth ≤ budget.maxDepth ∧ tree.nodeCount ≤ budget.maxNodes ∧
          tree.NoDuplicateKeys sameKey := by
  intro h
  obtain ⟨value, hvalue⟩ := (h (fun _ _ => false) newRunYamlBudget
    (.scalar (.u128 (2 ^ 64)))).mpr ⟨by decide, by decide, trivial⟩
  cases hvalue

end ChainworksForge.Workflow
