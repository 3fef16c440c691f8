import ChainworksForge.Support.Json

/-!
# YAML values

The value tree of a YAML reader: three number representations, mappings with
arbitrary keys in insertion order, and tagged values.  Readers see a tag as
transparent when they ask for a text, a sequence or a mapping.
-/

namespace ChainworksForge.Support

/-- A YAML number in the representation it was read in. -/
inductive YamlNumber where
  | posInt (n : Nat)
  | negInt (n : ℤ)
  | float (x : F64)
deriving DecidableEq

namespace YamlNumber

/-- The number as an unsigned 64-bit integer. -/
def asU64 : YamlNumber → Option Nat
  | posInt n => some n
  | _ => none

/-- The number as a signed 64-bit integer. -/
def asI64 : YamlNumber → Option ℤ
  | posInt n => if n < 2 ^ 63 then some n else none
  | negInt n => some n
  | float _ => none

/-- The double nearest to a YAML number. -/
def asF64 : YamlNumber → F64
  | posInt n => F64.ofRat n
  | negInt n => F64.ofRat n
  | float x => x

end YamlNumber

/-- A YAML value. -/
inductive Yaml where
  | null
  | bool (b : Bool)
  | number (n : YamlNumber)
  | string (s : String)
  | sequence (items : List Yaml)
  | mapping (entries : List (Yaml × Yaml))
  | tagged (tag : String) (value : Yaml)

namespace Yaml

/-- The value below every tag. -/
def untag : Yaml → Yaml
  | tagged _ value => value.untag
  | value => value

/-- The text of a string value. -/
def asStr (value : Yaml) : Option String :=
  match value.untag with
  | string s => some s
  | _ => none

/-- The unsigned 64-bit integer of a number value. -/
def asU64 (value : Yaml) : Option Nat :=
  match value.untag with
  | number n => n.asU64
  | _ => none

/-- The items of a sequence value. -/
def asSequence (value : Yaml) : Option (List Yaml) :=
  match value.untag with
  | sequence items => some items
  | _ => none

/-- The entries of a mapping value. -/
def asMapping (value : Yaml) : Option (List (Yaml × Yaml)) :=
  match value.untag with
  | mapping entries => some entries
  | _ => none

/-- Whether a key is exactly the untagged string `key`. -/
def isKey (key : String) : Yaml → Bool
  | string s => s == key
  | _ => false

/-- The entry of a list of mapping entries under a string key. -/
def lookupKey (key : String) : List (Yaml × Yaml) → Option Yaml
  | [] => none
  | (k, value) :: entries =>
      if k.isKey key then some value else lookupKey key entries

end Yaml

end ChainworksForge.Support
