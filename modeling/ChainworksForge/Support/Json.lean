import ChainworksForge.Support.Float64

/-!
# JSON values

A JSON value with the three number representations that a typed reader keeps
apart: nonnegative integers, negative integers and doubles.  Objects are key
sorted maps without repeated keys, so that structural equality is equality of
values.
-/

namespace ChainworksForge.Support

/-- A JSON number in the representation it was read in. -/
inductive JsonNumber where
  | posInt (n : Nat)
  | negInt (n : ℤ)
  | float (q : ℚ)
deriving DecidableEq, Repr

namespace JsonNumber

/-- The number of a signed machine integer. -/
def ofInt (n : ℤ) : JsonNumber :=
  if 0 ≤ n then posInt n.toNat else negInt n

/-- The double nearest to a JSON number. -/
def asF64 : JsonNumber → F64
  | posInt n => F64.ofRat n
  | negInt n => F64.ofRat n
  | float q => F64.fin q

/-- The value of a nonnegative integer. -/
def asU64 : JsonNumber → Option Nat
  | posInt n => some n
  | _ => none

/-- The value of a number that fits a signed machine integer. -/
def asI64 : JsonNumber → Option ℤ
  | posInt n => if n < 2 ^ 63 then some n else none
  | negInt n => some n
  | float _ => none

/-- The number itself. -/
def toRat : JsonNumber → ℚ
  | posInt n => n
  | negInt n => n
  | float q => q

end JsonNumber

/-- A JSON value. -/
inductive Json where
  | null
  | bool (b : Bool)
  | number (n : JsonNumber)
  | string (s : Text)
  | array (items : List Json)
  | object (fields : List (Text × Json))
deriving Repr

namespace Json

mutual

/-- Structural equality of JSON values is decidable. -/
def decEq : (a b : Json) → Decidable (a = b)
  | null, null => isTrue rfl
  | bool a, bool b => decidable_of_iff (a = b) (by simp)
  | number a, number b => decidable_of_iff (a = b) (by simp)
  | string a, string b => decidable_of_iff (a = b) (by simp)
  | array as, array bs =>
      have := decEqItems as bs
      decidable_of_iff (as = bs) (by simp)
  | object as, object bs =>
      have := decEqFields as bs
      decidable_of_iff (as = bs) (by simp)
  | null, bool _ | null, number _ | null, string _ | null, array _
  | null, object _ | bool _, null | bool _, number _ | bool _, string _
  | bool _, array _ | bool _, object _ | number _, null | number _, bool _
  | number _, string _ | number _, array _ | number _, object _
  | string _, null | string _, bool _ | string _, number _ | string _, array _
  | string _, object _ | array _, null | array _, bool _ | array _, number _
  | array _, string _ | array _, object _ | object _, null | object _, bool _
  | object _, number _ | object _, string _ | object _, array _ =>
      isFalse (by simp)

/-- Structural equality of item lists is decidable. -/
def decEqItems : (as bs : List Json) → Decidable (as = bs)
  | [], [] => isTrue rfl
  | a :: as, b :: bs =>
      have := decEq a b
      have := decEqItems as bs
      decidable_of_iff (a = b ∧ as = bs) (by simp)
  | [], _ :: _ | _ :: _, [] => isFalse (by simp)

/-- Structural equality of field lists is decidable. -/
def decEqFields : (as bs : List (Text × Json)) → Decidable (as = bs)
  | [], [] => isTrue rfl
  | (k, a) :: as, (l, b) :: bs =>
      have := decEq a b
      have := decEqFields as bs
      decidable_of_iff (k = l ∧ a = b ∧ as = bs) (by simp [and_assoc])
  | [], _ :: _ | _ :: _, [] => isFalse (by simp)

end

instance : DecidableEq Json :=
  decEq

/-- The member of an object under a key. -/
def get (value : Json) (key : Text) : Option Json :=
  match value with
  | object fields => fields.lookup key
  | _ => none

/-- The member of an object under a key; `null` where there is none. -/
def index (value : Json) (key : String) : Json :=
  (value.get key.toList).getD null

/-- The items of an array. -/
def asArray : Json → Option (List Json)
  | array items => some items
  | _ => none

/-- The text of a string. -/
def asStr : Json → Option Text
  | string s => some s
  | _ => none

/-- The value of a Boolean. -/
def asBool : Json → Option Bool
  | bool b => some b
  | _ => none

/-- The value of a nonnegative integer. -/
def asU64 : Json → Option Nat
  | number n => n.asU64
  | _ => none

/-- The value of an integer. -/
def asI64 : Json → Option ℤ
  | number n => n.asI64
  | _ => none

/-- Follow a sequence of keys into nested objects. -/
def getPath (value : Json) : List Text → Option Json
  | [] => some value
  | key :: keys => (value.get key).bind fun member => member.getPath keys

/-- Put a field into a key sorted list of fields. -/
def insertField (key : Text) (value : Json) :
    List (Text × Json) → List (Text × Json)
  | [] => [(key, value)]
  | (k, other) :: rest =>
      if key = k then (key, value) :: rest
      else if key < k then (key, value) :: (k, other) :: rest
      else (k, other) :: insertField key value rest

/-- Put a member into an object; other values stay as they are. -/
def insert (value : Json) (key : String) (member : Json) : Json :=
  match value with
  | object fields => object (insertField key.toList member fields)
  | other => other

/-- Take a member out of an object; other values stay as they are. -/
def remove (value : Json) (key : String) : Json :=
  match value with
  | object fields => object (fields.filter fun field => field.1 ≠ key.toList)
  | other => other

/-- The object with the given members. -/
def ofFields (fields : List (String × Json)) : Json :=
  fields.foldl (fun value field => value.insert field.1 field.2) (object [])

/-- The JSON value of a text. -/
def ofString (s : String) : Json := string s.toList

/-- The JSON value of an optional text. -/
def ofOption (s : Option Text) : Json := (s.map string).getD null

/-- The text member of an object under a key. -/
def getStr (value : Json) (key : String) : Option Text :=
  (value.get key.toList).bind asStr

/-- The text that a sequence of keys leads to. -/
def pathStr (value : Json) (path : List String) : Option Text :=
  (value.getPath (path.map String.toList)).bind asStr

/-- Whether a value is an object. -/
def isObject : Json → Bool
  | object _ => true
  | _ => false

section Fields

variable (fields : List (Text × Json))

theorem lookup_insertField_self (key : Text) (value : Json) :
    (insertField key value fields).lookup key = some value := by
  induction fields with
  | nil => simp [insertField]
  | cons field rest ih =>
      obtain ⟨k, other⟩ := field
      rw [insertField]
      by_cases hkey : key = k
      · rw [if_pos hkey]
        simp
      · rw [if_neg hkey]
        by_cases hlt : key < k
        · rw [if_pos hlt]
          simp
        · have hfalse : (key == k) = false := by simpa using hkey
          rw [if_neg hlt, List.lookup_cons, hfalse]
          exact ih

theorem lookup_insertField_of_ne
    {key k : Text} (hne : k ≠ key) (value : Json) :
    (insertField key value fields).lookup k = fields.lookup k := by
  have hfalse : (k == key) = false := by simpa using hne
  induction fields with
  | nil => simp [insertField, List.lookup_cons, hfalse]
  | cons field rest ih =>
      obtain ⟨k', other⟩ := field
      rw [insertField]
      by_cases hkey : key = k'
      · subst hkey
        rw [if_pos rfl]
        simp [List.lookup_cons, hfalse]
      · rw [if_neg hkey]
        by_cases hlt : key < k'
        · rw [if_pos hlt]
          simp [List.lookup_cons, hfalse]
        · rw [if_neg hlt, List.lookup_cons, List.lookup_cons, ih]

theorem lookup_filter_ne_self (key : Text) :
    (fields.filter fun field => field.1 ≠ key).lookup key = none := by
  rw [List.lookup_eq_none_iff]
  intro field hfield
  have hne := (List.mem_filter.1 hfield).2
  simp only [ne_eq, decide_not, Bool.not_eq_true', decide_eq_false_iff_not]
    at hne
  simpa using Ne.symm hne

theorem lookup_filter_ne_of_ne {key k : Text} (hne : k ≠ key) :
    (fields.filter fun field => field.1 ≠ key).lookup k = fields.lookup k := by
  induction fields with
  | nil => rfl
  | cons field rest ih =>
      obtain ⟨k', other⟩ := field
      by_cases hkey : k' = key
      · have hfalse : (k == k') = false := by simpa [hkey] using hne
        rw [List.filter_cons_of_neg (by simpa using hkey), List.lookup_cons,
          hfalse]
        exact ih
      · rw [List.filter_cons_of_pos (by simpa using hkey), List.lookup_cons,
          List.lookup_cons, ih]

theorem filter_insertField_self (key : Text) (value : Json) :
    ((insertField key value fields).filter fun field => field.1 ≠ key) =
      fields.filter fun field => field.1 ≠ key := by
  induction fields with
  | nil => simp [insertField]
  | cons field rest ih =>
      rw [insertField]
      by_cases hkey : key = field.1
      · simp [hkey]
      · rw [if_neg hkey]
        by_cases hlt : key < field.1
        · simp [hlt]
        · have hne : field.1 ≠ key := Ne.symm hkey
          rw [if_neg hlt, List.filter_cons_of_pos (by simpa using hne),
            List.filter_cons_of_pos (by simpa using hne), ih]

end Fields

section Members

variable {value : Json} {key : String} {k : Text}

@[simp]
theorem isObject_insert (value : Json) (key : String) (member : Json) :
    (value.insert key member).isObject = value.isObject := by
  cases value <;> rfl

theorem get_insert_self (h : value.isObject = true) (member : Json) :
    (value.insert key member).get key.toList = some member := by
  cases value with
  | object fields => exact lookup_insertField_self fields _ _
  | _ => exact absurd h (by simp [isObject])

theorem get_insert_of_ne (hne : k ≠ key.toList) (member : Json) :
    (value.insert key member).get k = value.get k := by
  cases value with
  | object fields => exact lookup_insertField_of_ne fields hne _
  | _ => rfl

theorem get_remove_self (value : Json) (key : String) :
    (value.remove key).get key.toList = none := by
  cases value with
  | object fields => exact lookup_filter_ne_self fields _
  | _ => rfl

theorem get_remove_of_ne (hne : k ≠ key.toList) :
    (value.remove key).get k = value.get k := by
  cases value with
  | object fields => exact lookup_filter_ne_of_ne fields hne
  | _ => rfl

/-- Taking a member out forgets what was put under its key. -/
theorem remove_insert_self (value : Json) (key : String) (member : Json) :
    (value.insert key member).remove key = value.remove key := by
  cases value with
  | object fields => exact congrArg object (filter_insertField_self fields _ _)
  | _ => rfl

/-- The last member that was put under a key is found under it. -/
theorem get_ofFields (fields : List (String × Json)) (key : String) :
    (ofFields fields).get key.toList = fields.reverse.lookup key := by
  have hfold : ∀ value : Json, value.isObject = true →
      (fields.foldl (fun value field => value.insert field.1 field.2)
        value).get key.toList =
          (fields.reverse.lookup key).or (value.get key.toList) := by
    induction fields with
    | nil => simp
    | cons field rest ih =>
        obtain ⟨k, member⟩ := field
        intro value hvalue
        rw [List.foldl_cons, ih _ (by simpa using hvalue), List.reverse_cons,
          List.lookup_append]
        by_cases hkey : key = k
        · subst hkey
          rw [get_insert_self hvalue]
          cases rest.reverse.lookup key <;> simp
        · have hne : key.toList ≠ k.toList :=
            fun h => hkey (String.toList_injective h)
          have hfalse : (key == k) = false := by simpa using hkey
          rw [get_insert_of_ne hne, List.lookup_cons, hfalse]
          simp
  rw [ofFields, hfold _ rfl]
  cases hlookup : fields.reverse.lookup key <;> simp [get]

@[simp]
theorem isObject_ofFields (fields : List (String × Json)) :
    (ofFields fields).isObject = true := by
  have hfold : ∀ value : Json, (fields.foldl
      (fun value field => value.insert field.1 field.2) value).isObject =
        value.isObject := by
    induction fields with
    | nil => exact fun _ => rfl
    | cons field rest ih =>
        intro value
        rw [List.foldl_cons, ih, isObject_insert]
  exact hfold _

theorem getStr_ofFields (fields : List (String × Json)) (key : String) :
    (ofFields fields).getStr key = (fields.reverse.lookup key).bind asStr := by
  rw [getStr, get_ofFields]

@[simp]
theorem asStr_string (s : Text) : (string s).asStr = some s := rfl

@[simp]
theorem asStr_ofOption (s : Option Text) : (ofOption s).asStr = s := by
  cases s <;> rfl

end Members

/-- The JSON value of a double; values that are not finite become `null`. -/
def ofF64 : F64 → Json
  | .fin q => number (.float q)
  | _ => null

/-- Read a value as a double: numbers directly, texts by parsing. -/
def toF64 : Json → Option F64
  | number n => some n.asF64
  | string s => F64.parse s
  | _ => none

end Json

end ChainworksForge.Support
