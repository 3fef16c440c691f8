import ChainworksForge.Support.Text

/-!
# Universally unique identifiers

A UUID is a sequence of thirty-two hexadecimal digits.  It is written in groups
that are joined by hyphens, and it is read in this form, as plain digits, in
braces, or with its URN prefix.  Reading accepts digits of both cases.
-/

namespace ChainworksForge.Support

/-- There is a digit. -/
instance instNeZeroSixteen : NeZero 16 := ⟨by decide⟩

/-- A UUID by its digits. -/
structure Uuid where
  digits : List (Fin 16)
  length_digits : digits.length = 32
deriving DecidableEq

namespace Uuid

/-- The character of a digit. -/
def hexDigit (d : Fin 16) : Char := Nat.digitChar d

/-- The digit of a character. -/
def hexValue (c : Char) : Option (Fin 16) :=
  if '0' ≤ c ∧ c ≤ '9' then some (Fin.ofNat 16 (c.toNat - '0'.toNat))
  else if 'a' ≤ c ∧ c ≤ 'f' then some (Fin.ofNat 16 (c.toNat - 'a'.toNat + 10))
  else if 'A' ≤ c ∧ c ≤ 'F' then some (Fin.ofNat 16 (c.toNat - 'A'.toNat + 10))
  else none

@[simp]
theorem hexValue_hexDigit (d : Fin 16) : hexValue (hexDigit d) = some d := by
  revert d
  decide

/-- The digits of a text that consists of digits. -/
def hexValues : Text → Option (List (Fin 16))
  | [] => some []
  | c :: rest => do
      let d ← hexValue c
      let ds ← hexValues rest
      return d :: ds

@[simp]
theorem hexValues_map_hexDigit (ds : List (Fin 16)) :
    hexValues (ds.map hexDigit) = some ds := by
  induction ds with
  | nil => rfl
  | cons d rest ih => simp [hexValues, ih]

/-- Write digits in groups of the given widths. -/
def hyphenate : List ℕ → List (Fin 16) → Text
  | [], _ => []
  | [width], ds => (ds.take width).map hexDigit
  | width :: widths, ds =>
      (ds.take width).map hexDigit ++ '-' :: hyphenate widths (ds.drop width)

/-- Read digits in groups of the given widths. -/
def readGroups : List ℕ → Text → Option (List (Fin 16))
  | [], s => if s.isEmpty then some [] else none
  | [width], s => if s.length = width then hexValues s else none
  | width :: widths, s =>
      match s.drop width with
      | '-' :: rest => do
          let ds ← hexValues (s.take width)
          let more ← readGroups widths rest
          return ds ++ more
      | _ => none

/-- Digits are read as they were written. -/
theorem readGroups_hyphenate
    (widths : List ℕ) (ds : List (Fin 16)) (hlength : ds.length = widths.sum) :
    readGroups widths (hyphenate widths ds) = some ds := by
  induction widths generalizing ds with
  | nil =>
      have hnil : ds = [] := List.eq_nil_of_length_eq_zero hlength
      simp [hyphenate, readGroups, hnil]
  | cons width widths ih =>
      cases widths with
      | nil =>
          have htake : ds.take width = ds :=
            List.take_of_length_le (by simp at hlength; omega)
          have hwidth : ds.length = width := by simpa using hlength
          simp [hyphenate, readGroups, htake, hwidth]
      | cons next widths =>
          have hgroup : ((ds.take width).map hexDigit).length = width := by
            rw [List.sum_cons] at hlength
            simp
            omega
          have hrest : (ds.drop width).length = (next :: widths).sum := by
            rw [List.sum_cons] at hlength
            simp only [List.length_drop]
            omega
          simp only [hyphenate, readGroups]
          rw [List.drop_left' hgroup, List.take_left' hgroup,
            hexValues_map_hexDigit]
          simp only [ih _ hrest]
          exact congrArg some (List.take_append_drop width ds)

/-- The widths of the groups of a UUID. -/
def groupWidths : List ℕ := [8, 4, 4, 4, 12]

/-- The text of a UUID. -/
def text (u : Uuid) : Text := hyphenate groupWidths u.digits

/-- The UUID with some digits, if these are as many as it needs. -/
def ofDigits (ds : List (Fin 16)) : Option Uuid :=
  if h : ds.length = 32 then some ⟨ds, h⟩ else none

/-- Read a UUID in one of its forms. -/
def parse (s : Text) : Option Uuid :=
  if s.length = 32 then (hexValues s).bind ofDigits
  else if s.length = 36 then (readGroups groupWidths s).bind ofDigits
  else if s.length = 38 ∧ s.head? = some '\x7b' ∧ s.getLast? = some '\x7d' then
    (readGroups groupWidths ((s.drop 1).take 36)).bind ofDigits
  else if s.length = 45 ∧ s.take 9 = "urn:uuid:".toList then
    (readGroups groupWidths (s.drop 9)).bind ofDigits
  else none

theorem length_text (u : Uuid) : u.text.length = 36 := by
  simp [text, groupWidths, hyphenate, u.length_digits]

@[simp]
theorem parse_text (u : Uuid) : parse u.text = some u := by
  have hread : readGroups groupWidths u.text = some u.digits :=
    readGroups_hyphenate groupWidths u.digits u.length_digits
  rw [parse, if_neg (by rw [length_text]; decide), if_pos (length_text u), hread,
    Option.bind_some, ofDigits, dif_pos u.length_digits]

theorem text_injective : Function.Injective text := by
  intro u v h
  have hparse := parse_text u
  rw [h, parse_text] at hparse
  exact (Option.some.inj hparse).symm

end Uuid

end ChainworksForge.Support
