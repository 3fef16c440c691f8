import ChainworksForge.Support.Text
import Mathlib.Data.Rat.Floor
import Mathlib.Data.Int.Log
import Mathlib.Tactic.Linarith
import Mathlib.Tactic.Positivity

/-!
# Binary double-precision arithmetic over exact rationals

A double is a not-a-number, a signed infinity or a finite rational.  Every
operation that can be inexact computes the exact rational result first and
rounds it once, to the nearest representable value with ties to even.

The two zeros of the format are one value here: no operation below tells them
apart.  The decimal grammar at the end is the usual one for reading a double
from a text, with the literals `inf`, `infinity` and `nan`.
-/

namespace ChainworksForge.Support

/-- A double-precision value. -/
inductive F64 where
  | nan
  | inf (negative : Bool)
  | fin (value : ℚ)
deriving DecidableEq, Repr

namespace F64

/-! ## Rounding -/

/-- Nearest integer, with ties to the even one. -/
def roundHalfEven (x : ℚ) : ℤ :=
  if x - ⌊x⌋ < 1 / 2 then ⌊x⌋
  else if 1 / 2 < x - ⌊x⌋ then ⌊x⌋ + 1
  else if ⌊x⌋ % 2 = 0 then ⌊x⌋
  else ⌊x⌋ + 1

/-- Exponent of the unit in the last place at a positive magnitude. -/
def ulpExponent (a : ℚ) : ℤ :=
  max (Int.log 2 a - 52) (-1074)

/-- Round a positive magnitude to the grid of its binade. -/
def roundMagnitude (a : ℚ) : ℚ :=
  roundHalfEven (a / 2 ^ ulpExponent a) * 2 ^ ulpExponent a

/-- The double nearest to a rational. -/
def ofRat (q : ℚ) : F64 :=
  if q = 0 then fin 0
  else
    let magnitude := roundMagnitude |q|
    if 2 ^ 1024 ≤ magnitude then inf (q < 0)
    else fin (if q < 0 then -magnitude else magnitude)

/-- Whether a value is neither a not-a-number nor an infinity. -/
def isFinite : F64 → Bool
  | fin _ => true
  | _ => false

/-! ## Arithmetic and order -/

/-- Subtraction. -/
def sub : F64 → F64 → F64
  | nan, _ => nan
  | _, nan => nan
  | inf s, inf t => if s = t then nan else inf s
  | inf s, fin _ => inf s
  | fin _, inf t => inf (!t)
  | fin a, fin b => ofRat (a - b)

/-- Multiplication. -/
def mul : F64 → F64 → F64
  | nan, _ => nan
  | _, nan => nan
  | inf s, inf t => inf (s != t)
  | inf s, fin b => if b = 0 then nan else inf (s != (b < 0 : Bool))
  | fin a, inf t => if a = 0 then nan else inf (t != (a < 0 : Bool))
  | fin a, fin b => ofRat (a * b)

/-- Division; a zero divisor counts as the positive zero. -/
def div : F64 → F64 → F64
  | nan, _ => nan
  | _, nan => nan
  | inf _, inf _ => nan
  | inf s, fin b => inf (s != (b < 0 : Bool))
  | fin _, inf _ => fin 0
  | fin a, fin b =>
      if b = 0 then (if a = 0 then nan else inf (a < 0)) else ofRat (a / b)

/-- Absolute value. -/
def abs : F64 → F64
  | nan => nan
  | inf _ => inf false
  | fin a => fin |a|

/-- Strict order; false as soon as one side is not a number. -/
def lt : F64 → F64 → Bool
  | nan, _ => false
  | _, nan => false
  | inf s, inf t => s && !t
  | inf s, fin _ => s
  | fin _, inf t => !t
  | fin a, fin b => a < b

/-- Numeric equality; false as soon as one side is not a number. -/
def eq : F64 → F64 → Bool
  | inf s, inf t => s == t
  | fin a, fin b => a = b
  | _, _ => false

/-- Non-strict order; false as soon as one side is not a number. -/
def le (x y : F64) : Bool :=
  lt x y || eq x y

/-- The machine epsilon `2 ^ (-52)`. -/
def epsilon : ℚ :=
  1 / 2 ^ 52

/-! ## Reading decimal literals -/

/-- The value of a decimal digit. -/
def digit (c : Char) : Option Nat :=
  if '0' ≤ c ∧ c ≤ '9' then some (c.toNat - '0'.toNat) else none

/-- Read the leading decimal digits, returning value, count and remainder. -/
def readDigits : Text → Nat × Nat × Text → Nat × Nat × Text
  | [], (value, count, _) => (value, count, [])
  | c :: rest, (value, count, _) =>
      match digit c with
      | some d => readDigits rest (10 * value + d, count + 1, rest)
      | none => (value, count, c :: rest)

/-- Separate an optional sign from a literal. -/
def readSign : Text → Bool × Text
  | '-' :: rest => (true, rest)
  | '+' :: rest => (false, rest)
  | t => (false, t)

/-- Read a nonempty sequence of digits that ends the text. -/
def readNat (t : Text) : Option Nat :=
  match readDigits t (0, 0, t) with
  | (value, _ + 1, []) => some value
  | _ => none

/-- Read an optional exponent that ends the text. -/
def readExponent : Text → Option ℤ
  | [] => some 0
  | c :: rest =>
      if c = 'e' ∨ c = 'E' then
        let (negative, digits) := readSign rest
        (readNat digits).map fun n => if negative then -(n : ℤ) else n
      else none

/-- Read an unsigned decimal literal as an exact rational. -/
def readDecimal (t : Text) : Option ℚ :=
  let (whole, wholeCount, afterWhole) := readDigits t (0, 0, t)
  let (value, fractionCount, tail) :=
    match afterWhole with
    | '.' :: rest => readDigits rest (whole, 0, rest)
    | rest => (whole, 0, rest)
  if wholeCount + fractionCount = 0 then none
  else
    (readExponent tail).map fun (e : ℤ) =>
      (value : ℚ) * 10 ^ (e - (fractionCount : ℤ))

/-- Read a double from a text. -/
def parse (t : Text) : Option F64 :=
  let (negative, body) := readSign t
  if Text.eqIgnoreAsciiCase body "inf".toList ||
      Text.eqIgnoreAsciiCase body "infinity".toList then
    some (inf negative)
  else if Text.eqIgnoreAsciiCase body "nan".toList then some nan
  else
    (readDecimal body).map fun q => ofRat (if negative then -q else q)

/-- Read a signed 64-bit integer from a text. -/
def parseI64 (t : Text) : Option ℤ :=
  let (negative, body) := readSign t
  match readNat body with
  | none => none
  | some n =>
      let value : ℤ := if negative then -(n : ℤ) else n
      if -2 ^ 63 ≤ value ∧ value < 2 ^ 63 then some value else none

example : parse "1.50e1".toList = some (fin 15) := by decide +kernel
example : parse ".".toList = none := by decide +kernel

end F64

end ChainworksForge.Support
