import Mathlib.Data.List.Lex
import Mathlib.Algebra.Order.Ring.Nat

/-!
# Numerals of a fixed width

Numbers that are written with the same number of digits are ordered as their texts are,
and texts that are put together from parts of the same lengths are compared part by part.
-/

namespace ChainworksForge.Support

section Parts

variable {α : Type*} [LinearOrder α]

theorem eq_iff_eq_of_lt_iff_lt {β : Type*} [LinearOrder β] {a b : α} {x y : β}
    (hlt : a < b ↔ x < y) (hgt : b < a ↔ y < x) : a = b ↔ x = y := by
  rw [le_antisymm_iff, le_antisymm_iff, ← not_lt, ← not_lt, ← not_lt, ← not_lt, hlt, hgt]

/-- Texts whose first parts have one length are compared by these parts first. -/
theorem append_lt_append_iff {u v s t : List α} (hlength : u.length = v.length) :
    u ++ s < v ++ t ↔ u < v ∨ u = v ∧ s < t := by
  induction u generalizing v with
  | nil =>
      rw [List.eq_nil_of_length_eq_zero hlength.symm]
      simp
  | cons a u ih =>
      cases v with
      | nil => cases hlength
      | cons b v =>
          have hrest : u.length = v.length := Nat.succ.inj hlength
          rw [List.cons_append, List.cons_append, List.cons_lt_cons_iff,
            List.cons_lt_cons_iff, ih hrest, List.cons.injEq]
          tauto

end Parts

section Numerals

variable {α : Type*} {digit : ℕ → α} {base width : ℕ}

/-- The numeral of a number in a base, with the given number of digits. -/
def numeral (digit : ℕ → α) (base : ℕ) : (width n : ℕ) → List α
  | 0, _ => []
  | width + 1, n => numeral digit base width (n / base) ++ [digit (n % base)]

@[simp]
theorem length_numeral (n : ℕ) : (numeral digit base width n).length = width := by
  induction width generalizing n with
  | zero => rfl
  | succ width ih => rw [numeral, List.length_append, ih, List.length_singleton]

/-- The first digits of a numeral are the numeral of the quotient. -/
theorem numeral_add (front back n : ℕ) :
    numeral digit base (front + back) n =
      numeral digit base front (n / base ^ back) ++
        numeral digit base back (n % base ^ back) := by
  induction back generalizing n with
  | zero => simp [numeral]
  | succ back ih =>
      have hquotient : n % base ^ (back + 1) / base = n / base % base ^ back := by
        rw [pow_succ', Nat.mod_mul_right_div_self]
      have hlast : n % base ^ (back + 1) % base = n % base :=
        Nat.mod_mod_of_dvd n (dvd_pow_self base back.succ_ne_zero)
      rw [← Nat.add_assoc, numeral, ih, numeral, hquotient, hlast, Nat.div_div_eq_div_mul,
        pow_succ', List.append_assoc]

variable [LinearOrder α]

/-- Digits that are ordered as the numbers below the base. -/
def DigitsInOrder (digit : ℕ → α) (base : ℕ) : Prop :=
  ∀ d < base, ∀ e < base, digit d < digit e ↔ d < e

/-- Numbers are compared by their quotients first, then by their remainders. -/
theorem lt_iff_div_mod_lt (n m k : ℕ) :
    n < m ↔ n / k < m / k ∨ n / k = m / k ∧ n % k < m % k := by
  have hmod := Nat.div_add_mod n k
  have hmod' := Nat.div_add_mod m k
  constructor
  · intro hlt
    rcases (Nat.div_le_div_right (c := k) hlt.le).lt_or_eq with hless | hsame
    · exact .inl hless
    · rw [hsame] at hmod
      exact .inr ⟨hsame, by omega⟩
  · rintro (hlt | ⟨hsame, hlt⟩)
    · exact lt_of_not_ge fun hle => absurd (Nat.div_le_div_right hle) (not_le.2 hlt)
    · rw [hsame] at hmod
      omega

/-- Numerals of one width are ordered as their numbers. -/
theorem numeral_lt_iff (hdigits : DigitsInOrder digit base) {n m : ℕ}
    (hn : n < base ^ width) (hm : m < base ^ width) :
    numeral digit base width n < numeral digit base width m ↔ n < m := by
  induction width generalizing n m with
  | zero =>
      rw [pow_zero] at hn hm
      simp [numeral, Nat.lt_one_iff.1 hn, Nat.lt_one_iff.1 hm]
  | succ width ih =>
      have hbase : 0 < base := Nat.pos_of_ne_zero fun hzero => by simp [hzero] at hn
      have hn' : n / base < base ^ width := by
        rwa [Nat.div_lt_iff_lt_mul hbase, ← pow_succ]
      have hm' : m / base < base ^ width := by
        rwa [Nat.div_lt_iff_lt_mul hbase, ← pow_succ]
      have hquotient : numeral digit base width (n / base) =
          numeral digit base width (m / base) ↔ n / base = m / base :=
        eq_iff_eq_of_lt_iff_lt (ih hn' hm') (ih hm' hn')
      have hdigit : digit (n % base) < digit (m % base) ↔ n % base < m % base :=
        hdigits _ (Nat.mod_lt n hbase) _ (Nat.mod_lt m hbase)
      rw [numeral, numeral, append_lt_append_iff (by simp), ih hn' hm', hquotient,
        List.cons_lt_cons_iff, hdigit, lt_iff_div_mod_lt n m base]
      simp only [List.lt_irrefl, and_false, or_false]

end Numerals

end ChainworksForge.Support
