import Mathlib.Algebra.GroupWithZero.Nat
import Mathlib.Data.Char
import Mathlib.Data.List.DropRight
import Mathlib.Data.List.Lex
import Mathlib.Data.List.TakeWhile
import Mathlib.Order.Lattice

/-!
# Texts as lists of characters

A text is the list of its Unicode scalar values.  The operations below are
the ones that string-processing code uses on such a value: trimming by a
character class, searching for a fragment, stripping a fragment at either end,
and cutting a prefix at a *byte* offset.

Cutting by bytes is partial.  A UTF-8 slice whose end lies inside the encoding
of a character is not a text, and the operation answers `none` there.
-/

namespace ChainworksForge.Support

/-- A text, as the list of its characters. -/
abbrev Text := List Char

/-- Texts are compared character by character. -/
instance instLawfulBEqText : LawfulBEq Text := inferInstance

namespace Text

/-- The Unicode `White_Space` property. -/
def isWhitespace (c : Char) : Bool :=
  let n := c.toNat
  (9 ≤ n && n ≤ 13) || n == 0x20 || n == 0x85 || n == 0xA0 || n == 0x1680 ||
    (0x2000 ≤ n && n ≤ 0x200A) || n == 0x2028 || n == 0x2029 || n == 0x202F ||
    n == 0x205F || n == 0x3000

/-- Remove from both ends all characters in the class `p`. -/
def trimMatches (p : Char → Bool) (t : Text) : Text :=
  (t.dropWhile p).rdropWhile p

/-- Remove leading and trailing whitespace. -/
def trim (t : Text) : Text :=
  trimMatches isWhitespace t

/-- A text is trimmed by `p` when neither of its end characters is in `p`. -/
def TrimmedBy (p : Char → Bool) (t : Text) : Prop :=
  trimMatches p t = t

instance (p : Char → Bool) (t : Text) : Decidable (TrimmedBy p t) :=
  inferInstanceAs (Decidable (trimMatches p t = t))

/-- A text without leading or trailing whitespace. -/
def Trimmed (t : Text) : Prop :=
  TrimmedBy isWhitespace t

instance (t : Text) : Decidable (Trimmed t) :=
  inferInstanceAs (Decidable (TrimmedBy isWhitespace t))

/-- Whether `t` begins with the fragment `u`. -/
def startsWith (t u : Text) : Bool :=
  u.isPrefixOf t

/-- Whether `t` ends with the fragment `u`. -/
def endsWith (t u : Text) : Bool :=
  u.isSuffixOf t

/-- Remove the fragment `u` from the front of `t`. -/
def stripFront (t u : Text) : Option Text :=
  t.dropPrefix? u

/-- Remove the fragment `u` from the back of `t`. -/
def stripBack (t u : Text) : Option Text :=
  t.dropSuffix? u

/-- Whether the fragment `u` occurs in `t`. -/
def contains (t u : Text) : Bool :=
  t.tails.any fun rest => startsWith rest u

/-- The text before and after the first occurrence of the fragment `u`. -/
def splitFirst (u t : Text) : Option (Text × Text) :=
  t.dropInfix? u

/-- The text before and after the first occurrence of the character `c`. -/
def splitOnce (c : Char) : Text → Option (Text × Text)
  | [] => none
  | x :: rest =>
      if x = c then some ([], rest)
      else (splitOnce c rest).map fun halves => (x :: halves.1, halves.2)

/-- The text before and after the last occurrence of the character `c`. -/
def rsplitOnce (c : Char) (t : Text) : Option (Text × Text) :=
  (splitOnce c t.reverse).map fun halves =>
    (halves.2.reverse, halves.1.reverse)

/-- The maximal fragments of `t` between occurrences of `c`. -/
def splitOn (c : Char) : Text → List Text
  | [] => [[]]
  | x :: rest =>
      match splitOn c rest with
      | [] => [[x]]
      | part :: parts =>
          if x = c then [] :: part :: parts else (x :: part) :: parts

/-- The maximal fragments of `t` between characters in the class `p`. -/
def splitWhere (p : Char → Bool) : Text → List Text
  | [] => [[]]
  | x :: rest =>
      match splitWhere p rest with
      | [] => [[x]]
      | part :: parts =>
          if p x then [] :: part :: parts else (x :: part) :: parts

/-- The maximal fragments of `t` without whitespace. -/
def words (t : Text) : List Text :=
  (splitWhere isWhitespace t).filter fun word => !word.isEmpty

/-- Lower-case an ASCII letter and keep every other character. -/
def asciiLower (c : Char) : Char :=
  if 'A' ≤ c ∧ c ≤ 'Z' then Char.ofNat (c.toNat + 32) else c

/-- Equality of texts up to the case of ASCII letters. -/
def eqIgnoreAsciiCase (t u : Text) : Bool :=
  t.map asciiLower == u.map asciiLower

/-- Whether a character is encoded by a single byte. -/
def isAscii (c : Char) : Bool :=
  c.toNat < 128

/-- Number of bytes of the UTF-8 encoding of a text. -/
def byteLength (t : Text) : Nat :=
  (t.map Char.utf8Size).sum

/--
Cut `t` after its first `n` bytes.  The answer is `none` when that offset is
beyond the end of the text or lies inside the encoding of a character.
-/
def splitBytes : Nat → Text → Option (Text × Text)
  | 0, t => some ([], t)
  | _ + 1, [] => none
  | n + 1, c :: rest =>
      if c.utf8Size ≤ n + 1 then
        (splitBytes (n + 1 - c.utf8Size) rest).map fun halves =>
          (c :: halves.1, halves.2)
      else none

/-! ## Fragments -/

theorem splitOn_ne_nil
    (c : Char) (t : Text) :
    splitOn c t ≠ [] := by
  cases t with
  | nil => exact List.cons_ne_nil _ _
  | cons x rest =>
      rw [splitOn]
      split
      · exact List.cons_ne_nil _ _
      · split_ifs <;> exact List.cons_ne_nil _ _

/-- A separator ends a fragment, any other character belongs to the first one. -/
theorem splitOn_cons
    {c x : Char} {rest part : Text} {parts : List Text}
    (h : splitOn c rest = part :: parts) :
    splitOn c (x :: rest) =
      if x = c then [] :: part :: parts else (x :: part) :: parts := by
  rw [splitOn, h]

/-- No fragment holds the separator. -/
theorem notMem_of_mem_splitOn
    {c : Char} {t part : Text} (h : part ∈ splitOn c t) :
    c ∉ part := by
  induction t generalizing part with
  | nil =>
      rw [splitOn, List.mem_singleton] at h
      exact h ▸ List.not_mem_nil
  | cons x rest ih =>
      obtain ⟨first, others, hrest⟩ :=
        List.exists_cons_of_ne_nil (splitOn_ne_nil c rest)
      rw [hrest] at ih
      rw [splitOn_cons hrest] at h
      split_ifs at h with hx
      · rcases List.mem_cons.1 h with rfl | h
        · exact List.not_mem_nil
        · exact ih h
      · rcases List.mem_cons.1 h with rfl | h
        · rw [List.mem_cons, not_or]
          exact ⟨fun hc => hx hc.symm, ih List.mem_cons_self⟩
        · exact ih (List.mem_cons_of_mem _ h)

/-! ## Trimming -/

theorem trimMatches_length_le
    (p : Char → Bool) (t : Text) :
    (trimMatches p t).length ≤ t.length := by
  calc
    (trimMatches p t).length ≤ (t.dropWhile p).length :=
      List.IsPrefix.length_le (List.rdropWhile_prefix p _)
    _ ≤ t.length := (List.dropWhile_sublist p).length_le

theorem trim_length_le
    (t : Text) :
    (trim t).length ≤ t.length :=
  trimMatches_length_le isWhitespace t

/-- Being trimmed is a condition on the two end characters only. -/
theorem trimmedBy_iff
    {p : Char → Bool} {t : Text} :
    TrimmedBy p t ↔
      (∀ c ∈ t.head?, p c = false) ∧ (∀ c ∈ t.getLast?, p c = false) := by
  unfold TrimmedBy trimMatches
  constructor
  · intro h
    have hlen : (t.dropWhile p).length = t.length := by
      refine le_antisymm (List.dropWhile_sublist p).length_le ?_
      calc
        t.length = ((t.dropWhile p).rdropWhile p).length := by rw [h]
        _ ≤ (t.dropWhile p).length :=
          List.IsPrefix.length_le (List.rdropWhile_prefix p _)
    have hdrop : t.dropWhile p = t :=
      (List.dropWhile_sublist p).eq_of_length hlen
    rw [hdrop] at h
    constructor
    · intro c hc
      cases t with
      | nil => simp at hc
      | cons x rest =>
          simp only [List.head?_cons, Option.mem_def, Option.some.injEq] at hc
          subst hc
          by_contra hx
          have := List.dropWhile_eq_self_iff.mp hdrop (by simp)
          simp_all
    · intro c hc
      have hne : t ≠ [] := by
        rintro rfl
        simp at hc
      have hlast := List.rdropWhile_eq_self_iff.mp h hne
      rw [List.getLast?_eq_some_getLast hne, Option.mem_def,
        Option.some.injEq] at hc
      rw [← hc]
      simpa using hlast
  · rintro ⟨hhead, hlast⟩
    have hdrop : t.dropWhile p = t := by
      cases t with
      | nil => rfl
      | cons x rest =>
          have := hhead x (by simp)
          simp [this]
    rw [hdrop]
    refine List.rdropWhile_eq_self_iff.mpr ?_
    intro hne
    have := hlast (t.getLast hne) (by simp [List.getLast?_eq_some_getLast hne])
    simp [this]

theorem trimmedBy_trimMatches
    (p : Char → Bool) (t : Text) :
    TrimmedBy p (trimMatches p t) := by
  rw [trimmedBy_iff, trimMatches]
  constructor
  · intro c hc
    obtain ⟨back, hback⟩ := List.rdropWhile_prefix p (t.dropWhile p)
    have hhead : (t.dropWhile p).head? = some c := by
      rw [← hback, List.head?_append, hc]
      rfl
    have hnot := List.head?_dropWhile_not p t
    rwa [hhead] at hnot
  · intro c hc
    have hne : (t.dropWhile p).rdropWhile p ≠ [] := by
      intro h
      simp [h] at hc
    have hlast := List.rdropWhile_last_not p (t.dropWhile p) hne
    rw [List.getLast?_eq_some_getLast hne, Option.mem_def,
      Option.some.injEq] at hc
    rw [← hc]
    simpa using hlast

/-- Trimming the back of an appended text stays inside its last fragment. -/
theorem rdropWhile_append_of_ne_nil
    {p : Char → Bool} {u : Text} (t : Text)
    (hu : u.rdropWhile p ≠ []) :
    (t ++ u).rdropWhile p = t ++ u.rdropWhile p := by
  unfold List.rdropWhile at hu ⊢
  rw [List.reverse_append, List.dropWhile_append]
  have hne : u.reverse.dropWhile p ≠ [] := by
    intro h
    exact hu (by simp [h])
  simp [List.isEmpty_iff, hne]

/-- A fragment inside the class is trimmed off as a whole. -/
theorem rdropWhile_append_of_all
    {p : Char → Bool} {u : Text} (t : Text)
    (hu : ∀ c ∈ u, p c = true) :
    (t ++ u).rdropWhile p = t.rdropWhile p := by
  rw [List.rdropWhile, List.reverse_append,
    List.dropWhile_append_of_pos fun c hc => hu c (List.mem_reverse.mp hc)]
  rfl

/-- The two ends of a text are trimmed independently. -/
theorem dropWhile_rdropWhile
    (p q : Char → Bool) (t : Text) :
    (t.rdropWhile q).dropWhile p = (t.dropWhile p).rdropWhile q := by
  induction t with
  | nil => rfl
  | cons c rest ih =>
      have hback : (c :: rest).rdropWhile q =
          if rest.rdropWhile q = [] then [c].rdropWhile q
          else c :: rest.rdropWhile q := by
        split_ifs with hrest
        · rw [← List.singleton_append]
          exact rdropWhile_append_of_all [c] (List.rdropWhile_eq_nil_iff.mp hrest)
        · exact rdropWhile_append_of_ne_nil [c] hrest
      by_cases hc : p c = true
      · rw [List.dropWhile_cons_of_pos hc, ← ih, hback]
        split_ifs with hrest
        · rw [hrest, List.rdropWhile_singleton]
          split_ifs
          · rfl
          · rw [List.dropWhile_cons_of_pos hc]
        · rw [List.dropWhile_cons_of_pos hc]
      · rw [List.dropWhile_cons_of_neg hc, hback]
        split_ifs
        · rw [List.rdropWhile_singleton]
          split_ifs
          · rfl
          · rw [List.dropWhile_cons_of_neg hc]
        · rw [List.dropWhile_cons_of_neg hc]

/-! ## Cutting by bytes -/

theorem byteLength_append
    (t u : Text) :
    byteLength (t ++ u) = byteLength t + byteLength u := by
  simp [byteLength]

/-- A successful byte cut is a decomposition of the text. -/
theorem splitBytes_eq_some
    {n : Nat} {t front back : Text}
    (h : splitBytes n t = some (front, back)) :
    t = front ++ back ∧ byteLength front = n := by
  induction n, t using splitBytes.induct generalizing front back with
  | case1 t =>
      simp only [splitBytes, Option.some.injEq, Prod.mk.injEq] at h
      obtain ⟨rfl, rfl⟩ := h
      simp [byteLength]
  | case2 n => simp [splitBytes] at h
  | case3 n c rest hle ih =>
      simp only [splitBytes, hle, ↓reduceIte, Option.map_eq_some_iff,
        Prod.mk.injEq, Prod.exists] at h
      obtain ⟨front', back', hsplit, rfl, rfl⟩ := h
      obtain ⟨hrest, hbytes⟩ := ih hsplit
      refine ⟨by simp [hrest], ?_⟩
      simp only [byteLength, List.map_cons, List.sum_cons] at hbytes ⊢
      omega
  | case4 n c rest hle => simp [splitBytes, hle] at h

/-- A byte cut that falls inside a fragment ignores what follows it. -/
theorem splitBytes_append
    {n : Nat} {t front back : Text} (u : Text)
    (h : splitBytes n t = some (front, back)) :
    splitBytes n (t ++ u) = some (front, back ++ u) := by
  induction n, t using splitBytes.induct generalizing front back with
  | case1 t =>
      simp only [splitBytes, Option.some.injEq, Prod.mk.injEq] at h ⊢
      obtain ⟨rfl, rfl⟩ := h
      simp
  | case2 n => simp [splitBytes] at h
  | case3 n c rest hle ih =>
      simp only [splitBytes, hle, ↓reduceIte, Option.map_eq_some_iff,
        Prod.mk.injEq, Prod.exists, List.cons_append] at h ⊢
      obtain ⟨front', back', hsplit, rfl, rfl⟩ := h
      exact ⟨front', back' ++ u, ih hsplit, rfl, rfl⟩
  | case4 n c rest hle => simp [splitBytes, hle] at h

end Text

end ChainworksForge.Support
