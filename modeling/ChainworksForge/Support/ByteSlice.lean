import ChainworksForge.Support.Text
import Mathlib.Data.List.Basic
import Mathlib.Tactic.IntervalCases

/-!
# Slices at byte offsets

A fragment is found at a byte offset and a text is cut there.  An offset that was found
in a text is a place where the text can be cut, and so it is in every text whose
characters have the same sizes.
-/

namespace ChainworksForge.Support.Text

/-- The byte offset of the first occurrence of a fragment. -/
def find (fragment t : Text) : Option ℕ :=
  (splitFirst fragment t).map fun halves => byteLength halves.1

/-- The byte offset of the last occurrence of a character. -/
def rfind (c : Char) (t : Text) : Option ℕ :=
  (rsplitOnce c t).map fun halves => byteLength halves.1

/-- The text from a byte offset on. -/
def sliceFrom (start : ℕ) (t : Text) : Option Text := (splitBytes start t).map Prod.snd

/-- The text before a byte offset. -/
def sliceTo (stop : ℕ) (t : Text) : Option Text := (splitBytes stop t).map Prod.fst

theorem byteLength_cons (c : Char) (t : Text) :
    byteLength (c :: t) = c.utf8Size + byteLength t := by
  simp [byteLength]

theorem splitBytes_append_right (front back : Text) :
    splitBytes (byteLength front) (front ++ back) = some (front, back) := by
  induction front with
  | nil => simp [byteLength, splitBytes]
  | cons c front ih =>
      have hpos := c.utf8Size_pos
      obtain ⟨n, hn⟩ : ∃ n, byteLength (c :: front) = n + 1 :=
        Nat.exists_eq_succ_of_ne_zero (by rw [byteLength_cons]; omega)
      have hsplit : splitBytes (n + 1 - c.utf8Size) (front ++ back) = some (front, back) := by
        rw [← hn, byteLength_cons, Nat.add_sub_cancel_left]
        exact ih
      rw [hn, List.cons_append, splitBytes, if_pos (by rw [← hn, byteLength_cons]; omega), hsplit]
      rfl

theorem sliceFrom_append (front back : Text) :
    sliceFrom (byteLength front) (front ++ back) = some back := by
  rw [sliceFrom, splitBytes_append_right]
  rfl

theorem sliceTo_append (front back : Text) :
    sliceTo (byteLength front) (front ++ back) = some front := by
  rw [sliceTo, splitBytes_append_right]
  rfl

/-- A fragment that is found splits the text. -/
theorem splitFirst_eq_some {fragment t front back : Text}
    (h : splitFirst fragment t = some (front, back)) : t = front ++ fragment ++ back := by
  obtain ⟨⟨found, hsplit, hfound⟩, -⟩ := List.dropInfix?_eq_some_iff.1 h
  rw [hsplit, eq_of_beq hfound]

theorem splitOnce_eq_some {c : Char} {t front back : Text}
    (h : splitOnce c t = some (front, back)) : t = front ++ c :: back := by
  induction t generalizing front with
  | nil => simp [splitOnce] at h
  | cons x rest ih =>
      rw [splitOnce] at h
      by_cases hx : x = c
      · rw [if_pos hx, Option.some_inj] at h
        obtain ⟨rfl, rfl⟩ := Prod.mk.inj h
        rw [hx, List.nil_append]
      · rw [if_neg hx] at h
        obtain ⟨halves, hrest, hhalves⟩ := Option.map_eq_some_iff.1 h
        obtain ⟨rfl, rfl⟩ := Prod.mk.inj hhalves
        rw [List.cons_append, ← ih hrest]

theorem rsplitOnce_eq_some {c : Char} {t front back : Text}
    (h : rsplitOnce c t = some (front, back)) : t = front ++ c :: back := by
  obtain ⟨halves, hsplit, hhalves⟩ := Option.map_eq_some_iff.1 h
  obtain ⟨rfl, rfl⟩ := Prod.mk.inj hhalves
  have hreverse := congrArg List.reverse (splitOnce_eq_some hsplit)
  simpa using hreverse

theorem utf8Size_small_letter {n : ℕ} (hlow : 65 ≤ n) (hhigh : n ≤ 90) :
    (Char.ofNat (n + 32)).utf8Size = 1 := by
  interval_cases n <;> rfl

/-- Lower-casing keeps the sizes of the characters. -/
theorem utf8Size_asciiLower (c : Char) : (asciiLower c).utf8Size = c.utf8Size := by
  unfold asciiLower
  split_ifs with hupper
  · obtain ⟨hlow, hhigh⟩ := hupper
    have hhigh : c.toNat ≤ 90 := hhigh
    have hsize : c.utf8Size = 1 := Char.utf8Size_eq_one_iff.2 (hhigh.trans (by decide))
    rw [hsize]
    exact utf8Size_small_letter hlow hhigh
  · rfl

theorem byteLength_map_asciiLower (t : Text) : byteLength (t.map asciiLower) = byteLength t := by
  unfold byteLength
  rw [List.map_map]
  congr 1
  exact List.map_congr_left fun c _ => utf8Size_asciiLower c

/-- An offset behind a fragment that was found in the lower-cased text is a place to cut
the text. -/
theorem sliceFrom_of_find_lower {fragment t : Text} {start : ℕ}
    (h : find fragment (t.map asciiLower) = some start) :
    ∃ back, sliceFrom (start + byteLength fragment) t = some back := by
  obtain ⟨⟨front, back⟩, hsplit, rfl⟩ := Option.map_eq_some_iff.1 h
  have hlower := splitFirst_eq_some hsplit
  obtain ⟨first, rest, rfl, hfirst, -⟩ := List.map_eq_append_iff.1 hlower
  have hlength : byteLength front + byteLength fragment = byteLength first := by
    rw [← byteLength_append, ← hfirst, byteLength_map_asciiLower]
  exact ⟨rest, by rw [hlength, sliceFrom_append]⟩

/-! ## Cuts inside a character -/

/-- The byte offset lies inside the encoding of a character. -/
def CutsCharacter (n : Nat) (t : Text) : Prop :=
  ∃ front c back, t = front ++ c :: back ∧ byteLength front < n ∧
    n < byteLength front + c.utf8Size

theorem cutsCharacter_cons_iff {n : Nat} {c : Char} {t : Text} :
    CutsCharacter n (c :: t) ↔
      (0 < n ∧ n < c.utf8Size) ∨
        (c.utf8Size ≤ n ∧ CutsCharacter (n - c.utf8Size) t) := by
  constructor
  · rintro ⟨front, d, back, htext, hlow, hhigh⟩
    cases front with
    | nil =>
        obtain ⟨rfl, rfl⟩ := List.cons.inj htext
        simp only [byteLength, List.map_nil, List.sum_nil] at hlow hhigh
        exact .inl ⟨hlow, by omega⟩
    | cons e front =>
        obtain ⟨rfl, rfl⟩ := List.cons.inj htext
        rw [byteLength_cons] at hlow hhigh
        exact .inr ⟨by omega, front, d, back, rfl, by omega, by omega⟩
  · rintro (⟨hpos, hlt⟩ | ⟨hle, front, d, back, rfl, hlow, hhigh⟩)
    · refine ⟨[], c, t, rfl, ?_, ?_⟩
      · simpa [byteLength] using hpos
      · simpa [byteLength] using hlt
    · refine ⟨c :: front, d, back, rfl, ?_, ?_⟩
      · rw [byteLength_cons]
        omega
      · rw [byteLength_cons]
        omega

/-- A cut fails behind the end of a text or inside a character. -/
theorem splitBytes_eq_none_iff (n : Nat) (t : Text) :
    splitBytes n t = none ↔
      byteLength t < n ∨ CutsCharacter n t := by
  induction n, t using splitBytes.induct with
  | case1 t =>
      simp only [splitBytes, reduceCtorEq, false_iff, not_or]
      refine ⟨Nat.not_lt_zero _, ?_⟩
      rintro ⟨front, c, back, -, hlow, -⟩
      exact Nat.not_lt_zero _ hlow
  | case2 n =>
      simp only [splitBytes, true_iff]
      exact .inl (Nat.succ_pos n)
  | case3 n c rest hle ih =>
      rw [splitBytes, if_pos hle, Option.map_eq_none_iff, ih,
        cutsCharacter_cons_iff, byteLength_cons]
      constructor
      · rintro (hlt | hcut)
        · exact .inl (by omega)
        · exact .inr (.inr ⟨hle, hcut⟩)
      · rintro (hlt | ⟨-, hlt⟩ | ⟨-, hcut⟩)
        · exact .inl (by omega)
        · omega
        · exact .inr hcut
  | case4 n c rest hle =>
      rw [splitBytes, if_neg hle, cutsCharacter_cons_iff]
      exact iff_of_true rfl (.inr (.inl ⟨Nat.succ_pos n, by omega⟩))

theorem CutsCharacter.lt_byteLength {n : Nat} {t : Text}
    (h : CutsCharacter n t) : n < byteLength t := by
  obtain ⟨front, c, back, rfl, -, hhigh⟩ := h
  rw [byteLength_append, byteLength_cons]
  omega

/-! ## The first word -/

theorem splitWhere_eq_cons (p : Char → Bool) (t : Text) :
    ∃ parts, splitWhere p t = t.takeWhile (fun c => !p c) :: parts := by
  induction t with
  | nil => exact ⟨[], rfl⟩
  | cons c rest ih =>
      obtain ⟨parts, hparts⟩ := ih
      rw [splitWhere, hparts, List.takeWhile_cons]
      by_cases hc : p c = true
      · exact ⟨rest.takeWhile (fun c => !p c) :: parts, by simp [hc]⟩
      · exact ⟨parts, by simp [hc]⟩

/-- The first word of a text follows its leading whitespace. -/
theorem exists_append_of_head_words {t word : Text} (h : (words t).head? = some word) :
    ∃ rest, t.dropWhile isWhitespace = word ++ rest := by
  induction t with
  | nil => simp [words, splitWhere] at h
  | cons c rest ih =>
      obtain ⟨parts, hparts⟩ := splitWhere_eq_cons isWhitespace rest
      by_cases hc : isWhitespace c = true
      · have hwords : words (c :: rest) = words rest := by
          simp [words, splitWhere, hparts, hc]
        rw [hwords] at h
        rw [List.dropWhile_cons_of_pos hc]
        exact ih h
      · have hhead : (words (c :: rest)).head? =
            some (c :: rest.takeWhile fun c => !isWhitespace c) := by
          simp [words, splitWhere, hparts, hc]
        rw [hhead, Option.some_inj] at h
        rw [List.dropWhile_cons_of_neg hc, ← h]
        exact ⟨rest.dropWhile fun c => !isWhitespace c, by simp⟩

end ChainworksForge.Support.Text
