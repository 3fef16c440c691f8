import ChainworksForge.Condition.Joined

/-!
# The lint on joined conditions

The lint scans a condition once for the word `or` and each part once for the
word `and`.  On joined atoms that it keeps whole, a scan cuts at every joint of the
scanned word and returns the groups between them, which is
`splitBoolWord_joinAtoms`.

The scanner's state is the quote it is in and the previous character, so the
induction runs over a text with both of them free.  The characters collected so
far only matter for the first part that is returned (`splitBoolWordLoop_part`).
-/

namespace ChainworksForge.Condition

open ChainworksForge.Support

namespace Lint

/-! ## Slices of ASCII texts -/

theorem utf8Size_of_isAscii
    {c : Char} (h : Text.isAscii c = true) :
    c.utf8Size = 1 := by
  have hval : c.val.toNat < 128 := of_decide_eq_true h
  have hle : c.val ≤ 0x7f := by
    rw [UInt32.le_iff_toNat_le]
    exact Nat.le_of_lt_succ hval
  simp [Char.utf8Size, hle]

theorem splitBytes_of_ascii
    {n : Nat} {t : Text}
    (hascii : (t.take n).all Text.isAscii = true) (hlen : n ≤ t.length) :
    Text.splitBytes n t = some (t.take n, t.drop n) := by
  induction n generalizing t with
  | zero => simp [Text.splitBytes]
  | succ n ih =>
      cases t with
      | nil => simp at hlen
      | cons c rest =>
          rw [List.take_succ_cons, List.all_cons, Bool.and_eq_true] at hascii
          have hc : c.utf8Size = 1 := utf8Size_of_isAscii hascii.1
          have hrest := ih hascii.2 (by simpa using hlen)
          simp [Text.splitBytes, hc, hrest]

theorem byteLength_of_ascii
    {t : Text}
    (hascii : t.all Text.isAscii = true) :
    Text.byteLength t = t.length := by
  induction t with
  | nil => rfl
  | cons c rest ih =>
      rw [List.all_cons, Bool.and_eq_true] at hascii
      have hc := utf8Size_of_isAscii hascii.1
      have hrest := ih hascii.2
      simp only [Text.byteLength, List.map_cons, List.sum_cons] at hrest ⊢
      rw [hrest, hc, List.length_cons]
      omega

theorem byteLength_pos
    {t : Text} (h : t ≠ []) :
    0 < Text.byteLength t := by
  cases t with
  | nil => exact absurd rfl h
  | cons c rest =>
      have := Char.utf8Size_pos c
      simp only [Text.byteLength, List.map_cons, List.sum_cons]
      omega

theorem length_le_byteLength
    (t : Text) :
    t.length ≤ Text.byteLength t := by
  induction t with
  | nil => simp
  | cons c rest ih =>
      have := Char.utf8Size_pos c
      simp only [Text.byteLength, List.map_cons, List.sum_cons,
        List.length_cons] at ih ⊢
      omega

theorem word_ascii
    (k : Connective) :
    k.word.all Text.isAscii = true := by
  cases k <;> decide

theorem byteLength_word
    (k : Connective) :
    Text.byteLength k.word = k.word.length :=
  byteLength_of_ascii (word_ascii k)

/-- Whitespace ends a word. -/
theorem isConditionWordChar_of_isWhitespace
    {c : Char} (hc : Text.isWhitespace c = true) :
    isConditionWordChar c = false := by
  have hrange : ∀ low high : Char, (low ≤ c && c ≤ high) = true →
      low.toNat ≤ c.toNat ∧ c.toNat ≤ high.toNat := by
    intro low high h
    rw [Bool.and_eq_true, decide_eq_true_eq, decide_eq_true_eq] at h
    exact h
  by_contra hword
  rw [Bool.not_eq_false] at hword
  simp only [isConditionWordChar, Bool.or_eq_true, decide_eq_true_eq] at hword
  simp only [Text.isWhitespace, Bool.or_eq_true, Bool.and_eq_true,
    decide_eq_true_eq, beq_iff_eq] at hc
  rcases hword with (((hword | hword) | hword) | rfl) | rfl
  · have h : 97 ≤ c.toNat ∧ c.toNat ≤ 122 := hrange _ _ hword
    omega
  · have h : 65 ≤ c.toNat ∧ c.toNat ≤ 90 := hrange _ _ hword
    omega
  · have h : 48 ≤ c.toNat ∧ c.toNat ≤ 57 := hrange _ _ hword
    omega
  · revert hc
    decide
  · revert hc
    decide

theorem isQuote_of_isWhitespace
    {c : Char} (hc : Text.isWhitespace c = true) :
    isQuote c = false := by
  by_contra hquote
  rw [Bool.not_eq_false, isQuote, Bool.or_eq_true, decide_eq_true_eq,
    decide_eq_true_eq] at hquote
  rcases hquote with rfl | rfl
  · exact absurd hc (by decide)
  · exact absurd hc (by decide)

theorem asciiLower_of_isWhitespace
    {c : Char} (hc : Text.isWhitespace c = true) :
    Text.asciiLower c = c := by
  have hletter : ¬('A' ≤ c ∧ c ≤ 'Z') := by
    rintro ⟨hlow, hhigh⟩
    have h65 : 65 ≤ c.toNat := hlow
    have h90 : c.toNat ≤ 90 := hhigh
    simp only [Text.isWhitespace, Bool.or_eq_true, Bool.and_eq_true,
      decide_eq_true_eq, beq_iff_eq] at hc
    omega
  rw [Text.asciiLower, if_neg hletter]

/-- At an ASCII head, the slice is the first characters of the text. -/
theorem boolWordAt_of_ascii
    {k : Connective} {previous : Option Char} {t : Text}
    (hascii : (t.take k.word.length).all Text.isAscii = true) :
    boolWordAt k.word previous t =
      some (decide (k.word.length ≤ t.length) &&
        (Text.eqIgnoreAsciiCase (t.take k.word.length) k.word &&
          isBoundary previous &&
            isBoundary (t.drop k.word.length).head?)) := by
  unfold boolWordAt
  rw [byteLength_word]
  by_cases hlen : k.word.length ≤ t.length
  · have hbytes : ¬ Text.byteLength t < k.word.length := by
      have := length_le_byteLength t
      omega
    simp [hbytes, splitBytes_of_ascii hascii hlen, hlen]
  · have hall : t.take k.word.length = t :=
      List.take_of_length_le (by omega)
    rw [hall] at hascii
    have hbytes : Text.byteLength t < k.word.length := by
      rw [byteLength_of_ascii hascii]
      omega
    simp [hbytes, hlen]

/-- A slice with whitespace in it is not a connective word. -/
theorem eqIgnoreAsciiCase_word_of_mem
    {k : Connective} {t : Text} {c : Char} (hc : Text.isWhitespace c = true)
    (h : c ∈ t) :
    Text.eqIgnoreAsciiCase t k.word = false := by
  have hlower : Text.asciiLower c ∈ t.map Text.asciiLower :=
    List.mem_map.mpr ⟨c, h, rfl⟩
  have hword : Text.asciiLower c ∉ k.word.map Text.asciiLower := by
    rw [asciiLower_of_isWhitespace hc]
    rintro hmem
    have hblank : (k.word.map Text.asciiLower).any Text.isWhitespace = false := by
      cases k <;> decide
    exact List.any_eq_false.mp hblank c hmem hc
  rw [Text.eqIgnoreAsciiCase, beq_eq_false_iff_ne]
  intro heq
  exact hword (heq ▸ hlower)

theorem eqIgnoreAsciiCase_word_of_blank
    {k : Connective} {t : Text} (h : ' ' ∈ t) :
    Text.eqIgnoreAsciiCase t k.word = false :=
  eqIgnoreAsciiCase_word_of_mem (by decide) h

/-- A text that continues an atom: a blank and one more ASCII character. -/
def Pads (x : Text) : Prop :=
  ∃ c y, x = ' ' :: c :: y ∧ Text.isAscii c = true

theorem splitBytes_append_of_le
    {n : Nat} {t : Text} (x : Text)
    (h : Text.byteLength t ≤ n) :
    Text.splitBytes n (t ++ x) =
      (Text.splitBytes (n - Text.byteLength t) x).map fun halves =>
        (t ++ halves.1, halves.2) := by
  induction t generalizing n with
  | nil => simp [Text.byteLength]
  | cons c rest ih =>
      simp only [Text.byteLength, List.map_cons, List.sum_cons] at h ih ⊢
      have hpos := Char.utf8Size_pos c
      obtain ⟨n, rfl⟩ : ∃ m, n = m + 1 := ⟨n - 1, by omega⟩
      have hc : c.utf8Size ≤ n + 1 := by omega
      rw [List.cons_append, Text.splitBytes, if_pos hc, ih (by omega),
        Option.map_map, Nat.sub_sub]
      rfl

/-- The lint's verdict inside an atom does not see beyond the next blank. -/
theorem boolWordAt_extend
    {k : Connective} {previous : Option Char} {t x : Text} {b : Bool}
    (ht : t ≠ []) (hx : Pads x)
    (h : boolWordAt k.word previous t = some b) :
    boolWordAt k.word previous (t ++ x) = some b := by
  obtain ⟨d, y, rfl, hd⟩ := hx
  unfold boolWordAt at h ⊢
  rw [byteLength_word] at h ⊢
  have hpos := byteLength_pos ht
  have hwordLen : k.word.length ≤ 3 := by cases k <;> decide
  by_cases hshort : Text.byteLength t < k.word.length
  · -- The slice reaches the blank, so it cannot be the word.
    rw [if_pos hshort, Option.some.injEq] at h
    subst h
    by_cases htotal :
        Text.byteLength (t ++ ' ' :: d :: y) < k.word.length
    · simp [htotal]
    · rw [if_neg htotal, splitBytes_append_of_le _ hshort.le]
      have hblank := utf8Size_of_isAscii (c := ' ') (by decide)
      have hd' := utf8Size_of_isAscii hd
      have hmissing : k.word.length - Text.byteLength t = 1 ∨
          k.word.length - Text.byteLength t = 2 := by omega
      rcases hmissing with hone | htwo
      · have hslice : ' ' ∈ t ++ [' '] := by simp
        simp [hone, Text.splitBytes, hblank,
          eqIgnoreAsciiCase_word_of_blank hslice]
      · have hslice : ' ' ∈ t ++ [' ', d] := by simp
        simp [htwo, Text.splitBytes, hblank, hd',
          eqIgnoreAsciiCase_word_of_blank hslice]
  · rw [if_neg hshort, Option.map_eq_some_iff] at h
    obtain ⟨⟨front, back⟩, hsplit, rfl⟩ := h
    have htotal :
        ¬ Text.byteLength (t ++ ' ' :: d :: y) < k.word.length := by
      rw [Text.byteLength_append]
      omega
    rw [if_neg htotal, Text.splitBytes_append _ hsplit]
    cases back with
    | nil =>
        have hblank : isBoundary (some ' ') = true := by decide
        have hend : isBoundary none = true := rfl
        simp [hblank, hend]
    | cons e back => simp

/-! ## The scanner on an atom -/

/-- Put collected characters in front of the first part. -/
def prependPart (u : Text) : List Text → List Text
  | [] => []
  | part :: parts => (u ++ part) :: parts

theorem prependPart_nil
    (parts : List Text) :
    prependPart [] parts = parts := by
  cases parts <;> rfl

theorem prependPart_append
    (u v : Text) (parts : List Text) :
    prependPart u (prependPart v parts) = prependPart (u ++ v) parts := by
  cases parts <;> simp [prependPart]

/-- The collected characters only show up in the first returned part. -/
theorem splitBoolWordLoop_part
    (word : Text) (quote previous : Option Char) (skip : Nat)
    (part t : Text) :
    splitBoolWordLoop word quote previous skip part t =
      (splitBoolWordLoop word quote previous skip [] t).map
        (prependPart part.reverse) := by
  induction t generalizing quote previous skip part with
  | nil => simp [splitBoolWordLoop, prependPart]
  | cons c rest ih =>
      have hgrow : ∀ q : Option Char,
          splitBoolWordLoop word q (some c) 0 (c :: part) rest =
            (splitBoolWordLoop word q (some c) 0 [c] rest).map
              (prependPart part.reverse) := by
        intro q
        rw [ih q (some c) 0 (c :: part), ih q (some c) 0 [c], Option.map_map]
        congr 1
        funext parts
        simp [prependPart_append]
      cases skip with
      | succ skip =>
          rw [splitBoolWordLoop, splitBoolWordLoop]
          exact ih quote (some c) skip part
      | zero =>
          rw [splitBoolWordLoop, splitBoolWordLoop]
          split_ifs
          · exact hgrow _
          · exact hgrow _
          · cases boolWordAt word previous (c :: rest) with
            | none => rfl
            | some found =>
                cases found with
                | true =>
                    simp only [Option.map_map, List.reverse_nil]
                    congr 1
                    funext parts
                    simp [prependPart]
                | false => exact hgrow _

/-- One character that is neither a quote nor the start of the word. -/
theorem splitBoolWordLoop_step
    {word : Text} {previous : Option Char} {c : Char} {rest : Text}
    (hc : isQuote c = false)
    (hword : boolWordAt word previous (c :: rest) = some false) :
    splitBoolWordLoop word none previous 0 [] (c :: rest) =
      (splitBoolWordLoop word none (some c) 0 [] rest).map
        (prependPart [c]) := by
  rw [splitBoolWordLoop]
  simp only [hc, Bool.false_eq_true, ↓reduceIte, Option.isSome_none, hword]
  exact splitBoolWordLoop_part word none (some c) 0 [c] rest

/-- An atom that the scanner keeps whole is passed when a blank follows. -/
theorem splitBoolWordLoop_pass
    {k : Connective} {quote previous : Option Char} {t x : Text}
    (hx : Pads x)
    (h : splitBoolWordLoop k.word quote previous 0 [] t = some [t]) :
    splitBoolWordLoop k.word quote previous 0 [] (t ++ x) =
      (splitBoolWordLoop k.word (quoteAfter quote t)
        (t.getLast?.or previous) 0 [] x).map (prependPart t) := by
  induction t generalizing quote previous with
  | nil =>
      have : prependPart [] = id := funext prependPart_nil
      simp [quoteAfter, this]
  | cons c rest ih =>
      have hlast : (c :: rest).getLast?.or previous =
          rest.getLast?.or (some c) := by
        cases rest with
        | nil => simp
        | cons d rest => simp [List.getLast?_cons]
      -- The scanner continues with the same quote state on both texts.
      have hgrow : ∀ q : Option Char,
          splitBoolWordLoop k.word q (some c) 0 [c] rest = some [c :: rest] →
          splitBoolWordLoop k.word q (some c) 0 [c] (rest ++ x) =
            (splitBoolWordLoop k.word (quoteAfter q rest)
              (rest.getLast?.or (some c)) 0 [] x).map
                (prependPart (c :: rest)) := by
        intro q hq
        rw [splitBoolWordLoop_part, Option.map_eq_some_iff] at hq
        obtain ⟨parts, hparts, hhead⟩ := hq
        have hwhole : parts = [rest] := by
          cases parts with
          | nil => simp [prependPart] at hhead
          | cons part parts => simpa [prependPart] using hhead
        rw [hwhole] at hparts
        rw [splitBoolWordLoop_part, ih hparts, Option.map_map]
        congr 1
        funext parts
        simp [prependPart_append]
      rw [splitBoolWordLoop] at h
      rw [List.cons_append, splitBoolWordLoop, hlast]
      by_cases hq : isQuote c = true
      · rw [if_pos hq] at h ⊢
        rw [hgrow _ h]
        simp [quoteAfter, hq]
      · rw [if_neg hq] at h ⊢
        have hquote : quoteAfter quote (c :: rest) = quoteAfter quote rest := by
          simp [quoteAfter, hq]
        rw [hquote]
        by_cases hsome : quote.isSome = true
        · rw [if_pos hsome] at h ⊢
          exact hgrow _ h
        · rw [if_neg hsome] at h ⊢
          have hnone : quote = none := by
            simpa using hsome
          subst hnone
          cases hat : boolWordAt k.word previous (c :: rest) with
          | none => simp [hat] at h
          | some found =>
              have hat' := boolWordAt_extend (by simp) hx hat
              rw [List.cons_append] at hat'
              cases found with
              | true =>
                  simp only [hat, Option.map_eq_some_iff] at h
                  obtain ⟨parts, -, hparts⟩ := h
                  simp at hparts
              | false =>
                  simp only [hat] at h
                  simp only [hat']
                  exact hgrow _ h

/-- The previous character only matters through the word boundary. -/
theorem splitBoolWordLoop_previous
    {word : Text} {quote p r : Option Char} (part t : Text)
    (h : isBoundary p = isBoundary r) :
    splitBoolWordLoop word quote p 0 part t =
      splitBoolWordLoop word quote r 0 part t := by
  cases t with
  | nil => rfl
  | cons c rest => simp only [splitBoolWordLoop, boolWordAt, h]

/-! ## The scanner at a joint -/

/-- The blank before an atom is no connective. -/
theorem boolWordAt_blank
    {k : Connective} {previous : Option Char} {y : Text}
    (hascii : (y.take (k.word.length - 1)).all Text.isAscii = true) :
    boolWordAt k.word previous (' ' :: y) = some false := by
  have hpos : k.word.length = (k.word.length - 1) + 1 := by
    cases k <;> decide
  have htake : (' ' :: y).take k.word.length =
      ' ' :: y.take (k.word.length - 1) := by
    rw [hpos, List.take_succ_cons]
    simp
  rw [boolWordAt_of_ascii]
  · rw [htake, eqIgnoreAsciiCase_word_of_blank (by simp)]
    simp
  · rw [htake, List.all_cons, hascii]
    decide

theorem splitBoolWordLoop_blank
    {k : Connective} {previous : Option Char} {y : Text}
    (hascii : (y.take (k.word.length - 1)).all Text.isAscii = true) :
    splitBoolWordLoop k.word none previous 0 [] (' ' :: y) =
      (splitBoolWordLoop k.word none (some ' ') 0 [] y).map
        (prependPart [' ']) :=
  splitBoolWordLoop_step (by decide) (boolWordAt_blank hascii)

/-- The rest of a recognized word is skipped. -/
theorem splitBoolWordLoop_skip
    (word : Text) (quote previous : Option Char) (part u x : Text) :
    splitBoolWordLoop word quote previous u.length part (u ++ x) =
      splitBoolWordLoop word quote (u.getLast?.or previous) 0 part x := by
  induction u generalizing previous with
  | nil => simp
  | cons c u ih =>
      rw [List.length_cons, List.cons_append, splitBoolWordLoop, ih]
      cases u with
      | nil => simp
      | cons d u => simp [List.getLast?_cons]

/-- A joint of the scanned connective cuts the text. -/
theorem splitBoolWordLoop_joint
    {k : Connective} {previous : Option Char} {y : Text}
    (hascii : (y.take (k.word.length - 1)).all Text.isAscii = true) :
    splitBoolWordLoop k.word none previous 0 []
        (' ' :: (k.word ++ ' ' :: y)) =
      (splitBoolWordLoop k.word none (some ' ') 0 [] y).map
        fun parts => [' '] :: prependPart [' '] parts := by
  have hword : boolWordAt k.word (some ' ') (k.word ++ ' ' :: y) =
      some true := by
    rw [boolWordAt_of_ascii]
    · cases k <;> simp [Connective.word] <;> decide
    · rw [List.take_left]
      exact word_ascii k
  have hfirst : ((k.word ++ ' ' :: y).take (k.word.length - 1)).all
      Text.isAscii = true := by
    cases k <;> rfl
  obtain ⟨c, u, hcu, hc⟩ : ∃ c u, k.word = c :: u ∧ isQuote c = false := by
    cases k
    · exact ⟨'a', ['n', 'd'], rfl, by decide⟩
    · exact ⟨'o', ['r'], rfl, by decide⟩
  have hcut : splitBoolWordLoop k.word none (some ' ') 0 []
      (k.word ++ ' ' :: y) =
        (splitBoolWordLoop k.word none (some ' ') 0 [] y).map
          fun parts => [] :: prependPart [' '] parts := by
    have hlen : k.word.length - 1 = u.length := by simp [hcu]
    have hshape : k.word ++ ' ' :: y = c :: (u ++ ' ' :: y) := by simp [hcu]
    rw [hshape] at hword ⊢
    rw [splitBoolWordLoop]
    simp only [hc, Bool.false_eq_true, ↓reduceIte, Option.isSome_none, hword,
      hlen, List.reverse_nil]
    rw [splitBoolWordLoop_skip, splitBoolWordLoop_blank hascii,
      Option.map_map]
    rfl
  rw [splitBoolWordLoop_blank hfirst, hcut, Option.map_map]
  rfl

/-- A letter of the other connective is no start of the scanned word. -/
theorem splitBoolWordLoop_letter
    {k : Connective} {previous : Option Char} {c : Char} {rest : Text}
    (slice : Text) (hslice : (c :: rest).take k.word.length = slice)
    (hc : isQuote c = false)
    (hascii : slice.all Text.isAscii = true)
    (hother : Text.eqIgnoreAsciiCase slice k.word = false) :
    splitBoolWordLoop k.word none previous 0 [] (c :: rest) =
      (splitBoolWordLoop k.word none (some c) 0 [] rest).map
        (prependPart [c]) := by
  subst hslice
  refine splitBoolWordLoop_step hc ?_
  rw [boolWordAt_of_ascii hascii, hother]
  simp

/-- A joint of the other connective is passed. -/
theorem splitBoolWordLoop_otherJoint
    {k k' : Connective} (hk : k' ≠ k) {previous : Option Char} {y : Text}
    (hascii : (y.take (k.word.length - 1)).all Text.isAscii = true) :
    splitBoolWordLoop k.word none previous 0 []
        (' ' :: (k'.word ++ ' ' :: y)) =
      (splitBoolWordLoop k.word none (some ' ') 0 [] y).map
        (prependPart k'.text) := by
  have hfirst : ((k'.word ++ ' ' :: y).take (k.word.length - 1)).all
      Text.isAscii = true := by
    cases k <;> cases k' <;> rfl
  have hhead : (y.take 1).all Text.isAscii = true := by
    have hone : 1 ≤ k.word.length - 1 := by cases k <;> decide
    rw [List.all_eq_true] at hascii ⊢
    intro c hc
    exact hascii c (List.take_subset_take_left _ hone hc)
  rw [splitBoolWordLoop_blank hfirst]
  have hletters : splitBoolWordLoop k.word none (some ' ') 0 []
      (k'.word ++ ' ' :: y) =
        (splitBoolWordLoop k.word none (some ' ') 0 [] y).map
          (prependPart (k'.word ++ [' '])) := by
    cases k with
    | and =>
        cases k' with
        | and => exact absurd rfl hk
        | or =>
            have hslice : ('r' :: ' ' :: y.take 1).all Text.isAscii =
                true := by
              rw [List.all_cons, List.all_cons, hhead]
              decide
            change splitBoolWordLoop _ _ _ _ _ ('o' :: 'r' :: ' ' :: y) = _
            rw [splitBoolWordLoop_letter "or ".toList rfl (by decide)
                (by decide) (by decide),
              splitBoolWordLoop_letter ('r' :: ' ' :: y.take 1) rfl (by decide)
                hslice (eqIgnoreAsciiCase_word_of_blank (by simp)),
              splitBoolWordLoop_blank hascii, Option.map_map, Option.map_map]
            congr 1
            funext parts
            simp [prependPart_append, Connective.word]
    | or =>
        cases k' with
        | or => exact absurd rfl hk
        | and =>
            change splitBoolWordLoop _ _ _ _ _
              ('a' :: 'n' :: 'd' :: ' ' :: y) = _
            rw [splitBoolWordLoop_letter "an".toList rfl (by decide)
                (by decide) (by decide),
              splitBoolWordLoop_letter "nd".toList rfl (by decide)
                (by decide) (by decide),
              splitBoolWordLoop_letter "d ".toList rfl (by decide)
                (by decide) (by decide),
              splitBoolWordLoop_blank hascii, Option.map_map, Option.map_map,
              Option.map_map]
            congr 1
            funext parts
            simp [prependPart_append, Connective.word]
  rw [hletters, Option.map_map]
  congr 1
  funext parts
  simp [prependPart_append, Connective.text]

/-! ## Groups between the joints of a connective -/

/-- Put an atom and its joint in front of the first group. -/
def consGroup (first : Text) (k : Connective) :
    List (Text × Joints) → List (Text × Joints)
  | [] => [(first, [])]
  | group :: groups => (first, (k, group.1) :: group.2) :: groups

/-- The joined conditions between the joints of one connective. -/
def groups (k : Connective) (first : Text) : Joints → List (Text × Joints)
  | [] => [(first, [])]
  | (k', t) :: rest =>
      if k' = k then (first, []) :: groups k t rest
      else consGroup first k' (groups k t rest)

theorem groups_atoms
    (k : Connective) (first : Text) (rest : Joints) :
    (groups k first rest).map (fun group => atomsOf group.1 group.2) =
      runs k.dual first rest := by
  induction rest generalizing first with
  | nil => rfl
  | cons joint rest ih =>
      obtain ⟨k', t⟩ := joint
      have hdual : k' = k.dual ↔ k' ≠ k := by
        cases k <;> cases k' <;> decide
      rw [groups, runs]
      by_cases hk : k' = k
      · have hk' : ¬ k' = k.dual := fun h => hdual.mp h hk
        rw [if_pos hk, if_neg hk', List.map_cons, ih]
        rfl
      · rw [if_neg hk, if_pos (hdual.mpr hk), ← ih]
        cases groups k t rest <;> rfl

theorem mem_of_mem_groups
    {k : Connective} {first : Text} {rest : Joints} {group : Text × Joints}
    {a : Text}
    (hgroup : group ∈ groups k first rest)
    (ha : a ∈ atomsOf group.1 group.2) :
    a ∈ atomsOf first rest := by
  induction rest generalizing first group a with
  | nil =>
      simp only [groups, List.mem_singleton] at hgroup
      subst hgroup
      exact ha
  | cons joint rest ih =>
      obtain ⟨k', t⟩ := joint
      rw [atomsOf_cons, List.mem_cons]
      rw [groups] at hgroup
      split_ifs at hgroup with hk
      · rcases List.mem_cons.mp hgroup with rfl | hgroup
        · left
          simpa [atomsOf] using ha
        · exact Or.inr (ih hgroup ha)
      · cases hgs : groups k t rest with
        | nil =>
            simp only [hgs, consGroup, List.mem_singleton] at hgroup
            subst hgroup
            left
            simpa [atomsOf] using ha
        | cons group' gs =>
            simp only [hgs, consGroup, List.mem_cons] at hgroup
            rcases hgroup with rfl | hgroup
            · simp only [atomsOf, List.map_cons, List.mem_cons] at ha
              rcases ha with rfl | ha
              · exact Or.inl rfl
              · right
                have hgroup' : group' ∈ groups k t rest := by simp [hgs]
                exact ih hgroup' (by simpa [atomsOf] using ha)
            · exact Or.inr (ih (by simp [hgs, hgroup]) ha)

theorem joint_of_mem_groups
    {k : Connective} {first : Text} {rest : Joints} {group : Text × Joints}
    {joint : Connective × Text}
    (hgroup : group ∈ groups k first rest) (hjoint : joint ∈ group.2) :
    joint.1 ≠ k := by
  induction rest generalizing first group with
  | nil =>
      simp only [groups, List.mem_singleton] at hgroup
      subst hgroup
      simp at hjoint
  | cons head rest ih =>
      obtain ⟨k', t⟩ := head
      rw [groups] at hgroup
      split_ifs at hgroup with hk
      · rcases List.mem_cons.mp hgroup with rfl | hgroup
        · simp at hjoint
        · exact ih hgroup hjoint
      · cases hgs : groups k t rest with
        | nil =>
            simp only [hgs, consGroup, List.mem_singleton] at hgroup
            subst hgroup
            simp at hjoint
        | cons group' gs =>
            simp only [hgs, consGroup, List.mem_cons] at hgroup
            rcases hgroup with rfl | hgroup
            · rcases List.mem_cons.mp hjoint with rfl | hjoint
              · exact hk
              · have hgroup' : group' ∈ groups k t rest := by simp [hgs]
                exact ih hgroup' hjoint
            · have hgroup' : group ∈ groups k t rest := by simp [hgs, hgroup]
              exact ih hgroup' hjoint

/-- When every joint is of the connective, each atom is its own group. -/
theorem groups_of_all
    {k : Connective} {first : Text} {rest : Joints}
    (h : ∀ joint ∈ rest, joint.1 = k) :
    (groups k first rest).map (fun group => joinAtoms group.1 group.2) =
      atomsOf first rest := by
  induction rest generalizing first with
  | nil => rfl
  | cons joint rest ih =>
      obtain ⟨k', t⟩ := joint
      have hk : k' = k := h (k', t) (by simp)
      rw [groups, if_pos hk, List.map_cons,
        ih fun joint hjoint => h joint (by simp [hjoint])]
      rfl

/-- What is left of a joint's connective when the text is cut at one of them. -/
def cutAt (k : Connective) (beside : Option Connective) : Option Connective :=
  if beside = some k then none else beside

/-- The atoms of a group stand beside the joints that are left. -/
theorem atomsAt_of_mem_groups
    {P Q : Option Connective → Option Connective → Text → Prop} {k : Connective}
    {before : Option Connective} {first : Text} {rest : Joints}
    (hPQ : ∀ {before after t}, P before after t →
      Q (cutAt k before) (cutAt k after) t)
    (hatoms : AtomsAt P before first rest none) :
    ∃ group gs, groups k first rest = group :: gs ∧
      AtomsAt Q (cutAt k before) group.1 group.2 none ∧
      ∀ g ∈ gs, AtomsAt Q none g.1 g.2 none := by
  induction rest generalizing before first with
  | nil => exact ⟨(first, []), [], rfl, hPQ hatoms, by simp⟩
  | cons joint rest ih =>
      obtain ⟨k', t⟩ := joint
      obtain ⟨hfirst, htail⟩ := hatoms
      obtain ⟨group, gs, hgroups, hgroup, hgs⟩ := ih htail
      have hhere := hPQ hfirst
      rw [groups, hgroups]
      by_cases hk : k' = k
      · subst hk
        have hcut : cutAt k' (some k') = none := if_pos rfl
        rw [hcut] at hhere hgroup
        rw [if_pos rfl]
        exact ⟨(first, []), group :: gs, rfl, hhere,
          List.forall_mem_cons.mpr ⟨hgroup, hgs⟩⟩
      · have hcut : cutAt k (some k') = some k' := if_neg (by simpa using hk)
        rw [hcut] at hhere hgroup
        rw [if_neg hk]
        exact ⟨(first, (k', group.1) :: group.2), gs, rfl, ⟨hhere, hgroup⟩, hgs⟩

theorem lintAtom_or
    {before after : Option Connective} {t : Text}
    (h : KeptAtom before after t) : LintAtom .or before after t where
  whole := h.whole .or
  closed := h.closed
  asciiHead hbefore := by
    obtain ⟨k, hk⟩ := Option.ne_none_iff_exists'.mp hbefore
    have hascii := h.asciiHead k hk
    have hone : 1 ≤ k.word.length - 1 := by cases k <;> decide
    rw [List.all_eq_true] at hascii ⊢
    intro c hc
    exact hascii c (List.take_subset_take_left _ hone hc)

/-- Inside an `or` group all joints are of the other connective. -/
theorem lintAtom_and
    {before after : Option Connective} {t : Text}
    (h : KeptAtom before after t) :
    LintAtom .and (cutAt .or before) (cutAt .or after) t where
  whole := h.whole .and
  closed hafter := h.closed (by
    rintro rfl
    exact hafter rfl)
  asciiHead hbefore := by
    cases before with
    | none => exact absurd rfl hbefore
    | some k =>
        cases k with
        | and => exact h.asciiHead .and rfl
        | or => exact absurd rfl hbefore

/-! ## The scanner on a joined text -/

/-- A part with the blanks that the scanner leaves around it. -/
def PaddedPart (part : Text) (group : Text × Joints) : Prop :=
  ∃ front back : Text, (∀ c ∈ front, c = ' ') ∧ (∀ c ∈ back, c = ' ') ∧
    part = front ++ joinAtoms group.1 group.2 ++ back

theorem PaddedPart.trim
    {part : Text} {group : Text × Joints} (h : PaddedPart part group) :
    Text.trim part = Text.trim (joinAtoms group.1 group.2) := by
  obtain ⟨front, back, hfront, hback, rfl⟩ := h
  have hblank : ∀ u : Text, (∀ c ∈ u, c = ' ') →
      ∀ c ∈ u, Text.isWhitespace c = true := by
    intro u hu c hc
    rw [hu c hc]
    decide
  rw [trim_append_right (hblank back hback), trim_append_left (hblank front hfront)]

theorem asciiHead_joinAtoms
    {first : Text} {n : Nat} (hn : n ≤ 2)
    (hfirst : (first.take n).all Text.isAscii = true) (rest : Joints) :
    ((joinAtoms first rest).take n).all Text.isAscii = true := by
  cases rest with
  | nil => exact hfirst
  | cons joint rest =>
      obtain ⟨k, t⟩ := joint
      have hjoint : ((' ' :: (k.word ++ ' ' :: joinAtoms t rest)).take 2).all
          Text.isAscii = true := by
        cases k <;> rfl
      rw [joinAtoms_cons, List.take_append, List.all_append, hfirst,
        Bool.true_and]
      rw [List.all_eq_true] at hjoint ⊢
      intro c hc
      exact hjoint c
        (List.take_subset_take_left _ ((Nat.sub_le _ _).trans hn) hc)

theorem splitBoolWordLoop_joinAtoms
    {k : Connective} {before after : Option Connective} {first : Text}
    {rest : Joints} {previous : Option Char}
    (hatoms : AtomsAt (LintAtom k) before first rest after)
    (hprevious : isBoundary previous = true) :
    ∃ group gs back parts,
      groups k first rest = group :: gs ∧ (∀ c ∈ back, c = ' ') ∧
      splitBoolWordLoop k.word none previous 0 [] (joinAtoms first rest) =
        some ((joinAtoms group.1 group.2 ++ back) :: parts) ∧
      List.Forall₂ PaddedPart parts gs := by
  have hwhole : splitBoolWordLoop k.word none previous 0 [] first =
      some [first] := by
    rw [splitBoolWordLoop_previous (r := none) [] first hprevious]
    exact hatoms.head.whole
  induction rest generalizing before first previous with
  | nil =>
      refine ⟨(first, []), [], [], [], rfl, by simp, ?_, .nil⟩
      simpa [joinAtoms] using hwhole
  | cons joint rest ih =>
      obtain ⟨k', t⟩ := joint
      obtain ⟨hfirst, htail⟩ := hatoms
      have hblank : isBoundary (some ' ') = true := by decide
      have ht : LintAtom k (some k') _ t := htail.head
      obtain ⟨group, gs, back, parts, hgroups, hback, hloop, hparts⟩ :=
        ih htail hblank (by
          rw [splitBoolWordLoop_previous (r := none) [] t hblank]
          exact ht.whole)
      have htwo : k.word.length - 1 ≤ 2 := by cases k <;> decide
      have hascii := asciiHead_joinAtoms htwo
        (ht.asciiHead (Option.some_ne_none k')) rest
      have hpads : Pads (' ' :: (k'.word ++ ' ' :: joinAtoms t rest)) := by
        cases k'
        · exact ⟨'a', _, rfl, by decide⟩
        · exact ⟨'o', _, rfl, by decide⟩
      rw [joinAtoms_cons, splitBoolWordLoop_pass hpads hwhole,
        hfirst.closed (Option.some_ne_none k'), groups, hgroups]
      by_cases hk : k' = k
      · subst hk
        rw [splitBoolWordLoop_joint hascii, hloop, if_pos rfl]
        refine ⟨(first, []), group :: gs, [' '],
          (' ' :: (joinAtoms group.1 group.2 ++ back)) :: parts,
          rfl, by simp, by simp [prependPart, joinAtoms], ?_⟩
        exact .cons ⟨[' '], back, by simp, hback, by simp⟩ hparts
      · rw [splitBoolWordLoop_otherJoint hk hascii, hloop, if_neg hk]
        exact ⟨(first, (k', group.1) :: group.2), gs, back, parts, rfl, hback,
          by simp [prependPart, joinAtoms], hparts⟩

/-- The lint cuts a joined condition at every joint of the scanned word. -/
theorem splitBoolWord_joinAtoms
    {k : Connective} {first : Text} {rest : Joints}
    (hatoms : AtomsAt (LintAtom k) none first rest none)
    (hworded : ∀ a ∈ atomsOf first rest, Worded a) :
    splitBoolWord (joinAtoms first rest) k.word =
      some ((groups k first rest).map
        fun group => Text.trim (joinAtoms group.1 group.2)) := by
  obtain ⟨group, gs, back, parts, hgroups, hback, hloop, hparts⟩ :=
    splitBoolWordLoop_joinAtoms hatoms (show isBoundary none = true from rfl)
  have hpadded : List.Forall₂ PaddedPart
      ((joinAtoms group.1 group.2 ++ back) :: parts) (groups k first rest) := by
    rw [hgroups]
    exact .cons ⟨[], back, by simp, hback, by simp⟩ hparts
  have hwhole : ∀ g ∈ groups k first rest,
      Text.trim (joinAtoms g.1 g.2) ≠ [] := by
    intro g hg
    have hfirst : Worded g.1 :=
      hworded g.1 (mem_of_mem_groups hg List.mem_cons_self)
    obtain ⟨x, hx⟩ := joinAtoms_eq_append g.1 g.2
    rw [hx]
    exact (hfirst.mono fun c hc => List.mem_append_left x hc).trim.ne_nil
  have htrim : ∀ {ps : List Text} {gs : List (Text × Joints)},
      List.Forall₂ PaddedPart ps gs →
      ps.map Text.trim = gs.map fun g => Text.trim (joinAtoms g.1 g.2) := by
    intro ps gs hps
    induction hps with
    | nil => rfl
    | cons hpart _ ih => rw [List.map_cons, List.map_cons, hpart.trim, ih]
  rw [splitBoolWord, hloop, Option.map_some, htrim hpadded, List.filter_eq_self.mpr]
  intro part hpart
  obtain ⟨g, hg, rfl⟩ := List.mem_map.mp hpart
  simpa using hwhole g hg

end Lint

end ChainworksForge.Condition
