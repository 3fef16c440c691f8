import ChainworksForge.Condition.JoinedLint
import ChainworksForge.Support.ByteSlice

/-!
# The slices of the lint

The splitter of the lint compares the bytes from each character outside quotes
with a connective word.  The slice panics where it ends inside a character.
`splitBoolWord_eq_none_iff` says in terms of the text where that happens: the
splitter visits every character outside quotes except those inside a connective
word that it has recognized.
-/

namespace ChainworksForge.Condition

open ChainworksForge.Support Lint

/-! ## Connective words -/

section Words

variable {k : Connective} {previous : Option Char} {t : Text}

theorem boolWordAt_eq_none_iff :
    boolWordAt k.word previous t = none ↔ Text.CutsCharacter k.word.length t := by
  rw [boolWordAt, byteLength_word]
  by_cases hshort : Text.byteLength t < k.word.length
  · rw [if_pos hshort]
    refine iff_of_false (Option.some_ne_none _) fun hcut => ?_
    have hlt := hcut.lt_byteLength
    omega
  · rw [if_neg hshort, Option.map_eq_none_iff, Text.splitBytes_eq_none_iff,
      or_iff_right hshort]

theorem isConditionWordChar_of_asciiLower {c : Char}
    (h : isConditionWordChar (Text.asciiLower c) = true) :
    isConditionWordChar c = true := by
  unfold Text.asciiLower at h
  split_ifs at h with hupper
  · simp [isConditionWordChar, hupper.1, hupper.2]
  · exact h

/-- A recognized connective follows no letter and is made of letters. -/
theorem boolWordAt_eq_some_true
    (h : boolWordAt k.word previous t = some true) :
    isBoundary previous = true ∧
      k.word.length ≤ t.length ∧
      ∀ c ∈ t.take k.word.length, isConditionWordChar c = true := by
  rw [boolWordAt] at h
  split_ifs at h with hshort
  · exact absurd (Option.some.inj h) Bool.false_ne_true
  obtain ⟨⟨word, rest⟩, hsplit, hword⟩ := Option.map_eq_some_iff.mp h
  obtain ⟨rfl, -⟩ := Text.splitBytes_eq_some hsplit
  rw [Bool.and_eq_true, Bool.and_eq_true] at hword
  obtain ⟨⟨hsame, hboundary⟩, -⟩ := hword
  have hlower : word.map Text.asciiLower = k.word.map Text.asciiLower :=
    beq_iff_eq.mp hsame
  have hlength : word.length = k.word.length := by
    simpa using congrArg List.length hlower
  refine ⟨hboundary, by rw [List.length_append]; omega, fun c hc => ?_⟩
  rw [← hlength, List.take_left] at hc
  have hletters : (k.word.map Text.asciiLower).all isConditionWordChar = true := by
    cases k with
    | and => rfl
    | or => rfl
  refine isConditionWordChar_of_asciiLower (List.all_eq_true.mp hletters _ ?_)
  rw [← hlower]
  exact List.mem_map_of_mem hc

theorem Connective.word_length_pos (k : Connective) : 0 < k.word.length := by
  cases k with
  | and => decide
  | or => decide

theorem head_of_boolWordAt {d : Char}
    (h : boolWordAt k.word previous (d :: t) = some true) :
    isConditionWordChar d = true := by
  refine (boolWordAt_eq_some_true h).2.2 d ?_
  obtain ⟨n, hn⟩ := Nat.exists_eq_succ_of_ne_zero
    (Nat.ne_of_gt (Connective.word_length_pos k))
  rw [hn, List.take_succ_cons]
  exact List.mem_cons_self

theorem not_isQuote_of_isConditionWordChar {c : Char}
    (h : isConditionWordChar c = true) : isQuote c = false := by
  by_contra hquote
  rw [Bool.not_eq_false, isQuote, Bool.or_eq_true, decide_eq_true_eq,
    decide_eq_true_eq] at hquote
  obtain rfl | rfl := hquote
  · exact absurd h (by decide)
  · exact absurd h (by decide)

end Words

/-! ## The slices that fail -/

section Slips

variable (k : Connective)

/-- A connective word outside quotes that starts before a position and covers
it. -/
def InsideWord
    (quote previous : Option Char) (front rest : Text) : Prop :=
  ∃ a b, front = a ++ b ∧ b ≠ [] ∧ b.length < k.word.length ∧
    quoteAfter quote a = none ∧
    boolWordAt k.word (a.getLast?.or previous) (b ++ rest) = some true

/-- The slice from a character outside quotes and connective words ends inside
a character.  The first `skip` characters are left out. -/
def SlipsAfter
    (quote previous : Option Char) (skip : Nat) (t : Text) : Prop :=
  ∃ front c rest, t = front ++ c :: rest ∧ skip ≤ front.length ∧
    isQuote c = false ∧ quoteAfter quote front = none ∧
    ¬InsideWord k quote previous front (c :: rest) ∧
    Text.CutsCharacter k.word.length (c :: rest)

/-- A slice of a text for a connective word ends inside a character. -/
def SlipsAt (t : Text) : Prop :=
  SlipsAfter k none none 0 t

variable {k} {quote previous : Option Char} {d : Char} {t : Text}

/-- Quote state after one character. -/
def quoteStep (quote : Option Char) (c : Char) : Option Char :=
  if isQuote c then toggleQuote quote c else quote

theorem quoteAfter_cons (quote : Option Char) (c : Char) (t : Text) :
    quoteAfter quote (c :: t) = quoteAfter (quoteStep quote c) t :=
  rfl

theorem insideWord_cons_iff {front rest : Text} :
    InsideWord k quote previous (d :: front) rest ↔
      (front.length + 1 < k.word.length ∧ quote = none ∧
        boolWordAt k.word previous (d :: front ++ rest) = some true) ∨
      InsideWord k (quoteStep quote d) (some d) front rest := by
  have hlast : ∀ a : Text, (d :: a).getLast?.or previous =
      a.getLast?.or (some d) := by
    intro a
    rw [List.getLast?_cons]
    cases a.getLast? with
    | none => rfl
    | some c => rfl
  constructor
  · rintro ⟨a, b, hfront, hne, hlen, hquote, hword⟩
    cases a with
    | nil =>
        rw [List.nil_append] at hfront
        subst hfront
        exact .inl ⟨hlen, hquote, hword⟩
    | cons e a =>
        obtain ⟨rfl, rfl⟩ := List.cons.inj hfront
        rw [hlast] at hword
        exact .inr ⟨a, b, rfl, hne, hlen, hquote, hword⟩
  · rintro (⟨hlen, rfl, hword⟩ | ⟨a, b, rfl, hne, hlen, hquote, hword⟩)
    · exact ⟨[], d :: front, rfl, List.cons_ne_nil _ _, hlen, rfl, hword⟩
    · refine ⟨d :: a, b, rfl, hne, hlen, hquote, ?_⟩
      rw [hlast]
      exact hword

/-- Without a word at the head, the slices are those of the head and of the
rest. -/
theorem slipsAfter_cons_of_not_word
    (hword : ¬(quote = none ∧
      boolWordAt k.word previous (d :: t) = some true)) :
    SlipsAfter k quote previous 0 (d :: t) ↔
      (isQuote d = false ∧ quote = none ∧
        Text.CutsCharacter k.word.length (d :: t)) ∨
      SlipsAfter k (quoteStep quote d) (some d) 0 t := by
  constructor
  · rintro ⟨front, c, rest, htext, -, hc, hquote, hinside, hcut⟩
    cases front with
    | nil =>
        obtain ⟨rfl, rfl⟩ := List.cons.inj htext
        exact .inl ⟨hc, hquote, hcut⟩
    | cons e front =>
        obtain ⟨rfl, rfl⟩ := List.cons.inj htext
        exact .inr ⟨front, c, rest, rfl, Nat.zero_le _, hc, hquote,
          fun h => hinside (insideWord_cons_iff.mpr (.inr h)), hcut⟩
  · rintro (⟨hd, rfl, hcut⟩ | ⟨front, c, rest, rfl, -, hc, hquote, hinside,
      hcut⟩)
    · refine ⟨[], d, t, rfl, Nat.le_refl _, hd, rfl, ?_, hcut⟩
      rintro ⟨a, b, hfront, hne, -⟩
      exact hne (List.append_eq_nil_iff.mp hfront.symm).2
    · refine ⟨d :: front, c, rest, rfl, Nat.zero_le _, hc, hquote,
        fun h => ?_, hcut⟩
      obtain ⟨-, hnone, htrue⟩ | h := insideWord_cons_iff.mp h
      · exact hword ⟨hnone, htrue⟩
      · exact hinside h

/-- A word at the head is passed as a whole. -/
theorem slipsAfter_cons_of_word
    (hword : boolWordAt k.word previous (d :: t) = some true) :
    SlipsAfter k none previous 0 (d :: t) ↔
      SlipsAfter k none (some d) (k.word.length - 1) t := by
  have hpos := Connective.word_length_pos k
  have hstep : quoteStep none d = none := by
    rw [quoteStep, not_isQuote_of_isConditionWordChar (head_of_boolWordAt hword)]
    rfl
  constructor
  · rintro ⟨front, c, rest, htext, -, hc, hquote, hinside, hcut⟩
    cases front with
    | nil =>
        rw [List.nil_append] at htext
        rw [← htext] at hcut
        rw [boolWordAt_eq_none_iff.mpr hcut] at hword
        exact absurd hword.symm (Option.some_ne_none _)
    | cons e front =>
        obtain ⟨rfl, rfl⟩ := List.cons.inj htext
        rw [insideWord_cons_iff, hstep, not_or] at hinside
        rw [quoteAfter_cons, hstep] at hquote
        refine ⟨front, c, rest, rfl, ?_, hc, hquote, hinside.2, hcut⟩
        by_contra hshort
        exact hinside.1 ⟨by omega, rfl, hword⟩
  · rintro ⟨front, c, rest, rfl, hskip, hc, hquote, hinside, hcut⟩
    refine ⟨d :: front, c, rest, rfl, Nat.zero_le _, hc, ?_, fun h => ?_, hcut⟩
    · rw [quoteAfter_cons, hstep]
      exact hquote
    · rw [insideWord_cons_iff, hstep] at h
      obtain ⟨hshort, -, -⟩ | h := h
      · omega
      · exact hinside h

/-- The letters of a word that is passed start no slice. -/
theorem slipsAfter_cons_of_skip {skip : Nat}
    (hprevious : isBoundary previous = false)
    (hd : isConditionWordChar d = true) :
    SlipsAfter k none previous (skip + 1) (d :: t) ↔
      SlipsAfter k none (some d) skip t := by
  have hstep : quoteStep none d = none := by
    rw [quoteStep, not_isQuote_of_isConditionWordChar hd]
    rfl
  constructor
  · rintro ⟨front, c, rest, htext, hskip, hc, hquote, hinside, hcut⟩
    cases front with
    | nil => exact absurd hskip (Nat.not_succ_le_zero skip)
    | cons e front =>
        obtain ⟨rfl, rfl⟩ := List.cons.inj htext
        rw [insideWord_cons_iff, hstep, not_or] at hinside
        rw [quoteAfter_cons, hstep] at hquote
        exact ⟨front, c, rest, rfl, Nat.le_of_succ_le_succ hskip, hc, hquote,
          hinside.2, hcut⟩
  · rintro ⟨front, c, rest, rfl, hskip, hc, hquote, hinside, hcut⟩
    refine ⟨d :: front, c, rest, rfl, Nat.succ_le_succ hskip, hc, ?_,
      fun h => ?_, hcut⟩
    · rw [quoteAfter_cons, hstep]
      exact hquote
    · rw [insideWord_cons_iff, hstep] at h
      obtain ⟨-, -, hword⟩ | h := h
      · rw [(boolWordAt_eq_some_true hword).1] at hprevious
        exact absurd hprevious (by decide)
      · exact hinside h

/-- The scan panics exactly at a slice that ends inside a character. -/
theorem splitBoolWordLoop_eq_none_iff
    {skip : Nat} {part : Text}
    (hskip : 0 < skip → quote = none ∧ isBoundary previous = false)
    (hletters : ∀ c ∈ t.take skip, isConditionWordChar c = true) :
    splitBoolWordLoop k.word quote previous skip part t = none ↔
      SlipsAfter k quote previous skip t := by
  induction t generalizing quote previous skip part with
  | nil =>
      have hend : ∀ skip, splitBoolWordLoop k.word quote previous skip part [] =
          some [part.reverse] := by
        intro skip
        cases skip with
        | zero => rfl
        | succ skip => rfl
      rw [hend]
      refine iff_of_false (Option.some_ne_none _) ?_
      rintro ⟨front, c, rest, htext, -⟩
      simp at htext
  | cons d t ih =>
      cases skip with
      | succ skip =>
          obtain ⟨rfl, hprevious⟩ := hskip (Nat.succ_pos skip)
          have hd : isConditionWordChar d = true :=
            hletters d List.mem_cons_self
          rw [splitBoolWordLoop, slipsAfter_cons_of_skip hprevious hd]
          refine ih (fun _ => ⟨rfl, ?_⟩) fun c hc => hletters c ?_
          · rw [isBoundary, Option.all_some, hd]
            rfl
          · exact List.mem_cons_of_mem d hc
      | zero =>
          have hnext : ∀ (quote' : Option Char) (part' : Text),
              splitBoolWordLoop k.word quote' (some d) 0 part' t = none ↔
                SlipsAfter k quote' (some d) 0 t := fun quote' part' =>
            ih (fun hpos => absurd hpos (Nat.lt_irrefl 0)) (by simp)
          rw [splitBoolWordLoop]
          by_cases hquoteChar : isQuote d = true
          · have hword : ¬(quote = none ∧
                boolWordAt k.word previous (d :: t) = some true) := by
              rintro ⟨-, hword⟩
              exact absurd hquoteChar (by
                rw [not_isQuote_of_isConditionWordChar
                  (head_of_boolWordAt hword)]
                decide)
            rw [if_pos hquoteChar, hnext, slipsAfter_cons_of_not_word hword,
              quoteStep, if_pos hquoteChar, or_iff_right]
            rintro ⟨hd, -⟩
            rw [hquoteChar] at hd
            exact absurd hd (by decide)
          rw [if_neg hquoteChar]
          have hd : isQuote d = false := by simpa using hquoteChar
          by_cases hinside : quote.isSome = true
          · have hquote : quote ≠ none := by
              rintro rfl
              exact absurd hinside (by decide)
            rw [if_pos hinside, hnext, slipsAfter_cons_of_not_word
              (fun h => hquote h.1), quoteStep, if_neg hquoteChar, or_iff_right]
            exact fun h => hquote h.2.1
          obtain rfl : quote = none := by simpa using hinside
          rw [if_neg hinside]
          cases hword : boolWordAt k.word previous (d :: t) with
          | none =>
              refine iff_of_true rfl ?_
              rw [slipsAfter_cons_of_not_word (by simp [hword])]
              exact .inl ⟨hd, rfl, boolWordAt_eq_none_iff.mp hword⟩
          | some isWord =>
              cases isWord with
              | true =>
                  obtain ⟨-, hlength, hall⟩ := boolWordAt_eq_some_true hword
                  rw [slipsAfter_cons_of_word hword]
                  simp only [Option.map_eq_none_iff]
                  refine ih (fun _ => ⟨rfl, ?_⟩) fun c hc => hall c ?_
                  · rw [isBoundary, Option.all_some, head_of_boolWordAt hword]
                    rfl
                  · obtain ⟨n, hn⟩ := Nat.exists_eq_succ_of_ne_zero
                      (Nat.ne_of_gt (Connective.word_length_pos k))
                    rw [hn, Nat.succ_sub_one] at hc
                    rw [hn, List.take_succ_cons]
                    exact List.mem_cons_of_mem d hc
              | false =>
                  have hnone : ¬Text.CutsCharacter k.word.length (d :: t) := by
                    intro hcut
                    have hcutWord : boolWordAt k.word previous (d :: t) = none :=
                      boolWordAt_eq_none_iff.mpr hcut
                    exact absurd (hword.symm.trans hcutWord) (Option.some_ne_none _)
                  have hstep : quoteStep none d = none := by
                    rw [quoteStep, if_neg hquoteChar]
                  simp only [hnext]
                  rw [slipsAfter_cons_of_not_word (by simp [hword]), hstep,
                    or_iff_right]
                  exact fun h => hnone h.2.2

/-- The parts of a text between connective words outside quotes. -/
def connectivePartsLoop (word : Text) :
    Option Char → Option Char → Nat → Text → Text → List Text
  | _, _, _, part, [] => [part.reverse]
  | quote, _, skip + 1, part, c :: rest =>
      connectivePartsLoop word quote (some c) skip part rest
  | quote, previous, 0, part, c :: rest =>
      if isQuote c then
        connectivePartsLoop word (toggleQuote quote c) (some c) 0 (c :: part)
          rest
      else if quote = none ∧
          boolWordAt word previous (c :: rest) = some true then
        part.reverse ::
          connectivePartsLoop word none (some c) (word.length - 1) [] rest
      else connectivePartsLoop word quote (some c) 0 (c :: part) rest

/-- The trimmed parts that are not empty. -/
def connectiveParts (word input : Text) : List Text :=
  ((connectivePartsLoop word none none 0 [] input).map Text.trim).filter
    fun part => part ≠ []

theorem splitBoolWordLoop_eq_some
    {word : Text} {skip : Nat} {part : Text} {parts : List Text}
    (h : splitBoolWordLoop word quote previous skip part t = some parts) :
    parts = connectivePartsLoop word quote previous skip part t := by
  induction t generalizing quote previous skip part parts with
  | nil =>
      cases skip with
      | zero => exact (Option.some.inj h).symm
      | succ skip => exact (Option.some.inj h).symm
  | cons d t ih =>
      cases skip with
      | succ skip => exact ih h
      | zero =>
          rw [splitBoolWordLoop] at h
          rw [connectivePartsLoop]
          by_cases hquoteChar : isQuote d = true
          · rw [if_pos hquoteChar] at h ⊢
            exact ih h
          rw [if_neg hquoteChar] at h ⊢
          by_cases hinside : quote.isSome = true
          · have hquote : quote ≠ none := by
              rintro rfl
              exact absurd hinside (by decide)
            rw [if_pos hinside] at h
            rw [if_neg fun hword => hquote hword.1]
            exact ih h
          obtain rfl : quote = none := by simpa using hinside
          rw [if_neg hinside] at h
          cases hword : boolWordAt word previous (d :: t) with
          | none =>
              rw [hword] at h
              exact absurd h.symm (Option.some_ne_none _)
          | some isWord =>
              rw [hword] at h
              cases isWord with
              | true =>
                  obtain ⟨rest, hrest, rfl⟩ := Option.map_eq_some_iff.mp h
                  rw [if_pos ⟨rfl, rfl⟩, ih hrest]
              | false =>
                  rw [if_neg (by simp)]
                  exact ih h

end Slips

/-- The splitter panics exactly at a slice that ends inside a character. -/
theorem splitBoolWord_eq_none_iff (k : Connective) (input : Text) :
    splitBoolWord input k.word = none ↔ SlipsAt k input := by
  rw [splitBoolWord, Option.map_eq_none_iff, splitBoolWordLoop_eq_none_iff
    (fun hpos => absurd hpos (Nat.lt_irrefl 0)) (by simp), SlipsAt]

theorem splitBoolWord_eq_some
    {word input : Text} {parts : List Text}
    (h : splitBoolWord input word = some parts) :
    parts = connectiveParts word input := by
  obtain ⟨raw, hraw, rfl⟩ := Option.map_eq_some_iff.mp h
  rw [connectiveParts, splitBoolWordLoop_eq_some hraw]

/-! ## The lint of a condition -/

/-- Every slice of the lint ends between two characters: in the whole text for
`or`, and in each part between two `or` for `and`. -/
def LintSlicesFit (condition : Text) : Prop :=
  Text.eqIgnoreAsciiCase (Text.trim condition) "true".toList = true ∨
    (¬SlipsAt .or (Text.trim condition) ∧
      ∀ part ∈ connectiveParts "or".toList (Text.trim condition),
        ¬SlipsAt .and part)

theorem mapM_eq_none_iff {α β : Type} (f : α → Option β) (l : List α) :
    l.mapM f = none ↔ ∃ a ∈ l, f a = none := by
  induction l with
  | nil => simp
  | cons a l ih =>
      rw [List.mapM_cons]
      cases hhead : f a with
      | none => simp [hhead]
      | some b =>
          cases htail : l.mapM f with
          | none =>
              obtain ⟨a', ha', hnone⟩ := ih.mp htail
              exact iff_of_true rfl ⟨a', List.mem_cons_of_mem a ha', hnone⟩
          | some bs =>
              refine iff_of_false (Option.some_ne_none _) ?_
              rintro ⟨a', ha', hnone⟩
              obtain rfl | ha' := List.mem_cons.mp ha'
              · exact absurd (hhead.symm.trans hnone) (Option.some_ne_none _)
              · exact absurd ((ih.mpr ⟨a', ha', hnone⟩).symm.trans htail).symm
                  (Option.some_ne_none _)

/-- The lint reads a condition exactly when all its slices fit. -/
theorem parseConditionDnf_ne_none_iff (condition : Text) :
    parseConditionDnf condition ≠ none ↔ LintSlicesFit condition := by
  rw [parseConditionDnf, Ne, Option.map_eq_none_iff, clauseTexts, LintSlicesFit]
  by_cases htrue : Text.eqIgnoreAsciiCase (Text.trim condition) "true".toList =
      true
  · rw [if_pos htrue]
    exact iff_of_true (Option.some_ne_none _) (.inl htrue)
  rw [if_neg htrue, or_iff_right htrue, Option.bind_eq_none_iff]
  cases hparts : splitBoolWord (Text.trim condition) "or".toList with
  | none =>
      have hslip := (splitBoolWord_eq_none_iff .or _).mp hparts
      simp [hslip]
  | some parts =>
      have hfit : ¬SlipsAt .or (Text.trim condition) := by
        rw [← splitBoolWord_eq_none_iff]
        exact ne_of_eq_of_ne hparts (Option.some_ne_none _)
      rw [← splitBoolWord_eq_some hparts]
      simp only [Option.some.injEq, forall_eq', mapM_eq_none_iff, not_exists,
        not_and]
      refine ⟨fun h => ⟨hfit, fun part hpart hslip => ?_⟩, fun h part hpart hnone =>
        ?_⟩
      · exact h part hpart ((splitBoolWord_eq_none_iff .and part).mpr hslip)
      · exact h.2 part hpart ((splitBoolWord_eq_none_iff .and part).mp hnone)

end ChainworksForge.Condition
