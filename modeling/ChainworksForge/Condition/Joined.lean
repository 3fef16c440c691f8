import ChainworksForge.Condition.Ends
import ChainworksForge.Condition.Lint
import Mathlib.Tactic.Tauto

/-!
# Conditions that are joined from atoms

A condition is written as atoms joined by ` and ` and ` or `.  Two scanners
take such a text apart again: the runtime evaluator, which knows parentheses
but no quotes, and the lint, which knows quotes but no parentheses.

`KeptWhole` says of every atom, at its place in the text, that both scanners pass
it without cutting it.  On such a text each scanner cuts exactly at the joints:

* `splitConnective_joinAtoms` for the evaluator;
* `splitBoolWord_joinAtoms` for the lint.
-/

namespace ChainworksForge.Condition

open ChainworksForge.Support

/-- The two connectives of the condition language. -/
inductive Connective where
  | and
  | or
deriving DecidableEq, Repr

namespace Connective

/-- The connective as a word. -/
def word : Connective → Text
  | and => "and".toList
  | or => "or".toList

/-- The connective with the blanks around it. -/
def text (k : Connective) : Text :=
  ' ' :: k.word ++ [' ']

/-- The other connective. -/
def dual : Connective → Connective
  | and => or
  | or => and

end Connective

/-- Atoms after the first one, each with the connective before it. -/
abbrev Joints := List (Connective × Text)

/-- The condition text of a first atom and the joints after it. -/
def joinAtoms (first : Text) : Joints → Text
  | [] => first
  | (k, t) :: rest => first ++ k.text ++ joinAtoms t rest

/-- All atoms of a joined condition. -/
def atomsOf (first : Text) (rest : Joints) : List Text :=
  first :: rest.map Prod.snd

/-- Put an atom in front of the first run. -/
def consRun (t : Text) : List (List Text) → List (List Text)
  | [] => [[t]]
  | run :: others => (t :: run) :: others

/-- The maximal runs of atoms joined by one connective. -/
def runs (k : Connective) (first : Text) : Joints → List (List Text)
  | [] => [[first]]
  | (k', t) :: rest =>
      if k' = k then consRun first (runs k t rest)
      else [first] :: runs k t rest

/-! ## Atoms at their places -/

/--
No occurrence of the connective at depth zero starts inside the text, when the
text is followed by `following`.
-/
def quietBefore (connective following : Text) : ℤ → Text → Bool
  | _, [] => true
  | depth, c :: rest =>
      !(decide (parenStep depth c = 0) &&
          connective.isPrefixOf (c :: rest ++ following)) &&
        quietBefore connective following (parenStep depth c) rest

/-- Quote state of the lint after a text. -/
def quoteAfter (quote : Option Char) (t : Text) : Option Char :=
  t.foldl (fun q c => if Lint.isQuote c then Lint.toggleQuote q c else q) quote

/-- The blank of a joint beside an atom. -/
def blankAt : Option Connective → Text
  | none => []
  | some _ => [' ']

/--
A condition on every atom and the connectives beside it.  `before` stands before
the first atom and `after` behind the last one.
-/
def AtomsAt (P : Option Connective → Option Connective → Text → Prop) :
    Option Connective → Text → Joints → Option Connective → Prop
  | before, t, [], after => P before after t
  | before, t, (k, u) :: rest, after =>
      P before (some k) t ∧ AtomsAt P (some k) u rest after

instance decidableAtomsAt
    {P : Option Connective → Option Connective → Text → Prop}
    [∀ before after t, Decidable (P before after t)] :
    ∀ before first rest after, Decidable (AtomsAt P before first rest after)
  | before, first, [], after => inferInstanceAs (Decidable (P before after first))
  | _, _, (k, t) :: rest, after =>
      have := decidableAtomsAt (P := P) (some k) t rest after
      inferInstanceAs (Decidable (_ ∧ _))

/-- The evaluator's scanner passes an atom without cutting it.  The parentheses
only matter for a connective behind them. -/
structure RuntimeAtom (before after : Option Connective) (t : Text) : Prop where
  worded : Worded t
  quiet : ∀ k : Connective,
    quietBefore k.text (blankAt after) 0 (blankAt before ++ t) = true
  balanced : after ≠ none → parenDepth 0 t = 0

/-- The lint's scanner for one word passes an atom without cutting it.  An open
quote only matters for a connective behind it, and a wide character at the head
for the slice from the blank before it. -/
structure LintAtom
    (k : Connective) (before after : Option Connective) (t : Text) : Prop where
  whole : Lint.splitBoolWordLoop k.word none none 0 [] t = some [t]
  closed : after ≠ none → quoteAfter none t = none
  asciiHead : before ≠ none →
    (t.take (k.word.length - 1)).all Text.isAscii = true

/-- The evaluator cuts an operand behind its first atom. -/
def beginsOperand (before after : Option Connective) : Prop :=
  after = some .or ∨ (after = some .and ∧ before ≠ some .or)

/-- The evaluator cuts an operand before its last atom. -/
def endsOperand (before after : Option Connective) : Prop :=
  (before = some .or ∧ after ≠ some .or) ∨ (before = some .and ∧ after = none)

instance (before after : Option Connective) :
    Decidable (beginsOperand before after) :=
  inferInstanceAs (Decidable (_ ∨ _))

instance (before after : Option Connective) :
    Decidable (endsOperand before after) :=
  inferInstanceAs (Decidable (_ ∨ _))

/-- Neither scanner cuts an atom between two joints, and the quotes that the
evaluator strips from the ends of an operand do not change it. -/
structure KeptAtom (before after : Option Connective) (t : Text) : Prop
    extends RuntimeAtom before after t where
  /-- The lint finds neither word outside quotes. -/
  whole : ∀ k : Connective,
    Lint.splitBoolWordLoop k.word none none 0 [] t = some [t]
  closed : after ≠ none → quoteAfter none t = none
  asciiHead : ∀ k : Connective, before = some k →
    (t.take (k.word.length - 1)).all Text.isAscii = true
  front : beginsOperand before after → FrontKept t
  back : endsOperand before after → BackKept t

/-- Both scanners cut a joined condition at its joints only. -/
def KeptWhole (first : Text) (rest : Joints) : Prop :=
  AtomsAt KeptAtom none first rest none

instance decidableForallConnective (p : Connective → Prop) [∀ k, Decidable (p k)] :
    Decidable (∀ k, p k) :=
  decidable_of_iff (p .and ∧ p .or)
    ⟨fun h k => by cases k <;> tauto, fun h => ⟨h .and, h .or⟩⟩

instance (before after : Option Connective) (t : Text) :
    Decidable (RuntimeAtom before after t) :=
  decidable_of_iff
    (Worded t ∧
      (∀ k : Connective,
        quietBefore k.text (blankAt after) 0 (blankAt before ++ t) = true) ∧
      (after ≠ none → parenDepth 0 t = 0))
    ⟨fun h => ⟨h.1, h.2.1, h.2.2⟩, fun h => ⟨h.1, h.2, h.3⟩⟩

instance (before after : Option Connective) (t : Text) :
    Decidable (KeptAtom before after t) :=
  decidable_of_iff
    (RuntimeAtom before after t ∧
      (∀ k : Connective,
        Lint.splitBoolWordLoop k.word none none 0 [] t = some [t]) ∧
      (after ≠ none → quoteAfter none t = none) ∧
      (∀ k : Connective, before = some k →
        (t.take (k.word.length - 1)).all Text.isAscii = true) ∧
      (beginsOperand before after → FrontKept t) ∧
      (endsOperand before after → BackKept t))
    ⟨fun h => ⟨h.1, h.2.1, h.2.2.1, h.2.2.2.1, h.2.2.2.2.1, h.2.2.2.2.2⟩,
      fun h => ⟨h.1, h.2, h.3, h.4, h.5, h.6⟩⟩

instance (first : Text) (rest : Joints) : Decidable (KeptWhole first rest) :=
  inferInstanceAs (Decidable (AtomsAt KeptAtom none first rest none))

example : KeptWhole "vars.owner == O'Brien".toList [] := by decide +kernel

example :
    KeptWhole "vars.b  == \"x \"".toList [(.and, "vars.a == '('".toList)] := by
  decide +kernel

example : ¬KeptWhole "a.b == 'x and y'".toList [] := by decide +kernel

/-! ## Joined texts -/

theorem atomsOf_cons
    (first : Text) (k : Connective) (t : Text) (rest : Joints) :
    atomsOf first ((k, t) :: rest) = first :: atomsOf t rest :=
  rfl

/-- A joint seen from the atom before it. -/
theorem joinAtoms_cons
    (first : Text) (k : Connective) (t : Text) (rest : Joints) :
    joinAtoms first ((k, t) :: rest) =
      first ++ ' ' :: (k.word ++ ' ' :: joinAtoms t rest) := by
  simp [joinAtoms, Connective.text]

theorem joinAtoms_append
    (first : Text) (front : Joints) (k : Connective) (t : Text)
    (back : Joints) :
    joinAtoms first (front ++ (k, t) :: back) =
      joinAtoms first front ++ (k.text ++ joinAtoms t back) := by
  induction front generalizing first with
  | nil => exact List.append_assoc _ _ _
  | cons joint front ih =>
      obtain ⟨k', t'⟩ := joint
      simp only [List.cons_append, joinAtoms, ih, List.append_assoc]

/-- A joined condition behind its first atom. -/
theorem joinAtoms_eq_append
    (first : Text) (rest : Joints) :
    ∃ x, joinAtoms first rest = first ++ x := by
  cases rest with
  | nil => exact ⟨[], (List.append_nil first).symm⟩
  | cons joint rest => exact ⟨_, List.append_assoc _ _ _⟩

theorem worded_joinAtoms
    {first : Text} (h : Worded first) (rest : Joints) :
    Worded (joinAtoms first rest) := by
  obtain ⟨x, hx⟩ := joinAtoms_eq_append first rest
  rw [hx]
  exact h.mono fun c hc => List.mem_append_left x hc

/-- Either no joint is of the connective, or there is a first one. -/
theorem exists_first_joint
    (k : Connective) (rest : Joints) :
    (∀ joint ∈ rest, joint.1 ≠ k) ∨
      ∃ front t back, rest = front ++ (k, t) :: back ∧
        ∀ joint ∈ front, joint.1 ≠ k := by
  induction rest with
  | nil => simp
  | cons joint rest ih =>
      obtain ⟨k', t⟩ := joint
      by_cases hk : k' = k
      · subst hk
        exact Or.inr ⟨[], t, rest, rfl, by simp⟩
      · rcases ih with hnone | ⟨front, u, back, rfl, hfront⟩
        · left
          simpa [hk] using hnone
        · right
          exact ⟨(k', t) :: front, u, back, rfl, by simpa [hk] using hfront⟩

section AtomsAt

variable {P Q : Option Connective → Option Connective → Text → Prop}
  {before after : Option Connective} {first t : Text} {rest front back : Joints}
  {k : Connective}

theorem atomsAt_append :
    AtomsAt P before first (front ++ (k, t) :: back) after ↔
      AtomsAt P before first front (some k) ∧ AtomsAt P (some k) t back after := by
  induction front generalizing before first with
  | nil => exact Iff.rfl
  | cons joint front ih =>
      obtain ⟨k', u⟩ := joint
      rw [List.cons_append, AtomsAt, AtomsAt, ih, and_assoc]

theorem AtomsAt.forall_mem {p : Text → Prop} (h : AtomsAt P before first rest after)
    (hp : ∀ {before after t}, P before after t → p t) :
    ∀ a ∈ atomsOf first rest, p a := by
  induction rest generalizing before first with
  | nil =>
      intro a ha
      rw [atomsOf, List.map_nil, List.mem_singleton] at ha
      exact ha ▸ hp h
  | cons joint rest ih =>
      obtain ⟨k', u⟩ := joint
      rw [atomsOf_cons, List.forall_mem_cons]
      exact ⟨hp h.1, ih h.2⟩

theorem AtomsAt.imp (h : AtomsAt P before first rest after)
    (hPQ : ∀ {before after t}, P before after t → Q before after t) :
    AtomsAt Q before first rest after := by
  induction rest generalizing before first with
  | nil => exact hPQ h
  | cons joint rest ih =>
      obtain ⟨k', u⟩ := joint
      exact ⟨hPQ h.1, ih h.2⟩

/-- The first atom, with the connective behind it. -/
theorem AtomsAt.head (h : AtomsAt P before first rest after) :
    P before ((rest.head?.map Prod.fst).or after) first := by
  cases rest with
  | nil => exact h
  | cons joint rest => exact h.1

end AtomsAt

/-! ## The runtime scanner on joined texts -/

/-- Passing a quiet text only moves its characters behind the scanner. -/
theorem splitConnectiveLoop_pass
    {connective following before t : Text} {depth : ℤ}
    (h : quietBefore connective following depth t = true) :
    splitConnectiveLoop connective before depth (t ++ following) =
      splitConnectiveLoop connective (t.reverse ++ before)
        (parenDepth depth t) following := by
  induction t generalizing before depth with
  | nil => rfl
  | cons c rest ih =>
      simp only [quietBefore, Bool.and_eq_true, Bool.not_eq_true',
        Bool.and_eq_false_iff, decide_eq_false_iff_not] at h
      obtain ⟨hhere, hrest⟩ := h
      have hnext : splitConnectiveLoop connective (c :: before)
          (parenStep depth c) (rest ++ following) =
            splitConnectiveLoop connective (rest.reverse ++ c :: before)
              (parenDepth (parenStep depth c) rest) following := ih hrest
      have hstep : splitConnectiveLoop connective before depth
          (c :: (rest ++ following)) =
            splitConnectiveLoop connective (c :: before) (parenStep depth c)
              (rest ++ following) := by
        rw [splitConnectiveLoop]
        split_ifs with hdepth
        · have hno : Text.stripFront (c :: (rest ++ following)) connective =
              none := by
            rcases hhere with hdepth' | hprefix
            · exact absurd hdepth hdepth'
            · by_contra hsome
              obtain ⟨after, hafter⟩ := Option.ne_none_iff_exists'.mp hsome
              obtain ⟨p, hp, hpeq⟩ := List.dropPrefix?_eq_some_iff.mp hafter
              rw [beq_iff_eq] at hpeq
              subst hpeq
              rw [← List.cons_append] at hp
              rw [hp, List.isPrefixOf_iff_prefix.mpr
                (List.prefix_append _ _)] at hprefix
              exact absurd hprefix (by simp)
          rw [hno]
        · rfl
      rw [List.cons_append, hstep, hnext]
      simp [parenDepth]

theorem quietBefore_append
    {connective following u v : Text} {depth : ℤ} :
    quietBefore connective following depth (u ++ v) = true ↔
      quietBefore connective (v ++ following) depth u = true ∧
        quietBefore connective following (parenDepth depth u) v = true := by
  induction u generalizing depth with
  | nil => simp [quietBefore, parenDepth]
  | cons c u ih =>
      rw [List.cons_append, quietBefore, quietBefore, Bool.and_eq_true,
        Bool.and_eq_true, ih, and_assoc]
      simp only [List.cons_append, List.append_assoc]
      rfl

/-- Less text behind gives no more occurrences. -/
theorem quietBefore_of_append
    {connective following x t : Text} {depth : ℤ}
    (h : quietBefore connective (following ++ x) depth t = true) :
    quietBefore connective following depth t = true := by
  induction t generalizing depth with
  | nil => rfl
  | cons c rest ih =>
      simp only [quietBefore, Bool.and_eq_true, Bool.not_eq_true',
        Bool.and_eq_false_iff, decide_eq_false_iff_not] at h ⊢
      refine ⟨h.1.imp_right fun hprefix => ?_, ih h.2⟩
      by_contra hfound
      rw [Bool.not_eq_false, List.isPrefixOf_iff_prefix] at hfound
      have hlonger : connective <+: c :: rest ++ (following ++ x) := by
        rw [← List.append_assoc]
        exact hfound.trans (List.prefix_append _ _)
      rw [← List.isPrefixOf_iff_prefix, hprefix] at hlonger
      exact Bool.false_ne_true hlonger

/--
A connective that occurs across the end of a text followed by a blank already
occurs when only that blank follows.
-/
theorem prefix_append_blank
    {word u x : Text}
    (hword : ' ' ∉ word) (hu : u ≠ [])
    (h : ' ' :: word ++ [' '] <+: u ++ ' ' :: x) :
    ' ' :: word ++ [' '] <+: u ++ [' '] := by
  obtain ⟨tail, htail⟩ := h
  rw [List.append_eq_append_iff] at htail
  rcases htail with ⟨v, hv, -⟩ | ⟨v, hv, hx⟩
  · exact ⟨v ++ [' '], by simp [hv]⟩
  · -- The connective ends inside the blank and what follows it.
    cases v with
    | nil => exact ⟨[' '], by simp_all⟩
    | cons b v =>
        simp only [List.cons_append, List.cons.injEq] at hx
        obtain ⟨rfl, -⟩ := hx
        cases u with
        | nil => exact absurd rfl hu
        | cons a u =>
            simp only [List.cons_append, List.cons.injEq] at hv
            obtain ⟨rfl, hv⟩ := hv
            rw [List.append_eq_append_iff] at hv
            rcases hv with ⟨w, hw, hlast⟩ | ⟨w, hw, hlast⟩
            · cases w with
              | nil => simp_all
              | cons d w => simp_all
            · cases w with
              | nil => simp_all
              | cons d w =>
                  have : ' ' ∈ word := by
                    simp_all
                  exact absurd this hword

theorem Connective.blank_not_mem_word
    (k : Connective) :
    ' ' ∉ k.word := by
  cases k <;> decide

theorem quietBefore_extend
    {k : Connective} {t : Text} {depth : ℤ} (x : Text)
    (h : quietBefore k.text [' '] depth t = true) :
    quietBefore k.text (' ' :: x) depth t = true := by
  induction t generalizing depth with
  | nil => rfl
  | cons c rest ih =>
      simp only [quietBefore, Bool.and_eq_true, Bool.not_eq_true',
        Bool.and_eq_false_iff, decide_eq_false_iff_not] at h ⊢
      refine ⟨?_, ih h.2⟩
      rcases h.1 with hdepth | hprefix
      · exact Or.inl hdepth
      · right
        by_contra hfound
        rw [Bool.not_eq_false, List.isPrefixOf_iff_prefix] at hfound
        have hcut : k.text <+: c :: rest ++ [' '] :=
          prefix_append_blank k.blank_not_mem_word (by simp) hfound
        rw [← List.isPrefixOf_iff_prefix, hprefix] at hcut
        exact absurd hcut (by simp)

theorem Connective.parenDepth_text
    (k : Connective) :
    parenDepth 0 k.text = 0 := by
  cases k <;> decide

theorem parenDepth_append
    (depth : ℤ) (u v : Text) :
    parenDepth depth (u ++ v) = parenDepth (parenDepth depth u) v :=
  List.foldl_append

theorem parenDepth_blankAt
    (k : Option Connective) :
    parenDepth 0 (blankAt k) = 0 := by
  cases k <;> rfl

/-- The other connective holds no occurrence of this one. -/
theorem quietBefore_otherWord
    {k k' : Connective} (hk : k' ≠ k) (x : Text) :
    quietBefore k.text (' ' :: x) 0 (' ' :: k'.word) = true := by
  cases k <;> cases k' <;>
    simp_all [quietBefore, Connective.text, Connective.word, parenStep,
      List.isPrefixOf]

/-- Between joints of one connective there is no occurrence of the other. -/
theorem quietBefore_joinAtoms
    {k : Connective} {before after : Option Connective} {first : Text}
    {rest : Joints} (hatoms : AtomsAt RuntimeAtom before first rest after)
    (hrest : ∀ joint ∈ rest, joint.1 ≠ k) :
    quietBefore k.text (blankAt after) 0
      (blankAt before ++ joinAtoms first rest) = true := by
  induction rest generalizing before first with
  | nil => exact hatoms.quiet k
  | cons joint rest ih =>
      obtain ⟨k', t⟩ := joint
      rw [List.forall_mem_cons] at hrest
      obtain ⟨hfirst, htail⟩ := hatoms
      have hnext : quietBefore k.text (blankAt after) 0
          (' ' :: joinAtoms t rest) = true := ih htail hrest.2
      have hdepth : parenDepth 0 (blankAt before ++ first) = 0 := by
        rw [parenDepth_append, parenDepth_blankAt,
          hfirst.balanced (Option.some_ne_none k')]
      have hword : parenDepth 0 (' ' :: k'.word) = 0 := by
        cases k' <;> decide
      have hjoint : joinAtoms first ((k', t) :: rest) =
          first ++ ((' ' :: k'.word) ++ ' ' :: joinAtoms t rest) := by
        rw [joinAtoms_cons]
        rfl
      rw [hjoint, ← List.append_assoc]
      refine quietBefore_append.mpr ⟨quietBefore_extend _ (hfirst.quiet k), ?_⟩
      rw [hdepth]
      refine quietBefore_append.mpr ⟨quietBefore_otherWord hrest.1 _, ?_⟩
      rw [hword]
      exact hnext

theorem parenDepth_joinAtoms
    {before after : Option Connective} {first : Text} {rest : Joints}
    (hatoms : AtomsAt RuntimeAtom before first rest after) (hafter : after ≠ none) :
    parenDepth 0 (joinAtoms first rest) = 0 := by
  induction rest generalizing before first with
  | nil => exact hatoms.balanced hafter
  | cons joint rest ih =>
      obtain ⟨k', t⟩ := joint
      rw [joinAtoms, parenDepth_append, parenDepth_append,
        hatoms.1.balanced (Option.some_ne_none k'), Connective.parenDepth_text,
        ih hatoms.2]

/-- Blanks and quotes do not change the depth. -/
theorem parenDepth_of_forall
    {t : Text} (h : ∀ c ∈ t, Text.isWhitespace c = true ∨ c = '"') (depth : ℤ) :
    parenDepth depth t = depth := by
  induction t generalizing depth with
  | nil => rfl
  | cons c rest ih =>
      rw [List.forall_mem_cons] at h
      have hstep : parenStep depth c = depth := by
        rcases h.1 with hblank | rfl
        · exact parenStep_of_isWhitespace hblank depth
        · rfl
      calc
        parenDepth depth (c :: rest) = parenDepth (parenStep depth c) rest := rfl
        _ = depth := by rw [hstep, ih h.2]

/-- What an operand loses in front of it. -/
theorem exists_append_bareFront
    (t : Text) :
    ∃ u, t = u ++ bareFront t ∧
      ∀ c ∈ u, Text.isWhitespace c = true ∨ c = '"' := by
  have hcut : ∀ (p : Char → Bool) (t : Text),
      t.takeWhile p ++ t.dropWhile p = t := fun p t =>
    List.takeWhile_append_dropWhile
  refine ⟨t.takeWhile Text.isWhitespace ++
    ((t.dropWhile Text.isWhitespace).takeWhile (· == '"') ++
      ((t.dropWhile Text.isWhitespace).dropWhile (· == '"')).takeWhile
        Text.isWhitespace), ?_, ?_⟩
  · rw [bareFront, List.append_assoc, List.append_assoc, hcut, hcut, hcut]
  · intro c hc
    simp only [List.mem_append] at hc
    rcases hc with hc | hc | hc
    · exact .inl (List.mem_takeWhile_imp hc)
    · have hquote := List.mem_takeWhile_imp hc
      exact .inr (beq_iff_eq.mp hquote)
    · exact .inl (List.mem_takeWhile_imp hc)

/-- What an operand loses behind it. -/
theorem exists_bareBack_append
    (t : Text) :
    ∃ u, t = bareBack t ++ u := by
  have hcut : ∀ (p : Char → Bool) (t : Text),
      t.rdropWhile p ++ t.rtakeWhile p = t := fun p t =>
    List.rdropWhile_append_rtakeWhile
  refine ⟨((t.rdropWhile Text.isWhitespace).rdropWhile (· == '"')).rtakeWhile
      Text.isWhitespace ++
    ((t.rdropWhile Text.isWhitespace).rtakeWhile (· == '"') ++
      t.rtakeWhile Text.isWhitespace), ?_⟩
  rw [bareBack, ← List.append_assoc, hcut, ← List.append_assoc, hcut, hcut]

section Operands

variable {k : Connective} {t front back : Text}

theorem quietBefore_bareFront {following : Text}
    (h : quietBefore k.text following 0 t = true) :
    quietBefore k.text following 0 (bareFront t) = true := by
  obtain ⟨u, hu, hlost⟩ := exists_append_bareFront t
  rw [hu, quietBefore_append, parenDepth_of_forall hlost] at h
  exact h.2

theorem parenDepth_bareFront : parenDepth 0 (bareFront t) = parenDepth 0 t := by
  obtain ⟨u, hu, hlost⟩ := exists_append_bareFront t
  conv_rhs => rw [hu, parenDepth_append, parenDepth_of_forall hlost]

/-- A quiet condition is not split. -/
theorem splitConnective_normalizeCondition_none
    (h : quietBefore k.text [] 0 t = true) :
    splitConnective (normalizeCondition t) k.text = none := by
  obtain ⟨u, hu⟩ := exists_bareBack_append (bareFront t)
  have hquiet := quietBefore_bareFront h
  rw [hu, quietBefore_append] at hquiet
  have hbare : quietBefore k.text [] 0 (bareBack (bareFront t)) = true :=
    quietBefore_of_append (x := u) (by simpa using hquiet.1)
  rw [← splitConnective_trim, trim_normalizeCondition, splitConnective]
  have hpass : splitConnectiveLoop k.text [] 0 (bareBack (bareFront t) ++ []) =
      none :=
    splitConnectiveLoop_pass hbare
  rwa [List.append_nil] at hpass

/-- A condition is split at the first joint of a connective that the text before
the joint does not hide. -/
theorem splitConnective_joint
    (hquiet : quietBefore k.text [' '] 0 front = true)
    (hdepth : parenDepth 0 front = 0) (hfront : Worded front)
    (hback : Worded back) :
    splitConnective (normalizeCondition (front ++ (k.text ++ back))) k.text =
      some (Text.trim (bareFront front), Text.trim (bareBack back)) := by
  have hbare : bareBack (bareFront (front ++ (k.text ++ back))) =
      bareFront front ++ (k.text ++ bareBack back) := by
    rw [bareFront_append hfront, ← List.append_assoc, bareBack_append hback,
      List.append_assoc]
  have hpass : splitConnectiveLoop k.text [] 0
      (bareFront front ++ (k.text ++ bareBack back)) =
        splitConnectiveLoop k.text ((bareFront front).reverse ++ [])
          (parenDepth 0 (bareFront front)) (k.text ++ bareBack back) :=
    splitConnectiveLoop_pass
      (quietBefore_extend _ (quietBefore_bareFront hquiet))
  have hstrip : Text.stripFront (k.text ++ bareBack back) k.text =
      some (bareBack back) :=
    List.dropPrefix?_eq_some_iff.mpr ⟨k.text, rfl, by simp⟩
  have htext : k.text ++ bareBack back =
      ' ' :: (k.word ++ ' ' :: bareBack back) := by
    simp [Connective.text]
  rw [← splitConnective_trim, trim_normalizeCondition, hbare, splitConnective,
    hpass, parenDepth_bareFront, hdepth, htext, splitConnectiveLoop]
  rw [htext] at hstrip
  have hblank : parenStep 0 ' ' = 0 := by decide
  simp only [hblank, ↓reduceIte, hstrip, List.append_nil, List.reverse_reverse,
    ne_eq, hfront.bareFront.trim.ne_nil, hback.bareBack.trim.ne_nil,
    not_false_eq_true, and_self]

/-- The first joint of a connective splits a joined condition. -/
theorem splitConnective_joinAtoms
    {before after : Option Connective} {first u : Text} (rest : Joints) {rest' : Joints}
    (hatoms : AtomsAt RuntimeAtom before first (rest ++ (k, u) :: rest') after)
    (hrest : ∀ joint ∈ rest, joint.1 ≠ k) :
    splitConnective
        (normalizeCondition (joinAtoms first (rest ++ (k, u) :: rest'))) k.text =
      some (Text.trim (bareFront (joinAtoms first rest)),
        Text.trim (bareBack (joinAtoms u rest'))) := by
  obtain ⟨hfirst, hu⟩ := atomsAt_append.mp hatoms
  have hquiet := quietBefore_joinAtoms hfirst hrest
  rw [quietBefore_append, parenDepth_blankAt] at hquiet
  rw [joinAtoms_append]
  exact splitConnective_joint hquiet.2
    (parenDepth_joinAtoms hfirst (Option.some_ne_none k))
    (worded_joinAtoms hfirst.head.worded rest)
    (worded_joinAtoms hu.head.worded rest')

theorem splitConnective_joinAtoms_none
    {first : Text} {rest : Joints}
    (hatoms : AtomsAt RuntimeAtom none first rest none)
    (hrest : ∀ joint ∈ rest, joint.1 ≠ k) :
    splitConnective (normalizeCondition (joinAtoms first rest)) k.text = none :=
  splitConnective_normalizeCondition_none (quietBefore_joinAtoms hatoms hrest)

end Operands

end ChainworksForge.Condition
