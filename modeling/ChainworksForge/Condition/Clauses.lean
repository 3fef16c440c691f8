import ChainworksForge.Condition.JoinedLint

/-!
# The clauses of a joined condition

The lint trims a condition before its first scan, and trims what it cuts before
the second one.  A scan does not see the blanks that are trimmed: in front of a
text they are stepped over, behind it they only show up in the last part
(`splitBoolWord_trim`).  So the two scans return the trimmed atoms of the maximal
runs between the `or` joints, which is `clauseTexts_joinAtoms`.
-/

namespace ChainworksForge.Condition

open ChainworksForge.Support

namespace Lint

/-! ## Blanks around a scanned text -/

section Blanks

variable {k : Connective} {w : Text}

/-- Whitespace is no start of a connective word. -/
theorem boolWordAt_of_isWhitespace
    {previous : Option Char} {c : Char} {rest : Text} {b : Bool}
    (hc : Text.isWhitespace c = true)
    (h : boolWordAt k.word previous (c :: rest) = some b) :
    b = false := by
  unfold boolWordAt at h
  split_ifs at h with hshort
  · exact (Option.some.inj h).symm
  · obtain ⟨⟨front, back⟩, hsplit, rfl⟩ := Option.map_eq_some_iff.mp h
    obtain ⟨hrest, hbytes⟩ := Text.splitBytes_eq_some hsplit
    have hmem : c ∈ front := by
      cases front with
      | nil =>
          have hword : Text.byteLength k.word ≠ 0 := by cases k <;> decide
          exact absurd hbytes.symm hword
      | cons d front =>
          rw [List.cons_append, List.cons.injEq] at hrest
          exact hrest.1 ▸ List.mem_cons_self
    simp [eqIgnoreAsciiCase_word_of_mem hc hmem]

/-- A scan that gets past whitespace in front of a text cuts nothing there. -/
theorem splitBoolWordLoop_cons_of_isWhitespace
    {previous : Option Char} {c : Char} {rest : Text} {parts : List Text}
    (hc : Text.isWhitespace c = true)
    (h : splitBoolWordLoop k.word none previous 0 [] (c :: rest) = some parts) :
    ∃ parts', splitBoolWordLoop k.word none none 0 [] rest = some parts' ∧
      parts = prependPart [c] parts' := by
  have hquote := isQuote_of_isWhitespace hc
  have hboundary : isBoundary (some c) = isBoundary none := by
    rw [isBoundary, Option.all_some, isConditionWordChar_of_isWhitespace hc]
    rfl
  cases hat : boolWordAt k.word previous (c :: rest) with
  | none =>
      rw [splitBoolWordLoop, hquote] at h
      simp [hat] at h
  | some b =>
      have hb := boolWordAt_of_isWhitespace hc hat
      rw [splitBoolWordLoop_step hquote (hb ▸ hat),
        splitBoolWordLoop_previous [] rest hboundary] at h
      obtain ⟨parts', hloop, rfl⟩ := Option.map_eq_some_iff.mp h
      exact ⟨parts', hloop, rfl⟩

theorem splitBoolWord_dropWhile
    {t : Text} {parts : List Text}
    (h : splitBoolWord t k.word = some parts) :
    splitBoolWord (t.dropWhile Text.isWhitespace) k.word = some parts := by
  induction t with
  | nil => exact h
  | cons c rest ih =>
      by_cases hc : Text.isWhitespace c = true
      · rw [List.dropWhile_cons_of_pos hc]
        apply ih
        obtain ⟨cut, hcut, rfl⟩ := Option.map_eq_some_iff.mp h
        obtain ⟨parts', hloop, rfl⟩ := splitBoolWordLoop_cons_of_isWhitespace hc hcut
        rw [splitBoolWord, hloop, Option.map_some]
        cases parts' with
        | nil => rfl
        | cons part parts' =>
            have hblank : ∀ d ∈ [c], Text.isWhitespace d = true := by simpa using hc
            rw [prependPart, List.map_cons, List.map_cons,
              trim_append_left hblank]
      · rwa [List.dropWhile_cons_of_neg hc]

theorem splitBytes_append_of_ge
    {n : Nat} {t : Text} (x : Text) (h : n ≤ Text.byteLength t) :
    Text.splitBytes n (t ++ x) =
      (Text.splitBytes n t).map fun halves => (halves.1, halves.2 ++ x) := by
  induction t generalizing n with
  | nil =>
      obtain rfl : n = 0 := Nat.le_zero.mp h
      simp [Text.splitBytes]
  | cons c rest ih =>
      cases n with
      | zero => rfl
      | succ n =>
          rw [List.cons_append, Text.splitBytes, Text.splitBytes]
          split_ifs with hc
          · simp only [Text.byteLength, List.map_cons, List.sum_cons] at h ih
            rw [ih (by omega), Option.map_map, Option.map_map]
            rfl
          · rfl

/-- A verdict that is reached across the end of a text stands without what follows. -/
theorem boolWordAt_of_append
    {previous : Option Char} {t : Text} {b : Bool}
    (hw : ∀ c ∈ w, Text.isWhitespace c = true)
    (h : boolWordAt k.word previous (t ++ w) = some b) :
    boolWordAt k.word previous t = some b := by
  unfold boolWordAt at h ⊢
  by_cases hshort : Text.byteLength t < Text.byteLength k.word
  · -- The slice reaches the whitespace, so it is not the word.
    rw [if_pos hshort]
    split_ifs at h with htotal
    · exact h
    · obtain ⟨⟨front, back⟩, hsplit, rfl⟩ := Option.map_eq_some_iff.mp h
      obtain ⟨hrest, hbytes⟩ := Text.splitBytes_eq_some hsplit
      obtain ⟨v, hv⟩ : ∃ v, front = t ++ v ∧ w = v ++ back := by
        rcases List.append_eq_append_iff.mp hrest with ⟨v, hfront, hback⟩ | ⟨v, ht, -⟩
        · exact ⟨v, hfront, hback⟩
        · rw [ht, Text.byteLength_append] at hshort
          omega
      have hne : v ≠ [] := by
        rintro rfl
        rw [hv.1, List.append_nil] at hbytes
        omega
      obtain ⟨c, hc⟩ := List.exists_mem_of_ne_nil v hne
      have hblank : Text.isWhitespace c = true :=
        hw c (hv.2 ▸ List.mem_append_left _ hc)
      have hmem : c ∈ front := hv.1 ▸ List.mem_append_right _ hc
      simp [eqIgnoreAsciiCase_word_of_mem hblank hmem]
  · rw [if_neg hshort]
    have htotal : ¬Text.byteLength (t ++ w) < Text.byteLength k.word := by
      rw [Text.byteLength_append]
      omega
    rw [if_neg htotal, splitBytes_append_of_ge w (not_lt.mp hshort),
      Option.map_map] at h
    obtain ⟨⟨front, back⟩, hsplit, rfl⟩ := Option.map_eq_some_iff.mp h
    rw [hsplit, Option.map_some]
    cases back with
    | nil =>
        have hend : isBoundary w.head? = isBoundary none := by
          cases w with
          | nil => rfl
          | cons c w =>
              rw [List.head?_cons, isBoundary, Option.all_some,
                isConditionWordChar_of_isWhitespace (hw c List.mem_cons_self)]
              rfl
        simp [hend]
    | cons c back => rfl

theorem splitBoolWordLoop_of_whitespace
    {quote previous : Option Char} {skip : Nat} {part : Text}
    {parts : List Text}
    (hw : ∀ c ∈ w, Text.isWhitespace c = true)
    (h : splitBoolWordLoop k.word quote previous skip part w = some parts) :
    ∃ v, (∀ c ∈ v, Text.isWhitespace c = true) ∧ parts = [part.reverse ++ v] := by
  induction w generalizing quote previous skip part with
  | nil => exact ⟨[], by simp, by simpa [splitBoolWordLoop] using h.symm⟩
  | cons c w ih =>
      rw [List.forall_mem_cons] at hw
      have hgrow : ∀ {q p : Option Char},
          splitBoolWordLoop k.word q p 0 (c :: part) w = some parts →
          ∃ v, (∀ d ∈ v, Text.isWhitespace d = true) ∧
            parts = [part.reverse ++ v] := by
        intro q p hloop
        obtain ⟨v, hv, hparts⟩ := ih hw.2 hloop
        exact ⟨c :: v, List.forall_mem_cons.mpr ⟨hw.1, hv⟩, by simpa using hparts⟩
      cases skip with
      | succ skip =>
          rw [splitBoolWordLoop] at h
          exact ih hw.2 h
      | zero =>
          rw [splitBoolWordLoop, isQuote_of_isWhitespace hw.1] at h
          simp only [Bool.false_eq_true, ↓reduceIte] at h
          split_ifs at h with hquote
          · exact hgrow h
          · cases hat : boolWordAt k.word previous (c :: w) with
            | none => simp [hat] at h
            | some b =>
                rw [hat, boolWordAt_of_isWhitespace hw.1 hat] at h
                exact hgrow h

/-- Whitespace behind a text only shows up behind the last part. -/
theorem splitBoolWordLoop_of_append
    {quote previous : Option Char} {skip : Nat} {part t : Text}
    {parts : List Text}
    (hw : ∀ c ∈ w, Text.isWhitespace c = true)
    (h : splitBoolWordLoop k.word quote previous skip part (t ++ w) =
      some parts) :
    ∃ parts', splitBoolWordLoop k.word quote previous skip part t = some parts' ∧
      parts'.map Text.trim = parts.map Text.trim := by
  induction t generalizing quote previous skip part parts with
  | nil =>
      obtain ⟨v, hv, rfl⟩ := splitBoolWordLoop_of_whitespace hw h
      refine ⟨[part.reverse], rfl, ?_⟩
      rw [List.map_singleton, List.map_singleton, trim_append_right hv]
  | cons c rest ih =>
      cases skip with
      | succ skip =>
          rw [List.cons_append, splitBoolWordLoop] at h
          exact ih h
      | zero =>
          rw [List.cons_append, splitBoolWordLoop] at h
          rw [splitBoolWordLoop]
          split_ifs at h ⊢
          · exact ih h
          · exact ih h
          · cases hat : boolWordAt k.word previous (c :: (rest ++ w)) with
            | none => simp [hat] at h
            | some b =>
                rw [boolWordAt_of_append hw hat]
                cases b with
                | true =>
                    simp only [hat, Option.map_eq_some_iff] at h
                    obtain ⟨others, hloop, rfl⟩ := h
                    obtain ⟨others', hloop', htrim⟩ := ih hloop
                    simp only [hloop', Option.map_some]
                    exact ⟨_, rfl, by rw [List.map_cons, List.map_cons, htrim]⟩
                | false =>
                    simp only [hat] at h
                    exact ih h

/-- What a scan cuts out of a text it also cuts out of the trimmed text. -/
theorem splitBoolWord_trim
    {t : Text} {parts : List Text} (h : splitBoolWord t k.word = some parts) :
    splitBoolWord (Text.trim t) k.word = some parts := by
  have hfront := splitBoolWord_dropWhile h
  rw [← List.rdropWhile_append_rtakeWhile (p := Text.isWhitespace)
    (l := t.dropWhile Text.isWhitespace)] at hfront
  obtain ⟨cut, hcut, rfl⟩ := Option.map_eq_some_iff.mp hfront
  obtain ⟨cut', hcut', htrim⟩ := splitBoolWordLoop_of_append
    (fun c hc => List.mem_rtakeWhile_imp hc) hcut
  rw [splitBoolWord, Text.trim, Text.trimMatches, hcut', Option.map_some, htrim]

end Blanks

/-! ## The clauses of a joined condition -/

/-- The clauses of a joined condition are the runs between its `or` joints. -/
theorem clauseTexts_joinAtoms
    {first : Text} {rest : Joints} (hkept : KeptWhole first rest)
    (htrue : Text.eqIgnoreAsciiCase (Text.trim (joinAtoms first rest))
      "true".toList = false) :
    clauseTexts (joinAtoms first rest) =
      some ((runs .and first rest).map (List.map Text.trim)) := by
  have hworded : ∀ a ∈ atomsOf first rest, Worded a :=
    hkept.forall_mem fun h => h.worded
  have horAtoms : AtomsAt (LintAtom .or) none first rest none :=
    hkept.imp lintAtom_or
  obtain ⟨group, gs, hgroups, hgroup, hgs⟩ :=
    atomsAt_of_mem_groups (k := .or) lintAtom_and hkept
  have hclause : ∀ g ∈ groups .or first rest,
      splitBoolWord (Text.trim (joinAtoms g.1 g.2)) "and".toList =
        some ((atomsOf g.1 g.2).map Text.trim) := by
    intro g hg
    have hatoms : AtomsAt (LintAtom .and) none g.1 g.2 none := by
      rw [hgroups, List.mem_cons] at hg
      rcases hg with rfl | hg
      · exact hgroup
      · exact hgs g hg
    have hand : ∀ joint ∈ g.2, joint.1 = Connective.and := by
      intro joint hjoint
      have := joint_of_mem_groups hg hjoint
      cases hk : joint.1 with
      | and => rfl
      | or => exact absurd hk this
    have hsplit := splitBoolWord_joinAtoms hatoms fun a ha =>
      hworded a (mem_of_mem_groups hg ha)
    rw [← groups_of_all hand, List.map_map]
    exact splitBoolWord_trim hsplit
  have hmapM : ∀ gs : List (Text × Joints),
      (∀ g ∈ gs, splitBoolWord (Text.trim (joinAtoms g.1 g.2)) "and".toList =
        some ((atomsOf g.1 g.2).map Text.trim)) →
      (gs.map fun g => Text.trim (joinAtoms g.1 g.2)).mapM
          (fun orPart => splitBoolWord orPart "and".toList) =
        some (gs.map fun g => (atomsOf g.1 g.2).map Text.trim) := by
    intro gs
    induction gs with
    | nil =>
        intro _
        rfl
    | cons g gs ih =>
        intro hgs
        have hrest := ih fun g hg => hgs g (List.mem_cons_of_mem _ hg)
        rw [List.map_cons, List.mapM_cons, hgs g List.mem_cons_self, hrest]
        rfl
  have hor : splitBoolWord (Text.trim (joinAtoms first rest)) "or".toList = _ :=
    splitBoolWord_trim (splitBoolWord_joinAtoms horAtoms hworded)
  have hruns : ((groups .or first rest).map fun g =>
      (atomsOf g.1 g.2).map Text.trim) =
        (runs .and first rest).map (List.map Text.trim) := by
    have hatoms : (groups .or first rest).map (fun g => atomsOf g.1 g.2) =
        runs .and first rest := groups_atoms .or first rest
    rw [← hatoms, List.map_map]
    rfl
  rw [clauseTexts, htrue]
  simp only [Bool.false_eq_true, ↓reduceIte]
  rw [hor, Option.bind_some, hmapM _ hclause, hruns]

end Lint

end ChainworksForge.Condition
