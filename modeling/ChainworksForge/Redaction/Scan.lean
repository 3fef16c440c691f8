import ChainworksForge.Redaction.Sanitizer
import Mathlib.Data.List.Find

/-!
# Scanning a text that ends in an assignment

Let a sensitive assignment follow a text.  The scan of the text either reaches the key
of the assignment, or the value of an earlier assignment is still open there: a quoted
one that waits for its quote, or a run that ends at the next separator.  Which of these
it is depends on the text alone, not on what the assignment assigns.
-/

namespace ChainworksForge.Redaction

open ChainworksForge.Support

/-! ## Keys -/

/-- The character before a text, or before that the one before it. -/
def lastOr (previous : Option Char) (text : Text) : Option Char := text.getLast?.or previous

theorem lastOr_append (previous : Option Char) (text later : Text) :
    lastOr previous (text ++ later) = lastOr (lastOr previous text) later := by
  rw [lastOr, List.getLast?_append, Option.or_assoc, ← lastOr, ← lastOr]

theorem lastOr_cons (previous : Option Char) (c : Char) (text : Text) :
    lastOr previous (c :: text) = lastOr (some c) text :=
  lastOr_append previous [c] text

/-- The characters of a key are no boundaries and no separators, and one of them is not
in `bearer`. -/
theorem key_chars {key : Text} (hkey : key ∈ sensitiveAssignmentKeys) :
    key ≠ [] ∧ (∀ c ∈ key, isAssignmentKeyBoundary (some c) = false ∧
      isAssignmentValueBoundary c = false ∧ c ≠ '=' ∧ c ≠ ':' ∧ Text.asciiLower c = c) ∧
    ∃ c ∈ key, c ∉ "bearer".toList ∧ isLabelPunctuation c = false := by
  have hkeys : sensitiveAssignmentKeys.all (fun key => !key.isEmpty &&
      (key.all fun c => !isAssignmentKeyBoundary (some c) && !isAssignmentValueBoundary c &&
        c != '=' && c != ':' && Text.asciiLower c == c) &&
      key.any fun c => !"bearer".toList.contains c && !isLabelPunctuation c) = true := by
    decide
  have hchars := List.all_eq_true.1 hkeys key hkey
  simpa [and_assoc] using hchars

/-- Lower-casing keeps the boundaries. -/
theorem asciiLower_of_keyBoundary {c : Char}
    (h : isAssignmentKeyBoundary (some c) = true) : Text.asciiLower c = c := by
  simp only [isAssignmentKeyBoundary, isAsciiWhitespace, Bool.or_eq_true,
    decide_eq_true_eq] at h
  rcases h with (((((((((((((rfl | rfl) | rfl) | rfl) | rfl) | rfl) | rfl) | rfl) | rfl) | rfl) |
    rfl) | rfl) | rfl) | rfl) <;> decide

theorem asciiLower_of_valueBoundary {c : Char} (h : isAssignmentValueBoundary c = true) :
    Text.asciiLower c = c := by
  simp only [isAssignmentValueBoundary, isAsciiWhitespace, Bool.or_eq_true,
    decide_eq_true_eq] at h
  rcases h with ((((((((((((rfl | rfl) | rfl) | rfl) | rfl) | rfl) | rfl) | rfl) | rfl) | rfl) |
    rfl) | rfl) | rfl) <;> decide

variable {p t text key : Text} {previous : Option Char}

/-- A key does not reach over a boundary. -/
theorem not_startsWith_of_length_le (hkey : key ∈ sensitiveAssignmentKeys) {last : Char}
    (hlast : p.getLast? = some last) (hboundary : isAssignmentKeyBoundary (some last) = true)
    (hlength : p.length ≤ key.length) : Text.startsWith (lower (p ++ t)) key = false := by
  rw [Bool.eq_false_iff]
  intro hstarts
  have hleft : key <+: lower p ++ lower t := by
    rw [← List.isPrefixOf_iff_prefix, lower, lower, ← List.map_append]
    exact hstarts
  have hwithin : lower p <+: key :=
    List.prefix_of_prefix_length_le (List.prefix_append _ _) hleft
      (by rw [lower, List.length_map]; exact hlength)
  have hmem : Text.asciiLower last ∈ key :=
    hwithin.subset (List.mem_map_of_mem (List.mem_of_getLast? hlast))
  rw [asciiLower_of_keyBoundary hboundary] at hmem
  rw [((key_chars hkey).2.1 last hmem).1] at hboundary
  cases hboundary

/-- What is matched in front of a boundary lies in front of it. -/
theorem matchedKey_append {last : Char} (hlast : p.getLast? = some last)
    (hboundary : isAssignmentKeyBoundary (some last) = true) :
    matchedKey previous (p ++ t) = matchedKey previous p := by
  refine List.find?_congr fun key hkey => ?_
  by_cases hlength : p.length ≤ key.length
  · have hnone := not_startsWith_of_length_le (t := []) hkey hlast hboundary hlength
    rw [List.append_nil] at hnone
    rw [not_startsWith_of_length_le hkey hlast hboundary hlength, hnone]
    rfl
  · have hstarts : Text.startsWith (lower (p ++ t)) key = Text.startsWith (lower p) key := by
      rw [Bool.eq_iff_iff, Text.startsWith, Text.startsWith, List.isPrefixOf_iff_prefix,
        List.isPrefixOf_iff_prefix, lower, lower, List.map_append]
      constructor
      · intro hleft
        exact List.prefix_of_prefix_length_le hleft (List.prefix_append _ _)
          (by rw [List.length_map]; omega)
      · exact fun hleft => hleft.trans (List.prefix_append _ _)
    have hhead : ((p ++ t).drop key.length).head? = (p.drop key.length).head? := by
      rw [List.drop_append_of_le_length (by omega), List.head?_append_of_ne_nil]
      intro hnil
      rw [List.drop_eq_nil_iff] at hnil
      exact hlength hnil
    rw [hstarts, hhead]

theorem matchedKey_mem (h : matchedKey previous text = some key) :
    key ∈ sensitiveAssignmentKeys :=
  List.mem_of_find?_eq_some h

theorem length_lt_of_matchedKey (h : matchedKey previous text = some key) :
    key.length < text.length := by
  have hmatch := List.find?_some h
  simp only [Bool.and_eq_true, Bool.or_eq_true, decide_eq_true_eq] at hmatch
  by_contra hlong
  rw [List.drop_eq_nil_of_le (by omega)] at hmatch
  rcases hmatch.2 with hnone | hnone <;> cases hnone

/-! ## Values -/

/-- The rest of a text after a value: it starts with a boundary, or the value ended with
a quote. -/
def EndsValue (quote : Char) (text rest : Text) : Prop :=
  ∃ value, text = value ++ rest ∧
    ((∀ c ∈ rest.head?, isAssignmentValueBoundary c = true) ∨ value.getLast? = some quote)

/-- No key starts with a boundary of a value, so what precedes it does not matter. -/
theorem redactFrom_of_boundary {rest : Text}
    (h : ∀ c ∈ rest.head?, isAssignmentValueBoundary c = true) (a b : Option Char) :
    redactFrom 0 a rest = redactFrom 0 b rest := by
  cases rest with
  | nil => rfl
  | cons c rest =>
      have hnone (previous : Option Char) : matchedKey previous (c :: rest) = none := by
        refine List.find?_eq_none.2 fun key hkey hmatch => ?_
        simp only [Bool.and_eq_true] at hmatch
        obtain ⟨d, key, rfl⟩ := List.exists_cons_of_ne_nil (key_chars hkey).1
        have hleft := List.isPrefixOf_iff_prefix.1 hmatch.1.1
        rw [lower, List.map_cons, List.cons_prefix_cons,
          asciiLower_of_valueBoundary (h c rfl)] at hleft
        have hchar := ((key_chars hkey).2.1 d List.mem_cons_self).2.1
        rw [hleft.1, h c rfl] at hchar
        cases hchar
      rw [redactFrom, redactFrom, hnone, hnone]

/-- The scan after a value. -/
theorem redactFrom_append (value rest : Text) (covered : ℕ) (previous : Option Char) :
    redactFrom (value.length + covered) previous (value ++ rest) =
      redactFrom covered (lastOr previous value) rest := by
  induction value generalizing previous with
  | nil => simp [lastOr]
  | cons c value ih =>
      rw [List.length_cons, Nat.add_right_comm, List.cons_append, redactFrom, ih,
        ← lastOr_cons previous]

/-- What follows a value is scanned the same, whatever the value was. -/
theorem redactFrom_of_endsValue {quote : Char} {text text' rest : Text}
    (h : EndsValue quote text rest) (h' : EndsValue quote text' rest) (a b : Option Char) :
    redactFrom (text.length - rest.length) a text =
      redactFrom (text'.length - rest.length) b text' := by
  obtain ⟨value, rfl, hends⟩ := h
  obtain ⟨value', rfl, hends'⟩ := h'
  have hlength : (value ++ rest).length - rest.length = value.length + 0 := by
    rw [List.length_append]
    omega
  have hlength' : (value' ++ rest).length - rest.length = value'.length + 0 := by
    rw [List.length_append]
    omega
  rw [hlength, hlength', redactFrom_append, redactFrom_append]
  rcases hends with hstart | hlast
  · exact redactFrom_of_boundary hstart _ _
  · rcases hends' with hstart | hlast'
    · exact redactFrom_of_boundary hstart _ _
    · rw [lastOr, lastOr, hlast, hlast']
      rfl

theorem EndsValue.append_left {quote : Char} {text rest : Text} (front : Text)
    (h : EndsValue quote text rest) : EndsValue quote (front ++ text) rest := by
  obtain ⟨value, rfl, hends⟩ := h
  refine ⟨front ++ value, (List.append_assoc _ _ _).symm, hends.imp_right fun hlast => ?_⟩
  rw [List.getLast?_append, hlast]
  rfl

theorem endsValue_skipRun (quote : Char) (text : Text) :
    EndsValue quote text (skipRun text) := by
  refine ⟨_, List.takeWhile_append_dropWhile.symm, .inl fun c hc => ?_⟩
  have hhead := List.head?_dropWhile_not (fun c => !isAssignmentValueBoundary c) text
  rw [skipRun] at hc
  rw [Option.mem_def.1 hc] at hhead
  simpa using hhead

theorem endsValue_skipQuoted (quote : Char) (text : Text) :
    EndsValue quote text ((text.dropWhile fun c => c ≠ quote).drop 1) := by
  cases hrest : text.dropWhile fun c => c ≠ quote with
  | nil => exact ⟨text, (List.append_nil text).symm, .inl fun c hc => by cases hc⟩
  | cons c rest =>
      have hhead := List.head?_dropWhile_not (fun c => decide (c ≠ quote)) text
      rw [hrest] at hhead
      obtain rfl : c = quote := by simpa using hhead
      refine ⟨text.takeWhile (fun d => d ≠ c) ++ [c], ?_, .inr List.getLast?_concat⟩
      conv_lhs => rw [← List.takeWhile_append_dropWhile (p := fun d => decide (d ≠ c)) (l := text)]
      rw [hrest, List.append_assoc]
      rfl

/-! ## Open values -/

/-- What the value of an earlier assignment waits for. -/
inductive Enclosure where
  | run
  | quoted (quote : Char) (hquote : isQuote quote = true)

/-- The text after an open value. -/
def Enclosure.skip : Enclosure → Text → Text
  | run, text => skipRun text
  | quoted quote _, text => (text.dropWhile fun c => c ≠ quote).drop 1

/-- A class of characters is left inside a text, or all of the text is in it. -/
theorem span_append_cases (q : Char → Bool) (w : Text) :
    (∃ taken left, left ≠ [] ∧ w = taken ++ left ∧
      ∀ t, (w ++ t).takeWhile q = taken ∧ (w ++ t).dropWhile q = left ++ t) ∨
    ∀ t, (w ++ t).takeWhile q = w ++ t.takeWhile q ∧ (w ++ t).dropWhile q = t.dropWhile q := by
  by_cases hall : ∀ c ∈ w, q c = true
  · exact .inr fun t =>
      ⟨List.takeWhile_append_of_pos hall, List.dropWhile_append_of_pos hall⟩
  · have hleft : w.dropWhile q ≠ [] := fun hnil => hall (List.dropWhile_eq_nil_iff.1 hnil)
    refine .inl ⟨w.takeWhile q, w.dropWhile q, hleft,
      List.takeWhile_append_dropWhile.symm, fun t => ⟨?_, ?_⟩⟩
    · rw [List.takeWhile_append, if_neg]
      intro hlength
      have hwhole := congrArg List.length (List.takeWhile_append_dropWhile (p := q) (l := w))
      rw [List.length_append] at hwhole
      exact hleft (List.eq_nil_of_length_eq_zero (by omega))
    · rw [List.dropWhile_append, if_neg]
      rw [List.isEmpty_iff]
      exact hleft

variable (hkey : lower key ∈ sensitiveAssignmentKeys)

include hkey

theorem not_valueBoundary_of_mem {c : Char} (hc : c ∈ key) :
    isAssignmentValueBoundary c = false := by
  rw [Bool.eq_false_iff]
  intro hboundary
  have hmem : Text.asciiLower c ∈ lower key := List.mem_map_of_mem hc
  rw [asciiLower_of_valueBoundary hboundary] at hmem
  rw [((key_chars hkey).2.1 c hmem).2.1] at hboundary
  cases hboundary

theorem key_ne_nil : key ≠ [] := by
  rintro rfl
  exact (key_chars hkey).1 rfl

/-- A key stands in front of any value as part of it. -/
theorem skipRun_key (rest : Text) : skipRun (key ++ rest) = skipRun rest :=
  List.dropWhile_append_of_pos fun c hc => by
    rw [not_valueBoundary_of_mem hkey hc]
    rfl

theorem takeRun_key (rest : Text) :
    (key ++ rest).takeWhile (fun c => !isAssignmentValueBoundary c) =
      key ++ rest.takeWhile fun c => !isAssignmentValueBoundary c :=
  List.takeWhile_append_of_pos fun c hc => by
    rw [not_valueBoundary_of_mem hkey hc]
    rfl

theorem dropSpace_key (rest : Text) :
    (key ++ rest).dropWhile isAsciiWhitespace = key ++ rest := by
  obtain ⟨c, later, rfl⟩ := List.exists_cons_of_ne_nil (key_ne_nil hkey)
  have hc := not_valueBoundary_of_mem hkey (List.mem_cons_self (a := c))
  refine List.dropWhile_cons_of_neg fun hspace => ?_
  rw [isAssignmentValueBoundary, hspace] at hc
  cases hc

/-- A word with a key in it is not `bearer`. -/
theorem isBearer_of_key (text rest : Text) : isBearer (text ++ (key ++ rest)) = false := by
  obtain ⟨c, hc, hother, hlabel⟩ := (key_chars hkey).2.2
  rw [isBearer, decide_eq_false_iff_not]
  intro hbearer
  refine hother ?_
  rw [← hbearer]
  have hmem : c ∈ lower (text ++ (key ++ rest)) := by
    simp only [lower, List.map_append, List.mem_append]
    exact .inr (.inl hc)
  -- trimming takes punctuation only
  have htrimmed {l : Text} (h : c ∈ l) : c ∈ l.dropWhile isLabelPunctuation := by
    rw [← List.takeWhile_append_dropWhile (p := isLabelPunctuation) (l := l)] at h
    rcases List.mem_append.1 h with htaken | hleft
    · rw [List.mem_takeWhile_imp htaken] at hlabel
      cases hlabel
    · exact hleft
  rw [Text.trimMatches, List.rdropWhile, List.mem_reverse]
  exact htrimmed (List.mem_reverse.2 (htrimmed hmem))

/-- The value of an assignment in front of a key ends there, or it is open. -/
theorem skipSensitiveAssignmentValue_append (outer w : Text) :
    (∃ later, later <:+ w ∧ ∀ rest, skipSensitiveAssignmentValue outer (w ++ (key ++ rest)) =
      later ++ (key ++ rest)) ∨
    ∃ enclosure : Enclosure, ∀ rest, skipSensitiveAssignmentValue outer (w ++ (key ++ rest)) =
      enclosure.skip (key ++ rest) := by
  rcases span_append_cases isAsciiWhitespace w with ⟨space, word, hword, rfl, hspan⟩ | hspan
  · obtain ⟨c, word, rfl⟩ := List.exists_cons_of_ne_nil hword
    have hvalue (t : Text) : ((space ++ c :: word) ++ t).dropWhile isAsciiWhitespace =
        c :: (word ++ t) := (hspan t).2
    by_cases hquote : isQuote c = true
    · -- a quoted value ends at its quote, or waits for it
      rcases span_append_cases (fun d => d ≠ c) word with
        ⟨quoted, later, hlater, rfl, hcut⟩ | hopen
      · refine .inl ⟨later.drop 1, ?_, fun rest => ?_⟩
        · exact ((List.drop_suffix 1 later).trans (List.suffix_append quoted later)).trans
            ((List.suffix_cons c _).trans (List.suffix_append space _))
        · rw [skipSensitiveAssignmentValue, hvalue]
          dsimp only
          rw [if_pos hquote, (hcut _).2, List.drop_append_of_le_length]
          exact List.length_pos_of_ne_nil hlater
      · refine .inr ⟨.quoted c hquote, fun rest => ?_⟩
        rw [skipSensitiveAssignmentValue, hvalue]
        dsimp only
        rw [if_pos hquote, (hopen _).2, Enclosure.skip]
    · rcases span_append_cases (fun d => !isAssignmentValueBoundary d) (c :: word) with
        ⟨first, later, hlater, hword, hcut⟩ | hopen
      · -- the first word of the value ends in front of the key
        have hsuffix : later <:+ space ++ c :: word := by
          rw [hword]
          exact (List.suffix_append first later).trans (List.suffix_append space _)
        by_cases hscheme :
            (decide (outer = "authorization".toList) && isBearer first) = true
        · rcases span_append_cases isAsciiWhitespace later with
            ⟨gap, second, hsecond, hgap, hskip⟩ | hskip
          · rcases span_append_cases (fun d => !isAssignmentValueBoundary d) second with
              ⟨credential, after, hafter, hcredential, hend⟩ | hend
            · refine .inl ⟨after, ?_, fun rest => ?_⟩
              · rw [hgap, hcredential] at hsuffix
                exact ((List.suffix_append credential after).trans
                  (List.suffix_append gap _)).trans hsuffix
              · rw [skipSensitiveAssignmentValue, hvalue]
                dsimp only
                rw [if_neg hquote, ← List.cons_append, (hcut _).1, if_pos hscheme, skipRun,
                  skipRun, (hcut _).2, (hskip _).2, (hend _).2]
            · refine .inr ⟨.run, fun rest => ?_⟩
              rw [skipSensitiveAssignmentValue, hvalue]
              dsimp only
              rw [if_neg hquote, ← List.cons_append, (hcut _).1, if_pos hscheme, skipRun,
                skipRun, (hcut _).2, (hskip _).2, (hend _).2, Enclosure.skip, skipRun]
          · refine .inr ⟨.run, fun rest => ?_⟩
            rw [skipSensitiveAssignmentValue, hvalue]
            dsimp only
            rw [if_neg hquote, ← List.cons_append, (hcut _).1, if_pos hscheme, skipRun,
              skipRun, (hcut _).2, (hskip _).2, dropSpace_key hkey, Enclosure.skip, skipRun]
        · refine .inl ⟨later, hsuffix, fun rest => ?_⟩
          rw [skipSensitiveAssignmentValue, hvalue]
          dsimp only
          rw [if_neg hquote, ← List.cons_append, (hcut _).1, if_neg hscheme, skipRun,
            (hcut _).2]
      · -- the first word of the value runs into the key
        refine .inr ⟨.run, fun rest => ?_⟩
        rw [skipSensitiveAssignmentValue, hvalue]
        dsimp only
        rw [if_neg hquote, ← List.cons_append, (hopen _).1, takeRun_key hkey,
          isBearer_of_key hkey, Bool.and_false, if_neg Bool.false_ne_true, skipRun,
          (hopen _).2, Enclosure.skip, skipRun]
  · -- the value is the key itself and what follows it
    refine .inr ⟨.run, fun rest => ?_⟩
    obtain ⟨c, later, rfl⟩ := List.exists_cons_of_ne_nil (key_ne_nil hkey)
    have hquote : isQuote c = false := by
      have hc := not_valueBoundary_of_mem hkey (List.mem_cons_self (a := c))
      rw [Bool.eq_false_iff]
      intro hquote
      rw [isQuote, Bool.or_eq_true, decide_eq_true_eq, decide_eq_true_eq] at hquote
      rcases hquote with rfl | rfl <;> cases hc
    rw [skipSensitiveAssignmentValue, (hspan _).2, dropSpace_key hkey, List.cons_append]
    dsimp only
    rw [if_neg (Bool.eq_false_iff.1 hquote), ← List.cons_append, takeRun_key hkey, if_neg,
      Enclosure.skip]
    rw [← List.nil_append (_ ++ _), isBearer_of_key hkey, Bool.and_false]
    exact Bool.false_ne_true

omit hkey

/-! ## The scan in front of a text -/

/-- What the scan writes for a text in front of another one, and the number of
characters of the other one that the last assignment covers. -/
def scanBefore (covered : ℕ) (previous : Option Char) (later : Text) : Text → Text × ℕ
  | [] => ([], covered)
  | c :: rest =>
      match covered with
      | covered + 1 => scanBefore covered (some c) later rest
      | 0 =>
          match matchedKey previous (c :: rest ++ later) with
          | some key =>
              let scan := scanBefore (assignmentLength key (c :: rest ++ later) - 1) (some c)
                later rest
              ((c :: rest ++ later).take (key.length + 1) ++ redactedMark ++ scan.1, scan.2)
          | none =>
              let scan := scanBefore 0 (some c) later rest
              (c :: scan.1, scan.2)

theorem redactFrom_eq_scanBefore (covered : ℕ) (previous : Option Char) (text later : Text) :
    redactFrom covered previous (text ++ later) =
      (scanBefore covered previous later text).1 ++
        redactFrom (scanBefore covered previous later text).2 (lastOr previous text) later := by
  induction text generalizing covered previous with
  | nil => rfl
  | cons c text ih =>
      rw [List.cons_append, lastOr_cons]
      cases covered with
      | succ covered => exact ih covered (some c)
      | zero =>
          rw [redactFrom, scanBefore, List.cons_append]
          dsimp only
          cases matchedKey previous (c :: (text ++ later)) with
          | none =>
              dsimp only
              rw [ih, List.cons_append]
          | some key =>
              dsimp only
              rw [ih, List.append_assoc, List.append_assoc, List.append_assoc]

theorem scanBefore_append (value text later : Text) (covered : ℕ) (previous : Option Char) :
    scanBefore (value.length + covered) previous later (value ++ text) =
      scanBefore covered (lastOr previous value) later text := by
  induction value generalizing previous with
  | nil => simp [lastOr]
  | cons c value ih =>
      rw [List.length_cons, Nat.add_right_comm, List.cons_append, scanBefore, ih,
        ← lastOr_cons previous]

theorem length_skip_le (enclosure : Enclosure) (text : Text) :
    (enclosure.skip text).length ≤ text.length := by
  cases enclosure with
  | run => exact (List.dropWhile_suffix _).length_le
  | quoted quote hquote =>
      exact ((List.drop_suffix 1 _).trans (List.dropWhile_suffix _)).length_le

/-- The number of characters of a text that an open value covers. -/
def coveredBy (enclosure : Option Enclosure) (text : Text) : ℕ :=
  enclosure.elim 0 fun enclosure => text.length - (enclosure.skip text).length

include hkey in
/-- In front of a key the scan of a text writes the same, and the same value is open,
whatever follows the key. -/
theorem scanBefore_eq (text : Text) (previous : Option Char)
    (hboundary : isAssignmentKeyBoundary (lastOr previous text) = true) :
    ∃ written enclosure, ∀ rest, scanBefore 0 previous (key ++ rest) text =
      (written, coveredBy enclosure (key ++ rest)) := by
  induction hlength : text.length using Nat.strong_induction_on generalizing text previous with
  | _ n ih =>
    subst hlength
    cases text with
    | nil => exact ⟨[], none, fun _ => rfl⟩
    | cons c text =>
        obtain ⟨last, hlast⟩ : ∃ last, (c :: text).getLast? = some last :=
          ⟨_, List.getLast?_eq_some_getLast (List.cons_ne_nil c text)⟩
        have hlastBoundary : isAssignmentKeyBoundary (some last) = true := by
          rw [lastOr, hlast] at hboundary
          exact hboundary
        have hmatched (rest : Text) : matchedKey previous (c :: text ++ (key ++ rest)) =
            matchedKey previous (c :: text) := matchedKey_append hlast hlastBoundary
        rw [lastOr_cons] at hboundary
        cases hkind : matchedKey previous (c :: text) with
        | none =>
            obtain ⟨written, enclosure, hscan⟩ :=
              ih text.length (Nat.lt_succ_self _) text (some c) hboundary rfl
            refine ⟨c :: written, enclosure, fun rest => ?_⟩
            rw [scanBefore]
            dsimp only
            rw [hmatched, hkind]
            dsimp only
            rw [hscan]
        | some outer =>
            have hshort := length_lt_of_matchedKey hkind
            have htake (rest : Text) : (c :: text ++ (key ++ rest)).take (outer.length + 1) =
                (c :: text).take (outer.length + 1) :=
              List.take_append_of_le_length hshort
            have hdrop (rest : Text) : (c :: text ++ (key ++ rest)).drop (outer.length + 1) =
                (c :: text).drop (outer.length + 1) ++ (key ++ rest) :=
              List.drop_append_of_le_length hshort
            rcases skipSensitiveAssignmentValue_append hkey outer
              ((c :: text).drop (outer.length + 1)) with ⟨later, hlater, hskip⟩ | ⟨enclosure, hskip⟩
            · -- the value ends in the text, and the scan goes on behind it
              obtain ⟨value, rfl⟩ : ∃ value, text = value ++ later := by
                obtain ⟨value, hvalue⟩ := hlater
                refine ⟨text.take outer.length ++ value, ?_⟩
                rw [List.append_assoc, hvalue, List.drop_succ_cons, List.take_append_drop]
              rw [lastOr_append] at hboundary
              obtain ⟨written, enclosure, hscan⟩ := ih later.length
                (by rw [List.length_cons, List.length_append]; omega) later
                (lastOr (some c) value) hboundary rfl
              refine ⟨(c :: (value ++ later)).take (outer.length + 1) ++ redactedMark ++ written,
                enclosure, fun rest => ?_⟩
              have hcovers : assignmentLength outer (c :: (value ++ later) ++ (key ++ rest)) - 1 =
                  value.length + 0 := by
                rw [assignmentLength, hdrop, hskip]
                simp only [List.length_append, List.length_cons]
                omega
              rw [scanBefore]
              dsimp only
              rw [hmatched, hkind]
              dsimp only
              rw [hcovers, scanBefore_append, hscan, htake]
            · -- the value covers the rest of the text
              refine ⟨(c :: text).take (outer.length + 1) ++ redactedMark, some enclosure,
                fun rest => ?_⟩
              have hle := length_skip_le enclosure (key ++ rest)
              have hcovers : assignmentLength outer (c :: text ++ (key ++ rest)) - 1 =
                  text.length + coveredBy (some enclosure) (key ++ rest) := by
                rw [assignmentLength, hdrop, hskip, coveredBy, Option.elim_some]
                simp only [List.length_append, List.length_cons] at hle ⊢
                omega
              have hscan := scanBefore_append text [] (key ++ rest)
                (coveredBy (some enclosure) (key ++ rest)) (some c)
              rw [List.append_nil, scanBefore] at hscan
              rw [scanBefore]
              dsimp only
              rw [hmatched, hkind]
              dsimp only
              rw [hcovers, hscan, htake, List.append_nil]

/-! ## Texts that an open value covers -/

/-- The quote that ends an open value. -/
def Enclosure.quote : Enclosure → Char
  | run => ' '
  | quoted quote _ => quote

theorem endsValue_skip (enclosure : Enclosure) (text : Text) :
    EndsValue enclosure.quote text (enclosure.skip text) := by
  cases enclosure with
  | run => exact endsValue_skipRun _ text
  | quoted quote hquote => exact endsValue_skipQuoted quote text

include hkey in
/-- An open value covers at least one character of a key. -/
theorem coveredBy_pos (enclosure : Enclosure) (rest : Text) :
    0 < coveredBy (some enclosure) (key ++ rest) := by
  obtain ⟨c, front, rfl⟩ := List.exists_cons_of_ne_nil (key_ne_nil hkey)
  rw [coveredBy, Option.elim_some, Nat.sub_pos_iff_lt]
  cases enclosure with
  | run =>
      have hle := (List.dropWhile_suffix (fun c => !isAssignmentValueBoundary c)
        (l := rest)).length_le
      rw [Enclosure.skip, skipRun_key hkey, skipRun, List.length_append, List.length_cons]
      omega
  | quoted quote hquote =>
      have hle := (List.dropWhile_suffix (fun d => decide (d ≠ quote))
        (l := c :: front ++ rest)).length_le
      rw [List.length_append, List.length_cons] at hle
      rw [Enclosure.skip, List.length_drop, List.length_append, List.length_cons]
      omega

/-- An open value that covers a text, and does not end with the last character of it,
goes on behind it. -/
theorem skip_of_covered {enclosure : Enclosure} {text after : Text}
    (hcovered : (enclosure.skip (text ++ after)).length ≤ after.length)
    (hends : ∀ quote front, isQuote quote = true → text = front ++ [quote] → quote ∈ front) :
    enclosure.skip (text ++ after) = enclosure.skip after := by
  cases enclosure with
  | run =>
      rcases span_append_cases (fun c => !isAssignmentValueBoundary c) text with
        ⟨taken, left, hleft, -, hspan⟩ | hspan
      · rw [Enclosure.skip, skipRun, (hspan after).2, List.length_append] at hcovered
        exact absurd (List.length_pos_of_ne_nil hleft) (by omega)
      · exact (hspan after).2
  | quoted quote hquote =>
      rcases span_append_cases (fun c => c ≠ quote) text with
        ⟨taken, left, hleft, rfl, hspan⟩ | hspan
      · -- the quote would be the last character of the text
        obtain ⟨c, left, rfl⟩ := List.exists_cons_of_ne_nil hleft
        rw [Enclosure.skip, (hspan after).2, List.cons_append, List.drop_succ_cons,
          List.drop_zero, List.length_append] at hcovered
        obtain rfl : left = [] := List.eq_nil_of_length_eq_zero (by omega)
        have htaken := (hspan []).1
        have hrest := (hspan []).2
        rw [List.append_nil] at htaken hrest
        have hhead := List.head?_dropWhile_not (fun c => decide (c ≠ quote)) (taken ++ [c])
        rw [hrest] at hhead
        obtain rfl : c = quote := by simpa using hhead
        have hmem := hends c taken hquote rfl
        rw [← htaken] at hmem
        have hother := List.mem_takeWhile_imp hmem
        simp at hother
      · rw [Enclosure.skip, (hspan after).2, Enclosure.skip]

end ChainworksForge.Redaction
