import ChainworksForge.Redaction.Scan

/-!
# The output does not depend on the secret

Two error texts differ in the value of one sensitive assignment.  Their outputs are the
same where the scan covers the value: it reaches the key and the value is one that it
recognises, or an earlier value that is still open covers the assignment as well.

A credential after another scheme than `bearer` is not covered, and neither is a quoted
value behind an earlier value that ends at its opening quote.
-/

namespace ChainworksForge.Redaction

open ChainworksForge.Support

/-! ## Assignments of a secret -/

/-- How a secret is written. -/
inductive SecretForm where
  | quoted (quote : Char)
  | unquoted
  | credential (scheme gap : Text)

/-- The value of an assignment. -/
def SecretForm.value (secret : Text) : SecretForm → Text
  | quoted quote => quote :: (secret ++ [quote])
  | unquoted => secret
  | credential scheme gap => scheme ++ (gap ++ secret)

/-- The secrets that can be written in a form. -/
def SecretForm.Fits (secret : Text) : SecretForm → Prop
  | quoted quote => quote ∉ secret
  | unquoted => secret ≠ [] ∧ ∀ c ∈ secret, isAssignmentValueBoundary c = false
  | credential _ _ => secret ≠ [] ∧ ∀ c ∈ secret, isAssignmentValueBoundary c = false

/-- A sensitive assignment and the text around it. -/
structure SensitiveAssignment where
  before : Text
  key : Text
  separator : Char
  space : Text
  form : SecretForm
  after : Text

namespace SensitiveAssignment

variable (a : SensitiveAssignment)

/-- The assignment up to the end of its value. -/
def text (secret : Text) : Text :=
  a.key ++ (a.separator :: (a.space ++ a.form.value secret))

/-- The error text with a secret. -/
def errorText (secret : Text) : Text := a.before ++ (a.text secret ++ a.after)

/-- A credential follows the key `authorization` and a scheme. -/
def FormFits : Prop :=
  match a.form with
  | .quoted quote => isQuote quote = true
  | .unquoted => True
  | .credential scheme gap => lower a.key = "authorization".toList ∧ scheme ≠ [] ∧
      (∀ c ∈ scheme, isAssignmentValueBoundary c = false) ∧ gap ≠ [] ∧
      ∀ c ∈ gap, isAsciiWhitespace c = true

/-- A key of any case at a boundary, a separator, and a value. -/
structure WellFormed : Prop where
  key : lower a.key ∈ sensitiveAssignmentKeys
  boundary : isAssignmentKeyBoundary a.before.getLast? = true
  separator : a.separator = '=' ∨ a.separator = ':'
  space : ∀ c ∈ a.space, isAsciiWhitespace c = true
  form : a.FormFits

/-- The number of characters after the text before the assignment that the value of an
earlier assignment covers. -/
def openBefore (secret : Text) : ℕ :=
  (scanBefore 0 none (a.text secret ++ a.after) a.before).2

/-- The first word of an unquoted value, with what follows the secret in it. -/
def firstWord (secret : Text) : Text :=
  secret ++ a.after.takeWhile fun c => !isAssignmentValueBoundary c

/-- The scan recognises the values of both secrets, from the key on: a credential has
the scheme `bearer`, and an unquoted authorization is not taken for the scheme with one
of the secrets only. -/
def Recognised (secret secret' : Text) : Prop :=
  match a.form with
  | .quoted _ => True
  | .unquoted => lower a.key = "authorization".toList →
      isBearer (a.firstWord secret) = isBearer (a.firstWord secret')
  | .credential scheme _ => isBearer scheme = true

/-- The scan covers both secrets. -/
def Covers (secret secret' : Text) : Prop :=
  (a.openBefore secret = 0 ∧ a.openBefore secret' = 0 ∧ a.Recognised secret secret') ∨
    ((a.text secret).length ≤ a.openBefore secret ∧
      (a.text secret').length ≤ a.openBefore secret')

end SensitiveAssignment

theorem valueBoundary_of_whitespace {c : Char} (h : isAsciiWhitespace c = true) :
    isAssignmentValueBoundary c = true := by
  rw [isAssignmentValueBoundary, h]
  rfl

/-- A word that starts with no boundary starts with no space and no quote. -/
theorem not_space_of_not_boundary {c : Char} (h : isAssignmentValueBoundary c = false) :
    isAsciiWhitespace c = false ∧ isQuote c = false := by
  constructor
  · rw [Bool.eq_false_iff]
    intro hspace
    rw [valueBoundary_of_whitespace hspace] at h
    cases h
  · rw [Bool.eq_false_iff]
    intro hquote
    rw [isQuote, Bool.or_eq_true, decide_eq_true_eq, decide_eq_true_eq] at hquote
    rcases hquote with rfl | rfl <;> cases h

/-! ## The value of a recognised assignment -/

/-- The rest of the text after a quoted value. -/
theorem skipValue_quoted {outer space secret after : Text} {quote : Char}
    (hspace : ∀ c ∈ space, isAsciiWhitespace c = true) (hquote : isQuote quote = true)
    (hfits : quote ∉ secret) :
    skipSensitiveAssignmentValue outer (space ++ (quote :: (secret ++ [quote]) ++ after)) =
      after := by
  have hword : isAsciiWhitespace quote = false := by
    rw [isQuote, Bool.or_eq_true, decide_eq_true_eq, decide_eq_true_eq] at hquote
    rcases hquote with rfl | rfl <;> rfl
  rw [skipSensitiveAssignmentValue, List.dropWhile_append_of_pos hspace, List.cons_append,
    List.dropWhile_cons_of_neg (Bool.eq_false_iff.1 hword)]
  dsimp only
  rw [if_pos hquote, List.append_assoc, List.dropWhile_append_of_pos, List.singleton_append,
    List.dropWhile_cons_of_neg, List.drop_succ_cons, List.drop_zero]
  · simp
  · intro c hc
    refine decide_eq_true ?_
    rintro rfl
    exact hfits hc

/-- The rest of the text after an unquoted value, which starts with a word. -/
theorem skipValue_word {outer space word later : Text}
    (hspace : ∀ c ∈ space, isAsciiWhitespace c = true) (hne : word ≠ [])
    (hword : ∀ c ∈ word, isAssignmentValueBoundary c = false) :
    skipSensitiveAssignmentValue outer (space ++ (word ++ later)) =
      if (decide (outer = "authorization".toList) &&
          isBearer (word ++ later.takeWhile fun c => !isAssignmentValueBoundary c)) = true then
        skipRun ((skipRun later).dropWhile isAsciiWhitespace)
      else skipRun later := by
  obtain ⟨c, word, rfl⟩ := List.exists_cons_of_ne_nil hne
  obtain ⟨hfirst, hquote⟩ := not_space_of_not_boundary (hword c List.mem_cons_self)
  have hrun : ∀ d ∈ c :: word, (!isAssignmentValueBoundary d) = true := by
    intro d hd
    rw [hword d hd]
    rfl
  rw [skipSensitiveAssignmentValue, List.dropWhile_append_of_pos hspace, List.cons_append,
    List.dropWhile_cons_of_neg (Bool.eq_false_iff.1 hfirst)]
  dsimp only
  rw [if_neg (Bool.eq_false_iff.1 hquote), ← List.cons_append,
    List.takeWhile_append_of_pos hrun, skipRun, skipRun, List.dropWhile_append_of_pos hrun]
  rfl

/-! ## The key is reached -/

section Reached

variable {a : SensitiveAssignment} {secret secret' : Text} (hformed : a.WellFormed)

include hformed

theorem separator_not_in_key {key : Text} (hkey : key ∈ sensitiveAssignmentKeys) :
    a.separator ∉ key := by
  intro hmem
  have hchar := (key_chars hkey).2.1 a.separator hmem
  rcases hformed.separator with hseparator | hseparator
  · exact hchar.2.2.1 hseparator
  · exact hchar.2.2.2.1 hseparator

/-- The scan matches the key of the assignment and no other. -/
theorem matchedKey_assignment {previous : Option Char}
    (hboundary : isAssignmentKeyBoundary previous = true) (rest : Text) :
    matchedKey previous (a.key ++ (a.separator :: rest)) = some (lower a.key) := by
  have hlength : (lower a.key).length = a.key.length := List.length_map _
  have hmatch : (matchedKey previous (a.key ++ (a.separator :: rest))).isSome = true := by
    refine List.find?_isSome.2 ⟨lower a.key, hformed.key, ?_⟩
    rw [hlength, List.drop_left, List.head?_cons, hboundary, Text.startsWith]
    have hleft : (lower a.key).isPrefixOf (lower (a.key ++ (a.separator :: rest))) =
        true := by
      rw [List.isPrefixOf_iff_prefix, lower, lower, List.map_append]
      exact List.prefix_append _ _
    rw [hleft]
    rcases hformed.separator with hseparator | hseparator <;> rw [hseparator] <;> rfl
  obtain ⟨found, hfound⟩ := Option.isSome_iff_exists.1 hmatch
  have hkeys := matchedKey_mem hfound
  have hfits := List.find?_some hfound
  simp only [Bool.and_eq_true, Bool.or_eq_true, decide_eq_true_eq] at hfits
  obtain ⟨⟨hstarts, -⟩, hhead⟩ := hfits
  have hleft : found <+: (lower a.key ++ [a.separator]) ++ rest.map Text.asciiLower := by
    have hseparator : Text.asciiLower a.separator = a.separator := by
      rcases hformed.separator with hseparator | hseparator <;> rw [hseparator] <;> rfl
    have hstarts := List.isPrefixOf_iff_prefix.1 hstarts
    rwa [lower, List.map_append, List.map_cons, hseparator, ← lower,
      List.append_cons] at hstarts
  rw [hfound]
  rcases Nat.lt_trichotomy found.length a.key.length with hshort | hsame | hlong
  · -- a character of the key would be a separator
    rw [List.drop_append_of_le_length (by omega)] at hhead
    obtain ⟨c, later, hdrop⟩ := List.exists_cons_of_ne_nil
      (fun hnil => absurd (List.drop_eq_nil_iff.1 hnil) (Nat.not_le.2 hshort))
    rw [hdrop, List.cons_append, List.head?_cons] at hhead
    have hmem : Text.asciiLower c ∈ lower a.key :=
      List.mem_map_of_mem (List.mem_of_mem_drop (hdrop ▸ List.mem_cons_self))
    have hchar := (key_chars hformed.key).2.1 _ hmem
    rcases hhead with hequals | hcolon
    · rw [Option.some.inj hequals] at hchar
      exact absurd rfl hchar.2.2.1
    · rw [Option.some.inj hcolon] at hchar
      exact absurd rfl hchar.2.2.2.1
  · rw [List.append_assoc] at hleft
    have hwithin : found <+: lower a.key :=
      List.prefix_of_prefix_length_le hleft (List.prefix_append _ _) (by omega)
    rw [hwithin.eq_of_length (by omega)]
  · -- the separator would be a character of the key that was found
    have hwithin : lower a.key ++ [a.separator] <+: found :=
      List.prefix_of_prefix_length_le (List.prefix_append _ _) hleft
        (by rw [List.length_append, List.length_singleton]; omega)
    exact absurd (hwithin.subset (List.mem_append_right _ (List.mem_singleton_self _)))
      (separator_not_in_key hformed hkeys)

/-- The scan of a text that starts with the assignment. -/
theorem redactFrom_assignment {previous : Option Char}
    (hboundary : isAssignmentKeyBoundary previous = true) {c : Char} {front : Text}
    (hkey : a.key = c :: front) (rest : Text) :
    redactFrom 0 previous (a.key ++ (a.separator :: rest)) =
      a.key ++ [a.separator] ++ redactedMark ++
        redactFrom ((front ++ (a.separator :: rest)).length -
          (skipSensitiveAssignmentValue (lower a.key) rest).length) (some c)
          (front ++ (a.separator :: rest)) := by
  have hmatched := matchedKey_assignment hformed hboundary rest
  have hlength : (lower a.key).length = a.key.length := List.length_map _
  have htake : (a.key ++ (a.separator :: rest)).take (a.key.length + 1) =
      a.key ++ [a.separator] := by
    rw [List.append_cons]
    exact List.take_left' (by rw [List.length_append, List.length_singleton])
  have hdrop : (a.key ++ (a.separator :: rest)).drop (a.key.length + 1) = rest := by
    rw [List.append_cons]
    exact List.drop_left' (by rw [List.length_append, List.length_singleton])
  have hcovers : assignmentLength (lower a.key) (a.key ++ (a.separator :: rest)) - 1 =
      (front ++ (a.separator :: rest)).length -
        (skipSensitiveAssignmentValue (lower a.key) rest).length := by
    rw [assignmentLength, hlength, hdrop, hkey, List.cons_append, List.length_cons]
    omega
  rw [hkey] at hlength
  rw [hkey, List.cons_append] at hmatched htake hcovers ⊢
  rw [redactFrom, hmatched]
  dsimp only
  rw [hlength, htake, hcovers]

omit hformed

/-- The rest of the text after the value of a recognised assignment; an unquoted
authorization takes another word with the scheme `bearer`. -/
def SensitiveAssignment.restAfter (a : SensitiveAssignment) (bearer : Bool) : Text :=
  match a.form with
  | .quoted _ => a.after
  | .unquoted =>
      if (decide (lower a.key = "authorization".toList) && bearer) = true then
        skipRun ((skipRun a.after).dropWhile isAsciiWhitespace)
      else skipRun a.after
  | .credential _ _ => skipRun a.after

/-- The quote of a quoted value. -/
def SecretForm.quote : SecretForm → Char
  | quoted quote => quote
  | unquoted => ' '
  | credential _ _ => ' '

include hformed

/-- The value of a recognised assignment is covered. -/
theorem skipValue_recognised (hfits : a.form.Fits secret)
    (hscheme : ∀ scheme gap, a.form = .credential scheme gap → isBearer scheme = true) :
    skipSensitiveAssignmentValue (lower a.key)
        (a.space ++ (a.form.value secret ++ a.after)) =
      a.restAfter (isBearer (a.firstWord secret)) ∧
    EndsValue a.form.quote (a.space ++ (a.form.value secret ++ a.after))
      (a.restAfter (isBearer (a.firstWord secret))) := by
  have hform := hformed.form
  rw [SensitiveAssignment.FormFits] at hform
  rw [SensitiveAssignment.restAfter]
  cases hkind : a.form with
  | quoted quote =>
      rw [hkind] at hform hfits
      refine ⟨skipValue_quoted hformed.space hform hfits, ?_⟩
      refine ⟨a.space ++ (quote :: (secret ++ [quote])), ?_, .inr ?_⟩
      · rw [SecretForm.value, List.append_assoc]
      · rw [← List.cons_append, ← List.append_assoc]
        exact List.getLast?_concat
  | unquoted =>
      rw [hkind] at hfits
      refine ⟨skipValue_word hformed.space hfits.1 hfits.2, ?_⟩
      dsimp only [SecretForm.value]
      rw [← List.append_assoc]
      split
      · obtain ⟨front, hfront⟩ := (List.dropWhile_suffix isAsciiWhitespace
          (l := skipRun a.after)).trans
          (List.dropWhile_suffix (fun c => !isAssignmentValueBoundary c))
        have hends := (endsValue_skipRun ' '
          ((skipRun a.after).dropWhile isAsciiWhitespace)).append_left
            (a.space ++ secret ++ front)
        rwa [List.append_assoc (a.space ++ secret), hfront] at hends
      · exact (endsValue_skipRun ' ' a.after).append_left (a.space ++ secret)
  | credential scheme gap =>
      rw [hkind] at hform hfits
      obtain ⟨hkey, hne, hword, hgap, hspaces⟩ := hform
      have hstop : (gap ++ (secret ++ a.after)).takeWhile
          (fun c => !isAssignmentValueBoundary c) = [] ∧
          skipRun (gap ++ (secret ++ a.after)) = gap ++ (secret ++ a.after) := by
        obtain ⟨c, gap, rfl⟩ := List.exists_cons_of_ne_nil hgap
        have hc := valueBoundary_of_whitespace (hspaces c List.mem_cons_self)
        constructor
        · rw [List.cons_append, List.takeWhile_cons_of_neg]
          rw [hc]
          decide
        · rw [skipRun, List.cons_append, List.dropWhile_cons_of_neg]
          rw [hc]
          decide
      have hsecret : (secret ++ a.after).dropWhile isAsciiWhitespace = secret ++ a.after := by
        obtain ⟨c, later, rfl⟩ := List.exists_cons_of_ne_nil hfits.1
        refine List.dropWhile_cons_of_neg (Bool.eq_false_iff.1 ?_)
        exact (not_space_of_not_boundary (hfits.2 c List.mem_cons_self)).1
      have hrun : skipRun (secret ++ a.after) = skipRun a.after :=
        List.dropWhile_append_of_pos fun c hc => by
          rw [hfits.2 c hc]
          rfl
      dsimp only [SecretForm.value]
      constructor
      · rw [List.append_assoc, List.append_assoc, skipValue_word hformed.space hne hword,
          hstop.1, List.append_nil, hscheme scheme gap hkind, Bool.and_true,
          if_pos (decide_eq_true hkey), hstop.2, List.dropWhile_append_of_pos hspaces,
          hsecret, hrun]
      · rw [← List.append_assoc]
        exact (endsValue_skipRun ' ' a.after).append_left _

/-! ## An earlier value is open -/

omit hformed in
/-- The assignment does not end with the first of its quotes. -/
theorem quote_mem_of_text (hfits : a.form.Fits secret) {quote : Char} {front : Text}
    (hquote : isQuote quote = true) (htext : a.text secret = front ++ [quote]) :
    quote ∈ front := by
  have hlast : (a.text secret).getLast? = some quote := by
    rw [htext]
    exact List.getLast?_concat
  -- an unquoted secret ends with a character that is no boundary
  have hunquoted (value : Text) (hne : secret ≠ [])
      (hword : ∀ c ∈ secret, isAssignmentValueBoundary c = false)
      (hvalue : a.text secret = value ++ secret) : False := by
    rw [hvalue, List.getLast?_append_of_ne_nil _ hne] at hlast
    have hchar := (not_space_of_not_boundary (hword quote (List.mem_of_getLast? hlast))).2
    rw [hquote] at hchar
    cases hchar
  cases hkind : a.form with
  | quoted own =>
      rw [SensitiveAssignment.text, hkind, SecretForm.value, ← List.cons_append,
        ← List.append_assoc, ← List.cons_append, ← List.append_assoc] at htext
      obtain ⟨hfront, hsame⟩ := List.append_inj' htext rfl
      obtain rfl : own = quote := (List.cons.inj hsame).1
      rw [← hfront]
      simp
  | unquoted =>
      rw [hkind] at hfits
      refine (hunquoted (a.key ++ (a.separator :: a.space)) hfits.1 hfits.2 ?_).elim
      rw [SensitiveAssignment.text, hkind, SecretForm.value, List.append_assoc,
        List.cons_append]
  | credential scheme gap =>
      rw [hkind] at hfits
      refine (hunquoted (a.key ++ (a.separator :: (a.space ++ (scheme ++ gap))))
        hfits.1 hfits.2 ?_).elim
      rw [SensitiveAssignment.text, hkind, SecretForm.value]
      simp

/-- The scan writes the same for both secrets. -/
theorem redactSensitiveAssignments_of_covers (hfits : a.form.Fits secret)
    (hfits' : a.form.Fits secret') (hcovers : a.Covers secret secret') :
    redactSensitiveAssignments (a.errorText secret) =
      redactSensitiveAssignments (a.errorText secret') := by
  obtain ⟨c, front, hkey⟩ := List.exists_cons_of_ne_nil (key_ne_nil hformed.key)
  have hboundary : isAssignmentKeyBoundary (lastOr none a.before) = true := by
    rw [lastOr, Option.or_none]
    exact hformed.boundary
  have htext (secret : Text) : a.text secret ++ a.after =
      a.key ++ (a.separator :: (a.space ++ (a.form.value secret ++ a.after))) := by
    rw [SensitiveAssignment.text, List.append_assoc, List.cons_append, List.append_assoc]
  obtain ⟨written, enclosure, hscan⟩ := scanBefore_eq hformed.key a.before none hboundary
  have hopen (secret : Text) : a.openBefore secret =
      coveredBy enclosure (a.text secret ++ a.after) := by
    rw [SensitiveAssignment.openBefore, htext, hscan]
  have hrun (secret : Text) : redactSensitiveAssignments (a.errorText secret) =
      written ++ redactFrom (coveredBy enclosure (a.text secret ++ a.after))
        (lastOr none a.before) (a.text secret ++ a.after) := by
    rw [redactSensitiveAssignments, SensitiveAssignment.errorText, redactFrom_eq_scanBefore,
      htext, hscan]
  rw [hrun, hrun]
  congr 1
  cases enclosure with
  | none =>
      -- the key is reached, and the values end at the same place
      have hrecognised : a.Recognised secret secret' := by
        rcases hcovers with ⟨-, -, hrecognised⟩ | ⟨hlength, -⟩
        · exact hrecognised
        · rw [hopen, coveredBy, Option.elim_none, SensitiveAssignment.text, hkey,
            List.length_append, List.length_cons] at hlength
          omega
      have hscheme (scheme gap : Text) (hkind : a.form = .credential scheme gap) :
          isBearer scheme = true := by
        rw [SensitiveAssignment.Recognised, hkind] at hrecognised
        exact hrecognised
      have hrest : a.restAfter (isBearer (a.firstWord secret)) =
          a.restAfter (isBearer (a.firstWord secret')) := by
        rw [SensitiveAssignment.Recognised] at hrecognised
        rw [SensitiveAssignment.restAfter, SensitiveAssignment.restAfter]
        cases hkind : a.form with
        | quoted quote => rfl
        | credential scheme gap => rfl
        | unquoted =>
            rw [hkind] at hrecognised
            by_cases hauthorization : lower a.key = "authorization".toList
            · rw [hrecognised hauthorization]
            · rw [decide_eq_false hauthorization, Bool.false_and, Bool.false_and]
      obtain ⟨hskip, hends⟩ := skipValue_recognised hformed hfits hscheme
      obtain ⟨hskip', hends'⟩ := skipValue_recognised hformed hfits' hscheme
      rw [coveredBy, coveredBy, Option.elim_none, Option.elim_none, htext, htext,
        redactFrom_assignment hformed hboundary hkey, hskip,
        redactFrom_assignment hformed hboundary hkey, hskip', hrest]
      congr 1
      rw [hrest] at hends
      rw [List.append_cons front a.separator (a.space ++ (a.form.value secret ++ a.after)),
        List.append_cons front a.separator (a.space ++ (a.form.value secret' ++ a.after))]
      exact redactFrom_of_endsValue (hends.append_left _) (hends'.append_left _) _ _
  | some enclosure =>
      have hcovered : ∀ secret, a.form.Fits secret →
          (a.text secret).length ≤ a.openBefore secret →
          enclosure.skip (a.text secret ++ a.after) = enclosure.skip a.after := by
        intro secret hfits hlength
        have hle := length_skip_le enclosure (a.text secret ++ a.after)
        rw [hopen, coveredBy, Option.elim_some] at hlength
        rw [List.length_append] at hle hlength
        refine skip_of_covered (by omega) fun quote front hquote hlast => ?_
        exact quote_mem_of_text hfits hquote hlast
      rcases hcovers with ⟨hnone, -⟩ | ⟨hlength, hlength'⟩
      · rw [hopen, htext] at hnone
        exact absurd hnone (Nat.ne_of_gt (coveredBy_pos hformed.key enclosure _))
      · have hrest := hcovered secret hfits hlength
        have hrest' := hcovered secret' hfits' hlength'
        have hends := endsValue_skip enclosure (a.text secret ++ a.after)
        have hends' := endsValue_skip enclosure (a.text secret' ++ a.after)
        rw [coveredBy, coveredBy, Option.elim_some, Option.elim_some, hrest, hrest']
        rw [hrest] at hends
        rw [hrest'] at hends'
        exact redactFrom_of_endsValue hends hends' _ _

end Reached

/-- Two error texts that differ in a secret only have the same output, where the scan
covers both secrets. -/
theorem stripCredentialsFromError_of_covers (a : SensitiveAssignment) (secret secret' : Text)
    (hformed : a.WellFormed) (hfits : a.form.Fits secret) (hfits' : a.form.Fits secret')
    (hcovers : a.Covers secret secret') :
    stripCredentialsFromError (a.errorText secret) =
      stripCredentialsFromError (a.errorText secret') := by
  rw [stripCredentialsFromError, stripCredentialsFromError,
    redactSensitiveAssignments_of_covers hformed hfits hfits' hcovers]

/-- An unquoted value next to its separator is always covered, unless the key is
`authorization`. -/
theorem covers_of_unquoted {a : SensitiveAssignment} {secret secret' : Text}
    (hformed : a.WellFormed) (hkind : a.form = .unquoted) (hspace : a.space = [])
    (hkey : lower a.key ≠ "authorization".toList) (hfits : a.form.Fits secret)
    (hfits' : a.form.Fits secret') : a.Covers secret secret' := by
  have hboundary : isAssignmentKeyBoundary (lastOr none a.before) = true := by
    rw [lastOr, Option.or_none]
    exact hformed.boundary
  obtain ⟨written, enclosure, hscan⟩ := scanBefore_eq hformed.key a.before none hboundary
  have htext (secret : Text) : a.text secret ++ a.after =
      a.key ++ (a.separator :: (secret ++ a.after)) := by
    rw [SensitiveAssignment.text, hkind, hspace, SecretForm.value, List.nil_append,
      List.append_assoc, List.cons_append]
  have hopen (secret : Text) : a.openBefore secret =
      coveredBy enclosure (a.text secret ++ a.after) := by
    rw [SensitiveAssignment.openBefore, htext, hscan]
  cases enclosure with
  | none =>
      refine .inl ⟨hopen secret, hopen secret', ?_⟩
      rw [SensitiveAssignment.Recognised, hkind]
      exact fun hauthorization => absurd hauthorization hkey
  | some enclosure =>
      -- no character of the assignment ends the open value
      have hcovered (secret : Text) (hfits : a.form.Fits secret) :
          (a.text secret).length ≤ a.openBefore secret := by
        have hword : ∀ c ∈ a.text secret, isAssignmentValueBoundary c = false := by
          rw [hkind] at hfits
          rw [SensitiveAssignment.text, hkind, hspace]
          intro c hc
          rcases List.mem_append.1 hc with hmem | hmem
          · exact not_valueBoundary_of_mem hformed.key hmem
          · rcases List.mem_cons.1 hmem with rfl | hmem
            · rcases hformed.separator with hseparator | hseparator <;> rw [hseparator] <;>
                rfl
            · exact hfits.2 c hmem
        have hskip : enclosure.skip (a.text secret ++ a.after) = enclosure.skip a.after := by
          cases enclosure with
          | run =>
              refine List.dropWhile_append_of_pos fun c hc => ?_
              rw [hword c hc]
              rfl
          | quoted quote hquote =>
              rw [Enclosure.skip, List.dropWhile_append_of_pos, Enclosure.skip]
              intro c hc
              refine decide_eq_true ?_
              rintro rfl
              have hchar := (not_space_of_not_boundary (hword c hc)).2
              rw [hquote] at hchar
              cases hchar
        have hle := length_skip_le enclosure a.after
        rw [hopen, coveredBy, Option.elim_some, hskip, List.length_append]
        omega
      exact .inr ⟨hcovered secret hfits, hcovered secret' hfits'⟩

/-- A credential in a header with a scheme. -/
def headerAssignment (scheme : Text) : SensitiveAssignment where
  before := "failed ".toList
  key := "Authorization".toList
  separator := ':'
  space := [' ']
  form := .credential scheme [' ']
  after := ", retry".toList

/-- No character of a word is a boundary, checked one after the other. -/
theorem not_valueBoundary_of_all {word : Text}
    (hall : (word.all fun c => !isAssignmentValueBoundary c) = true) :
    ∀ c ∈ word, isAssignmentValueBoundary c = false := by
  intro c hc
  have hchar := List.all_eq_true.1 hall c hc
  rwa [Bool.not_eq_true'] at hchar

theorem headerAssignment_wellFormed {scheme : Text} (hne : scheme ≠ [])
    (hword : ∀ c ∈ scheme, isAssignmentValueBoundary c = false) :
    (headerAssignment scheme).WellFormed where
  key := (by decide : lower "Authorization".toList ∈ sensitiveAssignmentKeys)
  boundary := rfl
  separator := .inr rfl
  space := fun c hc => by rw [List.mem_singleton.1 hc]; rfl
  form := ⟨rfl, hne, hword, List.cons_ne_nil _ _,
    fun c hc => by rw [List.mem_singleton.1 hc]; rfl⟩

/-- A value of one character. -/
theorem headerAssignment_fits (scheme : Text) {secret : Char}
    (hsecret : isAssignmentValueBoundary secret = false) :
    (headerAssignment scheme).form.Fits [secret] :=
  ⟨List.cons_ne_nil _ _, fun c hc => by rw [List.mem_singleton.1 hc, hsecret]⟩

/-- A credential of the scheme `bearer` is covered. -/
theorem bearer_credential_is_redacted :
    stripCredentialsFromError ((headerAssignment "Bearer".toList).errorText "a".toList) =
      stripCredentialsFromError ((headerAssignment "Bearer".toList).errorText "b".toList) := by
  have hformed : (headerAssignment "Bearer".toList).WellFormed :=
    headerAssignment_wellFormed (by decide) (not_valueBoundary_of_all (by decide))
  refine stripCredentialsFromError_of_covers (headerAssignment "Bearer".toList) _ _ hformed
    (headerAssignment_fits _ (by decide)) (headerAssignment_fits _ (by decide))
    (.inl ⟨by decide +kernel, by decide +kernel, ?_⟩)
  exact (by decide +kernel : isBearer "Bearer".toList = true)

/-- A credential of another scheme is not. -/
theorem basic_credential_is_not_redacted :
    ¬∀ (a : SensitiveAssignment) (secret secret' : Text), a.WellFormed →
      a.form.Fits secret → a.form.Fits secret' →
        stripCredentialsFromError (a.errorText secret) =
          stripCredentialsFromError (a.errorText secret') := by
  intro h
  have hformed : (headerAssignment "Basic".toList).WellFormed :=
    headerAssignment_wellFormed (by decide) (not_valueBoundary_of_all (by decide))
  refine absurd (h (headerAssignment "Basic".toList) "a".toList "b".toList hformed
    (headerAssignment_fits _ (by decide)) (headerAssignment_fits _ (by decide))) ?_
  decide +kernel

end ChainworksForge.Redaction
