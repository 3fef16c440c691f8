import ChainworksForge.Condition.Runtime

/-!
# The transition lint

The workflow crate reads the same condition texts a second time, before a run
exists.  It splits a condition at the word `or`, each part at the word `and`,
both outside quotes, and decides from the resulting disjunctive normal form
whether two transitions of one state could match at the same time.

The splitter compares byte slices of the text with the word.  A slice that ends
inside a character panics; the model answers `none` there.
-/

namespace ChainworksForge.Condition

open ChainworksForge.Support

namespace Lint

/-- Atom of a clause: a field, an operator and a normalized value. -/
structure Atom where
  field : Text
  op : CompOp
  value : Text
deriving DecidableEq, Repr

/-- Conjunction of atoms. -/
abbrev Clause := List Atom

/-- Disjunction of clauses. -/
abbrev Dnf := List Clause

/-! ## Quotes and words -/

def isQuote (c : Char) : Bool :=
  c = '\'' || c = '"'

/-- Quote state after a quote character. -/
def toggleQuote (quote : Option Char) (c : Char) : Option Char :=
  match quote with
  | none => some c
  | some current => if current = c then none else some current

/-- Characters that continue a word; every other byte ends one. -/
def isConditionWordChar (c : Char) : Bool :=
  ('a' ≤ c && c ≤ 'z') || ('A' ≤ c && c ≤ 'Z') || ('0' ≤ c && c ≤ '9') ||
    c = '_' || c = '.'

/-- The neighbour of a word, if any, is not a word character. -/
def isBoundary (neighbour : Option Char) : Bool :=
  neighbour.all fun c => !isConditionWordChar c

/-- Whether the connective word stands at the head of the text. -/
def boolWordAt (word : Text) (previous : Option Char) (t : Text) :
    Option Bool :=
  if Text.byteLength t < Text.byteLength word then some false
  else
    (Text.splitBytes (Text.byteLength word) t).map fun halves =>
      Text.eqIgnoreAsciiCase halves.1 word && isBoundary previous &&
        isBoundary halves.2.head?

/--
Scan a text for a connective word outside quotes.  `part` holds the characters
since the last cut, in reverse, and `skip` counts the characters of a word that
was just recognized.
-/
def splitBoolWordLoop (word : Text) :
    Option Char → Option Char → Nat → Text → Text → Option (List Text)
  | _, _, _, part, [] => some [part.reverse]
  | quote, _, skip + 1, part, c :: rest =>
      splitBoolWordLoop word quote (some c) skip part rest
  | quote, previous, 0, part, c :: rest =>
      if isQuote c then
        splitBoolWordLoop word (toggleQuote quote c) (some c) 0 (c :: part) rest
      else if quote.isSome then
        splitBoolWordLoop word quote (some c) 0 (c :: part) rest
      else
        match boolWordAt word previous (c :: rest) with
        | none => none
        | some true =>
            (splitBoolWordLoop word none (some c) (word.length - 1) []
              rest).map fun parts => part.reverse :: parts
        | some false =>
            splitBoolWordLoop word none (some c) 0 (c :: part) rest

/-- Split a condition at a connective word. -/
def splitBoolWord (input word : Text) : Option (List Text) :=
  (splitBoolWordLoop word none none 0 [] input).map fun parts =>
    (parts.map Text.trim).filter fun part => part ≠ []

/-- Split an atom at an operator outside quotes. -/
def splitOutsideQuotes (needle : Text) :
    Option Char → Text → Option (Text × Text)
  | _, [] => none
  | quote, c :: rest =>
      let continued (quote : Option Char) :=
        (splitOutsideQuotes needle quote rest).map fun halves =>
          (c :: halves.1, halves.2)
      if isQuote c then continued (toggleQuote quote c)
      else if quote.isSome then continued quote
      else
        match Text.stripFront (c :: rest) needle with
        | some after => some ([], after)
        | none => continued quote

/-! ## Atoms -/

/-- Strip whitespace and both kinds of quotes from a value. -/
def normalizeValue (value : Text) : Text :=
  Text.trim (Text.trimMatches (· == '\'')
    (Text.trimMatches (· == '"') (Text.trim value)))

/-- Artifact name of an `exists(...)` atom. -/
def parseExistsArtifact (atom : Text) : Option Text :=
  (Text.stripFront atom "exists(".toList).bind fun tail =>
    (Text.stripBack tail ")".toList).bind fun inner =>
      let name := normalizeValue inner
      if name = [] then none else some name

/-- Left side, operator and right side of an atom. -/
def splitComparison (atom : Text) : Option (Text × CompOp × Text) :=
  [("==".toList, CompOp.eq), ("!=".toList, .ne), (">=".toList, .ge),
    ("<=".toList, .le), (">".toList, .gt), ("<".toList, .lt)].findSome?
      fun entry => (splitOutsideQuotes entry.1 none atom).map fun halves =>
        (halves.1, entry.2, halves.2)

/-- Parse an atom; what is not understood becomes an opaque field. -/
def parseAtom (raw : Text) : Atom :=
  let atom := Text.trim raw
  match parseExistsArtifact atom with
  | some name =>
      ⟨"exists(".toList ++ name ++ ")".toList, .eq, "true".toList⟩
  | none =>
      match splitComparison atom with
      | some (left, op, right) =>
          ⟨Text.trim left, op, normalizeValue (Text.trim right)⟩
      | none => ⟨"__unsupported__:".toList ++ atom, .eq, "true".toList⟩

/-- Texts of the atoms of every clause of a condition. -/
def clauseTexts (condition : Text) : Option (List (List Text)) :=
  let trimmed := Text.trim condition
  if Text.eqIgnoreAsciiCase trimmed "true".toList then some [[]]
  else
    (splitBoolWord trimmed "or".toList).bind fun orParts =>
      orParts.mapM fun orPart => splitBoolWord orPart "and".toList

/-- Parse a condition into disjunctive normal form. -/
def parseConditionDnf (condition : Text) : Option Dnf :=
  (clauseTexts condition).map fun clauses =>
    clauses.map fun clause => clause.map parseAtom

/-! ## Contradictions -/

/-- Numeric reading of an operator. -/
def satisfiesNumeric (value : F64) (op : CompOp) (bound : F64) : Bool :=
  match op with
  | .eq => F64.eq value bound
  | .ne => !F64.eq value bound
  | .gt => F64.lt bound value
  | .ge => F64.le bound value
  | .lt => F64.lt value bound
  | .le => F64.le value bound

/-- Whether a value satisfies an operator against a bound. -/
def valueSatisfies (value : Text) (op : CompOp) (bound : Text) : Bool :=
  match F64.parse value, F64.parse bound with
  | some v, some b => satisfiesNumeric v op b
  | _, _ =>
      match op with
      | .eq => value = bound
      | .ne => value ≠ bound
      | .gt | .lt => value ≠ bound
      | .ge | .le => true

/-- Two range operators against the same bound that exclude each other. -/
def rangesContradict
    (leftOp : CompOp) (leftBound : Text)
    (rightOp : CompOp) (rightBound : Text) : Bool :=
  leftBound = rightBound &&
    match leftOp, rightOp with
    | .ge, .lt | .lt, .ge | .gt, .le | .le, .gt | .gt, .lt | .lt, .gt => true
    | _, _ => false

/-- The facts `p.granted == true` and `p.rejected == true` of one parent. -/
def mutuallyExclusiveBooleanFields (left right : Atom) : Bool :=
  match Text.rsplitOnce '.' left.field, Text.rsplitOnce '.' right.field with
  | some (leftParent, leftLeaf), some (rightParent, rightLeaf) =>
      leftParent = rightParent &&
        ((leftLeaf = "granted".toList && rightLeaf = "rejected".toList) ||
          (leftLeaf = "rejected".toList && rightLeaf = "granted".toList)) &&
        left.op = .eq && right.op = .eq &&
        left.value = "true".toList && right.value = "true".toList
  | _, _ => false

/-- Whether the lint counts two atoms as contradictory. -/
def atomsContradict (left right : Atom) : Bool :=
  if left.field ≠ right.field then mutuallyExclusiveBooleanFields left right
  else
    match left.op, right.op with
    | .eq, .eq => left.value ≠ right.value
    | .eq, .ne | .ne, .eq => left.value = right.value
    | .eq, op => !valueSatisfies left.value op right.value
    | op, .eq => !valueSatisfies right.value op left.value
    | leftOp, rightOp =>
        rangesContradict leftOp left.value rightOp right.value

/-- Two clauses without a contradictory pair of atoms. -/
def clausesCanMatchSimultaneously (left right : Clause) : Bool :=
  left.all fun leftAtom =>
    right.all fun rightAtom => !atomsContradict leftAtom rightAtom

/-- Whether the lint admits that two conditions hold together. -/
def conditionsCanMatchSimultaneously (left right : Text) : Option Bool :=
  (parseConditionDnf left).bind fun leftDnf =>
    (parseConditionDnf right).map fun rightDnf =>
      leftDnf.any fun leftClause =>
        rightDnf.any fun rightClause =>
          clausesCanMatchSimultaneously leftClause rightClause

example :
    conditionsCanMatchSimultaneously
      "status == 'complete'".toList "status == 'complete'".toList =
        some true := by
  decide +kernel

example :
    conditionsCanMatchSimultaneously
      "s.score >= vars.target and s.blockers == 0".toList
      "s.score < vars.target or s.blockers > 0".toList = some false := by
  decide +kernel

end Lint

end ChainworksForge.Condition
