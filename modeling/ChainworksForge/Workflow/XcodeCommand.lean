import ChainworksForge.Support.ByteSlice

/-!
# The classification of a declared command

A command text is cut into shell words.  The scanner looks for the Xcode tool it
names and for the direct forms that no shim on the path can catch.  The two
questions are answered separately: a text may have a hard-fail code and name no
tool.

A slice that ends inside a character and an index behind the last token panic;
the model answers `none` there.
-/

namespace ChainworksForge.Workflow

open ChainworksForge.Support

/-! ## Words -/

/-- State of the tokenizer between two characters. -/
structure ShellWords where
  tokens : List Text := []
  current : Text := []
  quote : Option Char := none
  escaped : Bool := false

namespace ShellWords

/-- Close the current word. -/
def flush (state : ShellWords) : ShellWords :=
  if state.current = [] then state
  else { state with tokens := state.tokens ++ [state.current], current := [] }

def push (state : ShellWords) (ch : Char) : ShellWords :=
  { state with current := state.current ++ [ch] }

/-- Read one character. -/
def step (state : ShellWords) (ch : Char) : ShellWords :=
  if state.escaped then { state.push ch with escaped := false }
  else if ch = '\\' then { state with escaped := true }
  else
    match state.quote with
    | some active =>
        if ch = active then { state with quote := none } else state.push ch
    | none =>
        if ch = '\'' ∨ ch = '"' then { state with quote := some ch }
        else if Text.isWhitespace ch then state.flush
        else state.push ch

end ShellWords

def tokenizeShellWords (raw : Text) : List Text :=
  (raw.foldl ShellWords.step {}).flush.tokens

def basename (token : Text) : Option Text :=
  let token :=
    Text.trimMatches (· == '\'') (Text.trimMatches (· == '"') token)
  let token := (Text.splitOn '=' token).getLastD token
  let basename := (Text.splitOn '/' token).getLastD token
  if basename = [] then none else some basename

def isIdentChar (ch : Char) : Bool :=
  ('a' ≤ ch && ch ≤ 'z') || ('A' ≤ ch && ch ≤ 'Z') || ('0' ≤ ch && ch ≤ '9') ||
    ch = '_' || ch = '-'

/--
Scan for an occurrence between characters that continue no identifier.  `skip`
counts the characters left of an occurrence that was just found; occurrences do
not overlap.
-/
def containsWordLoop (needle : Text) : Option Char → Nat → Text → Bool
  | _, _, [] => false
  | _, skip + 1, c :: rest => containsWordLoop needle (some c) skip rest
  | before, 0, c :: rest =>
      match Text.stripFront (c :: rest) needle with
      | some after =>
          (!before.any isIdentChar && !after.head?.any isIdentChar) ||
            containsWordLoop needle (some c) (needle.length - 1) rest
      | none => containsWordLoop needle (some c) 0 rest

def containsWord (raw needle : Text) : Bool :=
  containsWordLoop needle none 0 raw

/-- The words of a text with single blanks between them. -/
def joinedWords (raw : Text) : Text :=
  List.intercalate [' '] (Text.words raw)

/-- The first 160 bytes of a text, for a message. -/
def compactValue (raw : Text) : Option Text :=
  let compact := joinedWords raw
  if Text.byteLength compact ≤ 160 then some compact
  else (Text.sliceTo 160 compact).map fun head => head ++ "...".toList

/-! ## Tools -/

/-- The tools in the order in which a text is searched for them. -/
def xcodeTools : List Text :=
  ["mcpbridge".toList, "xcodebuild".toList, "simctl".toList, "xcrun".toList]

def matchedXcodeTool (raw : Text) : Option Text :=
  xcodeTools.find? fun tool => containsWord raw tool

def matchedXcodeToolFromTokens (argvTokens : List Text) : Option Text :=
  argvTokens.findSome? fun token =>
    (basename token).filter fun base => base ∈ xcodeTools

def isCanonicalGateInvocation (argv : List Text) : Bool :=
  let script :=
    match argv with
    | [] => none
    | command :: arguments =>
        if command = "bash".toList ∨ command = "/bin/bash".toList then
          arguments.head?
        else some command
  script = some "./scripts/test-gate.sh".toList ||
    script = some "scripts/test-gate.sh".toList

def mentionsXcodeToolOrPath (raw : Text) : Bool :=
  (matchedXcodeTool raw).isSome ||
    isCanonicalGateInvocation (tokenizeShellWords raw) ||
    Text.contains raw "/Applications/Xcode".toList ||
    Text.contains raw "/Contents/Developer/".toList ||
    Text.contains raw "DEVELOPER_DIR=".toList

/-! ## Hard failures -/

/-- The first token runs `xcrun`. -/
def invokesXcrun (argvTokens : List Text) : Bool :=
  argvTokens.head?.bind basename = some "xcrun".toList

def isXcrunNonConsumingFlag (token : Text) : Bool :=
  token ∈ ["-l".toList, "--log".toList, "--verbose".toList,
    "--no-cache".toList, "--kill-cache".toList, "--help".toList, "-h".toList,
    "--version".toList]

/-- Walk over the flags from an index; `steps` bounds the rest of the walk. -/
def unknownXcrunFlagFrom (argvTokens : List Text) :
    Nat → Nat → Option Bool
  | 0, _ => some false
  | steps + 1, idx =>
      if idx < argvTokens.length then
        argvTokens[idx]?.bind fun token =>
          if token = "--".toList then some false
          else if token ∈ ["--sdk".toList, "-sdk".toList,
              "--toolchain".toList, "-toolchain".toList] then
            unknownXcrunFlagFrom argvTokens steps (idx + 2)
          else if Text.startsWith token "--sdk=".toList ||
              Text.startsWith token "--toolchain=".toList then
            unknownXcrunFlagFrom argvTokens steps (idx + 1)
          else if token ∈ ["--find".toList, "-f".toList, "--run".toList,
              "-r".toList] then some false
          else if Text.startsWith token "--show-sdk-".toList then
            unknownXcrunFlagFrom argvTokens steps (idx + 1)
          else if isXcrunNonConsumingFlag token then
            unknownXcrunFlagFrom argvTokens steps (idx + 1)
          else some (Text.startsWith token "-".toList)
      else some false

def hasUnknownXcrunFlag (argvTokens : List Text) : Option Bool :=
  if invokesXcrun argvTokens then
    unknownXcrunFlagFrom argvTokens argvTokens.length 1
  else some false

def isXcrunFindGuardedTool (argvTokens : List Text) : Bool :=
  invokesXcrun argvTokens &&
    (argvTokens.zip argvTokens.tail).any fun pair =>
      pair.1 ∈ ["--find".toList, "-f".toList] &&
        basename pair.2 ∈ ["xcodebuild".toList, "simctl".toList,
          "mcpbridge".toList].map some

/-- The code of a form that cannot be routed through the shims. -/
def hardFailCode (raw : Text) (argvTokens : List Text) :
    Option (Option Text) :=
  if Text.contains raw "/usr/bin/xcrun".toList ||
      Text.contains raw "/usr/bin/xcodebuild".toList ||
      Text.contains raw "/usr/bin/simctl".toList then
    some (some "p051_absolute_xcode_tool_path".toList)
  else if Text.contains raw "/Applications/Xcode".toList &&
      Text.contains raw "/Contents/Developer/".toList then
    some (some "p051_absolute_xcode_developer_path".toList)
  else if Text.contains raw "DEVELOPER_DIR=".toList &&
      (containsWord raw "xcodebuild".toList ||
        containsWord raw "simctl".toList) then
    some (some "p051_developer_dir_direct_xcode_command".toList)
  else if isXcrunFindGuardedTool argvTokens then
    some (some "p051_xcrun_find_guarded_tool".toList)
  else
    (hasUnknownXcrunFlag argvTokens).map fun unknown =>
      if unknown then some "p051_xcrun_unknown_flag".toList
      else if argvTokens.any fun token =>
          basename token = some "mcpbridge".toList then
        some "p051_direct_mcpbridge_command".toList
      else none

/-! ## Classification -/

structure CommandClassification where
  argvTokens : List Text
  matchedXcodeTool : Option Text
  contributesToXcodeShimInjectionSignal : Bool
  errorCode : Option Text
deriving DecidableEq

/-- The tool that a command runs or names. -/
def commandTool (raw : Text) : Option Text :=
  let argvTokens := tokenizeShellWords raw
  if isCanonicalGateInvocation argvTokens then
    some "chainworks-test-gate".toList
  else (matchedXcodeToolFromTokens argvTokens).or (matchedXcodeTool raw)

def classifyCommand (raw : Text) : Option CommandClassification :=
  let argvTokens := tokenizeShellWords raw
  let tool := commandTool raw
  (hardFailCode raw argvTokens).map fun errorCode =>
    { argvTokens
      matchedXcodeTool := tool
      contributesToXcodeShimInjectionSignal :=
        tool ∈ ["xcodebuild".toList, "simctl".toList, "xcrun".toList,
          "chainworks-test-gate".toList].map some
      errorCode }

/-! ## No panic before the message -/

theorem unknownXcrunFlagFrom_isSome (argvTokens : List Text) (steps idx : Nat) :
    (unknownXcrunFlagFrom argvTokens steps idx).isSome = true := by
  induction steps generalizing idx with
  | zero => rfl
  | succ steps ih =>
      rw [unknownXcrunFlagFrom]
      by_cases hidx : idx < argvTokens.length
      · rw [if_pos hidx, List.getElem?_eq_getElem hidx, Option.bind_some]
        split_ifs
        · rfl
        · exact ih _
        · exact ih _
        · rfl
        · exact ih _
        · exact ih _
        · rfl
      · rw [if_neg hidx]
        rfl

/-- The walk needs no more steps than there are tokens. -/
theorem unknownXcrunFlagFrom_steps
    (argvTokens : List Text) {n m idx : Nat}
    (hn : argvTokens.length ≤ n + idx) (hm : argvTokens.length ≤ m + idx) :
    unknownXcrunFlagFrom argvTokens n idx =
      unknownXcrunFlagFrom argvTokens m idx := by
  induction n generalizing m idx with
  | zero =>
      have hidx : ¬idx < argvTokens.length := by omega
      cases m with
      | zero => rfl
      | succ m => rw [unknownXcrunFlagFrom, unknownXcrunFlagFrom, if_neg hidx]
  | succ n ih =>
      cases m with
      | zero =>
          have hidx : ¬idx < argvTokens.length := by omega
          rw [unknownXcrunFlagFrom, unknownXcrunFlagFrom, if_neg hidx]
      | succ m =>
          have hone : unknownXcrunFlagFrom argvTokens n (idx + 1) =
              unknownXcrunFlagFrom argvTokens m (idx + 1) := by
            apply ih <;> omega
          have htwo : unknownXcrunFlagFrom argvTokens n (idx + 2) =
              unknownXcrunFlagFrom argvTokens m (idx + 2) := by
            apply ih <;> omega
          rw [unknownXcrunFlagFrom, unknownXcrunFlagFrom, hone, htwo]

/-- The walk over the flags stays inside the tokens. -/
theorem hasUnknownXcrunFlag_isSome (argvTokens : List Text) :
    (hasUnknownXcrunFlag argvTokens).isSome = true := by
  rw [hasUnknownXcrunFlag]
  split_ifs
  · exact unknownXcrunFlagFrom_isSome _ _ _
  · rfl

theorem hardFailCode_isSome (raw : Text) (argvTokens : List Text) :
    (hardFailCode raw argvTokens).isSome = true := by
  have hlast : ∀ f : Bool → Option Text,
      ((hasUnknownXcrunFlag argvTokens).map f).isSome = true := by
    intro f
    rw [Option.isSome_map]
    exact hasUnknownXcrunFlag_isSome argvTokens
  rw [hardFailCode]
  split_ifs
  · rfl
  · rfl
  · rfl
  · rfl
  · exact hlast _
  · exact hlast _

/-- The hard-fail code of a command text. -/
def commandErrorCode (raw : Text) : Option Text :=
  (hardFailCode raw (tokenizeShellWords raw)).join

theorem classifyCommand_eq (raw : Text) :
    classifyCommand raw = some
      { argvTokens := tokenizeShellWords raw
        matchedXcodeTool := commandTool raw
        contributesToXcodeShimInjectionSignal :=
          commandTool raw ∈ ["xcodebuild".toList, "simctl".toList,
            "xcrun".toList, "chainworks-test-gate".toList].map some
        errorCode := commandErrorCode raw } := by
  obtain ⟨code, hcode⟩ := Option.isSome_iff_exists.1
    (hardFailCode_isSome raw (tokenizeShellWords raw))
  rw [classifyCommand, commandErrorCode, hcode]
  rfl

/-- A message fails to be cut exactly when byte 160 is inside a character. -/
theorem compactValue_eq_none_iff (raw : Text) :
    compactValue raw = none ↔ Text.CutsCharacter 160 (joinedWords raw) := by
  rw [compactValue]
  by_cases hshort : Text.byteLength (joinedWords raw) ≤ 160
  · rw [if_pos hshort]
    refine iff_of_false (Option.some_ne_none _) fun hcut => ?_
    exact absurd hcut.lt_byteLength (not_lt.2 hshort)
  · rw [if_neg hshort, Option.map_eq_none_iff, Text.sliceTo,
      Option.map_eq_none_iff, Text.splitBytes_eq_none_iff, or_iff_right]
    exact fun hlt => hshort hlt.le

end ChainworksForge.Workflow
