import ChainworksForge.Support.Text

/-!
# The sanitizer of error texts

An error of a provider or of a release may carry a credential.  Before it is stored its
text is redacted in two passes: a scan over the characters replaces the values of
sensitive assignments, and a second pass goes over the words of the result.

The scan keeps a position in the text.  Here it is the number of characters that the
value of the last assignment still covers, so that the recursion is on the text.
-/

namespace ChainworksForge.Redaction

open ChainworksForge.Support

def redactedMark : Text := "[redacted]".toList

def sensitiveAssignmentKeys : List Text :=
  ["access_token".toList, "auth_token".toList, "authorization".toList, "api_key".toList,
    "password".toList, "apikey".toList, "secret".toList, "token".toList]

def isSensitiveLabel (label : Text) : Bool :=
  ["access_token".toList, "auth_token".toList, "authorization".toList, "api_key".toList,
    "apikey".toList, "bearer".toList, "password".toList, "secret".toList,
    "token".toList].contains label

def isSensitiveKey (key : Text) : Bool :=
  Text.contains key "token".toList || Text.contains key "api_key".toList ||
    Text.contains key "apikey".toList || Text.contains key "secret".toList ||
    Text.contains key "password".toList || Text.contains key "authorization".toList ||
    Text.contains key "bearer".toList

def isAsciiWhitespace (c : Char) : Bool :=
  c = ' ' || c = '\t' || c = '\n' || c = '\x0c' || c = '\r'

def isAssignmentKeyBoundary : Option Char → Bool
  | none => true
  | some c => isAsciiWhitespace c || c = '?' || c = '&' || c = '"' || c = '\'' || c = ',' ||
      c = ';' || c = '(' || c = '[' || c = '\x7b'

def isAssignmentValueBoundary (c : Char) : Bool :=
  isAsciiWhitespace c || c = '&' || c = '"' || c = '\'' || c = ',' || c = ';' || c = ')' ||
    c = ']' || c = '\x7d'

def isQuote (c : Char) : Bool := c = '"' || c = '\''

/-- The punctuation around a label. -/
def isLabelPunctuation (c : Char) : Bool :=
  c = '"' || c = '\'' || c = ',' || c = ';' || c = ':'

/-- A text without the case of its ASCII letters. -/
def lower (text : Text) : Text := text.map Text.asciiLower

/-- A word is the scheme `bearer`. -/
def isBearer (word : Text) : Bool :=
  Text.trimMatches isLabelPunctuation (lower word) = "bearer".toList

/-- Cut the rest of a value that has no quotes. -/
def skipRun (text : Text) : Text := text.dropWhile fun c => !isAssignmentValueBoundary c

/-- The text after the value of an assignment. -/
def skipSensitiveAssignmentValue (key text : Text) : Text :=
  match text.dropWhile isAsciiWhitespace with
  | [] => []
  | c :: rest =>
      if isQuote c then (rest.dropWhile fun d => d ≠ c).drop 1
      else
        let first := (c :: rest).takeWhile fun d => !isAssignmentValueBoundary d
        if key = "authorization".toList && isBearer first then
          skipRun ((skipRun (c :: rest)).dropWhile isAsciiWhitespace)
        else skipRun (c :: rest)

/-- The key of an assignment that starts at the front of a text. -/
def matchedKey (previous : Option Char) (text : Text) : Option Text :=
  sensitiveAssignmentKeys.find? fun key =>
    Text.startsWith (lower text) key && isAssignmentKeyBoundary previous &&
      ((text.drop key.length).head? = some '=' || (text.drop key.length).head? = some ':')

/-- The number of characters of an assignment at the front of a text: the key, the
separator and the value. -/
def assignmentLength (key text : Text) : ℕ :=
  text.length - (skipSensitiveAssignmentValue key (text.drop (key.length + 1))).length

/-- The scan, with the number of characters that the last assignment still covers and
the character before the text. -/
def redactFrom (covered : ℕ) (previous : Option Char) : Text → Text
  | [] => []
  | c :: rest =>
      match covered with
      | covered + 1 => redactFrom covered (some c) rest
      | 0 =>
          match matchedKey previous (c :: rest) with
          | some key =>
              (c :: rest).take (key.length + 1) ++ redactedMark ++
                redactFrom (assignmentLength key (c :: rest) - 1) (some c) rest
          | none => c :: redactFrom 0 (some c) rest

def redactSensitiveAssignments (text : Text) : Text := redactFrom 0 none text

/-- The texts of private keys and of the tokens of known issuers. -/
def looksLikeCredential (lowered : Text) : Bool :=
  Text.startsWith lowered "sk-".toList || Text.startsWith lowered "ghp_".toList ||
    Text.contains lowered "/.ssh/".toList || Text.endsWith lowered "/id_rsa".toList ||
    Text.contains lowered "/id_rsa".toList

/-- The key of a word of the form `key=value` or `key:value`. -/
def wordKey (word : Text) : Option Text :=
  ((Text.splitOnce '=' word).or (Text.splitOnce ':' word)).map Prod.fst

/-- The second pass, and whether the word before asks to redact the next one. -/
def redactWords (redactNext : Bool) : List Text → List Text
  | [] => []
  | word :: rest =>
      let normalized := Text.trimMatches isLabelPunctuation (lower word)
      let isScheme : Bool := normalized = "bearer".toList || normalized = "token".toList
      if redactNext then redactedMark :: redactWords isScheme rest
      else if isScheme then word :: redactWords true rest
      else if isSensitiveLabel normalized then
        match rest with
        | [] => [word]
        | next :: later =>
            let trimmed := Text.trimMatches (fun c => c = '"' || c = '\'' || c = ',' || c = ';')
              next
            if trimmed = [':'] || trimmed = ['='] then
              word :: redactedMark :: redactWords true later
            else word :: redactWords true (next :: later)
      else
        match (wordKey word).filter fun key => isSensitiveKey (lower key) with
        | some key => (key ++ '=' :: redactedMark) :: redactWords false rest
        | none =>
            (if looksLikeCredential (lower word) then redactedMark else word) ::
              redactWords false rest

def stripCredentialsFromError (text : Text) : Text :=
  List.intercalate [' '] (redactWords false (Text.words (redactSensitiveAssignments text)))

end ChainworksForge.Redaction
