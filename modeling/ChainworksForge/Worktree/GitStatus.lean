import ChainworksForge.Support.Checked
import ChainworksForge.Support.Utf8

/-!
# Reading `git status`

Two readers take the output of `git status --porcelain=v1 -z`.  One builds the manifest of
changed files, with a list for each kind of change; the other lists the changed paths with
their marks and the digests of their files.  A record is two letters, a blank and a path,
ended by a zero byte; a record about a moved path has the old path in a second field.
-/

namespace ChainworksForge.Worktree

open ChainworksForge.Support

/-- The fields between zero bytes, without the empty ones. -/
def statusFields (bytes : List UInt8) : List (List UInt8) :=
  (bytes.splitOn 0).filter fun field => field ≠ []

/-- The character of a byte on its own. -/
def byteChar (b : UInt8) : Char :=
  Char.ofNat b.toNat

/-! ## The manifest of changed files -/

inductive GitManifestStatus where
  | available
  | timeout
  | notGitRepository
  | commandFailed
  | notDeclared
deriving DecidableEq

structure ChangedFilesManifest where
  schemaVersion : Text := "changed_files_manifest_v1".toList
  status : GitManifestStatus := .available
  files : List Text := []
  stagedChanges : List Text := []
  unstagedChanges : List Text := []
  deletedFiles : List Text := []
  renamedFiles : List Text := []
  conflictedFiles : List Text := []
  untrackedFiles : List Text := []
  diffStatText : Text := []
  preservedAgentManifestPath : Option Text := none
  diagnostics : List Text := []

def pushUnique {α : Type} [DecidableEq α] (values : List α) (value : α) : List α :=
  if value ∈ values then values else values ++ [value]

def isConflictedStatus (x y : Char) : Bool :=
  (x, y) ∈ [('D', 'D'), ('A', 'U'), ('U', 'D'), ('U', 'A'), ('D', 'U'), ('A', 'A'),
    ('U', 'U')]

/-- Put a tracked path into the lists that its letters name. -/
def pushTracked (manifest : ChangedFilesManifest) (x y : Char) (path : Text) :
    ChangedFilesManifest :=
  let manifest :=
    if isConflictedStatus x y then
      { manifest with conflictedFiles := pushUnique manifest.conflictedFiles path }
    else manifest
  let manifest :=
    if x ≠ ' ' ∧ x ≠ '?' then
      { manifest with stagedChanges := pushUnique manifest.stagedChanges path }
    else manifest
  let manifest :=
    if y ≠ ' ' ∧ y ≠ '?' then
      { manifest with unstagedChanges := pushUnique manifest.unstagedChanges path }
    else manifest
  if x = 'D' ∨ y = 'D' then
    { manifest with deletedFiles := pushUnique manifest.deletedFiles path }
  else manifest

def pushRenamed (manifest : ChangedFilesManifest) (rename : Text) :
    ChangedFilesManifest :=
  { manifest with renamedFiles := pushUnique manifest.renamedFiles rename }

/-- Read the entries one after the other. -/
def parsePorcelainEntries :
    ChangedFilesManifest → List (List UInt8) → ChangedFilesManifest
  | manifest, [] => manifest
  | manifest, entry :: rest =>
      match entry with
      | x :: y :: _ :: first :: tail =>
          let x := byteChar x
          let y := byteChar y
          let path := Text.fromUtf8Lossy (first :: tail)
          if path = [] then parsePorcelainEntries manifest rest
          else
            let manifest := { manifest with files := pushUnique manifest.files path }
            if x = '?' ∧ y = '?' then
              parsePorcelainEntries
                { manifest with
                  untrackedFiles := pushUnique manifest.untrackedFiles path } rest
            else
              let manifest := pushTracked manifest x y path
              if x = 'R' ∨ y = 'R' then
                match rest with
                | [] => pushRenamed manifest path
                | old :: rest =>
                    let old := Text.fromUtf8Lossy old
                    let rename :=
                      if old = [] then path else old ++ " -> ".toList ++ path
                    parsePorcelainEntries (pushRenamed manifest rename) rest
              else parsePorcelainEntries manifest rest
      | _ => parsePorcelainEntries manifest rest

def parsePorcelainStatus (bytes : List UInt8) : ChangedFilesManifest :=
  parsePorcelainEntries {} (statusFields bytes)

/-! ## The marked paths -/

structure GitStatusEntry where
  path : Text
  oldPath : Option Text
  isUntracked : Bool
  isDeleted : Bool
  isRenamed : Bool
  contentSha256 : Option Text
deriving DecidableEq

/-- Remove every `./` from the front of a path. -/
def trimCurrentDir : Text → Text
  | '.' :: '/' :: rest => trimCurrentDir rest
  | path => path

def normalizeRepoPath (path : Text) : Text :=
  trimCurrentDir (path.map fun c => if c = '\\' then '/' else c)

section Digests

-- The digest of the file under a path of the worktree, if there is one.
variable (readFileSha256 : Text → Except Text (Option Text))

/-- The entry of a path, with the digest of its file. -/
def gitStatusEntry (code path : Text) (oldPath : Option Text) :
    Except Text GitStatusEntry :=
  (readFileSha256 (normalizeRepoPath path)).map fun contentSha256 =>
    { path
      oldPath
      isUntracked := code = "??".toList
      isDeleted := 'D' ∈ code
      isRenamed := 'R' ∈ code
      contentSha256 }

def parseGitStatusFields : List (List UInt8) → Except Text (List GitStatusEntry)
  | [] => .ok []
  | field :: rest =>
      match field with
      | x :: y :: _ :: first :: tail => do
          let code ← required (Text.fromUtf8 [x, y])
            "git status code was not utf-8".toList
          let path ← required (Text.fromUtf8 (first :: tail))
            "git status path was not utf-8".toList
          if 'R' ∈ code then
            match rest with
            | [] => do
                let entry ← gitStatusEntry readFileSha256 code path none
                pure [entry]
            | old :: rest => do
                let entry ← gitStatusEntry readFileSha256 code path
                  (some ((Text.fromUtf8 old).getD []))
                let entries ← parseGitStatusFields rest
                pure (entry :: entries)
          else do
            let entry ← gitStatusEntry readFileSha256 code path none
            let entries ← parseGitStatusFields rest
            pure (entry :: entries)
      | _ => parseGitStatusFields rest

def parseGitStatus (bytes : List UInt8) : Except Text (List GitStatusEntry) :=
  parseGitStatusFields readFileSha256 (statusFields bytes)

end Digests

/-! ## Records -/

/-- The letters of a record about changes that git tracks or could track. -/
inductive StatusLetter where
  | unmodified
  | modified
  | typeChanged
  | added
  | deleted
  | renamed
  | copied
  | unmerged
  | untracked
deriving DecidableEq

namespace StatusLetter

def char : StatusLetter → Char
  | unmodified => ' '
  | modified => 'M'
  | typeChanged => 'T'
  | added => 'A'
  | deleted => 'D'
  | renamed => 'R'
  | copied => 'C'
  | unmerged => 'U'
  | untracked => '?'

def byte (letter : StatusLetter) : UInt8 :=
  letter.char.toNat.toUInt8

/-- The record names a second path. -/
def HasOrigin (letter : StatusLetter) : Prop :=
  letter = renamed ∨ letter = copied

instance instDecidableHasOrigin (letter : StatusLetter) :
    Decidable letter.HasOrigin :=
  inferInstanceAs (Decidable (letter = renamed ∨ letter = copied))

end StatusLetter

/-- A path as git writes it: some bytes without a zero. -/
structure PathBytes where
  bytes : List UInt8
  ne_nil : bytes ≠ []
  zero_not_mem : 0 ∉ bytes

/-- A record of the status.  It has an origin path exactly when one of its letters says
that the path was renamed or copied. -/
structure StatusRecord where
  x : StatusLetter
  y : StatusLetter
  path : PathBytes
  origin : Option PathBytes
  origin_isSome : origin.isSome = true ↔ x.HasOrigin ∨ y.HasOrigin

namespace StatusRecord

/-- The fields of a record. -/
def fields (record : StatusRecord) : List (List UInt8) :=
  (record.x.byte :: record.y.byte :: 32 :: record.path.bytes) ::
    (record.origin.map PathBytes.bytes).toList

/-- The output of the status command. -/
def encode (records : List StatusRecord) : List UInt8 :=
  (records.flatMap fields).flatMap fun field => field ++ [0]

/-! What the letters of a record say. -/

def isUntracked (record : StatusRecord) : Bool :=
  record.x = .untracked && record.y = .untracked

def isConflicted (record : StatusRecord) : Bool :=
  (record.x, record.y) ∈ [(StatusLetter.deleted, StatusLetter.deleted),
    (.added, .unmerged), (.unmerged, .deleted), (.unmerged, .added),
    (.deleted, .unmerged), (.added, .added), (.unmerged, .unmerged)]

def isStaged (record : StatusRecord) : Bool :=
  record.x ≠ .unmodified && record.x ≠ .untracked

def isUnstaged (record : StatusRecord) : Bool :=
  record.y ≠ .unmodified && record.y ≠ .untracked

def isDeleted (record : StatusRecord) : Bool :=
  record.x = .deleted || record.y = .deleted

def isRenamed (record : StatusRecord) : Bool :=
  record.x = .renamed || record.y = .renamed

/-- The origin path and the path, with an arrow between them. -/
def renameBytes (record : StatusRecord) : List UInt8 :=
  ((record.origin.map PathBytes.bytes).getD []) ++ Text.utf8Bytes " -> ".toList ++
    record.path.bytes

end StatusRecord

end ChainworksForge.Worktree
