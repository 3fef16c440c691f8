import ChainworksForge.Worktree.GitStatus
import Mathlib.Data.List.Nodup

/-!
# What the two readers recover

Both readers take the second field of a record only where a letter is `R`.  The origin of
a copy is read as a record of its own, or skipped when it is short, and paths that are no
text come back changed or not at all.  `readers_recover_iff` says that nothing else goes
wrong.
-/

namespace ChainworksForge.Worktree

open ChainworksForge.Support

/-! ## Lists without repetition -/

section Unique

variable {α β : Type} [DecidableEq α] [DecidableEq β]

/-- The first occurrence of each value of a list. -/
def distinct (values : List α) : List α :=
  values.foldl pushUnique []

theorem map_foldl_pushUnique
    {f : α → β} (hf : Function.Injective f) (values acc : List α) :
    (values.foldl pushUnique acc).map f =
      (values.map f).foldl pushUnique (acc.map f) := by
  induction values generalizing acc with
  | nil => rfl
  | cons value rest ih =>
      rw [List.foldl_cons, ih, List.map_cons, List.foldl_cons]
      congr 1
      rw [pushUnique, pushUnique]
      by_cases hvalue : value ∈ acc
      · rw [if_pos hvalue, if_pos (List.mem_map_of_mem hvalue)]
      · rw [if_neg hvalue, if_neg fun h => hvalue ((List.mem_map_of_injective hf).1 h),
          List.map_append, List.map_singleton]

end Unique

/-! ## Fields -/

theorem StatusLetter.byte_ne_zero (letter : StatusLetter) : letter.byte ≠ 0 := by
  cases letter with
  | _ => decide

theorem StatusRecord.mem_fields
    {record : StatusRecord} {field : List UInt8} (h : field ∈ record.fields) :
    field ≠ [] ∧ 0 ∉ field := by
  rw [StatusRecord.fields, List.mem_cons, Option.mem_toList,
    Option.map_eq_some_iff] at h
  rcases h with rfl | ⟨origin, -, rfl⟩
  · refine ⟨List.cons_ne_nil _ _, ?_⟩
    simp only [List.mem_cons, not_or]
    exact ⟨record.x.byte_ne_zero.symm, record.y.byte_ne_zero.symm, by decide,
      record.path.zero_not_mem⟩
  · exact ⟨origin.ne_nil, origin.zero_not_mem⟩

theorem statusFields_terminated
    {fields : List (List UInt8)} (h : ∀ field ∈ fields, field ≠ [] ∧ 0 ∉ field) :
    statusFields (fields.flatMap fun field => field ++ [0]) = fields := by
  induction fields with
  | nil => rfl
  | cons field rest ih =>
      obtain ⟨hne, hzero⟩ := h field List.mem_cons_self
      have hrest := ih fun other hother => h other (List.mem_cons_of_mem field hother)
      rw [statusFields] at hrest ⊢
      rw [List.flatMap_cons, List.append_assoc, List.singleton_append,
        List.splitOn_append_cons_self, List.splitOn_eq_singleton hzero,
        List.singleton_append, List.filter_cons_of_pos (by simpa using hne), hrest]

/-- Splitting the output gives the fields of the records. -/
theorem statusFields_encode (records : List StatusRecord) :
    statusFields (StatusRecord.encode records) =
      records.flatMap StatusRecord.fields := by
  apply statusFields_terminated
  intro field hfield
  obtain ⟨record, -, hfield⟩ := List.mem_flatMap.1 hfield
  exact StatusRecord.mem_fields hfield

/-! ## What has to be recovered -/

/-- The bytes are the encoding of a text. -/
def IsText (path : PathBytes) : Prop :=
  ∃ t, Text.utf8Bytes t = path.bytes

/-- The lists of the manifest, as bytes. -/
structure ManifestRecovers
    (manifest : ChangedFilesManifest) (records : List StatusRecord) : Prop where
  files : manifest.files.map Text.utf8Bytes =
    distinct (records.map fun record => record.path.bytes)
  staged : manifest.stagedChanges.map Text.utf8Bytes =
    distinct ((records.filter StatusRecord.isStaged).map fun record =>
      record.path.bytes)
  unstaged : manifest.unstagedChanges.map Text.utf8Bytes =
    distinct ((records.filter StatusRecord.isUnstaged).map fun record =>
      record.path.bytes)
  deleted : manifest.deletedFiles.map Text.utf8Bytes =
    distinct ((records.filter StatusRecord.isDeleted).map fun record =>
      record.path.bytes)
  renamed : manifest.renamedFiles.map Text.utf8Bytes =
    distinct ((records.filter StatusRecord.isRenamed).map StatusRecord.renameBytes)
  conflicted : manifest.conflictedFiles.map Text.utf8Bytes =
    distinct ((records.filter StatusRecord.isConflicted).map fun record =>
      record.path.bytes)
  untracked : manifest.untrackedFiles.map Text.utf8Bytes =
    distinct ((records.filter StatusRecord.isUntracked).map fun record =>
      record.path.bytes)

/-- The entry has the path, the origin and the marks of the record. -/
structure EntryRecovers (entry : GitStatusEntry) (record : StatusRecord) : Prop where
  path : Text.utf8Bytes entry.path = record.path.bytes
  oldPath : entry.oldPath.map Text.utf8Bytes = record.origin.map PathBytes.bytes
  untracked : entry.isUntracked = record.isUntracked
  deleted : entry.isDeleted = record.isDeleted
  renamed : entry.isRenamed = record.isRenamed

/-- Both readers recover the records. -/
def ReadersRecover
    (readFileSha256 : Text → Except Text (Option Text))
    (records : List StatusRecord) : Prop :=
  ManifestRecovers (parsePorcelainStatus (StatusRecord.encode records)) records ∧
    ∃ entries,
      parseGitStatus readFileSha256 (StatusRecord.encode records) = .ok entries ∧
        List.Forall₂ EntryRecovers entries records

/-- The record has no origin without a letter `R`, its paths are texts, and the file
under its path can be read. -/
structure Readable
    (readFileSha256 : Text → Except Text (Option Text)) (record : StatusRecord) :
    Prop where
  renamed : record.origin.isSome = true → record.isRenamed = true
  path : ∃ t digest, Text.utf8Bytes t = record.path.bytes ∧
    readFileSha256 (normalizeRepoPath t) = .ok digest
  origin : ∀ origin ∈ record.origin, IsText origin

/-! ## Letters -/

section Letters

variable (letter : StatusLetter)

theorem StatusLetter.utf8EncodeChar_char :
    String.utf8EncodeChar letter.char = [letter.byte] := by
  cases letter with
  | _ => rfl

theorem StatusLetter.byteChar_byte : byteChar letter.byte = letter.char := by
  cases letter with
  | _ => rfl

theorem StatusLetter.char_injective : Function.Injective StatusLetter.char := by
  intro first second h
  cases first with
  | _ =>
      cases second with
      | _ => first | rfl | exact absurd h (by decide)

end Letters

namespace StatusRecord

variable (record : StatusRecord)

/-- The two letters as a text. -/
def code : Text :=
  [record.x.char, record.y.char]

theorem fromUtf8_code :
    Text.fromUtf8 [record.x.byte, record.y.byte] = some record.code := by
  rw [Text.fromUtf8_eq_some_iff, code, Text.utf8Bytes_cons, Text.utf8Bytes_cons,
    StatusLetter.utf8EncodeChar_char, StatusLetter.utf8EncodeChar_char]
  rfl

theorem mem_code_iff (letter : StatusLetter) :
    letter.char ∈ record.code ↔ record.x = letter ∨ record.y = letter := by
  rw [code, List.mem_cons, List.mem_singleton, StatusLetter.char_injective.eq_iff,
    StatusLetter.char_injective.eq_iff, eq_comm, @eq_comm _ letter]

theorem renamed_mem_code_iff : 'R' ∈ record.code ↔ record.isRenamed = true := by
  rw [isRenamed, Bool.or_eq_true, decide_eq_true_iff, decide_eq_true_iff]
  exact record.mem_code_iff .renamed

theorem deleted_mem_code_iff : 'D' ∈ record.code ↔ record.isDeleted = true := by
  rw [isDeleted, Bool.or_eq_true, decide_eq_true_iff, decide_eq_true_iff]
  exact record.mem_code_iff .deleted

theorem code_eq_iff : record.code = "??".toList ↔ record.isUntracked = true := by
  rw [isUntracked, Bool.and_eq_true, decide_eq_true_iff, decide_eq_true_iff]
  have hcode : record.code = "??".toList ↔
      record.x.char = StatusLetter.untracked.char ∧
        record.y.char = StatusLetter.untracked.char := by
    simp [code, StatusLetter.char]
  rw [hcode, StatusLetter.char_injective.eq_iff, StatusLetter.char_injective.eq_iff]

end StatusRecord

/-! ## The marked paths -/

section Entries

variable {readFileSha256 : Text → Except Text (Option Text)} {record : StatusRecord}

/-- The entry of a record. -/
theorem gitStatusEntry_eq_ok_iff
    {path : Text} {oldPath : Option Text} {entry : GitStatusEntry} :
    gitStatusEntry readFileSha256 record.code path oldPath = .ok entry ↔
      ∃ digest, readFileSha256 (normalizeRepoPath path) = .ok digest ∧
        entry = ⟨path, oldPath, record.isUntracked, record.isDeleted, record.isRenamed,
          digest⟩ := by
  rw [gitStatusEntry, map_eq_ok_iff]
  simp only [record.renamed_mem_code_iff, record.deleted_mem_code_iff,
    record.code_eq_iff, Bool.decide_eq_true, @eq_comm _ entry]

/-- The fields that a reader takes from a record: the old path, and what is left. -/
def takenOrigin (record : StatusRecord) (rest : List (List UInt8)) :
    Option Text × List (List UInt8) :=
  if record.isRenamed then
    (record.origin.map fun origin => (Text.fromUtf8 origin.bytes).getD [], rest)
  else (none, (record.origin.map PathBytes.bytes).toList ++ rest)

theorem StatusRecord.origin_isSome_of_isRenamed (h : record.isRenamed = true) :
    ∃ origin, record.origin = some origin := by
  rw [← Option.isSome_iff_exists, record.origin_isSome]
  rw [isRenamed, Bool.or_eq_true, decide_eq_true_iff, decide_eq_true_iff] at h
  exact h.imp .inl .inl

/-- One record at the front of the fields. -/
theorem parseGitStatusFields_record (rest : List (List UInt8))
    (entries : List GitStatusEntry) :
    parseGitStatusFields readFileSha256 (record.fields ++ rest) = .ok entries ↔
      ∃ path entry more, Text.utf8Bytes path = record.path.bytes ∧
        gitStatusEntry readFileSha256 record.code path (takenOrigin record rest).1 =
          .ok entry ∧
        parseGitStatusFields readFileSha256 (takenOrigin record rest).2 = .ok more ∧
        entries = entry :: more := by
  obtain ⟨first, tail, hpath⟩ := List.exists_cons_of_ne_nil record.path.ne_nil
  rw [StatusRecord.fields, hpath, List.cons_append, parseGitStatusFields]
  simp only [bind_eq_ok_iff, required_eq_ok_iff, record.fromUtf8_code,
    Option.some.injEq, exists_eq_left', Text.fromUtf8_eq_some_iff]
  refine exists_congr fun path => ?_
  by_cases hrenamed : record.isRenamed = true
  · obtain ⟨origin, horigin⟩ := record.origin_isSome_of_isRenamed hrenamed
    rw [if_pos (record.renamed_mem_code_iff.2 hrenamed), takenOrigin, if_pos hrenamed,
      horigin]
    simp only [Option.map_some, Option.toList_some, List.singleton_append,
      bind_eq_ok_iff, pure_eq_ok_iff]
    constructor
    · rintro ⟨hbytes, entry, hentry, more, hmore, hentries⟩
      exact ⟨entry, more, hbytes, hentry, hmore, hentries.symm⟩
    · rintro ⟨entry, more, hbytes, hentry, hmore, hentries⟩
      exact ⟨hbytes, entry, hentry, more, hmore, hentries.symm⟩
  · rw [if_neg fun h => hrenamed (record.renamed_mem_code_iff.1 h), takenOrigin,
      if_neg hrenamed]
    simp only [bind_eq_ok_iff, pure_eq_ok_iff]
    constructor
    · rintro ⟨hbytes, entry, hentry, more, hmore, hentries⟩
      exact ⟨entry, more, hbytes, hentry, hmore, hentries.symm⟩
    · rintro ⟨entry, more, hbytes, hentry, hmore, hentries⟩
      exact ⟨hbytes, entry, hentry, more, hmore, hentries.symm⟩

theorem entryRecovers_iff
    {path : Text} {oldPath digest : Option Text} :
    EntryRecovers ⟨path, oldPath, record.isUntracked, record.isDeleted,
        record.isRenamed, digest⟩ record ↔
      Text.utf8Bytes path = record.path.bytes ∧
        oldPath.map Text.utf8Bytes = record.origin.map PathBytes.bytes := by
  constructor
  · intro h
    exact ⟨h.path, h.oldPath⟩
  · rintro ⟨hpath, hold⟩
    exact ⟨hpath, hold, rfl, rfl, rfl⟩

/-- The old path of an entry is the origin exactly when the record is no mere copy and
its origin is a text; the next record follows then. -/
theorem takenOrigin_recovers_iff (rest : List (List UInt8)) :
    (takenOrigin record rest).1.map Text.utf8Bytes =
        record.origin.map PathBytes.bytes ↔
      (record.origin.isSome = true → record.isRenamed = true) ∧
        ∀ origin ∈ record.origin, IsText origin := by
  rw [takenOrigin]
  by_cases hrenamed : record.isRenamed = true
  · obtain ⟨origin, horigin⟩ := record.origin_isSome_of_isRenamed hrenamed
    rw [if_pos hrenamed, horigin]
    simp only [Option.map_some, Option.some.injEq, Option.isSome_some, hrenamed,
      implies_true, true_and, Option.mem_some_iff, forall_eq', IsText]
    constructor
    · intro h
      exact ⟨_, h⟩
    · rintro ⟨t, ht⟩
      rw [(Text.fromUtf8_eq_some_iff _ _).2 ht, Option.getD_some, ht]
  · rw [if_neg hrenamed]
    cases horigin : record.origin with
    | none => simp
    | some origin => simp [hrenamed]

theorem takenOrigin_rest
    (h : record.origin.isSome = true → record.isRenamed = true)
    (rest : List (List UInt8)) : (takenOrigin record rest).2 = rest := by
  rw [takenOrigin]
  by_cases hrenamed : record.isRenamed = true
  · rw [if_pos hrenamed]
  · have hnone : record.origin = none := by
      rw [← Option.not_isSome_iff_eq_none]
      exact fun hsome => hrenamed (h hsome)
    rw [if_neg hrenamed, hnone]
    rfl

end Entries

/-- The listing recovers the records exactly when each of them is readable. -/
theorem parseGitStatus_recovers_iff
    (readFileSha256 : Text → Except Text (Option Text)) (records : List StatusRecord) :
    (∃ entries, parseGitStatusFields readFileSha256
          (records.flatMap StatusRecord.fields) = .ok entries ∧
        List.Forall₂ EntryRecovers entries records) ↔
      ∀ record ∈ records, Readable readFileSha256 record := by
  induction records with
  | nil =>
      refine iff_of_true ⟨[], rfl, .nil⟩ ?_
      intro record hrecord
      cases hrecord
  | cons record rest ih =>
      rw [List.forall_mem_cons, ← ih, List.flatMap_cons]
      constructor
      · rintro ⟨entries, hparse, hrecovers⟩
        obtain ⟨path, entry, more, hbytes, hentry, hmore, rfl⟩ :=
          (parseGitStatusFields_record _ _).1 hparse
        obtain ⟨digest, hdigest, rfl⟩ := gitStatusEntry_eq_ok_iff.1 hentry
        obtain ⟨hfirst, hrest⟩ := List.forall₂_cons.1 hrecovers
        obtain ⟨hrenamed, horigin⟩ := (takenOrigin_recovers_iff _).1
          (entryRecovers_iff.1 hfirst).2
        rw [takenOrigin_rest hrenamed] at hmore
        exact ⟨⟨hrenamed, ⟨path, digest, hbytes, hdigest⟩, horigin⟩, more, hmore, hrest⟩
      · rintro ⟨hrecord, more, hmore, hrest⟩
        obtain ⟨path, digest, hbytes, hdigest⟩ := hrecord.path
        refine ⟨⟨path, (takenOrigin record (rest.flatMap StatusRecord.fields)).1,
          record.isUntracked, record.isDeleted, record.isRenamed, digest⟩ :: more,
          (parseGitStatusFields_record _ _).2 ⟨path, _, more, hbytes,
            gitStatusEntry_eq_ok_iff.2 ⟨digest, hdigest, rfl⟩, ?_, rfl⟩,
          List.forall₂_cons.2 ⟨?_, hrest⟩⟩
        · rw [takenOrigin_rest hrecord.renamed]
          exact hmore
        · exact entryRecovers_iff.2 ⟨hbytes, (takenOrigin_recovers_iff _).2
            ⟨hrecord.renamed, hrecord.origin⟩⟩

/-! ## The manifest -/

/-- Push a value when it belongs to the class of a list. -/
def pushIf (belongs : Bool) (values : List Text) (value : Text) : List Text :=
  if belongs then pushUnique values value else values

namespace StatusRecord

/-- The path as the manifest spells it. -/
def text (record : StatusRecord) : Text :=
  Text.fromUtf8Lossy record.path.bytes

/-- A rename as the manifest spells it. -/
def renameText (record : StatusRecord) : Text :=
  ((record.origin.map fun origin => Text.fromUtf8Lossy origin.bytes).getD []) ++
    " -> ".toList ++ record.text

/-- The manifest after one more record. -/
def addTo (manifest : ChangedFilesManifest) (record : StatusRecord) :
    ChangedFilesManifest :=
  { manifest with
    files := pushIf true manifest.files record.text
    stagedChanges := pushIf record.isStaged manifest.stagedChanges record.text
    unstagedChanges := pushIf record.isUnstaged manifest.unstagedChanges record.text
    deletedFiles := pushIf record.isDeleted manifest.deletedFiles record.text
    renamedFiles := pushIf record.isRenamed manifest.renamedFiles record.renameText
    conflictedFiles :=
      pushIf record.isConflicted manifest.conflictedFiles record.text
    untrackedFiles := pushIf record.isUntracked manifest.untrackedFiles record.text }

/-- The record can be told from its two fields. -/
structure Recoverable (record : StatusRecord) : Prop where
  renamed : record.origin.isSome = true → record.isRenamed = true
  path : IsText record.path
  origin : ∀ origin ∈ record.origin, IsText origin

end StatusRecord

theorem utf8Bytes_lossy {path : PathBytes} (h : IsText path) :
    Text.utf8Bytes (Text.fromUtf8Lossy path.bytes) = path.bytes := by
  obtain ⟨t, ht⟩ := h
  rw [← ht, Text.fromUtf8Lossy_utf8Bytes]

theorem lossy_ne_nil {path : PathBytes} (h : IsText path) :
    Text.fromUtf8Lossy path.bytes ≠ [] := by
  intro hnil
  have hbytes := utf8Bytes_lossy h
  rw [hnil] at hbytes
  exact path.ne_nil hbytes.symm

section Manifest

variable {record : StatusRecord}

theorem isConflictedStatus_char :
    isConflictedStatus record.x.char record.y.char = record.isConflicted := by
  rw [isConflictedStatus, StatusRecord.isConflicted]
  cases record.x with
  | _ =>
      cases record.y with
      | _ => rfl

theorem char_changed_iff (letter : StatusLetter) :
    (letter.char ≠ ' ' ∧ letter.char ≠ '?') ↔
      (letter ≠ .unmodified && letter ≠ .untracked) = true := by
  cases letter with
  | _ => decide

theorem pushTracked_eq (manifest : ChangedFilesManifest) (path : Text) :
    pushTracked manifest record.x.char record.y.char path =
      { manifest with
        conflictedFiles := pushIf record.isConflicted manifest.conflictedFiles path
        stagedChanges := pushIf record.isStaged manifest.stagedChanges path
        unstagedChanges := pushIf record.isUnstaged manifest.unstagedChanges path
        deletedFiles := pushIf record.isDeleted manifest.deletedFiles path } := by
  have hdeleted : (record.x.char = 'D' ∨ record.y.char = 'D') ↔
      record.isDeleted = true := by
    rw [← record.deleted_mem_code_iff, StatusRecord.code, List.mem_cons,
      List.mem_singleton, eq_comm, @eq_comm _ record.y.char]
  simp only [pushTracked, isConflictedStatus_char, char_changed_iff, hdeleted]
  rw [← StatusRecord.isStaged, ← StatusRecord.isUnstaged]
  cases record.isConflicted with
  | _ =>
      cases record.isStaged with
      | _ =>
          cases record.isUnstaged with
          | _ =>
              cases record.isDeleted with
              | _ => rfl

/-- An untracked path belongs to no other list. -/
theorem addTo_of_isUntracked (manifest : ChangedFilesManifest)
    (h : record.isUntracked = true) :
    record.addTo manifest =
      { manifest with
        files := pushUnique manifest.files record.text
        untrackedFiles := pushUnique manifest.untrackedFiles record.text } := by
  obtain ⟨hx, hy⟩ := Bool.and_eq_true_iff.1 h
  rw [decide_eq_true_iff] at hx hy
  simp [StatusRecord.addTo, pushIf, StatusRecord.isStaged, StatusRecord.isUnstaged,
    StatusRecord.isDeleted, StatusRecord.isRenamed, StatusRecord.isConflicted,
    StatusRecord.isUntracked, hx, hy]

/-- The manifest takes one record from the front of the entries. -/
theorem parsePorcelainEntries_record
    (h : record.Recoverable) (manifest : ChangedFilesManifest)
    (rest : List (List UInt8)) :
    parsePorcelainEntries manifest (record.fields ++ rest) =
      parsePorcelainEntries (record.addTo manifest) rest := by
  obtain ⟨first, tail, hpath⟩ := List.exists_cons_of_ne_nil record.path.ne_nil
  have htext : Text.fromUtf8Lossy (first :: tail) = record.text := by
    rw [StatusRecord.text, hpath]
  have hne : record.text ≠ [] := lossy_ne_nil h.path
  rw [StatusRecord.fields, hpath, List.cons_append, parsePorcelainEntries]
  simp only [htext, StatusLetter.byteChar_byte, if_neg hne]
  have huntracked : (record.x.char = '?' ∧ record.y.char = '?') ↔
      record.isUntracked = true := by
    rw [← record.code_eq_iff]
    simp [StatusRecord.code]
  have hrenamed : (record.x.char = 'R' ∨ record.y.char = 'R') ↔
      record.isRenamed = true := by
    rw [← record.renamed_mem_code_iff, StatusRecord.code, List.mem_cons,
      List.mem_singleton, eq_comm, @eq_comm _ record.y.char]
  by_cases hnew : record.isUntracked = true
  · have horigin : record.origin = none := by
      rw [← Option.not_isSome_iff_eq_none]
      intro hsome
      have hmoved := h.renamed hsome
      obtain ⟨hx, hy⟩ := Bool.and_eq_true_iff.1 hnew
      rw [decide_eq_true_iff] at hx hy
      simp [StatusRecord.isRenamed, hx, hy] at hmoved
    rw [if_pos (huntracked.2 hnew), horigin, addTo_of_isUntracked manifest hnew]
    rfl
  rw [if_neg fun h => hnew (huntracked.1 h), pushTracked_eq]
  have hkept : record.isUntracked = false := Bool.eq_false_iff.2 hnew
  by_cases hmoved : record.isRenamed = true
  · obtain ⟨origin, horigin⟩ := record.origin_isSome_of_isRenamed hmoved
    have hold := lossy_ne_nil (h.origin origin horigin)
    rw [if_pos (hrenamed.2 hmoved), horigin]
    simp only [Option.map_some, Option.toList_some, List.singleton_append, if_neg hold]
    rw [pushRenamed, StatusRecord.addTo, StatusRecord.renameText, horigin, hmoved,
      hkept]
    rfl
  · have horigin : record.origin = none := by
      rw [← Option.not_isSome_iff_eq_none]
      exact fun hsome => hmoved (h.renamed hsome)
    rw [if_neg fun h => hmoved (hrenamed.1 h), horigin, StatusRecord.addTo, hkept,
      Bool.eq_false_iff.2 hmoved]
    rfl

theorem parsePorcelainEntries_records
    {records : List StatusRecord} (h : ∀ record ∈ records, record.Recoverable)
    (manifest : ChangedFilesManifest) :
    parsePorcelainEntries manifest (records.flatMap StatusRecord.fields) =
      records.foldl (fun manifest record => record.addTo manifest) manifest := by
  induction records generalizing manifest with
  | nil => rfl
  | cons record rest ih =>
      rw [List.flatMap_cons,
        parsePorcelainEntries_record (h record List.mem_cons_self), List.foldl_cons]
      exact ih (fun other hother => h other (List.mem_cons_of_mem record hother)) _

/-- A list of the manifest holds the values of its records. -/
theorem list_foldl_addTo
    {list : ChangedFilesManifest → List Text} {belongs : StatusRecord → Bool}
    {value : StatusRecord → Text}
    (hlist : ∀ manifest record, list (StatusRecord.addTo manifest record) =
      pushIf (belongs record) (list manifest) (value record))
    (records : List StatusRecord) (manifest : ChangedFilesManifest) :
    list (records.foldl (fun manifest record => record.addTo manifest) manifest) =
      ((records.filter belongs).map value).foldl pushUnique (list manifest) := by
  induction records generalizing manifest with
  | nil => rfl
  | cons record rest ih =>
      rw [List.foldl_cons, ih, hlist, pushIf]
      by_cases hbelongs : belongs record = true
      · rw [if_pos hbelongs, List.filter_cons_of_pos hbelongs]
        rfl
      · rw [if_neg hbelongs, List.filter_cons_of_neg hbelongs]

/-- In bytes, a list holds what its records say, without repetition. -/
theorem list_recovers
    {list : ChangedFilesManifest → List Text} {belongs : StatusRecord → Bool}
    {value : StatusRecord → Text} {bytes : StatusRecord → List UInt8}
    (hlist : ∀ manifest record, list (StatusRecord.addTo manifest record) =
      pushIf (belongs record) (list manifest) (value record))
    (hempty : list {} = [])
    {records : List StatusRecord}
    (hvalue : ∀ record ∈ records, belongs record = true →
      Text.utf8Bytes (value record) = bytes record) :
    (list (records.foldl (fun manifest record => record.addTo manifest) {})).map
        Text.utf8Bytes =
      distinct ((records.filter belongs).map bytes) := by
  rw [list_foldl_addTo hlist, hempty, map_foldl_pushUnique Text.utf8Bytes_injective,
    distinct, List.map_map, List.map_nil]
  congr 1
  refine List.map_congr_left fun record hrecord => ?_
  obtain ⟨hmem, hbelongs⟩ := List.mem_filter.1 hrecord
  exact hvalue record hmem hbelongs

/-- The manifest of recoverable records holds their paths in the lists of their
letters. -/
theorem manifest_recovers
    {records : List StatusRecord} (h : ∀ record ∈ records, record.Recoverable) :
    ManifestRecovers (parsePorcelainStatus (StatusRecord.encode records)) records := by
  rw [parsePorcelainStatus, statusFields_encode, parsePorcelainEntries_records h]
  have htext : ∀ {belongs : StatusRecord → Bool}, ∀ record ∈ records,
      belongs record = true → Text.utf8Bytes record.text = record.path.bytes :=
    fun record hrecord _ => utf8Bytes_lossy (h record hrecord).path
  have hfiles := @list_recovers ChangedFilesManifest.files (fun _ => true)
    StatusRecord.text (fun record => record.path.bytes) (fun _ _ => rfl) rfl records
    htext
  refine ⟨?_, list_recovers (fun _ _ => rfl) rfl htext,
    list_recovers (fun _ _ => rfl) rfl htext, list_recovers (fun _ _ => rfl) rfl htext,
    list_recovers (fun _ _ => rfl) rfl ?_, list_recovers (fun _ _ => rfl) rfl htext,
    list_recovers (fun _ _ => rfl) rfl htext⟩
  · rwa [List.filter_true] at hfiles
  · intro record hrecord hrenamed
    obtain ⟨origin, horigin⟩ := record.origin_isSome_of_isRenamed hrenamed
    rw [StatusRecord.renameText, StatusRecord.renameBytes, horigin, Option.map_some,
      Option.map_some, Option.getD_some, Option.getD_some, Text.utf8Bytes_append,
      Text.utf8Bytes_append, utf8Bytes_lossy ((h record hrecord).origin origin horigin),
      StatusRecord.text, utf8Bytes_lossy (h record hrecord).path]

end Manifest

/-- Both readers recover the records exactly when no record is a mere copy, every path is
a text and every file can be read. -/
theorem readers_recover_iff
    (readFileSha256 : Text → Except Text (Option Text)) (records : List StatusRecord) :
    ReadersRecover readFileSha256 records ↔
      ∀ record ∈ records, Readable readFileSha256 record := by
  rw [← parseGitStatus_recovers_iff, ReadersRecover, parseGitStatus,
    statusFields_encode, and_iff_right_iff_imp, parseGitStatus_recovers_iff]
  intro h
  apply manifest_recovers
  intro record hrecord
  obtain ⟨t, digest, ht, -⟩ := (h record hrecord).path
  exact ⟨(h record hrecord).renamed, ⟨t, ht⟩, (h record hrecord).origin⟩

/-! ## A copy -/

/-- A file that was copied from a path that looks like a record. -/
def copyRecord : StatusRecord where
  x := .copied
  y := .unmodified
  path := ⟨Text.utf8Bytes "new".toList, by decide, by decide⟩
  origin := some ⟨Text.utf8Bytes "?? old".toList, by decide, by decide⟩
  origin_isSome := by decide

/-- The origin of a copy is taken for an untracked path. -/
theorem copy_origin_is_taken_for_a_record :
    ¬∀ records : List StatusRecord, ReadersRecover (fun _ => .ok none) records := by
  intro h
  have hrecover := (h [copyRecord]).1.untracked
  have huntracked : (parsePorcelainStatus
      (StatusRecord.encode [copyRecord])).untrackedFiles = ["old".toList] := by
    decide
  rw [huntracked] at hrecover
  exact absurd hrecover (by decide)

end ChainworksForge.Worktree
