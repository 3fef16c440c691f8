import ChainworksForge.Audit.Intact
import Mathlib.Data.List.Forall2

/-!
# Alterations that verification notices

A log is built by appends and checkpoints, and then its rows are altered by someone
else.  If the hash has no collision among the texts that the two logs make it hash,
verification succeeds exactly for the alterations that leave what is hashed as it was:
an absent column and an empty one are hashed alike, and of the columns that are not
hashed at all nothing is noticed.
-/

namespace ChainworksForge.Audit

open ChainworksForge.Support

/-! ## What is hashed -/

/-- A digest is written with sixty-four hexadecimal digits. -/
def IsHexDigest (digest : Text) : Prop :=
  digest.length = 64 ∧ ∀ c ∈ digest, c ∈ "0123456789abcdef".toList

def HexDigests (sha256 : Text → Text) : Prop := ∀ text, IsHexDigest (sha256 text)

/-- Columns with the absent texts filled in as empty ones. -/
def AuditColumns.filled (columns : AuditColumns) : AuditColumns :=
  { columns with
    principalId := some (columns.principalId.getD [])
    principalClass := some (columns.principalClass.getD [])
    callerClass := some (columns.callerClass.getD [])
    tokenId := some (columns.tokenId.getD [])
    denialReasonCode := some (columns.denialReasonCode.getD [])
    rowId := some (columns.rowId.getD [])
    envGateState := some (columns.envGateState.getD [])
    sourceIpHashOrLocalProcessId := some (columns.sourceIpHashOrLocalProcessId.getD []) }

section Texts

variable (sha256 : Text → Text)

/-- The fields that verification joins for a row. -/
def verifiedFields (row : AuditLogRow) : List Text :=
  row.canonicalFields
    (if row.diagnosticTruncated ≠ 0 then row.payloadSha256 else sha256 row.payload)
    (intText row.diagnosticTruncated) (row.prevHash.getD [])

/-- The text whose hash is the hash of a row. -/
def verifiedText (row : AuditLogRow) : Text := joinFields (verifiedFields sha256 row)

/-- The text whose hash is the hash of a checkpoint with given row hashes. -/
def checkpointText (checkpoint : AuditLogCheckpoint) (rowHashes : List Text) : Text :=
  checkpoint.previousCheckpointHash.getD [] ++ rowHashes.flatten ++
    joinFields [checkpoint.checkpointId, intText checkpoint.checkpointSeq,
      checkpoint.coveredStartId, checkpoint.coveredEndId,
      intText checkpoint.coveredRowCount, intText checkpoint.createdAtMs]

/-- The texts that the verification of a checkpoint hashes for its rows and for
itself. -/
def hashedTexts (db : AuditLog) (checkpoint : AuditLogCheckpoint) : List Text :=
  checkpointText checkpoint ((coveredWindow db checkpoint).map AuditLogRow.rowHash) ::
    (coveredWindow db checkpoint).map (verifiedText sha256)

/-- The hash has no collision among some texts. -/
def NoCollisions (texts : List Text) : Prop :=
  ∀ text ∈ texts, ∀ other ∈ texts, sha256 text = sha256 other → text = other

end Texts

variable {sha256 : Text → Text} {db db' : AuditLog}

theorem unitSeparator_notMem_sha256 (hdigests : HexDigests sha256) (text : Text) :
    unitSeparator ∉ sha256 text := by
  intro hmem
  exact absurd ((hdigests text).2 _ hmem) (by decide)

theorem unitSeparator_notMem_intText (n : ℤ) : unitSeparator ∉ intText n := by
  intro hmem
  rcases isDigit_or_minus hmem with hdigit | hminus
  · exact absurd hdigit (by decide)
  · exact absurd hminus (by decide)

/-- The fields of a row determine its columns, up to absent ones. -/
theorem canonicalFields_inj_iff {columns columns' : AuditColumns}
    {payloadSha256 payloadSha256' truncated truncated' prevHash prevHash' : Text} :
    columns.canonicalFields payloadSha256 truncated prevHash =
        columns'.canonicalFields payloadSha256' truncated' prevHash' ↔
      columns.filled = columns'.filled ∧ payloadSha256 = payloadSha256' ∧
        truncated = truncated' ∧ prevHash = prevHash' := by
  have hint {n m : ℤ} : intText n = intText m ↔ n = m := ⟨intText_inj, congrArg intText⟩
  simp only [AuditColumns.canonicalFields, AuditColumns.filled, List.cons.injEq,
    AuditColumns.mk.injEq, Option.some.injEq, hint]
  tauto

/-! ## The same evidence -/

/-- Verification cannot tell two rows apart.  The number of a row, the version of its
payload and its checkpoint are not hashed; the stored hash of a payload is hashed only
if the payload was truncated. -/
structure SameEvidence (row row' : AuditLogRow) : Prop where
  columns : row.toAuditColumns.filled = row'.toAuditColumns.filled
  truncated : row.diagnosticTruncated = row'.diagnosticTruncated
  payloadSha256 : row.diagnosticTruncated ≠ 0 → row.payloadSha256 = row'.payloadSha256
  prevHash : row.prevHash.getD [] = row'.prevHash.getD []
  rowHash : row.rowHash = row'.rowHash

theorem verifiedFields_eq_iff {row row' : AuditLogRow} :
    verifiedFields sha256 row = verifiedFields sha256 row' ↔
      row.toAuditColumns.filled = row'.toAuditColumns.filled ∧
        row.diagnosticTruncated = row'.diagnosticTruncated ∧
        (row.diagnosticTruncated ≠ 0 → row.payloadSha256 = row'.payloadSha256) ∧
        row.prevHash.getD [] = row'.prevHash.getD [] := by
  rw [verifiedFields, verifiedFields, canonicalFields_inj_iff]
  constructor
  · rintro ⟨hcolumns, hpayload, htruncated, hprev⟩
    have htruncated := intText_inj htruncated
    refine ⟨hcolumns, htruncated, ?_, hprev⟩
    intro hne
    rwa [if_pos hne, if_pos (htruncated ▸ hne)] at hpayload
  · rintro ⟨hcolumns, htruncated, hpayload, hprev⟩
    refine ⟨hcolumns, ?_, congrArg intText htruncated, hprev⟩
    have hsame : row.toAuditColumns.filled.payload = row'.toAuditColumns.filled.payload :=
      congrArg AuditColumns.payload hcolumns
    change row.payload = row'.payload at hsame
    rw [← htruncated, hsame]
    split
    · rename_i hne
      exact hpayload hne
    · rfl

theorem sameEvidence_of_fields {row row' : AuditLogRow}
    (hfields : verifiedFields sha256 row = verifiedFields sha256 row')
    (hhash : row.rowHash = row'.rowHash) : SameEvidence row row' := by
  obtain ⟨hcolumns, htruncated, hpayload, hprev⟩ := verifiedFields_eq_iff.1 hfields
  exact ⟨hcolumns, htruncated, hpayload, hprev, hhash⟩

theorem SameEvidence.verifiedFields_eq {row row' : AuditLogRow} (h : SameEvidence row row')
    (sha256 : Text → Text) : verifiedFields sha256 row = verifiedFields sha256 row' :=
  verifiedFields_eq_iff.2 ⟨h.columns, h.truncated, h.payloadSha256, h.prevHash⟩

/-! ## Rows that can be read back -/

/-- No field of a row contains the separator. -/
def Separable (sha256 : Text → Text) (db : AuditLog) : Prop :=
  ∀ row ∈ db.rows, ∀ field ∈ verifiedFields sha256 row, unitSeparator ∉ field

/-- If no column contains the separator, no field of the row does. -/
theorem notMem_canonicalFields (entry : AuditEntry)
    {payloadSha256 truncated prevHash : Text}
    (hchecked : ∀ field ∈ entry.checkedFields, unitSeparator ∉ field.2.getD [])
    (hpayload : unitSeparator ∉ payloadSha256) (htruncated : unitSeparator ∉ truncated)
    (hprev : unitSeparator ∉ prevHash) :
    ∀ field ∈ entry.canonicalFields payloadSha256 truncated prevHash,
      unitSeparator ∉ field := by
  simp only [AuditEntry.checkedFields, List.forall_mem_cons, Option.getD_some] at hchecked
  simp only [AuditColumns.canonicalFields, List.forall_mem_cons,
    unitSeparator_notMem_intText, not_false_eq_true]
  tauto

/-- A digest of the last row, or nothing, is chained to a new row. -/
theorem notMem_fetchPrevHash (hdigests : HexDigests sha256) (h : Intact sha256 db) :
    unitSeparator ∉ (fetchPrevHash db).getD [] := by
  rw [fetchPrevHash, h.byRowid_eq]
  cases hlast : db.rows.getLast? with
  | none => simp
  | some last =>
      rw [Option.map_some, Option.getD_some, ← h.hashes last (List.mem_of_getLast? hlast)]
      exact unitSeparator_notMem_sha256 hdigests _

theorem Separable.appendTx {entry : AuditEntry} (hdigests : HexDigests sha256)
    (hintact : Intact sha256 db) (h : Separable sha256 db)
    (hrun : Audit.appendTx sha256 db entry = .ok db') : Separable sha256 db' := by
  obtain ⟨rfl, -, hchecked, -⟩ := appendTx_eq_ok hrun
  intro row hrow
  rcases List.mem_append.1 hrow with hrow | hnew
  · exact h row hrow
  · obtain rfl := List.mem_singleton.1 hnew
    refine notMem_canonicalFields entry hchecked ?_
      (unitSeparator_notMem_intText _) (notMem_fetchPrevHash hdigests hintact)
    split
    · change unitSeparator ∉ entry.computedPayloadSha256 sha256
      unfold AuditEntry.computedPayloadSha256
      split
      · exact unitSeparator_notMem_sha256 hdigests _
      · exact unitSeparator_notMem_sha256 hdigests _
    · exact unitSeparator_notMem_sha256 hdigests _

theorem verifiedFields_stamped (checkpointId : Text) (after last : ℤ) (row : AuditLogRow) :
    verifiedFields sha256 (stamped checkpointId after last row) =
      verifiedFields sha256 row := by
  unfold stamped
  split
  · rfl
  · rfl

theorem Separable.writeCheckpoint {minUnchecked : ℕ} {checkpointId : Text} {nowMs : ℤ}
    (h : Separable sha256 db) :
    Separable sha256 (commitResult db
      (writeCheckpointInner sha256 db minUnchecked checkpointId nowMs)) := by
  cases hrun : writeCheckpointInner sha256 db minUnchecked checkpointId nowMs with
  | error message => exact h
  | ok result =>
      obtain ⟨db', written⟩ := result
      rcases writeCheckpointInner_cases hrun with ⟨-, rfl⟩ | ⟨-, first, last, -, -, rfl⟩
      · exact h
      · intro row hrow
        rw [commitResult, rows_stampWindow] at hrow
        obtain ⟨old, hold, rfl⟩ := List.mem_map.1 hrow
        rw [verifiedFields_stamped]
        exact h old hold

/-! ## Built logs -/

/-- The actions that build a log: everything but cleanups. -/
def Builds : AuditAction → Prop
  | .deleteOldRows _ _ => False
  | _ => True

/-- What holds of a log that was built and not altered. -/
def Built (sha256 : Text → Text) (db : AuditLog) : Prop :=
  Intact sha256 db ∧ LatestInPlace sha256 db ∧ Separable sha256 db

theorem built_perform (hdigests : HexDigests sha256) (db : AuditLog) (action : AuditAction)
    (hbuilds : Builds action) (h : Built sha256 db) :
    Built sha256 (perform sha256 db action) := by
  obtain ⟨hintact, hlatest, hseparable⟩ := h
  cases action with
  | append entry =>
      exact appendUntilError_keeps (P := Built sha256)
        (fun log log' new hlog hrun => ⟨hlog.1.appendTx hrun, hlog.2.1.appendTx hrun,
          hlog.2.2.appendTx hdigests hlog.1 hrun⟩) [entry] ⟨hintact, hlatest, hseparable⟩
  | writeCheckpointIfNeeded checkpointId nowMs =>
      exact ⟨hintact.writeCheckpoint, .writeCheckpoint hintact hlatest,
        hseparable.writeCheckpoint⟩
  | writeCheckpointIfNonEmpty checkpointId nowMs =>
      exact ⟨hintact.writeCheckpoint, .writeCheckpoint hintact hlatest,
        hseparable.writeCheckpoint⟩
  | deleteOldRows nowMs probe => exact hbuilds.elim

theorem built_run (hdigests : HexDigests sha256) {actions : List AuditAction}
    (hbuilds : ∀ action ∈ actions, Builds action) :
    Built sha256 (runFrom (perform sha256) emptyLog actions) := by
  have hempty : Built sha256 emptyLog := by
    refine ⟨intact_emptyLog, ?_, ?_⟩
    · intro checkpoint hcheckpoint
      cases hcheckpoint
    · intro row hrow
      cases hrow
  refine runFrom_invariant_of_meets (perform sha256) (C := fun _ => Builds)
    (fun log action => built_perform hdigests log action) hempty ?_
  exact runMeets_of_forall (perform sha256) hbuilds

/-! ## Verification of an altered log -/

/-- Equal checkpoint texts have equal row hashes. -/
theorem rowHashes_eq_of_checkpointText_eq {checkpoint : AuditLogCheckpoint}
    {hashes hashes' : List Text} (hwidth : ∀ hash ∈ hashes, hash.length = 64)
    (hwidth' : ∀ hash ∈ hashes', hash.length = 64)
    (heq : checkpointText checkpoint hashes = checkpointText checkpoint hashes') :
    hashes = hashes' := by
  rw [checkpointText, checkpointText, List.append_left_inj, List.append_right_inj] at heq
  exact flatten_inj_of_length (by decide) hwidth hwidth' heq

/-- What it means that verification succeeds. -/
theorem verifyLatestCheckpoint_eq_verified_iff {checkpoint : AuditLogCheckpoint}
    (hlatest : db.latestCheckpoint = some checkpoint) :
    verifyLatestCheckpoint sha256 db = .verified ↔
      coveredWindow db checkpoint ≠ [] ∧
        (∀ row ∈ coveredWindow db checkpoint, sha256 (verifiedText sha256 row) = row.rowHash) ∧
        sha256 (checkpointText checkpoint
          ((coveredWindow db checkpoint).map AuditLogRow.rowHash)) =
          checkpoint.checkpointHash := by
  simp only [verifyLatestCheckpoint, hlatest]
  split_ifs with hempty hany hhash
  · simp [List.isEmpty_iff.1 hempty]
  · obtain ⟨row, hrow, hne⟩ := List.any_eq_true.1 hany
    simp only [false_iff]
    rintro ⟨-, hall, -⟩
    exact of_decide_eq_true hne (hall row hrow)
  · simp only [true_iff]
    refine ⟨fun hnil => hempty (List.isEmpty_iff.2 hnil), ?_, hhash⟩
    intro row hrow
    by_contra hne
    exact hany (List.any_eq_true.2 ⟨row, hrow, decide_eq_true hne⟩)
  · simp only [false_iff]
    rintro ⟨-, -, hsame⟩
    exact hhash hsame

theorem mem_of_mem_coveredWindow {checkpoint : AuditLogCheckpoint} {row : AuditLogRow}
    (hrow : row ∈ coveredWindow db checkpoint) : row ∈ db.rows := by
  rw [coveredWindow] at hrow
  split at hrow
  · exact (mem_sortByRank AuditLogRow.rowid).1 (List.mem_of_mem_filter hrow)
  · cases hrow

section Altered

variable {altered : AuditLog} {checkpoint : AuditLogCheckpoint}

/-- The evidence of a built log stays if the altered one is verified. -/
theorem sameEvidence_of_verified (hdigests : HexDigests sha256) (hbuilt : Built sha256 db)
    (hlatest : db.latestCheckpoint = some checkpoint)
    (hsame : altered.latestCheckpoint = some checkpoint)
    (hcollisions : NoCollisions sha256
      (hashedTexts sha256 db checkpoint ++ hashedTexts sha256 altered checkpoint))
    (hverified : verifyLatestCheckpoint sha256 db = .verified)
    (hverified' : verifyLatestCheckpoint sha256 altered = .verified) :
    List.Forall₂ SameEvidence (coveredWindow db checkpoint)
      (coveredWindow altered checkpoint) := by
  obtain ⟨-, hrows, hhash⟩ := (verifyLatestCheckpoint_eq_verified_iff hlatest).1 hverified
  obtain ⟨-, hrows', hhash'⟩ := (verifyLatestCheckpoint_eq_verified_iff hsame).1 hverified'
  have hwidth {rows : List AuditLogRow}
      (h : ∀ row ∈ rows, sha256 (verifiedText sha256 row) = row.rowHash) :
      ∀ hash ∈ rows.map AuditLogRow.rowHash, hash.length = 64 := by
    intro hash hmem
    obtain ⟨row, hrow, rfl⟩ := List.mem_map.1 hmem
    rw [← h row hrow]
    exact (hdigests _).1
  -- the two checkpoint texts have one hash
  have htexts := hcollisions _ (List.mem_append_left _ List.mem_cons_self) _
    (List.mem_append_right _ List.mem_cons_self) (hhash.trans hhash'.symm)
  have hhashes : (coveredWindow db checkpoint).map AuditLogRow.rowHash =
      (coveredWindow altered checkpoint).map AuditLogRow.rowHash :=
    rowHashes_eq_of_checkpointText_eq (hwidth hrows) (hwidth hrows') htexts
  refine forall₂_of_map_eq hhashes ?_
  intro row hrow row' hrow' hrowHash
  have htext : verifiedText sha256 row = verifiedText sha256 row' := by
    refine hcollisions _ ?_ _ ?_ ?_
    · exact List.mem_append_left _ (List.mem_cons_of_mem _ (List.mem_map_of_mem hrow))
    · exact List.mem_append_right _ (List.mem_cons_of_mem _ (List.mem_map_of_mem hrow'))
    · rw [hrows row hrow, hrows' row' hrow', hrowHash]
  have hfields : verifiedFields sha256 row = verifiedFields sha256 row' :=
    intercalate_inj unitSeparator rfl (hbuilt.2.2 row (mem_of_mem_coveredWindow hrow)) htext
  exact sameEvidence_of_fields hfields hrowHash

/-- What is hashed stays, so the altered log is verified. -/
theorem verified_of_sameEvidence (hlatest : db.latestCheckpoint = some checkpoint)
    (hsame : altered.latestCheckpoint = some checkpoint)
    (hverified : verifyLatestCheckpoint sha256 db = .verified)
    (hevidence : List.Forall₂ SameEvidence (coveredWindow db checkpoint)
      (coveredWindow altered checkpoint)) :
    verifyLatestCheckpoint sha256 altered = .verified := by
  obtain ⟨hfilled, hrows, hhash⟩ :=
    (verifyLatestCheckpoint_eq_verified_iff hlatest).1 hverified
  have hmap {f : AuditLogRow → Text} (hf : ∀ row row', SameEvidence row row' → f row = f row') :
      (coveredWindow db checkpoint).map f = (coveredWindow altered checkpoint).map f := by
    rw [← List.forall₂_eq_eq_eq, List.forall₂_map_left_iff, List.forall₂_map_right_iff]
    exact hevidence.imp hf
  have hhashes : (coveredWindow db checkpoint).map AuditLogRow.rowHash =
      (coveredWindow altered checkpoint).map AuditLogRow.rowHash :=
    hmap fun row row' h => h.rowHash
  have hcomputed : (coveredWindow db checkpoint).map
        (fun row => sha256 (verifiedText sha256 row)) =
      (coveredWindow altered checkpoint).map fun row => sha256 (verifiedText sha256 row) :=
    hmap fun row row' h =>
      congrArg (fun fields => sha256 (joinFields fields)) (h.verifiedFields_eq sha256)
  have hrows' : ∀ row' ∈ coveredWindow altered checkpoint,
      sha256 (verifiedText sha256 row') = row'.rowHash := by
    have hsealed := List.map_congr_left hrows
    rw [hhashes, hcomputed] at hsealed
    exact List.map_inj_left.1 hsealed
  refine (verifyLatestCheckpoint_eq_verified_iff hsame).2 ⟨?_, hrows', ?_⟩
  · intro hnil
    rw [hnil, List.forall₂_nil_right_iff] at hevidence
    exact hfilled hevidence
  · rw [← hhashes]
    exact hhash

/-- The latest checkpoint of a built log is verified. -/
theorem Built.verified (hbuilt : Built sha256 db)
    (hlatest : db.latestCheckpoint = some checkpoint) :
    verifyLatestCheckpoint sha256 db = .verified := by
  rcases hbuilt.1.verifyLatestCheckpoint_eq hbuilt.2.1 with hnone | hverified
  · simp only [verifyLatestCheckpoint, hlatest] at hnone
    split_ifs at hnone
  · exact hverified

end Altered

/-- Rows of a built log are altered, and its checkpoints are not.  If the hash has no
collision among the hashed texts, the latest checkpoint is verified exactly if its
window still holds the same evidence, row by row. -/
theorem altered_window_is_noticed (sha256 : Text → Text) (hdigests : HexDigests sha256)
    (actions : List AuditAction) (hbuilds : ∀ action ∈ actions, Builds action)
    (db : AuditLog) (hdb : db = runFrom (perform sha256) emptyLog actions)
    (checkpoint : AuditLogCheckpoint) (hlatest : db.latestCheckpoint = some checkpoint)
    (rows : List AuditLogRow)
    (hcollisions : NoCollisions sha256 (hashedTexts sha256 db checkpoint ++
      hashedTexts sha256 { db with rows := rows } checkpoint)) :
    verifyLatestCheckpoint sha256 { db with rows := rows } = .verified ↔
      List.Forall₂ SameEvidence (coveredWindow db checkpoint)
        (coveredWindow { db with rows := rows } checkpoint) := by
  have hbuilt : Built sha256 db := hdb ▸ built_run hdigests hbuilds
  have hverified := hbuilt.verified hlatest
  constructor
  · exact sameEvidence_of_verified hdigests hbuilt hlatest hlatest hcollisions hverified
  · exact verified_of_sameEvidence hlatest hlatest hverified

/-! ## A stored hash that nothing compares -/

def sampleLog : AuditLog := runFrom (perform sampleSha256) emptyLog coveredRun

/-- The two rows of the sample after someone has written over the stored hash of the
first payload. -/
def overwrittenRows : List AuditLogRow :=
  sampleLog.rows.map fun row =>
    if row.id = "a".toList then { row with payloadSha256 := List.replicate 64 'f' } else row

def sampleCheckpoint : AuditLogCheckpoint where
  checkpointId := "cp1".toList
  checkpointSeq := 1
  coveredStartId := "a".toList
  coveredEndId := "b".toList
  coveredRowCount := 2
  previousCheckpointHash := none
  checkpointHash := digestCheckpoint
  createdAtMs := 1

theorem isHexDigest_hexText (digest : ℕ) : IsHexDigest (hexText digest) := by
  have hdigit : ∀ d < 16, hexDigit d ∈ "0123456789abcdef".toList := by decide
  constructor
  · rw [hexText, List.length_map, List.length_range]
  · intro c hc
    obtain ⟨idx, -, rfl⟩ := List.mem_map.1 hc
    exact hdigit _ (Nat.mod_lt _ (by decide))

theorem hexDigests_sampleSha256 : HexDigests sampleSha256 := by
  have htable : ∀ digest ∈ sampleDigests, IsHexDigest digest.2 := by
    simp only [sampleDigests, List.forall_mem_cons, digestPayload, digestYoung, digestOld,
      digestCheckpoint, digestProbePayload, digestProbe, digestSecondCheckpoint,
      digestEarlyProbe, isHexDigest_hexText, true_and]
    simp
  intro text
  rw [sampleSha256]
  cases hfind : sampleDigests.find? fun digest => digest.1 = text with
  | none => exact ⟨List.length_replicate, by simp⟩
  | some digest => exact htable digest (List.mem_of_find?_eq_some hfind)

theorem builds_coveredRun : ∀ action ∈ coveredRun, Builds action := by
  simp [coveredRun, Builds]

theorem latestCheckpoint_sampleLog :
    sampleLog.latestCheckpoint = some sampleCheckpoint := by
  decide +kernel

theorem noCollisions_overwrittenRows :
    NoCollisions sampleSha256 (hashedTexts sampleSha256 sampleLog sampleCheckpoint ++
      hashedTexts sampleSha256 { sampleLog with rows := overwrittenRows }
        sampleCheckpoint) := by
  unfold NoCollisions
  decide +kernel

theorem overwritten_window_is_compared :
    verifyLatestCheckpoint sampleSha256 { sampleLog with rows := overwrittenRows } =
        .verified ↔
      List.Forall₂ SameEvidence (coveredWindow sampleLog sampleCheckpoint)
        (coveredWindow { sampleLog with rows := overwrittenRows } sampleCheckpoint) :=
  altered_window_is_noticed sampleSha256 hexDigests_sampleSha256 coveredRun
    builds_coveredRun sampleLog rfl sampleCheckpoint latestCheckpoint_sampleLog
    overwrittenRows noCollisions_overwrittenRows

/-- The stored hash of a payload can be written over without notice. -/
theorem overwritten_payload_hash_is_verified :
    ¬∀ (sha256 : Text → Text), HexDigests sha256 → ∀ actions : List AuditAction,
      (∀ action ∈ actions, Builds action) → ∀ (db : AuditLog),
      db = runFrom (perform sha256) emptyLog actions → ∀ checkpoint,
      db.latestCheckpoint = some checkpoint → ∀ rows : List AuditLogRow,
      NoCollisions sha256 (hashedTexts sha256 db checkpoint ++
        hashedTexts sha256 { db with rows := rows } checkpoint) →
      (coveredWindow { db with rows := rows } checkpoint).map
          (fun row => { row with checkpointId := none }) ≠
        (coveredWindow db checkpoint).map (fun row => { row with checkpointId := none }) →
      verifyLatestCheckpoint sha256 { db with rows := rows } ≠ .verified := by
  intro hall
  refine hall sampleSha256 hexDigests_sampleSha256 coveredRun builds_coveredRun sampleLog rfl
    sampleCheckpoint latestCheckpoint_sampleLog overwrittenRows
    noCollisions_overwrittenRows ?_ ?_
  · decide +kernel
  · decide +kernel

end ChainworksForge.Audit
