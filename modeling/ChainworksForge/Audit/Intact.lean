import ChainworksForge.Audit.Log
import ChainworksForge.Support.Ascending

/-!
# Logs without outside edits

Rows stand in the order of their numbers and hold their own hash.  The window of the
latest checkpoint stays where it is: rows are appended behind it, and a cleanup
either spares it or makes holes in it.  As long as every cleanup spares it, the
verification of the latest checkpoint succeeds.
-/

namespace ChainworksForge.Audit

open ChainworksForge.Support

variable {sha256 : Text → Text} {db db' : AuditLog}

/-! ## Rows in place -/

/-- The rows of a log that only the operations have changed. -/
structure Intact (sha256 : Text → Text) (db : AuditLog) : Prop where
  ascending : db.rows.Pairwise fun a b => a.rowid < b.rowid
  positive : ∀ row ∈ db.rows, 0 < row.rowid
  ids : (db.rows.map fun row => row.id).Nodup
  hashes : ∀ row ∈ db.rows, computeRowHashForVerification sha256 row = row.rowHash
  seqs : db.checkpoints.Pairwise fun a b => a.checkpointSeq < b.checkpointSeq

theorem intact_emptyLog : Intact sha256 emptyLog where
  ascending := .nil
  positive := by simp [emptyLog]
  ids := .nil
  hashes := by simp [emptyLog]
  seqs := .nil

/-- What a checkpoint says of its window. -/
structure Covers (sha256 : Text → Text) (checkpoint : AuditLogCheckpoint)
    (window : List AuditLogRow) : Prop where
  start : (window.head?.map fun row => row.id) = some checkpoint.coveredStartId
  finish : (window.getLast?.map fun row => row.id) = some checkpoint.coveredEndId
  count : checkpoint.coveredRowCount = window.length
  hash : computeCheckpointHash sha256 checkpoint.previousCheckpointHash
    (window.map AuditLogRow.rowHash) checkpoint.checkpointId checkpoint.checkpointSeq
    checkpoint.coveredStartId checkpoint.coveredEndId checkpoint.coveredRowCount
    checkpoint.createdAtMs = checkpoint.checkpointHash

/-- The window of the latest checkpoint stands in the log without gaps. -/
def LatestInPlace (sha256 : Text → Text) (db : AuditLog) : Prop :=
  ∀ checkpoint, db.checkpoints.getLast? = some checkpoint →
    ∃ before window after, db.rows = before ++ window ++ after ∧
      Covers sha256 checkpoint window

section Reading

variable (h : Intact sha256 db)
include h

theorem Intact.byRowid_eq : db.byRowid = db.rows := sortByRank_eq_self h.ascending

theorem Intact.latestCheckpoint_eq : db.latestCheckpoint = db.checkpoints.getLast? := by
  rw [AuditLog.latestCheckpoint, sortByRank_eq_self h.seqs]

theorem Intact.rowidOf_eq {row : AuditLogRow} (hrow : row ∈ db.rows) :
    db.rowidOf row.id = some row.rowid := by
  rw [AuditLog.rowidOf]
  cases hfind : db.rows.find? fun other => other.id = row.id with
  | none =>
      have hnone := List.find?_eq_none.1 hfind row hrow
      simp at hnone
  | some other =>
      have hid : other.id = row.id := by simpa using List.find?_some hfind
      have hsame : other = row := List.inj_on_of_nodup_map h.ids
        (List.mem_of_find?_eq_some hfind) hrow hid
      rw [hsame]
      rfl

/-- A row that stands in the log is found by its identifier. -/
theorem Intact.rowidOf_getLast {before window after : List AuditLogRow} {id : Text}
    (hrows : db.rows = before ++ window ++ after)
    (hfinish : (window.getLast?.map fun row => row.id) = some id) :
    ∃ last, window.getLast? = some last ∧ db.rowidOf id = some last.rowid := by
  obtain ⟨last, hlast, rfl⟩ := Option.map_eq_some_iff.1 hfinish
  refine ⟨last, hlast, h.rowidOf_eq ?_⟩
  rw [hrows]
  exact List.mem_append_left _ (List.mem_append_right _ (List.mem_of_getLast? hlast))

theorem Intact.rowidOf_head {before window after : List AuditLogRow} {id : Text}
    (hrows : db.rows = before ++ window ++ after)
    (hstart : (window.head?.map fun row => row.id) = some id) :
    ∃ first, window.head? = some first ∧ db.rowidOf id = some first.rowid := by
  obtain ⟨first, hfirst, rfl⟩ := Option.map_eq_some_iff.1 hstart
  refine ⟨first, hfirst, h.rowidOf_eq ?_⟩
  rw [hrows]
  exact List.mem_append_left _ (List.mem_append_right _ (List.mem_of_head? hfirst))

/-- The window of a checkpoint is read back as it stands. -/
theorem Intact.coveredWindow_eq {checkpoint : AuditLogCheckpoint}
    {before window after : List AuditLogRow}
    (hrows : db.rows = before ++ window ++ after)
    (hcovers : Covers sha256 checkpoint window) :
    coveredWindow db checkpoint = window := by
  obtain ⟨first, hfirst, hstart⟩ := h.rowidOf_head hrows hcovers.start
  obtain ⟨last, hlast, hfinish⟩ := h.rowidOf_getLast hrows hcovers.finish
  have hascending := h.ascending
  rw [coveredWindow, hstart, hfinish, h.byRowid_eq]
  rw [hrows] at hascending ⊢
  exact filter_between_eq hascending hfirst hlast

theorem Intact.verifyLatestCheckpoint_eq (hlatest : LatestInPlace sha256 db) :
    verifyLatestCheckpoint sha256 db = .noCheckpoints ∨
      verifyLatestCheckpoint sha256 db = .verified := by
  rw [verifyLatestCheckpoint, h.latestCheckpoint_eq]
  cases hcheckpoint : db.checkpoints.getLast? with
  | none => exact .inl rfl
  | some checkpoint =>
      obtain ⟨before, window, after, hrows, hcovers⟩ := hlatest checkpoint hcheckpoint
      have hfilled : window.isEmpty = false := by
        cases window with
        | nil => cases hcovers.start
        | cons row rest => rfl
      have hsealed : (window.any fun row =>
          computeRowHashForVerification sha256 row ≠ row.rowHash) = false := by
        rw [List.any_eq_false]
        intro row hrow
        have hmem : row ∈ db.rows := by
          rw [hrows]
          exact List.mem_append_left _ (List.mem_append_right _ hrow)
        simpa using h.hashes row hmem
      refine .inr ?_
      dsimp only
      rw [h.coveredWindow_eq hrows hcovers, hfilled, hsealed, if_neg (by simp),
        if_neg (by simp), if_pos hcovers.hash]

end Reading

/-! ## Appending -/

theorem appendTx_eq_ok {entry : AuditEntry} (hrun : appendTx sha256 db entry = .ok db') :
    db' = { db with rows := db.rows ++ [entry.row sha256 db] } ∧
      (∀ other ∈ db.rows, other.id ≠ entry.id) ∧
      (∀ field ∈ entry.checkedFields, unitSeparator ∉ field.2.getD []) ∧
      (entry.row sha256 db).passesChecks = true := by
  simp only [appendTx, insertRow, bind_eq_ok_iff, ensure_eq_ok_iff, forM_eq_ok_iff,
    pure_eq_ok_iff, assertNoDelimiter, List.all_eq_true, decide_eq_true_eq] at hrun
  obtain ⟨-, -, -, hfields, -, hchecks, -, hunique, rfl⟩ := hrun
  exact ⟨rfl, fun other hother => (hunique other hother).1, hfields, hchecks⟩

/-- The stored hash of a row is the one that verification computes. -/
theorem computeRowHashForVerification_row (entry : AuditEntry) :
    computeRowHashForVerification sha256 (entry.row sha256 db) =
      (entry.row sha256 db).rowHash := by
  simp only [computeRowHashForVerification, AuditEntry.row, computeRowHash,
    AuditEntry.computedPayloadSha256]
  by_cases htruncated : entry.diagnosticTruncated = true
  · simp [htruncated]
  · simp [htruncated]

theorem Intact.rowid_lt_nextRowid (h : Intact sha256 db) {row : AuditLogRow}
    (hrow : row ∈ db.rows) : row.rowid < db.nextRowid := by
  rw [AuditLog.nextRowid, h.byRowid_eq]
  cases hlast : db.rows.getLast? with
  | none =>
      rw [List.getLast?_eq_none_iff] at hlast
      rw [hlast] at hrow
      cases hrow
  | some last => exact Int.lt_add_one_of_le (rank_le_getLast h.ascending hlast hrow)

theorem Intact.nextRowid_pos (h : Intact sha256 db) : 0 < db.nextRowid := by
  rw [AuditLog.nextRowid, h.byRowid_eq]
  cases hlast : db.rows.getLast? with
  | none => simp
  | some last =>
      have hpos := h.positive last (List.mem_of_getLast? hlast)
      simp only [Option.map_some, Option.getD_some]
      omega

theorem Intact.appendTx {entry : AuditEntry} (h : Intact sha256 db)
    (hrun : appendTx sha256 db entry = .ok db') : Intact sha256 db' := by
  obtain ⟨rfl, hfresh, -, -⟩ := appendTx_eq_ok hrun
  constructor
  · refine List.pairwise_append.2 ⟨h.ascending, List.pairwise_singleton _ _, ?_⟩
    intro row hrow new hnew
    obtain rfl := List.mem_singleton.1 hnew
    exact h.rowid_lt_nextRowid hrow
  · intro row hrow
    rcases List.mem_append.1 hrow with hrow | hnew
    · exact h.positive row hrow
    · obtain rfl := List.mem_singleton.1 hnew
      exact h.nextRowid_pos
  · rw [List.map_append, List.map_singleton]
    refine h.ids.append (List.nodup_singleton _) (List.disjoint_singleton.2 ?_)
    intro hmem
    obtain ⟨other, hother, hid⟩ := List.mem_map.1 hmem
    exact hfresh other hother hid
  · intro row hrow
    rcases List.mem_append.1 hrow with hrow | hnew
    · exact h.hashes row hrow
    · obtain rfl := List.mem_singleton.1 hnew
      exact computeRowHashForVerification_row entry
  · exact h.seqs

theorem LatestInPlace.appendTx {entry : AuditEntry} (h : LatestInPlace sha256 db)
    (hrun : appendTx sha256 db entry = .ok db') : LatestInPlace sha256 db' := by
  obtain ⟨rfl, -⟩ := appendTx_eq_ok hrun
  intro checkpoint hcheckpoint
  obtain ⟨before, window, after, hrows, hcovers⟩ := h checkpoint hcheckpoint
  refine ⟨before, window, after ++ [entry.row sha256 db], ?_, hcovers⟩
  rw [hrows, List.append_assoc _ after]

/-- What every append keeps, a series of appends keeps. -/
theorem appendUntilError_keeps {P : AuditLog → Prop}
    (happend : ∀ db db' entry, P db → Audit.appendTx sha256 db entry = .ok db' → P db')
    (entries : List AuditEntry) {db : AuditLog} (h : P db) :
    P (appendUntilError sha256 db entries) := by
  induction entries generalizing db with
  | nil => exact h
  | cons entry rest ih =>
      rw [appendUntilError]
      split
      · rename_i appended hrun
        exact ih (happend _ _ _ h hrun)
      · exact h

/-! ## Checkpoints -/

/-- The covered rows and the rows behind them. -/
theorem exists_uncheckedRows (h : Intact sha256 db) (hlatest : LatestInPlace sha256 db) :
    ∃ covered, db.rows = covered ++ uncheckedRows db ∧
      (∀ row ∈ covered, row.rowid ≤ lastCoveredRowid db) ∧
      ∀ row ∈ uncheckedRows db, lastCoveredRowid db < row.rowid := by
  have hbehind : ∀ row ∈ uncheckedRows db, lastCoveredRowid db < row.rowid := by
    intro row hrow
    exact of_decide_eq_true (List.mem_filter.1 hrow).2
  cases hcheckpoint : db.checkpoints.getLast? with
  | none =>
      have hzero : lastCoveredRowid db = 0 := by
        rw [lastCoveredRowid, h.latestCheckpoint_eq, hcheckpoint]
      have hall : uncheckedRows db = db.rows := by
        rw [uncheckedRows, h.byRowid_eq, List.filter_eq_self]
        intro row hrow
        rw [hzero]
        exact decide_eq_true (h.positive row hrow)
      exact ⟨[], by rw [hall, List.nil_append], by simp, hbehind⟩
  | some checkpoint =>
      obtain ⟨before, window, after, hrows, hcovers⟩ := hlatest checkpoint hcheckpoint
      obtain ⟨last, hlast, hrowid⟩ := h.rowidOf_getLast hrows hcovers.finish
      have hlastRowid : lastCoveredRowid db = last.rowid := by
        rw [lastCoveredRowid, h.latestCheckpoint_eq, hcheckpoint]
        simp only [hrowid, Option.getD_some]
      have hlast' : (before ++ window).getLast? = some last := by
        rw [List.getLast?_append, hlast]
        rfl
      have hascending := h.ascending
      rw [hrows] at hascending
      have hunchecked : uncheckedRows db = after := by
        rw [uncheckedRows, h.byRowid_eq, hrows, hlastRowid]
        exact filter_above_eq hascending hlast'
      refine ⟨before ++ window, by rw [hunchecked, hrows], ?_, hbehind⟩
      intro row hrow
      rw [hlastRowid]
      exact rank_le_getLast (List.pairwise_append.1 hascending).1 hlast' hrow

/-- What writing a checkpoint can do. -/
theorem writeCheckpointInner_cases {minUnchecked : ℕ} {checkpointId : Text} {nowMs : ℤ}
    {written : Bool}
    (hrun : writeCheckpointInner sha256 db minUnchecked checkpointId nowMs =
      .ok (db', written)) :
    (written = false ∧ db' = db) ∨
    (written = true ∧ ∃ first last, (checkpointWindow db).head? = some first ∧
      (checkpointWindow db).getLast? = some last ∧
      db' = stampWindow { db with checkpoints := db.checkpoints ++
        [checkpointOf sha256 db first last (checkpointWindow db) checkpointId nowMs] }
        checkpointId (lastCoveredRowid db) last.rowid) := by
  unfold writeCheckpointInner at hrun
  split_ifs at hrun
  · obtain ⟨rfl, rfl⟩ := Prod.mk.inj (Except.ok.inj hrun)
    exact .inl ⟨rfl, rfl⟩
  · split at hrun
    · rename_i first last hfirst hlast
      simp only [insertCheckpoint, bind_eq_ok_iff, ensure_eq_ok_iff,
        pure_eq_ok_iff] at hrun
      obtain ⟨inserted, ⟨-, -, -, -, rfl⟩, hresult⟩ := hrun
      obtain ⟨rfl, rfl⟩ := Prod.mk.inj hresult
      exact .inr ⟨rfl, first, last, hfirst, hlast, rfl⟩
    · obtain ⟨rfl, rfl⟩ := Prod.mk.inj (Except.ok.inj hrun)
      exact .inl ⟨rfl, rfl⟩

/-- The stamp of a checkpoint on a row. -/
def stamped (checkpointId : Text) (after last : ℤ) (row : AuditLogRow) : AuditLogRow :=
  if after < row.rowid ∧ row.rowid ≤ last then
    { row with checkpointId := some checkpointId }
  else row

section Stamp

variable (checkpointId : Text) (after last : ℤ)

theorem rows_stampWindow :
    (stampWindow db checkpointId after last).rows =
      db.rows.map (stamped checkpointId after last) := rfl

/-- A stamp changes nothing that is hashed or ordered. -/
theorem stamped_columns (row : AuditLogRow) :
    (stamped checkpointId after last row).rowid = row.rowid ∧
      (stamped checkpointId after last row).id = row.id ∧
      (stamped checkpointId after last row).rowHash = row.rowHash := by
  unfold stamped
  split
  · exact ⟨rfl, rfl, rfl⟩
  · exact ⟨rfl, rfl, rfl⟩

theorem computeRowHashForVerification_stamped (row : AuditLogRow) :
    computeRowHashForVerification sha256 (stamped checkpointId after last row) =
      computeRowHashForVerification sha256 row := by
  unfold stamped
  split
  · rfl
  · rfl

theorem Intact.stampWindow (h : Intact sha256 db) :
    Intact sha256 (stampWindow db checkpointId after last) where
  ascending := by
    rw [rows_stampWindow, List.pairwise_map]
    refine h.ascending.imp fun {a b} hlt => ?_
    rw [(stamped_columns checkpointId after last a).1,
      (stamped_columns checkpointId after last b).1]
    exact hlt
  positive := by
    intro row hrow
    obtain ⟨old, hold, rfl⟩ := List.mem_map.1 hrow
    have hcolumns := stamped_columns checkpointId after last old
    exact lt_of_lt_of_eq (h.positive old hold) hcolumns.1.symm
  ids := by
    rw [rows_stampWindow, List.map_map]
    have hids : ((fun row : AuditLogRow => row.id) ∘ stamped checkpointId after last) =
        fun row => row.id := by
      funext row
      exact (stamped_columns checkpointId after last row).2.1
    rw [hids]
    exact h.ids
  hashes := by
    intro row hrow
    rw [rows_stampWindow] at hrow
    obtain ⟨old, hold, rfl⟩ := List.mem_map.1 hrow
    rw [computeRowHashForVerification_stamped, h.hashes old hold]
    exact (stamped_columns checkpointId after last old).2.2.symm
  seqs := h.seqs

theorem Covers.map_stamped {checkpoint : AuditLogCheckpoint}
    {window : List AuditLogRow} (h : Covers sha256 checkpoint window) :
    Covers sha256 checkpoint (window.map (stamped checkpointId after last)) := by
  have hid (row : AuditLogRow) := (stamped_columns checkpointId after last row).2.1
  have hhash (row : AuditLogRow) := (stamped_columns checkpointId after last row).2.2
  have hhashes : (window.map (stamped checkpointId after last)).map
      AuditLogRow.rowHash = window.map AuditLogRow.rowHash := by
    rw [List.map_map]
    exact List.map_congr_left fun row _ => hhash row
  constructor
  · rw [List.head?_map, Option.map_map, ← h.start]
    exact Option.map_congr fun row _ => hid row
  · rw [List.getLast?_map, Option.map_map, ← h.finish]
    exact Option.map_congr fun row _ => hid row
  · rw [List.length_map]
    exact h.count
  · rw [hhashes]
    exact h.hash

end Stamp

theorem covers_checkpointOf {first last : AuditLogRow} {window : List AuditLogRow}
    {checkpointId : Text} {nowMs : ℤ} (hfirst : window.head? = some first)
    (hlast : window.getLast? = some last) :
    Covers sha256 (checkpointOf sha256 db first last window checkpointId nowMs)
      window where
  start := by
    rw [hfirst]
    rfl
  finish := by
    rw [hlast]
    rfl
  count := rfl
  hash := rfl

/-- The number of a new checkpoint is above the others. -/
theorem Intact.lt_checkpointSeq (h : Intact sha256 db) {first last : AuditLogRow}
    {window : List AuditLogRow} {checkpointId : Text} {nowMs : ℤ}
    {checkpoint : AuditLogCheckpoint} (hmem : checkpoint ∈ db.checkpoints) :
    checkpoint.checkpointSeq <
      (checkpointOf sha256 db first last window checkpointId nowMs).checkpointSeq := by
  simp only [checkpointOf, h.latestCheckpoint_eq]
  cases hlatest : db.checkpoints.getLast? with
  | none =>
      rw [List.getLast?_eq_none_iff] at hlatest
      rw [hlatest] at hmem
      cases hmem
  | some latest => exact Int.lt_add_one_of_le (rank_le_getLast h.seqs hlatest hmem)

theorem Intact.writeCheckpoint {minUnchecked : ℕ} {checkpointId : Text} {nowMs : ℤ}
    (h : Intact sha256 db) :
    Intact sha256 (commitResult db
      (writeCheckpointInner sha256 db minUnchecked checkpointId nowMs)) := by
  cases hrun : writeCheckpointInner sha256 db minUnchecked checkpointId nowMs with
  | error message => exact h
  | ok result =>
      obtain ⟨db', written⟩ := result
      rcases writeCheckpointInner_cases hrun with ⟨-, rfl⟩ | ⟨-, first, last, -, -, rfl⟩
      · exact h
      · refine Intact.stampWindow _ _ _ ⟨h.ascending, h.positive, h.ids, h.hashes, ?_⟩
        refine List.pairwise_append.2 ⟨h.seqs, List.pairwise_singleton _ _, ?_⟩
        intro checkpoint hmem new hnew
        obtain rfl := List.mem_singleton.1 hnew
        exact h.lt_checkpointSeq hmem

theorem LatestInPlace.writeCheckpoint {minUnchecked : ℕ} {checkpointId : Text} {nowMs : ℤ}
    (h : Intact sha256 db) (hlatest : LatestInPlace sha256 db) :
    LatestInPlace sha256 (commitResult db
      (writeCheckpointInner sha256 db minUnchecked checkpointId nowMs)) := by
  cases hrun : writeCheckpointInner sha256 db minUnchecked checkpointId nowMs with
  | error message => exact hlatest
  | ok result =>
      obtain ⟨db', written⟩ := result
      rcases writeCheckpointInner_cases hrun with
        ⟨-, rfl⟩ | ⟨-, first, last, hfirst, hlast, rfl⟩
      · exact hlatest
      · intro checkpoint hcheckpoint
        have hnew : checkpoint =
            checkpointOf sha256 db first last (checkpointWindow db) checkpointId nowMs := by
          refine (Option.some.inj (hcheckpoint.symm.trans ?_))
          exact List.getLast?_concat
        subst hnew
        obtain ⟨covered, hrows, -, -⟩ := exists_uncheckedRows h hlatest
        refine ⟨covered.map (stamped checkpointId (lastCoveredRowid db) last.rowid),
          (checkpointWindow db).map (stamped checkpointId (lastCoveredRowid db) last.rowid),
          ((uncheckedRows db).drop 1000).map
            (stamped checkpointId (lastCoveredRowid db) last.rowid), ?_,
          (covers_checkpointOf hfirst hlast).map_stamped _ _ _⟩
        rw [commitResult, rows_stampWindow, ← List.map_append, ← List.map_append,
          checkpointWindow, List.append_assoc, List.take_append_drop]
        exact congrArg _ hrows

/-! ## Retention -/

theorem Intact.deleteExpired (nowMs : ℤ) (h : Intact sha256 db) :
    Intact sha256 (deleteExpired db nowMs) where
  ascending := h.ascending.sublist List.filter_sublist
  positive := fun row hrow => h.positive row (List.mem_of_mem_filter hrow)
  ids := h.ids.sublist (List.filter_sublist.map _)
  hashes := fun row hrow => h.hashes row (List.mem_of_mem_filter hrow)
  seqs := h.seqs

/-- A cleanup spares the window of the latest checkpoint. -/
def SparesLatestWindow (db : AuditLog) : AuditAction → Prop
  | .deleteOldRows nowMs _ => ∀ checkpoint, db.latestCheckpoint = some checkpoint →
      ∀ row ∈ coveredWindow db checkpoint, row.isExpired nowMs = false
  | _ => True

theorem LatestInPlace.deleteExpired {nowMs : ℤ} (h : Intact sha256 db)
    (hlatest : LatestInPlace sha256 db)
    (hspares : ∀ checkpoint, db.latestCheckpoint = some checkpoint →
      ∀ row ∈ coveredWindow db checkpoint, row.isExpired nowMs = false) :
    LatestInPlace sha256 (deleteExpired db nowMs) := by
  intro checkpoint hcheckpoint
  obtain ⟨before, window, after, hrows, hcovers⟩ := hlatest checkpoint hcheckpoint
  refine ⟨before.filter fun row => !row.isExpired nowMs, window,
    after.filter fun row => !row.isExpired nowMs, ?_, hcovers⟩
  have hkept : window.filter (fun row => !row.isExpired nowMs) = window := by
    rw [List.filter_eq_self]
    intro row hrow
    rw [← h.coveredWindow_eq hrows hcovers] at hrow
    rw [hspares checkpoint (h.latestCheckpoint_eq.trans hcheckpoint) row hrow]
    rfl
  simp only [Audit.deleteExpired]
  rw [hrows, List.filter_append, List.filter_append, hkept]

/-! ## Runs -/

theorem intact_appendUntilError (entries : List AuditEntry)
    (h : Intact sha256 db ∧ LatestInPlace sha256 db) :
    Intact sha256 (appendUntilError sha256 db entries) ∧
      LatestInPlace sha256 (appendUntilError sha256 db entries) :=
  appendUntilError_keeps (P := fun log => Intact sha256 log ∧ LatestInPlace sha256 log)
    (fun _ _ _ hlog hrun => ⟨hlog.1.appendTx hrun, hlog.2.appendTx hrun⟩) entries h

theorem intact_perform (db : AuditLog) (action : AuditAction)
    (hspares : SparesLatestWindow db action)
    (h : Intact sha256 db ∧ LatestInPlace sha256 db) :
    Intact sha256 (perform sha256 db action) ∧
      LatestInPlace sha256 (perform sha256 db action) := by
  cases action with
  | append entry => exact intact_appendUntilError [entry] h
  | writeCheckpointIfNeeded checkpointId nowMs =>
      exact ⟨h.1.writeCheckpoint, .writeCheckpoint h.1 h.2⟩
  | writeCheckpointIfNonEmpty checkpointId nowMs =>
      exact ⟨h.1.writeCheckpoint, .writeCheckpoint h.1 h.2⟩
  | deleteOldRows nowMs probe =>
      exact intact_appendUntilError _
        ⟨h.1.deleteExpired nowMs, .deleteExpired h.1 h.2 hspares⟩

theorem intact_run {actions : List AuditAction}
    (hspares : RunMeets (perform sha256) SparesLatestWindow emptyLog actions) :
    Intact sha256 (runFrom (perform sha256) emptyLog actions) ∧
      LatestInPlace sha256 (runFrom (perform sha256) emptyLog actions) := by
  refine runFrom_invariant_of_meets (perform sha256) intact_perform
    ⟨intact_emptyLog, ?_⟩ hspares
  intro checkpoint hcheckpoint
  cases hcheckpoint

/-- In every state of a run whose cleanups spare the window of the latest checkpoint,
verification finds no checkpoint or an intact one. -/
theorem verification_raises_no_false_alarm (sha256 : Text → Text)
    (actions : List AuditAction)
    (hspares : RunMeets (perform sha256) SparesLatestWindow emptyLog actions) :
    verifyLatestCheckpoint sha256 (runFrom (perform sha256) emptyLog actions) =
        .noCheckpoints ∨
      verifyLatestCheckpoint sha256 (runFrom (perform sha256) emptyLog actions) =
        .verified :=
  (intact_run hspares).1.verifyLatestCheckpoint_eq (intact_run hspares).2

theorem sparesLatestWindow_deleteOldRows_iff {nowMs : ℤ} {probe : ℕ → Text × ℤ} :
    SparesLatestWindow db (.deleteOldRows nowMs probe) ↔
      (db.latestCheckpoint.all fun checkpoint => (coveredWindow db checkpoint).all
        fun row => row.isExpired nowMs = false) = true := by
  cases hlatest : db.latestCheckpoint with
  | none => simp [SparesLatestWindow, hlatest]
  | some checkpoint => simp [SparesLatestWindow, hlatest]

/-! ## A cleanup of the latest window -/

def sampleEntry (id : Text) (createdAtMs : ℤ) : AuditEntry where
  id := id
  requestId := "request".toList
  timestampMs := 0
  eventType := "boundary_decision".toList
  principalId := none
  principalClass := none
  callerClass := none
  tokenId := none
  transport := "graphql_query".toList
  actionAttempted := "runs.get".toList
  decision := "allow".toList
  denialReasonCode := none
  rowId := none
  envGateState := none
  sourceIpHashOrLocalProcessId := none
  boundaryPolicyMode := "shadow".toList
  fixtureVersion := "v1".toList
  payload := "null".toList
  createdAtMs := createdAtMs
  originalPayloadBytes := none
  diagnosticTruncated := false
  checkpointId := none

/-- A young row and an old one behind it. -/
def youngEntry : AuditEntry := sampleEntry "a".toList retentionMinMs

def oldEntry : AuditEntry := sampleEntry "b".toList 0

def sampleProbe (idx : ℕ) : Text × ℤ := (intText idx, retentionMinMs + 1)

/-- What is hashed for a row that was not truncated. -/
def rowText (entry : AuditEntry) (payloadSha256 prevHash : Text) : Text :=
  joinFields (entry.canonicalFields payloadSha256 (intText 0) prevHash)

def sampleProbeEntry (idx : ℕ) : AuditEntry :=
  halfOpenProbe idx (sampleProbe idx).1 (sampleProbe idx).2

/-- A hexadecimal digit. -/
def hexDigit (digit : ℕ) : Char :=
  if digit < 10 then Char.ofNat (48 + digit) else Char.ofNat (87 + digit)

/-- A digest, written with sixty-four hexadecimal digits. -/
def hexText (digest : ℕ) : Text :=
  (List.range 64).map fun idx => hexDigit (digest / 16 ^ (63 - idx) % 16)

def digestPayload : Text :=
  hexText 0x74234e98afe7498fb5daf1f36ac2d78acc339464f950703b8c019892f982b90b

def digestYoung : Text :=
  hexText 0xdee212f94ba16922308895b899530754be2fd63181d529b26fa39052258d77ae

def digestOld : Text :=
  hexText 0xc60b67de75c0e1bdb5922097e7de2bd8afda8369dc98ed61d9e8546eba6fda29

def digestCheckpoint : Text :=
  hexText 0xa8691a9c10855881268638c2df9e17dbb566eabdaedc35b36ad003d14eef1fec

def digestProbePayload : ℕ → Text
  | 0 => hexText 0x26f45e410b4cf3a73dd093ea29d3a7837ac0263c480465d197dace021886820b
  | 1 => hexText 0xcfd2ce1eec24c7a6ca4168ca547b222de90570823102f82f0a3b05333fadeb9d
  | _ => hexText 0x8754340f4dc093d6a6656ab1a7f8e037264e1a266fb3facc6d76a8f3a2baba02

def digestProbe : ℕ → Text
  | 0 => hexText 0xdd16da8e9a6ff1215bd8e143d90d083e66aca3747b4e6ef04e183e7b68fdb61f
  | 1 => hexText 0x62454f1b423e3bc737baf55a41be55121a0b5727b7dedcef454cd1f390a1b1bc
  | _ => hexText 0x71f6b1ae4d3c2a3f23265908c9ce26c98ee6e77c0fcba9eec449e0ac84c0538f

/-- The probes behind both rows. -/
def digestEarlyProbe : ℕ → Text
  | 0 => hexText 0x4978f326089f82845934faa6dae192a00b2165d26d063d1f058895ea1552616f
  | 1 => hexText 0xf8a5ad9c73b2eb6cd45beab05b99964c8cb26c184f16407946ec2d2d106f9647
  | _ => hexText 0xd736c42c7ef17e3abe1e98e43888e8fb252db8b4b6f10a20944442dc08b2d0c3

def digestSecondCheckpoint : Text :=
  hexText 0x6cf9405d7c03b09f03c2a1a226e1fb118717475352c5362f8214e4e21807b8d6

/-- The texts that the samples hash, with their SHA-256 digests. -/
def sampleDigests : List (Text × Text) :=
  [("null".toList, digestPayload), (rowText youngEntry digestPayload [], digestYoung),
    (rowText oldEntry digestPayload digestYoung, digestOld),
    (digestYoung ++ digestOld ++ joinFields ["cp1".toList, intText 1, "a".toList,
      "b".toList, intText 2, intText 1], digestCheckpoint),
    ((sampleProbeEntry 0).payload, digestProbePayload 0),
    (rowText (sampleProbeEntry 0) (digestProbePayload 0) digestYoung, digestProbe 0),
    ((sampleProbeEntry 1).payload, digestProbePayload 1),
    (rowText (sampleProbeEntry 1) (digestProbePayload 1) (digestProbe 0), digestProbe 1),
    ((sampleProbeEntry 2).payload, digestProbePayload 2),
    (rowText (sampleProbeEntry 2) (digestProbePayload 2) (digestProbe 1), digestProbe 2),
    (digestCheckpoint ++ digestYoung ++ digestProbe 0 ++ digestProbe 1 ++ digestProbe 2 ++
      joinFields ["cp2".toList, intText 2, "a".toList,
        "audit-budget-half-open-2".toList, intText 4, intText 2],
      digestSecondCheckpoint),
    (rowText (sampleProbeEntry 0) (digestProbePayload 0) digestOld, digestEarlyProbe 0),
    (rowText (sampleProbeEntry 1) (digestProbePayload 1) (digestEarlyProbe 0),
      digestEarlyProbe 1),
    (rowText (sampleProbeEntry 2) (digestProbePayload 2) (digestEarlyProbe 1),
      digestEarlyProbe 2)]

/-- SHA-256 on the texts that the samples hash. -/
def sampleSha256 (text : Text) : Text :=
  ((sampleDigests.find? fun digest => digest.1 = text).map Prod.snd).getD
    (List.replicate 64 '0')

/-- Two rows are appended and covered. -/
def coveredRun : List AuditAction :=
  [.append youngEntry, .append oldEntry, .writeCheckpointIfNonEmpty "cp1".toList 1]

/-- Ninety days later the second of them is deleted. -/
def cleanedRun : List AuditAction :=
  coveredRun ++ [.deleteOldRows (retentionMinMs + 1) sampleProbe]

/-- A cleanup on the first day spares the window. -/
theorem early_cleanup_is_verified :
    verifyLatestCheckpoint sampleSha256 (runFrom (perform sampleSha256) emptyLog
        (coveredRun ++ [.deleteOldRows 0 sampleProbe])) = .noCheckpoints ∨
      verifyLatestCheckpoint sampleSha256 (runFrom (perform sampleSha256) emptyLog
        (coveredRun ++ [.deleteOldRows 0 sampleProbe])) = .verified := by
  refine verification_raises_no_false_alarm sampleSha256 _ ⟨trivial, trivial, trivial, ?_,
    trivial⟩
  rw [sparesLatestWindow_deleteOldRows_iff]
  decide +kernel

/-- A cleanup that deletes a row of the latest window leaves an alarm behind. -/
theorem cleaned_window_is_degraded :
    ¬∀ (sha256 : Text → Text) (actions : List AuditAction),
      verifyLatestCheckpoint sha256 (runFrom (perform sha256) emptyLog actions) =
          .noCheckpoints ∨
        verifyLatestCheckpoint sha256 (runFrom (perform sha256) emptyLog actions) =
          .verified := by
  intro hall
  have hdegraded : verifyLatestCheckpoint sampleSha256
      (runFrom (perform sampleSha256) emptyLog cleanedRun) = .degraded := by
    decide +kernel
  rcases hall sampleSha256 cleanedRun with hnone | hverified
  · rw [hdegraded] at hnone
    cases hnone
  · rw [hdegraded] at hverified
    cases hverified

end ChainworksForge.Audit
