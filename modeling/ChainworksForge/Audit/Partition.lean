import ChainworksForge.Audit.Intact
import Mathlib.Data.List.Chain

/-!
# Checkpoints partition the log

A record of a run keeps every appended row and the window of every checkpoint, also
after the rows are gone.  While cleanups delete covered rows from the front of the log,
the windows follow one another without gaps through the appended rows, and the rows that
are left are the end of them.

A cleanup that deletes the last covered row and leaves an earlier one makes the next
checkpoint start again at the front of the log.
-/

namespace ChainworksForge.Audit

open ChainworksForge.Support

/-! ## Records -/

/-- A row as it was appended. -/
def AuditLogRow.unstamped (row : AuditLogRow) : AuditLogRow :=
  { row with checkpointId := none }

structure Record where
  log : AuditLog
  history : List AuditLogRow
  windows : List (List AuditLogRow)

def emptyRecord : Record := ⟨emptyLog, [], []⟩

section Recording

variable (sha256 : Text → Text) (db : AuditLog)

/-- The rows that an action appends. -/
def appendedRows : AuditAction → List AuditLogRow
  | .append entry =>
      ((appendUntilError sha256 db [entry]).rows.drop db.rows.length).map
        AuditLogRow.unstamped
  | .deleteOldRows nowMs probe =>
      ((deleteOldRows sha256 db nowMs probe).rows.drop
        (deleteExpired db nowMs).rows.length).map AuditLogRow.unstamped
  | _ => []

/-- The result of writing a checkpoint. -/
def checkpointResult : AuditAction → Option (Except Text (AuditLog × Bool))
  | .writeCheckpointIfNeeded checkpointId nowMs =>
      some (writeCheckpointIfNeeded sha256 db checkpointId nowMs)
  | .writeCheckpointIfNonEmpty checkpointId nowMs =>
      some (writeCheckpointIfNonEmpty sha256 db checkpointId nowMs)
  | _ => none

/-- The window of the checkpoint that an action writes. -/
def writtenWindow (action : AuditAction) : List (List AuditLogRow) :=
  match checkpointResult sha256 db action with
  | some (.ok (_, true)) => [(checkpointWindow db).map AuditLogRow.unstamped]
  | _ => []

/-- The record after an action. -/
def record (r : Record) (action : AuditAction) : Record where
  log := perform sha256 r.log action
  history := r.history ++ appendedRows sha256 r.log action
  windows := r.windows ++ writtenWindow sha256 r.log action

end Recording

variable {sha256 : Text → Text} {db db' : AuditLog}

theorem log_runFrom_record (r : Record) (actions : List AuditAction) :
    (runFrom (record sha256) r actions).log = runFrom (perform sha256) r.log actions := by
  induction actions generalizing r with
  | nil => rfl
  | cons action actions ih => exact ih (record sha256 r action)

/-! ## The front of a list -/

/-- What holds of an element only together with everything before it selects a front
of the list. -/
theorem filter_append_filter_not {α : Type} {p : α → Bool} {l : List α}
    (h : l.Pairwise fun a b => p b = true → p a = true) :
    l.filter p ++ l.filter (fun a => !p a) = l := by
  induction l with
  | nil => rfl
  | cons a rest ih =>
      obtain ⟨hhead, hrest⟩ := List.pairwise_cons.1 h
      cases ha : p a with
      | true =>
          rw [List.filter_cons_of_pos ha, List.filter_cons_of_neg (by simp [ha]),
            List.cons_append, ih hrest]
      | false =>
          have hnone : rest.filter p = [] := by
            rw [List.filter_eq_nil_iff]
            intro b hb hpb
            rw [hhead b hb hpb] at ha
            cases ha
          have hall : rest.filter (fun a => !p a) = rest := by
            have hih := ih hrest
            rwa [hnone, List.nil_append] at hih
          rw [List.filter_cons_of_neg (by simp [ha]), List.filter_cons_of_pos (by simp [ha]),
            hnone, hall, List.nil_append]

/-! ## The split of a record -/

/-- A row follows another one in the chain of hashes. -/
def FollowsInChain (row next : AuditLogRow) : Prop := next.prevHash = some row.rowHash

/-- What a checkpoint says of the rows of its window. -/
structure Names (checkpoint : AuditLogCheckpoint) (window : List AuditLogRow) : Prop where
  start : (window.head?.map fun row => row.id) = some checkpoint.coveredStartId
  finish : (window.getLast?.map fun row => row.id) = some checkpoint.coveredEndId
  count : checkpoint.coveredRowCount = window.length

/-- The appended rows are deleted, covered or not yet covered, in this order. -/
structure Split (sha256 : Text → Text) (r : Record)
    (gone covered uncovered : List AuditLogRow) : Prop where
  intact : Intact sha256 r.log
  rows : r.log.rows = covered ++ uncovered
  history : r.history = gone ++ (covered ++ uncovered).map AuditLogRow.unstamped
  windows : r.windows.flatten = gone ++ covered.map AuditLogRow.unstamped
  last : ∀ row, covered.getLast? = some row →
    r.log.checkpoints.getLast?.map AuditLogCheckpoint.coveredEndId = some row.id
  lost : covered = [] → ∀ checkpoint, r.log.checkpoints.getLast? = some checkpoint →
    ∀ row ∈ r.log.rows, row.id ≠ checkpoint.coveredEndId
  chain : r.log.rows.IsChain FollowsInChain
  named : List.Forall₂ Names r.log.checkpoints r.windows

theorem split_emptyRecord : Split sha256 emptyRecord [] [] [] where
  intact := intact_emptyLog
  rows := rfl
  history := rfl
  windows := rfl
  last := by simp
  lost := by simp [emptyRecord, emptyLog]
  chain := .nil
  named := .nil

section Split

variable {r : Record} {gone covered uncovered : List AuditLogRow}
  (h : Split sha256 r gone covered uncovered)
include h

/-- The last covered row is found, if it is left. -/
theorem Split.lastCoveredRowid_eq {last : AuditLogRow}
    (hlast : covered.getLast? = some last) : lastCoveredRowid r.log = last.rowid := by
  obtain ⟨checkpoint, hcheckpoint, hid⟩ := Option.map_eq_some_iff.1 (h.last last hlast)
  have hmem : last ∈ r.log.rows := by
    rw [h.rows]
    exact List.mem_append_left _ (List.mem_of_getLast? hlast)
  rw [lastCoveredRowid, h.intact.latestCheckpoint_eq, hcheckpoint]
  simp only [hid, h.intact.rowidOf_eq hmem, Option.getD_some]

theorem Split.lastCoveredRowid_eq_zero (hnone : covered = []) :
    lastCoveredRowid r.log = 0 := by
  rw [lastCoveredRowid, h.intact.latestCheckpoint_eq]
  cases hcheckpoint : r.log.checkpoints.getLast? with
  | none => rfl
  | some checkpoint =>
      have hfind : (r.log.rows.find? fun row => row.id = checkpoint.coveredEndId) = none := by
        rw [List.find?_eq_none]
        intro row hrow
        simpa using h.lost hnone checkpoint hcheckpoint row hrow
      simp only [AuditLog.rowidOf, hfind, Option.map_none, Option.getD_none]

/-- The rows behind the last covered one are those that are not yet covered. -/
theorem Split.uncheckedRows_eq : uncheckedRows r.log = uncovered := by
  have hascending := h.intact.ascending
  rw [uncheckedRows, h.intact.byRowid_eq]
  cases hlast : covered.getLast? with
  | none =>
      have hnone : covered = [] := List.getLast?_eq_none_iff.1 hlast
      have hrows : r.log.rows = uncovered := by rw [h.rows, hnone, List.nil_append]
      rw [h.lastCoveredRowid_eq_zero hnone, ← hrows, List.filter_eq_self]
      exact fun row hrow => decide_eq_true (h.intact.positive row hrow)
  | some last =>
      rw [h.rows] at hascending
      rw [h.lastCoveredRowid_eq hlast, h.rows]
      exact filter_above_eq hascending hlast

theorem Split.lastCovered_lt_rowid {row : AuditLogRow} (hrow : row ∈ uncovered) :
    lastCoveredRowid r.log < row.rowid := by
  rw [← h.uncheckedRows_eq] at hrow
  exact of_decide_eq_true (List.mem_filter.1 hrow).2

/-- The first rows that were appended are covered. -/
theorem Split.windows_isPrefix : r.windows.flatten <+: r.history := by
  refine ⟨uncovered.map AuditLogRow.unstamped, ?_⟩
  rw [h.windows, h.history, List.map_append, List.append_assoc]

/-- The rows that are left are the last ones that were appended. -/
theorem Split.rows_eq_drop : r.log.rows.map AuditLogRow.unstamped =
    r.history.drop gone.length := by
  rw [h.history, h.rows, List.drop_left]

theorem Split.length_gone_le : gone.length ≤ r.windows.flatten.length := by
  rw [h.windows, List.length_append]
  exact Nat.le_add_right _ _

end Split

/-! ## Appending -/

/-- An entry does not take the identifier of the last row of the latest checkpoint. -/
def AvoidsCoveredEnd (db : AuditLog) (entry : AuditEntry) : Prop :=
  ∀ checkpoint, db.latestCheckpoint = some checkpoint →
    entry.id ≠ checkpoint.coveredEndId

instance (db : AuditLog) (entry : AuditEntry) : Decidable (AvoidsCoveredEnd db entry) :=
  decidable_of_iff
    (∀ checkpoint ∈ db.latestCheckpoint, entry.id ≠ checkpoint.coveredEndId) Iff.rfl

theorem followsInChain_row (h : Intact sha256 db) (entry : AuditEntry) {last : AuditLogRow}
    (hlast : db.rows.getLast? = some last) :
    FollowsInChain last (entry.row sha256 db) := by
  rw [FollowsInChain, AuditEntry.row, fetchPrevHash, h.byRowid_eq, hlast]
  rfl

theorem isChain_append_row (h : Intact sha256 db) (entry : AuditEntry)
    (hchain : db.rows.IsChain FollowsInChain) :
    (db.rows ++ [entry.row sha256 db]).IsChain FollowsInChain := by
  refine List.isChain_append.2 ⟨hchain, List.isChain_singleton _, ?_⟩
  intro last hlast row hrow
  obtain rfl := Option.some.inj hrow
  exact followsInChain_row h entry hlast

section Appending

variable {r : Record} {gone covered uncovered : List AuditLogRow}

theorem Split.appendTx {entry : AuditEntry} (h : Split sha256 r gone covered uncovered)
    (havoids : AvoidsCoveredEnd r.log entry)
    (hrun : Audit.appendTx sha256 r.log entry = .ok db') :
    db'.rows = r.log.rows ++ [entry.row sha256 r.log] ∧
      db'.checkpoints = r.log.checkpoints ∧
      Split sha256 ⟨db', r.history ++ [(entry.row sha256 r.log).unstamped], r.windows⟩
        gone covered (uncovered ++ [entry.row sha256 r.log]) := by
  have hintact := h.intact.appendTx hrun
  obtain ⟨rfl, -, -, -⟩ := appendTx_eq_ok hrun
  refine ⟨rfl, rfl, ?_⟩
  constructor
  · exact hintact
  · rw [← List.append_assoc, ← h.rows]
  · rw [h.history, ← List.append_assoc covered, List.map_append, List.map_append,
      List.append_assoc, List.map_append, List.map_singleton, List.append_assoc]
  · exact h.windows
  · exact h.last
  · intro hnone checkpoint hcheckpoint row hrow
    rcases List.mem_append.1 hrow with hrow | hnew
    · exact h.lost hnone checkpoint hcheckpoint row hrow
    · obtain rfl := List.mem_singleton.1 hnew
      exact havoids checkpoint (h.intact.latestCheckpoint_eq.trans hcheckpoint)
  · exact isChain_append_row h.intact entry h.chain
  · exact h.named

/-- A series of appends adds rows that are not yet covered. -/
theorem Split.appendUntilError (entries : List AuditEntry)
    (h : Split sha256 r gone covered uncovered)
    (havoids : ∀ entry ∈ entries, AvoidsCoveredEnd r.log entry) :
    ∃ new, (Audit.appendUntilError sha256 r.log entries).rows = r.log.rows ++ new ∧
      Split sha256 ⟨Audit.appendUntilError sha256 r.log entries,
        r.history ++ new.map AuditLogRow.unstamped, r.windows⟩
        gone covered (uncovered ++ new) := by
  induction entries generalizing r uncovered with
  | nil =>
      refine ⟨[], by rw [List.append_nil]; rfl, ?_⟩
      rw [List.map_nil, List.append_nil, List.append_nil]
      exact h
  | cons entry rest ih =>
      rw [Audit.appendUntilError]
      split
      · rename_i appended hrun
        obtain ⟨hrows, hcheckpoints, hnext⟩ :=
          h.appendTx (havoids entry List.mem_cons_self) hrun
        have hlatest : appended.latestCheckpoint = r.log.latestCheckpoint := by
          rw [AuditLog.latestCheckpoint, AuditLog.latestCheckpoint, hcheckpoints]
        have hrest : ∀ other ∈ rest, AvoidsCoveredEnd appended other := by
          intro other hother checkpoint hcheckpoint
          rw [hlatest] at hcheckpoint
          exact havoids other (List.mem_cons_of_mem _ hother) checkpoint hcheckpoint
        obtain ⟨new, hnew, hsplit⟩ := ih hnext hrest
        refine ⟨entry.row sha256 r.log :: new, ?_, ?_⟩
        · rw [hnew, hrows, List.append_assoc, List.singleton_append]
        · rw [List.append_assoc, List.append_assoc] at hsplit
          exact hsplit
      · refine ⟨[], by rw [List.append_nil], ?_⟩
        rw [List.map_nil, List.append_nil, List.append_nil]
        exact h

end Appending

/-! ## Checkpoints -/

section Stamp

variable (checkpointId : Text) (after last : ℤ)

theorem unstamped_stamped (row : AuditLogRow) :
    (stamped checkpointId after last row).unstamped = row.unstamped := by
  unfold stamped
  split
  · rfl
  · rfl

theorem map_unstamped_map_stamped (rows : List AuditLogRow) :
    (rows.map (stamped checkpointId after last)).map AuditLogRow.unstamped =
      rows.map AuditLogRow.unstamped := by
  rw [List.map_map]
  exact List.map_congr_left fun row _ => unstamped_stamped checkpointId after last row

theorem followsInChain_iff_unstamped {row next : AuditLogRow} :
    FollowsInChain row next ↔ FollowsInChain row.unstamped next.unstamped := Iff.rfl

theorem isChain_map_stamped {rows : List AuditLogRow} (h : rows.IsChain FollowsInChain) :
    (rows.map (stamped checkpointId after last)).IsChain FollowsInChain := by
  rw [List.isChain_map]
  refine h.imp fun row next hfollows => ?_
  rw [followsInChain_iff_unstamped, unstamped_stamped, unstamped_stamped]
  exact hfollows

end Stamp

/-- A checkpoint names the rows of its window as they were appended. -/
theorem names_checkpointOf {first last : AuditLogRow} {window : List AuditLogRow}
    {checkpointId : Text} {nowMs : ℤ} (hfirst : window.head? = some first)
    (hlast : window.getLast? = some last) :
    Names (checkpointOf sha256 db first last window checkpointId nowMs)
      (window.map AuditLogRow.unstamped) where
  start := by
    rw [List.head?_map, hfirst]
    rfl
  finish := by
    rw [List.getLast?_map, hlast]
    rfl
  count := by
    rw [List.length_map]
    rfl

section Checkpoints

variable {r : Record} {gone covered uncovered : List AuditLogRow} {minUnchecked : ℕ}
  {checkpointId : Text} {nowMs : ℤ}

theorem Split.checkpointWindow_eq (h : Split sha256 r gone covered uncovered) :
    checkpointWindow r.log = uncovered.take 1000 := by
  rw [checkpointWindow, h.uncheckedRows_eq]

/-- A checkpoint covers the next rows, up to a thousand of them. -/
theorem Split.flatten_windows_append (h : Split sha256 r gone covered uncovered) :
    (r.windows ++ [(checkpointWindow r.log).map AuditLogRow.unstamped]).flatten =
      r.history.take (r.windows.flatten.length + 1000) := by
  have hhistory : r.history = r.windows.flatten ++ uncovered.map AuditLogRow.unstamped := by
    rw [h.history, h.windows, List.map_append, List.append_assoc]
  rw [List.flatten_append, List.flatten_singleton, h.checkpointWindow_eq, hhistory,
    List.take_length_add_append, List.map_take]

theorem Split.writeCheckpointInner (h : Split sha256 r gone covered uncovered)
    (hrun : Audit.writeCheckpointInner sha256 r.log minUnchecked checkpointId nowMs =
      .ok (db', true)) :
    ∃ covered' uncovered', Split sha256 ⟨db', r.history,
      r.windows ++ [(checkpointWindow r.log).map AuditLogRow.unstamped]⟩
      gone covered' uncovered' := by
  have hintact : Intact sha256 (commitResult r.log
      (Audit.writeCheckpointInner sha256 r.log minUnchecked checkpointId nowMs)) :=
    h.intact.writeCheckpoint
  rw [hrun] at hintact
  rcases writeCheckpointInner_cases hrun with ⟨hfalse, -⟩ | ⟨-, first, last, hfirst, hlast, rfl⟩
  · cases hfalse
  have hsplit : covered ++ uncovered =
      (covered ++ checkpointWindow r.log) ++ uncovered.drop 1000 := by
    rw [h.checkpointWindow_eq, List.append_assoc, List.take_append_drop]
  have hend : (covered ++ checkpointWindow r.log).getLast? = some last := by
    rw [List.getLast?_append, hlast]
    rfl
  refine ⟨(covered ++ checkpointWindow r.log).map
      (stamped checkpointId (lastCoveredRowid r.log) last.rowid),
    (uncovered.drop 1000).map
      (stamped checkpointId (lastCoveredRowid r.log) last.rowid), ?_⟩
  constructor
  · exact hintact
  · rw [rows_stampWindow, ← List.map_append, ← hsplit, ← h.rows]
  · rw [← List.map_append, map_unstamped_map_stamped, ← hsplit, h.history]
  · rw [map_unstamped_map_stamped, List.flatten_append, List.flatten_singleton, h.windows,
      List.map_append, List.append_assoc]
  · intro row hrow
    rw [List.getLast?_map, hend, Option.map_some] at hrow
    obtain rfl := Option.some.inj hrow
    rw [(stamped_columns checkpointId _ _ last).2.1]
    change ((r.log.checkpoints ++ [_]).getLast?.map _) = _
    rw [List.getLast?_concat]
    rfl
  · intro hnone
    rw [List.map_eq_nil_iff] at hnone
    rw [hnone] at hend
    cases hend
  · exact isChain_map_stamped _ _ _ h.chain
  · exact List.rel_append h.named (.cons (names_checkpointOf hfirst hlast) .nil)

end Checkpoints

/-! ## Retention -/

section Retention

variable {r : Record} {gone covered uncovered : List AuditLogRow} {nowMs : ℤ}

/-- A front of the covered rows is deleted. -/
theorem Split.deleteExpired (h : Split sha256 r gone covered uncovered)
    (hcovered : ∀ row ∈ r.log.rows, row.isExpired nowMs = true →
      row.rowid ≤ lastCoveredRowid r.log)
    (hfront : r.log.byRowid.Pairwise fun a b =>
      b.isExpired nowMs = true → a.isExpired nowMs = true) :
    ∃ gone' covered', Split sha256 ⟨Audit.deleteExpired r.log nowMs, r.history, r.windows⟩
      gone' covered' uncovered := by
  rw [h.intact.byRowid_eq, h.rows] at hfront
  have hdeleted := filter_append_filter_not (List.pairwise_append.1 hfront).1
  have huncovered : uncovered.filter (fun row => !row.isExpired nowMs) = uncovered := by
    rw [List.filter_eq_self]
    intro row hrow
    have hmem : row ∈ r.log.rows := by
      rw [h.rows]
      exact List.mem_append_right _ hrow
    have hbehind := h.lastCovered_lt_rowid hrow
    cases hexpired : row.isExpired nowMs with
    | false => rfl
    | true => exact absurd (hcovered row hmem hexpired) (not_le.2 hbehind)
  have hrows : (Audit.deleteExpired r.log nowMs).rows =
      covered.filter (fun row => !row.isExpired nowMs) ++ uncovered := by
    rw [Audit.deleteExpired, h.rows, List.filter_append, huncovered]
  have hsuffix : (Audit.deleteExpired r.log nowMs).rows <:+ r.log.rows := by
    refine ⟨covered.filter fun row => row.isExpired nowMs, ?_⟩
    rw [hrows, h.rows, ← List.append_assoc, hdeleted]
  have hcoveredMap : covered.map AuditLogRow.unstamped =
      (covered.filter fun row => row.isExpired nowMs).map AuditLogRow.unstamped ++
        (covered.filter fun row => !row.isExpired nowMs).map AuditLogRow.unstamped := by
    rw [← List.map_append, hdeleted]
  refine ⟨gone ++ (covered.filter fun row => row.isExpired nowMs).map
    AuditLogRow.unstamped, covered.filter fun row => !row.isExpired nowMs, ?_⟩
  constructor
  · exact h.intact.deleteExpired nowMs
  · exact hrows
  · rw [h.history, List.map_append, List.map_append, hcoveredMap]
    simp only [List.append_assoc]
  · rw [h.windows, hcoveredMap, List.append_assoc]
  · intro row hrow
    refine h.last row ?_
    rw [← hdeleted, List.getLast?_append, hrow]
    rfl
  · intro hnone checkpoint hcheckpoint row hrow
    rw [hrows, hnone, List.nil_append] at hrow
    have hmem : row ∈ r.log.rows := by
      rw [h.rows]
      exact List.mem_append_right _ hrow
    cases hlast : covered.getLast? with
    | none =>
        exact h.lost (List.getLast?_eq_none_iff.1 hlast) checkpoint hcheckpoint row hmem
    | some last =>
        -- the last covered row is gone, and no other row has its identifier
        intro hid
        have hend := h.last last hlast
        change r.log.checkpoints.getLast? = some checkpoint at hcheckpoint
        rw [hcheckpoint, Option.map_some] at hend
        have hlastMem : last ∈ r.log.rows := by
          rw [h.rows]
          exact List.mem_append_left _ (List.mem_of_getLast? hlast)
        have hsame : row = last := List.inj_on_of_nodup_map h.intact.ids hmem hlastMem
          (hid.trans (Option.some.inj hend))
        have hbehind := h.lastCovered_lt_rowid hrow
        rw [h.lastCoveredRowid_eq hlast, hsame] at hbehind
        exact lt_irrefl _ hbehind
  · exact h.chain.suffix hsuffix
  · exact h.named

end Retention

/-! ## Runs -/

/-- A cleanup deletes covered rows, and only from the front of the log; its probes do not
take the identifier of the last row of the latest checkpoint. -/
def DeletesFront (db : AuditLog) (nowMs : ℤ) (probe : ℕ → Text × ℤ) : Prop :=
  (∀ row ∈ db.rows, row.isExpired nowMs = true → row.rowid ≤ lastCoveredRowid db) ∧
    (db.byRowid.Pairwise fun a b =>
      b.isExpired nowMs = true → a.isExpired nowMs = true) ∧
    ∀ idx < missingProbes (deleteExpired db nowMs),
      AvoidsCoveredEnd db (halfOpenProbe idx (probe idx).1 (probe idx).2)

instance (db : AuditLog) (nowMs : ℤ) (probe : ℕ → Text × ℤ) :
    Decidable (DeletesFront db nowMs probe) :=
  inferInstanceAs (Decidable (_ ∧ _ ∧ _))

/-- What an action must not do for the checkpoints to partition the log. -/
def KeepsPartition (db : AuditLog) : AuditAction → Prop
  | .append entry => AvoidsCoveredEnd db entry
  | .deleteOldRows nowMs probe => DeletesFront db nowMs probe
  | _ => True

section Steps

variable {r : Record}

/-- Some split of a record. -/
def Splits (sha256 : Text → Text) (r : Record) : Prop :=
  ∃ gone covered uncovered, Split sha256 r gone covered uncovered

theorem Splits.append {entry : AuditEntry} (h : Splits sha256 r)
    (havoids : AvoidsCoveredEnd r.log entry) :
    Splits sha256 (record sha256 r (.append entry)) := by
  obtain ⟨gone, covered, uncovered, h⟩ := h
  obtain ⟨new, hrows, hsplit⟩ := h.appendUntilError [entry] (by simpa using havoids)
  refine ⟨gone, covered, uncovered ++ new, ?_⟩
  have happended : appendedRows sha256 r.log (.append entry) =
      new.map AuditLogRow.unstamped := by
    rw [appendedRows, hrows, List.drop_left]
  rw [record, happended]
  exact (List.append_nil r.windows).symm ▸ hsplit

theorem Splits.deleteOldRows {nowMs : ℤ} {probe : ℕ → Text × ℤ} (h : Splits sha256 r)
    (hdeletes : DeletesFront r.log nowMs probe) :
    Splits sha256 (record sha256 r (.deleteOldRows nowMs probe)) := by
  obtain ⟨gone, covered, uncovered, h⟩ := h
  obtain ⟨hcovered, hfront, havoids⟩ := hdeletes
  obtain ⟨gone', covered', hkept⟩ := h.deleteExpired hcovered hfront
  have hprobes : ∀ entry ∈ (List.range (missingProbes (Audit.deleteExpired r.log nowMs))).map
      fun idx => halfOpenProbe idx (probe idx).1 (probe idx).2,
      AvoidsCoveredEnd (Audit.deleteExpired r.log nowMs) entry := by
    intro entry hentry
    obtain ⟨idx, hidx, rfl⟩ := List.mem_map.1 hentry
    exact havoids idx (List.mem_range.1 hidx)
  obtain ⟨new, hrows, hsplit⟩ := hkept.appendUntilError _ hprobes
  refine ⟨gone', covered', uncovered ++ new, ?_⟩
  have happended : appendedRows sha256 r.log (.deleteOldRows nowMs probe) =
      new.map AuditLogRow.unstamped := by
    rw [appendedRows, Audit.deleteOldRows, hrows, List.drop_left]
  rw [record, happended]
  exact (List.append_nil r.windows).symm ▸ hsplit

/-- A checkpoint is written or the record stays as it is. -/
theorem Splits.writeCheckpoint {action : AuditAction} {minUnchecked : ℕ}
    {checkpointId : Text} {nowMs : ℤ} (h : Splits sha256 r)
    (hresult : checkpointResult sha256 r.log action =
      some (writeCheckpointInner sha256 r.log minUnchecked checkpointId nowMs))
    (hperform : perform sha256 r.log action = commitResult r.log
      (writeCheckpointInner sha256 r.log minUnchecked checkpointId nowMs))
    (happended : appendedRows sha256 r.log action = []) :
    Splits sha256 (record sha256 r action) := by
  obtain ⟨gone, covered, uncovered, h⟩ := h
  rw [record, writtenWindow, hresult, hperform, happended, List.append_nil]
  split
  · rename_i written heq
    have hrun := Option.some.inj heq
    rw [hrun]
    obtain ⟨covered', uncovered', hsplit⟩ := h.writeCheckpointInner hrun
    exact ⟨gone, covered', uncovered', hsplit⟩
  · rename_i hnot
    rw [List.append_nil]
    have hsame : commitResult r.log
        (writeCheckpointInner sha256 r.log minUnchecked checkpointId nowMs) = r.log := by
      cases hrun : writeCheckpointInner sha256 r.log minUnchecked checkpointId nowMs with
      | error message => rfl
      | ok result =>
          obtain ⟨db', written⟩ := result
          rcases writeCheckpointInner_cases hrun with ⟨-, rfl⟩ | ⟨rfl, -⟩
          · rfl
          · exact absurd (congrArg some hrun) (hnot db')
    rw [hsame]
    exact ⟨gone, covered, uncovered, h⟩

theorem splits_record (r : Record) (action : AuditAction)
    (hkeeps : KeepsPartition r.log action) (h : Splits sha256 r) :
    Splits sha256 (record sha256 r action) := by
  cases action with
  | append entry => exact h.append hkeeps
  | writeCheckpointIfNeeded checkpointId nowMs => exact h.writeCheckpoint rfl rfl rfl
  | writeCheckpointIfNonEmpty checkpointId nowMs => exact h.writeCheckpoint rfl rfl rfl
  | deleteOldRows nowMs probe => exact h.deleteOldRows hkeeps

end Steps

/-- The checkpoints partition the appended rows, and the surviving rows are a chain. -/
structure Partitions (sha256 : Text → Text) (r : Record) : Prop where
  /-- The windows, one after the other, are the first rows that were appended. -/
  inOrder : r.windows.flatten <+: r.history
  disjoint : r.history.Nodup → r.windows.Pairwise List.Disjoint
  named : List.Forall₂ Names r.log.checkpoints r.windows
  /-- A checkpoint covers the next rows, up to a thousand of them. -/
  next : ∀ action window, writtenWindow sha256 r.log action = [window] →
    (r.windows ++ [window]).flatten = r.history.take (r.windows.flatten.length + 1000)
  /-- Covered rows are deleted, and nothing but them. -/
  left : ∃ deleted ≤ r.windows.flatten.length,
    r.log.rows.map AuditLogRow.unstamped = r.history.drop deleted
  chain : r.log.byRowid.IsChain FollowsInChain

theorem Splits.partitions {r : Record} (h : Splits sha256 r) : Partitions sha256 r := by
  obtain ⟨gone, covered, uncovered, h⟩ := h
  constructor
  · exact h.windows_isPrefix
  · intro hnodup
    exact (List.nodup_flatten.1 (hnodup.sublist h.windows_isPrefix.sublist)).2
  · exact h.named
  · intro action window hwindow
    rw [writtenWindow] at hwindow
    split at hwindow
    · rw [← List.head_eq_of_cons_eq hwindow]
      exact h.flatten_windows_append
    · cases hwindow
  · exact ⟨gone.length, h.length_gone_le, h.rows_eq_drop⟩
  · rw [h.intact.byRowid_eq]
    exact h.chain

/-- In every state of a run whose cleanups delete covered rows from the front, the
checkpoints partition the log. -/
theorem checkpoints_partition_the_log (sha256 : Text → Text) (actions : List AuditAction)
    (hkeeps : RunMeets (perform sha256) KeepsPartition emptyLog actions) :
    (runFrom (record sha256) emptyRecord actions).log =
        runFrom (perform sha256) emptyLog actions ∧
      Partitions sha256 (runFrom (record sha256) emptyRecord actions) := by
  refine ⟨log_runFrom_record emptyRecord actions, Splits.partitions ?_⟩
  have hmeets : RunMeets (record sha256) (fun r => KeepsPartition r.log) emptyRecord actions :=
    runMeets_of_shown (perform sha256) (fun _ _ => rfl) hkeeps
  exact runFrom_invariant_of_meets (record sha256) splits_record
    ⟨[], [], [], split_emptyRecord⟩ hmeets

/-- A cleanup on the first day deletes nothing. -/
theorem early_cleanup_keeps_partition :
    (runFrom (record sampleSha256) emptyRecord
        (coveredRun ++ [.deleteOldRows 0 sampleProbe])).log =
      runFrom (perform sampleSha256) emptyLog
        (coveredRun ++ [.deleteOldRows 0 sampleProbe]) ∧
      Partitions sampleSha256 (runFrom (record sampleSha256) emptyRecord
        (coveredRun ++ [.deleteOldRows 0 sampleProbe])) := by
  refine checkpoints_partition_the_log sampleSha256 _ ⟨?_, ?_, trivial, ?_, trivial⟩
  · exact fun checkpoint hcheckpoint => nomatch hcheckpoint
  · change AvoidsCoveredEnd _ _
    decide +kernel
  · change DeletesFront _ _ _
    decide +kernel

/-- After a cleanup that deletes the last covered row, the next checkpoint covers the
row before it again. -/
theorem row_is_covered_twice :
    ¬∀ (sha256 : Text → Text) (actions : List AuditAction),
      Partitions sha256 (runFrom (record sha256) emptyRecord actions) := by
  intro hall
  have hpartition := hall sampleSha256
    (cleanedRun ++ [.writeCheckpointIfNonEmpty "cp2".toList 2])
  have hnot : ¬(runFrom (record sampleSha256) emptyRecord
      (cleanedRun ++ [.writeCheckpointIfNonEmpty "cp2".toList 2])).windows.flatten <+:
      (runFrom (record sampleSha256) emptyRecord
        (cleanedRun ++ [.writeCheckpointIfNonEmpty "cp2".toList 2])).history := by
    decide +kernel
  exact hnot hpartition.inOrder

end ChainworksForge.Audit
