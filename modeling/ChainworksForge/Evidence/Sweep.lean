import ChainworksForge.Evidence.Spool
import ChainworksForge.Support.Checked

/-!
# The orphan sweep

A pass walks the evidence tree with a stack of directories, the last one found first.  It
stops when it has processed as many entries as it may, or read as many bytes, or meets a
file without a row that does not fit into the bytes that are left.

The walk is the same as looking at a list of visits one after the other, and the list
does not depend on the rows.
-/

namespace ChainworksForge.Evidence

open ChainworksForge.Support

/-- The entries of a directory, in the order in which they are read. -/
inductive Listing
  | nil
  /-- An entry that cannot be read or has no type, a symbolic link, or a special file. -/
  | other (rest : Listing)
  | file (name : Text) (file : SpoolFile) (rest : Listing)
  | dir (name : Text) (entries : Listing) (rest : Listing)
  /-- A directory whose entries cannot be read. -/
  | lockedDir (name : Text) (rest : Listing)

/-- What stands where a sweep begins. -/
inductive Root
  | missing
  /-- A symbolic link, not a directory, or without metadata: the sweep is refused. -/
  | refused
  | directory (listing : Option Listing)

/-- `evidence/runs` below the artifact root, and the directories of the runs in it. -/
structure EvidenceTree where
  runs : Root
  run : Text → Root

structure OrphanSweepReport where
  scannedFiles : ℕ := 0
  alreadyIndexed : ℕ := 0
  recoveredOrphans : ℕ := 0
  skippedFiles : ℕ := 0
  bytesRead : ℕ := 0
  truncated : Bool := false
deriving DecidableEq

/-- What a pass is given. -/
structure SweepOptions where
  runId : Option Text
  maxFiles : ℕ
  maxBytes : ℕ
  dryRun : Bool

/-- The state of a pass. -/
structure Sweep where
  report : OrphanSweepReport
  rows : List EvidenceSpoolRef

namespace Sweep

def processed (sweep : Sweep) : ℕ := sweep.report.scannedFiles + sweep.report.skippedFiles

def skip (sweep : Sweep) : Sweep :=
  { sweep with report.skippedFiles := sweep.report.skippedFiles + 1 }

def truncate (sweep : Sweep) : Sweep := { sweep with report.truncated := true }

/-- The end of the pass is an error, and carries the state. -/
def checkBudgets (options : SweepOptions) (sweep : Sweep) : Except Sweep Sweep :=
  if options.maxFiles ≤ sweep.processed then .error sweep.truncate
  else if options.maxBytes ≤ sweep.report.bytesRead then .error sweep.truncate
  else .ok sweep

/-- Count the outcome of a file. -/
def count (sweep : Sweep) : Option OrphanCandidateOutcome → Except Sweep Sweep
  | some .alreadyIndexed =>
      .ok { sweep with
        report.scannedFiles := sweep.report.scannedFiles + 1
        report.alreadyIndexed := sweep.report.alreadyIndexed + 1 }
  | some .recovered =>
      .ok { sweep with
        report.scannedFiles := sweep.report.scannedFiles + 1
        report.recoveredOrphans := sweep.report.recoveredOrphans + 1 }
  | some .skipped => .ok sweep.skip
  | some .budgetExhausted => .error sweep.skip.truncate
  | none => .ok sweep.skip

end Sweep

section Walk

variable (pathHash : Text → Checksum) (options : SweepOptions)

def Sweep.visitFile (relativePath : Text) (file : SpoolFile) (sweep : Sweep) :
    Except Sweep Sweep :=
  let result := recoverOrphanCandidate pathHash sweep.rows relativePath file options.runId
    options.dryRun sweep.report.bytesRead options.maxBytes
  Sweep.count
    { sweep with report.bytesRead := result.2.2, rows := result.2.1 } result.1

/-- The path of an entry, with forward slashes. -/
def childPath (path name : Text) : Text :=
  path ++ "/".toList ++ name

def slashed (path : Text) : Text := path.map fun c => if c = '\\' then '/' else c

/-- The loop over the entries of a directory; directories go on the stack. -/
def scanEntries (path : Text) :
    Listing → List (Text × Option Listing) → Sweep →
      Except Sweep (List (Text × Option Listing) × Sweep)
  | .nil, stack, sweep => .ok (stack, sweep)
  | .other rest, stack, sweep => do
      let sweep ← sweep.checkBudgets options
      scanEntries path rest stack sweep.skip
  | .file name file rest, stack, sweep => do
      let sweep ← sweep.checkBudgets options
      let sweep ← sweep.visitFile pathHash options (slashed (childPath path name)) file
      scanEntries path rest stack sweep
  | .dir name entries rest, stack, sweep => do
      let sweep ← sweep.checkBudgets options
      scanEntries path rest ((childPath path name, some entries) :: stack) sweep
  | .lockedDir name rest, stack, sweep => do
      let sweep ← sweep.checkBudgets options
      scanEntries path rest ((childPath path name, none) :: stack) sweep

/-- The loop over the stack.  The fuel bounds the directories. -/
def sweepLoop : ℕ → List (Text × Option Listing) → Sweep → Except Sweep Sweep
  | _, [], sweep => .ok sweep
  | 0, _ :: _, sweep => .ok sweep
  | fuel + 1, (_, none) :: stack, sweep => sweepLoop fuel stack sweep.skip
  | fuel + 1, (path, some entries) :: stack, sweep => do
      let (stack, sweep) ← scanEntries pathHash options path entries stack sweep
      sweepLoop fuel stack sweep

/-- The directories in a listing. -/
def Listing.dirs : Listing → ℕ
  | .nil => 0
  | .other rest => rest.dirs
  | .file _ _ rest => rest.dirs
  | .dir _ entries rest => entries.dirs + rest.dirs + 1
  | .lockedDir _ rest => rest.dirs + 1

def rootPath (runId : Option Text) : Text :=
  match runId with
  | none => "evidence/runs".toList
  | some runId => childPath "evidence/runs".toList runId

/-- What stands at the directory where the pass begins. -/
def EvidenceTree.root (tree : EvidenceTree) (runId : Option Text) : Root :=
  match tree.runs, runId with
  | .directory _, some runId => tree.run runId
  | runs, _ => runs

/-- One pass over the tree.  The absence of a result is an error. -/
def sweepEvidenceOrphans (tree : EvidenceTree) (rows : List EvidenceSpoolRef) :
    Option (OrphanSweepReport × List EvidenceSpoolRef) :=
  match tree.root options.runId with
  | .missing => some ({}, rows)
  | .refused => none
  | .directory listing =>
      let start := [(rootPath options.runId, listing)]
      match sweepLoop pathHash options ((listing.elim 0 Listing.dirs) + 1) start ⟨{}, rows⟩ with
      | .ok sweep => some (sweep.report, sweep.rows)
      | .error sweep => some (sweep.report, sweep.rows)

/-- The rows after one pass. -/
def rowsAfter (tree : EvidenceTree) (rows : List EvidenceSpoolRef) : List EvidenceSpoolRef :=
  ((sweepEvidenceOrphans pathHash options tree rows).map Prod.snd).getD rows

end Walk

/-! ## The visits of a pass -/

inductive Visit
  | locked
  | other
  | dir
  | file (path : Text) (file : SpoolFile)

/-- The visits to the entries of a directory. -/
def Listing.visits (path : Text) : Listing → List Visit
  | .nil => []
  | .other rest => .other :: rest.visits path
  | .file name found rest => .file (slashed (childPath path name)) found :: rest.visits path
  | .dir _ _ rest => .dir :: rest.visits path
  | .lockedDir _ rest => .dir :: rest.visits path

/-- The visits below the directories of a directory, the last directory first. -/
def Listing.deeper (path : Text) : Listing → List Visit
  | .nil => []
  | .other rest => rest.deeper path
  | .file _ _ rest => rest.deeper path
  | .dir name entries rest =>
      rest.deeper path ++
        (entries.visits (childPath path name) ++ entries.deeper (childPath path name))
  | .lockedDir _ rest => rest.deeper path ++ [.locked]

/-- The visits to a directory on the stack. -/
def dirVisits : Text × Option Listing → List Visit
  | (path, some entries) => entries.visits path ++ entries.deeper path
  | (_, none) => [.locked]

def EvidenceTree.visits (tree : EvidenceTree) (runId : Option Text) : List Visit :=
  match tree.root runId with
  | .directory listing => dirVisits (rootPath runId, listing)
  | _ => []

section Flattening

variable (pathHash : Text → Checksum) (options : SweepOptions)

def Sweep.visit (sweep : Sweep) : Visit → Except Sweep Sweep
  | .locked => .ok sweep.skip
  | .other => do
      let sweep ← sweep.checkBudgets options
      pure sweep.skip
  | .dir => sweep.checkBudgets options
  | .file path file => do
      let sweep ← sweep.checkBudgets options
      sweep.visitFile pathHash options path file

/-- The directories that the loop over the entries puts on the stack. -/
def Listing.pushed (path : Text) : Listing → List (Text × Option Listing)
  | .nil => []
  | .other rest => rest.pushed path
  | .file _ _ rest => rest.pushed path
  | .dir name entries rest => rest.pushed path ++ [(childPath path name, some entries)]
  | .lockedDir name rest => rest.pushed path ++ [(childPath path name, none)]

theorem Listing.deeper_eq_flatMap (path : Text) (listing : Listing) :
    listing.deeper path = (listing.pushed path).flatMap dirVisits := by
  induction listing with
  | nil => rfl
  | other rest ih => exact ih
  | file name file rest ih => exact ih
  | dir name entries rest _ ih => simp [Listing.deeper, Listing.pushed, ih, dirVisits]
  | lockedDir name rest ih => simp [Listing.deeper, Listing.pushed, ih, dirVisits]

theorem scanEntries_eq (path : Text) (listing : Listing) (stack : List (Text × Option Listing))
    (sweep : Sweep) :
    scanEntries pathHash options path listing stack sweep =
      ((listing.visits path).foldlM (Sweep.visit pathHash options) sweep).map
        fun sweep => (listing.pushed path ++ stack, sweep) := by
  induction listing generalizing stack sweep with
  | nil => rfl
  | other rest ih =>
      rw [scanEntries, Listing.visits, List.foldlM_cons, Sweep.visit, bind_assoc]
      exact bind_eq_map_bind _ fun sweep => ih stack sweep.skip
  | file name file rest ih =>
      rw [scanEntries, Listing.visits, List.foldlM_cons, Sweep.visit, bind_assoc]
      exact bind_eq_map_bind _ fun sweep => bind_eq_map_bind _ fun sweep => ih stack sweep
  | dir name entries rest _ ih =>
      rw [scanEntries, Listing.visits, List.foldlM_cons, Sweep.visit, Listing.pushed,
        List.append_assoc]
      exact bind_eq_map_bind _ fun sweep => ih _ sweep
  | lockedDir name rest ih =>
      rw [scanEntries, Listing.visits, List.foldlM_cons, Sweep.visit, Listing.pushed,
        List.append_assoc]
      exact bind_eq_map_bind _ fun sweep => ih _ sweep

/-- The directories below those on a stack, with the stack itself. -/
def stackDirs (stack : List (Text × Option Listing)) : ℕ :=
  (stack.map fun dir => dir.2.elim 0 Listing.dirs + 1).sum

theorem stackDirs_pushed (path : Text) (listing : Listing) :
    stackDirs (listing.pushed path) = listing.dirs := by
  induction listing with
  | nil => rfl
  | other rest ih => exact ih
  | file name file rest ih => exact ih
  | dir name entries rest _ ih =>
      simp only [stackDirs] at ih
      simp [stackDirs, Listing.pushed, Listing.dirs, ih]
      omega
  | lockedDir name rest ih =>
      simp only [stackDirs] at ih
      simp [stackDirs, Listing.pushed, Listing.dirs, ih]

/-- With fuel for all directories the loop makes all visits. -/
theorem sweepLoop_eq (fuel : ℕ) (stack : List (Text × Option Listing)) (sweep : Sweep)
    (hfuel : stackDirs stack ≤ fuel) :
    sweepLoop pathHash options fuel stack sweep =
      (stack.flatMap dirVisits).foldlM (Sweep.visit pathHash options) sweep := by
  induction fuel generalizing stack sweep with
  | zero =>
      cases stack with
      | nil => rfl
      | cons dir stack => simp [stackDirs] at hfuel
  | succ fuel ih =>
      rcases stack with _ | ⟨⟨path, listing⟩, stack⟩
      · rfl
      · have hrest : (listing.elim 0 Listing.dirs + 1) + stackDirs stack ≤ fuel + 1 := by
          simpa [stackDirs] using hfuel
        cases listing with
        | none =>
            rw [List.flatMap_cons, dirVisits, List.foldlM_append]
            exact ih stack sweep.skip (by simp at hrest; omega)
        | some entries =>
            rw [sweepLoop, scanEntries_eq, List.flatMap_cons, dirVisits, List.append_assoc,
              List.foldlM_append]
            cases (entries.visits path).foldlM (Sweep.visit pathHash options) sweep with
            | error sweep => rfl
            | ok sweep =>
                have hpushed : stackDirs (entries.pushed path ++ stack) =
                    entries.dirs + stackDirs stack := by
                  rw [← stackDirs_pushed path entries]
                  simp [stackDirs]
                have hmore := ih (entries.pushed path ++ stack) sweep (by
                  rw [hpushed]
                  simp at hrest
                  omega)
                rw [List.flatMap_append, ← Listing.deeper_eq_flatMap] at hmore
                exact hmore

/-- The rows when a pass ends, of itself or at a budget. -/
def Sweep.rowsOf : Except Sweep Sweep → List EvidenceSpoolRef
  | .ok sweep => sweep.rows
  | .error sweep => sweep.rows

/-- A pass is its visits. -/
theorem rowsAfter_eq (tree : EvidenceTree) (rows : List EvidenceSpoolRef) :
    rowsAfter pathHash options tree rows =
      Sweep.rowsOf ((tree.visits options.runId).foldlM (Sweep.visit pathHash options)
        ⟨{}, rows⟩) := by
  cases hroot : tree.root options.runId with
  | missing =>
      rw [rowsAfter, sweepEvidenceOrphans, EvidenceTree.visits, hroot]
      rfl
  | refused =>
      rw [rowsAfter, sweepEvidenceOrphans, EvidenceTree.visits, hroot]
      rfl
  | directory listing =>
      have hloop := sweepLoop_eq pathHash options ((listing.elim 0 Listing.dirs) + 1)
        [(rootPath options.runId, listing)] ⟨{}, rows⟩ (by simp [stackDirs])
      simp only [rowsAfter, sweepEvidenceOrphans, EvidenceTree.visits, hroot, hloop]
      rw [List.flatMap_cons, List.flatMap_nil, List.append_nil]
      cases (dirVisits (rootPath options.runId, listing)).foldlM (Sweep.visit pathHash options)
        ⟨{}, rows⟩ <;> rfl

end Flattening

end ChainworksForge.Evidence
