import ChainworksForge.Evidence.Sweep
import Mathlib.Logic.Function.Iterate

/-!
# Which orphans are recovered in the end

Every pass starts again at the root and meets the same visits, and what a pass spends of
its budgets on a visit does not become less, except that a file that has its row costs no
bytes any more.  An orphan is therefore recovered in the end exactly if it is within reach
of a pass that has nothing else to recover.
-/

namespace ChainworksForge.Evidence

open ChainworksForge.Support

/-! ## What a pass meets -/

section Kinds

variable (options : SweepOptions) (rows : List EvidenceSpoolRef) (path : Text)

/-- A path of a candidate that has its row. -/
def indexed : Bool :=
  (candidateLayout options.runId path).any fun layout =>
    (findByRunAndPath rows layout.runId path).isSome

/-- A path of a candidate without a row. -/
def orphaned : Bool :=
  (candidateLayout options.runId path).any fun layout =>
    (findByRunAndPath rows layout.runId path).isNone

/-- A sweep can read the file and insert its row. -/
def recoverable (file : SpoolFile) : Bool :=
  (candidateLayout options.runId path).any fun layout =>
    file.size ≤ verifySizeCapBytes && file.checksum.isSome && layout.storable path

/-- Every pass reads the file, and its row is refused. -/
def refusedAfterReading (file : SpoolFile) : Bool :=
  (candidateLayout options.runId path).any fun layout =>
    (findByRunAndPath rows layout.runId path).isNone && file.size ≤ verifySizeCapBytes &&
      file.checksum.isSome && !layout.storable path

end Kinds

/-- The entries that count against the budget of files. -/
def countedOf (visits : List Visit) : ℕ :=
  visits.countP fun visit =>
    match visit with
    | .dir => false
    | _ => true

def Visit.spent (options : SweepOptions) (rows : List EvidenceSpoolRef) : Visit → ℕ
  | .file path found => if refusedAfterReading options rows path found then found.size else 0
  | _ => 0

/-- The bytes that every pass spends for nothing. -/
def spentOf (options : SweepOptions) (rows : List EvidenceSpoolRef) (visits : List Visit) : ℕ :=
  (visits.map (Visit.spent options rows)).sum

/-- No orphan ends the pass: each one that does not get its row from an earlier file fits
into the bytes that are left. -/
def Fits (options : SweepOptions) (rows : List EvidenceSpoolRef) (visits : List Visit) : Prop :=
  ∀ before path file after, visits = before ++ .file path file :: after →
    orphaned options rows path = true →
    (∀ other, .file path other ∈ before → recoverable options path other = false) →
      file.size + spentOf options rows before ≤ options.maxBytes

/-- A pass that has nothing to recover before a file reaches it. -/
structure WithinReach (options : SweepOptions) (rows : List EvidenceSpoolRef)
    (before : List Visit) (path : Text) (file : SpoolFile) : Prop where
  files : countedOf before < options.maxFiles
  bytes : spentOf options rows before < options.maxBytes
  fits : Fits options rows (before ++ [.file path file])

/-- A file of the path can be recovered and is within reach. -/
def Recovers (options : SweepOptions) (rows : List EvidenceSpoolRef) (visits : List Visit)
    (path : Text) : Prop :=
  ∃ before file after, visits = before ++ .file path file :: after ∧
    recoverable options path file = true ∧ WithinReach options rows before path file

/-- The orphans that a sweep is there for. -/
structure Eligible (options : SweepOptions) (path : Text) (file : SpoolFile) : Prop where
  candidate : (candidateLayout options.runId path).isSome = true
  cap : file.size ≤ verifySizeCapBytes
  budget : file.size ≤ options.maxBytes

/-- An identifier that is taken belongs to the path. -/
structure DistinctIds (pathHash : Text → Checksum) (options : SweepOptions)
    (rows : List EvidenceSpoolRef) (visits : List Visit) : Prop where
  stored : ∀ path file checksum, .file path file ∈ visits → file.checksum = some checksum →
    (candidateLayout options.runId path).isSome = true →
      ∀ row ∈ rows, row.id = recoveredOrphanId pathHash path checksum →
        indexed options rows path = true
  files : ∀ path file checksum path' file' checksum', .file path file ∈ visits →
    .file path' file' ∈ visits → file.checksum = some checksum →
      file'.checksum = some checksum' →
        recoveredOrphanId pathHash path checksum =
          recoveredOrphanId pathHash path' checksum' → path = path'

/-! ## Rows and paths -/

section Kinds

variable {options : SweepOptions} {rows rows' : List EvidenceSpoolRef} {path : Text}
  {file : SpoolFile} {layout : EvidenceLayout}

theorem findByRunAndPath_isSome_iff {runId : Text} :
    (findByRunAndPath rows runId path).isSome = true ↔
      ∃ row ∈ rows, row.runId = runId ∧ row.relativePath = path := by
  simp [findByRunAndPath]

theorem indexed_iff (hlayout : candidateLayout options.runId path = some layout) :
    indexed options rows path = true ↔
      ∃ row ∈ rows, row.runId = layout.runId ∧ row.relativePath = path := by
  rw [indexed, hlayout, Option.any_some, findByRunAndPath_isSome_iff]

theorem indexed_mono (hrows : rows ⊆ rows') (h : indexed options rows path = true) :
    indexed options rows' path = true := by
  obtain ⟨layout, hlayout, -⟩ := (Option.any_eq_true _ _).1 h
  rw [indexed_iff hlayout] at h ⊢
  obtain ⟨row, hrow, hmatch⟩ := h
  exact ⟨row, hrows hrow, hmatch⟩

theorem orphaned_iff :
    orphaned options rows path = true ↔
      (candidateLayout options.runId path).isSome = true ∧ indexed options rows path = false := by
  cases hlayout : candidateLayout options.runId path with
  | none => simp [orphaned, hlayout]
  | some layout => simp [orphaned, indexed, hlayout]

theorem orphaned_eq_false_of_indexed (h : indexed options rows path = true) :
    orphaned options rows path = false := by
  by_contra horphan
  rw [Bool.not_eq_false, orphaned_iff, h] at horphan
  cases horphan.2

/-- A path that is not an orphan is no candidate or has its row. -/
theorem orphaned_eq_false_iff :
    orphaned options rows path = false ↔
      candidateLayout options.runId path = none ∨ indexed options rows path = true := by
  cases hlayout : candidateLayout options.runId path with
  | none => simp [orphaned, hlayout]
  | some layout => simp [orphaned, indexed, hlayout]

theorem recoverable_candidate (h : recoverable options path file = true) :
    (candidateLayout options.runId path).isSome = true := by
  obtain ⟨layout, hlayout, -⟩ := (Option.any_eq_true _ _).1 h
  rw [hlayout]
  rfl

theorem validateRelativePath_of_candidate
    (hlayout : candidateLayout options.runId path = some layout) :
    validateRelativePath path = true := by
  unfold candidateLayout at hlayout
  by_contra hvalid
  simp [hvalid] at hlayout

/-- A path of which one file is refused after reading is recovered by none. -/
theorem not_refused_of_recoverable {other : SpoolFile}
    (h : recoverable options path other = true) :
    refusedAfterReading options rows path file = false := by
  obtain ⟨layout, hlayout, hother⟩ := (Option.any_eq_true _ _).1 h
  simp only [Bool.and_eq_true] at hother
  simp [refusedAfterReading, hlayout, hother.2]

end Kinds

/-! ## One visit -/

/-- A visit that does not end the pass: the bytes it read and the rows it added. -/
structure Passed (sweep sweep' : Sweep) (bytes : ℕ) (added : List EvidenceSpoolRef) : Prop where
  processed : sweep'.processed = sweep.processed + 1
  bytes : sweep'.report.bytesRead = sweep.report.bytesRead + bytes
  rows : sweep'.rows = sweep.rows ++ added

section Visits

variable {pathHash : Text → Checksum} {options : SweepOptions} {sweep sweep' : Sweep}
  {path : Text} {file : SpoolFile}

theorem checkBudgets_eq_ok_iff : sweep.checkBudgets options = .ok sweep' ↔
    sweep.processed < options.maxFiles ∧ sweep.report.bytesRead < options.maxBytes ∧
      sweep = sweep' := by
  unfold Sweep.checkBudgets
  by_cases hfiles : options.maxFiles ≤ sweep.processed
  · simp [hfiles]
  · by_cases hbytes : options.maxBytes ≤ sweep.report.bytesRead
    · simp [hfiles, hbytes]
    · simp [hfiles, hbytes, Nat.lt_of_not_le]

theorem checkBudgets_eq_error (h : sweep.checkBudgets options = .error sweep') :
    sweep'.rows = sweep.rows := by
  unfold Sweep.checkBudgets at h
  split at h
  · cases h
    rfl
  · split at h
    · cases h
      rfl
    · cases h

theorem processed_skip (sweep : Sweep) : sweep.skip.processed = sweep.processed + 1 := by
  simp only [Sweep.processed, Sweep.skip]
  omega

theorem count_eq_ok (sweep : Sweep) {outcome : Option OrphanCandidateOutcome}
    (houtcome : outcome ≠ some .budgetExhausted) :
    ∃ sweep', sweep.count outcome = .ok sweep' ∧ sweep'.processed = sweep.processed + 1 ∧
      sweep'.report.bytesRead = sweep.report.bytesRead ∧ sweep'.rows = sweep.rows := by
  rcases outcome with _ | (_ | _ | _ | _)
  · exact ⟨sweep.skip, rfl, processed_skip sweep, rfl, rfl⟩
  · refine ⟨_, rfl, ?_, rfl, rfl⟩
    simp only [Sweep.processed]
    omega
  · refine ⟨_, rfl, ?_, rfl, rfl⟩
    simp only [Sweep.processed]
    omega
  · exact ⟨sweep.skip, rfl, processed_skip sweep, rfl, rfl⟩
  · exact absurd rfl houtcome

theorem rowsOf_count (outcome : Option OrphanCandidateOutcome) :
    Sweep.rowsOf (sweep.count outcome) = sweep.rows := by
  rcases outcome with _ | (_ | _ | _ | _) <;> rfl

theorem count_eq_error {outcome : Option OrphanCandidateOutcome}
    (h : sweep.count outcome = .error sweep') : outcome = some .budgetExhausted := by
  by_contra houtcome
  obtain ⟨_, hok, -⟩ := count_eq_ok sweep houtcome
  rw [hok] at h
  cases h

theorem subset_recoverOrphanCandidate {runId : Option Text} {dryRun : Bool}
    {rows : List EvidenceSpoolRef} {bytesRead maxBytes : ℕ} :
    rows ⊆
      (recoverOrphanCandidate pathHash rows path file runId dryRun bytesRead maxBytes).2.1 := by
  unfold recoverOrphanCandidate
  repeat' split
  all_goals first | exact List.Subset.refl _ | skip
  rename_i hinsert
  unfold insertIdempotent at hinsert
  repeat' split at hinsert
  all_goals cases hinsert
  · exact List.Subset.refl _
  · exact List.subset_append_left _ _

theorem recoverOrphanCandidate_exhausted {runId : Option Text} {dryRun : Bool}
    {rows : List EvidenceSpoolRef} {bytesRead maxBytes : ℕ}
    (h : (recoverOrphanCandidate pathHash rows path file runId dryRun bytesRead maxBytes).1 =
      some .budgetExhausted) :
    (recoverOrphanCandidate pathHash rows path file runId dryRun bytesRead maxBytes).2.1 =
      rows := by
  revert h
  unfold recoverOrphanCandidate
  repeat' split
  all_goals simp

/-- What recovery says of a file, read back from the visit. -/
theorem visitFile_passed (outcome : Option OrphanCandidateOutcome) (bytes : ℕ)
    (added : List EvidenceSpoolRef) (houtcome : outcome ≠ some .budgetExhausted)
    (hresult : recoverOrphanCandidate pathHash sweep.rows path file options.runId
      options.dryRun sweep.report.bytesRead options.maxBytes =
        (outcome, sweep.rows ++ added, sweep.report.bytesRead + bytes)) :
    ∃ sweep', sweep.visitFile pathHash options path file = .ok sweep' ∧
      Passed sweep sweep' bytes added := by
  obtain ⟨sweep', hcount, hprocessed, hbytes, hrows⟩ := count_eq_ok
    { sweep with
      report.bytesRead := sweep.report.bytesRead + bytes
      rows := sweep.rows ++ added } houtcome
  exact ⟨sweep', by rw [Sweep.visitFile, hresult]; exact hcount, hprocessed, hbytes, hrows⟩

/-- A file that is no orphan is skipped or counted as indexed. -/
theorem visitFile_of_not_orphaned (h : orphaned options sweep.rows path = false) :
    ∃ sweep', sweep.visitFile pathHash options path file = .ok sweep' ∧
      Passed sweep sweep' 0 [] := by
  cases hlayout : candidateLayout options.runId path with
  | none =>
      exact visitFile_passed (some .skipped) 0 [] (by decide)
        (by simp [recoverOrphanCandidate, hlayout])
  | some layout =>
      have hindexed : (findByRunAndPath sweep.rows layout.runId path).isSome = true := by
        simpa [orphaned, hlayout, Option.isSome_iff_ne_none] using h
      exact visitFile_passed (some .alreadyIndexed) 0 [] (by decide)
        (by simp [recoverOrphanCandidate, hlayout, hindexed])

/-- An orphan that does not fit ends the pass. -/
theorem visitFile_of_not_fits (h : orphaned options sweep.rows path = true)
    (hsize : options.maxBytes - sweep.report.bytesRead < file.size) :
    ∃ sweep', sweep.visitFile pathHash options path file = .error sweep' ∧
      sweep'.rows = sweep.rows := by
  obtain ⟨layout, hlayout, hnone⟩ := (Option.any_eq_true _ _).1 h
  have hnone' : findByRunAndPath sweep.rows layout.runId path = none :=
    Option.isNone_iff_eq_none.1 hnone
  exact ⟨sweep.skip.truncate, by simp [Sweep.visitFile, recoverOrphanCandidate, hlayout, hnone',
    hsize, Sweep.count], rfl⟩

/-- An orphan that fits gets its row if it can, and otherwise costs its bytes if it is
read. -/
theorem visitFile_of_fits (hdry : options.dryRun = false)
    (h : orphaned options sweep.rows path = true)
    (hsize : file.size ≤ options.maxBytes - sweep.report.bytesRead)
    (hfree : ∀ checksum, file.checksum = some checksum →
      ∀ row ∈ sweep.rows, row.id ≠ recoveredOrphanId pathHash path checksum) :
    ∃ sweep', sweep.visitFile pathHash options path file = .ok sweep' ∧
      (recoverable options path file = false ∧
          Passed sweep sweep' ((Visit.file path file).spent options sweep.rows) [] ∨
        recoverable options path file = true ∧ ∃ layout checksum,
          candidateLayout options.runId path = some layout ∧ file.checksum = some checksum ∧
            Passed sweep sweep' file.size
              [recoveredRef pathHash layout path file.size checksum]) := by
  obtain ⟨layout, hlayout, hnone⟩ := (Option.any_eq_true _ _).1 h
  have hnone' : findByRunAndPath sweep.rows layout.runId path = none :=
    Option.isNone_iff_eq_none.1 hnone
  have hfits : ¬options.maxBytes - sweep.report.bytesRead < file.size := by omega
  have hvalid := validateRelativePath_of_candidate hlayout
  by_cases hcap : verifySizeCapBytes < file.size
  · have hcap' : ¬file.size ≤ verifySizeCapBytes := by omega
    have hspent : (Visit.file path file).spent options sweep.rows = 0 := by
      simp [Visit.spent, refusedAfterReading, hlayout, hcap']
    have hresult : recoverOrphanCandidate pathHash sweep.rows path file options.runId
        options.dryRun sweep.report.bytesRead options.maxBytes =
          (some .skipped, sweep.rows ++ [], sweep.report.bytesRead + 0) := by
      simp [recoverOrphanCandidate, hlayout, hnone', hfits, hcap]
    obtain ⟨sweep', hvisit, hpassed⟩ := visitFile_passed (some .skipped) 0 []
      (by decide) hresult
    refine ⟨sweep', hvisit, .inl ⟨?_, ?_⟩⟩
    · simp [recoverable, hlayout, hcap']
    · rw [hspent]
      exact hpassed
  · have hcap' : file.size ≤ verifySizeCapBytes := by omega
    cases hchecksum : file.checksum with
    | none =>
        have hspent : (Visit.file path file).spent options sweep.rows = 0 := by
          simp [Visit.spent, refusedAfterReading, hlayout, hchecksum]
        have hresult : recoverOrphanCandidate pathHash sweep.rows path file options.runId
            options.dryRun sweep.report.bytesRead options.maxBytes =
              (none, sweep.rows ++ [], sweep.report.bytesRead + 0) := by
          simp [recoverOrphanCandidate, hlayout, hnone', hfits, hcap, hchecksum]
        obtain ⟨sweep', hvisit, hpassed⟩ := visitFile_passed (none) 0 []
          (by decide) hresult
        refine ⟨sweep', hvisit, .inl ⟨?_, ?_⟩⟩
        · simp [recoverable, hlayout, hchecksum]
        · rw [hspent]
          exact hpassed
    | some checksum =>
        have hinsert : insertIdempotent sweep.rows
            (recoveredRef pathHash layout path file.size checksum) =
              if layout.storable path then
                some (sweep.rows ++ [recoveredRef pathHash layout path file.size checksum])
              else none :=
          insertIdempotent_recoveredRef hvalid hnone' (hfree checksum hchecksum)
        cases hstorable : layout.storable path with
        | false =>
            rw [hstorable] at hinsert
            have hspent : (Visit.file path file).spent options sweep.rows = file.size := by
              simp [Visit.spent, refusedAfterReading, hlayout, hnone', hcap', hchecksum,
                hstorable]
            have hresult : recoverOrphanCandidate pathHash sweep.rows path file options.runId
                options.dryRun sweep.report.bytesRead options.maxBytes =
                  (none, sweep.rows ++ [], sweep.report.bytesRead + file.size) := by
              simp [recoverOrphanCandidate, hlayout, hnone', hfits, hcap, hchecksum, hdry,
                hinsert]
            obtain ⟨sweep', hvisit, hpassed⟩ := visitFile_passed (none) file.size []
              (by decide) hresult
            refine ⟨sweep', hvisit, .inl ⟨?_, ?_⟩⟩
            · simp [recoverable, hlayout, hstorable]
            · rw [hspent]
              exact hpassed
        | true =>
            rw [hstorable] at hinsert
            have hresult : recoverOrphanCandidate pathHash sweep.rows path file options.runId
                options.dryRun sweep.report.bytesRead options.maxBytes =
                  (some .recovered,
                    sweep.rows ++ [recoveredRef pathHash layout path file.size checksum],
                    sweep.report.bytesRead + file.size) := by
              simp [recoverOrphanCandidate, hlayout, hnone', hfits, hcap, hchecksum, hdry,
                hinsert]
            obtain ⟨sweep', hvisit, hpassed⟩ := visitFile_passed (some .recovered) file.size
              [recoveredRef pathHash layout path file.size checksum]
              (by decide) hresult
            refine ⟨sweep', hvisit, .inr ⟨?_, layout, checksum, hlayout, rfl, hpassed⟩⟩
            simp [recoverable, hlayout, hcap', hchecksum, hstorable]

end Visits

end ChainworksForge.Evidence
