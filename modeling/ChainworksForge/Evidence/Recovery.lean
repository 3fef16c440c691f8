import ChainworksForge.Evidence.Progress
import Mathlib.Data.Finset.Card

/-!
# Repeated passes over an evidence tree

What passes add to the rows stays within reach, and a pass that adds nothing has found
everything that is within reach.  So repeating the sweep ends with the rows of exactly
those orphans.
-/

namespace ChainworksForge.Evidence

open ChainworksForge.Support

/-! ## Lists of visits -/

section Lists

variable {α : Type}

/-- Of two elements of a list the second stands before the first, or it does not. -/
theorem mem_or_append_of_append_eq {before after before' after' : List α} {v w : α}
    (h : before ++ v :: after = before' ++ w :: after') :
    w ∈ before ∨ ∃ rest, before' ++ [w] = before ++ v :: rest := by
  rcases List.append_eq_append_iff.1 h with ⟨middle, rfl, hmiddle⟩ | ⟨middle, rfl, hmiddle⟩
  · cases middle with
    | nil =>
        obtain ⟨rfl, -⟩ := List.cons.inj hmiddle
        exact .inr ⟨[], by simp⟩
    | cons first middle =>
        obtain ⟨rfl, -⟩ := List.cons.inj hmiddle
        exact .inr ⟨middle ++ [w], by simp⟩
  · cases middle with
    | nil =>
        obtain ⟨rfl, -⟩ := List.cons.inj hmiddle
        exact .inr ⟨[], by simp⟩
    | cons first middle =>
        obtain ⟨rfl, -⟩ := List.cons.inj hmiddle
        exact .inl (by simp)

end Lists

section Visits

variable {options : SweepOptions} {rows : List EvidenceSpoolRef} {before after : List Visit}
  {visit : Visit} {path : Text} {file : SpoolFile}

theorem countedOf_append : countedOf (before ++ after) = countedOf before + countedOf after :=
  List.countP_append

theorem spentOf_append : spentOf options rows (before ++ after) =
    spentOf options rows before + spentOf options rows after := by
  simp [spentOf]

theorem spentOf_singleton : spentOf options rows [visit] = visit.spent options rows := by
  simp [spentOf]

theorem fits_nil : Fits options rows [] := by
  intro before path file after hsplit
  cases before <;> cases hsplit

theorem Fits.concat (h : Fits options rows before)
    (hvisit : ∀ path file, visit = .file path file → orphaned options rows path = true →
      (∀ other, .file path other ∈ before → recoverable options path other = false) →
        file.size + spentOf options rows before ≤ options.maxBytes) :
    Fits options rows (before ++ [visit]) := by
  intro front path file back hsplit
  rcases List.eq_nil_or_concat back with rfl | ⟨back, last, rfl⟩
  · obtain ⟨rfl, hlast⟩ := List.append_inj' hsplit rfl
    exact hvisit path file (List.cons.inj hlast).1
  · rw [List.concat_eq_append, ← List.cons_append, ← List.append_assoc] at hsplit
    obtain ⟨hfront, -⟩ := List.append_inj' hsplit rfl
    exact h front path file back hfront

theorem Fits.concat_of_ne (h : Fits options rows before)
    (hvisit : ∀ path file, visit ≠ .file path file) : Fits options rows (before ++ [visit]) :=
  h.concat fun path file hfile => absurd hfile (hvisit path file)

end Visits

/-! ## Rows that passes reach -/

/-- Rows that passes have added to: every new row is of a file of the tree, and every new
path is within reach. -/
structure Reached (pathHash : Text → Checksum) (options : SweepOptions)
    (rows : List EvidenceSpoolRef) (visits : List Visit) (current : List EvidenceSpoolRef) :
    Prop where
  kept : rows ⊆ current
  grown : ∀ row ∈ current, row ∈ rows ∨ ∃ path file layout checksum,
    .file path file ∈ visits ∧ candidateLayout options.runId path = some layout ∧
      file.checksum = some checksum ∧ row = recoveredRef pathHash layout path file.size checksum
  recovers : ∀ path, indexed options current path = true → indexed options rows path = false →
    Recovers options rows visits path

section Reached

variable {pathHash : Text → Checksum} {options : SweepOptions}
  {rows current : List EvidenceSpoolRef} {visits : List Visit} {path : Text} {file : SpoolFile}

theorem Reached.start : Reached pathHash options rows visits rows where
  kept := List.Subset.refl _
  grown := fun _ hrow => .inl hrow
  recovers := fun path hindexed hnot => by
    rw [hindexed] at hnot
    cases hnot

/-- The identifier of a file without a row is not taken. -/
theorem Reached.free (h : Reached pathHash options rows visits current)
    (hids : DistinctIds pathHash options rows visits) (hmem : .file path file ∈ visits)
    (horphan : orphaned options current path = true) (checksum : Checksum)
    (hchecksum : file.checksum = some checksum) :
    ∀ row ∈ current, row.id ≠ recoveredOrphanId pathHash path checksum := by
  intro row hrow hid
  obtain ⟨hcandidate, hnot⟩ := orphaned_iff.1 horphan
  refine absurd ?_ (Bool.not_eq_true _ ▸ hnot)
  rcases h.grown row hrow with hstored | ⟨path', file', layout, checksum', hmem', hlayout,
    hchecksum', rfl⟩
  · exact indexed_mono h.kept
      (hids.stored path file checksum hmem hchecksum hcandidate row hstored hid)
  · obtain rfl : path = path' :=
      hids.files path file checksum path' file' checksum' hmem hmem' hchecksum hchecksum' hid.symm
    exact (indexed_iff hlayout).2 ⟨_, hrow, rfl, rfl⟩

theorem Reached.append {layout : EvidenceLayout} {checksum : Checksum}
    (h : Reached pathHash options rows visits current) (hmem : .file path file ∈ visits)
    (hlayout : candidateLayout options.runId path = some layout)
    (hchecksum : file.checksum = some checksum)
    (hrecovers : Recovers options rows visits path) :
    Reached pathHash options rows visits
      (current ++ [recoveredRef pathHash layout path file.size checksum]) where
  kept := fun row hrow => List.mem_append_left _ (h.kept hrow)
  grown := by
    intro row hrow
    rcases List.mem_append.1 hrow with hrow | hrow
    · exact h.grown row hrow
    · obtain rfl := List.mem_singleton.1 hrow
      exact .inr ⟨path, file, layout, checksum, hmem, hlayout, hchecksum, rfl⟩
  recovers := by
    intro other hindexed hnot
    obtain ⟨otherLayout, hother, -⟩ := (Option.any_eq_true _ _).1 hindexed
    obtain ⟨row, hrow, hrun, hpath⟩ := (indexed_iff hother).1 hindexed
    rcases List.mem_append.1 hrow with hrow | hrow
    · exact h.recovers other ((indexed_iff hother).2 ⟨row, hrow, hrun, hpath⟩) hnot
    · obtain rfl := List.mem_singleton.1 hrow
      exact hpath ▸ hrecovers

theorem Recovers.exists_recoverable (h : Recovers options rows visits path) :
    ∃ file, .file path file ∈ visits ∧ recoverable options path file = true := by
  obtain ⟨before, file, after, rfl, hrecoverable, -⟩ := h
  exact ⟨file, by simp, hrecoverable⟩

theorem refused_of_not_orphaned (h : orphaned options rows path = false) :
    refusedAfterReading options rows path file = false := by
  rcases orphaned_eq_false_iff.1 h with hnone | hindexed
  · simp [refusedAfterReading, hnone]
  · obtain ⟨layout, hlayout, hfound⟩ := (Option.any_eq_true _ _).1 hindexed
    have hnone : (findByRunAndPath rows layout.runId path).isNone = false := by
      rw [← Option.not_isSome, hfound]
      rfl
    simp [refusedAfterReading, hlayout, hnone]

theorem spent_of_not_orphaned (h : orphaned options rows path = false) :
    (Visit.file path file).spent options rows = 0 := by
  rw [Visit.spent, refused_of_not_orphaned h]
  rfl

/-- The files that are refused after reading stay the same. -/
theorem Reached.refused_eq (h : Reached pathHash options rows visits current) :
    refusedAfterReading options current path file =
      refusedAfterReading options rows path file := by
  cases hindexed : indexed options rows path with
  | true =>
      rw [refused_of_not_orphaned (orphaned_eq_false_of_indexed hindexed),
        refused_of_not_orphaned (orphaned_eq_false_of_indexed (indexed_mono h.kept hindexed))]
  | false =>
      cases hlater : indexed options current path with
      | true =>
          obtain ⟨other, -, hrecoverable⟩ := (h.recovers path hlater hindexed).exists_recoverable
          rw [not_refused_of_recoverable hrecoverable, not_refused_of_recoverable hrecoverable]
      | false =>
          cases hlayout : candidateLayout options.runId path with
          | none => simp [refusedAfterReading, hlayout]
          | some layout =>
              rw [indexed, hlayout, Option.any_some] at hindexed hlater
              rw [Option.isSome_eq_false_iff, Option.isNone_iff_eq_none] at hindexed hlater
              simp [refusedAfterReading, hlayout, hindexed, hlater]

theorem Reached.spent_eq (h : Reached pathHash options rows visits current) (visit : Visit) :
    visit.spent options current = visit.spent options rows := by
  cases visit with
  | file path file => simp only [Visit.spent, h.refused_eq]
  | locked => rfl
  | other => rfl
  | dir => rfl

end Reached

/-! ## One pass keeps what it has reached -/

/-- A pass has made the first visits. -/
structure Walked (pathHash : Text → Checksum) (options : SweepOptions)
    (rows : List EvidenceSpoolRef) (visits before : List Visit) (sweep : Sweep) : Prop where
  reached : Reached pathHash options rows visits sweep.rows
  processed : sweep.processed = countedOf before
  spent : spentOf options rows before ≤ sweep.report.bytesRead
  fits : Fits options rows before

section Walk

variable {pathHash : Text → Checksum} {options : SweepOptions}
  {rows current : List EvidenceSpoolRef} {visits before after : List Visit} {visit : Visit}
  {sweep sweep' : Sweep} {path : Text} {file : SpoolFile}

/-- An earlier file of the path is recovered, or it is at or after the file and the file
lies on the way to it. -/
theorem Reached.fits (h : Reached pathHash options rows visits current)
    (hsplit : visits = before ++ .file path file :: after)
    (horphan : orphaned options rows path = true)
    (hlater : orphaned options current path = false)
    (hnone : ∀ other, .file path other ∈ before → recoverable options path other = false) :
    file.size + spentOf options rows before ≤ options.maxBytes := by
  obtain ⟨hcandidate, hnot⟩ := orphaned_iff.1 horphan
  have hindexed : indexed options current path = true := by
    rcases orphaned_eq_false_iff.1 hlater with hlayout | hindexed
    · rw [hlayout] at hcandidate
      cases hcandidate
    · exact hindexed
  obtain ⟨front, other, back, hother, hrecoverable, hreach⟩ := h.recovers path hindexed hnot
  rcases mem_or_append_of_append_eq (hsplit.symm.trans hother) with hbefore | ⟨rest, hrest⟩
  · rw [hnone other hbefore] at hrecoverable
    cases hrecoverable
  · exact hreach.fits before path file rest hrest horphan hnone

theorem Walked.visitFile (hids : DistinctIds pathHash options rows visits)
    (hdry : options.dryRun = false) (h : Walked pathHash options rows visits before sweep)
    (hsplit : visits = before ++ .file path file :: after)
    (hfiles : sweep.processed < options.maxFiles)
    (hbytes : sweep.report.bytesRead < options.maxBytes)
    (hvisit : sweep.visitFile pathHash options path file = .ok sweep') :
    Walked pathHash options rows visits (before ++ [.file path file]) sweep' := by
  have hmem : .file path file ∈ visits := by simp [hsplit]
  have hcounted : countedOf (before ++ [.file path file]) = countedOf before + 1 :=
    countedOf_append
  have hspent := h.spent
  cases horphan : orphaned options sweep.rows path with
  | false =>
      obtain ⟨_, hok, hpassed⟩ := visitFile_of_not_orphaned horphan
      obtain rfl := Except.ok.inj (hok.symm.trans hvisit)
      have hzero : (Visit.file path file).spent options sweep.rows = 0 :=
        spent_of_not_orphaned horphan
      rw [h.reached.spent_eq] at hzero
      refine ⟨?_, ?_, ?_, h.fits.concat fun path' file' hsame horphan' hnone => ?_⟩
      · rw [hpassed.rows, List.append_nil]
        exact h.reached
      · rw [hpassed.processed, h.processed, hcounted]
      · rw [spentOf_append, spentOf_singleton, hzero, hpassed.bytes]
        exact hspent
      · cases hsame
        exact h.reached.fits hsplit horphan' horphan hnone
  | true =>
      by_cases hsize : file.size ≤ options.maxBytes - sweep.report.bytesRead
      · have hfits : Fits options rows (before ++ [.file path file]) :=
          h.fits.concat fun path' file' hsame _ _ => by
            cases hsame
            omega
        obtain ⟨_, hok, hresult⟩ := visitFile_of_fits hdry horphan hsize
          (h.reached.free hids hmem horphan)
        obtain rfl := Except.ok.inj (hok.symm.trans hvisit)
        rcases hresult with ⟨-, hpassed⟩ | ⟨hrecoverable, layout, checksum, hlayout, hchecksum,
          hpassed⟩
        · refine ⟨?_, ?_, ?_, hfits⟩
          · rw [hpassed.rows, List.append_nil]
            exact h.reached
          · rw [hpassed.processed, h.processed, hcounted]
          · rw [spentOf_append, spentOf_singleton, ← h.reached.spent_eq, hpassed.bytes]
            exact Nat.add_le_add_right hspent _
        · have hrecovers : Recovers options rows visits path :=
            ⟨before, file, after, hsplit, hrecoverable,
              ⟨h.processed ▸ hfiles, hspent.trans_lt hbytes, hfits⟩⟩
          have hzero : (Visit.file path file).spent options rows = 0 := by
            rw [Visit.spent, not_refused_of_recoverable hrecoverable]
            rfl
          refine ⟨?_, ?_, ?_, hfits⟩
          · rw [hpassed.rows]
            exact h.reached.append hmem hlayout hchecksum hrecovers
          · rw [hpassed.processed, h.processed, hcounted]
          · rw [spentOf_append, spentOf_singleton, hzero, hpassed.bytes]
            exact hspent.trans (Nat.le_add_right _ _)
      · obtain ⟨_, herror, -⟩ : ∃ ended,
            sweep.visitFile pathHash options path file = .error ended ∧
              ended.rows = sweep.rows :=
          visitFile_of_not_fits horphan (Nat.lt_of_not_le hsize)
        rw [herror] at hvisit
        cases hvisit

theorem Walked.skip (h : Walked pathHash options rows visits before sweep)
    (hcounted : countedOf [visit] = 1) (hfile : ∀ path file, visit ≠ .file path file)
    (hzero : visit.spent options rows = 0) :
    Walked pathHash options rows visits (before ++ [visit]) sweep.skip where
  reached := h.reached
  processed := by rw [processed_skip, countedOf_append, h.processed, hcounted]
  spent := by
    rw [spentOf_append, spentOf_singleton, hzero]
    exact h.spent
  fits := h.fits.concat_of_ne hfile

theorem Walked.step (hids : DistinctIds pathHash options rows visits)
    (hdry : options.dryRun = false) (h : Walked pathHash options rows visits before sweep)
    (hsplit : visits = before ++ visit :: after)
    (hvisit : sweep.visit pathHash options visit = .ok sweep') :
    Walked pathHash options rows visits (before ++ [visit]) sweep' := by
  cases visit with
  | locked =>
      obtain rfl := Except.ok.inj hvisit
      exact h.skip rfl (fun _ _ hsame => by cases hsame) rfl
  | other =>
      obtain ⟨_, hcheck, hskip⟩ := (bind_eq_ok_iff _ _ _).1 hvisit
      obtain ⟨-, -, rfl⟩ := checkBudgets_eq_ok_iff.1 hcheck
      obtain rfl := (pure_eq_ok_iff _ _).1 hskip
      exact h.skip rfl (fun _ _ hsame => by cases hsame) rfl
  | dir =>
      obtain ⟨-, -, rfl⟩ := checkBudgets_eq_ok_iff.1 hvisit
      refine ⟨h.reached, ?_, ?_, h.fits.concat_of_ne fun _ _ hsame => by cases hsame⟩
      · rw [countedOf_append]
        exact h.processed
      · rw [spentOf_append, spentOf_singleton]
        exact h.spent
  | file path file =>
      obtain ⟨_, hcheck, hfile⟩ := (bind_eq_ok_iff _ _ _).1 hvisit
      obtain ⟨hfiles, hbytes, rfl⟩ := checkBudgets_eq_ok_iff.1 hcheck
      exact h.visitFile hids hdry hsplit hfiles hbytes hfile

/-- A visit that ends the pass leaves the rows as they are. -/
theorem rows_of_visit_error (hvisit : sweep.visit pathHash options visit = .error sweep') :
    sweep'.rows = sweep.rows := by
  have hbind : ∀ {f : Sweep → Except Sweep Sweep},
      (∀ s, f s = .error sweep' → sweep'.rows = s.rows) →
        (sweep.checkBudgets options >>= f) = .error sweep' → sweep'.rows = sweep.rows := by
    intro f hf hbind
    cases hcheck : sweep.checkBudgets options with
    | error _ =>
        rw [hcheck] at hbind
        obtain rfl := Except.error.inj hbind
        exact checkBudgets_eq_error hcheck
    | ok _ =>
        obtain ⟨-, -, rfl⟩ := checkBudgets_eq_ok_iff.1 hcheck
        rw [hcheck] at hbind
        exact hf _ hbind
  cases visit with
  | locked => cases hvisit
  | other => exact hbind (fun _ herror => by cases herror) hvisit
  | dir => exact checkBudgets_eq_error hvisit
  | file path file =>
      refine hbind (fun s herror => ?_) hvisit
      have hrows := congrArg Sweep.rowsOf herror
      rw [Sweep.visitFile, rowsOf_count] at hrows
      exact hrows.symm.trans (recoverOrphanCandidate_exhausted (count_eq_error herror))

/-- A visit keeps the rows. -/
theorem subset_of_visit_ok (hvisit : sweep.visit pathHash options visit = .ok sweep') :
    sweep.rows ⊆ sweep'.rows := by
  cases visit with
  | locked =>
      obtain rfl := Except.ok.inj hvisit
      exact List.Subset.refl _
  | other =>
      obtain ⟨_, hcheck, hskip⟩ := (bind_eq_ok_iff _ _ _).1 hvisit
      obtain ⟨-, -, rfl⟩ := checkBudgets_eq_ok_iff.1 hcheck
      obtain rfl := (pure_eq_ok_iff _ _).1 hskip
      exact List.Subset.refl _
  | dir =>
      obtain ⟨-, -, rfl⟩ := checkBudgets_eq_ok_iff.1 hvisit
      exact List.Subset.refl _
  | file path file =>
      obtain ⟨_, hcheck, hfile⟩ := (bind_eq_ok_iff _ _ _).1 hvisit
      obtain ⟨-, -, rfl⟩ := checkBudgets_eq_ok_iff.1 hcheck
      have hrows := congrArg Sweep.rowsOf hfile
      rw [Sweep.visitFile, rowsOf_count] at hrows
      change _ = sweep'.rows at hrows
      exact hrows ▸ subset_recoverOrphanCandidate

/-- What comes after a state of a pass keeps its rows. -/
theorem subset_rowsOf_foldlM :
    sweep.rows ⊆ Sweep.rowsOf (after.foldlM (Sweep.visit pathHash options) sweep) := by
  induction after generalizing sweep with
  | nil => exact List.Subset.refl _
  | cons visit after ih =>
      rw [List.foldlM_cons]
      cases hvisit : sweep.visit pathHash options visit with
      | error ended =>
          change sweep.rows ⊆ ended.rows
          rw [rows_of_visit_error hvisit]
          exact List.Subset.refl _
      | ok next => exact List.Subset.trans (subset_of_visit_ok hvisit) ih

theorem Walked.reached_rowsOf (hids : DistinctIds pathHash options rows visits)
    (hdry : options.dryRun = false) (h : Walked pathHash options rows visits before sweep)
    (hsplit : visits = before ++ after) :
    Reached pathHash options rows visits
      (Sweep.rowsOf (after.foldlM (Sweep.visit pathHash options) sweep)) := by
  induction after generalizing before sweep with
  | nil => exact h.reached
  | cons visit after ih =>
      rw [List.foldlM_cons]
      cases hvisit : sweep.visit pathHash options visit with
      | error ended =>
          change Reached _ _ _ _ ended.rows
          rw [rows_of_visit_error hvisit]
          exact h.reached
      | ok next =>
          refine ih (h.step hids hdry hsplit hvisit) ?_
          rw [hsplit, List.append_assoc, List.singleton_append]

end Walk

/-! ## A pass that adds nothing -/

/-- The rows at the end of a pass. -/
def passRows (pathHash : Text → Checksum) (options : SweepOptions) (visits : List Visit)
    (rows : List EvidenceSpoolRef) : List EvidenceSpoolRef :=
  Sweep.rowsOf (visits.foldlM (Sweep.visit pathHash options) ⟨{}, rows⟩)

section Pass

variable {pathHash : Text → Checksum} {options : SweepOptions}
  {rows current : List EvidenceSpoolRef} {visits before after : List Visit} {path : Text}
  {file : SpoolFile}

theorem Reached.pass (h : Reached pathHash options rows visits current)
    (hids : DistinctIds pathHash options rows visits) (hdry : options.dryRun = false) :
    Reached pathHash options rows visits (passRows pathHash options visits current) := by
  have hstart : Walked pathHash options rows visits [] ⟨{}, current⟩ :=
    ⟨h, rfl, Nat.zero_le _, fits_nil⟩
  exact hstart.reached_rowsOf hids hdry rfl

theorem subset_passRows : current ⊆ passRows pathHash options visits current := by
  change (⟨{}, current⟩ : Sweep).rows ⊆ _
  exact subset_rowsOf_foldlM

/-- What a pass has done when it has made some visits and added nothing. -/
structure Idle (options : SweepOptions) (rows current : List EvidenceSpoolRef)
    (before : List Visit) (sweep : Sweep) : Prop where
  same : sweep.rows = current
  processed : sweep.processed = countedOf before
  spent : sweep.report.bytesRead = spentOf options rows before
  done : ∀ path file, .file path file ∈ before → recoverable options path file = true →
    indexed options current path = true

/-- One more visit, on the way to a file within reach, by a pass that adds no path. -/
theorem Idle.step {visit : Visit} {sweep : Sweep}
    (hids : DistinctIds pathHash options rows visits) (hdry : options.dryRun = false)
    (hreached : Reached pathHash options rows visits current)
    (hidle : Idle options rows current before sweep)
    (hsplit : visits = before ++ visit :: after)
    (hfiles : countedOf before < options.maxFiles)
    (hbytes : spentOf options rows before < options.maxBytes)
    (hfits : Fits options rows (before ++ [visit]))
    (hstall : ∀ sweep' path, sweep.visit pathHash options visit = .ok sweep' →
      indexed options sweep'.rows path = true → indexed options current path = true) :
    ∃ sweep', sweep.visit pathHash options visit = .ok sweep' ∧
      Idle options rows current (before ++ [visit]) sweep' := by
  have hcheck : sweep.checkBudgets options = .ok sweep :=
    checkBudgets_eq_ok_iff.2 ⟨hidle.processed ▸ hfiles, hidle.spent ▸ hbytes, rfl⟩
  have hcounted : countedOf (before ++ [visit]) = countedOf before + countedOf [visit] :=
    countedOf_append
  have hspent : spentOf options rows (before ++ [visit]) =
      spentOf options rows before + visit.spent options rows := by
    rw [spentOf_append, spentOf_singleton]
  have hdone : (∀ path file, visit = .file path file → recoverable options path file = true →
      indexed options current path = true) → ∀ path file, .file path file ∈ before ++ [visit] →
        recoverable options path file = true → indexed options current path = true := by
    intro hvisit path file hmem hrecoverable
    rcases List.mem_append.1 hmem with hold | hnew
    · exact hidle.done path file hold hrecoverable
    · exact hvisit path file (List.mem_singleton.1 hnew).symm hrecoverable
  cases visit with
  | locked =>
      exact ⟨sweep.skip, rfl, hidle.same, by rw [processed_skip, hidle.processed, hcounted]; rfl,
        by rw [hspent]; exact hidle.spent, hdone fun _ _ hsame => by cases hsame⟩
  | other =>
      refine ⟨sweep.skip, ?_, hidle.same, by rw [processed_skip, hidle.processed, hcounted]; rfl,
        by rw [hspent]; exact hidle.spent, hdone fun _ _ hsame => by cases hsame⟩
      rw [Sweep.visit, hcheck]
      rfl
  | dir =>
      exact ⟨sweep, hcheck, hidle.same, by rw [hcounted]; exact hidle.processed,
        by rw [hspent]; exact hidle.spent, hdone fun _ _ hsame => by cases hsame⟩
  | file path file =>
      have hmem : .file path file ∈ visits := by simp [hsplit]
      have hvisit : sweep.visit pathHash options (.file path file) =
          sweep.visitFile pathHash options path file := by
        rw [Sweep.visit, hcheck]
        rfl
      rw [hvisit] at hstall ⊢
      cases horphan : orphaned options sweep.rows path with
      | false =>
          obtain ⟨next, hok, hpassed⟩ := visitFile_of_not_orphaned horphan
          have hzero : (Visit.file path file).spent options sweep.rows = 0 :=
            spent_of_not_orphaned horphan
          rw [hidle.same, hreached.spent_eq] at hzero
          refine ⟨next, hok, ?_, ?_, ?_, hdone fun _ _ hsame hrecoverable => ?_⟩
          · rw [hpassed.rows, List.append_nil, hidle.same]
          · rw [hpassed.processed, hidle.processed, hcounted]
            rfl
          · rw [hpassed.bytes, hidle.spent, hspent, hzero]
          · cases hsame
            rw [hidle.same] at horphan
            rcases orphaned_eq_false_iff.1 horphan with hnone | hindexed
            · have hcandidate := recoverable_candidate hrecoverable
              rw [hnone] at hcandidate
              cases hcandidate
            · exact hindexed
      | true =>
          rw [hidle.same] at horphan
          obtain ⟨hcandidate, hnot⟩ := orphaned_iff.1 horphan
          have hfirst : orphaned options rows path = true := by
            refine orphaned_iff.2 ⟨hcandidate, ?_⟩
            by_contra hindexed
            rw [indexed_mono hreached.kept (by simpa using hindexed)] at hnot
            cases hnot
          -- an earlier file of the path would have its row by now
          have hnone : ∀ other, .file path other ∈ before →
              recoverable options path other = false := by
            intro other hother
            by_contra hrecoverable
            rw [hidle.done path other hother (by simpa using hrecoverable)] at hnot
            cases hnot
          have hsize := hfits before path file [] rfl hfirst hnone
          rw [← hidle.same] at horphan
          obtain ⟨next, hok, hresult⟩ := visitFile_of_fits hdry horphan
            (by rw [hidle.spent]; omega)
            (hidle.same ▸ hreached.free hids hmem (hidle.same ▸ horphan))
          rcases hresult with ⟨hrefused, hpassed⟩ | ⟨hrecoverable, layout, checksum, hlayout,
            hchecksum, hpassed⟩
          · refine ⟨next, hok, ?_, ?_, ?_, hdone fun _ _ hsame hrecoverable => ?_⟩
            · rw [hpassed.rows, List.append_nil, hidle.same]
            · rw [hpassed.processed, hidle.processed, hcounted]
              rfl
            · rw [hpassed.bytes, hidle.spent, hspent, hidle.same, hreached.spent_eq]
            · cases hsame
              rw [hrefused] at hrecoverable
              cases hrecoverable
          · -- the pass would add the path
            have hnew : indexed options next.rows path = true := by
              rw [hpassed.rows]
              exact (indexed_iff hlayout).2 ⟨_, List.mem_append_right _ (List.mem_singleton.2 rfl),
                rfl, rfl⟩
            rw [hstall next path hok hnew] at hnot
            cases hnot

theorem Fits.of_append (h : Fits options rows (before ++ after)) : Fits options rows before :=
  fun front path file back hsplit horphan hnone =>
    h front path file (back ++ after) (by rw [hsplit]; simp) horphan hnone

/-- A pass that adds no path makes the visits on the way to a file within reach. -/
theorem Idle.walk (hids : DistinctIds pathHash options rows visits)
    (hdry : options.dryRun = false) (hreached : Reached pathHash options rows visits current)
    (hreach : WithinReach options rows before path file)
    (hsplit : visits = before ++ .file path file :: after)
    (hstall : ∀ path, indexed options (passRows pathHash options visits current) path = true →
      indexed options current path = true)
    (front back : List Visit) (hfront : before ++ [.file path file] = front ++ back) :
    ∃ sweep, front.foldlM (Sweep.visit pathHash options) ⟨{}, current⟩ = .ok sweep ∧
      Idle options rows current front sweep := by
  induction front using List.reverseRecOn generalizing back with
  | nil =>
      exact ⟨_, rfl, rfl, rfl, rfl, fun _ _ hmem => absurd hmem List.not_mem_nil⟩
  | append_singleton front visit ih =>
      have hline : before ++ [.file path file] = front ++ visit :: back := by
        rw [hfront, List.append_assoc, List.singleton_append]
      obtain ⟨sweep, hwalk, hidle⟩ := ih (visit :: back) hline
      have hall : visits = front ++ visit :: (back ++ after) := by
        have hjoined := congrArg (· ++ after) hfront
        simpa [hsplit] using hjoined
      obtain ⟨rest, rfl⟩ : ∃ rest, front ++ rest = before := by
        rcases List.prefix_concat_iff.1 (⟨visit :: back, hline.symm⟩ :
            front <+: before ++ [.file path file]) with hsame | hshort
        · have hlength := congrArg List.length hline
          rw [← hsame, List.length_append, List.length_cons] at hlength
          omega
        · exact hshort
      have hcounted : countedOf front < options.maxFiles := by
        have hfiles := hreach.files
        rw [countedOf_append] at hfiles
        omega
      have hspent : spentOf options rows front < options.maxBytes := by
        have hbytes := hreach.bytes
        rw [spentOf_append] at hbytes
        omega
      have hfits : Fits options rows (front ++ [visit]) := by
        have hfits := hreach.fits
        rw [hfront] at hfits
        exact hfits.of_append
      obtain ⟨next, hvisit, hnext⟩ := hidle.step hids hdry hreached hall hcounted hspent hfits
        (fun next path hvisit hindexed => by
          refine hstall path (indexed_mono ?_ hindexed)
          rw [passRows, hall, List.foldlM_append, hwalk]
          change _ ⊆ Sweep.rowsOf
            ((visit :: (back ++ after)).foldlM (Sweep.visit pathHash options) sweep)
          rw [List.foldlM_cons, hvisit]
          exact subset_rowsOf_foldlM)
      refine ⟨next, ?_, hnext⟩
      rw [List.foldlM_append, hwalk]
      change [visit].foldlM (Sweep.visit pathHash options) sweep = .ok next
      rw [List.foldlM_cons, hvisit]
      rfl

/-- As long as a path within reach has no row, a pass adds a path. -/
theorem Reached.progress (h : Reached pathHash options rows visits current)
    (hids : DistinctIds pathHash options rows visits) (hdry : options.dryRun = false)
    (hrecovers : Recovers options rows visits path)
    (hnot : indexed options current path = false) :
    ∃ path', indexed options (passRows pathHash options visits current) path' = true ∧
      indexed options current path' = false := by
  by_contra hnew
  push Not at hnew
  obtain ⟨before, file, after, hsplit, hrecoverable, hreach⟩ := hrecovers
  obtain ⟨_, -, hidle⟩ := Idle.walk hids hdry h hreach hsplit
    (fun path hindexed => by simpa using hnew path hindexed) (before ++ [.file path file]) []
    (by simp)
  rw [hidle.done path file (by simp) hrecoverable] at hnot
  cases hnot

end Pass

/-! ## All passes -/

def Visit.path : Visit → Option Text
  | .file path _ => some path
  | _ => none

/-- The paths of files that have no row yet. -/
def openPaths (options : SweepOptions) (visits : List Visit) (current : List EvidenceSpoolRef) :
    Finset Text :=
  (visits.filterMap Visit.path).toFinset.filter fun path =>
    indexed options current path = false

section Passes

variable {pathHash : Text → Checksum} {options : SweepOptions}
  {rows current : List EvidenceSpoolRef} {visits : List Visit} {path : Text}

theorem Recovers.mem_paths (h : Recovers options rows visits path) :
    path ∈ (visits.filterMap Visit.path).toFinset := by
  obtain ⟨file, hmem, -⟩ := h.exists_recoverable
  exact List.mem_toFinset.2 (List.mem_filterMap.2 ⟨.file path file, hmem, rfl⟩)

theorem Reached.openPaths_ssubset (h : Reached pathHash options rows visits current)
    (hids : DistinctIds pathHash options rows visits) (hdry : options.dryRun = false)
    (hrecovers : Recovers options rows visits path)
    (hnot : indexed options current path = false) :
    openPaths options visits (passRows pathHash options visits current) ⊂
      openPaths options visits current := by
  obtain ⟨new, hnew, hopen⟩ := h.progress hids hdry hrecovers hnot
  refine Finset.ssubset_iff_subset_ne.2 ⟨fun other hother => ?_, fun hsame => ?_⟩
  · obtain ⟨hmem, hother⟩ := Finset.mem_filter.1 hother
    refine Finset.mem_filter.2 ⟨hmem, ?_⟩
    by_contra hindexed
    rw [indexed_mono subset_passRows (by simpa using hindexed)] at hother
    cases hother
  · have hunindexed : indexed options rows new = false := by
      by_contra hindexed
      rw [indexed_mono h.kept (by simpa using hindexed)] at hopen
      cases hopen
    have hmem := ((h.pass hids hdry).recovers new hnew hunindexed).mem_paths
    have hbefore : new ∈ openPaths options visits current :=
      Finset.mem_filter.2 ⟨hmem, hopen⟩
    rw [← hsame] at hbefore
    rw [(Finset.mem_filter.1 hbefore).2] at hnew
    cases hnew

theorem Reached.iterate (h : Reached pathHash options rows visits current)
    (hids : DistinctIds pathHash options rows visits) (hdry : options.dryRun = false) (n : ℕ) :
    Reached pathHash options rows visits ((passRows pathHash options visits)^[n] current) := by
  induction n generalizing current with
  | zero => exact h
  | succ n ih => exact ih (h.pass hids hdry)

theorem subset_iterate (n : ℕ) : current ⊆ (passRows pathHash options visits)^[n] current := by
  induction n generalizing current with
  | zero => exact List.Subset.refl _
  | succ n ih => exact List.Subset.trans subset_passRows ih

/-- After some passes every path within reach has its row. -/
theorem Reached.exists_iterate (h : Reached pathHash options rows visits current)
    (hids : DistinctIds pathHash options rows visits) (hdry : options.dryRun = false) :
    ∃ n, ∀ path, Recovers options rows visits path →
      indexed options ((passRows pathHash options visits)^[n] current) path = true := by
  induction hopen : openPaths options visits current using Finset.strongInduction
    generalizing current with
  | H opened ih =>
      by_cases hall : ∀ path, Recovers options rows visits path →
          indexed options current path = true
      · exact ⟨0, hall⟩
      · push Not at hall
        obtain ⟨path, hrecovers, hnot⟩ := hall
        have hless := h.openPaths_ssubset hids hdry hrecovers (by simpa using hnot)
        obtain ⟨n, hn⟩ := ih _ (hopen ▸ hless) (h.pass hids hdry) rfl
        exact ⟨n + 1, hn⟩

end Passes

/-- Repeating the sweep reaches a pass after which every eligible orphan has its row. -/
def RecoversAll (pathHash : Text → Checksum) (options : SweepOptions) (tree : EvidenceTree)
    (rows : List EvidenceSpoolRef) : Prop :=
  ∃ n, ∀ m ≥ n, ∀ path file, .file path file ∈ tree.visits options.runId →
    Eligible options path file →
      indexed options ((rowsAfter pathHash options tree)^[m] rows) path = true

/-- Repeating the sweep ends with a row for every eligible orphan exactly if for each of
them a file of its path can be recovered and is within reach. -/
theorem recoversAll_iff (pathHash : Text → Checksum) (options : SweepOptions)
    (tree : EvidenceTree) (rows : List EvidenceSpoolRef) (hdry : options.dryRun = false)
    (hids : DistinctIds pathHash options rows (tree.visits options.runId)) :
    RecoversAll pathHash options tree rows ↔
      ∀ path file, .file path file ∈ tree.visits options.runId → Eligible options path file →
        indexed options rows path = false →
          Recovers options rows (tree.visits options.runId) path := by
  have hpass : rowsAfter pathHash options tree =
      passRows pathHash options (tree.visits options.runId) :=
    funext fun current => rowsAfter_eq pathHash options tree current
  have hstart : Reached pathHash options rows (tree.visits options.runId) rows := .start
  rw [RecoversAll, hpass]
  constructor
  · rintro ⟨n, hn⟩ path file hmem heligible hnot
    exact (hstart.iterate hids hdry n).recovers path (hn n le_rfl path file hmem heligible) hnot
  · intro hall
    obtain ⟨n, hn⟩ := hstart.exists_iterate hids hdry
    refine ⟨n, fun m hm path file hmem heligible => ?_⟩
    have hlater : indexed options ((passRows pathHash options (tree.visits options.runId))^[n]
        rows) path = true := by
      cases hindexed : indexed options rows path with
      | true => exact indexed_mono (subset_iterate n) hindexed
      | false => exact hn path (hall path file hmem heligible hindexed)
    obtain ⟨k, rfl⟩ := Nat.exists_eq_add_of_le hm
    rw [Nat.add_comm, Function.iterate_add_apply]
    exact indexed_mono (subset_iterate k) hlater

/-! ## Examples of trees -/

/-- Directories inside each other, with entries in the last one. -/
def within (dirs : List Text) (entries : Listing) : Listing :=
  dirs.foldr (fun name inner => .dir name inner .nil) entries

/-- A tree with one agent that has written to its standard output. -/
def stdoutTree (entries : Listing) : EvidenceTree where
  runs := .directory (some (within ["r1".toList, "stages".toList, "s1".toList,
    "agents".toList, "a1".toList, "stdout".toList] entries))
  run := fun _ => .missing

def stdoutPath (name : Text) : Text :=
  "evidence/runs/r1/stages/s1/agents/a1/stdout/".toList ++ name

theorem dirVisits_within (path : Text) (dirs : List Text) (entries : Listing) :
    dirVisits (path, some (within dirs entries)) =
      List.replicate dirs.length .dir ++ dirVisits (dirs.foldl childPath path, some entries) := by
  induction dirs generalizing path with
  | nil => rfl
  | cons name dirs ih =>
      rw [List.foldl_cons, List.length_cons, List.replicate_succ, List.cons_append, ← ih]
      rfl

/-- Six directories are visited before the entries. -/
theorem visits_stdoutTree (entries : Listing) :
    (stdoutTree entries).visits none = List.replicate 6 .dir ++
      dirVisits (["r1".toList, "stages".toList, "s1".toList, "agents".toList, "a1".toList,
        "stdout".toList].foldl childPath "evidence/runs".toList, some entries) :=
  dirVisits_within _ _ entries

theorem slashed_stdoutPath {name : Text} (hname : slashed name = name) :
    slashed (childPath (["r1".toList, "stages".toList, "s1".toList, "agents".toList,
      "a1".toList, "stdout".toList].foldl childPath "evidence/runs".toList) name) =
      stdoutPath name := by
  have hdir : slashed (["r1".toList, "stages".toList, "s1".toList, "agents".toList,
      "a1".toList, "stdout".toList].foldl childPath "evidence/runs".toList ++ "/".toList) =
      "evidence/runs/r1/stages/s1/agents/a1/stdout/".toList := by
    decide +kernel
  exact List.map_append.trans (congrArg₂ (· ++ ·) hdir hname)

/-- The hash of the path of `a.log`, and of the path of `b.log`. -/
def sampleHash (path : Text) : Checksum :=
  if path = stdoutPath "a.log".toList then
    ⟨"5bf070d244792116655ebb17d76b88354eee0a33f043050532d107f42eb0d048".toList,
      by decide, by decide⟩
  else
    ⟨"78b80944bdb16655c60a848e9681254dede58bc01ba38e92cae8a36afd62dacd".toList,
      by decide, by decide⟩

def oneByteFile : SpoolFile where
  size := 1
  checksum := some ⟨"ca978112ca1bbdcafac231b39a23dc4da786eff8147c4e72b9807785afee48bb".toList,
    by decide, by decide⟩

def largeFile : SpoolFile where
  size := 150
  checksum := some ⟨"1d83518b897b14e2943990eff655838246cc0207a7c95a5f3dfccc2e395f8bbf".toList,
    by decide, by decide⟩

def sampleOptions (maxFiles maxBytes : ℕ) : SweepOptions where
  runId := none
  maxFiles := maxFiles
  maxBytes := maxBytes
  dryRun := false

/-- One file. -/
def oneOrphan : EvidenceTree := stdoutTree (.file "a.log".toList oneByteFile .nil)

/-- Two files, the second of one byte. -/
def twoOrphans (first : SpoolFile) : EvidenceTree :=
  stdoutTree (.file "a.log".toList first (.file "b.log".toList oneByteFile .nil))

/-- One orphan is recovered with the budgets of the startup sweep. -/
theorem oneOrphan_is_recovered :
    RecoversAll sampleHash (sampleOptions 1000 (64 * 1024 * 1024)) oneOrphan [] := by
  have hvisits : oneOrphan.visits none = [.dir, .dir, .dir, .dir, .dir, .dir] ++
      [.file (stdoutPath "a.log".toList) oneByteFile] := by
    rw [← slashed_stdoutPath (by decide)]
    exact visits_stdoutTree _
  have honly : ∀ path file, .file path file ∈ oneOrphan.visits none →
      path = stdoutPath "a.log".toList ∧ file = oneByteFile := by
    intro path file hmem
    rw [hvisits] at hmem
    simpa using hmem
  refine (recoversAll_iff sampleHash (sampleOptions 1000 (64 * 1024 * 1024)) oneOrphan [] rfl
    ⟨fun _ _ _ _ _ _ row hrow => absurd hrow List.not_mem_nil, ?_⟩).2 ?_
  · intro path file _ path' file' _ hmem hmem' _ _ _
    exact (honly path file hmem).1.trans (honly path' file' hmem').1.symm
  · intro path file hmem _ _
    obtain ⟨rfl, rfl⟩ := honly path file hmem
    refine ⟨[.dir, .dir, .dir, .dir, .dir, .dir], oneByteFile, [], hvisits, by decide +kernel,
      by decide, by decide, ?_⟩
    have hdirs : Fits (sampleOptions 1000 (64 * 1024 * 1024)) []
        [.dir, .dir, .dir, .dir, .dir, .dir] := by
      intro before path file after hsplit
      have hmem : Visit.file path file ∈ before ++ .file path file :: after := by simp
      rw [← hsplit] at hmem
      simp at hmem
    refine hdirs.concat fun path file hsame _ _ => ?_
    obtain ⟨-, rfl⟩ := Visit.file.inj hsame
    decide

/-- With a budget of one file the second file is never reached, and a file larger than the
budget of bytes keeps the next one from being reached. -/
theorem sweep_stalls :
    ¬RecoversAll sampleHash (sampleOptions 1 100) (twoOrphans oneByteFile) [] ∧
      ¬RecoversAll sampleHash (sampleOptions 1000 100) (twoOrphans largeFile) [] := by
  have hmem : ∀ first, .file (stdoutPath "b.log".toList) oneByteFile ∈
      (twoOrphans first).visits none := by
    intro first
    rw [twoOrphans, visits_stdoutTree, ← slashed_stdoutPath (by decide)]
    simp [dirVisits, Listing.visits]
  have heligible : Eligible (sampleOptions 1 100) (stdoutPath "b.log".toList) oneByteFile :=
    ⟨by decide +kernel, by decide, by decide⟩
  constructor
  · rintro ⟨n, hn⟩
    have hindexed := hn (n + 1) (Nat.le_succ n) _ _ (hmem oneByteFile) heligible
    have hfixed : rowsAfter sampleHash (sampleOptions 1 100) (twoOrphans oneByteFile)
        (rowsAfter sampleHash (sampleOptions 1 100) (twoOrphans oneByteFile) []) =
          rowsAfter sampleHash (sampleOptions 1 100) (twoOrphans oneByteFile) [] := by
      decide +kernel
    rw [Function.iterate_succ_apply, Function.iterate_fixed hfixed] at hindexed
    revert hindexed
    decide +kernel
  · rintro ⟨n, hn⟩
    have hindexed := hn n le_rfl _ _ (hmem largeFile) ⟨heligible.1, heligible.2, heligible.3⟩
    have hfixed : rowsAfter sampleHash (sampleOptions 1000 100) (twoOrphans largeFile) [] = [] := by
      decide +kernel
    rw [Function.iterate_fixed hfixed] at hindexed
    revert hindexed
    decide +kernel

end ChainworksForge.Evidence
