import ChainworksForge.Support.Text
import Mathlib.Algebra.Order.BigOperators.Group.List
import Mathlib.Algebra.Order.Ring.Nat

/-!
# Evidence files and their metadata rows

Evidence is written as a file below `evidence/runs`, and a row of metadata is added
afterwards.  A file without a row is an orphan.  An orphan whose path has the canonical
layout gets its row from a sweep, which hashes the file and inserts the row.

The hash of a path is a parameter.  The hash of a file is part of what is read of it.
-/

namespace ChainworksForge.Evidence

open ChainworksForge.Support

def maxRelativePathLen : ℕ := 2048
def maxIdLen : ℕ := 256
def maxIdentityFieldLen : ℕ := 512

/-- The largest file that a sweep reads: 512 MiB. -/
def verifySizeCapBytes : ℕ := 512 * 1024 * 1024

inductive EvidenceKind
  | transcript
  | toolTrace
  | stdout
  | stderr
  | receipt
  | runtimeEvent
  | modelDelta
  | deliveryReadback
deriving DecidableEq

/-- The directories of each kind. -/
def kindDirs : List (Text × EvidenceKind) :=
  [("transcripts".toList, .transcript), ("transcript".toList, .transcript),
    ("tool_traces".toList, .toolTrace), ("tool_trace".toList, .toolTrace),
    ("stdout".toList, .stdout), ("stderr".toList, .stderr),
    ("receipts".toList, .receipt), ("receipt".toList, .receipt),
    ("runtime_events".toList, .runtimeEvent), ("runtime_event".toList, .runtimeEvent),
    ("model_deltas".toList, .modelDelta), ("model_delta".toList, .modelDelta),
    ("delivery_readbacks".toList, .deliveryReadback),
    ("delivery_readback".toList, .deliveryReadback)]

def evidenceKindFromDir (dir : Text) : Option EvidenceKind :=
  kindDirs.lookup dir

structure EvidenceLayout where
  runId : Text
  stageId : Text
  agentId : Text
  kind : EvidenceKind
deriving DecidableEq

/-- The parts of `evidence/runs/{run}/stages/{stage}/agents/{agent}/{kind}/...`. -/
def parseEvidenceLayout (relativePath : Text) : Option EvidenceLayout :=
  match Text.splitOn '/' relativePath with
  | evidence :: runs :: runId :: stages :: stageId :: agents :: agentId :: dir :: _ :: _ =>
      if evidence = "evidence".toList ∧ runs = "runs".toList ∧ stages = "stages".toList ∧
          agents = "agents".toList then
        (evidenceKindFromDir dir).map fun kind => ⟨runId, stageId, agentId, kind⟩
      else none
  | _ => none

/-- A relative path with forward slashes and without empty, `.` or `..` segments. -/
def validateRelativePath (path : Text) : Bool :=
  !path.isEmpty && Text.byteLength path ≤ maxRelativePathLen && decide ('\\' ∉ path) &&
    (path.all fun c => 0x20 ≤ c.toNat) && !Text.startsWith path "/".toList &&
    (Text.splitOn '/' path).all fun segment =>
      !segment.isEmpty && segment != "..".toList && segment != ".".toList

/-! ## Rows of metadata -/

/-- A SHA-256 hash: 64 lowercase hexadecimal digits. -/
structure Checksum where
  text : Text
  length : text.length = 64
  digits : text.all (fun c => c.isDigit || ('a' ≤ c && c ≤ 'f')) = true
deriving DecidableEq

/-- What a sweep reads of a file; the hash is absent if the file cannot be read. -/
structure SpoolFile where
  size : ℕ
  checksum : Option Checksum

/-- What a sweep reads and writes of a row. -/
structure EvidenceSpoolRef where
  id : Text
  runId : Text
  stageId : Option Text
  agentId : Option Text
  kind : EvidenceKind
  relativePath : Text
  sizeBytes : ℕ
  checksum : Checksum
deriving DecidableEq

def validateNoControlChars (value : Text) : Bool :=
  value.all fun c => 0x20 ≤ c.toNat && c.toNat != 0x7f

/-- The path is below the directory of the run. -/
def validatePathOwnership (relativePath runId : Text) : Bool :=
  Text.startsWith relativePath ("evidence/runs/".toList ++ runId ++ "/".toList)

/-- The checks on the fields of a row that a sweep fills in. -/
def validateSpoolRefFields (ref : EvidenceSpoolRef) : Bool :=
  Text.byteLength ref.id ≤ maxIdLen &&
    (ref.runId :: ref.stageId.toList ++ ref.agentId.toList).all (fun field =>
      Text.byteLength field ≤ maxIdentityFieldLen) &&
    validatePathOwnership ref.relativePath ref.runId &&
    (ref.id :: ref.runId :: ref.stageId.toList ++ ref.agentId.toList).all
      validateNoControlChars

def findByRunAndPath (rows : List EvidenceSpoolRef) (runId relativePath : Text) :
    Option EvidenceSpoolRef :=
  rows.find? fun row => row.runId = runId ∧ row.relativePath = relativePath

/-- Insert a row; the absence of a result is an error.  Run and path are unique together,
and the identifier is unique. -/
def insertIdempotent (rows : List EvidenceSpoolRef) (ref : EvidenceSpoolRef) :
    Option (List EvidenceSpoolRef) :=
  if validateRelativePath ref.relativePath && validateSpoolRefFields ref then
    match findByRunAndPath rows ref.runId ref.relativePath with
    | some existing =>
        if existing.checksum = ref.checksum ∧ existing.sizeBytes = ref.sizeBytes then some rows
        else none
    | none => if rows.any fun row => row.id = ref.id then none else some (rows ++ [ref])
  else none

section Recovery

variable (pathHash : Text → Checksum)

def recoveredOrphanId (relativePath : Text) (checksum : Checksum) : Text :=
  "evsp_recovered_".toList ++ checksum.text.take 32 ++ "_".toList ++
    (pathHash relativePath).text.take 16

/-- The row that a sweep adds for a file. -/
def recoveredRef (layout : EvidenceLayout) (relativePath : Text) (size : ℕ)
    (checksum : Checksum) : EvidenceSpoolRef where
  id := recoveredOrphanId pathHash relativePath checksum
  runId := layout.runId
  stageId := some layout.stageId
  agentId := some layout.agentId
  kind := layout.kind
  relativePath := relativePath
  sizeBytes := size
  checksum := checksum

/-- The parts of a layout can be stored in a row. -/
def EvidenceLayout.storable (layout : EvidenceLayout) (relativePath : Text) : Bool :=
  ([layout.runId, layout.stageId, layout.agentId].all fun field =>
      Text.byteLength field ≤ maxIdentityFieldLen) &&
    validatePathOwnership relativePath layout.runId &&
    [layout.runId, layout.stageId, layout.agentId].all validateNoControlChars

/-- The layout of a path that a sweep considers: no temporary file, a valid path of a known
kind, and of the run that the sweep is for. -/
def candidateLayout (runIdFilter : Option Text) (relativePath : Text) : Option EvidenceLayout :=
  if Text.contains relativePath ".tmp.".toList then none
  else if !validateRelativePath relativePath then none
  else
    match parseEvidenceLayout relativePath with
    | none => none
    | some layout => if runIdFilter.all fun runId => layout.runId = runId then some layout else none

inductive OrphanCandidateOutcome
  | alreadyIndexed
  | recovered
  | skipped
  | budgetExhausted
deriving DecidableEq

/-- What becomes of a file: the outcome, absent on an error, the rows, and the bytes read so
far. -/
def recoverOrphanCandidate (rows : List EvidenceSpoolRef) (relativePath : Text)
    (file : SpoolFile) (runIdFilter : Option Text) (dryRun : Bool) (bytesRead maxBytes : ℕ) :
    Option OrphanCandidateOutcome × List EvidenceSpoolRef × ℕ :=
  match candidateLayout runIdFilter relativePath with
  | none => (some .skipped, rows, bytesRead)
  | some layout =>
      if (findByRunAndPath rows layout.runId relativePath).isSome then
        (some .alreadyIndexed, rows, bytesRead)
      else if maxBytes - bytesRead < file.size then (some .budgetExhausted, rows, bytesRead)
      else if verifySizeCapBytes < file.size then (some .skipped, rows, bytesRead)
      else
        match file.checksum with
        | none => (none, rows, bytesRead)
        | some checksum =>
            if dryRun then (some .recovered, rows, bytesRead + file.size)
            else
              match insertIdempotent rows
                  (recoveredRef pathHash layout relativePath file.size checksum) with
              | none => (none, rows, bytesRead + file.size)
              | some rows => (some .recovered, rows, bytesRead + file.size)

/-! ## What a sweep inserts -/

variable {pathHash} {rows rows' : List EvidenceSpoolRef} {layout : EvidenceLayout}
  {relativePath : Text} {size : ℕ} {checksum : Checksum}

theorem Checksum.toNat_mem (checksum : Checksum) {c : Char} (hc : c ∈ checksum.text) :
    0x20 ≤ c.toNat ∧ c.toNat < 0x7f := by
  have hdigit := List.all_eq_true.1 checksum.digits c hc
  rw [Bool.or_eq_true, Bool.and_eq_true, decide_eq_true_eq, decide_eq_true_eq] at hdigit
  rcases hdigit with hdigit | ⟨hlow, hhigh⟩
  · have hbounds := Char.isDigit_iff_toNat.1 hdigit
    simp at hbounds
    omega
  · rw [Char.le_def, UInt32.le_iff_toNat_le] at hlow hhigh
    have ha : ('a' : Char).val.toNat = 97 := rfl
    have hf : ('f' : Char).val.toNat = 102 := rfl
    have hc : c.val.toNat = c.toNat := rfl
    omega

/-- The characters of an identifier are printable. -/
theorem toNat_mem_recoveredOrphanId {c : Char}
    (hc : c ∈ recoveredOrphanId pathHash relativePath checksum) :
    0x20 ≤ c.toNat ∧ c.toNat < 0x7f := by
  unfold recoveredOrphanId at hc
  rw [List.mem_append, List.mem_append, List.mem_append] at hc
  have hfront : ∀ c ∈ "evsp_recovered_".toList, 0x20 ≤ c.toNat ∧ c.toNat < 0x7f := by simp
  have hmiddle : ∀ c ∈ "_".toList, 0x20 ≤ c.toNat ∧ c.toNat < 0x7f := by simp
  rcases hc with ((hc | hc) | hc) | hc
  · exact hfront c hc
  · exact checksum.toNat_mem (List.mem_of_mem_take hc)
  · exact hmiddle c hc
  · exact (pathHash relativePath).toNat_mem (List.mem_of_mem_take hc)

theorem validateNoControlChars_recoveredOrphanId :
    validateNoControlChars (recoveredOrphanId pathHash relativePath checksum) = true := by
  refine List.all_eq_true.2 fun c hc => ?_
  obtain ⟨hlow, hhigh⟩ := toNat_mem_recoveredOrphanId hc
  simp only [Bool.and_eq_true, decide_eq_true_eq, bne_iff_ne]
  exact ⟨hlow, by omega⟩

theorem byteLength_recoveredOrphanId :
    Text.byteLength (recoveredOrphanId pathHash relativePath checksum) ≤ maxIdLen := by
  have hone : ∀ size ∈ (recoveredOrphanId pathHash relativePath checksum).map Char.utf8Size,
      size ≤ 1 := by
    intro size hsize
    obtain ⟨c, hc, rfl⟩ := List.mem_map.1 hsize
    have hhigh := (toNat_mem_recoveredOrphanId hc).2
    exact le_of_eq (Char.utf8Size_eq_one_iff.2 (by
      change c.toNat ≤ 127
      omega))
  have hsum := List.sum_le_card_nsmul
    ((recoveredOrphanId pathHash relativePath checksum).map Char.utf8Size) 1 hone
  have hlength : (recoveredOrphanId pathHash relativePath checksum).length ≤ 64 := by
    unfold recoveredOrphanId
    rw [List.length_append, List.length_append, List.length_append, List.length_take,
      List.length_take]
    have hfront : "evsp_recovered_".toList.length = 15 := by simp
    have hmiddle : "_".toList.length = 1 := by simp
    omega
  rw [List.length_map, nsmul_eq_mul, mul_one] at hsum
  exact hsum.trans (hlength.trans (by decide))

/-- Whether the row of a file is accepted depends on its path only. -/
theorem validateSpoolRefFields_recoveredRef :
    validateSpoolRefFields (recoveredRef pathHash layout relativePath size checksum) =
      layout.storable relativePath := by
  have hid : Text.byteLength (recoveredOrphanId pathHash relativePath checksum) ≤ maxIdLen :=
    byteLength_recoveredOrphanId
  have hchars : validateNoControlChars (recoveredOrphanId pathHash relativePath checksum) =
      true := validateNoControlChars_recoveredOrphanId
  simp [validateSpoolRefFields, recoveredRef, EvidenceLayout.storable, hid, hchars]

/-- The insertion of a row whose path has none. -/
theorem insertIdempotent_recoveredRef (hvalid : validateRelativePath relativePath = true)
    (hnone : findByRunAndPath rows layout.runId relativePath = none)
    (hfree : ∀ row ∈ rows, row.id ≠ recoveredOrphanId pathHash relativePath checksum) :
    insertIdempotent rows (recoveredRef pathHash layout relativePath size checksum) =
      if layout.storable relativePath then
        some (rows ++ [recoveredRef pathHash layout relativePath size checksum])
      else none := by
  have hrows : (rows.any fun row =>
      row.id = (recoveredRef pathHash layout relativePath size checksum).id) = false := by
    refine List.any_eq_false.2 fun row hrow => ?_
    rw [decide_eq_true_eq]
    exact hfree row hrow
  have hpath : (recoveredRef pathHash layout relativePath size checksum).relativePath =
      relativePath := rfl
  have hrun : (recoveredRef pathHash layout relativePath size checksum).runId =
      layout.runId := rfl
  rw [insertIdempotent, validateSpoolRefFields_recoveredRef, hpath, hrun, hvalid, hnone, hrows]
  cases layout.storable relativePath <;> rfl

end Recovery

end ChainworksForge.Evidence
