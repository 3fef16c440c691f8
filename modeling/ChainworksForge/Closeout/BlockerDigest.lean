import ChainworksForge.Closeout.Synthesis
import Mathlib.Data.List.Perm.Basic

/-!
# The digest of the blockers

A round of refinement leaves a digest of its blocking tasks, and the next round stops
if its own digest is the same.  The digest is that of one byte string: the stated count,
the status of the gate up to a byte `0x01`, and each blocking summary up to a byte
`0x02`.

The string is that of a sequence of summaries, not of a set, and a summary may hold the
character `U+0002` itself.  It tells apart what stands between these characters, the
`pieces` of the summaries, and no more.  So the same summaries in another order are not
recognised, and other summaries with the same pieces are.
-/

namespace ChainworksForge.Closeout

open ChainworksForge.Support

variable (assessment assessment' : ImplementationSelfAssessmentSummary)
  (gate gate' : ProposalGateResult)

/-- The summaries of the blocking tasks, in the order of the assessment. -/
def blockingSummaries : List Text :=
  (assessment.remainingCodeTasks.filter RemainingCodeTaskSummary.blocking).map
    RemainingCodeTaskSummary.summary

/-- Summaries one after the other, each up to a character `U+0002`. -/
def terminated (summaries : List Text) : Text := summaries.flatMap (· ++ ['\x02'])

/-- The byte string that `computeBlockerDigest` hashes. -/
def blockerBytes : List UInt8 :=
  leBytes (assessment.blockingRemainingCodeTaskCount.getD 0).toUInt64 ++
    utf8 gate.status.asStr ++ [1] ++ utf8 (terminated (blockingSummaries assessment))

/-- The stated count is the number of the blocking tasks. -/
def StatesBlockingCount : Prop :=
  assessment.blockingRemainingCodeTaskCount.getD 0 = (blockingSummaries assessment).length

/-! ## The byte string -/

theorem feed_append (h : UInt64) (bytes bytes' : List UInt8) :
    feed h (bytes ++ bytes') = feed (feed h bytes) bytes' :=
  List.foldl_append

theorem utf8_append (text text' : Text) : utf8 (text ++ text') = utf8 text ++ utf8 text' :=
  List.flatMap_append

theorem terminated_cons (summary : Text) (summaries : List Text) :
    terminated (summary :: summaries) = summary ++ ['\x02'] ++ terminated summaries := rfl

theorem feed_terminated (h : UInt64) (tasks : List RemainingCodeTaskSummary) :
    tasks.foldl (fun h task => feed (feed h (utf8 task.summary)) [2]) h =
      feed h (utf8 (terminated (tasks.map RemainingCodeTaskSummary.summary))) := by
  induction tasks generalizing h with
  | nil => rfl
  | cons task tasks ih =>
      have hmark : utf8 ['\x02'] = [2] := by decide
      rw [List.foldl_cons, ih, List.map_cons, terminated_cons, utf8_append, utf8_append,
        hmark, feed_append, feed_append]

/-- The digest is the hash of the byte string. -/
theorem computeBlockerDigest_eq :
    computeBlockerDigest assessment gate =
      hex16 (feed fnvOffset (blockerBytes assessment gate)) := by
  rw [computeBlockerDigest, feed_terminated, blockerBytes, feed_append, feed_append,
    feed_append, blockingSummaries]

theorem utf8_injective : Function.Injective utf8 := by
  intro text text' h
  have hencoded : text.utf8Encode = text'.utf8Encode := congrArg List.toByteArray h
  rw [← String.toByteArray_ofList, ← String.toByteArray_ofList, String.toByteArray_inj]
    at hencoded
  simpa using congrArg String.toList hencoded

theorem leBytes_injective : Function.Injective leBytes := by
  intro n m h
  simp only [leBytes, List.range_succ, List.range_zero, List.nil_append, List.map_cons,
    List.map_nil, List.cons_append, List.cons.injEq, and_true] at h
  simp [← UInt8.toNat_inj, Nat.shiftRight_eq_div_pow] at h
  rw [← UInt64.toNat_inj]
  have hn := n.toNat_lt
  have hm := m.toNat_lt
  omega

/-- What stands before the first mark is read back. -/
theorem append_mark_inj {mark : Char} {left left' right right' : Text}
    (hleft : mark ∉ left) (hleft' : mark ∉ left')
    (h : left ++ [mark] ++ right = left' ++ [mark] ++ right') :
    left = left' ∧ right = right' := by
  rw [List.append_assoc, List.append_assoc, List.append_eq_append_iff] at h
  rcases h with ⟨between, rfl, hbetween⟩ | ⟨between, rfl, hbetween⟩
  · cases between with
    | nil => exact ⟨(List.append_nil _).symm, (List.cons.inj hbetween).2⟩
    | cons c between =>
        obtain ⟨rfl, -⟩ := List.cons.inj hbetween
        exact absurd (List.mem_append_right _ List.mem_cons_self) hleft'
  · cases between with
    | nil => exact ⟨List.append_nil _, (List.cons.inj hbetween).2.symm⟩
    | cons c between =>
        obtain ⟨rfl, -⟩ := List.cons.inj hbetween
        exact absurd (List.mem_append_right _ List.mem_cons_self) hleft

theorem asStr_injective : Function.Injective ProposalGateStatus.asStr := by
  intro status status' h
  cases status <;> cases status' <;> first | rfl | exact absurd h (by decide)

theorem mark_notMem_asStr (status : ProposalGateStatus) : '\x01' ∉ status.asStr := by
  cases status <;> decide

/-- Two byte strings are the same exactly when the counts, the statuses and the
terminated summaries are. -/
theorem blockerBytes_eq_iff :
    blockerBytes assessment gate = blockerBytes assessment' gate' ↔
      (assessment.blockingRemainingCodeTaskCount.getD 0).toUInt64 =
          (assessment'.blockingRemainingCodeTaskCount.getD 0).toUInt64 ∧
        gate.status = gate'.status ∧
        terminated (blockingSummaries assessment) =
          terminated (blockingSummaries assessment') := by
  have hmark : ([1] : List UInt8) = utf8 ['\x01'] := by decide
  constructor
  · intro h
    simp only [blockerBytes, hmark, List.append_assoc, ← utf8_append] at h
    obtain ⟨hcount, htext⟩ := List.append_inj h rfl
    -- no status holds the byte that ends it
    rw [utf8_injective.eq_iff, ← List.append_assoc, ← List.append_assoc] at htext
    obtain ⟨hstatus, hsummaries⟩ :=
      append_mark_inj (mark_notMem_asStr _) (mark_notMem_asStr _) htext
    exact ⟨leBytes_injective hcount, asStr_injective hstatus, hsummaries⟩
  · rintro ⟨hcount, hstatus, hsummaries⟩
    rw [blockerBytes, blockerBytes, hcount, hstatus, hsummaries]

/-! ## What the terminated text tells -/

/-- Summaries without the character `U+0002` are read back from the terminated text. -/
theorem eq_of_terminated_eq {summaries summaries' : List Text}
    (hfree : ∀ summary ∈ summaries, '\x02' ∉ summary)
    (hfree' : ∀ summary ∈ summaries', '\x02' ∉ summary)
    (h : terminated summaries = terminated summaries') : summaries = summaries' := by
  induction summaries generalizing summaries' with
  | nil =>
      cases summaries' with
      | nil => rfl
      | cons summary' rest' => simp [terminated] at h
  | cons summary rest ih =>
      cases summaries' with
      | nil => simp [terminated] at h
      | cons summary' rest' =>
          rw [List.forall_mem_cons] at hfree hfree'
          rw [terminated_cons, terminated_cons] at h
          obtain ⟨hsummary, hrest⟩ := append_mark_inj hfree.1 hfree'.1 h
          rw [hsummary, ih hfree.2 hfree'.2 hrest]

/-- The pieces of the summaries, in order: each summary is cut at its characters
`U+0002`. -/
def pieces (summaries : List Text) : List Text := summaries.flatMap (Text.splitOn '\x02')

theorem pieces_cons (summary : Text) (summaries : List Text) :
    pieces (summary :: summaries) = Text.splitOn '\x02' summary ++ pieces summaries := rfl

theorem terminated_append (summaries summaries' : List Text) :
    terminated (summaries ++ summaries') = terminated summaries ++ terminated summaries' :=
  List.flatMap_append

theorem terminated_splitOn (summary : Text) :
    terminated (Text.splitOn '\x02' summary) = summary ++ ['\x02'] := by
  induction summary with
  | nil => rfl
  | cons c rest ih =>
      obtain ⟨piece, others, hrest⟩ :=
        List.exists_cons_of_ne_nil (Text.splitOn_ne_nil '\x02' rest)
      rw [hrest] at ih
      rw [Text.splitOn_cons hrest]
      split_ifs with hmark
      · rw [terminated_cons, ih, hmark]
        rfl
      · rw [terminated_cons] at ih
        rw [terminated_cons, List.cons_append, List.cons_append, List.cons_append, ih]

/-- A summary and its pieces are written alike. -/
theorem terminated_pieces (summaries : List Text) :
    terminated (pieces summaries) = terminated summaries := by
  induction summaries with
  | nil => rfl
  | cons summary summaries ih =>
      rw [pieces_cons, terminated_append, terminated_splitOn, ih, terminated_cons]

theorem mark_notMem_pieces {summaries : List Text} :
    ∀ piece ∈ pieces summaries, '\x02' ∉ piece := by
  intro piece hpiece hmark
  obtain ⟨summary, -, hcut⟩ := List.mem_flatMap.1 hpiece
  exact Text.notMem_of_mem_splitOn hcut hmark

/-- The terminated texts are the same exactly when the pieces are. -/
theorem terminated_eq_iff {summaries summaries' : List Text} :
    terminated summaries = terminated summaries' ↔ pieces summaries = pieces summaries' := by
  rw [← terminated_pieces summaries, ← terminated_pieces summaries']
  exact ⟨eq_of_terminated_eq mark_notMem_pieces mark_notMem_pieces, congrArg terminated⟩

/-- A summary without the character `U+0002` is its only piece. -/
theorem pieces_of_free {summaries : List Text}
    (hfree : ∀ summary ∈ summaries, '\x02' ∉ summary) : pieces summaries = summaries :=
  eq_of_terminated_eq mark_notMem_pieces hfree (terminated_pieces summaries)

/-! ## Which rounds are recognised -/

/-- The same summaries in an order that their pieces show. -/
def Reordered (summaries summaries' : List Text) : Prop :=
  summaries.Perm summaries' ∧ pieces summaries ≠ pieces summaries'

/-- As many summaries, as the count of eight bytes tells, that fall into the same pieces
and are not the same: some of them hold a `U+0002`. -/
def Recut (summaries summaries' : List Text) : Prop :=
  pieces summaries = pieces summaries' ∧
    summaries.length.toUInt64 = summaries'.length.toUInt64 ∧ ¬summaries.Perm summaries'

theorem reordered_iff_of_free {summaries summaries' : List Text}
    (hfree : ∀ summary ∈ summaries, '\x02' ∉ summary)
    (hfree' : ∀ summary ∈ summaries', '\x02' ∉ summary) :
    Reordered summaries summaries' ↔
      summaries.Perm summaries' ∧ summaries ≠ summaries' := by
  rw [Reordered, pieces_of_free hfree, pieces_of_free hfree']

/-- Without the character `U+0002` there is nothing to cut elsewhere. -/
theorem not_recut_of_free {summaries summaries' : List Text}
    (hfree : ∀ summary ∈ summaries, '\x02' ∉ summary)
    (hfree' : ∀ summary ∈ summaries', '\x02' ∉ summary) : ¬Recut summaries summaries' := by
  rintro ⟨hpieces, -, hother⟩
  rw [pieces_of_free hfree, pieces_of_free hfree'] at hpieces
  exact hother (hpieces ▸ List.Perm.refl _)

/-- The byte strings are the same exactly for the same status and the same blocking
summaries in any order. -/
def RecognisesSame : Prop :=
  blockerBytes assessment gate = blockerBytes assessment' gate' ↔
    gate.status = gate'.status ∧
      (blockingSummaries assessment).Perm (blockingSummaries assessment')

instance : Decidable (RecognisesSame assessment assessment' gate gate') :=
  inferInstanceAs (Decidable (_ ↔ _))

variable {assessment assessment' gate gate'}

theorem recognisesSame_iff (hcount : StatesBlockingCount assessment)
    (hcount' : StatesBlockingCount assessment') :
    RecognisesSame assessment assessment' gate gate' ↔
      (gate.status = gate'.status →
        ¬Reordered (blockingSummaries assessment) (blockingSummaries assessment') ∧
          ¬Recut (blockingSummaries assessment) (blockingSummaries assessment')) := by
  rw [RecognisesSame, blockerBytes_eq_iff, hcount, hcount', terminated_eq_iff]
  constructor
  · intro hrecognised hstatus
    constructor
    · rintro ⟨hsame, hdifferent⟩
      exact hdifferent (hrecognised.2 ⟨hstatus, hsame⟩).2.2
    · rintro ⟨hpieces, hlength, hother⟩
      exact hother (hrecognised.1 ⟨hlength, hstatus, hpieces⟩).2
  · intro hkept
    constructor
    · rintro ⟨hlength, hstatus, hpieces⟩
      refine ⟨hstatus, Decidable.by_contra fun hother => ?_⟩
      exact (hkept hstatus).2 ⟨hpieces, hlength, hother⟩
    · rintro ⟨hstatus, hsame⟩
      refine ⟨by rw [hsame.length_eq], hstatus, Decidable.by_contra fun hdifferent => ?_⟩
      exact (hkept hstatus).1 ⟨hsame, hdifferent⟩

variable (assessment assessment' gate gate')

/-- The byte string recognises the same status and the same blocking summaries in any
order, exactly when the summaries under one status were neither reordered nor recut.
Without the character `U+0002` that is: when the same summaries stand in the same
order. -/
theorem recognises_same_blockers_iff (hcount : StatesBlockingCount assessment)
    (hcount' : StatesBlockingCount assessment') :
    (RecognisesSame assessment assessment' gate gate' ↔
      (gate.status = gate'.status →
        ¬Reordered (blockingSummaries assessment) (blockingSummaries assessment') ∧
          ¬Recut (blockingSummaries assessment) (blockingSummaries assessment'))) ∧
    ((∀ summary ∈ blockingSummaries assessment, '\x02' ∉ summary) →
      (∀ summary ∈ blockingSummaries assessment', '\x02' ∉ summary) →
      (RecognisesSame assessment assessment' gate gate' ↔
        (gate.status = gate'.status →
          (blockingSummaries assessment).Perm (blockingSummaries assessment') →
          blockingSummaries assessment = blockingSummaries assessment'))) := by
  refine ⟨recognisesSame_iff hcount hcount', fun hfree hfree' => ?_⟩
  rw [recognisesSame_iff hcount hcount', reordered_iff_of_free hfree hfree']
  refine imp_congr_right fun _ => ?_
  rw [and_iff_left (not_recut_of_free hfree hfree'), not_and, not_ne_iff]

/-- An assessment whose tasks all block. -/
def blockedAssessment (summaries : List Text) : ImplementationSelfAssessmentSummary where
  blockingRemainingCodeTaskCount := some summaries.length
  handoffTaskCount := some 0
  remainingCodeTasks := summaries.map fun summary => ⟨summary, true⟩
  handoffTasks := []
  knownRisks := []

def failedGate : ProposalGateResult := ⟨.failed, none, none, none⟩

def earlierRound : ImplementationSelfAssessmentSummary :=
  blockedAssessment ["a".toList, "b".toList]

def reorderedRound : ImplementationSelfAssessmentSummary :=
  blockedAssessment ["b".toList, "a".toList]

/-- Two rounds that name the same blockers in the same order. -/
theorem repeated_blockers_are_recognised :
    RecognisesSame earlierRound earlierRound failedGate failedGate := by
  refine (recognises_same_blockers_iff earlierRound earlierRound failedGate failedGate
    rfl rfl).1.2 fun _ => ?_
  exact ⟨fun hreordered => hreordered.2 rfl, fun hrecut => hrecut.2.2 (List.Perm.refl _)⟩

/-- The same two blockers in another order are not recognised. -/
theorem reordered_blockers_are_not_recognised :
    ¬RecognisesSame earlierRound reorderedRound failedGate failedGate := by
  decide

end ChainworksForge.Closeout
