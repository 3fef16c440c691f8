import ChainworksForge.Continuation.Admission
import ChainworksForge.Support.Runs

/-!
# The limits of continuations

The admission counts and inserts in one transaction, so its limits hold in every state.
Those on what was ever admitted hold whatever happens to the rows; those on what is not
terminal hold as long as no status write brings a terminal row back.
-/

namespace ChainworksForge.Continuation

open ChainworksForge.Support

variable {table changed : Continuations} {admission : ContinuationAdmission}

/-! ## What an admission does -/

theorem foldl_latest_ne_none (rows : List ContinuationRecord) (best : ContinuationRecord) :
    rows.foldl
      (fun latest row =>
        match latest with
        | none => some row
        | some best => if best.createdAt < row.createdAt then some row else some best)
      (some best) ≠ none := by
  induction rows generalizing best with
  | nil => exact Option.some_ne_none best
  | cons row rows ih =>
      rw [List.foldl_cons]
      dsimp only
      split
      · exact ih row
      · exact ih best

/-- No row of the condition was found when there is none. -/
theorem latestWhere_eq_none_iff {condition : ContinuationRecord → Bool} :
    latestWhere table condition = none ↔ ∀ row ∈ table.rows, condition row = false := by
  rw [latestWhere]
  constructor
  · intro hnone row hrow
    cases hfilter : table.rows.filter condition with
    | nil => exact Bool.eq_false_iff.2 (List.filter_eq_nil_iff.1 hfilter row hrow)
    | cons best rest =>
        rw [hfilter, List.foldl_cons] at hnone
        exact absurd hnone (foldl_latest_ne_none rest best)
  · intro hnone
    rw [List.filter_eq_nil_iff.2 fun row hrow => Bool.eq_false_iff.1 (hnone row hrow)]
    rfl

/-- The row of the admission went in, and what it was checked against. -/
structure Admitted (table : Continuations) (admission : ContinuationAdmission)
    (changed : Continuations) : Prop where
  rows : changed.rows = table.rows ++ [admission.record]
  fresh : ∀ row ∈ table.rows,
    row.idempotency ≠ (admission.idempotencyScope, admission.idempotencyKey)
  idle : ∀ row ∈ table.rows, row.agentExecutionId = admission.agentExecutionId →
    row.status.isTerminal = true
  leadAuto : admission.triggerKind = .leadAuto →
    leadAutoAgentCount table admission.agentExecutionId < 1 ∧
      leadAutoStageCount table admission.stageExecutionId < 2
  depth : queueDepth table < queueDepthMax

theorem insert_cases :
    (admission.insert table).1 = table ∨
      (admission.insert table).1.rows = table.rows ++ [admission.record] := by
  rw [ContinuationAdmission.insert]
  split
  · exact .inl rfl
  next inserted hinsert =>
    obtain ⟨hfree, rfl⟩ := (table.insert_eq_some_iff).1 hinsert
    split
    · exact .inr rfl
    · exact .inl rfl

theorem leadAutoRefusal_eq_none (hnone : admission.leadAutoRefusal table = none) :
    admission.triggerKind = .leadAuto →
      leadAutoAgentCount table admission.agentExecutionId < 1 ∧
        leadAutoStageCount table admission.stageExecutionId < 2 := by
  intro hkind
  rw [ContinuationAdmission.leadAutoRefusal, if_pos hkind] at hnone
  split_ifs at hnone with hagent hstage
  exact ⟨not_le.1 hagent, not_le.1 hstage⟩

/-- An admission leaves the rows, counts a conflict, or inserts its row. -/
theorem admit_cases (table : Continuations) (admission : ContinuationAdmission) :
    (admitContinuationAtomic table admission).1 = table ∨
      (∃ id, (admitContinuationAtomic table admission).1 = incrementConflictCount table id) ∨
      Admitted table admission (admitContinuationAtomic table admission).1 := by
  rw [admitContinuationAtomic]
  split
  next existing _ =>
    split
    · exact .inl rfl
    · exact .inr (.inl ⟨existing.id, rfl⟩)
  next hfresh =>
    split
    · exact .inl rfl
    next hidle =>
      split
      · exact .inl rfl
      next hlead =>
        split
        · exact .inl rfl
        next hroom =>
          refine insert_cases.imp_right fun hrows => .inr ⟨hrows, fun row hrow => ?_,
            fun row hrow hagent => ?_, leadAutoRefusal_eq_none hlead, ?_⟩
          · exact of_decide_eq_false (latestWhere_eq_none_iff.1 hfresh row hrow)
          · have hnot := of_decide_eq_false (latestWhere_eq_none_iff.1 hidle row hrow)
            exact Bool.eq_true_of_not_eq_false fun hopen => hnot ⟨hagent, hopen⟩
          · exact not_le.1 fun h => hroom (.inl h)

/-! ## Statements that keep where a row came from -/

/-- What an admission wrote into a row and nothing changes. -/
def ContinuationRecord.origin (row : ContinuationRecord) :
    TriggerKind × Text × Text × Text × Text :=
  (row.triggerKind, row.agentExecutionId, row.stageExecutionId, row.idempotencyScope,
    row.idempotencyKey)

/-- The statement maps the rows and keeps their origin. -/
def MapsRows (table changed : Continuations) (change : ContinuationRecord → ContinuationRecord) :
    Prop :=
  changed.rows = table.rows.map change ∧ ∀ row, (change row).origin = row.origin

/-- What a status write makes of a row. -/
def written (condition : ContinuationRecord → Bool) (status : ContinuationStatus)
    (failureReason : Option Text) (now : Text) (row : ContinuationRecord) :
    ContinuationRecord :=
  if condition row then { row with status, failureReason, updatedAt := now } else row

theorem writeStatus_cases (table : Continuations) (condition : ContinuationRecord → Bool)
    (status : ContinuationStatus) (failureReason : Option Text) (now : Text) :
    writeStatus table condition status failureReason now = table ∨
      MapsRows table (writeStatus table condition status failureReason now)
        (written condition status failureReason now) := by
  rw [writeStatus, commit]
  split
  · refine .inr ⟨rfl, fun row => ?_⟩
    rw [written]
    split
    · rfl
    · rfl
  · exact .inl rfl

/-- What a conflict makes of a row. -/
def conflicted (id : Text) (row : ContinuationRecord) : ContinuationRecord :=
  if row.id = id then { row with conflictCount := row.conflictCount + 1 } else row

theorem incrementConflictCount_mapsRows (table : Continuations) (id : Text) :
    MapsRows table (incrementConflictCount table id) (conflicted id) := by
  refine ⟨?_, fun row => ?_⟩
  · simp only [incrementConflictCount, Table.update, decide_eq_true_eq]
    rfl
  · rw [conflicted]
    split
    · rfl
    · rfl

/-- What a claim makes of a row. -/
def claimed (id now : Text) (row : ContinuationRecord) : ContinuationRecord :=
  if row.id = id ∧ row.status.isAdmitted then { row with status := .starting, updatedAt := now }
  else row

theorem claim_cases (table : Continuations) (id now : Text) :
    (claimForContinuationWorker table id now).1 = table ∨
      MapsRows table (claimForContinuationWorker table id now).1 (claimed id now) := by
  rw [claimForContinuationWorker]
  split
  · exact .inl rfl
  · split
    · exact .inl rfl
    · split
      · exact .inl rfl
      · split
        · refine .inr ⟨?_, fun row => ?_⟩
          · simp only [Table.update, decide_eq_true_eq]
            rfl
          · rw [claimed]
            split
            · rfl
            · rfl
        · exact .inl rfl

/-! ## What was ever admitted -/

/-- The limits on automatic continuations, and one row for an idempotency key. -/
structure Limits (table : Continuations) : Prop where
  agent : ∀ agentExecutionId, leadAutoAgentCount table agentExecutionId ≤ 1
  stage : ∀ stageExecutionId, leadAutoStageCount table stageExecutionId ≤ 2
  idempotency : (table.rows.map ContinuationRecord.idempotency).Nodup

theorem countP_of_mapsRows {change : ContinuationRecord → ContinuationRecord}
    (hmaps : MapsRows table changed change) {p : ContinuationRecord → Bool}
    (hp : ∀ row row' : ContinuationRecord, row.origin = row'.origin → p row = p row') :
    changed.rows.countP p = table.rows.countP p := by
  rw [hmaps.1, List.countP_map]
  exact List.countP_congr fun row _ => by
    rw [Function.comp_apply, hp _ _ (hmaps.2 row)]

theorem Limits.of_mapsRows (hlimits : Limits table)
    {change : ContinuationRecord → ContinuationRecord}
    (hmaps : MapsRows table changed change) : Limits changed where
  agent agentExecutionId := by
    rw [leadAutoAgentCount, countP_of_mapsRows hmaps]
    · exact hlimits.agent agentExecutionId
    · intro row row' horigin
      simp only [ContinuationRecord.origin, Prod.mk.injEq] at horigin
      rw [horigin.1, horigin.2.1]
  stage stageExecutionId := by
    rw [leadAutoStageCount, countP_of_mapsRows hmaps]
    · exact hlimits.stage stageExecutionId
    · intro row row' horigin
      simp only [ContinuationRecord.origin, Prod.mk.injEq] at horigin
      rw [horigin.1, horigin.2.2.1]
  idempotency := by
    have hsame : ContinuationRecord.idempotency ∘ change = ContinuationRecord.idempotency := by
      funext row
      have horigin := hmaps.2 row
      simp only [ContinuationRecord.origin, Prod.mk.injEq] at horigin
      exact Prod.ext horigin.2.2.2.1 horigin.2.2.2.2
    rw [hmaps.1, List.map_map, hsame]
    exact hlimits.idempotency

/-- One more row adds one to a count or nothing. -/
theorem countP_admitted (hadmitted : Admitted table admission changed)
    (p : ContinuationRecord → Bool) :
    changed.rows.countP p =
      table.rows.countP p + if p admission.record then 1 else 0 := by
  rw [hadmitted.rows, List.countP_append, List.countP_singleton]

theorem Limits.of_admitted (hlimits : Limits table)
    (hadmitted : Admitted table admission changed) : Limits changed where
  agent agentExecutionId := by
    rw [leadAutoAgentCount, countP_admitted hadmitted]
    split
    next hrecord =>
      obtain ⟨hkind, rfl⟩ := of_decide_eq_true hrecord
      exact Nat.succ_le_of_lt (hadmitted.leadAuto hkind).1
    · exact hlimits.agent agentExecutionId
  stage stageExecutionId := by
    rw [leadAutoStageCount, countP_admitted hadmitted]
    split
    next hrecord =>
      obtain ⟨hkind, rfl⟩ := of_decide_eq_true hrecord
      exact Nat.succ_le_of_lt (hadmitted.leadAuto hkind).2
    · exact hlimits.stage stageExecutionId
  idempotency := by
    rw [hadmitted.rows, List.map_append]
    refine List.Nodup.append hlimits.idempotency (List.nodup_singleton _)
      (List.disjoint_singleton.2 fun hkey => ?_)
    obtain ⟨row, hrow, hsame⟩ := List.mem_map.1 hkey
    exact hadmitted.fresh row hrow hsame

theorem Limits.writeStatus (hlimits : Limits table) (condition : ContinuationRecord → Bool)
    (status : ContinuationStatus) (failureReason : Option Text) (now : Text) :
    Limits (writeStatus table condition status failureReason now) := by
  obtain hsame | hmaps := writeStatus_cases table condition status failureReason now
  · exact hsame.symm ▸ hlimits
  · exact hlimits.of_mapsRows hmaps

theorem Limits.perform (hlimits : Limits table) (event : Event) :
    Limits (perform table event) := by
  cases event with
  | insert admission =>
      obtain hsame | ⟨id, hcounted⟩ | hadmitted := admit_cases table admission
      · rw [Continuation.perform, hsame]
        exact hlimits
      · rw [Continuation.perform, hcounted]
        exact hlimits.of_mapsRows (incrementConflictCount_mapsRows table id)
      · exact hlimits.of_admitted hadmitted
  | claim id now =>
      obtain hsame | hmaps := claim_cases table id now
      · rw [Continuation.perform, hsame]
        exact hlimits
      · exact hlimits.of_mapsRows hmaps
  | update => exact hlimits.writeStatus _ _ _ _
  | updateUnlessCancelling => exact hlimits.writeStatus _ _ _ _
  | sweep => exact hlimits.writeStatus _ _ _ _
  | cancelRun => exact hlimits.writeStatus _ _ _ _

theorem limits_empty : Limits Table.empty :=
  ⟨fun _ => Nat.zero_le _, fun _ => Nat.zero_le _, List.nodup_nil⟩

/-- Over every run, whatever statuses are written, an agent execution has one automatic
continuation at most and a stage execution two, and an idempotency key has one row. -/
theorem admission_limits_hold (events : List Event) :
    (∀ agentExecutionId,
        leadAutoAgentCount (runFrom perform Table.empty events) agentExecutionId ≤ 1) ∧
      (∀ stageExecutionId,
        leadAutoStageCount (runFrom perform Table.empty events) stageExecutionId ≤ 2) ∧
      ((runFrom perform Table.empty events).rows.map
        ContinuationRecord.idempotency).Nodup := by
  have hlimits := runFrom_invariant perform (P := Limits)
    (fun _ event hlimits => hlimits.perform event) limits_empty events
  exact ⟨hlimits.agent, hlimits.stage, hlimits.idempotency⟩

/-! ## What is not terminal -/

/-- The continuations of an agent execution that are not terminal. -/
def openCount (table : Continuations) (agentExecutionId : Text) : ℕ :=
  table.rows.countP fun row =>
    row.agentExecutionId = agentExecutionId ∧ row.status.isTerminal = false

structure Depth (table : Continuations) : Prop where
  queue : queueDepth table ≤ queueDepthMax
  agent : ∀ agentExecutionId, openCount table agentExecutionId ≤ 1

/-- The event brings a terminal row back. -/
def Revives (table : Continuations) : Event → Prop
  | .update id newStatus _ _ =>
      newStatus.isTerminal = false ∧
        ∃ row, table.find id = some row ∧ row.status.isTerminal = true
  | .updateUnlessCancelling id newStatus _ _ =>
      newStatus.isTerminal = false ∧
        ∃ row, table.find id = some row ∧ row.status.isTerminal = true
  | _ => False

/-- A change that opens no row. -/
def OpensNone (table : Continuations) (change : ContinuationRecord → ContinuationRecord) : Prop :=
  ∀ row ∈ table.rows, (change row).status.isTerminal = false → row.status.isTerminal = false

/-- A count of what is not terminal does not grow. -/
theorem countP_le_of_opensNone {change : ContinuationRecord → ContinuationRecord}
    (hmaps : MapsRows table changed change) (hopens : OpensNone table change)
    {p : ContinuationRecord → Bool}
    (hp : ∀ row ∈ table.rows, p (change row) = true →
      (row.status.isTerminal = false → p row = true) ∧
        (change row).status.isTerminal = false) :
    changed.rows.countP p ≤ table.rows.countP p := by
  rw [hmaps.1, List.countP_map]
  refine List.countP_mono_left fun row hrow hchanged => ?_
  obtain ⟨hkept, hopen⟩ := hp row hrow hchanged
  exact hkept (hopens row hrow hopen)

theorem Depth.of_mapsRows (hdepth : Depth table)
    {change : ContinuationRecord → ContinuationRecord}
    (hmaps : MapsRows table changed change) (hopens : OpensNone table change) :
    Depth changed where
  queue := by
    refine le_trans (countP_le_of_opensNone hmaps hopens fun row _ hopen => ?_) hdepth.queue
    rw [Bool.not_eq_true'] at hopen
    exact ⟨fun h => by rw [h]; rfl, hopen⟩
  agent agentExecutionId := by
    refine le_trans (countP_le_of_opensNone hmaps hopens fun row _ hopen => ?_)
      (hdepth.agent agentExecutionId)
    obtain ⟨hagent, hopen⟩ := of_decide_eq_true hopen
    have horigin := hmaps.2 row
    simp only [ContinuationRecord.origin, Prod.mk.injEq] at horigin
    exact ⟨fun h => decide_eq_true ⟨horigin.2.1.symm.trans hagent, h⟩, hopen⟩

theorem Depth.of_admitted (hdepth : Depth table)
    (hadmitted : Admitted table admission changed) : Depth changed where
  queue := by
    rw [queueDepth, countP_admitted hadmitted]
    have hroom := hadmitted.depth
    rw [queueDepth] at hroom
    split
    · omega
    · omega
  agent agentExecutionId := by
    rw [openCount, countP_admitted hadmitted]
    split
    next hrecord =>
      obtain ⟨rfl, -⟩ := of_decide_eq_true hrecord
      have hnone : openCount table admission.record.agentExecutionId = 0 := by
        refine List.countP_eq_zero.2 fun row hrow hopen => ?_
        obtain ⟨hagent, hopen⟩ := of_decide_eq_true hopen
        exact Bool.noConfusion (hopen.symm.trans (hadmitted.idle row hrow hagent))
      exact (Nat.add_right_cancel_iff.2 hnone).le
    · exact hdepth.agent agentExecutionId

/-- A status write opens no row when it writes a terminal status or meets no terminal row. -/
theorem opensNone_written {condition : ContinuationRecord → Bool} {status : ContinuationStatus}
    {failureReason : Option Text} {now : Text}
    (hopen : status.isTerminal = false →
      ∀ row ∈ table.rows, condition row = true → row.status.isTerminal = false) :
    OpensNone table (written condition status failureReason now) := by
  intro row hrow hchanged
  rw [written] at hchanged
  split at hchanged
  next hcondition => exact hopen hchanged row hrow hcondition
  · exact hchanged

theorem Depth.writeStatus (hdepth : Depth table) {condition : ContinuationRecord → Bool}
    {status : ContinuationStatus} (failureReason : Option Text) (now : Text)
    (hopen : status.isTerminal = false →
      ∀ row ∈ table.rows, condition row = true → row.status.isTerminal = false) :
    Depth (writeStatus table condition status failureReason now) := by
  obtain hsame | hmaps := writeStatus_cases table condition status failureReason now
  · exact hsame.symm ▸ hdepth
  · exact hdepth.of_mapsRows hmaps (opensNone_written hopen)

/-- A row that a worker can claim is not terminal. -/
theorem opensNone_claimed (table : Continuations) (id now : Text) :
    OpensNone table (claimed id now) := by
  intro row _ hopen
  rw [claimed] at hopen
  split at hopen
  next hclaimed =>
    cases hstatus : row.status with
    | _ => simp_all [ContinuationStatus.isAdmitted, ContinuationStatus.isTerminal]
  · exact hopen

theorem opensNone_conflicted (table : Continuations) (id : Text) :
    OpensNone table (conflicted id) := by
  intro row _ hopen
  rw [conflicted] at hopen
  split at hopen
  · exact hopen
  · exact hopen

/-- Without a terminal row of the id, what carries the id is not terminal. -/
theorem not_terminal_of_id {id : Text} {status : ContinuationStatus}
    (hrevives : ¬(status.isTerminal = false ∧
      ∃ row, table.find id = some row ∧ row.status.isTerminal = true))
    (hopen : status.isTerminal = false) {row : ContinuationRecord} (hrow : row ∈ table.rows)
    (hid : row.id = id) : row.status.isTerminal = false := by
  subst hid
  exact Bool.eq_false_iff.2 fun hterminal =>
    hrevives ⟨hopen, row, table.find_of_mem hrow, hterminal⟩

theorem Depth.perform (hdepth : Depth table) {event : Event}
    (hrevives : ¬Revives table event) : Depth (perform table event) := by
  cases event with
  | insert admission =>
      obtain hsame | ⟨id, hcounted⟩ | hadmitted := admit_cases table admission
      · rw [Continuation.perform, hsame]
        exact hdepth
      · rw [Continuation.perform, hcounted]
        exact hdepth.of_mapsRows (incrementConflictCount_mapsRows table id)
          (opensNone_conflicted table id)
      · exact hdepth.of_admitted hadmitted
  | claim id now =>
      obtain hsame | hmaps := claim_cases table id now
      · rw [Continuation.perform, hsame]
        exact hdepth
      · exact hdepth.of_mapsRows hmaps (opensNone_claimed table id now)
  | update id newStatus failureReason now =>
      exact hdepth.writeStatus _ _ fun hopen row hrow hid =>
        not_terminal_of_id hrevives hopen hrow (of_decide_eq_true hid)
  | updateUnlessCancelling id newStatus failureReason now =>
      exact hdepth.writeStatus _ _ fun hopen row hrow hid =>
        not_terminal_of_id hrevives hopen hrow (of_decide_eq_true hid).1
  | sweep cutoff now => exact hdepth.writeStatus _ _ fun hopen => Bool.noConfusion hopen
  | cancelRun runId now =>
      exact hdepth.writeStatus _ _ fun _ _ _ hopen => (of_decide_eq_true hopen).2

/-- What executes is not terminal. -/
theorem concurrency_le_queueDepth (table : Continuations) :
    concurrency table ≤ queueDepth table := by
  refine List.countP_mono_left fun row _ hactive => ?_
  cases hstatus : row.status with
  | _ => simp_all [ContinuationStatus.isActiveExecution, ContinuationStatus.isTerminal]

/-- Over every run in which no status write brings a terminal row back, an agent execution
has one open continuation at most, and no more than the queue's depth are open; so no more
than that execute, although the claims of the workers do not ask for the concurrency. -/
theorem open_continuations_bounded (events : List Event)
    (hrevives : RunMeets perform (fun table event => ¬Revives table event) Table.empty
      events) :
    (∀ agentExecutionId, openCount (runFrom perform Table.empty events) agentExecutionId ≤ 1) ∧
      queueDepth (runFrom perform Table.empty events) ≤ queueDepthMax ∧
      concurrency (runFrom perform Table.empty events) ≤ queueDepthMax := by
  have hdepth := runFrom_invariant_of_meets perform (P := Depth)
    (fun _ _ hrevives hdepth => hdepth.perform hrevives)
    ⟨Nat.zero_le _, fun _ => Nat.zero_le _⟩ hrevives
  exact ⟨hdepth.agent, hdepth.queue, (concurrency_le_queueDepth _).trans hdepth.queue⟩

/-- An operator's continuation of an agent execution. -/
def continueAgent (id : Text) : ContinuationAdmission where
  continuationId := id
  runId := ['r']
  stageExecutionId := ['e']
  agentExecutionId := ['a']
  mode := .liveHandleContinuation
  triggerKind := .operatorMcp
  idempotencyScope := ['r']
  idempotencyKey := id
  requestFingerprintSha256 := ['f']
  createdAt := ['1']

/-- The agent continues a second time after the first continuation came to its end. -/
theorem open_continuations_bounded_twice :
    (∀ agentExecutionId, openCount (runFrom perform Table.empty
        [.insert (continueAgent ['x']), .claim ['x'] ['2'],
          .update ['x'] .succeeded none ['3'], .insert (continueAgent ['y'])])
        agentExecutionId ≤ 1) ∧
      queueDepth (runFrom perform Table.empty
        [.insert (continueAgent ['x']), .claim ['x'] ['2'],
          .update ['x'] .succeeded none ['3'], .insert (continueAgent ['y'])]) ≤
        queueDepthMax ∧
      concurrency (runFrom perform Table.empty
        [.insert (continueAgent ['x']), .claim ['x'] ['2'],
          .update ['x'] .succeeded none ['3'], .insert (continueAgent ['y'])]) ≤
        queueDepthMax :=
  open_continuations_bounded _ ⟨id, id, fun h => Bool.noConfusion h.1, id, trivial⟩

end ChainworksForge.Continuation
