import ChainworksForge.Queue.PostInvoke

/-!
# The producer and the reader of advance payloads agree

The payload that is built after an invocation is read back field by field.  It
is accepted unless the resolved authority has an empty stage or identifier, or
the settled item has an empty identifier, and an accepted payload has a target
exactly if an authority was resolved.
-/

namespace ChainworksForge.Queue

open ChainworksForge.Support

/-! ## The resolved authority -/

section Resolved

variable {db settled : Database} {now : Instant} {runId : Uuid} {itemId : Text}
  {source : Option Json} {authority : RetryStageExecutionAuthority}

/-- An authority that is active for a run. -/
def ActiveFor (db : Database) (runId : Uuid)
    (authority : RetryStageExecutionAuthority) : Prop :=
  authority ∈ db.retryAuthorities.rows ∧ authority.runId = runId ∧
    authority.authorityState = .active

theorem activeFor_of_findByTarget {target : Text}
    (hfind : findActiveRetryAuthorityByTarget db runId target =
      .ok (some authority)) :
    ActiveFor db runId authority := by
  rw [findActiveRetryAuthorityByTarget] at hfind
  split at hfind
  · cases hfind
  · rename_i row hrows
    obtain rfl : row = authority := by simpa using hfind
    have hmem : row ∈ db.retryAuthorities.rows.filter (fun row =>
        row.targetStageExecutionId.text = target ∧ row.runId = runId ∧
          row.authorityState = .active) := by
      rw [hrows]
      exact List.mem_singleton_self row
    obtain ⟨hrow, hcondition⟩ := List.mem_filter.1 hmem
    exact ⟨hrow, (of_decide_eq_true hcondition).2⟩
  · cases hfind

theorem activeFor_of_findById {authorityId : Text}
    (hfind : findActiveRetryAuthorityById db runId authorityId = some authority) :
    ActiveFor db runId authority := by
  obtain ⟨hrow, hcondition⟩ := Option.filter_eq_some_iff.1 hfind
  exact ⟨(db.retryAuthorities.find_eq_some_iff.1 hrow).1,
    of_decide_eq_true hcondition⟩

theorem eq_of_agreeOnAuthority {byTarget byId : Option RetryStageExecutionAuthority}
    (hagree : agreeOnAuthority itemId byTarget byId = .ok (some authority)) :
    byTarget = some authority ∨ byId = some authority := by
  cases byTarget with
  | none =>
      cases byId with
      | none => simp [agreeOnAuthority] at hagree
      | some row => simpa [agreeOnAuthority] using hagree
  | some target =>
      cases byId with
      | none => simpa [agreeOnAuthority] using hagree
      | some row =>
          rw [agreeOnAuthority] at hagree
          split_ifs at hagree
          exact Or.inl (by simpa using hagree)

theorem activeFor_of_findActive {sourceStage authorityId : Option Text}
    (hfind : findActiveRetryAuthority db runId itemId sourceStage authorityId =
      .ok (some authority)) :
    ActiveFor db runId authority := by
  obtain ⟨byTarget, hbyTarget, hagree⟩ := (bind_eq_ok_iff _ _ _).1 hfind
  rcases eq_of_agreeOnAuthority hagree with rfl | hbyId
  · cases sourceStage with
    | none => cases hbyTarget
    | some target => exact activeFor_of_findByTarget hbyTarget
  · obtain ⟨id, rfl, hrow⟩ := Option.bind_eq_some_iff.1 hbyId
    exact activeFor_of_findById hrow

theorem checkSourceInvoke_some {hints : InvokeHints} {sourceStage : Option Text}
    {found : RetryStageExecutionAuthority}
    (hcheck : checkSourceInvoke db now itemId hints sourceStage found =
      .ok (settled, some authority)) :
    found = authority := by
  rw [checkSourceInvoke] at hcheck
  split at hcheck
  · simp_all
  · split_ifs at hcheck <;> simp_all

/-- A resolved authority is an active authority of the run. -/
theorem activeFor_of_resolveAuthority
    (hresolve : resolveAuthority db now runId itemId source =
      .ok (settled, some authority)) :
    ActiveFor db runId authority := by
  simp only [resolveAuthority] at hresolve
  obtain ⟨_, _, hresolve⟩ := (bind_eq_ok_iff _ _ _).1 hresolve
  obtain ⟨_, _, hresolve⟩ := (bind_eq_ok_iff _ _ _).1 hresolve
  obtain ⟨_, _, hresolve⟩ := (bind_eq_ok_iff _ _ _).1 hresolve
  obtain ⟨found, hfound, hresolve⟩ := (bind_eq_ok_iff _ _ _).1 hresolve
  obtain ⟨_, _, hresolve⟩ := (bind_eq_ok_iff _ _ _).1 hresolve
  cases found with
  | none => cases hresolve
  | some row =>
      obtain ⟨⟨checked, active⟩, hcheck, hresolve⟩ :=
        (bind_eq_ok_iff _ _ _).1 hresolve
      obtain ⟨_, _, hsame⟩ := (bind_eq_ok_iff _ _ _).1 hresolve
      obtain ⟨rfl, rfl⟩ : checked = settled ∧ active = some authority := by
        simpa using (pure_eq_ok_iff _ _).1 hsame
      rw [← checkSourceInvoke_some hcheck]
      exact activeFor_of_findActive hfound

end Resolved

/-! ## The payload as it is read -/

section Read

variable (runId : Uuid) (outcome : InvokeOutcome) (itemId : Text)
  (agent : Option Text)

/-- The fields that every payload after an invocation is read with. -/
def runScopedRecord : AdvanceRunPayloadV1 where
  schemaVersion := some supportedSchemaVersion
  runId := runId
  stageId := none
  targetStageExecutionId := none
  retryAuthorityId := none
  sourceStageExecutionId := none
  sourceWorkItemId := none
  sourceInvokeWorkItemId := none
  sourceAgentExecutionId := none
  enqueueReason := some outcome.enqueueReason
  reason := some outcome.reason

/-- The fields that the payload for an authority is read with. -/
def targetedRecord (authority : RetryStageExecutionAuthority) :
    AdvanceRunPayloadV1 :=
  { runScopedRecord runId outcome with
    stageId := some authority.stageId
    targetStageExecutionId := some authority.targetStageExecutionId
    retryAuthorityId := some authority.id
    sourceStageExecutionId := some authority.targetStageExecutionId
    sourceWorkItemId := some itemId
    sourceInvokeWorkItemId := some itemId
    sourceAgentExecutionId := agent }

/-- The record that a payload is read as. -/
def postInvokeRecord (active : Option RetryStageExecutionAuthority) :
    AdvanceRunPayloadV1 :=
  (active.map (targetedRecord runId outcome itemId agent)).getD
    (runScopedRecord runId outcome)

variable (active : Option RetryStageExecutionAuthority)

theorem getStr_postInvokePayload (key : String) :
    (postInvokePayload runId outcome itemId agent active).getStr key =
      ((postInvokeFields runId outcome itemId ++
        (active.map (targetFields itemId agent)).getD []).reverse.lookup
          key).bind Json.asStr :=
  Json.getStr_ofFields _ key

theorem terminalWorkItemField_ne {key : String}
    (hkey : key ≠ "completed_invoke_work_item_id" ∧
      key ≠ "failed_invoke_work_item_id") :
    (key == outcome.terminalWorkItemField) = false := by
  cases outcome with
  | completed => exact beq_false_of_ne hkey.1
  | failed => exact beq_false_of_ne hkey.2

theorem readFields_postInvokePayload :
    AdvanceRunPayloadV1.readFields
        (postInvokePayload runId outcome itemId agent active) =
      .ok (postInvokeRecord runId outcome itemId agent active) := by
  have hget := getStr_postInvokePayload runId outcome itemId agent active
  cases active with
  | none =>
      simp [AdvanceRunPayloadV1.readFields, AdvanceRunPayloadV1.requiredRunId,
        AdvanceRunPayloadV1.optionalUuid, AdvanceRunPayloadV1.optionalReason, hget,
        postInvokeFields, List.lookup_cons, terminalWorkItemField_ne,
        postInvokeRecord, runScopedRecord, bind, Except.bind, pure, Except.pure]
  | some authority =>
      cases agent <;>
      simp [AdvanceRunPayloadV1.readFields, AdvanceRunPayloadV1.requiredRunId,
        AdvanceRunPayloadV1.optionalUuid, AdvanceRunPayloadV1.optionalReason, hget,
        postInvokeFields, targetFields, List.lookup_cons, terminalWorkItemField_ne,
        postInvokeRecord, targetedRecord, runScopedRecord, bind, Except.bind, pure,
        Except.pure]

/-- A payload after an invocation keeps the rules unless a name is empty. -/
theorem validate_postInvokeRecord :
    (postInvokeRecord runId outcome itemId agent active).validate = .ok () ↔
      ∀ authority ∈ active,
        authority.stageId ≠ [] ∧ authority.id ≠ [] ∧ itemId ≠ [] := by
  cases active with
  | none =>
      have hvalid : (runScopedRecord runId outcome).validate = .ok () := by
        cases outcome <;> rfl
      simpa [postInvokeRecord] using hvalid
  | some authority =>
      have hpost : outcome.enqueueReason.isPostInvoke = true := by
        cases outcome <;> rfl
      have hvalid :
          (targetedRecord runId outcome itemId agent authority).validate = .ok () ↔ _ :=
        AdvanceRunPayloadV1.validate_of_target rfl hpost rfl rfl rfl rfl rfl
      simpa [postInvokeRecord] using hvalid

variable {runId outcome itemId agent active}

theorem parseJson_postInvokePayload
    {codec : JsonCodec} {read : AdvanceRunPayloadV1}
    (hread : codec.ReadsBack
      (postInvokePayload runId outcome itemId agent active)) :
    AdvanceRunPayloadV1.parseJson codec
        (codec.write (postInvokePayload runId outcome itemId agent active)) =
        .ok read ↔
      read = postInvokeRecord runId outcome itemId agent active ∧
        read.validate = .ok () := by
  have hobject :
      (postInvokePayload runId outcome itemId agent active).isObject = true :=
    Json.isObject_ofFields _
  rw [AdvanceRunPayloadV1.parseJson, hread]
  simp only [AdvanceRunPayloadV1.parseValue_eq_ok_iff, hobject, true_and,
    readFields_postInvokePayload, Except.ok.injEq]
  exact and_congr_left' eq_comm

end Read

theorem buildPostInvokeAdvancePayload_eq_ok
    {db settled : Database} {now : Instant} {runId : Uuid}
    {outcome : InvokeOutcome} {itemId : Text} {source : Option Json}
    {payload : Json} {stageId : Option Text}
    (hbuild : buildPostInvokeAdvancePayload db now runId outcome itemId source =
      .ok (settled, payload, stageId)) :
    ∃ active, resolveAuthority db now runId itemId source = .ok (settled, active) ∧
      payload = postInvokePayload runId outcome itemId
        (InvokeHints.ofPayload (source.getD (.object []))).durableAgent active ∧
      stageId = active.map (·.stageId) := by
  obtain ⟨⟨found, active⟩, hresolve, hbuild⟩ := (bind_eq_ok_iff _ _ _).1 hbuild
  obtain ⟨rfl, rfl, rfl⟩ := by simpa using (pure_eq_ok_iff _ _).1 hbuild
  exact ⟨active, hresolve, rfl, rfl⟩

/-- The reader accepts what is built after an invocation exactly if no name in
it is empty.  The accepted payload is targeted exactly if an active authority
was resolved, and then it names that authority, its stage and its target.  A
valid payload is read as it was written. -/
theorem post_invoke_payload_agrees (codec : JsonCodec) :
    (∀ db now runId outcome itemId source settled payload stageId,
      buildPostInvokeAdvancePayload db now runId outcome itemId source =
          .ok (settled, payload, stageId) →
        codec.ReadsBack payload →
          ∃ active,
            resolveAuthority db now runId itemId source = .ok (settled, active) ∧
            (∀ authority ∈ active, ActiveFor db runId authority) ∧
            ((∃ read, AdvanceRunPayloadV1.parseJson codec (codec.write payload) =
                .ok read) ↔
              ∀ authority ∈ active,
                authority.stageId ≠ [] ∧ authority.id ≠ [] ∧ itemId ≠ []) ∧
            ∀ read,
              AdvanceRunPayloadV1.parseJson codec (codec.write payload) = .ok read →
                (classifyAdvancePayloadScope codec (codec.write payload) =
                    .targeted ↔ active.isSome = true) ∧
                ∀ authority ∈ active,
                  read.targetStageExecutionId =
                      some authority.targetStageExecutionId ∧
                    read.stageId = some authority.stageId ∧
                    read.retryAuthorityId = some authority.id) ∧
    ∀ payload : AdvanceRunPayloadV1, payload.IsValid →
      codec.ReadsBack payload.toValue →
        AdvanceRunPayloadV1.parseJson codec (codec.write payload.toValue) =
          .ok payload := by
  constructor
  · intro db now runId outcome itemId source settled payload stageId hbuild hread
    obtain ⟨active, hresolve, rfl, -⟩ := buildPostInvokeAdvancePayload_eq_ok hbuild
    refine ⟨active, hresolve, ?_, ?_, ?_⟩
    · rintro authority rfl
      exact activeFor_of_resolveAuthority hresolve
    · simp only [parseJson_postInvokePayload hread, exists_eq_left,
        validate_postInvokeRecord]
    · intro read hparse
      have hrecord := ((parseJson_postInvokePayload hread).1 hparse).1
      rw [classifyAdvancePayloadScope, hparse, hrecord]
      cases active with
      | none => simp [postInvokeRecord, runScopedRecord]
      | some authority => simp [postInvokeRecord, targetedRecord]
  · intro payload hvalid hread
    rw [AdvanceRunPayloadV1.parseJson, hread]
    exact AdvanceRunPayloadV1.parseValue_toValue payload hvalid

section Retried

/-- An active authority of a stage. -/
def retriedAuthority (stageId : Text) : RetryStageExecutionAuthority where
  id := "retry".toList
  runId := repeatedUuid 1
  stageId := stageId
  targetStageExecutionId := repeatedUuid 2
  sourceInvokeWorkItemId := none
  authorityState := .active
  updatedAt := ⟨0, []⟩
  terminalReason := none

/-- Tables that hold one active authority. -/
def retriedDatabase (stageId : Text) : Database :=
  { Database.empty with
    stageExecutions := [⟨repeatedUuid 2, repeatedUuid 1⟩]
    retryAuthorities := ⟨[retriedAuthority stageId], List.nodup_singleton _⟩ }

/-- The payload of an invocation in the stage of that authority. -/
def retriedSource : Json :=
  Json.ofFields [("stage_execution_id", .string (repeatedUuid 2).text)]

/-- The payload that is built for it. -/
def retriedPayload (stageId : Text) : Json :=
  postInvokePayload (repeatedUuid 1) .completed "item".toList none
    (some (retriedAuthority stageId))

/-- A library that writes one value as a text and reads it back. -/
def codecOf (value : Json) (text : Text) : JsonCodec where
  write := fun _ => text
  read := fun raw => if raw = text then some value else none

/-- The text of that payload. -/
def retriedText (stageId : Text) : Text :=
  "\x7b\"completed_invoke_work_item_id\":\"item\"".toList ++
  ",\"enqueue_reason\":\"post_invoke_completion\"".toList ++
  ",\"reason\":\"invoke_agent_completed\"".toList ++
  ",\"retry_authority_id\":\"retry\"".toList ++
  ",\"run_id\":\"11111111-1111-1111-1111-111111111111\"".toList ++
  ",\"schema_version\":\"advance_run_payload.v1\"".toList ++
  ",\"source_invoke_work_item_id\":\"item\"".toList ++
  ",\"source_stage_execution_id\":\"22222222-2222-2222-2222-222222222222\"".toList ++
  ",\"source_work_item_id\":\"item\"".toList ++
  ",\"stage_id\":\"".toList ++ stageId ++ "\"".toList ++
  ",\"target_stage_execution_id\":\"22222222-2222-2222-2222-222222222222\"\x7d".toList

theorem codecOf_readsBack (value : Json) (text : Text) :
    (codecOf value text).ReadsBack value := by
  simp [codecOf, JsonCodec.ReadsBack]

theorem build_retriedSource (stageId : Text) :
    buildPostInvokeAdvancePayload (retriedDatabase stageId) ⟨0, []⟩
        (repeatedUuid 1) .completed "item".toList (some retriedSource) =
      .ok (retriedDatabase stageId, retriedPayload stageId, some stageId) := by
  rfl

/-- The payload for the stage `build` is accepted as targeted. -/
theorem post_invoke_payload_agrees_build :
    (∃ read, AdvanceRunPayloadV1.parseJson
        (codecOf (retriedPayload "build".toList) (retriedText "build".toList))
        (retriedText "build".toList) = .ok read) ∧
      classifyAdvancePayloadScope
        (codecOf (retriedPayload "build".toList) (retriedText "build".toList))
        (retriedText "build".toList) = .targeted := by
  obtain ⟨active, hresolve, -, haccept, htargeted⟩ :=
    (post_invoke_payload_agrees
      (codecOf (retriedPayload "build".toList) (retriedText "build".toList))).1
      _ _ _ _ _ _ _ _ _ (build_retriedSource "build".toList)
      (codecOf_readsBack _ _)
  obtain rfl : active = some (retriedAuthority "build".toList) := by
    have hknown : resolveAuthority (retriedDatabase "build".toList) ⟨0, []⟩
        (repeatedUuid 1) "item".toList (some retriedSource) =
          .ok (retriedDatabase "build".toList,
            some (retriedAuthority "build".toList)) := rfl
    rw [hknown] at hresolve
    cases hresolve
    rfl
  obtain ⟨read, hread⟩ := haccept.2 (by
    rintro authority ⟨⟩
    decide)
  exact ⟨⟨read, hread⟩, (htargeted read hread).1.2 rfl⟩

/-- The payload for an authority with an empty stage is refused, however it is
written. -/
theorem classifyAdvancePayloadScope_retriedPayload_nil (text : Text) :
    classifyAdvancePayloadScope (codecOf (retriedPayload []) text) text =
      .malformed "advance_run_payload_missing_stage_id" := by
  have hread : (codecOf (retriedPayload []) text).read text =
      some (retriedPayload []) := by
    simp [codecOf]
  simp only [classifyAdvancePayloadScope, AdvanceRunPayloadV1.parseJson,
    payloadLooksTargetedOrTyped, hread]
  decide +kernel

/-- The payload for an authority with an empty stage is built and refused. -/
theorem empty_stage_payload_refused :
    buildPostInvokeAdvancePayload (retriedDatabase []) ⟨0, []⟩ (repeatedUuid 1)
        .completed "item".toList (some retriedSource) =
        .ok (retriedDatabase [], retriedPayload [], some []) ∧
      (codecOf (retriedPayload []) (retriedText [])).ReadsBack (retriedPayload []) ∧
      classifyAdvancePayloadScope (codecOf (retriedPayload []) (retriedText []))
        (retriedText []) = .malformed "advance_run_payload_missing_stage_id" := by
  refine ⟨build_retriedSource [], codecOf_readsBack _ _, ?_⟩
  exact classifyAdvancePayloadScope_retriedPayload_nil _

end Retried

end ChainworksForge.Queue
