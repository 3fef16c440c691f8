import ChainworksForge.Queue.Effects

/-!
# Late workers

A worker may still settle or requeue an invocation after another attempt has
claimed it.  Four of the five operations that a worker can make check that the
attempt is still its own.  The requeue after a wait for the provider does not: it
takes a running item back from whichever attempt holds it.
-/

namespace ChainworksForge.Queue

open ChainworksForge.Support

/-- An execution that exists and no longer holds an invocation. -/
def Superseded (db : Database) (itemId : Text) (agent : Uuid) : Prop :=
  (db.agentExecutions.find agent).isSome = true ∧
    ∃ item, db.workItems.find itemId = some item ∧ item.kind = .invokeAgent ∧
      item.claimant ≠ some agent.text

section Runs

variable {db db' : Database} {itemId : Text} {agent : Uuid}

/-- No new execution is one that exists, so a superseded attempt never gets the
item back. -/
theorem Superseded.evolves (hsuperseded : Superseded db itemId agent)
    (hevolves : Evolves (Unused db) db db') : Superseded db' itemId agent := by
  obtain ⟨hagent, item, hitem, hinvoke, hother⟩ := hsuperseded
  obtain ⟨item', hitem', hkept⟩ := hevolves.items.kept itemId item hitem
  refine ⟨hevolves.executions agent hagent, item', hitem',
    hkept.kind.trans hinvoke, ?_⟩
  rcases hkept.claimant with hsame | hnone | ⟨started, hunused, hstarted⟩
  · rw [hsame]
    exact hother
  · rw [hnone]
    simp
  · rw [hstarted]
    intro htext
    obtain rfl : started = agent := Uuid.text_injective (Option.some.inj htext)
    rw [Unused.eq_1] at hunused
    rw [hunused] at hagent
    cases hagent

theorem Superseded.performAll (hsuperseded : Superseded db itemId agent)
    (actions : List QueueAction) :
    Superseded (performAll db actions) itemId agent :=
  foldl_preserves (P := fun db => Superseded db itemId agent)
    (fun db action _ h => h.evolves (perform_evolves db action)) hsuperseded

/-- A claim supersedes every other execution in the tables. -/
theorem superseded_of_claim {start : ClaimStart} {attempt : ClaimedInvokeAgentStart}
    (hagent : (db.agentExecutions.find agent).isSome = true)
    (hclaim : claimInvokeAgentWorkItemWithStart db itemId start =
      .ok (db', some attempt))
    (hother : attempt.agentExecutionId ≠ agent) : Superseded db' itemId agent := by
  have hevolves := claim_evolves hclaim
  rcases claim_cases hclaim with ⟨hnone, _⟩ | ⟨item, payload, attempt', hfind, rfl,
    hinvoke, hpending, hpayload, hobject, hattempt, hresumed | ⟨_, hstart⟩⟩
  · cases hnone
  · -- The record of a resumed claim names the attempt.
    obtain rfl := Option.some.inj hattempt
    obtain ⟨record, hrecord, hresume⟩ := hresumed
    obtain ⟨raw, hraw, hparse, _⟩ := resumeClaim_cases hresume
    have hclaimant : item.claimant = some raw := by
      rw [WorkItem.claimant, hpayload, Option.bind_some, ← claimedAgent_withRunId _
        item.runId, claimedAgent_eq, hrecord]
      exact hraw
    have hsuperseded : Superseded db item.id agent := by
      refine ⟨hagent, item, hfind, hinvoke, ?_⟩
      rw [hclaimant]
      rintro htext
      rw [Option.some.inj htext, Uuid.parse_text] at hparse
      exact hother (Option.some.inj hparse).symm
    exact hsuperseded.evolves hevolves
  · obtain rfl := Option.some.inj hattempt
    obtain ⟨runId, stage, agentId, session, executions, claims, facts, _, hname, hkey,
      _, _, rfl⟩ := startClaim_cases hstart
    refine ⟨hevolves.executions agent hagent, ?_⟩
    have hescalated : (start.escalation.foldl applyEdit
        (withRunId payload item.runId)).isObject = true :=
      (isObject_escalated _ _).trans ((isObject_withRunId _ _).trans hobject)
    rw [finalizePendingRetrySupersession, startItem, Table.find_update, hfind]
    refine ⟨_, rfl, ?_, ?_⟩
    · simp [hpending, hinvoke]
    · simp only [hpending, and_self, decide_true, if_true]
      rw [WorkItem.claimant, Option.bind_some, claimedAgent_eq, claimedRecord,
        Json.get_insert_self hescalated, Option.bind_some, getStr_startedRecord, hkey]
      intro htext
      have hsame : start.agent = agent :=
        Uuid.text_injective (Option.some.inj htext)
      exact hother (hname.trans hsame)

end Runs

/-! ## Operations of a late worker -/

/-- The operations that a worker makes on an item for an attempt. -/
def OnBehalfOf (itemId : Text) (agent : Uuid) : QueueAction → Prop
  | .complete id expected _ => id = itemId ∧ expected = some agent
  | .fail id _ expected _ => id = itemId ∧ expected = some agent
  | .transientRequeue id _ _ expected => id = itemId ∧ expected = some agent
  | .activePromptClose id key _ _ _ => id = itemId ∧ key.agentExecutionId = agent
  | .providerCapacityWait id key _ _ => id = itemId ∧ key.agentExecutionId = agent
  | _ => False

/-- A requeue after a wait for the provider finds its item running. -/
def TakesBackRunning (db : Database) : QueueAction → Prop
  | .providerCapacityWait id _ _ _ =>
      ∃ item, db.workItems.find id = some item ∧ item.kind = .invokeAgent ∧
        item.status = .running ∧ item.payload.isSome = true
  | _ => False

/-- Neither the state nor the payload of an item nor the claim with a key has
changed. -/
def LeavesAttempt (db db' : Database) (itemId : Text)
    (key : ArtifactSourceGenerationClaimKey) : Prop :=
  (db'.workItems.find itemId).map (fun item => (item.status, item.payload)) =
      (db.workItems.find itemId).map (fun item => (item.status, item.payload)) ∧
    db'.claims.find key.primaryKey = db.claims.find key.primaryKey

section Fenced

variable {db : Database} {itemId : Text} {agent : Uuid}

theorem matchesWorkItemAttempt_of_superseded {item : WorkItem}
    (hother : item.claimant ≠ some agent.text) :
    matchesWorkItemAttempt db item (some agent) = false := by
  rw [WorkItem.claimant] at hother
  simp [matchesWorkItemAttempt, hother]

/-- A superseded worker changes nothing, unless it takes a running item back
after a wait for its provider. -/
theorem perform_eq_of_superseded {action : QueueAction}
    (hsuperseded : Superseded db itemId agent)
    (hbehalf : OnBehalfOf itemId agent action)
    (hidle : ¬TakesBackRunning db action) : perform db action = db := by
  obtain ⟨_, item, hfind, hinvoke, hother⟩ := hsuperseded
  have hmatch : matchesWorkItemAttempt db item (some agent) = false :=
    matchesWorkItemAttempt_of_superseded hother
  cases action with
  | complete id expected now =>
      obtain ⟨rfl, rfl⟩ := hbehalf
      simp [perform, completeAttemptWithCapacity, hfind, hmatch, committed]
  | fail id error expected now =>
      obtain ⟨rfl, rfl⟩ := hbehalf
      simp [perform, failAttemptWithCapacity, hfind, hmatch, committed]
  | transientRequeue id later error expected =>
      obtain ⟨rfl, rfl⟩ := hbehalf
      simp [perform, requeueAttemptAfterTransientPersistenceContention, hfind, hmatch]
  | activePromptClose id key generation scheduledAt reason =>
      obtain ⟨rfl, rfl⟩ := hbehalf
      rw [perform, requeueRunningInvokeAgentAfterActivePromptClose, hfind]
      simp only
      split_ifs
      · cases hpayload : item.payload with
        | none => rfl
        | some payload =>
            have hclaim : claimedAgent payload ≠ some key.agentExecutionId.text := by
              rw [WorkItem.claimant, hpayload] at hother
              exact hother
            simp [required, hclaim, bind, Except.bind, Except.map, committed, pure,
              Except.pure]
      · rfl
  | providerCapacityWait id key scheduledAt reason =>
      obtain ⟨rfl, rfl⟩ := hbehalf
      rw [perform, requeueRunningInvokeAgentAfterProviderCapacityWait, hfind]
      simp only
      split_ifs with hrunning
      · cases hpayload : item.payload with
        | none => rfl
        | some payload =>
            exact absurd ⟨item, hfind, hrunning.1, hrunning.2, by rw [hpayload]; rfl⟩
              hidle
      · rfl
  | claim | stageRequeue | reconcile | hostInterruption | startupRequeue
  | stalePreSession | staleStarting => exact hbehalf.elim

/-- A requeue after a wait for the provider takes a running item back. -/
theorem status_of_takesBackRunning {action : QueueAction}
    (hbehalf : OnBehalfOf itemId agent action) (htakes : TakesBackRunning db action) :
    (db.workItems.find itemId).map (·.status) = some .running ∧
      ((perform db action).workItems.find itemId).map (·.status) =
        some .pending := by
  cases action with
  | providerCapacityWait id key scheduledAt reason =>
      obtain ⟨rfl, _⟩ := hbehalf
      obtain ⟨item, hfind, hinvoke, hrunning, hpayload⟩ := htakes
      obtain ⟨payload, hpayload⟩ := Option.isSome_iff_exists.1 hpayload
      have hid : item.id = id := (db.workItems.find_eq_some_iff.1 hfind).2
      have hperform : perform db (.providerCapacityWait id key scheduledAt reason) =
          requeueAndSupersede db id key payload
            (providerCapacityStamp key scheduledAt reason)
            { scheduledAt := some scheduledAt, keepsCompletedAt := false,
              lastError := some reason } scheduledAt := by
        simp [perform, requeueRunningInvokeAgentAfterProviderCapacityWait, hfind,
          hinvoke, hrunning, hpayload, required, bind, Except.bind, pure, Except.pure,
          Except.map, committed]
      rw [hperform, requeueAndSupersede, supersedeClaim, requeueRunning]
      simp [Table.find_update, hfind, hrunning, hid]
  | claim | complete | fail | transientRequeue | activePromptClose | stageRequeue
  | reconcile | hostInterruption | startupRequeue | stalePreSession
  | staleStarting => exact htakes.elim

end Fenced

/-- After an attempt has claimed an invocation, and in every state that follows,
an operation for an execution that was there before leaves the item and the claim
of the attempt as they are, exactly if it is not a requeue after a wait for the
provider that finds the item running. -/
theorem stale_attempt_fenced_iff
    (db claimedDb : Database) (itemId : Text) (stale : Uuid) (start : ClaimStart)
    (attempt : ClaimedInvokeAgentStart) (later : List QueueAction)
    (action : QueueAction)
    (hstale : (db.agentExecutions.find stale).isSome = true)
    (hclaim : claimInvokeAgentWorkItemWithStart db itemId start =
      .ok (claimedDb, some attempt))
    (hother : attempt.agentExecutionId ≠ stale)
    (hbehalf : OnBehalfOf itemId stale action) :
    LeavesAttempt (performAll claimedDb later)
        (perform (performAll claimedDb later) action) itemId
        attempt.artifactClaimKey ↔
      ¬TakesBackRunning (performAll claimedDb later) action := by
  have hsuperseded :=
    (superseded_of_claim hstale hclaim hother).performAll later
  constructor
  · rintro ⟨hitem, _⟩ htakes
    obtain ⟨hrunning, hpending⟩ := status_of_takesBackRunning hbehalf htakes
    have hstatus := congrArg (Option.map Prod.fst) hitem
    simp only [Option.map_map, Function.comp_def] at hstatus
    rw [hrunning, hpending] at hstatus
    cases hstatus
  · intro hidle
    rw [perform_eq_of_superseded hsuperseded hbehalf hidle]
    exact ⟨rfl, rfl⟩

section LateWorker

/-- A pending invocation of a run. -/
def lateItem : WorkItem where
  id := "item".toList
  kind := .invokeAgent
  payload := some (Json.ofFields
    [("session_reuse_scope", Json.ofString "none"),
      ("stage_execution_id", .string (repeatedUuid 2).text),
      ("stage_id", Json.ofString "build"),
      ("provider", Json.ofString "codex")])
  status := .pending
  runId := some (repeatedUuid 1)
  stageId := some "build".toList
  createdAt := ⟨0, []⟩
  scheduledAt := ⟨0, []⟩
  startedAt := none
  completedAt := none
  failedAt := none
  attemptCount := 0
  lastError := none

/-- A queue with that invocation. -/
def lateQueue : Database :=
  { Database.empty with
    workItems := ⟨[lateItem], List.nodup_singleton _⟩
    stageExecutions := [⟨repeatedUuid 2, repeatedUuid 1⟩] }

/-- A worker that starts an execution. -/
def lateStart (agent : Uuid) : ClaimStart where
  agent := agent
  sessionGenerationId := "session".toList
  escalation := []
  now := ⟨1, []⟩

/-- The queue after one attempt was claimed and taken back by a
reconciliation. -/
def lateRequeued : Database :=
  performAll lateQueue
    [.claim "item".toList (lateStart (repeatedUuid 3)),
      .reconcile "item".toList (repeatedUuid 1) "build".toList ⟨2, []⟩ [] []]

/-- The queue after another attempt was claimed. -/
def lateReclaimed : Database :=
  perform lateRequeued (.claim "item".toList (lateStart (repeatedUuid 4)))

/-- The later attempt. -/
def lateAttempt : ClaimedInvokeAgentStart where
  workItemId := "item".toList
  agentExecutionId := repeatedUuid 4
  sessionGenerationId := some "session".toList
  artifactClaimKey :=
    startedKey (repeatedUuid 1) (repeatedUuid 2) (repeatedUuid 4) "item".toList

/-- The requeue that the first worker makes after waiting for its provider. -/
def lateCapacityWait : QueueAction :=
  .providerCapacityWait "item".toList
    (startedKey (repeatedUuid 1) (repeatedUuid 2) (repeatedUuid 3) "item".toList)
    ⟨3, []⟩ "provider_capacity".toList

theorem claim_lateRequeued :
    claimInvokeAgentWorkItemWithStart lateRequeued "item".toList
      (lateStart (repeatedUuid 4)) = .ok (lateReclaimed, some lateAttempt) := by
  rfl

/-- The first worker can no longer complete the item. -/
theorem stale_attempt_fenced_complete :
    LeavesAttempt lateReclaimed
      (perform lateReclaimed
        (.complete "item".toList (some (repeatedUuid 3)) ⟨4, []⟩))
      "item".toList lateAttempt.artifactClaimKey :=
  (stale_attempt_fenced_iff lateRequeued lateReclaimed "item".toList
    (repeatedUuid 3) (lateStart (repeatedUuid 4)) lateAttempt []
    (.complete "item".toList (some (repeatedUuid 3)) ⟨4, []⟩) (by decide +kernel)
    claim_lateRequeued (by decide) ⟨rfl, rfl⟩).2 id

/-- The first worker still takes the item back after waiting for its provider:
the running item becomes pending and loses the claim of the later attempt, whose
row stays active. -/
theorem late_capacity_wait_takes_item :
    (lateRequeued.agentExecutions.find (repeatedUuid 3)).isSome = true ∧
      claimInvokeAgentWorkItemWithStart lateRequeued "item".toList
        (lateStart (repeatedUuid 4)) = .ok (lateReclaimed, some lateAttempt) ∧
      lateAttempt.agentExecutionId ≠ repeatedUuid 3 ∧
      OnBehalfOf "item".toList (repeatedUuid 3) lateCapacityWait ∧
      ¬LeavesAttempt lateReclaimed (perform lateReclaimed lateCapacityWait)
        "item".toList lateAttempt.artifactClaimKey := by
  refine ⟨by decide +kernel, claim_lateRequeued, by decide, ⟨rfl, rfl⟩, ?_⟩
  rintro ⟨hitem, _⟩
  obtain ⟨hbefore, hafter⟩ :
      (lateReclaimed.workItems.find "item".toList).map (·.status) = some .running ∧
        ((perform lateReclaimed lateCapacityWait).workItems.find
          "item".toList).map (·.status) = some .pending := by
    decide +kernel
  have hstatus := congrArg (Option.map Prod.fst) hitem
  simp only [Option.map_map, Function.comp_def] at hstatus
  rw [hbefore, hafter] at hstatus
  cases hstatus

end LateWorker

end ChainworksForge.Queue
