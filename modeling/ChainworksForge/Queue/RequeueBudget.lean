import ChainworksForge.Queue.AttemptFencing
import ChainworksForge.Queue.Loops

/-!
# The budget of the startup requeue

A startup that finds an invocation running consumes the only requeue generation
of the item and its command, and records that.  A later startup that finds the
item running under the same command repeats the recorded generation if the
payload or the notes of the record are those of that generation, and otherwise
fails the item.
-/

namespace ChainworksForge.Queue

open ChainworksForge.Support

/-! ## Histories and their log -/

/-- What happens to the tables: an action of the queue, a new item or a new
command. -/
inductive QueueEvent where
  | act (action : QueueAction)
  | enqueue (item : WorkItem)
  | command (entry : CommandJournalEntry)

/-- The tables after an event. -/
def occur (db : Database) : QueueEvent → Database
  | .act action => perform db action
  | .enqueue item => { db with workItems := db.workItems.insertOrIgnore item }
  | .command entry =>
      { db with commandJournal := db.commandJournal.insertOrIgnore entry }

/-- An item that a startup found running: the tables before it was handled, the
decision, and the tables that the startup left. -/
structure StartupEntry where
  before : Database
  item : WorkItem
  decision : StartupDecision
  after : Database

namespace StartupDecision

/-- The command that a decision is about. -/
def journal : StartupDecision → Option Text
  | plain => none
  | once journalId _ | replay journalId | exhausted journalId => some journalId

/-- The command whose generation a decision consumes. -/
def consumes : StartupDecision → Option Text
  | once journalId _ => some journalId
  | plain | replay _ | exhausted _ => none

/-- The state that a decision leaves the item in. -/
def outcome : StartupDecision → WorkItemStatus
  | exhausted _ => .failed
  | plain | once _ _ | replay _ => .pending

end StartupDecision

/-- The decision for an item, read from the tables after its claim was taken
back. -/
def decisionFor (scheduledAt : Instant) (db : Database) (item : WorkItem) :
    Except Text StartupDecision := do
  let payload := item.payload.getD (.object [])
  startupDecision (supersedeAbandonedPreclaimForRetry db item.id payload scheduledAt)
    item payload item.runId

/-- The entries of a startup over the items it has fetched. -/
def startupLog (scheduledAt : Instant) (reason : Text) (after : Database) :
    List WorkItem → Database → List StartupEntry
  | [], _ => []
  | item :: rest, db =>
      match decisionFor scheduledAt db item,
          startupRequeueItem scheduledAt reason db item with
      | .ok decision, .ok handled =>
          ⟨db, item, decision, after⟩ ::
            startupLog scheduledAt reason after rest handled
      | _, _ => []

/-- The entries of an event; only a startup that is committed has any. -/
def eventLog (db : Database) : QueueEvent → List StartupEntry
  | .act (.startupRequeue scheduledAt reason) =>
      match requeueRunningInvokeAgentOnStartup db scheduledAt reason with
      | .error _ => []
      | .ok after =>
          startupLog scheduledAt reason after
            (runningInvokes db (startupRequeueSelects db)) db
  | _ => []

/-- The entries of a history. -/
def historyLog (db : Database) : List QueueEvent → List StartupEntry
  | [] => []
  | event :: rest => eventLog db event ++ historyLog (occur db event) rest

/-! ## One item -/

section Item

variable {db db' : Database} {item : WorkItem} {scheduledAt : Instant}
  {reason journalId itemId : Text}

/-- The generation of an item and a command was consumed. -/
def Consumed (db : Database) (journalId itemId : Text) : Prop :=
  (db.startupRepairs.find (startupRepairId journalId itemId)).isSome = true

/-- Whether the payload of an item or the notes of its record are those of the
consumed generation. -/
def repeatsGeneration (db : Database) (journalId : Text) (item : WorkItem) : Bool :=
  isStampedReplay (startupRepairId journalId item.id) item.id
      (item.payload.getD (.object [])) ||
    (db.startupRepairs.find (startupRepairId journalId item.id)).any fun repair =>
      repair.notes.any
        (isRequeueOnceReplay (startupRepairId journalId item.id) item.id)

theorem supersedeAbandoned_startupRepairs (itemId : Text) (payload : Json)
    (settledAt : Instant) :
    (supersedeAbandonedPreclaimForRetry db itemId payload settledAt).startupRepairs =
      db.startupRepairs := by
  rw [supersedeAbandonedPreclaimForRetry]
  cases claimedAgent payload with
  | none => rfl
  | some agent => cases claimedKey payload <;> rfl

/-- A decision consumes a generation that is free; a decision about a consumed
one repeats it or is the end of the item. -/
theorem startupDecision_cases {payload : Json} {runId : Option Uuid}
    {decision : StartupDecision}
    (hdecision : startupDecision db item payload runId = .ok decision) :
    decision = .plain ∨
      (∃ journalId integrity, decision = .once journalId integrity ∧
        ¬Consumed db journalId item.id) ∨
      ∃ journalId repair notes,
        db.startupRepairs.find (startupRepairId journalId item.id) = some repair ∧
          repair.notes = some notes ∧
          decision = if isStampedReplay (startupRepairId journalId item.id) item.id
                payload ∨
              isRequeueOnceReplay (startupRepairId journalId item.id) item.id notes
            then .replay journalId else .exhausted journalId := by
  rw [startupDecision] at hdecision
  generalize p082ResolveSourceCommandJournalId db payload runId = resolved at hdecision
  obtain ⟨journal, integrity⟩ := resolved
  cases journal with
  | none => exact .inl ((pure_eq_ok_iff _ _).1 hdecision).symm
  | some journalId =>
      simp only at hdecision
      cases hfind : db.startupRepairs.find (startupRepairId journalId item.id) with
      | none =>
          rw [hfind] at hdecision
          refine .inr (.inl ⟨journalId, integrity,
            ((pure_eq_ok_iff _ _).1 hdecision).symm, ?_⟩)
          rw [Consumed, hfind]
          exact Bool.false_ne_true
      | some repair =>
          rw [hfind] at hdecision
          obtain ⟨notes, hnotes, hdecision⟩ := (bind_eq_ok_iff _ _ _).1 hdecision
          refine .inr (.inr ⟨journalId, repair, notes, hfind,
            (required_eq_ok_iff _ _ _).1 hnotes, ?_⟩)
          split_ifs at hdecision ⊢ <;> exact ((pure_eq_ok_iff _ _).1 hdecision).symm

/-- Handling an item carries out its decision. -/
theorem startupRequeueItem_eq_ok_iff :
    startupRequeueItem scheduledAt reason db item = .ok db' ↔
      ∃ decision, decisionFor scheduledAt db item = .ok decision ∧
        applyStartupDecision
          (supersedeAbandonedPreclaimForRetry db item.id
            (item.payload.getD (.object [])) scheduledAt)
          item (item.payload.getD (.object [])) item.runId scheduledAt reason decision =
            db' := by
  rw [startupRequeueItem, bind_eq_ok_iff]
  simp only [pure_eq_ok_iff]
  rfl

/-- Handling an item keeps the records of consumed generations. -/
theorem Consumed.handled {otherId : Text}
    (hconsumed : Consumed db journalId otherId)
    (hhandled : startupRequeueItem scheduledAt reason db item = .ok db') :
    Consumed db' journalId otherId :=
  (startupRequeueItem_evolves hhandled : Evolves (Unused db) db db').repairs _ hconsumed

theorem settleHostCleanup_startupRepairs (itemId : Text) (agent : Option Text)
    (now : Instant) :
    Table.KeepsKeys db.startupRepairs
      (settleHostCleanupAfterStartupRequeue db itemId agent now).startupRepairs :=
  (settleHostCleanupAfterStartupRequeue_evolves db itemId agent now :
    Evolves (Unused db) db _).repairs

/-- A decision that consumes a generation leaves its record. -/
theorem consumed_of_decision {decision : StartupDecision}
    (hhandled : startupRequeueItem scheduledAt reason db item = .ok db')
    (hdecision : decisionFor scheduledAt db item = .ok decision)
    (hconsumes : decision.consumes = some journalId) :
    Consumed db' journalId item.id := by
  obtain ⟨taken, htaken, rfl⟩ := startupRequeueItem_eq_ok_iff.1 hhandled
  obtain rfl : taken = decision := by
    rw [hdecision] at htaken
    exact (Except.ok.inj htaken).symm
  cases taken with
  | once recorded integrity =>
      obtain rfl : recorded = journalId := Option.some.inj hconsumes
      refine settleHostCleanup_startupRepairs item.id _ scheduledAt _ ?_
      change ((Table.insertOrIgnore _ _).find _).isSome = true
      rw [Table.find_insertOrIgnore]
      simp
  | plain | replay _ | exhausted _ => cases hconsumes

/-- What a decision says about the record of its command. -/
theorem decisionFor_spec {decision : StartupDecision}
    (hdecision : decisionFor scheduledAt db item = .ok decision)
    (hjournal : decision.journal = some journalId) :
    (Consumed db journalId item.id → decision.consumes = none) ∧
      (decision.consumes = none →
        decision = if repeatsGeneration db journalId item then .replay journalId
          else .exhausted journalId) := by
  rcases startupDecision_cases hdecision with
    rfl | ⟨recorded, integrity, rfl, hfree⟩ | ⟨recorded, repair, notes, hfind, hnotes, rfl⟩
  · cases hjournal
  · obtain rfl : recorded = journalId := Option.some.inj hjournal
    rw [Consumed, supersedeAbandoned_startupRepairs] at hfree
    exact ⟨fun hconsumed => absurd hconsumed hfree, fun h => by cases h⟩
  · rw [supersedeAbandoned_startupRepairs] at hfind
    obtain rfl : recorded = journalId := by
      split_ifs at hjournal <;> exact Option.some.inj hjournal
    have hrepeats : repeatsGeneration db recorded item = true ↔
        isStampedReplay (startupRepairId recorded item.id) item.id
            (item.payload.getD (.object [])) = true ∨
          isRequeueOnceReplay (startupRepairId recorded item.id) item.id notes =
            true := by
      simp [repeatsGeneration, hfind, hnotes]
    simp only [hrepeats]
    refine ⟨fun _ => ?_, fun _ => trivial⟩
    split_ifs <;> rfl

/-- The state in which handling leaves an item that was fetched running. -/
theorem status_of_handled {decision : StartupDecision}
    (hfound : db.workItems.find item.id = some item) (hrunning : item.status = .running)
    (hhandled : startupRequeueItem scheduledAt reason db item = .ok db')
    (hdecision : decisionFor scheduledAt db item = .ok decision) :
    (db'.workItems.find item.id).map (·.status) = some decision.outcome := by
  obtain ⟨taken, htaken, rfl⟩ := startupRequeueItem_eq_ok_iff.1 hhandled
  obtain rfl : taken = decision := by
    rw [hdecision] at htaken
    exact (Except.ok.inj htaken).symm
  have hrequeued (db : Database) (stamp : Stamp)
      (hfound : db.workItems.find item.id = some item) :
      ((requeueOnStartup db item.id (item.payload.getD (.object [])) stamp reason
        scheduledAt).workItems.find item.id).map (·.status) = some .pending := by
    rw [requeueOnStartup, settleHostCleanup_workItems, requeueRunning,
      Table.find_update, hfound]
    simp [hrunning]
  rw [← supersedeAbandoned_workItems item.id (item.payload.getD (.object []))
    scheduledAt] at hfound
  cases taken with
  | plain => exact hrequeued _ _ hfound
  | once journalId integrity => exact hrequeued _ _ hfound
  | replay journalId => exact hrequeued _ _ hfound
  | exhausted journalId =>
      rw [applyStartupDecision, failExhausted, Table.find_update]
      simp only [updateRepairNotes, hfound, Option.map_some]
      rw [if_pos (decide_eq_true ⟨trivial, hrunning⟩)]
      rfl

end Item

/-! ## One startup -/

section Startup

variable {scheduledAt : Instant} {reason : Text} {after : Database}

/-- The log of a loop that ends well lists every fetched item. -/
theorem startupLog_cons (after : Database) {item : WorkItem}
    {rest : List WorkItem} {db final : Database}
    (hloop : (item :: rest).foldlM (startupRequeueItem scheduledAt reason) db =
      .ok final) :
    ∃ decision handled, decisionFor scheduledAt db item = .ok decision ∧
      startupRequeueItem scheduledAt reason db item = .ok handled ∧
      rest.foldlM (startupRequeueItem scheduledAt reason) handled = .ok final ∧
      startupLog scheduledAt reason after (item :: rest) db =
        ⟨db, item, decision, after⟩ ::
          startupLog scheduledAt reason after rest handled := by
  rw [List.foldlM_cons] at hloop
  obtain ⟨handled, hhandled, hrest⟩ := (bind_eq_ok_iff _ _ _).1 hloop
  obtain ⟨decision, hdecision, _⟩ := startupRequeueItem_eq_ok_iff.1 hhandled
  refine ⟨decision, handled, hdecision, hhandled, hrest, ?_⟩
  rw [startupLog, hdecision, hhandled]

/-- A decision comes from the tables before its item was handled. -/
theorem decisionFor_of_mem_startupLog {items : List WorkItem} {db final : Database}
    (hloop : items.foldlM (startupRequeueItem scheduledAt reason) db = .ok final)
    {entry : StartupEntry} (hentry : entry ∈ startupLog scheduledAt reason after items db) :
    decisionFor scheduledAt entry.before entry.item = .ok entry.decision := by
  induction items generalizing db with
  | nil => cases hentry
  | cons item rest ih =>
      obtain ⟨decision, handled, hdecision, hhandled, hrest, hlog⟩ :=
        startupLog_cons after hloop
      rw [hlog] at hentry
      rcases List.mem_cons.1 hentry with rfl | hentry
      · exact hdecision
      · exact ih hrest hentry

theorem after_of_mem_startupLog {items : List WorkItem} {db : Database}
    {entry : StartupEntry}
    (hentry : entry ∈ startupLog scheduledAt reason after items db) :
    entry.after = after := by
  induction items generalizing db with
  | nil => cases hentry
  | cons item rest ih =>
      rw [startupLog] at hentry
      split at hentry
      · rcases List.mem_cons.1 hentry with rfl | hentry
        · rfl
        · exact ih hentry
      · cases hentry

/-- No entry consumes a generation that was consumed before the loop. -/
theorem consumes_ne_of_consumed {items : List WorkItem} {db final : Database}
    (hloop : items.foldlM (startupRequeueItem scheduledAt reason) db = .ok final)
    {journalId : Text} {entry : StartupEntry}
    (hconsumed : Consumed db journalId entry.item.id)
    (hentry : entry ∈ startupLog scheduledAt reason after items db) :
    entry.decision.consumes ≠ some journalId := by
  induction items generalizing db with
  | nil => cases hentry
  | cons item rest ih =>
      obtain ⟨decision, handled, hdecision, hhandled, hrest, hlog⟩ :=
        startupLog_cons after hloop
      rw [hlog] at hentry
      rcases List.mem_cons.1 hentry with rfl | hentry
      · intro hconsumes
        have hjournal : decision.journal = some journalId := by
          cases decision with
          | once _ _ => exact hconsumes
          | plain | replay _ | exhausted _ => cases hconsumes
        have hnone := (decisionFor_spec hdecision hjournal).1 hconsumed
        rw [hnone] at hconsumes
        cases hconsumes
      · exact ih hrest (hconsumed.handled hhandled) hentry

theorem Consumed.loop {items : List WorkItem} {db final : Database}
    {journalId itemId : Text} (hconsumed : Consumed db journalId itemId)
    (hloop : items.foldlM (startupRequeueItem scheduledAt reason) db = .ok final) :
    Consumed final journalId itemId :=
  foldlM_preserves (P := fun db => Consumed db journalId itemId)
    (fun _ _ _ _ h hhandled => h.handled hhandled) hconsumed hloop

/-- What an entry consumes stays consumed. -/
theorem consumed_of_mem_startupLog {items : List WorkItem} {db final : Database}
    (hloop : items.foldlM (startupRequeueItem scheduledAt reason) db = .ok final)
    {journalId : Text} {entry : StartupEntry}
    (hentry : entry ∈ startupLog scheduledAt reason after items db)
    (hconsumes : entry.decision.consumes = some journalId) :
    Consumed final journalId entry.item.id := by
  induction items generalizing db with
  | nil => cases hentry
  | cons item rest ih =>
      obtain ⟨decision, handled, hdecision, hhandled, hrest, hlog⟩ :=
        startupLog_cons after hloop
      rw [hlog] at hentry
      rcases List.mem_cons.1 hentry with rfl | hentry
      · exact (consumed_of_decision hhandled hdecision hconsumes).loop hrest
      · exact ih hrest hentry

/-- The second entry does not consume what the first one has consumed. -/
def NotAgain (earlier later : StartupEntry) : Prop :=
  earlier.item.id = later.item.id →
    ∀ journalId, earlier.decision.consumes = some journalId →
      later.decision.consumes ≠ some journalId

theorem startupLog_pairwise {items : List WorkItem} {db final : Database}
    (hloop : items.foldlM (startupRequeueItem scheduledAt reason) db = .ok final) :
    (startupLog scheduledAt reason after items db).Pairwise NotAgain := by
  induction items generalizing db with
  | nil => exact .nil
  | cons item rest ih =>
      obtain ⟨decision, handled, hdecision, hhandled, hrest, hlog⟩ :=
        startupLog_cons after hloop
      rw [hlog, List.pairwise_cons]
      refine ⟨fun later hlater hsame journalId hconsumes => ?_, ih hrest⟩
      have hconsumed := consumed_of_decision hhandled hdecision hconsumes
      rw [hsame] at hconsumed
      exact consumes_ne_of_consumed hrest hconsumed hlater

/-- Every entry found its item running and left it as the decision says. -/
theorem startupLog_outcome {items : List WorkItem} {db final : Database}
    (hdistinct : (items.map WorkItem.id).Nodup)
    (hfetched : ∀ item ∈ items,
      db.workItems.find item.id = some item ∧ item.status = .running)
    (hloop : items.foldlM (startupRequeueItem scheduledAt reason) db = .ok final)
    {entry : StartupEntry}
    (hentry : entry ∈ startupLog scheduledAt reason after items db) :
    entry.before.workItems.find entry.item.id = some entry.item ∧
      entry.item.status = .running ∧
      (final.workItems.find entry.item.id).map (·.status) =
        some entry.decision.outcome := by
  induction items generalizing db with
  | nil => cases hentry
  | cons item rest ih =>
      obtain ⟨decision, handled, hdecision, hhandled, hrest, hlog⟩ :=
        startupLog_cons after hloop
      obtain ⟨hfresh, hdistinct⟩ := List.nodup_cons.1 hdistinct
      have hother (other : WorkItem) (hmem : other ∈ rest) : item.id ≠ other.id :=
        fun hsame => hfresh (hsame ▸ List.mem_map_of_mem hmem)
      rw [hlog] at hentry
      rcases List.mem_cons.1 hentry with rfl | hentry
      · obtain ⟨hfound, hrunning⟩ := hfetched item List.mem_cons_self
        refine ⟨hfound, hrunning, ?_⟩
        -- The later iterations are about other items.
        have hkept : final.workItems.find item.id = handled.workItems.find item.id :=
          foldlM_preserves (P := fun db : Database =>
              db.workItems.find item.id = handled.workItems.find item.id)
            (fun _ other _ hmem h hstep =>
              (startupRequeueItem_find_of_ne hstep (hother other hmem)).trans h)
            rfl hrest
        rw [hkept]
        exact status_of_handled hfound hrunning hhandled hdecision
      · refine ih hdistinct (fun other hmem => ?_) hrest hentry
        obtain ⟨hfound, hrunning⟩ := hfetched other (List.mem_cons_of_mem _ hmem)
        rw [startupRequeueItem_find_of_ne hhandled (hother other hmem).symm]
        exact ⟨hfound, hrunning⟩

end Startup

/-! ## Histories -/

section History

variable {db : Database} {event : QueueEvent} {entry : StartupEntry}

/-- The entries of an event are those of a startup that is committed. -/
theorem eventLog_cases (hentry : entry ∈ eventLog db event) :
    ∃ scheduledAt reason, event = .act (.startupRequeue scheduledAt reason) ∧
      requeueRunningInvokeAgentOnStartup db scheduledAt reason =
        .ok (occur db event) ∧
      eventLog db event =
        startupLog scheduledAt reason (occur db event)
          (runningInvokes db (startupRequeueSelects db)) db := by
  cases event with
  | enqueue item => cases hentry
  | command journalEntry => cases hentry
  | act action =>
      cases action with
      | startupRequeue scheduledAt reason =>
          simp only [eventLog, occur, perform] at hentry ⊢
          cases hstartup : requeueRunningInvokeAgentOnStartup db scheduledAt reason with
          | error e =>
              rw [hstartup] at hentry
              cases hentry
          | ok after => exact ⟨scheduledAt, reason, rfl, hstartup, rfl⟩
      | claim _ _ | complete _ _ _ | fail _ _ _ _ | transientRequeue _ _ _ _ =>
          cases hentry
      | activePromptClose _ _ _ _ _ | providerCapacityWait _ _ _ _ => cases hentry
      | stageRequeue _ _ _ _ | reconcile _ _ _ _ _ _ => cases hentry
      | hostInterruption _ _ _ _ _ | stalePreSession _ _ _ => cases hentry
      | staleStarting _ _ _ => cases hentry

theorem Consumed.kept {journalId itemId : Text}
    (hconsumed : Consumed db journalId itemId) (event : QueueEvent) :
    Consumed (occur db event) journalId itemId := by
  cases event with
  | act action => exact (perform_evolves db action).repairs _ hconsumed
  | enqueue item => exact hconsumed
  | command journalEntry => exact hconsumed

theorem consumes_ne_of_mem_historyLog {journalId : Text} {events : List QueueEvent}
    (hconsumed : Consumed db journalId entry.item.id)
    (hentry : entry ∈ historyLog db events) :
    entry.decision.consumes ≠ some journalId := by
  induction events generalizing db with
  | nil => cases hentry
  | cons event rest ih =>
      rcases List.mem_append.1 hentry with hnow | hlater
      · obtain ⟨scheduledAt, reason, _, hloop, hlog⟩ := eventLog_cases hnow
        rw [hlog] at hnow
        exact consumes_ne_of_consumed hloop hconsumed hnow
      · exact ih (hconsumed.kept event) hlater

theorem eventLog_pairwise : (eventLog db event).Pairwise NotAgain := by
  rcases List.eq_nil_or_concat (eventLog db event) with hnil | ⟨_, last, hlast⟩
  · rw [hnil]
    exact .nil
  · have hmem : last ∈ eventLog db event := by simp [hlast]
    obtain ⟨scheduledAt, reason, _, hloop, hlog⟩ := eventLog_cases hmem
    rw [hlog]
    exact startupLog_pairwise hloop

theorem historyLog_pairwise (db : Database) (events : List QueueEvent) :
    (historyLog db events).Pairwise NotAgain := by
  induction events generalizing db with
  | nil => exact .nil
  | cons event rest ih =>
      rw [historyLog, List.pairwise_append]
      refine ⟨eventLog_pairwise, ih (occur db event), ?_⟩
      intro earlier hearlier later hlater hsame journalId hconsumes
      obtain ⟨scheduledAt, reason, _, hloop, hlog⟩ := eventLog_cases hearlier
      rw [hlog] at hearlier
      have hconsumed := consumed_of_mem_startupLog hloop hearlier hconsumes
      rw [hsame] at hconsumed
      exact consumes_ne_of_mem_historyLog hconsumed hlater

/-- No two entries of a history that is told apart by a condition hold it. -/
theorem length_filter_le_one {α : Type} {R : α → α → Prop} {p : α → Bool}
    {l : List α} (hpairwise : l.Pairwise R)
    (hclash : ∀ a b, R a b → p a = true → ¬p b = true) :
    (l.filter p).length ≤ 1 := by
  have hfiltered := hpairwise.filter p
  match hkept : l.filter p with
  | [] => simp
  | [_] => simp
  | a :: b :: rest =>
      rw [hkept] at hfiltered
      have ha : p a = true := (List.mem_filter.1 (hkept ▸ List.mem_cons_self)).2
      have hb : p b = true := by
        have hmem : b ∈ l.filter p := by simp [hkept]
        exact (List.mem_filter.1 hmem).2
      have hab : R a b := (List.pairwise_cons.1 hfiltered).1 b List.mem_cons_self
      exact absurd hb (hclash a b hab ha)

/-- An entry of a history is an entry of one of its events. -/
theorem exists_event_of_mem_historyLog {events : List QueueEvent}
    (hentry : entry ∈ historyLog db events) :
    ∃ db' event, entry ∈ eventLog db' event := by
  induction events generalizing db with
  | nil => cases hentry
  | cons event rest ih =>
      rcases List.mem_append.1 hentry with hnow | hlater
      · exact ⟨db, event, hnow⟩
      · exact ih hlater

end History

/-! ## The main result -/

/-- The budget of a log.  For each command and item, one entry at most consumes
the generation.  An entry about a command whose generation it does not consume
repeats the generation if the payload or the record says so, and otherwise is
the end of the item.  Every entry found its item running and left it pending,
or failed if the generation is exhausted. -/
structure WithinBudget (log : List StartupEntry) : Prop where
  once : ∀ journalId itemId, (log.filter fun entry =>
    entry.item.id = itemId ∧ entry.decision.consumes = some journalId).length ≤ 1
  afterwards : ∀ entry ∈ log, ∀ journalId, entry.decision.journal = some journalId →
    entry.decision.consumes = none →
      entry.decision = if repeatsGeneration entry.before journalId entry.item then
        .replay journalId else .exhausted journalId
  outcome : ∀ entry ∈ log,
    entry.before.workItems.find entry.item.id = some entry.item ∧
      entry.item.status = .running ∧
      (entry.after.workItems.find entry.item.id).map (·.status) =
        some entry.decision.outcome

/-- Every history of crashes, startups, claims and other events of the queue
keeps within the budget of the startup requeue. -/
theorem startup_requeue_within_budget (db : Database) (events : List QueueEvent) :
    WithinBudget (historyLog db events) where
  once := by
    intro journalId itemId
    refine length_filter_le_one (historyLog_pairwise db events) ?_
    intro earlier later hnot hearlier hlater
    obtain ⟨rfl, hconsumes⟩ := of_decide_eq_true hearlier
    obtain ⟨hsame, hagain⟩ := of_decide_eq_true hlater
    exact hnot hsame.symm journalId hconsumes hagain
  afterwards := by
    intro entry hentry journalId hjournal hfree
    obtain ⟨db', event, hmem⟩ := exists_event_of_mem_historyLog hentry
    obtain ⟨scheduledAt, reason, _, hloop, hlog⟩ := eventLog_cases hmem
    rw [hlog] at hmem
    exact (decisionFor_spec (decisionFor_of_mem_startupLog hloop hmem) hjournal).2 hfree
  outcome := by
    intro entry hentry
    obtain ⟨db', event, hmem⟩ := exists_event_of_mem_historyLog hentry
    obtain ⟨scheduledAt, reason, _, hloop, hlog⟩ := eventLog_cases hmem
    rw [hlog] at hmem
    have hfetched (item : WorkItem)
        (hitem : item ∈ runningInvokes db' (startupRequeueSelects db')) :
        db'.workItems.find item.id = some item ∧ item.status = .running :=
      ⟨find_of_mem_runningInvokes hitem, (mem_runningInvokes.1 hitem).2.2.1⟩
    have hafter : entry.after = occur db' event := after_of_mem_startupLog hmem
    rw [hafter]
    exact startupLog_outcome nodup_runningInvokes hfetched hloop hmem

section Restarts

/-- A queue with a pending invocation and the command it came from. -/
def restartQueue : Database :=
  { lateQueue with
    commandJournal := ⟨[⟨"journal".toList, some (repeatedUuid 1), ⟨0, []⟩⟩],
      List.nodup_singleton _⟩ }

/-- A daemon that crashes twice while it runs the invocation. -/
def restartEvents : List QueueEvent :=
  [.act (.claim "item".toList (lateStart (repeatedUuid 3))),
    .act (.startupRequeue ⟨2, []⟩ []),
    .act (.claim "item".toList (lateStart (repeatedUuid 4))),
    .act (.startupRequeue ⟨3, []⟩ [])]

/-- Both startups return the invocation to the queue under the same command: the
second one repeats the recorded generation. -/
theorem second_startup_requeues_again :
    ¬((historyLog restartQueue restartEvents).filter fun entry =>
      entry.item.id = "item".toList ∧
        entry.decision.journal = some "journal".toList ∧
        entry.decision.outcome = .pending).length ≤ 1 := by
  decide +kernel

end Restarts

end ChainworksForge.Queue
