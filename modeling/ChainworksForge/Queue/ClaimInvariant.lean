import ChainworksForge.Queue.AttemptFencing
import ChainworksForge.Queue.Loops

/-!
# Items and their claims

A running invocation carries the record of its claim, which is active, and no
item has two active claims.  A pending invocation has no claim, unless it was
returned to the queue because the database was busy: such an item keeps its
claim, and the next worker resumes it.
-/

namespace ChainworksForge.Queue

open ChainworksForge.Support

/-! ## The invariant -/

/-- The claims, by their primary keys. -/
abbrev Claims := Table ArtifactSourceGenerationClaim.primaryKey

/-- The claim with a primary key is active. -/
def Active (claims : Claims) (key : ClaimPrimaryKey) : Prop :=
  ∃ claim, claims.find key = some claim ∧ claim.claimState = .active

section Invariant

variable (db : Database)

/-- An item without a claim: its payload has no record of one, and no claim of it
is active. -/
structure Unclaimed (item : WorkItem) : Prop where
  record : item.payload.bind claimedRecord = none
  inactive : ∀ key, Active db.claims key → key.sourceWorkItemId ≠ item.id

/-- An item whose payload names an active claim of it. -/
def Claimed (item : WorkItem) : Prop :=
  ∃ key, item.payload.bind claimedKey = some key ∧
    item.claimant = some key.agentExecutionId.text ∧
    key.sourceWorkItemId = item.id ∧ Active db.claims key.primaryKey

/-- What the claims of the queue satisfy.  The items that may be pending with
their claim are given. -/
structure ClaimInvariant (kept : Text → Prop) : Prop where
  running : ∀ id item, db.workItems.find id = some item → item.kind = .invokeAgent →
    item.status = .running → Claimed db item
  pending : ∀ id item, db.workItems.find id = some item → item.kind = .invokeAgent →
    item.status = .pending → Unclaimed db item ∨ kept id ∧ Claimed db item
  single : ∀ key key', Active db.claims key → Active db.claims key' →
    key.sourceWorkItemId = key'.sourceWorkItemId → key = key'

end Invariant

/-! ## A step that is about one item -/

section Shrink

variable {claims claims' : Claims} {id : Text}

/-- A change of the claims of one item that makes none of them active. -/
structure ClaimsShrink (claims claims' : Claims) (id : Text) : Prop where
  shrinks : ∀ key, Active claims' key → Active claims key
  others : ∀ key, key.sourceWorkItemId ≠ id → Active claims key → Active claims' key

theorem ClaimsShrink.refl (claims : Claims) (id : Text) : ClaimsShrink claims claims id :=
  ⟨fun _ h => h, fun _ _ h => h⟩

theorem ClaimsShrink.trans {claims'' : Claims} (h₁ : ClaimsShrink claims claims' id)
    (h₂ : ClaimsShrink claims' claims'' id) : ClaimsShrink claims claims'' id :=
  ⟨fun key h => h₁.shrinks key (h₂.shrinks key h),
    fun key hne h => h₂.others key hne (h₁.others key hne h)⟩

/-- Changing claims of one item so that the changed ones are not active. -/
theorem claimsShrink_update {condition : ArtifactSourceGenerationClaim → Bool}
    {change : ArtifactSourceGenerationClaim → ArtifactSourceGenerationClaim}
    (hcondition : ∀ claim, condition claim = true → claim.key.sourceWorkItemId = id)
    (hchange : ∀ claim, (change claim).claimState ≠ .active)
    (hkey : ∀ claim, (change claim).primaryKey = claim.primaryKey) :
    ClaimsShrink claims (claims.update condition change hkey) id := by
  constructor
  · rintro key ⟨claim, hfind, hactive⟩
    rw [Table.find_update] at hfind
    obtain ⟨old, hold, rfl⟩ := Option.map_eq_some_iff.1 hfind
    by_cases hchanged : condition old = true
    · rw [if_pos hchanged] at hactive
      exact absurd hactive (hchange old)
    · rw [if_neg hchanged] at hactive
      exact ⟨old, hold, hactive⟩
  · rintro key hne ⟨claim, hfind, hactive⟩
    have hprimary : claim.primaryKey = key := (claims.find_eq_some_iff.1 hfind).2
    have hother : ¬condition claim = true := by
      intro hchanged
      refine hne ?_
      rw [← hprimary]
      exact hcondition claim hchanged
    refine ⟨claim, ?_, hactive⟩
    rw [Table.find_update, hfind, Option.map_some, if_neg hother]

/-- A claim that is changed if it is active is not active afterwards. -/
theorem inactive_update {key : ClaimPrimaryKey}
    {condition : ArtifactSourceGenerationClaim → Bool}
    {change : ArtifactSourceGenerationClaim → ArtifactSourceGenerationClaim}
    (hcondition : ∀ claim, claim.primaryKey = key → claim.claimState = .active →
      condition claim = true)
    (hchange : ∀ claim, (change claim).claimState ≠ .active)
    (hkey : ∀ claim, (change claim).primaryKey = claim.primaryKey) :
    ¬Active (claims.update condition change hkey) key := by
  rintro ⟨claim, hfind, hactive⟩
  rw [Table.find_update] at hfind
  obtain ⟨old, hold, rfl⟩ := Option.map_eq_some_iff.1 hfind
  have hprimary : old.primaryKey = key := (claims.find_eq_some_iff.1 hold).2
  by_cases hchanged : condition old = true
  · rw [if_pos hchanged] at hactive
    exact hchange old hactive
  · rw [if_neg hchanged] at hactive
    exact hchanged (hcondition old hprimary hactive)

/-- A change that leaves the claims of the other items, after which the item has
at most one active claim. -/
structure ClaimsChange (claims claims' : Claims) (id : Text) : Prop where
  others : ∀ key, key.sourceWorkItemId ≠ id → (Active claims' key ↔ Active claims key)
  single : ∀ key key', Active claims' key → Active claims' key' →
    key.sourceWorkItemId = id → key'.sourceWorkItemId = id → key = key'

/-- Changing claims without changing which are active. -/
theorem active_update_iff {condition : ArtifactSourceGenerationClaim → Bool}
    {change : ArtifactSourceGenerationClaim → ArtifactSourceGenerationClaim}
    (hchange : ∀ claim, condition claim = true →
      ((change claim).claimState = .active ↔ claim.claimState = .active))
    (key : ClaimPrimaryKey)
    (hkey : ∀ claim, (change claim).primaryKey = claim.primaryKey) :
    Active (claims.update condition change hkey) key ↔ Active claims key := by
  have hrow (claim : ArtifactSourceGenerationClaim) :
      (if condition claim then change claim else claim).claimState = .active ↔
        claim.claimState = .active := by
    by_cases hchanged : condition claim = true
    · rw [if_pos hchanged]
      exact hchange claim hchanged
    · rw [if_neg hchanged]
  rw [Active, Active, Table.find_update]
  constructor
  · rintro ⟨claim, hfind, hactive⟩
    obtain ⟨old, hold, rfl⟩ := Option.map_eq_some_iff.1 hfind
    exact ⟨old, hold, (hrow old).1 hactive⟩
  · rintro ⟨claim, hfind, hactive⟩
    exact ⟨_, by rw [hfind, Option.map_some], (hrow claim).2 hactive⟩

/-- A new active claim. -/
theorem active_insert_iff {claim : ArtifactSourceGenerationClaim}
    (hinsert : claims.insert claim = some claims') (hactive : claim.claimState = .active)
    (key : ClaimPrimaryKey) :
    Active claims' key ↔ key = claim.primaryKey ∨ Active claims key := by
  obtain ⟨hfree, rfl⟩ := claims.insert_eq_some_iff.1 hinsert
  rw [Active, Active, Table.find_add]
  by_cases hkey : claim.primaryKey = key
  · subst hkey
    simp [hactive]
  · simp [hkey, Ne.symm hkey]

end Shrink

section Step

variable {db db' : Database} {kept : Text → Prop} {id : Text} {item : WorkItem}

theorem ClaimsShrink.change (hshrink : ClaimsShrink db.claims db'.claims id)
    (h : ClaimInvariant db kept) : ClaimsChange db.claims db'.claims id where
  others := fun key hne => ⟨hshrink.shrinks key, hshrink.others key hne⟩
  single := fun key key' hactive hactive' hsource hsource' =>
    h.single key key' (hshrink.shrinks key hactive) (hshrink.shrinks key' hactive')
      (hsource.trans hsource'.symm)

theorem Claimed.of_other (hclaimed : Claimed db item)
    (hchange : ClaimsChange db.claims db'.claims id) (hne : item.id ≠ id) :
    Claimed db' item := by
  obtain ⟨key, hkey, hagent, hsource, hactive⟩ := hclaimed
  refine ⟨key, hkey, hagent, hsource, (hchange.others _ ?_).2 hactive⟩
  rintro rfl
  exact hne hsource.symm

theorem Unclaimed.of_other (hfree : Unclaimed db item)
    (hchange : ClaimsChange db.claims db'.claims id) (hne : item.id ≠ id) :
    Unclaimed db' item := by
  refine ⟨hfree.record, fun key hactive hsource => ?_⟩
  have hother : key.sourceWorkItemId ≠ id := hsource ▸ hne
  exact hfree.inactive key ((hchange.others key hother).1 hactive) hsource

/-- What has to be shown of the item that a step is about. -/
def StepAllows (kept : Text → Prop) (db' : Database) (id : Text) : Prop :=
  ∀ item, db'.workItems.find id = some item → item.kind = .invokeAgent →
    (item.status = .running → Claimed db' item) ∧
      (item.status = .pending → Unclaimed db' item ∨ kept id ∧ Claimed db' item)

/-- A step about one item, which leaves the others as they are or adds items that
are no invocations. -/
theorem ClaimInvariant.step (h : ClaimInvariant db kept)
    (hchange : ClaimsChange db.claims db'.claims id)
    (hothers : ∀ other item, other ≠ id → db'.workItems.find other = some item →
      db.workItems.find other = some item ∨ item.kind ≠ .invokeAgent)
    (hitem : StepAllows kept db' id) : ClaimInvariant db' kept where
  running := by
    intro other item hfind hinvoke hrunning
    by_cases hid : other = id
    · subst hid
      exact (hitem item hfind hinvoke).1 hrunning
    · rcases hothers other item hid hfind with hold | hkind
      · refine (h.running other item hold hinvoke hrunning).of_other hchange ?_
        rw [(db.workItems.find_eq_some_iff.1 hold).2]
        exact hid
      · exact absurd hinvoke hkind
  pending := by
    intro other item hfind hinvoke hpending
    by_cases hid : other = id
    · subst hid
      exact (hitem item hfind hinvoke).2 hpending
    · rcases hothers other item hid hfind with hold | hkind
      · have hne : item.id ≠ id := by
          rw [(db.workItems.find_eq_some_iff.1 hold).2]
          exact hid
        exact (h.pending other item hold hinvoke hpending).imp
          (fun hfree => hfree.of_other hchange hne)
          (fun hclaimed => ⟨hclaimed.1, hclaimed.2.of_other hchange hne⟩)
      · exact absurd hinvoke hkind
  single := by
    intro key key' hactive hactive' hsame
    by_cases hid : key.sourceWorkItemId = id
    · exact hchange.single key key' hactive hactive' hid (hsame.symm.trans hid)
    · have hid' : key'.sourceWorkItemId ≠ id := fun h => hid (hsame.trans h)
      exact h.single key key' ((hchange.others key hid).1 hactive)
        ((hchange.others key' hid').1 hactive') hsame

theorem ClaimInvariant.mono {kept' : Text → Prop} (h : ClaimInvariant db kept)
    (hkept : ∀ id, kept id → kept' id) : ClaimInvariant db kept' where
  running := h.running
  pending := fun id item hfind hinvoke hpending =>
    (h.pending id item hfind hinvoke hpending).imp_right
      fun hclaimed => ⟨hkept id hclaimed.1, hclaimed.2⟩
  single := h.single

example : (Database.empty.claims.rows.filter fun claim => claim.claimState = .active) = [] := by
  decide +kernel

end Step

/-! ## Abandoned claims -/

section Abandoned

variable {db db' : Database} {kept : Text → Prop} {item : WorkItem}

/-- The claims of an item are taken back, and those of the others stay. -/
structure Abandons (claims claims' : Claims) (id : Text) : Prop where
  shrink : ClaimsShrink claims claims' id
  inactive : ∀ key, Active claims' key → key.sourceWorkItemId ≠ id

theorem Abandons.shrink_more {claims claims' claims'' : Claims} {id : Text}
    (h : Abandons claims claims' id) (hshrink : ClaimsShrink claims' claims'' id) :
    Abandons claims claims'' id :=
  ⟨h.shrink.trans hshrink, fun key hactive => h.inactive key (hshrink.shrinks key hactive)⟩

theorem supersedeClaim_shrink {key : ArtifactSourceGenerationClaimKey} {agent id : Text}
    (hsource : key.sourceWorkItemId = id) (itemId : Text) (settledAt : Instant) :
    ClaimsShrink db.claims (supersedeClaim db key agent itemId settledAt).claims id :=
  claimsShrink_update
    (fun _ htrue => (of_decide_eq_true htrue).2.2.2.2.1.trans hsource)
    (fun _ => by simp) fun _ => by rfl

/-- A superseded claim is not active. -/
theorem supersedeClaim_inactive (key : ArtifactSourceGenerationClaimKey)
    (itemId : Text) (settledAt : Instant) :
    ¬Active (supersedeClaim db key key.agentExecutionId.text itemId settledAt).claims
      key.primaryKey := by
  refine inactive_update (fun claim hprimary hactive => ?_) (fun _ => by simp)
    fun _ => by rfl
  have hsame : claim.key.primaryKey = key.primaryKey := hprimary
  simp only [ArtifactSourceGenerationClaimKey.primaryKey,
    ClaimPrimaryKey.mk.injEq] at hsame
  obtain ⟨hrun, hkind, howner, hagent, hsource⟩ := hsame
  exact decide_eq_true ⟨hrun, hkind, howner, congrArg Uuid.text hagent, hsource, hactive⟩

/-- Superseding the claim that an item names takes its claims back. -/
theorem ClaimInvariant.supersedes (h : ClaimInvariant db kept)
    {key : ArtifactSourceGenerationClaimKey} (hactive : Active db.claims key.primaryKey)
    {id : Text} (hsource : key.sourceWorkItemId = id) (itemId : Text)
    (settledAt : Instant) :
    Abandons db.claims
      (supersedeClaim db key key.agentExecutionId.text itemId settledAt).claims
      id where
  shrink := supersedeClaim_shrink hsource itemId settledAt
  inactive := by
    intro other hother hsame
    have hold := (supersedeClaim_shrink hsource itemId settledAt).shrinks other hother
    obtain rfl : other = key.primaryKey :=
      h.single _ _ hold hactive (hsame.trans hsource.symm)
    exact supersedeClaim_inactive key itemId settledAt hother

theorem ClaimInvariant.supersedeAbandoned (h : ClaimInvariant db kept)
    (hclaimed : Claimed db item) (settledAt : Instant) :
    Abandons db.claims (supersedeAbandonedPreclaimForRetry db item.id
      (item.payload.getD (.object [])) settledAt).claims item.id := by
  obtain ⟨key, hkey, hagent, hsource, hactive⟩ := hclaimed
  obtain ⟨payload, hpayload, hkey⟩ := Option.bind_eq_some_iff.1 hkey
  rw [WorkItem.claimant, hpayload, Option.bind_some] at hagent
  rw [hpayload, Option.getD_some, supersedeAbandonedPreclaimForRetry]
  simp only [hagent, hkey]
  exact h.supersedes hactive hsource item.id settledAt

/-- An item whose claims were taken back may be pending if its payload has no
record of a claim. -/
theorem Abandons.allows {id : Text} (habandons : Abandons db.claims db'.claims id)
    (hrow : ∀ row, db'.workItems.find id = some row →
      row.status = .failed ∨
        row.status = .pending ∧ row.payload.bind claimedRecord = none) :
    StepAllows kept db' id := by
  intro row hfind _
  have hid : row.id = id := (db'.workItems.find_eq_some_iff.1 hfind).2
  rcases hrow row hfind with hfailed | ⟨hpending, hrecord⟩
  · exact ⟨fun h => by simp [hfailed] at h, fun h => by simp [hfailed] at h⟩
  · refine ⟨fun h => by simp [hpending] at h, fun _ => .inl ⟨hrecord, ?_⟩⟩
    rw [hid]
    exact habandons.inactive

/-- A running item that is requeued with a stamp is pending and its payload has no
record of a claim. -/
theorem requeueRunning_row {payload : Json} {stamp : Stamp} {columns : RequeueColumns}
    (hfound : db.workItems.find item.id = some item) (hrunning : item.status = .running)
    {row : WorkItem}
    (hrow : (requeueRunning db item.id (requeuedPayload payload stamp)
      columns).workItems.find item.id = some row) :
    row.status = .pending ∧ row.payload.bind claimedRecord = none := by
  rw [requeueRunning, Table.find_update, hfound, Option.map_some,
    if_pos (decide_eq_true ⟨rfl, hrunning⟩)] at hrow
  obtain rfl := Option.some.inj hrow
  exact ⟨rfl, claimedRecord_requeuedPayload payload stamp⟩

/-- An abandoned item is requeued. -/
theorem ClaimInvariant.requeued (h : ClaimInvariant db kept)
    (habandons : Abandons db.claims db'.claims item.id)
    (hothers : ∀ other, other ≠ item.id →
      db'.workItems.find other = db.workItems.find other)
    (hrow : ∀ row, db'.workItems.find item.id = some row →
      row.status = .failed ∨
        row.status = .pending ∧ row.payload.bind claimedRecord = none) :
    ClaimInvariant db' kept := by
  refine h.step (habandons.shrink.change h) (fun other row hne hfind => .inl ?_)
    (habandons.allows hrow)
  rw [← hothers other hne]
  exact hfind

end Abandoned

/-! ## The requeues -/

section Requeues

variable {db db' : Database} {kept : Text → Prop} {item : WorkItem}

theorem ClaimInvariant.claimed (h : ClaimInvariant db kept)
    (hitem : FetchedInvoke db item) : Claimed db item :=
  h.running item.id item hitem.found hitem.invoke hitem.running

theorem ClaimInvariant.abandonAndRequeue (h : ClaimInvariant db kept)
    (hitem : FetchedInvoke db item) (stamp : Stamp) (columns : RequeueColumns)
    (settledAt : Instant) :
    ClaimInvariant (abandonAndRequeue db item.id (item.payload.getD (.object []))
      stamp columns settledAt) kept := by
  refine h.requeued (h.supersedeAbandoned (h.claimed hitem) settledAt)
    (fun other hne => abandonAndRequeue_find_of_ne _ _ _ _ hne)
    (fun row hrow => .inr (requeueRunning_row ?_ hitem.running hrow))
  rw [supersedeAbandoned_workItems]
  exact hitem.found

/-- A loop over fetched invocations keeps what each of its steps keeps. -/
theorem ClaimInvariant.foldl {selects : WorkItem → Bool}
    {f : Database → WorkItem → Database} (h : ClaimInvariant db kept)
    (hstep : ∀ db item, FetchedInvoke db item → ClaimInvariant db kept →
      ClaimInvariant (f db item) kept)
    (hother : ∀ db item id, id ≠ item.id →
      (f db item).workItems.find id = db.workItems.find id) :
    ClaimInvariant ((runningInvokes db selects).foldl f db) kept :=
  foldl_rows_preserves WorkItem.id FetchedInvoke
    (P := fun db => ClaimInvariant db kept) nodup_runningInvokes
    (fun db item _ hitem h => hstep db item hitem h)
    (fun db item other hne hitem => hitem.congr (hother db item other.id hne))
    (fun _ => fetchedInvoke_of_mem) h

theorem ClaimInvariant.foldlM {selects : WorkItem → Bool}
    {f : Database → WorkItem → Except Text Database} (h : ClaimInvariant db kept)
    (hstep : ∀ db item db', FetchedInvoke db item → ClaimInvariant db kept →
      f db item = .ok db' → ClaimInvariant db' kept)
    (hother : ∀ db item db' id, f db item = .ok db' → id ≠ item.id →
      db'.workItems.find id = db.workItems.find id)
    (hloop : (runningInvokes db selects).foldlM f db = .ok db') :
    ClaimInvariant db' kept :=
  foldlM_rows_preserves WorkItem.id FetchedInvoke
    (P := fun db => ClaimInvariant db kept) nodup_runningInvokes
    (fun db item db' _ hitem h => hstep db item db' hitem h)
    (fun db item db' other hhandled hne hitem =>
      hitem.congr (hother db item db' other.id hhandled hne))
    (fun _ => fetchedInvoke_of_mem) h hloop

theorem ClaimInvariant.requeuePreclaimedInvoke (h : ClaimInvariant db kept)
    (hitem : FetchedInvoke db item) (stageExecutionId : Text) (now : Instant) :
    ClaimInvariant (requeuePreclaimedInvoke stageExecutionId now db item) kept := by
  rw [Queue.requeuePreclaimedInvoke]
  split
  · exact h
  · rename_i payload hpayload
    split_ifs
    · have hrequeued := h.abandonAndRequeue hitem (stageRequeueStamp now)
        { scheduledAt := none, keepsCompletedAt := true, lastError := none } now
      rwa [hpayload] at hrequeued
    · exact h

theorem ClaimInvariant.requeueInterruptedInvoke (h : ClaimInvariant db kept)
    (hitem : FetchedInvoke db item) (runId stageExecutionId : Uuid)
    (scheduledAt : Instant) (interrupted : Option InterruptedExecution)
    (candidates : ℕ) (agentId : Option Text) :
    ClaimInvariant (requeueInterruptedInvoke runId stageExecutionId scheduledAt
      interrupted candidates agentId db item) kept := by
  rw [Queue.requeueInterruptedInvoke]
  split
  · exact h
  · rename_i payload hpayload
    split_ifs
    · have hrequeued := h.abandonAndRequeue hitem
        (hostInterruptionStamp stageExecutionId.text scheduledAt)
        { scheduledAt := some scheduledAt, keepsCompletedAt := false,
          lastError := none } scheduledAt
      rw [hpayload, Option.getD_some] at hrequeued
      cases interrupted with
      | none => exact hrequeued
      | some execution =>
          -- The claim of the interrupted execution is one of the same item.
          have hinterrupted : ClaimsShrink
              (supersedeAbandonedPreclaimForRetry db item.id payload scheduledAt).claims
              (supersedeInterruptedClaim
                (Queue.abandonAndRequeue db item.id payload
                  (hostInterruptionStamp stageExecutionId.text scheduledAt)
                  { scheduledAt := some scheduledAt, keepsCompletedAt := false,
                    lastError := none } scheduledAt)
                item.id runId stageExecutionId execution scheduledAt).claims item.id :=
            claimsShrink_update
              (fun _ htrue => (of_decide_eq_true htrue).2.2.2.2.2.1) (fun _ => by simp)
              fun _ => by rfl
          have habandons := h.supersedeAbandoned (h.claimed hitem) scheduledAt
          rw [hpayload, Option.getD_some] at habandons
          refine h.requeued (habandons.shrink_more hinterrupted)
            (fun other hne => abandonAndRequeue_find_of_ne _ _ _ _ hne)
            (fun row hrow => .inr (requeueRunning_row ?_ hitem.running hrow))
          rw [supersedeAbandoned_workItems]
          exact hitem.found
    · exact h

theorem ClaimInvariant.startupRequeueItem {scheduledAt : Instant} {reason : Text}
    (h : ClaimInvariant db kept) (hitem : FetchedInvoke db item)
    (hhandled : startupRequeueItem scheduledAt reason db item = .ok db') :
    ClaimInvariant db' kept := by
  obtain ⟨decision, _, hhandled'⟩ := (bind_eq_ok_iff _ _ _).1 hhandled
  obtain rfl := (pure_eq_ok_iff _ _).1 hhandled'
  have habandons := h.supersedeAbandoned (h.claimed hitem) scheduledAt
  have hfound : (supersedeAbandonedPreclaimForRetry db item.id
      (item.payload.getD (.object [])) scheduledAt).workItems.find item.id =
        some item := by
    rw [supersedeAbandoned_workItems]
    exact hitem.found
  refine h.requeued ?_ (fun other hne => startupRequeueItem_find_of_ne hhandled hne) ?_
  · cases decision with
    | plain | once _ _ | replay _ =>
        rw [applyStartupDecision, requeueOnStartup, settleHostCleanup_claims]
        exact habandons
    | exhausted journalId => exact habandons
  · intro row hrow
    cases decision with
    | plain | once _ _ | replay _ =>
        rw [applyStartupDecision, requeueOnStartup, settleHostCleanup_workItems] at hrow
        exact .inr (requeueRunning_row hfound hitem.running hrow)
    | exhausted journalId =>
        rw [applyStartupDecision, failExhausted, Table.find_update,
          show (updateRepairNotes _ _ _).workItems.find item.id = some item from hfound,
          Option.map_some, if_pos (decide_eq_true ⟨rfl, hitem.running⟩)] at hrow
        obtain rfl := Option.some.inj hrow
        exact .inl rfl

theorem ClaimInvariant.requeueStalePreSession {scheduledAt : Instant}
    {cutoffs : StaleCutoffs} {reason : Text} (h : ClaimInvariant db kept)
    (hitem : FetchedInvoke db item)
    (hhandled : requeueStalePreSession scheduledAt cutoffs reason db item = .ok db') :
    ClaimInvariant db' kept := by
  rw [Queue.requeueStalePreSession] at hhandled
  split_ifs at hhandled
  · obtain rfl := (pure_eq_ok_iff _ _).1 hhandled
    exact h
  · obtain rfl := (pure_eq_ok_iff _ _).1 hhandled
    exact h.abandonAndRequeue hitem _ _ scheduledAt

theorem ClaimInvariant.requeueStaleStarting {scheduledAt : Instant}
    {cutoffs : StaleCutoffs} {reason : Text} {row : WorkItem × SessionGeneration}
    (h : ClaimInvariant db kept) (hitem : FetchedInvoke db row.1)
    (hhandled : requeueStaleStarting scheduledAt cutoffs reason db row = .ok db') :
    ClaimInvariant db' kept := by
  have hothers (other : Text) (hne : other ≠ row.1.id) :
      db'.workItems.find other = db.workItems.find other :=
    requeueStaleStarting_find_of_ne hhandled hne
  rw [Queue.requeueStaleStarting] at hhandled
  split_ifs at hhandled
  · obtain rfl := (pure_eq_ok_iff _ _).1 hhandled
    exact h
  · obtain ⟨repairs, _, hhandled⟩ := (bind_eq_ok_iff _ _ _).1 hhandled
    obtain rfl := (pure_eq_ok_iff _ _).1 hhandled
    refine h.requeued (h.supersedeAbandoned (h.claimed hitem) scheduledAt) hothers
      (fun other hrow => .inr (requeueRunning_row ?_ hitem.running hrow))
    change (supersedeAbandonedPreclaimForRetry _ _ _ _).workItems.find row.1.id = _
    rw [supersedeAbandoned_workItems]
    exact hitem.found

example : (requeueRunning Database.empty "item".toList .null
    ⟨none, false, none⟩).workItems.rows = [] := by
  decide +kernel

end Requeues

/-! ## Settlements and requeues of one item -/

section Settlements

variable {db db' : Database} {kept : Text → Prop} {item : WorkItem} {now : Instant}

theorem enqueueAdvance_claims {outcome : InvokeOutcome}
    (henqueue : enqueueAdvance db item outcome now = .ok db') :
    db'.claims = db.claims := by
  rcases enqueueAdvance_cases henqueue with
    ⟨_, rfl⟩ | ⟨runId, payload, stageId, authorities, _, rfl⟩ <;> rfl

/-- An advance is the only item that is added. -/
theorem enqueueAdvance_row {outcome : InvokeOutcome} {id : Text} {row : WorkItem}
    (henqueue : enqueueAdvance db item outcome now = .ok db')
    (hrow : db'.workItems.find id = some row) :
    db.workItems.find id = some row ∨ row.kind ≠ .invokeAgent := by
  rcases enqueueAdvance_cases henqueue with
    ⟨_, rfl⟩ | ⟨runId, payload, stageId, authorities, _, rfl⟩
  · exact .inl hrow
  · rw [Table.find_insertOrIgnore] at hrow
    rcases Option.or_eq_some_iff.1 hrow with hold | ⟨_, hnew⟩
    · exact .inl hold
    · split_ifs at hnew
      obtain rfl := Option.some.inj hnew
      exact .inr (by simp [advanceAfterInvoke])

/-- An item that is settled may keep its claims or lose them. -/
theorem ClaimInvariant.settled (h : ClaimInvariant db kept) (id : Text)
    {settled : Table WorkItem.id}
    (hshrink : ClaimsShrink db.claims db'.claims id)
    (hadded : ∀ other row, db'.workItems.find other = some row →
      settled.find other = some row ∨ row.kind ≠ .invokeAgent)
    (hothers : ∀ other, other ≠ id → settled.find other = db.workItems.find other)
    (hitem : ∀ row, settled.find id = some row →
      row.status ≠ .running ∧ row.status ≠ .pending) :
    ClaimInvariant db' kept := by
  refine h.step (hshrink.change h) (fun other row hne hrow => ?_) (fun row hrow hinvoke => ?_)
  · rw [← hothers other hne]
    exact hadded other row hrow
  · rcases hadded id row hrow with hsettled | hkind
    · obtain ⟨hrunning, hpending⟩ := hitem row hsettled
      exact ⟨fun h => absurd h hrunning, fun h => absurd h hpending⟩
    · exact absurd hinvoke hkind

theorem status_of_isOpen (hopen : ¬item.isOpen = true) :
    item.status ≠ .running ∧ item.status ≠ .pending := by
  constructor <;> intro hstatus <;> exact hopen (by simp [WorkItem.isOpen, hstatus])

theorem markCompleted_row {id : Text} {row : WorkItem}
    (hrow : (markCompleted db id now).workItems.find id = some row) :
    row.status ≠ .running ∧ row.status ≠ .pending := by
  rw [markCompleted, Table.find_update] at hrow
  obtain ⟨old, hold, rfl⟩ := Option.map_eq_some_iff.1 hrow
  have hid : old.id = id := (db.workItems.find_eq_some_iff.1 hold).2
  by_cases hopen : old.isOpen = true
  · simp [hid, hopen]
  · simpa [hopen] using status_of_isOpen hopen

theorem markFailed_row {id error : Text} {row : WorkItem}
    (hrow : (markFailed db id error now).workItems.find id = some row) :
    row.status ≠ .running ∧ row.status ≠ .pending := by
  rw [markFailed, Table.find_update] at hrow
  obtain ⟨old, hold, rfl⟩ := Option.map_eq_some_iff.1 hrow
  have hid : old.id = id := (db.workItems.find_eq_some_iff.1 hold).2
  by_cases hopen : old.isOpen = true
  · simp [hid, hopen]
  · simpa [hopen] using status_of_isOpen hopen

theorem ClaimInvariant.markCompleted (h : ClaimInvariant db kept) (id : Text)
    (now : Instant) : ClaimInvariant (markCompleted db id now) kept :=
  h.settled id (.refl _ _) (fun _ _ => .inl) (fun _ => markCompleted_find_of_ne)
    (fun _ => markCompleted_row)

theorem ClaimInvariant.markFailed (h : ClaimInvariant db kept) (id error : Text)
    (now : Instant) : ClaimInvariant (markFailed db id error now) kept :=
  h.settled id (.refl _ _) (fun _ _ => .inl) (fun _ => markFailed_find_of_ne)
    (fun _ => markFailed_row)

theorem ClaimInvariant.completeRunningInvoke (h : ClaimInvariant db kept)
    (hcomplete : completeRunningInvoke db item now = .ok db') :
    ClaimInvariant db' kept := by
  obtain ⟨guarded, hguard, hcomplete⟩ := (bind_eq_ok_iff _ _ _).1 hcomplete
  obtain ⟨facts, rfl⟩ := validateRunningInvokeCompletion_frame hguard
  cases hclaim : item.payload.bind claimedAgent with
  | none =>
      rw [hclaim] at hcomplete
      refine h.settled item.id ?_ (fun _ _ => enqueueAdvance_row hcomplete)
        (fun _ => markCompleted_find_of_ne) (fun _ => markCompleted_row)
      rw [enqueueAdvance_claims hcomplete]
      exact .refl _ _
  | some agent =>
      rw [hclaim] at hcomplete
      refine h.settled item.id ?_ (fun _ _ => enqueueAdvance_row hcomplete)
        (fun _ => markCompleted_find_of_ne) (fun _ => markCompleted_row)
      rw [enqueueAdvance_claims hcomplete]
      exact claimsShrink_update (fun _ htrue => (of_decide_eq_true htrue).1)
        (fun _ => by simp) fun _ => by rfl

theorem ClaimInvariant.completeAttempt {itemId : Text} {expected : Option Uuid}
    (h : ClaimInvariant db kept)
    (hcomplete : completeAttemptWithCapacity db itemId expected now = .ok db') :
    ClaimInvariant db' kept := by
  rcases completeAttempt_cases hcomplete with
    rfl | ⟨item, _, rfl, _, _, ⟨_, _, hrunning⟩ | ⟨_, rfl⟩⟩
  · exact h
  · exact h.completeRunningInvoke hrunning
  · exact h.markCompleted item.id now

theorem ClaimInvariant.failAttempt {itemId error : Text} {expected : Option Uuid}
    (h : ClaimInvariant db kept)
    (hfail : failAttemptWithCapacity db itemId error expected now = .ok db') :
    ClaimInvariant db' kept := by
  rcases failAttempt_cases hfail with
    rfl | ⟨item, _, rfl, _, _, ⟨_, hqueued⟩ | ⟨_, rfl⟩⟩
  · exact h
  · refine h.settled item.id ?_ (fun _ _ => enqueueAdvance_row hqueued)
      (fun _ => markFailed_find_of_ne) (fun _ => markFailed_row)
    rw [enqueueAdvance_claims hqueued]
    exact .refl _ _
  · exact h.markFailed item.id error now

/-- A busy database returns an item to the queue with its claim. -/
theorem ClaimInvariant.transientRequeue (h : ClaimInvariant db kept) (itemId : Text)
    (later : ℕ → Instant) (error : Text) (expected : Option Uuid) :
    ClaimInvariant (requeueAttemptAfterTransientPersistenceContention db itemId later
      error expected).1 (fun id => kept id ∨ id = itemId) := by
  have hkept : ClaimInvariant db (fun id => kept id ∨ id = itemId) :=
    h.mono fun _ => .inl
  rw [requeueAttemptAfterTransientPersistenceContention]
  cases hfind : db.workItems.find itemId with
  | none => exact hkept
  | some item =>
      simp only
      split_ifs with hrunning hattempt
      · exact hkept
      · refine hkept.step ((ClaimsShrink.refl _ itemId).change hkept)
          (fun other row hne hrow => .inl ?_) (fun row hrow hinvoke => ?_)
        · rw [← hrow]
          exact (Table.find_update_of_ne _
            (fun _ htrue => (of_decide_eq_true htrue).1) hne fun _ => by rfl).symm
        · simp only [ne_eq, not_not] at hrunning
          have hid : item.id = itemId := (db.workItems.find_eq_some_iff.1 hfind).2
          rw [Table.find_update, hfind, Option.map_some,
            if_pos (decide_eq_true ⟨hid, hrunning⟩)] at hrow
          obtain rfl := Option.some.inj hrow
          exact ⟨by rintro ⟨⟩, fun _ => .inr ⟨.inr rfl,
            h.running itemId item hfind hinvoke hrunning⟩⟩
      · exact hkept

/-- The holder of the claim of an item returns it to the queue. -/
theorem ClaimInvariant.requeueAndSupersede {payload : Json}
    {key : ArtifactSourceGenerationClaimKey} (h : ClaimInvariant db kept)
    (hitem : FetchedInvoke db item) (hpayload : item.payload = some payload)
    (hkey : claimedKey payload = some key) (stamp : Stamp) (columns : RequeueColumns)
    (scheduledAt : Instant) :
    ClaimInvariant (requeueAndSupersede db item.id key payload stamp columns
      scheduledAt) kept := by
  obtain ⟨named, hnamed, _, hsource, hactive⟩ := h.claimed hitem
  obtain rfl : named = key := by
    rw [hpayload, Option.bind_some, hkey] at hnamed
    exact (Option.some.inj hnamed).symm
  exact h.requeued (h.supersedes hactive hsource item.id scheduledAt)
    (fun other hne => requeueRunning_find_of_ne _ _ hne)
    (fun row hrow => .inr (requeueRunning_row hitem.found hitem.running hrow))

theorem ClaimInvariant.activePromptClose {itemId : Text}
    {key : ArtifactSourceGenerationClaimKey} {generation : Option Text}
    {scheduledAt : Instant} {reason : Text} {requeued : Bool}
    (h : ClaimInvariant db kept)
    (hrequeue : requeueRunningInvokeAgentAfterActivePromptClose db itemId key
      generation scheduledAt reason = .ok (db', requeued)) :
    ClaimInvariant db' kept := by
  rw [requeueRunningInvokeAgentAfterActivePromptClose] at hrequeue
  split at hrequeue
  · cases hrequeue
    exact h
  · rename_i item hfind
    obtain rfl : item.id = itemId := (db.workItems.find_eq_some_iff.1 hfind).2
    split_ifs at hrequeue with hrunning
    · obtain ⟨payload, hpayload, hrequeue⟩ := (bind_eq_ok_iff _ _ _).1 hrequeue
      split_ifs at hrequeue with howner <;> cases hrequeue
      · exact h.requeueAndSupersede ⟨hfind, hrunning.1, hrunning.2⟩
          ((required_eq_ok_iff _ _ _).1 hpayload) howner.1 _ _ scheduledAt
      · exact h
    · cases hrequeue
      exact h

/-- Whether a requeue after a wait for the provider comes from the holder of the
claim that the item carries. -/
def HoldsClaim (db : Database) (itemId : Text)
    (key : ArtifactSourceGenerationClaimKey) : Prop :=
  ∀ item, db.workItems.find itemId = some item → item.status = .running →
    item.payload.bind claimedKey = some key

theorem ClaimInvariant.providerCapacityWait {itemId : Text}
    {key : ArtifactSourceGenerationClaimKey} {scheduledAt : Instant} {reason : Text}
    {requeued : Bool} (h : ClaimInvariant db kept) (hholds : HoldsClaim db itemId key)
    (hrequeue : requeueRunningInvokeAgentAfterProviderCapacityWait db itemId key
      scheduledAt reason = .ok (db', requeued)) :
    ClaimInvariant db' kept := by
  rw [requeueRunningInvokeAgentAfterProviderCapacityWait] at hrequeue
  split at hrequeue
  · cases hrequeue
    exact h
  · rename_i item hfind
    obtain rfl : item.id = itemId := (db.workItems.find_eq_some_iff.1 hfind).2
    split_ifs at hrequeue with hrunning
    · obtain ⟨payload, hread, hrequeue⟩ := (bind_eq_ok_iff _ _ _).1 hrequeue
      have hpayload := (required_eq_ok_iff _ _ _).1 hread
      have hkey := hholds item hfind hrunning.2
      rw [hpayload, Option.bind_some] at hkey
      cases hrequeue
      exact h.requeueAndSupersede ⟨hfind, hrunning.1, hrunning.2⟩ hpayload hkey _ _
        scheduledAt
    · cases hrequeue
      exact h

end Settlements

/-! ## Claims of pending items -/

section Claims

variable {db db' : Database} {kept : Text → Prop} {item : WorkItem}

theorem startItem_find_of_ne {id : Text} {payload : Json} {now : Instant}
    (hne : id ≠ item.id) :
    (startItem db item.id payload now).workItems.find id = db.workItems.find id :=
  Table.find_update_of_ne _ (fun _ htrue => (of_decide_eq_true htrue).1) hne
    fun _ => by rfl

/-- A pending item is started with a payload that names an active claim of it. -/
theorem ClaimInvariant.started {payload : Json} {now : Instant}
    {key : ArtifactSourceGenerationClaimKey} (h : ClaimInvariant db kept)
    (hfind : db.workItems.find item.id = some item) (hpending : item.status = .pending)
    (hitems : db'.workItems = (startItem db item.id payload now).workItems)
    (hchange : ClaimsChange db.claims db'.claims item.id)
    (hkey : claimedKey payload = some key)
    (hagent : claimedAgent payload = some key.agentExecutionId.text)
    (hsource : key.sourceWorkItemId = item.id)
    (hactive : Active db'.claims key.primaryKey) : ClaimInvariant db' kept := by
  refine h.step hchange (fun other row hne hrow => .inl ?_) (fun row hrow _ => ?_)
  · rwa [hitems, startItem_find_of_ne hne] at hrow
  · rw [hitems, startItem, Table.find_update, hfind, Option.map_some,
      if_pos (decide_eq_true ⟨rfl, hpending⟩)] at hrow
    obtain rfl := Option.some.inj hrow
    exact ⟨fun _ => ⟨key, hkey, hagent, hsource, hactive⟩, by rintro ⟨⟩⟩

theorem claimedKey_insert_withoutSession {payload record : Json}
    (hrecord : claimedRecord payload = some record) :
    claimedKey (payload.insert "p058_claimed" (withoutSession record)) =
      claimedKey payload := by
  rw [claimedKey_eq, claimedKey_eq, claimedRecord,
    Json.get_insert_self (isObject_of_claimedRecord hrecord), hrecord,
    Option.bind_some, Option.bind_some, withoutSession,
    Json.get_remove_of_ne (by decide), Json.get_remove_of_ne (by decide)]

theorem claimedAgent_insert_withoutSession {payload record : Json}
    (hrecord : claimedRecord payload = some record) :
    claimedAgent (payload.insert "p058_claimed" (withoutSession record)) =
      claimedAgent payload := by
  rw [claimedAgent_eq, claimedAgent_eq, claimedRecord,
    Json.get_insert_self (isObject_of_claimedRecord hrecord), hrecord]
  exact getStr_withoutSession record

/-- A pending item whose payload has the record of a claim is one that was
returned with it. -/
theorem ClaimInvariant.claimed_of_record {payload record : Json}
    (h : ClaimInvariant db kept) (hfind : db.workItems.find item.id = some item)
    (hinvoke : item.kind = .invokeAgent) (hpending : item.status = .pending)
    (hpayload : item.payload = some payload)
    (hrecord : claimedRecord payload = some record) : Claimed db item := by
  rcases h.pending item.id item hfind hinvoke hpending with hfree | ⟨_, hclaimed⟩
  · have hnone := hfree.record
    rw [hpayload, Option.bind_some, hrecord] at hnone
    cases hnone
  · exact hclaimed

theorem ClaimInvariant.resumeClaim {payload record : Json} {now : Instant}
    {attempt : ClaimedInvokeAgentStart} (h : ClaimInvariant db kept)
    (hfind : db.workItems.find item.id = some item)
    (hinvoke : item.kind = .invokeAgent) (hpending : item.status = .pending)
    (hpayload : item.payload = some payload)
    (hrecord : claimedRecord (withRunId payload item.runId) = some record)
    (hresume : resumeClaim db item (withRunId payload item.runId) record now =
      .ok (db', attempt)) : ClaimInvariant db' kept := by
  obtain ⟨key, hkey, hagent, hsource, hactive⟩ := h.claimed_of_record hfind hinvoke
    hpending hpayload ((claimedRecord_withRunId payload item.runId).symm.trans hrecord)
  rw [hpayload, Option.bind_some] at hkey
  rw [WorkItem.claimant, hpayload, Option.bind_some] at hagent
  have hkey' : claimedKey (withRunId payload item.runId) = some key := by
    rw [claimedKey_eq, claimedRecord_withRunId, ← claimedKey_eq, hkey]
  have hagent' : claimedAgent (withRunId payload item.runId) =
      some key.agentExecutionId.text := by
    rw [claimedAgent_withRunId, hagent]
  obtain ⟨_, _, _, rfl | ⟨agent, named, rfl⟩⟩ := resumeClaim_cases hresume
  · exact h.started hfind hpending rfl ((ClaimsShrink.refl _ _).change h) hkey' hagent'
      hsource hactive
  · -- Only the session of the claim is dropped.
    have hsame (other : ClaimPrimaryKey) :
        Active (dropSession (startItem db item.id ((withRunId payload
          item.runId).insert "p058_claimed" (withoutSession record)) now) agent named
          now).claims other ↔ Active db.claims other := by
      refine active_update_iff (fun claim _ => ?_) other fun _ => by rfl
      exact Iff.rfl
    refine h.started hfind hpending rfl ⟨fun other _ => hsame other, ?_⟩
      ((claimedKey_insert_withoutSession hrecord).trans hkey')
      ((claimedAgent_insert_withoutSession hrecord).trans hagent') hsource
      ((hsame _).2 hactive)
    intro other other' hother hother' hid hid'
    exact h.single other other' ((hsame other).1 hother) ((hsame other').1 hother')
      (hid.trans hid'.symm)

theorem get_startedRecord_key (key : ArtifactSourceGenerationClaimKey)
    (session : Option Text) :
    (startedRecord key session).get "artifact_claim_key".toList =
      some key.toValue := by
  refine (Json.get_ofFields _ "artifact_claim_key").trans ?_
  cases session <;> simp [List.lookup_cons]

theorem ClaimInvariant.startClaim {payload : Json} {start : ClaimStart}
    {attempt : ClaimedInvokeAgentStart} (h : ClaimInvariant db kept)
    (hfind : db.workItems.find item.id = some item)
    (hinvoke : item.kind = .invokeAgent) (hpending : item.status = .pending)
    (hpayload : item.payload = some payload) (hobject : payload.isObject = true)
    (hrecord : claimedRecord (withRunId payload item.runId) = none)
    (hstart : startClaim db item (withRunId payload item.runId) start =
      .ok (db', attempt)) : ClaimInvariant db' kept := by
  have hfree : Unclaimed db item := by
    rcases h.pending item.id item hfind hinvoke hpending with hfree | ⟨_, key, hkey, _⟩
    · exact hfree
    · rw [hpayload, Option.bind_some, claimedKey_eq,
        ← claimedRecord_withRunId payload item.runId, hrecord] at hkey
      cases hkey
  obtain ⟨runId, stage, agentId, session, executions, claims, facts, _, _, hkey, _,
    hclaims, rfl⟩ := startClaim_cases hstart
  have hsource : attempt.artifactClaimKey.sourceWorkItemId = item.id := by
    rw [hkey]
    rfl
  have hescalated : (start.escalation.foldl applyEdit
      (withRunId payload item.runId)).isObject = true := by
    rw [isObject_escalated, isObject_withRunId, hobject]
  -- Settling the claims that waited changes no active one.
  have hactive (other : ClaimPrimaryKey) :
      Active (finalizePendingRetrySupersession
        { startItem db item.id ((start.escalation.foldl applyEdit
            (withRunId payload item.runId)).insert "p058_claimed"
              (startedRecord attempt.artifactClaimKey session)) start.now with
          agentExecutions := executions
          runtimeFacts := facts
          claims := claims } item.id start.agent start.now).claims other ↔
        other = attempt.artifactClaimKey.primaryKey ∨ Active db.claims other := by
    refine Iff.trans ?_ (active_insert_iff hclaims rfl other)
    refine active_update_iff (fun claim htrue => ?_) other fun _ => by rfl
    have hwaits := (of_decide_eq_true htrue).2
    simp [hwaits]
  refine h.started hfind hpending rfl ⟨fun other hne => ?_, ?_⟩ ?_ ?_ hsource
    ((hactive _).2 (.inl rfl))
  · rw [hactive]
    refine or_iff_right ?_
    rintro rfl
    exact hne hsource
  · intro other other' hother hother' hid hid'
    have hnew (k : ClaimPrimaryKey) (hk : _) (hkid : k.sourceWorkItemId = item.id) :
        k = attempt.artifactClaimKey.primaryKey :=
      ((hactive k).1 hk).resolve_right fun hold => hfree.inactive k hold hkid
    rw [hnew other hother hid, hnew other' hother' hid']
  · rw [claimedKey_eq, claimedRecord, Json.get_insert_self hescalated,
      Option.bind_some, get_startedRecord_key, Option.bind_some,
      ArtifactSourceGenerationClaimKey.ofValue_toValue]
  · rw [claimedAgent_eq, claimedRecord, Json.get_insert_self hescalated,
      Option.bind_some, getStr_startedRecord]

theorem ClaimInvariant.claim {itemId : Text} {start : ClaimStart}
    {attempt : Option ClaimedInvokeAgentStart} (h : ClaimInvariant db kept)
    (hclaim : claimInvokeAgentWorkItemWithStart db itemId start = .ok (db', attempt)) :
    ClaimInvariant db' kept := by
  rcases claim_cases hclaim with ⟨_, rfl | ⟨error, hfail⟩⟩ |
    ⟨item, payload, _, hfind, rfl, hinvoke, hpending, hpayload, hobject, _,
      ⟨record, hrecord, hresume⟩ | ⟨hrecord, hstart⟩⟩
  · exact h
  · exact h.failAttempt hfail
  · exact h.resumeClaim hfind hinvoke hpending hpayload hrecord hresume
  · exact h.startClaim hfind hinvoke hpending hpayload hobject hrecord hstart

end Claims

/-! ## The main result -/

/-- Whether a wait for the provider is reported by the holder of the claim. -/
def ReportedByHolder (db : Database) : QueueAction → Prop
  | .providerCapacityWait itemId key _ _ => HoldsClaim db itemId key
  | _ => True

/-- Whether this holds of every action of a run. -/
def RunByHolders (db : Database) : List QueueAction → Prop
  | [] => True
  | action :: rest => ReportedByHolder db action ∧ RunByHolders (perform db action) rest

/-- The items that a run returns to the queue because the database was busy. -/
def transientlyRequeued (actions : List QueueAction) (id : Text) : Prop :=
  ∃ action ∈ actions, match action with
    | .transientRequeue itemId _ _ _ => itemId = id
    | _ => False

/-- Every action keeps the invariant; the items that it returns to the queue
because the database was busy may be pending with their claim. -/
theorem ClaimInvariant.perform {db : Database} {kept : Text → Prop}
    (h : ClaimInvariant db kept) (action : QueueAction)
    (hholder : ReportedByHolder db action) :
    ClaimInvariant (perform db action)
      (fun id => kept id ∨ transientlyRequeued [action] id) := by
  have hkept {db' : Database} (h' : ClaimInvariant db' kept) :
      ClaimInvariant db' (fun id => kept id ∨ transientlyRequeued [action] id) :=
    h'.mono fun _ => .inl
  cases action with
  | transientRequeue itemId later error expected =>
      refine (h.transientRequeue itemId later error expected).mono ?_
      rintro id (hold | rfl)
      · exact .inl hold
      · exact .inr ⟨_, List.mem_singleton.2 rfl, rfl⟩
  | claim itemId start =>
      refine hkept (committed_preserves (P := fun db' => ClaimInvariant db' kept) h
        fun db' hresult => ?_)
      obtain ⟨⟨_, attempt⟩, hclaim, rfl⟩ := map_eq_ok_iff.1 hresult
      exact h.claim hclaim
  | complete itemId expected now =>
      exact hkept (committed_preserves h fun _ => h.completeAttempt)
  | fail itemId error expected now =>
      exact hkept (committed_preserves h fun _ => h.failAttempt)
  | activePromptClose itemId key generation scheduledAt reason =>
      refine hkept (committed_preserves (P := fun db' => ClaimInvariant db' kept) h
        fun db' hresult => ?_)
      obtain ⟨⟨_, _⟩, hrequeue, rfl⟩ := map_eq_ok_iff.1 hresult
      exact h.activePromptClose hrequeue
  | providerCapacityWait itemId key scheduledAt reason =>
      refine hkept (committed_preserves (P := fun db' => ClaimInvariant db' kept) h
        fun db' hresult => ?_)
      obtain ⟨⟨_, _⟩, hrequeue, rfl⟩ := map_eq_ok_iff.1 hresult
      exact h.providerCapacityWait hholder hrequeue
  | stageRequeue runId stageExecutionId stageId now =>
      exact hkept (h.foldl
        (fun _ _ hitem h => h.requeuePreclaimedInvoke hitem stageExecutionId now)
        (fun _ _ _ hne => requeuePreclaimedInvoke_find_of_ne stageExecutionId now hne))
  | reconcile itemId runId stageId scheduledAt reason staleClass =>
      refine hkept ?_
      rw [Queue.perform, p080RequeueRunningInvokeAgentById]
      cases hfind : db.workItems.find itemId with
      | none => exact h
      | some item =>
          obtain rfl : item.id = itemId := (db.workItems.find_eq_some_iff.1 hfind).2
          simp only
          split_ifs with hselected
          · exact h.abandonAndRequeue ⟨hfind, hselected.2.2.1, hselected.2.2.2⟩ _ _
              scheduledAt
          · exact h
  | hostInterruption runId stageId stageExecutionId scheduledAt interrupted =>
      exact hkept (h.foldl
        (fun _ _ hitem h => h.requeueInterruptedInvoke hitem runId stageExecutionId
          scheduledAt interrupted _ _)
        (fun _ _ _ hne => requeueInterruptedInvoke_find_of_ne runId stageExecutionId
          scheduledAt interrupted _ _ hne))
  | startupRequeue scheduledAt reason =>
      exact hkept (committed_preserves h fun _ hloop =>
        h.foldlM (fun _ _ _ hitem h hhandled => h.startupRequeueItem hitem hhandled)
          (fun _ _ _ _ hhandled hne => startupRequeueItem_find_of_ne hhandled hne) hloop)
  | stalePreSession scheduledAt cutoffs reason =>
      exact hkept (committed_preserves h fun _ hloop =>
        h.foldlM (fun _ _ _ hitem h hhandled => h.requeueStalePreSession hitem hhandled)
          (fun _ _ _ _ hhandled hne => requeueStalePreSession_find_of_ne hhandled hne)
          hloop)
  | staleStarting scheduledAt cutoffs reason =>
      refine hkept (committed_preserves (P := fun db' => ClaimInvariant db' kept) h
        fun db' hloop => ?_)
      refine foldlM_rows_preserves (fun row : WorkItem × SessionGeneration => row.1.id)
        (fun db row => FetchedInvoke db row.1) (P := fun db => ClaimInvariant db kept)
        nodup_startingRows
        (fun _ _ _ _ hitem h hhandled => h.requeueStaleStarting hitem hhandled)
        (fun _ _ _ _ hhandled hne hitem =>
          hitem.congr (requeueStaleStarting_find_of_ne hhandled hne))
        (fun row hrow => ?_) h hloop
      obtain ⟨item, hitem, hgeneration⟩ := List.mem_filterMap.1 hrow
      obtain ⟨_, _, rfl⟩ := Option.map_eq_some_iff.1 hgeneration
      exact fetchedInvoke_of_mem hitem

/-- In every run from tables in which running invocations hold their claims and
pending ones have none, this stays so, except that an invocation which the run
returned to the queue because the database was busy may be pending with its
claim; and no item ever has two active claims. -/
theorem claim_invariant_of_run (initial : Database)
    (hinitial : ClaimInvariant initial fun _ => False) (actions : List QueueAction)
    (hholders : RunByHolders initial actions) :
    ClaimInvariant (performAll initial actions) (transientlyRequeued actions) := by
  have hrun (actions : List QueueAction) (db : Database) (kept : Text → Prop)
      (h : ClaimInvariant db kept) (hholders : RunByHolders db actions) :
      ClaimInvariant (performAll db actions)
        (fun id => kept id ∨ transientlyRequeued actions id) := by
    induction actions generalizing db kept with
    | nil => exact h.mono fun _ => .inl
    | cons action rest ih =>
        refine (ih _ _ (h.perform action hholders.1) hholders.2).mono ?_
        rintro id ((hold | ⟨_, hmem, hid⟩) | ⟨later, hmem, hid⟩)
        · exact .inl hold
        · exact .inr ⟨action, List.mem_cons_self, List.mem_singleton.1 hmem ▸ hid⟩
        · exact .inr ⟨later, List.mem_cons_of_mem _ hmem, hid⟩
  exact (hrun actions initial _ hinitial hholders).mono fun _ =>
    Or.rec False.elim fun hid => hid

section BusyDatabase

theorem claimInvariant_lateQueue : ClaimInvariant lateQueue fun _ => False where
  running := by
    intro id item hfind _ hrunning
    obtain rfl : item = lateItem :=
      List.mem_singleton.1 (lateQueue.workItems.find_eq_some_iff.1 hfind).1
    cases hrunning
  pending := by
    intro id item hfind _ _
    obtain rfl : item = lateItem :=
      List.mem_singleton.1 (lateQueue.workItems.find_eq_some_iff.1 hfind).1
    refine .inl ⟨by decide +kernel, ?_⟩
    rintro key ⟨claim, hclaim, _⟩
    cases hclaim
  single := by
    rintro key key' ⟨claim, hclaim, _⟩
    cases hclaim

/-- An attempt that is claimed, taken back and claimed again keeps the
invariant. -/
theorem claim_invariant_of_reclaim :
    ClaimInvariant
      (performAll lateQueue
        [.claim "item".toList (lateStart (repeatedUuid 3)),
          .reconcile "item".toList (repeatedUuid 1) "build".toList ⟨2, []⟩ [] [],
          .claim "item".toList (lateStart (repeatedUuid 4))])
      (transientlyRequeued
        [.claim "item".toList (lateStart (repeatedUuid 3)),
          .reconcile "item".toList (repeatedUuid 1) "build".toList ⟨2, []⟩ [] [],
          .claim "item".toList (lateStart (repeatedUuid 4))]) :=
  claim_invariant_of_run lateQueue claimInvariant_lateQueue
    [.claim "item".toList (lateStart (repeatedUuid 3)),
      .reconcile "item".toList (repeatedUuid 1) "build".toList ⟨2, []⟩ [] [],
      .claim "item".toList (lateStart (repeatedUuid 4))]
    ⟨trivial, trivial, trivial, trivial⟩

/-- The queue after the invocation was claimed. -/
def busyQueue : Database :=
  perform lateQueue (.claim "item".toList (lateStart (repeatedUuid 3)))

/-- The requeue that the worker makes when the database is busy. -/
def busyRequeue : QueueAction :=
  .transientRequeue "item".toList (fun seconds => ⟨seconds, []⟩) [] none

/-- That requeue leaves the invocation pending with the record of its claim. -/
theorem busy_requeue_keeps_claim :
    ClaimInvariant busyQueue (fun _ => False) ∧
      ¬ClaimInvariant (perform busyQueue busyRequeue) (fun _ => False) := by
  constructor
  · refine (claimInvariant_lateQueue.perform
      (.claim "item".toList (lateStart (repeatedUuid 3))) trivial).mono ?_
    rintro id (hfalse | ⟨_, hmem, hid⟩)
    · exact hfalse
    · rw [List.mem_singleton.1 hmem] at hid
      exact hid
  · intro h
    have hfacts : ((perform busyQueue busyRequeue).workItems.find
        "item".toList).map (fun item => (item.kind, item.status,
          (item.payload.bind claimedRecord).isSome)) =
          some (.invokeAgent, .pending, true) := by
      decide +kernel
    obtain ⟨item, hfind, hitem⟩ := Option.map_eq_some_iff.1 hfacts
    simp only [Prod.mk.injEq] at hitem
    obtain ⟨hinvoke, hpending, hrecord⟩ := hitem
    rcases h.pending _ item hfind hinvoke hpending with hfree | ⟨hfalse, _⟩
    · rw [hfree.record] at hrecord
      cases hrecord
    · exact hfalse

end BusyDatabase

end ChainworksForge.Queue
