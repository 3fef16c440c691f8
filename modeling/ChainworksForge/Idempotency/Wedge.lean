import ChainworksForge.Idempotency.Leases

/-!
# When a handler gets its lease

A pending lease is the latest of its request, and the first generation of a request
keeps its row.  A handler therefore gets a lease in two cases only: it takes over the
expired lease of the request, or the request never had a lease.  A request whose
leases are all abandoned is refused for ever, because the handler starts again at the
first generation.  An expired lease that another request holds on the intent refuses
it as well.
-/

namespace ChainworksForge.Idempotency

open ChainworksForge.Support

variable {db db' : Leases} {request : LeaseRequest} {generation : ℕ} {now : Text}

/-! ## Insertion -/

section Predicates

variable {lease other : CommandIdempotencyLease}

theorem ofPair_iff : lease.ofPair request = true ↔
    lease.principalId = request.principalId ∧ lease.requestId = request.requestId := by
  rw [CommandIdempotencyLease.ofPair, decide_eq_true_eq]

theorem isPendingExpired_iff : lease.isPendingExpired now = true ↔
    lease.leaseState = .pending ∧ lease.expiresAt < now := by
  rw [CommandIdempotencyLease.isPendingExpired, decide_eq_true_eq]

theorem isPendingUnexpired_iff : lease.isPendingUnexpired now = true ↔
    lease.leaseState = .pending ∧ ¬lease.expiresAt < now := by
  rw [CommandIdempotencyLease.isPendingUnexpired, decide_eq_true_eq]

theorem isActive_iff : lease.isActive = true ↔ lease.leaseState ≠ .abandoned := by
  rw [CommandIdempotencyLease.isActive, decide_eq_true_eq]
  cases lease.leaseState <;> simp

theorem isLive_iff : lease.isLive = true ↔
    lease.leaseState = .pending ∨ lease.leaseState = .committed := by
  rw [CommandIdempotencyLease.isLive, decide_eq_true_eq]

/-- Two leases of the same principal and request. -/
def SamePair (lease other : CommandIdempotencyLease) : Prop :=
  lease.principalId = other.principalId ∧ lease.requestId = other.requestId

theorem samePair_of_ofPair (hlease : lease.ofPair request = true)
    (hother : other.ofPair request = true) : SamePair lease other := by
  obtain ⟨hprincipal, hrequest⟩ := ofPair_iff.1 hlease
  obtain ⟨hprincipal', hrequest'⟩ := ofPair_iff.1 hother
  exact ⟨hprincipal.trans hprincipal'.symm, hrequest.trans hrequest'.symm⟩

/-- Leases of one request and generation are the same row. -/
theorem eq_of_generation (hlease : lease ∈ db.rows) (hother : other ∈ db.rows)
    (hpair : SamePair lease other)
    (hgeneration : lease.leaseGeneration = other.leaseGeneration) : lease = other := by
  have hkey : lease.key = other.key := by
    simp only [CommandIdempotencyLease.key, hpair.1, hpair.2, hgeneration]
  exact List.inj_on_of_nodup_map db.distinct hlease hother hkey

end Predicates

/-- What an insertion needs: no active lease of the request, no live lease of the
intent, and no lease of its generation. -/
structure Insertable (db : Leases) (request : LeaseRequest) (generation : ℕ) : Prop where
  inactive : ∀ lease ∈ db.rows, lease.ofPair request = true →
    lease.leaseState = .abandoned
  unlive : ∀ lease ∈ db.rows, lease.ofIntent request = true → ¬lease.isLive = true
  free : ∀ lease ∈ db.rows, lease.ofPair request = true →
    lease.leaseGeneration ≠ generation

theorem find_key_eq_none_iff :
    db.find (request.lease generation now).key = none ↔
      ∀ lease ∈ db.rows, lease.ofPair request = true →
        lease.leaseGeneration ≠ generation := by
  rw [Table.find_eq_none_iff, List.mem_map, not_exists]
  constructor
  · intro hnone lease hlease hpair hgeneration
    obtain ⟨hprincipal, hrequest⟩ := ofPair_iff.1 hpair
    refine hnone lease ⟨hlease, ?_⟩
    rw [CommandIdempotencyLease.key, hprincipal, hrequest, hgeneration]
    rfl
  · rintro hfree lease ⟨hlease, hkey⟩
    obtain ⟨hprincipal, hrequest, hgeneration⟩ :
        lease.principalId = request.principalId ∧ lease.requestId = request.requestId ∧
          lease.leaseGeneration = generation := by
      simpa [CommandIdempotencyLease.key, LeaseRequest.lease] using hkey
    exact hfree lease hlease (ofPair_iff.2 ⟨hprincipal, hrequest⟩) hgeneration

theorem insertPending_eq_some_iff :
    insertPending db request generation now = some db' ↔
      Insertable db request generation ∧
        db'.rows = db.rows ++ [request.lease generation now] := by
  have hactive : (db.rows.any fun lease => lease.isActive && lease.ofPair request) =
      true ↔ ¬∀ lease ∈ db.rows, lease.ofPair request = true →
        lease.leaseState = .abandoned := by
    simp only [List.any_eq_true, Bool.and_eq_true, isActive_iff]
    push Not
    exact ⟨fun ⟨lease, hlease, hstate, hpair⟩ => ⟨lease, hlease, hpair, hstate⟩,
      fun ⟨lease, hlease, hpair, hstate⟩ => ⟨lease, hlease, hstate, hpair⟩⟩
  have hlive : (db.rows.any fun lease => lease.isLive && lease.ofIntent request) =
      true ↔ ¬∀ lease ∈ db.rows, lease.ofIntent request = true →
        ¬lease.isLive = true := by
    simp only [List.any_eq_true, Bool.and_eq_true]
    push Not
    exact ⟨fun ⟨lease, hlease, hstate, hintent⟩ => ⟨lease, hlease, hintent, hstate⟩,
      fun ⟨lease, hlease, hintent, hstate⟩ => ⟨lease, hlease, hstate, hintent⟩⟩
  unfold insertPending
  split_ifs with hpair hintent
  · refine iff_of_false (by simp) fun hinsert => ?_
    exact hactive.1 hpair hinsert.1.inactive
  · refine iff_of_false (by simp) fun hinsert => ?_
    exact hlive.1 hintent hinsert.1.unlive
  · rw [Table.insert_eq_some_iff]
    constructor
    · rintro ⟨hfree, rfl⟩
      exact ⟨⟨not_not.1 (mt hactive.2 hpair), not_not.1 (mt hlive.2 hintent),
        find_key_eq_none_iff.1 hfree⟩, rfl⟩
    · rintro ⟨hinsert, hrows⟩
      refine ⟨find_key_eq_none_iff.2 hinsert.free, ?_⟩
      cases db'
      simp only [Table.add, Table.mk.injEq]
      exact hrows.symm

theorem exists_insertPending_iff :
    (∃ db', insertPending db request generation now = some db') ↔
      Insertable db request generation := by
  constructor
  · rintro ⟨db', hinsert⟩
    exact (insertPending_eq_some_iff.1 hinsert).1
  · intro hinsert
    have hfree : db.find (request.lease generation now).key = none :=
      find_key_eq_none_iff.2 hinsert.free
    exact ⟨db.add _ hfree, insertPending_eq_some_iff.2 ⟨hinsert, rfl⟩⟩

/-! ## Generations -/

/-- A pending lease is the latest of its request, and a request that has a lease has
the first one. -/
structure Generations (db : Leases) : Prop where
  latest : ∀ lease ∈ db.rows, lease.leaseState = .pending →
    ∀ other ∈ db.rows, SamePair other lease →
      other.leaseGeneration ≤ lease.leaseGeneration
  first : ∀ lease ∈ db.rows, ∃ other ∈ db.rows, SamePair other lease ∧
    other.leaseGeneration = 1

/-- A change keeps the names of a lease and makes none pending. -/
def EndsLeases (change : CommandIdempotencyLease → CommandIdempotencyLease) : Prop :=
  ∀ lease, SamePair (change lease) lease ∧
    (change lease).leaseGeneration = lease.leaseGeneration ∧
    (change lease).leaseState ≠ .pending

theorem endsLeases_abandoned :
    EndsLeases fun lease => { lease with leaseState := .abandoned } :=
  fun _ => ⟨⟨rfl, rfl⟩, rfl, by simp⟩

theorem endsLeases_committed (outcomeJson now : Text) :
    EndsLeases fun lease => { lease with
      leaseState := .committed, committedAt := some now
      outcomeJson := some outcomeJson } :=
  fun _ => ⟨⟨rfl, rfl⟩, rfl, by simp⟩

theorem endsLeases_failed (failureCode : Text) :
    EndsLeases fun lease => { lease with
      leaseState := .failed, failureCode := some failureCode } :=
  fun _ => ⟨⟨rfl, rfl⟩, rfl, by simp⟩

theorem generations_update {condition : CommandIdempotencyLease → Bool}
    {change : CommandIdempotencyLease → CommandIdempotencyLease}
    (hchange : EndsLeases change) (h : Generations db)
    (hkey : ∀ lease, (change lease).key = lease.key) :
    Generations (db.update condition change hkey) := by
  -- Every row of the changed table comes from an old row with the same names.
  have hold : ∀ lease ∈ (db.update condition change hkey).rows,
      ∃ old ∈ db.rows, SamePair lease old ∧
        lease.leaseGeneration = old.leaseGeneration ∧
        (lease.leaseState = .pending → old.leaseState = .pending) := by
    intro lease hlease
    obtain ⟨old, hmem, rfl⟩ := (Table.mem_update db).1 hlease
    refine ⟨old, hmem, ?_⟩
    split
    · obtain ⟨hpair, hgeneration, hstate⟩ := hchange old
      exact ⟨hpair, hgeneration, fun hpending => absurd hpending hstate⟩
    · exact ⟨⟨rfl, rfl⟩, rfl, id⟩
  constructor
  · intro lease hlease hpending other hother hpair
    obtain ⟨old, hmem, hsame, hgeneration, hstate⟩ := hold lease hlease
    obtain ⟨old', hmem', hsame', hgeneration', -⟩ := hold other hother
    rw [hgeneration, hgeneration']
    refine h.latest old hmem (hstate hpending) old' hmem' ⟨?_, ?_⟩
    · exact hsame'.1.symm.trans (hpair.1.trans hsame.1)
    · exact hsame'.2.symm.trans (hpair.2.trans hsame.2)
  · intro lease hlease
    obtain ⟨old, hmem, hsame, -, -⟩ := hold lease hlease
    obtain ⟨one, hone, hpair, hfirst⟩ := h.first old hmem
    refine ⟨_, (Table.mem_update db).2 ⟨one, hone, rfl⟩, ?_⟩
    split
    · obtain ⟨hpair', hgeneration, -⟩ := hchange one
      refine ⟨⟨?_, ?_⟩, hgeneration.trans hfirst⟩
      · exact hpair'.1.trans (hpair.1.trans hsame.1.symm)
      · exact hpair'.2.trans (hpair.2.trans hsame.2.symm)
    · exact ⟨⟨hpair.1.trans hsame.1.symm, hpair.2.trans hsame.2.symm⟩, hfirst⟩

/-- A new lease that is later than the others of its request, and first if there are
none. -/
theorem generations_insert (h : Generations db)
    (hinsert : insertPending db request generation now = some db')
    (hlater : ∀ lease ∈ db.rows, lease.ofPair request = true →
      lease.leaseGeneration < generation)
    (hfirst : generation = 1 ∨ ∃ lease ∈ db.rows, lease.ofPair request = true) :
    Generations db' := by
  obtain ⟨hinsertable, hrows⟩ := insertPending_eq_some_iff.1 hinsert
  have hnew : (request.lease generation now).ofPair request = true :=
    ofPair_iff.2 ⟨rfl, rfl⟩
  constructor
  · intro lease hlease hpending other hother hpair
    rw [hrows, List.mem_append, List.mem_singleton] at hlease hother
    rcases hlease with hlease | rfl
    · rcases hother with hother | rfl
      · exact h.latest lease hlease hpending other hother hpair
      · have hofPair : lease.ofPair request = true :=
          ofPair_iff.2 ⟨hpair.1.symm, hpair.2.symm⟩
        rw [hinsertable.inactive lease hlease hofPair] at hpending
        cases hpending
    · rcases hother with hother | rfl
      · exact (hlater other hother (ofPair_iff.2 hpair)).le
      · exact le_rfl
  · intro lease hlease
    rw [hrows, List.mem_append, List.mem_singleton] at hlease
    rcases hlease with hlease | rfl
    · obtain ⟨one, hone, hpair⟩ := h.first lease hlease
      exact ⟨one, by rw [hrows]; exact List.mem_append_left _ hone, hpair⟩
    · rcases hfirst with rfl | ⟨lease, hlease, hofPair⟩
      · exact ⟨_, by rw [hrows]; exact List.mem_append_right _ List.mem_cons_self,
          ⟨rfl, rfl⟩, rfl⟩
      · obtain ⟨one, hone, hpair, hgeneration⟩ := h.first lease hlease
        have hsame := samePair_of_ofPair hofPair hnew
        exact ⟨one, by rw [hrows]; exact List.mem_append_left _ hone,
          ⟨hpair.1.trans hsame.1, hpair.2.trans hsame.2⟩, hgeneration⟩

/-! ## The acquisition of a handler -/

theorem reacquireExpiredTx_eq_none_iff :
    reacquireExpiredTx db request now = .ok none ↔ expiredLease db request now = none := by
  unfold reacquireExpiredTx
  cases expiredLease db request now with
  | none => simp
  | some old =>
      refine iff_of_false (fun hok => ?_) (by simp)
      dsimp only at hok
      split at hok
      · simp at hok
      · simp at hok

theorem reacquireExpiredTx_eq_some_iff :
    reacquireExpiredTx db request now = .ok (some (db', generation)) ↔
      ∃ old, expiredLease db request now = some old ∧
        generation = old.leaseGeneration + 1 ∧
        insertPending (abandonPrior db request old.leaseGeneration) request generation
          now = some db' := by
  unfold reacquireExpiredTx
  cases expiredLease db request now with
  | none => simp
  | some old =>
      dsimp only
      split
      · rename_i changed hinsert
        simp only [Except.ok.injEq, Option.some.injEq, Prod.mk.injEq, exists_eq_left']
        constructor
        · rintro ⟨rfl, rfl⟩
          exact ⟨rfl, hinsert⟩
        · rintro ⟨rfl, hsome⟩
          rw [hinsert] at hsome
          exact ⟨Option.some.inj hsome, rfl⟩
      · rename_i hinsert
        refine iff_of_false (by simp) ?_
        rintro ⟨other, hother, rfl, hsome⟩
        obtain rfl := Option.some.inj hother
        rw [hinsert] at hsome
        cases hsome

theorem acquireTx_eq_true_iff :
    acquireTx db request generation now = (db', true) ↔
      insertPending db request generation now = some db' := by
  unfold acquireTx
  cases insertPending db request generation now with
  | none => simp
  | some changed => simp

/-- What an acquisition inserts, and into which leases. -/
theorem acquireLease_eq_ok_iff {activity : Text} :
    acquireLease db activity request now = .ok (db', generation) ↔
      (∃ old, expiredLease db request now = some old ∧
        generation = old.leaseGeneration + 1 ∧
        insertPending (abandonPrior db request old.leaseGeneration) request generation
          now = some db') ∨
      (expiredLease db request now = none ∧ generation = 1 ∧
        insertPending db request generation now = some db') := by
  rw [← reacquireExpiredTx_eq_some_iff, ← reacquireExpiredTx_eq_none_iff,
    ← acquireTx_eq_true_iff, acquireLease, bind_eq_ok_iff]
  constructor
  · rintro ⟨taken, htaken, hresult⟩
    cases taken with
    | some result =>
        obtain rfl := (pure_eq_ok_iff _ _).1 hresult
        exact .inl htaken
    | none =>
        simp only [bind_eq_ok_iff, ensure_eq_ok_iff, pure_eq_ok_iff,
          Prod.mk.injEq] at hresult
        obtain ⟨-, hacquired, hdb, rfl⟩ := hresult
        exact .inr ⟨htaken, rfl, Prod.ext hdb hacquired⟩
  · rintro (htaken | ⟨htaken, rfl, hacquire⟩)
    · exact ⟨_, htaken, rfl⟩
    · refine ⟨none, htaken, ?_⟩
      simp only [hacquire]
      rfl

theorem expiredLease_eq_some {old : CommandIdempotencyLease}
    (h : expiredLease db request now = some old) :
    old ∈ db.rows ∧ old.ofPair request = true ∧ old.isPendingExpired now = true := by
  have hcondition := List.find?_some h
  rw [Bool.and_eq_true] at hcondition
  exact ⟨List.mem_of_find?_eq_some h, hcondition⟩

theorem expiredLease_eq_none (h : expiredLease db request now = none) :
    ∀ lease ∈ db.rows, lease.ofPair request = true →
      ¬lease.isPendingExpired now = true := by
  intro lease hlease hpair hexpired
  refine List.find?_eq_none.1 h lease hlease ?_
  rw [hpair, hexpired]
  rfl

/-- The leases after the prior generation is abandoned. -/
theorem mem_abandonPrior {old lease : CommandIdempotencyLease} (hold : old ∈ db.rows)
    (hpair : old.ofPair request = true) (hpending : old.leaseState = .pending) :
    lease ∈ (abandonPrior db request old.leaseGeneration).rows ↔
      lease = { old with leaseState := .abandoned } ∨ (lease ∈ db.rows ∧ lease ≠ old) := by
  have hcondition : ∀ row ∈ db.rows, (row.principalId = request.principalId ∧
      row.requestId = request.requestId ∧
      row.leaseGeneration = old.leaseGeneration ∧ row.leaseState = .pending) ↔
        row = old := by
    intro row hrow
    constructor
    · rintro ⟨hprincipal, hrequest, hgeneration, -⟩
      have hrowPair : row.ofPair request = true := ofPair_iff.2 ⟨hprincipal, hrequest⟩
      exact eq_of_generation hrow hold (samePair_of_ofPair hrowPair hpair) hgeneration
    · rintro rfl
      obtain ⟨hprincipal, hrequest⟩ := ofPair_iff.1 hpair
      exact ⟨hprincipal, hrequest, rfl, hpending⟩
  refine List.mem_map.trans ?_
  simp only [decide_eq_true_eq]
  constructor
  · rintro ⟨row, hrow, rfl⟩
    split
    · rename_i hchosen
      obtain rfl := (hcondition row hrow).1 hchosen
      exact .inl rfl
    · rename_i hother
      exact .inr ⟨hrow, fun heq => hother ((hcondition row hrow).2 heq)⟩
  · rintro (rfl | ⟨hlease, hne⟩)
    · exact ⟨old, hold, if_pos ((hcondition old hold).2 rfl)⟩
    · exact ⟨lease, hlease, if_neg fun hchosen => hne ((hcondition lease hlease).1 hchosen)⟩

/-- The first generation can be inserted only for a request without leases. -/
theorem no_lease_of_insertable (h : Generations db) (hinsert : Insertable db request 1) :
    ∀ lease ∈ db.rows, ¬lease.ofPair request = true := by
  intro lease hlease hpair
  obtain ⟨one, hone, hsame, hfirst⟩ := h.first lease hlease
  obtain ⟨hprincipal, hrequest⟩ := ofPair_iff.1 hpair
  refine hinsert.free one hone (ofPair_iff.2 ⟨?_, ?_⟩) hfirst
  · exact hsame.1.trans hprincipal
  · exact hsame.2.trans hrequest

/-- A lease that a handler gets is later than every earlier one of its request. -/
theorem acquireLease_later {activity : Text} (h : Generations db)
    (hacquire : acquireLease db activity request now = .ok (db', generation)) :
    ∀ lease ∈ db.rows, lease.ofPair request = true →
      lease.leaseGeneration < generation := by
  intro lease hlease hpair
  rcases acquireLease_eq_ok_iff.1 hacquire with
    ⟨old, hexpired, rfl, -⟩ | ⟨-, rfl, hinsert⟩
  · obtain ⟨hold, holdPair, holdExpired⟩ := expiredLease_eq_some hexpired
    exact Nat.lt_succ_of_le (h.latest old hold (isPendingExpired_iff.1 holdExpired).1
      lease hlease (samePair_of_ofPair hpair holdPair))
  · have hinsertable := (insertPending_eq_some_iff.1 hinsert).1
    exact absurd hpair (no_lease_of_insertable h hinsertable lease hlease)

theorem generations_acquireLease {activity : Text} (h : Generations db)
    (hacquire : acquireLease db activity request now = .ok (db', generation)) :
    Generations db' := by
  have hlater := acquireLease_later h hacquire
  rcases acquireLease_eq_ok_iff.1 hacquire with
    ⟨old, hexpired, -, hinsert⟩ | ⟨-, hfirst, hinsert⟩
  · obtain ⟨hold, holdPair, holdExpired⟩ := expiredLease_eq_some hexpired
    have hmem {lease : CommandIdempotencyLease} :
        lease ∈ (abandonPrior db request old.leaseGeneration).rows ↔
          lease = { old with leaseState := .abandoned } ∨ (lease ∈ db.rows ∧ lease ≠ old) :=
      mem_abandonPrior hold holdPair (isPendingExpired_iff.1 holdExpired).1
    have habandoned : Generations (abandonPrior db request old.leaseGeneration) :=
      generations_update endsLeases_abandoned h fun _ => rfl
    refine generations_insert habandoned hinsert ?_
      (.inr ⟨_, hmem.2 (.inl rfl), holdPair⟩)
    intro lease hlease hpair
    rcases hmem.1 hlease with rfl | ⟨hlease, -⟩
    · exact hlater old hold holdPair
    · exact hlater lease hlease hpair
  · exact generations_insert h hinsert hlater (.inl hfirst)

/-! ## Runs -/

theorem generations_perform (db : Leases) (action : LeaseAction) (h : Generations db) :
    Generations (perform db action) := by
  cases action with
  | acquire activity request now =>
      simp only [perform]
      split
      · rename_i hacquire
        exact generations_acquireLease h hacquire
      · exact h
  | commit principalId requestId generation outcomeJson now =>
      exact generations_update (endsLeases_committed outcomeJson now) h
        fun _ => rfl
  | failLease principalId requestId generation failureCode =>
      exact generations_update (endsLeases_failed failureCode) h fun _ => rfl
  | abandon principalId requestId generation =>
      exact generations_update endsLeases_abandoned h fun _ => rfl
  | expireStale now =>
      exact generations_update endsLeases_abandoned h fun _ => rfl

theorem generations_run (events : List LeaseAction) :
    Generations (runFrom perform Table.empty events) := by
  refine runFrom_invariant perform generations_perform ⟨?_, ?_⟩ events
  · intro lease hlease
    cases hlease
  · intro lease hlease
    cases hlease

/-! ## When an acquisition succeeds -/

/-- Nobody holds the request or the intent: the leases of the request are abandoned or
expired, and so are those of the intent, except that one may have failed. -/
structure Unheld (db : Leases) (request : LeaseRequest) (now : Text) : Prop where
  pair : ∀ lease ∈ db.rows, lease.ofPair request = true →
    ¬lease.isPendingUnexpired now = true ∧ lease.leaseState ≠ .committed ∧
      lease.leaseState ≠ .failed
  intent : ∀ lease ∈ db.rows, lease.ofIntent request = true →
    ¬lease.isPendingUnexpired now = true ∧ lease.leaseState ≠ .committed

/-- A handler gets a lease that is later than every earlier one of the request. -/
def AcquiresLater (db : Leases) (activity : Text) (request : LeaseRequest) (now : Text) :
    Prop :=
  ∃ db' generation, acquireLease db activity request now = .ok (db', generation) ∧
    ∀ lease ∈ db.rows, lease.ofPair request = true → lease.leaseGeneration < generation

/-- No other request has left an expired pending lease on the intent, and the request
has such a lease itself or has no lease at all. -/
structure Recoverable (db : Leases) (request : LeaseRequest) (now : Text) : Prop where
  intent : ∀ lease ∈ db.rows, lease.ofIntent request = true →
    lease.isPendingExpired now = true → lease.ofPair request = true
  pair : ∀ lease ∈ db.rows, lease.ofPair request = true →
    ∃ expired ∈ db.rows, expired.ofPair request = true ∧
      expired.isPendingExpired now = true

section Exactness

variable (h : Generations db) (hunheld : Unheld db request now)
include hunheld

/-- The leases of an unheld request are expired or abandoned. -/
theorem Unheld.expired_or_abandoned {lease : CommandIdempotencyLease}
    (hlease : lease ∈ db.rows) (hpair : lease.ofPair request = true) :
    lease.isPendingExpired now = true ∨ lease.leaseState = .abandoned := by
  obtain ⟨hunexpired, hcommitted, hfailed⟩ := hunheld.pair lease hlease hpair
  cases hstate : lease.leaseState with
  | pending =>
      rw [isPendingUnexpired_iff, not_and_not_right] at hunexpired
      exact .inl (isPendingExpired_iff.2 ⟨hstate, hunexpired hstate⟩)
  | committed => exact absurd hstate hcommitted
  | failed => exact absurd hstate hfailed
  | abandoned => exact .inr rfl

/-- The live leases of an unheld intent are expired. -/
theorem Unheld.live_iff {lease : CommandIdempotencyLease} (hlease : lease ∈ db.rows)
    (hintent : lease.ofIntent request = true) :
    lease.isLive = true ↔ lease.isPendingExpired now = true := by
  obtain ⟨hunexpired, hcommitted⟩ := hunheld.intent lease hlease hintent
  rw [isPendingUnexpired_iff, not_and_not_right] at hunexpired
  rw [isLive_iff, isPendingExpired_iff]
  constructor
  · rintro (hpending | hcommit)
    · exact ⟨hpending, hunexpired hpending⟩
    · exact absurd hcommit hcommitted
  · exact fun hexpired => .inl hexpired.1

include h

/-- The expired lease of a request is its only one that is not abandoned. -/
theorem insertable_abandonPrior_iff {old : CommandIdempotencyLease}
    (hexpired : expiredLease db request now = some old) :
    Insertable (abandonPrior db request old.leaseGeneration) request
        (old.leaseGeneration + 1) ↔
      ∀ lease ∈ db.rows, lease.ofIntent request = true →
        lease.isPendingExpired now = true → lease.ofPair request = true := by
  obtain ⟨hold, holdPair, holdExpired⟩ := expiredLease_eq_some hexpired
  have holdPending := (isPendingExpired_iff.1 holdExpired).1
  have hmem {lease : CommandIdempotencyLease} :
      lease ∈ (abandonPrior db request old.leaseGeneration).rows ↔
        lease = { old with leaseState := .abandoned } ∨ (lease ∈ db.rows ∧ lease ≠ old) :=
    mem_abandonPrior hold holdPair holdPending
  have honly : ∀ lease ∈ db.rows, lease.ofPair request = true →
      lease.isPendingExpired now = true → lease = old := by
    intro lease hlease hpair hpending
    have hsame := samePair_of_ofPair hpair holdPair
    refine eq_of_generation hlease hold hsame (le_antisymm ?_ ?_)
    · exact h.latest old hold holdPending lease hlease hsame
    · exact h.latest lease hlease (isPendingExpired_iff.1 hpending).1 old hold
        ⟨hsame.1.symm, hsame.2.symm⟩
  constructor
  · intro hinsert lease hlease hintent hpending
    by_cases hsame : lease = old
    · rw [hsame]
      exact holdPair
    · refine absurd ?_ (hinsert.unlive lease (hmem.2 (.inr ⟨hlease, hsame⟩)) hintent)
      exact (hunheld.live_iff hlease hintent).2 hpending
  · intro hintents
    constructor
    · intro lease hlease hpair
      rcases hmem.1 hlease with rfl | ⟨hlease, hne⟩
      · rfl
      · rcases hunheld.expired_or_abandoned hlease hpair with hpending | habandoned
        · exact absurd (honly lease hlease hpair hpending) hne
        · exact habandoned
    · intro lease hlease hintent
      rcases hmem.1 hlease with rfl | ⟨hlease, hne⟩
      · simp [isLive_iff]
      · intro hlive
        have hpending := (hunheld.live_iff hlease hintent).1 hlive
        exact hne (honly lease hlease (hintents lease hlease hintent hpending) hpending)
    · intro lease hlease hpair
      rcases hmem.1 hlease with rfl | ⟨hlease, hne⟩
      · exact Nat.ne_of_lt (Nat.lt_succ_self _)
      · exact Nat.ne_of_lt (Nat.lt_succ_of_le (h.latest old hold holdPending lease hlease
          (samePair_of_ofPair hpair holdPair)))

theorem insertable_first_iff :
    Insertable db request 1 ↔
      (∀ lease ∈ db.rows, ¬lease.ofPair request = true) ∧
      ∀ lease ∈ db.rows, lease.ofIntent request = true →
        ¬lease.isPendingExpired now = true := by
  constructor
  · intro hinsert
    refine ⟨no_lease_of_insertable h hinsert, fun lease hlease hintent hpending => ?_⟩
    exact hinsert.unlive lease hlease hintent
      ((hunheld.live_iff hlease hintent).2 hpending)
  · rintro ⟨hnone, hintents⟩
    constructor
    · exact fun lease hlease hpair => absurd hpair (hnone lease hlease)
    · intro lease hlease hintent hlive
      exact hintents lease hlease hintent ((hunheld.live_iff hlease hintent).1 hlive)
    · exact fun lease hlease hpair => absurd hpair (hnone lease hlease)

theorem acquiresLater_iff (activity : Text) :
    AcquiresLater db activity request now ↔ Recoverable db request now := by
  have hsucceeds : AcquiresLater db activity request now ↔
      ∃ db' generation, acquireLease db activity request now = .ok (db', generation) := by
    constructor
    · rintro ⟨db', generation, hacquire, -⟩
      exact ⟨db', generation, hacquire⟩
    · rintro ⟨db', generation, hacquire⟩
      exact ⟨db', generation, hacquire, acquireLease_later h hacquire⟩
  rw [hsucceeds]
  cases hexpired : expiredLease db request now with
  | some old =>
      obtain ⟨hold, holdPair, holdExpired⟩ := expiredLease_eq_some hexpired
      constructor
      · rintro ⟨db', generation, hacquire⟩
        rcases acquireLease_eq_ok_iff.1 hacquire with
          ⟨other, hother, rfl, hinsert⟩ | ⟨hnone, -⟩
        · rw [hexpired] at hother
          obtain rfl := Option.some.inj hother
          have hinsertable := (insertPending_eq_some_iff.1 hinsert).1
          exact ⟨(insertable_abandonPrior_iff h hunheld hexpired).1 hinsertable,
            fun _ _ _ => ⟨old, hold, holdPair, holdExpired⟩⟩
        · rw [hexpired] at hnone
          cases hnone
      · intro hrecoverable
        have hinsertable :=
          (insertable_abandonPrior_iff h hunheld hexpired).2 hrecoverable.intent
        obtain ⟨db', hinsert⟩ := exists_insertPending_iff.2 hinsertable
        exact ⟨db', _, acquireLease_eq_ok_iff.2 (.inl ⟨old, hexpired, rfl, hinsert⟩)⟩
  | none =>
      have hnone := expiredLease_eq_none hexpired
      constructor
      · rintro ⟨db', generation, hacquire⟩
        rcases acquireLease_eq_ok_iff.1 hacquire with
          ⟨other, hother, -⟩ | ⟨-, rfl, hinsert⟩
        · rw [hexpired] at hother
          cases hother
        · obtain ⟨hpairs, hintents⟩ := (insertable_first_iff h hunheld).1
            (insertPending_eq_some_iff.1 hinsert).1
          constructor
          · exact fun lease hlease hintent hpending =>
              absurd hpending (hintents lease hlease hintent)
          · exact fun lease hlease hpair => absurd hpair (hpairs lease hlease)
      · intro hrecoverable
        have hpairs : ∀ lease ∈ db.rows, ¬lease.ofPair request = true := by
          intro lease hlease hpair
          obtain ⟨other, hother, hotherPair, hpending⟩ :=
            hrecoverable.pair lease hlease hpair
          exact hnone other hother hotherPair hpending
        have hinsertable := (insertable_first_iff h hunheld).2 ⟨hpairs,
          fun lease hlease hintent hpending =>
            hpairs lease hlease (hrecoverable.intent lease hlease hintent hpending)⟩
        obtain ⟨db', hinsert⟩ := exists_insertPending_iff.2 hinsertable
        exact ⟨db', 1, acquireLease_eq_ok_iff.2 (.inr ⟨hexpired, rfl, hinsert⟩)⟩

end Exactness

/-- A statement on a pending lease of one generation leaves the others. -/
theorem find_updatePending_of_ne {principalId requestId : Text} {other : ℕ}
    {change : CommandIdempotencyLease → CommandIdempotencyLease}
    (hne : other ≠ generation)
    (hkey : ∀ lease, (change lease).key = lease.key) :
    (updatePending db principalId requestId generation change hkey).find
        (principalId, requestId, other) =
      db.find (principalId, requestId, other) := by
  have hdifferent : (principalId, requestId, other) ≠ (principalId, requestId, generation) := by
    intro hsame
    exact hne (Prod.mk.inj (Prod.mk.inj hsame).2).2
  refine Table.find_update_of_ne db ?_ hdifferent hkey
  intro lease hcondition
  obtain ⟨rfl, rfl, rfl, -⟩ := of_decide_eq_true hcondition
  rfl

/-- In every state that a run of lease operations reaches, a request and an intent that
nobody holds are acquired, with a later generation than every earlier one, exactly when
no other request has left an expired pending lease on the intent and the request has
such a lease itself or never had one.  A commit or a failure of an older generation
leaves the newer leases alone. -/
theorem acquires_iff_recoverable (events : List LeaseAction) :
    (∀ activity request now,
      Unheld (runFrom perform Table.empty events) request now →
      (AcquiresLater (runFrom perform Table.empty events) activity request now ↔
        Recoverable (runFrom perform Table.empty events) request now)) ∧
    ∀ principalId requestId older newer outcomeJson failureCode now, older < newer →
      (perform (runFrom perform Table.empty events)
          (.commit principalId requestId older outcomeJson now)).find
            (principalId, requestId, newer) =
        (runFrom perform Table.empty events).find (principalId, requestId, newer) ∧
      (perform (runFrom perform Table.empty events)
          (.failLease principalId requestId older failureCode)).find
            (principalId, requestId, newer) =
        (runFrom perform Table.empty events).find (principalId, requestId, newer) := by
  constructor
  · intro activity request now hunheld
    exact acquiresLater_iff (generations_run events) hunheld activity
  · intro principalId requestId older newer outcomeJson failureCode now holder
    exact ⟨find_updatePending_of_ne holder.ne' (fun _ => by rfl),
      find_updatePending_of_ne holder.ne' (fun _ => by rfl)⟩

/-! ## A request that is refused for ever -/

def sampleRequest : LeaseRequest where
  principalId := "operator".toList
  requestId := "request".toList
  command := "approvals.resolve".toList
  intentHash := "hash".toList
  expiresAt := "2".toList

def sampleActivity : Text := "approval resolution".toList

/-- A lease is taken at one and is over at two. -/
def expiredRun : List LeaseAction := [.acquire sampleActivity sampleRequest "1".toList]

/-- The caller asks again at four. -/
def takenOverRun : List LeaseAction :=
  expiredRun ++ [.acquire sampleActivity sampleRequest "4".toList]

/-- The sweep abandons it. -/
def sweptRun : List LeaseAction := expiredRun ++ [.expireStale "3".toList]

instance : Decidable (Unheld db request now) :=
  decidable_of_iff (_ ∧ _) ⟨fun h => ⟨h.1, h.2⟩, fun h => ⟨h.pair, h.intent⟩⟩

instance : Decidable (Recoverable db request now) :=
  decidable_of_iff (_ ∧ _) ⟨fun h => ⟨h.1, h.2⟩, fun h => ⟨h.intent, h.pair⟩⟩

/-- An expired lease is taken over twice, and a late commit of its first generation
leaves the second. -/
theorem expired_lease_is_taken_over :
    AcquiresLater (runFrom perform Table.empty takenOverRun) sampleActivity sampleRequest
      "5".toList ∧
    (perform (runFrom perform Table.empty takenOverRun)
        (.commit "operator".toList "request".toList 1 [] "5".toList)).find
          ("operator".toList, "request".toList, 2) =
      some (sampleRequest.lease 2 "4".toList) := by
  obtain ⟨hacquires, holder⟩ := acquires_iff_recoverable takenOverRun
  constructor
  · have hunheld : Unheld (runFrom perform Table.empty takenOverRun) sampleRequest
        "5".toList := by decide +kernel
    refine (hacquires sampleActivity sampleRequest "5".toList hunheld).2 ?_
    decide +kernel
  · rw [(holder "operator".toList "request".toList 1 2 [] [] "5".toList (by decide)).1]
    decide +kernel

/-- A lease that the sweep has abandoned is never acquired again, although nobody holds
the request or its intent. -/
theorem swept_lease_is_refused :
    ¬∀ (events : List LeaseAction) (activity : Text) (request : LeaseRequest) (now : Text),
      Unheld (runFrom perform Table.empty events) request now →
        AcquiresLater (runFrom perform Table.empty events) activity request now := by
  intro hall
  have hunheld : Unheld (runFrom perform Table.empty sweptRun) sampleRequest
      "4".toList := by decide +kernel
  obtain ⟨db', generation, hacquire, -⟩ :=
    hall sweptRun sampleActivity sampleRequest "4".toList hunheld
  have hrefused : (acquireLease (runFrom perform Table.empty sweptRun) sampleActivity
      sampleRequest "4".toList).isOk = false := by decide +kernel
  rw [hacquire] at hrefused
  cases hrefused

end ChainworksForge.Idempotency
