import ChainworksForge.Support.Checked
import ChainworksForge.Support.Runs
import ChainworksForge.Support.Table
import ChainworksForge.Support.Text
import Mathlib.Data.Char
import Mathlib.Data.List.Lex

/-!
# Leases on lifecycle commands

A caller that sends a lifecycle command under a request id takes a lease on the
request.  The lease is pending until the command has committed or failed; an
abandoned lease keeps its row.  The leases of a request are told apart by their
generation.

Three constraints guard an insertion: the key with the generation, one active lease
for a request, and one live lease for an intent.
-/

namespace ChainworksForge.Idempotency

open ChainworksForge.Support

inductive LeaseState where
  | pending
  | committed
  | failed
  | abandoned
deriving DecidableEq

structure CommandIdempotencyLease where
  principalId : Text
  requestId : Text
  command : Text
  intentHash : Text
  leaseGeneration : ℕ
  leaseState : LeaseState
  acquiredAt : Text
  expiresAt : Text
  committedAt : Option Text
  outcomeJson : Option Text
  failureCode : Option Text
deriving DecidableEq

def CommandIdempotencyLease.key (lease : CommandIdempotencyLease) : Text × Text × ℕ :=
  (lease.principalId, lease.requestId, lease.leaseGeneration)

/-- The table of the leases. -/
abbrev Leases := Table CommandIdempotencyLease.key

/-- What a handler asks a lease for. -/
structure LeaseRequest where
  principalId : Text
  requestId : Text
  command : Text
  intentHash : Text
  expiresAt : Text
deriving DecidableEq

namespace CommandIdempotencyLease

variable (lease : CommandIdempotencyLease) (request : LeaseRequest) (now : Text)

/-- A lease of the same principal and request. -/
def ofPair : Bool :=
  lease.principalId = request.principalId ∧ lease.requestId = request.requestId

/-- A lease of the same principal, command and intent. -/
def ofIntent : Bool :=
  lease.principalId = request.principalId ∧ lease.command = request.command ∧
    lease.intentHash = request.intentHash

/-- The states that the index on the requests covers. -/
def isActive : Bool :=
  lease.leaseState = .pending ∨ lease.leaseState = .committed ∨
    lease.leaseState = .failed

/-- The states that the index on the intents covers. -/
def isLive : Bool :=
  lease.leaseState = .pending ∨ lease.leaseState = .committed

def isPendingExpired : Bool :=
  lease.leaseState = .pending ∧ lease.expiresAt < now

def isPendingUnexpired : Bool :=
  lease.leaseState = .pending ∧ ¬lease.expiresAt < now

end CommandIdempotencyLease

/-- The row that an acquisition inserts. -/
def LeaseRequest.lease (request : LeaseRequest) (generation : ℕ) (now : Text) :
    CommandIdempotencyLease where
  principalId := request.principalId
  requestId := request.requestId
  command := request.command
  intentHash := request.intentHash
  leaseGeneration := generation
  leaseState := .pending
  acquiredAt := now
  expiresAt := request.expiresAt
  committedAt := none
  outcomeJson := none
  failureCode := none

variable (db : Leases)

/-- Insert a pending lease; each of the three constraints can refuse it. -/
def insertPending (request : LeaseRequest) (generation : ℕ) (now : Text) :
    Option Leases :=
  if db.rows.any fun lease => lease.isActive && lease.ofPair request then none
  else if db.rows.any fun lease => lease.isLive && lease.ofIntent request then none
  else db.insert (request.lease generation now)

/-- The changed leases, and whether there was one: `none` is a violated constraint. -/
def acquireTx (request : LeaseRequest) (generation : ℕ) (now : Text) :
    Leases × Bool :=
  match insertPending db request generation now with
  | some db => (db, true)
  | none => (db, false)

/-- A statement on one pending lease. -/
def updatePending (principalId requestId : Text) (generation : ℕ)
    (change : CommandIdempotencyLease → CommandIdempotencyLease)
    (hkey : ∀ lease, (change lease).key = lease.key := by intro; rfl) : Leases :=
  db.update (fun lease => lease.principalId = principalId ∧
    lease.requestId = requestId ∧ lease.leaseGeneration = generation ∧
    lease.leaseState = .pending) change hkey

def commitTx (principalId requestId : Text) (generation : ℕ) (outcomeJson now : Text) :
    Leases :=
  updatePending db principalId requestId generation fun lease =>
    { lease with
      leaseState := .committed, committedAt := some now, outcomeJson := some outcomeJson }

def failLeaseTx (principalId requestId : Text) (generation : ℕ) (failureCode : Text) :
    Leases :=
  updatePending db principalId requestId generation fun lease =>
    { lease with leaseState := .failed, failureCode := some failureCode }

/-- A lease in any other state is abandoned. -/
def abandon (principalId requestId : Text) (generation : ℕ) : Leases :=
  db.update (fun lease => lease.principalId = principalId ∧
    lease.requestId = requestId ∧ lease.leaseGeneration = generation ∧
    lease.leaseState ≠ .abandoned) fun lease => { lease with leaseState := .abandoned }

/-- The pending leases whose time is over are abandoned. -/
def expireStale (now : Text) : Leases :=
  db.update (fun lease => lease.isPendingExpired now) fun lease =>
    { lease with leaseState := .abandoned }

/-- The expired pending lease of a request. -/
def expiredLease (request : LeaseRequest) (now : Text) :
    Option CommandIdempotencyLease :=
  db.rows.find? fun lease => lease.ofPair request && lease.isPendingExpired now

/-- Mark the prior generation abandoned. -/
def abandonPrior (request : LeaseRequest) (oldGeneration : ℕ) : Leases :=
  updatePending db request.principalId request.requestId oldGeneration fun lease =>
    { lease with leaseState := .abandoned }

/-- Take over the expired pending lease of a request: it is abandoned, and the next
generation is inserted. -/
def reacquireExpiredTx (request : LeaseRequest) (now : Text) :
    Except Text (Option (Leases × ℕ)) :=
  match expiredLease db request now with
  | none => .ok none
  | some old =>
      let newGeneration := old.leaseGeneration + 1
      match insertPending (abandonPrior db request old.leaseGeneration) request
          newGeneration now with
      | some db => .ok (some (db, newGeneration))
      | none =>
          .error ("command_idempotency: reacquire_expired_tx: ".toList ++
            "unique violation on generation ".toList ++
            (toString newGeneration).toList)

/-- How a handler takes its lease: an expired one is taken over, and otherwise the
first generation is inserted.  The activity is what the refusal names. -/
def acquireLease (activity : Text) (request : LeaseRequest) (now : Text) :
    Except Text (Leases × ℕ) := do
  match ← reacquireExpiredTx db request now with
  | some result => return result
  | none =>
      let (acquiredDb, acquired) := acquireTx db request 1 now
      ensure acquired ("IDEMPOTENCY_IN_FLIGHT: concurrent ".toList ++ activity ++
        " for request_id ".toList ++ request.requestId)
      return (acquiredDb, 1)

/-! ## Histories -/

/-- One transaction on the leases. -/
inductive LeaseAction where
  | acquire (activity : Text) (request : LeaseRequest) (now : Text)
  | commit (principalId requestId : Text) (generation : ℕ) (outcomeJson now : Text)
  | failLease (principalId requestId : Text) (generation : ℕ) (failureCode : Text)
  | abandon (principalId requestId : Text) (generation : ℕ)
  | expireStale (now : Text)

/-- The leases after a transaction; a refused acquisition is rolled back. -/
def perform : LeaseAction → Leases
  | .acquire activity request now =>
      match acquireLease db activity request now with
      | .ok (db, _) => db
      | .error _ => db
  | .commit principalId requestId generation outcomeJson now =>
      commitTx db principalId requestId generation outcomeJson now
  | .failLease principalId requestId generation failureCode =>
      failLeaseTx db principalId requestId generation failureCode
  | .abandon principalId requestId generation =>
      Idempotency.abandon db principalId requestId generation
  | .expireStale now => Idempotency.expireStale db now

end ChainworksForge.Idempotency
