import ChainworksForge.Support.LastWriter
import ChainworksForge.Support.Runs
import ChainworksForge.Support.Table
import ChainworksForge.Support.Text

/-!
# Coalesced writes

Writes of class B are gathered in a buffer with one place for each idempotency key.
A write whose key is taken is merged with the one that holds the place; the buffer is
drained to the lane of coalesced projections by a timer, at shutdown, and when
sixty-four writes have been merged.  The executor takes the lane from its front.

A submission is one event, as are a flush with its sends and the execution of one
message.  What the writer keeps of its past, the writes of each window and the entries
that were drained from it, stands beside its state and is read by no operation.
-/

namespace ChainworksForge.Writer

open ChainworksForge.Support

/-! ## The buffer -/

/-- Flush coalescing buffer after 64 merges to bound memory pressure. -/
def coalesceFlushMaxMerges : ℕ := 64

/-- Maximum distinct coalescing keys in the buffer. -/
def coalesceMaxKeys : ℕ := 1024

/-- The capacity of the lane of coalesced projections. -/
def laneCapacity : ℕ := 4096

inductive WriteLane where
  | criticalBarrier
  | operatorCommand
  | projectionInvalidation
  | coalescedProjection
  | evidenceMetadata
  | telemetryRollup
deriving DecidableEq, Repr

def WriteLane.asStr : WriteLane → Text
  | .criticalBarrier => "critical_barrier".toList
  | .operatorCommand => "operator_command".toList
  | .projectionInvalidation => "projection_invalidation".toList
  | .coalescedProjection => "coalesced_projection".toList
  | .evidenceMetadata => "evidence_metadata".toList
  | .telemetryRollup => "telemetry_rollup".toList

/-- What the buffer reads of a write operation. -/
structure WriteOperation where
  lane : WriteLane
  operationName : Text
  idempotencyKey : Text
  observedAt : Option ℕ
deriving DecidableEq, Repr

inductive WriteResult where
  | committed
  | coalesced
  | writeRejected (lane : Text) (capacity queuedDepth : ℕ) (oldestQueuedMs : Option ℕ)
      (operationName reason : Text)
  | writeTimeout
  | writeFailed
  | writeBusyExhausted
deriving DecidableEq, Repr

/-- A write that waits for its flush; its counter is the number of the submission. -/
structure CoalescedEntry where
  op : WriteOperation
  monoCounter : ℕ
deriving DecidableEq, Repr

namespace CoalescedEntry

def key (entry : CoalescedEntry) : Text := entry.op.idempotencyKey

def observedAt (entry : CoalescedEntry) : Option ℕ := entry.op.observedAt

/-- Whether a new write takes the place of the one that holds its key. -/
def newWins (entry existing : CoalescedEntry) : Bool :=
  match entry.op.observedAt, existing.op.observedAt with
  | some newObs, some oldObs => newObs ≥ oldObs
  | _, _ => entry.monoCounter > existing.monoCounter

/-- A row of the buffer after the entry has been put in the place of its key. -/
def inPlaceOf (entry row : CoalescedEntry) : CoalescedEntry :=
  if row.key = entry.key then entry else row

theorem key_inPlaceOf (entry row : CoalescedEntry) :
    (entry.inPlaceOf row).key = row.key := by
  by_cases h : row.key = entry.key <;> simp [inPlaceOf, h]

end CoalescedEntry

structure CoalescingBuffer where
  entries : Table CoalescedEntry.key
  mergeCount : ℕ
  totalMerged : ℕ

namespace CoalescingBuffer

def new : CoalescingBuffer := ⟨Table.empty, 0, 0⟩

def needsCountFlush (buf : CoalescingBuffer) : Bool :=
  buf.mergeCount ≥ coalesceFlushMaxMerges

/-- Drain all entries, reset merge counter. -/
def drainAll (buf : CoalescingBuffer) : CoalescingBuffer × List CoalescedEntry :=
  (⟨Table.empty, 0, buf.totalMerged⟩, buf.entries.rows)

/-- Count a merge. -/
def merged (buf : CoalescingBuffer) : CoalescingBuffer :=
  { buf with mergeCount := buf.mergeCount + 1, totalMerged := buf.totalMerged + 1 }

/-- Put an entry in the place of its key. -/
def replace (buf : CoalescingBuffer) (entry : CoalescedEntry) : CoalescingBuffer :=
  { buf with
    entries := buf.entries.update (fun row => row.key = entry.key) entry.inPlaceOf
      entry.key_inPlaceOf }

end CoalescingBuffer

/-- A window from one drain to the next: the writes that it took in, in the order of
their submission, and the entries that were drained at its end. -/
structure Window where
  writes : List CoalescedEntry
  drained : List CoalescedEntry
deriving DecidableEq, Repr

/-- The part of the writer that a submission locks. -/
structure Intake where
  classBMono : ℕ
  coalescing : CoalescingBuffer
  window : List CoalescedEntry
  windows : List Window

/-- What leaves the intake: entries for the lane, and answers to submissions. -/
structure Output where
  flushed : List CoalescedEntry
  answers : List (ℕ × WriteResult)

namespace Intake

def new : Intake := ⟨0, CoalescingBuffer.new, [], []⟩

/-- A drain ends the window. -/
def drain (s : Intake) : Intake × List CoalescedEntry :=
  let (coalescing, flushed) := s.coalescing.drainAll
  (⟨s.classBMono, coalescing, [], s.windows ++ [⟨s.window, flushed⟩]⟩, flushed)

/-- The end of a submission: the buffer is drained when it counts enough merges. -/
def countFlush (s : Intake) (answers : List (ℕ × WriteResult)) : Intake × Output :=
  if s.coalescing.needsCountFlush then
    let (s', flushed) := s.drain
    (s', ⟨flushed, answers⟩)
  else (s, ⟨[], answers⟩)

/-- The intake takes a write into its window. -/
def take (s : Intake) (entry : CoalescedEntry) (coalescing : CoalescingBuffer) : Intake :=
  { s with
    classBMono := s.classBMono + 1
    coalescing
    window := s.window ++ [entry] }

/-- The submission of a class B write, up to the wait for its result. -/
def submitClassB (s : Intake) (op : WriteOperation) : Intake × Output :=
  let entry : CoalescedEntry := ⟨op, s.classBMono⟩
  let buf := s.coalescing
  match buf.entries.find op.idempotencyKey with
  | some existing =>
      if entry.newWins existing then
        (s.take entry (buf.merged.replace entry)).countFlush
          [(existing.monoCounter, .coalesced)]
      else
        -- The new write is stale and is answered at once.
        (s.take entry buf.merged).countFlush [(entry.monoCounter, .coalesced)]
  | none =>
      if buf.entries.rows.length ≥ coalesceMaxKeys then
        ({ s with classBMono := s.classBMono + 1 },
          ⟨[], [(entry.monoCounter, .writeRejected op.lane.asStr
            coalesceMaxKeys buf.entries.rows.length none op.operationName
            "coalescing_map_saturated".toList)]⟩)
      else
        (s.take entry { buf with entries := buf.entries.insertOrIgnore entry }).countFlush
          []

end Intake

/-! ## The writer -/

/-- The writer with its lane, the writes it has executed and the answers it has
given. -/
structure DbWriter where
  intake : Intake
  lane : List CoalescedEntry
  executed : List CoalescedEntry
  answers : List (ℕ × WriteResult)

/-- What reaches the writer from outside. -/
inductive Input where
  | submit (op : WriteOperation)
  | tick
  | shutdown
deriving DecidableEq, Repr

/-- How the execution of a message ends. -/
inductive Outcome where
  | expired
  | committed
  | failed
  | busy
deriving DecidableEq, Repr

def Outcome.result : Outcome → WriteResult
  | .expired => .writeTimeout
  | .committed => .committed
  | .failed => .writeFailed
  | .busy => .writeBusyExhausted

inductive Event where
  | input (received : Input)
  | execute (outcome : Outcome)
deriving DecidableEq, Repr

/-- The inputs among the events. -/
def Event.input? : Event → Option Input
  | .input received => some received
  | .execute _ => none

/-- What the intake makes of an input. -/
def Intake.receive (s : Intake) : Input → Intake × Output
  | .submit op => s.submitClassB op
  | .tick | .shutdown =>
      let (s', flushed) := s.drain
      (s', ⟨flushed, []⟩)

namespace DbWriter

def new : DbWriter := ⟨Intake.new, [], [], []⟩

/-- Send an entry to the lane; a full lane fails the write. -/
def send (s : DbWriter) (entry : CoalescedEntry) : DbWriter :=
  if s.lane.length < laneCapacity then { s with lane := s.lane ++ [entry] }
  else { s with answers := s.answers ++ [(entry.monoCounter, .writeFailed)] }

def flushEntriesToLane (s : DbWriter) (entries : List CoalescedEntry) : DbWriter :=
  entries.foldl send s

/-- The executor takes a message; one whose deadline has passed is not run. -/
def executeMessage (s : DbWriter) (outcome : Outcome) : DbWriter :=
  match s.lane with
  | [] => s
  | entry :: lane =>
      { s with
        lane
        executed := if outcome = .expired then s.executed else s.executed ++ [entry]
        answers := s.answers ++ [(entry.monoCounter, outcome.result)] }

def step (s : DbWriter) : Event → DbWriter
  | .input received =>
      let (intake, output) := s.intake.receive received
      { s with intake, answers := s.answers ++ output.answers }.flushEntriesToLane
        output.flushed
  | .execute outcome => s.executeMessage outcome

/-- The state after a sequence of events. -/
def run (events : List Event) : DbWriter := runFrom step new events

end DbWriter

end ChainworksForge.Writer
