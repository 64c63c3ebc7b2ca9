import StockResearch.Lib.Outcome
import StockResearch.Lib.Table
import StockResearch.Requests.Production

/-!
# The version-8 runtime database

The tables of `request-coordinator.sqlite3`, grouped by the part of the runtime
that writes them. A primary key is the key of a `Table`; the remaining
uniqueness and reference constraints are checked where a row is inserted or
deleted. Timestamp columns that the repository itself writes hold the `DateTime`
whose `isoformat` is the stored text; where SQL compares or sorts such a column
the model compares that text.
-/

namespace StockResearch.Requests

/-! ## Rows -/

/-- `physical_attempts` -/
structure PhysicalAttemptRow where
  logicalRequestId : Identifier
  sequenceNumber : Nat
  leaseGeneration : Nat
  createdAt : Timestamp
  state : PhysicalAttemptState
  rawEligible : Bool := false
deriving DecidableEq

/-- `logical_results` -/
structure LogicalResultRow where
  outcome : LogicalResultOutcome
  completedAt : Timestamp
  errorCode : Option Identifier
deriving DecidableEq

/-- `runtime_lease` (the only row) -/
structure RuntimeLeaseRow where
  ownerToken : Identifier
  generation : Nat
  acquiredAt : DateTime
  heartbeatAt : DateTime
  expiresAt : DateTime
  active : Bool
deriving DecidableEq

/-- The states of a queue entry. -/
inductive QueueEntryState
  | queued | dequeued | rejected | cancelled
deriving DecidableEq

/-- `queue_entries` -/
structure QueueEntryRow where
  rateDomain : Identifier
  taskId : Identifier
  enqueuedAt : DateTime
  state : QueueEntryState
  dequeuedAt : Option DateTime
deriving DecidableEq

/-- The kinds of queue events. -/
inductive QueueEventType
  | requested | queued | dequeued | rejected
deriving DecidableEq

/-- `queue_events` -/
structure QueueEventRow where
  logicalRequestId : Identifier
  eventType : QueueEventType
  occurredAt : DateTime
  reason : Option Identifier
deriving DecidableEq

/-- `gate_state`, keyed by scope and key alias -/
structure GateStateRow where
  activeCount : Nat
  lastStartedAt : Option DateTime
  cooldownUntil : Option DateTime
deriving DecidableEq

/-- The states of a gate reservation. -/
inductive GateReservationState
  | active | released | recovered
deriving DecidableEq

/-- `gate_reservations` -/
structure GateReservationRow where
  physicalAttemptId : Identifier
  logicalRequestId : Identifier
  leaseGeneration : Nat
  acquiredAt : DateTime
  state : GateReservationState
deriving DecidableEq

/-- `gate_starts`, in the order of `start_id` -/
structure GateStartRow where
  reservationId : Identifier
  scope : GateScope
  keyAlias : Identifier
  startedAt : DateTime
deriving DecidableEq

/-- The kinds of gate events. -/
inductive GateEventType
  | acquired | blocked | cooldown | released | recovered
deriving DecidableEq

/-- Why a gate event was recorded. -/
inductive GateEventReason
  | blocked (reason : BlockedReason)
  | retryAfter
  | outcome (state : PhysicalAttemptState)
  | leaderCancelled
  | inFlightCancelled
  | ownerInterrupted
deriving DecidableEq

/-- `gate_events` -/
structure GateEventRow where
  logicalRequestId : Identifier
  reservationId : Option Identifier
  gate : Option (GateScope × Identifier)
  eventType : GateEventType
  occurredAt : DateTime
  reason : Option GateEventReason
deriving DecidableEq

/-- The states of a single flight. -/
inductive SingleFlightState
  | active | terminal
deriving DecidableEq

/-- `single_flights`, keyed by request fingerprint -/
structure SingleFlightRow where
  leaderLogicalRequestId : Identifier
  state : SingleFlightState
deriving DecidableEq

/-- The states of a single-flight consumer. -/
inductive ConsumerState
  | active | cancelled | completed
deriving DecidableEq

/-- `single_flight_consumers` -/
structure ConsumerRow where
  requestFingerprint : Sha256Hex
  role : ConsumerRole
  state : ConsumerState
  cacheDecision : CacheDecision
  rateDomain : Identifier
  joinedAt : DateTime
  resultOwnerId : Option Identifier
deriving DecidableEq

/-- The kinds of admission events. -/
inductive AdmissionEventType
  | cache (decision : CacheDecision)
  | singleFlight (decision : ConsumerRole)
  | leaderPromoted
  | leaderCancelled
  | followerCancelled
  | inFlightCancelled
  | singleFlightCompleted
deriving DecidableEq

/-- The events that show how a consumer joined its flight. -/
def AdmissionEventType.isJoin : AdmissionEventType → Bool
  | .singleFlight _ | .leaderPromoted => true
  | _ => false

/-- `admission_events` -/
structure AdmissionEventRow where
  logicalRequestId : Identifier
  eventType : AdmissionEventType
  occurredAt : DateTime
  reason : Option Identifier
deriving DecidableEq

/-- `raw_publications` -/
structure RawPublicationRow where
  intent : RawPublicationIntent
  relativePath : Option String
  state : RawPublicationState
  createdAt : DateTime
  committedAt : Option DateTime
deriving DecidableEq

/-! ## Tables -/

/-- Logical requests and their results. -/
structure LedgerTables where
  requests : Table Identifier LogicalRequestRow
  results : Table Identifier LogicalResultRow
deriving DecidableEq

/-- The queue, its scheduler cursors and its audit events. -/
structure QueueTables where
  entries : Table Identifier QueueEntryRow
  cursors : Table Identifier Identifier
  events : List QueueEventRow
deriving DecidableEq

/-- Gate counters, reservations, starts and audit events. -/
structure GateTables where
  state : Table (GateScope × Identifier) GateStateRow
  reservations : Table Identifier GateReservationRow
  reservationScopes : Table (Identifier × GateScope) Identifier
  starts : List GateStartRow
  events : List GateEventRow
deriving DecidableEq

/-- Single flights, their consumers and their audit events. -/
structure FlightTables where
  flights : Table Sha256Hex SingleFlightRow
  consumers : Table Identifier ConsumerRow
  events : List AdmissionEventRow
deriving DecidableEq

/-- The whole database. -/
structure Database where
  lease : Option RuntimeLeaseRow
  ledger : LedgerTables
  attempts : Table Identifier PhysicalAttemptRow
  queue : QueueTables
  gates : GateTables
  flight : FlightTables
  publications : Table Identifier RawPublicationRow
deriving DecidableEq

/-- The database `initialize_runtime_storage` creates. -/
def Database.initial : Database where
  lease := none
  ledger := ⟨.empty, .empty⟩
  attempts := .empty
  queue := ⟨.empty, .empty, []⟩
  gates := ⟨.empty, .empty, .empty, [], []⟩
  flight := ⟨.empty, .empty, []⟩
  publications := .empty

/-! ## Statements -/

/-- `INSERT`: a taken key is an integrity error. -/
def insertRow {κ α : Type} [DecidableEq κ] (t : Table κ α) (k : κ) (v : α) :
    Except Exn (Table κ α) := do
  require (t.get? k = none) .integrity
  pure (t.insert k v)

theorem insertRow_eq_ok {κ α : Type} [DecidableEq κ] {t t' : Table κ α} {k : κ} {v : α} :
    insertRow t k v = .ok t' ↔ t.get? k = none ∧ t' = t.insert k v := by
  simp only [insertRow, bind_eq_ok, require_eq_ok, pure_eq_ok]
  constructor
  · rintro ⟨_, h, rfl⟩
    exact ⟨h, rfl⟩
  · rintro ⟨h, rfl⟩
    exact ⟨(), h, rfl⟩

/-- `ORDER BY` -/
def orderBy {α : Type} (le : α → α → Bool) (rows : List α) : List α :=
  rows.insertionSort fun a b => le a b

theorem mem_orderBy {α : Type} {le : α → α → Bool} {rows : List α} {a : α} :
    a ∈ orderBy le rows ↔ a ∈ rows :=
  (List.perm_insertionSort _ rows).mem_iff

/-- The method runs `body` in one transaction and reports SQLite failures as
`sqliteFailure`; its own errors and arithmetic overflows pass through. -/
def transaction {α : Type} (sqliteFailure : RuntimeStorageError)
    (body : Database → Except Exn (Except Exn α × Database)) :
    Database → Except Exn α × Database :=
  atomically (fun e => if e = .integrity then .storage sqliteFailure else e) body

end StockResearch.Requests
