import StockResearch.Requests.Admission

/-!
# Lease acquisition and expired-lease recovery

`acquire_lease` takes a free runtime. `recover_expired_lease` takes over from an
owner that stopped: it audits the attempts, gives the gates back, requeues claims
that never reached an attempt, closes the requests that were interrupted, and
delivers their results before the new generation becomes the fence.
-/

namespace StockResearch.Requests

/-- The error code of a request whose attempt was in flight. -/
def ownerInterruptedCode : Identifier := ⟨"owner_interrupted", by decide⟩

/-- The error code of a request interrupted between two attempts. -/
def ownerInterruptedBetweenAttemptsCode : Identifier :=
  ⟨"owner_interrupted_between_attempts", by decide⟩

/-- The generation of a new owner; a lease that is still active is never replaced
here. -/
def nextGeneration (lease : Option RuntimeLeaseRow) (now : DateTime) : Except Exn Nat :=
  match lease with
  | none => pure 1
  | some row =>
    if row.active then
      if now < row.heartbeatAt then .error (.storage .runtimeClockRollback)
      else if now < row.expiresAt then .error (.storage .runtimeLeaseHeld)
      else .error (.storage .leaseReconciliationRequired)
    else
      pure (row.generation + 1)

/-- `acquire_lease` -/
def acquireLease (ownerToken : Identifier) (now : DateTime) (policy : RuntimeLeasePolicy) :
    Database → Except Exn RuntimeLease × Database :=
  transaction .runtimeLeaseAcquisitionFailed fun db => do
    let expires ← leaseExpiry now policy
    let generation ← nextGeneration db.lease now
    let db ← reconcileTerminalFlights now none
      { db with lease := some ⟨ownerToken, generation, now, now, expires, true⟩ }
    pure (.ok ⟨ownerToken, generation, now, now, expires⟩, db)

/-! ## Recovery -/

/-- The combinations of attempt, request, result and reservation that no operation
leaves behind. -/
def auditGap (db : Database) (attemptId : Identifier) (attempt : PhysicalAttemptRow) : Bool :=
  match db.ledger.requests.get? attempt.logicalRequestId with
  | none => false
  | some request =>
    let result := db.ledger.results.get? attempt.logicalRequestId
    let released := !(db.gates.reservations.select fun _ row =>
      row.physicalAttemptId = attemptId && row.state = .released).isEmpty
    (attempt.state = .started && (request.state ≠ .queued || result.isSome)) ||
      (!attempt.state.isActive && request.state ≠ .queued && result.isNone) ||
      (!attempt.state.isActive && request.state = .queued && !released)

/-- `_validate_recovery_state` -/
def validateRecoveryState (db : Database) (previousGeneration : Nat) : Except Exn Unit := do
  require ((db.attempts.select fun _ row => previousGeneration < row.leaseGeneration) = [])
    (.storage .runtimeRecoveryClockOrGenerationAnomaly)
  require ((db.attempts.select (auditGap db)) = []) (.storage .runtimeRecoveryAuditGap)

/-- A dequeued entry of a queued request without any attempt. -/
def isUnattemptedClaim (db : Database) (id : Identifier) (row : QueueEntryRow) : Bool :=
  row.state = .dequeued && (db.ledger.requests.get? id).any (fun request => request.state = .queued) &&
    (db.attempts.select fun _ attempt => attempt.logicalRequestId = id) = []

/-- Return the claims that never reached an attempt to the queue. -/
def requeueUnattempted (now : DateTime) (db : Database) : QueueTables :=
  { db.queue with
    entries := db.queue.entries.updateWhere (isUnattemptedClaim db) fun row =>
      { row with state := .queued, dequeuedAt := none }
    events := db.queue.events ++ (db.queue.entries.select (isUnattemptedClaim db)).map fun entry =>
      ⟨entry.1, .queued, now, some ownerInterruptedCode⟩ }

/-- The requests with an attempt in flight under an earlier generation. -/
def startedRequests (db : Database) (previousGeneration : Nat) : List Identifier :=
  ((db.attempts.select fun _ row =>
      row.state = .started && row.leaseGeneration ≤ previousGeneration).map
    fun entry => entry.2.logicalRequestId).dedup

/-- Close one request whose attempt was in flight: nobody knows what happened. -/
def closeStarted (now : DateTime) (ledger : LedgerTables) (logicalRequestId : Identifier) :
    Except Exn LedgerTables :=
  closeRequest .runtimeRecoveryAuditGap logicalRequestId .failed
    ⟨.unknown, isoformat now, some ownerInterruptedCode⟩ ledger

/-- The queued requests with terminal attempts and none reserved or started, and
whether one of those attempts is unknown. -/
def interruptedBetweenAttempts (db : Database) : List (Identifier × Bool) :=
  let terminal := (db.attempts.select fun _ row =>
      !row.state.isActive &&
        (db.ledger.requests.get? row.logicalRequestId).any (fun request => request.state = .queued) &&
        (db.attempts.select fun _ other =>
          other.logicalRequestId = row.logicalRequestId && other.state.isActive) = []).map (·.2)
  (terminal.map (·.logicalRequestId)).dedup.map fun id =>
    (id, terminal.any fun row => row.logicalRequestId = id && row.state = .unknown)

/-- Close one request interrupted between two attempts. -/
def closeInterrupted (now : DateTime) (ledger : LedgerTables) (entry : Identifier × Bool) :
    Except Exn LedgerTables := do
  let results ← insertRow ledger.results entry.1
    ⟨if entry.2 then .unknown else .failed, isoformat now, some ownerInterruptedBetweenAttemptsCode⟩
  pure
    { requests := ledger.requests.modify entry.1 fun row => { row with state := .failed }
      results := results }

/-- Attempts in flight become unknown, reserved ones move to the new generation. -/
def transferAttempts (previousGeneration : Nat) (attempts : Table Identifier PhysicalAttemptRow) :
    Table Identifier PhysicalAttemptRow :=
  (attempts.updateWhere (fun _ row =>
      row.state = .started && row.leaseGeneration ≤ previousGeneration)
    fun row => { row with state := .unknown }).updateWhere (fun _ row =>
      row.state = .reserved && row.leaseGeneration ≤ previousGeneration)
    fun row => { row with leaseGeneration := previousGeneration + 1 }

/-- The lease row that recovery may replace: active and past its expiry. -/
def expiredLease (db : Database) (now : DateTime) : Except Exn RuntimeLeaseRow := do
  let row ← fetch (db.lease.filter fun row => row.active) (.storage .expiredRuntimeLeaseNotFound)
  require (row.heartbeatAt ≤ now) (.storage .runtimeClockRollback)
  require (row.expiresAt ≤ now) (.storage .runtimeLeaseHeld)
  pure row

/-- `recover_expired_lease` -/
def recoverExpiredLease (ownerToken : Identifier) (now : DateTime) (policy : RuntimeLeasePolicy) :
    Database → Except Exn RuntimeLease × Database :=
  transaction .runtimeRecoveryFailed fun db => do
    let expires ← leaseExpiry now policy
    let row ← expiredLease db now
    let generation := row.generation + 1
    validateRecoveryState db row.generation
    let gates ← recoverGateReservations row.generation now db.gates
    let db := { db with gates := gates, queue := requeueUnattempted now db }
    let ledger ← (startedRequests db row.generation).foldlM (closeStarted now) db.ledger
    let db := { db with ledger := ledger }
    let ledger ← (interruptedBetweenAttempts db).foldlM (closeInterrupted now) db.ledger
    let db := { db with ledger := ledger, attempts := transferAttempts row.generation db.attempts }
    let db ← reconcileTerminalFlights now none db
    require (db.lease.any fun current => current.generation = row.generation && current.active)
      (.storage .runtimeRecoveryLeaseRace)
    pure (.ok ⟨ownerToken, generation, now, now, expires⟩,
      { db with lease := some ⟨ownerToken, generation, now, now, expires, true⟩ })

end StockResearch.Requests
