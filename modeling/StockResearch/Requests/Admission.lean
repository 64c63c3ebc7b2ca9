import StockResearch.Requests.SingleFlight

/-!
# Queue, admission, cancellation and attempts

The operations of one logical request before its exchange: it is enqueued or
admitted to a single flight, claimed by the scheduler, cancelled, and given
physical attempts.
-/

namespace StockResearch.Requests

/-! ## Queue -/

/-- The error code of a request refused by the queue bounds. -/
def queueFullCode : Identifier := ⟨"queue_full", by decide⟩

/-- The reason recorded when a follower becomes leader. -/
def leaderPromotedCode : Identifier := ⟨"leader_promoted", by decide⟩

/-- `_append_queue_event` -/
def QueueTables.appendEvent (queue : QueueTables) (logicalRequestId : Identifier)
    (eventType : QueueEventType) (now : DateTime) (reason : Option Identifier) : QueueTables :=
  { queue with events := queue.events ++ [⟨logicalRequestId, eventType, now, reason⟩] }

/-- Whether the queued entries have reached one of the three bounds. -/
def queueIsFull (entries : Table Identifier QueueEntryRow) (rateDomain taskId : Identifier)
    (policy : QueuePolicy) : Bool :=
  decide (policy.globalLimit ≤ entries.count fun _ row => row.state = .queued) ||
    decide (policy.rateDomainLimit ≤ entries.count fun _ row =>
      row.state = .queued && row.rateDomain = rateDomain) ||
    decide (policy.taskRateDomainLimit ≤ entries.count fun _ row =>
      row.state = .queued && row.rateDomain = rateDomain && row.taskId = taskId)

/-- `_insert_logical_request` -/
def insertLogicalRequest (request : ProductionLogicalRequest) (ledger : LedgerTables) :
    Except Exn LedgerTables := do
  let requests ← insertRow ledger.requests request.logicalRequestId request.toLogicalRequestRow
  pure { ledger with requests := requests }

/-- `add_logical_request` -/
def addLogicalRequest (request : ProductionLogicalRequest) :
    Database → Except Exn Unit × Database :=
  transaction .logicalRequestPersistenceFailed fun db => do
    let ledger ← insertLogicalRequest request db.ledger
    pure (.ok (), { db with ledger := ledger })

/-- `enqueue_logical_request` -/
def enqueueLogicalRequest (request : ProductionLogicalRequest) (rateDomain : Identifier)
    (lease : RuntimeLease) (now : DateTime) (policy : QueuePolicy) :
    Database → Except Exn Unit × Database :=
  transaction .queueEnqueueFailed fun db => do
    assertFence db lease now
    let id := request.logicalRequestId
    let ledger ← insertLogicalRequest request db.ledger
    let queue := db.queue.appendEvent id .requested now none
    let rejected := queueIsFull queue.entries rateDomain request.taskId policy
    let entries ← insertRow queue.entries id
      { rateDomain := rateDomain, taskId := request.taskId, enqueuedAt := now,
        state := if rejected then .rejected else .queued, dequeuedAt := none }
    if rejected then do
      let results ← insertRow ledger.results id ⟨.failed, isoformat now, some queueFullCode⟩
      pure (.error (.storage .queueFull),
        { db with
          ledger :=
            { requests := ledger.requests.modify id fun row => { row with state := .failed }
              results := results }
          queue := { queue with entries := entries }.appendEvent id .rejected now
            (some queueFullCode) })
    else
      pure (.ok (),
        { db with
          ledger := ledger
          queue := { queue with entries := entries }.appendEvent id .queued now none })

/-- The distinct tasks with a queued entry of a rate domain, sorted. -/
def queuedTasks (queue : QueueTables) (rateDomain : Identifier) : List Identifier :=
  orderBy (fun a b => decide (a.text ≤ b.text))
    ((queue.entries.select fun _ row => row.rateDomain = rateDomain && row.state = .queued).map
      fun entry => entry.2.taskId).dedup

/-- The oldest queued entry of one task in a rate domain. -/
def oldestQueued (queue : QueueTables) (rateDomain taskId : Identifier) :
    Option (Identifier × QueueEntryRow) :=
  (orderBy (fun a b => decide (isoformat a.2.enqueuedAt < isoformat b.2.enqueuedAt ∨
      isoformat a.2.enqueuedAt = isoformat b.2.enqueuedAt ∧ a.1.text ≤ b.1.text))
    (queue.entries.select fun _ row =>
      row.rateDomain = rateDomain && row.taskId = taskId && row.state = .queued)).head?

/-- `claim_next_queued`: the task after the last one served, and its oldest entry. -/
def claimNextQueued (rateDomain : Identifier) (lease : RuntimeLease) (now : DateTime) :
    Database → Except Exn (Option QueueClaim) × Database :=
  transaction .queueClaimFailed fun db => do
    assertFence db lease now
    match queuedTasks db.queue rateDomain with
    | [] => pure (.ok none, db)
    | first :: rest => do
      let lastTask := db.queue.cursors.get? rateDomain
      let taskId := ((first :: rest).find? fun candidate =>
        lastTask.all fun last => decide (last.text < candidate.text)).getD first
      let entry ← fetch (oldestQueued db.queue rateDomain taskId)
        (.storage .queueSchedulerInconsistent)
      require ((db.queue.entries.get? entry.1).map (·.state) = some .queued)
        (.storage .queueClaimRace)
      let queue : QueueTables :=
        { db.queue with
          entries := db.queue.entries.modify entry.1 fun row =>
            { row with state := .dequeued, dequeuedAt := some now }
          cursors := db.queue.cursors.upsert rateDomain taskId fun _ => taskId }
      pure (.ok (some ⟨entry.1, taskId, rateDomain, entry.2.enqueuedAt⟩),
        { db with queue := queue.appendEvent entry.1 .dequeued now none })

/-! ## Admission -/

/-- The leader of the active flight of a fingerprint, with its rate domain. -/
def activeLeader (flight : FlightTables) (fingerprint : Sha256Hex) :
    Option (Identifier × Identifier) :=
  ((flight.flights.get? fingerprint).filter fun row => row.state = .active).bind fun row =>
    (flight.consumers.get? row.leaderLogicalRequestId).map fun consumer =>
      (row.leaderLogicalRequestId, consumer.rateDomain)

/-- `INSERT INTO single_flight_consumers` and the event of the decision. -/
def joinFlight (request : ProductionLogicalRequest) (role : ConsumerRole)
    (cacheDecision : CacheDecision) (rateDomain leaderId : Identifier) (now : DateTime)
    (flight : FlightTables) : Except Exn FlightTables := do
  let consumers ← insertRow flight.consumers request.logicalRequestId
    { requestFingerprint := request.requestFingerprint, role := role, state := .active,
      cacheDecision := cacheDecision, rateDomain := rateDomain, joinedAt := now,
      resultOwnerId := none }
  pure ({ flight with consumers := consumers }.appendEvent request.logicalRequestId
    (.singleFlight role) now (some leaderId))

/-- Open a flight under a new leader, replacing only a terminal one. -/
def openFlight (fingerprint : Sha256Hex) (leaderId : Identifier) (flight : FlightTables) :
    FlightTables :=
  { flight with flights := flight.flights.upsert fingerprint ⟨leaderId, .active⟩ fun row =>
      if row.state = .terminal then ⟨leaderId, .active⟩ else row }

/-- Queue a new leader, or reject it together with its flight when the queue is
full. -/
def queueLeader (request : ProductionLogicalRequest) (rateDomain : Identifier) (now : DateTime)
    (policy : QueuePolicy) (db : Database) : Except Exn (Bool × Database) := do
  let id := request.logicalRequestId
  let rejected := queueIsFull db.queue.entries rateDomain request.taskId policy
  let entries ← insertRow db.queue.entries id
    { rateDomain := rateDomain, taskId := request.taskId, enqueuedAt := now,
      state := if rejected then .rejected else .queued, dequeuedAt := none }
  let queue := { db.queue with entries := entries }.appendEvent id .requested now none
  if rejected then do
    let ledger ← cancelLogical id now queueFullCode .failed db.ledger
    let flight := db.flight.terminate request.requestFingerprint
    pure (true,
      { db with
        ledger := ledger
        flight := { flight with consumers := flight.consumers.modify id fun row =>
          { row with state := .cancelled } }
        queue := queue.appendEvent id .rejected now (some queueFullCode) })
  else
    pure (false, { db with queue := queue.appendEvent id .queued now none })

/-- `admit_logical_request` -/
def admitLogicalRequest (request : ProductionLogicalRequest) (rateDomain : Identifier)
    (cachePolicy : ProductionCachePolicy) (lease : RuntimeLease) (now : DateTime)
    (queuePolicy : QueuePolicy) : Database → Except Exn AdmissionDecision × Database :=
  transaction .requestAdmissionFailed fun db => do
    let id := request.logicalRequestId
    let fingerprint := request.requestFingerprint
    let cacheDecision : CacheDecision := if cachePolicy.applicable then .disabled else .notApplicable
    assertFence db lease now
    let ledger ← insertLogicalRequest request db.ledger
    let db ← reconcileTerminalFlights now (some fingerprint)
      { db with
        ledger := ledger
        flight := db.flight.appendEvent id (.cache cacheDecision) now none }
    match activeLeader db.flight fingerprint with
    | none => do
      require (db.flight.activeConsumers fingerprint = []) (.storage .singleFlightStateInconsistent)
      let flight ← joinFlight request .leader cacheDecision rateDomain id now
        (openFlight fingerprint id db.flight)
      let (rejected, db) ← queueLeader request rateDomain now queuePolicy
        { db with flight := flight }
      pure (if rejected then .error (.storage .queueFull)
        else .ok ⟨id, cacheDecision, .leader, id⟩, db)
    | some (leaderId, leaderDomain) => do
      require (leaderDomain = rateDomain) (.storage .singleFlightScopeMismatch)
      let flight ← joinFlight request .follower cacheDecision rateDomain leaderId now db.flight
      pure (.ok ⟨id, cacheDecision, .follower, leaderId⟩, { db with flight := flight })

/-! ## Cancellation -/

/-- Set the state of one consumer to `cancelled`. -/
def FlightTables.cancelConsumer (flight : FlightTables) (logicalRequestId : Identifier) :
    FlightTables :=
  { flight with consumers := flight.consumers.modify logicalRequestId fun row =>
      { row with state := .cancelled } }

/-- Give every consumer of an interrupted flight the outcome `unknown`. -/
def cancelInFlight (now : DateTime) (reason : Identifier) (db : Database)
    (consumer : Identifier × ConsumerRow) : Except Exn Database := do
  let ledger ← cancelLogical consumer.1 now reason .unknown db.ledger
  pure { db with
    ledger := ledger
    flight := (db.flight.cancelConsumer consumer.1).appendEvent consumer.1 .inFlightCancelled now
      (some reason) }

/-- `_cancel_started_flight` -/
def cancelStartedFlight (fingerprint : Sha256Hex) (now : DateTime) (reason : Identifier)
    (db : Database) : Except Exn Database := do
  let consumers := db.flight.activeConsumers fingerprint
  let row ← fetch ((db.flight.flights.get? fingerprint).filter fun row => row.state = .active)
    (.storage .singleFlightStateInconsistent)
  let leaderId := row.leaderLogicalRequestId
  let gates ← releaseGateOccupancy leaderId now .inFlightCancelled db.gates
  let attempts := db.attempts.updateWhere
    (fun _ attempt => attempt.logicalRequestId = leaderId && attempt.state = .started)
    fun attempt => { attempt with state := .unknown }
  let db ← consumers.foldlM (cancelInFlight now reason)
    { db with gates := gates, attempts := attempts }
  pure { db with flight := db.flight.terminate fingerprint }

/-- The follower that takes over from a cancelled leader: the oldest active one that
has a logical request, with its rate domain and task. -/
def nextLeader (db : Database) (fingerprint : Sha256Hex) :
    Option (Identifier × Identifier × Identifier) :=
  ((orderBy (fun a b => decide (isoformat a.2.joinedAt < isoformat b.2.joinedAt ∨
      isoformat a.2.joinedAt = isoformat b.2.joinedAt ∧ a.1.text ≤ b.1.text))
    ((db.flight.activeConsumers fingerprint).filter fun entry =>
      entry.2.role = .follower)).filterMap fun entry =>
        (db.ledger.requests.get? entry.1).map fun request =>
          (entry.1, entry.2.rateDomain, request.taskId)).head?

/-- Hand a flight to a follower, or close it when nobody is waiting. -/
def promoteFollower (follower : Option (Identifier × Identifier × Identifier))
    (cancelledLeader : Identifier) (fingerprint : Sha256Hex) (now : DateTime) (db : Database) :
    Except Exn Database :=
  match follower with
  | none => pure { db with flight := db.flight.terminate fingerprint }
  | some (promoted, rateDomain, taskId) => do
    let entries ← insertRow db.queue.entries promoted ⟨rateDomain, taskId, now, .queued, none⟩
    let flight : FlightTables :=
      { db.flight with
        consumers := db.flight.consumers.modify promoted fun row => { row with role := .leader }
        flights := db.flight.flights.modify fingerprint fun row =>
          { row with leaderLogicalRequestId := promoted } }
    pure { db with
      queue := { db.queue with entries := entries }.appendEvent promoted .queued now
        (some leaderPromotedCode)
      flight := flight.appendEvent promoted .leaderPromoted now (some cancelledLeader) }

/-- Cancel a leader none of whose attempts was sent, and promote a follower. -/
def cancelUnsentLeader (logicalRequestId : Identifier) (fingerprint : Sha256Hex) (now : DateTime)
    (reason : Identifier) (db : Database) : Except Exn (Option Identifier × Database) := do
  let follower := nextLeader db fingerprint
  let ledger ← cancelLogical logicalRequestId now reason .cancelled db.ledger
  let db ← promoteFollower follower logicalRequestId fingerprint now
    { db with
      ledger := ledger
      flight := db.flight.cancelConsumer logicalRequestId
      queue.entries := db.queue.entries.modify logicalRequestId fun row =>
        { row with state := .cancelled } }
  pure (follower.map (·.1), { db with
    flight := db.flight.appendEvent logicalRequestId .leaderCancelled now (some reason) })

/-- The attempts of a request, by sequence number. -/
def orderedAttempts (attempts : Table Identifier PhysicalAttemptRow) (logicalRequestId : Identifier) :
    List (Identifier × PhysicalAttemptRow) :=
  orderBy (fun a b => decide (a.2.sequenceNumber ≤ b.2.sequenceNumber))
    (attempts.select fun _ row => row.logicalRequestId = logicalRequestId)

/-- Release the gates of a leader's reserved attempt and fail the attempt. -/
def dropReservedAttempt (logicalRequestId : Identifier) (now : DateTime)
    (active : Option (Identifier × PhysicalAttemptRow)) (db : Database) : Except Exn Database :=
  match active with
  | none => pure db
  | some (attemptId, row) => do
    require (row.state = .reserved) (.storage .inFlightCancellationRequiresTransportResult)
    let gates ← releaseGateOccupancy logicalRequestId now .leaderCancelled db.gates
    pure { db with
      gates := gates
      attempts := db.attempts.modify attemptId fun attempt => { attempt with state := .failed } }

/-- Cancel a leader: an exchange in flight makes the outcome unknown for everyone,
an unsent leader is replaced. -/
def cancelLeader (logicalRequestId : Identifier) (fingerprint : Sha256Hex) (now : DateTime)
    (reason : Identifier) (db : Database) : Except Exn (Option Identifier × Database) := do
  let attempts := orderedAttempts db.attempts logicalRequestId
  let active := attempts.find? fun item => item.2.state.isActive
  let alreadySent := attempts.any fun item => !item.2.state.isActive
  if active.any fun item => item.2.state = .started then do
    let db ← cancelStartedFlight fingerprint now reason db
    pure (none, db)
  else do
    require ((db.queue.entries.get? logicalRequestId).any fun row =>
        row.state = .queued || row.state = .dequeued)
      (.storage .inFlightCancellationRequiresTransportResult)
    let db ← dropReservedAttempt logicalRequestId now active db
    if alreadySent then do
      let db ← cancelStartedFlight fingerprint now reason db
      pure (none, db)
    else
      cancelUnsentLeader logicalRequestId fingerprint now reason db

/-- `cancel_admitted_request` -/
def cancelAdmittedRequest (logicalRequestId reason : Identifier) (lease : RuntimeLease)
    (now : DateTime) : Database → Except Exn (Option Identifier) × Database :=
  transaction .requestCancellationFailed fun db => do
    assertFence db lease now
    let consumer ← fetch ((db.flight.consumers.get? logicalRequestId).filter fun row =>
      row.state = .active) (.storage .singleFlightConsumerNotActive)
    match consumer.role with
    | .follower => do
      let ledger ← cancelLogical logicalRequestId now reason .cancelled db.ledger
      pure (.ok none, { db with
        ledger := ledger
        flight := (db.flight.cancelConsumer logicalRequestId).appendEvent logicalRequestId
          .followerCancelled now (some reason) })
    | .leader => do
      let (promoted, db) ← cancelLeader logicalRequestId consumer.requestFingerprint now reason db
      pure (.ok promoted, db)

/-! ## Attempts -/

/-- `add_physical_attempt` -/
def addPhysicalAttempt (attempt : ProductionPhysicalAttempt) :
    Database → Except Exn Unit × Database :=
  transaction .physicalAttemptPersistenceFailed fun db => do
    let attempts ← insertAttempt db.ledger db.attempts attempt.physicalAttemptId attempt.row
    pure (.ok (), { db with attempts := attempts })

/-- `reserve_next_physical_attempt` -/
def reserveNextPhysicalAttempt (physicalAttemptId logicalRequestId : Identifier)
    (lease : RuntimeLease) (now : DateTime) :
    Database → Except Exn ProductionPhysicalAttempt × Database :=
  transaction .physicalAttemptReservationFailed fun db => do
    assertFence db lease now
    require ((db.ledger.requests.get? logicalRequestId).map (·.state) = some .queued)
      (.storage .physicalAttemptLogicalNotActive)
    require ((db.attempts.select fun _ row =>
        row.logicalRequestId = logicalRequestId && row.state = .unknown) = [])
      (.storage .physicalAttemptAlreadyUnknown)
    require ((db.attempts.select fun _ row =>
        row.logicalRequestId = logicalRequestId && row.state.isActive) = [])
      (.storage .physicalAttemptAlreadyActive)
    let attempt : ProductionPhysicalAttempt :=
      { physicalAttemptId := physicalAttemptId, logicalRequestId := logicalRequestId,
        sequenceNumber := maxSequence db.attempts logicalRequestId + 1,
        leaseGeneration := lease.generation, createdAt := isoformat now }
    let attempts ← insertAttempt db.ledger db.attempts physicalAttemptId attempt.row
    pure (.ok attempt, { db with attempts := attempts })

/-- `discard_reserved_attempt`: only an attempt that never acquired its gates. -/
def discardReservedAttempt (physicalAttemptId : Identifier) (lease : RuntimeLease)
    (now : DateTime) : Database → Except Exn Unit × Database :=
  transaction .physicalAttemptDiscardFailed fun db => do
    assertFence db lease now
    require ((db.attempts.get? physicalAttemptId).any fun row =>
        row.leaseGeneration = lease.generation && row.state = .reserved &&
          (db.gates.reservations.select fun _ reservation =>
            reservation.physicalAttemptId = physicalAttemptId) = [])
      (.storage .physicalAttemptDiscardRejected)
    -- the only other reference to an attempt
    require ((db.publications.select fun _ row =>
        row.intent.physicalAttemptId = physicalAttemptId) = []) .integrity
    pure (.ok (), { db with attempts := db.attempts.deleteWhere fun id _ => id = physicalAttemptId })

/-- `mark_physical_attempt_started` -/
def markPhysicalAttemptStarted (physicalAttemptId : Identifier) (lease : RuntimeLease)
    (now : DateTime) : Database → Except Exn Unit × Database :=
  transaction .physicalAttemptTransitionFailed fun db => do
    assertFence db lease now
    require ((db.attempts.get? physicalAttemptId).any fun row =>
        row.leaseGeneration = lease.generation && row.state = .reserved)
      (.storage .physicalAttemptTransitionRejected)
    pure (.ok (), { db with attempts := db.attempts.modify physicalAttemptId fun row =>
      { row with state := .started } })

end StockResearch.Requests
