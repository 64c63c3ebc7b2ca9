import StockResearch.Requests.Gates

/-!
# Logical results and single flights

A logical request gets one result, in the same statement pair that makes it
terminal (`closeRequest`). Finishing a single flight delivers the leader's result
to every active consumer; reconciliation finishes the flights whose leader already
has a result.
-/

namespace StockResearch.Requests

/-! ## Logical results -/

/-- `_result_state` -/
def resultState : LogicalResultOutcome → LogicalRequestState
  | .succeeded => .succeeded
  | .failed => .failed
  | .cancelled => .cancelled
  | .unknown => .failed

/-- The stored columns of a result. -/
def ProductionLogicalResult.row (result : ProductionLogicalResult) : LogicalResultRow where
  outcome := result.outcome
  completedAt := result.completedAt
  errorCode := result.errorCode

/-- Make a queued request terminal and insert its result; raise `error` when the
request is not queued. -/
def closeRequest (error : RuntimeStorageError) (logicalRequestId : Identifier)
    (state : LogicalRequestState) (result : LogicalResultRow) (ledger : LedgerTables) :
    Except Exn LedgerTables := do
  require ((ledger.requests.get? logicalRequestId).map (·.state) = some .queued) (.storage error)
  let results ← insertRow ledger.results logicalRequestId result
  pure
    { requests := ledger.requests.modify logicalRequestId fun row => { row with state := state }
      results := results }

/-- `_persist_logical_result` -/
def persistLogicalResult (result : ProductionLogicalResult) (ledger : LedgerTables) :
    Except Exn LedgerTables :=
  closeRequest .logicalRequestNotActive result.logicalRequestId (resultState result.outcome)
    result.row ledger

/-- `_cancel_logical` -/
def cancelLogical (logicalRequestId : Identifier) (now : DateTime) (reason : Identifier)
    (outcome : LogicalResultOutcome) (ledger : LedgerTables) : Except Exn LedgerTables :=
  closeRequest .logicalRequestNotCancellable logicalRequestId
    (if outcome = .cancelled then .cancelled else .failed)
    ⟨outcome, isoformat now, if outcome = .cancelled then none else some reason⟩ ledger

/-- `_read_logical_result`; a row that is not a valid result raises `error`. -/
def readLogicalResult (error : RuntimeStorageError) (ledger : LedgerTables)
    (logicalRequestId : Identifier) : Except Exn (Option ProductionLogicalResult) :=
  match ledger.results.get? logicalRequestId with
  | none => pure none
  | some row =>
    if h : errorCodeMatches row.outcome row.errorCode = true then
      pure (some ⟨logicalRequestId, row.outcome, row.completedAt, row.errorCode, h⟩)
    else
      .error (.storage error)

/-- The attempt states of a request, by sequence number. -/
def attemptStates (attempts : Table Identifier PhysicalAttemptRow) (logicalRequestId : Identifier) :
    List PhysicalAttemptState :=
  (orderBy (fun a b => decide (a.2.sequenceNumber ≤ b.2.sequenceNumber))
    (attempts.select fun _ row => row.logicalRequestId = logicalRequestId)).map (·.2.state)

/-- `_validate_attempt_outcome` -/
def validateAttemptOutcome (attempts : Table Identifier PhysicalAttemptRow)
    (result : ProductionLogicalResult) : Except Exn Unit := do
  let states := attemptStates attempts result.logicalRequestId
  require (∀ s ∈ states, s.isActive = false) (.storage .logicalRequestHasActiveAttempt)
  require (result.outcome = .succeeded →
    states.getLast? = some .succeeded ∧ PhysicalAttemptState.unknown ∉ states)
    (.storage .logicalSuccessAttemptsInvalid)
  require (result.outcome = .unknown → PhysicalAttemptState.unknown ∈ states)
    (.storage .logicalUnknownAttemptMissing)

/-- `_validate_finalization` -/
def validateFinalization (db : Database) (result : ProductionLogicalResult) : Except Exn Unit := do
  require ((db.ledger.requests.get? result.logicalRequestId).map (·.state) = some .queued)
    (.storage .logicalRequestNotActive)
  require (∀ consumer ∈ db.flight.consumers.get? result.logicalRequestId,
    consumer.role = .leader ∧ consumer.state = .active) (.storage .singleFlightLeaderRequired)
  validateAttemptOutcome db.attempts result

/-! ## Finishing a flight -/

/-- `_append_admission_event` -/
def FlightTables.appendEvent (flight : FlightTables) (logicalRequestId : Identifier)
    (eventType : AdmissionEventType) (now : DateTime) (reason : Option Identifier) : FlightTables :=
  { flight with events := flight.events ++ [⟨logicalRequestId, eventType, now, reason⟩] }

/-- The active consumers of a fingerprint. -/
def FlightTables.activeConsumers (flight : FlightTables) (fingerprint : Sha256Hex) :
    List (Identifier × ConsumerRow) :=
  flight.consumers.select fun _ row => row.requestFingerprint = fingerprint && row.state = .active

/-- Close the flight of a fingerprint. -/
def FlightTables.terminate (flight : FlightTables) (fingerprint : Sha256Hex) : FlightTables :=
  { flight with flights := flight.flights.modify fingerprint fun row =>
      { row with state := .terminal } }

/-- One row of the join of active consumers with their logical requests. -/
structure WaitingConsumer where
  logicalRequestId : Identifier
  role : ConsumerRole
  requestFingerprint : Sha256Hex

/-- The active consumers of a fingerprint that have a logical request, by id. -/
def waitingConsumers (db : Database) (fingerprint : Sha256Hex) : List WaitingConsumer :=
  (orderBy (fun a b => decide (a.1.text ≤ b.1.text)) (db.flight.activeConsumers fingerprint)).filterMap
    fun entry => (db.ledger.requests.get? entry.1).map fun request =>
      ⟨entry.1, entry.2.role, request.requestFingerprint⟩

/-- Deliver the leader's result to one consumer of its flight. -/
def deliverResult (result : ProductionLogicalResult) (fingerprint : Sha256Hex) (now : DateTime)
    (db : Database) (consumer : WaitingConsumer) : Except Exn Database := do
  let leaderId := result.logicalRequestId
  require (consumer.requestFingerprint = fingerprint ∧
    (db.flight.events.any fun event =>
      event.logicalRequestId = consumer.logicalRequestId && event.eventType.isJoin) = true ∧
    (consumer.role = .leader ↔ consumer.logicalRequestId = leaderId))
    (.storage .singleFlightAuditGap)
  let ledger ←
    if consumer.logicalRequestId = leaderId then pure db.ledger
    else do
      require ((db.attempts.select fun _ row =>
        row.logicalRequestId = consumer.logicalRequestId) = [])
        (.storage .singleFlightFollowerHasAttempt)
      persistLogicalResult { result with logicalRequestId := consumer.logicalRequestId } db.ledger
  let flight : FlightTables :=
    { db.flight with consumers := db.flight.consumers.modify consumer.logicalRequestId fun row =>
        { row with state := .completed, resultOwnerId := some leaderId } }
  pure { db with
    ledger := ledger
    flight := flight.appendEvent consumer.logicalRequestId .singleFlightCompleted now (some leaderId) }

/-- `_finish_single_flight` -/
def finishSingleFlight (result : ProductionLogicalResult) (now : DateTime) (db : Database) :
    Except Exn Database :=
  let leaderId := result.logicalRequestId
  match db.flight.consumers.get? leaderId with
  | none => pure db
  | some leader => do
    let fingerprint := leader.requestFingerprint
    require (leader.role = .leader ∧ leader.state = .active ∧
      db.flight.flights.get? fingerprint = some ⟨leaderId, .active⟩)
      (.storage .singleFlightStateInconsistent)
    let db ← (waitingConsumers db fingerprint).foldlM (deliverResult result fingerprint now) db
    pure { db with
      flight := db.flight.terminate fingerprint
      queue.entries := db.queue.entries.updateWhere
        (fun id row => id = leaderId && row.state = .queued) fun row => { row with state := .cancelled } }

/-! ## Reconciliation -/

/-- One active flight joined with its leader's request and consumer rows. -/
structure OpenFlight where
  leaderLogicalRequestId : Identifier
  requestState : Option LogicalRequestState
  consumer : Option (ConsumerRole × ConsumerState)

/-- The active flights, or the active flight of one fingerprint. -/
def openFlights (db : Database) (fingerprint : Option Sha256Hex) : List OpenFlight :=
  (db.flight.flights.select fun key row =>
      row.state = .active && fingerprint.all fun f => key = f).map fun entry =>
    { leaderLogicalRequestId := entry.2.leaderLogicalRequestId
      requestState := (db.ledger.requests.get? entry.2.leaderLogicalRequestId).map (·.state)
      consumer := (db.flight.consumers.get? entry.2.leaderLogicalRequestId).map
        fun row => (row.role, row.state) }

/-- Finish one flight whose leader already has a result. -/
def reconcileFlight (now : DateTime) (db : Database) (flight : OpenFlight) :
    Except Exn Database := do
  require (flight.consumer = some (.leader, .active) ∧ flight.requestState ≠ none)
    (.storage .singleFlightStateInconsistent)
  let result ← readLogicalResult .singleFlightAuditGap db.ledger flight.leaderLogicalRequestId
  if flight.requestState = some .queued ∧ result = none then
    pure db
  else do
    let result ← fetch result (.storage .singleFlightAuditGap)
    require (flight.requestState = some (resultState result.outcome)) (.storage .singleFlightAuditGap)
    validateAttemptOutcome db.attempts result
    finishSingleFlight result now db

/-- `_reconcile_terminal_flights` -/
def reconcileTerminalFlights (now : DateTime) (fingerprint : Option Sha256Hex) (db : Database) :
    Except Exn Database :=
  (openFlights db fingerprint).foldlM (reconcileFlight now) db

/-! ## Finalization -/

/-- `complete_logical_request` -/
def completeLogicalRequest (result : ProductionLogicalResult) (lease : RuntimeLease)
    (now : DateTime) : Database → Except Exn Unit × Database :=
  transaction .logicalResultPersistenceFailed fun db => do
    assertFence db lease now
    if db.flight.consumers.get? result.logicalRequestId ≠ none then
      validateFinalization db result
    let ledger ← persistLogicalResult result db.ledger
    let db ← finishSingleFlight result now { db with ledger := ledger }
    pure (.ok (), db)

/-- `finalize_logical_request` -/
def finalizeLogicalRequest (result : ProductionLogicalResult) (lease : RuntimeLease)
    (now : DateTime) : Database → Except Exn Unit × Database :=
  transaction .logicalResultPersistenceFailed fun db => do
    assertFence db lease now
    validateFinalization db result
    let ledger ← persistLogicalResult result db.ledger
    let db ← finishSingleFlight result now { db with ledger := ledger }
    pure (.ok (), db)

end StockResearch.Requests
