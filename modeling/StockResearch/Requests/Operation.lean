import StockResearch.Requests.Recovery

/-!
# Raw publications and the repository as a state machine

The publication rows of a raw artifact, and then every mutating method of
`ProductionRequestRepository` as one operation: `Operation.run` is the database a
call leaves behind, and a run of the repository is a sequence of operations in
any order, by any owner, with any arguments.
-/

namespace StockResearch.Requests

/-! ## Raw publications -/

/-- `begin_raw_publication` -/
def beginRawPublication (intent : RawPublicationIntent) (lease : RuntimeLease) (now : DateTime) :
    Database → Except Exn Unit × Database :=
  transaction .rawPublicationIntentFailed fun db => do
    assertFence db lease now
    require ((db.attempts.get? intent.physicalAttemptId).any fun attempt =>
        attempt.logicalRequestId = intent.logicalRequestId &&
          (db.ledger.requests.get? attempt.logicalRequestId).any (fun request =>
            request.taskId = intent.taskId && request.sourceId = intent.sourceId &&
              request.operation = intent.operation) &&
          (attempt.state = .succeeded || attempt.state = .failed) && attempt.rawEligible)
      (.storage .rawPublicationAttemptMismatch)
    -- one publication per physical attempt
    require ((db.publications.select fun _ row =>
        row.intent.physicalAttemptId = intent.physicalAttemptId) = []) .integrity
    let publications ← insertRow db.publications intent.publicationId
      ⟨intent, none, .staging, now, none⟩
    pure (.ok (), { db with publications := publications })

/-- The publication states that are not final. -/
def RawPublicationState.isOpen : RawPublicationState → Bool
  | .staging | .reconciliationRequired => true
  | .committed | .failed => false

/-- `commit_raw_publication` -/
def commitRawPublication (reference : CommittedRawReference) (lease : RuntimeLease)
    (now : DateTime) : Database → Except Exn Unit × Database :=
  transaction .rawPublicationCommitFailed fun db => do
    assertFence db lease now
    require ((db.publications.get? reference.publicationId).any fun row =>
        row.intent.taskId = reference.taskId &&
          row.intent.logicalRequestId = reference.logicalRequestId &&
          row.intent.physicalAttemptId = reference.physicalAttemptId &&
          row.intent.contentSha256 = reference.contentSha256 &&
          row.intent.byteCount = reference.byteCount &&
          row.intent.rawSchemaId = reference.rawSchemaId &&
          row.intent.rawSchemaVersion = reference.rawSchemaVersion &&
          row.intent.publicationGeneration = reference.publicationGeneration && row.state.isOpen)
      (.storage .rawPublicationTransitionRejected)
    pure (.ok (), { db with publications := db.publications.modify reference.publicationId fun row =>
      { row with
        relativePath := some reference.relativePath, state := .committed
        committedAt := some now } })

/-- `_transition_raw_publication` -/
def transitionRawPublication (publicationId : Identifier) (target : RawPublicationState)
    (sources : List RawPublicationState) (lease : RuntimeLease) (now : DateTime) :
    Database → Except Exn Unit × Database :=
  transaction .rawPublicationTransitionFailed fun db => do
    assertFence db lease now
    require ((db.publications.get? publicationId).any fun row => row.state ∈ sources)
      (.storage .rawPublicationTransitionRejected)
    pure (.ok (), { db with publications := db.publications.modify publicationId fun row =>
      { row with state := target } })

/-- `fail_raw_publication` -/
def failRawPublication (publicationId : Identifier) (lease : RuntimeLease) (now : DateTime) :
    Database → Except Exn Unit × Database :=
  transitionRawPublication publicationId .failed [.staging, .reconciliationRequired] lease now

/-- `mark_raw_publication_reconciliation_required` -/
def markRawPublicationReconciliationRequired (publicationId : Identifier) (lease : RuntimeLease)
    (now : DateTime) : Database → Except Exn Unit × Database :=
  transitionRawPublication publicationId .reconciliationRequired [.staging] lease now

/-- `_raw_reference` -/
def rawReference (row : RawPublicationRow) : Option CommittedRawReference :=
  if row.state = .committed then
    row.relativePath.map fun path =>
      { publicationId := row.intent.publicationId, taskId := row.intent.taskId
        logicalRequestId := row.intent.logicalRequestId
        physicalAttemptId := row.intent.physicalAttemptId, relativePath := path
        contentSha256 := row.intent.contentSha256, byteCount := row.intent.byteCount
        rawSchemaId := row.intent.rawSchemaId, rawSchemaVersion := row.intent.rawSchemaVersion
        publicationGeneration := row.intent.publicationGeneration }
  else none

/-- `committed_raw_references`: the committed responses of the request that owns the
result, by attempt. -/
def committedRawReferences (db : Database) (logicalRequestId : Identifier) :
    List (Option CommittedRawReference) :=
  let owner := (((db.flight.consumers.get? logicalRequestId).filter fun row =>
    row.state = .completed).bind (·.resultOwnerId)).getD logicalRequestId
  (orderBy (fun a b => decide (a.2.intent.physicalAttemptId.text ≤ b.2.intent.physicalAttemptId.text))
    (db.publications.select fun _ row =>
      row.intent.logicalRequestId = owner && row.state = .committed)).map fun entry =>
        rawReference entry.2

/-! ## Operations -/

/-- One call of a mutating repository method. -/
inductive Operation
  | addLogicalRequest (request : ProductionLogicalRequest)
  | enqueueLogicalRequest (request : ProductionLogicalRequest) (rateDomain : Identifier)
      (lease : RuntimeLease) (now : DateTime) (policy : QueuePolicy)
  | admitLogicalRequest (request : ProductionLogicalRequest) (rateDomain : Identifier)
      (cachePolicy : ProductionCachePolicy) (lease : RuntimeLease) (now : DateTime)
      (queuePolicy : QueuePolicy)
  | cancelAdmittedRequest (logicalRequestId reason : Identifier) (lease : RuntimeLease)
      (now : DateTime)
  | claimNextQueued (rateDomain : Identifier) (lease : RuntimeLease) (now : DateTime)
  | acquireGates (reservationId : Identifier) (attempt : ProductionPhysicalAttempt)
      (keys : GateKeys) (policy : HierarchicalGatePolicy) (lease : RuntimeLease) (now : DateTime)
  | releaseGates (reservation : GateReservation) (outcome : PhysicalAttemptState)
      (lease : RuntimeLease) (now : DateTime) (rawEligible : Option Bool)
  | recordRetryAfter (reservation : GateReservation) (retryAfter : Seconds) (lease : RuntimeLease)
      (now : DateTime)
  | recordUnknownOutcome (reservation : GateReservation) (lease : RuntimeLease) (now : DateTime)
  | addPhysicalAttempt (attempt : ProductionPhysicalAttempt)
  | reserveNextPhysicalAttempt (physicalAttemptId logicalRequestId : Identifier)
      (lease : RuntimeLease) (now : DateTime)
  | discardReservedAttempt (physicalAttemptId : Identifier) (lease : RuntimeLease) (now : DateTime)
  | markPhysicalAttemptStarted (physicalAttemptId : Identifier) (lease : RuntimeLease)
      (now : DateTime)
  | completeLogicalRequest (result : ProductionLogicalResult) (lease : RuntimeLease)
      (now : DateTime)
  | finalizeLogicalRequest (result : ProductionLogicalResult) (lease : RuntimeLease)
      (now : DateTime)
  | beginRawPublication (intent : RawPublicationIntent) (lease : RuntimeLease) (now : DateTime)
  | commitRawPublication (reference : CommittedRawReference) (lease : RuntimeLease)
      (now : DateTime)
  | failRawPublication (publicationId : Identifier) (lease : RuntimeLease) (now : DateTime)
  | markRawPublicationReconciliationRequired (publicationId : Identifier) (lease : RuntimeLease)
      (now : DateTime)
  | acquireLease (ownerToken : Identifier) (now : DateTime) (policy : RuntimeLeasePolicy)
  | heartbeatLease (lease : RuntimeLease) (now : DateTime) (policy : RuntimeLeasePolicy)
  | releaseLease (lease : RuntimeLease) (now : DateTime)
  | recoverExpiredLease (ownerToken : Identifier) (now : DateTime) (policy : RuntimeLeasePolicy)

/-- The operations that take a lease, or acquire one. -/
def Operation.fenced : Operation → Bool
  | .addLogicalRequest _ | .addPhysicalAttempt _ => false
  | _ => true

/-- Forget the value of a call, keeping how it ended and what it left behind. -/
def discardValue {α : Type} (r : Except Exn α × Database) : Except Exn Unit × Database :=
  (r.1.map fun _ => (), r.2)

/-- How a call ends, and the database it leaves behind. -/
def Operation.run (op : Operation) (db : Database) : Except Exn Unit × Database :=
  match op with
  | .addLogicalRequest request => Requests.addLogicalRequest request db
  | .enqueueLogicalRequest request rateDomain lease now policy =>
    Requests.enqueueLogicalRequest request rateDomain lease now policy db
  | .admitLogicalRequest request rateDomain cachePolicy lease now queuePolicy =>
    discardValue (Requests.admitLogicalRequest request rateDomain cachePolicy lease now queuePolicy db)
  | .cancelAdmittedRequest id reason lease now =>
    discardValue (Requests.cancelAdmittedRequest id reason lease now db)
  | .claimNextQueued rateDomain lease now =>
    discardValue (Requests.claimNextQueued rateDomain lease now db)
  | .acquireGates reservationId attempt keys policy lease now =>
    discardValue (Requests.acquireGates reservationId attempt keys policy lease now db)
  | .releaseGates reservation outcome lease now rawEligible =>
    Requests.releaseGates reservation outcome lease now rawEligible db
  | .recordRetryAfter reservation retryAfter lease now =>
    Requests.recordRetryAfter reservation retryAfter lease now db
  | .recordUnknownOutcome reservation lease now =>
    Requests.recordUnknownOutcome reservation lease now db
  | .addPhysicalAttempt attempt => Requests.addPhysicalAttempt attempt db
  | .reserveNextPhysicalAttempt attemptId logicalRequestId lease now =>
    discardValue (Requests.reserveNextPhysicalAttempt attemptId logicalRequestId lease now db)
  | .discardReservedAttempt attemptId lease now =>
    Requests.discardReservedAttempt attemptId lease now db
  | .markPhysicalAttemptStarted attemptId lease now =>
    Requests.markPhysicalAttemptStarted attemptId lease now db
  | .completeLogicalRequest result lease now => Requests.completeLogicalRequest result lease now db
  | .finalizeLogicalRequest result lease now => Requests.finalizeLogicalRequest result lease now db
  | .beginRawPublication intent lease now => Requests.beginRawPublication intent lease now db
  | .commitRawPublication reference lease now =>
    Requests.commitRawPublication reference lease now db
  | .failRawPublication publicationId lease now =>
    Requests.failRawPublication publicationId lease now db
  | .markRawPublicationReconciliationRequired publicationId lease now =>
    Requests.markRawPublicationReconciliationRequired publicationId lease now db
  | .acquireLease ownerToken now policy =>
    discardValue (Requests.acquireLease ownerToken now policy db)
  | .heartbeatLease lease now policy => discardValue (Requests.heartbeatLease lease now policy db)
  | .releaseLease lease now => Requests.releaseLease lease now db
  | .recoverExpiredLease ownerToken now policy =>
    discardValue (Requests.recoverExpiredLease ownerToken now policy db)

end StockResearch.Requests
