import StockResearch.Lib.Run
import StockResearch.Requests.Effects

/-!
# Transitions and runs of the repository

`Transition op db db'` lists every way an operation can change the database, with
the guards under which it does; `Operation.transition` says that the list is
complete. A run invariant is proved by one case analysis over it.

- `Operation.next`, `Reachable`: runs of the repository from a new database.
- `Operation.next_eq_self`: a call that raises has no effect.
-/

namespace StockResearch.Requests

/-! ## Runs -/

/-- The database one operation leaves behind. -/
def Operation.next (op : Operation) (db : Database) : Database := (op.run db).2

/-- The databases of all runs of allowed operations on a new database. -/
def Reachable (allowed : Operation → Database → Prop) (db : Database) : Prop :=
  Reaches Operation.next allowed Database.initial db

/-- An explicit list of allowed operations is a run. -/
theorem reachable_runAll {allowed : Operation → Database → Prop} {ops : List Operation}
    (h : AllowedAlong Operation.next allowed ops Database.initial) :
    Reachable allowed (runAll Operation.next ops Database.initial) :=
  Reaches.runAll h

@[simp] theorem discardValue_snd {α : Type} (r : Except Exn α × Database) :
    (discardValue r).2 = r.2 := rfl

theorem discardValue_error {α : Type} {r : Except Exn α × Database} {e : Exn} :
    (discardValue r).1 = .error e ↔ r.1 = .error e := by
  obtain ⟨x, db⟩ := r
  cases x <;> simp [discardValue, Except.map]

/-- What a successful recovery leaves behind. -/
theorem recoverExpiredLease_next {ownerToken : Identifier} {now : DateTime}
    {policy : RuntimeLeasePolicy} {lease : RuntimeLease} {db db' : Database}
    (h : recoverExpiredLease ownerToken now policy db = (.ok lease, db')) :
    (Operation.recoverExpiredLease ownerToken now policy).next db = db' := by
  rw [Operation.next, Operation.run, discardValue, h]

theorem acquireLease_next {ownerToken : Identifier} {now : DateTime} {policy : RuntimeLeasePolicy}
    {lease : RuntimeLease} {db db' : Database}
    (h : acquireLease ownerToken now policy db = (.ok lease, db')) :
    (Operation.acquireLease ownerToken now policy).next db = db' := by
  rw [Operation.next, Operation.run, discardValue, h]

/-! ## Transitions -/

/-- The operations that write publication rows. -/
def Operation.publishes : Operation → Bool
  | .beginRawPublication .. | .commitRawPublication .. | .failRawPublication ..
  | .markRawPublicationReconciliationRequired .. => true
  | _ => false

/-- The operations that close a request with a result, `validated` beforehand. -/
inductive Operation.Closes (result : ProductionLogicalResult) (lease : RuntimeLease)
    (now : DateTime) (db : Database) : Operation → Prop
  | complete (hvalid : db.flight.consumers.get? result.logicalRequestId ≠ none →
      validateFinalization db result = .ok ()) :
    Closes result lease now db (.completeLogicalRequest result lease now)
  | finalize (hvalid : validateFinalization db result = .ok ()) :
    Closes result lease now db (.finalizeLogicalRequest result lease now)

/-- The operations that finish a gate reservation. -/
inductive Operation.Finishes (reservation : GateReservation) (lease : RuntimeLease)
    (now : DateTime) : PhysicalAttemptState → Option Seconds → Operation → Prop
  | release {outcome : PhysicalAttemptState} (rawEligible : Option Bool)
      (houtcome : outcome = .succeeded ∨ outcome = .failed) :
    Finishes reservation lease now outcome none
      (.releaseGates reservation outcome lease now rawEligible)
  | retryAfter (seconds : Seconds) :
    Finishes reservation lease now .failed (some seconds)
      (.recordRetryAfter reservation seconds lease now)
  | unknown :
    Finishes reservation lease now .unknown none (.recordUnknownOutcome reservation lease now)

/-- Finished attempts are terminal. -/
theorem Operation.Finishes.terminal {reservation : GateReservation} {lease : RuntimeLease}
    {now : DateTime} {outcome : PhysicalAttemptState} {retryAfter : Option Seconds}
    {op : Operation} (h : op.Finishes reservation lease now outcome retryAfter) :
    outcome.isActive = false := by
  cases h with
  | release _ houtcome => rcases houtcome with rfl | rfl <;> rfl
  | retryAfter => rfl
  | unknown => rfl

/-- Every way an operation can change the database. -/
inductive Transition : Operation → Database → Database → Prop
  | unchanged (op : Operation) (db : Database) : Transition op db db
  | publish {op : Operation} {db : Database} (hop : op.publishes = true)
      (publications : Table Identifier RawPublicationRow) :
    Transition op db { db with publications := publications }
  | heartbeat {lease : RuntimeLease} {now expires : DateTime} {policy : RuntimeLeasePolicy}
      {db : Database} {row : RuntimeLeaseRow} (hrow : currentLease db lease = some row)
      (hheartbeat : lease.heartbeatAt ≤ now) (hexpires : leaseExpiry now policy = .ok expires) :
    Transition (.heartbeatLease lease now policy) db
      { db with lease := some { row with heartbeatAt := now, expiresAt := expires } }
  | release {lease : RuntimeLease} {now : DateTime} {db : Database} {row : RuntimeLeaseRow}
      (hrow : currentLease db lease = some row) :
    Transition (.releaseLease lease now) db { db with lease := some { row with active := false } }
  | submit {request : ProductionLogicalRequest} {db : Database} {ledger : LedgerTables}
      (hledger : insertLogicalRequest request db.ledger = .ok ledger) :
    Transition (.addLogicalRequest request) db { db with ledger := ledger }
  | enqueue {request : ProductionLogicalRequest} {rateDomain : Identifier} {lease : RuntimeLease}
      {now : DateTime} {policy : QueuePolicy} {db : Database} {row : RuntimeLeaseRow}
      {ledger : LedgerTables} (hfence : FenceHolds db lease now row)
      (hledger : insertLogicalRequest request db.ledger = .ok ledger)
      (hfresh : db.queue.entries.get? request.logicalRequestId = none) :
    Transition (.enqueueLogicalRequest request rateDomain lease now policy) db
      { db with
        ledger := ledger
        queue := enqueuedQueue request rateDomain now false db.queue }
  | rejectEnqueue {request : ProductionLogicalRequest} {rateDomain : Identifier}
      {lease : RuntimeLease} {now : DateTime} {policy : QueuePolicy} {db : Database}
      {row : RuntimeLeaseRow} {ledger : LedgerTables} (hfence : FenceHolds db lease now row)
      (hledger : insertLogicalRequest request db.ledger = .ok ledger)
      (hfresh : db.queue.entries.get? request.logicalRequestId = none)
      (hresult : ledger.results.get? request.logicalRequestId = none) :
    Transition (.enqueueLogicalRequest request rateDomain lease now policy) db
      { db with
        ledger :=
          { requests := ledger.requests.modify request.logicalRequestId fun row =>
              { row with state := .failed }
            results := ledger.results.insert request.logicalRequestId
              ⟨.failed, isoformat now, some queueFullCode⟩ }
        queue := enqueuedQueue request rateDomain now true db.queue }
  | admitLeader {request : ProductionLogicalRequest} {rateDomain : Identifier}
      {cachePolicy : ProductionCachePolicy} {lease : RuntimeLease} {now : DateTime}
      {queuePolicy : QueuePolicy} {db : Database} {row : RuntimeLeaseRow} {ledger : LedgerTables}
      {reconciled db' : Database} {rejected : Bool} (hfence : FenceHolds db lease now row)
      (hledger : insertLogicalRequest request db.ledger = .ok ledger)
      (hreconcile : reconcileTerminalFlights now (some request.requestFingerprint)
        { db with
          ledger := ledger
          flight := db.flight.appendEvent request.logicalRequestId
            (.cache (if cachePolicy.applicable then .disabled else .notApplicable)) now none } =
          .ok reconciled)
      (hfresh : reconciled.flight.consumers.get? request.logicalRequestId = none)
      (hleader : activeLeader reconciled.flight request.requestFingerprint = none)
      (hnobody : reconciled.flight.activeConsumers request.requestFingerprint = [])
      (hqueue : queueLeader request rateDomain now queuePolicy
        { reconciled with
          flight := joinedFlight request .leader cachePolicy rateDomain request.logicalRequestId now
            (openFlight request.requestFingerprint request.logicalRequestId reconciled.flight) } =
          .ok (rejected, db')) :
    Transition (.admitLogicalRequest request rateDomain cachePolicy lease now queuePolicy) db db'
  | admitFollower {request : ProductionLogicalRequest} {rateDomain : Identifier}
      {cachePolicy : ProductionCachePolicy} {lease : RuntimeLease} {now : DateTime}
      {queuePolicy : QueuePolicy} {db : Database} {row : RuntimeLeaseRow} {ledger : LedgerTables}
      {reconciled : Database} {leaderId : Identifier} (hfence : FenceHolds db lease now row)
      (hledger : insertLogicalRequest request db.ledger = .ok ledger)
      (hreconcile : reconcileTerminalFlights now (some request.requestFingerprint)
        { db with
          ledger := ledger
          flight := db.flight.appendEvent request.logicalRequestId
            (.cache (if cachePolicy.applicable then .disabled else .notApplicable)) now none } =
          .ok reconciled)
      (hfresh : reconciled.flight.consumers.get? request.logicalRequestId = none)
      (hleader : activeLeader reconciled.flight request.requestFingerprint =
        some (leaderId, rateDomain)) :
    Transition (.admitLogicalRequest request rateDomain cachePolicy lease now queuePolicy) db
      { reconciled with
        flight := joinedFlight request .follower cachePolicy rateDomain leaderId now
          reconciled.flight }
  | claim {rateDomain : Identifier} {lease : RuntimeLease} {now : DateTime} {db : Database}
      {row : RuntimeLeaseRow} {id : Identifier} {entry : QueueEntryRow} {queue : QueueTables}
      (hfence : FenceHolds db lease now row) (hentry : db.queue.entries.get? id = some entry)
      (hqueued : entry.state = .queued)
      (hqueue : queue.entries = db.queue.entries.modify id fun row =>
        { row with state := .dequeued, dequeuedAt := some now }) :
    Transition (.claimNextQueued rateDomain lease now) db { db with queue := queue }
  | cancelFollower {id reason : Identifier} {lease : RuntimeLease} {now : DateTime} {db : Database}
      {row : RuntimeLeaseRow} {consumer : ConsumerRow} {ledger : LedgerTables}
      (hfence : FenceHolds db lease now row)
      (hconsumer : db.flight.consumers.get? id = some consumer) (hactive : consumer.state = .active)
      (hrole : consumer.role = .follower)
      (hledger : cancelLogical id now reason .cancelled db.ledger = .ok ledger) :
    Transition (.cancelAdmittedRequest id reason lease now) db
      { db with
        ledger := ledger
        flight := (db.flight.cancelConsumer id).appendEvent id .followerCancelled now
          (some reason) }
  | cancelLeader {id reason : Identifier} {lease : RuntimeLease} {now : DateTime} {db db' : Database}
      {row : RuntimeLeaseRow} {consumer : ConsumerRow} {promoted : Option Identifier}
      (hfence : FenceHolds db lease now row)
      (hconsumer : db.flight.consumers.get? id = some consumer) (hactive : consumer.state = .active)
      (hrole : consumer.role = .leader)
      (hcancel : cancelLeader id consumer.requestFingerprint now reason db = .ok (promoted, db')) :
    Transition (.cancelAdmittedRequest id reason lease now) db db'
  | blocked {reservationId : Identifier} {attempt : ProductionPhysicalAttempt} {keys : GateKeys}
      {policy : HierarchicalGatePolicy} {lease : RuntimeLease} {now : DateTime} {db : Database}
      {row : RuntimeLeaseRow} (hfence : FenceHolds db lease now row) (event : GateEventRow) :
    Transition (.acquireGates reservationId attempt keys policy lease now) db
      { db with gates.events := db.gates.events ++ [event] }
  | acquire {reservationId : Identifier} {attempt : ProductionPhysicalAttempt} {keys : GateKeys}
      {policy : HierarchicalGatePolicy} {lease : RuntimeLease} {now : DateTime} {db : Database}
      {row : RuntimeLeaseRow} {attempts : Table Identifier PhysicalAttemptRow}
      {reservations : Table Identifier GateReservationRow} {gates : GateTables}
      (hfence : FenceHolds db lease now row)
      (hgeneration : attempt.leaseGeneration = lease.generation)
      (hdequeued : (db.queue.entries.get? attempt.logicalRequestId).map (·.state) = some .dequeued)
      (hqueued : (db.ledger.requests.get? attempt.logicalRequestId).map (·.state) = some .queued)
      (hfree : firstBlocked db.gates policy now keys.ordered = .ok none)
      (hattempt : ensureReservedAttempt db.ledger db.attempts attempt = .ok attempts)
      (hreserve : insertReservation db.gates.reservations reservationId
        ⟨attempt.physicalAttemptId, attempt.logicalRequestId, lease.generation, now, .active⟩ =
          .ok reservations)
      (hgates : keys.ordered.foldlM (acquireGate reservationId attempt.logicalRequestId now)
        { db.gates with reservations := reservations } = .ok gates) :
    Transition (.acquireGates reservationId attempt keys policy lease now) db
      { db with attempts := attempts, gates := gates }
  | finish {op : Operation} {reservation : GateReservation} {outcome : PhysicalAttemptState}
      {retryAfter : Option Seconds} {lease : RuntimeLease} {now : DateTime} {db : Database}
      {row : RuntimeLeaseRow} {current : GateReservationRow}
      {state : Table (GateScope × Identifier) GateStateRow} {gates : GateTables}
      (hop : op.Finishes reservation lease now outcome retryAfter) (rawEligible : Bool)
      (hfence : FenceHolds db lease now row)
      (hcurrent : db.gates.reservations.get? reservation.reservationId = some current)
      (hactive : current.state = .active)
      (hlogical : current.logicalRequestId = reservation.logicalRequestId)
      (hattempt : current.physicalAttemptId = reservation.physicalAttemptId)
      (hgeneration : current.leaseGeneration = lease.generation)
      (hstate : decrementGates .gateStateInconsistent
        (sortedScopes db.gates reservation.reservationId) db.gates.state = .ok state)
      (hcooldown : retryAfter = none ∧
          gates = releasedGates reservation.reservationId state db.gates ∨
        ∃ seconds, retryAfter = some seconds ∧
          recordCooldown reservation (sortedScopes db.gates reservation.reservationId) seconds now
            (releasedGates reservation.reservationId state db.gates) = .ok gates)
      (event : GateEventRow) :
    Transition op db
      { db with
        attempts := db.attempts.updateWhere
          (fun id row => id = reservation.physicalAttemptId && row.state.isActive)
          fun row => { row with state := outcome, rawEligible := rawEligible }
        gates := { gates with events := gates.events ++ [event] } }
  | addAttempt {attempt : ProductionPhysicalAttempt} {db : Database}
      {attempts : Table Identifier PhysicalAttemptRow}
      (hattempt : insertAttempt db.ledger db.attempts attempt.physicalAttemptId attempt.row =
        .ok attempts) :
    Transition (.addPhysicalAttempt attempt) db { db with attempts := attempts }
  | reserveAttempt {attemptId logicalRequestId : Identifier} {lease : RuntimeLease} {now : DateTime}
      {db : Database} {row : RuntimeLeaseRow} {attempts : Table Identifier PhysicalAttemptRow}
      (hfence : FenceHolds db lease now row)
      (hqueued : (db.ledger.requests.get? logicalRequestId).map (·.state) = some .queued)
      (hunknown : (db.attempts.select fun _ row =>
        row.logicalRequestId = logicalRequestId && row.state = .unknown) = [])
      (hlive : (db.attempts.select fun _ row =>
        row.logicalRequestId = logicalRequestId && row.state.isActive) = [])
      (hattempt : insertAttempt db.ledger db.attempts attemptId
        (ProductionPhysicalAttempt.row ⟨attemptId, logicalRequestId,
          maxSequence db.attempts logicalRequestId + 1, lease.generation, isoformat now⟩) =
        .ok attempts) :
    Transition (.reserveNextPhysicalAttempt attemptId logicalRequestId lease now) db
      { db with attempts := attempts }
  | discardAttempt {attemptId : Identifier} {lease : RuntimeLease} {now : DateTime} {db : Database}
      {row : RuntimeLeaseRow} {attempt : PhysicalAttemptRow} (hfence : FenceHolds db lease now row)
      (hattempt : db.attempts.get? attemptId = some attempt)
      (hgeneration : attempt.leaseGeneration = lease.generation)
      (hreserved : attempt.state = .reserved)
      (hungated : (db.gates.reservations.select fun _ reservation =>
        reservation.physicalAttemptId = attemptId) = []) :
    Transition (.discardReservedAttempt attemptId lease now) db
      { db with attempts := db.attempts.deleteWhere fun id _ => id = attemptId }
  | startAttempt {attemptId : Identifier} {lease : RuntimeLease} {now : DateTime} {db : Database}
      {row : RuntimeLeaseRow} {attempt : PhysicalAttemptRow} (hfence : FenceHolds db lease now row)
      (hattempt : db.attempts.get? attemptId = some attempt)
      (hgeneration : attempt.leaseGeneration = lease.generation)
      (hreserved : attempt.state = .reserved) :
    Transition (.markPhysicalAttemptStarted attemptId lease now) db
      { db with attempts := db.attempts.modify attemptId fun row =>
        { row with state := .started } }
  | close {op : Operation} {result : ProductionLogicalResult} {lease : RuntimeLease} {now : DateTime}
      {db db' : Database} {row : RuntimeLeaseRow} {ledger : LedgerTables}
      (hop : op.Closes result lease now db) (hfence : FenceHolds db lease now row)
      (hledger : persistLogicalResult result db.ledger = .ok ledger)
      (hfinish : finishSingleFlight result now { db with ledger := ledger } = .ok db') :
    Transition op db db'
  | acquireLease {ownerToken : Identifier} {now expires : DateTime} {policy : RuntimeLeasePolicy}
      {generation : Nat} {db db' : Database} (hexpires : leaseExpiry now policy = .ok expires)
      (hgeneration : nextGeneration db.lease now = .ok generation)
      (hreconcile : reconcileTerminalFlights now none
        { db with lease := some ⟨ownerToken, generation, now, now, expires, true⟩ } = .ok db') :
    Transition (.acquireLease ownerToken now policy) db db'
  | recover {ownerToken : Identifier} {now expires : DateTime} {policy : RuntimeLeasePolicy}
      {row : RuntimeLeaseRow} {db repaired db' : Database}
      (hexpires : leaseExpiry now policy = .ok expires)
      (hrepairs : RecoveryRepairs db now row repaired)
      (hreconcile : reconcileTerminalFlights now none repaired = .ok db') :
    Transition (.recoverExpiredLease ownerToken now policy) db
      { db' with lease := some ⟨ownerToken, row.generation + 1, now, now, expires, true⟩ }

theorem finishGateReservation_transition {op : Operation} {reservation : GateReservation}
    {outcome : PhysicalAttemptState} {retryAfter : Option Seconds} {lease : RuntimeLease}
    {now : DateTime} (hop : op.Finishes reservation lease now outcome retryAfter)
    (rawEligible : Bool) (db : Database) :
    Transition op db
      (finishGateReservation reservation outcome retryAfter rawEligible lease now db).2 := by
  rcases finishGateReservation_cases reservation outcome retryAfter rawEligible lease now db with
    h | ⟨_, _, _, _, hfence, hcurrent, hactive, hlogical, hattempt, hgeneration, hstate, hcooldown, h⟩
  · rw [h.snd]
    exact .unchanged _ db
  · rw [h]
    exact .finish hop rawEligible hfence hcurrent hactive hlogical hattempt hgeneration hstate
      hcooldown _

theorem transitionRawPublication_transition {op : Operation} (hop : op.publishes = true)
    (publicationId : Identifier) (target : RawPublicationState)
    (sources : List RawPublicationState) (lease : RuntimeLease) (now : DateTime) (db : Database) :
    Transition op db (transitionRawPublication publicationId target sources lease now db).2 := by
  rcases transitionRawPublication_cases publicationId target sources lease now db with h | h
  · rw [h.snd]
    exact .unchanged _ db
  · rw [h]
    exact .publish hop _

/-- Every operation makes one of the transitions. -/
theorem Operation.transition (op : Operation) (db : Database) : Transition op db (op.next db) := by
  -- a refused call leaves the database as it was
  have hsame : ∀ {op : Operation} {db' : Database}, db' = db → Transition op db db' := by
    rintro op _ rfl
    exact .unchanged op _
  cases op with
  | addLogicalRequest request =>
    rcases addLogicalRequest_cases request db with h | ⟨_, hledger, h⟩
    · exact hsame h.snd
    · rw [next, run, h]
      exact .submit hledger
  | enqueueLogicalRequest request rateDomain lease now policy =>
    rcases enqueueLogicalRequest_cases request rateDomain lease now policy db with
      h | ⟨_, _, hfence, hledger, hfresh, ⟨-, h⟩ | ⟨-, hresult, h⟩⟩
    · exact hsame h.snd
    · rw [next, run, h]
      exact .enqueue hfence hledger hfresh
    · -- the queue is full: the request is recorded, and closed as failed
      rw [next, run, h]
      exact .rejectEnqueue hfence hledger hfresh hresult
  | admitLogicalRequest request rateDomain cachePolicy lease now queuePolicy =>
    rw [next, run, discardValue_snd]
    rcases admitLogicalRequest_cases request rateDomain cachePolicy lease now queuePolicy db with
      h | ⟨_, _, _, hfence, hledger, hreconcile, hfresh,
        ⟨_, _, hleader, hnobody, hqueue, h⟩ | ⟨_, hleader, h⟩⟩
    · exact hsame h.snd
    · rw [h]
      exact .admitLeader hfence hledger hreconcile hfresh hleader hnobody hqueue
    · rw [h]
      exact .admitFollower hfence hledger hreconcile hfresh hleader
  | cancelAdmittedRequest id reason lease now =>
    rw [next, run, discardValue_snd]
    rcases cancelAdmittedRequest_cases id reason lease now db with
      h | ⟨_, _, hfence, hconsumer, hactive, ⟨_, hrole, hledger, h⟩ | ⟨_, _, hrole, hcancel, h⟩⟩
    · exact hsame h.snd
    · rw [h]
      exact .cancelFollower hfence hconsumer hactive hrole hledger
    · rw [h]
      exact .cancelLeader hfence hconsumer hactive hrole hcancel
  | claimNextQueued rateDomain lease now =>
    rw [next, run, discardValue_snd]
    rcases claimNextQueued_cases rateDomain lease now db with
      h | h | ⟨_, _, _, _, hfence, hentry, hqueued, -, hqueue, h⟩
    · exact hsame h.snd
    · -- nothing is in line for the domain
      rw [h]
      exact .unchanged _ db
    · rw [h]
      exact .claim hfence hentry hqueued hqueue
  | acquireGates reservationId attempt keys policy lease now =>
    rw [next, run, discardValue_snd]
    rcases acquireGates_cases reservationId attempt keys policy lease now db with
      h | ⟨_, hfence, hgeneration, hdequeued, hqueued, ⟨_, _, -, h⟩ |
        ⟨_, _, _, hfree, hattempt, hreserve, hgates, h⟩⟩
    · exact hsame h.snd
    · -- a gate is closed: only the audit event stays
      rw [h]
      exact .blocked hfence _
    · rw [h]
      exact .acquire hfence hgeneration hdequeued hqueued hfree hattempt hreserve hgates
  | releaseGates reservation outcome lease now rawEligible =>
    rw [next, run]
    rcases releaseGates_cases reservation outcome lease now rawEligible db with
      h | ⟨houtcome, eligible, h⟩
    · exact hsame h.snd
    · rw [h]
      exact finishGateReservation_transition (.release rawEligible houtcome) eligible db
  | recordRetryAfter reservation retryAfter lease now =>
    exact finishGateReservation_transition (.retryAfter retryAfter) true db
  | recordUnknownOutcome reservation lease now =>
    exact finishGateReservation_transition .unknown false db
  | addPhysicalAttempt attempt =>
    rcases addPhysicalAttempt_cases attempt db with h | ⟨_, hattempt, h⟩
    · exact hsame h.snd
    · rw [next, run, h]
      exact .addAttempt hattempt
  | reserveNextPhysicalAttempt attemptId logicalRequestId lease now =>
    rw [next, run, discardValue_snd]
    rcases reserveNextPhysicalAttempt_cases attemptId logicalRequestId lease now db with
      h | ⟨_, _, _, hfence, rfl, hqueued, hunknown, hlive, hattempt, h⟩
    · exact hsame h.snd
    · rw [h]
      exact .reserveAttempt hfence hqueued hunknown hlive hattempt
  | discardReservedAttempt attemptId lease now =>
    rcases discardReservedAttempt_cases attemptId lease now db with
      h | ⟨_, _, hfence, hattempt, hgeneration, hreserved, hungated, h⟩
    · exact hsame h.snd
    · rw [next, run, h]
      exact .discardAttempt hfence hattempt hgeneration hreserved hungated
  | markPhysicalAttemptStarted attemptId lease now =>
    rcases markPhysicalAttemptStarted_cases attemptId lease now db with
      h | ⟨_, _, hfence, hattempt, hgeneration, hreserved, h⟩
    · exact hsame h.snd
    · rw [next, run, h]
      exact .startAttempt hfence hattempt hgeneration hreserved
  | completeLogicalRequest result lease now =>
    rcases completeLogicalRequest_cases result lease now db with
      h | ⟨_, _, _, hfence, hvalid, hledger, hfinish, h⟩
    · exact hsame h.snd
    · rw [next, run, h]
      exact .close (.complete hvalid) hfence hledger hfinish
  | finalizeLogicalRequest result lease now =>
    rcases finalizeLogicalRequest_cases result lease now db with
      h | ⟨_, _, _, hfence, hvalid, hledger, hfinish, h⟩
    · exact hsame h.snd
    · rw [next, run, h]
      exact .close (.finalize hvalid) hfence hledger hfinish
  | beginRawPublication intent lease now =>
    rcases beginRawPublication_cases intent lease now db with h | ⟨_, -, -, -, -, h⟩
    · exact hsame h.snd
    · rw [next, run, h]
      exact .publish rfl _
  | commitRawPublication reference lease now =>
    rcases commitRawPublication_cases reference lease now db with h | h
    · exact hsame h.snd
    · rw [next, run, h]
      exact .publish rfl _
  | failRawPublication publicationId lease now =>
    exact transitionRawPublication_transition rfl publicationId _ _ lease now db
  | markRawPublicationReconciliationRequired publicationId lease now =>
    exact transitionRawPublication_transition rfl publicationId _ _ lease now db
  | acquireLease ownerToken now policy =>
    rw [next, run, discardValue_snd]
    rcases acquireLease_cases ownerToken now policy db with
      h | ⟨_, _, _, hexpires, hgeneration, hreconcile, h⟩
    · exact hsame h.snd
    · rw [h]
      exact .acquireLease hexpires hgeneration hreconcile
  | heartbeatLease lease now policy =>
    rw [next, run, discardValue_snd]
    rcases heartbeatLease_cases lease now policy db with h | ⟨_, _, hrow, hheartbeat, -, hexpires, h⟩
    · exact hsame h.snd
    · rw [h]
      exact .heartbeat hrow hheartbeat hexpires
  | releaseLease lease now =>
    rcases releaseLease_cases lease now db with h | ⟨_, hrow, -, -, h⟩
    · exact hsame h.snd
    · rw [next, run, h]
      exact .release hrow
  | recoverExpiredLease ownerToken now policy =>
    rw [next, run, discardValue_snd]
    rcases recoverExpiredLease_cases ownerToken now policy db with
      h | ⟨_, _, _, _, hexpires, hrepairs, hreconcile, h⟩
    · exact hsame h.snd
    · rw [h]
      exact .recover hexpires hrepairs hreconcile

/-! ## Calls without effect -/

/-- The call returns. -/
def Operation.Succeeds (op : Operation) (db : Database) : Prop := (op.run db).1 = .ok ()

instance (op : Operation) (db : Database) : Decidable (op.Succeeds db) :=
  inferInstanceAs (Decidable (_ = _))

/-- The operations that may raise and still leave something behind: a rejected submission, or
the event of a blocked acquisition. -/
def Operation.recordsFailure : Operation → Bool
  | .enqueueLogicalRequest .. | .admitLogicalRequest .. | .acquireGates .. => true
  | _ => false

theorem Refused.discardValue {α : Type} {outcome : Except Exn α × Database} {db : Database}
    (h : Refused outcome db) : Refused (discardValue outcome) db := by
  obtain ⟨e, rfl⟩ := h
  exact ⟨e, rfl⟩

theorem discardValue_ok {α : Type} {outcome : Except Exn α × Database} {a : α} {db : Database}
    (h : outcome = (.ok a, db)) : (discardValue outcome).1 = .ok () := by
  rw [h]
  rfl

theorem finishGateReservation_refused (reservation : GateReservation)
    (outcome : PhysicalAttemptState) (retryAfter : Option Seconds) (rawEligible : Bool)
    (lease : RuntimeLease) (now : DateTime) (db : Database) :
    Refused (finishGateReservation reservation outcome retryAfter rawEligible lease now db) db ∨
      (finishGateReservation reservation outcome retryAfter rawEligible lease now db).1 = .ok () := by
  rcases finishGateReservation_cases reservation outcome retryAfter rawEligible lease now db with
    h | ⟨_, _, _, _, -, -, -, -, -, -, -, -, h⟩
  · exact .inl h
  · exact .inr (congrArg Prod.fst h)

/-- A call of any other operation is refused, or returns. -/
theorem Operation.refused_or_succeeds {op : Operation} (hclean : op.recordsFailure = false)
    (db : Database) : Refused (op.run db) db ∨ op.Succeeds db := by
  cases op with
  -- a call that records its own failure is left out by the hypothesis
  | enqueueLogicalRequest | admitLogicalRequest | acquireGates => cases hclean
  | addLogicalRequest request =>
    rcases addLogicalRequest_cases request db with h | ⟨_, -, h⟩
    · exact .inl h
    · exact .inr (congrArg Prod.fst h)
  | cancelAdmittedRequest id reason lease now =>
    rcases cancelAdmittedRequest_cases id reason lease now db with
      h | ⟨_, _, -, -, -, ⟨_, -, -, h⟩ | ⟨_, _, -, -, h⟩⟩
    · exact .inl h.discardValue
    · exact .inr (discardValue_ok h)
    · exact .inr (discardValue_ok h)
  | claimNextQueued rateDomain lease now =>
    rcases claimNextQueued_cases rateDomain lease now db with
      h | h | ⟨_, _, _, _, -, -, -, -, -, h⟩
    · exact .inl h.discardValue
    · exact .inr (discardValue_ok h)
    · exact .inr (discardValue_ok h)
  | releaseGates reservation outcome lease now rawEligible =>
    rcases releaseGates_cases reservation outcome lease now rawEligible db with h | ⟨-, eligible, h⟩
    · exact .inl h
    · simp only [Succeeds, run, h]
      exact finishGateReservation_refused reservation outcome none eligible lease now db
  | recordRetryAfter reservation retryAfter lease now =>
    exact finishGateReservation_refused reservation .failed (some retryAfter) true lease now db
  | recordUnknownOutcome reservation lease now =>
    exact finishGateReservation_refused reservation .unknown none false lease now db
  | addPhysicalAttempt attempt =>
    rcases addPhysicalAttempt_cases attempt db with h | ⟨_, -, h⟩
    · exact .inl h
    · exact .inr (congrArg Prod.fst h)
  | reserveNextPhysicalAttempt attemptId logicalRequestId lease now =>
    rcases reserveNextPhysicalAttempt_cases attemptId logicalRequestId lease now db with
      h | ⟨_, _, _, -, -, -, -, -, -, h⟩
    · exact .inl h.discardValue
    · exact .inr (discardValue_ok h)
  | discardReservedAttempt attemptId lease now =>
    rcases discardReservedAttempt_cases attemptId lease now db with h | ⟨_, _, -, -, -, -, -, h⟩
    · exact .inl h
    · exact .inr (congrArg Prod.fst h)
  | markPhysicalAttemptStarted attemptId lease now =>
    rcases markPhysicalAttemptStarted_cases attemptId lease now db with h | ⟨_, _, -, -, -, -, h⟩
    · exact .inl h
    · exact .inr (congrArg Prod.fst h)
  | completeLogicalRequest result lease now =>
    rcases completeLogicalRequest_cases result lease now db with h | ⟨_, _, _, -, -, -, -, h⟩
    · exact .inl h
    · exact .inr (congrArg Prod.fst h)
  | finalizeLogicalRequest result lease now =>
    rcases finalizeLogicalRequest_cases result lease now db with h | ⟨_, _, _, -, -, -, -, h⟩
    · exact .inl h
    · exact .inr (congrArg Prod.fst h)
  | beginRawPublication intent lease now =>
    rcases beginRawPublication_cases intent lease now db with h | ⟨_, -, -, -, -, h⟩
    · exact .inl h
    · exact .inr (congrArg Prod.fst h)
  | commitRawPublication reference lease now =>
    exact (commitRawPublication_cases reference lease now db).imp_right (congrArg Prod.fst)
  | failRawPublication publicationId lease now =>
    exact (transitionRawPublication_cases publicationId _ _ lease now db).imp_right
      (congrArg Prod.fst)
  | markRawPublicationReconciliationRequired publicationId lease now =>
    exact (transitionRawPublication_cases publicationId _ _ lease now db).imp_right
      (congrArg Prod.fst)
  | acquireLease ownerToken now policy =>
    rcases acquireLease_cases ownerToken now policy db with h | ⟨_, _, _, -, -, -, h⟩
    · exact .inl h.discardValue
    · exact .inr (discardValue_ok h)
  | heartbeatLease lease now policy =>
    rcases heartbeatLease_cases lease now policy db with h | ⟨_, _, -, -, -, -, h⟩
    · exact .inl h.discardValue
    · exact .inr (discardValue_ok h)
  | releaseLease lease now =>
    rcases releaseLease_cases lease now db with h | ⟨_, -, -, -, h⟩
    · exact .inl h
    · exact .inr (congrArg Prod.fst h)
  | recoverExpiredLease ownerToken now policy =>
    rcases recoverExpiredLease_cases ownerToken now policy db with h | ⟨_, _, _, _, -, -, -, h⟩
    · exact .inl h.discardValue
    · exact .inr (discardValue_ok h)

/-- A call that raises leaves the database alone, unless it records why. -/
theorem Operation.next_eq_self {op : Operation} {db : Database}
    (hclean : op.recordsFailure = false) (hfails : ¬ op.Succeeds db) : op.next db = db :=
  ((refused_or_succeeds hclean db).resolve_right hfails).snd

/-- What is asked of a call that returns holds, or the call leaves the database alone. -/
theorem Operation.holds_or_idle {op : Operation} {db : Database} {P : Prop}
    (h : op.Succeeds db → P) (hclean : ¬ P → op.recordsFailure = false) :
    P ∨ op.next db = db := by
  by_cases hP : P
  · exact .inl hP
  · exact .inr (next_eq_self (hclean hP) fun hsucceeds => hP (h hsucceeds))

/-! ## A sample run

The values the witnesses of the run theorems are evaluated on: one owner, one
request and its first attempt. -/

namespace Sample

instance secondOfDay_neZero : NeZero 86400 := ⟨by decide⟩

theorem at_inRange (seconds : Fin 86400) : 63902822400000000 + seconds * 1000000 < maxMicros := by
  have := seconds.isLt
  simp only [maxMicros, dayMicros]
  omega

/-- An instant of 2026-01-01, in seconds after midnight. -/
def at_ (seconds : Fin 86400) : DateTime where
  micros := 63902822400000000 + seconds * 1000000
  inRange := at_inRange seconds

def owner : Identifier := ⟨"owner-1", by decide⟩
def nextOwner : Identifier := ⟨"owner-2", by decide⟩
def domain : Identifier := ⟨"domain-1", by decide⟩
def reservationId : Identifier := ⟨"reservation-1", by decide⟩

def request : ProductionLogicalRequest where
  logicalRequestId := ⟨"request-1", by decide⟩
  taskId := ⟨"task-1", by decide⟩
  sourceId := ⟨"source-1", by decide⟩
  operation := ⟨"operation-1", by decide⟩
  requestFingerprint :=
    ⟨"0000000000000000000000000000000000000000000000000000000000000000", by decide⟩
  sourceApprovalVersion := 1
  sourceProfileVersion := 1
  credentialScopeAlias := none
  egressScope := ⟨"egress-1", by decide⟩
  createdAt := "2026-01-01T00:00:00+00:00"

/-- The lease `acquire_lease` returns to the first owner at second 0. -/
def lease : RuntimeLease := ⟨owner, 1, at_ 0, at_ 0, at_ 30⟩

def attempt : ProductionPhysicalAttempt where
  physicalAttemptId := ⟨"attempt-1", by decide⟩
  logicalRequestId := request.logicalRequestId
  sequenceNumber := 1
  leaseGeneration := 1
  createdAt := "2026-01-01T00:00:00+00:00"

def keys : GateKeys where
  egress := ⟨"egress-1", by decide⟩
  provider := ⟨"provider-1", by decide⟩
  origin := ⟨"origin-1", by decide⟩
  credential := ⟨"credential-1", by decide⟩
  operation := ⟨"operation-1", by decide⟩
  task := ⟨"task-1", by decide⟩
  role := ⟨"role-1", by decide⟩

/-- One request at a time, ten per minute. -/
def limit : GateLimit where
  maxConcurrency := 1
  minIntervalSeconds := .ofNat 0
  requestsPerWindow := 10
  windowSeconds := .ofNat 60
  concurrency_ge := by decide
  requests_ge := by decide
  window_pos := by decide

def policy : HierarchicalGatePolicy := ⟨fun _ => limit⟩

/-- The policies a call gets that names none. -/
def leasePolicy : RuntimeLeasePolicy := {}
def queuePolicy : QueuePolicy := {}

/-- The first owner admits the request and claims it. -/
def claimed : List Operation :=
  [.acquireLease owner (at_ 0) leasePolicy,
    .admitLogicalRequest request domain ⟨false⟩ lease (at_ 1) queuePolicy,
    .claimNextQueued domain lease (at_ 2)]

/-- It then acquires the gates of the first attempt. -/
def acquired : List Operation :=
  claimed ++ [.acquireGates reservationId attempt keys policy lease (at_ 3)]

end Sample

end StockResearch.Requests
