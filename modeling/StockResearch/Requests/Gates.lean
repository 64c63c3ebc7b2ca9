import StockResearch.Requests.Lease

/-!
# Persistent gates

`acquire_gates` checks the eight scopes of a request in order and, when none
blocks, takes all of them together with the physical attempt; a refusal commits
one audit event and raises. Three statements give the gates back: the normal
finish of a reservation, the cancellation of a leader, and the recovery of an
expired owner. All of them decrement the eight counters of the reservation.
-/

namespace StockResearch.Requests

/-! ## Physical attempts -/

/-- `COALESCE(MAX(sequence_number), 0)` over the attempts of one request. -/
def maxSequence (attempts : Table Identifier PhysicalAttemptRow) (logicalRequestId : Identifier) :
    Nat :=
  ((attempts.select fun _ row => row.logicalRequestId = logicalRequestId).map
    fun r => r.2.sequenceNumber).foldr max 0

/-- `INSERT INTO physical_attempts`: the request must exist and the sequence number
must be unused. -/
def insertAttempt (ledger : LedgerTables) (attempts : Table Identifier PhysicalAttemptRow)
    (physicalAttemptId : Identifier) (row : PhysicalAttemptRow) :
    Except Exn (Table Identifier PhysicalAttemptRow) := do
  require (ledger.requests.get? row.logicalRequestId ≠ none) .integrity
  require ((attempts.select fun _ other => other.logicalRequestId = row.logicalRequestId &&
    other.sequenceNumber = row.sequenceNumber) = []) .integrity
  insertRow attempts physicalAttemptId row

/-- The row of a new attempt. -/
def ProductionPhysicalAttempt.row (attempt : ProductionPhysicalAttempt) : PhysicalAttemptRow where
  logicalRequestId := attempt.logicalRequestId
  sequenceNumber := attempt.sequenceNumber
  leaseGeneration := attempt.leaseGeneration
  createdAt := attempt.createdAt
  state := .reserved

/-- Create the attempt of an acquisition, or check that it is the reserved one. -/
def ensureReservedAttempt (ledger : LedgerTables) (attempts : Table Identifier PhysicalAttemptRow)
    (attempt : ProductionPhysicalAttempt) : Except Exn (Table Identifier PhysicalAttemptRow) :=
  match attempts.get? attempt.physicalAttemptId with
  | none => do
    require (attempt.sequenceNumber = maxSequence attempts attempt.logicalRequestId + 1)
      (.storage .physicalAttemptSequenceRejected)
    insertAttempt ledger attempts attempt.physicalAttemptId attempt.row
  | some existing => do
    require (existing.logicalRequestId = attempt.logicalRequestId ∧
      existing.sequenceNumber = attempt.sequenceNumber ∧
      existing.leaseGeneration = attempt.leaseGeneration ∧
      existing.createdAt = attempt.createdAt ∧ existing.state = .reserved)
      (.storage .physicalAttemptReservationMismatch)
    pure attempts

/-! ## Limits -/

/-- The starts of one gate. -/
def GateTables.startsOf (gates : GateTables) (gate : GateScope × Identifier) : List DateTime :=
  (gates.starts.filter fun s => s.scope = gate.1 && s.keyAlias = gate.2).map (·.startedAt)

/-- Why one gate refuses a start at `now`, if it does. The starts of the rolling
window are counted on the stored text. -/
def blockedReason (gates : GateTables) (limit : GateLimit) (gate : GateScope × Identifier)
    (now : DateTime) : Except Exn (Option BlockedReason) := do
  let row := gates.state.get? gate
  let activeCount := (row.map (·.activeCount)).getD 0
  let lastStarted := row.bind (·.lastStartedAt)
  let cooldown := row.bind (·.cooldownUntil)
  let window ← fetch (timedelta limit.windowSeconds) .overflow
  let cutoff ← fetch (now.sub? window) .overflow
  let starts := (gates.startsOf gate).countP fun t => isoformat cutoff < isoformat t
  if cooldown.any fun until_ => now < until_ then
    pure (some .cooldown)
  else if limit.maxConcurrency ≤ activeCount then
    pure (some .concurrency)
  else do
    let tooSoon ← match lastStarted with
      | none => pure false
      | some last => do
        let interval ← fetch (timedelta limit.minIntervalSeconds) .overflow
        let next ← fetch (last.add? interval) .overflow
        pure (decide (now < next))
    if tooSoon then
      pure (some .minimumInterval)
    else if limit.requestsPerWindow ≤ starts then
      pure (some .rollingWindow)
    else
      pure none

/-- The first gate in acquisition order that refuses. -/
def firstBlocked (gates : GateTables) (policy : HierarchicalGatePolicy) (now : DateTime) :
    List (GateScope × Identifier) → Except Exn (Option ((GateScope × Identifier) × BlockedReason))
  | [] => pure none
  | gate :: rest => do
    match ← blockedReason gates (policy.limits gate.1) gate now with
    | some reason => pure (some (gate, reason))
    | none => firstBlocked gates policy now rest

/-! ## Acquisition -/

/-- Take one gate: occupancy, scope row, start row and audit event. -/
def acquireGate (reservationId logicalRequestId : Identifier) (now : DateTime)
    (gates : GateTables) (gate : GateScope × Identifier) : Except Exn GateTables := do
  let reservationScopes ← insertRow gates.reservationScopes (reservationId, gate.1) gate.2
  pure
    { gates with
      state := gates.state.upsert gate
        { activeCount := 1, lastStartedAt := some now, cooldownUntil := none }
        fun row => { row with activeCount := row.activeCount + 1, lastStartedAt := some now }
      reservationScopes := reservationScopes
      starts := gates.starts ++ [⟨reservationId, gate.1, gate.2, now⟩]
      events := gates.events ++
        [⟨logicalRequestId, some reservationId, some gate, .acquired, now, none⟩] }

/-- `INSERT INTO gate_reservations`: one reservation per physical attempt, ever. -/
def insertReservation (reservations : Table Identifier GateReservationRow)
    (reservationId : Identifier) (row : GateReservationRow) :
    Except Exn (Table Identifier GateReservationRow) := do
  require ((reservations.select fun _ other => other.physicalAttemptId = row.physicalAttemptId) = [])
    .integrity
  insertRow reservations reservationId row

/-- `acquire_gates` -/
def acquireGates (reservationId : Identifier) (attempt : ProductionPhysicalAttempt)
    (keys : GateKeys) (policy : HierarchicalGatePolicy) (lease : RuntimeLease) (now : DateTime) :
    Database → Except Exn GateReservation × Database :=
  transaction .gateAcquisitionFailed fun db => do
    require (attempt.leaseGeneration = lease.generation) (.storage .gateAttemptGenerationMismatch)
    assertFence db lease now
    require ((db.queue.entries.get? attempt.logicalRequestId).map (·.state) = some .dequeued)
      (.storage .gateRequestNotDequeued)
    require ((db.ledger.requests.get? attempt.logicalRequestId).map (·.state) = some .queued)
      (.storage .gateRequestNotActive)
    match ← firstBlocked db.gates policy now keys.ordered with
    | some (gate, reason) =>
      let event : GateEventRow :=
        ⟨attempt.logicalRequestId, none, some gate,
          if reason = .cooldown then .cooldown else .blocked, now, some (.blocked reason)⟩
      pure (.error (.storage (.gateBlocked gate.1 reason)),
        { db with gates.events := db.gates.events ++ [event] })
    | none => do
      let attempts ← ensureReservedAttempt db.ledger db.attempts attempt
      let reservations ← insertReservation db.gates.reservations reservationId
        ⟨attempt.physicalAttemptId, attempt.logicalRequestId, lease.generation, now, .active⟩
      let gates ← keys.ordered.foldlM (acquireGate reservationId attempt.logicalRequestId now)
        { db.gates with reservations := reservations }
      pure (.ok ⟨reservationId, attempt.physicalAttemptId, attempt.logicalRequestId,
          lease.generation, now⟩,
        { db with attempts := attempts, gates := gates })

/-! ## Release -/

/-- The scopes and keys a reservation holds. -/
def GateTables.scopesOf (gates : GateTables) (reservationId : Identifier) :
    List (GateScope × Identifier) :=
  (gates.reservationScopes.select fun k _ => k.1 = reservationId).map fun r => (r.1.2, r.2)

/-- `UPDATE gate_state SET active_count = active_count - 1 … AND active_count > 0`;
raise when no row was updated. -/
def decrementGate (error : RuntimeStorageError) (state : Table (GateScope × Identifier) GateStateRow)
    (gate : GateScope × Identifier) : Except Exn (Table (GateScope × Identifier) GateStateRow) := do
  require ((state.get? gate).any fun row => 0 < row.activeCount) (.storage error)
  pure (state.modify gate fun row => { row with activeCount := row.activeCount - 1 })

/-- Give back every gate of a reservation. -/
def decrementGates (error : RuntimeStorageError) (scopes : List (GateScope × Identifier))
    (state : Table (GateScope × Identifier) GateStateRow) :
    Except Exn (Table (GateScope × Identifier) GateStateRow) :=
  scopes.foldlM (decrementGate error) state

/-- `CASE WHEN cooldown_until IS NULL OR cooldown_until < deadline THEN deadline ELSE
cooldown_until END`, compared as text. -/
def extendCooldown (cooldown : Option DateTime) (deadline : DateTime) : Option DateTime :=
  match cooldown with
  | none => some deadline
  | some until_ => if isoformat until_ < isoformat deadline then some deadline else some until_

/-- Persist the cooldown of a `Retry-After` on the provider gate of a reservation. -/
def recordCooldown (reservation : GateReservation) (scopes : List (GateScope × Identifier))
    (retryAfter : Seconds) (now : DateTime) (gates : GateTables) : Except Exn GateTables := do
  let provider ← fetch (scopes.find? fun gate => gate.1 = .provider)
    (.storage .gateStateInconsistent)
  let delay ← fetch (timedelta retryAfter) .overflow
  let deadline ← fetch (now.add? delay) .overflow
  pure
    { gates with
      state := gates.state.modify provider fun row =>
        { row with cooldownUntil := extendCooldown row.cooldownUntil deadline }
      events := gates.events ++ [⟨reservation.logicalRequestId, some reservation.reservationId,
        some provider, .cooldown, now, some .retryAfter⟩] }

/-- `_finish_gate_reservation` -/
def finishGateReservation (reservation : GateReservation) (outcome : PhysicalAttemptState)
    (retryAfter : Option Seconds) (rawEligible : Bool) (lease : RuntimeLease) (now : DateTime) :
    Database → Except Exn Unit × Database :=
  transaction .gateReleaseFailed fun db => do
    assertFence db lease now
    let scopes := orderBy (fun a b => decide (a.1.value ≤ b.1.value))
      (db.gates.scopesOf reservation.reservationId)
    require ((db.gates.reservations.get? reservation.reservationId).any fun current =>
        current.state = .active && current.logicalRequestId = reservation.logicalRequestId &&
          current.physicalAttemptId = reservation.physicalAttemptId &&
          current.leaseGeneration = lease.generation && scopes.length = 8)
      (.storage .staleGateReservation)
    let state ← decrementGates .gateStateInconsistent scopes db.gates.state
    let gates : GateTables :=
      { db.gates with
        state := state
        reservations := db.gates.reservations.modify reservation.reservationId
          fun row => { row with state := .released } }
    let attempts := db.attempts.updateWhere
      (fun id row => id = reservation.physicalAttemptId && row.state.isActive)
      fun row => { row with state := outcome, rawEligible := rawEligible }
    let gates ← match retryAfter with
      | none => pure gates
      | some seconds => recordCooldown reservation scopes seconds now gates
    let event : GateEventRow := ⟨reservation.logicalRequestId, some reservation.reservationId, none,
      .released, now, some (.outcome outcome)⟩
    pure (.ok (), { db with attempts := attempts, gates := { gates with
      events := gates.events ++ [event] } })

/-- `release_gates` -/
def releaseGates (reservation : GateReservation) (outcome : PhysicalAttemptState)
    (lease : RuntimeLease) (now : DateTime) (rawEligible : Option Bool) (db : Database) :
    Except Exn Unit × Database :=
  let eligible := rawEligible.getD (outcome = .succeeded)
  if ¬ (outcome = .succeeded ∨ outcome = .failed) then
    (.error (.storage .invalidGateReleaseOutcome), db)
  else if outcome = .succeeded ∧ eligible = false then
    (.error (.storage .successfulAttemptRequiresRawCandidate), db)
  else
    finishGateReservation reservation outcome none eligible lease now db

/-- `record_retry_after` -/
def recordRetryAfter (reservation : GateReservation) (retryAfter : Seconds) (lease : RuntimeLease)
    (now : DateTime) : Database → Except Exn Unit × Database :=
  finishGateReservation reservation .failed (some retryAfter) true lease now

/-- `record_unknown_outcome` -/
def recordUnknownOutcome (reservation : GateReservation) (lease : RuntimeLease) (now : DateTime) :
    Database → Except Exn Unit × Database :=
  finishGateReservation reservation .unknown none false lease now

/-- Give back one reservation without finishing its attempt. -/
def recoverReservation (error : RuntimeStorageError) (eventType : GateEventType)
    (reason : GateEventReason) (now : DateTime) (gates : GateTables)
    (entry : Identifier × GateReservationRow) : Except Exn GateTables := do
  let scopes := gates.scopesOf entry.1
  require (scopes.length = 8) (.storage error)
  let state ← decrementGates error scopes gates.state
  pure
    { gates with
      state := state
      reservations := gates.reservations.modify entry.1 fun row => { row with state := .recovered }
      events := gates.events ++
        [⟨entry.2.logicalRequestId, some entry.1, none, eventType, now, some reason⟩] }

/-- `_release_gate_occupancy` -/
def releaseGateOccupancy (logicalRequestId : Identifier) (now : DateTime) (reason : GateEventReason)
    (gates : GateTables) : Except Exn GateTables :=
  (gates.reservations.select fun _ row =>
      row.logicalRequestId = logicalRequestId && row.state = .active).foldlM
    (recoverReservation .gateStateInconsistent .released reason now) gates

/-- `_recover_gate_reservations` -/
def recoverGateReservations (generation : Nat) (now : DateTime) (gates : GateTables) :
    Except Exn GateTables :=
  (gates.reservations.select fun _ row =>
      row.state = .active && row.leaseGeneration ≤ generation).foldlM
    (recoverReservation .runtimeRecoveryAuditGap .recovered .ownerInterrupted now) gates

end StockResearch.Requests
