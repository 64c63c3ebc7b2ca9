import StockResearch.Requests.Transition

/-!
# Which calls can report a broken flight

Three errors say that the rows of a flight do not fit together. Only the calls that
deliver results, start a flight or interrupt one can raise them.

- `FlightFault`: the three errors.
- `FlightFault.admitLogicalRequest` and the others of its kind: a call avoids them when its use
  of the flights does.
-/

namespace StockResearch.Requests

/-! ## Statements that raise no error of the repository -/

section

variable {e : RuntimeStorageError}

theorem insertAttempt_avoids {ledger : LedgerTables}
    {attempts : Table Identifier PhysicalAttemptRow} {id : Identifier} {row : PhysicalAttemptRow} :
    Avoids (.storage e) (insertAttempt ledger attempts id row) :=
  .bind (avoids_require (.inl (by simp))) fun _ _ => .bind (avoids_require (.inl (by simp)))
    fun _ _ => insertRow_avoids

theorem insertLogicalRequest_avoids {request : ProductionLogicalRequest} {ledger : LedgerTables} :
    Avoids (.storage e) (insertLogicalRequest request ledger) :=
  .bind insertRow_avoids fun _ _ => avoids_pure

theorem leaseExpiry_avoids {now : DateTime} {policy : RuntimeLeasePolicy} :
    Avoids (.storage e) (leaseExpiry now policy) :=
  .bind (avoids_fetch (.inl (by simp))) fun _ _ => avoids_fetch (.inl (by simp))

theorem blockedReason_avoids {gates : GateTables} {limit : GateLimit}
    {gate : GateScope × Identifier} {now : DateTime} :
    Avoids (.storage e) (blockedReason gates limit gate now) := by
  refine .bind (avoids_fetch (.inl (by simp))) fun _ _ => .bind (avoids_fetch (.inl (by simp)))
    fun cutoff _ => ?_
  dsimp only
  split
  · exact avoids_pure
  split
  · exact avoids_pure
  -- the interval since the last start may overflow, like the two instants above
  split
  · refine .bind avoids_pure fun _ _ => ?_
    split
    · exact avoids_pure
    split <;> exact avoids_pure
  · refine .bind (avoids_fetch (.inl (by simp))) fun _ _ => .bind (avoids_fetch (.inl (by simp))) fun _ _ =>
      .bind avoids_pure fun _ _ => ?_
    split
    · exact avoids_pure
    split <;> exact avoids_pure

theorem firstBlocked_avoids {gates : GateTables} {policy : HierarchicalGatePolicy}
    {now : DateTime} : ∀ keys : List (GateScope × Identifier),
      Avoids (.storage e) (firstBlocked gates policy now keys)
  | [] => avoids_pure
  | gate :: rest => by
    refine .bind blockedReason_avoids fun reason _ => ?_
    cases reason with
    | some => exact avoids_pure
    | none => exact firstBlocked_avoids rest

end

/-! ## The errors of a flight -/

/-- The errors about the rows of a flight. -/
inductive FlightFault : RuntimeStorageError → Prop
  | stateInconsistent : FlightFault .singleFlightStateInconsistent
  | auditGap : FlightFault .singleFlightAuditGap
  | followerHasAttempt : FlightFault .singleFlightFollowerHasAttempt

def RuntimeStorageError.ofFlight : RuntimeStorageError → Bool
  | .singleFlightStateInconsistent | .singleFlightAuditGap | .singleFlightFollowerHasAttempt => true
  | _ => false

section

variable {e e' : RuntimeStorageError} (he : FlightFault e)

include he

theorem FlightFault.ofFlight : e.ofFlight = true := by
  cases he <;> rfl

theorem FlightFault.ne (hother : e'.ofFlight = false) : e' ≠ e := by
  rintro rfl
  rw [he.ofFlight] at hother
  cases hother

theorem FlightFault.raise {α : Type} (hother : e'.ofFlight = false) :
    Avoids (.storage e) (.error (.storage e') : Except Exn α) :=
  fun h => he.ne hother (Exn.storage.inj (Except.error.inj h))

/-- A guard with another error. -/
theorem FlightFault.guard {p : Prop} [Decidable p] (hother : e'.ofFlight = false) :
    Avoids (.storage e) (require p (.storage e') : Except Exn Unit) :=
  avoids_require (.inl fun h => he.ne hother (Exn.storage.inj h))

theorem FlightFault.lookup {α : Type} {o : Option α} (hother : e'.ofFlight = false) :
    Avoids (.storage e) (fetch o (.storage e') : Except Exn α) :=
  avoids_fetch (.inl fun h => he.ne hother (Exn.storage.inj h))

theorem FlightFault.fence {db : Database} {lease : RuntimeLease} {now : DateTime} :
    Avoids (.storage e) (assertFence db lease now) :=
  assertFence_avoids (he.ne rfl) (he.ne rfl) (he.ne rfl)

theorem FlightFault.raises {α : Type} {db : Database} (hother : e'.ofFlight = false) :
    Excludes e (pure (.error (.storage e'), db) : Except Exn (Except Exn α × Database)) := by
  refine ⟨avoids_pure, fun _ h => ?_⟩
  simp only [pure, Except.pure, Except.ok.injEq, Prod.mk.injEq, Except.error.injEq,
    Exn.storage.injEq] at h
  exact he.ne hother h.1

/-! ## Statements and gates -/

theorem FlightFault.decrementGates {scopes : List (GateScope × Identifier)}
    {state : Table (GateScope × Identifier) GateStateRow} (hother : e'.ofFlight = false) :
    Avoids (.storage e) (decrementGates e' scopes state) := by
  refine foldlM_avoids (fun _ _ => True) (fun _ _ _ _ => ⟨?_, fun _ _ => trivial⟩) trivial
  exact .bind (he.guard hother) fun _ _ => avoids_pure

theorem FlightFault.recoverReservations {eventType : GateEventType} {reason : GateEventReason}
    {now : DateTime} {gates : GateTables} {rows : List (Identifier × GateReservationRow)}
    (hother : e'.ofFlight = false) :
    Avoids (.storage e) (rows.foldlM (recoverReservation e' eventType reason now) gates) := by
  refine foldlM_avoids (fun _ _ => True) (fun _ _ _ _ => ⟨?_, fun _ _ => trivial⟩) trivial
  exact .bind (he.guard hother) fun _ _ => .bind (he.decrementGates hother) fun _ _ => avoids_pure

theorem FlightFault.finishGateReservation (reservation : GateReservation)
    (outcome : PhysicalAttemptState) (retryAfter : Option Seconds) (rawEligible : Bool)
    (lease : RuntimeLease) (now : DateTime) (db : Database) :
    (finishGateReservation reservation outcome retryAfter rawEligible lease now db).1 ≠
      .error (.storage e) := by
  refine transaction_excludes (he.ne rfl) (.bind he.fence fun _ _ => .bind (he.guard rfl)
    fun _ _ => .bind (he.decrementGates rfl) fun _ _ => ?_)
  cases retryAfter with
  | none => exact excludes_pure
  | some seconds =>
    exact .bind (.bind (he.lookup rfl) fun _ _ => .bind (avoids_fetch (.inl (by simp))) fun _ _ =>
      .bind (avoids_fetch (.inl (by simp))) fun _ _ => avoids_pure) fun _ _ => excludes_pure

theorem FlightFault.validateAttemptOutcome {attempts : Table Identifier PhysicalAttemptRow}
    {result : ProductionLogicalResult} :
    Avoids (.storage e) (validateAttemptOutcome attempts result) :=
  .bind (he.guard rfl) fun _ _ => .bind (he.guard rfl) fun _ _ => he.guard rfl

theorem FlightFault.validateFinalization {db : Database} {result : ProductionLogicalResult} :
    Avoids (.storage e) (validateFinalization db result) :=
  .bind (he.guard rfl) fun _ _ => .bind (he.guard rfl) fun _ _ => he.validateAttemptOutcome

/-! ## Delivery -/

omit he in
theorem deliverResult_avoids {result : ProductionLogicalResult} {fingerprint : Sha256Hex}
    {now : DateTime} {db : Database} {consumer : WaitingConsumer}
    (hne : RuntimeStorageError.logicalRequestNotActive ≠ e)
    (haudited : RuntimeStorageError.singleFlightAuditGap ≠ e ∨
      (consumer.requestFingerprint = fingerprint ∧
        (db.flight.events.any fun event =>
          event.logicalRequestId = consumer.logicalRequestId && event.eventType.isJoin) = true ∧
        (consumer.role = .leader ↔ consumer.logicalRequestId = result.logicalRequestId)))
    (hidle : (consumer.role = .leader ↔ consumer.logicalRequestId = result.logicalRequestId) →
      consumer.logicalRequestId ≠ result.logicalRequestId →
      RuntimeStorageError.singleFlightFollowerHasAttempt ≠ e ∨
        (db.attempts.select fun _ row => row.logicalRequestId = consumer.logicalRequestId) = []) :
    Avoids (.storage e) (deliverResult result fingerprint now db consumer) := by
  refine .bind (avoids_require (haudited.imp_left fun h h' => h (Exn.storage.inj h')))
    fun _ hchecked => ?_
  obtain ⟨-, -, hrole⟩ := require_eq_ok.mp hchecked
  dsimp only
  split
  · exact .bind avoids_pure fun _ _ => avoids_pure
  · rename_i hother
    exact .bind (avoids_require ((hidle hrole hother).imp_left fun h h' => h (Exn.storage.inj h')))
      fun _ _ => .bind (closeRequest_avoids hne) fun _ _ => avoids_pure

omit he in
theorem finishSingleFlight_avoids {result : ProductionLogicalResult} {now : DateTime}
    {db : Database}
    (hleads : ∀ leader, db.flight.consumers.get? result.logicalRequestId = some leader →
      RuntimeStorageError.singleFlightStateInconsistent ≠ e ∨
        (leader.role = .leader ∧ leader.state = .active ∧
          db.flight.flights.get? leader.requestFingerprint =
            some ⟨result.logicalRequestId, .active⟩))
    (hdeliver : ∀ leader, db.flight.consumers.get? result.logicalRequestId = some leader →
      Avoids (.storage e) ((waitingConsumers db leader.requestFingerprint).foldlM
        (deliverResult result leader.requestFingerprint now) db)) :
    Avoids (.storage e) (finishSingleFlight result now db) := by
  cases hc : db.flight.consumers.get? result.logicalRequestId with
  | none =>
    simp only [finishSingleFlight, hc]
    exact avoids_pure
  | some leader =>
    simp only [finishSingleFlight, hc]
    exact .bind (avoids_require ((hleads leader hc).imp_left fun h h' => h (Exn.storage.inj h')))
      fun _ _ => .bind (hdeliver leader hc) fun _ _ => avoids_pure

/-- One flight: what its row shows, what its result is, and the delivery. -/
theorem FlightFault.reconcileFlight {now : DateTime} {db : Database} {flight : OpenFlight}
    (hleads : RuntimeStorageError.singleFlightStateInconsistent ≠ e ∨
      (flight.consumer = some (.leader, .active) ∧ flight.requestState ≠ none))
    (haudited : RuntimeStorageError.singleFlightAuditGap ≠ e ∨ ∃ result,
      readLogicalResult .singleFlightAuditGap db.ledger flight.leaderLogicalRequestId = .ok result ∧
        (result = none → flight.requestState = some .queued) ∧
        ∀ r, result = some r → flight.requestState = some (resultState r.outcome))
    (hfinish : ∀ r, readLogicalResult .singleFlightAuditGap db.ledger
        flight.leaderLogicalRequestId = .ok (some r) →
      Avoids (.storage e) (finishSingleFlight r now db)) :
    Avoids (.storage e) (reconcileFlight now db flight) := by
  refine .bind (avoids_require (hleads.imp_left fun h h' => h (Exn.storage.inj h'))) fun _ _ =>
    .bind ?_ fun result hread => ?_
  · rcases haudited with hne | ⟨result, hread, -⟩
    · unfold readLogicalResult
      split
      · exact avoids_pure
      split
      · exact avoids_pure
      · exact fun h => hne (Exn.storage.inj (Except.error.inj h))
    · rw [hread]
      exact avoids_ok
  · split
    · exact avoids_pure
    rename_i hclosed
    -- a result is there, and fits the state
    have hfits : RuntimeStorageError.singleFlightAuditGap ≠ e ∨
        ∃ r, result = some r ∧ flight.requestState = some (resultState r.outcome) := by
      refine haudited.imp_right fun h => ?_
      obtain ⟨result', hread', hopen, hstate⟩ := h
      obtain rfl := Except.ok.inj (hread.symm.trans hread')
      cases result with
      | none => exact absurd ⟨hopen rfl, rfl⟩ hclosed
      | some r => exact ⟨r, rfl, hstate r rfl⟩
    refine .bind (avoids_fetch ?_) fun r hr => .bind (avoids_require ?_) fun _ _ =>
      .bind he.validateAttemptOutcome fun _ _ => hfinish r ?_
    · rcases hfits with hne | ⟨r, rfl, -⟩
      · exact .inl fun h => hne (Exn.storage.inj h)
      · exact .inr (Option.some_ne_none _)
    · rcases hfits with hne | ⟨r', rfl, hstate⟩
      · exact .inl fun h => hne (Exn.storage.inj h)
      · obtain rfl := Option.some.inj (fetch_eq_ok.mp hr)
        exact .inr hstate
    · rw [fetch_eq_ok] at hr
      rw [hread, hr]

/-! ## The calls that use the flights -/

/-- The database an admission reconciles: the request is recorded. -/
abbrev recordedRequest (request : ProductionLogicalRequest) (cachePolicy : ProductionCachePolicy)
    (now : DateTime) (ledger : LedgerTables) (db : Database) : Database :=
  { db with
    ledger := ledger
    flight := db.flight.appendEvent request.logicalRequestId
      (.cache (if cachePolicy.applicable then .disabled else .notApplicable)) now none }

/-- An admission: its reconciliation, and the check that nobody waits for a leader. -/
theorem FlightFault.admitLogicalRequest {request : ProductionLogicalRequest}
    {rateDomain : Identifier} {cachePolicy : ProductionCachePolicy} {lease : RuntimeLease}
    {now : DateTime} {queuePolicy : QueuePolicy} {db : Database}
    (hreconcile : ∀ ledger, Requests.insertLogicalRequest request db.ledger = .ok ledger →
      Avoids (.storage e) (reconcileTerminalFlights now (some request.requestFingerprint)
        (recordedRequest request cachePolicy now ledger db)))
    (hidle : ∀ ledger reconciled, Requests.insertLogicalRequest request db.ledger = .ok ledger →
      reconcileTerminalFlights now (some request.requestFingerprint)
        (recordedRequest request cachePolicy now ledger db) = .ok reconciled →
      activeLeader reconciled.flight request.requestFingerprint = none →
        RuntimeStorageError.singleFlightStateInconsistent ≠ e ∨
          reconciled.flight.activeConsumers request.requestFingerprint = []) :
    (Requests.admitLogicalRequest request rateDomain cachePolicy lease now queuePolicy db).1 ≠
      .error (.storage e) := by
  refine transaction_excludes (he.ne rfl) (.bind he.fence fun _ _ =>
    .bind insertLogicalRequest_avoids fun ledger hledger => .bind (hreconcile ledger hledger)
      fun reconciled hreconciled => ?_)
  -- without a leader the request leads, unless somebody still waits
  split
  · rename_i hleader
    refine .bind (avoids_require ((hidle ledger reconciled hledger hreconciled hleader).imp_left
      fun h h' => h (Exn.storage.inj h'))) fun _ _ => .bind (.bind insertRow_avoids
        fun _ _ => avoids_pure) fun _ _ => .bind ?_ fun decision _ => ?_
    · refine .bind insertRow_avoids fun _ _ => ?_
      split
      · exact .bind (closeRequest_avoids (he.ne rfl)) fun _ _ => avoids_pure
      · exact avoids_pure
    · obtain ⟨rejected, queued⟩ := decision
      cases rejected with
      | false => exact excludes_pure
      | true => exact he.raises rfl
  · -- a follower joins; nothing else is looked at
    exact .bind (he.guard rfl) fun _ _ => .bind (.bind insertRow_avoids fun _ _ => avoids_pure)
      fun _ _ => excludes_pure

theorem FlightFault.cancelStartedFlight {fingerprint : Sha256Hex} {now : DateTime}
    {reason : Identifier} {db : Database}
    (hflight : RuntimeStorageError.singleFlightStateInconsistent ≠ e ∨
      (db.flight.flights.get? fingerprint).filter (fun row => row.state = .active) ≠ none) :
    Avoids (.storage e) (cancelStartedFlight fingerprint now reason db) := by
  refine .bind (avoids_fetch (hflight.imp_left fun h h' => h (Exn.storage.inj h'))) fun _ _ =>
    .bind (he.recoverReservations rfl) fun _ _ => .bind (foldlM_avoids (fun _ _ => True)
      (fun _ _ _ _ => ⟨?_, fun _ _ => trivial⟩) trivial) fun _ _ => avoids_pure
  exact Avoids.bind (closeRequest_avoids (he.ne rfl)) fun _ _ => avoids_pure

/-- A cancellation: the flight of an active leader is active. -/
theorem FlightFault.cancelAdmittedRequest {id reason : Identifier} {lease : RuntimeLease}
    {now : DateTime} {db : Database}
    (hflight : RuntimeStorageError.singleFlightStateInconsistent ≠ e ∨
      ∀ c, db.flight.consumers.get? id = some c → c.state = .active → c.role = .leader →
        (db.flight.flights.get? c.requestFingerprint).filter (fun row => row.state = .active) ≠
          none) :
    (Requests.cancelAdmittedRequest id reason lease now db).1 ≠ .error (.storage e) := by
  refine transaction_excludes (he.ne rfl) (.bind he.fence fun _ _ => .bind (he.lookup rfl)
    fun consumer hconsumer => ?_)
  rw [fetch_eq_ok, Option.filter_eq_some_iff, decide_eq_true_eq] at hconsumer
  obtain ⟨hconsumer, hactive⟩ := hconsumer
  cases hrole : consumer.role with
  -- a follower leaves without a look at the flight
  | follower => exact .bind (closeRequest_avoids (he.ne rfl)) fun _ _ => excludes_pure
  | leader =>
    replace hflight := hflight.imp_right fun h => h consumer hconsumer hactive hrole
    refine .bind (cancelLeader_avoids (he.ne rfl) ?_ (he.cancelStartedFlight hflight)
      fun dropped hdrop => ⟨?_, ?_⟩) fun _ _ => excludes_pure
    · -- the reserved attempt is dropped
      cases activeAttempt db id with
      | none => exact avoids_pure
      | some entry =>
        exact .bind (he.guard rfl) fun _ _ => .bind (he.recoverReservations rfl)
          fun _ _ => avoids_pure
    · -- an attempt was sent: the flight is cancelled with its leader
      refine he.cancelStartedFlight ?_
      rcases dropReservedAttempt_eq_ok hdrop with ⟨-, rfl⟩ | ⟨_, _, _, -, -, -, rfl⟩
      · exact hflight
      · exact hflight
    · -- nothing was sent: the next consumer is promoted, if there is one
      refine .bind (closeRequest_avoids (he.ne rfl)) fun _ _ => .bind ?_ fun _ _ => avoids_pure
      cases nextLeader dropped consumer.requestFingerprint with
      | none => exact avoids_pure
      | some => exact .bind insertRow_avoids fun _ _ => avoids_pure

/-- A result for a request that is no consumer, or an active leader. -/
theorem FlightFault.completeLogicalRequest {result : ProductionLogicalResult}
    {lease : RuntimeLease} {now : DateTime} {db : Database}
    (hfinish : ∀ ledger, (∀ c ∈ db.flight.consumers.get? result.logicalRequestId,
        c.role = .leader ∧ c.state = .active) → persistLogicalResult result db.ledger = .ok ledger →
      Avoids (.storage e) (finishSingleFlight result now { db with ledger := ledger })) :
    (Requests.completeLogicalRequest result lease now db).1 ≠ .error (.storage e) := by
  refine transaction_excludes (he.ne rfl) (.bind he.fence fun _ _ => ?_)
  have hrest : ∀ _ : ∀ c ∈ db.flight.consumers.get? result.logicalRequestId,
      c.role = .leader ∧ c.state = .active,
      Excludes e (persistLogicalResult result db.ledger >>= fun ledger =>
        finishSingleFlight result now { db with ledger := ledger } >>= fun db =>
          (pure (.ok (), db) : Except Exn (Except Exn Unit × Database))) := by
    intro hleads
    exact .bind (closeRequest_avoids (he.ne rfl)) fun ledger hledger =>
      .bind (hfinish ledger hleads hledger) fun _ _ => excludes_pure
  split
  · exact .bind he.validateFinalization fun _ hvalid =>
      hrest (validateFinalization_eq_ok.mp hvalid).2.1
  · rename_i hnone
    refine hrest fun c hc => absurd ?_ hnone
    rw [Option.mem_def.mp hc]
    exact Option.some_ne_none _

theorem FlightFault.finalizeLogicalRequest {result : ProductionLogicalResult}
    {lease : RuntimeLease} {now : DateTime} {db : Database}
    (hfinish : ∀ ledger, (∀ c ∈ db.flight.consumers.get? result.logicalRequestId,
        c.role = .leader ∧ c.state = .active) → persistLogicalResult result db.ledger = .ok ledger →
      Avoids (.storage e) (finishSingleFlight result now { db with ledger := ledger })) :
    (Requests.finalizeLogicalRequest result lease now db).1 ≠ .error (.storage e) :=
  transaction_excludes (he.ne rfl) (.bind he.fence fun _ _ =>
    .bind he.validateFinalization fun _ hvalid =>
      .bind (closeRequest_avoids (he.ne rfl)) fun ledger hledger =>
        .bind (hfinish ledger (validateFinalization_eq_ok.mp hvalid).2.1 hledger)
          fun _ _ => excludes_pure)

/-- A new owner: its reconciliation. -/
theorem FlightFault.acquireLease {ownerToken : Identifier} {now : DateTime}
    {policy : RuntimeLeasePolicy} {db : Database}
    (hreconcile : ∀ row : RuntimeLeaseRow, Avoids (.storage e)
      (reconcileTerminalFlights now none { db with lease := some row })) :
    (Requests.acquireLease ownerToken now policy db).1 ≠ .error (.storage e) := by
  refine transaction_excludes (he.ne rfl) (.bind leaseExpiry_avoids fun expires _ => .bind ?_
    fun generation _ => .bind (hreconcile _) fun _ _ => excludes_pure)
  unfold nextGeneration
  split
  · exact avoids_pure
  split
  · split
    · exact he.raise rfl
    split
    · exact he.raise rfl
    · exact he.raise rfl
  · exact avoids_pure

/-- A recovery: the reconciliation after its repairs. -/
theorem FlightFault.recoverExpiredLease {ownerToken : Identifier} {now : DateTime}
    {policy : RuntimeLeasePolicy} {db : Database}
    (hreconcile : ∀ row repaired, RecoveryRepairs db now row repaired →
      Avoids (.storage e) (reconcileTerminalFlights now none repaired)) :
    (Requests.recoverExpiredLease ownerToken now policy db).1 ≠ .error (.storage e) := by
  refine transaction_excludes (he.ne rfl) (.bind leaseExpiry_avoids fun expires _ => .bind ?_
    fun row hrow => .bind ?_ fun _ haudited => .bind (he.recoverReservations rfl) fun gates hgates =>
      .bind ?_ fun started hstarted => .bind ?_ fun closed hclosed => .bind
        (hreconcile row _ ⟨hrow, haudited, gates, started, closed, hgates, hstarted, hclosed, rfl⟩)
        fun _ _ => .bind (he.guard rfl) fun _ _ => excludes_pure)
  · exact .bind (he.lookup rfl) fun _ _ => .bind (he.guard rfl) fun _ _ =>
      .bind (he.guard rfl) fun _ _ => avoids_pure
  · exact .bind (he.guard rfl) fun _ _ => he.guard rfl
  · refine foldlM_avoids (fun _ _ => True) (fun id _ ledger _ => ⟨?_, fun _ _ => trivial⟩) trivial
    have hother : RuntimeStorageError.runtimeRecoveryAuditGap ≠ e := he.ne rfl
    exact closeRequest_avoids hother
  · refine foldlM_avoids (fun _ _ => True) (fun _ _ _ _ => ⟨?_, fun _ _ => trivial⟩) trivial
    exact .bind insertRow_avoids fun _ _ => avoids_pure

/-! ## The other calls -/

/-- The calls that deliver results, start a flight or interrupt one. -/
def Operation.usesFlights : Operation → Bool
  | .admitLogicalRequest .. | .cancelAdmittedRequest .. | .completeLogicalRequest ..
  | .finalizeLogicalRequest .. | .acquireLease .. | .recoverExpiredLease .. => true
  | _ => false

omit he in
theorem discardValue_ne_error {α : Type} {r : Except Exn α × Database} {x : Exn}
    (h : r.1 ≠ .error x) : (discardValue r).1 ≠ .error x :=
  fun h' => h (discardValue_error.mp h')

theorem FlightFault.transitionRawPublication (publicationId : Identifier)
    (target : RawPublicationState) (sources : List RawPublicationState) (lease : RuntimeLease)
    (now : DateTime) (db : Database) :
    (transitionRawPublication publicationId target sources lease now db).1 ≠ .error (.storage e) :=
  transaction_excludes (he.ne rfl) (.bind he.fence fun _ _ => .bind (he.guard rfl)
    fun _ _ => excludes_pure)

/-- The other calls do not look at the flights. -/
theorem FlightFault.other_calls {op : Operation} (hop : op.usesFlights = false) (db : Database) :
    (op.run db).1 ≠ .error (.storage e) := by
  cases op with
  -- these look at the flights
  | admitLogicalRequest | cancelAdmittedRequest | completeLogicalRequest | finalizeLogicalRequest
  | acquireLease | recoverExpiredLease => cases hop
  | addLogicalRequest request =>
    exact transaction_excludes (he.ne rfl) (.bind insertLogicalRequest_avoids
      fun _ _ => excludes_pure)
  | enqueueLogicalRequest request rateDomain lease now policy =>
    refine transaction_excludes (he.ne rfl) (.bind he.fence fun _ _ =>
      .bind insertLogicalRequest_avoids fun _ _ => .bind insertRow_avoids fun _ _ => ?_)
    split
    · exact .bind insertRow_avoids fun _ _ => he.raises rfl
    · exact excludes_pure
  | claimNextQueued rateDomain lease now =>
    refine discardValue_ne_error (transaction_excludes (he.ne rfl) (.bind he.fence fun _ _ => ?_))
    split
    · exact excludes_pure
    · exact .bind (he.lookup rfl) fun _ _ => .bind (he.guard rfl) fun _ _ => excludes_pure
  | acquireGates reservationId attempt keys policy lease now =>
    refine discardValue_ne_error (transaction_excludes (he.ne rfl) (.bind (he.guard rfl)
      fun _ _ => .bind he.fence fun _ _ => .bind (he.guard rfl) fun _ _ => .bind (he.guard rfl)
        fun _ _ => .bind (firstBlocked_avoids _) fun blocked _ => ?_))
    -- the gates are looked at before the attempt is
    cases blocked with
    | some => exact he.raises rfl
    | none =>
      refine .bind ?_ fun _ _ => .bind (.bind (avoids_require (.inl (by simp))) fun _ _ =>
        insertRow_avoids) fun _ _ => .bind (foldlM_avoids (fun _ _ => True) (fun _ _ _ _ =>
          ⟨.bind insertRow_avoids fun _ _ => avoids_pure, fun _ _ => trivial⟩) trivial)
          fun _ _ => excludes_pure
      unfold ensureReservedAttempt
      split
      · exact .bind (he.guard rfl) fun _ _ => insertAttempt_avoids
      · exact .bind (he.guard rfl) fun _ _ => avoids_pure
  | releaseGates reservation outcome lease now rawEligible =>
    rw [Operation.run, Requests.releaseGates]
    split
    · exact he.raise rfl
    split
    · exact he.raise rfl
    · exact he.finishGateReservation reservation outcome none _ lease now db
  | recordRetryAfter reservation retryAfter lease now =>
    exact he.finishGateReservation reservation .failed (some retryAfter) true lease now db
  | recordUnknownOutcome reservation lease now =>
    exact he.finishGateReservation reservation .unknown none false lease now db
  | addPhysicalAttempt attempt =>
    exact transaction_excludes (he.ne rfl) (.bind insertAttempt_avoids fun _ _ => excludes_pure)
  | reserveNextPhysicalAttempt attemptId logicalRequestId lease now =>
    exact discardValue_ne_error (transaction_excludes (he.ne rfl) (.bind he.fence fun _ _ =>
      .bind (he.guard rfl) fun _ _ => .bind (he.guard rfl) fun _ _ => .bind (he.guard rfl)
        fun _ _ => .bind insertAttempt_avoids fun _ _ => excludes_pure))
  | discardReservedAttempt attemptId lease now =>
    exact transaction_excludes (he.ne rfl) (.bind he.fence fun _ _ => .bind (he.guard rfl)
      fun _ _ => .bind (avoids_require (.inl (by simp))) fun _ _ => excludes_pure)
  | markPhysicalAttemptStarted attemptId lease now =>
    exact transaction_excludes (he.ne rfl) (.bind he.fence fun _ _ => .bind (he.guard rfl)
      fun _ _ => excludes_pure)
  | beginRawPublication intent lease now =>
    exact transaction_excludes (he.ne rfl) (.bind he.fence fun _ _ => .bind (he.guard rfl)
      fun _ _ => .bind (avoids_require (.inl (by simp))) fun _ _ => .bind insertRow_avoids
        fun _ _ => excludes_pure)
  | commitRawPublication reference lease now =>
    exact transaction_excludes (he.ne rfl) (.bind he.fence fun _ _ => .bind (he.guard rfl)
      fun _ _ => excludes_pure)
  | failRawPublication publicationId lease now =>
    exact he.transitionRawPublication publicationId _ _ lease now db
  | markRawPublicationReconciliationRequired publicationId lease now =>
    exact he.transitionRawPublication publicationId _ _ lease now db
  | heartbeatLease lease now policy =>
    exact discardValue_ne_error (transaction_excludes (he.ne rfl) (.bind (he.guard rfl)
      fun _ _ => .bind (he.guard rfl) fun _ _ => .bind leaseExpiry_avoids fun _ _ =>
        .bind (he.lookup rfl) fun _ _ => excludes_pure))
  | releaseLease lease now =>
    exact transaction_excludes (he.ne rfl) (.bind (he.guard rfl) fun _ _ =>
      .bind (he.guard rfl) fun _ _ => .bind (he.lookup rfl) fun _ _ => excludes_pure)

end

end StockResearch.Requests
