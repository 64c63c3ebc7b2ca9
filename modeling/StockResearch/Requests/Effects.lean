import StockResearch.Requests.Operation

/-!
# What each operation can do

One lemma per repository method, `…_cases`: a call is refused and leaves the database
alone, or its guards held and the new database is the one written out. The loops and
helpers that several methods share have an `…_eq_ok` lemma of the same kind. Every
invariant of the development is derived from these lemmas; none of its proofs
unfolds a method again.

- `DeliveryFrame`: the tables that delivering results leaves alone.
-/

namespace StockResearch.Requests

/-! ## Transactions -/

/-- The call raised and left the database alone. -/
def Refused {α : Type} (outcome : Except Exn α × Database) (db : Database) : Prop :=
  ∃ e, outcome = (.error e, db)

theorem Refused.snd {α : Type} {outcome : Except Exn α × Database} {db : Database}
    (h : Refused outcome db) : outcome.2 = db := by
  obtain ⟨e, rfl⟩ := h
  rfl

/-- A refused call returns no value. -/
theorem Refused.ne_ok {α : Type} {outcome : Except Exn α × Database} {db db' : Database} {a : α}
    (h : Refused outcome db) : outcome ≠ (.ok a, db') := by
  obtain ⟨e, rfl⟩ := h
  simp

section

variable {α : Type} {e : RuntimeStorageError}
  {body : Database → Except Exn (Except Exn α × Database)} {db db' : Database}

/-- A transaction is refused, or commits what its body returned. -/
theorem transaction_store :
    Refused (transaction e body db) db ∨
      ∃ r db', body db = .ok (r, db') ∧ transaction e body db = (r, db') := by
  unfold transaction atomically
  cases hbody : body db with
  | ok r => exact .inr ⟨r.1, r.2, rfl, rfl⟩
  | error x => exact .inl ⟨_, rfl⟩

/-- A transaction returns a value only when its body committed it. -/
theorem transaction_eq_ok {a : α} :
    transaction e body db = (.ok a, db') ↔ body db = .ok (.ok a, db') :=
  atomically_eq_ok

/-- An error of a transaction was raised by its body, before or after the commit. -/
theorem transaction_error {x : Exn} (h : (transaction e body db).1 = .error x) :
    body db = .error x ∨ (body db = .error .integrity ∧ x = .storage e) ∨
      ∃ db', body db = .ok (.error x, db') := by
  unfold transaction atomically at h
  cases hbody : body db with
  | ok r =>
    rw [hbody] at h
    exact .inr (.inr ⟨r.2, by rw [← h]⟩)
  | error y =>
    rw [hbody] at h
    simp only [Except.error.injEq] at h
    split at h
    · rename_i hy
      exact .inr (.inl ⟨by rw [hy], h.symm⟩)
    · exact .inl (by rw [h])

end

/-! ## Errors that a method cannot raise -/

/-- The body raises `e` neither before nor after its commit. -/
def Excludes {α : Type} (e : RuntimeStorageError)
    (outcome : Except Exn (Except Exn α × Database)) : Prop :=
  Avoids (.storage e) outcome ∧ ∀ db, outcome ≠ .ok (.error (.storage e), db)

section

variable {α β : Type} {e : RuntimeStorageError} {db : Database}

theorem excludes_pure {a : α} :
    Excludes e (pure (.ok a, db) : Except Exn (Except Exn α × Database)) :=
  ⟨avoids_pure, fun _ h => by simp [pure, Except.pure] at h⟩

theorem Excludes.bind {x : Except Exn β} {f : β → Except Exn (Except Exn α × Database)}
    (hx : Avoids (.storage e) x) (hf : ∀ b, x = .ok b → Excludes e (f b)) :
    Excludes e (x >>= f) := by
  refine ⟨hx.bind fun b hb => (hf b hb).1, fun db h => ?_⟩
  obtain ⟨b, hb, h⟩ := bind_eq_ok.mp h
  exact (hf b hb).2 db h

theorem transaction_excludes {e' : RuntimeStorageError}
    {body : Database → Except Exn (Except Exn α × Database)} (hne : e' ≠ e)
    (h : Excludes e (body db)) : (transaction e' body db).1 ≠ .error (.storage e) := fun hr => by
  rcases transaction_error hr with hr | ⟨-, hr⟩ | ⟨db', hr⟩
  · exact h.1 hr
  · exact hne (Exn.storage.inj hr).symm
  · exact h.2 db' hr

theorem insertRow_avoids {κ α : Type} [DecidableEq κ] {t : Table κ α} {k : κ} {v : α} :
    Avoids (.storage e) (insertRow t k v) := by
  unfold insertRow
  exact .bind (avoids_require (.inl nofun)) fun _ _ => avoids_pure

theorem assertFence_avoids {lease : RuntimeLease} {now : DateTime}
    (h₁ : RuntimeStorageError.staleRuntimeLease ≠ e) (h₂ : RuntimeStorageError.runtimeClockRollback ≠ e)
    (h₃ : RuntimeStorageError.runtimeLeaseExpired ≠ e) :
    Avoids (.storage e) (assertFence db lease now) := fun h => by
  rcases assertFence_eq_error h with h | h | h
  · exact h₁ (Exn.storage.inj h).symm
  · exact h₂ (Exn.storage.inj h).symm
  · exact h₃ (Exn.storage.inj h).symm

theorem closeRequest_avoids {error : RuntimeStorageError} {id : Identifier}
    {state : LogicalRequestState} {result : LogicalResultRow} {ledger : LedgerTables}
    (hne : error ≠ e) : Avoids (.storage e) (closeRequest error id state result ledger) := by
  unfold closeRequest
  exact .bind (avoids_require (.inl fun h => hne (Exn.storage.inj h))) fun _ _ =>
    .bind insertRow_avoids fun _ _ => avoids_pure

end

/-! ## Lease -/

theorem heartbeatLease_cases (lease : RuntimeLease) (now : DateTime) (policy : RuntimeLeasePolicy)
    (db : Database) :
    Refused (heartbeatLease lease now policy db) db ∨
      ∃ row expires, currentLease db lease = some row ∧ lease.heartbeatAt ≤ now ∧
        now < lease.expiresAt ∧ leaseExpiry now policy = .ok expires ∧
        heartbeatLease lease now policy db =
          (.ok { lease with heartbeatAt := now, expiresAt := expires },
            { db with lease := some { row with heartbeatAt := now, expiresAt := expires } }) := by
  unfold heartbeatLease
  rcases transaction_store with h | ⟨r, db', h, h'⟩
  · exact .inl h
  · rw [h']
    simp only [bind_eq_ok, require_eq_ok, fetch_eq_ok, pure_eq_ok, Prod.mk.injEq] at h
    obtain ⟨-, hge, -, hlt, expires, hexp, row, hrow, rfl, rfl⟩ := h
    exact .inr ⟨row, expires, hrow, hge, hlt, hexp, rfl⟩

theorem releaseLease_cases (lease : RuntimeLease) (now : DateTime) (db : Database) :
    Refused (releaseLease lease now db) db ∨
      ∃ row, currentLease db lease = some row ∧ lease.heartbeatAt ≤ now ∧ now < lease.expiresAt ∧
        releaseLease lease now db =
          (.ok (), { db with lease := some { row with active := false } }) := by
  unfold releaseLease
  rcases transaction_store with h | ⟨r, db', h, h'⟩
  · exact .inl h
  · rw [h']
    simp only [bind_eq_ok, require_eq_ok, fetch_eq_ok, pure_eq_ok, Prod.mk.injEq] at h
    obtain ⟨-, hge, -, hlt, row, hrow, rfl, rfl⟩ := h
    exact .inr ⟨row, hrow, hge, hlt, rfl⟩

/-! ## Requests and queue -/

theorem insertLogicalRequest_eq_ok {request : ProductionLogicalRequest} {ledger ledger' : LedgerTables} :
    insertLogicalRequest request ledger = .ok ledger' ↔
      ledger.requests.get? request.logicalRequestId = none ∧
        ledger' = { ledger with
          requests := ledger.requests.insert request.logicalRequestId request.toLogicalRequestRow } := by
  simp only [insertLogicalRequest, bind_eq_ok, insertRow_eq_ok, pure_eq_ok]
  constructor
  · rintro ⟨t, ⟨hfresh, rfl⟩, rfl⟩
    exact ⟨hfresh, rfl⟩
  · rintro ⟨hfresh, rfl⟩
    exact ⟨_, ⟨hfresh, rfl⟩, rfl⟩

theorem addLogicalRequest_cases (request : ProductionLogicalRequest) (db : Database) :
    Refused (addLogicalRequest request db) db ∨
      ∃ ledger, insertLogicalRequest request db.ledger = .ok ledger ∧
        addLogicalRequest request db = (.ok (), { db with ledger := ledger }) := by
  unfold addLogicalRequest
  rcases transaction_store with h | ⟨r, db', h, h'⟩
  · exact .inl h
  · rw [h']
    simp only [bind_eq_ok, pure_eq_ok, Prod.mk.injEq] at h
    obtain ⟨ledger, hledger, rfl, rfl⟩ := h
    exact .inr ⟨ledger, hledger, rfl⟩

/-- The queue after a request was put in line, or refused. -/
def enqueuedQueue (request : ProductionLogicalRequest) (rateDomain : Identifier) (now : DateTime)
    (rejected : Bool) (queue : QueueTables) : QueueTables :=
  { queue with
    entries := queue.entries.insert request.logicalRequestId
      { rateDomain := rateDomain, taskId := request.taskId, enqueuedAt := now,
        state := if rejected then .rejected else .queued, dequeuedAt := none }
    events := queue.events ++ [⟨request.logicalRequestId, .requested, now, none⟩] ++
      [⟨request.logicalRequestId, if rejected then .rejected else .queued, now,
        if rejected then some queueFullCode else none⟩] }

theorem enqueueLogicalRequest_cases (request : ProductionLogicalRequest) (rateDomain : Identifier)
    (lease : RuntimeLease) (now : DateTime) (policy : QueuePolicy) (db : Database) :
    Refused (enqueueLogicalRequest request rateDomain lease now policy db) db ∨
      ∃ row ledger, FenceHolds db lease now row ∧
        insertLogicalRequest request db.ledger = .ok ledger ∧
        db.queue.entries.get? request.logicalRequestId = none ∧
        (queueIsFull db.queue.entries rateDomain request.taskId policy = false ∧
            enqueueLogicalRequest request rateDomain lease now policy db =
              (.ok (), { db with
                ledger := ledger
                queue := enqueuedQueue request rateDomain now false db.queue }) ∨
          queueIsFull db.queue.entries rateDomain request.taskId policy = true ∧
            ledger.results.get? request.logicalRequestId = none ∧
            enqueueLogicalRequest request rateDomain lease now policy db =
              (.error (.storage .queueFull), { db with
                ledger :=
                  { requests := ledger.requests.modify request.logicalRequestId
                      fun row => { row with state := .failed }
                    results := ledger.results.insert request.logicalRequestId
                      ⟨.failed, isoformat now, some queueFullCode⟩ }
                queue := enqueuedQueue request rateDomain now true db.queue })) := by
  unfold enqueueLogicalRequest
  rcases transaction_store with h | ⟨r, db', h, h'⟩
  · exact .inl h
  · rw [h']
    simp only [bind_eq_ok, assertFence_eq_ok, QueueTables.appendEvent, insertRow_eq_ok] at h
    obtain ⟨-, ⟨row, hfence⟩, ledger, hledger, entries, ⟨hfresh, rfl⟩, h⟩ := h
    refine .inr ⟨row, ledger, hfence, hledger, hfresh, ?_⟩
    -- the queue decides: a full one records a failed result
    cases hfull : queueIsFull db.queue.entries rateDomain request.taskId policy with
    | false =>
      simp only [hfull, Bool.false_eq_true, if_false, pure_eq_ok, Prod.mk.injEq] at h
      obtain ⟨rfl, rfl⟩ := h
      exact .inl ⟨rfl, rfl⟩
    | true =>
      simp only [hfull, if_true, bind_eq_ok, insertRow_eq_ok, pure_eq_ok, Prod.mk.injEq] at h
      obtain ⟨results, ⟨hresult, rfl⟩, rfl, rfl⟩ := h
      exact .inr ⟨rfl, hresult, rfl⟩

theorem claimNextQueued_cases (rateDomain : Identifier) (lease : RuntimeLease) (now : DateTime)
    (db : Database) :
    Refused (claimNextQueued rateDomain lease now db) db ∨
      claimNextQueued rateDomain lease now db = (.ok none, db) ∨
      ∃ row id entry queue, FenceHolds db lease now row ∧
        db.queue.entries.get? id = some entry ∧ entry.state = .queued ∧
        entry.rateDomain = rateDomain ∧
        queue.entries = (db.queue.entries.modify id fun row =>
          { row with state := .dequeued, dequeuedAt := some now }) ∧
        claimNextQueued rateDomain lease now db =
          (.ok (some ⟨id, entry.taskId, rateDomain, entry.enqueuedAt⟩),
            { db with queue := queue }) := by
  unfold claimNextQueued
  rcases transaction_store with h | ⟨r, db', h, h'⟩
  · exact .inl h
  · rw [h']
    simp only [bind_eq_ok, assertFence_eq_ok] at h
    obtain ⟨-, ⟨row, hfence⟩, h⟩ := h
    -- no task waits for the domain
    cases htasks : queuedTasks db.queue rateDomain with
    | nil =>
      simp only [htasks, pure_eq_ok, Prod.mk.injEq] at h
      obtain ⟨rfl, rfl⟩ := h
      exact .inr (.inl rfl)
    | cons first rest =>
      simp only [htasks, bind_eq_ok, fetch_eq_ok, require_eq_ok, pure_eq_ok, Prod.mk.injEq] at h
      obtain ⟨⟨id, entry⟩, hentry, -, -, rfl, rfl⟩ := h
      have hmem : (id, entry) ∈ _ := mem_orderBy.mp (List.mem_of_mem_head? hentry)
      rw [Table.mem_select] at hmem
      simp only [Bool.and_eq_true, decide_eq_true_eq] at hmem
      obtain ⟨hget, ⟨hdomain, htask⟩, hstate⟩ := hmem
      exact .inr (.inr ⟨row, id, entry, _, hfence, hget, hstate, hdomain, rfl, by rw [htask]⟩)

/-! ## Delivery -/

/-- Delivering results touches the ledger, the flights and the queue only. -/
structure DeliveryFrame (db db' : Database) : Prop where
  lease : db'.lease = db.lease
  attempts : db'.attempts = db.attempts
  gates : db'.gates = db.gates
  publications : db'.publications = db.publications

theorem DeliveryFrame.refl (db : Database) : DeliveryFrame db db := ⟨rfl, rfl, rfl, rfl⟩

theorem DeliveryFrame.trans {a b c : Database} (h : DeliveryFrame a b) (h' : DeliveryFrame b c) :
    DeliveryFrame a c :=
  ⟨h'.lease.trans h.lease, h'.attempts.trans h.attempts, h'.gates.trans h.gates,
    h'.publications.trans h.publications⟩

/-- What one delivery checks and does. -/
theorem deliverResult_eq_ok {result : ProductionLogicalResult} {fingerprint : Sha256Hex}
    {now : DateTime} {db db' : Database} {consumer : WaitingConsumer}
    (h : deliverResult result fingerprint now db consumer = .ok db') :
    consumer.requestFingerprint = fingerprint ∧
      (db.flight.events.any fun event =>
        event.logicalRequestId = consumer.logicalRequestId && event.eventType.isJoin) = true ∧
      (consumer.role = .leader ↔ consumer.logicalRequestId = result.logicalRequestId) ∧
      ∃ ledger,
        (consumer.logicalRequestId = result.logicalRequestId ∧ ledger = db.ledger ∨
          consumer.logicalRequestId ≠ result.logicalRequestId ∧
            (db.attempts.select fun _ row =>
              row.logicalRequestId = consumer.logicalRequestId) = [] ∧
            persistLogicalResult { result with logicalRequestId := consumer.logicalRequestId }
              db.ledger = .ok ledger) ∧
        db' = { db with
          ledger := ledger
          flight :=
            { db.flight with
              consumers := db.flight.consumers.modify consumer.logicalRequestId fun row =>
                { row with state := .completed, resultOwnerId := some result.logicalRequestId }
              events := db.flight.events ++ [⟨consumer.logicalRequestId, .singleFlightCompleted, now,
                some result.logicalRequestId⟩] } } := by
  simp only [deliverResult, bind_eq_ok, require_eq_ok, FlightTables.appendEvent] at h
  obtain ⟨-, ⟨hfp, hjoin, hrole⟩, h⟩ := h
  refine ⟨hfp, hjoin, hrole, ?_⟩
  -- the owner of the result keeps it; any other consumer is given one
  by_cases hid : consumer.logicalRequestId = result.logicalRequestId
  · simp only [hid, if_true, bind_eq_ok, pure_eq_ok, exists_eq_left'] at h
    exact ⟨db.ledger, .inl ⟨hid, rfl⟩, by rw [hid]; exact h.symm⟩
  · simp only [hid, if_false, bind_eq_ok, require_eq_ok, pure_eq_ok] at h
    obtain ⟨-, hnone, ledger, hledger, rfl⟩ := h
    exact ⟨ledger, .inr ⟨hid, hnone, hledger⟩, rfl⟩

theorem deliverResult_frame {result : ProductionLogicalResult} {fingerprint : Sha256Hex}
    {now : DateTime} {db db' : Database} {consumer : WaitingConsumer}
    (h : deliverResult result fingerprint now db consumer = .ok db') : DeliveryFrame db db' := by
  obtain ⟨-, -, -, ledger, -, rfl⟩ := deliverResult_eq_ok h
  exact ⟨rfl, rfl, rfl, rfl⟩

/-- Finishing a flight: nothing for a request that is no consumer, else the
leader's flight is active, every waiting consumer gets the result, and the flight
and the leader's queue entry are closed. -/
theorem finishSingleFlight_eq_ok {result : ProductionLogicalResult} {now : DateTime}
    {db db' : Database} (h : finishSingleFlight result now db = .ok db') :
    db.flight.consumers.get? result.logicalRequestId = none ∧ db' = db ∨
      ∃ leader delivered, db.flight.consumers.get? result.logicalRequestId = some leader ∧
        leader.role = .leader ∧ leader.state = .active ∧
        db.flight.flights.get? leader.requestFingerprint = some ⟨result.logicalRequestId, .active⟩ ∧
        (waitingConsumers db leader.requestFingerprint).foldlM
          (deliverResult result leader.requestFingerprint now) db = .ok delivered ∧
        db' = { delivered with
          flight := delivered.flight.terminate leader.requestFingerprint
          queue.entries := delivered.queue.entries.updateWhere
            (fun id row => id = result.logicalRequestId && row.state = .queued)
            fun row => { row with state := .cancelled } } := by
  unfold finishSingleFlight at h
  cases hc : db.flight.consumers.get? result.logicalRequestId with
  | none =>
    simp only [hc, pure_eq_ok] at h
    exact .inl ⟨rfl, h.symm⟩
  | some leader =>
    simp only [hc, bind_eq_ok, require_eq_ok, pure_eq_ok] at h
    obtain ⟨-, ⟨hrole, hstate, hflight⟩, delivered, hfold, rfl⟩ := h
    exact .inr ⟨leader, delivered, rfl, hrole, hstate, hflight, hfold, rfl⟩

theorem finishSingleFlight_frame {result : ProductionLogicalResult} {now : DateTime}
    {db db' : Database} (h : finishSingleFlight result now db = .ok db') : DeliveryFrame db db' := by
  rcases finishSingleFlight_eq_ok h with ⟨-, rfl⟩ | ⟨leader, delivered, -, -, -, -, hfold, rfl⟩
  · exact .refl _
  · have hframe : DeliveryFrame db delivered :=
      foldlM_invariant (fun _ db' => DeliveryFrame db db')
        (fun _ _ _ _ hs hstep => hs.trans (deliverResult_frame hstep)) (.refl db) hfold
    exact ⟨hframe.lease, hframe.attempts, hframe.gates, hframe.publications⟩

/-- Reconciling one flight: it is still open, or its leader's result is delivered. -/
theorem reconcileFlight_eq_ok {now : DateTime} {db db' : Database} {flight : OpenFlight}
    (h : reconcileFlight now db flight = .ok db') :
    flight.consumer = some (.leader, .active) ∧ flight.requestState ≠ none ∧
      ∃ result, readLogicalResult .singleFlightAuditGap db.ledger flight.leaderLogicalRequestId =
          .ok result ∧
        (flight.requestState = some .queued ∧ result = none ∧ db' = db ∨
          ∃ r, result = some r ∧ flight.requestState = some (resultState r.outcome) ∧
            validateAttemptOutcome db.attempts r = .ok () ∧ finishSingleFlight r now db = .ok db') := by
  simp only [reconcileFlight, bind_eq_ok, require_eq_ok] at h
  obtain ⟨-, ⟨hconsumer, hstate⟩, result, hread, h⟩ := h
  refine ⟨hconsumer, hstate, result, hread, ?_⟩
  split at h
  · rename_i hopen
    exact .inl ⟨hopen.1, hopen.2, (pure_eq_ok.mp h).symm⟩
  · simp only [bind_eq_ok, fetch_eq_ok, require_eq_ok] at h
    obtain ⟨r, hr, -, hr', u, hvalid, hfinish⟩ := h
    exact .inr ⟨r, hr, hr', hvalid, hfinish⟩

theorem reconcileTerminalFlights_frame {now : DateTime} {fingerprint : Option Sha256Hex}
    {db db' : Database} (h : reconcileTerminalFlights now fingerprint db = .ok db') :
    DeliveryFrame db db' := by
  refine foldlM_invariant (fun _ db' => DeliveryFrame db db') ?_ (.refl db) h
  intro flight rest s s' hs hstep
  obtain ⟨-, -, -, -, ⟨-, -, rfl⟩ | ⟨r, -, -, -, hfinish⟩⟩ := reconcileFlight_eq_ok hstep
  · exact hs
  · exact hs.trans (finishSingleFlight_frame hfinish)

theorem validateFinalization_eq_ok {db : Database} {result : ProductionLogicalResult} {u : Unit} :
    validateFinalization db result = .ok u ↔
      (db.ledger.requests.get? result.logicalRequestId).map (·.state) = some .queued ∧
        (∀ consumer ∈ db.flight.consumers.get? result.logicalRequestId,
          consumer.role = .leader ∧ consumer.state = .active) ∧
        validateAttemptOutcome db.attempts result = .ok u := by
  simp only [validateFinalization, bind_eq_ok, require_eq_ok]
  constructor
  · rintro ⟨_, h₁, _, h₂, h₃⟩
    exact ⟨h₁, h₂, h₃⟩
  · rintro ⟨h₁, h₂, h₃⟩
    exact ⟨(), h₁, (), h₂, h₃⟩

theorem completeLogicalRequest_cases (result : ProductionLogicalResult) (lease : RuntimeLease)
    (now : DateTime) (db : Database) :
    Refused (completeLogicalRequest result lease now db) db ∨
      ∃ row ledger db', FenceHolds db lease now row ∧
        (db.flight.consumers.get? result.logicalRequestId ≠ none →
          validateFinalization db result = .ok ()) ∧
        persistLogicalResult result db.ledger = .ok ledger ∧
        finishSingleFlight result now { db with ledger := ledger } = .ok db' ∧
        completeLogicalRequest result lease now db = (.ok (), db') := by
  unfold completeLogicalRequest
  rcases transaction_store with h | ⟨r, db', h, h'⟩
  · exact .inl h
  · rw [h']
    by_cases hc : db.flight.consumers.get? result.logicalRequestId = none
    · simp only [hc, ne_eq, not_true_eq_false, if_false, bind_eq_ok, assertFence_eq_ok, pure_eq_ok,
        Prod.mk.injEq] at h
      obtain ⟨-, ⟨row, hfence⟩, ledger, hledger, db', hfinish, rfl, rfl⟩ := h
      exact .inr ⟨row, ledger, _, hfence, fun h => absurd hc h, hledger, hfinish, rfl⟩
    · simp only [hc, ne_eq, not_false_eq_true, if_true, bind_eq_ok, assertFence_eq_ok, pure_eq_ok,
        Prod.mk.injEq] at h
      obtain ⟨-, ⟨row, hfence⟩, u, hvalid, ledger, hledger, db', hfinish, rfl, rfl⟩ := h
      exact .inr ⟨row, ledger, _, hfence, fun _ => hvalid, hledger, hfinish, rfl⟩

theorem finalizeLogicalRequest_cases (result : ProductionLogicalResult) (lease : RuntimeLease)
    (now : DateTime) (db : Database) :
    Refused (finalizeLogicalRequest result lease now db) db ∨
      ∃ row ledger db', FenceHolds db lease now row ∧ validateFinalization db result = .ok () ∧
        persistLogicalResult result db.ledger = .ok ledger ∧
        finishSingleFlight result now { db with ledger := ledger } = .ok db' ∧
        finalizeLogicalRequest result lease now db = (.ok (), db') := by
  unfold finalizeLogicalRequest
  rcases transaction_store with h | ⟨r, db', h, h'⟩
  · exact .inl h
  · rw [h']
    simp only [bind_eq_ok, assertFence_eq_ok, pure_eq_ok, Prod.mk.injEq] at h
    obtain ⟨-, ⟨row, hfence⟩, u, hvalid, ledger, hledger, db', hfinish, rfl, rfl⟩ := h
    exact .inr ⟨row, ledger, _, hfence, hvalid, hledger, hfinish, rfl⟩

/-! ## Admission -/

theorem joinFlight_eq_ok {request : ProductionLogicalRequest} {role : ConsumerRole}
    {cacheDecision : CacheDecision} {rateDomain leaderId : Identifier} {now : DateTime}
    {flight flight' : FlightTables} :
    joinFlight request role cacheDecision rateDomain leaderId now flight = .ok flight' ↔
      flight.consumers.get? request.logicalRequestId = none ∧
        flight' = { flight with
          consumers := flight.consumers.insert request.logicalRequestId
            { requestFingerprint := request.requestFingerprint, role := role, state := .active,
              cacheDecision := cacheDecision, rateDomain := rateDomain, joinedAt := now,
              resultOwnerId := none }
          events := flight.events ++
            [⟨request.logicalRequestId, .singleFlight role, now, some leaderId⟩] } := by
  simp only [joinFlight, bind_eq_ok, insertRow_eq_ok, FlightTables.appendEvent, pure_eq_ok]
  constructor
  · rintro ⟨t, ⟨hfresh, rfl⟩, rfl⟩
    exact ⟨hfresh, rfl⟩
  · rintro ⟨hfresh, rfl⟩
    exact ⟨_, ⟨hfresh, rfl⟩, rfl⟩

/-- A new leader is put in line, or rejected with its flight. -/
theorem queueLeader_eq_ok {request : ProductionLogicalRequest} {rateDomain : Identifier}
    {now : DateTime} {policy : QueuePolicy} {db db' : Database} {rejected : Bool}
    (h : queueLeader request rateDomain now policy db = .ok (rejected, db')) :
    db.queue.entries.get? request.logicalRequestId = none ∧
      rejected = queueIsFull db.queue.entries rateDomain request.taskId policy ∧
      (rejected = false ∧
          db' = { db with queue := enqueuedQueue request rateDomain now false db.queue } ∨
        rejected = true ∧ ∃ ledger,
          cancelLogical request.logicalRequestId now queueFullCode .failed db.ledger = .ok ledger ∧
          db' = { db with
            ledger := ledger
            flight := (db.flight.terminate request.requestFingerprint).cancelConsumer
              request.logicalRequestId
            queue := enqueuedQueue request rateDomain now true db.queue }) := by
  simp only [queueLeader, bind_eq_ok, insertRow_eq_ok] at h
  obtain ⟨entries, ⟨hfresh, rfl⟩, h⟩ := h
  refine ⟨hfresh, ?_⟩
  cases hfull : queueIsFull db.queue.entries rateDomain request.taskId policy with
  | false =>
    simp only [hfull, Bool.false_eq_true, if_false, pure_eq_ok, Prod.mk.injEq] at h
    obtain ⟨rfl, rfl⟩ := h
    exact ⟨rfl, .inl ⟨rfl, rfl⟩⟩
  | true =>
    simp only [hfull, if_true, bind_eq_ok, pure_eq_ok, Prod.mk.injEq] at h
    obtain ⟨ledger, hledger, rfl, rfl⟩ := h
    exact ⟨rfl, .inr ⟨rfl, ledger, hledger, rfl⟩⟩

/-- The row a consumer joins with. -/
def joinedConsumer (request : ProductionLogicalRequest) (role : ConsumerRole)
    (cachePolicy : ProductionCachePolicy) (rateDomain : Identifier) (now : DateTime) :
    ConsumerRow where
  requestFingerprint := request.requestFingerprint
  role := role
  state := .active
  cacheDecision := if cachePolicy.applicable then .disabled else .notApplicable
  rateDomain := rateDomain
  joinedAt := now
  resultOwnerId := none

/-- The flight tables after a consumer joined. -/
def joinedFlight (request : ProductionLogicalRequest) (role : ConsumerRole)
    (cachePolicy : ProductionCachePolicy) (rateDomain leaderId : Identifier) (now : DateTime)
    (flight : FlightTables) : FlightTables :=
  { flight with
    consumers := flight.consumers.insert request.logicalRequestId
      (joinedConsumer request role cachePolicy rateDomain now)
    events := flight.events ++
      [⟨request.logicalRequestId, .singleFlight role, now, some leaderId⟩] }

theorem admitLogicalRequest_cases (request : ProductionLogicalRequest) (rateDomain : Identifier)
    (cachePolicy : ProductionCachePolicy) (lease : RuntimeLease) (now : DateTime)
    (queuePolicy : QueuePolicy) (db : Database) :
    Refused (admitLogicalRequest request rateDomain cachePolicy lease now queuePolicy db) db ∨
      ∃ row ledger reconciled, FenceHolds db lease now row ∧
        insertLogicalRequest request db.ledger = .ok ledger ∧
        reconcileTerminalFlights now (some request.requestFingerprint)
          { db with
            ledger := ledger
            flight := db.flight.appendEvent request.logicalRequestId
              (.cache (if cachePolicy.applicable then .disabled else .notApplicable)) now none } =
            .ok reconciled ∧
        reconciled.flight.consumers.get? request.logicalRequestId = none ∧
        ((∃ rejected db', activeLeader reconciled.flight request.requestFingerprint = none ∧
            reconciled.flight.activeConsumers request.requestFingerprint = [] ∧
            queueLeader request rateDomain now queuePolicy
              { reconciled with
                flight := joinedFlight request .leader cachePolicy rateDomain
                  request.logicalRequestId now (openFlight request.requestFingerprint
                    request.logicalRequestId reconciled.flight) } = .ok (rejected, db') ∧
            admitLogicalRequest request rateDomain cachePolicy lease now queuePolicy db =
              (if rejected then .error (.storage .queueFull)
                else .ok ⟨request.logicalRequestId,
                  if cachePolicy.applicable then .disabled else .notApplicable, .leader,
                  request.logicalRequestId⟩, db')) ∨
          ∃ leaderId, activeLeader reconciled.flight request.requestFingerprint =
              some (leaderId, rateDomain) ∧
            admitLogicalRequest request rateDomain cachePolicy lease now queuePolicy db =
              (.ok ⟨request.logicalRequestId,
                if cachePolicy.applicable then .disabled else .notApplicable, .follower, leaderId⟩,
              { reconciled with
                flight := joinedFlight request .follower cachePolicy rateDomain leaderId now
                  reconciled.flight })) := by
  unfold admitLogicalRequest
  rcases transaction_store with h | ⟨r, db', h, h'⟩
  · exact .inl h
  · rw [h']
    simp only [bind_eq_ok, assertFence_eq_ok] at h
    obtain ⟨-, ⟨row, hfence⟩, ledger, hledger, reconciled, hreconcile, h⟩ := h
    -- nobody leads the flight: the request does
    cases hleader : activeLeader reconciled.flight request.requestFingerprint with
    | none =>
      simp only [hleader, bind_eq_ok, require_eq_ok, joinFlight_eq_ok, pure_eq_ok, Prod.exists,
        Prod.mk.injEq] at h
      obtain ⟨-, hnone, flight, ⟨hfresh, rfl⟩, rejected, db', hqueue, rfl, rfl⟩ := h
      exact .inr ⟨row, ledger, reconciled, hfence, hledger, hreconcile, hfresh,
        .inl ⟨rejected, db', hleader, hnone, hqueue, rfl⟩⟩
    | some leader =>
      -- the leader may wait in another domain; then the call is refused
      obtain ⟨leaderId, leaderDomain⟩ := leader
      simp only [hleader, bind_eq_ok, require_eq_ok, joinFlight_eq_ok, pure_eq_ok,
        Prod.mk.injEq] at h
      obtain ⟨-, rfl, flight, ⟨hfresh, rfl⟩, rfl, rfl⟩ := h
      exact .inr ⟨row, ledger, reconciled, hfence, hledger, hreconcile, hfresh,
        .inr ⟨leaderId, hleader, rfl⟩⟩

theorem queueLeader_frame {request : ProductionLogicalRequest} {rateDomain : Identifier}
    {now : DateTime} {policy : QueuePolicy} {db db' : Database} {rejected : Bool}
    (h : queueLeader request rateDomain now policy db = .ok (rejected, db')) :
    DeliveryFrame db db' := by
  obtain ⟨-, -, ⟨-, rfl⟩ | ⟨-, _, -, rfl⟩⟩ := queueLeader_eq_ok h
  · exact ⟨rfl, rfl, rfl, rfl⟩
  · exact ⟨rfl, rfl, rfl, rfl⟩

/-! ## Cancellation -/

theorem cancelStartedFlight_eq_ok {fingerprint : Sha256Hex} {now : DateTime} {reason : Identifier}
    {db db' : Database} (h : cancelStartedFlight fingerprint now reason db = .ok db') :
    ∃ leaderId gates cancelled,
      db.flight.flights.get? fingerprint = some ⟨leaderId, .active⟩ ∧
        releaseGateOccupancy leaderId now .inFlightCancelled db.gates = .ok gates ∧
        (db.flight.activeConsumers fingerprint).foldlM (cancelInFlight now reason)
          { db with
            gates := gates
            attempts := db.attempts.updateWhere
              (fun _ attempt => attempt.logicalRequestId = leaderId && attempt.state = .started)
              fun attempt => { attempt with state := .unknown } } = .ok cancelled ∧
        db' = { cancelled with flight := cancelled.flight.terminate fingerprint } := by
  simp only [cancelStartedFlight, bind_eq_ok, fetch_eq_ok, Option.filter_eq_some_iff,
    decide_eq_true_eq, pure_eq_ok] at h
  obtain ⟨⟨leaderId, state⟩, ⟨hflight, hstate⟩, gates, hgates, cancelled, hfold, rfl⟩ := h
  simp only at hstate
  subst hstate
  exact ⟨leaderId, gates, cancelled, hflight, hgates, hfold, rfl⟩

theorem promoteFollower_eq_ok {follower : Option (Identifier × Identifier × Identifier)}
    {cancelledLeader : Identifier} {fingerprint : Sha256Hex} {now : DateTime} {db db' : Database}
    (h : promoteFollower follower cancelledLeader fingerprint now db = .ok db') :
    follower = none ∧ db' = { db with flight := db.flight.terminate fingerprint } ∨
      ∃ promoted rateDomain taskId events, follower = some (promoted, rateDomain, taskId) ∧
        db.queue.entries.get? promoted = none ∧
        db' = { db with
          queue :=
            { db.queue with
              entries := db.queue.entries.insert promoted ⟨rateDomain, taskId, now, .queued, none⟩
              events := events }
          flight :=
            { consumers := db.flight.consumers.modify promoted fun row =>
                { row with role := .leader }
              flights := db.flight.flights.modify fingerprint fun row =>
                { row with leaderLogicalRequestId := promoted }
              events := db.flight.events ++
                [⟨promoted, .leaderPromoted, now, some cancelledLeader⟩] } } := by
  cases follower with
  | none =>
    simp only [promoteFollower, pure_eq_ok] at h
    exact .inl ⟨rfl, h.symm⟩
  | some entry =>
    obtain ⟨promoted, rateDomain, taskId⟩ := entry
    simp only [promoteFollower, bind_eq_ok, insertRow_eq_ok, pure_eq_ok] at h
    obtain ⟨entries, ⟨hfresh, rfl⟩, rfl⟩ := h
    exact .inr ⟨promoted, rateDomain, taskId, _, rfl, hfresh, rfl⟩

theorem cancelUnsentLeader_eq_ok {logicalRequestId : Identifier} {fingerprint : Sha256Hex}
    {now : DateTime} {reason : Identifier} {db db' : Database} {promoted : Option Identifier}
    (h : cancelUnsentLeader logicalRequestId fingerprint now reason db = .ok (promoted, db')) :
    ∃ ledger handed, cancelLogical logicalRequestId now reason .cancelled db.ledger = .ok ledger ∧
      promoteFollower (nextLeader db fingerprint) logicalRequestId fingerprint now
        { db with
          ledger := ledger
          flight := db.flight.cancelConsumer logicalRequestId
          queue.entries := db.queue.entries.modify logicalRequestId fun row =>
            { row with state := .cancelled } } = .ok handed ∧
      promoted = (nextLeader db fingerprint).map (·.1) ∧
      db' = { handed with
        flight := handed.flight.appendEvent logicalRequestId .leaderCancelled now (some reason) } := by
  simp only [cancelUnsentLeader, bind_eq_ok, pure_eq_ok, Prod.mk.injEq] at h
  obtain ⟨ledger, hledger, handed, hhanded, rfl, rfl⟩ := h
  exact ⟨ledger, handed, hledger, hhanded, rfl, rfl⟩

theorem dropReservedAttempt_eq_ok {logicalRequestId : Identifier} {now : DateTime}
    {active : Option (Identifier × PhysicalAttemptRow)} {db db' : Database}
    (h : dropReservedAttempt logicalRequestId now active db = .ok db') :
    active = none ∧ db' = db ∨
      ∃ attemptId row gates, active = some (attemptId, row) ∧ row.state = .reserved ∧
        releaseGateOccupancy logicalRequestId now .leaderCancelled db.gates = .ok gates ∧
        db' = { db with
          gates := gates
          attempts := db.attempts.modify attemptId fun attempt =>
            { attempt with state := .failed } } := by
  cases active with
  | none =>
    simp only [dropReservedAttempt, pure_eq_ok] at h
    exact .inl ⟨rfl, h.symm⟩
  | some entry =>
    obtain ⟨attemptId, row⟩ := entry
    simp only [dropReservedAttempt, bind_eq_ok, require_eq_ok, pure_eq_ok] at h
    obtain ⟨-, hstate, gates, hgates, rfl⟩ := h
    exact .inr ⟨attemptId, row, gates, rfl, hstate, hgates, rfl⟩

/-- The reserved or started attempt with the lowest number. -/
def activeAttempt (db : Database) (logicalRequestId : Identifier) :
    Option (Identifier × PhysicalAttemptRow) :=
  (orderedAttempts db.attempts logicalRequestId).find? fun item => item.2.state.isActive

/-- Whether an attempt of the request has already been terminal. -/
def alreadySent (db : Database) (logicalRequestId : Identifier) : Bool :=
  (orderedAttempts db.attempts logicalRequestId).any fun item => !item.2.state.isActive

theorem cancelLeader_eq_ok {logicalRequestId : Identifier} {fingerprint : Sha256Hex}
    {now : DateTime} {reason : Identifier} {db db' : Database} {promoted : Option Identifier}
    (h : cancelLeader logicalRequestId fingerprint now reason db = .ok (promoted, db')) :
    ((activeAttempt db logicalRequestId).any (fun item => item.2.state = .started) = true ∧
        promoted = none ∧ cancelStartedFlight fingerprint now reason db = .ok db') ∨
      ∃ dropped,
        (activeAttempt db logicalRequestId).any (fun item => item.2.state = .started) = false ∧
        (db.queue.entries.get? logicalRequestId).any (fun row =>
          row.state = .queued || row.state = .dequeued) = true ∧
        dropReservedAttempt logicalRequestId now (activeAttempt db logicalRequestId) db =
          .ok dropped ∧
        (alreadySent db logicalRequestId = true ∧ promoted = none ∧
            cancelStartedFlight fingerprint now reason dropped = .ok db' ∨
          alreadySent db logicalRequestId = false ∧
            cancelUnsentLeader logicalRequestId fingerprint now reason dropped =
              .ok (promoted, db')) := by
  simp only [cancelLeader] at h
  change (if (activeAttempt db logicalRequestId).any _ = true then _ else _) = _ at h
  split at h
  · -- an attempt was started: the whole flight is cancelled
    rename_i hstarted
    simp only [bind_eq_ok, pure_eq_ok, Prod.mk.injEq] at h
    obtain ⟨cancelled, hcancel, rfl, rfl⟩ := h
    exact .inl ⟨hstarted, rfl, hcancel⟩
  · rename_i hstarted
    simp only [bind_eq_ok, require_eq_ok] at h
    obtain ⟨-, hqueue, dropped, hdrop, h⟩ := h
    refine .inr ⟨dropped, by simpa using hstarted, hqueue, hdrop, ?_⟩
    -- after the reserved attempt is dropped: was the request sent before?
    split at h
    · rename_i hsent
      simp only [bind_eq_ok, pure_eq_ok, Prod.mk.injEq] at h
      obtain ⟨cancelled, hcancel, rfl, rfl⟩ := h
      exact .inl ⟨hsent, rfl, hcancel⟩
    · rename_i hsent
      exact .inr ⟨by simpa [alreadySent] using hsent, h⟩

/-- Cancelling a leader avoids an error that its three parts avoid. -/
theorem cancelLeader_avoids {e : RuntimeStorageError} {logicalRequestId : Identifier}
    {fingerprint : Sha256Hex} {now : DateTime} {reason : Identifier} {db : Database}
    (hne : RuntimeStorageError.inFlightCancellationRequiresTransportResult ≠ e)
    (hdrop : Avoids (.storage e)
      (dropReservedAttempt logicalRequestId now (activeAttempt db logicalRequestId) db))
    (hstarted : Avoids (.storage e) (cancelStartedFlight fingerprint now reason db))
    (hdropped : ∀ dropped,
      dropReservedAttempt logicalRequestId now (activeAttempt db logicalRequestId) db = .ok dropped →
        Avoids (.storage e) (cancelStartedFlight fingerprint now reason dropped) ∧
          Avoids (.storage e) (cancelUnsentLeader logicalRequestId fingerprint now reason dropped)) :
    Avoids (.storage e) (cancelLeader logicalRequestId fingerprint now reason db) := by
  simp only [cancelLeader]
  split
  · exact .bind hstarted fun _ _ => avoids_pure
  · refine .bind (avoids_require (.inl fun h => hne (Exn.storage.inj h))) fun _ _ =>
      .bind hdrop fun dropped hd => ?_
    split
    · exact .bind (hdropped dropped hd).1 fun _ _ => avoids_pure
    · exact (hdropped dropped hd).2

theorem cancelAdmittedRequest_cases (logicalRequestId reason : Identifier) (lease : RuntimeLease)
    (now : DateTime) (db : Database) :
    Refused (cancelAdmittedRequest logicalRequestId reason lease now db) db ∨
      ∃ row consumer, FenceHolds db lease now row ∧
        db.flight.consumers.get? logicalRequestId = some consumer ∧ consumer.state = .active ∧
        ((∃ ledger, consumer.role = .follower ∧
            cancelLogical logicalRequestId now reason .cancelled db.ledger = .ok ledger ∧
            cancelAdmittedRequest logicalRequestId reason lease now db =
              (.ok none, { db with
                ledger := ledger
                flight := (db.flight.cancelConsumer logicalRequestId).appendEvent logicalRequestId
                  .followerCancelled now (some reason) })) ∨
          ∃ promoted db', consumer.role = .leader ∧
            cancelLeader logicalRequestId consumer.requestFingerprint now reason db =
              .ok (promoted, db') ∧
            cancelAdmittedRequest logicalRequestId reason lease now db = (.ok promoted, db')) := by
  unfold cancelAdmittedRequest
  rcases transaction_store with h | ⟨r, db', h, h'⟩
  · exact .inl h
  · rw [h']
    simp only [bind_eq_ok, assertFence_eq_ok, fetch_eq_ok, Option.filter_eq_some_iff,
      decide_eq_true_eq] at h
    obtain ⟨-, ⟨row, hfence⟩, consumer, ⟨hconsumer, hstate⟩, h⟩ := h
    refine .inr ⟨row, consumer, hfence, hconsumer, hstate, ?_⟩
    -- a follower leaves; a leader leaves the flight to its next consumer
    cases hrole : consumer.role with
    | follower =>
      simp only [hrole, bind_eq_ok, pure_eq_ok, Prod.mk.injEq] at h
      obtain ⟨ledger, hledger, rfl, rfl⟩ := h
      exact .inl ⟨ledger, rfl, hledger, rfl⟩
    | leader =>
      simp only [hrole, bind_eq_ok, pure_eq_ok, Prod.exists, Prod.mk.injEq] at h
      obtain ⟨promoted, db', hcancel, rfl, rfl⟩ := h
      exact .inr ⟨promoted, db', rfl, hcancel, rfl⟩

/-! ## Attempts -/

theorem insertAttempt_eq_ok {ledger : LedgerTables} {attempts attempts' : Table Identifier PhysicalAttemptRow}
    {id : Identifier} {row : PhysicalAttemptRow} :
    insertAttempt ledger attempts id row = .ok attempts' ↔
      ledger.requests.get? row.logicalRequestId ≠ none ∧
        (attempts.select fun _ other => other.logicalRequestId = row.logicalRequestId &&
          other.sequenceNumber = row.sequenceNumber) = [] ∧
        attempts.get? id = none ∧ attempts' = attempts.insert id row := by
  simp only [insertAttempt, bind_eq_ok, require_eq_ok, insertRow_eq_ok]
  constructor
  · rintro ⟨_, h₁, _, h₂, h₃⟩
    exact ⟨h₁, h₂, h₃⟩
  · rintro ⟨h₁, h₂, h₃⟩
    exact ⟨(), h₁, (), h₂, h₃⟩

theorem addPhysicalAttempt_cases (attempt : ProductionPhysicalAttempt) (db : Database) :
    Refused (addPhysicalAttempt attempt db) db ∨
      ∃ attempts, insertAttempt db.ledger db.attempts attempt.physicalAttemptId attempt.row =
          .ok attempts ∧
        addPhysicalAttempt attempt db = (.ok (), { db with attempts := attempts }) := by
  unfold addPhysicalAttempt
  rcases transaction_store with h | ⟨r, db', h, h'⟩
  · exact .inl h
  · rw [h']
    simp only [bind_eq_ok, pure_eq_ok, Prod.mk.injEq] at h
    obtain ⟨attempts, hattempts, rfl, rfl⟩ := h
    exact .inr ⟨attempts, hattempts, rfl⟩

theorem reserveNextPhysicalAttempt_cases (physicalAttemptId logicalRequestId : Identifier)
    (lease : RuntimeLease) (now : DateTime) (db : Database) :
    Refused (reserveNextPhysicalAttempt physicalAttemptId logicalRequestId lease now db) db ∨
      ∃ row attempt attempts, FenceHolds db lease now row ∧
        attempt = ⟨physicalAttemptId, logicalRequestId, maxSequence db.attempts logicalRequestId + 1,
          lease.generation, isoformat now⟩ ∧
        (db.ledger.requests.get? logicalRequestId).map (·.state) = some .queued ∧
        (db.attempts.select fun _ row =>
          row.logicalRequestId = logicalRequestId && row.state = .unknown) = [] ∧
        (db.attempts.select fun _ row =>
          row.logicalRequestId = logicalRequestId && row.state.isActive) = [] ∧
        insertAttempt db.ledger db.attempts physicalAttemptId attempt.row = .ok attempts ∧
        reserveNextPhysicalAttempt physicalAttemptId logicalRequestId lease now db =
          (.ok attempt, { db with attempts := attempts }) := by
  unfold reserveNextPhysicalAttempt
  rcases transaction_store with h | ⟨r, db', h, h'⟩
  · exact .inl h
  · rw [h']
    simp only [bind_eq_ok, assertFence_eq_ok, require_eq_ok, pure_eq_ok, Prod.mk.injEq] at h
    obtain ⟨-, ⟨row, hfence⟩, -, hqueued, -, hunknown, -, hactive, attempts, hattempts, rfl, rfl⟩ := h
    exact .inr ⟨row, _, attempts, hfence, rfl, hqueued, hunknown, hactive, hattempts, rfl⟩

theorem discardReservedAttempt_cases (physicalAttemptId : Identifier) (lease : RuntimeLease)
    (now : DateTime) (db : Database) :
    Refused (discardReservedAttempt physicalAttemptId lease now db) db ∨
      ∃ row attempt, FenceHolds db lease now row ∧ db.attempts.get? physicalAttemptId = some attempt ∧
        attempt.leaseGeneration = lease.generation ∧ attempt.state = .reserved ∧
        (db.gates.reservations.select fun _ reservation =>
          reservation.physicalAttemptId = physicalAttemptId) = [] ∧
        discardReservedAttempt physicalAttemptId lease now db =
          (.ok (), { db with
            attempts := db.attempts.deleteWhere fun id _ => id = physicalAttemptId }) := by
  unfold discardReservedAttempt
  rcases transaction_store with h | ⟨r, db', h, h'⟩
  · exact .inl h
  · rw [h']
    simp only [bind_eq_ok, assertFence_eq_ok, require_eq_ok, pure_eq_ok, Prod.mk.injEq,
      Option.any_eq_true, Bool.and_eq_true, decide_eq_true_eq] at h
    obtain ⟨-, ⟨row, hfence⟩, -, ⟨attempt, hget, ⟨hgeneration, hstate⟩, hnone⟩, -, -, rfl, rfl⟩ := h
    exact .inr ⟨row, attempt, hfence, hget, hgeneration, hstate, hnone, rfl⟩

theorem markPhysicalAttemptStarted_cases (physicalAttemptId : Identifier) (lease : RuntimeLease)
    (now : DateTime) (db : Database) :
    Refused (markPhysicalAttemptStarted physicalAttemptId lease now db) db ∨
      ∃ row attempt, FenceHolds db lease now row ∧ db.attempts.get? physicalAttemptId = some attempt ∧
        attempt.leaseGeneration = lease.generation ∧ attempt.state = .reserved ∧
        markPhysicalAttemptStarted physicalAttemptId lease now db =
          (.ok (), { db with attempts := db.attempts.modify physicalAttemptId fun row =>
            { row with state := .started } }) := by
  unfold markPhysicalAttemptStarted
  rcases transaction_store with h | ⟨r, db', h, h'⟩
  · exact .inl h
  · rw [h']
    simp only [bind_eq_ok, assertFence_eq_ok, require_eq_ok, pure_eq_ok, Prod.mk.injEq,
      Option.any_eq_true, Bool.and_eq_true, decide_eq_true_eq] at h
    obtain ⟨-, ⟨row, hfence⟩, -, ⟨attempt, hget, hgeneration, hstate⟩, rfl, rfl⟩ := h
    exact .inr ⟨row, attempt, hfence, hget, hgeneration, hstate, rfl⟩

theorem markPhysicalAttemptStarted_eq_ok {physicalAttemptId : Identifier} {lease : RuntimeLease}
    {now : DateTime} {db db' : Database}
    (h : markPhysicalAttemptStarted physicalAttemptId lease now db = (.ok (), db')) :
    ∃ row attempt, FenceHolds db lease now row ∧ db.attempts.get? physicalAttemptId = some attempt ∧
      attempt.leaseGeneration = lease.generation ∧ attempt.state = .reserved ∧
      db' = { db with attempts := db.attempts.modify physicalAttemptId fun row =>
        { row with state := .started } } := by
  rcases markPhysicalAttemptStarted_cases physicalAttemptId lease now db with
    hr | ⟨row, attempt, hfence, hget, hgeneration, hstate, hr⟩
  · exact absurd h hr.ne_ok
  · rw [hr, Prod.mk.injEq] at h
    exact ⟨row, attempt, hfence, hget, hgeneration, hstate, h.2.symm⟩

/-! ## Gates -/

theorem ensureReservedAttempt_eq_ok {ledger : LedgerTables}
    {attempts attempts' : Table Identifier PhysicalAttemptRow} {attempt : ProductionPhysicalAttempt}
    (h : ensureReservedAttempt ledger attempts attempt = .ok attempts') :
    attempts.get? attempt.physicalAttemptId = none ∧
        attempt.sequenceNumber = maxSequence attempts attempt.logicalRequestId + 1 ∧
        insertAttempt ledger attempts attempt.physicalAttemptId attempt.row = .ok attempts' ∨
      ∃ row, attempts.get? attempt.physicalAttemptId = some row ∧
        row.logicalRequestId = attempt.logicalRequestId ∧
        row.sequenceNumber = attempt.sequenceNumber ∧
        row.leaseGeneration = attempt.leaseGeneration ∧ row.createdAt = attempt.createdAt ∧
        row.state = .reserved ∧ attempts' = attempts := by
  unfold ensureReservedAttempt at h
  cases hget : attempts.get? attempt.physicalAttemptId with
  | none =>
    simp only [hget, bind_eq_ok, require_eq_ok] at h
    obtain ⟨-, hsequence, hinsert⟩ := h
    exact .inl ⟨rfl, hsequence, hinsert⟩
  | some row =>
    simp only [hget, bind_eq_ok, require_eq_ok, pure_eq_ok] at h
    obtain ⟨-, ⟨h₁, h₂, h₃, h₄, h₅⟩, rfl⟩ := h
    exact .inr ⟨row, rfl, h₁, h₂, h₃, h₄, h₅, rfl⟩

/-- The event of a refused acquisition. -/
def blockedEvent (logicalRequestId : Identifier) (gate : GateScope × Identifier)
    (reason : BlockedReason) (now : DateTime) : GateEventRow :=
  ⟨logicalRequestId, none, some gate, if reason = .cooldown then .cooldown else .blocked, now,
    some (.blocked reason)⟩

theorem acquireGates_cases (reservationId : Identifier) (attempt : ProductionPhysicalAttempt)
    (keys : GateKeys) (policy : HierarchicalGatePolicy) (lease : RuntimeLease) (now : DateTime)
    (db : Database) :
    Refused (acquireGates reservationId attempt keys policy lease now db) db ∨
      ∃ row, FenceHolds db lease now row ∧ attempt.leaseGeneration = lease.generation ∧
        (db.queue.entries.get? attempt.logicalRequestId).map (·.state) = some .dequeued ∧
        (db.ledger.requests.get? attempt.logicalRequestId).map (·.state) = some .queued ∧
        ((∃ gate reason, firstBlocked db.gates policy now keys.ordered = .ok (some (gate, reason)) ∧
            acquireGates reservationId attempt keys policy lease now db =
              (.error (.storage (.gateBlocked gate.1 reason)),
                { db with
                  gates.events := db.gates.events ++
                    [blockedEvent attempt.logicalRequestId gate reason now] })) ∨
          ∃ attempts reservations gates, firstBlocked db.gates policy now keys.ordered = .ok none ∧
            ensureReservedAttempt db.ledger db.attempts attempt = .ok attempts ∧
            insertReservation db.gates.reservations reservationId
              ⟨attempt.physicalAttemptId, attempt.logicalRequestId, lease.generation, now,
                .active⟩ = .ok reservations ∧
            keys.ordered.foldlM (acquireGate reservationId attempt.logicalRequestId now)
              { db.gates with reservations := reservations } = .ok gates ∧
            acquireGates reservationId attempt keys policy lease now db =
              (.ok ⟨reservationId, attempt.physicalAttemptId, attempt.logicalRequestId,
                lease.generation, now⟩, { db with attempts := attempts, gates := gates })) := by
  unfold acquireGates
  rcases transaction_store with h | ⟨r, db', h, h'⟩
  · exact .inl h
  · rw [h']
    simp only [bind_eq_ok, assertFence_eq_ok, require_eq_ok] at h
    obtain ⟨-, hgeneration, -, ⟨row, hfence⟩, -, hqueue, -, hrequest, blocked, hblocked, h⟩ := h
    refine .inr ⟨row, hfence, hgeneration, hqueue, hrequest, ?_⟩
    -- a closed gate is recorded, and raises after the transaction is stored
    cases blocked with
    | some entry =>
      obtain ⟨gate, reason⟩ := entry
      simp only [pure_eq_ok, Prod.mk.injEq] at h
      obtain ⟨rfl, rfl⟩ := h
      exact .inl ⟨gate, reason, hblocked, rfl⟩
    | none =>
      simp only [bind_eq_ok, pure_eq_ok, Prod.mk.injEq] at h
      obtain ⟨attempts, hattempts, reservations, hreservations, gates, hgates, rfl, rfl⟩ := h
      exact .inr ⟨attempts, reservations, gates, hblocked, hattempts, hreservations, hgates, rfl⟩

/-- A successful acquisition: its guards held, no gate blocked, and it wrote the attempt,
the reservation and the gates. -/
theorem acquireGates_eq_ok {reservationId : Identifier} {attempt : ProductionPhysicalAttempt}
    {keys : GateKeys} {policy : HierarchicalGatePolicy} {lease : RuntimeLease} {now : DateTime}
    {db db' : Database} {reservation : GateReservation}
    (h : acquireGates reservationId attempt keys policy lease now db = (.ok reservation, db')) :
    ∃ row attempts reservations gates, FenceHolds db lease now row ∧
      firstBlocked db.gates policy now keys.ordered = .ok none ∧
      ensureReservedAttempt db.ledger db.attempts attempt = .ok attempts ∧
      insertReservation db.gates.reservations reservationId
        ⟨attempt.physicalAttemptId, attempt.logicalRequestId, lease.generation, now, .active⟩ =
          .ok reservations ∧
      keys.ordered.foldlM (acquireGate reservationId attempt.logicalRequestId now)
        { db.gates with reservations := reservations } = .ok gates ∧
      reservation = ⟨reservationId, attempt.physicalAttemptId, attempt.logicalRequestId,
        lease.generation, now⟩ ∧
      db' = { db with attempts := attempts, gates := gates } := by
  rcases acquireGates_cases reservationId attempt keys policy lease now db with
    hr | ⟨row, hfence, -, -, -, ⟨_, _, -, hr⟩ |
      ⟨attempts, reservations, gates, hfree, hattempt, hreserve, hgates, hr⟩⟩
  · exact absurd h hr.ne_ok
  · rw [hr, Prod.mk.injEq] at h
    exact nomatch h.1
  · rw [hr, Prod.mk.injEq, Except.ok.injEq] at h
    exact ⟨row, attempts, reservations, gates, hfence, hfree, hattempt, hreserve, hgates,
      h.1.symm, h.2.symm⟩

/-- The scopes of a reservation in the order `_finish_gate_reservation` reads them. -/
def sortedScopes (gates : GateTables) (reservationId : Identifier) : List (GateScope × Identifier) :=
  orderBy (fun a b => decide (a.1.value ≤ b.1.value)) (gates.scopesOf reservationId)

/-- The gate tables after a reservation was released. -/
def releasedGates (reservationId : Identifier) (state : Table (GateScope × Identifier) GateStateRow)
    (gates : GateTables) : GateTables :=
  { gates with
    state := state
    reservations := gates.reservations.modify reservationId fun row =>
      { row with state := .released } }

theorem finishGateReservation_cases (reservation : GateReservation) (outcome : PhysicalAttemptState)
    (retryAfter : Option Seconds) (rawEligible : Bool) (lease : RuntimeLease) (now : DateTime)
    (db : Database) :
    Refused (finishGateReservation reservation outcome retryAfter rawEligible lease now db) db ∨
      ∃ row current state gates, FenceHolds db lease now row ∧
        db.gates.reservations.get? reservation.reservationId = some current ∧
        current.state = .active ∧ current.logicalRequestId = reservation.logicalRequestId ∧
        current.physicalAttemptId = reservation.physicalAttemptId ∧
        current.leaseGeneration = lease.generation ∧
        decrementGates .gateStateInconsistent (sortedScopes db.gates reservation.reservationId)
          db.gates.state = .ok state ∧
        (retryAfter = none ∧ gates = releasedGates reservation.reservationId state db.gates ∨
          ∃ seconds, retryAfter = some seconds ∧
            recordCooldown reservation (sortedScopes db.gates reservation.reservationId) seconds now
              (releasedGates reservation.reservationId state db.gates) = .ok gates) ∧
        finishGateReservation reservation outcome retryAfter rawEligible lease now db =
          (.ok (), { db with
            attempts := db.attempts.updateWhere
              (fun id row => id = reservation.physicalAttemptId && row.state.isActive)
              fun row => { row with state := outcome, rawEligible := rawEligible }
            gates := { gates with events := gates.events ++ [⟨reservation.logicalRequestId,
              some reservation.reservationId, none, .released, now, some (.outcome outcome)⟩] } }) := by
  unfold finishGateReservation
  rcases transaction_store with h | ⟨r, db', h, h'⟩
  · exact .inl h
  · rw [h']
    simp only [bind_eq_ok, assertFence_eq_ok, require_eq_ok, Option.any_eq_true, Bool.and_eq_true,
      decide_eq_true_eq] at h
    obtain ⟨-, ⟨row, hfence⟩, -, ⟨current, hget, ⟨⟨⟨hactive, hlogical⟩, hattempt⟩, hgeneration⟩, -⟩,
      state, hstate, h⟩ := h
    refine .inr ⟨row, current, state, ?_⟩
    -- a `Retry-After` sets the cooldown of the provider
    cases retryAfter with
    | none =>
      simp only [bind_eq_ok, pure_eq_ok, Prod.mk.injEq, exists_eq_left'] at h
      obtain ⟨rfl, rfl⟩ := h
      exact ⟨_, hfence, hget, hactive, hlogical, hattempt, hgeneration, hstate, .inl ⟨rfl, rfl⟩, rfl⟩
    | some seconds =>
      simp only [bind_eq_ok, pure_eq_ok, Prod.mk.injEq] at h
      obtain ⟨gates, hgates, rfl, rfl⟩ := h
      exact ⟨gates, hfence, hget, hactive, hlogical, hattempt, hgeneration, hstate,
        .inr ⟨seconds, rfl, hgates⟩, rfl⟩

theorem releaseGates_cases (reservation : GateReservation) (outcome : PhysicalAttemptState)
    (lease : RuntimeLease) (now : DateTime) (rawEligible : Option Bool) (db : Database) :
    Refused (releaseGates reservation outcome lease now rawEligible db) db ∨
      (outcome = .succeeded ∨ outcome = .failed) ∧ ∃ eligible,
        releaseGates reservation outcome lease now rawEligible db =
          finishGateReservation reservation outcome none eligible lease now db := by
  simp only [releaseGates]
  split
  · exact .inl ⟨_, rfl⟩
  · split
    · exact .inl ⟨_, rfl⟩
    · rename_i houtcome _
      exact .inr ⟨Classical.not_not.mp houtcome, _, rfl⟩

/-! ## Raw publications -/

theorem beginRawPublication_cases (intent : RawPublicationIntent) (lease : RuntimeLease)
    (now : DateTime) (db : Database) :
    Refused (beginRawPublication intent lease now db) db ∨
      ∃ attempt, db.attempts.get? intent.physicalAttemptId = some attempt ∧
        attempt.logicalRequestId = intent.logicalRequestId ∧
        (attempt.state = .succeeded ∨ attempt.state = .failed) ∧
        db.publications.get? intent.publicationId = none ∧
        beginRawPublication intent lease now db =
          (.ok (), { db with
            publications := db.publications.insert intent.publicationId
              ⟨intent, none, .staging, now, none⟩ }) := by
  unfold beginRawPublication
  rcases transaction_store with h | ⟨r, db', h, h'⟩
  · exact .inl h
  · rw [h']
    simp only [bind_eq_ok, require_eq_ok, insertRow_eq_ok, pure_eq_ok, Prod.mk.injEq,
      Option.any_eq_true, Bool.and_eq_true, Bool.or_eq_true, decide_eq_true_eq] at h
    obtain ⟨-, -, -, ⟨attempt, hget, ⟨⟨hlogical, -⟩, hstate⟩, -⟩, -, -, publications,
      ⟨hfresh, rfl⟩, rfl, rfl⟩ := h
    exact .inr ⟨attempt, hget, hlogical, hstate, hfresh, rfl⟩

theorem commitRawPublication_cases (reference : CommittedRawReference) (lease : RuntimeLease)
    (now : DateTime) (db : Database) :
    Refused (commitRawPublication reference lease now db) db ∨
      commitRawPublication reference lease now db =
        (.ok (), { db with
          publications := db.publications.modify reference.publicationId fun row =>
            { row with
              relativePath := some reference.relativePath, state := .committed
              committedAt := some now } }) := by
  unfold commitRawPublication
  rcases transaction_store with h | ⟨r, db', h, h'⟩
  · exact .inl h
  · rw [h']
    simp only [bind_eq_ok, pure_eq_ok, Prod.mk.injEq] at h
    obtain ⟨-, -, -, -, rfl, rfl⟩ := h
    exact .inr rfl

theorem transitionRawPublication_cases (publicationId : Identifier) (target : RawPublicationState)
    (sources : List RawPublicationState) (lease : RuntimeLease) (now : DateTime) (db : Database) :
    Refused (transitionRawPublication publicationId target sources lease now db) db ∨
      transitionRawPublication publicationId target sources lease now db =
        (.ok (), { db with publications := db.publications.modify publicationId fun row =>
          { row with state := target } }) := by
  unfold transitionRawPublication
  rcases transaction_store with h | ⟨r, db', h, h'⟩
  · exact .inl h
  · rw [h']
    simp only [bind_eq_ok, pure_eq_ok, Prod.mk.injEq] at h
    obtain ⟨-, -, -, -, rfl, rfl⟩ := h
    exact .inr rfl

/-! ## Lease takeover -/

theorem acquireLease_cases (ownerToken : Identifier) (now : DateTime) (policy : RuntimeLeasePolicy)
    (db : Database) :
    Refused (acquireLease ownerToken now policy db) db ∨
      ∃ expires generation db', leaseExpiry now policy = .ok expires ∧
        nextGeneration db.lease now = .ok generation ∧
        reconcileTerminalFlights now none
          { db with lease := some ⟨ownerToken, generation, now, now, expires, true⟩ } = .ok db' ∧
        acquireLease ownerToken now policy db =
          (.ok ⟨ownerToken, generation, now, now, expires⟩, db') := by
  unfold acquireLease
  rcases transaction_store with h | ⟨r, db', h, h'⟩
  · exact .inl h
  · rw [h']
    simp only [bind_eq_ok, pure_eq_ok, Prod.mk.injEq] at h
    obtain ⟨expires, hexpires, generation, hgeneration, db', hreconcile, rfl, rfl⟩ := h
    exact .inr ⟨expires, generation, _, hexpires, hgeneration, hreconcile, rfl⟩

theorem expiredLease_eq_ok {db : Database} {now : DateTime} {row : RuntimeLeaseRow} :
    expiredLease db now = .ok row ↔
      db.lease = some row ∧ row.active = true ∧ row.heartbeatAt ≤ now ∧ row.expiresAt ≤ now := by
  simp only [expiredLease, bind_eq_ok, fetch_eq_ok, require_eq_ok, pure_eq_ok,
    Option.filter_eq_some_iff]
  constructor
  · rintro ⟨row, ⟨h₁, h₂⟩, -, h₃, -, h₄, rfl⟩
    exact ⟨h₁, h₂, h₃, h₄⟩
  · rintro ⟨h₁, h₂, h₃, h₄⟩
    exact ⟨row, ⟨h₁, h₂⟩, (), h₃, (), h₄, rfl⟩

/-- The database of a recovery before its last step, the delivery of results. -/
structure RecoveryRepairs (db : Database) (now : DateTime) (row : RuntimeLeaseRow)
    (repaired : Database) : Prop where
  expired : expiredLease db now = .ok row
  audited : validateRecoveryState db row.generation = .ok ()
  repairs : ∃ gates started closed,
    recoverGateReservations row.generation now db.gates = .ok gates ∧
      (startedRequests db row.generation).foldlM (closeStarted now) db.ledger = .ok started ∧
      (interruptedBetweenAttempts { db with ledger := started }).foldlM (closeInterrupted now)
        started = .ok closed ∧
      repaired = { db with
        gates := gates
        queue := requeueUnattempted now db
        ledger := closed
        attempts := transferAttempts row.generation db.attempts }

theorem recoverExpiredLease_cases (ownerToken : Identifier) (now : DateTime)
    (policy : RuntimeLeasePolicy) (db : Database) :
    Refused (recoverExpiredLease ownerToken now policy db) db ∨
      ∃ expires row repaired db', leaseExpiry now policy = .ok expires ∧
        RecoveryRepairs db now row repaired ∧
        reconcileTerminalFlights now none repaired = .ok db' ∧
        recoverExpiredLease ownerToken now policy db =
          (.ok ⟨ownerToken, row.generation + 1, now, now, expires⟩,
            { db' with lease := some ⟨ownerToken, row.generation + 1, now, now, expires, true⟩ }) := by
  unfold recoverExpiredLease
  rcases transaction_store with h | ⟨r, db', h, h'⟩
  · exact .inl h
  · rw [h']
    simp only [bind_eq_ok, require_eq_ok, pure_eq_ok, Prod.mk.injEq] at h
    obtain ⟨expires, hexpires, row, hrow, u, hvalid, gates, hgates, started, hstarted, closed, hclosed,
      db', hreconcile, -, -, rfl, rfl⟩ := h
    exact .inr ⟨expires, row, _, db', hexpires,
      ⟨hrow, hvalid, gates, started, closed, hgates, hstarted, hclosed, rfl⟩, hreconcile, rfl⟩

/-- A successful recovery, with the database before its last step. -/
theorem recoverExpiredLease_eq_ok {ownerToken : Identifier} {now : DateTime}
    {policy : RuntimeLeasePolicy} {lease : RuntimeLease} {db db' : Database}
    (h : recoverExpiredLease ownerToken now policy db = (.ok lease, db')) :
    ∃ expires row repaired delivered, leaseExpiry now policy = .ok expires ∧
      RecoveryRepairs db now row repaired ∧
      reconcileTerminalFlights now none repaired = .ok delivered ∧
      lease = ⟨ownerToken, row.generation + 1, now, now, expires⟩ ∧
      db' = { delivered with
        lease := some ⟨ownerToken, row.generation + 1, now, now, expires, true⟩ } := by
  rcases recoverExpiredLease_cases ownerToken now policy db with
    hr | ⟨expires, row, repaired, delivered, hexpires, hrepairs, hreconcile, hr⟩
  · exact absurd h hr.ne_ok
  · rw [hr, Prod.mk.injEq, Except.ok.injEq] at h
    exact ⟨expires, row, repaired, delivered, hexpires, hrepairs, hreconcile, h.1.symm, h.2.symm⟩

end StockResearch.Requests
