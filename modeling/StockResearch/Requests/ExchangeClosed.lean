import StockResearch.Requests.GateOccupancy
import StockResearch.Requests.Transport

/-!
# When an exchange that reaches the send step is closed

Every branch of an exchange ends in one call of `_finish_gate_reservation`. With
exact gates and a valid fence that call succeeds, and it closes the attempt, its
reservation and its eight counters, in every branch but one: the cooldown of an
accepted `429` is `completed_at + timedelta(seconds=retry_after)`, and a finite
`Retry-After` can leave the range of that sum. Its `OverflowError` escapes after the
send. So does a `KeyboardInterrupt` of the callback or the permit-id factory, which no
`except Exception` takes.

- `finishGateReservation_succeeds`, `finishGateReservation_overflows`: the call.
- `exchange_dispositions`: which branch the callback leads to.
- `exchange_closed_iff`: an exchange is closed unless it is interrupted or its cooldown
  overflows.
-/

namespace StockResearch.Requests

/-! ## Finishing a reservation -/

/-- A duration that can be added to the time of the call. -/
def Representable (now : DateTime) (seconds : Seconds) : Prop :=
  ∃ delay deadline, timedelta seconds = some delay ∧ now.add? delay = some deadline

/-- An active reservation of the current owner is finished whenever the cooldown it
records, if any, is representable. -/
theorem finishGateReservation_succeeds {db : Database} (hexact : GatesExact db.gates)
    {reservation : GateReservation} {lease : RuntimeLease} {now : DateTime} {row : RuntimeLeaseRow}
    {current : GateReservationRow} (hfence : FenceHolds db lease now row)
    (hcurrent : db.gates.reservations.get? reservation.reservationId = some current)
    (hactive : current.state = .active)
    (hlogical : current.logicalRequestId = reservation.logicalRequestId)
    (hattempt : current.physicalAttemptId = reservation.physicalAttemptId)
    (hgeneration : current.leaseGeneration = lease.generation) (outcome : PhysicalAttemptState)
    (retryAfter : Option Seconds) (rawEligible : Bool)
    (hretry : ∀ seconds, retryAfter = some seconds → Representable now seconds) :
    ∃ db', finishGateReservation reservation outcome retryAfter rawEligible lease now db =
      (.ok (), db') := by
  have hlength : (sortedScopes db.gates reservation.reservationId).length = 8 := by
    rw [sortedScopes, orderBy, List.length_insertionSort]
    exact hexact.scopes_length hcurrent
  obtain ⟨state, hstate⟩ := hexact.decrement hcurrent hactive .gateStateInconsistent
    (sortedScopes_nodup db.gates reservation.reservationId) fun _ hm => mem_sortedScopes.mp hm
  -- the checks before the cooldown
  have hguard : (db.gates.reservations.get? reservation.reservationId).any (fun current =>
      current.state = .active && current.logicalRequestId = reservation.logicalRequestId &&
        current.physicalAttemptId = reservation.physicalAttemptId &&
        current.leaseGeneration = lease.generation &&
        (sortedScopes db.gates reservation.reservationId).length = 8) = true := by
    simp [hcurrent, hactive, hlogical, hattempt, hgeneration, hlength]
  cases retryAfter with
  | none =>
    simp only [finishGateReservation, transaction_eq_ok, bind_eq_ok, assertFence_eq_ok,
      require_eq_ok, pure_eq_ok]
    exact ⟨_, (), ⟨row, hfence⟩, (), hguard, state, hstate, _, rfl, rfl⟩
  | some seconds =>
    obtain ⟨delay, deadline, hdelay, hdeadline⟩ := hretry seconds rfl
    obtain ⟨key, hkey⟩ := hexact.eightScopes _ _ hcurrent .provider
    have hmem : (GateScope.provider, key) ∈ sortedScopes db.gates reservation.reservationId :=
      mem_sortedScopes.mpr (mem_scopesOf.mpr hkey)
    obtain ⟨provider, hprovider⟩ : ∃ provider,
        (sortedScopes db.gates reservation.reservationId).find?
          (fun gate => gate.1 = GateScope.provider) = some provider := by
      refine Option.isSome_iff_exists.mp (List.find?_isSome.mpr ⟨_, hmem, ?_⟩)
      exact decide_eq_true rfl
    have hrecord : ∃ gates, recordCooldown reservation
        (sortedScopes db.gates reservation.reservationId) seconds now
        (releasedGates reservation.reservationId state db.gates) = .ok gates := by
      simp only [recordCooldown, bind_eq_ok, fetch_eq_ok, pure_eq_ok]
      exact ⟨_, provider, hprovider, delay, hdelay, deadline, hdeadline, rfl⟩
    obtain ⟨gates, hgates⟩ := hrecord
    simp only [finishGateReservation, transaction_eq_ok, bind_eq_ok, assertFence_eq_ok,
      require_eq_ok, pure_eq_ok]
    exact ⟨_, (), ⟨row, hfence⟩, (), hguard, state, hstate, gates, hgates, rfl⟩

/-- A cooldown that is not representable makes the call raise and change nothing. -/
theorem finishGateReservation_overflows {reservation : GateReservation} {lease : RuntimeLease}
    {now : DateTime} {db : Database} {seconds : Seconds} (outcome : PhysicalAttemptState)
    (rawEligible : Bool) (hretry : ¬ Representable now seconds) :
    Refused (finishGateReservation reservation outcome (some seconds) rawEligible lease now db)
      db := by
  rcases finishGateReservation_cases reservation outcome (some seconds) rawEligible lease now db with
    h | ⟨_, _, _, _, -, -, -, -, -, -, -, ⟨hnone, -⟩ | ⟨s, hs, hrecord⟩, -⟩
  · exact h
  · exact nomatch hnone
  · rw [Option.some.injEq] at hs
    subst hs
    obtain ⟨_, delay, deadline, _, -, -, hdelay, hdeadline, -⟩ := recordCooldown_eq_ok hrecord
    exact absurd ⟨delay, deadline, hdelay, hdeadline⟩ hretry

/-- What a finished reservation leaves behind: the attempt has the outcome, the
reservation is released and each of its gates has one holder less. -/
structure ReservationFinished (reservation : GateReservation) (outcome : PhysicalAttemptState)
    (db db' : Database) : Prop where
  attempt : ∀ row, db.attempts.get? reservation.physicalAttemptId = some row →
    row.state.isActive = true →
      (db'.attempts.get? reservation.physicalAttemptId).map (·.state) = some outcome
  released : (db'.gates.reservations.get? reservation.reservationId).map (·.state) = some .released
  counters : ∀ gate ∈ db.gates.scopesOf reservation.reservationId,
    db'.gates.activeCount gate + 1 = db.gates.activeCount gate

theorem finishGateReservation_finished {reservation : GateReservation} {outcome : PhysicalAttemptState}
    {retryAfter : Option Seconds} {rawEligible : Bool} {lease : RuntimeLease} {now : DateTime}
    {db db' : Database}
    (h : finishGateReservation reservation outcome retryAfter rawEligible lease now db =
      (.ok (), db')) : ReservationFinished reservation outcome db db' := by
  rcases finishGateReservation_cases reservation outcome retryAfter rawEligible lease now db with
    hr | ⟨_, current, state, gates, -, hcurrent, -, -, -, -, hstate, hcooldown, hr⟩
  · exact absurd h hr.ne_ok
  rw [hr, Prod.mk.injEq] at h
  obtain ⟨-, rfl⟩ := h
  have hback := decrementGates_returned (sortedScopes_nodup db.gates reservation.reservationId) hstate
  -- the cooldown touches neither the reservations nor the counters
  have hgates : gates.reservations = (releasedGates reservation.reservationId state
        db.gates).reservations ∧
      ∀ gate, gates.activeCount gate =
        (releasedGates reservation.reservationId state db.gates).activeCount gate := by
    rcases hcooldown with ⟨-, rfl⟩ | ⟨seconds, -, hrecord⟩
    · exact ⟨rfl, fun _ => rfl⟩
    · obtain ⟨provider, _, deadline, _, -, -, -, -, rfl⟩ := recordCooldown_eq_ok hrecord
      exact ⟨rfl, activeCount_cooldown rfl⟩
  refine ⟨fun row hrow hlive => ?_, ?_, fun gate hm => ?_⟩
  · simp [hrow, hlive]
  · change (gates.reservations.get? _).map _ = _
    rw [hgates.1, releasedGates, Table.get?_modify, if_pos rfl, hcurrent]
    rfl
  · change gates.activeCount gate + 1 = _
    have hcount : (releasedGates reservation.reservationId state db.gates).activeCount gate =
        db.gates.activeCount gate - if gate ∈ sortedScopes db.gates reservation.reservationId
          then 1 else 0 := hback.activeCount gate
    obtain ⟨held, hheld, hpos⟩ := hback.held gate (mem_sortedScopes.mpr hm)
    have hcurrent : db.gates.activeCount gate = held.activeCount := by
      rw [GateTables.activeCount, hheld]
      rfl
    rw [hgates.2, hcount, if_pos (mem_sortedScopes.mpr hm)]
    omega

/-! ## Branches -/

/-- The outcome each branch records. -/
def Disposition.outcome : Disposition → PhysicalAttemptState
  | .ok => .succeeded
  | .outcomeUnknown => .unknown
  | .permitIssuanceFailed | .invalidResponse | .rateLimited _ | .providerError => .failed

/-- The cooldown each branch records. -/
def Disposition.retryAfter : Disposition → Option Seconds
  | .rateLimited seconds => some seconds
  | _ => none

/-- Every branch is one call of `_finish_gate_reservation`. -/
theorem Disposition.record_eq (disposition : Disposition) (reservation : GateReservation)
    (lease : RuntimeLease) (completedAt : DateTime) (db : Database) :
    ∃ rawEligible, disposition.record reservation lease completedAt db =
      finishGateReservation reservation disposition.outcome disposition.retryAfter rawEligible
        lease completedAt db := by
  cases disposition <;> exact ⟨_, rfl⟩

/-- The branch the callback leads to once its permit was issued, if it does not interrupt
the exchange. -/
def callbackDisposition {ρ : Type} (lower : String → String) (sender : Sender)
    (call : ExchangeCall) (callback : CallbackOutcome ρ) : Option Disposition :=
  match callback with
  | .interrupted => none
  | .raised => some .outcomeUnknown
  | .receivedInvalid => some (if sender = .plain then .outcomeUnknown else .invalidResponse)
  | .unpaired => some (if sender = .plain then .invalidResponse else .outcomeUnknown)
  | .malformed => some .invalidResponse
  | .returned response _ =>
    match validateResponse lower call.request response call.transportPolicy with
    | .ok _ => some (responseDisposition response)
    | .error _ => some .invalidResponse

/-- A permit that was just issued for the attempt of the request is consumed. -/
theorem consume_issued {authority authority' : PermitAuthority} {factory : Except Exn String}
    {reservation : GateReservation} {permit : TransportPermit} {request : PhysicalTransportRequest}
    (h : authority.issue factory reservation = .ok (permit, authority'))
    (hattempt : reservation.physicalAttemptId = request.physicalAttemptId)
    (hlogical : reservation.logicalRequestId = request.logicalRequestId) :
    (authority'.consume permit request).1 = .ok () := by
  simp only [PermitAuthority.issue, bind_eq_ok, require_eq_ok, pure_eq_ok, Prod.mk.injEq] at h
  obtain ⟨permitId, -, -, hfresh, rfl, rfl⟩ := h
  simp only [PermitAuthority.consume, require_eq_ok]
  refine ⟨trivial, ?_, hattempt, hlogical⟩
  rw [Table.get?_insert hfresh, if_pos rfl]
  rfl

theorem controlledSend_disposition {ρ : Type} {lower : String → String} {sender : Sender}
    {authority : PermitAuthority} {call : ExchangeCall} {permit : TransportPermit}
    (callback : CallbackOutcome ρ)
    (hconsume : (authority.consume permit call.request).1 = .ok ()) :
    sendDisposition (controlledSend lower sender authority call.request permit
      call.transportPolicy callback).outcome =
        callbackDisposition lower sender call callback := by
  unfold controlledSend callbackDisposition
  generalize authority.consume permit call.request = consumed at hconsume ⊢
  obtain ⟨outcome, authority'⟩ := consumed
  simp only at hconsume
  subst hconsume
  cases callback with
  | interrupted | raised | malformed => rfl
  | receivedInvalid => cases sender <;> rfl
  | unpaired => cases sender <;> rfl
  | returned response provider =>
    simp only
    cases validateResponse lower call.request response call.transportPolicy <;> rfl

/-! ## Closed exchanges -/

section

variable {ρ : Type} {lower : String → String} {sha256 : List UInt8 → String}

/-- The exchange returned a result and closed what it had started: the attempt is
terminal, and `unknown` exactly when `unknown` says so, the reservation is released and
the eight counters are decremented. -/
structure ExchangeClosed (call : ExchangeCall) (started : Database) (outcome : ExchangeOutcome ρ)
    (unknown : Prop) : Prop where
  returned : ∃ result, outcome.result = .ok result
  attempt : ∃ row, outcome.database.attempts.get? call.attempt.physicalAttemptId = some row ∧
    (row.state = .succeeded ∨ row.state = .failed ∨ row.state = .unknown) ∧
    (row.state = .unknown ↔ unknown)
  released : (outcome.database.gates.reservations.get? call.reservationId).map (·.state) =
    some .released
  counters : ∀ scope, outcome.database.gates.activeCount (scope, call.keys.key scope) + 1 =
    started.gates.activeCount (scope, call.keys.key scope)

/-- What an exchange has done when it reaches the send step. -/
structure ExchangeStarted (call : ExchangeCall) (reservation : GateReservation) (db : Database) :
    Prop where
  reservation_eq : reservation = ⟨call.reservationId, call.attempt.physicalAttemptId,
    call.attempt.logicalRequestId, call.lease.generation, call.startedAt⟩
  held : db.gates.reservations.get? call.reservationId = some ⟨call.attempt.physicalAttemptId,
    call.attempt.logicalRequestId, call.lease.generation, call.startedAt, .active⟩
  scopes : ∀ scope, (scope, call.keys.key scope) ∈ db.gates.scopesOf call.reservationId
  started : ∃ row, db.attempts.get? call.attempt.physicalAttemptId = some row ∧ row.state = .started
  exact : GatesExact db.gates

theorem exchange_started {call : ExchangeCall} {reservation : GateReservation}
    {db acquired started : Database} (hexact : GatesExact db.gates)
    (hacquire : acquireGates call.reservationId call.attempt call.keys call.gatePolicy call.lease
      call.startedAt db = (.ok reservation, acquired))
    (hstart : markPhysicalAttemptStarted call.attempt.physicalAttemptId call.lease call.startedAt
      acquired = (.ok (), started)) : ExchangeStarted call reservation started := by
  obtain ⟨_, attempts, reservations, gates, -, hfree, -, hreserve, hgates, hreservation, rfl⟩ :=
    acquireGates_eq_ok hacquire
  obtain ⟨_, attempt, -, hattempt, -, -, rfl⟩ := markPhysicalAttemptStarted_eq_ok hstart
  have htaken := acquireGates_taken (ordered_nodup call.keys) hgates
  obtain ⟨-, hfresh, rfl⟩ := insertReservation_eq_ok.mp hreserve
  refine ⟨hreservation, ?_, fun scope => ?_, ⟨{ attempt with state := .started }, ?_, rfl⟩, ?_⟩
  · change gates.reservations.get? _ = _
    rw [htaken.reservations, Table.get?_insert hfresh, if_pos rfl]
  · rw [mem_scopesOf]
    exact (htaken.scopes _ _ _).mpr (.inl ⟨rfl, mem_ordered.mpr rfl⟩)
  · change attempts.get? _ = _ at hattempt
    rw [Table.get?_modify, if_pos rfl, hattempt]
    rfl
  · exact hexact.acquire hfresh rfl htaken

/-- Recording a branch closes the exchange exactly when its cooldown is representable. -/
theorem concludeExchange_closed_iff (sha256 : List UInt8 → String) {call : ExchangeCall}
    {reservation : GateReservation} {started : Database} {row : RuntimeLeaseRow}
    (hstarted : ExchangeStarted call reservation started)
    (hfence : FenceHolds started call.lease call.completedAt row) (disposition : Disposition)
    (response : Option (UntrustedTransportResponse × ρ)) (authority : PermitAuthority)
    (sent : Option TransportPermit) :
    ExchangeClosed call started (concludeExchange sha256 call reservation disposition response
        authority sent started) (disposition = .outcomeUnknown) ↔
      ∀ seconds, disposition = .rateLimited seconds → Representable call.completedAt seconds := by
  obtain ⟨hreservation, hheld, hscopes, ⟨attempt, hattempt, hlive⟩, hexact⟩ := hstarted
  have hcurrent : started.gates.reservations.get? reservation.reservationId =
      some ⟨reservation.physicalAttemptId, reservation.logicalRequestId, call.lease.generation,
        call.startedAt, .active⟩ := by
    rw [hreservation]
    exact hheld
  have hattemptId : reservation.physicalAttemptId = call.attempt.physicalAttemptId := by
    rw [hreservation]
  have hreservationId : reservation.reservationId = call.reservationId := by rw [hreservation]
  -- every branch records through the same method, with a wait or without
  obtain ⟨rawEligible, hrecord⟩ :=
    disposition.record_eq reservation call.lease call.completedAt started
  have hretry : (∀ seconds, disposition = .rateLimited seconds →
      Representable call.completedAt seconds) ↔
      ∀ seconds, disposition.retryAfter = some seconds → Representable call.completedAt seconds := by
    cases disposition <;> simp [Disposition.retryAfter]
  rw [hretry]
  constructor
  · -- an exchange that returned a result recorded its branch
    intro hclosed seconds hseconds
    by_contra hover
    have hrefused : Refused (disposition.record reservation call.lease call.completedAt started)
        started := by
      rw [hrecord, hseconds]
      exact finishGateReservation_overflows disposition.outcome rawEligible hover
    obtain ⟨e, he⟩ := hrefused
    obtain ⟨result, hresult⟩ := hclosed.returned
    simp [concludeExchange, he] at hresult
  · intro hrepresentable
    -- representable: the reservation is finished and the four clauses are read off
    obtain ⟨final, hfinal⟩ := finishGateReservation_succeeds hexact hfence hcurrent rfl rfl rfl rfl
      disposition.outcome disposition.retryAfter rawEligible hrepresentable
    have hfinished := finishGateReservation_finished hfinal
    have hconclude : concludeExchange sha256 call reservation disposition response authority sent
        started = ⟨.ok ⟨disposition.execution (response.map fun r => candidate sha256 call.request r.1),
          response.map fun r => r.1.statusCode, response.map (·.2)⟩, authority, final, sent⟩ := by
      simp only [concludeExchange, hrecord, hfinal]
    rw [hconclude]
    have hstate := hfinished.attempt attempt (by rw [hattemptId, hattempt]) (by rw [hlive]; rfl)
    rw [hattemptId] at hstate
    obtain ⟨row', hrow', houtcome⟩ := Option.map_eq_some_iff.mp hstate
    have hreleased := hfinished.released
    have hcounters := hfinished.counters
    rw [hreservationId] at hreleased hcounters
    refine ⟨⟨_, rfl⟩, ⟨row', hrow', ?_, ?_⟩, hreleased, fun scope => hcounters _ (hscopes scope)⟩
    · rw [houtcome]
      cases disposition <;> simp [Disposition.outcome]
    · rw [houtcome]
      cases disposition <;> simp [Disposition.outcome]

/-- The permit-id factory returned an id without an open permit, so the permit is issued
and the callback invoked. -/
def PermitAuthority.Issues (authority : PermitAuthority) (factory : Except Exn String) : Prop :=
  ∃ permitId, factory = .ok permitId ∧ authority.active.get? permitId = none

theorem PermitAuthority.Issues.not_raised {authority : PermitAuthority}
    {factory : Except Exn String} (h : authority.Issues factory) {e : Exn} : factory ≠ .error e := by
  obtain ⟨permitId, rfl, -⟩ := h
  simp

theorem issue_eq_ok_iff {authority : PermitAuthority} {factory : Except Exn String}
    {reservation : GateReservation} :
    (∃ issued, authority.issue factory reservation = .ok issued) ↔ authority.Issues factory := by
  simp only [PermitAuthority.issue, bind_eq_ok, require_eq_ok, pure_eq_ok]
  constructor
  · rintro ⟨_, permitId, hfactory, -, hfresh, -⟩
    exact ⟨permitId, hfactory, hfresh⟩
  · rintro ⟨permitId, hfactory, hfresh⟩
    exact ⟨_, permitId, hfactory, (), hfresh, rfl⟩

/-- A permit is refused with an interrupt exactly when the factory is interrupted. -/
theorem issue_eq_interrupt_iff {authority : PermitAuthority} {factory : Except Exn String}
    {reservation : GateReservation} :
    authority.issue factory reservation = .error .interrupt ↔ factory = .error .interrupt := by
  simp only [PermitAuthority.issue, bind_eq_error, require_eq_error]
  constructor
  · rintro (hfactory | ⟨_, -, ⟨-, hduplicate⟩ | ⟨_, -, hissued⟩⟩)
    · exact hfactory
    · cases hduplicate
    · cases hissued
  · exact .inl

/-- An exchange that was started is one branch, recorded, unless it is interrupted. -/
theorem exchange_dispositions (lower : String → String) (sha256 : List UInt8 → String)
    (sender : Sender) {call : ExchangeCall} (factory : Except Exn String)
    (callback : CallbackOutcome ρ) (authority : PermitAuthority) {reservation : GateReservation}
    {db acquired started : Database} (hmatch : call.Matches)
    (hacquire : acquireGates call.reservationId call.attempt call.keys call.gatePolicy call.lease
      call.startedAt db = (.ok reservation, acquired))
    (hstart : markPhysicalAttemptStarted call.attempt.physicalAttemptId call.lease call.startedAt
      acquired = (.ok (), started)) :
    ∃ disposition response authority' sent,
      exchange sha256 (controlledSend lower sender) call factory callback authority db =
        settleExchange sha256 call reservation disposition response authority' sent started ∧
      (authority.Issues factory ∧ disposition = callbackDisposition lower sender call callback ∨
        ¬ authority.Issues factory ∧
          ∃ e, authority.issue factory reservation = .error e ∧ disposition = issueDisposition e) := by
  simp only [exchange, hmatch, not_true_eq_false, if_false, hacquire, hstart]
  cases hissue : authority.issue factory reservation with
  | error e =>
    refine ⟨_, _, _, _, rfl, .inr ⟨fun h => ?_, e, rfl, rfl⟩⟩
    obtain ⟨issued, hissued⟩ := issue_eq_ok_iff.mpr h
    rw [hissue] at hissued
    cases hissued
  | ok issued =>
    obtain ⟨permit, authority'⟩ := issued
    refine ⟨_, _, _, _, rfl, .inl ⟨issue_eq_ok_iff.mp ⟨_, hissue⟩, ?_⟩⟩
    obtain ⟨_, _, _, _, -, -, -, -, -, rfl, -⟩ := acquireGates_eq_ok hacquire
    exact controlledSend_disposition callback
      (consume_issued hissue hmatch.2.symm hmatch.1.symm)

end

/-! ## The theorem -/

section

variable {ρ : Type} {lower : String → String}

/-- The defect: an accepted `429` whose finite `Retry-After` cannot be added to the
completion time. -/
def RetryAfterOverflows (lower : String → String) (call : ExchangeCall)
    (callback : CallbackOutcome ρ) : Prop :=
  ∃ response provider seconds, callback = .returned response provider ∧
    validateResponse lower call.request response call.transportPolicy = .ok () ∧
    response.statusCode = 429 ∧ response.retryAfterSeconds = some seconds ∧
    ¬ Representable call.completedAt seconds

/-- The permit-id factory interrupts the exchange, or the callback does. -/
def PermitAuthority.Interrupted (authority : PermitAuthority) (factory : Except Exn String)
    (callback : CallbackOutcome ρ) : Prop :=
  factory = .error .interrupt ∨ authority.Issues factory ∧ callback = .interrupted

/-- What the callback did is recorded as an unknown outcome. -/
def Sender.Unknown (sender : Sender) (callback : CallbackOutcome ρ) : Prop :=
  callback = .raised ∨ callback = .receivedInvalid ∧ sender = .plain ∨
    callback = .unpaired ∧ sender = .ephemeral

theorem responseDisposition_eq_rateLimited {response : UntrustedTransportResponse}
    {seconds : Seconds} :
    responseDisposition response = .rateLimited seconds ↔
      response.statusCode = 429 ∧ response.retryAfterSeconds = some seconds := by
  unfold responseDisposition
  cases response.retryAfterSeconds with
  | none =>
    simp only
    split <;> simp
  | some delay =>
    by_cases h429 : response.statusCode = 429
    · simp [h429]
    · simp only [h429, if_false, false_and]
      split <;> simp

/-- An accepted response says what became of its request. -/
theorem responseDisposition_ne_unknown (response : UntrustedTransportResponse) :
    responseDisposition response ≠ .outcomeUnknown := by
  unfold responseDisposition
  cases response.retryAfterSeconds with
  | none =>
    simp only
    split <;> simp
  | some seconds =>
    simp only
    split
    · simp
    · split <;> simp

theorem callbackDisposition_eq_none {sender : Sender} {call : ExchangeCall}
    {callback : CallbackOutcome ρ} :
    callbackDisposition lower sender call callback = none ↔ callback = .interrupted := by
  unfold callbackDisposition
  cases callback with
  | returned response provider =>
    simp only
    cases validateResponse lower call.request response call.transportPolicy <;> simp
  | _ => simp

theorem callbackDisposition_rateLimited {sender : Sender} {call : ExchangeCall}
    {callback : CallbackOutcome ρ} :
    (∀ seconds, callbackDisposition lower sender call callback = some (.rateLimited seconds) →
      Representable call.completedAt seconds) ↔ ¬ RetryAfterOverflows lower call callback := by
  unfold RetryAfterOverflows callbackDisposition
  cases callback with
  | interrupted | raised | malformed => simp
  | receivedInvalid => cases sender <;> simp
  | unpaired => cases sender <;> simp
  | returned response provider =>
    cases hvalid : validateResponse lower call.request response call.transportPolicy with
    | error e => simp [hvalid]
    | ok u =>
      simp only [hvalid, Option.some.injEq, responseDisposition_eq_rateLimited]
      constructor
      · rintro hfits ⟨_, _, seconds, hreturned, -, h429, hretry, hover⟩
        cases hreturned
        exact hover (hfits seconds ⟨h429, hretry⟩)
      · rintro hfits seconds ⟨h429, hretry⟩
        by_contra hover
        exact hfits ⟨_, _, seconds, rfl, hvalid, h429, hretry, hover⟩

theorem callbackDisposition_unknown {sender : Sender} {call : ExchangeCall}
    {callback : CallbackOutcome ρ} :
    callbackDisposition lower sender call callback = some .outcomeUnknown ↔
      sender.Unknown callback := by
  unfold callbackDisposition Sender.Unknown
  cases callback with
  | interrupted | raised | malformed => simp
  | receivedInvalid => cases sender <;> simp
  | unpaired => cases sender <;> simp
  | returned response provider =>
    simp only [reduceCtorEq, false_and, or_false, iff_false]
    cases validateResponse lower call.request response call.transportPolicy with
    | error e => simp
    | ok u => simp [responseDisposition_ne_unknown]

/-- A settled exchange is closed when a branch was reached whose cooldown, if it has one,
is representable. -/
theorem settleExchange_closed_iff (sha256 : List UInt8 → String) {call : ExchangeCall}
    {reservation : GateReservation} {started : Database} {row : RuntimeLeaseRow}
    (hstarted : ExchangeStarted call reservation started)
    (hfence : FenceHolds started call.lease call.completedAt row) (disposition : Option Disposition)
    (response : Option (UntrustedTransportResponse × ρ)) (authority : PermitAuthority)
    (sent : Option TransportPermit) :
    ExchangeClosed call started (settleExchange sha256 call reservation disposition response
        authority sent started) (disposition = some .outcomeUnknown) ↔
      disposition ≠ none ∧
        ∀ seconds, disposition = some (.rateLimited seconds) →
          Representable call.completedAt seconds := by
  cases disposition with
  | none =>
    refine ⟨fun hclosed => ?_, fun h => absurd rfl h.1⟩
    obtain ⟨_, hresult⟩ := hclosed.returned
    cases hresult
  | some disposition =>
    simp only [settleExchange, Option.some.injEq, ne_eq, reduceCtorEq, not_false_eq_true, true_and]
    exact concludeExchange_closed_iff sha256 hstarted hfence disposition response authority sent

/-- A started exchange is closed unless it is interrupted or its cooldown overflows;
`unknown` is recorded exactly when the callback was invoked and did what counts as such. -/
theorem exchange_closed (lower : String → String) (sha256 : List UInt8 → String)
    (sender : Sender) {call : ExchangeCall} (factory : Except Exn String)
    (callback : CallbackOutcome ρ) (authority : PermitAuthority) {reservation : GateReservation}
    {db acquired started : Database} {row : RuntimeLeaseRow}
    (hexact : GatesExact db.gates) (hmatch : call.Matches)
    (hacquire : acquireGates call.reservationId call.attempt call.keys call.gatePolicy call.lease
      call.startedAt db = (.ok reservation, acquired))
    (hstart : markPhysicalAttemptStarted call.attempt.physicalAttemptId call.lease call.startedAt
      acquired = (.ok (), started))
    (hfence : FenceHolds started call.lease call.completedAt row) :
    ExchangeClosed call started
        (exchange sha256 (controlledSend lower sender) call factory callback authority db)
        (authority.Issues factory ∧ sender.Unknown callback) ↔
      ¬ (authority.Interrupted factory callback ∨
        authority.Issues factory ∧ RetryAfterOverflows lower call callback) := by
  have hstarted := exchange_started hexact hacquire hstart
  obtain ⟨disposition, response, authority', sent, heq, ⟨hissues, rfl⟩ | ⟨hissues, e, hissue, rfl⟩⟩ :=
    exchange_dispositions lower sha256 sender factory callback authority hmatch hacquire hstart
  · -- the permit was issued, so that only the callback can interrupt
    rw [heq, ← callbackDisposition_unknown]
    simp only [hissues, true_and, PermitAuthority.Interrupted, hissues.not_raised, false_or, not_or]
    rw [settleExchange_closed_iff sha256 hstarted hfence, callbackDisposition_rateLimited, ne_eq,
      callbackDisposition_eq_none]
  · -- no permit was issued, so nothing was sent
    rw [heq]
    have hclosed := settleExchange_closed_iff sha256 hstarted hfence (issueDisposition e) response
      authority' sent
    by_cases hinterrupt : e = .interrupt
    · -- the factory was interrupted, and nothing is recorded
      subst hinterrupt
      refine ⟨fun h => ?_, fun h => absurd (.inl (.inl (issue_eq_interrupt_iff.mp hissue))) h⟩
      obtain ⟨_, hresult⟩ := h.returned
      cases hresult
    · have hfactory : factory ≠ .error .interrupt := by
        intro hfactory
        rw [issue_eq_interrupt_iff.mpr hfactory] at hissue
        cases hissue
        exact hinterrupt rfl
      simp only [issueDisposition, hinterrupt, if_false] at hclosed ⊢
      simp only [hissues, false_and, PermitAuthority.Interrupted, hfactory, or_self,
        not_false_eq_true, iff_true]
      simpa using hclosed

/-- An interrupted exchange lets the interrupt escape and leaves the attempt as it was when
it was started, with its gates held. -/
theorem exchange_interrupted (lower : String → String) (sha256 : List UInt8 → String)
    (sender : Sender) {call : ExchangeCall} {factory : Except Exn String}
    {callback : CallbackOutcome ρ} {authority : PermitAuthority} {reservation : GateReservation}
    {db acquired started : Database} (hmatch : call.Matches)
    (hacquire : acquireGates call.reservationId call.attempt call.keys call.gatePolicy call.lease
      call.startedAt db = (.ok reservation, acquired))
    (hstart : markPhysicalAttemptStarted call.attempt.physicalAttemptId call.lease call.startedAt
      acquired = (.ok (), started))
    (hinterrupted : authority.Interrupted factory callback) :
    (exchange sha256 (controlledSend lower sender) call factory callback authority db).result =
        .error .interrupt ∧
      (exchange sha256 (controlledSend lower sender) call factory callback authority db).database =
        started := by
  obtain ⟨disposition, response, authority', sent, heq, hbranch⟩ :=
    exchange_dispositions lower sha256 sender factory callback authority hmatch hacquire hstart
  have hnone : disposition = none := by
    rcases hinterrupted with hfactory | ⟨hissues, hcallback⟩
    · have hissue : authority.issue factory reservation = .error .interrupt :=
        issue_eq_interrupt_iff.mpr hfactory
      rcases hbranch with ⟨hissues, -⟩ | ⟨-, e, he, rfl⟩
      · exact absurd hfactory hissues.not_raised
      · rw [hissue] at he
        cases he
        rfl
    · rcases hbranch with ⟨-, rfl⟩ | ⟨hnone, -⟩
      · exact callbackDisposition_eq_none.mpr hcallback
      · exact absurd hissues hnone
  rw [heq, hnone]
  exact ⟨rfl, rfl⟩

/-- The recorded state says one thing about `unknown`. -/
theorem ExchangeClosed.unknown_iff {call : ExchangeCall} {started : Database}
    {outcome : ExchangeOutcome ρ} {P Q : Prop} (h : ExchangeClosed call started outcome P)
    (h' : ExchangeClosed call started outcome Q) : P ↔ Q := by
  obtain ⟨row, hrow, -, hunknown⟩ := h.attempt
  obtain ⟨row', hrow', -, hunknown'⟩ := h'.attempt
  obtain rfl := Option.some.inj (hrow.symm.trans hrow')
  exact hunknown.symm.trans hunknown'

/-- **Every exchange that reaches the send step is closed, unless it is interrupted or its
cooldown overflows.** From any reachable database, when the acquisition and the start
succeed and the fence still holds at the completion time, both entry points return a result
and close the attempt, its reservation and its counters, for every behaviour of the callback
and the permit-id factory, if and only if neither of them raises what is no `Exception`, the
response is not an accepted `429` whose `Retry-After` leaves the range of
`completed_at + timedelta`, and the entry point that unpacks a pair is given one. -/
theorem exchange_closed_iff (lower : String → String) (sha256 : List UInt8 → String)
    {call : ExchangeCall} {factory : Except Exn String} {authority : PermitAuthority}
    {reservation : GateReservation} {db acquired started : Database} {row : RuntimeLeaseRow}
    (hrun : Reachable (fun _ _ => True) db) (hmatch : call.Matches)
    (hacquire : acquireGates call.reservationId call.attempt call.keys call.gatePolicy call.lease
      call.startedAt db = (.ok reservation, acquired))
    (hstart : markPhysicalAttemptStarted call.attempt.physicalAttemptId call.lease call.startedAt
      acquired = (.ok (), started))
    (hfence : FenceHolds started call.lease call.completedAt row) :
    (∀ callback : CallbackOutcome Unit,
      ExchangeClosed call started
          (executeExchange lower sha256 call factory callback authority db)
          (authority.Issues factory ∧ (callback = .raised ∨ callback = .receivedInvalid)) ↔
        ¬ (authority.Interrupted factory callback ∨
          authority.Issues factory ∧ RetryAfterOverflows lower call callback)) ∧
      ∀ (ρ : Type) (callback : CallbackOutcome ρ),
        ExchangeClosed call started
            (executeExchangeWithCallback lower sha256 call factory callback authority db)
            (authority.Issues factory ∧ callback = .raised) ↔
          ¬ (authority.Interrupted factory callback ∨
            authority.Issues factory ∧
              (RetryAfterOverflows lower call callback ∨ callback = .unpaired)) := by
  have hexact := Reachable.gatesExact hrun
  refine ⟨fun callback => ?_, fun ρ callback => ?_⟩
  · have hclosed := exchange_closed lower sha256 .plain factory callback authority
      hexact hmatch hacquire hstart hfence
    simp only [Sender.Unknown, and_true, reduceCtorEq, and_false, or_false] at hclosed
    exact hclosed
  · have hclosed := exchange_closed lower sha256 .ephemeral factory callback authority
      hexact hmatch hacquire hstart hfence
    simp only [Sender.Unknown, and_true, reduceCtorEq, and_false, false_or] at hclosed
    by_cases hunpaired : authority.Issues factory ∧ callback = .unpaired
    · -- it is closed, with an outcome that the callback did not raise
      obtain ⟨hissues, rfl⟩ := hunpaired
      refine ⟨fun h => ?_, fun h => absurd (.inr ⟨hissues, .inr rfl⟩) h⟩
      have hunknown := hclosed.mpr ?_
      · have hraised := (h.unknown_iff hunknown).mpr ⟨hissues, .inr rfl⟩
        cases hraised.2
      · rintro ((hfactory | ⟨-, hcallback⟩) | ⟨-, _, _, _, hreturned, -⟩)
        · exact hissues.not_raised hfactory
        · cases hcallback
        · cases hreturned
    · -- otherwise both senders agree on what is unknown
      have hcallback : authority.Issues factory → callback ≠ .unpaired :=
        fun hissues heq => hunpaired ⟨hissues, heq⟩
      have hunknown : (authority.Issues factory ∧ (callback = .raised ∨ callback = .unpaired)) =
          (authority.Issues factory ∧ callback = .raised) :=
        propext (and_congr_right fun hissues => or_iff_left (hcallback hissues))
      have hopen : (authority.Issues factory ∧
            (RetryAfterOverflows lower call callback ∨ callback = .unpaired)) =
          (authority.Issues factory ∧ RetryAfterOverflows lower call callback) :=
        propext (and_congr_right fun hissues => or_iff_left (hcallback hissues))
      rw [hunknown] at hclosed
      rw [hopen]
      exact hclosed

end

/-! ## The sample exchange -/

namespace Sample

/-- The exchange of the sample attempt, after its claim. -/
def call : ExchangeCall where
  request :=
    { logicalRequestId := request.logicalRequestId
      physicalAttemptId := attempt.physicalAttemptId
      origin := keys.origin, operation := request.operation
      resourceKey := ⟨"resource-1", by decide⟩ }
  attempt := attempt
  reservationId := reservationId
  keys := keys
  gatePolicy := policy
  transportPolicy := ⟨["application/json"], ["utf-8"], [], by decide, by decide⟩
  lease := lease
  startedAt := at_ 3
  completedAt := at_ 4

theorem status_ok : 100 ≤ 200 ∧ 200 ≤ 599 := by decide
theorem mediaType_ge : 1 ≤ "application/json".length := by decide
theorem mediaType_le : "application/json".length ≤ 128 := by decide
theorem encoding_ge : 1 ≤ "utf-8".length := by decide
theorem encoding_le : "utf-8".length ≤ 64 := by decide

/-- An empty JSON response of the requested origin. -/
def response (statusCode : Nat) (retryAfter : Option Seconds)
    (h : 100 ≤ statusCode ∧ statusCode ≤ 599) : UntrustedTransportResponse where
  statusCode := statusCode
  body := []
  mediaType := "application/json"
  encoding := "utf-8"
  finalOrigin := keys.origin
  redirected := false
  retryAfterSeconds := retryAfter
  status_ge := h.1
  status_le := h.2
  mediaType_ge := mediaType_ge
  mediaType_le := mediaType_le
  encoding_ge := encoding_ge
  encoding_le := encoding_le

/-- The SHA-256 digest of the empty body. -/
def emptySha256 : String := "e3b0c44298fc1c149afbf4c8996fb92427ae41e4649b934ca495991b7852b855"

/-- The database before the exchange, after its acquisition, and at its send. -/
def claimedDatabase : Database := runAll Operation.next claimed Database.initial

def acquiredDatabase : Database :=
  (acquireGates reservationId attempt keys policy lease (at_ 3) claimedDatabase).2

def startedDatabase : Database :=
  (markPhysicalAttemptStarted attempt.physicalAttemptId lease (at_ 3) acquiredDatabase).2

def reservation : GateReservation :=
  ⟨reservationId, attempt.physicalAttemptId, attempt.logicalRequestId, 1, at_ 3⟩

theorem acquired_eq : acquireGates call.reservationId call.attempt call.keys call.gatePolicy
    call.lease call.startedAt claimedDatabase = (.ok reservation, acquiredDatabase) := by decide

theorem started_eq : markPhysicalAttemptStarted call.attempt.physicalAttemptId call.lease
    call.startedAt acquiredDatabase = (.ok (), startedDatabase) := by decide

theorem fence_started : FenceHolds startedDatabase call.lease call.completedAt
    ⟨owner, 1, at_ 0, at_ 0, at_ 30, true⟩ :=
  ⟨by decide, rfl, rfl, rfl, by decide, by decide⟩

end Sample

/-- A `200` closes the sample exchange. -/
theorem exchange_closed_iff_sample :
    ExchangeClosed Sample.call Sample.startedDatabase
      (executeExchange id (fun _ => Sample.emptySha256) Sample.call (.ok "permit-1")
        (.returned (Sample.response 200 none (by decide)) ()) ⟨0, 0, .empty⟩
        Sample.claimedDatabase)
      (PermitAuthority.Issues ⟨0, 0, .empty⟩ (.ok "permit-1") ∧
        ((.returned (Sample.response 200 none (by decide)) () : CallbackOutcome Unit) = .raised ∨
          (.returned (Sample.response 200 none (by decide)) () : CallbackOutcome Unit) =
            .receivedInvalid)) := by
  refine ((exchange_closed_iff id (fun _ => Sample.emptySha256) (reachable_runAll (by decide))
    (by decide) Sample.acquired_eq Sample.started_eq Sample.fence_started).1 _).mpr ?_
  rintro ((hfactory | ⟨-, hcallback⟩) | ⟨-, response, provider, seconds, hreturned, -, h429, -⟩)
  · cases hfactory
  · cases hcallback
  · cases hreturned
    exact absurd h429 (by decide)

/-- A `429` with the finite `Retry-After: 100000000000000000000` lets an `OverflowError`
escape after the send: the attempt stays started and the provider gate stays held, with
the lease still valid. -/
theorem exchange_left_open_by_retry_after :
    let outcome := executeExchange id (fun _ => Sample.emptySha256) Sample.call (.ok "permit-1")
      (.returned (Sample.response 429 (some (.ofNat (10 ^ 20))) (by decide)) ()) ⟨0, 0, .empty⟩
      Sample.claimedDatabase
    Reachable (fun _ _ => True) Sample.claimedDatabase ∧ Sample.call.Matches ∧
      acquireGates Sample.call.reservationId Sample.call.attempt Sample.call.keys
          Sample.call.gatePolicy Sample.call.lease Sample.call.startedAt Sample.claimedDatabase =
        (.ok Sample.reservation, Sample.acquiredDatabase) ∧
      markPhysicalAttemptStarted Sample.call.attempt.physicalAttemptId Sample.call.lease
          Sample.call.startedAt Sample.acquiredDatabase = (.ok (), Sample.startedDatabase) ∧
      FenceHolds Sample.startedDatabase Sample.call.lease Sample.call.completedAt
        ⟨Sample.owner, 1, Sample.at_ 0, Sample.at_ 0, Sample.at_ 30, true⟩ ∧
      outcome.result = .error .overflow ∧
      (outcome.database.attempts.get? Sample.attempt.physicalAttemptId).map (·.state) =
        some .started ∧
      (outcome.database.gates.reservations.get? Sample.reservationId).map (·.state) =
        some .active ∧
      outcome.database.gates.activeCount (.provider, Sample.keys.provider) = 1 ∧
      ∀ unknown, ¬ ExchangeClosed Sample.call Sample.startedDatabase outcome unknown := by
  have hresult : (executeExchange id (fun _ => Sample.emptySha256) Sample.call (.ok "permit-1")
      (.returned (Sample.response 429 (some (.ofNat (10 ^ 20))) (by decide)) ()) ⟨0, 0, .empty⟩
      Sample.claimedDatabase).result = .error .overflow := by decide
  refine ⟨reachable_runAll (by decide), by decide, Sample.acquired_eq, Sample.started_eq,
    Sample.fence_started, hresult, by decide, by decide, by decide, fun unknown hclosed => ?_⟩
  obtain ⟨result, hok⟩ := hclosed.returned
  exact nomatch hresult.symm.trans hok

end StockResearch.Requests
