import Mathlib.Data.List.Dedup
import StockResearch.Requests.Attempts
import StockResearch.Requests.FlightSoundness

/-!
# Every operation is a chain of protocol steps

What the loops of `_finish_single_flight`, `_cancel_started_flight` and
`recover_expired_lease` do, row by row, and from it the chain of steps of each
transition.

- `Concluded`: what delivering or cancelling a whole flight does.
- `Transition.admission_steps`: every operation moves the shared tables by steps.
-/

namespace StockResearch.Requests

open Relation (ReflTransGen)

/-! ## Closing requests -/

theorem closeRequest_closing {error : RuntimeStorageError} {id : Identifier}
    {state : LogicalRequestState} {result : LogicalResultRow} {ledger ledger' : LedgerTables}
    (hvalid : errorCodeMatches result.outcome result.errorCode = true)
    (hstate : state = resultState result.outcome)
    (h : closeRequest error id state result ledger = .ok ledger') :
    ledger.Open id ∧ ledger.Closing (· = id) result ledger' := by
  simp only [closeRequest, bind_eq_ok, require_eq_ok, insertRow_eq_ok, pure_eq_ok] at h
  obtain ⟨-, hopen, results, ⟨hnone, rfl⟩, rfl⟩ := h
  refine ⟨hopen, hvalid, ?_, ?_⟩
  · rintro other rfl
    obtain ⟨row, hrow, -⟩ := Option.map_eq_some_iff.mp hopen
    refine ⟨hnone, by rw [Table.get?_insert hnone, if_pos rfl], row, hrow, ?_⟩
    rw [Table.get?_modify, if_pos rfl, hrow, hstate]
    rfl
  · intro other hne
    rw [Table.get?_modify, Table.get?_insert hnone, if_neg hne, if_neg hne]
    exact ⟨rfl, rfl⟩

theorem persistLogicalResult_closing {result : ProductionLogicalResult}
    {ledger ledger' : LedgerTables} (h : persistLogicalResult result ledger = .ok ledger') :
    ledger.Open result.logicalRequestId ∧
      ledger.Closing (· = result.logicalRequestId) result.row ledger' :=
  closeRequest_closing result.valid rfl h

/-- The result `_cancel_logical` writes. -/
def cancelledResult (now : DateTime) (reason : Identifier) (outcome : LogicalResultOutcome) :
    LogicalResultRow :=
  ⟨outcome, isoformat now, if outcome = .cancelled then none else some reason⟩

theorem cancelLogical_closing {id reason : Identifier} {now : DateTime}
    {outcome : LogicalResultOutcome} {ledger ledger' : LedgerTables}
    (houtcome : outcome ≠ .succeeded)
    (h : cancelLogical id now reason outcome ledger = .ok ledger') :
    ledger.Open id ∧ ledger.Closing (· = id) (cancelledResult now reason outcome) ledger' := by
  refine closeRequest_closing ?_ ?_ h
  · cases outcome with
    | succeeded => exact absurd rfl houtcome
    | failed | cancelled | unknown => rfl
  · cases outcome with
    | succeeded => exact absurd rfl houtcome
    | failed | cancelled | unknown => rfl

theorem closeStarted_closing {now : DateTime} {id : Identifier} {ledger ledger' : LedgerTables}
    (h : closeStarted now ledger id = .ok ledger') :
    ∃ result, ledger.Closing (· = id) result ledger' :=
  ⟨_, (closeRequest_closing rfl rfl h).2⟩

theorem closeInterrupted_closing {now : DateTime} {entry : Identifier × Bool}
    {ledger ledger' : LedgerTables} (hrequest : ledger.requests.get? entry.1 ≠ none)
    (h : closeInterrupted now ledger entry = .ok ledger') :
    ∃ result, ledger.Closing (· = entry.1) result ledger' := by
  simp only [closeInterrupted, bind_eq_ok, insertRow_eq_ok, pure_eq_ok] at h
  obtain ⟨results, ⟨hnone, rfl⟩, rfl⟩ := h
  obtain ⟨id, unknown⟩ := entry
  refine ⟨⟨if unknown then .unknown else .failed, isoformat now,
    some ownerInterruptedBetweenAttemptsCode⟩, by cases unknown <;> rfl, ?_, ?_⟩
  · rintro other rfl
    obtain ⟨row, hrow⟩ := Option.ne_none_iff_exists'.mp hrequest
    refine ⟨hnone, by rw [Table.get?_insert hnone, if_pos rfl], row, hrow, ?_⟩
    rw [Table.get?_modify, if_pos rfl, hrow]
    cases unknown <;> rfl
  · intro other hne
    rw [Table.get?_modify, Table.get?_insert hnone, if_neg hne, if_neg hne]
    exact ⟨rfl, rfl⟩

/-! ## Concluding a flight -/

/-- The consumers of `ids` leave their flight, the requests of `closed` get `result`. -/
structure Concluded (ending : ConsumerEnding) (ids : List Identifier) (closed : Identifier → Prop)
    (result : LogicalResultRow) (db db' : Database) : Prop where
  ledger : db.ledger.Closing closed result db'.ledger
  consumers : ∀ id, db'.flight.consumers.get? id =
    if id ∈ ids then (db.flight.consumers.get? id).map fun row => row.finish ending
    else db.flight.consumers.get? id
  flights : db'.flight.flights = db.flight.flights
  events : db.flight.events ⊆ db'.flight.events
  queue : db'.queue = db.queue

theorem Concluded.refl {ending : ConsumerEnding} {result : LogicalResultRow}
    (hvalid : errorCodeMatches result.outcome result.errorCode = true) (db : Database) :
    Concluded ending [] (fun _ => False) result db db :=
  ⟨.refl _ hvalid, fun _ => rfl, rfl, List.Subset.refl _, rfl⟩

theorem Concluded.cons {ending : ConsumerEnding} {id : Identifier} {ids : List Identifier}
    {closed closed' : Identifier → Prop} {result : LogicalResultRow} {a b c : Database}
    (hfresh : id ∉ ids) (h : Concluded ending [id] closed result a b)
    (h' : Concluded ending ids closed' result b c) :
    Concluded ending (id :: ids) (fun id => closed id ∨ closed' id) result a c := by
  refine ⟨h.ledger.trans h'.ledger, ?_, h'.flights.trans h.flights,
    List.Subset.trans h.events h'.events, h'.queue.trans h.queue⟩
  intro other
  rw [h'.consumers, h.consumers]
  by_cases hid : other = id
  · subst hid
    simp [hfresh]
  · simp [hid]

theorem deliverResult_concluded {result : ProductionLogicalResult} {fingerprint : Sha256Hex}
    {now : DateTime} {db db' : Database} {consumer : WaitingConsumer}
    (h : deliverResult result fingerprint now db consumer = .ok db') :
    Concluded (.completed result.logicalRequestId) [consumer.logicalRequestId]
      (fun id => id = consumer.logicalRequestId ∧ id ≠ result.logicalRequestId) result.row db
      db' := by
  obtain ⟨-, -, -, ledger, hledger, rfl⟩ := deliverResult_eq_ok h
  have hclosing : db.ledger.Closing
      (fun id => id = consumer.logicalRequestId ∧ id ≠ result.logicalRequestId) result.row
      ledger := by
    rcases hledger with ⟨hid, rfl⟩ | ⟨hid, -, hpersist⟩
    · exact (LedgerTables.Closing.refl _ result.valid).congr fun id =>
        iff_of_false (fun h => h.2 (h.1.trans hid)) not_false
    · exact (persistLogicalResult_closing hpersist).2.congr fun id =>
        ⟨fun h => h.1, fun h => ⟨h, fun h' => hid (h.symm.trans h')⟩⟩
  refine ⟨hclosing, ?_, rfl, List.subset_append_left _ _, rfl⟩
  intro id
  rw [Table.get?_modify]
  simp only [List.mem_singleton]
  rfl

theorem deliverAll_concluded {result : ProductionLogicalResult} {fingerprint : Sha256Hex}
    {now : DateTime} :
    ∀ {consumers : List WaitingConsumer} {db db' : Database},
      (consumers.map (·.logicalRequestId)).Nodup →
      consumers.foldlM (deliverResult result fingerprint now) db = .ok db' →
      Concluded (.completed result.logicalRequestId) (consumers.map (·.logicalRequestId))
        (fun id => id ∈ consumers.map (·.logicalRequestId) ∧ id ≠ result.logicalRequestId)
        result.row db db'
  | [], db, db', _, h => by
    rw [List.foldlM_nil, pure_eq_ok] at h
    subst h
    have hrefl : Concluded (.completed result.logicalRequestId) [] (fun _ => False) result.row db
        db := .refl result.valid db
    exact { hrefl with ledger := hrefl.ledger.congr fun _ => by simp }
  | consumer :: rest, db, db', hnodup, h => by
    rw [List.foldlM_cons, bind_eq_ok] at h
    obtain ⟨delivered, hstep, hrest⟩ := h
    rw [List.map_cons, List.nodup_cons] at hnodup
    have hboth := (deliverResult_concluded hstep).cons hnodup.1
      (deliverAll_concluded hnodup.2 hrest)
    refine { hboth with ledger := hboth.ledger.congr fun id => ?_ }
    rw [List.map_cons, List.mem_cons]
    tauto

theorem cancelInFlight_concluded {now : DateTime} {reason : Identifier} {db db' : Database}
    {consumer : Identifier × ConsumerRow}
    (h : cancelInFlight now reason db consumer = .ok db') :
    Concluded .cancelled [consumer.1] (· = consumer.1) (cancelledResult now reason .unknown) db
      db' := by
  simp only [cancelInFlight, bind_eq_ok, pure_eq_ok] at h
  obtain ⟨ledger, hledger, rfl⟩ := h
  have hne : LogicalResultOutcome.unknown ≠ .succeeded := nofun
  refine ⟨(cancelLogical_closing hne hledger).2, ?_, rfl, List.subset_append_left _ _, rfl⟩
  intro id
  simp only [FlightTables.appendEvent, FlightTables.cancelConsumer, List.mem_singleton]
  rw [Table.get?_modify]
  rfl

theorem cancelAll_concluded {now : DateTime} {reason : Identifier} :
    ∀ {consumers : List (Identifier × ConsumerRow)} {db db' : Database},
      (consumers.map Prod.fst).Nodup →
      consumers.foldlM (cancelInFlight now reason) db = .ok db' →
      Concluded .cancelled (consumers.map Prod.fst) (· ∈ consumers.map Prod.fst)
        (cancelledResult now reason .unknown) db db'
  | [], db, db', _, h => by
    rw [List.foldlM_nil, pure_eq_ok] at h
    subst h
    have hrefl : Concluded .cancelled [] (fun _ => False) (cancelledResult now reason .unknown) db
        db := .refl rfl db
    exact { hrefl with ledger := hrefl.ledger.congr fun _ => by simp }
  | consumer :: rest, db, db', hnodup, h => by
    rw [List.foldlM_cons, bind_eq_ok] at h
    obtain ⟨cancelled, hstep, hrest⟩ := h
    rw [List.map_cons, List.nodup_cons] at hnodup
    have hboth := (cancelInFlight_concluded hstep).cons hnodup.1
      (cancelAll_concluded hnodup.2 hrest)
    refine { hboth with ledger := hboth.ledger.congr fun id => ?_ }
    rw [List.map_cons, List.mem_cons]

/-! ## Who is concluded -/

theorem mem_activeConsumers {flight : FlightTables} {fingerprint : Sha256Hex} {id : Identifier}
    {c : ConsumerRow} : (id, c) ∈ flight.activeConsumers fingerprint ↔
      flight.consumers.get? id = some c ∧ c.requestFingerprint = fingerprint ∧
        c.state = .active := by
  rw [FlightTables.activeConsumers, Table.mem_select, Bool.and_eq_true, decide_eq_true_eq,
    decide_eq_true_eq]

/-- The consumers `_finish_single_flight` delivers to. -/
theorem waitingConsumers_ids (db : Database) (fingerprint : Sha256Hex) :
    ((waitingConsumers db fingerprint).map (·.logicalRequestId)).Nodup ∧
      ∀ id, id ∈ (waitingConsumers db fingerprint).map (·.logicalRequestId) ↔
        db.admissions.Waiting fingerprint id := by
  -- the query joins the requests: a consumer without one is not delivered to
  have hids : ∀ rows : List (Identifier × ConsumerRow),
      ((rows.filterMap fun entry => (db.ledger.requests.get? entry.1).map fun request =>
        (⟨entry.1, entry.2.role, request.requestFingerprint⟩ : WaitingConsumer)).map
          (·.logicalRequestId)) =
        (rows.filter fun entry => (db.ledger.requests.get? entry.1).isSome).map Prod.fst := by
    intro rows
    induction rows with
    | nil => rfl
    | cons entry rest ih =>
      cases hrow : db.ledger.requests.get? entry.1 with
      | none => simp [hrow, ih]
      | some row => simp [hrow, ih]
  -- the order of the rows is immaterial
  have hperm := List.perm_insertionSort
    (fun a b : Identifier × ConsumerRow => decide (a.1.text ≤ b.1.text) = true)
    (db.flight.activeConsumers fingerprint)
  constructor
  · rw [waitingConsumers, hids]
    refine List.Nodup.sublist (List.filter_sublist.map _) ?_
    exact (hperm.map Prod.fst).nodup_iff.mpr (Table.select_keys_nodup _ _)
  · intro id
    rw [waitingConsumers, hids]
    rw [List.mem_map]
    constructor
    · rintro ⟨⟨_, c⟩, hmem, rfl⟩
      rw [List.mem_filter, mem_orderBy, mem_activeConsumers] at hmem
      obtain ⟨⟨hc, hf, hactive⟩, hrow⟩ := hmem
      exact ⟨c, hc, hf, hactive, Option.isSome_iff_ne_none.mp hrow⟩
    · rintro ⟨c, hc, hf, hactive, hrow⟩
      refine ⟨(id, c), ?_, rfl⟩
      rw [List.mem_filter, mem_orderBy, mem_activeConsumers]
      exact ⟨⟨hc, hf, hactive⟩, Option.isSome_iff_ne_none.mpr hrow⟩

/-! ## Finishing, interrupting and reconciling flights -/

section

variable {repairs : Repairs}

/-- Finishing a flight is one step, whether its leader is closed with it or was before. -/
theorem finishSingleFlight_step {result : ProductionLogicalResult} {now : DateTime}
    {db db' : Database} {ledger : LedgerTables} {closed : Identifier → Prop}
    (hclosing : db.ledger.Closing closed result.row ledger)
    (hclosed : ∀ id, closed id → id = result.logicalRequestId)
    (hresult : ledger.results.get? result.logicalRequestId = some result.row)
    (h : finishSingleFlight result now { db with ledger := ledger } = .ok db') :
    db.flight.consumers.get? result.logicalRequestId = none ∧ db' = { db with ledger := ledger } ∨
      AdmissionStep repairs db.admissions db'.admissions := by
  -- no flight to finish, or the delivery to its consumers
  rcases finishSingleFlight_eq_ok h with
    ⟨hnone, rfl⟩ | ⟨leader, delivered, hleader, hrole, hactive, hflight, hfold, rfl⟩
  · exact .inl ⟨hnone, rfl⟩
  -- delivered to are the active consumers of the fingerprint, also before the leader closes
  obtain ⟨hnodup, hids⟩ := waitingConsumers_ids { db with ledger := ledger }
    leader.requestFingerprint
  have hcon := deliverAll_concluded hnodup hfold
  have hwaiting : ∀ id, id ∈ (waitingConsumers { db with ledger := ledger }
      leader.requestFingerprint).map (·.logicalRequestId) ↔
        db.admissions.Waiting leader.requestFingerprint id := by
    intro id
    rw [hids]
    exact exists_congr fun c => and_congr_right fun _ => and_congr_right fun _ =>
      and_congr_right fun _ => not_congr hclosing.requests_none
  refine .inr ?_
  show AdmissionStep repairs db.admissions
    { ledger := delivered.ledger
      entries := delivered.queue.entries.updateWhere
        (fun id row => id = result.logicalRequestId && row.state = .queued)
        fun row => { row with state := .cancelled }
      flights := delivered.flight.flights.modify leader.requestFingerprint fun row =>
        { row with state := .terminal }
      consumers := delivered.flight.consumers
      events := delivered.flight.events }
  rw [hcon.flights, hcon.queue]
  refine .conclude hflight hleader rfl hactive hrole (.inr rfl) (hclosing.trans hcon.ledger)
    ?_ ?_ ?_ ?_ ?_ hcon.events
  · -- the requests closed now are the leader's and those of the waiting consumers
    rintro id (hid | ⟨hmem, -⟩)
    · obtain ⟨-, -, row, hrow, -⟩ := hclosing.closes id hid
      obtain rfl := hclosed id hid
      refine ⟨leader, hleader, rfl, hactive, ?_⟩
      show db.ledger.requests.get? _ ≠ none
      rw [hrow]
      exact nofun
    · exact (hwaiting id).mp hmem
  · -- each waiting consumer has its result
    intro id hid
    by_cases hleads : id = result.logicalRequestId
    · subst hleads
      exact hcon.ledger.results_kept hresult
    · exact (hcon.ledger.closes id ⟨(hwaiting id).mpr hid, hleads⟩).2.1
  · -- their rows are finished, the others are kept
    intro id
    have hrow := hcon.consumers id
    exact ⟨fun hid => by rw [hrow, if_pos ((hwaiting id).mpr hid)]; rfl,
      fun hid => by rw [hrow, if_neg fun hmem => hid ((hwaiting id).mp hmem)]; rfl⟩
  · -- the leader's entry is the only one that is cancelled
    intro id hid
    show (Table.updateWhere db.queue.entries _ _).get? id = db.queue.entries.get? id
    simp [hid]
  · intro id hnone
    show (Table.updateWhere db.queue.entries _ _).get? id = none
    rw [Table.get?_updateWhere, show db.queue.entries.get? id = none from hnone]
    rfl

/-- Interrupting a flight is one step. -/
theorem cancelStartedFlight_step {fingerprint : Sha256Hex} {now : DateTime} {reason : Identifier}
    {db db' : Database} (hsound : db.admissions.Sound repairs.closable)
    (h : cancelStartedFlight fingerprint now reason db = .ok db') :
    AdmissionStep repairs db.admissions db'.admissions := by
  obtain ⟨leader, gates, cancelled, hflight, -, hfold, rfl⟩ := cancelStartedFlight_eq_ok h
  -- the flight is active, so its leader is an active consumer
  obtain ⟨leaderRow, hleader, hfingerprint, hactive, hrole⟩ := hsound.leader_row hflight
  have hnodup : ((db.flight.activeConsumers fingerprint).map Prod.fst).Nodup :=
    Table.select_keys_nodup _ _
  have hcon := cancelAll_concluded hnodup hfold
  -- the cancelled consumers are the active ones of the fingerprint
  have hwaiting : ∀ id, id ∈ (db.flight.activeConsumers fingerprint).map Prod.fst ↔
      db.admissions.Waiting fingerprint id := by
    intro id
    rw [List.mem_map]
    constructor
    · rintro ⟨⟨_, c⟩, hmem, rfl⟩
      obtain ⟨hc, hf, hwaits⟩ := mem_activeConsumers.mp hmem
      obtain ⟨⟨row, hrow, -⟩, -⟩ := hsound.known _ c hc
      exact ⟨c, hc, hf, hwaits, by rw [hrow]; exact nofun⟩
    · rintro ⟨c, hc, hf, hwaits, -⟩
      exact ⟨(id, c), mem_activeConsumers.mpr ⟨hc, hf, hwaits⟩, rfl⟩
  show AdmissionStep repairs db.admissions
    { ledger := cancelled.ledger
      entries := cancelled.queue.entries
      flights := cancelled.flight.flights.modify fingerprint fun row => { row with state := .terminal }
      consumers := cancelled.flight.consumers
      events := cancelled.flight.events }
  rw [hcon.flights, hcon.queue]
  refine .conclude hflight hleader hfingerprint hactive hrole (.inl rfl) hcon.ledger ?_ ?_ ?_
    (fun _ _ => rfl) (fun _ h => h) hcon.events
  · exact fun id hid => (hwaiting id).mp hid
  · exact fun id hid => (hcon.ledger.closes id ((hwaiting id).mpr hid)).2.1
  · intro id
    have hrow := hcon.consumers id
    exact ⟨fun hid => by rw [hrow, if_pos ((hwaiting id).mpr hid)]; rfl,
      fun hid => by rw [hrow, if_neg fun hmem => hid ((hwaiting id).mp hmem)]; rfl⟩

/-- A result that was read is the row of the ledger. -/
theorem readLogicalResult_eq_some {error : RuntimeStorageError} {ledger : LedgerTables}
    {id : Identifier} {result : ProductionLogicalResult}
    (h : readLogicalResult error ledger id = .ok (some result)) :
    result.logicalRequestId = id ∧ ledger.results.get? id = some result.row := by
  unfold readLogicalResult at h
  cases hrow : ledger.results.get? id with
  | none => simp [hrow, pure_eq_ok] at h
  | some row =>
    simp only [hrow] at h
    split at h
    · rw [pure_eq_ok, Option.some.injEq] at h
      subst h
      exact ⟨rfl, rfl⟩
    · cases h

theorem reconcileFlight_steps {now : DateTime} {db db' : Database} {flight : OpenFlight}
    (h : reconcileFlight now db flight = .ok db') :
    ReflTransGen (AdmissionStep repairs) db.admissions db'.admissions := by
  obtain ⟨-, -, result, hread, ⟨-, -, rfl⟩ | ⟨r, rfl, -, -, hfinish⟩⟩ := reconcileFlight_eq_ok h
  · exact .refl
  · obtain ⟨hid, hresult⟩ := readLogicalResult_eq_some hread
    rw [← hid] at hresult
    rcases finishSingleFlight_step (.refl db.ledger r.valid) (fun _ h => h.elim) hresult hfinish
      with ⟨-, rfl⟩ | hstep
    · exact .refl
    · exact .single hstep

theorem reconcileTerminalFlights_steps {now : DateTime} {fingerprint : Option Sha256Hex}
    {db db' : Database} (h : reconcileTerminalFlights now fingerprint db = .ok db') :
    ReflTransGen (AdmissionStep repairs) db.admissions db'.admissions := by
  refine foldlM_invariant
    (fun _ db' => ReflTransGen (AdmissionStep repairs) db.admissions db'.admissions) ?_ .refl h
  exact fun flight rest s s' hs hstep => hs.trans (reconcileFlight_steps hstep)

/-! ## Cancelling a leader -/

theorem nextLeader_eq_none {db : Database} {fingerprint : Sha256Hex}
    (h : nextLeader db fingerprint = none) {id : Identifier} {c : ConsumerRow}
    (hc : db.flight.consumers.get? id = some c) (hf : c.requestFingerprint = fingerprint)
    (hactive : c.state = .active) (hrole : c.role = .follower) :
    db.ledger.requests.get? id = none := by
  rw [nextLeader, List.head?_eq_none_iff, List.filterMap_eq_nil_iff] at h
  have hmem : (id, c) ∈ (db.flight.activeConsumers fingerprint).filter fun entry =>
      entry.2.role = .follower := by
    rw [List.mem_filter, mem_activeConsumers]
    exact ⟨⟨hc, hf, hactive⟩, decide_eq_true hrole⟩
  simpa using h (id, c) (mem_orderBy.mpr hmem)

theorem nextLeader_eq_some {db : Database} {fingerprint : Sha256Hex}
    {promoted rateDomain taskId : Identifier}
    (h : nextLeader db fingerprint = some (promoted, rateDomain, taskId)) :
    ∃ c request, db.flight.consumers.get? promoted = some c ∧
      c.requestFingerprint = fingerprint ∧ c.state = .active ∧ c.role = .follower ∧
      db.ledger.requests.get? promoted = some request ∧ rateDomain = c.rateDomain ∧
      taskId = request.taskId := by
  have hmem := List.mem_of_mem_head? h
  rw [List.mem_filterMap] at hmem
  obtain ⟨⟨id, c⟩, hmem, hrow⟩ := hmem
  rw [mem_orderBy, List.mem_filter, mem_activeConsumers, decide_eq_true_eq] at hmem
  obtain ⟨⟨hc, hf, hactive⟩, hrole⟩ := hmem
  obtain ⟨request, hrequest, heq⟩ := Option.map_eq_some_iff.mp hrow
  simp only [Prod.mk.injEq] at heq
  obtain ⟨rfl, rfl, rfl⟩ := heq
  exact ⟨c, request, hc, hf, hactive, hrole, hrequest, rfl, rfl⟩

/-- Replacing an unsent leader, or closing its flight, is one step. -/
theorem cancelUnsentLeader_step {id : Identifier} {leader : ConsumerRow} {now : DateTime}
    {reason : Identifier} {db db' : Database} {promoted : Option Identifier}
    (hsound : db.admissions.Sound repairs.closable)
    (hleader : db.flight.consumers.get? id = some leader) (hactive : leader.state = .active)
    (hrole : leader.role = .leader)
    (h : cancelUnsentLeader id leader.requestFingerprint now reason db = .ok (promoted, db')) :
    AdmissionStep repairs db.admissions db'.admissions := by
  obtain ⟨ledger, handed, hledger, hhanded, -, rfl⟩ := cancelUnsentLeader_eq_ok h
  have hne : LogicalResultOutcome.cancelled ≠ .succeeded := nofun
  obtain ⟨-, hclosing⟩ := cancelLogical_closing hne hledger
  rcases promoteFollower_eq_ok hhanded with
    ⟨hnext, rfl⟩ | ⟨promoted, rateDomain, taskId, events, hnext, hunlined, rfl⟩
  · -- nobody waits: the leader is the whole flight
    have hflight : db.flight.flights.get? leader.requestFingerprint = some ⟨id, .active⟩ := by
      obtain ⟨leader', -, hflight, -, -, hleads⟩ := hsound.flying id leader hleader hactive
      rw [← hleads.mp hrole] at hflight
      exact hflight
    have hwaiting : ∀ other, db.admissions.Waiting leader.requestFingerprint other ↔
        other = id := by
      intro other
      constructor
      · rintro ⟨c, hc, hf, hwaits, hrequest⟩
        obtain ⟨leader', -, hflight', -, -, hleads⟩ := hsound.flying other c hc hwaits
        rw [hf, show db.admissions.flights.get? leader.requestFingerprint = _ from hflight,
          Option.some.injEq, SingleFlightRow.mk.injEq] at hflight'
        rw [hflight'.1]
        refine hleads.mp ?_
        cases hfollows : c.role with
        | leader => rfl
        | follower => exact absurd (nextLeader_eq_none hnext hc hf hwaits hfollows) hrequest
      · rintro rfl
        obtain ⟨⟨row, hrow, -⟩, -⟩ := hsound.known other leader hleader
        exact ⟨leader, hleader, rfl, hactive, by rw [hrow]; exact nofun⟩
    refine .conclude hflight hleader rfl hactive hrole (.inl rfl) hclosing ?_ ?_ ?_ ?_ ?_ ?_
    · exact fun other hid => (hwaiting other).mpr hid
    · exact fun other hid => (hclosing.closes other ((hwaiting other).mp hid)).2.1
    · intro other
      show (_ → (Table.modify _ _ _).get? other = _) ∧ (_ → (Table.modify _ _ _).get? other = _)
      rw [Table.get?_modify, hwaiting]
      exact ⟨fun hid => by rw [if_pos hid]; rfl, fun hid => by rw [if_neg hid]; rfl⟩
    · intro other hid
      show (Table.modify _ _ _).get? other = _
      rw [Table.get?_modify, if_neg hid]
      rfl
    · intro other hnone
      show (Table.modify _ _ _).get? other = _
      rw [Table.get?_modify, show db.queue.entries.get? other = none from hnone]
      exact ite_self _
    · exact List.subset_append_left _ _
  · obtain ⟨follower, request, hfollower, hf, hfollowing, hwaits, -, -, -⟩ :=
      nextLeader_eq_some hnext
    have hlined : db.queue.entries.get? promoted = none := by
      simp only [Table.get?_modify] at hunlined
      split at hunlined
      · exact Option.map_eq_none_iff.mp hunlined
      · exact hunlined
    refine .promote hleader hactive hrole hfollower hfollowing hwaits hf
      hclosing hlined rfl ?_
    exact List.Subset.trans (List.subset_append_left _ _) (List.subset_append_left _ _)

theorem cancelLeader_steps {id : Identifier} {leader : ConsumerRow} {now : DateTime}
    {reason : Identifier} {db db' : Database} {promoted : Option Identifier}
    (hsound : db.admissions.Sound repairs.closable)
    (hleader : db.flight.consumers.get? id = some leader) (hactive : leader.state = .active)
    (hrole : leader.role = .leader)
    (h : cancelLeader id leader.requestFingerprint now reason db = .ok (promoted, db')) :
    AdmissionStep repairs db.admissions db'.admissions := by
  rcases cancelLeader_eq_ok h with ⟨-, -, hstarted⟩ | ⟨dropped, -, -, hdrop, hrest⟩
  · exact cancelStartedFlight_step hsound hstarted
  · have hsame : dropped.admissions = db.admissions := by
      rcases dropReservedAttempt_eq_ok hdrop with ⟨-, rfl⟩ | ⟨_, _, _, -, -, -, rfl⟩ <;> rfl
    rw [← hsame] at hsound ⊢
    rcases hrest with ⟨-, -, hstarted⟩ | ⟨-, hunsent⟩
    · exact cancelStartedFlight_step hsound hstarted
    · refine cancelUnsentLeader_step hsound ?_ hactive hrole hunsent
      exact (congrArg (fun a => a.consumers.get? id) hsame).trans hleader

/-! ## Admission -/

/-- What delivering results leaves alone of a request without a consumer. -/
structure Untouched (id : Identifier) (db db' : Database) : Prop where
  consumer : db'.flight.consumers.get? id = none
  request : db'.ledger.requests.get? id = db.ledger.requests.get? id
  entry : db.queue.entries.get? id = none → db'.queue.entries.get? id = none

theorem finishSingleFlight_untouched {id : Identifier} {result : ProductionLogicalResult}
    {now : DateTime} {db db' : Database} (hnone : db.flight.consumers.get? id = none)
    (h : finishSingleFlight result now db = .ok db') : Untouched id db db' := by
  rcases finishSingleFlight_eq_ok h with ⟨-, rfl⟩ | ⟨leader, delivered, -, -, -, -, hfold, rfl⟩
  · exact ⟨hnone, rfl, fun h => h⟩
  obtain ⟨hnodup, hids⟩ := waitingConsumers_ids db leader.requestFingerprint
  have hcon := deliverAll_concluded hnodup hfold
  have hout : id ∉ (waitingConsumers db leader.requestFingerprint).map (·.logicalRequestId) := by
    rw [hids]
    rintro ⟨c, hc, -⟩
    rw [show db.admissions.consumers.get? id = none from hnone] at hc
    cases hc
  refine ⟨?_, (hcon.ledger.keeps id fun h => hout h.1).1, ?_⟩
  · show delivered.flight.consumers.get? id = none
    rw [hcon.consumers, if_neg hout, hnone]
  · intro hentry
    show (Table.updateWhere delivered.queue.entries _ _).get? id = none
    rw [Table.get?_updateWhere, hcon.queue, hentry]
    rfl

theorem reconcileTerminalFlights_untouched {id : Identifier} {now : DateTime}
    {fingerprint : Option Sha256Hex} {db db' : Database}
    (h : reconcileTerminalFlights now fingerprint db = .ok db')
    (hnone : db.flight.consumers.get? id = none) : Untouched id db db' := by
  refine foldlM_invariant (fun _ db' => Untouched id db db') ?_ ⟨hnone, rfl, fun h => h⟩ h
  intro flight rest s s' hs hstep
  obtain ⟨-, -, -, -, ⟨-, -, rfl⟩ | ⟨r, -, -, -, hfinish⟩⟩ := reconcileFlight_eq_ok hstep
  · exact hs
  · have hnext := finishSingleFlight_untouched hs.consumer hfinish
    exact ⟨hnext.consumer, hnext.request.trans hs.request, fun h => hnext.entry (hs.entry h)⟩

/-- A new leader joins in two steps, one who is turned away in three. -/
theorem queueLeader_steps {request : ProductionLogicalRequest} {rateDomain : Identifier}
    {cachePolicy : ProductionCachePolicy} {now : DateTime} {policy : QueuePolicy}
    {db db' : Database} {rejected : Bool}
    (hrequest : db.ledger.requests.get? request.logicalRequestId =
      some request.toLogicalRequestRow) (hqueued : request.state = .queued)
    (hfresh : db.flight.consumers.get? request.logicalRequestId = none)
    (hnobody : db.flight.activeConsumers request.requestFingerprint = [])
    (h : queueLeader request rateDomain now policy
      { db with
        flight := joinedFlight request .leader cachePolicy rateDomain request.logicalRequestId now
          (openFlight request.requestFingerprint request.logicalRequestId db.flight) } =
        .ok (rejected, db')) :
    ReflTransGen (AdmissionStep repairs) db.admissions db'.admissions := by
  -- no consumer of the fingerprint is active
  have hidle : ∀ other c, db.flight.consumers.get? other = some c →
      c.requestFingerprint = request.requestFingerprint → c.state ≠ .active := by
    intro other c hc hf hactive
    have hmem := mem_activeConsumers.mpr ⟨hc, hf, hactive⟩
    rw [hnobody] at hmem
    cases hmem
  have hsome : db.admissions.ledger.requests.get? request.logicalRequestId ≠ none := by
    rw [show db.admissions.ledger.requests.get? request.logicalRequestId = _ from hrequest]
    exact nofun
  let lined (state : QueueEntryState) : Admissions :=
    { db.admissions with
      entries := db.queue.entries.insert request.logicalRequestId
        ⟨rateDomain, request.taskId, now, state, none⟩ }
  let events := db.flight.events ++
    [⟨request.logicalRequestId, .singleFlight .leader, now, some request.logicalRequestId⟩]
  have hevents : db.flight.events ⊆ events := List.subset_append_left _ _
  have hjoined : Admissions.Joined events request.logicalRequestId :=
    ⟨_, List.mem_append_right _ List.mem_cons_self, rfl, rfl⟩
  obtain ⟨hlined, -, ⟨-, rfl⟩ | ⟨-, ledger, hledger, rfl⟩⟩ := queueLeader_eq_ok h
  · -- the queue takes the entry, then the flight opens
    have hqueue : AdmissionStep repairs db.admissions (lined .queued) := .queue _ hsome hfresh hlined
    have hleads : AdmissionStep repairs (lined .queued)
        { lined .queued with
          consumers := db.flight.consumers.insert request.logicalRequestId
            (joinedConsumer request .leader cachePolicy rateDomain now)
          flights := db.flight.flights.upsert
            (joinedConsumer request .leader cachePolicy rateDomain now).requestFingerprint
            ⟨request.logicalRequestId, .active⟩ fun row =>
              if row.state = .terminal then ⟨request.logicalRequestId, .active⟩ else row
          events := events } :=
      .lead hrequest hqueued rfl (Table.get?_insert_self hlined _) rfl hfresh rfl rfl rfl hidle
        hevents hjoined
    exact .head hqueue (.single hleads)
  · -- the queue rejects the entry, the request is closed, then the consumer is turned away
    have hne : LogicalResultOutcome.failed ≠ .succeeded := nofun
    obtain ⟨-, hclosing⟩ := cancelLogical_closing hne hledger
    obtain ⟨row, hrow, hrowf⟩ := hclosing.requests_kept hrequest
    have hqueue : AdmissionStep repairs db.admissions (lined .rejected) :=
      .queue _ hsome hfresh hlined
    have hclose : AdmissionStep repairs (lined .rejected) { lined .rejected with ledger := ledger } := by
      refine .close hclosing fun c hc => ?_
      rw [show db.flight.consumers.get? _ = some c from hc] at hfresh
      cases hfresh
    have hturned : AdmissionStep repairs { lined .rejected with ledger := ledger }
        { lined .rejected with
          ledger := ledger
          consumers := db.flight.consumers.insert request.logicalRequestId
            { joinedConsumer request .leader cachePolicy rateDomain now with state := .cancelled }
          flights := ((openFlight request.requestFingerprint request.logicalRequestId
            db.flight).terminate request.requestFingerprint).flights
          events := events } := by
      refine .turnAway hrow ?_ hrowf hfresh rfl rfl hidle ?_ ?_ hevents hjoined
      · rw [(hclosing.closes _ rfl).2.1]
        exact nofun
      · -- the flight of another fingerprint
        intro f hf
        replace hf : f ≠ request.requestFingerprint := hf
        show (Table.modify (Table.upsert _ _ _ _) _ _).get? f = db.flight.flights.get? f
        rw [Table.get?_modify, if_neg hf, Table.get?_upsert, if_neg hf]
      · -- its own flight is terminal at once
        intro leader
        show (Table.modify (Table.upsert _ _ _ _) _ _).get? request.requestFingerprint ≠ _
        rw [Table.get?_modify, if_pos rfl]
        simp
    have hconsumers := Table.modify_insert hfresh
      (joinedConsumer request .leader cachePolicy rateDomain now) fun row =>
        { row with state := .cancelled }
    rw [← hconsumers] at hturned
    exact .head hqueue (.head hclose (.single hturned))

/-- A follower joins in one step. -/
theorem joinFollower_step {request : ProductionLogicalRequest} {rateDomain leader : Identifier}
    {cachePolicy : ProductionCachePolicy} {now : DateTime} {db : Database}
    (hrequest : db.ledger.requests.get? request.logicalRequestId =
      some request.toLogicalRequestRow) (hqueued : request.state = .queued)
    (hfresh : db.flight.consumers.get? request.logicalRequestId = none)
    (hunlined : db.queue.entries.get? request.logicalRequestId = none)
    (hleader : activeLeader db.flight request.requestFingerprint = some (leader, rateDomain)) :
    AdmissionStep repairs db.admissions
      (Database.admissions { db with
        flight := joinedFlight request .follower cachePolicy rateDomain leader now db.flight }) := by
  obtain ⟨⟨leader', state⟩, hflight, hconsumer⟩ := Option.bind_eq_some_iff.mp hleader
  rw [Option.filter_eq_some_iff, decide_eq_true_eq] at hflight
  obtain ⟨hflight, hstate⟩ := hflight
  obtain rfl : state = .active := hstate
  obtain ⟨leaderRow, hrow, heq⟩ := Option.map_eq_some_iff.mp hconsumer
  simp only [Prod.mk.injEq] at heq
  obtain ⟨rfl, rfl⟩ := heq
  exact .follow hrequest hqueued rfl hfresh hunlined rfl rfl rfl hflight hrow rfl
    (List.subset_append_left _ _) ⟨_, List.mem_append_right _ List.mem_cons_self, rfl, rfl⟩

/-! ## Recovery -/

/-- An attempt of the request was started, or had been. -/
def Unreserved (attempts : AttemptTable) (id : Identifier) : Prop :=
  ∃ attemptId row, attempts.get? attemptId = some row ∧ row.logicalRequestId = id ∧
    row.state ≠ .reserved

/-- No attempt of the request exists. -/
def Unattempted (attempts : AttemptTable) (id : Identifier) : Prop :=
  ∀ attemptId row, attempts.get? attemptId = some row → row.logicalRequestId ≠ id

theorem mem_startedRequests {db : Database} {generation : Nat} {id : Identifier}
    (h : id ∈ startedRequests db generation) : Unreserved db.attempts id := by
  rw [startedRequests, List.mem_dedup, List.mem_map] at h
  obtain ⟨⟨attemptId, row⟩, hmem, rfl⟩ := h
  rw [Table.mem_select, Bool.and_eq_true, decide_eq_true_eq] at hmem
  obtain ⟨hrow, hstate, -⟩ := hmem
  exact ⟨attemptId, row, hrow, rfl, by rw [hstate]; exact nofun⟩

theorem mem_interruptedBetweenAttempts {db : Database} {entry : Identifier × Bool}
    (h : entry ∈ interruptedBetweenAttempts db) :
    Unreserved db.attempts entry.1 ∧ db.ledger.Open entry.1 := by
  simp only [interruptedBetweenAttempts, List.mem_map, List.mem_dedup] at h
  obtain ⟨_, ⟨_, ⟨⟨attemptId, row⟩, hmem, rfl⟩, rfl⟩, rfl⟩ := h
  rw [Table.mem_select, Bool.and_eq_true, Bool.and_eq_true] at hmem
  obtain ⟨hrow, ⟨hterminal, hopen⟩, -⟩ := hmem
  refine ⟨⟨attemptId, row, hrow, rfl, ?_⟩, ?_⟩
  · rintro hreserved
    simp [hreserved, PhysicalAttemptState.isActive] at hterminal
  · obtain ⟨request, hrequest, hqueued⟩ := (Option.any_eq_true ..).mp hopen
    exact Option.map_eq_some_iff.mpr ⟨request, hrequest, of_decide_eq_true hqueued⟩

theorem isUnattemptedClaim_iff {db : Database} {id : Identifier} {row : QueueEntryRow} :
    isUnattemptedClaim db id row = true ↔
      row.state = .dequeued ∧ db.ledger.Open id ∧ Unattempted db.attempts id := by
  simp only [isUnattemptedClaim, Bool.and_eq_true, decide_eq_true_eq, Option.any_eq_true,
    Table.select_eq_nil_iff, decide_eq_false_iff_not, and_assoc, LedgerTables.Open,
    Option.map_eq_some_iff, Unattempted]

/-- The steps of a recovery before it delivers results. -/
theorem recoveryRepairs_steps {now : DateTime} {row : RuntimeLeaseRow} {db repaired : Database}
    (hclosable : ∀ id, Unreserved db.attempts id → repairs.closable id)
    (hreturnable : ∀ id, Unattempted db.attempts id → repairs.returnable id)
    (h : RecoveryRepairs db now row repaired) :
    ReflTransGen (AdmissionStep repairs) db.admissions repaired.admissions := by
  obtain ⟨-, -, gates, started, closed, -, hstarted, hclosed, rfl⟩ := h
  let requeued : Admissions := { db.admissions with entries := (requeueUnattempted now db).entries }
  have hrequeue : AdmissionStep repairs db.admissions requeued := by
    refine .audit ?_ (List.Subset.refl _)
    intro id
    show LineMove _ (db.queue.entries.get? id) ((Table.updateWhere db.queue.entries _ _).get? id)
    rw [Table.get?_updateWhere]
    cases hentry : db.queue.entries.get? id with
    | none => exact .stay _
    | some entry =>
      rw [Option.map_some]
      by_cases hclaim : isUnattemptedClaim db id entry = true
      · obtain ⟨hdequeued, hopen, hidle⟩ := isUnattemptedClaim_iff.mp hclaim
        rw [if_pos hclaim]
        exact .requeue hdequeued rfl ⟨hopen, hreturnable id hidle⟩
      · rw [if_neg hclaim]
        exact .stay _
  -- each loop closes requests whose attempts were started
  have hclose : ∀ {ledger ledger' : LedgerTables} {id : Identifier} {result : LogicalResultRow},
      Unreserved db.attempts id → ledger.Closing (· = id) result ledger' →
        AdmissionStep repairs { requeued with ledger := ledger }
          { requeued with ledger := ledger' } := by
    intro ledger ledger' id result hid hclosing
    exact .close hclosing fun _ _ _ => hclosable id hid
  have hfirst : ReflTransGen (AdmissionStep repairs) db.admissions
      { requeued with ledger := started } := by
    refine foldlM_invariant (fun rest ledger =>
      (∀ id ∈ rest, Unreserved db.attempts id) ∧ ReflTransGen (AdmissionStep repairs) db.admissions
        { requeued with ledger := ledger }) ?_ ⟨fun id => mem_startedRequests, .single hrequeue⟩
      hstarted |>.2
    rintro id rest ledger ledger' ⟨hall, hsteps⟩ hstep
    obtain ⟨result, hclosing⟩ := closeStarted_closing hstep
    exact ⟨fun other hmem => hall other (List.mem_cons_of_mem _ hmem),
      hsteps.tail (hclose (hall id List.mem_cons_self) hclosing)⟩
  refine foldlM_invariant (fun rest ledger =>
    (∀ entry ∈ rest, Unreserved db.attempts entry.1 ∧ ledger.requests.get? entry.1 ≠ none) ∧
      ReflTransGen (AdmissionStep repairs) db.admissions { requeued with ledger := ledger })
    ?_ ⟨?_, hfirst⟩ hclosed |>.2
  · rintro entry rest ledger ledger' ⟨hall, hsteps⟩ hstep
    obtain ⟨hid, hrequest⟩ := hall entry List.mem_cons_self
    obtain ⟨result, hclosing⟩ := closeInterrupted_closing hrequest hstep
    refine ⟨fun other hmem => ?_, hsteps.tail (hclose hid hclosing)⟩
    obtain ⟨hother, hrequest'⟩ := hall other (List.mem_cons_of_mem _ hmem)
    exact ⟨hother, fun hnone => hrequest' (hclosing.requests_none.mp hnone)⟩
  · intro entry hmem
    obtain ⟨hid, hopen⟩ := mem_interruptedBetweenAttempts hmem
    refine ⟨hid, fun hnone => ?_⟩
    rw [LedgerTables.Open, show started.requests.get? entry.1 = none from hnone] at hopen
    cases hopen

/-- The result of a request that the queue turned away. -/
theorem closeFresh_closing {ledger : LedgerTables} {id : Identifier} {row : LogicalRequestRow}
    (now : DateTime) (hrow : ledger.requests.get? id = some row)
    (hresult : ledger.results.get? id = none) :
    ledger.Closing (· = id) ⟨.failed, isoformat now, some queueFullCode⟩
      { requests := ledger.requests.modify id fun row => { row with state := .failed }
        results := ledger.results.insert id ⟨.failed, isoformat now, some queueFullCode⟩ } := by
  refine ⟨rfl, ?_, ?_⟩
  · rintro other rfl
    refine ⟨hresult, Table.get?_insert_self hresult _, row, hrow, ?_⟩
    rw [Table.get?_modify, if_pos rfl, hrow]
    rfl
  · intro other hid
    rw [Table.get?_modify, if_neg hid, Table.get?_insert hresult, if_neg hid]
    exact ⟨rfl, rfl⟩

/-! ## Operations -/

/-- A new request is submitted in state `queued`. -/
def Operation.SubmitsQueued : Operation → Prop
  | .addLogicalRequest request => request.state = .queued
  | .enqueueLogicalRequest request .. => request.state = .queued
  | .admitLogicalRequest request .. => request.state = .queued
  | _ => True

instance : DecidablePred Operation.SubmitsQueued
  | .addLogicalRequest request => inferInstanceAs (Decidable (request.state = .queued))
  | .enqueueLogicalRequest request .. => inferInstanceAs (Decidable (request.state = .queued))
  | .admitLogicalRequest request .. => inferInstanceAs (Decidable (request.state = .queued))
  | .cancelAdmittedRequest .. | .claimNextQueued .. | .acquireGates .. | .releaseGates ..
  | .recordRetryAfter .. | .recordUnknownOutcome .. | .addPhysicalAttempt ..
  | .reserveNextPhysicalAttempt .. | .discardReservedAttempt .. | .markPhysicalAttemptStarted ..
  | .completeLogicalRequest .. | .finalizeLogicalRequest .. | .beginRawPublication ..
  | .commitRawPublication .. | .failRawPublication .. | .markRawPublicationReconciliationRequired ..
  | .acquireLease .. | .heartbeatLease .. | .releaseLease .. | .recoverExpiredLease .. =>
    inferInstanceAs (Decidable True)

/-- Only a recovery needs what `repairs` permits. -/
def Operation.Licensed (repairs : Repairs) (db : Database) : Operation → Prop
  | .recoverExpiredLease .. => (∀ id, Unreserved db.attempts id → repairs.closable id) ∧
    ∀ id, Unattempted db.attempts id → repairs.returnable id
  | _ => True

/-- Every operation moves the shared tables by a chain of protocol steps. -/
theorem Transition.admission_steps {op : Operation} {db db' : Database} (h : Transition op db db')
    (hqueued : op.SubmitsQueued) (hlicensed : op.Licensed repairs db)
    (hsound : db.admissions.Sound repairs.closable) :
    ReflTransGen (AdmissionStep repairs) db.admissions db'.admissions := by
  -- an unknown request has no consumer
  have hnobody : ∀ id, db.ledger.requests.get? id = none →
      db.flight.consumers.get? id = none := by
    intro id hnone
    cases hc : db.flight.consumers.get? id with
    | none => rfl
    | some c =>
      obtain ⟨⟨row, hrow, -⟩, -⟩ := hsound.known id c hc
      rw [show db.admissions.ledger.requests.get? id = none from hnone] at hrow
      cases hrow
  cases h with
  | unchanged | publish | heartbeat | release | blocked | acquire | finish | addAttempt
  | reserveAttempt | discardAttempt | startAttempt => exact .refl
  | submit hledger =>
    obtain ⟨hfresh, rfl⟩ := insertLogicalRequest_eq_ok.mp hledger
    exact .single (.submit hfresh hqueued)
  -- submitted, then put in line
  | @enqueue request _ _ _ _ _ _ _ _ hledger hfresh =>
    obtain ⟨hnew, rfl⟩ := insertLogicalRequest_eq_ok.mp hledger
    refine .head (.submit hnew hqueued) (.single (.queue _ ?_ (hnobody _ hnew) hfresh))
    exact fun hnone => absurd ((Table.get?_insert_self hnew _).symm.trans hnone) nofun
  | @rejectEnqueue request _ _ now _ _ _ _ _ hledger hfresh hresult =>
    obtain ⟨hnew, rfl⟩ := insertLogicalRequest_eq_ok.mp hledger
    have hrow : (db.ledger.requests.insert request.logicalRequestId
        request.toLogicalRequestRow).get? request.logicalRequestId =
          some request.toLogicalRequestRow := Table.get?_insert_self hnew _
    have hclosing := closeFresh_closing now hrow hresult
    -- submitted, put in line, closed at once
    refine .head (.submit hnew hqueued) (.head (.queue _ ?_ (hnobody _ hnew) hfresh)
      (.single (.close hclosing fun c hc => ?_)))
    · exact fun hnone => absurd (hrow.symm.trans hnone) nofun
    · exact absurd ((hnobody _ hnew).symm.trans hc) nofun
  | @admitLeader request _ cachePolicy _ now _ _ _ ledger reconciled _ _ _ hledger hreconcile hfresh
      _ hidle hqueue =>
    obtain ⟨hnew, rfl⟩ := insertLogicalRequest_eq_ok.mp hledger
    have huntouched := reconcileTerminalFlights_untouched hreconcile (hnobody _ hnew)
    have hrow : reconciled.ledger.requests.get? request.logicalRequestId =
        some request.toLogicalRequestRow := by
      rw [huntouched.request]
      exact Table.get?_insert_self hnew _
    -- submitted, recorded in the audit log, the terminal flights repaired, then queued
    refine .head (.submit hnew hqueued) (.head (.audit (fun _ => .stay _) ?_)
      ((reconcileTerminalFlights_steps hreconcile).trans
        (queueLeader_steps hrow hqueued hfresh hidle hqueue)))
    exact List.subset_append_left _ _
  | @admitFollower request _ cachePolicy _ now _ _ _ ledger reconciled _ _ hledger hreconcile hfresh
      hleader =>
    obtain ⟨hnew, rfl⟩ := insertLogicalRequest_eq_ok.mp hledger
    have huntouched := reconcileTerminalFlights_untouched hreconcile (hnobody _ hnew)
    have hrow : reconciled.ledger.requests.get? request.logicalRequestId =
        some request.toLogicalRequestRow := by
      rw [huntouched.request]
      exact Table.get?_insert_self hnew _
    -- the same for a follower, who joins the flight that is open
    refine .head (.submit hnew hqueued) (.head (.audit (fun _ => .stay _) ?_)
      ((reconcileTerminalFlights_steps hreconcile).tail
        (joinFollower_step hrow hqueued hfresh (huntouched.entry (hsound.lined _ hnew)) hleader)))
    exact List.subset_append_left _ _
  | @claim _ _ now _ _ id entry queue _ hentry hstate hqueue =>
    -- claiming moves one entry of the line
    refine .single (.audit ?_ (List.Subset.refl _))
    intro other
    show LineMove _ (db.queue.entries.get? other) (queue.entries.get? other)
    rw [hqueue, Table.get?_modify]
    by_cases hid : other = id
    · rw [if_pos hid, hid, hentry]
      exact .claim hstate rfl
    · rw [if_neg hid]
      exact .stay _
  | cancelFollower _ hconsumer hactive hrole hledger =>
    have hne : LogicalResultOutcome.cancelled ≠ .succeeded := nofun
    obtain ⟨-, hclosing⟩ := cancelLogical_closing hne hledger
    exact .single (.leave hconsumer hactive hrole hclosing (List.subset_append_left _ _))
  | cancelLeader _ hconsumer hactive hrole hcancel =>
    exact .single (cancelLeader_steps hsound hconsumer hactive hrole hcancel)
  -- the request closes alone when it has no flight, with its flight otherwise
  | @close _ result _ _ _ _ _ ledger _ _ hledger hfinish =>
    obtain ⟨-, hclosing⟩ := persistLogicalResult_closing hledger
    rcases finishSingleFlight_step hclosing (fun _ h => h) (hclosing.closes _ rfl).2.1 hfinish with
      ⟨hnone, rfl⟩ | hstep
    · refine .single (.close hclosing fun c hc => ?_)
      rw [show db.admissions.consumers.get? _ = none from hnone] at hc
      cases hc
    · exact .single hstep
  | acquireLease _ _ hreconcile =>
    have hsteps : ReflTransGen (AdmissionStep repairs) _ _ :=
      reconcileTerminalFlights_steps hreconcile
    exact hsteps
  | recover _ hrepairs hreconcile =>
    have hsteps : ReflTransGen (AdmissionStep repairs) _ _ :=
      reconcileTerminalFlights_steps hreconcile
    exact (recoveryRepairs_steps hlicensed.1 hlicensed.2 hrepairs).trans hsteps

end

end StockResearch.Requests
