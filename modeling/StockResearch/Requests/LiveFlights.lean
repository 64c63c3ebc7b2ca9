import StockResearch.Requests.Followers

/-!
# Every flight has a live leader

Reconciliation walks the active flights it read at its start. While it does, each flight
still to come keeps the rows that were read, and each one behind it is finished or has a
leader who waits for a result. So the audit of a flight never fails, and whoever is not
done leads a flight or waits for a leader that is still to be answered.

- `Reconciling`: the state of the walk.
- `Database.Flown`: what holds of the flights of every database.
-/

namespace StockResearch.Requests

open Relation (ReflTransGen)

/-! ## One delivery -/

/-- Finishing the flight of a consumer: what it found, and what it leaves alone. -/
theorem finishSingleFlight_elsewhere {result : ProductionLogicalResult} {now : DateTime}
    {db db' : Database} {leader : ConsumerRow}
    (hleader : db.flight.consumers.get? result.logicalRequestId = some leader)
    (h : finishSingleFlight result now db = .ok db') :
    db.flight.flights.get? leader.requestFingerprint = some ⟨result.logicalRequestId, .active⟩ ∧
      (∀ f, db'.flight.flights.get? f = if f = leader.requestFingerprint then
        some ⟨result.logicalRequestId, .terminal⟩ else db.flight.flights.get? f) ∧
      ∀ id, ¬ db.admissions.Waiting leader.requestFingerprint id →
        db'.flight.consumers.get? id = db.flight.consumers.get? id ∧
        db'.ledger.requests.get? id = db.ledger.requests.get? id := by
  rcases finishSingleFlight_eq_ok h with
    ⟨hnone, -⟩ | ⟨leader', delivered, hleader', -, -, hflight, hfold, rfl⟩
  · rw [hnone] at hleader
    cases hleader
  obtain rfl := Option.some.inj (hleader.symm.trans hleader')
  obtain ⟨hnodup, hids⟩ := waitingConsumers_ids db leader.requestFingerprint
  have hcon := deliverAll_concluded hnodup hfold
  refine ⟨hflight, fun f => ?_, fun id hid => ⟨?_, ?_⟩⟩
  · show (Table.modify _ _ _).get? f = _
    rw [Table.get?_modify, hcon.flights]
    by_cases hf : f = leader.requestFingerprint
    · rw [if_pos hf, if_pos hf, hf, hflight]
      rfl
    · rw [if_neg hf, if_neg hf]
  · show delivered.flight.consumers.get? id = _
    rw [hcon.consumers, if_neg fun hmem => hid ((hids id).mp hmem)]
  · exact (hcon.ledger.keeps id fun hmem => hid ((hids id).mp hmem.1)).1

/-! ## The walk over the active flights -/

/-- `flight` shows the rows of an active flight and of its leader. -/
structure Database.Shows (db : Database) (flight : OpenFlight) : Prop where
  active : ∃ f, db.flight.flights.get? f = some ⟨flight.leaderLogicalRequestId, .active⟩
  requestState : flight.requestState =
    (db.ledger.requests.get? flight.leaderLogicalRequestId).map (·.state)
  consumer : flight.consumer = (db.flight.consumers.get? flight.leaderLogicalRequestId).map
    fun row => (row.role, row.state)

/-- The walk has `rest` before it. -/
structure Reconciling (repairs : Repairs) (rest : List OpenFlight) (db : Database) : Prop where
  ledger : db.ledger.Sound
  flights : db.admissions.Sound repairs.closable
  leaders : (rest.map (·.leaderLogicalRequestId)).Nodup
  shown : ∀ flight ∈ rest, db.Shows flight
  answered : ∀ f leader, db.flight.flights.get? f = some ⟨leader, .active⟩ →
    db.ledger.Open leader ∨ leader ∈ rest.map (·.leaderLogicalRequestId)

section

variable {repairs : Repairs} {db db' : Database} {flight : OpenFlight} {rest : List OpenFlight}

/-- The walk starts with every active flight, or with one while the others are open. -/
theorem Reconciling.start (hledger : db.ledger.Sound)
    (hflights : db.admissions.Sound repairs.closable) (fingerprint : Option Sha256Hex)
    (hopen : fingerprint = none ∨ ∀ f leader,
      db.flight.flights.get? f = some ⟨leader, .active⟩ → db.ledger.Open leader) :
    Reconciling repairs (openFlights db fingerprint) db where
  ledger := hledger
  flights := hflights
  leaders := by
    -- a leader belongs to one flight: the one of its fingerprint
    have hkey : ∀ entry ∈ db.flight.flights.select fun key row =>
        row.state = .active && fingerprint.all fun f => key = f,
        (db.flight.consumers.get? entry.2.leaderLogicalRequestId).map (·.requestFingerprint) =
          some entry.1 := by
      rintro ⟨f, leader, state⟩ hmem
      rw [Table.mem_select, Bool.and_eq_true, decide_eq_true_eq] at hmem
      obtain ⟨hflight, hactive, -⟩ := hmem
      obtain rfl : state = .active := hactive
      obtain ⟨c, hc, hf, -⟩ := hflights.leader_row hflight
      rw [show db.flight.consumers.get? leader = some c from hc, Option.map_some, hf]
    refine List.Nodup.of_map (fun leader =>
      (db.flight.consumers.get? leader).map (·.requestFingerprint)) ?_
    rw [openFlights, List.map_map, List.map_map]
    show (List.map (fun entry : Sha256Hex × SingleFlightRow =>
      (db.flight.consumers.get? entry.2.leaderLogicalRequestId).map (·.requestFingerprint)) _).Nodup
    rw [List.map_congr_left hkey, show (fun entry : Sha256Hex × SingleFlightRow => some entry.1) = some ∘ Prod.fst from
      rfl, ← List.map_map]
    exact (Table.select_keys_nodup _ _).map (Option.some_injective _)
  shown := by
    intro flight hmem
    obtain ⟨⟨f, leader, state⟩, hentry, rfl⟩ := List.mem_map.mp hmem
    rw [Table.mem_select, Bool.and_eq_true, decide_eq_true_eq] at hentry
    obtain ⟨hflight, hactive, -⟩ := hentry
    obtain rfl : state = .active := hactive
    exact ⟨⟨f, hflight⟩, rfl, rfl⟩
  answered := by
    intro f leader hflight
    rcases hopen with rfl | hopen
    · refine .inr (List.mem_map.mpr ⟨_, List.mem_map.mpr ⟨(f, ⟨leader, .active⟩), ?_, rfl⟩, rfl⟩)
      rw [Table.mem_select]
      exact ⟨hflight, rfl⟩
    · exact .inl (hopen f leader hflight)

/-- Who waits in one flight does not lead another. -/
theorem Admissions.Sound.leads_elsewhere {closable : Identifier → Prop} {a : Admissions}
    (hsound : a.Sound closable) {f fingerprint : Sha256Hex} {leader : Identifier}
    (hflight : a.flights.get? f = some ⟨leader, .active⟩) (hne : f ≠ fingerprint) :
    ¬ a.Waiting fingerprint leader := by
  rintro ⟨c, hc, hf, -, -⟩
  obtain ⟨c', hc', hf', -⟩ := hsound.leader_row hflight
  obtain rfl := Option.some.inj (hc.symm.trans hc')
  exact hne (hf'.symm.trans hf)

theorem Reconciling.step {now : DateTime} (h : Reconciling repairs (flight :: rest) db)
    (hstep : reconcileFlight now db flight = .ok db') : Reconciling repairs rest db' := by
  have hshown := h.shown flight List.mem_cons_self
  have hnodup := h.leaders
  rw [List.map_cons, List.nodup_cons] at hnodup
  obtain ⟨-, -, result, hread, ⟨hqueued, -, rfl⟩ | ⟨r, rfl, -, -, hfinish⟩⟩ :=
    reconcileFlight_eq_ok hstep
  · -- its leader is still to be answered
    refine ⟨h.ledger, h.flights, hnodup.2, fun other hother => h.shown other
      (List.mem_cons_of_mem _ hother), fun f leader hflight => ?_⟩
    rcases h.answered f leader hflight with hopen | hmem
    · exact .inl hopen
    · rw [List.map_cons, List.mem_cons] at hmem
      rcases hmem with rfl | hmem
      · exact .inl (hshown.requestState.symm.trans hqueued)
      · exact .inr hmem
  · obtain ⟨hid, hresult⟩ := readLogicalResult_eq_some hread
    obtain ⟨f₀, hflight₀⟩ := hshown.active
    obtain ⟨leaderRow, hleader, hf₀, -⟩ := h.flights.leader_row hflight₀
    rw [← hid] at hleader hresult hflight₀
    obtain ⟨hflight, hflights', helsewhere⟩ := finishSingleFlight_elsewhere hleader hfinish
    have hadmission : AdmissionStep repairs db.admissions db'.admissions := by
      rcases finishSingleFlight_step (.refl db.ledger r.valid) (fun _ h => h.elim) hresult hfinish
        with ⟨hnone, -⟩ | hadmission
      · exact absurd (hnone.symm.trans hleader) nofun
      · exact hadmission
    -- the other flights are as they were
    have hother : ∀ f leader, db'.flight.flights.get? f = some ⟨leader, .active⟩ →
        f ≠ leaderRow.requestFingerprint ∧ db.flight.flights.get? f = some ⟨leader, .active⟩ := by
      intro f leader hactive
      rw [hflights'] at hactive
      split at hactive
      · cases hactive
      · rename_i hne
        exact ⟨hne, hactive⟩
    refine ⟨hadmission.ledger_sound h.ledger, h.flights.step hadmission, hnodup.2, ?_, ?_⟩
    · intro other hmem
      obtain ⟨⟨f, hactive⟩, hrequest, hconsumer⟩ := h.shown other (List.mem_cons_of_mem _ hmem)
      have hne : f ≠ leaderRow.requestFingerprint := by
        rintro rfl
        rw [hflight, Option.some.injEq, SingleFlightRow.mk.injEq] at hactive
        refine hnodup.1 (List.mem_map.mpr ⟨other, hmem, ?_⟩)
        exact hactive.1.symm.trans hid
      obtain ⟨hconsumers, hrequests⟩ :=
        helsewhere _ (h.flights.leads_elsewhere hactive hne)
      refine ⟨⟨f, ?_⟩, hrequest.trans (by rw [hrequests]), hconsumer.trans (by rw [hconsumers])⟩
      rw [hflights', if_neg hne, hactive]
    · intro f leader hactive
      obtain ⟨hne, hold⟩ := hother f leader hactive
      have hrequests := (helsewhere leader (h.flights.leads_elsewhere hold hne)).2
      rcases h.answered f leader hold with hopen | hmem
      · exact .inl (by rw [LedgerTables.Open, hrequests]; exact hopen)
      · rw [List.map_cons, List.mem_cons] at hmem
        rcases hmem with rfl | hmem
        · -- the finished flight was the only one of this leader
          obtain ⟨c, hc, hf, -⟩ := h.flights.leader_row hold
          rw [← hid] at hc
          obtain rfl := Option.some.inj (hleader.symm.trans hc)
          exact absurd hf.symm hne
        · exact .inr hmem

theorem Reconciling.run {now : DateTime} {fingerprint : Option Sha256Hex}
    (h : Reconciling repairs (openFlights db fingerprint) db)
    (hrun : reconcileTerminalFlights now fingerprint db = .ok db') : Reconciling repairs [] db' :=
  foldlM_invariant (Reconciling repairs) (fun _ _ _ _ h hstep => h.step hstep) h hrun

end

/-! ## The audits of a delivery do not fail -/

section

variable {e : RuntimeStorageError} (he : FlightFault e)
  (hne : RuntimeStorageError.singleFlightFollowerHasAttempt ≠ e) {db : Database}

include he hne

/-- Finishing the flight of an active leader. -/
theorem finishSingleFlight_audited {closable closed : Identifier → Prop}
    {result : ProductionLogicalResult} {row : LogicalResultRow} {ledger : LedgerTables}
    {now : DateTime} (hsound : db.admissions.Sound closable)
    (hclosing : db.ledger.Closing closed row ledger)
    (hleads : ∀ c ∈ db.flight.consumers.get? result.logicalRequestId,
      c.role = .leader ∧ c.state = .active) :
    Avoids (.storage e) (finishSingleFlight result now { db with ledger := ledger }) := by
  -- a leader that is active leads the active flight of its fingerprint
  have hflight : ∀ c, db.flight.consumers.get? result.logicalRequestId = some c →
      db.flight.flights.get? c.requestFingerprint = some ⟨result.logicalRequestId, .active⟩ := by
    intro c hc
    obtain ⟨hrole, hactive⟩ := hleads c hc
    obtain ⟨leader, -, hflight, -, -, hleader⟩ := hsound.flying _ c hc hactive
    rw [← hleader.mp hrole] at hflight
    exact hflight
  refine finishSingleFlight_avoids (fun c hc => .inr ⟨(hleads c hc).1, (hleads c hc).2,
    hflight c hc⟩) fun c hc => ?_
  -- while the followers are delivered to, the audit log only grows
  refine foldlM_avoids (fun rest s => db.flight.events ⊆ s.flight.events ∧ ∀ w ∈ rest,
    w ∈ waitingConsumers { db with ledger := ledger } c.requestFingerprint) ?_
    ⟨List.Subset.refl _, fun _ h => h⟩
  rintro w rest s ⟨hevents, hall⟩
  refine ⟨deliverResult_avoids (he.ne rfl) (.inr ?_) (fun _ _ => .inl hne), fun s' hs' => ⟨?_,
    fun other hother => hall other (List.mem_cons_of_mem _ hother)⟩⟩
  · -- the follower joined this flight, and its event is in the log
    obtain ⟨d, request, hd, hf, hactive, hrequest, hrole, hw⟩ :=
      mem_waitingConsumers.mp (hall w List.mem_cons_self)
    obtain ⟨⟨old, hold, holdf⟩, hjoined⟩ := hsound.known w.logicalRequestId d hd
    obtain ⟨request', hrequest', hsame⟩ := hclosing.requests_kept hold
    obtain rfl := Option.some.inj (hrequest.symm.trans hrequest')
    obtain ⟨event, hmem, hid, hjoin⟩ := hjoined.mono hevents
    obtain ⟨leader, -, hactive', -, -, hleader⟩ := hsound.flying w.logicalRequestId d hd hactive
    rw [hf, show db.admissions.flights.get? c.requestFingerprint = _ from hflight c hc,
      Option.some.injEq, SingleFlightRow.mk.injEq] at hactive'
    refine ⟨hw.trans (hsame.trans (holdf.trans hf)), List.any_eq_true.mpr ⟨event, hmem, ?_⟩, ?_⟩
    · rw [Bool.and_eq_true, decide_eq_true_eq]
      exact ⟨hid, hjoin⟩
    · rw [hrole, hactive'.1]
      exact hleader
  · obtain ⟨-, -, -, delivered, -, rfl⟩ := deliverResult_eq_ok hs'
    exact List.Subset.trans hevents (List.subset_append_left _ _)

theorem Reconciling.audited {repairs : Repairs} {flight : OpenFlight} {rest : List OpenFlight}
    {now : DateTime} (h : Reconciling repairs (flight :: rest) db) :
    Avoids (.storage e) (reconcileFlight now db flight) := by
  obtain ⟨⟨f, hflight⟩, hstate, hconsumer⟩ := h.shown flight List.mem_cons_self
  obtain ⟨c, hc, -, hactive, hrole⟩ := h.flights.leader_row hflight
  obtain ⟨⟨request, hrequest, -⟩, -⟩ := h.flights.known _ c hc
  rw [show db.flight.consumers.get? _ = _ from hc, Option.map_some, hrole, hactive] at hconsumer
  rw [show db.ledger.requests.get? _ = _ from hrequest, Option.map_some] at hstate
  have hanswered := h.ledger.answered _ request hrequest
  refine he.reconcileFlight (.inr ⟨hconsumer, by rw [hstate]; exact Option.some_ne_none _⟩) (.inr ?_) ?_
  · unfold readLogicalResult
    cases hresult : db.ledger.results.get? flight.leaderLogicalRequestId with
    | none =>
      -- without a result the request is queued
      refine ⟨none, rfl, fun _ => ?_, fun _ h => absurd h.symm (Option.some_ne_none _)⟩
      rw [hresult, Option.map_none] at hanswered
      split at hanswered
      · rename_i hqueued
        rw [hstate, hqueued]
      · cases hanswered
    | some row =>
      simp only [dif_pos (h.ledger.valid _ row hresult)]
      refine ⟨_, rfl, fun h => absurd h (Option.some_ne_none _), fun r hr => ?_⟩
      rw [hresult, Option.map_some] at hanswered
      split at hanswered
      · cases hanswered
      · obtain rfl := Option.some.inj hr
        rw [hstate, ← Option.some.inj hanswered]
  · intro r hread
    obtain ⟨hid, -⟩ := readLogicalResult_eq_some hread
    have hsame : db.ledger.Closing (fun _ => False) r.row db.ledger := .refl _ r.valid
    refine finishSingleFlight_audited he hne h.flights hsame fun d hd => ?_
    rw [hid] at hd
    obtain rfl := Option.some.inj (hc.symm.trans hd)
    exact ⟨hrole, hactive⟩

theorem reconcileTerminalFlights_audited {repairs : Repairs} {fingerprint : Option Sha256Hex}
    {now : DateTime} (h : Reconciling repairs (openFlights db fingerprint) db) :
    Avoids (.storage e) (reconcileTerminalFlights now fingerprint db) :=
  foldlM_avoids (Reconciling repairs)
    (fun _ _ _ h => ⟨h.audited he hne, fun _ hstep => h.step hstep⟩) h

end

/-! ## The invariant -/

/-- What holds of the flights of every database. -/
structure Database.Flown (db : Database) : Prop where
  ledger : db.ledger.Sound
  flights : db.admissions.Sound fun _ => False
  followers : db.FollowersIdle

theorem Database.initial_flown : Database.initial.Flown :=
  ⟨.empty, Database.initial_sound _, Database.initial_followersIdle⟩

theorem admissionSteps_sound {repairs : Repairs} {a a' : Admissions} (hledger : a.ledger.Sound)
    (hsound : a.Sound repairs.closable) (hsteps : ReflTransGen (AdmissionStep repairs) a a') :
    a'.ledger.Sound ∧ a'.Sound repairs.closable := by
  refine ⟨?_, hsound.steps hsteps⟩
  induction hsteps with
  | refl => exact hledger
  | tail _ hstep ih => exact hstep.ledger_sound ih

/-- A leader of an active flight is to be answered. -/
theorem Admissions.Sound.open_leader {a : Admissions} (hsound : a.Sound fun _ => False)
    {f : Sha256Hex} {leader : Identifier} (hflight : a.flights.get? f = some ⟨leader, .active⟩) :
    a.ledger.Open leader := by
  obtain ⟨c, hc, -, hactive, -⟩ := hsound.leader_row hflight
  exact (hsound.open_ leader c hc hactive).resolve_right nofun

/-- What the recovery of `db` may repair. -/
def Database.repairs (db : Database) : Repairs :=
  ⟨Unreserved db.attempts, Unattempted db.attempts⟩

section

variable {op : Operation} {db db' : Database} (h : db.Flown)

include h

theorem RecoveryRepairs.reconciling {repaired : Database} {now : DateTime} {row : RuntimeLeaseRow}
    (hrepairs : RecoveryRepairs db now row repaired) :
    Reconciling db.repairs (openFlights repaired none) repaired := by
  obtain ⟨hledger, hflights⟩ := admissionSteps_sound h.ledger
    (show db.admissions.Sound db.repairs.closable from h.flights.mono fun _ h => h.elim)
    (recoveryRepairs_steps (fun _ h => h) (fun _ h => h) hrepairs)
  exact .start hledger hflights none (.inl rfl)

/-- After the walk nobody waits for a request that the recovery closed: its leader would
have been finished, and a follower has no attempt to close it for. -/
theorem RecoveryRepairs.recovered {repaired : Database} {now : DateTime} {row : RuntimeLeaseRow}
    (hrepairs : RecoveryRepairs db now row repaired)
    (hrun : reconcileTerminalFlights now none repaired = .ok db') :
    db'.ledger.Sound ∧ db'.admissions.Sound fun _ => False := by
  have hdone := (hrepairs.reconciling h).run hrun
  refine ⟨hdone.ledger, { hdone.flights with open_ := fun id c hc hactive => .inl ?_ }⟩
  obtain ⟨leader, lc, hflight, -, -, hrole⟩ := hdone.flights.flying id c hc hactive
  cases hrole' : c.role with
  | leader =>
    rw [hrole.mp hrole']
    exact (hdone.answered _ leader hflight).resolve_right nofun
  | follower =>
    refine (hdone.flights.open_ id c hc hactive).resolve_right ?_
    rintro ⟨attemptId, attempt, hattempt, rfl, -⟩
    have hstay := hrepairs.followers.trans (reconcileTerminalFlights_followers hrun)
    exact h.followers.idle attemptId attempt hattempt
      (hstay.follows _ (Database.follows_iff.mpr ⟨c, hc, hactive, hrole'⟩))

/-- An admission reconciles its own flight. -/
theorem Database.Flown.recorded {request : ProductionLogicalRequest}
    {cachePolicy : ProductionCachePolicy} {now : DateTime} {ledger : LedgerTables}
    (hqueued : request.state = .queued)
    (hledger : insertLogicalRequest request db.ledger = .ok ledger) :
    Reconciling .none (openFlights (recordedRequest request cachePolicy now ledger db)
      (some request.requestFingerprint)) (recordedRequest request cachePolicy now ledger db) := by
  obtain ⟨hfresh, rfl⟩ := insertLogicalRequest_eq_ok.mp hledger
  have hsteps : ReflTransGen (AdmissionStep .none) db.admissions (recordedRequest request
      cachePolicy now { db.ledger with
        requests := db.ledger.requests.insert request.logicalRequestId
          request.toLogicalRequestRow } db).admissions :=
    .head (.submit hfresh hqueued)
      (.single (.audit (fun _ => .stay _) (List.subset_append_left _ _)))
  obtain ⟨hledger', hflights⟩ := admissionSteps_sound h.ledger h.flights hsteps
  exact .start hledger' hflights _ (.inr fun _ _ hflight => hflights.open_leader hflight)

theorem Database.Flown.next (hqueued : op.SubmitsQueued) (hspares : op.SparesFollowers db) :
    (op.next db).Flown := by
  have hfollowers := h.followers.next hspares
  have hmove := op.transition db
  generalize op.next db = db' at hmove hfollowers ⊢
  have hsound : db'.ledger.Sound ∧ db'.admissions.Sound fun _ => False := by
    by_cases hlicensed : op.Licensed .none db
    · have hsteps := hmove.admission_steps hqueued hlicensed h.flights
      exact admissionSteps_sound h.ledger h.flights hsteps
    · cases hmove with
      | unchanged => exact ⟨h.ledger, h.flights⟩
      | recover _ hrepairs hreconcile =>
        have hrecovered := hrepairs.recovered h hreconcile
        exact ⟨hrecovered.1, hrecovered.2⟩
      | publish => exact ⟨h.ledger, h.flights⟩
      | finish => exact ⟨h.ledger, h.flights⟩
      | close hop => exact absurd (by cases hop <;> trivial) hlicensed
      | _ => exact absurd trivial hlicensed
  exact ⟨hsound.1, hsound.2, hfollowers⟩

end

/-- The runs of the theorem below: requests are submitted queued, and attempts are not
reserved for active followers. The second says nothing about admissions, cancellations,
claims, exchanges, results and leases. -/
def Operation.InFlight (op : Operation) (db : Database) : Prop :=
  op.SubmitsQueued ∧ op.SparesFollowers db

instance (op : Operation) (db : Database) : Decidable (op.InFlight db) :=
  inferInstanceAs (Decidable (_ ∧ _))

theorem Reachable.flown {db : Database} (hrun : Reachable (fun op db => op.InFlight db) db) :
    db.Flown :=
  Reaches.invariant Database.Flown (fun _ _ hop h => h.next hop.1 hop.2) Database.initial_flown hrun

/-! ## The theorem -/

/-- Nobody waits for a leader where there is none. -/
theorem Admissions.Sound.nobody_waits {closable : Identifier → Prop} {db : Database}
    (hsound : db.admissions.Sound closable) {fingerprint : Sha256Hex}
    (hleader : activeLeader db.flight fingerprint = none) :
    db.flight.activeConsumers fingerprint = [] := by
  refine List.eq_nil_iff_forall_not_mem.mpr ?_
  rintro ⟨id, c⟩ hmem
  obtain ⟨hc, hf, hactive⟩ := mem_activeConsumers.mp hmem
  obtain ⟨leader, lc, hflight, hlc, -⟩ := hsound.flying id c hc hactive
  rw [hf, show db.admissions.flights.get? fingerprint = db.flight.flights.get? fingerprint from rfl]
    at hflight
  rw [show db.admissions.consumers.get? leader = db.flight.consumers.get? leader from rfl] at hlc
  rw [activeLeader, hflight, Option.filter_some, if_pos (by rfl), Option.bind_some, hlc] at hleader
  cases hleader

/-- No call finds the flights in disorder. -/
theorem Database.Flown.run {db : Database} (h : db.Flown) {op : Operation}
    (hqueued : op.SubmitsQueued) {e : RuntimeStorageError} (he : FlightFault e)
    (hne : RuntimeStorageError.singleFlightFollowerHasAttempt ≠ e) :
    (op.run db).1 ≠ .error (.storage e) := by
  cases op with
  | admitLogicalRequest request rateDomain cachePolicy lease now queuePolicy =>
    refine discardValue_ne_error (he.admitLogicalRequest (fun ledger hledger => ?_)
      fun ledger reconciled hledger hreconcile hleader => .inr ?_)
    · exact reconcileTerminalFlights_audited he hne (h.recorded hqueued hledger)
    · exact ((h.recorded hqueued hledger).run hreconcile).flights.nobody_waits hleader
  | cancelAdmittedRequest id reason lease now =>
    refine discardValue_ne_error (he.cancelAdmittedRequest (.inr fun c hc hactive hrole => ?_))
    obtain ⟨leader, -, hflight, -⟩ := h.flights.flying id c hc hactive
    rw [show db.flight.flights.get? c.requestFingerprint = _ from hflight]
    exact nofun
  | completeLogicalRequest result lease now =>
    exact he.completeLogicalRequest fun ledger hleads hledger =>
      finishSingleFlight_audited he hne h.flights (persistLogicalResult_closing hledger).2 hleads
  | finalizeLogicalRequest result lease now =>
    exact he.finalizeLogicalRequest fun ledger hleads hledger =>
      finishSingleFlight_audited he hne h.flights (persistLogicalResult_closing hledger).2 hleads
  | acquireLease ownerToken now policy =>
    refine discardValue_ne_error (he.acquireLease fun row => ?_)
    -- the new lease row is not looked at
    have hledger : { db with lease := some row }.ledger.Sound := h.ledger
    have hflights : { db with lease := some row }.admissions.Sound Repairs.none.closable :=
      h.flights
    exact reconcileTerminalFlights_audited he hne (.start hledger hflights none (.inl rfl))
  | recoverExpiredLease ownerToken now policy =>
    refine discardValue_ne_error (he.recoverExpiredLease fun row repaired hrepairs => ?_)
    exact reconcileTerminalFlights_audited he hne (hrepairs.reconciling h)
  | _ => exact he.other_calls rfl db

/-- **Every flight has a live leader.** In every reachable database an active flight has
exactly one active leader, whose request is queued without a result and whose queue entry is
queued or dequeued; the active consumers of its fingerprint share the rate domain of the
leader and their requests are queued. A fingerprint without an active flight has no active
consumer. So a consumer that was not cancelled has the result of its owner, or leads a
flight, or waits for a live leader; and no call reports a broken flight. -/
theorem live_flights {db : Database} (hrun : Reachable (fun op db => op.InFlight db) db) :
    (∀ f leader, db.flight.flights.get? f = some ⟨leader, .active⟩ →
      ∃ c request entry, db.flight.consumers.get? leader = some c ∧ c.requestFingerprint = f ∧
        c.state = .active ∧ c.role = .leader ∧ db.ledger.requests.get? leader = some request ∧
        request.state = .queued ∧ db.ledger.results.get? leader = none ∧
        db.queue.entries.get? leader = some entry ∧
        (entry.state = .queued ∨ entry.state = .dequeued) ∧
        ∀ id d, db.flight.consumers.get? id = some d → d.requestFingerprint = f →
          d.state = .active → (d.role = .leader ↔ id = leader) ∧ d.rateDomain = c.rateDomain ∧
            (db.ledger.requests.get? id).map (·.state) = some .queued) ∧
    (∀ f, (∀ leader, db.flight.flights.get? f ≠ some ⟨leader, .active⟩) →
      ∀ id c, db.flight.consumers.get? id = some c → c.requestFingerprint = f →
        c.state ≠ .active) ∧
    (∀ id c, db.flight.consumers.get? id = some c → c.state ≠ .cancelled →
      (∃ owner, c.state = .completed ∧ c.resultOwnerId = some owner ∧
        db.ledger.results.get? id ≠ none ∧
        db.ledger.results.get? id = db.ledger.results.get? owner) ∨
      ∃ leader, c.state = .active ∧
        db.flight.flights.get? c.requestFingerprint = some ⟨leader, .active⟩ ∧
        (c.role = .leader ↔ id = leader)) ∧
    ∀ op : Operation, op.SubmitsQueued →
      (op.run db).1 ≠ .error (.storage .singleFlightStateInconsistent) ∧
      (op.run db).1 ≠ .error (.storage .singleFlightAuditGap) := by
  have h := hrun.flown
  have hopen : ∀ id c, db.flight.consumers.get? id = some c → c.state = .active →
      db.ledger.Open id := by
    intro id c hc hactive
    exact (h.flights.open_ id c hc hactive).resolve_right nofun
  refine ⟨?_, ?_, ?_, fun op hqueued =>
    ⟨h.run hqueued .stateInconsistent nofun, h.run hqueued .auditGap nofun⟩⟩
  · -- an active flight: its leader, the leader's entry, the consumers beside it
    intro f leader hflight
    obtain ⟨c, hc, hf, hactive, hrole⟩ := h.flights.leader_row hflight
    obtain ⟨request, hrequest, hqueued⟩ := Option.map_eq_some_iff.mp (hopen leader c hc hactive)
    obtain ⟨entry, hentry, hopen'⟩ := (Option.any_eq_true ..).mp (h.flights.leads f leader hflight).2
    refine ⟨c, request, entry, hc, hf, hactive, hrole, hrequest, hqueued,
      (h.ledger.open_iff hrequest).mp (hopen leader c hc hactive), hentry, ?_, ?_⟩
    · cases hstate : entry.state with
      | queued => exact .inl rfl
      | dequeued => exact .inr rfl
      | rejected | cancelled =>
        rw [hstate] at hopen'
        cases hopen'
    · intro id d hd hdf hwaits
      obtain ⟨leader', lc, hflight', hlc, hdomain, hleads⟩ := h.flights.flying id d hd hwaits
      rw [hdf, show db.admissions.flights.get? f = _ from hflight, Option.some.injEq,
        SingleFlightRow.mk.injEq] at hflight'
      obtain ⟨rfl, -⟩ := hflight'
      obtain rfl := Option.some.inj (hc.symm.trans hlc)
      exact ⟨hleads, hdomain, hopen id d hd hwaits⟩
  · -- no active flight, so no active consumer
    intro f hidle id c hc hf hactive
    obtain ⟨leader, _, hflight, -⟩ := h.flights.flying id c hc hactive
    rw [hf] at hflight
    exact hidle leader hflight
  · -- a consumer is cancelled, waits for its leader, or has the result of its owner
    intro id c hc hkept
    cases hstate : c.state with
    | cancelled => exact absurd hstate hkept
    | active =>
      obtain ⟨leader, _, hflight, -, -, hleads⟩ := h.flights.flying id c hc hstate
      exact .inr ⟨leader, rfl, hflight, hleads⟩
    | completed =>
      have hshared := (reachable_answered (hrun.mono fun _ _ hop => hop.1)).shared
      obtain ⟨owner, _, result, howner, -, -, -, -, -, hresult, hresult'⟩ :=
        hshared.completed id c hc hstate
      refine .inl ⟨owner, rfl, howner, ?_, hresult.trans hresult'.symm⟩
      rw [show db.ledger.results.get? id = _ from hresult]
      exact nofun

/-- The second request of the sample run follows the first, which is in line. -/
theorem live_flights_sample :
    ∃ c request entry,
      let db := runAll Operation.next Sample.followedRequest .initial
      db.flight.consumers.get? Sample.request.logicalRequestId = some c ∧
        c.requestFingerprint = Sample.request.requestFingerprint ∧ c.state = .active ∧
        c.role = .leader ∧
        db.ledger.requests.get? Sample.request.logicalRequestId = some request ∧
        request.state = .queued ∧
        db.ledger.results.get? Sample.request.logicalRequestId = none ∧
        db.queue.entries.get? Sample.request.logicalRequestId = some entry ∧
        (entry.state = .queued ∨ entry.state = .dequeued) ∧
        ∀ id d, db.flight.consumers.get? id = some d →
          d.requestFingerprint = Sample.request.requestFingerprint → d.state = .active →
          (d.role = .leader ↔ id = Sample.request.logicalRequestId) ∧
            d.rateDomain = c.rateDomain ∧
            (db.ledger.requests.get? id).map (·.state) = some .queued :=
  (live_flights (Reaches.runAll (by decide +kernel))).1 Sample.request.requestFingerprint
    Sample.request.logicalRequestId (by decide +kernel)

end StockResearch.Requests
