import StockResearch.Requests.RecoverableAttempts

/-!
# When an expired lease is recovered

A recovery audits the attempts, closes the requests of the owner that stopped, and answers
their flights. Each of these can fail, and then no owner gets past the expired lease. In a
database of the repository two things make it fail: an attempt in flight of a request that was
closed, and the leader of an active flight with an attempt in flight and one still reserved.

- `Bears`: attempts that agree with the result of an owner that stopped.
- `Answering`: the state of a walk over the flights that succeeds.
- `recovery_exact`: when a recovery succeeds, and what it leaves behind.
-/

namespace StockResearch.Requests

open Relation (ReflTransGen)

/-! ## The audit -/

section

variable {db : Database} (h : db.Sane)

include h

/-- The audit passes exactly when every attempt in flight belongs to an open request. -/
theorem Database.Sane.audit_iff {row : RuntimeLeaseRow} (hrow : db.lease = some row) :
    validateRecoveryState db row.generation = .ok () ↔
      ∀ id attempt, db.attempts.get? id = some attempt → attempt.state = .started →
        db.ledger.Open attempt.logicalRequestId := by
  simp only [validateRecoveryState, bind_eq_ok, require_eq_ok, Table.select_eq_nil_iff]
  constructor
  · -- a started attempt of a closed request is a gap
    rintro ⟨-, -, hgaps⟩ id attempt hattempt hstarted
    obtain ⟨request, hrequest⟩ :=
      Option.ne_none_iff_exists'.mp (h.flown.followers.requested id attempt hattempt)
    refine Option.map_eq_some_iff.mpr ⟨request, hrequest, ?_⟩
    have hgap := hgaps id attempt hattempt
    simp only [auditGap, hrequest, hstarted, Bool.or_eq_false_iff, Bool.and_eq_false_imp,
      decide_eq_true_eq, decide_eq_false_iff_not, not_not, forall_const] at hgap
    exact hgap.1.1.1
  · intro hopen
    refine ⟨(), fun id attempt hattempt => ?_, fun id attempt hattempt => ?_⟩
    · -- no attempt is of a later generation
      obtain ⟨row', hrow', hle⟩ := h.recoverable.granted id attempt hattempt
      obtain rfl := Option.some.inj (hrow.symm.trans hrow')
      exact decide_eq_false (Nat.not_lt.mpr hle)
    · -- no attempt is a gap, by its state
      obtain ⟨request, hrequest⟩ :=
        Option.ne_none_iff_exists'.mp (h.flown.followers.requested id attempt hattempt)
      have hiff : request.state = .queued ↔
          db.ledger.results.get? attempt.logicalRequestId = none := by
        rw [← h.flown.ledger.open_iff hrequest, LedgerTables.Open, hrequest]
        simp
      have hstarted : attempt.state = .started → request.state = .queued := by
        intro hstate
        have hqueued := hopen id attempt hattempt hstate
        rw [LedgerTables.Open, hrequest] at hqueued
        simpa using hqueued
      have hreleased : attempt.state.isActive = false → request.state = .queued →
          (db.gates.reservations.select fun _ row =>
            row.physicalAttemptId = id && row.state = .released) ≠ [] := by
        intro hterminal hqueued
        rcases h.recoverable.released id attempt hattempt hterminal with
          ⟨reservationId, reservation, hget, hid, hstate⟩ | hclosed
        · refine List.ne_nil_of_mem (a := (reservationId, reservation)) (Table.mem_select.mpr
            ⟨hget, ?_⟩)
          simp [hid, hstate]
        · exact absurd (Option.map_eq_some_iff.mpr ⟨request, hrequest, hqueued⟩) hclosed
      simp only [auditGap, hrequest]
      cases hstate : attempt.state with
      | reserved => simp [PhysicalAttemptState.isActive]
      | started =>
        have hqueued := hstarted hstate
        simp [PhysicalAttemptState.isActive, hqueued, hiff.mp hqueued]
      | succeeded | failed | unknown =>
        have hgiven := hreleased (by rw [hstate]; rfl)
        by_cases hqueued : request.state = .queued
        · simpa [PhysicalAttemptState.isActive, hqueued] using hgiven hqueued
        · have hsome := Option.ne_none_iff_isSome.mp fun hnone => hqueued (hiff.mpr hnone)
          simp [PhysicalAttemptState.isActive, hqueued, hsome]

end

/-! ## The closing loops -/

section

variable {ledger : LedgerTables} {now : DateTime}

/-- Open requests can be closed one after the other. -/
theorem foldlM_closes_succeeds {ι : Type} {f : LedgerTables → ι → Except Exn LedgerTables}
    (key : ι → Identifier)
    (hf : ∀ {mid : LedgerTables} {x : ι}, mid.Sound → mid.Open (key x) →
      ∃ next result, f mid x = .ok next ∧ mid.Closing (· = key x) result next)
    {xs : List ι} (hsound : ledger.Sound) (hnodup : (xs.map key).Nodup)
    (hopen : ∀ x ∈ xs, ledger.Open (key x)) : ∃ ledger', xs.foldlM f ledger = .ok ledger' := by
  have hrun := foldlM_succeeds (f := f) (fun rest (mid : LedgerTables) =>
    mid.Sound ∧ (rest.map key).Nodup ∧ ∀ x ∈ rest, mid.Open (key x)) ?_ ⟨hsound, hnodup, hopen⟩
  · exact ⟨_, hrun.choose_spec.1⟩
  · rintro x rest mid ⟨hmid, hnodup, hopen⟩
    obtain ⟨next, result, hnext, hclosing⟩ := hf hmid (hopen x List.mem_cons_self)
    rw [List.map_cons, List.nodup_cons] at hnodup
    refine ⟨next, hnext, hmid.closing hclosing, hnodup.2, fun y hy => ?_⟩
    have hne : key y ≠ key x := fun heq => hnodup.1 (heq ▸ List.mem_map_of_mem hy)
    exact (hclosing.open_iff hne).mpr (hopen y (List.mem_cons_of_mem _ hy))

theorem closeStarted_succeeds {ids : List Identifier} (hsound : ledger.Sound) (hnodup : ids.Nodup)
    (hopen : ∀ id ∈ ids, ledger.Open id) :
    ∃ ledger', ids.foldlM (closeStarted now) ledger = .ok ledger' := by
  refine foldlM_closes_succeeds id (fun {mid x} hmid hx => ?_) hsound
    (by rwa [List.map_id]) hopen
  obtain ⟨row, hrow, -⟩ := Option.map_eq_some_iff.mp hx
  have hnone := (hmid.open_iff hrow).mp hx
  have hclose : closeStarted now mid x = .ok _ :=
    bind_eq_ok.mpr ⟨(), require_eq_ok.mpr hx, bind_eq_ok.mpr ⟨_, insertRow_eq_ok.mpr ⟨hnone, rfl⟩,
      rfl⟩⟩
  obtain ⟨result, hclosing⟩ := closeStarted_closing hclose
  exact ⟨_, result, hclose, hclosing⟩

theorem closeInterrupted_succeeds {entries : List (Identifier × Bool)} (hsound : ledger.Sound)
    (hnodup : (entries.map Prod.fst).Nodup) (hopen : ∀ entry ∈ entries, ledger.Open entry.1) :
    ∃ ledger', entries.foldlM (closeInterrupted now) ledger = .ok ledger' := by
  refine foldlM_closes_succeeds Prod.fst (fun {mid x} hmid hx => ?_) hsound hnodup hopen
  obtain ⟨row, hrow, -⟩ := Option.map_eq_some_iff.mp hx
  have hnone := (hmid.open_iff hrow).mp hx
  have hclose : closeInterrupted now mid x = .ok _ :=
    bind_eq_ok.mpr ⟨_, insertRow_eq_ok.mpr ⟨hnone, rfl⟩, rfl⟩
  obtain ⟨result, hclosing⟩ := closeInterrupted_closing (by rw [hrow]; exact Option.some_ne_none row) hclose
  exact ⟨_, result, hclose, hclosing⟩

end

/-! ## Deliveries that succeed -/

section

variable {db : Database} (now : DateTime)

/-- A result is delivered to the leader it belongs to, or to an open consumer for whom nothing
was tried. -/
theorem deliverResult_succeeds {result : ProductionLogicalResult} {fingerprint : Sha256Hex}
    {w : WaitingConsumer} (hledger : db.ledger.Sound)
    (hfingerprint : w.requestFingerprint = fingerprint)
    (hjoined : ∃ event ∈ db.flight.events, event.logicalRequestId = w.logicalRequestId ∧
      event.eventType.isJoin = true)
    (hrole : w.role = .leader ↔ w.logicalRequestId = result.logicalRequestId)
    (hother : w.logicalRequestId ≠ result.logicalRequestId →
      db.ledger.Open w.logicalRequestId ∧ Unattempted db.attempts w.logicalRequestId) :
    ∃ db', deliverResult result fingerprint now db w = .ok db' := by
  have hany : (db.flight.events.any fun event =>
      event.logicalRequestId = w.logicalRequestId && event.eventType.isJoin) = true := by
    obtain ⟨event, hevent, hid, hjoin⟩ := hjoined
    refine List.any_eq_true.mpr ⟨event, hevent, ?_⟩
    rw [Bool.and_eq_true, decide_eq_true_eq]
    exact ⟨hid, hjoin⟩
  by_cases hleader : w.logicalRequestId = result.logicalRequestId
  · -- the leader has the result already
    simp only [deliverResult, bind_eq_ok, require_eq_ok, pure_eq_ok, if_pos hleader]
    exact ⟨_, (), ⟨hfingerprint, hany, hrole⟩, _, rfl, rfl⟩
  · -- a follower is given a copy of it
    obtain ⟨hopen, hidle⟩ := hother hleader
    obtain ⟨request, hrequest, -⟩ := Option.map_eq_some_iff.mp hopen
    have hpersist : persistLogicalResult { result with logicalRequestId := w.logicalRequestId }
        db.ledger = .ok _ :=
      bind_eq_ok.mpr ⟨(), require_eq_ok.mpr hopen,
        bind_eq_ok.mpr ⟨_, insertRow_eq_ok.mpr ⟨(hledger.open_iff hrequest).mp hopen, rfl⟩, rfl⟩⟩
    have hempty : (db.attempts.select fun _ row =>
        row.logicalRequestId = w.logicalRequestId) = [] := by
      rw [Table.select_eq_nil_iff]
      exact fun attemptId row hrow => decide_eq_false (hidle attemptId row hrow)
    simp only [deliverResult, bind_eq_ok, require_eq_ok, pure_eq_ok, if_neg hleader]
    exact ⟨_, (), ⟨hfingerprint, hany, hrole⟩, (), hempty, _, hpersist, rfl⟩

/-- A flight is finished when its other consumers are open and never tried anything. -/
theorem finishSingleFlight_succeeds {closable : Identifier → Prop}
    {result : ProductionLogicalResult} {c : ConsumerRow} (hsound : db.admissions.Sound closable)
    (hledger : db.ledger.Sound) (hc : db.flight.consumers.get? result.logicalRequestId = some c)
    (hrole : c.role = .leader) (hactive : c.state = .active)
    (hothers : ∀ id d, db.flight.consumers.get? id = some d → d.state = .active →
      d.role = .follower → db.ledger.Open id ∧ Unattempted db.attempts id) :
    ∃ db', finishSingleFlight result now db = .ok db' := by
  have hflight : db.flight.flights.get? c.requestFingerprint =
      some ⟨result.logicalRequestId, .active⟩ := by
    obtain ⟨leader, -, hflight, -, -, hleads⟩ := hsound.flying _ c hc hactive
    rw [← hleads.mp hrole] at hflight
    exact hflight
  have hfollows : ∀ w ∈ waitingConsumers db c.requestFingerprint,
      w.requestFingerprint = c.requestFingerprint ∧
        (∃ event ∈ db.flight.events, event.logicalRequestId = w.logicalRequestId ∧
          event.eventType.isJoin = true) ∧
        (w.role = .leader ↔ w.logicalRequestId = result.logicalRequestId) ∧
        (w.logicalRequestId ≠ result.logicalRequestId →
          db.ledger.Open w.logicalRequestId ∧ Unattempted db.attempts w.logicalRequestId) := by
    intro w hw
    obtain ⟨d, request, hd, hf, hwaits, hrequest, hwrole, hwf⟩ := mem_waitingConsumers.mp hw
    obtain ⟨⟨old, hold, holdf⟩, hjoined⟩ := hsound.known w.logicalRequestId d hd
    obtain rfl := Option.some.inj (hrequest.symm.trans hold)
    obtain ⟨leader, -, hflight', -, -, hleads⟩ := hsound.flying w.logicalRequestId d hd hwaits
    rw [hf, show db.admissions.flights.get? c.requestFingerprint = _ from hflight,
      Option.some.injEq, SingleFlightRow.mk.injEq] at hflight'
    rw [← hflight'.1] at hleads
    refine ⟨hwf.trans (holdf.trans hf), hjoined, hwrole ▸ hleads, fun hne => ?_⟩
    refine hothers _ d hd hwaits ?_
    cases hdrole : d.role with
    | leader => exact absurd (hleads.mp hdrole) hne
    | follower => rfl
  obtain ⟨hnodup, -⟩ := waitingConsumers_ids db c.requestFingerprint
  -- the consumers still to come are open, and nothing was tried for them
  have hfold := foldlM_succeeds (f := deliverResult result c.requestFingerprint now)
    (fun rest (mid : Database) => mid.ledger.Sound ∧ mid.attempts = db.attempts ∧
      db.flight.events ⊆ mid.flight.events ∧ (rest.map (·.logicalRequestId)).Nodup ∧
      ∀ w ∈ rest, w ∈ waitingConsumers db c.requestFingerprint ∧
        (w.logicalRequestId ≠ result.logicalRequestId → mid.ledger.Open w.logicalRequestId)) ?_
    ⟨hledger, rfl, List.Subset.refl _, hnodup, fun w hw => ⟨hw, fun hne =>
      ((hfollows w hw).2.2.2 hne).1⟩⟩
  · obtain ⟨delivered, hdelivered, -⟩ := hfold
    refine ⟨{ delivered with
      flight := delivered.flight.terminate c.requestFingerprint
      queue.entries := delivered.queue.entries.updateWhere
        (fun id row => id = result.logicalRequestId && row.state = .queued)
        fun row => { row with state := .cancelled } }, ?_⟩
    unfold finishSingleFlight
    simp only [hc]
    refine bind_eq_ok.mpr ⟨(), require_eq_ok.mpr ⟨hrole, hactive, hflight⟩, ?_⟩
    exact bind_eq_ok.mpr ⟨delivered, hdelivered, rfl⟩
  · rintro w rest mid ⟨hmid, hattempts, hevents, hnodup, hall⟩
    obtain ⟨hw, hopen⟩ := hall w List.mem_cons_self
    obtain ⟨hwf, ⟨event, hevent, hjoin⟩, hleads, hidle⟩ := hfollows w hw
    rw [List.map_cons, List.nodup_cons] at hnodup
    obtain ⟨next, hnext⟩ := deliverResult_succeeds now hmid hwf
      ⟨event, hevents hevent, hjoin⟩ hleads fun hne => ⟨hopen hne, hattempts ▸ (hidle hne).2⟩
    refine ⟨next, hnext, ?_⟩
    obtain ⟨-, -, -, ledger, hstored, rfl⟩ := deliverResult_eq_ok hnext
    have hlater : ledger.Sound ∧ ∀ id, id ≠ w.logicalRequestId → mid.ledger.Open id →
        ledger.Open id := by
      rcases hstored with ⟨-, rfl⟩ | ⟨-, -, hpersist⟩
      · exact ⟨hmid, fun _ _ hopen => hopen⟩
      · have hclosing := (persistLogicalResult_closing hpersist).2
        exact ⟨hmid.closing hclosing, fun id hne hopen => (hclosing.open_iff hne).mpr hopen⟩
    refine ⟨hlater.1, hattempts, List.Subset.trans hevents (List.subset_append_left _ _), hnodup.2,
      fun other hother => ?_⟩
    obtain ⟨hmem, hother'⟩ := hall other (List.mem_cons_of_mem _ hother)
    refine ⟨hmem, fun hne => hlater.2 _ ?_ (hother' hne)⟩
    intro heq
    exact hnodup.1 (List.mem_map.mpr ⟨other, hother, heq⟩)

end

/-! ## The walk that succeeds -/

theorem mem_attemptStates {attempts : AttemptTable} {id : Identifier}
    {state : PhysicalAttemptState} : state ∈ attemptStates attempts id ↔
      ∃ attemptId row, attempts.get? attemptId = some row ∧ row.logicalRequestId = id ∧
        row.state = state := by
  simp only [attemptStates, List.mem_map, mem_orderBy, Prod.exists, Table.mem_select,
    decide_eq_true_eq, and_assoc]

/-- The attempts of a request bear the result of an owner that stopped. -/
structure Bears (attempts : AttemptTable) (id : Identifier) (outcome : LogicalResultOutcome) :
    Prop where
  attempted : ¬ Unattempted attempts id
  terminal : ∀ attemptId row, attempts.get? attemptId = some row → row.logicalRequestId = id →
    row.state.isActive = false
  failed : outcome ≠ .succeeded
  unknown : outcome = .unknown → ∃ attemptId row, attempts.get? attemptId = some row ∧
    row.logicalRequestId = id ∧ row.state = .unknown

theorem Bears.valid {attempts : AttemptTable} {result : ProductionLogicalResult}
    (h : Bears attempts result.logicalRequestId result.outcome) :
    validateAttemptOutcome attempts result = .ok () := by
  simp only [validateAttemptOutcome, bind_eq_ok, require_eq_ok]
  refine ⟨(), ?_, (), fun hsucceeded => absurd hsucceeded h.failed, fun hunknown =>
    mem_attemptStates.mpr (h.unknown hunknown)⟩
  intro state hstate
  obtain ⟨attemptId, row, hrow, hid, rfl⟩ := mem_attemptStates.mp hstate
  exact h.terminal attemptId row hrow hid

/-- The results of requests outside a flight are not touched when it is finished. -/
theorem finishSingleFlight_results {result : ProductionLogicalResult} {now : DateTime}
    {db db' : Database} {leader : ConsumerRow}
    (hleader : db.flight.consumers.get? result.logicalRequestId = some leader)
    (h : finishSingleFlight result now db = .ok db') {id : Identifier}
    (hid : ¬ db.admissions.Waiting leader.requestFingerprint id) :
    db'.ledger.results.get? id = db.ledger.results.get? id := by
  rcases finishSingleFlight_eq_ok h with
    ⟨hnone, -⟩ | ⟨leader', delivered, hleader', -, -, -, hfold, rfl⟩
  · rw [hnone] at hleader
    cases hleader
  · obtain rfl := Option.some.inj (hleader.symm.trans hleader')
    obtain ⟨hnodup, hids⟩ := waitingConsumers_ids db leader.requestFingerprint
    exact ((deliverAll_concluded hnodup hfold).ledger.keeps id fun hmem =>
      hid ((hids id).mp hmem.1)).2

/-- The walk succeeds as long as this holds. -/
structure Answering (repairs : Repairs) (attempts : AttemptTable) (rest : List OpenFlight)
    (db : Database) : Prop where
  walk : Reconciling repairs rest db
  tried : db.attempts = attempts
  idle : ∀ id, db.Follows id → Unattempted attempts id
  bears : ∀ f leader, db.flight.flights.get? f = some ⟨leader, .active⟩ →
    ∀ row, db.ledger.results.get? leader = some row → Bears attempts leader row.outcome

section

variable {repairs : Repairs} {attempts : AttemptTable} {db db' : Database} {now : DateTime}
  {flight : OpenFlight} {rest : List OpenFlight}

theorem Answering.step (h : Answering repairs attempts (flight :: rest) db)
    (hstep : reconcileFlight now db flight = .ok db') : Answering repairs attempts rest db' := by
  have hwalk := h.walk.step hstep
  obtain ⟨-, -, result, hread, ⟨-, -, rfl⟩ | ⟨r, rfl, -, -, hfinish⟩⟩ := reconcileFlight_eq_ok hstep
  · exact ⟨hwalk, h.tried, h.idle, h.bears⟩
  · obtain ⟨hid, -⟩ := readLogicalResult_eq_some hread
    obtain ⟨f₀, hflight₀⟩ := (h.walk.shown flight List.mem_cons_self).active
    obtain ⟨leaderRow, hleader, -⟩ := h.walk.flights.leader_row hflight₀
    rw [← hid] at hleader
    obtain ⟨-, hflights, -⟩ := finishSingleFlight_elsewhere hleader hfinish
    refine ⟨hwalk, (finishSingleFlight_frame hfinish).attempts.trans h.tried, fun id hfollows =>
      h.idle id ((finishSingleFlight_followers hfinish).follows id hfollows), ?_⟩
    intro f leader hactive row hrow
    rw [hflights] at hactive
    split at hactive
    · cases hactive
    · rename_i hne
      rw [finishSingleFlight_results hleader hfinish (h.walk.flights.leads_elsewhere hactive hne)]
        at hrow
      exact h.bears f leader hactive row hrow

theorem Answering.succeeds (h : Answering repairs attempts (flight :: rest) db)
    (hclosable : ∀ id, repairs.closable id → ¬ Unattempted attempts id) :
    ∃ db', reconcileFlight now db flight = .ok db' := by
  obtain ⟨⟨f, hflight⟩, hstate, hconsumer⟩ := h.walk.shown flight List.mem_cons_self
  obtain ⟨c, hc, -, hactive, hrole⟩ := h.walk.flights.leader_row hflight
  obtain ⟨⟨request, hrequest, -⟩, -⟩ := h.walk.flights.known _ c hc
  rw [show db.flight.consumers.get? _ = _ from hc, Option.map_some, hrole, hactive] at hconsumer
  rw [show db.ledger.requests.get? _ = _ from hrequest, Option.map_some] at hstate
  have hanswered := h.walk.ledger.answered _ request hrequest
  have hpresent : flight.consumer = some (.leader, .active) ∧ flight.requestState ≠ none :=
    ⟨hconsumer, by rw [hstate]; exact Option.some_ne_none _⟩
  cases hresult : db.ledger.results.get? flight.leaderLogicalRequestId with
  | none =>
    -- without a result the request is queued, and its flight stays
    have hqueued : request.state = .queued := by
      rw [hresult, Option.map_none] at hanswered
      by_contra hne
      rw [if_neg hne] at hanswered
      cases hanswered
    have hread : readLogicalResult .singleFlightAuditGap db.ledger flight.leaderLogicalRequestId =
        .ok none := by
      unfold readLogicalResult
      rw [hresult]
      rfl
    refine ⟨db, bind_eq_ok.mpr ⟨(), require_eq_ok.mpr hpresent, bind_eq_ok.mpr ⟨_, hread, ?_⟩⟩⟩
    rw [if_pos ⟨by rw [hstate, hqueued], rfl⟩]
    rfl
  | some row =>
    have hvalid := h.walk.ledger.valid _ row hresult
    let r : ProductionLogicalResult :=
      ⟨flight.leaderLogicalRequestId, row.outcome, row.completedAt, row.errorCode, hvalid⟩
    have hread : readLogicalResult .singleFlightAuditGap db.ledger flight.leaderLogicalRequestId =
        .ok (some r) := by
      unfold readLogicalResult
      simp only [hresult, dif_pos hvalid]
      rfl
    have hclosed : flight.requestState = some (resultState r.outcome) := by
      rw [hresult, Option.map_some] at hanswered
      by_cases hqueued : request.state = .queued
      · rw [if_pos hqueued] at hanswered
        cases hanswered
      · rw [if_neg hqueued] at hanswered
        rw [hstate, ← Option.some.inj hanswered]
    have hbears : validateAttemptOutcome db.attempts r = .ok () := by
      rw [h.tried]
      exact (h.bears f _ hflight row hresult).valid
    have hleader : db.flight.consumers.get? r.logicalRequestId = some c := hc
    obtain ⟨db', hfinish⟩ := finishSingleFlight_succeeds now h.walk.flights h.walk.ledger
      hleader hrole hactive fun id d hd hwaits hfollower => by
        have hidle := h.idle id (Database.follows_iff.mpr ⟨d, hd, hwaits, hfollower⟩)
        refine ⟨(h.walk.flights.open_ id d hd hwaits).resolve_right fun hclosable' =>
          hclosable id hclosable' hidle, ?_⟩
        rw [h.tried]
        exact hidle
    refine ⟨db', bind_eq_ok.mpr ⟨(), require_eq_ok.mpr hpresent, bind_eq_ok.mpr ⟨_, hread, ?_⟩⟩⟩
    rw [if_neg fun hnone => Option.some_ne_none _ hnone.2]
    exact bind_eq_ok.mpr ⟨r, rfl, bind_eq_ok.mpr ⟨(), require_eq_ok.mpr hclosed,
      bind_eq_ok.mpr ⟨(), hbears, hfinish⟩⟩⟩

end

/-! ## The repaired database -/

section

variable {generation : Nat} {attempts : AttemptTable} {id : Identifier} {row : PhysicalAttemptRow}

/-- An attempt in flight becomes unknown. -/
theorem transferAttempts_started (hrow : attempts.get? id = some row)
    (hstate : row.state = .started) (hle : row.leaseGeneration ≤ generation) :
    (transferAttempts generation attempts).get? id = some { row with state := .unknown } := by
  simp [transferAttempts, Table.get?_updateWhere, hrow, hstate, hle]

theorem transferAttempts_terminal (hrow : attempts.get? id = some row)
    (hterminal : row.state.isActive = false) :
    (transferAttempts generation attempts).get? id = some row := by
  cases hstate : row.state with
  | reserved | started =>
    rw [hstate] at hterminal
    cases hterminal
  | succeeded | failed | unknown =>
    simp [transferAttempts, Table.get?_updateWhere, hrow, hstate]

/-- Only a reserved attempt is live after the transfer. -/
theorem transferAttempts_live (hrow : (transferAttempts generation attempts).get? id = some row)
    (hlive : row.state.isActive = true)
    (hle : ∀ old, attempts.get? id = some old → old.leaseGeneration ≤ generation) :
    ∃ old, attempts.get? id = some old ∧ old.logicalRequestId = row.logicalRequestId ∧
      old.state = .reserved := by
  simp only [transferAttempts, Table.get?_updateWhere, Option.map_eq_some_iff] at hrow
  obtain ⟨mid, ⟨old, hold, rfl⟩, rfl⟩ := hrow
  have hgeneration := hle old hold
  refine ⟨old, hold, ?_⟩
  cases hstate : old.state with
  | reserved => simp [hstate, hgeneration]
  | started => simp [hstate, hgeneration, PhysicalAttemptState.isActive] at hlive
  | succeeded | failed | unknown => simp [hstate, PhysicalAttemptState.isActive] at hlive

/-- The transfer keeps every attempt and its request. -/
theorem unattempted_transferAttempts :
    Unattempted (transferAttempts generation attempts) id ↔ Unattempted attempts id := by
  have hkept : ∀ attemptId, ((transferAttempts generation attempts).get? attemptId).map
      (·.logicalRequestId) = (attempts.get? attemptId).map (·.logicalRequestId) := by
    intro attemptId
    simp only [transferAttempts, Table.get?_updateWhere, Option.map_map]
    congr 1
    funext row
    simp only [Function.comp_apply]
    split <;> split <;> rfl
  have hiff : ∀ table : AttemptTable, Unattempted table id ↔
      ∀ attemptId, (table.get? attemptId).map (·.logicalRequestId) ≠ some id := by
    intro table
    simp only [Unattempted, ne_eq, Option.map_eq_some_iff, not_exists, not_and]
  rw [hiff, hiff]
  exact forall_congr' fun attemptId => by rw [hkept]

end

section

variable {ledger ledger' : LedgerTables} {now : DateTime}

/-- The results that a closing loop writes. -/
theorem foldlM_results {ι : Type} {f : LedgerTables → ι → Except Exn LedgerTables}
    (key : ι → Identifier) (outcome : ι → LogicalResultOutcome)
    (hf : ∀ {mid next : LedgerTables} {x : ι}, f mid x = .ok next → ∃ row : LogicalResultRow,
      row.outcome = outcome x ∧ mid.results.get? (key x) = none ∧
        next.results = mid.results.insert (key x) row)
    {xs : List ι} (h : xs.foldlM f ledger = .ok ledger') {id : Identifier} {row : LogicalResultRow}
    (hrow : ledger'.results.get? id = some row) :
    ledger.results.get? id = some row ∨ ∃ x ∈ xs, key x = id ∧ row.outcome = outcome x := by
  have hinv := foldlM_invariant (f := f) (fun rest (mid : LedgerTables) => (∀ x ∈ rest, x ∈ xs) ∧
    ∀ id row, mid.results.get? id = some row → ledger.results.get? id = some row ∨
      ∃ x ∈ xs, key x = id ∧ row.outcome = outcome x) ?_ ⟨fun _ h => h, fun _ _ h => .inl h⟩ h
  · exact hinv.2 id row hrow
  · rintro x rest mid next ⟨hall, hresults⟩ hnext
    refine ⟨fun y hy => hall y (List.mem_cons_of_mem _ hy), fun id row hrow => ?_⟩
    obtain ⟨new, houtcome, hfresh, heq⟩ := hf hnext
    rw [heq, Table.get?_insert hfresh] at hrow
    split at hrow
    · rename_i hid
      obtain rfl := Option.some.inj hrow
      exact .inr ⟨x, hall x List.mem_cons_self, hid.symm, houtcome⟩
    · exact hresults id row hrow

theorem closeStarted_results {ids : List Identifier}
    (h : ids.foldlM (closeStarted now) ledger = .ok ledger') {id : Identifier}
    {row : LogicalResultRow} (hrow : ledger'.results.get? id = some row) :
    ledger.results.get? id = some row ∨ id ∈ ids ∧ row.outcome = .unknown := by
  refine (foldlM_results (fun id => id) (fun _ => .unknown) (fun {mid next x} hclose => ?_) h
    hrow).imp_right ?_
  · simp only [closeStarted, closeRequest, bind_eq_ok, require_eq_ok, insertRow_eq_ok, pure_eq_ok]
      at hclose
    obtain ⟨-, -, results, ⟨hnone, rfl⟩, rfl⟩ := hclose
    exact ⟨_, rfl, hnone, rfl⟩
  · rintro ⟨x, hx, rfl, houtcome⟩
    exact ⟨hx, houtcome⟩

theorem closeInterrupted_results {entries : List (Identifier × Bool)}
    (h : entries.foldlM (closeInterrupted now) ledger = .ok ledger') {id : Identifier}
    {row : LogicalResultRow} (hrow : ledger'.results.get? id = some row) :
    ledger.results.get? id = some row ∨
      ∃ entry ∈ entries, entry.1 = id ∧ row.outcome = if entry.2 then .unknown else .failed := by
  refine foldlM_results Prod.fst (fun entry => if entry.2 then .unknown else .failed)
    (fun {mid next x} hclose => ?_) h hrow
  simp only [closeInterrupted, bind_eq_ok, insertRow_eq_ok, pure_eq_ok] at hclose
  obtain ⟨results, ⟨hnone, rfl⟩, rfl⟩ := hclose
  exact ⟨_, rfl, hnone, rfl⟩

end

section

variable {db repaired : Database} {now : DateTime} {row : RuntimeLeaseRow} (h : db.Sane)

include h

theorem Database.Sane.generation_le (hrow : db.lease = some row) {id : Identifier}
    {attempt : PhysicalAttemptRow} (hattempt : db.attempts.get? id = some attempt) :
    attempt.leaseGeneration ≤ row.generation := by
  obtain ⟨row', hrow', hle⟩ := h.recoverable.granted id attempt hattempt
  obtain rfl := Option.some.inj (hrow.symm.trans hrow')
  exact hle

/-- What a recovery answers a leader agrees with its attempts, unless one of them is in flight
and another one reserved. -/
theorem RecoveryRepairs.bears (hrepairs : RecoveryRepairs db now row repaired) {leader : Identifier}
    (hopen : db.ledger.Open leader)
    (hsingle : (∃ id attempt, db.attempts.get? id = some attempt ∧
        attempt.logicalRequestId = leader ∧ attempt.state = .started) →
      ∀ id attempt, db.attempts.get? id = some attempt → attempt.logicalRequestId = leader →
        attempt.state ≠ .reserved)
    {result : LogicalResultRow} (hresult : repaired.ledger.results.get? leader = some result) :
    Bears repaired.attempts leader result.outcome := by
  obtain ⟨hrow, -⟩ := expiredLease_eq_ok.mp hrepairs.expired
  have hle : ∀ {id attempt}, db.attempts.get? id = some attempt →
      attempt.leaseGeneration ≤ row.generation := fun hattempt => h.generation_le hrow hattempt
  obtain ⟨-, -, gates, started, closed, -, hstarted, hclosed, rfl⟩ := hrepairs
  have hnone : db.ledger.results.get? leader ≠ some result := by
    obtain ⟨request, hrequest, -⟩ := Option.map_eq_some_iff.mp hopen
    rw [(h.flown.ledger.open_iff hrequest).mp hopen]
    exact (Option.some_ne_none result).symm
  -- a live attempt was reserved before
  have hterminal : (∀ id attempt, db.attempts.get? id = some attempt →
      attempt.logicalRequestId = leader → attempt.state ≠ .reserved) →
      ∀ id attempt, (transferAttempts row.generation db.attempts).get? id = some attempt →
        attempt.logicalRequestId = leader → attempt.state.isActive = false := by
    intro hnoreserved id attempt hattempt hid
    by_contra hlive
    obtain ⟨old, hold, hsame, hreserved⟩ :=
      transferAttempts_live hattempt (Bool.not_eq_false _ ▸ hlive) fun old hold => hle hold
    exact hnoreserved id old hold (hsame.trans hid) hreserved
  rcases closeInterrupted_results hclosed hresult with hfirst | ⟨entry, hentry, rfl, houtcome⟩
  · obtain ⟨hmem, houtcome⟩ := (closeStarted_results hstarted hfirst).resolve_left hnone
    rw [startedRequests, List.mem_dedup, List.mem_map] at hmem
    obtain ⟨⟨id, attempt⟩, hselected, rfl⟩ := hmem
    rw [Table.mem_select, Bool.and_eq_true, decide_eq_true_eq, decide_eq_true_eq] at hselected
    obtain ⟨hattempt, hstate, hgeneration⟩ := hselected
    have hunknown := transferAttempts_started hattempt hstate hgeneration
    refine ⟨fun hidle => hidle id _ hunknown rfl,
      hterminal (hsingle ⟨id, attempt, hattempt, rfl, hstate⟩), ?_, fun _ => ?_⟩
    · rw [houtcome]
      intro h
      cases h
    · exact ⟨id, _, hunknown, rfl, rfl⟩
  · simp only [interruptedBetweenAttempts, List.mem_map, List.mem_dedup] at hentry
    obtain ⟨_, ⟨_, ⟨⟨id, attempt⟩, hselected, rfl⟩, rfl⟩, rfl⟩ := hentry
    rw [Table.mem_select, Bool.and_eq_true, decide_eq_true_eq, Table.select_eq_nil_iff]
      at hselected
    obtain ⟨hattempt, -, hidle⟩ := hselected
    refine ⟨fun hidle => unattempted_transferAttempts.mp hidle id attempt hattempt rfl,
      hterminal fun other old hold hid hreserved => ?_, ?_, fun hunknown => ?_⟩
    · have hlive := hidle other old hold
      simp only [Bool.and_eq_false_imp, decide_eq_true_eq] at hlive
      have hinactive := hlive hid
      rw [hreserved] at hinactive
      cases hinactive
    · rw [houtcome]
      split
      · intro h
        cases h
      · intro h
        cases h
    · rw [houtcome] at hunknown
      split at hunknown
      · rename_i hany
        simp only [List.any_eq_true, List.mem_map] at hany
        obtain ⟨old, ⟨⟨other, old'⟩, hselected, rfl⟩, hold⟩ := hany
        rw [Table.mem_select] at hselected
        rw [Bool.and_eq_true, decide_eq_true_eq, decide_eq_true_eq] at hold
        refine ⟨other, old', transferAttempts_terminal hselected.1 ?_, hold.1, hold.2⟩
        rw [hold.2]
        rfl
      · cases hunknown

end

/-! ## Success -/

/-- The requests that a recovery closes were attempted. -/
theorem RecoveryRepairs.closable {db repaired : Database} {now : DateTime} {row : RuntimeLeaseRow}
    (hrepairs : RecoveryRepairs db now row repaired) :
    ∀ id, db.repairs.closable id → ¬ Unattempted repaired.attempts id := by
  obtain ⟨-, -, gates, started, closed, -, -, -, rfl⟩ := hrepairs
  rintro _ ⟨attemptId, attempt, hattempt, rfl, -⟩ hidle
  exact unattempted_transferAttempts.mp hidle attemptId attempt hattempt rfl

/-- No leader of an active flight has an attempt in flight beside a reserved one. -/
def Database.LeadersSingle (db : Database) : Prop :=
  ∀ f leader, db.flight.flights.get? f = some ⟨leader, .active⟩ →
    (∃ id attempt, db.attempts.get? id = some attempt ∧ attempt.logicalRequestId = leader ∧
      attempt.state = .started) →
    ∀ id attempt, db.attempts.get? id = some attempt → attempt.logicalRequestId = leader →
      attempt.state ≠ .reserved

/-- Every attempt in flight is one of an open request. -/
def Database.StartedOpen (db : Database) : Prop :=
  ∀ id attempt, db.attempts.get? id = some attempt → attempt.state = .started →
    db.ledger.Open attempt.logicalRequestId

section

variable {db repaired : Database} {now : DateTime} {row : RuntimeLeaseRow} (h : db.Sane)

include h

/-- The repairs themselves only need the audit. -/
theorem Database.Sane.repairs (hexpired : expiredLease db now = .ok row)
    (hopen : db.StartedOpen) : ∃ repaired, RecoveryRepairs db now row repaired := by
  obtain ⟨hrow, -⟩ := expiredLease_eq_ok.mp hexpired
  obtain ⟨gates, hgates⟩ := h.gates.recoverGateReservations_succeeds row.generation now
  have hnodup : (startedRequests db row.generation).Nodup := List.nodup_dedup _
  have hstartedOpen : ∀ id ∈ startedRequests db row.generation, db.ledger.Open id := by
    intro id hid
    rw [startedRequests, List.mem_dedup, List.mem_map] at hid
    obtain ⟨⟨attemptId, attempt⟩, hmem, rfl⟩ := hid
    rw [Table.mem_select, Bool.and_eq_true, decide_eq_true_eq] at hmem
    exact hopen attemptId attempt hmem.1 hmem.2.1
  -- the requests in flight are open, so each can be closed once
  obtain ⟨started, hstarted⟩ : ∃ started, (startedRequests db row.generation).foldlM
      (closeStarted now) db.ledger = .ok started :=
    closeStarted_succeeds h.flown.ledger hnodup hstartedOpen
  have hsound : started.Sound := by
    refine foldlM_invariant (fun _ (mid : LedgerTables) => mid.Sound) ?_ h.flown.ledger hstarted
    intro id rest mid next hmid hnext
    obtain ⟨_, hclosing⟩ := closeStarted_closing hnext
    exact hmid.closing hclosing
  have hdistinct :
      ((interruptedBetweenAttempts { db with ledger := started }).map Prod.fst).Nodup := by
    rw [interruptedBetweenAttempts, List.map_map]
    show (List.map id _).Nodup
    rw [List.map_id]
    exact List.nodup_dedup _
  -- so are those between two attempts
  obtain ⟨closed, hclosed⟩ : ∃ closed, (interruptedBetweenAttempts
      { db with ledger := started }).foldlM (closeInterrupted now) started = .ok closed :=
    closeInterrupted_succeeds hsound hdistinct fun entry hentry =>
      (mem_interruptedBetweenAttempts hentry).2
  exact ⟨_, hexpired, (h.audit_iff hrow).mpr hopen, gates, started, closed, hgates, hstarted,
    hclosed, rfl⟩

/-- Before the walk, when no leader is in the way. -/
theorem Database.Sane.answering (hsingle : db.LeadersSingle)
    (hrepairs : RecoveryRepairs db now row repaired) :
    Answering db.repairs repaired.attempts (openFlights repaired none) repaired where
  walk := hrepairs.reconciling h.flown
  tried := rfl
  idle := by
    intro id hfollows
    have hbefore := hrepairs.followers.follows id hfollows
    obtain ⟨-, -, gates, started, closed, -, -, -, rfl⟩ := hrepairs
    refine unattempted_transferAttempts.mpr fun attemptId attempt hattempt hid => ?_
    subst hid
    exact h.flown.followers.idle attemptId attempt hattempt hbefore
  bears := by
    intro f leader hactive result hresult
    have hflight : db.flight.flights.get? f = some ⟨leader, .active⟩ := by
      obtain ⟨-, -, gates, started, closed, -, -, -, rfl⟩ := hrepairs
      exact hactive
    exact hrepairs.bears h (h.flown.flights.open_leader hflight) (hsingle f leader hflight) hresult

/-- A recovery succeeds when nothing is in its way. -/
theorem Database.Sane.recovers (hexpired : expiredLease db now = .ok row)
    (hopen : db.StartedOpen) (hsingle : db.LeadersSingle) {ownerToken : Identifier}
    {policy : RuntimeLeasePolicy} {expires : DateTime}
    (hexpires : leaseExpiry now policy = .ok expires) :
    ∃ lease db', recoverExpiredLease ownerToken now policy db = (.ok lease, db') := by
  obtain ⟨repaired, hrepairs⟩ := h.repairs hexpired hopen
  -- every flight that is visited can be reconciled
  have hwalk := foldlM_succeeds (f := reconcileFlight now)
    (Answering db.repairs repaired.attempts)
    (fun flight rest mid hmid => by
      obtain ⟨next, hnext⟩ : ∃ next, reconcileFlight now mid flight = .ok next :=
        hmid.succeeds hrepairs.closable
      exact ⟨next, hnext, hmid.step hnext⟩)
    (h.answering hsingle hrepairs)
  obtain ⟨delivered, hdelivered, -⟩ := hwalk
  have hreconcile : reconcileTerminalFlights now none repaired = .ok delivered := hdelivered
  have hframe := reconcileTerminalFlights_frame hreconcile
  obtain ⟨-, haudited, gates, started, closed, hgates, hstarted, hclosed, rfl⟩ := hrepairs
  obtain ⟨hrow, hactive, -⟩ := expiredLease_eq_ok.mp hexpired
  -- the guarded update finds the row it expects
  have hlease : (delivered.lease.any fun current =>
      current.generation = row.generation && current.active) = true := by
    rw [hframe.lease]
    show db.lease.any _ = true
    rw [hrow]
    simp [hactive]
  refine ⟨⟨ownerToken, row.generation + 1, now, now, expires⟩,
    { delivered with lease := some ⟨ownerToken, row.generation + 1, now, now, expires, true⟩ },
    transaction_eq_ok.mpr ?_⟩
  simp only [bind_eq_ok, require_eq_ok, pure_eq_ok]
  exact ⟨expires, hexpires, row, hexpired, (), haudited, gates, hgates, started, hstarted, closed,
    hclosed, delivered, hdelivered, (), hlease, rfl⟩

/-- A walk that succeeded met no leader with an attempt in flight and a reserved one. -/
theorem Database.Sane.single (hrepairs : RecoveryRepairs db now row repaired) {db' : Database}
    (hreconcile : reconcileTerminalFlights now none repaired = .ok db') : db.LeadersSingle := by
  rintro f leader hflight ⟨startedId, startedAttempt, hstartedAttempt, hleader, hstate⟩ reservedId
    reserved hreserved hreservedLeader hreservedState
  have hwalk := hrepairs.reconciling h.flown
  obtain ⟨hrow, -⟩ := expiredLease_eq_ok.mp hrepairs.expired
  obtain ⟨-, -, gates, started, closed, -, hstarted, hclosed, rfl⟩ := hrepairs
  -- the request of the leader is closed, and its attempt is still reserved
  have hnotOpen : ¬ closed.Open leader := by
    refine (closeInterrupted_closed hclosed).2 _ ((closeStarted_closed hstarted).1 _ ?_)
    rw [startedRequests, List.mem_dedup]
    refine List.mem_map.mpr ⟨(startedId, startedAttempt), Table.mem_select.mpr
      ⟨hstartedAttempt, ?_⟩, hleader⟩
    rw [Bool.and_eq_true, decide_eq_true_eq, decide_eq_true_eq]
    exact ⟨hstate, h.generation_le hrow hstartedAttempt⟩
  have hlive : ∃ attempt, (transferAttempts row.generation db.attempts).get? reservedId =
      some attempt ∧ attempt.logicalRequestId = leader ∧ attempt.state.isActive = true := by
    simp [transferAttempts, Table.get?_updateWhere, hreserved, hreservedState, hreservedLeader,
      h.generation_le hrow hreserved, PhysicalAttemptState.isActive]
  obtain ⟨attempt, hattempt, hattemptLeader, hactive⟩ := hlive
  have hend := foldlM_invariant (f := reconcileFlight now)
    (fun rest (mid : Database) => Reconciling db.repairs rest mid ∧
      mid.attempts = transferAttempts row.generation db.attempts ∧ ¬ mid.ledger.Open leader ∧
      leader ∈ rest.map (·.leaderLogicalRequestId)) ?_
    ⟨hwalk, rfl, hnotOpen, ?_⟩ hreconcile
  · exact absurd hend.2.2.2 List.not_mem_nil
  · rintro flight rest mid next ⟨hmid, hattempts, hmidOpen, hmem⟩ hnext
    have hstep := hmid.step hnext
    have hshown := hmid.shown flight List.mem_cons_self
    obtain ⟨-, -, result, hread, ⟨hqueued, -, rfl⟩ | ⟨r, rfl, -, hvalid, hfinish⟩⟩ :=
      reconcileFlight_eq_ok hnext
    · rcases List.mem_cons.mp hmem with rfl | hmem
      · exact absurd (hshown.requestState.symm.trans hqueued) hmidOpen
      · exact ⟨hstep, hattempts, hmidOpen, hmem⟩
    · rcases List.mem_cons.mp hmem with rfl | hmem
      · obtain ⟨hid, -⟩ := readLogicalResult_eq_some hread
        simp only [validateAttemptOutcome, bind_eq_ok, require_eq_ok] at hvalid
        obtain ⟨-, hinactive, -⟩ := hvalid
        have hfalse := hinactive attempt.state (mem_attemptStates.mpr ⟨reservedId, attempt, by
          rw [hattempts]
          exact hattempt, hattemptLeader.trans hid.symm, rfl⟩)
        rw [hactive] at hfalse
        cases hfalse
      · exact ⟨hstep, (finishSingleFlight_frame hfinish).attempts.trans hattempts,
          finishSingleFlight_stays_closed hfinish hmidOpen, hmem⟩
  · refine List.mem_map.mpr ⟨_, List.mem_map.mpr ⟨(f, ⟨leader, .active⟩), ?_, rfl⟩, rfl⟩
    rw [Table.mem_select]
    exact ⟨hflight, rfl⟩

end

end StockResearch.Requests
