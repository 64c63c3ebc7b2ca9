import StockResearch.Requests.Generations
import StockResearch.Requests.LiveFlights

/-!
# What a recovery finds

A recovery audits the attempts before it repairs anything. Two of the three gaps it looks for
cannot be left behind: a terminal attempt gave its gates back, or its request was closed; and
no attempt has a generation that is still to come.

- `TerminalsFrom`: the attempts that an operation ends.
- `Database.Recoverable`, `Database.Sane`: what holds of the database after every run.
-/

namespace StockResearch.Requests

open Relation (ReflTransGen)

/-! ## Released reservations -/

/-- A reservation of the attempt was released. -/
def GateTables.Released (gates : GateTables) (attemptId : Identifier) : Prop :=
  ∃ reservationId row, gates.reservations.get? reservationId = some row ∧
    row.physicalAttemptId = attemptId ∧ row.state = .released

/-- A released reservation stays. -/
theorem GateStep.released {used : HierarchicalGatePolicy → GateKeys → Prop}
    {gates gates' : GateTables} (h : GateStep used gates gates') {attemptId : Identifier}
    (hreleased : gates.Released attemptId) : gates'.Released attemptId := by
  obtain ⟨reservationId, row, hrow, hattempt, hstate⟩ := hreleased
  cases h with
  | audit | cooldown => exact ⟨reservationId, row, hrow, hattempt, hstate⟩
  | @acquire _ _ _ _ newId _ _ _ _ hreserve _ htaken =>
    obtain ⟨-, hfresh, rfl⟩ := insertReservation_eq_ok.mp hreserve
    refine ⟨reservationId, row, ?_, hattempt, hstate⟩
    have hne : reservationId ≠ newId := by
      rintro rfl
      rw [hfresh] at hrow
      cases hrow
    rw [htaken.reservations]
    show (Table.insert gates.reservations _ _).get? reservationId = some row
    rw [Table.get?_insert hfresh, if_neg hne]
    exact hrow
  | @giveBack returnedId other _ _ _ hother hactive =>
    have hne : reservationId ≠ returnedId := by
      rintro rfl
      obtain rfl := Option.some.inj (hrow.symm.trans hother)
      rw [hactive] at hstate
      cases hstate
    refine ⟨reservationId, row, ?_, hattempt, hstate⟩
    show (Table.modify gates.reservations _ _).get? reservationId = some row
    rw [Table.get?_modify, if_neg hne]
    exact hrow

theorem Operation.released (op : Operation) (db : Database) {attemptId : Identifier}
    (h : db.gates.Released attemptId) : (op.next db).gates.Released attemptId := by
  have hsteps := (op.transition db).gate_steps op.uses_any
  generalize (op.next db).gates = later at hsteps ⊢
  induction hsteps with
  | refl => exact h
  | tail _ hstep ih => exact hstep.released ih

/-! ## Ended attempts -/

/-- An attempt that an operation ends gave its gates back, or its request was closed. -/
def TerminalsFrom (db db' : Database) : Prop :=
  ∀ id row', db'.attempts.get? id = some row' → row'.state.isActive = false →
    ∃ row, db.attempts.get? id = some row ∧ row.leaseGeneration = row'.leaseGeneration ∧
      row.logicalRequestId = row'.logicalRequestId ∧
      (row.state.isActive = false ∨ db'.gates.Released id ∨
        ¬ db'.ledger.Open row'.logicalRequestId)

section

variable {db db' : Database}

theorem TerminalsFrom.of_attempts (h : db'.attempts = db.attempts) : TerminalsFrom db db' := by
  intro id row' hrow' hterminal
  rw [h] at hrow'
  exact ⟨row', hrow', rfl, rfl, .inl hterminal⟩

/-- A new attempt is not terminal. -/
theorem TerminalsFrom.insert {ledger : LedgerTables} {attemptId : Identifier}
    {row : PhysicalAttemptRow} (hreserved : row.state = .reserved)
    (h : insertAttempt ledger db.attempts attemptId row = .ok db'.attempts) :
    TerminalsFrom db db' := by
  obtain ⟨-, -, hfresh, heq⟩ := insertAttempt_eq_ok.mp h
  intro id row' hrow' hterminal
  rw [heq, Table.get?_insert hfresh] at hrow'
  split at hrow'
  · obtain rfl := Option.some.inj hrow'
    rw [hreserved] at hterminal
    cases hterminal
  · exact ⟨row', hrow', rfl, rfl, .inl hterminal⟩

/-- An update that keeps the requests and the generations changes the rows it selects. -/
theorem updateWhere_row {attempts : AttemptTable} {p : Identifier → PhysicalAttemptRow → Bool}
    {f : PhysicalAttemptRow → PhysicalAttemptRow} {id : Identifier} {row' : PhysicalAttemptRow}
    (h : (attempts.updateWhere p f).get? id = some row')
    (hf : ∀ row, (f row).leaseGeneration = row.leaseGeneration ∧
      (f row).logicalRequestId = row.logicalRequestId) :
    ∃ row, attempts.get? id = some row ∧ row.leaseGeneration = row'.leaseGeneration ∧
      row.logicalRequestId = row'.logicalRequestId ∧ (row' = row ∨ p id row = true) := by
  rw [Table.get?_updateWhere] at h
  obtain ⟨row, hrow, rfl⟩ := Option.map_eq_some_iff.mp h
  refine ⟨row, hrow, ?_⟩
  by_cases hp : p id row = true
  · rw [if_pos hp]
    exact ⟨(hf row).1.symm, (hf row).2.symm, .inr hp⟩
  · rw [if_neg hp]
    exact ⟨rfl, rfl, .inl rfl⟩

theorem LedgerTables.Closing.closed {closed : Identifier → Prop} {result : LogicalResultRow}
    {ledger ledger' : LedgerTables} (h : ledger.Closing closed result ledger') {id : Identifier}
    (hid : closed id) : ¬ ledger'.Open id := by
  obtain ⟨-, -, row, -, hrow⟩ := h.closes id hid
  intro hopen
  rw [LedgerTables.Open, hrow, Option.map_some, Option.some.injEq] at hopen
  exact resultState_ne_queued _ hopen

/-- A started flight is cancelled with the request of its leader. -/
theorem cancelStartedFlight_closes {id : Identifier} {c : ConsumerRow} {now : DateTime}
    {reason : Identifier} (hc : db.flight.consumers.get? id = some c) (hactive : c.state = .active)
    (h : cancelStartedFlight c.requestFingerprint now reason db = .ok db') :
    ¬ db'.ledger.Open id := by
  obtain ⟨_, gates, cancelled, -, -, hfold, rfl⟩ := cancelStartedFlight_eq_ok h
  have hnodup : ((db.flight.activeConsumers c.requestFingerprint).map Prod.fst).Nodup :=
    Table.select_keys_nodup _ _
  have hmem : id ∈ (db.flight.activeConsumers c.requestFingerprint).map Prod.fst :=
    List.mem_map.mpr ⟨(id, c), mem_activeConsumers.mpr ⟨hc, rfl, hactive⟩, rfl⟩
  exact (cancelAll_concluded hnodup hfold).ledger.closed hmem

/-- The attempts that a cancelled flight ends are those of its leader. -/
theorem cancelStartedFlight_rows {fingerprint : Sha256Hex} {leader : Identifier} {now : DateTime}
    {reason : Identifier} (hflight : db.flight.flights.get? fingerprint = some ⟨leader, .active⟩)
    (h : cancelStartedFlight fingerprint now reason db = .ok db') {attemptId : Identifier}
    {row' : PhysicalAttemptRow} (hrow' : db'.attempts.get? attemptId = some row') :
    ∃ row, db.attempts.get? attemptId = some row ∧ row.leaseGeneration = row'.leaseGeneration ∧
      row.logicalRequestId = row'.logicalRequestId ∧
      (row' = row ∨ row.logicalRequestId = leader) := by
  obtain ⟨leader', hleader, -, hattempts, -, -⟩ := cancelStartedFlight_frame h
  rw [hflight, Option.some.injEq, SingleFlightRow.mk.injEq] at hleader
  obtain ⟨rfl, -⟩ := hleader
  rw [hattempts] at hrow'
  obtain ⟨row, hrow, hgeneration, hrequest, hsame⟩ :=
    updateWhere_row hrow' fun _ => ⟨rfl, rfl⟩
  refine ⟨row, hrow, hgeneration, hrequest, hsame.imp_right fun hp => ?_⟩
  rw [Bool.and_eq_true, decide_eq_true_eq] at hp
  exact hp.1

theorem dropReservedAttempt_rows {id : Identifier} {now : DateTime}
    (h : dropReservedAttempt id now (activeAttempt db id) db = .ok db') {attemptId : Identifier}
    {row' : PhysicalAttemptRow} (hrow' : db'.attempts.get? attemptId = some row') :
    ∃ row, db.attempts.get? attemptId = some row ∧ row.leaseGeneration = row'.leaseGeneration ∧
      row.logicalRequestId = row'.logicalRequestId ∧ (row' = row ∨ row.logicalRequestId = id) := by
  rcases dropReservedAttempt_eq_ok h with ⟨-, rfl⟩ | ⟨activeId, row, gates, hactive, -, -, rfl⟩
  · exact ⟨row', hrow', rfl, rfl, .inl rfl⟩
  · obtain ⟨hget, hrequest, -⟩ := activeAttempt_eq_some hactive
    obtain ⟨old, hold, hgeneration, hsame, hor⟩ := updateWhere_row hrow' fun _ => ⟨rfl, rfl⟩
    refine ⟨old, hold, hgeneration, hsame, hor.imp_right fun hid => ?_⟩
    rw [decide_eq_true_eq] at hid
    subst hid
    obtain rfl := Option.some.inj (hget.symm.trans hold)
    exact hrequest

/-- Whatever a cancelled leader's attempts end as, its request is closed. -/
theorem cancelLeader_terminals {id reason : Identifier} {c : ConsumerRow} {now : DateTime}
    {promoted : Option Identifier} (hflown : db.Flown)
    (hc : db.flight.consumers.get? id = some c) (hactive : c.state = .active)
    (hrole : c.role = .leader)
    (h : cancelLeader id c.requestFingerprint now reason db = .ok (promoted, db')) :
    TerminalsFrom db db' := by
  have hflight : db.flight.flights.get? c.requestFingerprint = some ⟨id, .active⟩ := by
    obtain ⟨leader, -, hflight, -, -, hleads⟩ := hflown.flights.flying id c hc hactive
    rw [← hleads.mp hrole] at hflight
    exact hflight
  -- each of the three ways closes the request, and ends attempts of it alone
  have hkey : ¬ db'.ledger.Open id ∧ ∀ attemptId row', db'.attempts.get? attemptId = some row' →
      ∃ row, db.attempts.get? attemptId = some row ∧ row.leaseGeneration = row'.leaseGeneration ∧
        row.logicalRequestId = row'.logicalRequestId ∧
        (row' = row ∨ row.logicalRequestId = id) := by
    rcases cancelLeader_eq_ok h with ⟨-, -, hstarted⟩ | ⟨dropped, -, -, hdrop, hrest⟩
    · exact ⟨cancelStartedFlight_closes hc hactive hstarted,
        fun _ _ => cancelStartedFlight_rows hflight hstarted⟩
    · have hframe : dropped.flight = db.flight := by
        rcases dropReservedAttempt_eq_ok hdrop with ⟨-, rfl⟩ | ⟨_, _, _, -, -, -, rfl⟩
        · rfl
        · rfl
      rcases hrest with ⟨-, -, hstarted⟩ | ⟨-, hunsent⟩
      · refine ⟨cancelStartedFlight_closes (by rw [hframe]; exact hc) hactive hstarted, ?_⟩
        intro attemptId row' hrow'
        obtain ⟨mid, hmid, hgeneration, hrequest, hsame⟩ :=
          cancelStartedFlight_rows (by rw [hframe]; exact hflight) hstarted hrow'
        obtain ⟨row, hrow, hgeneration', hrequest', hsame'⟩ := dropReservedAttempt_rows hdrop hmid
        refine ⟨row, hrow, hgeneration'.trans hgeneration, hrequest'.trans hrequest, ?_⟩
        rcases hsame with rfl | hid
        · exact hsame'
        · exact .inr (hrequest'.trans hid)
      · obtain ⟨ledger, handed, hledger, hhanded, -, rfl⟩ := cancelUnsentLeader_eq_ok hunsent
        have hclosing := (cancelLogical_closing (by intro h; cases h) hledger).2
        have hlast : handed.ledger = ledger ∧ handed.attempts = dropped.attempts := by
          rcases promoteFollower_eq_ok hhanded with ⟨-, rfl⟩ | ⟨_, _, _, _, -, -, rfl⟩
          · exact ⟨rfl, rfl⟩
          · exact ⟨rfl, rfl⟩
        refine ⟨?_, fun attemptId row' hrow' => ?_⟩
        · show ¬ handed.ledger.Open id
          rw [hlast.1]
          exact hclosing.closed rfl
        · change handed.attempts.get? attemptId = some row' at hrow'
          rw [hlast.2] at hrow'
          exact dropReservedAttempt_rows hdrop hrow'
  obtain ⟨hclosed, hrows⟩ := hkey
  intro attemptId row' hrow' hterminal
  obtain ⟨row, hrow, hgeneration, hrequest, rfl | rfl⟩ := hrows attemptId row' hrow'
  · exact ⟨row', hrow, rfl, rfl, .inl hterminal⟩
  · exact ⟨row, hrow, hgeneration, hrequest, .inr (.inr (hrequest ▸ hclosed))⟩

end

/-! ## Closed requests stay closed -/

section

variable {ledger ledger' : LedgerTables} {now : DateTime}

theorem LedgerTables.Closing.stays_closed {closed : Identifier → Prop} {result : LogicalResultRow}
    (h : ledger.Closing closed result ledger') {id : Identifier} (hid : ¬ ledger.Open id) :
    ¬ ledger'.Open id := by
  by_cases hclosed : closed id
  · exact h.closed hclosed
  · rwa [h.open_iff hclosed]

/-- A loop that closes one request after the other leaves none of them open. -/
theorem foldlM_closes {ι : Type} {f : LedgerTables → ι → Except Exn LedgerTables}
    {key : ι → Identifier}
    (hf : ∀ {mid next : LedgerTables} {x : ι}, f mid x = .ok next →
      ¬ next.Open (key x) ∧ ∀ id, ¬ mid.Open id → ¬ next.Open id)
    {xs : List ι} (h : xs.foldlM f ledger = .ok ledger') :
    (∀ x ∈ xs, ¬ ledger'.Open (key x)) ∧ ∀ id, ¬ ledger.Open id → ¬ ledger'.Open id := by
  constructor
  · refine fun x hx => (foldlM_invariant (fun rest mid => x ∈ rest ∨ ¬ mid.Open (key x)) ?_
      (.inl hx) h).resolve_left List.not_mem_nil
    rintro other rest mid next (hmem | hclosed) hclose
    · rcases List.mem_cons.mp hmem with rfl | hmem
      · exact .inr (hf hclose).1
      · exact .inl hmem
    · exact .inr ((hf hclose).2 _ hclosed)
  · intro id hid
    exact foldlM_invariant (fun _ mid => ¬ mid.Open id)
      (fun _ _ _ _ hmid hclose => (hf hclose).2 id hmid) hid h

theorem closeStarted_closed {ids : List Identifier}
    (h : ids.foldlM (closeStarted now) ledger = .ok ledger') :
    (∀ id ∈ ids, ¬ ledger'.Open id) ∧ ∀ id, ¬ ledger.Open id → ¬ ledger'.Open id := by
  refine foldlM_closes (fun hclose => ?_) h
  obtain ⟨_, hclosing⟩ := closeStarted_closing hclose
  exact ⟨hclosing.closed rfl, fun id => hclosing.stays_closed⟩

theorem closeInterrupted_closed {entries : List (Identifier × Bool)}
    (h : entries.foldlM (closeInterrupted now) ledger = .ok ledger') :
    (∀ entry ∈ entries, ¬ ledger'.Open entry.1) ∧
      ∀ id, ¬ ledger.Open id → ¬ ledger'.Open id := by
  refine foldlM_closes (fun {mid next entry} hclose => ?_) h
  simp only [closeInterrupted, bind_eq_ok, pure_eq_ok] at hclose
  obtain ⟨results, -, rfl⟩ := hclose
  have hstate : ∀ id, ¬ mid.Open id ∨ id = entry.1 → ¬ LedgerTables.Open
      { requests := mid.requests.modify entry.1 fun row => { row with state := .failed }
        results := results } id := by
    intro id hid hopen
    rw [LedgerTables.Open, Table.get?_modify] at hopen
    split at hopen
    · obtain ⟨_, hrow, hfailed⟩ := Option.map_eq_some_iff.mp hopen
      obtain ⟨_, -, rfl⟩ := Option.map_eq_some_iff.mp hrow
      cases hfailed
    · rename_i hne
      exact hid.resolve_right hne hopen
  exact ⟨hstate _ (.inr rfl), fun id hid => hstate id (.inl hid)⟩

theorem finishSingleFlight_stays_closed {result : ProductionLogicalResult} {db db' : Database}
    (h : finishSingleFlight result now db = .ok db') {id : Identifier} (hid : ¬ db.ledger.Open id) :
    ¬ db'.ledger.Open id := by
  rcases finishSingleFlight_eq_ok h with ⟨-, rfl⟩ | ⟨leader, delivered, -, -, -, -, hfold, rfl⟩
  · exact hid
  · obtain ⟨hnodup, -⟩ := waitingConsumers_ids db leader.requestFingerprint
    exact (deliverAll_concluded hnodup hfold).ledger.stays_closed hid

theorem reconcileTerminalFlights_stays_closed {fingerprint : Option Sha256Hex} {db db' : Database}
    (h : reconcileTerminalFlights now fingerprint db = .ok db') {id : Identifier}
    (hid : ¬ db.ledger.Open id) : ¬ db'.ledger.Open id := by
  refine foldlM_invariant (fun _ (mid : Database) => ¬ mid.ledger.Open id) ?_ hid h
  intro flight rest mid next hmid hstep
  obtain ⟨-, -, -, -, ⟨-, -, rfl⟩ | ⟨r, -, -, -, hfinish⟩⟩ := reconcileFlight_eq_ok hstep
  · exact hmid
  · exact finishSingleFlight_stays_closed hfinish hmid

end

/-! ## The attempts of every database -/

/-- What a recovery does to an attempt: one in flight becomes unknown. -/
theorem transferAttempts_row {generation : Nat} {attempts : AttemptTable} {id : Identifier}
    {row' : PhysicalAttemptRow} (h : (transferAttempts generation attempts).get? id = some row')
    (hterminal : row'.state.isActive = false) :
    ∃ row, attempts.get? id = some row ∧ row.leaseGeneration = row'.leaseGeneration ∧
      row.logicalRequestId = row'.logicalRequestId ∧
      (row' = row ∨ row.state = .started ∧ row.leaseGeneration ≤ generation) := by
  simp only [transferAttempts, Table.get?_updateWhere, Option.map_eq_some_iff] at h
  obtain ⟨mid, ⟨row, hrow, rfl⟩, rfl⟩ := h
  refine ⟨row, hrow, ?_⟩
  by_cases hstarted : row.state = .started ∧ row.leaseGeneration ≤ generation
  · simp [hstarted]
  · by_cases hreserved : row.state = .reserved ∧ row.leaseGeneration ≤ generation
    · simp [hreserved, PhysicalAttemptState.isActive] at hterminal
    · simp [hstarted, hreserved]

theorem Transition.terminals {op : Operation} {db db' : Database} (h : Transition op db db')
    (hflown : db.Flown) : TerminalsFrom db db' := by
  cases h with
  | unchanged | publish | heartbeat | release | submit | enqueue | rejectEnqueue | claim
  | cancelFollower | blocked => exact .of_attempts rfl
  | admitLeader _ _ hreconcile _ _ _ hqueue =>
    exact .of_attempts ((queueLeader_frame hqueue).attempts.trans
      (reconcileTerminalFlights_frame hreconcile).attempts)
  | admitFollower _ _ hreconcile =>
    exact .of_attempts (reconcileTerminalFlights_frame hreconcile).attempts
  | cancelLeader _ hconsumer hactive hrole hcancel =>
    exact cancelLeader_terminals hflown hconsumer hactive hrole hcancel
  | acquire _ _ _ _ _ hattempt =>
    rcases ensureReservedAttempt_eq_ok hattempt with ⟨-, -, hinsert⟩ | ⟨_, -, -, -, -, -, -, rfl⟩
    · exact .insert rfl hinsert
    · exact .of_attempts rfl
  -- the attempt that is finished leaves its released reservation behind
  | @finish _ reservation outcome retryAfter _ _ _ _ current _ gates _ _ _ hcurrent _ _ hattempt _ _
      hcooldown event =>
    intro id row' hrow' hterminal
    obtain ⟨row, hrow, hgeneration, hrequest, hsame⟩ := updateWhere_row hrow' fun _ => ⟨rfl, rfl⟩
    refine ⟨row, hrow, hgeneration, hrequest, ?_⟩
    rcases hsame with rfl | hp
    · exact .inl hterminal
    · rw [Bool.and_eq_true, decide_eq_true_eq] at hp
      -- setting a cooldown does not touch the reservations
      have hgiven : gates.reservations = db.gates.reservations.modify reservation.reservationId
          fun row => { row with state := .released } := by
        rcases hcooldown with ⟨-, rfl⟩ | ⟨seconds, -, hcooldown⟩
        · rfl
        · obtain ⟨_, _, _, _, -, -, -, -, rfl⟩ := recordCooldown_eq_ok hcooldown
          rfl
      refine .inr (.inl ⟨reservation.reservationId, { current with state := .released }, ?_, ?_,
        rfl⟩)
      · show gates.reservations.get? reservation.reservationId = _
        rw [hgiven, Table.get?_modify, if_pos rfl, hcurrent]
        rfl
      · exact hattempt.trans hp.1.symm
  | addAttempt hattempt => exact .insert rfl hattempt
  | reserveAttempt _ _ _ _ hattempt => exact .insert rfl hattempt
  | discardAttempt =>
    intro id row' hrow' hterminal
    simp only [Table.get?_deleteWhere, Option.filter_eq_some_iff] at hrow'
    exact ⟨row', hrow'.1, rfl, rfl, .inl hterminal⟩
  | startAttempt =>
    intro id row' hrow' hterminal
    change (Table.modify db.attempts _ _).get? id = some row' at hrow'
    rw [Table.get?_modify] at hrow'
    split at hrow'
    · obtain ⟨row, -, rfl⟩ := Option.map_eq_some_iff.mp hrow'
      cases hterminal
    · exact ⟨row', hrow', rfl, rfl, .inl hterminal⟩
  | close _ _ _ hfinish => exact .of_attempts (finishSingleFlight_frame hfinish).attempts
  | acquireLease _ _ hreconcile =>
    exact .of_attempts (reconcileTerminalFlights_frame hreconcile).attempts
  -- a started attempt is closed as unknown, and its request with it
  | @recover _ _ _ _ row _ _ delivered _ hrepairs hreconcile =>
    obtain ⟨-, -, gates, started, closed, -, hstarted, hclosed, rfl⟩ := hrepairs
    intro id row' hrow' hterminal
    change delivered.attempts.get? id = some row' at hrow'
    rw [(reconcileTerminalFlights_frame hreconcile).attempts] at hrow'
    obtain ⟨old, hold, hgeneration, hrequest, rfl | ⟨hstate, hle⟩⟩ :=
      transferAttempts_row hrow' hterminal
    · exact ⟨row', hold, rfl, rfl, .inl hterminal⟩
    · refine ⟨old, hold, hgeneration, hrequest, .inr (.inr ?_)⟩
      rw [← hrequest]
      refine reconcileTerminalFlights_stays_closed hreconcile
        ((closeInterrupted_closed hclosed).2 _ ((closeStarted_closed hstarted).1 _ ?_))
      rw [startedRequests, List.mem_dedup]
      refine List.mem_map.mpr ⟨(id, old), Table.mem_select.mpr ⟨hold, ?_⟩, rfl⟩
      rw [Bool.and_eq_true, decide_eq_true_eq, decide_eq_true_eq]
      exact ⟨hstate, hle⟩

/-- What recovery relies on in the attempts: no generation is still to come, and every
terminal attempt gave its gates back, or its request was closed. -/
structure Database.Recoverable (db : Database) : Prop where
  granted : ∀ id row, db.attempts.get? id = some row → Granted row.leaseGeneration db.lease
  released : ∀ id row, db.attempts.get? id = some row → row.state.isActive = false →
    db.gates.Released id ∨ ¬ db.ledger.Open row.logicalRequestId

theorem Database.initial_recoverable : Database.initial.Recoverable where
  granted := by
    intro _ _ h
    cases h
  released := by
    intro _ _ h
    cases h

/-- The runs of the theorem below: every operation but the two that no lease guards, with
requests that are submitted queued and no attempt reserved for an active follower. -/
def Operation.FencedInFlight (op : Operation) (db : Database) : Prop :=
  op.fenced = true ∧ op.InFlight db

instance (op : Operation) (db : Database) : Decidable (op.FencedInFlight db) :=
  inferInstanceAs (Decidable (_ ∧ _))

/-- The invariants of these runs. -/
structure Database.Sane (db : Database) : Prop where
  flown : db.Flown
  answered : db.admissions.Answered fun _ => True
  work : WorkGranted db
  gates : GatesExact db.gates
  recoverable : db.Recoverable

theorem Database.Recoverable.next {op : Operation} {db : Database} (h : db.Sane)
    (hop : op.FencedInFlight db) : (op.next db).Recoverable := by
  have hterminals := (op.transition db).terminals h.flown
  have hlater := (Operation.answered hop.2.1 h.answered).2
  constructor
  · intro id row' hrow'
    by_cases hlive : row'.state.isActive = true
    · exact (h.work.next hop.1).attempts id row' hrow' hlive
    · obtain ⟨row, hrow, hgeneration, -, -⟩ :=
        hterminals id row' hrow' (Bool.not_eq_true _ ▸ hlive)
      rw [← hgeneration]
      exact (op.lease_move db).granted (h.recoverable.granted id row hrow)
  · intro id row' hrow' hterminal
    obtain ⟨row, hrow, -, hrequest, hold | hnew⟩ := hterminals id row' hrow' hterminal
    · rcases h.recoverable.released id row hrow hold with hreleased | hclosed
      · exact .inl (op.released db hreleased)
      · -- the request is there, and it is not opened again
        rw [← hrequest]
        refine .inr fun hopen => ?_
        obtain ⟨request, hget⟩ :=
          Option.ne_none_iff_exists'.mp (h.flown.followers.requested id row hrow)
        have hstate : request.state ≠ .queued := by
          intro hqueued
          exact hclosed (Option.map_eq_some_iff.mpr ⟨request, hget, hqueued⟩)
        obtain ⟨request', hget', hqueued'⟩ := Option.map_eq_some_iff.mp hopen
        have hkept := hlater.requests row.logicalRequestId request hget hstate
        obtain rfl := Option.some.inj (hkept.symm.trans hget')
        exact hstate hqueued'
    · exact hnew

theorem Database.Sane.next {op : Operation} {db : Database} (h : db.Sane)
    (hop : op.FencedInFlight db) : (op.next db).Sane where
  flown := h.flown.next hop.2.1 hop.2.2
  answered := (Operation.answered hop.2.1 h.answered).1
  work := h.work.next hop.1
  gates := h.gates.steps ((op.transition db).gate_steps op.uses_any)
  recoverable := .next h hop

theorem Database.initial_sane : Database.initial.Sane where
  flown := Database.initial_flown
  answered := Database.initial_answered _
  work := workGranted_initial
  gates := gatesExact_init
  recoverable := Database.initial_recoverable

theorem Reachable.sane {db : Database}
    (hrun : Reachable (fun op db => op.FencedInFlight db) db) : db.Sane :=
  Reaches.invariant Database.Sane (fun _ _ hop h => h.next hop) Database.initial_sane hrun

end StockResearch.Requests
