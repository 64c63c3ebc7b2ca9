import StockResearch.Requests.GateOccupancy

/-!
# The physical attempts as a machine of their own

Whatever the repository does, its attempt rows are created reserved, discarded while
they are reserved, or moved forward: reserved to started, reserved or started to a
terminal outcome, and reserved from one lease generation to the next.

- `AttemptMove`, `AttemptStep`: the steps of one row and of the table.
- `Operation.Creates`: the calls that create an attempt, with the checks they passed.
- `AttemptsLater`, `ReservationsLater`: what no later step takes back.
-/

namespace StockResearch.Requests

open Relation (ReflTransGen)

/-- The table of physical attempts. -/
abbrev AttemptTable := Table Identifier PhysicalAttemptRow

/-! ## Steps -/

/-- How one attempt row moves forward. -/
inductive AttemptMove : PhysicalAttemptRow → PhysicalAttemptRow → Prop
  | stay (row : PhysicalAttemptRow) : AttemptMove row row
  | start {row : PhysicalAttemptRow} (hreserved : row.state = .reserved) :
    AttemptMove row { row with state := .started }
  | finish {row : PhysicalAttemptRow} {outcome : PhysicalAttemptState} (rawEligible : Bool)
      (hactive : row.state.isActive = true) (hterminal : outcome.isActive = false) :
    AttemptMove row { row with state := outcome, rawEligible := rawEligible }
  | transfer {row : PhysicalAttemptRow} (generation : Nat) (hreserved : row.state = .reserved) :
    AttemptMove row { row with leaseGeneration := generation }

namespace AttemptMove

variable {row row' : PhysicalAttemptRow}

theorem request (h : AttemptMove row row') : row'.logicalRequestId = row.logicalRequestId := by
  cases h <;> rfl

theorem sequence (h : AttemptMove row row') : row'.sequenceNumber = row.sequenceNumber := by
  cases h <;> rfl

/-- No move makes an attempt live again. -/
theorem active (h : AttemptMove row row') (hactive : row'.state.isActive = true) :
    row.state.isActive = true := by
  cases h with
  | stay => exact hactive
  | start hreserved => rw [hreserved]; rfl
  | finish _ hlive => exact hlive
  | transfer _ hreserved => rw [hreserved]; rfl

/-- A terminal attempt does not move. -/
theorem terminal (h : AttemptMove row row') (hterminal : row.state.isActive = false) :
    row' = row := by
  cases h with
  | stay => rfl
  | start hreserved => rw [hreserved] at hterminal; cases hterminal
  | finish _ hlive => rw [hlive] at hterminal; cases hterminal
  | transfer _ hreserved => rw [hreserved] at hterminal; cases hterminal

/-- No move goes back to `reserved`. -/
theorem reserved (h : AttemptMove row row') (hreserved : row'.state = .reserved) :
    row.state = .reserved := by
  cases h with
  | stay => exact hreserved
  | start => cases hreserved
  | finish _ _ hterminal =>
    simp only at hreserved
    rw [hreserved] at hterminal
    cases hterminal
  | transfer _ h => exact h

end AttemptMove

/-- Every row of a table moves, none appears or disappears. -/
def AttemptsMove (attempts attempts' : AttemptTable) : Prop :=
  ∀ id, Option.Rel AttemptMove (attempts.get? id) (attempts'.get? id)

theorem AttemptsMove.refl (attempts : AttemptTable) : AttemptsMove attempts attempts := by
  intro id
  cases attempts.get? id with
  | none => exact .none
  | some row => exact .some (.stay row)

theorem AttemptsMove.of_some {attempts attempts' : AttemptTable} (h : AttemptsMove attempts attempts')
    {id : Identifier} {row : PhysicalAttemptRow} (hrow : attempts.get? id = some row) :
    ∃ row', attempts'.get? id = some row' ∧ AttemptMove row row' := by
  have hrel := h id
  rw [hrow] at hrel
  cases hnew : attempts'.get? id with
  | none => rw [hnew] at hrel; cases hrel
  | some row' =>
    rw [hnew] at hrel
    cases hrel with
    | some hmove => exact ⟨row', rfl, hmove⟩

theorem AttemptsMove.to_some {attempts attempts' : AttemptTable} (h : AttemptsMove attempts attempts')
    {id : Identifier} {row' : PhysicalAttemptRow} (hrow : attempts'.get? id = some row') :
    ∃ row, attempts.get? id = some row ∧ AttemptMove row row' := by
  have hrel := h id
  rw [hrow] at hrel
  cases hold : attempts.get? id with
  | none => rw [hold] at hrel; cases hrel
  | some row =>
    rw [hold] at hrel
    cases hrel with
    | some hmove => exact ⟨row, rfl, hmove⟩

/-- An update moves every row when it moves the rows it selects. -/
theorem attemptsMove_updateWhere {attempts : AttemptTable}
    {p : Identifier → PhysicalAttemptRow → Bool} {f : PhysicalAttemptRow → PhysicalAttemptRow}
    (h : ∀ id row, attempts.get? id = some row → p id row = true → AttemptMove row (f row)) :
    AttemptsMove attempts (attempts.updateWhere p f) := by
  intro id
  rw [Table.get?_updateWhere]
  cases hrow : attempts.get? id with
  | none => exact .none
  | some row =>
    refine .some ?_
    by_cases hp : p id row = true
    · simp only [hp, if_true]
      exact h id row hrow hp
    · simp only [hp]
      exact .stay row

/-- An attempt that has acquired its gates at some time. -/
def GateTables.Gated (gates : GateTables) (attemptId : Identifier) : Prop :=
  ∃ reservationId row, gates.reservations.get? reservationId = some row ∧
    row.physicalAttemptId = attemptId

/-- The steps of the attempt table. `creates` is what holds of the rows that appear,
`gated` are the attempts that may not be discarded. -/
inductive AttemptStep (creates : AttemptTable → Identifier → PhysicalAttemptRow → Prop)
    (gated : Identifier → Prop) : AttemptTable → AttemptTable → Prop
  | create {attempts : AttemptTable} {id : Identifier} {row : PhysicalAttemptRow}
      (hcreates : creates attempts id row) (hfresh : attempts.get? id = none)
      (hreserved : row.state = .reserved) :
    AttemptStep creates gated attempts (attempts.insert id row)
  | discard {attempts : AttemptTable} {id : Identifier} {row : PhysicalAttemptRow}
      (hrow : attempts.get? id = some row) (hreserved : row.state = .reserved)
      (hungated : ¬ gated id) :
    AttemptStep creates gated attempts (attempts.deleteWhere fun k _ => k = id)
  | move {attempts attempts' : AttemptTable} (hmoves : AttemptsMove attempts attempts') :
    AttemptStep creates gated attempts attempts'

/-! ## The calls that create attempts -/

/-- The checks of an acquisition that creates its attempt. -/
def AcquisitionCreates (reservationId : Identifier) (attempt : ProductionPhysicalAttempt)
    (keys : GateKeys) (policy : HierarchicalGatePolicy) (lease : RuntimeLease) (now : DateTime)
    (db : Database) : Prop :=
  attempt.leaseGeneration = lease.generation ∧ assertFence db lease now = .ok () ∧
    (db.queue.entries.get? attempt.logicalRequestId).map (·.state) = some .dequeued ∧
    (db.ledger.requests.get? attempt.logicalRequestId).map (·.state) = some .queued ∧
    firstBlocked db.gates policy now keys.ordered = .ok none ∧
    db.attempts.get? attempt.physicalAttemptId = none ∧
    attempt.sequenceNumber = maxSequence db.attempts attempt.logicalRequestId + 1 ∧
    db.gates.reservations.get? reservationId = none

instance (reservationId : Identifier) (attempt : ProductionPhysicalAttempt) (keys : GateKeys)
    (policy : HierarchicalGatePolicy) (lease : RuntimeLease) (now : DateTime) (db : Database) :
    Decidable (AcquisitionCreates reservationId attempt keys policy lease now db) :=
  inferInstanceAs (Decidable (_ ∧ _))

/-- The calls that create an attempt, with the checks they passed. -/
inductive Operation.Creates (db : Database) : Operation → Identifier → PhysicalAttemptRow → Prop
  | add {attempt : ProductionPhysicalAttempt}
      (hunused : (db.attempts.select fun _ other =>
        other.logicalRequestId = attempt.logicalRequestId &&
          other.sequenceNumber = attempt.sequenceNumber) = []) :
    Creates db (.addPhysicalAttempt attempt) attempt.physicalAttemptId attempt.row
  | acquire {reservationId : Identifier} {attempt : ProductionPhysicalAttempt} {keys : GateKeys}
      {policy : HierarchicalGatePolicy} {lease : RuntimeLease} {now : DateTime}
      (hcreates : AcquisitionCreates reservationId attempt keys policy lease now db) :
    Creates db (.acquireGates reservationId attempt keys policy lease now)
      attempt.physicalAttemptId attempt.row
  | reserve {attemptId logicalRequestId : Identifier} {lease : RuntimeLease} {now : DateTime}
      (hunknown : (db.attempts.select fun _ row =>
        row.logicalRequestId = logicalRequestId && row.state = .unknown) = [])
      (hlive : (db.attempts.select fun _ row =>
        row.logicalRequestId = logicalRequestId && row.state.isActive) = []) :
    Creates db (.reserveNextPhysicalAttempt attemptId logicalRequestId lease now) attemptId
      (ProductionPhysicalAttempt.row ⟨attemptId, logicalRequestId,
        maxSequence db.attempts logicalRequestId + 1, lease.generation, isoformat now⟩)

variable {creates : AttemptTable → Identifier → PhysicalAttemptRow → Prop}
  {gated : Identifier → Prop}

/-! ## Every operation is a chain of steps -/

theorem activeAttempt_eq_some {db : Database} {logicalRequestId attemptId : Identifier}
    {row : PhysicalAttemptRow} (h : activeAttempt db logicalRequestId = some (attemptId, row)) :
    db.attempts.get? attemptId = some row ∧ row.logicalRequestId = logicalRequestId ∧
      row.state.isActive = true := by
  have hmem : (attemptId, row) ∈ orderedAttempts db.attempts logicalRequestId :=
    List.mem_of_find?_eq_some h
  rw [orderedAttempts, mem_orderBy, Table.mem_select, decide_eq_true_eq] at hmem
  exact ⟨hmem.1, hmem.2, by simpa using List.find?_some h⟩

/-- An exchange in flight becomes unknown. -/
theorem attemptsMove_interrupt {attempts : AttemptTable}
    {p : Identifier → PhysicalAttemptRow → Bool}
    (hp : ∀ id row, p id row = true → row.state = .started) :
    AttemptsMove attempts (attempts.updateWhere p fun row => { row with state := .unknown }) :=
  attemptsMove_updateWhere fun id row _ h =>
    .finish row.rawEligible (by rw [hp id row h]; rfl) rfl

theorem cancelStartedFlight_moves {fingerprint : Sha256Hex} {now : DateTime} {reason : Identifier}
    {db db' : Database} (h : cancelStartedFlight fingerprint now reason db = .ok db') :
    AttemptsMove db.attempts db'.attempts := by
  obtain ⟨leaderId, -, -, hattempts, -⟩ := cancelStartedFlight_frame h
  rw [hattempts]
  refine attemptsMove_interrupt fun id row hp => ?_
  simp only [Bool.and_eq_true, decide_eq_true_eq] at hp
  exact hp.2

theorem dropReservedAttempt_moves {logicalRequestId : Identifier} {now : DateTime}
    {db db' : Database}
    (h : dropReservedAttempt logicalRequestId now (activeAttempt db logicalRequestId) db =
      .ok db') : AttemptsMove db.attempts db'.attempts := by
  rcases dropReservedAttempt_eq_ok h with ⟨-, rfl⟩ | ⟨attemptId, row, gates, hactive, -, -, rfl⟩
  · exact .refl _
  · obtain ⟨hget, -, hlive⟩ := activeAttempt_eq_some hactive
    refine attemptsMove_updateWhere fun id row' hrow hid => ?_
    simp only [decide_eq_true_eq] at hid
    subst hid
    obtain rfl : row' = row := by rw [hget] at hrow; exact (Option.some.inj hrow).symm
    exact .finish row'.rawEligible hlive rfl

theorem cancelLeader_attempt_steps {logicalRequestId : Identifier} {fingerprint : Sha256Hex}
    {now : DateTime} {reason : Identifier} {db db' : Database} {promoted : Option Identifier}
    (h : cancelLeader logicalRequestId fingerprint now reason db = .ok (promoted, db')) :
    ReflTransGen (AttemptStep creates gated) db.attempts db'.attempts := by
  rcases cancelLeader_eq_ok h with ⟨-, -, hcancel⟩ | ⟨dropped, -, -, hdrop, hrest⟩
  · exact .single (.move (cancelStartedFlight_moves hcancel))
  · have hdropped : AttemptStep creates gated db.attempts dropped.attempts :=
      .move (dropReservedAttempt_moves hdrop)
    rcases hrest with ⟨-, -, hcancel⟩ | ⟨-, hcancel⟩
    · exact .head hdropped (.single (.move (cancelStartedFlight_moves hcancel)))
    · rw [(cancelUnsentLeader_frame hcancel).attempts]
      exact .single hdropped

/-- Recovery ends what was in flight and takes the reserved attempts over. -/
theorem transferAttempts_steps (generation : Nat) (attempts : AttemptTable) :
    ReflTransGen (AttemptStep creates gated) attempts (transferAttempts generation attempts) := by
  refine .head (.move (attemptsMove_interrupt fun id row hp => ?_))
    (.single (.move (attemptsMove_updateWhere fun id row _ hp => ?_)))
  · simp only [Bool.and_eq_true, decide_eq_true_eq] at hp
    exact hp.1
  · simp only [Bool.and_eq_true, decide_eq_true_eq] at hp
    exact .transfer _ hp.1

theorem insertAttempt_step {ledger : LedgerTables} {attempts attempts' : AttemptTable}
    {id : Identifier} {row : PhysicalAttemptRow} (hreserved : row.state = .reserved)
    (hcreates : creates attempts id row) (h : insertAttempt ledger attempts id row = .ok attempts') :
    AttemptStep creates gated attempts attempts' := by
  obtain ⟨-, -, hfresh, rfl⟩ := insertAttempt_eq_ok.mp h
  exact .create hcreates hfresh hreserved

/-- Every operation moves the attempt table by a chain of steps. -/
theorem Transition.attempt_steps {op : Operation} {db db' : Database} (h : Transition op db db')
    (hcreates : ∀ id row, op.Creates db id row → creates db.attempts id row) :
    ReflTransGen (AttemptStep creates db.gates.Gated) db.attempts db'.attempts := by
  cases h with
  | unchanged | publish | heartbeat | release | submit | enqueue | rejectEnqueue | claim
  | cancelFollower | blocked => exact .refl
  | admitLeader _ _ hreconcile _ _ _ hqueue =>
    have hattempts : db'.attempts = db.attempts :=
      (queueLeader_frame hqueue).attempts.trans (reconcileTerminalFlights_frame hreconcile).attempts
    rw [hattempts]
  | admitFollower _ _ hreconcile => rw [(reconcileTerminalFlights_frame hreconcile).attempts]
  | cancelLeader _ _ _ _ hcancel => exact cancelLeader_attempt_steps hcancel
  | acquire hfence hgeneration hdequeued hqueued hfree hattempt hreserve =>
    rcases ensureReservedAttempt_eq_ok hattempt with
      ⟨hfresh, hsequence, hinsert⟩ | ⟨row, -, -, -, -, -, -, rfl⟩
    · -- the attempt is new: it is created with its gates
      obtain ⟨-, hreservation, -⟩ := insertReservation_eq_ok.mp hreserve
      exact .single (insertAttempt_step rfl (hcreates _ _ (.acquire ⟨hgeneration,
        assertFence_eq_ok.mpr ⟨_, hfence⟩, hdequeued, hqueued, hfree, hfresh, hsequence,
        hreservation⟩)) hinsert)
    · exact .refl
  -- live attempts of the reservation come to a terminal state
  | finish hop rawEligible =>
    refine .single (.move (attemptsMove_updateWhere fun id row _ hp => ?_))
    simp only [Bool.and_eq_true, decide_eq_true_eq] at hp
    exact .finish rawEligible hp.2 hop.terminal
  | addAttempt hattempt =>
    obtain ⟨-, hunused, -, -⟩ := insertAttempt_eq_ok.mp hattempt
    exact .single (insertAttempt_step rfl (hcreates _ _ (.add hunused)) hattempt)
  | reserveAttempt _ _ hunknown hlive hattempt =>
    exact .single (insertAttempt_step rfl (hcreates _ _ (.reserve hunknown hlive)) hattempt)
  | discardAttempt _ hattempt _ hreserved hungated =>
    refine .single (.discard hattempt hreserved ?_)
    rintro ⟨reservationId, row, hrow, rfl⟩
    rw [Table.select_eq_nil_iff] at hungated
    simpa using hungated reservationId row hrow
  | @startAttempt attemptId _ _ _ _ attempt _ hattempt _ hreserved =>
    refine .single (.move (attemptsMove_updateWhere fun id row hrow hid => ?_))
    simp only [decide_eq_true_eq] at hid
    subst hid
    obtain rfl : row = attempt := by rw [hattempt] at hrow; exact (Option.some.inj hrow).symm
    exact .start hreserved
  | close _ _ _ hfinish => rw [(finishSingleFlight_frame hfinish).attempts]
  | acquireLease _ _ hreconcile => rw [(reconcileTerminalFlights_frame hreconcile).attempts]
  -- attempts are transferred to the new generation, those in flight stop
  | recover _ hrepairs hreconcile =>
    obtain ⟨-, -, gates, _, _, -, -, -, rfl⟩ := hrepairs
    have hframe := (reconcileTerminalFlights_frame hreconcile).attempts
    change ReflTransGen (AttemptStep creates _) db.attempts _
    rw [hframe]
    exact transferAttempts_steps _ _

/-! ## What is never taken back -/

/-- No attempt that left `reserved` is deleted or reserved again, and a terminal one
never changes. -/
def AttemptsLater (attempts attempts' : AttemptTable) : Prop :=
  ∀ id row, attempts.get? id = some row → row.state ≠ .reserved →
    ∃ row', attempts'.get? id = some row' ∧ row'.state ≠ .reserved ∧
      row'.logicalRequestId = row.logicalRequestId ∧ (row.state.isActive = false → row' = row)

theorem AttemptsLater.refl (attempts : AttemptTable) : AttemptsLater attempts attempts :=
  fun _ row hrow hstate => ⟨row, hrow, hstate, rfl, fun _ => rfl⟩

theorem AttemptsLater.trans {a b c : AttemptTable} (hab : AttemptsLater a b)
    (hbc : AttemptsLater b c) : AttemptsLater a c := by
  intro id row hrow hstate
  obtain ⟨row', hrow', hstate', hrequest, hsame⟩ := hab id row hrow hstate
  obtain ⟨row'', hrow'', hstate'', hrequest', hsame'⟩ := hbc id row' hrow' hstate'
  refine ⟨row'', hrow'', hstate'', hrequest'.trans hrequest, fun hterminal => ?_⟩
  obtain rfl := hsame hterminal
  exact hsame' hterminal

theorem AttemptStep.later {attempts attempts' : AttemptTable}
    (h : AttemptStep creates gated attempts attempts') : AttemptsLater attempts attempts' := by
  intro id row hrow hstate
  cases h with
  | @create id' _ _ hfresh =>
    have hne : id ≠ id' := by
      rintro rfl
      rw [hfresh] at hrow
      cases hrow
    refine ⟨row, ?_, hstate, rfl, fun _ => rfl⟩
    rw [Table.get?_insert hfresh, if_neg hne, hrow]
  | @discard id' _ hrow' hreserved =>
    have hne : id ≠ id' := by
      rintro rfl
      rw [hrow'] at hrow
      exact hstate (Option.some.inj hrow ▸ hreserved)
    refine ⟨row, ?_, hstate, rfl, fun _ => rfl⟩
    simp [hrow, hne]
  | move hmoves =>
    obtain ⟨row', hrow', hmove⟩ := hmoves.of_some hrow
    exact ⟨row', hrow', fun h => hstate (hmove.reserved h), hmove.request, hmove.terminal⟩

theorem attemptSteps_later {attempts attempts' : AttemptTable}
    (h : ReflTransGen (AttemptStep creates gated) attempts attempts') :
    AttemptsLater attempts attempts' := by
  induction h with
  | refl => exact .refl _
  | tail _ hstep ih => exact ih.trans hstep.later

theorem Transition.attempt_steps_any {op : Operation} {db db' : Database}
    (h : Transition op db db') :
    ReflTransGen (AttemptStep (fun _ _ _ => True) db.gates.Gated) db.attempts db'.attempts :=
  h.attempt_steps fun _ _ _ => trivial

/-- No operation takes back what left `reserved`. -/
theorem Operation.attempts_later (op : Operation) (db : Database) :
    AttemptsLater db.attempts (op.next db).attempts :=
  attemptSteps_later (op.transition db).attempt_steps_any

/-- Every reservation stays, with its attempt, request and generation. -/
def ReservationsLater (gates gates' : GateTables) : Prop :=
  ∀ id row, gates.reservations.get? id = some row →
    ∃ row', gates'.reservations.get? id = some row' ∧
      row'.physicalAttemptId = row.physicalAttemptId ∧
      row'.logicalRequestId = row.logicalRequestId ∧ row'.leaseGeneration = row.leaseGeneration

theorem ReservationsLater.refl (gates : GateTables) : ReservationsLater gates gates :=
  fun _ row hrow => ⟨row, hrow, rfl, rfl, rfl⟩

theorem ReservationsLater.trans {a b c : GateTables} (hab : ReservationsLater a b)
    (hbc : ReservationsLater b c) : ReservationsLater a c := by
  intro id row hrow
  obtain ⟨row', hrow', hattempt, hrequest, hgeneration⟩ := hab id row hrow
  obtain ⟨row'', hrow'', hattempt', hrequest', hgeneration'⟩ := hbc id row' hrow'
  exact ⟨row'', hrow'', hattempt'.trans hattempt, hrequest'.trans hrequest,
    hgeneration'.trans hgeneration⟩

theorem GateStep.reservations_later {used : HierarchicalGatePolicy → GateKeys → Prop}
    {gates gates' : GateTables} (h : GateStep used gates gates') : ReservationsLater gates gates' := by
  intro id row hrow
  cases h with
  | audit | cooldown => exact ⟨row, hrow, rfl, rfl, rfl⟩
  | @acquire _ _ _ _ reservationId _ _ _ _ hreserve _ htaken =>
    obtain ⟨-, hfresh, rfl⟩ := insertReservation_eq_ok.mp hreserve
    have hne : id ≠ reservationId := by
      rintro rfl
      rw [hfresh] at hrow
      cases hrow
    refine ⟨row, ?_, rfl, rfl, rfl⟩
    rw [htaken.reservations]
    exact (Table.get?_insert hfresh _ _).trans (by rw [if_neg hne, hrow])
  | @giveBack reservationId _ _ _ final =>
    by_cases hid : id = reservationId
    · subst hid
      exact ⟨{ row with state := final }, by simp [hrow], rfl, rfl, rfl⟩
    · exact ⟨row, by simp [hid, hrow], rfl, rfl, rfl⟩

theorem gateSteps_reservations_later {used : HierarchicalGatePolicy → GateKeys → Prop}
    {gates gates' : GateTables} (h : ReflTransGen (GateStep used) gates gates') :
    ReservationsLater gates gates' := by
  induction h with
  | refl => exact .refl _
  | tail _ hstep ih => exact ih.trans hstep.reservations_later

/-- No operation removes a reservation. -/
theorem Operation.reservations_later (op : Operation) (db : Database) :
    ReservationsLater db.gates (op.next db).gates :=
  gateSteps_reservations_later ((op.transition db).gate_steps op.uses_any)

/-! ## The attempt of a reservation -/

/-- A gated attempt stays, with its request. -/
theorem AttemptStep.kept {attempts attempts' : AttemptTable}
    (h : AttemptStep creates gated attempts attempts') {id : Identifier} {row : PhysicalAttemptRow}
    (hgated : gated id) (hrow : attempts.get? id = some row) :
    ∃ row', attempts'.get? id = some row' ∧ row'.logicalRequestId = row.logicalRequestId := by
  cases h with
  | @create id' _ _ hfresh =>
    have hne : id ≠ id' := by
      rintro rfl
      rw [hfresh] at hrow
      cases hrow
    refine ⟨row, ?_, rfl⟩
    rw [Table.get?_insert hfresh, if_neg hne, hrow]
  | @discard id' _ _ _ hungated =>
    have hne : id ≠ id' := by
      rintro rfl
      exact hungated hgated
    exact ⟨row, by simp [hrow, hne], rfl⟩
  | move hmoves =>
    obtain ⟨row', hrow', hmove⟩ := hmoves.of_some hrow
    exact ⟨row', hrow', hmove.request⟩

theorem attemptSteps_kept {attempts attempts' : AttemptTable}
    (h : ReflTransGen (AttemptStep creates gated) attempts attempts') {id : Identifier}
    {row : PhysicalAttemptRow} (hgated : gated id) (hrow : attempts.get? id = some row) :
    ∃ row', attempts'.get? id = some row' ∧ row'.logicalRequestId = row.logicalRequestId := by
  induction h with
  | refl => exact ⟨row, hrow, rfl⟩
  | tail _ hstep ih =>
    obtain ⟨mid, hmid, hrequest⟩ := ih
    obtain ⟨row', hrow', hrequest'⟩ := hstep.kept hgated hmid
    exact ⟨row', hrow', hrequest'.trans hrequest⟩

/-- Without an acquisition no reservation appears. -/
theorem gateSteps_reservations_from {gates gates' : GateTables}
    (h : ReflTransGen (GateStep fun _ _ => False) gates gates') {id : Identifier}
    {row' : GateReservationRow} (hrow : gates'.reservations.get? id = some row') :
    ∃ row, gates.reservations.get? id = some row ∧
      row'.physicalAttemptId = row.physicalAttemptId ∧
      row'.logicalRequestId = row.logicalRequestId := by
  induction h generalizing row' with
  | refl => exact ⟨row', hrow, rfl, rfl⟩
  | tail _ hstep ih =>
    cases hstep with
    | audit | cooldown => exact ih hrow
    | acquire hused => exact hused.elim
    | @giveBack reservationId _ _ _ final =>
      rw [Table.get?_modify] at hrow
      split at hrow
      · rename_i hid
        subst hid
        obtain ⟨mid, hmid, rfl⟩ := Option.map_eq_some_iff.mp hrow
        obtain ⟨row, hrow, hattempt, hrequest⟩ := ih hmid
        exact ⟨row, hrow, hattempt, hrequest⟩
      · exact ih hrow

/-- Every reservation belongs to an attempt of its request. -/
def AttemptsHeld (db : Database) : Prop :=
  ∀ reservationId reservation, db.gates.reservations.get? reservationId = some reservation →
    ∃ row, db.attempts.get? reservation.physicalAttemptId = some row ∧
      row.logicalRequestId = reservation.logicalRequestId

/-- The attempt an acquisition leaves behind. -/
theorem ensureReservedAttempt_row {ledger : LedgerTables} {attempts attempts' : AttemptTable}
    {attempt : ProductionPhysicalAttempt}
    (h : ensureReservedAttempt ledger attempts attempt = .ok attempts') :
    ∃ row, attempts'.get? attempt.physicalAttemptId = some row ∧
      row.logicalRequestId = attempt.logicalRequestId ∧ row.state = .reserved := by
  rcases ensureReservedAttempt_eq_ok h with
    ⟨hfresh, -, hinsert⟩ | ⟨row, hrow, hrequest, -, -, -, hreserved, rfl⟩
  · obtain ⟨-, -, -, rfl⟩ := insertAttempt_eq_ok.mp hinsert
    exact ⟨attempt.row, by rw [Table.get?_insert hfresh, if_pos rfl], rfl, rfl⟩
  · exact ⟨row, hrow, hrequest, hreserved⟩

/-- Without an acquisition, reservations keep their attempts. -/
theorem AttemptsHeld.keep {op : Operation} {db : Database} (hheld : AttemptsHeld db)
    (hnone : op.Uses fun _ _ => False) : AttemptsHeld (op.next db) := by
  intro reservationId reservation' hreservation
  obtain ⟨reservation, hold, hattempt, hrequest⟩ :=
    gateSteps_reservations_from ((op.transition db).gate_steps hnone) hreservation
  obtain ⟨row, hrow, hsame⟩ := hheld reservationId reservation hold
  obtain ⟨row', hrow', hsame'⟩ := attemptSteps_kept (op.transition db).attempt_steps_any
    ⟨reservationId, reservation, hold, rfl⟩ hrow
  exact ⟨row', hattempt ▸ hrow', by rw [hsame', hsame, hrequest]⟩

/-- An acquisition adds one reservation, of the attempt it made or found. -/
theorem AttemptsHeld.acquireGates {db : Database} (hheld : AttemptsHeld db)
    (reservationId : Identifier) (attempt : ProductionPhysicalAttempt) (keys : GateKeys)
    (policy : HierarchicalGatePolicy) (lease : RuntimeLease) (now : DateTime) :
    AttemptsHeld (acquireGates reservationId attempt keys policy lease now db).2 := by
  rcases acquireGates_cases reservationId attempt keys policy lease now db with
    h | ⟨_, -, -, -, -, ⟨_, _, -, h⟩ | ⟨attempts, _, _, -, hattempt, hreserve, hgates, h⟩⟩
  · rw [h.snd]
    exact hheld
  · -- a closed gate leaves the attempts alone
    rw [h]
    exact hheld
  · -- the new reservation, beside those that are there
    rw [h]
    obtain ⟨-, hfresh, rfl⟩ := insertReservation_eq_ok.mp hreserve
    -- an attempt that is made here replaces none, and one that is found stays
    have hkeep : ∀ id row, db.gates.Gated id → db.attempts.get? id = some row →
        ∃ row', attempts.get? id = some row' ∧ row'.logicalRequestId = row.logicalRequestId := by
      intro id row hgated hrow
      rcases ensureReservedAttempt_eq_ok hattempt with
        ⟨-, -, hinsert⟩ | ⟨_, -, -, -, -, -, -, rfl⟩
      · have hstep : AttemptStep (fun _ _ _ => True) db.gates.Gated db.attempts attempts :=
          insertAttempt_step rfl trivial hinsert
        exact hstep.kept hgated hrow
      · exact ⟨row, hrow, rfl⟩
    intro reservationId' reservation hrow
    rw [(acquireGates_taken (ordered_nodup _) hgates).reservations,
      Table.get?_insert hfresh] at hrow
    split at hrow
    · obtain rfl := Option.some.inj hrow
      obtain ⟨row, hrow', hrequest, -⟩ := ensureReservedAttempt_row hattempt
      exact ⟨row, hrow', hrequest⟩
    · obtain ⟨row, hold, hsame⟩ := hheld reservationId' reservation hrow
      obtain ⟨row', hrow', hsame'⟩ := hkeep _ row ⟨reservationId', reservation, hrow, rfl⟩ hold
      exact ⟨row', hrow', hsame'.trans hsame⟩

theorem AttemptsHeld.next {db : Database} (hheld : AttemptsHeld db) (op : Operation) :
    AttemptsHeld (op.next db) := by
  cases op with
  | acquireGates reservationId attempt keys policy lease now =>
    exact hheld.acquireGates reservationId attempt keys policy lease now
  | _ => exact hheld.keep trivial

/-- Every reservation of a reachable database belongs to an attempt of its request. -/
theorem Reachable.attemptsHeld {allowed : Operation → Database → Prop} {db : Database}
    (h : Reachable allowed db) : AttemptsHeld db :=
  Reaches.invariant AttemptsHeld (fun op _ _ hheld => hheld.next op) (fun _ _ h => by cases h) h

end StockResearch.Requests
