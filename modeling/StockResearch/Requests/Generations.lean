import StockResearch.Requests.ExchangeClosed
import StockResearch.Requests.Fencing

/-!
# Outstanding work and the generation that owns it

Live attempts and active reservations carry the lease generation they were made under, and
only a lease of that generation can finish them. A takeover rewrites or ends them; a
release followed by an acquisition does not.

- `OutstandingWork`: what generations the outstanding work may have.
- `Idle`: nothing is outstanding.
- `Operation.AcquiresIdle`: the runs in which the current owner can finish all work.
-/

namespace StockResearch.Requests

open Relation (ReflTransGen)

/-! ## Outstanding work -/

/-- The generation of every live attempt satisfies `p`. -/
def LiveAttempts (p : Nat → Prop) (attempts : AttemptTable) : Prop :=
  ∀ id row, attempts.get? id = some row → row.state.isActive = true → p row.leaseGeneration

/-- The generation of every active reservation satisfies `p`. -/
def ActiveReservations (p : Nat → Prop) (gates : GateTables) : Prop :=
  ∀ id row, gates.reservations.get? id = some row → row.state = .active → p row.leaseGeneration

/-- The generation of every live attempt and every active reservation satisfies `p`. -/
structure OutstandingWork (p : Nat → Prop) (db : Database) : Prop where
  attempts : LiveAttempts p db.attempts
  reservations : ActiveReservations p db.gates

/-- No attempt is live and no reservation is active. -/
def Idle (db : Database) : Prop :=
  (db.attempts.select fun _ row => row.state.isActive) = [] ∧
    (db.gates.reservations.select fun _ row => row.state = .active) = []

instance (db : Database) : Decidable (Idle db) := inferInstanceAs (Decidable (_ ∧ _))

theorem idle_iff {db : Database} : Idle db ↔ OutstandingWork (fun _ => False) db := by
  rw [Idle, Table.select_eq_nil_iff, Table.select_eq_nil_iff]
  constructor
  · rintro ⟨hattempts, hreservations⟩
    refine ⟨fun id row hrow hlive => ?_, fun id row hrow hactive => ?_⟩
    · rw [hattempts id row hrow] at hlive
      cases hlive
    · exact of_decide_eq_false (hreservations id row hrow) hactive
  · rintro ⟨hattempts, hreservations⟩
    refine ⟨fun id row hrow => ?_, fun id row hrow => ?_⟩
    · exact Bool.eq_false_iff.mpr fun hlive => hattempts id row hrow hlive
    · exact decide_eq_false fun hactive => hreservations id row hrow hactive

section

variable {p q : Nat → Prop} {db : Database}

theorem OutstandingWork.mono (h : OutstandingWork p db) (hpq : ∀ g, p g → q g) :
    OutstandingWork q db :=
  ⟨fun id row hrow hlive => hpq _ (h.attempts id row hrow hlive),
    fun id row hrow hactive => hpq _ (h.reservations id row hrow hactive)⟩

theorem OutstandingWork.frame {db' : Database} (h : OutstandingWork p db)
    (hattempts : db'.attempts = db.attempts) (hgates : db'.gates = db.gates) :
    OutstandingWork p db' :=
  ⟨by rw [hattempts]; exact h.attempts, by rw [hgates]; exact h.reservations⟩

end

/-! ## Attempts -/

section

variable {p : Nat → Prop} {attempts : AttemptTable}

theorem LiveAttempts.updateWhere (h : LiveAttempts p attempts)
    {q : Identifier → PhysicalAttemptRow → Bool} {f : PhysicalAttemptRow → PhysicalAttemptRow}
    (hf : ∀ id row, attempts.get? id = some row → q id row = true → (f row).state.isActive = true →
      row.state.isActive = true ∧ (f row).leaseGeneration = row.leaseGeneration) :
    LiveAttempts p (attempts.updateWhere q f) := by
  intro id row hrow hlive
  rw [Table.get?_updateWhere, Option.map_eq_some_iff] at hrow
  obtain ⟨old, hold, rfl⟩ := hrow
  split at hlive
  · rename_i hq
    obtain ⟨hlive, hsame⟩ := hf id old hold hq hlive
    rw [if_pos hq, hsame]
    exact h id old hold hlive
  · rename_i hq
    rw [if_neg hq]
    exact h id old hold hlive

/-- Ending attempts leaves the others. -/
theorem LiveAttempts.finish (h : LiveAttempts p attempts)
    {q : Identifier → PhysicalAttemptRow → Bool} {f : PhysicalAttemptRow → PhysicalAttemptRow}
    (hf : ∀ row, (f row).state.isActive = false) : LiveAttempts p (attempts.updateWhere q f) :=
  h.updateWhere fun _ row _ _ hlive => by
    rw [hf row] at hlive
    cases hlive

theorem LiveAttempts.insert {ledger : LedgerTables} {id : Identifier} {row : PhysicalAttemptRow}
    {attempts' : AttemptTable} (h : LiveAttempts p attempts) (hrow : p row.leaseGeneration)
    (hinsert : insertAttempt ledger attempts id row = .ok attempts') : LiveAttempts p attempts' := by
  obtain ⟨-, -, hfresh, rfl⟩ := insertAttempt_eq_ok.mp hinsert
  intro other row' hget hlive
  rw [Table.get?_insert hfresh] at hget
  split at hget
  · obtain rfl := Option.some.inj hget
    exact hrow
  · exact h other row' hget hlive

theorem cancelStartedFlight_live {fingerprint : Sha256Hex} {now : DateTime} {reason : Identifier}
    {db db' : Database} (h : LiveAttempts p db.attempts)
    (hcancel : cancelStartedFlight fingerprint now reason db = .ok db') :
    LiveAttempts p db'.attempts := by
  obtain ⟨leaderId, -, -, hattempts, -⟩ := cancelStartedFlight_frame hcancel
  rw [hattempts]
  exact h.finish fun _ => rfl

theorem cancelLeader_live {logicalRequestId : Identifier} {fingerprint : Sha256Hex}
    {now : DateTime} {reason : Identifier} {db db' : Database} {promoted : Option Identifier}
    (h : LiveAttempts p db.attempts)
    (hcancel : cancelLeader logicalRequestId fingerprint now reason db = .ok (promoted, db')) :
    LiveAttempts p db'.attempts := by
  rcases cancelLeader_eq_ok hcancel with ⟨-, -, hcancel⟩ | ⟨dropped, -, -, hdrop, hrest⟩
  · exact cancelStartedFlight_live h hcancel
  · have hdropped : LiveAttempts p dropped.attempts := by
      rcases dropReservedAttempt_eq_ok hdrop with ⟨-, rfl⟩ | ⟨_, _, _, -, -, -, rfl⟩
      · exact h
      · exact h.finish fun _ => rfl
    rcases hrest with ⟨-, -, hcancel⟩ | ⟨-, hcancel⟩
    · exact cancelStartedFlight_live hdropped hcancel
    · rw [(cancelUnsentLeader_frame hcancel).attempts]
      exact hdropped

end

/-! ## Reservations -/

section

variable {p : Nat → Prop} {gates gates' : GateTables}

/-- Apart from acquisitions, a step of the gates makes no reservation active. -/
theorem ActiveReservations.step (h : ActiveReservations p gates)
    (hstep : GateStep (fun _ _ => False) gates gates') : ActiveReservations p gates' := by
  cases hstep with
  | audit | cooldown => exact h
  | acquire hused => cases hused
  | giveBack final hrow hactive hfinal =>
    intro id row hget hlive
    change (Table.modify gates.reservations _ _).get? id = some row at hget
    rw [Table.get?_modify] at hget
    split at hget
    · obtain ⟨old, -, rfl⟩ := Option.map_eq_some_iff.mp hget
      exact absurd hlive hfinal
    · exact h id row hget hlive

theorem ActiveReservations.steps (h : ActiveReservations p gates)
    (hsteps : ReflTransGen (GateStep fun _ _ => False) gates gates') :
    ActiveReservations p gates' := by
  induction hsteps with
  | refl => exact h
  | tail _ hstep ih => exact ih.step hstep

/-- A recovery loop leaves no reservation active that it was to give back. -/
theorem recoverReservations_inactive {error : RuntimeStorageError} {eventType : GateEventType}
    {reason : GateEventReason} {now : DateTime}
    {pending : List (Identifier × GateReservationRow)}
    (h : pending.foldlM (recoverReservation error eventType reason now) gates = .ok gates')
    {id : Identifier} {row : GateReservationRow} (hrow : gates'.reservations.get? id = some row)
    (hactive : row.state = .active) :
    gates.reservations.get? id = some row ∧ ∀ entry ∈ pending, entry.1 ≠ id := by
  -- an active row was there before, and what is still pending is pending
  have hkept := foldlM_invariant (f := recoverReservation error eventType reason now)
    (fun rest g => ∀ id row, g.reservations.get? id = some row → row.state = .active →
      gates.reservations.get? id = some row ∧
        ∀ entry ∈ pending, entry.1 = id → ∃ other ∈ rest, other.1 = id)
    (by
      intro entry rest g g' hg hstep id row hrow hactive
      obtain ⟨_, _, -, rfl⟩ := recoverReservation_eq_ok hstep
      change (Table.modify g.reservations _ _).get? id = some row at hrow
      rw [Table.get?_modify] at hrow
      split at hrow
      · obtain ⟨old, -, rfl⟩ := Option.map_eq_some_iff.mp hrow
        cases hactive
      · rename_i hne
        obtain ⟨hold, hrest⟩ := hg id row hrow hactive
        refine ⟨hold, fun other hother hid => ?_⟩
        obtain ⟨next, hnext, hnextId⟩ := hrest other hother hid
        rcases List.mem_cons.mp hnext with rfl | hmem
        · exact absurd hnextId.symm hne
        · exact ⟨next, hmem, hnextId⟩)
    (fun id row hrow _ => ⟨hrow, fun entry hentry hid => ⟨entry, hentry, hid⟩⟩) h
  obtain ⟨hold, hrest⟩ := hkept id row hrow hactive
  refine ⟨hold, fun entry hentry hid => ?_⟩
  obtain ⟨_, hmem, -⟩ := hrest entry hentry hid
  cases hmem

/-- Recovery leaves only reservations of later generations active. -/
theorem recoverGateReservations_inactive {generation : Nat} {now : DateTime}
    (h : recoverGateReservations generation now gates = .ok gates') {id : Identifier}
    {row : GateReservationRow} (hrow : gates'.reservations.get? id = some row)
    (hactive : row.state = .active) :
    gates.reservations.get? id = some row ∧ generation < row.leaseGeneration := by
  obtain ⟨hold, hout⟩ := recoverReservations_inactive h hrow hactive
  refine ⟨hold, ?_⟩
  by_contra hle
  refine hout (id, row) (Table.mem_select.mpr ⟨hold, ?_⟩) rfl
  simp [hactive, Nat.not_lt.mp hle]

end

/-! ## Steps -/

section

variable {p : Nat → Prop} {op : Operation} {db db' : Database}

/-- Apart from a takeover, a fenced operation makes work of the current generation only. -/
theorem Transition.outstanding (h : Transition op db db') (hfenced : op.fenced = true)
    (hrecover : ∀ ownerToken now policy, op ≠ .recoverExpiredLease ownerToken now policy)
    (hcurrent : ∀ row, db.lease = some row → row.active = true → p row.generation)
    (hwork : OutstandingWork p db) : OutstandingWork p db' := by
  -- what a fence lets through is made under the active generation
  have howned : ∀ {lease : RuntimeLease} {now : DateTime} {row : RuntimeLeaseRow},
      FenceHolds db lease now row → p lease.generation := fun hfence => by
    rw [← hfence.generation]
    exact hcurrent _ hfence.persisted hfence.active
  have hsteps : op.Uses (fun _ _ => False) → ActiveReservations p db'.gates := fun huses =>
    hwork.reservations.steps (h.gate_steps huses)
  cases h with
  -- no attempt and no reservation is made or moved
  | unchanged | publish | heartbeat | release | submit | enqueue | rejectEnqueue | claim
  | cancelFollower | blocked => exact ⟨hwork.attempts, hwork.reservations⟩
  | admitLeader _ _ hreconcile _ _ _ hqueue =>
    have hreconciled := reconcileTerminalFlights_frame hreconcile
    have hqueued := queueLeader_frame hqueue
    exact hwork.frame (hqueued.attempts.trans hreconciled.attempts)
      (hqueued.gates.trans hreconciled.gates)
  | admitFollower _ _ hreconcile =>
    have hreconciled := reconcileTerminalFlights_frame hreconcile
    exact hwork.frame hreconciled.attempts hreconciled.gates
  | cancelLeader _ _ _ _ hcancel => exact ⟨cancelLeader_live hwork.attempts hcancel, hsteps trivial⟩
  -- the attempt and the reservation bear the generation of the call
  | @acquire reservationId _ keys _ _ _ _ _ _ _ _ hfence hgeneration _ _ _ hattempt hreserve hgates =>
    have hown := howned hfence
    constructor
    · rcases ensureReservedAttempt_eq_ok hattempt with
        ⟨-, -, hinsert⟩ | ⟨row, -, -, -, -, -, -, rfl⟩
      · refine hwork.attempts.insert ?_ hinsert
        show p (ProductionPhysicalAttempt.row _).leaseGeneration
        rw [ProductionPhysicalAttempt.row, hgeneration]
        exact hown
      · exact hwork.attempts
    · obtain ⟨-, hfresh, rfl⟩ := insertReservation_eq_ok.mp hreserve
      intro id row hrow hactive
      rw [(acquireGates_taken (ordered_nodup keys) hgates).reservations] at hrow
      change (Table.insert db.gates.reservations _ _).get? id = some row at hrow
      rw [Table.get?_insert hfresh] at hrow
      split at hrow
      · obtain rfl := Option.some.inj hrow
        exact hown
      · exact hwork.reservations id row hrow hactive
  | finish hop rawEligible =>
    refine ⟨hwork.attempts.finish fun _ => hop.terminal, hsteps ?_⟩
    cases hop <;> trivial
  -- attempts are added without a fence here
  | addAttempt => cases hfenced
  | reserveAttempt hfence _ _ _ hattempt =>
    exact ⟨hwork.attempts.insert (howned hfence) hattempt, hwork.reservations⟩
  -- fewer attempts, and no new one
  | discardAttempt =>
    refine ⟨fun id row hrow hlive => ?_, hwork.reservations⟩
    simp only [Table.get?_deleteWhere, Option.filter_eq_some_iff] at hrow
    exact hwork.attempts id row hrow.1 hlive
  -- the started attempt was reserved, so live, before
  | @startAttempt attemptId _ _ _ _ attempt _ hattempt _ hreserved =>
    refine ⟨hwork.attempts.updateWhere fun id row hrow hid _ => ⟨?_, rfl⟩, hwork.reservations⟩
    simp only [decide_eq_true_eq] at hid
    subst hid
    obtain rfl := Option.some.inj (hattempt.symm.trans hrow)
    rw [hreserved]
    rfl
  | close hop _ _ hfinish =>
    have hframe := finishSingleFlight_frame hfinish
    exact hwork.frame hframe.attempts hframe.gates
  | acquireLease _ _ hreconcile =>
    have hframe := reconcileTerminalFlights_frame hreconcile
    exact hwork.frame hframe.attempts hframe.gates
  | recover => exact absurd rfl (hrecover _ _ _)

/-- A takeover ends all outstanding work except reserved attempts, and makes these its own. -/
theorem recoverExpiredLease_outstanding {ownerToken : Identifier} {now : DateTime}
    {policy : RuntimeLeasePolicy} {lease : RuntimeLease}
    (h : recoverExpiredLease ownerToken now policy db = (.ok lease, db'))
    (hwork : ∀ row, db.lease = some row → OutstandingWork (· ≤ row.generation) db) :
    OutstandingWork (· = lease.generation) db' := by
  obtain ⟨_, row, repaired, delivered, -, hrepairs, hreconcile, rfl, rfl⟩ :=
    recoverExpiredLease_eq_ok h
  obtain ⟨hpersisted, -⟩ := expiredLease_eq_ok.mp hrepairs.expired
  have hle := hwork row hpersisted
  obtain ⟨-, -, gates, _, _, hgates, -, -, rfl⟩ := hrepairs
  have hframe := reconcileTerminalFlights_frame hreconcile
  constructor
  · intro id attempt hrow hlive
    change delivered.attempts.get? id = some attempt at hrow
    rw [hframe.attempts] at hrow
    simp only [transferAttempts, Table.get?_updateWhere, Option.map_eq_some_iff] at hrow
    obtain ⟨mid, ⟨old, hold, rfl⟩, rfl⟩ := hrow
    have hgeneration := hle.attempts id old hold
    -- a started attempt becomes unknown, a reserved one moves to the new generation
    cases hstate : old.state with
    | reserved =>
      have := hgeneration (by rw [hstate]; rfl)
      simp [hstate, this]
    | started =>
      have := hgeneration (by rw [hstate]; rfl)
      simp [hstate, this, PhysicalAttemptState.isActive] at hlive
    | succeeded | failed | unknown => simp [hstate, PhysicalAttemptState.isActive] at hlive
  · intro id reservation hrow hactive
    change delivered.gates.reservations.get? id = some reservation at hrow
    rw [hframe.gates] at hrow
    obtain ⟨hold, hlater⟩ := recoverGateReservations_inactive hgates hrow hactive
    have := hle.reservations id reservation hold hactive
    omega

end

/-! ## Runs -/

/-- No outstanding work is of a generation that was not granted yet. -/
def WorkGranted (db : Database) : Prop := OutstandingWork (fun g => Granted g db.lease) db

/-- While the lease is active, all outstanding work is of its generation. -/
def WorkCurrent (db : Database) : Prop :=
  ∀ row, db.lease = some row → row.active = true → OutstandingWork (· = row.generation) db

/-- The operation is fenced, and if it acquires the lease, nothing is outstanding. -/
def Operation.AcquiresIdle (op : Operation) (db : Database) : Prop :=
  op.fenced = true ∧
    match op with
    | .acquireLease ownerToken now policy =>
      (Requests.acquireLease ownerToken now policy db).1.toOption.isSome = true → Idle db
    | _ => True

instance : (op : Operation) → (db : Database) → Decidable (op.AcquiresIdle db) := by
  rintro (_ | _) <;> unfold Operation.AcquiresIdle <;> infer_instance

section

variable {op : Operation} {db : Database}

theorem WorkGranted.next (h : WorkGranted db) (hfenced : op.fenced = true) :
    WorkGranted (op.next db) := by
  have hlater : ∀ g, Granted g db.lease → Granted g (op.next db).lease :=
    fun _ hg => (op.lease_move db).granted hg
  by_cases hrecover : ∀ ownerToken now policy, op ≠ .recoverExpiredLease ownerToken now policy
  · exact ((op.transition db).outstanding hfenced hrecover
      (fun row hrow _ => ⟨row, hrow, Nat.le_refl _⟩) h).mono hlater
  · simp only [not_forall, ne_eq, not_not] at hrecover
    obtain ⟨ownerToken, now, policy, rfl⟩ := hrecover
    rcases recoverExpiredLease_cases ownerToken now policy db with
      hr | ⟨expires, row, _, db', _, _, _, hr⟩
    · rw [Operation.next, Operation.run, discardValue_snd, hr.snd]
      exact h
    · have hnew := recoverExpiredLease_outstanding hr fun row hrow => h.mono fun g hg => by
        obtain ⟨row', hrow', hle⟩ := hg
        obtain rfl := Option.some.inj (hrow.symm.trans hrow')
        exact hle
      rw [recoverExpiredLease_next hr]
      exact hnew.mono fun g hg => ⟨_, rfl, Nat.le_of_eq hg⟩

/-- A lease is acquired without touching the outstanding work. -/
theorem acquireLease_outstanding {p : Nat → Prop} {ownerToken : Identifier} {now : DateTime}
    {policy : RuntimeLeasePolicy} {lease : RuntimeLease} {db' : Database}
    (h : acquireLease ownerToken now policy db = (.ok lease, db')) :
    OutstandingWork p db' ↔ OutstandingWork p db := by
  rcases acquireLease_cases ownerToken now policy db with
    hr | ⟨_, _, _, -, -, hreconcile, hr⟩
  · exact absurd h hr.ne_ok
  · rw [hr, Prod.mk.injEq] at h
    obtain ⟨-, rfl⟩ := h
    have hframe := reconcileTerminalFlights_frame hreconcile
    exact ⟨fun h => h.frame hframe.attempts.symm hframe.gates.symm,
      fun h => h.frame hframe.attempts hframe.gates⟩

/-- The new generation owns the outstanding work exactly when there is none. -/
theorem acquireLease_owns_iff (h : WorkGranted db) {ownerToken : Identifier} {now : DateTime}
    {policy : RuntimeLeasePolicy} {lease : RuntimeLease} {db' : Database}
    (hacquire : acquireLease ownerToken now policy db = (.ok lease, db')) :
    OutstandingWork (· = lease.generation) db' ↔ Idle db := by
  rw [acquireLease_outstanding hacquire, idle_iff]
  have hlater := (Operation.Grants.acquire hacquire).spec.1
  have hnone : ∀ g, Granted g db.lease → g ≠ lease.generation := by
    rintro g ⟨row, hrow, hle⟩ rfl
    have := hlater row hrow
    omega
  constructor
  · intro hown
    exact ⟨fun id row hrow hlive =>
        hnone _ (h.attempts id row hrow hlive) (hown.attempts id row hrow hlive),
      fun id row hrow hactive =>
        hnone _ (h.reservations id row hrow hactive) (hown.reservations id row hrow hactive)⟩
  · exact fun hidle => hidle.mono fun _ => False.elim

theorem WorkCurrent.next (h : WorkCurrent db) (hgranted : WorkGranted db)
    (hop : op.AcquiresIdle db) : WorkCurrent (op.next db) := by
  by_cases htakes : op.takes = true
  · cases op with
    | acquireLease ownerToken now policy =>
      rcases acquireLease_cases ownerToken now policy db with hr | ⟨_, _, _, _, _, hreconcile, hr⟩
      · rw [Operation.next, Operation.run, discardValue_snd, hr.snd]
        exact h
      · have hidle := hop.2 (by rw [hr]; rfl)
        rw [acquireLease_next hr]
        intro row hrow _
        rw [(reconcileTerminalFlights_frame hreconcile).lease] at hrow
        obtain rfl := Option.some.inj hrow
        exact (acquireLease_owns_iff hgranted hr).mpr hidle
    | recoverExpiredLease ownerToken now policy =>
      rcases recoverExpiredLease_cases ownerToken now policy db with
        hr | ⟨_, _, _, _, _, _, _, hr⟩
      · rw [Operation.next, Operation.run, discardValue_snd, hr.snd]
        exact h
      · rw [recoverExpiredLease_next hr]
        intro row hrow _
        obtain rfl := Option.some.inj hrow
        refine recoverExpiredLease_outstanding hr fun row hrow => hgranted.mono fun g hg => ?_
        obtain ⟨row', hrow', hle⟩ := hg
        obtain rfl := Option.some.inj (hrow.symm.trans hrow')
        exact hle
    | _ => cases htakes
  · intro row' hrow' hactive
    -- the generation is the one before, and it was active
    have hrow : ∃ row, db.lease = some row ∧ row.active = true ∧
        row'.generation = row.generation := by
      have hmove := op.lease_move db
      rw [hrow'] at hmove
      generalize db.lease = old at hmove
      cases hmove with
      | stay => exact ⟨row', rfl, hactive, rfl⟩
      | renew _ _ hold => exact ⟨_, rfl, hold, rfl⟩
      | release => cases hactive
      | grant htakes' => exact absurd htakes' htakes
    obtain ⟨row, hrow, hold, hsame⟩ := hrow
    rw [hsame]
    refine (op.transition db).outstanding hop.1 ?_ ?_ (h row hrow hold)
    · rintro ownerToken now policy rfl
      exact htakes rfl
    · intro current hcurrent _
      obtain rfl := Option.some.inj (hrow.symm.trans hcurrent)
      rfl

end

theorem workGranted_initial : WorkGranted .initial := by
  constructor
  · intro _ _ h
    cases h
  · intro _ _ h
    cases h

theorem workCurrent_initial : WorkCurrent .initial := by
  intro _ h
  cases h

theorem Reachable.workGranted {db : Database}
    (hrun : Reachable (fun op _ => op.fenced = true) db) : WorkGranted db :=
  Reaches.invariant WorkGranted (fun _ _ hfenced h => h.next hfenced) workGranted_initial hrun

theorem Reachable.workCurrent {db : Database} (hrun : Reachable (fun op db => op.AcquiresIdle db) db) :
    WorkCurrent db := by
  have hboth : WorkCurrent db ∧ WorkGranted db :=
    Reaches.invariant (fun db => WorkCurrent db ∧ WorkGranted db)
      (fun _ _ hop h => ⟨h.1.next h.2 hop, h.2.next hop.1⟩)
      ⟨workCurrent_initial, workGranted_initial⟩ hrun
  exact hboth.1

/-! ## The current owner can finish its work -/

/-- The value `acquire_gates` returned for the reservation. -/
def GateReservationRow.persisted (row : GateReservationRow) (id : Identifier) : GateReservation :=
  ⟨id, row.physicalAttemptId, row.logicalRequestId, row.leaseGeneration, row.acquiredAt⟩

section

variable {db : Database} {lease : RuntimeLease} {now : DateTime} {fence : RuntimeLeaseRow}

/-- A reserved attempt of the current generation can be started. -/
theorem markPhysicalAttemptStarted_succeeds {id : Identifier} {row : PhysicalAttemptRow}
    (hfence : FenceHolds db lease now fence) (hrow : db.attempts.get? id = some row)
    (hreserved : row.state = .reserved) (hgeneration : row.leaseGeneration = lease.generation) :
    (markPhysicalAttemptStarted id lease now db).1 = .ok () := by
  have hok : markPhysicalAttemptStarted id lease now db =
      (.ok (), { db with attempts := db.attempts.modify id fun row =>
        { row with state := .started } }) := by
    rw [markPhysicalAttemptStarted, transaction_eq_ok]
    simp only [bind_eq_ok, assertFence_eq_ok, require_eq_ok, pure_eq_ok, hrow, Option.any_some,
      hgeneration, hreserved, decide_true, Bool.and_self, exists_const]
    exact ⟨⟨fence, hfence⟩, trivial, trivial⟩
  rw [hok]

end

/-! ## The theorem -/

/-- **No work is orphaned across generations.** In every fenced run whose lease is only
acquired while nothing is outstanding, all live attempts and active reservations are of the
active generation: its owner can start every reserved attempt, discard it unless a
reservation names it, and finish every active reservation. The condition is exact: in every
fenced run, a lease that is acquired owns the outstanding work if and only if there is none. -/
theorem work_belongs_to_current_generation (db : Database) :
    (Reachable (fun op db => op.AcquiresIdle db) db →
      (∀ row, db.lease = some row → row.active = true → OutstandingWork (· = row.generation) db) ∧
      ∀ lease now fence, FenceHolds db lease now fence →
        (∀ id row, db.attempts.get? id = some row → row.state = .reserved →
          (markPhysicalAttemptStarted id lease now db).1 = .ok () ∧
          ((discardReservedAttempt id lease now db).1 = .ok () ↔ ¬ db.gates.Gated id)) ∧
        ∀ id row, db.gates.reservations.get? id = some row → row.state = .active →
          (∀ outcome, outcome = .succeeded ∨ outcome = .failed →
            (releaseGates (row.persisted id) outcome lease now none db).1 = .ok ()) ∧
          (recordUnknownOutcome (row.persisted id) lease now db).1 = .ok ()) ∧
    (Reachable (fun op _ => op.fenced = true) db →
      ∀ ownerToken now policy lease db', acquireLease ownerToken now policy db = (.ok lease, db') →
        (OutstandingWork (· = lease.generation) db' ↔ Idle db)) := by
  constructor
  · intro hrun
    refine ⟨hrun.workCurrent, fun lease now fence hfence => ?_⟩
    have hwork := hrun.workCurrent fence hfence.persisted hfence.active
    constructor
    · -- a reserved attempt is of the generation of the fence
      intro id row hrow hreserved
      have hgeneration : row.leaseGeneration = lease.generation :=
        (hwork.attempts id row hrow (by rw [hreserved]; rfl)).trans hfence.generation
      exact ⟨markPhysicalAttemptStarted_succeeds hfence hrow hreserved hgeneration,
        discardReservedAttempt_ok_iff hrun.publicationsTerminal hfence hrow hreserved hgeneration⟩
    · -- so is an active reservation
      intro id row hrow hactive
      have hgeneration : row.leaseGeneration = lease.generation :=
        (hwork.reservations id row hrow hactive).trans hfence.generation
      have hfinish : ∀ outcome rawEligible,
          (finishGateReservation (row.persisted id) outcome none rawEligible lease now db).1 =
            .ok () := by
        intro outcome rawEligible
        have hcurrent : db.gates.reservations.get? (row.persisted id).reservationId = some row := hrow
        obtain ⟨db', h⟩ := finishGateReservation_succeeds hrun.gatesExact hfence hcurrent hactive rfl
          rfl hgeneration outcome none rawEligible nofun
        rw [h]
      refine ⟨fun outcome houtcome => ?_, hfinish .unknown false⟩
      rcases houtcome with rfl | rfl
      · exact hfinish .succeeded true
      · exact hfinish .failed false
  · intro hrun ownerToken now policy lease db' hacquire
    exact acquireLease_owns_iff hrun.workGranted hacquire

namespace Sample

/-- The first owner releases its lease at second 4, the next one acquires it at second 5. -/
def handOver (db : Database) : Database :=
  runAll Operation.next
    [.releaseLease lease (at_ 4), .acquireLease nextOwner (at_ 5) leasePolicy] db

/-- The lease of the next owner. -/
def handedLease : RuntimeLease := ⟨nextOwner, 2, at_ 5, at_ 5, at_ 35⟩

/-- The reservation row of the sample run. -/
def reservationRow : GateReservationRow :=
  ⟨attempt.physicalAttemptId, request.logicalRequestId, 1, at_ 3, .active⟩

end Sample

/-- In the sample run the owner can start its reserved attempt. -/
theorem work_belongs_to_current_generation_sample :
    (markPhysicalAttemptStarted Sample.attempt.physicalAttemptId Sample.lease (Sample.at_ 4)
      Sample.gated).1 = .ok () := by
  have hfence : FenceHolds Sample.gated Sample.lease (Sample.at_ 4) Sample.leaseRow := by
    constructor <;> decide +kernel
  exact ((((work_belongs_to_current_generation Sample.gated).1 (Reaches.runAll (by decide +kernel))).2
    _ _ _ hfence).1 _ Sample.attempt.row (by decide +kernel) rfl).1

/-- After a release with work outstanding and the next acquisition, the new owner can
neither start nor discard the reserved attempt, nor finish the active reservation. -/
theorem released_work_orphaned :
    Reachable (fun op _ => op.fenced = true) (Sample.handOver Sample.gated) ∧
    (Sample.handOver Sample.gated).lease =
      some ⟨Sample.nextOwner, 2, Sample.at_ 5, Sample.at_ 5, Sample.at_ 35, true⟩ ∧
    (Sample.handOver Sample.gated).attempts.get? Sample.attempt.physicalAttemptId =
      some Sample.attempt.row ∧
    (Sample.handOver Sample.gated).gates.reservations.get? Sample.reservationId =
      some Sample.reservationRow ∧
    (markPhysicalAttemptStarted Sample.attempt.physicalAttemptId Sample.handedLease (Sample.at_ 6)
      (Sample.handOver Sample.gated)).1 = .error (.storage .physicalAttemptTransitionRejected) ∧
    (releaseGates (Sample.reservationRow.persisted Sample.reservationId) .failed Sample.handedLease
      (Sample.at_ 6) none (Sample.handOver Sample.gated)).1 =
        .error (.storage .staleGateReservation) ∧
    (recordUnknownOutcome (Sample.reservationRow.persisted Sample.reservationId)
      Sample.handedLease (Sample.at_ 6) (Sample.handOver Sample.gated)).1 =
        .error (.storage .staleGateReservation) ∧
    Reachable (fun op _ => op.fenced = true) (Sample.handOver Sample.reserved) ∧
    (discardReservedAttempt Sample.attempt.physicalAttemptId Sample.handedLease (Sample.at_ 6)
      (Sample.handOver Sample.reserved)).1 = .error (.storage .physicalAttemptDiscardRejected) := by
  have hgated : Reachable (fun op _ => op.fenced = true) Sample.gated :=
    Reaches.runAll (by decide +kernel)
  have hreserved : Reachable (fun op _ => op.fenced = true) Sample.reserved :=
    Reaches.runAll (by decide +kernel)
  exact ⟨hgated.trans (Reaches.runAll (by decide +kernel)), by decide +kernel, by decide +kernel,
    by decide +kernel, by decide +kernel, by decide +kernel, by decide +kernel,
    hreserved.trans (Reaches.runAll (by decide +kernel)), by decide +kernel⟩

end StockResearch.Requests
