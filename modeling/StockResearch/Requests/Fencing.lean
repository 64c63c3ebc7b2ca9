import StockResearch.Requests.TransferredAttempts

/-!
# Lease fencing

Owners may be delayed for any time and present any lease they once held. The lease row
moves in four ways only, a new generation is later than every earlier one, and a call
that presents a lease of an ended generation is refused.

- `LeaseMove`: what an operation can do to the lease row.
- `Superseded`: the generation has ended, for good.
- `lease_fencing`: the three facts above, over all runs.
-/

namespace StockResearch.Requests

/-! ## The lease presented with a call -/

/-- The lease the caller presents. -/
def Operation.presented : Operation → Option RuntimeLease
  | .addLogicalRequest _ | .addPhysicalAttempt _ | .acquireLease .. | .recoverExpiredLease .. =>
    none
  | .enqueueLogicalRequest _ _ lease _ _ | .admitLogicalRequest _ _ _ lease _ _
  | .cancelAdmittedRequest _ _ lease _ | .claimNextQueued _ lease _
  | .acquireGates _ _ _ _ lease _ | .releaseGates _ _ lease _ _ | .recordRetryAfter _ _ lease _
  | .recordUnknownOutcome _ lease _ | .reserveNextPhysicalAttempt _ _ lease _
  | .discardReservedAttempt _ lease _ | .markPhysicalAttemptStarted _ lease _
  | .completeLogicalRequest _ lease _ | .finalizeLogicalRequest _ lease _
  | .beginRawPublication _ lease _ | .commitRawPublication _ lease _
  | .failRawPublication _ lease _ | .markRawPublicationReconciliationRequired _ lease _
  | .heartbeatLease lease _ _ | .releaseLease lease _ => some lease

/-- A transaction whose first step is the fence is refused without a current lease. -/
theorem transaction_stale {α : Type} {e : RuntimeStorageError} {db : Database}
    {lease : RuntimeLease} {now : DateTime}
    {body : Database → Unit → Except Exn (Except Exn α × Database)}
    (hstale : currentLease db lease = none) :
    Refused (transaction e (fun db => assertFence db lease now >>= body db) db) db := by
  have herror : assertFence db lease now = .error (.storage .staleRuntimeLease) := by
    rw [assertFence, hstale]
    rfl
  exact ⟨_, by rw [transaction, atomically, herror]; rfl⟩

theorem FenceHolds.current {db : Database} {lease : RuntimeLease} {now : DateTime}
    {row : RuntimeLeaseRow} (h : FenceHolds db lease now row) : currentLease db lease = some row :=
  currentLease_eq_some_iff.mpr ⟨h.persisted, h.owner, h.generation, h.active⟩

theorem discardValue_refused {α : Type} {outcome : Except Exn α × Database} {db : Database}
    (h : Refused outcome db) : Refused (discardValue outcome) db := by
  obtain ⟨e, rfl⟩ := h
  exact ⟨e, rfl⟩

theorem finishGateReservation_stale {reservation : GateReservation}
    {outcome : PhysicalAttemptState} {retryAfter : Option Seconds} {rawEligible : Bool}
    {lease : RuntimeLease} {now : DateTime} {db : Database}
    (hstale : currentLease db lease = none) :
    Refused (finishGateReservation reservation outcome retryAfter rawEligible lease now db) db := by
  rcases finishGateReservation_cases reservation outcome retryAfter rawEligible lease now db with
    h | ⟨_, _, _, _, hfence, -⟩
  · exact h
  · exact absurd (hstale.symm.trans hfence.current) nofun

/-- Every call that presents a lease needs the row of its owner and generation to be
active: each method checks it inside its own transaction. -/
theorem Operation.refused_of_stale {op : Operation} {lease : RuntimeLease} {db : Database}
    (hlease : op.presented = some lease) (hstale : currentLease db lease = none) :
    Refused (op.run db) db := by
  have hnot : ∀ {now : DateTime} {row : RuntimeLeaseRow}, ¬ FenceHolds db lease now row :=
    fun h => absurd (hstale.symm.trans h.current) nofun
  -- the methods either open their transaction at the fence or check it inside
  cases op with
  | addLogicalRequest | addPhysicalAttempt | acquireLease | recoverExpiredLease => cases hlease
  | enqueueLogicalRequest request rateDomain _ now policy =>
    obtain rfl := Option.some.inj hlease
    rcases enqueueLogicalRequest_cases request rateDomain _ now policy db with h | ⟨_, _, hfence, -⟩
    · exact h
    · exact absurd hfence hnot
  | admitLogicalRequest request rateDomain cachePolicy _ now queuePolicy =>
    obtain rfl := Option.some.inj hlease
    rcases admitLogicalRequest_cases request rateDomain cachePolicy _ now queuePolicy db with
      h | ⟨_, _, _, hfence, -⟩
    · exact discardValue_refused h
    · exact absurd hfence hnot
  | cancelAdmittedRequest id reason _ now =>
    obtain rfl := Option.some.inj hlease
    rcases cancelAdmittedRequest_cases id reason _ now db with h | ⟨_, _, hfence, -⟩
    · exact discardValue_refused h
    · exact absurd hfence hnot
  | claimNextQueued rateDomain _ now =>
    obtain rfl := Option.some.inj hlease
    exact discardValue_refused (transaction_stale hstale)
  | acquireGates reservationId attempt keys policy _ now =>
    obtain rfl := Option.some.inj hlease
    rcases acquireGates_cases reservationId attempt keys policy _ now db with h | ⟨_, hfence, -⟩
    · exact discardValue_refused h
    · exact absurd hfence hnot
  | releaseGates reservation outcome _ now rawEligible =>
    obtain rfl := Option.some.inj hlease
    rcases releaseGates_cases reservation outcome _ now rawEligible db with h | ⟨-, _, h⟩
    · exact h
    · show Refused (Requests.releaseGates reservation outcome _ now rawEligible db) db
      rw [h]
      exact finishGateReservation_stale hstale
  | recordRetryAfter reservation retryAfter _ now =>
    obtain rfl := Option.some.inj hlease
    show Refused (Requests.recordRetryAfter reservation retryAfter _ now db) db
    exact finishGateReservation_stale hstale
  | recordUnknownOutcome reservation _ now =>
    obtain rfl := Option.some.inj hlease
    show Refused (Requests.recordUnknownOutcome reservation _ now db) db
    exact finishGateReservation_stale hstale
  | reserveNextPhysicalAttempt attemptId logicalRequestId _ now =>
    obtain rfl := Option.some.inj hlease
    exact discardValue_refused (transaction_stale hstale)
  | discardReservedAttempt attemptId _ now =>
    obtain rfl := Option.some.inj hlease
    show Refused (Requests.discardReservedAttempt attemptId _ now db) db
    exact transaction_stale hstale
  | markPhysicalAttemptStarted attemptId _ now =>
    obtain rfl := Option.some.inj hlease
    show Refused (Requests.markPhysicalAttemptStarted attemptId _ now db) db
    exact transaction_stale hstale
  | completeLogicalRequest result _ now =>
    obtain rfl := Option.some.inj hlease
    show Refused (Requests.completeLogicalRequest result _ now db) db
    exact transaction_stale hstale
  | finalizeLogicalRequest result _ now =>
    obtain rfl := Option.some.inj hlease
    show Refused (Requests.finalizeLogicalRequest result _ now db) db
    exact transaction_stale hstale
  | beginRawPublication intent _ now =>
    obtain rfl := Option.some.inj hlease
    show Refused (Requests.beginRawPublication intent _ now db) db
    exact transaction_stale hstale
  | commitRawPublication reference _ now =>
    obtain rfl := Option.some.inj hlease
    show Refused (Requests.commitRawPublication reference _ now db) db
    exact transaction_stale hstale
  | failRawPublication publicationId _ now =>
    obtain rfl := Option.some.inj hlease
    show Refused (transitionRawPublication publicationId _ _ _ now db) db
    exact transaction_stale hstale
  | markRawPublicationReconciliationRequired publicationId _ now =>
    obtain rfl := Option.some.inj hlease
    show Refused (transitionRawPublication publicationId _ _ _ now db) db
    exact transaction_stale hstale
  | heartbeatLease _ now policy =>
    obtain rfl := Option.some.inj hlease
    rcases heartbeatLease_cases _ now policy db with h | ⟨_, _, hrow, -⟩
    · exact discardValue_refused h
    · exact absurd (hstale.symm.trans hrow) nofun
  | releaseLease _ now =>
    obtain rfl := Option.some.inj hlease
    rcases releaseLease_cases _ now db with h | ⟨_, hrow, -⟩
    · exact h
    · exact absurd (hstale.symm.trans hrow) nofun

/-! ## The lease row -/

/-- The operations of an owner on its own lease. -/
def Operation.tends : Operation → Bool
  | .heartbeatLease .. | .releaseLease .. => true
  | _ => false

/-- The operations that start a generation. -/
def Operation.takes : Operation → Bool
  | .acquireLease .. | .recoverExpiredLease .. => true
  | _ => false

/-- What an operation can do to the lease row. -/
inductive LeaseMove : Operation → Option RuntimeLeaseRow → Option RuntimeLeaseRow → Prop
  | stay (op : Operation) (row : Option RuntimeLeaseRow) : LeaseMove op row row
  | renew {lease : RuntimeLease} {now expires : DateTime} {policy : RuntimeLeasePolicy}
      {row : RuntimeLeaseRow} (howner : row.ownerToken = lease.ownerToken)
      (hgeneration : row.generation = lease.generation) (hactive : row.active = true)
      (hheartbeat : lease.heartbeatAt ≤ now) (hunexpired : now < lease.expiresAt) :
    LeaseMove (.heartbeatLease lease now policy) (some row)
      (some { row with heartbeatAt := now, expiresAt := expires })
  | release {lease : RuntimeLease} {now : DateTime} {row : RuntimeLeaseRow}
      (howner : row.ownerToken = lease.ownerToken)
      (hgeneration : row.generation = lease.generation) (hactive : row.active = true)
      (hheartbeat : lease.heartbeatAt ≤ now) (hunexpired : now < lease.expiresAt) :
    LeaseMove (.releaseLease lease now) (some row) (some { row with active := false })
  | grant {op : Operation} {old : Option RuntimeLeaseRow} {new : RuntimeLeaseRow}
      (htakes : op.takes = true) (hlater : ∀ row ∈ old, row.generation < new.generation) :
    LeaseMove op old (some new)

/-- A lease is acquired when there was none, or the last one was released. -/
theorem nextGeneration_eq_ok {lease : Option RuntimeLeaseRow} {now : DateTime} {generation : Nat}
    (h : nextGeneration lease now = .ok generation) :
    lease = none ∧ generation = 1 ∨
      ∃ row, lease = some row ∧ row.active = false ∧ generation = row.generation + 1 := by
  cases lease with
  | none =>
    rw [nextGeneration, pure_eq_ok] at h
    exact .inl ⟨rfl, h.symm⟩
  | some row =>
    rw [nextGeneration] at h
    cases hactive : row.active with
    | false =>
      rw [hactive, if_neg Bool.false_ne_true, pure_eq_ok] at h
      exact .inr ⟨row, rfl, hactive, h.symm⟩
    | true =>
      rw [hactive, if_pos rfl] at h
      split_ifs at h

theorem nextGeneration_later {lease : Option RuntimeLeaseRow} {now : DateTime} {generation : Nat}
    (h : nextGeneration lease now = .ok generation) : ∀ row ∈ lease, row.generation < generation := by
  intro row hrow
  rcases nextGeneration_eq_ok h with ⟨rfl, -⟩ | ⟨row', rfl, -, rfl⟩
  · cases hrow
  · obtain rfl := Option.some.inj hrow
    exact Nat.lt_succ_self _

/-- Cancelling a leader does not touch the lease. -/
theorem cancelLeader_lease {logicalRequestId : Identifier} {fingerprint : Sha256Hex}
    {now : DateTime} {reason : Identifier} {db db' : Database} {promoted : Option Identifier}
    (h : cancelLeader logicalRequestId fingerprint now reason db = .ok (promoted, db')) :
    db'.lease = db.lease := by
  rcases cancelLeader_eq_ok h with ⟨-, -, hcancel⟩ | ⟨dropped, -, -, hdrop, hrest⟩
  · obtain ⟨-, -, -, -, hlease, -⟩ := cancelStartedFlight_frame hcancel
    exact hlease
  · have hdropped : dropped.lease = db.lease := by
      rcases dropReservedAttempt_eq_ok hdrop with ⟨-, rfl⟩ | ⟨_, _, _, _, -, -, rfl⟩
      · rfl
      · rfl
    rcases hrest with ⟨-, -, hcancel⟩ | ⟨-, hcancel⟩
    · obtain ⟨-, -, -, -, hlease, -⟩ := cancelStartedFlight_frame hcancel
      exact hlease.trans hdropped
    · exact (cancelUnsentLeader_frame hcancel).lease.trans hdropped

theorem Transition.lease_move {op : Operation} {db db' : Database} (h : Transition op db db')
    (hother : op.tends = false) : LeaseMove op db.lease db'.lease := by
  have hsame : db'.lease = db.lease → LeaseMove op db.lease db'.lease := fun h => h ▸ .stay op _
  cases h with
  | unchanged | publish | submit | enqueue | rejectEnqueue | claim | cancelFollower | blocked
  | acquire | finish | addAttempt | reserveAttempt | discardAttempt | startAttempt =>
    exact .stay _ _
  | heartbeat | release => cases hother
  | admitLeader _ _ hreconcile _ _ _ hqueue =>
    exact hsame ((queueLeader_frame hqueue).lease.trans
      (reconcileTerminalFlights_frame hreconcile).lease)
  | admitFollower _ _ hreconcile => exact hsame (reconcileTerminalFlights_frame hreconcile).lease
  | cancelLeader _ _ _ _ hcancel => exact hsame (cancelLeader_lease hcancel)
  | close _ _ _ hfinish => exact hsame (finishSingleFlight_frame hfinish).lease
  | acquireLease _ hgeneration hreconcile =>
    rw [(reconcileTerminalFlights_frame hreconcile).lease]
    exact .grant rfl (nextGeneration_later hgeneration)
  | recover _ hrepairs _ =>
    refine .grant rfl fun row hrow => ?_
    obtain rfl := Option.some.inj ((expiredLease_eq_ok.mp hrepairs.expired).1.symm.trans hrow)
    exact Nat.lt_succ_self _

/-- Every operation moves the lease row in one of the four ways. -/
theorem Operation.lease_move (op : Operation) (db : Database) :
    LeaseMove op db.lease (op.next db).lease := by
  cases op with
  | heartbeatLease lease now policy =>
    rw [next, run, discardValue_snd]
    rcases heartbeatLease_cases lease now policy db with
      h | ⟨row, expires, hrow, hheartbeat, hunexpired, -, h⟩
    · rw [h.snd]
      exact .stay _ _
    · obtain ⟨hlease, howner, hgeneration, hactive⟩ := currentLease_eq_some_iff.mp hrow
      rw [h, hlease]
      exact .renew howner hgeneration hactive hheartbeat hunexpired
  | releaseLease lease now =>
    rw [next, run]
    rcases releaseLease_cases lease now db with h | ⟨row, hrow, hheartbeat, hunexpired, h⟩
    · rw [h.snd]
      exact .stay _ _
    · obtain ⟨hlease, howner, hgeneration, hactive⟩ := currentLease_eq_some_iff.mp hrow
      rw [h, hlease]
      exact .release howner hgeneration hactive hheartbeat hunexpired
  | _ => exact (Operation.transition _ db).lease_move rfl

/-! ## Ended generations -/

/-- A later generation rules, or this one is no longer active. -/
def Superseded (generation : Nat) (lease : Option RuntimeLeaseRow) : Prop :=
  ∃ row, lease = some row ∧
    (generation < row.generation ∨ row.generation = generation ∧ row.active = false)

/-- The lease row is of this generation or a later one. -/
def Granted (generation : Nat) (lease : Option RuntimeLeaseRow) : Prop :=
  ∃ row, lease = some row ∧ generation ≤ row.generation

theorem LeaseMove.superseded {op : Operation} {generation : Nat}
    {old new : Option RuntimeLeaseRow} (h : LeaseMove op old new) (hended : Superseded generation old) : Superseded generation new := by
  cases h with
  | stay => exact hended
  | renew _ _ hactive =>
    obtain ⟨row, hrow, hlater | ⟨-, hinactive⟩⟩ := hended
    · obtain rfl := Option.some.inj hrow
      exact ⟨_, rfl, .inl hlater⟩
    · -- an inactive row is not renewed
      obtain rfl := Option.some.inj hrow
      rw [hactive] at hinactive
      cases hinactive
  | release =>
    obtain ⟨row, hrow, hlater | ⟨hsame, -⟩⟩ := hended
    · obtain rfl := Option.some.inj hrow
      exact ⟨_, rfl, .inl hlater⟩
    · obtain rfl := Option.some.inj hrow
      exact ⟨_, rfl, .inr ⟨hsame, rfl⟩⟩
  | grant _ hlater =>
    obtain ⟨row, rfl, hend⟩ := hended
    have := hlater row rfl
    exact ⟨_, rfl, .inl (by omega)⟩

theorem LeaseMove.granted {op : Operation} {generation : Nat} {old new : Option RuntimeLeaseRow}
    (h : LeaseMove op old new) (hgranted : Granted generation old) : Granted generation new := by
  obtain ⟨row, rfl, hle⟩ := hgranted
  cases h with
  | stay | renew | release => exact ⟨_, rfl, hle⟩
  | grant _ hlater => exact ⟨_, rfl, hle.trans (hlater row rfl).le⟩

/-- No lease of an ended generation is current. -/
theorem Superseded.stale {db : Database} {lease : RuntimeLease}
    (h : Superseded lease.generation db.lease) : currentLease db lease = none := by
  rw [Option.eq_none_iff_forall_ne_some]
  intro row hrow
  obtain ⟨hlease, -, hgeneration, hactive⟩ := currentLease_eq_some_iff.mp hrow
  obtain ⟨row', hrow', hlater | ⟨-, hinactive⟩⟩ := h
  · obtain rfl := Option.some.inj (hlease.symm.trans hrow')
    omega
  · obtain rfl := Option.some.inj (hlease.symm.trans hrow')
    rw [hactive] at hinactive
    cases hinactive

section

variable {db later : Database} {generation : Nat}

theorem Superseded.reaches (h : Superseded generation db.lease)
    (hrun : Reaches Operation.next (fun _ _ => True) db later) : Superseded generation later.lease :=
  Reaches.invariant (fun db => Superseded generation db.lease)
    (fun op db _ h => (op.lease_move db).superseded h) h hrun

theorem Granted.reaches (h : Granted generation db.lease)
    (hrun : Reaches Operation.next (fun _ _ => True) db later) : Granted generation later.lease :=
  Reaches.invariant (fun db => Granted generation db.lease)
    (fun op db _ h => (op.lease_move db).granted h) h hrun

end

/-! ## Grants and endings -/

/-- The call starts a generation: an acquisition or a takeover that returned the lease. -/
inductive Operation.Grants (lease : RuntimeLease) (db : Database) : Operation → Prop
  | acquire {ownerToken : Identifier} {now : DateTime} {policy : RuntimeLeasePolicy} {db' : Database}
      (h : Requests.acquireLease ownerToken now policy db = (.ok lease, db')) :
    Grants lease db (.acquireLease ownerToken now policy)
  | takeOver {ownerToken : Identifier} {now : DateTime} {policy : RuntimeLeasePolicy}
      {db' : Database} (h : Requests.recoverExpiredLease ownerToken now policy db = (.ok lease, db')) :
    Grants lease db (.recoverExpiredLease ownerToken now policy)

/-- The call ends a generation: its owner releases it, or it is taken over. -/
inductive Operation.Ends (generation : Nat) (db : Database) : Operation → Prop
  | release {lease : RuntimeLease} {now : DateTime} {db' : Database}
      (hgeneration : lease.generation = generation)
      (h : Requests.releaseLease lease now db = (.ok (), db')) :
    Ends generation db (.releaseLease lease now)
  | takeOver {ownerToken : Identifier} {now : DateTime} {policy : RuntimeLeasePolicy}
      {row : RuntimeLeaseRow} {lease : RuntimeLease} {db' : Database} (hrow : db.lease = some row)
      (hgeneration : row.generation = generation)
      (h : Requests.recoverExpiredLease ownerToken now policy db = (.ok lease, db')) :
    Ends generation db (.recoverExpiredLease ownerToken now policy)

/-- The persisted row that a successful takeover found. -/
theorem recoverExpiredLease_expired {ownerToken : Identifier} {now : DateTime}
    {policy : RuntimeLeasePolicy} {lease : RuntimeLease} {db db' : Database}
    (h : recoverExpiredLease ownerToken now policy db = (.ok lease, db')) :
    ∃ row, db.lease = some row ∧ row.active = true ∧ row.heartbeatAt ≤ now ∧ row.expiresAt ≤ now ∧
      lease.generation = row.generation + 1 := by
  obtain ⟨_, row, _, _, -, hrepairs, -, rfl, -⟩ := recoverExpiredLease_eq_ok h
  obtain ⟨hrow, hactive, hheartbeat, hexpired⟩ := expiredLease_eq_ok.mp hrepairs.expired
  exact ⟨row, hrow, hactive, hheartbeat, hexpired, rfl⟩

/-- A granted generation is later than the one before, and is the persisted one. -/
theorem Operation.Grants.spec {op : Operation} {lease : RuntimeLease} {db : Database}
    (h : op.Grants lease db) :
    (∀ row ∈ db.lease, row.generation < lease.generation) ∧
      Granted lease.generation (op.next db).lease := by
  cases h with
  | @acquire ownerToken now policy db' h =>
    rcases acquireLease_cases ownerToken now policy db with
      hr | ⟨expires, generation, db'', -, hgeneration, hreconcile, hr⟩
    · exact absurd h hr.ne_ok
    · rw [hr, Prod.mk.injEq, Except.ok.injEq] at h
      obtain ⟨rfl, rfl⟩ := h
      refine ⟨nextGeneration_later hgeneration, ?_⟩
      rw [acquireLease_next hr, (reconcileTerminalFlights_frame hreconcile).lease]
      exact ⟨_, rfl, Nat.le_refl _⟩
  | takeOver h =>
    obtain ⟨row, hrow, -, -, -, hgeneration⟩ := recoverExpiredLease_expired h
    refine ⟨fun row' hrow' => ?_, ?_⟩
    · obtain rfl := Option.some.inj (hrow.symm.trans hrow')
      omega
    · obtain ⟨_, _, _, _, -, -, -, rfl, rfl⟩ := recoverExpiredLease_eq_ok h
      rw [recoverExpiredLease_next h]
      exact ⟨_, rfl, Nat.le_refl _⟩

theorem Operation.Ends.superseded {op : Operation} {generation : Nat} {db : Database}
    (h : op.Ends generation db) : Superseded generation (op.next db).lease := by
  cases h with
  | @release lease now db' hgeneration h =>
    rcases releaseLease_cases lease now db with hr | ⟨row, hrow, -, -, hr⟩
    · exact absurd h hr.ne_ok
    · obtain ⟨-, -, hsame, -⟩ := currentLease_eq_some_iff.mp hrow
      rw [Operation.next, Operation.run, hr]
      exact ⟨_, rfl, .inr ⟨hsame.trans hgeneration, rfl⟩⟩
  | takeOver hrow hgeneration h =>
    obtain ⟨row', hrow', -, -, -, hnext⟩ := recoverExpiredLease_expired h
    obtain rfl := Option.some.inj (hrow.symm.trans hrow')
    obtain ⟨_, _, _, _, -, -, -, rfl, rfl⟩ := recoverExpiredLease_eq_ok h
    rw [recoverExpiredLease_next h]
    refine ⟨_, rfl, .inl ?_⟩
    rw [← hgeneration]
    exact Nat.lt_of_succ_le hnext.ge

/-! ## The theorem -/

/-- **Lease fencing.** In every database, reachable or not, and whoever holds which lease:
generations strictly increase from grant to grant, however far apart; at most one owner
and generation passes the fence; a call that presents a lease of a generation that has
ended is refused forever and changes no table; and a takeover happens at or after the
persisted expiry and heartbeat. -/
theorem lease_fencing (db : Database) :
    (∀ (op : Operation) first, op.Grants first db → ∀ later,
      Reaches Operation.next (fun _ _ => True) (op.next db) later →
        ∀ (op' : Operation) second, op'.Grants second later →
          first.generation < second.generation) ∧
    (∀ lease lease' now now', assertFence db lease now = .ok () →
      assertFence db lease' now' = .ok () →
        lease.ownerToken = lease'.ownerToken ∧ lease.generation = lease'.generation) ∧
    (∀ (op : Operation) generation, op.Ends generation db → ∀ later,
      Reaches Operation.next (fun _ _ => True) (op.next db) later →
        ∀ (op' : Operation) lease, op'.presented = some lease → lease.generation = generation →
          (∃ e, op'.run later = (.error e, later)) ∧ op'.next later = later) ∧
    ∀ ownerToken now policy lease db',
      recoverExpiredLease ownerToken now policy db = (.ok lease, db') →
        ∃ row, db.lease = some row ∧ row.active = true ∧ row.heartbeatAt ≤ now ∧
          row.expiresAt ≤ now := by
  refine ⟨?_, ?_, ?_, ?_⟩
  · -- the row keeps its generation, and a grant takes one above it
    intro op first hfirst later hrun op' second hsecond
    obtain ⟨row, hrow, hle⟩ := hfirst.spec.2.reaches hrun
    have hlt := hsecond.spec.1 row hrow
    exact hle.trans_lt hlt
  · -- both passed the fence of the same row
    intro lease lease' now now' h h'
    obtain ⟨row, hfence⟩ := assertFence_eq_ok.mp h
    obtain ⟨row', hfence'⟩ := assertFence_eq_ok.mp h'
    obtain rfl := Option.some.inj (hfence.persisted.symm.trans hfence'.persisted)
    exact ⟨hfence.owner.symm.trans hfence'.owner, hfence.generation.symm.trans hfence'.generation⟩
  · rintro op _ hends later hrun op' lease hlease rfl
    have hrefused := Operation.refused_of_stale hlease (hends.superseded.reaches hrun).stale
    exact ⟨hrefused, hrefused.snd⟩
  · intro ownerToken now policy lease db' h
    obtain ⟨row, hrow, hactive, hheartbeat, hexpired, -⟩ := recoverExpiredLease_expired h
    exact ⟨row, hrow, hactive, hheartbeat, hexpired⟩

namespace Sample

/-- The lease row of the first owner. -/
def leaseRow : RuntimeLeaseRow := ⟨owner, 1, at_ 0, at_ 0, at_ 30, true⟩

end Sample

/-- The second owner takes over at second 40; at second 41 the first one, back with its old
lease, cannot start the attempt it had reserved. -/
theorem lease_fencing_sample :
    let takeOver := Operation.recoverExpiredLease Sample.nextOwner (Sample.at_ 40) {}
    let late := Operation.markPhysicalAttemptStarted Sample.attempt.physicalAttemptId Sample.lease
      (Sample.at_ 41)
    late.next (takeOver.next Sample.gated) = takeOver.next Sample.gated := by
  have hrow : Sample.gated.lease = some Sample.leaseRow := by decide +kernel
  have hrecover : recoverExpiredLease Sample.nextOwner (Sample.at_ 40) {} Sample.gated =
      (.ok Sample.nextLease, Sample.recovered Sample.gated) :=
    Prod.ext (by decide +kernel) rfl
  exact ((lease_fencing Sample.gated).2.2.1 _ 1 (.takeOver hrow rfl hrecover) _ .refl _
    Sample.lease rfl rfl).2

end StockResearch.Requests
