import StockResearch.Requests.LiveAttempts
import StockResearch.Requests.RecoverySuccess
import StockResearch.Requests.TransferredAttempts

/-!
# What a recovery leaves behind

A recovery that succeeds leaves no exchange in flight and no gate taken. The requests of the
owner that stopped have a result, which everybody who waited for them shares, and the claims
that were never tried are in line again.

- `Interrupted`: the requests that a recovery closes.
- `recovery_exact`: when a recovery succeeds, and what holds afterwards.
-/

namespace StockResearch.Requests

/-- The owner stopped during an exchange of the request, or between two of them. -/
def Interrupted (db : Database) (id : Identifier) : Prop :=
  (∃ attemptId attempt, db.attempts.get? attemptId = some attempt ∧
    attempt.logicalRequestId = id ∧ attempt.state = .started) ∨
  (∃ attemptId attempt, db.attempts.get? attemptId = some attempt ∧
    attempt.logicalRequestId = id ∧ attempt.state.isActive = false) ∧
    db.ledger.Open id ∧ ∀ attemptId attempt, db.attempts.get? attemptId = some attempt →
      attempt.logicalRequestId = id → attempt.state.isActive = false

section

variable {db repaired db' : Database} {now : DateTime} {row : RuntimeLeaseRow}

/-- The repairs close what was interrupted. -/
theorem RecoveryRepairs.interrupted_closed (h : db.Sane)
    (hrepairs : RecoveryRepairs db now row repaired) {id : Identifier}
    (hinterrupted : Interrupted db id) : ¬ repaired.ledger.Open id := by
  obtain ⟨hrow, -⟩ := expiredLease_eq_ok.mp hrepairs.expired
  obtain ⟨-, -, gates, started, closed, -, hstarted, hclosed, rfl⟩ := hrepairs
  by_cases hopen : started.Open id
  · -- not closed by the first loop, so it was between two attempts
    have hentry : ∃ entry ∈ interruptedBetweenAttempts { db with ledger := started },
        entry.1 = id := by
      rcases hinterrupted with ⟨attemptId, attempt, hattempt, rfl, hstate⟩ |
        ⟨⟨attemptId, attempt, hattempt, rfl, hterminal⟩, -, hidle⟩
      · refine absurd hopen ((closeStarted_closed hstarted).1 _ ?_)
        rw [startedRequests, List.mem_dedup]
        refine List.mem_map.mpr ⟨(attemptId, attempt), Table.mem_select.mpr ⟨hattempt, ?_⟩, rfl⟩
        rw [Bool.and_eq_true, decide_eq_true_eq, decide_eq_true_eq]
        exact ⟨hstate, h.generation_le hrow hattempt⟩
      · simp only [interruptedBetweenAttempts, List.mem_map, List.mem_dedup]
        refine ⟨_, ⟨_, ⟨attempt, ⟨(attemptId, attempt), Table.mem_select.mpr ⟨hattempt, ?_⟩, rfl⟩,
          rfl⟩, rfl⟩, rfl⟩
        obtain ⟨request, hrequest, hqueued⟩ := Option.map_eq_some_iff.mp hopen
        rw [Bool.and_eq_true, Bool.and_eq_true, decide_eq_true_eq, Table.select_eq_nil_iff]
        refine ⟨⟨by rw [hterminal]; rfl, ?_⟩, fun other row hrow => ?_⟩
        · rw [hrequest, Option.any_some, decide_eq_true_eq]
          exact hqueued
        · rw [Bool.and_eq_false_imp, decide_eq_true_eq]
          exact hidle other row hrow
    obtain ⟨entry, hentry, rfl⟩ := hentry
    exact (closeInterrupted_closed hclosed).1 entry hentry
  · exact (closeInterrupted_closed hclosed).2 id hopen

theorem finishSingleFlight_results_kept {result : ProductionLogicalResult}
    (hfinish : finishSingleFlight result now db = .ok db') {id : Identifier}
    {answer : LogicalResultRow} (hanswer : db.ledger.results.get? id = some answer) :
    db'.ledger.results.get? id = some answer := by
  rcases finishSingleFlight_eq_ok hfinish with
    ⟨-, rfl⟩ | ⟨leader, delivered, -, -, -, -, hfold, rfl⟩
  · exact hanswer
  · obtain ⟨hnodup, -⟩ := waitingConsumers_ids db leader.requestFingerprint
    exact (deliverAll_concluded hnodup hfold).ledger.results_kept hanswer

/-- Everybody who waits in a flight that is finished gets its result. -/
theorem finishSingleFlight_delivers {result : ProductionLogicalResult} {leader : ConsumerRow}
    (hleader : db.flight.consumers.get? result.logicalRequestId = some leader)
    (hanswer : db.ledger.results.get? result.logicalRequestId = some result.row)
    (hfinish : finishSingleFlight result now db = .ok db') {id : Identifier}
    (hwaits : db.admissions.Waiting leader.requestFingerprint id) :
    db'.ledger.results.get? id = some result.row := by
  by_cases hid : id = result.logicalRequestId
  · rw [hid]
    exact finishSingleFlight_results_kept hfinish hanswer
  · rcases finishSingleFlight_eq_ok hfinish with
      ⟨hnone, -⟩ | ⟨leader', delivered, hleader', -, -, -, hfold, rfl⟩
    · rw [hnone] at hleader
      cases hleader
    · obtain rfl := Option.some.inj (hleader.symm.trans hleader')
      obtain ⟨hnodup, hids⟩ := waitingConsumers_ids db leader.requestFingerprint
      exact ((deliverAll_concluded hnodup hfold).ledger.closes id
        ⟨(hids id).mpr hwaits, hid⟩).2.1

/-- The walk answers a flight whose leader is closed, and with it everybody in it. -/
theorem Reconciling.delivers {repairs : Repairs}
    (hwalk : Reconciling repairs (openFlights db none) db)
    (hreconcile : reconcileTerminalFlights now none db = .ok db') {f : Sha256Hex}
    {leader : Identifier} (hflight : db.flight.flights.get? f = some ⟨leader, .active⟩)
    (hclosed : ¬ db.ledger.Open leader) :
    ∃ answer, db'.ledger.results.get? leader = some answer ∧
      ∀ id, db.admissions.Waiting f id → db'.ledger.results.get? id = some answer := by
  -- until its turn the flight is as it was, afterwards its consumers have the answer
  have hend := foldlM_invariant (f := reconcileFlight now)
    (fun rest (mid : Database) => Reconciling repairs rest mid ∧ ¬ mid.ledger.Open leader ∧
      ((mid.flight.flights.get? f = some ⟨leader, .active⟩ ∧
          leader ∈ rest.map (·.leaderLogicalRequestId) ∧
          ∀ id, db.admissions.Waiting f id → mid.admissions.Waiting f id) ∨
        ∃ answer, mid.ledger.results.get? leader = some answer ∧
          ∀ id, db.admissions.Waiting f id → mid.ledger.results.get? id = some answer)) ?_
    ⟨hwalk, hclosed, .inl ⟨hflight, ?_, fun _ h => h⟩⟩ hreconcile
  · exact hend.2.2.resolve_left fun hmem => List.not_mem_nil hmem.2.1
  · rintro flight rest mid next ⟨hmid, hopen, hstate⟩ hnext
    refine ⟨hmid.step hnext, ?_⟩
    have hshown := hmid.shown flight List.mem_cons_self
    obtain ⟨-, -, result, hread, ⟨hqueued, -, rfl⟩ | ⟨r, rfl, -, -, hfinish⟩⟩ :=
      reconcileFlight_eq_ok hnext
    · -- a leader without a result is not this one
      refine ⟨hopen, hstate.imp_left fun hbefore => ⟨hbefore.1, ?_, hbefore.2.2⟩⟩
      rcases List.mem_cons.mp hbefore.2.1 with rfl | hmem
      · exact absurd (hshown.requestState.symm.trans hqueued) hopen
      · exact hmem
    · obtain ⟨hid, hanswer⟩ := readLogicalResult_eq_some hread
      obtain ⟨f₀, hflight₀⟩ := hshown.active
      obtain ⟨leaderRow, hleader, hf₀, -⟩ := hmid.flights.leader_row hflight₀
      rw [← hid] at hleader hanswer
      refine ⟨finishSingleFlight_stays_closed hfinish hopen, ?_⟩
      rcases hstate with ⟨hactive, hmem, hwaiting⟩ | ⟨answer, hleaderAnswer, hall⟩
      · -- its turn is now, or another flight is finished
        by_cases hsame : flight.leaderLogicalRequestId = leader
        · obtain ⟨own, hown, hownf, -⟩ := hmid.flights.leader_row hactive
          rw [← hsame, ← hid] at hown
          obtain rfl := Option.some.inj (hown.symm.trans hleader)
          refine .inr ⟨r.row, ?_, fun id hwaits => ?_⟩
          · rw [← hsame, ← hid]
            exact finishSingleFlight_results_kept hfinish hanswer
          · refine finishSingleFlight_delivers hleader hanswer hfinish ?_
            rw [hownf]
            exact hwaiting id hwaits
        · obtain ⟨hown, hflights, helsewhere⟩ := finishSingleFlight_elsewhere hleader hfinish
          have hne : f ≠ leaderRow.requestFingerprint := by
            rintro rfl
            rw [hactive, Option.some.injEq, SingleFlightRow.mk.injEq] at hown
            exact hsame (hid.symm.trans hown.1.symm)
          refine .inl ⟨?_, ?_, fun id hwaits => ?_⟩
          · rw [hflights, if_neg hne]
            exact hactive
          · exact (List.mem_cons.mp hmem).resolve_left fun heq => hsame heq.symm
          · obtain ⟨c, hc, hf, hwaits', hrequest⟩ := hwaiting id hwaits
            have hnot : ¬ mid.admissions.Waiting leaderRow.requestFingerprint id := by
              rintro ⟨d, hd, hdf, -⟩
              obtain rfl := Option.some.inj (hc.symm.trans hd)
              exact hne (hf.symm.trans hdf)
            obtain ⟨hconsumers, hrequests⟩ := helsewhere id hnot
            exact ⟨c, hconsumers.trans hc, hf, hwaits', fun hnone =>
              hrequest (hrequests.symm.trans hnone)⟩
      · exact .inr ⟨answer, finishSingleFlight_results_kept hfinish hleaderAnswer, fun id hwaits =>
          finishSingleFlight_results_kept hfinish (hall id hwaits)⟩
  · -- it is among the flights that are visited
    refine List.mem_map.mpr ⟨_, List.mem_map.mpr ⟨(f, ⟨leader, .active⟩), ?_, rfl⟩, rfl⟩
    rw [Table.mem_select]
    exact ⟨hflight, rfl⟩

/-- A claim that was never tried is in line again. -/
theorem Answering.requeued {repairs : Repairs} {attempts : AttemptTable}
    (hwalk : Answering repairs attempts (openFlights db none) db)
    (hreconcile : reconcileTerminalFlights now none db = .ok db') {id : Identifier}
    {entry : QueueEntryRow} (hentry : db.queue.entries.get? id = some entry)
    (hidle : Unattempted attempts id) : db'.queue.entries.get? id = some entry := by
  refine (foldlM_invariant (f := reconcileFlight now) (fun rest (mid : Database) =>
    Answering repairs attempts rest mid ∧ mid.queue.entries.get? id = some entry) ?_
    ⟨hwalk, hentry⟩ hreconcile).2
  rintro flight rest mid next ⟨hmid, hmidEntry⟩ hnext
  refine ⟨hmid.step hnext, ?_⟩
  obtain ⟨f, hflight⟩ := (hmid.walk.shown flight List.mem_cons_self).active
  obtain ⟨-, -, result, hread, ⟨-, -, rfl⟩ | ⟨r, rfl, -, -, hfinish⟩⟩ := reconcileFlight_eq_ok hnext
  · exact hmidEntry
  · obtain ⟨hleader, hanswer⟩ := readLogicalResult_eq_some hread
    -- a leader that is answered was attempted
    have hne : id ≠ r.logicalRequestId := by
      rintro rfl
      rw [← hleader] at hflight hanswer
      exact (hmid.bears f _ hflight _ hanswer).attempted hidle
    rcases finishSingleFlight_eq_ok hfinish with
      ⟨-, rfl⟩ | ⟨leader, delivered, -, -, -, -, hfold, rfl⟩
    · exact hmidEntry
    · obtain ⟨hnodup, -⟩ := waitingConsumers_ids mid leader.requestFingerprint
      show (Table.updateWhere delivered.queue.entries _ _).get? id = some entry
      rw [Table.get?_updateWhere, (deliverAll_concluded hnodup hfold).queue, hmidEntry,
        Option.map_some, if_neg (by simp [hne])]

/-- What a recovery of `db` leaves behind. -/
structure Recovered (db db' : Database) : Prop where
  attempts : ∀ id attempt, db'.attempts.get? id = some attempt → attempt.state ≠ .started
  gates : ∀ id reservation, db'.gates.reservations.get? id = some reservation →
    reservation.state ≠ .active
  closed : ∀ id, Interrupted db id → ¬ db'.ledger.Open id ∧ db'.ledger.results.get? id ≠ none
  shared : ∀ leader f, Interrupted db leader →
    db.flight.flights.get? f = some ⟨leader, .active⟩ → ∀ id c,
      db.flight.consumers.get? id = some c → c.requestFingerprint = f → c.state = .active →
      db'.ledger.results.get? id = db'.ledger.results.get? leader
  waiting : ∀ id c, db'.flight.consumers.get? id = some c → c.state = .active →
    db'.ledger.Open id
  requeued : ∀ id entry, db.queue.entries.get? id = some entry → entry.state = .dequeued →
    db.ledger.Open id → Unattempted db.attempts id →
    db'.queue.entries.get? id = some { entry with state := .queued, dequeuedAt := none }

theorem Database.Sane.recovered (h : db.Sane) {ownerToken : Identifier}
    {policy : RuntimeLeasePolicy} {lease : RuntimeLease}
    (hrecover : recoverExpiredLease ownerToken now policy db = (.ok lease, db')) :
    Recovered db db' := by
  have hwork := recoverExpiredLease_outstanding hrecover fun row hrow => h.work.mono fun g hg => by
    obtain ⟨row', hrow', hle⟩ := hg
    obtain rfl := Option.some.inj (hrow.symm.trans hrow')
    exact hle
  obtain ⟨expires, row, repaired, delivered, -, hrepairs, hreconcile, rfl, rfl⟩ :=
    recoverExpiredLease_eq_ok hrecover
  have hsingle := h.single hrepairs hreconcile
  have hafter := hrepairs.recovered h.flown hreconcile
  have hframe := reconcileTerminalFlights_frame hreconcile
  obtain ⟨hrow, -⟩ := expiredLease_eq_ok.mp hrepairs.expired
  have hclosed : ∀ id, Interrupted db id → ¬ delivered.ledger.Open id := fun id hid =>
    reconcileTerminalFlights_stays_closed hreconcile (hrepairs.interrupted_closed h hid)
  constructor
  · -- no attempt is in flight: each was made unknown or transferred
    intro id attempt hattempt hstate
    change delivered.attempts.get? id = some attempt at hattempt
    rw [hframe.attempts] at hattempt
    obtain ⟨-, -, gates, started, closed, -, -, -, rfl⟩ := hrepairs
    obtain ⟨old, hold, -, hreserved⟩ := transferAttempts_live hattempt (by rw [hstate]; rfl)
      fun old hold => h.generation_le hrow hold
    simp [transferAttempts, Table.get?_updateWhere, hold, hreserved, h.generation_le hrow hold]
      at hattempt
    rw [← hattempt] at hstate
    cases hstate
  · -- an active reservation would be of the new generation
    intro id reservation hreservation hactive
    have hgeneration := hwork.reservations id reservation hreservation hactive
    change delivered.gates.reservations.get? id = some reservation at hreservation
    rw [hframe.gates] at hreservation
    obtain ⟨-, -, gates, started, closed, hgates, -, -, rfl⟩ := hrepairs
    obtain ⟨hbefore, -⟩ := recoverGateReservations_inactive hgates hreservation hactive
    obtain ⟨row', hrow', hle⟩ := h.work.reservations id reservation hbefore hactive
    obtain rfl := Option.some.inj (hrow.symm.trans hrow')
    have hnew : reservation.leaseGeneration = row.generation + 1 := hgeneration
    omega
  · -- an interrupted request is closed, with a result
    intro id hid
    refine ⟨hclosed id hid, ?_⟩
    have hrequested : db.ledger.requests.get? id ≠ none := by
      rcases hid with ⟨attemptId, attempt, hattempt, rfl, -⟩ |
        ⟨⟨attemptId, attempt, hattempt, rfl, -⟩, -⟩
      · exact h.flown.followers.requested attemptId attempt hattempt
      · exact h.flown.followers.requested attemptId attempt hattempt
    have hstay := hrepairs.followers.trans (reconcileTerminalFlights_followers hreconcile)
    obtain ⟨request, hrequest⟩ := Option.ne_none_iff_exists'.mp fun hnone =>
      hrequested ((hstay.requests id).mp hnone)
    intro hnone
    exact hclosed id hid ((hafter.1.open_iff hrequest).mpr hnone)
  · -- its followers have the same result
    rintro leader f hleader hflight id c hc rfl hactive
    have hsame : repaired.flight = db.flight := by
      obtain ⟨-, -, gates, started, closed, -, -, -, rfl⟩ := hrepairs
      rfl
    obtain ⟨answer, hanswer, hall⟩ := (hrepairs.reconciling h.flown).delivers hreconcile
      (by rw [hsame]; exact hflight) (hrepairs.interrupted_closed h hleader)
    obtain ⟨⟨request, hrequest, -⟩, -⟩ := h.flown.flights.known id c hc
    refine (hall id ⟨c, by rw [← hc]; exact congrArg (·.consumers.get? id) hsame, rfl, hactive,
      fun hnone => ?_⟩).trans hanswer.symm
    have hnone' := (hrepairs.followers.requests id).mp hnone
    rw [show db.ledger.requests.get? id = some request from hrequest] at hnone'
    cases hnone'
  · -- an active consumer waits for an open request
    intro id c hc hactive
    exact (hafter.2.open_ id c hc hactive).resolve_right (by intro h; cases h)
  · -- a claimed request that was never attempted is queued again
    intro id entry hentry hdequeued hopen hidle
    have hwalk := h.answering hsingle hrepairs
    refine hwalk.requeued hreconcile ?_ ?_
    · obtain ⟨-, -, gates, started, closed, -, -, -, rfl⟩ := hrepairs
      show (Table.updateWhere db.queue.entries _ _).get? id = _
      rw [Table.get?_updateWhere, hentry, Option.map_some,
        if_pos (isUnattemptedClaim_iff.mpr ⟨hdequeued, hopen, hidle⟩)]
    · obtain ⟨-, -, gates, started, closed, -, -, -, rfl⟩ := hrepairs
      exact unattempted_transferAttempts.mpr hidle

end

/-- **An expired lease is recovered exactly when nothing is in the way.** In every database
that the fenced operations reach, with requests submitted queued and no attempt reserved for an
active follower, the recovery of a lease past its expiry succeeds if and only if every attempt
in flight belongs to an open request and no leader of an active flight has an attempt in flight
beside a reserved one. After it no attempt is in flight and no gate taken; every request that
was interrupted is closed with a result, which everybody in its flight shares; whoever still
waits has an open request; and every claim that was never tried is in line again. -/
theorem recovery_exact {db : Database}
    (hrun : Reachable (fun op db => op.FencedInFlight db) db) {row : RuntimeLeaseRow}
    {now expires : DateTime} {policy : RuntimeLeasePolicy} (hlease : db.lease = some row)
    (hactive : row.active = true) (hclock : row.heartbeatAt ≤ now) (hexpired : row.expiresAt ≤ now)
    (hexpires : leaseExpiry now policy = .ok expires) (ownerToken : Identifier) :
    ((∃ lease db', recoverExpiredLease ownerToken now policy db = (.ok lease, db')) ↔
      db.StartedOpen ∧ db.LeadersSingle) ∧
    ∀ lease db', recoverExpiredLease ownerToken now policy db = (.ok lease, db') →
      Recovered db db' := by
  have h := hrun.sane
  refine ⟨⟨?_, ?_⟩, fun lease db' hrecover => h.recovered hrecover⟩
  · rintro ⟨lease, db', hrecover⟩
    obtain ⟨_, row', repaired, delivered, -, hrepairs, hreconcile, -, -⟩ :=
      recoverExpiredLease_eq_ok hrecover
    obtain ⟨hrow, -⟩ := expiredLease_eq_ok.mp hrepairs.expired
    exact ⟨(h.audit_iff hrow).mp hrepairs.audited, h.single hrepairs hreconcile⟩
  · rintro ⟨hopen, hsingle⟩
    exact h.recovers (expiredLease_eq_ok.mpr ⟨hlease, hactive, hclock, hexpired⟩) hopen hsingle
      hexpires

namespace Sample

/-- The owner is interrupted during the exchange of its attempt. -/
def inFlight : Database :=
  runAll Operation.next (acquired ++
    [.markPhysicalAttemptStarted attempt.physicalAttemptId lease (at_ 4)]) .initial

/-- One attempt is in flight beside another reserved one. -/
def inFlightTwice : Database :=
  runAll Operation.next (acquiredTwice ++
    [.markPhysicalAttemptStarted attempt.physicalAttemptId lease (at_ 5)]) .initial

end Sample

/-- The exchange of the sample run is interrupted, and its request closed. -/
theorem recovery_exact_sample :
    (Sample.inFlight.StartedOpen ∧ Sample.inFlight.LeadersSingle) ∧
      Recovered Sample.inFlight (Sample.recovered Sample.inFlight) := by
  have hrun : Reachable (fun op db => op.FencedInFlight db) Sample.inFlight :=
    Reaches.runAll (by decide +kernel)
  have hlease : Sample.inFlight.lease =
      some ⟨Sample.owner, 1, Sample.at_ 0, Sample.at_ 0, Sample.at_ 30, true⟩ := by decide +kernel
  have hexpires : leaseExpiry (Sample.at_ 40) {} = .ok (Sample.at_ 70) :=
    by decide +kernel
  have hrecover : recoverExpiredLease Sample.nextOwner (Sample.at_ 40) {} Sample.inFlight =
      (.ok Sample.nextLease, Sample.recovered Sample.inFlight) :=
    Prod.ext (by decide +kernel) rfl
  have hexact := recovery_exact hrun hlease rfl (by decide +kernel) (by decide +kernel) hexpires
    Sample.nextOwner
  exact ⟨hexact.1.mp ⟨_, _, hrecover⟩, hexact.2 _ _ hrecover⟩

-- an attempt in flight beside a reserved one keeps every owner out
example : Reachable (fun op db => op.FencedInFlight db) Sample.inFlightTwice ∧
    (recoverExpiredLease Sample.nextOwner (Sample.at_ 40) {} Sample.inFlightTwice).1 =
      .error (.storage .logicalRequestHasActiveAttempt) :=
  ⟨Reaches.runAll (by decide +kernel), by decide +kernel⟩

end StockResearch.Requests
