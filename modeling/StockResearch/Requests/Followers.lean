import StockResearch.Requests.FlightFaults
import StockResearch.Requests.LogicalResults

/-!
# Followers own no attempts

A follower of an active flight waits for the attempt of its leader. It has no queue entry,
so `acquire_gates` creates none for it; `reserve_next_physical_attempt` does not look at
the flights and can.

- `Database.Follows`: the request is an active follower.
- `Database.FollowersIdle`: no active follower has an attempt, and why this lasts.
- `Operation.SparesFollowers`: attempts are not reserved for active followers.
-/

namespace StockResearch.Requests

open Relation (ReflTransGen)

/-! ## Followers -/

/-- The request is an active consumer with the role of a follower. -/
def Database.Follows (db : Database) (id : Identifier) : Prop :=
  (db.flight.consumers.get? id).any (fun c => c.state = .active && c.role = .follower) = true

instance (db : Database) : DecidablePred db.Follows :=
  fun _ => inferInstanceAs (Decidable (_ = true))

theorem Database.follows_iff {db : Database} {id : Identifier} : db.Follows id ↔
    ∃ c, db.flight.consumers.get? id = some c ∧ c.state = .active ∧ c.role = .follower := by
  simp only [Database.Follows, Option.any_eq_true, Bool.and_eq_true, decide_eq_true_eq]

/-- What an operation on known requests does to the followers: it makes none, and gives
none of them a queue entry. -/
structure FollowersStay (db db' : Database) : Prop where
  follows : ∀ id, db'.Follows id → db.Follows id
  unlined : ∀ id, db'.Follows id → db.queue.entries.get? id = none →
    db'.queue.entries.get? id = none
  requests : ∀ id, db'.ledger.requests.get? id = none ↔ db.ledger.requests.get? id = none
  consumers : ∀ id, db.ledger.requests.get? id = none → db.flight.consumers.get? id = none →
    db'.flight.consumers.get? id = none
  entries : ∀ id, db.ledger.requests.get? id = none → db.queue.entries.get? id = none →
    db'.queue.entries.get? id = none

/-- Nothing but attempts, gates and the lease changed. -/
theorem FollowersStay.of_eq {db db' : Database} (hledger : db'.ledger = db.ledger)
    (hqueue : db'.queue.entries = db.queue.entries)
    (hconsumers : db'.flight.consumers = db.flight.consumers) : FollowersStay db db' where
  follows := fun id h => by rwa [Database.Follows, hconsumers] at h
  unlined := fun _ _ h => by rwa [hqueue]
  requests := fun _ => by rw [hledger]
  consumers := fun _ _ h => by rwa [hconsumers]
  entries := fun _ _ h => by rwa [hqueue]

theorem FollowersStay.trans {a b c : Database} (hab : FollowersStay a b) (hbc : FollowersStay b c) :
    FollowersStay a c where
  follows := fun id h => hab.follows id (hbc.follows id h)
  unlined := fun id h hnone => hbc.unlined id h (hab.unlined id (hbc.follows id h) hnone)
  requests := fun id => (hbc.requests id).trans (hab.requests id)
  consumers := fun id h hnone =>
    hbc.consumers id ((hab.requests id).mpr h) (hab.consumers id h hnone)
  entries := fun id h hnone => hbc.entries id ((hab.requests id).mpr h) (hab.entries id h hnone)

/-! ## Delivery and cancellation -/

theorem Concluded.followers {ending : ConsumerEnding} {ids : List Identifier}
    {closed : Identifier → Prop} {result : LogicalResultRow} {db db' : Database}
    (h : Concluded ending ids closed result db db') : FollowersStay db db' where
  follows := by
    intro id hid
    obtain ⟨c, hc, hactive, hrole⟩ := Database.follows_iff.mp hid
    rw [h.consumers] at hc
    split at hc
    · obtain ⟨row, -, rfl⟩ := Option.map_eq_some_iff.mp hc
      exact absurd hactive (row.finish_inactive ending)
    · exact Database.follows_iff.mpr ⟨c, hc, hactive, hrole⟩
  unlined := fun _ _ hnone => by rwa [h.queue]
  requests := fun _ => h.ledger.requests_none
  consumers := by
    intro id _ hnone
    rw [h.consumers, hnone]
    exact ite_self _
  entries := fun _ _ hnone => by rwa [h.queue]

theorem finishSingleFlight_followers {result : ProductionLogicalResult} {now : DateTime}
    {db db' : Database} (h : finishSingleFlight result now db = .ok db') : FollowersStay db db' := by
  rcases finishSingleFlight_eq_ok h with ⟨-, rfl⟩ | ⟨leader, delivered, -, -, -, -, hfold, rfl⟩
  · exact .of_eq rfl rfl rfl
  obtain ⟨hnodup, -⟩ := waitingConsumers_ids db leader.requestFingerprint
  have hstay := (deliverAll_concluded hnodup hfold).followers
  refine ⟨hstay.follows, fun id hid hnone => ?_, hstay.requests, hstay.consumers,
    fun id hid hnone => ?_⟩
  · exact Table.get?_updateWhere_eq_none.mpr (hstay.unlined id hid hnone)
  · exact Table.get?_updateWhere_eq_none.mpr (hstay.entries id hid hnone)

theorem reconcileTerminalFlights_followers {now : DateTime} {fingerprint : Option Sha256Hex}
    {db db' : Database} (h : reconcileTerminalFlights now fingerprint db = .ok db') :
    FollowersStay db db' := by
  refine foldlM_invariant (fun _ db' => FollowersStay db db') ?_ (.of_eq rfl rfl rfl) h
  intro flight rest s s' hs hstep
  obtain ⟨-, -, -, -, ⟨-, -, rfl⟩ | ⟨r, -, -, -, hfinish⟩⟩ := reconcileFlight_eq_ok hstep
  · exact hs
  · exact hs.trans (finishSingleFlight_followers hfinish)

theorem cancelStartedFlight_followers {fingerprint : Sha256Hex} {now : DateTime}
    {reason : Identifier} {db db' : Database}
    (h : cancelStartedFlight fingerprint now reason db = .ok db') : FollowersStay db db' := by
  obtain ⟨leader, gates, cancelled, -, -, hfold, rfl⟩ := cancelStartedFlight_eq_ok h
  have hnodup : ((db.flight.activeConsumers fingerprint).map Prod.fst).Nodup :=
    Table.select_keys_nodup _ _
  have hstay := (cancelAll_concluded hnodup hfold).followers
  exact ⟨hstay.follows, hstay.unlined, hstay.requests, hstay.consumers, hstay.entries⟩

/-- A cancelled consumer follows nobody. -/
theorem FlightTables.follows_cancelConsumer {flight : FlightTables} {id other : Identifier}
    {c : ConsumerRow} (hc : (flight.cancelConsumer id).consumers.get? other = some c)
    (hactive : c.state = .active) : flight.consumers.get? other = some c := by
  rw [FlightTables.cancelConsumer, Table.get?_modify] at hc
  split at hc
  · obtain ⟨row, -, rfl⟩ := Option.map_eq_some_iff.mp hc
    cases hactive
  · exact hc

theorem cancelUnsentLeader_followers {id : Identifier} {fingerprint : Sha256Hex} {now : DateTime}
    {reason : Identifier} {db db' : Database} {promoted : Option Identifier}
    (h : cancelUnsentLeader id fingerprint now reason db = .ok (promoted, db')) :
    FollowersStay db db' := by
  obtain ⟨ledger, handed, hledger, hhanded, -, rfl⟩ := cancelUnsentLeader_eq_ok h
  have hclosing := (cancelLogical_closing (by exact nofun) hledger).2
  rcases promoteFollower_eq_ok hhanded with
    ⟨-, rfl⟩ | ⟨promoted, rateDomain, taskId, events, hnext, hunlined, rfl⟩
  · refine ⟨fun other hother => ?_, fun _ _ => Table.get?_modify_eq_none.mpr,
      fun _ => hclosing.requests_none, fun _ _ => Table.get?_modify_eq_none.mpr,
      fun _ _ => Table.get?_modify_eq_none.mpr⟩
    obtain ⟨c, hc, hactive, hrole⟩ := Database.follows_iff.mp hother
    exact Database.follows_iff.mpr
      ⟨c, FlightTables.follows_cancelConsumer hc hactive, hactive, hrole⟩
  · -- the new leader leaves the followers in the statement that puts it in line
    have hrow : ∀ other c, ((db.flight.cancelConsumer id).consumers.modify promoted
        fun row => { row with role := .leader }).get? other = some c → c.role = .follower →
          other ≠ promoted ∧ (db.flight.cancelConsumer id).consumers.get? other = some c := by
      intro other c hc hrole
      rw [Table.get?_modify] at hc
      split at hc
      · obtain ⟨row, -, rfl⟩ := Option.map_eq_some_iff.mp hc
        cases hrole
      · rename_i hne
        exact ⟨hne, hc⟩
    have hinsert : ∀ other, other ≠ promoted → db.queue.entries.get? other = none →
        ((db.queue.entries.modify id fun row => { row with state := .cancelled }).insert promoted
          ⟨rateDomain, taskId, now, .queued, none⟩).get? other = none := by
      intro other hne hnone
      rw [Table.get?_insert hunlined, if_neg hne]
      exact Table.get?_modify_eq_none.mpr hnone
    refine ⟨fun other hother => ?_, fun other hother hnone => ?_, fun _ => hclosing.requests_none,
      fun _ _ hnone => Table.get?_modify_eq_none.mpr (Table.get?_modify_eq_none.mpr hnone),
      fun other hother hnone => ?_⟩
    · obtain ⟨c, hc, hactive, hrole⟩ := Database.follows_iff.mp hother
      exact Database.follows_iff.mpr
        ⟨c, FlightTables.follows_cancelConsumer (hrow other c hc hrole).2 hactive, hactive, hrole⟩
    · obtain ⟨c, hc, -, hrole⟩ := Database.follows_iff.mp hother
      exact hinsert other (hrow other c hc hrole).1 hnone
    · refine hinsert other ?_ hnone
      rintro rfl
      obtain ⟨_, request, -, -, -, -, hrequest, -, -⟩ := nextLeader_eq_some hnext
      rw [hother] at hrequest
      cases hrequest

theorem cancelLeader_followers {id : Identifier} {fingerprint : Sha256Hex} {now : DateTime}
    {reason : Identifier} {db db' : Database} {promoted : Option Identifier}
    (h : cancelLeader id fingerprint now reason db = .ok (promoted, db')) :
    FollowersStay db db' := by
  rcases cancelLeader_eq_ok h with ⟨-, -, hstarted⟩ | ⟨dropped, -, -, hdrop, hrest⟩
  · exact cancelStartedFlight_followers hstarted
  · have hdropped : FollowersStay db dropped := by
      rcases dropReservedAttempt_eq_ok hdrop with ⟨-, rfl⟩ | ⟨_, _, _, -, -, -, rfl⟩
      · exact .of_eq rfl rfl rfl
      · exact .of_eq rfl rfl rfl
    rcases hrest with ⟨-, -, hstarted⟩ | ⟨-, hunsent⟩
    · exact hdropped.trans (cancelStartedFlight_followers hstarted)
    · exact hdropped.trans (cancelUnsentLeader_followers hunsent)

/-! ## Admission -/

theorem queueLeader_followers {request : ProductionLogicalRequest} {rateDomain : Identifier}
    {cachePolicy : ProductionCachePolicy} {now : DateTime} {policy : QueuePolicy}
    {db db' : Database} {rejected : Bool}
    (hrequest : db.ledger.requests.get? request.logicalRequestId ≠ none)
    (hfresh : db.flight.consumers.get? request.logicalRequestId = none)
    (h : queueLeader request rateDomain now policy
      { db with
        flight := joinedFlight request .leader cachePolicy rateDomain request.logicalRequestId now
          (openFlight request.requestFingerprint request.logicalRequestId db.flight) } =
        .ok (rejected, db')) : FollowersStay db db' := by
  -- the one new consumer leads
  have hrow : ∀ id c, (db.flight.consumers.insert request.logicalRequestId
      (joinedConsumer request .leader cachePolicy rateDomain now)).get? id = some c →
        c.role = .follower → id ≠ request.logicalRequestId ∧
          db.flight.consumers.get? id = some c := by
    intro id c hc hrole
    rw [Table.get?_insert hfresh] at hc
    split at hc
    · obtain rfl := Option.some.inj hc
      cases hrole
    · rename_i hne
      exact ⟨hne, hc⟩
  have hother : ∀ id, db.ledger.requests.get? id = none → id ≠ request.logicalRequestId := by
    rintro id hid rfl
    exact hrequest hid
  have hconsumers : ∀ id, db.ledger.requests.get? id = none → db.flight.consumers.get? id = none →
      (db.flight.consumers.insert request.logicalRequestId
        (joinedConsumer request .leader cachePolicy rateDomain now)).get? id = none := by
    intro id hid hnone
    rw [Table.get?_insert hfresh, if_neg (hother id hid), hnone]
  have hentries : ∀ (entry : QueueEntryRow) id, id ≠ request.logicalRequestId →
      db.queue.entries.get? request.logicalRequestId = none → db.queue.entries.get? id = none →
        (db.queue.entries.insert request.logicalRequestId entry).get? id = none := by
    intro entry id hne hlined hnone
    rw [Table.get?_insert hlined, if_neg hne, hnone]
  obtain ⟨hlined, -, ⟨-, rfl⟩ | ⟨-, ledger, hledger, rfl⟩⟩ := queueLeader_eq_ok h
  · refine ⟨fun id hid => ?_, fun id hid hnone => ?_, fun _ => Iff.rfl, hconsumers,
      fun id hid hnone => hentries _ id (hother id hid) hlined hnone⟩
    · obtain ⟨c, hc, hactive, hrole⟩ := Database.follows_iff.mp hid
      exact Database.follows_iff.mpr ⟨c, (hrow id c hc hrole).2, hactive, hrole⟩
    · obtain ⟨c, hc, hactive, hrole⟩ := Database.follows_iff.mp hid
      exact hentries _ id (hrow id c hc hrole).1 hlined hnone
  · have hclosing := (cancelLogical_closing (by decide) hledger).2
    refine ⟨fun id hid => ?_, fun id hid hnone => ?_, fun _ => hclosing.requests_none,
      fun id hid hnone => Table.get?_modify_eq_none.mpr (hconsumers id hid hnone),
      fun id hid hnone => hentries _ id (hother id hid) hlined hnone⟩
    · obtain ⟨c, hc, hactive, hrole⟩ := Database.follows_iff.mp hid
      have hold := FlightTables.follows_cancelConsumer hc hactive
      exact Database.follows_iff.mpr ⟨c, (hrow id c hold hrole).2, hactive, hrole⟩
    · obtain ⟨c, hc, hactive, hrole⟩ := Database.follows_iff.mp hid
      have hold := FlightTables.follows_cancelConsumer hc hactive
      exact hentries _ id (hrow id c hold hrole).1 hlined hnone

/-! ## Where attempts come from -/

/-- The requests an operation can create an attempt for. -/
def Operation.Attempts (op : Operation) (db : Database) (id : Identifier) : Prop :=
  match op with
  | .addPhysicalAttempt attempt => id = attempt.logicalRequestId
  | .reserveNextPhysicalAttempt _ logicalRequestId _ _ => id = logicalRequestId
  | .acquireGates _ attempt _ _ _ _ => id = attempt.logicalRequestId ∧
    (db.queue.entries.get? id).map (·.state) = some .dequeued
  | _ => False

/-- The attempts are those from before, or belong to requests with `p`. -/
def AttemptsFrom (p : Identifier → Prop) (attempts attempts' : AttemptTable) : Prop :=
  ∀ attemptId row', attempts'.get? attemptId = some row' →
    (∃ row, attempts.get? attemptId = some row ∧ row.logicalRequestId = row'.logicalRequestId) ∨
      p row'.logicalRequestId

section

variable {p q : Identifier → Prop} {attempts attempts' : AttemptTable}

theorem AttemptsFrom.refl (attempts : AttemptTable) : AttemptsFrom p attempts attempts :=
  fun _ row h => .inl ⟨row, h, rfl⟩

theorem AttemptsFrom.of_eq (h : attempts' = attempts) : AttemptsFrom p attempts attempts' :=
  h ▸ .refl _

theorem AttemptsFrom.mono (h : AttemptsFrom p attempts attempts') (hpq : ∀ id, p id → q id) :
    AttemptsFrom q attempts attempts' :=
  fun attemptId row' hrow' => (h attemptId row' hrow').imp_right (hpq _)

theorem attemptSteps_from {gated : Identifier → Prop}
    (h : ReflTransGen (AttemptStep (fun _ _ _ => False) gated) attempts attempts') :
    AttemptsFrom p attempts attempts' := by
  induction h with
  | refl => exact .refl _
  | tail _ hstep ih =>
    intro attemptId row' hrow'
    cases hstep with
    | create hcreates => exact hcreates.elim
    | discard =>
      rw [Table.get?_deleteWhere, Option.filter_eq_some_iff] at hrow'
      exact ih attemptId row' hrow'.1
    | move hmoves =>
      obtain ⟨row, hrow, hmove⟩ := hmoves.to_some hrow'
      rw [hmove.request]
      exact ih attemptId row hrow

theorem insertAttempt_from {ledger : LedgerTables} {id : Identifier} {row : PhysicalAttemptRow}
    (h : insertAttempt ledger attempts id row = .ok attempts')
    (hrow : ledger.requests.get? row.logicalRequestId ≠ none → p row.logicalRequestId) :
    AttemptsFrom p attempts attempts' := by
  obtain ⟨hrequest, -, hfresh, rfl⟩ := insertAttempt_eq_ok.mp h
  intro attemptId row' hrow'
  rw [Table.get?_insert hfresh] at hrow'
  split at hrow'
  · obtain rfl := Option.some.inj hrow'
    exact .inr (hrow hrequest)
  · exact .inl ⟨row', hrow', rfl⟩

/-- An attempt is created for a known request, by an operation that names it. -/
theorem Transition.attempts_from {op : Operation} {db db' : Database} (h : Transition op db db') :
    AttemptsFrom (fun id => db.ledger.requests.get? id ≠ none ∧ op.Attempts db id) db.attempts
      db'.attempts := by
  have hsteps : (∀ id row, ¬ op.Creates db id row) → AttemptsFrom
      (fun id => db.ledger.requests.get? id ≠ none ∧ op.Attempts db id) db.attempts
        db'.attempts := by
    intro hnone
    have hchain : ReflTransGen (AttemptStep (fun _ _ _ => False) db.gates.Gated) db.attempts
        db'.attempts := h.attempt_steps hnone
    exact attemptSteps_from hchain
  cases h with
  | unchanged | publish | blocked => exact .refl _
  | acquire _ _ hdequeued _ _ hattempt =>
    rcases ensureReservedAttempt_eq_ok hattempt with ⟨-, -, hinsert⟩ | ⟨_, -, -, -, -, -, -, rfl⟩
    · exact insertAttempt_from hinsert fun hrequest => ⟨hrequest, rfl, hdequeued⟩
    · exact .refl _
  | addAttempt hattempt => exact insertAttempt_from hattempt fun hrequest => ⟨hrequest, rfl⟩
  | reserveAttempt _ _ _ _ hattempt =>
    exact insertAttempt_from hattempt fun hrequest => ⟨hrequest, rfl⟩
  | finish hop => exact hsteps fun _ _ hcreates => by cases hop <;> cases hcreates
  | close hop => exact hsteps fun _ _ hcreates => by cases hop <;> cases hcreates
  | _ => exact hsteps fun _ _ hcreates => by cases hcreates

end

/-! ## The invariant -/

/-- No active follower has an attempt or a queue entry; entries, consumers and attempts
belong to known requests. -/
structure Database.FollowersIdle (db : Database) : Prop where
  known : ∀ id, db.ledger.requests.get? id = none → db.flight.consumers.get? id = none
  lined : ∀ id, db.ledger.requests.get? id = none → db.queue.entries.get? id = none
  requested : ∀ attemptId row, db.attempts.get? attemptId = some row →
    db.ledger.requests.get? row.logicalRequestId ≠ none
  unlined : ∀ id, db.Follows id → db.queue.entries.get? id = none
  idle : ∀ attemptId row, db.attempts.get? attemptId = some row → ¬ db.Follows row.logicalRequestId

theorem Database.initial_followersIdle : Database.initial.FollowersIdle where
  known := fun _ _ => rfl
  lined := fun _ _ => rfl
  requested := fun _ _ h => by cases h
  unlined := fun _ _ => rfl
  idle := fun _ _ h => by cases h

section

variable {db db' : Database} (h : db.FollowersIdle)

include h

theorem Database.FollowersIdle.stay (hstay : FollowersStay db db')
    (hattempts : AttemptsFrom (fun id => db.ledger.requests.get? id ≠ none ∧ ¬ db.Follows id)
      db.attempts db'.attempts) : db'.FollowersIdle where
  known := fun id hid => hstay.consumers id ((hstay.requests id).mp hid)
    (h.known id ((hstay.requests id).mp hid))
  lined := fun id hid => hstay.entries id ((hstay.requests id).mp hid)
    (h.lined id ((hstay.requests id).mp hid))
  requested := by
    intro attemptId row' hrow' hnone
    rw [hstay.requests] at hnone
    rcases hattempts attemptId row' hrow' with ⟨row, hrow, hsame⟩ | ⟨hknown, -⟩
    · exact h.requested attemptId row hrow (hsame ▸ hnone)
    · exact hknown hnone
  unlined := fun id hid => hstay.unlined id hid (h.unlined id (hstay.follows id hid))
  idle := by
    intro attemptId row' hrow' hfollows
    replace hfollows := hstay.follows _ hfollows
    rcases hattempts attemptId row' hrow' with ⟨row, hrow, hsame⟩ | ⟨-, hidle⟩
    · exact h.idle attemptId row hrow (hsame ▸ hfollows)
    · exact hidle hfollows

/-- A request that is only recorded follows nobody. -/
theorem Database.FollowersIdle.record {request : ProductionLogicalRequest} {ledger : LedgerTables}
    (hledger : insertLogicalRequest request db.ledger = .ok ledger) :
    { db with ledger := ledger }.FollowersIdle := by
  obtain ⟨hfresh, rfl⟩ := insertLogicalRequest_eq_ok.mp hledger
  have hold : ∀ id, (db.ledger.requests.insert request.logicalRequestId
      request.toLogicalRequestRow).get? id = none → db.ledger.requests.get? id = none := by
    intro id hid
    rw [Table.get?_insert hfresh] at hid
    split at hid
    · cases hid
    · exact hid
  exact ⟨fun id hid => h.known id (hold id hid), fun id hid => h.lined id (hold id hid),
    fun attemptId row hrow hnone => h.requested attemptId row hrow (hold _ hnone), h.unlined, h.idle⟩

/-- A queue entry for a request that follows nobody. -/
theorem Database.FollowersIdle.enqueue {request : ProductionLogicalRequest}
    (rateDomain : Identifier) (now : DateTime) (rejected : Bool)
    (hrequest : db.ledger.requests.get? request.logicalRequestId ≠ none)
    (hfollows : ¬ db.Follows request.logicalRequestId)
    (hlined : db.queue.entries.get? request.logicalRequestId = none) :
    { db with queue := enqueuedQueue request rateDomain now rejected db.queue }.FollowersIdle := by
  have hentry : ∀ id, id ≠ request.logicalRequestId → db.queue.entries.get? id = none →
      (enqueuedQueue request rateDomain now rejected db.queue).entries.get? id = none := by
    intro id hne hnone
    exact (Table.get?_insert hlined _ id).trans (by rw [if_neg hne, hnone])
  refine { h with lined := ?_, unlined := ?_ }
  · intro id hid
    refine hentry id ?_ (h.lined id hid)
    rintro rfl
    exact hrequest hid
  · intro id hid
    refine hentry id ?_ (h.unlined id hid)
    rintro rfl
    exact hfollows hid

/-- A new follower, of a request that was not queued or attempted. -/
theorem Database.FollowersIdle.join {request : ProductionLogicalRequest}
    {rateDomain leader : Identifier} {cachePolicy : ProductionCachePolicy} {now : DateTime}
    (hrequest : db.ledger.requests.get? request.logicalRequestId ≠ none)
    (hfresh : db.flight.consumers.get? request.logicalRequestId = none)
    (hlined : db.queue.entries.get? request.logicalRequestId = none)
    (hidle : ∀ attemptId row, db.attempts.get? attemptId = some row →
      row.logicalRequestId ≠ request.logicalRequestId) :
    { db with
      flight := joinedFlight request .follower cachePolicy rateDomain leader now db.flight
        }.FollowersIdle := by
  -- the new consumer is a follower, the others are as they were
  have hold : ∀ id, id ≠ request.logicalRequestId →
      (joinedFlight request .follower cachePolicy rateDomain leader now db.flight).consumers.get? id =
        db.flight.consumers.get? id := by
    intro id hne
    exact (Table.get?_insert hfresh _ id).trans (if_neg hne)
  have hfollows : ∀ id, id ≠ request.logicalRequestId →
      Database.Follows { db with
        flight := joinedFlight request .follower cachePolicy rateDomain leader now db.flight } id →
      db.Follows id := by
    intro id hne h
    rwa [Database.Follows, hold id hne] at h
  refine ⟨fun id hid => ?_, h.lined, h.requested, fun id hid => ?_, fun attemptId row hrow hid => ?_⟩
  · refine (hold id ?_).trans (h.known id hid)
    rintro rfl
    exact hrequest hid
  · -- the newcomer has no entry, an old follower had none before
    by_cases hne : id = request.logicalRequestId
    · rw [hne]
      exact hlined
    · exact h.unlined id (hfollows id hne hid)
  · -- nothing was attempted for it
    exact h.idle attemptId row hrow (hfollows _ (hidle attemptId row hrow) hid)

end

/-! ## Runs -/

/-- The call is for an attempt of an active follower, which only an acquisition refuses. -/
def Operation.MeetsFollower (op : Operation) (db : Database) : Prop :=
  match op with
  | .addPhysicalAttempt attempt => db.Follows attempt.logicalRequestId
  | .reserveNextPhysicalAttempt _ logicalRequestId _ _ => db.Follows logicalRequestId
  | _ => False

instance (op : Operation) (db : Database) : Decidable (op.MeetsFollower db) :=
  match op with
  | .addPhysicalAttempt attempt =>
    inferInstanceAs (Decidable (db.Follows attempt.logicalRequestId))
  | .reserveNextPhysicalAttempt _ logicalRequestId _ _ =>
    inferInstanceAs (Decidable (db.Follows logicalRequestId))
  | .addLogicalRequest .. | .enqueueLogicalRequest .. | .admitLogicalRequest ..
  | .cancelAdmittedRequest .. | .claimNextQueued .. | .acquireGates .. | .releaseGates ..
  | .recordRetryAfter .. | .recordUnknownOutcome .. | .discardReservedAttempt ..
  | .markPhysicalAttemptStarted .. | .completeLogicalRequest .. | .finalizeLogicalRequest ..
  | .beginRawPublication .. | .commitRawPublication .. | .failRawPublication ..
  | .markRawPublicationReconciliationRequired .. | .acquireLease .. | .heartbeatLease ..
  | .releaseLease .. | .recoverExpiredLease .. => inferInstanceAs (Decidable False)

/-- Attempts are not reserved for active followers: a call for one is refused. -/
def Operation.SparesFollowers (op : Operation) (db : Database) : Prop :=
  op.Succeeds db → ¬ op.MeetsFollower db

instance (op : Operation) (db : Database) : Decidable (op.SparesFollowers db) :=
  inferInstanceAs (Decidable (_ → _))

/-- A refused call for a follower changes nothing. -/
theorem Operation.SparesFollowers.spares_or_idle {op : Operation} {db : Database}
    (h : op.SparesFollowers db) : ¬ op.MeetsFollower db ∨ op.next db = db := by
  refine holds_or_idle h fun hmeets => ?_
  cases op with
  | addPhysicalAttempt | reserveNextPhysicalAttempt => rfl
  | _ => exact absurd id hmeets

/-- An acquisition needs a claimed entry, which no follower has. -/
theorem Database.FollowersIdle.attempts_from {op : Operation} {db db' : Database}
    (h : db.FollowersIdle) (hmove : Transition op db db') (hspares : ¬ op.MeetsFollower db) :
    AttemptsFrom (fun id => db.ledger.requests.get? id ≠ none ∧ ¬ db.Follows id) db.attempts
      db'.attempts := by
  refine hmove.attempts_from.mono fun id hid => hid.imp_right fun hcreates hfollows => ?_
  cases op with
  | addPhysicalAttempt | reserveNextPhysicalAttempt =>
    cases hcreates
    exact hspares hfollows
  | acquireGates =>
    obtain ⟨-, hdequeued⟩ := hcreates
    rw [h.unlined id hfollows] at hdequeued
    cases hdequeued
  | _ => exact hcreates

/-- What a recovery does before it delivers results. -/
theorem RecoveryRepairs.followers {db repaired : Database} {now : DateTime} {row : RuntimeLeaseRow}
    (h : RecoveryRepairs db now row repaired) : FollowersStay db repaired := by
  obtain ⟨-, -, gates, started, closed, -, hstarted, hclosed, rfl⟩ := h
  have hfirst : ∀ id, started.requests.get? id = none ↔ db.ledger.requests.get? id = none := by
    refine foldlM_invariant (fun _ (ledger : LedgerTables) => ∀ id,
      ledger.requests.get? id = none ↔ db.ledger.requests.get? id = none) ?_ (fun _ => Iff.rfl)
      hstarted
    intro request rest ledger ledger' hall hstep id
    obtain ⟨result, hclosing⟩ := closeStarted_closing hstep
    exact hclosing.requests_none.trans (hall id)
  have hrequests : ∀ id, closed.requests.get? id = none ↔ db.ledger.requests.get? id = none := by
    refine foldlM_invariant (fun _ (ledger : LedgerTables) => ∀ id,
      ledger.requests.get? id = none ↔ db.ledger.requests.get? id = none) ?_ hfirst hclosed
    intro entry rest ledger ledger' hall hstep id
    simp only [closeInterrupted, bind_eq_ok, pure_eq_ok] at hstep
    obtain ⟨results, -, rfl⟩ := hstep
    exact Table.get?_modify_eq_none.trans (hall id)
  exact ⟨fun _ h => h, fun _ _ => Table.get?_updateWhere_eq_none.mpr, hrequests, fun _ _ h => h,
    fun _ _ => Table.get?_updateWhere_eq_none.mpr⟩

theorem RecoveryRepairs.followersIdle {db repaired : Database} {now : DateTime}
    {row : RuntimeLeaseRow} (hrepairs : RecoveryRepairs db now row repaired)
    (h : db.FollowersIdle) : repaired.FollowersIdle := by
  have hstay := hrepairs.followers
  obtain ⟨-, -, gates, started, closed, -, -, -, rfl⟩ := hrepairs
  have hsteps : ReflTransGen (AttemptStep (fun _ _ _ => False) fun _ => False) db.attempts
      (transferAttempts row.generation db.attempts) := transferAttempts_steps _ _
  exact h.stay hstay (attemptSteps_from hsteps)

theorem Database.FollowersIdle.next {op : Operation} {db : Database} (h : db.FollowersIdle)
    (hspares : op.SparesFollowers db) : (op.next db).FollowersIdle := by
  rcases hspares.spares_or_idle with hspares | hidle
  swap
  · rwa [hidle]
  have hmove := op.transition db
  have hattempts := h.attempts_from hmove hspares
  generalize op.next db = db' at hmove hattempts
  have hfresh : ∀ {request : ProductionLogicalRequest} {ledger : LedgerTables},
      insertLogicalRequest request db.ledger = .ok ledger →
        ledger.requests.get? request.logicalRequestId ≠ none ∧
          db.ledger.requests.get? request.logicalRequestId = none := by
    intro request ledger hledger
    obtain ⟨hnone, rfl⟩ := insertLogicalRequest_eq_ok.mp hledger
    refine ⟨?_, hnone⟩
    rw [show (Table.insert _ _ _).get? _ = _ from Table.get?_insert_self hnone _]
    exact nofun
  have hnew : ∀ {request : ProductionLogicalRequest} {ledger : LedgerTables},
      insertLogicalRequest request db.ledger = .ok ledger →
        ¬ Database.Follows { db with ledger := ledger } request.logicalRequestId := by
    intro request ledger hledger hfollows
    obtain ⟨c, hc, -⟩ := Database.follows_iff.mp hfollows
    exact absurd ((h.known _ (hfresh hledger).2).symm.trans hc) nofun
  -- an admission up to the choice of the role
  have hadmit : ∀ {request : ProductionLogicalRequest} {cachePolicy : ProductionCachePolicy}
      {now : DateTime} {ledger : LedgerTables} {reconciled : Database},
      insertLogicalRequest request db.ledger = .ok ledger →
      reconcileTerminalFlights now (some request.requestFingerprint)
        (recordedRequest request cachePolicy now ledger db) = .ok reconciled →
      reconciled.FollowersIdle ∧ reconciled.attempts = db.attempts ∧
        reconciled.ledger.requests.get? request.logicalRequestId ≠ none := by
    intro request cachePolicy now ledger reconciled hledger hreconcile
    have hrecorded : (recordedRequest request cachePolicy now ledger db).FollowersIdle :=
      (h.record hledger).stay (.of_eq rfl rfl rfl) (.refl _)
    have hstay := reconcileTerminalFlights_followers hreconcile
    have hsame := (reconcileTerminalFlights_frame hreconcile).attempts
    exact ⟨hrecorded.stay hstay (.of_eq hsame), hsame,
      fun hnone => (hfresh hledger).1 ((hstay.requests _).mp hnone)⟩
  cases hmove with
  | unchanged | publish | heartbeat | release | blocked | acquire | finish | addAttempt
  | reserveAttempt | discardAttempt | startAttempt =>
    exact h.stay (.of_eq rfl rfl rfl) hattempts
  | submit hledger => exact h.record hledger
  | enqueue _ hledger hlined =>
    exact (h.record hledger).enqueue _ _ false (hfresh hledger).1 (hnew hledger) hlined
  | @rejectEnqueue request rateDomain _ now _ _ _ ledger _ hledger hlined =>
    have hqueued := (h.record hledger).enqueue rateDomain now true (hfresh hledger).1 (hnew hledger)
      hlined
    exact hqueued.stay ⟨fun _ h => h, fun _ _ h => h, fun _ => Table.get?_modify_eq_none,
      fun _ _ h => h, fun _ _ h => h⟩ (.refl _)
  | admitLeader _ hledger hreconcile hjoin _ _ hqueue =>
    obtain ⟨hreconciled, -, hrequest⟩ := hadmit hledger hreconcile
    exact hreconciled.stay (queueLeader_followers hrequest hjoin hqueue)
      (.of_eq (queueLeader_frame hqueue).attempts)
  | @admitFollower request _ _ _ _ _ _ _ ledger reconciled _ _ hledger hreconcile hjoin =>
    obtain ⟨hreconciled, hsame, hrequest⟩ := hadmit hledger hreconcile
    have hnone := (hfresh hledger).2
    have huntouched := reconcileTerminalFlights_untouched hreconcile (h.known _ hnone)
    refine hreconciled.join hrequest hjoin (huntouched.entry (h.lined _ hnone)) ?_
    -- nothing was attempted for a request that did not exist
    rintro attemptId row hrow hid
    rw [hsame] at hrow
    exact h.requested attemptId row hrow (hid ▸ hnone)
  | @claim _ _ _ _ _ _ _ queue _ _ _ hqueue =>
    have hentries : ∀ id, db.queue.entries.get? id = none → queue.entries.get? id = none := by
      intro id hnone
      rw [hqueue]
      exact Table.get?_modify_eq_none.mpr hnone
    exact h.stay ⟨fun _ h => h, fun id _ => hentries id, fun _ => Iff.rfl, fun _ _ h => h,
      fun id _ => hentries id⟩ hattempts
  | cancelFollower _ _ _ _ hledger =>
    have hclosing := (cancelLogical_closing (by exact nofun) hledger).2
    refine h.stay ⟨fun id hid => ?_, fun _ _ h => h, fun _ => hclosing.requests_none,
      fun _ _ => Table.get?_modify_eq_none.mpr, fun _ _ h => h⟩ hattempts
    obtain ⟨c, hc, hactive, hrole⟩ := Database.follows_iff.mp hid
    exact Database.follows_iff.mpr
      ⟨c, FlightTables.follows_cancelConsumer hc hactive, hactive, hrole⟩
  | cancelLeader _ _ _ _ hcancel => exact h.stay (cancelLeader_followers hcancel) hattempts
  | @close _ _ _ _ _ _ _ ledger _ _ hledger hfinish =>
    have hclosing := (persistLogicalResult_closing hledger).2
    have hclosed : FollowersStay db { db with ledger := ledger } :=
      ⟨fun _ h => h, fun _ _ h => h, fun _ => hclosing.requests_none, fun _ _ h => h,
        fun _ _ h => h⟩
    exact h.stay (hclosed.trans (finishSingleFlight_followers hfinish)) hattempts
  | acquireLease _ _ hreconcile =>
    have hstay := reconcileTerminalFlights_followers hreconcile
    exact h.stay ⟨hstay.follows, hstay.unlined, hstay.requests, hstay.consumers, hstay.entries⟩
      hattempts
  | recover _ hrepairs hreconcile =>
    have hstay := hrepairs.followers.trans (reconcileTerminalFlights_followers hreconcile)
    exact h.stay (.trans hstay (.of_eq rfl rfl rfl)) hattempts

theorem Reachable.followersIdle {db : Database}
    (hrun : Reachable (fun op db => op.SparesFollowers db) db) : db.FollowersIdle :=
  Reaches.invariant Database.FollowersIdle (fun _ _ hspares h => h.next hspares)
    Database.initial_followersIdle hrun

/-! ## No delivery meets an attempt of a follower -/

theorem mem_waitingConsumers {db : Database} {fingerprint : Sha256Hex} {w : WaitingConsumer} :
    w ∈ waitingConsumers db fingerprint ↔ ∃ c request,
      db.flight.consumers.get? w.logicalRequestId = some c ∧ c.requestFingerprint = fingerprint ∧
        c.state = .active ∧ db.ledger.requests.get? w.logicalRequestId = some request ∧
        w.role = c.role ∧ w.requestFingerprint = request.requestFingerprint := by
  rw [waitingConsumers, List.mem_filterMap]
  constructor
  · rintro ⟨⟨id, c⟩, hmem, hw⟩
    rw [mem_orderBy, mem_activeConsumers] at hmem
    obtain ⟨request, hrequest, rfl⟩ := Option.map_eq_some_iff.mp hw
    exact ⟨c, request, hmem.1, hmem.2.1, hmem.2.2, hrequest, rfl, rfl⟩
  · rintro ⟨c, request, hc, hf, hactive, hrequest, hrole, hw⟩
    refine ⟨(w.logicalRequestId, c), ?_, ?_⟩
    · rw [mem_orderBy, mem_activeConsumers]
      exact ⟨hc, hf, hactive⟩
    · rw [hrequest, Option.map_some, ← hrole, ← hw]

theorem finishSingleFlight_followers_idle {result : ProductionLogicalResult} {now : DateTime}
    {db : Database} (hidle : ∀ attemptId row, db.attempts.get? attemptId = some row →
      ¬ db.Follows row.logicalRequestId) :
    Avoids (.storage .singleFlightFollowerHasAttempt) (finishSingleFlight result now db) := by
  refine finishSingleFlight_avoids (fun _ _ => .inl nofun) fun leader _ => ?_
  refine foldlM_avoids (fun rest s => s.attempts = db.attempts ∧
    ∀ w ∈ rest, w ∈ waitingConsumers db leader.requestFingerprint) ?_ ⟨rfl, fun _ h => h⟩
  rintro w rest s ⟨hattempts, hall⟩
  refine ⟨deliverResult_avoids nofun (.inl nofun) fun hrole hother => .inr ?_, fun s' hs' =>
    ⟨(deliverResult_frame hs').attempts.trans hattempts,
      fun other hother => hall other (List.mem_cons_of_mem _ hother)⟩⟩
  -- whoever does not lead follows, so has no attempt
  obtain ⟨c, -, hc, -, hactive, -, hw, -⟩ := mem_waitingConsumers.mp (hall w List.mem_cons_self)
  have hfollows : db.Follows w.logicalRequestId := by
    refine Database.follows_iff.mpr ⟨c, hc, hactive, ?_⟩
    cases hrole' : c.role with
    | follower => rfl
    | leader => exact absurd (hrole.mp (hw.trans hrole')) hother
  rw [Table.select_eq_nil_iff]
  intro attemptId row hrow
  rw [hattempts] at hrow
  refine decide_eq_false fun hid => hidle attemptId row hrow ?_
  rwa [hid]

theorem reconcileTerminalFlights_followers_idle {now : DateTime} {fingerprint : Option Sha256Hex}
    {db : Database} (h : db.FollowersIdle) :
    Avoids (.storage .singleFlightFollowerHasAttempt)
      (reconcileTerminalFlights now fingerprint db) := by
  refine foldlM_avoids (fun _ s => s.FollowersIdle) ?_ h
  intro flight rest s hs
  refine ⟨FlightFault.followerHasAttempt.reconcileFlight (.inl nofun) (.inl nofun)
    fun _ _ => finishSingleFlight_followers_idle hs.idle, fun s' hs' => ?_⟩
  obtain ⟨-, -, -, -, ⟨-, -, rfl⟩ | ⟨r, -, -, -, hfinish⟩⟩ := reconcileFlight_eq_ok hs'
  · exact hs
  · exact hs.stay (finishSingleFlight_followers hfinish)
      (.of_eq (finishSingleFlight_frame hfinish).attempts)

/-! ## The theorem -/

/-- No call of any run that spares the followers reports an attempt of a follower. -/
theorem Database.FollowersIdle.run {db : Database} (h : db.FollowersIdle) (op : Operation) :
    (op.run db).1 ≠ .error (.storage .singleFlightFollowerHasAttempt) := by
  have he := FlightFault.followerHasAttempt
  cases op with
  | admitLogicalRequest request rateDomain cachePolicy lease now queuePolicy =>
    refine discardValue_ne_error (he.admitLogicalRequest (fun ledger hledger => ?_)
      fun _ _ _ _ _ => .inl nofun)
    have hrecorded : (recordedRequest request cachePolicy now ledger db).FollowersIdle :=
      (h.record hledger).stay (.of_eq rfl rfl rfl) (.refl _)
    exact reconcileTerminalFlights_followers_idle hrecorded
  | cancelAdmittedRequest id reason lease now =>
    exact discardValue_ne_error (he.cancelAdmittedRequest (.inl nofun))
  | completeLogicalRequest result lease now =>
    exact he.completeLogicalRequest fun _ _ _ => finishSingleFlight_followers_idle h.idle
  | finalizeLogicalRequest result lease now =>
    exact he.finalizeLogicalRequest fun _ _ _ => finishSingleFlight_followers_idle h.idle
  | acquireLease ownerToken now policy =>
    refine discardValue_ne_error (he.acquireLease fun row => ?_)
    have hleased : { db with lease := some row }.FollowersIdle :=
      h.stay (.of_eq rfl rfl rfl) (.refl _)
    exact reconcileTerminalFlights_followers_idle hleased
  | recoverExpiredLease ownerToken now policy =>
    refine discardValue_ne_error (he.recoverExpiredLease fun row repaired hrepairs => ?_)
    exact reconcileTerminalFlights_followers_idle (hrepairs.followersIdle h)
  | _ => exact he.other_calls rfl db

/-- **Followers own no attempts.** In every run in which `reserve_next_physical_attempt`
(and the unfenced `add_physical_attempt`) is not called for an active follower, no active
follower ever has an attempt, and no call fails with `single_flight_follower_has_attempt`. -/
theorem followers_own_no_attempts {db : Database}
    (hrun : Reachable (fun op db => op.SparesFollowers db) db) :
    (∀ id c, db.flight.consumers.get? id = some c → c.role = .follower → c.state = .active →
      ∀ attemptId row, db.attempts.get? attemptId = some row → row.logicalRequestId ≠ id) ∧
    ∀ op : Operation, (op.run db).1 ≠ .error (.storage .singleFlightFollowerHasAttempt) := by
  have h := hrun.followersIdle
  refine ⟨?_, h.run⟩
  rintro id c hc hrole hactive attemptId row hrow rfl
  exact h.idle attemptId row hrow (Database.follows_iff.mpr ⟨c, hc, hactive, hrole⟩)

namespace Sample

/-- A second request follows the first. -/
def followedRequest : List Operation :=
  [.acquireLease owner (at_ 0) leasePolicy,
    .admitLogicalRequest request domain ⟨false⟩ lease (at_ 1) queuePolicy,
    .admitLogicalRequest followingRequest domain ⟨false⟩ lease (at_ 2) queuePolicy]

/-- An attempt is reserved for the follower. -/
def followerReserved : Database :=
  runAll Operation.next (followedRequest ++ [.reserveNextPhysicalAttempt attempt.physicalAttemptId
    followingRequest.logicalRequestId lease (at_ 3)]) .initial

end Sample

/-- Without such an attempt the leader of the sample run can be finalized. -/
theorem followers_own_no_attempts_sample :
    (finalizeLogicalRequest Sample.failure Sample.lease (Sample.at_ 4)
      (runAll Operation.next Sample.followedRequest .initial)).1 ≠
        .error (.storage .singleFlightFollowerHasAttempt) :=
  (followers_own_no_attempts (Reaches.runAll (by decide +kernel))).2
    (.finalizeLogicalRequest Sample.failure Sample.lease (Sample.at_ 4))

/-- `reserve_next_physical_attempt` accepts a follower. Its leader, who has no attempt at
all, can then not be finalized. -/
theorem follower_reserves_attempt :
    Reachable (fun op _ => op.fenced = true ∧ op.SubmitsQueued) Sample.followerReserved ∧
      (∃ id c attemptId row, Sample.followerReserved.flight.consumers.get? id = some c ∧
        c.role = .follower ∧ c.state = .active ∧
        Sample.followerReserved.attempts.get? attemptId = some row ∧ row.logicalRequestId = id) ∧
      (Sample.followerReserved.attempts.select fun _ row =>
        row.logicalRequestId = Sample.request.logicalRequestId) = [] ∧
      (finalizeLogicalRequest Sample.failure Sample.lease (Sample.at_ 4)
        Sample.followerReserved).1 = .error (.storage .singleFlightFollowerHasAttempt) := by
  refine ⟨Reaches.runAll (by decide +kernel), ?_, by decide +kernel, by decide +kernel⟩
  exact ⟨Sample.followingRequest.logicalRequestId,
    joinedConsumer Sample.followingRequest .follower ⟨false⟩ Sample.domain (Sample.at_ 2),
    Sample.attempt.physicalAttemptId,
    ProductionPhysicalAttempt.row ⟨Sample.attempt.physicalAttemptId,
      Sample.followingRequest.logicalRequestId, 1, 1, isoformat (Sample.at_ 3)⟩,
    by decide +kernel, rfl, rfl, by decide +kernel, rfl⟩

end StockResearch.Requests
