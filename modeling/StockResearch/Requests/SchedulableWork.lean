import StockResearch.Requests.LiveFlights

/-!
# Only live work is in line

A queued entry waits for a request that is to be answered and was never attempted. Whatever
answers a request takes its entry out of the line, except `complete_logical_request` and
`finalize_logical_request` for a request outside the single flights; and
`reserve_next_physical_attempt` does not ask whether the request was claimed.

- `Database.Scheduled`: the invariant of the line.
- `LineKept`: how an operation may move the line.
- `Operation.SparesLine`: the two uses above do not happen to a queued entry.
-/

namespace StockResearch.Requests

open Relation (ReflTransGen)

/-! ## The line -/

/-- The entry of the request is queued. -/
def Database.InLine (db : Database) (id : Identifier) : Prop :=
  (db.queue.entries.get? id).any (fun entry => entry.state = .queued) = true

instance (db : Database) : DecidablePred db.InLine :=
  fun _ => inferInstanceAs (Decidable (_ = true))

theorem Database.inLine_iff {db : Database} {id : Identifier} :
    db.InLine id ↔ ∃ entry, db.queue.entries.get? id = some entry ∧ entry.state = .queued := by
  simp only [Database.InLine, Option.any_eq_true, decide_eq_true_eq]

/-- Whoever is in line is to be answered and was not attempted. -/
def Database.Scheduled (db : Database) : Prop :=
  ∀ id, db.InLine id → db.ledger.Open id ∧ Unattempted db.attempts id

/-- Whoever is in line was there before or may join, and was not answered meanwhile. -/
def LineKept (joins : Identifier → Prop) (db db' : Database) : Prop :=
  ∀ id, db'.InLine id → (db.InLine id ∨ joins id) ∧ (db.ledger.Open id → db'.ledger.Open id)

section

variable {joins : Identifier → Prop} {a b c db db' : Database}

theorem LineKept.of_eq (hqueue : db'.queue.entries = db.queue.entries)
    (hledger : db'.ledger = db.ledger) : LineKept joins db db' := by
  intro id hid
  rw [Database.InLine, hqueue] at hid
  exact ⟨.inl hid, fun h => by rwa [hledger]⟩

theorem LineKept.trans (hab : LineKept joins a b) (hbc : LineKept (fun _ => False) b c) :
    LineKept joins a c := by
  intro id hid
  obtain ⟨hline, hopen⟩ := hbc id hid
  obtain ⟨hline', hopen'⟩ := hab id (hline.resolve_right not_false)
  exact ⟨hline', fun h => hopen (hopen' h)⟩

theorem Database.Scheduled.kept (h : db.Scheduled) (hkept : LineKept joins db db')
    (hjoins : ∀ id, joins id → db.ledger.Open id ∧ Unattempted db.attempts id)
    (hattempts : AttemptsFrom (fun id => ¬ db'.InLine id) db.attempts db'.attempts) :
    db'.Scheduled := by
  intro id hid
  obtain ⟨hline, hopen⟩ := hkept id hid
  obtain ⟨hbefore, hidle⟩ := hline.elim (h id) (hjoins id)
  refine ⟨hopen hbefore, ?_⟩
  rintro attemptId row' hrow' rfl
  rcases hattempts attemptId row' hrow' with ⟨row, hrow, hsame⟩ | hout
  · exact hidle attemptId row hrow hsame
  · exact hout hid

/-- Nobody joined the line. -/
theorem Database.Scheduled.kept_line (h : db.Scheduled) (hkept : LineKept (fun _ => False) db db')
    (hattempts : AttemptsFrom (fun id => ¬ db'.InLine id) db.attempts db'.attempts) :
    db'.Scheduled :=
  h.kept hkept (fun _ h => h.elim) hattempts

/-- A follower is not in line. -/
theorem Database.FollowersIdle.not_inLine (h : db.FollowersIdle) {id : Identifier}
    (hfollows : db.Follows id) : ¬ db.InLine id := by
  rw [Database.InLine, h.unlined id hfollows]
  exact nofun

/-- Whoever waits in a flight leads or follows it. -/
theorem Admissions.Sound.follows {closable : Identifier → Prop}
    (hsound : db.admissions.Sound closable) {fingerprint : Sha256Hex} {leader id : Identifier}
    (hflight : db.flight.flights.get? fingerprint = some ⟨leader, .active⟩)
    (hwaits : db.admissions.Waiting fingerprint id) (hne : id ≠ leader) : db.Follows id := by
  obtain ⟨c, hc, hf, hactive, -⟩ := hwaits
  obtain ⟨leader', -, hflight', -, -, hleads⟩ := hsound.flying id c hc hactive
  rw [hf, show db.admissions.flights.get? fingerprint = _ from hflight, Option.some.injEq,
    SingleFlightRow.mk.injEq] at hflight'
  refine Database.follows_iff.mpr ⟨c, hc, hactive, ?_⟩
  cases hrole : c.role with
  | follower => rfl
  | leader => exact absurd ((hleads.mp hrole).trans hflight'.1.symm) hne

/-! ## Delivery -/

/-- Finishing a flight takes its leader out of the line; its followers were not in it. -/
theorem finishSingleFlight_line {closable closed : Identifier → Prop}
    {result : ProductionLogicalResult} {now : DateTime} {ledger : LedgerTables}
    (hsound : db.admissions.Sound closable) (hfollowers : ∀ id, db.Follows id → ¬ db.InLine id)
    (hclosing : db.ledger.Closing closed result.row ledger)
    (hclosed : ∀ id, closed id → id = result.logicalRequestId)
    (hconsumer : db.flight.consumers.get? result.logicalRequestId ≠ none)
    (h : finishSingleFlight result now { db with ledger := ledger } = .ok db') :
    LineKept (fun _ => False) db db' := by
  rcases finishSingleFlight_eq_ok h with
    ⟨hnone, -⟩ | ⟨leader, delivered, hleader, -, -, hflight, hfold, rfl⟩
  · exact absurd hnone hconsumer
  obtain ⟨hnodup, hids⟩ := waitingConsumers_ids { db with ledger := ledger }
    leader.requestFingerprint
  have hcon := deliverAll_concluded hnodup hfold
  intro id hid
  -- an entry that is queued afterwards was queued before, and is not the leader's
  obtain ⟨entry', hentry', hqueued⟩ := Database.inLine_iff.mp hid
  replace hentry' : (Table.updateWhere delivered.queue.entries (fun id row =>
      id = result.logicalRequestId && row.state = .queued) fun row =>
        { row with state := .cancelled }).get? id = some entry' := hentry'
  rw [Table.get?_updateWhere, hcon.queue, Option.map_eq_some_iff] at hentry'
  obtain ⟨entry, hentry, rfl⟩ := hentry'
  split at hqueued
  · cases hqueued
  rename_i hother
  have hline : db.InLine id := Database.inLine_iff.mpr ⟨entry, hentry, hqueued⟩
  have hne : id ≠ result.logicalRequestId := by
    rintro rfl
    exact hother (by rw [hqueued]; simp)
  refine ⟨.inl hline, fun hopen => ?_⟩
  refine ((hclosing.trans hcon.ledger).open_iff ?_).mpr hopen
  -- the requests that are closed: the leader's, and those that wait for it
  rintro (hfirst | ⟨hmem, -⟩)
  · exact hne (hclosed id hfirst)
  · obtain ⟨c, hc, hf, hactive, hrequest⟩ := (hids id).mp hmem
    have hwaits : db.admissions.Waiting leader.requestFingerprint id :=
      ⟨c, hc, hf, hactive, fun hnone => hrequest (hclosing.requests_none.mpr hnone)⟩
    exact hfollowers id (hsound.follows hflight hwaits hne) hline

theorem reconcileTerminalFlights_line {repairs : Repairs} {now : DateTime}
    {fingerprint : Option Sha256Hex} (hsound : db.admissions.Sound repairs.closable)
    (hfollowers : db.FollowersIdle)
    (h : reconcileTerminalFlights now fingerprint db = .ok db') :
    LineKept (fun _ => False) db db' := by
  refine (foldlM_invariant (fun _ s => s.admissions.Sound repairs.closable ∧ s.FollowersIdle ∧
    LineKept (fun _ => False) db s) ?_ ⟨hsound, hfollowers, .of_eq rfl rfl⟩ h).2.2
  rintro flight rest s s' ⟨hsound, hfollowers, hkept⟩ hstep
  have hsound' := hsound.steps (reconcileFlight_steps hstep)
  obtain ⟨-, -, -, hread, ⟨-, -, rfl⟩ | ⟨r, rfl, -, -, hfinish⟩⟩ := reconcileFlight_eq_ok hstep
  · exact ⟨hsound, hfollowers, hkept⟩
  have hstay := finishSingleFlight_followers hfinish
  refine ⟨hsound', hfollowers.stay hstay (.of_eq (finishSingleFlight_frame hfinish).attempts),
    hkept.trans ?_⟩
  by_cases hconsumer : s.flight.consumers.get? r.logicalRequestId = none
  · rcases finishSingleFlight_eq_ok hfinish with ⟨-, rfl⟩ | ⟨leader, -, hleader, -⟩
    · exact .of_eq rfl rfl
    · rw [hconsumer] at hleader
      cases hleader
  · exact finishSingleFlight_line hsound (fun _ => hfollowers.not_inLine) (.refl s.ledger r.valid) (fun _ h => h.elim)
      hconsumer hfinish

/-! ## Cancellation -/

/-- Interrupting a flight whose leader was claimed. -/
theorem cancelStartedFlight_line {closable : Identifier → Prop} {fingerprint : Sha256Hex}
    {now : DateTime} {reason : Identifier} (hsound : db.admissions.Sound closable)
    (hfollowers : ∀ id, db.Follows id → ¬ db.InLine id)
    (hclaimed : ∀ leader, db.flight.flights.get? fingerprint = some ⟨leader, .active⟩ →
      ¬ db.InLine leader)
    (h : cancelStartedFlight fingerprint now reason db = .ok db') :
    LineKept (fun _ => False) db db' := by
  obtain ⟨leader, gates, cancelled, hflight, -, hfold, rfl⟩ := cancelStartedFlight_eq_ok h
  have hnodup : ((db.flight.activeConsumers fingerprint).map Prod.fst).Nodup :=
    Table.select_keys_nodup _ _
  have hcon := cancelAll_concluded hnodup hfold
  -- the consumers of the flight are its claimed leader and followers
  have hwaiting : ∀ id, db.InLine id →
      id ∉ (db.flight.activeConsumers fingerprint).map Prod.fst := by
    intro id hline hmem
    obtain ⟨⟨other, c⟩, hrow, rfl⟩ := List.mem_map.mp hmem
    obtain ⟨hc, hf, hactive⟩ := mem_activeConsumers.mp hrow
    obtain ⟨⟨row, hknown, -⟩, -⟩ := hsound.known other c hc
    by_cases hne : other = leader
    · subst hne
      exact hclaimed other hflight hline
    · refine hfollowers other (hsound.follows hflight ⟨c, hc, hf, hactive, ?_⟩ hne) hline
      rw [hknown]
      exact nofun
  intro id hid
  have hline : db.InLine id := by
    have hsame : cancelled.queue = db.queue := hcon.queue
    replace hid : (cancelled.queue.entries.get? id).any (fun entry => entry.state = .queued) = true :=
      hid
    rwa [hsame] at hid
  exact ⟨.inl hline, (hcon.ledger.open_iff (hwaiting id hline)).mpr⟩

/-- Replacing an unsent leader puts a follower in line. -/
theorem cancelUnsentLeader_line {id : Identifier} {fingerprint : Sha256Hex} {now : DateTime}
    {reason : Identifier} {promoted : Option Identifier} (hleads : ¬ db.Follows id)
    (h : cancelUnsentLeader id fingerprint now reason db = .ok (promoted, db')) :
    LineKept db.Follows db db' := by
  obtain ⟨ledger, handed, hledger, hhanded, -, rfl⟩ := cancelUnsentLeader_eq_ok h
  have hclosing := (cancelLogical_closing (by exact nofun) hledger).2
  -- the cancelled leader has left the line
  have hleft : ∀ other entry, (db.queue.entries.modify id fun row =>
      { row with state := .cancelled }).get? other = some entry → entry.state = .queued →
        other ≠ id ∧ db.InLine other := by
    intro other entry hentry hqueued
    rw [Table.get?_modify] at hentry
    split at hentry
    · obtain ⟨row, -, rfl⟩ := Option.map_eq_some_iff.mp hentry
      cases hqueued
    · rename_i hne
      exact ⟨hne, Database.inLine_iff.mpr ⟨entry, hentry, hqueued⟩⟩
  rcases promoteFollower_eq_ok hhanded with
    ⟨-, rfl⟩ | ⟨next, rateDomain, taskId, events, hnext, hunlined, rfl⟩
  · -- nobody is promoted
    intro other hother
    obtain ⟨entry, hentry, hqueued⟩ := Database.inLine_iff.mp hother
    obtain ⟨hne, hline⟩ := hleft other entry hentry hqueued
    exact ⟨.inl hline, (hclosing.open_iff hne).mpr⟩
  · -- the promoted follower joins the line
    obtain ⟨follower, -, hfollower, -, hactive, hrole, -⟩ := nextLeader_eq_some hnext
    intro other hother
    obtain ⟨entry, hentry, hqueued⟩ := Database.inLine_iff.mp hother
    replace hentry : ((db.queue.entries.modify id fun row => { row with state := .cancelled }).insert
      next ⟨rateDomain, taskId, now, .queued, none⟩).get? other = some entry := hentry
    rw [Table.get?_insert hunlined] at hentry
    split at hentry
    · rename_i hid
      subst hid
      have hfollows : db.Follows other :=
        Database.follows_iff.mpr ⟨follower, hfollower, hactive, hrole⟩
      refine ⟨.inr hfollows, (hclosing.open_iff ?_).mpr⟩
      rintro rfl
      exact hleads hfollows
    · obtain ⟨hne, hline⟩ := hleft other entry hentry hqueued
      exact ⟨.inl hline, (hclosing.open_iff hne).mpr⟩

theorem cancelLeader_line {id : Identifier} {c : ConsumerRow} {now : DateTime}
    {reason : Identifier} {promoted : Option Identifier} (h : db.Scheduled) (hflown : db.Flown)
    (hc : db.flight.consumers.get? id = some c) (hactive : c.state = .active)
    (hrole : c.role = .leader)
    (hcancel : cancelLeader id c.requestFingerprint now reason db = .ok (promoted, db')) :
    LineKept db.Follows db db' := by
  have hflight : ∀ leader, db.flight.flights.get? c.requestFingerprint = some ⟨leader, .active⟩ →
      leader = id := by
    intro leader hflight
    obtain ⟨leader', -, hflight', -, -, hleads⟩ := hflown.flights.flying id c hc hactive
    rw [show db.admissions.flights.get? _ = _ from hflight, Option.some.injEq,
      SingleFlightRow.mk.injEq] at hflight'
    rw [hflight'.1, hleads.mp hrole]
  -- an attempted leader was claimed
  have hstarted : ∀ gates attempts, (∃ item, item ∈ orderedAttempts db.attempts id) →
      cancelStartedFlight c.requestFingerprint now reason
        { db with gates := gates, attempts := attempts } = .ok db' →
        LineKept db.Follows db db' := by
    rintro gates attempts ⟨⟨attemptId, row⟩, hmem⟩ hrun
    rw [orderedAttempts, mem_orderBy, Table.mem_select, decide_eq_true_eq] at hmem
    have hsound : { db with gates := gates, attempts := attempts }.admissions.Sound fun _ => False :=
      hflown.flights
    have hkept := cancelStartedFlight_line hsound (fun _ => hflown.followers.not_inLine)
      (fun leader hleader hline => (h leader hline).2 attemptId row hmem.1
        (hmem.2.trans (hflight leader hleader).symm)) hrun
    exact fun other hother => (hkept other hother).imp_left fun h => .inl (h.resolve_right not_false)
  rcases cancelLeader_eq_ok hcancel with ⟨hlive, -, hrun⟩ | ⟨dropped, -, -, hdrop, hrest⟩
  · obtain ⟨item, hitem, -⟩ := (Option.any_eq_true ..).mp hlive
    exact hstarted db.gates db.attempts ⟨item, List.mem_of_find?_eq_some hitem⟩ hrun
  have hsame : ∃ gates attempts, dropped = { db with gates := gates, attempts := attempts } := by
    rcases dropReservedAttempt_eq_ok hdrop with ⟨-, rfl⟩ | ⟨_, _, gates, -, -, -, rfl⟩
    · exact ⟨_, _, rfl⟩
    · exact ⟨_, _, rfl⟩
  obtain ⟨gates, attempts, rfl⟩ := hsame
  rcases hrest with ⟨hsent, -, hrun⟩ | ⟨-, hrun⟩
  · obtain ⟨item, hitem, -⟩ := List.any_eq_true.mp hsent
    exact hstarted gates attempts ⟨item, hitem⟩ hrun
  · have hleads : ¬ db.Follows id := by
      intro hfollows
      obtain ⟨c', hc', -, hrole'⟩ := Database.follows_iff.mp hfollows
      obtain rfl := Option.some.inj (hc.symm.trans hc')
      rw [hrole] at hrole'
      cases hrole'
    have hleads' : ¬ { db with gates := gates, attempts := attempts }.Follows id := hleads
    have hkept := cancelUnsentLeader_line hleads' hrun
    exact hkept

/-! ## Recovery -/

/-- A recovery answers only requests that were attempted. -/
theorem RecoveryRepairs.requests_kept {now : DateTime} {row : RuntimeLeaseRow} {repaired : Database}
    (h : RecoveryRepairs db now row repaired) {id : Identifier}
    (hidle : Unattempted db.attempts id) :
    repaired.ledger.requests.get? id = db.ledger.requests.get? id := by
  obtain ⟨-, -, gates, started, closed, -, hstarted, hclosed, rfl⟩ := h
  have hother : ∀ {other}, Unreserved db.attempts other → id ≠ other := by
    rintro _ ⟨attemptId, attempt, hattempt, rfl, -⟩ rfl
    exact hidle attemptId attempt hattempt rfl
  have hfirst : started.requests.get? id = db.ledger.requests.get? id := by
    refine (foldlM_invariant (fun rest (ledger : LedgerTables) =>
      (∀ other ∈ rest, Unreserved db.attempts other) ∧
        ledger.requests.get? id = db.ledger.requests.get? id) ?_ ⟨fun _ => mem_startedRequests, rfl⟩
      hstarted).2
    rintro other rest ledger ledger' ⟨hall, hsame⟩ hstep
    obtain ⟨result, hclosing⟩ := closeStarted_closing hstep
    exact ⟨fun next hnext => hall next (List.mem_cons_of_mem _ hnext),
      (hclosing.keeps id (hother (hall other List.mem_cons_self))).1.trans hsame⟩
  refine (foldlM_invariant (fun rest (ledger : LedgerTables) =>
    (∀ entry ∈ rest, Unreserved db.attempts entry.1) ∧
      ledger.requests.get? id = db.ledger.requests.get? id) ?_ ⟨fun entry hentry =>
      (mem_interruptedBetweenAttempts hentry).1, hfirst⟩ hclosed).2
  rintro entry rest ledger ledger' ⟨hall, hsame⟩ hstep
  simp only [closeInterrupted, bind_eq_ok, pure_eq_ok] at hstep
  obtain ⟨results, -, rfl⟩ := hstep
  refine ⟨fun next hnext => hall next (List.mem_cons_of_mem _ hnext), ?_⟩
  rw [Table.get?_modify, if_neg (hother (hall entry List.mem_cons_self)), hsame]

theorem RecoveryRepairs.scheduled {now : DateTime} {row : RuntimeLeaseRow} {repaired : Database}
    (hrepairs : RecoveryRepairs db now row repaired) (h : db.Scheduled) : repaired.Scheduled := by
  have hkept : ∀ {id}, Unattempted db.attempts id → repaired.ledger.requests.get? id =
      db.ledger.requests.get? id := fun hidle => hrepairs.requests_kept hidle
  obtain ⟨-, -, gates, started, closed, -, -, -, rfl⟩ := hrepairs
  have hsteps : ReflTransGen (AttemptStep (fun _ _ _ => False) fun _ => False) db.attempts
      (transferAttempts row.generation db.attempts) := transferAttempts_steps _ _
  intro id hid
  -- in line before, or returned to it
  have hbefore : db.ledger.Open id ∧ Unattempted db.attempts id := by
    obtain ⟨entry', hentry', hqueued⟩ := Database.inLine_iff.mp hid
    replace hentry' : (db.queue.entries.updateWhere (isUnattemptedClaim db) fun row =>
      { row with state := .queued, dequeuedAt := none }).get? id = some entry' := hentry'
    rw [Table.get?_updateWhere, Option.map_eq_some_iff] at hentry'
    obtain ⟨entry, hentry, rfl⟩ := hentry'
    split at hqueued
    · rename_i hclaim
      exact (isUnattemptedClaim_iff.mp hclaim).2
    · exact h id (Database.inLine_iff.mpr ⟨entry, hentry, hqueued⟩)
  refine ⟨?_, ?_⟩
  · rw [LedgerTables.Open, hkept hbefore.2]
    exact hbefore.1
  · intro attemptId row' hrow' hid'
    have hfrom : AttemptsFrom (fun _ => False) db.attempts
        (transferAttempts row.generation db.attempts) := attemptSteps_from hsteps
    obtain ⟨old, hold, hsame⟩ := (hfrom attemptId row' hrow').resolve_right not_false
    exact hbefore.2 attemptId old hold (hsame.trans hid')

/-! ## Admission -/

/-- A new entry is in line unless it was rejected. -/
theorem enqueuedQueue_line {request : ProductionLogicalRequest} {rateDomain : Identifier}
    {now : DateTime} {rejected : Bool}
    (hqueue : db'.queue = enqueuedQueue request rateDomain now rejected db.queue)
    (hfresh : db.queue.entries.get? request.logicalRequestId = none) {id : Identifier}
    (hid : db'.InLine id) :
    id ≠ request.logicalRequestId ∧ db.InLine id ∨
      id = request.logicalRequestId ∧ rejected = false := by
  obtain ⟨entry, hentry, hqueued⟩ := Database.inLine_iff.mp hid
  rw [hqueue] at hentry
  replace hentry : (db.queue.entries.insert request.logicalRequestId
    ⟨rateDomain, request.taskId, now, if rejected then .rejected else .queued, none⟩).get? id =
      some entry := hentry
  rw [Table.get?_insert hfresh] at hentry
  split at hentry
  · rename_i hself
    obtain rfl := Option.some.inj hentry
    cases rejected with
    | false => exact .inr ⟨hself, rfl⟩
    | true => cases hqueued
  · rename_i hne
    exact .inl ⟨hne, Database.inLine_iff.mpr ⟨entry, hentry, hqueued⟩⟩

theorem queueLeader_line {request : ProductionLogicalRequest} {rateDomain : Identifier}
    {now : DateTime} {policy : QueuePolicy} {rejected : Bool}
    (h : queueLeader request rateDomain now policy db = .ok (rejected, db')) :
    LineKept (· = request.logicalRequestId) db db' := by
  obtain ⟨hfresh, -, ⟨-, rfl⟩ | ⟨-, ledger, hledger, rfl⟩⟩ := queueLeader_eq_ok h
  · intro id hid
    rcases enqueuedQueue_line rfl hfresh hid with ⟨-, hline⟩ | ⟨hself, -⟩
    · exact ⟨.inl hline, fun hopen => hopen⟩
    · exact ⟨.inr hself, fun hopen => hopen⟩
  · have hclosing := (cancelLogical_closing (by exact nofun) hledger).2
    intro id hid
    rcases enqueuedQueue_line rfl hfresh hid with ⟨hne, hline⟩ | ⟨-, hfalse⟩
    · exact ⟨.inl hline, (hclosing.open_iff hne).mpr⟩
    · cases hfalse

/-- A request that is only recorded is to be answered, and was never attempted. -/
theorem Database.Scheduled.record (h : db.Scheduled) (hfollowers : db.FollowersIdle)
    {request : ProductionLogicalRequest} {ledger : LedgerTables}
    (hledger : insertLogicalRequest request db.ledger = .ok ledger)
    (hqueued : request.state = .queued) :
    { db with ledger := ledger }.Scheduled ∧ ledger.Open request.logicalRequestId ∧
      Unattempted db.attempts request.logicalRequestId := by
  obtain ⟨hfresh, rfl⟩ := insertLogicalRequest_eq_ok.mp hledger
  refine ⟨h.kept_line ?_ (.refl _), ?_, ?_⟩
  · refine fun id hid => ⟨.inl hid, fun hopen => ?_⟩
    have hne : id ≠ request.logicalRequestId := by
      rintro rfl
      rw [LedgerTables.Open, hfresh] at hopen
      cases hopen
    rwa [LedgerTables.Open, Table.get?_insert hfresh, if_neg hne]
  · rw [LedgerTables.Open, Table.get?_insert_self hfresh, Option.map_some]
    exact congrArg some hqueued
  · intro attemptId row hrow hid
    exact hfollowers.requested attemptId row hrow (hid ▸ hfresh)

end

/-! ## Runs -/

/-- The call is for an attempt of a request that is in line or follows, or answers a request
outside the single flights that is in line. -/
def Operation.MeetsLine (op : Operation) (db : Database) : Prop :=
  match op with
  | .addPhysicalAttempt attempt =>
    db.Follows attempt.logicalRequestId ∨ db.InLine attempt.logicalRequestId
  | .reserveNextPhysicalAttempt _ logicalRequestId _ _ =>
    db.Follows logicalRequestId ∨ db.InLine logicalRequestId
  | .completeLogicalRequest result _ _ | .finalizeLogicalRequest result _ _ =>
    db.flight.consumers.get? result.logicalRequestId = none ∧ db.InLine result.logicalRequestId
  | _ => False

instance (op : Operation) (db : Database) : Decidable (op.MeetsLine db) :=
  match op with
  | .addPhysicalAttempt _ | .reserveNextPhysicalAttempt .. => inferInstanceAs (Decidable (_ ∨ _))
  | .completeLogicalRequest .. | .finalizeLogicalRequest .. => inferInstanceAs (Decidable (_ ∧ _))
  | .addLogicalRequest .. | .enqueueLogicalRequest .. | .admitLogicalRequest ..
  | .cancelAdmittedRequest .. | .claimNextQueued .. | .acquireGates .. | .releaseGates ..
  | .recordRetryAfter .. | .recordUnknownOutcome .. | .discardReservedAttempt ..
  | .markPhysicalAttemptStarted .. | .beginRawPublication .. | .commitRawPublication ..
  | .failRawPublication .. | .markRawPublicationReconciliationRequired .. | .acquireLease ..
  | .heartbeatLease .. | .releaseLease .. | .recoverExpiredLease .. =>
    inferInstanceAs (Decidable False)

/-- No attempt is reserved for a request that is in line or follows, and no request outside
the single flights is answered while it is in line: such a call is refused. -/
def Operation.SparesLine (op : Operation) (db : Database) : Prop :=
  op.Succeeds db → ¬ op.MeetsLine db

instance (op : Operation) (db : Database) : Decidable (op.SparesLine db) :=
  inferInstanceAs (Decidable (_ → _))

theorem Operation.SparesLine.sparesFollowers {op : Operation} {db : Database}
    (h : op.SparesLine db) : op.SparesFollowers db := by
  intro hsucceeds hmeets
  refine h hsucceeds ?_
  cases op with
  | addPhysicalAttempt | reserveNextPhysicalAttempt => exact .inl hmeets
  | _ => exact hmeets.elim

/-- A refused call for a request in line changes nothing. -/
theorem Operation.SparesLine.spares_or_idle {op : Operation} {db : Database}
    (h : op.SparesLine db) : ¬ op.MeetsLine db ∨ op.next db = db := by
  refine holds_or_idle h fun hmeets => ?_
  cases op with
  | addPhysicalAttempt | reserveNextPhysicalAttempt | completeLogicalRequest
  | finalizeLogicalRequest => rfl
  | _ => exact absurd id hmeets

theorem Database.Scheduled.next {op : Operation} {db : Database} (h : db.Scheduled)
    (hflown : db.Flown) (hqueued : op.SubmitsQueued) (hspares : op.SparesLine db) :
    (op.next db).Scheduled := by
  -- a call that is refused leaves the database as it was
  rcases hspares.spares_or_idle with hspares | hidle
  swap
  · rwa [hidle]
  have hmove := op.transition db
  -- an attempt is created for a claimed request, or by an operation that spares the line
  have hattempts : AttemptsFrom (fun id => ¬ db.InLine id) db.attempts (op.next db).attempts := by
    refine hmove.attempts_from.mono fun id hid hline => ?_
    obtain ⟨-, hcreates⟩ := hid
    cases op with
    | addPhysicalAttempt | reserveNextPhysicalAttempt =>
      cases hcreates
      exact hspares (.inr hline)
    | acquireGates =>
      obtain ⟨-, hdequeued⟩ := hcreates
      obtain ⟨entry, hentry, hstate⟩ := Database.inLine_iff.mp hline
      rw [hentry, Option.map_some, hstate] at hdequeued
      cases hdequeued
    | _ => exact hcreates
  have hnone : (∀ id, ¬ op.Attempts db id) →
      AttemptsFrom (fun _ => False) db.attempts (op.next db).attempts :=
    fun hnone => hmove.attempts_from.mono fun id hid => hnone id hid.2
  generalize op.next db = db' at hmove hattempts hnone
  -- an admission up to the choice of the role
  have hadmitted : ∀ {request : ProductionLogicalRequest} {cachePolicy : ProductionCachePolicy}
      {now : DateTime} {ledger : LedgerTables} {reconciled : Database},
      request.state = .queued → insertLogicalRequest request db.ledger = .ok ledger →
      reconcileTerminalFlights now (some request.requestFingerprint)
        (recordedRequest request cachePolicy now ledger db) = .ok reconciled →
      reconciled.Scheduled ∧ reconciled.ledger.Open request.logicalRequestId ∧
        Unattempted reconciled.attempts request.logicalRequestId := by
    intro request cachePolicy now ledger reconciled hstate hledger hreconcile
    obtain ⟨hrecorded, hopen, hidle⟩ := h.record hflown.followers hledger hstate
    have hsame := (reconcileTerminalFlights_frame hreconcile).attempts
    have hfollowers : (recordedRequest request cachePolicy now ledger db).FollowersIdle :=
      (hflown.followers.record hledger).stay (.of_eq rfl rfl rfl) (.refl _)
    have hkept := reconcileTerminalFlights_line (hflown.recorded hstate hledger).flights hfollowers
      hreconcile
    have hrecorded' : (recordedRequest request cachePolicy now ledger db).Scheduled := hrecorded
    refine ⟨hrecorded'.kept_line hkept (.of_eq hsame), ?_, ?_⟩
    · have hnone := hflown.followers.known _ (insertLogicalRequest_eq_ok.mp hledger).1
      rw [LedgerTables.Open, (reconcileTerminalFlights_untouched hreconcile hnone).request]
      exact hopen
    · rw [hsame]
      exact hidle
  cases hmove with
  | unchanged | publish | heartbeat | release | blocked | acquire | finish | addAttempt
  | reserveAttempt | discardAttempt | startAttempt =>
    -- nothing moves but the lease, the gates and the attempts
    exact h.kept_line (.of_eq rfl rfl) hattempts
  | submit hledger => exact (h.record hflown.followers hledger hqueued).1
  | @enqueue request rateDomain _ now _ _ _ ledger _ hledger hfresh =>
    -- the request is new, open and without an attempt
    obtain ⟨hrecorded, hopen, hidle⟩ := h.record hflown.followers hledger hqueued
    have hkept : LineKept (· = request.logicalRequestId) { db with ledger := ledger }
        { db with
          ledger := ledger
          queue := enqueuedQueue request rateDomain now false db.queue } := by
      intro id hid
      refine ⟨?_, fun hopen => hopen⟩
      rcases enqueuedQueue_line rfl hfresh hid with ⟨-, hline⟩ | ⟨hself, -⟩
      · exact .inl hline
      · exact .inr hself
    refine hrecorded.kept hkept ?_ (.refl _)
    rintro id rfl
    exact ⟨hopen, hidle⟩
  -- the queue is full: the entry is inserted and rejected at once
  | @rejectEnqueue request rateDomain _ now _ _ _ ledger _ hledger hfresh =>
    have hrecorded := (h.record hflown.followers hledger hqueued).1
    refine hrecorded.kept_line ?_ (.refl _)
    intro id hid
    rcases enqueuedQueue_line rfl hfresh hid with ⟨hne, hline⟩ | ⟨-, hfalse⟩
    · refine ⟨.inl hline, fun hopen => ?_⟩
      show ((Table.modify _ _ _).get? id).map _ = _
      rw [Table.get?_modify, if_neg hne]
      exact hopen
    · cases hfalse
  -- the leader's entry joins the line after the flights are reconciled
  | admitLeader _ hledger hreconcile _ _ _ hqueue =>
    obtain ⟨hreconciled, hopen, hidle⟩ := hadmitted hqueued hledger hreconcile
    have hkept := queueLeader_line hqueue
    refine hreconciled.kept hkept ?_ (.of_eq (queueLeader_frame hqueue).attempts)
    rintro id rfl
    exact ⟨hopen, hidle⟩
  | admitFollower _ hledger hreconcile => exact (hadmitted hqueued hledger hreconcile).1
  -- the claimed entry leaves the line
  | @claim _ _ now _ _ id entry queue _ hentry hstate hqueue =>
    have hkept : LineKept (fun _ => False) db { db with queue := queue } := by
      intro other hother
      refine ⟨.inl ?_, fun hopen => hopen⟩
      obtain ⟨entry', hentry', hqueued'⟩ := Database.inLine_iff.mp hother
      rw [hqueue, Table.get?_modify] at hentry'
      split at hentry'
      · obtain ⟨row, -, rfl⟩ := Option.map_eq_some_iff.mp hentry'
        cases hqueued'
      · exact Database.inLine_iff.mpr ⟨entry', hentry', hqueued'⟩
    exact h.kept_line hkept (.refl _)
  -- a follower was not in line
  | @cancelFollower id reason _ now _ _ consumer ledger _ hconsumer hactive hrole hledger =>
    have hclosing := (cancelLogical_closing (by decide) hledger).2
    have hfollows : db.Follows id := Database.follows_iff.mpr ⟨consumer, hconsumer, hactive, hrole⟩
    refine h.kept_line ?_ (.refl _)
    refine fun other hother => ⟨.inl hother, (hclosing.open_iff ?_).mpr⟩
    rintro rfl
    exact hflown.followers.not_inLine hfollows hother
  -- the follower that takes the leader's place is open and was never attempted
  | cancelLeader _ hconsumer hactive hrole hcancel =>
    have hkept := cancelLeader_line h hflown hconsumer hactive hrole hcancel
    refine h.kept hkept (fun id hid => ⟨?_, fun attemptId row hrow hid' => ?_⟩)
      ((hnone fun _ h => h).mono fun _ h => h.elim)
    · obtain ⟨c, hc, hwaits, -⟩ := Database.follows_iff.mp hid
      exact (hflown.flights.open_ id c hc hwaits).resolve_right not_false
    · exact hflown.followers.idle attemptId row hrow (hid' ▸ hid)
  | @close _ result _ _ _ _ _ ledger hop _ hledger hfinish =>
    have hclosing := (persistLogicalResult_closing hledger).2
    have hframe := (finishSingleFlight_frame hfinish).attempts
    refine h.kept_line ?_ (.of_eq hframe)
    by_cases hconsumer : db.flight.consumers.get? result.logicalRequestId = none
    · -- outside the flights: the request was not in line
      rcases finishSingleFlight_eq_ok hfinish with ⟨-, rfl⟩ | ⟨leader, -, hleader, -⟩
      · refine fun id hid => ⟨.inl hid, (hclosing.open_iff ?_).mpr⟩
        rintro rfl
        have hout : ¬ db.InLine result.logicalRequestId := by
          cases hop with
          | complete => exact fun hline => hspares ⟨hconsumer, hline⟩
          | finalize => exact fun hline => hspares ⟨hconsumer, hline⟩
        exact hout hid
      · rw [show db.flight.consumers.get? _ = _ from hleader] at hconsumer
        cases hconsumer
    · -- the followers of the flight are not in line
      exact finishSingleFlight_line hflown.flights (fun _ => hflown.followers.not_inLine) hclosing
        (fun _ hid => hid) hconsumer hfinish
  | @acquireLease ownerToken now expires _ generation _ _ _ _ hreconcile =>
    let leased : Database :=
      { db with lease := some ⟨ownerToken, generation, now, now, expires, true⟩ }
    have hsound : leased.admissions.Sound Repairs.none.closable := hflown.flights
    have hidle : leased.FollowersIdle := hflown.followers.stay (.of_eq rfl rfl rfl) (.refl _)
    have hleased : leased.Scheduled := h
    exact hleased.kept_line (reconcileTerminalFlights_line hsound hidle hreconcile)
      (.of_eq (reconcileTerminalFlights_frame hreconcile).attempts)
  | recover _ hrepairs hreconcile =>
    have hframe := (reconcileTerminalFlights_frame hreconcile).attempts
    have hkept := reconcileTerminalFlights_line (hrepairs.reconciling hflown).flights
      (hrepairs.followersIdle hflown.followers) hreconcile
    exact (hrepairs.scheduled h).kept_line hkept (.of_eq hframe)

theorem Reachable.scheduled {db : Database}
    (hrun : Reachable (fun op db => op.SubmitsQueued ∧ op.SparesLine db) db) :
    db.Flown ∧ db.Scheduled := by
  refine Reaches.invariant (fun db => db.Flown ∧ db.Scheduled) ?_
    ⟨Database.initial_flown, fun _ h => by cases h⟩ hrun
  rintro op db ⟨hqueued, hspares⟩ ⟨hflown, h⟩
  exact ⟨hflown.next hqueued hspares.sparesFollowers, h.next hflown hqueued hspares⟩

/-! ## The theorem -/

/-- **Only live work is schedulable.** In every run that neither reserves an attempt for a
request that is in line or follows, nor answers a request outside the single flights while it
is in line: a queued entry belongs to a queued request without result and without attempt. So
a terminal request is not in line, and `claim_next_queued` returns no such request. -/
theorem queued_entries_live {db : Database}
    (hrun : Reachable (fun op db => op.SubmitsQueued ∧ op.SparesLine db) db) :
    (∀ id entry, db.queue.entries.get? id = some entry → entry.state = .queued →
      ∃ request, db.ledger.requests.get? id = some request ∧ request.state = .queued ∧
        db.ledger.results.get? id = none ∧
        ∀ attemptId row, db.attempts.get? attemptId = some row → row.logicalRequestId ≠ id) ∧
    (∀ id request entry, db.ledger.requests.get? id = some request → request.state ≠ .queued →
      db.queue.entries.get? id = some entry → entry.state ≠ .queued) ∧
    ∀ rateDomain lease now claim db',
      claimNextQueued rateDomain lease now db = (.ok (some claim), db') →
        ∃ request, db'.ledger.requests.get? claim.logicalRequestId = some request ∧
          request.state = .queued ∧ db'.ledger.results.get? claim.logicalRequestId = none := by
  obtain ⟨hflown, h⟩ := hrun.scheduled
  -- a queued entry is in line, so its request is open and was never attempted
  have hlive : ∀ id entry, db.queue.entries.get? id = some entry → entry.state = .queued →
      ∃ request, db.ledger.requests.get? id = some request ∧ request.state = .queued ∧
        db.ledger.results.get? id = none ∧ Unattempted db.attempts id := by
    intro id entry hentry hqueued
    obtain ⟨hopen, hidle⟩ := h id (Database.inLine_iff.mpr ⟨entry, hentry, hqueued⟩)
    obtain ⟨request, hrequest, hstate⟩ := Option.map_eq_some_iff.mp hopen
    exact ⟨request, hrequest, hstate, (hflown.ledger.open_iff hrequest).mp hopen, hidle⟩
  refine ⟨hlive, ?_, ?_⟩
  · intro id request entry hrequest hclosed hentry hqueued
    obtain ⟨request', hrequest', hstate, -⟩ := hlive id entry hentry hqueued
    obtain rfl := Option.some.inj (hrequest.symm.trans hrequest')
    exact hclosed hstate
  · intro rateDomain lease now claim db' hclaim
    rcases claimNextQueued_cases rateDomain lease now db with
      hr | hr | ⟨_, id, entry, queue, -, hentry, hqueued, -, -, hr⟩
    · exact absurd hclaim hr.ne_ok
    · rw [hr] at hclaim
      cases hclaim
    · rw [hr, Prod.mk.injEq, Except.ok.injEq, Option.some.injEq] at hclaim
      obtain ⟨rfl, rfl⟩ := hclaim
      obtain ⟨request, hrequest, hstate, hresult, -⟩ := hlive id entry hentry hqueued
      exact ⟨request, hrequest, hstate, hresult⟩

namespace Sample

/-- A request of the queue alone. -/
def enqueuedRequest : List Operation :=
  [.acquireLease owner (at_ 0) leasePolicy,
    .enqueueLogicalRequest request domain lease (at_ 1) queuePolicy]

/-- It is completed while it is in line. -/
def completedInLine : Database :=
  runAll Operation.next (enqueuedRequest ++ [.completeLogicalRequest failure lease (at_ 2)]) .initial

/-- An attempt is reserved while it is in line. -/
def reservedInLine : Database :=
  runAll Operation.next (enqueuedRequest ++ [.reserveNextPhysicalAttempt attempt.physicalAttemptId
    request.logicalRequestId lease (at_ 2)]) .initial

/-- The entry of the request. -/
def lineEntry : QueueEntryRow := ⟨domain, request.taskId, at_ 1, .queued, none⟩

end Sample

/-- The request of the sample run is live while it is in line. -/
theorem queued_entries_live_sample :
    let db := runAll Operation.next Sample.enqueuedRequest .initial
    ∃ request, db.ledger.requests.get? Sample.request.logicalRequestId = some request ∧
      request.state = .queued ∧ db.ledger.results.get? Sample.request.logicalRequestId = none ∧
      ∀ attemptId row, db.attempts.get? attemptId = some row →
        row.logicalRequestId ≠ Sample.request.logicalRequestId :=
  (queued_entries_live (Reaches.runAll (by decide +kernel))).1 Sample.request.logicalRequestId
    Sample.lineEntry (by decide +kernel) rfl

/-- `complete_logical_request` answers a request of the queue and leaves it in line, where it is
claimed afterwards; `reserve_next_physical_attempt` gives a request in line an attempt. -/
theorem answered_request_in_line :
    (Reachable (fun op _ => op.fenced = true ∧ op.SubmitsQueued) Sample.completedInLine ∧
      Sample.completedInLine.queue.entries.get? Sample.request.logicalRequestId =
        some Sample.lineEntry ∧ Sample.lineEntry.state = .queued ∧
      (Sample.completedInLine.ledger.requests.get? Sample.request.logicalRequestId).map (·.state) =
        some .failed ∧
      (claimNextQueued Sample.domain Sample.lease (Sample.at_ 3) Sample.completedInLine).1 =
        .ok (some ⟨Sample.request.logicalRequestId, Sample.request.taskId, Sample.domain,
          Sample.at_ 1⟩)) ∧
    Reachable (fun op _ => op.fenced = true ∧ op.SubmitsQueued) Sample.reservedInLine ∧
      Sample.reservedInLine.queue.entries.get? Sample.request.logicalRequestId =
        some Sample.lineEntry ∧
      (Sample.reservedInLine.attempts.get? Sample.attempt.physicalAttemptId).map
        (·.logicalRequestId) = some Sample.request.logicalRequestId := by
  refine ⟨⟨Reaches.runAll (by decide +kernel), by decide +kernel, rfl, by decide +kernel,
    by decide +kernel⟩, Reaches.runAll (by decide +kernel), by decide +kernel, by decide +kernel⟩

end StockResearch.Requests
