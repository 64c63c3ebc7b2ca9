import StockResearch.Requests.Generations
import StockResearch.Requests.LogicalResults

/-!
# The bounds of the queue

The queued entries are bounded globally, by rate domain and by task in a rate domain. The
bounds are checked where a request is enqueued or admitted; a promoted follower and the
claims that recovery returns enter the queue unchecked. In a run where these two find room,
the bounds hold in every state.

- `QueueScope`: what one bound counts.
- `WithinBounds`: the counted entries keep every bound.
- `Operation.FindsRoom`: the runs the bounds hold for.
-/

namespace StockResearch.Requests

/-! ## Scopes -/

/-- What one bound of the queue counts. -/
inductive QueueScope
  | all
  | domain (rateDomain : Identifier)
  | task (rateDomain taskId : Identifier)

/-- The entry counts towards the bound. -/
def QueueScope.covers (row : QueueEntryRow) : QueueScope → Bool
  | .all => true
  | .domain rateDomain => row.rateDomain = rateDomain
  | .task rateDomain taskId => row.rateDomain = rateDomain && row.taskId = taskId

def QueuePolicy.limit (policy : QueuePolicy) : QueueScope → Nat
  | .all => policy.globalLimit
  | .domain _ => policy.rateDomainLimit
  | .task _ _ => policy.taskRateDomainLimit

/-- The table of queue entries. -/
abbrev QueueEntries := Table Identifier QueueEntryRow

/-- The counted entries of a scope. -/
def QueueScope.occupied (scope : QueueScope) (counted : Identifier → QueueEntryRow → Bool)
    (entries : QueueEntries) : Nat :=
  entries.count fun id row => counted id row && scope.covers row

/-- The entry is in line. -/
def isQueued (_ : Identifier) (row : QueueEntryRow) : Bool := row.state = .queued

/-- The counted entries keep every bound. -/
def WithinBounds (policy : QueuePolicy) (counted : Identifier → QueueEntryRow → Bool)
    (entries : QueueEntries) : Prop :=
  ∀ scope : QueueScope, scope.occupied counted entries ≤ policy.limit scope

/-- No bound counts more entries than before. -/
def NotLonger (entries entries' : QueueEntries) : Prop :=
  ∀ scope : QueueScope, scope.occupied isQueued entries' ≤ scope.occupied isQueued entries

theorem NotLonger.refl (entries : QueueEntries) : NotLonger entries entries :=
  fun _ => Nat.le_refl _

theorem NotLonger.trans {a b c : QueueEntries} (hab : NotLonger a b) (hbc : NotLonger b c) :
    NotLonger a c :=
  fun scope => (hbc scope).trans (hab scope)

section

variable {policy : QueuePolicy} {entries entries' : QueueEntries}

theorem WithinBounds.notLonger (h : WithinBounds policy isQueued entries)
    (hshorter : NotLonger entries entries') : WithinBounds policy isQueued entries' :=
  fun scope => (hshorter scope).trans (h scope)

/-- The queue is not full for an entry when every bound that counts it has room. -/
theorem queueIsFull_eq_false (row : QueueEntryRow) :
    queueIsFull entries row.rateDomain row.taskId policy = false ↔
      ∀ scope : QueueScope, scope.covers row = true →
        scope.occupied isQueued entries < policy.limit scope := by
  simp only [queueIsFull, Bool.or_eq_false_iff, decide_eq_false_iff_not, Nat.not_le]
  constructor
  · rintro ⟨⟨hglobal, hdomain⟩, htask⟩ scope hcovers
    cases scope with
    | all => simpa [QueueScope.occupied, QueuePolicy.limit, isQueued, QueueScope.covers] using hglobal
    | domain rateDomain =>
      obtain rfl := of_decide_eq_true hcovers
      exact hdomain
    | task rateDomain taskId =>
      simp only [QueueScope.covers, Bool.and_eq_true, decide_eq_true_eq] at hcovers
      obtain ⟨rfl, rfl⟩ := hcovers
      simpa [QueueScope.occupied, QueuePolicy.limit, isQueued, QueueScope.covers, Bool.and_assoc] using htask
  · intro h
    refine ⟨⟨?_, ?_⟩, ?_⟩
    · simpa [QueueScope.occupied, QueuePolicy.limit, isQueued, QueueScope.covers] using h .all rfl
    · exact h (.domain row.rateDomain) (decide_eq_true rfl)
    · simpa [QueueScope.occupied, QueuePolicy.limit, isQueued, QueueScope.covers, Bool.and_assoc] using
        h (.task row.rateDomain row.taskId) (by simp [QueueScope.covers])

/-! ## Changes of the entries -/

/-- An entry that finds room keeps the bounds. -/
theorem WithinBounds.insert {id : Identifier} {row : QueueEntryRow}
    (h : WithinBounds policy isQueued entries) (hfresh : entries.get? id = none)
    (hroom : row.state = .queued →
      queueIsFull entries row.rateDomain row.taskId policy = false) :
    WithinBounds policy isQueued (entries.insert id row) := by
  intro scope
  rw [QueueScope.occupied, Table.count_insert hfresh]
  split
  · rename_i hcounts
    obtain ⟨hqueued, hcovers⟩ := Bool.and_eq_true_iff.mp hcounts
    exact (queueIsFull_eq_false row).mp (hroom (of_decide_eq_true hqueued)) scope hcovers
  · exact h scope

/-- Taking entries out of line does not lengthen the queue. -/
theorem notLonger_updateWhere {p : Identifier → QueueEntryRow → Bool}
    {f : QueueEntryRow → QueueEntryRow} (hf : ∀ row, (f row).state ≠ .queued) :
    NotLonger entries (entries.updateWhere p f) := by
  intro scope
  rw [QueueScope.occupied, Table.count_updateWhere]
  refine Table.count_mono fun id row _ hcounts => ?_
  split at hcounts
  · exact absurd (of_decide_eq_true (Bool.and_eq_true_iff.mp hcounts).1) (hf row)
  · exact hcounts

end

/-! ## Delivery -/

theorem deliverResult_queue {result : ProductionLogicalResult} {fingerprint : Sha256Hex}
    {now : DateTime} {db db' : Database} {consumer : WaitingConsumer}
    (h : deliverResult result fingerprint now db consumer = .ok db') : db'.queue = db.queue := by
  obtain ⟨-, -, -, _, -, rfl⟩ := deliverResult_eq_ok h
  rfl

/-- Finishing a flight takes at most the leader's entry out of line. -/
theorem finishSingleFlight_entries {result : ProductionLogicalResult} {now : DateTime}
    {db db' : Database} (h : finishSingleFlight result now db = .ok db') :
    db'.queue.entries = db.queue.entries ∨
      db'.queue.entries = db.queue.entries.updateWhere
        (fun id row => id = result.logicalRequestId && row.state = .queued)
        fun row => { row with state := .cancelled } := by
  rcases finishSingleFlight_eq_ok h with ⟨-, rfl⟩ | ⟨leader, delivered, -, -, -, -, hfold, rfl⟩
  · exact .inl rfl
  · have hqueue : delivered.queue = db.queue :=
      foldlM_invariant (fun _ db' => db'.queue = db.queue)
        (fun _ _ _ _ hs hstep => (deliverResult_queue hstep).trans hs) rfl hfold
    exact .inr (by rw [← hqueue])

theorem finishSingleFlight_notLonger {result : ProductionLogicalResult} {now : DateTime}
    {db db' : Database} (h : finishSingleFlight result now db = .ok db') :
    NotLonger db.queue.entries db'.queue.entries := by
  rcases finishSingleFlight_entries h with heq | heq
  · rw [heq]
    exact .refl _
  · rw [heq]
    exact notLonger_updateWhere fun _ => nofun

theorem reconcileTerminalFlights_notLonger {now : DateTime} {fingerprint : Option Sha256Hex}
    {db db' : Database} (h : reconcileTerminalFlights now fingerprint db = .ok db') :
    NotLonger db.queue.entries db'.queue.entries := by
  refine foldlM_invariant (fun _ db' => NotLonger db.queue.entries db'.queue.entries) ?_ (.refl _) h
  intro flight rest s s' hs hstep
  obtain ⟨-, -, -, -, ⟨-, -, rfl⟩ | ⟨r, -, -, -, hfinish⟩⟩ := reconcileFlight_eq_ok hstep
  · exact hs
  · exact hs.trans (finishSingleFlight_notLonger hfinish)

/-! ## Room for unchecked entries -/

/-- The follower that a cancellation would promote: its leader is active and was not sent. -/
def promotedBy (db : Database) (id : Identifier) : Option (Identifier × Identifier × Identifier) :=
  ((db.flight.consumers.get? id).filter fun row => row.state = .active && row.role = .leader).bind
    fun row =>
      if (activeAttempt db id).any (fun item => item.2.state = .started) || alreadySent db id then none
      else nextLeader db row.requestFingerprint

/-- The entry is in line, or a claim that recovery returns to the queue. -/
def queuedOrReturned (db : Database) (id : Identifier) (row : QueueEntryRow) : Bool :=
  isQueued id row || isUnattemptedClaim db id row

/-- Every entry is put in line under the policy. -/
def Operation.QueuesUnder (policy : QueuePolicy) : Operation → Prop
  | .enqueueLogicalRequest _ _ _ _ used => used = policy
  | .admitLogicalRequest _ _ _ _ _ used => used = policy
  | _ => True

instance : DecidableEq QueuePolicy := fun a b =>
  decidable_of_iff (a.globalLimit = b.globalLimit ∧ a.rateDomainLimit = b.rateDomainLimit ∧
    a.taskRateDomainLimit = b.taskRateDomainLimit) (by cases a; cases b; simp)

instance (policy : QueuePolicy) : (op : Operation) → Decidable (op.QueuesUnder policy) := by
  rintro (_ | _) <;> unfold Operation.QueuesUnder <;> infer_instance

/-- What the call puts in line unchecked finds room: a promoted follower beside the entries
other than its leader's, and returned claims beside the entries in line. -/
def Operation.Fits (policy : QueuePolicy) (op : Operation) (db : Database) : Prop :=
  match op with
  | .cancelAdmittedRequest id _ _ _ =>
    ∀ promoted ∈ promotedBy db id,
      queueIsFull (db.queue.entries.deleteWhere fun other _ => other = id) promoted.2.1
        promoted.2.2 policy = false
  | .recoverExpiredLease _ _ _ => WithinBounds policy (queuedOrReturned db) db.queue.entries
  | _ => True

/-- The operation uses the policy, and what it puts in line unchecked finds room, if it is not
refused. -/
def Operation.FindsRoom (policy : QueuePolicy) (op : Operation) (db : Database) : Prop :=
  op.QueuesUnder policy ∧ (op.Succeeds db → op.Fits policy db)

section

variable {policy : QueuePolicy} {op : Operation} {db db' : Database}

theorem enqueuedQueue_within {request : ProductionLogicalRequest} {rateDomain : Identifier}
    {now : DateTime} {rejected : Bool} {queue : QueueTables}
    (h : WithinBounds policy isQueued queue.entries)
    (hfresh : queue.entries.get? request.logicalRequestId = none)
    (hroom : rejected = false → queueIsFull queue.entries rateDomain request.taskId policy = false) :
    WithinBounds policy isQueued (enqueuedQueue request rateDomain now rejected queue).entries := by
  refine h.insert hfresh fun hqueued => ?_
  cases rejected with
  | false => exact hroom rfl
  | true => cases hqueued

/-- A cancelled entry counts like a missing one. -/
theorem occupied_cancelled (id : Identifier) (entries : QueueEntries) (scope : QueueScope) :
    scope.occupied isQueued (entries.modify id fun row => { row with state := .cancelled }) =
      scope.occupied isQueued (entries.deleteWhere fun other _ => other = id) := by
  rw [QueueScope.occupied, QueueScope.occupied, Table.modify, Table.count_updateWhere,
    Table.count_deleteWhere]
  refine Table.count_congr fun other row _ => ?_
  by_cases hid : other = id
  · simp [hid, isQueued]
  · simp [hid]

theorem cancelUnsentLeader_within {id : Identifier} {fingerprint : Sha256Hex} {now : DateTime}
    {reason : Identifier} {promoted : Option Identifier}
    (h : WithinBounds policy isQueued db.queue.entries)
    (hroom : ∀ follower ∈ nextLeader db fingerprint,
      queueIsFull (db.queue.entries.deleteWhere fun other _ => other = id) follower.2.1
        follower.2.2 policy = false)
    (hcancel : cancelUnsentLeader id fingerprint now reason db = .ok (promoted, db')) :
    WithinBounds policy isQueued db'.queue.entries := by
  obtain ⟨ledger, handed, -, hhanded, -, rfl⟩ := cancelUnsentLeader_eq_ok hcancel
  have hcancelled : WithinBounds policy isQueued
      (db.queue.entries.modify id fun row => { row with state := .cancelled }) :=
    h.notLonger (notLonger_updateWhere fun _ => nofun)
  show WithinBounds policy isQueued handed.queue.entries
  rcases promoteFollower_eq_ok hhanded with ⟨-, rfl⟩ | ⟨follower, domain, task, _, hnext, hfresh, rfl⟩
  · exact hcancelled
  · have hfree := (queueIsFull_eq_false ⟨domain, task, now, .queued, none⟩).mp
      (hroom (follower, domain, task) hnext)
    refine hcancelled.insert hfresh fun _ => (queueIsFull_eq_false _).mpr fun scope hcovers => ?_
    rw [occupied_cancelled]
    exact hfree scope hcovers

theorem nextLeader_congr {fingerprint : Sha256Hex} (hflight : db'.flight = db.flight)
    (hledger : db'.ledger = db.ledger) : nextLeader db' fingerprint = nextLeader db fingerprint := by
  rw [nextLeader, nextLeader, hflight, hledger]

/-- Cancelling a started flight does not touch the queue. -/
theorem cancelStartedFlight_queue {fingerprint : Sha256Hex} {now : DateTime} {reason : Identifier}
    (h : cancelStartedFlight fingerprint now reason db = .ok db') : db'.queue = db.queue := by
  obtain ⟨_, _, cancelled, -, -, hfold, rfl⟩ := cancelStartedFlight_eq_ok h
  show cancelled.queue = db.queue
  refine foldlM_invariant (fun _ s => s.queue = db.queue) (fun _ _ s s' hs hstep => ?_) ?_ hfold
  · simp only [cancelInFlight, bind_eq_ok, pure_eq_ok] at hstep
    obtain ⟨_, -, rfl⟩ := hstep
    exact hs
  · rfl

theorem cancelLeader_within {id : Identifier} {now : DateTime} {reason : Identifier} {promoted : Option Identifier} {consumer : ConsumerRow}
    (h : WithinBounds policy isQueued db.queue.entries)
    (hroom : ∀ promoted ∈ promotedBy db id,
      queueIsFull (db.queue.entries.deleteWhere fun other _ => other = id) promoted.2.1
        promoted.2.2 policy = false)
    (hconsumer : db.flight.consumers.get? id = some consumer) (hactive : consumer.state = .active)
    (hrole : consumer.role = .leader)
    (hcancel : cancelLeader id consumer.requestFingerprint now reason db = .ok (promoted, db')) :
    WithinBounds policy isQueued db'.queue.entries := by
  rcases cancelLeader_eq_ok hcancel with ⟨-, -, hcancel⟩ | ⟨dropped, hunstarted, -, hdrop, hrest⟩
  · rw [cancelStartedFlight_queue hcancel]
    exact h
  · have hdropped : dropped.queue = db.queue ∧ dropped.flight = db.flight ∧
        dropped.ledger = db.ledger := by
      rcases dropReservedAttempt_eq_ok hdrop with ⟨-, rfl⟩ | ⟨_, _, _, -, -, -, rfl⟩
      · exact ⟨rfl, rfl, rfl⟩
      · exact ⟨rfl, rfl, rfl⟩
    obtain ⟨hqueue, hflight, hledger⟩ := hdropped
    rw [← hqueue] at h hroom
    rcases hrest with ⟨-, -, hcancel⟩ | ⟨hunsent, hcancel⟩
    · rw [cancelStartedFlight_queue hcancel]
      exact h
    · refine cancelUnsentLeader_within h (fun follower hnext => hroom follower ?_) hcancel
      rw [nextLeader_congr hflight hledger] at hnext
      rw [promotedBy, hconsumer, Option.filter_some, if_pos (by simp [hactive, hrole]),
        Option.bind_some, if_neg (by simp [hunstarted, hunsent])]
      exact hnext

/-- Recovery puts the entries in line that it was to return, and takes others out. -/
theorem requeueUnattempted_within (now : DateTime)
    (hroom : WithinBounds policy (queuedOrReturned db) db.queue.entries) :
    WithinBounds policy isQueued (requeueUnattempted now db).entries := by
  intro scope
  refine le_trans ?_ (hroom scope)
  rw [requeueUnattempted, QueueScope.occupied, QueueScope.occupied, Table.count_updateWhere]
  refine Table.count_mono fun id row _ hcounts => ?_
  rw [Bool.and_eq_true] at hcounts ⊢
  split at hcounts
  · rename_i hreturned
    refine ⟨by rw [queuedOrReturned, hreturned, Bool.or_true], ?_⟩
    cases scope <;> exact hcounts.2
  · exact ⟨by rw [queuedOrReturned, hcounts.1, Bool.true_or], hcounts.2⟩

/-! ## Steps and runs -/

theorem Transition.within (h : Transition op db db')
    (henqueue : ∀ request rateDomain lease now used,
      op ≠ .enqueueLogicalRequest request rateDomain lease now used)
    (hqueues : op.QueuesUnder policy) (hroom : op.Fits policy db)
    (hbounds : WithinBounds policy isQueued db.queue.entries) :
    WithinBounds policy isQueued db'.queue.entries := by
  cases h with
  | unchanged | publish | heartbeat | release | submit | cancelFollower | blocked | acquire
  | finish | addAttempt | reserveAttempt | discardAttempt | startAttempt => exact hbounds
  | enqueue | rejectEnqueue => exact absurd rfl (henqueue _ _ _ _ _)
  | admitLeader _ _ hreconcile _ _ _ hqueue =>
    obtain rfl : _ = policy := hqueues
    have hshorter := reconcileTerminalFlights_notLonger hreconcile
    have hreconciled := hbounds.notLonger hshorter
    obtain ⟨hfresh, hfull, ⟨rfl, rfl⟩ | ⟨rfl, _, -, rfl⟩⟩ := queueLeader_eq_ok hqueue
    · -- queued only where the bounds leave room, rejected otherwise
      exact enqueuedQueue_within hreconciled hfresh fun _ => hfull.symm
    · exact enqueuedQueue_within hreconciled hfresh nofun
  | admitFollower _ _ hreconcile =>
    have hshorter := reconcileTerminalFlights_notLonger hreconcile
    exact hbounds.notLonger hshorter
  -- one queued entry less
  | claim _ _ _ hqueue =>
    rw [hqueue]
    exact hbounds.notLonger (notLonger_updateWhere fun _ => nofun)
  -- the promoted follower is put in line without a check: the condition gives the room
  | cancelLeader _ hconsumer hactive hrole hcancel =>
    exact cancelLeader_within hbounds hroom hconsumer hactive hrole hcancel
  | close _ _ _ hfinish =>
    have hshorter := finishSingleFlight_notLonger hfinish
    exact hbounds.notLonger hshorter
  | acquireLease _ _ hreconcile =>
    have hshorter := reconcileTerminalFlights_notLonger hreconcile
    exact hbounds.notLonger hshorter
  -- so are the requests that are queued again
  | @recover _ now _ _ _ _ _ _ _ hrepairs hreconcile =>
    obtain ⟨-, -, _, _, _, -, -, -, rfl⟩ := hrepairs
    have hrequeued := requeueUnattempted_within now hroom
    exact hrequeued.notLonger (reconcileTerminalFlights_notLonger hreconcile)

/-- A refused call puts nothing in line unchecked. -/
theorem Operation.FindsRoom.fits_or_idle (h : op.FindsRoom policy db) :
    op.Fits policy db ∨ op.next db = db := by
  refine holds_or_idle h.2 fun hfull => ?_
  cases op with
  | cancelAdmittedRequest | recoverExpiredLease => rfl
  | _ => exact absurd trivial hfull

theorem Operation.FindsRoom.within (hfinds : op.FindsRoom policy db)
    (hbounds : WithinBounds policy isQueued db.queue.entries) :
    WithinBounds policy isQueued (op.next db).queue.entries := by
  rcases hfinds.fits_or_idle with hroom | hidle
  swap
  · rwa [hidle]
  by_cases henqueue : ∀ request rateDomain lease now used,
      op ≠ .enqueueLogicalRequest request rateDomain lease now used
  · exact (op.transition db).within henqueue hfinds.1 hroom hbounds
  · simp only [not_forall, ne_eq, not_not] at henqueue
    obtain ⟨request, rateDomain, lease, now, used, rfl⟩ := henqueue
    obtain rfl : used = policy := hfinds.1
    rcases enqueueLogicalRequest_cases request rateDomain lease now used db with
      h | ⟨_, _, -, -, hfresh, ⟨hfull, h⟩ | ⟨-, -, h⟩⟩
    · rw [Operation.next, Operation.run, h.snd]
      exact hbounds
    · rw [Operation.next, Operation.run, h]
      exact enqueuedQueue_within hbounds hfresh fun _ => hfull
    · rw [Operation.next, Operation.run, h]
      exact enqueuedQueue_within hbounds hfresh (by simp)

theorem withinBounds_initial : WithinBounds policy isQueued Database.initial.queue.entries :=
  fun _ => Nat.zero_le _

end

/-! ## The theorem -/

/-- **Queue bounds.** In every run under one policy whose promoted followers and returned
claims find room, the entries in line keep the three bounds in every state. -/
theorem queue_bounds_hold {policy : QueuePolicy} {db : Database}
    (hrun : Reachable (fun op db => op.FindsRoom policy db) db) :
    (db.queue.entries.count fun _ row => row.state = .queued) ≤ policy.globalLimit ∧
    (∀ rateDomain, (db.queue.entries.count fun _ row =>
      row.state = .queued && row.rateDomain = rateDomain) ≤ policy.rateDomainLimit) ∧
    ∀ rateDomain taskId, (db.queue.entries.count fun _ row =>
      row.state = .queued && row.rateDomain = rateDomain && row.taskId = taskId) ≤
        policy.taskRateDomainLimit := by
  have hbounds : WithinBounds policy isQueued db.queue.entries :=
    Reaches.invariant (fun db => WithinBounds policy isQueued db.queue.entries)
      (fun _ _ hroom h => hroom.within h) withinBounds_initial hrun
  refine ⟨?_, fun rateDomain => hbounds (.domain rateDomain), fun rateDomain taskId => ?_⟩
  · simpa [QueueScope.occupied, QueuePolicy.limit, isQueued, QueueScope.covers] using hbounds .all
  · simpa [QueueScope.occupied, QueuePolicy.limit, isQueued, QueueScope.covers, Bool.and_assoc]
      using hbounds (.task rateDomain taskId)

namespace Sample

/-- One entry in line at a time. -/
def narrow : QueuePolicy := ⟨1, 1, 1, Nat.one_pos, Nat.one_pos, Nat.one_pos⟩

/-- A request of another fingerprint. -/
def otherRequest : ProductionLogicalRequest :=
  { request with
    logicalRequestId := ⟨"request-3", by decide⟩
    requestFingerprint :=
      ⟨"1111111111111111111111111111111111111111111111111111111111111111", by decide⟩ }

/-- A leader in line and its follower. -/
def followedLeader : List Operation :=
  [.acquireLease owner (at_ 0) leasePolicy,
    .admitLogicalRequest request domain ⟨false⟩ lease (at_ 1) narrow,
    .admitLogicalRequest followingRequest domain ⟨false⟩ lease (at_ 2) narrow]

/-- The leader is cancelled in line, and its follower takes its place. -/
def replaced : Database :=
  runAll Operation.next (followedLeader ++
    [.cancelAdmittedRequest request.logicalRequestId domain lease (at_ 3)]) .initial

/-- The leader is claimed, another request takes its place in line, and then the leader is
cancelled. -/
def promotedBeside : Database :=
  runAll Operation.next (followedLeader ++ [.claimNextQueued domain lease (at_ 3),
    .admitLogicalRequest otherRequest domain ⟨false⟩ lease (at_ 4) narrow,
    .cancelAdmittedRequest request.logicalRequestId domain lease (at_ 5)]) .initial

/-- The claim is returned while another request has its place in line. -/
def returnedBeside : Database :=
  runAll Operation.next [.acquireLease owner (at_ 0) leasePolicy,
    .admitLogicalRequest request domain ⟨false⟩ lease (at_ 1) narrow,
    .claimNextQueued domain lease (at_ 2),
    .admitLogicalRequest otherRequest domain ⟨false⟩ lease (at_ 3) narrow,
    .recoverExpiredLease nextOwner (at_ 40) leasePolicy] .initial

end Sample

/-- A follower that takes its leader's place in line keeps the bounds. -/
theorem queue_bounds_hold_sample :
    (Sample.replaced.queue.entries.count fun _ row => row.state = .queued) ≤
      Sample.narrow.globalLimit := by
  have hrun : Reachable (fun op db => op.FindsRoom Sample.narrow db) Sample.replaced := by
    refine Reaches.runAll ?_
    simp only [Sample.followedLeader, List.cons_append, List.nil_append, AllowedAlong]
    have hfits : (Operation.cancelAdmittedRequest Sample.request.logicalRequestId Sample.domain
        Sample.lease (Sample.at_ 3)).Fits Sample.narrow
          (runAll Operation.next Sample.followedLeader .initial) := by
      unfold Operation.Fits
      decide +kernel
    exact ⟨⟨trivial, fun _ => trivial⟩, ⟨rfl, fun _ => trivial⟩, ⟨rfl, fun _ => trivial⟩,
      ⟨trivial, fun _ => hfits⟩, trivial⟩
  have hbounds := queue_bounds_hold hrun
  exact hbounds.1

/-- A follower promoted beside a full line, and a claim returned beside one, are both put
in line. -/
theorem queue_bounds_exceeded :
    Reachable (fun op _ => op.QueuesUnder Sample.narrow) Sample.promotedBeside ∧
    (Sample.promotedBeside.queue.entries.count fun _ row => row.state = .queued) = 2 ∧
    Reachable (fun op _ => op.QueuesUnder Sample.narrow) Sample.returnedBeside ∧
    (Sample.returnedBeside.queue.entries.count fun _ row => row.state = .queued) = 2 ∧
    Sample.narrow.globalLimit = 1 :=
  ⟨Reaches.runAll (by decide +kernel), by decide +kernel, Reaches.runAll (by decide +kernel),
    by decide +kernel, rfl⟩

end StockResearch.Requests
