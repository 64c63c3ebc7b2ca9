import Mathlib.Data.String.Basic
import StockResearch.Lib.RoundRobin
import StockResearch.Requests.QueueBounds

/-!
# Fairness of the scheduler

A claim serves one task of a rate domain: the next one in text order after the task that
the domain's cursor names, around from the last to the first. Of that task it takes the
oldest entry. No other operation moves a cursor, so a task that stays in line is served
between any two claims of another task.

- `claimsAlong`: what the claims of a run return.
- `InLineAtClaims`: the stretches the law is about.
- `scheduler_is_fair`: the law.
-/

namespace StockResearch.Requests

/-! ## One claim -/

/-- The entry is in line for the task in the rate domain. -/
def InLine (entries : QueueEntries) (rateDomain taskId id : Identifier) (row : QueueEntryRow) :
    Prop :=
  entries.get? id = some row ∧ row.rateDomain = rateDomain ∧ row.taskId = taskId ∧
    row.state = .queued

/-- The task has an entry in line in the rate domain. -/
def TaskInLine (rateDomain taskId : Identifier) (db : Database) : Prop :=
  ∃ id row, InLine db.queue.entries rateDomain taskId id row

/-- The claim returned the entry of its task that comes first by time and identifier. -/
def ClaimsOldest (entries : QueueEntries) (claim : QueueClaim) : Prop :=
  ∃ row, InLine entries claim.rateDomain claim.taskId claim.logicalRequestId row ∧
    row.enqueuedAt = claim.enqueuedAt ∧
    ∀ id other, InLine entries claim.rateDomain claim.taskId id other →
      claim.enqueuedAt < other.enqueuedAt ∨
        claim.enqueuedAt = other.enqueuedAt ∧ claim.logicalRequestId.text ≤ id.text

/-- The texts of the tasks in line in a rate domain. -/
def readyTasks (rateDomain : Identifier) (db : Database) : Set String :=
  {text | ∃ task, TaskInLine rateDomain task db ∧ task.text = text}

theorem Identifier.text_injective : Function.Injective Identifier.text := by
  rintro ⟨text, hvalid⟩ ⟨_, _⟩ rfl
  rfl

theorem mem_queuedTasks {db : Database} {rateDomain task : Identifier} :
    task ∈ queuedTasks db.queue rateDomain ↔ TaskInLine rateDomain task db := by
  rw [queuedTasks, mem_orderBy, List.mem_dedup, List.mem_map]
  constructor
  · rintro ⟨⟨id, row⟩, hmem, rfl⟩
    rw [Table.mem_select, Bool.and_eq_true, decide_eq_true_eq, decide_eq_true_eq] at hmem
    exact ⟨id, row, hmem.1, hmem.2.1, rfl, hmem.2.2⟩
  · rintro ⟨id, row, hget, hdomain, htask, hstate⟩
    refine ⟨(id, row), ?_, htask⟩
    rw [Table.mem_select, Bool.and_eq_true, decide_eq_true_eq, decide_eq_true_eq]
    exact ⟨hget, hdomain, hstate⟩

/-- Rows ordered by a total and transitive comparison are sorted. -/
theorem pairwise_orderBy {α : Type} (le : α → α → Bool) (rows : List α)
    (htotal : ∀ a b, le a b = true ∨ le b a = true)
    (htrans : ∀ a b c, le a b = true → le b c = true → le a c = true) :
    (orderBy le rows).Pairwise fun a b => le a b = true :=
  have : Std.Total fun a b => le a b = true := ⟨htotal⟩
  have : IsTrans α fun a b => le a b = true := ⟨htrans⟩
  List.pairwise_insertionSort (fun a b => le a b = true) rows

theorem queuedTasks_sorted (queue : QueueTables) (rateDomain : Identifier) :
    (queuedTasks queue rateDomain).Pairwise fun a b => a.text ≤ b.text := by
  have hsorted := pairwise_orderBy (fun a b : Identifier => decide (a.text ≤ b.text))
    ((queue.entries.select fun _ row => row.rateDomain = rateDomain && row.state = .queued).map
      fun entry => entry.2.taskId).dedup
    (fun a b => by simpa only [decide_eq_true_eq] using le_total a.text b.text)
    (fun a b c => by simpa only [decide_eq_true_eq] using le_trans)
  refine hsorted.imp fun {a b} h => ?_
  rwa [decide_eq_true_eq] at h

/-- The oldest entry of a task is in line, and no other entry of the task comes before it. -/
theorem oldestQueued_eq_some {queue : QueueTables} {rateDomain taskId id : Identifier}
    {row : QueueEntryRow} (h : oldestQueued queue rateDomain taskId = some (id, row)) :
    ClaimsOldest queue.entries ⟨id, taskId, rateDomain, row.enqueuedAt⟩ := by
  have hmem : ∀ id row, (id, row) ∈ (queue.entries.select fun _ row =>
      row.rateDomain = rateDomain && row.taskId = taskId && row.state = .queued) ↔
      InLine queue.entries rateDomain taskId id row := by
    intro id row
    rw [Table.mem_select]
    simp only [Bool.and_eq_true, decide_eq_true_eq, InLine, and_assoc]
  have hsorted := pairwise_orderBy
    (fun a b : Identifier × QueueEntryRow => decide (
      isoformat a.2.enqueuedAt < isoformat b.2.enqueuedAt ∨
        isoformat a.2.enqueuedAt = isoformat b.2.enqueuedAt ∧ a.1.text ≤ b.1.text))
    (queue.entries.select fun _ row =>
      row.rateDomain = rateDomain && row.taskId = taskId && row.state = .queued)
    (fun a b => ?_) (fun a b c hab hbc => ?_)
  · -- the first of the ordered entries comes before every other
    rw [oldestQueued, List.head?_eq_some_iff] at h
    obtain ⟨rest, hrest⟩ := h
    have hfirst : (id, row) ∈ (id, row) :: rest := List.mem_cons_self
    rw [← hrest, mem_orderBy, hmem] at hfirst
    refine ⟨row, hfirst, rfl, fun other entry hother => ?_⟩
    have hin : (other, entry) ∈ (id, row) :: rest := by
      rw [← hrest, mem_orderBy, hmem]
      exact hother
    rcases List.mem_cons.mp hin with heq | hin
    · cases heq
      exact .inr ⟨rfl, le_rfl⟩
    · rw [hrest] at hsorted
      have hle := List.rel_of_pairwise_cons hsorted hin
      rw [decide_eq_true_eq] at hle
      exact hle.imp isoformat_lt_iff.mp fun h => ⟨isoformat_injective h.1, h.2⟩
  · -- the order of time and identifier is total
    simp only [decide_eq_true_eq]
    rcases lt_trichotomy (isoformat a.2.enqueuedAt) (isoformat b.2.enqueuedAt) with h | h | h
    · exact .inl (.inl h)
    · exact (le_total a.1.text b.1.text).imp (fun hle => .inr ⟨h, hle⟩) fun hle => .inr ⟨h.symm, hle⟩
    · exact .inr (.inl h)
  · -- and transitive
    simp only [decide_eq_true_eq] at hab hbc ⊢
    generalize isoformat a.2.enqueuedAt = x at hab ⊢
    generalize isoformat b.2.enqueuedAt = y at hab hbc
    generalize isoformat c.2.enqueuedAt = z at hbc ⊢
    rcases hab with hab | ⟨rfl, hle⟩
    · exact .inl (hbc.elim (lt_trans hab) fun h => h.1 ▸ hab)
    · exact hbc.imp_right fun h => ⟨h.1, hle.trans h.2⟩

/-- What a successful claim returns and leaves behind: it serves the next task around the
cursor, with its oldest entry, and moves the cursor there. -/
theorem claimNextQueued_eq_some {rateDomain : Identifier} {lease : RuntimeLease} {now : DateTime}
    {db db' : Database} {claim : QueueClaim}
    (h : claimNextQueued rateDomain lease now db = (.ok (some claim), db')) :
    claim.rateDomain = rateDomain ∧ ClaimsOldest db.queue.entries claim ∧
      Serves (readyTasks rateDomain db) ((db.queue.cursors.get? rateDomain).map Identifier.text)
        claim.taskId.text ∧
      db'.queue.cursors = db.queue.cursors.upsert rateDomain claim.taskId fun _ => claim.taskId := by
  unfold claimNextQueued at h
  rcases transaction_store with hr | ⟨r, db'', hbody, hr⟩
  · exact absurd h hr.ne_ok
  · rw [hr, Prod.mk.injEq] at h
    obtain ⟨rfl, rfl⟩ := h
    simp only [bind_eq_ok, assertFence_eq_ok] at hbody
    obtain ⟨-, -, hbody⟩ := hbody
    cases htasks : queuedTasks db.queue rateDomain with
    -- no task is in line
    | nil => simp [htasks, pure_eq_ok] at hbody
    | cons first rest =>
      simp only [htasks, bind_eq_ok, fetch_eq_ok, require_eq_ok, pure_eq_ok, Prod.mk.injEq,
        Except.ok.injEq, Option.some.injEq] at hbody
      obtain ⟨⟨id, entry⟩, hentry, -, -, rfl, rfl⟩ := hbody
      have hsorted := queuedTasks_sorted db.queue rateDomain
      rw [htasks] at hsorted
      -- the task after the cursor, or the first one around
      have hserves := Serves.of_find Identifier.text hsorted
        ((db.queue.cursors.get? rateDomain).map Identifier.text)
      have hready : {text | ∃ task ∈ first :: rest, task.text = text} = readyTasks rateDomain db := by
        ext text
        simp only [readyTasks, Set.mem_ofPred_eq, ← htasks, mem_queuedTasks]
      rw [hready] at hserves
      simp only [Option.all_map] at hserves
      exact ⟨rfl, oldestQueued_eq_some hentry, hserves, rfl⟩

/-- With the fence held, a claim on a rate domain with an entry in line returns one. -/
theorem claimNextQueued_succeeds {rateDomain task : Identifier} {lease : RuntimeLease}
    {now : DateTime} {db : Database} (hfence : assertFence db lease now = .ok ())
    (htask : TaskInLine rateDomain task db) :
    ∃ claim db', claimNextQueued rateDomain lease now db = (.ok (some claim), db') := by
  -- a task in line has an oldest entry
  have hentry : ∀ task, TaskInLine rateDomain task db → ∃ id row,
      oldestQueued db.queue rateDomain task = some (id, row) := by
    rintro task ⟨id, row, hget, hdomain, htask, hstate⟩
    have hmem : (id, row) ∈ db.queue.entries.select fun _ row =>
        row.rateDomain = rateDomain && row.taskId = task && row.state = .queued := by
      rw [Table.mem_select]
      simp only [hget, hdomain, htask, hstate, decide_true, Bool.and_true, and_self]
    cases hhead : oldestQueued db.queue rateDomain task with
    | none =>
      rw [oldestQueued, List.head?_eq_none_iff] at hhead
      rw [← mem_orderBy, hhead] at hmem
      cases hmem
    | some entry => exact ⟨entry.1, entry.2, rfl⟩
  cases htasks : queuedTasks db.queue rateDomain with
  | nil =>
    have hmem := mem_queuedTasks.mpr htask
    rw [htasks] at hmem
    cases hmem
  | cons first rest =>
    -- whichever task is served is in line
    have hserved : ∀ p : Identifier → Bool,
        TaskInLine rateDomain (((first :: rest).find? p).getD first) db := by
      intro p
      rw [← mem_queuedTasks, htasks]
      cases hfind : (first :: rest).find? p with
      | none => exact List.mem_cons_self
      | some served => exact List.mem_of_find?_eq_some hfind
    obtain ⟨id, row, holdest⟩ := hentry _ (hserved fun candidate =>
      (db.queue.cursors.get? rateDomain).all fun last => decide (last.text < candidate.text))
    obtain ⟨_, ⟨hget, -, -, hstate⟩, -⟩ := oldestQueued_eq_some holdest
    simp only [claimNextQueued, transaction_eq_ok, bind_eq_ok, fetch_eq_ok, require_eq_ok,
      pure_eq_ok, hfence, htasks, holdest]
    exact ⟨_, _, (), trivial, _, rfl, (), by simp only [hget, Option.map_some, hstate], rfl⟩

/-! ## The cursors -/

theorem finishSingleFlight_cursors {result : ProductionLogicalResult} {now : DateTime}
    {db db' : Database} (h : finishSingleFlight result now db = .ok db') :
    db'.queue.cursors = db.queue.cursors := by
  rcases finishSingleFlight_eq_ok h with ⟨-, rfl⟩ | ⟨leader, delivered, -, -, -, -, hfold, rfl⟩
  · rfl
  · show delivered.queue.cursors = db.queue.cursors
    refine foldlM_invariant (fun _ s => s.queue.cursors = db.queue.cursors)
      (fun _ _ _ _ hs hstep => ?_) rfl hfold
    rw [deliverResult_queue hstep, hs]

theorem reconcileTerminalFlights_cursors {now : DateTime} {fingerprint : Option Sha256Hex}
    {db db' : Database} (h : reconcileTerminalFlights now fingerprint db = .ok db') :
    db'.queue.cursors = db.queue.cursors := by
  refine foldlM_invariant (fun _ s => s.queue.cursors = db.queue.cursors) ?_ rfl h
  intro flight rest s s' hs hstep
  obtain ⟨-, -, -, -, ⟨-, -, rfl⟩ | ⟨r, -, -, -, hfinish⟩⟩ := reconcileFlight_eq_ok hstep
  · exact hs
  · exact (finishSingleFlight_cursors hfinish).trans hs

theorem cancelLeader_cursors {id : Identifier} {fingerprint : Sha256Hex} {now : DateTime}
    {reason : Identifier} {promoted : Option Identifier} {db db' : Database}
    (h : cancelLeader id fingerprint now reason db = .ok (promoted, db')) :
    db'.queue.cursors = db.queue.cursors := by
  rcases cancelLeader_eq_ok h with ⟨-, -, hcancel⟩ | ⟨dropped, -, -, hdrop, hrest⟩
  · rw [cancelStartedFlight_queue hcancel]
  · have hdropped : dropped.queue = db.queue := by
      rcases dropReservedAttempt_eq_ok hdrop with ⟨-, rfl⟩ | ⟨_, _, _, -, -, -, rfl⟩ <;> rfl
    rw [← hdropped]
    rcases hrest with ⟨-, -, hcancel⟩ | ⟨-, hcancel⟩
    · rw [cancelStartedFlight_queue hcancel]
    · obtain ⟨_, handed, -, hhanded, -, rfl⟩ := cancelUnsentLeader_eq_ok hcancel
      rcases promoteFollower_eq_ok hhanded with ⟨-, rfl⟩ | ⟨_, _, _, _, -, -, rfl⟩ <;> rfl

/-- Only a claim moves a cursor. -/
theorem Transition.cursors {op : Operation} {db db' : Database} (h : Transition op db db')
    (hop : ∀ rateDomain lease now, op ≠ .claimNextQueued rateDomain lease now) :
    db'.queue.cursors = db.queue.cursors := by
  cases h with
  | unchanged | publish | heartbeat | release | submit | enqueue | rejectEnqueue | cancelFollower
  | blocked | acquire | finish | addAttempt | reserveAttempt | discardAttempt | startAttempt => rfl
  | admitLeader _ _ hreconcile _ _ _ hqueue =>
    have hcursors := reconcileTerminalFlights_cursors hreconcile
    obtain ⟨-, -, ⟨-, rfl⟩ | ⟨-, _, -, rfl⟩⟩ := queueLeader_eq_ok hqueue <;> exact hcursors
  | admitFollower _ _ hreconcile => exact (reconcileTerminalFlights_cursors hreconcile :)
  | claim => exact absurd rfl (hop _ _ _)
  | cancelLeader _ _ _ _ hcancel => exact cancelLeader_cursors hcancel
  | close _ _ _ hfinish => exact (finishSingleFlight_cursors hfinish :)
  | acquireLease _ _ hreconcile => exact (reconcileTerminalFlights_cursors hreconcile :)
  | recover _ hrepairs hreconcile =>
    obtain ⟨-, -, _, _, _, -, -, -, rfl⟩ := hrepairs
    exact (reconcileTerminalFlights_cursors hreconcile :)

/-! ## Runs -/

/-- The operation is a claim on the rate domain. -/
def Operation.ClaimsOn (rateDomain : Identifier) : Operation → Prop
  | .claimNextQueued domain _ _ => domain = rateDomain
  | _ => False

instance (rateDomain : Identifier) : (op : Operation) → Decidable (op.ClaimsOn rateDomain) := by
  rintro (_ | _) <;> unfold Operation.ClaimsOn <;> infer_instance

/-- What the operation returns, when it is a claim on the rate domain. -/
def Operation.claimed (rateDomain : Identifier) (op : Operation) (db : Database) :
    Option QueueClaim :=
  match op with
  | .claimNextQueued domain lease now =>
    if domain = rateDomain then (Requests.claimNextQueued domain lease now db).1.toOption.join
    else none
  | _ => none

/-- What the claims of a run on the rate domain return, in order. -/
def claimsAlong (rateDomain : Identifier) : List Operation → Database → List QueueClaim
  | [], _ => []
  | op :: ops, db => (op.claimed rateDomain db).toList ++ claimsAlong rateDomain ops (op.next db)

/-- At every claim of the run on the rate domain, the tasks in line there satisfy `tasks`. -/
def InLineAtClaims (rateDomain : Identifier) (tasks : (Identifier → Prop) → Prop)
    (ops : List Operation) (db : Database) : Prop :=
  AllowedAlong Operation.next
    (fun op db => op.ClaimsOn rateDomain → tasks fun task => TaskInLine rateDomain task db) ops db

/-- A claim that returns no entry changes nothing. -/
theorem claimNextQueued_next {domain : Identifier} {lease : RuntimeLease} {now : DateTime}
    {db : Database} :
    (Requests.claimNextQueued domain lease now db).2 = db ∨
      ∃ claim db', Requests.claimNextQueued domain lease now db = (.ok (some claim), db') := by
  rcases claimNextQueued_cases domain lease now db with hr | hr | ⟨_, _, _, _, -, -, -, -, -, hr⟩
  · exact .inl hr.snd
  · exact .inl (by rw [hr])
  · exact .inr ⟨_, _, hr⟩

/-- An operation that returns no claim on the rate domain leaves its cursor where it was. -/
theorem Operation.cursor_next {rateDomain : Identifier} {op : Operation} {db : Database}
    (h : op.claimed rateDomain db = none) :
    (op.next db).queue.cursors.get? rateDomain = db.queue.cursors.get? rateDomain := by
  by_cases hop : ∀ domain lease now, op ≠ .claimNextQueued domain lease now
  · rw [(op.transition db).cursors hop]
  · simp only [not_forall, ne_eq, not_not] at hop
    obtain ⟨domain, lease, now, rfl⟩ := hop
    rw [Operation.next, Operation.run, discardValue_snd]
    rcases claimNextQueued_next with hr | ⟨claim, db', hr⟩
    · rw [hr]
    · have hother : domain ≠ rateDomain := by
        rintro rfl
        rw [Operation.claimed, if_pos rfl, hr] at h
        cases h
      obtain ⟨-, -, -, hcursors⟩ := claimNextQueued_eq_some hr
      rw [hr, hcursors, Table.get?_upsert, if_neg hother.symm]

/-- A claim on the rate domain that returns an entry. -/
theorem Operation.claimed_eq_some {rateDomain : Identifier} {op : Operation} {db : Database}
    {claim : QueueClaim} (h : op.claimed rateDomain db = some claim) :
    op.ClaimsOn rateDomain ∧
      Serves (readyTasks rateDomain db) ((db.queue.cursors.get? rateDomain).map Identifier.text)
        claim.taskId.text ∧
      (op.next db).queue.cursors.get? rateDomain = some claim.taskId := by
  cases op with
  | claimNextQueued domain lease now =>
    rw [Operation.claimed] at h
    split at h
    · rename_i hdomain
      subst hdomain
      rcases hr : Requests.claimNextQueued domain lease now db with ⟨_ | _ | found, db'⟩
      · rw [hr] at h
        cases h
      · rw [hr] at h
        cases h
      · rw [hr] at h
        obtain rfl : found = claim := Option.some.inj h
        obtain ⟨-, -, hserves, hcursors⟩ := claimNextQueued_eq_some hr
        refine ⟨rfl, hserves, ?_⟩
        rw [Operation.next, Operation.run, discardValue_snd, hr, hcursors, Table.get?_upsert,
          if_pos rfl]
        cases db.queue.cursors.get? domain <;> rfl
    · cases h
  | _ => cases h

/-- The claims of a stretch in which the task is always in line are turns of a rotation. -/
theorem claimsAlong_rotation {rateDomain task : Identifier} {ops : List Operation} {db : Database}
    (h : InLineAtClaims rateDomain (fun inLine => inLine task) ops db) :
    Rotation task.text ((db.queue.cursors.get? rateDomain).map Identifier.text)
      ((claimsAlong rateDomain ops db).map fun claim => claim.taskId.text) := by
  induction ops generalizing db with
  | nil => exact .nil _
  | cons op ops ih =>
    obtain ⟨hop, hrest⟩ := h
    have hturns := ih hrest
    rw [claimsAlong]
    cases hclaim : op.claimed rateDomain db with
    | none => rwa [Operation.cursor_next hclaim] at hturns
    | some claim =>
      obtain ⟨hon, hserves, hcursor⟩ := Operation.claimed_eq_some hclaim
      rw [hcursor] at hturns
      have hready : task.text ∈ readyTasks rateDomain db := ⟨task, hop hon, rfl⟩
      exact .cons hready hserves hturns

/-- The tasks that a stretch serves are in line. -/
theorem claimsAlong_among {rateDomain : Identifier} {tasks : Finset Identifier}
    {ops : List Operation} {db : Database}
    (h : InLineAtClaims rateDomain (fun inLine => ∀ task, inLine task → task ∈ tasks) ops db) :
    ∀ claim ∈ claimsAlong rateDomain ops db, claim.taskId ∈ tasks := by
  induction ops generalizing db with
  | nil => exact fun _ hmem => nomatch hmem
  | cons op ops ih =>
    obtain ⟨hop, hrest⟩ := h
    rw [claimsAlong]
    intro claim hmem
    rcases List.mem_append.mp hmem with hmem | hmem
    · rw [Option.mem_toList] at hmem
      obtain ⟨hon, hserves, -⟩ := Operation.claimed_eq_some hmem
      obtain ⟨task, htask, htext⟩ := hserves.mem
      rw [← Identifier.text_injective htext]
      exact hop hon task htask
    · exact ih hrest claim hmem

/-! ## The law -/

/-- **Scheduler fairness.** A claim returns the oldest entry of its task. In any run of
operations from any database, while a task stays in line it is served between any two
claims of another task, and within `k` claims when `k` tasks are in line. Claims on other
rate domains move neither the cursor nor the entries of this one. -/
theorem scheduler_is_fair (rateDomain : Identifier) :
    (∀ lease now claim db db',
      claimNextQueued rateDomain lease now db = (.ok (some claim), db') →
        claim.rateDomain = rateDomain ∧ ClaimsOldest db.queue.entries claim) ∧
    (∀ lease now task db, assertFence db lease now = .ok () → TaskInLine rateDomain task db →
      ∃ claim db', claimNextQueued rateDomain lease now db = (.ok (some claim), db')) ∧
    (∀ task ops db, InLineAtClaims rateDomain (fun inLine => inLine task) ops db →
      (∀ earlier claim between again later,
        claimsAlong rateDomain ops db = earlier ++ claim :: (between ++ again :: later) →
        claim.taskId = again.taskId → claim.taskId ≠ task →
          ∃ served ∈ between, served.taskId = task) ∧
      ∀ tasks : Finset Identifier, task ∈ tasks →
        InLineAtClaims rateDomain (fun inLine => ∀ task, inLine task → task ∈ tasks) ops db →
        ∀ earlier window later, claimsAlong rateDomain ops db = earlier ++ window ++ later →
          window.length = tasks.card → ∃ served ∈ window, served.taskId = task) ∧
    ∀ other lease now db, other ≠ rateDomain →
      let db' := (Operation.claimNextQueued other lease now).next db
      db'.queue.cursors.get? rateDomain = db.queue.cursors.get? rateDomain ∧
        ∀ task id row, InLine db'.queue.entries rateDomain task id row ↔
          InLine db.queue.entries rateDomain task id row := by
  have hserved : ∀ {claims : List QueueClaim} {task : Identifier},
      task.text ∈ claims.map (fun claim => claim.taskId.text) →
        ∃ served ∈ claims, served.taskId = task := by
    intro claims task hmem
    obtain ⟨served, hserved, htext⟩ := List.mem_map.mp hmem
    exact ⟨served, hserved, Identifier.text_injective htext⟩
  refine ⟨fun lease now claim db db' h => ?_, fun _ _ _ _ => claimNextQueued_succeeds,
    fun task ops db hline => ⟨?_, ?_⟩, fun other lease now db hother => ⟨?_, ?_⟩⟩
  · obtain ⟨hdomain, holdest, -, -⟩ := claimNextQueued_eq_some h
    exact ⟨hdomain, holdest⟩
  · intro earlier claim between again later hclaims hsame hne
    have hturns := claimsAlong_rotation hline
    rw [hclaims, List.map_append, List.map_cons, List.map_append, List.map_cons, hsame] at hturns
    refine hserved (hturns.bypass fun htext => hne ?_)
    rw [hsame]
    exact Identifier.text_injective htext
  · intro tasks htask hamong earlier window later hclaims hlength
    have hturns := claimsAlong_rotation hline
    rw [hclaims, List.map_append, List.map_append] at hturns
    obtain ⟨_, hwindow⟩ := hturns.of_append_left.of_append_right
    refine hserved (hwindow.served (tasks.image Identifier.text) ?_ ?_ ?_)
    · intro text hmem
      obtain ⟨claim, hclaim, rfl⟩ := List.mem_map.mp hmem
      have hin : claim ∈ claimsAlong rateDomain ops db := by
        rw [hclaims]
        simp [hclaim]
      exact Finset.mem_image_of_mem _ (claimsAlong_among hamong claim hin)
    · exact Finset.mem_image_of_mem _ htask
    · rw [List.length_map, hlength]
      exact Finset.card_image_le
  · refine Operation.cursor_next ?_
    rw [Operation.claimed, if_neg hother]
  · intro task id row
    rw [Operation.next, Operation.run, discardValue_snd]
    rcases claimNextQueued_cases other lease now db with
      hr | hr | ⟨_, claimed, entry, queue, -, hentry, -, hdomain, hqueue, hr⟩
    · rw [hr.snd]
    · rw [hr]
    · rw [hr]
      show InLine queue.entries _ _ _ _ ↔ _
      rw [hqueue, InLine, InLine, Table.get?_modify]
      by_cases hid : id = claimed
      · -- the claimed entry lies in the other rate domain, before and after
        subst hid
        rw [if_pos rfl, hentry, Option.map_some, Option.some.injEq, Option.some.injEq]
        constructor
        · rintro ⟨rfl, hhere, -⟩
          exact absurd (hdomain.symm.trans hhere) hother
        · rintro ⟨rfl, hhere, -⟩
          exact absurd (hdomain.symm.trans hhere) hother
      · rw [if_neg hid]

namespace Sample

/-- Two requests of a task, and two of another one, are put in line. -/
def twoTasks : List Operation :=
  let enqueue (task id : Identifier) (now : DateTime) : Operation :=
    .enqueueLogicalRequest { request with logicalRequestId := id, taskId := task } domain lease now
      queuePolicy
  [.acquireLease owner (at_ 0) leasePolicy,
    enqueue ⟨"task-a", by decide⟩ ⟨"a-1", by decide⟩ (at_ 1),
    enqueue ⟨"task-a", by decide⟩ ⟨"a-2", by decide⟩ (at_ 2),
    enqueue ⟨"task-b", by decide⟩ ⟨"b-1", by decide⟩ (at_ 3),
    enqueue ⟨"task-b", by decide⟩ ⟨"b-2", by decide⟩ (at_ 4)]

/-- Three claims on their rate domain. -/
def threeClaims : List Operation :=
  [.claimNextQueued domain lease (at_ 5), .claimNextQueued domain lease (at_ 6),
    .claimNextQueued domain lease (at_ 7)]

end Sample

/-- The second task is served between the two claims of the first. -/
theorem scheduler_is_fair_sample :
    let db := runAll Operation.next Sample.twoTasks .initial
    ∃ first second third,
      claimsAlong Sample.domain Sample.threeClaims db = [first, second, third] ∧
        first.taskId = third.taskId ∧ second.taskId = ⟨"task-b", by decide⟩ := by
  intro db
  have htasks : (claimsAlong Sample.domain Sample.threeClaims db).map (·.taskId) =
      [⟨"task-a", by decide⟩, ⟨"task-b", by decide⟩, ⟨"task-a", by decide⟩] := by decide +kernel
  have hline : InLineAtClaims Sample.domain (fun inLine => inLine ⟨"task-b", by decide⟩)
      Sample.threeClaims db :=
    ⟨fun _ => mem_queuedTasks.mp (by decide +kernel), fun _ => mem_queuedTasks.mp (by decide +kernel),
      fun _ => mem_queuedTasks.mp (by decide +kernel), trivial⟩
  have hlength := congrArg List.length htasks
  rw [List.length_map] at hlength
  obtain ⟨first, second, third, hclaims⟩ := List.length_eq_three.mp hlength
  rw [hclaims] at htasks
  simp only [List.map_cons, List.map_nil, List.cons.injEq, and_true] at htasks
  obtain ⟨hfirst, -, hthird⟩ := htasks
  have hfair := (scheduler_is_fair Sample.domain).2.2.1 ⟨"task-b", by decide⟩ Sample.threeClaims db hline
  obtain ⟨served, hserved, htask⟩ := hfair.1 [] first [second] third [] hclaims
    (hfirst.trans hthird.symm) (by rw [hfirst]; decide)
  obtain rfl := List.mem_singleton.mp hserved
  exact ⟨first, served, third, hclaims, hfirst.trans hthird.symm, htask⟩

end StockResearch.Requests
