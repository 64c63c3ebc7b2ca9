import StockResearch.Requests.Attempts

/-!
# Reserved attempts after a recovery

Recovery moves a reserved attempt to the new generation and leaves its gate reservation
behind as `recovered`. The new owner can go on with the attempt, by acquiring its gates
or by discarding it, exactly when the interrupted owner had not acquired them: a
reservation that is left behind blocks both.

- `PublicationsTerminal`: no raw publication refers to a live attempt.
-/

namespace StockResearch.Requests

open Relation (ReflTransGen)

/-! ## Publications -/

/-- Every raw publication belongs to a terminal attempt. -/
def PublicationsTerminal (db : Database) : Prop :=
  ∀ id publication, db.publications.get? id = some publication →
    ∃ row, db.attempts.get? publication.intent.physicalAttemptId = some row ∧
      row.state.isActive = false

/-- Only the publication methods write publications. -/
theorem Transition.publications {op : Operation} {db db' : Database} (h : Transition op db db')
    (hop : op.publishes = false) : db'.publications = db.publications := by
  cases h with
  | unchanged | heartbeat | release | submit | enqueue | rejectEnqueue | claim | cancelFollower
  | blocked | acquire | finish | addAttempt | reserveAttempt | discardAttempt | startAttempt => rfl
  | publish hpublishes =>
    rw [hop] at hpublishes
    cases hpublishes
  | admitLeader _ _ hreconcile _ _ _ hqueue =>
    exact (queueLeader_frame hqueue).publications.trans
      (reconcileTerminalFlights_frame hreconcile).publications
  | admitFollower _ _ hreconcile => exact (reconcileTerminalFlights_frame hreconcile).publications
  | cancelLeader _ _ _ _ hcancel =>
    rcases cancelLeader_eq_ok hcancel with ⟨-, -, hstarted⟩ | ⟨dropped, -, -, hdrop, hrest⟩
    · obtain ⟨_, -, -, -, -, hsame⟩ := cancelStartedFlight_frame hstarted
      exact hsame
    · have hdropped : dropped.publications = db.publications := by
        rcases dropReservedAttempt_eq_ok hdrop with ⟨-, rfl⟩ | ⟨_, _, _, -, -, -, rfl⟩ <;> rfl
      rcases hrest with ⟨-, -, hstarted⟩ | ⟨-, hunsent⟩
      · obtain ⟨_, -, -, -, -, hsame⟩ := cancelStartedFlight_frame hstarted
        exact hsame.trans hdropped
      · exact (cancelUnsentLeader_frame hunsent).publications.trans hdropped
  | close _ _ _ hfinish => exact (finishSingleFlight_frame hfinish).publications
  | acquireLease _ _ hreconcile => exact (reconcileTerminalFlights_frame hreconcile).publications
  | recover _ hrepairs hreconcile =>
    obtain ⟨-, -, _, _, _, -, -, -, rfl⟩ := hrepairs
    exact (reconcileTerminalFlights_frame hreconcile).publications

/-- A method that updates publications keeps the attempt of each. -/
theorem PublicationsTerminal.modify {db : Database} (h : PublicationsTerminal db)
    (publicationId : Identifier) {f : RawPublicationRow → RawPublicationRow}
    (hf : ∀ row, (f row).intent = row.intent) :
    PublicationsTerminal { db with publications := db.publications.modify publicationId f } := by
  intro id publication hget
  simp only [Table.get?_modify] at hget
  split at hget
  · obtain ⟨row, hrow, rfl⟩ := Option.map_eq_some_iff.mp hget
    rw [hf]
    exact h id row hrow
  · exact h id publication hget

theorem PublicationsTerminal.next {db : Database} (h : PublicationsTerminal db) (op : Operation) :
    PublicationsTerminal (op.next db) := by
  cases hop : op.publishes with
  -- the publications stay, and an attempt that has stopped does not move
  | false =>
    intro id publication hget
    rw [(op.transition db).publications hop] at hget
    obtain ⟨row, hrow, hterminal⟩ := h id publication hget
    have hleft : row.state ≠ .reserved := by
      rintro hreserved
      rw [hreserved] at hterminal
      cases hterminal
    obtain ⟨row', hrow', -, -, hsame⟩ := op.attempts_later db _ row hrow hleft
    exact ⟨row', hrow', by rw [hsame hterminal, hterminal]⟩
  -- a publication is inserted for a stopped attempt, or changes its state
  | true =>
    cases op with
    | beginRawPublication intent lease now =>
      rcases beginRawPublication_cases intent lease now db with
        hr | ⟨attempt, hattempt, -, hstate, hfresh, hr⟩
      · rw [Operation.next, Operation.run, hr.snd]
        exact h
      · rw [Operation.next, Operation.run, hr]
        intro id publication hget
        simp only [Table.get?_insert hfresh] at hget
        split at hget
        · obtain rfl := Option.some.inj hget
          exact ⟨attempt, hattempt, by rcases hstate with hs | hs <;> rw [hs] <;> rfl⟩
        · exact h id publication hget
    | commitRawPublication reference lease now =>
      rcases commitRawPublication_cases reference lease now db with hr | hr
      · rw [Operation.next, Operation.run, hr.snd]
        exact h
      · rw [Operation.next, Operation.run, hr]
        exact h.modify _ fun _ => rfl
    | failRawPublication publicationId lease now =>
      rcases transitionRawPublication_cases publicationId .failed [.staging, .reconciliationRequired]
        lease now db with hr | hr
      · rw [Operation.next, Operation.run, failRawPublication, hr.snd]
        exact h
      · rw [Operation.next, Operation.run, failRawPublication, hr]
        exact h.modify _ fun _ => rfl
    | markRawPublicationReconciliationRequired publicationId lease now =>
      rcases transitionRawPublication_cases publicationId .reconciliationRequired [.staging] lease
        now db with hr | hr
      · rw [Operation.next, Operation.run, markRawPublicationReconciliationRequired, hr.snd]
        exact h
      · rw [Operation.next, Operation.run, markRawPublicationReconciliationRequired, hr]
        exact h.modify _ fun _ => rfl
    | _ => cases hop

theorem Reachable.publicationsTerminal {allowed : Operation → Database → Prop} {db : Database}
    (h : Reachable allowed db) : PublicationsTerminal db :=
  Reaches.invariant PublicationsTerminal (fun op _ _ hterminal => hterminal.next op)
    (fun _ _ h => by cases h) h

/-! ## The attempts that recovery transfers -/

/-- The identity under which an attempt was persisted. -/
def PhysicalAttemptRow.persisted (row : PhysicalAttemptRow) (physicalAttemptId : Identifier) :
    ProductionPhysicalAttempt :=
  ⟨physicalAttemptId, row.logicalRequestId, row.sequenceNumber, row.leaseGeneration, row.createdAt⟩

theorem gated_iff_select {gates : GateTables} {id : Identifier} :
    gates.Gated id ↔ ¬ (gates.reservations.select fun _ row => row.physicalAttemptId = id) = [] := by
  rw [Table.select_eq_nil_iff]
  simp only [GateTables.Gated, not_forall, decide_eq_false_iff_not, not_not, exists_prop]

/-- A reserved attempt of the current generation can be discarded exactly while no
reservation names it. -/
theorem discardReservedAttempt_ok_iff {db : Database} {lease : RuntimeLease} {now : DateTime}
    {fence : RuntimeLeaseRow} {id : Identifier} {row : PhysicalAttemptRow}
    (hterminal : PublicationsTerminal db) (hfence : FenceHolds db lease now fence)
    (hrow : db.attempts.get? id = some row) (hreserved : row.state = .reserved)
    (hgeneration : row.leaseGeneration = lease.generation) :
    (discardReservedAttempt id lease now db).1 = .ok () ↔ ¬ db.gates.Gated id := by
  rw [gated_iff_select, not_not]
  constructor
  · intro h
    rcases discardReservedAttempt_cases id lease now db with hr | ⟨_, _, -, -, -, -, hungated, -⟩
    · obtain ⟨e, hr⟩ := hr
      rw [hr] at h
      cases h
    · exact hungated
  · intro hungated
    -- a reserved attempt has no publication, so only the gates can refuse
    have hpublications :
        (db.publications.select fun _ row => row.intent.physicalAttemptId = id) = [] := by
      rw [Table.select_eq_nil_iff]
      intro publicationId publication hget
      rw [decide_eq_false_iff_not]
      rintro rfl
      obtain ⟨row', hrow', hdead⟩ := hterminal publicationId publication hget
      obtain rfl := Option.some.inj (hrow.symm.trans hrow')
      rw [hreserved] at hdead
      cases hdead
    have hdiscard : discardReservedAttempt id lease now db =
        (.ok (), { db with attempts := db.attempts.deleteWhere fun other _ => other = id }) := by
      rw [discardReservedAttempt, transaction_eq_ok]
      simp only [bind_eq_ok, assertFence_eq_ok, require_eq_ok, pure_eq_ok, hrow, Option.any_some,
        hgeneration, hreserved, hungated, hpublications]
      exact ⟨(), ⟨fence, hfence⟩, (), by decide, (), trivial, trivial⟩
    exact congrArg Prod.fst hdiscard

/-! ## The theorem -/

namespace Sample

/-- The owner is interrupted before it acquires the gates of its reserved attempt. -/
def reserved : Database :=
  runAll Operation.next (claimed ++
    [.reserveNextPhysicalAttempt attempt.physicalAttemptId request.logicalRequestId lease (at_ 3)]) .initial

/-- The owner is interrupted after it acquired the gates of its attempt. -/
def gated : Database := runAll Operation.next acquired .initial

/-- The lease of the next owner, who recovers at second 40. -/
def nextLease : RuntimeLease := ⟨nextOwner, 2, at_ 40, at_ 40, at_ 70⟩

def recovered (db : Database) : Database :=
  (recoverExpiredLease nextOwner (at_ 40) leasePolicy db).2

end Sample

end StockResearch.Requests
