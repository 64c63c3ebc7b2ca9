import StockResearch.Lib.Run
import StockResearch.Requests.SingleFlight

/-!
# The single-flight protocol

What admissions, cancellations, results and recoveries share: the ledger, the queue
entries, the flights and their consumers. They move by ten kinds of steps, and each
invariant of the protocol is proved of one step at a time.

- `LedgerTables.Closing`: a set of requests gets its result.
- `LedgerTables.Sound`: the invariant of the ledger alone.
- `AdmissionStep`: the ten steps.
-/

namespace StockResearch.Requests

/-! ## The ledger -/

theorem resultState_ne_queued (outcome : LogicalResultOutcome) : resultState outcome ≠ .queued := by
  cases outcome <;> exact nofun

namespace LedgerTables

/-- The request is still to be answered. -/
def Open (ledger : LedgerTables) (id : Identifier) : Prop :=
  (ledger.requests.get? id).map (·.state) = some .queued

/-- A request has a result exactly when it is not queued, and its state is the one of
its outcome. -/
structure Sound (ledger : LedgerTables) : Prop where
  submitted : ∀ id, ledger.requests.get? id = none → ledger.results.get? id = none
  answered : ∀ id row, ledger.requests.get? id = some row →
    (ledger.results.get? id).map (fun result => resultState result.outcome) =
      if row.state = .queued then none else some row.state
  valid : ∀ id result, ledger.results.get? id = some result →
    errorCodeMatches result.outcome result.errorCode = true

/-- Exactly the requests of `closed` get `result`, and the state of its outcome. -/
structure Closing (closed : Identifier → Prop) (result : LogicalResultRow)
    (ledger ledger' : LedgerTables) : Prop where
  valid : errorCodeMatches result.outcome result.errorCode = true
  closes : ∀ id, closed id → ledger.results.get? id = none ∧
    ledger'.results.get? id = some result ∧ ∃ row, ledger.requests.get? id = some row ∧
      ledger'.requests.get? id = some { row with state := resultState result.outcome }
  keeps : ∀ id, ¬ closed id → ledger'.requests.get? id = ledger.requests.get? id ∧
    ledger'.results.get? id = ledger.results.get? id

variable {ledger ledger' ledger'' : LedgerTables} {closed closed' : Identifier → Prop}
  {result : LogicalResultRow}

theorem Closing.refl (ledger : LedgerTables)
    (hvalid : errorCodeMatches result.outcome result.errorCode = true) :
    Closing (fun _ => False) result ledger ledger :=
  ⟨hvalid, fun _ h => h.elim, fun _ _ => ⟨rfl, rfl⟩⟩

theorem Closing.congr (h : Closing closed result ledger ledger')
    (hiff : ∀ id, closed' id ↔ closed id) : Closing closed' result ledger ledger' := by
  obtain rfl : closed' = closed := funext fun id => propext (hiff id)
  exact h

theorem Closing.trans (h : Closing closed result ledger ledger')
    (h' : Closing closed' result ledger' ledger'') :
    Closing (fun id => closed id ∨ closed' id) result ledger ledger'' := by
  have hapart : ∀ id, closed id → ¬ closed' id := by
    intro id hc hc'
    have hsome := (h.closes id hc).2.1
    rw [(h'.closes id hc').1] at hsome
    cases hsome
  refine ⟨h.valid, ?_, ?_⟩
  · rintro id hid
    by_cases hc : closed id
    · obtain ⟨hnone, hresult, row, hrow, hrow'⟩ := h.closes id hc
      obtain ⟨hrequests, hresults⟩ := h'.keeps id (hapart id hc)
      exact ⟨hnone, hresults.trans hresult, row, hrow, hrequests.trans hrow'⟩
    · obtain ⟨hrequests, hresults⟩ := h.keeps id hc
      obtain ⟨hnone, hresult, row, hrow, hrow'⟩ := h'.closes id (hid.resolve_left hc)
      exact ⟨hresults.symm.trans hnone, hresult, row, hrequests.symm.trans hrow, hrow'⟩
  · intro id hid
    rw [not_or] at hid
    obtain ⟨h₁, h₂⟩ := h.keeps id hid.1
    obtain ⟨h₃, h₄⟩ := h'.keeps id hid.2
    exact ⟨h₃.trans h₁, h₄.trans h₂⟩

/-- A result is written once. -/
theorem Closing.results_kept (h : Closing closed result ledger ledger') {id : Identifier}
    {row : LogicalResultRow} (hrow : ledger.results.get? id = some row) :
    ledger'.results.get? id = some row := by
  have hopen : ¬ closed id := by
    intro hc
    rw [(h.closes id hc).1] at hrow
    cases hrow
  rw [(h.keeps id hopen).2, hrow]

/-- Closing keeps every request and its fingerprint. -/
theorem Closing.requests_kept (h : Closing closed result ledger ledger') {id : Identifier}
    {row : LogicalRequestRow} (hrow : ledger.requests.get? id = some row) :
    ∃ row', ledger'.requests.get? id = some row' ∧
      row'.requestFingerprint = row.requestFingerprint := by
  by_cases hc : closed id
  · obtain ⟨-, -, row', hrow', hclosed⟩ := h.closes id hc
    obtain rfl := Option.some.inj (hrow.symm.trans hrow')
    exact ⟨_, hclosed, rfl⟩
  · exact ⟨row, (h.keeps id hc).1.trans hrow, rfl⟩

theorem Closing.requests_none (h : Closing closed result ledger ledger') {id : Identifier} :
    ledger'.requests.get? id = none ↔ ledger.requests.get? id = none := by
  by_cases hc : closed id
  · obtain ⟨-, -, row, hrow, hrow'⟩ := h.closes id hc
    rw [hrow, hrow']
    exact iff_of_false nofun nofun
  · rw [(h.keeps id hc).1]

/-- A request that is not closed stays open or closed. -/
theorem Closing.open_iff (h : Closing closed result ledger ledger') {id : Identifier}
    (hid : ¬ closed id) : ledger'.Open id ↔ ledger.Open id := by
  rw [Open, Open, (h.keeps id hid).1]

theorem Sound.empty : Sound ⟨.empty, .empty⟩ where
  submitted := fun _ _ => rfl
  answered := fun _ _ h => by cases h
  valid := fun _ _ h => by cases h

theorem Sound.closing (hsound : ledger.Sound) (h : Closing closed result ledger ledger') :
    ledger'.Sound where
  submitted := by
    intro id hid
    rw [h.requests_none] at hid
    by_cases hc : closed id
    · obtain ⟨-, -, row, hrow, -⟩ := h.closes id hc
      rw [hrow] at hid
      cases hid
    · rw [(h.keeps id hc).2]
      exact hsound.submitted id hid
  answered := by
    intro id row hrow
    by_cases hc : closed id
    · obtain ⟨-, hresult, old, -, hclosed⟩ := h.closes id hc
      obtain rfl := Option.some.inj (hclosed.symm.trans hrow)
      rw [hresult, if_neg (resultState_ne_queued _)]
      rfl
    · obtain ⟨hrequests, hresults⟩ := h.keeps id hc
      rw [hresults]
      exact hsound.answered id row (hrequests.symm.trans hrow)
  valid := by
    intro id row hrow
    by_cases hc : closed id
    · rw [(h.closes id hc).2.1] at hrow
      obtain rfl := Option.some.inj hrow
      exact h.valid
    · rw [(h.keeps id hc).2] at hrow
      exact hsound.valid id row hrow

theorem Sound.submit (hsound : ledger.Sound) {request : ProductionLogicalRequest}
    (hfresh : ledger.requests.get? request.logicalRequestId = none)
    (hqueued : request.state = .queued) :
    Sound { ledger with
      requests := ledger.requests.insert request.logicalRequestId request.toLogicalRequestRow } where
  submitted := by
    intro id hid
    rw [Table.get?_insert hfresh] at hid
    split at hid
    · cases hid
    · exact hsound.submitted id hid
  answered := by
    intro id row hrow
    rw [Table.get?_insert hfresh] at hrow
    split at hrow
    · rename_i hid
      obtain rfl := Option.some.inj hrow
      show (ledger.results.get? id).map _ = _
      rw [hid, hsound.submitted _ hfresh, if_pos hqueued]
      rfl
    · exact hsound.answered id row hrow
  valid := hsound.valid

/-- The result of a request that is open, or of one that is not. -/
theorem Sound.open_iff (hsound : ledger.Sound) {id : Identifier} {row : LogicalRequestRow}
    (hrow : ledger.requests.get? id = some row) : ledger.Open id ↔ ledger.results.get? id = none := by
  have h := hsound.answered id row hrow
  rw [Open, hrow, Option.map_some, Option.some.injEq]
  by_cases hqueued : row.state = .queued
  · rw [if_pos hqueued, Option.map_eq_none_iff] at h
    exact iff_of_true hqueued h
  · rw [if_neg hqueued] at h
    refine iff_of_false hqueued fun hnone => ?_
    rw [hnone] at h
    cases h

end LedgerTables

/-! ## The shared tables -/

/-- The tables that admissions, cancellations and results share. -/
structure Admissions where
  ledger : LedgerTables
  entries : Table Identifier QueueEntryRow
  flights : Table Sha256Hex SingleFlightRow
  consumers : Table Identifier ConsumerRow
  events : List AdmissionEventRow

def Database.admissions (db : Database) : Admissions :=
  ⟨db.ledger, db.queue.entries, db.flight.flights, db.flight.consumers, db.flight.events⟩

/-- The states of an entry that still stands in line or was claimed. -/
def QueueEntryState.isOpen : QueueEntryState → Bool
  | .queued | .dequeued => true
  | .rejected | .cancelled => false

/-- What can happen to an entry in place: a claim, or its return when `returnable`. -/
inductive LineMove (returnable : Prop) : Option QueueEntryRow → Option QueueEntryRow → Prop
  | stay (entry : Option QueueEntryRow) : LineMove returnable entry entry
  | claim {row row' : QueueEntryRow} (hqueued : row.state = .queued)
      (hdequeued : row'.state = .dequeued) : LineMove returnable (some row) (some row')
  | requeue {row row' : QueueEntryRow} (hdequeued : row.state = .dequeued)
      (hqueued : row'.state = .queued) (hreturnable : returnable) :
    LineMove returnable (some row) (some row')

theorem LineMove.eq_none {returnable : Prop} {new : Option QueueEntryRow} {old : Option QueueEntryRow}
    (h : LineMove returnable old new) : new = none ↔ old = none := by
  cases h with
  | stay => exact Iff.rfl
  | claim | requeue => exact iff_of_false nofun nofun

theorem LineMove.open_iff {returnable : Prop} {old new : Option QueueEntryRow}
    (h : LineMove returnable old new) :
    new.any (·.state.isOpen) = old.any (·.state.isOpen) := by
  cases h with
  | stay => rfl
  | claim hqueued hdequeued => simp [hqueued, hdequeued, QueueEntryState.isOpen]
  | requeue hdequeued hqueued _ => simp [hqueued, hdequeued, QueueEntryState.isOpen]

/-- How a consumer leaves its flight. -/
inductive ConsumerEnding
  | cancelled
  | completed (owner : Identifier)

def ConsumerRow.finish (row : ConsumerRow) : ConsumerEnding → ConsumerRow
  | .cancelled => { row with state := .cancelled }
  | .completed owner => { row with state := .completed, resultOwnerId := some owner }

theorem ConsumerRow.finish_inactive (row : ConsumerRow) (ending : ConsumerEnding) :
    (row.finish ending).state ≠ .active := by
  cases ending <;> exact nofun

@[simp] theorem ConsumerRow.finish_fingerprint (row : ConsumerRow) (ending : ConsumerEnding) :
    (row.finish ending).requestFingerprint = row.requestFingerprint := by
  cases ending <;> rfl

namespace Admissions

/-- `id` waits in the flight of `fingerprint`. -/
def Waiting (a : Admissions) (fingerprint : Sha256Hex) (id : Identifier) : Prop :=
  ∃ c, a.consumers.get? id = some c ∧ c.requestFingerprint = fingerprint ∧ c.state = .active ∧
    a.ledger.requests.get? id ≠ none

/-- An event shows how `id` joined its flight. -/
def Joined (events : List AdmissionEventRow) (id : Identifier) : Prop :=
  ∃ e ∈ events, e.logicalRequestId = id ∧ e.eventType.isJoin = true

end Admissions

/-! ## The steps -/

/-- What a recovery may do: close requests on their own, although a consumer waits for
them, and return claims to the queue. -/
structure Repairs where
  closable : Identifier → Prop
  returnable : Identifier → Prop

/-- Any other operation does neither. -/
def Repairs.none : Repairs := ⟨fun _ => False, fun _ => False⟩

section

variable (repairs : Repairs)

/-- One step of the protocol. -/
inductive AdmissionStep : Admissions → Admissions → Prop
  | audit {a : Admissions} {entries' : Table Identifier QueueEntryRow}
      {events' : List AdmissionEventRow}
      (hentries : ∀ id, LineMove (a.ledger.Open id ∧ repairs.returnable id) (a.entries.get? id)
        (entries'.get? id))
      (hevents : a.events ⊆ events') :
    AdmissionStep a { a with entries := entries', events := events' }
  | submit {a : Admissions} {request : ProductionLogicalRequest}
      (hfresh : a.ledger.requests.get? request.logicalRequestId = none)
      (hqueued : request.state = .queued) :
    AdmissionStep a
      { a with
        ledger := { a.ledger with
          requests := a.ledger.requests.insert request.logicalRequestId
            request.toLogicalRequestRow } }
  | queue {a : Admissions} {id : Identifier} (entry : QueueEntryRow)
      (hrequest : a.ledger.requests.get? id ≠ none) (hnobody : a.consumers.get? id = none)
      (hfresh : a.entries.get? id = none) :
    AdmissionStep a { a with entries := a.entries.insert id entry }
  | close {a : Admissions} {id : Identifier} {result : LogicalResultRow} {ledger' : LedgerTables}
      (hledger : LedgerTables.Closing (· = id) result a.ledger ledger')
      (hexcused : ∀ c, a.consumers.get? id = some c → c.state = .active →
        repairs.closable id) :
    AdmissionStep a { a with ledger := ledger' }
  | lead {a : Admissions} {id : Identifier} {consumer : ConsumerRow} {request : LogicalRequestRow}
      {entry : QueueEntryRow} {events' : List AdmissionEventRow}
      (hrequest : a.ledger.requests.get? id = some request) (hqueued : request.state = .queued)
      (hfingerprint : request.requestFingerprint = consumer.requestFingerprint)
      (hentry : a.entries.get? id = some entry) (hopen : entry.state.isOpen = true)
      (hfresh : a.consumers.get? id = none) (hactive : consumer.state = .active)
      (hrole : consumer.role = .leader) (howner : consumer.resultOwnerId = none)
      (hnobody : ∀ other c, a.consumers.get? other = some c →
        c.requestFingerprint = consumer.requestFingerprint → c.state ≠ .active)
      (hevents : a.events ⊆ events') (hjoined : Admissions.Joined events' id) :
    AdmissionStep a
      { a with
        consumers := a.consumers.insert id consumer
        flights := a.flights.upsert consumer.requestFingerprint ⟨id, .active⟩ fun row =>
          if row.state = .terminal then ⟨id, .active⟩ else row
        events := events' }
  | turnAway {a : Admissions} {id : Identifier} {consumer : ConsumerRow}
      {request : LogicalRequestRow} {flights' : Table Sha256Hex SingleFlightRow}
      {events' : List AdmissionEventRow} (hrequest : a.ledger.requests.get? id = some request)
      (hresult : a.ledger.results.get? id ≠ none)
      (hfingerprint : request.requestFingerprint = consumer.requestFingerprint)
      (hfresh : a.consumers.get? id = none) (hcancelled : consumer.state = .cancelled)
      (howner : consumer.resultOwnerId = none)
      (hnobody : ∀ other c, a.consumers.get? other = some c →
        c.requestFingerprint = consumer.requestFingerprint → c.state ≠ .active)
      (hflights : ∀ f, f ≠ consumer.requestFingerprint → flights'.get? f = a.flights.get? f)
      (hterminal : ∀ leader, flights'.get? consumer.requestFingerprint ≠ some ⟨leader, .active⟩)
      (hevents : a.events ⊆ events') (hjoined : Admissions.Joined events' id) :
    AdmissionStep a
      { a with
        consumers := a.consumers.insert id consumer
        flights := flights'
        events := events' }
  | follow {a : Admissions} {id leader : Identifier} {consumer leaderRow : ConsumerRow}
      {request : LogicalRequestRow} {events' : List AdmissionEventRow}
      (hrequest : a.ledger.requests.get? id = some request) (hqueued : request.state = .queued)
      (hfingerprint : request.requestFingerprint = consumer.requestFingerprint)
      (hfresh : a.consumers.get? id = none) (hunlined : a.entries.get? id = none)
      (hactive : consumer.state = .active) (hrole : consumer.role = .follower)
      (howner : consumer.resultOwnerId = none)
      (hflight : a.flights.get? consumer.requestFingerprint = some ⟨leader, .active⟩)
      (hleader : a.consumers.get? leader = some leaderRow)
      (hdomain : consumer.rateDomain = leaderRow.rateDomain)
      (hevents : a.events ⊆ events') (hjoined : Admissions.Joined events' id) :
    AdmissionStep a { a with consumers := a.consumers.insert id consumer, events := events' }
  | leave {a : Admissions} {id : Identifier} {consumer : ConsumerRow} {result : LogicalResultRow}
      {ledger' : LedgerTables} {events' : List AdmissionEventRow}
      (hconsumer : a.consumers.get? id = some consumer) (hactive : consumer.state = .active)
      (hrole : consumer.role = .follower)
      (hledger : LedgerTables.Closing (· = id) result a.ledger ledger')
      (hevents : a.events ⊆ events') :
    AdmissionStep a
      { a with
        ledger := ledger'
        consumers := a.consumers.modify id fun row => row.finish .cancelled
        events := events' }
  | promote {a : Admissions} {id promoted : Identifier} {leader follower : ConsumerRow}
      {result : LogicalResultRow} {ledger' : LedgerTables} {entry : QueueEntryRow}
      {events' : List AdmissionEventRow} (hleader : a.consumers.get? id = some leader)
      (hactive : leader.state = .active) (hrole : leader.role = .leader)
      (hfollower : a.consumers.get? promoted = some follower)
      (hfollowing : follower.state = .active) (hwaiting : follower.role = .follower)
      (hfingerprint : follower.requestFingerprint = leader.requestFingerprint)
      (hledger : LedgerTables.Closing (· = id) result a.ledger ledger')
      (hunlined : a.entries.get? promoted = none) (hentry : entry.state = .queued)
      (hevents : a.events ⊆ events') :
    AdmissionStep a
      { ledger := ledger'
        entries := (a.entries.modify id fun row => { row with state := .cancelled }).insert
          promoted entry
        flights := a.flights.modify leader.requestFingerprint fun row =>
          { row with leaderLogicalRequestId := promoted }
        consumers := (a.consumers.modify id fun row => row.finish .cancelled).modify promoted
          fun row => { row with role := .leader }
        events := events' }
  | conclude {a : Admissions} {fingerprint : Sha256Hex} {leader : Identifier}
      {leaderRow : ConsumerRow} {ending : ConsumerEnding} {closed : Identifier → Prop}
      {result : LogicalResultRow} {ledger' : LedgerTables}
      {entries' : Table Identifier QueueEntryRow} {consumers' : Table Identifier ConsumerRow}
      {events' : List AdmissionEventRow}
      (hflight : a.flights.get? fingerprint = some ⟨leader, .active⟩)
      (hleader : a.consumers.get? leader = some leaderRow)
      (hfingerprint : leaderRow.requestFingerprint = fingerprint)
      (hactive : leaderRow.state = .active) (hrole : leaderRow.role = .leader)
      (hending : ending = .cancelled ∨ ending = .completed leader)
      (hledger : LedgerTables.Closing closed result a.ledger ledger')
      (hclosed : ∀ id, closed id → a.Waiting fingerprint id)
      (hresult : ∀ id, a.Waiting fingerprint id → ledger'.results.get? id = some result)
      (hconsumers : ∀ id, (a.Waiting fingerprint id →
          consumers'.get? id = (a.consumers.get? id).map fun row => row.finish ending) ∧
        (¬ a.Waiting fingerprint id → consumers'.get? id = a.consumers.get? id))
      (hentries : ∀ id, id ≠ leader → entries'.get? id = a.entries.get? id)
      (hunlined : ∀ id, a.entries.get? id = none → entries'.get? id = none)
      (hevents : a.events ⊆ events') :
    AdmissionStep a
      { ledger := ledger'
        entries := entries'
        flights := a.flights.modify fingerprint fun row => { row with state := .terminal }
        consumers := consumers'
        events := events' }

end

end StockResearch.Requests
