import StockResearch.Requests.FlightProtocol

/-!
# The invariant of the single flights

An active flight has one leader, who is an active consumer in line; every active
consumer belongs to an active flight, and followers do not stand in line. One lemma for
each step of the protocol says that it keeps this.

- `Admissions.Sound`: the invariant.
- `Admissions.Sound.step`: every step keeps it.
-/

namespace StockResearch.Requests

/-! ## The invariant of the flights -/

/-- What holds of the flights between two steps. A request that an active consumer waits
for is open, unless a recovery closed it. -/
structure Admissions.Sound (closable : Identifier → Prop) (a : Admissions) : Prop where
  known : ∀ id c, a.consumers.get? id = some c →
    (∃ row, a.ledger.requests.get? id = some row ∧
      row.requestFingerprint = c.requestFingerprint) ∧ Admissions.Joined a.events id
  lined : ∀ id, a.ledger.requests.get? id = none → a.entries.get? id = none
  flying : ∀ id c, a.consumers.get? id = some c → c.state = .active →
    ∃ leader lc, a.flights.get? c.requestFingerprint = some ⟨leader, .active⟩ ∧
      a.consumers.get? leader = some lc ∧ c.rateDomain = lc.rateDomain ∧
      (c.role = .leader ↔ id = leader)
  leads : ∀ f leader, a.flights.get? f = some ⟨leader, .active⟩ →
    (∃ c, a.consumers.get? leader = some c ∧ c.requestFingerprint = f ∧ c.state = .active) ∧
      (a.entries.get? leader).any (·.state.isOpen) = true
  unlined : ∀ id c, a.consumers.get? id = some c → c.state = .active → c.role = .follower →
    a.entries.get? id = none
  open_ : ∀ id c, a.consumers.get? id = some c → c.state = .active →
    a.ledger.Open id ∨ closable id

theorem Admissions.Sound.mono {closable closable' : Identifier → Prop} {a : Admissions}
    (h : a.Sound closable) (himp : ∀ id, closable id → closable' id) : a.Sound closable' :=
  { h with open_ := fun id c hc hactive => (h.open_ id c hc hactive).imp_right (himp id) }

theorem Database.initial_sound (closable : Identifier → Prop) :
    Database.initial.admissions.Sound closable where
  known := fun _ _ h => by cases h
  lined := fun _ _ => rfl
  flying := fun _ _ h => by cases h
  leads := fun _ _ h => by cases h
  unlined := fun _ _ h => by cases h
  open_ := fun _ _ h => by cases h

section

open Admissions

variable {repairs : Repairs} {a a' : Admissions}

/-- The leader of an active flight has the leading role in it. -/
theorem Admissions.Sound.leader_row {closable : Identifier → Prop} (hsound : a.Sound closable)
    {f : Sha256Hex} {leader : Identifier} (hflight : a.flights.get? f = some ⟨leader, .active⟩) :
    ∃ c, a.consumers.get? leader = some c ∧ c.requestFingerprint = f ∧ c.state = .active ∧
      c.role = .leader := by
  obtain ⟨⟨c, hc, rfl, hactive⟩, -⟩ := hsound.leads f leader hflight
  obtain ⟨leader', _, hflight', -, -, hrole⟩ := hsound.flying leader c hc hactive
  rw [hflight, Option.some.injEq, SingleFlightRow.mk.injEq] at hflight'
  exact ⟨c, hc, rfl, hactive, hrole.mpr hflight'.1⟩

/-- Nobody waits, so there is no active flight. -/
theorem Admissions.Sound.no_flight {closable : Identifier → Prop} (hsound : a.Sound closable)
    {f : Sha256Hex}
    (hnobody : ∀ id c, a.consumers.get? id = some c → c.requestFingerprint = f → c.state ≠ .active)
    (leader : Identifier) : a.flights.get? f ≠ some ⟨leader, .active⟩ := by
  intro hflight
  obtain ⟨c, hc, hf, hactive, -⟩ := hsound.leader_row hflight
  exact hnobody leader c hc hf hactive

theorem Admissions.Joined.mono {events events' : List AdmissionEventRow} {id : Identifier}
    (h : Joined events id) (hevents : events ⊆ events') : Joined events' id := by
  obtain ⟨e, he, hid, hjoin⟩ := h
  exact ⟨e, hevents he, hid, hjoin⟩

variable (hsound : a.Sound repairs.closable)

include hsound

theorem Admissions.Sound.audit {entries' : Table Identifier QueueEntryRow}
    {events' : List AdmissionEventRow} {returnable : Identifier → Prop}
    (hentries : ∀ id, LineMove (returnable id) (a.entries.get? id) (entries'.get? id))
    (hevents : a.events ⊆ events') :
    Sound repairs.closable { a with entries := entries', events := events' } where
  known := by
    intro id c hc
    exact (hsound.known id c hc).imp_right fun h => h.mono hevents
  lined := by
    intro id hid
    exact (hentries id).eq_none.mpr (hsound.lined id hid)
  flying := hsound.flying
  leads := by
    intro f leader hflight
    refine (hsound.leads f leader hflight).imp_right fun hopen => ?_
    show (entries'.get? leader).any _ = true
    rw [(hentries leader).open_iff]
    exact hopen
  unlined := by
    intro id c hc hactive hrole
    exact (hentries id).eq_none.mpr (hsound.unlined id c hc hactive hrole)
  open_ := hsound.open_

theorem Admissions.Sound.submit {request : ProductionLogicalRequest}
    (hfresh : a.ledger.requests.get? request.logicalRequestId = none) :
    Sound repairs.closable
      { a with
        ledger := { a.ledger with
          requests := a.ledger.requests.insert request.logicalRequestId
            request.toLogicalRequestRow } } := by
  have hkept : ∀ id row, a.ledger.requests.get? id = some row →
      (a.ledger.requests.insert request.logicalRequestId request.toLogicalRequestRow).get? id =
        some row := by
    intro id row hrow
    rw [Table.get?_insert hfresh, if_neg, hrow]
    rintro rfl
    rw [hfresh] at hrow
    cases hrow
  refine { hsound with known := ?_, lined := ?_, open_ := ?_ }
  · intro id c hc
    obtain ⟨⟨row, hrow, hf⟩, hjoined⟩ := hsound.known id c hc
    exact ⟨⟨row, hkept id row hrow, hf⟩, hjoined⟩
  · intro id hid
    refine hsound.lined id ?_
    cases hrow : a.ledger.requests.get? id with
    | none => rfl
    | some row => exact absurd ((hkept id row hrow).symm.trans hid) nofun
  · intro id c hc hactive
    refine (hsound.open_ id c hc hactive).imp_left fun hopen => ?_
    obtain ⟨row, hrow, hqueued⟩ := Option.map_eq_some_iff.mp hopen
    exact Option.map_eq_some_iff.mpr ⟨row, hkept id row hrow, hqueued⟩

theorem Admissions.Sound.queue {id : Identifier} (entry : QueueEntryRow)
    (hrequest : a.ledger.requests.get? id ≠ none) (hnobody : a.consumers.get? id = none)
    (hfresh : a.entries.get? id = none) :
    Sound repairs.closable { a with entries := a.entries.insert id entry } := by
  have hkept : ∀ other, other ≠ id → (a.entries.insert id entry).get? other = a.entries.get? other :=
    fun other hne => by rw [Table.get?_insert hfresh, if_neg hne]
  have hapart : ∀ other c, a.consumers.get? other = some c → other ≠ id := by
    rintro other c hc rfl
    rw [hnobody] at hc
    cases hc
  refine { hsound with lined := ?_, leads := ?_, unlined := ?_ }
  · intro other hnone
    rw [hkept other fun h => hrequest (h ▸ hnone)]
    exact hsound.lined other hnone
  · intro f leader hflight
    obtain ⟨⟨c, hc, hrest⟩, hopen⟩ := hsound.leads f leader hflight
    refine ⟨⟨c, hc, hrest⟩, ?_⟩
    show ((a.entries.insert id entry).get? leader).any _ = true
    rw [hkept leader (hapart leader c hc)]
    exact hopen
  · intro other c hc hactive hrole
    show (a.entries.insert id entry).get? other = none
    rw [hkept other (hapart other c hc)]
    exact hsound.unlined other c hc hactive hrole

theorem Admissions.Sound.close {id : Identifier} {result : LogicalResultRow} {ledger' : LedgerTables}
    (hledger : LedgerTables.Closing (· = id) result a.ledger ledger')
    (hexcused : ∀ c, a.consumers.get? id = some c → c.state = .active → repairs.closable id) :
    Sound repairs.closable { a with ledger := ledger' } := by
  refine { hsound with known := ?_, lined := ?_, open_ := ?_ }
  · intro other c hc
    obtain ⟨⟨row, hrow, hf⟩, hjoined⟩ := hsound.known other c hc
    obtain ⟨row', hrow', hf'⟩ := hledger.requests_kept hrow
    exact ⟨⟨row', hrow', hf'.trans hf⟩, hjoined⟩
  · intro other hnone
    exact hsound.lined other (hledger.requests_none.mp hnone)
  · intro other c hc hactive
    by_cases hid : other = id
    · subst hid
      exact .inr (hexcused c hc hactive)
    · exact (hsound.open_ other c hc hactive).imp_left (hledger.open_iff hid).mpr

theorem Admissions.Sound.join {id : Identifier} {consumer : ConsumerRow}
    {request : LogicalRequestRow} {events' : List AdmissionEventRow}
    (hrequest : a.ledger.requests.get? id = some request)
    (hfingerprint : request.requestFingerprint = consumer.requestFingerprint)
    (hfresh : a.consumers.get? id = none) (hevents : a.events ⊆ events')
    (hjoined : Joined events' id) (other : Identifier) (c : ConsumerRow)
    (hc : (a.consumers.insert id consumer).get? other = some c) :
    (∃ row, a.ledger.requests.get? other = some row ∧
      row.requestFingerprint = c.requestFingerprint) ∧ Joined events' other := by
  rw [Table.get?_insert hfresh] at hc
  split at hc
  · rename_i hid
    obtain rfl := Option.some.inj hc
    subst hid
    exact ⟨⟨request, hrequest, hfingerprint⟩, hjoined⟩
  · exact (hsound.known other c hc).imp_right fun h => h.mono hevents

theorem Admissions.Sound.lead {id : Identifier} {consumer : ConsumerRow}
    {request : LogicalRequestRow} {entry : QueueEntryRow} {events' : List AdmissionEventRow}
    (hrequest : a.ledger.requests.get? id = some request) (hqueued : request.state = .queued)
    (hfingerprint : request.requestFingerprint = consumer.requestFingerprint)
    (hentry : a.entries.get? id = some entry) (hopen : entry.state.isOpen = true)
    (hfresh : a.consumers.get? id = none) (hactive : consumer.state = .active)
    (hrole : consumer.role = .leader)
    (hnobody : ∀ other c, a.consumers.get? other = some c →
      c.requestFingerprint = consumer.requestFingerprint → c.state ≠ .active)
    (hevents : a.events ⊆ events') (hjoined : Joined events' id) :
    Sound repairs.closable
      { a with
        consumers := a.consumers.insert id consumer
        flights := a.flights.upsert consumer.requestFingerprint ⟨id, .active⟩ fun row =>
          if row.state = .terminal then ⟨id, .active⟩ else row
        events := events' } := by
  -- the flight of the request is its own now, and the others are as they were
  have hflights : ∀ f, (a.flights.upsert consumer.requestFingerprint ⟨id, .active⟩ fun row =>
      if row.state = .terminal then ⟨id, .active⟩ else row).get? f =
        if f = consumer.requestFingerprint then some ⟨id, .active⟩ else a.flights.get? f := by
    intro f
    rw [Table.get?_upsert]
    split
    · have hterminal := hsound.no_flight hnobody
      cases hrow : a.flights.get? consumer.requestFingerprint with
      | none => rfl
      | some row =>
        obtain ⟨leader, state⟩ := row
        cases state with
        | active => exact absurd hrow (hterminal leader)
        | terminal => rfl
    · rfl
  have hconsumers := fun other => Table.get?_insert hfresh consumer other
  -- nobody that was there is the new consumer
  have hapart : ∀ other c, a.consumers.get? other = some c → other ≠ id := by
    rintro other c hc rfl
    rw [hfresh] at hc
    cases hc
  refine { hsound with known := ?_, flying := ?_, leads := ?_, unlined := ?_, open_ := ?_ }
  · exact hsound.join hrequest hfingerprint hfresh hevents hjoined
  · -- who waits: the new consumer is its own leader, the others keep theirs
    intro other c hc hwaits
    simp only [hconsumers, hflights] at hc ⊢
    split at hc
    · rename_i hid
      obtain rfl := Option.some.inj hc
      exact ⟨id, consumer, if_pos rfl, if_pos rfl, rfl, iff_of_true hrole hid⟩
    · obtain ⟨leader, lc, hflight, hlc, hrest⟩ := hsound.flying other c hc hwaits
      refine ⟨leader, lc, ?_, ?_, hrest⟩
      · rw [if_neg fun hf => hnobody other c hc hf hwaits, hflight]
      · rw [if_neg (hapart leader lc hlc), hlc]
  · -- who leads: the new consumer for its flight
    intro f leader hflight
    simp only [hconsumers, hflights] at hflight ⊢
    split at hflight
    · rename_i hf
      obtain rfl : id = leader := (SingleFlightRow.mk.inj (Option.some.inj hflight)).1
      exact ⟨⟨consumer, if_pos rfl, hf.symm, hactive⟩, by rw [hentry]; exact hopen⟩
    · obtain ⟨⟨c, hc, hrest⟩, hopen⟩ := hsound.leads f leader hflight
      exact ⟨⟨c, by rw [if_neg (hapart leader c hc), hc], hrest⟩, hopen⟩
  · -- who waits in no line: the new consumer leads, so it does not follow
    intro other c hc hwaits hfollows
    simp only [hconsumers] at hc
    split at hc
    · obtain rfl := Option.some.inj hc
      rw [hrole] at hfollows
      cases hfollows
    · exact hsound.unlined other c hc hwaits hfollows
  · -- who is open: the new request is queued
    intro other c hc hwaits
    simp only [hconsumers] at hc
    split at hc
    · rename_i hid
      subst hid
      exact .inl (Option.map_eq_some_iff.mpr ⟨request, hrequest, hqueued⟩)
    · exact hsound.open_ other c hc hwaits

theorem Admissions.Sound.turnAway {id : Identifier} {consumer : ConsumerRow}
    {request : LogicalRequestRow} {flights' : Table Sha256Hex SingleFlightRow}
    {events' : List AdmissionEventRow} (hrequest : a.ledger.requests.get? id = some request)
    (hfingerprint : request.requestFingerprint = consumer.requestFingerprint)
    (hfresh : a.consumers.get? id = none) (hcancelled : consumer.state = .cancelled)
    (hnobody : ∀ other c, a.consumers.get? other = some c →
      c.requestFingerprint = consumer.requestFingerprint → c.state ≠ .active)
    (hflights : ∀ f, f ≠ consumer.requestFingerprint → flights'.get? f = a.flights.get? f)
    (hterminal : ∀ leader, flights'.get? consumer.requestFingerprint ≠ some ⟨leader, .active⟩)
    (hevents : a.events ⊆ events') (hjoined : Joined events' id) :
    Sound repairs.closable
      { a with consumers := a.consumers.insert id consumer, flights := flights',
               events := events' } := by
  -- the cancelled consumer does not wait
  have hold : ∀ other c, (a.consumers.insert id consumer).get? other = some c → c.state = .active →
      other ≠ id ∧ a.consumers.get? other = some c := by
    intro other c hc hwaits
    rw [Table.get?_insert hfresh] at hc
    split at hc
    · obtain rfl := Option.some.inj hc
      rw [hcancelled] at hwaits
      cases hwaits
    · exact ⟨‹_›, hc⟩
  -- nobody that was there is replaced
  have hnew : ∀ other c, a.consumers.get? other = some c →
      (a.consumers.insert id consumer).get? other = some c := by
    intro other c hc
    rw [Table.get?_insert hfresh, if_neg, hc]
    rintro rfl
    rw [hfresh] at hc
    cases hc
  refine { hsound with known := ?_, flying := ?_, leads := ?_, unlined := ?_, open_ := ?_ }
  · exact hsound.join hrequest hfingerprint hfresh hevents hjoined
  · -- the flights of those who wait are as they were
    intro other c hc hwaits
    obtain ⟨-, hc⟩ := hold other c hc hwaits
    obtain ⟨leader, lc, hflight, hlc, hrest⟩ := hsound.flying other c hc hwaits
    refine ⟨leader, lc, ?_, hnew leader lc hlc, hrest⟩
    show flights'.get? _ = _
    rw [hflights _ fun hf => hnobody other c hc hf hwaits, hflight]
  · -- an active flight is one of another request
    intro f leader hflight
    have hf : f ≠ consumer.requestFingerprint := by
      rintro rfl
      exact hterminal leader hflight
    obtain ⟨⟨c, hc, hrest⟩, hopen⟩ := hsound.leads f leader ((hflights f hf).symm.trans hflight)
    exact ⟨⟨c, hnew leader c hc, hrest⟩, hopen⟩
  · intro other c hc hwaits
    exact hsound.unlined other c (hold other c hc hwaits).2 hwaits
  · intro other c hc hwaits
    exact hsound.open_ other c (hold other c hc hwaits).2 hwaits

theorem Admissions.Sound.follow {id leader : Identifier} {consumer leaderRow : ConsumerRow}
    {request : LogicalRequestRow} {events' : List AdmissionEventRow}
    (hrequest : a.ledger.requests.get? id = some request) (hqueued : request.state = .queued)
    (hfingerprint : request.requestFingerprint = consumer.requestFingerprint)
    (hfresh : a.consumers.get? id = none) (hunlined : a.entries.get? id = none)
    (hrole : consumer.role = .follower)
    (hflight : a.flights.get? consumer.requestFingerprint = some ⟨leader, .active⟩)
    (hleader : a.consumers.get? leader = some leaderRow)
    (hdomain : consumer.rateDomain = leaderRow.rateDomain)
    (hevents : a.events ⊆ events') (hjoined : Joined events' id) :
    Sound repairs.closable
      { a with consumers := a.consumers.insert id consumer, events := events' } := by
  -- nobody that was there is replaced
  have hnew : ∀ other c, a.consumers.get? other = some c → other ≠ id ∧
      (a.consumers.insert id consumer).get? other = some c := by
    intro other c hc
    have hne : other ≠ id := by
      rintro rfl
      rw [hfresh] at hc
      cases hc
    exact ⟨hne, by rw [Table.get?_insert hfresh, if_neg hne, hc]⟩
  refine { hsound with known := ?_, flying := ?_, leads := ?_, unlined := ?_, open_ := ?_ }
  · exact hsound.join hrequest hfingerprint hfresh hevents hjoined
  · -- the new consumer waits for the leader of the flight
    intro other c hc hwaits
    simp only [Table.get?_insert hfresh] at hc
    split at hc
    · rename_i hid
      obtain rfl := Option.some.inj hc
      refine ⟨leader, leaderRow, hflight, (hnew leader leaderRow hleader).2, hdomain, ?_⟩
      rw [hrole]
      exact iff_of_false (by decide) fun h => (hnew leader leaderRow hleader).1 (h.symm.trans hid)
    · obtain ⟨leader', lc, hflight', hlc, hrest⟩ := hsound.flying other c hc hwaits
      exact ⟨leader', lc, hflight', (hnew leader' lc hlc).2, hrest⟩
  · intro f leader' hflight'
    obtain ⟨⟨c, hc, hrest⟩, hopen⟩ := hsound.leads f leader' hflight'
    exact ⟨⟨c, (hnew leader' c hc).2, hrest⟩, hopen⟩
  · -- the follower is not in line
    intro other c hc hwaits hfollows
    simp only [Table.get?_insert hfresh] at hc
    split at hc
    · rename_i hid
      subst hid
      exact hunlined
    · exact hsound.unlined other c hc hwaits hfollows
  · -- its request is queued
    intro other c hc hwaits
    simp only [Table.get?_insert hfresh] at hc
    split at hc
    · rename_i hid
      subst hid
      exact .inl (Option.map_eq_some_iff.mpr ⟨request, hrequest, hqueued⟩)
    · exact hsound.open_ other c hc hwaits

/-- Closing requests keeps the requests of the consumers. -/
theorem Admissions.Sound.known_closing {closed : Identifier → Prop} {result : LogicalResultRow}
    {ledger' : LedgerTables} {events' : List AdmissionEventRow}
    (hledger : LedgerTables.Closing closed result a.ledger ledger') (hevents : a.events ⊆ events')
    {id : Identifier} {c c' : ConsumerRow} (hc : a.consumers.get? id = some c)
    (hsame : c'.requestFingerprint = c.requestFingerprint) :
    (∃ row, ledger'.requests.get? id = some row ∧
      row.requestFingerprint = c'.requestFingerprint) ∧ Joined events' id := by
  obtain ⟨⟨row, hrow, hf⟩, hjoined⟩ := hsound.known id c hc
  obtain ⟨row', hrow', hf'⟩ := hledger.requests_kept hrow
  exact ⟨⟨row', hrow', (hf'.trans hf).trans hsame.symm⟩, hjoined.mono hevents⟩

theorem Admissions.Sound.leave {id : Identifier} {consumer : ConsumerRow}
    {result : LogicalResultRow} {ledger' : LedgerTables} {events' : List AdmissionEventRow}
    (hconsumer : a.consumers.get? id = some consumer) (hrole : consumer.role = .follower)
    (hledger : LedgerTables.Closing (· = id) result a.ledger ledger')
    (hevents : a.events ⊆ events') :
    Sound repairs.closable
      { a with
        ledger := ledger'
        consumers := a.consumers.modify id fun row => row.finish .cancelled
        events := events' } := by
  have hold : ∀ other c, (a.consumers.modify id fun row => row.finish .cancelled).get? other =
      some c → c.state = .active → other ≠ id ∧ a.consumers.get? other = some c := by
    intro other c hc hwaits
    rw [Table.get?_modify] at hc
    split at hc
    · obtain ⟨row, -, rfl⟩ := Option.map_eq_some_iff.mp hc
      exact absurd hwaits (row.finish_inactive _)
    · exact ⟨‹_›, hc⟩
  -- a follower leads no flight
  have hleader : ∀ f leader, a.flights.get? f = some ⟨leader, .active⟩ → leader ≠ id := by
    rintro f leader hflight rfl
    obtain ⟨c, hc, -, -, hleads⟩ := hsound.leader_row hflight
    obtain rfl := Option.some.inj (hconsumer.symm.trans hc)
    rw [hrole] at hleads
    cases hleads
  refine { hsound with known := ?_, lined := ?_, flying := ?_, leads := ?_, unlined := ?_, open_ := ?_ }
  · intro other c hc
    simp only [Table.get?_modify] at hc
    split at hc
    · rename_i hid
      obtain ⟨row, hrow, rfl⟩ := Option.map_eq_some_iff.mp hc
      subst hid
      exact hsound.known_closing hledger hevents hrow (row.finish_fingerprint _)
    · exact hsound.known_closing hledger hevents hc rfl
  · intro other hnone
    exact hsound.lined other (hledger.requests_none.mp hnone)
  · intro other c hc hwaits
    obtain ⟨-, hc⟩ := hold other c hc hwaits
    obtain ⟨leader, lc, hflight, hlc, hrest⟩ := hsound.flying other c hc hwaits
    refine ⟨leader, lc, hflight, ?_, hrest⟩
    simp only [Table.get?_modify, if_neg (hleader _ leader hflight), hlc]
  · intro f leader hflight
    obtain ⟨⟨c, hc, hrest⟩, hopen⟩ := hsound.leads f leader hflight
    refine ⟨⟨c, ?_, hrest⟩, hopen⟩
    simp only [Table.get?_modify, if_neg (hleader f leader hflight), hc]
  · intro other c hc hwaits
    exact hsound.unlined other c (hold other c hc hwaits).2 hwaits
  · intro other c hc hwaits
    obtain ⟨hid, hc⟩ := hold other c hc hwaits
    exact (hsound.open_ other c hc hwaits).imp_left (hledger.open_iff hid).mpr

theorem Admissions.Sound.promote {id promoted : Identifier} {leader follower : ConsumerRow}
    {result : LogicalResultRow} {ledger' : LedgerTables} {entry : QueueEntryRow}
    {events' : List AdmissionEventRow} (hleader : a.consumers.get? id = some leader)
    (hactive : leader.state = .active) (hrole : leader.role = .leader)
    (hfollower : a.consumers.get? promoted = some follower)
    (hfollowing : follower.state = .active) (hwaiting : follower.role = .follower)
    (hfingerprint : follower.requestFingerprint = leader.requestFingerprint)
    (hledger : LedgerTables.Closing (· = id) result a.ledger ledger')
    (hunlined : a.entries.get? promoted = none) (hentry : entry.state = .queued)
    (hevents : a.events ⊆ events') :
    Sound repairs.closable
      { ledger := ledger'
        entries := (a.entries.modify id fun row => { row with state := .cancelled }).insert
          promoted entry
        flights := a.flights.modify leader.requestFingerprint fun row =>
          { row with leaderLogicalRequestId := promoted }
        consumers := (a.consumers.modify id fun row => row.finish .cancelled).modify promoted
          fun row => { row with role := .leader }
        events := events' } := by
  -- the promoted consumer follows, so it is not the leader that is cancelled
  have hne : promoted ≠ id := by
    rintro rfl
    obtain rfl := Option.some.inj (hleader.symm.trans hfollower)
    rw [hrole] at hwaiting
    cases hwaiting
  -- the tables afterwards, row by row
  have hconsumers : ∀ other, ((a.consumers.modify id fun row => row.finish .cancelled).modify
      promoted fun row => { row with role := .leader }).get? other =
        if other = promoted then some { follower with role := .leader }
        else if other = id then some (leader.finish .cancelled) else a.consumers.get? other := by
    intro other
    simp only [Table.get?_modify]
    by_cases hpromoted : other = promoted
    · subst hpromoted
      rw [if_pos rfl, if_pos rfl, if_neg hne, hfollower]
      rfl
    · rw [if_neg hpromoted, if_neg hpromoted]
      by_cases hid : other = id
      · subst hid
        rw [if_pos rfl, if_pos rfl, hleader]
        rfl
      · rw [if_neg hid, if_neg hid]
  have hentries : ∀ other, ((a.entries.modify id fun row =>
      { row with state := .cancelled }).insert promoted entry).get? other =
        if other = promoted then some entry
        else if other = id then (a.entries.get? id).map fun row => { row with state := .cancelled }
        else a.entries.get? other := by
    intro other
    have hfresh : (a.entries.modify id fun row => { row with state := .cancelled }).get? promoted =
        none := by rw [Table.get?_modify, if_neg hne, hunlined]
    rw [Table.get?_insert hfresh, Table.get?_modify]
    by_cases hid : other = id
    · rw [hid]
    · rw [if_neg hid, if_neg hid]
  -- the flight of the leader, before and after
  have hflight : a.flights.get? leader.requestFingerprint = some ⟨id, .active⟩ := by
    obtain ⟨leader', _, hflight, -, -, hleads⟩ := hsound.flying id leader hleader hactive
    rw [hflight, hleads.mp hrole]
  have hflights : ∀ f, (a.flights.modify leader.requestFingerprint fun row =>
      { row with leaderLogicalRequestId := promoted }).get? f =
        if f = leader.requestFingerprint then some ⟨promoted, .active⟩ else a.flights.get? f := by
    intro f
    rw [Table.get?_modify]
    by_cases hf : f = leader.requestFingerprint
    · rw [if_pos hf, if_pos hf, hf, hflight]
      rfl
    · rw [if_neg hf, if_neg hf]
  have hdomain : ∀ other c, a.consumers.get? other = some c → c.state = .active →
      c.requestFingerprint = leader.requestFingerprint →
        c.rateDomain = leader.rateDomain ∧ (c.role = .leader ↔ other = id) := by
    intro other c hc hwaits hf
    obtain ⟨leader', lc, hflight', hlc, hdomain, hleads⟩ := hsound.flying other c hc hwaits
    rw [hf, hflight, Option.some.injEq, SingleFlightRow.mk.injEq] at hflight'
    obtain ⟨rfl, -⟩ := hflight'
    obtain rfl := Option.some.inj (hleader.symm.trans hlc)
    exact ⟨hdomain, hleads⟩
  -- one clause after the other; each looks at the promoted, the cancelled and the other rows
  refine ⟨?_, ?_, ?_, ?_, ?_, ?_⟩
  · intro other c hc
    simp only [hconsumers] at hc
    split at hc
    · rename_i hid
      obtain rfl := Option.some.inj hc
      subst hid
      exact hsound.known_closing hledger hevents hfollower rfl
    split at hc
    · rename_i hid
      obtain rfl := Option.some.inj hc
      subst hid
      exact hsound.known_closing hledger hevents hleader (leader.finish_fingerprint _)
    · exact hsound.known_closing hledger hevents hc rfl
  · -- a request nobody knows has no entry
    intro other hnone
    simp only [hentries]
    have hrequest := hledger.requests_none.mp hnone
    rw [if_neg, hsound.lined other hrequest]
    · split
      · rename_i hid
        rw [← hid, hsound.lined other hrequest]
        rfl
      · rfl
    · rintro rfl
      obtain ⟨⟨row, hrow, -⟩, -⟩ := hsound.known other follower hfollower
      rw [hrequest] at hrow
      cases hrow
  · -- every active consumer has a flight, and its leader is the promoted one or as before
    intro other c hc hwaits
    simp only [hconsumers, hflights] at hc ⊢
    split at hc
    · rename_i hid
      obtain rfl := Option.some.inj hc
      exact ⟨promoted, { follower with role := .leader }, if_pos hfingerprint, if_pos rfl, rfl,
        iff_of_true rfl hid⟩
    split at hc
    · obtain rfl := Option.some.inj hc
      exact absurd hwaits (leader.finish_inactive _)
    · rename_i hpromoted hid
      by_cases hf : c.requestFingerprint = leader.requestFingerprint
      · obtain ⟨hsame, hleads⟩ := hdomain other c hc hwaits hf
        obtain ⟨hsame', -⟩ := hdomain promoted follower hfollower hfollowing hfingerprint
        refine ⟨promoted, { follower with role := .leader }, if_pos hf, if_pos rfl,
          hsame.trans hsame'.symm, iff_of_false (fun h => hid (hleads.mp h)) hpromoted⟩
      · obtain ⟨leader', lc, hflight', hlc, hrest⟩ := hsound.flying other c hc hwaits
        -- its leader leads another flight
        obtain ⟨lc', hlc', hf', -⟩ := hsound.leader_row hflight'
        obtain rfl := Option.some.inj (hlc.symm.trans hlc')
        refine ⟨leader', lc, by rw [if_neg hf, hflight'], ?_, hrest⟩
        rw [if_neg, if_neg, hlc]
        · rintro rfl
          obtain rfl := Option.some.inj (hleader.symm.trans hlc)
          exact hf hf'.symm
        · rintro rfl
          obtain rfl := Option.some.inj (hfollower.symm.trans hlc)
          exact hf (hf'.symm.trans hfingerprint)
  · -- every flight is led by an active consumer in line
    intro f leader' hflight'
    simp only [hconsumers, hentries, hflights] at hflight' ⊢
    split at hflight'
    · rename_i hf
      obtain rfl : promoted = leader' := (SingleFlightRow.mk.inj (Option.some.inj hflight')).1
      refine ⟨⟨{ follower with role := .leader }, if_pos rfl, hfingerprint.trans hf.symm,
        hfollowing⟩, ?_⟩
      simp [hentry, QueueEntryState.isOpen]
    · rename_i hf
      obtain ⟨⟨c, hc, hcf, hwaits⟩, hopen⟩ := hsound.leads f leader' hflight'
      have hid : leader' ≠ id := by
        rintro rfl
        obtain rfl := Option.some.inj (hleader.symm.trans hc)
        exact hf hcf.symm
      have hpromoted : leader' ≠ promoted := by
        rintro rfl
        obtain rfl := Option.some.inj (hfollower.symm.trans hc)
        exact hf (hcf.symm.trans hfingerprint)
      refine ⟨⟨c, by rw [if_neg hpromoted, if_neg hid, hc], hcf, hwaits⟩, ?_⟩
      rw [if_neg hpromoted, if_neg hid]
      exact hopen
  · -- no waiting follower is in line
    intro other c hc hwaits hfollows
    simp only [hconsumers, hentries] at hc ⊢
    split at hc
    · obtain rfl := Option.some.inj hc
      cases hfollows
    split at hc
    · obtain rfl := Option.some.inj hc
      exact absurd hwaits (leader.finish_inactive _)
    · rename_i hpromoted hid
      rw [if_neg hpromoted, if_neg hid]
      exact hsound.unlined other c hc hwaits hfollows
  · intro other c hc hwaits
    simp only [hconsumers] at hc
    split at hc
    · rename_i hid
      subst hid
      exact (hsound.open_ other follower hfollower hfollowing).imp_left (hledger.open_iff hne).mpr
    split at hc
    · obtain rfl := Option.some.inj hc
      exact absurd hwaits (leader.finish_inactive _)
    · rename_i hpromoted hid
      exact (hsound.open_ other c hc hwaits).imp_left (hledger.open_iff hid).mpr

theorem Admissions.Sound.conclude {fingerprint : Sha256Hex} {leader : Identifier}
    {ending : ConsumerEnding} {closed : Identifier → Prop} {result : LogicalResultRow}
    {ledger' : LedgerTables} {entries' : Table Identifier QueueEntryRow}
    {consumers' : Table Identifier ConsumerRow} {events' : List AdmissionEventRow}
    (hflight : a.flights.get? fingerprint = some ⟨leader, .active⟩)
    (hledger : LedgerTables.Closing closed result a.ledger ledger')
    (hclosed : ∀ id, closed id → a.Waiting fingerprint id)
    (hconsumers : ∀ id, (a.Waiting fingerprint id →
        consumers'.get? id = (a.consumers.get? id).map fun row => row.finish ending) ∧
      (¬ a.Waiting fingerprint id → consumers'.get? id = a.consumers.get? id))
    (hentries : ∀ id, id ≠ leader → entries'.get? id = a.entries.get? id)
    (hunlined : ∀ id, a.entries.get? id = none → entries'.get? id = none)
    (hevents : a.events ⊆ events') :
    Sound repairs.closable
      { ledger := ledger'
        entries := entries'
        flights := a.flights.modify fingerprint fun row => { row with state := .terminal }
        consumers := consumers'
        events := events' } := by
  -- the active consumers of the flight are those that wait in it
  have hwaiting : ∀ id c, a.consumers.get? id = some c → c.state = .active →
      c.requestFingerprint = fingerprint → a.Waiting fingerprint id := by
    intro id c hc hactive hf
    obtain ⟨⟨row, hrow, -⟩, -⟩ := hsound.known id c hc
    exact ⟨c, hc, hf, hactive, by rw [hrow]; exact nofun⟩
  -- after it, who is active is of another flight
  have hold : ∀ id c, consumers'.get? id = some c → c.state = .active →
      a.consumers.get? id = some c ∧ c.requestFingerprint ≠ fingerprint := by
    intro id c hc hwaits
    by_cases hid : a.Waiting fingerprint id
    · rw [(hconsumers id).1 hid] at hc
      obtain ⟨row, -, rfl⟩ := Option.map_eq_some_iff.mp hc
      exact absurd hwaits (row.finish_inactive _)
    · rw [(hconsumers id).2 hid] at hc
      exact ⟨hc, fun hf => hid (hwaiting id c hc hwaits hf)⟩
  -- and the other flights keep their consumers
  have hkept : ∀ id c, a.consumers.get? id = some c → c.requestFingerprint ≠ fingerprint →
      ¬ a.Waiting fingerprint id ∧ consumers'.get? id = some c := by
    intro id c hc hf
    have hid : ¬ a.Waiting fingerprint id := by
      rintro ⟨c', hc', hf', -⟩
      obtain rfl := Option.some.inj (hc.symm.trans hc')
      exact hf hf'
    exact ⟨hid, by rw [(hconsumers id).2 hid, hc]⟩
  -- the flight of the result is terminal
  have hflights : ∀ f leader', (a.flights.modify fingerprint fun row =>
      { row with state := .terminal }).get? f = some ⟨leader', .active⟩ ↔
        f ≠ fingerprint ∧ a.flights.get? f = some ⟨leader', .active⟩ := by
    intro f leader'
    rw [Table.get?_modify]
    by_cases hf : f = fingerprint
    · simp [hf, hflight]
    · simp [hf]
  refine ⟨?_, ?_, ?_, ?_, ?_, ?_⟩
  · -- each consumer that ends has a closed request
    intro id c hc
    by_cases hid : a.Waiting fingerprint id
    · simp only [(hconsumers id).1 hid, Option.map_eq_some_iff] at hc
      obtain ⟨row, hrow, rfl⟩ := hc
      exact hsound.known_closing hledger hevents hrow (row.finish_fingerprint _)
    · exact hsound.known_closing hledger hevents (((hconsumers id).2 hid).symm.trans hc) rfl
  · intro id hnone
    exact hunlined id (hsound.lined id (hledger.requests_none.mp hnone))
  · -- who still waits has the leader it had
    intro id c hc hwaits
    obtain ⟨hc, hf⟩ := hold id c hc hwaits
    obtain ⟨leader', lc, hflight', hlc, hrest⟩ := hsound.flying id c hc hwaits
    obtain ⟨lc', hlc', hf', -⟩ := hsound.leader_row hflight'
    obtain rfl := Option.some.inj (hlc.symm.trans hlc')
    exact ⟨leader', lc, (hflights _ _).mpr ⟨hf, hflight'⟩,
      (hkept leader' lc hlc fun h => hf (hf'.symm.trans h)).2, hrest⟩
  · -- an active flight is another one, and so is its leader
    intro f leader' hflight'
    obtain ⟨hf, hflight'⟩ := (hflights f leader').mp hflight'
    obtain ⟨⟨c, hc, hcf, hwaits⟩, hopen⟩ := hsound.leads f leader' hflight'
    refine ⟨⟨c, (hkept leader' c hc fun h => hf (hcf.symm.trans h)).2, hcf, hwaits⟩, ?_⟩
    have hne : leader' ≠ leader := by
      rintro rfl
      obtain ⟨c', hc', hcf', -⟩ := hsound.leader_row hflight
      obtain rfl := Option.some.inj (hc.symm.trans hc')
      exact hf (hcf.symm.trans hcf')
    show (entries'.get? leader').any _ = true
    rw [hentries leader' hne]
    exact hopen
  · -- nobody follows in the flight any more
    intro id c hc hwaits hfollows
    exact hunlined id (hsound.unlined id c (hold id c hc hwaits).1 hwaits hfollows)
  · -- what is still open was open
    intro id c hc hwaits
    obtain ⟨hc, hf⟩ := hold id c hc hwaits
    have hopen := hkept id c hc hf
    exact (hsound.open_ id c hc hwaits).imp_left
      (hledger.open_iff fun h => hopen.1 (hclosed id h)).mpr

/-- Every step keeps the invariant of the flights. -/
theorem Admissions.Sound.step (hstep : AdmissionStep repairs a a') : a'.Sound repairs.closable := by
  cases hstep with
  | audit hentries hevents => exact hsound.audit hentries hevents
  | submit hfresh => exact hsound.submit hfresh
  | queue entry hrequest hnobody hfresh => exact hsound.queue entry hrequest hnobody hfresh
  | close hledger hexcused => exact hsound.close hledger hexcused
  | lead hrequest hqueued hfingerprint hentry hopen hfresh hactive hrole _ hnobody hevents hjoined =>
    exact hsound.lead hrequest hqueued hfingerprint hentry hopen hfresh hactive hrole hnobody
      hevents hjoined
  | turnAway hrequest _ hfingerprint hfresh hcancelled _ hnobody hflights hterminal hevents hjoined =>
    exact hsound.turnAway hrequest hfingerprint hfresh hcancelled hnobody hflights hterminal hevents
      hjoined
  | follow hrequest hqueued hfingerprint hfresh hunlined _ hrole _ hflight hleader hdomain hevents
      hjoined =>
    exact hsound.follow hrequest hqueued hfingerprint hfresh hunlined hrole hflight hleader hdomain
      hevents hjoined
  | leave hconsumer _ hrole hledger hevents =>
    exact hsound.leave hconsumer hrole hledger hevents
  | promote hleader hactive hrole hfollower hfollowing hwaiting hfingerprint hledger hunlined hentry
      hevents =>
    exact hsound.promote hleader hactive hrole hfollower hfollowing hwaiting hfingerprint hledger
      hunlined hentry hevents
  | conclude hflight _ _ _ _ _ hledger hclosed _ hconsumers hentries hunlined hevents =>
    exact hsound.conclude hflight hledger hclosed hconsumers hentries hunlined hevents

theorem Admissions.Sound.steps (hsteps : Relation.ReflTransGen (AdmissionStep repairs) a a') :
    a'.Sound repairs.closable := by
  induction hsteps with
  | refl => exact hsound
  | tail _ hstep ih => exact ih.step hstep

end

end StockResearch.Requests
