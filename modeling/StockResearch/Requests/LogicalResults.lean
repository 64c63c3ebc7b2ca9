import StockResearch.Requests.FlightSteps

/-!
# Logical results and who shares them

A request gets one result, and what is written is never changed. A completed consumer
shares the result of the leader of its flight, who stays its owner when later flights
reuse the fingerprint.

- `Admissions.Later`: what no step takes back.
- `Admissions.ResultsShared`: every completed consumer has the result of its owner.
-/

namespace StockResearch.Requests

open Relation (ReflTransGen)

/-! ## What no step takes back -/

/-- Results stay, with the state of their requests; consumers that left their flight stay
as they are. -/
structure Admissions.Later (a a' : Admissions) : Prop where
  results : ∀ id result, a.ledger.results.get? id = some result →
    a'.ledger.results.get? id = some result
  requests : ∀ id row, a.ledger.requests.get? id = some row → row.state ≠ .queued →
    a'.ledger.requests.get? id = some row
  consumers : ∀ id c, a.consumers.get? id = some c → c.state ≠ .active →
    a'.consumers.get? id = some c

theorem Admissions.Later.refl (a : Admissions) : a.Later a :=
  ⟨fun _ _ h => h, fun _ _ h _ => h, fun _ _ h _ => h⟩

theorem Admissions.Later.trans {a b c : Admissions} (hab : a.Later b) (hbc : b.Later c) :
    a.Later c where
  results := fun id result h => hbc.results id result (hab.results id result h)
  requests := fun id row h hclosed => hbc.requests id row (hab.requests id row h hclosed) hclosed
  consumers := fun id row h hleft => hbc.consumers id row (hab.consumers id row h hleft) hleft

section

variable {repairs : Repairs} {a a' : Admissions}

/-- A closed request is not closed again. -/
theorem LedgerTables.Closing.closed_kept {closed : Identifier → Prop} {result : LogicalResultRow}
    {ledger ledger' : LedgerTables} (hsound : ledger.Sound)
    (h : LedgerTables.Closing closed result ledger ledger') {id : Identifier}
    {row : LogicalRequestRow} (hrow : ledger.requests.get? id = some row)
    (hclosed : row.state ≠ .queued) : ledger'.requests.get? id = some row := by
  have hout : ¬ closed id := by
    intro hc
    have hopen := (hsound.open_iff hrow).mpr (h.closes id hc).1
    rw [LedgerTables.Open, hrow, Option.map_some, Option.some.injEq] at hopen
    exact hclosed hopen
  rw [(h.keeps id hout).1, hrow]

/-- An active consumer changes; the others do not. -/
theorem AdmissionStep.consumers_kept (h : AdmissionStep repairs a a') {id : Identifier}
    {c : ConsumerRow} (hc : a.consumers.get? id = some c) (hleft : c.state ≠ .active) :
    a'.consumers.get? id = some c := by
  -- the row is there already, so it is not the one that is inserted
  have hinsert : ∀ {other : Identifier} {row : ConsumerRow}, a.consumers.get? other = none →
      (a.consumers.insert other row).get? id = some c := by
    intro other row hfresh
    rw [Table.get?_insert hfresh, if_neg, hc]
    rintro rfl
    rw [hfresh] at hc
    cases hc
  -- the row is not active, so it is not the one that changes
  have hmodify : ∀ {other : Identifier} {row : ConsumerRow},
      a.consumers.get? other = some row → row.state = .active → id ≠ other := by
    rintro other row hrow hactive rfl
    obtain rfl := Option.some.inj (hc.symm.trans hrow)
    exact hleft hactive
  cases h with
  | audit | submit | queue | close => exact hc
  | lead _ _ _ _ _ hfresh => exact hinsert hfresh
  | turnAway _ _ _ hfresh => exact hinsert hfresh
  | follow _ _ _ hfresh => exact hinsert hfresh
  | leave hconsumer hactive =>
    rw [show (Table.modify a.consumers _ _).get? id = _ from Table.get?_modify ..,
      if_neg (hmodify hconsumer hactive), hc]
  | promote hleader hactive _ hfollower hfollowing =>
    rw [show (Table.modify (Table.modify a.consumers _ _) _ _).get? id = _ from
      Table.get?_modify .., if_neg (hmodify hfollower hfollowing), Table.get?_modify,
      if_neg (hmodify hleader hactive), hc]
  | @conclude fingerprint _ _ _ _ _ _ _ consumers' _ _ _ _ _ _ _ _ _ _ hconsumers =>
    have hout : ¬ a.Waiting fingerprint id := by
      rintro ⟨c', hc', -, hactive, -⟩
      obtain rfl := Option.some.inj (hc.symm.trans hc')
      exact hleft hactive
    exact ((hconsumers id).2 hout).trans hc

theorem AdmissionStep.ledger_sound (h : AdmissionStep repairs a a') (hsound : a.ledger.Sound) :
    a'.ledger.Sound := by
  cases h with
  | audit | queue | lead | turnAway | follow => exact hsound
  | submit hfresh hqueued => exact hsound.submit hfresh hqueued
  | close hledger => exact hsound.closing hledger
  | leave _ _ _ hledger => exact hsound.closing hledger
  | promote _ _ _ _ _ _ _ hledger => exact hsound.closing hledger
  | conclude _ _ _ _ _ _ hledger => exact hsound.closing hledger

theorem AdmissionStep.later (h : AdmissionStep repairs a a') (hsound : a.ledger.Sound) :
    a.Later a' := by
  have hconsumers : ∀ id c, a.consumers.get? id = some c → c.state ≠ .active →
      a'.consumers.get? id = some c := fun id c hc hleft => h.consumers_kept hc hleft
  have hclosing : ∀ {closed result}, a.ledger.Closing closed result a'.ledger → a.Later a' :=
    fun hledger => ⟨fun _ _ h => hledger.results_kept h,
      fun _ _ hrow hclosed => hledger.closed_kept hsound hrow hclosed, hconsumers⟩
  cases h with
  | audit | queue | lead | turnAway | follow => exact ⟨fun _ _ h => h, fun _ _ h _ => h, hconsumers⟩
  | submit hfresh _ =>
    refine ⟨fun _ _ h => h, fun id row hrow _ => ?_, hconsumers⟩
    rw [show (Table.insert a.ledger.requests _ _).get? id = _ from Table.get?_insert hfresh _ _,
      if_neg, hrow]
    rintro rfl
    rw [hfresh] at hrow
    cases hrow
  | close hledger => exact hclosing hledger
  | leave _ _ _ hledger => exact hclosing hledger
  | promote _ _ _ _ _ _ _ hledger => exact hclosing hledger
  | conclude _ _ _ _ _ _ hledger => exact hclosing hledger

end

/-! ## Shared results -/

/-- A completed consumer has the result of its owner, a leader of its fingerprint that is
completed with itself as owner; a cancelled one has a result of its own. -/
structure Admissions.ResultsShared (a : Admissions) : Prop where
  pending : ∀ id c, a.consumers.get? id = some c → c.state ≠ .completed → c.resultOwnerId = none
  cancelled : ∀ id c, a.consumers.get? id = some c → c.state = .cancelled →
    a.ledger.results.get? id ≠ none
  completed : ∀ id c, a.consumers.get? id = some c → c.state = .completed →
    ∃ owner o result, c.resultOwnerId = some owner ∧ a.consumers.get? owner = some o ∧
      o.requestFingerprint = c.requestFingerprint ∧ o.role = .leader ∧ o.state = .completed ∧
      o.resultOwnerId = some owner ∧ a.ledger.results.get? id = some result ∧
      a.ledger.results.get? owner = some result

section

variable {repairs : Repairs} {a a' : Admissions}

/-- A step that completes nobody keeps the sharing of results. -/
theorem Admissions.ResultsShared.keep (hshared : a.ResultsShared) (hlater : a.Later a')
    (hnew : ∀ id c, a'.consumers.get? id = some c → a.consumers.get? id = some c ∨
      c.resultOwnerId = none ∧ c.state ≠ .completed ∧
        (c.state = .cancelled → a'.ledger.results.get? id ≠ none)) : a'.ResultsShared where
  pending := by
    intro id c hc hstate
    rcases hnew id c hc with hold | ⟨howner, -⟩
    · exact hshared.pending id c hold hstate
    · exact howner
  cancelled := by
    intro id c hc hstate
    rcases hnew id c hc with hold | ⟨-, -, hresult⟩
    · obtain ⟨result, hresult⟩ :=
        Option.ne_none_iff_exists'.mp (hshared.cancelled id c hold hstate)
      rw [hlater.results id result hresult]
      exact nofun
    · exact hresult hstate
  completed := by
    intro id c hc hstate
    rcases hnew id c hc with hold | ⟨-, hleft, -⟩
    · obtain ⟨owner, o, result, howner, ho, hf, hrole, hcompleted, hself, hresult, hresult'⟩ :=
        hshared.completed id c hold hstate
      exact ⟨owner, o, result, howner, hlater.consumers owner o ho (by rw [hcompleted]; exact nofun),
        hf, hrole, hcompleted, hself, hlater.results id result hresult,
        hlater.results owner result hresult'⟩
    · exact absurd hstate hleft

theorem AdmissionStep.shared {closable : Identifier → Prop} (h : AdmissionStep repairs a a')
    (hsound : a.Sound closable) (hledger : a.ledger.Sound) (hshared : a.ResultsShared) :
    a'.ResultsShared := by
  have hlater := h.later hledger
  -- the one new row of an insertion, and the row of a cancelled consumer
  have hinsert : ∀ {other : Identifier} {row : ConsumerRow}, a.consumers.get? other = none →
      row.resultOwnerId = none → row.state ≠ .completed →
      (row.state = .cancelled → a.ledger.results.get? other ≠ none) →
      ∀ id c, (a.consumers.insert other row).get? id = some c → a.consumers.get? id = some c ∨
        c.resultOwnerId = none ∧ c.state ≠ .completed ∧
          (c.state = .cancelled → a.ledger.results.get? id ≠ none) := by
    intro other row hfresh howner hleft hresult id c hc
    rw [Table.get?_insert hfresh] at hc
    split at hc
    · rename_i hid
      obtain rfl := Option.some.inj hc
      subst hid
      exact .inr ⟨howner, hleft, hresult⟩
    · exact .inl hc
  have hcancel : ∀ {id : Identifier} {row : ConsumerRow}, a.consumers.get? id = some row →
      row.state = .active → a'.ledger.results.get? id ≠ none →
      (row.finish .cancelled).resultOwnerId = none ∧ (row.finish .cancelled).state ≠ .completed ∧
        ((row.finish .cancelled).state = .cancelled → a'.ledger.results.get? id ≠ none) :=
    fun {id row} hrow hactive hresult => ⟨hshared.pending id row hrow (by rw [hactive]; decide),
      by rintro ⟨⟩, fun _ => hresult⟩
  have hclosed : ∀ {ledger' : LedgerTables} {id : Identifier} {result : LogicalResultRow},
      a.ledger.Closing (· = id) result ledger' → ledger'.results.get? id ≠ none :=
    fun hledger => by rw [(hledger.closes _ rfl).2.1]; exact Option.some_ne_none _
  cases h with
  | audit | submit | queue | close => exact hshared.keep hlater fun _ _ hc => .inl hc
  | lead _ _ _ _ _ hfresh hactive _ howner =>
    refine hshared.keep hlater (hinsert hfresh howner (by rw [hactive]; decide) fun h => ?_)
    rw [hactive] at h
    cases h
  | turnAway _ hresult _ hfresh hcancelled howner =>
    exact hshared.keep hlater (hinsert hfresh howner (by rw [hcancelled]; decide)
      fun _ => hresult)
  | follow _ _ _ hfresh _ hactive _ howner =>
    refine hshared.keep hlater (hinsert hfresh howner (by rw [hactive]; decide) fun h => ?_)
    rw [hactive] at h
    cases h
  | leave hconsumer hactive _ hledger =>
    refine hshared.keep hlater fun id c hc => ?_
    rw [show (Table.modify a.consumers _ _).get? id = _ from Table.get?_modify ..] at hc
    split at hc
    · rename_i hid
      subst hid
      rw [hconsumer] at hc
      obtain rfl := Option.some.inj hc
      exact .inr (hcancel hconsumer hactive (hclosed hledger))
    · exact .inl hc
  | promote hleader hactive hrole hfollower hfollowing hwaiting _ hledger =>
    refine hshared.keep hlater fun id c hc => ?_
    rw [show (Table.modify (Table.modify a.consumers _ _) _ _).get? id = _ from
      Table.get?_modify .., Table.get?_modify] at hc
    split at hc
    · rename_i hid
      subst hid
      split at hc
      · rename_i hid
        subst hid
        obtain rfl := Option.some.inj (hleader.symm.trans hfollower)
        rw [hrole] at hwaiting
        cases hwaiting
      · rw [hfollower] at hc
        obtain rfl := Option.some.inj hc
        have howner := hshared.pending _ _ hfollower (by rw [hfollowing]; decide)
        refine .inr ⟨howner, fun h => ?_, fun h => ?_⟩
        · exact absurd (hfollowing.symm.trans h) (by decide)
        · exact absurd (hfollowing.symm.trans h) (by decide)
    split at hc
    · rename_i hid
      subst hid
      rw [hleader] at hc
      obtain rfl := Option.some.inj hc
      exact .inr (hcancel hleader hactive (hclosed hledger))
    · exact .inl hc
  | @conclude fingerprint leader leaderRow ending closed result ledger' _ consumers' _ hflight hleader
      hfingerprint hactive hrole hending hledger hclosed' hresult hconsumers hentries hunlined hevents =>
    have hrow : ∀ id c, consumers'.get? id = some c → a.consumers.get? id = some c ∨
        ∃ row, a.consumers.get? id = some row ∧ row.requestFingerprint = fingerprint ∧
          row.state = .active ∧ a.Waiting fingerprint id ∧ c = row.finish ending := by
      intro id c hc
      by_cases hid : a.Waiting fingerprint id
      · obtain ⟨row, hrow, hf, hwaits, -⟩ := show ∃ _, _ from hid
        rw [(hconsumers id).1 hid, hrow] at hc
        exact .inr ⟨row, hrow, hf, hwaits, hid, (Option.some.inj hc).symm⟩
      · exact .inl (((hconsumers id).2 hid).symm.trans hc)
    rcases hending with rfl | rfl
    · refine hshared.keep hlater fun id c hc => ?_
      rcases hrow id c hc with hold | ⟨row, hold, -, hwaits, hid, rfl⟩
      · exact .inl hold
      · refine .inr (hcancel hold hwaits ?_)
        rw [show ledger'.results.get? id = _ from hresult id hid]
        exact Option.some_ne_none _
    · -- the leader itself is among the consumers that are completed
      have hleads : a.Waiting fingerprint leader := by
        obtain ⟨⟨row, hrow, -⟩, -⟩ := hsound.known leader leaderRow hleader
        exact ⟨leaderRow, hleader, hfingerprint, hactive, by rw [hrow]; exact Option.some_ne_none _⟩
      have hself : consumers'.get? leader = some (leaderRow.finish (.completed leader)) := by
        rw [(hconsumers leader).1 hleads, hleader]
        rfl
      refine ⟨?_, ?_, ?_⟩
      · intro id c hc hstate
        rcases hrow id c hc with hold | ⟨row, -, -, -, -, rfl⟩
        · exact hshared.pending id c hold hstate
        · exact absurd rfl hstate
      · intro id c hc hstate
        rcases hrow id c hc with hold | ⟨row, -, -, -, -, rfl⟩
        · obtain ⟨old, hold⟩ := Option.ne_none_iff_exists'.mp (hshared.cancelled id c hold hstate)
          rw [hlater.results id old hold]
          exact Option.some_ne_none _
        · cases hstate
      · intro id c hc hstate
        rcases hrow id c hc with hold | ⟨row, -, hf, -, hid, rfl⟩
        · obtain ⟨owner, o, old, howner, ho, hf, hrole', hcompleted, hself', hold', hold''⟩ :=
            hshared.completed id c hold hstate
          exact ⟨owner, o, old, howner,
            hlater.consumers owner o ho (by rw [hcompleted]; decide), hf, hrole', hcompleted,
            hself', hlater.results id old hold', hlater.results owner old hold''⟩
        · exact ⟨leader, _, result, rfl, hself, hfingerprint.trans hf.symm, hrole, rfl, rfl,
            hresult id hid, hresult leader hleads⟩

end

/-! ## Runs -/

/-- What holds of the shared tables of every database. -/
structure Admissions.Answered (closable : Identifier → Prop) (a : Admissions) : Prop where
  ledger : a.ledger.Sound
  sound : a.Sound closable
  shared : a.ResultsShared

theorem Database.initial_answered (closable : Identifier → Prop) :
    Database.initial.admissions.Answered closable where
  ledger := .empty
  sound := Database.initial_sound closable
  shared := by
    constructor
    · intro _ _ h
      cases h
    · intro _ _ h
      cases h
    · intro _ _ h
      cases h

theorem admissionSteps_answered {repairs : Repairs} {a a' : Admissions}
    (h : a.Answered repairs.closable) (hsteps : ReflTransGen (AdmissionStep repairs) a a') :
    a'.Answered repairs.closable ∧ a.Later a' := by
  induction hsteps with
  | refl => exact ⟨h, .refl a⟩
  | tail _ hstep ih =>
    obtain ⟨hanswered, hlater⟩ := ih
    exact ⟨⟨hstep.ledger_sound hanswered.ledger, hanswered.sound.step hstep,
      hstep.shared hanswered.sound hanswered.ledger hanswered.shared⟩,
      hlater.trans (hstep.later hanswered.ledger)⟩

/-- Everything may be closed and requeued. -/
def Repairs.all : Repairs := ⟨fun _ => True, fun _ => True⟩

theorem Operation.licensed_all (op : Operation) (db : Database) : op.Licensed .all db := by
  cases op with
  | recoverExpiredLease => exact ⟨fun _ _ => trivial, fun _ _ => trivial⟩
  | _ => trivial

theorem Operation.answered {op : Operation} {db : Database} (hqueued : op.SubmitsQueued)
    (h : db.admissions.Answered fun _ => True) :
    ((op.next db).admissions.Answered fun _ => True) ∧
      db.admissions.Later (op.next db).admissions :=
  admissionSteps_answered h
    ((op.transition db).admission_steps hqueued (op.licensed_all db) h.sound)

theorem reachable_answered {db : Database}
    (hrun : Reachable (fun op _ => op.SubmitsQueued) db) :
    db.admissions.Answered fun _ => True :=
  Reaches.invariant (fun db => db.admissions.Answered fun _ => True)
    (fun _ _ hqueued h => (Operation.answered hqueued h).1) (Database.initial_answered _) hrun

theorem reaches_later {db db' : Database} (h : db.admissions.Answered fun _ => True)
    (hrun : Reaches Operation.next (fun op _ => op.SubmitsQueued) db db') :
    db.admissions.Later db'.admissions :=
  Reaches.related (fun db => db.admissions.Answered fun _ => True)
    (fun db db' => db.admissions.Later db'.admissions) (fun _ => .refl _)
    (fun _ _ _ => Admissions.Later.trans) (fun _ _ hqueued h => (Operation.answered hqueued h).1)
    (fun _ _ hqueued h => (Operation.answered hqueued h).2) h hrun

/-- A completed consumer reads the committed responses of its owner. -/
theorem committedRawReferences_owner {db : Database} (hshared : db.admissions.ResultsShared)
    {id owner : Identifier} {c : ConsumerRow} (hc : db.flight.consumers.get? id = some c)
    (hcompleted : c.state = .completed) (howner : c.resultOwnerId = some owner) :
    committedRawReferences db id = committedRawReferences db owner := by
  obtain ⟨owner', o, -, howner', ho, -, -, hstate, hself, -, -⟩ :=
    hshared.completed id c hc hcompleted
  obtain rfl := Option.some.inj (howner.symm.trans howner')
  have hread : ∀ {other : Identifier} {row : ConsumerRow},
      db.flight.consumers.get? other = some row → row.state = .completed →
      row.resultOwnerId = some owner →
        (((db.flight.consumers.get? other).filter fun row => row.state = .completed).bind
          (·.resultOwnerId)).getD other = owner := by
    intro other row hrow hstate hself
    rw [hrow, Option.filter_some, if_pos (decide_eq_true hstate), Option.bind_some, hself]
    rfl
  rw [committedRawReferences, committedRawReferences, hread hc hcompleted howner,
    hread ho hstate hself]

/-! ## The theorem -/

/-- **One immutable result per request.** In every reachable database a request has a
result exactly when it is not queued, and its state is the one of the outcome. Every
completed consumer has the very result of its owner, a completed leader of the same
fingerprint that owns itself; a cancelled consumer has its own result and no owner. In
every later database results, closed requests and consumers that left their flight are
the same, and a completed consumer reads the committed responses of its owner. -/
theorem one_logical_result {db : Database}
    (hrun : Reachable (fun op _ => op.SubmitsQueued) db) :
    (∀ id row, db.ledger.requests.get? id = some row →
      ((db.ledger.results.get? id).isSome ↔ row.state ≠ .queued) ∧
      ∀ result, db.ledger.results.get? id = some result →
        row.state = resultState result.outcome) ∧
    (∀ id c, db.flight.consumers.get? id = some c →
      (c.state = .completed → ∃ owner o result, c.resultOwnerId = some owner ∧
        db.flight.consumers.get? owner = some o ∧
        o.requestFingerprint = c.requestFingerprint ∧ o.role = .leader ∧ o.state = .completed ∧
        o.resultOwnerId = some owner ∧ db.ledger.results.get? id = some result ∧
        db.ledger.results.get? owner = some result) ∧
      (c.state = .cancelled → c.resultOwnerId = none ∧ db.ledger.results.get? id ≠ none)) ∧
    ∀ db', Reaches Operation.next (fun op _ => op.SubmitsQueued) db db' →
      (∀ id result, db.ledger.results.get? id = some result →
        db'.ledger.results.get? id = some result ∧
        db'.ledger.requests.get? id = db.ledger.requests.get? id) ∧
      (∀ id c, db.flight.consumers.get? id = some c → c.state ≠ .active →
        db'.flight.consumers.get? id = some c) ∧
      ∀ id c owner, db.flight.consumers.get? id = some c → c.state = .completed →
        c.resultOwnerId = some owner →
          committedRawReferences db' id = committedRawReferences db' owner := by
  have hanswered := reachable_answered hrun
  have hledger : db.ledger.Sound := hanswered.ledger
  -- a request with a result is closed, in the state of the outcome
  have hstate : ∀ {id row result}, db.ledger.requests.get? id = some row →
      db.ledger.results.get? id = some result →
        row.state ≠ .queued ∧ row.state = resultState result.outcome := by
    intro id row result hrow hresult
    have h := hledger.answered id row hrow
    rw [hresult, Option.map_some] at h
    split at h
    · cases h
    · rename_i hclosed
      exact ⟨hclosed, (Option.some.inj h).symm⟩
  refine ⟨?_, ?_, ?_⟩
  · -- closed exactly when it has a result
    intro id row hrow
    refine ⟨⟨fun hsome => ?_, fun hclosed => ?_⟩, fun result hresult => (hstate hrow hresult).2⟩
    · obtain ⟨result, hresult⟩ := Option.isSome_iff_exists.mp hsome
      exact (hstate hrow hresult).1
    · have h := hledger.answered id row hrow
      rw [if_neg hclosed] at h
      obtain ⟨result, hresult, -⟩ := Option.map_eq_some_iff.mp h
      rw [hresult]
      rfl
  · -- a consumer that is done has an owner, a cancelled one has none
    intro id c hc
    refine ⟨hanswered.shared.completed id c hc, fun hcancelled => ?_⟩
    exact ⟨hanswered.shared.pending id c hc (by rw [hcancelled]; exact nofun),
      hanswered.shared.cancelled id c hc hcancelled⟩
  · -- nothing of this changes later
    intro db' hlater
    have hkept := reaches_later hanswered hlater
    have hanswered' := reachable_answered (hrun.trans hlater)
    refine ⟨?_, hkept.consumers, ?_⟩
    · intro id result hresult
      refine ⟨hkept.results id result hresult, ?_⟩
      cases hrow : db.ledger.requests.get? id with
      | none =>
        rw [hledger.submitted id hrow] at hresult
        cases hresult
      | some row => exact hkept.requests id row hrow (hstate hrow hresult).1
    · intro id c owner hc hcompleted howner
      have hc' := hkept.consumers id c hc (by rw [hcompleted]; exact nofun)
      exact committedRawReferences_owner hanswered'.shared hc' hcompleted howner

namespace Sample

/-- A second request of the same fingerprint. -/
def followingRequest : ProductionLogicalRequest :=
  { request with logicalRequestId := ⟨"request-2", by decide⟩ }

def failure : ProductionLogicalResult where
  logicalRequestId := request.logicalRequestId
  outcome := .failed
  completedAt := "2026-01-01T00:00:04+00:00"
  errorCode := some domain
  valid := by decide

/-- The second request follows the first, and both fail. -/
def sharedFailure : List Operation :=
  [.acquireLease owner (at_ 0) leasePolicy,
    .admitLogicalRequest request domain ⟨false⟩ lease (at_ 1) queuePolicy,
    .admitLogicalRequest followingRequest domain ⟨false⟩ lease (at_ 2) queuePolicy,
    .finalizeLogicalRequest failure lease (at_ 4)]

/-- The row of the follower after that. -/
def followed : ConsumerRow :=
  { joinedConsumer followingRequest .follower ⟨false⟩ domain (at_ 2) with
    state := .completed, resultOwnerId := some request.logicalRequestId }

end Sample

/-- The follower of the sample run shares the failure of its leader. -/
theorem one_logical_result_sample :
    let db := runAll Operation.next Sample.sharedFailure .initial
    ∃ owner o result, Sample.followed.resultOwnerId = some owner ∧
      db.flight.consumers.get? owner = some o ∧
      o.requestFingerprint = Sample.followed.requestFingerprint ∧ o.role = .leader ∧
      o.state = .completed ∧ o.resultOwnerId = some owner ∧
      db.ledger.results.get? Sample.followingRequest.logicalRequestId = some result ∧
      db.ledger.results.get? owner = some result :=
  ((one_logical_result (Reaches.runAll (by decide +kernel))).2.1
    Sample.followingRequest.logicalRequestId Sample.followed (by decide +kernel)).1 rfl

end StockResearch.Requests
