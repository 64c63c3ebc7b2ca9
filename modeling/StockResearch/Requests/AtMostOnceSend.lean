import StockResearch.Lib.History
import StockResearch.Requests.Coordinators
import StockResearch.Requests.ExchangeClosed

/-!
# No physical attempt is sent twice

However many coordinators work on one database, and whatever else happens to it, the
transport callback is invoked at most once for an attempt. The durable half is the
transition from `reserved` to `started`, which an attempt makes once in the life of the
database; the other half is that an exchange needs its own transition before it sends.

- `Event.Proper`: what has happened before an invocation.
- `System.Sound`: the invariant of the system.
-/

namespace StockResearch.Requests

/-! ## Labels of events -/

/-- The attempt whose start an event committed. -/
def Event.startedAttempt : Event → Option Identifier
  | .called _ (.markPhysicalAttemptStarted attemptId lease now) before =>
    match (markPhysicalAttemptStarted attemptId lease now before).1 with
    | .ok _ => some attemptId
    | .error _ => none
  | _ => none

/-- The exchange a permit was issued to. -/
def Event.issuer : Event → Option Nat
  | .issued exchange _ => some exchange
  | _ => none

/-- The identity of the permit that was issued. -/
def Event.issuedPermit : Event → Option (Nat × Nat)
  | .issued _ permit => some (permit.authorityToken, permit.serial)
  | _ => none

/-- The exchange that invoked its callback. -/
def Event.invoker : Event → Option Nat
  | .invoked exchange _ _ _ => some exchange
  | _ => none

/-- The attempt for which a callback was invoked. -/
def Event.sentAttempt : Event → Option Identifier
  | .invoked _ _ request _ => some request.physicalAttemptId
  | _ => none

/-- The identity of the permit that a send consumed. -/
def Event.consumedPermit : Event → Option (Nat × Nat)
  | .invoked _ permit _ _ => some (permit.authorityToken, permit.serial)
  | _ => none

/-- The exchange an event belongs to. -/
def Event.exchange : Event → Option Nat
  | .called exchange _ _ => exchange
  | .issued exchange _ => some exchange
  | .invoked exchange _ _ _ => some exchange

/-- A committed start found its attempt reserved and left it started. -/
theorem Event.startedAttempt_eq_some {exchange : Option Nat} {op : Operation} {before : Database}
    {attemptId : Identifier}
    (h : (Event.called exchange op before).startedAttempt = some attemptId) :
    ∃ row, before.attempts.get? attemptId = some row ∧ row.state = .reserved ∧
      (op.next before).attempts.get? attemptId = some { row with state := .started } := by
  cases op with
  | markPhysicalAttemptStarted attemptId' lease now =>
    rcases hrun : markPhysicalAttemptStarted attemptId' lease now before with ⟨result, db⟩
    cases result with
    | error x =>
      simp only [startedAttempt, hrun] at h
      cases h
    | ok u =>
      simp only [startedAttempt, hrun] at h
      obtain rfl := Option.some.inj h
      obtain ⟨-, row, -, hrow, -, hreserved, rfl⟩ := markPhysicalAttemptStarted_eq_ok hrun
      refine ⟨row, hrow, hreserved, ?_⟩
      rw [Operation.next, Operation.run, hrun]
      simp [hrow]
  | _ => cases h

/-! ## What precedes an invocation -/

/-- The start of the attempt of a call, committed on `starting`: the fence held, and the
reserved attempt of the current generation became started. -/
structure StartCommitted (call : ExchangeCall) (starting : Database) : Prop where
  committed : (call.start.run starting).1 = .ok ()
  transition : ∃ fence attempt, FenceHolds starting call.lease call.startedAt fence ∧
    starting.attempts.get? call.attempt.physicalAttemptId = some attempt ∧
    attempt.state = .reserved ∧ attempt.leaseGeneration = fence.generation ∧
    (call.start.next starting).attempts.get? call.attempt.physicalAttemptId =
      some { attempt with state := .started }

theorem startCommitted_of_ok {call : ExchangeCall} {starting : Database}
    (hok : (call.start.run starting).1 = .ok ()) : StartCommitted call starting := by
  rcases hrun : call.start.run starting with ⟨result, db⟩
  obtain rfl : result = .ok () := (congrArg Prod.fst hrun).symm.trans hok
  obtain ⟨fence, row, hfence, hrow, hgeneration, hreserved, rfl⟩ :=
    markPhysicalAttemptStarted_eq_ok hrun
  refine ⟨hok, fence, row, hfence, hrow, hreserved, hgeneration.trans hfence.generation.symm, ?_⟩
  rw [Operation.next, hrun]
  simp [hrow]

/-- An invocation is proper: the same exchange call acquired a reservation of the
attempt, which still exists, then committed the start of the attempt, then was issued
the permit; and the permit is one for this attempt and this request. -/
def Event.Proper (before : List Event) : Event → Prop
  | .invoked id permit request database =>
    permit.physicalAttemptId = request.physicalAttemptId ∧
      permit.logicalRequestId = request.logicalRequestId ∧
      ∃ call reservation acquiring starting held,
        call.request = request ∧ call.Matches ∧
          (acquireGates call.reservationId call.attempt call.keys call.gatePolicy call.lease
            call.startedAt acquiring).1 = .ok reservation ∧
          StartCommitted call starting ∧
          [.called (some id) call.acquisition acquiring, .called (some id) call.start starting,
            .issued id permit].Sublist before ∧
          database.gates.reservations.get? reservation.reservationId = some held ∧
          held.physicalAttemptId = request.physicalAttemptId ∧
          held.logicalRequestId = request.logicalRequestId
  | _ => True

/-- The trail of an exchange that has acquired its gates, followed by `later`. -/
structure AcquiredBy (s : System) (id : Nat) (call : ExchangeCall) (reservation : GateReservation)
    (later : List Event) : Prop where
  same : call.Matches
  attempt : reservation.physicalAttemptId = call.attempt.physicalAttemptId
  request : reservation.logicalRequestId = call.attempt.logicalRequestId
  trail : ∃ acquiring, (acquireGates call.reservationId call.attempt call.keys call.gatePolicy
      call.lease call.startedAt acquiring).1 = .ok reservation ∧
    (Event.called (some id) call.acquisition acquiring :: later).Sublist s.history
  held : ∃ row, s.database.gates.reservations.get? reservation.reservationId = some row ∧
    row.physicalAttemptId = call.attempt.physicalAttemptId ∧
    row.logicalRequestId = call.attempt.logicalRequestId

/-- What is known of an exchange at each of its stages. -/
inductive StageSound (s : System) (id : Nat) (call : ExchangeCall) : ExchangeStage → Prop
  | entered (hissued : ∀ event ∈ s.history, event.issuer ≠ some id)
      (hinvoked : ∀ event ∈ s.history, event.invoker ≠ some id) : StageSound s id call .entered
  | acquired {reservation : GateReservation} (htrail : AcquiredBy s id call reservation [])
      (hissued : ∀ event ∈ s.history, event.issuer ≠ some id)
      (hinvoked : ∀ event ∈ s.history, event.invoker ≠ some id) :
    StageSound s id call (.acquired reservation)
  | started {reservation : GateReservation} {starting : Database}
      (hstarted : StartCommitted call starting)
      (htrail : AcquiredBy s id call reservation [.called (some id) call.start starting])
      (hissued : ∀ event ∈ s.history, event.issuer ≠ some id)
      (hinvoked : ∀ event ∈ s.history, event.invoker ≠ some id) :
    StageSound s id call (.started reservation)
  | permitted {reservation : GateReservation} {permit : TransportPermit} {starting : Database}
      (hattempt : permit.physicalAttemptId = call.attempt.physicalAttemptId)
      (hrequest : permit.logicalRequestId = call.attempt.logicalRequestId)
      (hstarted : StartCommitted call starting)
      (htrail : AcquiredBy s id call reservation
        [.called (some id) call.start starting, .issued id permit])
      (hinvoked : ∀ event ∈ s.history, event.invoker ≠ some id) :
    StageSound s id call (.permitted reservation permit)
  | answered (reservation : GateReservation) (disposition : Disposition) :
    StageSound s id call (.answered reservation disposition)
  | ended : StageSound s id call .ended

/-- Nothing need be known of an exchange that is settled: it sends no more. -/
theorem StageSound.settled {s : System} {id : Nat} {call : ExchangeCall}
    (reservation : GateReservation) (disposition : Option Disposition) :
    StageSound s id call (.settled reservation disposition) := by
  cases disposition with
  | none => exact .ended
  | some disposition => exact .answered reservation disposition

/-- What the history and the permit tables always satisfy. -/
structure System.Recorded (s : System) : Prop where
  startedOnce : OncePer Event.startedAttempt s.history
  startedLeft : ∀ event ∈ s.history, ∀ attemptId, event.startedAttempt = some attemptId →
    ∃ row, s.database.attempts.get? attemptId = some row ∧ row.state ≠ .reserved
  tokens : ∀ c authority, s.coordinators.get? c = some authority → authority.token = c
  issuedOnce : OncePer Event.issuedPermit s.history
  serials : ∀ event ∈ s.history, ∀ token serial, event.issuedPermit = some (token, serial) →
    ∃ authority, s.coordinators.get? token = some authority ∧ serial < authority.issued
  invokedOnce : OncePer Event.invoker s.history
  known : ∀ event ∈ s.history, ∀ id, event.exchange = some id → s.exchanges.get? id ≠ none
  proper : Supported Event.Proper s.history

/-- The invariant of the system. -/
structure System.Sound (s : System) : Prop extends s.Recorded where
  stages : ∀ id e, s.exchanges.get? id = some e → StageSound s id e.call e.stage

theorem System.sound_initial : System.initial.Sound where
  startedOnce := oncePer_nil
  startedLeft _ he := (List.not_mem_nil he).elim
  tokens _ _ h := by cases h
  issuedOnce := oncePer_nil
  serials _ he := (List.not_mem_nil he).elim
  invokedOnce := oncePer_nil
  known _ he := (List.not_mem_nil he).elim
  proper := supported_nil
  stages id e h := by
    rw [show System.initial.exchanges.get? id = none from rfl] at h
    cases h

/-! ## Other exchanges are not disturbed -/

/-- From `s` to `s'`, nothing was issued to or invoked by the exchange `id`. -/
structure Undisturbed (s s' : System) (id : Nat) : Prop where
  gates : ReservationsLater s.database.gates s'.database.gates
  history : s.history.Sublist s'.history
  issued : ∀ event ∈ s'.history, event.issuer = some id → event ∈ s.history
  invoked : ∀ event ∈ s'.history, event.invoker = some id → event ∈ s.history

section

variable {s s' : System} {id : Nat} {call : ExchangeCall} {reservation : GateReservation}
  {later : List Event}

theorem undisturbed_concat {event : Event}
    (hgates : ReservationsLater s.database.gates s'.database.gates)
    (hhistory : s'.history = s.history ++ [event]) (hissued : event.issuer ≠ some id)
    (hinvoked : event.invoker ≠ some id) : Undisturbed s s' id := by
  refine ⟨hgates, by rw [hhistory]; exact List.sublist_append_left _ _, fun e he h => ?_,
    fun e he h => ?_⟩
  all_goals
    rw [hhistory, List.mem_append, List.mem_singleton] at he
    refine he.resolve_right ?_
    rintro rfl
  · exact hissued h
  · exact hinvoked h

theorem undisturbed_same (hgates : s'.database.gates = s.database.gates)
    (hhistory : s'.history = s.history) : Undisturbed s s' id :=
  ⟨hgates ▸ .refl _, by rw [hhistory], fun _ he _ => hhistory ▸ he, fun _ he _ => hhistory ▸ he⟩

theorem AcquiredBy.mono (h : AcquiredBy s id call reservation later) (hs : Undisturbed s s' id) :
    AcquiredBy s' id call reservation later := by
  obtain ⟨acquiring, hok, htrail⟩ := h.trail
  obtain ⟨row, hrow, hattempt, hrequest⟩ := h.held
  obtain ⟨row', hrow', hsame, hsame', -⟩ := hs.gates _ _ hrow
  exact ⟨h.same, h.attempt, h.request, ⟨acquiring, hok, htrail.trans hs.history⟩, row', hrow',
    hsame.trans hattempt, hsame'.trans hrequest⟩

/-- An event of the exchange lengthens its trail. -/
theorem AcquiredBy.extend {event : Event} (h : AcquiredBy s id call reservation later)
    (hgates : ReservationsLater s.database.gates s'.database.gates)
    (hhistory : s'.history = s.history ++ [event]) :
    AcquiredBy s' id call reservation (later ++ [event]) := by
  obtain ⟨acquiring, hok, htrail⟩ := h.trail
  obtain ⟨row, hrow, hattempt, hrequest⟩ := h.held
  obtain ⟨row', hrow', hsame, hsame', -⟩ := hgates _ _ hrow
  refine ⟨h.same, h.attempt, h.request, ⟨acquiring, hok, ?_⟩, row', hrow', hsame.trans hattempt,
    hsame'.trans hrequest⟩
  rw [hhistory, ← List.cons_append]
  exact htrail.append (List.Sublist.refl _)

theorem StageSound.mono {stage : ExchangeStage} (h : StageSound s id call stage)
    (hs : Undisturbed s s' id) : StageSound s' id call stage := by
  have hissued : (∀ event ∈ s.history, event.issuer ≠ some id) →
      ∀ event ∈ s'.history, event.issuer ≠ some id :=
    fun hnone event he h => hnone event (hs.issued event he h) h
  have hinvoked : (∀ event ∈ s.history, event.invoker ≠ some id) →
      ∀ event ∈ s'.history, event.invoker ≠ some id :=
    fun hnone event he h => hnone event (hs.invoked event he h) h
  cases h with
  | entered h₁ h₂ => exact .entered (hissued h₁) (hinvoked h₂)
  | acquired htrail h₁ h₂ => exact .acquired (htrail.mono hs) (hissued h₁) (hinvoked h₂)
  | started hstarted htrail h₁ h₂ =>
    exact .started hstarted (htrail.mono hs) (hissued h₁) (hinvoked h₂)
  | permitted hattempt hrequest hstarted htrail h₂ =>
    exact .permitted hattempt hrequest hstarted (htrail.mono hs) (hinvoked h₂)
  | answered reservation disposition => exact .answered reservation disposition
  | ended => exact .ended

/-- After one exchange went on, the others are where they were. -/
theorem stages_goto {e : Exchange} {stage : ExchangeStage} (hsound : s.Sound)
    (hexchange : s.exchanges.get? id = some e)
    (hothers : ∀ id', id' ≠ id → Undisturbed s s' id')
    (hexchanges : s'.exchanges = s.exchanges.modify id fun e => e.at_ stage)
    (hstage : StageSound s' id e.call stage) :
    ∀ id' e', s'.exchanges.get? id' = some e' → StageSound s' id' e'.call e'.stage := by
  intro id' e' he'
  rw [hexchanges, Table.get?_modify] at he'
  by_cases hid : id' = id
  · subst hid
    rw [if_pos rfl, hexchange] at he'
    obtain rfl := Option.some.inj he'
    exact hstage
  · rw [if_neg hid] at he'
    exact (hsound.stages id' e' he').mono (hothers id' hid)

/-! ## The history -/

/-- A repository call keeps what is recorded: it commits the start of a reserved attempt
only, and no attempt that was started before is reserved. -/
theorem System.Recorded.performed (h : s.Recorded) (exchange : Option Nat) (op : Operation)
    (hknown : ∀ id, exchange = some id → s.exchanges.get? id ≠ none) :
    (s.perform exchange op).Recorded where
  -- an attempt started now was reserved, so it was not started before
  startedOnce := by
    cases hlabel : (Event.called exchange op s.database).startedAttempt with
    | none => exact h.startedOnce.skip hlabel
    | some attemptId =>
      refine h.startedOnce.concat hlabel fun event he hevent => ?_
      obtain ⟨row, hrow, hreserved, -⟩ := Event.startedAttempt_eq_some hlabel
      obtain ⟨row', hrow', hleft⟩ := h.startedLeft event he attemptId hevent
      rw [hrow] at hrow'
      exact hleft (Option.some.inj hrow' ▸ hreserved)
  -- an attempt that was started has left the state reserved, now and later
  startedLeft := by
    intro event he attemptId hevent
    rw [System.perform_history, List.mem_append, List.mem_singleton] at he
    rcases he with he | rfl
    · obtain ⟨row, hrow, hleft⟩ := h.startedLeft event he attemptId hevent
      obtain ⟨row', hrow', hleft', -⟩ := op.attempts_later s.database attemptId row hrow hleft
      exact ⟨row', hrow', hleft'⟩
    · obtain ⟨row, -, -, hrow⟩ := Event.startedAttempt_eq_some hevent
      exact ⟨_, hrow, nofun⟩
  tokens := h.tokens
  issuedOnce := h.issuedOnce.skip rfl
  serials := by
    intro event he token serial hevent
    rw [System.perform_history, List.mem_append, List.mem_singleton] at he
    rcases he with he | rfl
    · exact h.serials event he token serial hevent
    · cases hevent
  invokedOnce := h.invokedOnce.skip rfl
  known := by
    intro event he id hevent
    rw [System.perform_history, List.mem_append, List.mem_singleton] at he
    rcases he with he | rfl
    · exact h.known event he id hevent
    · exact hknown id hevent
  proper := h.proper.concat trivial

/-- What a new permit is made of. -/
theorem PermitAuthority.issue_ok {authority authority' : PermitAuthority}
    {factory : Except Exn String} {permit : TransportPermit}
    (h : authority.issue factory reservation = .ok (permit, authority')) :
    permit.authorityToken = authority.token ∧ permit.serial = authority.issued ∧
      permit.physicalAttemptId = reservation.physicalAttemptId ∧
      permit.logicalRequestId = reservation.logicalRequestId ∧
      authority'.token = authority.token ∧ authority'.issued = authority.issued + 1 := by
  simp only [PermitAuthority.issue, bind_eq_ok, require_eq_ok, pure_eq_ok, Prod.mk.injEq] at h
  obtain ⟨_, -, -, -, rfl, rfl⟩ := h
  exact ⟨rfl, rfl, rfl, rfl, rfl, rfl⟩

/-- A send leaves the coordinator's token and its count of permits alone. -/
theorem controlledSend_authority {ρ : Type} (lower : String → String) (sender : Sender)
    (authority : PermitAuthority) (request : PhysicalTransportRequest) (permit : TransportPermit)
    (policy : TransportValidationPolicy) (callback : CallbackOutcome ρ) :
    (controlledSend lower sender authority request permit policy callback).authority.token =
        authority.token ∧
      (controlledSend lower sender authority request permit policy callback).authority.issued =
        authority.issued := by
  unfold controlledSend PermitAuthority.consume
  split
  all_goals
    rename_i hconsume
    obtain ⟨-, rfl⟩ := Prod.mk.inj hconsume
    try (split <;> try split)
    all_goals exact ⟨rfl, rfl⟩

/-- The callback is invoked only with a permit for the attempt and the request. -/
theorem controlledSend_invoked {ρ : Type} {lower : String → String} {sender : Sender}
    {authority : PermitAuthority} {request : PhysicalTransportRequest} {permit : TransportPermit}
    {policy : TransportValidationPolicy} {callback : CallbackOutcome ρ}
    (h : (controlledSend lower sender authority request permit policy callback).invoked = true) :
    permit.physicalAttemptId = request.physicalAttemptId ∧
      permit.logicalRequestId = request.logicalRequestId := by
  unfold controlledSend PermitAuthority.consume at h
  split at h
  · cases h
  · rename_i hconsume
    obtain ⟨-, -, hattempt, hrequest⟩ := require_eq_ok.mp (Prod.mk.inj hconsume).1
    exact ⟨hattempt, hrequest⟩

/-- The tables of the coordinators after one of them issued permits or had them consumed. -/
structure CoordinatorsLater (s s' : System) : Prop where
  tokens : ∀ c authority, s'.coordinators.get? c = some authority → authority.token = c
  later : ∀ c authority, s.coordinators.get? c = some authority →
    ∃ authority', s'.coordinators.get? c = some authority' ∧ authority.issued ≤ authority'.issued

theorem coordinatorsLater_modify {c : Nat} {authority authority' : PermitAuthority}
    (h : s.Recorded) (hauthority : s.coordinators.get? c = some authority)
    (hcoordinators : s'.coordinators = s.coordinators.modify c fun _ => authority')
    (htoken : authority'.token = authority.token) (hissued : authority.issued ≤ authority'.issued) :
    CoordinatorsLater s s' := by
  refine ⟨fun c' a ha => ?_, fun c' a ha => ?_⟩
  · rw [hcoordinators, Table.get?_modify] at ha
    split at ha
    · rename_i hc
      rw [hc, hauthority] at ha
      obtain rfl := Option.some.inj ha
      rw [htoken, h.tokens c authority hauthority, hc]
    · exact h.tokens c' a ha
  · rw [hcoordinators, Table.get?_modify]
    by_cases hc : c' = c
    · subst hc
      rw [hauthority] at ha
      obtain rfl := Option.some.inj ha
      exact ⟨authority', by rw [if_pos rfl, hauthority]; rfl, hissued⟩
    · exact ⟨a, by rw [if_neg hc, ha], Nat.le_refl _⟩

/-- What is recorded stays when the coordinators and exchanges only grow. -/
theorem System.Recorded.grow (h : s.Recorded) (hcoordinators : CoordinatorsLater s s')
    (hexchanges : ∀ id, s.exchanges.get? id ≠ none → s'.exchanges.get? id ≠ none)
    (hdatabase : s'.database = s.database) (hhistory : s'.history = s.history) : s'.Recorded where
  startedOnce := hhistory ▸ h.startedOnce
  startedLeft := by
    rw [hhistory, hdatabase]
    exact h.startedLeft
  tokens := hcoordinators.tokens
  issuedOnce := hhistory ▸ h.issuedOnce
  serials := by
    intro event he token serial hevent
    obtain ⟨authority, hauthority, hserial⟩ := h.serials event (hhistory ▸ he) token serial hevent
    obtain ⟨authority', hauthority', hissued⟩ := hcoordinators.later token authority hauthority
    exact ⟨authority', hauthority', Nat.lt_of_lt_of_le hserial hissued⟩
  invokedOnce := hhistory ▸ h.invokedOnce
  known := fun event he id hevent => hexchanges id (h.known event (hhistory ▸ he) id hevent)
  proper := hhistory ▸ h.proper

/-- Issuing a permit keeps what is recorded: its serial number is new. -/
theorem System.Recorded.issue (h : s.Recorded) {c : Nat} {permit : TransportPermit}
    {authority authority' : PermitAuthority} {factory : Except Exn String}
    (hauthority : s.coordinators.get? c = some authority)
    (hissue : authority.issue factory reservation = .ok (permit, authority'))
    (hknown : s.exchanges.get? id ≠ none) :
    ({ s with
        coordinators := s.coordinators.modify c fun _ => authority'
        history := s.history ++ [.issued id permit] } : System).Recorded := by
  obtain ⟨htoken, hserial, -, -, htoken', hissued⟩ := PermitAuthority.issue_ok hissue
  rw [h.tokens c authority hauthority] at htoken
  have hlater : s.Recorded → ({ s with
      coordinators := s.coordinators.modify c fun _ => authority' } : System).Recorded :=
    fun h => h.grow (coordinatorsLater_modify h hauthority rfl htoken' (by omega))
      (fun _ h => h) rfl rfl
  -- growing the serial number of the coordinator keeps the rest
  have h' := hlater h
  refine ⟨h'.startedOnce.skip rfl, fun event he attemptId hevent => ?_, h'.tokens,
    h'.issuedOnce.concat rfl fun event he hevent => ?_, fun event he token serial hevent => ?_,
    h'.invokedOnce.skip rfl, fun event he id' hevent => ?_, h'.proper.concat trivial⟩
  · rcases List.mem_append.mp he with he | he
    · exact h.startedLeft event he attemptId hevent
    · obtain rfl := List.mem_singleton.mp he
      cases hevent
  · -- an issued permit has a serial number below the next one
    obtain ⟨known, hget, hlt⟩ := h.serials event he _ _ hevent
    rw [htoken, hauthority] at hget
    obtain rfl := Option.some.inj hget
    omega
  · -- serial numbers of issued permits stay below the coordinator's counter
    rcases List.mem_append.mp he with he | he
    · exact h'.serials event he token serial hevent
    · obtain rfl := List.mem_singleton.mp he
      simp only [Event.issuedPermit, Option.some.injEq, Prod.mk.injEq] at hevent
      refine ⟨authority', ?_, by omega⟩
      rw [← hevent.1, htoken]
      simp [hauthority]
  · rcases List.mem_append.mp he with he | he
    · exact h.known event he id' hevent
    · obtain rfl := List.mem_singleton.mp he
      obtain rfl := Option.some.inj hevent
      exact hknown

/-- An invocation that is the exchange's first and proper keeps what is recorded. -/
theorem System.Recorded.invoke (h : s.Recorded) {permit : TransportPermit}
    {request : PhysicalTransportRequest} (hknown : s.exchanges.get? id ≠ none)
    (hinvoked : ∀ event ∈ s.history, event.invoker ≠ some id)
    (hproper : Event.Proper s.history (.invoked id permit request s.database)) :
    ({ s with history := s.history ++ [.invoked id permit request s.database] } : System).Recorded := by
  refine ⟨h.startedOnce.skip rfl, fun event he attemptId hevent => ?_, h.tokens,
    h.issuedOnce.skip rfl, fun event he token serial hevent => ?_,
    h.invokedOnce.concat rfl hinvoked, fun event he id' hevent => ?_, h.proper.concat hproper⟩
  · rcases List.mem_append.mp he with he | he
    · exact h.startedLeft event he attemptId hevent
    · obtain rfl := List.mem_singleton.mp he
      cases hevent
  · rcases List.mem_append.mp he with he | he
    · exact h.serials event he token serial hevent
    · obtain rfl := List.mem_singleton.mp he
      cases hevent
  · rcases List.mem_append.mp he with he | he
    · exact h.known event he id' hevent
    · obtain rfl := List.mem_singleton.mp he
      obtain rfl := Option.some.inj hevent
      exact hknown

/-! ## One action -/

/-- A repository call disturbs no other exchange. -/
theorem undisturbed_perform (s : System) (exchange : Option Nat) (op : Operation) (id : Nat) :
    Undisturbed s (s.perform exchange op) id :=
  undisturbed_concat (op.reservations_later s.database) rfl nofun nofun

/-- The exchange that called the repository is where the outcome of the call puts it. -/
theorem StageSound.called {op : Operation} {stage stage' : ExchangeStage}
    (h : StageSound s id call stage) (hcalls : System.Calls s.database call stage op stage') :
    StageSound (s.perform (some id) op) id call stage' := by
  have hquiet := undisturbed_perform s (some id) op id
  cases hcalls with
  | refuseAcquisition | refuseStart | record => exact .ended
  -- the gates are taken now: no permit was issued before, and nothing was sent
  | @acquire reservation hmatches hok =>
    cases h with
    | entered h₁ h₂ =>
      rcases hacquire : acquireGates call.reservationId call.attempt call.keys call.gatePolicy
        call.lease call.startedAt s.database with ⟨result, db⟩
      obtain rfl : result = .ok reservation := (congrArg Prod.fst hacquire).symm.trans hok
      have hdb : call.acquisition.next s.database = db := congrArg Prod.snd hacquire
      obtain ⟨_, attempts, _, gates, -, -, -, hreserve, hgates, rfl, rfl⟩ :=
        acquireGates_eq_ok hacquire
      obtain ⟨-, hfresh, rfl⟩ := insertReservation_eq_ok.mp hreserve
      refine .acquired ⟨hmatches, rfl, rfl, ⟨s.database, hok, ?_⟩,
        ⟨_, call.attempt.logicalRequestId, call.lease.generation, call.startedAt, .active⟩, ?_, rfl, rfl⟩
        (fun event he => ?_) (fun event he => ?_)
      · exact List.sublist_append_right _ _
      · rw [System.perform_database, hdb, (acquireGates_taken (ordered_nodup _) hgates).reservations]
        simp [Table.get?_insert hfresh]
      · exact fun hevent => h₁ event (hquiet.issued event he hevent) hevent
      · exact fun hevent => h₂ event (hquiet.invoked event he hevent) hevent
  -- the start is committed after the gates were taken
  | @start reservation hok =>
    cases h with
    | acquired htrail h₁ h₂ =>
      refine .started (startCommitted_of_ok hok)
        (htrail.extend (call.start.reservations_later s.database) rfl) (fun event he => ?_)
        (fun event he => ?_)
      · exact fun hevent => h₁ event (hquiet.issued event he hevent) hevent
      · exact fun hevent => h₂ event (hquiet.invoked event he hevent) hevent

variable {ρ : Type} {lower : String → String}

/-- Every action keeps the invariant. -/
theorem System.Sound.step {action : Action ρ} (h : s.Sound) (hstep : Step lower action s s') :
    s'.Sound := by
  have hmodify : ∀ {id : Nat} {stage : ExchangeStage} {exchanges : Table Nat Exchange} {id' : Nat},
      exchanges.get? id' ≠ none →
        (exchanges.modify id fun e => e.at_ stage).get? id' ≠ none := by
    intro id stage exchanges id' hget
    rw [Table.get?_modify]
    split <;> simp [hget]
  -- the exchange that acts changes its stage, the others are undisturbed
  cases hstep with
  | idle => exact h
  | operate op =>
    exact ⟨h.performed none op (by simp), fun id e he =>
      (h.stages id e he).mono (undisturbed_perform s none op id)⟩
  | @construct _ coordinator hfresh =>
    refine ⟨h.grow ⟨fun c a ha => ?_, fun c a ha => ⟨a, ?_, Nat.le_refl _⟩⟩ (fun _ h => h) rfl rfl,
      fun id e he => (h.stages id e he).mono (undisturbed_same rfl rfl)⟩
    · rw [Table.get?_insert hfresh] at ha
      split at ha
      · rename_i hc
        obtain rfl := Option.some.inj ha
        exact hc.symm
      · exact h.tokens c a ha
    · rw [Table.get?_insert hfresh, if_neg ?_, ha]
      rintro rfl
      rw [hfresh] at ha
      cases ha
  -- a new exchange has no event in the history
  | @enter _ id coordinator call sender hfresh =>
    have hold : ∀ id', s.exchanges.get? id' ≠ none →
        (s.exchanges.insert id ⟨coordinator, call, sender, .entered⟩).get? id' ≠ none := by
      intro id' hget
      rw [Table.get?_insert hfresh]
      split <;> simp [hget]
    refine ⟨h.grow ⟨h.tokens, fun c a ha => ⟨a, ha, Nat.le_refl _⟩⟩ hold rfl rfl,
      fun id' e he => ?_⟩
    rw [Table.get?_insert hfresh] at he
    split at he
    · rename_i hid
      obtain rfl := Option.some.inj he
      subst hid
      refine .entered (fun event he hevent => ?_) (fun event he hevent => ?_)
      · exact h.known event he _ (by cases event <;> cases hevent; rfl) hfresh
      · exact h.known event he _ (by cases event <;> cases hevent; rfl) hfresh
    · exact (h.stages id' e he).mono (undisturbed_same rfl rfl)
  -- the request is not the attempt's: the exchange ends before anything is called
  | @mismatch _ id e _ _ hexchange hstage =>
    exact ⟨h.grow ⟨h.tokens, fun c a ha => ⟨a, ha, Nat.le_refl _⟩⟩ (fun _ => hmodify) rfl rfl,
      stages_goto h hexchange (fun _ _ => undisturbed_same rfl rfl) rfl .ended⟩
  -- a call of the repository
  | @call _ id e _ _ op stage hexchange hcalls =>
    have hperformed := h.performed (some id) op fun id' hid => by
      obtain rfl := Option.some.inj hid
      rw [hexchange]
      simp
    refine ⟨hperformed.grow ⟨h.tokens, fun c a ha => ⟨a, ha, Nat.le_refl _⟩⟩ (fun _ => hmodify) rfl
      rfl, stages_goto h hexchange (fun id' _ => ?_) rfl ?_⟩
    · have hquiet := undisturbed_perform s (some id) op id'
      exact ⟨hquiet.gates, hquiet.history, hquiet.issued, hquiet.invoked⟩
    · exact ((h.stages id e hexchange).called hcalls).mono (undisturbed_same rfl rfl)
  -- the authority refuses the permit
  | @refuseIssue _ id e _ _ reservation error hexchange hstage =>
    exact ⟨h.grow ⟨h.tokens, fun c a ha => ⟨a, ha, Nat.le_refl _⟩⟩ (fun _ => hmodify) rfl rfl,
      stages_goto h hexchange (fun _ _ => undisturbed_same rfl rfl) rfl (.settled reservation _)⟩
  -- the permit is issued: it is the first for this exchange
  | @issue _ id e _ _ reservation permit authority authority' hexchange hstage hauthority hissue =>
    have hissued := h.issue hauthority hissue (by rw [hexchange]; simp)
    refine ⟨hissued.grow ⟨hissued.tokens, fun c a ha => ⟨a, ha, Nat.le_refl _⟩⟩ (fun _ => hmodify)
      rfl rfl, stages_goto h hexchange (fun id' hid => ?_) rfl ?_⟩
    · refine undisturbed_concat (.refl _) rfl (fun hevent => hid ?_) (by rintro ⟨⟩)
      exact (Option.some.inj hevent).symm
    · obtain ⟨-, -, hattempt, hrequest, -⟩ := PermitAuthority.issue_ok hissue
      have hsound := h.stages id e hexchange
      rw [hstage] at hsound
      cases hsound with
      | started hstarted htrail h₁ h₂ =>
        refine .permitted (hattempt.trans htrail.attempt) (hrequest.trans htrail.request) hstarted
          (htrail.extend (.refl _) rfl) fun event he hevent => ?_
        rcases List.mem_append.mp he with he | he
        · exact h₂ event he hevent
        · obtain rfl := List.mem_singleton.mp he
          cases hevent
  -- the sender is called with the permit
  | @send _ id e _ answer reservation permit authority sent hexchange hstage hauthority hsent =>
    obtain ⟨htoken, hissued⟩ := controlledSend_authority lower e.sender authority e.call.request
      permit e.call.transportPolicy answer
    rw [← hsent] at htoken hissued
    have hlater : ∀ {s' : System}, s'.coordinators =
        (s.coordinators.modify e.coordinator fun _ => sent.authority) → CoordinatorsLater s s' :=
      fun hc => coordinatorsLater_modify h.toRecorded hauthority hc htoken (by omega)
    cases hinvoked : sent.invoked with
    -- the permit is refused, so the callback is not invoked
    | false =>
      simp only [Bool.false_eq_true, if_false]
      exact ⟨h.grow (hlater rfl) (fun _ => hmodify) rfl rfl,
        stages_goto h hexchange (fun _ _ => undisturbed_same rfl rfl) rfl (.settled reservation _)⟩
    -- the callback is invoked: the permit was issued for a start that was committed
    | true =>
      have hsound := h.stages id e hexchange
      rw [hstage] at hsound
      cases hsound with
      | @permitted _ _ starting hattempt hrequest hstarted htrail hquiet =>
        obtain ⟨hown, hown'⟩ := controlledSend_invoked (hsent ▸ hinvoked)
        obtain ⟨acquiring, hok, hsub⟩ := htrail.trail
        obtain ⟨row, hrow, hrowattempt, hrowrequest⟩ := htrail.held
        have hrecorded := h.invoke (by rw [hexchange]; simp) hquiet
          ⟨hown, hown', e.call, reservation, acquiring, starting, row, rfl, htrail.same, hok,
            hstarted, hsub, hrow, hrowattempt.trans htrail.same.2.symm,
            hrowrequest.trans htrail.same.1.symm⟩
        simp only [if_true]
        refine ⟨hrecorded.grow ⟨(hlater rfl).tokens, (hlater rfl).later⟩ (fun _ => hmodify) rfl rfl,
          stages_goto h hexchange (fun id' hid => ?_) rfl (.settled reservation _)⟩
        exact undisturbed_concat (.refl _) rfl (by rintro ⟨⟩) fun hevent => hid (Option.some.inj hevent).symm

theorem System.Sound.reachable {s : System}
    (hrun : Reaches (System.next (ρ := ρ) lower) (fun _ _ => True) System.initial s) : s.Sound :=
  Reaches.invariant System.Sound (fun action s _ h => h.step (System.step lower action s))
    System.sound_initial hrun

/-! ## The theorem -/

/-- A proper invocation belongs to the history of its exchange. -/
theorem System.Sound.proper_mem (h : s.Sound) {permit : TransportPermit}
    {request : PhysicalTransportRequest} {database : Database}
    (hevent : .invoked id permit request database ∈ s.history) :
    .issued id permit ∈ s.history ∧ ∃ (call : ExchangeCall) (starting : Database),
      .called (some id) call.start starting ∈ s.history ∧
        (Event.called (some id) call.start starting).startedAttempt =
          some request.physicalAttemptId := by
  obtain ⟨pre, post, hsplit⟩ := List.append_of_mem hevent
  obtain ⟨-, -, call, reservation, acquiring, starting, held, rfl, hsame, -, hstarted, hsub, -⟩ :=
    h.proper pre _ post hsplit
  have hmem : ∀ event ∈ pre, event ∈ s.history := fun event he => by
    rw [hsplit]
    exact List.mem_append_left _ he
  refine ⟨hmem _ (hsub.subset (by simp)), call, starting, hmem _ (hsub.subset (by simp)), ?_⟩
  have hok : (markPhysicalAttemptStarted call.attempt.physicalAttemptId call.lease call.startedAt
    starting).1 = .ok () := hstarted.committed
  simp only [Event.startedAttempt, ExchangeCall.start, hok, hsame.2]

/-- **At most one physical send.** Over any run of any number of coordinators on one
database, with any other operations in between, the callback is invoked at most once for
an attempt, every permit is consumed by at most one send, and every invocation is proper. -/
theorem at_most_once_send {s : System}
    (hrun : Reaches (System.next (ρ := ρ) lower) (fun _ _ => True) System.initial s) :
    OncePer Event.sentAttempt s.history ∧ OncePer Event.consumedPermit s.history ∧
      Supported Event.Proper s.history := by
  have h := System.Sound.reachable hrun
  refine ⟨h.invokedOnce.of_determined ?_, h.invokedOnce.of_determined ?_, h.proper⟩
  · intro event he event' he' attemptId hsent hsent'
    cases event with
    | called | issued => cases hsent
    | invoked id permit request database =>
      cases event' with
      | called | issued => cases hsent'
      | invoked id' permit' request' database' =>
        obtain ⟨-, call, starting, hmem, hstarted⟩ := h.proper_mem he
        obtain ⟨-, call', starting', hmem', hstarted'⟩ := h.proper_mem he'
        -- both exchanges committed the start of the same attempt: it is the same start
        have hsame := h.startedOnce.unique hmem hmem' (hstarted.trans hsent)
          (hstarted'.trans hsent')
        simp only [Event.called.injEq, Option.some.injEq] at hsame
        exact ⟨id, rfl, by rw [hsame.1]; rfl⟩
  · intro event he event' he' identity hconsumed hconsumed'
    cases event with
    | called | issued => cases hconsumed
    | invoked id permit request database =>
      cases event' with
      | called | issued => cases hconsumed'
      | invoked id' permit' request' database' =>
        have hsame := h.issuedOnce.unique (h.proper_mem he).1 (h.proper_mem he').1 hconsumed
          hconsumed'
        simp only [Event.issued.injEq] at hsame
        exact ⟨id, rfl, by rw [hsame.1]; rfl⟩

end

/-- The sample exchange, and a replay of it by a second coordinator. -/
def Sample.replayed : List (Action Unit) :=
  .construct 0 :: .construct 1 :: claimed.map .operate ++
    (.enter 0 0 call .plain ::
      List.replicate 5 (.advance 0 (.ok "permit-1") (.returned (response 200 none status_ok) ()))) ++
    (.enter 1 1 call .ephemeral ::
      List.replicate 5 (.advance 1 (.ok "permit-1") (.returned (response 200 none status_ok) ())))

set_option maxRecDepth 4096 in
/-- The replay finds its attempt no longer reserved: one invocation. -/
theorem at_most_once_send_sample :
    let s := runAll (System.next id) Sample.replayed System.initial
    s.history.filterMap Event.sentAttempt = [Sample.attempt.physicalAttemptId] ∧
      OncePer Event.sentAttempt s.history :=
  ⟨by decide, (at_most_once_send (Reaches.runAll (by decide))).1⟩

end StockResearch.Requests
