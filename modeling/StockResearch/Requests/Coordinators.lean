import StockResearch.Requests.Attempts
import StockResearch.Requests.Transport

/-!
# Coordinators over one database

Any number of coordinators, in any number of processes, execute exchanges over one
database. An exchange is not atomic: between two of its steps other processes commit
operations and other exchanges advance, and its process may stop, after which it never
takes another step. A coordinator that is made again after a restart is a new one.

- `System`: the database, the permit tables, the exchanges, and a history that only
  records what happened.
- `System.next`: one action. A single repository call, a single access to a permit
  table and a single invocation of the callback are atomic.
- `exchange_refines`: an exchange that nobody interrupts is the one of
  `executeExchange`.
-/

namespace StockResearch.Requests

/-! ## Exchanges in progress -/

/-- Where an exchange stands between two of its steps. -/
inductive ExchangeStage
  | entered
  | acquired (reservation : GateReservation)
  | started (reservation : GateReservation)
  | permitted (reservation : GateReservation) (permit : TransportPermit)
  | answered (reservation : GateReservation) (disposition : Disposition)
  | ended

/-- Where an exchange goes on from a branch; an interrupted one has no branch and ends. -/
def ExchangeStage.settled (reservation : GateReservation) : Option Disposition → ExchangeStage
  | none => .ended
  | some disposition => .answered reservation disposition

/-- One call of an exchange. The two entry points differ in the `sender`. -/
structure Exchange where
  coordinator : Nat
  call : ExchangeCall
  sender : Sender
  stage : ExchangeStage := .entered

/-- The exchange at another stage. -/
def Exchange.at_ (e : Exchange) (stage : ExchangeStage) : Exchange := { e with stage := stage }

@[simp] theorem Exchange.at_coordinator (e : Exchange) (stage : ExchangeStage) :
    (e.at_ stage).coordinator = e.coordinator := rfl

@[simp] theorem Exchange.at_call (e : Exchange) (stage : ExchangeStage) :
    (e.at_ stage).call = e.call := rfl

@[simp] theorem Exchange.at_stage (e : Exchange) (stage : ExchangeStage) :
    (e.at_ stage).stage = stage := rfl

/-- The acquisition of an exchange. -/
def ExchangeCall.acquisition (call : ExchangeCall) : Operation :=
  .acquireGates call.reservationId call.attempt call.keys call.gatePolicy call.lease call.startedAt

/-- The start of the attempt of an exchange. -/
def ExchangeCall.start (call : ExchangeCall) : Operation :=
  .markPhysicalAttemptStarted call.attempt.physicalAttemptId call.lease call.startedAt

/-- The repository call of a branch. -/
def Disposition.operation (disposition : Disposition) (reservation : GateReservation)
    (lease : RuntimeLease) (completedAt : DateTime) : Operation :=
  match disposition with
  | .permitIssuanceFailed | .invalidResponse =>
    .releaseGates reservation .failed lease completedAt none
  | .outcomeUnknown => .recordUnknownOutcome reservation lease completedAt
  | .rateLimited seconds => .recordRetryAfter reservation seconds lease completedAt
  | .providerError => .releaseGates reservation .failed lease completedAt (some true)
  | .ok => .releaseGates reservation .succeeded lease completedAt none

theorem Disposition.operation_run (disposition : Disposition) (reservation : GateReservation)
    (lease : RuntimeLease) (completedAt : DateTime) (db : Database) :
    (disposition.operation reservation lease completedAt).run db =
      disposition.record reservation lease completedAt db := by
  cases disposition <;> rfl

/-! ## The system -/

/-- What the history records: every repository call with the database it found, every
permit that was issued, and every invocation of a callback with the database of that
moment. -/
inductive Event
  | called (exchange : Option Nat) (op : Operation) (before : Database)
  | issued (exchange : Nat) (permit : TransportPermit)
  | invoked (exchange : Nat) (permit : TransportPermit) (request : PhysicalTransportRequest)
      (database : Database)

/-- The permit under which an event invoked the callback. -/
def Event.sent : Event → Option TransportPermit
  | .invoked _ permit _ _ => some permit
  | _ => none

/-- One database and everyone who works on it. -/
structure System where
  database : Database
  coordinators : Table Nat PermitAuthority
  exchanges : Table Nat Exchange
  history : List Event

/-- A new database, and nobody working on it. -/
def System.initial : System := ⟨.initial, .empty, .empty, []⟩

/-- What can happen next. `factory` and `answer` are how the permit-id factory and the
transport callback behave, if the step reaches them. -/
inductive Action (ρ : Type)
  | operate (op : Operation)
  | construct (coordinator : Nat)
  | enter (exchange : Nat) (coordinator : Nat) (call : ExchangeCall) (sender : Sender)
  | advance (exchange : Nat) (factory : Except Exn String) (answer : CallbackOutcome ρ)

namespace System

/-- A repository call. -/
def perform (s : System) (exchange : Option Nat) (op : Operation) : System :=
  { s with database := op.next s.database, history := s.history ++ [.called exchange op s.database] }

/-- An exchange goes on to its next stage. -/
def goto (s : System) (id : Nat) (stage : ExchangeStage) : System :=
  { s with exchanges := s.exchanges.modify id fun e => e.at_ stage }

variable {ρ : Type} (lower : String → String)

/-- One step of an exchange. -/
def advance (s : System) (id : Nat) (e : Exchange) (factory : Except Exn String)
    (answer : CallbackOutcome ρ) : System :=
  match e.stage with
  | .entered =>
    if ¬ e.call.Matches then s.goto id .ended
    else
      match (acquireGates e.call.reservationId e.call.attempt e.call.keys e.call.gatePolicy
        e.call.lease e.call.startedAt s.database).1 with
      | .error _ => (s.perform (some id) e.call.acquisition).goto id .ended
      | .ok reservation => (s.perform (some id) e.call.acquisition).goto id (.acquired reservation)
  | .acquired reservation =>
    match (e.call.start.run s.database).1 with
    | .error _ => (s.perform (some id) e.call.start).goto id .ended
    | .ok _ => (s.perform (some id) e.call.start).goto id (.started reservation)
  | .started reservation =>
    match s.coordinators.get? e.coordinator with
    | none => s
    | some authority =>
      match authority.issue factory reservation with
      | .error error => s.goto id (.settled reservation (issueDisposition error))
      | .ok (permit, authority) =>
        { s.goto id (.permitted reservation permit) with
          coordinators := s.coordinators.modify e.coordinator fun _ => authority
          history := s.history ++ [.issued id permit] }
  | .permitted reservation permit =>
    match s.coordinators.get? e.coordinator with
    | none => s
    | some authority =>
      let sent := controlledSend lower e.sender authority e.call.request permit
        e.call.transportPolicy answer
      { s.goto id (.settled reservation (sendDisposition sent.outcome)) with
        coordinators := s.coordinators.modify e.coordinator fun _ => sent.authority
        history :=
          if sent.invoked then s.history ++ [.invoked id permit e.call.request s.database]
          else s.history }
  | .answered reservation disposition =>
    (s.perform (some id) (disposition.operation reservation e.call.lease e.call.completedAt)).goto id
      .ended
  | .ended => s

/-- One action; one that cannot happen changes nothing. -/
def next (action : Action ρ) (s : System) : System :=
  match action with
  | .operate op => s.perform none op
  | .construct coordinator =>
    { s with coordinators := s.coordinators.insert coordinator ⟨coordinator, 0, .empty⟩ }
  | .enter id coordinator call sender =>
    { s with exchanges := s.exchanges.insert id ⟨coordinator, call, sender, .entered⟩ }
  | .advance id factory answer =>
    match s.exchanges.get? id with
    | none => s
    | some e => s.advance lower id e factory answer

/-! ## What one action can do -/

/-- How an exchange at one stage calls the repository and goes on. -/
inductive Calls (db : Database) (call : ExchangeCall) :
    ExchangeStage → Operation → ExchangeStage → Prop
  | refuseAcquisition (hmatches : call.Matches) : Calls db call .entered call.acquisition .ended
  | acquire {reservation : GateReservation} (hmatches : call.Matches)
      (hok : (acquireGates call.reservationId call.attempt call.keys call.gatePolicy call.lease
        call.startedAt db).1 = .ok reservation) :
    Calls db call .entered call.acquisition (.acquired reservation)
  | refuseStart (reservation : GateReservation) :
    Calls db call (.acquired reservation) call.start .ended
  | start {reservation : GateReservation} (hok : (call.start.run db).1 = .ok ()) :
    Calls db call (.acquired reservation) call.start (.started reservation)
  | record (reservation : GateReservation) (disposition : Disposition) :
    Calls db call (.answered reservation disposition)
      (disposition.operation reservation call.lease call.completedAt) .ended

/-- Every way an action can change the system. -/
inductive Step : Action ρ → System → System → Prop
  | idle (action : Action ρ) (s : System) : Step action s s
  | operate (op : Operation) (s : System) : Step (.operate op) s (s.perform none op)
  | construct {s : System} {coordinator : Nat} (hfresh : s.coordinators.get? coordinator = none) :
    Step (.construct coordinator) s
      { s with coordinators := s.coordinators.insert coordinator ⟨coordinator, 0, .empty⟩ }
  | enter {s : System} {id coordinator : Nat} {call : ExchangeCall} {sender : Sender}
      (hfresh : s.exchanges.get? id = none) :
    Step (.enter id coordinator call sender) s
      { s with exchanges := s.exchanges.insert id ⟨coordinator, call, sender, .entered⟩ }
  | mismatch {s : System} {id : Nat} {e : Exchange} {factory : Except Exn String}
      {answer : CallbackOutcome ρ} (hexchange : s.exchanges.get? id = some e)
      (hstage : e.stage = .entered) :
    Step (.advance id factory answer) s (s.goto id .ended)
  | call {s : System} {id : Nat} {e : Exchange} {factory : Except Exn String}
      {answer : CallbackOutcome ρ} {op : Operation} {stage : ExchangeStage}
      (hexchange : s.exchanges.get? id = some e) (hcalls : Calls s.database e.call e.stage op stage) :
    Step (.advance id factory answer) s ((s.perform (some id) op).goto id stage)
  | refuseIssue {s : System} {id : Nat} {e : Exchange} {factory : Except Exn String}
      {answer : CallbackOutcome ρ} {reservation : GateReservation} {error : Exn}
      (hexchange : s.exchanges.get? id = some e) (hstage : e.stage = .started reservation) :
    Step (.advance id factory answer) s
      (s.goto id (.settled reservation (issueDisposition error)))
  | issue {s : System} {id : Nat} {e : Exchange} {factory : Except Exn String}
      {answer : CallbackOutcome ρ} {reservation : GateReservation} {permit : TransportPermit}
      {authority authority' : PermitAuthority} (hexchange : s.exchanges.get? id = some e)
      (hstage : e.stage = .started reservation)
      (hauthority : s.coordinators.get? e.coordinator = some authority)
      (hissue : authority.issue factory reservation = .ok (permit, authority')) :
    Step (.advance id factory answer) s
      { s.goto id (.permitted reservation permit) with
        coordinators := s.coordinators.modify e.coordinator fun _ => authority'
        history := s.history ++ [.issued id permit] }
  | send {s : System} {id : Nat} {e : Exchange} {factory : Except Exn String}
      {answer : CallbackOutcome ρ} {reservation : GateReservation} {permit : TransportPermit}
      {authority : PermitAuthority} {sent : SendResult ρ}
      (hexchange : s.exchanges.get? id = some e)
      (hstage : e.stage = .permitted reservation permit)
      (hauthority : s.coordinators.get? e.coordinator = some authority)
      (hsent : sent = controlledSend lower e.sender authority e.call.request permit
        e.call.transportPolicy answer) :
    Step (.advance id factory answer) s
      { s.goto id (.settled reservation (sendDisposition sent.outcome)) with
        coordinators := s.coordinators.modify e.coordinator fun _ => sent.authority
        history :=
          if sent.invoked then s.history ++ [.invoked id permit e.call.request s.database]
          else s.history }

/-- Every step of an exchange is one of the listed ones. -/
theorem advance_step {s : System} {id : Nat} {e : Exchange} {factory : Except Exn String}
    {answer : CallbackOutcome ρ} (hexchange : s.exchanges.get? id = some e) :
    Step lower (.advance id factory answer) s (s.advance lower id e factory answer) := by
  cases hstage : e.stage with
  | entered =>
    simp only [advance, hstage]
    split
    · -- `transport_attempt_mismatch`, before the repository is called
      exact .mismatch hexchange hstage
    · rename_i hmatches
      rw [not_not] at hmatches
      split
      · exact .call hexchange (hstage ▸ .refuseAcquisition hmatches)
      · rename_i hok
        exact .call hexchange (hstage ▸ .acquire hmatches hok)
  | acquired reservation =>
    simp only [advance, hstage]
    split
    · exact .call hexchange (hstage ▸ .refuseStart reservation)
    · rename_i hok
      exact .call hexchange (hstage ▸ .start hok)
  -- no coordinator under that name: there is nothing to do
  | started reservation =>
    simp only [advance, hstage]
    split
    · exact .idle _ s
    · rename_i hauthority
      split
      · exact .refuseIssue hexchange hstage
      · rename_i hissue
        exact .issue hexchange hstage hauthority hissue
  | permitted reservation permit =>
    simp only [advance, hstage]
    split
    · exact .idle _ s
    · rename_i hauthority
      exact .send hexchange hstage hauthority rfl
  | answered reservation disposition =>
    simp only [advance, hstage]
    exact .call hexchange (hstage ▸ .record reservation disposition)
  | ended =>
    simp only [advance, hstage]
    exact .idle _ s

/-- Every action makes one of the steps. -/
theorem step (action : Action ρ) (s : System) : Step lower action s (s.next lower action) := by
  cases action with
  | operate op => exact .operate op s
  | construct coordinator =>
    by_cases hfresh : s.coordinators.get? coordinator = none
    · exact .construct hfresh
    · simp only [next, Table.insert_of_taken hfresh]
      exact .idle _ s
  | enter id coordinator call sender =>
    by_cases hfresh : s.exchanges.get? id = none
    · exact .enter hfresh
    · simp only [next, Table.insert_of_taken hfresh]
      exact .idle _ s
  | advance id factory answer =>
    simp only [next]
    split
    · exact .idle _ s
    · rename_i hexchange
      exact advance_step lower hexchange

/-- The repository call an action makes, if it makes one. -/
def operation (s : System) : Action ρ → Option Operation
  | .operate op => some op
  | .advance id _ _ =>
    (s.exchanges.get? id).bind fun e =>
      match e.stage with
      | .entered => if e.call.Matches then some e.call.acquisition else none
      | .acquired _ => some e.call.start
      | .answered reservation disposition =>
        some (disposition.operation reservation e.call.lease e.call.completedAt)
      | _ => none
  | _ => none

/-- What an action does to the database and to the history. -/
inductive Effect (s s' : System) (action : Action ρ) : Prop
  | silent (hdatabase : s'.database = s.database) (hhistory : s'.history = s.history)
  | called {exchange : Option Nat} {op : Operation} (hoperation : s.operation action = some op)
      (hdatabase : s'.database = op.next s.database)
      (hhistory : s'.history = s.history ++ [.called exchange op s.database])
  | issued {id : Nat} {permit : TransportPermit} (hdatabase : s'.database = s.database)
      (hhistory : s'.history = s.history ++ [.issued id permit])
  | invoked {id : Nat} {e : Exchange} {reservation : GateReservation} {permit : TransportPermit}
      (hexchange : s.exchanges.get? id = some e)
      (hstage : e.stage = .permitted reservation permit) (hdatabase : s'.database = s.database)
      (hhistory : s'.history = s.history ++ [.invoked id permit e.call.request s.database])

theorem Step.effect {action : Action ρ} {s s' : System} (h : Step lower action s s') :
    Effect s s' action := by
  cases h with
  | idle | construct | enter | mismatch | refuseIssue => exact .silent rfl rfl
  | operate op => exact .called rfl rfl rfl
  | @call _ id e factory answer op stage hexchange hcalls =>
    refine .called ?_ rfl rfl
    simp only [operation, hexchange, Option.bind_some]
    cases hstage : e.stage with
    | entered =>
      rw [hstage] at hcalls
      cases hcalls with
      | refuseAcquisition hmatches => exact if_pos hmatches
      | acquire hmatches => exact if_pos hmatches
    | acquired | answered | started | permitted | ended =>
      rw [hstage] at hcalls
      cases hcalls <;> rfl
  | issue => exact .issued rfl rfl
  | @send _ id e _ _ reservation permit _ sent hexchange hstage =>
    cases hinvoked : sent.invoked with
    | false => exact .silent rfl (by simp)
    | true => exact .invoked hexchange hstage rfl (by simp)

/-! ## Uninterrupted exchanges -/

@[simp] theorem goto_database (s : System) (id : Nat) (stage : ExchangeStage) :
    (s.goto id stage).database = s.database := rfl

@[simp] theorem goto_coordinators (s : System) (id : Nat) (stage : ExchangeStage) :
    (s.goto id stage).coordinators = s.coordinators := rfl

@[simp] theorem goto_history (s : System) (id : Nat) (stage : ExchangeStage) :
    (s.goto id stage).history = s.history := rfl

@[simp] theorem goto_get? (s : System) (id : Nat) (stage : ExchangeStage) (id' : Nat) :
    (s.goto id stage).exchanges.get? id' =
      if id' = id then (s.exchanges.get? id').map fun e => e.at_ stage
      else s.exchanges.get? id' :=
  Table.get?_modify _ _ _ _

@[simp] theorem perform_database (s : System) (exchange : Option Nat) (op : Operation) :
    (s.perform exchange op).database = op.next s.database := rfl

@[simp] theorem perform_coordinators (s : System) (exchange : Option Nat) (op : Operation) :
    (s.perform exchange op).coordinators = s.coordinators := rfl

@[simp] theorem perform_exchanges (s : System) (exchange : Option Nat) (op : Operation) :
    (s.perform exchange op).exchanges = s.exchanges := rfl

@[simp] theorem perform_history (s : System) (exchange : Option Nat) (op : Operation) :
    (s.perform exchange op).history = s.history ++ [.called exchange op s.database] := rfl

/-- The exchange `id` has reached its end in `s`, and what it left behind is `outcome`. -/
structure Concluded (s₀ s : System) (coordinator : Nat) (outcome : ExchangeOutcome ρ) : Prop where
  database : s.database = outcome.database
  authority : s.coordinators.get? coordinator = some outcome.authority
  sent : s.history.filterMap Event.sent = s₀.history.filterMap Event.sent ++ outcome.sent.toList

variable {lower} {id coordinator : Nat} {e : Exchange} {authority : PermitAuthority}
  {factory : Except Exn String} {answer : CallbackOutcome ρ}

theorem runAll_ended {s : System} (hexchange : s.exchanges.get? id = some e)
    (hstage : e.stage = .ended) (n : Nat) :
    runAll (next lower) (List.replicate n (.advance id factory answer)) s = s := by
  induction n with
  | zero => rfl
  | succ n ih =>
    have hstep : s.next lower (.advance id factory answer) = s := by
      simp only [next, hexchange, advance, hstage]
    rw [List.replicate_succ, runAll, List.foldl_cons, hstep]
    exact ih

/-- The last step of an exchange records its branch. -/
theorem runAll_answered {s : System} {reservation : GateReservation} {disposition : Disposition}
    (sha256 : List UInt8 → String) (response : Option (UntrustedTransportResponse × ρ))
    (sent : Option TransportPermit) (hexchange : s.exchanges.get? id = some e)
    (hstage : e.stage = .answered reservation disposition)
    (hauthority : s.coordinators.get? coordinator = some authority) (n : Nat) {s₀ : System}
    (hsent : s.history.filterMap Event.sent = s₀.history.filterMap Event.sent ++ sent.toList) :
    Concluded s₀ (runAll (next lower) (List.replicate (n + 1) (.advance id factory answer)) s)
      coordinator
      (concludeExchange sha256 e.call reservation disposition response authority sent
        s.database) := by
  have hstep : s.next lower (.advance id factory answer) =
      (s.perform (some id) (disposition.operation reservation e.call.lease e.call.completedAt)).goto
        id .ended := by
    simp only [next, hexchange, advance, hstage]
  -- the first step records, the rest find the exchange ended
  rw [List.replicate_succ, runAll, List.foldl_cons, hstep]
  change Concluded s₀ (runAll _ _ _) _ _
  rw [runAll_ended (e := e.at_ .ended) (by simp [hexchange]) rfl]
  have hnext : (disposition.operation reservation e.call.lease e.call.completedAt).next s.database =
      (disposition.record reservation e.call.lease e.call.completedAt s.database).2 := by
    rw [Operation.next, Disposition.operation_run]
  have hhistory : ∀ op db, (s.history ++ [Event.called (some id) op db]).filterMap Event.sent =
      s₀.history.filterMap Event.sent ++ sent.toList := by
    intro op db
    rw [List.filterMap_append, hsent]
    simp [Event.sent]
  -- both senders record by the same call and differ only in what is returned
  unfold concludeExchange
  split
  · rename_i hrecord
    exact ⟨by simp [hnext, hrecord], by simp [hauthority], by simp [hhistory]⟩
  · rename_i hrecord
    exact ⟨by simp [hnext, hrecord], by simp [hauthority], by simp [hhistory]⟩

/-- An exchange that is settled records the branch it reached, if it reached one. -/
theorem runAll_settled {s s₀ : System} {reservation : GateReservation}
    {disposition : Option Disposition} (sha256 : List UInt8 → String)
    (response : Option (UntrustedTransportResponse × ρ)) (sent : Option TransportPermit)
    (hexchange : s.exchanges.get? id = some e)
    (hstage : e.stage = .settled reservation disposition)
    (hauthority : s.coordinators.get? coordinator = some authority) (n : Nat)
    (hsent : s.history.filterMap Event.sent = s₀.history.filterMap Event.sent ++ sent.toList) :
    Concluded s₀ (runAll (next lower) (List.replicate (n + 1) (.advance id factory answer)) s)
      coordinator
      (settleExchange sha256 e.call reservation disposition response authority sent
        s.database) := by
  cases disposition with
  | none =>
    -- it was interrupted, and its process takes no further step
    rw [runAll_ended hexchange hstage]
    exact ⟨rfl, hauthority, hsent⟩
  | some disposition => exact runAll_answered sha256 response sent hexchange hstage hauthority n hsent

/-- An exchange with a permit sends, then records. -/
theorem runAll_permitted {s s₀ : System} {reservation : GateReservation}
    {permit : TransportPermit} {sent : SendResult ρ} (sha256 : List UInt8 → String)
    (hexchange : s.exchanges.get? id = some e)
    (hstage : e.stage = .permitted reservation permit)
    (hauthority : s.coordinators.get? e.coordinator = some authority)
    (hsent : sent = controlledSend lower e.sender authority e.call.request permit
      e.call.transportPolicy answer) (n : Nat)
    (hhistory : s.history.filterMap Event.sent = s₀.history.filterMap Event.sent) :
    Concluded s₀ (runAll (next lower) (List.replicate (n + 2) (.advance id factory answer)) s)
      e.coordinator
      (settleExchange sha256 e.call reservation (sendDisposition sent.outcome)
        sent.outcome.toOption sent.authority (if sent.invoked then some permit else none)
        s.database) := by
  have hstep : s.next lower (.advance id factory answer) =
      { s.goto id (.settled reservation (sendDisposition sent.outcome)) with
        coordinators := s.coordinators.modify e.coordinator fun _ => sent.authority
        history :=
          if sent.invoked then s.history ++ [.invoked id permit e.call.request s.database]
          else s.history } := by
    simp only [next, hexchange, advance, hstage, hauthority, hsent]
  rw [List.replicate_succ, runAll, List.foldl_cons, hstep]
  refine runAll_settled (e := e.at_ (.settled reservation (sendDisposition sent.outcome)))
    sha256 sent.outcome.toOption _ ?_ rfl ?_ n ?_
  · exact (goto_get? s id _ id).trans (by rw [if_pos rfl, hexchange]; rfl)
  · simp [hauthority]
  · cases hinvoked : sent.invoked with
    | false => simp [hhistory]
    | true => simp [hhistory, Event.sent]

/-- An exchange whose attempt was started asks for a permit, sends and records. -/
theorem runAll_started {s s₀ : System} {reservation : GateReservation} (sha256 : List UInt8 → String)
    (hexchange : s.exchanges.get? id = some e) (hstage : e.stage = .started reservation)
    (hauthority : s.coordinators.get? e.coordinator = some authority) (n : Nat)
    (hhistory : s.history.filterMap Event.sent = s₀.history.filterMap Event.sent) :
    Concluded s₀ (runAll (next lower) (List.replicate (n + 3) (.advance id factory answer)) s)
      e.coordinator
      (match authority.issue factory reservation with
        | .error error =>
          settleExchange sha256 e.call reservation (issueDisposition error) none authority none
            s.database
        | .ok (permit, authority) =>
          let sent := controlledSend lower e.sender authority e.call.request permit
            e.call.transportPolicy answer
          settleExchange sha256 e.call reservation (sendDisposition sent.outcome)
            sent.outcome.toOption sent.authority (if sent.invoked then some permit else none)
            s.database) := by
  rw [List.replicate_succ, runAll, List.foldl_cons]
  cases hissue : authority.issue factory reservation with
  -- no permit: the exchange is settled without a send
  | error x =>
    have hstep : s.next lower (.advance id factory answer) =
        s.goto id (.settled reservation (issueDisposition x)) := by
      simp only [next, hexchange, advance, hstage, hauthority, hissue]
    rw [hstep]
    refine runAll_settled (s := s.goto id _)
      (e := e.at_ (.settled reservation (issueDisposition x))) sha256 none none ?_ rfl hauthority
      (n + 1) (by simp [hhistory])
    rw [goto_get?, if_pos rfl, hexchange]
    rfl
  -- permitted: the next step sends
  | ok issued =>
    obtain ⟨permit, authority'⟩ := issued
    have hstep : s.next lower (.advance id factory answer) =
        { s.goto id (.permitted reservation permit) with
          coordinators := s.coordinators.modify e.coordinator fun _ => authority'
          history := s.history ++ [.issued id permit] } := by
      simp only [next, hexchange, advance, hstage, hauthority, hissue]
    rw [hstep]
    refine runAll_permitted (e := e.at_ (.permitted reservation permit)) sha256 ?_ rfl ?_ rfl n ?_
    · exact (goto_get? s id _ id).trans (by rw [if_pos rfl, hexchange]; rfl)
    · simp [hauthority]
    · simp [hhistory, Event.sent]

/-- Nothing happens to an exchange that has ended. -/
theorem Concluded.ended {s s₀ : System} {outcome : ExchangeOutcome ρ}
    (hexchange : s.exchanges.get? id = some e)
    (h : Concluded s₀ (s.goto id .ended) coordinator outcome) (n : Nat) :
    Concluded s₀ (runAll (next lower) (List.replicate n (.advance id factory answer))
      (s.goto id .ended)) coordinator outcome := by
  rwa [runAll_ended (e := e.at_ .ended) (by simp [hexchange]) rfl]

/-- An exchange that holds its gates starts its attempt and goes on. -/
theorem runAll_acquired {s s₀ : System} {reservation : GateReservation}
    (sha256 : List UInt8 → String) (hexchange : s.exchanges.get? id = some e)
    (hstage : e.stage = .acquired reservation)
    (hauthority : s.coordinators.get? e.coordinator = some authority) (n : Nat)
    (hhistory : s.history.filterMap Event.sent = s₀.history.filterMap Event.sent) :
    Concluded s₀ (runAll (next lower) (List.replicate (n + 4) (.advance id factory answer)) s)
      e.coordinator
      (match markPhysicalAttemptStarted e.call.attempt.physicalAttemptId e.call.lease
          e.call.startedAt s.database with
        | (.error x, db) => ⟨.error x, authority, db, none⟩
        | (.ok _, db) =>
          match authority.issue factory reservation with
          | .error error =>
            settleExchange sha256 e.call reservation (issueDisposition error) none authority none db
          | .ok (permit, authority) =>
            let sent := controlledSend lower e.sender authority e.call.request permit
              e.call.transportPolicy answer
            settleExchange sha256 e.call reservation (sendDisposition sent.outcome)
              sent.outcome.toOption sent.authority (if sent.invoked then some permit else none)
              db) := by
  rw [List.replicate_succ, runAll, List.foldl_cons]
  rcases hstart : markPhysicalAttemptStarted e.call.attempt.physicalAttemptId e.call.lease
    e.call.startedAt s.database with ⟨result, db⟩
  have hrun : e.call.start.run s.database = (result, db) := hstart
  have hdb : e.call.start.next s.database = db := congrArg Prod.snd hstart
  cases result with
  -- the start is refused and nothing is recorded: the gates stay taken
  | error x =>
    have hstep : s.next lower (.advance id factory answer) =
        (s.perform (some id) e.call.start).goto id .ended := by
      simp only [next, hexchange, advance, hstage, hrun]
    rw [hstep]
    refine Concluded.ended (s := s.perform (some id) e.call.start) hexchange ?_ _
    exact ⟨hdb, hauthority, by simp [hhistory, Event.sent]⟩
  | ok u =>
    have hstep : s.next lower (.advance id factory answer) =
        (s.perform (some id) e.call.start).goto id (.started reservation) := by
      simp only [next, hexchange, advance, hstage, hrun]
    rw [hstep, ← hdb]
    exact runAll_started (s := (s.perform _ _).goto id _) (e := e.at_ (.started reservation)) sha256
      (by simp [hexchange]) rfl hauthority n (by simp [hhistory, Event.sent])

/-- An exchange that was just entered runs as `exchange` does. -/
theorem runAll_entered {s s₀ : System} (sha256 : List UInt8 → String)
    (hexchange : s.exchanges.get? id = some e) (hstage : e.stage = .entered)
    (hauthority : s.coordinators.get? e.coordinator = some authority) (n : Nat)
    (hhistory : s.history.filterMap Event.sent = s₀.history.filterMap Event.sent) :
    Concluded s₀ (runAll (next lower) (List.replicate (n + 5) (.advance id factory answer)) s)
      e.coordinator
      (exchange sha256 (controlledSend lower e.sender) e.call factory answer authority
        s.database) := by
  rw [List.replicate_succ, runAll, List.foldl_cons]
  unfold exchange
  -- the request is checked first, then the gates are taken, as in `exchange`
  by_cases hmatches : e.call.Matches
  · rcases hacquire : acquireGates e.call.reservationId e.call.attempt e.call.keys
      e.call.gatePolicy e.call.lease e.call.startedAt s.database with ⟨result, db⟩
    have hdb : e.call.acquisition.next s.database = db := congrArg Prod.snd hacquire
    cases result with
    | error x =>
      have hstep : s.next lower (.advance id factory answer) =
          (s.perform (some id) e.call.acquisition).goto id .ended := by
        simp only [next, hexchange, advance, hstage, hmatches, not_true_eq_false, if_false, hacquire]
      rw [hstep]
      simp only [hmatches, not_true_eq_false, if_false]
      refine Concluded.ended (s := s.perform (some id) e.call.acquisition) hexchange ?_ _
      exact ⟨hdb, hauthority, by simp [hhistory, Event.sent]⟩
    | ok reservation =>
      have hstep : s.next lower (.advance id factory answer) =
          (s.perform (some id) e.call.acquisition).goto id (.acquired reservation) := by
        simp only [next, hexchange, advance, hstage, hmatches, not_true_eq_false, if_false, hacquire]
      rw [hstep, ← hdb]
      simp only [hmatches, not_true_eq_false, if_false]
      exact runAll_acquired (s := (s.perform (some id) e.call.acquisition).goto id _)
        (e := e.at_ (.acquired reservation)) sha256 (by simp [hexchange]) rfl hauthority n
        (by simp [hhistory, Event.sent])
  · have hstep : s.next lower (.advance id factory answer) = s.goto id .ended := by
      simp only [next, hexchange, advance, hstage, hmatches, not_false_eq_true, if_true]
    rw [hstep]
    simp only [hmatches, not_false_eq_true, if_true]
    refine Concluded.ended hexchange ?_ _
    exact ⟨rfl, hauthority, by simp [hhistory]⟩

/-- An exchange that nobody interrupts is the one of `exchange`. -/
theorem exchange_refines (sha256 : List UInt8 → String) {s : System} (call : ExchangeCall)
    (sender : Sender) (hfresh : s.exchanges.get? id = none)
    (hauthority : s.coordinators.get? coordinator = some authority) :
    Concluded s
      (runAll (next lower) (.enter id coordinator call sender ::
        List.replicate 5 (.advance id factory answer)) s) coordinator
      (exchange sha256 (controlledSend lower sender) call factory answer authority
        s.database) := by
  rw [runAll, List.foldl_cons]
  refine runAll_entered (s := s.next lower (.enter id coordinator call sender : Action ρ))
    (e := ⟨coordinator, call, sender, .entered⟩) sha256 ?_ rfl hauthority 0 rfl
  simp only [next, Table.get?_insert hfresh, if_true]

end System

end StockResearch.Requests
