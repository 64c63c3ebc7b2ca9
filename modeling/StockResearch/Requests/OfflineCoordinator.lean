import StockResearch.Contracts.AgentExecution
import StockResearch.Lib.Run
import StockResearch.Lib.Table
import StockResearch.Requests.SourceBinding

/-!
# The offline coordinator

The memory-only coordinator of the fixture tests: it sends at most once, and returns a
gate restriction at once instead of waiting. Its transport may call it again before it
returns. Times and limits are exact fractions.

- `prepare`: a call up to its send; an error is the result of a call that sends nothing.
- `Coordinator.begins`, `Coordinator.ends`: what the start and the end of a send do.
- `Session`: the coordinator, the calls that are being sent, and a log of both.
-/

namespace StockResearch.Requests.Offline

open Contracts (AgentRole ArtifactReference KnowledgeStatus PyFloat)

/-! ## Requests, results and events -/

/-- `CoordinatorRequest` -/
structure CoordinatorRequest where
  taskId : Contracts.Identifier
  consumerRole : AgentRole
  operation : Contracts.Identifier
  origin : Contracts.Identifier
  resourceKey : Contracts.Identifier
  logicalRequestId : Contracts.Identifier
  applicablePeriod : Contracts.Identifier
  freshnessIdentity : Contracts.Identifier

/-- `SourceBinding`, with what else the coordinator reads of its profile. -/
structure CoordinatorBinding extends SourceBinding where
  rateDomain : Contracts.Identifier
  policyVersion : Nat

/-- The statuses of a response. -/
inductive StatusCategory where
  | ok
  | providerError
  | rateLimited
deriving DecidableEq

def StatusCategory.text : StatusCategory → String
  | ok => "ok"
  | providerError => "provider_error"
  | rateLimited => "rate_limited"

/-- `TransportResponse` -/
structure TransportResponse where
  succeeded : Bool
  payload : Option (List UInt8)
  statusCategory : StatusCategory
  retryAfterSeconds : Option PyFloat

/-- A delay that is finite and not negative. -/
def delay? : PyFloat → Option ℚ
  | .finite value => if 0 ≤ value then some value else none
  | _ => none

/-- `is_valid` -/
def TransportResponse.isValid (response : TransportResponse) : Bool :=
  response.retryAfterSeconds.all (fun retry => (delay? retry).isSome) &&
    if response.succeeded then
      response.payload.isSome && response.statusCategory = .ok && response.retryAfterSeconds.isNone
    else
      response.payload.isNone && response.statusCategory ≠ .ok

/-- `GateOutcome` -/
inductive GateOutcome where
  | acquired
  | blocked
  | cooldown
deriving DecidableEq

/-- `RateGateResultV1` -/
structure RateGateResult where
  keyAlias : Contracts.Identifier
  outcome : GateOutcome
  detail : String

/-- The event types the coordinator writes. -/
inductive RequestEventType where
  | logicalRequested
  | gatesEvaluated
  | physicalStarted
  | physicalSucceeded
  | physicalFailed
  | cooldownRecorded
deriving DecidableEq

/-- The outcomes the coordinator writes. -/
inductive RequestOutcome where
  | pending
  | succeeded
  | failed
deriving DecidableEq

/-- `RequestErrorV1` -/
structure RequestError where
  errorClass : String
  message : String
  retryAfterSeconds : Option ℚ
  cooldownUntil : Option String

/-- `ExternalRequestEventV1` -/
structure RequestEvent where
  eventId : Contracts.Identifier
  occurredAt : String
  eventType : RequestEventType
  taskId : Contracts.Identifier
  logicalRequestId : Contracts.Identifier
  physicalAttemptId : Option Contracts.Identifier
  consumerRole : AgentRole
  provider : Contracts.Identifier
  operation : Contracts.Identifier
  origin : Contracts.Identifier
  credentialScopeAlias : Option Contracts.Identifier
  sourceApprovalReference : ArtifactReference
  sourceProfileReference : ArtifactReference
  requestFingerprint : Contracts.Sha256Hex
  gateResults : List RateGateResult
  outcome : RequestOutcome
  error : Option RequestError

inductive AttemptStatus where
  | succeeded
  | failed
  | blocked
  | rejected
deriving DecidableEq

/-- `AttemptResult` -/
structure AttemptResult where
  status : AttemptStatus
  reasonCode : String
  payload : Option (List UInt8) := none
  retryAfterSeconds : Option ℚ := none
  events : List RequestEvent := []

/-- A rejection with no events. -/
def rejected (reasonCode : String) : AttemptResult := { status := .rejected, reasonCode := reasonCode }

/-- The result of a call whose inputs raise. -/
def invalidInput : AttemptResult := rejected "invalid_attempt_input"

/-- What the fingerprint of a request covers. -/
structure RequestIdentity where
  request : CoordinatorRequest
  sourceId : Contracts.Identifier
  approval : ArtifactReference
  profile : ArtifactReference
  profileVersion : Nat
  policyVersion : Nat
  credentialScopeAlias : Option Contracts.Identifier

/-- `fingerprint`; `digest` does not look at the logical request. -/
def CoordinatorBinding.fingerprint (digest : RequestIdentity → Contracts.Sha256Hex)
    (binding : CoordinatorBinding) (request : CoordinatorRequest) : Contracts.Sha256Hex :=
  digest
    { request := request
      sourceId := binding.profile.sourceId
      approval := binding.approvalReference
      profile := binding.profileReference
      profileVersion := binding.profile.profileVersion
      policyVersion := binding.policyVersion
      credentialScopeAlias := binding.profile.credentialScopeAlias }

/-! ## Gates -/

/-- `limits`: concurrency, interval, requests, window, burst and the cooldown's status. -/
abbrev Limits := Nat × ℚ × Int × ℚ × Nat × KnowledgeStatus

def Limits.interval (limits : Limits) : ℚ := limits.2.1
def Limits.requests (limits : Limits) : Int := limits.2.2.1
def Limits.window (limits : Limits) : ℚ := limits.2.2.2.1

/-- `float(value)` of an integer, exactly. -/
def exactFloat (value : Int) : Option ℚ := some value

/-- `_Domain` -/
structure Domain where
  limits : Limits
  occupied : Bool := false
  lastStart : Option ℚ := none
  starts : List ℚ := []
  cooldown : ℚ := 0

/-- `items[-n]` -/
def fromEnd {α : Type} (items : List α) (n : Int) : Option α :=
  if 0 < n then
    if n ≤ items.length then items[items.length - n.toNat]? else none
  else items[(-n).toNat]?

/-- The starts less than one window ago. -/
def Domain.active (domain : Domain) (now : ℚ) : List ℚ :=
  domain.starts.filter fun start => now - start < domain.limits.window

/-- What remains of the four restrictions. -/
structure Remaining where
  cooldown : ℚ
  occupancy : ℚ
  interval : ℚ
  window : ℚ

/-- What remains of the rolling window; an index out of range raises. -/
def Domain.windowWait (domain : Domain) (now : ℚ) : Option ℚ :=
  if domain.limits.requests ≤ (domain.active now).length then
    (fromEnd (domain.active now) domain.limits.requests).map fun start =>
      max 0 (start + domain.limits.window - now)
  else some 0

/-- The remaining restrictions. -/
def Domain.remaining (domain : Domain) (now : ℚ) : Option Remaining :=
  (domain.windowWait now).map fun window =>
    { cooldown := max 0 (domain.cooldown - now)
      occupancy := if domain.occupied then 1 else 0
      interval := domain.lastStart.elim 0 fun last => max 0 (last + domain.limits.interval - now)
      window := window }

namespace Remaining

/-- `any(remaining)` -/
def blocked (r : Remaining) : Bool :=
  r.cooldown ≠ 0 ∨ r.occupancy ≠ 0 ∨ r.interval ≠ 0 ∨ r.window ≠ 0

/-- `max(remaining)` -/
def maximum (r : Remaining) : ℚ := max (max (max r.cooldown r.occupancy) r.interval) r.window

/-- The results of the four gates. -/
def gates (r : Remaining) (rateDomain : Contracts.Identifier) : List RateGateResult :=
  let result (value : ℚ) (restricted : GateOutcome) (detail : String) : RateGateResult :=
    ⟨rateDomain, if value ≠ 0 then restricted else .acquired, detail⟩
  [result r.cooldown .cooldown "cooldown", result r.occupancy .blocked "occupancy",
    result r.interval .blocked "minimum_interval", result r.window .blocked "rolling_window"]

end Remaining

/-! ## The coordinator -/

/-- `Coordinator`: the fields that change. -/
structure Coordinator where
  domains : Table Contracts.Identifier Domain
  lastClock : Option ℚ

/-- What the two clocks return; nothing where one raises or returns no number, or no
datetime in UTC. -/
structure ClockReading where
  monotonic : Option PyFloat
  utcnow : Option DateTime

/-- `_clock` -/
def Coordinator.clock (coordinator : Coordinator) (reading : ClockReading) :
    Option (ℚ × DateTime) :=
  match reading.monotonic, reading.utcnow with
  | some (.finite now), some utc =>
    if 0 ≤ now ∧ ∀ last ∈ coordinator.lastClock, last ≤ now then some (now, utc) else none
  | _, _ => none

/-- The arguments of a call and what its clocks and factories return. An invalid request,
and a binding that is a rejection, are missing here. -/
structure AttemptInputs where
  request : Option CoordinatorRequest
  binding : Option CoordinatorBinding
  clock : ClockReading
  eventId : Nat → Option String
  physicalId : Option String

/-- `IDENTIFIER_ADAPTER.validate_python` -/
def identifier? (text : String) : Option Contracts.Identifier :=
  if h : Contracts.isIdentifier text then some ⟨text, h⟩ else none

/-- The event identifiers of a call. -/
def AttemptInputs.eventIds (inputs : AttemptInputs) (n : Nat) :
    Except AttemptResult (List Contracts.Identifier) := do
  let ids ← (List.range n).mapM fun index =>
    fetch ((inputs.eventId index).bind identifier?) invalidInput
  require ids.Nodup invalidInput
  pure ids

/-- The identifier of the physical attempt, when there will be one. -/
def AttemptInputs.physical (inputs : AttemptInputs) (blocked : Bool) :
    Except AttemptResult (Option Contracts.Identifier) :=
  if blocked then pure none
  else (fetch (inputs.physicalId.bind identifier?) invalidInput).map some

/-- The references an event accepts. -/
def CoordinatorBinding.referencesValid (binding : CoordinatorBinding) : Bool :=
  binding.approvalReference.schemaId.val = "detailed-analysis.source-approval" &&
    binding.profileReference.schemaId.val = "detailed-analysis.source-profile"

/-- A call between its checks and the end of its send. -/
structure PendingCall where
  request : CoordinatorRequest
  binding : CoordinatorBinding
  domain : Domain
  now : ℚ
  utc : DateTime
  ids : List Contracts.Identifier
  physical : Option Contracts.Identifier
  gates : List RateGateResult
  fingerprint : Contracts.Sha256Hex

def PendingCall.rateDomain (call : PendingCall) : Contracts.Identifier := call.binding.rateDomain

/-- `event`; an identifier that was not reserved raises. -/
def PendingCall.event (call : PendingCall) (index : Nat) (kind : RequestEventType)
    (outcome : RequestOutcome) (error : Option RequestError) (timestamp : DateTime) :
    Option RequestEvent :=
  call.ids[index]?.map fun id =>
    { eventId := id
      occurredAt := isoformat timestamp
      eventType := kind
      taskId := call.request.taskId
      logicalRequestId := call.request.logicalRequestId
      physicalAttemptId := if 2 ≤ index then call.physical else none
      consumerRole := call.request.consumerRole
      provider := call.rateDomain
      operation := call.request.operation
      origin := call.request.origin
      credentialScopeAlias := call.binding.profile.credentialScopeAlias
      sourceApprovalReference := call.binding.approvalReference
      sourceProfileReference := call.binding.profileReference
      requestFingerprint := call.fingerprint
      gateResults := if index = 0 then [] else call.gates
      outcome := outcome
      error := error }

/-- The first two events of a call. -/
def PendingCall.evaluated (call : PendingCall) : List RequestEvent :=
  (call.event 0 .logicalRequested .pending none call.utc).toList ++
    (call.event 1 .gatesEvaluated .pending none call.utc).toList

/-- The events of a call that is sent, up to its start. -/
def PendingCall.startedEvents (call : PendingCall) : List RequestEvent :=
  call.evaluated ++ (call.event 2 .physicalStarted .pending none call.utc).toList

/-- What a call has found once its gates are evaluated. -/
structure Evaluation where
  request : CoordinatorRequest
  binding : CoordinatorBinding
  domain : Domain
  now : ℚ
  utc : DateTime
  remaining : Remaining

/-- `attempt` up to the evaluation of its gates. -/
def evaluate (coordinator : Coordinator) (inputs : AttemptInputs) :
    Except AttemptResult Evaluation := do
  let binding ← fetch inputs.binding (rejected "invalid_source_binding")
  let request ← fetch inputs.request invalidInput
  let limits ← fetch (binding.limits exactFloat).toOption invalidInput
  let (now, utc) ← fetch (coordinator.clock inputs.clock) invalidInput
  let domain := (coordinator.domains.get? binding.rateDomain).getD { limits := limits }
  require (domain.limits = limits) (rejected "conflicting_rate_domain")
  let remaining ← fetch (domain.remaining now) invalidInput
  pure ⟨request, binding, domain, now, utc, remaining⟩

/-- The identifiers of a call are reserved before it consumes anything. -/
def Evaluation.reserve (digest : RequestIdentity → Contracts.Sha256Hex) (inputs : AttemptInputs)
    (e : Evaluation) : Except AttemptResult PendingCall := do
  let ids ← inputs.eventIds (if e.remaining.blocked then 2 else 5)
  let physical ← inputs.physical e.remaining.blocked
  require e.binding.referencesValid invalidInput
  pure
    { request := e.request
      binding := e.binding
      domain := e.domain
      now := e.now
      utc := e.utc
      ids := ids
      physical := physical
      gates := e.remaining.gates e.binding.rateDomain
      fingerprint := e.binding.fingerprint digest e.request }

/-- The result of a call that its gates block. -/
def Evaluation.blockedResult (e : Evaluation) (call : PendingCall) : AttemptResult :=
  { status := .blocked
    reasonCode := "rate_gate_blocked"
    retryAfterSeconds := if e.domain.occupied then none else some e.remaining.maximum
    events := call.evaluated }

/-- `attempt` before the send. An error is what a call returns that sends nothing. -/
def prepare (digest : RequestIdentity → Contracts.Sha256Hex) (coordinator : Coordinator)
    (inputs : AttemptInputs) : Except AttemptResult PendingCall := do
  let e ← evaluate coordinator inputs
  let call ← e.reserve digest inputs
  require (e.remaining.blocked = false) (e.blockedResult call)
  pure call

/-- `attempt` at the start of the send. -/
def Coordinator.begins (coordinator : Coordinator) (call : PendingCall) : Coordinator :=
  let domain : Domain :=
    { call.domain with
      occupied := true
      lastStart := some call.now
      starts := call.domain.active call.now ++ [call.now] }
  { domains := coordinator.domains.upsert call.rateDomain domain fun _ => domain
    lastClock := some call.now }

/-- How the transport ends: with an exception that `attempt` does not handle, with one it
does, or with a response, which is missing when it does not validate. -/
inductive SendOutcome where
  | interrupted
  | raised
  | returned (response : Option TransportResponse)

/-- The reason and the response, before the clocks are read again. -/
def SendOutcome.received : SendOutcome → String × Option TransportResponse
  | .interrupted | .raised => ("transport_exception", none)
  | .returned none => ("invalid_transport_response", none)
  | .returned (some response) =>
    if response.isValid then (response.statusCategory.text, some response)
    else ("invalid_transport_response", none)

/-- What a call reports of its send. -/
structure Settled where
  reason : String
  response : Option TransportResponse
  retry : Option ℚ
  deadline : Option ℚ
  cooldownUntil : Option String
  receivedUtc : DateTime

/-- The delay a response asks for. -/
def TransportResponse.retryDelay? (response : TransportResponse) : Option ℚ :=
  response.retryAfterSeconds.bind delay?

/-- `(received_utc + timedelta(seconds=delay)).isoformat()`; both operations overflow. -/
def cooldownText (receivedUtc : DateTime) (delay : ℚ) : Option String := do
  let micros ← timedelta ⟨delay.num.toNat, delay.den, delay.den_pos⟩
  let until_ ← receivedUtc.add? micros
  pure (isoformat until_)

/-- The cooldown a response asks for: its deadline and the text of it. -/
def Coordinator.cool (coordinator : Coordinator) (call : PendingCall) (received : ℚ)
    (receivedUtc : DateTime) (retry : ℚ) : Option (ℚ × String × Coordinator) :=
  let cooldown := (coordinator.domains.get? call.rateDomain).elim call.domain.cooldown (·.cooldown)
  let deadline := max cooldown (received + retry)
  (cooldownText receivedUtc (deadline - received)).map fun text =>
    (deadline, text,
      { coordinator with domains := coordinator.domains.modify call.rateDomain fun domain =>
        { domain with cooldown := deadline } })

/-- What is reported when the second reading of the clocks, or the cooldown, fails. -/
def PendingCall.unsettled (call : PendingCall) : Settled :=
  ⟨"invalid_response_clock_or_cooldown", none, none, none, none, call.utc⟩

/-- What is reported of a response that asks for a delay. -/
def Coordinator.cooledOr (coordinator : Coordinator) (call : PendingCall) (reason : String)
    (response : Option TransportResponse) (receivedUtc : DateTime) (retry : ℚ) :
    Option (ℚ × String × Coordinator) → Settled × Coordinator
  | none => (call.unsettled, coordinator)
  | some (deadline, text, cooled) =>
    (⟨reason, response, some retry, some deadline, some text, receivedUtc⟩, cooled)

/-- The second reading of the clocks, and the cooldown. -/
def Coordinator.settle (coordinator : Coordinator) (call : PendingCall) (outcome : SendOutcome)
    (reading : ClockReading) : Settled × Coordinator :=
  match coordinator.clock reading with
  | none => (call.unsettled, coordinator)
  | some (received, receivedUtc) =>
    let (reason, response) := outcome.received
    let coordinator := { coordinator with lastClock := some received }
    match response.bind (·.retryDelay?) with
    | none => (⟨reason, response, none, none, none, receivedUtc⟩, coordinator)
    | some retry =>
      coordinator.cooledOr call reason response receivedUtc retry
        (coordinator.cool call received receivedUtc retry)

/-- The `finally` clause. -/
def Coordinator.release (coordinator : Coordinator) (rateDomain : Contracts.Identifier) :
    Coordinator :=
  { coordinator with domains := coordinator.domains.modify rateDomain fun domain =>
      { domain with occupied := false } }

/-- The result of a call that was sent. -/
def PendingCall.result (call : PendingCall) (settled : Settled) : AttemptResult :=
  match settled.response.filter (·.succeeded) with
  | some response =>
    { status := .succeeded
      reasonCode := "ok"
      payload := response.payload
      events := call.startedEvents ++
        (call.event 3 .physicalSucceeded .succeeded none settled.receivedUtc).toList }
  | none =>
    let error : RequestError :=
      ⟨settled.reason, "Offline physical attempt failed.", settled.retry, settled.cooldownUntil⟩
    { status := .failed
      reasonCode := settled.reason
      retryAfterSeconds := settled.retry
      events := call.startedEvents ++
        (call.event 3 .physicalFailed .failed (some error) settled.receivedUtc).toList ++
        if settled.cooldownUntil.isSome then
          (call.event 4 .cooldownRecorded .failed (some error) settled.receivedUtc).toList
        else [] }

/-- `attempt` after the send: its result, which is missing when the exception of the
transport leaves the call, and what it has settled. -/
def Coordinator.ends (coordinator : Coordinator) (call : PendingCall) (outcome : SendOutcome)
    (reading : ClockReading) : Option (AttemptResult × Settled) × Coordinator :=
  match outcome with
  | .interrupted => (none, coordinator.release call.rateDomain)
  | _ =>
    let (settled, coordinator) := coordinator.settle call outcome reading
    (some (call.result settled, settled), coordinator.release call.rateDomain)

/-! ## Sessions -/

/-- What happens in a rate domain. -/
inductive Entry where
  | started (rateDomain : Contracts.Identifier) (limits : Limits) (now : ℚ)
  | cooled (rateDomain : Contracts.Identifier) (deadline : ℚ)
  | ended (rateDomain : Contracts.Identifier)

/-- The coordinator between two steps: the sends in progress, the innermost first, and
the log, which nothing reads. -/
structure Session where
  coordinator : Coordinator
  sending : List PendingCall
  log : List Entry

/-- A call is made, from outside or from inside the innermost send; or that send ends. -/
inductive SessionStep where
  | attempt (inputs : AttemptInputs)
  | sendEnds (outcome : SendOutcome) (reading : ClockReading)

def Session.next (digest : RequestIdentity → Contracts.Sha256Hex) (step : SessionStep) (s : Session) :
    Session :=
  match step with
  | .attempt inputs =>
    match prepare digest s.coordinator inputs with
    | .error _ => s
    | .ok call =>
      { coordinator := s.coordinator.begins call
        sending := call :: s.sending
        log := s.log ++ [.started call.rateDomain call.domain.limits call.now] }
  | .sendEnds outcome reading =>
    match s.sending with
    | [] => s
    | call :: rest =>
      let ended := s.coordinator.ends call outcome reading
      let deadline := ended.1.bind fun result => result.2.deadline
      { coordinator := ended.2
        sending := rest
        log := s.log ++ (deadline.map (Entry.cooled call.rateDomain)).toList ++
          [.ended call.rateDomain] }

/-- A coordinator as `__init__` makes it. -/
def Session.initial : Session := ⟨⟨.empty, none⟩, [], []⟩

/-- The sessions of all runs. -/
def Session.Reachable (digest : RequestIdentity → Contracts.Sha256Hex) (s : Session) : Prop :=
  Reaches (Session.next digest) (fun _ _ => True) Session.initial s

end StockResearch.Requests.Offline
