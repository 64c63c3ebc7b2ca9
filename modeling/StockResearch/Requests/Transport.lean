import StockResearch.Requests.Operation

/-!
# The permit-only transport boundary

A coordinator executes one admitted physical attempt: it acquires the gates, marks
the attempt started, issues a one-shot permit, invokes the transport callback with it
and records what came back. The callback and the permit-id factory are outside the
repository; an exchange is a function of how they behave.

Two things of the language are parameters: `lower` (`str.lower`) and `sha256` (the
hex digest of the body). No result depends on what they compute.

- `PermitAuthority.issue`, `PermitAuthority.consume`: the in-memory permit table.
- `send`, `sendEphemeral`: the controlled invocation of the callback.
- `executeExchange`, `executeExchangeWithCallback`: the two entry points.
-/

namespace StockResearch.Requests

/-! ## Requests and responses -/

/-- Credential-free request description passed to an internal transport. -/
structure PhysicalTransportRequest where
  logicalRequestId : Identifier
  physicalAttemptId : Identifier
  origin : Identifier
  operation : Identifier
  resourceKey : Identifier
deriving DecidableEq

/-- Untrusted transport metadata that its model admits. -/
structure UntrustedTransportResponse where
  statusCode : Nat
  body : List UInt8
  mediaType : String
  encoding : String
  finalOrigin : Identifier
  redirected : Bool
  retryAfterSeconds : Option Seconds := none
  status_ge : 100 ≤ statusCode
  status_le : statusCode ≤ 599
  mediaType_ge : 1 ≤ mediaType.length
  mediaType_le : mediaType.length ≤ 128
  encoding_ge : 1 ≤ encoding.length
  encoding_le : encoding.length ≤ 64

/-- Provider-independent format validation. -/
structure TransportValidationPolicy where
  allowedMediaTypes : List String
  allowedEncodings : List String
  allowedRedirectOrigins : List Identifier := []
  mediaTypes_ne : allowedMediaTypes ≠ []
  encodings_ne : allowedEncodings ≠ []

/-- What the transport callback did. -/
inductive CallbackOutcome (ρ : Type)
  /-- It returned a response and an opaque provider value. -/
  | returned (response : UntrustedTransportResponse) (provider : ρ)
  /-- It returned a value, or a pair with one, that the response model rejects. -/
  | malformed
  /-- It returned no pair; for `send`, which expects none, no response either. -/
  | unpaired
  /-- It raised `ReceivedResponseValidationError`. -/
  | receivedInvalid
  /-- It raised another `Exception`. -/
  | raised
  /-- It raised a `BaseException` that is no `Exception`. -/
  | interrupted

/-- Validated bytes awaiting durable staging. -/
structure TemporaryRawCandidate where
  physicalAttemptId : Identifier
  body : List UInt8
  sha256 : String
  mediaType : String
  encoding : String
deriving DecidableEq

/-- The reported status of an exchange. -/
inductive TransportStatus
  | succeeded | failed | unknown
deriving DecidableEq

/-- Sanitized production control-path outcome. -/
structure TransportExecutionResult where
  status : TransportStatus
  reasonCode : String
  candidate : Option TemporaryRawCandidate := none
deriving DecidableEq

/-- Exchange outcome paired with a provider response that is never persisted. -/
structure TransportExchangeResult (ρ : Type) where
  execution : TransportExecutionResult
  statusCode : Option Nat
  providerResponse : Option ρ := none
deriving DecidableEq

/-! ## Permits -/

/-- Opaque one-shot capability. `serial` is the identity of the object, `authorityToken`
the identity of the private token of its coordinator. -/
structure TransportPermit where
  permitId : String
  physicalAttemptId : Identifier
  logicalRequestId : Identifier
  leaseGeneration : Nat
  authorityToken : Nat
  serial : Nat
deriving DecidableEq

/-- `_PermitAuthority`: the private token, the number of permits made so far, and the
permits issued and not yet consumed. -/
structure PermitAuthority where
  token : Nat
  issued : Nat := 0
  active : Table String TransportPermit := .empty

/-- `_PermitAuthority.issue`, with what the permit-id factory returned or raised. -/
def PermitAuthority.issue (authority : PermitAuthority) (factory : Except Exn String)
    (reservation : GateReservation) : Except Exn (TransportPermit × PermitAuthority) := do
  let permitId ← factory
  require (authority.active.get? permitId = none) (.storage .duplicateTransportPermit)
  let permit : TransportPermit :=
    { permitId := permitId, physicalAttemptId := reservation.physicalAttemptId
      logicalRequestId := reservation.logicalRequestId
      leaseGeneration := reservation.leaseGeneration
      authorityToken := authority.token, serial := authority.issued }
  pure (permit,
    { authority with
      issued := authority.issued + 1, active := authority.active.insert permitId permit })

/-- `_PermitAuthority.consume`: the permit leaves the table before it is checked. -/
def PermitAuthority.consume (authority : PermitAuthority) (permit : TransportPermit)
    (request : PhysicalTransportRequest) : Except Exn Unit × PermitAuthority :=
  (require (permit.authorityToken = authority.token ∧
      (authority.active.get? permit.permitId).map (·.serial) = some permit.serial ∧
      permit.physicalAttemptId = request.physicalAttemptId ∧
      permit.logicalRequestId = request.logicalRequestId)
    (.storage .invalidTransportPermit),
    { authority with active := authority.active.deleteWhere fun id _ => id = permit.permitId })

/-! ## Controlled sends -/

section

variable (lower : String → String)

/-- `_validate_response` -/
def validateResponse (request : PhysicalTransportRequest) (response : UntrustedTransportResponse)
    (policy : TransportValidationPolicy) : Except Exn Unit := do
  require (lower response.mediaType ∈ policy.allowedMediaTypes.map lower)
    (.storage .responseMediaTypeRejected)
  require (lower response.encoding ∈ policy.allowedEncodings.map lower)
    (.storage .responseEncodingRejected)
  require (response.finalOrigin ∈ request.origin :: policy.allowedRedirectOrigins)
    (.storage .responseOriginRejected)
  require (¬ (response.redirected = true ∧ response.finalOrigin = request.origin))
    (.storage .responseRedirectInconsistent)
  require (¬ (response.redirected = false ∧ response.finalOrigin ≠ request.origin))
    (.storage .responseOriginInconsistent)

/-- How a send fails: `_TransportCallbackError`, any other `Exception`, or an exception
that `except Exception` does not take. -/
inductive SendFailure
  | callbackError
  | otherError
  | interrupted
deriving DecidableEq

/-- The two sends of `_ControlledTransport`. -/
inductive Sender
  /-- `send`: every `Exception` of the callback is a callback error. -/
  | plain
  /-- `send_ephemeral`: `ReceivedResponseValidationError` passes, and what the callback
  returned is unpacked inside the `try`. -/
  | ephemeral
deriving DecidableEq

/-- How a `ReceivedResponseValidationError` leaves a send. -/
def Sender.received : Sender → SendFailure
  | .plain => .callbackError
  | .ephemeral => .otherError

/-- How a send fails on a value that is no pair. -/
def Sender.unpaired : Sender → SendFailure
  | .plain => .otherError
  | .ephemeral => .callbackError

/-- What a controlled send returns, the permit table it leaves, and whether it invoked
the callback. -/
structure SendResult (ρ : Type) where
  outcome : Except SendFailure (UntrustedTransportResponse × ρ)
  authority : PermitAuthority
  invoked : Bool

/-- One send: the permit is consumed, then the callback runs, then its response is
validated. -/
def controlledSend {ρ : Type} (sender : Sender) (authority : PermitAuthority)
    (request : PhysicalTransportRequest) (permit : TransportPermit)
    (policy : TransportValidationPolicy) (callback : CallbackOutcome ρ) : SendResult ρ :=
  match authority.consume permit request with
  | (.error _, authority) => ⟨.error .otherError, authority, false⟩
  | (.ok _, authority) =>
    match callback with
    | .interrupted => ⟨.error .interrupted, authority, true⟩
    | .raised => ⟨.error .callbackError, authority, true⟩
    | .receivedInvalid => ⟨.error sender.received, authority, true⟩
    | .unpaired => ⟨.error sender.unpaired, authority, true⟩
    | .malformed => ⟨.error .otherError, authority, true⟩
    | .returned response provider =>
      match validateResponse lower request response policy with
      | .error _ => ⟨.error .otherError, authority, true⟩
      | .ok _ => ⟨.ok (response, provider), authority, true⟩

/-- `_ControlledTransport.send` -/
def send {ρ : Type} (authority : PermitAuthority) (request : PhysicalTransportRequest)
    (permit : TransportPermit) (policy : TransportValidationPolicy)
    (callback : CallbackOutcome ρ) : SendResult ρ :=
  controlledSend lower .plain authority request permit policy callback

/-- `_ControlledTransport.send_ephemeral` -/
def sendEphemeral {ρ : Type} (authority : PermitAuthority) (request : PhysicalTransportRequest)
    (permit : TransportPermit) (policy : TransportValidationPolicy)
    (callback : CallbackOutcome ρ) : SendResult ρ :=
  controlledSend lower .ephemeral authority request permit policy callback

end

/-! ## Dispositions -/

/-- The branches of an exchange after its attempt was started. -/
inductive Disposition
  | permitIssuanceFailed
  | outcomeUnknown
  | invalidResponse
  | rateLimited (retryAfter : Seconds)
  | providerError
  | ok
deriving DecidableEq

/-- The branch of an accepted response. -/
def responseDisposition (response : UntrustedTransportResponse) : Disposition :=
  match response.retryAfterSeconds with
  | some seconds =>
    if response.statusCode = 429 then .rateLimited seconds
    else if 200 ≤ response.statusCode ∧ response.statusCode < 300 then .ok else .providerError
  | none => if 200 ≤ response.statusCode ∧ response.statusCode < 300 then .ok else .providerError

/-- The branch a refused permit leads to, if the exchange is not interrupted. -/
def issueDisposition (error : Exn) : Option Disposition :=
  if error = .interrupt then none else some .permitIssuanceFailed

/-- The branch a send leads to, if the exchange is not interrupted. -/
def sendDisposition {ρ : Type} (result : Except SendFailure (UntrustedTransportResponse × ρ)) :
    Option Disposition :=
  match result with
  | .error .callbackError => some .outcomeUnknown
  | .error .otherError => some .invalidResponse
  | .error .interrupted => none
  | .ok (response, _) => some (responseDisposition response)

/-- The repository call of each branch. -/
def Disposition.record (disposition : Disposition) (reservation : GateReservation)
    (lease : RuntimeLease) (completedAt : DateTime) (db : Database) : Except Exn Unit × Database :=
  match disposition with
  | .permitIssuanceFailed | .invalidResponse =>
    releaseGates reservation .failed lease completedAt none db
  | .outcomeUnknown => recordUnknownOutcome reservation lease completedAt db
  | .rateLimited seconds => recordRetryAfter reservation seconds lease completedAt db
  | .providerError => releaseGates reservation .failed lease completedAt (some true) db
  | .ok => releaseGates reservation .succeeded lease completedAt none db

/-- The reported result of each branch. -/
def Disposition.execution (disposition : Disposition) (candidate : Option TemporaryRawCandidate) :
    TransportExecutionResult :=
  match disposition with
  | .permitIssuanceFailed => ⟨.failed, "permit_issuance_failed", none⟩
  | .outcomeUnknown => ⟨.unknown, "transport_outcome_unknown", none⟩
  | .invalidResponse => ⟨.failed, "invalid_transport_response", none⟩
  | .rateLimited _ => ⟨.failed, "rate_limited", candidate⟩
  | .providerError => ⟨.failed, "provider_error", candidate⟩
  | .ok => ⟨.succeeded, "ok", candidate⟩

/-! ## Exchanges -/

/-- The arguments of one exchange. `completedAt` is the completion time it is given, or
the reading of its completion clock. -/
structure ExchangeCall where
  request : PhysicalTransportRequest
  attempt : ProductionPhysicalAttempt
  reservationId : Identifier
  keys : GateKeys
  gatePolicy : HierarchicalGatePolicy
  transportPolicy : TransportValidationPolicy
  lease : RuntimeLease
  startedAt : DateTime
  completedAt : DateTime

/-- The request names the attempt of the call. -/
def ExchangeCall.Matches (call : ExchangeCall) : Prop :=
  call.request.logicalRequestId = call.attempt.logicalRequestId ∧
    call.request.physicalAttemptId = call.attempt.physicalAttemptId

instance (call : ExchangeCall) : Decidable call.Matches := inferInstanceAs (Decidable (_ ∧ _))

/-- What an exchange returns and leaves behind; `sent` is the permit under which the
callback was invoked, if it was. -/
structure ExchangeOutcome (ρ : Type) where
  result : Except Exn (TransportExchangeResult ρ)
  authority : PermitAuthority
  database : Database
  sent : Option TransportPermit

section

variable (lower : String → String) (sha256 : List UInt8 → String)

/-- `_candidate` -/
def candidate (request : PhysicalTransportRequest) (response : UntrustedTransportResponse) :
    TemporaryRawCandidate where
  physicalAttemptId := request.physicalAttemptId
  body := response.body
  sha256 := sha256 response.body
  mediaType := response.mediaType
  encoding := response.encoding

/-- Record one branch and report it, or let the exception of the record escape. -/
def concludeExchange {ρ : Type} (call : ExchangeCall) (reservation : GateReservation)
    (disposition : Disposition) (response : Option (UntrustedTransportResponse × ρ))
    (authority : PermitAuthority) (sent : Option TransportPermit) (db : Database) :
    ExchangeOutcome ρ :=
  match disposition.record reservation call.lease call.completedAt db with
  | (.error e, db) => ⟨.error e, authority, db, sent⟩
  | (.ok _, db) =>
    ⟨.ok ⟨disposition.execution (response.map fun r => candidate sha256 call.request r.1),
      response.map fun r => r.1.statusCode, response.map (·.2)⟩, authority, db, sent⟩

/-- Record the branch that was reached. An interrupt escapes with nothing recorded: no
`except Exception` of the exchange takes it. -/
def settleExchange {ρ : Type} (call : ExchangeCall) (reservation : GateReservation)
    (disposition : Option Disposition) (response : Option (UntrustedTransportResponse × ρ))
    (authority : PermitAuthority) (sent : Option TransportPermit) (db : Database) :
    ExchangeOutcome ρ :=
  match disposition with
  | none => ⟨.error .interrupt, authority, db, sent⟩
  | some disposition =>
    concludeExchange sha256 call reservation disposition response authority sent db

/-- One exchange: acquire, start, issue a permit, send, record. The two entry points
differ in the `sender` they use. -/
def exchange {ρ : Type}
    (sender : PermitAuthority → PhysicalTransportRequest → TransportPermit →
      TransportValidationPolicy → CallbackOutcome ρ → SendResult ρ)
    (call : ExchangeCall) (factory : Except Exn String) (callback : CallbackOutcome ρ)
    (authority : PermitAuthority) (db : Database) : ExchangeOutcome ρ :=
  if ¬ call.Matches then ⟨.error (.storage .transportAttemptMismatch), authority, db, none⟩
  else
    match acquireGates call.reservationId call.attempt call.keys call.gatePolicy call.lease
      call.startedAt db with
    | (.error e, db) => ⟨.error e, authority, db, none⟩
    | (.ok reservation, db) =>
      match markPhysicalAttemptStarted call.attempt.physicalAttemptId call.lease call.startedAt
        db with
      | (.error e, db) => ⟨.error e, authority, db, none⟩
      | (.ok _, db) =>
        match authority.issue factory reservation with
        | .error error =>
          settleExchange sha256 call reservation (issueDisposition error) none authority none db
        | .ok (permit, authority) =>
          let sent := sender authority call.request permit call.transportPolicy callback
          settleExchange sha256 call reservation (sendDisposition sent.outcome)
            sent.outcome.toOption sent.authority (if sent.invoked then some permit else none) db

/-- `ProductionTransportCoordinator.execute_exchange` -/
def executeExchange (call : ExchangeCall) (factory : Except Exn String)
    (callback : CallbackOutcome Unit) (authority : PermitAuthority) (db : Database) :
    ExchangeOutcome Unit :=
  exchange sha256 (send lower) call factory callback authority db

/-- `ProductionTransportCoordinator.execute_exchange_with_callback` -/
def executeExchangeWithCallback {ρ : Type} (call : ExchangeCall) (factory : Except Exn String)
    (callback : CallbackOutcome ρ) (authority : PermitAuthority) (db : Database) :
    ExchangeOutcome ρ :=
  exchange sha256 (sendEphemeral lower) call factory callback authority db

end

end StockResearch.Requests
