import StockResearch.Requests.ExchangeClosed
import StockResearch.Sources.Transports

/-!
# Received responses are recorded as received

A response that was completely received ends its attempt as `succeeded` or `failed`,
whatever the local checks say of it, and responses of one status and validity end alike.
BOJ, Dukascopy and Yahoo say of a redirect that they received it; EDINET and JPX do not,
and all but Yahoo say of a media type outside the bounds of the response model that no
response came.

- `Delivered`, `ResponsesRecorded`: a complete response in an exchange, and the law.
- `SourceTransport.Loses`: the received responses that a transport takes for none.
- `responses_recorded_iff`: the law holds unless a received response is lost, its cooldown
  overflows, or the lease is gone when it is recorded.
-/

namespace StockResearch.Sources

open Requests
open Contracts (PyFloat)

/-! ## The law -/

/-- How a received response has to be classified. -/
def classification (statusCode : Nat) (accepted : Bool) : TransportStatus :=
  if accepted ∧ 200 ≤ statusCode ∧ statusCode < 300 then .succeeded else .failed

/-- The state of an attempt with a status. -/
def attemptState : TransportStatus → PhysicalAttemptState
  | .succeeded => .succeeded
  | .failed => .failed
  | .unknown => .unknown

/-- The local checks accept what the callback returned. -/
def isAccepted {ρ : Type} (lower : String → String) (call : ExchangeCall)
    (callback : CallbackOutcome ρ) : Bool :=
  match callback with
  | .returned response _ =>
    (validateResponse lower call.request response call.transportPolicy).isOk
  | _ => false

/-- The exchange returned a status, and its attempt ended with it. -/
structure EndedWith {ρ : Type} (call : ExchangeCall) (outcome : ExchangeOutcome ρ)
    (status : TransportStatus) : Prop where
  returned : ∃ result, outcome.result = .ok result ∧ result.execution.status = status
  attempt : (outcome.database.attempts.get? call.attempt.physicalAttemptId).map (·.state) =
    some (attemptState status)

/-- The exchange with a transport as its callback. -/
def sourceExchange (lib : WireLibrary) (sha256 : List UInt8 → String) (call : ExchangeCall)
    (factory : Except Exn String) (authority : PermitAuthority) (transport : SourceTransport)
    (wire : WireOutcome) (db : Database) : ExchangeOutcome (Option WireResponse) :=
  executeExchangeWithCallback lib.lower sha256 call factory
    (transport.callback lib call.request wire) authority db

/-- A complete response was delivered in the exchange. -/
structure Delivered (call : ExchangeCall) (transport : SourceTransport) (wire : WireOutcome)
    (outcome : ExchangeOutcome (Option WireResponse)) (response : WireResponse) : Prop where
  invoked : outcome.sent.isSome
  sent : transport.sends call.request
  complete : wire = .complete response

/-- A delivered response is recorded by its status and validity, and an unknown outcome is
recorded without one only. -/
structure ResponsesRecorded (lib : WireLibrary) (call : ExchangeCall) (transport : SourceTransport)
    (wire : WireOutcome) (outcome : ExchangeOutcome (Option WireResponse)) : Prop where
  received : ∀ response, Delivered call transport wire outcome response →
    EndedWith call outcome (classification response.statusCode
      (isAccepted lib.lower call (transport.callback lib call.request wire)))
  unknown : ((∃ result, outcome.result = .ok result ∧ result.execution.status = .unknown) ∨
      ∃ row, outcome.database.attempts.get? call.attempt.physicalAttemptId = some row ∧
        row.state = .unknown) →
    ∀ response, ¬ Delivered call transport wire outcome response

/-! ## What a transport loses -/

/-- The response model admits the media type. -/
def mediaTypeFits (mediaType : String) : Bool := 1 ≤ mediaType.length ∧ mediaType.length ≤ 128

/-- The responses that a transport takes for none: a redirect, where its error is no
`ReceivedResponseValidationError`, a media type that the response model rejects, and a
failure of the clock once the response is read. -/
def SourceTransport.Loses (lib : WireLibrary) (transport : SourceTransport)
    (response : WireResponse) : Prop :=
  let header := response.contentType.getD ""
  let stripped := lib.lower (strip (partition ';' header).1)
  match transport with
  | .boj transport => isRedirect response.statusCode = false ∧
    (transport.clock = none ∨ mediaTypeFits stripped = false)
  | .dukascopy transport => isRedirect response.statusCode = false ∧
    (transport.clock = none ∨ mediaTypeFits stripped = false)
  | .edinet _ => isRedirect response.statusCode = true ∨ mediaTypeFits stripped = false
  | .jpx _ => isRedirect response.statusCode = true ∨
    mediaTypeFits (lib.lower (partition ';' header).1) = false
  | .yahoo port => port.observedAt = none

theorem untrustedResponse?_eq_none {response : WireResponse} {mediaType encoding : String}
    {finalOrigin : Identifier} {retryAfter : Option Seconds}
    (h : 1 ≤ encoding.length ∧ encoding.length ≤ 64) :
    untrustedResponse? response mediaType encoding finalOrigin retryAfter = none ↔
      mediaTypeFits mediaType = false := by
  unfold untrustedResponse? mediaTypeFits
  split
  · rename_i hfits
    simp [hfits.1]
  · rename_i hfits
    simp only [true_iff, decide_eq_false_iff_not]
    exact fun hmedia => hfits ⟨hmedia, h⟩

theorem untrustedResponse?_statusCode {response : WireResponse} {mediaType encoding : String}
    {finalOrigin : Identifier} {retryAfter : Option Seconds} {untrusted : UntrustedTransportResponse}
    (h : untrustedResponse? response mediaType encoding finalOrigin retryAfter = some untrusted) :
    untrusted.statusCode = response.statusCode := by
  unfold untrustedResponse? at h
  split at h
  · cases h
    rfl
  · cases h

/-! ## What the exchange records -/

section

variable {ρ : Type} {lower : String → String} {sha256 : List UInt8 → String}

/-- The status each branch reports. -/
def dispositionStatus (disposition : Disposition) : TransportStatus :=
  (disposition.execution none).status

theorem dispositionStatus_eq (disposition : Disposition) (raw : Option TemporaryRawCandidate) :
    (disposition.execution raw).status = dispositionStatus disposition := by
  cases disposition <;> rfl

theorem attemptState_dispositionStatus (disposition : Disposition) :
    attemptState (dispositionStatus disposition) = disposition.outcome := by
  cases disposition <;> rfl

/-- A started exchange ends with the status of its branch exactly when the fence holds and
the cooldown of the branch is representable. -/
theorem concludeExchange_ended_iff (sha256 : List UInt8 → String) {call : ExchangeCall}
    {reservation : GateReservation} {started : Database}
    (hstarted : ExchangeStarted call reservation started) (disposition : Disposition)
    (response : Option (UntrustedTransportResponse × ρ)) (authority : PermitAuthority)
    (sent : Option TransportPermit) (status : TransportStatus) :
    EndedWith call (concludeExchange sha256 call reservation disposition response authority sent
        started) status ↔
      status = dispositionStatus disposition ∧
        (∀ seconds, disposition = .rateLimited seconds →
          Representable call.completedAt seconds) ∧
        ∃ row, FenceHolds started call.lease call.completedAt row := by
  constructor
  · rintro ⟨⟨result, hresult, hstatus⟩, -⟩
    obtain ⟨rawEligible, hrecord⟩ :=
      disposition.record_eq reservation call.lease call.completedAt started
    -- a refused record would not have returned
    have hok : ¬ Refused (disposition.record reservation call.lease call.completedAt started)
        started := by
      rintro ⟨e, he⟩
      simp [concludeExchange, he] at hresult
    have hsame : status = dispositionStatus disposition := by
      simp only [concludeExchange] at hresult
      split at hresult
      · cases hresult
      · cases hresult
        rw [← hstatus]
        exact dispositionStatus_eq disposition _
    refine ⟨hsame, fun seconds hseconds => ?_, ?_⟩
    · -- a cooldown beyond the calendar is refused
      by_contra hover
      refine hok ?_
      rw [hrecord, hseconds]
      exact finishGateReservation_overflows _ rawEligible hover
    · -- so is a completion outside the fence
      rcases finishGateReservation_cases reservation disposition.outcome disposition.retryAfter
        rawEligible call.lease call.completedAt started with hr | ⟨row, _, _, _, hfence, -⟩
      · exact absurd (hrecord ▸ hr) hok
      · exact ⟨row, hfence⟩
  · -- under the fence the exchange is closed, and its attempt has the outcome
    rintro ⟨rfl, hretry, row, hfence⟩
    have hclosed := (concludeExchange_closed_iff sha256 hstarted hfence disposition response
      authority sent).mpr hretry
    obtain ⟨result, hresult⟩ := hclosed.returned
    obtain ⟨rawEligible, hrecord⟩ :=
      disposition.record_eq reservation call.lease call.completedAt started
    cases hrun : disposition.record reservation call.lease call.completedAt started with
    | mk raised final =>
      cases raised with
      | error e => simp [concludeExchange, hrun] at hresult
      | ok u =>
        have hfinal : finishGateReservation reservation disposition.outcome disposition.retryAfter
            rawEligible call.lease call.completedAt started = (.ok (), final) := by
          rw [← hrecord, hrun]
        obtain ⟨attempt, hattempt, hlive⟩ := hstarted.started
        have hid : reservation.physicalAttemptId = call.attempt.physicalAttemptId := by
          rw [hstarted.reservation_eq]
        have hstate := (finishGateReservation_finished hfinal).attempt attempt
          (by rw [hid, hattempt]) (by rw [hlive]; rfl)
        rw [hid] at hstate
        simp only [concludeExchange, hrun]
        refine ⟨⟨_, rfl, dispositionStatus_eq disposition _⟩, ?_⟩
        rw [attemptState_dispositionStatus]
        exact hstate

/-- A started exchange ends with a status exactly when it reaches a branch with that status,
the fence holds and the cooldown of the branch is representable. -/
theorem settleExchange_ended_iff (sha256 : List UInt8 → String) {call : ExchangeCall}
    {reservation : GateReservation} {started : Database}
    (hstarted : ExchangeStarted call reservation started) (disposition : Option Disposition)
    (response : Option (UntrustedTransportResponse × ρ)) (authority : PermitAuthority)
    (sent : Option TransportPermit) (status : TransportStatus) :
    EndedWith call (settleExchange sha256 call reservation disposition response authority sent
        started) status ↔
      disposition.map dispositionStatus = some status ∧
        (∀ seconds, disposition = some (.rateLimited seconds) →
          Representable call.completedAt seconds) ∧
        ∃ row, FenceHolds started call.lease call.completedAt row := by
  cases disposition with
  | none =>
    refine ⟨fun h => ?_, fun h => by cases h.1⟩
    obtain ⟨_, hresult, -⟩ := h.returned
    cases hresult
  | some disposition =>
    simp only [settleExchange, Option.map_some, Option.some.injEq]
    rw [concludeExchange_ended_iff sha256 hstarted, eq_comm]

/-- An exchange that invoked its callback had acquired, started and been issued a permit. -/
theorem exchange_invoked {sender : Sender} {call : ExchangeCall}
    {factory : Except Exn String} {callback : CallbackOutcome ρ} {authority : PermitAuthority}
    {db : Database}
    (h : (exchange sha256 (controlledSend lower sender) call factory callback authority
      db).sent.isSome) :
    ∃ reservation acquired started, call.Matches ∧
      acquireGates call.reservationId call.attempt call.keys call.gatePolicy call.lease
        call.startedAt db = (.ok reservation, acquired) ∧
      markPhysicalAttemptStarted call.attempt.physicalAttemptId call.lease call.startedAt
        acquired = (.ok (), started) ∧ authority.Issues factory := by
  -- settling an exchange sends nothing
  have hsent : ∀ reservation disposition (response : Option (UntrustedTransportResponse × ρ))
      authority' sent started, (settleExchange sha256 call reservation disposition response
        authority' sent started).sent = sent := by
    intro reservation disposition response authority' sent started
    cases disposition with
    | none => rfl
    | some disposition =>
      simp only [settleExchange, concludeExchange]
      split <;> rfl
  unfold exchange at h
  split at h
  · cases h
  rename_i hmatch
  split at h
  · cases h
  rename_i reservation acquired hacquire
  split at h
  · cases h
  rename_i started hstart
  split at h
  · rw [hsent] at h
    cases h
  · rename_i permit authority' hissue
    exact ⟨reservation, acquired, started, not_not.mp hmatch, hacquire, hstart,
      issue_eq_ok_iff.mp ⟨_, hissue⟩⟩

/-- An accepted response is classified by its status code. -/
theorem responseDisposition_classified (response : UntrustedTransportResponse) :
    dispositionStatus (responseDisposition response) = classification response.statusCode true := by
  have hplain : dispositionStatus (if 200 ≤ response.statusCode ∧ response.statusCode < 300
      then .ok else .providerError) = classification response.statusCode true := by
    unfold classification
    simp only [true_and]
    split <;> rfl
  unfold responseDisposition
  cases response.retryAfterSeconds with
  | none => exact hplain
  | some seconds =>
    by_cases hlimited : response.statusCode = 429
    · rw [hlimited]
      rfl
    · simp only [if_neg hlimited]
      exact hplain

/-- The branch of a callback that returned a pair or raised for a received response, by
status and validity. -/
theorem callbackDisposition_classified {call : ExchangeCall} {callback : CallbackOutcome ρ}
    {statusCode : Nat} (hraised : callback ≠ .raised) (hinterrupted : callback ≠ .interrupted)
    (hpaired : callback ≠ .unpaired)
    (hstatus : ∀ response provider, callback = .returned response provider →
      response.statusCode = statusCode) :
    (callbackDisposition lower .ephemeral call callback).map dispositionStatus =
      some (classification statusCode (isAccepted lower call callback)) := by
  have hrejected : ∀ code, some (classification code false) = some .failed := by
    simp [classification]
  cases callback with
  | raised => exact absurd rfl hraised
  | interrupted => exact absurd rfl hinterrupted
  | unpaired => exact absurd rfl hpaired
  | receivedInvalid => exact (hrejected _).symm
  | malformed => exact (hrejected _).symm
  | returned response provider =>
    rw [← hstatus response provider rfl]
    cases hvalid : validateResponse lower call.request response call.transportPolicy with
    | error e =>
      simp only [callbackDisposition, isAccepted, hvalid]
      exact (hrejected _).symm
    | ok u =>
      simp only [callbackDisposition, isAccepted, hvalid]
      exact congrArg some (responseDisposition_classified response)

end

/-! ## What the transports raise -/

/-- An exception that is no `ReceivedResponseValidationError`. -/
def IsLost {α : Type} (result : Except TransportError α) : Prop :=
  ∃ e, result = .error e ∧ e.received = false

theorem Streaming.read_lost_iff (streaming : Streaming) (target : HttpTarget)
    (response : WireResponse) (hfailed : streaming.exchangeFailed.received = false)
    (hencoding : 1 ≤ streaming.encoding.length ∧ streaming.encoding.length ≤ 64) :
    IsLost (streaming.read target (.complete response)) ↔
      if isRedirect response.statusCode then streaming.redirectRejected.received = false
      else streaming.retryAfter response.retryAfter = none ∨
        mediaTypeFits (streaming.mediaType (response.contentType.getD "")) = false := by
  unfold Streaming.read IsLost
  simp only
  split
  · simp
  · simp only [bind_eq_error, fetch_eq_error, fetch_eq_ok,
      untrustedResponse?_eq_none hencoding]
    constructor
    · rintro ⟨e, ⟨hretry, -⟩ | ⟨retry, -, hmedia, -⟩, -⟩
      · exact .inl hretry
      · exact .inr hmedia
    · intro h
      cases hretry : streaming.retryAfter response.retryAfter with
      | none => exact ⟨_, .inl ⟨rfl, rfl⟩, hfailed⟩
      | some retry =>
        rcases h with hnone | hmedia
        · rw [hretry] at hnone
          cases hnone
        · exact ⟨_, .inr ⟨retry, rfl, hmedia, rfl⟩, hfailed⟩

theorem Streaming.read_statusCode {streaming : Streaming} {target : HttpTarget}
    {response : WireResponse} {untrusted : UntrustedTransportResponse}
    (h : streaming.read target (.complete response) = .ok untrusted) :
    untrusted.statusCode = response.statusCode := by
  unfold Streaming.read at h
  simp only at h
  split at h
  · cases h
  · obtain ⟨retry, -, h⟩ := bind_eq_ok.mp h
    exact untrustedResponse?_statusCode (fetch_eq_ok.mp h)

/-- Whatever is wrong with a response of Yahoo, it was received. -/
theorem normalizeResponse_received {lib : WireLibrary} {request : EphemeralYahooRequest}
    {identity : YahooRequestIdentity} {origin : Identifier} {response : WireResponse}
    {now : DateTime} {e : TransportError}
    (h : normalizeResponse lib request identity origin response now = .error e) :
    e.received = true := by
  -- a `Retry-After` that cannot be read
  have hretry : ∀ {e}, yahooRetryAfter lib response.retryAfter now = .error e →
      e.received = true := by
    intro e he
    unfold yahooRetryAfter at he
    split at he
    · cases he
    · split at he
      · cases hnumber : (lib.float _).bind finiteSeconds with
        | none => rw [hnumber] at he; cases he; rfl
        | some seconds => rw [hnumber] at he; cases he
      · split at he
        · cases he
        · cases he
          rfl
  unfold normalizeResponse at h
  simp only [bind_eq_error, fetch_eq_error, require_eq_error] at h
  rcases h with ⟨-, rfl⟩ | ⟨_, -, ⟨-, rfl⟩ | ⟨_, -, ⟨-, rfl⟩ | ⟨_, -, ⟨-, rfl⟩ | ⟨_, -, ⟨-, rfl⟩ |
    ⟨_, -, ⟨-, rfl⟩ | ⟨_, -, ⟨-, rfl⟩ | ⟨_, -, h | ⟨_, -, -, rfl⟩⟩⟩⟩⟩⟩⟩⟩
  · rfl
  · rfl
  · rfl
  · rfl
  · rfl
  · rfl
  · rfl
  · exact hretry h
  · rfl

theorem normalizeResponse_statusCode {lib : WireLibrary} {request : EphemeralYahooRequest}
    {identity : YahooRequestIdentity} {origin : Identifier} {response : WireResponse}
    {now : DateTime} {untrusted : UntrustedTransportResponse}
    (h : normalizeResponse lib request identity origin response now = .ok untrusted) :
    untrusted.statusCode = response.statusCode := by
  unfold normalizeResponse at h
  simp only [bind_eq_ok] at h
  obtain ⟨_, -, _, -, _, -, _, -, _, -, _, -, _, -, _, -, h⟩ := h
  exact untrustedResponse?_statusCode (fetch_eq_ok.mp h)

theorem isLost_anonymous {result : Except TransportError UntrustedTransportResponse} :
    IsLost (SourceTransport.anonymous result) ↔ IsLost result := by
  cases result <;> simp [IsLost, SourceTransport.anonymous, Except.map]

/-- The credential boundary loses every error. -/
theorem isLost_useEdinetApiKeyForSend {α : Type} {result : Except TransportError α}
    (h : ∀ e, result = .error e → e.received = false) :
    IsLost (useEdinetApiKeyForSend result) ↔ IsLost result := by
  cases result with
  | error e => simp [IsLost, useEdinetApiKeyForSend, Except.mapError, h e rfl]
  | ok a => simp [IsLost, useEdinetApiKeyForSend, Except.mapError]

theorem Streaming.read_error {streaming : Streaming} {target : HttpTarget} {wire : WireOutcome}
    {e : TransportError} (h : streaming.read target wire = .error e) :
    e = streaming.redirectRejected ∨ e = streaming.exchangeFailed := by
  unfold Streaming.read at h
  split at h
  · cases h
    exact .inr rfl
  · cases h
    split
    · exact .inl rfl
    · exact .inr rfl
  · split at h
    · cases h
      exact .inl rfl
    · simp only [bind_eq_error, fetch_eq_error] at h
      rcases h with ⟨-, rfl⟩ | ⟨_, -, -, rfl⟩ <;> exact .inr rfl

namespace SourceTransport

theorem callback_eq_raised {lib : WireLibrary} {transport : SourceTransport}
    {request : PhysicalTransportRequest} {wire : WireOutcome} :
    transport.callback lib request wire = .raised ↔ IsLost (transport.call lib request wire) := by
  unfold callback IsLost
  cases transport.call lib request wire with
  | ok returned => simp
  | error e => cases he : e.received <;> simp [he]

theorem callback_eq_returned {lib : WireLibrary} {transport : SourceTransport}
    {request : PhysicalTransportRequest} {wire : WireOutcome}
    {response : UntrustedTransportResponse} {provider : Option WireResponse} :
    transport.callback lib request wire = .returned response provider ↔
      transport.call lib request wire = .ok (response, provider) := by
  unfold callback
  cases transport.call lib request wire with
  | ok returned => simp [Prod.ext_iff]
  | error e => cases he : e.received <;> simp [he]

/-- A transport returns a pair or raises an `Exception`. -/
theorem callback_regular (lib : WireLibrary) (transport : SourceTransport)
    (request : PhysicalTransportRequest) (wire : WireOutcome) :
    transport.callback lib request wire ≠ .interrupted ∧
      transport.callback lib request wire ≠ .unpaired := by
  unfold callback
  cases transport.call lib request wire with
  | ok returned => simp
  | error e => cases he : e.received <;> simp [he]

theorem utf8_length : 1 ≤ "utf-8".length ∧ "utf-8".length ≤ 64 := by decide
theorem binary_length : 1 ≤ "binary".length ∧ "binary".length ≤ 64 := by decide

/-- The call of a transport that sends, by what it does with the response. -/
theorem call_eq_of_isOk {α : Type} {target : Except TransportError α}
    (receive : α → Except TransportError (UntrustedTransportResponse × Option WireResponse))
    (h : target.isOk = true) : ∃ found, (target >>= receive) = receive found := by
  cases target with
  | error e => cases h
  | ok found => exact ⟨found, rfl⟩

/-- **What is lost.** A transport that sends raises what is taken for a missing response
exactly for the responses it loses. -/
theorem isLost_call_iff {lib : WireLibrary} {transport : SourceTransport}
    {request : PhysicalTransportRequest} {response : WireResponse}
    (hsends : transport.sends request = true) :
    IsLost (transport.call lib request (.complete response)) ↔ transport.Loses lib response := by
  cases transport with
  | boj transport =>
    obtain ⟨target, hcall⟩ := call_eq_of_isOk (fun target =>
      anonymous ((transport.streaming lib).read target (.complete response))) hsends
    have hread := (transport.streaming lib).read_lost_iff target response rfl utf8_length
    simp only [call, Loses] at hcall ⊢
    rw [hcall, isLost_anonymous, hread]
    cases isRedirect response.statusCode <;> simp [BojPhysicalTransport.streaming]
  | dukascopy transport =>
    obtain ⟨target, hcall⟩ := call_eq_of_isOk (fun target =>
      anonymous ((transport.streaming lib).read target (.complete response))) hsends
    have hread := (transport.streaming lib).read_lost_iff target response rfl utf8_length
    simp only [call, Loses] at hcall ⊢
    rw [hcall, isLost_anonymous, hread]
    cases isRedirect response.statusCode <;> simp [DukascopyPhysicalTransport.streaming]
  -- the credential boundary turns every error into one that was not received
  | edinet transport =>
    obtain ⟨target, hcall⟩ := call_eq_of_isOk (fun target =>
      anonymous (useEdinetApiKeyForSend
        ((HttpxEdinetWireClient.streaming lib target).read target (.complete response)))) hsends
    have hencoding : 1 ≤ (HttpxEdinetWireClient.streaming lib target).encoding.length ∧
        (HttpxEdinetWireClient.streaming lib target).encoding.length ≤ 64 := by
      simp only [HttpxEdinetWireClient.streaming]
      split
      · exact utf8_length
      · exact binary_length
    have hread := (HttpxEdinetWireClient.streaming lib target).read_lost_iff target response rfl
      hencoding
    have hunreceived : ∀ e, (HttpxEdinetWireClient.streaming lib target).read target
        (.complete response) = .error e → e.received = false := by
      intro e he
      rcases Streaming.read_error he with rfl | rfl <;> rfl
    simp only [call, Loses] at hcall ⊢
    rw [hcall, isLost_anonymous, isLost_useEdinetApiKeyForSend hunreceived, hread]
    cases isRedirect response.statusCode <;> simp [HttpxEdinetWireClient.streaming]
  | jpx transport =>
    obtain ⟨target, hcall⟩ := call_eq_of_isOk (fun target =>
      anonymous ((JpxPhysicalTransport.streaming lib).read target (.complete response))) hsends
    have hread := (JpxPhysicalTransport.streaming lib).read_lost_iff target response rfl
      binary_length
    simp only [call, Loses] at hcall ⊢
    rw [hcall, isLost_anonymous, hread]
    cases isRedirect response.statusCode <;> simp [JpxPhysicalTransport.streaming]
  -- only the clock is read before the response is known to be received
  | yahoo port =>
    obtain ⟨-, hcall⟩ := call_eq_of_isOk (fun _ =>
      port.receive lib (.complete response)) hsends
    simp only [call, Loses] at hcall ⊢
    rw [hcall]
    unfold YahooSend.receive IsLost
    simp only [bind_eq_error, fetch_eq_error, fetch_eq_ok]
    constructor
    · rintro ⟨e, ⟨hclock, -⟩ | ⟨now, -, hnormalize | ⟨_, -, hpure⟩⟩, hlost⟩
      · exact hclock
      · rw [normalizeResponse_received hnormalize] at hlost
        cases hlost
      · cases hpure
    · intro hclock
      exact ⟨_, .inl ⟨hclock, rfl⟩, rfl⟩

/-- What a transport returns has the status code of the response. -/
theorem call_statusCode {lib : WireLibrary} {transport : SourceTransport}
    {request : PhysicalTransportRequest} {response : WireResponse}
    {untrusted : UntrustedTransportResponse} {provider : Option WireResponse}
    (h : transport.call lib request (.complete response) = .ok (untrusted, provider)) :
    untrusted.statusCode = response.statusCode := by
  -- dropping the provider's part keeps the response
  have hanonymous : ∀ {result : Except TransportError UntrustedTransportResponse},
      anonymous result = .ok (untrusted, provider) → result = .ok untrusted := by
    intro result hresult
    cases result with
    | error e => cases hresult
    | ok value => cases hresult; rfl
  cases transport with
  | boj transport | dukascopy transport | jpx transport =>
    obtain ⟨target, -, h⟩ := bind_eq_ok.mp h
    exact Streaming.read_statusCode (hanonymous h)
  | edinet transport =>
    obtain ⟨target, -, h⟩ := bind_eq_ok.mp h
    have hboundary := hanonymous h
    unfold useEdinetApiKeyForSend at hboundary
    cases hread : (HttpxEdinetWireClient.streaming lib target).read target (.complete response) with
    | error e =>
      rw [hread] at hboundary
      cases hboundary
    | ok value =>
      rw [hread] at hboundary
      cases hboundary
      exact Streaming.read_statusCode hread
  | yahoo port =>
    obtain ⟨-, -, h⟩ := bind_eq_ok.mp h
    obtain ⟨now, -, h⟩ := bind_eq_ok.mp h
    obtain ⟨common, hnormalize, h⟩ := bind_eq_ok.mp h
    cases h
    exact normalizeResponse_statusCode hnormalize

end SourceTransport

/-! ## The theorem -/

section

variable {lib : WireLibrary} {sha256 : List UInt8 → String} {call : ExchangeCall}
  {factory : Except Exn String} {authority : PermitAuthority} {transport : SourceTransport}
  {wire : WireOutcome} {db : Database}

/-- The fence does not depend on what an exchange has changed when it sends. -/
theorem fenceHolds_started {reservation : GateReservation} {acquired started : Database}
    (hacquire : acquireGates call.reservationId call.attempt call.keys call.gatePolicy call.lease
      call.startedAt db = (.ok reservation, acquired))
    (hstart : markPhysicalAttemptStarted call.attempt.physicalAttemptId call.lease call.startedAt
      acquired = (.ok (), started)) {row : RuntimeLeaseRow} :
    FenceHolds started call.lease call.completedAt row ↔
      FenceHolds db call.lease call.completedAt row := by
  obtain ⟨_, _, _, _, -, -, -, -, -, -, rfl⟩ := acquireGates_eq_ok hacquire
  obtain ⟨_, _, -, -, -, -, rfl⟩ := markPhysicalAttemptStarted_eq_ok hstart
  exact ⟨fun h => ⟨h.1, h.2, h.3, h.4, h.5, h.6⟩, fun h => ⟨h.1, h.2, h.3, h.4, h.5, h.6⟩⟩

/-- An exchange with a delivered response ends with the status of the branch of its
callback, unless the cooldown overflows or the fence is gone. -/
theorem delivered_ends_iff (hrun : Reachable (fun _ _ => True) db) {response : WireResponse}
    (hdelivered : Delivered call transport wire
      (sourceExchange lib sha256 call factory authority transport wire db) response)
    {status : TransportStatus} :
    EndedWith call (sourceExchange lib sha256 call factory authority transport wire db) status ↔
      (callbackDisposition lib.lower .ephemeral call
        (transport.callback lib call.request wire)).map dispositionStatus = some status ∧
      ¬ RetryAfterOverflows lib.lower call (transport.callback lib call.request wire) ∧
      ∃ row, FenceHolds db call.lease call.completedAt row := by
  obtain ⟨reservation, acquired, started, hmatch, hacquire, hstart, hissues⟩ :=
    exchange_invoked hdelivered.invoked
  have hstarted := exchange_started (Reachable.gatesExact hrun) hacquire hstart
  obtain ⟨disposition, returned, authority', sent, heq, ⟨-, rfl⟩ | ⟨hnone, -⟩⟩ :=
    exchange_dispositions lib.lower sha256 .ephemeral factory
      (transport.callback lib call.request wire) authority hmatch hacquire hstart
  · have hcooldown : (∀ seconds, callbackDisposition lib.lower .ephemeral call
        (transport.callback lib call.request wire) = some (.rateLimited seconds) →
          Representable call.completedAt seconds) ↔
        ¬ RetryAfterOverflows lib.lower call (transport.callback lib call.request wire) :=
      callbackDisposition_rateLimited
    have hended := settleExchange_ended_iff sha256 hstarted
      (callbackDisposition lib.lower .ephemeral call (transport.callback lib call.request wire))
      returned authority' sent status
    rw [hcooldown, ← heq] at hended
    simp only [fenceHolds_started hacquire hstart] at hended
    exact hended
  · exact absurd hissues hnone

/-- A response is classified as it has to be exactly when it is not lost. -/
theorem delivered_classified_iff {outcome : ExchangeOutcome (Option WireResponse)}
    {response : WireResponse} (hdelivered : Delivered call transport wire outcome response) :
    (callbackDisposition lib.lower .ephemeral call
        (transport.callback lib call.request wire)).map dispositionStatus =
      some (classification response.statusCode
        (isAccepted lib.lower call (transport.callback lib call.request wire))) ↔
      ¬ transport.Loses lib response := by
  obtain ⟨hinterrupted, hpaired⟩ := transport.callback_regular lib call.request wire
  obtain ⟨-, hsends, rfl⟩ := hdelivered
  rw [← SourceTransport.isLost_call_iff hsends, ← SourceTransport.callback_eq_raised]
  constructor
  · intro heq hraised
    rw [hraised] at heq
    cases heq.trans (show some (classification response.statusCode false) = some .failed from rfl)
  · intro hraised
    exact callbackDisposition_classified hraised hinterrupted hpaired
      fun untrusted provider hreturned =>
        SourceTransport.call_statusCode (SourceTransport.callback_eq_returned.mp hreturned)

/-- An exchange that ended with a known status recorded no unknown outcome. -/
theorem EndedWith.known {outcome : ExchangeOutcome (Option WireResponse)} {status : TransportStatus}
    (h : EndedWith call outcome status) (hknown : status ≠ .unknown) :
    ¬ ((∃ result, outcome.result = .ok result ∧ result.execution.status = .unknown) ∨
      ∃ row, outcome.database.attempts.get? call.attempt.physicalAttemptId = some row ∧
        row.state = .unknown) := by
  obtain ⟨⟨result, hresult, hstatus⟩, hattempt⟩ := h
  rintro (⟨result', hresult', hunknown⟩ | ⟨row, hrow, hunknown⟩)
  · rw [hresult] at hresult'
    cases hresult'
    exact hknown (hstatus.symm.trans hunknown)
  · rw [hrow, Option.map_some, hunknown, Option.some.injEq] at hattempt
    cases status with
    | unknown => exact hknown rfl
    | succeeded => cases hattempt
    | failed => cases hattempt

theorem classification_known (statusCode : Nat) (accepted : Bool) :
    classification statusCode accepted ≠ .unknown := by
  unfold classification
  split <;> decide

end

/-- **Received responses are recorded as received** in every exchange with one of the five
transports, from any reachable database, exactly when a response that is delivered is not
one the transport loses, its cooldown is representable, and the lease is still held when it
is recorded. -/
theorem responses_recorded_iff (lib : WireLibrary) (sha256 : List UInt8 → String)
    (call : ExchangeCall) (factory : Except Exn String) (authority : PermitAuthority)
    (transport : SourceTransport) (wire : WireOutcome) {db : Database}
    (hrun : Reachable (fun _ _ => True) db) :
    ResponsesRecorded lib call transport wire
        (sourceExchange lib sha256 call factory authority transport wire db) ↔
      ∀ response, Delivered call transport wire
          (sourceExchange lib sha256 call factory authority transport wire db) response →
        ¬ transport.Loses lib response ∧
        ¬ RetryAfterOverflows lib.lower call (transport.callback lib call.request wire) ∧
        ∃ row, FenceHolds db call.lease call.completedAt row := by
  constructor
  · intro h response hdelivered
    obtain ⟨hstatus, hcooldown, hfence⟩ :=
      (delivered_ends_iff hrun hdelivered).mp (h.received response hdelivered)
    exact ⟨(delivered_classified_iff hdelivered).mp hstatus, hcooldown, hfence⟩
  · intro h
    have hreceived : ∀ response, Delivered call transport wire
        (sourceExchange lib sha256 call factory authority transport wire db) response →
          EndedWith call (sourceExchange lib sha256 call factory authority transport wire db)
            (classification response.statusCode (isAccepted lib.lower call
              (transport.callback lib call.request wire))) := by
      intro response hdelivered
      obtain ⟨hloses, hcooldown, hfence⟩ := h response hdelivered
      exact (delivered_ends_iff hrun hdelivered).mpr
        ⟨(delivered_classified_iff hdelivered).mpr hloses, hcooldown, hfence⟩
    exact ⟨hreceived, fun hunknown response hdelivered =>
      (hreceived response hdelivered).known (classification_known _ _) hunknown⟩

/-! ## A redirect -/

/-- The functions of the language are not called on the sample. -/
def sampleLibrary : WireLibrary where
  lower := id
  urlsplit _ := none
  float _ := none
  parsedate _ := none
  totalSeconds := .ofNat

/-- The list of one day. -/
def sampleListIntent : CredentialFreeSourceIntent where
  sourceId := ⟨"edinet", by decide⟩
  operation := ⟨"document-list", by decide⟩
  origin := ⟨"api.edinet-fsa.go.jp", by decide⟩
  resourceKey := ⟨"api-v2-documents", by decide⟩
  parameters :=
    [⟨⟨"date", by decide⟩, "2026-06-10", by decide, by decide⟩,
      ⟨⟨"type", by decide⟩, "2", by decide, by decide⟩]
  canonical := by decide +kernel

/-- The FX rates of one day. -/
def sampleFxIntent : CredentialFreeSourceIntent where
  sourceId := ⟨"boj", by decide⟩
  operation := ⟨"fx-daily-code", by decide⟩
  origin := ⟨"www.stat-search.boj.or.jp", by decide⟩
  resourceKey := ⟨"api-v1-getDataCode", by decide⟩
  parameters :=
    [⟨⟨"code", by decide⟩, "FXERD04", by decide, by decide⟩,
      ⟨⟨"db", by decide⟩, "FM08", by decide, by decide⟩,
      ⟨⟨"end_date", by decide⟩, "202606", by decide, by decide⟩,
      ⟨⟨"format", by decide⟩, "json", by decide, by decide⟩,
      ⟨⟨"lang", by decide⟩, "en", by decide, by decide⟩,
      ⟨⟨"start_date", by decide⟩, "202606", by decide, by decide⟩]
  canonical := by decide +kernel

/-- The sample exchange, for an intent. -/
def callFor (intent : CredentialFreeSourceIntent) : ExchangeCall :=
  { Sample.call with
    request := intent.toTransportRequest Sample.call.attempt.logicalRequestId
      Sample.call.attempt.physicalAttemptId }

/-- A temporary redirect without a body. -/
def sampleRedirect : WireResponse where
  statusCode := 302
  contentType := some "text/html"
  retryAfter := none
  url := ""
  body := []
  status_ge := by decide
  status_le := by decide

def sampleEdinet : SourceTransport := .edinet ⟨sampleListIntent, none, true⟩
def sampleBoj : SourceTransport := .boj ⟨sampleFxIntent, some (Sample.at_ 4)⟩

/-- The sample exchange with a transport, in which the redirect is delivered. -/
def redirectedExchange (intent : CredentialFreeSourceIntent) (transport : SourceTransport) :
    ExchangeOutcome (Option WireResponse) :=
  sourceExchange sampleLibrary (fun _ => Sample.emptySha256) (callFor intent) (.ok "permit-1")
    ⟨0, 0, .empty⟩ transport (.complete sampleRedirect) Sample.claimedDatabase

/-- A redirect that BOJ received is recorded as a failure. -/
theorem responses_recorded_iff_sample :
    ResponsesRecorded sampleLibrary (callFor sampleFxIntent) sampleBoj (.complete sampleRedirect)
      (redirectedExchange sampleFxIntent sampleBoj) := by
  refine (responses_recorded_iff _ _ _ _ _ _ _ (reachable_runAll (by decide))).mpr ?_
  rintro response ⟨-, -, hcomplete⟩
  cases hcomplete
  refine ⟨fun hloses => Bool.noConfusion hloses.1, ?_,
    ⟨Sample.owner, 1, Sample.at_ 0, Sample.at_ 0, Sample.at_ 30, true⟩,
    by decide, rfl, rfl, rfl, by decide, by decide⟩
  have hrejected : (sampleBoj.call sampleLibrary (callFor sampleFxIntent).request
      (.complete sampleRedirect)).isOk = false := by decide +kernel
  rintro ⟨_, _, _, hreturned, -⟩
  rw [SourceTransport.callback_eq_returned.mp hreturned] at hrejected
  cases hrejected

/-- The same redirect, completely received by EDINET, is recorded as an unknown outcome:
the error of its wire client is no `ReceivedResponseValidationError`. -/
theorem edinet_redirect_lost :
    Delivered (callFor sampleListIntent) sampleEdinet (.complete sampleRedirect)
        (redirectedExchange sampleListIntent sampleEdinet) sampleRedirect ∧
      (redirectedExchange sampleListIntent sampleEdinet).result.map (·.execution.status) =
        .ok .unknown ∧
      ((redirectedExchange sampleListIntent sampleEdinet).database.attempts.get?
        Sample.attempt.physicalAttemptId).map (·.state) = some .unknown ∧
      (redirectedExchange sampleFxIntent sampleBoj).result.map (·.execution.status) =
        .ok .failed ∧
      ¬ ResponsesRecorded sampleLibrary (callFor sampleListIntent) sampleEdinet
        (.complete sampleRedirect) (redirectedExchange sampleListIntent sampleEdinet) := by
  have hdelivered : Delivered (callFor sampleListIntent) sampleEdinet (.complete sampleRedirect)
      (redirectedExchange sampleListIntent sampleEdinet) sampleRedirect :=
    ⟨by decide +kernel, by decide +kernel, rfl⟩
  have hstate : ((redirectedExchange sampleListIntent sampleEdinet).database.attempts.get?
      Sample.attempt.physicalAttemptId).map (·.state) = some .unknown := by decide +kernel
  refine ⟨hdelivered, by decide +kernel, hstate, by decide +kernel, fun h => ?_⟩
  obtain ⟨row, hrow, hunknown⟩ := Option.map_eq_some_iff.mp hstate
  exact h.unknown (.inr ⟨row, hrow, hunknown⟩) _ hdelivered

end StockResearch.Sources
