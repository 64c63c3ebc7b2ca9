import StockResearch.Lib.Run
import StockResearch.Sources.Transports

/-!
# The session of the Yahoo library

A library sends cookie, crumb, consent and chart requests in an order of its own through
one session. The session classifies each request, hands it to the exchange port, and
closes for good after an anomaly; a chart request that failed may be repeated once, with
the other way of getting a crumb.

- `CoordinatedSession`: the fields of the session.
- `CoordinatedSession.request`: a call up to the exchange.
- `CoordinatedSession.exchanged`: what the session makes of how the exchange ended.
- `SessionRun.next`: a step of a session, with a log of the exchanges.
-/

namespace StockResearch.Sources

open Requests (LogicalResultOutcome)

/-! ## Arguments -/

/-- A value among the arguments of a request; of other types than the first four only
what tells one from another, and its `str`. -/
inductive PyObject
  | none
  | bool (value : Bool)
  | int (value : Int)
  | text (value : String)
  | other (identity : Nat) (rendered : String)
deriving DecidableEq

/-- `str(value)` -/
def PyObject.str : PyObject → String
  | none => "None"
  | bool value => if value then "True" else "False"
  | int value => toString value
  | text value => value
  | other _ rendered => rendered

/-- `kwargs.get("params")`: nothing, a dictionary, which is exactly a `dict` or of a
subclass, or another value. -/
inductive Params
  | absent
  | dict (exact : Bool) (entries : List (PyObject × PyObject))
  | other (value : PyObject)
deriving DecidableEq

/-- `entries.get(key)` -/
def getEntry (entries : List (PyObject × PyObject)) (key : String) : Option PyObject :=
  (entries.find? fun entry => entry.1 = .text key).map (·.2)

/-- The entries of a dictionary except the crumb. -/
def withoutCrumb (entries : List (PyObject × PyObject)) : List (PyObject × PyObject) :=
  entries.filter fun entry => entry.1 ≠ .text "crumb"

/-- The order of pairs of texts. -/
def pairLe (a b : String × String) : Bool := a.1 < b.1 ∨ a.1 = b.1 ∧ a.2 ≤ b.2

/-- `_chart_target` -/
def Params.target : Params → List (String × String)
  | dict _ entries =>
    ((withoutCrumb entries).map fun entry => (entry.1.str, entry.2.str)).insertionSort
      fun a b => pairLe a b
  | absent | other _ => []

/-! ## The session -/

/-- What is used of the language besides: `str.upper`, and the POSIX time of the midnight
at which a day begins in Tokyo. -/
structure SessionLibrary extends WireLibrary where
  upper : String → String
  tokyoMidnight : String → Int

/-- `YfinanceDailyIntent`, as far as the session reads it. -/
structure DailyIntent where
  symbol : String
  start : String
  stop : String
deriving DecidableEq

inductive ChartKind
  | timezone
  | history
deriving DecidableEq

/-- The two ways of getting a crumb. -/
inductive Strategy
  | basic
  | csrf
deriving DecidableEq

/-- A request that is handed to the exchange port. -/
structure Dispatch where
  identity : YahooRequestIdentity
  url : String
  names : List String
  params : Params
  kind : Option ChartKind
deriving DecidableEq

/-- `_pending_fallback`: method, URL, kind and target. -/
abbrev FallbackTarget := String × String × ChartKind × List (String × String)

def Dispatch.fallbackTarget (d : Dispatch) (kind : ChartKind) : FallbackTarget :=
  (d.identity.method, d.url, kind, d.params.target)

/-- `CoordinatedSession` -/
structure CoordinatedSession where
  expectedSymbol : String
  intent : Option DailyIntent
  active : Option Dispatch := none
  envelopeConsumed : Bool := false
  poisoned : Bool := false
  pendingFallback : Option FallbackTarget := none
  fallbackUsed : Bool := false
  strategy : Strategy := .basic
  failedStrategy : Option Strategy := none
  chartSent : List ChartKind := []
  finalized : Bool := false

/-- A call of `request`: its arguments, whether `deepcopy` can copy them and `str` write the
parameters, and the retries that the underlying session is set to. -/
structure RequestCall where
  method : String
  url : String
  names : List String
  params : Params
  copied : Bool
  rendered : Bool
  retryCount : Int

/-- `_ALLOWED_KWARGS` -/
def allowedKwargs : List String :=
  ["params", "data", "json", "headers", "cookies", "timeout", "allow_redirects"]

/-- What a chart request of an intent may ask for. -/
def expectedEntries (lib : SessionLibrary) (intent : DailyIntent)
    (entries : List (PyObject × PyObject)) : List (PyObject × PyObject) :=
  if getEntry entries "range" = some (.text "1d") then
    [(.text "range", .text "1d"), (.text "interval", .text "1d")]
  else
    [(.text "period1", .int (lib.tokyoMidnight intent.start)),
      (.text "period2", .int (lib.tokyoMidnight intent.stop)), (.text "interval", .text "1d"),
      (.text "includePrePost", .bool false), (.text "events", .text "div,splits,capitalGains")]

/-- A dictionary equals another one, and its values have the same types. -/
def sameDictionary (entries expected : List (PyObject × PyObject)) : Bool :=
  entries.length = expected.length ∧ ∀ entry ∈ expected, entry ∈ entries

/-- `crumb` is missing or a text. -/
def crumbIsText (entries : List (PyObject × PyObject)) : Bool :=
  match getEntry entries "crumb" with
  | some (.text _) | none => true
  | some _ => false

/-- `_validate_bound_chart`, of a chart request of a session that is bound to an intent. -/
def validBoundChart (lib : SessionLibrary) (intent : DailyIntent) (d : Dispatch) : Bool :=
  classify lib.toWireLibrary d.identity.method d.url intent.symbol = some d.identity &&
    (lib.urlsplit d.url).all (fun parsed => parsed.query = "") &&
    (d.names.all fun name => name ∈ ["params", "timeout", "allow_redirects"]) &&
    match d.params with
    | .dict true entries =>
      sameDictionary (withoutCrumb entries) (expectedEntries lib intent entries) &&
        crumbIsText entries
    | _ => false

/-- `_validate_bound_chart` -/
def CoordinatedSession.validates (s : CoordinatedSession) (lib : SessionLibrary) (d : Dispatch) :
    Bool :=
  s.intent.all fun intent => d.identity.resourceClass ≠ "chart" || validBoundChart lib intent d

/-- `_chart_kind` -/
def chartKind (identity : YahooRequestIdentity) (params : Params) :
    Except String (Option ChartKind) :=
  if identity.resourceClass ≠ "chart" then pure none
  else
    match params with
    | .dict _ entries =>
      if getEntry entries "range" = some (.text "1d") ∧
          getEntry entries "interval" = some (.text "1d") then do
        require ((getEntry entries "period1").isNone ∧ (getEntry entries "period2").isNone)
          "unapproved_yahoo_chart_parameters"
        pure (some .timezone)
      else do
        require ((getEntry entries "range").isNone) "unapproved_yahoo_chart_parameters"
        pure (some .history)
    | _ => pure (some .history)

/-- The strategy that a request to an endpoint follows. -/
def strategyFor (endpoint : String) (strategy : Strategy) : Strategy :=
  if endpoint ∈ ["crumb_basic", "cookie_basic"] then .basic
  else if endpoint ∈ ["crumb_csrf", "consent_form", "consent_collect", "consent_copy"] then .csrf
  else strategy

namespace CoordinatedSession

/-- `complete` -/
def complete (s : CoordinatedSession) : Bool :=
  .history ∈ s.chartSent ∧ s.pendingFallback = none ∧ s.poisoned = false

/-- The session closes. -/
def poison (s : CoordinatedSession) : CoordinatedSession := { s with poisoned := true }

/-- `_check_transition`: whether the request is a status fallback. -/
def checkTransition (d : Dispatch) (s : CoordinatedSession) :
    Except String Bool × CoordinatedSession :=
  let s := { s with strategy := strategyFor d.identity.endpoint s.strategy }
  match d.kind with
  | none => (.ok false, s)
  | some kind =>
    match s.pendingFallback with
    | none =>
      if kind ∈ s.chartSent then (.error "unapproved_yahoo_repeat", s) else (.ok false, s)
    | some pending =>
      if s.fallbackUsed ∨ d.fallbackTarget kind ≠ pending ∨ some s.strategy = s.failedStrategy then
        (.error "unapproved_yahoo_status_fallback", s)
      else (.ok true, { s with fallbackUsed := true })

/-- The request that a call makes, before the transition is checked. -/
def classified (lib : SessionLibrary) (call : RequestCall) (s : CoordinatedSession) :
    Except String Dispatch := do
  let identity ← fetch (classify lib.toWireLibrary (lib.upper call.method) call.url s.expectedSymbol)
    "unapproved_yahoo_endpoint"
  let request : Dispatch := ⟨identity, call.url, call.names, call.params, none⟩
  require (s.validates lib request) "unapproved_yahoo_chart_parameters"
  let kind ← chartKind identity call.params
  pure { request with kind := kind }

/-- `request` up to the exchange: the request that is dispatched, and whether it is a status
fallback. An exception of `deepcopy` or of `str` leaves the session as it is. -/
def request (lib : SessionLibrary) (call : RequestCall) (s : CoordinatedSession) :
    Except String (Dispatch × Bool) × CoordinatedSession :=
  if s.poisoned ∨ s.finalized ∨ s.active.isSome then (.error "yahoo_session_poisoned", s.poison)
  else if call.retryCount ≠ 0 then (.error "yahoo_retry_enabled", s.poison)
  else if ¬ call.names.all (· ∈ allowedKwargs) then
    (.error "unapproved_yahoo_request_arguments", s.poison)
  else if ¬ call.copied then (.error "cannot copy", s)
  else
    match s.classified lib call with
    | .error code => (.error code, s.poison)
    | .ok d =>
      if d.kind.isSome ∧ ¬ call.rendered then (.error "cannot write", s)
      else match s.checkTransition d with
      | (.error code, s) => (.error code, s.poison)
      | (.ok fallback, s) =>
        (.ok (d, fallback), { s with active := some d, envelopeConsumed := false })

/-- What the port passes to `assert_active_envelope`, compared with what is active. -/
structure EnvelopeCheck where
  sameExchange : Bool
  sameRequest : Bool
  sameSnapshot : Bool
  identity : YahooRequestIdentity
  retryCount : Int
  consume : Bool

/-- `assert_active_envelope` -/
def assertActiveEnvelope (lib : SessionLibrary) (check : EnvelopeCheck) (s : CoordinatedSession) :
    Except String Unit × CoordinatedSession :=
  match s.active with
  | none => (.error "yahoo_session_envelope_mismatch", s.poison)
  | some d =>
    if ¬ check.sameExchange ∨ s.poisoned ∨ s.finalized ∨ check.retryCount ≠ 0 ∨
        ¬ check.sameRequest ∨ check.identity ≠ d.identity ∨ ¬ check.sameSnapshot ∨
        s.envelopeConsumed = check.consume then
      (.error "yahoo_session_envelope_mismatch", s.poison)
    else if ¬ s.validates lib { d with names := d.names ++ ["allow_redirects"] } then
      (.error "unapproved_yahoo_chart_parameters", s)
    else
      (.ok (), if check.consume then { s with envelopeConsumed := true } else s)

end CoordinatedSession

/-! ## Exchanges -/

/-- `YahooExchangeReceipt`, as far as the session looks at it; a status that is no integer
is missing. -/
structure YahooExchangeReceipt where
  statusCode : Option Int
  hasRawReference : Bool
  hasAuditReference : Bool
  responseStatus : Option Int
  contentIsBytes : Bool
  textIsStr : Bool
  jsonIsCallable : Bool
  hasHeaders : Bool
  hasCookies : Bool
deriving DecidableEq

/-- The status of a receipt that is accepted for a request. -/
def YahooExchangeReceipt.status? (receipt : YahooExchangeReceipt) (d : Dispatch) : Option Int := do
  let status ← receipt.statusCode
  guard ((receipt.hasRawReference ∨ receipt.hasAuditReference) ∧
    (d.identity.resourceClass = "chart" → receipt.hasRawReference) ∧
    100 ≤ status ∧ status ≤ 599 ∧ receipt.responseStatus = some status ∧ receipt.contentIsBytes ∧
    receipt.textIsStr ∧ receipt.jsonIsCallable ∧ receipt.hasHeaders ∧ receipt.hasCookies)
  pure status

/-- How the exchange port ends: with an exception that is no `Exception`, with one that is, or
with a value, which is missing when it is no receipt. -/
inductive ExchangeEnd
  | interrupted
  | raised
  | returned (receipt : Option YahooExchangeReceipt)
deriving DecidableEq

/-- The status of a failed chart request, or of any other failed request. -/
def isFailure (d : Dispatch) (status : Int) : Bool :=
  400 ≤ status ∧ ¬ (d.identity.endpoint = "cookie_basic" ∧ status = 404)

namespace CoordinatedSession

/-- The fallback after a status that is no rate limit and no redirect. -/
def fallbackAfter (d : Dispatch) (status : Int) (s : CoordinatedSession) : CoordinatedSession :=
  if isFailure d status then
    match d.kind with
    | some kind =>
      if s.fallbackUsed = false ∧ s.pendingFallback = none then
        { s with
          pendingFallback := some (d.fallbackTarget kind)
          failedStrategy := some s.strategy }
      else s.poison
    | none => s.poison
  else if d.kind.isSome then { s with pendingFallback := none }
  else s

/-- What follows from the status of an accepted receipt. -/
def answered (d : Dispatch) (status : Int) (s : CoordinatedSession) :
    Except String Unit × CoordinatedSession :=
  if status = 429 then (.error "yahoo_rate_limited", s.poison)
  else if 300 ≤ status ∧ status < 400 then (.error "yahoo_redirect_rejected", s.poison)
  else
    let s := s.fallbackAfter d status
    (.ok (), { s with chartSent := s.chartSent ++ (d.kind.filter (· ∉ s.chartSent)).toList })

/-- `request` after the exchange. -/
def exchanged (d : Dispatch) (outcome : ExchangeEnd) (s : CoordinatedSession) :
    Except String Unit × CoordinatedSession :=
  let s := { s with active := none }
  match outcome with
  | .interrupted => (.error "interrupted", s)
  | .raised => (.error "yahoo_exchange_failed", s.poison)
  | .returned receipt =>
    match receipt.bind (·.status? d) with
    | none => (.error "invalid_yahoo_exchange_receipt", s.poison)
    | some status => s.answered d status

/-- What the port does to finalize: it has no such method, the method raises, or it returns. -/
inductive PortFinalization
  | missing
  | raises
  | returns
deriving DecidableEq

/-- `finalize` -/
def finalize (outcome : LogicalResultOutcome) (port : PortFinalization) (s : CoordinatedSession) :
    Except String Unit × CoordinatedSession :=
  if s.finalized then (.error "yahoo_session_already_finalized", s)
  else if port = .missing then (.error "yahoo_exchange_finalization_missing", s)
  else if outcome = .succeeded ∧ s.complete = false then (.error "yahoo_session_incomplete", s)
  else if port = .raises then (.error "the port's exception", s)
  else (.ok (), { s with finalized := true, poisoned := true })

end CoordinatedSession

/-! ## Runs -/

/-- What happens in a session. -/
inductive SessionEntry
  | dispatched (d : Dispatch) (fallback : Bool)
  | answered (d : Dispatch) (status : Int)
  | failed (d : Dispatch)
  | interrupted (d : Dispatch)
  | rejected
  | finalized
deriving DecidableEq

/-- A session and the log of what happened in it, which nothing reads. -/
structure SessionRun where
  session : CoordinatedSession
  log : List SessionEntry

/-- A call of the session, by the library or from inside the exchange port, or the end of the
exchange in progress. -/
inductive YahooStep
  | request (call : RequestCall)
  | assertEnvelope (check : CoordinatedSession.EnvelopeCheck)
  | exchangeEnds (outcome : ExchangeEnd)
  | finalize (outcome : LogicalResultOutcome) (port : CoordinatedSession.PortFinalization)

/-- The entry of an exchange that ended. -/
def ExchangeEnd.entry (outcome : ExchangeEnd) (d : Dispatch) : SessionEntry :=
  match outcome with
  | .interrupted => .interrupted d
  | .raised => .failed d
  | .returned receipt => (receipt.bind (·.status? d)).elim (.failed d) (.answered d)

def SessionRun.next (lib : SessionLibrary) (step : YahooStep) (run : SessionRun) : SessionRun :=
  match step with
  | .request call =>
    match run.session.request lib call with
    | (.error _, s) => ⟨s, run.log ++ [.rejected]⟩
    | (.ok (d, fallback), s) => ⟨s, run.log ++ [.dispatched d fallback]⟩
  | .assertEnvelope check => ⟨(run.session.assertActiveEnvelope lib check).2, run.log⟩
  | .exchangeEnds outcome =>
    match run.session.active with
    | none => run
    | some d => ⟨(run.session.exchanged d outcome).2, run.log ++ [outcome.entry d]⟩
  | .finalize outcome port =>
    match run.session.finalize outcome port with
    | (.error _, s) => ⟨s, run.log⟩
    | (.ok _, s) => ⟨s, run.log ++ [.finalized]⟩

/-- A session as `__init__` makes it. -/
def SessionRun.initial (expectedSymbol : String) (intent : Option DailyIntent) : SessionRun :=
  ⟨{ expectedSymbol := expectedSymbol, intent := intent }, []⟩

end StockResearch.Sources
