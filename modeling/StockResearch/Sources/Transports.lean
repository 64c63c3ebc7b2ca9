import StockResearch.Contracts.Values
import StockResearch.Requests.Transport

/-!
# The transports of the sources

Five transports send one request each and describe what came back. What they raise
decides how the attempt is recorded: a `ReceivedResponseValidationError` is a received
response that failed a local check, any other exception a send without one.

The HTTP library is a behaviour (`WireOutcome`), and so is what the transports use of the
language (`WireLibrary`): no result depends on what its functions compute.

- `Streaming.read`: what the four transports over HTTPX do with a response.
- `normalizeResponse`: what the Yahoo port does with one.
- `SourceTransport.callback`: a transport as the callback of an exchange.
-/

namespace StockResearch.Sources

open Requests
open Contracts (PyFloat)

/-! ## The library -/

/-- `urlsplit(url)`, with the properties that are read of it. -/
structure SplitUrl where
  scheme : String
  netloc : String
  path : String
  query : String
  fragment : String
  hostname : Option String
  username : Option String
  password : Option String
  port : Option Nat
deriving DecidableEq

/-- What is used of the language: `str.lower`, `urlsplit` (with `port`), `float` of a text,
`parsedate_to_datetime` (an instant, if the date is aware), and `total_seconds`. -/
structure WireLibrary where
  lower : String → String
  urlsplit : String → Option SplitUrl
  float : String → Option PyFloat
  parsedate : String → Option (Option Int)
  totalSeconds : Nat → Seconds

/-- A response the HTTP library has completely read: the two headers anything asks for,
and the URL it came from. -/
structure WireResponse where
  statusCode : Nat
  contentType : Option String
  retryAfter : Option String
  url : String
  body : List UInt8
  status_ge : 100 ≤ statusCode
  status_le : statusCode ≤ 599

/-- What the HTTP library does with a request: it raises before there is a response, it
raises while the body of one is read, or it delivers one. -/
inductive WireOutcome
  | raised
  | interrupted (statusCode : Nat)
  | complete (response : WireResponse)

/-- An exception of a transport, and whether its class is a
`ReceivedResponseValidationError`. -/
structure TransportError where
  message : String
  received : Bool
deriving DecidableEq

/-! ## Texts -/

/-- `str.isspace`, of a character. -/
def isSpace (c : Char) : Bool :=
  (9 ≤ c.toNat && c.toNat ≤ 13) || (28 ≤ c.toNat && c.toNat ≤ 32) || c.toNat == 0x85 ||
    c.toNat == 0xa0 || c.toNat == 0x1680 || (0x2000 ≤ c.toNat && c.toNat ≤ 0x200a) ||
    c.toNat == 0x2028 || c.toNat == 0x2029 || c.toNat == 0x202f || c.toNat == 0x205f ||
    c.toNat == 0x3000

/-- A text without the characters at its ends that are stripped. -/
def stripWhere (stripped : Char → Bool) (text : String) : String :=
  String.ofList ((text.toList.dropWhile stripped).reverse.dropWhile stripped).reverse

/-- `text.strip()` -/
def strip (text : String) : String := stripWhere isSpace text

/-- `text.partition(separator)`, and whether the separator was found. -/
def partition (separator : Char) (text : String) : String × Bool × String :=
  (String.ofList (text.toList.takeWhile (· ≠ separator)), separator ∈ text.toList,
    String.ofList ((text.toList.dropWhile (· ≠ separator)).drop 1))

/-- `text.split(separator)` -/
def split (separator : Char) (text : String) : List String :=
  (text.toList.splitOn separator).map String.ofList

/-- ASCII digits, and at least one. -/
def isDecimal (text : String) : Bool := text ≠ "" ∧ text.toList.all Char.isDigit

/-! ## Intents -/

/-- `SourceParameter` -/
structure SourceParameter where
  name : Identifier
  value : String
  value_ge : 1 ≤ value.length
  value_le : value.length ≤ 512
deriving DecidableEq

/-- `CredentialFreeSourceIntent` -/
structure CredentialFreeSourceIntent where
  sourceId : Identifier
  operation : Identifier
  origin : Identifier
  resourceKey : Identifier
  parameters : List SourceParameter
  canonical : (parameters.map (·.name.text)).Pairwise (· < ·)
deriving DecidableEq

namespace CredentialFreeSourceIntent

/-- `to_transport_request` -/
def toTransportRequest (intent : CredentialFreeSourceIntent)
    (logicalRequestId physicalAttemptId : Identifier) : PhysicalTransportRequest where
  logicalRequestId := logicalRequestId
  physicalAttemptId := physicalAttemptId
  origin := intent.origin
  operation := intent.operation
  resourceKey := intent.resourceKey

/-- `request == self.intent.to_transport_request(...)`, of the ids of the request. -/
def isRequest (intent : CredentialFreeSourceIntent) (request : PhysicalTransportRequest) : Bool :=
  request = intent.toTransportRequest request.logicalRequestId request.physicalAttemptId

/-- `tuple(parameter.name for parameter in self.parameters)` -/
def names (intent : CredentialFreeSourceIntent) : List String :=
  intent.parameters.map (·.name.text)

/-- `values.get(name)` -/
def value (intent : CredentialFreeSourceIntent) (name : String) : Option String :=
  (intent.parameters.find? (·.name.text = name)).map (·.value)

end CredentialFreeSourceIntent

/-- The target of a request; its method is `GET` and its scheme `https`. -/
structure HttpTarget where
  origin : Identifier
  path : String
  query : List (String × String)
deriving DecidableEq

/-! ## What a streamed response becomes -/

/-- `UntrustedTransportResponse(...)`, not redirected; none is a `ValidationError`. -/
def untrustedResponse? (response : WireResponse) (mediaType encoding : String)
    (finalOrigin : Identifier) (retryAfterSeconds : Option Seconds) :
    Option UntrustedTransportResponse :=
  if h : (1 ≤ mediaType.length ∧ mediaType.length ≤ 128) ∧
      1 ≤ encoding.length ∧ encoding.length ≤ 64 then
    some {
      statusCode := response.statusCode
      body := response.body
      mediaType
      encoding
      finalOrigin
      redirected := false
      retryAfterSeconds
      status_ge := response.status_ge
      status_le := response.status_le
      mediaType_ge := h.1.1
      mediaType_le := h.1.2
      encoding_ge := h.2.1
      encoding_le := h.2.2 }
  else none

/-- `300 <= status_code < 400` -/
def isRedirect (statusCode : Nat) : Bool := 300 ≤ statusCode ∧ statusCode < 400

/-- What the transports over HTTPX do differently with a streamed response: the errors of
their own class, the headers they read, and what they say of the encoding. None of the
retry delay is an exception. -/
structure Streaming where
  redirectRejected : TransportError
  exchangeFailed : TransportError
  mediaType : String → String
  encoding : String
  retryAfter : Option String → Option (Option Seconds)

/-- The `try` statement of a transport over HTTPX: a redirect is rejected before its body
is read, and every exception of another class becomes the failure of the exchange. -/
def Streaming.read (streaming : Streaming) (target : HttpTarget) (wire : WireOutcome) :
    Except TransportError UntrustedTransportResponse :=
  match wire with
  | .raised => .error streaming.exchangeFailed
  | .interrupted statusCode =>
    .error (if isRedirect statusCode then streaming.redirectRejected else streaming.exchangeFailed)
  | .complete response =>
    if isRedirect response.statusCode then .error streaming.redirectRejected
    else do
      let retryAfter ← fetch (streaming.retryAfter response.retryAfter) streaming.exchangeFailed
      -- redirects are not followed, so the response is of the requested origin
      fetch (untrustedResponse? response (streaming.mediaType (response.contentType.getD ""))
        streaming.encoding target.origin retryAfter) streaming.exchangeFailed

/-- A finite non-negative number of seconds. -/
def finiteSeconds : PyFloat → Option Seconds
  | .finite value => if 0 ≤ value then some ⟨value.num.toNat, value.den, value.den_pos⟩ else none
  | _ => none

/-- `max(0.0, (deadline - now).total_seconds())` -/
def secondsUntil (lib : WireLibrary) (deadline : Int) (now : DateTime) : Seconds :=
  lib.totalSeconds (deadline - now.micros).toNat

/-- `_retry_after`, which catches what its functions raise. -/
def retryAfterAt (lib : WireLibrary) (value : Option String) (receivedAt : DateTime) :
    Option Seconds :=
  match value with
  | none => none
  | some value =>
    if isDecimal value then (lib.float value).bind finiteSeconds
    else
      match lib.parsedate value with
      | some (some deadline) => some (secondsUntil lib deadline receivedAt)
      | _ => none

/-! ## BOJ -/

/-- `BojPhysicalTransport`; `clock` is the reading of its clock once the body is read, or
none if the clock or `on_received` raises. -/
structure BojPhysicalTransport where
  intent : CredentialFreeSourceIntent
  clock : Option DateTime

/-- `render_boj_http_target` -/
def renderBojHttpTarget (intent : CredentialFreeSourceIntent) : Except TransportError HttpTarget :=
  if intent.sourceId.text = "boj" ∧ intent.operation.text = "fx-daily-code" ∧
      intent.origin.text = "www.stat-search.boj.or.jp" ∧
      intent.resourceKey.text = "api-v1-getDataCode" ∧
      intent.names = ["code", "db", "end_date", "format", "lang", "start_date"] ∧
      intent.value "code" = some "FXERD04" ∧ intent.value "db" = some "FM08" ∧
      intent.value "format" = some "json" ∧ intent.value "lang" = some "en" then
    .ok ⟨intent.origin, "/api/v1/getDataCode",
      [("code", "FXERD04"), ("db", "FM08"), ("endDate", (intent.value "end_date").getD ""),
        ("format", "json"), ("lang", "en"), ("startDate", (intent.value "start_date").getD "")]⟩
  else .error ⟨"boj_http_intent_not_approved", false⟩

/-- What `BojPhysicalTransport` does before it sends. -/
def BojPhysicalTransport.prepare (transport : BojPhysicalTransport)
    (request : PhysicalTransportRequest) : Except TransportError HttpTarget := do
  require (transport.intent.isRequest request) ⟨"boj_http_request_mismatch", false⟩
  renderBojHttpTarget transport.intent

/-- What it does with the response. -/
def BojPhysicalTransport.streaming (lib : WireLibrary) (transport : BojPhysicalTransport) :
    Streaming where
  redirectRejected := ⟨"boj_http_redirect_rejected", true⟩
  exchangeFailed := ⟨"boj_http_exchange_failed", false⟩
  mediaType header := lib.lower (strip (partition ';' header).1)
  encoding := "utf-8"
  retryAfter value := transport.clock.map (retryAfterAt lib value)

/-! ## Dukascopy -/

/-- `DukascopyPhysicalTransport` -/
structure DukascopyPhysicalTransport where
  intent : CredentialFreeSourceIntent
  clock : Option DateTime

/-- The endpoint of the daily bid candles. -/
def dukascopyEndpoint : String := "https://jetta.dukascopy.com/v1/candles/day/USD-JPY/BID"

/-- What the target pattern finds after the endpoint: a year, or a timestamp. -/
inductive DukascopyPeriod
  | year (digits : String)
  | since (digits : String)

/-- `re.fullmatch` of the target pattern. -/
def matchDukascopyTarget (url : String) : Option DukascopyPeriod :=
  let endpoint := dukascopyEndpoint.toList
  let year := endpoint ++ ['/']
  let since := endpoint ++ "?from=".toList
  let rest (start : List Char) := String.ofList (url.toList.drop start.length)
  if year.isPrefixOf url.toList ∧ isDecimal (rest year) ∧ (rest year).length = 4 then
    some (.year (rest year))
  else if since.isPrefixOf url.toList ∧ isDecimal (rest since) then some (.since (rest since))
  else none

/-- `int(text)`, of digits. -/
def decimalValue (digits : String) : Nat :=
  digits.toList.foldl (fun n c => 10 * n + (c.toNat - '0'.toNat)) 0

/-- The year a timestamp in milliseconds begins. -/
def yearOfTimestamp (timestamp : Nat) : Except TransportError Nat := do
  let day := daysBeforeYear 1970 + timestamp / 86400000
  require (day < 3652059) ⟨"dukascopy_year_invalid", false⟩
  let year := yearOf day
  require ((daysBeforeYear year - daysBeforeYear 1970) * 86400000 = timestamp)
    ⟨"dukascopy_year_boundary_invalid", false⟩
  pure year

/-- `render_dukascopy_http_target` -/
def renderDukascopyHttpTarget (intent : CredentialFreeSourceIntent) :
    Except TransportError HttpTarget := do
  require (intent.sourceId.text = "dukascopy" ∧ intent.operation.text = "fx-daily-bid" ∧
    intent.origin.text = "jetta.dukascopy.com" ∧ intent.names = ["url"])
    ⟨"dukascopy_intent_invalid", false⟩
  let period ← fetch ((intent.value "url").bind matchDukascopyTarget)
    ⟨"dukascopy_target_invalid", false⟩
  let (year, path, query) ← match period with
    | .since digits => do
      let year ← yearOfTimestamp (decimalValue digits)
      pure (year, "/v1/candles/day/USD-JPY/BID", [("from", digits)])
    | .year digits => pure (decimalValue digits, "/v1/candles/day/USD-JPY/BID/" ++ digits, [])
  require (2000 ≤ year ∧ intent.resourceKey.text = "usdjpy-bid-d1-" ++ toString year)
    ⟨"dukascopy_resource_year_mismatch", false⟩
  pure ⟨intent.origin, path, query⟩

/-- What `DukascopyPhysicalTransport` does before it sends. -/
def DukascopyPhysicalTransport.prepare (transport : DukascopyPhysicalTransport)
    (request : PhysicalTransportRequest) : Except TransportError HttpTarget := do
  require (transport.intent.isRequest request) ⟨"dukascopy_http_request_mismatch", false⟩
  renderDukascopyHttpTarget transport.intent

/-- What it does with the response. -/
def DukascopyPhysicalTransport.streaming (lib : WireLibrary)
    (transport : DukascopyPhysicalTransport) : Streaming where
  redirectRejected := ⟨"dukascopy_http_redirect_rejected", true⟩
  exchangeFailed := ⟨"dukascopy_http_exchange_failed", false⟩
  mediaType header := lib.lower (strip (partition ';' header).1)
  encoding := "utf-8"
  retryAfter value := transport.clock.map (retryAfterAt lib value)

/-! ## EDINET -/

/-- `EdinetPhysicalTransport` over `HttpxEdinetWireClient`: the reason its preflight is not
ready, if it is not, and whether the key can be read for the send. -/
structure EdinetPhysicalTransport where
  intent : CredentialFreeSourceIntent
  preflight : Option String
  keyRead : Bool

/-- `^/[A-Za-z0-9./_-]+$`, with the bound on the length. -/
def isHttpsPath (path : String) : Bool :=
  match path.toList with
  | '/' :: c :: rest => (c :: rest).length ≤ 1023 ∧ (c :: rest).all fun c =>
      c.isAlphanum || c == '.' || c == '/' || c == '_' || c == '-'
  | _ => false

/-- `render_edinet_http_target` -/
def renderEdinetHttpTarget (intent : CredentialFreeSourceIntent) :
    Except TransportError HttpTarget := do
  let rejected : TransportError := ⟨"edinet_intent_not_approved", false⟩
  require (intent.sourceId.text = "edinet" ∧ intent.origin.text = "api.edinet-fsa.go.jp") rejected
  if intent.operation.text = "document-list" ∧ intent.resourceKey.text = "api-v2-documents" ∧
      intent.names = ["date", "type"] ∧ intent.value "type" = some "2" then
    pure ⟨intent.origin, "/api/v2/documents.json",
      intent.parameters.map fun parameter => (parameter.name.text, parameter.value)⟩
  else if intent.operation.text = "document-retrieval" ∧
      some intent.resourceKey.text = intent.value "document_id" ∧
      intent.names = ["document_id", "type"] ∧ intent.value "type" = some "1" then do
    let path := "/api/v2/documents/" ++ intent.resourceKey.text
    require (isHttpsPath path) ⟨"EdinetHttpTarget", false⟩
    pure ⟨intent.origin, path, [("type", "1")]⟩
  else .error rejected

/-- What `EdinetPhysicalTransport` does before it sends. -/
def EdinetPhysicalTransport.prepare (transport : EdinetPhysicalTransport)
    (request : PhysicalTransportRequest) : Except TransportError HttpTarget := do
  require (transport.intent.isRequest request) ⟨"edinet_transport_request_mismatch", false⟩
  let target ← renderEdinetHttpTarget transport.intent
  require (transport.preflight = none)
    ⟨"edinet_credential_" ++ transport.preflight.getD "", false⟩
  require transport.keyRead ⟨"edinet_physical_send_failed", false⟩
  pure target

/-- What `HttpxEdinetWireClient` does with the response. -/
def HttpxEdinetWireClient.streaming (lib : WireLibrary) (target : HttpTarget) : Streaming where
  redirectRejected := ⟨"edinet_http_redirect_rejected", false⟩
  exchangeFailed := ⟨"edinet_http_exchange_failed", false⟩
  mediaType header := lib.lower (strip (partition ';' header).1)
  encoding := if ".json".toList.isSuffixOf target.path.toList then "utf-8" else "binary"
  retryAfter value := some (value.bind fun value => (lib.float value).bind finiteSeconds)

/-- The credential boundary around the send: whatever the wire client raises leaves the
transport as one error. -/
def useEdinetApiKeyForSend {α : Type} (result : Except TransportError α) :
    Except TransportError α :=
  result.mapError fun _ => ⟨"edinet_physical_send_failed", false⟩

/-! ## JPX -/

/-- `JpxPhysicalTransport` -/
structure JpxPhysicalTransport where
  intent : CredentialFreeSourceIntent

/-- What `JpxPhysicalTransport` does before it sends. -/
def JpxPhysicalTransport.prepare (transport : JpxPhysicalTransport)
    (request : PhysicalTransportRequest) : Except TransportError HttpTarget := do
  let intent := transport.intent
  require (intent.isRequest request) ⟨"jpx_http_request_mismatch", false⟩
  require (intent.sourceId.text = "jpx" ∧ intent.operation.text = "current-listed-issues" ∧
    intent.origin.text = "www.jpx.co.jp" ∧
    intent.resourceKey.text = "tse-current-listed-issues-xlsx" ∧ intent.parameters = [])
    ⟨"jpx_http_intent_not_approved", false⟩
  pure ⟨intent.origin, "/markets/statistics-equities/misc/tvdivq0000001vg2-att/data_j.xlsx", []⟩

/-- What it does with the response: the media type is not stripped, and a retry delay is
not read. -/
def JpxPhysicalTransport.streaming (lib : WireLibrary) : Streaming where
  redirectRejected := ⟨"jpx_http_redirect_rejected", false⟩
  exchangeFailed := ⟨"jpx_http_exchange_failed", false⟩
  mediaType header := lib.lower (partition ';' header).1
  encoding := "binary"
  retryAfter _ := some none

/-! ## Yahoo -/

/-- `YahooRequestIdentity` -/
structure YahooRequestIdentity where
  method : String
  origin : String
  resourceClass : String
  endpoint : String
deriving DecidableEq

/-- `_CHART_PREFIX` -/
def chartPath : String := "/v8/finance/chart/"

/-- `_classify`; none is `unapproved_yahoo_endpoint`. -/
def classify (lib : WireLibrary) (method url expectedSymbol : String) :
    Option YahooRequestIdentity := do
  let parsed ← lib.urlsplit url
  let origin := parsed.hostname.getD ""
  guard (parsed.scheme = "https" ∧ parsed.username = none ∧ parsed.password = none ∧
    parsed.port = none ∧ parsed.fragment = "" ∧ parsed.netloc = origin)
  let path := parsed.path
  if method = "GET" ∧ origin = "fc.yahoo.com" ∧ path ∈ ["", "/"] then
    pure ⟨method, origin, "cookie", "cookie_basic"⟩
  else if method = "GET" ∧ origin ∈ ["query1.finance.yahoo.com", "query2.finance.yahoo.com"] ∧
      path = "/v1/test/getcrumb" then
    pure ⟨method, origin, "crumb",
      if origin = "query1.finance.yahoo.com" then "crumb_basic" else "crumb_csrf"⟩
  else if method = "GET" ∧ origin = "query2.finance.yahoo.com" ∧
      chartPath.toList.isPrefixOf path.toList then do
    guard (path = chartPath ++ expectedSymbol)
    pure ⟨method, origin, "chart", "chart"⟩
  else if method = "GET" ∧ origin = "guce.yahoo.com" ∧ path = "/consent" then
    pure ⟨method, origin, "consent", "consent_form"⟩
  else if method = "POST" ∧ origin = "consent.yahoo.com" ∧ path = "/v2/collectConsent" then
    pure ⟨method, origin, "consent", "consent_collect"⟩
  else if method = "GET" ∧ origin = "guce.yahoo.com" ∧ path = "/copyConsent" then
    pure ⟨method, origin, "consent", "consent_copy"⟩
  else none

/-- `EphemeralYahooRequest`, as far as a response is compared with it. -/
structure EphemeralYahooRequest where
  method : String
  url : String
deriving DecidableEq

/-- `_retry_after_seconds`. An infinite number is an exception of the response model. -/
def yahooRetryAfter (lib : WireLibrary) (value : Option String) (now : DateTime) :
    Except TransportError (Option Seconds) :=
  match value.map strip with
  | none => .ok none
  | some value =>
    if isDecimal value then
      (fetch ((lib.float value).bind finiteSeconds)
        ⟨"yahoo_received_response_invalid", true⟩).map some
    else
      match lib.parsedate value with
      | some (some deadline) => .ok (some (secondsUntil lib deadline now))
      | _ => .error ⟨"yahoo_retry_after_invalid", true⟩

/-- The media types of a resource class. -/
def yahooMediaTypes (identity : YahooRequestIdentity) : List String :=
  if identity.resourceClass = "chart" then ["application/json"]
  else if identity.resourceClass = "crumb" then ["text/plain"]
  else ["text/html", "text/plain"]

/-- The one parameter of a content type is the charset `utf-8`. -/
def isUtf8Charset (parameter : String) : Bool :=
  let parts := partition '=' (strip parameter)
  strip parts.1 = "charset" ∧ parts.2.1 ∧ stripWhere (· = '"') (strip parts.2.2) = "utf-8"

/-- The last part of a path. -/
def lastPart (path : String) : String := (split '/' path).getLastD ""

/-- `_normalize_response`: every exception is a `ReceivedResponseValidationError`. -/
def normalizeResponse (lib : WireLibrary) (request : EphemeralYahooRequest)
    (identity : YahooRequestIdentity) (origin : Identifier) (response : WireResponse)
    (now : DateTime) : Except TransportError UntrustedTransportResponse := do
  let invalid : TransportError := ⟨"yahoo_received_response_invalid", true⟩
  let requested ← fetch (lib.urlsplit request.url) invalid
  let requestedPath := if requested.path = "" then "/" else requested.path
  let found ← fetch (classify lib request.method response.url (lastPart requestedPath)) invalid
  let final ← fetch (lib.urlsplit response.url) invalid
  require (found = identity ∧ (if final.path = "" then "/" else final.path) = requestedPath)
    ⟨"yahoo_response_identity_invalid", true⟩
  let contentType := split ';' (lib.lower (response.contentType.getD ""))
  let mediaType := strip (contentType.headD "")
  require (mediaType ∈ yahooMediaTypes identity ∧ contentType.length ≤ 2)
    ⟨"yahoo_content_type_invalid", true⟩
  require (contentType.tail.all isUtf8Charset) ⟨"yahoo_charset_invalid", true⟩
  require ((String.fromUTF8? ⟨response.body.toArray⟩).isSome) ⟨"yahoo_utf8_invalid", true⟩
  let retryAfter ← yahooRetryAfter lib response.retryAfter now
  fetch (untrustedResponse? response mediaType "utf-8" origin retryAfter) invalid

/-- `send` of `ProductionYahooExchangePort.exchange`: the request it was made for, whether
the binding still holds when it sends, and the reading of its clock after the response, or
none if the clock raises. -/
structure YahooSend where
  request : EphemeralYahooRequest
  identity : YahooRequestIdentity
  origin : Identifier
  sanitized : PhysicalTransportRequest
  bound : Bool
  observedAt : Option DateTime

/-- What `send` does before the backend. -/
def YahooSend.prepare (port : YahooSend) (request : PhysicalTransportRequest) :
    Except TransportError Unit := do
  require (request = port.sanitized) ⟨"yahoo_transport_boundary_mismatch", false⟩
  require port.bound ⟨"yahoo_request_binding_rejected", false⟩

/-- What it does with the response of the backend. -/
def YahooSend.receive (lib : WireLibrary) (port : YahooSend) (wire : WireOutcome) :
    Except TransportError (UntrustedTransportResponse × Option WireResponse) :=
  match wire with
  | .raised | .interrupted _ => .error ⟨"yahoo_backend_failed", false⟩
  | .complete response => do
    let observedAt ← fetch port.observedAt ⟨"yahoo_clock_failed", false⟩
    let common ← normalizeResponse lib port.request port.identity port.origin response observedAt
    pure (common, some response)

/-! ## Callbacks -/

/-- The five transports. -/
inductive SourceTransport
  | boj (transport : BojPhysicalTransport)
  | dukascopy (transport : DukascopyPhysicalTransport)
  | edinet (transport : EdinetPhysicalTransport)
  | jpx (transport : JpxPhysicalTransport)
  | yahoo (port : YahooSend)

namespace SourceTransport

/-- The transport reaches the HTTP library with a request. -/
def sends (transport : SourceTransport) (request : PhysicalTransportRequest) : Bool :=
  match transport with
  | boj transport => (transport.prepare request).isOk
  | dukascopy transport => (transport.prepare request).isOk
  | edinet transport => (transport.prepare request).isOk
  | jpx transport => (transport.prepare request).isOk
  | yahoo port => (port.prepare request).isOk

/-- A response without a provider response. -/
def anonymous (result : Except TransportError UntrustedTransportResponse) :
    Except TransportError (UntrustedTransportResponse × Option WireResponse) :=
  result.map fun response => (response, none)

/-- What a transport returns or raises for a request. -/
def call (lib : WireLibrary) (transport : SourceTransport) (request : PhysicalTransportRequest)
    (wire : WireOutcome) : Except TransportError (UntrustedTransportResponse × Option WireResponse) :=
  match transport with
  | boj transport => do
    let target ← transport.prepare request
    anonymous ((transport.streaming lib).read target wire)
  | dukascopy transport => do
    let target ← transport.prepare request
    anonymous ((transport.streaming lib).read target wire)
  | edinet transport => do
    let target ← transport.prepare request
    anonymous (useEdinetApiKeyForSend ((HttpxEdinetWireClient.streaming lib target).read target wire))
  | jpx transport => do
    let target ← transport.prepare request
    anonymous ((JpxPhysicalTransport.streaming lib).read target wire)
  | yahoo port => do
    port.prepare request
    port.receive lib wire

/-- The transport as a callback: what it raises, by its class. -/
def callback (lib : WireLibrary) (transport : SourceTransport) (request : PhysicalTransportRequest)
    (wire : WireOutcome) : CallbackOutcome (Option WireResponse) :=
  match transport.call lib request wire with
  | .ok (response, provider) => .returned response provider
  | .error e => if e.received then .receivedInvalid else .raised

end SourceTransport

end StockResearch.Sources
