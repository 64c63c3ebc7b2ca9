import StockResearch.Preparation.ApprovalWindows
import StockResearch.Preparation.MarketEvidence

/-!
# Price acceptance

Fixed-period price evidence is accepted under nine conditions, reproduced from the
retained bytes: the listing, the source approvals, the period and its sessions, the rows
and their numbers, the currency, the arguments of the acquisition, and no known conflict.

- `csvQuality`: the rows of the table, checked against the normalized ones.
- `Findings`, `acceptanceConditions`, `acceptanceStatus`: the conditions and the status.
- `evaluateAcceptance`: the code of `_evaluate`.
- `validatePriceAcceptance`: the replay of a receipt.
-/

namespace StockResearch.Preparation

open Contracts

variable {Bytes : Type}

/-! ## The table -/

/-- A row of the table as it is read. -/
structure PriceRecord where
  on : Date
  cells : Cells
  row : DailyPrice
  issues : List PriceQualityIssue
  daily : Bool

/-- The cell under a column; an empty one is none. -/
def cellOf (header fields : List String) (column : String) : Option String :=
  match fields[header.idxOf column]? with
  | some "" => none
  | cell => cell

/-- The cells under `COLUMNS`. -/
def cellsOf (header fields : List String) : Cells where
  openPrice := cellOf header fields "Open"
  high := cellOf header fields "High"
  low := cellOf header fields "Low"
  close := cellOf header fields "Close"
  adjustedClose := cellOf header fields "Adj Close"
  volume := cellOf header fields "Volume"
  dividends := cellOf header fields "Dividends"
  stockSplits := cellOf header fields "Stock Splits"

/-- The body of the loop of `_csv_quality`: a row stands for its Tokyo day, and is daily
if it is stamped at that day's midnight with Tokyo's offset. -/
def readRecord (readers : PriceReaders Bytes) (header fields : List String) :
    Except RunError PriceRecord := do
  require (fields.length = header.length) (.valueError "invalid_price_csv_row")
  let stamp ← timestamp readers.toReaders (fields.headD "")
  let wall ← fetch (readers.tokyo.astimezone stamp) .overflowError
  let on := Date.ofDateTime wall
  let cells := cellsOf header fields
  let (row, issues) := normalizePriceRow readers.decimal on.isoformat cells
  pure {
    on
    cells
    row
    issues
    daily := wall.micros % dayMicros = 0 ∧ stamp.utcoffset = wall.micros - stamp.instant }

/-- An error of the reader. -/
def raised : Option RunError → Except RunError Unit
  | some error => .error error
  | none => pure ()

/-- `_csv_quality` -/
def csvQuality (readers : PriceReaders Bytes) (body : Bytes) (normalized : NormalizedPrices) :
    Except RunError (List PriceRecord) := do
  let lines := (readers.csv body).1
  let error := (readers.csv body).2
  let header := lines.headD []
  -- an error on the first line comes before the check of the header
  raised (if lines = [] then error else none)
  require (header.Nodup ∧ columns ⊆ header ∧ header.headD "" ∈ ["", "Date", "Datetime"])
    (.valueError "invalid_price_csv_columns")
  let records ← lines.tail.mapM (readRecord readers header)
  raised error
  require (records.map (·.row) = normalized.rows) (.valueError "source_normalized_values_mismatch")
  pure records

/-! ## The metadata of the acquisition -/

/-- `metadata.get(key)` -/
def metadataGet (metadata : List (PyStr × JsonValue)) (key : String) : JsonValue :=
  match metadata.find? (·.1 = .ofString key) with
  | some entry => entry.2
  | none => .null

/-- `_timestamp(metadata[key])` -/
def metadataTimestamp (readers : PriceReaders Bytes) (metadata : List (PyStr × JsonValue))
    (key : String) : Except RunError Timestamp := do
  let entry ← fetch (metadata.find? (·.1 = .ofString key)) (.keyError key)
  match entry.2 with
  | .str value =>
    let value ← fetch value.decode? (.valueError "Invalid isoformat string")
    timestamp readers.toReaders value
  | _ => .error .typeError

/-- `metadata.get(key) == text` -/
def metadataIs (metadata : List (PyStr × JsonValue)) (key text : String) : Bool :=
  jsonEqual scalarEq (metadataGet metadata key) (jsonText text)

/-- `arguments` -/
def expectedArguments (start stop : Date) : JsonValue :=
  .dict [(.ofString "start", jsonText start.isoformat), (.ofString "end", jsonText stop.isoformat),
    (.ofString "interval", jsonText "1d"), (.ofString "auto_adjust", .bool false),
    (.ofString "actions", .bool true), (.ofString "repair", .bool false),
    (.ofString "keepna", .bool true), (.ofString "timeout", .int 10)]

/-- `expected_metadata` -/
def expectedMetadata (arguments : JsonValue) : List (String × JsonValue) :=
  [("source", jsonText "Yahoo Finance"), ("library", jsonText "yfinance"),
    ("library_version", jsonText "1.7.0"), ("function", jsonText "Ticker.history"),
    ("policy", jsonText "yfinance-native-history-v1"), ("source_approval_version", .int 3),
    ("rate_unit", jsonText "library_call"), ("http_body_retained", .bool false),
    ("market_metadata_origin", jsonText "cached-history-chart-meta"), ("arguments", arguments),
    ("artifact_kind", jsonText "yfinance_returned_dataframe"),
    ("dividend_currency_verification", jsonText "not_independently_verified")]

/-! ## The conditions -/

/-- `AcceptanceStatus` -/
inductive AcceptanceStatus where
  | accepted
  | acceptedWithLimitations
  | pending
deriving DecidableEq

/-- `AcceptanceCondition` -/
structure AcceptanceCondition where
  conditionId : String
  passed : Bool
  reasons : List String
  evidencePaths : List String
deriving DecidableEq

/-- `CONDITION_IDS` -/
def conditionIds : List String :=
  ["PA-01", "PA-02", "PA-03", "PA-04", "PA-05", "PA-06", "PA-07", "PA-08", "PA-09"]

/-- `LIMITATIONS` -/
def limitations : List String :=
  ["current_listing_and_latest_publication_unconfirmed", "scheduled_calendar_only",
    "provider_table_not_http_body", "provider_adjusted_close_only",
    "dividend_currency_not_independently_verified", "no_independent_provider_comparison",
    "fixed_period_not_current_run_freshness"]

/-- `RESTRICTED_USES` -/
def restrictedUses : List String :=
  ["Do not claim current listing eligibility, live freshness, or independently verified prices.",
    "Do not compute adjusted OHLC from these inputs.",
    "Defer dividend reinvestment or total-return calculations requiring verified dividend " ++
      "currency.",
    "Recheck the required terminal date before use in a new analysis run.",
    "Keep retained source bytes local; this receipt grants no external transfer or " ++
      "publication permission."]

/-- `acceptance_status` -/
def acceptanceStatus (conditions : List AcceptanceCondition) (limitations : List String) :
    Except RunError AcceptanceStatus := do
  require (conditions.map (·.conditionId) = conditionIds)
    (.valueError "invalid_acceptance_condition_set")
  if ¬ conditions.all (·.passed) then pure .pending
  else if limitations = [] then pure .accepted else pure .acceptedWithLimitations

/-- What the evaluation found, before its conditions. -/
structure Findings where
  identity : Bool
  sourceValid : Bool
  currencyValid : Bool
  argumentsValid : Bool
  threeYears : Bool
  covers : Bool
  dateValid : Bool
  days : List String
  missing : List String
  unexpected : List String
  numericIssues : List PriceQualityIssue
  conflictReasons : List String
  conflictEvidence : List String
  names : List String

/-- `condition(...)` -/
def condition (conditionId : String) (passed : Bool) (reasons evidencePaths : List String) :
    AcceptanceCondition :=
  ⟨conditionId, passed, if passed then [] else reasons, evidencePaths⟩

/-- `values or default` -/
def orElse (values fallback : List String) : List String := if values = [] then fallback else values

/-- The nine conditions. -/
def acceptanceConditions (f : Findings) : List AcceptanceCondition :=
  [condition "PA-01" f.identity ["security_identity_not_verified"]
      ["preparation/jpx.xlsx", "preparation/task.json", "preparation/history-metadata.json"],
    condition "PA-02" f.sourceValid ["source_approval_or_acquisition_policy_not_valid"]
      ["approvals/jpx.yaml", "approvals/yfinance.yaml", "preparation/history-metadata.json"],
    condition "PA-03" (f.days ≠ [] ∧ f.threeYears ∧ f.covers ∧ f.missing = [])
      ["three_year_period_or_full_coverage_missing"]
      ["preparation/normalized.json", "calendar.json"],
    condition "PA-04" (f.dateValid ∧ f.covers ∧ f.missing = [] ∧ f.unexpected = [])
      ["dates_or_calendar_coverage_invalid"] ["preparation/prices.csv", "calendar.json"],
    condition "PA-05" (f.days ≠ [] ∧ f.numericIssues = [])
      (orElse (sortedSet (f.numericIssues.map (·.code))) ["empty_prices"])
      ["preparation/prices.csv", "preparation/normalized.json"],
    condition "PA-06" f.currencyValid ["currency_or_timezone_unconfirmed_or_conflicting"]
      ["preparation/history-metadata.json", "preparation/normalized.json"],
    condition "PA-07" f.argumentsValid ["adjustment_or_action_arguments_invalid"]
      ["preparation/history-metadata.json", "preparation/normalized.json"],
    condition "PA-08" true [] (sortedSet f.names),
    condition "PA-09" (f.conflictReasons = [] ∧ f.identity ∧ f.currencyValid ∧
        f.numericIssues = [] ∧ f.dateValid ∧ f.missing = [] ∧ f.unexpected = [])
      (orElse f.conflictReasons ["material_input_conflict"]) f.conflictEvidence]

/-! ## The evaluation -/

/-- What the evaluation reads from the preparation. -/
structure PreparedPrices (Bytes : Type) where
  original : MarketPreparationIndex
  task : AnalysisTask
  normalized : NormalizedPrices
  metadata : List (PyStr × JsonValue)
  table : Bytes
  retrieved : Timestamp
  preparedAt : Timestamp
  provenanceAt : Timestamp

/-- The metadata, which has to be an object. -/
def readMetadata (readers : PriceReaders Bytes) (prepared : Bundle Bytes) :
    Except RunError (List (PyStr × JsonValue)) := do
  let body ← prepared.read "history-metadata.json"
  match ← fetch (readers.json body) (.valueError "history-metadata.json") with
  | .dict entries => pure entries
  | _ => .error (.valueError "invalid_history_metadata")

/-- The first part of `_evaluate`: the files of the preparation and their timestamps. -/
def readPrepared (readers : PriceReaders Bytes) (prepared : Bundle Bytes) (now : Timestamp) :
    Except RunError (PreparedPrices Bytes) := do
  validateMarketPreparation readers prepared
  let original ← readModel readers.marketIndex prepared "index.json"
  let task ← readModel readers.task prepared "task.json"
  let normalized ← readModel readers.normalizedPrices prepared "normalized.json"
  let provenance ← readModel readers.jpxProvenance prepared "jpx-metadata.json"
  let metadata ← readMetadata readers prepared
  let table ← prepared.read "prices.csv"
  require (original.normalizedEvidence.dataVersion = readers.sha256 table)
    (.valueError "normalized_source_version_mismatch")
  let retrieved ← metadataTimestamp readers metadata "retrieved_at"
  let preparedAt ← timestamp readers.toReaders original.preparedAt
  let provenanceAt ← timestamp readers.toReaders provenance.retrievedAt
  require (max (max retrieved.instant preparedAt.instant) provenanceAt.instant ≤ now.instant)
    (.valueError "future_preparation_timestamp")
  pure { original, task, normalized, metadata, table, retrieved, preparedAt, provenanceAt }

/-- The period has to be over: before today, or by the last completed day. -/
def checkFinished (today last stop : Date) (completedThrough : Option Date) :
    Except RunError Unit :=
  match completedThrough with
  | none => require (stop.isoformat ≤ today.isoformat)
      (.valueError "price_period_includes_unfinished_day")
  | some completed => require (last ≤ completed) (.valueError "price_period_includes_unfinished_day")

/-- The snapshot was taken by the day of its retrieval, and the prices were retrieved by
the time of their preparation. -/
def checkChronology (readers : PriceReaders Bytes) (input : PreparedPrices Bytes) :
    Except RunError Unit := do
  let listed ← tokyoDay readers.tokyo input.provenanceAt
  require (input.original.jpxVerification.snapshotOn ≤ listed.isoformat ∧
    input.retrieved.instant ≤ input.preparedAt.instant)
    (.valueError "inconsistent_source_chronology")

/-- The verification maps to the symbol; a `ValueError` is caught. -/
def hasSymbol (verification : JpxSecurityVerification) (start stop : Date) (symbol : String) :
    Bool :=
  match mapToDaily verification start stop with
  | .ok intent => intent.symbol = symbol
  | .error _ => false

/-- `identity` -/
def identityOf (input : PreparedPrices Bytes) (start stop : Date) : Bool :=
  let symbol := input.task.securityCode ++ ".T"
  hasSymbol input.original.jpxVerification start stop symbol &&
    metadataIs input.metadata "symbol" symbol &&
    metadataIs input.metadata "response_symbol" symbol &&
    metadataIs input.metadata "instrument_type" "EQUITY"

/-- The calendar, bound to its metadata. -/
def readBoundCalendar (readers : PriceReaders Bytes) (files : Bundle Bytes) (now : Timestamp) :
    Except RunError TradingDates := do
  let metadata ← readModel readers.calendarMetadata files "calendar-metadata.json"
  let body ← files.read "calendar.json"
  require (metadata.calendarSha256 = readers.sha256 body) (.valueError "invalid_calendar_provenance")
  let note ← files.read "research-note.md"
  require (metadata.researchNoteSha256 = readers.sha256 note)
    (.valueError "invalid_calendar_provenance")
  let checked ← timestamp readers.toReaders metadata.checkedAt
  require (checked.instant ≤ now.instant) (.valueError "invalid_calendar_provenance")
  readCalendar readers.toReaders body

/-- `_approval_valid`, of a retained approval and the Tokyo day of an acquisition. -/
def approvalOf (readers : PriceReaders Bytes) (files : Bundle Bytes) (source : String)
    (version : Nat) (today : Date) (acquired : Timestamp) : Except RunError Bool := do
  let body ← files.read ("approvals/" ++ source ++ ".yaml")
  let acquiredDay ← tokyoDay readers.tokyo acquired
  let approval ← fetch (readers.sourceApproval body) (.validationError source)
  pure (approvalValid approval source version today.isoformat acquiredDay.isoformat)

/-- The conflict that was supplied, as a reason. -/
def conflictReason (readers : PriceReaders Bytes) (files : Bundle Bytes) (task : AnalysisTask)
    (today : Date) : Except RunError (List String) := do
  match files.get? "known-conflict.json" with
  | none => pure []
  | some body =>
    let conflict ← fetch (readers.knownConflict body) (.validationError "known-conflict.json")
    let checkedOn ← parseDate conflict.checkedOn
    require (checkedOn.isoformat = conflict.checkedOn ∧ conflict.checkedOn ≤ today.isoformat ∧
      conflict.securityCode = task.securityCode) (.valueError "invalid_conflict_provenance")
    let evidence ← files.read "conflict-evidence.bin"
    require (conflict.evidenceSha256 = readers.sha256 evidence)
      (.valueError "invalid_conflict_provenance")
    pure ["known_conflict:" ++ conflict.category]

/-- `reevaluated` -/
def reevaluated : List String :=
  ["trading_dates_unconfirmed", "jpx_snapshot_freshness_unconfirmed", "missing_trading_day",
    "unexpected_trading_day", "trading_calendar_insufficient_period",
    "less_than_three_year_request", "empty_prices", "non_daily_timestamp", "currency_unknown",
    "currency_conflict", "provider_identity_unconfirmed", "provider_identity_conflict",
    "missing_value", "invalid_number", "nonfinite_value", "invalid_sign", "fractional_volume",
    "ohlc_conflict"]

/-- The issues of the preparation that no condition checks again. -/
def unrecognizedIssues (issues : List PriceQualityIssue) : List String :=
  (issues.filter fun issue => issue.code ∉ reevaluated).map
    fun issue => "unrecognized_original_issue:" ++ issue.code

/-- The sessions of the calendar inside the requested period, as texts compare. -/
def expectedDays (calendar : TradingDates) (period : ApplicablePeriod) : List String :=
  calendar.dates.filter fun day => period.startDate ≤ day ∧ day ≤ period.endDate

/-- `currency_valid` -/
def currencyValidOf (input : PreparedPrices Bytes) : Bool :=
  metadataIs input.metadata "currency" "JPY" ∧ input.normalized.currency = some "JPY" ∧
    metadataIs input.metadata "exchange_timezone" "Asia/Tokyo" ∧
    input.normalized.sourceTimezone = some "Asia/Tokyo"

/-- `start <= three_year_start(end)`, evaluated for a table with rows only. -/
def reachesBack (records : List PriceRecord) (start stop : Date) : Except RunError Bool :=
  if records.isEmpty then pure false
  else do
    let boundary ← threeYearStartOf stop
    pure (start ≤ boundary)

/-- The findings of an evaluation. -/
def findingsOf (input : PreparedPrices Bytes) (calendar : TradingDates)
    (records : List PriceRecord) (start stop : Date) (threeYears approvalsValid : Bool)
    (conflicts : List String) (hasConflict : Bool) (names : List String) : Findings :=
  let period := input.normalized.requestedPeriod
  let days := records.map (·.row.on)
  let expected := expectedDays calendar period
  let arguments := expectedArguments start stop
  { identity := identityOf input start stop
    sourceValid := (expectedMetadata arguments).all (fun entry =>
      jsonEqual scalarSame (metadataGet input.metadata entry.1) entry.2) ∧ approvalsValid
    currencyValid := currencyValidOf input
    argumentsValid := jsonEqual scalarEq (metadataGet input.metadata "arguments") arguments
    threeYears
    covers := calendar.period.startDate ≤ period.startDate ∧
      period.endDate ≤ calendar.period.endDate
    dateValid := days ≠ [] ∧ days = sortedSet days ∧ records.all (·.daily) ∧
      days.all fun day => period.startDate ≤ day ∧ day ≤ period.endDate
    days
    missing := expected.filter (· ∉ days)
    unexpected := sortedSet (days.filter (· ∉ expected))
    numericIssues := records.flatMap (·.issues)
    conflictReasons := conflicts ++
      unrecognizedIssues (input.original.issues ++ input.normalized.issues)
    conflictEvidence := if hasConflict then ["known-conflict.json", "conflict-evidence.bin"]
      else ["preparation/index.json"]
    names }

/-- `PriceAcceptanceIndex` -/
structure PriceAcceptanceIndex where
  checkedAt : String
  taskId : String
  evaluationPolicyVersion : Nat
  status : AcceptanceStatus
  periodStart : String
  periodEnd : String
  observedCount : Nat
  missingDates : List String
  unexpectedDates : List String
  conditions : List AcceptanceCondition
  limitations : List String
  restrictedUses : List String
  originalIssues : List PriceQualityIssue
  files : List FileReference
deriving DecidableEq

/-- `_evaluate` -/
def evaluateAcceptance (readers : PriceReaders Bytes) (files : Bundle Bytes) (checkedAt : String)
    (completedThrough : Option Date) : Except RunError PriceAcceptanceIndex := do
  let now ← timestamp readers.toReaders checkedAt
  let today ← tokyoDay readers.tokyo now
  let input ← readPrepared readers (files.subset "preparation/") now
  let period := input.normalized.requestedPeriod
  let stop ← fetch (period.last.add? 1) .overflowError
  checkFinished today period.last stop completedThrough
  checkChronology readers input
  let records ← csvQuality readers input.table input.normalized
  let calendar ← readBoundCalendar readers files now
  let jpxValid ← approvalOf readers files "jpx" 1 today input.provenanceAt
  let yfinanceValid ← approvalOf readers files "yfinance" 3 today input.retrieved
  let conflicts ← conflictReason readers files input.task today
  let threeYears ← reachesBack records period.first stop
  let found := findingsOf input calendar records period.first stop threeYears
    (jpxValid && yfinanceValid) conflicts (files.get? "known-conflict.json").isSome files.names
  let conditions := acceptanceConditions found
  let references ← (sortedSet files.names).mapM fun name => do
    let body ← files.read name
    fileReference name "application/octet-stream" (readers.sha256 body)
  let status ← acceptanceStatus conditions limitations
  pure {
    checkedAt
    taskId := input.task.taskId
    evaluationPolicyVersion := input.task.evaluationPolicyVersion
    status
    periodStart := period.startDate
    periodEnd := period.endDate
    observedCount := found.days.length
    missingDates := found.missing
    unexpectedDates := found.unexpected
    conditions
    limitations
    restrictedUses
    originalIssues := input.original.issues
    files := references }

/-- The files an acceptance takes besides the preparation. -/
def acceptanceInputs : List String :=
  ["calendar.json", "calendar-metadata.json", "research-note.md", "approvals/jpx.yaml",
    "approvals/yfinance.yaml"]

/-- The bundle without its index. -/
def Bundle.withoutIndex (files : Bundle Bytes) : Bundle Bytes :=
  files.deleteWhere fun name _ => name = "index.json"

/-- `validate_price_acceptance`, with the parser of the receipt. -/
def validatePriceAcceptance (readers : PriceReaders Bytes)
    (acceptanceIndex : Bytes → Option PriceAcceptanceIndex) (files : Bundle Bytes) :
    Except RunError Unit := do
  let index ← readModel acceptanceIndex files "index.json"
  let inputs := files.withoutIndex
  let support := inputs.names.filter fun name => (below "preparation/" name).isNone
  require (sameSet support acceptanceInputs ∨
    sameSet support (acceptanceInputs ++ ["known-conflict.json", "conflict-evidence.bin"]))
    (.valueError "invalid_acceptance_input_set")
  let expected ← evaluateAcceptance readers inputs index.checkedAt none
  require (index = expected) (.valueError "price_acceptance_receipt_mismatch")

end StockResearch.Preparation
