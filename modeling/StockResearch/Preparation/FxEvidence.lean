import StockResearch.Lib.Decimal
import StockResearch.Lib.Related
import StockResearch.Preparation.PriceAcceptance

/-!
# FX evidence

The bundle an acquisition of exchange rates leaves: one raw file for each year, the
metadata with a receipt for each, the normalized candles, and an index. The candles are
parsed again from the raw bytes, with a library of the source (the bridge) as a second
opinion; both are parameters (`FxReaders`), as far as they read bytes.

- `parseDaily`: the candles of a year.
- `normalizedSeries`, `fxIndexOf`, `validateDukascopyFx`: the code.
- `fxSeries_positive`: every rate of a validated bundle is positive.
-/

namespace StockResearch.Preparation

variable {Bytes : Type}

/-! ## The models -/

/-- `YearReceipt`, with what is read of its raw reference. -/
structure YearReceipt where
  year : Int
  url : String
  receivedAt : String
  rawSchemaId : String
  rawSchemaVersion : Nat
  byteCount : Nat
  contentSha256 : String

/-- `FxMetadataV2` -/
structure FxMetadata where
  periodStart : String
  periodEnd : String
  requestedAt : String
  receipts : List YearReceipt

/-- `DailyRow` -/
structure DailyRow where
  on : String
  timestamp : Int
  intervalEnd : String
  close : ℚ
  confirmed : Bool
deriving DecidableEq

/-- `FxIndexV2`, its two dictionaries as entries. -/
structure FxIndex where
  files : List (String × String)
  excludedDates : List (String × String)

/-- The JSON object of a year: the entries of `closes` that are no integers are none. -/
structure RawCandles where
  timestamp : Int
  multiplier : PyDecimal
  close : PyDecimal
  times : List Int
  closes : List (Option Int)

/-- A candle of the bridge. -/
structure NodeRow where
  timestamp : Int
  close : PyDecimal

/-- The libraries: those of the price acceptance, the length of a file, the parsers of the
models, `json.loads` of a year, and the two commands of the bridge. -/
structure FxReaders (Bytes : Type) extends PriceReaders Bytes where
  size : Bytes → Nat
  fxMetadata : Bytes → Option FxMetadata
  fxSeries : Bytes → Option (List DailyRow)
  fxIndex : Bytes → Option FxIndex
  candles : Bytes → Option RawCandles
  bridgeUrls : String → String → String → Option (List String)
  bridgeDecode : String → Bytes → Option (List NodeRow)

/-! ## Dictionaries -/

/-- The entries of a dictionary that was filled in order: a key stands where it was first
set, with the value it was last set to. -/
def dictOf (entries : List (String × String)) : List (String × String) :=
  (entries.map Prod.fst).eraseDups.filterMap fun key =>
    entries.reverse.find? fun entry => entry.1 = key

/-- `a == b`, for dictionaries. -/
def sameEntries (a b : List (String × String)) : Bool := a ⊆ b ∧ b ⊆ a

/-! ## URLs -/

/-- `BASE` -/
def dukascopyBase : String := "https://jetta.dukascopy.com/v1/candles/day/USD-JPY/BID"

/-- The milliseconds from 1970 to the beginning of a year. -/
def yearMillis (year : Nat) : Nat :=
  (daysBeforeYear year - daysBeforeYear 1970) * 86400000

/-- `year_url` -/
def yearUrl (year : Nat) (now : DateTime) (utcoffset : Option Int) : Except RunError String := do
  require (2000 ≤ year ∧ year ≤ (Date.ofDateTime now).year ∧ utcoffset.isSome)
    (.valueError "invalid_dukascopy_year")
  pure (dukascopyBase ++
    if year < (Date.ofDateTime now).year then "/" ++ toString year
    else "?from=" ++ toString (yearMillis year))

/-- `range(start.year, end.year + 1)` -/
def yearsOf (start stop : Date) : List Nat := List.range' start.year (stop.year + 1 - start.year)

/-- `urls` -/
def urlsOf (readers : FxReaders Bytes) (start stop : Date) (now : DateTime)
    (utcoffset : Option Int) (requestedAt : String) : Except RunError (List String) := do
  require (start ≤ stop ∧ stop < Date.ofDateTime now)
    (.valueError "fx_period_requires_completed_utc_days")
  let expected ← (yearsOf start stop).mapM fun year => yearUrl year now utcoffset
  let exclusive ← fetch (stop.add? 1) .overflowError
  let result ← fetch (readers.bridgeUrls start.isoformat exclusive.isoformat requestedAt)
    (.valueError "dukascopy_bridge_failed")
  require (result = expected) (.valueError "dukascopy_url_mismatch")
  pure expected

/-! ## Candles -/

/-- `Context(prec=28)` -/
def context28 : DecimalContext := ⟨28, -999999, 999999⟩

/-- A result in the context; an overflow is trapped. -/
def rounded28 (value : ℚ) : Except RunError ℚ := fetch (context28.round value) .arithmeticError

/-- `close / multiplier`, in the context. -/
def divideDecimal : PyDecimal → PyDecimal → Except RunError PyDecimal
  | .nan, _ => pure .nan
  | _, .nan => pure .nan
  | .infinite, .infinite => .error .arithmeticError
  | .infinite, .finite _ => pure .infinite
  | .finite _, .infinite => pure (.finite 0)
  | .finite a, .finite b =>
    if b = 0 then .error .arithmeticError else (rounded28 (a / b)).map .finite

/-- `units == units.to_integral_value()` -/
def isWhole : PyDecimal → Bool
  | .finite value => value.isInt
  | .infinite => true
  | .nan => false

/-- `datetime.fromtimestamp(timestamp / 1000, UTC)` -/
def ofMillis (timestamp : Int) : Option DateTime :=
  Tokyo.reading? (daysBeforeYear 1970 * dayMicros + timestamp * 1000)

/-- The loop of `parse_daily`: the candles from a timestamp and a close in units on. -/
def candleRows (year : Int) (received : Timestamp) (multiplier : ℚ) :
    Int → ℚ → List Int → List (Option Int) → List NodeRow → Except RunError (List DailyRow)
  | _, _, [], _, _ => pure []
  | timestamp, units, delta :: times, closes, decoded => do
    let timestamp := timestamp + delta * 86400000
    let value ← fetch closes.head? .indexError
    let value ← fetch value (.valueError "fx_close_delta_invalid")
    let units ← rounded28 (units + value)
    let close ← rounded28 (units * multiplier)
    let observed ← fetch (ofMillis timestamp) .overflowError
    let node ← fetch decoded.head? .indexError
    require ((Date.ofDateTime observed).year = year ∧ node.timestamp = timestamp ∧
      node.close = .finite close ∧ 0 < close) (.valueError "fx_daily_candle_invalid")
    let intervalEnd ← fetch (observed.add? dayMicros) .overflowError
    let rest ← candleRows year received multiplier timestamp units times closes.tail decoded.tail
    pure ({
      on := (Date.ofDateTime observed).isoformat
      timestamp
      intervalEnd := isoformat intervalEnd
      close
      confirmed := (intervalEnd.micros : Int) ≤ received.instant } :: rest)

/-- The candles of units that are finite, with a finite multiplier; otherwise the first one
raises. -/
def unitRows (year : Int) (received : Timestamp) (raw : RawCandles) (decoded : List NodeRow)
    (units : PyDecimal) : Except RunError (List DailyRow) :=
  match units, raw.multiplier with
  | .finite units, .finite multiplier =>
    candleRows year received multiplier raw.timestamp units raw.times raw.closes decoded
  | _, _ => if raw.times = [] then pure [] else .error (.valueError "fx_daily_candle_invalid")

/-- `parse_daily` -/
def parseDaily (readers : FxReaders Bytes) (body : Bytes) (url : String) (year : Int)
    (received : Timestamp) : Except RunError (List DailyRow) := do
  let decoded ← fetch (readers.bridgeDecode url body) (.valueError "dukascopy_bridge_failed")
  let raw ← fetch (readers.candles body) (.keyError "candles")
  let units ← divideDecimal raw.close raw.multiplier
  require (isWhole units) (.valueError "fx_base_precision_invalid")
  unitRows year received raw decoded units

/-! ## The bundle -/

/-- The days on which a response may have been received. -/
def fxReceivedFrom : Date := ⟨739884, by decide⟩
def fxReceivedUntil : Date := ⟨739975, by decide⟩

example : fxReceivedFrom.isoformat = "2026-09-26" ∧ fxReceivedUntil.isoformat = "2026-12-26" := by
  decide +kernel

/-- The body of the loop of `normalized`: the candles of a receipt. -/
def receiptRows (readers : FxReaders Bytes) (files : Bundle Bytes) (now : Timestamp)
    (expected : List (Nat × String)) (receipt : YearReceipt) : Except RunError (List DailyRow) := do
  let invalid : RunError := .valueError "fx_receipt_invalid"
  let (wall, utcoffset) ← fetch (readers.fromisoformat receipt.receivedAt)
    (.valueError "Invalid isoformat string")
  let utcoffset ← fetch utcoffset invalid
  let received : Timestamp := ⟨wall, utcoffset⟩
  require (now.instant ≤ received.instant ∧
    (expected.find? fun entry => (entry.1 : Int) = receipt.year).map (·.2) = some receipt.url ∧
    fxReceivedFrom ≤ Date.ofDateTime wall ∧ Date.ofDateTime wall < fxReceivedUntil) invalid
  let body ← files.read ("raw/" ++ toString receipt.year ++ ".bin")
  require (receipt.rawSchemaId = "dukascopy-fx-daily-raw" ∧ receipt.rawSchemaVersion = 1 ∧
    receipt.byteCount = readers.size body ∧ receipt.contentSha256 = readers.sha256 body)
    (.valueError "fx_raw_reference_mismatch")
  parseDaily readers body receipt.url receipt.year received

/-- `normalized` -/
def normalizedSeries (readers : FxReaders Bytes) (files : Bundle Bytes) (metadata : FxMetadata) :
    Except RunError (List DailyRow) := do
  let (wall, utcoffset) ← fetch (readers.fromisoformat metadata.requestedAt)
    (.valueError "Invalid isoformat string")
  let start ← parseDate metadata.periodStart
  let stop ← parseDate metadata.periodEnd
  let urls ← urlsOf readers start stop wall utcoffset metadata.requestedAt
  let expected := (yearsOf start stop).zip urls
  let years := metadata.receipts.map (·.year)
  require (metadata.receipts.length = expected.length ∧
    years ⊆ expected.map (fun entry => (entry.1 : Int)) ∧
    expected.map (fun entry => (entry.1 : Int)) ⊆ years) (.valueError "fx_year_inventory_mismatch")
  -- `urls` has raised for a naive time
  let now : Timestamp := ⟨wall, utcoffset.getD 0⟩
  let rows ← (metadata.receipts.insertionSort fun a b => a.year ≤ b.year).mapM
    (receiptRows readers files now expected)
  pure rows.flatten

/-- `APPROVAL_SHA256`, `PROFILE_SHA256` -/
def fxApprovalSha256 : String := "f276cbcda92a35b3491d4e9196a1a1da06abba7465e8628c7d75f55cdb9534a5"
def fxProfileSha256 : String := "ba92b804e94a32c33fbbbfb15db5ce4ab4e8cf315856ca34f6bdda011d6b526d"

/-- `_index` -/
def fxIndexOf (readers : FxReaders Bytes) (files : Bundle Bytes) : Except RunError FxIndex := do
  let metadata ← readModel readers.fxMetadata files "metadata.json"
  let approval ← files.read "approval.yaml"
  require (readers.sha256 approval = fxApprovalSha256) (.valueError "fx_configuration_mismatch")
  let profile ← files.read "profile.yaml"
  require (readers.sha256 profile = fxProfileSha256) (.valueError "fx_configuration_mismatch")
  let series ← normalizedSeries readers files metadata
  let stored ← readModel readers.fxSeries files "normalized.json"
  require (stored = series) (.valueError "fx_normalization_mismatch")
  let expected := ["metadata.json", "normalized.json", "approval.yaml", "profile.yaml"] ++
    metadata.receipts.map fun receipt => "raw/" ++ toString receipt.year ++ ".bin"
  require (sameSet (files.names.filter (· ≠ "index.json")) expected)
    (.valueError "fx_inventory_mismatch")
  let digests ← (sortedSet expected).mapM fun name => do
    let body ← files.read name
    pure (name, readers.sha256 body)
  let excluded := (series.filter fun row => ¬ row.confirmed ∨
      ¬ (metadata.periodStart ≤ row.on ∧ row.on ≤ metadata.periodEnd)).map fun row =>
    (row.on, if row.confirmed then "outside_fixed_period" else "unfinished_candle")
  pure ⟨digests, dictOf excluded⟩

/-- `validate_dukascopy_fx` -/
def validateDukascopyFx (readers : FxReaders Bytes) (files : Bundle Bytes) : Except RunError Unit := do
  let index ← readModel readers.fxIndex files "index.json"
  let expected ← fxIndexOf readers files
  require (sameEntries index.files expected.files ∧
    sameEntries index.excludedDates expected.excludedDates) (.valueError "fx_index_mismatch")

/-! ## The rates -/

/-- Every candle that was read has a positive close. -/
theorem candleRows_positive {year : Int} {received : Timestamp} {multiplier : ℚ} :
    ∀ {times : List Int} {timestamp : Int} {units : ℚ} {closes : List (Option Int)}
      {decoded : List NodeRow} {rows : List DailyRow},
      candleRows year received multiplier timestamp units times closes decoded = .ok rows →
        ∀ row ∈ rows, 0 < row.close := by
  intro times
  induction times with
  | nil =>
    intro timestamp units closes decoded rows h row hrow
    rw [candleRows, pure_eq_ok] at h
    rw [← h] at hrow
    cases hrow
  | cons delta times ih =>
    intro timestamp units closes decoded rows h row hrow
    obtain ⟨value, -, h⟩ := bind_eq_ok.mp h
    obtain ⟨delta, -, h⟩ := bind_eq_ok.mp h
    obtain ⟨units, -, h⟩ := bind_eq_ok.mp h
    obtain ⟨close, -, h⟩ := bind_eq_ok.mp h
    obtain ⟨observed, -, h⟩ := bind_eq_ok.mp h
    obtain ⟨node, -, h⟩ := bind_eq_ok.mp h
    obtain ⟨⟨⟩, hcandle, h⟩ := bind_eq_ok.mp h
    obtain ⟨intervalEnd, -, h⟩ := bind_eq_ok.mp h
    obtain ⟨rest, hrest, h⟩ := bind_eq_ok.mp h
    obtain ⟨-, -, -, hpos⟩ := require_eq_ok.mp hcandle
    rw [← pure_eq_ok.mp h, List.mem_cons] at hrow
    rcases hrow with rfl | hrow
    · exact hpos
    · exact ih hrest row hrow

theorem parseDaily_positive {readers : FxReaders Bytes} {body : Bytes} {url : String} {year : Int}
    {received : Timestamp} {rows : List DailyRow}
    (h : parseDaily readers body url year received = .ok rows) : ∀ row ∈ rows, 0 < row.close := by
  obtain ⟨decoded, -, h⟩ := bind_eq_ok.mp h
  obtain ⟨raw, -, h⟩ := bind_eq_ok.mp h
  obtain ⟨units, -, h⟩ := bind_eq_ok.mp h
  obtain ⟨⟨⟩, -, h⟩ := bind_eq_ok.mp h
  unfold unitRows at h
  split at h
  · exact candleRows_positive h
  · split at h
    · rw [← pure_eq_ok.mp h]
      intro row hrow
      cases hrow
    · cases h

/-- Every rate of a validated bundle is positive. -/
theorem fxSeries_positive {readers : FxReaders Bytes} {files : Bundle Bytes}
    (h : validateDukascopyFx readers files = .ok ()) {rows : List DailyRow}
    (hrows : readModel readers.fxSeries files "normalized.json" = .ok rows) :
    ∀ row ∈ rows, 0 < row.close := by
  obtain ⟨index, -, h⟩ := bind_eq_ok.mp h
  obtain ⟨expected, hindex, -⟩ := bind_eq_ok.mp h
  -- the stored series is the one that is parsed again
  obtain ⟨metadata, -, h⟩ := bind_eq_ok.mp hindex
  obtain ⟨approval, -, h⟩ := bind_eq_ok.mp h
  obtain ⟨⟨⟩, -, h⟩ := bind_eq_ok.mp h
  obtain ⟨profile, -, h⟩ := bind_eq_ok.mp h
  obtain ⟨⟨⟩, -, h⟩ := bind_eq_ok.mp h
  obtain ⟨series, hseries, h⟩ := bind_eq_ok.mp h
  obtain ⟨stored, hstored, h⟩ := bind_eq_ok.mp h
  obtain ⟨⟨⟩, hsame, -⟩ := bind_eq_ok.mp h
  rw [hrows] at hstored
  cases hstored
  rw [require_eq_ok.mp hsame]
  -- its rows are those of the receipts
  obtain ⟨read, -, h⟩ := bind_eq_ok.mp hseries
  obtain ⟨start, -, h⟩ := bind_eq_ok.mp h
  obtain ⟨stop, -, h⟩ := bind_eq_ok.mp h
  obtain ⟨urls, -, h⟩ := bind_eq_ok.mp h
  obtain ⟨⟨⟩, -, h⟩ := bind_eq_ok.mp h
  obtain ⟨years, hyears, h⟩ := bind_eq_ok.mp h
  rw [← pure_eq_ok.mp h]
  intro row hrow
  obtain ⟨yearRows, hyear, hrow⟩ := List.mem_flatten.mp hrow
  obtain ⟨receipt, -, hreceipt⟩ := exists_left_of_mem (mapM_eq_ok.mp hyears) hyear
  obtain ⟨received, -, h⟩ := bind_eq_ok.mp hreceipt
  obtain ⟨utcoffset, -, h⟩ := bind_eq_ok.mp h
  obtain ⟨⟨⟩, -, h⟩ := bind_eq_ok.mp h
  obtain ⟨body, -, h⟩ := bind_eq_ok.mp h
  obtain ⟨⟨⟩, -, h⟩ := bind_eq_ok.mp h
  exact parseDaily_positive h row hrow

end StockResearch.Preparation
