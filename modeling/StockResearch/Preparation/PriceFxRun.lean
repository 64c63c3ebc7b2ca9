import StockResearch.Preparation.FxEvidence

/-!
# Price and FX runs

One run's slice of prices and exchange rates, evaluated offline from retained files: the days
the run needs, the prices and the rates it has for them, and the conversion of each day. Each
layer is ready or pending on its own reasons.

- `sourceReasons`: `_source_reasons`, whether the reuse of a source is approved.
- `priceInputs`: `_price_inputs`, the input of the price acceptance.
- `readRun`: the first part of `_evaluate_run`, with every check that can end it.
- `priceDay`, `fxDay`, `conversionRow`: the bodies of its three loops.
- `evaluateRun`, `validatePriceFxRun`: the evaluation, and its replay.
-/

namespace StockResearch.Preparation

open Contracts

variable {Bytes : Type}

/-! ## The models -/

/-- `RunControl`, its locations as entries -/
structure RunControl where
  checkedAt : String
  publicationGeneration : Identifier
  inputLocations : List (String × String)

/-- `DetailedAnalysisPolicyV1`, as far as a run reads it -/
structure EvaluationPolicy where
  policyVersion : Nat
  effectiveAt : String

/-- The status of a run and of its layers. -/
inductive RunStatus where
  | readyWithLimitations
  | pending
deriving DecidableEq

/-- `RunLayerResult` -/
structure RunLayerResult where
  status : RunStatus
  reasons : List String
  missingDates : List String
  availableEnd : Option String
deriving DecidableEq

/-- `RunConversionRow` -/
structure RunConversionRow where
  on : String
  closeJpy : Option ℚ
  usdJpy : Option ℚ
  closeUsd : Option ℚ
  reasons : List String
deriving DecidableEq

/-- `PreparationEvidenceReference.layer` -/
inductive EvidenceLayer where
  | sourceMetadata
  | raw
  | normalized
  | calculated
deriving DecidableEq

/-- `PreparationEvidenceReference` -/
structure PreparationEvidenceReference where
  evidenceId : String
  layer : EvidenceLayer
  paths : List String
  inputEvidenceIds : List String
  publicationGeneration : Identifier
deriving DecidableEq

/-- `PriceFxPreparationManifest`, its dictionaries as entries -/
structure PriceFxPreparationManifest where
  taskId : String
  checkedAt : String
  publicationGeneration : Identifier
  requirements : RunRequirements
  status : RunStatus
  price : RunLayerResult
  fx : RunLayerResult
  conversion : RunLayerResult
  reusedFromTaskId : Option String
  reuseRevalidated : Bool
  inputLocations : List (String × String)
  records : List PreparationEvidenceReference
  files : List (String × String)
  excludedPriceDates : List String
  excludedFxDates : List (String × String)
  limitations : List String
  restrictedUses : List String
  convertedCount : Nat
deriving DecidableEq

/-- The libraries: those of the FX evidence, the parsers of the models, the printer of the
rows, and the bytes of `NATIVE_REUSE_POLICY`. -/
structure RunReaders (Bytes : Type) extends FxReaders Bytes where
  runControl : Bytes → Option RunControl
  evaluationPolicy : Bytes → Option EvaluationPolicy
  sourceProfile : Bytes → Option SourceProfile
  acceptanceIndex : Bytes → Option PriceAcceptanceIndex
  manifest : Bytes → Option PriceFxPreparationManifest
  rowsText : List RunConversionRow → Bytes
  nativeReusePolicy : Bytes

/-! ## Files -/

namespace Bundle

/-- `files[name] = body` -/
def set (files : Bundle Bytes) (name : String) (body : Bytes) : Bundle Bytes :=
  files.upsert name body fun _ => body

/-- `files.update(other)` -/
def update (files other : Bundle Bytes) : Bundle Bytes :=
  other.rows.foldl (fun files row => files.set row.1 row.2) files

/-- The files under a directory. -/
def under (files : Bundle Bytes) (directory : String) : Bundle Bytes where
  rows := files.rows.map fun row => (directory ++ row.1, row.2)
  nodup := by
    have hnames : (files.rows.map fun row => (directory ++ row.1, row.2)).map Prod.fst =
        (files.rows.map Prod.fst).map (directory ++ ·) := by
      rw [List.map_map, List.map_map]
      rfl
    rw [hnames]
    refine files.nodup.map fun a b h => ?_
    have hlists : directory.toList ++ a.toList = directory.toList ++ b.toList := by
      rw [← String.toList_append, ← String.toList_append]
      exact congrArg String.toList h
    exact String.toList_inj.mp (List.append_cancel_left hlists)

end Bundle

/-! ## Sources -/

/-- `enabled`: the library of the prices has a policy of its own in place of a profile. -/
def sourceEnabled [DecidableEq Bytes] (readers : RunReaders Bytes) (files : Bundle Bytes)
    (source : String) (version : Nat) (approvalBytes : Bytes) (approval : SourceApproval) :
    Except RunError Bool :=
  if source = "yfinance" then do
    let policy ← files.read "sources/yfinance/native-policy.json"
    require (policy = readers.nativeReusePolicy) (.valueError "run_native_policy_mismatch")
    pure true
  else do
    let body ← files.read ("sources/" ++ source ++ "/profile.yaml")
    let profile ← fetch (readers.sourceProfile body) (.validationError "SourceProfileV1")
    require (profile.sourceId.val = source ∧ profile.profileVersion = version ∧
        profile.sourceApprovalReference.sha256.val = readers.sha256 approvalBytes ∧
        profile.sourceApprovalReference.artifactId = approval.artifactId)
      (.valueError "run_source_binding_mismatch")
    pure (profile.enabled ∧ profile.sourceApprovalStatus = .approved)

/-- The body of the loop of `_source_reasons`. -/
def sourceReasons [DecidableEq Bytes] (readers : RunReaders Bytes) (files : Bundle Bytes)
    (checked : Timestamp) (source : String) (version : Nat) : Except RunError (List String) := do
  let body ← files.read ("sources/" ++ source ++ "/approval.yaml")
  let approval ← fetch (readers.sourceApproval body) (.validationError "SourceApprovalV1")
  require (approval.sourceId.val = source ∧ approval.approvalVersion = version)
    (.valueError "run_source_binding_mismatch")
  let enabled ← sourceEnabled readers files source version body approval
  let day ← tokyoDay readers.tokyo checked
  pure (reasonIf (¬ sourceUsable approval enabled day.isoformat)
    (source ++ "_reuse_policy_unavailable"))

/-- What `_source_reasons` returns. -/
structure SourceReasons where
  jpx : List String
  yfinance : List String
  dukascopy : List String

/-- `_source_reasons`, of the sources of `SOURCE_VERSIONS` -/
def allSourceReasons [DecidableEq Bytes] (readers : RunReaders Bytes) (files : Bundle Bytes)
    (checked : Timestamp) : Except RunError SourceReasons := do
  let jpx ← sourceReasons readers files checked "jpx" 1
  let yfinance ← sourceReasons readers files checked "yfinance" 3
  let dukascopy ← sourceReasons readers files checked "dukascopy" 1
  pure ⟨jpx, yfinance, dukascopy⟩

/-! ## The inputs -/

/-- `_price_inputs`, from the input of the prices -/
def priceFiles (readers : RunReaders Bytes) (files original : Bundle Bytes) :
    Except RunError (Bundle Bytes) :=
  if original.get? "task.json" ≠ none then do
    validateMarketPreparation readers.toPriceReaders original
    let calendar ← files.read "requirements-input/calendar.json"
    let metadata ← files.read "requirements-input/calendar-metadata.json"
    let note ← files.read "requirements-input/research-note.md"
    let prepared := (((original.under "preparation/").set "calendar.json" calendar).set
      "calendar-metadata.json" metadata).set "research-note.md" note
    -- the approvals of the acquisition are those of its own version
    pure (prepared.update (files.subset "acquisition-approvals/"))
  else do
    validatePriceAcceptance readers.toPriceReaders readers.acceptanceIndex original
    pure original.withoutIndex

/-- `_price_inputs` -/
def priceInputs (readers : RunReaders Bytes) (files : Bundle Bytes) :
    Except RunError (Bundle Bytes × AnalysisTask) := do
  let price ← priceFiles readers files (files.subset "price-input/")
  let task ← readModel readers.task price "preparation/task.json"
  pure (price, task)

/-- `_timestamp(history["retrieved_at"])`; what is no object has no such item. -/
def retrievedAt (readers : RunReaders Bytes) (prepared : Bundle Bytes) :
    Except RunError Timestamp := do
  let body ← prepared.read "history-metadata.json"
  match ← fetch (readers.json body) (.valueError "history-metadata.json") with
  | .dict entries => metadataTimestamp readers.toPriceReaders entries "retrieved_at"
  | _ => .error .typeError

/-- `completed`: the last day whose session is over at the check. -/
def completedThrough (tokyo : Tokyo) (checked : Timestamp) : Except RunError Date := do
  let wall ← fetch (tokyo.astimezone checked) .overflowError
  if sessionClose ≤ wall.micros % dayMicros then pure (Date.ofDateTime wall)
  else fetch ((Date.ofDateTime wall).sub? 1) .overflowError

/-- The acceptance of the prices, when there is one, is not from the future. -/
def checkAcceptance (readers : RunReaders Bytes) (original : Bundle Bytes) (checked : Timestamp) :
    Except RunError Unit :=
  if original.get? "index.json" ≠ none ∧ original.get? "task.json" = none then do
    let old ← readModel readers.acceptanceIndex original "index.json"
    let validated ← timestamp readers.toReaders old.checkedAt
    require (validated.instant ≤ checked.instant) (.valueError "run_price_validation_from_future")
  else pure ()

/-- No response of the rates is from the future. -/
def checkReceipts (readers : RunReaders Bytes) (metadata : FxMetadata) (checked : Timestamp) :
    Except RunError Unit := do
  let requested ← timestamp readers.toReaders metadata.requestedAt
  require (requested.instant ≤ checked.instant) (.valueError "run_fx_from_future")
  metadata.receipts.forM fun receipt => do
    let received ← timestamp readers.toReaders receipt.receivedAt
    require (received.instant ≤ checked.instant) (.valueError "run_fx_from_future")

/-- What a run reads. -/
structure RunInput where
  task : AnalysisTask
  control : RunControl
  checked : Timestamp
  requirements : RunRequirements
  policy : SourceReasons
  sourceTask : AnalysisTask
  prices : List DailyPrice
  retrieved : Timestamp
  conditions : List AcceptanceCondition
  fxMetadata : FxMetadata
  fxRows : List DailyRow

/-- `_evaluate_run`, to the maps of its rows -/
def readRun [DecidableEq Bytes] (readers : RunReaders Bytes) (files : Bundle Bytes) :
    Except RunError RunInput := do
  let task ← readModel readers.task files "task.json"
  let control ← readModel readers.runControl files "control.json"
  let checked ← timestamp readers.toReaders control.checkedAt
  let accepted ← timestamp readers.toReaders task.taskAcceptedAt
  require (accepted.instant ≤ checked.instant) (.valueError "run_task_accepted_after_check")
  let evaluationPolicy ← readModel readers.evaluationPolicy files "evaluation-policy.yaml"
  require (evaluationPolicy.policyVersion = task.evaluationPolicyVersion)
    (.valueError "run_evaluation_policy_mismatch")
  let effective ← timestamp readers.toReaders evaluationPolicy.effectiveAt
  require (effective.instant ≤ checked.instant) (.valueError "run_evaluation_policy_mismatch")
  let requirements ← resolveRequirements readers.toReaders
    (files.subset "requirements-input/").get? control.checkedAt
  let policy ← allSourceReasons readers files checked
  let (price, sourceTask) ← priceInputs readers files
  require (sourceTask.securityCode = task.securityCode)
    (.valueError "run_price_security_mismatch")
  let sourceAccepted ← timestamp readers.toReaders sourceTask.taskAcceptedAt
  require (sourceAccepted.instant ≤ checked.instant) (.valueError "run_source_task_from_future")
  let prepared := price.subset "preparation/"
  let prices ← readModel readers.normalizedPrices prepared "normalized.json"
  let retrieved ← retrievedAt readers prepared
  let completed ← completedThrough readers.tokyo checked
  let evaluation ← evaluateAcceptance readers.toPriceReaders price control.checkedAt
    (some completed)
  checkAcceptance readers (files.subset "price-input/") checked
  let fxFiles := files.subset "fx-input/"
  validateDukascopyFx readers.toFxReaders fxFiles
  let fxMetadata ← readModel readers.fxMetadata fxFiles "metadata.json"
  checkReceipts readers fxMetadata checked
  let fxRows ← readModel readers.fxSeries fxFiles "normalized.json"
  pure {
    task
    control
    checked
    requirements
    policy
    sourceTask
    prices := prices.rows
    retrieved
    conditions := evaluation.conditions
    fxMetadata
    fxRows }

/-! ## The days -/

/-- `price_map.get(day)`, `fx_map.get(day)`: of the rows of a day the last one stands. -/
def rowOn {Row : Type} (on : Row → String) (rows : List Row) (day : String) : Option Row :=
  rows.reverse.find? fun row => on row = day

/-- The Tokyo midnight after a day. -/
def nextMidnight (readers : Readers Bytes) (day : String) : Except RunError Int := do
  let (wall, _) ← fetch (readers.fromisoformat day) (.valueError "Invalid isoformat string")
  let next ← fetch ((Date.ofDateTime wall).add? 1) .overflowError
  pure (readers.tokyo.combine next 0)

/-- `closed`: the hours of today's profile are not those of the days before it. -/
def closedAt (readers : Readers Bytes) (day : String) : Except RunError Int :=
  if profileEffectiveOn.isoformat ≤ day then sessionEnd readers.tokyo day
  else nextMidnight readers day

/-- What a run has for a required day: no price, one from before the day was over, or one. -/
inductive PriceDay where
  | missing
  | early
  | good (close : ℚ)
deriving DecidableEq

/-- The price, if it may be used. -/
def PriceDay.close? : PriceDay → Option ℚ
  | .good close => some close
  | _ => none

/-- The body of the loop over `price_dates`. -/
def priceDay (readers : Readers Bytes) (prices : List DailyPrice) (retrieved : Timestamp)
    (day : String) : Except RunError PriceDay :=
  match (rowOn (·.on) prices day).bind (·.close) with
  | some close =>
    if close ≤ 0 then pure .missing
    else do
      let closed ← closedAt readers day
      pure (if retrieved.instant < closed then .early else .good close)
  | none => pure .missing

/-- A day is inside the period of the rates, as texts compare. -/
def FxMetadata.contains (metadata : FxMetadata) (day : String) : Prop :=
  metadata.periodStart ≤ day ∧ day ≤ metadata.periodEnd

instance (metadata : FxMetadata) (day : String) : Decidable (metadata.contains day) :=
  inferInstanceAs (Decidable (_ ∧ _))

/-- The rate of a candle that is confirmed and over. -/
def candleRate (readers : Readers Bytes) (metadata : FxMetadata) (checked : Timestamp)
    (day : String) (row : DailyRow) : Except RunError (Option ℚ) :=
  if row.confirmed then do
    let stop ← timestamp readers row.intervalEnd
    pure (if stop.instant ≤ checked.instant ∧ metadata.contains day then some row.close else none)
  else pure none

/-- The body of the loop over `fx_dates`. -/
def fxDay (readers : Readers Bytes) (metadata : FxMetadata) (rows : List DailyRow)
    (checked : Timestamp) (day : String) : Except RunError (Option ℚ) :=
  match rowOn (·.on) rows day with
  | some row => candleRate readers metadata checked day row
  | none => pure none

/-- The day of a row of prices that could be used, when the calendar gives none. -/
def availablePrice (readers : Readers Bytes) (retrieved : Timestamp) (row : DailyPrice) :
    Except RunError (Option String) :=
  match row.close with
  | some close =>
    if 0 < close then do
      let midnight ← nextMidnight readers row.on
      pure (if midnight ≤ retrieved.instant then some row.on else none)
    else pure none
  | none => pure none

/-- The day of a candle that could be used, when the calendar gives none. -/
def availableFx (readers : Readers Bytes) (metadata : FxMetadata) (checked : Timestamp)
    (row : DailyRow) : Except RunError (Option String) := do
  let rate ← candleRate readers metadata checked row.on row
  pure (rate.map fun _ => row.on)

/-- `_layer` -/
def layer (reasons missing available : List String) : RunLayerResult where
  status := if reasons ≠ [] ∨ missing ≠ [] then .pending else .readyWithLimitations
  reasons := sortedSet reasons
  missingDates := missing
  availableEnd := available.max?

/-! ## The conversion -/

/-- `price / fx`, in the context of the run -/
def dividePrice (price fx : ℚ) : Except RunError ℚ := do
  require (fx ≠ 0) .arithmeticError
  rounded28 (price / fx)

/-- The reasons not to convert a day. -/
def conversionReasons (requirements : RunRequirements) (policy : SourceReasons)
    (priceReasons : List String) (price fx : Option ℚ) (day : String) : List String :=
  reasonIf (price = none) "price_missing_or_unconfirmed" ++
    reasonIf (day ∉ requirements.fxDates) "fx_interval_unfinished" ++
    reasonIf (day ∈ requirements.fxDates ∧ fx = none) "fx_missing_or_unconfirmed" ++
    reasonIf (priceReasons ≠ []) "price_not_accepted" ++
    reasonIf (policy.dukascopy ≠ []) "fx_reuse_not_approved"

/-- `converted` -/
def convertedOf (reasons : List String) (price fx : Option ℚ) : Except RunError (Option ℚ) :=
  match price, fx with
  | some price, some fx =>
    if reasons = [] then (dividePrice price fx).map some else pure none
  | _, _ => pure none

/-- The body of the loop that converts. -/
def conversionRow (requirements : RunRequirements) (policy : SourceReasons)
    (priceReasons : List String) (price fx : Option ℚ) (day : String) :
    Except RunError RunConversionRow := do
  let reasons := conversionReasons requirements policy priceReasons price fx day
  let converted ← convertedOf reasons price fx
  pure { on := day, closeJpy := price, usdJpy := fx, closeUsd := converted, reasons }

/-! ## The evaluation -/

/-- What the loops find. -/
structure RunLayers where
  priceReasons : List String
  fxReasons : List String
  missingPrice : List String
  missingFx : List String
  availablePrices : List String
  availableFx : List String
  rows : List RunConversionRow

/-- The values found for some days, as a dictionary. -/
def foundOn {α β : Type} (value : α → Option β) (days : List String) (found : List α)
    (day : String) : Option β :=
  ((days.zip found).find? fun entry => entry.1 = day).bind fun entry => value entry.2

/-- The days for which nothing was found. -/
def missingOf {α β : Type} (value : α → Option β) (days : List String) (found : List α) :
    List String :=
  ((days.zip found).filter fun entry => value entry.2 = none).map Prod.fst

/-- The days for which something was found. -/
def foundDays {α β : Type} (value : α → Option β) (days : List String) (found : List α) :
    List String :=
  ((days.zip found).filter fun entry => value entry.2 ≠ none).map Prod.fst

/-- `price_reasons` -/
def priceReasonsOf (input : RunInput) (found : List PriceDay) : List String :=
  input.requirements.reasons ++ input.policy.jpx ++ input.policy.yfinance ++
    (input.conditions.filter (¬ ·.passed)).flatMap (·.reasons) ++
    (found.filter (· = .early)).map fun _ => "price_retrieved_before_session_completion"

/-- `fx_reasons` -/
def fxReasonsOf (input : RunInput) : List String :=
  input.requirements.reasons ++ input.policy.dukascopy ++
    reasonIf (input.requirements.fxDates = []) "no_required_confirmed_fx_date"

/-- What is available of some rows, when the calendar resolves no day. -/
def availableOf {Row : Type} (input : RunInput) (rows : List Row) (found : List String)
    (day : Row → Except RunError (Option String)) : Except RunError (List String) :=
  if input.requirements.status = .pending then do
    let days ← rows.mapM day
    pure (days.filterMap id)
  else pure found

/-- The loops of `_evaluate_run`. -/
def evaluateLayers (readers : Readers Bytes) (input : RunInput) : Except RunError RunLayers := do
  let days := input.requirements.priceDates
  let fxDates := input.requirements.fxDates
  let prices ← days.mapM (priceDay readers input.prices input.retrieved)
  let rates ← fxDates.mapM (fxDay readers input.fxMetadata input.fxRows input.checked)
  let availablePrices ← availableOf input input.prices (foundDays PriceDay.close? days prices)
    (availablePrice readers input.retrieved)
  let availableFx ← availableOf input input.fxRows (foundDays id fxDates rates)
    (availableFx readers input.fxMetadata input.checked)
  let priceReasons := priceReasonsOf input prices
  let rows ← days.mapM fun day =>
    conversionRow input.requirements input.policy priceReasons
      (foundOn PriceDay.close? days prices day) (foundOn id fxDates rates day) day
  pure {
    priceReasons
    fxReasons := fxReasonsOf input
    missingPrice := missingOf PriceDay.close? days prices
    missingFx := missingOf id fxDates rates
    availablePrices
    availableFx
    rows }

/-- `converted_days` -/
def RunLayers.convertedDays (layers : RunLayers) : List String :=
  (layers.rows.filter fun row => row.closeUsd ≠ none).map (·.on)

/-- `price_layer` -/
def RunLayers.price (layers : RunLayers) : RunLayerResult :=
  layer layers.priceReasons layers.missingPrice layers.availablePrices

/-- `fx_layer` -/
def RunLayers.fx (layers : RunLayers) : RunLayerResult :=
  layer layers.fxReasons layers.missingFx layers.availableFx

/-- `conversion_layer` -/
def RunLayers.conversion (layers : RunLayers) (requirements : RunRequirements) : RunLayerResult :=
  layer (layers.priceReasons ++ layers.fxReasons)
    (requirements.fxDates.filter (· ∉ layers.convertedDays)) layers.convertedDays

/-! ## The manifest -/

/-- A name is under one of some directories. -/
def startsWithAny (directories : List String) (name : String) : Bool :=
  directories.any fun directory => (below directory name).isSome

/-- The names that are not under the input of the prices or of the rates. -/
def fixedNames : List String :=
  ["task.json", "control.json", "conversion.json", "evaluation-policy.yaml",
    "requirements-input/calendar.json", "requirements-input/calendar-metadata.json",
    "requirements-input/research-note.md", "requirements-input/market-profile.yaml",
    "sources/jpx/approval.yaml", "sources/yfinance/approval.yaml",
    "sources/dukascopy/approval.yaml", "sources/jpx/profile.yaml",
    "sources/dukascopy/profile.yaml", "sources/yfinance/native-policy.json",
    "acquisition-approvals/approvals/jpx.yaml", "acquisition-approvals/approvals/yfinance.yaml"]

/-- `allowed` -/
def allowedNames (retained : Bundle Bytes) : List String :=
  fixedNames ++ retained.names.filter (startsWithAny ["price-input/", "fx-input/"])

/-- `retained` -/
def retainedFiles (files : Bundle Bytes) (conversion : Bytes) : Bundle Bytes :=
  Bundle.set (files.deleteWhere fun name _ => name ∈ ["manifest.json", "conversion.json"])
    "conversion.json" conversion

/-- `price_prefix` -/
def pricePrefix (retained : Bundle Bytes) : String :=
  if retained.get? "price-input/preparation/task.json" ≠ none then "price-input/preparation/"
  else "price-input/"

/-- The names of the retained files under some directories, sorted. -/
def sortedNames (retained : Bundle Bytes) (directories : List String) : List String :=
  sortedSet (retained.names.filter (startsWithAny directories))

/-- `records` -/
def recordsOf (retained : Bundle Bytes) (generation : Identifier) :
    List PreparationEvidenceReference :=
  let directory := pricePrefix retained
  [⟨"source-metadata", .sourceMetadata,
      sortedNames retained ["sources/", "requirements-input/", "acquisition-approvals/"] ++
        [directory ++ "history-metadata.json", "fx-input/metadata.json", "evaluation-policy.yaml"],
      [], generation⟩,
    ⟨"price-table", .normalized, [directory ++ "prices.csv"], ["source-metadata"], generation⟩,
    ⟨"price-normalized", .normalized, [directory ++ "normalized.json"], ["price-table"],
      generation⟩,
    ⟨"fx-raw", .raw, sortedNames retained ["fx-input/raw/"], ["source-metadata"], generation⟩,
    ⟨"fx-normalized", .normalized, ["fx-input/normalized.json"], ["fx-raw"], generation⟩,
    ⟨"conversion", .calculated, ["conversion.json"], ["price-normalized", "fx-normalized"],
      generation⟩]

/-- The keys of a dictionary of rows. -/
def daysOf {Row : Type} (on : Row → String) (rows : List Row) : List String :=
  (rows.map on).eraseDups

/-- `excluded_fx_dates` -/
def excludedFxDates (fxDates : List String) (rows : List DailyRow) : List (String × String) :=
  (daysOf (·.on) rows).filterMap fun day => (rowOn (·.on) rows day).bind fun row =>
    if day ∉ fxDates ∨ ¬ row.confirmed then
      some (day, if row.confirmed then "outside_required_conversion_dates" else "unfinished_candle")
    else none

/-- The limitations of a run. -/
def runLimitations : List String :=
  limitations.filter (· ≠ "fixed_period_not_current_run_freshness") ++
    ["price_fx_slice_only", "no_revision_check_against_provider",
      "stock_and_fx_closes_not_simultaneous",
      "calendar_validated_under_owner_local_schedule_policy"]

/-- `PriceFxPreparationManifest(...)` -/
def manifestOf (readers : RunReaders Bytes) (input : RunInput) (layers : RunLayers)
    (retained : Bundle Bytes) : PriceFxPreparationManifest :=
  let price := layers.price
  let fx := layers.fx
  let conversion := layers.conversion input.requirements
  { taskId := input.task.taskId
    checkedAt := input.control.checkedAt
    publicationGeneration := input.control.publicationGeneration
    requirements := input.requirements
    status := if [price, fx, conversion].all (·.status = .readyWithLimitations) then
        .readyWithLimitations
      else .pending
    price
    fx
    conversion
    reusedFromTaskId := if input.sourceTask.taskId ≠ input.task.taskId then
        some input.sourceTask.taskId
      else none
    reuseRevalidated := input.sourceTask.taskId ≠ input.task.taskId
    inputLocations := input.control.inputLocations
    records := recordsOf retained input.control.publicationGeneration
    files := (retained.rows.insertionSort fun a b => a.1 ≤ b.1).map fun row =>
      (row.1, readers.sha256 row.2)
    excludedPriceDates := (daysOf (·.on) input.prices).filter
      (· ∉ input.requirements.priceDates)
    excludedFxDates := excludedFxDates input.requirements.fxDates input.fxRows
    limitations := runLimitations
    restrictedUses
    convertedCount := layers.convertedDays.length }

/-- `_evaluate_run`, after its files are read -/
def concludeRun (readers : RunReaders Bytes) (files : Bundle Bytes) (input : RunInput)
    (layers : RunLayers) : Except RunError (PriceFxPreparationManifest × Bytes) := do
  let conversion := readers.rowsText layers.rows
  let retained := retainedFiles files conversion
  require (sameSet retained.names (allowedNames retained))
    (.valueError "run_file_inventory_mismatch")
  pure (manifestOf readers input layers retained, conversion)

/-- `_evaluate_run` -/
def evaluateRun [DecidableEq Bytes] (readers : RunReaders Bytes) (files : Bundle Bytes) :
    Except RunError (PriceFxPreparationManifest × Bytes) := do
  let input ← readRun readers files
  let layers ← evaluateLayers readers.toReaders input
  concludeRun readers files input layers

/-- `actual == expected`: the order of a dictionary does not matter. -/
def sameManifest (a b : PriceFxPreparationManifest) : Bool :=
  { a with inputLocations := [], files := [], excludedFxDates := [] } =
      { b with inputLocations := [], files := [], excludedFxDates := [] } ∧
    sameEntries a.inputLocations b.inputLocations ∧ sameEntries a.files b.files ∧
    sameEntries a.excludedFxDates b.excludedFxDates

/-- `validate_price_fx_run` -/
def validatePriceFxRun [DecidableEq Bytes] (readers : RunReaders Bytes) (files : Bundle Bytes) :
    Except RunError Unit := do
  let actual ← readModel readers.manifest files "manifest.json"
  let (expected, conversion) ← evaluateRun readers files
  require (sameManifest actual expected) (.valueError "run_manifest_or_conversion_mismatch")
  let body ← files.read "conversion.json"
  require (body = conversion) (.valueError "run_manifest_or_conversion_mismatch")

end StockResearch.Preparation
