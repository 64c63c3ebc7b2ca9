import StockResearch.Contracts.SourcePolicies
import StockResearch.Preparation.Bundle
import StockResearch.Preparation.PriceRows

/-!
# Prepared market evidence

The bundle a price acquisition leaves: the listing of the security in one snapshot of the
exchange's list, the price table and its normalized rows, and an index that refers to
every file by its digest. The libraries that read the files are parameters
(`PriceReaders`).

- `verifyJpxSecurity`, `mapToDaily`: the listing of a code, and the Yahoo symbol of one.
- `validateMarketPreparation`: the code.
- `mapToDaily_eq_ok`: which listing has a symbol.
-/

namespace StockResearch.Preparation

open Contracts

variable {Bytes : Type}

/-! ## Listings -/

/-- `JpxListedIssue.issuer_domesticity` -/
inductive IssuerDomesticity where
  | domestic
  | unknown
deriving DecidableEq

/-- `JpxListedIssue.security_class` -/
inductive SecurityClass where
  | ordinaryCommonEquity
  | unknown
deriving DecidableEq

/-- `JpxListedIssue.eligibility` -/
inductive Eligibility where
  | eligible
  | ineligible
  | unknown
deriving DecidableEq

/-- `JpxListedIssue.market_segment` -/
inductive MarketSegment where
  | prime
  | standard
  | growth
deriving DecidableEq

/-- `JpxListedIssue`; its market is `XTKS`, and its columns are the name and the
classifications. -/
structure JpxListedIssue where
  snapshotOn : String
  code : String
  columns : List (Option String)
  issuerDomesticity : IssuerDomesticity
  securityClass : SecurityClass
  eligibility : Eligibility
  marketSegment : Option MarketSegment
deriving DecidableEq

/-- `JpxCurrentList` -/
structure JpxCurrentList where
  snapshotOn : String
  issues : List JpxListedIssue

/-- `JpxSecurityVerification.status` -/
inductive VerificationStatus where
  | verifiedEligible
  | verifiedIneligible
  | notFound
deriving DecidableEq

/-- `JpxSecurityVerification` -/
structure JpxSecurityVerification where
  requestedCode : String
  snapshotOn : String
  status : VerificationStatus
  issue : Option JpxListedIssue
deriving DecidableEq

/-- Four digits or capital letters. -/
def isJpxCode (code : String) : Bool :=
  code.toList.length = 4 ∧ code.toList.all fun c => c.isDigit || c.isUpper

/-- `verify_jpx_security` -/
def verifyJpxSecurity (snapshot : JpxCurrentList) (code : String) :
    Except RunError JpxSecurityVerification := do
  require (isJpxCode code) (.valueError "invalid_jpx_security_code")
  match snapshot.issues.filter (·.code = code) with
  | [] => pure ⟨code, snapshot.snapshotOn, .notFound, none⟩
  | [issue] =>
    pure ⟨code, snapshot.snapshotOn,
      if issue.eligibility = .eligible then .verifiedEligible else .verifiedIneligible, some issue⟩
  | _ => .error (.valueError "ambiguous_jpx_security_code")

/-- `YfinanceDailyIntent` -/
structure YfinanceDailyIntent where
  symbol : String
  jpxCode : String
  jpxSnapshotOn : String
  marketSegment : MarketSegment
  start : String
  stop : String

/-- The condition of `map_jpx_verification_to_yfinance_daily` on the issue. -/
def isMappable (verification : JpxSecurityVerification) (issue : JpxListedIssue) : Bool :=
  verification.status = .verifiedEligible ∧ verification.requestedCode = issue.code ∧
    verification.snapshotOn = issue.snapshotOn ∧ issue.issuerDomesticity = .domestic ∧
    issue.securityClass = .ordinaryCommonEquity ∧ issue.eligibility = .eligible

/-- `map_jpx_verification_to_yfinance_daily`, with the validators of the intent. -/
def mapToDaily (verification : JpxSecurityVerification) (start stop : Date) :
    Except RunError YfinanceDailyIntent := do
  let ineligible : RunError := .valueError "jpx_security_not_eligible_for_yfinance"
  let issue ← fetch verification.issue ineligible
  require (isMappable verification issue) ineligible
  let segment ← fetch issue.marketSegment ineligible
  require (isJpxCode issue.code) (.validationError "YfinanceDailyIntent")
  let _ ← fetch (Date.fromisoformat verification.snapshotOn) (.validationError "YfinanceDailyIntent")
  require (start < stop) (.validationError "invalid_yfinance_daily_period")
  pure ⟨issue.code ++ ".T", issue.code, verification.snapshotOn, segment, start.isoformat,
    stop.isoformat⟩

/-- A symbol is given to an eligible issue only, under the code that was asked for. -/
theorem mapToDaily_eq_ok {verification : JpxSecurityVerification} {start stop : Date}
    {intent : YfinanceDailyIntent} (h : mapToDaily verification start stop = .ok intent) :
    ∃ issue ∈ verification.issue, isMappable verification issue ∧
      intent.symbol = issue.code ++ ".T" := by
  obtain ⟨issue, hissue, h⟩ := bind_eq_ok.mp h
  obtain ⟨⟨⟩, hmappable, h⟩ := bind_eq_ok.mp h
  obtain ⟨segment, -, h⟩ := bind_eq_ok.mp h
  obtain ⟨⟨⟩, -, h⟩ := bind_eq_ok.mp h
  obtain ⟨_, -, h⟩ := bind_eq_ok.mp h
  obtain ⟨⟨⟩, -, h⟩ := bind_eq_ok.mp h
  cases h
  exact ⟨issue, fetch_eq_ok.mp hissue, require_eq_ok.mp hmappable, rfl⟩

/-! ## The models of the bundle -/

/-- `DetailedAnalysisTaskV1`; its markets are `XTKS`, and the other fields are texts. -/
structure AnalysisTask where
  taskId : String
  taskAcceptedAt : String
  securityCode : String
  evaluationPolicyVersion : Nat
  others : List String
deriving DecidableEq

/-- `NormalizedPrices.trading_day_coverage` -/
inductive TradingDayCoverage where
  | verified
  | incomplete
  | unconfirmed
deriving DecidableEq

/-- `NormalizedPrices` -/
structure NormalizedPrices where
  currency : Option String
  sourceTimezone : Option String
  requestedPeriod : ApplicablePeriod
  threeYearRequest : Bool
  tradingDayCoverage : TradingDayCoverage
  rows : List DailyPrice
  issues : List PriceQualityIssue

/-- `quality_passed` -/
def NormalizedPrices.qualityPassed (prices : NormalizedPrices) : Bool :=
  prices.issues = [] ∧ prices.threeYearRequest ∧ prices.tradingDayCoverage = .verified

/-- `JpxSnapshotProvenance` -/
structure JpxSnapshotProvenance where
  retrievedAt : String
  sha256 : String

/-- `NormalizedEvidenceV1` -/
structure NormalizedEvidence where
  inputEvidenceIds : List String
  value : JsonValue
  contentSha256 : String
  dataVersion : String

/-- `MarketPreparationIndex` -/
structure MarketPreparationIndex where
  taskId : String
  preparedAt : String
  jpxVerification : JpxSecurityVerification
  providerIdentityVerified : Bool
  priceQualityPassed : Bool
  issues : List PriceQualityIssue
  files : List FileReference
  normalizedEvidence : NormalizedEvidence

/-- `KnownPriceConflict` -/
structure KnownPriceConflict where
  checkedOn : String
  securityCode : String
  category : String
  evidenceSha256 : String

/-- The libraries: those of the requirements, `Decimal`, the CSV reader (the records, and
what it raises after them), `json.loads`, `model_dump`, the workbook parser, and the
parsers of the models. -/
structure PriceReaders (Bytes : Type) extends Readers Bytes where
  decimal : String → Option PyDecimal
  csv : Bytes → List (List String) × Option RunError
  json : Bytes → Option JsonValue
  dump : NormalizedPrices → JsonValue
  currentList : Bytes → Option JpxCurrentList
  marketIndex : Bytes → Option MarketPreparationIndex
  task : Bytes → Option AnalysisTask
  normalizedPrices : Bytes → Option NormalizedPrices
  jpxProvenance : Bytes → Option JpxSnapshotProvenance
  calendarProvenance : Bytes → Option String
  sourceApproval : Bytes → Option SourceApproval
  knownConflict : Bytes → Option KnownPriceConflict

/-- `Model.model_validate_json(files[name])` -/
def readModel {Model : Type} (parse : Bytes → Option Model) (files : Bundle Bytes) (name : String) :
    Except RunError Model := do
  let body ← files.read name
  fetch (parse body) (.validationError name)

theorem readModel_eq_ok {Model : Type} {parse : Bytes → Option Model} {files : Bundle Bytes}
    {name : String} {model : Model} :
    readModel parse files name = .ok model ↔ (files.get? name).bind parse = some model := by
  unfold readModel Bundle.read
  cases files.get? name with
  | none => simp [fetch, bind, Except.bind]
  | some body =>
    simp only [fetch, Option.bind_some]
    exact fetch_eq_ok

/-! ## The code -/

/-- The references of the index are to all files and give their digests. -/
def checkReferences (readers : PriceReaders Bytes) (files : Bundle Bytes)
    (references : List FileReference) : Except RunError Unit := do
  let paths := references.map (·.relativePath)
  require (paths.Nodup ∧ (references.map (·.artifactId)).Nodup ∧
    sameSet paths (files.names.filter (· ≠ "index.json")))
    (.valueError "invalid_preparation_reference_set")
  references.forM fun reference => do
    let body ← files.read reference.relativePath
    require (readers.sha256 body = reference.sha256)
      (.valueError "preparation_artifact_hash_mismatch")

/-- The inputs the normalized evidence has to name. -/
def expectedInputs (readers : PriceReaders Bytes) (files : Bundle Bytes) :
    Except RunError (List String) := do
  let inputs := ["jpx.xlsx", "jpx-metadata.json", "prices.csv", "history-metadata.json"]
  match files.get? "calendar.json" with
  | none => pure inputs
  | some body =>
    let sha256 ← readModel readers.calendarProvenance files "calendar-metadata.json"
    require (readers.sha256 body = sha256) (.valueError "calendar_hash_mismatch")
    let _ ← readCalendar readers.toReaders body
    pure (inputs ++ ["calendar.json", "calendar-metadata.json"])

/-- `validate_market_preparation` -/
def validateMarketPreparation (readers : PriceReaders Bytes) (files : Bundle Bytes) :
    Except RunError Unit := do
  let index ← readModel readers.marketIndex files "index.json"
  checkReferences readers files index.files
  let evidence := index.normalizedEvidence
  let inputs ← expectedInputs readers files
  require (sameSet evidence.inputEvidenceIds inputs)
    (.valueError "invalid_normalized_input_references")
  require (evidence.inputEvidenceIds ⊆ index.files.map (·.artifactId))
    (.valueError "unresolved_evidence_input")
  let normalizedBytes ← files.read "normalized.json"
  let normalized ← fetch (readers.normalizedPrices normalizedBytes)
    (.validationError "normalized.json")
  require (readers.sha256 normalizedBytes = evidence.contentSha256 ∧
    jsonEqual scalarEq (readers.dump normalized) evidence.value ∧
    (normalized.qualityPassed && index.providerIdentityVerified) = index.priceQualityPassed)
    (.valueError "normalized_evidence_mismatch")
  let task ← readModel readers.task files "task.json"
  require (task.taskId = index.taskId ∧ task.securityCode = index.jpxVerification.requestedCode)
    (.valueError "preparation_task_mismatch")
  let provenance ← readModel readers.jpxProvenance files "jpx-metadata.json"
  let workbook ← files.read "jpx.xlsx"
  require (readers.sha256 workbook = provenance.sha256)
    (.validationError "source_candidate_hash_mismatch")
  let snapshot ← fetch (readers.currentList workbook) (.valueError "jpx_current_list_invalid")
  let verification ← verifyJpxSecurity snapshot task.securityCode
  require (verification = index.jpxVerification) (.valueError "preparation_jpx_verification_mismatch")

/-- A validated bundle verified the code of its own task in its own snapshot. -/
theorem validateMarketPreparation_eq_ok {readers : PriceReaders Bytes} {files : Bundle Bytes}
    (h : validateMarketPreparation readers files = .ok ()) :
    ∃ index task snapshot,
      readModel readers.marketIndex files "index.json" = .ok index ∧
      readModel readers.task files "task.json" = .ok task ∧
      readModel readers.currentList files "jpx.xlsx" = .ok snapshot ∧
      verifyJpxSecurity snapshot task.securityCode = .ok index.jpxVerification := by
  obtain ⟨index, hindex, h⟩ := bind_eq_ok.mp h
  obtain ⟨⟨⟩, -, h⟩ := bind_eq_ok.mp h
  obtain ⟨inputs, -, h⟩ := bind_eq_ok.mp h
  obtain ⟨⟨⟩, -, h⟩ := bind_eq_ok.mp h
  obtain ⟨⟨⟩, -, h⟩ := bind_eq_ok.mp h
  obtain ⟨normalizedBytes, -, h⟩ := bind_eq_ok.mp h
  obtain ⟨normalized, -, h⟩ := bind_eq_ok.mp h
  obtain ⟨⟨⟩, -, h⟩ := bind_eq_ok.mp h
  obtain ⟨task, htask, h⟩ := bind_eq_ok.mp h
  obtain ⟨⟨⟩, -, h⟩ := bind_eq_ok.mp h
  obtain ⟨provenance, -, h⟩ := bind_eq_ok.mp h
  obtain ⟨workbook, hworkbook, h⟩ := bind_eq_ok.mp h
  obtain ⟨⟨⟩, -, h⟩ := bind_eq_ok.mp h
  obtain ⟨snapshot, hsnapshot, h⟩ := bind_eq_ok.mp h
  obtain ⟨verification, hverify, h⟩ := bind_eq_ok.mp h
  rw [require_eq_ok] at h
  refine ⟨index, task, snapshot, hindex, htask, ?_, h ▸ hverify⟩
  rw [readModel_eq_ok, fetch_eq_ok.mp hworkbook]
  exact fetch_eq_ok.mp hsnapshot

end StockResearch.Preparation
