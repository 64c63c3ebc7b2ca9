import StockResearch.Clock.Date
import StockResearch.Lib.Table
import StockResearch.Preparation.DecimalText
import StockResearch.Preparation.TradingDates

/-!
# Annual coverage

How many of the six metrics of a year were accepted: from the records of one report, and
from those of several, which may repeat a value but not contradict it.

- `FinancialValue`, `ComparativePeriodValues`: the record of a period, six metrics once each.
- `annualCoverage`: the coverage of one report.
- `mergeCoverage`: the coverage of several.
-/

namespace StockResearch.Preparation

/-! ## Records -/

/-- `Metric` -/
inductive Metric where
  | revenue
  | operatingProfit
  | parentProfit
  | assets
  | equity
  | operatingCashFlow
deriving DecidableEq

/-- `METRICS` -/
def metrics : List Metric :=
  [.revenue, .operatingProfit, .parentProfit, .assets, .equity, .operatingCashFlow]

/-- `metric in {"assets", "equity"}` -/
def Metric.isInstant : Metric → Bool
  | .assets | .equity => true
  | _ => false

/-- The status of a value. -/
inductive ValueStatus where
  | accepted
  | unaccepted
deriving DecidableEq

/-- The currencies of a value. -/
inductive Currency where
  | jpy
deriving DecidableEq

/-- The scopes of a value. -/
inductive ValueScope where
  | consolidated
deriving DecidableEq

/-- `FinancialValue`, as far as coverage reads it. -/
structure FinancialValue where
  metric : Metric
  status : ValueStatus
  value : Option String
  currency : Currency
  scope : ValueScope
  startDate : Option Date
  endDate : Date
deriving DecidableEq

/-- `AnnualPeriod` -/
structure AnnualPeriod where
  startDate : Date
  endDate : Date
  ordered : startDate ≤ endDate
deriving DecidableEq

/-- The dates of a value are those of a period. -/
def FinancialValue.DatedBy (value : FinancialValue) (period : AnnualPeriod) : Prop :=
  value.endDate = period.endDate ∧
    value.startDate = if value.metric.isInstant then none else some period.startDate

/-- `ComparativePeriodValues`: the metrics are the six, in any order. -/
structure ComparativePeriodValues where
  period : AnnualPeriod
  values : List FinancialValue
  sixMetrics : (values.map (·.metric)).Perm metrics
  dated : ∀ value ∈ values, value.DatedBy period

/-- The values of a record that are accepted. -/
def ComparativePeriodValues.accepted (record : ComparativePeriodValues) : List FinancialValue :=
  record.values.filter (·.status = .accepted)

/-- The status of a coverage. -/
inductive CoverageStatus where
  | complete
  | partly
  | missing
deriving DecidableEq

/-- `AnnualCoverage` -/
structure AnnualCoverage where
  period : AnnualPeriod
  status : CoverageStatus
  acceptedCount : Nat
  missingMetrics : List Metric
deriving DecidableEq

/-! ## One report -/

/-- `by_period.get(period)`: the last record of a period. -/
def recordOf (records : List ComparativePeriodValues) (period : AnnualPeriod) :
    Option ComparativePeriodValues :=
  records.reverse.find? (·.period = period)

/-- The coverage of a period whose record is known. -/
def coverageOf (period : AnnualPeriod) (record : Option ComparativePeriodValues) :
    AnnualCoverage :=
  let accepted := ((record.map (·.accepted)).getD []).map (·.metric) |>.dedup
  let missing := metrics.filter (· ∉ accepted)
  { period
    status := if missing = [] then .complete else if accepted ≠ [] then .partly else .missing
    acceptedCount := accepted.length
    missingMetrics := missing }

/-- `annual_coverage` -/
def annualCoverage (required : List AnnualPeriod) (records : List ComparativePeriodValues) :
    Except RunError (List AnnualCoverage) := do
  let periods := records.map (·.period)
  require (periods.dedup.length = records.length ∧ ∀ period ∈ periods, period ∈ required)
    (.valueError "comparative_coverage_period_invalid")
  pure (required.map fun period => coverageOf period (recordOf records period))

/-! ## Several reports -/

/-- `(Decimal(value.value), value.currency, value.scope)` -/
structure NormalizedValue where
  number : PyDecimal
  currency : Currency
  scope : ValueScope
deriving DecidableEq

/-- `accepted` -/
abbrev AcceptedValues := Table (AnnualPeriod × Metric) NormalizedValue

/-- The body of the loop over the values, for one that is accepted. -/
def acceptValue (period : AnnualPeriod) (accepted : AcceptedValues) (value : FinancialValue) :
    Except RunError AcceptedValues := do
  let text ← fetch value.value (.valueError "multi_report_missing_accepted_value")
  -- a text that is no number raises `InvalidOperation`
  let number ← fetch (PyDecimal.ofText text) .arithmeticError
  let normalized : NormalizedValue := ⟨number, value.currency, value.scope⟩
  require (number ≠ .nan ∧ number ≠ .infinite) (.valueError "multi_report_nonfinite_value")
  require (((accepted.get? (period, value.metric)).getD normalized) = normalized)
    (.valueError "multi_report_conflicting_value")
  pure (accepted.upsert (period, value.metric) normalized fun _ => normalized)

/-- The body of the loop over the records. -/
def acceptRecord (required : List AnnualPeriod) (accepted : AcceptedValues)
    (record : ComparativePeriodValues) : Except RunError AcceptedValues := do
  require (record.period ∈ required) (.valueError "multi_report_period_outside_window")
  record.values.foldlM (fun accepted value =>
    if value.status = .accepted then acceptValue record.period accepted value
    else pure accepted) accepted

/-- The body of the loop over the reports. -/
def acceptReport (required : List AnnualPeriod) (accepted : AcceptedValues)
    (records : List ComparativePeriodValues) : Except RunError AcceptedValues := do
  require ((records.map (·.period)).dedup.length = records.length)
    (.valueError "multi_report_duplicate_period")
  records.foldlM (acceptRecord required) accepted

/-- The coverage of a period from the keys that were accepted. -/
def mergedCoverage (accepted : AcceptedValues) (period : AnnualPeriod) : AnnualCoverage :=
  let missing := metrics.filter fun metric => accepted.get? (period, metric) = none
  let count := metrics.length - missing.length
  { period
    status := if missing = [] then .complete else if count ≠ 0 then .partly else .missing
    acceptedCount := count
    missingMetrics := missing }

/-- `merge_coverage` -/
def mergeCoverage (required : List AnnualPeriod) (reports : List (List ComparativePeriodValues)) :
    Except RunError (List AnnualCoverage) := do
  let accepted ← reports.foldlM (acceptReport required) Table.empty
  pure (required.map (mergedCoverage accepted))

end StockResearch.Preparation
