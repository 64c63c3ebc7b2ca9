import Mathlib.Data.List.Perm.Basic
import StockResearch.Lib.Accumulator
import StockResearch.Preparation.AnnualCoverage

/-!
# Merging reports

The reports are read as one sequence of checks: that no period is repeated in a report,
that a period is required, and that an accepted value is a number which agrees with those
before it. What the merge accepts and counts depends on none of the orders; what it raises
depends on the first check that fails.

- `Check`, `checksOf`, `Fits`: the checks in the order the code makes them.
- `Problem`: what is wrong with reports, without an order.
- `MergeLaw`: order, failure, counts, growth, and the agreement with `annualCoverage`.
- `merge_law_iff`: the law holds unless a text that is no number is the first problem.
-/

namespace StockResearch.Preparation

/-! ## The law -/

/-- The number an accepted value stands for. -/
def FinancialValue.number (value : FinancialValue) : Option PyDecimal :=
  value.value.bind PyDecimal.ofText

/-- The value as it is compared. -/
def FinancialValue.normalized (value : FinancialValue) : Option NormalizedValue :=
  value.number.map fun number => ⟨number, value.currency, value.scope⟩

/-- The value is there, and a finite decimal number. -/
def FinancialValue.IsNumber (value : FinancialValue) : Prop :=
  ∃ q, value.number = some (.finite q)

/-- The value is there, and no decimal number. -/
def FinancialValue.Malformed (value : FinancialValue) : Prop :=
  ∃ text, value.value = some text ∧ PyDecimal.ofText text = none

/-- What is wrong with reports. -/
inductive Problem (required : List AnnualPeriod)
    (reports : List (List ComparativePeriodValues)) : Prop
  | repeated (records : List ComparativePeriodValues) (hrecords : records ∈ reports)
      (hperiods : ¬ (records.map (·.period)).Nodup)
  | outside (record : ComparativePeriodValues) (hrecord : record ∈ reports.flatten)
      (hperiod : record.period ∉ required)
  | number (record : ComparativePeriodValues) (hrecord : record ∈ reports.flatten)
      (value : FinancialValue) (hvalue : value ∈ record.accepted) (hnumber : ¬ value.IsNumber)
  | conflict (record record' : ComparativePeriodValues) (hrecord : record ∈ reports.flatten)
      (hrecord' : record' ∈ reports.flatten) (hperiod : record.period = record'.period)
      (value value' : FinancialValue) (hvalue : value ∈ record.accepted)
      (hvalue' : value' ∈ record'.accepted) (hmetric : value.metric = value'.metric)
      (hdiffer : value.normalized ≠ value'.normalized)

/-- A metric of a period is accepted by a report. -/
def AcceptedBy (reports : List (List ComparativePeriodValues)) (period : AnnualPeriod)
    (metric : Metric) : Prop :=
  ∃ record ∈ reports.flatten, record.period = period ∧
    ∃ value ∈ record.accepted, value.metric = metric

instance (reports : List (List ComparativePeriodValues)) (period : AnnualPeriod)
    (metric : Metric) : Decidable (AcceptedBy reports period metric) := by
  unfold AcceptedBy
  infer_instance

/-- The same records in reports of another order, each in another order. -/
def Rearranged (reports reports' : List (List ComparativePeriodValues)) : Prop :=
  ∃ middle, List.Forall₂ List.Perm reports middle ∧ middle.Perm reports'

/-- The coverage of a period grew. -/
def Grows (before after : AnnualCoverage) : Prop :=
  before.period = after.period ∧ before.acceptedCount ≤ after.acceptedCount

/-- What merging reports has to be. -/
structure MergeLaw (required : List AnnualPeriod)
    (reports : List (List ComparativePeriodValues)) : Prop where
  orderFree : ∀ reports', Rearranged reports reports' →
    (mergeCoverage required reports').toOption = (mergeCoverage required reports).toOption
  fails : (∃ e, mergeCoverage required reports = .error e) ↔ Problem required reports
  valueErrors : ∀ e, mergeCoverage required reports = .error e → ∃ message, e = .valueError message
  counts : ∀ coverage, mergeCoverage required reports = .ok coverage →
    coverage.map (fun c => (c.period, c.acceptedCount)) =
      required.map fun period => (period, (metrics.filter (AcceptedBy reports period)).length)
  grows : ∀ report coverage coverage', mergeCoverage required reports = .ok coverage →
    mergeCoverage required (reports ++ [report]) = .ok coverage' →
    List.Forall₂ Grows coverage coverage'
  single : ∀ records, reports = [records] →
    (∀ record ∈ records, ∀ value ∈ record.accepted, value.IsNumber) →
    (mergeCoverage required reports).toOption = (annualCoverage required records).toOption

/-! ## The checks in order -/

/-- A check of the merge. -/
inductive Check
  | periods (records : List ComparativePeriodValues)
  | window (period : AnnualPeriod)
  | value (period : AnnualPeriod) (value : FinancialValue)

/-- The checks of a record. -/
def recordChecks (record : ComparativePeriodValues) : List Check :=
  .window record.period :: record.accepted.map (.value record.period)

/-- The checks of a report. -/
def reportChecks (records : List ComparativePeriodValues) : List Check :=
  .periods records :: records.flatMap recordChecks

/-- The checks of the reports, in the order they are made. -/
def checksOf (reports : List (List ComparativePeriodValues)) : List Check :=
  reports.flatMap reportChecks

/-- One check, on what has been accepted. -/
def checkStep (required : List AnnualPeriod) (accepted : AcceptedValues) :
    Check → Except RunError AcceptedValues
  | .periods records => do
    require ((records.map (·.period)).dedup.length = records.length)
      (.valueError "multi_report_duplicate_period")
    pure accepted
  | .window period => do
    require (period ∈ required) (.valueError "multi_report_period_outside_window")
    pure accepted
  | .value period value => acceptValue period accepted value

/-- The values that checks have accepted. -/
def seenValues (checks : List Check) : List ((AnnualPeriod × Metric) × NormalizedValue) :=
  checks.filterMap fun
    | .value period value => value.normalized.map ((period, value.metric), ·)
    | _ => none

/-- A check is passed after others. -/
def Fits (required : List AnnualPeriod) (past : List Check) : Check → Prop
  | .periods records => (records.map (·.period)).Nodup
  | .window period => period ∈ required
  | .value period value => value.IsNumber ∧
    ∀ seen, ((period, value.metric), seen) ∈ seenValues past → value.normalized = some seen

/-- Every text that is no number is read after another problem. -/
def MalformedGuarded (required : List AnnualPeriod)
    (reports : List (List ComparativePeriodValues)) : Prop :=
  ∀ before period value after, checksOf reports = before ++ .value period value :: after →
    value.Malformed → ∃ earlier check later, before = earlier ++ check :: later ∧
      ¬ Fits required earlier check

/-! ## The merge is its checks -/

/-- A loop over what each entry gives is a loop over all that they give. -/
theorem foldlM_flatMap {ε α β σ : Type} {step : σ → β → Except ε σ} {g : α → List β} :
    ∀ {xs : List α} {s : σ}, (xs.flatMap g).foldlM step s =
      xs.foldlM (fun s x => (g x).foldlM step s) s
  | [], _ => rfl
  | x :: xs, s => by
    rw [List.flatMap_cons, List.foldlM_append, List.foldlM_cons]
    exact bind_congr fun t => foldlM_flatMap

theorem recordChecks_fold (required : List AnnualPeriod) (accepted : AcceptedValues)
    (record : ComparativePeriodValues) :
    (recordChecks record).foldlM (checkStep required) accepted =
      acceptRecord required accepted record := by
  rw [recordChecks, List.foldlM_cons, checkStep, acceptRecord, bind_assoc]
  refine bind_congr fun _ => ?_
  rw [pure_bind, List.foldlM_map, ComparativePeriodValues.accepted, List.foldlM_filter]
  simp only [decide_eq_true_eq, checkStep]

theorem checksOf_fold (required : List AnnualPeriod) (accepted : AcceptedValues)
    (reports : List (List ComparativePeriodValues)) :
    (checksOf reports).foldlM (checkStep required) accepted =
      reports.foldlM (acceptReport required) accepted := by
  have hreport : ∀ accepted records, (reportChecks records).foldlM (checkStep required) accepted =
      acceptReport required accepted records := by
    intro accepted records
    rw [reportChecks, List.foldlM_cons, checkStep, acceptReport, bind_assoc]
    refine bind_congr fun _ => ?_
    rw [pure_bind, foldlM_flatMap]
    simp only [recordChecks_fold]
  rw [checksOf, foldlM_flatMap]
  simp only [hreport]

theorem dedup_length_eq_iff {α : Type} [DecidableEq α] {xs : List α} {n : Nat}
    (h : xs.length = n) : xs.dedup.length = n ↔ xs.Nodup := by
  rw [← h]
  constructor
  · intro hlength
    rw [← (List.dedup_sublist xs).eq_of_length hlength]
    exact xs.nodup_dedup
  · intro hnodup
    rw [hnodup.dedup]

/-- A value is accepted exactly when it is a number that agrees with what its key holds. -/
theorem acceptValue_eq_ok {period : AnnualPeriod} {accepted accepted' : AcceptedValues}
    {value : FinancialValue} : acceptValue period accepted value = .ok accepted' ↔
      value.IsNumber ∧ ∃ normalized, value.normalized = some normalized ∧
        (accepted.setdefault (period, value.metric) normalized).2 = normalized ∧
        accepted' = accepted.upsert (period, value.metric) normalized fun _ => normalized := by
  have hnumber_iff : ∀ {number : PyDecimal}, value.number = some number ↔
      ∃ text, value.value = some text ∧ PyDecimal.ofText text = some number :=
    Option.bind_eq_some_iff
  simp only [acceptValue, bind_eq_ok, fetch_eq_ok, require_eq_ok, pure_eq_ok,
    FinancialValue.IsNumber, FinancialValue.normalized, Option.map_eq_some_iff]
  constructor
  · rintro ⟨text, htext, number, hread, -, hfinite, -, hagrees, rfl⟩
    have hnumber : value.number = some number := hnumber_iff.mpr ⟨text, htext, hread⟩
    cases number with
    | finite q => exact ⟨⟨q, hnumber⟩, _, ⟨_, hnumber, rfl⟩, hagrees, rfl⟩
    | nan => exact absurd rfl hfinite.1
    | infinite => exact absurd rfl hfinite.2
  · rintro ⟨⟨q, hq⟩, -, ⟨number, hnumber, rfl⟩, hagrees, rfl⟩
    obtain rfl := Option.some.inj (hq.symm.trans hnumber)
    obtain ⟨text, htext, hread⟩ := hnumber_iff.mp hq
    exact ⟨text, htext, _, hread, (), ⟨by simp, by simp⟩, (), hagrees, rfl⟩

/-- The checks so far decide whether a check is passed. -/
theorem checkStep_accepts {required : List AnnualPeriod} {past : List Check}
    {accepted : AcceptedValues} {check : Check} (h : accepted.Holds (seenValues past)) :
    (∃ accepted', checkStep required accepted check = .ok accepted') ↔
      Fits required past check := by
  cases check with
  | periods records =>
    simp only [checkStep, bind_eq_ok, require_eq_ok, pure_eq_ok, Fits]
    rw [← dedup_length_eq_iff (List.length_map _)]
    constructor
    · rintro ⟨_, _, hperiods, -⟩
      exact hperiods
    · intro hperiods
      exact ⟨_, (), hperiods, rfl⟩
  | window period =>
    simp only [checkStep, bind_eq_ok, require_eq_ok, pure_eq_ok, Fits]
    constructor
    · rintro ⟨_, _, hperiod, -⟩
      exact hperiod
    · intro hperiod
      exact ⟨_, (), hperiod, rfl⟩
  -- a value is compared with what is stored, which is the first one seen
  | value period value =>
    simp only [checkStep, acceptValue_eq_ok, Fits]
    constructor
    · rintro ⟨accepted', hnumber, normalized, hnormalized, hagrees, -⟩
      refine ⟨hnumber, fun seen hseen => ?_⟩
      rw [hnormalized, h.setdefault_eq_iff.mp hagrees seen hseen]
    · rintro ⟨⟨q, hq⟩, hagrees⟩
      have hnormalized : value.normalized =
          some ⟨.finite q, value.currency, value.scope⟩ := by
        rw [FinancialValue.normalized, hq]
        rfl
      refine ⟨_, ⟨q, hq⟩, _, hnormalized, h.setdefault_eq_iff.mpr fun seen hseen => ?_, rfl⟩
      exact (Option.some.inj (hnormalized.symm.trans (hagrees seen hseen))).symm

/-- A passed check adds its value to what has been accepted. -/
theorem checkStep_keeps {required : List AnnualPeriod} {past : List Check}
    {accepted accepted' : AcceptedValues} {check : Check} (h : accepted.Holds (seenValues past))
    (hstep : checkStep required accepted check = .ok accepted') :
    accepted'.Holds (seenValues (past ++ [check])) := by
  cases check with
  | periods records =>
    simp only [checkStep, bind_eq_ok, require_eq_ok, pure_eq_ok] at hstep
    obtain ⟨-, -, rfl⟩ := hstep
    simpa [seenValues] using h
  | window period =>
    simp only [checkStep, bind_eq_ok, require_eq_ok, pure_eq_ok] at hstep
    obtain ⟨-, -, rfl⟩ := hstep
    simpa [seenValues] using h
  -- only a value is stored, and a stored one is not replaced
  | value period value =>
    obtain ⟨-, normalized, hnormalized, hagrees, rfl⟩ := acceptValue_eq_ok.mp hstep
    have hholds := h.setdefault hagrees
    have hseen : seenValues (past ++ [.value period value]) =
        seenValues past ++ [((period, value.metric), normalized)] := by
      simp [seenValues, hnormalized]
    rw [hseen]
    intro key stored
    rw [← hholds key stored, Table.get?_upsert, Table.setdefault]
    cases hget : accepted.get? (period, value.metric) with
    | none =>
      rw [Table.get?_insert hget]
      rfl
    | some held =>
      have hheld : held = normalized := by
        simpa only [Table.setdefault, hget, Option.getD_some] using hagrees
      rw [Table.insert_of_taken (by simp [hget])]
      by_cases hkey : key = (period, value.metric)
      · rw [if_pos hkey, hkey, hget, hheld]
        rfl
      · rw [if_neg hkey]

/-- Checks that are passed one after another. -/
theorem checks_fold_ok_iff {required : List AnnualPeriod} {checks : List Check} :
    (∃ accepted, checks.foldlM (checkStep required) Table.empty = .ok accepted) ↔
      ∀ (i : Nat) check, checks[i]? = some check → Fits required (checks.take i) check := by
  have hloop : (∃ accepted, checks.foldlM (checkStep required) Table.empty = .ok accepted) ↔
      ∀ (i : Nat) check, checks[i]? = some check → Fits required ([] ++ checks.take i) check :=
    foldlM_accepts_iff (fun past accepted => Table.Holds accepted (seenValues past))
      (Fits required) (fun _ _ _ => checkStep_accepts) (fun _ _ _ _ => checkStep_keeps)
      Table.holds_empty
  simpa only [List.nil_append] using hloop

/-- The merge accepts reports exactly when every check is passed. -/
theorem merge_accepts_iff {required : List AnnualPeriod}
    {reports : List (List ComparativePeriodValues)} :
    (∃ coverage, mergeCoverage required reports = .ok coverage) ↔
      ∀ (i : Nat) check, (checksOf reports)[i]? = some check →
        Fits required ((checksOf reports).take i) check := by
  rw [← checks_fold_ok_iff, checksOf_fold, mergeCoverage]
  simp only [bind_eq_ok, pure_eq_ok]
  constructor
  · rintro ⟨_, accepted, h, -⟩
    exact ⟨accepted, h⟩
  · rintro ⟨accepted, h⟩
    exact ⟨_, accepted, h, rfl⟩

/-! ## Without an order -/

theorem periods_mem_checksOf {reports : List (List ComparativePeriodValues)}
    {records : List ComparativePeriodValues} :
    .periods records ∈ checksOf reports ↔ records ∈ reports := by
  simp only [checksOf, reportChecks, recordChecks, List.mem_flatMap, List.mem_cons, List.mem_map]
  constructor
  · rintro ⟨_, hmem, heq | ⟨_, _, heq | ⟨_, _, heq⟩⟩⟩ <;> cases heq
    exact hmem
  · exact fun hmem => ⟨records, hmem, .inl rfl⟩

theorem window_mem_checksOf {reports : List (List ComparativePeriodValues)}
    {period : AnnualPeriod} : .window period ∈ checksOf reports ↔
      ∃ record ∈ reports.flatten, record.period = period := by
  simp only [checksOf, reportChecks, recordChecks, List.mem_flatMap, List.mem_cons, List.mem_map,
    List.mem_flatten]
  constructor
  · rintro ⟨records, hmem, heq | ⟨record, hrecord, heq | ⟨_, _, heq⟩⟩⟩ <;> cases heq
    exact ⟨record, ⟨records, hmem, hrecord⟩, rfl⟩
  · rintro ⟨record, ⟨records, hmem, hrecord⟩, rfl⟩
    exact ⟨records, hmem, .inr ⟨record, hrecord, .inl rfl⟩⟩

theorem value_mem_checksOf {reports : List (List ComparativePeriodValues)}
    {period : AnnualPeriod} {value : FinancialValue} : .value period value ∈ checksOf reports ↔
      ∃ record ∈ reports.flatten, record.period = period ∧ value ∈ record.accepted := by
  simp only [checksOf, reportChecks, recordChecks, List.mem_flatMap, List.mem_cons, List.mem_map,
    List.mem_flatten]
  constructor
  · rintro ⟨records, hmem, heq | ⟨record, hrecord, heq | ⟨_, hvalue, heq⟩⟩⟩ <;> cases heq
    exact ⟨record, ⟨records, hmem, hrecord⟩, rfl, hvalue⟩
  · rintro ⟨record, ⟨records, hmem, hrecord⟩, rfl, hvalue⟩
    exact ⟨records, hmem, .inr ⟨record, hrecord, .inr ⟨value, hvalue, rfl⟩⟩⟩

theorem mem_seenValues {checks : List Check} {period : AnnualPeriod} {metric : Metric}
    {seen : NormalizedValue} : ((period, metric), seen) ∈ seenValues checks ↔
      ∃ value, .value period value ∈ checks ∧ value.metric = metric ∧
        value.normalized = some seen := by
  simp only [seenValues, List.mem_filterMap]
  constructor
  · rintro ⟨check, hcheck, hseen⟩
    cases check with
    | periods | window => cases hseen
    | value period' value =>
      obtain ⟨normalized, hnormalized, heq⟩ := Option.map_eq_some_iff.mp hseen
      cases heq
      exact ⟨value, hcheck, rfl, hnormalized⟩
  · rintro ⟨value, hcheck, rfl, hnormalized⟩
    exact ⟨_, hcheck, Option.map_eq_some_iff.mpr ⟨seen, hnormalized, rfl⟩⟩

theorem FinancialValue.IsNumber.normalized {value : FinancialValue} (h : value.IsNumber) :
    ∃ normalized, value.normalized = some normalized := by
  obtain ⟨q, hq⟩ := h
  exact ⟨_, Option.map_eq_some_iff.mpr ⟨_, hq, rfl⟩⟩

/-- Two checks do not contradict each other. -/
def Agrees (check check' : Check) : Prop :=
  ∀ period value value', check = .value period value → check' = .value period value' →
    value.metric = value'.metric → value.normalized = value'.normalized

/-- Every check is passed exactly when nothing is wrong. -/
theorem fits_iff_not_problem {required : List AnnualPeriod}
    {reports : List (List ComparativePeriodValues)} :
    (∀ (i : Nat) check, (checksOf reports)[i]? = some check →
        Fits required ((checksOf reports).take i) check) ↔ ¬ Problem required reports := by
  constructor
  · intro hfits hproblem
    have hpassed : ∀ check ∈ checksOf reports, ∃ past, Fits required past check := by
      intro check hcheck
      obtain ⟨i, hi⟩ := List.mem_iff_getElem?.mp hcheck
      exact ⟨_, hfits i check hi⟩
    cases hproblem with
    | repeated records hrecords hperiods =>
      obtain ⟨_, hnodup⟩ := hpassed _ (periods_mem_checksOf.mpr hrecords)
      exact hperiods hnodup
    | outside record hrecord hperiod =>
      obtain ⟨_, hmem⟩ := hpassed _ (window_mem_checksOf.mpr ⟨record, hrecord, rfl⟩)
      exact hperiod hmem
    | number record hrecord value hvalue hnumber =>
      obtain ⟨_, hfit⟩ := hpassed _ (value_mem_checksOf.mpr ⟨record, hrecord, rfl, hvalue⟩)
      exact hnumber hfit.1
    -- two values of one period and metric: the later one is compared with the earlier
    | conflict record record' hrecord hrecord' hperiod value value' hvalue hvalue' hmetric hdiffer =>
      refine hdiffer (forall_mem_of_earlier (R := Agrees) ?_ ?_ ?_ _
        (value_mem_checksOf.mpr ⟨record, hrecord, hperiod, hvalue⟩) _
        (value_mem_checksOf.mpr ⟨record', hrecord', rfl, hvalue'⟩) _ _ _ rfl rfl hmetric)
      · rintro _ period value value' rfl heq -
        cases heq
        rfl
      · intro check check' h period value value' heq heq' hmetric
        exact (h period value' value heq' heq hmetric.symm).symm
      · rintro i _ hi _ hearlier period value value' rfl rfl hmetric
        obtain ⟨_, hfit⟩ := hpassed _ (List.mem_of_mem_take hearlier)
        obtain ⟨normalized, hnormalized⟩ := hfit.1.normalized
        rw [hnormalized, (hfits i _ hi).2 normalized
          (mem_seenValues.mpr ⟨value, hearlier, hmetric, hnormalized⟩)]
  · -- a check that fails shows what is wrong
    intro hclean i check hi
    have hcheck : check ∈ checksOf reports := List.mem_of_getElem? hi
    cases check with
    | periods records =>
      by_contra hperiods
      exact hclean (.repeated records (periods_mem_checksOf.mp hcheck) hperiods)
    | window period =>
      obtain ⟨record, hrecord, rfl⟩ := window_mem_checksOf.mp hcheck
      by_contra hperiod
      exact hclean (.outside record hrecord hperiod)
    | value period value =>
      obtain ⟨record, hrecord, rfl, hvalue⟩ := value_mem_checksOf.mp hcheck
      refine ⟨by_contra fun hnumber => hclean (.number record hrecord value hvalue hnumber), ?_⟩
      intro seen hseen
      obtain ⟨value', hearlier, hmetric, hnormalized⟩ := mem_seenValues.mp hseen
      obtain ⟨record', hrecord', hperiod, hvalue'⟩ :=
        value_mem_checksOf.mp (List.mem_of_mem_take hearlier)
      by_contra hdiffer
      rw [← hnormalized] at hdiffer
      exact hclean (.conflict record record' hrecord hrecord' hperiod.symm value value' hvalue
        hvalue' hmetric.symm hdiffer)

/-- The coverage of a period, by what the reports accept. -/
def expectedCoverage (reports : List (List ComparativePeriodValues)) (period : AnnualPeriod) :
    AnnualCoverage :=
  let missing := metrics.filter fun metric => ¬ AcceptedBy reports period metric
  let count := (metrics.filter (AcceptedBy reports period)).length
  { period
    status := if missing = [] then .complete else if count ≠ 0 then .partly else .missing
    acceptedCount := count
    missingMetrics := missing }

/-- The merge is decided by what is wrong and by what is accepted, without an order. -/
theorem mergeCoverage_eq_ok {required : List AnnualPeriod}
    {reports : List (List ComparativePeriodValues)} {coverage : List AnnualCoverage} :
    mergeCoverage required reports = .ok coverage ↔
      ¬ Problem required reports ∧ coverage = required.map (expectedCoverage reports) := by
  have hresult : ∀ {coverage}, mergeCoverage required reports = .ok coverage →
      coverage = required.map (expectedCoverage reports) := by
    intro coverage hmerge
    have hfits := merge_accepts_iff.mp ⟨coverage, hmerge⟩
    simp only [mergeCoverage, bind_eq_ok, pure_eq_ok, ← checksOf_fold] at hmerge
    obtain ⟨accepted, hfold, rfl⟩ := hmerge
    have hholds : Table.Holds accepted (seenValues ([] ++ checksOf reports)) :=
      foldlM_keeps (fun past accepted => Table.Holds accepted (seenValues past))
        (fun _ _ _ _ => checkStep_keeps) Table.holds_empty hfold
    rw [List.nil_append] at hholds
    -- nothing is stored for a metric that no report accepts
    have hget : ∀ period metric, accepted.get? (period, metric) = none ↔
        ¬ AcceptedBy reports period metric := by
      intro period metric
      rw [Option.eq_none_iff_forall_ne_some]
      constructor
      · rintro hnone ⟨record, hrecord, rfl, value, hvalue, rfl⟩
        have hcheck := value_mem_checksOf.mpr ⟨record, hrecord, rfl, hvalue⟩
        obtain ⟨i, hi⟩ := List.mem_iff_getElem?.mp hcheck
        obtain ⟨normalized, hnormalized⟩ := (hfits i _ hi).1.normalized
        exact hnone normalized ((hholds _ _).mpr
          (mem_seenValues.mpr ⟨value, hcheck, rfl, hnormalized⟩))
      · intro hnot stored hstored
        obtain ⟨value, hcheck, hmetric, -⟩ := mem_seenValues.mp ((hholds _ _).mp hstored)
        obtain ⟨record, hrecord, hperiod, hvalue⟩ := value_mem_checksOf.mp hcheck
        exact hnot ⟨record, hrecord, hperiod, value, hvalue, hmetric⟩
    refine List.map_congr_left fun period _ => ?_
    -- the metrics that are there and those that are missing are all metrics
    have hcount : metrics.length -
        (metrics.filter fun metric => ¬ AcceptedBy reports period metric).length =
        (metrics.filter (AcceptedBy reports period)).length := by
      have hsum := List.length_eq_length_filter_add (l := metrics)
        (fun metric => decide (AcceptedBy reports period metric))
      simp only [decide_not]
      omega
    simp only [mergedCoverage, expectedCoverage, hget, hcount]
  constructor
  · intro hmerge
    exact ⟨fits_iff_not_problem.mp (merge_accepts_iff.mp ⟨coverage, hmerge⟩), hresult hmerge⟩
  · rintro ⟨hclean, rfl⟩
    obtain ⟨coverage, hmerge⟩ := merge_accepts_iff.mpr (fits_iff_not_problem.mpr hclean)
    rw [hmerge, hresult hmerge]

/-! ## Order, growth, and one report -/

theorem Rearranged.flatten {reports reports' : List (List ComparativePeriodValues)}
    (h : Rearranged reports reports') : reports.flatten.Perm reports'.flatten := by
  obtain ⟨middle, hinner, houter⟩ := h
  exact (List.Perm.flatten_congr hinner).trans houter.flatten

/-- What is wrong is wrong in any order. -/
theorem Rearranged.problem_iff {required : List AnnualPeriod}
    {reports reports' : List (List ComparativePeriodValues)} (h : Rearranged reports reports') :
    Problem required reports ↔ Problem required reports' := by
  have hmem : ∀ record, record ∈ reports.flatten ↔ record ∈ reports'.flatten :=
    fun record => h.flatten.mem_iff
  -- a repeated period stays in its report
  have hrepeated : (∃ records ∈ reports, ¬ (records.map (·.period)).Nodup) ↔
      ∃ records ∈ reports', ¬ (records.map (·.period)).Nodup := by
    obtain ⟨middle, hinner, houter⟩ := h
    have hmiddle : (∃ records ∈ reports, ¬ (records.map (·.period)).Nodup) ↔
        ∃ records ∈ middle, ¬ (records.map (·.period)).Nodup := by
      clear houter hmem
      induction hinner with
      | nil => rfl
      | cons hperm _ ih =>
        simp only [List.exists_mem_cons_iff, ih, (hperm.map _).nodup_iff]
    simp only [hmiddle, houter.mem_iff]
  constructor
  · rintro (⟨records, hrecords, hperiods⟩ | ⟨record, hrecord, hperiod⟩ |
      ⟨record, hrecord, value, hvalue, hnumber⟩ |
      ⟨record, record', hrecord, hrecord', hperiod, value, value', hvalue, hvalue', hmetric,
        hdiffer⟩)
    · obtain ⟨records', hrecords', hperiods'⟩ := hrepeated.mp ⟨records, hrecords, hperiods⟩
      exact .repeated records' hrecords' hperiods'
    · exact .outside record ((hmem _).mp hrecord) hperiod
    · exact .number record ((hmem _).mp hrecord) value hvalue hnumber
    · exact .conflict record record' ((hmem _).mp hrecord) ((hmem _).mp hrecord') hperiod value
        value' hvalue hvalue' hmetric hdiffer
  · rintro (⟨records, hrecords, hperiods⟩ | ⟨record, hrecord, hperiod⟩ |
      ⟨record, hrecord, value, hvalue, hnumber⟩ |
      ⟨record, record', hrecord, hrecord', hperiod, value, value', hvalue, hvalue', hmetric,
        hdiffer⟩)
    · obtain ⟨records', hrecords', hperiods'⟩ := hrepeated.mpr ⟨records, hrecords, hperiods⟩
      exact .repeated records' hrecords' hperiods'
    · exact .outside record ((hmem _).mpr hrecord) hperiod
    · exact .number record ((hmem _).mpr hrecord) value hvalue hnumber
    · exact .conflict record record' ((hmem _).mpr hrecord) ((hmem _).mpr hrecord') hperiod value
        value' hvalue hvalue' hmetric hdiffer

/-- Coverage is determined by what is accepted. -/
theorem expectedCoverage_congr {reports reports' : List (List ComparativePeriodValues)}
    {period : AnnualPeriod}
    (h : ∀ metric, AcceptedBy reports period metric ↔ AcceptedBy reports' period metric) :
    expectedCoverage reports period = expectedCoverage reports' period := by
  simp only [expectedCoverage, h]

/-- Two results are the same as far as they succeed. -/
theorem toOption_eq_of_ok_iff {ε α : Type} {x y : Except ε α}
    (h : ∀ a, x = .ok a ↔ y = .ok a) : x.toOption = y.toOption := by
  cases x with
  | ok a => rw [(h a).mp rfl]
  | error e =>
    cases y with
    | ok a => exact absurd ((h a).mpr rfl) nofun
    | error _ => rfl

theorem mergeCoverage_rearranged {required : List AnnualPeriod}
    {reports reports' : List (List ComparativePeriodValues)} (h : Rearranged reports reports') :
    (mergeCoverage required reports').toOption = (mergeCoverage required reports).toOption := by
  refine toOption_eq_of_ok_iff fun coverage => ?_
  have haccepted : ∀ period, expectedCoverage reports' period = expectedCoverage reports period :=
    fun period => expectedCoverage_congr fun metric => by
      simp only [AcceptedBy, h.flatten.mem_iff]
  rw [mergeCoverage_eq_ok, mergeCoverage_eq_ok, h.problem_iff, funext haccepted]

/-- A further report lowers no count. -/
theorem expectedCoverage_grows (reports : List (List ComparativePeriodValues))
    (report : List ComparativePeriodValues) (period : AnnualPeriod) :
    Grows (expectedCoverage reports period) (expectedCoverage (reports ++ [report]) period) := by
  refine ⟨rfl, List.Sublist.length_le (List.monotone_filter_right _ fun metric haccepted => ?_)⟩
  obtain ⟨record, hrecord, hrest⟩ := of_decide_eq_true haccepted
  refine decide_eq_true ⟨record, ?_, hrest⟩
  rw [List.flatten_append]
  exact List.mem_append_left _ hrecord

/-- The metrics of a record differ, so each value stands for its own. -/
theorem ComparativePeriodValues.eq_of_metric {record : ComparativePeriodValues}
    {value value' : FinancialValue} (h : value ∈ record.values) (h' : value' ∈ record.values)
    (hmetric : value.metric = value'.metric) : value = value' :=
  List.inj_on_of_nodup_map (record.sixMetrics.nodup_iff.mpr (by decide)) h h' hmetric

theorem recordOf_eq_some_iff {records : List ComparativePeriodValues} {period : AnnualPeriod}
    (hperiods : (records.map (·.period)).Nodup) {record : ComparativePeriodValues} :
    recordOf records period = some record ↔ record ∈ records ∧ record.period = period := by
  constructor
  · intro h
    exact ⟨List.mem_reverse.mp (List.mem_of_find?_eq_some h), by simpa using List.find?_some h⟩
  · rintro ⟨hrecord, rfl⟩
    obtain ⟨found, hfound⟩ : ∃ found, recordOf records record.period = some found :=
      Option.isSome_iff_exists.mp
        (List.find?_isSome.mpr ⟨record, List.mem_reverse.mpr hrecord, by simp⟩)
    rw [hfound, List.inj_on_of_nodup_map hperiods
      (List.mem_reverse.mp (List.mem_of_find?_eq_some hfound)) hrecord
      (by simpa using List.find?_some hfound)]

/-- The coverage of one report, by what it accepts. -/
theorem coverageOf_eq_expected {records : List ComparativePeriodValues}
    (hperiods : (records.map (·.period)).Nodup) (period : AnnualPeriod) :
    coverageOf period (recordOf records period) = expectedCoverage [records] period := by
  -- the one record of the period has the accepted metrics
  have hmem : ∀ metric, metric ∈ ((((recordOf records period).map (·.accepted)).getD []).map
      (·.metric)).dedup ↔ AcceptedBy [records] period metric := by
    intro metric
    rw [List.mem_dedup, List.mem_map]
    simp only [AcceptedBy, List.flatten_singleton]
    cases hrecord : recordOf records period with
    | none =>
      constructor
      · rintro ⟨_, hvalue, -⟩
        cases hvalue
      · rintro ⟨record, hmem, hperiod, -⟩
        rw [(recordOf_eq_some_iff hperiods).mpr ⟨hmem, hperiod⟩] at hrecord
        cases hrecord
    | some record =>
      obtain ⟨hmem, hperiod⟩ := (recordOf_eq_some_iff hperiods).mp hrecord
      constructor
      · rintro ⟨value, hvalue, hmetric⟩
        exact ⟨record, hmem, hperiod, value, hvalue, hmetric⟩
      · rintro ⟨record', hmem', hperiod', value, hvalue, hmetric⟩
        rw [(recordOf_eq_some_iff hperiods).mpr ⟨hmem', hperiod'⟩] at hrecord
        cases hrecord
        exact ⟨value, hvalue, hmetric⟩
  -- and each is counted once
  have hlength : ((((recordOf records period).map (·.accepted)).getD []).map
      (·.metric)).dedup.length = (metrics.filter (AcceptedBy [records] period)).length := by
    refine List.Perm.length_eq ((List.perm_ext_iff_of_nodup (List.nodup_dedup _)
      (List.Nodup.filter _ (by decide))).mpr fun metric => ?_)
    rw [hmem, List.mem_filter, decide_eq_true_eq]
    exact ⟨fun h => ⟨by cases metric <;> decide, h⟩, fun h => h.2⟩
  simp only [coverageOf, expectedCoverage, hmem, hlength, ← List.length_eq_zero_iff, ne_eq]

/-- One report of numbers is merged as it is counted alone. -/
theorem mergeCoverage_single {required : List AnnualPeriod}
    {records : List ComparativePeriodValues}
    (hnumbers : ∀ record ∈ records, ∀ value ∈ record.accepted, value.IsNumber) :
    (mergeCoverage required [records]).toOption = (annualCoverage required records).toOption := by
  -- in one report of numbers only the periods can be wrong
  have hclean : ¬ Problem required [records] ↔ (records.map (·.period)).Nodup ∧
      ∀ period ∈ records.map (·.period), period ∈ required := by
    constructor
    · intro hclean
      constructor
      · by_contra hperiods
        exact hclean (.repeated records (List.mem_singleton_self _) hperiods)
      · intro period hperiod
        obtain ⟨record, hrecord, rfl⟩ := List.mem_map.mp hperiod
        by_contra houtside
        exact hclean (.outside record (by simpa using hrecord) houtside)
    · rintro ⟨hperiods, hrequired⟩ hproblem
      cases hproblem with
      | repeated records' hrecords hrepeated =>
        rw [List.mem_singleton.mp hrecords] at hrepeated
        exact hrepeated hperiods
      | outside record hrecord houtside =>
        exact houtside (hrequired _ (List.mem_map_of_mem (by simpa using hrecord)))
      | number record hrecord value hvalue hnumber =>
        exact hnumber (hnumbers record (by simpa using hrecord) value hvalue)
      | conflict record record' hrecord hrecord' hperiod value value' hvalue hvalue' hmetric hdiffer =>
        rw [List.flatten_singleton] at hrecord hrecord'
        obtain rfl := List.inj_on_of_nodup_map hperiods hrecord hrecord' hperiod
        obtain rfl := record.eq_of_metric (List.mem_of_mem_filter hvalue)
          (List.mem_of_mem_filter hvalue') hmetric
        exact hdiffer rfl
  refine toOption_eq_of_ok_iff fun coverage => ?_
  rw [mergeCoverage_eq_ok, hclean]
  simp only [annualCoverage, bind_eq_ok, require_eq_ok, pure_eq_ok,
    dedup_length_eq_iff (List.length_map _)]
  constructor
  · rintro ⟨⟨hperiods, hrequired⟩, rfl⟩
    exact ⟨(), ⟨hperiods, hrequired⟩,
      List.map_congr_left fun period _ => coverageOf_eq_expected hperiods period⟩
  · rintro ⟨-, ⟨hperiods, hrequired⟩, rfl⟩
    exact ⟨⟨hperiods, hrequired⟩,
      List.map_congr_left fun period _ => coverageOf_eq_expected hperiods period⟩

/-! ## What a merge raises -/

theorem checkStep_malformed {required : List AnnualPeriod} {accepted : AcceptedValues}
    {period : AnnualPeriod} {value : FinancialValue} (h : value.Malformed) :
    checkStep required accepted (.value period value) = .error .arithmeticError := by
  obtain ⟨text, htext, hread⟩ := h
  simp only [checkStep, acceptValue, bind_eq_error, fetch_eq_ok, fetch_eq_error]
  exact .inr ⟨text, htext, .inl ⟨hread, trivial⟩⟩

/-- A failed check is a `ValueError`, or a text that is no number. -/
theorem checkStep_error {required : List AnnualPeriod} {accepted : AcceptedValues}
    {check : Check} {e : RunError} (h : checkStep required accepted check = .error e) :
    (∃ message, e = .valueError message) ∨
      ∃ period value, check = .value period value ∧ value.Malformed := by
  cases check with
  | periods records =>
    simp only [checkStep, bind_eq_error, require_eq_error] at h
    obtain ⟨-, rfl⟩ | ⟨_, -, h⟩ := h
    · exact .inl ⟨_, rfl⟩
    · cases h
  | window period =>
    simp only [checkStep, bind_eq_error, require_eq_error] at h
    obtain ⟨-, rfl⟩ | ⟨_, -, h⟩ := h
    · exact .inl ⟨_, rfl⟩
    · cases h
  | value period value =>
    simp only [checkStep, acceptValue, bind_eq_error, fetch_eq_ok, fetch_eq_error,
      require_eq_error] at h
    obtain ⟨-, rfl⟩ | ⟨text, htext, ⟨hread, -⟩ | ⟨_, -, ⟨-, rfl⟩ | ⟨_, -, ⟨-, rfl⟩ | ⟨_, -, h⟩⟩⟩⟩ := h
    · exact .inl ⟨_, rfl⟩
    · exact .inr ⟨period, value, rfl, text, htext, hread⟩
    · exact .inl ⟨_, rfl⟩
    · exact .inl ⟨_, rfl⟩
    · cases h

theorem mergeCoverage_eq_error {required : List AnnualPeriod}
    {reports : List (List ComparativePeriodValues)} {e : RunError} :
    mergeCoverage required reports = .error e ↔
      ∃ before check after accepted, checksOf reports = before ++ check :: after ∧
        before.foldlM (checkStep required) Table.empty = .ok accepted ∧
        checkStep required accepted check = .error e := by
  rw [← foldlM_eq_error, checksOf_fold, mergeCoverage]
  simp only [bind_eq_error]
  constructor
  · rintro (h | ⟨_, -, h⟩)
    · exact h
    · cases h
  · exact .inl

/-- The merge raises `ValueError` only, exactly when no text that is no number is the first
problem. -/
theorem valueErrors_iff {required : List AnnualPeriod}
    {reports : List (List ComparativePeriodValues)} :
    (∀ e, mergeCoverage required reports = .error e → ∃ message, e = .valueError message) ↔
      MalformedGuarded required reports := by
  constructor
  · intro hvalue before period value after hchecks hmalformed
    by_contra hunguarded
    have hfits : ∀ (i : Nat) check, before[i]? = some check →
        Fits required (before.take i) check := by
      intro i check hi
      by_contra hunfit
      obtain ⟨hlt, rfl⟩ := List.getElem?_eq_some_iff.mp hi
      exact hunguarded ⟨before.take i, before[i], before.drop (i + 1), by
        rw [← List.drop_eq_getElem_cons hlt, List.take_append_drop], hunfit⟩
    obtain ⟨accepted, hfold⟩ := checks_fold_ok_iff.mpr hfits
    obtain ⟨message, heq⟩ := hvalue .arithmeticError (mergeCoverage_eq_error.mpr
      ⟨before, _, after, accepted, hchecks, hfold, checkStep_malformed hmalformed⟩)
    cases heq
  · intro hguarded e herror
    obtain ⟨before, check, after, accepted, hchecks, hfold, hstep⟩ :=
      mergeCoverage_eq_error.mp herror
    obtain hmessage | ⟨period, value, rfl, hmalformed⟩ := checkStep_error hstep
    · exact hmessage
    · obtain ⟨earlier, check, later, rfl, hunfit⟩ :=
        hguarded before period value after hchecks hmalformed
      have hfit := checks_fold_ok_iff.mp ⟨accepted, hfold⟩ earlier.length check (by simp)
      rw [List.take_left] at hfit
      exact absurd hfit hunfit

/-- Merging reports is order-free and conflict-exact, and all it raises is a `ValueError`
unless the first problem is an accepted text that is no number. -/
theorem merge_law_iff (required : List AnnualPeriod)
    (reports : List (List ComparativePeriodValues)) :
    MergeLaw required reports ↔ MalformedGuarded required reports := by
  refine ⟨fun law => valueErrors_iff.mp law.valueErrors, fun hguarded => ?_⟩
  constructor
  · exact fun reports' h => mergeCoverage_rearranged h
  · constructor
    · rintro ⟨e, herror⟩
      by_contra hclean
      rw [mergeCoverage_eq_ok.mpr ⟨hclean, rfl⟩] at herror
      cases herror
    · intro hproblem
      cases hmerge : mergeCoverage required reports with
      | error e => exact ⟨e, rfl⟩
      | ok coverage => exact absurd hproblem (mergeCoverage_eq_ok.mp hmerge).1
  · exact valueErrors_iff.mpr hguarded
  · intro coverage hmerge
    rw [(mergeCoverage_eq_ok.mp hmerge).2, List.map_map]
    rfl
  · intro report coverage coverage' hmerge hmerge'
    rw [(mergeCoverage_eq_ok.mp hmerge).2, (mergeCoverage_eq_ok.mp hmerge').2,
      List.forall₂_map_left_iff, List.forall₂_map_right_iff, List.forall₂_same]
    exact fun period _ => expectedCoverage_grows reports report period
  · rintro records rfl hnumbers
    exact mergeCoverage_single hnumbers

namespace Sample

/-- The first of April of one year and the last of March of the next. -/
def fiscalYear : AnnualPeriod :=
  ⟨⟨738610, by decide⟩, ⟨738975, by decide⟩, by decide⟩

/-- A record that accepts a text as the revenue of a year. -/
def revenueRecord (text : String) : ComparativePeriodValues where
  period := fiscalYear
  values := metrics.map fun metric =>
    { metric
      status := if metric = .revenue then .accepted else .unaccepted
      value := if metric = .revenue then some text else none
      currency := .jpy
      scope := .consolidated
      startDate := if metric.isInstant then none else some fiscalYear.startDate
      endDate := fiscalYear.endDate }
  sixMetrics := by rw [List.map_map]; exact List.Perm.refl _
  dated := by simp [metrics, FinancialValue.DatedBy]

end Sample

/-- One record whose only accepted value is the text `x`: what is raised is no `ValueError`. -/
theorem malformed_value_escapes :
    mergeCoverage [Sample.fiscalYear] [[Sample.revenueRecord "x"]] = .error .arithmeticError ∧
      ¬ MergeLaw [Sample.fiscalYear] [[Sample.revenueRecord "x"]] := by
  have herror : mergeCoverage [Sample.fiscalYear] [[Sample.revenueRecord "x"]] =
      .error .arithmeticError := by rfl
  refine ⟨herror, fun law => ?_⟩
  obtain ⟨message, heq⟩ := law.valueErrors _ herror
  cases heq

end StockResearch.Preparation
