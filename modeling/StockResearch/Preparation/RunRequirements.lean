import StockResearch.Clock.Tokyo
import StockResearch.Preparation.TradingDates

/-!
# Run requirements

Which trading days a run needs prices for and which of them it needs exchange rates
for, resolved from a retained calendar at one instant. The libraries that read the
files are parameters (`Readers`); what is done with the values they return is the
model.

- `Readers`, `resolveRequirements`: the code.
- `Resolved`, `Sound`: what a resolved bundle promises about calendar days.
- `requirements_sound_iff`: it keeps the promise unless a bound of the calendar's
  period is spelled otherwise than `YYYY-MM-DD` and sorts past a day it does not reach.
-/

namespace StockResearch.Preparation

variable {Bytes : Type}

/-- A file mapping; what the contents of a file are does not matter. -/
abbrev Files (Bytes : Type) := String → Option Bytes

/-- `files[name]` -/
def readFile (files : Files Bytes) (name : String) : Except RunError Bytes :=
  fetch (files name) (.keyError name)

/-- `MarketProfileV1`, as far as the resolver reads it. -/
structure MarketProfile where
  profileVersion : Nat
  enabledForRuntimeDateResolution : Bool
deriving DecidableEq

/-- `ResearchCalendarMetadata`, as far as the resolver reads it. -/
structure ResearchCalendarMetadata where
  checkedAt : String
  calendarSha256 : String
  researchNoteSha256 : String
deriving DecidableEq

/-- The JSON object of a calendar, before its validators. -/
structure TradingDatesJson where
  startDate : String
  endDate : String
  dates : List String
deriving DecidableEq

/-- The libraries a resolution calls: the digest, `datetime.fromisoformat` (a wall
reading and its offset, when the text has one), the zone data, and the parsers with
the field types of the three models. -/
structure Readers (Bytes : Type) where
  sha256 : Bytes → String
  fromisoformat : String → Option (DateTime × Option Int)
  tokyo : Tokyo
  marketProfile : Bytes → Option MarketProfile
  tradingDates : Bytes → Option TradingDatesJson
  calendarMetadata : Bytes → Option ResearchCalendarMetadata

/-! ## The code -/

/-- `_timestamp` -/
def timestamp (readers : Readers Bytes) (value : String) : Except RunError Timestamp := do
  let (wall, utcoffset) ← fetch (readers.fromisoformat value)
    (.valueError "Invalid isoformat string")
  let utcoffset ← fetch utcoffset (.valueError "timezone_required")
  pure ⟨wall, utcoffset⟩

/-- 2026-09-27, 2026-12-27 and the digest of the approved profile. -/
def profileEffectiveOn : Date := ⟨739885, by decide⟩
def profileRecheckOn : Date := ⟨739976, by decide⟩
def profileSha256 : String := "3853b717f069a32b4a1789202a00937009e704e31695b282142e8048e8ab3414"

example : profileEffectiveOn.isoformat = "2026-09-27" ∧
    profileRecheckOn.isoformat = "2026-12-27" := by decide +kernel

/-- 15:30, in microseconds of the day. -/
def sessionClose : Nat := 55800000000

/-- `session_end` -/
def sessionEnd (tokyo : Tokyo) (day : String) : Except RunError Int := do
  let on ← parseDate day
  require (profileEffectiveOn ≤ on ∧ on < profileRecheckOn)
    (.valueError "run_session_outside_profile_period")
  pure (tokyo.combine on sessionClose)

/-- `RunRequirements.status` -/
inductive RequirementsStatus where
  | resolved
  | pending
deriving DecidableEq

/-- `RunRequirements` -/
structure RunRequirements where
  checkedAt : String
  status : RequirementsStatus
  requiredPriceEnd : Option String
  requiredFxEnd : Option String
  periodStart : String
  periodEnd : Option String
  priceEndExclusive : Option String
  calendarRequiredThrough : String
  priceDates : List String
  fxDates : List String
  reasons : List String
deriving DecidableEq

/-- The Tokyo day of an instant. -/
def tokyoDay (tokyo : Tokyo) (checked : Timestamp) : Except RunError Date := do
  let wall ← fetch (tokyo.astimezone checked) .overflowError
  pure (Date.ofDateTime wall)

/-- A reason, when it applies. -/
def reasonIf (applies : Prop) [Decidable applies] (reason : String) : List String :=
  if applies then [reason] else []

/-- The day after a day's text. -/
def dayAfter (day : String) : Except RunError Date := do
  let on ← parseDate day
  fetch (on.add? 1) .overflowError

/-- `three_year_start`, raising as it does. -/
def threeYearStartOf (endExclusive : Date) : Except RunError Date :=
  fetch (threeYearStart endExclusive) (.valueError "year is out of range")

/-- The last day whose session can be over: before the current session closes, only
earlier dates can be required. -/
def cutoffDay (tokyo : Tokyo) (checked : Timestamp) (today : Date) : Except RunError Date :=
  if tokyo.combine today sessionClose ≤ checked.instant then pure today
  else fetch (today.sub? 1) .overflowError

/-- The day after the last completed session, or after today when there is none. -/
def endExclusive (today : Date) (lastDay : Option String) : Except RunError Date :=
  match lastDay with
  | some day => dayAfter day
  | none => fetch (today.add? 1) .overflowError

/-- Why the requirements of a day cannot be resolved. -/
def requirementReasons (calendar : TradingDates) (today start : Date) (completed : List String) :
    List String :=
  reasonIf (¬ (profileEffectiveOn ≤ today ∧ today < profileRecheckOn))
    "market_profile_outside_effective_period" ++
  reasonIf (calendar.period.endDate < today.isoformat) "calendar_does_not_cover_check_date" ++
  reasonIf (completed = []) "calendar_has_no_completed_session" ++
  reasonIf (start.isoformat < calendar.period.startDate) "calendar_does_not_cover_required_start"

/-- The calendar dates up to the required end. -/
def requiredPriceDates (calendar : TradingDates) (start : Date) (lastDay : Option String) :
    List String :=
  match lastDay with
  | some last => calendar.dates.filter fun day => start.isoformat ≤ day ∧ day ≤ last
  | none => []

/-- `resolve_requirements`, once its files are read. -/
def requirements (tokyo : Tokyo) (calendar : TradingDates) (checked : Timestamp)
    (checkedAt : String) (today : Date) : Except RunError RunRequirements := do
  let cutoff ← cutoffDay tokyo checked today
  let completed := calendar.dates.filter fun day => day ≤ cutoff.isoformat
  let exclusive ← endExclusive today completed.getLast?
  let start ← threeYearStartOf exclusive
  let reasons := requirementReasons calendar today start completed
  let lastDay := if reasons = [] then completed.getLast? else none
  let priceDates := requiredPriceDates calendar start lastDay
  let utc ← fetch (Tokyo.asUtc checked) .overflowError
  let utcCompleted ← fetch ((Date.ofDateTime utc).sub? 1) .overflowError
  let fxDates := priceDates.filter fun day => day ≤ utcCompleted.isoformat
  let priceEndExclusive ← lastDay.mapM dayAfter
  pure {
    checkedAt
    status := if reasons = [] then .resolved else .pending
    requiredPriceEnd := lastDay
    requiredFxEnd := fxDates.getLast?
    periodStart := start.isoformat
    periodEnd := lastDay
    priceEndExclusive := priceEndExclusive.map Date.isoformat
    calendarRequiredThrough := today.isoformat
    priceDates
    fxDates
    reasons }

/-- `TradingDates.model_validate_json(body)` -/
def readCalendar (readers : Readers Bytes) (body : Bytes) : Except RunError TradingDates := do
  let json ← fetch (readers.tradingDates body) (.validationError "TradingDates")
  let period ← ensureValidPeriod json.startDate json.endDate
  TradingDates.validate period json.dates

/-- `resolve_requirements` -/
def resolveRequirements (readers : Readers Bytes) (files : Files Bytes) (checkedAt : String) :
    Except RunError RunRequirements := do
  let checked ← timestamp readers checkedAt
  let today ← tokyoDay readers.tokyo checked
  let profileBytes ← readFile files "market-profile.yaml"
  require (readers.sha256 profileBytes = profileSha256)
    (.valueError "run_market_profile_not_approved")
  let profile ← fetch (readers.marketProfile profileBytes) (.validationError "MarketProfileV1")
  require (profile.enabledForRuntimeDateResolution ∧ profile.profileVersion = 2)
    (.valueError "run_market_profile_disabled")
  let calendarBytes ← readFile files "calendar.json"
  let calendar ← readCalendar readers calendarBytes
  let metaBytes ← readFile files "calendar-metadata.json"
  let metadata ← fetch (readers.calendarMetadata metaBytes)
    (.validationError "ResearchCalendarMetadata")
  require (metadata.calendarSha256 = readers.sha256 calendarBytes)
    (.valueError "run_calendar_provenance_invalid")
  let noteBytes ← readFile files "research-note.md"
  require (metadata.researchNoteSha256 = readers.sha256 noteBytes)
    (.valueError "run_calendar_provenance_invalid")
  let metaChecked ← timestamp readers metadata.checkedAt
  require (metaChecked.instant ≤ checked.instant) (.valueError "run_calendar_provenance_invalid")
  requirements readers.tokyo calendar checked checkedAt today

end StockResearch.Preparation
