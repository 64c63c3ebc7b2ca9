import StockResearch.Clock.Spelling
import StockResearch.Contracts.Values
import StockResearch.Sources.Protocol
import StockResearch.Sources.PyExceptions

/-!
# The BOJ series of exchange rates

The adapter reads the JSON of one request for a range of months. The text is read twice:
once with hooks that build decimals and refuse repeated keys, and once plainly, to compare
what the provider says it was asked. What the JSON library does with a text is a parameter,
and so is which exponents `Decimal` can hold.

- `JsonTree`, `JsonReading`: a JSON text, and what the library makes of it.
- `BojSeries`: what the adapter returns; `parseForIntent`: the code.
-/

namespace StockResearch.Sources

open Requests
open Contracts (PyStr)
open Contracts.PyStr (ofString)

/-! ## JSON texts -/

/-- A number with a fraction or an exponent, as it is written. -/
structure JsonNumber where
  negative : Bool
  /-- The digits on both sides of the point, as one number. -/
  digits : Nat
  places : Nat
  exponent : Int
deriving DecidableEq

/-- The number that is written. -/
def JsonNumber.value (number : JsonNumber) : ℚ :=
  (if number.negative then -1 else 1) * number.digits * 10 ^ (number.exponent - number.places)

/-- A JSON text that is one value; a constant is `NaN` or an infinity. -/
inductive JsonTree where
  | null
  | bool (value : Bool)
  | int (value : Int)
  | number (value : JsonNumber)
  | constant
  | str (value : PyStr)
  | list (items : List JsonTree)
  | dict (entries : List (PyStr × JsonTree))

/-- A call of one of the hooks. -/
inductive JsonCall where
  | float (number : JsonNumber)
  | constant
  | pairs (keys : List PyStr)
deriving DecidableEq

mutual

/-- The calls of the hooks while a value is read, in their order. -/
def JsonTree.calls : JsonTree → List JsonCall
  | .null | .bool _ | .int _ | .str _ => []
  | .number value => [.float value]
  | .constant => [.constant]
  | .list items => itemCalls items
  | .dict entries => entryCalls entries ++ [.pairs (entries.map Prod.fst)]

def itemCalls : List JsonTree → List JsonCall
  | [] => []
  | item :: items => item.calls ++ itemCalls items

def entryCalls : List (PyStr × JsonTree) → List JsonCall
  | [] => []
  | (_, value) :: entries => value.calls ++ entryCalls entries

end

/-- What the JSON library makes of a text: a value, or a `ValueError` after some calls. -/
inductive JsonReading where
  | complete (tree : JsonTree)
  | broken (calls : List JsonCall)

def JsonReading.calls : JsonReading → List JsonCall
  | complete tree => tree.calls
  | broken calls => calls

/-- What is used of the language: `str.lower`, `bytes.decode` of UTF-8, `json.loads`, whether
`Decimal` holds a number as it is written, and the offset of `datetime.fromisoformat(text)`;
none is its `ValueError`. -/
structure BojLibrary where
  lower : String → String
  decode : List UInt8 → Option PyStr
  jsonLoads : PyStr → JsonReading
  holds : JsonNumber → Bool
  utcoffset : PyStr → Option (Option Int)

/-! ## Exceptions -/

/-- What the adapter raises. -/
inductive BojError where
  /-- `BojCodeApiParseError(text)` -/
  | parseError (text : String)
  /-- `ValueError("invalid_boj_fx_intent")` -/
  | invalidIntent
  /-- One of another class. -/
  | other (exception : PyException)
deriving DecidableEq

/-- The classes of the `except` clause of `parse`, but for its own error. -/
def BojError.sanitized : BojError → BojError
  | .other .keyError | .other .typeError | .other .valueError => .parseError "boj_code_api_invalid"
  | error => error

/-- What a strict model raises: `ValidationError`, a `ValueError`. -/
def invalidModel : BojError := .other .valueError

/-! ## The hooks -/

/-- `Decimal`, `parse_constant` and `_unique_json_object` -/
def bojHook (lib : BojLibrary) : JsonCall → Except BojError Unit
  | .float number => require (lib.holds number = true) (.other .invalidOperation)
  | .constant => .error (.other .valueError)
  | .pairs keys => require keys.Nodup (.parseError "boj_code_api_invalid")

/-- `json.loads` with the hooks. -/
def bojLoads (lib : BojLibrary) (text : PyStr) : Except BojError JsonTree := do
  (lib.jsonLoads text).calls.forM (bojHook lib)
  match lib.jsonLoads text with
  | .complete tree => pure tree
  | .broken _ => .error (.other .valueError)

/-- `json.loads` of the bytes, without hooks. -/
def plainLoads (lib : BojLibrary) (body : List UInt8) : Except BojError JsonTree := do
  let text ← fetch (lib.decode body) (.other .valueError)
  match lib.jsonLoads text with
  | .complete tree => pure tree
  | .broken _ => .error (.other .valueError)

/-! ## Strict models -/

/-- The value of a key. -/
def entry (entries : List (PyStr × JsonTree)) (name : String) : Option JsonTree :=
  (entries.find? fun entry => decide (entry.1 = ofString name)).map (·.2)

/-- An object with these fields and no other. -/
def strictDict (names : List String) : JsonTree → Except BojError (List (PyStr × JsonTree))
  | .dict entries => do
    require (∀ entry ∈ entries, names.any (fun name => entry.1 = ofString name) = true) invalidModel
    require (∀ name ∈ names, (entry entries name).isSome = true) invalidModel
    pure entries
  | _ => .error invalidModel

/-- A field. -/
def fieldOf (entries : List (PyStr × JsonTree)) (name : String) : Except BojError JsonTree :=
  fetch (entry entries name) invalidModel

/-- `str`, which may hold surrogates. -/
def strictText : JsonTree → Except BojError PyStr
  | .str value => pure value
  | _ => .error invalidModel

/-- `Literal[text]` -/
def literalText (text : String) : JsonTree → Except BojError Unit
  | .str value => require (value = ofString text) invalidModel
  | _ => .error invalidModel

/-- `int` -/
def strictInt : JsonTree → Except BojError Int
  | .int value => pure value
  | _ => .error invalidModel

/-- A list, where `strict` is off for a tuple. -/
def items : JsonTree → Except BojError (List JsonTree)
  | .list items => pure items
  | _ => .error invalidModel

/-- `_RawParameters`, but for its literals. -/
structure RawParameters where
  startDate : PyStr
  endDate : PyStr
  startPosition : PyStr
deriving DecidableEq

def RawParameters.validate (tree : JsonTree) : Except BojError RawParameters := do
  let entries ← strictDict ["FORMAT", "LANG", "DB", "STARTDATE", "ENDDATE", "STARTPOSITION"] tree
  literalText "JSON" (← fieldOf entries "FORMAT")
  literalText "EN" (← fieldOf entries "LANG")
  literalText "FM08" (← fieldOf entries "DB")
  let startDate ← strictText (← fieldOf entries "STARTDATE")
  let endDate ← strictText (← fieldOf entries "ENDDATE")
  let startPosition ← strictText (← fieldOf entries "STARTPOSITION")
  pure { startDate, endDate, startPosition }

/-- A value of `VALUES`: `Decimal | int | None`. -/
inductive RawValue where
  | null
  | int (value : Int)
  | decimal (value : JsonNumber)
deriving DecidableEq

def RawValue.validate : JsonTree → Except BojError RawValue
  | .null => pure .null
  | .int value => pure (.int value)
  | .number value => pure (.decimal value)
  | _ => .error invalidModel

/-- The number of a value, exactly; a missing value has none. -/
def RawValue.exact : RawValue → Option ℚ
  | null => none
  | int value => some value
  | decimal value => some value.value

/-- `_RawValues`, with one value for each date. -/
structure RawValues where
  surveyDates : List Int
  values : List RawValue
  aligned : surveyDates.length = values.length

def RawValues.validate (tree : JsonTree) : Except BojError RawValues := do
  let entries ← strictDict ["SURVEY_DATES", "VALUES"] tree
  let surveyDates ← (← items (← fieldOf entries "SURVEY_DATES")).mapM strictInt
  let values ← (← items (← fieldOf entries "VALUES")).mapM RawValue.validate
  if aligned : surveyDates.length = values.length then pure { surveyDates, values, aligned }
  else .error invalidModel

/-- `_RawSeries`, but for its literals. -/
structure RawSeries where
  nameOfTimeSeries : PyStr
  unit : PyStr
  category : PyStr
  lastUpdate : Int
  values : RawValues

def RawSeries.validate (tree : JsonTree) : Except BojError RawSeries := do
  let entries ← strictDict ["SERIES_CODE", "NAME_OF_TIME_SERIES", "UNIT", "FREQUENCY", "CATEGORY",
    "LAST_UPDATE", "VALUES"] tree
  literalText "FXERD04" (← fieldOf entries "SERIES_CODE")
  let nameOfTimeSeries ← strictText (← fieldOf entries "NAME_OF_TIME_SERIES")
  let unit ← strictText (← fieldOf entries "UNIT")
  literalText "DAILY" (← fieldOf entries "FREQUENCY")
  let category ← strictText (← fieldOf entries "CATEGORY")
  let lastUpdate ← strictInt (← fieldOf entries "LAST_UPDATE")
  let values ← RawValues.validate (← fieldOf entries "VALUES")
  pure { nameOfTimeSeries, unit, category, lastUpdate, values }

/-- `_RawResponse`, but for its literals and its messages, with the one series of its set. -/
structure RawResponse where
  date : PyStr
  parameter : RawParameters
  series : RawSeries

/-- `NEXTPOSITION: None` -/
def requireNull : JsonTree → Except BojError Unit
  | .null => pure ()
  | _ => .error invalidModel

/-- `Literal[200]` -/
def requireOk : JsonTree → Except BojError Unit
  | .int value => require (value = 200) invalidModel
  | _ => .error invalidModel

/-- `min_length=1, max_length=1` -/
def single : List JsonTree → Except BojError JsonTree
  | [item] => pure item
  | _ => .error invalidModel

def RawResponse.validate (tree : JsonTree) : Except BojError RawResponse := do
  let entries ← strictDict ["STATUS", "MESSAGEID", "MESSAGE", "DATE", "PARAMETER", "NEXTPOSITION",
    "RESULTSET"] tree
  requireOk (← fieldOf entries "STATUS")
  let _ ← strictText (← fieldOf entries "MESSAGEID")
  let _ ← strictText (← fieldOf entries "MESSAGE")
  let date ← strictText (← fieldOf entries "DATE")
  let parameter ← RawParameters.validate (← fieldOf entries "PARAMETER")
  requireNull (← fieldOf entries "NEXTPOSITION")
  let series ← RawSeries.validate (← single (← items (← fieldOf entries "RESULTSET")))
  pure { date, parameter, series }

/-! ## The series -/

/-- `_parse_day`; no day is read from the eight characters of a negative number. -/
def parseDay (value : Int) : Except BojError Date := do
  let text := (toString value).toList
  require (text.length = 8) (.other .valueError)
  let year ← fetch (Date.number (text.take 4)) (.other .valueError)
  let month ← fetch (Date.number ((text.drop 4).take 2)) (.other .valueError)
  let day ← fetch (Date.number (text.drop 6)) (.other .valueError)
  fetch (Date.ofFields? year month day) (.other .valueError)

/-- `BojFxObservation` -/
structure BojFxObservation where
  observedOn : String
  value : Option ℚ
deriving DecidableEq

/-- `BojFxObservation(observed_on=…, value=…)` -/
def observationOf (date : Int) (value : RawValue) : Except BojError BojFxObservation := do
  let day ← parseDay date
  require ((Date.fromisoformat day.isoformat).isSome = true) invalidModel
  pure ⟨day.isoformat, value.exact⟩

/-- `Field(min_length=1, max_length=limit)`, which takes Unicode text only. -/
def isBounded (limit : Nat) (value : PyStr) : Bool :=
  value.decode?.any fun text => 1 ≤ text.length ∧ text.length ≤ limit

/-- `BojFxDailySeries`, but for its literals. -/
structure BojFxDailySeries where
  unit : PyStr
  name : PyStr
  category : PyStr
  generatedAt : PyStr
  lastUpdate : String
  observations : List BojFxObservation
deriving DecidableEq

/-- The checks of `BojFxDailySeries`. -/
def BojFxDailySeries.check (lib : BojLibrary) (series : BojFxDailySeries) :
    Except BojError Unit := do
  require (isBounded 128 series.unit = true) invalidModel
  require (isBounded 512 series.name = true) invalidModel
  require (isBounded 512 series.category = true) invalidModel
  -- `timedelta(hours=9)`
  require (lib.utcoffset series.generatedAt = some (some 32400)) invalidModel
  require ((Date.fromisoformat series.lastUpdate).isSome = true) invalidModel
  let dates := series.observations.map (·.observedOn)
  require (dates = dates.insertionSort (· ≤ ·) ∧ dates.Nodup) invalidModel

/-- The series of a validated response. -/
def seriesOf (lib : BojLibrary) (raw : RawResponse) : Except BojError BojFxDailySeries := do
  let observations ← (raw.series.values.surveyDates.zip raw.series.values.values).mapM fun pair =>
    observationOf pair.1 pair.2
  let lastUpdate ← parseDay raw.series.lastUpdate
  let series : BojFxDailySeries :=
    { unit := raw.series.unit, name := raw.series.nameOfTimeSeries, category := raw.series.category
      generatedAt := raw.date, lastUpdate := lastUpdate.isoformat, observations }
  series.check lib
  pure series

/-- The body of the `try` of `parse`. -/
def parseBody (lib : BojLibrary) (body : List UInt8) : Except BojError BojFxDailySeries := do
  let text ← fetch (lib.decode body) (.other .valueError)
  let tree ← bojLoads lib text
  let raw ← RawResponse.validate tree
  seriesOf lib raw

section

variable {sha256 : List UInt8 → String}

/-- `parse` -/
def parseBoj (lib : BojLibrary) (response : BoundedSourceResponse sha256) :
    Except BojError BojFxDailySeries := do
  require (response.mediaType = "application/json" ∧ lib.lower response.encoding = "utf-8")
    (.parseError "boj_code_api_invalid")
  (parseBody lib response.body).mapError BojError.sanitized

/-! ## Intents -/

/-- `_parse_month` -/
def parseMonth (value : String) : Option Date := do
  if value.toList.length = 6 ∧ value.toList.all Char.isDigit then
    let year ← Date.number (value.toList.take 4)
    let month ← Date.number (value.toList.drop 4)
    Date.ofFields? year month 1
  else none

/-- The names of the parameters of an intent. -/
def bojNames : List String := ["code", "db", "end_date", "format", "lang", "start_date"]

/-- `tuple(values)`, of the dictionary of the parameters. -/
def parameterNames (parameters : List SourceParameter) : List String :=
  (parameters.map (·.name.text)).eraseDups

/-- `values[name]`, where a later parameter replaces an earlier one. -/
def parameterOf (parameters : List SourceParameter) (name : String) : String :=
  ((parameters.reverse.find? (·.name.text = name)).map (·.value)).getD ""

/-- `build_intent` -/
def buildIntent (operation : String) (parameters : List SourceParameter) :
    Except BojError CredentialFreeSourceIntent := do
  require (operation = "fx-daily-code" ∧ parameterNames parameters = bojNames) .invalidIntent
  require (parameterOf parameters "code" = "FXERD04" ∧ parameterOf parameters "db" = "FM08" ∧
    parameterOf parameters "format" = "json" ∧ parameterOf parameters "lang" = "en") .invalidIntent
  let start ← fetch (parseMonth (parameterOf parameters "start_date")) .invalidIntent
  let stop ← fetch (parseMonth (parameterOf parameters "end_date")) .invalidIntent
  require (start.ordinal ≤ stop.ordinal) .invalidIntent
  if canonical : (parameters.map (·.name.text)).Pairwise (· < ·) then
    pure
      { sourceId := ⟨"boj", .refl true⟩, operation := ⟨"fx-daily-code", .refl true⟩
        origin := ⟨"www.stat-search.boj.or.jp", .refl true⟩
        resourceKey := ⟨"api-v1-getDataCode", .refl true⟩, parameters, canonical }
  else .error invalidModel

/-! ## Responses to an intent -/

/-- `value[name]`; the last of two equal keys counts. -/
def subscript (name : String) : JsonTree → Except BojError JsonTree
  | .dict entries => fetch (entry entries.reverse name) (.other .keyError)
  | _ => .error (.other .typeError)

/-- `value == text` -/
def isText (text : String) : JsonTree → Bool
  | .str value => value = ofString text
  | _ => false

/-- `observed_on.replace("-", "")[:6]` -/
def observedMonth (observedOn : String) : String :=
  String.ofList ((observedOn.toList.filter (· ≠ '-')).take 6)

/-- `"boj_response_semantics_mismatch"` -/
def mismatch : BojError := .parseError "boj_response_semantics_mismatch"

/-- `parse_for_intent`, after `parse`. -/
def checkSemantics (lib : BojLibrary) (body : List UInt8) (parameters : List SourceParameter)
    (series : BojFxDailySeries) : Except BojError Unit := do
  let payload ← plainLoads lib body
  let answered ← subscript "PARAMETER" payload
  let start := parameterOf parameters "start_date"
  let stop := parameterOf parameters "end_date"
  require (isText start (← subscript "STARTDATE" answered) = true) mismatch
  require (isText stop (← subscript "ENDDATE" answered) = true) mismatch
  require (isText "" (← subscript "STARTPOSITION" answered) = true) mismatch
  require (series.unit = ofString "Yen per U.S. Dollar") mismatch
  require (series.name = ofString "US.Dollar/Yen Spot Rate at 17:00 in JST, Tokyo Market") mismatch
  require (∀ item ∈ series.observations, start ≤ observedMonth item.observedOn ∧
    observedMonth item.observedOn ≤ stop) mismatch

/-- `parse_for_intent` -/
def parseForIntent (lib : BojLibrary) (response : BoundedSourceResponse sha256)
    (intent : CredentialFreeSourceIntent) : Except BojError BojFxDailySeries := do
  let built ← buildIntent intent.operation.text intent.parameters
  require (intent = built) (.parseError "boj_intent_mismatch")
  let series ← parseBoj lib response
  checkSemantics lib response.body intent.parameters series
  pure series

end

end StockResearch.Sources
