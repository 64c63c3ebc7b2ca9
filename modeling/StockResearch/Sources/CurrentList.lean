import StockResearch.Clock.Date
import StockResearch.Lib.Outcome
import StockResearch.Lib.Xml
import StockResearch.Sources.Protocol
import StockResearch.Sources.PyExceptions

/-!
# The current list of the exchange

The list of all listed issues is one sheet of a workbook: an archive with an XML text for
the sheet and one for its strings. Cells name their place and, mostly, the number of a
string. What the ZIP and the XML library do with bytes is a parameter.

- `JpxListedIssue`, `JpxCurrentList`: one row of the list, and the list.
- `Workbook.rowValues`, `issueOf`: the cells of a row, and the issue they stand for.
- `parseCurrentList`: `JpxCurrentListAdapter.parse`.
-/

namespace StockResearch.Sources

/-! ## The list -/

/-- `Literal["Prime", "Standard", "Growth"]` -/
inductive MarketSegment where
  | prime
  | standard
  | growth
deriving DecidableEq

/-- `Literal["eligible", "ineligible", "unknown"]` -/
inductive Eligibility where
  | eligible
  | ineligible
  | unknown
deriving DecidableEq

/-- `^(?:[0-9A-Z]{4}|[0-9]{5})$` -/
def isIssueCode (code : String) : Bool :=
  (code.length == 4 && code.toList.all fun c => c.isDigit || c.isUpper) ||
    (code.length == 5 && code.toList.all Char.isDigit)

/-- `JpxListedIssue` -/
structure JpxListedIssue where
  snapshotOn : String
  code : String
  name : String
  marketProductCategory : String
  industry33Code : Option String
  industry33Name : Option String
  industry17Code : Option String
  industry17Name : Option String
  scaleCode : Option String
  scaleName : Option String
  /-- `issuer_domesticity` is `domestic`, not `unknown`. -/
  domestic : Bool
  /-- `security_class` is `ordinary_common_equity`, not `unknown`. -/
  ordinary : Bool
  eligibility : Eligibility
  marketSegment : Option MarketSegment
  code_valid : isIssueCode code = true
  supported : code.length ≠ 4 → ordinary = false ∧ eligibility = .unknown

/-- `JpxCurrentList` -/
structure JpxCurrentList where
  snapshotOn : String
  issues : List JpxListedIssue
  issues_ne_nil : issues ≠ []
  snapshotOn_valid : (Date.fromisoformat snapshotOn).isSome
  codes_distinct : (issues.map (·.code)).Nodup
  codes_sorted : (issues.map (·.code)).Pairwise (· ≤ ·)
  one_snapshot : ∀ issue ∈ issues, issue.snapshotOn = snapshotOn

/-- `_ELIGIBLE_MARKETS` -/
def eligibleMarkets : List (String × MarketSegment) :=
  [("プライム（内国株式）", .prime), ("スタンダード（内国株式）", .standard),
    ("グロース（内国株式）", .growth)]

/-- `_ELIGIBLE_MARKETS.get(category)` -/
def segmentOf (category : String) : Option MarketSegment :=
  (eligibleMarkets.find? (·.1 = category)).map Prod.snd

/-- `_HEADERS` -/
def listHeaders : List String :=
  ["日付", "コード", "銘柄名", "市場・商品区分", "33業種コード", "33業種区分", "17業種コード",
    "17業種区分", "規模コード", "規模区分"]

/-- `needle in text` -/
def hasInfix {α : Type} [BEq α] (needle text : List α) : Bool :=
  text.tails.any fun rest => needle.isPrefixOf rest

/-- `value or None` -/
def orNone (value : String) : Option String := if value = "" then none else some value

/-! ## Rows to issues -/

/-- `date(year, month, day)`: an argument must fit into a C `int`. -/
def pyDate (year month day : Int) : Except PyException Date := do
  let fits : Int → Prop := fun n => -2147483648 ≤ n ∧ n ≤ 2147483647
  require (fits year ∧ fits month ∧ fits day) .overflowError
  fetch (Date.ofFields? year.toNat month.toNat day.toNat) .valueError

/-- `int(text[start:stop])` -/
def intOf (characters : List Char) : Except PyException Int :=
  fetch (PyInt.ofText (String.ofList characters)) .valueError

/-- The day of a text in the form `YYYYMMDD`. -/
def rowDate (raw : String) : Except PyException Date := do
  let characters := raw.toList
  let year ← intOf (characters.take 4)
  let month ← intOf ((characters.drop 4).take 2)
  let day ← intOf (characters.drop 6)
  pyDate year month day

/-- `JpxListedIssue(...)`, and the checks of the model. -/
def makeIssue (snapshotOn code name category code33 name33 code17 name17 scaleCode scaleName :
    String) : Except PyException JpxListedIssue :=
  let segment := segmentOf category
  if h : isIssueCode code = true then
    .ok {
      snapshotOn
      code
      name
      marketProductCategory := category
      industry33Code := orNone code33
      industry33Name := orNone name33
      industry17Code := orNone code17
      industry17Name := orNone name17
      scaleCode := orNone scaleCode
      scaleName := orNone scaleName
      domestic := hasInfix "（内国株式）".toList category.toList
      ordinary := segment.isSome && code.length == 4
      eligibility := if code.length ≠ 4 then .unknown
        else if segment.isSome then .eligible else .ineligible
      marketSegment := segment
      code_valid := h
      supported := fun hlength => by simp [hlength] }
  else .error .valueError

/-- `_issue` -/
def issueOf : List String → Except PyException JpxListedIssue
  | [rawDate, code, name, category, code33, name33, code17, name17, scaleCode, scaleName] => do
    require (rawDate ≠ "" ∧ code ≠ "" ∧ name ≠ "" ∧ category ≠ "") .valueError
    let snapshot ← rowDate rawDate
    makeIssue snapshot.isoformat code name category code33 name33 code17 name17 scaleCode scaleName
  | _ => .error .valueError

/-- `zipfile.ZipFile(...).namelist()`, `archive.read(name)` and `ElementTree.fromstring`. -/
structure WorkbookLibraries where
  namelist : List UInt8 → Except ZipError (List String)
  read : List UInt8 → String → Except ZipError (List UInt8)
  fromstring : List UInt8 → Except XmlError XmlElement

namespace Workbook

/-- `x:name` -/
def tag (name : String) : XmlName :=
  ⟨"http://schemas.openxmlformats.org/spreadsheetml/2006/main", name⟩

/-- The bytes of an ASCII text. -/
def ascii (text : String) : List UInt8 := text.toList.map fun c => UInt8.ofNat c.toNat

/-- `root.findall("x:si")` -/
def items (root : XmlElement) : List XmlElement := root.elements (tag "si")

/-- `root.findall(".//x:sheetData/x:row")` -/
def rowElements (root : XmlElement) : List XmlElement :=
  (root.descendants.filter (·.tag = tag "sheetData")).flatMap (·.elements (tag "row"))

/-- `row.findall("x:c")` -/
def cells (row : XmlElement) : List XmlElement := row.elements (tag "c")

/-- `_CELL.fullmatch`: the column, and the digits of the row. -/
def reference? (text : String) : Option (Nat × List Char) :=
  match text.toList with
  | letter :: first :: rest =>
    if ('A' ≤ letter ∧ letter ≤ 'J') ∧ ('1' ≤ first ∧ first ≤ '9') ∧ rest.all Char.isDigit then
      some (letter.toNat - 'A'.toNat, first :: rest)
    else none
  | _ => none

/-- `cell.attrib.get("r", "")`, matched. -/
def cellReference (cell : XmlElement) : Option (Nat × List Char) :=
  reference? ((cell.get ⟨"", "r"⟩).getD "")

/-- The text of the value of a cell. -/
def valueText (cell : XmlElement) : String := (cell.text? (tag "v")).getD ""

/-- The value of a cell is the number of a string. -/
def isShared (cell : XmlElement) : Prop := cell.get ⟨"", "t"⟩ = some "s"

instance (cell : XmlElement) : Decidable (isShared cell) := inferInstanceAs (Decidable (_ = _))

/-- `xs[index]` -/
def pyIndex {α : Type} (xs : List α) (index : Int) : Option α :=
  if 0 ≤ index then xs[index.toNat]?
  else if 0 ≤ xs.length + index then xs[(xs.length + index).toNat]? else none

/-- The checks of the place of a cell, and its column. -/
def cellColumn (row cell : XmlElement) : Except PyException Nat := do
  let (column, digits) ← fetch (cellReference cell) .valueError
  let number ← intOf digits
  let declared ← fetch (row.get ⟨"", "r"⟩) .keyError
  let rowNumber ← intOf declared.toList
  require (number = rowNumber) .valueError
  pure column

/-- What a cell holds. -/
def cellValue (shared : List String) (cell : XmlElement) : Except PyException String :=
  if isShared cell then do
    let index ← intOf (valueText cell).toList
    fetch (pyIndex shared index) .indexError
  else pure (valueText cell)

/-- One round of the loop over the cells. -/
def readCell (shared : List String) (row : XmlElement) (values : List String)
    (cell : XmlElement) : Except PyException (List String) := do
  let column ← cellColumn row cell
  let value ← cellValue shared cell
  pure (values.set column value)

/-- One round of the loop over the rows. -/
def rowValues (shared : List String) (row : XmlElement) : Except PyException (List String) :=
  (cells row).foldlM (readCell shared row) (List.replicate 10 "")

variable (libraries : WorkbookLibraries)

/-- `_shared_strings`, up to the items. -/
def sharedItems (body : List UInt8) : Except PyException (List XmlElement) := do
  require (¬ (hasInfix (ascii "<!DOCTYPE") body || hasInfix (ascii "<!ENTITY") body)) .valueError
  let root ← (libraries.fromstring body).mapError (·.raised)
  pure (items root)

/-- `_shared_strings` -/
def sharedStrings (items : List XmlElement) : List String := items.map (·.itertext)

/-- `_rows`, up to the row elements. -/
def sheetRows (body : List UInt8) : Except PyException (List XmlElement) := do
  let root ← (libraries.fromstring body).mapError (·.raised)
  pure (rowElements root)

/-- `name.endswith("vbaProject.bin")`, `name.startswith("/")` or `".." in name.split("/")` -/
def isForbidden (name : String) : Bool :=
  "vbaProject.bin".toList.isSuffixOf name.toList || name.toList.head? = some '/' ||
    ".." ∈ split '/' name

/-- The string items and the row elements of an archive. -/
def openWorkbook (body : List UInt8) : Except PyException (List XmlElement × List XmlElement) := do
  let names ← (libraries.namelist body).mapError (·.raised)
  require ("xl/sharedStrings.xml" ∈ names ∧ "xl/worksheets/sheet1.xml" ∈ names ∧
    ¬ names.any isForbidden) .valueError
  let strings ← (libraries.read body "xl/sharedStrings.xml").mapError (·.raised)
  let items ← sharedItems libraries strings
  let sheet ← (libraries.read body "xl/worksheets/sheet1.xml").mapError (·.raised)
  let elements ← sheetRows libraries sheet
  pure (items, elements)

end Workbook

/-- `except ElementTree.ParseError, KeyError, ValueError, zipfile.BadZipFile` -/
def isListError : PyException → Bool
  | .xmlParseError | .keyError | .valueError | .badZipFile => true
  | _ => false

end StockResearch.Sources
