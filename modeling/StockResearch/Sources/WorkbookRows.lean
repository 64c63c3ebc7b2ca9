import Mathlib.Data.List.Induction
import StockResearch.Clock.Spelling
import StockResearch.Lib.Related
import StockResearch.Sources.CurrentList

/-!
# The rows of a workbook

What the parser reads of a sheet: a cell that names no place or no string stops it, of the
cells of one column the last one counts, and the rows after the header must be issues of one
day in the order of their codes.

- `InPlace`, `ReadableCell`: the cells that can be read.
- `columnText`, `rowTexts`: the texts that are read of a row.
- `Carries`, `IsIssue`: the issue that some texts make, and the texts that make one.
- `Acceptable`, `accepted_iff`: the sheets that the parser accepts.
-/

namespace StockResearch.Sources

/-! ## The cells of a row -/

namespace Workbook

/-- A cell names a column of the sheet, and the row it is in. -/
def InPlace (row cell : XmlElement) (column : Nat) : Prop :=
  ∃ digits declared number, cellReference cell = some (column, digits) ∧
    row.get ⟨"", "r"⟩ = some declared ∧ PyInt.ofText (String.ofList digits) = some number ∧
    PyInt.ofText declared = some number

/-- Python reads an index from the end if it is negative. -/
def Indexes (count : Nat) (index : Int) : Prop := -count ≤ index ∧ index < count

/-- A cell that can be read: it is in its place, and numbers an item from one of its ends. -/
def ReadableCell (items : List XmlElement) (row cell : XmlElement) : Prop :=
  (∃ column, InPlace row cell column) ∧ (isShared cell →
    ∃ number, PyInt.ofText (valueText cell) = some number ∧ Indexes items.length number)

end Workbook

/-! ## The texts of a row -/

namespace Workbook

end Workbook

open Workbook

/-! ## The issue of a row -/

/-- An issue whose fields are the contents of a row. -/
structure Carries (contents : Nat → String) (issue : JpxListedIssue) : Prop where
  day : ∃ day, rowDate (contents 0) = .ok day ∧ issue.snapshotOn = day.isoformat
  code : issue.code = contents 1
  name : issue.name = contents 2
  category : issue.marketProductCategory = contents 3
  industry33Code : issue.industry33Code = orNone (contents 4)
  industry33Name : issue.industry33Name = orNone (contents 5)
  industry17Code : issue.industry17Code = orNone (contents 6)
  industry17Name : issue.industry17Name = orNone (contents 7)
  scaleCode : issue.scaleCode = orNone (contents 8)
  scaleName : issue.scaleName = orNone (contents 9)

theorem orNone_injective {a b : String} (h : orNone a = orNone b) : a = b := by
  unfold orNone at h
  split at h <;> split at h <;> simp_all

/-- The texts of a row make an issue of a day. -/
structure IsIssue (texts : Nat → String) (day : Date) : Prop where
  date : texts 0 ≠ "" ∧ rowDate (texts 0) = .ok day
  code : texts 1 ≠ "" ∧ isIssueCode (texts 1) = true
  name : texts 2 ≠ ""
  category : texts 3 ≠ ""

theorem JpxCurrentList.increasing (list : JpxCurrentList) :
    (list.issues.map (·.code)).Pairwise (· < ·) :=
  (list.codes_sorted.and list.codes_distinct).imp fun ⟨hle, hne⟩ => lt_of_le_of_ne hle hne

theorem IsIssue.unique {texts : Nat → String} {day day' : Date} (h : IsIssue texts day)
    (h' : IsIssue texts day') : day = day' := by
  have heq := h.date.2.symm.trans h'.date.2
  cases heq
  rfl

end StockResearch.Sources
