import StockResearch.Preparation.DecimalText

/-!
# Exceptions and numbers of the interpreter

The exception classes that parsers of source bytes meet, and the texts `int` reads.

- `PyException`: one constructor for each class; `isValueError` and its like tell which
  `except` clauses take it.
- `PyInt.ofText`: `int(text)`; none is its `ValueError`.
-/

namespace StockResearch.Sources

/-! ## Exceptions -/

/-- An exception, by its class. -/
inductive PyException where
  | valueError
  | keyError
  | indexError
  | lookupError
  | runtimeError
  | notImplementedError
  | eofError
  | osError
  | overflowError
  /-- `decimal.InvalidOperation` -/
  | invalidOperation
  | typeError
  /-- `zipfile.BadZipFile` -/
  | badZipFile
  /-- `zlib.error` -/
  | zlibError
  /-- `xml.etree.ElementTree.ParseError` -/
  | xmlParseError
deriving DecidableEq

/-- What the ZIP library raises, when it opens an archive or reads a member. -/
inductive ZipError where
  | badZipFile
  | keyError
  | osError
  | runtimeError
  | notImplementedError
  | eofError
  | zlibError
deriving DecidableEq

/-- The exception of a ZIP library. -/
def ZipError.raised : ZipError → PyException
  | badZipFile => .badZipFile
  | keyError => .keyError
  | osError => .osError
  | runtimeError => .runtimeError
  | notImplementedError => .notImplementedError
  | eofError => .eofError
  | zlibError => .zlibError

/-- What the XML library raises for a text that is no tree. -/
inductive XmlError where
  | parseError
  | valueError
  | lookupError
deriving DecidableEq

/-- The exception of an XML library. -/
def XmlError.raised : XmlError → PyException
  | parseError => .xmlParseError
  | valueError => .valueError
  | lookupError => .lookupError

/-! ## Integers -/

namespace PyInt

open Preparation (asciiOf signOf valueOf)

/-- The spaces that `int` drops at the ends of a text. -/
def isSpace (c : Char) : Bool :=
  (9 ≤ c.toNat && c.toNat ≤ 13) || c.toNat == 32 || (127 < c.toNat && Sources.isSpace c)

/-- `int(text)`: digits, between which single underscores may stand. -/
def ofText (text : String) : Option Int := do
  let ascii ← (stripWhere isSpace text).toList.mapM asciiOf
  let (sign, number) := signOf ascii
  let groups := number.splitOn '_'
  let digits := groups.flatten
  guard (groups.all fun group => group ≠ [] ∧ group.all Char.isDigit)
  guard (digits.length ≤ 4300)
  pure (sign * valueOf digits)

example : ofText " -1_0\n" = some (-10) ∧ ofText "1__0" = none ∧ ofText "٣" = some 3 ∧
    ofText "" = none := by decide +kernel

end PyInt

end StockResearch.Sources
