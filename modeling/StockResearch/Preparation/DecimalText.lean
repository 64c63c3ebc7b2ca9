import StockResearch.Preparation.PriceRows
import StockResearch.Sources.Transports

/-!
# Decimals from text

`Decimal(text)`: the numbers, the infinities and the NaNs that a text may name. A text that
names none, or a number beyond the bounds of the exponent, raises `InvalidOperation`.

- `asciiDecimal`: the text without its outer spaces and its underscores, in ASCII.
- `numberOf`: the number of a text of digits, a point and an exponent.
- `PyDecimal.ofText`: the whole of it; none is `InvalidOperation`.
-/

namespace StockResearch.Preparation

/-! ## Characters -/

/-- The zeros of the decimal digits of Unicode. -/
def digitZeros : List Nat :=
  [0x30, 0x660, 0x6f0, 0x7c0, 0x966, 0x9e6, 0xa66, 0xae6, 0xb66, 0xbe6, 0xc66, 0xce6, 0xd66,
    0xde6, 0xe50, 0xed0, 0xf20, 0x1040, 0x1090, 0x17e0, 0x1810, 0x1946, 0x19d0, 0x1a80, 0x1a90,
    0x1b50, 0x1bb0, 0x1c40, 0x1c50, 0xa620, 0xa8d0, 0xa900, 0xa9d0, 0xa9f0, 0xaa50, 0xabf0,
    0xff10, 0x104a0, 0x10d30, 0x10d40, 0x11066, 0x110f0, 0x11136, 0x111d0, 0x112f0, 0x11450,
    0x114d0, 0x11650, 0x116c0, 0x116d0, 0x116da, 0x11730, 0x118e0, 0x11950, 0x11bf0, 0x11c50,
    0x11d50, 0x11da0, 0x11f50, 0x16130, 0x16a60, 0x16ac0, 0x16b50, 0x16d70, 0x1ccf0, 0x1d7ce,
    0x1d7d8, 0x1d7e2, 0x1d7ec, 0x1d7f6, 0x1e140, 0x1e2f0, 0x1e4f0, 0x1e5f1, 0x1e950, 0x1fbf0]

/-- The value of a decimal digit. -/
def digitOf (c : Char) : Option Nat :=
  (digitZeros.find? fun first => first ≤ c.toNat ∧ c.toNat < first + 10).map (c.toNat - ·)

/-- A character as the parser of numbers sees it. -/
def asciiOf (c : Char) : Option Char :=
  if 0 < c.toNat ∧ c.toNat ≤ 127 then some c
  else if Sources.isSpace c then some ' '
  else (digitOf c).map fun digit => Char.ofNat (48 + digit)

/-- The text of a number: spaces at its ends and underscores are dropped. -/
def asciiDecimal (text : String) : Option (List Char) :=
  ((Sources.strip text).toList.filter (· ≠ '_')).mapM asciiOf

/-! ## Numbers -/

/-- The value of a text of digits. -/
def valueOf (digits : List Char) : Nat :=
  digits.foldl (fun n c => 10 * n + (c.toNat - '0'.toNat)) 0

/-- A sign, and the text after it. -/
def signOf : List Char → Int × List Char
  | '+' :: rest => (1, rest)
  | '-' :: rest => (-1, rest)
  | text => (1, text)

/-- The exponent at the end of a number. -/
def exponentOf : List Char → Option Int
  | [] => some 0
  | c :: rest =>
    let (sign, digits) := signOf rest
    if (c = 'e' ∨ c = 'E') ∧ digits ≠ [] ∧ digits.all Char.isDigit then
      some (sign * valueOf digits)
    else none

/-- The bounds of the exponent of a number with these digits: a result is exact or none. -/
def fitsExponent (digits : List Char) (exponent : Int) : Bool :=
  let leading := ((digits.dropWhile (· = '0')).length - 1 : Nat)
  exponent + leading ≤ 999999999999999999 ∧ -1999999999999999997 ≤ exponent

/-- The number of a text without a sign. -/
def numberOf (text : List Char) : Option ℚ := do
  let whole := text.takeWhile Char.isDigit
  let after := text.dropWhile Char.isDigit
  let point := after.head? = some '.'
  let fraction := if point then (after.drop 1).takeWhile Char.isDigit else []
  let rest := if point then (after.drop 1).dropWhile Char.isDigit else after
  guard (whole ++ fraction ≠ [])
  let exponent ← exponentOf rest
  let last : Int := exponent - fraction.length
  guard (fitsExponent (whole ++ fraction) last)
  pure (valueOf (whole ++ fraction) * (10 : ℚ) ^ last)

/-- `NaN` or `sNaN` with a diagnostic number. -/
def isNaN (text : List Char) : Bool :=
  let rest := if text.head? = some 's' then text.drop 1 else text
  "nan".toList.isPrefixOf rest ∧ (rest.drop 3).all Char.isDigit

/-- `Decimal(text)` -/
def PyDecimal.ofText (text : String) : Option PyDecimal := do
  let (sign, number) := signOf (← asciiDecimal text)
  let lowered := number.map Char.toLower
  if lowered = "inf".toList ∨ lowered = "infinity".toList then pure .infinite
  else if isNaN lowered then pure .nan
  else do
    let value ← numberOf number
    pure (.finite (sign * value))

example : PyDecimal.ofText " +1_0.50E1 " = some (.finite 105) ∧
    PyDecimal.ofText "-sNaN12" = some .nan ∧ PyDecimal.ofText "1e" = none := by decide +kernel

end StockResearch.Preparation
