import Mathlib.Data.Int.Log
import Mathlib.Data.Rat.Floor

/-!
# Decimal rounding

Fractions rounded to a grid, half to even, and decimal arithmetic with a precision and
bounds on the exponent: a result is rounded to a number of digits, or to the finest grid
there is when it is too small for so many.

- `roundEven`, `roundTo`: rounding to integers and to a grid.
- `DecimalContext`, `DecimalContext.round`: rounding with bounds; none is an overflow.
-/

namespace StockResearch

/-- The nearest integer, half to even. -/
def roundEven (q : ℚ) : ℤ :=
  if q - ⌊q⌋ < 1 / 2 then ⌊q⌋
  else if 1 / 2 < q - ⌊q⌋ then ⌊q⌋ + 1
  else if ⌊q⌋ % 2 = 0 then ⌊q⌋ else ⌊q⌋ + 1

example : roundEven (5 / 2) = 2 ∧ roundEven (7 / 2) = 4 ∧ roundEven (-12 / 5) = -2 := by decide +kernel

/-- The nearest multiple of a quantum, half to even. -/
def roundTo (quantum q : ℚ) : ℚ := roundEven (q / quantum) * quantum

/-! ## Contexts -/

/-- The place of the last of some significant digits of a number. -/
def lastPlace (digits : ℕ) (q : ℚ) : ℤ := Int.log 10 |q| - (digits - 1)

/-- The precision and the bounds on the exponent of decimal arithmetic. -/
structure DecimalContext where
  digits : ℕ
  emin : ℤ
  emax : ℤ

namespace DecimalContext

/-- The place of the last digit of the smallest numbers. -/
def etiny (context : DecimalContext) : ℤ := context.emin - (context.digits - 1)

/-- A result: none is an overflow. -/
def round (context : DecimalContext) (q : ℚ) : Option ℚ :=
  let rounded := roundTo (10 ^ max (lastPlace context.digits q) context.etiny) q
  if |rounded| < 10 ^ (context.emax + 1) then some rounded else none

end DecimalContext

end StockResearch
