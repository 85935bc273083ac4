import Formula.Decimal.Rounding
import Formula.Decimal.Numeral

set_option autoImplicit false

/-!
# Numeric contexts

A numeric context fixes the precision and the rounding mode of all arithmetic of an expression.
A precision of 0 turns rounding off: sums, differences and products are then exact, and a
division that does not terminate stops after a fixed number of digits.

## Main definitions

* `Formula.NumericContext` — the type, with `decimal32`, `decimal64` and `unlimited`.
* `Formula.NumericContext.round` — a number rounded to the context.
* `Formula.NumericContext.parse?` — a numeral read and rounded.
-/

namespace Formula

/-- The number of significant digits, 0 for no limit, and the rounding mode. -/
structure NumericContext where
  /-- The number of digits that are kept, 0 for all. -/
  precision : UInt32
  /-- The way in which the other digits are left off. -/
  rounding : RoundingMode
deriving DecidableEq

namespace NumericContext

/-- Seven digits, ties to even. -/
def decimal32 : NumericContext := ⟨7, .halfEven⟩

/-- Sixteen digits, ties to even. -/
def decimal64 : NumericContext := ⟨16, .halfEven⟩

/-- No rounding. -/
def unlimited : NumericContext := ⟨0, .halfUp⟩

/-- The context that an expression starts with. -/
instance : Inhabited NumericContext := ⟨decimal32⟩

/-- The same rounding mode at another precision. -/
def withPrecision (context : NumericContext) (precision : UInt32) : NumericContext :=
  { context with precision }

/-- The same precision with another rounding mode. -/
def withRounding (context : NumericContext) (rounding : RoundingMode) : NumericContext :=
  { context with rounding }

/-- A number rounded to the precision. A number that fits keeps its scale. -/
def round (context : NumericContext) (d : Decimal) : Decimal :=
  context.rounding.roundTo context.precision.toNat d

/-- The decimal that a numeral denotes, rounded to the context. -/
def parse? (context : NumericContext) (numeral : String) : Option Decimal :=
  (Decimal.ofNumeral? numeral).map context.round

/-- The significant digits of a division that does not terminate when nothing is rounded. -/
def unlimitedDivisionDigits : Nat := 100

/-- The significant digits that a quotient is rounded to. -/
def divisionDigits (context : NumericContext) : Nat :=
  if context.precision = 0 then unlimitedDivisionDigits else context.precision.toNat

end NumericContext

end Formula
