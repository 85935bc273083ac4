import Formula.Fault
import Formula.Decimal.Binary
import Formula.Operator.Quotient

set_option autoImplicit false

/-!
# Powers

The whole part of an exponent is applied by squaring and multiplying, with a few digits more
than the precision. A fractional part is applied through double arithmetic, and a negative
exponent inverts the result.

## Main definitions

* `Formula.NumericContext.integerPower` — a power with a whole exponent.
* `Formula.NumericContext.power` — a power with any exponent.
-/

namespace Formula.NumericContext

/-- An intermediate product, rounded to ten digits more than the precision. -/
def trim (context : NumericContext) (d : Decimal) : Decimal :=
  if context.precision = 0 then d
  else context.rounding.roundTo (context.precision.toNat + 10) d

/-- The product `product * square ^ exponent`, with every product trimmed, for
`exponent < 2 ^ bits`: each bit of the exponent multiplies by the square or not, and squares it
once more if bits are left. -/
def squareAndMultiply (context : NumericContext) : Nat → Nat → Decimal → Decimal → Decimal
  | 0, _, _, product => product
  | bits + 1, exponent, square, product =>
    if exponent = 0 then product
    else
      let product :=
        if exponent % 2 = 1 then context.trim (product.mulNormal square) else product
      if exponent / 2 = 0 then product
      else
        squareAndMultiply context bits (exponent / 2) (context.trim (square.mulNormal square))
          product

/-- A power with a whole exponent of at most 32 bits. -/
def integerPower (context : NumericContext) (base : Decimal) (exponent : Nat) : Decimal :=
  squareAndMultiply context 32 exponent base .one

/-- A power with a fractional exponent in double arithmetic, read back as a decimal; `none` when
the double is not finite. -/
def fractionalPower? (base fraction : Decimal) : Option Decimal :=
  Decimal.ofFloat? (base.toFloat.pow fraction.toFloat)

/-- A power: the whole part of the exponent first, then the fractional part, one rounding, and
the inverse for a negative exponent. -/
def power (context : NumericContext) (base exponent : Decimal) : Except Fault Decimal := do
  let whole := exponent.abs.truncate.toNat
  let fraction := exponent.abs.sub (.ofInt whole)
  if UInt32.size ≤ whole then throw (.exponentTooLarge exponent)
  let result := context.integerPower base whole
  let result ←
    if fraction.isZero then pure result
    else
      match fractionalPower? base fraction with
      | some factor => pure (result.mul factor)
      | none => throw (.powerUndefined base exponent)
  let result := context.round result
  if exponent.isNegative then
    if result.isZero then throw .divisionByZero
    else context.quotient .one result
  else pure result

end Formula.NumericContext
