import Formula.Context
import Formula.Fault

set_option autoImplicit false

/-!
# Quotients

A quotient is produced by one integer division, with two digits more than are kept and a last
digit that tells whether anything is left, and is then rounded once. A quotient that terminates
keeps no more trailing zeros than the scales of its operands call for.

A decimal is stored with a scale of 64 bits. A division computes three scales on the way to that of
its result, and where one of them does not fit the run breaks off.

## Main definitions

* `Formula.NumericContext.quotientShift` — the zeros appended to the dividend.
* `Formula.NumericContext.unroundedQuotient` — the digits of a quotient before it is rounded.
* `Formula.NumericContext.quotient` — the quotient of two numbers, rounded to the context.
* `Formula.NumericContext.remainder` — what is left by the truncated quotient, rounded.
-/

namespace Formula

namespace NumericContext

/-- Breaks the run off at a scale that is no 64-bit integer. -/
def checkScale (scale : Int) : Except Fault Unit :=
  if Numeral.scaleFits scale then .ok () else .error .scaleOverflow

/-- The number of zeros appended to the dividend, so that the integer quotient has at least two
digits more than a quotient keeps. -/
def quotientShift (context : NumericContext) (a b : Decimal) : Nat :=
  context.divisionDigits + 2 + b.digits - a.digits

/-- The power of ten that appends the zeros. Its exponent is a 32-bit number. -/
def shiftFactor (shift : Nat) : Nat :=
  tenPow (UInt32.ofNat shift).toNat

/-- The quotient `n / d` of two integers at a scale, before rounding. When the division comes
out even, trailing zeros are stripped as long as the scale stays at or above `preferred`;
otherwise a last digit 1 stands for what is left. -/
def quotientDigits (n d : Int) (scale preferred : Int) : Decimal :=
  let magnitude := n.natAbs / d.natAbs
  let sign := n.sign * d.sign
  if n.natAbs % d.natAbs = 0 then
    let stripped := Digits.stripZeros (scale - preferred).toNat magnitude
    ⟨sign * stripped.1, scale - stripped.2⟩
  else ⟨sign * (10 * magnitude + 1 : Nat), scale + 1⟩

/-- The digits of the quotient of two numbers, neither of them zero, before rounding. The zeros
appended to the dividend are counted in the scale. -/
def unroundedQuotient (context : NumericContext) (a b : Decimal) : Decimal :=
  let preferred := a.scale - b.scale
  let shift := context.quotientShift a b
  quotientDigits (a.unscaled * shiftFactor shift) b.unscaled (shift + preferred) preferred

/-- The quotient of two numbers, the second one not zero, rounded to the digits of a division. The
scales are 64-bit integers: the difference of the scales of the operands, the scale with the
appended zeros, that of the unrounded digits and that of the result. -/
def quotient (context : NumericContext) (a b : Decimal) : Except Fault Decimal := do
  let preferred := a.scale - b.scale
  checkScale preferred
  if a.isZero then pure ⟨0, max preferred 0⟩
  else
    checkScale (context.quotientShift a b + preferred)
    let digits := context.unroundedQuotient a b
    checkScale digits.scale
    let rounded := context.rounding.roundTo context.divisionDigits digits
    checkScale rounded.scale
    pure rounded

/-- The remainder of the quotient truncated toward zero, rounded to the context. It has the sign
of the dividend. -/
def remainder (context : NumericContext) (a b : Decimal) : Decimal :=
  let scale := max a.scale b.scale
  context.round ⟨(a.rescale scale).unscaled.tmod (b.rescale scale).unscaled, scale⟩

end NumericContext

end Formula
