import Formula.Decimal.Basic

set_option autoImplicit false

/-!
# Positional notation

A decimal is written with all its digits and never with an exponent. The scale is kept: there
are as many digits after the point as the scale says, and a negative scale is written out as
zeros.

## Main definitions

* `Formula.Decimal.plain` — the notation.
-/

namespace Formula.Decimal

/-- The notation of `magnitude * 10 ^ (-scale)`. -/
def plainMagnitude (magnitude : Nat) (scale : Int) : List Char :=
  let digits := Digits.ofNat magnitude
  if scale ≤ 0 then
    if magnitude = 0 then digits else digits ++ List.replicate (-scale).toNat '0'
  else
    let places := scale.toNat
    let padded := List.replicate (places + 1 - digits.length) '0' ++ digits
    padded.take (padded.length - places) ++ '.' :: padded.drop (padded.length - places)

/-- The positional notation of a decimal, as characters. -/
def plainChars (d : Decimal) : List Char :=
  let magnitude := plainMagnitude d.unscaled.natAbs d.scale
  if d.isNegative then '-' :: magnitude else magnitude

/-- The positional notation of a decimal: a minus sign for a negative number, at least one digit
before the point, and `max scale 0` digits after it. -/
def plain (d : Decimal) : String := String.ofList d.plainChars

end Formula.Decimal
