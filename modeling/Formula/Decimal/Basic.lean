import Formula.Decimal.Digits

set_option autoImplicit false

/-!
# Decimal numbers

A decimal is an integer of any length and a scale, and stands for `unscaled * 10 ^ (-scale)`.
The scale is part of the representation: `1.5` and `1.50` are equal as numbers and different as
decimals, and every operation below says which scale its result has.

The operations below are exact at any scale. A scale of 64 bits is asked for where a number is
stored: a numeral with another scale is no decimal, and a division whose scales exceed 64 bits
breaks off.

## Main definitions

* `Formula.Decimal` — the type, with `zero`, `one` and `ofInt`.
* `Formula.Decimal.digits` — the number of digits of the unscaled integer.
* `Formula.Decimal.rescale` — the same number at another scale, cut off toward zero.
* `Formula.Decimal.add`, `sub`, `mul` — exact arithmetic.
* `Formula.Decimal.compare` — the order of the numbers, whatever the scales.
* `Formula.Decimal.normalized` — the representation without trailing zeros.
-/

namespace Formula

/-- An integer scaled by a power of ten: `unscaled * 10 ^ (-scale)`. -/
structure Decimal where
  /-- The digits with their sign, without a point. -/
  unscaled : Int
  /-- The number of places after the point. A negative scale stands for zeros before it. -/
  scale : Int
deriving DecidableEq, Inhabited

namespace Decimal

/-- The integer `n` at scale 0. -/
def ofInt (n : Int) : Decimal := ⟨n, 0⟩

/-- Zero at scale 0. -/
def zero : Decimal := ofInt 0

/-- One at scale 0. -/
def one : Decimal := ofInt 1

/-- A truth value as a number: one or zero. -/
def ofBool (b : Bool) : Decimal := if b then one else zero

/-- The number is zero, at any scale. -/
def isZero (d : Decimal) : Bool := d.unscaled == 0

/-- The number is below zero. -/
def isNegative (d : Decimal) : Bool := d.unscaled < 0

/-- The number of digits of the unscaled integer, trailing zeros included; zero has one. -/
def digits (d : Decimal) : Nat := Digits.count d.unscaled.natAbs

/-- The number with the opposite sign. -/
def neg (d : Decimal) : Decimal := ⟨-d.unscaled, d.scale⟩

/-- The number without its sign. -/
def abs (d : Decimal) : Decimal := ⟨d.unscaled.natAbs, d.scale⟩

/-- The number at another scale: exact when the scale grows, cut off toward zero when it
shrinks. -/
def rescale (d : Decimal) (scale : Int) : Decimal :=
  if d.unscaled = 0 then ⟨0, scale⟩
  else if d.scale ≤ scale then ⟨d.unscaled * tenPow (scale - d.scale).toNat, scale⟩
  else ⟨d.unscaled.tdiv (tenPow (d.scale - scale).toNat), scale⟩

/-- The exact sum, at the larger of the two scales. -/
def add (a b : Decimal) : Decimal :=
  let scale := max a.scale b.scale
  ⟨(a.rescale scale).unscaled + (b.rescale scale).unscaled, scale⟩

/-- The exact difference, at the larger of the two scales; a zero operand leaves the scale of
the other one. -/
def sub (a b : Decimal) : Decimal :=
  if b.isZero then a
  else if a.isZero then b.neg
  else a.add b.neg

/-- The number of zeros after the point up to which a one is recognized: `10 ^ 38` is the largest
power of ten of 128 bits. -/
def oneScaleLimit : Int := 38

/-- The number is one, with a scale from 0 to the limit. -/
def isOne (d : Decimal) : Bool :=
  0 ≤ d.scale && d.scale ≤ oneScaleLimit && d.unscaled == tenPow d.scale.toNat

/-- The number without trailing zeros, which may take the scale below 0; zero has scale 0. -/
def normalized (d : Decimal) : Decimal :=
  if d.unscaled = 0 then zero
  else
    let magnitude := d.unscaled.natAbs
    let stripped := Digits.stripZeros magnitude.log2 magnitude
    ⟨d.unscaled.sign * stripped.1, d.scale - stripped.2⟩

/-- The exact product at the sum of the scales, but a factor recognized as one leaves the other
as it is. -/
def mul (a b : Decimal) : Decimal :=
  if a.isOne then b
  else if b.isOne then a
  else ⟨a.unscaled * b.unscaled, a.scale + b.scale⟩

/-- The exact product at the sum of the scales, but a factor recognized as one leaves the other
without its trailing zeros. -/
def mulNormal (a b : Decimal) : Decimal :=
  if a.isOne then b.normalized
  else if b.isOne then a.normalized
  else ⟨a.unscaled * b.unscaled, a.scale + b.scale⟩

/-- The place of the first digit: a nonzero number lies between `10 ^ (leading - 1)` and
`10 ^ leading` in magnitude. -/
def leading (d : Decimal) : Int := d.digits - d.scale

/-- The order of the magnitudes of two nonzero numbers: by the place of the first digit, and at
the same place by the integers at a common scale. -/
def compareMagnitude (a b : Decimal) : Ordering :=
  if a.leading ≠ b.leading then Ord.compare a.leading b.leading
  else
    let scale := max a.scale b.scale
    Ord.compare (a.rescale scale).unscaled.natAbs (b.rescale scale).unscaled.natAbs

/-- The order of two numbers, whatever their scales. -/
def compare (a b : Decimal) : Ordering :=
  match Ord.compare a.unscaled.sign b.unscaled.sign with
  | .eq =>
    if a.isZero then .eq
    else if a.isNegative then compareMagnitude b a
    else compareMagnitude a b
  | order => order

/-- Two decimals are equal as numbers. -/
def numEq (a b : Decimal) : Bool := a.compare b == .eq

/-- The number has no fractional part. -/
def isInteger (d : Decimal) : Bool :=
  d.scale ≤ 0 || d.unscaled == 0 || d.unscaled.tmod (tenPow d.scale.toNat) == 0

/-- The integer that the number is cut off to. -/
def truncate (d : Decimal) : Int := (d.rescale 0).unscaled

end Decimal

end Formula
