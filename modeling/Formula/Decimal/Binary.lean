import Formula.Decimal.Rounding

set_option autoImplicit false

/-!
# Binary floating point and decimals

A finite binary number is taken for the decimal with the fewest digits that reads back as it: of
the decimals in its rounding interval the shortest, of these the nearest, and of two equally near
ones the one farther from zero. In the other direction a quotient of integers is rounded to the
nearest binary number, and a decimal is approximated by a double, which only a power with a
fractional exponent needs.

## Main definitions

* `Formula.BinaryFormat` — the widths of an interchange format, with `single` and `double`.
* `Formula.BinaryFormat.decode` — the number that a bit pattern stands for.
* `Formula.BinaryFormat.nearest` — the bit pattern of the number nearest to a quotient.
* `Formula.BinaryNumber.shortest` — the digits of the shortest decimal.
* `Formula.Decimal.ofFinite` — that decimal, at a scale that is not negative.
* `Formula.Decimal.toFloat` and `ofFloat?` — the approximation, and the way back.
-/

namespace Formula

/-- The widths in bits of the exponent and of the fraction of a binary interchange format. -/
structure BinaryFormat where
  exponentBits : Nat
  fractionBits : Nat

/-- A finite binary number in magnitude, `significand * 2 ^ exponent`. When `narrowBelow` is set
the next smaller number is only half a unit away. -/
structure BinaryNumber where
  significand : Nat
  exponent : Int
  narrowBelow : Bool

/-- What a bit pattern stands for. -/
inductive BinaryDatum where
  | notANumber
  | infinite (negative : Bool)
  | finite (negative : Bool) (magnitude : BinaryNumber)

namespace BinaryFormat

/-- The 32-bit format. -/
def single : BinaryFormat := ⟨8, 23⟩

/-- The 64-bit format. -/
def double : BinaryFormat := ⟨11, 52⟩

/-- The biased exponent of the patterns that stand for no finite number: all bits set. -/
def special (format : BinaryFormat) : Nat := (1 <<< format.exponentBits) - 1

/-- The exponent of two of the least positive number. -/
def lowest (format : BinaryFormat) : Int :=
  1 - (format.special / 2 : Nat) - format.fractionBits

/-- What a bit pattern of the format stands for. -/
def decode (format : BinaryFormat) (bits : Nat) : BinaryDatum :=
  let hidden := 1 <<< format.fractionBits
  let fraction := bits % hidden
  let biased := (bits >>> format.fractionBits) % (format.special + 1)
  let negative := bits.testBit (format.fractionBits + format.exponentBits)
  if biased = format.special then
    if fraction = 0 then .infinite negative else .notANumber
  else if biased = 0 then .finite negative ⟨fraction, format.lowest, false⟩
  else
    .finite negative
      ⟨hidden + fraction, format.lowest + biased - 1, fraction == 0 && biased != 1⟩

/-- The place of the first bit of a positive quotient: the greatest `e` with
`2 ^ e ≤ n / d`. -/
def firstBit (n d : Nat) : Int :=
  let place : Int := n.log2 - d.log2
  if d <<< place.toNat ≤ n <<< (-place).toNat then place else place - 1

/-- The bit pattern of the number nearest to `n / d`, a tie going to the even one. From half a
unit above the largest number on it is that of infinity. A significand that is rounded up to the
next power of two carries into the exponent, as it should. -/
def nearest (format : BinaryFormat) (n d : Nat) : Nat :=
  if n = 0 then 0
  else
    let exponent := max (firstBit n d - format.fractionBits) format.lowest
    let significand :=
      RoundingMode.halfEven.divide (n <<< (-exponent).toNat : Nat) (d <<< exponent.toNat)
    min (((exponent - format.lowest).toNat <<< format.fractionBits) + significand.toNat)
      (format.special <<< format.fractionBits)

end BinaryFormat

namespace BinaryNumber

/-- A number together with the ends of its rounding interval, as numerators over one common
denominator. The ends belong to the interval when `closed` is set. -/
structure Interval where
  low : Nat
  value : Nat
  high : Nat
  denominator : Nat
  closed : Bool

/-- The reals that round to the number: half a unit on each side, a quarter below when the next
smaller number is nearer, and the ends themselves for an even significand. -/
def interval (x : BinaryNumber) : Interval :=
  let scaleUp := 1 <<< x.exponent.toNat
  let unit := (if x.narrowBelow then 1 else 2) * scaleUp
  { low := 4 * x.significand * scaleUp - unit
    value := 4 * x.significand * scaleUp
    high := 4 * x.significand * scaleUp + 2 * scaleUp
    denominator := 4 <<< (-x.exponent).toNat
    closed := x.significand % 2 == 0 }

/-- Whether `k * 10 ^ unitExponent` lies in the interval. -/
def Interval.contains (i : Interval) (k : Nat) (unitExponent : Int) : Bool :=
  let point := k * i.denominator * tenPow unitExponent.toNat
  let scale := tenPow (-unitExponent).toNat
  if i.closed then i.low * scale ≤ point && point ≤ i.high * scale
  else i.low * scale < point && point < i.high * scale

/-- The place of the first digit of `n / d`: the least `e`, among the given number of candidates
from a start upward, with `n / d < 10 ^ e`. -/
def leadingPlace (n d : Nat) : Nat → Int → Int
  | 0, e => e
  | fuel + 1, e =>
    if n * tenPow (-e).toNat < d * tenPow e.toNat then e else leadingPlace n d fuel (e + 1)

/-- Of the two neighbours of the number on the grid of multiples of `10 ^ unitExponent` the
nearer one in the interval, a tie going up. -/
def Interval.nearest? (i : Interval) (unitExponent : Int) : Option Nat :=
  let n := i.value * tenPow (-unitExponent).toNat
  let d := i.denominator * tenPow unitExponent.toNat
  let below := n / d
  let hasBelow := i.contains below unitExponent
  let hasAbove := i.contains (below + 1) unitExponent
  if hasBelow && (!hasAbove || 2 * (n % d) < d) then some below
  else if hasAbove then some (below + 1)
  else none

/-- The first grid with a point in the interval, from the coarsest one on. -/
def Interval.firstHit (i : Interval) : Nat → Int → Nat × Int
  | 0, unitExponent => (i.value / i.denominator, unitExponent)
  | fuel + 1, unitExponent =>
    match i.nearest? unitExponent with
    | some k => (k, unitExponent)
    | none => firstHit i fuel (unitExponent - 1)

/-- The digits and the exponent of ten of the shortest decimal that reads back as a nonzero
number. The search for the first place starts below it, since `log10 2` is about `0.30103`. -/
def shortest (x : BinaryNumber) : Nat × Int :=
  let i := x.interval
  let bits : Int := (i.value.log2 : Int) - i.denominator.log2 - 1
  let place := leadingPlace i.value i.denominator 8 (bits * 30103 / 100000 - 1)
  i.firstHit 20 (place - 1)

end BinaryNumber

namespace Decimal

/-- The shortest decimal that reads back as a finite binary number. Its scale is the number of
its places after the point. -/
def ofFinite (negative : Bool) (x : BinaryNumber) : Decimal :=
  if x.significand = 0 then zero
  else
    let (digits, exponent) := x.shortest
    let magnitude := normalized ⟨digits, -exponent⟩
    let positional := magnitude.rescale (max magnitude.scale 0)
    if negative then positional.neg else positional

/-- The double nearest to the quotient `n / d`. -/
def nearestFloat (n d : Nat) : Float :=
  Float.ofBits (UInt64.ofNat (BinaryFormat.double.nearest n d))

/-- The product `product * base ^ n` in double arithmetic, by squaring, for `n < 2 ^ fuel`. -/
def floatPower : Nat → Nat → Float → Float → Float
  | 0, _, _, product => product
  | fuel + 1, n, base, product =>
    let product := if n % 2 == 1 then product * base else product
    if n < 2 then product else floatPower fuel (n / 2) (base * base) product

/-- The power of ten `10 ^ n` in double arithmetic, for an exponent of at most 64 bits. -/
def floatPowerOfTen (n : Nat) : Float := floatPower 64 n 10 1

/-- The number of digits that an approximation leaves out: as many blocks of 19 as there are in
what exceeds 24 digits, by an estimate from the number of bits. -/
def negligibleDigits (magnitude : Nat) : Nat :=
  ((magnitude.log2 + 1) * 30103 / 100000 - 24) / 19 * 19

/-- The double that approximates the positive number `magnitude * 10 ^ (-scale)`. An integer at
scale 0 goes to the nearest double. Otherwise the negligible digits are cut off, and what is left
is `kept * 10 ^ exponent`: for a negative exponent it is a quotient, which goes to the nearest
double, and else a product of doubles. A number below `10 ^ (-324)` is nearest to zero. -/
def approximate (magnitude : Nat) (scale : Int) : Float :=
  if scale = 0 then nearestFloat magnitude 1
  else
    let dropped := negligibleDigits magnitude
    let kept := magnitude / tenPow dropped
    let exponent : Int := dropped - scale
    if 0 ≤ exponent then nearestFloat kept 1 * floatPowerOfTen exponent.toNat
    else if Digits.count magnitude - scale ≤ -324 then 0
    else nearestFloat kept (tenPow (-exponent).toNat)

/-- The double that approximates a decimal. -/
def toFloat (d : Decimal) : Float :=
  if d.isZero then 0
  else
    let magnitude := approximate d.unscaled.natAbs d.scale
    if d.isNegative then -magnitude else magnitude

/-- The shortest decimal that reads back as a double; `none` for infinities and what is not a
number. -/
def ofFloat? (x : Float) : Option Decimal :=
  match BinaryFormat.double.decode x.toBits.toNat with
  | .finite negative magnitude => some (ofFinite negative magnitude)
  | _ => none

end Decimal

end Formula
