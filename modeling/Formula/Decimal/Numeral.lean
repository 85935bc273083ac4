import Formula.Decimal.Basic
import Formula.Text

set_option autoImplicit false

/-!
# Numerals

A numeral is a signed run of digits with at most one point and an optional exponent. Digits may
be grouped by underscores, and digits are required on one side of the point only. The scale of
the number is the number of characters after the point, less the exponent.

## Main definitions

* `Formula.Decimal.ofNumeral?` — the decimal that a numeral denotes.
* `Formula.Decimal.ScaleFits` — a decimal that can be stored.
-/

namespace Formula.Numeral

/-- The number written as digits that may be grouped by underscores, but do not begin with
one. -/
def unsigned? (text : List Char) : Option Nat :=
  match text with
  | [] => none
  | '_' :: _ => none
  | _ =>
    if text.all fun c => c.isDigit || c == '_' then
      some (Digits.toNat (text.filter Char.isDigit))
    else none

/-- A text without the sign in front of it; a sign that a plus sign follows is no sign. -/
def dropSign (sign : Char) (text : List Char) : List Char :=
  match text with
  | c :: rest => if c == sign && rest.head? != some '+' then rest else text
  | [] => []

/-- The integer written as digits behind an optional sign. -/
def integer? (text : List Char) : Option Int :=
  let magnitude := (unsigned? (dropSign '+' (dropSign '-' text))).map Int.ofNat
  if text.head? == some '-' then magnitude.map fun n => -n else magnitude

/-- The integer written as an optional sign and one or more digits, without underscores. -/
def signed? (text : List Char) : Option Int :=
  let digits := match text with
    | '+' :: rest => rest
    | '-' :: rest => rest
    | _ => text
  if digits.isEmpty || !digits.all Char.isDigit then none
  else
    let magnitude : Int := Digits.toNat digits
    some (if text.head? == some '-' then -magnitude else magnitude)

/-- The digits on both sides of the point, and the number of places after it. Underscores are no
places, and a point at the very end has none. -/
def significand (text : List Char) : List Char × Nat :=
  match Text.cut (· == '.') text with
  | (whole, none) => (whole, 0)
  | (whole, some fraction) => (whole ++ fraction, (fraction.filter (· != '_')).length)

/-- A scale is representable when it is a 64-bit integer. -/
def scaleFits (scale : Int) : Bool :=
  -9223372036854775808 ≤ scale && scale ≤ 9223372036854775807

/-- The decimal that a list of characters denotes. -/
def decimal? (text : List Char) : Option Decimal := do
  let (base, power) := Text.cut (fun c => c == 'e' || c == 'E') text
  let exponent ← match power with
    | none => some 0
    | some digits => signed? digits
  let (digits, places) := significand base
  let unscaled ← integer? digits
  let scale := (places : Int) - exponent
  if scaleFits scale then some ⟨unscaled, scale⟩ else none

end Formula.Numeral

namespace Formula.Decimal

/-- The decimal that a numeral denotes, or `none` for a text that is no numeral. -/
def ofNumeral? (text : String) : Option Decimal :=
  Numeral.decimal? text.toList

/-- A decimal can be stored if its scale is a 64-bit integer. -/
def ScaleFits (d : Decimal) : Prop := Numeral.scaleFits d.scale = true

/-- Whether a decimal can be stored is decided by its scale. -/
instance (d : Decimal) : Decidable d.ScaleFits := inferInstanceAs (Decidable (_ = _))

end Formula.Decimal
