import Formula.Decimal.Basic
import Formula.Unicode.Blank

set_option autoImplicit false

/-!
# Rounding

Seven modes say which neighbour a number between two representable ones goes to. Rounding acts
on the number of significant digits: `roundTo` keeps at most the given number of digits, and
leaves a number that has no more than these exactly as it is written.

## Main definitions

* `Formula.RoundingMode` — the modes, with their names and `ofName?`.
* `Formula.RoundingMode.divide` — an integer quotient rounded in a mode.
* `Formula.RoundingMode.roundTo` — a decimal rounded to a number of digits.
-/

namespace Formula

/-- What to do with a number that lies between two representable ones. -/
inductive RoundingMode where
  /-- Away from zero. -/
  | up
  /-- Toward zero. -/
  | down
  /-- Toward positive infinity. -/
  | ceiling
  /-- Toward negative infinity. -/
  | floor
  /-- To the nearer neighbour, a tie away from zero. -/
  | halfUp
  /-- To the nearer neighbour, a tie toward zero. -/
  | halfDown
  /-- To the nearer neighbour, a tie to the even one. -/
  | halfEven
deriving DecidableEq, Inhabited

namespace RoundingMode

/-- Every mode. -/
def all : List RoundingMode := [up, down, ceiling, floor, halfUp, halfDown, halfEven]

/-- The written name of a mode. -/
def name : RoundingMode → String
  | up => "up"
  | down => "down"
  | ceiling => "ceiling"
  | floor => "floor"
  | halfUp => "half-up"
  | halfDown => "half-down"
  | halfEven => "half-even"

/-- The spelling under which a name is looked up: no blanks around it, lower case ASCII letters,
and hyphens for underscores. -/
def canonicalName (text : String) : String :=
  String.ofList ((Unicode.trim text.toList).map fun c => if c == '_' then '-' else c.toLower)

/-- The mode of a given name. -/
def ofName? (text : String) : Option RoundingMode :=
  all.find? fun mode => mode.name == canonicalName text

/-- The message for a name that no mode has. -/
def unknownNameMessage (text : String) : String :=
  "Unknown rounding mode '" ++ text ++ "'"

/-- Whether a number strictly between two neighbours goes to the one farther from zero. The
number is negative or not, `odd` tells of the neighbour nearer to zero, and `half` compares the
distance from that neighbour with the distance to the middle. -/
def awayFromZero (mode : RoundingMode) (negative odd : Bool) (half : Ordering) : Bool :=
  match mode with
  | up => true
  | down => false
  | ceiling => !negative
  | floor => negative
  | halfUp => half != .lt
  | halfDown => half == .gt
  | halfEven => half == .gt || half == .eq && odd

/-- The quotient `n / d` rounded to an integer. -/
def divide (mode : RoundingMode) (n : Int) (d : Nat) : Int :=
  let quotient := n.natAbs / d
  let remainder := n.natAbs % d
  let away :=
    remainder != 0 &&
      mode.awayFromZero (n < 0) (quotient % 2 == 1) (compare (2 * remainder) d)
  n.sign * (if away then quotient + 1 else quotient : Nat)

/-- A number rounded to at most the given number of significant digits. No digits means no
rounding, and a number that fits keeps its scale, trailing zeros included. -/
def roundTo (mode : RoundingMode) (digits : Nat) (d : Decimal) : Decimal :=
  if digits = 0 || d.digits ≤ digits then d
  else
    let dropped := d.digits - digits
    ⟨mode.divide d.unscaled (tenPow dropped), d.scale - dropped⟩

end RoundingMode

end Formula
