import Formula.Operator.Basic
import Formula.Operator.Power

set_option autoImplicit false

/-!
# The standard operators

Arithmetic, truth values and comparisons of numbers. Two operators take texts as well: `+` joins
two texts, or a text and the notation of a number, and `*` repeats a text.

## Main definitions

* `Formula.Operator.standard` — the operators with their symbols and precedences.
* `Formula.OperatorTable.standard` — the table of them.
* `Formula.Operator.repetitions` — how often a number repeats a text.
* `Formula.Operator.textSizeLimit` — how large a text can be.

## Main results

* `Formula.Operator.repeated_eq_ok_iff` — when a text is repeated.
-/

namespace Formula

namespace Operator

/-- The fault of an operator at operands that it does not take. -/
def refuse {α : Type} (symbol : String) (left right : Value) : Except Fault α :=
  .error (.operandTypes symbol left.kind right.kind)

/-- Applies a function to two numbers; anything else is refused. -/
def onDecimals (symbol : String) (f : Decimal → Decimal → Except Fault Decimal)
    (left right : Value) : Outcome :=
  match left, right with
  | .decimal a, .decimal b => (f a b).map .decimal
  | _, _ => refuse symbol left right

/-- The written text with a given list of characters. -/
def writtenText (written : List Char) : Value := .text (String.ofList written)

/-- The text whose content is the notation of a number. -/
def enclosedNotation (number : Decimal) : List Char := Delimited.enclose number.plainChars

/-- Sum, or concatenation when an operand is a text. -/
def add (left right : Value) (context : NumericContext) : Outcome :=
  match left, right with
  | .decimal a, .decimal b => .ok (.decimal (context.round (a.add b)))
  | .text s, .text t => .ok (writtenText (Delimited.join s.toList t.toList))
  | .text s, .decimal b => .ok (writtenText (Delimited.join s.toList (enclosedNotation b)))
  | .decimal a, .text t => .ok (writtenText (Delimited.join (enclosedNotation a) t.toList))

/-- Difference. -/
def subtract (left right : Value) (context : NumericContext) : Outcome :=
  onDecimals "-" (fun a b => .ok (context.round (a.sub b))) left right

/-- How often a number repeats a text: a whole number that is not negative and has at most 64
bits. -/
def repetitions (count : Decimal) : Except Fault Nat :=
  if !count.isInteger then .error (.fractionalRepetition count)
  else
    let times := count.truncate
    if 0 ≤ times && times < UInt64.size then .ok times.toNat else .error (.invalidRepetition count)

/-- The largest number of bytes that a text can have: sizes are signed numbers of 64 bits. -/
def textSizeLimit : Nat := UInt64.size / 2 - 1

/-- A text repeated a number of times. There is no text of more bytes than the limit. -/
def repeated (written : String) (count : Decimal) : Outcome := do
  let times ← repetitions count
  if textSizeLimit < Delimited.contentSize written.toList * times then throw .textTooLarge
  else pure (writtenText (Delimited.repeatContent written.toList times))

/-- A text is repeated when the number says how often and what comes out is not too large. -/
theorem repeated_eq_ok_iff {written : String} {count : Decimal} {value : Value} :
    repeated written count = .ok value ↔
      ∃ times, repetitions count = .ok times ∧
        Delimited.contentSize written.toList * times ≤ textSizeLimit ∧
        writtenText (Delimited.repeatContent written.toList times) = value := by
  rw [repeated, Fault.bind_eq_ok_iff]
  refine exists_congr fun times => and_congr_right fun _ => ?_
  split
  case isTrue large => exact ⟨nofun, fun fits => absurd fits.1 (Nat.not_le.2 large)⟩
  case isFalse fits =>
    exact ⟨fun same => ⟨Nat.not_lt.1 fits, Except.ok.inj same⟩, fun same => congrArg _ same.2⟩

/-- Product, or repetition when one operand is a text. -/
def multiply (left right : Value) (context : NumericContext) : Outcome :=
  match left, right with
  | .decimal a, .decimal b => .ok (.decimal (context.round (a.mul b)))
  | .text s, .decimal b => repeated s b
  | .decimal a, .text t => repeated t a
  | .text _, .text _ => refuse "*" left right

/-- Quotient. -/
def divide (left right : Value) (context : NumericContext) : Outcome :=
  onDecimals "/"
    (fun a b => if b.isZero then .error .divisionByZero else context.quotient a b)
    left right

/-- Remainder, with the sign of the dividend. -/
def remainder (left right : Value) (context : NumericContext) : Outcome :=
  onDecimals "%"
    (fun a b => if b.isZero then .error .divisionByZero else .ok (context.remainder a b))
    left right

/-- Power. -/
def power (left right : Value) (context : NumericContext) : Outcome :=
  onDecimals "^" context.power left right

/-- An operator on two numbers whose result is a truth value. -/
def onTruth (symbol : String) (f : Decimal → Decimal → Bool) (left right : Value)
    (_ : NumericContext) : Outcome :=
  onDecimals symbol (fun a b => .ok (Decimal.ofBool (f a b))) left right

/-- Both operands are different from zero. -/
def conjunction : Value → Value → NumericContext → Outcome :=
  onTruth "&&" fun a b => !a.isZero && !b.isZero

/-- One of the operands is different from zero. -/
def disjunction : Value → Value → NumericContext → Outcome :=
  onTruth "||" fun a b => !a.isZero || !b.isZero

/-- A comparison of two numbers, which accepts some of the orders. -/
def comparison (symbol : String) (accepts : Ordering → Bool) :
    Value → Value → NumericContext → Outcome :=
  onTruth symbol fun a b => accepts (a.compare b)

/-- The operators that every expression starts with. -/
def standard : List Operator :=
  [⟨"&&", 4, false, conjunction⟩,
   ⟨"||", 2, false, disjunction⟩,
   ⟨">", 10, false, comparison ">" Ordering.isGT⟩,
   ⟨">=", 10, false, comparison ">=" Ordering.isGE⟩,
   ⟨"<", 10, false, comparison "<" Ordering.isLT⟩,
   ⟨"<=", 10, false, comparison "<=" Ordering.isLE⟩,
   ⟨"==", 10, false, comparison "==" Ordering.isEq⟩,
   ⟨"!=", 10, false, comparison "!=" Ordering.isNe⟩,
   ⟨"+", 20, true, add⟩,
   ⟨"-", 20, true, subtract⟩,
   ⟨"*", 30, true, multiply⟩,
   ⟨"/", 30, true, divide⟩,
   ⟨"%", 30, true, remainder⟩,
   ⟨"^", 40, false, power⟩]

end Operator

namespace OperatorTable

/-- The table of the standard operators. -/
def standard : OperatorTable :=
  Operator.standard.foldl (fun table operator => (table.register operator).1) .empty

end OperatorTable

end Formula
