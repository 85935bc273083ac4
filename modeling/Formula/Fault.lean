import Formula.Decimal.Positional

set_option autoImplicit false

/-!
# Faults

What can go wrong with an expression, one constructor for each cause. A cause belongs to a kind,
and three of the kinds are structural: they are found while the expression is compiled, before
any value is computed. The others surface only when the value that raises them is needed.

## Main definitions

* `Formula.Fault` — the causes.
* `Formula.Fault.kind` — the kind of a cause.
* `Formula.Fault.message` — its wording.
* `Formula.Fault.isStructural` — whether it is found before anything is computed.

## Main results

* `Formula.Fault.bind_eq_ok_iff` — two computations in a row succeed when both do.
-/

namespace Formula

/-- The two kinds of values, as faults name them. -/
inductive ValueKind where
  | decimal
  | text
deriving DecidableEq

/-- The name of a kind of values. -/
def ValueKind.name : ValueKind → String
  | .decimal => "Decimal"
  | .text => "Text"

/-- The kinds of faults. -/
inductive FaultKind where
  /-- A source that does not split into tokens or does not parse. -/
  | grammar
  /-- A postfix sequence that does not reduce to one value. -/
  | structural
  /-- A numeral that denotes no decimal. -/
  | invalidNumber
  /-- A call with a number of arguments that the function does not take. -/
  | argumentCount
  /-- A name without a numeric binding. -/
  | unboundVariable
  /-- An operator applied to kinds of values that it does not take. -/
  | operandTypes
  /-- A division by zero and the like. -/
  | arithmetic
  /-- A fault raised by the body of a function or operator. -/
  | function
  /-- A value that exceeds what can be stored. It breaks the run off. -/
  | capacity
deriving DecidableEq

/-- Why an expression has no value. Positions count characters of the trimmed source. -/
inductive Fault where
  /-- A run of operator characters that is no registered operator, and the position of its first
  character. -/
  | unknownOperator (symbol : String) (position : Nat)
  /-- A text literal that is not closed, or that another delimiter follows at once. -/
  | textBoundary (position : Nat)
  /-- A parenthesis that follows a numeral. -/
  | missingOperator (position : Nat)
  /-- A comma outside every parenthesis, and the last function that was named before it. -/
  | strayComma (lastFunction : Option String)
  /-- A parenthesis without its partner. -/
  | mismatchedParentheses
  /-- A token that stands for nothing known. -/
  | unknownName (token : String)
  /-- An operator or function without enough operands before it. -/
  | missingOperand (token : String)
  /-- An expression without any value. -/
  | emptyExpression
  /-- An expression that leaves more than one value. -/
  | surplusOperands
  /-- A numeral that denotes no decimal. -/
  | invalidNumber (numeral : String)
  /-- A call with the wrong number of arguments. -/
  | argumentCount (function : String) (expected actual : Nat)
  /-- A name without a numeric binding. -/
  | unboundVariable (name : String)
  /-- An operator applied to kinds of values that it does not take. -/
  | operandTypes (operator : String) (left right : ValueKind)
  /-- A division or a remainder by zero. -/
  | divisionByZero
  /-- An exponent whose whole part exceeds 32 bits. -/
  | exponentTooLarge (exponent : Decimal)
  /-- A power with a fractional exponent that no double represents. -/
  | powerUndefined (base exponent : Decimal)
  /-- A text to be repeated a fractional number of times. -/
  | fractionalRepetition (count : Decimal)
  /-- A text to be repeated a negative or an immense number of times. -/
  | invalidRepetition (count : Decimal)
  /-- A text among the parameters of a function of numbers. -/
  | textParameter (function : String)
  /-- A call without the parameters that the function needs. -/
  | noParameters (function : String)
  /-- A fault that the body of a function or operator words itself. -/
  | raised (message : String)
  /-- A text of more bytes than a text can have. -/
  | textTooLarge
  /-- A scale that is no 64-bit integer. -/
  | scaleOverflow
deriving DecidableEq

namespace Fault

/-- The kind that a cause belongs to. -/
def kind : Fault → FaultKind
  | unknownOperator .. | textBoundary .. | missingOperator .. | strayComma ..
  | mismatchedParentheses | unknownName .. => .grammar
  | missingOperand .. | emptyExpression | surplusOperands => .structural
  | invalidNumber .. => .invalidNumber
  | argumentCount .. => .argumentCount
  | unboundVariable .. => .unboundVariable
  | operandTypes .. => .operandTypes
  | divisionByZero | exponentTooLarge .. | powerUndefined .. | fractionalRepetition ..
  | invalidRepetition .. => .arithmetic
  | textParameter .. | noParameters .. | raised .. => .function
  | textTooLarge | scaleOverflow => .capacity

/-- A fault is structural when it is found while compiling, before any value is computed. -/
def isStructural (fault : Fault) : Bool :=
  match fault.kind with
  | .grammar | .structural | .invalidNumber => true
  | _ => false

/-- The wording of a fault. -/
def message : Fault → String
  | unknownOperator symbol position =>
    s!"Unknown operator '{symbol}' at position {position}"
  | textBoundary position => s!"Invalid string boundary at position {position}"
  | missingOperator position => s!"Missing operator at character position {position}"
  | strayComma (some function) => s!"Parse error for function '{function}'"
  | strayComma none => "Parse error: ',' outside of a function call"
  | mismatchedParentheses => "Mismatched parentheses"
  | unknownName token => s!"Unknown operator or function '{token}'"
  | missingOperand token => s!"Too many operators or functions at '{token}'"
  | emptyExpression => "Empty expression"
  | surplusOperands => "Too many numbers or variables"
  | invalidNumber numeral => s!"Invalid number '{numeral}'"
  | argumentCount function expected actual =>
    s!"Function '{function}' expected {expected} parameters, got {actual}"
  | unboundVariable name => s!"Variable '{name}' has no numeric value"
  | operandTypes operator left right =>
    s!"'{operator}' operator does not accept (v1: {left.name}, v2: {right.name})"
  | divisionByZero => "Division by zero"
  | exponentTooLarge exponent => s!"Exponent {exponent.plain} is too large"
  | powerUndefined base exponent =>
    s!"Cannot raise {base.plain} to the power {exponent.plain}"
  | fractionalRepetition count =>
    s!"Cannot repeat text a fractional number of times ({count.plain})"
  | invalidRepetition count => s!"Cannot repeat text {count.plain} times"
  | textParameter function =>
    s!"'{function}' requires numeric parameters, got {ValueKind.text.name}"
  | noParameters function => s!"'{function}' requires at least one parameter"
  | raised message => message
  | textTooLarge => "capacity overflow"
  | scaleOverflow => "scale overflow"

/-! ## Computations that may end in a fault -/

section Computation

variable {α β : Type}

/-- A value is passed on. -/
@[simp] theorem ok_bind (value : α) (next : α → Except Fault β) :
    (Except.ok value >>= next) = next value := rfl

/-- A fault ends a computation. -/
@[simp] theorem error_bind (fault : Fault) (next : α → Except Fault β) :
    (Except.error fault >>= next) = Except.error fault := rfl

/-- Two computations in a row have a result exactly when the first one has a value from which the
second one has that result. -/
theorem bind_eq_ok_iff {first : Except Fault α} {next : α → Except Fault β} {result : β} :
    (first >>= next) = .ok result ↔ ∃ value, first = .ok value ∧ next value = .ok result := by
  cases first <;> simp

/-- A mapped computation succeeds when the computation does. -/
theorem map_eq_ok_iff {first : Except Fault α} {f : α → β} {result : β} :
    first.map f = .ok result ↔ ∃ value, first = .ok value ∧ f value = result := by
  cases first with
  | error fault => simp [Except.map]
  | ok value => simp [Except.map]

end Computation

end Fault

end Formula
