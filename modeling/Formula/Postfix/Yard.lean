import Formula.Token.Cursor

set_option autoImplicit false

/-!
# From infix to postfix

The tokens of a source are brought into postfix order with a stack of operators, function names
and open parentheses. A call leaves a left parenthesis in the output in front of its arguments,
so that these can be told from what stands before them.

## Main definitions

* `Formula.Yard` — the state between two tokens.
* `Formula.Yard.accept` — one token.
* `Formula.Yard.finish` — the end of the source.
* `Formula.toPostfix` — the postfix sequence of a source.

## Main results

* `Formula.Yard.acceptAll_append` — lists of tokens are accepted one after the other.
* `Formula.Symbols.SameNames.toPostfix` — the postfix sequence does not depend on what names are
  bound to.
-/

namespace Formula

/-- The state between two tokens. -/
structure Yard where
  /-- The postfix sequence so far, last token first. -/
  output : List String
  /-- Operators, names and left parentheses that wait, the latest first. -/
  stack : List String
  /-- The kind of the token before. -/
  previous : Option TokenKind
  /-- The last function that was named. -/
  lastFunction : Option String
deriving DecidableEq

namespace Yard

/-- The state before the first token. -/
def empty : Yard := ⟨[], [], none, none⟩

/-- The state with a token added to the output. -/
def emit (yard : Yard) (token : String) : Yard :=
  { yard with output := token :: yard.output }

/-- The state with a token put on the stack. -/
def push (yard : Yard) (token : String) : Yard :=
  { yard with stack := token :: yard.stack }

/-- The state with the longest run of waiting tokens that satisfy a condition moved from the
stack to the output. -/
def emitWhile (yard : Yard) (condition : String → Bool) : Yard :=
  { yard with
    output := (yard.stack.takeWhile condition).reverse ++ yard.output
    stack := yard.stack.dropWhile condition }

/-- Whether an operator yields to a waiting token, which no token but an operator makes it do. -/
def yieldsTo (operators : OperatorTable) (operator : Operator) (waiting : String) : Bool :=
  (operators.find? waiting).any operator.yieldsTo

/-- An operator waits after the operators that it yields to have been applied. -/
def pushOperator (symbols : Symbols) (yard : Yard) (token : String) : Yard :=
  match symbols.operators.find? token with
  | none => yard
  | some operator =>
    (yard.emitWhile (yieldsTo symbols.operators operator)).push token

/-- A left parenthesis waits for its partner. After the name of a function it marks the
beginning of the arguments in the output; after a numeral an operator is missing. -/
def openGroup (yard : Yard) (position : Nat) : Except Fault Yard :=
  match yard.previous with
  | some .numeral => .error (.missingOperator position)
  | some .function => .ok ((yard.emit Token.leftParen).push Token.leftParen)
  | _ => .ok (yard.push Token.leftParen)

/-- A comma applies what waits since the last left parenthesis, which there must be. -/
def closeArgument (yard : Yard) : Except Fault Yard :=
  let yard := yard.emitWhile (· != Token.leftParen)
  if yard.stack.isEmpty then .error (.strayComma yard.lastFunction) else .ok yard

/-- A right parenthesis applies what waits since the last left parenthesis, takes that one off,
and applies the function whose name stands before it. -/
def closeGroup (symbols : Symbols) (yard : Yard) : Except Fault Yard :=
  let yard := yard.emitWhile (· != Token.leftParen)
  match yard.stack with
  | [] => .error .mismatchedParentheses
  | _ :: stack =>
    match stack with
    | waiting :: below =>
      if symbols.functions.contains waiting then .ok ({ yard with stack := below }.emit waiting)
      else .ok { yard with stack }
    | [] => .ok { yard with stack }

/-- The state after one token, which ends at the given position. -/
def accept (symbols : Symbols) (yard : Yard) (lexeme : Lexeme) : Except Fault Yard := do
  let token := lexeme.token
  let kind := symbols.classify token
  let yard ← match kind with
    | .numeral | .text | .boundName => .ok (yard.emit token)
    | .function => .ok { yard.push token with lastFunction := some token }
    | .freeName => .ok (yard.push token)
    | .comma => yard.closeArgument
    | .operator => .ok (yard.pushOperator symbols token)
    | .leftParen => yard.openGroup lexeme.stop
    | .rightParen => yard.closeGroup symbols
    | .unknown => .ok yard
  return { yard with previous := some kind }

/-- The output after the operators that still wait at the end of the source. Nothing else may
wait there. -/
def drain (symbols : Symbols) (output : List String) : List String → Except Fault (List String)
  | [] => .ok output.reverse
  | waiting :: stack =>
    match symbols.classify waiting with
    | .leftParen | .rightParen => .error .mismatchedParentheses
    | .operator => drain symbols (waiting :: output) stack
    | _ => .error (.unknownName waiting)

/-- The postfix sequence at the end of the source. -/
def finish (symbols : Symbols) (yard : Yard) : Except Fault (List String) :=
  drain symbols yard.output yard.stack

/-- The state after a list of tokens. -/
def acceptAll (symbols : Symbols) : Yard → List Lexeme → Except Fault Yard
  | yard, [] => .ok yard
  | yard, lexeme :: rest => do acceptAll symbols (← yard.accept symbols lexeme) rest

/-- Two lists of tokens are accepted one after the other. -/
theorem acceptAll_append (symbols : Symbols) (yard : Yard) (first second : List Lexeme) :
    yard.acceptAll symbols (first ++ second) =
      yard.acceptAll symbols first >>= fun next => next.acceptAll symbols second := by
  induction first generalizing yard with
  | nil => rfl
  | cons lexeme rest ih =>
    rw [List.cons_append, acceptAll, acceptAll]
    cases yard.accept symbols lexeme with
    | error fault => rfl
    | ok next => exact ih next

end Yard

/-- The postfix sequence of a source, or the fault that the first token out of place causes. -/
def toPostfix (symbols : Symbols) (source : String) : Except Fault (List String) := do
  let scan := Scan.ofSource symbols.operators source
  let yard ← Yard.empty.acceptAll symbols scan.lexemes
  match scan.fault with
  | some fault => throw fault
  | none => yard.finish symbols

namespace Symbols.SameNames

variable {symbols other : Symbols}

/-- A token is accepted in the same way by tables with the same names. -/
theorem accept (same : symbols.SameNames other) (yard : Yard) (lexeme : Lexeme) :
    yard.accept other lexeme = yard.accept symbols lexeme := by
  simp only [Yard.accept, Yard.pushOperator, Yard.closeGroup, same.classify, same.operators,
    same.functions]

/-- Tokens are accepted in the same way by tables with the same names. -/
theorem acceptAll (same : symbols.SameNames other) (yard : Yard) (lexemes : List Lexeme) :
    yard.acceptAll other lexemes = yard.acceptAll symbols lexemes := by
  induction lexemes generalizing yard with
  | nil => rfl
  | cons lexeme rest ih => simp only [Yard.acceptAll, same.accept, ih]

/-- What waits is drained in the same way by tables with the same names. -/
theorem drain (same : symbols.SameNames other) (output stack : List String) :
    Yard.drain other output stack = Yard.drain symbols output stack := by
  induction stack generalizing output with
  | nil => rfl
  | cons waiting rest ih => simp only [Yard.drain, same.classify, ih]

/-- The postfix sequence depends on which names are bound, and not on what they are bound to. -/
theorem toPostfix (same : symbols.SameNames other) (source : String) :
    Formula.toPostfix other source = Formula.toPostfix symbols source := by
  simp only [Formula.toPostfix, Yard.finish, same.operators, same.acceptAll, same.drain]

end Symbols.SameNames

end Formula
