import Formula.Token.Kind

set_option autoImplicit false

/-!
# Evaluation

A postfix sequence is turned into one deferred value on a stack. Nothing is computed meanwhile
except the numbers of arguments, and the deferred value left at the end is forced.

## Main definitions

* `Formula.Slot` — an entry of the stack: an operand, or the beginning of a group.
* `Formula.Evaluation.step` — the stack after one token.
* `Formula.Evaluation.build` — the deferred value of a sequence.
* `Formula.evaluatePostfix` — its value.

## Main results

* `Formula.Evaluation.steps_append` — lists of tokens are taken one after the other.
* `Formula.Evaluation.popGroup_groupStart` — a call finds its arguments in their order.
-/

namespace Formula

/-- An entry of the stack. -/
inductive Slot where
  /-- The beginning of the arguments of a call. -/
  | groupStart
  /-- An operand. -/
  | value (deferred : Deferred)

namespace Evaluation

/-- An operand on top of the stack, and the stack below it. -/
def popOperand (symbol : String) : List Slot → Except Fault (Deferred × List Slot)
  | .value deferred :: stack => .ok (deferred, stack)
  | _ => .error (.missingOperand symbol)

/-- The operands down to the beginning of the group, first one first, in front of those already
taken, and the stack below the group. -/
def popGroup (name : String) (taken : List Deferred) :
    List Slot → Except Fault (List Deferred × List Slot)
  | [] => .error (.missingOperand name)
  | .groupStart :: stack => .ok (taken, stack)
  | .value deferred :: stack => popGroup name (deferred :: taken) stack

/-- A numeral, read when it is needed. -/
def numeral (context : NumericContext) (token : String) : Deferred :=
  Thunk.mk fun _ =>
    match context.parse? token with
    | some number => .ok (.decimal number)
    | none => .error (.invalidNumber token)

/-- A variable, looked up when it is needed. Only a number can be used by name. -/
def variableValue (bindings : Variables) (name : String) : Deferred :=
  Thunk.mk fun _ =>
    match bindings.number? name with
    | some number => .ok (.decimal number)
    | none => .error (.unboundVariable name)

/-- An operator applied to its operands: the right one is computed first, then the left one. -/
def application (operator : Operator) (left right : Deferred) (context : NumericContext) :
    Deferred :=
  Thunk.mk fun _ => do
    let right ← right.force
    let left ← left.force
    operator.apply left right context

/-- A call of a function, which computes the parameters that it needs. -/
def call (function : Function) (parameters : List Deferred) (context : NumericContext) :
    Deferred :=
  Thunk.mk fun _ => function.apply parameters context

/-- The stack after an operator. -/
def applyOperator (symbols : Symbols) (context : NumericContext) (token : String)
    (stack : List Slot) : Except Fault (List Slot) := do
  match symbols.operators.find? token with
  | none => throw (.unknownName token)
  | some operator =>
    let (right, stack) ← popOperand token stack
    let (left, stack) ← popOperand token stack
    return .value (application operator left right context) :: stack

/-- The stack after a function, which takes the number of arguments that its arity allows. -/
def applyFunction (symbols : Symbols) (context : NumericContext) (token : String)
    (stack : List Slot) : Except Fault (List Slot) := do
  match symbols.functions.find? token with
  | none => throw (.unknownName token)
  | some function =>
    let (parameters, stack) ← popGroup token [] stack
    match function.arity with
    | .fixed expected =>
      if expected ≠ parameters.length then
        throw (.argumentCount token expected parameters.length)
    | .variadic => pure ()
    return .value (call function parameters context) :: stack

/-- The stack after one token. -/
def step (symbols : Symbols) (context : NumericContext) (stack : List Slot) (token : String) :
    Except Fault (List Slot) :=
  match symbols.classify token with
  | .leftParen => .ok (.groupStart :: stack)
  | .operator => applyOperator symbols context token stack
  | .boundName => .ok (.value (variableValue symbols.bindings token) :: stack)
  | .function => applyFunction symbols context token stack
  | .numeral => .ok (.value (numeral context token) :: stack)
  | .text => .ok (.value (.ready (.text token)) :: stack)
  | .rightParen | .comma | .freeName | .unknown => .error (.unknownName token)

/-- The stack after a list of tokens. -/
def steps (symbols : Symbols) (context : NumericContext) :
    List Slot → List String → Except Fault (List Slot)
  | stack, [] => .ok stack
  | stack, token :: rest => do steps symbols context (← step symbols context stack token) rest

/-- The only operand on a stack. -/
def result : List Slot → Except Fault Deferred
  | [] => .error .emptyExpression
  | [.value deferred] => .ok deferred
  | _ => .error .surplusOperands

/-- The deferred value of a postfix sequence. -/
def build (symbols : Symbols) (context : NumericContext) (postfixTokens : List String) :
    Except Fault Deferred := do
  result (← steps symbols context [] postfixTokens)

variable {symbols : Symbols} {context : NumericContext}

/-- No token leaves the stack as it is. -/
@[simp] theorem steps_nil (stack : List Slot) : steps symbols context stack [] = .ok stack := rfl

/-- The tokens are evaluated one after the other. -/
@[simp] theorem steps_cons (stack : List Slot) (token : String) (rest : List String) :
    steps symbols context stack (token :: rest) =
      step symbols context stack token >>= fun next => steps symbols context next rest := rfl

/-- The second part of the tokens is evaluated on the stack that the first one leaves. -/
@[simp] theorem steps_append (stack : List Slot) (first second : List String) :
    steps symbols context stack (first ++ second) =
      steps symbols context stack first >>= fun next => steps symbols context next second := by
  induction first generalizing stack with
  | nil => rfl
  | cons token rest ih =>
    rw [List.cons_append, steps_cons, steps_cons]
    cases step symbols context stack token with
    | error fault => rfl
    | ok next => exact ih next

/-- The operands on top of the beginning of a group are the arguments, the last one on top. -/
theorem popGroup_groupStart (name : String) (operands taken : List Deferred)
    (stack : List Slot) :
    popGroup name taken (operands.map Slot.value ++ .groupStart :: stack) =
      .ok (operands.reverse ++ taken, stack) := by
  induction operands generalizing taken with
  | nil => rfl
  | cons operand rest ih =>
    rw [List.map_cons, List.cons_append, popGroup, ih]
    simp

end Evaluation

/-- The value of a postfix sequence, without insignificant zeros. -/
def evaluatePostfix (symbols : Symbols) (context : NumericContext)
    (postfixTokens : List String) : Outcome := do
  let deferred ← Evaluation.build symbols context postfixTokens
  return (← deferred.force).normalized

end Formula
