import Formula.Binding
import Formula.Substitution
import Formula.Postfix.Yard
import Formula.Postfix.Check
import Formula.Postfix.Evaluation

set_option autoImplicit false

/-!
# Expressions

An expression is a source with a numeric context and symbols. It is compiled to a postfix
sequence the first time that one is needed, and the sequence is kept until the source changes or
a new name is bound. What is registered later takes effect with the next compilation.

## Main definitions

* `Formula.compile` — the checked postfix sequence of a source.
* `Formula.Expression` — the type, with `new`.
* `Formula.Expression.setVariable` — binds a name, with `setVariableWith` for any way to rewrite
  the source.
* `Formula.Expression.toPostfix`, `evaluate` — the compiled sequence and the value, with the
  expression that keeps the sequence.

## Main results

* `Formula.Symbols.SameNames.compile` — what is compiled does not depend on what names are bound
  to.
-/

namespace Formula

/-- The postfix sequence of a source, which reduces to exactly one value. -/
def compile (symbols : Symbols) (source : String) : Except Fault (List String) := do
  let tokens ← toPostfix symbols source
  checkPostfix symbols tokens
  return tokens

/-- The compiled sequence depends on which names are bound, and not on what they are bound to. -/
theorem Symbols.SameNames.compile {symbols other : Symbols} (same : symbols.SameNames other)
    (source : String) : Formula.compile other source = Formula.compile symbols source := by
  simp only [Formula.compile, same.toPostfix, same.checkPostfix]

/-- A source to be compiled and evaluated. -/
structure Expression where
  /-- The source, with the substitutions that bindings have made in it. -/
  source : String
  /-- The precision and the rounding mode. -/
  context : NumericContext
  /-- The operators, functions and bound names. -/
  symbols : Symbols
  /-- The postfix sequence, once it has been compiled. -/
  compiled : Option (List String)

namespace Expression

/-- An expression in a given context, with the standard symbols. -/
def withContext (source : String) (context : NumericContext) : Expression :=
  ⟨source, context, .standard, none⟩

/-- An expression in the context of seven digits. -/
def new (source : String) : Expression := withContext source default

/-- The expression in another context. -/
def setContext (expression : Expression) (context : NumericContext) : Expression :=
  { expression with context }

/-- The expression with another precision. -/
def setPrecision (expression : Expression) (precision : UInt32) : Expression :=
  { expression with context := expression.context.withPrecision precision }

/-- The expression with another rounding mode. -/
def setRounding (expression : Expression) (rounding : RoundingMode) : Expression :=
  { expression with context := expression.context.withRounding rounding }

/-- The expression with its compiled sequence dropped. -/
def invalidate (expression : Expression) : Expression :=
  { expression with compiled := none }

/-- The expression with an operator registered, and the operator that it replaces. The compiled
sequence stays as it is. -/
def addOperator (expression : Expression) (operator : Operator) :
    Expression × Option Operator :=
  let (operators, replaced) := expression.symbols.operators.register operator
  ({ expression with symbols := { expression.symbols with operators } }, replaced)

/-- The expression with a function registered, and the function that it replaces. The compiled
sequence stays as it is. -/
def addFunction (expression : Expression) (function : Function) :
    Expression × Option Function :=
  let (functions, replaced) := expression.symbols.functions.register function
  ({ expression with symbols := { expression.symbols with functions } }, replaced)

/-- The expression with its bindings changed. A name bound for the first time may mean
something else in the compiled sequence, which is then dropped. -/
def bind (expression : Expression) (name : String) (bindings : Variables) : Expression :=
  let expression :=
    if expression.symbols.bindings.contains name then expression else expression.invalidate
  { expression with symbols := { expression.symbols with bindings } }

/-- The expression with another source. When there is none, because the source could not be
rewritten, the expression stays as it is. -/
def setSource? (expression : Expression) : Option String → Expression
  | some source => { expression with source }.invalidate
  | none => expression

/-- Binds a name: a number or a text in the tables, source by rewriting the source with the
replacement in the place of the name. -/
def setVariableWith (rewrite : String → String → String → Option String)
    (expression : Expression) (name : String) : Binding → Expression
  | .decimal number =>
    expression.bind name (expression.symbols.bindings.setNumber name number)
  | .text written => expression.bind name (expression.symbols.bindings.setText name written)
  | .source replacement => expression.setSource? (rewrite expression.source name replacement)

/-- Binds a name, where the source is rewritten by substitution and every name can be searched
for. -/
def setVariable (expression : Expression) (name : String) (binding : Binding) : Expression :=
  expression.setVariableWith (substitute? fun _ => true) name binding

/-- The tokens of the source. -/
def tokens (expression : Expression) : Except Fault (List String) :=
  tokenize expression.symbols.operators expression.source

/-- The postfix sequence, compiled unless it is there already, and the expression that keeps
it. A fault is not kept. -/
def toPostfix (expression : Expression) : Except Fault (List String) × Expression :=
  match expression.compiled with
  | some tokens => (.ok tokens, expression)
  | none =>
    match compile expression.symbols expression.source with
    | .ok tokens => (.ok tokens, { expression with compiled := some tokens })
    | .error fault => (.error fault, expression)

/-- The postfix sequence as a text, its tokens separated by spaces. -/
def postfixText (expression : Expression) : Except Fault String × Expression :=
  let (tokens, expression) := expression.toPostfix
  (tokens.map (String.intercalate " "), expression)

/-- The value of the expression, and the expression that keeps the postfix sequence. -/
def evaluate (expression : Expression) : Outcome × Expression :=
  match expression.toPostfix with
  | (.error fault, expression) => (.error fault, expression)
  | (.ok tokens, expression) =>
    (evaluatePostfix expression.symbols expression.context tokens, expression)

end Expression

end Formula
