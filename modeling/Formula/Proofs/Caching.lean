import Formula.Expression
import Mathlib.Data.List.Basic

set_option autoImplicit false

/-!
# The compiled sequence is never stale

An expression keeps its postfix sequence after it has been compiled. Nobody who asks the
expression for its sequence or its value can tell: every answer is the one that a copy without a
compiled sequence would give. Only operators and functions that are registered while a sequence is
kept are exempt, since they take effect with the next compilation.

The reason is an invariant. A sequence that is kept is the one that would be compiled again.
Binding a name for the first time and rewriting the source drop the sequence. Binding a name once
more keeps it, even if the name goes from the numbers to the texts or back, because compilation
asks only which names are bound. The context has no part in compilation at all.

## Main definitions

* `Formula.Expression.Request`, `Answer` — what an expression can be asked, and what it returns.
* `Formula.Expression.perform` — the answer to a request, and the expression afterwards.
* `Formula.Expression.answers` — the answers to a list of requests, one after the other.
* `Formula.Expression.freshAnswers` — the answers of copies without a compiled sequence.
* `Formula.Expression.Coherent` — the invariant.

## Main results

* `Formula.Expression.coherent_perform` — a request keeps the invariant.
* `Formula.Expression.perform_fst` — under the invariant the answer is that of a copy without a
  compiled sequence.
* `Formula.Expression.answers_eq_freshAnswers` — the same for all answers of a run.
-/

namespace Formula

namespace Expression

/-- What an expression can be asked to do. -/
inductive Request where
  | setVariable (name : String) (binding : Binding)
  | setContext (context : NumericContext)
  | setPrecision (precision : UInt32)
  | setRounding (rounding : RoundingMode)
  | addOperator (operator : Operator)
  | addFunction (function : Function)
  | invalidate
  | tokens
  | toPostfix
  | postfixText
  | evaluate

/-- What an expression returns. -/
inductive Answer where
  /-- The request only changes the expression. -/
  | done
  /-- The operator that has been replaced. -/
  | operator (replaced : Option Operator)
  /-- The function that has been replaced. -/
  | function (replaced : Option Function)
  /-- The tokens of the source, or those of its postfix sequence. -/
  | tokens (tokens : Except Fault (List String))
  /-- The postfix sequence as a text. -/
  | text (text : Except Fault String)
  /-- The value. -/
  | outcome (outcome : Outcome)

section

variable (rewrite : String → String → String → Option String)

/-- The answer to a request and the expression afterwards, for a way to rewrite the source. -/
def perform (expression : Expression) : Request → Answer × Expression
  | .setVariable name binding => (.done, expression.setVariableWith rewrite name binding)
  | .setContext context => (.done, expression.setContext context)
  | .setPrecision precision => (.done, expression.setPrecision precision)
  | .setRounding rounding => (.done, expression.setRounding rounding)
  | .addOperator operator =>
    let (expression, replaced) := expression.addOperator operator
    (.operator replaced, expression)
  | .addFunction function =>
    let (expression, replaced) := expression.addFunction function
    (.function replaced, expression)
  | .invalidate => (.done, expression.invalidate)
  | .tokens => (.tokens expression.tokens, expression)
  | .toPostfix =>
    let (tokens, expression) := expression.toPostfix
    (.tokens tokens, expression)
  | .postfixText =>
    let (text, expression) := expression.postfixText
    (.text text, expression)
  | .evaluate =>
    let (outcome, expression) := expression.evaluate
    (.outcome outcome, expression)

/-- Operators and functions are registered only while no compiled sequence is kept. -/
def Allows (expression : Expression) : Request → Prop
  | .addOperator _ | .addFunction _ => expression.compiled = none
  | _ => True

/-- Each request of a list is allowed when its turn comes. -/
def AllowsAll : Expression → List Request → Prop
  | _, [] => True
  | expression, request :: rest =>
    expression.Allows request ∧ AllowsAll (expression.perform rewrite request).2 rest

/-- The answers to a list of requests, one after the other. -/
def answers : Expression → List Request → List Answer
  | _, [] => []
  | expression, request :: rest =>
    (expression.perform rewrite request).1 ::
      answers (expression.perform rewrite request).2 rest

/-- The answers to the same requests, where each one is given by a copy of the expression at that
time that has no compiled sequence. -/
def freshAnswers : Expression → List Request → List Answer
  | _, [] => []
  | expression, request :: rest =>
    (expression.invalidate.perform rewrite request).1 ::
      freshAnswers (expression.perform rewrite request).2 rest

end

/-- A compiled sequence that is kept is the one that would be compiled again. -/
def Coherent (expression : Expression) : Prop :=
  ∀ tokens, expression.compiled = some tokens →
    compile expression.symbols expression.source = .ok tokens

variable {rewrite : String → String → String → Option String} {expression : Expression}

/-! ## What a request leaves -/

/-- An expression without a compiled sequence is coherent. -/
lemma coherent_of_compiled_eq_none (fresh : expression.compiled = none) :
    expression.Coherent := by
  intro tokens kept
  rw [fresh] at kept
  cases kept

/-- Binding a name drops the compiled sequence or adds no bound name. -/
lemma Coherent.bind (coherent : expression.Coherent) {name : String} {bindings : Variables}
    (bound : ∀ other, bindings.contains other =
      (decide (other = name) || expression.symbols.bindings.contains other)) :
    (expression.bind name bindings).Coherent := by
  unfold Expression.bind
  by_cases again : expression.symbols.bindings.contains name = true
  · -- the name was bound before, so the sequence is kept and the bound names are the same
    have same : expression.symbols.SameNames { expression.symbols with bindings } := by
      refine ⟨rfl, rfl, fun other => ?_⟩
      rw [bound other]
      by_cases h : other = name
      · simp [h, again]
      · simp [h]
    intro tokens kept
    simp only [again, if_true] at kept ⊢
    rw [same.compile]
    exact coherent tokens kept
  · -- the name is new, so no sequence is kept
    refine coherent_of_compiled_eq_none ?_
    simp [again, invalidate]

/-- Rewriting the source drops the compiled sequence or changes nothing. -/
lemma Coherent.setSource? (coherent : expression.Coherent) (source : Option String) :
    (expression.setSource? source).Coherent := by
  cases source with
  | none => exact coherent
  | some source => exact coherent_of_compiled_eq_none rfl

/-- A binding keeps an expression coherent: the sequence is dropped if the name or the source is
new. -/
lemma Coherent.setVariableWith (coherent : expression.Coherent) (name : String)
    (binding : Binding) : (expression.setVariableWith rewrite name binding).Coherent := by
  cases binding with
  | decimal number => exact coherent.bind fun other => Variables.contains_setNumber ..
  | text written => exact coherent.bind fun other => Variables.contains_setText ..
  | source replacement => exact coherent.setSource? _

/-- The sequence that is kept after one has been asked for was kept before, or has just been
compiled. -/
lemma Coherent.toPostfix (coherent : expression.Coherent) : expression.toPostfix.2.Coherent := by
  unfold Expression.toPostfix
  cases kept : expression.compiled with
  | some tokens => exact coherent
  | none =>
    cases compiled : compile expression.symbols expression.source with
    | error fault => exact coherent
    | ok tokens =>
      intro other same
      obtain rfl := Option.some.inj same
      exact compiled

/-- An evaluation leaves the same expression as the compilation in it. -/
lemma evaluate_snd (expression : Expression) : expression.evaluate.2 = expression.toPostfix.2 := by
  unfold evaluate
  rcases expression.toPostfix with ⟨fault | tokens, next⟩ <;> rfl

/-- **A request keeps the invariant**, if it registers nothing while a sequence is kept. -/
theorem coherent_perform (coherent : expression.Coherent) (request : Request)
    (allowed : expression.Allows request) :
    (expression.perform rewrite request).2.Coherent := by
  cases request with
  | setVariable name binding => exact coherent.setVariableWith name binding
  | setContext context => exact coherent
  | setPrecision precision => exact coherent
  | setRounding rounding => exact coherent
  | addOperator operator => exact coherent_of_compiled_eq_none allowed
  | addFunction function => exact coherent_of_compiled_eq_none allowed
  | invalidate => exact coherent_of_compiled_eq_none rfl
  | tokens => exact coherent
  | toPostfix => exact coherent.toPostfix
  | postfixText => exact coherent.toPostfix
  | evaluate =>
    show expression.evaluate.2.Coherent
    rw [evaluate_snd]
    exact coherent.toPostfix

/-! ## What a request returns -/

/-- The sequence of a coherent expression is the one that its source compiles to. -/
lemma Coherent.toPostfix_fst (coherent : expression.Coherent) :
    expression.toPostfix.1 = compile expression.symbols expression.source := by
  unfold Expression.toPostfix
  cases kept : expression.compiled with
  | some tokens => exact (coherent tokens kept).symm
  | none => cases compile expression.symbols expression.source <;> rfl

/-- Asking for the sequence changes neither the symbols nor the context. -/
lemma toPostfix_snd (expression : Expression) :
    expression.toPostfix.2.symbols = expression.symbols ∧
      expression.toPostfix.2.context = expression.context := by
  unfold toPostfix
  cases expression.compiled with
  | some tokens => exact ⟨rfl, rfl⟩
  | none => cases compile expression.symbols expression.source <;> exact ⟨rfl, rfl⟩

/-- The value of a coherent expression is that of the sequence that its source compiles to. -/
lemma Coherent.evaluate_fst (coherent : expression.Coherent) :
    expression.evaluate.1 =
      compile expression.symbols expression.source >>=
        evaluatePostfix expression.symbols expression.context := by
  obtain ⟨symbols, context⟩ := toPostfix_snd expression
  rw [← coherent.toPostfix_fst]
  unfold evaluate
  rcases h : expression.toPostfix with ⟨fault | tokens, next⟩
  · rfl
  · rw [h] at symbols context
    rw [← symbols, ← context]
    rfl

/-- **The answer of a coherent expression is that of a copy** without a compiled sequence. -/
theorem perform_fst (coherent : expression.Coherent) (request : Request) :
    (expression.perform rewrite request).1 =
      (expression.invalidate.perform rewrite request).1 := by
  have fresh : expression.invalidate.Coherent := coherent_of_compiled_eq_none rfl
  have compiled : expression.toPostfix.1 = expression.invalidate.toPostfix.1 := by
    rw [coherent.toPostfix_fst, fresh.toPostfix_fst]
    rfl
  have evaluated : expression.evaluate.1 = expression.invalidate.evaluate.1 := by
    rw [coherent.evaluate_fst, fresh.evaluate_fst]
    rfl
  cases request with
  | toPostfix => exact congrArg Answer.tokens compiled
  | postfixText =>
    exact congrArg (fun tokens => Answer.text (tokens.map (String.intercalate " "))) compiled
  | evaluate => exact congrArg Answer.outcome evaluated
  | _ => rfl

/-- **No answer shows that a compiled sequence is kept.** Whatever an expression is asked, in any
order and with any way to rewrite the source, each answer is the one that a copy of the expression
at that time without a compiled sequence gives, provided that operators and functions are
registered only while no sequence is kept.

**Proof sketch.** By induction on the requests. The expression begins without a compiled sequence,
which is coherent, each request keeps it coherent, and a coherent expression answers like its
copy. -/
theorem answers_eq_freshAnswers (rewrite : String → String → String → Option String)
    (expression : Expression) (fresh : expression.compiled = none) (requests : List Request)
    (allowed : expression.AllowsAll rewrite requests) :
    expression.answers rewrite requests = expression.freshAnswers rewrite requests := by
  have coherent : expression.Coherent := coherent_of_compiled_eq_none fresh
  clear fresh
  induction requests generalizing expression with
  | nil => rfl
  | cons request rest ih =>
    obtain ⟨now, later⟩ := allowed
    have next : (expression.perform rewrite request).2.Coherent :=
      coherent_perform coherent request now
    rw [answers, freshAnswers, ← perform_fst coherent, ih _ later next]

/-- The name of a function is bound to a number, to a text and to a piece of source in turn. In
between a function is registered, while a faulty source keeps a sequence from being compiled. -/
theorem answers_eq_freshAnswers_rebinding :
    answers (fun source name replacement => some (substitute source name replacement))
        (.new "2 * max")
        [.evaluate, .addFunction .minimum, .setVariable "max" (.decimal ⟨3, 0⟩), .evaluate,
          .setVariable "max" (.text "'a'"), .postfixText, .evaluate,
          .setVariable "max" (.source "5 - 1"), .postfixText, .evaluate] =
      [.outcome (.error (.unknownName "max")), .function (some .minimum), .done,
        .outcome (.ok (.decimal ⟨6, 0⟩)), .done, .text (.ok "2 max *"),
        .outcome (.error (.unboundVariable "max")), .done, .text (.ok "2 5 1 - *"),
        .outcome (.ok (.decimal ⟨8, 0⟩))] :=
  (answers_eq_freshAnswers _ _ rfl _ (by simp [AllowsAll, Allows]; rfl)).trans rfl

end Expression

end Formula
