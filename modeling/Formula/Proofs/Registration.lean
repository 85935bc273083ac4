import Formula.Proofs.Caching
import Formula.Proofs.Postfix.Agreement

set_option autoImplicit false

/-!
# Registering operators and functions while a sequence is kept

The sequence that an expression keeps is a list of tokens, and what a token stands for is looked
up again at every evaluation. So an operator or function that is registered after the compilation
is not always without effect on the sequence: it replaces the operator or function of its name,
and an operator also takes its symbol from a variable or function of that name. The evaluation may
then end in another value, and the sequence may even cease to be well formed.

Both are confined to the names that are registered. The value stays what it was when no token of
the sequence stands for what has been registered. The sequence stays well formed when no operator
is registered by the name of one of its variables or functions.

## Main definitions

* `Formula.Symbols.withOperator`, `withFunction` — the tables after a registration.
* `Formula.Symbols.AgreeOn` — two sets of tables in which the tokens of a list are looked up as the
  same.
* `Formula.Expression.performAll` — the expression after a list of requests.
* `Formula.Expression.Keeps` — a compiled sequence is kept during a list of requests.
* `Formula.Expression.Sound` — a compiled sequence that is kept passes the check.

## Main results

* `Formula.Symbols.AgreeOn.evaluatePostfix` — the value of a sequence depends only on what its
  tokens are looked up as.
* `Formula.Expression.AgreeOn.perform`, `performAll` — requests keep up the agreement.
* `Formula.Expression.evaluate_performAll_of_registersUnused` — a registration that concerns no
  token of the sequence has no effect as long as the sequence is kept.
* `Formula.Expression.sound_perform`, `sound_performAll` — requests keep the sequence well formed.
* `Formula.Expression.checkPostfix_of_compiled_performAll` — the sequence is well formed after
  every run, and its evaluation has no structural fault.
-/

namespace Formula

/-! ## The tables after a registration -/

/-- The kinds that a token has by its shape, whatever is registered or bound. -/
def TokenKind.isFixed : TokenKind → Bool
  | leftParen | rightParen | comma | numeral | text => true
  | _ => false

namespace Symbols

/-- The tables with an operator registered. -/
def withOperator (symbols : Symbols) (operator : Operator) : Symbols :=
  { symbols with operators := (symbols.operators.register operator).1 }

/-- The tables with a function registered. -/
def withFunction (symbols : Symbols) (function : Function) : Symbols :=
  { symbols with functions := (symbols.functions.register function).1 }

/-- A registered operator is found by its symbol, and no other lookup changes. -/
lemma find?_withOperator (symbols : Symbols) (operator : Operator) (token : String) :
    (symbols.withOperator operator).operators.find? token =
      if token = operator.symbol then some operator else symbols.operators.find? token :=
  NameTable.find?_insert ..

/-- A registered function is found by its name, and no other lookup changes. -/
lemma find?_withFunction (symbols : Symbols) (function : Function) (token : String) :
    (symbols.withFunction function).functions.find? token =
      if token = function.name then some function else symbols.functions.find? token :=
  NameTable.find?_insert ..

/-- A registered operator takes its symbol from every other table, unless the symbol is a literal
or a separator. -/
lemma classify_withOperator (symbols : Symbols) (operator : Operator) (token : String) :
    (symbols.withOperator operator).classify token =
      if token = operator.symbol ∧ (symbols.classify token).isFixed = false then .operator
      else symbols.classify token := by
  have contained : (symbols.withOperator operator).operators.contains token =
      (decide (token = operator.symbol) || symbols.operators.contains token) := by
    simp only [NameTable.contains_eq_isSome_find?, find?_withOperator]
    by_cases same : token = operator.symbol <;> simp [same]
  have functions : (symbols.withOperator operator).functions = symbols.functions := rfl
  have bindings : (symbols.withOperator operator).bindings = symbols.bindings := rfl
  unfold classify
  rw [contained, functions, bindings]
  by_cases same : token = operator.symbol
  · grind [TokenKind.isFixed]
  · simp [same]

/-- A registered function takes its name only from those that stand for nothing. -/
lemma classify_withFunction (symbols : Symbols) (function : Function) (token : String) :
    (symbols.withFunction function).classify token =
      if token = function.name ∧
        (symbols.classify token = .freeName ∨ symbols.classify token = .unknown) then .function
      else symbols.classify token := by
  have contained : (symbols.withFunction function).functions.contains token =
      (decide (token = function.name) || symbols.functions.contains token) := by
    simp only [NameTable.contains_eq_isSome_find?, find?_withFunction]
    by_cases same : token = function.name <;> simp [same]
  have operators : (symbols.withFunction function).operators = symbols.operators := rfl
  have bindings : (symbols.withFunction function).bindings = symbols.bindings := rfl
  unfold classify
  rw [contained, operators, bindings]
  by_cases same : token = function.name
  · grind
  · simp [same]

/-! ## Tables that agree on the tokens of a sequence -/

/-- The tokens of a list are looked up as the same in two sets of tables: they have the same kinds,
stand for the same operators and functions, and all names are bound to the same values. -/
structure AgreeOn (tokens : List String) (symbols other : Symbols) : Prop where
  kind : ∀ token ∈ tokens, other.classify token = symbols.classify token
  operator : ∀ token ∈ tokens, symbols.classify token = .operator →
    other.operators.find? token = symbols.operators.find? token
  function : ∀ token ∈ tokens, symbols.classify token = .function →
    other.functions.find? token = symbols.functions.find? token
  bindings : other.bindings = symbols.bindings

namespace AgreeOn

variable {symbols other : Symbols} {tokens : List String}

/-- Agreement of tables on tokens goes both ways. -/
lemma symm (agree : AgreeOn tokens symbols other) : AgreeOn tokens other symbols where
  kind token member := (agree.kind token member).symm
  operator token member isOperator :=
    (agree.operator token member (agree.kind token member ▸ isOperator)).symm
  function token member isFunction :=
    (agree.function token member (agree.kind token member ▸ isFunction)).symm
  bindings := agree.bindings.symm

/-- What is registered leaves the sequence as it was when no token stands for it. -/
lemma of_withOperator {operator : Operator}
    (unused : operator.symbol ∈ tokens →
      (symbols.withOperator operator).classify operator.symbol ≠ .operator) :
    AgreeOn tokens symbols (symbols.withOperator operator) := by
  have kind : ∀ token ∈ tokens,
      (symbols.withOperator operator).classify token = symbols.classify token := by
    intro token member
    rw [classify_withOperator]
    refine if_neg ?_
    rintro ⟨rfl, free⟩
    exact unused member (by rw [classify_withOperator, if_pos ⟨rfl, free⟩])
  refine ⟨kind, fun token member isOperator => ?_, fun _ _ _ => rfl, rfl⟩
  rw [find?_withOperator]
  refine if_neg ?_
  rintro rfl
  exact unused member ((kind _ member).trans isOperator)

/-- What is registered leaves the sequence as it was when no token stands for it. -/
lemma of_withFunction {function : Function}
    (unused : function.name ∈ tokens →
      (symbols.withFunction function).classify function.name ≠ .function) :
    AgreeOn tokens symbols (symbols.withFunction function) := by
  have kind : ∀ token ∈ tokens,
      (symbols.withFunction function).classify token = symbols.classify token := by
    intro token member
    rw [classify_withFunction]
    refine if_neg ?_
    rintro ⟨rfl, free⟩
    exact unused member (by rw [classify_withFunction, if_pos ⟨rfl, free⟩])
  refine ⟨kind, fun _ _ _ => rfl, fun token member isFunction => ?_, rfl⟩
  rw [find?_withFunction]
  refine if_neg ?_
  rintro rfl
  exact unused member ((kind _ member).trans isFunction)

/-- Tables that agree still do so after the same operator has been registered in both. -/
lemma withOperator (agree : AgreeOn tokens symbols other) (operator : Operator) :
    AgreeOn tokens (symbols.withOperator operator) (other.withOperator operator) := by
  refine ⟨fun token member => ?_, fun token member isOperator => ?_,
    fun token member isFunction => ?_, agree.bindings⟩
  · rw [classify_withOperator, classify_withOperator, agree.kind token member]
  · rw [find?_withOperator, find?_withOperator]
    by_cases same : token = operator.symbol
    · rw [if_pos same, if_pos same]
    · rw [classify_withOperator, if_neg fun both => same both.1] at isOperator
      rw [if_neg same, if_neg same, agree.operator token member isOperator]
  · rw [classify_withOperator] at isFunction
    split at isFunction
    · cases isFunction
    · exact agree.function token member isFunction

/-- Tables that agree still do so after the same function has been registered in both. -/
lemma withFunction (agree : AgreeOn tokens symbols other) (function : Function) :
    AgreeOn tokens (symbols.withFunction function) (other.withFunction function) := by
  refine ⟨fun token member => ?_, fun token member isOperator => ?_,
    fun token member isFunction => ?_, agree.bindings⟩
  · rw [classify_withFunction, classify_withFunction, agree.kind token member]
  · rw [classify_withFunction] at isOperator
    split at isOperator
    · cases isOperator
    · exact agree.operator token member isOperator
  · rw [find?_withFunction, find?_withFunction]
    by_cases same : token = function.name
    · rw [if_pos same, if_pos same]
    · rw [classify_withFunction, if_neg fun both => same both.1] at isFunction
      rw [if_neg same, if_neg same, agree.function token member isFunction]

/-- Binding names alike in tables that agree, none of them for the first time, keeps up the
agreement. -/
lemma withBindings (agree : AgreeOn tokens symbols other) {bindings : Variables}
    (bound : ∀ name, bindings.contains name = symbols.bindings.contains name) :
    AgreeOn tokens { symbols with bindings } { other with bindings } := by
  have same : symbols.SameNames { symbols with bindings } := ⟨rfl, rfl, bound⟩
  have sameOther : other.SameNames { other with bindings } :=
    ⟨rfl, rfl, fun name => by rw [agree.bindings]; exact bound name⟩
  refine ⟨fun token member => ?_, fun token member isOperator => ?_,
    fun token member isFunction => ?_, rfl⟩
  · rw [same.classify, sameOther.classify, agree.kind token member]
  · exact agree.operator token member (same.classify token ▸ isOperator)
  · exact agree.function token member (same.classify token ▸ isFunction)

/-- A token does the same to the stack in tables that agree on it. -/
lemma evaluationStep (agree : AgreeOn tokens symbols other) (context : NumericContext)
    (stack : List Slot) {token : String} (member : token ∈ tokens) :
    Evaluation.step other context stack token = Evaluation.step symbols context stack token := by
  unfold Evaluation.step
  rw [agree.kind token member, agree.bindings]
  cases kind : symbols.classify token <;> dsimp only
  case operator => rw [Evaluation.applyOperator, agree.operator token member kind]; rfl
  case function => rw [Evaluation.applyFunction, agree.function token member kind]; rfl

/-- A run of tokens does the same to the stack in tables that agree on all of them. -/
lemma evaluationSteps (agree : AgreeOn tokens symbols other) (context : NumericContext)
    (stack : List Slot) {run : List String} (inside : ∀ token ∈ run, token ∈ tokens) :
    Evaluation.steps other context stack run = Evaluation.steps symbols context stack run := by
  induction run generalizing stack with
  | nil => rfl
  | cons token rest ih =>
    obtain ⟨member, others⟩ := List.forall_mem_cons.1 inside
    rw [Evaluation.steps_cons, Evaluation.steps_cons, agree.evaluationStep context stack member]
    exact congrArg _ (funext fun next => ih next others)

/-- **The value of a sequence depends only on what its tokens are looked up as.** -/
theorem evaluatePostfix (agree : AgreeOn tokens symbols other) (context : NumericContext) :
    Formula.evaluatePostfix other context tokens =
      Formula.evaluatePostfix symbols context tokens := by
  rw [Formula.evaluatePostfix, Formula.evaluatePostfix, Evaluation.build, Evaluation.build,
    agree.evaluationSteps context [] fun _ member => member]

end AgreeOn

end Symbols

/-! ## The check under changed tables -/

section Check

variable {symbols other : Symbols} {tokens : List String}

/-- The count after a list of tokens depends only on their kinds. -/
lemma OperandCount.steps_congr (count : OperandCount)
    (kind : ∀ token ∈ tokens, other.classify token = symbols.classify token) :
    count.steps other tokens = count.steps symbols tokens := by
  induction tokens generalizing count with
  | nil => rfl
  | cons token rest ih =>
    obtain ⟨first, others⟩ := List.forall_mem_cons.1 kind
    have stepped : count.step other token = count.step symbols token := by
      simp only [OperandCount.step, first]
    rw [OperandCount.steps, OperandCount.steps, stepped]
    exact congrArg _ (funext fun next => ih next others)

/-- The check of a sequence depends only on the kinds of its tokens. -/
lemma checkPostfix_congr
    (kind : ∀ token ∈ tokens, other.classify token = symbols.classify token) :
    checkPostfix other tokens = checkPostfix symbols tokens := by
  rw [checkPostfix, checkPostfix, OperandCount.steps_congr .empty kind]

end Check

namespace Expression

section

variable (rewrite : String → String → String → Option String)

/-- The expression after a list of requests. -/
def performAll : Expression → List Request → Expression
  | expression, [] => expression
  | expression, request :: rest => performAll (expression.perform rewrite request).2 rest

/-- The compiled sequence is kept when a list of requests begins and after each of them. -/
def Keeps (tokens : List String) : Expression → List Request → Prop
  | expression, [] => expression.compiled = some tokens
  | expression, request :: rest =>
    expression.compiled = some tokens ∧ Keeps tokens (expression.perform rewrite request).2 rest

end

variable {rewrite : String → String → String → Option String}

/-- The sequence is kept when the requests begin. -/
lemma Keeps.kept {expression : Expression} {tokens : List String} {requests : List Request}
    (keeps : expression.Keeps rewrite tokens requests) : expression.compiled = some tokens := by
  cases requests with
  | nil => exact keeps
  | cons _ _ => exact keeps.1

/-- Registering an operator changes nothing but the tables. -/
lemma addOperator_fst (expression : Expression) (operator : Operator) :
    (expression.addOperator operator).1 =
      { expression with symbols := expression.symbols.withOperator operator } := rfl

/-- Registering a function changes nothing but the tables. -/
lemma addFunction_fst (expression : Expression) (function : Function) :
    (expression.addFunction function).1 =
      { expression with symbols := expression.symbols.withFunction function } := rfl

/-- A compiled sequence that is kept is the one that is evaluated. -/
lemma evaluate_fst_of_compiled {expression : Expression} {tokens : List String}
    (kept : expression.compiled = some tokens) :
    expression.evaluate.1 = evaluatePostfix expression.symbols expression.context tokens := by
  unfold evaluate toPostfix
  rw [kept]

/-- Asking for the sequence changes nothing while one is kept. -/
lemma toPostfix_snd_of_compiled {expression : Expression} {tokens : List String}
    (kept : expression.compiled = some tokens) : expression.toPostfix.2 = expression := by
  unfold toPostfix
  rw [kept]

/-- Binding a name keeps the sequence only if the name was bound before. -/
lemma contains_of_compiled_bind {expression : Expression} {name : String} {bindings : Variables}
    {tokens : List String} (kept : (expression.bind name bindings).compiled = some tokens) :
    expression.symbols.bindings.contains name = true := by
  by_contra new
  simp [bind, new, invalidate] at kept

/-- Binding a name that was bound before changes nothing but the bindings. -/
lemma bind_of_contains {expression : Expression} {name : String} {bindings : Variables}
    (again : expression.symbols.bindings.contains name = true) :
    expression.bind name bindings =
      { expression with symbols := { expression.symbols with bindings } } := by
  simp [bind, again]

/-- Binding a name that was bound before adds no bound name. -/
lemma contains_of_again {before after : Variables} {name : String}
    (again : before.contains name = true)
    (bound : ∀ other, after.contains other = (decide (other = name) || before.contains other))
    (other : String) : after.contains other = before.contains other := by
  rw [bound other]
  by_cases same : other = name
  · simp [same, again]
  · simp [same]

/-! ## A registration without effect -/

/-- Two expressions that keep the same sequence and differ in nothing that its tokens are looked up
as. -/
structure AgreeOn (tokens : List String) (first second : Expression) : Prop where
  kept : first.compiled = some tokens
  keptToo : second.compiled = some tokens
  source : second.source = first.source
  context : second.context = first.context
  symbols : first.symbols.AgreeOn tokens second.symbols

namespace AgreeOn

variable {tokens : List String} {first second : Expression}

/-- Expressions that agree on the sequence have the same value. -/
lemma evaluate (agree : AgreeOn tokens first second) : second.evaluate.1 = first.evaluate.1 := by
  rw [evaluate_fst_of_compiled agree.kept, evaluate_fst_of_compiled agree.keptToo, agree.context,
    agree.symbols.evaluatePostfix]

/-- Binding a name once more keeps up the agreement. -/
lemma bind (agree : AgreeOn tokens first second) {name : String} {bindings : Variables}
    (bound : ∀ other, bindings.contains other =
      (decide (other = name) || first.symbols.bindings.contains other))
    (keeps : (first.bind name bindings).compiled = some tokens) :
    AgreeOn tokens (first.bind name bindings) (second.bind name bindings) := by
  have again := contains_of_compiled_bind keeps
  have againToo : second.symbols.bindings.contains name = true := by
    rw [agree.symbols.bindings, again]
  rw [bind_of_contains again, bind_of_contains againToo]
  exact { agree with symbols := agree.symbols.withBindings (contains_of_again again bound) }

/-- Binding a name keeps up the agreement, as long as the sequence is kept. -/
lemma setVariableWith (agree : AgreeOn tokens first second) (name : String) (binding : Binding)
    (keeps : (first.setVariableWith rewrite name binding).compiled = some tokens) :
    AgreeOn tokens (first.setVariableWith rewrite name binding)
      (second.setVariableWith rewrite name binding) := by
  cases binding with
  | decimal number =>
    rw [Expression.setVariableWith, Expression.setVariableWith, agree.symbols.bindings]
    exact agree.bind (fun other => Variables.contains_setNumber ..) keeps
  | text written =>
    rw [Expression.setVariableWith, Expression.setVariableWith, agree.symbols.bindings]
    exact agree.bind (fun other => Variables.contains_setText ..) keeps
  | source replacement =>
    rw [Expression.setVariableWith] at keeps ⊢
    rw [Expression.setVariableWith, agree.source]
    cases rewritten : rewrite first.source name replacement with
    | none => exact agree
    | some source =>
      rw [rewritten] at keeps
      cases keeps

/-- **A request keeps up the agreement**, as long as the sequence is kept.

**Proof sketch.** By the request. What drops the sequence of one expression would drop that of the
other, since it depends on the bound names and the source only. What is registered or bound is so
in both. Everything else leaves the symbols alone. -/
lemma perform (agree : AgreeOn tokens first second) (request : Request)
    (keeps : (first.perform rewrite request).2.compiled = some tokens) :
    AgreeOn tokens (first.perform rewrite request).2 (second.perform rewrite request).2 := by
  have asked : AgreeOn tokens first.toPostfix.2 second.toPostfix.2 := by
    rw [toPostfix_snd_of_compiled agree.kept, toPostfix_snd_of_compiled agree.keptToo]
    exact agree
  cases request with
  | setVariable name binding => exact agree.setVariableWith name binding keeps
  | setContext context => exact { agree with context := rfl }
  | setPrecision precision =>
    exact { agree with context := congrArg (·.withPrecision precision) agree.context }
  | setRounding rounding =>
    exact { agree with context := congrArg (·.withRounding rounding) agree.context }
  | addOperator operator =>
    exact { agree with symbols := agree.symbols.withOperator operator }
  | addFunction function =>
    exact { agree with symbols := agree.symbols.withFunction function }
  | invalidate => cases keeps
  | tokens => exact agree
  | toPostfix => exact asked
  | postfixText => exact asked
  | evaluate =>
    show AgreeOn tokens first.evaluate.2 second.evaluate.2
    rw [evaluate_snd, evaluate_snd]
    exact asked

/-- **A list of requests keeps up the agreement**, as long as the sequence is kept. -/
lemma performAll (agree : AgreeOn tokens first second) (requests : List Request)
    (keeps : first.Keeps rewrite tokens requests) :
    AgreeOn tokens (first.performAll rewrite requests) (second.performAll rewrite requests) := by
  induction requests generalizing first second with
  | nil => exact agree
  | cons request rest ih =>
    obtain ⟨-, later⟩ := keeps
    exact ih (agree.perform request later.kept) later

end AgreeOn

/-- The request registers an operator or a function, and no token of the sequence stands for it
afterwards. -/
def Request.RegistersUnused (symbols : Symbols) (tokens : List String) : Request → Prop
  | .addOperator operator => operator.symbol ∈ tokens →
    (symbols.withOperator operator).classify operator.symbol ≠ .operator
  | .addFunction function => function.name ∈ tokens →
    (symbols.withFunction function).classify function.name ≠ .function
  | _ => False

/-- A registration leaves the compiled sequence as it is. -/
lemma compiled_perform_of_registersUnused {expression : Expression} {tokens : List String}
    {registration : Request} (unused : registration.RegistersUnused expression.symbols tokens) :
    (expression.perform rewrite registration).2.compiled = expression.compiled := by
  cases registration with
  | addOperator operator => rfl
  | addFunction function => rfl
  | _ => cases unused

/-- Expressions with and without a registration agree on a sequence that it does not concern. -/
lemma agreeOn_perform_of_registersUnused {expression : Expression} {tokens : List String}
    {registration : Request} (kept : expression.compiled = some tokens)
    (unused : registration.RegistersUnused expression.symbols tokens) :
    AgreeOn tokens (expression.perform rewrite registration).2 expression := by
  cases registration with
  | addOperator operator => exact ⟨kept, kept, rfl, rfl, .symm (.of_withOperator unused)⟩
  | addFunction function => exact ⟨kept, kept, rfl, rfl, .symm (.of_withFunction unused)⟩
  | _ => cases unused

/-- **A registration that concerns no token of the sequence has no effect as long as the sequence
is kept.** Whatever the expression is asked afterwards, its value is the one that it would have
without the registration.

**Proof sketch.** The expressions with and without the registration agree on the tokens of the
sequence, the requests keep up the agreement, and so the values are the same. -/
theorem evaluate_performAll_of_registersUnused
    (rewrite : String → String → String → Option String) (expression : Expression)
    (tokens : List String) (registration : Request) (requests : List Request)
    (unused : registration.RegistersUnused expression.symbols tokens)
    (keeps : (expression.perform rewrite registration).2.Keeps rewrite tokens requests) :
    ((expression.perform rewrite registration).2.performAll rewrite requests).evaluate.1 =
      (expression.performAll rewrite requests).evaluate.1 := by
  have kept : expression.compiled = some tokens := by
    rw [← compiled_perform_of_registersUnused unused]
    exact keeps.kept
  have agree : AgreeOn tokens (expression.perform rewrite registration).2 expression :=
    agreeOn_perform_of_registersUnused kept unused
  exact (agree.performAll requests keeps).evaluate.symm

/-- A function by the name of a bound variable is registered, and the name is then bound to another
number. -/
theorem evaluate_performAll_of_registersUnused_shadowed :
    let expression := ((Expression.new "2*x").setVariable "x" (.decimal ⟨3, 0⟩)).evaluate.2
    let registered := (expression.addFunction ⟨"x", .variadic, Function.maximum.apply⟩).1
    expression.compiled = some ["2", "x", "*"] ∧
      expression.evaluate.1 = .ok (.decimal ⟨6, 0⟩) ∧
      registered.evaluate.1 = .ok (.decimal ⟨6, 0⟩) ∧
      (registered.setVariable "x" (.decimal ⟨4, 0⟩)).evaluate.1 = .ok (.decimal ⟨8, 0⟩) := by
  intro expression registered
  have kept : expression.compiled = some ["2", "x", "*"] := by rfl
  have unused : Request.RegistersUnused expression.symbols ["2", "x", "*"]
      (.addFunction ⟨"x", .variadic, Function.maximum.apply⟩) := by
    intro _
    decide
  let rewrite := fun source name replacement => some (substitute source name replacement)
  have same := evaluate_performAll_of_registersUnused rewrite expression ["2", "x", "*"]
    (.addFunction ⟨"x", .variadic, Function.maximum.apply⟩)
  refine ⟨kept, by decide, ?_, ?_⟩
  · exact (same [] unused kept).trans (by decide)
  · exact (same [.setVariable "x" (.decimal ⟨4, 0⟩)] unused ⟨kept, by rfl⟩).trans (by decide)

/-- A registration that replaces an operator of the sequence takes effect at once: the value of the
same sequence is another one. -/
theorem evaluate_addOperator_ne :
    let expression := (Expression.new "1+2").evaluate.2
    let registered := (expression.addOperator ⟨"+", 20, true, Operator.subtract⟩).1
    expression.compiled = some ["1", "2", "+"] ∧ registered.compiled = some ["1", "2", "+"] ∧
      expression.evaluate.1 = .ok (.decimal ⟨3, 0⟩) ∧
      registered.evaluate.1 = .ok (.decimal ⟨-1, 0⟩) :=
  ⟨by rfl, by rfl, by rfl, by rfl⟩

/-! ## Well-formed sequences -/

/-- A compiled sequence that is kept passes the check. -/
def Sound (expression : Expression) : Prop :=
  ∀ tokens, expression.compiled = some tokens →
    checkPostfix expression.symbols tokens = .ok ()

/-- No operator is registered by the name of a variable or function of the sequence that is
kept. -/
def Spares (expression : Expression) : Request → Prop
  | .addOperator operator => ∀ tokens, expression.compiled = some tokens →
    operator.symbol ∈ tokens →
      expression.symbols.classify operator.symbol ≠ .boundName ∧
        expression.symbols.classify operator.symbol ≠ .function
  | _ => True

/-- Each request of a list spares the sequence that is kept when its turn comes. -/
def SparesAll (rewrite : String → String → String → Option String) :
    Expression → List Request → Prop
  | _, [] => True
  | expression, request :: rest =>
    expression.Spares request ∧ SparesAll rewrite (expression.perform rewrite request).2 rest

variable {expression : Expression}

/-- An expression without a compiled sequence is sound. -/
lemma sound_of_compiled_eq_none (fresh : expression.compiled = none) : expression.Sound := by
  intro tokens kept
  rw [fresh] at kept
  cases kept

/-- Other tables in which the tokens of the sequence have the same kinds keep it well formed. -/
lemma Sound.withSymbols (sound : expression.Sound) {symbols : Symbols}
    (kind : ∀ tokens, expression.compiled = some tokens →
      checkPostfix expression.symbols tokens = .ok () → ∀ token ∈ tokens,
        symbols.classify token = expression.symbols.classify token) :
    Sound { expression with symbols } := by
  intro tokens kept
  have accepted := sound tokens kept
  rw [← accepted]
  exact checkPostfix_congr (kind tokens kept accepted)

/-- A registered operator keeps the sequence well formed if it spares it: its symbol is not in the
sequence, or is an operator there already. -/
lemma Sound.addOperator (sound : expression.Sound) {operator : Operator}
    (spares : expression.Spares (.addOperator operator)) :
    (expression.addOperator operator).1.Sound := by
  rw [addOperator_fst]
  refine sound.withSymbols fun tokens kept accepted token member => ?_
  rw [Symbols.classify_withOperator]
  split
  case isTrue both =>
    obtain ⟨rfl, free⟩ := both
    obtain ⟨notBound, notFunction⟩ := spares tokens kept member
    obtain ⟨notFree, notUnknown⟩ := classify_of_checkPostfix accepted member
    cases kind : expression.symbols.classify operator.symbol <;>
      simp_all [TokenKind.isFixed]
  case isFalse => rfl

/-- A registered function keeps the sequence well formed, since all names in it stand for something
already. -/
lemma Sound.addFunction (sound : expression.Sound) (function : Function) :
    (expression.addFunction function).1.Sound := by
  rw [addFunction_fst]
  refine sound.withSymbols fun tokens kept accepted token member => ?_
  obtain ⟨notFree, notUnknown⟩ := classify_of_checkPostfix accepted member
  rw [Symbols.classify_withFunction]
  refine if_neg ?_
  rintro ⟨-, free | unknown⟩
  · exact notFree free
  · exact notUnknown unknown

/-- Binding a name drops the sequence or changes the kind of no token. -/
lemma Sound.bind (sound : expression.Sound) {name : String} {bindings : Variables}
    (bound : ∀ other, bindings.contains other =
      (decide (other = name) || expression.symbols.bindings.contains other)) :
    (expression.bind name bindings).Sound := by
  cases kept : (expression.bind name bindings).compiled with
  | none => exact sound_of_compiled_eq_none kept
  | some tokens =>
    have again := contains_of_compiled_bind kept
    rw [bind_of_contains again]
    have same : expression.symbols.SameNames { expression.symbols with bindings } :=
      ⟨rfl, rfl, contains_of_again again bound⟩
    exact sound.withSymbols fun _ _ _ token _ => same.classify token

/-- A binding keeps the sequence sound: a name that is bound anew makes the sequence be dropped. -/
lemma Sound.setVariableWith (sound : expression.Sound) (name : String) (binding : Binding) :
    (expression.setVariableWith rewrite name binding).Sound := by
  cases binding with
  | decimal number => exact sound.bind fun other => Variables.contains_setNumber ..
  | text written => exact sound.bind fun other => Variables.contains_setText ..
  | source replacement =>
    rw [Expression.setVariableWith]
    cases rewrite expression.source name replacement with
    | none => exact sound
    | some source => exact sound_of_compiled_eq_none rfl

/-- What has just been compiled has passed the check. -/
lemma Sound.toPostfix (sound : expression.Sound) : expression.toPostfix.2.Sound := by
  unfold Expression.toPostfix
  cases kept : expression.compiled with
  | some tokens => exact sound
  | none =>
    cases compiled : compile expression.symbols expression.source with
    | error fault => exact sound
    | ok tokens =>
      intro other same
      obtain rfl := Option.some.inj same
      obtain ⟨_, -, checked⟩ := Fault.bind_eq_ok_iff.1 compiled
      obtain ⟨_, accepted, same⟩ := Fault.bind_eq_ok_iff.1 checked
      rw [← Except.ok.inj same]
      exact accepted

/-- **A request keeps the sequence well formed**, if it registers no operator by the name of a
variable or function of the sequence.

**Proof sketch.** By the request. A sequence that is dropped needs no check, and one that is
compiled has passed it. Otherwise the sequence stays, and none of its tokens changes its kind. -/
theorem sound_perform (sound : expression.Sound) (request : Request)
    (spares : expression.Spares request) : (expression.perform rewrite request).2.Sound := by
  cases request with
  | setVariable name binding => exact sound.setVariableWith name binding
  | setContext context => exact sound
  | setPrecision precision => exact sound
  | setRounding rounding => exact sound
  | addOperator operator => exact sound.addOperator spares
  | addFunction function => exact sound.addFunction function
  | invalidate => exact sound_of_compiled_eq_none rfl
  | tokens => exact sound
  | toPostfix => exact sound.toPostfix
  | postfixText => exact sound.toPostfix
  | evaluate =>
    show expression.evaluate.2.Sound
    rw [evaluate_snd]
    exact sound.toPostfix

/-- **A run keeps the sequence well formed**, if each request spares it. -/
theorem sound_performAll (sound : expression.Sound) (requests : List Request)
    (spares : expression.SparesAll rewrite requests) :
    (expression.performAll rewrite requests).Sound := by
  induction requests generalizing expression with
  | nil => exact sound
  | cons request rest ih =>
    obtain ⟨now, later⟩ := spares
    exact ih (sound_perform sound request now) later

/-- **The sequence is well formed after every run.** Whatever an expression without a compiled
sequence is asked, in any order and with any way to rewrite the source, the sequence that it keeps
afterwards passes the check with the symbols that it has by then, provided that no operator is
registered by the name of a variable or function of a sequence that is kept. So its evaluation has
a structural fault only if an operator or function makes it up itself. -/
theorem checkPostfix_of_compiled_performAll
    (rewrite : String → String → String → Option String) (expression : Expression)
    (fresh : expression.compiled = none) (requests : List Request)
    (spares : expression.SparesAll rewrite requests) (tokens : List String)
    (kept : (expression.performAll rewrite requests).compiled = some tokens) :
    checkPostfix (expression.performAll rewrite requests).symbols tokens = .ok () ∧
      ∀ fault, (expression.performAll rewrite requests).evaluate.1 = .error fault →
        fault.isStructural = true →
          ∃ term : Term, term.WellFormed (expression.performAll rewrite requests).symbols ∧
            term.postorder = tokens ∧
            term.Raises (expression.performAll rewrite requests).symbols
              (expression.performAll rewrite requests).context fault := by
  have accepted := sound_performAll (sound_of_compiled_eq_none fresh) requests spares tokens kept
  refine ⟨accepted, fun fault failed structural => ?_⟩
  rw [evaluate_fst_of_compiled kept] at failed
  exact Evaluation.exists_raises_of_evaluatePostfix accepted failed structural

/-- A name of the sequence is bound again, an operator of the sequence is replaced, and a function
is registered by the name of the variable. -/
theorem checkPostfix_of_compiled_performAll_replaced :
    let rewrite := fun source name replacement => some (substitute source name replacement)
    let requests : List Request :=
      [.setVariable "x" (.decimal ⟨3, 0⟩), .evaluate, .setVariable "x" (.text "x"),
        .addOperator ⟨"*", 30, true, Operator.add⟩,
        .addFunction ⟨"x", .variadic, Function.maximum.apply⟩]
    let reached := (Expression.new "max(1,2)*x").performAll rewrite requests
    reached.compiled = some ["(", "1", "2", "max", "x", "*"] ∧
      checkPostfix reached.symbols ["(", "1", "2", "max", "x", "*"] = .ok () := by
  intro rewrite requests reached
  have kept : reached.compiled = some ["(", "1", "2", "max", "x", "*"] := by decide
  have spares : (Expression.new "max(1,2)*x").SparesAll rewrite requests := by
    refine ⟨trivial, trivial, trivial, fun tokens same _ => ?_, trivial, trivial⟩
    decide
  exact ⟨kept, (checkPostfix_of_compiled_performAll rewrite (Expression.new "max(1,2)*x") rfl
    requests spares _ kept).1⟩

/-- An operator that is registered by the name of a function of the sequence leaves a sequence that
the check rejects, and its evaluation has a structural fault. -/
theorem checkPostfix_addOperator_ne_ok :
    let expression := (Expression.new "max(1,2)").toPostfix.2
    let registered := (expression.addOperator ⟨"max", 10, true, Operator.add⟩).1
    registered.compiled = some ["(", "1", "2", "max"] ∧
      checkPostfix registered.symbols ["(", "1", "2", "max"] = .error .mismatchedParentheses ∧
      registered.evaluate.1 = .error .surplusOperands ∧ Fault.surplusOperands.isStructural = true :=
  ⟨by rfl, by rfl, by rfl, rfl⟩

end Expression

end Formula
