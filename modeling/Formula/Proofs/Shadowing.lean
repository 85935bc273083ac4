import Formula.Proofs.Infix.Acceptance
import Formula.Proofs.Registration

set_option autoImplicit false

/-!
# Functions by the name of an operator or a variable

A token that is a registered operator or a bound name never stands for a function. So a function
that is registered by such a name should have no effect on a source that is compiled afterwards.
The kinds of all tokens are what they were, and so is the value of every postfix sequence.

The yard asks for one more thing. After a group has been closed, a function whose name waits before
the left parenthesis is applied, and there the name is looked up among the functions whatever its
kind is. An operator that waits in front of a group is then taken for a function of its name. This
cannot happen to a name that the yard never puts on its stack, or to one that was the name of a
function already, or in a source that closes no group directly behind the name.

## Main definitions

* `Formula.Yard.awaitsGroup` — a token waits directly in front of the innermost open parenthesis.
* `Formula.Yard.avoids` — no group is closed behind a waiting token while tokens are taken in.
* `Formula.Symbols.Spares` — a function of the given name cannot be applied by mistake in a source.

## Main results

* `Formula.Symbols.classify_withFunction_of_shadowed` — no token changes its kind.
* `Formula.Yard.accept_withFunction`, `acceptAll_withFunction` — what the yard does with one token
  and with all of them.
* `Formula.Yard.avoids_of_notMem_stack` — a name that is never put on the stack is avoided.
* `Formula.Expression.evaluate_addFunction_of_shadowed` — the sequence and the value of a source.
-/

namespace Formula

/-- Whether the yard puts tokens of a kind on its stack. -/
def TokenKind.waits : TokenKind → Bool
  | operator | function | freeName | leftParen => true
  | _ => false

/-- A name is an operator or bound, so that it never stands for a function. -/
def Symbols.Shadows (symbols : Symbols) (name : String) : Prop :=
  symbols.operators.contains name = true ∨ symbols.bindings.contains name = true

/-! ## Kinds and values -/

namespace Symbols

variable {symbols : Symbols} {function : Function}

/-- A shadowed name has a meaning, and it is not that of a function. -/
lemma classify_of_shadows {name : String} (shadowed : symbols.Shadows name) :
    symbols.classify name ≠ .freeName ∧ symbols.classify name ≠ .unknown ∧
      symbols.classify name ≠ .function := by
  unfold Shadows at shadowed
  unfold classify
  grind

/-- **No token changes its kind** when a function is registered by a shadowed name. -/
theorem classify_withFunction_of_shadowed (shadowed : symbols.Shadows function.name)
    (token : String) : (symbols.withFunction function).classify token = symbols.classify token := by
  obtain ⟨notFree, notUnknown, -⟩ := classify_of_shadows shadowed
  rw [classify_withFunction]
  refine if_neg ?_
  rintro ⟨rfl, free | unknown⟩
  · exact notFree free
  · exact notUnknown unknown

/-- The tokens of a sequence are looked up as before. -/
lemma agreeOn_withFunction_of_shadowed (shadowed : symbols.Shadows function.name)
    (tokens : List String) : AgreeOn tokens symbols (symbols.withFunction function) := by
  refine AgreeOn.of_withFunction fun _ => ?_
  rw [classify_withFunction_of_shadowed shadowed]
  exact (classify_of_shadows shadowed).2.2

/-- A registration adds one name to the functions. -/
lemma contains_withFunction (symbols : Symbols) (function : Function) (name : String) :
    (symbols.withFunction function).functions.contains name =
      (decide (name = function.name) || symbols.functions.contains name) := by
  simp only [NameTable.contains_eq_isSome_find?, find?_withFunction]
  by_cases same : name = function.name <;> simp [same]

end Symbols

/-! ## Groups that are closed behind a token -/

namespace Yard

variable {symbols : Symbols} {function : Function} {yard after : Yard}

/-- The token waits directly in front of the innermost open parenthesis. -/
def awaitsGroup (yard : Yard) (token : String) : Bool :=
  (yard.stack.dropWhile (· != Token.leftParen)).tail.head? == some token

/-- No group is closed behind the waiting token while the yard takes in a list of tokens. -/
def avoids (symbols : Symbols) (token : String) : Yard → List Lexeme → Bool
  | _, [] => true
  | yard, lexeme :: rest =>
    !(lexeme.token == Token.rightParen && yard.awaitsGroup token) &&
      match yard.accept symbols lexeme with
      | .ok next => avoids symbols token next rest
      | .error _ => true

/-- A token that waits in front of a parenthesis is on the stack. -/
lemma mem_stack_of_awaitsGroup {token : String} (awaits : yard.awaitsGroup token = true) :
    token ∈ yard.stack := by
  have top : (yard.stack.dropWhile (· != Token.leftParen)).tail.head? = some token :=
    eq_of_beq awaits
  exact List.dropWhile_subset _ (List.mem_of_mem_tail (List.mem_of_mem_head? top))

/-- **Closing a group is the same** with a function of the name, unless the name waits in front of
the group. -/
lemma closeGroup_withFunction
    (spared : symbols.functions.contains function.name = true ∨
      yard.awaitsGroup function.name = false) :
    yard.closeGroup (symbols.withFunction function) = yard.closeGroup symbols := by
  unfold closeGroup
  dsimp only
  cases opened : (yard.emitWhile (· != Token.leftParen)).stack with
  | nil => rfl
  | cons paren stack =>
    cases stack with
    | nil => rfl
    | cons waiting below =>
      have same : (symbols.withFunction function).functions.contains waiting =
          symbols.functions.contains waiting := by
        rw [Symbols.contains_withFunction]
        by_cases isName : waiting = function.name
        · subst isName
          rcases spared with already | clear
          · simp [already]
          · -- the name would wait in front of the group that is closed
            have awaits : yard.awaitsGroup function.name = true := by
              change yard.stack.dropWhile (· != Token.leftParen) = _ at opened
              simp [awaitsGroup, opened]
            rw [awaits] at clear
            cases clear
        · simp [isName]
      simp only [same]

/-- **A token is taken in as before**, unless it closes a group behind the name. -/
lemma accept_withFunction (shadowed : symbols.Shadows function.name) {lexeme : Lexeme}
    (spared : symbols.functions.contains function.name = true ∨
      (lexeme.token == Token.rightParen && yard.awaitsGroup function.name) = false) :
    yard.accept (symbols.withFunction function) lexeme = yard.accept symbols lexeme := by
  unfold accept
  dsimp only
  rw [Symbols.classify_withFunction_of_shadowed shadowed]
  cases kind : symbols.classify lexeme.token <;> dsimp only
  case operator => rfl
  case rightParen =>
    obtain isParen := Symbols.classify_eq_rightParen_iff.1 kind
    rw [closeGroup_withFunction]
    simpa [isParen] using spared

/-- **A list of tokens is taken in as before**, unless a group is closed behind the name. -/
lemma acceptAll_withFunction (shadowed : symbols.Shadows function.name) (lexemes : List Lexeme)
    (spared : symbols.functions.contains function.name = true ∨
      yard.avoids symbols function.name lexemes = true) :
    yard.acceptAll (symbols.withFunction function) lexemes = yard.acceptAll symbols lexemes := by
  induction lexemes generalizing yard with
  | nil => rfl
  | cons lexeme rest ih =>
    have first : yard.accept (symbols.withFunction function) lexeme =
        yard.accept symbols lexeme := by
      refine accept_withFunction shadowed (spared.imp_right fun avoided => ?_)
      rw [avoids, Bool.and_eq_true, Bool.not_eq_true'] at avoided
      exact avoided.1
    rw [acceptAll, acceptAll, first]
    cases accepted : yard.accept symbols lexeme with
    | error fault => rfl
    | ok next =>
      refine ih (spared.imp_right fun avoided => ?_)
      rw [avoids, accepted, Bool.and_eq_true] at avoided
      exact avoided.2

/-- A shadowed function has no influence on what is drained. -/
lemma drain_withFunction (shadowed : symbols.Shadows function.name) (output stack : List String) :
    drain (symbols.withFunction function) output stack = drain symbols output stack := by
  induction stack generalizing output with
  | nil => rfl
  | cons waiting rest ih =>
    simp only [drain, Symbols.classify_withFunction_of_shadowed shadowed, ih]

/-! ### Names that are never put on the stack -/

/-- Only tokens that wait come onto the stack. -/
lemma mem_stack_accept {lexeme : Lexeme} (accepted : yard.accept symbols lexeme = .ok after)
    {token : String} (member : token ∈ after.stack) :
    token ∈ yard.stack ∨ token = lexeme.token ∧ (symbols.classify token).waits = true := by
  obtain ⟨moved, -, stack, moves⟩ := accept_eq_ok accepted
  rw [stack] at member
  cases kind : symbols.classify lexeme.token <;> simp only [kind] at moves
  case numeral | text | boundName | unknown =>
    subst moves
    exact .inl member
  case function | freeName =>
    subst moves
    rcases List.mem_cons.1 member with rfl | below
    · exact .inr ⟨rfl, by rw [kind]; rfl⟩
    · exact .inl below
  case operator =>
    subst moves
    unfold pushOperator at member
    split at member
    · exact .inl member
    · rcases List.mem_cons.1 member with rfl | below
      · exact .inr ⟨rfl, by rw [kind]; rfl⟩
      · exact .inl (List.dropWhile_subset _ below)
  case comma =>
    obtain ⟨rfl, -⟩ := closeArgument_eq_ok moves
    exact .inl (List.dropWhile_subset _ member)
  case leftParen =>
    obtain ⟨waits, -⟩ := openGroup_eq_ok moves
    rw [waits] at member
    rcases List.mem_cons.1 member with rfl | below
    · exact .inr ⟨(Symbols.classify_eq_leftParen_iff.1 kind).symm, by
        rw [Symbols.classify_leftParen]; rfl⟩
    · exact .inl below
  case rightParen =>
    obtain ⟨below, waits, applied⟩ := closeGroup_eq_ok moves
    have inside : ∀ other ∈ below, other ∈ yard.stack := fun other inBelow =>
      List.dropWhile_subset _ (waits ▸ List.mem_cons_of_mem _ inBelow)
    rcases applied with ⟨-, rfl⟩ | ⟨name, -, rfl, -⟩
    · exact .inl (inside token member)
    · exact .inl (inside token (List.mem_cons_of_mem _ member))

/-- **A name that is never put on the stack is avoided**, whatever tokens are taken in. -/
lemma avoids_of_notMem_stack {token : String} (never : (symbols.classify token).waits = false)
    (lexemes : List Lexeme) (notWaiting : token ∉ yard.stack) :
    yard.avoids symbols token lexemes = true := by
  induction lexemes generalizing yard with
  | nil => rfl
  | cons lexeme rest ih =>
    have clear : yard.awaitsGroup token = false := by
      rw [Bool.eq_false_iff]
      exact fun awaits => notWaiting (mem_stack_of_awaitsGroup awaits)
    rw [avoids, clear, Bool.and_false, Bool.not_false, Bool.true_and]
    cases accepted : yard.accept symbols lexeme with
    | error fault => rfl
    | ok next =>
      refine ih fun member => ?_
      rcases mem_stack_accept accepted member with before | ⟨-, waits⟩
      · exact notWaiting before
      · rw [never] at waits
        cases waits

end Yard

/-! ## Sources that are compiled after the registration -/

/-- A function of the given name is not applied by mistake in a source: tokens of the name never
wait in the yard, or it is the name of a function already, or no group of the source is closed
behind a token of that name. -/
def Symbols.Spares (symbols : Symbols) (name source : String) : Prop :=
  (symbols.classify name).waits = false ∨ symbols.functions.contains name = true ∨
    Yard.empty.avoids symbols name (Scan.ofSource symbols.operators source).lexemes = true

variable {symbols : Symbols} {function : Function} {source : String}

/-- **The postfix sequence of a source is the same** with a function by the name of an operator or a
variable, if the source spares the name. -/
lemma toPostfix_withFunction (shadowed : symbols.Shadows function.name)
    (spares : symbols.Spares function.name source) :
    toPostfix (symbols.withFunction function) source = toPostfix symbols source := by
  have avoided : symbols.functions.contains function.name = true ∨
      Yard.empty.avoids symbols function.name
        (Scan.ofSource symbols.operators source).lexemes = true := by
    rcases spares with never | already | avoided
    · exact .inr (Yard.avoids_of_notMem_stack never _ (by simp [Yard.empty]))
    · exact .inl already
    · exact .inr avoided
  have operators : (symbols.withFunction function).operators = symbols.operators := rfl
  simp only [toPostfix, Yard.finish, operators, Yard.acceptAll_withFunction shadowed _ avoided,
    Yard.drain_withFunction shadowed]

/-- What is compiled is the same as well, since the check asks for the kinds only. -/
lemma compile_withFunction (shadowed : symbols.Shadows function.name)
    (spares : symbols.Spares function.name source) :
    compile (symbols.withFunction function) source = compile symbols source := by
  have checked : checkPostfix (symbols.withFunction function) = checkPostfix symbols :=
    funext fun tokens => checkPostfix_congr fun token _ =>
      Symbols.classify_withFunction_of_shadowed shadowed token
  rw [compile, compile, toPostfix_withFunction shadowed spares, checked]

namespace Expression

/-- **A function by the name of an operator or of a bound variable has no effect** on a source that
is compiled after its registration, if the source spares the name. The source has the same
sequence or the same fault, and the same value.

**Proof sketch.** No token changes its kind. So the yard does the same with every token but a right
parenthesis, and there as well unless the name waits in front of the group. The sequence has the
same value because none of its tokens stands for the function. -/
theorem evaluate_addFunction_of_shadowed (expression : Expression)
    (fresh : expression.compiled = none) (function : Function)
    (shadowed : expression.symbols.operators.contains function.name = true ∨
      expression.symbols.bindings.contains function.name = true)
    (spares : expression.symbols.Spares function.name expression.source) :
    (expression.addFunction function).1.toPostfix.1 = expression.toPostfix.1 ∧
      (expression.addFunction function).1.evaluate.1 = expression.evaluate.1 := by
  have coherent : expression.Coherent := coherent_of_compiled_eq_none fresh
  have registered : (expression.addFunction function).1.Coherent :=
    coherent_of_compiled_eq_none fresh
  have compiled := compile_withFunction shadowed spares
  constructor
  · rw [registered.toPostfix_fst, coherent.toPostfix_fst]
    exact compiled
  · rw [registered.evaluate_fst, coherent.evaluate_fst, addFunction_fst]
    dsimp only
    rw [compiled]
    cases compile expression.symbols expression.source with
    | error fault => rfl
    | ok tokens =>
      exact (Symbols.agreeOn_withFunction_of_shadowed shadowed tokens).evaluatePostfix _

/-- Functions by the name of a variable that is used behind a group, of an operator that waits while
another group is closed, and of the function that is called. -/
theorem evaluate_addFunction_of_shadowed_group :
    let expression := (Expression.new "(1+x)*2-max(3)").setVariable "x" (.decimal ⟨4, 0⟩)
    let function (name : String) : Function := ⟨name, .variadic, Function.minimum.apply⟩
    expression.evaluate.1 = .ok (.decimal ⟨7, 0⟩) ∧
      (expression.addFunction (function "x")).1.evaluate.1 = .ok (.decimal ⟨7, 0⟩) ∧
      (expression.addFunction (function "+")).1.evaluate.1 = .ok (.decimal ⟨7, 0⟩) ∧
      (expression.addFunction (function "-")).1.toPostfix.1 =
        .ok ["1", "x", "+", "2", "*", "(", "3", "max", "-"] := by
  intro expression function
  have value : expression.evaluate.1 = .ok (.decimal ⟨7, 0⟩) := by decide
  have inert (name : String) := evaluate_addFunction_of_shadowed expression rfl (function name)
  refine ⟨value, ?_, ?_, ?_⟩
  · exact (inert "x" (.inr (by decide)) (.inl (by decide))).2.trans value
  · exact (inert "+" (.inl (by decide)) (.inr (.inr (by decide)))).2.trans value
  · exact (inert "-" (.inl (by decide)) (.inr (.inr (by decide)))).1.trans (by decide)

/-- A function by the name of an operator is applied when a group is closed behind the operator, and
the source is then grouped in another way. -/
theorem evaluate_addFunction_ne :
    let expression := Expression.new "1+(2)*3"
    let registered := (expression.addFunction ⟨"+", .variadic, Function.maximum.apply⟩).1
    expression.symbols.operators.contains "+" = true ∧
      expression.toPostfix.1 = .ok ["1", "2", "3", "*", "+"] ∧
      registered.toPostfix.1 = .ok ["1", "2", "+", "3", "*"] ∧
      expression.evaluate.1 = .ok (.decimal ⟨7, 0⟩) ∧
      registered.evaluate.1 = .ok (.decimal ⟨9, 0⟩) :=
  ⟨by rfl, by rfl, by rfl, by rfl, by rfl⟩

end Expression

end Formula
