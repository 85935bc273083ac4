import Formula.Proofs.Postfix.Meaning

set_option autoImplicit false

/-!
# Arguments that are not computed

An argument of a call stands in a postfix sequence as a block of tokens. The block puts one
deferred value on the stack, whatever lies below, and the call takes it from there. So an argument
acts through its deferred value only, and only on the function that is called: if the function has
the same outcome whatever the argument would yield, then the argument can be replaced by any other
one, also by one that has a fault, and however deeply the call is nested.

## Main definitions

* `Formula.Evaluation.Interchangeable` — blocks that do the same to every stack.
* `Formula.CallSite` — a place in a postfix sequence for an argument of a call.
* `Formula.CallSite.fill` — the sequence with an argument in this place.
* `Formula.CallSite.Ignores` — the call has the same outcome whatever the argument yields.

## Main results

* `Formula.Evaluation.Interchangeable.surround` — interchangeable blocks are so in any sequence.
* `Formula.CallSite.interchangeable_fill` — arguments with which the function has the same outcome
  are interchangeable.
* `Formula.CallSite.evaluatePostfix_fill` — an argument that is ignored has no influence.
-/

namespace Formula

/-! ## Blocks that do the same -/

namespace Evaluation

variable {symbols : Symbols} {context : NumericContext} {first second : List String}

/-- Two blocks of tokens do the same to every stack. -/
def Interchangeable (symbols : Symbols) (context : NumericContext) (first second : List String) :
    Prop :=
  ∀ stack : List Slot, steps symbols context stack first = steps symbols context stack second

/-- Blocks that do the same can be exchanged wherever they stand. -/
lemma Interchangeable.surround (same : Interchangeable symbols context first second)
    (front back : List String) :
    Interchangeable symbols context (front ++ first ++ back) (front ++ second ++ back) := by
  intro stack
  simp only [steps_append]
  cases steps symbols context stack front with
  | error fault => rfl
  | ok reached => rw [Fault.ok_bind, Fault.ok_bind, same reached]

/-- Blocks that do the same to every stack have the same value. -/
lemma Interchangeable.evaluatePostfix_eq (same : Interchangeable symbols context first second) :
    evaluatePostfix symbols context first = evaluatePostfix symbols context second := by
  rw [evaluatePostfix, evaluatePostfix, build, build, same]

end Evaluation

/-! ## The place of an argument -/

/-- A place in a postfix sequence for one argument of a call: the tokens before the call and after
it, the function, and the arguments before the place and after it. -/
structure CallSite (symbols : Symbols) where
  /-- The tokens before the call. -/
  front : List String
  /-- The name that is called. -/
  name : String
  /-- The function of this name. -/
  function : Function
  /-- The arguments before the place. -/
  before : List Term
  /-- The arguments after the place. -/
  after : List Term
  /-- The tokens after the call. -/
  back : List String
  /-- The name is that of a function, and of no operator. -/
  classify_name : symbols.classify name = .function
  /-- The function is registered by the name. -/
  find?_name : symbols.functions.find? name = some function
  /-- The arguments before the place can be evaluated. -/
  before_wellFormed : ∀ term ∈ before, term.WellFormed symbols
  /-- The arguments after the place can be evaluated. -/
  after_wellFormed : ∀ term ∈ after, term.WellFormed symbols

namespace CallSite

variable {symbols : Symbols} {context : NumericContext} {argument other : Term}

/-- The tokens before the argument. -/
def opening (site : CallSite symbols) : List String :=
  site.front ++ Token.leftParen :: site.before.flatMap Term.postorder

/-- The tokens after the argument. -/
def closing (site : CallSite symbols) : List String :=
  site.after.flatMap Term.postorder ++ site.name :: site.back

/-- The sequence with an argument in its place. -/
def fill (site : CallSite symbols) (argument : Term) : List String :=
  site.opening ++ argument.postorder ++ site.closing

/-- The call with an argument in its place. -/
def call (site : CallSite symbols) (argument : Term) : Term :=
  .call site.name (site.before ++ argument :: site.after)

/-- The parameters that the function receives, with a deferred value in place of the argument. -/
def parameters (site : CallSite symbols) (context : NumericContext) (value : Deferred) :
    List Deferred :=
  site.before.map (Term.deferred symbols context) ++
    value :: site.after.map (Term.deferred symbols context)

/-- The function has the same outcome whatever the argument in this place would yield. -/
def Ignores (site : CallSite symbols) (context : NumericContext) : Prop :=
  ∀ value value' : Deferred,
    site.function.apply (site.parameters context value) context =
      site.function.apply (site.parameters context value') context

/-- The filled site holds the postfix sequence of the call. -/
lemma fill_eq (site : CallSite symbols) (argument : Term) :
    site.fill argument = site.front ++ (site.call argument).postorder ++ site.back := by
  simp [fill, opening, closing, call]

/-- The call at a site is well formed with every well-formed argument. -/
lemma wellFormed_call (site : CallSite symbols) (formed : argument.WellFormed symbols) :
    (site.call argument).WellFormed symbols := by
  rw [call, Term.wellFormed_call, List.forall_mem_append, List.forall_mem_cons]
  exact ⟨site.classify_name, site.before_wellFormed, formed, site.after_wellFormed⟩

/-- The calls of an argument are not miscounted, so that it makes no difference to the first
miscount which of such arguments it is. -/
lemma firstMiscount?_call (site : CallSite symbols)
    (counted : firstMiscount? symbols.arity? argument.calls = none)
    (counted' : firstMiscount? symbols.arity? other.calls = none) :
    firstMiscount? symbols.arity? (site.call argument).calls =
      firstMiscount? symbols.arity? (site.call other).calls := by
  simp [call, counted, counted']

/-- The deferred call hands the deferred argument to the function. -/
lemma deferred_call (site : CallSite symbols) (argument : Term) :
    (site.call argument).deferred symbols context =
      Evaluation.call site.function (site.parameters context (argument.deferred symbols context))
        context := by
  rw [call, ← Term.call_deferred site.find?_name, List.map_append, List.map_cons, parameters]

/-- **An argument acts through its deferred value**, and only on the function that is called.

**Proof sketch.** The tokens of a call run into its first miscounted call, or put its deferred
value on the stack. The first miscounted call is no call of the argument, and the deferred value
is that of the function at its parameters. -/
theorem interchangeable_fill (site : CallSite symbols) (formed : argument.WellFormed symbols)
    (formed' : other.WellFormed symbols)
    (counted : firstMiscount? symbols.arity? argument.calls = none)
    (counted' : firstMiscount? symbols.arity? other.calls = none)
    (same : site.function.apply (site.parameters context (argument.deferred symbols context))
        context =
      site.function.apply (site.parameters context (other.deferred symbols context)) context) :
    Evaluation.Interchangeable symbols context (site.fill argument) (site.fill other) := by
  have deferred : (site.call argument).deferred symbols context =
      (site.call other).deferred symbols context := by
    rw [deferred_call, deferred_call, Evaluation.call, Evaluation.call, same]
  rw [fill_eq, fill_eq]
  refine Evaluation.Interchangeable.surround (fun stack => ?_) site.front site.back
  rw [Evaluation.steps_postorder _ (site.wellFormed_call formed),
    Evaluation.steps_postorder _ (site.wellFormed_call formed'),
    site.firstMiscount?_call counted counted', deferred]

/-- **An argument that is ignored has no influence.** If the function has the same outcome whatever
the argument would yield, then the evaluation of a sequence ends with the same value or fault when
the argument is replaced by any other term: neither the value nor the fault of an argument that is
not needed shows, however deeply the call is nested.

**Proof sketch.** The two arguments are interchangeable, since the function has the same outcome
with both of them. -/
theorem evaluatePostfix_fill (site : CallSite symbols) (ignores : site.Ignores context)
    (formed : argument.WellFormed symbols) (formed' : other.WellFormed symbols)
    (counted : firstMiscount? symbols.arity? argument.calls = none)
    (counted' : firstMiscount? symbols.arity? other.calls = none) :
    evaluatePostfix symbols context (site.fill other) =
      evaluatePostfix symbols context (site.fill argument) :=
  (site.interchangeable_fill formed' formed counted' counted (ignores _ _)).evaluatePostfix_eq

/-- `2 + if(1 > 0, 10, 1 / 0)`, and a difference with a text in place of the division by zero: the
function computes its second argument only, as the condition holds. -/
theorem evaluatePostfix_fill_if :
    let choose : Function := ⟨"if", .fixed 3, fun parameters _ =>
      match parameters with
      | [condition, consequence, alternative] => do
        if (← condition.force).truth? = some true then consequence.force else alternative.force
      | _ => .error (.noParameters "if")⟩
    let symbols : Symbols := ⟨.standard, (FunctionTable.standard.register choose).1, .constants⟩
    evaluatePostfix symbols .decimal32
          ["2", "(", "1", "0", ">", "10", "'x'", "3", "-", "if", "+"] =
        evaluatePostfix symbols .decimal32
          ["2", "(", "1", "0", ">", "10", "1", "0", "/", "if", "+"] ∧
      evaluatePostfix symbols .decimal32
          ["2", "(", "1", "0", ">", "10", "1", "0", "/", "if", "+"] = .ok (.decimal ⟨12, 0⟩) := by
  intro choose symbols
  let site : CallSite symbols :=
    { front := ["2"], name := "if", function := choose, back := ["+"]
      before := [.operation ">" (.value "1") (.value "0"), .value "10"], after := []
      classify_name := by decide
      find?_name := by simp [symbols, choose, FunctionTable.register, NameTable.find?_insert]
      before_wellFormed := by
        simp
        decide
      after_wellFormed := by simp }
  have holds : ((Term.operation ">" (.value "1") (.value "0")).deferred symbols .decimal32).force =
      .ok (.decimal .one) := by decide
  have ignores : site.Ignores .decimal32 := by
    intro value value'
    simp only [site, choose, parameters, List.map_cons, List.map_nil, List.cons_append,
      List.nil_append, holds, Fault.ok_bind]
    rfl
  have division : (Term.operation "/" (.value "1") (.value "0")).WellFormed symbols := by
    simp
    decide
  have difference : (Term.operation "-" (.value "'x'") (.value "3")).WellFormed symbols := by
    simp
    decide
  have same := evaluatePostfix_fill site ignores division difference (by simp) (by simp)
  refine ⟨?_, by decide⟩
  simpa [site, fill, opening, closing, Token.leftParen] using same

end CallSite

end Formula
