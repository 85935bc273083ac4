import Formula.Proofs.Postfix.Meaning

set_option autoImplicit false

/-!
# The check and the evaluation agree

A postfix sequence is walked twice by procedures that know nothing of each other. The check keeps
numbers of operands, the evaluation a stack of deferred values. Both are shadows of the forest
that the tokens are read into: the check keeps the lengths of its groups, the evaluation the
deferred values of its terms. So they find the same sequences well formed, except that the check
reads the numerals, and the evaluation counts the arguments of calls.

What remains to go wrong with a sequence that passes the check is not structural. A fault of that
sort can only come out of the body of an operator or function that makes it up itself.

## Main definitions

* `Formula.Forest.slots` — the stack of the evaluation after the tokens of a forest.
* `Formula.Term.Raises` — an operator or function of a term makes up a fault of its own.

## Main results

* `Formula.Forest.step_slots`, `steps_slots` — the evaluation and the reading go in step.
* `Formula.Evaluation.build_eq_ok_iff` — what is built is the deferred value of a term.
* `Formula.Term.raises_of_outcome_eq_error` — where a structural fault comes from.
* `Formula.Evaluation.exists_raises_of_evaluatePostfix` — the same for a sequence that passes the
  check.
* `Formula.Evaluation.build_agrees_checkPostfix` — the check and the evaluation agree on every
  list of tokens.
-/

namespace Formula

/-! ## The stack of a forest -/

namespace Forest

/-- The deferred values of a group on top of those of the groups around it. -/
def groupSlots (symbols : Symbols) (context : NumericContext) (innermost : List Term) :
    List (List Term) → List Slot
  | [] => innermost.map fun term => .value (term.deferred symbols context)
  | group :: outer =>
    (innermost.map fun term => .value (term.deferred symbols context)) ++
      .groupStart :: groupSlots symbols context group outer

/-- The stack of the evaluation after the tokens of a forest: the deferred values of its terms,
and the beginning of each open group below the values in it. -/
def slots (symbols : Symbols) (context : NumericContext) (forest : Forest) : List Slot :=
  groupSlots symbols context forest.innermost forest.enclosing

variable {symbols : Symbols} {context : NumericContext}

/-- The empty forest has an empty stack. -/
@[simp] lemma slots_empty : empty.slots symbols context = [] := rfl

/-- An open group stands on top of what stands around it. -/
lemma slots_group (terms : List Term) (forest : Forest) :
    (⟨terms, forest.innermost :: forest.enclosing⟩ : Forest).slots symbols context =
      (terms.map fun term => Slot.value (term.deferred symbols context)) ++
        .groupStart :: forest.slots symbols context := rfl

/-- One more term in the innermost group is one more value on top of the stack. -/
lemma slots_push (forest : Forest) (term : Term) :
    (forest.push term).slots symbols context =
      .value (term.deferred symbols context) :: forest.slots symbols context := by
  obtain ⟨innermost, enclosing⟩ := forest
  cases enclosing <;> rfl

/-- A value on top of the stack is an operand. -/
lemma popOperand_value (symbol : String) (deferred : Deferred) (stack : List Slot) :
    Evaluation.popOperand symbol (.value deferred :: stack) = .ok (deferred, stack) := rfl

/-- Below the terms of the innermost group there is no operand to be had. -/
lemma popOperand_slots_nil (symbol : String) (enclosing : List (List Term)) :
    Evaluation.popOperand symbol ((⟨[], enclosing⟩ : Forest).slots symbols context) =
      .error (.missingOperand symbol) := by
  cases enclosing <;> rfl

/-- Outside all groups no call finds the beginning of its arguments. -/
lemma popGroup_slots_topLevel (name : String) (terms : List Term) (taken : List Deferred) :
    Evaluation.popGroup name taken ((⟨terms, []⟩ : Forest).slots symbols context) =
      .error (.missingOperand name) := by
  induction terms generalizing taken with
  | nil => rfl
  | cons term rest ih => exact ih (term.deferred symbols context :: taken)

/-- **The evaluation takes the steps of the reading**: when it takes a step on the stack of a
forest, the token is read, and the stack afterwards is that of the forest that has been read.

**Proof sketch.** By the kind of the token. An operator finds its two operands above the beginning
of the innermost group, so the group has two terms. A function finds the beginning of a group, so
one is open. -/
lemma step_slots {forest : Forest} {token : String} {after : List Slot}
    (stepped : Evaluation.step symbols context (forest.slots symbols context) token = .ok after) :
    ∃ next, forest.step symbols token = some next ∧ next.slots symbols context = after := by
  by_cases value : (symbols.classify token).isValue = true
  · rw [Evaluation.step_value value, Except.ok.injEq] at stepped
    exact ⟨_, step_value value forest, by rw [slots_push, stepped]⟩
  cases kind : symbols.classify token <;>
    simp only [kind, TokenKind.isValue, not_true_eq_false] at value
  case leftParen =>
    obtain rfl := Symbols.classify_eq_leftParen_iff.1 kind
    rw [Evaluation.step, kind, Except.ok.injEq] at stepped
    exact ⟨_, step_leftParen forest, by rw [← stepped, slots_group, List.map_nil, List.nil_append]⟩
  case operator =>
    obtain ⟨operator, found⟩ := Symbols.find?_of_classify_eq_operator kind
    rcases forest with ⟨_ | ⟨right, _ | ⟨left, rest⟩⟩, enclosing⟩
    · simp [Evaluation.step, kind, Evaluation.applyOperator, found, popOperand_slots_nil] at stepped
    · rw [show (⟨[right], enclosing⟩ : Forest) = (⟨[], enclosing⟩ : Forest).push right from rfl,
        slots_push] at stepped
      simp [Evaluation.step, kind, Evaluation.applyOperator, found, popOperand_value,
        popOperand_slots_nil] at stepped
    · rw [show (⟨right :: left :: rest, enclosing⟩ : Forest) =
        ((⟨rest, enclosing⟩ : Forest).push left).push right from rfl] at stepped ⊢
      rw [slots_push, slots_push, Evaluation.step_operation kind, Except.ok.injEq] at stepped
      exact ⟨_, step_operator kind _ left right, by rw [slots_push, stepped]⟩
  case function =>
    obtain ⟨function, found⟩ := Symbols.find?_of_classify_eq_function kind
    rcases forest with ⟨innermost, _ | ⟨group, outer⟩⟩
    · simp [Evaluation.step, kind, Evaluation.applyFunction, found, popGroup_slots_topLevel]
        at stepped
    · have read := step_function kind ⟨group, outer⟩ innermost.reverse
      rw [List.reverse_reverse] at read
      refine ⟨_, read, ?_⟩
      have arguments :
          innermost.map (fun term => Slot.value (term.deferred symbols context)) =
            (innermost.reverse.map fun term =>
              Slot.value (term.deferred symbols context)).reverse := by
        rw [List.map_reverse, List.reverse_reverse]
      rw [show (⟨innermost, group :: outer⟩ : Forest).slots symbols context = _ from
        slots_group innermost ⟨group, outer⟩, arguments, Evaluation.step_call kind] at stepped
      cases counted : firstMiscount? symbols.arity? [(token, innermost.reverse.length)] with
      | some fault => rw [counted] at stepped; cases stepped
      | none =>
        rw [counted, Option.elim_none, Except.ok.injEq] at stepped
        rw [slots_push, stepped]
  all_goals
    rw [Evaluation.step, kind] at stepped
    cases stepped

/-- **The evaluation takes the runs of the reading.** -/
lemma steps_slots {tokens : List String} {forest : Forest} {after : List Slot}
    (run : Evaluation.steps symbols context (forest.slots symbols context) tokens = .ok after) :
    ∃ last, forest.steps symbols tokens = some last ∧ last.slots symbols context = after := by
  induction tokens generalizing forest with
  | nil => exact ⟨forest, rfl, Except.ok.inj run⟩
  | cons token rest ih =>
    rw [Evaluation.steps_cons, Fault.bind_eq_ok_iff] at run
    obtain ⟨_, stepped, run⟩ := run
    obtain ⟨next, read, rfl⟩ := step_slots stepped
    obtain ⟨last, finished, same⟩ := ih run
    exact ⟨last, by rw [steps_cons, read, Option.bind_some, finished], same⟩

/-- The only operand on the stack of a forest is the deferred value of its only term. -/
lemma result_slots_eq_ok {forest : Forest} {deferred : Deferred}
    (built : Evaluation.result (forest.slots symbols context) = .ok deferred) :
    ∃ term : Term, forest = ⟨[term], []⟩ ∧ term.deferred symbols context = deferred := by
  rcases forest with ⟨_ | ⟨term, _ | ⟨other, rest⟩⟩, _ | ⟨group, outer⟩⟩
  case cons.nil.nil => exact ⟨term, rfl, Except.ok.inj built⟩
  all_goals cases built

end Forest

namespace Evaluation

variable {symbols : Symbols} {context : NumericContext} {tokens : List String}

/-- **What is built is the deferred value of the term** whose postorder the tokens are, and it is
built exactly when every call of the term has as many arguments as its function takes. -/
theorem build_eq_ok_iff {deferred : Deferred} :
    build symbols context tokens = .ok deferred ↔
      ∃ term : Term, term.WellFormed symbols ∧ term.postorder = tokens ∧
        firstMiscount? symbols.arity? term.calls = none ∧
        term.deferred symbols context = deferred := by
  constructor
  · intro built
    have start : steps symbols context (Forest.empty.slots symbols context) tokens =
        steps symbols context [] tokens := by rw [Forest.slots_empty]
    rw [build, ← start, Fault.bind_eq_ok_iff] at built
    obtain ⟨_, run, left⟩ := built
    obtain ⟨last, read, rfl⟩ := Forest.steps_slots run
    obtain ⟨term, rfl, same⟩ := Forest.result_slots_eq_ok left
    obtain ⟨formed, rfl⟩ := Forest.steps_empty_eq_some_iff.1 read
    refine ⟨term, formed, rfl, ?_, same⟩
    rw [start, steps_postorder term formed] at run
    cases counted : firstMiscount? symbols.arity? term.calls with
    | none => rfl
    | some fault => rw [counted] at run; cases run
  · rintro ⟨term, formed, rfl, counted, rfl⟩
    rw [build_postorder term formed, counted, Option.elim_none]

end Evaluation

/-! ## Where structural faults come from -/

namespace Term

/-- An operator or function of a term makes up a fault: the body of an operator returns it at the
values of its operands, or the body of a function returns it although none of the arguments ends
in it. -/
inductive Raises (symbols : Symbols) (context : NumericContext) (fault : Fault) : Term → Prop
  | operator {symbol : String} {left right : Term} {operator : Operator}
    {leftValue rightValue : Value} (found : symbols.operators.find? symbol = some operator)
    (leftOutcome : left.outcome symbols context = .ok leftValue)
    (rightOutcome : right.outcome symbols context = .ok rightValue)
    (raised : operator.apply leftValue rightValue context = .error fault) :
    Raises symbols context fault (.operation symbol left right)
  | function {name : String} {arguments : List Term} {function : Function}
    (found : symbols.functions.find? name = some function)
    (raised : function.apply (arguments.map (deferred symbols context)) context = .error fault)
    (own : ∀ argument ∈ arguments, argument.outcome symbols context ≠ .error fault) :
    Raises symbols context fault (.call name arguments)
  | left {symbol : String} {left right : Term} (inner : Raises symbols context fault left) :
    Raises symbols context fault (.operation symbol left right)
  | right {symbol : String} {left right : Term} (inner : Raises symbols context fault right) :
    Raises symbols context fault (.operation symbol left right)
  | argument {name : String} {arguments : List Term} {argument : Term}
    (member : argument ∈ arguments) (inner : Raises symbols context fault argument) :
    Raises symbols context fault (.call name arguments)

variable {symbols : Symbols} {context : NumericContext} {fault : Fault}

/-- An operand whose numeral can be read has no structural fault. -/
lemma operand_ne_structural {token : String} (readable : symbols.Readable token)
    (structural : fault.isStructural = true) : symbols.operand context token ≠ .error fault := by
  unfold Symbols.operand
  cases kind : symbols.classify token
  case numeral =>
    obtain ⟨number, read⟩ := Option.isSome_iff_exists.1 (readable kind)
    simp [read]
  case text => simp
  all_goals
    cases symbols.bindings.number? token with
    | some number => simp
    | none =>
      rintro ⟨⟩
      cases structural

/-- **A structural fault is made up by an operator or function of the term**, when its numerals
can be read.

**Proof sketch.** Induction on the term. Operands have no structural fault. The fault of an
operation is that of one of its operands, or the operator has returned it at their values. The
fault of a call is returned by the function, which has it from an argument or else from nowhere
but itself. -/
theorem raises_of_outcome_eq_error (term : Term) (formed : term.WellFormed symbols)
    (readable : ∀ token ∈ term.postorder, symbols.Readable token)
    (failed : term.outcome symbols context = .error fault)
    (structural : fault.isStructural = true) : term.Raises symbols context fault := by
  induction term with
  | value token =>
    rw [outcome] at failed
    exact absurd failed (operand_ne_structural (readable token (by simp)) structural)
  | operation symbol left right ihl ihr =>
    obtain ⟨kind, hl, hr⟩ := (wellFormed_operation ..).1 formed
    obtain ⟨operator, found⟩ := Symbols.find?_of_classify_eq_operator kind
    rw [postorder_operation] at readable
    rw [outcome] at failed
    cases rightOutcome : right.outcome symbols context with
    | error first =>
      rw [rightOutcome, Fault.error_bind, Except.error.injEq] at failed
      subst failed
      exact .right (ihr hr (fun token member => readable token (by simp [member])) rightOutcome)
    | ok rightValue =>
      rw [rightOutcome, Fault.ok_bind] at failed
      cases leftOutcome : left.outcome symbols context with
      | error first =>
        rw [leftOutcome, Fault.error_bind, Except.error.injEq] at failed
        subst failed
        exact .left (ihl hl (fun token member => readable token (by simp [member])) leftOutcome)
      | ok leftValue =>
        rw [leftOutcome, Fault.ok_bind, found] at failed
        exact .operator found leftOutcome rightOutcome failed
  | call name arguments ih =>
    obtain ⟨kind, all⟩ := (wellFormed_call ..).1 formed
    obtain ⟨function, found⟩ := Symbols.find?_of_classify_eq_function kind
    rw [postorder_call] at readable
    rw [outcome, found, deferreds_eq_map] at failed
    by_cases passed : ∃ argument ∈ arguments, argument.outcome symbols context = .error fault
    · obtain ⟨argument, member, failedInside⟩ := passed
      refine .argument member (ih argument member (all argument member) ?_ failedInside)
      intro token inside
      have inArguments := List.mem_flatMap.2 ⟨argument, member, inside⟩
      exact readable token (List.mem_append_left _ (List.mem_cons_of_mem _ inArguments))
    · exact .function found failed fun argument member failedInside =>
        passed ⟨argument, member, failedInside⟩

end Term

/-! ## The agreement -/

namespace Evaluation

variable {symbols : Symbols} {context : NumericContext}

/-- A miscounted call is reported as just that. -/
lemma eq_argumentCount_of_firstMiscount? {arity? : String → Option Arity}
    {calls : List (String × Nat)} {fault : Fault}
    (miscounted : firstMiscount? arity? calls = some fault) :
    ∃ name expected actual, fault = .argumentCount name expected actual := by
  obtain ⟨⟨name, actual⟩, -, found⟩ := List.exists_of_findSome?_eq_some miscounted
  obtain ⟨arity, -, counted⟩ := Option.bind_eq_some_iff.1 found
  cases arity with
  | variadic => cases counted
  | fixed expected =>
    rw [Arity.miscount?] at counted
    split at counted
    · cases counted
    · exact ⟨name, expected, actual, (Option.some.inj counted).symm⟩

/-- The postorder of a term is built into its deferred value, or a call has the wrong number of
arguments. -/
lemma build_postorder_cases (context : NumericContext) (term : Term)
    (formed : term.WellFormed symbols) :
    (∃ name expected actual,
      build symbols context term.postorder = .error (.argumentCount name expected actual)) ∨
      build symbols context term.postorder = .ok (term.deferred symbols context) := by
  rw [build_postorder term formed]
  cases miscounted : firstMiscount? symbols.arity? term.calls with
  | none => exact .inr rfl
  | some fault =>
    obtain ⟨name, expected, actual, rfl⟩ := eq_argumentCount_of_firstMiscount? miscounted
    exact .inl ⟨name, expected, actual, rfl⟩

/-- The evaluation of a sequence that passes the check has a structural fault only if an operator
or function of its term makes it up itself. -/
theorem exists_raises_of_evaluatePostfix {tokens : List String} {fault : Fault}
    (accepted : checkPostfix symbols tokens = .ok ())
    (failed : evaluatePostfix symbols context tokens = .error fault)
    (structural : fault.isStructural = true) :
    ∃ term : Term, term.WellFormed symbols ∧ term.postorder = tokens ∧
      term.Raises symbols context fault := by
  obtain ⟨⟨term, formed, rfl⟩, readable⟩ := checkPostfix_eq_ok_iff_exists_term.1 accepted
  refine ⟨term, formed, rfl, ?_⟩
  rw [evaluatePostfix] at failed
  rcases build_postorder_cases context term formed with ⟨name, expected, actual, built⟩ | built
  · rw [built, Fault.error_bind, Except.error.injEq] at failed
    subst failed
    cases structural
  · rw [built, Fault.ok_bind] at failed
    have forced : (term.deferred symbols context).force = term.outcome symbols context := rfl
    refine term.raises_of_outcome_eq_error formed readable ?_ structural
    rw [forced] at failed
    cases outcome : term.outcome symbols context with
    | ok value => rw [outcome] at failed; cases failed
    | error first =>
      rw [outcome, Fault.error_bind, Except.error.injEq] at failed
      rw [failed]

/-- **The check and the evaluation agree on every list of tokens.** If the check accepts the list,
then it is built, or a call has the wrong number of arguments; and what is built has a structural
fault only if an operator or function of its term makes it up itself. If the list is built and its
numerals can be read, then the check accepts it.

**Proof sketch.** Both accept a list only if the tokens are read into a single term. The check
reads the numerals besides, so that no operand of an accepted term has a structural fault. The
evaluation counts the arguments besides. -/
theorem build_agrees_checkPostfix (symbols : Symbols) (context : NumericContext)
    (tokens : List String) :
    (checkPostfix symbols tokens = .ok () →
      (∃ name expected actual,
        build symbols context tokens = .error (.argumentCount name expected actual)) ∨
      ∃ deferred, build symbols context tokens = .ok deferred ∧
        ∀ fault, deferred.force = .error fault → fault.isStructural = true →
          ∃ term : Term, term.WellFormed symbols ∧ term.postorder = tokens ∧
            term.Raises symbols context fault) ∧
    ((∃ deferred, build symbols context tokens = .ok deferred) →
      (∀ token ∈ tokens,
        symbols.classify token = .numeral → (Decimal.ofNumeral? token).isSome = true) →
      checkPostfix symbols tokens = .ok ()) := by
  constructor
  · intro accepted
    obtain ⟨⟨term, formed, rfl⟩, readable⟩ := checkPostfix_eq_ok_iff_exists_term.1 accepted
    refine (build_postorder_cases context term formed).imp_right fun built => ?_
    refine ⟨_, built, fun fault failed structural => ⟨term, formed, rfl, ?_⟩⟩
    exact term.raises_of_outcome_eq_error formed readable failed structural
  · rintro ⟨deferred, built⟩ readable
    obtain ⟨term, formed, rfl, -, -⟩ := build_eq_ok_iff.1 built
    exact checkPostfix_eq_ok_iff_exists_term.2 ⟨⟨term, formed, rfl⟩, readable⟩

/-- A numeral that denotes no decimal is built all the same, since it is read when it is needed. -/
example : (build .standard .decimal32 ["1.2.3"]).isOk = true ∧
    checkPostfix .standard ["1.2.3"] = .error (.invalidNumber "1.2.3") := by
  decide

end Evaluation

end Formula
