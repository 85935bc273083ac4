import Formula.Postfix.Evaluation
import Formula.Proofs.Postfix.Recognition

set_option autoImplicit false

/-!
# The value of a postfix sequence is the value of its term

The evaluation of a postfix sequence keeps deferred values on a single stack, and marks on it
where the arguments of a call begin. The value of a term is defined by recursion instead, without
any stack. The two agree: the tokens of a term either run into the first call with a number of
arguments that its function does not take, or leave the deferred value of the term on the stack.

The numbers of arguments are counted before anything is computed. So a miscounted call is found
whatever the operators and functions compute, whatever the names are bound to, and even if some
value beside it has a fault of its own.

## Main definitions

* `Formula.Term.outcome` — the value of a term or the fault that stops it, by recursion.
* `Formula.Term.calls` — the calls of a term in the order of its postfix sequence, with their
  numbers of arguments.
* `Formula.firstMiscount?` — the fault of the first call that its function does not allow.
* `Formula.Symbols.Alike` — two sets of tables with the same names and arities.

## Main results

* `Formula.Term.map_fst_calls` — the calls of a term are the functions of its postfix sequence.
* `Formula.Evaluation.steps_postorder` — what the tokens of a term do to the stack.
* `Formula.evaluatePostfix_eq_outcome` — the evaluation of a sequence that passes the check.
-/

namespace Formula

/-! ## The value of a term -/

/-- The outcome of an operand: a numeral is read and rounded, a text stands for itself, and a
name stands for the number that it is bound to. -/
def Symbols.operand (symbols : Symbols) (context : NumericContext) (token : String) : Outcome :=
  match symbols.classify token with
  | .numeral =>
    match Decimal.ofNumeral? token with
    | some number => .ok (.decimal (context.round number))
    | none => .error (.invalidNumber token)
  | .text => .ok (.text token)
  | _ =>
    match symbols.bindings.number? token with
    | some number => .ok (.decimal number)
    | none => .error (.unboundVariable token)

namespace Term

mutual

/-- The outcome of a term. An operator computes its right operand first, then its left one, and
stops at the first fault. A function receives its arguments uncomputed. -/
def outcome (symbols : Symbols) (context : NumericContext) : Term → Outcome
  | value token => symbols.operand context token
  | operation symbol left right => do
    let right ← right.outcome symbols context
    let left ← left.outcome symbols context
    match symbols.operators.find? symbol with
    | some operator => operator.apply left right context
    | none => .error (.unknownName symbol)
  | call name arguments =>
    match symbols.functions.find? name with
    | some function => function.apply (deferreds symbols context arguments) context
    | none => .error (.unknownName name)

/-- The outcomes of a list of terms, uncomputed. -/
def deferreds (symbols : Symbols) (context : NumericContext) : List Term → List Deferred
  | [] => []
  | term :: rest =>
    Thunk.mk (fun _ => term.outcome symbols context) :: deferreds symbols context rest

end

/-- The outcome of a term, uncomputed. -/
def deferred (symbols : Symbols) (context : NumericContext) (term : Term) : Deferred :=
  Thunk.mk fun _ => term.outcome symbols context

variable {symbols : Symbols} {context : NumericContext}

/-- The parameters of a call are its arguments, each deferred. -/
@[simp] lemma deferreds_eq_map (terms : List Term) :
    deferreds symbols context terms = terms.map (deferred symbols context) := by
  induction terms with
  | nil => rw [deferreds, List.map_nil]
  | cons term rest ih => rw [deferreds, ih, List.map_cons, deferred]

/-- An operator applied to deferred terms is the deferred operation. -/
lemma application_deferred {symbol : String} {operator : Operator}
    (found : symbols.operators.find? symbol = some operator) (left right : Term) :
    Evaluation.application operator (left.deferred symbols context)
      (right.deferred symbols context) context =
        (operation symbol left right).deferred symbols context := by
  simp only [deferred, outcome, found]
  rfl

/-- A function called with deferred terms is the deferred call. -/
lemma call_deferred {name : String} {function : Function}
    (found : symbols.functions.find? name = some function) (arguments : List Term) :
    Evaluation.call function (arguments.map (deferred symbols context)) context =
      (call name arguments).deferred symbols context := by
  simp only [deferred, outcome, found, deferreds_eq_map]
  rfl

/-! ## Calls with a wrong number of arguments -/

mutual

/-- The names of the functions that a term calls, each with its number of arguments, in the order
of the postfix sequence. -/
def calls : Term → List (String × Nat)
  | value _ => []
  | operation _ left right => left.calls ++ right.calls
  | call name arguments => callsOf arguments ++ [(name, arguments.length)]

/-- The calls of a list of terms, one term after the other. -/
def callsOf : List Term → List (String × Nat)
  | [] => []
  | term :: rest => term.calls ++ callsOf rest

end

/-- The calls of a list of terms are those of the terms, one after the other. -/
@[simp] lemma callsOf_eq_flatMap (terms : List Term) : callsOf terms = terms.flatMap calls := by
  induction terms with
  | nil => rfl
  | cons term rest ih => rw [callsOf, ih, List.flatMap_cons]

/-- A value calls nothing. -/
@[simp] lemma calls_value (token : String) : (value token).calls = [] := by
  rw [calls]

/-- An operation makes the calls of its left operand first. -/
@[simp] lemma calls_operation (symbol : String) (left right : Term) :
    (operation symbol left right).calls = left.calls ++ right.calls := by
  rw [calls]

/-- A call comes behind the calls of its arguments. -/
@[simp] lemma calls_call (name : String) (arguments : List Term) :
    (call name arguments).calls = arguments.flatMap calls ++ [(name, arguments.length)] := by
  rw [calls, callsOf_eq_flatMap]

end Term

/-- The fault of a call with a number of arguments other than the one that is fixed for the
function. -/
def Arity.miscount? (name : String) (actual : Nat) : Arity → Option Fault
  | fixed expected =>
    if expected = actual then none else some (.argumentCount name expected actual)
  | variadic => none

/-- The numbers of parameters that a function takes, by its name. -/
def Symbols.arity? (symbols : Symbols) (name : String) : Option Arity :=
  (symbols.functions.find? name).map Function.arity

/-- The fault of the first call of a list that does not have as many arguments as its function
takes. -/
def firstMiscount? (arity? : String → Option Arity) (calls : List (String × Nat)) :
    Option Fault :=
  calls.findSome? fun call => (arity? call.1).bind (Arity.miscount? call.1 call.2)

section Miscount

variable {arity? : String → Option Arity}

/-- Without calls there is no miscounted one. -/
@[simp] lemma firstMiscount?_nil : firstMiscount? arity? [] = none := rfl

/-- The first miscounted call of two lists is in the second one only if none is in the first one. -/
@[simp] lemma firstMiscount?_append (first second : List (String × Nat)) :
    firstMiscount? arity? (first ++ second) =
      (firstMiscount? arity? first).or (firstMiscount? arity? second) :=
  List.findSome?_append

/-- A single call is miscounted if its function does not take so many arguments. -/
@[simp] lemma firstMiscount?_singleton (name : String) (actual : Nat) :
    firstMiscount? arity? [(name, actual)] =
      (arity? name).bind (Arity.miscount? name actual) := by
  simp [firstMiscount?]

end Miscount

/-- The calls of a term are the functions of its postfix sequence, in the same order. -/
theorem Term.map_fst_calls {symbols : Symbols} (term : Term) (formed : term.WellFormed symbols) :
    term.calls.map Prod.fst =
      term.postorder.filter fun token => symbols.classify token = .function := by
  induction term with
  | value token =>
    rw [wellFormed_value] at formed
    have other : symbols.classify token ≠ .function := by
      intro kind
      simp [kind, TokenKind.isValue] at formed
    simp [other]
  | operation symbol left right ihl ihr =>
    obtain ⟨kind, hl, hr⟩ := (wellFormed_operation ..).1 formed
    simp [ihl hl, ihr hr, kind]
  | call name arguments ih =>
    obtain ⟨kind, all⟩ := (wellFormed_call ..).1 formed
    have each : (arguments.flatMap calls).map Prod.fst =
        (arguments.flatMap postorder).filter fun token => symbols.classify token = .function := by
      rw [List.map_flatMap, List.filter_flatMap]
      exact List.flatMap_congr fun argument member => ih argument member (all argument member)
    simp [each, kind]

/-! ## What the tokens of a term do to the stack -/

namespace Evaluation

variable {symbols : Symbols} {context : NumericContext} {stack : List Slot}

/-- An operand is put on the stack uncomputed. -/
lemma step_value {token : String} (kind : (symbols.classify token).isValue = true) :
    step symbols context stack token =
      .ok (.value ((Term.value token).deferred symbols context) :: stack) := by
  have outcome : (Term.value token).outcome symbols context = symbols.operand context token := by
    rw [Term.outcome]
  rw [Term.deferred, outcome]
  unfold step Symbols.operand
  cases classified : symbols.classify token <;> rw [classified] at kind <;>
    simp only [TokenKind.isValue, Bool.false_eq_true] at kind
  case numeral =>
    rw [numeral, NumericContext.parse?]
    cases Decimal.ofNumeral? token <;> rfl
  case text => rfl
  case boundName => rfl

/-- An operator takes its operands from the stack and puts their operation there. -/
lemma step_operation {symbol : String} (kind : symbols.classify symbol = .operator)
    (left right : Term) :
    step symbols context (.value (right.deferred symbols context) ::
        .value (left.deferred symbols context) :: stack) symbol =
      .ok (.value ((Term.operation symbol left right).deferred symbols context) :: stack) := by
  obtain ⟨operator, found⟩ := Symbols.find?_of_classify_eq_operator kind
  rw [← Term.application_deferred found, step, kind]
  simp only [applyOperator, found, popOperand, Fault.ok_bind]
  rfl

/-- A function takes its arguments from the stack. If there are as many as it takes, it puts the
call there. -/
lemma step_call {name : String} (kind : symbols.classify name = .function)
    (arguments : List Term) :
    step symbols context
        ((arguments.map fun argument => Slot.value (argument.deferred symbols context)).reverse ++
          .groupStart :: stack) name =
      (firstMiscount? symbols.arity? [(name, arguments.length)]).elim
        (.ok (.value ((Term.call name arguments).deferred symbols context) :: stack)) .error := by
  obtain ⟨function, found⟩ := Symbols.find?_of_classify_eq_function kind
  -- the operands come off the stack last one first, so that the arguments are in their order
  have popped := popGroup_groupStart name
    (arguments.map (Term.deferred symbols context)).reverse [] stack
  rw [List.reverse_reverse, List.append_nil, List.map_reverse, List.map_map] at popped
  rw [← Term.call_deferred found, step, kind, firstMiscount?_singleton, Symbols.arity?, found]
  simp only [applyFunction, found, Option.map_some, Option.bind_some]
  rw [show (fun argument => Slot.value (argument.deferred symbols context)) =
    Slot.value ∘ Term.deferred symbols context from rfl, popped]
  cases arity : function.arity with
  | fixed expected =>
    by_cases counted : expected = arguments.length
    · simp only [Fault.ok_bind, Arity.miscount?, List.length_map, counted, ne_eq, not_true_eq_false,
        if_false, if_true, Option.elim_none]
      rfl
    · simp only [Fault.ok_bind, Arity.miscount?, List.length_map, counted, ne_eq, if_false,
        not_false_eq_true, if_true, Option.elim_some]
      rfl
  | variadic => rfl

/-- The tokens of a list of terms run into the first miscounted call, or put the deferred values
of the terms on the stack, if the tokens of each term do so. -/
lemma steps_flatMap (terms : List Term)
    (each : ∀ term ∈ terms, ∀ stack : List Slot, steps symbols context stack term.postorder =
      (firstMiscount? symbols.arity? term.calls).elim
        (.ok (.value (term.deferred symbols context) :: stack)) .error) (stack : List Slot) :
    steps symbols context stack (terms.flatMap Term.postorder) =
      (firstMiscount? symbols.arity? (terms.flatMap Term.calls)).elim
        (.ok ((terms.map fun term => Slot.value (term.deferred symbols context)).reverse ++
          stack)) .error := by
  induction terms generalizing stack with
  | nil => rfl
  | cons term rest ih =>
    obtain ⟨first, others⟩ := List.forall_mem_cons.1 each
    rw [List.flatMap_cons, List.flatMap_cons, steps_append, first, firstMiscount?_append]
    cases firstMiscount? symbols.arity? term.calls with
    | some fault => rfl
    | none =>
      rw [Option.elim_none, Fault.ok_bind, ih others, Option.none_or]
      simp

/-- **The tokens of a term run into its first miscounted call**, or put the deferred value of the
term on the stack.

**Proof sketch.** By induction on the term, for every stack. The tokens of the operands leave
their values on top of the stack, where the operator finds them, the right one first. The tokens
of the arguments leave theirs above the beginning of the group, where the function finds all of
them, and counts them only after the calls among the arguments have been counted. -/
theorem steps_postorder (term : Term) (formed : term.WellFormed symbols) (stack : List Slot) :
    steps symbols context stack term.postorder =
      (firstMiscount? symbols.arity? term.calls).elim
        (.ok (.value (term.deferred symbols context) :: stack)) .error := by
  induction term generalizing stack with
  | value token =>
    rw [Term.wellFormed_value] at formed
    simp [step_value formed]
  | operation symbol left right ihl ihr =>
    obtain ⟨kind, hl, hr⟩ := (Term.wellFormed_operation ..).1 formed
    rw [Term.postorder_operation, Term.calls_operation, steps_append, steps_append, ihl hl,
      firstMiscount?_append]
    cases firstMiscount? symbols.arity? left.calls with
    | some fault => rfl
    | none =>
      rw [Option.elim_none, Fault.ok_bind, ihr hr, Option.none_or]
      cases firstMiscount? symbols.arity? right.calls with
      | some fault => rfl
      | none => simp [step_operation kind]
  | call name arguments ih =>
    obtain ⟨kind, all⟩ := (Term.wellFormed_call ..).1 formed
    have taken := steps_flatMap arguments fun argument member => ih argument member
      (all argument member)
    -- the calls among the arguments come before the call itself, so their counts go first
    have opened : step symbols context stack Token.leftParen = .ok (.groupStart :: stack) := by
      rw [step, Symbols.classify_leftParen]
    rw [Term.postorder_call, Term.calls_call, List.cons_append, steps_cons, opened,
      Fault.ok_bind, steps_append, taken, firstMiscount?_append]
    cases firstMiscount? symbols.arity? (arguments.flatMap Term.calls) with
    | some fault => rfl
    | none =>
      rw [Option.elim_none, Fault.ok_bind, Option.none_or, steps_cons, step_call kind]
      cases firstMiscount? symbols.arity? [(name, arguments.length)] <;> rfl

/-- The deferred value of the postorder of a term is that of the term, unless one of its calls is
miscounted. -/
lemma build_postorder (term : Term) (formed : term.WellFormed symbols) :
    build symbols context term.postorder =
      (firstMiscount? symbols.arity? term.calls).elim (.ok (term.deferred symbols context))
        .error := by
  rw [build, steps_postorder term formed]
  cases firstMiscount? symbols.arity? term.calls <;> rfl

end Evaluation

/-! ## The evaluation of a sequence that passes the check -/

/-- Two sets of tables with the same names and the same arities. Their operators and functions
may compute different values, and their names may be bound to different ones. -/
structure Symbols.Alike (symbols other : Symbols) : Prop where
  classify : ∀ token, other.classify token = symbols.classify token
  arity? : ∀ name, other.arity? name = symbols.arity? name

/-- A term that is well formed for some tables is so for all tables like them. -/
lemma Term.WellFormed.of_alike {symbols other : Symbols} (alike : symbols.Alike other)
    {term : Term} (formed : term.WellFormed symbols) : term.WellFormed other := by
  induction term with
  | value token => simpa [alike.classify] using formed
  | operation symbol left right ihl ihr =>
    obtain ⟨kind, hl, hr⟩ := (Term.wellFormed_operation ..).1 formed
    exact (Term.wellFormed_operation ..).2 ⟨by rw [alike.classify, kind], ihl hl, ihr hr⟩
  | call name arguments ih =>
    obtain ⟨kind, all⟩ := (Term.wellFormed_call ..).1 formed
    exact (Term.wellFormed_call ..).2 ⟨by rw [alike.classify, kind],
      fun argument member => ih argument member (all argument member)⟩

variable {symbols : Symbols} {tokens : List String}

/-- **The evaluation of a sequence computes the value of its term.** A sequence that passes the
check is the postorder of just one term, whose calls are the functions of the sequence in their
order. If a call has a number of arguments that its function does not take, the evaluation ends
with the fault of the first such call, and it does so before anything is computed: for all tables
with the same names and arities and in every context. Otherwise it ends with the outcome of the
term, without insignificant zeros.

**Proof sketch.** The term is the one that the check has recognized. Its tokens either run into
its first miscounted call, or leave its deferred value alone on the stack, which is then
forced. -/
theorem evaluatePostfix_eq_outcome (context : NumericContext)
    (accepted : checkPostfix symbols tokens = .ok ()) :
    ∃ term : Term,
      (∀ other : Term, other.WellFormed symbols ∧ other.postorder = tokens ↔ other = term) ∧
      (term.calls.map Prod.fst = tokens.filter fun token => symbols.classify token = .function) ∧
      (∀ fault, firstMiscount? symbols.arity? term.calls = some fault →
        evaluatePostfix symbols context tokens = .error fault ∧
        ∀ other otherContext, symbols.Alike other →
          Evaluation.build other otherContext tokens = .error fault) ∧
      (firstMiscount? symbols.arity? term.calls = none →
        evaluatePostfix symbols context tokens =
          (term.outcome symbols context).map Value.normalized) := by
  obtain ⟨⟨term, formed, rfl⟩, -⟩ := checkPostfix_eq_ok_iff_exists_term.1 accepted
  refine ⟨term, fun other => ?_, term.map_fst_calls formed,
    fun fault miscounted => ⟨?_, ?_⟩, fun counted => ?_⟩
  · constructor
    · rintro ⟨otherFormed, same⟩
      exact Term.postorder_injective otherFormed formed same
    · rintro rfl
      exact ⟨formed, rfl⟩
  · rw [evaluatePostfix, Evaluation.build_postorder term formed, miscounted]
    rfl
  · intro other otherContext alike
    -- nothing but the kinds of the tokens and the arities has been looked at
    have arities : other.arity? = symbols.arity? := funext alike.arity?
    rw [Evaluation.build_postorder term (formed.of_alike alike), arities, miscounted]
    rfl
  · rw [evaluatePostfix, Evaluation.build_postorder term formed, counted]
    have forced : (term.deferred symbols context).force = term.outcome symbols context := rfl
    rw [Option.elim_none, Fault.ok_bind, forced]
    cases term.outcome symbols context <;> rfl

/-- A function of two parameters that is called with one is found before a division by zero. With
two parameters the division is not reached, if the function does not compute the second one. The
outcome of that call is 2.0, and the sequence evaluates to 2. -/
theorem evaluatePostfix_eq_outcome_pick :
    let pick : Function := ⟨"pick", .fixed 2, fun parameters _ =>
      (parameters.head?.map Deferred.force).getD (.error (.noParameters "pick"))⟩
    let symbols : Symbols :=
      ⟨.standard, (FunctionTable.standard.register pick).1, .constants⟩
    evaluatePostfix symbols .decimal32 ["1", "0", "/", "(", "1", "pick", "+"] =
        .error (.argumentCount "pick" 2 1) ∧
      (Term.call "pick" [.operation "-" (.value "2.5") (.value "0.5"),
        .operation "/" (.value "1") (.value "0")]).outcome symbols .decimal32 =
          .ok (.decimal ⟨20, 1⟩) ∧
      evaluatePostfix symbols .decimal32 ["(", "2.5", "0.5", "-", "1", "0", "/", "pick"] =
        .ok (.decimal ⟨2, 0⟩) := by
  intro pick symbols
  refine ⟨?_, by decide, ?_⟩
  · obtain ⟨term, unique, -, miscounted, -⟩ := evaluatePostfix_eq_outcome .decimal32
      (show checkPostfix symbols ["1", "0", "/", "(", "1", "pick", "+"] = .ok () by decide)
    obtain rfl := (unique (.operation "+" (.operation "/" (.value "1") (.value "0"))
      (.call "pick" [.value "1"]))).1 ⟨by simp; decide, by simp; decide⟩
    exact (miscounted _ (by decide)).1
  · obtain ⟨term, unique, -, -, counted⟩ := evaluatePostfix_eq_outcome .decimal32
      (show checkPostfix symbols ["(", "2.5", "0.5", "-", "1", "0", "/", "pick"] = .ok ()
        by decide)
    obtain rfl := (unique (.call "pick" [.operation "-" (.value "2.5") (.value "0.5"),
      .operation "/" (.value "1") (.value "0")])).1 ⟨by simp; decide, by simp; decide⟩
    exact (counted (by decide)).trans (by decide)

end Formula
