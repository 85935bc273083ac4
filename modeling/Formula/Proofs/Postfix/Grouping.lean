import Formula.Postfix.Yard
import Formula.Proofs.Infix

set_option autoImplicit false

/-!
# The yard groups expressions by precedence

The yard works on a flat stack of operators, names and open parentheses. While it takes in the
tokens of an expression tree, the stack below the tree stays as it is. On top of it there wait
the operators on the right edge of the tree, all of which are applied as soon as an operator
comes that yields to the root. What has been written to the output and what still waits make up
the postorder of the tree.

## Main definitions

* `Formula.Symbols.NamesApart` — no name stands for a parenthesis and a symbol, or for an operator
  and a function.
* `Formula.Yard.Passes` — the yard takes in a list of tokens and arrives at a given output and
  stack.
* `Formula.Yard.Expects` — an expression with a given root may begin.
* `Formula.Yard.Pending` — what waits on the stack after an expression with a given root.

## Main results

* `Formula.Yard.groups` — what the yard does with the tokens of an expression tree.
* `Formula.toPostfix_eq_postorder` — the postfix sequence of a source that spells a tree is the
  postorder of the tree.
-/

namespace Formula

/-- No operator and no function goes by the name of a left parenthesis, and no function by the
name of an operator. -/
structure Symbols.NamesApart (symbols : Symbols) : Prop where
  operator : symbols.operators.contains Token.leftParen = false
  function : symbols.functions.contains Token.leftParen = false
  apart : ∀ name, symbols.functions.contains name = true →
    symbols.operators.contains name = false

/-- The standard operators and functions have names of their own. -/
theorem Symbols.namesApart_standard : Symbols.standard.NamesApart := by
  have names : ∀ name ∈ Symbols.standard.functions.names,
      Symbols.standard.operators.contains name = false := by decide
  exact ⟨by decide, by decide, fun name function =>
    names name ((NameTable.mem_names ..).2 function)⟩

namespace Yard

variable {symbols : Symbols} {yard : Yard}

/-! ## Neighbouring operators -/

section Neighbours

variable {operators : OperatorTable} {symbol root waiting : String} {operator current : Operator}

/-- A registered symbol yields as its operator does. -/
lemma yields_eq (found : operators.find? symbol = some operator) (waiting : String) :
    operators.yields symbol waiting = yieldsTo operators operator waiting := by
  simp [OperatorTable.yields, found, yieldsTo]

/-- What an operator does not yield to, the operators to which it yields do not yield to
either. -/
lemma yields_eq_false (yields : yieldsTo operators operator root = true)
    (stays : yieldsTo operators operator waiting = false) :
    operators.yields root waiting = false := by
  obtain ⟨rootOperator, found, yields⟩ := (Option.any_eq_true ..).1 yields
  rw [yields_eq found, yieldsTo, Option.any_eq_false]
  intro waitingOperator foundWaiting
  refine Operator.not_yieldsTo_of_yieldsTo yields ?_
  simpa [yieldsTo, foundWaiting] using stays

/-- An operator that yields to a symbol yields to every operator that does not yield to it. -/
lemma yieldsTo_root (found : operators.find? symbol = some operator)
    (foundRoot : ∃ rootOperator, operators.find? root = some rootOperator)
    (yields : yieldsTo operators current symbol = true)
    (stays : operators.yields root symbol = false) : yieldsTo operators current root = true := by
  obtain ⟨rootOperator, foundRoot⟩ := foundRoot
  simp only [yieldsTo, found, Option.any_some] at yields
  simp only [yields_eq foundRoot, yieldsTo, found, Option.any_some] at stays
  simpa [yieldsTo, foundRoot] using Operator.yieldsTo_of_yieldsTo yields stays

end Neighbours

/-! ## Single tokens -/

/-- A run of waiting tokens on top of the stack is moved to the output when all of them satisfy
the condition and the one below them does not. -/
lemma emitWhile_eq {condition : String → Bool} {pending below : List String}
    (stack : yard.stack = pending ++ below) (all : ∀ waiting ∈ pending, condition waiting = true)
    (stop : ∀ waiting ∈ below.head?, condition waiting = false) :
    yard.emitWhile condition =
      { yard with output := pending.reverse ++ yard.output, stack := below } := by
  have none : below.takeWhile condition = [] ∧ below.dropWhile condition = below := by
    cases below with
    | nil => simp
    | cons waiting rest => simp [stop waiting (by simp)]
  rw [emitWhile, stack, List.takeWhile_append_of_pos all, List.dropWhile_append_of_pos all,
    none.1, none.2, List.append_nil]

/-- A value is written to the output at once. -/
lemma accept_value {token : String} (kind : (symbols.classify token).isValue = true)
    (stop : Nat) :
    yard.accept symbols ⟨token, stop⟩ =
      .ok { yard.emit token with previous := some (symbols.classify token) } := by
  unfold accept
  cases classified : symbols.classify token <;> simp_all [TokenKind.isValue]

/-- A function waits for its parenthesis. -/
lemma accept_function {name : String} (kind : symbols.classify name = .function) (stop : Nat) :
    yard.accept symbols ⟨name, stop⟩ =
      .ok { yard.push name with lastFunction := some name, previous := some .function } := by
  simp [accept, kind]

/-- An operator lets the operators go to the output to which it yields, and waits. -/
lemma accept_operator {symbol : String} {operator : Operator}
    (kind : symbols.classify symbol = .operator)
    (found : symbols.operators.find? symbol = some operator) (stop : Nat) :
    yard.accept symbols ⟨symbol, stop⟩ =
      .ok { (yard.emitWhile (yieldsTo symbols.operators operator)).push symbol with
        previous := some .operator } := by
  simp [accept, kind, pushOperator, found]

/-- A parenthesis that follows neither a numeral nor the name of a function waits. -/
lemma accept_leftParen (notNumeral : yard.previous ≠ some .numeral)
    (notFunction : yard.previous ≠ some .function) (stop : Nat) :
    yard.accept symbols ⟨Token.leftParen, stop⟩ =
      .ok { yard.push Token.leftParen with previous := some .leftParen } := by
  have opened : yard.openGroup stop = .ok (yard.push Token.leftParen) := by
    unfold openGroup
    split <;> simp_all
  simp [accept, opened]

/-- A parenthesis that follows the name of a function is written to the output as well. -/
lemma accept_leftParen_of_function (previous : yard.previous = some .function) (stop : Nat) :
    yard.accept symbols ⟨Token.leftParen, stop⟩ =
      .ok { (yard.emit Token.leftParen).push Token.leftParen with
        previous := some .leftParen } := by
  simp [accept, openGroup, previous]

section Closing

variable {pending below : List String}
  (all : ∀ waiting ∈ pending, symbols.classify waiting = .operator)

include all in
/-- What waits above a left parenthesis is moved to the output when all of it are operators. -/
lemma emitWhile_leftParen (stack : yard.stack = pending ++ Token.leftParen :: below) :
    yard.emitWhile (· != Token.leftParen) =
      { yard with
        output := pending.reverse ++ yard.output
        stack := Token.leftParen :: below } := by
  refine emitWhile_eq stack (fun waiting member => ?_) (by simp)
  rw [bne_iff_ne]
  rintro rfl
  simpa using all _ member

include all in
/-- A comma lets all go to the output that waits above the parenthesis of the call. -/
lemma accept_comma (stack : yard.stack = pending ++ Token.leftParen :: below) (stop : Nat) :
    yard.accept symbols ⟨Token.comma, stop⟩ =
      .ok { yard with
        output := pending.reverse ++ yard.output
        stack := Token.leftParen :: below
        previous := some .comma } := by
  simp [accept, closeArgument, emitWhile_leftParen all stack]

include all in
/-- A parenthesis that closes a group takes the opening one off. -/
lemma accept_rightParen (stack : yard.stack = pending ++ Token.leftParen :: below)
    (noCall : ∀ waiting ∈ below.head?, symbols.functions.contains waiting = false) (stop : Nat) :
    yard.accept symbols ⟨Token.rightParen, stop⟩ =
      .ok { yard with
        output := pending.reverse ++ yard.output
        stack := below
        previous := some .rightParen } := by
  cases below with
  | nil => simp [accept, closeGroup, emitWhile_leftParen all stack]
  | cons waiting rest =>
    have other : symbols.functions.contains waiting = false := noCall waiting (by simp)
    simp [accept, closeGroup, emitWhile_leftParen all stack, other]

include all in
/-- A parenthesis that closes a call also writes the name of the function to the output. -/
lemma accept_rightParen_of_function {name : String}
    (stack : yard.stack = pending ++ Token.leftParen :: name :: below)
    (function : symbols.functions.contains name = true) (stop : Nat) :
    yard.accept symbols ⟨Token.rightParen, stop⟩ =
      .ok { yard with
        output := name :: (pending.reverse ++ yard.output)
        stack := below
        previous := some .rightParen } := by
  simp [accept, closeGroup, emitWhile_leftParen all stack, function, emit]

end Closing

/-! ## Lists of tokens -/

/-- The yard takes in a list of tokens, wherever they stand in the source, and arrives at a given
output and stack. -/
def Passes (symbols : Symbols) (yard : Yard) (tokens output stack : List String) : Prop :=
  ∀ lexemes : List Lexeme, lexemes.map Lexeme.token = tokens →
    ∃ after : Yard, yard.acceptAll symbols lexemes = .ok after ∧
      after.output = output ∧ after.stack = stack

variable {tokens output stack : List String}

/-- Without tokens the yard stays as it is. -/
lemma passes_nil (yard : Yard) : yard.Passes symbols [] yard.output yard.stack := by
  rintro lexemes empty
  obtain rfl := List.map_eq_nil_iff.1 empty
  exact ⟨yard, rfl, rfl, rfl⟩

/-- The first token is accepted, and the others pass from there. -/
lemma passes_cons {token : String} {next : Yard}
    (step : ∀ stop, yard.accept symbols ⟨token, stop⟩ = .ok next)
    (rest : next.Passes symbols tokens output stack) :
    yard.Passes symbols (token :: tokens) output stack := by
  rintro lexemes spelled
  obtain ⟨⟨_, stop⟩, others, rfl, rfl, spelledRest⟩ := List.map_eq_cons_iff.1 spelled
  obtain ⟨after, run, arrived⟩ := rest others spelledRest
  refine ⟨after, ?_, arrived⟩
  rw [acceptAll, step, Fault.ok_bind, run]

/-- Two lists of tokens pass one after the other. -/
lemma Passes.append {first second middle below : List String}
    (before : yard.Passes symbols first middle below)
    (rest : ∀ next : Yard, next.output = middle → next.stack = below →
      next.Passes symbols second output stack) :
    yard.Passes symbols (first ++ second) output stack := by
  rintro lexemes spelled
  obtain ⟨front, back, rfl, spelledFront, spelledBack⟩ := List.map_eq_append_iff.1 spelled
  obtain ⟨next, runFront, houtput, hstack⟩ := before front spelledFront
  obtain ⟨after, runBack, arrived⟩ := rest next houtput hstack back spelledBack
  refine ⟨after, ?_, arrived⟩
  rw [acceptAll_append, runFront, Fault.ok_bind, runBack]

/-! ## Expression trees -/

/-- An expression with the given root may begin: no function waits for the parenthesis of its
arguments, and nothing on top of the stack is applied before the root. -/
structure Expects (symbols : Symbols) (yard : Yard) (root? : Option String) : Prop where
  /-- A parenthesis may follow. -/
  notNumeral : yard.previous ≠ some .numeral
  /-- A parenthesis that follows begins no call. -/
  notFunction : yard.previous ≠ some .function
  /-- A parenthesis that closes a group writes no function to the output. -/
  noCall : ∀ waiting ∈ yard.stack.head?, symbols.functions.contains waiting = false
  /-- The root does not yield to what waits. -/
  stays : ∀ root ∈ root?, ∀ waiting ∈ yard.stack.head?,
    symbols.operators.yields root waiting = false

/-- What waits after an expression with the given root: operators, to all of which an operator
yields that yields to the root. -/
structure Pending (symbols : Symbols) (root? : Option String) (pending : List String) : Prop where
  /-- Nothing but operators waits. -/
  operators : ∀ waiting ∈ pending, symbols.classify waiting = .operator
  /-- An operator that yields to the root lets all of them go to the output. -/
  yielding : ∀ operator : Operator,
    (∀ root ∈ root?, yieldsTo symbols.operators operator root = true) →
      ∀ waiting ∈ pending, yieldsTo symbols.operators operator waiting = true

/-- Nothing waits after an expression whose root is no operator. -/
lemma pending_nil (root? : Option String) : Pending symbols root? [] :=
  ⟨by simp, by simp⟩

/-- The yard groups an expression: its postorder is what its tokens add to the output and what they
leave on the stack, wherever the expression may begin. -/
def Groups (symbols : Symbols) (tree : Infix) : Prop :=
  ∃ done pending, done ++ pending = tree.term.postorder ∧ Pending symbols tree.root? pending ∧
    ∀ yard : Yard, yard.Expects symbols tree.root? →
      yard.Passes symbols tree.tokens (done.reverse ++ yard.output) (pending ++ yard.stack)

/-- The yard groups an expression from which nothing waits. -/
lemma groups_of_passes {tree : Infix}
    (passes : ∀ yard : Yard, yard.Expects symbols tree.root? →
      yard.Passes symbols tree.tokens (tree.term.postorder.reverse ++ yard.output) yard.stack) :
    Groups symbols tree :=
  ⟨tree.term.postorder, [], List.append_nil _, pending_nil _, passes⟩

/-- A value is grouped: it is written to the output, and nothing waits. -/
lemma groups_value {token : String} (kind : (symbols.classify token).isValue = true) :
    Groups symbols (.value token) := by
  refine groups_of_passes fun yard _ => ?_
  rw [Infix.tokens, Infix.term_value, Term.postorder_value]
  exact passes_cons (accept_value kind) (passes_nil _)

/-- **Operators are grouped** when their operands are: the operator takes its place on the stack
where the operators of the left operand have been waiting, and below those of the right one.

**Proof sketch.** The operator yields to the root of the left operand, so nothing of what that
operand has left on the stack waits any longer. The operator stops at what was there before, as
the root of the left operand would. The root of the right operand does not yield to it, so the
right operand may begin. -/
lemma groups_operation (apart : symbols.NamesApart) {symbol : String} {left right : Infix}
    (kind : symbols.classify symbol = .operator)
    (rootRight : ∀ root ∈ right.root?, symbols.classify root = .operator)
    (yieldsLeft : ∀ root ∈ left.root?, symbols.operators.yields symbol root = true)
    (staysRight : ∀ root ∈ right.root?, symbols.operators.yields root symbol = false)
    (groupsLeft : Groups symbols left) (groupsRight : Groups symbols right) :
    Groups symbols (.operation symbol left right) := by
  obtain ⟨operator, found⟩ := Symbols.find?_of_classify_eq_operator kind
  obtain ⟨doneLeft, pendingLeft, orderLeft, waitLeft, passesLeft⟩ := groupsLeft
  obtain ⟨doneRight, pendingRight, orderRight, waitRight, passesRight⟩ := groupsRight
  have yields : ∀ root ∈ left.root?, yieldsTo symbols.operators operator root = true := by
    intro root isRoot
    rw [← yields_eq found]
    exact yieldsLeft root isRoot
  refine ⟨left.term.postorder ++ doneRight, pendingRight ++ [symbol], ?_, ⟨?_, ?_⟩, ?_⟩
  · rw [Infix.term_operation, Term.postorder_operation, ← orderRight]
    simp
  · simpa [kind, or_imp, forall_and] using waitRight.operators
  · -- an operator that yields to this one yields to all that wait above it as well
    intro current yieldsSymbol waiting member
    have toSymbol := yieldsSymbol symbol rfl
    rcases List.mem_append.1 member with member | member
    · refine waitRight.yielding current (fun root isRoot => ?_) waiting member
      exact yieldsTo_root found (Symbols.find?_of_classify_eq_operator (rootRight root isRoot))
        toSymbol (staysRight root isRoot)
    · rwa [List.mem_singleton.1 member]
  · intro yard expects
    have stays : ∀ waiting ∈ yard.stack.head?,
        yieldsTo symbols.operators operator waiting = false := by
      intro waiting top
      rw [← yields_eq found]
      exact expects.stays symbol rfl waiting top
    have expectsLeft : yard.Expects symbols left.root? :=
      ⟨expects.notNumeral, expects.notFunction, expects.noCall, fun root isRoot waiting top =>
        yields_eq_false (yields root isRoot) (stays waiting top)⟩
    rw [Infix.tokens]
    refine (passesLeft yard expectsLeft).append fun next output stack => ?_
    -- just what the left operand has left on the stack is applied before this operator
    have emitted := emitWhile_eq stack (waitLeft.yielding operator yields) stays
    refine passes_cons (accept_operator kind found) ?_
    rw [emitted]
    have notFunction : symbols.functions.contains symbol = false := by
      rw [Bool.eq_false_iff]
      intro function
      have := apart.apart symbol function
      simp [NameTable.contains_eq_isSome_find?, found] at this
    have passed := passesRight
      { push { next with
          output := pendingLeft.reverse ++ next.output
          stack := yard.stack } symbol with
        previous := some .operator }
      ⟨by simp, by simp, by simpa [push] using notFunction, by simpa [push] using staysRight⟩
    simpa [push, output, ← orderLeft] using passed

/-- After a left parenthesis, which has been put on the stack, any expression may begin. -/
lemma expects_of_leftParen (apart : symbols.NamesApart) {below : List String}
    {previous : TokenKind} (stack : yard.stack = Token.leftParen :: below)
    (kind : yard.previous = some previous) (separator : previous = .leftParen ∨ previous = .comma)
    (root? : Option String) : yard.Expects symbols root? := by
  have noOperator : symbols.operators.find? Token.leftParen = none := by
    simpa [NameTable.contains_eq_isSome_find?] using apart.operator
  refine ⟨?_, ?_, ?_, ?_⟩
  · rcases separator with rfl | rfl <;> simp [kind]
  · rcases separator with rfl | rfl <;> simp [kind]
  · simpa [stack] using apart.function
  · simp [stack, OperatorTable.yields, noOperator]

/-- Parentheses are grouped when what they enclose is: the closing one makes all of it be
applied. -/
lemma groups_group (apart : symbols.NamesApart) {inner : Infix} (groups : Groups symbols inner) :
    Groups symbols (.group inner) := by
  obtain ⟨done, pending, order, wait, passes⟩ := groups
  refine groups_of_passes fun yard expects => ?_
  rw [Infix.tokens, Infix.term_group, ← order]
  refine passes_cons (accept_leftParen expects.notNumeral expects.notFunction) ?_
  refine (passes _ (expects_of_leftParen apart rfl rfl (.inl rfl) _)).append
    fun next output stack => ?_
  refine passes_cons (accept_rightParen wait.operators stack expects.noCall) ?_
  have passed : Passes symbols _ [] _ _ := passes_nil
    { next with
      output := pending.reverse ++ next.output
      stack := yard.stack
      previous := some .rightParen }
  simpa [output, push] using passed

/-- The arguments after the first one, and the parenthesis after them: each comma makes what waits
of the argument before it be applied, and the parenthesis also applies the function. -/
lemma passes_furtherTokens (apart : symbols.NamesApart) {name : String}
    (function : symbols.functions.contains name = true) (arguments : List Infix)
    (groups : ∀ argument ∈ arguments, Groups symbols argument) :
    ∀ (yard : Yard) (pending below : List String),
      (∀ waiting ∈ pending, symbols.classify waiting = .operator) →
        yard.stack = pending ++ Token.leftParen :: name :: below →
          yard.Passes symbols (Infix.furtherTokens arguments ++ [Token.rightParen])
            (name :: ((pending ++ (arguments.map Infix.term).flatMap Term.postorder).reverse ++
              yard.output)) below := by
  induction arguments with
  | nil =>
    intro yard pending below operators stack
    rw [Infix.furtherTokens]
    refine passes_cons (accept_rightParen_of_function operators stack function) ?_
    have passed : Passes symbols _ [] _ _ := passes_nil
      { yard with
        output := name :: (pending.reverse ++ yard.output)
        stack := below
        previous := some .rightParen }
    simpa using passed
  | cons argument rest ih =>
    obtain ⟨groupsArgument, groupsRest⟩ := List.forall_mem_cons.1 groups
    obtain ⟨done, waiting, order, wait, passes⟩ := groupsArgument
    intro yard pending below operators stack
    rw [Infix.furtherTokens, List.cons_append, List.append_assoc]
    refine passes_cons (accept_comma operators stack) ?_
    refine (passes _ (expects_of_leftParen apart rfl rfl (.inr rfl) _)).append
      fun next output stack => ?_
    have passed := ih groupsRest next waiting below wait.operators stack
    simpa [output, ← order] using passed

/-- Calls are grouped when their arguments are. -/
lemma groups_call (apart : symbols.NamesApart) {name : String} {arguments : List Infix}
    (kind : symbols.classify name = .function)
    (groups : ∀ argument ∈ arguments, Groups symbols argument) :
    Groups symbols (.call name arguments) := by
  have function : symbols.functions.contains name = true := by
    rw [NameTable.contains_eq_isSome_find?, Option.isSome_iff_exists]
    exact Symbols.find?_of_classify_eq_function kind
  refine groups_of_passes fun yard _ => ?_
  rw [Infix.term_call, Term.postorder_call]
  cases arguments with
  | nil =>
    rw [Infix.tokens]
    refine passes_cons (accept_function kind) ?_
    refine passes_cons (accept_leftParen_of_function rfl) ?_
    have passed := passes_furtherTokens apart function [] groups
      { push (emit (push yard name) Token.leftParen) Token.leftParen with
        lastFunction := some name
        previous := some .leftParen } [] yard.stack (by simp) rfl
    simpa [emit, push, Infix.furtherTokens] using passed
  | cons first rest =>
    obtain ⟨groupsFirst, groupsRest⟩ := List.forall_mem_cons.1 groups
    obtain ⟨done, pending, order, wait, passes⟩ := groupsFirst
    rw [Infix.tokens, List.append_assoc]
    refine passes_cons (accept_function kind) ?_
    refine passes_cons (accept_leftParen_of_function rfl) ?_
    refine (passes _ (expects_of_leftParen apart rfl rfl (.inl rfl) _)).append
      fun next output stack => ?_
    have passed := passes_furtherTokens apart function rest groupsRest next pending yard.stack
      wait.operators stack
    simpa [emit, push, output, ← order] using passed

/-- **The yard groups every expression** whose operators are grouped as their precedences ask for.

**Proof sketch.** Induction on the expression: an operand passes at once, and an operator, a call
and a pair of parentheses are grouped when their parts are. -/
theorem groups (apart : symbols.NamesApart) (tree : Infix)
    (formed : tree.term.WellFormed symbols) (grouped : tree.Grouped symbols.operators) :
    Groups symbols tree := by
  induction tree with
  | value token =>
    rw [Infix.term_value, Term.wellFormed_value] at formed
    exact groups_value formed
  | operation symbol left right ihl ihr =>
    rw [Infix.term_operation, Term.wellFormed_operation] at formed
    rw [Infix.grouped_operation] at grouped
    obtain ⟨kind, formedLeft, formedRight⟩ := formed
    obtain ⟨yieldsLeft, staysRight, groupedLeft, groupedRight⟩ := grouped
    refine groups_operation apart kind ?_ yieldsLeft staysRight (ihl formedLeft groupedLeft)
      (ihr formedRight groupedRight)
    rintro root isRoot
    cases right <;> simp_all [Infix.root?]
  | call name arguments ih =>
    rw [Infix.term_call, Term.wellFormed_call] at formed
    rw [Infix.grouped_call] at grouped
    obtain ⟨kind, formed⟩ := formed
    refine groups_call apart kind fun argument member => ?_
    exact ih argument member (formed _ (List.mem_map_of_mem member)) (grouped argument member)
  | group inner ih =>
    rw [Infix.term_group] at formed
    rw [Infix.grouped_group] at grouped
    exact groups_group apart (ih formed grouped)

/-- At the end of the source the operators that still wait are written to the output. -/
lemma drain_eq (output pending : List String)
    (operators : ∀ waiting ∈ pending, symbols.classify waiting = .operator) :
    drain symbols output pending = .ok (output.reverse ++ pending) := by
  induction pending generalizing output with
  | nil => simp [drain]
  | cons waiting rest ih =>
    obtain ⟨kind, others⟩ := List.forall_mem_cons.1 operators
    rw [drain, kind]
    simp [ih _ others]

end Yard

/-- The tokens of a source that has no fault are those of its scan. -/
lemma tokenize_eq_ok {operators : OperatorTable} {source : String} {tokens : List String}
    (tokenized : tokenize operators source = .ok tokens) :
    (Scan.ofSource operators source).fault = none ∧
      (Scan.ofSource operators source).lexemes.map Lexeme.token = tokens := by
  unfold tokenize Scan.tokens at tokenized
  cases fault : (Scan.ofSource operators source).fault <;> simp_all

/-- **The postfix sequence of a source is the postorder of the tree that it spells**, when the
operators of the tree are grouped as their precedences and associativities ask for. Operators and
calls are those that the kinds of the tokens make: a name that is bound is an operand, also when
there is a function of that name.

**Proof sketch.** The empty yard expects any expression. It groups the tree, which leaves its
postorder in the output but for the operators that still wait, and these are written at the
end. -/
theorem toPostfix_eq_postorder {symbols : Symbols} (apart : symbols.NamesApart) (tree : Infix)
    (formed : tree.term.WellFormed symbols) (grouped : tree.Grouped symbols.operators)
    (source : String) (spelled : tokenize symbols.operators source = .ok tree.tokens) :
    toPostfix symbols source = .ok tree.term.postorder := by
  obtain ⟨done, pending, order, wait, passes⟩ := Yard.groups apart tree formed grouped
  obtain ⟨noFault, lexemes⟩ := tokenize_eq_ok spelled
  have expects : Yard.empty.Expects symbols tree.root? := by
    constructor <;> simp [Yard.empty]
  obtain ⟨last, run, output, stack⟩ := passes .empty expects _ lexemes
  rw [toPostfix, run, noFault]
  simp only [Fault.ok_bind, Yard.finish, output, stack]
  rw [show Yard.empty.stack = [] from rfl, show Yard.empty.output = [] from rfl,
    List.append_nil, List.append_nil, Yard.drain_eq _ _ wait.operators, List.reverse_reverse,
    order]

/-- Of two powers the second one is applied first, of two differences the first one. -/
theorem toPostfix_eq_postorder_chains :
    toPostfix .standard "2^3^true - max(1, (2+3)*4) - 'a'" =
      .ok ["2", "3", "true", "^", "^", "(", "1", "2", "3", "+", "4", "*", "max", "-", "'a'",
        "-"] :=
  toPostfix_eq_postorder Symbols.namesApart_standard
    (.operation "-"
      (.operation "-"
        (.operation "^" (.value "2") (.operation "^" (.value "3") (.value "true")))
        (.call "max"
          [.value "1",
            .operation "*" (.group (.operation "+" (.value "2") (.value "3"))) (.value "4")]))
      (.value "'a'"))
    (by simp; decide) (by simp [Infix.root?, Infix.Grouped]; decide) _ (by decide)

end Formula
