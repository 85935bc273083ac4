import Formula.Expression
import Formula.Proofs.Infix.Place
import Formula.Proofs.Postfix.Grouping
import Formula.Proofs.Postfix.Recognition
import Mathlib.Data.List.TakeWhile

set_option autoImplicit false

/-!
# Which sources are compiled

The yard looks at the token before only at a left parenthesis, and what it writes is checked as a
postfix sequence. So sources are compiled as well whose tokens are not an infix sequence, such as
one that is written as a postfix sequence. Among the sources whose tokens are in their places just
the infix sequences with readable numerals are compiled: that parentheses are balanced, that names
have a meaning and that the last operand is there is seen to by the yard and the check.

## Main definitions

* `Formula.Yard.openParens` — the number of left parentheses that wait.
* `Formula.Yard.Holds` — a token waits or has been written.

## Main results

* `Formula.Yard.openParens_accept`, `holds_accept` — what one token does to them.
* `Formula.Yard.reads_acceptAll` — the yard takes in what has been read at a place.
* `Formula.checkPostfix_ne_ok_of_operator` — an operator without a right operand is not compiled.
* `Formula.infixSequence_of_compile` — a source whose tokens are in their places is compiled only
  if they are an infix sequence.
* `Formula.exists_compile_iff_of_infixSequence` — an infix sequence with readable numerals is
  compiled.
* `Formula.compile_and_orderly_iff` — the sources that are compiled and whose tokens are in their
  places.
-/

namespace Formula

namespace Yard

variable {symbols : Symbols} {yard after : Yard}

/-! ## Parentheses and tokens in the yard -/

/-- The number of left parentheses that wait. -/
def openParens (yard : Yard) : Nat := yard.stack.count Token.leftParen

/-- A token waits or has been written to the output. -/
def Holds (yard : Yard) (token : String) : Prop := token ∈ yard.output ∨ token ∈ yard.stack

/-- A token that waits opens a group only if it is a left parenthesis. -/
lemma openParens_push {token : String} (other : token ≠ Token.leftParen) :
    (yard.push token).openParens = yard.openParens :=
  List.count_cons_of_ne other

/-- A left parenthesis stays where it is when it does not satisfy the condition. -/
lemma leftParen_notMem_takeWhile {condition : String → Bool}
    (stops : condition Token.leftParen = false) (stack : List String) :
    Token.leftParen ∉ stack.takeWhile condition := by
  intro member
  have := List.mem_takeWhile_imp member
  rw [stops] at this
  cases this

/-- Writing out what waits above a left parenthesis closes no group. -/
lemma openParens_emitWhile {condition : String → Bool}
    (stops : condition Token.leftParen = false) :
    (yard.emitWhile condition).openParens = yard.openParens := by
  have none := List.count_eq_zero.2 (leftParen_notMem_takeWhile stops yard.stack)
  calc (yard.stack.dropWhile condition).count Token.leftParen
      = (yard.stack.takeWhile condition ++ yard.stack.dropWhile condition).count
          Token.leftParen := by rw [List.count_append, none, Nat.zero_add]
    _ = yard.stack.count Token.leftParen := by rw [List.takeWhile_append_dropWhile]

/-- Writing out what waits loses no token. -/
lemma holds_emitWhile (condition : String → Bool) (token : String) :
    (yard.emitWhile condition).Holds token ↔ yard.Holds token := by
  have split : token ∈ yard.stack ↔
      token ∈ yard.stack.takeWhile condition ∨ token ∈ yard.stack.dropWhile condition := by
    rw [← List.mem_append, List.takeWhile_append_dropWhile]
  simp only [Holds, emitWhile, List.mem_append, List.mem_reverse, split]
  tauto

/-- A comma or a right parenthesis applies what waits above a left parenthesis. -/
lemma eq_leftParen_of_emitWhile {waiting : String} {below : List String}
    (waits : (yard.emitWhile (· != Token.leftParen)).stack = waiting :: below) :
    waiting = Token.leftParen := by
  have top := List.head?_dropWhile_not (· != Token.leftParen) yard.stack
  change yard.stack.dropWhile (· != Token.leftParen) = _ at waits
  rw [waits] at top
  simpa using top

/-- A comma applies what waits above a left parenthesis, which goes on waiting. -/
lemma closeArgument_eq_ok (closed : yard.closeArgument = .ok after) :
    after = yard.emitWhile (· != Token.leftParen) ∧
      ∃ below, after.stack = Token.leftParen :: below := by
  unfold closeArgument at closed
  simp only at closed
  split at closed
  case isTrue => cases closed
  case isFalse waits =>
    obtain rfl := Except.ok.inj closed
    obtain ⟨head, below, stack⟩ := List.exists_cons_of_ne_nil (mt List.isEmpty_iff.2 waits)
    exact ⟨rfl, below, by rw [stack, eq_leftParen_of_emitWhile stack]⟩

/-- A right parenthesis takes off the left one that waits below what it applies, and it may apply
a function as well. -/
lemma closeGroup_eq_ok (closed : yard.closeGroup symbols = .ok after) :
    ∃ below, (yard.emitWhile (· != Token.leftParen)).stack = Token.leftParen :: below ∧
      ((after.output = (yard.emitWhile (· != Token.leftParen)).output ∧ after.stack = below) ∨
        ∃ name, symbols.functions.contains name = true ∧ below = name :: after.stack ∧
          after.output = name :: (yard.emitWhile (· != Token.leftParen)).output) := by
  unfold closeGroup at closed
  simp only at closed
  split at closed
  · cases closed
  case h_2 head stack waits =>
    obtain rfl := eq_leftParen_of_emitWhile waits
    refine ⟨stack, waits, ?_⟩
    split at closed
    case h_1 waiting below =>
      split at closed
      case isTrue function =>
        obtain rfl := Except.ok.inj closed
        exact .inr ⟨waiting, function, rfl, rfl⟩
      case isFalse =>
        obtain rfl := Except.ok.inj closed
        exact .inl ⟨rfl, rfl⟩
    case h_2 =>
      obtain rfl := Except.ok.inj closed
      exact .inl ⟨rfl, rfl⟩

/-- What becomes of the output and the stack when a token is accepted, by the kind of the token. -/
lemma accept_eq_ok {lexeme : Lexeme} (accepted : yard.accept symbols lexeme = .ok after) :
    ∃ moved : Yard, after.output = moved.output ∧ after.stack = moved.stack ∧
      match symbols.classify lexeme.token with
      | .numeral | .text | .boundName => moved = yard.emit lexeme.token
      | .function | .freeName => moved = yard.push lexeme.token
      | .operator => moved = pushOperator symbols yard lexeme.token
      | .comma => yard.closeArgument = .ok moved
      | .leftParen => yard.openGroup lexeme.stop = .ok moved
      | .rightParen => yard.closeGroup symbols = .ok moved
      | .unknown => moved = yard := by
  unfold accept at accepted
  cases kind : symbols.classify lexeme.token <;> simp only [kind] at accepted ⊢
  case numeral | text | boundName =>
    obtain rfl := Except.ok.inj accepted
    exact ⟨yard.emit lexeme.token, rfl, rfl, rfl⟩
  case function | freeName =>
    obtain rfl := Except.ok.inj accepted
    exact ⟨yard.push lexeme.token, rfl, rfl, rfl⟩
  case operator =>
    obtain rfl := Except.ok.inj accepted
    exact ⟨pushOperator symbols yard lexeme.token, rfl, rfl, rfl⟩
  case unknown =>
    obtain rfl := Except.ok.inj accepted
    exact ⟨yard, rfl, rfl, rfl⟩
  case leftParen | rightParen | comma =>
    obtain ⟨moved, taken, result⟩ := Fault.bind_eq_ok_iff.1 accepted
    obtain rfl := Except.ok.inj result
    exact ⟨moved, rfl, rfl, taken⟩

/-- The token before is the one that has been accepted. -/
lemma previous_accept {lexeme : Lexeme} (accepted : yard.accept symbols lexeme = .ok after) :
    after.previous = some (symbols.classify lexeme.token) := by
  unfold accept at accepted
  cases kind : symbols.classify lexeme.token <;> simp only [kind] at accepted
  all_goals
    obtain ⟨moved, -, result⟩ := Fault.bind_eq_ok_iff.1 accepted
    obtain rfl := Except.ok.inj result
    rfl

/-- A left parenthesis waits, and it has been written as well after the name of a function. -/
lemma openGroup_eq_ok {stop : Nat} (opened : yard.openGroup stop = .ok after) :
    after.stack = Token.leftParen :: yard.stack ∧ after.output =
      if yard.previous = some .function then Token.leftParen :: yard.output else yard.output := by
  unfold openGroup at opened
  split at opened
  case h_1 => cases opened
  case h_2 function =>
    obtain rfl := Except.ok.inj opened
    exact ⟨rfl, by rw [if_pos function]; rfl⟩
  case h_3 notFunction =>
    obtain rfl := Except.ok.inj opened
    exact ⟨rfl, by rw [if_neg notFunction]; rfl⟩

/-- No operator yields to a left parenthesis. -/
lemma yieldsTo_leftParen {operators : OperatorTable}
    (noOperator : operators.contains Token.leftParen = false) (operator : Operator) :
    yieldsTo operators operator Token.leftParen = false := by
  have notFound : operators.find? Token.leftParen = none := by
    simpa [NameTable.contains_eq_isSome_find?] using noOperator
  rw [yieldsTo, notFound, Option.any_none]

/-- The left parenthesis is not the name of a function, unless one has been registered by it. -/
lemma ne_leftParen_of_function (noFunction : symbols.functions.contains Token.leftParen = false)
    {name : String} (function : symbols.functions.contains name = true) :
    name ≠ Token.leftParen := by
  rintro rfl
  rw [noFunction] at function
  cases function

/-- **One more parenthesis waits after a left one, one less after a right one**, and no other token
changes their number. -/
lemma openParens_accept (noOperator : symbols.operators.contains Token.leftParen = false)
    (noFunction : symbols.functions.contains Token.leftParen = false) {lexeme : Lexeme}
    (accepted : yard.accept symbols lexeme = .ok after) :
    match symbols.classify lexeme.token with
    | .leftParen => after.openParens = yard.openParens + 1
    | .rightParen => after.openParens + 1 = yard.openParens
    | _ => after.openParens = yard.openParens := by
  have other : symbols.classify lexeme.token ≠ .leftParen → lexeme.token ≠ Token.leftParen :=
    mt Symbols.classify_eq_leftParen_iff.2
  obtain ⟨moved, -, stack, moves⟩ := accept_eq_ok accepted
  have same : after.openParens = moved.openParens := by rw [openParens, stack, openParens]
  rw [same]
  cases kind : symbols.classify lexeme.token <;> simp only [kind] at moves other ⊢
  case numeral | text | boundName | unknown =>
    subst moves
    rfl
  case freeName | function => rw [moves, openParens_push (other (by decide))]
  case operator =>
    rw [moves]
    unfold pushOperator
    split
    · rfl
    · rw [openParens_push (other (by decide)),
        openParens_emitWhile (yieldsTo_leftParen noOperator _)]
  case comma =>
    rw [(closeArgument_eq_ok moves).1]
    exact openParens_emitWhile (by simp)
  case leftParen =>
    obtain ⟨waits, -⟩ := openGroup_eq_ok moves
    rw [openParens, waits, List.count_cons_self]
    rfl
  case rightParen =>
    obtain ⟨below, waits, applied⟩ := closeGroup_eq_ok moves
    have before : (yard.emitWhile (· != Token.leftParen)).openParens = yard.openParens :=
      openParens_emitWhile (by simp)
    rw [← before, openParens, openParens, waits, List.count_cons_self]
    rcases applied with ⟨-, rfl⟩ | ⟨name, function, rfl, -⟩
    · rfl
    · rw [List.count_cons_of_ne (ne_leftParen_of_function noFunction function)]

/-- **A token that is no left parenthesis is never lost.** -/
lemma holds_accept {lexeme : Lexeme} (accepted : yard.accept symbols lexeme = .ok after)
    {token : String} (other : token ≠ Token.leftParen) (holds : yard.Holds token) :
    after.Holds token := by
  obtain ⟨moved, output, stack, moves⟩ := accept_eq_ok accepted
  rw [Holds, output, stack]
  cases kind : symbols.classify lexeme.token <;> simp only [kind] at moves
  case numeral | text | boundName | unknown | freeName | function =>
    subst moves
    grind [Holds, emit, push]
  case operator =>
    subst moves
    unfold pushOperator
    split
    case h_1 => exact holds
    case h_2 operator _ =>
      have before := (holds_emitWhile (yieldsTo symbols.operators operator) token).2 holds
      grind [Holds, push]
  case comma =>
    obtain ⟨rfl, -⟩ := closeArgument_eq_ok moves
    exact (holds_emitWhile ..).2 holds
  case leftParen =>
    obtain ⟨waits, written⟩ := openGroup_eq_ok moves
    grind [Holds]
  case rightParen =>
    obtain ⟨below, waits, applied⟩ := closeGroup_eq_ok moves
    have before := (holds_emitWhile (· != Token.leftParen) token).2 holds
    grind [Holds]

/-! ## Runs of the yard -/

/-- **A name without a meaning is never lost**: the yard holds it after a run that begins with it or
takes it in. -/
lemma holds_acceptAll {lexemes : List Lexeme} (run : yard.acceptAll symbols lexemes = .ok after)
    {token : String} (kind : symbols.classify token = .freeName)
    (given : yard.Holds token ∨ token ∈ lexemes.map Lexeme.token) : after.Holds token := by
  have other : token ≠ Token.leftParen := by
    rintro rfl
    simp at kind
  induction lexemes generalizing yard with
  | nil =>
    obtain rfl := Except.ok.inj run
    simpa using given
  | cons lexeme rest ih =>
    obtain ⟨next, accepted, run⟩ := Fault.bind_eq_ok_iff.1 run
    refine ih run ?_
    rw [List.map_cons, List.mem_cons] at given
    rcases given with holds | rfl | later
    · exact .inl (holds_accept accepted other holds)
    · obtain ⟨moved, -, stack, moves⟩ := accept_eq_ok accepted
      rw [kind] at moves
      subst moves
      exact .inl (.inr (by rw [stack]; exact List.mem_cons_self))
    · exact .inr later

/-- **The yard takes in what is read**: as long as the tokens are in their places and have a
meaning, the parentheses that wait are those that are open, and all that has been taken in has been
read.

**Proof sketch.** Induction on the tokens. A right parenthesis is only accepted when a left one
waits, so it closes one that is open. -/
theorem reads_acceptAll (apart : symbols.NamesApart) {lexemes : List Lexeme}
    (run : yard.acceptAll symbols lexemes = .ok after) {place last : Place}
    (inPlace : place.steps symbols (lexemes.map Lexeme.token) = some last)
    (meant : ∀ token ∈ lexemes.map Lexeme.token, symbols.classify token ≠ .freeName)
    (balanced : yard.openParens = place.calls.length) {tokens : List String}
    (reads : place.Reads symbols tokens) :
    last.Reads symbols (tokens ++ lexemes.map Lexeme.token) ∧
      after.openParens = last.calls.length := by
  induction lexemes generalizing yard place tokens with
  | nil =>
    obtain rfl := Except.ok.inj run
    obtain rfl := Option.some.inj inPlace
    exact ⟨by simpa using reads, balanced⟩
  | cons lexeme rest ih =>
    obtain ⟨next, accepted, run⟩ := Fault.bind_eq_ok_iff.1 run
    rw [List.map_cons, Place.steps_cons, Option.bind_eq_some_iff] at inPlace
    obtain ⟨place', stepped, inPlace⟩ := inPlace
    rw [List.map_cons, List.forall_mem_cons] at meant
    have waiting := openParens_accept apart.operator apart.function accepted
    have counted := Place.length_calls_of_step stepped
    have opened : symbols.classify lexeme.token = .rightParen → place.calls ≠ [] := by
      intro kind
      rw [kind] at waiting
      rw [← List.length_pos_iff]
      omega
    have balancedNext : next.openParens = place'.calls.length := by
      cases kind : symbols.classify lexeme.token <;> simp only [kind] at waiting counted <;> omega
    have readsNext := reads.step stepped meant.1 opened
    simpa using ih run inPlace meant.2 balancedNext readsNext

/-- Only operators wait at the end of a source that is compiled. -/
lemma drain_eq_ok {output stack tokens : List String}
    (drained : drain symbols output stack = .ok tokens) :
    (∀ waiting ∈ stack, symbols.classify waiting = .operator) ∧
      tokens = output.reverse ++ stack := by
  induction stack generalizing output with
  | nil =>
    obtain rfl := Except.ok.inj drained
    simp
  | cons waiting rest ih =>
    rw [drain] at drained
    cases kind : symbols.classify waiting <;> simp only [kind, reduceCtorEq] at drained
    obtain ⟨operators, rfl⟩ := ih drained
    exact ⟨List.forall_mem_cons.2 ⟨kind, operators⟩, by simp⟩

/-- The yard takes in the tokens of a grouped tree from the beginning, and writes its postorder but
for the operators that wait. -/
lemma passes_of_spells (apart : symbols.NamesApart) {tree : Infix} {tokens : List String}
    (spells : tree.Spells symbols tokens) :
    ∃ done pending, done ++ pending = tree.term.postorder ∧
      Pending symbols tree.root? pending ∧ empty.Passes symbols tokens done.reverse pending := by
  obtain ⟨done, pending, order, wait, passes⟩ := groups apart tree spells.formed spells.grouped
  have expects : empty.Expects symbols tree.root? := by
    constructor <;> simp [empty]
  have passed := passes empty expects
  rw [spells.tokens] at passed
  exact ⟨done, pending, order, wait, by simpa [empty] using passed⟩

end Yard

variable {symbols : Symbols} {source : String} {tokens sequence : List String}

/-- What the yard has done when a source is brought into postfix order: it has taken in the tokens
of the source, and only operators wait. -/
lemma toPostfix_eq_ok (arranged : toPostfix symbols source = .ok sequence) :
    ∃ (lexemes : List Lexeme) (after : Yard),
      tokenize symbols.operators source = .ok (lexemes.map Lexeme.token) ∧
      Yard.empty.acceptAll symbols lexemes = .ok after ∧
      (∀ waiting ∈ after.stack, symbols.classify waiting = .operator) ∧
      after.output.reverse ++ after.stack = sequence := by
  obtain ⟨after, run, finished⟩ := Fault.bind_eq_ok_iff.1 arranged
  cases fault : (Scan.ofSource symbols.operators source).fault with
  | none =>
    rw [fault] at finished
    obtain ⟨operators, rfl⟩ := Yard.drain_eq_ok finished
    exact ⟨_, after, by rw [tokenize, Scan.tokens, fault], run, operators, rfl⟩
  | some fault' =>
    rw [fault] at finished
    cases finished

/-- Only a source that consists of tokens is brought into postfix order. -/
lemma exists_tokens_of_toPostfix (arranged : toPostfix symbols source = .ok sequence) :
    ∃ tokens, tokenize symbols.operators source = .ok tokens := by
  obtain ⟨lexemes, -, spelled, -⟩ := toPostfix_eq_ok arranged
  exact ⟨_, spelled⟩

/-- What the yard has done when a source is compiled: only operators wait, and with them what has
been written passes the check. -/
lemma compile_eq_ok (spelled : tokenize symbols.operators source = .ok tokens)
    (compiled : compile symbols source = .ok sequence) :
    ∃ (lexemes : List Lexeme) (after : Yard), lexemes.map Lexeme.token = tokens ∧
      Yard.empty.acceptAll symbols lexemes = .ok after ∧
      (∀ waiting ∈ after.stack, symbols.classify waiting = .operator) ∧
      after.output.reverse ++ after.stack = sequence ∧ checkPostfix symbols sequence = .ok () := by
  obtain ⟨_, arranged, compiled⟩ := Fault.bind_eq_ok_iff.1 compiled
  obtain ⟨_, accepted, same⟩ := Fault.bind_eq_ok_iff.1 compiled
  obtain rfl := Except.ok.inj same
  obtain ⟨lexemes, after, spelledToo, run, operators, rfl⟩ := toPostfix_eq_ok arranged
  have taken := Except.ok.inj (spelledToo.symm.trans spelled)
  exact ⟨lexemes, after, taken, run, operators, rfl, accepted⟩

/-! ## An operator at the end -/

/-- Operators take an operand off for each of them. -/
lemma Forest.length_innermost_of_operators {forest last : Forest} {waiting : List String}
    (operators : ∀ symbol ∈ waiting, symbols.classify symbol = .operator)
    (run : forest.steps symbols waiting = some last) :
    last.innermost.length + waiting.length = forest.innermost.length := by
  induction waiting generalizing forest with
  | nil =>
    obtain rfl := Option.some.inj run
    rfl
  | cons symbol rest ih =>
    obtain ⟨kind, others⟩ := List.forall_mem_cons.1 operators
    rw [Forest.steps_cons, Option.bind_eq_some_iff] at run
    obtain ⟨next, stepped, run⟩ := run
    have shorter := ih others run
    rw [Forest.step, kind] at stepped
    simp only at stepped
    split at stepped
    case h_1 right left terms waits =>
      obtain rfl := Option.some.inj stepped
      rw [waits]
      simp only [List.length_cons] at shorter ⊢
      omega
    case h_2 => cases stepped

/-- **An operator without a right operand is not compiled**: the operators that still wait after it
lack an operand.

**Proof sketch.** What comes before the operator has a grouped tree, so the yard has written the
postorder of the tree but for the operators that wait. The operator takes its place among these.
With them the postorder is read into a single term, so with one operator more there are too few
operands. -/
lemma checkPostfix_ne_ok_of_operator (apart : symbols.NamesApart)
    (derivation : InfixSequence symbols tokens) {symbol : String}
    (kind : symbols.classify symbol = .operator) {lexemes : List Lexeme}
    (spelled : lexemes.map Lexeme.token = tokens ++ [symbol]) {after : Yard}
    (run : Yard.empty.acceptAll symbols lexemes = .ok after) :
    checkPostfix symbols (after.output.reverse ++ after.stack) ≠ .ok () := by
  obtain ⟨tree, spells⟩ := derivation.exists_spells
  obtain ⟨done, pending, order, wait, passes⟩ := Yard.passes_of_spells apart spells
  obtain ⟨operator, found⟩ := Symbols.find?_of_classify_eq_operator kind
  have passed : Yard.empty.Passes symbols (tokens ++ [symbol])
      ((pending.takeWhile (Yard.yieldsTo symbols.operators operator)).reverse ++ done.reverse)
      (symbol :: pending.dropWhile (Yard.yieldsTo symbols.operators operator)) := by
    refine passes.append fun next output stack => ?_
    refine Yard.passes_cons (Yard.accept_operator kind found) ?_
    have last : Yard.Passes symbols _ [] _ _ := Yard.passes_nil
      { (next.emitWhile (Yard.yieldsTo symbols.operators operator)).push symbol with
        previous := some .operator }
    simpa [Yard.emitWhile, Yard.push, output, stack] using last
  obtain ⟨other, runOther, output, stack⟩ := passed lexemes spelled
  obtain rfl : other = after := Except.ok.inj (runOther.symm.trans run)
  intro accepted
  obtain ⟨⟨term, formed, read⟩, -⟩ := checkPostfix_eq_ok_iff_exists_term.1 accepted
  -- both the postorder of the tree and what passes the check go on with operators only
  have readTree := Forest.steps_postorder tree.term spells.formed .empty
  rw [← order, Forest.steps_append, Option.bind_eq_some_iff] at readTree
  obtain ⟨forest, readDone, readPending⟩ := readTree
  have readTerm := Forest.steps_postorder term formed .empty
  rw [read, output, stack, List.reverse_append, List.reverse_reverse, List.reverse_reverse,
    List.append_assoc, Forest.steps_append, readDone, Option.bind_some] at readTerm
  have split : pending.takeWhile (Yard.yieldsTo symbols.operators operator) ++
      pending.dropWhile (Yard.yieldsTo symbols.operators operator) = pending :=
    List.takeWhile_append_dropWhile
  have operators : ∀ waiting ∈ pending.takeWhile (Yard.yieldsTo symbols.operators operator) ++
      symbol :: pending.dropWhile (Yard.yieldsTo symbols.operators operator),
      symbols.classify waiting = .operator := by
    have all := wait.operators
    rw [← split] at all
    grind
  have enough := Forest.length_innermost_of_operators wait.operators readPending
  have tooFew := Forest.length_innermost_of_operators operators readTerm
  have length := congrArg List.length split
  simp only [Forest.push, List.length_append, List.length_cons] at enough tooFew length
  omega

/-! ## The sources that are compiled -/

/-- The name of a function still waits when it is the last token. -/
lemma Yard.mem_stack_of_function {name : String} (kind : symbols.classify name = .function)
    {lexemes : List Lexeme} (spelled : lexemes.map Lexeme.token = tokens ++ [name])
    {yard after : Yard} (run : yard.acceptAll symbols lexemes = .ok after) :
    name ∈ after.stack := by
  obtain ⟨front, back, rfl, -, last⟩ := List.map_eq_append_iff.1 spelled
  obtain ⟨⟨_, stop⟩, _, rfl, rfl, nothing⟩ := List.map_eq_cons_iff.1 last
  obtain rfl := List.map_eq_nil_iff.1 nothing
  rw [acceptAll_append] at run
  obtain ⟨middle, -, run⟩ := Fault.bind_eq_ok_iff.1 run
  rw [acceptAll, accept_function kind] at run
  obtain rfl := Except.ok.inj run
  exact List.mem_cons_self

/-- **A source that is compiled is an infix sequence** when its tokens are in their places.

**Proof sketch.** All its tokens have a meaning, since names without one are not lost and do not
pass the check. So what has been taken in has been read, and no parenthesis is open at the end.
The source ends with an operand then: neither an operator nor a function is compiled at the end,
and neither is a source without tokens. -/
theorem infixSequence_of_compile (apart : symbols.NamesApart)
    (spelled : tokenize symbols.operators source = .ok tokens)
    (compiled : compile symbols source = .ok sequence) (orderly : Orderly symbols tokens) :
    InfixSequence symbols tokens := by
  obtain ⟨lexemes, after, taken, run, operators, rfl, accepted⟩ := compile_eq_ok spelled compiled
  obtain ⟨last, inPlace⟩ := Option.isSome_iff_exists.1 orderly
  have meant : ∀ token ∈ tokens, symbols.classify token ≠ .freeName := by
    intro token member kind
    rw [← taken] at member
    have holds : after.Holds token := Yard.holds_acceptAll run kind (.inr member)
    have written : token ∈ after.output.reverse ++ after.stack := by simpa [Yard.Holds] using holds
    exact (classify_of_checkPostfix accepted written).1 kind
  obtain ⟨reads, balanced⟩ := Yard.reads_acceptAll apart run (taken ▸ inPlace) (taken ▸ meant) rfl
    .start
  rw [taken, List.nil_append] at reads
  have closed : last.calls = [] := by
    have noneWaits : after.openParens = 0 := by
      rw [Yard.openParens, List.count_eq_zero]
      intro waits
      simpa using operators _ waits
    rw [← List.length_eq_zero_iff, ← balanced, noneWaits]
  cases reads with
  | start =>
    obtain rfl := List.map_eq_nil_iff.1 taken
    obtain rfl := Except.ok.inj run
    cases accepted
  | operand awaits derivation _ =>
    subst closed
    exact awaits _ derivation
  | operator awaits derivation kind =>
    subst closed
    exact absurd accepted
      (checkPostfix_ne_ok_of_operator apart (awaits _ derivation) kind taken run)
  | function awaits kind =>
    have waits := operators _ (Yard.mem_stack_of_function kind taken run)
    rw [kind] at waits
    cases waits
  | comma | group | call => cases closed

/-- The postfix sequence of a source that spells a grouped tree is the postorder of the tree. -/
lemma toPostfix_of_spells (apart : symbols.NamesApart)
    (spelled : tokenize symbols.operators source = .ok tokens) {tree : Infix}
    (spells : tree.Spells symbols tokens) :
    toPostfix symbols source = .ok tree.term.postorder := by
  obtain ⟨done, pending, order, wait, passes⟩ := Yard.passes_of_spells apart spells
  obtain ⟨noFault, lexemes⟩ := tokenize_eq_ok spelled
  obtain ⟨last, run, output, stack⟩ := passes _ lexemes
  rw [toPostfix, run, noFault, Fault.ok_bind]
  show Yard.drain symbols last.output last.stack = _
  rw [output, stack, Yard.drain_eq _ _ wait.operators, List.reverse_reverse, order]

/-- **An infix sequence is compiled** exactly when its numerals can be read. -/
theorem exists_compile_iff_of_infixSequence (apart : symbols.NamesApart)
    (spelled : tokenize symbols.operators source = .ok tokens)
    (derivation : InfixSequence symbols tokens) :
    (∃ sequence, compile symbols source = .ok sequence) ↔
      ∀ token ∈ tokens, symbols.Readable token := by
  obtain ⟨tree, spells⟩ := derivation.exists_spells
  have compiled : (∃ sequence, compile symbols source = .ok sequence) ↔
      checkPostfix symbols tree.term.postorder = .ok () := by
    rw [compile, toPostfix_of_spells apart spelled spells, Fault.ok_bind]
    cases checkPostfix symbols tree.term.postorder <;> simp
  have values : ∀ token, symbols.classify token = .numeral →
      (token ∈ tree.term.postorder ↔ token ∈ tokens) := by
    intro token kind
    rw [← spells.tokens]
    exact Infix.mem_postorder_iff (by rw [kind]; rfl) tree spells.formed
  rw [compiled, checkPostfix_eq_ok_iff_exists_term]
  constructor
  · rintro ⟨-, readable⟩ token member kind
    exact readable token ((values token kind).2 member) kind
  · intro readable
    refine ⟨⟨tree.term, spells.formed, rfl⟩, fun token member kind => ?_⟩
    exact readable token ((values token kind).1 member) kind

/-- **Among the sources whose tokens are in their places just the infix sequences are compiled**,
provided that their numerals can be read. -/
theorem compile_and_orderly_iff (apart : symbols.NamesApart)
    (spelled : tokenize symbols.operators source = .ok tokens) :
    (∃ sequence, compile symbols source = .ok sequence) ∧ Orderly symbols tokens ↔
      InfixSequence symbols tokens ∧ ∀ token ∈ tokens,
        symbols.classify token = .numeral → (Decimal.ofNumeral? token).isSome = true := by
  constructor
  · rintro ⟨⟨sequence, compiled⟩, orderly⟩
    have derivation := infixSequence_of_compile apart spelled compiled orderly
    exact ⟨derivation, (exists_compile_iff_of_infixSequence apart spelled derivation).1
      ⟨sequence, compiled⟩⟩
  · rintro ⟨derivation, readable⟩
    exact ⟨(exists_compile_iff_of_infixSequence apart spelled derivation).2 readable,
      derivation.orderly⟩

/-- A source with a call, a group and a bound name is compiled, so its tokens are an infix
sequence. -/
theorem compile_and_orderly_iff_call :
    let source := "max(1, x) * (3 - 4)"
    let symbols := ((Expression.new source).setVariable "x" (.decimal ⟨2, 0⟩)).symbols
    let tokens := ["max", "(", "1", ",", "x", ")", "*", "(", "3", "-", "4", ")"]
    tokenize symbols.operators source = .ok tokens ∧
      compile symbols source = .ok ["(", "1", "x", "max", "3", "4", "-", "*"] ∧
        InfixSequence symbols tokens := by
  intro source symbols tokens
  have apart : symbols.NamesApart :=
    ⟨Symbols.namesApart_standard.operator, Symbols.namesApart_standard.function,
      Symbols.namesApart_standard.apart⟩
  have spelled : tokenize symbols.operators source = .ok tokens := by decide
  have compiled : compile symbols source = .ok ["(", "1", "x", "max", "3", "4", "-", "*"] := by
    decide
  have orderly : Orderly symbols tokens := by decide
  exact ⟨spelled, compiled,
    ((compile_and_orderly_iff apart spelled).1 ⟨⟨_, compiled⟩, orderly⟩).1⟩

/-- A postfix sequence is compiled as if it were an infix sequence. -/
theorem compile_not_infixSequence :
    tokenize Symbols.standard.operators "1 2 +" = .ok ["1", "2", "+"] ∧
      compile .standard "1 2 +" = .ok ["1", "2", "+"] ∧
        ¬ InfixSequence .standard ["1", "2", "+"] := by
  refine ⟨by rfl, by rfl, fun derivation => ?_⟩
  have outOfPlace : ¬ Orderly .standard ["1", "2", "+"] := by decide
  exact outOfPlace derivation.orderly

end Formula
