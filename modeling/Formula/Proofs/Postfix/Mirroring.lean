import Formula.Proofs.Infix.Acceptance
import Formula.Proofs.Token.Splitting

set_option autoImplicit false

/-!
# Two yards side by side

A yard that already holds something does with the tokens of a source what an empty one does, as long
as a left parenthesis is on top of what waits in it: every search of the stack stops there. The
other yard may also have expanded some tokens that are written and do not wait. So a source in
parentheses leaves just its own postfix sequence. Behind the left parenthesis it is taken in as it
is alone, and the right parenthesis does to what waits then what the end of the source does,
whatever else the tables do with the tokens in between.

## Main definitions

* `Formula.Yard.Mirrors` — a yard does what another one does, up to what tokens of the output are
  expanded to and on top of what waits below.

## Main results

* `Formula.Yard.Mirrors.accept` — the relation is kept by a token that stays as it is.
* `Formula.Yard.acceptAll_parenthesized` — a source in parentheses leaves its postfix sequence.
* `Formula.toPostfix_parenthesized` — the postfix sequence of a source in parentheses.
-/

namespace Formula

namespace Yard

variable {symbols others : Symbols} {expand : String → List String}
  {written bottom : List String} {yard image after : Yard}

/-- What one yard does is done by another one as well: each token of the output is expanded, and
more has been written and waits below. Tokens that wait are not expanded. -/
structure Mirrors (expand : String → List String) (written bottom : List String)
    (yard image : Yard) : Prop where
  /-- The output is expanded, with the last token first as everywhere in it. -/
  output : image.output = yard.output.flatMap (fun token => (expand token).reverse) ++ written
  /-- The same tokens wait, above others. -/
  stack : image.stack = yard.stack ++ bottom
  /-- Tokens that wait stand for themselves. -/
  kept : ∀ waiting ∈ yard.stack, expand waiting = [waiting]
  /-- Both yards stand behind a numeral or neither does: a parenthesis cannot follow it. -/
  numeral : image.previous = some .numeral ↔ yard.previous = some .numeral
  /-- Both yards stand behind a function or neither does: a parenthesis then begins a call. -/
  function : image.previous = some .function ↔ yard.previous = some .function

namespace Mirrors

/-- Tokens that stand for themselves are not expanded. -/
lemma flatMap_of_kept {tokens : List String} (kept : ∀ token ∈ tokens, expand token = [token]) :
    tokens.flatMap expand = tokens := by
  induction tokens with
  | nil => rfl
  | cons token tokens ih =>
    obtain ⟨first, others⟩ := List.forall_mem_cons.1 kept
    rw [List.flatMap_cons, first, ih others]
    rfl

/-- Tokens that stand for themselves are not expanded in the output either, where the last one comes
first. -/
lemma flatMap_reverse_of_kept {tokens : List String}
    (kept : ∀ token ∈ tokens, expand token = [token]) :
    tokens.flatMap (fun token => (expand token).reverse) = tokens :=
  flatMap_of_kept fun token member => by rw [kept token member, List.reverse_singleton]

/-- A token that stands for itself is written by both yards. -/
lemma emit (mirrors : Mirrors expand written bottom yard image) {token : String}
    (kept : expand token = [token]) :
    Mirrors expand written bottom (yard.emit token) (image.emit token) :=
  { mirrors with output := by simp [Yard.emit, mirrors.output, kept] }

/-- A token that stands for itself waits in both yards. -/
lemma push (mirrors : Mirrors expand written bottom yard image) {token : String}
    (kept : expand token = [token]) :
    Mirrors expand written bottom (yard.push token) (image.push token) :=
  { mirrors with
    stack := by simp [Yard.push, mirrors.stack]
    kept := List.forall_mem_cons.2 ⟨kept, mirrors.kept⟩ }

/-- The token before is the same from then on. -/
lemma withPrevious (mirrors : Mirrors expand written bottom yard image) (kind : TokenKind) :
    Mirrors expand written bottom { yard with previous := some kind }
      { image with previous := some kind } :=
  { mirrors with numeral := Iff.rfl, function := Iff.rfl }

/-- What one yard does with a token is done by the other one, and then the token before is the
same. -/
lemma of_step {step step' : Except Fault Yard} {kind : TokenKind}
    (both : ∀ moved, step = .ok moved →
      ∃ next, step' = .ok next ∧ Mirrors expand written bottom moved next)
    (accepted : (do let next ← step; return { next with previous := some kind }) = .ok after) :
    ∃ next, (do let next ← step'; return { next with previous := some kind }) = .ok next ∧
      Mirrors expand written bottom after next := by
  obtain ⟨moved, taken, result⟩ := Fault.bind_eq_ok_iff.1 accepted
  obtain rfl := Except.ok.inj result
  obtain ⟨next, takenToo, mirrors⟩ := both moved taken
  refine ⟨{ next with previous := some kind }, ?_, mirrors.withPrevious kind⟩
  rw [takenToo]
  rfl

/-- Moving tokens from the stack to the output stops at what waits below. -/
lemma emitWhile (mirrors : Mirrors expand written bottom yard image) {condition : String → Bool}
    (stops : ∀ waiting ∈ bottom.head?, condition waiting = false) :
    Mirrors expand written bottom (yard.emitWhile condition) (image.emitWhile condition) := by
  have split : image.stack.takeWhile condition = yard.stack.takeWhile condition ∧
      image.stack.dropWhile condition = yard.stack.dropWhile condition ++ bottom := by
    rw [mirrors.stack]
    generalize yard.stack = stack
    induction stack with
    | nil =>
      cases bottom with
      | nil => simp
      | cons waiting below => simp [stops waiting rfl]
    | cons token stack ih =>
      cases met : condition token <;> simp [met, ih]
  refine { mirrors with output := ?_, stack := ?_, kept := ?_ }
  · have moved : ∀ token ∈ (yard.stack.takeWhile condition).reverse, expand token = [token] :=
      fun token member => mirrors.kept token
        ((List.takeWhile_prefix condition).subset (List.mem_reverse.1 member))
    simp only [Yard.emitWhile, split.1, mirrors.output, List.flatMap_append,
      flatMap_reverse_of_kept moved, List.append_assoc]
  · exact split.2
  · exact fun token member => mirrors.kept token ((List.dropWhile_suffix condition).subset member)

section

variable (parens : ∀ waiting ∈ bottom.head?, waiting = Token.leftParen)
  (noOperator : others.operators.contains Token.leftParen = false)
  (noFunction : others.functions.contains Token.leftParen = false)
  (sameOperators : others.operators = symbols.operators)
  (sameFunctions : others.functions = symbols.functions)

include parens in
/-- Both yards write what waits above the last open parenthesis. -/
lemma emitWhile_leftParen (mirrors : Mirrors expand written bottom yard image) :
    Mirrors expand written bottom (yard.emitWhile (· != Token.leftParen))
      (image.emitWhile (· != Token.leftParen)) :=
  mirrors.emitWhile fun waiting atTop => by simpa using parens waiting atTop

include parens in
/-- Both yards end an argument. -/
lemma closeArgument (mirrors : Mirrors expand written bottom yard image)
    (closed : yard.closeArgument = .ok after) :
    ∃ moved, image.closeArgument = .ok moved ∧ Mirrors expand written bottom after moved := by
  have emitted := mirrors.emitWhile_leftParen parens
  unfold Yard.closeArgument at closed ⊢
  simp only at closed ⊢
  split at closed
  case isTrue => cases closed
  case isFalse waits =>
    obtain rfl := Except.ok.inj closed
    refine ⟨_, if_neg ?_, emitted⟩
    rw [List.isEmpty_iff, emitted.stack, List.append_eq_nil_iff]
    exact fun empty => waits (List.isEmpty_iff.2 empty.1)

/-- Both yards open a group, since both stand behind the same kind of token. -/
lemma openGroup (mirrors : Mirrors expand written bottom yard image)
    (kept : expand Token.leftParen = [Token.leftParen]) {stop : Nat}
    (opened : yard.openGroup stop = .ok after) (other : Nat) :
    ∃ moved, image.openGroup other = .ok moved ∧ Mirrors expand written bottom after moved := by
  unfold Yard.openGroup at opened ⊢
  split at opened
  case h_1 => cases opened
  case h_2 function =>
    obtain rfl := Except.ok.inj opened
    rw [mirrors.function.2 function]
    exact ⟨_, rfl, (mirrors.emit kept).push kept⟩
  case h_3 notNumeral notFunction =>
    obtain rfl := Except.ok.inj opened
    refine ⟨image.push Token.leftParen, ?_, mirrors.push kept⟩
    split
    case h_1 numeral => exact absurd (mirrors.numeral.1 numeral) notNumeral
    case h_2 function => exact absurd (mirrors.function.1 function) notFunction
    case h_3 => rfl

include parens noOperator sameOperators in
/-- An operator moves the same waiting operators in both yards. -/
lemma pushOperator (mirrors : Mirrors expand written bottom yard image) {token : String}
    (kept : expand token = [token]) :
    Mirrors expand written bottom (yard.pushOperator symbols token)
      (image.pushOperator others token) := by
  unfold Yard.pushOperator
  rw [sameOperators]
  cases found : symbols.operators.find? token with
  | none => exact mirrors
  | some operator =>
    refine (mirrors.emitWhile fun waiting atTop => ?_).push kept
    rw [parens waiting atTop]
    exact yieldsTo_leftParen (sameOperators ▸ noOperator) operator

include parens noFunction sameFunctions in
/-- Both yards close a group or a call. -/
lemma closeGroup (mirrors : Mirrors expand written bottom yard image)
    (closed : yard.closeGroup symbols = .ok after) :
    ∃ moved, image.closeGroup others = .ok moved ∧ Mirrors expand written bottom after moved := by
  have emitted := mirrors.emitWhile_leftParen parens
  unfold Yard.closeGroup at closed ⊢
  simp only at closed ⊢
  generalize yard.emitWhile (· != Token.leftParen) = yard at closed emitted
  generalize image.emitWhile (· != Token.leftParen) = image at emitted ⊢
  rw [emitted.stack]
  have keptBelow := emitted.kept
  obtain ⟨output, _ | ⟨paren, _ | ⟨waiting, below⟩⟩, previous, last⟩ := yard
  · cases closed
  · -- only what was below before waits below the parenthesis
    obtain rfl := Except.ok.inj closed
    refine ⟨{ image with stack := bottom }, ?_, { emitted with stack := rfl, kept := by simp }⟩
    cases bottom with
    | nil => rfl
    | cons waiting below =>
      simp only [List.cons_append, List.nil_append]
      rw [parens waiting rfl, noFunction, if_neg Bool.false_ne_true]
  · obtain ⟨-, keptWaiting, keptBelow⟩ : expand paren = [paren] ∧ expand waiting = [waiting] ∧
        ∀ token ∈ below, expand token = [token] := by simpa using keptBelow
    simp only [List.cons_append, sameFunctions] at closed ⊢
    split at closed
    case isTrue function =>
      obtain rfl := Except.ok.inj closed
      have popped : Mirrors expand written bottom ⟨output, below, previous, last⟩
          { image with stack := below ++ bottom } :=
        { emitted with stack := rfl, kept := keptBelow }
      exact ⟨_, if_pos function, popped.emit keptWaiting⟩
    case isFalse notFunction =>
      obtain rfl := Except.ok.inj closed
      have popped : Mirrors expand written bottom ⟨output, waiting :: below, previous, last⟩
          { image with stack := waiting :: below ++ bottom } :=
        { emitted with
          stack := rfl
          kept := List.forall_mem_cons.2 ⟨keptWaiting, keptBelow⟩ }
      exact ⟨_, if_neg notFunction, popped⟩

include parens noOperator noFunction sameOperators sameFunctions in
/-- **A token that stays as it is keeps the relation**, if both tables take it for the same.

**Proof sketch.** By the kind of the token. What is moved to the output has waited in both yards,
since every search of the stack stops at a left parenthesis, and below that a function waits in both
yards or in neither. -/
lemma accept (mirrors : Mirrors expand written bottom yard image) {lexeme other : Lexeme}
    (sameToken : other.token = lexeme.token)
    (sameKind : others.classify lexeme.token = symbols.classify lexeme.token)
    (kept : expand lexeme.token = [lexeme.token])
    (accepted : yard.accept symbols lexeme = .ok after) :
    ∃ next, image.accept others other = .ok next ∧ Mirrors expand written bottom after next := by
  unfold Yard.accept at accepted ⊢
  simp only [sameToken, sameKind] at accepted ⊢
  cases kind : symbols.classify lexeme.token <;> simp only [kind] at accepted ⊢ <;>
    refine of_step (fun moved taken => ?_) accepted
  case numeral | text | boundName =>
    obtain rfl := Except.ok.inj taken
    exact ⟨_, rfl, mirrors.emit kept⟩
  case function =>
    obtain rfl := Except.ok.inj taken
    exact ⟨_, rfl, { mirrors.push kept with }⟩
  case freeName =>
    obtain rfl := Except.ok.inj taken
    exact ⟨_, rfl, mirrors.push kept⟩
  case operator =>
    obtain rfl := Except.ok.inj taken
    exact ⟨_, rfl, mirrors.pushOperator parens noOperator sameOperators kept⟩
  case unknown =>
    obtain rfl := Except.ok.inj taken
    exact ⟨_, rfl, mirrors⟩
  case comma => exact mirrors.closeArgument parens taken
  case leftParen =>
    rw [Symbols.classify_eq_leftParen_iff.1 kind] at kept
    exact mirrors.openGroup kept taken other.stop
  case rightParen => exact mirrors.closeGroup parens noFunction sameFunctions taken

end

/-- **A list of tokens that stay as they are keeps the relation.** -/
lemma acceptAll_self (mirrors : Mirrors (fun token => [token]) written bottom yard image)
    (parens : ∀ waiting ∈ bottom.head?, waiting = Token.leftParen)
    (noOperator : symbols.operators.contains Token.leftParen = false)
    (noFunction : symbols.functions.contains Token.leftParen = false)
    {lexemes lexemes' : List Lexeme}
    (sameTokens : lexemes'.map Lexeme.token = lexemes.map Lexeme.token)
    (run : yard.acceptAll symbols lexemes = .ok after) :
    ∃ last, image.acceptAll symbols lexemes' = .ok last ∧
      Mirrors (fun token => [token]) written bottom after last := by
  induction lexemes generalizing yard image lexemes' with
  | nil =>
    obtain rfl := List.map_eq_nil_iff.1 sameTokens
    obtain rfl := Except.ok.inj run
    exact ⟨image, rfl, mirrors⟩
  | cons lexeme rest ih =>
    obtain ⟨other, rest', rfl, sameToken, sameRest⟩ := List.map_eq_cons_iff.1 sameTokens
    obtain ⟨moved, accepted, run⟩ := Fault.bind_eq_ok_iff.1 run
    obtain ⟨next, acceptedToo, mirrorsNext⟩ := mirrors.accept parens noOperator noFunction rfl rfl
      sameToken rfl rfl accepted
    obtain ⟨last, runToo, mirrorsLast⟩ := ih mirrorsNext sameRest run
    refine ⟨last, ?_, mirrorsLast⟩
    rw [Yard.acceptAll, acceptedToo]
    exact runToo

end Mirrors

/-- **A source in parentheses leaves its postfix sequence** in the output, where a group may be
opened and no function waits. -/
lemma acceptAll_parenthesized (noOperator : symbols.operators.contains Token.leftParen = false)
    (noFunction : symbols.functions.contains Token.leftParen = false) {source : String}
    {tokens sequence : List String} (spelled : tokenize symbols.operators source = .ok tokens)
    (arranged : toPostfix symbols source = .ok sequence)
    (notNumeral : yard.previous ≠ some .numeral) (notFunction : yard.previous ≠ some .function)
    (noCall : ∀ waiting ∈ yard.stack.head?, symbols.functions.contains waiting = false)
    {lexemes : List Lexeme}
    (parenthesized : lexemes.map Lexeme.token =
      Token.leftParen :: tokens ++ [Token.rightParen]) :
    ∃ last, yard.acceptAll symbols lexemes = .ok last ∧
      last.output = sequence.reverse ++ yard.output ∧ last.stack = yard.stack ∧
        last.previous = some .rightParen := by
  obtain ⟨lexemes', inner, spelledToo, run, operators, rfl⟩ := toPostfix_eq_ok arranged
  obtain rfl := Except.ok.inj (spelledToo.symm.trans spelled)
  rw [List.cons_append] at parenthesized
  obtain ⟨opening, behind, rfl, isLeft, rest⟩ := List.map_eq_cons_iff.1 parenthesized
  obtain ⟨inside, closing, rfl, insideTokens, closingTokens⟩ := List.map_eq_append_iff.1 rest
  obtain ⟨⟨_, stop⟩, none, rfl, rfl, nothing⟩ := List.map_eq_cons_iff.1 closingTokens
  obtain rfl := List.map_eq_nil_iff.1 nothing
  obtain ⟨_, start⟩ := opening
  obtain rfl : _ = Token.leftParen := isLeft
  have opened : yard.accept symbols ⟨Token.leftParen, start⟩ =
      .ok { yard.push Token.leftParen with previous := some .leftParen } :=
    accept_leftParen notNumeral notFunction start
  have mirrors : Mirrors (fun token => [token]) yard.output (Token.leftParen :: yard.stack) empty
      { yard.push Token.leftParen with previous := some .leftParen } :=
    ⟨rfl, rfl, by simp [empty], by simp [empty], by simp [empty]⟩
  obtain ⟨last, runInside, mirrorsLast⟩ := mirrors.acceptAll_self
    (by rintro waiting ⟨rfl⟩; rfl) noOperator noFunction insideTokens run
  have closed := accept_rightParen operators mirrorsLast.stack noCall stop
  refine ⟨{ last with
    output := inner.stack.reverse ++ last.output
    stack := yard.stack
    previous := some .rightParen }, ?_, ?_, rfl, rfl⟩
  · rw [acceptAll, opened, Fault.ok_bind, acceptAll_append, runInside, Fault.ok_bind, acceptAll,
      closed, Fault.ok_bind, acceptAll]
  · simp [mirrorsLast.output]

end Yard

/-! ## A source in parentheses -/

variable {symbols : Symbols} {source : String}

/-- A source in parentheses has its own tokens between them. -/
lemma tokenize_parenthesized {operators : OperatorTable} {tokens : List String}
    (spelled : tokenize operators source = .ok tokens) :
    tokenize operators ("(" ++ source ++ ")") =
      .ok (Token.leftParen :: tokens ++ [Token.rightParen]) := by
  rw [tokenize_eq_ok_iff] at spelled ⊢
  have alone := @Splits.parenthesized operators none source.toList [] [] tokens [] spelled
    (List.forall_mem_nil _) (.done (List.forall_mem_nil _))
  simpa using alone

/-- **Parentheses around a source change nothing.** A source that can be brought into postfix order
has the same postfix sequence in parentheses, whether or not it is an infix expression, if no
operator or function is named like a left parenthesis.

**Proof sketch.** The source is split into the same tokens between parentheses. Its postfix sequence
is in the output of the yard after the right parenthesis, and nothing waits any more. -/
theorem toPostfix_parenthesized (noOperator : symbols.operators.contains Token.leftParen = false)
    (noFunction : symbols.functions.contains Token.leftParen = false) {sequence : List String}
    (arranged : toPostfix symbols source = .ok sequence) :
    toPostfix symbols ("(" ++ source ++ ")") = .ok sequence := by
  obtain ⟨tokens, spelled⟩ := exists_tokens_of_toPostfix arranged
  obtain ⟨noFault, lexemes⟩ := tokenize_eq_ok (tokenize_parenthesized spelled)
  obtain ⟨last, run, output, stack, -⟩ := @Yard.acceptAll_parenthesized symbols .empty noOperator
    noFunction source tokens sequence spelled arranged (by simp [Yard.empty]) (by simp [Yard.empty])
    (by simp [Yard.empty]) _ lexemes
  rw [toPostfix, run, noFault, Fault.ok_bind]
  simp [Yard.finish, output, stack, Yard.empty, Yard.drain]

/-- A source that is no infix expression: an operator is missing, an argument is empty, and a free
name waits until the call is closed. -/
theorem toPostfix_parenthesized_misplaced :
    let source := " 'a)' 1 -2*max( ,x) "
    let sequence := ["'a)'", "1", "2", "(", "x", "max", "*", "-"]
    toPostfix .standard source = .ok sequence ∧
      toPostfix .standard ("(" ++ source ++ ")") = .ok sequence := by
  intro source sequence
  have alone : toPostfix .standard source = .ok sequence := by decide +kernel
  exact ⟨alone, toPostfix_parenthesized (by decide) (by decide) alone⟩

end Formula
