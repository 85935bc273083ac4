import Formula.Proofs.Infix.Acceptance
import Formula.Proofs.Token.Splitting

set_option autoImplicit false

/-!
# Tokens are neither lost nor invented

The yard takes in sources of any form, also such that are not infix sequences, and tokens come to
the output in several ways: at once, from the stack when an operator, a comma or a right
parenthesis applies them, or at the end. None of them is lost on the way, none is written twice,
and operands stay in the order of the source. Only the left parenthesis of a call is written as
well, and that is what makes it a mark in the postfix sequence.

## Main definitions

* `Formula.Token.Nested`, `Balanced` — parentheses are closed after they are opened, and commas
  stand inside of them.
* `Formula.Symbols.calls` — the number of left parentheses behind the name of a function.
* `Formula.Symbols.Stored` — which tokens are in the output and on the stack.
* `Formula.Yard.Accounts` — what the yard knows of the tokens that it has taken in.

## Main results

* `Formula.Splits.classify_ne_unknown` — every token of a source has a kind.
* `Formula.Yard.Accounts.accept`, `acceptAll` — the account is kept by a token and by a run.
* `Formula.toPostfix_keeps_tokens` — where the tokens of a source are in its postfix sequence.
-/

namespace Formula

variable {symbols : Symbols} {tokens : List String} {token : String}

/-! ## Every token has a kind -/

/-- What has no kind is neither a name nor an operator. -/
lemma Symbols.classify_eq_unknown (kind : symbols.classify token = .unknown) :
    Token.isIdentifier token = false ∧ symbols.operators.contains token = false := by
  unfold classify at kind
  grind

/-- **Every token of a source has a kind**: the yard passes over no token. -/
lemma Cursor.Leads.classify_ne_unknown {previous : Option String} {token rest : List Char}
    (leads : Leads symbols.operators previous token rest) :
    symbols.classify (String.ofList token) ≠ .unknown := by
  cases leads with
  | text escaped ends =>
    rw [symbols.classify_enclose]
    decide
  | numeral shape ends =>
    rw [symbols.classify_of_isNumeral shape.isNumeral.1]
    decide
  | negative opens shape ends =>
    rw [symbols.classify_of_isNumeral shape.isNumeral.2]
    decide
  | identifier shape ends =>
    intro kind
    have noName := (Symbols.classify_eq_unknown kind).1
    rw [Token.isIdentifier, String.toList_ofList, shape.1] at noName
    cases noName
  | separator shape =>
    rcases Token.isSeparator_iff.1 shape with rfl | rfl | rfl
    · exact ne_of_eq_of_ne symbols.classify_leftParen (by decide)
    · exact ne_of_eq_of_ne symbols.classify_rightParen (by decide)
    · exact ne_of_eq_of_ne symbols.classify_comma (by decide)
  | operator shape registered ends unsigned =>
    intro kind
    rw [(Symbols.classify_eq_unknown kind).2] at registered
    cases registered

/-- A source splits into tokens that all have a kind. -/
lemma Splits.classify_ne_unknown {previous : Option String} {text : List Char}
    (splits : Splits symbols.operators previous text tokens) (member : token ∈ tokens) :
    symbols.classify token ≠ .unknown := by
  induction splits with
  | done blank => cases member
  | token blank leads more ih =>
    rcases List.mem_cons.1 member with rfl | later
    · exact leads.classify_ne_unknown
    · exact ih later

/-! ## Parentheses and commas -/

/-- Whether tokens of a kind are parentheses or commas. -/
def TokenKind.isPunctuation : TokenKind → Bool
  | leftParen | rightParen | comma => true
  | _ => false

namespace Token

/-- A parenthesis or a comma. -/
def isPunctuation (token : String) : Bool :=
  token == leftParen || token == rightParen || token == comma

/-- Parentheses are opened before they are closed, and commas stand where one is open. -/
structure Nested (tokens : List String) : Prop where
  /-- No part of the source up to some token closes more parentheses than it opens. -/
  opened : ∀ front, front <+: tokens → front.count rightParen ≤ front.count leftParen
  /-- In front of a comma more parentheses have been opened than closed. -/
  inside : ∀ front, front ++ [comma] <+: tokens → front.count rightParen < front.count leftParen

/-- Parentheses are nested, and all of them are closed. -/
structure Balanced (tokens : List String) : Prop extends Nested tokens where
  /-- As many parentheses are closed as are opened. -/
  closed : tokens.count rightParen = tokens.count leftParen

/-- Without tokens nothing is open. -/
lemma nested_nil : Nested [] where
  opened front atFront := by simp [List.prefix_nil.1 atFront]
  inside front atFront := by simp at atFront

/-- One token more. -/
lemma Nested.concat (nested : Nested tokens)
    (closes : (tokens ++ [token]).count rightParen ≤ (tokens ++ [token]).count leftParen)
    (inside : token = comma → tokens.count rightParen < tokens.count leftParen) :
    Nested (tokens ++ [token]) where
  opened front atFront := by
    rcases List.prefix_concat_iff.1 atFront with rfl | earlier
    · exact closes
    · exact nested.opened front earlier
  inside front atFront := by
    rcases List.prefix_concat_iff.1 atFront with whole | earlier
    · obtain ⟨rfl, isComma⟩ := List.append_inj' whole rfl
      exact inside (List.head_eq_of_cons_eq isComma).symm
    · exact nested.inside front earlier

end Token

namespace Symbols

/-- A token that stands for a value. -/
def isValue (symbols : Symbols) (token : String) : Bool := (symbols.classify token).isValue

/-- The number of left parentheses that come directly after the name of a function. -/
def calls (symbols : Symbols) (tokens : List String) : Nat :=
  (tokens.zip tokens.tail).countP fun (before, token) =>
    symbols.classify before == .function && token == Token.leftParen

/-- A token counts as a call if it is a left parenthesis after the name of a function. -/
lemma calls_concat : symbols.calls (tokens ++ [token]) = symbols.calls tokens +
    if tokens.getLast?.map symbols.classify = some .function ∧ token = Token.leftParen then 1
    else 0 := by
  induction tokens with
  | nil => simp [calls]
  | cons first rest ih =>
    cases rest with
    | nil => simp [calls]
    | cons second rest =>
      simp only [calls, List.cons_append, List.tail_cons, List.zip_cons_cons, List.countP_cons,
        List.getLast?_cons_cons] at ih ⊢
      rw [ih]
      omega

/-- Only a left parenthesis can be that of a call. -/
lemma calls_concat_of_ne (other : token ≠ Token.leftParen) :
    symbols.calls (tokens ++ [token]) = symbols.calls tokens := by
  simp [calls_concat, other]

/-! ## Tokens in the output and on the stack -/

/-- The tokens that have been taken in are in the output, last token first, and on the stack. -/
structure Stored (symbols : Symbols) (tokens output stack : List String) : Prop where
  /-- Values have been written in the order of the source. -/
  values : output.reverse.filter symbols.isValue = tokens.filter symbols.isValue
  /-- No value waits. -/
  waiting : ∀ token ∈ stack, symbols.isValue token = false
  /-- Every token but punctuation is there as often as it has been taken in. -/
  kept : ((output.reverse ++ stack).filter (· != Token.leftParen)).Perm
    (tokens.filter (!Token.isPunctuation ·))
  /-- The parentheses in the output are those of calls. -/
  marks : output.count Token.leftParen = symbols.calls tokens

/-- The kinds of punctuation are those of the punctuation tokens, whatever has been registered. -/
lemma isPunctuation_classify (symbols : Symbols) (token : String) :
    (symbols.classify token).isPunctuation = Token.isPunctuation token := by
  have left := @classify_eq_leftParen_iff symbols token
  have right := @classify_eq_rightParen_iff symbols token
  have comma := @classify_eq_comma_iff symbols token
  cases kind : symbols.classify token <;>
    simp_all [TokenKind.isPunctuation, Token.isPunctuation]

/-- Punctuation is no value. -/
lemma isValue_of_isPunctuation (punctuation : Token.isPunctuation token = true) :
    symbols.isValue token = false := by
  rw [← symbols.isPunctuation_classify] at punctuation
  rw [isValue]
  cases kind : symbols.classify token <;> simp_all [TokenKind.isPunctuation, TokenKind.isValue]

/-- What is no punctuation is no left parenthesis. -/
lemma ne_leftParen_of_isPunctuation (plain : Token.isPunctuation token = false) :
    token ≠ Token.leftParen := by
  rintro rfl
  cases plain

namespace Stored

variable {output stack : List String}

/-- Nothing has been taken in yet. -/
lemma nil : symbols.Stored [] [] [] := by
  constructor <;> simp [calls]

/-- One token more has been taken in and stands between what is written and what waits. -/
lemma kept_concat (stored : symbols.Stored tokens output stack)
    (plain : Token.isPunctuation token = false) :
    ((output.reverse ++ token :: stack).filter (· != Token.leftParen)).Perm
      ((tokens ++ [token]).filter (!Token.isPunctuation ·)) := by
  have noParen : (token != Token.leftParen) = true := by
    simpa using ne_leftParen_of_isPunctuation plain
  have taken : (tokens ++ [token]).filter (!Token.isPunctuation ·) =
      tokens.filter (!Token.isPunctuation ·) ++ [token] := by
    simp [plain]
  rw [taken]
  -- the token is moved to the front, where it is the only one more, and from there to the end
  refine (List.perm_middle.filter _).trans ?_
  rw [List.filter_cons_of_pos (p := (· != Token.leftParen)) noParen]
  exact (stored.kept.cons token).trans (List.perm_append_singleton token _).symm

/-- A value is written. -/
lemma emit (stored : symbols.Stored tokens output stack) (value : symbols.isValue token = true)
    (plain : Token.isPunctuation token = false) :
    symbols.Stored (tokens ++ [token]) (token :: output) stack where
  values := by simp [stored.values, value]
  waiting := stored.waiting
  kept := by
    rw [List.reverse_cons, List.append_assoc]
    exact stored.kept_concat plain
  marks := by
    have noParen := ne_leftParen_of_isPunctuation plain
    rw [List.count_cons_of_ne noParen, calls_concat_of_ne noParen, stored.marks]

/-- A token that is no value waits. -/
lemma push (stored : symbols.Stored tokens output stack) (noValue : symbols.isValue token = false)
    (plain : Token.isPunctuation token = false) :
    symbols.Stored (tokens ++ [token]) output (token :: stack) where
  values := by simp [stored.values, noValue]
  waiting := List.forall_mem_cons.2 ⟨noValue, stored.waiting⟩
  kept := stored.kept_concat plain
  marks := by rw [calls_concat_of_ne (ne_leftParen_of_isPunctuation plain), stored.marks]

/-- Punctuation need not be there. -/
lemma pass (stored : symbols.Stored tokens output stack)
    (punctuation : Token.isPunctuation token = true) (noParen : token ≠ Token.leftParen) :
    symbols.Stored (tokens ++ [token]) output stack where
  values := by simp [stored.values, isValue_of_isPunctuation punctuation]
  waiting := stored.waiting
  kept := by simpa [punctuation] using stored.kept
  marks := by rw [calls_concat_of_ne noParen, stored.marks]

/-- A left parenthesis waits, and that of a call is written, too. -/
lemma opened (stored : symbols.Stored tokens output stack) :
    symbols.Stored (tokens ++ [Token.leftParen])
      (if tokens.getLast?.map symbols.classify = some .function then Token.leftParen :: output
        else output) (Token.leftParen :: stack) where
  values := by
    have noValue : symbols.isValue Token.leftParen = false := isValue_of_isPunctuation rfl
    split_ifs <;> simp [stored.values, noValue]
  waiting := List.forall_mem_cons.2 ⟨isValue_of_isPunctuation rfl, stored.waiting⟩
  kept := by
    have punctuation : Token.isPunctuation Token.leftParen = true := rfl
    split_ifs <;> simpa [punctuation] using stored.kept
  marks := by
    rw [calls_concat]
    split_ifs with function <;> simp_all [stored.marks]

/-- Tokens that wait are written. -/
lemma settle (moved : List String) (stored : symbols.Stored tokens output (moved ++ stack))
    (noParen : Token.leftParen ∉ moved) :
    symbols.Stored tokens (moved.reverse ++ output) stack where
  values := by
    have noValues : moved.filter symbols.isValue = [] :=
      List.filter_eq_nil_iff.2 fun token member => by
        simp [stored.waiting token (List.mem_append_left _ member)]
    rw [List.reverse_append, List.reverse_reverse, List.filter_append, noValues, List.append_nil,
      stored.values]
  waiting := (List.forall_mem_append.1 stored.waiting).2
  kept := by
    rw [List.reverse_append, List.reverse_reverse, List.append_assoc]
    exact stored.kept
  marks := by
    rw [List.count_append, List.count_reverse, List.count_eq_zero.2 noParen, Nat.zero_add,
      stored.marks]

/-- Tokens that wait above a left parenthesis are written to the output. -/
lemma emitWhile {yard : Yard} (stored : symbols.Stored tokens yard.output yard.stack)
    {condition : String → Bool} (stops : condition Token.leftParen = false) :
    symbols.Stored tokens (yard.emitWhile condition).output (yard.emitWhile condition).stack := by
  rw [← List.takeWhile_append_dropWhile (p := condition) (l := yard.stack)] at stored
  exact stored.settle _ (Yard.leftParen_notMem_takeWhile stops yard.stack)

/-- A left parenthesis is taken off. -/
lemma drop (stored : symbols.Stored tokens output (Token.leftParen :: stack)) :
    symbols.Stored tokens output stack where
  values := stored.values
  waiting := (List.forall_mem_cons.1 stored.waiting).2
  kept := by simpa using stored.kept
  marks := stored.marks

end Stored

end Symbols

/-! ## What the yard has taken in -/

namespace Yard

variable {yard after : Yard}

/-- What the yard knows of the tokens that it has taken in. -/
structure Accounts (symbols : Symbols) (tokens : List String) (yard : Yard) : Prop where
  /-- No token is lost between the output and the stack. -/
  stored : symbols.Stored tokens yard.output yard.stack
  /-- The last token decides whether a left parenthesis is that of a call. -/
  previous : yard.previous = tokens.getLast?.map symbols.classify
  /-- The left parentheses that wait are those that are open. -/
  depth : yard.openParens + tokens.count Token.rightParen = tokens.count Token.leftParen
  /-- No parenthesis is closed that has not been opened. -/
  nested : Token.Nested tokens

/-- The empty yard knows of no tokens. -/
lemma accounts_empty : empty.Accounts symbols [] :=
  ⟨.nil, rfl, rfl, Token.nested_nil⟩

namespace Accounts

variable (noOperator : symbols.operators.contains Token.leftParen = false)
  (noFunction : symbols.functions.contains Token.leftParen = false) {lexeme : Lexeme}

include noOperator noFunction

/-- The token is written or waits, unless it is punctuation, and all the others are still there. -/
lemma stored_accept (accounts : yard.Accounts symbols tokens)
    (known : symbols.classify lexeme.token ≠ .unknown)
    (accepted : yard.accept symbols lexeme = .ok after) :
    symbols.Stored (tokens ++ [lexeme.token]) after.output after.stack := by
  obtain ⟨moved, output, stack, moves⟩ := accept_eq_ok accepted
  rw [output, stack]
  have punctuation := symbols.isPunctuation_classify lexeme.token
  have value : symbols.isValue lexeme.token = (symbols.classify lexeme.token).isValue := rfl
  cases kind : symbols.classify lexeme.token <;> rw [kind] at punctuation value <;>
    simp only [kind] at moves
  case numeral | text | boundName =>
    subst moves
    exact accounts.stored.emit value punctuation.symm
  case function | freeName =>
    subst moves
    exact accounts.stored.push value punctuation.symm
  case operator =>
    obtain ⟨operator, found⟩ := Symbols.find?_of_classify_eq_operator kind
    subst moves
    rw [pushOperator, found]
    exact (accounts.stored.emitWhile (yieldsTo_leftParen noOperator operator)).push value
      punctuation.symm
  case comma =>
    rw [Symbols.classify_eq_comma_iff.1 kind]
    obtain ⟨rfl, -⟩ := closeArgument_eq_ok moves
    exact (accounts.stored.emitWhile (by simp)).pass rfl (by decide)
  case leftParen =>
    rw [Symbols.classify_eq_leftParen_iff.1 kind]
    obtain ⟨waits, written⟩ := openGroup_eq_ok moves
    rw [waits, written, accounts.previous]
    exact accounts.stored.opened
  case rightParen =>
    rw [Symbols.classify_eq_rightParen_iff.1 kind]
    obtain ⟨below, waits, applied⟩ := closeGroup_eq_ok moves
    have settled : symbols.Stored tokens (yard.emitWhile (· != Token.leftParen)).output
        (yard.emitWhile (· != Token.leftParen)).stack := accounts.stored.emitWhile (by simp)
    rw [waits] at settled
    -- the name of a function below the parenthesis is written behind its arguments
    rcases applied with ⟨written, rfl⟩ | ⟨name, function, rfl, written⟩
    · rw [written]
      exact settled.drop.pass rfl (by decide)
    · have noParen : Token.leftParen ∉ [name] := by
        simpa [eq_comm] using ne_leftParen_of_function noFunction function
      rw [written]
      exact (settled.drop.settle [name] noParen).pass rfl (by decide)
  case unknown => exact absurd kind known

/-- As many left parentheses wait as are open. -/
lemma depth_accept (accounts : yard.Accounts symbols tokens)
    (accepted : yard.accept symbols lexeme = .ok after) :
    after.openParens + (tokens ++ [lexeme.token]).count Token.rightParen =
      (tokens ++ [lexeme.token]).count Token.leftParen := by
  have waiting := openParens_accept noOperator noFunction accepted
  have depth := accounts.depth
  have left := @Symbols.classify_eq_leftParen_iff symbols lexeme.token
  have right := @Symbols.classify_eq_rightParen_iff symbols lexeme.token
  rw [List.count_append, List.count_append, List.count_singleton, List.count_singleton]
  cases kind : symbols.classify lexeme.token <;> simp only [kind] at waiting left right <;> grind

/-- A comma is accepted only where a parenthesis is open. -/
lemma inside_accept (accounts : yard.Accounts symbols tokens)
    (accepted : yard.accept symbols lexeme = .ok after) (isComma : lexeme.token = Token.comma) :
    tokens.count Token.rightParen < tokens.count Token.leftParen := by
  have kind : symbols.classify lexeme.token = .comma := Symbols.classify_eq_comma_iff.2 isComma
  have waiting := openParens_accept noOperator noFunction accepted
  obtain ⟨moved, -, stack, moves⟩ := accept_eq_ok accepted
  rw [kind] at waiting moves
  obtain ⟨-, below, waits⟩ := closeArgument_eq_ok moves
  have depth := accounts.depth
  simp only [openParens, stack, waits, List.count_cons_self] at waiting depth
  omega

/-- **The yard keeps its account of the tokens.** -/
theorem accept (accounts : yard.Accounts symbols tokens)
    (known : symbols.classify lexeme.token ≠ .unknown)
    (accepted : yard.accept symbols lexeme = .ok after) :
    after.Accounts symbols (tokens ++ [lexeme.token]) where
  stored := accounts.stored_accept noOperator noFunction known accepted
  previous := by rw [previous_accept accepted, List.getLast?_concat, Option.map_some]
  depth := accounts.depth_accept noOperator noFunction accepted
  nested := by
    have depth := accounts.depth_accept noOperator noFunction accepted
    exact accounts.nested.concat (by omega) (accounts.inside_accept noOperator noFunction accepted)

/-- The account of a run. -/
theorem acceptAll (accounts : yard.Accounts symbols tokens) {lexemes : List Lexeme}
    (known : ∀ token ∈ lexemes.map Lexeme.token, symbols.classify token ≠ .unknown)
    (run : yard.acceptAll symbols lexemes = .ok after) :
    after.Accounts symbols (tokens ++ lexemes.map Lexeme.token) := by
  induction lexemes generalizing yard tokens with
  | nil =>
    obtain rfl := Except.ok.inj run
    simpa using accounts
  | cons lexeme rest ih =>
    obtain ⟨next, accepted, run⟩ := Fault.bind_eq_ok_iff.1 run
    obtain ⟨first, others⟩ := List.forall_mem_cons.1 known
    simpa using ih (accounts.accept noOperator noFunction first accepted) others run

end Accounts

end Yard

variable {source : String} {sequence : List String}

/-- **The parser neither loses nor invents nor duplicates tokens.** When a source is brought into
postfix order, it consists of tokens, its parentheses are balanced, and every comma stands inside
of some. The postfix sequence has a left parenthesis for each one that comes directly after the
name of a function. Its other entries are, in another order, the tokens of the source other than
parentheses and commas, and the values among them come in the order of the source.

**Proof sketch.** Each token keeps the account of the yard. At the end only operators wait, so no
parenthesis is open, and what waits is written behind the output. -/
theorem toPostfix_keeps_tokens (noOperator : symbols.operators.contains Token.leftParen = false)
    (noFunction : symbols.functions.contains Token.leftParen = false)
    (arranged : toPostfix symbols source = .ok sequence) :
    ∃ tokens, tokenize symbols.operators source = .ok tokens ∧ Token.Balanced tokens ∧
      sequence.count Token.leftParen = symbols.calls tokens ∧
      (sequence.filter (· != Token.leftParen)).Perm (tokens.filter (!Token.isPunctuation ·)) ∧
      sequence.filter symbols.isValue = tokens.filter symbols.isValue := by
  obtain ⟨lexemes, after, spelled, run, operators, rfl⟩ := toPostfix_eq_ok arranged
  have known : ∀ token ∈ lexemes.map Lexeme.token, symbols.classify token ≠ .unknown :=
    fun token member => (tokenize_eq_ok_iff.1 spelled).classify_ne_unknown member
  have accounts := Yard.accounts_empty.acceptAll noOperator noFunction known run
  rw [List.nil_append] at accounts
  have noneWaits : after.stack.count Token.leftParen = 0 :=
    List.count_eq_zero.2 fun waits => by simpa using operators _ waits
  have noValues : after.stack.filter symbols.isValue = [] :=
    List.filter_eq_nil_iff.2 fun token member => by simp [accounts.stored.waiting token member]
  refine ⟨_, spelled, ⟨accounts.nested, ?_⟩, ?_, accounts.stored.kept, ?_⟩
  · simpa [Yard.openParens, noneWaits] using accounts.depth
  · rw [List.count_append, noneWaits, List.count_reverse, accounts.stored.marks, Nat.add_zero]
  · rw [List.filter_append, noValues, List.append_nil, accounts.stored.values]

/-- A source that is no infix sequence, with an argument missing. -/
theorem toPostfix_keeps_tokens_misplaced :
    let tokens := ["1", "2", "+", "max", "(", ",", "(", "true", ")", ")"]
    let sequence := ["1", "2", "(", "true", "max", "+"]
    tokenize Symbols.standard.operators "1 2 + max(,(true))" = .ok tokens ∧
      toPostfix .standard "1 2 + max(,(true))" = .ok sequence ∧ Token.Balanced tokens ∧
      sequence.count Token.leftParen = Symbols.standard.calls tokens ∧
      (sequence.filter (· != Token.leftParen)).Perm (tokens.filter (!Token.isPunctuation ·)) ∧
      sequence.filter Symbols.standard.isValue = tokens.filter Symbols.standard.isValue := by
  intro tokens sequence
  have spelled : tokenize Symbols.standard.operators "1 2 + max(,(true))" = .ok tokens := by rfl
  have arranged : toPostfix .standard "1 2 + max(,(true))" = .ok sequence := by rfl
  obtain ⟨others, spelledToo, kept⟩ := toPostfix_keeps_tokens
    Symbols.namesApart_standard.operator Symbols.namesApart_standard.function arranged
  obtain rfl : tokens = others := Except.ok.inj (spelled.symm.trans spelledToo)
  exact ⟨spelled, arranged, kept⟩

end Formula
