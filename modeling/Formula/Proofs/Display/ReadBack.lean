import Formula.Proofs.Caching
import Formula.Proofs.Display.Printable
import Formula.Proofs.Infix.Acceptance
import Formula.Proofs.Token.Splitting

set_option autoImplicit false

/-!
# Results are read back

The written form of a result is a source of a single token, and its value is the result again. The
texts of a postfix sequence are tokens of the source, and so they are printable, and the value of
the sequence is. A number has been brought into its normal form. Its notation denotes the same
number, which fits the context and is not changed by rounding, so its normal form is the same.

## Main definitions

* `Formula.Expression.withNumbers` — an expression with names bound to numbers.

## Main results

* `Formula.mem_of_compile` — the tokens of a postfix sequence are tokens of the source.
* `Formula.Value.printable_of_tokenize` — the texts of a source are printable.
* `Formula.Value.tokenize_display` — the written form of a printable value is a single token.
* `Formula.Expression.printable_of_evaluate` — the value of an expression is printable.
* `Formula.Expression.evaluate_display` — the written form of a value has this value again.
-/

namespace Formula

/-! ## Tokens of a postfix sequence -/

namespace Yard

variable {symbols : Symbols} {yard after : Yard}

/-- **The yard holds nothing but what it has taken in.** -/
lemma of_holds_accept {lexeme : Lexeme} (accepted : yard.accept symbols lexeme = .ok after)
    {token : String} (holds : after.Holds token) : yard.Holds token ∨ token = lexeme.token := by
  obtain ⟨moved, output, stack, moves⟩ := accept_eq_ok accepted
  rw [Holds, output, stack] at holds
  cases kind : symbols.classify lexeme.token <;> simp only [kind] at moves
  case numeral | text | boundName | unknown | freeName | function =>
    subst moves
    grind [Holds, emit, push]
  case operator =>
    subst moves
    unfold pushOperator at holds
    split at holds
    case h_1 => exact .inl holds
    case h_2 operator _ =>
      have before := @holds_emitWhile yard (yieldsTo symbols.operators operator) token
      grind [Holds, push]
  case comma =>
    obtain ⟨rfl, -⟩ := closeArgument_eq_ok moves
    exact .inl ((holds_emitWhile ..).1 holds)
  case leftParen =>
    obtain ⟨waits, written⟩ := openGroup_eq_ok moves
    have isParen := Symbols.classify_eq_leftParen_iff.1 kind
    grind [Holds]
  case rightParen =>
    obtain ⟨below, waits, applied⟩ := closeGroup_eq_ok moves
    have before := @holds_emitWhile yard (· != Token.leftParen) token
    grind [Holds]

/-- A yard holds only tokens that it has taken in. -/
lemma of_holds_acceptAll {lexemes : List Lexeme} (run : yard.acceptAll symbols lexemes = .ok after)
    {token : String} (holds : after.Holds token) :
    yard.Holds token ∨ token ∈ lexemes.map Lexeme.token := by
  induction lexemes generalizing yard with
  | nil =>
    obtain rfl := Except.ok.inj run
    exact .inl holds
  | cons lexeme rest ih =>
    obtain ⟨next, accepted, run⟩ := Fault.bind_eq_ok_iff.1 run
    rw [List.map_cons, List.mem_cons]
    rcases ih run with held | later
    · rcases of_holds_accept accepted held with before | isToken
      · exact .inl before
      · exact .inr (.inl isToken)
    · exact .inr (.inr later)

end Yard

variable {symbols : Symbols} {operators : OperatorTable} {context : NumericContext}
  {source : String} {tokens sequence : List String}

/-- **The tokens of a postfix sequence are tokens of the source.** -/
theorem mem_of_compile (spelled : tokenize symbols.operators source = .ok tokens)
    (compiled : compile symbols source = .ok sequence) {token : String}
    (member : token ∈ sequence) : token ∈ tokens := by
  obtain ⟨lexemes, after, rfl, run, -, rfl, -⟩ := compile_eq_ok spelled compiled
  have holds : after.Holds token := by
    rcases List.mem_append.1 member with written | waits
    · exact .inl (List.mem_reverse.1 written)
    · exact .inr waits
  rcases Yard.of_holds_acceptAll run holds with nothing | isToken
  · simp [Yard.Holds, Yard.empty] at nothing
  · exact isToken

/-! ## Texts of a source -/

/-- A token that is classified as a text looks like one. -/
lemma Symbols.isText_of_classify {token : String} (kind : symbols.classify token = .text) :
    Token.isText token = true := by
  unfold classify at kind
  split_ifs at kind
  assumption

/-- A token that begins with a delimiter is a content between delimiters. -/
lemma Cursor.Leads.exists_escaped {previous : Option String} {token rest : List Char}
    (leads : Cursor.Leads operators previous token rest)
    (isText : token.head? = some Delimited.delimiter) :
    ∃ content, Delimited.Escaped content ∧ token = Delimited.enclose content := by
  cases leads with
  | text escaped ends => exact ⟨_, escaped, rfl⟩
  | numeral shape ends =>
    have digit := shape.1
    rw [isText] at digit
    exact absurd digit (by decide)
  | negative opens shape ends => exact absurd (Option.some.inj isText) (by decide)
  | identifier shape ends =>
    have start := shape.1
    rw [isText] at start
    exact absurd start (by decide)
  | separator shape =>
    obtain rfl := Option.some.inj isText
    exact absurd shape (by decide)
  | operator shape registered ends unsigned =>
    have start := shape.1
    rw [isText] at start
    exact absurd start (by decide)

/-- A text token of a source has a closing delimiter, and the delimiters in it are escaped. -/
lemma Splits.exists_escaped {previous : Option String} {text : List Char}
    (splits : Splits operators previous text tokens) {token : String} (member : token ∈ tokens)
    (isText : token.toList.head? = some Delimited.delimiter) :
    ∃ content, Delimited.Escaped content ∧ token.toList = Delimited.enclose content := by
  induction splits with
  | done blank => cases member
  | token blank leads more ih =>
    rcases List.mem_cons.1 member with rfl | later
    · rw [String.toList_ofList] at isText ⊢
      exact leads.exists_escaped isText
    · exact ih later

namespace Value

/-- **The texts of a source are printable.** -/
theorem printable_of_tokenize (spelled : tokenize symbols.operators source = .ok tokens)
    {token : String} (member : token ∈ tokens) (kind : symbols.classify token = .text) :
    (Value.text token).Printable context := by
  refine (tokenize_eq_ok_iff.1 spelled).exists_escaped member ?_
  have isText := Symbols.isText_of_classify kind
  unfold Token.isText at isText
  split at isText
  case h_1 first second more split =>
    rw [split, List.head?_cons, beq_iff_eq.1 isText]
  case h_2 => cases isText

/-! ## Reading the written form -/

/-- **The written form of a printable value is a single token.** -/
theorem tokenize_display {value : Value} (printable : value.Printable context) :
    tokenize operators value.display = .ok [value.display] := by
  have leads : Cursor.Leads operators none value.display.toList [] := by
    cases value with
    | decimal number =>
      have digits := Decimal.isDigits_plainMagnitude number.unscaled.natAbs number.scale
      rw [display, Decimal.plain, String.toList_ofList, Decimal.plainChars_eq, Decimal.withSign]
      split
      case isTrue => exact .negative rfl digits (by simp)
      case isFalse => exact .numeral digits (by simp)
    | text written =>
      obtain ⟨content, escaped, isWritten⟩ := printable
      rw [display, isWritten]
      exact .text escaped (by simp)
  have single : Splits operators none ([] ++ (value.display.toList ++ [])) [value.display] :=
    .token_of_string (by simp) leads (.done (by simp))
  rw [tokenize_eq_ok_iff]
  simpa using single

/-- The notation of a number is a numeral. -/
lemma isNumeral_plain (number : Decimal) : Token.isNumeral number.plain = true := by
  have digits := Decimal.isDigits_plainMagnitude number.unscaled.natAbs number.scale
  rw [Decimal.plain, Decimal.plainChars_eq, Decimal.withSign]
  split
  case isTrue => exact digits.isNumeral.2
  case isFalse => exact digits.isNumeral.1

/-- What the written form stands for: the same text, or the same number with the zeros written out
that a scale below zero stands for. -/
lemma operand_display {value : Value} (printable : value.Printable context)
    (places : ∀ number, value = .decimal number →
      Numeral.scaleFits (max number.scale 0) = true) :
    (symbols.classify value.display).isValue = true ∧ symbols.Readable value.display ∧
      (symbols.operand context value.display).map Value.normalized = .ok value.normalized := by
  cases value with
  | decimal number =>
    have kind := symbols.classify_of_isNumeral (isNumeral_plain number)
    have read := Decimal.ofNumeral?_plain (places number rfl)
    rw [display, Symbols.operand, Symbols.Readable, kind, read]
    refine ⟨rfl, fun _ => rfl, congrArg Except.ok (congrArg Value.decimal ?_)⟩
    rw [NumericContext.normalized_round (NumericContext.Fits.extend printable _),
      Decimal.normalized_extend]
  | text written =>
    obtain ⟨content, escaped, isWritten⟩ := printable
    obtain rfl : written = String.ofList (Delimited.enclose content) := by
      rw [← isWritten, String.ofList_toList]
    have kind := symbols.classify_enclose content
    rw [display, Symbols.operand, Symbols.Readable, kind]
    exact ⟨rfl, by simp, rfl⟩

end Value

/-! ## Sources of a single token -/

/-- A source of a single value compiles to this value. -/
lemma compile_of_isValue {token : String}
    (spelled : tokenize symbols.operators source = .ok [token])
    (kind : (symbols.classify token).isValue = true) (readable : symbols.Readable token) :
    compile symbols source = .ok [token] := by
  obtain ⟨noFault, lexemes⟩ := tokenize_eq_ok spelled
  obtain ⟨lexeme, others, isSingle, rfl, nothing⟩ := List.map_eq_cons_iff.1 lexemes
  obtain rfl := List.map_eq_nil_iff.1 nothing
  have accepted : checkPostfix symbols [lexeme.token] = .ok () :=
    checkPostfix_eq_ok_iff_exists_term.2
      ⟨⟨.value lexeme.token, by simpa using kind, by simp⟩, by simpa using readable⟩
  have arranged : toPostfix symbols source = .ok [lexeme.token] := by
    rw [toPostfix, isSingle, noFault, Yard.acceptAll, Yard.accept_value kind]
    rfl
  rw [compile, arranged, Fault.ok_bind, accepted]
  rfl

/-- The value of a sequence of a single value is the operand without insignificant zeros. -/
lemma evaluatePostfix_of_isValue {token : String}
    (kind : (symbols.classify token).isValue = true) :
    evaluatePostfix symbols context [token] =
      (symbols.operand context token).map Value.normalized := by
  have built := @Evaluation.build_postorder symbols context (.value token) (by simpa using kind)
  rw [Term.postorder_value, Term.calls_value, firstMiscount?_nil, Option.elim_none] at built
  have forced : ((Term.value token).deferred symbols context).force =
      symbols.operand context token := by
    rw [← Term.outcome]
    rfl
  rw [evaluatePostfix, built, Fault.ok_bind, forced]
  cases symbols.operand context token <;> rfl

namespace Expression

/-- **A printable result is read back.** -/
theorem evaluate_display_of_printable {value : Value} (printable : value.Printable context)
    (normal : value.normalized = value)
    (places : ∀ number, value = .decimal number →
      Numeral.scaleFits (max number.scale 0) = true) :
    (Expression.mk value.display context symbols none).evaluate.1 = .ok value := by
  obtain ⟨kind, readable, operand⟩ := @Value.operand_display symbols _ _ printable places
  have coherent : (Expression.mk value.display context symbols none).Coherent :=
    coherent_of_compiled_eq_none rfl
  rw [coherent.evaluate_fst, compile_of_isValue (Value.tokenize_display printable) kind readable,
    Fault.ok_bind, evaluatePostfix_of_isValue kind, operand, normal]

/-- **The value of an expression is printable** and has no insignificant zeros, if the tables keep
values printable.

**Proof sketch.** The value is that of the term of the postfix sequence. The texts of the term are
tokens of the source. -/
theorem printable_of_evaluate {expression : Expression} (coherent : expression.Coherent)
    (keep : expression.symbols.KeepPrintable expression.context) {value : Value}
    (evaluated : expression.evaluate.1 = .ok value) :
    value.Printable expression.context ∧ value.normalized = value := by
  rw [coherent.evaluate_fst] at evaluated
  obtain ⟨sequence, compiled, evaluated⟩ := Fault.bind_eq_ok_iff.1 evaluated
  obtain ⟨_, arranged, -⟩ := Fault.bind_eq_ok_iff.1 compiled
  obtain ⟨tokens, spelled⟩ := exists_tokens_of_toPostfix arranged
  obtain ⟨-, -, -, -, -, -, accepted⟩ := compile_eq_ok spelled compiled
  obtain ⟨term, unique, -, miscounted, counted⟩ :=
    evaluatePostfix_eq_outcome expression.context accepted
  obtain ⟨-, rfl⟩ := (unique term).2 rfl
  cases miscount : firstMiscount? expression.symbols.arity? term.calls with
  | some fault =>
    rw [(miscounted fault miscount).1] at evaluated
    cases evaluated
  | none =>
    rw [counted miscount] at evaluated
    obtain ⟨exact, computed, rfl⟩ := Fault.map_eq_ok_iff.1 evaluated
    have texts : ∀ token ∈ term.postorder, expression.symbols.classify token = .text →
        (Value.text token).Printable expression.context := fun token member =>
      Value.printable_of_tokenize spelled (mem_of_compile spelled compiled member)
    exact ⟨(term.printable_of_outcome keep texts computed).normalized,
      Value.normalized_normalized exact⟩

/-- The expression with names bound to numbers, one after the other. -/
def withNumbers (expression : Expression) (bindings : List (String × Decimal)) : Expression :=
  bindings.foldl (fun expression binding =>
    expression.setVariable binding.1 (.decimal binding.2)) expression

/-- Binding a name to a number changes the numbers of the tables only. -/
lemma setVariable_decimal (expression : Expression) (name : String) (number : Decimal) :
    (expression.setVariable name (.decimal number)).context = expression.context ∧
      (expression.setVariable name (.decimal number)).symbols =
        { expression.symbols with
          bindings := expression.symbols.bindings.setNumber name number } := by
  unfold setVariable setVariableWith bind
  dsimp only
  split <;> exact ⟨rfl, rfl⟩

/-- Tables keep values printable when names are bound to numbers that fit. -/
lemma keepPrintable_withNumbers {expression : Expression} {bindings : List (String × Decimal)}
    (coherent : expression.Coherent) (keep : expression.symbols.KeepPrintable context)
    (fits : ∀ binding ∈ bindings, context.Fits binding.2) :
    (expression.withNumbers bindings).Coherent ∧
      (expression.withNumbers bindings).symbols.KeepPrintable context ∧
      (expression.withNumbers bindings).context = expression.context := by
  induction bindings generalizing expression with
  | nil => exact ⟨coherent, keep, rfl⟩
  | cons binding rest ih =>
    obtain ⟨first, others⟩ := List.forall_mem_cons.1 fits
    obtain ⟨sameContext, symbols⟩ := expression.setVariable_decimal binding.1 binding.2
    have keepNext : (expression.setVariable binding.1 (.decimal binding.2)).symbols.KeepPrintable
        context := by
      rw [symbols]
      exact keep.setNumber first binding.1
    obtain ⟨coherentRest, keepRest, contextRest⟩ :=
      ih (coherent.setVariableWith binding.1 (.decimal binding.2)) keepNext others
    exact ⟨coherentRest, keepRest, contextRest.trans sameContext⟩

/-- **Results are read back.** When a source has a value, with the standard operators and functions
and with names bound to numbers that fit the context, then the written form of the value is a source
that has this value again in the same context. A numeral is read with a scale of 64 bits, and so the
places of the value are to be as few; they are for every decimal that can be stored
(`Decimal.ScaleFits.places`).

**Proof sketch.** The value is printable, since every operator and function keeps values printable.
Its written form is a single token, a numeral or a text. -/
theorem evaluate_display {bindings : List (String × Decimal)}
    (fits : ∀ binding ∈ bindings, context.Fits binding.2) {value : Value}
    (evaluated : ((withContext source context).withNumbers bindings).evaluate.1 = .ok value)
    (places : ∀ number, value = .decimal number →
      Numeral.scaleFits (max number.scale 0) = true) (symbols : Symbols) :
    (Expression.mk value.display context symbols none).evaluate.1 = .ok value := by
  have fresh : (withContext source context).Coherent := coherent_of_compiled_eq_none rfl
  obtain ⟨coherent, keep, sameContext⟩ :=
    keepPrintable_withNumbers fresh (Symbols.keepPrintable_standard context) fits
  change _ = context at sameContext
  generalize (withContext source context).withNumbers bindings = expression at *
  subst sameContext
  obtain ⟨printable, normal⟩ := printable_of_evaluate coherent keep evaluated
  exact evaluate_display_of_printable printable normal places

/-- A number of which only the first digit is significant, and a text with escaped delimiters that
is repeated and joined with a number. -/
theorem evaluate_display_number_and_text :
    let expression (source : String) :=
      (withContext source .decimal32).withNumbers [("x", ⟨150, 2⟩)]
    (expression "x*-2000000-1/3").evaluate.1 = .ok (.decimal ⟨-3, -6⟩) ∧
      (Expression.mk "-3000000" .decimal32 .standard none).evaluate.1 = .ok (.decimal ⟨-3, -6⟩) ∧
      (expression "'it\\'s '*2+x").evaluate.1 = .ok (.text "'it\\'s it\\'s 1.50'") ∧
      (Expression.mk "'it\\'s it\\'s 1.50'" .decimal32 .standard none).evaluate.1 =
        .ok (.text "'it\\'s it\\'s 1.50'") := by
  intro expression
  have fits : ∀ binding ∈ [("x", (⟨150, 2⟩ : Decimal))],
      NumericContext.decimal32.Fits binding.2 := by decide +kernel
  have number : (expression "x*-2000000-1/3").evaluate.1 = .ok (.decimal ⟨-3, -6⟩) := by
    decide +kernel
  have text : (expression "'it\\'s '*2+x").evaluate.1 = .ok (.text "'it\\'s it\\'s 1.50'") := by
    decide +kernel
  have places : ∀ d, Value.decimal ⟨-3, -6⟩ = .decimal d →
      Numeral.scaleFits (max d.scale 0) = true := by
    rintro d ⟨⟩
    exact Decimal.ScaleFits.places (by decide)
  have written : (Value.decimal ⟨-3, -6⟩).display = "-3000000" := by decide +kernel
  refine ⟨number, ?_, text, evaluate_display fits text (by simp) .standard⟩
  rw [← written]
  exact evaluate_display fits number places .standard

end Expression

end Formula
