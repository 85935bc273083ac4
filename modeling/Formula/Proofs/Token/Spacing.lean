import Formula.Proofs.Token.Splitting

set_option autoImplicit false

/-!
# Blanks between the tokens of an expression

The tokens of an infix expression can be written with any blanks between them, and without blanks as
well, provided that every operator symbol is plain: it consists of operator characters, has a minus
sign at most in front and does not begin with a point. The proof goes along the grammar. An operand
is read wherever an operand may begin, up to a character that ends it, and what follows is read
after it.

## Main definitions

* `Formula.OperatorTable.IsPlain` — all symbols are plain.
* `Formula.Token.IsOperand` — the shapes of operands.
* `Formula.WrittenInfix` — the infix expressions over a table, as lists of tokens.
* `Formula.Spaced` — a text consists of tokens with blanks around them.

## Main results

* `Formula.tokenize_spaced` — the tokens of a spaced expression are those that were written.
-/

namespace Formula

/-- Every symbol consists of operator characters, has a minus sign at most in front and does not
begin with a point. -/
def OperatorTable.IsPlain (operators : OperatorTable) : Prop :=
  ∀ symbol, operators.contains symbol = true →
    (∀ c ∈ symbol.toList, Cursor.isOperatorChar c = true) ∧ '-' ∉ symbol.toList.tail ∧
      symbol.toList.head? ≠ some '.'

/-- The shapes of operands: numerals with or without a minus sign, identifiers and texts. -/
inductive Token.IsOperand : List Char → Prop
  | numeral {digits : List Char} (shape : IsDigits digits) : IsOperand digits
  | negative {digits : List Char} (shape : IsDigits digits) : IsOperand ('-' :: digits)
  | identifier {name : List Char} (shape : IsName name) : IsOperand name
  | text {content : List Char} (escaped : Delimited.Escaped content) :
    IsOperand (Delimited.enclose content)

/-- The infix expressions over a table of operators, as they are written: an operand, two
expressions with an operator between them, an expression in parentheses, or an identifier with
parentheses after it, which enclose nothing or expressions with commas between them. -/
inductive WrittenInfix (operators : OperatorTable) : List String → Prop
  | operand {token : String} (shape : Token.IsOperand token.toList) : WrittenInfix operators [token]
  | operation {symbol : String} {left right : List String}
    (registered : operators.contains symbol = true) (nonempty : symbol ≠ "")
    (first : WrittenInfix operators left) (second : WrittenInfix operators right) :
    WrittenInfix operators (left ++ symbol :: right)
  | group {inner : List String} (enclosed : WrittenInfix operators inner) :
    WrittenInfix operators (Token.leftParen :: (inner ++ [Token.rightParen]))
  | emptyCall {name : String} (shape : Token.IsName name.toList) :
    WrittenInfix operators [name, Token.leftParen, Token.rightParen]
  | call {name : String} {first : List String} {further : List (List String)}
    (shape : Token.IsName name.toList) (argument : WrittenInfix operators first)
    (all : ∀ argument ∈ further, WrittenInfix operators argument) :
    WrittenInfix operators (name :: Token.leftParen ::
      (first ++ further.flatMap (Token.comma :: ·) ++ [Token.rightParen]))

/-- A text consists of the given tokens, with blanks before, between and after them. -/
inductive Spaced : List String → List Char → Prop
  | nil {blanks : List Char} (blank : ∀ c ∈ blanks, Unicode.isBlank c = true) : Spaced [] blanks
  | cons {token : String} {tokens : List String} {blanks rest : List Char}
    (blank : ∀ c ∈ blanks, Unicode.isBlank c = true) (spaced : Spaced tokens rest) :
    Spaced (token :: tokens) (blanks ++ (token.toList ++ rest))

namespace Spaced

variable {tokens first second : List String} {token : String} {text : List Char}

/-- A spaced text begins with blanks and its first token. -/
lemma cons_iff : Spaced (token :: tokens) text ↔ ∃ blanks rest,
    (∀ c ∈ blanks, Unicode.isBlank c = true) ∧ text = blanks ++ (token.toList ++ rest) ∧
      Spaced tokens rest := by
  constructor
  · rintro (_ | ⟨blank, spaced⟩)
    exact ⟨_, _, blank, rfl, spaced⟩
  · rintro ⟨blanks, rest, blank, rfl, spaced⟩
    exact .cons blank spaced

/-- Without tokens only blanks are left. -/
lemma nil_iff : Spaced [] text ↔ ∀ c ∈ text, Unicode.isBlank c = true := by
  constructor
  · rintro ⟨blank⟩
    exact blank
  · exact .nil

/-- The text of two lists of tokens is the text of the one and the text of the other. -/
lemma of_append (spaced : Spaced (first ++ second) text) :
    ∃ front back, text = front ++ back ∧ Spaced first front ∧ Spaced second back := by
  induction first generalizing text with
  | nil => exact ⟨[], text, rfl, .nil (by simp), spaced⟩
  | cons token first ih =>
    obtain ⟨blanks, rest, blank, rfl, spacedRest⟩ := cons_iff.1 spaced
    obtain ⟨front, back, rfl, spacedFirst, spacedSecond⟩ := ih spacedRest
    exact ⟨blanks ++ (token.toList ++ front), back, by simp, .cons blank spacedFirst, spacedSecond⟩

end Spaced

/-- A text that goes on after blanks begins with one of them or as it goes on. -/
lemma mem_head?_blanks_append {blanks text : List Char} {c : Char}
    (blank : ∀ c ∈ blanks, Unicode.isBlank c = true) (atFront : c ∈ (blanks ++ text).head?) :
    Unicode.isBlank c = true ∨ c ∈ text.head? := by
  cases blanks with
  | nil => exact .inr atFront
  | cons d blanks =>
    obtain rfl := Option.some.inj atFront
    exact .inl (blank d List.mem_cons_self)

/-! ## Characters at the end of an operand -/

namespace Token

variable {c : Char}

/-- A character that ends an operand: a break, or the first character of a plain symbol. -/
def endsOperand (c : Char) : Bool :=
  isBreak c || Cursor.isOperatorChar c && c != '.'

/-- What ends an operand does not go on with it. -/
lemma not_mem_of_endsOperand (ends : endsOperand c = true) :
    c ≠ Delimited.delimiter ∧ isNumeralChar c = false ∧ isIdentifierChar c = false := by
  rw [endsOperand, Bool.or_eq_true, Bool.and_eq_true, bne_iff_ne] at ends
  rcases ends with isBreak | ⟨operator, noPoint⟩
  · obtain ⟨noDelimiter, noNumeral, noName, -⟩ := not_mem_of_isBreak isBreak
    exact ⟨noDelimiter, noNumeral, noName⟩
  · obtain ⟨noName, -, -, noDelimiter⟩ := isOperatorChar_iff.1 operator
    exact ⟨noDelimiter, isNumeralChar_eq_false noName noPoint, noName⟩

end Token

/-- No other token begins with an operator character. -/
lemma Token.isSymbolStart_of_isOperatorChar {c : Char} (operator : Cursor.isOperatorChar c = true) :
    Token.isSymbolStart c = true := by
  obtain ⟨noName, noBlank, noSeparator, noDelimiter⟩ := Token.isOperatorChar_iff.1 operator
  obtain ⟨noDigit, noStart⟩ := Token.of_isIdentifierChar_eq_false noName
  exact Token.isSymbolStart_iff.2 ⟨noDelimiter, noDigit, noStart, noSeparator, noBlank⟩

/-- An operand has a character that belongs neither to an operator nor to a separator. -/
lemma Token.IsOperand.exists_other {token : List Char} (shape : Token.IsOperand token) :
    ∃ c ∈ token, Cursor.isOperatorChar c = false ∧ Token.isSeparator c = false := by
  have name : ∀ c, Token.isIdentifierChar c = true → Cursor.isOperatorChar c = false ∧
      Token.isSeparator c = false := by
    intro c isName
    refine ⟨by simp [Cursor.isOperatorChar, isName], ?_⟩
    rw [Bool.eq_false_iff, Ne, Token.isSeparator_iff]
    rintro (rfl | rfl | rfl) <;> exact absurd isName (by decide)
  have digits : ∀ digits, Token.IsDigits digits → ∃ c ∈ digits,
      Cursor.isOperatorChar c = false ∧ Token.isSeparator c = false := by
    intro digits shape
    obtain ⟨digit, more, rfl, isDigit⟩ := shape.exists_cons
    exact ⟨digit, List.mem_cons_self, name digit (Token.isIdentifierChar_of_isDigit isDigit).1⟩
  cases shape with
  | numeral shape => exact digits token shape
  | negative shape =>
    obtain ⟨c, member, other⟩ := digits _ shape
    exact ⟨c, List.mem_cons_of_mem _ member, other⟩
  | identifier shape =>
    obtain ⟨c, more, rfl, -⟩ := shape.exists_cons
    exact ⟨c, List.mem_cons_self, name c (shape.2 c List.mem_cons_self)⟩
  | text escaped => exact ⟨Delimited.delimiter, List.mem_cons_self, by decide, by decide⟩

namespace OperatorTable.IsPlain

variable {operators : OperatorTable}

/-- A token with a character that is no operator character is no operator. -/
lemma contains_eq_false (plain : operators.IsPlain) {token : String} {c : Char}
    (member : c ∈ token.toList) (other : Cursor.isOperatorChar c = false) :
    operators.contains token = false := by
  rw [Bool.eq_false_iff]
  intro registered
  have operator := (plain token registered).1 c member
  rw [other] at operator
  cases operator

/-- **A minus sign after an operand is an operator.** -/
lemma opensOperand_of_isOperand (plain : operators.IsPlain) {token : String}
    (shape : Token.IsOperand token.toList) :
    Cursor.opensOperand operators (some token) = false := by
  obtain ⟨c, member, noOperator, noSeparator⟩ := shape.exists_other
  have different : ∀ separator, Token.isSeparator separator = true →
      token ≠ String.ofList [separator] := by
    rintro separator isSeparator rfl
    rw [String.toList_ofList, List.mem_singleton] at member
    rw [← member, noSeparator] at isSeparator
    cases isSeparator
  rw [Cursor.opensOperand, plain.contains_eq_false member noOperator, Bool.or_false,
    Bool.or_eq_false_iff, beq_eq_false_iff_ne, beq_eq_false_iff_ne]
  exact ⟨different '(' (by decide), different ',' (by decide)⟩

/-- Behind a right parenthesis no operand begins, as it is no operator. -/
lemma opensOperand_rightParen (plain : operators.IsPlain) :
    Cursor.opensOperand operators (some Token.rightParen) = false := by
  have noOperator : operators.contains Token.rightParen = false :=
    plain.contains_eq_false (List.mem_singleton_self ')' : ')' ∈ Token.rightParen.toList)
      (by decide)
  rw [Cursor.opensOperand, noOperator]
  decide

end OperatorTable.IsPlain

/-! ## Expressions are read -/

/-- The tokens of an operand are read where one may begin, up to what ends it, and with them what
can be read after an operand. -/
def ReadsOperand (operators : OperatorTable) (tokens : List String) : Prop :=
  ∀ ⦃previous : Option String⦄ ⦃text rest : List Char⦄ ⦃more : List String⦄,
    Cursor.opensOperand operators previous = true → Spaced tokens text →
      (∀ c ∈ rest.head?, Token.endsOperand c = true) →
        (∀ last, Cursor.opensOperand operators (some last) = false →
          Splits operators (some last) rest more) →
            Splits operators previous (text ++ rest) (tokens ++ more)

namespace WrittenInfix

variable {operators : OperatorTable} {tokens : List String}

/-- A blank ends every operand. -/
lemma endsOperand_of_blank {c : Char} (blank : Unicode.isBlank c = true) :
    Token.endsOperand c = true := by
  simp [Token.endsOperand, Token.isBreak, blank]

/-- A single operand is read where an operand may begin. -/
lemma readsOperand_operand (plain : operators.IsPlain) {token : String}
    (shape : Token.IsOperand token.toList) : ReadsOperand operators [token] := by
  intro previous text rest more opens spaced ends following
  obtain ⟨blanks, after, blank, rfl, spacedAfter⟩ := Spaced.cons_iff.1 spaced
  have blankAfter := Spaced.nil_iff.1 spacedAfter
  rw [List.append_assoc, List.append_assoc]
  have stops : ∀ c ∈ (after ++ rest).head?, c ≠ Delimited.delimiter ∧
      Token.isNumeralChar c = false ∧ Token.isIdentifierChar c = false := by
    intro c atFront
    rcases mem_head?_blanks_append blankAfter atFront with blank | atFront
    · exact Token.not_mem_of_endsOperand (endsOperand_of_blank blank)
    · exact Token.not_mem_of_endsOperand (ends c atFront)
  refine .token_of_string blank ?_ (.blanks_append blankAfter (following _ ?_))
  · generalize token.toList = characters at shape
    cases shape with
    | numeral shape => exact .numeral shape fun c atFront => (stops c atFront).2.1
    | negative shape => exact .negative opens shape fun c atFront => (stops c atFront).2.1
    | identifier shape => exact .identifier shape fun c atFront => (stops c atFront).2.2
    | text escaped => exact .text escaped fun c atFront => (stops c atFront).1
  · exact plain.opensOperand_of_isOperand shape

/-- An expression does not begin with a character that goes on with an operator. -/
lemma exists_head (written : WrittenInfix operators tokens) :
    ∃ token rest, tokens = token :: rest ∧
      ∃ c ∈ token.toList.head?, Cursor.isOperatorChar c = false ∨ c = '-' := by
  have name : ∀ name : List Char, Token.IsName name →
      ∃ c ∈ name.head?, Cursor.isOperatorChar c = false ∨ c = '-' := by
    intro name shape
    obtain ⟨c, more, rfl, -⟩ := shape.exists_cons
    exact ⟨c, rfl, .inl (by simp [Cursor.isOperatorChar, shape.2 c List.mem_cons_self])⟩
  induction written with
  | @operand token shape =>
    refine ⟨token, [], rfl, ?_⟩
    generalize token.toList = characters at shape
    cases shape with
    | numeral shape =>
      obtain ⟨digit, more, rfl, isDigit⟩ := shape.exists_cons
      exact ⟨digit, rfl, .inl
        (by simp [Cursor.isOperatorChar, Token.isIdentifierChar_of_isDigit isDigit])⟩
    | negative shape => exact ⟨'-', rfl, .inr rfl⟩
    | identifier shape => exact name characters shape
    | text escaped => exact ⟨Delimited.delimiter, rfl, .inl (by decide)⟩
  | operation _ _ _ _ ihl _ =>
    obtain ⟨token, rest, rfl, begins⟩ := ihl
    exact ⟨token, rest ++ _ :: _, rfl, begins⟩
  | group _ _ => exact ⟨_, _, rfl, '(', rfl, .inl (by decide)⟩
  | emptyCall shape => exact ⟨_, _, rfl, name _ shape⟩
  | call shape _ _ _ _ => exact ⟨_, _, rfl, name _ shape⟩

/-- An operator ends where an expression begins. -/
lemma ends_operator (written : WrittenInfix operators tokens) {text rest : List Char}
    (spaced : Spaced tokens text) {c : Char} (atFront : c ∈ (text ++ rest).head?) :
    Cursor.isOperatorChar c = false ∨ c = '-' := by
  obtain ⟨token, others, rfl, first, isFirst, begins⟩ := written.exists_head
  obtain ⟨blanks, after, blank, rfl, -⟩ := Spaced.cons_iff.1 spaced
  obtain ⟨characters, same⟩ : ∃ characters, token.toList = first :: characters :=
    List.head?_eq_some_iff.1 isFirst
  rw [same, List.append_assoc] at atFront
  rcases mem_head?_blanks_append blank atFront with isBlank | isHead
  · exact .inl (by simp [Cursor.isOperatorChar, isBlank])
  · obtain rfl := Option.some.inj isHead
    exact begins

/-- An operation is read if both operands are: its symbol is cut where the right operand begins. -/
lemma readsOperand_operation (plain : operators.IsPlain) {symbol : String}
    {left right : List String} (registered : operators.contains symbol = true)
    (nonempty : symbol ≠ "") (second : WrittenInfix operators right)
    (readsLeft : ReadsOperand operators left) (readsRight : ReadsOperand operators right) :
    ReadsOperand operators (left ++ symbol :: right) := by
  intro previous text rest more opens spaced ends following
  obtain ⟨front, back, rfl, spacedLeft, spacedBack⟩ := spaced.of_append
  obtain ⟨blanks, after, blank, rfl, spacedRight⟩ := Spaced.cons_iff.1 spacedBack
  obtain ⟨characters, noInnerMinus, noPoint⟩ := plain symbol registered
  obtain ⟨first, tail, isSymbol⟩ : ∃ first tail, symbol.toList = first :: tail := by
    refine List.exists_cons_of_ne_nil fun empty => nonempty ?_
    rw [← String.ofList_toList (s := symbol), empty]
  have operator : Cursor.isOperatorChar first = true :=
    characters first (by rw [isSymbol]; exact List.mem_cons_self)
  have leads : ∀ last, Cursor.opensOperand operators (some last) = false →
      Cursor.Leads operators (some last) symbol.toList (after ++ rest) := by
    intro last closes
    refine .operator ⟨?_, fun c member => ⟨?_, ?_⟩⟩ (by rwa [String.ofList_toList])
      (fun c => second.ends_operator spacedRight) fun _ _ => closes
    · rw [isSymbol]
      exact Token.isSymbolStart_of_isOperatorChar operator
    · exact characters c (List.mem_of_mem_tail member)
    · rintro rfl
      exact noInnerMinus member
  have opensRight : Cursor.opensOperand operators (some symbol) = true := by
    rw [Cursor.opensOperand, registered, Bool.or_true]
  have readRight := readsRight opensRight spacedRight ends following
  simp only [List.append_assoc]
  refine readsLeft opens spacedLeft (fun c atFront => ?_) fun last closes => ?_
  · rcases mem_head?_blanks_append blank atFront with isBlank | isHead
    · exact endsOperand_of_blank isBlank
    · rw [isSymbol] at isHead
      obtain rfl := Option.some.inj isHead
      have isNoPoint : first ≠ '.' := by
        rintro rfl
        exact noPoint (by rw [isSymbol]; rfl)
      simp [Token.endsOperand, operator, isNoPoint]
  · exact .token_of_string blank (leads last closes) readRight

/-- The tokens between parentheses are read after the left one, up to the right one. -/
def ReadsInside (operators : OperatorTable) (tokens : List String) : Prop :=
  ∀ ⦃text rest : List Char⦄ ⦃more : List String⦄, Spaced tokens text →
    (∀ c ∈ rest.head?, Token.endsOperand c = true) →
      (∀ previous, Splits operators previous rest more) →
        Splits operators (some Token.leftParen) (text ++ rest) (tokens ++ more)

/-- Parentheses are read wherever they stand, and an operand has ended after them. -/
lemma splits_parentheses (plain : operators.IsPlain) {inner : List String}
    (reads : ReadsInside operators inner) {previous : Option String} {text rest : List Char}
    {more : List String}
    (spaced : Spaced (Token.leftParen :: (inner ++ [Token.rightParen])) text)
    (following : ∀ last, Cursor.opensOperand operators (some last) = false →
      Splits operators (some last) rest more) :
    Splits operators previous (text ++ rest)
      (Token.leftParen :: (inner ++ [Token.rightParen]) ++ more) := by
  obtain ⟨blanks, _, blank, rfl, spacedInner⟩ := Spaced.cons_iff.1 spaced
  obtain ⟨front, _, rfl, spacedFront, spacedBack⟩ := spacedInner.of_append
  obtain ⟨blanks', after, blank', rfl, spacedAfter⟩ := Spaced.cons_iff.1 spacedBack
  have closed : ∀ previous, Splits operators previous (blanks' ++ ')' :: (after ++ rest))
      (Token.rightParen :: more) := fun previous =>
    .separator (by decide) blank'
      (.blanks_append (Spaced.nil_iff.1 spacedAfter) (following _ plain.opensOperand_rightParen))
  have ends : ∀ c ∈ (blanks' ++ ')' :: (after ++ rest)).head?, Token.endsOperand c = true := by
    intro c atFront
    rcases mem_head?_blanks_append blank' atFront with isBlank | isHead
    · exact endsOperand_of_blank isBlank
    · obtain rfl := Option.some.inj isHead
      decide
  have opened : Splits operators previous
      (blanks ++ '(' :: (front ++ (blanks' ++ ')' :: (after ++ rest))))
      (Token.leftParen :: (inner ++ Token.rightParen :: more)) :=
    .separator (by decide) blank (reads spacedFront ends closed)
  have left : Token.leftParen.toList = ['('] := rfl
  have right : Token.rightParen.toList = [')'] := rfl
  simpa [left, right] using opened

/-- A group is read if the expression in it is. -/
lemma readsOperand_group (plain : operators.IsPlain) {inner : List String}
    (reads : ReadsOperand operators inner) :
    ReadsOperand operators (Token.leftParen :: (inner ++ [Token.rightParen])) :=
  fun _ _ _ _ _ spaced _ following => splits_parentheses plain
    (fun _ _ _ spaced ends following => reads rfl spaced ends fun last _ => following (some last))
    spaced following

/-- A call is an identifier and parentheses after it. -/
lemma readsOperand_call (plain : operators.IsPlain) {name : String}
    (shape : Token.IsName name.toList) {inner : List String} (reads : ReadsInside operators inner) :
    ReadsOperand operators (name :: Token.leftParen :: (inner ++ [Token.rightParen])) := by
  intro previous text rest more _ spaced _ following
  obtain ⟨blanks, after, blank, rfl, spacedAfter⟩ := Spaced.cons_iff.1 spaced
  have read : Splits operators (some name) (after ++ rest)
      (Token.leftParen :: (inner ++ [Token.rightParen]) ++ more) :=
    splits_parentheses plain reads spacedAfter following
  rw [List.append_assoc, List.append_assoc]
  refine .token_of_string blank (.identifier shape fun c atFront => ?_) read
  obtain ⟨blanks', _, blank', rfl, -⟩ := Spaced.cons_iff.1 spacedAfter
  rw [List.append_assoc] at atFront
  rcases mem_head?_blanks_append blank' atFront with isBlank | isHead
  · exact Token.isIdentifierChar_of_isBlank isBlank
  · obtain rfl := Option.some.inj isHead
    decide

/-- The arguments after the first one are read after it. -/
lemma splits_further {further : List (List String)}
    (all : ∀ argument ∈ further, ReadsOperand operators argument) {text rest : List Char}
    {more : List String} (spaced : Spaced (further.flatMap (Token.comma :: ·)) text)
    (ends : ∀ c ∈ rest.head?, Token.endsOperand c = true)
    (following : ∀ previous, Splits operators previous rest more) (previous : Option String) :
    (∀ c ∈ (text ++ rest).head?, Token.endsOperand c = true) ∧
      Splits operators previous (text ++ rest) (further.flatMap (Token.comma :: ·) ++ more) := by
  induction further generalizing text previous with
  | nil =>
    have blank := Spaced.nil_iff.1 spaced
    refine ⟨fun c atFront => ?_, .blanks_append blank (following previous)⟩
    exact (mem_head?_blanks_append blank atFront).elim endsOperand_of_blank (ends c)
  | cons argument further ih =>
    obtain ⟨reads, others⟩ := List.forall_mem_cons.1 all
    obtain ⟨blanks, _, blank, rfl, spacedBoth⟩ := Spaced.cons_iff.1 spaced
    obtain ⟨front, back, rfl, spacedFront, spacedBack⟩ := spacedBoth.of_append
    have later := ih others spacedBack
    have read : Splits operators previous (blanks ++ ',' :: (front ++ (back ++ rest)))
        (Token.comma :: (argument ++ (further.flatMap (Token.comma :: ·) ++ more))) :=
      .separator (by decide) blank
        (reads rfl spacedFront (later none).1 fun last _ => (later (some last)).2)
    have comma : Token.comma.toList = [','] := rfl
    refine ⟨fun c atFront => ?_, by simpa [comma] using read⟩
    rw [List.append_assoc] at atFront
    rcases mem_head?_blanks_append blank atFront with isBlank | isHead
    · exact endsOperand_of_blank isBlank
    · obtain rfl := Option.some.inj isHead
      decide

/-- **An expression is read wherever an operand may begin.**

**Proof sketch.** Induction on the grammar. An operator ends the operand before it, and it is no
sign since an operand has ended. It ends itself where the operand after it begins, also at a minus
sign. Parentheses and commas are tokens of their own. -/
theorem readsOperand (plain : operators.IsPlain) (written : WrittenInfix operators tokens) :
    ReadsOperand operators tokens := by
  induction written with
  | operand shape => exact readsOperand_operand plain shape
  | operation registered nonempty _ second ihl ihr =>
    exact readsOperand_operation plain registered nonempty second ihl ihr
  | group _ ih => exact readsOperand_group plain ih
  | emptyCall shape =>
    have nothing : ReadsInside operators [] := fun _ _ _ spaced _ following =>
      .blanks_append (Spaced.nil_iff.1 spaced) (following _)
    exact readsOperand_call plain shape nothing
  | call shape _ _ ih ihs =>
    refine readsOperand_call plain shape fun text rest more spaced ends following => ?_
    obtain ⟨front, back, rfl, spacedFront, spacedBack⟩ := spaced.of_append
    have later := splits_further ihs spacedBack ends following
    rw [List.append_assoc, List.append_assoc]
    exact ih rfl spacedFront (later none).1 fun last _ => (later (some last)).2

end WrittenInfix

/-- **Blanks do not matter between the tokens of an expression**: when every operator symbol is
plain, the tokens of an expression that is written with any blanks before, between and after its
tokens, or with none, are just these tokens. -/
theorem tokenize_spaced {operators : OperatorTable} (plain : operators.IsPlain)
    {tokens : List String} (written : WrittenInfix operators tokens) {source : String}
    (spaced : Spaced tokens source.toList) : tokenize operators source = .ok tokens := by
  have splits : Splits operators none (source.toList ++ []) (tokens ++ []) :=
    written.readsOperand plain rfl spaced (by simp) fun last _ => .done (by simp)
  rw [tokenize_eq_ok_iff]
  simpa using splits

/-- The standard operators have plain symbols. -/
lemma OperatorTable.isPlain_standard : OperatorTable.standard.IsPlain := by
  have names : ∀ symbol ∈ OperatorTable.standard.names,
      symbol.toList.all Cursor.isOperatorChar = true ∧ '-' ∉ symbol.toList.tail ∧
        symbol.toList.head? ≠ some '.' := by decide
  intro symbol registered
  obtain ⟨characters, plain⟩ := names symbol ((NameTable.mem_names ..).2 registered)
  exact ⟨List.all_eq_true.1 characters, plain⟩

/-- Two minus signs in a row, of which the second one belongs to a number, behind a call with a
text in which a delimiter is escaped. -/
theorem tokenize_spaced_minus :
    let tokens := ["f", "(", "1.5", ",", "'it\\'s'", ")", "-", "-2"]
    Spaced tokens "f( 1.5,'it\\'s')--2 ".toList ∧
      tokenize .standard "f( 1.5,'it\\'s')--2 " = .ok tokens := by
  intro tokens
  have escaped : Delimited.Escaped ['i', 't', '\\', '\'', 's'] := ⟨by decide, by decide⟩
  have digits : Token.IsDigits ['2'] := by decide
  have number : WrittenInfix .standard ["1.5"] := .operand (.numeral (by decide))
  have text : ∀ argument ∈ [["'it\\'s'"]], WrittenInfix .standard argument :=
    List.forall_mem_singleton.2 (.operand (.text escaped))
  have call : WrittenInfix .standard ["f", "(", "1.5", ",", "'it\\'s'", ")"] :=
    .call (by decide) number text
  have written : WrittenInfix .standard tokens :=
    .operation (by decide) (by decide) call (.operand (.negative digits))
  have spaced : Spaced tokens "f( 1.5,'it\\'s')--2 ".toList := by
    refine Spaced.cons_iff.2 ⟨[], "( 1.5,'it\\'s')--2 ".toList, List.forall_mem_nil _, rfl, ?_⟩
    refine Spaced.cons_iff.2 ⟨[], " 1.5,'it\\'s')--2 ".toList, List.forall_mem_nil _, rfl, ?_⟩
    refine Spaced.cons_iff.2 ⟨[' '], ",'it\\'s')--2 ".toList,
      List.forall_mem_singleton.2 (by decide), rfl, ?_⟩
    refine Spaced.cons_iff.2 ⟨[], "'it\\'s')--2 ".toList, List.forall_mem_nil _, rfl, ?_⟩
    refine Spaced.cons_iff.2 ⟨[], ")--2 ".toList, List.forall_mem_nil _, rfl, ?_⟩
    refine Spaced.cons_iff.2 ⟨[], "--2 ".toList, List.forall_mem_nil _, rfl, ?_⟩
    refine Spaced.cons_iff.2 ⟨[], "-2 ".toList, List.forall_mem_nil _, rfl, ?_⟩
    exact Spaced.cons_iff.2 ⟨[], " ".toList, List.forall_mem_nil _, rfl,
      .nil (List.forall_mem_singleton.2 (by decide))⟩
  exact ⟨spaced, tokenize_spaced OperatorTable.isPlain_standard written spaced⟩

end Formula
