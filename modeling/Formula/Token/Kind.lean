import Formula.Symbols
import Formula.Unicode.Letter

set_option autoImplicit false

/-!
# What a token stands for

Tokens are strings. What a token stands for depends on the symbols at the time it is looked at,
so a kind is computed when it is needed and is not stored with the token.

## Main definitions

* `Formula.TokenKind` — the kinds.
* `Formula.Symbols.classify` — the kind of a token.
* `Formula.Token.isNumeral`, `isText`, `isIdentifier` — the shapes of tokens.

## Main results

* `Formula.Symbols.classify_eq_leftParen_iff`, `classify_eq_rightParen_iff`,
  `classify_eq_comma_iff` — each separator is the only token of its kind.
* `Formula.Symbols.SameNames.classify` — a kind does not depend on what names are bound to.
* `Formula.Symbols.find?_of_classify_eq_operator`, `find?_of_classify_eq_function` — a token
  of one of these kinds has an entry in its table.
-/

namespace Formula

/-- What a token stands for. -/
inductive TokenKind where
  /-- The parenthesis that opens a group or a call. -/
  | leftParen
  /-- The parenthesis that closes it. -/
  | rightParen
  /-- The mark between two arguments. -/
  | comma
  /-- A number literal, which may have signs. -/
  | numeral
  /-- A text literal. -/
  | text
  /-- The symbol of a registered operator. -/
  | operator
  /-- A name with a binding. -/
  | boundName
  /-- The name of a registered function. -/
  | function
  /-- An identifier that is neither bound nor a function. -/
  | freeName
  /-- Anything else. -/
  | unknown
deriving DecidableEq

/-- Whether tokens of a kind stand for an operand. -/
def TokenKind.isValue : TokenKind → Bool
  | numeral | text | boundName => true
  | _ => false

namespace Token

/-- The token that opens a group or the arguments of a call. -/
def leftParen : String := "("

/-- The token that closes what a left parenthesis opens. -/
def rightParen : String := ")"

/-- The token between two arguments. -/
def comma : String := ","

/-- A character that an identifier begins with. -/
def isIdentifierStart (c : Char) : Bool :=
  Unicode.isAlphabetic c || c == '_'

/-- A character that an identifier goes on with. -/
def isIdentifierChar (c : Char) : Bool :=
  Unicode.isAlphabetic c || Unicode.isNumeric c || c == '_'

/-- A character that is a token of its own. -/
def isSeparator (c : Char) : Bool :=
  c == '(' || c == ')' || c == ','

/-- A character of a number literal without a sign. -/
def isNumeralChar (c : Char) : Bool :=
  c.isDigit || c == '.'

/-- A token is shaped like a numeral when it has a digit, and digits, signs and points only. -/
def isNumeral (token : String) : Bool :=
  token.toList.any Char.isDigit &&
    token.toList.all fun c => isNumeralChar c || c == '-' || c == '+'

/-- A token is shaped like a text when it begins with a delimiter and does not end there. -/
def isText (token : String) : Bool :=
  match token.toList with
  | c :: _ :: _ => c == Delimited.delimiter
  | _ => false

/-- A token is shaped like an identifier when it begins like one. -/
def isIdentifier (token : String) : Bool :=
  token.toList.head?.any isIdentifierStart

end Token

namespace Symbols

/-- The kind of a token. The shape of a literal goes before every table, and among the tables
operators go before bound names and these before functions. -/
def classify (symbols : Symbols) (token : String) : TokenKind :=
  if token = Token.leftParen then .leftParen
  else if token = Token.rightParen then .rightParen
  else if token = Token.comma then .comma
  else if Token.isNumeral token then .numeral
  else if Token.isText token then .text
  else if symbols.operators.contains token then .operator
  else if symbols.bindings.contains token then .boundName
  else if symbols.functions.contains token then .function
  else if Token.isIdentifier token then .freeName
  else .unknown

/-! ## What a kind says about its tokens -/

variable {symbols : Symbols} {token : String}

/-- The kind of a token depends on which names are bound, and not on what they are bound to. -/
theorem SameNames.classify {other : Symbols} (same : symbols.SameNames other) (token : String) :
    other.classify token = symbols.classify token := by
  simp only [Symbols.classify, same.operators, same.functions, same.bound]

/-- A left parenthesis is one in all tables. -/
@[simp] theorem classify_leftParen (symbols : Symbols) :
    symbols.classify Token.leftParen = .leftParen := by
  simp [classify]

/-- A right parenthesis is one in all tables. -/
@[simp] theorem classify_rightParen (symbols : Symbols) :
    symbols.classify Token.rightParen = .rightParen := by
  simp [classify, Token.leftParen, Token.rightParen]

/-- A comma is one in all tables. -/
@[simp] theorem classify_comma (symbols : Symbols) :
    symbols.classify Token.comma = .comma := by
  simp [classify, Token.leftParen, Token.rightParen, Token.comma]

/-- The left parenthesis is the only token of its kind. -/
theorem classify_eq_leftParen_iff :
    symbols.classify token = .leftParen ↔ token = Token.leftParen := by
  constructor
  · intro kind
    unfold classify at kind
    grind
  · rintro rfl
    exact classify_leftParen symbols

/-- The right parenthesis is the only token of its kind. -/
theorem classify_eq_rightParen_iff :
    symbols.classify token = .rightParen ↔ token = Token.rightParen := by
  constructor
  · intro kind
    unfold classify at kind
    grind
  · rintro rfl
    exact classify_rightParen symbols

/-- The comma is the only token of its kind. -/
theorem classify_eq_comma_iff : symbols.classify token = .comma ↔ token = Token.comma := by
  constructor
  · intro kind
    unfold classify at kind
    grind
  · rintro rfl
    exact classify_comma symbols

/-- An operator has an entry in the table of operators. -/
theorem find?_of_classify_eq_operator (kind : symbols.classify token = .operator) :
    ∃ operator, symbols.operators.find? token = some operator := by
  have contained : symbols.operators.contains token = true := by
    unfold classify at kind
    grind
  rw [NameTable.contains_eq_isSome_find?] at contained
  exact Option.isSome_iff_exists.1 contained

/-- A function has an entry in the table of functions. -/
theorem find?_of_classify_eq_function (kind : symbols.classify token = .function) :
    ∃ function, symbols.functions.find? token = some function := by
  have contained : symbols.functions.contains token = true := by
    unfold classify at kind
    grind
  rw [NameTable.contains_eq_isSome_find?] at contained
  exact Option.isSome_iff_exists.1 contained

end Symbols

end Formula
