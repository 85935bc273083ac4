import Formula.Token.Kind

set_option autoImplicit false

/-!
# Tokens of a source

A cursor moves over the trimmed source and yields one token at a time. Blanks between tokens are
skipped. A minus sign belongs to the digits after it when no operand can stand before it: at the
beginning, after a left parenthesis, a comma or an operator. Everywhere else it is an operator.

## Main definitions

* `Formula.Cursor` — the state: the position, the characters ahead and the token before.
* `Formula.Cursor.tokenLength` — the length of the token at the front of a text.
* `Formula.Cursor.next` — one step.
* `Formula.Scan` — the tokens of a source up to its end or to the first fault.
* `Formula.tokenize` — the tokens of a source.
-/

namespace Formula

/-- A place in a trimmed source. -/
structure Cursor where
  /-- The number of characters before the cursor. -/
  position : Nat
  /-- The characters after the cursor. -/
  rest : List Char
  /-- The token that ends last before the cursor. -/
  previous : Option String
deriving DecidableEq

namespace Cursor

/-- The cursor at the beginning of a source. -/
def start (source : String) : Cursor := ⟨0, Unicode.trim source.toList, none⟩

/-- The source after the cursor. -/
def remaining (cursor : Cursor) : String := String.ofList cursor.rest

/-- A character that goes on with an operator symbol: none that begins or separates other
tokens. -/
def isOperatorChar (c : Char) : Bool :=
  !(Token.isIdentifierChar c || Unicode.isBlank c || Token.isSeparator c ||
    c == Delimited.delimiter)

/-- The number of characters up to the delimiter that closes a text, that one included: the
first delimiter without an escape character just before it. The first argument is the character
before the list. -/
def closingDistance : Char → List Char → Option Nat
  | _, [] => none
  | before, c :: rest =>
    if c = Delimited.delimiter ∧ before ≠ Delimited.escape then some 1
    else (closingDistance c rest).map (· + 1)

/-- After which tokens a minus sign in front of digits belongs to them. -/
def opensOperand (operators : OperatorTable) : Option String → Bool
  | none => true
  | some token =>
    token == Token.leftParen || token == Token.comma || operators.contains token

/-- The length of the token at the front of a text that does not begin with a blank, given the
token before it and the position of the text. -/
def tokenLength (operators : OperatorTable) (previous : Option String) (position : Nat) :
    List Char → Except Fault Nat
  | [] => .ok 0
  | c :: rest =>
    if c = Delimited.delimiter then
      match closingDistance c rest with
      | none => .error (.textBoundary (position + 1 + rest.length))
      | some distance =>
        if (rest.drop distance).head? = some Delimited.delimiter then
          .error (.textBoundary (position + 1 + distance))
        else .ok (1 + distance)
    else if c.isDigit then .ok (1 + (rest.takeWhile Token.isNumeralChar).length)
    else if c = '-' && rest.head?.any Char.isDigit && opensOperand operators previous then
      .ok (1 + (rest.takeWhile Token.isNumeralChar).length)
    else if Token.isIdentifierStart c then
      .ok (1 + (rest.takeWhile Token.isIdentifierChar).length)
    else if Token.isSeparator c then .ok 1
    else
      let tail := rest.takeWhile fun d => isOperatorChar d && d != '-'
      let symbol := String.ofList (c :: tail)
      if operators.contains symbol then .ok (1 + tail.length)
      else .error (.unknownOperator symbol (position + 1))

/-- The cursor at the next character that is not blank. -/
def skipBlanks (cursor : Cursor) : Cursor :=
  { cursor with
    position := cursor.position + (cursor.rest.takeWhile Unicode.isBlank).length
    rest := cursor.rest.dropWhile Unicode.isBlank }

/-- The token of a given length at the cursor, and the cursor after it. -/
def take (cursor : Cursor) (length : Nat) : String × Cursor :=
  let token := String.ofList (cursor.rest.take length)
  (token, ⟨cursor.position + length, cursor.rest.drop length, some token⟩)

/-- The cursor at the end of the source. -/
def finish (cursor : Cursor) : Cursor :=
  ⟨cursor.position + cursor.rest.length, [], cursor.previous⟩

/-- One step: the next token or fault, if there is one, and the cursor after it. A fault moves
the cursor to the end of the source. -/
def next (operators : OperatorTable) (cursor : Cursor) :
    Option (Except Fault String) × Cursor :=
  let cursor := cursor.skipBlanks
  if cursor.rest.isEmpty then (none, cursor)
  else
    match tokenLength operators cursor.previous cursor.position cursor.rest with
    | .error fault => (some (.error fault), cursor.finish)
    | .ok length =>
      let (token, cursor) := cursor.take length
      (some (.ok token), cursor)

end Cursor

/-- A token and the position of the cursor after it. -/
structure Lexeme where
  /-- The characters of the token. -/
  token : String
  /-- The number of characters up to its end. -/
  stop : Nat
deriving DecidableEq

/-- The tokens of a source up to its end, or up to the fault that ends them. -/
structure Scan where
  /-- The tokens in the order of the source. -/
  lexemes : List Lexeme
  /-- The fault, if the end has not been reached. -/
  fault : Option Fault
deriving DecidableEq

namespace Scan

/-- The scan from a cursor on, in at most the given number of steps. -/
def within (operators : OperatorTable) : Nat → Cursor → Scan
  | 0, _ => ⟨[], none⟩
  | steps + 1, cursor =>
    match cursor.next operators with
    | (none, _) => ⟨[], none⟩
    | (some (.error fault), _) => ⟨[], some fault⟩
    | (some (.ok token), cursor) =>
      let scan := within operators steps cursor
      ⟨⟨token, cursor.position⟩ :: scan.lexemes, scan.fault⟩

/-- The scan of a source. Every token has a character of its own, so there are no more tokens
than characters. -/
def ofSource (operators : OperatorTable) (source : String) : Scan :=
  let cursor := Cursor.start source
  within operators cursor.rest.length cursor

/-- The tokens of a scan, or the fault that ended it. -/
def tokens (scan : Scan) : Except Fault (List String) :=
  match scan.fault with
  | some fault => .error fault
  | none => .ok (scan.lexemes.map Lexeme.token)

end Scan

/-- The tokens of a source, or the first fault in it. -/
def tokenize (operators : OperatorTable) (source : String) : Except Fault (List String) :=
  (Scan.ofSource operators source).tokens

end Formula
