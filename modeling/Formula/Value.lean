import Formula.Fault

set_option autoImplicit false

/-!
# Values

A value is a decimal or a text. A text is held in its written form, between two delimiters, so
that it can be joined with another one by dropping the delimiters in between.

## Main definitions

* `Formula.Value` — the type.
* `Formula.Delimited` — operations on delimited texts: `join`, `content`, `contentSize`,
  `repeatContent`.
* `Formula.Value.display` — the written form of a value.
* `Formula.Value.normalized` — a value without insignificant zeros.

## Main results

* `Formula.Delimited.content_enclose`, `join_enclose`, `repeatContent_enclose` — what the
  operations do to enclosed texts.
-/

namespace Formula

namespace Delimited

/-- The character at both ends of a written text. -/
def delimiter : Char := '\''

/-- The character that keeps a delimiter after it from ending a text. -/
def escape : Char := '\\'

/-- A content between two delimiters. -/
def enclose (content : List Char) : List Char :=
  delimiter :: content ++ [delimiter]

/-- A text without a delimiter in front. -/
def dropOpening : List Char → List Char
  | c :: rest => if c == delimiter then rest else c :: rest
  | [] => []

/-- A text without a delimiter at its end. -/
def dropClosing (text : List Char) : List Char :=
  if text.getLast? == some delimiter then text.dropLast else text

/-- The content of a written text: what is left without the delimiters at its ends. -/
def content (text : List Char) : List Char :=
  dropClosing (dropOpening text)

/-- The number of bytes of the content of a written text. -/
def contentSize (text : List Char) : Nat := (String.ofList (content text)).utf8ByteSize

/-- Two written texts joined, without the delimiters between them. -/
def join (left right : List Char) : List Char :=
  dropClosing left ++ dropOpening right

/-- The content of a written text, repeated, between delimiters. An empty content stays empty
however often it is repeated. -/
def repeatContent (text : List Char) (count : Nat) : List Char :=
  if (content text).isEmpty then enclose []
  else enclose (List.replicate count (content text)).flatten

/-- A text is written as a text literal when a delimiter stands at both of its ends. -/
def isDelimited (text : List Char) : Bool :=
  2 ≤ text.length && text.head? == some delimiter && text.getLast? == some delimiter

/-- The delimiter that closes a text is taken off. -/
@[simp] theorem dropClosing_concat (text : List Char) :
    dropClosing (text ++ [delimiter]) = text := by
  simp [dropClosing]

/-- The content of an enclosed text is what was enclosed. -/
@[simp] theorem content_enclose (text : List Char) : content (enclose text) = text := by
  simp [content, enclose, dropOpening]

/-- Joining two enclosed texts encloses their concatenation. -/
theorem join_enclose (left right : List Char) :
    join (enclose left) (enclose right) = enclose (left ++ right) := by
  have opening : enclose left = (delimiter :: left) ++ [delimiter] := rfl
  rw [join, opening, dropClosing_concat]
  simp [enclose, dropOpening]

/-- Repeating an enclosed text encloses the repetitions of its content. -/
theorem repeatContent_enclose (text : List Char) (count : Nat) :
    repeatContent (enclose text) count = enclose (List.replicate count text).flatten := by
  cases text <;> simp [repeatContent]

end Delimited

/-- The result of an expression. -/
inductive Value where
  /-- A number. -/
  | decimal (number : Decimal)
  /-- A text in its written form, delimiters included. -/
  | text (written : String)
deriving DecidableEq, Inhabited

namespace Value

/-- The text with a given content. -/
def ofContent (content : String) : Value :=
  .text (String.ofList (Delimited.enclose content.toList))

/-- A truth value as a number. -/
def ofBool (b : Bool) : Value := .decimal (Decimal.ofBool b)

/-- The kind of a value. -/
def kind : Value → ValueKind
  | decimal _ => .decimal
  | text _ => .text

/-- The number, if the value is one. -/
def decimal? : Value → Option Decimal
  | decimal number => some number
  | text _ => none

/-- The written form, if the value is a text. -/
def text? : Value → Option String
  | decimal _ => none
  | text written => some written

/-- The content without delimiters, if the value is a text. -/
def content? (value : Value) : Option String :=
  value.text?.map fun written => String.ofList (Delimited.content written.toList)

/-- A number is true unless it is zero; a text has no truth value. -/
def truth? (value : Value) : Option Bool :=
  value.decimal?.map fun number => !number.isZero

/-- The written form of a value: positional notation, or a text with its delimiters. -/
def display : Value → String
  | decimal number => number.plain
  | text written => written

/-- A number without insignificant zeros, a text as it is. -/
def normalized : Value → Value
  | decimal number => .decimal number.normalized
  | text written => .text written

/-- Equality that takes numbers of different scales for equal. -/
def agrees : Value → Value → Bool
  | decimal a, decimal b => a.numEq b
  | text a, text b => a == b
  | _, _ => false

end Value

end Formula
