import Formula.Token.Cursor
import Mathlib.Data.List.Chain
import Mathlib.Data.List.TakeWhile

set_option autoImplicit false

/-!
# Shapes of tokens

What the cursor takes for the token at the front of a text, as a relation between the token and the
characters after it. Each kind of token has a shape, and it ends where its shape cannot go on. A
text ends at the first delimiter that is not escaped. The token before matters for a minus sign in
front of digits only.

## Main definitions

* `Formula.Delimited.Escaped`, `Unclosed` — a content that can stand between delimiters, and one
  that goes on to the end of the source.
* `Formula.Token.IsDigits`, `IsName`, `IsSymbol` — the shapes of numerals without a sign, of
  identifiers and of operators.
* `Formula.Cursor.Leads`, `Breaks` — a token stands at the front of a text, or none does.

## Main results

* `Formula.Delimited.Escaped.append` — contents can be joined.
* `Formula.Cursor.closingDistance_eq_some_iff`, `closingDistance_eq_none_iff` — where a text ends.
* `Formula.Cursor.Leads.tokenLength` — the length of the token at the front.
* `Formula.Cursor.tokenLength_cases` — the cursor takes the token at the front, or none stands
  there.
* `Formula.Cursor.Leads.congr` — a token depends on the first character after it and on the token
  before it, and on these only as far as needed.
-/

namespace Formula

/-! ## Classes of characters -/

namespace Unicode

/-- A code point lies in one list of ranges only, when the ranges of the two lists do not meet. -/
lemma inRanges_eq_false_of_apart {ranges others : List (Nat × Nat)}
    (apart : ∀ range ∈ ranges, ∀ other ∈ others, range.2 < other.1 ∨ other.2 < range.1)
    {point : Nat} (inside : inRanges ranges point = true) : inRanges others point = false := by
  simp only [inRanges, List.any_eq_true, Bool.and_eq_true, decide_eq_true_eq] at inside
  obtain ⟨range, member, low, high⟩ := inside
  simp only [inRanges, List.any_eq_false, Bool.and_eq_true, decide_eq_true_eq]
  intro other memberOther bounds
  have := apart range member other memberOther
  omega

/-- The digits by their code points. -/
lemma isDigit_iff {c : Char} : c.isDigit = true ↔ 48 ≤ c.toNat ∧ c.toNat ≤ 57 := by
  simp only [Char.isDigit, Bool.and_eq_true, decide_eq_true_eq, ge_iff_le,
    UInt32.le_iff_toNat_le]
  rfl

/-- The ASCII letters by their code points. -/
lemma isAlpha_iff {c : Char} :
    c.isAlpha = true ↔ 65 ≤ c.toNat ∧ c.toNat ≤ 90 ∨ 97 ≤ c.toNat ∧ c.toNat ≤ 122 := by
  have upper : c.isUpper = true ↔ 65 ≤ c.toNat ∧ c.toNat ≤ 90 := decide_eq_true_iff
  have lower : c.isLower = true ↔ 97 ≤ c.toNat ∧ c.toNat ≤ 122 :=
    Bool.and_eq_true_iff.trans (and_congr decide_eq_true_iff decide_eq_true_iff)
  exact Bool.or_eq_true_iff.trans (or_congr upper lower)

/-- Below U+0080 the blanks are the space and the controls from the tabulator on. -/
lemma isBlank_iff_of_ascii {c : Char} (ascii : c.toNat < 0x80) :
    isBlank c = true ↔ 9 ≤ c.toNat ∧ c.toNat ≤ 13 ∨ c.toNat = 32 := by
  simp only [isBlank, inRanges, blankRanges, List.any_cons, List.any_nil, Bool.or_eq_true,
    Bool.and_eq_true, decide_eq_true_eq, Bool.or_false]
  omega

end Unicode

namespace Token

variable {c : Char}

/-- **Blanks do not belong to identifiers.** From U+0080 on this can be seen from the tables. -/
lemma isIdentifierChar_of_isBlank (blank : Unicode.isBlank c = true) :
    isIdentifierChar c = false := by
  have letter : Unicode.inRanges Unicode.alphabeticRanges c.toNat = false :=
    Unicode.inRanges_eq_false_of_apart (by decide +kernel) blank
  have number : Unicode.inRanges Unicode.numericRanges c.toNat = false :=
    Unicode.inRanges_eq_false_of_apart (by decide +kernel) blank
  have noUnderscore : c ≠ '_' := by
    rintro rfl
    exact absurd blank (by decide)
  rw [isIdentifierChar, Unicode.isAlphabetic, Unicode.isNumeric]
  by_cases ascii : c.toNat < 0x80
  · have bounds := (Unicode.isBlank_iff_of_ascii ascii).1 blank
    have noLetter : c.isAlpha = false := by
      rw [Bool.eq_false_iff, Ne, Unicode.isAlpha_iff]
      omega
    have noDigit : c.isDigit = false := by
      rw [Bool.eq_false_iff, Ne, Unicode.isDigit_iff]
      omega
    simp [ascii, noLetter, noDigit, noUnderscore]
  · simp [ascii, letter, number, noUnderscore]

/-- What begins an identifier may also continue it. -/
lemma isIdentifierChar_of_isIdentifierStart (start : isIdentifierStart c = true) :
    isIdentifierChar c = true := by
  simp only [isIdentifierStart, isIdentifierChar, Bool.or_eq_true] at start ⊢
  tauto

/-- A digit goes on with an identifier but does not begin one. -/
lemma isIdentifierChar_of_isDigit (digit : c.isDigit = true) :
    isIdentifierChar c = true ∧ isIdentifierStart c = false := by
  have bounds := Unicode.isDigit_iff.1 digit
  have ascii : c.toNat < 0x80 := by omega
  have noLetter : c.isAlpha = false := by
    rw [Bool.eq_false_iff, Ne, Unicode.isAlpha_iff]
    omega
  have noUnderscore : c ≠ '_' := by
    rintro rfl
    exact absurd digit (by decide)
  simp [isIdentifierChar, isIdentifierStart, Unicode.isAlphabetic, Unicode.isNumeric, ascii, digit,
    noLetter, noUnderscore]

/-- A character that goes on with no identifier is no digit and begins no identifier. -/
lemma of_isIdentifierChar_eq_false (noName : isIdentifierChar c = false) :
    c.isDigit = false ∧ isIdentifierStart c = false := by
  constructor <;> rw [Bool.eq_false_iff]
  · intro digit
    rw [(isIdentifierChar_of_isDigit digit).1] at noName
    cases noName
  · intro start
    rw [isIdentifierChar_of_isIdentifierStart start] at noName
    cases noName

/-- No digit begins an identifier. -/
lemma isDigit_eq_false_of_isIdentifierStart (start : isIdentifierStart c = true) :
    c.isDigit = false := by
  rw [Bool.eq_false_iff]
  intro digit
  rw [(isIdentifierChar_of_isDigit digit).2] at start
  cases start

/-- No character of an identifier is a blank. -/
lemma isBlank_eq_false_of_isIdentifierChar (isName : isIdentifierChar c = true) :
    Unicode.isBlank c = false := by
  rw [Bool.eq_false_iff]
  intro blank
  rw [isIdentifierChar_of_isBlank blank] at isName
  cases isName

/-- A character of a numeral is a digit or the point. -/
lemma isNumeralChar_iff : isNumeralChar c = true ↔ c.isDigit = true ∨ c = '.' := by
  rw [isNumeralChar, Bool.or_eq_true, beq_iff_eq]

/-- Apart from the point, the characters of numerals are characters of identifiers. -/
lemma isNumeralChar_eq_false (noName : isIdentifierChar c = false) (noPoint : c ≠ '.') :
    isNumeralChar c = false := by
  rw [isNumeralChar, (of_isIdentifierChar_eq_false noName).1, beq_eq_false_iff_ne.2 noPoint]
  rfl

/-- The separators are the two parentheses and the comma. -/
lemma isSeparator_iff : isSeparator c = true ↔ c = '(' ∨ c = ')' ∨ c = ',' := by
  simp only [isSeparator, Bool.or_eq_true, beq_iff_eq, or_assoc]

/-- An operator goes on with characters that are in no other token and between no tokens. -/
lemma isOperatorChar_iff : Cursor.isOperatorChar c = true ↔ isIdentifierChar c = false ∧
    Unicode.isBlank c = false ∧ isSeparator c = false ∧ c ≠ Delimited.delimiter := by
  simp only [Cursor.isOperatorChar, Bool.not_eq_true', Bool.or_eq_false_iff, beq_eq_false_iff_ne,
    and_assoc]

/-- A character after which the token before it has ended, whatever it is. -/
def isBreak (c : Char) : Bool := Unicode.isBlank c || isSeparator c

/-- **A break belongs to no numeral, identifier or operator** and is no delimiter. -/
lemma not_mem_of_isBreak (isBreak : isBreak c = true) :
    c ≠ Delimited.delimiter ∧ isNumeralChar c = false ∧ isIdentifierChar c = false ∧
      Cursor.isOperatorChar c = false := by
  rw [Token.isBreak, Bool.or_eq_true] at isBreak
  rcases isBreak with blank | separator
  · have noName := isIdentifierChar_of_isBlank blank
    refine ⟨?_, isNumeralChar_eq_false noName ?_, noName, by simp [Cursor.isOperatorChar, blank]⟩
    · rintro rfl
      exact absurd blank (by decide)
    · rintro rfl
      exact absurd blank (by decide)
  · rcases isSeparator_iff.1 separator with rfl | rfl | rfl <;> decide

/-! ## Shapes -/

/-- The shape of a numeral without a sign: digits and points, a digit first. -/
def IsDigits (token : List Char) : Prop :=
  token.head?.any Char.isDigit = true ∧ ∀ c ∈ token, isNumeralChar c = true

/-- The shape of an identifier. -/
def IsName (token : List Char) : Prop :=
  token.head?.any isIdentifierStart = true ∧ ∀ c ∈ token, isIdentifierChar c = true

/-- It is decided character by character whether a token consists of digits. -/
instance (token : List Char) : Decidable (IsDigits token) :=
  decidable_of_iff (token.head?.any Char.isDigit = true ∧ token.all isNumeralChar = true)
    (by rw [IsDigits, List.all_eq_true])

/-- It is decided character by character whether a token is an identifier. -/
instance (token : List Char) : Decidable (IsName token) :=
  decidable_of_iff (token.head?.any isIdentifierStart = true ∧ token.all isIdentifierChar = true)
    (by rw [IsName, List.all_eq_true])

/-- A character with which no other token begins. -/
def isSymbolStart (c : Char) : Bool :=
  !(c == Delimited.delimiter || c.isDigit || isIdentifierStart c || isSeparator c ||
    Unicode.isBlank c)

/-- The shape of an operator: a minus sign stands only at the beginning. -/
def IsSymbol (token : List Char) : Prop :=
  token.head?.any isSymbolStart = true ∧
    ∀ c ∈ token.tail, Cursor.isOperatorChar c = true ∧ c ≠ '-'

/-- A symbol begins with a character with which no other kind of token begins. -/
lemma isSymbolStart_iff : isSymbolStart c = true ↔ c ≠ Delimited.delimiter ∧ c.isDigit = false ∧
    isIdentifierStart c = false ∧ isSeparator c = false ∧ Unicode.isBlank c = false := by
  simp only [isSymbolStart, Bool.not_eq_true', Bool.or_eq_false_iff, beq_eq_false_iff_ne, and_assoc]

/-- A text that begins with a character of a class has a first character. -/
lemma exists_cons_of_any_head? {p : Char → Bool} {text : List Char}
    (begins : text.head?.any p = true) : ∃ first more, text = first :: more ∧ p first = true := by
  obtain _ | ⟨first, more⟩ := text
  · cases begins
  · exact ⟨first, more, rfl, begins⟩

/-- A token of digits has a first one. -/
lemma IsDigits.exists_cons {digits : List Char} (shape : IsDigits digits) :
    ∃ digit more, digits = digit :: more ∧ digit.isDigit = true :=
  exists_cons_of_any_head? shape.1

/-- An identifier has a first character, which may begin it. -/
lemma IsName.exists_cons {name : List Char} (shape : IsName name) :
    ∃ first more, name = first :: more ∧ isIdentifierStart first = true :=
  exists_cons_of_any_head? shape.1

/-- An identifier is neither a separator nor a numeral nor a text. -/
lemma IsName.other {name : String} (shape : IsName name.toList) :
    (name ≠ leftParen ∧ name ≠ rightParen ∧ name ≠ comma) ∧ isNumeral name = false ∧
      isText name = false := by
  have noSeparator : ∀ token : String, token.toList.head?.any isIdentifierStart = false →
      name ≠ token := by
    rintro token noStart rfl
    rw [shape.1] at noStart
    cases noStart
  obtain ⟨first, more, split, start⟩ := shape.exists_cons
  have different : ∀ c, isIdentifierStart c = false → first ≠ c := by
    rintro c noStart rfl
    rw [start] at noStart
    cases noStart
  refine ⟨⟨noSeparator leftParen (by decide), noSeparator rightParen (by decide),
    noSeparator comma (by decide)⟩, ?_, ?_⟩
  · have noDigit := isDigit_eq_false_of_isIdentifierStart start
    simp [isNumeral, isNumeralChar, split, noDigit, different '.' (by decide),
      different '-' (by decide), different '+' (by decide)]
  · rw [isText, split]
    cases more with
    | nil => rfl
    | cons c more => exact beq_eq_false_iff_ne.2 (different _ (by decide))

/-- A symbol has a first character, and what follows continues an operator up to a minus sign. -/
lemma IsSymbol.exists_cons {symbol : List Char} (shape : IsSymbol symbol) :
    ∃ first tail, symbol = first :: tail ∧ isSymbolStart first = true ∧
      ∀ c ∈ tail, Cursor.isOperatorChar c = true ∧ c ≠ '-' := by
  obtain ⟨first, tail, rfl, start⟩ := exists_cons_of_any_head? shape.1
  exact ⟨first, tail, rfl, start, shape.2⟩

/-- Digits are a numeral, also behind a minus sign. -/
lemma IsDigits.isNumeral {digits : List Char} (shape : IsDigits digits) :
    isNumeral (String.ofList digits) = true ∧
      isNumeral (String.ofList ('-' :: digits)) = true := by
  obtain ⟨digit, more, rfl, isDigit⟩ := shape.exists_cons
  have all : ∀ c ∈ digit :: more, (isNumeralChar c || c == '-' || c == '+') = true := by
    intro c member
    rw [shape.2 c member, Bool.true_or, Bool.true_or]
  constructor
  · rw [Token.isNumeral, String.toList_ofList, List.any_cons, isDigit, Bool.true_or, Bool.true_and,
      List.all_eq_true]
    exact all
  · rw [Token.isNumeral, String.toList_ofList, List.any_cons, List.any_cons, isDigit, Bool.true_or,
      Bool.or_true, Bool.true_and, List.all_eq_true]
    exact List.forall_mem_cons.2 ⟨by decide, all⟩

end Token

/-- A numeral is taken for one by every table. -/
lemma Symbols.classify_of_isNumeral (symbols : Symbols) {token : String}
    (numeral : Token.isNumeral token = true) : symbols.classify token = .numeral := by
  have other : ∀ separator, Token.isNumeral separator = false → token ≠ separator := by
    rintro separator noNumeral rfl
    rw [numeral] at noNumeral
    cases noNumeral
  rw [classify, if_neg (other Token.leftParen (by decide)),
    if_neg (other Token.rightParen (by decide)), if_neg (other Token.comma (by decide)),
    if_pos numeral]

/-- A content between delimiters is taken for a text. -/
lemma Symbols.classify_enclose (symbols : Symbols) (content : List Char) :
    symbols.classify (String.ofList (Delimited.enclose content)) = .text := by
  have begins : (String.ofList (Delimited.enclose content)).toList.head? =
      some Delimited.delimiter := by
    rw [String.toList_ofList]
    rfl
  generalize isToken : String.ofList (Delimited.enclose content) = token at begins ⊢
  have other : ∀ separator : String, separator.toList.head? ≠ some Delimited.delimiter →
      token ≠ separator := by
    rintro separator different rfl
    exact different begins
  have noNumeral : Token.isNumeral token = false := by
    rw [Token.isNumeral, ← isToken, String.toList_ofList, Bool.and_eq_false_iff]
    exact .inr (List.all_eq_false.2 ⟨Delimited.delimiter, List.mem_cons_self, by decide⟩)
  have isText : Token.isText token = true := by
    rw [Token.isText, ← isToken, String.toList_ofList]
    cases content <;> rfl
  rw [classify, if_neg (other Token.leftParen (by decide)),
    if_neg (other Token.rightParen (by decide)), if_neg (other Token.comma (by decide)),
    if_neg (by simp [noNumeral]), if_pos isText]

/-! ## Contents of texts -/

namespace Delimited

/-- A content that can stand between delimiters: every delimiter in it has an escape character just
before it, and it does not end with an escape character. -/
def Escaped (content : List Char) : Prop :=
  (delimiter :: content).IsChain (fun before c => c = delimiter → before = escape) ∧
    content.getLast? ≠ some escape

/-- A content that goes on to the end of the source: every delimiter in it is escaped. -/
def Unclosed (content : List Char) : Prop :=
  (delimiter :: content).IsChain fun before c => c = delimiter → before = escape

/-- The empty content has no delimiter. -/
lemma escaped_nil : Escaped [] := by
  simp [Escaped]

/-- **Contents can be joined.** -/
lemma Escaped.append {left right : List Char} (first : Escaped left) (second : Escaped right) :
    Escaped (left ++ right) := by
  obtain ⟨chainLeft, endLeft⟩ := first
  obtain ⟨chainRight, endRight⟩ := second
  rw [List.isChain_cons] at chainRight
  obtain ⟨opening, chainRight⟩ := chainRight
  constructor
  · rw [← List.cons_append]
    refine chainLeft.append chainRight fun before _ c atFront isDelimiter => ?_
    -- the right content does not begin with a delimiter
    exact absurd (opening c atFront isDelimiter) (by decide)
  · rw [List.getLast?_append]
    cases last : right.getLast? with
    | none => simpa using endLeft
    | some c => simpa [last] using endRight

/-- A content can be repeated. -/
lemma Escaped.replicate {content : List Char} (escaped : Escaped content) (count : Nat) :
    Escaped (List.replicate count content).flatten := by
  induction count with
  | zero => exact escaped_nil
  | succ count ih =>
    rw [List.replicate_succ, List.flatten_cons]
    exact escaped.append ih

/-- A content in which neither of the two characters occurs is escaped. -/
lemma escaped_of_forall {content : List Char}
    (plain : ∀ c ∈ content, c ≠ delimiter ∧ c ≠ escape) : Escaped content := by
  constructor
  · have chain : ∀ before, (before :: content).IsChain
        fun before c => c = delimiter → before = escape := by
      induction content with
      | nil => exact fun before => .singleton before
      | cons c rest ih =>
        obtain ⟨first, others⟩ := List.forall_mem_cons.1 plain
        exact fun before => (ih others c).cons_cons fun isDelimiter => absurd isDelimiter first.1
    exact chain delimiter
  · exact fun last => (plain _ (List.mem_of_getLast? last)).2 rfl

end Delimited

/-! ## The token at the front -/

namespace Cursor

open Delimited

/-- **A text ends behind an escaped content.** The first argument is the character before the
content. -/
lemma closingDistance_eq_some_iff {before : Char} {text : List Char} {distance : Nat} :
    closingDistance before text = some distance ↔
      ∃ content rest, text = content ++ delimiter :: rest ∧ distance = content.length + 1 ∧
        (before :: content).IsChain (fun before c => c = delimiter → before = escape) ∧
          (before :: content).getLast? ≠ some escape := by
  induction text generalizing before distance with
  | nil => simp [closingDistance]
  | cons c text ih =>
    rw [closingDistance]
    split
    case isTrue closes =>
      obtain ⟨rfl, unescaped⟩ := closes
      constructor
      · intro first
        obtain rfl := Option.some.inj first
        exact ⟨[], text, rfl, rfl, .singleton before, by simpa using unescaped⟩
      · rintro ⟨_ | ⟨c, content⟩, rest, split, rfl, chain, -⟩
        · rfl
        · obtain ⟨rfl, rfl⟩ := List.cons.inj split
          exact absurd (chain.rel rfl) unescaped
    case isFalse goesOn =>
      rw [Option.map_eq_some_iff]
      constructor
      · rintro ⟨distance, later, rfl⟩
        obtain ⟨content, rest, rfl, rfl, chain, last⟩ := ih.1 later
        refine ⟨c :: content, rest, rfl, rfl, chain.cons_cons fun isDelimiter => ?_, ?_⟩
        · by_contra unescaped
          exact goesOn ⟨isDelimiter, unescaped⟩
        · simpa using last
      · rintro ⟨_ | ⟨d, content⟩, rest, split, rfl, chain, last⟩
        · obtain ⟨rfl, -⟩ := List.cons.inj split
          exact absurd ⟨rfl, by simpa using last⟩ goesOn
        · obtain ⟨rfl, rfl⟩ := List.cons.inj split
          have closed := ih.2 ⟨content, rest, rfl, rfl, chain.tail, by simpa using last⟩
          exact ⟨content.length + 1, closed, rfl⟩

/-- **A text that begins with a delimiter ends behind an escaped content.** -/
lemma closingDistance_delimiter_eq_some_iff {text : List Char} {distance : Nat} :
    closingDistance delimiter text = some distance ↔
      ∃ content rest, text = content ++ delimiter :: rest ∧ distance = content.length + 1 ∧
        Escaped content := by
  rw [closingDistance_eq_some_iff]
  refine exists_congr fun content => exists_congr fun rest => and_congr_right fun _ =>
    and_congr_right fun _ => and_congr_right fun _ => ?_
  cases content with
  | nil => simp [delimiter, escape]
  | cons c content => simp

/-- **A text does not end when every delimiter is escaped.** The first argument is the character
before the text. -/
lemma closingDistance_eq_none_iff {before : Char} {text : List Char} :
    closingDistance before text = none ↔
      (before :: text).IsChain fun before c => c = delimiter → before = escape := by
  induction text generalizing before with
  | nil => simp [closingDistance]
  | cons c text ih =>
    rw [closingDistance, List.isChain_cons_cons]
    by_cases closes : c = delimiter ∧ before ≠ escape
    · simp [closes]
    · have escaped : c = delimiter → before = escape := fun isDelimiter => by
        by_contra unescaped
        exact closes ⟨isDelimiter, unescaped⟩
      rw [if_neg closes, Option.map_eq_none_iff, ih]
      exact (and_iff_right escaped).symm

variable {operators : OperatorTable} {previous : Option String} {token rest : List Char}

/-- A token stands at the front of a text, with the given characters after it and the given token
before. -/
inductive Leads (operators : OperatorTable) (previous : Option String) :
    List Char → List Char → Prop
  | text {content rest : List Char} (escaped : Escaped content)
    (ends : ∀ c ∈ rest.head?, c ≠ delimiter) :
    Leads operators previous (enclose content) rest
  | numeral {digits rest : List Char} (shape : Token.IsDigits digits)
    (ends : ∀ c ∈ rest.head?, Token.isNumeralChar c = false) :
    Leads operators previous digits rest
  | negative {digits rest : List Char} (opens : opensOperand operators previous = true)
    (shape : Token.IsDigits digits) (ends : ∀ c ∈ rest.head?, Token.isNumeralChar c = false) :
    Leads operators previous ('-' :: digits) rest
  | identifier {name rest : List Char} (shape : Token.IsName name)
    (ends : ∀ c ∈ rest.head?, Token.isIdentifierChar c = false) :
    Leads operators previous name rest
  | separator {c : Char} {rest : List Char} (shape : Token.isSeparator c = true) :
    Leads operators previous [c] rest
  | operator {symbol rest : List Char} (shape : Token.IsSymbol symbol)
    (registered : operators.contains (String.ofList symbol) = true)
    (ends : ∀ c ∈ rest.head?, isOperatorChar c = false ∨ c = '-')
    (unsigned : symbol = ['-'] → rest.head?.any Char.isDigit = true →
      opensOperand operators previous = false) :
    Leads operators previous symbol rest

/-- A run of characters of one class is taken up to the first character that is not of it. -/
lemma takeWhile_append_of_ends {p : Char → Bool} {run rest : List Char}
    (all : ∀ c ∈ run, p c = true) (ends : ∀ c ∈ rest.head?, p c = false) :
    (run ++ rest).takeWhile p = run := by
  rw [List.takeWhile_append_of_pos all]
  cases rest with
  | nil => simp
  | cons c rest => simp [ends c rfl]

namespace Leads

/-- **The cursor takes the token at the front.** -/
theorem tokenLength (leads : Leads operators previous token rest) (position : Nat) :
    Cursor.tokenLength operators previous position (token ++ rest) = .ok token.length := by
  cases leads with
  | @text content _ escaped ends =>
    have closes : closingDistance delimiter (content ++ delimiter :: rest) =
        some (content.length + 1) :=
      closingDistance_delimiter_eq_some_iff.2 ⟨content, rest, rfl, rfl, escaped⟩
    have after : (content ++ delimiter :: rest).drop (content.length + 1) = rest := by simp
    have single : rest.head? ≠ some delimiter := fun head => ends _ head rfl
    simp [enclose, Cursor.tokenLength, closes, after, single]
    omega
  | numeral shape ends =>
    obtain ⟨digit, more, rfl, isDigit⟩ := shape.exists_cons
    have noDelimiter : digit ≠ delimiter := by
      rintro rfl
      exact absurd isDigit (by decide)
    have run :=
      takeWhile_append_of_ends (fun c member => shape.2 c (List.mem_cons_of_mem _ member)) ends
    simp [Cursor.tokenLength, isDigit, noDelimiter, run, Nat.add_comm]
  | @negative digits _ opens shape ends =>
    have run := takeWhile_append_of_ends shape.2 ends
    obtain ⟨digit, more, rfl, isDigit⟩ := shape.exists_cons
    rw [List.cons_append] at run
    have minus : '-' ≠ delimiter ∧ '-'.isDigit = false := by decide
    simp [Cursor.tokenLength, minus, isDigit, opens, run, Nat.add_comm]
  | identifier shape ends =>
    obtain ⟨first, more, rfl, start⟩ := shape.exists_cons
    have noDelimiter : first ≠ delimiter := by
      rintro rfl
      exact absurd start (by decide)
    have noMinus : first ≠ '-' := by
      rintro rfl
      exact absurd start (by decide)
    have noDigit := Token.isDigit_eq_false_of_isIdentifierStart start
    have run :=
      takeWhile_append_of_ends (fun c member => shape.2 c (List.mem_cons_of_mem _ member)) ends
    simp [Cursor.tokenLength, noDelimiter, noMinus, noDigit, start, run, Nat.add_comm]
  | separator shape =>
    have others : ∀ c : Char, c = '(' ∨ c = ')' ∨ c = ',' → c ≠ delimiter ∧ c ≠ '-' ∧
        c.isDigit = false ∧ Token.isIdentifierStart c = false := by
      rintro c (rfl | rfl | rfl) <;> decide
    obtain ⟨noDelimiter, noMinus, noDigit, noName⟩ := others _ (Token.isSeparator_iff.1 shape)
    simp [Cursor.tokenLength, noDelimiter, noMinus, noDigit, noName, shape]
  | operator shape registered ends unsigned =>
    obtain ⟨first, tail, rfl, start, all⟩ := shape.exists_cons
    obtain ⟨noDelimiter, noDigit, noName, noSeparator, -⟩ := Token.isSymbolStart_iff.1 start
    have run : (tail ++ rest).takeWhile (fun d => isOperatorChar d && d != '-') = tail :=
      takeWhile_append_of_ends (by simpa using all) (by
        intro c atFront
        rcases ends c atFront with other | rfl
        · simp [other]
        · simp)
    have notNegative : ¬ (first = '-' ∧ (tail ++ rest).head?.any Char.isDigit = true ∧
        opensOperand operators previous = true) := by
      rintro ⟨rfl, digit, opens⟩
      cases tail with
      | nil =>
        rw [unsigned rfl digit] at opens
        cases opens
      | cons c tail =>
        have noName := (Token.isOperatorChar_iff.1 (all c List.mem_cons_self).1).1
        have noDigit : c.isDigit = false := (Token.of_isIdentifierChar_eq_false noName).1
        simp [noDigit] at digit
    rw [List.cons_append, Cursor.tokenLength, if_neg noDelimiter, if_neg (by simp [noDigit]),
      if_neg (by simpa using notNegative), if_neg (by simp [noName]),
      if_neg (by simp [noSeparator])]
    dsimp only
    rw [run, if_pos registered, List.length_cons, Nat.add_comm]

/-- A token is not empty. -/
lemma ne_nil (leads : Leads operators previous token rest) : token ≠ [] := by
  rintro rfl
  cases leads with
  | numeral shape _ => cases shape.1
  | identifier shape _ => cases shape.1
  | operator shape _ _ _ => cases shape.1

/-- There is one token at the front of a text. -/
lemma unique (leads : Leads operators previous token rest) {other after : List Char}
    (leadsOther : Leads operators previous other after) (same : token ++ rest = other ++ after) :
    token = other ∧ rest = after := by
  have length := leads.tokenLength 0
  rw [same, leadsOther.tokenLength] at length
  exact List.append_inj same (Except.ok.inj length).symm

/-- **A token depends on the characters after it and on the token before it** only as far as needed:
another first character is as good if it is a break, and another token before if it opens an operand
or does not, as the first one. -/
lemma congr (leads : Leads operators previous token rest) {other : List Char}
    {earlier : Option String} (sameFollows : ∀ c ∈ other.head?, c ∈ rest.head? ∨ Token.isBreak c)
    (sameOpens : opensOperand operators earlier = opensOperand operators previous) :
    Leads operators earlier token other := by
  have ends {p : Char → Prop} (before : ∀ c ∈ rest.head?, p c)
      (atBreak : ∀ c, Token.isBreak c = true → p c) : ∀ c ∈ other.head?, p c := fun c atFront =>
    (sameFollows c atFront).elim (before c) (atBreak c)
  cases leads with
  | text escaped stop =>
    exact .text escaped (ends stop fun c isBreak => (Token.not_mem_of_isBreak isBreak).1)
  | numeral shape stop =>
    exact .numeral shape (ends stop fun c isBreak => (Token.not_mem_of_isBreak isBreak).2.1)
  | negative opens shape stop =>
    exact .negative (sameOpens.trans opens) shape
      (ends stop fun c isBreak => (Token.not_mem_of_isBreak isBreak).2.1)
  | identifier shape stop =>
    exact .identifier shape (ends stop fun c isBreak => (Token.not_mem_of_isBreak isBreak).2.2.1)
  | separator shape => exact .separator shape
  | operator shape registered stop unsigned =>
    have endsRest := ends stop fun c isBreak => .inl (Token.not_mem_of_isBreak isBreak).2.2.2
    refine .operator shape registered endsRest fun minus digit => ?_
    rw [sameOpens]
    refine unsigned minus ?_
    cases head : other.head? with
    | none => simp [head] at digit
    | some c =>
      rw [head, Option.any_some] at digit
      rcases sameFollows c head with atFront | isBreak
      · rwa [Option.mem_def.1 atFront, Option.any_some]
      · have noName := (Token.not_mem_of_isBreak isBreak).2.2.1
        rw [(Token.of_isIdentifierChar_eq_false noName).1] at digit
        cases digit

/-- A token neither begins nor ends with a blank. -/
lemma isBlank_eq_false (leads : Leads operators previous token rest) :
    (∀ c ∈ token.head?, Unicode.isBlank c = false) ∧
      ∀ c ∈ token.getLast?, Unicode.isBlank c = false := by
  have name : ∀ c, Token.isIdentifierChar c = true → Unicode.isBlank c = false := fun c =>
    Token.isBlank_eq_false_of_isIdentifierChar
  have numeral : ∀ c, Token.isNumeralChar c = true → Unicode.isBlank c = false := by
    intro c isNumeral
    rcases Token.isNumeralChar_iff.1 isNumeral with digit | rfl
    · exact name c (Token.isIdentifierChar_of_isDigit digit).1
    · decide
  cases leads with
  | @text content _ escaped ends =>
    have last : (enclose content).getLast? = some delimiter := List.getLast?_concat ..
    rw [last]
    constructor <;> · rintro c ⟨rfl⟩; decide
  | numeral shape ends =>
    exact ⟨fun c first => numeral c (shape.2 c (List.mem_of_head? first)),
      fun c last => numeral c (shape.2 c (List.mem_of_getLast? last))⟩
  | @negative digits _ opens shape ends =>
    refine ⟨by rintro c ⟨rfl⟩; decide, fun c last => numeral c (shape.2 c ?_)⟩
    obtain ⟨digit, more, rfl, -⟩ := shape.exists_cons
    exact List.mem_of_getLast? (by simpa using last)
  | identifier shape ends =>
    exact ⟨fun c first => name c (shape.2 c (List.mem_of_head? first)),
      fun c last => name c (shape.2 c (List.mem_of_getLast? last))⟩
  | separator shape =>
    constructor <;>
    · rintro c ⟨rfl⟩
      rcases Token.isSeparator_iff.1 shape with rfl | rfl | rfl <;> decide
  | operator shape registered ends unsigned =>
    obtain ⟨first, tail, rfl, start, all⟩ := shape.exists_cons
    obtain ⟨-, -, -, -, noBlank⟩ := Token.isSymbolStart_iff.1 start
    refine ⟨by rintro c ⟨rfl⟩; exact noBlank, fun c last => ?_⟩
    rcases List.mem_cons.1 (List.mem_of_getLast? last) with rfl | later
    · exact noBlank
    · exact (Token.isOperatorChar_iff.1 (all c later).1).2.1

end Leads

/-- A text begins with a run of characters of one class, which may be empty. -/
lemma exists_run (p : Char → Bool) (text : List Char) :
    ∃ run rest, text = run ++ rest ∧ text.takeWhile p = run ∧ (∀ c ∈ run, p c = true) ∧
      ∀ c ∈ rest.head?, p c = false := by
  refine ⟨text.takeWhile p, text.dropWhile p, List.takeWhile_append_dropWhile.symm, rfl,
    fun c member => List.mem_takeWhile_imp member, fun c atFront => ?_⟩
  have stops := List.head?_dropWhile_not p text
  rw [Option.mem_def.1 atFront] at stops
  exact stops

/-- No token stands at the front of a text at a position, and the fault says why and where. An
operator is not known from its first character on. A text literal that is not closed ends at the end
of the source, and one that another delimiter follows ends with the delimiter that closes it. -/
inductive Breaks (operators : OperatorTable) (position : Nat) : List Char → Fault → Prop
  | operator {symbol rest : List Char} (shape : Token.IsSymbol symbol)
    (unregistered : operators.contains (String.ofList symbol) = false) :
    Breaks operators position (symbol ++ rest)
      (.unknownOperator (String.ofList symbol) (position + 1))
  | unclosed {content : List Char} (unclosed : Unclosed content) :
    Breaks operators position (delimiter :: content)
      (.textBoundary (position + (delimiter :: content).length))
  | doubled {content rest : List Char} (escaped : Escaped content) :
    Breaks operators position (enclose content ++ delimiter :: rest)
      (.textBoundary (position + (enclose content).length))

/-- What the cursor does at the front of a text: it takes the token there, or it finds that none
stands there. -/
def Decides (operators : OperatorTable) (previous : Option String) (position : Nat)
    (text : List Char) : Prop :=
  (∃ token rest, text = token ++ rest ∧
      tokenLength operators previous position text = .ok token.length ∧
        Leads operators previous token rest) ∨
    ∃ fault, tokenLength operators previous position text = .error fault ∧
      Breaks operators position text fault

/-- At a delimiter there is a text that is closed by one delimiter, or none. -/
lemma decides_delimiter (operators : OperatorTable) (previous : Option String) (position : Nat)
    (text : List Char) : Decides operators previous position (delimiter :: text) := by
  rw [Decides, tokenLength, if_pos rfl]
  cases closes : closingDistance delimiter text with
  | none =>
    have atEnd : position + 1 + text.length = position + (delimiter :: text).length := by
      rw [List.length_cons]
      omega
    refine .inr ⟨_, rfl, ?_⟩
    rw [atEnd]
    exact .unclosed (closingDistance_eq_none_iff.1 closes)
  | some distance =>
    obtain ⟨content, rest, rfl, rfl, escaped⟩ := closingDistance_delimiter_eq_some_iff.1 closes
    have after : (content ++ delimiter :: rest).drop (content.length + 1) = rest := by simp
    have enclosed : (enclose content).length = content.length + 2 := by simp [enclose]
    have split : delimiter :: (content ++ delimiter :: rest) = enclose content ++ rest := by
      simp [enclose]
    simp only [after, split]
    by_cases doubled : rest.head? = some delimiter
    · obtain ⟨rest, rfl⟩ := List.head?_eq_some_iff.1 doubled
      have atEnd : position + 1 + (content.length + 1) = position + (enclose content).length := by
        omega
      refine .inr ⟨_, if_pos doubled, ?_⟩
      rw [atEnd]
      exact .doubled escaped
    · refine .inl ⟨enclose content, rest, rfl, ?_, .text escaped ?_⟩
      · rw [if_neg doubled, enclosed, Nat.add_comm]
      · rintro c atFront rfl
        exact doubled atFront

/-- A minus sign and the run of digits behind it are a numeral where an operand may begin. -/
lemma Leads.exists_negative {text : List Char} (opens : opensOperand operators previous = true)
    (first : text.head?.any Char.isDigit = true) :
    ∃ token rest, '-' :: text = token ++ rest ∧
      1 + (text.takeWhile Token.isNumeralChar).length = token.length ∧
        Leads operators previous token rest := by
  obtain ⟨digits, rest, split, run, all, ends⟩ := exists_run Token.isNumeralChar text
  obtain ⟨digit, more, rfl, isDigit⟩ := Token.exists_cons_of_any_head? first
  rw [List.takeWhile_cons_of_pos (Token.isNumeralChar_iff.2 (.inl isDigit))] at run
  have begins : digits.head?.any Char.isDigit = true := by simpa [← run] using isDigit
  refine ⟨'-' :: digits, rest, by rw [split, List.cons_append], ?_,
    .negative opens ⟨begins, all⟩ ends⟩
  rw [List.takeWhile_cons_of_pos (Token.isNumeralChar_iff.2 (.inl isDigit)), run,
    List.length_cons, Nat.add_comm]

/-- **The cursor takes the token at the front, or none stands there**, at a character that is not
blank.

**Proof sketch.** The branches of the cursor in their order. A branch is taken when the first
character begins no token of the kinds before it, and the run of characters taken ends where the
shape of the token cannot go on. -/
theorem tokenLength_cases {c : Char} (notBlank : Unicode.isBlank c = false)
    (operators : OperatorTable) (previous : Option String) (position : Nat) (text : List Char) :
    Decides operators previous position (c :: text) := by
  by_cases isDelimiter : c = delimiter
  · rw [isDelimiter]
    exact decides_delimiter operators previous position text
  rw [Decides, tokenLength, if_neg isDelimiter]
  by_cases digit : c.isDigit = true
  · obtain ⟨digits, rest, rfl, run, all, ends⟩ := exists_run Token.isNumeralChar text
    rw [if_pos digit, run]
    refine .inl ⟨c :: digits, rest, rfl, ?_, .numeral ⟨?_, ?_⟩ ends⟩
    · rw [List.length_cons, Nat.add_comm]
    · simpa using digit
    · exact List.forall_mem_cons.2 ⟨Token.isNumeralChar_iff.2 (.inl digit), all⟩
  rw [if_neg digit]
  by_cases sign : c = '-' ∧ text.head?.any Char.isDigit = true ∧
      opensOperand operators previous = true
  · rw [if_pos (by simpa [and_assoc] using sign)]
    obtain ⟨rfl, first, opens⟩ := sign
    obtain ⟨token, rest, split, length, leads⟩ := Leads.exists_negative opens first
    exact .inl ⟨token, rest, split, by rw [length], leads⟩
  rw [if_neg (by simpa [and_assoc] using sign)]
  by_cases name : Token.isIdentifierStart c = true
  · obtain ⟨more, rest, rfl, run, all, ends⟩ := exists_run Token.isIdentifierChar text
    rw [if_pos name, run]
    refine .inl ⟨c :: more, rest, rfl, ?_, .identifier ⟨?_, ?_⟩ ends⟩
    · rw [List.length_cons, Nat.add_comm]
    · simpa using name
    · exact List.forall_mem_cons.2 ⟨Token.isIdentifierChar_of_isIdentifierStart name, all⟩
  rw [if_neg name]
  by_cases separator : Token.isSeparator c = true
  · rw [if_pos separator]
    exact .inl ⟨[c], text, rfl, rfl, .separator separator⟩
  rw [if_neg separator]
  obtain ⟨tail, rest, rfl, run, all, ends⟩ :=
    exists_run (fun d => isOperatorChar d && d != '-') text
  have shape : Token.IsSymbol (c :: tail) := by
    refine ⟨?_, by simpa using all⟩
    simp [Token.isSymbolStart, isDelimiter, digit, name, separator, notBlank]
  dsimp only
  rw [run, ← List.cons_append]
  by_cases registered : operators.contains (String.ofList (c :: tail)) = true
  · rw [if_pos registered]
    refine .inl ⟨c :: tail, rest, rfl, ?_, .operator shape registered ?_ ?_⟩
    · rw [List.length_cons, Nat.add_comm]
    · intro d atFront
      have stop := ends d atFront
      rw [Bool.and_eq_false_iff, bne_eq_false_iff_eq] at stop
      exact stop
    · intro minus next
      obtain ⟨rfl, rfl⟩ := List.cons.inj minus
      rw [Bool.eq_false_iff]
      exact fun opens => sign ⟨rfl, next, opens⟩
  · rw [if_neg registered]
    exact .inr ⟨_, rfl, .operator shape (Bool.eq_false_iff.2 registered)⟩

end Cursor

end Formula
