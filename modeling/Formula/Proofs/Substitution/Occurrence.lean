import Formula.Proofs.Substitution.Word
import Formula.Proofs.Token.Splitting

set_option autoImplicit false

/-!
# Substitution and tokens

Substitution looks for a name as a whole word and does not know the tokens of the source. In a
source of ASCII characters without text literals the two agree: an identifier is found just where it
is a token. Inside of other tokens and between tokens no word begins, a longer identifier is a
longer word, and the character before a token of the name belongs to no word unless it ends a
numeral. So the tokens of the rewritten source are those of the source, with the tokens of the
replacement in parentheses in the place of the name.

## Main definitions

* `Formula.Substitution.IsAscii` — all characters of a text are ASCII characters.
* `Formula.Substitution.expand` — a token, or what takes the place of a name.
* `Formula.Substitution.WordEnds` — no word goes on from the character before a text.

## Main results

* `Formula.Substitution.replace_self`, `replace_append_of_isName` — a token of the name is replaced,
  and another identifier stays as it is.
* `Formula.Splits.replace` — the tokens of a text in which a name is replaced.
-/

namespace Formula

/-! ## ASCII characters -/

namespace Unicode

variable {c d : Char}

/-- The words of ASCII characters are made of the characters of identifiers. -/
lemma isWordChar_of_ascii (ascii : c.toNat < 0x80) : isWordChar c = Token.isIdentifierChar c :=
  forall_ascii (p := fun c => isWordChar c = Token.isIdentifierChar c) (by decide +kernel) ascii

/-- Within ASCII, an identifier goes on with letters, underscores and digits. -/
lemma isIdentifierChar_of_ascii (ascii : c.toNat < 0x80) :
    Token.isIdentifierChar c = (Token.isIdentifierStart c || c.isDigit) :=
  forall_ascii (p := fun c => Token.isIdentifierChar c = (Token.isIdentifierStart c || c.isDigit))
    (by decide +kernel) ascii

/-- Of characters that are alike, either both begin identifiers or none does. -/
lemma isIdentifierStart_of_alike (asciiC : c.toNat < 0x80) (asciiD : d.toNat < 0x80)
    (same : alike c d = true) : Token.isIdentifierStart d = Token.isIdentifierStart c := by
  have lower : ∀ {c : Char}, c.toNat < 0x80 →
      Token.isIdentifierStart c = Token.isIdentifierStart c.toLower := fun ascii =>
    forall_ascii (p := fun c => Token.isIdentifierStart c = Token.isIdentifierStart c.toLower)
      (by decide +kernel) ascii
  rw [alike, fold_of_ascii asciiC, fold_of_ascii asciiD, beq_iff_eq] at same
  rw [lower asciiC, lower asciiD, same]

end Unicode

namespace Substitution

open Unicode

variable {name replacement front back text : List Char} {before : Option Char} {c : Char}

/-- All characters of a text are ASCII characters. -/
def IsAscii (text : List Char) : Prop := ∀ c ∈ text, c.toNat < 0x80

/-- It is decided character by character whether a text is ASCII. -/
instance (text : List Char) : Decidable (IsAscii text) :=
  decidable_of_iff (text.all (fun c => c.toNat < 0x80) = true) (by simp [IsAscii])

/-- A text is ASCII if both of its parts are. -/
lemma IsAscii.append_iff : IsAscii (front ++ back) ↔ IsAscii front ∧ IsAscii back :=
  List.forall_mem_append

/-! ## Names in ASCII texts -/

/-- ASCII texts that are alike are equal in lower case. -/
lemma map_toLower_of_alike (asciiName : IsAscii name) (asciiText : IsAscii text)
    (same : Alike name text) : text.map Char.toLower = name.map Char.toLower := by
  have folded : ∀ {text : List Char}, IsAscii text → text.map fold = text.map Char.toLower :=
    fun ascii => List.map_congr_left fun c member => fold_of_ascii (ascii c member)
  rw [← folded asciiText, ← folded asciiName, same]

/-- An identifier of ASCII characters is a word. -/
lemma isWord_of_isName (shape : Token.IsName name) (ascii : IsAscii name) : IsWord name := by
  refine ⟨?_, fun c member => ?_⟩
  · obtain ⟨first, more, rfl, -⟩ := shape.exists_cons
    exact List.cons_ne_nil first more
  · rw [isWordChar_of_ascii (ascii c member), shape.2 c member]

/-- A word ends in front of an ASCII text where an identifier does. -/
lemma holdsWordChar_head?_eq_false (ascii : IsAscii text)
    (ends : ∀ c ∈ text.head?, Token.isIdentifierChar c = false) :
    holdsWordChar text.head? = false := by
  cases text with
  | nil => rfl
  | cons c text =>
    rw [List.head?_cons, holdsWordChar_some, isWordChar_of_ascii (ascii c List.mem_cons_self),
      ends c rfl]

section

variable (shape : Token.IsName name) (asciiName : IsAscii name)

include shape asciiName

/-- A name does not occur where no identifier begins. -/
lemma occursAt_eq_false_of_start (asciiC : c.toNat < 0x80)
    (noStart : Token.isIdentifierStart c = false) (before : Option Char) (text : List Char) :
    occursAt name before (c :: text) = false := by
  obtain ⟨first, name, rfl, start⟩ := shape.exists_cons
  have different : alike first c = false := by
    rw [Bool.eq_false_iff]
    intro same
    have asciiFirst := asciiName first List.mem_cons_self
    rw [isIdentifierStart_of_alike asciiFirst asciiC same, start] at noStart
    cases noStart
  rw [occursAt, beginsWith, different, Bool.false_and, Bool.false_and, Bool.false_and]

/-- What begins no identifier stays as it is. -/
lemma replace_append_of_start (asciiFront : IsAscii front)
    (noStart : ∀ c ∈ front, Token.isIdentifierStart c = false) :
    replace name replacement 0 before (front ++ back) =
      front ++ replace name replacement 0 (front.getLast?.or before) back := by
  refine replace_append_of_nowhere fun start c more split => ?_
  have member : c ∈ front := by simp [split]
  exact occursAt_eq_false_of_start shape asciiName (asciiFront c member) (noStart c member) _ _

/-- A text in which no identifier begins is not changed. -/
lemma replace_of_start (asciiText : IsAscii text)
    (noStart : ∀ c ∈ text, Token.isIdentifierStart c = false) :
    replace name replacement 0 before text = text := by
  have stays : replace name replacement 0 before (text ++ []) = text ++ _ :=
    replace_append_of_start shape asciiName asciiText noStart
  rwa [replace_nil (isWord_of_isName shape asciiName), List.append_nil] at stays

/-- **A token of the name is replaced**, if the character before it belongs to no word. -/
lemma replace_self (free : holdsWordChar before = false) (asciiText : IsAscii text)
    (ends : ∀ c ∈ text.head?, Token.isIdentifierChar c = false) :
    replace name replacement 0 before (name ++ text) =
      replacement ++ replace name replacement 0 none text := by
  have isName := isWord_of_isName shape asciiName
  rw [replace_word_append isName isName free (holdsWordChar_head?_eq_false asciiText ends),
    if_pos (Alike.refl name)]

/-- **Another identifier stays as it is.** -/
lemma replace_append_of_isName {token : List Char} (isName : Token.IsName token)
    (asciiToken : IsAscii token) (asciiText : IsAscii text)
    (ends : ∀ c ∈ text.head?, Token.isIdentifierChar c = false)
    (different : token.map Char.toLower ≠ name.map Char.toLower) :
    replace name replacement 0 before (token ++ text) =
      token ++ replace name replacement 0 (token.getLast?.or before) text := by
  have isWord := isWord_of_isName shape asciiName
  have wordEnds := holdsWordChar_head?_eq_false asciiText ends
  have noMatch : ¬ Alike name token := mt (map_toLower_of_alike asciiName asciiToken) different
  rw [replace_append_of_not_alike isWord (isWord_of_isName isName asciiToken) wordEnds noMatch]
  exact congrArg (token ++ ·) (replace_of_ends isWord wordEnds).symm

end

/-- What takes the place of a token: a list of tokens for the name, the token itself otherwise. -/
def expand (name : String) (replacement : List String) (token : String) : List String :=
  if token = name then replacement else [token]

/-- No word goes on from the character before a text into an identifier, except for a numeral. -/
def WordEnds (previous : Option String) (before : Option Char) (text : List Char) : Prop :=
  holdsWordChar before = true →
    (∃ earlier ∈ previous, Token.isNumeral earlier = true) ∨
      ∀ c ∈ text.head?, Token.isIdentifierChar c = false

namespace WordEnds

variable {previous : Option String}

/-- There is no word before the beginning. -/
lemma start (text : List Char) : WordEnds previous none text := fun word => by cases word

/-- Blanks belong to no word. -/
lemma of_blanks {blanks : List Char} (ends : WordEnds previous before (blanks ++ text))
    (blank : ∀ c ∈ blanks, isBlank c = true) (ascii : IsAscii blanks) :
    WordEnds previous (blanks.getLast?.or before) text := by
  intro word
  obtain rfl | ⟨front, c, rfl⟩ := List.eq_nil_or_concat' blanks
  · exact ends word
  · rw [List.getLast?_concat, Option.some_or, holdsWordChar_some,
      isWordChar_of_ascii (ascii c (by simp)),
      Token.isIdentifierChar_of_isBlank (blank c (by simp))] at word
    cases word

/-- An identifier that is not next to a numeral begins a word. -/
lemma holdsWordChar_eq_false (ends : WordEnds previous before (name ++ text))
    (shape : Token.IsName name) (apart : ∀ earlier ∈ previous, Token.isNumeral earlier = false) :
    holdsWordChar before = false := by
  rw [Bool.eq_false_iff]
  intro word
  rcases ends word with ⟨earlier, isPrevious, numeral⟩ | noName
  · rw [apart earlier isPrevious] at numeral
    cases numeral
  · obtain ⟨first, more, rfl, start⟩ := shape.exists_cons
    rw [(Token.of_isIdentifierChar_eq_false (noName first rfl)).2] at start
    cases start

end WordEnds

end Substitution

/-- A list behind an optional element is a chain if the element is related to the first one. -/
lemma isChain_toList_append_cons {α : Type} {r : α → α → Prop} {earlier : Option α} {first : α}
    {rest : List α} : (earlier.toList ++ first :: rest).IsChain r ↔
      (∀ before ∈ earlier, r before first) ∧ (first :: rest).IsChain r := by
  cases earlier <;> simp [List.isChain_cons_cons]

/-! ## Tokens and words -/

open Substitution

variable {operators : OperatorTable} {previous : Option String} {text : List Char}
  {tokens : List String}

/-- **Where words are in a token**: an identifier is a word, and no word begins in any other token,
nor does one end there unless it is a numeral. -/
lemma Cursor.Leads.word_cases {token rest : List Char}
    (leads : Leads operators previous token rest) (ascii : IsAscii token)
    (noText : Delimited.delimiter ∉ token) :
    (∀ c ∈ token, Token.isIdentifierStart c = false) ∧
        (Token.isNumeral (String.ofList token) = true ∨
          ∀ c ∈ token, Unicode.isWordChar c = false) ∨
      Token.IsName token ∧ ∀ c ∈ rest.head?, Token.isIdentifierChar c = false := by
  have noStart : ∀ c, Token.isNumeralChar c = true → Token.isIdentifierStart c = false := by
    intro c isNumeral
    rcases Token.isNumeralChar_iff.1 isNumeral with digit | rfl
    · exact (Token.isIdentifierChar_of_isDigit digit).2
    · decide
  cases leads with
  | text escaped _ => exact absurd List.mem_cons_self noText
  | numeral shape _ =>
    exact .inl ⟨fun c member => noStart c (shape.2 c member), .inl shape.isNumeral.1⟩
  | negative _ shape _ =>
    exact .inl ⟨List.forall_mem_cons.2
      ⟨by decide, fun c member => noStart c (shape.2 c member)⟩, .inl shape.isNumeral.2⟩
  | identifier shape ends => exact .inr ⟨shape, ends⟩
  | @separator c _ shape =>
    refine .inl ⟨?_, .inr ?_⟩ <;>
    · rw [List.forall_mem_singleton]
      rcases Token.isSeparator_iff.1 shape with rfl | rfl | rfl <;> decide
  | operator shape _ _ _ =>
    have noWord : ∀ c ∈ token, Token.isIdentifierChar c = false := by
      obtain ⟨first, tail, rfl, start, all⟩ := shape.exists_cons
      obtain ⟨-, noDigit, noStart, -⟩ := Token.isSymbolStart_iff.1 start
      refine List.forall_mem_cons.2 ⟨?_, fun c member => ?_⟩
      · rw [Unicode.isIdentifierChar_of_ascii (ascii first List.mem_cons_self), noDigit, noStart]
        rfl
      · exact (Token.isOperatorChar_iff.1 (all c member).1).1
    refine .inl ⟨fun c member => ?_, .inr fun c member => ?_⟩
    · exact (Token.of_isIdentifierChar_eq_false (noWord c member)).2
    · rw [Unicode.isWordChar_of_ascii (ascii c member), noWord c member]

/-- An identifier ends where no character goes on with it. -/
lemma Cursor.Leads.ends_of_isName {token rest : List Char}
    (leads : Leads operators previous token rest) (shape : Token.IsName token)
    (ascii : IsAscii token) : ∀ c ∈ rest.head?, Token.isIdentifierChar c = false := by
  have noText : Delimited.delimiter ∉ token := fun member =>
    absurd (shape.2 _ member) (by decide)
  rcases leads.word_cases ascii noText with ⟨noStart, -⟩ | ⟨-, ends⟩
  · obtain ⟨c, token, rfl, start⟩ := shape.exists_cons
    rw [noStart c List.mem_cons_self] at start
    cases start
  · exact ends

/-- **A token other than the name stays as it is**, and no word goes on from it. -/
lemma Cursor.Leads.replace_append {token rest : List Char}
    (leads : Leads operators previous token rest) {name replacement : List Char}
    (shape : Token.IsName name) (asciiName : IsAscii name) (asciiToken : IsAscii token)
    (asciiRest : IsAscii rest) (noText : Delimited.delimiter ∉ token)
    (different : token.map Char.toLower ≠ name.map Char.toLower) (before : Option Char) :
    Substitution.replace name replacement 0 before (token ++ rest) =
        token ++ Substitution.replace name replacement 0 (token.getLast?.or before) rest ∧
      WordEnds (some (String.ofList token)) (token.getLast?.or before) rest := by
  rcases leads.word_cases asciiToken noText with ⟨noStart, numeral | noWord⟩ | ⟨isWord, ends⟩
  · exact ⟨replace_append_of_start shape asciiName asciiToken noStart,
      fun _ => .inl ⟨_, rfl, numeral⟩⟩
  · refine ⟨replace_append_of_start shape asciiName asciiToken noStart, fun word => ?_⟩
    obtain ⟨front, last, rfl⟩ := (List.eq_nil_or_concat' token).resolve_left leads.ne_nil
    rw [List.getLast?_concat, Option.some_or, holdsWordChar_some, noWord last (by simp)] at word
    cases word
  · refine ⟨?_, fun _ => .inr ends⟩
    exact replace_append_of_isName shape asciiName isWord asciiToken asciiRest ends different

/-- A minus sign after a group is an operator, as it is after an identifier. -/
lemma Token.IsName.opensOperand_eq {name : String} (shape : IsName name.toList)
    (noOperator : operators.contains name = false)
    (noClosing : operators.contains rightParen = false) :
    Cursor.opensOperand operators (some rightParen) =
      Cursor.opensOperand operators (some name) := by
  obtain ⟨⟨noLeft, -, noComma⟩, -, -⟩ := shape.other
  rw [Cursor.opensOperand, Cursor.opensOperand, noOperator, noClosing,
    beq_eq_false_iff_ne.2 noLeft, beq_eq_false_iff_ne.2 noComma]
  decide

namespace Splits

section

variable {name : String} (shape : Token.IsName name.toList) (asciiName : IsAscii name.toList)
  (noOperator : operators.contains name = false)
  (noClosing : operators.contains Token.rightParen = false)
  {source : List Char} {replacement : List String}
  (splitsSource : Splits operators none source replacement)

include shape asciiName noOperator noClosing splitsSource in
/-- **The tokens of a text in which a name is replaced** are those of the text, with the tokens of
the replacement in parentheses in the place of the name.

**Proof sketch.** Induction on the tokens of the text, with the character before the rest of the
text. If this belongs to a word, a numeral ends with it or no identifier begins after it. A token of
the name is not the first one after a numeral, so it is an occurrence of the name. Another token
ends at the same place as before, also in front of a parenthesis. -/
theorem replace (splits : Splits operators previous text tokens) (ascii : IsAscii text)
    (noText : Delimited.delimiter ∉ text)
    (single : ∀ token ∈ tokens,
      token.toList.map Char.toLower = name.toList.map Char.toLower → token = name)
    (apart : (previous.toList ++ tokens).IsChain fun earlier token =>
      token = name → Token.isNumeral earlier = false)
    {before : Option Char} (free : WordEnds previous before text) {earlier : Option String}
    (sameOpens : Cursor.opensOperand operators earlier = Cursor.opensOperand operators previous) :
    Splits operators earlier
      (Substitution.replace name.toList ('(' :: source ++ [')']) 0 before text)
      (tokens.flatMap
        (expand name (Token.leftParen :: replacement ++ [Token.rightParen]))) := by
  have noStart : ∀ c, Unicode.isBlank c = true → Token.isIdentifierStart c = false := fun c blank =>
    (Token.of_isIdentifierChar_eq_false (Token.isIdentifierChar_of_isBlank blank)).2
  induction splits generalizing before earlier with
  | done blank =>
    rw [replace_of_start shape asciiName ascii fun c member => noStart c (blank c member)]
    exact .done blank
  | @token previous blanks token rest tokens blank leads _ ih =>
    obtain ⟨asciiBlanks, asciiBoth⟩ := IsAscii.append_iff.1 ascii
    obtain ⟨asciiToken, asciiRest⟩ := IsAscii.append_iff.1 asciiBoth
    simp only [List.mem_append, not_or] at noText
    obtain ⟨-, noTextToken, noTextRest⟩ := noText
    obtain ⟨singleToken, singleRest⟩ := List.forall_mem_cons.1 single
    obtain ⟨apartToken, apartRest⟩ := isChain_toList_append_cons.1 apart
    have freeToken := free.of_blanks blank asciiBlanks
    rw [List.flatMap_cons, replace_append_of_start shape asciiName asciiBlanks
      fun c member => noStart c (blank c member)]
    by_cases isName : String.ofList token = name
    · obtain rfl : token = name.toList := by rw [← isName, String.toList_ofList]
      have ends := leads.ends_of_isName shape asciiName
      have notWord := freeToken.holdsWordChar_eq_false shape fun earlier isPrevious =>
        apartToken earlier isPrevious isName
      rw [replace_self shape asciiName notWord asciiRest ends, isName, expand, if_pos rfl]
      rw [isName] at ih apartRest
      exact parenthesized splitsSource blank (ih asciiRest noTextRest singleRest apartRest
        (.start rest) (shape.opensOperand_eq noOperator noClosing))
    · have different : token.map Char.toLower ≠ name.toList.map Char.toLower := fun same =>
        isName (singleToken (by rwa [String.toList_ofList]))
      obtain ⟨stays, freeRest⟩ := leads.replace_append shape asciiName asciiToken asciiRest
        noTextToken different (blanks.getLast?.or before)
      rw [stays, expand, if_neg isName]
      refine .token blank (leads.congr (fun c atFront => ?_) sameOpens)
        (ih asciiRest noTextRest singleRest apartRest freeRest rfl)
      rcases mem_head?_replace (isWord_of_isName shape asciiName) atFront with same | rfl
      · exact .inl same
      · exact .inr (by decide)

end

end Splits

end Formula
