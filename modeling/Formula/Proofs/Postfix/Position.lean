import Formula.Proofs.Infix.Acceptance
import Formula.Proofs.Token.Cutting

set_option autoImplicit false

/-!
# Positions in messages

Three faults of a source name a position. The message tells which fault it is, and the position
tells where it is in the trimmed source: an operator that is not known begins there, a parenthesis
that follows a numeral stands there, and a text literal that is not closed or that another delimiter
follows ends there. The first and the last are found by the cursor and the second by the yard, but
each of them comes after the tokens that have been handled, and these are the tokens of the text in
front.

## Main definitions

* `Formula.Fault.position?` — the position that a fault names.
* `Formula.FailsAfter` — the lexemes that have been handled when a source fails.
* `Formula.HandledBefore` — the text in front of a fault.

## Main results

* `Formula.Fault.eq_of_message_eq` — a fault that names a position is told by its message.
* `Formula.Yard.accept_eq_error`, `acceptAll_eq_error` — why the yard refuses a token.
* `Formula.toPostfix_eq_error` — where a source fails.
* `Formula.exists_breaks_of_toPostfix`, `exists_leftParen_of_toPostfix` — the place of a fault that
  the cursor finds, and of one that the yard finds.
* `Formula.toPostfix_error_position` — what stands at the position in a message.
-/

namespace Formula

/-! ## The fault that a message tells -/

namespace Fault

/-- A number behind a blank at the end of a text is told from the text. -/
lemma append_number_injective {front other : List Char} {m n : Nat}
    (same : front ++ ' ' :: m.repr.toList = other ++ ' ' :: n.repr.toList) :
    front = other ∧ m = n := by
  have digits (n : Nat) (rest : List Char) :
      (n.repr.toList.reverse ++ ' ' :: rest).takeWhile Char.isDigit = n.repr.toList.reverse := by
    refine Cursor.takeWhile_append_of_ends (fun c member => ?_) (by rintro c ⟨rfl⟩; decide)
    rw [List.mem_reverse, Nat.toList_repr] at member
    exact Nat.isDigit_of_mem_toDigits (by decide) (by decide) member
  have ends := congrArg (fun text => text.reverse.takeWhile Char.isDigit) same
  simp only [List.reverse_append, List.reverse_cons, List.append_assoc, List.singleton_append,
    digits, List.reverse_inj] at ends
  rw [ends] at same
  refine ⟨List.append_cancel_right same, ?_⟩
  rw [Nat.toList_repr, Nat.toList_repr] at ends
  rw [← Nat.ofDigitChars_toDigits (n := m) (by decide) (by decide : 10 ≤ 10), ends,
    Nat.ofDigitChars_toDigits (by decide) (by decide)]

/-- The position that a fault names. -/
def position? : Fault → Option Nat
  | unknownOperator _ position | textBoundary position | missingOperator position => some position
  | _ => none

/-- The message on an unknown operator ends with its position. -/
lemma toList_unknownOperator (symbol : String) (position : Nat) :
    (unknownOperator symbol position).message.toList =
      "Unknown operator '".toList ++ (symbol.toList ++ "' at position".toList) ++
        ' ' :: position.repr.toList := by
  show ("Unknown operator '" ++ symbol ++ "' at position " ++ position.repr).toList = _
  simp

/-- The message on a text without end ends with its position. -/
lemma toList_textBoundary (position : Nat) : (textBoundary position).message.toList =
    "Invalid string boundary at position".toList ++ ' ' :: position.repr.toList := by
  show ("Invalid string boundary at position " ++ position.repr).toList = _
  simp

/-- The message on a missing operator ends with its position. -/
lemma toList_missingOperator (position : Nat) : (missingOperator position).message.toList =
    "Missing operator at character position".toList ++ ' ' :: position.repr.toList := by
  show ("Missing operator at character position " ++ position.repr).toList = _
  simp

/-- How the messages of the other faults of grammar begin. -/
lemma toList_of_position?_eq_none {fault : Fault} (grammar : fault.kind = .grammar)
    (noPosition : fault.position? = none) : ∃ rest, fault.message.toList = 'P' :: rest ∨
      fault.message.toList = 'M' :: 'i' :: 's' :: 'm' :: rest ∨
      fault.message.toList = "Unknown operator o".toList ++ rest := by
  cases fault with
  | strayComma name =>
    cases name with
    | none => exact ⟨_, .inl rfl⟩
    | some name =>
      refine ⟨"arse error for function '".toList ++ name.toList ++ ['\''], .inl ?_⟩
      show ("Parse error for function '" ++ name ++ "'").toList = _
      simp
  | mismatchedParentheses => exact ⟨_, .inr (.inl rfl)⟩
  | unknownName token =>
    refine ⟨"r function '".toList ++ token.toList ++ ['\''], .inr (.inr ?_)⟩
    show ("Unknown operator or function '" ++ token ++ "'").toList = _
    simp
  | unknownOperator | textBoundary | missingOperator => cases noPosition
  | _ => cases grammar

/-- **A fault that names a position is told by its message** among the faults of grammar. -/
theorem eq_of_message_eq {fault other : Fault} (grammar : fault.kind = .grammar)
    (positioned : other.position? ≠ none) (same : fault.message = other.message) :
    fault = other := by
  have chars := congrArg String.toList same
  by_cases noPosition : fault.position? = none
  · obtain ⟨rest, begins⟩ := toList_of_position?_eq_none grammar noPosition
    rw [chars] at begins
    cases other with
    | unknownOperator => simp [toList_unknownOperator] at begins
    | textBoundary => simp [toList_textBoundary] at begins
    | missingOperator => simp [toList_missingOperator] at begins
    | _ => exact absurd rfl positioned
  · cases fault with
    | unknownOperator symbol position =>
      cases other with
      | unknownOperator =>
        rw [toList_unknownOperator, toList_unknownOperator] at chars
        obtain ⟨symbols, rfl⟩ := append_number_injective chars
        have sameSymbol := List.append_cancel_right (List.append_cancel_left symbols)
        rw [String.toList_inj.1 sameSymbol]
      | textBoundary => simp [toList_unknownOperator, toList_textBoundary] at chars
      | missingOperator => simp [toList_unknownOperator, toList_missingOperator] at chars
      | _ => exact absurd rfl positioned
    | textBoundary position =>
      cases other with
      | unknownOperator => simp [toList_textBoundary, toList_unknownOperator] at chars
      | textBoundary =>
        rw [toList_textBoundary, toList_textBoundary] at chars
        rw [(append_number_injective chars).2]
      | missingOperator => simp [toList_textBoundary, toList_missingOperator] at chars
      | _ => exact absurd rfl positioned
    | missingOperator position =>
      cases other with
      | unknownOperator => simp [toList_missingOperator, toList_unknownOperator] at chars
      | textBoundary => simp [toList_missingOperator, toList_textBoundary] at chars
      | missingOperator =>
        rw [toList_missingOperator, toList_missingOperator] at chars
        rw [(append_number_injective chars).2]
      | _ => exact absurd rfl positioned
    | _ => exact absurd rfl noPosition

end Fault

variable {symbols : Symbols} {source : String} {fault : Fault}

/-! ## Why the yard refuses a token -/

namespace Yard

variable {yard : Yard} {lexeme : Lexeme}

/-- **Why a token is refused**: it is a left parenthesis after a numeral, or it is out of place in a
way that no position tells. -/
lemma accept_eq_error (refused : yard.accept symbols lexeme = .error fault) :
    (fault = .missingOperator lexeme.stop ∧ lexeme.token = Token.leftParen ∧
        yard.previous = some .numeral) ∨
      (fault.kind = .grammar ∧ fault.position? = none) := by
  unfold accept at refused
  cases kind : symbols.classify lexeme.token <;> simp only [kind] at refused
  case numeral | text | boundName | function | freeName | operator | unknown => cases refused
  case comma =>
    right
    unfold closeArgument at refused
    simp only at refused
    split at refused
    · obtain rfl := Except.error.inj refused
      exact ⟨rfl, rfl⟩
    · cases refused
  case rightParen =>
    right
    unfold closeGroup at refused
    simp only at refused
    split at refused
    · obtain rfl := Except.error.inj refused
      exact ⟨rfl, rfl⟩
    · split at refused
      · split at refused <;> cases refused
      · cases refused
  case leftParen =>
    left
    unfold openGroup at refused
    split at refused
    case h_1 numeral =>
      obtain rfl := Except.error.inj refused
      exact ⟨rfl, Symbols.classify_eq_leftParen_iff.1 kind, numeral⟩
    · cases refused
    · cases refused

/-- **A list of tokens is refused at one of them**, after those in front of it have been
accepted. -/
lemma acceptAll_eq_error {lexemes : List Lexeme}
    (failed : yard.acceptAll symbols lexemes = .error fault) :
    ∃ first next more before, lexemes = first ++ next :: more ∧
      yard.acceptAll symbols first = .ok before ∧ before.accept symbols next = .error fault := by
  induction lexemes generalizing yard with
  | nil => cases failed
  | cons lexeme rest ih =>
    rw [acceptAll] at failed
    cases accepted : yard.accept symbols lexeme with
    | error other =>
      rw [accepted] at failed
      obtain rfl := Except.error.inj failed
      exact ⟨[], lexeme, rest, yard, rfl, rfl, accepted⟩
    | ok next =>
      rw [accepted] at failed
      obtain ⟨first, refusedAt, more, before, rfl, run, refused⟩ := ih failed
      refine ⟨lexeme :: first, refusedAt, more, before, rfl, ?_, refused⟩
      rw [acceptAll, accepted]
      exact run

/-- The kind of the token before is that of the last token. -/
lemma previous_acceptAll {lexemes : List Lexeme}
    (run : empty.acceptAll symbols lexemes = .ok yard) :
    yard.previous = (lexemes.map Lexeme.token).getLast?.map symbols.classify := by
  obtain rfl | ⟨front, last, rfl⟩ := List.eq_nil_or_concat' lexemes
  · obtain rfl := Except.ok.inj run
    rfl
  · rw [acceptAll_append] at run
    obtain ⟨before, -, run⟩ := Fault.bind_eq_ok_iff.1 run
    obtain ⟨after, accepted, same⟩ := Fault.bind_eq_ok_iff.1 run
    obtain rfl := Except.ok.inj same
    rw [previous_accept accepted]
    simp

/-- At the end of the source no position tells what is wrong. -/
lemma drain_eq_error {output stack : List String}
    (failed : drain symbols output stack = .error fault) :
    fault.kind = .grammar ∧ fault.position? = none := by
  induction stack generalizing output with
  | nil => cases failed
  | cons waiting stack ih =>
    rw [drain] at failed
    split at failed
    · obtain rfl := Except.error.inj failed
      exact ⟨rfl, rfl⟩
    · obtain rfl := Except.error.inj failed
      exact ⟨rfl, rfl⟩
    · exact ih failed
    · obtain rfl := Except.error.inj failed
      exact ⟨rfl, rfl⟩

end Yard

/-! ## Where a source fails -/

/-- The lexemes that have been handled when a source fails: the yard has accepted them, and then
either the scan ends with the fault or the yard refuses the next lexeme. -/
inductive FailsAfter (symbols : Symbols) (source : String) (fault : Fault) : List Lexeme → Prop
  | scan {lexemes : List Lexeme} {yard : Yard}
    (scanned : Scan.ofSource symbols.operators source = ⟨lexemes, some fault⟩)
    (run : Yard.empty.acceptAll symbols lexemes = .ok yard) :
    FailsAfter symbols source fault lexemes
  | yard {lexemes more : List Lexeme} {next : Lexeme} {ends : Option Fault} {yard : Yard}
    (scanned : Scan.ofSource symbols.operators source = ⟨lexemes ++ next :: more, ends⟩)
    (run : Yard.empty.acceptAll symbols lexemes = .ok yard)
    (refused : yard.accept symbols next = .error fault) :
    FailsAfter symbols source fault lexemes

/-- The text in front of a fault: on its own it consists of the tokens that have been handled when
the source fails. -/
structure HandledBefore (symbols : Symbols) (source : String) (fault : Fault) (front : List Char)
    (tokens : List String) : Prop where
  /-- The text in front consists of the tokens. -/
  tokenized : tokenize symbols.operators (String.ofList front) = .ok tokens
  /-- The source fails after them. -/
  handled : ∃ lexemes, lexemes.map Lexeme.token = tokens ∧ FailsAfter symbols source fault lexemes

/-- **Where a source fails**: after some tokens, or at its end when no position tells what is
wrong. -/
theorem toPostfix_eq_error (failed : toPostfix symbols source = .error fault) :
    (∃ lexemes, FailsAfter symbols source fault lexemes) ∨
      (fault.kind = .grammar ∧ fault.position? = none) := by
  unfold toPostfix at failed
  simp only at failed
  cases scanned : Scan.ofSource symbols.operators source with
  | mk lexemes ends =>
    rw [scanned] at failed
    cases run : Yard.empty.acceptAll symbols lexemes with
    | error other =>
      rw [run] at failed
      obtain rfl := Except.error.inj failed
      obtain ⟨first, next, more, before, rfl, accepted, refused⟩ := Yard.acceptAll_eq_error run
      exact .inl ⟨first, .yard scanned accepted refused⟩
    | ok yard =>
      rw [run] at failed
      cases ends with
      | some other =>
        obtain rfl := Except.error.inj failed
        exact .inl ⟨lexemes, .scan scanned run⟩
      | none => exact .inr (Yard.drain_eq_error failed)

/-- Where a scan ends with a fault no token stands, and the tokens in front are those of the
scan. -/
lemma exists_breaks_of_scan {operators : OperatorTable} {lexemes : List Lexeme}
    (scanned : Scan.ofSource operators source = ⟨lexemes, some fault⟩) :
    ∃ front rest, Unicode.trim source.toList = front ++ rest ∧
      Cursor.Breaks operators front.length rest fault ∧
        tokenize operators (String.ofList front) = .ok (lexemes.map Lexeme.token) := by
  rw [Scan.ofSource, ← List.append_nil lexemes] at scanned
  obtain ⟨later, front, left, takes, ended⟩ := Scan.takes_of_within scanned
  obtain ⟨blanks, rest, blank, split, breaks⟩ := Scan.breaks_of_within ended
  refine ⟨front ++ blanks, rest, ?_, ?_, ?_⟩
  · show (Cursor.start source).rest = _
    rw [takes.rest, split, List.append_assoc]
  · have position : later.position + blanks.length = (front ++ blanks).length := by
      rw [takes.position, List.length_append]
      show 0 + front.length + blanks.length = _
      omega
    rwa [← position]
  · rw [tokenize_eq_ok_iff, String.toList_ofList, Splits.append_blanks_iff blank]
    exact takes.splits

/-- A token that is classified as a numeral looks like one. -/
lemma Symbols.isNumeral_of_classify {token : String} (kind : symbols.classify token = .numeral) :
    Token.isNumeral token = true := by
  unfold classify at kind
  grind

/-- A left parenthesis that the yard refuses stands behind a numeral, with blanks in between, and
the numeral is the last one of the tokens in front of it. -/
lemma exists_leftParen_of_accept {lexemes more : List Lexeme} {next : Lexeme}
    {ends : Option Fault} {yard : Yard}
    (scanned : Scan.ofSource symbols.operators source = ⟨lexemes ++ next :: more, ends⟩)
    (run : Yard.empty.acceptAll symbols lexemes = .ok yard)
    (opens : next.token = Token.leftParen) (after : yard.previous = some .numeral) :
    ∃ before numeral blanks rest tokens, Unicode.trim source.toList =
        before ++ (numeral.toList ++ (blanks ++ '(' :: rest)) ∧
      next.stop = (before ++ (numeral.toList ++ blanks)).length + 1 ∧ Unicode.IsBlanks blanks ∧
      Token.isNumeral numeral = true ∧ lexemes.map Lexeme.token = tokens ++ [numeral] ∧
      tokenize symbols.operators (String.ofList (before ++ (numeral.toList ++ blanks))) =
        .ok (tokens ++ [numeral]) := by
  rw [Scan.ofSource] at scanned
  obtain ⟨later, front, left, takes, goesOn⟩ := Scan.takes_of_within scanned
  obtain ⟨blanks, token, rest, -, blank, split, -, rfl, -⟩ := Scan.within_eq_cons goesOn
  obtain rfl : token = ['('] := by
    rw [← String.toList_ofList (l := token)]
    exact congrArg String.toList opens
  -- the last of the tokens in front is the numeral, and the text in front ends with it
  rw [Yard.previous_acceptAll run, Option.map_eq_some_iff] at after
  obtain ⟨numeral, isLast, kind⟩ := after
  obtain ⟨tokens, isTokens⟩ := List.getLast?_eq_some_iff.1 isLast
  have ended : numeral.toList <:+ front := by
    rcases takes.ends with ⟨-, noTokens⟩ | ⟨last, isLastToo, ended⟩
    · rw [noTokens] at isLast
      cases isLast
    · rw [Option.mem_def.1 isLastToo] at isLast
      rwa [← Option.some.inj isLast]
  obtain ⟨before, rfl⟩ := ended
  have joined : before ++ (numeral.toList ++ blanks) = before ++ numeral.toList ++ blanks :=
    (List.append_assoc ..).symm
  refine ⟨before, numeral, blanks, rest, tokens, ?_, ?_, blank,
    Symbols.isNumeral_of_classify kind, isTokens, ?_⟩
  · show (Cursor.start source).rest = _
    rw [takes.rest, split]
    simp
  · have position : later.position = 0 + (before ++ numeral.toList).length := takes.position
    simp only [List.length_append, List.length_singleton] at position ⊢
    omega
  · rw [joined, tokenize_eq_ok_iff, String.toList_ofList, Splits.append_blanks_iff blank,
      ← isTokens]
    exact takes.splits

/-- Every fault of a source before it is checked is one of grammar. -/
lemma kind_of_toPostfix (failed : toPostfix symbols source = .error fault) :
    fault.kind = .grammar := by
  obtain ⟨lexemes, fails⟩ | ⟨grammar, -⟩ := toPostfix_eq_error failed
  · cases fails with
    | scan scanned run =>
      obtain ⟨front, rest, -, breaks, -⟩ := exists_breaks_of_scan scanned
      cases breaks <;> rfl
    | yard scanned run refused =>
      obtain ⟨rfl, -⟩ | ⟨grammar, -⟩ := Yard.accept_eq_error refused
      · rfl
      · exact grammar
  · exact grammar

/-- **The place of a fault that the cursor finds**: no token stands there, and what is in front of
it has been handled. The yard finds no fault with a position but a missing operator. -/
lemma exists_breaks_of_toPostfix (failed : toPostfix symbols source = .error fault)
    (positioned : fault.position? ≠ none)
    (notYard : ∀ position, fault ≠ .missingOperator position) :
    ∃ front rest tokens, Unicode.trim source.toList = front ++ rest ∧
      Cursor.Breaks symbols.operators front.length rest fault ∧
        HandledBefore symbols source fault front tokens := by
  obtain ⟨lexemes, fails⟩ | ⟨-, noPosition⟩ := toPostfix_eq_error failed
  · cases id fails with
    | scan scanned run =>
      obtain ⟨front, rest, split, breaks, tokenized⟩ := exists_breaks_of_scan scanned
      exact ⟨front, rest, _, split, breaks, tokenized, lexemes, rfl, fails⟩
    | yard scanned run refused =>
      obtain ⟨missing, -⟩ | ⟨-, noPosition⟩ := Yard.accept_eq_error refused
      · exact absurd missing (notYard _)
      · exact absurd noPosition positioned
  · exact absurd noPosition positioned

/-- **The place of a fault that the yard finds**: a left parenthesis stands there, behind a numeral
and blanks, and the numeral is the last one of the tokens in front of it. -/
lemma exists_leftParen_of_toPostfix {position : Nat}
    (failed : toPostfix symbols source = .error (.missingOperator position)) :
    ∃ before numeral blanks rest tokens, Unicode.trim source.toList =
        before ++ (numeral.toList ++ (blanks ++ '(' :: rest)) ∧
      position = (before ++ (numeral.toList ++ blanks)).length + 1 ∧ Unicode.IsBlanks blanks ∧
      Token.isNumeral numeral = true ∧
        HandledBefore symbols source (.missingOperator position)
          (before ++ (numeral.toList ++ blanks)) (tokens ++ [numeral]) := by
  obtain ⟨lexemes, fails⟩ | ⟨-, noPosition⟩ := toPostfix_eq_error failed
  · cases id fails with
    | scan scanned run =>
      obtain ⟨front, rest, -, breaks, -⟩ := exists_breaks_of_scan scanned
      cases breaks
    | yard scanned run refused =>
      obtain ⟨missing, opens, after⟩ | ⟨-, noPosition⟩ := Yard.accept_eq_error refused
      · obtain rfl := Fault.missingOperator.inj missing
        obtain ⟨before, numeral, blanks, rest, tokens, split, stop, blank, isNumeral, isTokens,
          tokenized⟩ := exists_leftParen_of_accept scanned run opens after
        exact ⟨before, numeral, blanks, rest, tokens, split, stop, blank, isNumeral, tokenized,
          lexemes, isTokens, fails⟩
      · cases noPosition
  · cases noPosition

/-! ## What stands at the position -/

/-- **What stands at the position in a message.** Positions count the characters of the trimmed
source from one. An operator that is not known is spelled from its position on and is not
registered. Where an operator is missing a left parenthesis stands, and before it, but for blanks, a
numeral ends. A text boundary is wrong at the end of the source, when a text literal is not closed,
or where a literal is closed and another delimiter follows. In each case the text in front of the
token at fault consists of the tokens that have been handled. -/
theorem toPostfix_error_position (failed : toPostfix symbols source = .error fault) :
    let text := Unicode.trim source.toList
    (∀ (symbol : String) (position : Nat),
      fault.message = s!"Unknown operator '{symbol}' at position {position}" →
        ∃ front rest tokens, text = front ++ (symbol.toList ++ rest) ∧
          position = front.length + 1 ∧ symbols.operators.contains symbol = false ∧
            HandledBefore symbols source fault front tokens) ∧
    (∀ position : Nat, fault.message = s!"Missing operator at character position {position}" →
      ∃ before numeral blanks rest tokens,
        text = before ++ (numeral.toList ++ (blanks ++ '(' :: rest)) ∧
          position = (before ++ (numeral.toList ++ blanks)).length + 1 ∧
          Unicode.IsBlanks blanks ∧ Token.isNumeral numeral = true ∧
            HandledBefore symbols source fault (before ++ (numeral.toList ++ blanks))
              (tokens ++ [numeral])) ∧
    ∀ position : Nat, fault.message = s!"Invalid string boundary at position {position}" →
      ∃ front tokens, HandledBefore symbols source fault front tokens ∧
        ((∃ content, text = front ++ Delimited.delimiter :: content ∧
            Delimited.Unclosed content ∧ position = text.length) ∨
          ∃ content rest,
            text = front ++ (Delimited.enclose content ++ Delimited.delimiter :: rest) ∧
              Delimited.Escaped content ∧
                position = (front ++ Delimited.enclose content).length) := by
  intro text
  have grammar := kind_of_toPostfix failed
  refine ⟨fun symbol position worded => ?_, fun position worded => ?_, fun position worded => ?_⟩
  · obtain rfl : fault = .unknownOperator symbol position :=
      Fault.eq_of_message_eq grammar (Option.some_ne_none position) worded
    obtain ⟨front, rest, tokens, split, breaks, handled⟩ :=
      exists_breaks_of_toPostfix failed (Option.some_ne_none position) (by simp)
    cases breaks with
    | @operator symbol rest shape unregistered =>
      exact ⟨front, rest, tokens, by rwa [String.toList_ofList], rfl, unregistered, handled⟩
  · obtain rfl : fault = .missingOperator position :=
      Fault.eq_of_message_eq grammar (Option.some_ne_none position) worded
    exact exists_leftParen_of_toPostfix failed
  · obtain rfl : fault = .textBoundary position :=
      Fault.eq_of_message_eq grammar (Option.some_ne_none position) worded
    obtain ⟨front, rest, tokens, split, breaks, handled⟩ :=
      exists_breaks_of_toPostfix failed (Option.some_ne_none position) (by simp)
    refine ⟨front, tokens, handled, ?_⟩
    cases breaks with
    | @unclosed content unclosed =>
      exact .inl ⟨content, split, unclosed, by rw [← List.length_append, ← split]⟩
    | @doubled content rest escaped =>
      exact .inr ⟨content, rest, split, escaped, (List.length_append ..).symm⟩

/-- A parenthesis after blanks and a number with its sign, behind a text with an escape. -/
theorem toPostfix_error_position_signed :
    toPostfix .standard " 'it\\'s' + -1.5  (2) " = .error (.missingOperator 17) ∧
      ∃ before numeral blanks rest tokens,
        "'it\\'s' + -1.5  (2)".toList = before ++ (numeral.toList ++ (blanks ++ '(' :: rest)) ∧
          17 = (before ++ (numeral.toList ++ blanks)).length + 1 ∧
          Unicode.IsBlanks blanks ∧ Token.isNumeral numeral = true ∧
            HandledBefore .standard " 'it\\'s' + -1.5  (2) " (.missingOperator 17)
              (before ++ (numeral.toList ++ blanks)) (tokens ++ [numeral]) := by
  have failed : toPostfix .standard " 'it\\'s' + -1.5  (2) " = .error (.missingOperator 17) := by
    rfl
  have trimmed : Unicode.trim " 'it\\'s' + -1.5  (2) ".toList = "'it\\'s' + -1.5  (2)".toList := by
    rfl
  rw [← trimmed]
  exact ⟨failed, (toPostfix_error_position failed).2.1 17 rfl⟩

/-- A text literal that another delimiter follows, and one that is not closed. -/
example : toPostfix .standard "1 + 'a'' " = .error (.textBoundary 7) ∧
    toPostfix .standard "1 + 'a " = .error (.textBoundary 6) :=
  ⟨by rfl, by rfl⟩

end Formula
