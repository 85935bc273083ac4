import Formula.Proofs.Token.Shape

set_option autoImplicit false

/-!
# Splitting a source into tokens

A source is split into tokens when it consists of these and of blanks around them, and each of them
stands at the front of what follows it. The tokens of a source are those that it is split into. A
source can be split piece by piece, as long as each piece but the first begins with a break.

## Main definitions

* `Formula.Splits` — a text after a given token is split into tokens.

## Main results

* `Formula.Splits.append` — texts are split one after the other.
* `Formula.Splits.parenthesized` — a text in parentheses is split as it is alone.
* `Formula.Splits.trim_iff` — blanks at the ends do not matter.
* `Formula.Cursor.next_cases` — what a call of the cursor does.
* `Formula.tokenize_eq_ok_iff` — the tokens of a source are those that it is split into.
-/

namespace Formula

/-- A trimmed text is followed by the blanks at the end of the text. -/
lemma Unicode.dropWhile_eq_trim_append (text : List Char) : text.dropWhile isBlank =
    trim text ++ ((text.dropWhile isBlank).reverse.takeWhile isBlank).reverse := by
  rw [trim, ← List.reverse_append, List.takeWhile_append_dropWhile, List.reverse_reverse]

/-- A text after a given token consists of tokens, each at the front of what follows it, and of
blanks before and after them. -/
inductive Splits (operators : OperatorTable) : Option String → List Char → List String → Prop
  | done {previous : Option String} {blanks : List Char}
    (blank : ∀ c ∈ blanks, Unicode.isBlank c = true) : Splits operators previous blanks []
  | token {previous : Option String} {blanks token rest : List Char} {tokens : List String}
    (blank : ∀ c ∈ blanks, Unicode.isBlank c = true)
    (leads : Cursor.Leads operators previous token rest)
    (more : Splits operators (some (String.ofList token)) rest tokens) :
    Splits operators previous (blanks ++ (token ++ rest)) (String.ofList token :: tokens)

namespace Splits

variable {operators : OperatorTable} {previous : Option String} {text rest : List Char}
  {tokens more : List String}

/-- The token before matters only as far as an operand may begin after it. -/
lemma of_previous (splits : Splits operators previous text tokens) {earlier : Option String}
    (sameOpens : Cursor.opensOperand operators earlier = Cursor.opensOperand operators previous) :
    Splits operators earlier text tokens := by
  cases splits with
  | done blank => exact .done blank
  | token blank leads more => exact .token blank (leads.congr (fun _ => .inl) sameOpens) more

/-- A token that is given as a string. -/
lemma token_of_string {token : String} {blanks : List Char}
    (blank : ∀ c ∈ blanks, Unicode.isBlank c = true)
    (leads : Cursor.Leads operators previous token.toList rest)
    (splits : Splits operators (some token) rest more) :
    Splits operators previous (blanks ++ (token.toList ++ rest)) (token :: more) := by
  have split := Splits.token blank leads (by rwa [String.ofList_toList])
  rwa [String.ofList_toList] at split

/-- A separator is a token wherever it stands. -/
lemma separator {c : Char} (shape : Token.isSeparator c = true) {blanks : List Char}
    (blank : ∀ c ∈ blanks, Unicode.isBlank c = true)
    (splits : Splits operators (some (String.ofList [c])) rest more) :
    Splits operators previous (blanks ++ c :: rest) (String.ofList [c] :: more) :=
  .token blank (.separator shape) splits

/-- Blanks in front of a text belong to no token. -/
lemma blanks_append {blanks : List Char} (blank : ∀ c ∈ blanks, Unicode.isBlank c = true)
    (splits : Splits operators previous text tokens) :
    Splits operators previous (blanks ++ text) tokens := by
  cases splits with
  | done blankText => exact .done (List.forall_mem_append.2 ⟨blank, blankText⟩)
  | token blankText leads more =>
    rw [← List.append_assoc]
    exact .token (List.forall_mem_append.2 ⟨blank, blankText⟩) leads more

/-- **Texts are split one after the other**, if the second one begins with a break. -/
lemma append (splits : Splits operators previous text tokens)
    (begins : ∀ c ∈ rest.head?, Token.isBreak c = true)
    (splitsRest : Splits operators (tokens.getLast?.or previous) rest more) :
    Splits operators previous (text ++ rest) (tokens ++ more) := by
  induction splits with
  | done blank => exact blanks_append blank (by simpa using splitsRest)
  | @token previous blanks token after tokens blank leads _ ih =>
    rw [List.append_assoc, List.append_assoc, List.cons_append]
    refine .token blank (leads.congr (fun c atFront => ?_) rfl) (ih ?_)
    · cases after with
      | nil => exact .inr (begins c atFront)
      | cons d after => exact .inl atFront
    · rw [List.getLast?_cons] at splitsRest
      cases last : tokens.getLast? <;> simpa [last] using splitsRest

/-- **A source in parentheses** is split as it is alone, wherever the parentheses stand. -/
lemma parenthesized {source blanks rest : List Char} {replacement more : List String}
    (splitsSource : Splits operators none source replacement)
    (blank : ∀ c ∈ blanks, Unicode.isBlank c = true)
    (following : Splits operators (some Token.rightParen) rest more) :
    Splits operators previous (blanks ++ ('(' :: source ++ [')'] ++ rest))
      (Token.leftParen :: replacement ++ [Token.rightParen] ++ more) := by
  have inside : Splits operators (some Token.leftParen) source replacement :=
    splitsSource.of_previous rfl
  have closed : Splits operators (replacement.getLast?.or (some Token.leftParen)) (')' :: rest)
      (Token.rightParen :: more) :=
    separator (by decide) (List.forall_mem_nil _) following
  have both : Splits operators (some Token.leftParen) (source ++ ')' :: rest)
      (replacement ++ Token.rightParen :: more) :=
    inside.append (by rintro c ⟨rfl⟩; decide) closed
  have opened : Splits operators previous (blanks ++ '(' :: (source ++ ')' :: rest))
      (Token.leftParen :: (replacement ++ Token.rightParen :: more)) :=
    .separator (by decide) blank both
  simpa using opened

/-! ## Blanks at the ends -/

/-- The empty text has no tokens. -/
lemma nil_iff : Splits operators previous [] tokens ↔ tokens = [] := by
  constructor
  · intro splits
    generalize empty : ([] : List Char) = text at splits
    cases splits with
    | done => rfl
    | token blank leads more =>
      have noToken := (List.append_eq_nil_iff.1 (List.append_eq_nil_iff.1 empty.symm).2).1
      exact absurd noToken leads.ne_nil
  · rintro rfl
    exact .done (by simp)

/-- At a character that is not blank there is a token. -/
lemma cons_iff {c : Char} (notBlank : Unicode.isBlank c = false) :
    Splits operators previous (c :: text) tokens ↔
      ∃ token rest more, c :: text = token ++ rest ∧ tokens = String.ofList token :: more ∧
        Cursor.Leads operators previous token rest ∧
          Splits operators (some (String.ofList token)) rest more := by
  constructor
  · intro splits
    generalize whole : c :: text = source at splits
    cases splits with
    | done blank =>
      rw [blank c (whole ▸ List.mem_cons_self)] at notBlank
      cases notBlank
    | @token _ blanks token rest more blank leads splitsRest =>
      obtain _ | ⟨d, blanks⟩ := blanks
      · exact ⟨token, rest, more, rfl, rfl, leads, splitsRest⟩
      · obtain ⟨rfl, -⟩ := List.cons.inj whole
        rw [blank c List.mem_cons_self] at notBlank
        cases notBlank
  · rintro ⟨token, rest, more, split, rfl, leads, splitsRest⟩
    rw [split, ← List.nil_append (token ++ rest)]
    exact .token (by simp) leads splitsRest

/-- After a token at the front the rest of the text is split. -/
lemma token_iff {token : List Char} (leads : Cursor.Leads operators previous token rest) :
    Splits operators previous (token ++ rest) tokens ↔
      ∃ more, tokens = String.ofList token :: more ∧
        Splits operators (some (String.ofList token)) rest more := by
  obtain ⟨c, token', rfl⟩ := List.exists_cons_of_ne_nil leads.ne_nil
  rw [List.cons_append, cons_iff (leads.isBlank_eq_false.1 c rfl)]
  constructor
  · rintro ⟨other, after, more, split, rfl, leadsOther, splits⟩
    obtain ⟨rfl, rfl⟩ := leads.unique leadsOther split
    exact ⟨more, rfl, splits⟩
  · rintro ⟨more, rfl, splits⟩
    exact ⟨_, rest, more, rfl, rfl, leads, splits⟩

/-- A blank at the front of a text belongs to no token. -/
lemma of_cons_blank {c : Char} (blank : Unicode.isBlank c = true)
    (splits : Splits operators previous (c :: text) tokens) :
    Splits operators previous text tokens := by
  generalize whole : c :: text = source at splits
  cases splits with
  | done all =>
    subst whole
    exact .done fun d member => all d (List.mem_cons_of_mem c member)
  | @token _ blanks token rest more all leads splitsRest =>
    obtain _ | ⟨d, blanks⟩ := blanks
    · -- a token does not begin with a blank
      have first : c ∈ token.head? := by
        cases token with
        | nil => exact absurd rfl leads.ne_nil
        | cons d token => exact congrArg some (List.cons.inj whole).1.symm
      rw [leads.isBlank_eq_false.1 c first] at blank
      cases blank
    · obtain ⟨rfl, rfl⟩ := List.cons.inj whole
      exact .token (fun d member => all d (List.mem_cons_of_mem c member)) leads splitsRest

/-- A blank at the end of a text belongs to no token. -/
lemma of_concat_blank {c : Char} (blank : Unicode.isBlank c = true)
    (splits : Splits operators previous (text ++ [c]) tokens) :
    Splits operators previous text tokens := by
  generalize whole : text ++ [c] = source at splits
  induction splits generalizing text with
  | done all =>
    subst whole
    exact .done fun d member => all d (List.mem_append_left _ member)
  | @token previous blanks token rest tokens all leads _ ih =>
    obtain rfl | ⟨front, d, rfl⟩ := List.eq_nil_or_concat' rest
    · -- a token does not end with a blank
      have last : c ∈ token.getLast? := by
        have ends := congrArg List.getLast? whole
        rw [List.append_nil, List.getLast?_concat, List.getLast?_append] at ends
        cases final : token.getLast? with
        | none => exact absurd (List.getLast?_eq_none_iff.1 final) leads.ne_nil
        | some d => simpa [final, eq_comm] using ends
      rw [leads.isBlank_eq_false.2 c last] at blank
      cases blank
    · rw [← List.append_assoc, ← List.append_assoc] at whole
      obtain ⟨rfl, last⟩ := List.append_inj' whole rfl
      rw [List.append_assoc]
      refine .token all (leads.congr (fun d atFront => .inl ?_) rfl) (ih (by rw [last]))
      cases front with
      | nil => cases atFront
      | cons e front => exact atFront

/-- **Blanks in front of a text do not matter.** -/
lemma blanks_append_iff {blanks : List Char} (blank : ∀ c ∈ blanks, Unicode.isBlank c = true) :
    Splits operators previous (blanks ++ text) tokens ↔ Splits operators previous text tokens := by
  refine ⟨fun splits => ?_, blanks_append blank⟩
  induction blanks with
  | nil => exact splits
  | cons c blanks ih =>
    obtain ⟨first, others⟩ := List.forall_mem_cons.1 blank
    exact ih others (of_cons_blank first splits)

/-- There are no tokens in blanks. -/
lemma blank_iff {blanks : List Char} (blank : ∀ c ∈ blanks, Unicode.isBlank c = true) :
    Splits operators previous blanks tokens ↔ tokens = [] := by
  have whole : Splits operators previous (blanks ++ []) tokens ↔
      Splits operators previous [] tokens := blanks_append_iff blank
  rwa [List.append_nil, nil_iff] at whole

/-- **Blanks behind a text do not matter.** -/
lemma append_blanks_iff {blanks : List Char} (blank : ∀ c ∈ blanks, Unicode.isBlank c = true) :
    Splits operators previous (text ++ blanks) tokens ↔ Splits operators previous text tokens := by
  constructor
  · intro splits
    induction blanks using List.reverseRecOn with
    | nil => simpa using splits
    | append_singleton blanks c ih =>
      rw [← List.append_assoc] at splits
      refine ih (fun d member => blank d (List.mem_append_left _ member)) ?_
      exact of_concat_blank (blank c (by simp)) splits
  · intro splits
    have begins : ∀ c ∈ blanks.head?, Token.isBreak c = true := fun c first => by
      rw [Token.isBreak, blank c (List.mem_of_head? first), Bool.true_or]
    simpa using splits.append begins (.done blank)

/-- **Blanks at both ends of a source do not matter.** -/
theorem trim_iff : Splits operators previous (Unicode.trim text) tokens ↔
    Splits operators previous text tokens := by
  have front : text = text.takeWhile Unicode.isBlank ++ text.dropWhile Unicode.isBlank :=
    List.takeWhile_append_dropWhile.symm
  conv_rhs => rw [front, Unicode.dropWhile_eq_trim_append]
  rw [blanks_append_iff fun c member => List.mem_takeWhile_imp member]
  refine (append_blanks_iff fun c member => ?_).symm
  exact List.mem_takeWhile_imp (List.mem_reverse.1 member)

end Splits

/-! ## The tokens of a source -/

variable {operators : OperatorTable} {tokens : List String}

/-- Blanks in front of a character that is not blank are skipped. -/
lemma Cursor.skipBlanks_append {blanks text : List Char}
    (blank : ∀ c ∈ blanks, Unicode.isBlank c = true)
    (stops : ∀ c ∈ text.head?, Unicode.isBlank c = false) (position : Nat)
    (previous : Option String) :
    skipBlanks ⟨position, blanks ++ text, previous⟩ =
      ⟨position + blanks.length, text, previous⟩ := by
  have run := takeWhile_append_of_ends blank stops
  have rest := List.takeWhile_append_dropWhile (p := Unicode.isBlank) (l := blanks ++ text)
  rw [run] at rest
  rw [skipBlanks, run, List.append_cancel_left rest]

/-- **What a call does**: at blanks it moves to the end, and otherwise it takes the token at the
front of what comes after the blanks, or a fault if none stands there. A fault moves to the end,
too. -/
theorem Cursor.next_cases (operators : OperatorTable) (cursor : Cursor) :
    ((∀ c ∈ cursor.rest, Unicode.isBlank c = true) ∧ cursor.next operators =
        (none, ⟨cursor.position + cursor.rest.length, [], cursor.previous⟩)) ∨
      (∃ blanks token rest, (∀ c ∈ blanks, Unicode.isBlank c = true) ∧
        cursor.rest = blanks ++ (token ++ rest) ∧ Leads operators cursor.previous token rest ∧
          cursor.next operators = (some (.ok (String.ofList token)),
            ⟨cursor.position + blanks.length + token.length, rest,
              some (String.ofList token)⟩)) ∨
      ∃ fault, (∃ blanks text, (∀ c ∈ blanks, Unicode.isBlank c = true) ∧
          cursor.rest = blanks ++ text ∧
            Breaks operators (cursor.position + blanks.length) text fault) ∧
        (∀ tokens, ¬ Splits operators cursor.previous cursor.rest tokens) ∧
          cursor.next operators = (some (.error fault),
            ⟨cursor.position + cursor.rest.length, [], cursor.previous⟩) := by
  obtain ⟨position, text, previous⟩ := cursor
  obtain ⟨blanks, text, rfl, -, blank, stops⟩ := exists_run Unicode.isBlank text
  rw [next, skipBlanks_append blank stops]
  obtain _ | ⟨c, text⟩ := text
  · exact .inl ⟨by simpa using blank, by simp⟩
  have notBlank : Unicode.isBlank c = false := stops c rfl
  simp only [List.isEmpty_cons, Bool.false_eq_true, if_false]
  rcases tokenLength_cases notBlank operators previous (position + blanks.length) text with
    ⟨token, rest, split, taken, leads⟩ | ⟨fault, failed, breaks⟩
  · refine .inr (.inl ⟨blanks, token, rest, blank, by rw [split], leads, ?_⟩)
    simp only [taken]
    simp only [take, split, List.take_left, List.drop_left]
  · have place : ∃ before after, (∀ c ∈ before, Unicode.isBlank c = true) ∧
        blanks ++ c :: text = before ++ after ∧
          Breaks operators (position + before.length) after fault :=
      ⟨blanks, c :: text, blank, rfl, breaks⟩
    refine .inr (.inr ⟨fault, place, fun tokens splits => ?_, ?_⟩)
    · rw [Splits.blanks_append_iff blank, Splits.cons_iff notBlank] at splits
      obtain ⟨token, rest, more, split, -, leads, -⟩ := splits
      rw [split, leads.tokenLength] at failed
      cases failed
    · simp only [failed]
      rw [List.length_append, ← Nat.add_assoc]
      rfl

/-- A token that is taken leaves fewer characters. -/
lemma Cursor.Leads.length_lt {previous : Option String} {token rest : List Char}
    (leads : Leads operators previous token rest) (blanks : List Char) :
    rest.length < (blanks ++ (token ++ rest)).length := by
  have some := List.length_pos_iff.2 leads.ne_nil
  simp only [List.length_append]
  omega

/-- A scan yields its tokens if it has no fault, the first one first. -/
lemma Scan.tokens_cons_eq_ok_iff {lexeme : Lexeme} {scan : Scan} :
    Scan.tokens ⟨lexeme :: scan.lexemes, scan.fault⟩ = .ok tokens ↔
      ∃ more, tokens = lexeme.token :: more ∧ scan.tokens = .ok more := by
  obtain ⟨lexemes, _ | fault⟩ := scan
  · simp [Scan.tokens, eq_comm]
  · simp [Scan.tokens]

/-- **The tokens of a scan are those that the text is split into**, if there are enough steps.

**Proof sketch.** Induction on the steps, by what a call does. -/
lemma Scan.within_eq_ok_iff {steps : Nat} {cursor : Cursor} (enough : cursor.rest.length ≤ steps) :
    (within operators steps cursor).tokens = .ok tokens ↔
      Splits operators cursor.previous cursor.rest tokens := by
  induction steps generalizing cursor tokens with
  | zero =>
    have empty : cursor.rest = [] := List.eq_nil_of_length_eq_zero (by omega)
    rw [empty, Splits.nil_iff, eq_comm]
    simp [within, Scan.tokens]
  | succ steps ih =>
    rw [within]
    rcases cursor.next_cases operators with ⟨blank, called⟩ |
      ⟨blanks, token, rest, blank, split, leads, called⟩ | ⟨fault, -, noToken, called⟩
    · rw [called, Splits.blank_iff blank, eq_comm]
      simp [Scan.tokens]
    · rw [split] at enough
      have fits := leads.length_lt blanks
      rw [called, split, Splits.blanks_append_iff blank, Splits.token_iff leads,
        Scan.tokens_cons_eq_ok_iff]
      exact exists_congr fun more => and_congr_right fun _ =>
        @ih more ⟨_, rest, some (String.ofList token)⟩ (by dsimp only; omega)
    · rw [called]
      simp [Scan.tokens, noToken]

/-- **The tokens of a source are those that it is split into.** -/
theorem tokenize_eq_ok_iff {source : String} :
    tokenize operators source = .ok tokens ↔ Splits operators none source.toList tokens := by
  rw [tokenize, Scan.ofSource, Scan.within_eq_ok_iff le_rfl, Cursor.start, Splits.trim_iff]

end Formula
