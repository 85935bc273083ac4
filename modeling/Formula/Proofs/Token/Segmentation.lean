import Formula.Proofs.Token.Splitting

set_option autoImplicit false

/-!
# Tokens are segments of the source

A cursor that is called again and again moves through the trimmed source and never back. A call that
yields a token passes blanks and then just the characters of the token. A call that yields no token,
at the end or at a fault, moves to the end, and nothing is yielded any more. So there are no more
tokens than characters, and without a fault the trimmed source consists of the tokens and of blanks
between them.

The tokens can be written with other blanks between them, as long as there are some. Each of them is
then taken again, since a blank ends every token, and since the token before it is the same.

## Main definitions

* `Formula.Cursor.after`, `items` — the cursor after some calls, and what these have yielded.
* `Formula.Cursor.On` — a cursor stands in a text.
* `Formula.Cursor.Advances` — what the next call of a cursor in a text does.
* `Formula.Joined` — a text consists of tokens and of what is between them.

## Main results

* `Formula.Cursor.on_next`, `on_after` — one call and a run stay in the text.
* `Formula.Cursor.countP_items_le` — a bound on the calls that yield something.
* `Formula.Cursor.items_eq_iff` — a run without a fault yields what the text is split into.
* `Formula.Splits.joined`, `Splits.respaced` — from a split text to its tokens, and to the same
  tokens with other blanks.
* `Formula.cursor_segments_source` — every run on a source.
* `Formula.tokenize_respaced` — the tokens of a source, written with other blanks.
-/

namespace Formula

namespace Cursor

variable {operators : OperatorTable} {cursor : Cursor} {text : List Char}

/-! ## Runs -/

/-- The cursor after a number of calls. -/
def after (operators : OperatorTable) : Nat → Cursor → Cursor
  | 0, cursor => cursor
  | calls + 1, cursor => after operators calls (cursor.next operators).2

/-- What a number of calls yield, in their order. -/
def items (operators : OperatorTable) : Nat → Cursor → List (Option (Except Fault String))
  | 0, _ => []
  | calls + 1, cursor =>
    (cursor.next operators).1 :: items operators calls (cursor.next operators).2

/-- A cursor stands in a text: what it has passed and what is ahead make up the text. -/
def On (text : List Char) (cursor : Cursor) : Prop :=
  ∃ passed, text = passed ++ cursor.rest ∧ cursor.position = passed.length

/-- A cursor starts in front of the source without its outer blanks. -/
lemma on_start (source : String) : (start source).On (Unicode.trim source.toList) :=
  ⟨[], rfl, rfl⟩

/-- **A call stays in the text.** -/
lemma on_next (operators : OperatorTable) (on : cursor.On text) :
    (cursor.next operators).2.On text := by
  obtain ⟨passed, rfl, position⟩ := on
  rcases cursor.next_cases operators with ⟨-, called⟩ |
    ⟨blanks, token, rest, -, split, -, called⟩ | ⟨fault, -, -, called⟩ <;> rw [called]
  · exact ⟨passed ++ cursor.rest, by simp, by simp [position]⟩
  · refine ⟨passed ++ (blanks ++ token), by simp [split], ?_⟩
    simp only [position, List.length_append, Nat.add_assoc]
  · exact ⟨passed ++ cursor.rest, by simp, by simp [position]⟩

/-- **A run stays in the text.** -/
theorem on_after (operators : OperatorTable) (calls : Nat) (on : cursor.On text) :
    (cursor.after operators calls).On text := by
  induction calls generalizing cursor with
  | zero => exact on
  | succ calls ih => exact ih (on_next operators on)

/-- At the end nothing is yielded, and the cursor stays at the end. -/
lemma next_of_rest_eq_nil (operators : OperatorTable) (atEnd : cursor.rest = []) :
    (cursor.next operators).1 = none ∧ (cursor.next operators).2.rest = [] := by
  rcases cursor.next_cases operators with ⟨-, called⟩ |
    ⟨blanks, token, rest, -, split, leads, -⟩ | ⟨fault, -, noTokens, -⟩
  · rw [called]
    exact ⟨rfl, rfl⟩
  · rw [atEnd, eq_comm, List.append_eq_nil_iff, List.append_eq_nil_iff] at split
    exact absurd split.2.1 leads.ne_nil
  · exact absurd (atEnd ▸ Splits.nil_iff.2 rfl) (noTokens [])

/-- After the end nothing is yielded, however often the cursor is called. -/
lemma yields_nothing_of_rest_eq_nil (operators : OperatorTable) (atEnd : cursor.rest = [])
    (calls : Nat) : ((cursor.after operators calls).next operators).1 = none := by
  induction calls generalizing cursor with
  | zero => exact (next_of_rest_eq_nil operators atEnd).1
  | succ calls ih => exact ih (next_of_rest_eq_nil operators atEnd).2

/-- After the end no call counts as an item. -/
lemma countP_items_of_rest_eq_nil (operators : OperatorTable) (atEnd : cursor.rest = [])
    (calls : Nat) : (cursor.items operators calls).countP Option.isSome = 0 := by
  induction calls generalizing cursor with
  | zero => rfl
  | succ calls ih =>
    obtain ⟨nothing, stays⟩ := next_of_rest_eq_nil operators atEnd
    rw [items, nothing, List.countP_cons_of_neg (by simp), ih stays]

/-- **There are no more tokens than characters**, and a fault may come after them.

**Proof sketch.** Induction on the calls. A token leaves fewer characters, and after a fault nothing
is left. -/
theorem countP_items_le (operators : OperatorTable) (cursor : Cursor) (calls : Nat) :
    (cursor.items operators calls).countP Option.isSome ≤ cursor.rest.length + 1 := by
  induction calls generalizing cursor with
  | zero => exact Nat.zero_le _
  | succ calls ih =>
    rw [items]
    rcases cursor.next_cases operators with ⟨-, called⟩ |
      ⟨blanks, token, rest, -, split, leads, called⟩ | ⟨fault, -, -, called⟩ <;> rw [called]
    · rw [List.countP_cons_of_neg (by simp), countP_items_of_rest_eq_nil operators rfl]
      exact Nat.zero_le _
    · have shorter := leads.length_lt blanks
      rw [List.countP_cons_of_pos rfl, split]
      exact Nat.succ_le_succ ((ih _).trans shorter)
    · rw [List.countP_cons_of_pos rfl, countP_items_of_rest_eq_nil operators rfl]
      exact Nat.succ_le_succ (Nat.zero_le _)

/-! ## The next call -/

/-- What the next call of a cursor in a text does. The cursor has not passed the end, and it shows
what is ahead. It does not go back. A token stands just before the new position, with only blanks
between the old position and the token. A call that yields no token moves to the end, and nothing
is yielded by any call after it. -/
structure Advances (operators : OperatorTable) (text : List Char) (cursor : Cursor) : Prop where
  inside : cursor.position ≤ text.length
  remaining : cursor.remaining = String.ofList (text.drop cursor.position)
  forward : cursor.position ≤ (cursor.next operators).2.position
  token : ∀ token, (cursor.next operators).1 = some (.ok token) →
    cursor.position < (cursor.next operators).2.position ∧
      ∃ blanks, (∀ c ∈ blanks, Unicode.isBlank c = true) ∧
        text.take (cursor.next operators).2.position =
          text.take cursor.position ++ (blanks ++ token.toList)
  finished : (∀ token, (cursor.next operators).1 ≠ some (.ok token)) →
    (cursor.next operators).2.position = text.length ∧ ∀ calls,
      (((cursor.next operators).2.after operators calls).next operators).1 = none

namespace On

/-- A cursor stands within its text. -/
lemma inside (on : cursor.On text) : cursor.position ≤ text.length := by
  obtain ⟨passed, rfl, position⟩ := on
  simp [position]

/-- What remains is the text from the position on. -/
lemma remaining (on : cursor.On text) :
    cursor.remaining = String.ofList (text.drop cursor.position) := by
  obtain ⟨passed, rfl, position⟩ := on
  rw [position, List.drop_left, Cursor.remaining]

/-- A call that moves to the end without a token. -/
lemma advances_of_end (on : cursor.On text) {item : Option (Except Fault String)}
    (noToken : ∀ token, item ≠ some (.ok token))
    (called : cursor.next operators =
      (item, ⟨cursor.position + cursor.rest.length, [], cursor.previous⟩)) :
    cursor.Advances operators text := by
  have atEnd : cursor.position + cursor.rest.length = text.length := by
    obtain ⟨passed, rfl, position⟩ := on
    rw [position, List.length_append]
  refine ⟨on.inside, on.remaining, ?_, ?_, fun _ => ⟨?_, fun calls => ?_⟩⟩ <;> rw [called]
  · exact Nat.le_add_right ..
  · exact fun token yielded => absurd yielded (noToken token)
  · exact atEnd
  · exact yields_nothing_of_rest_eq_nil operators rfl calls

/-- **A cursor in a text advances.** -/
theorem advances (on : cursor.On text) (operators : OperatorTable) :
    cursor.Advances operators text := by
  rcases cursor.next_cases operators with ⟨-, called⟩ |
    ⟨blanks, token, rest, blank, split, leads, called⟩ | ⟨fault, -, -, called⟩
  · exact on.advances_of_end (by simp) called
  · have some := List.length_pos_iff.2 leads.ne_nil
    refine ⟨on.inside, on.remaining, ?_, ?_, fun noToken => ?_⟩ <;> rw [called]
    · dsimp only
      omega
    · rintro _ ⟨rfl⟩
      refine ⟨by dsimp only; omega, blanks, blank, ?_⟩
      obtain ⟨passed, rfl, position⟩ := on
      have whole : passed ++ cursor.rest = passed ++ (blanks ++ token) ++ rest := by simp [split]
      have stop : cursor.position + blanks.length + token.length =
          (passed ++ (blanks ++ token)).length := by
        simp only [position, List.length_append, Nat.add_assoc]
      dsimp only
      rw [stop, position, List.take_left, whole, List.take_left, String.toList_ofList]
    · rw [called] at noToken
      exact absurd rfl (noToken _)
  · exact on.advances_of_end (by simp) called

end On

/-- **A run without a fault yields the tokens that the text is split into**, and then nothing. -/
theorem items_eq_iff {tokens : List String} :
    cursor.items operators (tokens.length + 1) =
        tokens.map (fun token => some (.ok token)) ++ [none] ↔
      Splits operators cursor.previous cursor.rest tokens := by
  induction tokens generalizing cursor with
  | nil =>
    rcases cursor.next_cases operators with ⟨blank, called⟩ |
      ⟨blanks, token, rest, blank, split, leads, called⟩ | ⟨fault, -, noTokens, called⟩
    · simp [items, called, Splits.blank_iff blank]
    · simp [items, called, split, Splits.blanks_append_iff blank, Splits.token_iff leads]
    · simp [items, called, noTokens]
  | cons first tokens ih =>
    rw [List.length_cons, items, List.map_cons, List.cons_append, List.cons_eq_cons]
    rcases cursor.next_cases operators with ⟨blank, called⟩ |
      ⟨blanks, token, rest, blank, split, leads, called⟩ | ⟨fault, -, noTokens, called⟩
    · simp [called, Splits.blank_iff blank]
    · rw [called, split, Splits.blanks_append_iff blank, Splits.token_iff leads, ih]
      simp [eq_comm, and_comm]
    · simp [called, noTokens]

end Cursor

/-! ## Tokens and what is between them -/

/-- A text consists of tokens and of texts of a given kind between them. -/
inductive Joined (between : List Char → Prop) : List String → List Char → Prop
  | nil : Joined between [] []
  | single {token : String} : Joined between [token] token.toList
  | cons {token next : String} {tokens : List String} {gap rest : List Char}
    (isBetween : between gap) (joined : Joined between (next :: tokens) rest) :
    Joined between (token :: next :: tokens) (token.toList ++ (gap ++ rest))

/-- A text consists of blanks only. -/
def Unicode.IsBlanks (text : List Char) : Prop := ∀ c ∈ text, isBlank c = true

/-- A text consists of blanks, and of one at least. -/
def Unicode.IsGap (text : List Char) : Prop := text ≠ [] ∧ IsBlanks text

namespace Splits

open Unicode

variable {operators : OperatorTable} {previous : Option String} {text : List Char}
  {tokens : List String}

/-- A text that is split and does not end with a blank consists of blanks in front, and of its
tokens with blanks between them. -/
lemma exists_joined (splits : Splits operators previous text tokens)
    (last : ∀ c ∈ text.getLast?, isBlank c = false) :
    ∃ blanks rest, text = blanks ++ rest ∧ IsBlanks blanks ∧ Joined IsBlanks tokens rest := by
  induction splits with
  | @done _ blanks blank => exact ⟨blanks, [], by simp, blank, .nil⟩
  | @token _ blanks token rest tokens blank leads _ ih =>
    have lastOfRest : ∀ c ∈ rest.getLast?, isBlank c = false := by
      intro c isLast
      refine last c ?_
      rw [List.getLast?_append, List.getLast?_append, Option.mem_def.1 isLast]
      rfl
    obtain ⟨gap, others, rfl, blankGap, joined⟩ := ih lastOfRest
    refine ⟨blanks, token ++ (gap ++ others), rfl, blank, ?_⟩
    obtain _ | ⟨next, tokens⟩ := tokens
    · cases joined
      -- blanks behind the last token would be the end of the text
      obtain rfl | ⟨front, c, rfl⟩ := List.eq_nil_or_concat' gap
      · have alone : Joined IsBlanks [String.ofList token] (String.ofList token).toList := .single
        simpa using alone
      · have isBlank := blankGap c (by simp)
        rw [lastOfRest c (by simp)] at isBlank
        cases isBlank
    · have both : Joined IsBlanks (String.ofList token :: next :: tokens)
          ((String.ofList token).toList ++ (gap ++ others)) := .cons blankGap joined
      rwa [String.toList_ofList] at both

/-- **A text that begins and ends with tokens consists of them**, with blanks between them. -/
lemma joined (splits : Splits operators previous text tokens)
    (first : ∀ c ∈ text.head?, isBlank c = false) (last : ∀ c ∈ text.getLast?, isBlank c = false) :
    Joined IsBlanks tokens text := by
  obtain ⟨blanks, rest, rfl, blank, joined⟩ := splits.exists_joined last
  obtain _ | ⟨c, blanks⟩ := blanks
  · exact joined
  · have isBlank := blank c List.mem_cons_self
    rw [first c rfl] at isBlank
    cases isBlank

/-- **The tokens of a text are taken again when other blanks stand between them**, as long as there
are some.

**Proof sketch.** Induction on the tokens. A token that was at the front of what followed it is at
the front of a blank, too, and a minus sign keeps the token before it. -/
theorem respaced (splits : Splits operators previous text tokens) {other : List Char}
    (joined : Joined IsGap tokens other) : Splits operators previous other tokens := by
  induction splits generalizing other with
  | done =>
    cases joined
    exact .done (by simp)
  | @token previous blanks token rest tokens blank leads _ ih =>
    obtain ⟨after, split, stops, splitsAfter⟩ : ∃ after, other = token ++ after ∧
        (∀ c ∈ after.head?, Token.isBreak c = true) ∧
          Splits operators (some (String.ofList token)) after tokens := by
      cases joined with
      | single => exact ⟨[], by simp, by simp, ih .nil⟩
      | @cons _ _ _ gap others isGap joined =>
        refine ⟨gap ++ others, by rw [String.toList_ofList], fun c atFront => ?_,
          blanks_append isGap.2 (ih joined)⟩
        have inGap : c ∈ gap := by
          obtain ⟨d, gap, rfl⟩ := List.exists_cons_of_ne_nil isGap.1
          obtain rfl := Option.some.inj atFront
          exact List.mem_cons_self
        rw [Token.isBreak, isGap.2 c inGap, Bool.true_or]
    rw [split, token_iff (leads.congr (fun c atFront => .inr (stops c atFront)) rfl)]
    exact ⟨tokens, rfl, splitsAfter⟩

end Splits

/-! ## Sources -/

/-- Neither end of a trimmed text is a blank. -/
lemma Unicode.isBlank_of_mem_trim (text : List Char) :
    (∀ c ∈ (trim text).head?, isBlank c = false) ∧
      ∀ c ∈ (trim text).getLast?, isBlank c = false := by
  have stops : ∀ text : List Char, ∀ c ∈ (text.dropWhile isBlank).head?, isBlank c = false := by
    intro text c atFront
    have := List.head?_dropWhile_not isBlank text
    rwa [Option.mem_def.1 atFront] at this
  constructor
  · intro c atFront
    refine stops text c ?_
    rw [dropWhile_eq_trim_append, List.head?_append, Option.mem_def.1 atFront]
    rfl
  · intro c isLast
    rw [trim, List.getLast?_reverse] at isLast
    exact stops _ c isLast

variable {operators : OperatorTable}

/-- **A run of the cursor segments a source.** Whatever the operators are, every call advances in
the trimmed source, at most one call more than there are characters yields something, and if the run
ends without a fault the trimmed source consists of the tokens that were yielded and of blanks
between them. -/
theorem cursor_segments_source (operators : OperatorTable) (source : String) :
    let text := Unicode.trim source.toList
    let cursor := Cursor.start source
    (∀ calls, (cursor.after operators calls).Advances operators text) ∧
      (∀ calls, (cursor.items operators calls).countP Option.isSome ≤ text.length + 1) ∧
      ∀ tokens : List String,
        cursor.items operators (tokens.length + 1) =
            tokens.map (fun token => some (.ok token)) ++ [none] →
          Joined Unicode.IsBlanks tokens text := by
  intro text cursor
  obtain ⟨first, last⟩ := Unicode.isBlank_of_mem_trim source.toList
  refine ⟨fun calls => ?_, cursor.countP_items_le operators, fun tokens run => ?_⟩
  · exact (Cursor.on_after operators calls (Cursor.on_start source)).advances operators
  · exact (Cursor.items_eq_iff.1 run).joined first last

/-- Of three signs in a row the last one belongs to a number. -/
theorem cursor_segments_source_signs :
    (Cursor.start " x* --2.5 ").items .standard 5 =
        [some (.ok "x"), some (.ok "*"), some (.ok "-"), some (.ok "-2.5"), none] ∧
      Joined Unicode.IsBlanks ["x", "*", "-", "-2.5"] "x* --2.5".toList :=
  ⟨by rfl, (cursor_segments_source .standard " x* --2.5 ").2.2 ["x", "*", "-", "-2.5"] (by rfl)⟩

/-- A fault ends a run, whatever comes after it. -/
example : (Cursor.start "1 # 2").items .standard 4 =
    [some (.ok "1"), some (.error (.unknownOperator "#" 3)), none, none] := by
  rfl

/-- **The tokens of a source are the same with other blanks between them**, when there is a blank at
least between two tokens. Before the first token and behind the last one there may be any blanks. -/
theorem tokenize_respaced {source : String} {tokens : List String}
    (spelled : tokenize operators source = .ok tokens) {front middle back : List Char}
    (before : Unicode.IsBlanks front) (joined : Joined Unicode.IsGap tokens middle)
    (behind : Unicode.IsBlanks back) :
    tokenize operators (String.ofList (front ++ (middle ++ back))) = .ok tokens := by
  rw [tokenize_eq_ok_iff] at spelled ⊢
  rw [String.toList_ofList, Splits.blanks_append_iff before, Splits.append_blanks_iff behind]
  exact spelled.respaced joined

/-- A minus sign that stands apart from the number behind it, one that belongs to it, and a text
with a blank, which make up no expression. -/
theorem tokenize_respaced_signs :
    let tokens := ["-", "3", "*", "-2", ",", "'a b'"]
    tokenize .standard "- 3*-2,'a b'" = .ok tokens ∧
      tokenize .standard "-\t3 *  -2 , 'a b' " = .ok tokens := by
  intro tokens
  have spelled : tokenize .standard "- 3*-2,'a b'" = .ok tokens := by rfl
  have gap : Unicode.IsGap [' '] := ⟨by decide, List.forall_mem_singleton.2 (by decide)⟩
  have tab : Unicode.IsGap ['\t'] := ⟨by decide, List.forall_mem_singleton.2 (by decide)⟩
  have wide : Unicode.IsGap [' ', ' '] :=
    ⟨by decide, List.forall_mem_cons.2 ⟨by decide, List.forall_mem_singleton.2 (by decide)⟩⟩
  have joined : Joined Unicode.IsGap tokens "-\t3 *  -2 , 'a b'".toList :=
    .cons tab (.cons gap (.cons wide (.cons gap (.cons gap .single))))
  have source : "-\t3 *  -2 , 'a b' " =
      String.ofList ([] ++ ("-\t3 *  -2 , 'a b'".toList ++ [' '])) := by rfl
  rw [source]
  exact ⟨spelled, tokenize_respaced spelled (List.forall_mem_nil _) joined gap.2⟩

end Formula
