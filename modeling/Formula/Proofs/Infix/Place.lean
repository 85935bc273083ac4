import Formula.Proofs.Infix.Language

set_option autoImplicit false

/-!
# Where tokens may stand

Whether a token of a source is in its place can be told from the token before it and from the
parentheses that are open: operands and operators alternate, a function has parentheses after it,
and commas stand between the arguments of a call. A sequence in which every token is in its place
need not be complete. It may end before its last operand, and its parentheses need not be closed.

## Main definitions

* `Formula.Place` — what is known before a token, with `Formula.Place.step`.
* `Formula.Orderly` — every token of a sequence is in its place.
* `Formula.Awaits` — an operand is all that is missing before the open parentheses are closed.
* `Formula.Place.Reads` — what has been read at a place.

## Main results

* `Formula.InfixSequence.orderly` — the tokens of an infix sequence are in their places.
* `Formula.Place.Reads.step` — what a token adds to what has been read.
-/

namespace Formula

/-- Whether an operand begins after a token of this kind. -/
def TokenKind.opensOperand : TokenKind → Bool
  | operator | leftParen | comma => true
  | _ => false

/-- Whether an operand ends with a token of this kind. A name without a meaning stands where a
value does. -/
def TokenKind.endsOperand : TokenKind → Bool
  | freeName | rightParen => true
  | kind => kind.isValue

/-- What is known before a token. -/
structure Place where
  /-- Of each open parenthesis, the innermost first, whether it is that of a call. -/
  calls : List Bool
  /-- The kind of the token before. -/
  previous : Option TokenKind

namespace Place

/-- The place before the first token. -/
def start : Place := ⟨[], none⟩

/-- An operand begins at this place. -/
def beginsOperand (place : Place) : Bool := place.previous.all TokenKind.opensOperand

/-- An operand ends just before this place. -/
def endsOperand (place : Place) : Bool := place.previous.any TokenKind.endsOperand

/-- The innermost open parenthesis is that of a call. -/
def inCall (place : Place) : Bool := place.calls.head?.any id

/-- The place after a token of a given kind, if such a token may stand at the place before. -/
def step (place : Place) (kind : TokenKind) : Option Place :=
  match kind with
  | .numeral | .text | .boundName | .freeName | .function =>
    if place.beginsOperand then some { place with previous := some kind } else none
  | .operator =>
    if place.endsOperand then some { place with previous := some kind } else none
  | .comma =>
    if place.endsOperand && place.inCall then some { place with previous := some kind } else none
  | .leftParen =>
    if place.previous = some .function then some ⟨true :: place.calls, some kind⟩
    else if place.beginsOperand then some ⟨false :: place.calls, some kind⟩
    else none
  | .rightParen =>
    if place.endsOperand || place.inCall && place.previous = some .leftParen then
      some ⟨place.calls.tail, some kind⟩
    else none
  | .unknown => none

/-- The place after a list of tokens, if all of them are in their places. -/
def steps (symbols : Symbols) (place : Place) (tokens : List String) : Option Place :=
  tokens.foldlM (fun place token => place.step (symbols.classify token)) place

variable {symbols : Symbols}

/-- No token leads from a place to itself. -/
@[simp] lemma steps_nil (place : Place) : place.steps symbols [] = some place := rfl

/-- The tokens are read one after the other. -/
@[simp] lemma steps_cons (place : Place) (token : String) (rest : List String) :
    place.steps symbols (token :: rest) =
      (place.step (symbols.classify token)).bind fun next => next.steps symbols rest := rfl

/-- The second part of the tokens is read from where the first one has led. -/
@[simp] lemma steps_append (place : Place) (first second : List String) :
    place.steps symbols (first ++ second) =
      (place.steps symbols first).bind fun next => next.steps symbols second :=
  List.foldlM_append

end Place

/-- Every token of a sequence is in its place. -/
def Orderly (symbols : Symbols) (tokens : List String) : Prop :=
  (Place.start.steps symbols tokens).isSome = true

/-- Whether a sequence is orderly is decided by reading it. -/
instance (symbols : Symbols) (tokens : List String) : Decidable (Orderly symbols tokens) :=
  inferInstanceAs (Decidable (_ = true))

/-! ## Infix sequences are orderly -/

namespace Place

variable {symbols : Symbols}

variable {place : Place} {calls : List Bool} {kind : TokenKind}

/-- A value stands where an operand begins. -/
lemma step_value (value : kind.isValue = true) (begins : place.beginsOperand = true) :
    place.step kind = some ⟨place.calls, some kind⟩ := by
  cases kind <;> simp_all [step, TokenKind.isValue]

/-- A function stands where an operand begins. -/
lemma step_function (begins : place.beginsOperand = true) :
    place.step .function = some ⟨place.calls, some .function⟩ := by
  simp [step, begins]

/-- An operator stands behind an operand. -/
lemma step_operator (ends : kind.endsOperand = true) :
    (⟨calls, some kind⟩ : Place).step .operator = some ⟨calls, some .operator⟩ := by
  simp [step, endsOperand, ends]

/-- A comma stands behind an operand, directly inside the parentheses of a call. -/
lemma step_comma (ends : kind.endsOperand = true) :
    (⟨true :: calls, some kind⟩ : Place).step .comma = some ⟨true :: calls, some .comma⟩ := by
  simp [step, endsOperand, inCall, ends]

/-- A group begins where an operand begins. -/
lemma step_leftParen (begins : place.beginsOperand = true) :
    place.step .leftParen = some ⟨false :: place.calls, some .leftParen⟩ := by
  have notFunction : place.previous ≠ some .function := by
    intro function
    simp [beginsOperand, function, TokenKind.opensOperand] at begins
  simp [step, begins, notFunction]

/-- Behind a function begins the list of its arguments. -/
lemma step_leftParen_of_function (calls : List Bool) :
    (⟨calls, some .function⟩ : Place).step .leftParen = some ⟨true :: calls, some .leftParen⟩ := by
  simp [step]

/-- A parenthesis closes a group or a call behind an operand. -/
lemma step_rightParen {call : Bool} (ends : kind.endsOperand = true) :
    (⟨call :: calls, some kind⟩ : Place).step .rightParen = some ⟨calls, some .rightParen⟩ := by
  simp [step, endsOperand, ends]

/-- A call may have no arguments. -/
lemma step_rightParen_of_leftParen (calls : List Bool) :
    (⟨true :: calls, some .leftParen⟩ : Place).step .rightParen =
      some ⟨calls, some .rightParen⟩ := by
  simp [step, inCall]

/-- A left parenthesis opens one more group or call, and a right one closes one. -/
lemma length_calls_of_step {next : Place} :
    place.step kind = some next →
      next.calls.length =
        match kind with
        | .leftParen => place.calls.length + 1
        | .rightParen => place.calls.length - 1
        | _ => place.calls.length := by
  intro stepped
  unfold step at stepped
  cases kind <;> grind

end Place

namespace InfixSequence

variable {symbols : Symbols} {sequence : List String}

/-- A sequence takes a place where an operand begins to one where an operand has ended. -/
def Fits (symbols : Symbols) (sequence : List String) : Prop :=
  ∀ place : Place, place.beginsOperand = true →
    ∃ kind : TokenKind, kind.endsOperand = true ∧
      place.steps symbols sequence = some ⟨place.calls, some kind⟩

/-- The arguments after the first one, a comma in front of each, fit into a call. -/
lemma steps_further {further : List (List String)}
    (all : ∀ argument ∈ further, Fits symbols argument) (calls : List Bool) (before : TokenKind)
    (ends : before.endsOperand = true) :
    ∃ kind : TokenKind, kind.endsOperand = true ∧
      (⟨true :: calls, some before⟩ : Place).steps symbols
        (further.flatMap (Token.comma :: ·)) = some ⟨true :: calls, some kind⟩ := by
  induction further generalizing before with
  | nil => exact ⟨before, ends, rfl⟩
  | cons argument rest ih =>
    obtain ⟨fits, others⟩ := List.forall_mem_cons.1 all
    obtain ⟨kind, ends', run⟩ := fits ⟨true :: calls, some .comma⟩ rfl
    obtain ⟨last, endsLast, runRest⟩ := ih others kind ends'
    refine ⟨last, endsLast, ?_⟩
    simp [Place.step_comma ends, run, runRest]

/-- **The tokens of an infix sequence are in their places**, wherever an operand may begin. -/
theorem fits (derivation : InfixSequence symbols sequence) : Fits symbols sequence := by
  induction derivation with
  | @value token kind =>
    intro place begins
    refine ⟨symbols.classify token, ?_, by simp [Place.step_value kind begins]⟩
    cases classified : symbols.classify token <;>
      simp_all [TokenKind.isValue, TokenKind.endsOperand]
  | @operation symbol left right kind _ _ ihl ihr =>
    intro place begins
    obtain ⟨before, ends, runLeft⟩ := ihl place begins
    obtain ⟨after, endsRight, runRight⟩ := ihr ⟨place.calls, some .operator⟩ rfl
    refine ⟨after, endsRight, ?_⟩
    simp [runLeft, kind, Place.step_operator ends, runRight]
  | @group inner _ ih =>
    intro place begins
    obtain ⟨kind, ends, run⟩ := ih ⟨false :: place.calls, some .leftParen⟩ rfl
    refine ⟨.rightParen, rfl, ?_⟩
    simp [Place.step_leftParen begins, run, Place.step_rightParen ends]
  | @emptyCall name kind =>
    intro place begins
    refine ⟨.rightParen, rfl, ?_⟩
    simp [kind, Place.step_function begins, Place.step_leftParen_of_function,
      Place.step_rightParen_of_leftParen]
  | @call name first further kind _ _ ih ihs =>
    intro place begins
    obtain ⟨before, ends, run⟩ := ih ⟨true :: place.calls, some .leftParen⟩ rfl
    obtain ⟨last, endsLast, runFurther⟩ := steps_further ihs place.calls before ends
    refine ⟨.rightParen, rfl, ?_⟩
    simp [kind, Place.step_function begins, Place.step_leftParen_of_function, run, runFurther,
      Place.step_rightParen endsLast]

/-- The tokens of an infix sequence are in their places. -/
lemma orderly (derivation : InfixSequence symbols sequence) : Orderly symbols sequence := by
  obtain ⟨kind, -, run⟩ := derivation.fits .start rfl
  rw [Orderly, run, Option.isSome_some]

end InfixSequence

/-! ## What has been read -/

/-- After these tokens an operand is all that is missing: with it, the tokens are an infix
sequence or, inside of parentheses, some more arguments and a right parenthesis make an operand of
what stands at the end, before which only an operand is missing as well. The list tells of each
open parenthesis, the innermost first, whether it is that of a call. -/
def Awaits (symbols : Symbols) : List Bool → List String → Prop
  | [], tokens =>
    ∀ operand, InfixSequence symbols operand → InfixSequence symbols (tokens ++ operand)
  | call :: calls, tokens =>
    ∀ first further, InfixSequence symbols first →
      (∀ argument ∈ further, InfixSequence symbols argument) → (call = false → further = []) →
        ∃ before operand, Awaits symbols calls before ∧ InfixSequence symbols operand ∧
          tokens ++ (first ++ further.flatMap (Token.comma :: ·) ++ [Token.rightParen]) =
            before ++ operand

namespace Awaits

variable {symbols : Symbols} {calls : List Bool} {tokens operand : List String}

/-- At the beginning an operand is awaited that is the whole sequence. -/
lemma start : Awaits symbols [] [] := fun _ derivation => derivation

/-- An operand and an operator leave another operand to be awaited. -/
lemma operator (awaits : Awaits symbols calls tokens) (derivation : InfixSequence symbols operand)
    {symbol : String} (kind : symbols.classify symbol = .operator) :
    Awaits symbols calls (tokens ++ operand ++ [symbol]) := by
  cases calls with
  | nil =>
    intro right derivationRight
    simpa using awaits _ (.operation kind derivation derivationRight)
  | cons call calls =>
    intro right further derivationRight all single
    obtain ⟨before, whole, closed⟩ :=
      awaits _ further (.operation kind derivation derivationRight) all single
    exact ⟨before, whole, by simpa using closed⟩

/-- In a call an operand and a comma leave another operand to be awaited. -/
lemma comma (awaits : Awaits symbols (true :: calls) tokens)
    (derivation : InfixSequence symbols operand) :
    Awaits symbols (true :: calls) (tokens ++ operand ++ [Token.comma]) := by
  intro first further derivationFirst all _
  obtain ⟨before, whole, closed⟩ := awaits operand (first :: further) derivation
    (List.forall_mem_cons.2 ⟨derivationFirst, all⟩) (by simp)
  exact ⟨before, whole, by simpa using closed⟩

/-- A parenthesis leaves the only operand of a group to be awaited. -/
lemma group (awaits : Awaits symbols calls tokens) :
    Awaits symbols (false :: calls) (tokens ++ [Token.leftParen]) := by
  intro first further derivation _ single
  obtain rfl := single rfl
  exact ⟨tokens, _, awaits, .group derivation, by simp⟩

/-- The name of a function and a parenthesis leave its first argument to be awaited. -/
lemma call (awaits : Awaits symbols calls tokens) {name : String}
    (kind : symbols.classify name = .function) :
    Awaits symbols (true :: calls) (tokens ++ [name, Token.leftParen]) := by
  intro first further derivation all _
  exact ⟨tokens, _, awaits, .call kind derivation all, by simp⟩

/-- An operand and a right parenthesis end an operand. -/
lemma close {call : Bool} (awaits : Awaits symbols (call :: calls) tokens)
    (derivation : InfixSequence symbols operand) :
    ∃ before whole, Awaits symbols calls before ∧ InfixSequence symbols whole ∧
      tokens ++ operand ++ [Token.rightParen] = before ++ whole := by
  obtain ⟨before, whole, closed⟩ := awaits operand [] derivation (by simp) (by simp)
  exact ⟨before, whole, by simpa using closed⟩

end Awaits

namespace Place

variable {symbols : Symbols}

/-- What has been read at a place, by the kind of the token before it. -/
inductive Reads (symbols : Symbols) : Place → List String → Prop
  | start : Reads symbols .start []
  | operand {calls : List Bool} {kind : TokenKind} {tokens operand : List String}
    (awaits : Awaits symbols calls tokens) (derivation : InfixSequence symbols operand)
    (ends : kind.endsOperand = true) :
    Reads symbols ⟨calls, some kind⟩ (tokens ++ operand)
  | operator {calls : List Bool} {tokens operand : List String} {symbol : String}
    (awaits : Awaits symbols calls tokens) (derivation : InfixSequence symbols operand)
    (kind : symbols.classify symbol = .operator) :
    Reads symbols ⟨calls, some .operator⟩ (tokens ++ operand ++ [symbol])
  | comma {calls : List Bool} {tokens operand : List String}
    (awaits : Awaits symbols (true :: calls) tokens)
    (derivation : InfixSequence symbols operand) :
    Reads symbols ⟨true :: calls, some .comma⟩ (tokens ++ operand ++ [Token.comma])
  | function {calls : List Bool} {tokens : List String} {name : String}
    (awaits : Awaits symbols calls tokens) (kind : symbols.classify name = .function) :
    Reads symbols ⟨calls, some .function⟩ (tokens ++ [name])
  | group {calls : List Bool} {tokens : List String} (awaits : Awaits symbols calls tokens) :
    Reads symbols ⟨false :: calls, some .leftParen⟩ (tokens ++ [Token.leftParen])
  | call {calls : List Bool} {tokens : List String} {name : String}
    (awaits : Awaits symbols calls tokens) (kind : symbols.classify name = .function) :
    Reads symbols ⟨true :: calls, some .leftParen⟩ (tokens ++ [name, Token.leftParen])

namespace Reads

variable {place next : Place} {tokens : List String} {token : String}

/-- Where an operand begins an operand is awaited. -/
lemma awaits (reads : Reads symbols place tokens) (begins : place.beginsOperand = true) :
    Awaits symbols place.calls tokens := by
  cases reads with
  | start => exact .start
  | operand awaits derivation ends =>
    rename_i kind _ _
    cases kind <;> simp_all [beginsOperand, TokenKind.opensOperand, TokenKind.endsOperand,
      TokenKind.isValue]
  | operator awaits derivation kind => exact awaits.operator derivation kind
  | comma awaits derivation => exact awaits.comma derivation
  | function awaits kind => simp [beginsOperand, TokenKind.opensOperand] at begins
  | group awaits => exact awaits.group
  | call awaits kind => exact awaits.call kind

/-- Where an operand has ended an infix sequence has been read after what awaits it. -/
lemma exists_operand (reads : Reads symbols place tokens) (ends : place.endsOperand = true) :
    ∃ before operand, Awaits symbols place.calls before ∧ InfixSequence symbols operand ∧
      tokens = before ++ operand := by
  cases reads with
  | operand awaits derivation _ => exact ⟨_, _, awaits, derivation, rfl⟩
  | _ => simp [endsOperand, Place.start, TokenKind.endsOperand, TokenKind.isValue] at ends

/-- A left parenthesis after a function opens a call. -/
lemma leftParen_of_function (reads : Reads symbols place tokens)
    (function : place.previous = some .function) :
    Reads symbols ⟨true :: place.calls, some .leftParen⟩ (tokens ++ [Token.leftParen]) := by
  cases reads with
  | operand awaits derivation ends =>
    obtain rfl := Option.some.inj function
    cases ends
  | function awaits kind =>
    rw [List.append_assoc]
    exact .call awaits kind
  | _ => cases function

/-- A right parenthesis just after the left one of a call ends an operand. -/
lemma rightParen_of_leftParen (reads : Reads symbols place tokens) (inCall : place.inCall = true)
    (opened : place.previous = some .leftParen) :
    Reads symbols ⟨place.calls.tail, some .rightParen⟩ (tokens ++ [Token.rightParen]) := by
  cases reads with
  | operand awaits derivation ends =>
    obtain rfl := Option.some.inj opened
    cases ends
  | group awaits => cases inCall
  | call awaits kind =>
    rw [List.append_assoc]
    exact .operand awaits (.emptyCall kind) rfl
  | _ => cases opened

/-- A right parenthesis after an operand ends an operand. -/
lemma rightParen (reads : Reads symbols place tokens) (ends : place.endsOperand = true)
    (opened : place.calls ≠ []) :
    Reads symbols ⟨place.calls.tail, some .rightParen⟩ (tokens ++ [Token.rightParen]) := by
  obtain ⟨before, operand, awaits, derivation, rfl⟩ := reads.exists_operand ends
  obtain ⟨_ | ⟨call, calls⟩, previous⟩ := place
  · exact absurd rfl opened
  · obtain ⟨before, operand, awaits, derivation, closed⟩ := awaits.close derivation
    rw [closed]
    exact .operand awaits derivation rfl

/-- **A token in its place adds to what has been read**, if it has a meaning and closes no
parenthesis that has not been opened.

**Proof sketch.** By the kind of the token. What begins an operand stands where one is awaited, and
so does an operand that is a single token. What comes after an operand makes it wait for another
one, or ends a larger operand. -/
theorem step (reads : Reads symbols place tokens)
    (stepped : place.step (symbols.classify token) = some next)
    (meant : symbols.classify token ≠ .freeName)
    (opened : symbols.classify token = .rightParen → place.calls ≠ []) :
    Reads symbols next (tokens ++ [token]) := by
  unfold Place.step at stepped
  cases kind : symbols.classify token <;>
    simp only [kind, Option.ite_none_right_eq_some, Option.some.injEq] at stepped
  case numeral | text | boundName =>
    obtain ⟨begins, rfl⟩ := stepped
    refine .operand (reads.awaits begins) (.value ?_) rfl
    rw [kind, TokenKind.isValue]
  case freeName => exact absurd kind meant
  case unknown => cases stepped
  case function =>
    obtain ⟨begins, rfl⟩ := stepped
    exact .function (reads.awaits begins) kind
  case operator =>
    obtain ⟨ends, rfl⟩ := stepped
    obtain ⟨before, operand, awaits, derivation, rfl⟩ := reads.exists_operand ends
    exact .operator awaits derivation kind
  case comma =>
    obtain rfl := Symbols.classify_eq_comma_iff.1 kind
    obtain ⟨both, rfl⟩ := stepped
    obtain ⟨ends, inCall⟩ := Bool.and_eq_true_iff.1 both
    obtain ⟨before, operand, awaits, derivation, rfl⟩ := reads.exists_operand ends
    obtain ⟨_ | ⟨_ | _, calls⟩, previous⟩ := place
    · cases inCall
    · cases inCall
    · exact .comma awaits derivation
  case leftParen =>
    obtain rfl := Symbols.classify_eq_leftParen_iff.1 kind
    split at stepped
    case isTrue function =>
      obtain rfl := Option.some.inj stepped
      exact reads.leftParen_of_function function
    case isFalse =>
      simp only [Option.ite_none_right_eq_some, Option.some.injEq] at stepped
      obtain ⟨begins, rfl⟩ := stepped
      exact .group (reads.awaits begins)
  case rightParen =>
    obtain rfl := Symbols.classify_eq_rightParen_iff.1 kind
    obtain ⟨either, rfl⟩ := stepped
    simp only [Bool.or_eq_true, Bool.and_eq_true, decide_eq_true_eq] at either
    rcases either with ends | ⟨inCall, after⟩
    · exact reads.rightParen ends (opened kind)
    · exact reads.rightParen_of_leftParen inCall after

end Reads

end Place

end Formula
