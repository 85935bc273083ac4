import Formula.Proofs.Postfix.Mirroring
import Formula.Proofs.Substitution.Occurrence

set_option autoImplicit false

/-!
# Substitution is inlining

A name can be bound to a source in the place of a value, and the source of the expression is then
rewritten. This is the same as binding the name to a value and replacing it by the postfix sequence
of the source in the postfix sequence of the expression.

The yard is run on both sources side by side. While it takes in a token of the expression, the
output is the same up to what is inlined, and the same tokens wait. The replacement in parentheses
leaves just its own postfix sequence, for the name stands where an operand begins, and there no
function waits.

## Main definitions

* `Formula.Symbols.withNumber` — the tables with a name bound to a number.

## Main results

* `Formula.Yard.Mirrors.acceptAll` — the run on a source in which a name is replaced.
* `Formula.toPostfix_substitute` — the postfix sequence of the rewritten source.
-/

namespace Formula

/-- Whether names are apart depends on the operators and functions only. -/
lemma Symbols.NamesApart.of_same {symbols others : Symbols} (apart : others.NamesApart)
    (sameOperators : others.operators = symbols.operators)
    (sameFunctions : others.functions = symbols.functions) : symbols.NamesApart :=
  ⟨sameOperators ▸ apart.operator, sameFunctions ▸ apart.function,
    sameOperators ▸ sameFunctions ▸ apart.apart⟩

namespace Yard

variable {symbols others : Symbols} {yard image after : Yard}

/-- Where an operand begins no function waits on top of the stack. -/
lemma noFunction_on_top (apart : symbols.NamesApart) {lexeme : Lexeme}
    (accepted : yard.accept symbols lexeme = .ok after)
    (opens : (symbols.classify lexeme.token).opensOperand = true) :
    ∀ waiting ∈ after.stack.head?, symbols.functions.contains waiting = false := by
  obtain ⟨moved, -, stack, moves⟩ := accept_eq_ok accepted
  rw [stack]
  cases kind : symbols.classify lexeme.token <;> simp only [kind] at moves opens
  case operator =>
    obtain ⟨operator, found⟩ := Symbols.find?_of_classify_eq_operator kind
    subst moves
    simp only [Yard.pushOperator, found, Yard.push, List.head?_cons]
    rintro waiting ⟨rfl⟩
    rw [Bool.eq_false_iff]
    intro function
    have noOperator := apart.apart _ function
    rw [NameTable.contains_eq_isSome_find?, found] at noOperator
    cases noOperator
  case comma =>
    obtain ⟨-, below, waits⟩ := closeArgument_eq_ok moves
    rw [waits]
    rintro waiting ⟨rfl⟩
    exact apart.function
  case leftParen =>
    obtain ⟨waits, -⟩ := openGroup_eq_ok moves
    rw [waits]
    rintro waiting ⟨rfl⟩
    exact apart.function
  all_goals cases opens

section

variable (apart : others.NamesApart) (sameOperators : others.operators = symbols.operators)
  (sameFunctions : others.functions = symbols.functions) {name : String}
  (sameKind : ∀ token, token ≠ name → others.classify token = symbols.classify token)
  (bound : symbols.classify name = .boundName) {source : String} {tokens sequence : List String}
  (spelled : tokenize others.operators source = .ok tokens)
  (arranged : toPostfix others source = .ok sequence)

include apart sameFunctions bound spelled arranged in
/-- **The name is taken in as its replacement** where an operand begins and no function waits. -/
lemma Mirrors.accept_name (mirrors : Mirrors (Substitution.expand name sequence) [] [] yard image)
    (opens : yard.previous.all TokenKind.opensOperand = true)
    (noCall : ∀ waiting ∈ yard.stack.head?, symbols.functions.contains waiting = false)
    {stop : Nat} (accepted : yard.accept symbols ⟨name, stop⟩ = .ok after)
    {lexemes : List Lexeme}
    (parenthesized : lexemes.map Lexeme.token =
      Token.leftParen :: tokens ++ [Token.rightParen]) :
    ∃ next, image.acceptAll others lexemes = .ok next ∧
      Mirrors (Substitution.expand name sequence) [] [] after next := by
  have notBefore : ∀ kind, TokenKind.opensOperand kind = false → yard.previous ≠ some kind := by
    intro kind closes same
    rw [same, Option.all_some, closes] at opens
    cases opens
  obtain ⟨next, run, output, stack, previous⟩ :=
    acceptAll_parenthesized apart.operator apart.function spelled arranged
      (mt mirrors.numeral.1 (notBefore _ rfl)) (mt mirrors.function.1 (notBefore _ rfl))
      (by simpa [mirrors.stack, sameFunctions] using noCall) parenthesized
  refine ⟨next, run, ?_⟩
  rw [accept_value (by rw [bound]; rfl)] at accepted
  obtain rfl := Except.ok.inj accepted
  refine ⟨?_, stack.trans mirrors.stack, mirrors.kept, ?_, ?_⟩
  · rw [output, mirrors.output]
    show _ = (name :: yard.output).flatMap _ ++ []
    simp [Substitution.expand]
  · simp [previous, bound]
  · simp [previous, bound]

include apart sameOperators sameFunctions sameKind bound spelled arranged in
/-- **A token is taken in as what takes its place**: the name as its replacement, another token as
it is. -/
lemma Mirrors.accept_expanded
    (mirrors : Mirrors (Substitution.expand name sequence) [] [] yard image) {lexeme : Lexeme}
    (inPlace : lexeme.token = name → yard.previous.all TokenKind.opensOperand = true)
    (noCall : yard.previous.all TokenKind.opensOperand = true →
      ∀ waiting ∈ yard.stack.head?, symbols.functions.contains waiting = false)
    (accepted : yard.accept symbols lexeme = .ok after) {lexemes : List Lexeme}
    (replaced : lexemes.map Lexeme.token =
      Substitution.expand name (Token.leftParen :: tokens ++ [Token.rightParen]) lexeme.token) :
    ∃ next, image.acceptAll others lexemes = .ok next ∧
      Mirrors (Substitution.expand name sequence) [] [] after next := by
  obtain ⟨token, stop⟩ := lexeme
  by_cases isName : token = name
  · subst isName
    rw [Substitution.expand, if_pos rfl] at replaced
    exact mirrors.accept_name apart sameFunctions bound spelled arranged (inPlace rfl)
      (noCall (inPlace rfl)) accepted replaced
  · rw [Substitution.expand, if_neg isName] at replaced
    obtain ⟨other, nothing, rfl, sameToken, empty⟩ := List.map_eq_cons_iff.1 replaced
    obtain rfl := List.map_eq_nil_iff.1 empty
    obtain ⟨next, acceptedToo, mirrorsNext⟩ := mirrors.accept (by simp) apart.operator
      apart.function sameOperators sameFunctions sameToken (sameKind token isName)
      (if_neg isName) accepted
    refine ⟨next, ?_, mirrorsNext⟩
    rw [Yard.acceptAll, acceptedToo]
    rfl

include apart sameOperators sameFunctions sameKind bound spelled arranged in
/-- **The run on a source in which a name is replaced** mirrors the run on the source in which it is
bound to a value.

**Proof sketch.** Induction on the tokens of the source. A token other than the name is taken in by
both yards alike. The name is written as a value by the one yard. It stands where an operand begins,
so the other yard opens a group at the left parenthesis, takes in the replacement, and has its
postfix sequence in the output after the right parenthesis. -/
theorem Mirrors.acceptAll {lexemes lexemes' : List Lexeme}
    (mirrors : Mirrors (Substitution.expand name sequence) [] [] yard image)
    {earlier : Option String} (previous : yard.previous = earlier.map symbols.classify)
    (noCall : yard.previous.all TokenKind.opensOperand = true →
      ∀ waiting ∈ yard.stack.head?, symbols.functions.contains waiting = false)
    (inPlace : (earlier.toList ++ lexemes.map Lexeme.token).IsChain fun earlier token =>
      token = name → (symbols.classify earlier).opensOperand = true)
    (replaced : lexemes'.map Lexeme.token = (lexemes.map Lexeme.token).flatMap
      (Substitution.expand name (Token.leftParen :: tokens ++ [Token.rightParen])))
    (run : yard.acceptAll symbols lexemes = .ok after) :
    ∃ last, image.acceptAll others lexemes' = .ok last ∧
      Mirrors (Substitution.expand name sequence) [] [] after last := by
  have apartSymbols : symbols.NamesApart := apart.of_same sameOperators sameFunctions
  induction lexemes generalizing yard image lexemes' earlier with
  | nil =>
    obtain rfl := List.map_eq_nil_iff.1 replaced
    obtain rfl := Except.ok.inj run
    exact ⟨image, rfl, mirrors⟩
  | cons lexeme rest ih =>
    obtain ⟨moved, accepted, run⟩ := Fault.bind_eq_ok_iff.1 run
    rw [List.map_cons, List.flatMap_cons] at replaced
    obtain ⟨front, back, rfl, frontTokens, backTokens⟩ := List.map_eq_append_iff.1 replaced
    obtain ⟨place, inPlaceRest⟩ := isChain_toList_append_cons.1 inPlace
    have opens : lexeme.token = name → yard.previous.all TokenKind.opensOperand = true := by
      intro isName
      rw [previous]
      cases earlier with
      | none => rfl
      | some earlier => simpa using place earlier rfl isName
    obtain ⟨next, runFront, mirrorsNext⟩ := mirrors.accept_expanded apart sameOperators
      sameFunctions sameKind bound spelled arranged opens noCall accepted frontTokens
    have previousMoved : moved.previous = (some lexeme.token).map symbols.classify :=
      previous_accept accepted
    have noCallMoved : moved.previous.all TokenKind.opensOperand = true →
        ∀ waiting ∈ moved.stack.head?, symbols.functions.contains waiting = false := by
      intro opens
      rw [previousMoved] at opens
      exact noFunction_on_top apartSymbols accepted (by simpa using opens)
    obtain ⟨last, runBack, mirrorsLast⟩ :=
      ih mirrorsNext previousMoved noCallMoved inPlaceRest backTokens run
    refine ⟨last, ?_, mirrorsLast⟩
    rw [acceptAll_append, runFront]
    exact runBack

end

end Yard

/-! ## Where the name stands -/

namespace Place

variable {symbols : Symbols} {place next last : Place} {tokens : List String}

/-- What a step says about the token before. -/
lemma step_eq_some {kind : TokenKind} (stepped : place.step kind = some next) :
    next.previous = some kind ∧ (kind.isValue = true → place.beginsOperand = true) := by
  unfold step at stepped
  cases kind <;>
    grind [TokenKind.isValue]

/-- **A value stands where an operand begins** in a sequence whose tokens are in their places. -/
lemma isChain_of_steps {earlier : Option String}
    (previous : place.previous = earlier.map symbols.classify)
    (inPlace : place.steps symbols tokens = some last) :
    (earlier.toList ++ tokens).IsChain fun earlier token =>
      (symbols.classify token).isValue = true → (symbols.classify earlier).opensOperand = true := by
  induction tokens generalizing place earlier with
  | nil => cases earlier <;> simp
  | cons token rest ih =>
    rw [steps_cons, Option.bind_eq_some_iff] at inPlace
    obtain ⟨next, stepped, inPlace⟩ := inPlace
    obtain ⟨previousNext, begins⟩ := step_eq_some stepped
    have others : (token :: rest).IsChain fun earlier token =>
        (symbols.classify token).isValue = true → (symbols.classify earlier).opensOperand = true :=
      @ih next (some token) previousNext inPlace
    refine isChain_toList_append_cons.2 ⟨fun before isBefore value => ?_, others⟩
    rw [Option.mem_def.1 isBefore] at previous
    simpa [beginsOperand, previous] using begins value

end Place

/-! ## The rewritten source -/

/-- The tables with a name bound to a number. -/
def Symbols.withNumber (symbols : Symbols) (name : String) (number : Decimal) : Symbols :=
  { symbols with bindings := symbols.bindings.setNumber name number }

/-- A binding adds one name to the bound ones. -/
lemma Symbols.contains_withNumber (symbols : Symbols) (name token : String) (number : Decimal) :
    (symbols.withNumber name number).bindings.contains token =
      (decide (token = name) || symbols.bindings.contains token) :=
  Variables.contains_setNumber ..

/-- Other tokens are taken for what they were. -/
lemma Symbols.classify_withNumber_of_ne (symbols : Symbols) {name token : String}
    (number : Decimal) (other : token ≠ name) :
    (symbols.withNumber name number).classify token = symbols.classify token := by
  have operators : (symbols.withNumber name number).operators = symbols.operators := rfl
  have functions : (symbols.withNumber name number).functions = symbols.functions := rfl
  simp [classify, operators, functions, contains_withNumber, other]

/-- An identifier that is no operator is taken for a bound name. -/
lemma Symbols.classify_withNumber (symbols : Symbols) {name : String} (number : Decimal)
    (shape : Token.IsName name.toList) (noOperator : symbols.operators.contains name = false) :
    (symbols.withNumber name number).classify name = .boundName := by
  obtain ⟨⟨noLeft, noRight, noComma⟩, noNumeral, noText⟩ := shape.other
  rw [classify, if_neg noLeft, if_neg noRight, if_neg noComma, if_neg (by simp [noNumeral]),
    if_neg (by simp [noText]),
    if_neg (by rw [withNumber, noOperator]; exact Bool.false_ne_true),
    if_pos (by simp [contains_withNumber])]

variable {symbols : Symbols} {name source replacement : String} {tokens sequence : List String}

/-- **The tokens of the rewritten source** are those of the source, with the tokens of the
replacement in parentheses in the place of the name. -/
theorem tokenize_substitute {operators : OperatorTable} (shape : Token.IsName name.toList)
    (asciiName : Substitution.IsAscii name.toList) (noOperator : operators.contains name = false)
    (noClosing : operators.contains Token.rightParen = false)
    (ascii : Substitution.IsAscii source.toList) (noText : Delimited.delimiter ∉ source.toList)
    (spelled : tokenize operators source = .ok tokens)
    (single : ∀ token ∈ tokens,
      token.toList.map Char.toLower = name.toList.map Char.toLower → token = name)
    (apart : tokens.IsChain fun earlier token => token = name → Token.isNumeral earlier = false)
    {inner : List String} (spelledReplacement : tokenize operators replacement = .ok inner) :
    tokenize operators (substitute source name replacement) =
      .ok (tokens.flatMap
        (Substitution.expand name (Token.leftParen :: inner ++ [Token.rightParen]))) := by
  rw [tokenize_eq_ok_iff] at spelled spelledReplacement ⊢
  rw [substitute, String.toList_ofList]
  exact Splits.replace shape asciiName noOperator noClosing spelledReplacement spelled ascii noText
    single apart (.start _) rfl

section

variable {bound others : Symbols} (apart : others.NamesApart)
  (sameOperators : others.operators = bound.operators)
  (sameFunctions : others.functions = bound.functions)
  (sameKind : ∀ token, token ≠ name → others.classify token = bound.classify token)
  (kind : bound.classify name = .boundName)

/-- In an infix sequence a bound name stands where an operand begins. -/
lemma InfixSequence.isChain_opensOperand (derivation : InfixSequence bound tokens)
    (kind : bound.classify name = .boundName) :
    tokens.IsChain fun earlier token =>
      token = name → (bound.classify earlier).opensOperand = true := by
  obtain ⟨place, inPlace⟩ := Option.isSome_iff_exists.1 derivation.orderly
  refine (@Place.isChain_of_steps bound .start place tokens none rfl inPlace).imp ?_
  rintro earlier token begins rfl
  exact begins (by rw [kind]; rfl)

include apart sameOperators sameFunctions sameKind kind in
/-- **A source with the tokens of the replacement in the place of a name** has the postfix sequence
of the replacement in the place of the name.

**Proof sketch.** The yard on the one source mirrors the yard on the other. What waits at the end is
the same in both, and the name does not wait, since it is no operator. -/
lemma toPostfix_of_replaced {rewritten : String} {inner inlined : List String}
    (spelled : tokenize bound.operators source = .ok tokens)
    (begins : tokens.IsChain fun earlier token =>
      token = name → (bound.classify earlier).opensOperand = true)
    (spelledReplacement : tokenize others.operators replacement = .ok inner)
    (replaced : tokenize others.operators rewritten = .ok (tokens.flatMap
      (Substitution.expand name (Token.leftParen :: inner ++ [Token.rightParen]))))
    (compiled : toPostfix bound source = .ok sequence)
    (arranged : toPostfix others replacement = .ok inlined) :
    toPostfix others rewritten = .ok (sequence.flatMap (Substitution.expand name inlined)) := by
  obtain ⟨lexemes, after, spelledToo, run, operators, rfl⟩ := toPostfix_eq_ok compiled
  obtain rfl := Except.ok.inj (spelledToo.symm.trans spelled)
  obtain ⟨noFault, rewrittenTokens⟩ := tokenize_eq_ok replaced
  have start : Yard.Mirrors (Substitution.expand name inlined) [] [] .empty .empty :=
    ⟨rfl, rfl, by simp [Yard.empty], Iff.rfl, Iff.rfl⟩
  have previous : Yard.empty.previous = (none : Option String).map bound.classify := rfl
  have nothingWaits : ∀ waiting ∈ Yard.empty.stack.head?,
      bound.functions.contains waiting = false := by
    simp [Yard.empty]
  obtain ⟨last, runToo, mirrors⟩ := start.acceptAll apart sameOperators sameFunctions sameKind kind
    spelledReplacement arranged previous (fun _ => nothingWaits) begins rewrittenTokens run
  have sameStack : last.stack = after.stack := by
    rw [mirrors.stack, List.append_nil]
  have operatorsToo : ∀ waiting ∈ last.stack, others.classify waiting = .operator := by
    rw [sameStack]
    intro waiting member
    have operator := operators waiting member
    have noName : waiting ≠ name := by
      rintro rfl
      rw [kind] at operator
      cases operator
    rw [sameKind waiting noName, operator]
  have sameOutput : last.output.reverse =
      after.output.reverse.flatMap (Substitution.expand name inlined) := by
    rw [mirrors.output, List.append_nil, List.reverse_flatMap]
    simp only [Function.comp_def, List.reverse_reverse]
  rw [toPostfix, runToo, noFault, Fault.ok_bind]
  refine (Yard.drain_eq last.output last.stack operatorsToo).trans (congrArg _ ?_)
  rw [sameOutput, sameStack, List.flatMap_append, Yard.Mirrors.flatMap_of_kept mirrors.kept]

end

/-- **Binding a name to a source is inlining.** Let a name be an ASCII identifier that is no
operator, and let a source of ASCII characters without text literals spell an infix sequence when
the name is bound to a value, in which no other token differs from the name in case only. When the
name can be searched for and is replaced by a source that can be brought into postfix order, then
so can the rewritten source, and its sequence is that of the source with the sequence of the
replacement in the place of the name.

**Proof sketch.** The tokens of the rewritten source are those of the source, with the tokens of the
replacement in parentheses in the place of the name. The name stands where an operand begins, and
so the yard leaves the sequence of the replacement where it leaves the name. -/
theorem toPostfix_substitute (apart : symbols.NamesApart)
    (noClosing : symbols.operators.contains Token.rightParen = false)
    (shape : Token.IsName name.toList) (asciiName : Substitution.IsAscii name.toList)
    (noOperator : symbols.operators.contains name = false)
    (ascii : Substitution.IsAscii source.toList) (noText : Delimited.delimiter ∉ source.toList)
    (spelled : tokenize symbols.operators source = .ok tokens) (number : Decimal)
    (derivation : InfixSequence (symbols.withNumber name number) tokens)
    (single : ∀ token ∈ tokens,
      token.toList.map Char.toLower = name.toList.map Char.toLower → token = name)
    {inlined : List String} (arranged : toPostfix symbols replacement = .ok inlined)
    {searchable : String → Bool} (found : searchable name = true) :
    ∃ sequence rewritten, toPostfix (symbols.withNumber name number) source = .ok sequence ∧
      substitute? searchable source name replacement = some rewritten ∧
      toPostfix symbols rewritten = .ok (sequence.flatMap (Substitution.expand name inlined)) := by
  -- the tables stay closed, since the yard would look into the bindings otherwise
  obtain ⟨bound, isBound⟩ : ∃ bound, bound = symbols.withNumber name number := ⟨_, rfl⟩
  have sameOperators : symbols.operators = bound.operators := by rw [isBound]; rfl
  have sameFunctions : symbols.functions = bound.functions := by rw [isBound]; rfl
  have kind : bound.classify name = .boundName := by
    rw [isBound]
    exact symbols.classify_withNumber number shape noOperator
  have sameKind : ∀ token, token ≠ name → symbols.classify token = bound.classify token := by
    rw [isBound]
    exact fun token other => (symbols.classify_withNumber_of_ne number other).symm
  have apartBound : bound.NamesApart := apart.of_same sameOperators sameFunctions
  rw [← isBound] at derivation ⊢
  have begins := derivation.isChain_opensOperand kind
  have notNumeral : tokens.IsChain fun earlier token =>
      token = name → Token.isNumeral earlier = false := by
    refine begins.imp fun earlier token opens isName => ?_
    rw [Bool.eq_false_iff]
    intro numeral
    have closes := opens isName
    rw [bound.classify_of_isNumeral numeral] at closes
    cases closes
  obtain ⟨inner, spelledReplacement⟩ := exists_tokens_of_toPostfix arranged
  have rewritten := tokenize_substitute shape asciiName noOperator noClosing ascii noText spelled
    single notNumeral spelledReplacement
  obtain ⟨tree, spells⟩ := derivation.exists_spells
  rw [sameOperators] at spelled
  have compiled := toPostfix_of_spells apartBound spelled spells
  exact ⟨_, _, compiled, substitute?_of_searchable found source replacement,
    toPostfix_of_replaced apart sameOperators sameFunctions sameKind kind spelled begins
      spelledReplacement rewritten compiled arranged⟩

/-- The name stands in an argument of a call and behind a minus sign, and the `x` of `max` is not
replaced. Names of up to a thousand characters can be searched for. -/
theorem toPostfix_substitute_max :
    let searchable := fun name : String => decide (name.length ≤ 1000)
    substitute? searchable "2*max(x, -1)-x" "x" "1-true" = some "2*max((1-true), -1)-(1-true)" ∧
      ∃ sequence rewritten,
        toPostfix (Symbols.standard.withNumber "x" .one) "2*max(x, -1)-x" = .ok sequence ∧
        substitute? searchable "2*max(x, -1)-x" "x" "1-true" = some rewritten ∧
        toPostfix .standard rewritten =
          .ok (sequence.flatMap (Substitution.expand "x" ["1", "true", "-"])) := by
  intro searchable
  have spelled : tokenize Symbols.standard.operators "2*max(x, -1)-x" =
      .ok ["2", "*", "max", "(", "x", ",", "-1", ")", "-", "x"] := by decide +kernel
  have arranged : toPostfix .standard "1-true" = .ok ["1", "true", "-"] := by decide +kernel
  have number : InfixSequence (Symbols.standard.withNumber "x" .one) ["2"] := .value (by decide)
  have name : InfixSequence (Symbols.standard.withNumber "x" .one) ["x"] := .value (by decide)
  have argument : ∀ argument ∈ [["-1"]],
      InfixSequence (Symbols.standard.withNumber "x" .one) argument :=
    List.forall_mem_singleton.2 (.value (by decide))
  have call : InfixSequence (Symbols.standard.withNumber "x" .one)
      ["max", "(", "x", ",", "-1", ")"] := .call (by decide) name argument
  have derivation : InfixSequence (Symbols.standard.withNumber "x" .one)
      ["2", "*", "max", "(", "x", ",", "-1", ")", "-", "x"] :=
    .operation (by decide) number (.operation (by decide) call name)
  exact ⟨by decide +kernel, toPostfix_substitute Symbols.namesApart_standard (by decide)
    (by decide) (by decide) (by decide) (by decide) (by decide) spelled .one derivation (by decide)
    arranged (by decide)⟩

end Formula
