import Formula.Token.Kind
import Mathlib.Data.List.Basic

set_option autoImplicit false

/-!
# Terms and their postfix sequences

A postfix sequence is a flat list of tokens. Behind a well-formed one stands a term: an operand,
an operator with two terms, or a function with a list of terms. The sequence is the postorder of
the term, in which a call begins with a left parenthesis, so that the number of its arguments can
be told.

A forest is a prefix of a postfix sequence read back into terms: those of the innermost open
group, and those of the groups around it. Reading the postorder of a term adds just that term,
so a sequence is the postorder of at most one term.

## Main definitions

* `Formula.Term` — the type, with `Formula.Term.postorder`.
* `Formula.Term.WellFormed` — every token has the kind that its place in the term asks for.
* `Formula.PostfixSequence` — the language of postfix sequences, as a grammar.
* `Formula.Forest` — the terms that a prefix of a sequence has been read into, with
  `Formula.Forest.steps`.

## Main results

* `Formula.PostfixSequence.iff_exists_term` — the grammar generates the postorders of well-formed
  terms.
* `Formula.Forest.steps_postorder` — reading the postorder of a term adds the term.
* `Formula.Forest.steps_empty_eq_some_iff` — a sequence is read into a single term exactly when
  it is the postorder of that term.
* `Formula.Term.postorder_injective` — a sequence has at most one well-formed term.
-/

namespace Formula

/-- The structure of an expression. -/
inductive Term where
  /-- An operand. -/
  | value (token : String)
  /-- An operator with its left and its right operand. -/
  | operation (symbol : String) (left right : Term)
  /-- A function with its arguments, first one first. -/
  | call (name : String) (arguments : List Term)

namespace Term

/-- Induction over terms, with the hypothesis for every argument of a call. -/
@[elab_as_elim, induction_eliminator]
theorem induction {motive : Term → Prop} (value : ∀ token, motive (.value token))
    (operation : ∀ symbol left right, motive left → motive right →
      motive (.operation symbol left right))
    (call : ∀ name arguments, (∀ argument ∈ arguments, motive argument) →
      motive (.call name arguments))
    (term : Term) : motive term :=
  Term.rec value operation call (by simp)
    (fun _ _ first others => List.forall_mem_cons.2 ⟨first, others⟩) term

mutual

/-- The postfix sequence of a term: operands first, in their order. -/
def postorder : Term → List String
  | value token => [token]
  | operation symbol left right => left.postorder ++ right.postorder ++ [symbol]
  | call name arguments => Token.leftParen :: postorders arguments ++ [name]

/-- The postfix sequences of a list of terms, one after the other. -/
def postorders : List Term → List String
  | [] => []
  | term :: rest => term.postorder ++ postorders rest

end

/-- The tokens of a list of terms are those of the terms, one after the other. -/
@[simp] theorem postorders_eq_flatMap (terms : List Term) :
    postorders terms = terms.flatMap postorder := by
  induction terms with
  | nil => rfl
  | cons term rest ih => rw [postorders, ih, List.flatMap_cons]

/-- A value is a single token. -/
@[simp] theorem postorder_value (token : String) : (value token).postorder = [token] := by
  rw [postorder]

/-- An operation is written behind its operands. -/
@[simp] theorem postorder_operation (symbol : String) (left right : Term) :
    (operation symbol left right).postorder = left.postorder ++ right.postorder ++ [symbol] := by
  rw [postorder]

/-- A call is written behind its arguments, in front of which a parenthesis marks where they begin.
-/
@[simp] theorem postorder_call (name : String) (arguments : List Term) :
    (call name arguments).postorder =
      Token.leftParen :: arguments.flatMap postorder ++ [name] := by
  rw [postorder, postorders_eq_flatMap]

mutual

/-- Operands stand for values, and the symbols and names of a term are operators and functions. -/
def WellFormed (symbols : Symbols) : Term → Prop
  | value token => (symbols.classify token).isValue = true
  | operation symbol left right =>
    symbols.classify symbol = .operator ∧ left.WellFormed symbols ∧ right.WellFormed symbols
  | call name arguments => symbols.classify name = .function ∧ AllWellFormed symbols arguments

/-- All terms of a list are well formed. -/
def AllWellFormed (symbols : Symbols) : List Term → Prop
  | [] => True
  | term :: rest => term.WellFormed symbols ∧ AllWellFormed symbols rest

end

variable {symbols : Symbols}

/-- A list of terms is well formed if each of them is. -/
@[simp] theorem allWellFormed_iff (terms : List Term) :
    AllWellFormed symbols terms ↔ ∀ term ∈ terms, term.WellFormed symbols := by
  induction terms with
  | nil => simp [AllWellFormed]
  | cons term rest ih => rw [AllWellFormed, ih, List.forall_mem_cons]

/-- A value is well formed if its token is one of a value. -/
@[simp] theorem wellFormed_value (token : String) :
    (value token).WellFormed symbols ↔ (symbols.classify token).isValue = true := by
  rw [WellFormed]

/-- An operation is well formed if its symbol is that of an operator and both operands are well
formed. -/
@[simp] theorem wellFormed_operation (symbol : String) (left right : Term) :
    (operation symbol left right).WellFormed symbols ↔
      symbols.classify symbol = .operator ∧ left.WellFormed symbols ∧
        right.WellFormed symbols := by
  rw [WellFormed]

/-- A call is well formed if its name is that of a function and all arguments are well formed. -/
@[simp] theorem wellFormed_call (name : String) (arguments : List Term) :
    (call name arguments).WellFormed symbols ↔
      symbols.classify name = .function ∧ ∀ argument ∈ arguments, argument.WellFormed symbols := by
  rw [WellFormed, allWellFormed_iff]

end Term

/-! ## The grammar of postfix sequences -/

/-- The postfix sequences: a value, two sequences and an operator, or a left parenthesis, any
number of sequences and a function. -/
inductive PostfixSequence (symbols : Symbols) : List String → Prop
  | value {token : String} (kind : (symbols.classify token).isValue = true) :
    PostfixSequence symbols [token]
  | operation {symbol : String} {left right : List String}
    (kind : symbols.classify symbol = .operator) (first : PostfixSequence symbols left)
    (second : PostfixSequence symbols right) :
    PostfixSequence symbols (left ++ right ++ [symbol])
  | call {name : String} {arguments : List (List String)}
    (kind : symbols.classify name = .function)
    (all : ∀ argument ∈ arguments, PostfixSequence symbols argument) :
    PostfixSequence symbols (Token.leftParen :: arguments.flatten ++ [name])

namespace PostfixSequence

variable {symbols : Symbols}

/-- The postorder of a well-formed term is a postfix sequence. -/
lemma of_wellFormed (term : Term) (formed : term.WellFormed symbols) :
    PostfixSequence symbols term.postorder := by
  induction term with
  | value token =>
    rw [Term.wellFormed_value] at formed
    rw [Term.postorder_value]
    exact .value formed
  | operation symbol left right ihl ihr =>
    obtain ⟨kind, hl, hr⟩ := (Term.wellFormed_operation ..).1 formed
    rw [Term.postorder_operation]
    exact .operation kind (ihl hl) (ihr hr)
  | call name arguments ih =>
    obtain ⟨kind, all⟩ := (Term.wellFormed_call ..).1 formed
    rw [Term.postorder_call, List.flatMap_def]
    refine .call kind fun argument member => ?_
    obtain ⟨term, mem, rfl⟩ := List.mem_map.1 member
    exact ih term mem (all term mem)

/-- A list of postfix sequences is the list of the postorders of well-formed terms, if each of
them is one. -/
lemma exists_terms (sequences : List (List String))
    (all : ∀ sequence ∈ sequences,
      ∃ term : Term, term.WellFormed symbols ∧ term.postorder = sequence) :
    ∃ terms : List Term, (∀ term ∈ terms, term.WellFormed symbols) ∧
      terms.map Term.postorder = sequences := by
  induction sequences with
  | nil => exact ⟨[], by simp, rfl⟩
  | cons sequence rest ih =>
    obtain ⟨first, others⟩ := List.forall_mem_cons.1 all
    obtain ⟨term, formed, rfl⟩ := first
    obtain ⟨terms, formeds, rfl⟩ := ih others
    exact ⟨term :: terms, List.forall_mem_cons.2 ⟨formed, formeds⟩, rfl⟩

/-- **The grammar generates the postorders of well-formed terms** and nothing else.

**Proof sketch.** A term is the tree of a derivation: each rule of the grammar puts together the
postorders of terms into the postorder of a larger one, and the other way round. -/
theorem iff_exists_term {tokens : List String} :
    PostfixSequence symbols tokens ↔
      ∃ term : Term, term.WellFormed symbols ∧ term.postorder = tokens := by
  constructor
  · intro derivation
    induction derivation with
    | @value token kind => exact ⟨.value token, by simpa using kind, by simp⟩
    | @operation symbol _ _ kind _ _ ihl ihr =>
      obtain ⟨left, hl, rfl⟩ := ihl
      obtain ⟨right, hr, rfl⟩ := ihr
      exact ⟨.operation symbol left right, by simp [kind, hl, hr], by simp⟩
    | @call name sequences kind _ ih =>
      obtain ⟨arguments, formed, rfl⟩ := exists_terms sequences ih
      refine ⟨.call name arguments, ?_, ?_⟩
      · rw [Term.wellFormed_call]
        exact ⟨kind, formed⟩
      · rw [Term.postorder_call, List.flatMap_def]
  · rintro ⟨term, formed, rfl⟩
    exact of_wellFormed term formed

end PostfixSequence

/-! ## Reading a postfix sequence back -/

/-- The terms that a prefix of a postfix sequence has been read into, the last one of each group
first. -/
structure Forest where
  /-- The terms of the innermost open group, or those outside all groups. -/
  innermost : List Term
  /-- The terms of the groups around it, the outermost ones last. -/
  enclosing : List (List Term)

namespace Forest

/-- The forest before the first token. -/
def empty : Forest := ⟨[], []⟩

/-- One more term in the innermost group. -/
def push (forest : Forest) (term : Term) : Forest :=
  { forest with innermost := term :: forest.innermost }

/-- The forest after one token, if the token can stand there. -/
def step (symbols : Symbols) (forest : Forest) (token : String) : Option Forest :=
  match symbols.classify token with
  | .leftParen => some ⟨[], forest.innermost :: forest.enclosing⟩
  | .numeral | .text | .boundName => some (forest.push (.value token))
  | .operator =>
    match forest.innermost with
    | right :: left :: rest => some ⟨.operation token left right :: rest, forest.enclosing⟩
    | _ => none
  | .function =>
    match forest.enclosing with
    | group :: outer => some ⟨.call token forest.innermost.reverse :: group, outer⟩
    | [] => none
  | .rightParen | .comma | .freeName | .unknown => none

/-- The forest after a list of tokens. -/
def steps (symbols : Symbols) (forest : Forest) (tokens : List String) : Option Forest :=
  tokens.foldlM (step symbols) forest

/-- The tokens that the innermost group and the groups around it have been read from. -/
def spell (innermost : List Term) : List (List Term) → List String
  | [] => innermost.reverse.flatMap Term.postorder
  | group :: outer =>
    spell group outer ++ Token.leftParen :: innermost.reverse.flatMap Term.postorder

/-- The tokens that a forest has been read from. -/
def tokens (forest : Forest) : List String := spell forest.innermost forest.enclosing

/-- All terms of a forest are well formed. -/
structure WellFormed (symbols : Symbols) (forest : Forest) : Prop where
  innermost : ∀ term ∈ forest.innermost, term.WellFormed symbols
  enclosing : ∀ group ∈ forest.enclosing, ∀ term ∈ group, term.WellFormed symbols

variable {symbols : Symbols}

/-- No token leaves the forest as it is. -/
@[simp] lemma steps_nil (forest : Forest) : forest.steps symbols [] = some forest := rfl

/-- The tokens are taken in one after the other. -/
@[simp] lemma steps_cons (forest : Forest) (token : String) (rest : List String) :
    forest.steps symbols (token :: rest) =
      (forest.step symbols token).bind fun next => next.steps symbols rest := rfl

/-- A forest is continued after the first part of the tokens. -/
@[simp] lemma steps_append (forest : Forest) (first second : List String) :
    forest.steps symbols (first ++ second) =
      (forest.steps symbols first).bind fun next => next.steps symbols second :=
  List.foldlM_append

/-! ### Reading the postorder of a term -/

/-- A parenthesis begins an empty list of arguments. -/
lemma step_leftParen (forest : Forest) :
    forest.step symbols Token.leftParen =
      some ⟨[], forest.innermost :: forest.enclosing⟩ := by
  simp [step]

/-- A token of a value is a term on its own. -/
lemma step_value {token : String} (kind : (symbols.classify token).isValue = true)
    (forest : Forest) : forest.step symbols token = some (forest.push (.value token)) := by
  unfold step
  cases classified : symbols.classify token <;> simp_all [TokenKind.isValue]

/-- An operator joins the last two terms. -/
lemma step_operator {symbol : String} (kind : symbols.classify symbol = .operator)
    (forest : Forest) (left right : Term) :
    ((forest.push left).push right).step symbols symbol =
      some (forest.push (.operation symbol left right)) := by
  simp [step, kind, push]

/-- A function takes all terms since the last parenthesis. -/
lemma step_function {name : String} (kind : symbols.classify name = .function)
    (forest : Forest) (arguments : List Term) :
    (⟨arguments.reverse, forest.innermost :: forest.enclosing⟩ : Forest).step symbols name =
      some (forest.push (.call name arguments)) := by
  simp [step, kind, push]

/-- Reading the postorders of a list of terms adds these terms, if reading each of them adds
it. -/
lemma steps_flatMap (terms : List Term)
    (each : ∀ term ∈ terms, ∀ forest : Forest,
      forest.steps symbols term.postorder = some (forest.push term)) (forest : Forest) :
    forest.steps symbols (terms.flatMap Term.postorder) =
      some ⟨terms.reverse ++ forest.innermost, forest.enclosing⟩ := by
  induction terms generalizing forest with
  | nil => simp
  | cons term rest ih =>
    obtain ⟨first, others⟩ := List.forall_mem_cons.1 each
    rw [List.flatMap_cons, steps_append, first, Option.bind_some, ih others]
    simp [push]

/-- **Reading the postorder of a term adds the term** to the innermost group. -/
theorem steps_postorder (term : Term) (formed : term.WellFormed symbols) (forest : Forest) :
    forest.steps symbols term.postorder = some (forest.push term) := by
  induction term generalizing forest with
  | value token =>
    rw [Term.wellFormed_value] at formed
    simp [step_value formed]
  | operation symbol left right ihl ihr =>
    obtain ⟨kind, hl, hr⟩ := (Term.wellFormed_operation ..).1 formed
    simp [ihl hl, ihr hr, step_operator kind]
  | call name arguments ih =>
    obtain ⟨kind, all⟩ := (Term.wellFormed_call ..).1 formed
    have read := steps_flatMap arguments (fun argument member => ih argument member
      (all argument member)) ⟨[], forest.innermost :: forest.enclosing⟩
    rw [List.append_nil] at read
    rw [Term.postorder_call, List.cons_append, steps_cons, step_leftParen, Option.bind_some,
      steps_append, read, Option.bind_some, steps_cons, step_function kind]
    rfl

/-! ### What a forest has been read from -/

/-- One more term in the innermost group spells its postorder at the end. -/
lemma tokens_push (forest : Forest) (term : Term) :
    (forest.push term).tokens = forest.tokens ++ term.postorder := by
  obtain ⟨innermost, enclosing⟩ := forest
  cases enclosing <;> simp [tokens, push, spell]

/-- An open group spells a parenthesis and its terms after what stands around it. -/
lemma tokens_group (terms : List Term) (forest : Forest) :
    (⟨terms, forest.innermost :: forest.enclosing⟩ : Forest).tokens =
      forest.tokens ++ Token.leftParen :: terms.reverse.flatMap Term.postorder := rfl

/-- A forest stays well formed when a well-formed term is added. -/
lemma WellFormed.push {forest : Forest} {term : Term} (formed : forest.WellFormed symbols)
    (added : term.WellFormed symbols) : (forest.push term).WellFormed symbols :=
  ⟨List.forall_mem_cons.2 ⟨added, formed.innermost⟩, formed.enclosing⟩

/-- **One step keeps the tokens and the form of a forest**: the forest after a token has been
read from one token more, and stays well formed.

**Proof sketch.** By the kind of the token. An operator takes the last two terms of the innermost
group, whose postorders are the last tokens read, and puts a term there whose postorder is
theirs and the operator. A function does the same with all terms of the innermost group and
the parenthesis in front of them. -/
lemma step_eq_some {forest next : Forest} {token : String}
    (formed : forest.WellFormed symbols) (stepped : forest.step symbols token = some next) :
    next.tokens = forest.tokens ++ [token] ∧ next.WellFormed symbols := by
  by_cases value : (symbols.classify token).isValue = true
  · rw [step_value value, Option.some.injEq] at stepped
    subst stepped
    exact ⟨by simp [tokens_push], formed.push (by simpa using value)⟩
  obtain ⟨innermost, enclosing⟩ := forest
  unfold step at stepped
  cases kind : symbols.classify token <;>
    simp only [kind, TokenKind.isValue, reduceCtorEq, not_true_eq_false, Option.some.injEq]
      at stepped value
  case leftParen =>
    obtain rfl := Symbols.classify_eq_leftParen_iff.1 kind
    subst stepped
    refine ⟨tokens_group [] ⟨innermost, enclosing⟩, by simp, ?_⟩
    exact List.forall_mem_cons.2 ⟨formed.innermost, formed.enclosing⟩
  case operator =>
    rcases innermost with _ | ⟨right, _ | ⟨left, rest⟩⟩
    · cases stepped
    · cases stepped
    obtain rfl := Option.some.inj stepped
    obtain ⟨hr, hl, others⟩ := by simpa using formed.innermost
    have outer : (⟨rest, enclosing⟩ : Forest).WellFormed symbols := ⟨others, formed.enclosing⟩
    refine ⟨?_, outer.push (by simp [kind, hl, hr])⟩
    show ((⟨rest, enclosing⟩ : Forest).push (.operation token left right)).tokens =
      (((⟨rest, enclosing⟩ : Forest).push left).push right).tokens ++ [token]
    simp [tokens_push]
  case function =>
    rcases enclosing with _ | ⟨group, rest⟩
    · cases stepped
    obtain rfl := Option.some.inj stepped
    obtain ⟨inner, others⟩ := List.forall_mem_cons.1 formed.enclosing
    have outer : (⟨group, rest⟩ : Forest).WellFormed symbols := ⟨inner, others⟩
    have arguments : ∀ term ∈ innermost.reverse, term.WellFormed symbols :=
      fun term member => formed.innermost term (by simpa using member)
    refine ⟨?_, outer.push ((Term.wellFormed_call ..).2 ⟨kind, arguments⟩)⟩
    show ((⟨group, rest⟩ : Forest).push (.call token innermost.reverse)).tokens = _
    rw [tokens_group innermost ⟨group, rest⟩, tokens_push]
    simp

/-- A whole run keeps the tokens and the form of a forest. -/
lemma steps_eq_some {forest final : Forest} {tokens : List String}
    (formed : forest.WellFormed symbols) (run : forest.steps symbols tokens = some final) :
    final.tokens = forest.tokens ++ tokens ∧ final.WellFormed symbols := by
  induction tokens generalizing forest with
  | nil =>
    obtain rfl := Option.some.inj run
    exact ⟨by simp, formed⟩
  | cons token rest ih =>
    rw [steps_cons, Option.bind_eq_some_iff] at run
    obtain ⟨next, stepped, run⟩ := run
    obtain ⟨read, formed⟩ := step_eq_some formed stepped
    obtain ⟨finished, formed⟩ := ih formed run
    exact ⟨by rw [finished, read, List.append_assoc, List.singleton_append], formed⟩

/-- **A sequence is read into a single term exactly when it is the postorder of that term**, and
the term is then well formed. -/
theorem steps_empty_eq_some_iff {tokens : List String} {term : Term} :
    empty.steps symbols tokens = some ⟨[term], []⟩ ↔
      term.WellFormed symbols ∧ term.postorder = tokens := by
  constructor
  · intro run
    have start : empty.WellFormed symbols := ⟨by simp [empty], by simp [empty]⟩
    obtain ⟨read, formed⟩ := steps_eq_some start run
    refine ⟨formed.innermost term List.mem_cons_self, ?_⟩
    simpa [Forest.tokens, spell, empty] using read
  · rintro ⟨formed, rfl⟩
    exact steps_postorder term formed empty

end Forest

/-- **A postfix sequence has at most one term**: well-formed terms with the same postorder are
the same. -/
theorem Term.postorder_injective {symbols : Symbols} {first second : Term}
    (hfirst : first.WellFormed symbols) (hsecond : second.WellFormed symbols)
    (same : first.postorder = second.postorder) : first = second := by
  have read := Forest.steps_postorder first hfirst .empty
  rw [same, Forest.steps_postorder second hsecond] at read
  simpa [Forest.push] using read.symm

end Formula
