import Formula.Proofs.Infix

set_option autoImplicit false

/-!
# The language of infix sequences

The token sequences that read as an expression: a value, an operator between two sequences, a
sequence in parentheses, or a function with its arguments in parentheses. The grammar says nothing
about precedence, so a sequence with several operators has several derivations. Just as well it is
spelled by a tree whose operators are grouped as their precedences ask for. Such a tree is built
from left to right: an operator and its right operand are attached to the tree before them, below
the operators on its right edge to which the new one does not yield.

## Main definitions

* `Formula.InfixSequence` — the language of infix sequences, as a grammar.
* `Formula.Infix.Spells` — a grouped tree of a token sequence.
* `Formula.Infix.attach` — a tree with an operator and an operand at its end.

## Main results

* `Formula.Infix.Spells.attach` — attaching keeps a tree grouped.
* `Formula.InfixSequence.exists_spells` — every infix sequence has a grouped tree.
* `Formula.InfixSequence.iff_exists_spells` — the grammar generates the tokens of the grouped
  trees.
* `Formula.Infix.mem_postorder_iff` — the values of an expression are those of its postorder.
-/

namespace Formula

/-- The infix sequences: a value, two sequences with an operator between them, a sequence in
parentheses, or a function with parentheses after it, which enclose nothing or sequences with
commas between them. -/
inductive InfixSequence (symbols : Symbols) : List String → Prop
  | value {token : String} (kind : (symbols.classify token).isValue = true) :
    InfixSequence symbols [token]
  | operation {symbol : String} {left right : List String}
    (kind : symbols.classify symbol = .operator) (first : InfixSequence symbols left)
    (second : InfixSequence symbols right) :
    InfixSequence symbols (left ++ symbol :: right)
  | group {inner : List String} (enclosed : InfixSequence symbols inner) :
    InfixSequence symbols (Token.leftParen :: (inner ++ [Token.rightParen]))
  | emptyCall {name : String} (kind : symbols.classify name = .function) :
    InfixSequence symbols [name, Token.leftParen, Token.rightParen]
  | call {name : String} {first : List String} {further : List (List String)}
    (kind : symbols.classify name = .function) (argument : InfixSequence symbols first)
    (all : ∀ argument ∈ further, InfixSequence symbols argument) :
    InfixSequence symbols (name :: Token.leftParen ::
      (first ++ further.flatMap (Token.comma :: ·) ++ [Token.rightParen]))

namespace Infix

variable {symbols : Symbols} {operators : OperatorTable}

/-- Each further argument is written behind a comma. -/
@[simp] lemma furtherTokens_eq_flatMap (arguments : List Infix) :
    furtherTokens arguments = (arguments.map tokens).flatMap (Token.comma :: ·) := by
  induction arguments with
  | nil => rw [furtherTokens, List.map_nil, List.flatMap_nil]
  | cons argument rest ih => rw [furtherTokens, ih, List.map_cons, List.flatMap_cons]; rfl

/-- An operation is written between its operands. -/
lemma tokens_operation (symbol : String) (left right : Infix) :
    (operation symbol left right).tokens = left.tokens ++ symbol :: right.tokens := by
  rw [tokens]

/-- **The values of an expression are those of its postorder**: they are neither added nor lost. -/
lemma mem_postorder_iff {token : String} (kind : (symbols.classify token).isValue = true)
    (tree : Infix) (formed : tree.term.WellFormed symbols) :
    token ∈ tree.term.postorder ↔ token ∈ tree.tokens := by
  have other : ∀ {symbol : String}, (symbols.classify symbol).isValue = false → token ≠ symbol := by
    rintro symbol otherKind rfl
    rw [kind] at otherKind
    cases otherKind
  have notLeft : token ≠ Token.leftParen := other (by simp [TokenKind.isValue])
  have notRight : token ≠ Token.rightParen := other (by simp [TokenKind.isValue])
  have notComma : token ≠ Token.comma := other (by simp [TokenKind.isValue])
  induction tree with
  | value value => simp [tokens]
  | operation symbol left right ihl ihr =>
    rw [term_operation, Term.wellFormed_operation] at formed
    obtain ⟨operator, formedLeft, formedRight⟩ := formed
    have notSymbol : token ≠ symbol := other (by simp [operator, TokenKind.isValue])
    simp [tokens, ihl formedLeft, ihr formedRight, notSymbol]
  | call name arguments ih =>
    rw [term_call, Term.wellFormed_call] at formed
    obtain ⟨function, formed⟩ := formed
    have notName : token ≠ name := other (by simp [function, TokenKind.isValue])
    have inner : ∀ argument ∈ arguments,
        (token ∈ argument.term.postorder ↔ token ∈ argument.tokens) :=
      fun argument member => ih argument member (formed _ (List.mem_map_of_mem member))
    cases arguments with
    | nil => simp [tokens, notName, notLeft, notRight]
    | cons first rest =>
      obtain ⟨innerFirst, innerRest⟩ := List.forall_mem_cons.1 inner
      have further : (∃ argument ∈ rest, token ∈ argument.term.postorder) ↔
          ∃ argument ∈ rest, token ∈ argument.tokens :=
        exists_congr fun argument => and_congr_right (innerRest argument)
      simp [tokens, notName, notLeft, notRight, notComma, innerFirst, further]
  | group inner ih =>
    rw [term_group] at formed
    simp [tokens, ih formed, notLeft, notRight]

/-! ## Grouped trees of a sequence -/

/-- The tree spells a token sequence, and its operators are grouped as their precedences ask
for. -/
structure Spells (symbols : Symbols) (tree : Infix) (sequence : List String) : Prop where
  tokens : tree.tokens = sequence
  formed : tree.term.WellFormed symbols
  grouped : tree.Grouped symbols.operators

/-- The tree with an operator and an operand at its end. The operator goes below the operators on
the right edge of the tree to which it does not yield. -/
def attach (operators : OperatorTable) (symbol : String) : Infix → Infix → Infix
  | operation root left right, operand =>
    if operators.yields symbol root then operation symbol (operation root left right) operand
    else operation root left (right.attach operators symbol operand)
  | tree, operand => operation symbol tree operand

/-- A tree whose root is no operator becomes the left operand. -/
lemma attach_of_root?_eq_none {tree : Infix} (noRoot : tree.root? = none) (symbol : String)
    (operand : Infix) : tree.attach operators symbol operand = operation symbol tree operand := by
  cases tree with
  | operation root left right => cases noRoot
  | _ => rfl

/-- The operator and the operand stand after the tree. -/
lemma tokens_attach (symbol : String) (tree operand : Infix) :
    (tree.attach operators symbol operand).tokens = tree.tokens ++ symbol :: operand.tokens := by
  induction tree with
  | operation root left right _ ih =>
    rw [attach]
    split
    · rw [tokens_operation]
    · rw [tokens_operation, ih, tokens_operation, List.append_assoc, List.cons_append]
  | _ => rw [attach_of_root?_eq_none rfl, tokens_operation]

/-- An operator and an operand that are attached leave the expression well formed. -/
lemma wellFormed_attach {symbol : String} (kind : symbols.classify symbol = .operator)
    {tree operand : Infix} (formed : tree.term.WellFormed symbols)
    (formedOperand : operand.term.WellFormed symbols) :
    (tree.attach operators symbol operand).term.WellFormed symbols := by
  induction tree with
  | operation root left right _ ih =>
    rw [attach]
    split
    · simp_all
    · rw [term_operation, Term.wellFormed_operation] at formed ⊢
      exact ⟨formed.1, formed.2.1, ih formed.2.2⟩
  | _ =>
    rw [attach_of_root?_eq_none rfl, term_operation, Term.wellFormed_operation]
    exact ⟨kind, formed, formedOperand⟩

/-- The root is the operator attached or the one that was the root before. -/
lemma root?_attach {symbol root : String} (tree operand : Infix)
    (isRoot : root ∈ (tree.attach operators symbol operand).root?) :
    root = symbol ∨ root ∈ tree.root? := by
  cases tree with
  | operation before left right =>
    rw [attach] at isRoot
    split at isRoot
    · exact .inl (Option.some.inj isRoot).symm
    · exact .inr isRoot
  | _ => exact .inl (Option.some.inj isRoot).symm

/-- An operand whose root is no operator is attached to a grouped tree as the precedences ask
for. -/
lemma grouped_attach {symbol : String} {tree operand : Infix} (grouped : tree.Grouped operators)
    (groupedOperand : operand.Grouped operators) (noRoot : operand.root? = none) :
    (tree.attach operators symbol operand).Grouped operators := by
  induction tree with
  | operation root left right _ ih =>
    rw [attach]
    split
    case isTrue yields =>
      rw [grouped_operation]
      exact ⟨by simpa [root?] using yields, by simp [noRoot], grouped, groupedOperand⟩
    case isFalse stays =>
      rw [grouped_operation] at grouped ⊢
      obtain ⟨yieldsLeft, staysRight, groupedLeft, groupedRight⟩ := grouped
      refine ⟨yieldsLeft, fun other isRoot => ?_, groupedLeft, ih groupedRight⟩
      rcases root?_attach right operand isRoot with rfl | isRoot
      · exact Bool.eq_false_iff.2 stays
      · exact staysRight other isRoot
  | _ =>
    rw [attach_of_root?_eq_none rfl, grouped_operation]
    exact ⟨by simp [root?], by simp [noRoot], grouped, groupedOperand⟩

/-- **Attaching keeps a tree grouped**, if the root of what is attached is no operator. -/
lemma Spells.attach {symbol : String} {tree operand : Infix} {before after : List String}
    (spells : tree.Spells symbols before) (kind : symbols.classify symbol = .operator)
    (spellsOperand : operand.Spells symbols after) (noRoot : operand.root? = none) :
    (tree.attach symbols.operators symbol operand).Spells symbols (before ++ symbol :: after) where
  tokens := by rw [tokens_attach, spells.tokens, spellsOperand.tokens]
  formed := wellFormed_attach kind spells.formed spellsOperand.formed
  grouped := grouped_attach spells.grouped spellsOperand.grouped noRoot

/-- A list of sequences that have grouped trees is spelled by a list of grouped trees. -/
lemma exists_spells_of_forall {sequences : List (List String)}
    (all : ∀ sequence ∈ sequences, ∃ tree : Infix, tree.Spells symbols sequence) :
    ∃ trees : List Infix, trees.map tokens = sequences ∧
      ∀ tree ∈ trees, tree.Spells symbols tree.tokens := by
  induction sequences with
  | nil => exact ⟨[], rfl, by simp⟩
  | cons sequence rest ih =>
    obtain ⟨⟨tree, spells⟩, others⟩ := List.forall_mem_cons.1 all
    obtain ⟨trees, rfl, spellsRest⟩ := ih others
    obtain rfl := spells.tokens
    exact ⟨tree :: trees, rfl, List.forall_mem_cons.2 ⟨spells, spellsRest⟩⟩

/-- A call is grouped when its arguments are. -/
lemma spells_call {name : String} (kind : symbols.classify name = .function)
    {arguments : List Infix} (all : ∀ tree ∈ arguments, tree.Spells symbols tree.tokens) :
    (call name arguments).Spells symbols (call name arguments).tokens where
  tokens := rfl
  formed := by
    rw [term_call, Term.wellFormed_call]
    exact ⟨kind, List.forall_mem_map.2 fun tree member => (all tree member).formed⟩
  grouped := (grouped_call ..).2 fun tree member => (all tree member).grouped

end Infix

namespace InfixSequence

variable {symbols : Symbols} {sequence : List String}

/-- A sequence has a grouped tree, and so has a sequence that goes on with it after an operator. -/
def Attachable (symbols : Symbols) (sequence : List String) : Prop :=
  (∃ tree : Infix, tree.Spells symbols sequence) ∧
    ∀ (tree : Infix) (before : List String) (symbol : String), tree.Spells symbols before →
      symbols.classify symbol = .operator →
        ∃ tree : Infix, tree.Spells symbols (before ++ symbol :: sequence)

/-- A sequence that is spelled by a tree whose root is no operator can be attached as it is. -/
lemma attachable_of_spells {operand : Infix} (spells : operand.Spells symbols sequence)
    (noRoot : operand.root? = none) : Attachable symbols sequence :=
  ⟨⟨operand, spells⟩, fun _ _ _ before kind => ⟨_, before.attach kind spells noRoot⟩⟩

/-- **Every infix sequence has a grouped tree.**

**Proof sketch.** Induction on the derivation, for the sequence alone and after any grouped tree and
an operator. Only a sequence of the form left operand, operator, right operand is not attached as
it is: the left operand is attached first, and then the right one. -/
theorem exists_spells (derivation : InfixSequence symbols sequence) :
    ∃ tree : Infix, tree.Spells symbols sequence := by
  suffices attachable : Attachable symbols sequence from attachable.1
  induction derivation with
  | @value token kind =>
    have spells : (Infix.value token).Spells symbols [token] := by
      refine ⟨?_, ?_, ?_⟩
      · rw [Infix.tokens]
      · rwa [Infix.term_value, Term.wellFormed_value]
      · rw [Infix.Grouped]
        trivial
    exact attachable_of_spells spells rfl
  | @operation symbol left right kind _ _ ihl ihr =>
    obtain ⟨⟨tree, spells⟩, after⟩ := ihl
    refine ⟨ihr.2 tree left symbol spells kind, fun tree before earlier spells kindEarlier => ?_⟩
    obtain ⟨tree, spells⟩ := after tree before earlier spells kindEarlier
    obtain ⟨tree, spells⟩ := ihr.2 tree _ symbol spells kind
    exact ⟨tree, by simpa using spells⟩
  | @group inner _ ih =>
    obtain ⟨⟨tree, spells⟩, -⟩ := ih
    have spellsGroup : (Infix.group tree).Spells symbols
        (Token.leftParen :: (inner ++ [Token.rightParen])) := by
      refine ⟨?_, ?_, ?_⟩
      · rw [Infix.tokens, spells.tokens]
      · rw [Infix.term_group]
        exact spells.formed
      · rw [Infix.grouped_group]
        exact spells.grouped
    exact attachable_of_spells spellsGroup rfl
  | @emptyCall name kind =>
    have spells : (Infix.call name []).Spells symbols (Infix.call name []).tokens :=
      Infix.spells_call kind (by simp)
    rw [Infix.tokens] at spells
    exact attachable_of_spells spells rfl
  | @call name first further kind _ _ ih ihs =>
    obtain ⟨⟨tree, spells⟩, -⟩ := ih
    obtain ⟨trees, rfl, spellsFurther⟩ :=
      Infix.exists_spells_of_forall fun sequence member => (ihs sequence member).1
    obtain rfl := spells.tokens
    have spellsCall := Infix.spells_call kind (List.forall_mem_cons.2 ⟨spells, spellsFurther⟩)
    rw [Infix.tokens, Infix.furtherTokens_eq_flatMap] at spellsCall
    exact attachable_of_spells spellsCall rfl

/-- The tokens of a well-formed expression are an infix sequence. -/
lemma of_wellFormed (tree : Infix) (formed : tree.term.WellFormed symbols) :
    InfixSequence symbols tree.tokens := by
  induction tree with
  | value token =>
    rw [Infix.term_value, Term.wellFormed_value] at formed
    rw [Infix.tokens]
    exact .value formed
  | operation symbol left right ihl ihr =>
    rw [Infix.term_operation, Term.wellFormed_operation] at formed
    rw [Infix.tokens_operation]
    exact .operation formed.1 (ihl formed.2.1) (ihr formed.2.2)
  | call name arguments ih =>
    rw [Infix.term_call, Term.wellFormed_call, List.forall_mem_map] at formed
    obtain ⟨kind, formed⟩ := formed
    have derivations : ∀ argument ∈ arguments, InfixSequence symbols argument.tokens :=
      fun argument member => ih argument member (formed argument member)
    cases arguments with
    | nil =>
      rw [Infix.tokens]
      exact .emptyCall kind
    | cons first rest =>
      obtain ⟨derivation, others⟩ := List.forall_mem_cons.1 derivations
      rw [Infix.tokens, Infix.furtherTokens_eq_flatMap]
      exact .call kind derivation (List.forall_mem_map.2 others)
  | group inner ih =>
    rw [Infix.term_group] at formed
    rw [Infix.tokens]
    exact .group (ih formed)

/-- **The grammar generates the tokens of the grouped trees** and nothing else. -/
theorem iff_exists_spells :
    InfixSequence symbols sequence ↔ ∃ tree : Infix, tree.Spells symbols sequence := by
  constructor
  · exact exists_spells
  · rintro ⟨tree, spells⟩
    rw [← spells.tokens]
    exact of_wellFormed tree spells.formed

end InfixSequence

end Formula
