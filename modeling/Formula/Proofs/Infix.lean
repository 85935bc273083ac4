import Formula.Proofs.Postfix.Term

set_option autoImplicit false

/-!
# Expressions as they are written

An expression tree as it stands in a source, with the parentheses that are written in it. Its
structure is a term, in which parentheses have no place of their own. The written tokens alone
do not show the structure: of two neighbouring operators the precedences decide which one is
applied first, and at equal precedence the associativity of the later one does.

## Main definitions

* `Formula.Infix` — the type, with `Formula.Infix.tokens` and `Formula.Infix.term`.
* `Formula.Infix.root?` — the operator that is applied last, when no parentheses enclose the
  expression.
* `Formula.Infix.Grouped` — wherever operators are neighbours, the tree is the one that their
  precedences ask for.

## Main results

* `Formula.Operator.yieldsTo_of_yieldsTo`, `not_yieldsTo_of_yieldsTo` — yielding to a neighbour
  is passed on along the operators of a subtree.
-/

namespace Formula

/-- An expression as it is written. -/
inductive Infix where
  /-- An operand. -/
  | value (token : String)
  /-- An operator between its operands. -/
  | operation (symbol : String) (left right : Infix)
  /-- A function in front of its arguments in parentheses, with commas between them. -/
  | call (name : String) (arguments : List Infix)
  /-- An expression in parentheses. -/
  | group (inner : Infix)

namespace Infix

/-- Induction over written expressions, with the hypothesis for every argument of a call. -/
@[elab_as_elim, induction_eliminator]
theorem induction {motive : Infix → Prop} (value : ∀ token, motive (.value token))
    (operation : ∀ symbol left right, motive left → motive right →
      motive (.operation symbol left right))
    (call : ∀ name arguments, (∀ argument ∈ arguments, motive argument) →
      motive (.call name arguments))
    (group : ∀ inner, motive inner → motive (.group inner)) (tree : Infix) : motive tree :=
  Infix.rec value operation call group (by simp)
    (fun _ _ first others => List.forall_mem_cons.2 ⟨first, others⟩) tree

mutual

/-- The tokens of an expression. -/
def tokens : Infix → List String
  | value token => [token]
  | operation symbol left right => left.tokens ++ symbol :: right.tokens
  | call name [] => [name, Token.leftParen, Token.rightParen]
  | call name (first :: rest) =>
    name :: Token.leftParen :: (first.tokens ++ furtherTokens rest ++ [Token.rightParen])
  | group inner => Token.leftParen :: (inner.tokens ++ [Token.rightParen])

/-- The tokens of the arguments after the first one, a comma in front of each. -/
def furtherTokens : List Infix → List String
  | [] => []
  | argument :: rest => Token.comma :: (argument.tokens ++ furtherTokens rest)

end

mutual

/-- The structure of an expression. -/
def term : Infix → Term
  | value token => .value token
  | operation symbol left right => .operation symbol left.term right.term
  | call name arguments => .call name (terms arguments)
  | group inner => inner.term

/-- The structures of a list of expressions. -/
def terms : List Infix → List Term
  | [] => []
  | argument :: rest => argument.term :: terms rest

end

/-- The terms of a list of expressions, one by one. -/
@[simp] theorem terms_eq_map (arguments : List Infix) : terms arguments = arguments.map term := by
  induction arguments with
  | nil => rfl
  | cons argument rest ih => rw [terms, ih, List.map_cons]

/-- A value is its own term. -/
@[simp] theorem term_value (token : String) : (value token).term = .value token := by
  rw [term]

/-- The term of an operation has the terms of the operands. -/
@[simp] theorem term_operation (symbol : String) (left right : Infix) :
    (operation symbol left right).term = .operation symbol left.term right.term := by
  rw [term]

/-- The term of a call has the terms of the arguments. -/
@[simp] theorem term_call (name : String) (arguments : List Infix) :
    (call name arguments).term = .call name (arguments.map term) := by
  rw [term, terms_eq_map]

/-- Parentheses around an expression do not show in its term. -/
@[simp] theorem term_group (inner : Infix) : (group inner).term = inner.term := by
  rw [term]

/-- The operator that is applied last, unless parentheses enclose it. -/
def root? : Infix → Option String
  | operation symbol _ _ => some symbol
  | _ => none

end Infix

/-- Whether an operator yields to the one before it, both given by their symbols. -/
def OperatorTable.yields (operators : OperatorTable) (later earlier : String) : Bool :=
  (operators.find? later).any fun later => (operators.find? earlier).any later.yieldsTo

namespace Infix

mutual

/-- The operators of an expression are grouped as their precedences ask for: an operator yields
to the root of its left operand, and the root of its right operand does not yield to it. Operands
in parentheses may have any root. -/
def Grouped (operators : OperatorTable) : Infix → Prop
  | value _ => True
  | operation symbol left right =>
    (∀ root ∈ left.root?, operators.yields symbol root = true) ∧
      (∀ root ∈ right.root?, operators.yields root symbol = false) ∧
        left.Grouped operators ∧ right.Grouped operators
  | call _ arguments => AllGrouped operators arguments
  | group inner => inner.Grouped operators

/-- The operators of all expressions of a list are grouped as their precedences ask for. -/
def AllGrouped (operators : OperatorTable) : List Infix → Prop
  | [] => True
  | argument :: rest => argument.Grouped operators ∧ AllGrouped operators rest

end

variable {operators : OperatorTable}

/-- A list of expressions is grouped if each of them is. -/
@[simp] theorem allGrouped_iff (arguments : List Infix) :
    AllGrouped operators arguments ↔ ∀ argument ∈ arguments, argument.Grouped operators := by
  induction arguments with
  | nil => simp [AllGrouped]
  | cons argument rest ih => rw [AllGrouped, ih, List.forall_mem_cons]

/-- An operation is grouped if its symbol yields to the operator of the left operand and the
operator of the right operand does not yield to it. -/
@[simp] theorem grouped_operation (symbol : String) (left right : Infix) :
    (operation symbol left right).Grouped operators ↔
      (∀ root ∈ left.root?, operators.yields symbol root = true) ∧
        (∀ root ∈ right.root?, operators.yields root symbol = false) ∧
          left.Grouped operators ∧ right.Grouped operators := by
  rw [Grouped]

/-- A call is grouped if its arguments are, which its parentheses keep apart from the operators
around. -/
@[simp] theorem grouped_call (name : String) (arguments : List Infix) :
    (call name arguments).Grouped operators ↔
      ∀ argument ∈ arguments, argument.Grouped operators := by
  rw [Grouped, allGrouped_iff]

/-- A group is grouped if the expression in it is, whatever its operator. -/
@[simp] theorem grouped_group (inner : Infix) :
    (group inner).Grouped operators ↔ inner.Grouped operators := by
  rw [Grouped]

end Infix

namespace Operator

variable {first second third : Operator}

/-- An operator that yields to one yields to every operator that does not yield to that one. -/
lemma yieldsTo_of_yieldsTo (yields : third.yieldsTo first = true)
    (stays : second.yieldsTo first = false) : third.yieldsTo second = true := by
  simp only [yieldsTo, Bool.or_eq_true, Bool.and_eq_true, Bool.or_eq_false_iff,
    Bool.and_eq_false_iff, decide_eq_true_eq, decide_eq_false_iff_not, beq_iff_eq,
    beq_eq_false_iff_ne] at yields stays ⊢
  grind

/-- An operator to which another one yields does not yield where that other one does not. -/
lemma not_yieldsTo_of_yieldsTo (yields : third.yieldsTo second = true)
    (stays : third.yieldsTo first = false) : second.yieldsTo first = false := by
  simp only [yieldsTo, Bool.or_eq_true, Bool.and_eq_true, Bool.or_eq_false_iff,
    Bool.and_eq_false_iff, decide_eq_true_eq, decide_eq_false_iff_not, beq_iff_eq,
    beq_eq_false_iff_ne] at yields stays ⊢
  grind

end Operator

end Formula
