import Formula.Postfix.Check
import Formula.Proofs.Postfix.Term

set_option autoImplicit false

/-!
# The check recognizes the postfix sequences

The check of a postfix sequence keeps the number of operands in each open group and nothing
else. These numbers are the lengths of the groups of the forest that the tokens have been read
into, and as long as the numerals can be read the check takes a step exactly when the forest
does. So it accepts a sequence exactly when the sequence is read into a single term.

## Main definitions

* `Formula.Forest.count` — the number of terms in each group of a forest.
* `Formula.Symbols.Readable` — a token is no numeral, or a numeral that denotes a decimal.

## Main results

* `Formula.Forest.count_step`, `count_steps` — the check and the reading go in step.
* `Formula.checkPostfix_eq_ok_iff_exists_term` — the check accepts the postorders of the
  well-formed terms with readable numerals.
* `Formula.checkPostfix_eq_ok_iff` — the check accepts the language of the grammar.
* `Formula.classify_of_checkPostfix` — the tokens of a sequence that passes all have a meaning.
-/

namespace Formula

/-- A numeral denotes a decimal; other tokens need not. -/
def Symbols.Readable (symbols : Symbols) (token : String) : Prop :=
  symbols.classify token = .numeral → (Decimal.ofNumeral? token).isSome = true

namespace Forest

/-- The number of operands in the innermost group and in those around it. -/
def countGroups (innermost : List Term) : List (List Term) → OperandCount
  | [] => ⟨[], innermost.length⟩
  | group :: outer =>
    let count := countGroups group outer
    { count with groups := innermost.length :: count.groups }

/-- The number of operands in each group of a forest. -/
def count (forest : Forest) : OperandCount := countGroups forest.innermost forest.enclosing

variable {symbols : Symbols}

/-- An open group is counted in front of what stands around it. -/
lemma count_group (terms : List Term) (forest : Forest) :
    (⟨terms, forest.innermost :: forest.enclosing⟩ : Forest).count =
      { forest.count with groups := terms.length :: forest.count.groups } := rfl

/-- The count of the innermost list is its length. -/
lemma innermost_count (forest : Forest) : forest.count.innermost = forest.innermost.length := by
  obtain ⟨innermost, enclosing⟩ := forest
  cases enclosing <;> rfl

/-- Changing the terms of the innermost group changes the count of that group only. -/
lemma count_mapInnermost (terms : List Term) (forest : Forest) (f : Nat → Nat)
    (length : terms.length = f forest.innermost.length) :
    (⟨terms, forest.enclosing⟩ : Forest).count = forest.count.mapInnermost f := by
  obtain ⟨innermost, enclosing⟩ := forest
  cases enclosing <;> simp_all [count, countGroups, OperandCount.mapInnermost]

/-- One term more counts as one operand more. -/
lemma count_push (forest : Forest) (term : Term) :
    (forest.push term).count = forest.count.mapInnermost (· + 1) :=
  count_mapInnermost _ forest _ (by simp)

/-- **The check takes the steps of the reading**: at a readable token it takes a step exactly when
the token is read, and arrives at the count of the forest that has been read.

**Proof sketch.** By the kind of the token. Operands add one to the innermost count. An operator
asks for two operands in the innermost group, which are the two last terms there. A function
asks for an open group, whatever its count. -/
lemma count_step (forest : Forest) (token : String) (after : OperandCount) :
    forest.count.step symbols token = .ok after ↔
      symbols.Readable token ∧
        ∃ next, forest.step symbols token = some next ∧ next.count = after := by
  unfold OperandCount.step Symbols.Readable step
  cases kind : symbols.classify token <;>
    simp only [reduceCtorEq, false_implies, true_implies, true_and, false_and, exists_false,
      Option.some.injEq, exists_eq_left', Except.ok.injEq, count_push]
  case leftParen =>
    rw [count_group]
    rfl
  case numeral =>
    cases Decimal.ofNumeral? token <;> simp
  case operator =>
    rw [innermost_count]
    rcases forest with ⟨_ | ⟨right, _ | ⟨left, rest⟩⟩, enclosing⟩
    · simp
    · simp
    · have shorter := count_mapInnermost (.operation token left right :: rest)
        ⟨right :: left :: rest, enclosing⟩ (· - 1) (by simp)
      have enough : ¬ (right :: left :: rest).length < 2 := by simp
      rw [if_neg enough]
      simp [shorter]
  case function =>
    rcases forest with ⟨innermost, _ | ⟨group, outer⟩⟩
    · simp [count, countGroups]
    · have grouped := count_group innermost ⟨group, outer⟩
      have longer := count_push ⟨group, outer⟩ (.call token innermost.reverse)
      simp only [push] at longer
      simp [grouped, longer]

/-- **The check takes the runs of the reading.** -/
lemma count_steps (tokens : List String) (forest : Forest) (final : OperandCount) :
    forest.count.steps symbols tokens = .ok final ↔
      (∀ token ∈ tokens, symbols.Readable token) ∧
        ∃ last, forest.steps symbols tokens = some last ∧ last.count = final := by
  induction tokens generalizing forest with
  | nil => simp [OperandCount.steps]
  | cons token rest ih =>
    rw [OperandCount.steps, Fault.bind_eq_ok_iff]
    simp only [count_step, steps_cons, Option.bind_eq_some_iff, List.forall_mem_cons]
    constructor
    · rintro ⟨_, ⟨readable, next, stepped, rfl⟩, run⟩
      obtain ⟨others, last, read, rfl⟩ := (ih next).1 run
      exact ⟨⟨readable, others⟩, last, ⟨next, stepped, read⟩, rfl⟩
    · rintro ⟨⟨readable, others⟩, last, ⟨next, stepped, run⟩, rfl⟩
      exact ⟨next.count, ⟨readable, next, stepped, rfl⟩, (ih next).2 ⟨others, last, run, rfl⟩⟩

/-- The count that ends a well-formed sequence is that of a single term. -/
lemma count_eq_one_iff (forest : Forest) :
    forest.count = ⟨[], 1⟩ ↔ ∃ term, forest = ⟨[term], []⟩ := by
  rcases forest with ⟨innermost, _ | ⟨group, outer⟩⟩
  · simp [count, countGroups, List.length_eq_one_iff]
  · simp [count, countGroups]

end Forest

variable {symbols : Symbols} {tokens : List String}

/-- **The check accepts the postorders of well-formed terms** whose numerals denote decimals, and
nothing else. -/
theorem checkPostfix_eq_ok_iff_exists_term :
    checkPostfix symbols tokens = .ok () ↔
      (∃ term : Term, term.WellFormed symbols ∧ term.postorder = tokens) ∧
        ∀ token ∈ tokens, symbols.Readable token := by
  have start : OperandCount.empty = Forest.empty.count := rfl
  rw [checkPostfix, Fault.bind_eq_ok_iff, start]
  simp only [Forest.count_steps, OperandCount.finish_eq_ok_iff]
  constructor
  · rintro ⟨_, ⟨readable, last, run, counted⟩, rfl⟩
    obtain ⟨term, rfl⟩ := (Forest.count_eq_one_iff last).1 counted
    exact ⟨⟨term, Forest.steps_empty_eq_some_iff.1 run⟩, readable⟩
  · rintro ⟨⟨term, formed⟩, readable⟩
    exact ⟨_, ⟨readable, _, Forest.steps_empty_eq_some_iff.2 formed, rfl⟩, rfl⟩

/-- **The check accepts exactly the language of the grammar**: a list of tokens passes when it
is a postfix sequence and each of its numerals denotes a decimal.

**Proof sketch.** The check goes in step with reading the tokens into a forest, and ends well when
the forest is a single term. The tokens are then the postorder of that term, which the grammar
generates. -/
theorem checkPostfix_eq_ok_iff :
    checkPostfix symbols tokens = .ok () ↔
      PostfixSequence symbols tokens ∧ ∀ token ∈ tokens,
        symbols.classify token = .numeral → (Decimal.ofNumeral? token).isSome = true := by
  rw [checkPostfix_eq_ok_iff_exists_term, PostfixSequence.iff_exists_term]
  rfl

/-- Every token of a term stands for something. -/
lemma Term.classify_of_mem_postorder (term : Term) (formed : term.WellFormed symbols)
    {token : String} (member : token ∈ term.postorder) :
    symbols.classify token ≠ .freeName ∧ symbols.classify token ≠ .unknown := by
  induction term with
  | value value =>
    rw [Term.postorder_value, List.mem_singleton] at member
    subst member
    rw [Term.wellFormed_value] at formed
    constructor <;> rintro kind <;> simp [kind, TokenKind.isValue] at formed
  | operation symbol left right ihl ihr =>
    obtain ⟨kind, hl, hr⟩ := (Term.wellFormed_operation ..).1 formed
    rw [Term.postorder_operation, List.mem_append, List.mem_append, List.mem_singleton] at member
    rcases member with (member | member) | rfl
    · exact ihl hl member
    · exact ihr hr member
    · simp [kind]
  | call name arguments ih =>
    obtain ⟨kind, all⟩ := (Term.wellFormed_call ..).1 formed
    rw [Term.postorder_call, List.mem_append, List.mem_cons, List.mem_singleton] at member
    rcases member with (rfl | member) | rfl
    · simp
    · obtain ⟨argument, inside, member⟩ := List.mem_flatMap.1 member
      exact ih argument inside (all argument inside) member
    · simp [kind]

/-- Every token of a sequence that passes the check stands for something. -/
lemma classify_of_checkPostfix (accepted : checkPostfix symbols tokens = .ok ())
    {token : String} (member : token ∈ tokens) :
    symbols.classify token ≠ .freeName ∧ symbols.classify token ≠ .unknown := by
  obtain ⟨⟨term, formed, rfl⟩, -⟩ := checkPostfix_eq_ok_iff_exists_term.1 accepted
  exact term.classify_of_mem_postorder formed member

end Formula
