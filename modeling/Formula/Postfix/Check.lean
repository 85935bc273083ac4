import Formula.Token.Kind
import Formula.Decimal.Numeral

set_option autoImplicit false

/-!
# Well-formed postfix sequences

A postfix sequence is well formed when it reduces to exactly one value: every operator finds two
operands in its own group, every function closes a group, and one value is left at the end. The
check counts operands and computes nothing.

## Main definitions

* `Formula.OperandCount` — the number of operands at the top level and in each open group.
* `Formula.OperandCount.step` — the count after one token.
* `Formula.checkPostfix` — the check of a sequence.

## Main results

* `Formula.OperandCount.finish_eq_ok_iff` — the one count that ends a well-formed sequence.
* `Formula.Symbols.SameNames.checkPostfix` — the check does not depend on what names are bound
  to.
-/

namespace Formula

/-- The number of operands in each open group, innermost first, and outside all groups. -/
structure OperandCount where
  /-- The operands of the open groups, the innermost first. -/
  groups : List Nat
  /-- The operands outside all groups. -/
  topLevel : Nat
deriving DecidableEq

namespace OperandCount

/-- The count before the first token. -/
def empty : OperandCount := ⟨[], 0⟩

/-- The number of operands in the innermost open group. -/
def innermost (count : OperandCount) : Nat :=
  count.groups.headD count.topLevel

/-- The count with the number of operands in the innermost open group changed. -/
def mapInnermost (count : OperandCount) (f : Nat → Nat) : OperandCount :=
  match count.groups with
  | [] => { count with topLevel := f count.topLevel }
  | group :: outer => { count with groups := f group :: outer }

/-- The count after one token, or the fault that the token is. -/
def step (symbols : Symbols) (count : OperandCount) (token : String) :
    Except Fault OperandCount :=
  match symbols.classify token with
  | .leftParen => .ok { count with groups := 0 :: count.groups }
  | .operator =>
    if count.innermost < 2 then .error (.missingOperand token)
    else .ok (count.mapInnermost (· - 1))
  | .function =>
    match count.groups with
    | [] => .error (.missingOperand token)
    | _ :: outer => .ok ({ count with groups := outer }.mapInnermost (· + 1))
  | .numeral =>
    if (Decimal.ofNumeral? token).isNone then .error (.invalidNumber token)
    else .ok (count.mapInnermost (· + 1))
  | .text | .boundName => .ok (count.mapInnermost (· + 1))
  | .rightParen | .comma => .error .mismatchedParentheses
  | .freeName | .unknown => .error (.unknownName token)

/-- The count after a list of tokens. -/
def steps (symbols : Symbols) : OperandCount → List String → Except Fault OperandCount
  | count, [] => .ok count
  | count, token :: rest => do steps symbols (← count.step symbols token) rest

/-- One value is left, and every group is closed. -/
def finish (count : OperandCount) : Except Fault Unit :=
  if !count.groups.isEmpty then .error .mismatchedParentheses
  else if count.topLevel = 0 then .error .emptyExpression
  else if count.topLevel = 1 then .ok ()
  else .error .surplusOperands

/-- Only one operand outside all groups ends a well-formed sequence. -/
theorem finish_eq_ok_iff (count : OperandCount) : count.finish = .ok () ↔ count = ⟨[], 1⟩ := by
  obtain ⟨groups, topLevel⟩ := count
  cases groups with
  | cons group outer => simp [finish]
  | nil => rcases topLevel with _ | _ | more <;> simp [finish]

end OperandCount

/-- Succeeds for the sequences that reduce to exactly one value. -/
def checkPostfix (symbols : Symbols) (postfixTokens : List String) : Except Fault Unit := do
  (← OperandCount.empty.steps symbols postfixTokens).finish

namespace Symbols.SameNames

variable {symbols other : Symbols}

/-- Operands are counted in the same way by tables with the same names. -/
theorem steps (same : symbols.SameNames other) (count : OperandCount) (tokens : List String) :
    count.steps other tokens = count.steps symbols tokens := by
  induction tokens generalizing count with
  | nil => rfl
  | cons token rest ih =>
    have stepped : count.step other token = count.step symbols token := by
      simp only [OperandCount.step, same.classify]
    simp only [OperandCount.steps, stepped, ih]

/-- The check depends on which names are bound, and not on what they are bound to. -/
theorem checkPostfix (same : symbols.SameNames other) (tokens : List String) :
    Formula.checkPostfix other tokens = Formula.checkPostfix symbols tokens := by
  simp only [Formula.checkPostfix, same.steps]

end Symbols.SameNames

end Formula
