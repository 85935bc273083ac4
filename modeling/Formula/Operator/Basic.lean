import Formula.Context
import Formula.NameTable
import Formula.Deferred

set_option autoImplicit false

/-!
# Operators

A binary operator is a symbol with a precedence, an associativity and a function of its two
operands and the numeric context. Operators are kept in a table under their symbols.

## Main definitions

* `Formula.Operator` — the definition of an operator.
* `Formula.Operator.yieldsTo` — which of two neighbouring operators is applied first.
* `Formula.OperatorTable` — the operators by symbol.
-/

namespace Formula

/-- The definition of a binary operator. -/
structure Operator where
  /-- The symbol as it stands in a source. -/
  symbol : String
  /-- An operator of higher precedence binds tighter. -/
  precedence : Int
  /-- Chains of equal precedence are grouped from the left. -/
  leftAssociative : Bool
  /-- The value of the operator at a left and a right operand. -/
  apply : Value → Value → NumericContext → Outcome

namespace Operator

/-- An operator yields to the one before it when that one binds tighter, or as tightly and the
later one groups from the left: the earlier one is then applied first. -/
def yieldsTo (operator earlier : Operator) : Bool :=
  operator.precedence < earlier.precedence ||
    operator.leftAssociative && earlier.precedence == operator.precedence

end Operator

/-- Operators by symbol. -/
abbrev OperatorTable := NameTable Operator

namespace OperatorTable

/-- The table with an operator registered under its symbol, and the operator that it replaces. -/
def register (table : OperatorTable) (operator : Operator) : OperatorTable × Option Operator :=
  (table.insert operator.symbol operator, table.find? operator.symbol)

end OperatorTable

end Formula
