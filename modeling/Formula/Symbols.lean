import Formula.Operator.Standard
import Formula.Function
import Formula.Variables

set_option autoImplicit false

/-!
# Symbols

The operators, functions and bound names that the tokens of an expression are looked up in.

## Main definitions

* `Formula.Symbols` — the three tables, with `standard`.
* `Formula.Symbols.SameNames` — two sets of tables that differ only in what names are bound to.
-/

namespace Formula

/-- The operators, functions and bound names of an expression. -/
structure Symbols where
  operators : OperatorTable
  functions : FunctionTable
  bindings : Variables

namespace Symbols

/-- The standard operators and functions, and the constants `true` and `false`. -/
def standard : Symbols := ⟨.standard, .standard, .constants⟩

/-- The same operators and functions, and bindings for the same names. -/
structure SameNames (symbols other : Symbols) : Prop where
  operators : other.operators = symbols.operators
  functions : other.functions = symbols.functions
  bound : ∀ name, other.bindings.contains name = symbols.bindings.contains name

end Symbols

end Formula
