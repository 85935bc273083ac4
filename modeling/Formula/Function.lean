import Formula.Context
import Formula.NameTable
import Formula.Deferred

set_option autoImplicit false

/-!
# Functions

A function receives its parameters deferred, so it decides which of them are computed. The two
standard functions compute all of them and return an extreme one.

## Main definitions

* `Formula.Arity` — the numbers of parameters that a function takes.
* `Formula.Function` — the definition of a function.
* `Formula.Function.minimum`, `maximum` — the standard functions.
* `Formula.FunctionTable` — the functions by name.
-/

namespace Formula

/-- The numbers of parameters that a function takes. -/
inductive Arity where
  /-- Exactly the given number. -/
  | fixed (count : Nat)
  /-- Any number. -/
  | variadic
deriving DecidableEq

/-- Whether a function takes a number of parameters. -/
def Arity.accepts : Arity → Nat → Bool
  | fixed expected, count => expected == count
  | variadic, _ => true

/-- The definition of a function. -/
structure Function where
  /-- The name, in which case matters. -/
  name : String
  /-- The numbers of parameters it takes. -/
  arity : Arity
  /-- The value of the function at a list of deferred parameters. -/
  apply : List Deferred → NumericContext → Outcome

namespace Function

/-- The numbers in a list of values, or the fault of the named function at a text. -/
def numbers (name : String) : List Value → Except Fault (List Decimal)
  | [] => .ok []
  | .decimal number :: rest => (numbers name rest).map (number :: ·)
  | .text _ :: _ => .error (.textParameter name)

/-- The first extreme number of a list that starts with `best`: a later one takes its place only
when it compares as wanted. -/
def extremum (wanted : Ordering) (best : Decimal) (numbers : List Decimal) : Decimal :=
  numbers.foldl (fun best number => if number.compare best == wanted then number else best) best

/-- The first extreme parameter, after every parameter has been computed. -/
def extreme (name : String) (wanted : Ordering) (parameters : List Deferred)
    (_ : NumericContext) : Outcome := do
  let values ← Deferred.forceAll parameters
  match ← numbers name values with
  | [] => throw (.noParameters name)
  | first :: rest => pure (.decimal (extremum wanted first rest))

/-- The least parameter. -/
def minimum : Function := ⟨"min", .variadic, extreme "min" .lt⟩

/-- The greatest parameter. -/
def maximum : Function := ⟨"max", .variadic, extreme "max" .gt⟩

end Function

/-- Functions by name. -/
abbrev FunctionTable := NameTable Function

namespace FunctionTable

/-- The table with a function registered under its name, and the function that it replaces. -/
def register (table : FunctionTable) (function : Function) : FunctionTable × Option Function :=
  (table.insert function.name function, table.find? function.name)

/-- The table of the standard functions. -/
def standard : FunctionTable :=
  [Function.minimum, Function.maximum].foldl (fun table function => (table.register function).1)
    .empty

end FunctionTable

end Formula
