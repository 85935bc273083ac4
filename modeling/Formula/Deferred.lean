import Formula.Value

set_option autoImplicit false

/-!
# Deferred values

An operand is not computed when it is met but when it is needed. A deferred value stands for a
computation that has not run; a function receives its parameters deferred and decides which of
them are computed at all.

## Main definitions

* `Formula.Deferred` — a value or fault that is computed when forced.
* `Formula.Deferred.forceAll` — all of a list, left to right, up to the first fault.
-/

namespace Formula

/-- The outcome of a computation: a value or the fault that stopped it. -/
abbrev Outcome := Except Fault Value

/-- A computation that runs when its value is asked for. -/
abbrev Deferred := Thunk Outcome

namespace Deferred

/-- A value that is there already. -/
def ready (value : Value) : Deferred := Thunk.pure (.ok value)

/-- The outcome of the computation. -/
def force (deferred : Deferred) : Outcome := deferred.get

/-- The values of a list of deferred values, or the fault of the first one that has none. -/
def forceAll : List Deferred → Except Fault (List Value)
  | [] => .ok []
  | deferred :: rest =>
    match deferred.force with
    | .error fault => .error fault
    | .ok value => (forceAll rest).map (value :: ·)

end Deferred

end Formula
