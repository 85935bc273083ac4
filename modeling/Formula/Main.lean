import Formula.Command

set_option autoImplicit false

/-!
# The program

Prints the report for the arguments and exits with its status.
-/

/-- Runs the command. -/
def main (arguments : List String) : IO UInt32 := do
  let report := Formula.runCommand arguments
  IO.print report.output
  IO.eprint report.errors
  return report.status.toUInt32
