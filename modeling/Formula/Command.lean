import Formula.Expression

set_option autoImplicit false

/-!
# The command line

The command has three tasks: to evaluate an expression, to show its postfix sequence and to show
its tokens. Arguments are read into a task first, and carrying out a task gives a report, so that
nothing but printing is left to the program.

## Main definitions

* `Formula.Task` — what is asked for, with `ofArguments?`.
* `Formula.Report` — the exit status and the two outputs.
* `Formula.Task.report` — a task carried out.
* `Formula.runCommand` — the report for a list of arguments.
-/

namespace Formula

/-- What the command does, and how an evaluation is set up. -/
inductive Task where
  /-- Print the value of an expression. -/
  | evaluate (source : String) (bindings : List String) (precision : Option UInt32)
      (rounding : Option RoundingMode)
  /-- Print the postfix sequence of an expression. -/
  | showPostfix (source : String)
  /-- Print the tokens of an expression, each on a line. -/
  | showTokens (source : String)
deriving DecidableEq

namespace Task

/-- The options of an evaluation. Each takes a value. -/
inductive Setting where
  | binding
  | precision
  | rounding
deriving DecidableEq

/-- The option with a one-letter name. -/
def Setting.ofShort? : Char → Option Setting
  | 'v' => some binding
  | 'p' => some precision
  | 'r' => some rounding
  | _ => none

/-- The option with a long name. -/
def Setting.ofLong? (name : String) : Option Setting :=
  if name = "var" then some binding
  else if name = "precision" then some precision
  else if name = "rounding" then some rounding
  else none

/-- What an argument is by its shape. -/
inductive Argument where
  /-- Two hyphens, after which every argument is positional. -/
  | separator
  /-- An argument that does not begin with a hyphen, or is just one. -/
  | positional (text : String)
  /-- An option by its one-letter name, with the value that is attached to it. -/
  | short (name : Char) (value : Option String)
  /-- An option by its long name, with the value after an equals sign. -/
  | long (name : String) (value : Option String)

/-- The shape of an argument. A value may follow a letter at once or after an equals sign. -/
def Argument.ofString (text : String) : Argument :=
  match text.toList with
  | ['-', '-'] => .separator
  | '-' :: '-' :: rest =>
    match Text.cut (· == '=') rest with
    | (name, value) => .long (String.ofList name) (value.map String.ofList)
  | ['-', name] => .short name none
  | '-' :: name :: '=' :: value => .short name (some (String.ofList value))
  | '-' :: name :: value => .short name (some (String.ofList value))
  | _ => .positional text

/-- The arguments of an evaluation that have been read. -/
structure Reading where
  source : Option String
  bindings : List String
  precision : Option UInt32
  rounding : Option RoundingMode

namespace Reading

/-- Nothing read. -/
def empty : Reading := ⟨none, [], none, none⟩

/-- Reads a positional argument, of which there is one. -/
def addSource? (reading : Reading) (source : String) : Option Reading :=
  if reading.source.isSome then none else some { reading with source := some source }

/-- A precision is a whole number of 32 bits, which may have a sign. -/
def precision? (text : String) : Option UInt32 := do
  let n ← Numeral.signed? text.toList
  if 0 ≤ n && n < UInt32.size then some (UInt32.ofNat n.toNat) else none

/-- Reads the value of an option. Bindings may be given more than once, the others may not. -/
def set? (reading : Reading) (setting : Setting) (value : String) : Option Reading :=
  match setting with
  | .binding => some { reading with bindings := reading.bindings ++ [value] }
  | .precision =>
    if reading.precision.isSome then none
    else (precision? value).map fun n => { reading with precision := some n }
  | .rounding =>
    if reading.rounding.isSome then none
    else (RoundingMode.ofName? value).map fun mode => { reading with rounding := some mode }

/-- Reads the value of an option from the argument after it, which must not look like an
option. -/
def setNext? (reading : Reading) (setting : Setting) (next : String) : Option Reading :=
  match Argument.ofString next with
  | .positional value => reading.set? setting value
  | _ => none

/-- Reads all arguments; an option whose value is still to come is kept aside. -/
def addAll? (reading : Reading) (pending : Option Setting) : List String → Option Reading
  | [] => if pending.isSome then none else some reading
  | argument :: rest =>
    match pending with
    | some setting => do addAll? (← reading.setNext? setting argument) none rest
    | none =>
      let addSetting (setting? : Option Setting) (value : Option String) : Option Reading := do
        let setting ← setting?
        match value with
        | some value => addAll? (← reading.set? setting value) none rest
        | none => addAll? reading (some setting) rest
      match Argument.ofString argument with
      | .separator => rest.foldlM addSource? reading
      | .positional source => do addAll? (← reading.addSource? source) none rest
      | .short name value => addSetting (Setting.ofShort? name) value
      | .long name value => addSetting (Setting.ofLong? name) value

/-- The task of evaluating what has been read. -/
def evaluation? (reading : Reading) : Option Task :=
  reading.source.map fun source =>
    .evaluate source reading.bindings reading.precision reading.rounding

/-- The source, when nothing else has been read. -/
def onlySource? (reading : Reading) : Option String :=
  if reading.bindings.isEmpty && reading.precision.isNone && reading.rounding.isNone then
    reading.source
  else none

end Reading

/-- The task that a list of arguments asks for. -/
def ofArguments? (arguments : List String) : Option Task := do
  let command :: rest := arguments | none
  let reading ← Reading.empty.addAll? none rest
  if command = "eval" then reading.evaluation?
  else if command = "rpn" || command = "postfix" then reading.onlySource?.map .showPostfix
  else if command = "tokens" then reading.onlySource?.map .showTokens
  else none

/-- How to call the command. -/
def usage : String :=
  "Usage: eval EXPRESSION [-v NAME=VALUE]... [-p DIGITS] [-r MODE] | " ++
    "rpn EXPRESSION | tokens EXPRESSION\n"

end Task

/-- What a run of the command leaves: its exit status and what it writes. -/
structure Report where
  status : UInt8
  output : String
  errors : String
deriving DecidableEq

namespace Report

/-- A run that writes its result. -/
def success (output : String) : Report := ⟨0, output, ""⟩

/-- A run that fails with a message. -/
def failure (message : String) : Report := ⟨1, "", "Error: " ++ message ++ "\n"⟩

/-- A text with every line after the first one indented by four spaces. -/
def indent (text : String) : String :=
  String.ofList (text.toList.flatMap fun c => if c == '\n' then "\n    ".toList else [c])

/-- A run that fails in what it was doing, because of a fault. A fault of capacity is not reported
but breaks the run off. -/
def failed (doing source : String) (fault : Fault) : Report :=
  if fault.kind = .capacity then ⟨101, "", fault.message ++ "\n"⟩
  else failure s!"Failed to {doing} '{source}'\n\nCaused by:\n    {indent fault.message}"

end Report

namespace Task

/-- The name and the value of a binding, without the blanks around them, or what is wrong with
it. -/
def splitBinding (text : String) : Except String (String × String) :=
  match Text.cut (· == '=') text.toList with
  | (_, none) => .error s!"Invalid binding '{text}', expected NAME=VALUE"
  | (name, some value) =>
    let name := Unicode.trim name
    if name.isEmpty then .error s!"Invalid binding '{text}', name is empty"
    else .ok (String.ofList name, String.ofList (Unicode.trim value))

/-- The expression with a list of bindings made one after the other. -/
def bindAll : Expression → List String → Except String Expression
  | expression, [] => .ok expression
  | expression, text :: rest => do
    let (name, value) ← splitBinding text
    bindAll (expression.setVariable name (Binding.ofString value)) rest

/-- The expression of an evaluation before its bindings are made. -/
def setUp (source : String) (precision : Option UInt32) (rounding : Option RoundingMode) :
    Expression :=
  let expression := Expression.new source
  let expression := (rounding.map expression.setRounding).getD expression
  (precision.map expression.setPrecision).getD expression

/-- A task carried out. -/
def report : Task → Report
  | evaluate source bindings precision rounding =>
    match bindAll (setUp source precision rounding) bindings with
    | .error message => .failure message
    | .ok expression =>
      match expression.evaluate.1 with
      | .ok value => .success (value.display ++ "\n")
      | .error fault => .failed "evaluate" expression.source fault
  | showPostfix source =>
    match (Expression.new source).postfixText.1 with
    | .ok text => .success (text ++ "\n")
    | .error fault => .failed "parse" source fault
  | showTokens source =>
    match (Expression.new source).tokens with
    | .ok tokens => .success (String.join (tokens.map (· ++ "\n")))
    | .error fault => .failed "tokenize" source fault

end Task

/-- The report for the arguments of the command. -/
def runCommand (arguments : List String) : Report :=
  match Task.ofArguments? arguments with
  | some task => task.report
  | none => ⟨2, "", Task.usage⟩

end Formula
