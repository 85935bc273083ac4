import Formula.Decimal.Binary
import Formula.Decimal.Numeral
import Formula.Value

set_option autoImplicit false

/-!
# What a name is bound to

A name stands for a number, for a text, or for a piece of source that takes its place. A written
binding is a text when it is delimited, a number when it is a numeral, and source otherwise.

## Main definitions

* `Formula.Binding` — the type.
* `Formula.Binding.ofString`, `ofValue`, `ofInt`, `ofBinary` — the bindings of written forms,
  values, integers and binary floating-point numbers.
-/

namespace Formula

/-- What a name is bound to. -/
inductive Binding where
  /-- A number. -/
  | decimal (number : Decimal)
  /-- A text in its written form. -/
  | text (written : String)
  /-- Source that takes the place of the name. -/
  | source (replacement : String)
deriving DecidableEq

namespace Binding

/-- The binding that a text spells out. -/
def ofString (text : String) : Binding :=
  if Delimited.isDelimited text.toList then .text text
  else
    match Decimal.ofNumeral? text with
    | some number => .decimal number
    | none => .source text

/-- A value as a binding. -/
def ofValue : Value → Binding
  | .decimal number => .decimal number
  | .text written => .text written

/-- An integer as a binding. -/
def ofInt (n : Int) : Binding := .decimal (.ofInt n)

/-- A binary floating-point number as a binding, given by its bits: the shortest decimal that
reads back as it. What is not finite is taken for the name of a variable. -/
def ofBinary (format : BinaryFormat) (bits : Nat) : Binding :=
  match format.decode bits with
  | .finite negative magnitude => .decimal (.ofFinite negative magnitude)
  | .infinite false => .source "inf"
  | .infinite true => .source "-inf"
  | .notANumber => .source "NaN"

end Binding

end Formula
