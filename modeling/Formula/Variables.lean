import Formula.NameTable
import Formula.Value

set_option autoImplicit false

/-!
# Variable bindings

Names are bound to numbers or to texts. A name has at most one binding: binding it again drops
the previous one, whichever of the two tables held it.

## Main definitions

* `Formula.Variables` — the tables of numbers and texts.
* `Formula.Variables.setNumber`, `setText`, `number?`, `text?`, `contains`, `names`.

## Main results

* `Formula.Variables.contains_setNumber`, `contains_setText` — binding a name adds it to the bound
  names, whichever table it goes to.
-/

namespace Formula

/-- The bindings of names to numbers and to texts. -/
structure Variables where
  /-- The names that are bound to numbers. -/
  numbers : NameTable Decimal
  /-- The names that are bound to texts, which stand in their written form. -/
  texts : NameTable String

namespace Variables

/-- No bindings. -/
def empty : Variables := ⟨.empty, .empty⟩

/-- Binds a name to a number. -/
def setNumber (bindings : Variables) (name : String) (number : Decimal) : Variables :=
  ⟨bindings.numbers.insert name number, bindings.texts.erase name⟩

/-- Binds a name to a written text. -/
def setText (bindings : Variables) (name written : String) : Variables :=
  ⟨bindings.numbers.erase name, bindings.texts.insert name written⟩

/-- The names `true` and `false` bound to one and zero. -/
def constants : Variables :=
  (empty.setNumber "true" .one).setNumber "false" .zero

/-- The number that a name is bound to. -/
def number? (bindings : Variables) (name : String) : Option Decimal :=
  bindings.numbers.find? name

/-- The written text that a name is bound to. -/
def text? (bindings : Variables) (name : String) : Option String :=
  bindings.texts.find? name

/-- Whether a name is bound. -/
def contains (bindings : Variables) (name : String) : Bool :=
  bindings.numbers.contains name || bindings.texts.contains name

/-- All bound names, in increasing order. -/
def names (bindings : Variables) : List String :=
  bindings.numbers.names.merge bindings.texts.names fun a b => decide (a ≤ b)

/-- Binding a name to a number adds the name to the bound ones. -/
theorem contains_setNumber (bindings : Variables) (name other : String) (number : Decimal) :
    (bindings.setNumber name number).contains other =
      (decide (other = name) || bindings.contains other) := by
  simp only [setNumber, contains, NameTable.contains_eq_isSome_find?, NameTable.find?_insert,
    NameTable.find?_erase]
  by_cases same : other = name <;> simp [same]

/-- Binding a name to a text adds the name to the bound ones. -/
theorem contains_setText (bindings : Variables) (name other written : String) :
    (bindings.setText name written).contains other =
      (decide (other = name) || bindings.contains other) := by
  simp only [setText, contains, NameTable.contains_eq_isSome_find?, NameTable.find?_insert,
    NameTable.find?_erase]
  by_cases same : other = name <;> simp [same]

end Variables

end Formula
