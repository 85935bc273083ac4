import Formula.Proofs.Decimal.Notation
import Formula.Proofs.Postfix.Meaning

set_option autoImplicit false

/-!
# Printable values

A value is printable in a context when its written form can be read back there: a number fits the
precision, and a text is a content between delimiters in which no delimiter ends it early. The
standard operators and functions give printable values at printable operands, and so does every
term, if its texts and the numbers of its names are printable.

A text stays printable when it is joined with another one, for the first content does not end with
an escape character and so keeps what follows as it is. The notation of a number has neither
delimiters nor escape characters.

## Main definitions

* `Formula.Value.Printable` — what can be read back.
* `Formula.Operator.KeepsPrintable`, `Function.KeepsPrintable` — printable values at printable
  operands.
* `Formula.Symbols.KeepPrintable` — tables whose operators, functions and numbers are such.

## Main results

* `Formula.Operator.keepsPrintable_of_mem_standard`, `Function.keepsPrintable_extreme` — the
  standard operators and functions.
* `Formula.Symbols.keepPrintable_standard`, `KeepPrintable.setNumber` — the standard tables, with
  further names bound to numbers that fit.
* `Formula.Term.printable_of_outcome` — the value of a term.
-/

namespace Formula

namespace Value

variable {context : NumericContext}

/-- A value that can be read back in a context: a number fits the precision, and in a text no
delimiter before the last one ends it. -/
def Printable (context : NumericContext) : Value → Prop
  | decimal number => context.Fits number
  | text written =>
    ∃ content, Delimited.Escaped content ∧ written.toList = Delimited.enclose content

/-- The normal form is printable as the value is. -/
lemma Printable.normalized {value : Value} (printable : value.Printable context) :
    value.normalized.Printable context := by
  cases value with
  | decimal number => exact NumericContext.Fits.normalized printable
  | text written => exact printable

/-- The normal form is its own normal form. -/
@[simp] lemma normalized_normalized (value : Value) :
    value.normalized.normalized = value.normalized := by
  cases value with
  | decimal number => exact congrArg decimal number.normalized_normalized
  | text written => rfl

/-- An escaped content between delimiters is printable. -/
lemma printable_enclose {content : List Char} (escaped : Delimited.Escaped content) :
    (Value.text (String.ofList (Delimited.enclose content))).Printable context :=
  ⟨content, escaped, String.toList_ofList⟩

end Value

/-- The notation of a number can stand in a text. -/
lemma Decimal.escaped_plainChars (number : Decimal) : Delimited.Escaped number.plainChars := by
  have digits := (Decimal.isDigits_plainMagnitude number.unscaled.natAbs number.scale).2
  refine Delimited.escaped_of_forall fun c member => ?_
  have shape : Token.isNumeralChar c = true ∨ c = '-' := by
    rw [Decimal.plainChars_eq, Decimal.withSign] at member
    split at member
    case isTrue =>
      rcases List.mem_cons.1 member with isMinus | inside
      · exact .inr isMinus
      · exact .inl (digits c inside)
    case isFalse => exact .inl (digits c member)
  constructor <;> rintro rfl <;> exact absurd shape (by decide)

/-! ## Operators -/

namespace Operator

open Value Delimited

variable {context : NumericContext} {left right value : Value}

/-- An operator gives printable values at printable operands. -/
def KeepsPrintable (operator : Operator) : Prop :=
  ∀ {context : NumericContext} {left right value : Value}, left.Printable context →
    right.Printable context → operator.apply left right context = .ok value →
      value.Printable context

/-- An operator on numbers gives what the function of the numbers gives. -/
lemma onDecimals_eq_ok {symbol : String} {f : Decimal → Decimal → Except Fault Decimal}
    (applied : onDecimals symbol f left right = .ok value) :
    ∃ a b number, f a b = .ok number ∧ value = .decimal number := by
  unfold onDecimals at applied
  split at applied
  case h_1 a b =>
    obtain ⟨number, result, rfl⟩ := Fault.map_eq_ok_iff.1 applied
    exact ⟨a, b, number, result, rfl⟩
  case h_2 => cases applied

/-- An operator on numbers gives printable values when all that its function gives fits. -/
lemma printable_of_onDecimals {symbol : String} {f : Decimal → Decimal → Except Fault Decimal}
    (fits : ∀ a b number, f a b = .ok number → context.Fits number)
    (applied : onDecimals symbol f left right = .ok value) : value.Printable context := by
  obtain ⟨a, b, number, result, rfl⟩ := onDecimals_eq_ok applied
  exact fits a b number result

/-- **Texts that are joined are printable.** -/
lemma printable_join {first second : List Char} (escapedFirst : Escaped first)
    (escapedSecond : Escaped second) :
    (writtenText (join (enclose first) (enclose second))).Printable context := by
  rw [join_enclose]
  exact printable_enclose (escapedFirst.append escapedSecond)

/-- A sum is rounded, and a joined text is made of printable ones. -/
lemma printable_add (printableLeft : left.Printable context)
    (printableRight : right.Printable context) (applied : add left right context = .ok value) :
    value.Printable context := by
  unfold add at applied
  split at applied
  case h_1 a b =>
    obtain rfl := Except.ok.inj applied
    exact context.round_fits _
  case h_2 s t =>
    obtain ⟨first, escapedFirst, writtenFirst⟩ := printableLeft
    obtain ⟨second, escapedSecond, writtenSecond⟩ := printableRight
    obtain rfl := Except.ok.inj applied
    rw [writtenFirst, writtenSecond]
    exact printable_join escapedFirst escapedSecond
  case h_3 s b =>
    obtain ⟨first, escapedFirst, writtenFirst⟩ := printableLeft
    obtain rfl := Except.ok.inj applied
    rw [writtenFirst]
    exact printable_join escapedFirst b.escaped_plainChars
  case h_4 a t =>
    obtain ⟨second, escapedSecond, writtenSecond⟩ := printableRight
    obtain rfl := Except.ok.inj applied
    rw [writtenSecond]
    exact printable_join a.escaped_plainChars escapedSecond

/-- **A text that is repeated is printable.** -/
lemma printable_repeated {written : String} {count : Decimal}
    (printable : (Value.text written).Printable context)
    (applied : repeated written count = .ok value) : value.Printable context := by
  obtain ⟨content, escaped, isWritten⟩ := printable
  obtain ⟨times, -, -, rfl⟩ := repeated_eq_ok_iff.1 applied
  rw [isWritten, repeatContent_enclose]
  exact printable_enclose (escaped.replicate times)

/-- A product is rounded, and a repeated text is made of a printable one. -/
lemma printable_multiply (printableLeft : left.Printable context)
    (printableRight : right.Printable context) (applied : multiply left right context = .ok value) :
    value.Printable context := by
  unfold multiply at applied
  split at applied
  case h_1 a b =>
    obtain rfl := Except.ok.inj applied
    exact context.round_fits _
  case h_2 => exact printable_repeated printableLeft applied
  case h_3 => exact printable_repeated printableRight applied
  case h_4 => cases applied

/-- A number that an operator gives by rounding fits. -/
lemma fits_of_round {exact number : Decimal}
    (rounded : (.ok (context.round exact) : Except Fault Decimal) = .ok number) :
    context.Fits number := by
  obtain rfl := Except.ok.inj rounded
  exact context.round_fits exact

/-- A quotient is rounded. -/
lemma printable_divide (applied : divide left right context = .ok value) :
    value.Printable context := by
  refine printable_of_onDecimals (fun a b number divided => ?_) applied
  split at divided
  case isTrue => cases divided
  case isFalse => exact NumericContext.quotient_fits divided

/-- A remainder is rounded. -/
lemma printable_remainder (applied : remainder left right context = .ok value) :
    value.Printable context := by
  refine printable_of_onDecimals (fun a b number divided => ?_) applied
  split at divided
  case isTrue => cases divided
  case isFalse => exact fits_of_round divided

/-- A truth value is printable in every context. -/
lemma printable_onTruth {symbol : String} {f : Decimal → Decimal → Bool}
    (applied : onTruth symbol f left right context = .ok value) : value.Printable context := by
  refine printable_of_onDecimals (fun a b number decided => ?_) applied
  obtain rfl := Except.ok.inj decided
  exact context.ofBool_fits (f a b)

/-- **The standard operators give printable values.** -/
theorem keepsPrintable_of_mem_standard {operator : Operator} (member : operator ∈ standard) :
    operator.KeepsPrintable := by
  intro context left right value printableLeft printableRight applied
  simp only [standard, List.mem_cons, List.not_mem_nil, or_false] at member
  rcases member with
    rfl | rfl | rfl | rfl | rfl | rfl | rfl | rfl | rfl | rfl | rfl | rfl | rfl | rfl
  iterate 8
    · exact printable_onTruth applied
  · exact printable_add printableLeft printableRight applied
  · exact printable_of_onDecimals (fun a b number => fits_of_round) applied
  · exact printable_multiply printableLeft printableRight applied
  · exact printable_divide applied
  · exact printable_remainder applied
  · exact printable_of_onDecimals (fun a b number => NumericContext.power_fits) applied

end Operator

/-! ## Functions -/

namespace Function

open Value

variable {context : NumericContext} {value : Value}

/-- A function gives printable values at parameters whose values are printable. -/
def KeepsPrintable (function : Function) : Prop :=
  ∀ {context : NumericContext} {parameters : List Deferred} {value : Value},
    (∀ parameter ∈ parameters, ∀ value, parameter.force = .ok value → value.Printable context) →
      function.apply parameters context = .ok value → value.Printable context

/-- The values of parameters whose values are printable. -/
lemma printable_of_forceAll {parameters : List Deferred} {values : List Value}
    (printable : ∀ parameter ∈ parameters, ∀ value, parameter.force = .ok value →
      value.Printable context)
    (forced : Deferred.forceAll parameters = .ok values) :
    ∀ value ∈ values, value.Printable context := by
  induction parameters generalizing values with
  | nil =>
    obtain rfl := Except.ok.inj forced
    simp
  | cons parameter rest ih =>
    obtain ⟨first, others⟩ := List.forall_mem_cons.1 printable
    unfold Deferred.forceAll at forced
    split at forced
    case h_1 => cases forced
    case h_2 value computed =>
      obtain ⟨values, further, rfl⟩ := Fault.map_eq_ok_iff.1 forced
      exact List.forall_mem_cons.2 ⟨first value computed, ih others further⟩

/-- The numbers among printable values fit the context. -/
lemma fits_of_numbers {name : String} {values : List Value} {results : List Decimal}
    (printable : ∀ value ∈ values, value.Printable context)
    (taken : numbers name values = .ok results) : ∀ number ∈ results, context.Fits number := by
  induction values generalizing results with
  | nil =>
    obtain rfl := Except.ok.inj taken
    simp
  | cons value rest ih =>
    obtain ⟨first, others⟩ := List.forall_mem_cons.1 printable
    cases value with
    | text written => cases taken
    | decimal number =>
      obtain ⟨results, further, rfl⟩ := Fault.map_eq_ok_iff.1 taken
      exact List.forall_mem_cons.2 ⟨first, ih others further⟩

/-- An extreme number is one of the numbers. -/
lemma extremum_mem (wanted : Ordering) (best : Decimal) (numbers : List Decimal) :
    extremum wanted best numbers ∈ best :: numbers := by
  induction numbers generalizing best with
  | nil => exact List.mem_cons_self
  | cons number rest ih =>
    rw [extremum, List.foldl_cons, ← extremum]
    split
    case isTrue => exact List.mem_cons_of_mem _ (ih number)
    case isFalse =>
      rcases List.mem_cons.1 (ih best) with same | later
      · rw [same]
        exact List.mem_cons_self
      · exact List.mem_cons_of_mem _ (List.mem_cons_of_mem _ later)

/-- **The standard functions give printable values.** -/
theorem keepsPrintable_extreme (name : String) (arity : Arity) (wanted : Ordering) :
    (⟨name, arity, extreme name wanted⟩ : Function).KeepsPrintable := by
  intro context parameters value printable applied
  obtain ⟨values, forced, applied⟩ := Fault.bind_eq_ok_iff.1 applied
  obtain ⟨results, taken, applied⟩ := Fault.bind_eq_ok_iff.1 applied
  have fits := fits_of_numbers (printable_of_forceAll printable forced) taken
  cases results with
  | nil => cases applied
  | cons first rest =>
    obtain rfl := Except.ok.inj applied
    exact fits _ (extremum_mem wanted first rest)

end Function

/-! ## Tables -/

/-- What is found after entries have been put into a table was there before or is one of them. -/
lemma NameTable.find?_foldl_insert {α : Type} {key : α → String} {entries : List α}
    {table : NameTable α} {name : String} {found : α}
    (isFound : (entries.foldl (fun table entry => table.insert (key entry) entry) table).find?
      name = some found) : table.find? name = some found ∨ found ∈ entries := by
  induction entries generalizing table with
  | nil => exact .inl isFound
  | cons entry rest ih =>
    rcases ih isFound with before | later
    · rw [find?_insert] at before
      split at before
      case isTrue => exact .inr (by simp [Option.some.inj before])
      case isFalse => exact .inl before
    · exact .inr (List.mem_cons_of_mem _ later)

namespace Symbols

open Value

variable {symbols : Symbols} {context : NumericContext}

/-- Tables whose operators and functions give printable values, and whose names are bound to
numbers that fit. -/
structure KeepPrintable (symbols : Symbols) (context : NumericContext) : Prop where
  operators : ∀ {symbol : String} {operator : Operator},
    symbols.operators.find? symbol = some operator → operator.KeepsPrintable
  functions : ∀ {name : String} {function : Function},
    symbols.functions.find? name = some function → function.KeepsPrintable
  numbers : ∀ {name : String} {number : Decimal},
    symbols.bindings.number? name = some number → context.Fits number

/-- A name bound to a number that fits leaves the tables such. -/
lemma KeepPrintable.setNumber (keep : symbols.KeepPrintable context) {number : Decimal}
    (fits : context.Fits number) (name : String) :
    KeepPrintable { symbols with bindings := symbols.bindings.setNumber name number } context := by
  refine { keep with numbers := fun {other found} isFound => ?_ }
  simp only [Variables.setNumber, Variables.number?, NameTable.find?_insert] at isFound
  split at isFound
  case isTrue =>
    obtain rfl := Option.some.inj isFound
    exact fits
  case isFalse => exact keep.numbers isFound

/-- **The standard tables.** -/
theorem keepPrintable_standard (context : NumericContext) : standard.KeepPrintable context := by
  constructor
  case operators =>
    intro symbol operator isFound
    rcases @NameTable.find?_foldl_insert _ Operator.symbol _ _ _ _ isFound with inEmpty | member
    · cases inEmpty
    · exact Operator.keepsPrintable_of_mem_standard member
  case functions =>
    intro name function isFound
    rcases @NameTable.find?_foldl_insert _ Function.name _ _ _ _ isFound with inEmpty | member
    · cases inEmpty
    · simp only [List.mem_cons, List.not_mem_nil, or_false] at member
      rcases member with rfl | rfl
      · exact Function.keepsPrintable_extreme "min" .variadic .lt
      · exact Function.keepsPrintable_extreme "max" .variadic .gt
  case numbers =>
    intro name number isFound
    simp only [standard, Variables.constants, Variables.number?, Variables.setNumber,
      NameTable.find?_insert] at isFound
    split at isFound
    case isTrue =>
      obtain rfl := Option.some.inj isFound
      exact context.ofBool_fits false
    case isFalse =>
      split at isFound
      case isTrue =>
        obtain rfl := Option.some.inj isFound
        exact context.ofBool_fits true
      case isFalse => cases isFound

end Symbols

/-! ## Terms -/

namespace Term

open Value

variable {symbols : Symbols} {context : NumericContext}

/-- **The value of a term is printable**, if its texts are.

**Proof sketch.** Induction on the term. A numeral is rounded when it is read, a text is printable
by assumption, and a name is bound to a number that fits. The operators and functions of the tables
keep the property, whichever of its parameters a function computes. -/
theorem printable_of_outcome (keep : symbols.KeepPrintable context) (term : Term)
    (texts : ∀ token ∈ term.postorder, symbols.classify token = .text →
      (Value.text token).Printable context) {value : Value}
    (computed : term.outcome symbols context = .ok value) : value.Printable context := by
  induction term generalizing value with
  | value token =>
    rw [outcome, Symbols.operand] at computed
    split at computed
    case h_1 =>
      split at computed
      case h_1 number _ =>
        obtain rfl := Except.ok.inj computed
        exact context.round_fits number
      case h_2 => cases computed
    case h_2 kind =>
      obtain rfl := Except.ok.inj computed
      exact texts token (by simp) kind
    case h_3 =>
      split at computed
      case h_1 number isBound =>
        obtain rfl := Except.ok.inj computed
        exact keep.numbers isBound
      case h_2 => cases computed
  | operation symbol left right ihl ihr =>
    rw [outcome] at computed
    obtain ⟨second, computedRight, computed⟩ := Fault.bind_eq_ok_iff.1 computed
    obtain ⟨first, computedLeft, computed⟩ := Fault.bind_eq_ok_iff.1 computed
    rw [postorder_operation] at texts
    have printableRight := ihr (fun token member => texts token (by simp [member])) computedRight
    have printableLeft := ihl (fun token member => texts token (by simp [member])) computedLeft
    split at computed
    case h_1 operator found => exact keep.operators found printableLeft printableRight computed
    case h_2 => cases computed
  | call name arguments ih =>
    rw [outcome] at computed
    rw [postorder_call] at texts
    split at computed
    case h_1 function found =>
      refine keep.functions found (fun parameter member value forced => ?_) computed
      rw [deferreds_eq_map] at member
      obtain ⟨argument, inside, rfl⟩ := List.mem_map.1 member
      refine ih argument inside (fun token memberToken => texts token ?_) forced
      exact List.mem_append_left _ (List.mem_cons_of_mem _
        (List.mem_flatMap.2 ⟨argument, inside, memberToken⟩))
    case h_2 => cases computed

end Term

end Formula
