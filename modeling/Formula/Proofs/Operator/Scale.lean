import Formula.Function
import Formula.Operator.Standard
import Formula.Proofs.Decimal.Power
import Formula.Proofs.Decimal.Quotient

set_option autoImplicit false

/-!
# Results do not depend on how a number is written

Decimals of different scales may stand for the same number. An operator works on the integers and
on the scales, and counts digits, but the number of its result is a function of the numbers of its
operands: sums, differences and products are exact, a rounded decimal stands for the rounded
number, and a quotient is rounded as if it had been divided without end. Decimals are compared as
numbers, so that the extreme ones do not depend on scales either.

What shows a scale is the notation of a number, where it is joined to a text, and a division at the
limits of the scales that can be stored: the same quotient may be found from one notation of its
operands, while a scale does not fit for another one.

## Main definitions

* `Formula.Decimal.SameNumber`, `Formula.Value.Same` — equal up to the scales of numbers.
* `Formula.Fault.Agree` — related results, or faults of the same kind.
* `Formula.NumericContext.DivisionFits` — a division whose zeros and scales fit.
* `Formula.Operator.ScaleSafe` — the operands that an operator takes as numbers.
* `Formula.Operator.IgnoresScale`, `Formula.Function.IgnoresScale` — results are equal up to scales.

## Main results

* `Formula.Value.agrees_iff_same` — the comparison of values tests equality up to scales.
* `Formula.Operator.ignoresScale_of_mem_standard` — the standard operators ignore scales.
* `Formula.Operator.agree_divide_iff` — divisions agree if both have scales that fit, or neither.
* `Formula.Function.ignoresScale_extreme` — and so do the functions.
* `Formula.scale_has_no_influence` — both, in every context.
-/

namespace Formula

/-! ## Equality up to scales -/

/-- Two decimals stand for the same number. -/
def Decimal.SameNumber (a b : Decimal) : Prop := a.toRat = b.toRat

/-- Two values are equal, up to the scale if they are numbers. -/
inductive Value.Same : Value → Value → Prop where
  | decimal {a b : Decimal} : a.SameNumber b → Same (.decimal a) (.decimal b)
  | text (written : String) : Same (.text written) (.text written)

/-- The comparison of values tests whether they are equal up to scales. -/
theorem Value.agrees_iff_same {v w : Value} : v.agrees w = true ↔ v.Same w := by
  constructor
  · intro agrees
    match v, w, agrees with
    | .decimal a, .decimal b, agrees =>
      rw [Value.agrees, Decimal.numEq, beq_iff_eq, Decimal.compare_eq, compare_eq_iff_eq] at agrees
      exact .decimal agrees
    | .text s, .text t, agrees =>
      rw [Value.agrees, beq_iff_eq] at agrees
      exact agrees ▸ .text s
  · rintro (same | written)
    · rw [Value.agrees, Decimal.numEq, beq_iff_eq, Decimal.compare_eq, compare_eq_iff_eq]
      exact same
    · rw [Value.agrees, beq_iff_eq]

/-! ## Arithmetic on the same numbers -/

namespace Decimal.SameNumber

variable {context : NumericContext} {a b a' b' : Decimal}

/-- Whether a number is zero depends on the number alone. -/
lemma isZero_eq (same : a.SameNumber a') : a.isZero = a'.isZero := by
  rw [Bool.eq_iff_iff, Decimal.isZero_iff, Decimal.isZero_iff, same]

/-- Whether a number is an integer depends on the number alone. -/
lemma isInteger_eq (same : a.SameNumber a') : a.isInteger = a'.isInteger := by
  rw [Bool.eq_iff_iff, Decimal.isInteger_iff, Decimal.isInteger_iff, same]

/-- The integer part depends on the number alone. -/
lemma truncate_eq (same : a.SameNumber a') : a.truncate = a'.truncate := by
  rw [Decimal.truncate_eq, Decimal.truncate_eq, same]

/-- The order of two numbers depends on the numbers alone. -/
lemma compare_eq (ha : a.SameNumber a') (hb : b.SameNumber b') :
    a.compare b = a'.compare b' := by
  rw [Decimal.compare_eq, Decimal.compare_eq, ha, hb]

/-- Sums of the same numbers are the same number. -/
lemma add (ha : a.SameNumber a') (hb : b.SameNumber b') : (a.add b).SameNumber (a'.add b') := by
  rw [SameNumber, toRat_add, toRat_add, ha, hb]

/-- Differences of the same numbers are the same number. -/
lemma sub (ha : a.SameNumber a') (hb : b.SameNumber b') : (a.sub b).SameNumber (a'.sub b') := by
  rw [SameNumber, toRat_sub, toRat_sub, ha, hb]

/-- Products of the same numbers are the same number. -/
lemma mul (ha : a.SameNumber a') (hb : b.SameNumber b') : (a.mul b).SameNumber (a'.mul b') := by
  rw [SameNumber, toRat_mul, toRat_mul, ha, hb]

/-- The same numbers are rounded to the same number, since significant digits are counted without
the zeros in front of them. -/
lemma round (same : a.SameNumber a') : (context.round a).SameNumber (context.round a') := by
  rw [SameNumber, NumericContext.toRat_round, NumericContext.toRat_round, same]

/-- Remainders of the same numbers are the same number. -/
lemma remainder (ha : a.SameNumber a') (hb : b.SameNumber b') :
    (context.remainder a b).SameNumber (context.remainder a' b') := by
  rw [SameNumber, NumericContext.toRat_remainder, NumericContext.toRat_remainder, ha, hb]

/-- Powers of the same numbers with a natural exponent are the same number, whatever is trimmed in
between. -/
lemma integerPower (same : a.SameNumber a') (exponent : Nat) :
    (context.integerPower a exponent).SameNumber (context.integerPower a' exponent) := by
  rw [SameNumber, NumericContext.toRat_integerPower, NumericContext.toRat_integerPower, same]

/-- Quotients are rounded as if they had been divided without end, so they depend on the numbers
only. The number of digits of the integer quotients may differ. -/
lemma exactQuotient (ha : a.SameNumber a') (hb : b.SameNumber b') (nonzero : b.toRat ≠ 0)
    (fits : context.ShiftFits a b) (fits' : context.ShiftFits a' b') :
    (context.exactQuotient a b).SameNumber (context.exactQuotient a' b') := by
  have nonzero' : b'.toRat ≠ 0 := by rwa [← hb]
  rw [SameNumber, NumericContext.toRat_exactQuotient nonzero fits,
    NumericContext.toRat_exactQuotient nonzero' fits', ha, hb]

end Decimal.SameNumber

/-! ## Outcomes that agree -/

namespace Fault

variable {α β γ δ : Type} {R : α → β → Prop} {S : γ → δ → Prop}
  {first : Except Fault α} {second : Except Fault β}

/-- Two computations agree if both have results, which are related, or both end in a fault, for
causes of the same kind. -/
inductive Agree (R : α → β → Prop) : Except Fault α → Except Fault β → Prop where
  | ok {x : α} {y : β} : R x y → Agree R (.ok x) (.ok y)
  | error {f g : Fault} : f.kind = g.kind → Agree R (.error f) (.error g)

/-- Results that agree do so after functions that keep them related. -/
lemma Agree.map {f : α → γ} {g : β → δ} (agree : Agree R first second)
    (maps : ∀ {x y}, R x y → S (f x) (g y)) : Agree S (first.map f) (second.map g) := by
  cases agree with
  | ok related => exact .ok (maps related)
  | error kind => exact .error kind

/-- Computations that agree can be continued: the first fault of both has the same kind, and what
follows related results agrees. -/
lemma Agree.bind {f : α → Except Fault γ} {g : β → Except Fault δ} (agree : Agree R first second)
    (continues : ∀ {x y}, R x y → Agree S (f x) (g y)) : Agree S (first >>= f) (second >>= g) := by
  cases agree with
  | ok related => exact continues related
  | error kind => exact .error kind

end Fault

open Fault (Agree)

/-! ## Quotients -/

namespace NumericContext

variable {context : NumericContext} {a b a' b' : Decimal}

/-- A division appends less than `2 ^ 32` zeros, and the scales that it computes fit. Nothing is
divided by zero. -/
def DivisionFits (context : NumericContext) (a b : Decimal) : Prop :=
  b.toRat ≠ 0 → context.ShiftFits a b ∧ context.ScalesFit a b

/-- Quotients of the same numbers agree if both divisions fit. -/
lemma agree_quotient (ha : a.SameNumber a') (hb : b.SameNumber b') (divisor : ¬ b'.isZero = true)
    (fits : context.DivisionFits a b) (fits' : context.DivisionFits a' b') :
    Agree Decimal.SameNumber (context.quotient a b) (context.quotient a' b') := by
  have nonzero' : b'.toRat ≠ 0 := fun zero => divisor (Decimal.isZero_iff.2 zero)
  have nonzero : b.toRat ≠ 0 := by rwa [hb]
  obtain ⟨short, stored⟩ := fits nonzero
  obtain ⟨short', stored'⟩ := fits' nonzero'
  rw [quotient_of_scalesFit stored, quotient_of_scalesFit stored']
  exact .ok (ha.exactQuotient hb nonzero short short')

end NumericContext

/-! ## Operators -/

namespace Operator

variable {context : NumericContext} {symbol : String}

/-- The operands that an operator takes without regard to scales. A division appends less than
`2 ^ 32` zeros and its scales can be stored, also the one that inverts a power, the exponent of a
power is whole, and no number is joined to a text. -/
def ScaleSafe (symbol : String) (context : NumericContext) : Value → Value → Prop
  | .decimal a, .decimal b =>
    (symbol = "/" → context.DivisionFits a b) ∧
    (symbol = "^" → ∃ n : Int, b.toRat = n ∧ (n < 0 → n.natAbs < UInt32.size →
      context.DivisionFits .one (context.round (context.integerPower a n.natAbs))))
  | .text _, .text _ => True
  | _, _ => symbol ≠ "+"

/-- Operands that are equal up to scales have results that are equal up to scales, or are refused
for causes of the same kind. -/
def IgnoresScale (symbol : String) (apply : Value → Value → NumericContext → Outcome)
    (context : NumericContext) : Prop :=
  ∀ ⦃left right left' right' : Value⦄, left.Same left' → right.Same right' →
    ScaleSafe symbol context left right → ScaleSafe symbol context left' right' →
    Agree Value.Same (apply left right context) (apply left' right' context)

/-- Two refusals agree, as only the texts of the operands differ. -/
lemma agree_refuse {α β : Type} {R : α → β → Prop} (left right left' right' : Value) :
    Agree R (refuse symbol left right) (refuse symbol left' right') := .error rfl

/-- An operator on two numbers ignores scales if its function does. -/
lemma IgnoresScale.of_onDecimals {apply : Value → Value → NumericContext → Outcome}
    {f : Decimal → Decimal → Except Fault Decimal}
    (applies : ∀ left right, apply left right context = onDecimals symbol f left right)
    (agree : ∀ {a b a' b' : Decimal}, a.SameNumber a' → b.SameNumber b' →
      ScaleSafe symbol context (.decimal a) (.decimal b) →
      ScaleSafe symbol context (.decimal a') (.decimal b') →
      Agree Decimal.SameNumber (f a b) (f a' b')) : IgnoresScale symbol apply context := by
  intro left right left' right' hl hr safe safe'
  rw [applies, applies]
  cases hl with
  | text => exact agree_refuse ..
  | decimal ha =>
    cases hr with
    | text => exact agree_refuse ..
    | decimal hb => exact (agree ha hb safe safe').map .decimal

/-- A truth value ignores scales if it is the same for the same numbers. -/
lemma ignoresScale_onTruth {f : Decimal → Decimal → Bool}
    (same : ∀ {a b a' b' : Decimal}, a.SameNumber a' → b.SameNumber b' → f a b = f a' b') :
    IgnoresScale symbol (onTruth symbol f) context := by
  refine .of_onDecimals (fun _ _ => rfl) fun {a b a' b'} ha hb _ _ => .ok ?_
  rw [same ha hb, Decimal.SameNumber]

/-- A conjunction asks its operands only whether they are zero. -/
lemma ignoresScale_conjunction : IgnoresScale "&&" conjunction context :=
  ignoresScale_onTruth fun ha hb => by rw [ha.isZero_eq, hb.isZero_eq]

/-- A disjunction asks its operands only whether they are zero. -/
lemma ignoresScale_disjunction : IgnoresScale "||" disjunction context :=
  ignoresScale_onTruth fun ha hb => by rw [ha.isZero_eq, hb.isZero_eq]

/-- A comparison asks its operands only for their order. -/
lemma ignoresScale_comparison (accepts : Ordering → Bool) :
    IgnoresScale symbol (comparison symbol accepts) context :=
  ignoresScale_onTruth fun ha hb => by rw [ha.compare_eq hb]

/-- Sums are exact up to the rounding, and a concatenation, which would show the scale of a number,
is left out. -/
lemma ignoresScale_add : IgnoresScale "+" add context := by
  intro left right left' right' hl hr safe _
  cases hl with
  | decimal ha =>
    cases hr with
    | decimal hb => exact .ok (.decimal (ha.add hb).round)
    | text => exact absurd rfl safe
  | text =>
    cases hr with
    | decimal => exact absurd rfl safe
    | text => exact .ok (.text _)

/-- Differences are exact up to the rounding. -/
lemma ignoresScale_subtract : IgnoresScale "-" subtract context :=
  .of_onDecimals (fun _ _ => rfl) fun ha hb _ _ => .ok (ha.sub hb).round

/-- How often a text is repeated depends on the number only. -/
lemma agree_repetitions {count count' : Decimal} (same : count.SameNumber count') :
    Agree Eq (repetitions count) (repetitions count') := by
  rw [repetitions, repetitions, same.isInteger_eq, same.truncate_eq]
  split
  · exact .error rfl
  · dsimp only
    split
    · exact .ok rfl
    · exact .error rfl

/-- The number of repetitions of a text is taken from the number alone. -/
lemma agree_repeated (written : String) {count count' : Decimal} (same : count.SameNumber count') :
    Agree Value.Same (repeated written count) (repeated written count') := by
  refine (agree_repetitions same).bind ?_
  rintro times _ rfl
  split
  · exact .error rfl
  · exact .ok (.text _)

/-- Products are exact up to the rounding, and a text is repeated as often. -/
lemma ignoresScale_multiply : IgnoresScale "*" multiply context := by
  intro left right left' right' hl hr _ _
  cases hl with
  | decimal ha =>
    cases hr with
    | decimal hb => exact .ok (.decimal (ha.mul hb).round)
    | text written => exact agree_repeated written ha
  | text written =>
    cases hr with
    | decimal hb => exact agree_repeated written hb
    | text => exact agree_refuse ..

/-- Quotients of divisions that break off for neither or for both pairs of operands. -/
lemma ignoresScale_divide : IgnoresScale "/" divide context := by
  refine .of_onDecimals (fun _ _ => rfl) fun ha hb safe safe' => ?_
  rw [hb.isZero_eq]
  split
  case isTrue => exact .error rfl
  case isFalse divisor =>
    exact NumericContext.agree_quotient ha hb divisor (safe.1 rfl) (safe'.1 rfl)

/-- **Divisions of the same numbers agree exactly if the scales of both fit**, or those of
neither. -/
theorem agree_divide_iff {a b a' b' : Decimal} (ha : a.SameNumber a') (hb : b.SameNumber b')
    (nonzero : b.toRat ≠ 0) (fits : context.ShiftFits a b) (fits' : context.ShiftFits a' b') :
    Agree Value.Same (divide (.decimal a) (.decimal b) context)
        (divide (.decimal a') (.decimal b') context) ↔
      (context.ScalesFit a b ↔ context.ScalesFit a' b') := by
  have nonzero' : b'.toRat ≠ 0 := by rwa [← hb]
  by_cases stored : context.ScalesFit a b <;> by_cases stored' : context.ScalesFit a' b'
  · rw [divide_of_scalesFit nonzero stored, divide_of_scalesFit nonzero' stored']
    exact iff_of_true (.ok (.decimal (ha.exactQuotient hb nonzero fits fits')))
      (iff_of_true stored stored')
  · rw [divide_of_scalesFit nonzero stored, divide_of_not_scalesFit nonzero' stored']
    exact iff_of_false nofun fun same => stored' (same.1 stored)
  · rw [divide_of_not_scalesFit nonzero stored, divide_of_scalesFit nonzero' stored']
    exact iff_of_false nofun fun same => stored (same.2 stored')
  · rw [divide_of_not_scalesFit nonzero stored, divide_of_not_scalesFit nonzero' stored']
    exact iff_of_true (.error rfl) (iff_of_false stored stored')

/-- Remainders, and the refusal of a divisor that is zero. -/
lemma ignoresScale_remainder : IgnoresScale "%" remainder context := by
  refine .of_onDecimals (fun _ _ => rfl) fun ha hb _ _ => ?_
  rw [hb.isZero_eq]
  split
  · exact .error rfl
  · exact .ok (ha.remainder hb)

/-- The power of a number with a whole exponent depends on the numbers only. -/
lemma ignoresScale_power : IgnoresScale "^" power context := by
  refine .of_onDecimals (fun _ _ => rfl) fun {a b a' b'} ha hb safe safe' => ?_
  obtain ⟨n, whole, fits⟩ := safe.2 rfl
  obtain ⟨n', whole', fits'⟩ := safe'.2 rfl
  obtain rfl : n = n' := by
    rw [← Int.cast_inj (α := ℚ), ← whole, ← whole', hb]
  have rounded : (context.round (context.integerPower a n.natAbs)).SameNumber
      (context.round (context.integerPower a' n.natAbs)) := (ha.integerPower n.natAbs).round
  rw [NumericContext.power_of_whole whole, NumericContext.power_of_whole whole',
    rounded.isZero_eq]
  split
  case isTrue => exact .error rfl
  case isFalse short =>
    split
    case isFalse => exact .ok rounded
    case isTrue negative =>
      split
      case isTrue => exact .error rfl
      case isFalse divisor =>
        exact NumericContext.agree_quotient rfl rounded divisor (fits negative (not_le.1 short))
          (fits' negative (not_le.1 short))

/-- **The standard operators ignore scales.** -/
theorem ignoresScale_of_mem_standard {operator : Operator} (member : operator ∈ standard) :
    IgnoresScale operator.symbol operator.apply context := by
  simp only [standard, List.mem_cons, List.not_mem_nil, or_false] at member
  rcases member with
    rfl | rfl | rfl | rfl | rfl | rfl | rfl | rfl | rfl | rfl | rfl | rfl | rfl | rfl
  · exact ignoresScale_conjunction
  · exact ignoresScale_disjunction
  iterate 6 exact ignoresScale_comparison _
  · exact ignoresScale_add
  · exact ignoresScale_subtract
  · exact ignoresScale_multiply
  · exact ignoresScale_divide
  · exact ignoresScale_remainder
  · exact ignoresScale_power

end Operator

/-! ## Functions -/

namespace Function

open List (Forall₂)

/-- Parameters that agree have outcomes that agree. -/
def IgnoresScale (function : Function) (context : NumericContext) : Prop :=
  ∀ ⦃parameters parameters' : List Deferred⦄,
    Forall₂ (fun p p' => Agree Value.Same p.force p'.force) parameters parameters' →
    Agree Value.Same (function.apply parameters context) (function.apply parameters' context)

/-- Parameters that agree one by one are all computed, or the first fault of both lists has the same
kind. -/
lemma agree_forceAll {parameters parameters' : List Deferred}
    (agree : Forall₂ (fun p p' => Agree Value.Same p.force p'.force) parameters parameters') :
    Agree (Forall₂ Value.Same) (Deferred.forceAll parameters) (Deferred.forceAll parameters') := by
  induction agree with
  | nil => exact .ok .nil
  | @cons p p' _ _ head _ ih =>
    rw [Deferred.forceAll, Deferred.forceAll]
    generalize p.force = first, p'.force = first' at head
    cases head with
    | error kind => exact .error kind
    | ok same => exact ih.map (.cons same)

/-- Values that are the same up to scales are all numbers or are both refused. -/
lemma agree_numbers (name : String) {values values' : List Value}
    (same : Forall₂ Value.Same values values') :
    Agree (Forall₂ Decimal.SameNumber) (numbers name values) (numbers name values') := by
  induction same with
  | nil => exact .ok .nil
  | cons head _ ih =>
    cases head with
    | decimal number => exact ih.map (.cons number)
    | text => exact .error rfl

/-- The extreme of numbers is the same number, whichever decimals stand for them. -/
lemma sameNumber_extremum (wanted : Ordering) {best best' : Decimal}
    {numbers numbers' : List Decimal} (first : best.SameNumber best')
    (same : Forall₂ Decimal.SameNumber numbers numbers') :
    (extremum wanted best numbers).SameNumber (extremum wanted best' numbers') := by
  induction same generalizing best best' with
  | nil => exact first
  | cons head _ ih =>
    rw [extremum, extremum, List.foldl_cons, List.foldl_cons,
      head.compare_eq first]
    refine ih ?_
    split
    · exact head
    · exact first

/-- **An extreme ignores scales.** -/
theorem ignoresScale_extreme (name : String) (wanted : Ordering) (context : NumericContext)
    {parameters parameters' : List Deferred}
    (agree : Forall₂ (fun p p' => Agree Value.Same p.force p'.force) parameters parameters') :
    Agree Value.Same (extreme name wanted parameters context)
      (extreme name wanted parameters' context) := by
  refine (agree_forceAll agree).bind fun values => ?_
  refine (agree_numbers name values).bind fun numbers => ?_
  cases numbers with
  | nil => exact .error rfl
  | cons first rest => exact .ok (.decimal (sameNumber_extremum wanted first rest))

end Function

/-- **No result shows how a number was written**, unless it is joined to a text or the scales of a
division do not fit. Operands or parameters that are equal up to the scales of numbers have results
that are equal up to scales, texts among them being equal, or faults of the same kind. Divisions of
the same numbers have such results exactly if the scales of both fit, or those of neither.

**Proof sketch.** One case for each operator: what it computes from the integers and scales of its
operands stands for a function of their numbers. The functions force parameters that agree, and
then only compare numbers. -/
theorem scale_has_no_influence (context : NumericContext) :
    (∀ operator ∈ Operator.standard,
      Operator.IgnoresScale operator.symbol operator.apply context) ∧
    (∀ function ∈ [Function.minimum, Function.maximum], function.IgnoresScale context) ∧
    ∀ a b a' b' : Decimal, a.SameNumber a' → b.SameNumber b' → b.toRat ≠ 0 →
      context.ShiftFits a b → context.ShiftFits a' b' →
      (Agree Value.Same (Operator.divide (.decimal a) (.decimal b) context)
          (Operator.divide (.decimal a') (.decimal b') context) ↔
        (context.ScalesFit a b ↔ context.ScalesFit a' b')) := by
  refine ⟨fun operator member => Operator.ignoresScale_of_mem_standard member, ?_,
    fun _ _ _ _ ha hb nonzero => Operator.agree_divide_iff ha hb nonzero⟩
  intro function member parameters parameters' agree
  simp only [List.mem_cons, List.not_mem_nil, or_false] at member
  rcases member with rfl | rfl
  · exact Function.ignoresScale_extreme "min" .lt context agree
  · exact Function.ignoresScale_extreme "max" .gt context agree

/-- `1.5 ^ -3` and `1.500 ^ -3.0`, a power that is inverted by a division, and the lesser of
`1200` and `7`. -/
theorem scale_has_no_influence_inverted :
    (Value.decimal ⟨15, 1⟩).Same (.decimal ⟨1500, 3⟩) ∧
    (Value.decimal ⟨-3, 0⟩).Same (.decimal ⟨-30, 1⟩) ∧
    Operator.ScaleSafe "^" .decimal32 (.decimal ⟨15, 1⟩) (.decimal ⟨-3, 0⟩) ∧
    Operator.ScaleSafe "^" .decimal32 (.decimal ⟨1500, 3⟩) (.decimal ⟨-30, 1⟩) ∧
    Agree Value.Same (Operator.power (.decimal ⟨15, 1⟩) (.decimal ⟨-3, 0⟩) .decimal32)
      (Operator.power (.decimal ⟨1500, 3⟩) (.decimal ⟨-30, 1⟩) .decimal32) ∧
    Agree Value.Same
      (Function.minimum.apply [.ready (.decimal ⟨1200, 0⟩), .ready (.decimal ⟨7, 0⟩)] .decimal32)
      (Function.minimum.apply [.ready (.decimal ⟨12, -2⟩), .ready (.decimal ⟨70, 1⟩)]
        .decimal32) := by
  have base : (Value.decimal ⟨15, 1⟩).Same (.decimal ⟨1500, 3⟩) :=
    .decimal (by norm_num [Decimal.SameNumber, Decimal.toRat])
  have exponent : (Value.decimal ⟨-3, 0⟩).Same (.decimal ⟨-30, 1⟩) :=
    .decimal (by norm_num [Decimal.SameNumber, Decimal.toRat])
  have fits : NumericContext.decimal32.DivisionFits .one (NumericContext.decimal32.round
      (NumericContext.decimal32.integerPower ⟨15, 1⟩ (-3 : Int).natAbs)) :=
    fun _ => ⟨fun _ _ => by decide, NumericContext.scalesFit_of_small (by decide) (by decide)
      (by decide) (by decide)⟩
  have fits' : NumericContext.decimal32.DivisionFits .one (NumericContext.decimal32.round
      (NumericContext.decimal32.integerPower ⟨1500, 3⟩ (-3 : Int).natAbs)) :=
    fun _ => ⟨fun _ _ => by decide, NumericContext.scalesFit_of_small (by decide) (by decide)
      (by decide) (by decide)⟩
  have safe : Operator.ScaleSafe "^" .decimal32 (.decimal ⟨15, 1⟩) (.decimal ⟨-3, 0⟩) :=
    ⟨by simp, fun _ => ⟨-3, by norm_num [Decimal.toRat], fun _ _ => fits⟩⟩
  have safe' : Operator.ScaleSafe "^" .decimal32 (.decimal ⟨1500, 3⟩) (.decimal ⟨-30, 1⟩) :=
    ⟨by simp, fun _ => ⟨-3, by norm_num [Decimal.toRat], fun _ _ => fits'⟩⟩
  refine ⟨base, exponent, safe, safe', ?_, ?_⟩
  · exact (scale_has_no_influence .decimal32).1 ⟨"^", 40, false, Operator.power⟩
      (by simp [Operator.standard]) base exponent safe safe'
  · refine (scale_has_no_influence .decimal32).2.1 Function.minimum (by simp)
      (.cons (.ok (.decimal ?_)) (.cons (.ok (.decimal ?_)) .nil)) <;>
    norm_num [Decimal.SameNumber, Decimal.toRat]

/-- What is joined to a text is the notation of a number, which shows its scale. -/
example :
    Operator.add (.text "''") (.decimal ⟨15, 1⟩) .decimal32 = .ok (.text "'1.5'") ∧
      Operator.add (.text "''") (.decimal ⟨150, 2⟩) .decimal32 = .ok (.text "'1.50'") := by
  constructor <;> rfl

/-- A number that is written with a scale below the largest one can be divided by `10 ^ 5`. The same
number with twenty zeros and the largest scale cannot. -/
theorem scale_has_influence_largest :
    (⟨1, 9223372036854775787⟩ : Decimal).SameNumber
        ⟨100000000000000000000, 9223372036854775807⟩ ∧
      NumericContext.decimal32.ShiftFits ⟨1, 9223372036854775787⟩ ⟨1, -5⟩ ∧
      NumericContext.decimal32.ShiftFits ⟨100000000000000000000, 9223372036854775807⟩ ⟨1, -5⟩ ∧
      Operator.divide (.decimal ⟨1, 9223372036854775787⟩) (.decimal ⟨1, -5⟩) .decimal32 =
        .ok (.decimal ⟨1, 9223372036854775792⟩) ∧
      Operator.divide (.decimal ⟨100000000000000000000, 9223372036854775807⟩)
        (.decimal ⟨1, -5⟩) .decimal32 = .error .scaleOverflow ∧
      ¬ Agree Value.Same
        (Operator.divide (.decimal ⟨1, 9223372036854775787⟩) (.decimal ⟨1, -5⟩) .decimal32)
        (Operator.divide (.decimal ⟨100000000000000000000, 9223372036854775807⟩)
          (.decimal ⟨1, -5⟩) .decimal32) := by
  have appended : (⟨100000000000000000000, 9223372036854775807⟩ : Decimal) =
    ⟨1 * 10 ^ 20, 9223372036854775787 + (20 : Nat)⟩ := by norm_num
  have same : (⟨1, 9223372036854775787⟩ : Decimal).SameNumber
      ⟨100000000000000000000, 9223372036854775807⟩ := by
    rw [Decimal.SameNumber, appended, Decimal.toRat_appended]
  have divided : Operator.divide (.decimal ⟨1, 9223372036854775787⟩) (.decimal ⟨1, -5⟩)
    .decimal32 = .ok (.decimal ⟨1, 9223372036854775792⟩) := by decide
  have brokenOff : Operator.divide (.decimal ⟨100000000000000000000, 9223372036854775807⟩)
    (.decimal ⟨1, -5⟩) .decimal32 = .error .scaleOverflow := by decide
  refine ⟨same, fun _ _ => by decide, fun _ _ => by decide, divided, brokenOff, ?_⟩
  rw [divided, brokenOff]
  exact nofun

end Formula
