import Formula.Operator.Power
import Formula.Proofs.Decimal.Significant
import Mathlib.Tactic.Positivity

set_option autoImplicit false

/-!
# Powers by squaring

A power with a whole exponent is a loop of products, each of which is trimmed to a few digits more
than the precision. The loop is followed here on rational numbers, with any rounding in place of
the trimming. As long as the rounding does not change the powers that it meets, the result is the
power. Otherwise every rounding changes a number by a small factor, squaring doubles the number of
these factors, and all in all there are no more of them than the exponent says.

## Main definitions

* `Formula.powerLoop` — the loop on numbers.
* `Formula.Near` — a number is another one, up to some factors near one.
* `Formula.NumericContext.trimmed` — a trimmed number.

## Main results

* `Formula.powerLoop_invariant` — what one product and one square preserve holds of the result.
* `Formula.NumericContext.toRat_integerPower` — the power of decimals is the loop on numbers.
* `Formula.NumericContext.integerPower_accuracy` — exact powers, and how far others are off.
* `Formula.NumericContext.power_of_whole` — the power operation at a whole exponent.
-/

namespace Formula

/-! ## The loop on numbers -/

section Loop

variable {round : ℚ → ℚ}

/-- The product `product * square ^ exponent`, with every product rounded, for
`exponent < 2 ^ bits`. -/
def powerLoop (round : ℚ → ℚ) : Nat → Nat → ℚ → ℚ → ℚ
  | 0, _, _, product => product
  | bits + 1, exponent, square, product =>
    if exponent = 0 then product
    else
      let next := if exponent % 2 = 1 then round (product * square) else product
      if exponent / 2 = 0 then next
      else powerLoop round bits (exponent / 2) (round (square * square)) next

/-- **The invariant of the loop.** Let `Square k` say that a number stands for the power `k`, and
`Product k` the same of the product. If a rounded product and a rounded square stand for the sum of
the powers, as far as to the power wanted, then the result stands for that power.

**Proof sketch.** Induction on the bits. What is left to be multiplied is the square to the
exponent: the last bit of the exponent goes into the product, and the others into the next square,
which stands for twice the power. -/
theorem powerLoop_invariant (Square Product : Nat → ℚ → Prop) {total : Nat}
    (multiply : ∀ {j k : Nat} {x y : ℚ}, Product j x → Square k y → j + k ≤ total →
      Product (j + k) (round (x * y)))
    (double : ∀ {k : Nat} {y : ℚ}, Square k y → k + k ≤ total → Square (k + k) (round (y * y)))
    {bits exponent j k : Nat} {x y : ℚ} (bounded : exponent < 2 ^ bits)
    (left : j + k * exponent = total) (square : Square k y) (product : Product j x) :
    Product total (powerLoop round bits exponent y x) := by
  induction bits generalizing exponent j k x y with
  | zero =>
    obtain rfl : exponent = 0 := by simpa using bounded
    obtain rfl : j = total := by simpa using left
    exact product
  | succ bits ih =>
    rw [powerLoop]
    split
    case isTrue zero =>
      obtain rfl : j = total := by simpa [zero] using left
      exact product
    case isFalse nonzero =>
      have halfBounded : exponent / 2 < 2 ^ bits := by
        rw [pow_succ] at bounded
        omega
      -- the product after the last bit, and what is left of the power then
      obtain ⟨reached, next, split⟩ : ∃ reached,
          Product reached (if exponent % 2 = 1 then round (x * y) else x) ∧
            reached + (k + k) * (exponent / 2) = total := by
        have halves := Nat.div_add_mod exponent 2
        rcases Nat.mod_two_eq_zero_or_one exponent with even | odd
        · refine ⟨j, by rwa [if_neg (by omega)], ?_⟩
          rw [← left, ← halves, even]
          simp only [Nat.add_zero, Nat.mul_div_cancel_left _ (by decide : 0 < 2)]
          ring
        · have split : j + k + (k + k) * (exponent / 2) = total := by
            rw [← left]
            conv_rhs => rw [← halves, odd]
            ring
          refine ⟨j + k, ?_, split⟩
          rw [if_pos odd]
          exact multiply product square (by omega)
      dsimp only
      split
      case isTrue zero =>
        rw [zero, Nat.mul_zero, Nat.add_zero] at split
        exact split ▸ next
      case isFalse more =>
        refine ih halfBounded split (double square ?_) next
        calc k + k ≤ (k + k) * (exponent / 2) := Nat.le_mul_of_pos_right _ (Nat.pos_of_ne_zero more)
          _ ≤ total := by omega

/-- A power is exact if the rounding does not change the powers up to it. -/
lemma powerLoop_eq_pow {bits exponent : Nat} {base : ℚ} (bounded : exponent < 2 ^ bits)
    (fixed : ∀ k ≤ exponent, round (base ^ k) = base ^ k) :
    powerLoop round bits exponent base 1 = base ^ exponent := by
  refine powerLoop_invariant (fun k y => y = base ^ k) (fun k x => x = base ^ k) ?_ ?_ bounded
    (j := 0) (k := 1) (by omega) (pow_one _).symm (pow_zero _).symm
  · rintro j k x y rfl rfl within
    rw [← pow_add, fixed _ within]
  · rintro k y rfl within
    rw [← pow_add, fixed _ within]

end Loop

/-! ## Relative errors -/

section Near

variable {error : ℚ} {j k : Nat} {x y x' y' z : ℚ}

/-- A number is another one up to so many factors, each of which differs from one by at most the
error. -/
def Near (error : ℚ) (count : Nat) (approximate exact : ℚ) : Prop :=
  ∃ factor, approximate = exact * factor ∧ (1 - error) ^ count ≤ factor ∧
    factor ≤ (1 + error) ^ count

/-- A number is near to itself without a factor of error. -/
lemma near_self (error x : ℚ) : Near error 0 x x := ⟨1, by simp, by simp, by simp⟩

/-- One factor more, after those that are there. -/
lemma Near.trans (nonneg : 0 ≤ error) (small : error ≤ 1) (first : Near error j x y)
    (second : Near error k y z) : Near error (j + k) x z := by
  obtain ⟨f, rfl, lower, upper⟩ := first
  obtain ⟨g, rfl, lower', upper'⟩ := second
  have base : 0 ≤ 1 - error := by linarith
  refine ⟨g * f, by ring, ?_, ?_⟩
  · rw [pow_add, mul_comm g f]
    exact mul_le_mul lower lower' (pow_nonneg base _) ((pow_nonneg base _).trans lower)
  · rw [pow_add, mul_comm g f]
    exact mul_le_mul upper upper' ((pow_nonneg base _).trans lower') (by positivity)

/-- The factors of a product are those of both numbers. -/
lemma Near.mul (nonneg : 0 ≤ error) (small : error ≤ 1) (first : Near error j x x')
    (second : Near error k y y') : Near error (j + k) (x * y) (x' * y') := by
  obtain ⟨f, rfl, lower, upper⟩ := first
  have moved : Near error j (x' * f * y) (x' * y) := ⟨f, by ring, lower, upper⟩
  obtain ⟨g, rfl, lower', upper'⟩ := second
  exact moved.trans nonneg small ⟨g, by ring, lower', upper'⟩

/-- **A power has as many factors as the exponent says.**

**Proof sketch.** A square that stands for the power `k` has `k - 1` factors, since its next square
has twice as many and one for the rounding. A product with so many factors has at most one for
each multiplication by the base that it stands for. -/
lemma near_powerLoop {round : ℚ → ℚ} (nonneg : 0 ≤ error) (small : error ≤ 1)
    (rounded : ∀ x, Near error 1 (round x) x) {bits exponent : Nat} (base : ℚ)
    (bounded : exponent < 2 ^ bits) :
    Near error exponent (powerLoop round bits exponent base 1) (base ^ exponent) := by
  refine powerLoop_invariant (fun k y => ∃ i, k = i + 1 ∧ Near error i y (base ^ k))
    (fun k x => Near error k x (base ^ k)) ?_ ?_ bounded (j := 0) (k := 1) (by omega)
    ⟨0, rfl, by simpa using near_self error base⟩ (by simpa using near_self error 1)
  · rintro j _ x y product ⟨i, rfl, square⟩ -
    have exact := (rounded (x * y)).trans nonneg small (product.mul nonneg small square)
    rw [← pow_add] at exact
    convert exact using 1
    omega
  · rintro _ y ⟨i, rfl, square⟩ -
    have exact := (rounded (y * y)).trans nonneg small (square.mul nonneg small square)
    rw [← pow_add] at exact
    exact ⟨1 + (i + i), by omega, exact⟩

end Near

/-- A rounded number is off by at most one factor. -/
lemma RoundingMode.near_significant (mode : RoundingMode) {digits : Nat} (some : digits ≠ 0)
    (x : ℚ) :
    Near (10 ^ (1 - digits : Int)) 1 (mode.significant digits x) x := by
  rcases eq_or_ne x 0 with rfl | nonzero
  · exact ⟨1, by simp, by simp [(Decimal.tenPow_pos _).le], by simp [(Decimal.tenPow_pos _).le]⟩
  have positive : 0 < |x| := abs_pos.2 nonzero
  have reached : unit digits x ≤ 10 ^ (1 - digits : Int) * |x| := by
    have first : (10 : ℚ) ^ Int.log 10 |x| ≤ |x| := by
      exact_mod_cast Int.zpow_log_le_self (by norm_num) positive
    rw [unit, add_sub_assoc, zpow_add₀ (by norm_num), mul_comm]
    exact mul_le_mul_of_nonneg_left first (Decimal.tenPow_pos _).le
  have off : |mode.significant digits x / x - 1| ≤ 10 ^ (1 - digits : Int) := by
    rw [div_sub_one nonzero, abs_div, div_le_iff₀ positive]
    exact (abs_significant_sub_lt some).le.trans reached
  obtain ⟨lower, upper⟩ := abs_le.1 off
  refine ⟨mode.significant digits x / x, (mul_div_cancel₀ _ nonzero).symm, ?_, ?_⟩
  · rw [pow_one]
    linarith
  · rw [pow_one]
    linarith

/-! ## Powers of decimals -/

namespace NumericContext

variable {context : NumericContext}

/-- A number rounded to ten digits more than the precision, if there is one. -/
def trimmed (context : NumericContext) (x : ℚ) : ℚ :=
  if context.precision = 0 then x
  else context.rounding.significant (context.precision.toNat + 10) x

/-- How far a trimmed number is off at most, relative to the number. -/
def trimError (context : NumericContext) : ℚ := 10 ^ (-(context.precision.toNat + 9 : Int))

/-- The number of a trimmed decimal is the trimmed number: it does not depend on the scale. -/
@[simp] lemma toRat_trim (context : NumericContext) (d : Decimal) :
    (context.trim d).toRat = context.trimmed d.toRat := by
  rw [trim, trimmed]
  split
  case isTrue => rfl
  case isFalse => exact RoundingMode.toRat_roundTo ..

/-- The loop on decimals is the loop on the numbers that they stand for. -/
lemma toRat_squareAndMultiply (context : NumericContext) (bits exponent : Nat)
    (square product : Decimal) :
    (context.squareAndMultiply bits exponent square product).toRat =
      powerLoop context.trimmed bits exponent square.toRat product.toRat := by
  induction bits generalizing exponent square product with
  | zero => rfl
  | succ bits ih =>
    have next :
        (if exponent % 2 = 1 then context.trim (product.mulNormal square) else product).toRat =
        if exponent % 2 = 1 then context.trimmed (product.toRat * square.toRat)
        else product.toRat := by
      split <;> simp
    rw [squareAndMultiply, powerLoop]
    dsimp only
    split
    case isTrue => rfl
    case isFalse =>
      split
      case isTrue => exact next
      case isFalse => rw [ih, next, toRat_trim, Decimal.toRat_mulNormal]

/-- **A power of decimals** is the loop on numbers, with every product trimmed. -/
theorem toRat_integerPower (context : NumericContext) (base : Decimal) (exponent : Nat) :
    (context.integerPower base exponent).toRat =
      powerLoop context.trimmed 32 exponent base.toRat 1 := by
  rw [integerPower, toRat_squareAndMultiply, Decimal.toRat_one]

/-- Without a precision nothing is trimmed. -/
lemma trimmed_of_precision_eq_zero (unlimited : context.precision = 0) (x : ℚ) :
    context.trimmed x = x := if_pos unlimited

/-- A trimmed number is off by at most one factor. -/
lemma near_trimmed (limited : context.precision ≠ 0) (x : ℚ) :
    Near context.trimError 1 (context.trimmed x) x := by
  have exponent : (1 - (context.precision.toNat + 10 : Nat) : Int) =
      -(context.precision.toNat + 9 : Int) := by omega
  rw [trimmed, if_neg limited, trimError, ← exponent]
  exact RoundingMode.near_significant _ (Nat.succ_ne_zero _) x

/-- The powers of a decimal up to one whose integer is short enough are not changed. -/
lemma trimmed_pow (limited : context.precision ≠ 0) {base : Decimal} {exponent k : Nat}
    (fits : Digits.count (base.unscaled ^ exponent).natAbs ≤ context.precision.toNat + 10)
    (within : k ≤ exponent) : context.trimmed (base.toRat ^ k) = base.toRat ^ k := by
  have short : (base.unscaled ^ k).natAbs < 10 ^ (context.precision.toNat + 10) := by
    rw [Digits.count_le_iff (by omega), Int.natAbs_pow] at fits
    rw [Int.natAbs_pow]
    rcases Nat.eq_zero_or_pos base.unscaled.natAbs with zero | positive
    · exact (pow_le_one' (by simp [zero]) k).trans_lt (Nat.one_lt_pow (by omega) (by decide))
    · exact (Nat.pow_le_pow_right positive within).trans_lt fits
  have written : base.toRat ^ k = (base.unscaled ^ k : Int) * (10 : ℚ) ^ (-base.scale * k) := by
    rw [Decimal.toRat, mul_pow, ← zpow_natCast (10 ^ (-base.scale) : ℚ), ← zpow_mul, Int.cast_pow]
  rw [trimmed, if_neg limited, written]
  exact RoundingMode.significant_of_mul _ short

/-- **Powers by squaring are exact, or off by one factor for every multiplication.** Without a
precision the result is the power. With a precision it is the power if the power of the integer has
at most ten digits more than the precision, and in any case its ratio to the power is bounded by
as many errors of trimming as the exponent says.

**Proof sketch.** All is said of the loop on numbers. Trimming changes no power up to one that is
short enough, and otherwise changes a number by one factor. -/
theorem integerPower_accuracy (context : NumericContext) (base : Decimal) (exponent : UInt32) :
    (context.precision = 0 →
      (context.integerPower base exponent.toNat).toRat = base.toRat ^ exponent.toNat) ∧
    (context.precision ≠ 0 →
      (Digits.count (base.unscaled ^ exponent.toNat).natAbs ≤ context.precision.toNat + 10 →
        (context.integerPower base exponent.toNat).toRat = base.toRat ^ exponent.toNat) ∧
      (base.toRat ≠ 0 →
        (1 - context.trimError) ^ exponent.toNat ≤
            (context.integerPower base exponent.toNat).toRat / base.toRat ^ exponent.toNat ∧
          (context.integerPower base exponent.toNat).toRat / base.toRat ^ exponent.toNat ≤
            (1 + context.trimError) ^ exponent.toNat)) := by
  rw [toRat_integerPower]
  have bounded : exponent.toNat < 2 ^ 32 := exponent.toNat_lt
  refine ⟨fun unlimited => ?_, fun limited => ⟨fun fits => ?_, fun nonzero => ?_⟩⟩
  · exact powerLoop_eq_pow bounded fun k _ => trimmed_of_precision_eq_zero unlimited _
  · exact powerLoop_eq_pow bounded fun k within => trimmed_pow limited fits within
  · have small : context.trimError ≤ 1 := zpow_le_one_of_nonpos₀ (by norm_num) (by omega)
    obtain ⟨factor, same, lower, upper⟩ := near_powerLoop (Decimal.tenPow_pos _).le small
      (near_trimmed limited) base.toRat bounded
    rw [same, mul_div_cancel_left₀ _ (pow_ne_zero _ nonzero)]
    exact ⟨lower, upper⟩

/-- With a precision of 1, eleven digits are kept: all of `1.1 ^ 5`, and not all of
`123456789 ^ 2`. -/
theorem integerPower_accuracy_trimmed :
    let context : NumericContext := ⟨1, .halfUp⟩
    Digits.count ((11 : Int) ^ 5).natAbs ≤ context.precision.toNat + 10 ∧
      (context.integerPower ⟨11, 1⟩ 5).toRat = (⟨11, 1⟩ : Decimal).toRat ^ 5 ∧
      context.precision.toNat + 10 < Digits.count ((123456789 : Int) ^ 2).natAbs ∧
      (⟨123456789, 0⟩ : Decimal).toRat ≠ 0 ∧
      (1 - context.trimError) ^ 2 ≤
        (context.integerPower ⟨123456789, 0⟩ 2).toRat / (⟨123456789, 0⟩ : Decimal).toRat ^ 2 ∧
      (context.integerPower ⟨123456789, 0⟩ 2).toRat / (⟨123456789, 0⟩ : Decimal).toRat ^ 2 ≤
        (1 + context.trimError) ^ 2 := by
  intro context
  have limited : context.precision ≠ 0 := by decide
  have short : Digits.count ((11 : Int) ^ 5).natAbs ≤ context.precision.toNat + 10 := by decide
  have nonzero : (⟨123456789, 0⟩ : Decimal).toRat ≠ 0 := by
    rw [Ne, Decimal.toRat_eq_zero_iff]
    decide
  exact ⟨short, ((integerPower_accuracy context ⟨11, 1⟩ 5).2 limited).1 short, by decide, nonzero,
    ((integerPower_accuracy context ⟨123456789, 0⟩ 2).2 limited).2 nonzero⟩

/-! ## Whole exponents -/

/-- A power with a whole exponent takes no double arithmetic. -/
lemma power_of_whole {base exponent : Decimal} {n : Int} (whole : exponent.toRat = n) :
    context.power base exponent =
      if UInt32.size ≤ n.natAbs then .error (.exponentTooLarge exponent)
      else if n < 0 then
        if (context.round (context.integerPower base n.natAbs)).isZero then .error .divisionByZero
        else context.quotient .one (context.round (context.integerPower base n.natAbs))
      else .ok (context.round (context.integerPower base n.natAbs)) := by
  have magnitude : exponent.abs.toRat = (n.natAbs : Int) := by
    rw [Decimal.toRat_abs, whole, ← Int.cast_abs, Int.abs_eq_natAbs]
  have truncated : exponent.abs.truncate.toNat = n.natAbs := by
    rw [Decimal.truncate_eq, magnitude, RoundingMode.integer_intCast, Int.toNat_natCast]
  have fraction : (exponent.abs.sub (.ofInt n.natAbs)).isZero = true := by
    rw [Decimal.isZero_iff, Decimal.toRat_sub, magnitude, Decimal.toRat_ofInt, sub_self]
  have negative : exponent.isNegative = true ↔ n < 0 := by
    rw [Decimal.isNegative_iff, whole, Int.cast_lt_zero]
  rw [power]
  simp only [truncated, fraction, if_true, pure_bind, negative]
  split
  · rfl
  · split
    · split <;> rfl
    · rfl

end NumericContext

end Formula
