import Formula.Operator.Quotient
import Formula.Proofs.Decimal.Digits
import Mathlib.Logic.Basic

set_option autoImplicit false

/-!
# Scales of 64 bits

A decimal is stored with a scale of 64 bits, and a division adds and subtracts scales of that size.
It has a result only if each of them fits: the difference of the scales of its operands, the scale
with the zeros that are appended to the dividend, that of the digits before rounding and that of the
rounded digits. Then the result is the one that it would have if scales had any size. Otherwise the
run breaks off, also where the quotient itself could be stored.

Numbers whose lengths and scales stay below `2 ^ 60` are never divided in vain.

## Main definitions

* `Formula.NumericContext.exactQuotient` — the quotient if scales had any size.
* `Formula.NumericContext.ScalesFit` — every scale that a division computes fits.

## Main results

* `Formula.Decimal.scaleFits_of_ofNumeral?`, `ScaleFits.add`, `ScaleFits.sub` and
  `Formula.NumericContext.scaleFits_of_quotient` — numerals, sums, differences and quotients can be
  stored.
* `Formula.NumericContext.quotient_eq_ok_iff` — a division has a result exactly if its scales fit.
* `Formula.NumericContext.scalesFit_of_small` — they do for numbers of moderate lengths and scales.
-/

namespace Formula

/-! ## Decimals that can be stored -/

/-- A scale fits if it is a 64-bit integer. -/
lemma Numeral.scaleFits_iff {scale : Int} :
    Numeral.scaleFits scale = true ↔ -2 ^ 63 ≤ scale ∧ scale < 2 ^ 63 := by
  rw [Numeral.scaleFits, Bool.and_eq_true, decide_eq_true_iff, decide_eq_true_iff]
  omega

namespace Decimal

open Numeral

variable {a b d : Decimal}

/-- The places that a stored decimal is written with can be counted in 64 bits. -/
lemma ScaleFits.places (fits : d.ScaleFits) : scaleFits (max d.scale 0) = true := by
  rw [ScaleFits, scaleFits_iff] at fits
  rw [scaleFits_iff]
  omega

/-- **A numeral is read as a decimal that can be stored.** -/
theorem scaleFits_of_ofNumeral? {text : String} (read : ofNumeral? text = some d) :
    d.ScaleFits := by
  rw [ofNumeral?, decimal?] at read
  dsimp only at read
  -- with and without an exponent, the scale is checked last
  split at read <;>
  · simp only [Option.bind_eq_bind, Option.bind_eq_some_iff, Option.ite_none_right_eq_some,
      Option.some.injEq] at read
    obtain ⟨exponent, -, unscaled, -, fits, rfl⟩ := read
    exact fits

/-- **A sum has the scale of one of its operands**, and can be stored as they can. -/
theorem ScaleFits.add (first : a.ScaleFits) (second : b.ScaleFits) : (a.add b).ScaleFits := by
  rcases max_choice a.scale b.scale with isFirst | isSecond
  · rwa [ScaleFits, Decimal.add, isFirst]
  · rwa [ScaleFits, Decimal.add, isSecond]

/-- **A difference has the scale of one of its operands**, and can be stored as they can. -/
theorem ScaleFits.sub (first : a.ScaleFits) (second : b.ScaleFits) : (a.sub b).ScaleFits := by
  have opposite : b.neg.ScaleFits := second
  rw [Decimal.sub]
  split
  case isTrue => exact first
  case isFalse =>
    split
    case isTrue => exact opposite
    case isFalse => exact first.add opposite

end Decimal

open Numeral (scaleFits_iff)

namespace NumericContext

variable {context : NumericContext} {a b : Decimal}

/-- The quotient that a division would have if scales had any size. -/
def exactQuotient (context : NumericContext) (a b : Decimal) : Decimal :=
  if a.isZero then ⟨0, max (a.scale - b.scale) 0⟩
  else context.rounding.roundTo context.divisionDigits (context.unroundedQuotient a b)

/-- Every scale that a division computes is a 64-bit integer. A dividend that is zero appends no
zeros and has no digits to be rounded. -/
structure ScalesFit (context : NumericContext) (a b : Decimal) : Prop where
  /-- The difference of the scales of the operands fits. -/
  difference : Numeral.scaleFits (a.scale - b.scale) = true
  /-- So does the scale with the zeros that are appended to the dividend. -/
  shifted : a.isZero = false →
    Numeral.scaleFits (context.quotientShift a b + (a.scale - b.scale)) = true
  /-- So does the scale of the digits before rounding, which may be one more. -/
  unrounded : a.isZero = false → (context.unroundedQuotient a b).ScaleFits
  /-- So does the scale of the result. -/
  rounded : (context.exactQuotient a b).ScaleFits

/-! ## When a division has a result -/

/-- What follows the check of a scale is done if the scale fits. -/
lemma checkScale_bind {α : Type} (scale : Int) (next : Unit → Except Fault α) :
    (checkScale scale >>= next) =
      if Numeral.scaleFits scale then next () else .error .scaleOverflow := by
  rw [checkScale]
  split <;> rfl

/-- The scales of the quotient of zero fit if the difference of the scales does. -/
lemma scalesFit_of_zero (isZero : a.isZero = true) :
    context.ScalesFit a b ↔ Numeral.scaleFits (a.scale - b.scale) = true := by
  refine ⟨fun fits => fits.difference, fun difference => ⟨difference, ?_, ?_, ?_⟩⟩
  · exact fun nonzero => nomatch isZero.symm.trans nonzero
  · exact fun nonzero => nomatch isZero.symm.trans nonzero
  · rw [exactQuotient, if_pos isZero]
    exact @Decimal.ScaleFits.places ⟨0, a.scale - b.scale⟩ difference

/-- The scales of any other quotient fit if these four do. -/
lemma scalesFit_of_nonzero (nonzero : a.isZero = false) :
    context.ScalesFit a b ↔
      Numeral.scaleFits (a.scale - b.scale) = true ∧
        Numeral.scaleFits (context.quotientShift a b + (a.scale - b.scale)) = true ∧
        Numeral.scaleFits (context.unroundedQuotient a b).scale = true ∧
        Numeral.scaleFits (context.exactQuotient a b).scale = true :=
  ⟨fun fits => ⟨fits.difference, fits.shifted nonzero, fits.unrounded nonzero, fits.rounded⟩,
    fun ⟨difference, shifted, unrounded, rounded⟩ =>
      ⟨difference, fun _ => shifted, fun _ => unrounded, rounded⟩⟩

/-- If the scales fit, then a division has the quotient that it would have at any scale. -/
lemma quotient_of_scalesFit (fits : context.ScalesFit a b) :
    context.quotient a b = .ok (context.exactQuotient a b) := by
  cases isZero : a.isZero with
  | true =>
    rw [scalesFit_of_zero isZero] at fits
    simp only [quotient, checkScale_bind, exactQuotient, isZero, fits, if_true]
    rfl
  | false =>
    rw [scalesFit_of_nonzero isZero, exactQuotient, isZero, if_neg Bool.false_ne_true] at fits
    obtain ⟨difference, shifted, unrounded, rounded⟩ := fits
    simp only [quotient, checkScale_bind, exactQuotient, isZero, difference, shifted, unrounded,
      rounded, Bool.false_eq_true, if_true, if_false]
    rfl

/-- If a scale does not fit, then the run breaks off. -/
lemma quotient_of_not_scalesFit (exceeds : ¬ context.ScalesFit a b) :
    context.quotient a b = .error .scaleOverflow := by
  cases isZero : a.isZero with
  | true =>
    rw [scalesFit_of_zero isZero] at exceeds
    simp only [quotient, checkScale_bind, if_neg exceeds]
  | false =>
    rw [scalesFit_of_nonzero isZero, exactQuotient, isZero, if_neg Bool.false_ne_true] at exceeds
    simp only [quotient, checkScale_bind, isZero, Bool.false_eq_true, if_false, ← ite_and]
    exact if_neg exceeds

/-- **A division has a result exactly if its scales fit**, and then the one that it would have if
scales had any size. -/
theorem quotient_eq_ok_iff {result : Decimal} :
    context.quotient a b = .ok result ↔
      context.ScalesFit a b ∧ context.exactQuotient a b = result := by
  by_cases fits : context.ScalesFit a b
  · rw [quotient_of_scalesFit fits, Except.ok.injEq, and_iff_right fits]
  · rw [quotient_of_not_scalesFit fits]
    exact ⟨nofun, fun both => absurd both.1 fits⟩

/-- **A quotient can be stored.** -/
theorem scaleFits_of_quotient {result : Decimal} (divided : context.quotient a b = .ok result) :
    result.ScaleFits := by
  obtain ⟨stored, rfl⟩ := quotient_eq_ok_iff.1 divided
  exact stored.rounded

/-! ## Moderate lengths and scales -/

/-- The zeros that are appended are counted modulo `2 ^ 32`. -/
lemma shiftFactor_eq_pow_mod (shift : Nat) : shiftFactor shift = 10 ^ (shift % 2 ^ 32) := by
  rw [shiftFactor, UInt32.toNat_ofNat', tenPow_eq]

/-- No more zeros are appended than are counted. -/
lemma shiftFactor_le (shift : Nat) : shiftFactor shift ≤ 10 ^ shift := by
  rw [shiftFactor_eq_pow_mod]
  exact Nat.pow_le_pow_right (by decide) (Nat.mod_le ..)

/-- Signs do not enlarge a magnitude. -/
lemma natAbs_sign_mul_sign_mul_le (n d : Int) (m : Nat) : (n.sign * d.sign * m).natAbs ≤ m := by
  have atMostOne : ∀ k : Int, k.sign.natAbs ≤ 1 := by
    intro k
    rw [Int.natAbs_sign]
    split <;> decide
  rw [Int.natAbs_mul, Int.natAbs_mul, Int.natAbs_natCast]
  calc n.sign.natAbs * d.sign.natAbs * m ≤ 1 * 1 * m :=
        Nat.mul_le_mul_right m (Nat.mul_le_mul (atMostOne n) (atMostOne d))
    _ = m := Nat.one_mul m

/-- The digits of a quotient have a scale from the preferred one to one more than that of the
integer quotient, and at most one digit more than the dividend. -/
lemma quotientDigits_bounds {n d scale preferred : Int} (nonzero : n ≠ 0)
    (reaches : preferred ≤ scale) :
    preferred ≤ (quotientDigits n d scale preferred).scale ∧
      (quotientDigits n d scale preferred).scale ≤ scale + 1 ∧
      (quotientDigits n d scale preferred).unscaled.natAbs ≤ 10 * n.natAbs + 1 := by
  have signs := natAbs_sign_mul_sign_mul_le n d
  have smaller : n.natAbs / d.natAbs ≤ n.natAbs := Nat.div_le_self ..
  rw [quotientDigits]
  dsimp only
  split
  case isTrue even =>
    have positive : n.natAbs / d.natAbs ≠ 0 := by
      rintro zero
      have whole := Nat.div_add_mod n.natAbs d.natAbs
      rw [zero, even] at whole
      exact nonzero (Int.natAbs_eq_zero.1 whole.symm)
    obtain ⟨kept, zeros, stripped, split, atMost, -⟩ :=
      @Digits.stripWithin_spec (Digits.level (n.natAbs / d.natAbs)) (scale - preferred).toNat _
        positive
    rw [Digits.stripZeros, stripped]
    dsimp only
    have fewer : kept ≤ n.natAbs / d.natAbs := by
      rw [split]
      exact Nat.le_mul_of_pos_right _ (by positivity)
    refine ⟨by omega, by omega, (signs kept).trans (by omega)⟩
  case isFalse =>
    dsimp only
    exact ⟨by omega, le_rfl, (signs _).trans (by omega)⟩

/-- The unrounded digits of a quotient have a scale from the difference of the scales to one more
than with the appended zeros, and one digit more than the dividend with its zeros. -/
lemma unroundedQuotient_bounds (context : NumericContext) (b : Decimal)
    (nonzero : a.isZero = false) :
    a.scale - b.scale ≤ (context.unroundedQuotient a b).scale ∧
      (context.unroundedQuotient a b).scale ≤
        context.quotientShift a b + (a.scale - b.scale) + 1 ∧
      (context.unroundedQuotient a b).digits ≤ a.digits + context.quotientShift a b + 1 := by
  have factor : (shiftFactor (context.quotientShift a b) : Int) ≠ 0 := by
    rw [shiftFactor_eq_pow_mod]
    positivity
  have dividend : a.unscaled * shiftFactor (context.quotientShift a b) ≠ 0 := by
    refine mul_ne_zero (fun zero => ?_) factor
    rw [Decimal.isZero, zero] at nonzero
    cases nonzero
  obtain ⟨lower, upper, integer⟩ := @quotientDigits_bounds _ b.unscaled
    (context.quotientShift a b + (a.scale - b.scale)) (a.scale - b.scale) dividend (by omega)
  refine ⟨lower, upper, ?_⟩
  rw [Decimal.digits, Digits.count_le_iff (Nat.succ_ne_zero _), pow_succ, pow_add]
  have shifted : (a.unscaled * shiftFactor (context.quotientShift a b)).natAbs <
      10 ^ a.digits * 10 ^ context.quotientShift a b := by
    rw [Int.natAbs_mul, Int.natAbs_natCast]
    exact Nat.mul_lt_mul_of_lt_of_le (Digits.lt_pow_count _) (shiftFactor_le _) (by positivity)
  exact lt_of_le_of_lt integer (by omega)

/-- Rounding takes off at most all digits from a scale. -/
lemma scale_roundTo_bounds (mode : RoundingMode) (digits : Nat) (d : Decimal) :
    d.scale - d.digits ≤ (mode.roundTo digits d).scale ∧
      (mode.roundTo digits d).scale ≤ d.scale := by
  rw [RoundingMode.roundTo]
  split
  case isTrue => omega
  case isFalse =>
    dsimp only
    omega

/-- **Numbers of moderate lengths and scales can be divided**: the scales fit when both integers
have less than `2 ^ 60` digits and both scales are within `2 ^ 60`. -/
theorem scalesFit_of_small (dividend : a.digits < 2 ^ 60) (divisor : b.digits < 2 ^ 60)
    (ofDividend : |a.scale| ≤ 2 ^ 60) (ofDivisor : |b.scale| ≤ 2 ^ 60) :
    context.ScalesFit a b := by
  rw [abs_le] at ofDividend ofDivisor
  have difference : Numeral.scaleFits (a.scale - b.scale) = true := by
    rw [scaleFits_iff]
    omega
  cases isZero : a.isZero with
  | true => exact (scalesFit_of_zero isZero).2 difference
  | false =>
    have kept : context.divisionDigits < 2 ^ 32 := by
      rw [divisionDigits]
      split
      case isTrue => decide
      case isFalse => exact context.precision.toNat_lt
    have shift : context.quotientShift a b < 2 ^ 61 := by
      rw [quotientShift]
      omega
    have unrounded := context.unroundedQuotient_bounds b isZero
    have dropped := scale_roundTo_bounds context.rounding context.divisionDigits
      (context.unroundedQuotient a b)
    rw [scalesFit_of_nonzero isZero, exactQuotient, isZero, if_neg Bool.false_ne_true]
    simp only [scaleFits_iff] at difference ⊢
    omega

end NumericContext

end Formula
