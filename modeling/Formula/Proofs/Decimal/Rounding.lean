import Formula.Operator.Power
import Formula.Proofs.Decimal.Stored
import Mathlib.Data.Nat.Factorization.Basic
import Mathlib.Tactic.Positivity

set_option autoImplicit false

/-!
# Significant digits and rounding

The zeros at the end of an integer are no significant digits. Decimals that differ in such zeros
only are equal as numbers and have the same normal form. Rounding leaves a number with at most as
many significant digits as asked for, and does not change a number that has no more. So rounding
does not change what has been rounded, and arithmetic in a context gives numbers that fit the
context.

## Main definitions

* `Formula.Decimal.extend` — the same number with zeros appended.
* `Formula.Decimal.Fits` — a number has at most so many significant digits.
* `Formula.NumericContext.Fits` — a number fits the precision of a context.

## Main results

* `Formula.Decimal.normalized_extend` — the normal form does not depend on appended zeros.
* `Formula.Decimal.normalized_normalized` — a normal form is its own normal form.
* `Formula.Decimal.fits_iff` — the significant digits are the digits of the normal form.
* `Formula.RoundingMode.roundTo_fits`, `normalized_roundTo` — rounding to a number of digits.
* `Formula.NumericContext.quotient_fits`, `power_fits` — quotients and powers fit the context.
-/

namespace Formula

namespace Decimal

variable {d : Decimal} {digits : Nat}

/-! ## Appended zeros and the normal form -/

/-- The same number with zeros appended to the integer. -/
def extend (d : Decimal) (zeros : Nat) : Decimal :=
  ⟨d.unscaled * 10 ^ zeros, d.scale + zeros⟩

/-- An integer other than zero has a last digit that is not zero. -/
lemma exists_eq_mul_tenPow {n : Int} (nonzero : n ≠ 0) :
    ∃ (kept : Int) (zeros : Nat), ¬ 10 ∣ kept.natAbs ∧ n = kept * 10 ^ zeros := by
  obtain ⟨zeros, kept, last, split⟩ :=
    Nat.exists_eq_pow_mul_and_not_dvd (Int.natAbs_ne_zero.2 nonzero) 10 (by decide)
  refine ⟨n.sign * kept, zeros, ?_, ?_⟩
  · rwa [Int.natAbs_mul, Int.natAbs_sign_of_ne_zero nonzero, Nat.one_mul, Int.natAbs_natCast]
  · calc n = n.sign * n.natAbs := (Int.sign_mul_natAbs n).symm
      _ = n.sign * kept * 10 ^ zeros := by rw [split]; push_cast; ring

/-- **The normal form** keeps what is in front of the trailing zeros. -/
lemma normalized_eq {kept : Int} (last : ¬ 10 ∣ kept.natAbs) (zeros : Nat) (scale : Int) :
    normalized ⟨kept * 10 ^ zeros, scale⟩ = ⟨kept, scale - zeros⟩ := by
  have nonzero : kept ≠ 0 := by
    rintro rfl
    exact last (dvd_zero 10)
  have magnitude : (kept * 10 ^ zeros).natAbs = kept.natAbs * 10 ^ zeros := by
    rw [Int.natAbs_mul, Int.natAbs_pow]
    rfl
  have sign : (kept * 10 ^ zeros).sign = kept.sign := by
    have positive : (0 : Int) < 10 ^ zeros := by positivity
    rw [Int.sign_mul, Int.sign_eq_one_of_pos positive, mul_one]
  rw [normalized, if_neg (mul_ne_zero nonzero (by positivity))]
  dsimp only
  rw [magnitude, Digits.stripZeros_eq last, sign, Int.sign_mul_natAbs]

/-- The normal form of a zero with any scale. -/
lemma normalized_of_unscaled_eq_zero (isZero : d.unscaled = 0) : d.normalized = zero :=
  if_pos isZero

/-- **Appended zeros do not change the normal form.** -/
@[simp] theorem normalized_extend (d : Decimal) (zeros : Nat) :
    (d.extend zeros).normalized = d.normalized := by
  obtain ⟨unscaled, scale⟩ := d
  by_cases isZero : unscaled = 0
  · rw [normalized_of_unscaled_eq_zero (d := ⟨unscaled, scale⟩) isZero,
      normalized_of_unscaled_eq_zero]
    rw [extend, isZero, zero_mul]
  · obtain ⟨kept, trailing, last, rfl⟩ := exists_eq_mul_tenPow isZero
    rw [extend, mul_assoc, ← pow_add, normalized_eq last, normalized_eq last]
    congr 1
    push_cast
    ring

/-- A number is its normal form with zeros appended, unless it is zero. -/
lemma exists_eq_extend_normalized (nonzero : d.unscaled ≠ 0) :
    ∃ zeros, d = d.normalized.extend zeros := by
  obtain ⟨unscaled, scale⟩ := d
  obtain ⟨kept, trailing, last, rfl⟩ := exists_eq_mul_tenPow nonzero
  refine ⟨trailing, ?_⟩
  rw [normalized_eq last, extend, Int.sub_add_cancel]

/-- **A normal form is its own normal form.** -/
@[simp] theorem normalized_normalized (d : Decimal) : d.normalized.normalized = d.normalized := by
  by_cases isZero : d.unscaled = 0
  · rw [normalized_of_unscaled_eq_zero isZero]
    rfl
  · obtain ⟨zeros, same⟩ := exists_eq_extend_normalized isZero
    calc d.normalized.normalized = (d.normalized.extend zeros).normalized :=
          (normalized_extend ..).symm
      _ = d.normalized := by rw [← same]

/-! ## Significant digits -/

/-- A number has at most so many significant digits: the integer has no more digits in front of
some zeros at its end. -/
def Fits (d : Decimal) (digits : Nat) : Prop :=
  ∃ (kept : Int) (zeros : Nat), d.unscaled = kept * 10 ^ zeros ∧ kept.natAbs < 10 ^ digits

/-- A decimal has no more significant digits than digits. -/
lemma fits_of_lt (small : d.unscaled.natAbs < 10 ^ digits) : d.Fits digits :=
  ⟨d.unscaled, 0, by simp, small⟩

/-- Zero has no significant digits. -/
lemma fits_of_isZero (isZero : d.unscaled = 0) : d.Fits digits :=
  fits_of_lt (by rw [isZero]; positivity)

/-- A truth value has a single digit. -/
lemma ofBool_fits (b : Bool) (some : digits ≠ 0) : (ofBool b).Fits digits := by
  refine fits_of_lt ?_
  have atLeast : 10 ^ 1 ≤ 10 ^ digits :=
    Nat.pow_le_pow_right (by decide) (Nat.one_le_iff_ne_zero.2 some)
  cases b
  · exact lt_of_lt_of_le (by decide) atLeast
  · exact lt_of_lt_of_le (by decide) atLeast

/-- **The significant digits of a number are the digits of its normal form.** -/
theorem fits_iff : d.Fits digits ↔ d.normalized.unscaled.natAbs < 10 ^ digits := by
  by_cases isZero : d.unscaled = 0
  · rw [normalized_of_unscaled_eq_zero isZero]
    exact iff_of_true (fits_of_isZero isZero) (by simp [zero, ofInt])
  constructor
  · rintro ⟨kept, zeros, split, small⟩
    have nonzero : kept ≠ 0 := by
      rintro rfl
      exact isZero (split.trans (zero_mul _))
    obtain ⟨core, trailing, last, rfl⟩ := exists_eq_mul_tenPow nonzero
    have form : d.normalized = ⟨core, d.scale - (trailing + zeros : Nat)⟩ := by
      rw [← normalized_eq last, pow_add, ← mul_assoc, ← split]
    rw [form]
    refine lt_of_le_of_lt ?_ small
    rw [Int.natAbs_mul, Int.natAbs_pow]
    exact Nat.le_mul_of_pos_right _ (by positivity)
  · intro small
    obtain ⟨zeros, same⟩ := exists_eq_extend_normalized isZero
    exact ⟨d.normalized.unscaled, zeros, congrArg unscaled same, small⟩

/-- Significant digits are counted in the normal form. -/
instance (d : Decimal) (digits : Nat) : Decidable (d.Fits digits) :=
  decidable_of_iff _ fits_iff.symm

/-- The normal form has the same significant digits. -/
lemma Fits.normalized (fits : d.Fits digits) : d.normalized.Fits digits :=
  fits_of_lt (fits_iff.1 fits)

/-- Zeros at the end are not significant. -/
lemma Fits.extend (fits : d.Fits digits) (zeros : Nat) : (d.extend zeros).Fits digits := by
  obtain ⟨kept, trailing, split, small⟩ := fits
  exact ⟨kept, trailing + zeros, by rw [Decimal.extend, split, pow_add, mul_assoc], small⟩

end Decimal

/-! ## Rounding -/

namespace RoundingMode

open Decimal

variable {mode : RoundingMode} {d : Decimal} {digits : Nat}

/-- A rounded quotient is the quotient toward zero or one more in magnitude. -/
lemma natAbs_divide_le (mode : RoundingMode) (n : Int) (divisor : Nat) :
    (mode.divide n divisor).natAbs ≤ n.natAbs / divisor + 1 := by
  have sign : n.sign.natAbs ≤ 1 := by
    rw [Int.natAbs_sign]
    split <;> decide
  rw [divide, Int.natAbs_mul, Int.natAbs_natCast]
  refine (Nat.mul_le_mul_right _ sign).trans ?_
  rw [Nat.one_mul]
  split <;> omega

/-- A quotient that comes out even is exact. -/
lemma divide_mul_of_dvd {n : Int} {divisor : Nat} (even : divisor ∣ n.natAbs) :
    mode.divide n divisor * divisor = n := by
  have nothingLeft : n.natAbs % divisor = 0 := Nat.mod_eq_zero_of_dvd even
  have cut : mode.divide n divisor = n.sign * (n.natAbs / divisor : Nat) := by
    simp [divide, nothingLeft]
  rw [cut, mul_assoc, ← Nat.cast_mul, Nat.div_mul_cancel even, Int.sign_mul_natAbs]

/-- What is rounded has more digits than are kept. -/
lemma roundTo_of_lt (kept : digits ≠ 0) (long : digits < d.digits) :
    mode.roundTo digits d =
      ⟨mode.divide d.unscaled (10 ^ (d.digits - digits)), d.scale - (d.digits - digits : Nat)⟩ := by
  rw [roundTo, if_neg (by simpa [kept] using long)]
  rfl

/-- A decimal with no more digits than are kept is not rounded. -/
lemma roundTo_of_le (short : d.digits ≤ digits) : mode.roundTo digits d = d :=
  if_pos (by simp [short])

/-- **A rounded number has no more significant digits than asked for.**

**Proof sketch.** The quotient has as many digits as are kept. One more than the largest of them is
a power of ten, and has one significant digit. -/
theorem roundTo_fits (mode : RoundingMode) (d : Decimal) (some : digits ≠ 0) :
    (mode.roundTo digits d).Fits digits := by
  rcases Nat.lt_or_ge digits d.digits with long | short
  · rw [roundTo_of_lt some long]
    have positive : d.digits ≠ 0 := by omega
    have bound : d.unscaled.natAbs < 10 ^ d.digits := (Digits.count_le_iff positive).1 le_rfl
    have quotient : d.unscaled.natAbs / 10 ^ (d.digits - digits) < 10 ^ digits := by
      refine Nat.div_lt_of_lt_mul ?_
      rwa [← pow_add, Nat.sub_add_cancel long.le]
    have rounded := natAbs_divide_le mode d.unscaled (10 ^ (d.digits - digits))
    rcases Nat.lt_or_ge (mode.divide d.unscaled (10 ^ (d.digits - digits))).natAbs (10 ^ digits)
      with below | reached
    · exact fits_of_lt below
    · have isPower : (mode.divide d.unscaled (10 ^ (d.digits - digits))).natAbs = 10 ^ digits := by
        omega
      refine ⟨(mode.divide d.unscaled (10 ^ (d.digits - digits))).sign, digits, ?_, ?_⟩
      · calc mode.divide d.unscaled (10 ^ (d.digits - digits))
            = (mode.divide d.unscaled (10 ^ (d.digits - digits))).sign *
              (mode.divide d.unscaled (10 ^ (d.digits - digits))).natAbs :=
              (Int.sign_mul_natAbs _).symm
          _ = _ := by rw [isPower]; push_cast; rfl
      · rw [Int.natAbs_sign]
        have oneDigit := Nat.one_lt_pow some (by decide : 1 < 10)
        split <;> omega
  · rw [roundTo_of_le short]
    exact fits_of_lt ((Digits.count_le_iff some).1 short)

/-- **Rounding does not change a number that fits**, except for zeros at its end. -/
theorem exists_eq_extend_roundTo (mode : RoundingMode) (fits : d.Fits digits) :
    ∃ zeros, d = (mode.roundTo digits d).extend zeros := by
  by_cases long : digits ≠ 0 ∧ digits < d.digits
  · obtain ⟨kept, zeros, split, small⟩ := fits
    -- as many zeros can be taken off as there are digits too many
    have magnitude : d.unscaled.natAbs = kept.natAbs * 10 ^ zeros := by
      rw [split, Int.natAbs_mul, Int.natAbs_pow]
      rfl
    have few : d.digits ≤ digits + zeros := by
      refine (Digits.count_le_iff (by omega)).2 ?_
      rw [magnitude, pow_add]
      exact Nat.mul_lt_mul_of_pos_right small (by positivity)
    have even : 10 ^ (d.digits - digits) ∣ d.unscaled.natAbs := by
      rw [magnitude]
      exact (pow_dvd_pow 10 (by omega)).mul_left _
    refine ⟨d.digits - digits, ?_⟩
    have exact := @divide_mul_of_dvd mode d.unscaled _ even
    rw [roundTo_of_lt long.1 long.2, extend]
    push_cast at exact ⊢
    rw [exact, Int.sub_add_cancel]
  · have same : mode.roundTo digits d = d := by
      refine if_pos ?_
      simpa [or_iff_not_imp_left] using long
    exact ⟨0, by simp [same, extend]⟩

/-- **Rounding does not change the normal form of a number that fits.** -/
theorem normalized_roundTo (mode : RoundingMode) (fits : d.Fits digits) :
    (mode.roundTo digits d).normalized = d.normalized := by
  obtain ⟨zeros, same⟩ := exists_eq_extend_roundTo mode fits
  calc (mode.roundTo digits d).normalized = ((mode.roundTo digits d).extend zeros).normalized :=
        (normalized_extend ..).symm
    _ = d.normalized := by rw [← same]

end RoundingMode

/-! ## Contexts -/

namespace NumericContext

open Decimal

variable {context : NumericContext} {d : Decimal}

/-- A number fits the precision of a context. Without a precision every number does. -/
def Fits (context : NumericContext) (d : Decimal) : Prop :=
  context.precision = 0 ∨ d.Fits context.precision.toNat

/-- Fitting is decided by the precision and the normal form. -/
instance (context : NumericContext) (d : Decimal) : Decidable (context.Fits d) :=
  inferInstanceAs (Decidable (_ ∨ _))

/-- A precision that limits the digits leaves at least one of them. -/
lemma toNat_precision_ne_zero (limited : context.precision ≠ 0) : context.precision.toNat ≠ 0 :=
  fun zero => limited (UInt32.toNat_inj.1 zero)

/-- The normal form fits as the number does. -/
lemma Fits.normalized (fits : context.Fits d) : context.Fits d.normalized :=
  fits.imp_right Decimal.Fits.normalized

/-- Zeros at the end do not count against the precision. -/
lemma Fits.extend (fits : context.Fits d) (zeros : Nat) : context.Fits (d.extend zeros) :=
  fits.imp_right fun fits => fits.extend zeros

/-- A truth value fits every precision. -/
lemma ofBool_fits (context : NumericContext) (b : Bool) : context.Fits (ofBool b) := by
  by_cases limited : context.precision = 0
  · exact .inl limited
  · exact .inr (Decimal.ofBool_fits b (toNat_precision_ne_zero limited))

/-- **A rounded number fits.** -/
theorem round_fits (context : NumericContext) (d : Decimal) : context.Fits (context.round d) := by
  by_cases limited : context.precision = 0
  · exact .inl limited
  · exact .inr (RoundingMode.roundTo_fits _ d (toNat_precision_ne_zero limited))

/-- **Rounding does not change the normal form of a number that fits.** -/
theorem normalized_round (fits : context.Fits d) : (context.round d).normalized = d.normalized := by
  rcases fits with unlimited | fits
  · rw [round, unlimited]
    rfl
  · exact RoundingMode.normalized_roundTo _ fits

/-- **A quotient fits.** -/
theorem quotient_fits {a b result : Decimal} (divided : context.quotient a b = .ok result) :
    context.Fits result := by
  obtain ⟨-, rfl⟩ := quotient_eq_ok_iff.1 divided
  by_cases limited : context.precision = 0
  · exact .inl limited
  · refine .inr ?_
    rw [exactQuotient]
    split
    case isTrue => exact fits_of_isZero rfl
    case isFalse =>
      rw [divisionDigits, if_neg limited]
      exact RoundingMode.roundTo_fits _ _ (toNat_precision_ne_zero limited)

/-- **A power fits.** -/
theorem power_fits {base exponent result : Decimal}
    (powered : context.power base exponent = .ok result) : context.Fits result := by
  -- whatever the exact power is, it is rounded, or a quotient by what it is rounded to
  have finished : ∀ exact : Decimal,
      (if exponent.isNegative then
        if (context.round exact).isZero then throw Fault.divisionByZero
        else context.quotient .one (context.round exact)
      else pure (context.round exact) : Except Fault Decimal) = .ok result →
      context.Fits result := by
    intro exact settled
    split at settled
    case isTrue =>
      split at settled
      case isTrue => cases settled
      case isFalse => exact quotient_fits settled
    case isFalse =>
      obtain rfl := Except.ok.inj settled
      exact context.round_fits exact
  unfold power at powered
  dsimp only at powered
  split at powered
  case isTrue => cases powered
  case isFalse =>
    split at powered
    case isTrue => exact finished _ powered
    case isFalse =>
      split at powered
      case h_1 factor => exact finished _ powered
      case h_2 => cases powered

end NumericContext

end Formula
