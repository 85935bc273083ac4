import Formula.Proofs.Decimal.Quotient
import Mathlib.Data.Sign.Basic

set_option autoImplicit false

/-!
# The division law of remainders

The whole quotient of two numbers is the exact one cut off toward zero, and the remainder is what
this leaves of the dividend: nothing, or a number with the sign of the dividend and less than the
divisor in magnitude. No other whole quotient leaves so little. The operands of a remainder are
brought to the larger of their scales, where nothing is lost, and the integers are divided there. So
what is rounded is the remainder of the numbers, whatever their signs, lengths and scales are.

## Main definitions

* `Formula.IsRemainder` — what a division by a whole quotient may leave.

## Main results

* `Formula.isRemainder_iff` — only the quotient cut off toward zero leaves a remainder.
* `Formula.Operator.remainder_division_law` — the remainder of two decimals.
-/

namespace Formula

variable {x y : ℚ}

/-- What a division of `x` by `y` with a whole quotient may leave: zero, or a number with the sign
of the dividend, and less than the divisor in magnitude. -/
def IsRemainder (x y rest : ℚ) : Prop :=
  (rest = 0 ∨ SignType.sign rest = SignType.sign x) ∧ |rest| < |y|

/-- What is cut off from a number has its sign, and is less than one. -/
lemma isRemainder_one_iff (x : ℚ) (quotient : Int) :
    IsRemainder x 1 (x - quotient) ↔ quotient = RoundingMode.down.integer x := by
  rw [IsRemainder, abs_one, abs_lt, RoundingMode.integer]
  rcases lt_trichotomy x 0 with negative | rfl | positive
  · rw [sign_neg negative, sign_eq_neg_one_iff, if_pos negative, eq_comm (a := quotient),
      Int.ceil_eq_iff]
    constructor
    · rintro ⟨zero | below, lower, upper⟩ <;> constructor <;> linarith
    · rintro ⟨lower, upper⟩
      refine ⟨?_, by linarith, by linarith⟩
      rcases upper.eq_or_lt with same | below
      · exact .inl (by linarith)
      · exact .inr (by linarith)
  · have atZero : (0 : ℚ) - quotient = 0 ↔ quotient = 0 := by simp
    rw [sign_zero, sign_eq_zero_iff, or_self_iff, atZero, if_neg (lt_irrefl 0), Int.floor_zero]
    refine and_iff_left_of_imp ?_
    rintro rfl
    norm_num
  · rw [sign_pos positive, sign_eq_one_iff, if_neg positive.not_gt, eq_comm (a := quotient),
      Int.floor_eq_iff]
    constructor
    · rintro ⟨zero | above, lower, upper⟩ <;> constructor <;> linarith
    · rintro ⟨lower, upper⟩
      refine ⟨?_, by linarith, by linarith⟩
      rcases lower.eq_or_lt with same | above
      · exact .inl (by linarith)
      · exact .inr (by linarith)

/-- Dividend, divisor and remainder can be measured by the divisor. -/
lemma isRemainder_mul_iff (nonzero : y ≠ 0) (rest : ℚ) :
    IsRemainder (x * y) y (rest * y) ↔ IsRemainder x 1 rest := by
  have positive : 0 < |y| := abs_pos.2 nonzero
  have signs : SignType.sign (rest * y) = SignType.sign (x * y) ↔
      SignType.sign rest = SignType.sign x := by
    rw [sign_mul, sign_mul]
    refine mul_left_inj' ?_
    rwa [Ne, sign_eq_zero_iff]
  rw [IsRemainder, IsRemainder, signs, mul_eq_zero, or_iff_left nonzero, abs_mul, abs_one,
    mul_lt_iff_lt_one_left positive]

/-- **Only the quotient cut off toward zero leaves a remainder.** -/
theorem isRemainder_iff (x : ℚ) (nonzero : y ≠ 0) (quotient : Int) :
    IsRemainder x y (x - quotient * y) ↔ quotient = RoundingMode.down.integer (x / y) := by
  have measured : x - quotient * y = (x / y - quotient) * y := by
    rw [sub_mul, div_mul_cancel₀ _ nonzero]
  have dividend : IsRemainder x y ((x / y - quotient) * y) ↔
      IsRemainder (x / y * y) y ((x / y - quotient) * y) := by
    rw [div_mul_cancel₀ _ nonzero]
  rw [measured, dividend, isRemainder_mul_iff nonzero, isRemainder_one_iff]

namespace Operator

/-- **The division law.** There is no remainder by zero. By any other number the remainder is what
the exact quotient, cut off toward zero, leaves of the dividend: zero, or a number with the sign of
the dividend, and less than the divisor in magnitude, as with no other whole quotient. It is rounded
once to the context, whatever the scales of the operands are. -/
theorem remainder_division_law (context : NumericContext) (a b : Decimal) :
    (b.toRat = 0 → remainder (.decimal a) (.decimal b) context = .error .divisionByZero) ∧
      (b.toRat ≠ 0 →
        let quotient := RoundingMode.down.integer (a.toRat / b.toRat)
        let rest := a.toRat - quotient * b.toRat
        IsRemainder a.toRat b.toRat rest ∧
          (∀ other : Int, IsRemainder a.toRat b.toRat (a.toRat - other * b.toRat) →
            other = quotient) ∧
          ∃ result : Decimal,
            remainder (.decimal a) (.decimal b) context = .ok (.decimal result) ∧
              result.toRat = context.rounded rest) := by
  constructor
  · intro zero
    rw [remainder, onDecimals, if_pos (Decimal.isZero_iff.2 zero)]
    rfl
  · intro nonzero quotient rest
    have divisor : b.isZero ≠ true := fun zero => nonzero (Decimal.isZero_iff.1 zero)
    refine ⟨(isRemainder_iff _ nonzero quotient).2 rfl,
      fun other => (isRemainder_iff _ nonzero other).1, context.remainder a b, ?_, ?_⟩
    · rw [remainder, onDecimals, if_neg divisor]
      rfl
    · exact context.toRat_remainder a b

/-- Of `-700`, written with a negative scale, the divisor `0.33` leaves `-0.07`, and there is no
remainder by `0.0`. -/
theorem remainder_division_law_negative :
    let a : Decimal := ⟨-7, -2⟩
    let b : Decimal := ⟨33, 2⟩
    b.toRat ≠ 0 ∧ IsRemainder a.toRat b.toRat (a.toRat - (-2121 : Int) * b.toRat) ∧
      (∃ result : Decimal, remainder (.decimal a) (.decimal b) .decimal32 = .ok (.decimal result) ∧
        result.toRat = NumericContext.decimal32.rounded (-7 / 100)) ∧
      remainder (.decimal a) (.decimal ⟨0, 1⟩) .decimal32 = .error .divisionByZero := by
  intro a b
  have nonzero : b.toRat ≠ 0 := by
    rw [Ne, Decimal.toRat_eq_zero_iff]
    decide
  have leaves : a.toRat - (-2121 : Int) * b.toRat = -7 / 100 := by norm_num [a, b, Decimal.toRat]
  have quotient : -2121 = RoundingMode.down.integer (a.toRat / b.toRat) := by
    rw [← isRemainder_iff _ nonzero, leaves, IsRemainder]
    norm_num [a, b, Decimal.toRat]
  obtain ⟨law, -, result⟩ := (remainder_division_law .decimal32 a b).2 nonzero
  rw [← quotient] at law result
  rw [leaves] at result
  have zero : (⟨0, 1⟩ : Decimal).toRat = 0 := Decimal.toRat_eq_zero_iff.2 rfl
  exact ⟨nonzero, law, result, (remainder_division_law .decimal32 a ⟨0, 1⟩).1 zero⟩

end Operator

end Formula
