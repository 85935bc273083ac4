import Formula.Proofs.Decimal.Projection
import Formula.Proofs.Decimal.Quotient

set_option autoImplicit false

/-!
# The zeros that a division appends

A division appends zeros to its dividend by multiplying with a power of ten, and counts them in the
scale of its result. The exponent of the power has 32 bits, the scale has as many as it needs. As
long as there are less than `2 ^ 32` zeros the two agree, and the integer quotient is off by less
than one unit in its last place. From `2 ^ 32` zeros on they do not: the scale counts zeros that
have not been appended, and the integer quotient is off by more than that, since it is at most a
tenth of what it should be.

How many zeros there are depends on the precision and on the lengths of both integers. For integers
of less than `2 ^ 31` digits a precision below `2 ^ 31` is never too large, and every other one is
too large for some of them.

## Main definitions

* `Formula.NumericContext.shiftedQuotient` — the integer quotient, with the scale of the zeros.
* `Formula.NumericContext.ShiftedNear` — it is off by less than one unit in its last place.
* `Formula.NumericContext.KeepsShift` — so it is, and as many zeros are appended as are counted.

## Main results

* `Formula.NumericContext.shiftFactor_eq_iff` — the zeros are appended if they are less than
  `2 ^ 32`.
* `Formula.NumericContext.shiftedNear_iff` — the integer quotient is near the quotient just then.
* `Formula.NumericContext.exists_digits_quotient` — what is rounded is the integer quotient, up to a
  last digit.
* `Formula.NumericContext.keepsShift_iff_lengths` — for which numbers, and for which precisions.
-/

namespace Formula

namespace Digits

/-- A power of ten has one digit more than zeros. -/
lemma count_tenPow (k : Nat) : count (10 ^ k) = k + 1 := by
  rw [count_eq, Nat.log_pow (by decide)]

end Digits

namespace NumericContext

variable {context : NumericContext} {a b : Decimal} {n d : Int} {shift : Nat}

/-! ## The power of ten -/

/-- **The zeros are appended** if and only if they are less than `2 ^ 32`. -/
theorem shiftFactor_eq_iff : shiftFactor shift = 10 ^ shift ↔ shift < 2 ^ 32 := by
  refine ⟨fun same => ?_, shiftFactor_eq⟩
  rw [shiftFactor_eq_pow_mod] at same
  have exponents : shift % 2 ^ 32 = shift := Nat.pow_right_injective (by decide) same
  exact exponents ▸ Nat.mod_lt shift (by decide)

/-- If the zeros do not fit, then the dividend misses at least one of them. -/
lemma ten_mul_shiftFactor_le (wraps : 2 ^ 32 ≤ shift) : 10 * shiftFactor shift ≤ 10 ^ shift := by
  have fewer : shift % 2 ^ 32 + 1 ≤ shift := by
    have := Nat.mod_lt shift (by decide : 0 < 2 ^ 32)
    omega
  rw [shiftFactor_eq_pow_mod, ← pow_succ']
  exact Nat.pow_le_pow_right (by decide) fewer

/-- The number of zeros, by the digits of the division and of both integers. -/
lemma quotientShift_lt_iff :
    context.quotientShift a b < 2 ^ 32 ↔
      context.divisionDigits + 2 + b.digits < 2 ^ 32 + a.digits := by
  rw [quotientShift]
  omega

/-! ## The integer quotient -/

/-- The integer quotient of a division, with a scale that counts the appended zeros. -/
def shiftedQuotient (context : NumericContext) (a b : Decimal) : Decimal :=
  ⟨(a.unscaled * shiftFactor (context.quotientShift a b)).tdiv b.unscaled,
    context.quotientShift a b + (a.scale - b.scale)⟩

/-- The integer quotient is off by less than one unit in its last place. -/
def ShiftedNear (context : NumericContext) (a b : Decimal) : Prop :=
  |(context.shiftedQuotient a b).toRat - a.toRat / b.toRat| <
    (10 : ℚ) ^ (-(context.shiftedQuotient a b).scale)

/-- As many zeros are appended to the dividend as the scale counts, and the integer quotient is near
the quotient, if its scale can be stored. Nothing is appended to zero. -/
structure KeepsShift (context : NumericContext) (a b : Decimal) : Prop where
  /-- The power of ten has as many zeros as are counted. -/
  appended : a.toRat ≠ 0 →
    shiftFactor (context.quotientShift a b) = 10 ^ context.quotientShift a b
  /-- The integer quotient is near the quotient at a scale of 64 bits. -/
  near : (context.shiftedQuotient a b).ScaleFits → context.ShiftedNear a b

/-- An integer quotient is cut off toward zero, by less than one. -/
lemma abs_tdiv_sub_lt_one (n d : Int) : |((n.tdiv d : Int) : ℚ) - n / d| < 1 := by
  rw [RoundingMode.tdiv_eq]
  exact RoundingMode.abs_integer_sub_lt _ _

/-- An integer quotient is cut off toward zero. -/
lemma abs_tdiv_le (n d : Int) : |((n.tdiv d : Int) : ℚ)| ≤ |(n : ℚ) / d| := by
  rw [RoundingMode.tdiv_eq]
  exact RoundingMode.abs_integer_down_le _

/-- An integer quotient, by its sign and the quotient of the magnitudes. -/
lemma tdiv_eq_sign_mul (n d : Int) :
    n.tdiv d = n.sign * d.sign * (n.natAbs / d.natAbs : Nat) := by
  have magnitude : (n.tdiv d).natAbs = n.natAbs / d.natAbs := Int.natAbs_tdiv n d
  rw [← Int.sign_mul_natAbs (n.tdiv d), Int.sign_tdiv, magnitude]
  split
  case isTrue smaller => rw [Nat.div_eq_of_lt smaller, Nat.cast_zero, mul_zero, mul_zero]
  case isFalse => rfl

/-- How far off the integer quotient is, in units of its last place. -/
lemma shiftedNear_iff_tdiv :
    context.ShiftedNear a b ↔
      |(((a.unscaled * shiftFactor (context.quotientShift a b)).tdiv b.unscaled : Int) : ℚ) -
        (a.unscaled * 10 ^ context.quotientShift a b : Int) / b.unscaled| < 1 := by
  rw [ShiftedNear, shiftedQuotient, Decimal.toRat_mk,
    toRat_div_eq_shifted a b (context.quotientShift a b), ← sub_mul, abs_mul,
    abs_of_pos (Decimal.tenPow_pos _), mul_lt_iff_lt_one_left (Decimal.tenPow_pos _)]

/-- If zeros are missing, then the integer quotient is at most a tenth of the quotient. -/
lemma ten_mul_abs_tdiv_le {factor : Nat} (missing : 10 * factor ≤ 10 ^ shift) (n d : Int) :
    10 * |(((n * factor).tdiv d : Int) : ℚ)| ≤ |((n * 10 ^ shift : Int) : ℚ) / d| := by
  have larger : (10 : ℚ) * factor ≤ 10 ^ shift := by exact_mod_cast missing
  calc 10 * |(((n * factor).tdiv d : Int) : ℚ)|
      ≤ 10 * |((n * factor : Int) : ℚ) / d| :=
        mul_le_mul_of_nonneg_left (abs_tdiv_le _ _) (by norm_num)
    _ = |(n : ℚ) / d| * (10 * factor) := by
      push_cast
      rw [mul_div_right_comm, abs_mul, Nat.abs_cast]
      ring
    _ ≤ |(n : ℚ) / d| * 10 ^ shift := by gcongr
    _ = |((n * 10 ^ shift : Int) : ℚ) / d| := by
      push_cast
      rw [mul_div_right_comm, abs_mul, abs_pow, abs_of_pos (by norm_num : (0 : ℚ) < 10)]

/-- **The integer quotient is near the quotient** if and only if the zeros fit.

**Proof sketch.** With all the zeros the quotient of the integers has more digits than a division
keeps, so it is at least ten. If zeros are missing, then the integer quotient is at most a tenth of
it. -/
theorem shiftedNear_iff (dividend : a.toRat ≠ 0) (divisor : b.toRat ≠ 0) :
    context.ShiftedNear a b ↔ context.quotientShift a b < 2 ^ 32 := by
  have ha : a.unscaled ≠ 0 := Decimal.toRat_ne_zero_iff.1 dividend
  have hb : b.unscaled ≠ 0 := Decimal.toRat_ne_zero_iff.1 divisor
  rw [shiftedNear_iff_tdiv]
  constructor
  · refine fun near => lt_of_not_ge fun wraps => near.not_ge ?_
    have long := context.le_abs_shifted ha hb
    have ten : (10 : ℚ) ≤ 10 ^ context.divisionDigits :=
      le_self_pow₀ (by norm_num) context.divisionDigits_ne_zero
    have short := ten_mul_abs_tdiv_le (ten_mul_shiftFactor_le wraps) a.unscaled b.unscaled
    have apart := abs_sub_abs_le_abs_sub
      (((a.unscaled * 10 ^ context.quotientShift a b : Int) : ℚ) / b.unscaled)
      (((a.unscaled * shiftFactor (context.quotientShift a b)).tdiv b.unscaled : Int) : ℚ)
    rw [abs_sub_comm] at apart
    linarith
  · intro fits
    rw [shiftFactor_eq fits]
    push_cast
    exact_mod_cast abs_tdiv_sub_lt_one _ _

/-- The zeros that are counted are appended, and the integer quotient is near the quotient, if and
only if the zeros fit. -/
lemma keepsShift_iff_shiftFits (divisor : b.toRat ≠ 0) :
    context.KeepsShift a b ↔ context.ShiftFits a b := by
  by_cases dividend : a.toRat = 0
  · refine ⟨fun _ nonzero => absurd dividend nonzero, fun _ => ⟨fun nonzero => ?_, ?_⟩⟩
    · exact absurd dividend nonzero
    · intro _
      rw [shiftedNear_iff_tdiv, Decimal.toRat_eq_zero_iff.1 dividend, zero_mul, zero_mul]
      simp
  · constructor
    · exact fun keeps _ _ => shiftFactor_eq_iff.1 (keeps.appended dividend)
    · intro fits
      have short := fits dividend divisor
      exact ⟨fun _ => shiftFactor_eq short, fun _ => (shiftedNear_iff dividend divisor).2 short⟩

/-! ## What is rounded -/

/-- The digits of a quotient are those of the integer quotient, and at most a last digit 1. -/
lemma abs_quotientDigits_sub_le (hn : n ≠ 0) (hd : d ≠ 0) (scale preferred : Int) :
    |(quotientDigits n d scale preferred).toRat - (⟨n.tdiv d, scale⟩ : Decimal).toRat| ≤
      (10 : ℚ) ^ (-scale) / 10 := by
  have positive := Decimal.tenPow_pos (-scale)
  rw [Decimal.toRat_mk (n.tdiv d)]
  by_cases even : d.natAbs ∣ n.natAbs
  · have exact : ((n.tdiv d : Int) : ℚ) = (n : ℚ) / d := by
      rw [eq_div_iff (by exact_mod_cast hd)]
      exact_mod_cast Int.tdiv_mul_cancel (Int.natAbs_dvd_natAbs.1 even)
    rw [toRat_quotientDigits_of_dvd hn hd even, exact, sub_self, abs_zero]
    positivity
  · have last : ∀ sign quotient power : ℚ,
        sign * (quotient + 1 / 10) * power - sign * quotient * power = sign * (power / 10) := by
      intros
      ring
    have sign : |((n.sign * d.sign : Int) : ℚ)| = 1 := by
      rw [← Int.cast_abs, abs_mul, Int.abs_sign_of_ne_zero hn, Int.abs_sign_of_ne_zero hd]
      norm_num
    rw [toRat_quotientDigits_of_not_dvd even, tdiv_eq_sign_mul, Int.cast_mul (n.sign * d.sign),
      Int.cast_natCast, last, abs_mul, sign, one_mul, abs_of_pos (by positivity)]

/-- **What is rounded is the integer quotient**, up to a last digit that stands for what is left
over. Both have scales that can be stored if those of the division fit. -/
theorem exists_digits_quotient (dividend : a.toRat ≠ 0) (divisor : b.toRat ≠ 0)
    (stored : context.ScalesFit a b) :
    (context.shiftedQuotient a b).ScaleFits ∧ ∃ digits : Decimal, digits.ScaleFits ∧
      context.quotient a b = .ok (context.rounding.roundTo context.divisionDigits digits) ∧
        |digits.toRat - (context.shiftedQuotient a b).toRat| ≤
          (10 : ℚ) ^ (-(context.shiftedQuotient a b).scale) / 10 := by
  have ha : a.unscaled ≠ 0 := Decimal.toRat_ne_zero_iff.1 dividend
  have hb : b.unscaled ≠ 0 := Decimal.toRat_ne_zero_iff.1 divisor
  have factor : (shiftFactor (context.quotientShift a b) : Int) ≠ 0 := by
    rw [shiftFactor_eq_pow_mod]
    positivity
  have isNonzero : a.isZero = false :=
    eq_false_of_ne_true fun isZero => dividend (Decimal.isZero_iff.1 isZero)
  refine ⟨stored.shifted isNonzero, context.unroundedQuotient a b, stored.unrounded isNonzero, ?_,
    abs_quotientDigits_sub_le (mul_ne_zero ha factor) hb _ _⟩
  rw [quotient_of_scalesFit stored, exactQuotient, isNonzero, if_neg Bool.false_ne_true]

/-! ## Which precisions are too large -/

/-- A precision of less than `2 ^ 31` digits is never too large for integers of less than `2 ^ 31`
digits. -/
lemma shiftFits_of_precision (small : context.precision.toNat < 2 ^ 31)
    (divisor : b.digits < 2 ^ 31) :
    context.ShiftFits a b := by
  intro dividend _
  have nonempty : 0 < a.digits := by
    rw [Decimal.digits, Digits.count_eq]
    exact Nat.succ_pos _
  have digits : context.divisionDigits ≤ 2 ^ 31 - 1 := by
    rw [divisionDigits]
    split
    case isTrue => decide
    case isFalse => omega
  rw [quotientShift_lt_iff]
  omega

/-- Every other precision is too large for some of them: for one and the longest power of ten. -/
lemma exists_not_shiftFits (large : 2 ^ 31 ≤ context.precision.toNat) :
    ∃ b : Decimal, b.toRat ≠ 0 ∧ b.digits < 2 ^ 31 ∧ ¬ context.ShiftFits .one b := by
  -- The exponent has no value here, so that nothing computes the power of ten.
  obtain ⟨zeros, longest⟩ : ∃ zeros, zeros + 2 = 2 ^ 31 := ⟨2 ^ 31 - 2, by decide⟩
  have nonzero : (⟨(10 ^ zeros : Nat), 0⟩ : Decimal).toRat ≠ 0 := by
    rw [Decimal.toRat_ne_zero_iff, Int.natCast_ne_zero]
    exact pow_ne_zero zeros (by decide)
  have digits : (⟨(10 ^ zeros : Nat), 0⟩ : Decimal).digits = zeros + 1 := by
    rw [Decimal.digits, Int.natAbs_natCast, Digits.count_tenPow]
  refine ⟨_, nonzero, by omega, fun fits => ?_⟩
  have short := quotientShift_lt_iff.1 (fits (by rw [Decimal.toRat_one]; decide) nonzero)
  have one : Decimal.one.digits = 1 := by decide
  have limited : context.precision ≠ 0 := by
    rintro unlimited
    rw [unlimited] at large
    exact absurd large (by decide)
  rw [divisionDigits, if_neg limited] at short
  omega

/-- **When a division appends the zeros that it counts**: exactly if the digits of the division, two
guard digits and the digits by which the divisor is longer are less than `2 ^ 32` together.
Otherwise the integer quotient is not near the quotient either. It is what is rounded, up to a last
digit, where the scales of the division fit, and where they do not the run breaks off. For all
integers of less than `2 ^ 31` digits the zeros are appended exactly if the precision is below
`2 ^ 31`. -/
theorem keepsShift_iff_lengths (context : NumericContext) :
    (∀ a b : Decimal, b.toRat ≠ 0 →
      (context.KeepsShift a b ↔
        (a.toRat ≠ 0 → context.divisionDigits + 2 + b.digits < 2 ^ 32 + a.digits))) ∧
    (∀ a b : Decimal, a.toRat ≠ 0 → b.toRat ≠ 0 →
      (context.ShiftedNear a b ↔
        shiftFactor (context.quotientShift a b) = 10 ^ context.quotientShift a b) ∧
      (context.ScalesFit a b → (context.shiftedQuotient a b).ScaleFits ∧
        ∃ digits : Decimal, digits.ScaleFits ∧
          context.quotient a b = .ok (context.rounding.roundTo context.divisionDigits digits) ∧
            |digits.toRat - (context.shiftedQuotient a b).toRat| ≤
              (10 : ℚ) ^ (-(context.shiftedQuotient a b).scale) / 10) ∧
      (¬ context.ScalesFit a b → context.quotient a b = .error .scaleOverflow)) ∧
    ((∀ a b : Decimal, b.toRat ≠ 0 → a.digits < 2 ^ 31 → b.digits < 2 ^ 31 →
        context.KeepsShift a b) ↔ context.precision.toNat < 2 ^ 31) := by
  refine ⟨fun a b divisor => ?_, fun a b dividend divisor => ⟨?_, ?_, ?_⟩, ?_, ?_⟩
  · rw [keepsShift_iff_shiftFits divisor, ShiftFits, quotientShift_lt_iff]
    exact ⟨fun fits dividend => fits dividend divisor, fun fits dividend _ => fits dividend⟩
  · rw [shiftedNear_iff dividend divisor, shiftFactor_eq_iff]
  · exact exists_digits_quotient dividend divisor
  · exact quotient_of_not_scalesFit
  · refine fun keeps => lt_of_not_ge fun large => ?_
    obtain ⟨b, divisor, short, exceeds⟩ := exists_not_shiftFits large
    have one : Decimal.one.digits < 2 ^ 31 := by decide
    exact exceeds ((keepsShift_iff_shiftFits divisor).1 (keeps _ b divisor one short))
  · intro small a b divisor _ short
    exact (keepsShift_iff_shiftFits divisor).2 (shiftFits_of_precision small short)

/-- The largest precision is too large for every two integers of one digit, although any precision
is accepted: in `4 / 2` the scale counts `2 ^ 32` zeros too many, so that the result is less than
one. -/
theorem not_keepsShift_largest_precision :
    (⟨4294967295, .halfEven⟩ : NumericContext).quotientShift ⟨4, 0⟩ ⟨2, 0⟩ = 4294967297 ∧
      shiftFactor 4294967297 = 10 ∧
      Operator.divide (.decimal ⟨4, 0⟩) (.decimal ⟨2, 0⟩) ⟨4294967295, .halfEven⟩ =
        .ok (.decimal ⟨2, 4294967296⟩) ∧
      |(⟨2, 4294967296⟩ : Decimal).toRat| < 1 ∧
      ¬ (⟨4294967295, .halfEven⟩ : NumericContext).KeepsShift ⟨4, 0⟩ ⟨2, 0⟩ := by
  have shift : (⟨4294967295, .halfEven⟩ : NumericContext).quotientShift ⟨4, 0⟩ ⟨2, 0⟩ =
    4294967297 := by decide
  have dividend : (⟨4, 0⟩ : Decimal).toRat ≠ 0 := Decimal.toRat_ne_zero_iff.2 (by decide)
  have divisor : (⟨2, 0⟩ : Decimal).toRat ≠ 0 := Decimal.toRat_ne_zero_iff.2 (by decide)
  refine ⟨shift, by decide, by decide, ?_, fun keeps => ?_⟩
  · calc |(⟨2, 4294967296⟩ : Decimal).toRat|
        < (10 : ℚ) ^ (⟨2, 4294967296⟩ : Decimal).leading := Decimal.abs_toRat_lt _
      _ ≤ 1 := zpow_le_one_of_nonpos₀ (by norm_num) (by decide)
  · have stored : (⟨4294967295, .halfEven⟩ : NumericContext).ScalesFit ⟨4, 0⟩ ⟨2, 0⟩ :=
      scalesFit_of_small (by decide) (by decide) (by decide) (by decide)
    have short := (shiftedNear_iff dividend divisor).1 (keeps.near (stored.shifted rfl))
    rw [shift] at short
    exact absurd short (by decide)

end NumericContext

end Formula
