import Formula.Proofs.Decimal.Rounding
import Mathlib.Data.Int.Log
import Mathlib.Data.Rat.Cast.Order
import Mathlib.Data.Rat.Floor
import Mathlib.Tactic.FieldSimp
import Mathlib.Tactic.Linarith
import Mathlib.Tactic.NormNum

set_option autoImplicit false

/-!
# The number that a decimal stands for

A decimal stands for a rational number, and exact arithmetic on decimals is arithmetic on these
numbers. Which scale a result has, and whether a factor is recognized as one, makes no difference
to the number.

## Main definitions

* `Formula.Decimal.toRat` — the number that a decimal stands for.

## Main results

* `Formula.Decimal.toRat_add`, `toRat_sub`, `toRat_mul`, `toRat_mulNormal` — exact arithmetic.
* `Formula.Decimal.toRat_normalized` — a normal form stands for the same number.
* `Formula.Decimal.compare_eq` — decimals are compared as numbers.
-/

namespace Formula.Decimal

variable {a b d : Decimal}

/-- The number that a decimal stands for. -/
def toRat (d : Decimal) : ℚ := d.unscaled * (10 : ℚ) ^ (-d.scale)

/-- Powers of ten are positive. -/
lemma tenPow_pos (exponent : Int) : (0 : ℚ) < 10 ^ exponent := zpow_pos (by norm_num) exponent

/-- The number of a decimal that is given by its integer and its scale. -/
lemma toRat_mk (unscaled scale : Int) :
    toRat ⟨unscaled, scale⟩ = unscaled * (10 : ℚ) ^ (-scale) := rfl

/-- At one scale a number has one integer. -/
lemma toRat_injective (scale : Int) {m n : Int} (same : toRat ⟨m, scale⟩ = toRat ⟨n, scale⟩) :
    m = n := by
  rw [toRat_mk, toRat_mk] at same
  exact_mod_cast mul_right_cancel₀ (tenPow_pos (-scale)).ne' same

/-- At a larger scale, an integer stands for the same number with zeros appended. -/
lemma toRat_appended (unscaled scale : Int) (zeros : Nat) :
    toRat ⟨unscaled * 10 ^ zeros, scale + zeros⟩ = toRat ⟨unscaled, scale⟩ := by
  rw [toRat_mk, toRat_mk, neg_add, zpow_add₀ (by norm_num), zpow_neg (10 : ℚ) (zeros : Int),
    zpow_natCast]
  push_cast
  field_simp

/-- Zeros at the end do not change the number. -/
@[simp] lemma toRat_extend (d : Decimal) (zeros : Nat) : (d.extend zeros).toRat = d.toRat :=
  toRat_appended d.unscaled d.scale zeros

/-- The number of an integer. -/
@[simp] lemma toRat_ofInt (n : Int) : (ofInt n).toRat = n := by simp [ofInt, toRat_mk]

/-- The number of zero. -/
@[simp] lemma toRat_zero : zero.toRat = 0 := by simp [zero]

/-- The number of one. -/
@[simp] lemma toRat_one : one.toRat = 1 := by simp [one]

/-! ## Signs -/

/-- A decimal is the number zero exactly if its integer is zero. -/
lemma toRat_eq_zero_iff : d.toRat = 0 ↔ d.unscaled = 0 := by
  rw [toRat, mul_eq_zero, Int.cast_eq_zero]
  exact or_iff_left (tenPow_pos _).ne'

/-- A decimal is another number than zero exactly if its integer is not zero. -/
lemma toRat_ne_zero_iff : d.toRat ≠ 0 ↔ d.unscaled ≠ 0 := toRat_eq_zero_iff.not

/-- The test for zero looks at the number. -/
lemma isZero_iff : d.isZero = true ↔ d.toRat = 0 := by
  rw [toRat_eq_zero_iff, isZero, beq_iff_eq]

/-- A decimal is a positive number exactly if its integer is positive. -/
lemma toRat_pos_iff : 0 < d.toRat ↔ 0 < d.unscaled := by
  rw [toRat, mul_pos_iff_of_pos_right (tenPow_pos _), Int.cast_pos]

/-- A decimal is a negative number exactly if its integer is negative. -/
lemma toRat_neg_iff : d.toRat < 0 ↔ d.unscaled < 0 := by
  rw [← not_iff_not, not_lt, not_lt, le_iff_lt_or_eq, le_iff_lt_or_eq, toRat_pos_iff, eq_comm,
    toRat_eq_zero_iff, eq_comm (a := (0 : Int))]

/-- The test for a negative sign looks at the number. -/
lemma isNegative_iff : d.isNegative = true ↔ d.toRat < 0 := by
  rw [isNegative, decide_eq_true_iff, toRat_neg_iff]

/-- Negation negates the number. -/
@[simp] lemma toRat_neg (d : Decimal) : d.neg.toRat = -d.toRat := by
  simp [neg, toRat]

/-- The absolute value of a decimal is that of its number. -/
@[simp] lemma toRat_abs (d : Decimal) : d.abs.toRat = |d.toRat| := by
  rw [abs, toRat_mk, toRat, abs_mul, abs_of_pos (tenPow_pos _), Int.cast_natCast, Nat.cast_natAbs,
    Int.cast_abs]

/-! ## Exact arithmetic -/

/-- A larger scale does not change the number. -/
lemma toRat_rescale {scale : Int} (larger : d.scale ≤ scale) :
    (d.rescale scale).toRat = d.toRat := by
  rw [rescale]
  split
  case isTrue isZero => rw [toRat_eq_zero_iff.2 isZero, toRat_mk, Int.cast_zero, zero_mul]
  case isFalse =>
    obtain ⟨zeros, rfl⟩ := Int.le.dest larger
    rw [add_sub_cancel_left, Int.toNat_natCast, tenPow_eq]
    push_cast
    exact toRat_appended d.unscaled d.scale zeros

/-- A decimal that is brought to a scale has this scale. -/
lemma scale_rescale (d : Decimal) (scale : Int) : (d.rescale scale).scale = scale := by
  rw [rescale]
  split
  · rfl
  · split <;> rfl

/-- The number as an integer at a larger scale. -/
lemma toRat_eq_rescale {scale : Int} (larger : d.scale ≤ scale) :
    d.toRat = (d.rescale scale).unscaled * (10 : ℚ) ^ (-scale) := by
  conv_lhs => rw [← toRat_rescale larger, toRat, scale_rescale]

/-- **A sum** stands for the sum of the numbers. -/
@[simp] theorem toRat_add (a b : Decimal) : (a.add b).toRat = a.toRat + b.toRat := by
  rw [toRat_eq_rescale (le_max_left a.scale b.scale),
    toRat_eq_rescale (le_max_right a.scale b.scale), add, toRat_mk]
  push_cast
  ring

/-- **A difference** stands for the difference of the numbers. -/
@[simp] theorem toRat_sub (a b : Decimal) : (a.sub b).toRat = a.toRat - b.toRat := by
  rw [sub]
  split
  case isTrue isZero => rw [isZero_iff.1 isZero, sub_zero]
  case isFalse =>
    split
    case isTrue isZero => rw [isZero_iff.1 isZero, toRat_neg, zero_sub]
    case isFalse => rw [toRat_add, toRat_neg, sub_eq_add_neg]

/-- **A normal form** stands for the same number. -/
@[simp] theorem toRat_normalized (d : Decimal) : d.normalized.toRat = d.toRat := by
  by_cases isZero : d.unscaled = 0
  · rw [normalized_of_unscaled_eq_zero isZero, toRat_zero, toRat_eq_zero_iff.2 isZero]
  · obtain ⟨zeros, same⟩ := exists_eq_extend_normalized isZero
    conv_rhs => rw [same, toRat_extend]

/-- A decimal that passes the test for one is the number one, whatever its scale. -/
lemma toRat_of_isOne (isOne : d.isOne = true) : d.toRat = 1 := by
  obtain ⟨⟨nonneg, -⟩, written⟩ : (0 ≤ d.scale ∧ d.scale ≤ oneScaleLimit) ∧
      d.unscaled = tenPow d.scale.toNat := by simpa [Decimal.isOne] using isOne
  obtain ⟨scale, same⟩ := Int.eq_ofNat_of_zero_le nonneg
  rw [toRat, written, same, Int.toNat_natCast, tenPow_eq, zpow_neg, zpow_natCast]
  push_cast
  exact mul_inv_cancel₀ (by positivity)

/-- The product of the integers at the sum of the scales is the product of the numbers. -/
lemma toRat_product (a b : Decimal) :
    toRat ⟨a.unscaled * b.unscaled, a.scale + b.scale⟩ = a.toRat * b.toRat := by
  rw [toRat_mk, toRat, toRat, neg_add, zpow_add₀ (by norm_num)]
  push_cast
  ring

/-- **A product** stands for the product of the numbers, also where a factor is recognized as
one. -/
@[simp] theorem toRat_mul (a b : Decimal) : (a.mul b).toRat = a.toRat * b.toRat := by
  rw [mul]
  split
  case isTrue one => rw [toRat_of_isOne one, one_mul]
  case isFalse =>
    split
    case isTrue one => rw [toRat_of_isOne one, mul_one]
    case isFalse => exact toRat_product a b

/-- **A product** stands for the product of the numbers, also where the zeros at the end of a
factor are dropped. -/
@[simp] theorem toRat_mulNormal (a b : Decimal) : (a.mulNormal b).toRat = a.toRat * b.toRat := by
  rw [mulNormal]
  split
  case isTrue one => rw [toRat_of_isOne one, one_mul, toRat_normalized]
  case isFalse =>
    split
    case isTrue one => rw [toRat_of_isOne one, mul_one, toRat_normalized]
    case isFalse => exact toRat_product a b

/-! ## The order -/

/-- Two pairs in the same order compare alike. -/
lemma compare_congr {α β : Type} [LinearOrder α] [LinearOrder β] {x y : α} {u v : β}
    (lt : x < y ↔ u < v) (gt : y < x ↔ v < u) : Ord.compare x y = Ord.compare u v := by
  rcases lt_trichotomy x y with below | rfl | above
  · rw [compare_lt_iff_lt.2 below, compare_lt_iff_lt.2 (lt.1 below)]
  · have same : u = v := le_antisymm (by simpa using gt) (by simpa using lt)
    rw [compare_eq_iff_eq.2 rfl, compare_eq_iff_eq.2 same]
  · rw [compare_gt_iff_gt.2 above, compare_gt_iff_gt.2 (gt.1 above)]

/-- The absolute value in terms of the digits alone. -/
lemma abs_toRat (d : Decimal) : |d.toRat| = d.unscaled.natAbs * (10 : ℚ) ^ (-d.scale) := by
  rw [← toRat_abs, abs, toRat_mk, Int.cast_natCast]

/-- A number is below the power of ten of its first digit. -/
lemma abs_toRat_lt (d : Decimal) : |d.toRat| < (10 : ℚ) ^ d.leading := by
  have below : (d.unscaled.natAbs : ℚ) < 10 ^ d.digits := by
    exact_mod_cast Digits.lt_pow_count d.unscaled.natAbs
  rw [abs_toRat, leading, sub_eq_add_neg, zpow_add₀ (by norm_num), zpow_natCast]
  exact mul_lt_mul_of_pos_right below (tenPow_pos _)

/-- A number other than zero reaches the place of its first digit. -/
lemma le_abs_toRat (nonzero : d.unscaled ≠ 0) : (10 : ℚ) ^ (d.leading - 1) ≤ |d.toRat| := by
  have reached : (10 : ℚ) ^ d.digits / 10 ≤ d.unscaled.natAbs := by
    rw [div_le_iff₀' (by norm_num)]
    exact_mod_cast Digits.pow_count_le (Int.natAbs_ne_zero.2 nonzero)
  rw [abs_toRat, leading, sub_right_comm, sub_eq_add_neg, zpow_add₀ (by norm_num),
    zpow_sub_one₀ (by norm_num), zpow_natCast]
  exact mul_le_mul_of_nonneg_right reached (tenPow_pos _).le

/-- The place of the first digit of a number, by two powers of ten around it. -/
lemma log_eq_of_le_of_lt {x : ℚ} {place : Int} (reached : (10 : ℚ) ^ place ≤ x)
    (below : x < (10 : ℚ) ^ (place + 1)) : Int.log 10 x = place := by
  have positive : 0 < x := (tenPow_pos place).trans_le reached
  refine le_antisymm (Int.lt_add_one_iff.1 ?_) ?_
  · exact (Int.lt_zpow_iff_log_lt (by norm_num) positive).1 (by exact_mod_cast below)
  · exact (Int.zpow_le_iff_le_log (by norm_num) positive).1 (by exact_mod_cast reached)

/-- The first digit of a number stands where its logarithm says. -/
lemma log_abs_toRat (nonzero : d.unscaled ≠ 0) : Int.log 10 |d.toRat| = d.leading - 1 :=
  log_eq_of_le_of_lt (le_abs_toRat nonzero) (by rw [sub_add_cancel]; exact abs_toRat_lt d)

/-- The number whose first digit stands at the smaller place is the smaller one. -/
lemma abs_toRat_lt_of_leading (nonzero : b.unscaled ≠ 0) (lower : a.leading < b.leading) :
    |a.toRat| < |b.toRat| := by
  calc |a.toRat| < (10 : ℚ) ^ a.leading := abs_toRat_lt a
    _ ≤ 10 ^ (b.leading - 1) := zpow_le_zpow_right₀ (by norm_num) (by omega)
    _ ≤ |b.toRat| := le_abs_toRat nonzero

/-- Magnitudes are compared as numbers. -/
lemma compareMagnitude_eq (ha : a.unscaled ≠ 0) (hb : b.unscaled ≠ 0) :
    a.compareMagnitude b = Ord.compare |a.toRat| |b.toRat| := by
  rw [compareMagnitude]
  split
  case isTrue apart =>
    rcases lt_or_gt_of_ne apart with lower | higher
    · rw [compare_lt_iff_lt.2 lower, compare_lt_iff_lt.2 (abs_toRat_lt_of_leading hb lower)]
    · rw [compare_gt_iff_gt.2 higher, compare_gt_iff_gt.2 (abs_toRat_lt_of_leading ha higher)]
  case isFalse =>
    have atScale : ∀ c : Decimal, c.scale ≤ max a.scale b.scale → |c.toRat| =
        (c.rescale (max a.scale b.scale)).unscaled.natAbs *
          (10 : ℚ) ^ (-max a.scale b.scale) := by
      intro c larger
      rw [← toRat_rescale larger, abs_toRat, scale_rescale]
    have positive := tenPow_pos (-max a.scale b.scale)
    dsimp only
    rw [atScale a (le_max_left _ _), atScale b (le_max_right _ _)]
    refine compare_congr ?_ ?_
    · rw [mul_lt_mul_iff_left₀ positive, Nat.cast_lt]
    · rw [mul_lt_mul_iff_left₀ positive, Nat.cast_lt]

/-- The number with the smaller sign is the smaller one. -/
lemma toRat_lt_of_sign_lt (lower : a.unscaled.sign < b.unscaled.sign) : a.toRat < b.toRat := by
  rcases lt_trichotomy a.unscaled 0 with negative | zero | positive
  · refine (toRat_neg_iff.2 negative).trans_le (not_lt.1 fun below => ?_)
    rw [Int.sign_eq_neg_one_of_neg negative,
      Int.sign_eq_neg_one_of_neg (toRat_neg_iff.1 below)] at lower
    exact lt_irrefl _ lower
  · rw [zero, Int.sign_zero, Int.sign_pos_iff] at lower
    rw [toRat_eq_zero_iff.2 zero]
    exact toRat_pos_iff.2 lower
  · rw [Int.sign_eq_one_of_pos positive] at lower
    rcases Int.sign_trichotomy b.unscaled with sign | sign | sign <;> omega

/-- **Decimals are compared as numbers**, whatever their scales.

**Proof sketch.** Numbers of different signs are in the order of the signs. Of two numbers of the
same sign the magnitudes are compared, the other way round below zero. -/
theorem compare_eq (a b : Decimal) : a.compare b = Ord.compare a.toRat b.toRat := by
  rw [compare]
  rcases lt_trichotomy a.unscaled.sign b.unscaled.sign with lower | same | higher
  · rw [compare_lt_iff_lt.2 lower, compare_lt_iff_lt.2 (toRat_lt_of_sign_lt lower)]
  · rw [compare_eq_iff_eq.2 same]
    dsimp only
    rcases lt_trichotomy a.unscaled 0 with negative | zero | positive
    · have negative' : b.unscaled < 0 := by
        rwa [← Int.sign_eq_neg_one_iff_neg, ← same, Int.sign_eq_neg_one_iff_neg]
      rw [if_neg (by simpa [isZero] using negative.ne),
        if_pos (by simpa [isNegative] using negative), compareMagnitude_eq negative'.ne negative.ne,
        abs_of_neg (toRat_neg_iff.2 negative),
        abs_of_neg (toRat_neg_iff.2 negative')]
      exact compare_congr neg_lt_neg_iff neg_lt_neg_iff
    · have zero' : b.unscaled = 0 := by
        rwa [← Int.sign_eq_zero_iff_zero, ← same, Int.sign_eq_zero_iff_zero]
      rw [if_pos (by simpa [isZero] using zero), toRat_eq_zero_iff.2 zero,
        toRat_eq_zero_iff.2 zero', compare_eq_iff_eq.2 rfl]
    · have positive' : 0 < b.unscaled := by rwa [← Int.sign_pos_iff, ← same, Int.sign_pos_iff]
      rw [if_neg (by simpa [isZero] using positive.ne'),
        if_neg (by simpa [isNegative] using positive.le),
        compareMagnitude_eq positive.ne' positive'.ne',
        abs_of_pos (toRat_pos_iff.2 positive), abs_of_pos (toRat_pos_iff.2 positive')]
  · rw [compare_gt_iff_gt.2 higher, compare_gt_iff_gt.2 (toRat_lt_of_sign_lt higher)]

end Formula.Decimal
