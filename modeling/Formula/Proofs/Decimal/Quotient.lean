import Formula.Operator.Standard
import Formula.Proofs.Decimal.Significant
import Mathlib.Data.Nat.Cast.Field

set_option autoImplicit false

/-!
# Quotients are rounded correctly

A quotient is made of an integer quotient, and of a last digit 1 in place of all that is left over.
The integer quotient has more digits than are kept. What comes after it can then not be told apart
by any mode, as long as there is something: every number that rounding could go to, and every
middle between two of them, is an integer. So the one rounding at the end sees the last digit as it
would see the exact quotient.

## Main definitions

* `Formula.NumericContext.ShiftFits` — a division appends less than `2 ^ 32` zeros.

## Main results

* `Formula.RoundingMode.significant_congr` — numbers between the same two integers are rounded to
  the same number, if these have more digits than are kept.
* `Formula.NumericContext.toRat_exactQuotient` — a quotient is the exact quotient, rounded once.
* `Formula.NumericContext.toRat_remainder` — a remainder is what the whole quotient leaves over.
* `Formula.Operator.divide_rounds_once` — so is the result of a division, if its scales fit.
-/

namespace Formula

/-! ## Numbers between the same two integers -/

namespace RoundingMode

variable {mode : RoundingMode} {x y : ℚ} {digits : Nat} {m : Int}

/-- An integer is below a number exactly if it is not above the integer part. -/
lemma intCast_le_iff_of_between (lower : m < x) (upper : x < m + 1) (i : Int) :
    (i : ℚ) ≤ x ↔ i ≤ m := by
  constructor
  · intro below
    have : (i : ℚ) < (m + 1 : Int) := by
      push_cast
      exact below.trans_lt upper
    exact Int.lt_add_one_iff.1 (by exact_mod_cast this)
  · intro below
    have : (i : ℚ) ≤ m := by exact_mod_cast below
    exact this.trans lower.le

/-- The integers from a number on that lies between two neighbours are those after the lower one. -/
lemma le_intCast_iff_of_between (lower : m < x) (upper : x < m + 1) (i : Int) :
    x ≤ (i : ℚ) ↔ m < i := by
  constructor
  · intro above
    exact_mod_cast lower.trans_le above
  · intro above
    have : ((m + 1 : Int) : ℚ) ≤ i := by exact_mod_cast above
    push_cast at this
    exact upper.le.trans this

/-- The numbers between the same two integers go to the same multiple of a power of ten, since the
middle between two multiples is an integer as well. -/
lemma integer_div_tenPow_congr (mode : RoundingMode) (lower : m < x) (upper : x < m + 1)
    (lower' : m < y) (upper' : y < m + 1) (zeros : Nat) :
    mode.integer (x / 10 ^ (zeros + 1)) = mode.integer (y / 10 ^ (zeros + 1)) := by
  have middle : ∀ k : Int, (k : ℚ) / 2 * 10 ^ (zeros + 1) = (k * 5 * 10 ^ zeros : Int) := by
    intro k
    push_cast
    ring
  refine integer_congr mode (fun k => ?_) fun k => ?_
  · rw [le_div_iff₀ (by positivity), le_div_iff₀ (by positivity), middle,
      intCast_le_iff_of_between lower upper, intCast_le_iff_of_between lower' upper']
  · rw [div_le_iff₀ (by positivity), div_le_iff₀ (by positivity), middle,
      le_intCast_iff_of_between lower upper, le_intCast_iff_of_between lower' upper']

/-- The numbers between the same two integers reach the same integers in magnitude. -/
lemma intCast_le_abs_congr (lower : m < x) (upper : x < m + 1) (lower' : m < y)
    (upper' : y < m + 1) (i : Int) : (i : ℚ) ≤ |x| ↔ (i : ℚ) ≤ |y| := by
  rw [le_abs', le_abs', ← Int.cast_neg, le_intCast_iff_of_between lower upper,
    le_intCast_iff_of_between lower' upper', intCast_le_iff_of_between lower upper,
    intCast_le_iff_of_between lower' upper']

/-- **Numbers between the same two integers are rounded to the same number**, if these have more
digits than are kept.

**Proof sketch.** The first digit of both stands at the same place, since a power of ten is an
integer. So the last digit to be kept counts the same power of ten, and at least ten. -/
theorem significant_congr (mode : RoundingMode) (some : digits ≠ 0) (lower : m < x)
    (upper : x < m + 1) (lower' : m < y) (upper' : y < m + 1) (long : (10 : ℚ) ^ digits ≤ |x|) :
    mode.significant digits x = mode.significant digits y := by
  have positive : 0 < |x| := lt_of_lt_of_le (by positivity) long
  obtain ⟨zeros, log⟩ : ∃ zeros : Nat, Int.log 10 |x| = (digits + zeros : Nat) := by
    have reached : (digits : Int) ≤ Int.log 10 |x| :=
      (Int.zpow_le_iff_le_log (by norm_num) positive).1 (by exact_mod_cast long)
    obtain ⟨zeros, same⟩ := Int.le.dest reached
    exact ⟨zeros, by rw [← same, Nat.cast_add]⟩
  have same : ∀ place : Nat, (10 : ℚ) ^ place ≤ |x| ↔ (10 : ℚ) ^ place ≤ |y| := by
    intro place
    simpa using intCast_le_abs_congr lower upper lower' upper' (10 ^ place)
  have log' : Int.log 10 |y| = (digits + zeros : Nat) := by
    refine Decimal.log_eq_of_le_of_lt ?_ (lt_of_not_ge ?_)
    · rw [zpow_natCast, ← same, ← zpow_natCast, ← log]
      exact_mod_cast Int.zpow_log_le_self (by norm_num) positive
    · rw [← Nat.cast_succ, zpow_natCast, ← same, ← zpow_natCast, Nat.cast_succ, ← log, not_le]
      exact_mod_cast Int.lt_zpow_succ_log_self (by norm_num) |x|
  have unit_eq : ∀ z : ℚ, Int.log 10 |z| = (digits + zeros : Nat) →
      unit digits z = 10 ^ (zeros + 1) := by
    intro z log
    rw [unit, log, ← zpow_natCast]
    congr 1
    push_cast
    ring
  rw [significant_of_ne_zero some, significant_of_ne_zero some, unit_eq x log, unit_eq y log',
    integer_div_tenPow_congr mode lower upper lower' upper']

end RoundingMode

/-! ## Quotients -/

namespace NumericContext

variable {context : NumericContext} {a b : Decimal} {n d : Int}

/-- A division always computes some digits, even without a precision. -/
lemma divisionDigits_ne_zero (context : NumericContext) : context.divisionDigits ≠ 0 := by
  rw [divisionDigits]
  split
  case isTrue => decide
  case isFalse limited => exact toNat_precision_ne_zero limited

/-- The zeros that a division appends to its dividend are less than `2 ^ 32`. Nothing is divided
when one of the numbers is zero. -/
def ShiftFits (context : NumericContext) (a b : Decimal) : Prop :=
  a.toRat ≠ 0 → b.toRat ≠ 0 → context.quotientShift a b < 2 ^ 32

/-- The factor is the power of ten as long as its exponent is not cut. -/
lemma shiftFactor_eq {shift : Nat} (fits : shift < 2 ^ 32) : shiftFactor shift = 10 ^ shift := by
  rw [shiftFactor, UInt32.toNat_ofNat_of_lt' fits, tenPow_eq]

/-- A quotient of integers, by its sign and the quotient of the magnitudes. -/
lemma intCast_div_eq (n d : Int) :
    (n : ℚ) / d = (n.sign * d.sign : Int) * ((n.natAbs : ℚ) / d.natAbs) := by
  have split : (n : ℚ) = n.sign * n.natAbs := by
    rw [← Int.cast_natCast, ← Int.cast_mul, Int.sign_mul_natAbs]
  rcases lt_trichotomy d 0 with negative | rfl | positive
  · rw [Int.sign_eq_neg_one_of_neg negative, Nat.cast_natAbs d, abs_of_neg negative, split]
    push_cast
    rw [div_neg]
    ring
  · simp
  · rw [Int.sign_eq_one_of_pos positive, Nat.cast_natAbs d, abs_of_pos positive, split]
    push_cast
    ring

/-- The digits of a quotient that comes out even are those of the quotient. -/
lemma toRat_quotientDigits_of_dvd (hn : n ≠ 0) (hd : d ≠ 0) (even : d.natAbs ∣ n.natAbs)
    (scale preferred : Int) :
    (quotientDigits n d scale preferred).toRat = (n : ℚ) / d * 10 ^ (-scale) := by
  have exact : ((n.natAbs / d.natAbs : Nat) : ℚ) = (n.natAbs : ℚ) / d.natAbs :=
    Nat.cast_div even (by exact_mod_cast Int.natAbs_ne_zero.2 hd)
  have positive : n.natAbs / d.natAbs ≠ 0 := by
    have divisor : 0 < d.natAbs := Int.natAbs_pos.2 hd
    exact (Nat.div_pos (Nat.le_of_dvd (Int.natAbs_pos.2 hn) even) divisor).ne'
  obtain ⟨kept, zeros, stripped, split, -, -⟩ :=
    @Digits.stripWithin_spec (Digits.level (n.natAbs / d.natAbs)) (scale - preferred).toNat _
      positive
  rw [quotientDigits, if_pos (Nat.mod_eq_zero_of_dvd even), Digits.stripZeros, stripped,
    intCast_div_eq, ← exact, split, ← Decimal.toRat_appended _ _ zeros, sub_add_cancel,
    Decimal.toRat_mk]
  push_cast
  ring

/-- The digits of a quotient that does not come out even are those of the integer quotient, and a
last digit 1. -/
lemma toRat_quotientDigits_of_not_dvd (left : ¬ d.natAbs ∣ n.natAbs) (scale preferred : Int) :
    (quotientDigits n d scale preferred).toRat =
      (n.sign * d.sign : Int) * ((n.natAbs / d.natAbs : Nat) + 1 / 10) * 10 ^ (-scale) := by
  rw [quotientDigits, if_neg fun zero => left (Nat.dvd_of_mod_eq_zero zero), Decimal.toRat_mk,
    neg_add, zpow_add₀ (by norm_num), zpow_neg_one]
  generalize n.natAbs / d.natAbs = quotient
  push_cast
  ring

/-- A quotient that does not come out even lies between the integer quotient and the next
integer. -/
lemma natCast_div_between {m k : Nat} (positive : 0 < k) (left : ¬ k ∣ m) :
    ((m / k : Nat) : ℚ) < m / k ∧ (m : ℚ) / k < (m / k : Nat) + 1 := by
  rw [RoundingMode.natCast_div_eq m positive, Int.cast_natCast]
  constructor
  · linarith [RoundingMode.part_pos positive left]
  · linarith [RoundingMode.part_lt_one (m := m) positive]

/-- **The digits of a quotient are rounded like the quotient**, if these are more than are kept.

**Proof sketch.** If the division does not come out even, the quotient of the magnitudes lies
between the integer quotient and the next integer, and so does the integer quotient with a last
digit 1. -/
lemma significant_quotientDigits (mode : RoundingMode) {digits : Nat} (some : digits ≠ 0)
    (hn : n ≠ 0) (hd : d ≠ 0) (long : (10 : ℚ) ^ digits ≤ |(n : ℚ) / d|) (scale preferred : Int) :
    mode.significant digits (quotientDigits n d scale preferred).toRat =
      mode.significant digits ((n : ℚ) / d * 10 ^ (-scale)) := by
  by_cases even : d.natAbs ∣ n.natAbs
  · rw [toRat_quotientDigits_of_dvd hn hd even]
  rw [toRat_quotientDigits_of_not_dvd even, RoundingMode.significant_mul_tenPow,
    RoundingMode.significant_mul_tenPow]
  congr 1
  rw [intCast_div_eq] at long ⊢
  obtain ⟨lower, upper⟩ := natCast_div_between (Int.natAbs_pos.2 hd) even
  have signs : n.sign * d.sign = 1 ∨ n.sign * d.sign = -1 := by
    rw [← Int.sign_mul]
    rcases lt_or_gt_of_ne (mul_ne_zero hn hd) with negative | positive
    · exact .inr (Int.sign_eq_neg_one_of_neg negative)
    · exact .inl (Int.sign_eq_one_of_pos positive)
  generalize n.natAbs / d.natAbs = quotient at *
  rcases signs with same | opposite
  · rw [same] at long ⊢
    refine (RoundingMode.significant_congr mode (m := quotient) some ?_ ?_ ?_ ?_ long).symm <;>
      push_cast <;> linarith
  · rw [opposite] at long ⊢
    refine (RoundingMode.significant_congr mode (m := -quotient - 1) some ?_ ?_ ?_ ?_ long).symm <;>
      push_cast <;> linarith

/-- Enough zeros are appended to a dividend, whatever the lengths of the two integers are. -/
lemma mul_natAbs_le_shifted (context : NumericContext) (b : Decimal) (ha : a.unscaled ≠ 0) :
    10 ^ context.divisionDigits * b.unscaled.natAbs ≤
      a.unscaled.natAbs * 10 ^ context.quotientShift a b := by
  have dividend : 10 ^ a.digits ≤ 10 * a.unscaled.natAbs :=
    Digits.pow_count_le (Int.natAbs_ne_zero.2 ha)
  have divisor : b.unscaled.natAbs ≤ 10 ^ b.digits := (Digits.lt_pow_count _).le
  have enough : context.divisionDigits + 1 + b.digits ≤ a.digits + context.quotientShift a b := by
    rw [quotientShift]
    omega
  refine Nat.le_of_mul_le_mul_left ?_ (by decide : 0 < 10)
  calc 10 * (10 ^ context.divisionDigits * b.unscaled.natAbs)
      ≤ 10 * (10 ^ context.divisionDigits * 10 ^ b.digits) := by gcongr
    _ = 10 ^ (context.divisionDigits + 1 + b.digits) := by ring
    _ ≤ 10 ^ (a.digits + context.quotientShift a b) := Nat.pow_le_pow_right (by decide) enough
    _ = 10 ^ a.digits * 10 ^ context.quotientShift a b := pow_add 10 _ _
    _ ≤ 10 * a.unscaled.natAbs * 10 ^ context.quotientShift a b := by gcongr
    _ = 10 * (a.unscaled.natAbs * 10 ^ context.quotientShift a b) := Nat.mul_assoc ..

/-- With the zeros appended, a quotient has more digits than are kept. -/
lemma le_abs_shifted (context : NumericContext) (ha : a.unscaled ≠ 0) (hb : b.unscaled ≠ 0) :
    (10 : ℚ) ^ context.divisionDigits ≤
      |((a.unscaled * 10 ^ context.quotientShift a b : Int) : ℚ) / b.unscaled| := by
  have positive : (0 : ℚ) < |(b.unscaled : ℚ)| := abs_pos.2 (by exact_mod_cast hb)
  rw [abs_div, le_div_iff₀ positive]
  push_cast
  rw [abs_mul, abs_of_pos (by positivity : (0 : ℚ) < 10 ^ context.quotientShift a b)]
  rw [← Int.cast_abs, ← Int.cast_abs, Int.abs_eq_natAbs, Int.abs_eq_natAbs]
  exact_mod_cast context.mul_natAbs_le_shifted b ha

/-- Zeros that are appended to the dividend are counted by the scale of the quotient. -/
lemma toRat_div_eq_shifted (a b : Decimal) (shift : Nat) :
    a.toRat / b.toRat = ((a.unscaled * 10 ^ shift : Int) : ℚ) / b.unscaled *
      10 ^ (-(shift + (a.scale - b.scale) : Int)) := by
  have ten : (10 : ℚ) ≠ 0 := by norm_num
  rw [Decimal.toRat, Decimal.toRat, mul_div_mul_comm, ← zpow_sub₀ ten, Int.cast_mul,
    Int.cast_pow, Int.cast_ofNat, ← zpow_natCast, mul_div_right_comm, mul_assoc, ← zpow_add₀ ten]
  congr 2
  ring

/-- **A quotient at a scale of any size is the exact quotient, rounded once.** -/
theorem toRat_exactQuotient (nonzero : b.toRat ≠ 0) (fits : context.ShiftFits a b) :
    (context.exactQuotient a b).toRat =
      context.rounding.significant context.divisionDigits (a.toRat / b.toRat) := by
  rw [exactQuotient]
  split
  case isTrue isZero =>
    rw [Decimal.isZero_iff.1 isZero, zero_div, RoundingMode.significant_zero,
      Decimal.toRat_eq_zero_iff]
  case isFalse isNonzero =>
    have ha : a.unscaled ≠ 0 := by simpa [Decimal.isZero] using isNonzero
    have hb : b.unscaled ≠ 0 := Decimal.toRat_ne_zero_iff.1 nonzero
    have short := fits (Decimal.toRat_ne_zero_iff.2 ha) nonzero
    rw [RoundingMode.toRat_roundTo, unroundedQuotient, shiftFactor_eq short]
    push_cast
    rw [significant_quotientDigits _ context.divisionDigits_ne_zero
      (mul_ne_zero ha (by positivity)) hb (context.le_abs_shifted ha hb),
      toRat_div_eq_shifted a b (context.quotientShift a b)]

/-- **A remainder** is what the quotient rounded toward zero leaves over. -/
theorem toRat_remainder (context : NumericContext) (a b : Decimal) :
    (context.remainder a b).toRat =
      context.rounded (a.toRat - RoundingMode.down.integer (a.toRat / b.toRat) * b.toRat) := by
  have positive := Decimal.tenPow_pos (-max a.scale b.scale)
  rw [remainder, toRat_round, Decimal.toRat_mk, Int.tmod_def, RoundingMode.tdiv_eq,
    Decimal.toRat_eq_rescale (le_max_left a.scale b.scale),
    Decimal.toRat_eq_rescale (le_max_right a.scale b.scale), mul_div_mul_right _ _ positive.ne']
  congr 1
  push_cast
  ring

end NumericContext

/-! ## Divisions -/

namespace Operator

variable {context : NumericContext} {a b : Decimal}

/-- A division whose scales fit has the quotient that it would have if scales had any size. -/
lemma divide_of_scalesFit (nonzero : b.toRat ≠ 0) (stored : context.ScalesFit a b) :
    divide (.decimal a) (.decimal b) context = .ok (.decimal (context.exactQuotient a b)) := by
  have divisor : ¬ b.isZero := fun zero => nonzero (Decimal.isZero_iff.1 zero)
  rw [divide, onDecimals, if_neg divisor, NumericContext.quotient_of_scalesFit stored]
  rfl

/-- A division of which a scale does not fit breaks the run off. -/
lemma divide_of_not_scalesFit (nonzero : b.toRat ≠ 0) (exceeds : ¬ context.ScalesFit a b) :
    divide (.decimal a) (.decimal b) context = .error .scaleOverflow := by
  have divisor : ¬ b.isZero := fun zero => nonzero (Decimal.isZero_iff.1 zero)
  rw [divide, onDecimals, if_neg divisor, NumericContext.quotient_of_not_scalesFit exceeds]
  rfl

/-- **A division is rounded once, if its scales fit.** Two numbers are divided into a number that
can be stored, which is the exact quotient rounded to the digits of a division: neither the integer
division nor the digit that stands for what is left over changes the outcome. If a scale that the
division computes is no 64-bit integer, then the run breaks off. For numbers of moderate lengths and
scales that does not happen (`NumericContext.scalesFit_of_small`).

**Proof sketch.** With the zeros appended, the integer quotient has more digits than are kept. So
the digits that are rounded and the exact quotient lie between the same two integers, or are
equal. -/
theorem divide_rounds_once (context : NumericContext) {a b : Decimal} (nonzero : b.toRat ≠ 0)
    (fits : context.ShiftFits a b) :
    (context.ScalesFit a b → ∃ quotient : Decimal,
      divide (.decimal a) (.decimal b) context = .ok (.decimal quotient) ∧ quotient.ScaleFits ∧
        quotient.toRat =
          context.rounding.significant context.divisionDigits (a.toRat / b.toRat)) ∧
      (¬ context.ScalesFit a b →
        divide (.decimal a) (.decimal b) context = .error .scaleOverflow) := by
  refine ⟨fun stored => ?_, divide_of_not_scalesFit nonzero⟩
  exact ⟨context.exactQuotient a b, divide_of_scalesFit nonzero stored, stored.rounded,
    NumericContext.toRat_exactQuotient nonzero fits⟩

/-- Just above a tie: `3.0150001 / 3` is more than `1.005`, by less than the guard digits show. -/
theorem divide_rounds_once_near_tie :
    (⟨3, 0⟩ : Decimal).toRat ≠ 0 ∧
      (⟨3, .halfEven⟩ : NumericContext).ShiftFits ⟨30150001, 7⟩ ⟨3, 0⟩ ∧
      (⟨3, .halfEven⟩ : NumericContext).ScalesFit ⟨30150001, 7⟩ ⟨3, 0⟩ ∧
      ∃ quotient : Decimal,
        divide (.decimal ⟨30150001, 7⟩) (.decimal ⟨3, 0⟩) ⟨3, .halfEven⟩ =
            .ok (.decimal quotient) ∧ quotient.ScaleFits ∧
          quotient.toRat = RoundingMode.significant .halfEven 3
            ((⟨30150001, 7⟩ : Decimal).toRat / (⟨3, 0⟩ : Decimal).toRat) := by
  have nonzero : (⟨3, 0⟩ : Decimal).toRat ≠ 0 := Decimal.toRat_ne_zero_iff.2 (by decide)
  have fits : (⟨3, .halfEven⟩ : NumericContext).ShiftFits ⟨30150001, 7⟩ ⟨3, 0⟩ :=
    fun _ _ => by decide
  have stored : (⟨3, .halfEven⟩ : NumericContext).ScalesFit ⟨30150001, 7⟩ ⟨3, 0⟩ :=
    NumericContext.scalesFit_of_small (by decide) (by decide) (by decide) (by decide)
  exact ⟨nonzero, fits, stored, (divide_rounds_once ⟨3, .halfEven⟩ nonzero fits).1 stored⟩

/-- The sticky digit decides: without it the tie would go to the even `1.00`. -/
example : divide (.decimal ⟨30150001, 7⟩) (.decimal ⟨3, 0⟩) ⟨3, .halfEven⟩ =
    .ok (.decimal ⟨101, 2⟩) := by
  decide

/-- A number of seven digits with the largest scale cannot be divided by one, although it is the
quotient and could be stored: the zeros that are appended to it lead to a scale that does not
fit. -/
theorem divide_breaks_off_largest_scale :
    (⟨1, 0⟩ : Decimal).toRat ≠ 0 ∧
      NumericContext.decimal32.ShiftFits ⟨1000000, 9223372036854775807⟩ ⟨1, 0⟩ ∧
      RoundingMode.significant .halfEven 7
          ((⟨1000000, 9223372036854775807⟩ : Decimal).toRat / (⟨1, 0⟩ : Decimal).toRat) =
        (⟨1000000, 9223372036854775807⟩ : Decimal).toRat ∧
      (⟨1000000, 9223372036854775807⟩ : Decimal).ScaleFits ∧
      divide (.decimal ⟨1000000, 9223372036854775807⟩) (.decimal ⟨1, 0⟩) .decimal32 =
        .error .scaleOverflow := by
  have nonzero : (⟨1, 0⟩ : Decimal).toRat ≠ 0 := Decimal.toRat_ne_zero_iff.2 (by decide)
  have kept : RoundingMode.halfEven.roundTo 7 ⟨1000000, 9223372036854775807⟩ =
    ⟨1000000, 9223372036854775807⟩ := by decide
  refine ⟨nonzero, fun _ _ => by decide, ?_, by decide, by decide⟩
  have one : (⟨1, 0⟩ : Decimal).toRat = 1 := Decimal.toRat_one
  rw [one, div_one, ← RoundingMode.toRat_roundTo, kept]

end Operator

end Formula
