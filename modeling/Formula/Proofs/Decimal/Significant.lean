import Formula.Proofs.Decimal.Rational
import Mathlib.Algebra.Order.Floor.Ring
import Mathlib.Data.Int.Log
import Mathlib.Data.Rat.Floor

set_option autoImplicit false

/-!
# Rounding numbers

What a mode does is said here for rational numbers, without digits: which integer a number goes
to, and which number with at most so many significant digits. A decimal is rounded to the decimal
of the number that the number it stands for is rounded to.

A mode asks only on which side of an integer or of the middle between two integers a number lies.
So numbers that lie alike go to the same integer.

## Main definitions

* `Formula.RoundingMode.integer` — the integer that a number is rounded to.
* `Formula.RoundingMode.unit` — what the last significant digit of a number counts.
* `Formula.RoundingMode.significant` — a number rounded to a number of significant digits.
* `Formula.NumericContext.rounded` — a number rounded to the precision of a context.

## Main results

* `Formula.RoundingMode.integer_congr` — numbers that lie alike are rounded alike.
* `Formula.RoundingMode.divide_eq`, `tdiv_eq` — a rounded quotient of integers is the rounded
  number.
* `Formula.RoundingMode.significant_of_mul` — a number with so few digits is not changed.
* `Formula.RoundingMode.toRat_roundTo` — a rounded decimal stands for the rounded number.
* `Formula.Decimal.isInteger_iff`, `truncate_eq` — whole numbers, and whole parts.
-/

namespace Formula

namespace RoundingMode

variable {mode : RoundingMode} {x y : ℚ} {digits : Nat}

/-! ## Rounding to an integer -/

/-- The integer that a number is rounded to. The nearest integer is `⌊x + 1 / 2⌋`, where a tie
goes up, and `⌈x - 1 / 2⌉`, where a tie goes down. -/
def integer (mode : RoundingMode) (x : ℚ) : Int :=
  match mode with
  | up => if x < 0 then ⌊x⌋ else ⌈x⌉
  | down => if x < 0 then ⌈x⌉ else ⌊x⌋
  | ceiling => ⌈x⌉
  | floor => ⌊x⌋
  | halfUp => if x < 0 then ⌈x - 1 / 2⌉ else ⌊x + 1 / 2⌋
  | halfDown => if x < 0 then ⌊x + 1 / 2⌋ else ⌈x - 1 / 2⌉
  | halfEven => if 2 ∣ ⌈x - 1 / 2⌉ then ⌈x - 1 / 2⌉ else ⌊x + 1 / 2⌋

/-- **Numbers that lie alike are rounded alike**: a mode asks only on which side of an integer, or
of the middle between two integers, a number lies. -/
theorem integer_congr (mode : RoundingMode)
    (below : ∀ k : Int, (k : ℚ) / 2 ≤ x ↔ (k : ℚ) / 2 ≤ y)
    (above : ∀ k : Int, x ≤ (k : ℚ) / 2 ↔ y ≤ (k : ℚ) / 2) : mode.integer x = mode.integer y := by
  have negative : x < 0 ↔ y < 0 := by
    rw [← not_le, ← not_le, not_iff_not]
    simpa using below 0
  have floor : ⌊x⌋ = ⌊y⌋ := by
    refine eq_of_forall_le_iff fun k => ?_
    have half : ((2 * k : Int) : ℚ) / 2 = k := by push_cast; ring
    rw [Int.le_floor, Int.le_floor, ← half, below]
  have ceil : ⌈x⌉ = ⌈y⌉ := by
    refine eq_of_forall_ge_iff fun k => ?_
    have half : ((2 * k : Int) : ℚ) / 2 = k := by push_cast; ring
    rw [Int.ceil_le, Int.ceil_le, ← half, above]
  have upper : ⌊x + 1 / 2⌋ = ⌊y + 1 / 2⌋ := by
    refine eq_of_forall_le_iff fun k => ?_
    have half : ((2 * k - 1 : Int) : ℚ) / 2 = k - 1 / 2 := by push_cast; ring
    rw [Int.le_floor, Int.le_floor, ← sub_le_iff_le_add, ← sub_le_iff_le_add, ← half, below]
  have lower : ⌈x - 1 / 2⌉ = ⌈y - 1 / 2⌉ := by
    refine eq_of_forall_ge_iff fun k => ?_
    have half : ((2 * k + 1 : Int) : ℚ) / 2 = k + 1 / 2 := by push_cast; ring
    rw [Int.ceil_le, Int.ceil_le, sub_le_iff_le_add, sub_le_iff_le_add, ← half, above]
  simp only [integer, negative, floor, ceil, upper, lower]

/-- No mode rounds to below the next smaller integer. -/
lemma floor_le_integer (mode : RoundingMode) (x : ℚ) : ⌊x⌋ ≤ mode.integer x := by
  have ordered : ⌊x⌋ ≤ ⌈x⌉ := Int.floor_le_ceil x
  have upper : ⌊x⌋ ≤ ⌊x + 1 / 2⌋ := Int.floor_mono (by linarith)
  have lower : ⌊x⌋ ≤ ⌈x - 1 / 2⌉ := by
    rw [← Int.lt_add_one_iff, ← Int.cast_lt (R := ℚ)]
    push_cast
    linarith [Int.floor_le x, Int.le_ceil (x - 1 / 2)]
  cases mode <;> grind [integer]

/-- No mode rounds to above the next greater integer. -/
lemma integer_le_ceil (mode : RoundingMode) (x : ℚ) : mode.integer x ≤ ⌈x⌉ := by
  have ordered : ⌊x⌋ ≤ ⌈x⌉ := Int.floor_le_ceil x
  have lower : ⌈x - 1 / 2⌉ ≤ ⌈x⌉ := Int.ceil_mono (by linarith)
  have upper : ⌊x + 1 / 2⌋ ≤ ⌈x⌉ := by
    rw [← Int.lt_add_one_iff, ← Int.cast_lt (R := ℚ)]
    push_cast
    linarith [Int.le_ceil x, Int.floor_le (x + 1 / 2)]
  cases mode <;> grind [integer]

/-- An integer is not changed. -/
@[simp] lemma integer_intCast (mode : RoundingMode) (n : Int) : mode.integer n = n := by
  refine le_antisymm ?_ ?_
  · simpa using integer_le_ceil mode n
  · simpa using floor_le_integer mode n

/-- Zero is not changed. -/
@[simp] lemma integer_zero (mode : RoundingMode) : mode.integer 0 = 0 := by
  exact_mod_cast integer_intCast mode 0

/-- A number is rounded to a neighbour. -/
lemma abs_integer_sub_lt (mode : RoundingMode) (x : ℚ) : |(mode.integer x : ℚ) - x| < 1 := by
  have below : (⌊x⌋ : ℚ) ≤ mode.integer x := by exact_mod_cast floor_le_integer mode x
  have above : (mode.integer x : ℚ) ≤ ⌈x⌉ := by exact_mod_cast integer_le_ceil mode x
  rw [abs_lt]
  constructor <;> linarith [Int.lt_floor_add_one x, Int.ceil_lt_add_one x]

/-! ## Rounded quotients of integers -/

section Parts

variable {q : Int} {part : ℚ}

/-- An integer and a proper part lie above this integer. -/
lemma floor_add_part (nonneg : 0 ≤ part) (small : part < 1) : ⌊q + part⌋ = q :=
  Int.floor_eq_iff.2 ⟨by linarith, by linarith⟩

/-- An integer and a part that is not zero lie below the next integer. -/
lemma ceil_add_part (positive : 0 < part) (small : part < 1) : ⌈q + part⌉ = q + 1 := by
  rw [Int.ceil_eq_iff]
  push_cast
  constructor <;> linarith

/-- Rounding half up leaves off a part that is smaller than one half. -/
lemma upper_add_part (nonneg : 0 ≤ part) (small : part < 1) :
    ⌊q + part + 1 / 2⌋ = if Ord.compare part (1 / 2) = .lt then q else q + 1 := by
  simp only [compare_lt_iff_lt, Int.floor_eq_iff]
  split <;> push_cast <;> constructor <;> linarith

/-- Rounding half down leaves off a part that is not greater than one half. -/
lemma lower_add_part (nonneg : 0 ≤ part) (small : part < 1) :
    ⌈q + part - 1 / 2⌉ = if Ord.compare part (1 / 2) = .gt then q + 1 else q := by
  simp only [compare_gt_iff_gt, Int.ceil_eq_iff]
  split <;> push_cast <;> constructor <;> linarith

end Parts

section Between

variable {q : Nat} {part : ℚ}

/-- A positive number between two integers goes to one of them. -/
lemma integer_add_part (mode : RoundingMode) (positive : 0 < part) (small : part < 1) :
    mode.integer ((q : Int) + part) =
      (if mode.awayFromZero false (q % 2 == 1) (Ord.compare part (1 / 2)) then q + 1
        else q : Nat) := by
  have sign : ¬ (((q : Int) : ℚ) + part < 0) := by
    have : (0 : ℚ) ≤ (q : Int) := by exact_mod_cast Nat.zero_le q
    linarith
  have floor := floor_add_part (q := q) positive.le small
  have ceil := ceil_add_part (q := q) positive small
  have upper := upper_add_part (q := q) positive.le small
  have lower := lower_add_part (q := q) positive.le small
  generalize ((q : Int) : ℚ) + part = y at *
  generalize Ord.compare part (1 / 2) = half at *
  cases mode <;> simp only [integer, if_neg sign, floor, ceil, upper, lower] <;> cases half <;>
    grind [awayFromZero]

/-- A negative number between two integers goes to one of them. -/
lemma integer_neg_add_part (mode : RoundingMode) (positive : 0 < part) (small : part < 1) :
    mode.integer (-((q : Int) + part)) =
      -(if mode.awayFromZero true (q % 2 == 1) (Ord.compare part (1 / 2)) then q + 1
        else q : Nat) := by
  have sign : -(((q : Int) : ℚ) + part) < 0 := by
    have : (0 : ℚ) ≤ (q : Int) := by exact_mod_cast Nat.zero_le q
    linarith
  have floor := floor_add_part (q := q) positive.le small
  have ceil := ceil_add_part (q := q) positive small
  have upper := upper_add_part (q := q) positive.le small
  have lower := lower_add_part (q := q) positive.le small
  generalize ((q : Int) : ℚ) + part = y at *
  generalize Ord.compare part (1 / 2) = half at *
  have upper' : ⌊-y + 1 / 2⌋ = -⌈y - 1 / 2⌉ := by rw [← Int.floor_neg, neg_sub, sub_eq_neg_add]
  have lower' : ⌈-y - 1 / 2⌉ = -⌊y + 1 / 2⌋ := by rw [← Int.ceil_neg, neg_add']
  cases mode <;>
    simp only [integer, if_pos sign, Int.floor_neg, Int.ceil_neg, upper', lower', floor, ceil,
      upper, lower] <;>
    cases half <;> grind [awayFromZero]

end Between

section Remainder

variable {m d : Nat}

/-- A quotient as the integer quotient and the part that is left over. -/
lemma natCast_div_eq (m : Nat) (positive : 0 < d) :
    (m : ℚ) / d = ((m / d : Nat) : Int) + (m % d : Nat) / (d : ℚ) := by
  have whole : (d : ℚ) * (m / d : Nat) + (m % d : Nat) = m := by
    exact_mod_cast Nat.div_add_mod m d
  have nonzero : (d : ℚ) ≠ 0 := by exact_mod_cast positive.ne'
  conv_lhs => rw [← whole, add_div, mul_div_cancel_left₀ _ nonzero]
  rw [Int.cast_natCast]

/-- The part is positive when the division leaves a remainder. -/
lemma part_pos (positive : 0 < d) (left : ¬ d ∣ m) : 0 < ((m % d : Nat) : ℚ) / d := by
  have some : m % d ≠ 0 := fun zero => left (Nat.dvd_of_mod_eq_zero zero)
  positivity

/-- The part is proper. -/
lemma part_lt_one (positive : 0 < d) : ((m % d : Nat) : ℚ) / d < 1 := by
  rw [div_lt_one (by exact_mod_cast positive)]
  exact_mod_cast Nat.mod_lt m positive

/-- Twice a remainder compares with the divisor as the part compares with one half. -/
lemma compare_two_mul (rest : Nat) (positive : 0 < d) :
    Ord.compare (2 * rest) d = Ord.compare ((rest : ℚ) / d) (1 / 2) := by
  refine Decimal.compare_congr ?_ ?_
  · rw [div_lt_div_iff₀ (by positivity) (by norm_num)]
    exact_mod_cast by omega
  · rw [div_lt_div_iff₀ (by norm_num) (by positivity)]
    exact_mod_cast by omega

end Remainder

/-- **A rounded quotient of integers** is the integer that the quotient is rounded to.

**Proof sketch.** A quotient that comes out even is not changed. Otherwise the quotient of the
magnitudes lies above the integer quotient, by what is left over the divisor, and the mode chooses
between the two neighbours. -/
theorem divide_eq (mode : RoundingMode) (n : Int) {d : Nat} (positive : 0 < d) :
    mode.divide n d = mode.integer (n / d) := by
  have nonzero : (d : ℚ) ≠ 0 := by exact_mod_cast positive.ne'
  by_cases even : d ∣ n.natAbs
  · have exact : (mode.divide n d : ℚ) * d = n := by exact_mod_cast divide_mul_of_dvd even
    rw [← exact, mul_div_cancel_right₀ _ nonzero, integer_intCast]
  have left : n.natAbs % d ≠ 0 := fun zero => even (Nat.dvd_of_mod_eq_zero zero)
  have part := part_pos positive even
  have small := part_lt_one (m := n.natAbs) positive
  have split := natCast_div_eq n.natAbs positive
  rw [divide, compare_two_mul _ positive]
  rcases lt_trichotomy n 0 with negative | rfl | nonneg
  · have written : (n : ℚ) / d = -((n.natAbs : ℚ) / d) := by
      rw [Nat.cast_natAbs, abs_of_neg negative, Int.cast_neg, neg_div, neg_neg]
    rw [written, split, integer_neg_add_part mode part small, Int.sign_eq_neg_one_of_neg negative,
      neg_one_mul, bne_iff_ne.2 left, Bool.true_and, decide_eq_true negative]
  · exact absurd (dvd_zero d) even
  · have written : (n : ℚ) / d = (n.natAbs : ℚ) / d := by
      rw [Nat.cast_natAbs, abs_of_pos nonneg]
    rw [written, split, integer_add_part mode part small, Int.sign_eq_one_of_pos nonneg,
      one_mul, bne_iff_ne.2 left, Bool.true_and, decide_eq_false nonneg.not_gt]

/-- Rounding toward zero does not depend on the sign. -/
lemma integer_down_neg (x : ℚ) : down.integer (-x) = -down.integer x := by
  rcases lt_trichotomy x 0 with negative | rfl | positive
  · rw [integer, integer, if_neg (by linarith), if_pos negative, Int.floor_neg]
  · simp [integer]
  · rw [integer, integer, if_pos (by linarith), if_neg (by linarith), Int.ceil_neg]

/-- The integer quotient is the quotient rounded toward zero. -/
lemma tdiv_eq (n d : Int) : n.tdiv d = down.integer ((n : ℚ) / d) := by
  have natural : ∀ m k : Nat, (m : Int).tdiv k = down.integer (((m : Int) : ℚ) / (k : Int)) := by
    intro m k
    rw [Int.cast_natCast, Int.cast_natCast, integer, if_neg (not_lt.2 (by positivity)),
      Rat.floor_natCast_div_natCast, Int.tdiv_eq_ediv_of_nonneg (Int.natCast_nonneg m)]
  obtain ⟨m, rfl | rfl⟩ := Int.eq_nat_or_neg n <;> obtain ⟨k, rfl | rfl⟩ := Int.eq_nat_or_neg d
  · exact natural m k
  · rw [Int.tdiv_neg, Int.cast_neg, div_neg, integer_down_neg, natural]
  · rw [Int.neg_tdiv, Int.cast_neg, neg_div, integer_down_neg, natural]
  · rw [Int.neg_tdiv_neg, Int.cast_neg, Int.cast_neg, neg_div_neg_eq, natural]

/-! ## Significant digits -/

/-- What the last of the significant digits of a number counts. -/
def unit (digits : Nat) (x : ℚ) : ℚ := 10 ^ (Int.log 10 |x| + 1 - digits)

/-- A number rounded to at most so many significant digits. No digits means no rounding. -/
def significant (mode : RoundingMode) (digits : Nat) (x : ℚ) : ℚ :=
  if digits = 0 then x else mode.integer (x / unit digits x) * unit digits x

/-- Without a number of digits nothing is rounded. -/
@[simp] lemma significant_no_digits (mode : RoundingMode) (x : ℚ) : mode.significant 0 x = x :=
  if_pos rfl

/-- Rounding to digits is rounding to a multiple of the unit of the last digit. -/
lemma significant_of_ne_zero (some : digits ≠ 0) :
    mode.significant digits x = mode.integer (x / unit digits x) * unit digits x := if_neg some

/-- The unit of the last digit is positive. -/
lemma unit_pos (digits : Nat) (x : ℚ) : 0 < unit digits x := Decimal.tenPow_pos _

/-- A multiple of the unit is not changed. -/
lemma significant_of_eq_mul_unit {n : Int} (multiple : x = n * unit digits x) :
    mode.significant digits x = x := by
  rw [significant]
  split
  case isTrue => rfl
  case isFalse =>
    have quotient : x / unit digits x = n := (div_eq_iff (unit_pos digits x).ne').2 multiple
    rw [quotient, integer_intCast, ← multiple]

/-- Zero has no digits to be rounded. -/
@[simp] lemma significant_zero (mode : RoundingMode) (digits : Nat) :
    mode.significant digits 0 = 0 :=
  significant_of_eq_mul_unit (n := 0) (by simp)

/-- **A number with so few digits is not changed.** -/
theorem significant_of_mul {n : Int} (place : Int) (fits : n.natAbs < 10 ^ digits) :
    mode.significant digits (n * 10 ^ place) = n * 10 ^ place := by
  rcases eq_or_ne n 0 with rfl | nonzero
  · simp
  have positive : (0 : ℚ) < |(n : ℚ) * 10 ^ place| :=
    abs_pos.2 (mul_ne_zero (by exact_mod_cast nonzero) (Decimal.tenPow_pos place).ne')
  have below : |(n : ℚ) * 10 ^ place| < (10 : ℚ) ^ (digits + place) := by
    have few : |(n : ℚ)| < 10 ^ digits := by
      rw [← Int.cast_abs, Int.abs_eq_natAbs, Int.cast_natCast]
      exact_mod_cast fits
    rw [abs_mul, abs_of_pos (Decimal.tenPow_pos place), zpow_add₀ (by norm_num), zpow_natCast]
    exact mul_lt_mul_of_pos_right few (Decimal.tenPow_pos place)
  have log : Int.log 10 |(n : ℚ) * 10 ^ place| < digits + place :=
    (Int.lt_zpow_iff_log_lt (by norm_num) positive).1 (by exact_mod_cast below)
  obtain ⟨zeros, apart⟩ := Int.le.dest (by omega :
    Int.log 10 |(n : ℚ) * 10 ^ place| + 1 - digits ≤ place)
  refine significant_of_eq_mul_unit (n := n * 10 ^ zeros) ?_
  rw [unit, Int.cast_mul, mul_assoc, Int.cast_pow, ← zpow_natCast, Int.cast_ofNat,
    ← zpow_add₀ (by norm_num), add_comm (zeros : Int), apart]

/-- **Rounding does not depend on the place of the point.** -/
lemma significant_mul_tenPow (mode : RoundingMode) (digits : Nat) (x : ℚ) (place : Int) :
    mode.significant digits (x * 10 ^ place) = mode.significant digits x * 10 ^ place := by
  rcases eq_or_ne digits 0 with rfl | some
  · simp
  rcases eq_or_ne x 0 with rfl | nonzero
  · simp
  have moved : unit digits (x * 10 ^ place) = unit digits x * 10 ^ place := by
    have log : Int.log 10 |x * 10 ^ place| = Int.log 10 |x| + place := by
      rw [abs_mul, abs_of_pos (Decimal.tenPow_pos place)]
      have lower : ((10 : Nat) : ℚ) ^ Int.log 10 |x| ≤ |x| :=
        Int.zpow_log_le_self (by norm_num) (abs_pos.2 nonzero)
      have upper := Int.lt_zpow_succ_log_self (by norm_num : 1 < 10) |x|
      push_cast at lower upper
      refine Decimal.log_eq_of_le_of_lt ?_ ?_
      · rw [zpow_add₀ (by norm_num)]
        exact mul_le_mul_of_nonneg_right lower (Decimal.tenPow_pos place).le
      · rw [add_right_comm, zpow_add₀ (by norm_num) _ place]
        exact mul_lt_mul_of_pos_right upper (Decimal.tenPow_pos place)
    rw [unit, unit, log, ← zpow_add₀ (by norm_num)]
    congr 1
    ring
  rw [significant_of_ne_zero some, significant_of_ne_zero some, moved,
    mul_div_mul_right _ _ (Decimal.tenPow_pos place).ne', mul_assoc]

/-- **A rounded number is near**: the difference is less than what the last digit counts. -/
lemma abs_significant_sub_lt (some : digits ≠ 0) :
    |mode.significant digits x - x| < unit digits x := by
  have positive := unit_pos digits x
  have written : mode.significant digits x - x =
      (mode.integer (x / unit digits x) - x / unit digits x) * unit digits x := by
    rw [significant_of_ne_zero some, sub_mul, div_mul_cancel₀ _ positive.ne']
  rw [written, abs_mul, abs_of_pos positive]
  exact mul_lt_of_lt_one_left positive (abs_integer_sub_lt mode _)

/-! ## Rounded decimals -/

/-- **A rounded decimal stands for the rounded number**, whatever its scale.

**Proof sketch.** A decimal with so few digits is not changed, nor is its number. Otherwise the
first digit of the number is that of the decimal, so that the unit of the last digit to be kept is
the power of ten of the dropped ones. -/
@[simp] theorem toRat_roundTo (mode : RoundingMode) (digits : Nat) (d : Decimal) :
    (mode.roundTo digits d).toRat = mode.significant digits d.toRat := by
  rcases eq_or_ne digits 0 with rfl | some
  · rw [significant_no_digits, roundTo, if_pos (by simp)]
  rcases Nat.lt_or_ge digits d.digits with long | short
  · have nonzero : d.unscaled ≠ 0 := by
      intro isZero
      have single : d.digits = 1 := by rw [Decimal.digits, isZero]; rfl
      omega
    have lastPlace : unit digits d.toRat = 10 ^ (-(d.scale - (d.digits - digits : Nat))) := by
      rw [unit, Decimal.log_abs_toRat nonzero, Decimal.leading]
      congr 1
      omega
    have quotient : d.toRat / unit digits d.toRat =
        d.unscaled / (10 ^ (d.digits - digits) : Nat) := by
      rw [lastPlace, Decimal.toRat, mul_div_assoc, ← zpow_sub₀ (by norm_num), Nat.cast_pow,
        ← zpow_natCast, div_eq_mul_inv, ← zpow_neg]
      congr 2
      ring
    rw [roundTo_of_lt some long, Decimal.toRat_mk, divide_eq mode _ (by positivity),
      significant_of_ne_zero some, quotient, lastPlace]
  · rw [roundTo_of_le short]
    exact (significant_of_mul _ ((Digits.count_le_iff some).1 short)).symm

end RoundingMode

/-! ## Whole numbers -/

namespace Decimal

variable {d : Decimal}

/-- A number with digits after the point, as a quotient. -/
lemma toRat_eq_div (nonneg : 0 ≤ d.scale) :
    d.toRat = d.unscaled / (tenPow d.scale.toNat : Int) := by
  obtain ⟨places, same⟩ := Int.eq_ofNat_of_zero_le nonneg
  rw [toRat, same, Int.toNat_natCast, tenPow_eq, zpow_neg, zpow_natCast, div_eq_mul_inv,
    Int.cast_natCast, Nat.cast_pow, Nat.cast_ofNat]

/-- A number whose digits all stand before the point, as an integer. -/
lemma toRat_eq_intCast (nonpos : d.scale ≤ 0) : d.toRat = (d.rescale 0).unscaled := by
  rw [toRat_eq_rescale nonpos, neg_zero, zpow_zero, mul_one]

/-- A number is whole if nothing is left after the point. -/
lemma isInteger_iff : d.isInteger = true ↔ ∃ n : Int, d.toRat = n := by
  rcases le_or_gt d.scale 0 with nonpos | positive
  · refine iff_of_true ?_ ⟨_, toRat_eq_intCast nonpos⟩
    rw [isInteger, decide_eq_true nonpos, Bool.true_or, Bool.true_or]
  have power : ((tenPow d.scale.toNat : Int) : ℚ) ≠ 0 := by
    rw [tenPow_eq]
    push_cast
    positivity
  have written : d.isInteger = true ↔ (tenPow d.scale.toNat : Int) ∣ d.unscaled := by
    rw [isInteger, decide_eq_false positive.not_ge, Bool.false_or, Bool.or_eq_true, beq_iff_eq,
      beq_iff_eq, ← Int.dvd_iff_tmod_eq_zero]
    exact or_iff_right_of_imp fun zero => zero ▸ dvd_zero _
  rw [written, toRat_eq_div positive.le]
  constructor
  · rintro ⟨n, factor⟩
    exact ⟨n, by rw [factor, Int.cast_mul, mul_div_cancel_left₀ _ power]⟩
  · rintro ⟨n, whole⟩
    rw [div_eq_iff power, ← Int.cast_mul, Int.cast_inj] at whole
    exact ⟨n, whole.trans (mul_comm _ _)⟩

/-- The integer that a number is cut off to is the number rounded toward zero. -/
lemma truncate_eq (d : Decimal) : d.truncate = RoundingMode.down.integer d.toRat := by
  rcases le_or_gt d.scale 0 with nonpos | positive
  · rw [toRat_eq_intCast nonpos, RoundingMode.integer_intCast, truncate]
  · rw [truncate, rescale]
    split
    case isTrue zero => rw [toRat_eq_zero_iff.2 zero, RoundingMode.integer_zero]
    case isFalse =>
      rw [if_neg positive.not_ge, sub_zero, toRat_eq_div positive.le, RoundingMode.tdiv_eq]

end Decimal

/-! ## Contexts -/

namespace NumericContext

/-- A number rounded to the precision of a context, if there is one. -/
def rounded (context : NumericContext) (x : ℚ) : ℚ :=
  context.rounding.significant context.precision.toNat x

/-- The number of a rounded decimal is the rounded number: it does not depend on the scale. -/
@[simp] lemma toRat_round (context : NumericContext) (d : Decimal) :
    (context.round d).toRat = context.rounded d.toRat := RoundingMode.toRat_roundTo ..

end NumericContext

end Formula
