import Formula.Proofs.Decimal.Significant

set_option autoImplicit false

/-!
# Rounding is a monotone projection

The numbers with at most so many significant digits lie on a grid that is coarser farther from zero.
A number of this grid is not changed by rounding, and any other number goes to one of its two
neighbours on the grid, to the one on the side that the mode asks for. So no number of the grid is
jumped over, and the order is kept, also where two numbers are rounded in different units.

## Main definitions

* `Formula.Decimal.Representable` — the numbers with at most so many significant digits.
* `Formula.RoundingMode.Admits` — what a mode asks of a rounded number.
* `Formula.NumericContext.Projects` — rounding to a context is a monotone projection.

## Main results

* `Formula.RoundingMode.le_significant`, `significant_le` — no representable number is jumped over.
* `Formula.RoundingMode.admits_significant` — a rounded number is what the mode asks for.
* `Formula.RoundingMode.toRat_roundTo_mono` — rounding keeps the order.
* `Formula.NumericContext.round_projects` — rounding to a context is a monotone projection.
-/

namespace Formula

/-! ## Numbers with few digits -/

namespace Decimal

variable {digits : Nat} {x : ℚ}

/-- The numbers with at most so many significant digits: an integer of no more digits, at any
place. -/
def Representable (digits : Nat) (x : ℚ) : Prop :=
  ∃ n place : Int, n.natAbs < 10 ^ digits ∧ x = n * 10 ^ place

/-- Zero can be written with any number of digits. -/
lemma representable_zero (digits : Nat) : Representable digits 0 :=
  ⟨0, 0, by simp, by simp⟩

/-- A number and its negative need as many digits. -/
lemma Representable.neg (short : Representable digits x) : Representable digits (-x) := by
  obtain ⟨n, place, few, rfl⟩ := short
  exact ⟨-n, place, by rwa [Int.natAbs_neg], by push_cast; ring⟩

/-- A decimal that fits stands for a number with so few digits. -/
lemma Fits.representable {d : Decimal} (fits : d.Fits digits) : Representable digits d.toRat := by
  obtain ⟨kept, zeros, split, few⟩ := fits
  refine ⟨kept, zeros - d.scale, few, ?_⟩
  rw [toRat, split, sub_eq_add_neg, zpow_add₀ (by norm_num), zpow_natCast]
  push_cast
  ring

/-- A number with few digits is a multiple of a power of ten, if it is large enough for its last
digit to stand there or farther to the left. -/
lemma Representable.exists_eq_mul (short : Representable digits x) {place : Int}
    (reached : (10 : ℚ) ^ (place + digits - 1) ≤ |x|) : ∃ k : Int, x = k * 10 ^ place := by
  obtain ⟨n, lowest, few, rfl⟩ := short
  have below : |(n : ℚ) * 10 ^ lowest| < 10 ^ (digits + lowest) := by
    have small : |(n : ℚ)| < 10 ^ digits := by
      rw [← Int.cast_abs, Int.abs_eq_natAbs, Int.cast_natCast]
      exact_mod_cast few
    rw [abs_mul, abs_of_pos (tenPow_pos lowest), zpow_add₀ (by norm_num), zpow_natCast]
    exact mul_lt_mul_of_pos_right small (tenPow_pos lowest)
  have order : place + digits - 1 < digits + lowest :=
    (zpow_lt_zpow_iff_right₀ (by norm_num)).1 (reached.trans_lt below)
  obtain ⟨zeros, rfl⟩ := Int.le.dest (by omega : place ≤ lowest)
  refine ⟨n * 10 ^ zeros, ?_⟩
  rw [zpow_add₀ (by norm_num), zpow_natCast]
  push_cast
  ring

end Decimal

namespace RoundingMode

open Decimal

variable {mode : RoundingMode} {digits : Nat} {x y : ℚ}

/-! ## Neighbours -/

/-- A number and its negative have the same unit. -/
lemma unit_neg (digits : Nat) (x : ℚ) : unit digits (-x) = unit digits x := by
  rw [unit, unit, abs_neg]

/-- **Between a number and a representable one there is a multiple of the unit**, or the
representable one is a multiple.

**Proof sketch.** The representable number is a multiple of the unit if its first digit stands where
that of the number stands, or farther to the left. Otherwise it lies between the two powers of ten
whose first digit stands there, which are multiples and which the number does not lie between. -/
lemma exists_multiple_of_le (some : digits ≠ 0) (short : Representable digits y) (above : x ≤ y) :
    ∃ k : Int, x ≤ k * unit digits x ∧ k * unit digits x ≤ y := by
  have first : ((10 ^ (digits - 1) : Int) : ℚ) * unit digits x = 10 ^ Int.log 10 |x| := by
    rw [unit, Int.cast_pow, Int.cast_ofNat, ← zpow_natCast, ← zpow_add₀ (by norm_num)]
    congr 1
    omega
  by_cases reached : (10 : ℚ) ^ Int.log 10 |x| ≤ |y|
  · have reachedFirst : (10 : ℚ) ^ ((Int.log 10 |x| + 1 - digits) + digits - 1) ≤ |y| := by
      rwa [sub_add_cancel, add_sub_cancel_right]
    obtain ⟨k, multiple⟩ := short.exists_eq_mul reachedFirst
    exact ⟨k, by rwa [unit, ← multiple], by rw [unit, ← multiple]⟩
  rw [not_le, abs_lt] at reached
  rcases eq_or_ne x 0 with rfl | nonzero
  · exact ⟨0, by simp, by simpa using above⟩
  have large : (10 : ℚ) ^ Int.log 10 |x| ≤ |x| := by
    exact_mod_cast Int.zpow_log_le_self (by norm_num : 1 < 10) (abs_pos.2 nonzero)
  refine ⟨-10 ^ (digits - 1), ?_, ?_⟩
  · rw [Int.cast_neg, neg_mul, first]
    rcases le_abs.1 large with positive | negative
    · linarith [reached.2]
    · linarith
  · rw [Int.cast_neg, neg_mul, first]
    exact reached.1.le

/-- Between a short number and a greater one lies a multiple of the unit of the greater one. -/
lemma exists_multiple_of_ge (some : digits ≠ 0) (short : Representable digits y) (below : y ≤ x) :
    ∃ k : Int, y ≤ k * unit digits x ∧ k * unit digits x ≤ x := by
  obtain ⟨k, first, second⟩ := exists_multiple_of_le some short.neg (neg_le_neg below)
  rw [unit_neg] at first second
  refine ⟨-k, ?_, ?_⟩ <;> push_cast <;> linarith

/-- **No representable number below is jumped over.** -/
theorem le_significant (some : digits ≠ 0) (short : Representable digits y) (below : y ≤ x) :
    y ≤ mode.significant digits x := by
  have positive := unit_pos digits x
  obtain ⟨k, first, second⟩ := exists_multiple_of_ge some short below
  have ordered : k ≤ mode.integer (x / unit digits x) :=
    (Int.le_floor.2 ((le_div_iff₀ positive).2 second)).trans (floor_le_integer mode _)
  rw [significant_of_ne_zero some]
  exact first.trans (mul_le_mul_of_nonneg_right (by exact_mod_cast ordered) positive.le)

/-- **No representable number above is jumped over.** -/
theorem significant_le (some : digits ≠ 0) (short : Representable digits y) (above : x ≤ y) :
    mode.significant digits x ≤ y := by
  have positive := unit_pos digits x
  obtain ⟨k, first, second⟩ := exists_multiple_of_le some short above
  have ordered : mode.integer (x / unit digits x) ≤ k :=
    (integer_le_ceil mode _).trans (Int.ceil_le.2 ((div_le_iff₀ positive).2 first))
  rw [significant_of_ne_zero some]
  exact (mul_le_mul_of_nonneg_right (by exact_mod_cast ordered) positive.le).trans second

/-! ## What a mode asks for -/

/-- What a mode asks of the number `y` that `x` is rounded to: a side of `x`, or that no number with
so few digits is nearer. -/
def Admits (mode : RoundingMode) (digits : Nat) (x y : ℚ) : Prop :=
  match mode with
  | up => |x| ≤ |y|
  | down => |y| ≤ |x|
  | ceiling => x ≤ y
  | floor => y ≤ x
  | halfUp | halfDown | halfEven => ∀ z, Representable digits z → |y - x| ≤ |z - x|

/-- A mode that goes to the nearer neighbour goes to a nearest integer. -/
lemma abs_integer_sub_le (half : mode = halfUp ∨ mode = halfDown ∨ mode = halfEven) (x : ℚ)
    (k : Int) : |(mode.integer x : ℚ) - x| ≤ |(k : ℚ) - x| := by
  have upper : |(⌊x + 1 / 2⌋ : ℚ) - x| ≤ 1 / 2 := by
    rw [abs_le]
    constructor <;> linarith [Int.floor_le (x + 1 / 2), Int.lt_floor_add_one (x + 1 / 2)]
  have lower : |(⌈x - 1 / 2⌉ : ℚ) - x| ≤ 1 / 2 := by
    rw [abs_le]
    constructor <;> linarith [Int.le_ceil (x - 1 / 2), Int.ceil_lt_add_one (x - 1 / 2)]
  have near : |(mode.integer x : ℚ) - x| ≤ 1 / 2 := by
    rcases half with rfl | rfl | rfl <;> rw [integer] <;> split <;> assumption
  by_contra nearer
  rw [not_le] at nearer
  -- two integers less than one half from a number are the same
  have close : |((k - mode.integer x : Int) : ℚ)| < 1 := by
    have triangle := abs_sub_le (k : ℚ) x (mode.integer x)
    rw [abs_sub_comm x] at triangle
    push_cast
    linarith
  have same : k = mode.integer x := by
    rw [← sub_eq_zero, ← Int.abs_lt_one_iff]
    exact_mod_cast close
  rw [same] at nearer
  exact lt_irrefl _ nearer

/-- **A mode that goes to the nearer neighbour goes to a nearest representable number.** -/
lemma abs_significant_sub_le (half : mode = halfUp ∨ mode = halfDown ∨ mode = halfEven)
    (some : digits ≠ 0) (short : Representable digits y) :
    |mode.significant digits x - x| ≤ |y - x| := by
  have positive := unit_pos digits x
  obtain ⟨k, nearer⟩ : ∃ k : Int, |k * unit digits x - x| ≤ |y - x| := by
    rcases le_total x y with above | below
    · obtain ⟨k, first, second⟩ := exists_multiple_of_le some short above
      refine ⟨k, ?_⟩
      rw [abs_of_nonneg (by linarith), abs_of_nonneg (by linarith)]
      linarith
    · obtain ⟨k, first, second⟩ := exists_multiple_of_ge some short below
      refine ⟨k, ?_⟩
      rw [abs_of_nonpos (by linarith), abs_of_nonpos (by linarith)]
      linarith
  have scaled : ∀ n : Int, |n * unit digits x - x| = |n - x / unit digits x| * unit digits x := by
    intro n
    rw [← abs_of_pos positive, ← abs_mul, sub_mul, abs_of_pos positive,
      div_mul_cancel₀ _ positive.ne']
  refine le_trans ?_ nearer
  rw [significant_of_ne_zero some, scaled, scaled]
  exact mul_le_mul_of_nonneg_right (abs_integer_sub_le half _ k) positive.le

/-- Rounding up goes away from zero. -/
lemma abs_le_abs_integer_up (x : ℚ) : |x| ≤ |(up.integer x : ℚ)| := by
  rw [integer]
  split
  case isTrue negative =>
    have below := Int.floor_le x
    rw [abs_of_neg negative, abs_of_neg (below.trans_lt negative)]
    exact neg_le_neg below
  case isFalse nonneg =>
    rw [not_lt] at nonneg
    have above := Int.le_ceil x
    rwa [abs_of_nonneg nonneg, abs_of_nonneg (nonneg.trans above)]

/-- Rounding down goes toward zero. -/
lemma abs_integer_down_le (x : ℚ) : |(down.integer x : ℚ)| ≤ |x| := by
  rw [integer]
  split
  case isTrue negative =>
    have nonpos : (⌈x⌉ : ℚ) ≤ 0 := by exact_mod_cast Int.ceil_le.2 (by simpa using negative.le)
    rw [abs_of_neg negative, abs_of_nonpos nonpos]
    exact neg_le_neg (Int.le_ceil x)
  case isFalse nonneg =>
    rw [not_lt] at nonneg
    have nonneg' : (0 : ℚ) ≤ ⌊x⌋ := by exact_mod_cast Int.floor_nonneg.2 nonneg
    rw [abs_of_nonneg nonneg, abs_of_nonneg nonneg']
    exact Int.floor_le x

/-- **A rounded number is what the mode asks for.**

**Proof sketch.** A number and the rounded one are the same multiples of the unit as a number and
the integer that it is rounded to. -/
theorem admits_significant (mode : RoundingMode) (some : digits ≠ 0) (x : ℚ) :
    mode.Admits digits x (mode.significant digits x) := by
  have nearest (half : mode = halfUp ∨ mode = halfDown ∨ mode = halfEven) :
      ∀ z, Representable digits z → |mode.significant digits x - x| ≤ |z - x| :=
    fun z short => abs_significant_sub_le half some short
  obtain ⟨z, u, positive, whole, rounded⟩ : ∃ z u : ℚ, 0 < u ∧ x = z * u ∧
      mode.significant digits x = mode.integer z * u :=
    ⟨x / unit digits x, unit digits x, unit_pos digits x,
      (div_mul_cancel₀ _ (unit_pos digits x).ne').symm, significant_of_ne_zero some⟩
  cases mode with
  | up =>
    rw [Admits, rounded, whole, abs_mul, abs_mul]
    exact mul_le_mul_of_nonneg_right (abs_le_abs_integer_up z) (abs_nonneg u)
  | down =>
    rw [Admits, rounded, whole, abs_mul, abs_mul]
    exact mul_le_mul_of_nonneg_right (abs_integer_down_le z) (abs_nonneg u)
  | ceiling =>
    rw [Admits, rounded, whole]
    exact mul_le_mul_of_nonneg_right (Int.le_ceil z) positive.le
  | floor =>
    rw [Admits, rounded, whole]
    exact mul_le_mul_of_nonneg_right (Int.floor_le z) positive.le
  | halfUp => exact nearest (.inl rfl)
  | halfDown => exact nearest (.inr (.inl rfl))
  | halfEven => exact nearest (.inr (.inr rfl))

/-! ## The order -/

/-- **Rounding keeps the order.**

**Proof sketch.** Otherwise both numbers would lie between the two results, since neither result is
jumped over. So the larger number would be rounded down and the smaller one up. No mode with a
direction does this on one side of zero, and a mode that goes to the nearest number would only do it
if the larger number were the nearer one to the smaller result. -/
theorem toRat_roundTo_mono (mode : RoundingMode) (some : digits ≠ 0) {v w : Decimal}
    (ordered : v.toRat ≤ w.toRat) :
    (mode.roundTo digits v).toRat ≤ (mode.roundTo digits w).toRat := by
  have shortV := (roundTo_fits mode v some).representable
  have shortW := (roundTo_fits mode w some).representable
  rw [toRat_roundTo] at shortV shortW ⊢
  rw [toRat_roundTo]
  generalize v.toRat = x, w.toRat = y at *
  have asksX := admits_significant mode some x
  have asksY := admits_significant mode some y
  have zeroBelow := @le_significant mode digits y 0 some (representable_zero digits)
  have zeroAbove := @significant_le mode digits x 0 some (representable_zero digits)
  by_contra crossed
  rw [not_le] at crossed
  have down : mode.significant digits y < x := by
    by_contra above
    exact crossed.not_ge (significant_le some shortW (not_lt.1 above))
  have up : y < mode.significant digits x := by
    by_contra below
    exact crossed.not_ge (le_significant some shortV (not_lt.1 below))
  -- the smaller number is not nearer to the larger result than the larger number is
  have nearest (nearX : |mode.significant digits x - x| ≤ |mode.significant digits y - x|)
      (nearY : |mode.significant digits y - y| ≤ |mode.significant digits x - y|) : False := by
    rw [abs_of_pos (by linarith), abs_of_neg (by linarith)] at nearX
    rw [abs_of_neg (by linarith), abs_of_pos (by linarith)] at nearY
    obtain rfl : x = y := by linarith
    exact lt_irrefl _ crossed
  cases mode with
  | up =>
    rcases le_or_gt 0 y with nonneg | negative
    · rw [Admits, abs_of_nonneg nonneg, abs_of_nonneg (zeroBelow nonneg)] at asksY
      linarith
    · have nonpos := zeroAbove (by linarith)
      rw [Admits, abs_of_nonpos nonpos, abs_of_neg (by linarith)] at asksX
      linarith
  | down =>
    rcases le_or_gt 0 x with nonneg | negative
    · rw [Admits, abs_of_nonneg nonneg, abs_of_pos (by linarith)] at asksX
      linarith
    · have below : y < 0 := by
        by_contra nonneg
        linarith [zeroBelow (not_lt.1 nonneg)]
      rw [Admits, abs_of_neg below, abs_of_neg (by linarith)] at asksY
      linarith
  | ceiling => exact asksY.not_gt (down.trans_le ordered)
  | floor => exact asksX.not_gt (ordered.trans_lt up)
  | halfUp => exact nearest (asksX _ shortW) (asksY _ shortV)
  | halfDown => exact nearest (asksX _ shortW) (asksY _ shortV)
  | halfEven => exact nearest (asksX _ shortW) (asksY _ shortV)

end RoundingMode

/-! ## Contexts -/

namespace NumericContext

open Decimal

variable {context : NumericContext}

/-- Rounding to a context is a monotone projection onto the numbers with at most as many significant
digits as its precision, in the direction of its mode. -/
structure Projects (context : NumericContext) : Prop where
  /-- What has no more digits is kept with its scale. -/
  kept : ∀ d : Decimal, d.digits ≤ context.precision.toNat → context.round d = d
  /-- The results have at most so many significant digits. -/
  representable : ∀ d, Representable context.precision.toNat (context.round d).toRat
  /-- The order of two numbers is not reversed. -/
  monotone : ∀ v w : Decimal, v.toRat ≤ w.toRat → (context.round v).toRat ≤ (context.round w).toRat
  /-- What has been rounded is not changed again. -/
  idempotent : ∀ d, (context.round (context.round d)).toRat = (context.round d).toRat
  /-- No number with at most so many digits lies strictly between a number and its rounding. -/
  adjacent : ∀ (d : Decimal) (x : ℚ), Representable context.precision.toNat x →
    ¬ (d.toRat < x ∧ x < (context.round d).toRat) ∧ ¬ ((context.round d).toRat < x ∧ x < d.toRat)
  /-- The result lies on the side of the number that the mode names. -/
  side : ∀ d : Decimal,
    context.rounding.Admits context.precision.toNat d.toRat (context.round d).toRat

/-- A number that has so few digits is its own rounding. -/
lemma rounded_of_representable {x : ℚ} (short : Representable context.precision.toNat x) :
    context.rounded x = x := by
  obtain ⟨n, place, few, rfl⟩ := short
  exact RoundingMode.significant_of_mul place few

/-- **Rounding to a context is a monotone projection** onto the representable numbers, and it does
nothing without a precision. -/
theorem round_projects (context : NumericContext) :
    (context.precision = 0 → ∀ d, context.round d = d) ∧
      (context.precision ≠ 0 → context.Projects) := by
  constructor
  · intro unlimited d
    rw [round, unlimited]
    rfl
  · intro limited
    have some := toNat_precision_ne_zero limited
    have short : ∀ d, Representable context.precision.toNat (context.round d).toRat := fun d =>
      (RoundingMode.roundTo_fits context.rounding d some).representable
    refine ⟨fun d => RoundingMode.roundTo_of_le, short, fun v w => ?_, fun d => ?_,
      fun d x few => ?_, fun d => ?_⟩
    · exact RoundingMode.toRat_roundTo_mono context.rounding some
    · rw [toRat_round, rounded_of_representable (short d)]
    · rw [toRat_round]
      exact ⟨fun between => between.2.not_ge (RoundingMode.significant_le some few between.1.le),
        fun between => between.1.not_ge (RoundingMode.le_significant some few between.2.le)⟩
    · rw [toRat_round]
      exact RoundingMode.admits_significant context.rounding some d.toRat

/-- A digit that is carried makes a rounded number longer, though not more precise, so that it is
written shorter when it is rounded once more. A tie goes to the even neighbour. -/
theorem round_projects_carry :
    let context : NumericContext := ⟨2, .halfEven⟩
    context.Projects ∧ context.round ⟨995, 2⟩ = ⟨100, 1⟩ ∧ context.round ⟨100, 1⟩ = ⟨10, 0⟩ ∧
      context.round ⟨-125, 3⟩ = ⟨-12, 2⟩ ∧ (∀ d, unlimited.round d = d) :=
  ⟨(round_projects ⟨2, .halfEven⟩).2 (by decide), by decide +kernel, by decide +kernel,
    by decide +kernel, (round_projects unlimited).1 rfl⟩

end NumericContext

end Formula
