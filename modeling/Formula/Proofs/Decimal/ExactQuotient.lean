import Formula.Proofs.Decimal.Notation
import Formula.Proofs.Decimal.Quotient

set_option autoImplicit false

/-!
# Quotients that come out even

A quotient that can be written with the digits of a division is not rounded, and neither more nor
fewer places are written than its operands call for. There are as many places as the dividend has
more than the divisor, since zeros that were written are not lost, and more of them only if the
quotient cannot be written with fewer.

The integer division starts from a scale that depends on the lengths of the two integers. It comes
out even there, since a short quotient has its last digit within the zeros that are appended. Then
trailing zeros are stripped, and this stops just at the scale above.

## Main definitions

* `Formula.Decimal.WrittenAt` — a number can be written at a scale.
* `Formula.Decimal.IsQuotientScale` — the scale that the operands of a quotient call for.

## Main results

* `Formula.NumericContext.le_quotientShift` — enough zeros are appended to the dividend.
* `Formula.NumericContext.quotientDigits_of_even` — where stripping zeros stops.
* `Formula.NumericContext.exactQuotient_of_even` — the integer and the scale of a quotient.
* `Formula.Operator.divide_keeps_scale` — the same of a division and of what it prints.
-/

namespace Formula

/-! ## Scales at which a number can be written -/

namespace Decimal

variable {a b : Decimal} {x : ℚ} {unscaled scale : Int}

/-- A number can be written at a scale: it is an integer multiple of the unit of the last place. -/
def WrittenAt (x : ℚ) (scale : Int) : Prop := ∃ unscaled : Int, x = toRat ⟨unscaled, scale⟩

/-- The scale that the operands of a quotient call for: the difference of their scales, or the least
scale at which the quotient can be written, whichever is larger. Zero can be written at every scale,
and as a quotient it is not written at a scale below 0. -/
def IsQuotientScale (a b : Decimal) (scale : Int) : Prop :=
  (a.toRat = 0 ∧ scale = max (a.scale - b.scale) 0) ∨
    ∃ least, IsLeast {scale | WrittenAt (a.toRat / b.toRat) scale} least ∧
      scale = max (a.scale - b.scale) least

/-- There is no least scale at which zero can be written. -/
lemma not_isLeast_of_zero : ¬ IsLeast {scale | WrittenAt 0 scale} scale := by
  intro least
  have below : WrittenAt 0 (scale - 1) := ⟨0, by rw [toRat_mk, Int.cast_zero, zero_mul]⟩
  have := least.2 below
  omega

/-- At the least scale a number has no zero at its end. -/
lemma isLeast_iff (written : x = toRat ⟨unscaled, scale⟩) :
    IsLeast {scale | WrittenAt x scale} scale ↔ ¬ 10 ∣ unscaled.natAbs := by
  constructor
  · intro least divides
    obtain ⟨rest, rfl⟩ : (10 : Int) ∣ unscaled := Int.natCast_dvd.2 divides
    have below : WrittenAt x (scale - 1) := by
      refine ⟨rest, ?_⟩
      have appended := toRat_appended rest (scale - 1) 1
      rw [pow_one, Nat.cast_one, sub_add_cancel, mul_comm] at appended
      rw [written, appended]
    have := least.2 below
    omega
  · intro last
    refine ⟨⟨unscaled, written⟩, ?_⟩
    rintro other ⟨integer, writtenToo⟩
    refine not_lt.1 fun smaller => last ?_
    obtain ⟨more, rfl⟩ := Int.lt.dest smaller
    have same : integer * 10 ^ (more + 1) = unscaled := by
      refine toRat_injective (other + (more + 1 : Nat)) ?_
      rw [toRat_appended, ← writtenToo, written]
    refine Int.natCast_dvd.1 ⟨integer * 10 ^ more, ?_⟩
    rw [← same]
    push_cast
    ring

/-- A quotient as an equation of integers, at a scale that exceeds the difference of the scales by
some zeros. -/
lemma mul_tenPow_eq_of_div (nonzero : b.toRat ≠ 0) {zeros : Nat}
    (even : a.toRat / b.toRat = toRat ⟨unscaled, a.scale - b.scale + zeros⟩) :
    a.unscaled * 10 ^ zeros = unscaled * b.unscaled := by
  refine toRat_injective (a.scale + zeros) ?_
  calc toRat ⟨a.unscaled * 10 ^ zeros, a.scale + zeros⟩
      = a.toRat := toRat_appended a.unscaled a.scale zeros
    _ = toRat ⟨unscaled, a.scale - b.scale + zeros⟩ * b.toRat := by
      rw [← even, div_mul_cancel₀ _ nonzero]
    _ = toRat ⟨unscaled * b.unscaled, a.scale - b.scale + zeros + b.scale⟩ :=
      (toRat_product ⟨unscaled, a.scale - b.scale + zeros⟩ b).symm
    _ = toRat ⟨unscaled * b.unscaled, a.scale + zeros⟩ := by
      congr 2
      ring

end Decimal

/-! ## The digits of an even quotient -/

namespace NumericContext

open Decimal

variable {context : NumericContext} {a b : Decimal} {unscaled scale : Int}

/-- **Enough zeros are appended to the dividend** for a quotient that has no more digits than a
division keeps. -/
lemma le_quotientShift (nonzero : a.unscaled ≠ 0) {zeros : Nat}
    (even : a.unscaled * 10 ^ zeros = unscaled * b.unscaled)
    (short : Digits.count unscaled.natAbs ≤ context.divisionDigits) :
    zeros ≤ context.quotientShift a b := by
  have magnitudes : a.unscaled.natAbs * 10 ^ zeros = unscaled.natAbs * b.unscaled.natAbs := by
    have := congrArg Int.natAbs even
    rwa [Int.natAbs_mul, Int.natAbs_pow, Int.natAbs_mul] at this
  have quotient : unscaled.natAbs < 10 ^ context.divisionDigits :=
    (Digits.count_le_iff context.divisionDigits_ne_zero).1 short
  have dividend : 10 ^ a.digits ≤ 10 * a.unscaled.natAbs :=
    Digits.pow_count_le (Int.natAbs_ne_zero.2 nonzero)
  have divisor : b.unscaled.natAbs < 10 ^ b.digits := Digits.lt_pow_count _
  have powers : 10 ^ (a.digits + zeros) < 10 ^ (context.divisionDigits + b.digits + 1) := by
    calc 10 ^ (a.digits + zeros)
        = 10 ^ a.digits * 10 ^ zeros := pow_add 10 _ _
      _ ≤ 10 * a.unscaled.natAbs * 10 ^ zeros := by gcongr
      _ = 10 * (unscaled.natAbs * b.unscaled.natAbs) := by rw [Nat.mul_assoc, magnitudes]
      _ < 10 * (10 ^ context.divisionDigits * 10 ^ b.digits) := by gcongr
      _ = 10 ^ (context.divisionDigits + b.digits + 1) := by ring
  have lengths := (Nat.pow_lt_pow_iff_right (by decide)).1 powers
  rw [quotientShift]
  omega

/-- **Stripping zeros stops** at the preferred scale or at the last digit that is not zero. -/
lemma quotientDigits_of_even {divisor preferred : Int} {zeros : Nat} (hq : unscaled ≠ 0)
    (hd : divisor ≠ 0) (atMost : preferred ≤ scale - zeros)
    (last : scale - zeros ≤ preferred ∨ ¬ 10 ∣ unscaled.natAbs) :
    quotientDigits (unscaled * 10 ^ zeros * divisor) divisor scale preferred =
      ⟨unscaled, scale - zeros⟩ := by
  have magnitude : (unscaled * 10 ^ zeros * divisor).natAbs =
      unscaled.natAbs * 10 ^ zeros * divisor.natAbs := by
    rw [Int.natAbs_mul, Int.natAbs_mul, Int.natAbs_pow]
    rfl
  have sign : (unscaled * 10 ^ zeros * divisor).sign * divisor.sign = unscaled.sign := by
    have positive : (0 : Int) < 10 ^ zeros := by positivity
    rw [Int.sign_mul, Int.sign_mul, Int.sign_eq_one_of_pos positive, mul_one, mul_assoc,
      ← Int.sign_mul, Int.sign_eq_one_of_pos (mul_self_pos.2 hd), mul_one]
  have stripped : Digits.stripZeros (scale - preferred).toNat (unscaled.natAbs * 10 ^ zeros) =
      (unscaled.natAbs, zeros) := by
    refine Digits.stripZeros_of_limit (Int.natAbs_ne_zero.2 hq) (by omega) ?_
    exact last.imp_left fun reached => by omega
  rw [quotientDigits, magnitude, if_pos (Nat.mul_mod_left ..)]
  dsimp only
  rw [Nat.mul_div_cancel _ (Int.natAbs_pos.2 hd), stripped, sign, Int.sign_mul_natAbs]

/-- **A quotient that can be written with the digits of a division** has the scale that its operands
call for, and the integer that it has there.

**Proof sketch.** The scale exceeds the difference of the scales by some zeros, and by no more than
are appended to the dividend. So the division comes out even, with the other zeros that are appended
at its end. These are stripped. No more are, since either the preferred scale is reached then or the
integer does not end with a zero at the least scale. -/
theorem exactQuotient_of_even (nonzero : b.toRat ≠ 0) (fits : context.ShiftFits a b)
    (calledFor : IsQuotientScale a b scale) (even : a.toRat / b.toRat = toRat ⟨unscaled, scale⟩)
    (short : Digits.count unscaled.natAbs ≤ context.divisionDigits) :
    context.exactQuotient a b = ⟨unscaled, scale⟩ := by
  rw [exactQuotient]
  split
  case isTrue isZero =>
    rw [isZero_iff.1 isZero, zero_div, eq_comm, toRat_eq_zero_iff] at even
    obtain rfl : unscaled = 0 := even
    rcases calledFor with ⟨-, rfl⟩ | ⟨least, isLeast, -⟩
    · rfl
    · rw [isZero_iff.1 isZero, zero_div] at isLeast
      exact absurd isLeast not_isLeast_of_zero
  case isFalse isNonzero =>
    have ha : a.unscaled ≠ 0 := by simpa [Decimal.isZero] using isNonzero
    have hb : b.unscaled ≠ 0 := toRat_ne_zero_iff.1 nonzero
    have dividend : a.toRat ≠ 0 := toRat_ne_zero_iff.2 ha
    obtain ⟨least, isLeast, larger⟩ := calledFor.resolve_left fun zero => dividend zero.1
    obtain ⟨zeros, rfl⟩ : ∃ zeros : Nat, a.scale - b.scale + zeros = scale :=
      Int.le.dest (larger ▸ le_max_left ..)
    have equation := mul_tenPow_eq_of_div nonzero even
    obtain ⟨more, enough⟩ := Nat.exists_eq_add_of_le (le_quotientShift ha equation short)
    have hq : unscaled ≠ 0 := by
      rintro rfl
      rw [zero_mul] at equation
      exact mul_ne_zero ha (by positivity) equation
    have shifted : a.unscaled * 10 ^ context.quotientShift a b =
        unscaled * 10 ^ more * b.unscaled := by
      rw [enough, pow_add, ← mul_assoc, equation]
      ring
    have last : zeros = 0 ∨ ¬ 10 ∣ unscaled.natAbs := by
      rcases Nat.eq_zero_or_pos zeros with none | some
      · exact .inl none
      · -- the least scale is the larger one
        have isScale : a.scale - b.scale + zeros = least := by omega
        exact .inr ((isLeast_iff even).1 (isScale ▸ isLeast))
    rw [unroundedQuotient, shiftFactor_eq (fits dividend nonzero)]
    push_cast
    rw [shifted, quotientDigits_of_even hq hb (by omega)
      (last.imp_left fun none => by omega), RoundingMode.roundTo_of_le short]
    congr 1
    omega

end NumericContext

/-! ## Divisions -/

namespace Operator

open Decimal

/-- **An exact quotient keeps the scale of its operands, if the scales of the division fit.** When a
quotient can be written at the scale that the operands call for, with no more digits than a division
keeps, then a division gives just the integer and the scale with which it is written there. It is
printed with as many places as the scale says: none is filled up with a zero, and no zero that the
operands call for is lost. If a scale that the division computes is no 64-bit integer, then the run
breaks off. -/
theorem divide_keeps_scale (context : NumericContext) {a b : Decimal} (nonzero : b.toRat ≠ 0)
    (fits : context.ShiftFits a b) {unscaled scale : Int}
    (calledFor : IsQuotientScale a b scale)
    (even : a.toRat / b.toRat = unscaled * (10 : ℚ) ^ (-scale))
    (short : Digits.count unscaled.natAbs ≤ context.divisionDigits) :
    (context.ScalesFit a b →
      divide (.decimal a) (.decimal b) context = .ok (.decimal ⟨unscaled, scale⟩)) ∧
      (¬ context.ScalesFit a b →
        divide (.decimal a) (.decimal b) context = .error .scaleOverflow) ∧
      ∃ whole places,
        (Value.decimal ⟨unscaled, scale⟩).display =
            String.ofList (withSign (unscaled < 0) (withPlaces whole places)) ∧
          IsNotation unscaled.natAbs scale whole places := by
  refine ⟨fun stored => ?_, divide_of_not_scalesFit nonzero, ?_⟩
  · rw [divide_of_scalesFit nonzero stored,
      NumericContext.exactQuotient_of_even nonzero fits calledFor even short]
  · obtain ⟨whole, places, digits, written⟩ := exists_isNotation unscaled.natAbs scale
    exact ⟨whole, places, congrArg (fun text => String.ofList (withSign _ text)) written, digits⟩

/-- A zero that the scales of the operands call for is written: `-6.00 / 1.2` is `-5.0`. -/
theorem divide_keeps_scale_zero :
    (⟨12, 1⟩ : Decimal).toRat ≠ 0 ∧ NumericContext.decimal32.ShiftFits ⟨-600, 2⟩ ⟨12, 1⟩ ∧
      NumericContext.decimal32.ScalesFit ⟨-600, 2⟩ ⟨12, 1⟩ ∧
      IsQuotientScale ⟨-600, 2⟩ ⟨12, 1⟩ 1 ∧
        divide (.decimal ⟨-600, 2⟩) (.decimal ⟨12, 1⟩) .decimal32 = .ok (.decimal ⟨-50, 1⟩) := by
  have nonzero : (⟨12, 1⟩ : Decimal).toRat ≠ 0 := toRat_ne_zero_iff.2 (by decide)
  have fits : NumericContext.decimal32.ShiftFits ⟨-600, 2⟩ ⟨12, 1⟩ := fun _ _ => by decide
  have stored : NumericContext.decimal32.ScalesFit ⟨-600, 2⟩ ⟨12, 1⟩ :=
    NumericContext.scalesFit_of_small (by decide) (by decide) (by decide) (by decide)
  have shortest : (⟨-600, 2⟩ : Decimal).toRat / (⟨12, 1⟩ : Decimal).toRat = toRat ⟨-5, 0⟩ := by
    norm_num [toRat]
  have calledFor : IsQuotientScale ⟨-600, 2⟩ ⟨12, 1⟩ 1 :=
    .inr ⟨0, (isLeast_iff shortest).2 (by decide), by decide⟩
  exact ⟨nonzero, fits, stored, calledFor, (divide_keeps_scale .decimal32 nonzero fits calledFor
    (by norm_num [toRat]) (by decide)).1 stored⟩

/-- A quotient that needs more places has as many as it needs. -/
example : divide (.decimal ⟨30, 2⟩) (.decimal ⟨8, 1⟩) .decimal32 = .ok (.decimal ⟨375, 3⟩) := by
  decide

/-- Half of an even number of seven digits at the largest scale is not written at that scale, nor at
any other, although it has no more digits than are kept and the scale could be stored. -/
theorem divide_loses_largest_scale :
    (⟨2, 0⟩ : Decimal).toRat ≠ 0 ∧
      NumericContext.decimal32.ShiftFits ⟨2000002, 9223372036854775807⟩ ⟨2, 0⟩ ∧
      IsQuotientScale ⟨2000002, 9223372036854775807⟩ ⟨2, 0⟩ 9223372036854775807 ∧
      (⟨2000002, 9223372036854775807⟩ : Decimal).toRat / (⟨2, 0⟩ : Decimal).toRat =
        (1000001 : Int) * (10 : ℚ) ^ (-9223372036854775807 : Int) ∧
      Digits.count (1000001 : Int).natAbs ≤ NumericContext.decimal32.divisionDigits ∧
      (⟨1000001, 9223372036854775807⟩ : Decimal).ScaleFits ∧
      divide (.decimal ⟨2000002, 9223372036854775807⟩) (.decimal ⟨2, 0⟩) .decimal32 =
        .error .scaleOverflow := by
  have nonzero : (⟨2, 0⟩ : Decimal).toRat ≠ 0 := toRat_ne_zero_iff.2 (by decide)
  have even : ∀ scale : Int, (⟨2000002, scale⟩ : Decimal).toRat / (⟨2, 0⟩ : Decimal).toRat =
      toRat ⟨1000001, scale⟩ := by
    intro scale
    rw [div_eq_iff nonzero, toRat_mk, toRat_mk, toRat_mk]
    push_cast
    ring
  have calledFor : IsQuotientScale ⟨2000002, 9223372036854775807⟩ ⟨2, 0⟩ 9223372036854775807 :=
    .inr ⟨9223372036854775807, (isLeast_iff (even _)).2 (by decide), by decide⟩
  exact ⟨nonzero, fun _ _ => by decide, calledFor, even _, by decide, by decide, by decide⟩

end Operator

end Formula
