import Formula.Binding
import Formula.Proofs.Decimal.Notation
import Formula.Proofs.Decimal.Rational

set_option autoImplicit false

/-!
# Positional notation is canonical

The notation of a decimal shows the number and how many places it has, and nothing else. Two
decimals with the same number and the same places have the same notation, however they are stored:
the zeros of a negative scale belong to the integer. And there is only one notation for them, since
the integer has no superfluous zero in front.

The digits of a number are found among all digits by what they denote: two lists of digits without a
zero in front that denote the same number have the same length, and then the same digits.

## Main definitions

* `Formula.Decimal.IsWhole` — the digits of an integer.
* `Formula.Decimal.writtenOut` — a decimal with the zeros of a negative scale in its integer.

## Main results

* `Formula.Digits.ofNat_toNat` — digits without a zero in front are those of their number.
* `Formula.Decimal.isWhole_of_plainMagnitude` — the notation has no superfluous zero.
* `Formula.Decimal.plain_eq_iff` — which decimals have the same notation.
* `Formula.Decimal.plain_canonical` — all of it, with what the notation is read as.
-/

namespace Formula

namespace Digits

/-! ## The digits that denote a number -/

/-- Digits denote a number below the power of ten of their number. -/
lemma toNat_lt {digits : List Char} (all : ∀ c ∈ digits, c.isDigit = true) :
    toNat digits < 10 ^ digits.length := by
  induction digits with
  | nil => decide
  | cons c digits ih =>
    obtain ⟨isDigit, all⟩ := List.forall_mem_cons.1 all
    have zero : '0'.toNat = 48 := rfl
    have digit : c.toNat - '0'.toNat ≤ 9 := by
      rw [Unicode.isDigit_iff] at isDigit
      omega
    rw [toNat_cons, List.length_cons, pow_succ]
    calc (c.toNat - '0'.toNat) * 10 ^ digits.length + toNat digits
        < 9 * 10 ^ digits.length + 10 ^ digits.length :=
          Nat.add_lt_add_of_le_of_lt (Nat.mul_le_mul_right _ digit) (ih all)
      _ = 10 ^ digits.length * 10 := by ring

/-- A digit other than zero in front counts at least as much as its power of ten. -/
lemma pow_le_toNat {c : Char} (digits : List Char) (isDigit : c.isDigit = true)
    (nonzero : c ≠ '0') : 10 ^ digits.length ≤ toNat (c :: digits) := by
  have positive : 1 ≤ c.toNat - '0'.toNat := by
    have zero : '0'.toNat = 48 := rfl
    have notZero : c.toNat ≠ 48 := fun same => nonzero (Char.toNat_inj.1 same)
    rw [Unicode.isDigit_iff] at isDigit
    omega
  rw [toNat_cons]
  calc 10 ^ digits.length = 1 * 10 ^ digits.length := (Nat.one_mul _).symm
    _ ≤ (c.toNat - '0'.toNat) * 10 ^ digits.length := Nat.mul_le_mul_right _ positive
    _ ≤ _ := Nat.le_add_right _ _

/-- The first of some digits is the quotient by a power of ten, and the others are the
remainder. -/
lemma toNat_cons_div_mod (c : Char) {digits : List Char} (all : ∀ c ∈ digits, c.isDigit = true) :
    toNat (c :: digits) / 10 ^ digits.length = c.toNat - '0'.toNat ∧
      toNat (c :: digits) % 10 ^ digits.length = toNat digits := by
  rw [Nat.div_mod_unique (by positivity), toNat_cons]
  exact ⟨by ring, toNat_lt all⟩

/-- As many digits that denote the same number are the same digits. -/
lemma toNat_injective {digits others : List Char} (all : ∀ c ∈ digits, c.isDigit = true)
    (allOthers : ∀ c ∈ others, c.isDigit = true) (asMany : digits.length = others.length)
    (same : toNat digits = toNat others) : digits = others := by
  induction digits generalizing others with
  | nil => exact (List.length_eq_zero_iff.1 asMany.symm).symm
  | cons c digits ih =>
    obtain ⟨d, others, rfl⟩ := List.exists_cons_of_length_eq_add_one asMany.symm
    obtain ⟨isDigit, all⟩ := List.forall_mem_cons.1 all
    obtain ⟨isDigitToo, allOthers⟩ := List.forall_mem_cons.1 allOthers
    have asMany : digits.length = others.length := by simpa using asMany
    obtain ⟨quotient, remainder⟩ := toNat_cons_div_mod c all
    obtain ⟨quotientToo, remainderToo⟩ := toNat_cons_div_mod d allOthers
    rw [same, asMany] at quotient remainder
    have zero : '0'.toNat = 48 := rfl
    have first : c = d := by
      rw [Unicode.isDigit_iff] at isDigit isDigitToo
      exact Char.toNat_inj.1 (by omega)
    rw [first, ih all allOthers asMany (remainder.symm.trans remainderToo)]

/-- A number other than zero is not written with a zero in front. -/
lemma head?_ofNat {n : Nat} (nonzero : n ≠ 0) : (ofNat n).head? ≠ some '0' := by
  have value := toNat_ofNat n
  unfold ofNat at value ⊢
  split
  case h_1 empty =>
    rw [empty] at value
    exact absurd value.symm nonzero
  case h_2 digits kept =>
    intro zero
    have := List.head?_dropWhile_not (· == '0') (block (level n) n [])
    rw [zero] at this
    cases this

/-- **Digits without a zero in front are the digits of the number that they denote.** -/
theorem ofNat_toNat {digits : List Char} (nonempty : digits ≠ [])
    (all : ∀ c ∈ digits, c.isDigit = true) (noZero : digits.head? ≠ some '0') :
    ofNat (toNat digits) = digits := by
  have digitsOf : ∀ c ∈ ofNat (toNat digits), c.isDigit = true := fun c => isDigit_of_mem_ofNat
  have value := toNat_ofNat (toNat digits)
  refine toNat_injective digitsOf all ?_ value
  obtain ⟨first, more, rfl⟩ := List.exists_cons_of_ne_nil nonempty
  have reached := pow_le_toNat more (all first List.mem_cons_self) (by simpa using noZero)
  have positive : toNat (first :: more) ≠ 0 := by
    have : 0 < 10 ^ more.length := by positivity
    omega
  have noZeroToo := head?_ofNat positive
  have nonemptyToo := ofNat_ne_nil (toNat (first :: more))
  generalize ofNat (toNat (first :: more)) = written at *
  obtain ⟨firstToo, moreToo, rfl⟩ := List.exists_cons_of_ne_nil nonemptyToo
  have reachedToo := pow_le_toNat moreToo (digitsOf firstToo List.mem_cons_self)
    (by simpa using noZeroToo)
  have below := toNat_lt all
  have belowToo := toNat_lt digitsOf
  rw [value] at reachedToo belowToo
  -- neither length can be below the other, since the number would be too small for it
  have atMost := (Nat.pow_lt_pow_iff_right (by decide)).1 (reachedToo.trans_lt below)
  have atLeast := (Nat.pow_lt_pow_iff_right (by decide)).1 (reached.trans_lt belowToo)
  simp only [List.length_cons] at *
  omega

end Digits

namespace Decimal

variable {d e : Decimal} {magnitude : Nat} {scale : Int}

/-! ## The integer in front of the point -/

/-- The digits of an integer: at least one, and a zero in front only if it is all there is. -/
structure IsWhole (whole : List Char) : Prop where
  nonempty : whole ≠ []
  digits : ∀ c ∈ whole, c.isDigit = true
  noZero : whole.head? = some '0' → whole = ['0']

/-- A notation that begins with a zero ends there or goes on with the point. -/
lemma eq_point_of_plainMagnitude {rest : List Char}
    (starts : plainMagnitude magnitude scale = '0' :: rest) : ∀ c ∈ rest.head?, c = '.' := by
  have zeroOnly : (Digits.ofNat magnitude).head? = some '0' → magnitude = 0 :=
    not_imp_not.1 Digits.head?_ofNat
  have nonempty := Digits.ofNat_ne_nil magnitude
  simp only [plainMagnitude] at starts
  split at starts
  case isTrue noPlaces =>
    by_cases isZero : magnitude = 0
    · rw [if_pos isZero, isZero] at starts
      obtain ⟨-, rfl⟩ := List.cons.inj starts
      simp
    · rw [if_neg isZero] at starts
      have head : (Digits.ofNat magnitude).head? = some '0' := by
        rw [← List.head?_append_of_ne_nil _ nonempty, starts]
        rfl
      exact absurd (zeroOnly head) isZero
  case isFalse places =>
    generalize isDigits : Digits.ofNat magnitude = digits at *
    by_cases short : digits.length ≤ scale.toNat
    · -- one zero of the padding stands in front of the point
      obtain ⟨zeros, isZeros⟩ : ∃ zeros, scale.toNat + 1 - digits.length = zeros + 1 :=
        ⟨scale.toNat - digits.length, by omega⟩
      have front : (List.replicate (zeros + 1) '0' ++ digits).length - scale.toNat = 1 := by
        simp only [List.length_append, List.length_replicate]
        omega
      rw [isZeros, front, List.replicate_succ] at starts
      simp only [List.cons_append, List.take_succ_cons, List.take_zero, List.nil_append,
        List.cons.injEq, true_and] at starts
      simp [← starts]
    · -- the first digit stands in front of the point
      have noZeros : scale.toNat + 1 - digits.length = 0 := by omega
      obtain ⟨first, more, rfl⟩ := List.exists_cons_of_ne_nil nonempty
      obtain ⟨front, isFront⟩ : ∃ front, (first :: more).length - scale.toNat = front + 1 :=
        ⟨more.length - scale.toNat, by simp only [List.length_cons] at short ⊢; omega⟩
      rw [noZeros, List.replicate_zero, List.nil_append, isFront] at starts
      have isZero : magnitude = 0 := zeroOnly (congrArg some (List.cons.inj starts).1)
      have single : (first :: more).length = 1 := by rw [← isDigits, isZero]; rfl
      omega

/-- **The notation has no superfluous zero**: what stands in front of its point is an integer. -/
theorem isWhole_of_plainMagnitude {whole places : List Char}
    (shape : IsNotation magnitude scale whole places)
    (written : plainMagnitude magnitude scale = withPlaces whole places) : IsWhole whole := by
  obtain ⟨digits, -⟩ := List.forall_mem_append.1 shape.digits
  refine ⟨shape.nonempty, digits, fun zero => ?_⟩
  obtain ⟨more, rfl⟩ := List.head?_eq_some_iff.1 zero
  rcases more with _ | ⟨second, more⟩
  · rfl
  · have starts : plainMagnitude magnitude scale = '0' :: withPlaces (second :: more) places := by
      rw [written]
      cases places <;> rfl
    have isPoint : second = '.' := by
      refine eq_point_of_plainMagnitude starts second ?_
      cases places <;> rfl
    exact absurd (digits second (by simp)) (by rw [isPoint]; decide)

/-! ## The decimal that a notation stands for -/

/-- A decimal with the zeros of a negative scale in its integer: the notation has room for places
but not for missing ones. -/
def writtenOut (d : Decimal) : Decimal := d.extend (-d.scale).toNat

/-- Zeros that are written out do not change the number. -/
@[simp] lemma toRat_writtenOut (d : Decimal) : d.writtenOut.toRat = d.toRat :=
  toRat_extend d _

/-- A decimal that is written out has no negative scale. -/
@[simp] lemma scale_writtenOut (d : Decimal) : d.writtenOut.scale = max d.scale 0 := by
  show d.scale + (-d.scale).toNat = max d.scale 0
  omega

/-- Zeros that are written out do not change the sign. -/
@[simp] lemma isNegative_writtenOut (d : Decimal) : d.writtenOut.isNegative = d.isNegative := by
  rw [Bool.eq_iff_iff, isNegative_iff, isNegative_iff, toRat_writtenOut]

/-- Written out, decimals are the same if they have the same number and the same places. -/
lemma writtenOut_eq_iff :
    d.writtenOut = e.writtenOut ↔ d.toRat = e.toRat ∧ max d.scale 0 = max e.scale 0 := by
  constructor
  · intro same
    rw [← toRat_writtenOut d, ← toRat_writtenOut e, ← scale_writtenOut d, ← scale_writtenOut e,
      same]
    exact ⟨rfl, rfl⟩
  · rintro ⟨sameNumber, sameScale⟩
    rw [← toRat_writtenOut d, ← toRat_writtenOut e] at sameNumber
    rw [← scale_writtenOut d, ← scale_writtenOut e] at sameScale
    generalize d.writtenOut = a at *
    generalize e.writtenOut = b at *
    obtain ⟨m, scale⟩ := a
    obtain ⟨n, scaleToo⟩ := b
    obtain rfl : scale = scaleToo := sameScale
    rw [toRat_injective scale sameNumber]

/-- Zeros that are appended to the digits of an integer are appended to the integer. -/
lemma ofNat_mul_tenPow (nonzero : magnitude ≠ 0) (zeros : Nat) :
    Digits.ofNat (magnitude * 10 ^ zeros) =
      Digits.ofNat magnitude ++ List.replicate zeros '0' := by
  have value : Digits.toNat (Digits.ofNat magnitude ++ List.replicate zeros '0') =
      magnitude * 10 ^ zeros := by
    simp [Digits.toNat_append, Digits.toNat_ofNat]
  have nonempty := Digits.ofNat_ne_nil magnitude
  rw [← value]
  refine Digits.ofNat_toNat (List.append_ne_nil_of_left_ne_nil nonempty _) ?_ ?_
  · exact List.forall_mem_append.2
      ⟨fun c => Digits.isDigit_of_mem_ofNat, fun c => isDigit_of_mem_zeros⟩
  · rw [List.head?_append_of_ne_nil _ nonempty]
    exact Digits.head?_ofNat nonzero

/-- **Written out, a decimal has the same notation.** -/
theorem plain_writtenOut (d : Decimal) : d.writtenOut.plain = d.plain := by
  have magnitude : plainMagnitude d.writtenOut.unscaled.natAbs (max d.scale 0) =
      plainMagnitude d.unscaled.natAbs d.scale := by
    have integer : d.writtenOut.unscaled.natAbs = d.unscaled.natAbs * 10 ^ (-d.scale).toNat := by
      simp [writtenOut, extend, Int.natAbs_mul, Int.natAbs_pow]
    rw [integer]
    by_cases places : 0 < d.scale
    · have noZeros : (-d.scale).toNat = 0 := by omega
      rw [noZeros, pow_zero, Nat.mul_one, max_eq_left places.le]
    · rw [max_eq_right (not_lt.1 places)]
      by_cases isZero : d.unscaled.natAbs = 0
      · simp [plainMagnitude, isZero, not_lt.1 places]
      · have nonzero : d.unscaled.natAbs * 10 ^ (-d.scale).toNat ≠ 0 :=
          mul_ne_zero isZero (by positivity)
        simp only [plainMagnitude, le_refl, if_true, if_neg nonzero, if_neg isZero,
          if_pos (not_lt.1 places), ofNat_mul_tenPow isZero, neg_zero, Int.toNat_zero,
          List.replicate_zero, List.append_nil]
  rw [plain, plain, plainChars_eq, plainChars_eq, scale_writtenOut, isNegative_writtenOut,
    magnitude]

/-- The digits behind the sign are read as the integer of the decimal written out. -/
lemma IsNotation.integer?_withSign {whole places : List Char}
    (shape : IsNotation d.unscaled.natAbs d.scale whole places) :
    Numeral.integer? (withSign d.isNegative (whole ++ places)) =
      some (d.unscaled * 10 ^ (-d.scale).toNat) := by
  have nonempty := List.append_ne_nil_of_left_ne_nil shape.nonempty places
  rw [Numeral.integer?_withSign _ nonempty shape.digits, shape.signed_value]

/-- **Which decimals have the same notation**: those that are the same written out.

**Proof sketch.** The notation without its point is a sign and digits, and where the point was there
are so many places. The integer that the digits denote behind the sign is the one of the decimal
written out, and the number of places is its scale. -/
theorem plain_eq_iff : d.plain = e.plain ↔ d.writtenOut = e.writtenOut := by
  constructor
  · intro same
    obtain ⟨whole, places, shape, written⟩ := exists_isNotation d.unscaled.natAbs d.scale
    obtain ⟨wholeToo, placesToo, shapeToo, writtenToo⟩ :=
      exists_isNotation e.unscaled.natAbs e.scale
    have sameChars : withPlaces (withSign d.isNegative whole) places =
        withPlaces (withSign e.isNegative wholeToo) placesToo := by
      rw [← withSign_withPlaces, ← withSign_withPlaces, ← written, ← writtenToo, ← plainChars_eq,
        ← plainChars_eq]
      simpa [plain] using congrArg String.toList same
    have significands := congrArg Numeral.significand sameChars
    rw [Numeral.significand_withPlaces shape.digits, Numeral.significand_withPlaces shapeToo.digits,
      Prod.mk.injEq] at significands
    obtain ⟨sameDigits, samePlaces⟩ := significands
    have integers := congrArg Numeral.integer? sameDigits
    rw [shape.integer?_withSign, shapeToo.integer?_withSign, Option.some.injEq] at integers
    have count := shape.count
    have countToo := shapeToo.count
    have scales : d.scale + (-d.scale).toNat = e.scale + (-e.scale).toNat := by omega
    rw [writtenOut, writtenOut, extend, extend, integers, scales]
  · intro same
    rw [← plain_writtenOut d, ← plain_writtenOut e, same]

/-- A notation is not delimited, since it begins with a sign or a digit. -/
lemma isDelimited_plain (d : Decimal) : Delimited.isDelimited d.plain.toList = false := by
  obtain ⟨digit, more, isCons, isDigit⟩ :=
    (isDigits_plainMagnitude d.unscaled.natAbs d.scale).exists_cons
  have noDelimiter : digit ≠ Delimited.delimiter := by
    rintro rfl
    exact absurd isDigit (by decide)
  rw [plain, String.toList_ofList, plainChars_eq, isCons]
  cases d.isNegative
  · simp [Delimited.isDelimited, withSign, noDelimiter]
  · simp [Delimited.isDelimited, withSign, Delimited.delimiter]

/-- **Positional notation is canonical and loses nothing.** It is an integer without superfluous
zeros, behind a minus sign exactly if the number is below zero, with as many places behind a point
as the scale says. A binding reads it as a decimal with the same number and the same places, which
are counted in 64 bits. And two decimals have the same notation exactly if they have the same number
and the same places. -/
theorem plain_canonical (d : Decimal) :
    (∃ whole places, d.plain =
        String.ofList (withSign (decide (d.toRat < 0)) (withPlaces whole places)) ∧
      IsWhole whole ∧ (∀ c ∈ places, c.isDigit = true) ∧ places.length = max d.scale 0) ∧
    (Numeral.scaleFits (max d.scale 0) = true → ∃ e, Binding.ofString d.plain = .decimal e ∧
      e.toRat = d.toRat ∧ e.scale = max d.scale 0) ∧
    ∀ e : Decimal, d.plain = e.plain ↔ d.toRat = e.toRat ∧ max d.scale 0 = max e.scale 0 := by
  refine ⟨?_, ?_, ?_⟩
  · obtain ⟨whole, places, shape, written⟩ := exists_isNotation d.unscaled.natAbs d.scale
    have negative : decide (d.toRat < 0) = d.isNegative := by
      rw [Bool.eq_iff_iff, decide_eq_true_iff, isNegative_iff]
    refine ⟨whole, places, ?_, isWhole_of_plainMagnitude shape written, ?_, ?_⟩
    · rw [plain, plainChars_eq, written, negative]
    · exact (List.forall_mem_append.1 shape.digits).2
    · have count := shape.count
      omega
  · intro fits
    refine ⟨d.writtenOut, ?_, toRat_writtenOut d, scale_writtenOut d⟩
    rw [Binding.ofString, isDelimited_plain, ofNumeral?_plain fits]
    rfl
  · intro e
    rw [plain_eq_iff, writtenOut_eq_iff]

/-- Seven thousand has the same notation at the scales -3 and 0, and another one at the scale 2. The
notation of seven hundredths is padded, and read back with its sign. -/
theorem plain_canonical_thousands :
    Numeral.scaleFits (max (⟨-7, 2⟩ : Decimal).scale 0) = true ∧
      (⟨-7, 2⟩ : Decimal).plain = "-0.07" ∧
      (∃ e, Binding.ofString "-0.07" = .decimal e ∧ e.toRat = toRat ⟨-7, 2⟩ ∧ e.scale = 2) ∧
      (⟨7, -3⟩ : Decimal).plain = (⟨7000, 0⟩ : Decimal).plain ∧
      (⟨7, -3⟩ : Decimal).plain ≠ (⟨700000, 2⟩ : Decimal).plain := by
  have printed : (⟨-7, 2⟩ : Decimal).plain = "-0.07" := by decide
  have read := (plain_canonical ⟨-7, 2⟩).2.1 (by decide)
  rw [printed] at read
  refine ⟨by decide, printed, read, ?_, ?_⟩
  · refine ((plain_canonical ⟨7, -3⟩).2.2 ⟨7000, 0⟩).2 ⟨?_, by decide⟩
    norm_num [toRat]
  · intro same
    exact absurd (((plain_canonical ⟨7, -3⟩).2.2 ⟨700000, 2⟩).1 same).2 (by decide)

end Decimal

end Formula
