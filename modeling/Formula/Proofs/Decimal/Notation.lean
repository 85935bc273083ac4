import Formula.Decimal.Numeral
import Formula.Decimal.Positional
import Formula.Proofs.Decimal.Rounding
import Formula.Proofs.Token.Shape

set_option autoImplicit false

/-!
# Positional notation is read back

The notation of a decimal is a numeral: an optional minus sign, digits, and a point with the places
after it if there are any. Read as a numeral it denotes the same number. The scale is the same as
well, unless it is below zero, when the zeros that are written out belong to the integer.

## Main definitions

* `Formula.Decimal.withSign`, `withPlaces` — a minus sign in front, and places behind a point.
* `Formula.Decimal.IsNotation` — digits that write a magnitude at a scale.

## Main results

* `Formula.Decimal.exists_isNotation` — the digits of the notation.
* `Formula.Decimal.isDigits_plainMagnitude` — the notation without its sign is shaped like a
  numeral.
* `Formula.Decimal.ofNumeral?_plain` — the number that the notation denotes.
-/

namespace Formula

namespace Text

variable {isSeparator : Char → Bool}

/-- A text without separators is not cut. -/
lemma cut_of_forall {text : List Char} (none : ∀ c ∈ text, isSeparator c = false) :
    cut isSeparator text = (text, Option.none) := by
  have nothing : text.dropWhile (fun c => !isSeparator c) = [] :=
    List.dropWhile_eq_nil_iff.2 fun c member => by rw [none c member, Bool.not_false]
  rw [cut, nothing]

/-- A text is cut at its first separator. -/
lemma cut_append_cons {front back : List Char} {c : Char}
    (none : ∀ c ∈ front, isSeparator c = false) (separates : isSeparator c = true) :
    cut isSeparator (front ++ c :: back) = (front, some back) := by
  have goesOn : ∀ c ∈ front, (!isSeparator c) = true := fun c member => by
    rw [none c member, Bool.not_false]
  have stops : (!isSeparator c) = false := by rw [separates, Bool.not_true]
  rw [cut, List.dropWhile_append_of_pos goesOn, List.dropWhile_cons_of_neg (by simp [stops]),
    List.takeWhile_append_of_pos goesOn, List.takeWhile_cons_of_neg (by simp [stops]),
    List.append_nil]

end Text

namespace Decimal

/-! ## The notation -/

/-- A text with a minus sign in front, or as it is. -/
def withSign (negative : Bool) (text : List Char) : List Char :=
  if negative then '-' :: text else text

/-- A text with places behind a point, if there are any. -/
def withPlaces (whole : List Char) : List Char → List Char
  | [] => whole
  | place :: places => whole ++ '.' :: place :: places

/-- The sign stands in front of the whole digits. -/
lemma withSign_withPlaces (negative : Bool) (whole places : List Char) :
    withSign negative (withPlaces whole places) = withPlaces (withSign negative whole) places := by
  cases negative <;> cases places <;> rfl

/-- Digits in front of the point and behind it that write a magnitude at a scale. There are as many
places as the scale says, and a scale below zero appends zeros to the integer. -/
structure IsNotation (magnitude : Nat) (scale : Int) (whole places : List Char) : Prop where
  nonempty : whole ≠ []
  digits : ∀ c ∈ whole ++ places, c.isDigit = true
  count : places.length = scale.toNat
  value : Digits.toNat (whole ++ places) = magnitude * 10 ^ (-scale).toNat

/-- Zeros are digits. -/
lemma isDigit_of_mem_zeros {count : Nat} {c : Char} (member : c ∈ List.replicate count '0') :
    c.isDigit = true := by
  rw [List.eq_of_mem_replicate member]
  rfl

/-- With places, the digits are filled up with zeros in front and cut where the places begin. -/
lemma exists_isNotation_of_places (magnitude : Nat) {places : Nat} (some : 0 < places) :
    ∃ whole fraction, IsNotation magnitude places whole fraction ∧
      plainMagnitude magnitude places = withPlaces whole fraction := by
  rw [plainMagnitude, if_neg (not_le.2 (Int.natCast_pos.2 some))]
  dsimp only
  rw [Int.toNat_natCast]
  generalize isPadded : List.replicate (places + 1 - (Digits.ofNat magnitude).length) '0' ++
    Digits.ofNat magnitude = padded
  have long : places < padded.length := by
    rw [← isPadded, List.length_append, List.length_replicate]
    omega
  have length : (padded.drop (padded.length - places)).length = places := by
    rw [List.length_drop]
    omega
  have value : Digits.toNat padded = magnitude := by
    rw [← isPadded, Digits.toNat_append, Digits.toNat_replicate, Digits.toNat_ofNat, Nat.zero_mul,
      Nat.zero_add]
  refine ⟨padded.take (padded.length - places), padded.drop (padded.length - places),
    ⟨?_, ?_, length, ?_⟩, ?_⟩
  · rw [← List.length_pos_iff, List.length_take]
    omega
  · rw [List.take_append_drop, ← isPadded]
    exact List.forall_mem_append.2
      ⟨fun c => isDigit_of_mem_zeros, fun c => Digits.isDigit_of_mem_ofNat⟩
  · have noZeros : (-(places : Int)).toNat = 0 := by omega
    rw [List.take_append_drop, value, noZeros, pow_zero, Nat.mul_one]
  · obtain ⟨place, rest, isPlaces⟩ :
        ∃ place rest, padded.drop (padded.length - places) = place :: rest :=
      List.exists_cons_of_length_pos (length.symm ▸ some)
    rw [isPlaces]
    rfl

/-- Without places, zeros are appended to the digits of a number other than zero. -/
lemma exists_isNotation_of_integer (magnitude : Nat) {scale : Int} (noPlaces : scale ≤ 0) :
    ∃ whole fraction, IsNotation magnitude scale whole fraction ∧
      plainMagnitude magnitude scale = withPlaces whole fraction := by
  rw [plainMagnitude, if_pos noPlaces]
  have noPlace : ([] : List Char).length = scale.toNat := by
    rw [List.length_nil]
    omega
  split
  case isTrue isZero =>
    subst isZero
    refine ⟨Digits.ofNat 0, [], ⟨Digits.ofNat_ne_nil 0, ?_, noPlace, ?_⟩, rfl⟩
    · exact List.forall_mem_append.2 ⟨fun c => Digits.isDigit_of_mem_ofNat, by simp⟩
    · rw [List.append_nil, Digits.toNat_ofNat, Nat.zero_mul]
  case isFalse =>
    refine ⟨Digits.ofNat magnitude ++ List.replicate (-scale).toNat '0', [],
      ⟨?_, ?_, noPlace, ?_⟩, rfl⟩
    · exact List.append_ne_nil_of_left_ne_nil (Digits.ofNat_ne_nil magnitude) _
    · rw [List.append_nil]
      exact List.forall_mem_append.2
        ⟨fun c => Digits.isDigit_of_mem_ofNat, fun c => isDigit_of_mem_zeros⟩
    · rw [List.append_nil, Digits.toNat_append, Digits.toNat_replicate, Digits.toNat_ofNat,
        List.length_replicate, Nat.add_zero]

/-- **The digits of the notation.** -/
theorem exists_isNotation (magnitude : Nat) (scale : Int) :
    ∃ whole places, IsNotation magnitude scale whole places ∧
      plainMagnitude magnitude scale = withPlaces whole places := by
  rcases lt_or_ge 0 scale with positive | noPlaces
  · obtain ⟨places, rfl⟩ := Int.eq_ofNat_of_zero_le positive.le
    exact exists_isNotation_of_places magnitude (Int.natCast_pos.1 positive)
  · exact exists_isNotation_of_integer magnitude noPlaces

/-- **The notation without its sign is shaped like a numeral.** -/
theorem isDigits_plainMagnitude (magnitude : Nat) (scale : Int) :
    Token.IsDigits (plainMagnitude magnitude scale) := by
  obtain ⟨whole, places, ⟨nonempty, digits, -, -⟩, written⟩ := exists_isNotation magnitude scale
  rw [written]
  obtain ⟨first, more, rfl⟩ := List.exists_cons_of_ne_nil nonempty
  have numerals : ∀ c ∈ first :: more ++ places, Token.isNumeralChar c = true :=
    fun c member => Token.isNumeralChar_iff.2 (.inl (digits c member))
  have firstDigit : first.isDigit = true := digits first (by simp)
  cases places with
  | nil =>
    rw [List.append_nil] at numerals
    exact ⟨by simpa [withPlaces] using firstDigit, numerals⟩
  | cons place places =>
    obtain ⟨front, back⟩ := List.forall_mem_append.1 numerals
    exact ⟨by simpa [withPlaces] using firstDigit,
      List.forall_mem_append.2 ⟨front, List.forall_mem_cons.2 ⟨by decide, back⟩⟩⟩

/-- The plain notation is that of the magnitude with the sign in front of it. -/
lemma plainChars_eq (d : Decimal) :
    d.plainChars = withSign d.isNegative (plainMagnitude d.unscaled.natAbs d.scale) := rfl

end Decimal

/-! ## Reading it -/

namespace Numeral

open Decimal

variable {digits whole places : List Char}

/-- Digits alone are read as the number that they denote. -/
lemma unsigned?_of_isDigit (nonempty : digits ≠ []) (all : ∀ c ∈ digits, c.isDigit = true) :
    unsigned? digits = some (Digits.toNat digits) := by
  obtain ⟨first, more, rfl⟩ := List.exists_cons_of_ne_nil nonempty
  have noUnderscore : first ≠ '_' := by
    rintro rfl
    exact absurd (all '_' List.mem_cons_self) (by decide)
  have run : ((first :: more).all fun c => c.isDigit || c == '_') = true := by
    rw [List.all_eq_true]
    intro c member
    rw [all c member, Bool.true_or]
  have kept : (first :: more).filter Char.isDigit = first :: more := List.filter_eq_self.2 all
  unfold unsigned?
  split
  case h_1 empty => cases empty
  case h_2 rest split => exact absurd (List.cons.inj split).1 noUnderscore
  case h_3 => rw [if_pos run, kept]

/-- Digits have no sign in front of them. -/
lemma dropSign_of_isDigit {sign : Char} (isSign : sign.isDigit = false)
    (all : ∀ c ∈ digits, c.isDigit = true) : dropSign sign digits = digits := by
  cases digits with
  | nil => rfl
  | cons first more =>
    have noSign : first ≠ sign := by
      rintro rfl
      rw [all first List.mem_cons_self] at isSign
      cases isSign
    simp [dropSign, noSign]

/-- A minus sign in front of digits is a sign. -/
lemma dropSign_minus (all : ∀ c ∈ digits, c.isDigit = true) :
    dropSign '-' ('-' :: digits) = digits := by
  have noPlus : digits.head? ≠ some '+' := fun isPlus =>
    absurd (all '+' (List.mem_of_head? isPlus)) (by decide)
  simp [dropSign, noPlus]

/-- **Digits behind a sign are an integer.** -/
lemma integer?_withSign (negative : Bool) (nonempty : digits ≠ [])
    (all : ∀ c ∈ digits, c.isDigit = true) :
    integer? (withSign negative digits) =
      some (if negative then -(Digits.toNat digits : Int) else Digits.toNat digits) := by
  have value := unsigned?_of_isDigit nonempty all
  have noPlus : dropSign '+' digits = digits := dropSign_of_isDigit (by decide) all
  cases negative with
  | true =>
    rw [integer?, withSign, if_pos rfl, dropSign_minus all, noPlus, value]
    rfl
  | false =>
    have noMinus : dropSign '-' digits = digits := dropSign_of_isDigit (by decide) all
    have noSign : digits.head? ≠ some '-' := fun isMinus =>
      absurd (all '-' (List.mem_of_head? isMinus)) (by decide)
    rw [integer?, withSign, if_neg Bool.false_ne_true, noMinus, noPlus, value,
      if_neg (by simpa using noSign)]
    rfl

/-- In a number with a sign there are only digits and the minus sign. -/
lemma of_mem_withSign {negative : Bool} (all : ∀ c ∈ digits, c.isDigit = true) {c : Char}
    (member : c ∈ withSign negative digits) : c.isDigit = true ∨ c = '-' := by
  cases negative with
  | true =>
    rcases List.mem_cons.1 member with isMinus | member
    · exact .inr isMinus
    · exact .inl (all c member)
  | false => exact .inl (all c member)

/-- The characters of a notation are digits, the minus sign and the point. -/
lemma of_mem_withPlaces {negative : Bool} (all : ∀ c ∈ whole ++ places, c.isDigit = true) {c : Char}
    (member : c ∈ withPlaces (withSign negative whole) places) :
    (c.isDigit = true ∨ c = '-') ∨ c = '.' := by
  obtain ⟨allWhole, allPlaces⟩ := List.forall_mem_append.1 all
  cases places with
  | nil => exact .inl (of_mem_withSign allWhole member)
  | cons place places =>
    rcases List.mem_append.1 member with member | member
    · exact .inl (of_mem_withSign allWhole member)
    · rcases List.mem_cons.1 member with isPoint | member
      · exact .inr isPoint
      · exact .inl (.inl (allPlaces c member))

/-- **The digits on both sides of the point**, and how many places there are. -/
lemma significand_withPlaces {negative : Bool} (all : ∀ c ∈ whole ++ places, c.isDigit = true) :
    significand (withPlaces (withSign negative whole) places) =
      (withSign negative (whole ++ places), places.length) := by
  obtain ⟨allWhole, allPlaces⟩ := List.forall_mem_append.1 all
  have noPoint : ∀ c ∈ withSign negative whole, (c == '.') = false := by
    intro c member
    rw [beq_eq_false_iff_ne]
    rintro rfl
    exact absurd (of_mem_withSign allWhole member) (by decide)
  cases places with
  | nil =>
    rw [significand, withPlaces, Text.cut_of_forall noPoint, List.append_nil]
    rfl
  | cons place places =>
    have noUnderscore : (place :: places).filter (· != '_') = place :: places := by
      refine List.filter_eq_self.2 fun c member => ?_
      rw [bne_iff_ne]
      rintro rfl
      exact absurd (allPlaces '_' member) (by decide)
    have joined : withSign negative whole ++ place :: places =
        withSign negative (whole ++ place :: places) := by
      cases negative <;> rfl
    rw [significand, withPlaces, Text.cut_append_cons noPoint (by decide)]
    dsimp only
    rw [noUnderscore, joined]

/-- **Digits behind a sign, with places behind a point, are a decimal.** -/
theorem decimal?_withPlaces (negative : Bool) (nonempty : whole ≠ [])
    (all : ∀ c ∈ whole ++ places, c.isDigit = true) (fits : scaleFits places.length = true) :
    decimal? (withSign negative (withPlaces whole places)) =
      some ⟨if negative then -(Digits.toNat (whole ++ places) : Int)
        else Digits.toNat (whole ++ places), places.length⟩ := by
  have noExponent : Text.cut (fun c => c == 'e' || c == 'E')
      (withPlaces (withSign negative whole) places) =
        (withPlaces (withSign negative whole) places, none) := by
    refine Text.cut_of_forall fun c member => ?_
    rcases of_mem_withPlaces all member with (digit | rfl) | rfl
    · rw [Bool.or_eq_false_iff, beq_eq_false_iff_ne, beq_eq_false_iff_ne]
      constructor <;> rintro rfl <;> exact absurd digit (by decide)
    · rfl
    · rfl
  have value := integer?_withSign negative
    (List.append_ne_nil_of_left_ne_nil nonempty places) all
  rw [withSign_withPlaces, decimal?, noExponent]
  simp only [significand_withPlaces all, value, sub_zero, fits, if_true, Option.bind_eq_bind,
    Option.bind_some]

end Numeral

namespace Decimal

/-- Behind its sign, the digits of the notation denote the integer of the decimal, with the zeros
that are appended. -/
lemma IsNotation.signed_value {d : Decimal} {whole places : List Char}
    (written : IsNotation d.unscaled.natAbs d.scale whole places) :
    (if d.isNegative then -(Digits.toNat (whole ++ places) : Int)
      else Digits.toNat (whole ++ places)) = d.unscaled * 10 ^ (-d.scale).toNat := by
  have value : (Digits.toNat (whole ++ places) : Int) =
      d.unscaled.natAbs * 10 ^ (-d.scale).toNat := by
    rw [written.value, Nat.cast_mul, Nat.cast_pow]
    rfl
  rw [value, isNegative]
  split
  case isTrue negative =>
    have magnitude : (d.unscaled.natAbs : Int) = -d.unscaled := by
      have below := of_decide_eq_true negative
      omega
    rw [magnitude, neg_mul, neg_neg]
  case isFalse nonnegative =>
    have magnitude : (d.unscaled.natAbs : Int) = d.unscaled := by
      have atLeast := of_decide_eq_false (Bool.eq_false_iff.2 nonnegative)
      omega
    rw [magnitude]

/-- **The number that the notation denotes**: the same one, at the same scale unless that is below
zero. The places after the point are counted in 64 bits. -/
theorem ofNumeral?_plain {d : Decimal} (fits : Numeral.scaleFits (max d.scale 0) = true) :
    ofNumeral? d.plain = some (d.extend (-d.scale).toNat) := by
  obtain ⟨whole, places, shape, written⟩ := exists_isNotation d.unscaled.natAbs d.scale
  have count := shape.count
  have length : (places.length : Int) = max d.scale 0 := by omega
  have scale : max d.scale 0 = d.scale + (-d.scale).toNat := by omega
  rw [ofNumeral?, plain, String.toList_ofList, plainChars_eq, written,
    Numeral.decimal?_withPlaces _ shape.nonempty shape.digits (by rwa [length]),
    shape.signed_value, length, scale]
  rfl

end Decimal

end Formula
