import Formula.Operator.Standard
import Formula.Proofs.Decimal.Significant

set_option autoImplicit false

/-!
# Repeated texts and the size of a text

A text is repeated as often as a number says that is whole, not negative and below `2 ^ 64`. How
large the text is has no part in that decision. So a number can be accepted although no text is as
large as what comes out, and then the product is not refused like any other operation that is not
possible: it breaks the run off. This happens exactly for the whole numbers below `2 ^ 64` at which
the content of the text takes up more bytes than a text can have. All other numbers give the text,
or a fault of arithmetic.

## Main definitions

* `Formula.Operator.Operands` — a text and a number, in either order.
* `Formula.Operator.KeepsToLimit` — no accepted number leads beyond the size of a text.

## Main results

* `Formula.Delimited.contentSize_repeatContent` — the size of a repeated text.
* `Formula.Operator.repetitions_cases` — which numbers say how often a text is repeated.
* `Formula.Operator.multiply_keepsToLimit_iff` — when the limit is kept, and what happens otherwise.
-/

namespace Formula

/-! ## Sizes -/

namespace Delimited

/-- A list of characters repeated takes up as many times the bytes. -/
lemma utf8ByteSize_replicate (text : List Char) (times : Nat) :
    (String.ofList (List.replicate times text).flatten).utf8ByteSize =
      (String.ofList text).utf8ByteSize * times := by
  induction times with
  | zero => rfl
  | succ times ih =>
    rw [List.replicate_succ, List.flatten_cons, String.ofList_append, String.utf8ByteSize_append,
      ih]
    ring

/-- **The size of a repeated text** is that of its content, as many times. -/
theorem contentSize_repeatContent (text : List Char) (times : Nat) :
    contentSize (repeatContent text times) = contentSize text * times := by
  rw [repeatContent, contentSize, contentSize]
  split
  case isTrue empty =>
    rw [content_enclose, List.isEmpty_iff.1 empty]
    exact (Nat.zero_mul times).symm
  case isFalse => rw [content_enclose, utf8ByteSize_replicate]

end Delimited

/-! ## Products of a text and a number -/

namespace Operator

open Delimited

variable {written : String} {count : Decimal} {context : NumericContext} {left right : Value}
  {times : Nat}

/-- **Which numbers say how often a text is repeated**: the whole numbers below `2 ^ 64` that are
not negative. Every other number is a fault of arithmetic. -/
theorem repetitions_cases (count : Decimal) :
    (∃ times : Nat, times < 2 ^ 64 ∧ count.toRat = times ∧ repetitions count = .ok times) ∨
      (∀ times : Nat, times < 2 ^ 64 → count.toRat ≠ times) ∧
        ∃ fault, repetitions count = .error fault ∧ fault.kind = .arithmetic := by
  rw [repetitions]
  by_cases whole : ∃ n : Int, count.toRat = n
  · obtain ⟨n, isWhole⟩ := whole
    have truncated : count.truncate = n := by
      rw [Decimal.truncate_eq, isWhole, RoundingMode.integer_intCast]
    rw [Decimal.isInteger_iff.2 ⟨n, isWhole⟩, truncated, isWhole]
    dsimp only
    split
    case isTrue impossible => cases impossible
    split
    case isTrue inRange =>
      obtain ⟨nonneg, small⟩ : 0 ≤ n ∧ n < (2 ^ 64 : Nat) := by simpa using inRange
      obtain ⟨times, rfl⟩ := Int.eq_ofNat_of_zero_le nonneg
      exact .inl ⟨times, by exact_mod_cast small, Int.cast_natCast times, rfl⟩
    case isFalse outside =>
      refine .inr ⟨?_, _, rfl, rfl⟩
      rintro times small same
      obtain rfl : n = times := by exact_mod_cast same
      have inRange : (0 ≤ (times : Int)) ∧ (times : Int) < (2 ^ 64 : Nat) :=
        ⟨Int.natCast_nonneg times, by exact_mod_cast small⟩
      exact outside (by simpa using inRange)
  · have fractional : count.isInteger = false :=
      eq_false_of_ne_true fun isInteger => whole (Decimal.isInteger_iff.1 isInteger)
    rw [fractional]
    exact .inr ⟨fun times _ same => whole ⟨times, by exact_mod_cast same⟩, _, rfl, rfl⟩

/-- A number is accepted as the whole number that it is. -/
lemma repetitions_eq_ok_iff :
    repetitions count = .ok times ↔ times < 2 ^ 64 ∧ count.toRat = times := by
  rcases repetitions_cases count with ⟨accepted, small, same, isOk⟩ | ⟨apart, fault, isError, -⟩
  · rw [isOk, same]
    constructor
    · intro equal
      obtain rfl := Except.ok.inj equal
      exact ⟨small, rfl⟩
    · rintro ⟨-, equal⟩
      rw [Nat.cast_injective equal]
  · rw [isError]
    exact ⟨nofun, fun equal => absurd equal.2 (apart times equal.1)⟩

/-- A text and a number as operands, in either order. -/
inductive Operands (written : String) (count : Decimal) : Value → Value → Prop where
  | textFirst : Operands written count (.text written) (.decimal count)
  | numberFirst : Operands written count (.decimal count) (.text written)

/-- The order of a text and a number makes no difference. -/
lemma Operands.multiply_eq (operands : Operands written count left right) :
    multiply left right context = repeated written count := by
  cases operands <;> rfl

/-- No accepted number leads beyond the size of a text: what it asks for fits and is what comes out,
and whoever asks for more meets a fault of arithmetic. -/
structure KeepsToLimit (written : String) (count : Decimal) (context : NumericContext) : Prop where
  /-- What an accepted number asks for fits. -/
  fits : ∀ times, repetitions count = .ok times →
    contentSize written.toList * times ≤ textSizeLimit
  /-- An accepted number gives the text whose content is repeated, and is as large as that. -/
  repeats : ∀ left right, Operands written count left right →
    ∀ times, repetitions count = .ok times →
      multiply left right context = .ok (writtenText (repeatContent written.toList times)) ∧
        contentSize (repeatContent written.toList times) = contentSize written.toList * times
  /-- More than fits is a fault of arithmetic. -/
  refuses : ∀ left right, Operands written count left right →
    (textSizeLimit : ℚ) < contentSize written.toList * count.toRat →
      ∃ fault, multiply left right context = .error fault ∧ fault.kind = .arithmetic

/-- An accepted number that asks for too much breaks the run off. -/
lemma repeated_of_large (accepted : repetitions count = .ok times)
    (large : textSizeLimit < contentSize written.toList * times) :
    repeated written count = .error .textTooLarge := by
  rw [repeated, accepted, Fault.ok_bind, if_pos large]
  rfl

/-- A number that is not accepted is a fault of arithmetic. -/
lemma repeated_of_error {fault : Fault} (refused : repetitions count = .error fault) :
    repeated written count = .error fault := by
  rw [repeated, refused, Fault.error_bind]

/-- The limit is kept where what an accepted number asks for fits. -/
lemma keepsToLimit_of_fits
    (fits : ∀ times, repetitions count = .ok times →
      contentSize written.toList * times ≤ textSizeLimit) :
    KeepsToLimit written count context where
  fits := fits
  repeats left right operands times accepted := by
    rw [operands.multiply_eq]
    exact ⟨repeated_eq_ok_iff.2 ⟨times, accepted, fits times accepted, rfl⟩,
      contentSize_repeatContent ..⟩
  refuses left right operands large := by
    rw [operands.multiply_eq]
    rcases repetitions_cases count with ⟨times, -, same, accepted⟩ | ⟨-, fault, refused, kind⟩
    · rw [same] at large
      exact absurd (fits times accepted) (not_le.2 (by exact_mod_cast large))
    · exact ⟨fault, repeated_of_error refused, kind⟩

/-- **When repeated texts keep to the size of a text**: exactly if a whole number below `2 ^ 64`
does not ask for more bytes than a text can have. Otherwise the product breaks the run off, in
either order of the operands. -/
theorem multiply_keepsToLimit_iff (written : String) (count : Decimal) (context : NumericContext) :
    (KeepsToLimit written count context ↔ ∀ times : Nat, times < 2 ^ 64 → count.toRat = times →
        contentSize written.toList * times ≤ textSizeLimit) ∧
      (¬ KeepsToLimit written count context → ∀ left right, Operands written count left right →
        multiply left right context = .error .textTooLarge) := by
  constructor
  · constructor
    · intro keeps times small same
      exact keeps.fits times (repetitions_eq_ok_iff.2 ⟨small, same⟩)
    · intro fits
      refine keepsToLimit_of_fits fun times accepted => ?_
      obtain ⟨small, same⟩ := repetitions_eq_ok_iff.1 accepted
      exact fits times small same
  · intro exceeds left right operands
    have large : ∃ times, repetitions count = .ok times ∧
        textSizeLimit < contentSize written.toList * times := by
      by_contra none
      refine exceeds (keepsToLimit_of_fits fun times accepted => ?_)
      exact not_lt.1 fun large => none ⟨times, accepted, large⟩
    obtain ⟨times, accepted, large⟩ := large
    rw [operands.multiply_eq, repeated_of_large accepted large]

/-- A text of one character is not repeated `2 ^ 63` times, nor is that refused as arithmetic: the
number is accepted, and the product breaks the run off. -/
theorem not_keepsToLimit_one_character :
    repetitions ⟨9223372036854775808, 0⟩ = .ok 9223372036854775808 ∧
      textSizeLimit < contentSize "'m'".toList * 9223372036854775808 ∧
      multiply (.text "'m'") (.decimal ⟨9223372036854775808, 0⟩) .decimal32 =
        .error .textTooLarge ∧
      ¬ KeepsToLimit "'m'" ⟨9223372036854775808, 0⟩ .decimal32 := by
  have accepted : repetitions ⟨9223372036854775808, 0⟩ = .ok 9223372036854775808 := by decide
  have large : textSizeLimit < contentSize "'m'".toList * 9223372036854775808 := by decide
  exact ⟨accepted, large, repeated_of_large accepted large,
    fun keeps => absurd (keeps.fits _ accepted) (not_le.2 large)⟩

end Operator

end Formula
