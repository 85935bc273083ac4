import Formula.Decimal.Digits
import Mathlib.Data.Nat.Log
import Mathlib.Tactic.IntervalCases
import Mathlib.Tactic.Ring

set_option autoImplicit false

/-!
# Digits of natural numbers

Digits are written, counted and stripped by halves of a block. Here the results are stated without
the blocks: the digits of a number denote it, their number is one more than the integer logarithm,
and stripping takes off as many zeros as there are, up to a limit.

## Main results

* `Formula.Digits.lt_tenPow_level` — a block of its level holds the digits of a number.
* `Formula.Digits.toNat_ofNat` — the digits of a number denote it.
* `Formula.Digits.count_eq`, `count_le_iff`, `lt_pow_count`, `pow_count_le` — the number of digits.
* `Formula.Digits.stripWithin_spec` — what stripping takes off.
* `Formula.Digits.stripZeros_of_limit`, `stripZeros_eq` — a number without its trailing zeros, up to
  a limit or all of them.
-/

namespace Formula

/-- The power of ten in the usual notation. -/
lemma tenPow_eq (k : Nat) : tenPow k = 10 ^ k := rfl

namespace Digits

/-- The number of digits of a block in the usual notation. -/
lemma width_eq (k : Nat) : width k = 2 ^ k := rfl

/-- A block consists of two blocks of the level below. -/
lemma width_succ (k : Nat) : width (k + 1) = width k + width k := by
  rw [width_eq, width_eq, pow_succ]
  ring

/-- What a block can hold, from its two halves. -/
lemma pow_width_succ (k : Nat) : 10 ^ width (k + 1) = 10 ^ width k * 10 ^ width k := by
  rw [width_succ, pow_add]

/-- **A block of its level holds the digits of a number.** -/
theorem lt_tenPow_level (n : Nat) : n < 10 ^ width (level n) := by
  have wide : n.log2 / 3 + 1 < 2 ^ level n := Nat.lt_log2_self
  calc n < 2 ^ (n.log2 + 1) := Nat.lt_log2_self
    _ ≤ 2 ^ (3 * width (level n)) := Nat.pow_le_pow_right (by decide) (by rw [width_eq]; omega)
    _ = 8 ^ width (level n) := pow_mul 2 3 _
    _ ≤ 10 ^ width (level n) := Nat.pow_le_pow_left (by decide) _

/-! ## The number that digits denote -/

/-- Reading digits after a number shifts this number by so many digits. -/
lemma foldl_toNat (digits : List Char) (start : Nat) :
    digits.foldl (fun n c => 10 * n + (c.toNat - '0'.toNat)) start =
      start * 10 ^ digits.length + toNat digits := by
  induction digits generalizing start with
  | nil => simp [toNat]
  | cons c digits ih =>
    rw [toNat, List.foldl_cons, List.foldl_cons, ih, ih (10 * 0 + _), List.length_cons, pow_succ]
    ring

/-- Digits in front count by the power of ten of the digits behind them. -/
lemma toNat_append (front back : List Char) :
    toNat (front ++ back) = toNat front * 10 ^ back.length + toNat back := by
  rw [toNat, List.foldl_append, foldl_toNat, ← toNat]

/-- The first digit counts by the power of ten of the digits behind it. -/
lemma toNat_cons (c : Char) (digits : List Char) :
    toNat (c :: digits) = (c.toNat - '0'.toNat) * 10 ^ digits.length + toNat digits := by
  rw [← List.singleton_append, toNat_append]
  simp [toNat]

/-- Zeros denote zero. -/
@[simp] lemma toNat_replicate (count : Nat) : toNat (List.replicate count '0') = 0 := by
  induction count with
  | zero => rfl
  | succ count ih => rw [List.replicate_succ, toNat_cons, ih, Nat.sub_self, Nat.zero_mul]

/-- Zeros in front do not count. -/
lemma toNat_dropWhile (digits : List Char) :
    toNat (digits.dropWhile (· == '0')) = toNat digits := by
  induction digits with
  | nil => rfl
  | cons c digits ih =>
    rw [List.dropWhile_cons]
    split
    case isTrue zero =>
      rw [ih, toNat_cons, beq_iff_eq.1 zero, Nat.sub_self, Nat.zero_mul, Nat.zero_add]
    case isFalse => rfl

/-! ## Writing a number -/

/-- The character of a digit is read as this digit. -/
lemma digitChar_of_lt {n : Nat} (small : n < 10) :
    (Nat.digitChar n).isDigit = true ∧ (Nat.digitChar n).toNat - '0'.toNat = n := by
  interval_cases n <;> decide

/-- A block is written in front of what is there. -/
lemma block_eq (k n : Nat) (tail : List Char) : block k n tail = block k n [] ++ tail := by
  induction k generalizing n tail with
  | zero => rfl
  | succ k ih =>
    rw [block, block, ih (n / _) (block k _ tail), ih (n % _) tail, ih (n / _) (block k _ []),
      List.append_assoc]

/-- A block is written as its two halves. -/
lemma block_succ (k n : Nat) :
    block (k + 1) n [] = block k (n / 10 ^ width k) [] ++ block k (n % 10 ^ width k) [] := by
  rw [block, block_eq]
  rfl

/-- A block has all its digits, leading zeros included. -/
lemma length_block (k n : Nat) : (block k n []).length = width k := by
  induction k generalizing n with
  | zero => rfl
  | succ k ih => rw [block_succ, List.length_append, ih, ih, width_succ]

/-- **A block holds the last digits of a number.** -/
lemma toNat_block (k n : Nat) : toNat (block k n []) = n % 10 ^ width k := by
  induction k generalizing n with
  | zero =>
    have digit := (digitChar_of_lt (Nat.mod_lt n (by decide : 0 < 10))).2
    rw [block, toNat_cons, digit]
    simp [toNat, width_eq]
  | succ k ih =>
    rw [block_succ, toNat_append, ih, ih, length_block, Nat.mod_mod, pow_width_succ, Nat.mod_mul]
    ring

/-- A block consists of digits. -/
lemma isDigit_of_mem_block {k n : Nat} {c : Char} (member : c ∈ block k n []) :
    c.isDigit = true := by
  induction k generalizing n with
  | zero =>
    obtain rfl := List.mem_singleton.1 member
    exact (digitChar_of_lt (Nat.mod_lt n (by decide))).1
  | succ k ih =>
    rw [block_succ, List.mem_append] at member
    exact member.elim ih ih

/-- **The digits of a number denote it.** -/
theorem toNat_ofNat (n : Nat) : toNat (ofNat n) = n := by
  have value : toNat ((block (level n) n []).dropWhile (· == '0')) = n := by
    rw [toNat_dropWhile, toNat_block, Nat.mod_eq_of_lt (lt_tenPow_level n)]
  unfold ofNat
  split
  case h_1 empty =>
    rw [empty] at value
    exact value
  case h_2 => exact value

/-- A number is written with digits only. -/
lemma isDigit_of_mem_ofNat {n : Nat} {c : Char} (member : c ∈ ofNat n) : c.isDigit = true := by
  unfold ofNat at member
  split at member
  case h_1 =>
    obtain rfl := List.mem_singleton.1 member
    rfl
  case h_2 => exact isDigit_of_mem_block ((List.dropWhile_suffix _).subset member)

/-- A number has at least one digit. -/
lemma ofNat_ne_nil (n : Nat) : ofNat n ≠ [] := by
  unfold ofNat
  split
  case h_1 => exact List.cons_ne_nil _ _
  case h_2 nonempty => exact nonempty

/-! ## The number of digits -/

/-- The digits that are counted by halving blocks are those of the logarithm. -/
lemma countWithin_eq {k n : Nat} (fits : n < 10 ^ width k) :
    countWithin k n = Nat.log 10 n + 1 := by
  induction k generalizing n with
  | zero => rw [countWithin, Nat.log_of_lt (by simpa [width_eq] using fits)]
  | succ k ih =>
    rw [countWithin, tenPow_eq]
    split
    case isTrue small => exact ih small
    case isFalse large =>
      have upper : n / 10 ^ width k < 10 ^ width k := by
        rw [pow_width_succ] at fits
        exact Nat.div_lt_of_lt_mul fits
      have digits : width k ≤ Nat.log 10 n := Nat.le_log_of_pow_le (by decide) (not_lt.1 large)
      rw [ih upper, Nat.log_div_base_pow]
      omega

/-- **The number of digits** is one more than the integer logarithm. -/
theorem count_eq (n : Nat) : count n = Nat.log 10 n + 1 :=
  countWithin_eq (lt_tenPow_level n)

/-- A number has at most so many digits exactly if it is below the power of ten. -/
theorem count_le_iff {n digits : Nat} (some : digits ≠ 0) : count n ≤ digits ↔ n < 10 ^ digits := by
  rw [count_eq, Nat.succ_le_iff]
  constructor
  · exact Nat.lt_pow_of_log_lt (by decide)
  · exact Nat.log_lt_of_lt_pow' some

/-- A number is below the power of ten of its digits. -/
lemma lt_pow_count (n : Nat) : n < 10 ^ count n := by
  rw [count_eq]
  exact Nat.lt_pow_succ_log_self (by decide) n

/-- A number other than zero fills its first digit. -/
lemma pow_count_le {n : Nat} (nonzero : n ≠ 0) : 10 ^ count n ≤ 10 * n := by
  rw [count_eq, pow_succ, Nat.mul_comm]
  exact Nat.mul_le_mul_left 10 (Nat.pow_log_le_self 10 nonzero)

/-! ## Trailing zeros -/

/-- **What stripping takes off.** Zeros are taken off, at most as many as the limit, and no zero is
left over when fewer were taken off, provided that the blocks reach to the limit or to the last
zero.

**Proof sketch.** Induction on the level. Where a block of zeros is taken off, the rest has one
block less, both of its zeros and of the limit. Where it is not, there are fewer zeros than in a
block, or the limit is below it. -/
theorem stripWithin_spec {k limit n : Nat} (positive : n ≠ 0) :
    ∃ kept zeros, stripWithin k limit n = (kept, zeros) ∧ n = kept * 10 ^ zeros ∧ zeros ≤ limit ∧
      (limit < width (k + 1) ∨ ¬ 10 ^ width (k + 1) ∣ n → zeros < limit → ¬ 10 ∣ kept) := by
  induction k generalizing limit n with
  | zero =>
    rw [stripWithin]
    split
    case isTrue strips =>
      obtain ⟨allowed, zero⟩ : 0 < limit ∧ n % 10 = 0 := by simpa using strips
      obtain ⟨kept, rfl⟩ := Nat.dvd_of_mod_eq_zero zero
      rw [Nat.mul_div_cancel_left kept (by decide)]
      refine ⟨kept, 1, rfl, by ring, allowed, fun reaches fewer more => ?_⟩
      obtain ⟨rest, rfl⟩ := more
      rcases reaches with below | noMore
      · rw [width_eq] at below
        omega
      · exact noMore ⟨rest, by rw [width_eq]; ring⟩
    case isFalse stays =>
      refine ⟨n, 0, rfl, by simp, Nat.zero_le _, fun _ fewer zero => stays ?_⟩
      simpa [fewer] using Nat.mod_eq_zero_of_dvd zero
  | succ k ih =>
    rw [stripWithin, tenPow_eq]
    dsimp only
    split
    case isTrue strips =>
      obtain ⟨allowed, zero⟩ : width (k + 1) ≤ limit ∧ n % 10 ^ width (k + 1) = 0 := by
        simpa using strips
      obtain ⟨rest, rfl⟩ := Nat.dvd_of_mod_eq_zero zero
      rw [Nat.mul_div_cancel_left rest (by positivity)]
      obtain ⟨kept, zeros, stripped, split, atMost, noZero⟩ :=
        @ih (limit - width (k + 1)) rest (right_ne_zero_of_mul positive)
      refine ⟨kept, zeros + width (k + 1), by rw [stripped], ?_, by omega, fun reaches fewer => ?_⟩
      · rw [split, pow_add]
        ring
      · refine noZero ?_ (by omega)
        rw [width_succ (k + 1), pow_add, Nat.mul_dvd_mul_iff_left (by positivity)] at reaches
        refine reaches.imp_left fun below => ?_
        omega
    case isFalse stays =>
      obtain ⟨kept, zeros, stripped, split, atMost, noZero⟩ := @ih limit n positive
      refine ⟨kept, zeros, stripped, split, atMost, fun _ => noZero ?_⟩
      by_contra reaches
      obtain ⟨allowed, zero⟩ : width (k + 1) ≤ limit ∧ 10 ^ width (k + 1) ∣ n := by
        simpa only [not_or, not_lt, not_not] using reaches
      refine stays ?_
      simpa [allowed] using Nat.mod_eq_zero_of_dvd zero

/-- A number has at most as many trailing zeros as its binary logarithm. -/
lemma le_log2_of_eq {n kept zeros : Nat} (positive : n ≠ 0) (split : n = kept * 10 ^ zeros) :
    zeros ≤ n.log2 := by
  have nonzero : kept ≠ 0 := by
    rintro rfl
    exact positive (split.trans (Nat.zero_mul _))
  rw [Nat.le_log2 positive]
  calc 2 ^ zeros ≤ 10 ^ zeros := Nat.pow_le_pow_left (by decide) _
    _ ≤ kept * 10 ^ zeros := Nat.le_mul_of_pos_left _ (Nat.pos_of_ne_zero nonzero)
    _ = n := split.symm

/-- A number is split in one way into what is kept and the zeros behind it, if neither side could
keep fewer digits than the other. -/
lemma eq_of_mul_tenPow_eq {kept zeros kept' zeros' : Nat} (last : zeros' ≤ zeros ∨ ¬ 10 ∣ kept)
    (last' : zeros ≤ zeros' ∨ ¬ 10 ∣ kept') (same : kept * 10 ^ zeros = kept' * 10 ^ zeros') :
    kept = kept' ∧ zeros = zeros' := by
  wlog fewer : zeros ≤ zeros' generalizing kept zeros kept' zeros'
  · obtain ⟨sameKept, sameZeros⟩ := this last' last same.symm (not_le.1 fewer).le
    exact ⟨sameKept.symm, sameZeros.symm⟩
  obtain ⟨more, rfl⟩ := Nat.exists_eq_add_of_le fewer
  have cancelled : kept = kept' * 10 ^ more := by
    refine Nat.eq_of_mul_eq_mul_right (by positivity : 0 < 10 ^ zeros) ?_
    rw [same, pow_add]
    ring
  cases more with
  | zero => exact ⟨by simpa using cancelled, rfl⟩
  | succ more =>
    have notLast : ¬ 10 ∣ kept := last.resolve_left (by omega)
    refine absurd ⟨kept' * 10 ^ more, ?_⟩ notLast
    rw [cancelled, pow_succ]
    ring

/-- **A number without its trailing zeros up to a limit**: so many are stripped that the limit is
reached or that no zero is left over. -/
theorem stripZeros_of_limit {kept zeros limit : Nat} (nonzero : kept ≠ 0) (atMost : zeros ≤ limit)
    (last : limit ≤ zeros ∨ ¬ 10 ∣ kept) :
    stripZeros limit (kept * 10 ^ zeros) = (kept, zeros) := by
  have positive : kept * 10 ^ zeros ≠ 0 := mul_ne_zero nonzero (by positivity)
  generalize isNumber : kept * 10 ^ zeros = n at positive ⊢
  obtain ⟨kept', zeros', stripped, split, atMost', noZero⟩ :=
    @stripWithin_spec (level n) limit n positive
  have reaches : ¬ 10 ^ width (level n + 1) ∣ n := by
    intro divides
    have atLeast := Nat.le_of_dvd (Nat.pos_of_ne_zero positive) divides
    have wider : 10 ^ width (level n) ≤ 10 ^ width (level n + 1) :=
      Nat.pow_le_pow_right (by decide) (by rw [width_succ]; omega)
    exact absurd (lt_tenPow_level n) (by omega)
  have last' : zeros ≤ zeros' ∨ ¬ 10 ∣ kept' := by
    rcases Nat.lt_or_ge zeros' limit with below | reached
    · exact .inr (noZero (.inr reaches) below)
    · exact .inl (atMost.trans reached)
  obtain ⟨rfl, rfl⟩ :=
    eq_of_mul_tenPow_eq (last.imp_left atMost'.trans) last' (isNumber.trans split)
  exact stripped

/-- **A number without all of its trailing zeros**, and how many these are. -/
theorem stripZeros_eq {kept zeros : Nat} (last : ¬ 10 ∣ kept) :
    stripZeros (kept * 10 ^ zeros).log2 (kept * 10 ^ zeros) = (kept, zeros) := by
  have nonzero : kept ≠ 0 := by
    rintro rfl
    exact last (dvd_zero 10)
  have positive : kept * 10 ^ zeros ≠ 0 := mul_ne_zero nonzero (by positivity)
  exact stripZeros_of_limit nonzero (le_log2_of_eq positive rfl) (.inr last)

end Digits

end Formula
