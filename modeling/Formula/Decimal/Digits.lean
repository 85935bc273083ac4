set_option autoImplicit false

/-!
# Decimal digits of natural numbers

A long number is written, measured and stripped of zeros by halves: a block of `2 ^ (k + 1)`
digits splits at the power of ten `10 ^ 2 ^ k`, so the work is a few divisions of large numbers
instead of one for each digit.

## Main definitions

* `Formula.tenPow` — the powers of ten.
* `Formula.Digits.ofNat` — the digits of a number, most significant first.
* `Formula.Digits.count` — how many there are.
* `Formula.Digits.stripZeros` — a number without some of its trailing zeros, and their number.
* `Formula.Digits.toNat` — the number that a list of digits stands for.
-/

namespace Formula

/-- The power of ten `10 ^ k`. -/
def tenPow (k : Nat) : Nat := Nat.pow 10 k

namespace Digits

/-- The number of digits in a block of a level: `2 ^ k`. -/
def width (k : Nat) : Nat := Nat.pow 2 k

/-- A level at which one block holds every digit: `n < tenPow (width (level n))`. -/
def level (n : Nat) : Nat :=
  (n.log2 / 3 + 1).log2 + 1

/-- The last `width k` digits of `n`, zeros included, in front of `tail`. -/
def block : Nat → Nat → List Char → List Char
  | 0, n, tail => Nat.digitChar (n % 10) :: tail
  | k + 1, n, tail =>
    let half := tenPow (width k)
    block k (n / half) (block k (n % half) tail)

/-- The digits of a number, most significant first and without leading zeros; zero is one `0`. -/
def ofNat (n : Nat) : List Char :=
  match (block (level n) n []).dropWhile (· == '0') with
  | [] => ['0']
  | digits => digits

/-- The number of digits of `n`, provided that one block of level `k` holds them. -/
def countWithin : Nat → Nat → Nat
  | 0, _ => 1
  | k + 1, n =>
    let half := tenPow (width k)
    if n < half then countWithin k n else width k + countWithin k (n / half)

/-- The number of digits of a number; zero has one. -/
def count (n : Nat) : Nat :=
  countWithin (level n) n

/-- Strips blocks of `width k`, `width (k - 1)`, …, `1` zeros, each where there are as many and
at most `limit` zeros are gone then; the second component is the number of zeros stripped. -/
def stripWithin : Nat → Nat → Nat → Nat × Nat
  | 0, limit, n => if 0 < limit && n % 10 == 0 then (n / 10, 1) else (n, 0)
  | k + 1, limit, n =>
    let zeros := width (k + 1)
    if zeros ≤ limit && n % tenPow zeros == 0 then
      let stripped := stripWithin k (limit - zeros) (n / tenPow zeros)
      (stripped.1, stripped.2 + zeros)
    else stripWithin k limit n

/-- A positive number without its trailing zeros, of which at most `limit` are stripped, and
the number of zeros stripped. -/
def stripZeros (limit n : Nat) : Nat × Nat :=
  stripWithin (level n) limit n

/-- The number that a list of decimal digits stands for. -/
def toNat (digits : List Char) : Nat :=
  digits.foldl (fun n c => 10 * n + (c.toNat - '0'.toNat)) 0

end Digits

end Formula
