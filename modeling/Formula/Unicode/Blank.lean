set_option autoImplicit false

/-!
# Blank characters

The characters with the Unicode property White_Space separate tokens and are dropped from both
ends of a source.

## Main definitions

* `Formula.Unicode.isBlank` — the property White_Space.
* `Formula.Unicode.trim` — a text without its leading and trailing blanks.
-/

namespace Formula.Unicode

/-- A code point lies in one of the given closed ranges. -/
def inRanges (ranges : List (Nat × Nat)) (point : Nat) : Bool :=
  ranges.any fun range => range.1 ≤ point && point ≤ range.2

/-- The code points with the property White_Space. -/
def blankRanges : List (Nat × Nat) :=
  [(0x9, 0xd), (0x20, 0x20), (0x85, 0x85), (0xa0, 0xa0), (0x1680, 0x1680), (0x2000, 0x200a),
   (0x2028, 0x2029), (0x202f, 0x202f), (0x205f, 0x205f), (0x3000, 0x3000)]

/-- A character is blank when it has the property White_Space. -/
def isBlank (c : Char) : Bool :=
  inRanges blankRanges c.toNat

/-- A text without the blanks at its two ends. -/
def trim (text : List Char) : List Char :=
  ((text.dropWhile isBlank).reverse.dropWhile isBlank).reverse

end Formula.Unicode
