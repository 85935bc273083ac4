import Formula.Unicode.Folding
import Formula.Unicode.Word
import Mathlib.Data.List.Basic

set_option autoImplicit false

/-!
# Case folding and word characters

Folding leads from word characters to word characters and from other characters to other
characters, so characters that are alike are in words alike. The tables of the foldings and of the
word characters are too long to compare them point by point: a run of foldings is looked up as a
whole in the ranges of letters, and only the few runs that are not within one range are checked for
each of their members.

## Main definitions

* `Formula.Unicode.isLetterStretch` — consecutive code points that are all letters.
* `Formula.Unicode.isWordRun` — regularly spaced code points that are all word characters.

## Main results

* `Formula.Unicode.isWordChar_fold` — the folding of a character is a word character if it is one.
* `Formula.Unicode.isWordChar_of_alike` — characters that are alike are in words alike.
-/

namespace Formula.Unicode

variable {c d : Char}

/-! ## ASCII characters -/

/-- What can be checked for every code point below U+0080 holds of every ASCII character. -/
lemma forall_ascii {p : Char → Prop} (all : ∀ point < 0x80, p (Char.ofNat point))
    (ascii : c.toNat < 0x80) : p c := by
  have this := all c.toNat ascii
  rwa [Char.ofNat_toNat] at this

/-- Within ASCII, folding is the change to lower case. -/
lemma fold_of_ascii (ascii : c.toNat < 0x80) : fold c = c.toLower := if_pos ascii

/-! ## Runs of letters -/

/-- A valid code point is that of its character. -/
lemma toNat_ofNat {point : Nat} (valid : point.isValidChar) : (Char.ofNat point).toNat = point := by
  rw [Char.ofNat, dif_pos valid]
  rfl

/-- The code points from `first` to `last` are all letters: they lie in one range of alphabetic code
points, and none of them is too recent. The bounds are compared by `Nat.ble` and `Nat.blt`, which
are computed at once also where a proof evaluates them. -/
def isLetterStretch (first last : Nat) : Bool :=
  Nat.ble 0x80 first && (Nat.blt last 0xd800 || Nat.ble 0xe000 first && Nat.blt last 0x110000) &&
    alphabeticRanges.any (fun range => Nat.ble range.1 first && Nat.ble last range.2) &&
    recentLetterRanges.all (fun range => Nat.blt last range.1 || Nat.blt range.2 first)

/-- The code points at the distances `0, step, …, length` from `first` are all word characters. -/
def isWordRun (first length step : Nat) : Bool :=
  isLetterStretch first (first + length) ||
    (List.range (length + 1)).all fun distance =>
      distance % step != 0 || isWordChar (Char.ofNat (first + distance))

/-- A stretch of letters has valid code points only. -/
lemma isValidChar_of_isLetterStretch {first last point : Nat}
    (letters : isLetterStretch first last = true) (from_first : first ≤ point)
    (to_last : point ≤ last) : point.isValidChar := by
  simp only [isLetterStretch, Bool.and_eq_true, Bool.or_eq_true, Nat.ble_eq, Nat.blt_eq] at letters
  obtain ⟨⟨⟨-, low | ⟨high, bound⟩⟩, -⟩, -⟩ := letters
  · exact .inl (by omega)
  · exact .inr (by omega)

/-- A stretch of letters has word characters only. -/
lemma isWordChar_of_isLetterStretch {first last : Nat}
    (letters : isLetterStretch first last = true) (from_first : first ≤ c.toNat)
    (to_last : c.toNat ≤ last) : isWordChar c = true := by
  simp only [isLetterStretch, Bool.and_eq_true, Bool.or_eq_true, List.any_eq_true,
    List.all_eq_true, Nat.ble_eq, Nat.blt_eq] at letters
  obtain ⟨⟨⟨noAscii, -⟩, range, isRange, low, high⟩, noRecent⟩ := letters
  have isLetter : inRanges alphabeticRanges c.toNat = true := by
    rw [inRanges, List.any_eq_true]
    exact ⟨range, isRange, by simp; omega⟩
  have old : inRanges recentLetterRanges c.toNat = false := by
    rw [inRanges, List.any_eq_false]
    intro recent isRecent
    have apart := noRecent recent isRecent
    simp
    omega
  rw [isWordChar, if_neg (by omega), isLetter, old]
  simp

/-- **Every member of a run of word characters is a word character.** -/
lemma isWordChar_of_isWordRun {first length step distance : Nat}
    (run : isWordRun first length step = true) (bound : distance ≤ length)
    (member : distance % step = 0) : isWordChar (Char.ofNat (first + distance)) = true := by
  rw [isWordRun, Bool.or_eq_true] at run
  rcases run with letters | each
  · have valid := isValidChar_of_isLetterStretch letters (Nat.le_add_right first distance)
      (Nat.add_le_add_left bound first)
    refine isWordChar_of_isLetterStretch letters ?_ ?_ <;>
    · rw [toNat_ofNat valid]
      omega
  · have this := List.all_eq_true.1 each distance (List.mem_range.2 (by omega))
    simpa [member] using this

/-! ## Folding -/

/-- The foldings lead from word characters to word characters. -/
lemma isWordRun_foldRuns : ∀ run ∈ foldRuns,
    isWordRun run.first (run.last - run.first) run.step = true ∧
      isWordRun run.target (run.last - run.first) run.step = true := by
  decide +kernel

/-- In a run of the folding table code points keep their distance from the first one. -/
lemma FoldRun.exists_distance {run : FoldRun} {point folded : Nat}
    (applies : run.apply? point = some folded) :
    ∃ distance ≤ run.last - run.first, distance % run.step = 0 ∧
      point = run.first + distance ∧ folded = run.target + distance := by
  unfold FoldRun.apply? at applies
  rw [Option.ite_none_right_eq_some] at applies
  simp only [Bool.and_eq_true, decide_eq_true_eq, beq_iff_eq, Option.some.injEq] at applies
  obtain ⟨⟨⟨low, high⟩, member⟩, rfl⟩ := applies
  exact ⟨point - run.first, by omega, member, by omega, rfl⟩

/-- **Folding keeps word characters** and leads to no other ones. -/
theorem isWordChar_fold (c : Char) : isWordChar (fold c) = isWordChar c := by
  by_cases ascii : c.toNat < 0x80
  · rw [fold_of_ascii ascii]
    exact forall_ascii (p := fun c => isWordChar c.toLower = isWordChar c) (by decide +kernel) ascii
  · rw [fold, if_neg ascii]
    split
    · rename_i folded found
      obtain ⟨run, isRun, applies⟩ := List.exists_of_findSome?_eq_some found
      obtain ⟨distance, bound, member, isPoint, rfl⟩ := FoldRun.exists_distance applies
      obtain ⟨source, target⟩ := isWordRun_foldRuns run isRun
      have isWord := isWordChar_of_isWordRun source bound member
      rw [← isPoint, Char.ofNat_toNat] at isWord
      rw [isWordChar_of_isWordRun target bound member, isWord]
    · rfl

/-- **Characters that are alike are in words alike.** -/
theorem isWordChar_of_alike (same : alike c d = true) : isWordChar c = isWordChar d := by
  rw [← isWordChar_fold c, ← isWordChar_fold d, beq_iff_eq.1 same]

end Formula.Unicode
