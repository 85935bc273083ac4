import Formula.Proofs.Unicode.Folding
import Formula.Substitution
import Mathlib.Data.List.TakeWhile

set_option autoImplicit false

/-!
# Whole words

A text consists of words, which are as long as possible, and of other characters between them. A
name that is itself a word occurs in a text exactly where a word of the text is alike to it, so
replacing the name is a matter of single words: a word that is alike to the name becomes the
replacement, and everything else stays as it is.

## Main definitions

* `Formula.Substitution.IsWord` — a text of word characters.
* `Formula.Substitution.Alike` — texts that differ at most in case.
* `Formula.Substitution.Occurs` — a name stands somewhere in a text as a whole word.

## Main results

* `Formula.Substitution.occursAt_append_iff` — a name occurs at a word if the word is alike to it.
* `Formula.Substitution.words_induction` — induction on the words of a text.
* `Formula.Substitution.replace_word_append`, `replace_append` — what replacing does to a word, and
  to a text that is divided where no word goes on.
* `Formula.Substitution.replace_eq_self` — nothing is replaced where the name does not occur.
-/

namespace Formula.Substitution

open Unicode

variable {name other word replacement front back text : List Char} {before : Option Char} {c : Char}

/-! ## Words -/

/-- A text of word characters, of one at least. -/
def IsWord (word : List Char) : Prop := word ≠ [] ∧ ∀ c ∈ word, isWordChar c = true

/-- It is decided character by character whether a text is a word. -/
instance (word : List Char) : Decidable (IsWord word) :=
  decidable_of_iff ((!word.isEmpty && word.all isWordChar) = true) (by simp [IsWord])

/-- Texts that differ at most in case. -/
def Alike (name word : List Char) : Prop := name.map fold = word.map fold

/-- Texts are alike if they are equal in folded form. -/
instance (name word : List Char) : Decidable (Alike name word) :=
  inferInstanceAs (Decidable (_ = _))

/-- A text is alike to itself. -/
lemma Alike.refl (name : List Char) : Alike name name := rfl

/-- Beyond the ends of a text there is no word. -/
@[simp] lemma holdsWordChar_none : holdsWordChar none = false := rfl

/-- A character holds a word if it is a word character. -/
@[simp] lemma holdsWordChar_some (c : Char) : holdsWordChar (some c) = isWordChar c := rfl

/-- A word has a first character, which is a word character. -/
lemma IsWord.exists_cons (isWord : IsWord word) :
    ∃ first more, word = first :: more ∧ isWordChar first = true := by
  obtain ⟨first, more, rfl⟩ := List.exists_cons_of_ne_nil isWord.1
  exact ⟨first, more, rfl, isWord.2 first List.mem_cons_self⟩

/-- A text that begins with a word begins with a word character. -/
lemma IsWord.holdsWordChar_head? (isWord : IsWord word) (back : List Char) :
    holdsWordChar (word ++ back).head? = true := by
  obtain ⟨first, more, rfl, isFirst⟩ := isWord.exists_cons
  exact isFirst

/-- What is alike to a word is a word. -/
lemma IsWord.of_alike (isWord : IsWord name) (same : Alike name word) : IsWord word := by
  refine ⟨?_, fun c member => ?_⟩
  · rintro rfl
    exact isWord.1 (List.map_eq_nil_iff.1 same)
  · obtain ⟨d, isChar, folds⟩ := List.mem_map.1 (same ▸ List.mem_map_of_mem member)
    rw [← isWord.2 d isChar]
    exact isWordChar_of_alike (beq_iff_eq.2 folds.symm)

/-- A word that ends before a text is all that stands there of word characters. -/
lemma takeWhile_word_append (isWord : IsWord word) (ends : holdsWordChar text.head? = false) :
    (word ++ text).takeWhile isWordChar = word := by
  rw [List.takeWhile_append_of_pos isWord.2]
  cases text with
  | nil => exact List.append_nil word
  | cons c text => rw [List.takeWhile_cons_of_neg (by simpa using ends), List.append_nil]

/-- No word goes on where the word characters have been dropped. -/
lemma holdsWordChar_head?_dropWhile (text : List Char) :
    holdsWordChar (text.dropWhile isWordChar).head? = false := by
  induction text with
  | nil => rfl
  | cons c text ih =>
    cases isWordC : isWordChar c with
    | true => rwa [List.dropWhile_cons_of_pos isWordC]
    | false => rwa [List.dropWhile_cons_of_neg (by simp [isWordC])]

/-- **Induction on the words of a text**: a text is empty, or it begins with a character that
belongs to no word, or with a word that ends there. -/
@[elab_as_elim]
theorem words_induction {motive : List Char → Prop} (nil : motive [])
    (other : ∀ c text, isWordChar c = false → motive text → motive (c :: text))
    (word : ∀ word text, IsWord word → holdsWordChar text.head? = false → motive text →
      motive (word ++ text))
    (text : List Char) : motive text := by
  induction shorter : text.length using Nat.strongRecOn generalizing text with
  | ind length ih =>
    subst shorter
    cases text with
    | nil => exact nil
    | cons c text =>
      cases isWordC : isWordChar c with
      | false => exact other c text isWordC (ih _ (Nat.lt_succ_self _) text rfl)
      | true =>
        rw [← List.takeWhile_append_dropWhile (p := isWordChar) (l := c :: text),
          List.takeWhile_cons_of_pos isWordC, List.dropWhile_cons_of_pos isWordC]
        have isWord : IsWord (c :: text.takeWhile isWordChar) :=
          ⟨List.cons_ne_nil _ _, List.forall_mem_cons.2
            ⟨isWordC, fun d member => List.mem_takeWhile_imp member⟩⟩
        have shorter : (text.dropWhile isWordChar).length < (c :: text).length :=
          Nat.lt_succ_of_le (List.length_dropWhile_le _ _)
        exact word _ _ isWord (holdsWordChar_head?_dropWhile text) (ih _ shorter _ rfl)

/-! ## Occurrences -/

/-- A name that a text begins with is alike to the beginning. -/
lemma beginsWith_eq_true_iff : beginsWith name text = true ↔
    ∃ word back, text = word ++ back ∧ Alike name word := by
  induction name generalizing text with
  | nil => simp [beginsWith, Alike]
  | cons c name ih =>
    cases text with
    | nil => simp [beginsWith, Alike]
    | cons d text =>
      rw [beginsWith, Bool.and_eq_true, ih, alike, beq_iff_eq]
      constructor
      · rintro ⟨first, word, back, rfl, same⟩
        exact ⟨d :: word, back, rfl, congrArg₂ List.cons first same⟩
      · rintro ⟨_ | ⟨e, word⟩, back, split, same⟩
        · cases same
        · obtain ⟨rfl, rfl⟩ := List.cons.inj split
          obtain ⟨first, same⟩ := List.cons.inj same
          exact ⟨first, word, back, rfl, same⟩

/-- What it is for a name to stand at the front of a text. -/
lemma occursAt_eq_true_iff : occursAt name before text = true ↔
    ∃ word back, text = word ++ back ∧ Alike name word ∧ isBoundary before text.head? = true ∧
      isBoundary (word.getLast?.or before) back.head? = true := by
  rw [occursAt, Bool.and_eq_true, Bool.and_eq_true, beginsWith_eq_true_iff]
  constructor
  · rintro ⟨⟨⟨word, back, rfl, same⟩, atFront⟩, atEnd⟩
    have length : name.length = word.length := by simpa using congrArg List.length same
    rw [length, List.take_left, List.drop_left] at atEnd
    exact ⟨word, back, rfl, same, atFront, atEnd⟩
  · rintro ⟨word, back, rfl, same, atFront, atEnd⟩
    have length : name.length = word.length := by simpa using congrArg List.length same
    rw [length, List.take_left, List.drop_left]
    exact ⟨⟨⟨word, back, rfl, same⟩, atFront⟩, atEnd⟩

/-- A name stands somewhere in a text as a whole word: there are characters in the text that are
alike to it, with word boundaries at both ends. -/
def Occurs (name text : List Char) : Prop :=
  ∃ front word back, text = front ++ (word ++ back) ∧ Alike name word ∧
    isBoundary front.getLast? (word ++ back).head? = true ∧
    isBoundary (front ++ word).getLast? back.head? = true

/-- A name occurs in a text if it stands at the front of some rest of it. -/
lemma occurs_iff : Occurs name text ↔
    ∃ front back, text = front ++ back ∧ occursAt name front.getLast? back = true := by
  simp only [occursAt_eq_true_iff]
  constructor
  · rintro ⟨front, word, back, rfl, same, atFront, atEnd⟩
    rw [List.getLast?_append] at atEnd
    exact ⟨front, _, rfl, word, back, rfl, same, atFront, atEnd⟩
  · rintro ⟨front, _, rfl, word, back, rfl, same, atFront, atEnd⟩
    rw [← List.getLast?_append] at atEnd
    exact ⟨front, word, back, rfl, same, atFront, atEnd⟩

/-- Whether a name occurs is decided by looking at every position of the text. -/
instance (name text : List Char) : Decidable (Occurs name text) :=
  decidable_of_iff ((List.range (text.length + 1)).any fun position =>
      occursAt name (text.take position).getLast? (text.drop position)) <| by
    rw [occurs_iff, List.any_eq_true]
    constructor
    · rintro ⟨position, -, occurs⟩
      exact ⟨_, _, (List.take_append_drop position text).symm, occurs⟩
    · rintro ⟨front, back, rfl, occurs⟩
      have inside : front.length < (front ++ back).length + 1 := by
        rw [List.length_append]
        omega
      refine ⟨front.length, List.mem_range.2 inside, ?_⟩
      rwa [List.take_left, List.drop_left]

section

variable (isName : IsWord name)

include isName

/-- **A name that is a word occurs** where no word goes on, and where what is alike to it ends a
word. -/
lemma IsWord.occursAt_iff : occursAt name before text = true ↔
    ∃ word back, text = word ++ back ∧ Alike name word ∧ holdsWordChar before = false ∧
      holdsWordChar back.head? = false := by
  rw [occursAt_eq_true_iff]
  refine exists_congr fun word => exists_congr fun back => and_congr_right ?_
  rintro rfl
  refine and_congr_right fun same => ?_
  have isWord := isName.of_alike same
  obtain ⟨more, last, rfl⟩ := (List.eq_nil_or_concat' word).resolve_left isWord.1
  have isLast : isWordChar last = true := isWord.2 last (by simp)
  rw [isBoundary, isWord.holdsWordChar_head? back]
  simp [isBoundary, isLast]

/-- **A name occurs at a word** exactly if the word is alike to it. -/
theorem occursAt_append_iff (isWord : IsWord word) (free : holdsWordChar before = false)
    (ends : holdsWordChar text.head? = false) :
    occursAt name before (word ++ text) = true ↔ Alike name word := by
  rw [isName.occursAt_iff]
  constructor
  · rintro ⟨otherWord, back, split, same, -, otherEnds⟩
    have isSame : word = otherWord := by
      rw [← takeWhile_word_append isWord ends, split,
        takeWhile_word_append (isName.of_alike same) otherEnds]
    exact isSame ▸ same
  · exact fun same => ⟨word, text, rfl, same, free, ends⟩

/-- A word does not occur where no word begins. -/
lemma occursAt_eq_false_of_not_word (noWord : isWordChar c = false) (before : Option Char)
    (text : List Char) : occursAt name before (c :: text) = false := by
  rw [Bool.eq_false_iff, Ne, isName.occursAt_iff]
  rintro ⟨word, back, split, same, -⟩
  obtain ⟨first, more, rfl, isFirst⟩ := (isName.of_alike same).exists_cons
  obtain ⟨rfl, -⟩ := List.cons.inj split
  rw [isFirst] at noWord
  cases noWord

/-- A word does not stand at the front of the empty text. -/
lemma occursAt_nil (before : Option Char) : occursAt name before [] = false := by
  obtain ⟨first, more, rfl, -⟩ := isName.exists_cons
  rfl

/-- A word does not occur in the middle of another one. -/
lemma occursAt_eq_false_of_word (wordBefore : holdsWordChar before = true) (text : List Char) :
    occursAt name before text = false := by
  rw [Bool.eq_false_iff, Ne, isName.occursAt_iff]
  rintro ⟨word, back, -, -, free, -⟩
  rw [wordBefore] at free
  cases free

/-- Of the character before a text, it only counts whether it belongs to a word. -/
lemma occursAt_congr {after : Option Char} (same : holdsWordChar before = holdsWordChar after)
    (text : List Char) : occursAt name before text = occursAt name after text := by
  rw [Bool.eq_iff_iff, isName.occursAt_iff, isName.occursAt_iff, same]

/-- A name occurs in a word if it is alike to it. -/
lemma Occurs.of_alike (same : Alike name word) : Occurs name word := by
  refine occurs_iff.2 ⟨[], word, rfl, ?_⟩
  exact isName.occursAt_iff.2 ⟨word, [], (List.append_nil word).symm, same, rfl, rfl⟩

end

/-! ## Replacing -/

/-- The last character before a text is the last one that has been read. -/
lemma getLast?_cons_or (c : Char) (text : List Char) (before : Option Char) :
    (c :: text).getLast?.or before = text.getLast?.or (some c) := by
  rw [List.getLast?_cons]
  cases text.getLast? <;> rfl

/-- A character at which the name does not occur stays as it is. -/
lemma replace_cons (noOccurrence : occursAt name before (c :: text) = false) :
    replace name replacement 0 before (c :: text) =
      c :: replace name replacement 0 (some c) text := by
  rw [replace.eq_def]
  simp only [noOccurrence, Bool.false_eq_true, if_false]

/-- **Characters at which the name does not occur** stay as they are. -/
lemma replace_append_of_nowhere (nowhere : ∀ start c more, front = start ++ c :: more →
      occursAt name (start.getLast?.or before) (c :: more ++ back) = false) :
    replace name replacement 0 before (front ++ back) =
      front ++ replace name replacement 0 (front.getLast?.or before) back := by
  induction front generalizing before with
  | nil => rfl
  | cons c front ih =>
    have here : occursAt name before (c :: (front ++ back)) = false := nowhere [] c front rfl
    have later : ∀ start d more, front = start ++ d :: more →
        occursAt name (start.getLast?.or (some c)) (d :: more ++ back) = false := by
      rintro start d more rfl
      rw [← getLast?_cons_or c start before]
      exact nowhere (c :: start) d more rfl
    rw [List.cons_append, replace_cons here, ih later, getLast?_cons_or, List.cons_append]

/-- The characters of an occurrence are skipped. -/
lemma replace_skipped (front : List Char) :
    replace name replacement front.length before (front ++ back) =
      replace name replacement 0 (front.getLast?.or before) back := by
  induction front generalizing before with
  | nil => rfl
  | cons c front ih =>
    rw [List.length_cons, List.cons_append, replace, ih, getLast?_cons_or]

section

variable (isName : IsWord name)

include isName

/-- In the empty text there is nothing to replace. -/
lemma replace_nil : replace name replacement 0 before [] = [] := by
  rw [replace, occursAt_nil isName, if_neg Bool.false_ne_true]

/-- Of the character before a text, it only counts whether it belongs to a word. -/
lemma replace_congr {after : Option Char} (same : holdsWordChar before = holdsWordChar after)
    (text : List Char) :
    replace name replacement 0 before text = replace name replacement 0 after text := by
  cases text with
  | nil => rw [replace_nil isName, replace_nil isName]
  | cons c text =>
    rw [replace.eq_def, replace.eq_def name replacement 0 after]
    simp only [occursAt_congr isName same]

/-- A character that belongs to no word stays as it is, and the text after it begins anew. -/
lemma replace_cons_of_not_word (noWord : isWordChar c = false) :
    replace name replacement 0 before (c :: text) = c :: replace name replacement 0 none text := by
  have anew : replace name replacement 0 (some c) text = replace name replacement 0 none text := by
    apply replace_congr isName
    exact noWord
  rw [replace_cons (occursAt_eq_false_of_not_word isName noWord _ _), anew]

/-- No word goes on from a text in which no word ends. -/
lemma replace_of_ends (ends : holdsWordChar text.head? = false) :
    replace name replacement 0 before text = replace name replacement 0 none text := by
  cases text with
  | nil => rw [replace_nil isName, replace_nil isName]
  | cons c text => rw [replace_cons_of_not_word isName ends, replace_cons_of_not_word isName ends]

/-- A word goes on in the rewritten text only if it does in the text itself. -/
lemma holdsWordChar_head?_replace (ends : holdsWordChar text.head? = false) :
    holdsWordChar (replace name replacement 0 before text).head? = false := by
  cases text with
  | nil => rw [replace_nil isName, List.head?_nil, holdsWordChar_none]
  | cons c text => rwa [replace_cons_of_not_word isName ends]

/-- An occurrence is replaced. -/
lemma replace_of_occursAt (length : name.length = word.length)
    (occurs : occursAt name before (word ++ text) = true) :
    replace name replacement 0 before (word ++ text) =
      replacement ++ replace name replacement 0 (word.getLast?.or before) text := by
  obtain ⟨firstName, moreName, rfl, -⟩ := isName.exists_cons
  cases word with
  | nil => cases length
  | cons first more =>
    rw [List.cons_append] at occurs ⊢
    rw [replace, if_pos occurs, Nat.succ.inj length, replace_skipped, getLast?_cons_or]

/-- **Another word stays as it is.** -/
lemma replace_append_of_not_alike (isWord : IsWord word) (ends : holdsWordChar text.head? = false)
    (different : ¬ Alike name word) :
    replace name replacement 0 before (word ++ text) =
      word ++ replace name replacement 0 none text := by
  have atFront : occursAt name before (word ++ text) = false := by
    cases free : holdsWordChar before with
    | true => exact occursAt_eq_false_of_word isName free _
    | false =>
      rw [Bool.eq_false_iff, Ne, occursAt_append_iff isName isWord free ends]
      exact different
  have nowhere : ∀ start c more, word = start ++ c :: more →
      occursAt name (start.getLast?.or before) (c :: more ++ text) = false := by
    rintro start c more rfl
    obtain rfl | ⟨start, last, rfl⟩ := List.eq_nil_or_concat' start
    · exact atFront
    · have inWord : holdsWordChar (some last) = true := isWord.2 last (by simp)
      rw [List.getLast?_concat, Option.some_or, occursAt_eq_false_of_word isName inWord]
  rw [replace_append_of_nowhere nowhere, replace_of_ends isName ends]

/-- **A word is replaced if it is alike to the name**, and it stays as it is otherwise. -/
theorem replace_word_append (isWord : IsWord word) (free : holdsWordChar before = false)
    (ends : holdsWordChar text.head? = false) :
    replace name replacement 0 before (word ++ text) =
      (if Alike name word then replacement else word) ++ replace name replacement 0 none text := by
  split_ifs with same
  · have length : name.length = word.length := by simpa using congrArg List.length same
    have occurs := (occursAt_append_iff isName isWord free ends).2 same
    rw [replace_of_occursAt isName length occurs, replace_of_ends isName ends]
  · exact replace_append_of_not_alike isName isWord ends same

/-- **A text that is divided where no word goes on** is rewritten part by part. -/
theorem replace_append (ends : holdsWordChar back.head? = false) :
    replace name replacement 0 none (front ++ back) =
      replace name replacement 0 none front ++ replace name replacement 0 none back := by
  induction front using words_induction with
  | nil => rw [replace_nil isName, List.nil_append, List.nil_append]
  | other c front noWord ih =>
    rw [List.cons_append, replace_cons_of_not_word isName noWord, ih,
      replace_cons_of_not_word isName noWord, List.cons_append]
  | word word front isWord endsFront ih =>
    have endsBoth : holdsWordChar (front ++ back).head? = false := by
      cases front with
      | nil => exact ends
      | cons c front => exact endsFront
    rw [List.append_assoc, replace_word_append isName isWord rfl endsBoth, ih,
      replace_word_append isName isWord rfl endsFront, List.append_assoc]

/-- The text begins as before or with the replacement. -/
lemma mem_head?_replace {first : Char} {more : List Char}
    (atFront : c ∈ (replace name (first :: more) 0 before text).head?) :
    c ∈ text.head? ∨ c = first := by
  cases text with
  | nil =>
    rw [replace_nil isName] at atFront
    cases atFront
  | cons d text =>
    obtain ⟨e, name, rfl, -⟩ := isName.exists_cons
    rw [replace] at atFront
    split at atFront
    · exact .inr (Option.some.inj atFront).symm
    · exact .inl atFront

/-- **Nothing is replaced where the name does not occur.** -/
theorem replace_eq_self (absent : ¬ Occurs name text) :
    replace name replacement 0 none text = text := by
  have nowhere : ∀ start c more, text = start ++ c :: more →
      occursAt name (start.getLast?.or none) (c :: more ++ []) = false := by
    intro start c more split
    rw [Option.or_none, List.append_nil, Bool.eq_false_iff]
    exact fun occurs => absent (occurs_iff.2 ⟨start, c :: more, split, occurs⟩)
  have stays : replace name replacement 0 none (text ++ []) = text ++ _ :=
    replace_append_of_nowhere nowhere
  rwa [replace_nil isName, List.append_nil] at stays

/-- A parenthesized text in which the name does not occur stays as it is. -/
lemma replace_parenthesized (absent : ¬ Occurs name text) :
    replace name replacement 0 none ('(' :: text ++ [')'] ++ back) =
      '(' :: text ++ [')'] ++ replace name replacement 0 none back := by
  have noWord : isWordChar '(' = false ∧ isWordChar ')' = false := by decide
  rw [List.append_assoc, List.cons_append, replace_cons_of_not_word isName noWord.1,
    replace_append isName (by exact noWord.2), replace_eq_self isName absent, List.singleton_append,
    replace_cons_of_not_word isName noWord.2]
  simp

end

end Formula.Substitution
