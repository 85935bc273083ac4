import Formula.Proofs.Substitution.Word

set_option autoImplicit false

/-!
# Substitutions of different names

Parentheses belong to no word, so a replacement neither lengthens nor shortens the words beside it.
A second substitution therefore finds the words of the source that the first one left, and those of
the replacements. If its name occurs in none of the replacements, the two substitutions together act
on each word of the source on its own, and their order does not matter.

## Main results

* `Formula.Substitution.replace_replace_word_append` — what two substitutions do to a word.
* `Formula.substitute_comm` — substitutions of different names commute, and one that is made a
  second time changes nothing.
-/

namespace Formula

namespace Substitution

open Unicode

variable {name other word replacement otherReplacement text : List Char}

section

variable (isName : IsWord name) (isOther : IsWord other) (absent : ¬ Occurs other replacement)

include isName isOther absent

/-- **What two substitutions do to a word**: the first one replaces it if it is alike to its name,
the second one if only the name of this is alike, and nothing is replaced in a replacement. -/
theorem replace_replace_word_append (isWord : IsWord word)
    (ends : holdsWordChar text.head? = false) :
    replace other otherReplacement 0 none
        (replace name ('(' :: replacement ++ [')']) 0 none (word ++ text)) =
      (if Alike name word then '(' :: replacement ++ [')']
        else if Alike other word then otherReplacement else word) ++
        replace other otherReplacement 0 none
          (replace name ('(' :: replacement ++ [')']) 0 none text) := by
  rw [replace_word_append isName isWord rfl ends]
  by_cases same : Alike name word
  · rw [if_pos same, if_pos same, replace_parenthesized isOther absent]
  · rw [if_neg same, if_neg same,
      replace_word_append isOther isWord rfl (holdsWordChar_head?_replace isName ends)]

/-- **Different names are replaced in any order.**

**Proof sketch.** Induction on the words of the text. No word is alike to both names, so of the two
substitutions at most one replaces it, whichever is the first. -/
lemma replace_comm (different : ¬ Alike name other) (otherAbsent : ¬ Occurs name otherReplacement)
    (text : List Char) :
    replace other ('(' :: otherReplacement ++ [')']) 0 none
        (replace name ('(' :: replacement ++ [')']) 0 none text) =
      replace name ('(' :: replacement ++ [')']) 0 none
        (replace other ('(' :: otherReplacement ++ [')']) 0 none text) := by
  induction text using words_induction with
  | nil => simp only [replace_nil isName, replace_nil isOther]
  | other c text noWord ih =>
    simp only [replace_cons_of_not_word isName noWord, replace_cons_of_not_word isOther noWord, ih]
  | word word text isWord ends ih =>
    rw [replace_replace_word_append isName isOther absent isWord ends,
      replace_replace_word_append isOther isName otherAbsent isWord ends, ih]
    have single : ¬ (Alike name word ∧ Alike other word) := fun ⟨same, otherSame⟩ =>
      different (same.trans otherSame.symm)
    split_ifs <;> first | rfl | tauto

end

/-- **Replacing a second time changes nothing** if the name does not occur in the replacement. -/
lemma replace_idem (isName : IsWord name) (absent : ¬ Occurs name replacement) (text : List Char) :
    replace name ('(' :: replacement ++ [')']) 0 none
        (replace name ('(' :: replacement ++ [')']) 0 none text) =
      replace name ('(' :: replacement ++ [')']) 0 none text := by
  induction text using words_induction with
  | nil => simp only [replace_nil isName]
  | other c text noWord ih => simp only [replace_cons_of_not_word isName noWord, ih]
  | word word text isWord ends ih =>
    rw [replace_replace_word_append isName isName absent isWord ends, ih,
      replace_word_append isName isWord rfl ends]
    split_ifs <;> rfl

end Substitution

open Substitution

/-- Two substitutions in a row give a source if both names can be searched for. -/
lemma substitute?_bind (searchable : String → Bool)
    (source name replacement other otherReplacement : String) :
    (substitute? searchable source name replacement).bind
        (substitute? searchable · other otherReplacement) =
      if searchable name && searchable other then
        some (substitute (substitute source name replacement) other otherReplacement)
      else none := by
  cases found : searchable name with
  | true => rw [substitute?_of_searchable found, Option.bind_some, substitute?, Bool.true_and]
  | false => rw [substitute?_of_not_searchable found, Option.bind_none, Bool.false_and]; rfl

/-- **Substitutions of different words commute.** Names are different if one does not occur in the
other, and as they are words this means that they differ in more than case. If moreover neither of
them occurs in the replacement of the other, it does not matter which of the substitutions is made
first. If a name does not occur in its own replacement, a second substitution changes nothing. A
name that cannot be searched for makes both sides fail. -/
theorem substitute_comm (searchable : String → Bool) {name replacement : String}
    (isName : IsWord name.toList) :
    (∀ other otherReplacement : String, IsWord other.toList →
      ¬ Occurs name.toList other.toList → ¬ Occurs other.toList replacement.toList →
      ¬ Occurs name.toList otherReplacement.toList → ∀ source : String,
        (substitute? searchable source name replacement).bind
            (substitute? searchable · other otherReplacement) =
          (substitute? searchable source other otherReplacement).bind
            (substitute? searchable · name replacement)) ∧
      (¬ Occurs name.toList replacement.toList → ∀ source : String,
        (substitute? searchable source name replacement).bind
            (substitute? searchable · name replacement) =
          substitute? searchable source name replacement) := by
  refine ⟨fun other otherReplacement isOther different absent otherAbsent source => ?_,
    fun absent source => ?_⟩
  · have apart : ¬ Alike name.toList other.toList := mt (Occurs.of_alike isName) different
    simp only [substitute?_bind, substitute, String.toList_ofList]
    rw [replace_comm isName isOther absent apart otherAbsent, Bool.and_comm]
  · simp only [substitute?_bind, substitute, String.toList_ofList]
    rw [replace_idem isName absent, Bool.and_self, substitute?, substitute]

/-- One name is the beginning of the other one, and the replacement of each is a text in which the
other name is only a part of a word. -/
theorem substitute_comm_prefix :
    let searchable := fun name : String => decide (name.length ≤ 1000)
    IsWord "ä".toList ∧ IsWord "ää".toList ∧
    ¬ Occurs "ä".toList "ää".toList ∧ ¬ Occurs "ää".toList "2*äää".toList ∧
    ¬ Occurs "ä".toList "'ää_'".toList ∧ ¬ Occurs "ä".toList "2*äää".toList ∧
    (substitute? searchable "Ä+ää-äää" "ä" "2*äää").bind (substitute? searchable · "ää" "'ää_'") =
      some "(2*äää)+('ää_')-äää" ∧
    (substitute? searchable "Ä+ää-äää" "ä" "2*äää").bind (substitute? searchable · "ää" "'ää_'") =
      (substitute? searchable "Ä+ää-äää" "ää" "'ää_'").bind
        (substitute? searchable · "ä" "2*äää") ∧
    (substitute? searchable "Ä+ää-äää" "ä" "2*äää").bind (substitute? searchable · "ä" "2*äää") =
      substitute? searchable "Ä+ää-äää" "ä" "2*äää" := by
  intro searchable
  have isName : IsWord "ä".toList := by decide +kernel
  have isOther : IsWord "ää".toList := by decide +kernel
  have different : ¬ Occurs "ä".toList "ää".toList := by decide +kernel
  have absent : ¬ Occurs "ää".toList "2*äää".toList := by decide +kernel
  have otherAbsent : ¬ Occurs "ä".toList "'ää_'".toList := by decide +kernel
  have ownAbsent : ¬ Occurs "ä".toList "2*äää".toList := by decide +kernel
  have result : (substitute? searchable "Ä+ää-äää" "ä" "2*äää").bind
      (substitute? searchable · "ää" "'ää_'") = some "(2*äää)+('ää_')-äää" := by decide +kernel
  exact ⟨isName, isOther, different, absent, otherAbsent, ownAbsent, result,
    (substitute_comm searchable isName).1 "ää" "'ää_'" isOther different absent otherAbsent
      "Ä+ää-äää",
    (substitute_comm searchable isName).2 ownAbsent "Ä+ää-äää"⟩

end Formula
