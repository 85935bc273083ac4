import Formula.Unicode.Folding
import Formula.Unicode.Word

set_option autoImplicit false

/-!
# Substitution in a source

A name is replaced by a parenthesized text wherever it stands as a whole word, upper and lower
case being alike. The replacement is textual: an occurrence inside a text literal is replaced as
well.

## Main definitions

* `Formula.Substitution.occursAt` — the name stands at the front of a text as a whole word.
* `Formula.Substitution.replace` — all occurrences replaced, from left to right.
* `Formula.substitute` — the same on strings, with parentheses around the replacement.
* `Formula.substitute?` — the same for the names that can be searched for at all.
-/

namespace Formula

namespace Substitution

/-- The text begins with the characters of the name, case aside. -/
def beginsWith : List Char → List Char → Bool
  | [], _ => true
  | _ :: _, [] => false
  | c :: name, d :: text => Unicode.alike c d && beginsWith name text

/-- The name stands at the front of the text, with word boundaries at both of its ends. The
first argument is the character before the text. -/
def occursAt (name : List Char) (before : Option Char) (text : List Char) : Bool :=
  beginsWith name text &&
    Unicode.isBoundary before text.head? &&
    Unicode.isBoundary ((text.take name.length).getLast?.or before)
      (text.drop name.length).head?

/-- The text with every occurrence of the name replaced. Occurrences do not overlap: the first
argument counts the characters that belong to an occurrence already replaced. -/
def replace (name replacement : List Char) : Nat → Option Char → List Char → List Char
  | 0, before, [] => if occursAt name before [] then replacement else []
  | _ + 1, _, [] => []
  | skipped + 1, _, c :: text => replace name replacement skipped (some c) text
  | 0, before, c :: text =>
    if occursAt name before (c :: text) then
      match name with
      | [] => replacement ++ c :: replace name replacement 0 (some c) text
      | _ :: tail => replacement ++ replace name replacement tail.length (some c) text
    else c :: replace name replacement 0 (some c) text

end Substitution

/-- The source with every whole-word occurrence of the name replaced by the parenthesized
replacement. -/
def substitute (source name replacement : String) : String :=
  String.ofList <|
    Substitution.replace name.toList ('(' :: replacement.toList ++ [')']) 0 none source.toList

/-- The rewritten source, if the name can be searched for. The search is made by a pattern of the
name, and the matcher refuses a pattern that is too large. Which names it takes is the first
argument: it is decided by the name alone, before the source is looked at. -/
def substitute? (searchable : String → Bool) (source name replacement : String) : Option String :=
  if searchable name then some (substitute source name replacement) else none

/-- A name that can be searched for is replaced. -/
theorem substitute?_of_searchable {searchable : String → Bool} {name : String}
    (found : searchable name = true) (source replacement : String) :
    substitute? searchable source name replacement = some (substitute source name replacement) :=
  if_pos found

/-- For a name that cannot be searched for there is no rewritten source. -/
theorem substitute?_of_not_searchable {searchable : String → Bool} {name : String}
    (refused : searchable name = false) (source replacement : String) :
    substitute? searchable source name replacement = none :=
  if_neg (Bool.eq_false_iff.1 refused)

end Formula
