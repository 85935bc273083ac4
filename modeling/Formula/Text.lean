set_option autoImplicit false

/-!
# Cutting texts

## Main definitions

* `Formula.Text.cut` — the parts of a text before and after a separator.
-/

namespace Formula.Text

/-- The parts of a text before and after its first separator; without a separator the whole
text, and no second part. -/
def cut (isSeparator : Char → Bool) (text : List Char) : List Char × Option (List Char) :=
  match text.dropWhile fun c => !isSeparator c with
  | [] => (text, none)
  | _ :: rest => (text.takeWhile fun c => !isSeparator c, some rest)

end Formula.Text
