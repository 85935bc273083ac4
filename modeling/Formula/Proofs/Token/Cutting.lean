import Formula.Proofs.Token.Segmentation

set_option autoImplicit false

/-!
# Cutting a scan in two

A scan ends with a fault at a place where no token stands, and the tokens in front of the place have
been taken before. They are the tokens of the text in front of it, also when that text is all there
is: what followed a token there either follows it still, or nothing does.

## Main definitions

* `Formula.Scan.Takes` — the tokens between two places of a text.

## Main results

* `Formula.Scan.Takes.cons` — a token is taken in front of others.
* `Formula.Scan.takes_of_within` — a scan is cut in two between any two of its tokens.
* `Formula.Scan.breaks_of_within` — the place of the fault at the end of a scan.
-/

namespace Formula

namespace Scan

open Cursor

variable {operators : OperatorTable}

/-- Between two places of a text some tokens are taken. The text between the places is split into
them, as if it were all there is, and it ends with the last of them. -/
structure Takes (operators : OperatorTable) (cursor later : Cursor) (front : List Char)
    (tokens : List String) : Prop where
  rest : cursor.rest = front ++ later.rest
  position : later.position = cursor.position + front.length
  splits : Splits operators cursor.previous front tokens
  ends : (front = [] ∧ tokens = []) ∨ ∃ token ∈ tokens.getLast?, token.toList <:+ front

/-- A cursor that is not called takes nothing. -/
lemma Takes.refl (cursor : Cursor) : Takes operators cursor cursor [] [] where
  rest := rfl
  position := rfl
  splits := Splits.nil_iff.2 rfl
  ends := .inl ⟨rfl, rfl⟩

/-- **A token is taken in front of others.** Behind it comes what has come there before, or the end
of the text. -/
lemma Takes.cons {cursor later : Cursor} {blanks token rest front : List Char}
    {tokens : List String} (blank : Unicode.IsBlanks blanks)
    (split : cursor.rest = blanks ++ (token ++ rest))
    (leads : Leads operators cursor.previous token rest)
    (takes : Takes operators ⟨cursor.position + blanks.length + token.length, rest,
      some (String.ofList token)⟩ later front tokens) :
    Takes operators cursor later (blanks ++ (token ++ front)) (String.ofList token :: tokens) where
  rest := by
    have following : rest = front ++ later.rest := takes.rest
    rw [split, following]
    simp
  position := by
    rw [takes.position]
    simp only [List.length_append]
    omega
  splits := by
    refine .token blank (leads.congr (fun c atFront => .inl ?_) rfl) takes.splits
    have following : rest = front ++ later.rest := takes.rest
    rw [following, List.head?_append, Option.mem_def.1 atFront]
    rfl
  ends := by
    right
    rcases takes.ends with ⟨rfl, rfl⟩ | ⟨last, isLast, ends⟩
    · exact ⟨String.ofList token, rfl, by simp⟩
    · refine ⟨last, ?_, ?_⟩
      · rw [List.getLast?_cons, Option.mem_def.1 isLast]
        rfl
      · exact (ends.trans (List.suffix_append token front)).trans (List.suffix_append blanks _)

/-- A scan that yields a lexeme takes the token at the front and goes on behind it. -/
lemma within_eq_cons {steps : Nat} {cursor : Cursor} {lexeme : Lexeme} {more : List Lexeme}
    {fault : Option Fault} (scanned : within operators steps cursor = ⟨lexeme :: more, fault⟩) :
    ∃ blanks token rest left, Unicode.IsBlanks blanks ∧ cursor.rest = blanks ++ (token ++ rest) ∧
      Leads operators cursor.previous token rest ∧
      lexeme = ⟨String.ofList token, cursor.position + blanks.length + token.length⟩ ∧
      within operators left ⟨lexeme.stop, rest, some lexeme.token⟩ = ⟨more, fault⟩ := by
  cases steps with
  | zero => cases scanned
  | succ steps =>
    rw [within] at scanned
    rcases cursor.next_cases operators with ⟨-, called⟩ |
      ⟨blanks, token, rest, blank, split, leads, called⟩ | ⟨other, -, -, called⟩
    · rw [called] at scanned
      cases scanned
    · rw [called] at scanned
      obtain ⟨isLexemes, isFault⟩ := Scan.mk.inj scanned
      obtain ⟨rfl, isMore⟩ := List.cons.inj isLexemes
      exact ⟨blanks, token, rest, steps, blank, split, leads, rfl, by rw [← isMore, ← isFault]⟩
    · rw [called] at scanned
      cases scanned

/-- **A scan is cut in two** between any two of its tokens: the first ones are those of the text in
front of some place, and the scan goes on from there with the others.

**Proof sketch.** Induction on the first tokens. -/
theorem takes_of_within {steps : Nat} {cursor : Cursor} {first more : List Lexeme}
    {fault : Option Fault} (scanned : within operators steps cursor = ⟨first ++ more, fault⟩) :
    ∃ later front left, Takes operators cursor later front (first.map Lexeme.token) ∧
      within operators left later = ⟨more, fault⟩ := by
  induction first generalizing steps cursor with
  | nil => exact ⟨cursor, [], steps, .refl cursor, scanned⟩
  | cons lexeme first ih =>
    obtain ⟨blanks, token, rest, left, blank, split, leads, rfl, scanned⟩ := within_eq_cons scanned
    obtain ⟨later, front, left, takes, goesOn⟩ := ih scanned
    exact ⟨later, blanks ++ (token ++ front), left, .cons blank split leads takes, goesOn⟩

/-- **The fault at the end of a scan** is found behind blanks, where no token stands. -/
lemma breaks_of_within {steps : Nat} {cursor : Cursor} {fault : Fault}
    (scanned : within operators steps cursor = ⟨[], some fault⟩) :
    ∃ blanks text, Unicode.IsBlanks blanks ∧ cursor.rest = blanks ++ text ∧
      Breaks operators (cursor.position + blanks.length) text fault := by
  cases steps with
  | zero => cases scanned
  | succ steps =>
    rw [within] at scanned
    rcases cursor.next_cases operators with ⟨-, called⟩ |
      ⟨blanks, token, rest, -, -, -, called⟩ | ⟨other, place, -, called⟩
    · rw [called] at scanned
      cases scanned
    · rw [called] at scanned
      cases scanned
    · rw [called] at scanned
      obtain rfl : other = fault := Option.some.inj (Scan.mk.inj scanned).2
      exact place

end Scan

end Formula
