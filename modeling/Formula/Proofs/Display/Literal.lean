import Formula.Proofs.Display.ReadBack

set_option autoImplicit false

/-!
# Text literals

A text is written between two delimiters. What is written is a single token exactly if every
delimiter in the content has an escape character just before it and the content does not end with
one, and then it stands for the text that it was written for. Escape characters are not counted: a
delimiter after two of them is escaped, too, and the escape characters belong to the content.

## Main results

* `Formula.Delimited.escaped_iff` — escaped contents, delimiter by delimiter.
* `Formula.tokenize_enclose_iff` — a content between delimiters is a single token if it is escaped.
* `Formula.Expression.evaluate_literal` — which contents are literals, and their values.
-/

namespace Formula

namespace Delimited

variable {content : List Char}

/-- **A content is escaped** if an escape character stands before every delimiter in it and not at
its end. -/
theorem escaped_iff : Escaped content ↔
    (∀ front back, content = front ++ delimiter :: back → front.getLast? = some escape) ∧
      content.getLast? ≠ some escape := by
  refine and_congr_left fun _ => ?_
  rw [List.isChain_iff_forall_rel_of_append_cons_cons]
  constructor
  · rintro chain front back rfl
    obtain rfl | ⟨front, c, rfl⟩ := List.eq_nil_or_concat' front
    · -- the opening delimiter is no escape character
      exact absurd (@chain delimiter delimiter [] back rfl rfl) (by decide)
    · have isEscape := @chain c delimiter (delimiter :: front) back (by simp) rfl
      rw [List.getLast?_concat, isEscape]
  · rintro escaped before c front back split rfl
    obtain _ | ⟨d, front⟩ := front
    · obtain ⟨rfl, rfl⟩ := List.cons.inj split
      cases escaped [] back rfl
    · obtain ⟨rfl, rfl⟩ := List.cons.inj split
      simpa using escaped (front ++ [before]) back (by simp)

/-- Different contents are different texts. -/
lemma enclose_injective : Function.Injective enclose := fun left right same => by
  rw [← content_enclose left, same, content_enclose]

end Delimited

variable {operators : OperatorTable}

/-- **A content between delimiters is a single token** exactly if it is escaped, whatever the
operators are. -/
theorem tokenize_enclose_iff {content : List Char} :
    tokenize operators (String.ofList (Delimited.enclose content)) =
        .ok [String.ofList (Delimited.enclose content)] ↔ Delimited.Escaped content := by
  constructor
  · intro spelled
    obtain ⟨other, escaped, same⟩ :=
      (tokenize_eq_ok_iff.1 spelled).exists_escaped List.mem_cons_self (by simp [Delimited.enclose])
    rw [String.toList_ofList] at same
    rwa [Delimited.enclose_injective same]
  · intro escaped
    have printable :
        (Value.text (String.ofList (Delimited.enclose content))).Printable .unlimited :=
      ⟨content, escaped, String.toList_ofList⟩
    have spelled := @Value.tokenize_display operators _ _ printable
    exact spelled

namespace Expression

/-- **Text literals are exactly the escaped ones.** What a text with a given content is written as
is a single token of its own, with any operators, exactly if an escape character stands before every
delimiter in the content and not at its end. Then its value is the text with this content, with any
symbols and in any context. -/
theorem evaluate_literal (content : String) (operators : OperatorTable) (symbols : Symbols)
    (context : NumericContext) :
    let literal := Value.ofContent content
    (tokenize operators literal.display = .ok [literal.display] ↔
      (∀ front back, content.toList = front ++ Delimited.delimiter :: back →
        front.getLast? = some Delimited.escape) ∧
        content.toList.getLast? ≠ some Delimited.escape) ∧
      (tokenize operators literal.display = .ok [literal.display] →
        (Expression.mk literal.display context symbols none).evaluate.1 = .ok literal ∧
          literal.content? = some content) := by
  intro literal
  have single : tokenize operators literal.display = .ok [literal.display] ↔
      Delimited.Escaped content.toList := tokenize_enclose_iff
  refine ⟨single.trans Delimited.escaped_iff, fun spelled => ⟨?_, ?_⟩⟩
  · have printable : literal.Printable context :=
      ⟨content.toList, single.1 spelled, String.toList_ofList⟩
    exact evaluate_display_of_printable printable rfl (by simp [literal, Value.ofContent])
  · simp [literal, Value.ofContent, Value.content?, Value.text?]

/-- A delimiter that is escaped, behind a blank, and one that is not. -/
theorem evaluate_literal_apostrophe :
    let escaped := Value.ofContent " it\\'s"
    let broken := Value.ofContent "it's"
    tokenize .standard escaped.display = .ok [escaped.display] ∧
      (Expression.mk escaped.display .decimal32 .standard none).evaluate.1 = .ok escaped ∧
      tokenize .standard broken.display ≠ .ok [broken.display] := by
  intro escaped broken
  have spelled : tokenize .standard escaped.display = .ok [escaped.display] := by decide +kernel
  refine ⟨spelled, ((evaluate_literal " it\\'s" .standard .standard .decimal32).2 spelled).1, ?_⟩
  intro single
  have content := ((evaluate_literal "it's" .standard .standard .decimal32).1.1 single).1
  exact absurd (content ['i', 't'] ['s'] rfl) (by decide)

end Expression

end Formula
