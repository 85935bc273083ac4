import Formula.Main
import Formula.Proofs.Postfix.Term
import Formula.Proofs.Infix
import Formula.Proofs.Postfix.Recognition
import Formula.Proofs.Postfix.Grouping
import Formula.Proofs.Postfix.Meaning
import Formula.Proofs.Caching
import Formula.Proofs.Postfix.Agreement
import Formula.Proofs.Registration
import Formula.Proofs.Infix.Language
import Formula.Proofs.Infix.Place
import Formula.Proofs.Infix.Acceptance
import Formula.Proofs.Shadowing
import Formula.Proofs.Token.Shape
import Formula.Proofs.Token.Splitting
import Formula.Proofs.Token.Spacing
import Formula.Proofs.Unicode.Folding
import Formula.Proofs.Substitution.Word
import Formula.Proofs.Substitution.Occurrence
import Formula.Proofs.Postfix.Mirroring
import Formula.Proofs.Substitution.Inlining
import Formula.Proofs.Decimal.Digits
import Formula.Proofs.Decimal.Stored
import Formula.Proofs.Decimal.Rounding
import Formula.Proofs.Decimal.Notation
import Formula.Proofs.Display.Printable
import Formula.Proofs.Display.ReadBack
import Formula.Proofs.Decimal.Rational
import Formula.Proofs.Decimal.Significant
import Formula.Proofs.Decimal.Quotient
import Formula.Proofs.Decimal.Power
import Formula.Proofs.Operator.Scale
import Formula.Proofs.Postfix.Unforced
import Formula.Proofs.Decimal.ExactQuotient
import Formula.Proofs.Token.Segmentation
import Formula.Proofs.Postfix.Conservation
import Formula.Proofs.Display.Literal
import Formula.Proofs.Decimal.Projection
import Formula.Proofs.Substitution.Commutation
import Formula.Proofs.Function.Extreme
import Formula.Proofs.Operator.Remainder
import Formula.Proofs.Decimal.Canonical
import Formula.Proofs.Postfix.Position
import Formula.Proofs.Bindings
import Formula.Proofs.Operator.Repetition
import Formula.Proofs.Decimal.Shift
