import ClassDiagram.Proofs.Reading.ParameterForms

/-!
# Lists with commas

Parameters and the members of an enumeration are written as items with commas
between them, and an item may be given a value.  The value is nested and has
no comma outside its groups; then it has no closing mark outside them either,
so it ends in front of the mark that closes the list.
-/

namespace ClassDiagram.Reading

open Source (Token Lexeme)

/-! ## Items -/

section

variable {α : Type} (item : α → List Token → Prop)

/-- Items with a comma behind each. -/
inductive AreEnded : List α → List Token → Prop
  | nil : AreEnded [] []
  | cons {first : α} {others : List α} {tokens behind : List Token}
      {comma : Token} (isItem : item first tokens)
      (isComma : comma.isMark ',' = true) (further : AreEnded others behind) :
      AreEnded (first :: others) (tokens ++ comma :: behind)

/-- Items with a comma between any two of them. -/
inductive AreSeparated : List α → List Token → Prop
  | none : AreSeparated [] []
  | some {front : List α} {last : α} {tokens lastTokens : List Token}
      (ended : AreEnded item front tokens) (isLast : item last lastTokens) :
      AreSeparated (front ++ [last]) (tokens ++ lastTokens)

end

/-! ## Values -/

/-- A value with its equals sign, or nothing. -/
inductive IsGivenValue : List Token → Prop
  | absent : IsGivenValue []
  | present {equals : Token} {value : List Token}
      (isEquals : equals.isMark '=' = true)
      (nested : NestedWithout [','] value) :
      IsGivenValue (equals :: value)

/-- Nested tokens have no closing mark outside their groups. -/
theorem NestedWithout.untilClosing {stop closing : Char}
    (isClosing : isClosingMark closing = true) {tokens : List Token}
    (nested : NestedWithout [stop] tokens) :
    NestedWithout [stop, closing] tokens := by
  have widened : ∀ {token : Token}, [stop].any token.isMark = false →
      token.isMark closing = false →
        [stop, closing].any token.isMark = false := by
    intro token noStop notClosing
    rw [List.any_cons, List.any_nil, Bool.or_false] at noStop
    rw [List.any_cons, List.any_cons, noStop, notClosing]
    rfl
  induction nested with
  | nil => exact .nil
  | @neutral token rest noStop notOpening notClosing nested
      inductionHypothesis =>
      have other : token.isMark closing = false := by
        by_contra isMark
        rw [Bool.not_eq_false] at isMark
        rw [closing?_of_isMark isMark, if_pos isClosing] at notClosing
        cases notClosing
      exact .neutral (widened noStop other) notOpening notClosing
        inductionHypothesis
  | @group opening last wanted inner rest noStop opens closes inside nested
      inductionHypothesis =>
      have other : opening.isMark closing = false := by
        by_contra isMark
        rw [Bool.not_eq_false] at isMark
        have closesFirst : closing? opening = some closing := by
          rw [closing?_of_isMark isMark, if_pos isClosing]
        rw [closer?_eq_none_of_closing closesFirst] at opens
        cases opens
      exact .group (widened noStop other) opens closes inside
        inductionHypothesis

end ClassDiagram.Reading
