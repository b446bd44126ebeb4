import ClassDiagram.Proofs.Reading.SkippedParts

/-!
# Expressions

An expression is nested and has none of the marks that end it outside its
groups.  So it is skipped up to the first of these marks behind it.
-/

namespace ClassDiagram.Reading

open Source (Token Lexeme)

/-- Tokens are nested, and none of these marks is outside their groups. -/
inductive NestedWithout (stops : List Char) : List Token → Prop
  | nil : NestedWithout stops []
  | neutral {token : Token} {rest : List Token}
      (noStop : stops.any token.isMark = false)
      (notOpening : closer? token = none)
      (notClosing : closing? token = none)
      (nested : NestedWithout stops rest) :
      NestedWithout stops (token :: rest)
  | group {opening closing : Token} {wanted : Char} {inner rest : List Token}
      (noStop : stops.any opening.isMark = false)
      (opens : closer? opening = some wanted)
      (closes : closing? closing = some wanted)
      (inside : Nested inner) (nested : NestedWithout stops rest) :
      NestedWithout stops (opening :: (inner ++ closing :: rest))

namespace NestedWithout

variable {stops : List Char} {tokens : List Token}

/-- An expression is skipped up to the mark behind it. -/
theorem skipUntil_eq (nested : NestedWithout stops tokens) {stop : Token}
    (isStop : stops.any stop.isMark = true) (rest : List Token) :
    skipUntil stops (tokens ++ stop :: rest) = .ok (stop :: rest) := by
  induction nested with
  | nil => exact skipUntil_stop isStop
  | neutral noStop notOpening notClosing nested inductionHypothesis =>
      rw [List.cons_append, skipUntil_neutral noStop notOpening notClosing]
      exact inductionHypothesis
  | group noStop opens closes inside nested inductionHypothesis =>
      rw [List.cons_append, List.append_assoc, List.cons_append,
        skipUntil_group noStop opens (inside.skipGroup_eq closes _)]
      exact inductionHypothesis

/-- A statement is skipped through its semicolon. -/
theorem skipStatement_eq (nested : NestedWithout [';'] tokens)
    {semicolon : Token} (isSemicolon : semicolon.isMark ';' = true)
    (rest : List Token) :
    skipStatement (tokens ++ semicolon :: rest) = .ok rest := by
  rw [skipStatement, nested.skipUntil_eq (by simp [isSemicolon])]
  rfl

end NestedWithout

end ClassDiagram.Reading
