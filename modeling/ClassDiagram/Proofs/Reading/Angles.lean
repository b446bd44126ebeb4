import ClassDiagram.Reading.TypeReference
import Mathlib.Data.List.Basic

/-!
# Angle brackets

Some tokens can stand between the brackets of a type argument list without
changing where it closes.  A whole list in brackets is such a group again.
-/

namespace ClassDiagram.Reading

open Source (Token Lexeme)

theorem afterAngles?_opening {token : Token} (depth : Nat)
    (rest : List Token) (opening : token.isMark '<' = true) :
    afterAngles? depth (token :: rest) = afterAngles? (depth + 1) rest := by
  rw [afterAngles?.eq_def]
  simp only [opening, if_true]

theorem afterAngles?_closing_zero {token : Token} (rest : List Token)
    (closing : token.isMark '>' = true) :
    afterAngles? 0 (token :: rest) = some rest := by
  have notOpening : token.isMark '<' = false := by
    simp only [Token.isMark, beq_iff_eq] at closing
    simp [Token.isMark, closing]
  rw [afterAngles?.eq_def]
  simp only [notOpening, closing, Bool.false_eq_true, if_false, if_true]

theorem afterAngles?_closing_succ {token : Token} (depth : Nat)
    (rest : List Token) (closing : token.isMark '>' = true) :
    afterAngles? (depth + 1) (token :: rest) = afterAngles? depth rest := by
  have notOpening : token.isMark '<' = false := by
    simp only [Token.isMark, beq_iff_eq] at closing
    simp [Token.isMark, closing]
  rw [afterAngles?.eq_def]
  simp only [notOpening, closing, Bool.false_eq_true, if_false, if_true]

theorem afterAngles?_ending {token : Token} (depth : Nat)
    (rest : List Token) (ending : endsTypeArguments token = true) :
    afterAngles? depth (token :: rest) = none := by
  have noAngle : token.isMark '<' = false ∧ token.isMark '>' = false := by
    simp only [endsTypeArguments, Token.isMark, Bool.or_eq_true, beq_iff_eq]
      at ending
    rcases ending with ((mark | mark) | mark) | mark <;>
      simp [Token.isMark, mark]
  rw [afterAngles?.eq_def]
  simp only [noAngle, ending, Bool.false_eq_true, if_false, if_true]

theorem afterAngles?_inner {token : Token} (depth : Nat)
    (rest : List Token) (notOpening : token.isMark '<' = false)
    (notClosing : token.isMark '>' = false)
    (notEnding : endsTypeArguments token = false) :
    afterAngles? depth (token :: rest) = afterAngles? depth rest := by
  rw [afterAngles?.eq_def]
  simp only [notOpening, notClosing, notEnding, Bool.false_eq_true, if_false]

/-- The tokens can stand in type arguments and open as many lists as they
close. -/
def PassesAngles (tokens : List Token) : Prop :=
  ∀ (depth : Nat) (rest : List Token),
    afterAngles? depth (tokens ++ rest) = afterAngles? depth rest

theorem passesAngles_nil : PassesAngles [] :=
  fun _ _ => rfl

theorem PassesAngles.append {first second : List Token}
    (firstPasses : PassesAngles first)
    (secondPasses : PassesAngles second) :
    PassesAngles (first ++ second) := by
  intro depth rest
  rw [List.append_assoc, firstPasses, secondPasses]

theorem PassesAngles.cons {token : Token} {tokens : List Token}
    (firstPasses : PassesAngles [token]) (passes : PassesAngles tokens) :
    PassesAngles (token :: tokens) :=
  firstPasses.append passes

theorem passesAngles_word (lead text : String) :
    PassesAngles [⟨lead, .word text⟩] := by
  intro depth rest
  apply afterAngles?_inner <;> rfl

theorem passesAngles_mark (lead : String) {c : Char}
    (noAngle : c ≠ '<' ∧ c ≠ '>')
    (noEnd : c ≠ ';' ∧ c ≠ '\x7b' ∧ c ≠ '\x7d') :
    PassesAngles [⟨lead, .mark c⟩] := by
  intro depth rest
  apply afterAngles?_inner <;>
    simp [Token.isMark, endsTypeArguments, noAngle, noEnd]

inductive IsAngleGroup : List Token → Prop
  | absent : IsAngleGroup []
  | present {inner : List Token} (passes : PassesAngles inner) :
      IsAngleGroup (⟨"", .mark '<'⟩ :: (inner ++ [⟨"", .mark '>'⟩]))

/-- What stands behind a list in angle brackets. -/
theorem afterAngles?_present {inner : List Token}
    (passes : PassesAngles inner) (rest : List Token) :
    afterAngles? 0 (inner ++ ⟨"", .mark '>'⟩ :: rest) = some rest := by
  rw [passes]
  exact afterAngles?_closing_zero rest rfl

theorem IsAngleGroup.passesAngles {group : List Token}
    (isGroup : IsAngleGroup group) : PassesAngles group := by
  cases isGroup with
  | absent =>
      exact passesAngles_nil
  | @present inner passes =>
      intro depth rest
      rw [List.cons_append, List.append_assoc,
        afterAngles?_opening depth _ rfl, passes, List.singleton_append]
      exact afterAngles?_closing_succ depth rest rfl

/-- A list in angle brackets is stepped over whole. -/
theorem IsAngleGroup.skipAngles_eq {group rest : List Token}
    (isGroup : IsAngleGroup group) (behind : atMark '<' rest = false) :
    skipAngles (group ++ rest) = rest := by
  cases isGroup with
  | absent =>
      simp [skipAngles, behind]
  | @present inner passes =>
      have opening : atMark '<' (⟨"", .mark '<'⟩ ::
          (inner ++ [⟨"", .mark '>'⟩]) ++ rest) = true := rfl
      rw [skipAngles, opening, if_pos rfl, List.cons_append, List.tail_cons,
        List.append_assoc, List.singleton_append,
        afterAngles?_present passes]
      rfl

/-- A list in angle brackets is closed if its bracket is next. -/
theorem IsAngleGroup.closed {group rest : List Token}
    (isGroup : IsAngleGroup group) (behind : atMark '<' rest = false)
    (opening : atMark '<' (group ++ rest) = true) :
    afterAngles? 0 (group ++ rest).tail = some rest := by
  cases isGroup with
  | absent =>
      rw [List.nil_append, behind] at opening
      cases opening
  | @present inner passes =>
      rw [List.cons_append, List.tail_cons, List.append_assoc,
        List.singleton_append]
      exact afterAngles?_present passes rest

/-! ## Parts of a name -/

theorem skipAngles_none {tokens : List Token}
    (noAngle : atMark '<' tokens = false) : skipAngles tokens = tokens := by
  rw [skipAngles, noAngle, if_neg Bool.false_ne_true]

theorem skipNameParts_unclosed {tokens : List Token}
    (unclosed : (atMark '<' tokens &&
      (afterAngles? 0 tokens.tail).isNone) = true) :
    skipNameParts tokens = tokens := by
  rw [skipNameParts, if_pos unclosed]

/-- The type goes on behind a further part of its name. -/
theorem skipNameParts_qualified {tokens rest : List Token}
    (closed : (atMark '<' tokens &&
      (afterAngles? 0 tokens.tail).isNone) = false)
    (qualified : afterQualifier? (skipAngles tokens) = some rest) :
    skipNameParts tokens = skipNameParts rest := by
  rw [skipNameParts, closed, if_neg Bool.false_ne_true]
  split
  · rename_i behind found
    rw [qualified] at found
    cases found
    rfl
  · rename_i refused
    rw [qualified] at refused
    cases refused

/-- The type ends behind its arguments if no further part is next. -/
theorem skipNameParts_unqualified {tokens : List Token}
    (closed : (atMark '<' tokens &&
      (afterAngles? 0 tokens.tail).isNone) = false)
    (unqualified : afterQualifier? (skipAngles tokens) = none) :
    skipNameParts tokens = skipAngles tokens := by
  rw [skipNameParts, closed, if_neg Bool.false_ne_true]
  split
  · rename_i behind found
    rw [unqualified] at found
    cases found
  · rfl

end ClassDiagram.Reading
