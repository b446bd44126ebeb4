import ClassDiagram.Reading.Delimiter
import Mathlib.Data.List.Basic

/-!
# Nested groups

Tokens are nested if every parenthesis, bracket and brace among them is closed
by its own kind and closes one.  Such tokens can be put inside any open group:
skipping the group passes over them.
-/

namespace ClassDiagram.Reading

open Source (Token Lexeme)

/-- Delimiters are properly nested; all other tokens are neutral. -/
inductive Nested : List Token → Prop
  | nil : Nested []
  | neutral {token : Token} {rest : List Token}
      (notOpening : closer? token = none)
      (notClosing : closing? token = none)
      (nested : Nested rest) :
      Nested (token :: rest)
  | group {opening closing : Token} {wanted : Char}
      {inner rest : List Token}
      (opens : closer? opening = some wanted)
      (closes : closing? closing = some wanted)
      (inside : Nested inner) (nested : Nested rest) :
      Nested (opening :: (inner ++ closing :: rest))

/-! ## One token of a group -/

theorem skipGroups_nil (tokens : List Token) :
    skipGroups [] tokens = .ok tokens := by
  rw [skipGroups.eq_def]

theorem closer?_eq_none_of_closing {token : Token} {c : Char}
    (closes : closing? token = some c) : closer? token = none := by
  obtain ⟨lead, lexeme⟩ := token
  cases lexeme with
  | mark d =>
      simp only [closing?] at closes
      split at closes
      · rename_i isClosing
        simp only [isClosingMark, Bool.or_eq_true, beq_iff_eq] at isClosing
        rcases isClosing with (rfl | rfl) | rfl <;> rfl
      · cases closes
  | _ =>
      rfl

theorem skipGroups_opening {token : Token} {wanted closer : Char}
    {outer : List Char} {rest : List Token}
    (opens : closer? token = some closer) :
    skipGroups (wanted :: outer) (token :: rest) =
      skipGroups (closer :: wanted :: outer) rest := by
  rw [skipGroups.eq_def]
  simp only [opens]

theorem skipGroups_neutral {token : Token} {wanted : Char}
    {outer : List Char} {rest : List Token}
    (notOpening : closer? token = none)
    (notClosing : closing? token = none) :
    skipGroups (wanted :: outer) (token :: rest) =
      skipGroups (wanted :: outer) rest := by
  rw [skipGroups.eq_def]
  simp only [notOpening, notClosing]

theorem skipGroups_closing {token : Token} {wanted : Char}
    {outer : List Char} {rest : List Token}
    (closes : closing? token = some wanted) :
    skipGroups (wanted :: outer) (token :: rest) =
      skipGroups outer rest := by
  rw [skipGroups.eq_def]
  simp only [closer?_eq_none_of_closing closes, closes, if_true]

/-! ## Nested tokens inside a group -/

/-- Nested tokens are passed over in every open group. -/
theorem Nested.skipGroups_eq {inner : List Token} (nested : Nested inner)
    (wanted : Char) (outer : List Char) (rest : List Token) :
    skipGroups (wanted :: outer) (inner ++ rest) =
      skipGroups (wanted :: outer) rest := by
  induction nested generalizing wanted outer rest with
  | nil =>
      rfl
  | neutral notOpening notClosing nested inductionHypothesis =>
      rw [List.cons_append, skipGroups_neutral notOpening notClosing]
      exact inductionHypothesis wanted outer rest
  | @group opening closing closer inner behind opens closes inside nested
      insideHypothesis behindHypothesis =>
      rw [List.cons_append, List.append_assoc, List.cons_append,
        skipGroups_opening opens, insideHypothesis,
        skipGroups_closing closes]
      exact behindHypothesis wanted outer rest

/-- A group of nested tokens is skipped through the mark that closes it. -/
theorem Nested.skipGroup_eq {inner : List Token} {closing : Token}
    {wanted : Char} (nested : Nested inner)
    (closes : closing? closing = some wanted) (rest : List Token) :
    skipGroup wanted (inner ++ closing :: rest) = .ok rest := by
  unfold skipGroup
  rw [nested.skipGroups_eq, skipGroups_closing closes, skipGroups_nil]

end ClassDiagram.Reading
