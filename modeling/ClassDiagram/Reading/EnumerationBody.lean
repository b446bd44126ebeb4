import ClassDiagram.Declaration
import ClassDiagram.Reading.Delimiter

/-!
# Enumerations

Of an enumeration the names of its values are kept.  The underlying type,
attributes and given values are skipped.
-/

namespace ClassDiagram.Reading

open Source (Token Lexeme)

/-- Skip the underlying type and step into the braces behind it. -/
def enterEnumeration (name : String) :
    List Token → Except Refusal (List Token)
  | [] => refuseAt (.missingEnumerationBody name) []
  | token :: rest =>
      if token.isMark '{' then .ok rest else enterEnumeration name rest

/-- Skip the value given to an enumeration member, if one is next. -/
def skipGivenValue (tokens : List Token) : Except Refusal (List Token) :=
  if atMark '=' tokens then
    skipUntil [',', '}'] tokens.tail
  else
    .ok tokens

theorem enterEnumeration_length_lt {name : String} {tokens rest : List Token}
    (entered : enterEnumeration name tokens = .ok rest) :
    rest.length < tokens.length := by
  fun_induction enterEnumeration name tokens with
  | case1 =>
      cases entered
  | case2 =>
      cases entered
      exact Nat.lt_succ_self _
  | case3 _ _ _ inductionHypothesis =>
      exact Nat.lt_succ_of_lt (inductionHypothesis entered)

theorem skipGivenValue_length_le {tokens rest : List Token}
    (skipped : skipGivenValue tokens = .ok rest) :
    rest.length ≤ tokens.length := by
  unfold skipGivenValue at skipped
  split at skipped
  · have bound := skipUntil_length_le skipped
    rw [List.length_tail] at bound
    omega
  · cases skipped
    exact Nat.le_refl _

/-- Read one member: its name, and the value given to it if there is one. -/
def readVariant (tokens : List Token) : Result String :=
  match expectWord .missingVariant tokens with
  | .error refusal => .error refusal
  | .ok (name, behindName) =>
      (skipGivenValue behindName).map fun rest => (name, rest)

theorem readVariant_length_lt {tokens rest : List Token} {name : String}
    (read : readVariant tokens = .ok (name, rest)) :
    rest.length < tokens.length := by
  unfold readVariant at read
  split at read
  · cases read
  · rename_i text behindName named
    have nameBound := expectWord_length_lt named
    cases skipped : skipGivenValue behindName with
    | error refusal =>
        rw [skipped] at read
        cases read
    | ok behind =>
        have valueBound := skipGivenValue_length_le skipped
        rw [skipped] at read
        cases read
        omega

/-- Read the members up to the brace that closes the body.  A comma may
follow the last one. -/
def readVariants (tokens : List Token) : Result (List String) :=
  match _ : skipAttributes tokens with
  | .error refusal => .error refusal
  | .ok start =>
      if atMark '}' start then
        .ok ([], start)
      else
        match _ : readVariant start with
        | .error refusal => .error refusal
        | .ok (name, rest) =>
            if atMark ',' rest then
              (readVariants rest.tail).map fun (others, behind) =>
                (name :: others, behind)
            else
              .ok ([name], rest)
termination_by tokens.length
decreasing_by
  have attributeBound := skipAttributes_length_le ‹_›
  have variantBound := readVariant_length_lt ‹_›
  rw [List.length_tail]
  omega

theorem readVariants_length_le
    {tokens rest : List Token} {names : List String}
    (read : readVariants tokens = .ok (names, rest)) :
    rest.length ≤ tokens.length := by
  fun_induction readVariants tokens generalizing names rest with
  | case1 | case3 =>
      cases read
  | case2 _ _ attributesSkipped =>
      cases read
      exact skipAttributes_length_le attributesSkipped
  | case4 _ start attributesSkipped _ _ behind variantRead _
      inductionHypothesis =>
      have attributeBound := skipAttributes_length_le attributesSkipped
      have variantBound := readVariant_length_lt variantRead
      cases others : readVariants behind.tail with
      | error refusal =>
          rw [others] at read
          cases read
      | ok result =>
          have othersBound := inductionHypothesis others
          rw [List.length_tail] at othersBound
          rw [others] at read
          cases read
          omega
  | case5 _ _ attributesSkipped _ _ _ variantRead =>
      have attributeBound := skipAttributes_length_le attributesSkipped
      have variantBound := readVariant_length_lt variantRead
      cases read
      omega

def readEnumeration (modifiers : List Modifier) (tokens : List Token) :
    Result Enumeration :=
  match expectWord .missingEnumerationName tokens with
  | .error refusal => .error refusal
  | .ok (name, behindName) =>
      match enterEnumeration name behindName with
      | .error refusal => .error refusal
      | .ok body =>
          match readVariants body with
          | .error refusal => .error refusal
          | .ok (variants, behindBody) =>
              (expectMark '}' behindBody).map fun rest =>
                (⟨name, modifiers, variants⟩, skipMark ';' rest)

theorem readEnumeration_length_lt {modifiers : List Modifier}
    {tokens rest : List Token} {declared : Enumeration}
    (read : readEnumeration modifiers tokens = .ok (declared, rest)) :
    rest.length < tokens.length := by
  unfold readEnumeration at read
  split at read
  · cases read
  · rename_i name behindName named
    have nameBound := expectWord_length_lt named
    split at read
    · cases read
    · rename_i body entered
      have bodyBound := enterEnumeration_length_lt entered
      split at read
      · cases read
      · rename_i variants behindBody variantsRead
        have variantsBound := readVariants_length_le variantsRead
        cases closed : expectMark '}' behindBody with
        | error refusal =>
            rw [closed] at read
            cases read
        | ok after =>
            have closingBound := expectMark_length_lt closed
            have markBound := skipMark_length_le ';' after
            rw [closed] at read
            cases read
            omega

end ClassDiagram.Reading
