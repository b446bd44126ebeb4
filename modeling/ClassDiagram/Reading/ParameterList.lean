import ClassDiagram.Declaration
import ClassDiagram.Reading.TypeReference

/-!
# Parameter lists

Of each parameter the name and the type are kept.  Attributes, the words
that say how an argument is passed, and default values are skipped.
-/

namespace ClassDiagram.Reading

open Source (Token Lexeme)

def parameterWords : List String :=
  ["this", "ref", "out", "in", "params", "scoped", "readonly"]

/-- The word of a parameter that takes any arguments. -/
def anyArguments : String :=
  "__arglist"

/-- A token that says how an argument is passed; its word is the type or the
name itself unless a type can follow. -/
def isParameterModifier (token : Token) (rest : List Token) : Bool :=
  match word? token with
  | some text =>
      parameterWords.contains text && (atAnyWord rest || atMark '(' rest)
  | none => false

/-- Skip the words that say how an argument is passed. -/
def skipParameterModifiers : List Token → List Token
  | [] => []
  | token :: rest =>
      if isParameterModifier token rest then
        skipParameterModifiers rest
      else
        token :: rest

theorem skipParameterModifiers_length_le (tokens : List Token) :
    (skipParameterModifiers tokens).length ≤ tokens.length := by
  fun_induction skipParameterModifiers tokens with
  | case1 | case3 =>
      exact Nat.le_refl _
  | case2 _ _ _ inductionHypothesis =>
      exact Nat.le_succ_of_le inductionHypothesis

def skipDefaultValue (tokens : List Token) : Except Refusal (List Token) :=
  if atMark '=' tokens then
    skipUntil [',', ')'] tokens.tail
  else
    .ok tokens

theorem skipDefaultValue_length_le {tokens rest : List Token}
    (skipped : skipDefaultValue tokens = .ok rest) :
    rest.length ≤ tokens.length := by
  unfold skipDefaultValue at skipped
  split at skipped
  · have bound := skipUntil_length_le skipped
    rw [List.length_tail] at bound
    omega
  · cases skipped
    exact Nat.le_refl _

def readTypedParameter (tokens : List Token) : Result Parameter :=
  match skipType? tokens with
  | .error refusal => .error refusal
  | .ok none => refuseAt .missingParameterType tokens
  | .ok (some behindType) =>
      match expectWord .missingParameterName behindType with
      | .error refusal => .error refusal
      | .ok (name, behindName) =>
          (skipDefaultValue behindName).map fun rest =>
            (⟨name, Token.verbatim (taken tokens behindType)⟩, rest)

def readParameter (tokens : List Token) : Result Parameter :=
  match skipAttributes tokens with
  | .error refusal => .error refusal
  | .ok behindAttributes =>
      match skipParameterModifiers behindAttributes with
      | [] => readTypedParameter []
      | token :: rest =>
          if token.isWord anyArguments then
            .ok (⟨anyArguments, ""⟩, rest)
          else
            readTypedParameter (token :: rest)

theorem readTypedParameter_length_lt
    {tokens rest : List Token} {parameter : Parameter}
    (read : readTypedParameter tokens = .ok (parameter, rest)) :
    rest.length < tokens.length := by
  unfold readTypedParameter at read
  split at read
  · cases read
  · cases read
  · rename_i behindType typed
    have typeBound := skipType?_length_lt typed
    split at read
    · cases read
    · rename_i name behindName named
      have nameBound := expectWord_length_lt named
      cases skipped : skipDefaultValue behindName with
      | error refusal =>
          rw [skipped] at read
          cases read
      | ok behind =>
          have valueBound := skipDefaultValue_length_le skipped
          rw [skipped] at read
          cases read
          omega

theorem readParameter_length_lt
    {tokens rest : List Token} {parameter : Parameter}
    (read : readParameter tokens = .ok (parameter, rest)) :
    rest.length < tokens.length := by
  unfold readParameter at read
  split at read
  · cases read
  · rename_i behindAttributes attributesSkipped
    have attributeBound := skipAttributes_length_le attributesSkipped
    have modifierBound := skipParameterModifiers_length_le behindAttributes
    split at read
    · cases readTypedParameter_length_lt read
    · rename_i token others start
      rw [start, List.length_cons] at modifierBound
      split at read
      · cases read
        omega
      · have typedBound := readTypedParameter_length_lt read
        rw [List.length_cons] at typedBound
        omega

def readParameters (tokens : List Token) : Result (List Parameter) :=
  match _ : readParameter tokens with
  | .error refusal => .error refusal
  | .ok (parameter, rest) =>
      if atMark ',' rest then
        (readParameters rest.tail).map fun (others, behind) =>
          (parameter :: others, behind)
      else
        (expectMark ')' rest).map fun behind => ([parameter], behind)
termination_by tokens.length
decreasing_by
  have bound := readParameter_length_lt ‹_›
  rw [List.length_tail]
  omega

def readParameterList (tokens : List Token) : Result (List Parameter) :=
  if atMark ')' tokens then
    .ok ([], tokens.tail)
  else
    readParameters tokens

theorem readParameters_length_lt
    {tokens rest : List Token} {parameters : List Parameter}
    (read : readParameters tokens = .ok (parameters, rest)) :
    rest.length < tokens.length := by
  fun_induction readParameters tokens generalizing parameters rest with
  | case1 =>
      cases read
  | case2 tokens parameter behind parameterRead more inductionHypothesis =>
      have parameterBound := readParameter_length_lt parameterRead
      cases others : readParameters behind.tail with
      | error refusal =>
          rw [others] at read
          cases read
      | ok result =>
          have othersBound := inductionHypothesis others
          rw [List.length_tail] at othersBound
          rw [others] at read
          cases read
          omega
  | case3 tokens parameter behind parameterRead last =>
      have parameterBound := readParameter_length_lt parameterRead
      cases closed : expectMark ')' behind with
      | error refusal =>
          rw [closed] at read
          cases read
      | ok after =>
          have closingBound := expectMark_length_lt closed
          rw [closed] at read
          cases read
          omega

theorem readParameterList_length_le
    {tokens rest : List Token} {parameters : List Parameter}
    (read : readParameterList tokens = .ok (parameters, rest)) :
    rest.length ≤ tokens.length := by
  unfold readParameterList at read
  split at read
  · cases read
    rw [List.length_tail]
    omega
  · exact Nat.le_of_lt (readParameters_length_lt read)

end ClassDiagram.Reading
