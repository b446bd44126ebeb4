import ClassDiagram.Reading.Delimiter

/-!
# Type references

A type reference is a tuple in parentheses or a name with type arguments,
and any number of nullable, pointer and array suffixes behind it.  Only its
extent is read; its text is kept as written.

A dotted name is ambiguous: in front of a member the last part may be the
member's name and what comes before it an interface.  A dot continues the
type only when what follows the next part shows that the member's name is
still to come.
-/

namespace ClassDiagram.Reading

open Source (Token Lexeme)

/-- Words that begin no type and name no member. -/
def nonTypeWords : List String :=
  ["this", "operator", "implicit", "explicit", "event", "namespace", "using",
    "delegate"]

/-- The word that a token is, if it can begin a type or name a member. -/
def plainWord? (token : Token) : Option String :=
  (word? token).filter (!nonTypeWords.contains ·)

def taken (tokens rest : List Token) : List Token :=
  tokens.take (tokens.length - rest.length)

/-- Behind a dot and a name: does the dotted name continue the type? -/
def continuesType (tokens : List Token) : Bool :=
  let beyond :=
    if atMark '<' tokens then afterAngles? 0 tokens.tail else some tokens
  match beyond with
  | none => false
  | some [] => false
  | some (next :: _) =>
      next.isAnyWord || next.isMark '.' || next.isMark '?' ||
        next.isMark '[' || next.isMark '*'

/-- The tokens behind a dot and a part of a dotted name, or behind two
colons and a name, if the type goes on that way. -/
def afterQualifier? : List Token → Option (List Token)
  | first :: second :: rest =>
      if first.isMark '.' && second.isAnyWord then
        if continuesType rest then some rest else none
      else if first.isMark ':' && second.isMark ':' then
        if atAnyWord rest then some rest.tail else none
      else
        none
  | _ => none

theorem afterQualifier?_length_lt {tokens rest : List Token}
    (qualified : afterQualifier? tokens = some rest) :
    rest.length < tokens.length := by
  unfold afterQualifier? at qualified
  split at qualified
  · rename_i first second others
    split at qualified
    · split at qualified
      · cases qualified
        simp only [List.length_cons]
        omega
      · cases qualified
    · split at qualified
      · split at qualified
        · cases qualified
          simp only [List.length_cons, List.length_tail]
          omega
        · cases qualified
      · cases qualified
  · cases qualified

/-- Behind a name: skip type arguments and further parts of the name.  A
bracket that closes no type argument list is left, as in a comparison. -/
def skipNameParts (tokens : List Token) : List Token :=
  if atMark '<' tokens && (afterAngles? 0 tokens.tail).isNone then
    tokens
  else
    match _ : afterQualifier? (skipAngles tokens) with
    | some rest => skipNameParts rest
    | none => skipAngles tokens
termination_by tokens.length
decreasing_by
  exact Nat.lt_of_lt_of_le (afterQualifier?_length_lt ‹_›)
    (skipAngles_length_le tokens)

theorem skipNameParts_length_le (tokens : List Token) :
    (skipNameParts tokens).length ≤ tokens.length := by
  fun_induction skipNameParts tokens with
  | case1 tokens =>
      exact Nat.le_refl _
  | case2 tokens _ rest qualified inductionHypothesis =>
      have qualifiedBound := afterQualifier?_length_lt qualified
      have anglesBound := skipAngles_length_le tokens
      omega
  | case3 tokens =>
      exact skipAngles_length_le tokens

/-- An array suffix is a bracket with only commas behind it, not an index. -/
def atArraySuffix : List Token → Bool
  | first :: second :: _ =>
      first.isMark '[' && (second.isMark ']' || second.isMark ',')
  | _ => false

def skipTypeSuffixes : List Token → Except Refusal (List Token)
  | [] => .ok []
  | token :: rest =>
      if token.isMark '?' || token.isMark '*' then
        skipTypeSuffixes rest
      else if atArraySuffix (token :: rest) then
        match _ : skipGroup ']' rest with
        | .error refusal => .error refusal
        | .ok after => skipTypeSuffixes after
      else
        .ok (token :: rest)
termination_by tokens => tokens.length
decreasing_by
  · exact Nat.lt_succ_self _
  · exact Nat.lt_succ_of_le (skipGroup_length_le ‹_›)

theorem skipTypeSuffixes_length_le {tokens rest : List Token}
    (skipped : skipTypeSuffixes tokens = .ok rest) :
    rest.length ≤ tokens.length := by
  fun_induction skipTypeSuffixes tokens with
  | case1 | case5 =>
      cases skipped
      exact Nat.le_refl _
  | case2 _ _ _ inductionHypothesis =>
      exact Nat.le_succ_of_le (inductionHypothesis skipped)
  | case3 =>
      cases skipped
  | case4 _ _ _ _ _ groupSkipped inductionHypothesis =>
      have groupBound := skipGroup_length_le groupSkipped
      have restBound := inductionHypothesis skipped
      exact Nat.le_succ_of_le (Nat.le_trans restBound groupBound)

def skipReferenceWords (tokens : List Token) : List Token :=
  match tokens with
  | token :: rest =>
      if token.isWord "ref" then skipWord "readonly" rest else token :: rest
  | [] => []

theorem skipReferenceWords_length_le (tokens : List Token) :
    (skipReferenceWords tokens).length ≤ tokens.length := by
  unfold skipReferenceWords
  split
  · rename_i token rest
    split
    · exact Nat.le_succ_of_le (skipWord_length_le _ rest)
    · exact Nat.le_refl _
  · exact Nat.le_refl _

/-- The tokens behind the type that begins here; none if no type does. -/
def skipType? (tokens : List Token) :
    Except Refusal (Option (List Token)) :=
  match skipReferenceWords tokens with
  | [] => .ok none
  | token :: rest =>
      if token.isMark '(' then
        match skipGroup ')' rest with
        | .error refusal => .error refusal
        | .ok after => (skipTypeSuffixes after).map some
      else if (plainWord? token).isSome then
        (skipTypeSuffixes (skipNameParts rest)).map some
      else
        .ok none

theorem skipType?_length_lt {tokens rest : List Token}
    (skipped : skipType? tokens = .ok (some rest)) :
    rest.length < tokens.length := by
  have wordsBound := skipReferenceWords_length_le tokens
  unfold skipType? at skipped
  split at skipped
  · cases skipped
  · rename_i token others start
    rw [start, List.length_cons] at wordsBound
    split at skipped
    · split at skipped
      · cases skipped
      · rename_i after grouped
        have groupBound := skipGroup_length_le grouped
        cases suffixed : skipTypeSuffixes after with
        | error refusal =>
            rw [suffixed] at skipped
            cases skipped
        | ok behind =>
            have suffixBound := skipTypeSuffixes_length_le suffixed
            rw [suffixed] at skipped
            cases skipped
            omega
    · split at skipped
      · have nameBound := skipNameParts_length_le others
        cases suffixed : skipTypeSuffixes (skipNameParts others) with
        | error refusal =>
            rw [suffixed] at skipped
            cases skipped
        | ok behind =>
            have suffixBound := skipTypeSuffixes_length_le suffixed
            rw [suffixed] at skipped
            cases skipped
            omega
      · cases skipped

end ClassDiagram.Reading
