import ClassDiagram.Reading.Refusal

/-!
# Delimiters

Bodies, initializers, attributes and everything else the outline leaves out
are skipped with an eye on parentheses, brackets and braces only.  A group is
skipped to the mark that closes it; a closing mark of another kind on the way
refuses the source.

Angle brackets are different.  They may also be comparison signs, so a run
of them counts as a type argument list only if it closes before the
statement ends.
-/

namespace ClassDiagram.Reading

open Source (Token Lexeme)

def closingMark? : Char → Option Char
  | '(' => some ')'
  | '[' => some ']'
  | '{' => some '}'
  | _ => none

def isClosingMark (c : Char) : Bool :=
  c == ')' || c == ']' || c == '}'

def closer? (token : Token) : Option Char :=
  match token.lexeme with
  | .mark c => closingMark? c
  | _ => none

def closing? (token : Token) : Option Char :=
  match token.lexeme with
  | .mark c => if isClosingMark c then some c else none
  | _ => none

def word? (token : Token) : Option String :=
  match token.lexeme with
  | .word text => some text
  | _ => none

def atMark (c : Char) : List Token → Bool
  | [] => false
  | token :: _ => token.isMark c

def atAnyWord : List Token → Bool
  | [] => false
  | token :: _ => token.isAnyWord

/-- Step over the next token if it is this mark. -/
def skipMark (c : Char) : List Token → List Token
  | [] => []
  | token :: rest => if token.isMark c then rest else token :: rest

/-- Step over the next token if it is this word. -/
def skipWord (text : String) : List Token → List Token
  | [] => []
  | token :: rest => if token.isWord text then rest else token :: rest

def expectMark (c : Char) : List Token → Except Refusal (List Token)
  | [] => refuseAt (.missingMark c) []
  | token :: rest =>
      if token.isMark c then
        .ok rest
      else
        refuseAt (.missingMark c) (token :: rest)

def expectWord (fault : SyntaxFault) : List Token → Result String
  | [] => refuseAt fault []
  | token :: rest =>
      match word? token with
      | some text => .ok (text, rest)
      | none => refuseAt fault (token :: rest)

/-! ## Groups -/

/-- Skip to the end of the open groups, given the marks that close them,
innermost first. -/
def skipGroups : List Char → List Token → Except Refusal (List Token)
  | [], tokens => .ok tokens
  | wanted :: _, [] => refuseAt (.missingMark wanted) []
  | wanted :: outer, token :: rest =>
      match closer? token with
      | some closer => skipGroups (closer :: wanted :: outer) rest
      | none =>
          match closing? token with
          | none => skipGroups (wanted :: outer) rest
          | some found =>
              if found = wanted then
                skipGroups outer rest
              else
                refuseAt (.missingMark wanted) (token :: rest)

def skipGroup (closer : Char) (tokens : List Token) :
    Except Refusal (List Token) :=
  skipGroups [closer] tokens

theorem skipGroups_length_le {wanted : List Char} {tokens rest : List Token}
    (skipped : skipGroups wanted tokens = .ok rest) :
    rest.length ≤ tokens.length := by
  fun_induction skipGroups wanted tokens with
  | case1 tokens =>
      cases skipped
      exact Nat.le_refl _
  | case2 | case6 =>
      cases skipped
  | case3 wanted outer token others closer found inductionHypothesis =>
      exact Nat.le_succ_of_le (inductionHypothesis skipped)
  | case4 wanted outer token others noCloser noClosing inductionHypothesis =>
      exact Nat.le_succ_of_le (inductionHypothesis skipped)
  | case5 wanted outer token others noCloser found inductionHypothesis =>
      exact Nat.le_succ_of_le (inductionHypothesis skipped)

theorem skipGroup_length_le {closer : Char} {tokens rest : List Token}
    (skipped : skipGroup closer tokens = .ok rest) :
    rest.length ≤ tokens.length :=
  skipGroups_length_le skipped

/-- Skip up to one of these marks, which is not inside a group. -/
def skipUntil (stops : List Char) : List Token → Except Refusal (List Token)
  | [] => refuseAt .earlyEnd []
  | token :: rest =>
      if stops.any token.isMark then
        .ok (token :: rest)
      else
        match closer? token with
        | some closer =>
            match _ : skipGroup closer rest with
            | .error refusal => .error refusal
            | .ok after => skipUntil stops after
        | none =>
            if (closing? token).isSome then
              refuseAt .strayClosingMark (token :: rest)
            else
              skipUntil stops rest
termination_by tokens => tokens.length
decreasing_by
  · exact Nat.lt_succ_of_le (skipGroup_length_le ‹_›)
  · exact Nat.lt_succ_self _

def skipStatement (tokens : List Token) : Except Refusal (List Token) :=
  (skipUntil [';'] tokens).map List.tail

def skipAttributes : List Token → Except Refusal (List Token)
  | [] => .ok []
  | token :: rest =>
      if token.isMark '[' then
        match _ : skipGroup ']' rest with
        | .error refusal => .error refusal
        | .ok after => skipAttributes after
      else
        .ok (token :: rest)
termination_by tokens => tokens.length
decreasing_by
  exact Nat.lt_succ_of_le (skipGroup_length_le ‹_›)

/-- Skip a member that the outline leaves out.

The member ends behind a semicolon, or behind a block in braces that no
initializer follows.  The brace that closes the body around the member is
never taken. -/
def skipMember : List Token → Except Refusal (List Token)
  | [] => .ok []
  | token :: rest =>
      if token.isMark '}' then
        .ok (token :: rest)
      else if token.isMark ';' then
        .ok rest
      else
        match closer? token with
        | some closer =>
            match _ : skipGroup closer rest with
            | .error refusal => .error refusal
            | .ok after =>
                if closer = '}' ∧ atMark '=' after = false then
                  .ok after
                else
                  skipMember after
        | none => skipMember rest
termination_by tokens => tokens.length
decreasing_by
  · exact Nat.lt_succ_of_le (skipGroup_length_le ‹_›)
  · exact Nat.lt_succ_self _

def skipMethodBody (name : String) :
    List Token → Except Refusal (List Token)
  | [] => refuseAt (.missingMethodBody name) []
  | token :: rest =>
      if token.isMark '{' then
        skipGroup '}' rest
      else if token.lexeme = .arrow then
        skipStatement rest
      else if token.isMark ';' then
        .ok rest
      else if token.isMark '}' then
        refuseAt (.missingMethodBody name) (token :: rest)
      else
        match closer? token with
        | some closer =>
            match _ : skipGroup closer rest with
            | .error refusal => .error refusal
            | .ok after => skipMethodBody name after
        | none => skipMethodBody name rest
termination_by tokens => tokens.length
decreasing_by
  · exact Nat.lt_succ_of_le (skipGroup_length_le ‹_›)
  · exact Nat.lt_succ_self _

/-! ## Nothing skipped is read again

What is left behind a skipped part is no more than what was given, and less
wherever the part cannot be empty.
-/

theorem skipMark_length_le (c : Char) (tokens : List Token) :
    (skipMark c tokens).length ≤ tokens.length := by
  cases tokens with
  | nil =>
      exact Nat.le_refl _
  | cons token rest =>
      simp only [skipMark]
      split
      · exact Nat.le_succ _
      · exact Nat.le_refl _

theorem skipWord_length_le (text : String) (tokens : List Token) :
    (skipWord text tokens).length ≤ tokens.length := by
  cases tokens with
  | nil =>
      exact Nat.le_refl _
  | cons token rest =>
      simp only [skipWord]
      split
      · exact Nat.le_succ _
      · exact Nat.le_refl _

theorem expectMark_length_lt {c : Char} {tokens rest : List Token}
    (present : expectMark c tokens = .ok rest) :
    rest.length < tokens.length := by
  cases tokens with
  | nil =>
      cases present
  | cons token others =>
      simp only [expectMark, refuseAt] at present
      split at present
      · cases present
        exact Nat.lt_succ_self _
      · cases present

theorem expectWord_length_lt {fault : SyntaxFault} {text : String}
    {tokens rest : List Token}
    (present : expectWord fault tokens = .ok (text, rest)) :
    rest.length < tokens.length := by
  cases tokens with
  | nil =>
      cases present
  | cons token others =>
      simp only [expectWord, refuseAt] at present
      split at present
      · cases present
        exact Nat.lt_succ_self _
      · cases present

theorem skipUntil_length_le {stops : List Char} {tokens rest : List Token}
    (skipped : skipUntil stops tokens = .ok rest) :
    rest.length ≤ tokens.length := by
  fun_induction skipUntil stops tokens with
  | case1 | case3 | case5 =>
      cases skipped
  | case2 =>
      cases skipped
      exact Nat.le_refl _
  | case4 _ others _ _ _ after groupSkipped inductionHypothesis =>
      have groupBound := skipGroup_length_le groupSkipped
      have restBound := inductionHypothesis skipped
      exact Nat.le_succ_of_le (Nat.le_trans restBound groupBound)
  | case6 _ _ _ _ _ inductionHypothesis =>
      exact Nat.le_succ_of_le (inductionHypothesis skipped)

theorem skipStatement_length_le {tokens rest : List Token}
    (skipped : skipStatement tokens = .ok rest) :
    rest.length ≤ tokens.length := by
  unfold skipStatement at skipped
  cases reached : skipUntil [';'] tokens with
  | error refusal =>
      rw [reached] at skipped
      cases skipped
  | ok stopped =>
      rw [reached] at skipped
      cases skipped
      have bound := skipUntil_length_le reached
      rw [List.length_tail]
      omega

theorem skipAttributes_length_le {tokens rest : List Token}
    (skipped : skipAttributes tokens = .ok rest) :
    rest.length ≤ tokens.length := by
  fun_induction skipAttributes tokens with
  | case1 | case4 =>
      cases skipped
      exact Nat.le_refl _
  | case2 =>
      cases skipped
  | case3 _ _ _ _ groupSkipped inductionHypothesis =>
      have groupBound := skipGroup_length_le groupSkipped
      have restBound := inductionHypothesis skipped
      exact Nat.le_succ_of_le (Nat.le_trans restBound groupBound)

theorem skipMember_length_le {tokens rest : List Token}
    (skipped : skipMember tokens = .ok rest) :
    rest.length ≤ tokens.length := by
  fun_induction skipMember tokens with
  | case1 | case2 =>
      cases skipped
      exact Nat.le_refl _
  | case3 =>
      cases skipped
      exact Nat.le_succ _
  | case4 =>
      cases skipped
  | case5 _ _ _ _ _ _ _ groupSkipped _ =>
      cases skipped
      exact Nat.le_succ_of_le (skipGroup_length_le groupSkipped)
  | case6 _ _ _ _ _ _ _ groupSkipped _ inductionHypothesis =>
      have groupBound := skipGroup_length_le groupSkipped
      have restBound := inductionHypothesis skipped
      exact Nat.le_succ_of_le (Nat.le_trans restBound groupBound)
  | case7 _ _ _ _ _ inductionHypothesis =>
      exact Nat.le_succ_of_le (inductionHypothesis skipped)

/-- Skipping a member takes at least one token, unless the body around it
ends here. -/
theorem skipMember_length_lt {token : Token} {others rest : List Token}
    (inside : token.isMark '}' = false)
    (skipped : skipMember (token :: others) = .ok rest) :
    rest.length < (token :: others).length := by
  rw [skipMember] at skipped
  simp only [inside, Bool.false_eq_true, if_false] at skipped
  split at skipped
  · cases skipped
    exact Nat.lt_succ_self _
  · split at skipped
    · split at skipped
      · cases skipped
      · rename_i after groupSkipped
        have groupBound := skipGroup_length_le groupSkipped
        split at skipped
        · cases skipped
          exact Nat.lt_succ_of_le groupBound
        · have restBound := skipMember_length_le skipped
          exact Nat.lt_succ_of_le (Nat.le_trans restBound groupBound)
    · exact Nat.lt_succ_of_le (skipMember_length_le skipped)

theorem skipMethodBody_length_le {name : String} {tokens rest : List Token}
    (skipped : skipMethodBody name tokens = .ok rest) :
    rest.length ≤ tokens.length := by
  fun_induction skipMethodBody name tokens with
  | case1 | case5 | case6 =>
      cases skipped
  | case2 =>
      exact Nat.le_succ_of_le (skipGroup_length_le skipped)
  | case3 =>
      exact Nat.le_succ_of_le (skipStatement_length_le skipped)
  | case4 =>
      cases skipped
      exact Nat.le_succ _
  | case7 _ _ _ _ _ _ _ _ _ groupSkipped inductionHypothesis =>
      have groupBound := skipGroup_length_le groupSkipped
      have restBound := inductionHypothesis skipped
      exact Nat.le_succ_of_le (Nat.le_trans restBound groupBound)
  | case8 _ _ _ _ _ _ _ inductionHypothesis =>
      exact Nat.le_succ_of_le (inductionHypothesis skipped)

/-! ## Angle brackets -/

def endsTypeArguments (token : Token) : Bool :=
  token.isMark ';' || token.isMark '{' || token.isMark '}' ||
    token.lexeme == .arrow

/-- The tokens behind the bracket that closes a type argument list, given
the number of lists that are open around the innermost one. -/
def afterAngles? : Nat → List Token → Option (List Token)
  | _, [] => none
  | depth, token :: rest =>
      if token.isMark '<' then
        afterAngles? (depth + 1) rest
      else if token.isMark '>' then
        match depth with
        | 0 => some rest
        | outer + 1 => afterAngles? outer rest
      else if endsTypeArguments token then
        none
      else
        afterAngles? depth rest

theorem afterAngles?_length_lt {depth : Nat} {tokens rest : List Token}
    (closed : afterAngles? depth tokens = some rest) :
    rest.length < tokens.length := by
  fun_induction afterAngles? depth tokens with
  | case1 | case5 =>
      cases closed
  | case3 =>
      cases closed
      exact Nat.lt_succ_self _
  | case2 _ _ _ _ inductionHypothesis =>
      exact Nat.lt_succ_of_lt (inductionHypothesis closed)
  | case4 _ _ _ _ _ inductionHypothesis =>
      exact Nat.lt_succ_of_lt (inductionHypothesis closed)
  | case6 _ _ _ _ _ _ inductionHypothesis =>
      exact Nat.lt_succ_of_lt (inductionHypothesis closed)

/-- Step over a type argument list, if a whole one is next. -/
def skipAngles (tokens : List Token) : List Token :=
  if atMark '<' tokens then
    (afterAngles? 0 tokens.tail).getD tokens
  else
    tokens

theorem skipAngles_length_le (tokens : List Token) :
    (skipAngles tokens).length ≤ tokens.length := by
  unfold skipAngles
  split
  · cases closed : afterAngles? 0 tokens.tail with
    | none =>
        exact Nat.le_refl _
    | some rest =>
        have bound := afterAngles?_length_lt closed
        rw [List.length_tail] at bound
        simp only [Option.getD_some]
        omega
  · exact Nat.le_refl _

end ClassDiagram.Reading
