import ClassDiagram.Reading.EnumerationBody
import ClassDiagram.Reading.ParameterList

/-!
# Members

A member of a namespace or a type begins with attributes and modifiers.  It
is then a type, an enumeration or a method, or something the outline leaves
out: a field, a property, an event, a constructor, an operator, a statement.

A type with a body is answered as soon as its body is opened, so that the
members inside it can be read by the same reader.
-/

namespace ClassDiagram.Reading

open Source (Token Lexeme)

/-! ## Modifiers -/

/-- A modifier word is accepted unless it could be a name: `ref` only in
front of a type, other contextual words only in front of another word. -/
def acceptsModifier (modifier : Modifier) (rest : List Token) : Bool :=
  match modifier with
  | .refWord =>
      match rest with
      | [] => false
      | next :: _ => next.isWord "struct" || next.isWord "partial"
  | other => !other.isContextual || atAnyWord rest

/-- The modifier that a token is, given the tokens behind it. -/
def modifier? (token : Token) (rest : List Token) : Option Modifier :=
  ((word? token).bind Modifier.ofKeyword?).filter (acceptsModifier · rest)

def readModifiers : List Token → List Modifier × List Token
  | [] => ([], [])
  | token :: rest =>
      match modifier? token rest with
      | some modifier =>
          let others := readModifiers rest
          (modifier :: others.1, others.2)
      | none => ([], token :: rest)

theorem readModifiers_length_le (tokens : List Token) :
    (readModifiers tokens).2.length ≤ tokens.length := by
  fun_induction readModifiers tokens with
  | case1 | case3 =>
      exact Nat.le_refl _
  | case2 _ _ _ _ others inductionHypothesis =>
      exact Nat.le_succ_of_le inductionHypothesis

/-! ## Types -/

/-- The kind of type that a token declares; `record` declares one only in
front of another word. -/
def declaredKind? (token : Token) (rest : List Token) : Option TypeKind :=
  ((word? token).bind TypeKind.ofKeyword?).filter fun kind =>
    kind != .recordWord || atAnyWord rest

/-- The second word of a record declaration, if there is one. -/
def skipRecordWord (kind : TypeKind) (tokens : List Token) : List Token :=
  match tokens with
  | token :: rest =>
      if kind = .recordWord ∧ (token.isWord "class" ∨ token.isWord "struct") then
        rest
      else
        token :: rest
  | [] => []

theorem skipRecordWord_length_le (kind : TypeKind) (tokens : List Token) :
    (skipRecordWord kind tokens).length ≤ tokens.length := by
  unfold skipRecordWord
  split
  · split
    · exact Nat.le_succ _
    · exact Nat.le_refl _
  · exact Nat.le_refl _

/-- Read the generic parameters of a type, if there are any, as written. -/
def readTypeParameters (tokens : List Token) : Result (Option String) :=
  if atMark '<' tokens then
    match afterAngles? 0 tokens.tail with
    | none => refuseAt .unclosedTypeArguments tokens
    | some rest => .ok (some (Token.verbatim (taken tokens rest)), rest)
  else
    .ok (none, tokens)

theorem readTypeParameters_length_le
    {tokens rest : List Token} {parameters : Option String}
    (read : readTypeParameters tokens = .ok (parameters, rest)) :
    rest.length ≤ tokens.length := by
  unfold readTypeParameters at read
  split at read
  · split at read
    · cases read
    · rename_i behind closed
      have anglesBound := afterAngles?_length_lt closed
      rw [List.length_tail] at anglesBound
      cases read
      omega
  · cases read
    exact Nat.le_refl _

/-- Skip constructor parameters, base types and constraints up to the mark
that opens the body or ends the declaration; answer whether there is a body
and the tokens behind the mark. -/
def enterType (name : String) : List Token → Result Bool
  | [] => refuseAt (.missingTypeBody name) []
  | token :: rest =>
      if token.isMark '{' then
        .ok (true, rest)
      else if token.isMark ';' then
        .ok (false, rest)
      else if token.isMark '}' then
        refuseAt (.missingTypeBody name) (token :: rest)
      else
        match closer? token with
        | some closer =>
            match _ : skipGroup closer rest with
            | .error refusal => .error refusal
            | .ok after => enterType name after
        | none => enterType name rest
termination_by tokens => tokens.length
decreasing_by
  · exact Nat.lt_succ_of_le (skipGroup_length_le ‹_›)
  · exact Nat.lt_succ_self _

theorem enterType_length_lt {name : String} {tokens rest : List Token}
    {hasBody : Bool}
    (entered : enterType name tokens = .ok (hasBody, rest)) :
    rest.length < tokens.length := by
  fun_induction enterType name tokens with
  | case1 | case4 | case5 =>
      cases entered
  | case2 | case3 =>
      cases entered
      exact Nat.lt_succ_self _
  | case6 _ _ _ _ _ _ _ _ groupSkipped inductionHypothesis =>
      have groupBound := skipGroup_length_le groupSkipped
      have restBound := inductionHypothesis entered
      exact Nat.lt_succ_of_lt (Nat.lt_of_lt_of_le restBound groupBound)
  | case7 _ _ _ _ _ _ inductionHypothesis =>
      exact Nat.lt_succ_of_lt (inductionHypothesis entered)

/-- What a type declaration says up to its body or its end. -/
structure TypeOpening where
  header : TypeHeader
  hasBody : Bool
  deriving DecidableEq, Repr

def readTypeOpening (kind : TypeKind) (modifiers : List Modifier)
    (tokens : List Token) : Result TypeOpening :=
  match expectWord .missingTypeName (skipRecordWord kind tokens) with
  | .error refusal => .error refusal
  | .ok (name, behindName) =>
      match readTypeParameters behindName with
      | .error refusal => .error refusal
      | .ok (typeParameters, behindParameters) =>
          (enterType name behindParameters).map fun (hasBody, rest) =>
            (⟨⟨kind, name, typeParameters, modifiers⟩, hasBody⟩, rest)

theorem readTypeOpening_length_lt
    {kind : TypeKind} {modifiers : List Modifier}
    {tokens rest : List Token} {opening : TypeOpening}
    (read : readTypeOpening kind modifiers tokens = .ok (opening, rest)) :
    rest.length < tokens.length := by
  have recordBound := skipRecordWord_length_le kind tokens
  unfold readTypeOpening at read
  split at read
  · cases read
  · rename_i name behindName named
    have nameBound := expectWord_length_lt named
    split at read
    · cases read
    · rename_i typeParameters behindParameters parametersRead
      have parametersBound := readTypeParameters_length_le parametersRead
      cases entered : enterType name behindParameters with
      | error refusal =>
          rw [entered] at read
          cases read
      | ok result =>
          have bodyBound := enterType_length_lt entered
          rw [entered] at read
          cases read
          omega

/-! ## Methods -/

/-- A constructor repeats the name of its type in front of a parenthesis,
and a destructor begins with a tilde. -/
def isConstructor (enclosing : Option String) (tokens : List Token) : Bool :=
  match tokens with
  | [] => false
  | token :: rest =>
      token.isMark '~' ||
        (match enclosing with
          | some name => token.isWord name && atMark '(' rest
          | none => false)

/-- Behind the name of an interface: the tokens from the dot in front of the
member's own name, type arguments skipped. -/
def qualifierEnd? (tokens : List Token) : Option (List Token) :=
  if atMark '<' tokens then
    (afterAngles? 0 tokens.tail).filter (atMark '.')
  else
    some tokens

theorem qualifierEnd?_length_le {tokens rest : List Token}
    (reached : qualifierEnd? tokens = some rest) :
    rest.length ≤ tokens.length := by
  unfold qualifierEnd? at reached
  split at reached
  · obtain ⟨closed, _⟩ := Option.filter_eq_some_iff.1 reached
    have bound := afterAngles?_length_lt closed
    rw [List.length_tail] at bound
    omega
  · cases reached
    exact Nat.le_refl _

/-- Read the last part of a dotted member name, given the part before it.
The parts in front name the interface that the member belongs to. -/
def readMemberName (name : String) (tokens : List Token) :
    String × List Token :=
  match _ : qualifierEnd? tokens with
  | none => (name, tokens)
  | some [] => (name, [])
  | some [only] => (name, [only])
  | some (dot :: next :: rest) =>
      match dot.isMark '.', word? next with
      | true, some part => readMemberName part rest
      | _, _ => (name, dot :: next :: rest)
termination_by tokens.length
decreasing_by
  have bound := qualifierEnd?_length_le ‹_›
  simp only [List.length_cons] at bound
  omega

theorem readMemberName_length_le (name : String) (tokens : List Token) :
    (readMemberName name tokens).2.length ≤ tokens.length := by
  fun_induction readMemberName name tokens with
  | case1 =>
      exact Nat.le_refl _
  | case2 =>
      exact Nat.zero_le _
  | case3 _ _ _ reached =>
      exact qualifierEnd?_length_le reached
  | case4 _ _ _ _ _ reached _ _ inductionHypothesis =>
      have bound := qualifierEnd?_length_le reached
      simp only [List.length_cons] at bound
      omega
  | case5 _ _ _ _ _ reached =>
      exact qualifierEnd?_length_le reached

/-- Skip a member without an entry in the outline. -/
def leaveOut {α : Type} (tokens : List Token) : Result (Option α) :=
  (skipMember tokens).map fun rest => (none, rest)

def readMethodTail (name returnType : String) (modifiers : List Modifier)
    (tokens : List Token) : Result (Option Method) :=
  match readParameterList tokens with
  | .error refusal => .error refusal
  | .ok (parameters, behindParameters) =>
      (skipMethodBody name behindParameters).map fun rest =>
        (some ⟨name, returnType, parameters, modifiers⟩, rest)

def readMethod (enclosing : Option String) (modifiers : List Modifier)
    (tokens : List Token) : Result (Option Method) :=
  if isConstructor enclosing tokens then
    leaveOut tokens
  else
    match skipType? tokens with
    | .error refusal => .error refusal
    | .ok none => leaveOut tokens
    | .ok (some []) => .ok (none, [])
    | .ok (some (token :: rest)) =>
        match plainWord? token with
        | none => leaveOut (token :: rest)
        | some first =>
            let named := readMemberName first rest
            let behindName := skipAngles named.2
            if atMark '(' behindName then
              readMethodTail named.1
                (Token.verbatim (taken tokens (token :: rest)))
                modifiers behindName.tail
            else
              leaveOut behindName

theorem leaveOut_length_le {α : Type} {tokens rest : List Token}
    {result : Option α}
    (skipped : leaveOut tokens = .ok (result, rest)) :
    rest.length ≤ tokens.length := by
  unfold leaveOut at skipped
  cases member : skipMember tokens with
  | error refusal =>
      rw [member] at skipped
      cases skipped
  | ok after =>
      have bound := skipMember_length_le member
      rw [member] at skipped
      cases skipped
      exact bound

theorem leaveOut_length_lt {α : Type} {token : Token}
    {others rest : List Token} {result : Option α}
    (inside : token.isMark '}' = false)
    (skipped : leaveOut (token :: others) = .ok (result, rest)) :
    rest.length < (token :: others).length := by
  unfold leaveOut at skipped
  cases member : skipMember (token :: others) with
  | error refusal =>
      rw [member] at skipped
      cases skipped
  | ok after =>
      have bound := skipMember_length_lt inside member
      rw [member] at skipped
      cases skipped
      exact bound

theorem readMethodTail_length_le
    {name returnType : String} {modifiers : List Modifier}
    {tokens rest : List Token} {result : Option Method}
    (read : readMethodTail name returnType modifiers tokens =
      .ok (result, rest)) :
    rest.length ≤ tokens.length := by
  unfold readMethodTail at read
  split at read
  · cases read
  · rename_i parameters behindParameters parametersRead
    have parametersBound := readParameterList_length_le parametersRead
    cases bodied : skipMethodBody name behindParameters with
    | error refusal =>
        rw [bodied] at read
        cases read
    | ok after =>
        have bodyBound := skipMethodBody_length_le bodied
        rw [bodied] at read
        cases read
        omega

/-- Whatever begins at a token other than a closing brace takes a token. -/
theorem readMethod_length_lt
    {enclosing : Option String} {modifiers : List Modifier}
    {token : Token} {others rest : List Token} {result : Option Method}
    (inside : token.isMark '}' = false)
    (read : readMethod enclosing modifiers (token :: others) =
      .ok (result, rest)) :
    rest.length < (token :: others).length := by
  unfold readMethod at read
  split at read
  · exact leaveOut_length_lt inside read
  · split at read
    · cases read
    · exact leaveOut_length_lt inside read
    · rename_i typed
      have typeBound := skipType?_length_lt typed
      cases read
      exact typeBound
    · rename_i next behind typed
      have typeBound := skipType?_length_lt typed
      split at read
      · have skippedBound := leaveOut_length_le read
        omega
      · rename_i first named
        have nameBound := readMemberName_length_le first behind
        have anglesBound :=
          skipAngles_length_le (readMemberName first behind).2
        have behindBound : behind.length < (next :: behind).length :=
          Nat.lt_succ_self _
        simp only at read
        split at read
        · have tailBound := readMethodTail_length_le read
          rw [List.length_tail] at tailBound
          omega
        · have skippedBound := leaveOut_length_le read
          omega

/-! ## Members -/

/-- A member of a namespace or a type. -/
inductive Member where
  /-- A member that the outline leaves out. -/
  | leftOut
  /-- A member that was read to its end. -/
  | complete (declaration : Declaration)
  /-- A type whose body was opened. -/
  | opened (header : TypeHeader)
  deriving DecidableEq, Repr

/-- A type with a body is still open; one without is complete. -/
def TypeOpening.member (opening : TypeOpening) : Member :=
  if opening.hasBody then
    .opened opening.header
  else
    .complete (.type opening.header [])

/-- A method has its place inside a type; elsewhere it is a local function,
which the outline leaves out. -/
def methodMember (enclosing : Option String) (result : Option Method) :
    Member :=
  match enclosing, result with
  | some _, some declared => .complete (.method declared)
  | _, _ => .leftOut

def readModified (enclosing : Option String) (modifiers : List Modifier) :
    List Token → Result Member
  | [] => .ok (.leftOut, [])
  | token :: rest =>
      if token.isMark '}' then
        .ok (.leftOut, token :: rest)
      else
        match declaredKind? token rest with
        | some kind =>
            (readTypeOpening kind modifiers rest).map fun (opening, behind) =>
              (opening.member, behind)
        | none =>
            if token.isWord "enum" then
              (readEnumeration modifiers rest).map fun (declared, behind) =>
                (.complete (.enumeration declared), behind)
            else
              (readMethod enclosing modifiers (token :: rest)).map
                fun (result, behind) =>
                  (methodMember enclosing result, behind)

/-- Read a member; inside a type, the type's name tells constructors. -/
def readMember (enclosing : Option String) (tokens : List Token) :
    Result Member :=
  match skipAttributes tokens with
  | .error refusal => .error refusal
  | .ok start =>
      let modified := readModifiers start
      readModified enclosing modified.1 modified.2

theorem readModified_length_le
    {enclosing : Option String} {modifiers : List Modifier}
    {tokens rest : List Token} {member : Member}
    (read : readModified enclosing modifiers tokens = .ok (member, rest)) :
    rest.length ≤ tokens.length ∧
      (∀ token others, tokens = token :: others →
        token.isMark '}' = false → rest.length < tokens.length) := by
  cases tokens with
  | nil =>
      cases read
      exact ⟨Nat.le_refl 0, nofun⟩
  | cons token others =>
      simp only [readModified] at read
      split at read
      · rename_i closing
        cases read
        refine ⟨Nat.le_refl _, ?_⟩
        rintro _ _ equal inside
        cases equal
        rw [closing] at inside
        cases inside
      · rename_i inside
        have shorter : rest.length < (token :: others).length := by
          split at read
          · rename_i kind declared
            cases opened : readTypeOpening kind modifiers others with
            | error refusal =>
                rw [opened] at read
                cases read
            | ok result =>
                have bound := readTypeOpening_length_lt opened
                rw [opened] at read
                cases read
                exact Nat.lt_succ_of_lt bound
          · split at read
            · cases enumerated : readEnumeration modifiers others with
              | error refusal =>
                  rw [enumerated] at read
                  cases read
              | ok result =>
                  have bound := readEnumeration_length_lt enumerated
                  rw [enumerated] at read
                  cases read
                  exact Nat.lt_succ_of_lt bound
            · cases method : readMethod enclosing modifiers
                  (token :: others) with
              | error refusal =>
                  rw [method] at read
                  cases read
              | ok result =>
                  have bound :=
                    readMethod_length_lt (Bool.eq_false_iff.2 inside) method
                  rw [method] at read
                  cases read
                  exact bound
        exact ⟨Nat.le_of_lt shorter, fun _ _ _ _ => shorter⟩

theorem readMember_length_lt
    {enclosing : Option String} {token : Token} {others rest : List Token}
    {member : Member}
    (inside : token.isMark '}' = false)
    (read : readMember enclosing (token :: others) = .ok (member, rest)) :
    rest.length < (token :: others).length := by
  unfold readMember at read
  split at read
  · cases read
  · rename_i start attributesSkipped
    have attributeBound := skipAttributes_length_le attributesSkipped
    have modifierBound := readModifiers_length_le start
    have modified := readModified_length_le read
    rcases Nat.lt_or_ge (readModifiers start).2.length
        (token :: others).length with taken | untouched
    · exact Nat.lt_of_le_of_lt modified.1 taken
    · have sameStart : start = token :: others := by
        rw [skipAttributes] at attributesSkipped
        split at attributesSkipped
        · split at attributesSkipped
          · cases attributesSkipped
          · rename_i groupSkipped
            have groupBound := skipGroup_length_le groupSkipped
            have restBound := skipAttributes_length_le attributesSkipped
            rw [List.length_cons] at untouched
            omega
        · cases attributesSkipped
          rfl
      subst sameStart
      have sameRest : (readModifiers (token :: others)).2 =
          token :: others := by
        rw [readModifiers] at untouched ⊢
        split at untouched
        · have bound := readModifiers_length_le others
          rw [List.length_cons] at untouched
          simp only at untouched
          omega
        · rfl
      rw [sameRest] at modified
      exact modified.2 token others rfl inside

end ClassDiagram.Reading
