import ClassDiagram.Proofs.Reading.LocalEnumerations
import ClassDiagram.Proofs.Reading.LocalMethods

/-!
# Members are local

A type is read through the mark behind its header, an enumeration through its
body, a method through its own.  Only a member that is left out, and an
enumeration, ask what follows them.
-/

namespace ClassDiagram.Reading

open Source (Token Lexeme)

/-! ## Modifiers -/

def nextModifier? : List Token → Option Modifier
  | [] => none
  | token :: rest => modifier? token rest

theorem modifier?_of_noWord {token : Token} (noWord : word? token = none)
    (rest : List Token) : modifier? token rest = none := by
  rw [modifier?, noWord]
  rfl

theorem acceptsModifier_refWord (rest : List Token) :
    acceptsModifier .refWord rest =
      (atWord "struct" rest || atWord "partial" rest) := by
  cases rest <;> rfl

theorem SameStop.acceptsModifier_eq {left right : List Token}
    (same : SameStop left right) (modifier : Modifier) :
    acceptsModifier modifier left = acceptsModifier modifier right := by
  by_cases isRef : modifier = .refWord
  · subst isRef
    rw [acceptsModifier_refWord, acceptsModifier_refWord,
      same.atWord_eq, same.atWord_eq]
  · cases modifier <;>
      first
        | exact absurd rfl isRef
        | simp only [acceptsModifier, same.atAnyWord_eq]

theorem SameStop.nextModifier?_eq {left right : List Token}
    (same : SameStop left right) :
    nextModifier? left = nextModifier? right := by
  refine same.look_eq rfl ?_ ?_ ?_
  · intro token rest closing
    apply modifier?_of_noWord
    simp [word?, closing]
  · intro token left right ending
    have noWord := word?_of_ending ending
    rw [nextModifier?, nextModifier?, modifier?_of_noWord noWord,
      modifier?_of_noWord noWord]
  · intro token left right later
    have accepted := funext later.acceptsModifier_eq
    rw [nextModifier?, nextModifier?, modifier?, modifier?, accepted]

theorem readModifiers_none {tokens : List Token}
    (noModifier : nextModifier? tokens = none) :
    readModifiers tokens = ([], tokens) := by
  cases tokens with
  | nil =>
      rfl
  | cons token rest =>
      have notModifier : modifier? token rest = none := noModifier
      rw [readModifiers, notModifier]

theorem readModifiers_some {token : Token} {rest : List Token}
    {modifier : Modifier}
    (found : nextModifier? (token :: rest) = some modifier) :
    readModifiers (token :: rest) =
      (modifier :: (readModifiers rest).1, (readModifiers rest).2) := by
  have isModifier : modifier? token rest = some modifier := found
  rw [readModifiers, isModifier]

theorem readModifiers_local (tokens : List Token) :
    Local SameStop readModifiers
      (fun rest => ((readModifiers tokens).1, rest)) tokens
      (readModifiers tokens).2 := by
  induction tokens with
  | nil =>
      refine local_of_nothing fun other same => readModifiers_none ?_
      exact same.nextModifier?_eq.symm
  | cons token rest inductionHypothesis =>
      cases found : nextModifier? (token :: rest) with
      | none =>
          rw [readModifiers_none found]
          refine local_of_nothing fun other same => readModifiers_none ?_
          rwa [← same.nextModifier?_eq]
      | some modifier =>
          rw [readModifiers_some found]
          refine inductionHypothesis.behind [token] ?_
          intro between behind same modifiersEq
          have whole : SameStop (token :: rest) (token :: between) :=
            .shared same
          rw [whole.nextModifier?_eq] at found
          rw [List.singleton_append, readModifiers_some found, modifiersEq]

/-! ## Headers of types -/

def nextKind? : List Token → Option TypeKind
  | [] => none
  | token :: rest => declaredKind? token rest

theorem declaredKind?_of_noWord {token : Token}
    (noWord : word? token = none) (rest : List Token) :
    declaredKind? token rest = none := by
  rw [declaredKind?, noWord]
  rfl

theorem SameStop.nextKind?_eq {left right : List Token}
    (same : SameStop left right) : nextKind? left = nextKind? right := by
  refine same.look_eq rfl ?_ ?_ ?_
  · intro token rest closing
    apply declaredKind?_of_noWord
    simp [word?, closing]
  · intro token left right ending
    have noWord := word?_of_ending ending
    rw [nextKind?, nextKind?, declaredKind?_of_noWord noWord,
      declaredKind?_of_noWord noWord]
  · intro token left right later
    rw [nextKind?, nextKind?, declaredKind?, declaredKind?,
      later.atAnyWord_eq]

def atRecordWord (kind : TypeKind) (tokens : List Token) : Bool :=
  kind == .recordWord && (atWord "class" tokens || atWord "struct" tokens)

theorem skipRecordWord_absent {kind : TypeKind} {tokens : List Token}
    (absent : atRecordWord kind tokens = false) :
    skipRecordWord kind tokens = tokens := by
  cases tokens with
  | nil =>
      rfl
  | cons token rest =>
      rw [skipRecordWord, if_neg]
      simpa [atRecordWord, atWord] using absent

theorem skipRecordWord_present {kind : TypeKind} {token : Token}
    {rest : List Token}
    (present : atRecordWord kind (token :: rest) = true) :
    skipRecordWord kind (token :: rest) = rest := by
  rw [skipRecordWord, if_pos]
  simpa [atRecordWord, atWord] using present

theorem skipRecordWord_local (kind : TypeKind) (tokens : List Token) :
    Local SameStop (skipRecordWord kind) id tokens
      (skipRecordWord kind tokens) := by
  cases present : atRecordWord kind tokens with
  | false =>
      rw [skipRecordWord_absent present]
      refine local_of_nothing fun other same => skipRecordWord_absent ?_
      rwa [atRecordWord, ← same.atWord_eq, ← same.atWord_eq]
  | true =>
      cases tokens with
      | nil =>
          simp [atRecordWord, atWord] at present
      | cons token rest =>
          rw [skipRecordWord_present present]
          exact ⟨[token], rfl, fun other same =>
            ⟨same.append [token], skipRecordWord_present present⟩⟩

theorem readTypeParameters_absent {tokens : List Token}
    (noAngle : atMark '<' tokens = false) :
    readTypeParameters tokens = .ok (none, tokens) := by
  rw [readTypeParameters, noAngle, if_neg Bool.false_ne_true]

theorem readTypeParameters_present {token : Token} {behind rest : List Token}
    (opening : token.isMark '<' = true)
    (closed : afterAngles? 0 behind = some rest) :
    readTypeParameters (token :: behind) =
      .ok (some (Token.verbatim (taken (token :: behind) rest)), rest) := by
  have isOpening : atMark '<' (token :: behind) = true := opening
  rw [readTypeParameters, if_pos isOpening, List.tail_cons, closed]

theorem readTypeParameters_local {parameters : Option String}
    {tokens rest : List Token}
    (read : readTypeParameters tokens = .ok (parameters, rest)) :
    Local SameStop readTypeParameters (fun rest => .ok (parameters, rest))
      tokens rest := by
  cases opening : atMark '<' tokens with
  | false =>
      rw [readTypeParameters_absent opening] at read
      cases read
      refine local_of_nothing fun other same =>
        readTypeParameters_absent ?_
      rwa [← same.atMark_eq (by decide)]
  | true =>
      obtain ⟨token, behind, rfl, isOpening⟩ := exists_of_atMark opening
      cases closed : afterAngles? 0 behind with
      | none =>
          rw [readTypeParameters, if_pos opening, List.tail_cons, closed]
            at read
          cases read
      | some after =>
          rw [readTypeParameters_present isOpening closed] at read
          cases read
          obtain ⟨consumed, rfl, again⟩ := afterAngles?_local closed
          refine ⟨token :: consumed, rfl, fun other same => ⟨?_, ?_⟩⟩
          · exact same.append (token :: consumed)
          · rw [List.cons_append,
              readTypeParameters_present isOpening (again other),
              ← List.cons_append, ← List.cons_append, taken_append,
              taken_append]

/-! ## The way to the body of a type -/

theorem enterType_body {name : String} {token : Token}
    (opening : token.isMark '\x7b' = true) (rest : List Token) :
    enterType name (token :: rest) = .ok (true, rest) := by
  rw [enterType, if_pos opening]

theorem enterType_end {name : String} {token : Token}
    (noBody : token.isMark '\x7b' = false)
    (separator : token.isMark ';' = true) (rest : List Token) :
    enterType name (token :: rest) = .ok (false, rest) := by
  rw [enterType, noBody, if_neg Bool.false_ne_true, if_pos separator]

/-- A token that neither opens the body of a type nor ends its header. -/
def standsInHeader (token : Token) : Bool :=
  !(token.isMark '\x7b' || token.isMark ';' || token.isMark '\x7d')

theorem enterType_group {name : String} {token : Token}
    {rest after : List Token} {closer : Char}
    (inHeader : standsInHeader token = true)
    (opens : closer? token = some closer)
    (skipped : skipGroup closer rest = .ok after) :
    enterType name (token :: rest) = enterType name after := by
  simp only [standsInHeader, Bool.not_eq_true', Bool.or_eq_false_iff]
    at inHeader
  obtain ⟨⟨noBody, noSeparator⟩, inside⟩ := inHeader
  rw [enterType]
  simp only [noBody, noSeparator, inside, Bool.false_eq_true, if_false,
    opens]
  split
  · rename_i refused
    rw [skipped] at refused
    cases refused
  · rename_i accepted
    rw [skipped] at accepted
    cases accepted
    rfl

theorem enterType_neutral {name : String} {token : Token}
    (inHeader : standsInHeader token = true)
    (notOpening : closer? token = none) (rest : List Token) :
    enterType name (token :: rest) = enterType name rest := by
  simp only [standsInHeader, Bool.not_eq_true', Bool.or_eq_false_iff]
    at inHeader
  obtain ⟨⟨noBody, noSeparator⟩, inside⟩ := inHeader
  rw [enterType]
  simp only [noBody, noSeparator, inside, Bool.false_eq_true, if_false,
    notOpening]

theorem enterType_local {name : String} {hasBody : Bool}
    {tokens rest : List Token}
    (entered : enterType name tokens = .ok (hasBody, rest)) :
    Local Anything (enterType name) (fun rest => .ok (hasBody, rest)) tokens
      rest := by
  fun_induction enterType name tokens with
  | case1 | case4 | case5 =>
      cases entered
  | case2 token tokens opening =>
      cases entered
      refine ⟨[token], rfl, fun other _ => ⟨?_, enterType_body opening _⟩⟩
      exact .stopped _ _ (endsTypeArguments_of_isMark opening (by simp))
  | case3 token tokens noBody separator =>
      cases entered
      rw [Bool.not_eq_true] at noBody
      refine ⟨[token], rfl, fun other _ =>
        ⟨?_, enterType_end noBody separator _⟩⟩
      exact .stopped _ _ (endsTypeArguments_of_isMark separator (by simp))
  | case6 token tokens noBody noSeparator inside closer opens after
      groupSkipped inductionHypothesis =>
      have inHeader : standsInHeader token = true := by
        simp [standsInHeader, noBody, noSeparator, inside]
      obtain ⟨group, rfl, groupAgain⟩ := skipGroup_local groupSkipped
      refine (inductionHypothesis entered).behind (token :: group) ?_
      intro between behind _ enteredEq
      rw [List.cons_append, enterType_group inHeader opens
        (groupAgain between)]
      exact enteredEq
  | case7 token tokens noBody noSeparator inside notOpening
      inductionHypothesis =>
      have inHeader : standsInHeader token = true := by
        simp [standsInHeader, noBody, noSeparator, inside]
      refine (inductionHypothesis entered).behind [token] ?_
      intro between behind _ enteredEq
      rw [List.singleton_append, enterType_neutral inHeader notOpening]
      exact enteredEq

def readTypeEnd (kind : TypeKind) (name : String) (modifiers : List Modifier)
    (tokens : List Token) : Result TypeOpening :=
  match readTypeParameters tokens with
  | .error refusal => .error refusal
  | .ok (typeParameters, behindParameters) =>
      (enterType name behindParameters).map fun (hasBody, rest) =>
        (⟨⟨kind, name, typeParameters, modifiers⟩, hasBody⟩, rest)

def readNamedType (kind : TypeKind) (modifiers : List Modifier)
    (tokens : List Token) : Result TypeOpening :=
  match expectWord .missingTypeName tokens with
  | .error refusal => .error refusal
  | .ok (name, behindName) => readTypeEnd kind name modifiers behindName

theorem readTypeOpening_eq (kind : TypeKind) (modifiers : List Modifier)
    (tokens : List Token) :
    readTypeOpening kind modifiers tokens =
      readNamedType kind modifiers (skipRecordWord kind tokens) :=
  rfl

theorem readTypeEnd_local {kind : TypeKind} {name : String}
    {modifiers : List Modifier} {opening : TypeOpening}
    {tokens rest : List Token}
    (read : readTypeEnd kind name modifiers tokens = .ok (opening, rest)) :
    Local Anything (readTypeEnd kind name modifiers)
      (fun rest => .ok (opening, rest)) tokens rest := by
  unfold readTypeEnd at read
  split at read
  · cases read
  · rename_i parameters behindParameters parametersRead
    obtain ⟨⟨hasBody, after⟩, entered, answer⟩ := exists_of_map_eq_ok read
    cases answer
    refine (readTypeParameters_local parametersRead).followedBy
      (enterType_local entered) ?_
    intro consumed between behind _ _ parametersEq enteredEq
    rw [readTypeEnd, parametersEq]
    simp only [enteredEq]
    rfl

theorem readNamedType_local {kind : TypeKind} {modifiers : List Modifier}
    {opening : TypeOpening} {tokens rest : List Token}
    (read : readNamedType kind modifiers tokens = .ok (opening, rest)) :
    Local Anything (readNamedType kind modifiers)
      (fun rest => .ok (opening, rest)) tokens rest := by
  rw [readNamedType] at read
  split at read
  · cases read
  · rename_i name behindName present
    obtain ⟨token, rfl, named⟩ := exists_of_expectWord present
    refine (readTypeEnd_local read).behind [token] ?_
    intro between behind _ endEq
    rw [List.singleton_append, readNamedType, expectWord_of_word named]
    exact endEq

theorem readTypeOpening_local {kind : TypeKind} {modifiers : List Modifier}
    {opening : TypeOpening} {tokens rest : List Token}
    (read : readTypeOpening kind modifiers tokens = .ok (opening, rest)) :
    Local Anything (readTypeOpening kind modifiers)
      (fun rest => .ok (opening, rest)) tokens rest := by
  rw [readTypeOpening_eq] at read
  refine (skipRecordWord_local kind tokens).followedBy
    (readNamedType_local read) ?_
  intro consumed between behind _ _ wordEq typeEq
  rw [readTypeOpening_eq, wordEq]
  exact typeEq

/-! ## Members -/

theorem readModified_ended {enclosing : Option String}
    {modifiers : List Modifier} {tokens : List Token}
    (ended : atEnd tokens = true) :
    readModified enclosing modifiers tokens = .ok (.leftOut, tokens) := by
  cases tokens with
  | nil =>
      rfl
  | cons token rest =>
      have closing : token.isMark '\x7d' = true := ended
      rw [readModified, if_pos closing]

theorem readModified_of_kind {enclosing : Option String}
    {modifiers : List Modifier} {token : Token} {rest : List Token}
    {kind : TypeKind} (inside : atEnd (token :: rest) = false)
    (declared : nextKind? (token :: rest) = some kind) :
    readModified enclosing modifiers (token :: rest) =
      (readTypeOpening kind modifiers rest).map fun (opening, behind) =>
        (opening.member, behind) := by
  have notClosing : token.isMark '\x7d' = false := inside
  have isKind : declaredKind? token rest = some kind := declared
  rw [readModified, notClosing, if_neg Bool.false_ne_true, isKind]

theorem readModified_of_enum {enclosing : Option String}
    {modifiers : List Modifier} {token : Token} {rest : List Token}
    (inside : atEnd (token :: rest) = false)
    (noKind : nextKind? (token :: rest) = none)
    (isEnum : atWord "enum" (token :: rest) = true) :
    readModified enclosing modifiers (token :: rest) =
      (readEnumeration modifiers rest).map fun (declared, behind) =>
        (.complete (.enumeration declared), behind) := by
  have notClosing : token.isMark '\x7d' = false := inside
  have notKind : declaredKind? token rest = none := noKind
  have enumWord : token.isWord "enum" = true := isEnum
  rw [readModified, notClosing, if_neg Bool.false_ne_true, notKind]
  simp only [enumWord, if_true]

theorem readModified_of_method {enclosing : Option String}
    {modifiers : List Modifier} {tokens : List Token}
    (inside : atEnd tokens = false) (noKind : nextKind? tokens = none)
    (noEnum : atWord "enum" tokens = false) :
    readModified enclosing modifiers tokens =
      (readMethod enclosing modifiers tokens).map fun (result, behind) =>
        (methodMember enclosing result, behind) := by
  cases tokens with
  | nil =>
      cases inside
  | cons token rest =>
      have notClosing : token.isMark '\x7d' = false := inside
      have notKind : declaredKind? token rest = none := noKind
      have notEnum : token.isWord "enum" = false := noEnum
      rw [readModified, notClosing, if_neg Bool.false_ne_true, notKind]
      simp only [notEnum, Bool.false_eq_true, if_false]

/-- Where no type begins, a member is skipped without an entry. -/
theorem readMember_of_noType {tokens : List Token}
    (noAttributes : atMark '[' tokens = false)
    (noModifier : nextModifier? tokens = none)
    (inside : atEnd tokens = false) (noKind : nextKind? tokens = none)
    (noEnum : atWord "enum" tokens = false)
    (noType : skipType? tokens = .ok none) (enclosing : Option String) :
    readMember enclosing tokens = leavingOut .leftOut tokens := by
  have method : readMethod enclosing [] tokens = leaveOut tokens := by
    by_cases constructed : isConstructor enclosing tokens = true
    · exact readMethod_of_constructor constructed
    · rw [Bool.not_eq_true] at constructed
      exact readMethod_of_noType constructed noType
  rw [readMember, skipAttributes_none noAttributes]
  simp only [readModifiers_none noModifier]
  rw [readModified_of_method inside noKind noEnum, method, leaveOut,
    leavingOut]
  cases skipMember tokens with
  | error refusal =>
      rfl
  | ok behind =>
      cases enclosing <;> rfl

theorem methodMember_none (enclosing : Option String) :
    methodMember enclosing none = .leftOut := by
  cases enclosing <;> rfl

theorem readModified_end {enclosing : Option String}
    {modifiers : List Modifier} {member : Member} {tokens rest : List Token}
    (read : readModified enclosing modifiers tokens = .ok (member, rest)) :
    MemberEnd .leftOut (readModified enclosing modifiers) member tokens
      rest := by
  cases ended : atEnd tokens with
  | true =>
      rw [readModified_ended ended] at read
      cases read
      refine .leftOut (local_of_nothing fun other same => ?_)
        (.refl tokens) (skipMember_ended ended) rfl
      rw [same.atEnd_eq] at ended
      rw [readModified_ended ended, leavingOut, skipMember_ended ended]
      rfl
  | false =>
      cases declared : nextKind? tokens with
      | some kind =>
          cases tokens with
          | nil =>
              cases declared
          | cons token later =>
              rw [readModified_of_kind ended declared] at read
              obtain ⟨⟨opening, after⟩, typeRead, answer⟩ :=
                exists_of_map_eq_ok read
              cases answer
              refine .settled ((readTypeOpening_local typeRead).behind
                [token] ?_)
              intro between behind same typeEq
              have whole : SameStop (token :: later) (token :: between) :=
                .shared same
              rw [whole.nextKind?_eq] at declared
              rw [whole.atEnd_eq] at ended
              rw [List.singleton_append, readModified_of_kind ended declared,
                typeEq]
              rfl
      | none =>
          cases isEnum : atWord "enum" tokens with
          | true =>
              cases tokens with
              | nil =>
                  cases isEnum
              | cons token later =>
                  rw [readModified_of_enum ended declared isEnum] at read
                  obtain ⟨⟨enumeration, after⟩, enumRead, answer⟩ :=
                    exists_of_map_eq_ok read
                  cases answer
                  obtain ⟨reached, restEq, enumLocal⟩ :=
                    readEnumeration_local enumRead
                  refine .braced ?_ restEq
                  refine enumLocal.behind [token] ?_
                  intro between behind same enumEq
                  have whole : SameStop (token :: later) (token :: between) :=
                    .shared same
                  rw [whole.nextKind?_eq] at declared
                  rw [whole.atEnd_eq] at ended
                  rw [whole.atWord_eq] at isEnum
                  rw [List.singleton_append,
                    readModified_of_enum ended declared isEnum, enumEq]
                  rfl
          | false =>
              rw [readModified_of_method ended declared isEnum] at read
              obtain ⟨⟨result, after⟩, methodRead, answer⟩ :=
                exists_of_map_eq_ok read
              cases answer
              have methodEnd :=
                (readMethod_end methodRead).map (methodMember enclosing)
              rw [methodMember_none] at methodEnd
              refine methodEnd.behind (local_of_nothing fun other same => ?_)
                (.refl tokens)
              rw [same.nextKind?_eq] at declared
              rw [same.atEnd_eq] at ended
              rw [same.atWord_eq] at isEnum
              exact readModified_of_method ended declared isEnum

theorem readMember_end {enclosing : Option String} {member : Member}
    {tokens rest : List Token}
    (read : readMember enclosing tokens = .ok (member, rest)) :
    MemberEnd .leftOut (readMember enclosing) member tokens rest := by
  cases skipped : skipAttributes tokens with
  | error refusal =>
      rw [readMember, skipped] at read
      cases read
  | ok start =>
      rw [readMember, skipped] at read
      have attributesSkipped : Local SameStop (readMember enclosing)
          (fun start => readModified enclosing (readModifiers start).1
            (readModifiers start).2) tokens start := by
        refine (skipAttributes_local skipped).determines ?_
        intro consumed other _ _ skippedEq
        rw [readMember, skippedEq]
      have modifiersRead : Local SameStop
          (fun start => readModified enclosing (readModifiers start).1
            (readModifiers start).2)
          (readModified enclosing (readModifiers start).1) start
          (readModifiers start).2 := by
        refine (readModifiers_local start).determines ?_
        intro consumed other _ _ modifiersEq
        rw [modifiersEq]
      exact (readModified_end read).behind
        (attributesSkipped.trans modifiersRead)
        ((skipAttributes_taken skipped).trans (readModifiers_taken start))

/-- A member is read again in front of everything in which an initializer, a
separator or the end of the body is next exactly if it was before. -/
theorem readMember_local {enclosing : Option String} {member : Member}
    {tokens rest : List Token}
    (read : readMember enclosing tokens = .ok (member, rest)) :
    Local ResumesAlike (readMember enclosing)
      (fun rest => .ok (member, rest)) tokens rest :=
  (readMember_end read).isLocal

end ClassDiagram.Reading
