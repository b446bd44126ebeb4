import ClassDiagram.Proofs.Reading.MemberEnds

/-!
# Methods are local

A method ends with its body, so nothing behind it matters.  A member that is
no method is left out, and its end depends on what follows as far as the end
of every skipped member does.
-/

namespace ClassDiagram.Reading

open Source (Token Lexeme)

/-! ## Constructors and members left out -/

theorem isConstructor_cons (enclosing : Option String) (token : Token)
    (rest : List Token) :
    isConstructor enclosing (token :: rest) =
      (token.isMark '~' ||
        (enclosing.any token.isWord && atMark '(' rest)) := by
  cases enclosing <;> rfl

theorem SameStop.isConstructor_eq {left right : List Token}
    (same : SameStop left right) (enclosing : Option String) :
    isConstructor enclosing left = isConstructor enclosing right := by
  have atWordless : ∀ (token : Token) (rest : List Token),
      word? token = none →
        isConstructor enclosing (token :: rest) = token.isMark '~' := by
    intro token rest noWord
    rw [isConstructor_cons]
    cases enclosing <;> simp [isWord_of_noWord noWord]
  refine same.look_eq rfl ?_ ?_ ?_
  · intro token rest closing
    have noTilde : token.isMark '~' = false := by
      simp [Token.isMark, closing]
    rw [atWordless token rest (by simp [word?, closing]), noTilde]
    rfl
  · intro token left right ending
    have noWord := word?_of_ending ending
    rw [atWordless token left noWord, atWordless token right noWord]
  · intro token left right later
    rw [isConstructor_cons, isConstructor_cons,
      later.atMark_eq (c := '(') (by decide)]

/-! ## The name of a member -/

/-- The tokens in front of a further part of a member's name, and the part,
if a dot and a word are next. -/
def nextPart? : List Token → Option (String × List Token)
  | dot :: next :: rest =>
      if dot.isMark '.' then (word? next).map (·, rest) else none
  | _ => none

theorem exists_of_nextPart? {part : String} {tokens rest : List Token}
    (found : nextPart? tokens = some (part, rest)) :
    ∃ dot next, tokens = dot :: next :: rest ∧ dot.isMark '.' = true ∧
      word? next = some part := by
  unfold nextPart? at found
  split at found
  · rename_i dot next behind
    split at found
    · rename_i isDot
      obtain ⟨text, named, answer⟩ := Option.map_eq_some_iff.1 found
      cases answer
      exact ⟨dot, next, rfl, isDot, named⟩
    · cases found
  · cases found

theorem nextPart?_of_word {part : String} {dot next : Token}
    (isDot : dot.isMark '.' = true) (named : word? next = some part)
    (rest : List Token) :
    nextPart? (dot :: next :: rest) = some (part, rest) := by
  rw [nextPart?, if_pos isDot, named]
  rfl

theorem nextPart?_of_noDot {dot : Token} (noDot : dot.isMark '.' = false)
    (rest : List Token) : nextPart? (dot :: rest) = none := by
  cases rest with
  | nil =>
      rfl
  | cons next behind =>
      rw [nextPart?, noDot, if_neg Bool.false_ne_true]

theorem nextPart?_of_noWord (dot : Token) {rest : List Token}
    (noWord : rest.head?.bind word? = none) :
    nextPart? (dot :: rest) = none := by
  cases rest with
  | nil =>
      rfl
  | cons next behind =>
      have notWord : word? next = none := noWord
      rw [nextPart?, notWord]
      split <;> rfl

theorem SameStop.nextPart?_none {left right : List Token}
    (same : SameStop left right) (noPart : nextPart? left = none) :
    nextPart? right = none := by
  have ended : ∀ tokens : List Token, atEnd tokens = true →
      nextPart? tokens = none ∧ tokens.head?.bind word? = none := by
    intro tokens ended
    cases tokens with
    | nil =>
        exact ⟨rfl, rfl⟩
    | cons token rest =>
        have lexeme := lexeme_of_atEnd ended
        refine ⟨nextPart?_of_noDot ?_ rest, ?_⟩
        · simp [Token.isMark, lexeme]
        · simp [word?, lexeme]
  cases same with
  | ended _ rightEnded =>
      exact (ended _ rightEnded).1
  | stopped left right ending =>
      exact nextPart?_of_noDot (isMark_of_ending ending (by decide)) right
  | @shared dot left right later =>
      cases later with
      | ended _ rightEnded =>
          exact nextPart?_of_noWord dot (ended _ rightEnded).2
      | stopped left right ending =>
          exact nextPart?_of_noWord dot (word?_of_ending ending)
      | @shared next left right behind =>
          rw [nextPart?] at noPart ⊢
          split at noPart
          · rename_i isDot
            rw [Option.map_eq_none_iff] at noPart
            rw [if_pos isDot, noPart]
            rfl
          · rename_i noDot
            rw [if_neg noDot]

theorem readMemberName_unreached {name : String} {tokens : List Token}
    (unreached : qualifierEnd? tokens = none) :
    readMemberName name tokens = (name, tokens) := by
  rw [readMemberName]
  split
  · rfl
  all_goals
    rename_i found
    rw [unreached] at found
    cases found

/-- The name ends where no further part follows. -/
theorem readMemberName_last {name : String} {tokens reached : List Token}
    (qualified : qualifierEnd? tokens = some reached)
    (noPart : nextPart? reached = none) :
    readMemberName name tokens = (name, reached) := by
  rw [readMemberName]
  split
  all_goals
    rename_i found
    rw [qualified] at found
    cases found
  · rfl
  · rfl
  · rename_i dot next rest
    split
    · rename_i part isDot named
      rw [nextPart?_of_word isDot named] at noPart
      cases noPart
    · rfl

/-- What came before a further part names an interface. -/
theorem readMemberName_further {name part : String}
    {tokens reached rest : List Token}
    (qualified : qualifierEnd? tokens = some reached)
    (further : nextPart? reached = some (part, rest)) :
    readMemberName name tokens = readMemberName part rest := by
  obtain ⟨dot, next, rfl, isDot, named⟩ := exists_of_nextPart? further
  rw [readMemberName]
  split
  all_goals
    rename_i found
    rw [qualified] at found
    cases found
  rw [isDot, named]

theorem readMemberName_of_unqualified {name : String} {tokens : List Token}
    (noAngle : atMark '<' tokens = false)
    (noDot : atMark '.' tokens = false) :
    readMemberName name tokens = (name, tokens) := by
  apply readMemberName_last
  · rw [qualifierEnd?, noAngle, if_neg Bool.false_ne_true]
  · cases tokens with
    | nil =>
        rfl
    | cons dot rest =>
        exact nextPart?_of_noDot noDot rest

theorem qualifierEnd?_of_noAngle {tokens : List Token}
    (noAngle : atMark '<' tokens = false) :
    qualifierEnd? tokens = some tokens := by
  rw [qualifierEnd?, noAngle, if_neg Bool.false_ne_true]

theorem qualifierEnd?_of_angle {token : Token} (rest : List Token)
    (opening : token.isMark '<' = true) :
    qualifierEnd? (token :: rest) =
      (afterAngles? 0 rest).filter (atMark '.') := by
  have isOpening : atMark '<' (token :: rest) = true := opening
  rw [qualifierEnd?, if_pos isOpening, List.tail_cons]

theorem qualifierEnd?_local {tokens reached : List Token}
    (qualified : qualifierEnd? tokens = some reached) :
    Local SameStop qualifierEnd? some tokens reached := by
  cases opening : atMark '<' tokens with
  | false =>
      rw [qualifierEnd?_of_noAngle opening] at qualified
      cases qualified
      refine local_of_nothing fun other same => ?_
      apply qualifierEnd?_of_noAngle
      rwa [← same.atMark_eq (by decide)]
  | true =>
      obtain ⟨token, behind, rfl, isOpening⟩ := exists_of_atMark opening
      rw [qualifierEnd?_of_angle behind isOpening,
        Option.filter_eq_some_iff] at qualified
      obtain ⟨closed, isDot⟩ := qualified
      obtain ⟨consumed, rfl, again⟩ := afterAngles?_local closed
      refine ⟨token :: consumed, rfl, fun other same => ⟨?_, ?_⟩⟩
      · exact same.append (token :: consumed)
      · rw [List.cons_append, qualifierEnd?_of_angle _ isOpening,
          Option.filter_eq_some_iff]
        rw [same.atMark_eq (by decide)] at isDot
        exact ⟨again other, isDot⟩

theorem SameStop.qualifierEnd?_none {left right : List Token}
    (same : SameStop left right)
    (unreached : Reading.qualifierEnd? left = none) :
    Reading.qualifierEnd? right = none := by
  cases opening : atMark '<' left with
  | false =>
      rw [qualifierEnd?_of_noAngle opening] at unreached
      cases unreached
  | true =>
      obtain ⟨token, behind, rfl, isOpening⟩ := exists_of_atMark opening
      obtain ⟨later, rfl, sameLater⟩ :=
        same.of_cons (not_ending_of_opening isOpening)
      rw [qualifierEnd?_of_angle _ isOpening] at unreached ⊢
      rcases sameLater.afterAngles? 0 with ⟨_, rightNone⟩ | found
      · rw [rightNone]
        rfl
      · obtain ⟨leftRest, rightRest, leftFound, rightFound, sameRest⟩ :=
          found
        rw [leftFound, Option.filter_some] at unreached
        rw [rightFound, Option.filter_some,
          ← sameRest.atMark_eq (by decide)]
        split at unreached
        · cases unreached
        · rename_i noDot
          rw [if_neg noDot]

theorem readMemberName_local (name : String) (tokens : List Token) :
    Local SameStop (readMemberName name)
      (fun rest => ((readMemberName name tokens).1, rest)) tokens
      (readMemberName name tokens).2 := by
  -- three of the cases end the name for the same reason
  have last : ∀ (name : String) (tokens reached : List Token),
      qualifierEnd? tokens = some reached → nextPart? reached = none →
        Local SameStop (readMemberName name)
          (fun rest => ((readMemberName name tokens).1, rest)) tokens
          (readMemberName name tokens).2 := by
    intro name tokens reached qualified noPart
    rw [readMemberName_last qualified noPart]
    obtain ⟨consumed, tokensEq, again⟩ := qualifierEnd?_local qualified
    refine ⟨consumed, tokensEq, fun other same => ?_⟩
    obtain ⟨sameTokens, qualifiedEq⟩ := again other same
    exact ⟨sameTokens,
      readMemberName_last qualifiedEq (same.nextPart?_none noPart)⟩
  fun_induction readMemberName name tokens with
  | case1 name tokens unreached =>
      refine local_of_nothing fun other same => ?_
      exact readMemberName_unreached (same.qualifierEnd?_none unreached)
  | case2 name tokens qualified =>
      have whole := last name tokens [] qualified rfl
      rwa [readMemberName_last qualified rfl] at whole
  | case3 name tokens only qualified =>
      have whole := last name tokens [only] qualified rfl
      rwa [readMemberName_last qualified rfl] at whole
  | case4 name tokens dot next rest qualified part named isDot
      inductionHypothesis =>
      have further := nextPart?_of_word isDot named rest
      have reaches : Local SameStop
          (fun tokens => (qualifierEnd? tokens).bind nextPart?)
          (fun rest => some (part, rest)) tokens rest := by
        have partLocal : Local SameStop nextPart?
            (fun rest => some (part, rest)) (dot :: next :: rest) rest :=
          ⟨[dot, next], rfl, fun other same =>
            ⟨same.append [dot, next], nextPart?_of_word isDot named other⟩⟩
        refine (qualifierEnd?_local qualified).followedBy partLocal ?_
        intro consumed between behind _ _ qualifiedEq partEq
        rw [qualifiedEq]
        exact partEq
      refine reaches.followedBy inductionHypothesis ?_
      intro consumed between behind _ _ reachesEq nameEq
      obtain ⟨reached, qualifiedEq, partEq⟩ :=
        Option.bind_eq_some_iff.1 reachesEq
      rw [readMemberName_further qualifiedEq partEq]
      exact nameEq
  | case5 name tokens dot next rest qualified notPart =>
      have noPart : nextPart? (dot :: next :: rest) = none := by
        rw [nextPart?]
        split
        · rename_i isDot
          rw [Option.map_eq_none_iff, Option.eq_none_iff_forall_ne_some]
          intro part named
          exact notPart part isDot named
        · rfl
      have whole := last name tokens _ qualified noPart
      rwa [readMemberName_last qualified noPart] at whole

/-! ## Whole methods -/

theorem readMethodTail_local {name returnType : String}
    {modifiers : List Modifier} {result : Option Method}
    {tokens rest : List Token}
    (read : readMethodTail name returnType modifiers tokens =
      .ok (result, rest)) :
    Local Anything (readMethodTail name returnType modifiers)
      (fun rest => .ok (result, rest)) tokens rest := by
  unfold readMethodTail at read
  split at read
  · cases read
  · rename_i parameters behindParameters parametersRead
    obtain ⟨_, bodySkipped, answer⟩ := exists_of_map_eq_ok read
    cases answer
    refine (readParameterList_local parametersRead).followedBy
      (skipMethodBody_local bodySkipped) ?_
    intro consumed between behind _ _ parametersEq bodyEq
    rw [readMethodTail, parametersEq]
    simp only [bodyEq]
    rfl

/-- Behind the name of a member: a method goes on with its parameters, and
anything else is left out. -/
def readMethodEnd (name returnType : String) (modifiers : List Modifier)
    (tokens : List Token) : Result (Option Method) :=
  if atMark '(' tokens then
    readMethodTail name returnType modifiers tokens.tail
  else
    leaveOut tokens

theorem readMethodEnd_end {name returnType : String}
    {modifiers : List Modifier} {result : Option Method}
    {tokens rest : List Token}
    (read : readMethodEnd name returnType modifiers tokens =
      .ok (result, rest)) :
    MemberEnd none (readMethodEnd name returnType modifiers) result tokens
      rest := by
  rw [readMethodEnd] at read
  split at read
  · rename_i isMethod
    obtain ⟨opening, behind, rfl, isOpening⟩ := exists_of_atMark isMethod
    refine .settled ((readMethodTail_local read).behind [opening] ?_)
    intro between behind _ tailEq
    have stillMethod : atMark '(' (opening :: between) = true := isOpening
    rw [List.singleton_append, readMethodEnd, if_pos stillMethod]
    exact tailEq
  · rename_i noMethod
    refine .of_leavingOut read fun other same => ?_
    rw [same.atMark_eq (by decide)] at noMethod
    rw [readMethodEnd, if_neg noMethod]
    rfl

def nextName? (tokens : List Token) : Option String :=
  tokens.head?.bind plainWord?

theorem SameStop.nextName?_eq {left right : List Token}
    (same : SameStop left right) : nextName? left = nextName? right := by
  refine same.look_eq rfl ?_ (fun _ _ _ _ => rfl) fun _ _ _ _ => rfl
  intro token rest closing
  simp [nextName?, plainWord?, word?, closing]

def readTypedMember (returnType : String) (modifiers : List Modifier)
    (tokens : List Token) : Result (Option Method) :=
  match nextName? tokens with
  | none => leaveOut tokens
  | some first =>
      let named := readMemberName first tokens.tail
      readMethodEnd named.1 returnType modifiers (skipAngles named.2)

theorem readMethod_eq {enclosing : Option String}
    {modifiers : List Modifier} {tokens behindType : List Token}
    (noConstructor : isConstructor enclosing tokens = false)
    (typed : skipType? tokens = .ok (some behindType)) :
    readMethod enclosing modifiers tokens =
      readTypedMember (Token.verbatim (taken tokens behindType)) modifiers
        behindType := by
  rw [readMethod, noConstructor, if_neg Bool.false_ne_true, typed]
  cases behindType with
  | nil =>
      simp only [readTypedMember, nextName?, List.head?_nil, Option.bind_none]
      rw [leaveOut, skipMember]
      rfl
  | cons token rest =>
      simp only [readTypedMember, nextName?, List.head?_cons,
        Option.bind_some, List.tail_cons]
      cases plainWord? token <;> rfl

theorem readMethod_of_noType {enclosing : Option String}
    {modifiers : List Modifier} {tokens : List Token}
    (noConstructor : isConstructor enclosing tokens = false)
    (noType : skipType? tokens = .ok none) :
    readMethod enclosing modifiers tokens = leaveOut tokens := by
  rw [readMethod, noConstructor, if_neg Bool.false_ne_true, noType]

theorem readMethod_of_constructor {enclosing : Option String}
    {modifiers : List Modifier} {tokens : List Token}
    (isConstructed : isConstructor enclosing tokens = true) :
    readMethod enclosing modifiers tokens = leaveOut tokens := by
  rw [readMethod, if_pos isConstructed]

theorem readTypedMember_named {returnType first : String}
    {modifiers : List Modifier} {token : Token} {behind : List Token}
    (plain : plainWord? token = some first) :
    readTypedMember returnType modifiers (token :: behind) =
      readMethodEnd (readMemberName first behind).1 returnType modifiers
        (skipAngles (readMemberName first behind).2) := by
  have next : nextName? (token :: behind) = some first := plain
  rw [readTypedMember, next]
  rfl

theorem readTypedMember_end {returnType : String}
    {modifiers : List Modifier} {result : Option Method}
    {tokens rest : List Token}
    (read : readTypedMember returnType modifiers tokens =
      .ok (result, rest)) :
    MemberEnd none (readTypedMember returnType modifiers) result tokens
      rest := by
  cases next : nextName? tokens with
  | none =>
      rw [readTypedMember, next] at read
      refine .of_leavingOut read fun other same => ?_
      rw [readTypedMember, ← same.nextName?_eq, next]
      rfl
  | some first =>
      cases tokens with
      | nil =>
          cases next
      | cons token behind =>
          have plain : plainWord? token = some first := next
          rw [readTypedMember_named plain] at read
          have behindName : Local SameStop
              (fun behind => readMethodEnd (readMemberName first behind).1
                returnType modifiers (skipAngles
                  (readMemberName first behind).2))
              (readMethodEnd (readMemberName first behind).1 returnType
                modifiers) behind
              (skipAngles (readMemberName first behind).2) := by
            refine (readMemberName_local first behind).followedBy
              (skipAngles_local _) ?_
            intro consumed between behind _ _ nameEq anglesEq
            rw [nameEq, anglesEq]
            rfl
          have named : Local SameStop
              (readTypedMember returnType modifiers)
              (readMethodEnd (readMemberName first behind).1 returnType
                modifiers) (token :: behind)
              (skipAngles (readMemberName first behind).2) := by
            refine behindName.behind [token] ?_
            intro between behind _ endEq
            rw [List.singleton_append, readTypedMember_named plain]
            exact endEq
          refine .behind named ?_ (readMethodEnd_end read)
          exact .inr (PlainlyTaken.further
            ⟨[], token, rfl, isPlainEnd_of_plainWord? (by simp [plain])⟩
            ((readMemberName_taken first behind).trans
              (skipAngles_taken _)))

theorem readMethod_end {enclosing : Option String}
    {modifiers : List Modifier} {result : Option Method}
    {tokens rest : List Token}
    (read : readMethod enclosing modifiers tokens = .ok (result, rest)) :
    MemberEnd none (readMethod enclosing modifiers) result tokens rest := by
  cases constructed : isConstructor enclosing tokens with
  | true =>
      rw [readMethod_of_constructor constructed] at read
      refine .of_leavingOut read fun other same => ?_
      rw [same.isConstructor_eq] at constructed
      exact readMethod_of_constructor constructed
  | false =>
      cases typed : skipType? tokens with
      | error refusal =>
          rw [readMethod, constructed, if_neg Bool.false_ne_true, typed]
            at read
          cases read
      | ok found =>
          cases found with
          | none =>
              rw [readMethod_of_noType constructed typed] at read
              refine .of_leavingOut read fun other same => ?_
              rw [same.isConstructor_eq] at constructed
              exact readMethod_of_noType constructed
                (same.skipType?_none typed)
          | some behindType =>
              rw [readMethod_eq constructed typed] at read
              refine .behind ?_ (.inr (skipType?_taken typed))
                (readTypedMember_end read)
              refine (skipType?_local typed).determines ?_
              intro consumed other tokensEq same typeEq
              rw [same.isConstructor_eq] at constructed
              rw [readMethod_eq constructed typeEq, tokensEq, taken_append,
                taken_append]

end ClassDiagram.Reading
