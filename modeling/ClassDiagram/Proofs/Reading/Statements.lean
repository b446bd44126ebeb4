import ClassDiagram.Proofs.Reading.Attributes
import ClassDiagram.Proofs.Reading.Concatenation
import ClassDiagram.Proofs.Reading.InsideNested
import ClassDiagram.Proofs.Reading.MemberForms

/-!
# Top-level statements

A source may have statements outside its types, and the outline leaves them
out.  The reader skips a statement up to its semicolon, unless it takes it for
a local function: if a type and a name seem to be followed by parameters, as
in `await Delay(100);`, they must be parameters, or the source is refused.
-/

namespace ClassDiagram.Reading

open Source (Token Lexeme)

/-! ## Sources without entries -/

theorem closeAll_eq_nil {frames : Frames} {members : List Declaration}
    (closed : closeAll frames members = .ok []) :
    frames = [] ∧ members = [] := by
  fun_induction closeAll frames members with
  | case1 members =>
      rw [Except.ok.injEq, List.reverse_eq_nil_iff] at closed
      exact ⟨rfl, closed⟩
  | case2 name before frames members inductionHypothesis =>
      cases (inductionHypothesis closed).2
  | case3 | case4 => cases closed

theorem readFrom_skipMark (frames : Frames) (members : List Declaration)
    (tokens : List Token) :
    readFrom frames members (skipMark ';' tokens) =
      readFrom frames members tokens := by
  cases present : atMark ';' tokens with
  | false => rw [skipMark_of_atMark_eq_false present]
  | true =>
      obtain ⟨token, rest, rfl, isMark⟩ := exists_of_atMark present
      rw [skipMark, if_pos isMark]
      exact (Step.separate isMark).outline_eq.symm

/-- Where no type is open, the reader reads the same next as in front of a
whole source. -/
theorem readsMember_eq {frames : Frames}
    (noType : enclosingType frames = none) (tokens : List Token) :
    readsMember frames tokens = readsMember [] tokens := by
  have outside : insideType frames = insideType [] := by
    rw [insideType, noType]
    rfl
  cases tokens with
  | nil => rfl
  | cons token rest => rw [readsMember, readsMember, outside]

theorem readsMember_append (frames : Frames) {tokens : List Token}
    (reads : readsMember frames tokens = true) (other : List Token) :
    readsMember frames (tokens ++ other) = true := by
  cases tokens with
  | nil => cases reads
  | cons token rest => exact reads

/-- A member at the end of a source that is left out is not seen in front of
other tokens. -/
theorem readFrom_append_leftOut {tokens : List Token}
    (reads : readsMember [] tokens = true)
    (read : readMember none tokens = .ok (.leftOut, []))
    (ends : endsDeclaration tokens = true) {frames : Frames}
    (noType : enclosingType frames = none) (members : List Declaration)
    (other : List Token) :
    readFrom frames members (tokens ++ other) =
      readFrom frames members other := by
  have readsHere : readsMember frames (tokens ++ other) = true :=
    readsMember_append frames (readsMember_eq noType tokens ▸ reads) other
  rw [readFrom_of_readsMember readsHere, noType]
  rcases (readMember_end read).append_cases ends other with
    same | separated | ⟨_, isValue, goesOn⟩
  · rw [same]
    rfl
  · rw [separated]
    exact readFrom_skipMark frames members other
  · -- the initializer is left out by itself as well
    obtain ⟨value, rest, rfl, valueMark⟩ := exists_of_atMark isValue
    have noScope : value.isWord "namespace" = false :=
      isWord_of_noWord (word?_of_isMark valueMark) "namespace"
    have readsValue : readsMember frames (value :: rest) = true := by
      rw [readsMember, isMark_unique valueMark (by decide),
        isMark_unique valueMark (by decide), noScope]
      rfl
    rw [goesOn, readFrom_of_readsMember readsValue, noType,
      readMember_of_value valueMark]

/-- The last step of a source without entries is not seen in front of other
tokens. -/
theorem Step.unseen {state next : ReaderState} (step : Step state next)
    (noFrames : next.frames = []) (noMembers : next.members = [])
    (finished : next.tokens = [])
    (ends : endsDeclaration state.tokens = true) :
    state.frames = [] ∧ state.members = [] ∧
      ∀ (frames : Frames) (members : List Declaration) (other : List Token),
        enclosingType frames = none →
          readFrom frames members (state.tokens ++ other) =
            readFrom frames members other := by
  cases step with
  | close => cases noMembers
  | enter => cases noFrames
  | separate separator =>
      subst finished
      exact ⟨noFrames, noMembers, fun _ _ _ _ =>
        (Step.separate separator).outline_eq⟩
  | @member _ _ _ _ _ member inside noSeparator noScope read =>
      cases member with
      | complete declaration => cases noMembers
      | opened header => cases noFrames
      | leftOut =>
          cases noFrames
          cases noMembers
          cases finished
          refine ⟨rfl, rfl, fun frames members other noType => ?_⟩
          refine readFrom_append_leftOut ?_ read ends noType members other
          rw [readsMember, inside, noSeparator, noScope]
          rfl

/-- A source that ends like a declaration and has no entries in its outline is
not seen in front of another one. -/
theorem readFrom_append_of_unseen {first : List Token}
    (ends : endsDeclaration first = true)
    (unseen : readOutline first = .ok []) {frames : Frames}
    (noType : enclosingType frames = none) (members : List Declaration)
    (other : List Token) :
    readFrom frames members (first ++ other) =
      readFrom frames members other := by
  obtain ⟨final, run, finished, closed⟩ :=
    exists_run_of_outline ⟨[], [], first⟩ unseen
  obtain ⟨noFrames, noMembers⟩ := closeAll_eq_nil closed
  rcases Relation.ReflTransGen.cases_tail run with same | ⟨last, front, step⟩
  · subst same
    change first = [] at finished
    subst finished
    cases ends
  · obtain ⟨consumed, split, again⟩ := Run.again front
    change first = consumed ++ last.tokens at split
    have something : last.tokens ≠ [] :=
      List.ne_nil_of_length_pos (Nat.zero_lt_of_lt step.tokens_length_lt)
    have endsLast : endsDeclaration last.tokens = true := by
      rwa [← endsDeclaration_append consumed something, ← split]
    obtain ⟨noLastFrames, noLastMembers, lastUnseen⟩ :=
      step.unseen noFrames noMembers finished endsLast
    have alike : ResumesAlike last.tokens (last.tokens ++ other) := by
      obtain ⟨token, rest, lastEq⟩ := List.exists_cons_of_ne_nil something
      rw [lastEq]
      exact ⟨rfl, rfl, rfl⟩
    have inside := Run.within (again (last.tokens ++ other) alike) frames
      members noType
    obtain ⟨lastFrames, lastMembers, tokens⟩ := last
    subst noLastFrames noLastMembers
    have whole : readFrom frames members (consumed ++ (tokens ++ other)) =
        readFrom frames members (tokens ++ other) := Run.outline_eq inside
    rw [split, List.append_assoc, whole]
    exact lastUnseen frames members other noType

/-! ## Types and names ahead -/

/-- The name of a member behind its type, if there is one, and the tokens
behind it. -/
def nameBehindType (tokens : List Token) : Option String × List Token :=
  match nextName? tokens with
  | none => (none, tokens)
  | some first =>
      let named := readMemberName first tokens.tail
      (some named.1, skipAngles named.2)

/-- The name of a member, if a type and a name seem to begin here, and the
tokens behind what is taken for them. -/
def nameAhead (tokens : List Token) : Option String × List Token :=
  match skipType? tokens with
  | .ok (some behindType) => nameBehindType behindType
  | _ => (none, tokens)

/-- What stands behind the parenthesis, if the tokens look like a method. -/
def parametersAhead? (tokens : List Token) : Option (List Token) :=
  match nameAhead tokens with
  | (some _, opening :: rest) => if opening.isMark '(' then some rest else none
  | _ => none

/-- The tokens look like a method, but no parameters follow. -/
def isMisread (tokens : List Token) : Bool :=
  (parametersAhead? tokens).any fun parameters =>
    !(readParameterList parameters).isOk

theorem readTypedMember_eq (returnType : String) (modifiers : List Modifier)
    (tokens : List Token) :
    readTypedMember returnType modifiers tokens =
      match nameBehindType tokens with
      | (none, left) => leaveOut left
      | (some name, left) => readMethodEnd name returnType modifiers left := by
  rw [readTypedMember, nameBehindType]
  cases nextName? tokens <;> rfl

/-- Where a type begins, no destructor does. -/
theorem isConstructor_eq_false_of_typed {tokens behindType : List Token}
    (typed : skipType? tokens = .ok (some behindType)) :
    isConstructor none tokens = false := by
  cases tokens with
  | nil => rfl
  | cons token rest =>
      rw [isConstructor_cons]
      by_contra constructed
      have isTilde : token.isMark '~' = true := by simpa using constructed
      have notRef : atWord "ref" (token :: rest) = false :=
        isWord_of_noWord (word?_of_isMark isTilde) "ref"
      have noType : skipBareType? (token :: rest) = .ok none := by
        apply skipBareType?_noType_iff.2
        refine ⟨isMark_unique isTilde (by decide), ?_⟩
        rw [plainWord?, word?_of_isMark isTilde]
        rfl
      rw [skipType?_eq, skipReferenceWords_absent notRef, noType] at typed
      cases typed

/-- Outside types, a member that is no declaration is read by the name
ahead. -/
theorem readMethod_ahead {tokens : List Token}
    {found : Option (List Token)} (typed : skipType? tokens = .ok found) :
    ∃ returnType, readMethod none [] tokens =
      match nameAhead tokens with
      | (none, left) => leaveOut left
      | (some name, left) => readMethodEnd name returnType [] left := by
  cases found with
  | none =>
      refine ⟨"", ?_⟩
      rw [nameAhead, typed]
      by_cases constructed : isConstructor none tokens = true
      · exact readMethod_of_constructor constructed
      · rw [Bool.not_eq_true] at constructed
        exact readMethod_of_noType constructed typed
  | some behindType =>
      have noConstructor := isConstructor_eq_false_of_typed typed
      refine ⟨Token.verbatim (taken tokens behindType), ?_⟩
      rw [readMethod_eq noConstructor typed, readTypedMember_eq, nameAhead,
        typed]

theorem nameBehindType_local {name : String} {tokens left : List Token}
    (named : nameBehindType tokens = (some name, left)) :
    Local SameStop nameBehindType (fun rest => (some name, rest)) tokens
      left := by
  unfold nameBehindType at named
  split at named
  · cases named
  · rename_i first next
    cases named
    cases tokens with
    | nil => cases next
    | cons token behind =>
        have nameLocal : Local SameStop
            (fun behind => (some (readMemberName first behind).1,
              skipAngles (readMemberName first behind).2))
            (fun rest => (some (readMemberName first behind).1, rest)) behind
            (skipAngles (readMemberName first behind).2) := by
          refine (readMemberName_local first behind).followedBy
            (skipAngles_local _) ?_
          intro consumed between further _ _ nameEq anglesEq
          rw [nameEq, anglesEq]
          rfl
        refine nameLocal.behind [token] ?_
        intro between further _ nameEq
        have stillNext : nextName? (token :: between) = some first := next
        rw [List.singleton_append, nameBehindType, stillNext]
        exact nameEq

/-- The name ahead and what is behind it depend on nothing further. -/
theorem nameAhead_local {name : String} {tokens left : List Token}
    (ahead : nameAhead tokens = (some name, left)) :
    Local SameStop nameAhead (fun rest => (some name, rest)) tokens left := by
  unfold nameAhead at ahead
  split at ahead
  · rename_i behindType typed
    refine (skipType?_local typed).followedBy
      (nameBehindType_local ahead) ?_
    intro consumed between behind _ _ typeEq nameEq
    rw [nameAhead, typeEq]
    exact nameEq
  · cases ahead

/-! ## Statements -/

def statementMarks : List Char :=
  [';', '\x7b', '\x7d']

/-- A statement as it is written in front of its semicolon.  It begins neither
with attributes nor with a word that begins a declaration. -/
structure IsStatement (tokens : List Token) : Prop where
  something : tokens ≠ []
  nested : NestedWithout statementMarks tokens
  noAttribute : atMark '[' tokens = false
  noDeclaration : ∀ text, tokens.head?.bind word? = some text →
    text ∉ "namespace" :: memberWords

section

variable {tokens : List Token} {semicolon : Token}

theorem isMark_eq_false_of_noStop {token : Token} {stops : List Char}
    (noStop : stops.any token.isMark = false) {c : Char} (stop : c ∈ stops) :
    token.isMark c = false := by
  rw [List.any_eq_false] at noStop
  exact Bool.eq_false_iff.2 (noStop c stop)

namespace NestedWithout

theorem mono {stops others : List Char} (nested : NestedWithout stops tokens)
    (fewer : others ⊆ stops) : NestedWithout others tokens := by
  have noOther : ∀ {token : Token}, stops.any token.isMark = false →
      others.any token.isMark = false := by
    intro token noStop
    rw [List.any_eq_false]
    intro c member
    rw [isMark_eq_false_of_noStop noStop (fewer member)]
    exact Bool.false_ne_true
  induction nested with
  | nil => exact .nil
  | neutral noStop notOpening notClosing _ inductionHypothesis =>
      exact .neutral (noOther noStop) notOpening notClosing
        inductionHypothesis
  | group noStop opens closes inside _ inductionHypothesis =>
      exact .group (noOther noStop) opens closes inside inductionHypothesis

/-- Without braces outside its groups, a member is skipped through its
semicolon. -/
theorem skipMember_statement (nested : NestedWithout statementMarks tokens)
    (isSemicolon : semicolon.isMark ';' = true) (rest : List Token) :
    skipMember (tokens ++ semicolon :: rest) = .ok rest := by
  induction nested with
  | nil => exact skipMember_separator isSemicolon
  | neutral noStop notOpening notClosing _ inductionHypothesis =>
      rw [List.cons_append, skipMember_neutral
        (isMark_eq_false_of_noStop noStop (by decide))
        (isMark_eq_false_of_noStop noStop (by decide)) notOpening]
      exact inductionHypothesis
  | @group opening closing wanted inner behind noStop opens closes inside _
      inductionHypothesis =>
      have noBlock : wanted ≠ '\x7d' := by
        rintro rfl
        have isBrace := isMark_of_closer?_brace opens
        rw [isMark_eq_false_of_noStop noStop (by decide)] at isBrace
        cases isBrace
      rw [List.cons_append, List.append_assoc, List.cons_append,
        skipMember_group (isMark_eq_false_of_noStop noStop (by decide))
          (isMark_eq_false_of_noStop noStop (by decide)) opens
          (inside.skipGroup_eq closes _),
        if_neg fun block => noBlock block.1]
      exact inductionHypothesis

/-- So is what stands behind parameters. -/
theorem skipMethodBody_statement (nested : NestedWithout statementMarks tokens)
    (isSemicolon : semicolon.isMark ';' = true) (name : String)
    (rest : List Token) :
    skipMethodBody name (tokens ++ semicolon :: rest) = .ok rest := by
  have standsBefore : ∀ {token : Token}, token.lexeme ≠ .arrow →
      statementMarks.any token.isMark = false →
        standsBeforeBody token = true := by
    intro token noArrow noStop
    simp [standsBeforeBody, noArrow,
      isMark_eq_false_of_noStop noStop (c := '\x7b') (by decide),
      isMark_eq_false_of_noStop noStop (c := ';') (by decide),
      isMark_eq_false_of_noStop noStop (c := '\x7d') (by decide)]
  induction nested with
  | nil => exact skipMethodBody_semicolon isSemicolon
  | @neutral token behind noStop notOpening notClosing nested
      inductionHypothesis =>
      rw [List.cons_append]
      by_cases arrow : token.lexeme = .arrow
      · rw [skipMethodBody_arrow arrow]
        exact (nested.mono (by decide)).skipStatement_eq isSemicolon rest
      · rw [skipMethodBody_neutral (standsBefore arrow noStop) notOpening]
        exact inductionHypothesis
  | @group opening closing wanted inner behind noStop opens closes inside _
      inductionHypothesis =>
      have noArrow : opening.lexeme ≠ .arrow := by
        intro arrow
        rw [closer?, arrow] at opens
        cases opens
      rw [List.cons_append, List.append_assoc, List.cons_append,
        skipMethodBody_group (standsBefore noArrow noStop) opens
          (inside.skipGroup_eq closes _)]
      exact inductionHypothesis

end NestedWithout

namespace IsStatement

variable (statement : IsStatement tokens)

include statement

theorem beginsTyped (rest : List Token) : BeginsTyped (tokens ++ rest) := by
  obtain ⟨first, others, rfl⟩ :=
    List.exists_cons_of_ne_nil statement.something
  have noMark : ∀ {c : Char}, c ∈ statementMarks →
      first.isMark c = false := by
    intro c isEnd
    cases statement.nested with
    | neutral noStop => exact isMark_eq_false_of_noStop noStop isEnd
    | group noStop => exact isMark_eq_false_of_noStop noStop isEnd
  cases isText : word? first with
  | some text =>
      have free := statement.noDeclaration text isText
      rw [List.mem_cons, not_or] at free
      exact beginsTyped_of_free isText free.2 (others ++ rest)
  | none =>
      exact
        { noModifier := modifier?_of_noWord isText (others ++ rest)
          noKind := declaredKind?_of_noWord isText (others ++ rest)
          noEnum := isWord_of_noWord isText "enum"
          inside := noMark (by decide)
          noSeparator := noMark (by decide)
          noAttribute := statement.noAttribute }

/-- The reader takes a statement for a member. -/
theorem readsMember (frames : Frames) (rest : List Token) :
    readsMember frames (tokens ++ rest) = true := by
  have begins := statement.beginsTyped rest
  obtain ⟨first, others, rfl⟩ :=
    List.exists_cons_of_ne_nil statement.something
  have noScope : first.isWord "namespace" = false := by
    cases isText : word? first with
    | none => exact isWord_of_noWord isText "namespace"
    | some text =>
        have free := statement.noDeclaration text isText
        rw [List.mem_cons, not_or] at free
        rw [isWord_eq isText, beq_eq_false_iff_ne]
        exact free.1
  have inside : first.isMark '\x7d' = false := begins.noClosing
  have noSeparator : first.isMark ';' = false := begins.noSeparator
  rw [List.cons_append, Reading.readsMember, inside, noSeparator, noScope]
  rfl

/-- It is read by the name ahead. -/
theorem readMember_eq (rest : List Token) :
    readMember none (tokens ++ rest) =
      (readMethod none [] (tokens ++ rest)).map fun (_, behind) =>
        (.leftOut, behind) := by
  have begins := statement.beginsTyped rest
  rw [readMember, skipAttributes_none begins.noAttribute]
  simp only [readModifiers_none begins.noModifier]
  rw [readModified_of_method begins.inside begins.noKind begins.noEnum]
  cases readMethod none [] (tokens ++ rest) <;> rfl

end IsStatement

/-! ## Statements in front of their semicolon -/

/-- What is taken for a type and a name is nested, and so are the type
arguments outside the groups behind the parenthesis, if there is one. -/
structure ReadsNested (tokens : List Token) : Prop where
  front : ∃ front, Nested front ∧ tokens = front ++ (nameAhead tokens).2
  parameters : ∀ parameters, parametersAhead? tokens = some parameters →
    AnglesNested parameters

/-- Without angle brackets behind the parenthesis only the front matters. -/
theorem ReadsNested.of_noAngle {front parameters : List Token}
    (frontNested : Nested front) (split : tokens = front ++ (nameAhead tokens).2)
    (ahead : parametersAhead? tokens = some parameters)
    (noAngle : ∀ token ∈ parameters, token.isMark '<' = false) :
    ReadsNested tokens where
  front := ⟨front, frontNested, split⟩
  parameters := by
    intro found foundEq
    rw [ahead] at foundEq
    cases foundEq
    exact anglesNested_of_noAngle noAngle

theorem exists_before_semicolon {front left : List Token}
    (split : tokens ++ [semicolon] = front ++ left) :
    left = [] ∨ ∃ before, tokens = front ++ before ∧
      left = before ++ [semicolon] := by
  rcases List.eq_nil_or_concat left with noLeft | ⟨before, last, rfl⟩
  · exact .inl noLeft
  · rw [List.concat_eq_append, ← List.append_assoc] at split
    obtain ⟨frontEq, lastEq⟩ := List.append_inj' split rfl
    cases lastEq
    exact .inr ⟨before, frontEq, List.concat_eq_append⟩

/-- What was read in front of a token that ends type arguments is read there
whatever stands behind this token. -/
theorem Local.in_front_of {β : Type} {routine answer : List Token → β}
    {stop : Token} (ending : endsTypeArguments stop = true)
    {front left first : List Token}
    (isLocal : Local SameStop routine answer (front ++ stop :: first)
      (left ++ stop :: first)) (second : List Token) :
    routine (front ++ stop :: second) = answer (left ++ stop :: second) := by
  obtain ⟨consumed, split, again⟩ := isLocal
  rw [← List.append_assoc] at split
  have frontEq := List.append_cancel_right split
  have same : SameStop (left ++ stop :: first) (left ++ stop :: second) :=
    .append (.stopped first second ending) left
  rw [frontEq, List.append_assoc]
  exact (again _ same).2

theorem exists_of_parametersAhead? {parameters : List Token}
    (ahead : parametersAhead? tokens = some parameters) :
    ∃ name opening, nameAhead tokens = (some name, opening :: parameters) ∧
      opening.isMark '(' = true := by
  unfold parametersAhead? at ahead
  split at ahead
  · rename_i name opening rest named
    split at ahead
    · rename_i isOpening
      cases ahead
      exact ⟨name, opening, named, isOpening⟩
    · cases ahead
  · cases ahead

theorem exists_type_of_nameAhead {name : String} {left : List Token}
    (ahead : nameAhead tokens = (some name, left)) :
    ∃ behindType, skipType? tokens = .ok (some behindType) := by
  unfold nameAhead at ahead
  split at ahead
  · exact ⟨_, by assumption⟩
  · cases ahead

namespace IsStatement

variable (statement : IsStatement tokens)
  (isSemicolon : semicolon.isMark ';' = true)

include statement

theorem nested_semicolon (isSemicolon : semicolon.isMark ';' = true) :
    Nested (tokens ++ [semicolon]) := by
  have nested : Nested tokens :=
    nestedWithout_nil_iff.1 (statement.nested.mono (List.nil_subset _))
  exact nested.append (nested_of_isMark isSemicolon (by decide) .nil)

include isSemicolon

/-- The group that may be a list of parameters. -/
theorem exists_parameters (reads : ReadsNested (tokens ++ [semicolon]))
    {name : String} {opening : Token} {parameters : List Token}
    (ahead : nameAhead (tokens ++ [semicolon]) =
      (some name, opening :: parameters))
    (isOpening : opening.isMark '(' = true) :
    ∃ front inner closing after,
      tokens = front ++ opening :: (inner ++ closing :: after) ∧
        parameters = inner ++ closing :: (after ++ [semicolon]) ∧
          NestedWithout statementMarks after ∧
            ∀ rest, Enclosed inner (closing :: (after ++ semicolon :: rest)) := by
  obtain ⟨front, frontNested, split⟩ := reads.front
  rw [ahead] at split
  rcases exists_before_semicolon split with nothing | ⟨before, rfl, beforeEq⟩
  · cases nothing
  · have nested := statement.nested.of_append frontNested
    cases before with
    | nil =>
        obtain ⟨rfl, _⟩ := List.cons.inj beforeEq
        rw [isMark_unique isOpening (by decide)] at isSemicolon
        cases isSemicolon
    | cons first behind =>
        obtain ⟨rfl, rfl⟩ := List.cons.inj beforeEq
        obtain ⟨inner, closing, after, rfl, closes, innerNested, afterNested⟩ :=
          nested.exists_group (closer?_of_isMark isOpening)
        have isClosing : closing.isMark ')' = true :=
          isMark_of_closing? closes
        have parametersEq : inner ++ closing :: after ++ [semicolon] =
            inner ++ closing :: (after ++ [semicolon]) := by simp
        have angles : AnglesNested
            (inner ++ closing :: (after ++ [semicolon])) := by
          apply reads.parameters
          rw [parametersAhead?, ahead]
          simp [isOpening]
        exact ⟨front, inner, closing, after, rfl, parametersEq, afterNested,
          enclosed_of_anglesNested innerNested isClosing isSemicolon angles⟩

/-- A statement that is not misread is left out. -/
theorem readMember_semicolon (reads : ReadsNested (tokens ++ [semicolon]))
    (wellRead : isMisread (tokens ++ [semicolon]) = false) :
    readMember none (tokens ++ [semicolon]) = .ok (.leftOut, []) := by
  obtain ⟨found, typed⟩ :=
    skipType?_accepted (statement.nested_semicolon isSemicolon)
  obtain ⟨returnType, readEq⟩ := readMethod_ahead typed
  rw [statement.readMember_eq, readEq]
  obtain ⟨front, frontNested, split⟩ := reads.front
  rcases ahead : nameAhead (tokens ++ [semicolon]) with ⟨name, left⟩
  rw [ahead] at split
  have leftOut : leaveOut left = .ok ((none : Option Method), []) := by
    rcases exists_before_semicolon split with rfl | ⟨before, rfl, rfl⟩
    · rw [leaveOut, skipMember]
      rfl
    · have nested := statement.nested.of_append frontNested
      rw [leaveOut, nested.skipMember_statement isSemicolon]
      rfl
  cases name with
  | none =>
      simp only [leftOut]
      rfl
  | some name =>
      simp only [readMethodEnd]
      split
      · rename_i present
        obtain ⟨opening, parameters, rfl, isOpening⟩ := exists_of_atMark present
        obtain ⟨_, inner, closing, after, _, rfl, afterNested, enclosed⟩ :=
          statement.exists_parameters isSemicolon reads ahead isOpening
        have accepted : (readParameterList
            (inner ++ closing :: (after ++ [semicolon]))).isOk = true := by
          rw [isMisread, parametersAhead?, ahead] at wellRead
          simpa [isOpening] using wellRead
        cases read : readParameterList
            (inner ++ closing :: (after ++ [semicolon])) with
        | error refusal =>
            rw [read] at accepted
            cases accepted
        | ok answer =>
            obtain ⟨found, behind⟩ := answer
            have behindEq := readParameterList_enclosed (enclosed []) read
            rw [List.tail_cons] at behindEq
            subst behindEq
            rw [List.tail_cons, readMethodTail, read]
            simp only [afterNested.skipMethodBody_statement isSemicolon]
            rfl
      · rw [leftOut]
        rfl

/-- A statement that is misread is refused in front of all other tokens. -/
theorem readMember_misread (reads : ReadsNested (tokens ++ [semicolon]))
    (misread : isMisread (tokens ++ [semicolon]) = true) (rest : List Token) :
    ∃ refusal, readMember none (tokens ++ semicolon :: rest) =
      .error refusal := by
  have ending : endsTypeArguments semicolon = true :=
    endsTypeArguments_of_isMark isSemicolon (by simp)
  obtain ⟨parameters, parametersEq, refused⟩ :=
    (Option.any_eq_true _ _).1 misread
  obtain ⟨name, opening, ahead, isOpening⟩ :=
    exists_of_parametersAhead? parametersEq
  obtain ⟨front, inner, closing, after, tokensEq, rfl, afterNested, enclosed⟩ :=
    statement.exists_parameters isSemicolon reads ahead isOpening
  have aheadLocal := nameAhead_local ahead
  have groupEq : ∀ behind : List Token,
      inner ++ closing :: (after ++ semicolon :: behind) =
        inner ++ closing :: after ++ semicolon :: behind := by simp
  rw [groupEq, ← List.cons_append] at aheadLocal
  have aheadHere := aheadLocal.in_front_of ending rest
  obtain ⟨behindType, typed⟩ := exists_type_of_nameAhead aheadHere
  obtain ⟨returnType, readEq⟩ := readMethod_ahead typed
  have isMethod : atMark '('
      (opening :: (inner ++ closing :: after) ++ semicolon :: rest) = true :=
    isOpening
  rw [statement.readMember_eq, readEq, aheadHere]
  simp only [readMethodEnd, if_pos isMethod]
  rw [List.cons_append, List.tail_cons, readMethodTail]
  cases read : readParameterList
      (inner ++ closing :: after ++ semicolon :: rest) with
  | error refusal => exact ⟨refusal, rfl⟩
  | ok answer =>
      -- the parameters would be read in front of the semicolon as well
      obtain ⟨found, behind⟩ := answer
      rw [← groupEq] at read
      have behindEq := readParameterList_enclosed (enclosed rest) read
      rw [List.tail_cons] at behindEq
      subst behindEq
      rw [groupEq] at read
      have accepted :=
        (readParameterList_local read).in_front_of ending []
      rw [groupEq, accepted] at refused
      cases refused

end IsStatement

/-- A source that ends like a declaration makes no difference in front of any
other one if and only if it has no entries by itself. -/
theorem toOption_readOutline_append_iff {first : List Token}
    (ends : endsDeclaration first = true) :
    (∀ rest, (readOutline (first ++ rest)).toOption =
        (readOutline rest).toOption) ↔
      readOutline first = .ok [] := by
  constructor
  · intro same
    have alone := same []
    rw [List.append_nil] at alone
    cases read : readOutline first with
    | error refusal =>
        rw [read, readOutline, readFrom.eq_def] at alone
        cases alone
    | ok outline =>
        rw [read, readOutline, readFrom.eq_def] at alone
        cases alone
        rfl
  · intro unseen rest
    exact congrArg Except.toOption
      (readFrom_append_of_unseen ends unseen rfl [] rest)

theorem endsDeclaration_semicolon (isSemicolon : semicolon.isMark ';' = true)
    (tokens : List Token) :
    endsDeclaration (tokens ++ [semicolon]) = true := by
  simp [endsDeclaration, isSemicolon]

end

/-- A top-level statement makes no difference to any source behind it if and
only if it has an outline without entries by itself; it is then not seen in
any namespace either.  If what is taken of it for a type, a name and the types
of parameters is nested, this is so unless it is misread: then every source
with it is refused. -/
theorem readFrom_statement {statement : List Token} {semicolon : Token}
    (isStatement : IsStatement statement)
    (isSemicolon : semicolon.isMark ';' = true) :
    ((∀ rest, (readOutline (statement ++ semicolon :: rest)).toOption =
          (readOutline rest).toOption) ↔
        readOutline (statement ++ [semicolon]) = .ok []) ∧
      ∀ (frames : Frames) (members : List Declaration) (rest : List Token),
        enclosingType frames = none →
          (readOutline (statement ++ [semicolon]) = .ok [] →
            readFrom frames members (statement ++ semicolon :: rest) =
              readFrom frames members rest) ∧
          (ReadsNested (statement ++ [semicolon]) →
            if isMisread (statement ++ [semicolon]) then
              ∃ refusal, readFrom frames members
                (statement ++ semicolon :: rest) = .error refusal
            else
              readFrom frames members (statement ++ semicolon :: rest) =
                readFrom frames members rest) := by
  have ends := endsDeclaration_semicolon isSemicolon statement
  have wholeEq : ∀ rest, statement ++ semicolon :: rest =
      statement ++ [semicolon] ++ rest := by
    intro rest
    rw [List.append_assoc, List.singleton_append]
  refine ⟨?_, fun frames members rest noType => ⟨fun unseen => ?_, ?_⟩⟩
  · refine Iff.trans (forall_congr' fun rest => ?_)
      (toOption_readOutline_append_iff ends)
    rw [wholeEq rest]
  · rw [wholeEq]
    exact readFrom_append_of_unseen ends unseen noType members rest
  · intro reads
    split
    · rename_i misread
      obtain ⟨refusal, refused⟩ :=
        isStatement.readMember_misread isSemicolon reads misread rest
      refine ⟨refusal, ?_⟩
      rw [readFrom_of_readsMember (isStatement.readsMember frames _), noType,
        refused]
    · rename_i wellRead
      rw [Bool.not_eq_true] at wellRead
      rw [wholeEq]
      exact readFrom_append_leftOut (isStatement.readsMember [] _)
        (isStatement.readMember_semicolon isSemicolon reads wellRead) ends
        noType members rest

def awaitedCall : List Token :=
  [⟨"", .word "await"⟩, ⟨" ", .word "Task"⟩, ⟨"", .mark '.'⟩,
    ⟨"", .word "Delay"⟩, ⟨"", .mark '('⟩, ⟨"", .literal "100"⟩,
    ⟨"", .mark ')'⟩]

def localFunction : List Token :=
  [⟨"", .word "List"⟩, ⟨"", .mark '<'⟩, ⟨"", .word "int"⟩, ⟨"", .mark '>'⟩,
    ⟨" ", .word "Above"⟩, ⟨"", .mark '('⟩, ⟨"", .word "int"⟩,
    ⟨" ", .word "low"⟩, ⟨"", .mark ')'⟩, ⟨" ", .arrow⟩, ⟨" ", .word "all"⟩]

def statementEnd : Token :=
  ⟨"", .mark ';'⟩

def programTokens : List Token :=
  [⟨"\n", .word "class"⟩, ⟨" ", .word "Program"⟩, ⟨"", .mark ';'⟩]

theorem awaitedCall_isStatement : IsStatement awaitedCall where
  something := List.cons_ne_nil _ _
  nested := .neutral rfl rfl rfl (.neutral rfl rfl rfl (.neutral rfl rfl rfl
    (.neutral rfl rfl rfl (@NestedWithout.group _ ⟨"", .mark '('⟩
      ⟨"", .mark ')'⟩ _ [⟨"", .literal "100"⟩] [] rfl rfl rfl
      (.neutral rfl rfl .nil) .nil))))
  noAttribute := rfl
  noDeclaration := by
    rintro _ ⟨⟩
    decide

theorem awaitedCall_readsNested :
    ReadsNested (awaitedCall ++ [statementEnd]) := by
  have front : Nested (awaitedCall.take 4) :=
    .neutral rfl rfl (.neutral rfl rfl (.neutral rfl rfl
      (.neutral rfl rfl .nil)))
  have ahead : parametersAhead? (awaitedCall ++ [statementEnd]) =
      some (awaitedCall.drop 5 ++ [statementEnd]) := by decide +kernel
  exact .of_noAngle front (by decide +kernel) ahead (by decide)

theorem localFunction_isStatement : IsStatement localFunction where
  something := List.cons_ne_nil _ _
  nested := .neutral rfl rfl rfl (.neutral rfl rfl rfl (.neutral rfl rfl rfl
    (.neutral rfl rfl rfl (.neutral rfl rfl rfl
      (@NestedWithout.group _ ⟨"", .mark '('⟩ ⟨"", .mark ')'⟩ _
        [⟨"", .word "int"⟩, ⟨" ", .word "low"⟩]
        [⟨" ", .arrow⟩, ⟨" ", .word "all"⟩] rfl rfl rfl
        (.neutral rfl rfl (.neutral rfl rfl .nil))
        (.neutral rfl rfl rfl (.neutral rfl rfl rfl .nil)))))))
  noAttribute := rfl
  noDeclaration := by
    rintro _ ⟨⟩
    decide

theorem localFunction_readsNested :
    ReadsNested (localFunction ++ [statementEnd]) := by
  have front : Nested (localFunction.take 5) :=
    .neutral rfl rfl (.neutral rfl rfl (.neutral rfl rfl
      (.neutral rfl rfl (.neutral rfl rfl .nil))))
  have ahead : parametersAhead? (localFunction ++ [statementEnd]) =
      some (localFunction.drop 6 ++ [statementEnd]) := by decide +kernel
  exact .of_noAngle front (by decide +kernel) ahead (by decide)

theorem awaitedCall_refused_localFunction_skipped :
    IsStatement awaitedCall ∧ IsStatement localFunction ∧
      statementEnd.isMark ';' = true ∧
        ReadsNested (awaitedCall ++ [statementEnd]) ∧
          ReadsNested (localFunction ++ [statementEnd]) ∧
            (∃ refusal, readOutline
              (awaitedCall ++ statementEnd :: programTokens) =
                .error refusal) ∧
            readOutline (localFunction ++ statementEnd :: programTokens) =
              .ok [.type ⟨.classWord, "Program", none, []⟩ []] := by
  have awaitedMisread : isMisread (awaitedCall ++ [statementEnd]) = true := by
    decide +kernel
  have functionRead : isMisread (localFunction ++ [statementEnd]) = false := by
    decide +kernel
  have awaitedRead := ((readFrom_statement awaitedCall_isStatement rfl).2 [] []
    programTokens rfl).2 awaitedCall_readsNested
  have skipped := ((readFrom_statement localFunction_isStatement rfl).2 [] []
    programTokens rfl).2 localFunction_readsNested
  rw [if_pos awaitedMisread] at awaitedRead
  rw [functionRead, if_neg Bool.false_ne_true] at skipped
  refine ⟨awaitedCall_isStatement, localFunction_isStatement, rfl,
    awaitedCall_readsNested, localFunction_readsNested, awaitedRead, ?_⟩
  rw [readOutline, skipped]
  decide +kernel

end ClassDiagram.Reading

namespace ClassDiagram

/-- A call that is awaited is taken for a local function without the types of
its parameters. -/
theorem awaited_call_refused :
    readSource "await Task.Delay(100);\nclass Program \x7b \x7d" =
        .error (.source (.unexpected .missingParameterType
          (some (.literal "100"))) ⟨1, 18⟩) ∧
      readSource "class Program \x7b \x7d" =
        .ok [.type ⟨.classWord, "Program", none, []⟩ []] := by
  constructor <;> decide +kernel

end ClassDiagram
