import ClassDiagram.Proofs.Cursor.Lists
import ClassDiagram.Proofs.Reading.LocalMethods

/-!
# Methods with a cursor

The cursor is set back in front of type arguments that do not belong to the
name of an interface, and stays in front of those that are not closed.  A
method is an entry only inside a type.
-/

namespace ClassDiagram.Cursor

open Source (Token)
open Reading (Refusal Result)

variable {input : Input} {token : Token} {tokens rest : List Token}

/-! ## Names of members -/

theorem skipInterfaceArguments_place (within : tokens <:+ input.tokens) :
    skipInterfaceArguments input (input.place tokens) =
      match Reading.qualifierEnd? tokens with
      | some reached => .done true (input.place reached)
      | none => .done false (input.place tokens) := by
  simp only [skipInterfaceArguments, bind_apply, position_apply,
    atMark_place '<' within, Outcome.andThen_done]
  cases opening : Reading.atMark '<' tokens with
  | false =>
      rw [Reading.qualifierEnd?_of_noAngle opening]
      rfl
  | true =>
      obtain ⟨token, rest, rfl, isMark⟩ := Reading.exists_of_atMark opening
      simp only [if_true, bind_apply, trySkipAngles_place within isMark,
        Reading.qualifierEnd?_of_angle rest isMark, Outcome.andThen_done]
      cases closed : Reading.afterAngles? 0 rest with
      | none =>
          simp
      | some after =>
          have inside : after <:+ input.tokens :=
            (Reading.afterAngles?_taken closed).suffix.trans
              ((List.suffix_cons token rest).trans within)
          rw [Reading.skipAngles_closed isMark closed]
          cases dotted : Reading.atMark '.' after <;>
            simp [atMark_place '.' inside, Option.filter, dotted]

/-- A further part of a name is seen from its two tokens. -/
theorem isSome_nextPart? (tokens : List Token) :
    (Reading.atMark '.' tokens && tokens[1]?.any Token.isAnyWord) =
      (Reading.nextPart? tokens).isSome := by
  match tokens with
  | [] =>
      rfl
  | [only] =>
      simp [Reading.nextPart?]
  | dot :: next :: rest =>
      have isWord : next.isAnyWord = (Reading.word? next).isSome := by
        obtain ⟨lead, lexeme⟩ := next
        cases lexeme <;> rfl
      cases isDot : dot.isMark '.' <;>
        simp [Reading.atMark, Reading.nextPart?, isDot, isWord]

theorem memberNameTurn_answers (name : String) (tokens : List Token)
    (within : tokens <:+ input.tokens) :
    TurnAnswers input
      (fun name tokens => .ok (Reading.readMemberName name tokens)) name
      tokens (memberNameTurn name input (input.place tokens)) := by
  simp only [memberNameTurn, bind_apply, skipInterfaceArguments_place within]
  cases reaches : Reading.qualifierEnd? tokens with
  | none =>
      exact .leave (List.suffix_refl tokens)
        (by rw [Reading.readMemberName_unreached reaches])
  | some reached =>
      have suffix : reached <:+ tokens :=
        (Reading.qualifierEnd?_taken reaches).suffix
      have reachedWithin := suffix.trans within
      simp only [Outcome.andThen_done, if_true, bind_apply,
        peekNth_place reachedWithin, atMark_place '.' reachedWithin,
        isSome_nextPart?]
      cases further : Reading.nextPart? reached with
      | none =>
          exact .leave suffix
            (by rw [Reading.readMemberName_last reaches further])
      | some found =>
          obtain ⟨part, rest⟩ := found
          obtain ⟨dot, next, rfl, -, named⟩ :=
            Reading.exists_of_nextPart? further
          have nextWithin := (List.suffix_cons dot _).trans reachedWithin
          simp only [Option.isSome_some, if_true, bind_apply, discard_apply,
            bump_cons reachedWithin, Outcome.andThen_done,
            seenWord_cons nextWithin named]
          refine .again ?_ ?_ ?_
          · exact ((List.suffix_cons next rest).trans
              (List.suffix_cons dot _)).trans suffix
          · have bound := suffix.length_le
            simp only [List.length_cons] at bound
            omega
          · rw [Reading.readMemberName_further reaches further]

theorem readMemberName_place {first name : String}
    (within : tokens <:+ input.tokens)
    (read : Reading.readMemberName first tokens = (name, rest)) :
    loop memberNameTurn first input (input.place tokens) =
        .done name (input.place rest) ∧
      rest <:+ tokens := by
  have agrees := loop_agrees memberNameTurn_answers first within
  rw [read] at agrees
  exact agrees.eq_done

/-! ## Methods -/

def Scope.entry (scope : Scope) (found : Option Method) :
    Option Declaration :=
  if scope.enclosing.isSome then found.map .method else none

/-- An answer about a method, told by its entry. -/
def entered (scope : Scope) (answer : Result (Option Method)) :
    Result (Option Declaration) :=
  answer.map fun (found, rest) => (scope.entry found, rest)

theorem leaveOut_agrees (scope : Scope) (within : tokens <:+ input.tokens) :
    Agrees input tokens (leaveOut input (input.place tokens))
      (entered scope (Reading.leaveOut tokens)) := by
  simp only [leaveOut, bind_apply]
  rw [Reading.leaveOut]
  refine (skipMember_agrees within).andThenPassing ?_ ?_
  · intro refusal refused
    rw [refused]
    rfl
  · intro rest skipped suffix
    rw [skipped]
    have noEntry : scope.entry none = none := by
      rw [Scope.entry]
      exact ite_self _
    simp only [entered, Except.map, noEntry]
    exact .done none suffix

theorem isConstructor_place (scope : Scope)
    (within : tokens <:+ input.tokens) :
    isConstructor scope input (input.place tokens) =
      .done (scope.enclosing.any fun name => Reading.atWord name tokens &&
          tokens[1]?.any (·.isMark '('))
        (input.place tokens) := by
  simp only [isConstructor, bind_apply, peekNth_place within,
    peek_place within, Outcome.andThen_done]
  cases scope.enclosing <;> rfl

/-- A destructor is told by its tilde, a constructor by the name of its
type. -/
theorem constructs_or_tilde (scope : Scope) (tokens : List Token) :
    ((scope.enclosing.any fun name => Reading.atWord name tokens &&
      tokens[1]?.any (·.isMark '(')) || Reading.atMark '~' tokens) =
        Reading.isConstructor scope.enclosing tokens := by
  cases tokens with
  | nil =>
      cases scope.enclosing <;> rfl
  | cons token rest =>
      rw [Reading.isConstructor_cons, Bool.or_comm]
      cases scope.enclosing <;> cases rest <;> rfl

theorem readMethodEnd_agrees (written : input.Written) (scope : Scope)
    (name returnType : String) (modifiers : List Modifier)
    (within : tokens <:+ input.tokens) :
    Agrees input tokens
      (readMethodEnd scope name returnType modifiers input
        (input.place tokens))
      (entered scope
        (Reading.readMethodEnd name returnType modifiers tokens)) := by
  simp only [readMethodEnd, bind_apply, atMark_place '(' within,
    Outcome.andThen_done]
  rw [Reading.readMethodEnd]
  cases isMethod : Reading.atMark '(' tokens with
  | false =>
      exact leaveOut_agrees scope within
  | true =>
      obtain ⟨token, rest, rfl, opening⟩ := Reading.exists_of_atMark isMethod
      simp only [if_true, bind_apply, List.tail_cons, Reading.readMethodTail]
      refine (readParameterList_agrees written within opening).andThen ?_ ?_
      · intro refusal refused
        rw [refused]
        rfl
      intro parameters behind read suffix
      simp only [read]
      refine ((skipMethodBody_agrees name (suffix.trans within)).mono
        suffix).andThenPassing ?_ ?_
      · intro refusal refused
        rw [refused]
        rfl
      intro after skipped afterSuffix
      rw [skipped]
      cases scope <;> exact .done _ afterSuffix

theorem readTypedMember_agrees (written : input.Written) (scope : Scope)
    (returnType : String) (modifiers : List Modifier)
    (within : tokens <:+ input.tokens) :
    Agrees input tokens
      (readTypedMember scope returnType modifiers input (input.place tokens))
      (entered scope
        (Reading.readTypedMember returnType modifiers tokens)) := by
  simp only [readTypedMember, bind_apply, peek_place within,
    Outcome.andThen_done]
  cases named : Reading.nextName? tokens with
  | none =>
      have noName : tokens.head?.bind Reading.plainWord? = none := named
      rw [Reading.readTypedMember, named, noName]
      exact leaveOut_agrees scope within
  | some first =>
      cases tokens with
      | nil =>
          cases named
      | cons token rest =>
          have suffix := List.suffix_cons token rest
          have plain : Reading.plainWord? token = some first := named
          rcases read : Reading.readMemberName first rest with ⟨name, behind⟩
          obtain ⟨nameEq, partsSuffix⟩ :=
            readMemberName_place (suffix.trans within) read
          simp only [List.head?_cons, Option.bind_some, plain, bind_apply,
            discard_apply, bump_cons within, Outcome.andThen_done,
            Reading.readTypedMember_named plain, nameEq, read]
          have nameSuffix := partsSuffix.trans suffix
          have nameWithin := nameSuffix.trans within
          have skippedSuffix := (Reading.skipAngles_taken behind).suffix
          have ended := (readMethodEnd_agrees written scope name returnType
            modifiers (skippedSuffix.trans nameWithin)).mono
              (skippedSuffix.trans nameSuffix)
          simp only [atMark_place '<' nameWithin, Outcome.andThen_done]
          cases opening : Reading.atMark '<' behind with
          | false =>
              rw [Reading.skipAngles_none opening] at ended ⊢
              exact ended
          | true =>
              obtain ⟨angle, others, rfl, isMark⟩ :=
                Reading.exists_of_atMark opening
              simp only [if_true, bind_apply, discard_apply,
                trySkipAngles_place nameWithin isMark, Outcome.andThen_done]
              exact ended

theorem readMethod_agrees (written : input.Written) (scope : Scope)
    (modifiers : List Modifier) (within : tokens <:+ input.tokens) :
    Agrees input tokens
      (readMethod scope modifiers input (input.place tokens))
      (entered scope
        (Reading.readMethod scope.enclosing modifiers tokens)) := by
  simp only [readMethod, bind_apply, isConstructor_place scope within,
    atMark_place '~' within, constructs_or_tilde, Outcome.andThen_done]
  cases constructed : Reading.isConstructor scope.enclosing tokens with
  | true =>
      rw [Reading.readMethod_of_constructor constructed]
      exact leaveOut_agrees scope within
  | false =>
      simp only [Bool.false_eq_true, if_false, bind_apply, position_apply,
        Outcome.andThen_done]
      rcases skipType_cases within with ⟨refusal, outcomeEq, typeEq⟩ |
        ⟨outcomeEq, typeEq⟩ | ⟨behindType, outcomeEq, typeEq, suffix⟩
      · rw [outcomeEq, Reading.readMethod, constructed, typeEq]
        exact .refused tokens refusal
      · rw [outcomeEq, Reading.readMethod_of_noType constructed typeEq]
        exact leaveOut_agrees scope within
      · rw [outcomeEq, Reading.readMethod_eq constructed typeEq]
        simp only [Outcome.andThen_done, if_true, bind_apply, position_apply,
          textBetween_place written within suffix]
        exact (readTypedMember_agrees written scope _ modifiers
          (suffix.trans within)).mono suffix

end ClassDiagram.Cursor
