import ClassDiagram.Proofs.Cursor.Headers
import ClassDiagram.Proofs.Source.Tiling

/-!
# Declarations with a cursor

On lists the open declarations are carried along.  With a cursor a body is
read by a further call, whose level counts down.  What is read in front of the
end of a body is what the reader on lists has collected there, and both go on
alike.
-/

namespace ClassDiagram.Cursor

open Source (Token)
open Reading (Refusal Result Member Frames Opening enclosingType readFrom)

variable {input : Input} {token : Token} {tokens rest : List Token}

/-! ## Members up to their bodies -/

/-- A method is a member by its entry. -/
theorem map_entered (scope : Scope) (answer : Result (Option Method)) :
    ((entered scope answer).map fun (entry, rest) =>
      (entry.elim Member.leftOut Member.complete, rest)) =
        answer.map fun (found, rest) =>
          (Reading.methodMember scope.enclosing found, rest) := by
  cases answer with
  | error refusal =>
      rfl
  | ok result =>
      obtain ⟨found, rest⟩ := result
      cases scope <;> cases found <;> rfl

theorem openModified_agrees (written : input.Written) (scope : Scope)
    (modifiers : List Modifier) (within : tokens <:+ input.tokens) :
    Agrees input tokens
      (openModified scope modifiers input (input.place tokens))
      (Reading.readModified scope.enclosing modifiers tokens) := by
  simp only [openModified, bind_apply, peekNth_place within,
    peek_place within, Outcome.andThen_done]
  cases tokens with
  | nil =>
      exact .done Member.leftOut (List.suffix_refl [])
  | cons token rest =>
      simp only [List.head?_cons, List.getElem?_cons_succ,
        ← List.head?_eq_getElem?, isSome_declaredKind?]
      cases closing : token.isMark '\x7d' with
      | true =>
          have ended : Reading.atEnd (token :: rest) = true := closing
          have noWord := Reading.word?_of_isMark closing
          have noKind : Reading.nextKind? (token :: rest) = none :=
            Reading.declaredKind?_of_noWord noWord rest
          rw [Reading.readModified_ended ended, noKind,
            Reading.isWord_of_noWord noWord]
          exact .done Member.leftOut (List.suffix_refl _)
      | false =>
          have inside : Reading.atEnd (token :: rest) = false := closing
          cases kind : Reading.nextKind? (token :: rest) with
          | some kind =>
              rw [Reading.readModified_of_kind inside kind]
              exact (readTypeOpening_agrees written modifiers within kind).map
                Reading.TypeOpening.member
          | none =>
              cases isEnum : token.isWord "enum" with
              | true =>
                  rw [Reading.readModified_of_enum inside kind isEnum]
                  exact (readEnumeration_agrees modifiers within).map
                    fun declared => Member.complete (.enumeration declared)
              | false =>
                  rw [Reading.readModified_of_method inside kind isEnum,
                    ← map_entered]
                  exact (readMethod_agrees written scope modifiers within).map
                    (·.elim Member.leftOut Member.complete)

theorem openMember_agrees (written : input.Written) (scope : Scope)
    (within : tokens <:+ input.tokens) :
    Agrees input tokens (openMember scope input (input.place tokens))
      (Reading.readMember scope.enclosing tokens) := by
  simp only [openMember, bind_apply]
  rw [Reading.readMember]
  refine (skipAttributes_agrees within).andThenPassing ?_ ?_
  · intro refusal refused
    rw [refused]
  intro start skipped suffix
  have modifiersSuffix :=
    ((Reading.readModifiers_taken start).suffix).trans suffix
  simp only [skipped, readModifiers_place (suffix.trans within),
    Outcome.andThen_done]
  exact (openModified_agrees written scope _
    (modifiersSuffix.trans within)).mono modifiersSuffix

/-! ## Bodies -/

/-- What the declarations that are read next belong to, given the open
declarations. -/
def scopeOf : Frames → Scope
  | ⟨.block _, _⟩ :: _ => .block
  | ⟨.type header, _⟩ :: _ => .type header.name
  | _ => .unit

theorem enclosing_scopeOf (frames : Frames) :
    (scopeOf frames).enclosing = enclosingType frames := by
  match frames with
  | [] => rfl
  | ⟨.block _, _⟩ :: _ => rfl
  | ⟨.file _, _⟩ :: _ => rfl
  | ⟨.type _, _⟩ :: _ => rfl

/-- The declarations of the innermost body end in front of these tokens. -/
def EndsBody (frames : Frames) (rest : List Token) : Prop :=
  if scopeOf frames = .unit then
    rest = []
  else
    Reading.atMark '\x7d' rest = true

/-- What is read of the innermost body agrees with what the reader on lists
collects there, given what was read of the body before. -/
def BodyAgrees (input : Input) (frames : Frames) (read : List Declaration)
    (tokens : List Token) (outcome : Outcome (List Declaration)) : Prop :=
  (∃ refusal, outcome = .refused refusal ∧
    readFrom frames read.reverse tokens = .error refusal) ∨
  ∃ members rest, outcome = .done members (input.place rest) ∧
    rest <:+ tokens ∧ EndsBody frames rest ∧
    readFrom frames read.reverse tokens =
      readFrom frames members.reverse rest

/-- Bodies of fewer tokens are read as the reader on lists reads them. -/
def ReadsBodies (input : Input)
    (readBody : Scope → Action (List Declaration)) (bound : Nat) : Prop :=
  ∀ (frames : Frames) (body : List Token), body <:+ input.tokens →
    body.length < bound →
      BodyAgrees input frames [] body
        (readBody (scopeOf frames) input (input.place body))

section Bodies

variable {readBody : Scope → Action (List Declaration)} {bound : Nat}
  {frames : Frames} {read : List Declaration}

/-- What comes to the same from further on comes to the same from here. -/
theorem BodyAgrees.carried {next : List Declaration}
    {outcome : Outcome (List Declaration)}
    (agrees : BodyAgrees input frames next rest outcome)
    (suffix : rest <:+ tokens)
    (same : readFrom frames read.reverse tokens =
      readFrom frames next.reverse rest) :
    BodyAgrees input frames read tokens outcome := by
  rcases agrees with ⟨refusal, outcomeEq, refused⟩ |
    ⟨members, left, outcomeEq, shorter, ends, leftEq⟩
  · exact .inl ⟨refusal, outcomeEq, same.trans refused⟩
  · exact .inr ⟨members, left, outcomeEq, shorter.trans suffix, ends,
      same.trans leftEq⟩

/-- A body in braces is read with its brace and becomes a declaration. -/
theorem readBraced_cases (bodies : ReadsBodies input readBody bound)
    (frames : Frames) {opening : Opening} (braced : opening.isBraced = true)
    (before : List Declaration) (within : tokens <:+ input.tokens)
    (shorter : tokens.length < bound) :
    (∃ refusal, readBraced readBody (scopeOf (⟨opening, before⟩ :: frames))
        input (input.place tokens) = .refused refusal ∧
      readFrom (⟨opening, before⟩ :: frames) [] tokens = .error refusal) ∨
    ∃ members rest, readBraced readBody
        (scopeOf (⟨opening, before⟩ :: frames)) input (input.place tokens) =
          .done members (input.place rest) ∧
      rest <:+ tokens ∧
      readFrom (⟨opening, before⟩ :: frames) [] tokens =
        readFrom frames (opening.close members :: before) rest := by
  rcases bodies (⟨opening, before⟩ :: frames) tokens within shorter with
    ⟨refusal, outcomeEq, refused⟩ |
    ⟨members, rest, outcomeEq, suffix, ends, restEq⟩
  · refine .inl ⟨refusal, ?_, refused⟩
    simp only [readBraced, bind_apply, outcomeEq, Outcome.andThen_refused]
  · have closes : Reading.atMark '\x7d' rest = true := by
      cases opening with
      | file name => cases braced
      | block name => exact ends
      | type header => exact ends
    obtain ⟨closing, behind, rfl, isMark⟩ := Reading.exists_of_atMark closes
    have restWithin := suffix.trans within
    have behindWithin : behind <:+ input.tokens :=
      (List.suffix_cons closing behind).trans restWithin
    have step : Reading.Step
        ⟨⟨opening, before⟩ :: frames, members.reverse, closing :: behind⟩
        ⟨frames, opening.close members.reverse.reverse :: before,
          Reading.skipMark ';' behind⟩ :=
      .close isMark braced
    have sameOutline := step.outline_eq
    simp only [Reading.ReaderState.outline, List.reverse_reverse]
      at sameOutline
    refine .inr ⟨members, Reading.skipMark ';' behind, ?_, ?_, ?_⟩
    · simp only [readBraced, bind_apply, outcomeEq, Outcome.andThen_done,
        expectMark_present restWithin isMark, discard_apply,
        eatMark_place ';' behindWithin, pure_apply]
    · exact (Reading.skipMark_passed (by decide) behind).suffix.trans
        ((List.suffix_cons closing behind).trans suffix)
    · exact restEq.trans sameOutline

/-! ## Members -/

/-- The outline behind a member, given the answer that opens it. -/
def outlineBehind (frames : Frames) (members : List Declaration) :
    Result Member → Except Refusal Outline
  | .error refusal => .error refusal
  | .ok (member, rest) =>
      (Reading.ReaderState.behindMember ⟨frames, members, rest⟩
        member).outline

theorem finishMember_cases (bodies : ReadsBodies input readBody bound)
    (frames : Frames) (read : List Declaration) (member : Member)
    (within : tokens <:+ input.tokens) (shorter : tokens.length < bound) :
    (∃ refusal, finishMember readBody member input (input.place tokens) =
        .refused refusal ∧
      outlineBehind frames read.reverse (.ok (member, tokens)) =
        .error refusal) ∨
    ∃ found rest, finishMember readBody member input (input.place tokens) =
        .done found (input.place rest) ∧
      rest <:+ tokens ∧
      outlineBehind frames read.reverse (.ok (member, tokens)) =
        readFrom frames (read ++ found.toList).reverse rest := by
  cases member with
  | leftOut =>
      refine .inr ⟨none, tokens, rfl, List.suffix_refl tokens, ?_⟩
      rw [Option.toList_none, List.append_nil]
      rfl
  | complete declaration =>
      refine .inr ⟨some declaration, tokens, rfl, List.suffix_refl tokens, ?_⟩
      rw [Option.toList_some, List.reverse_append]
      rfl
  | opened header =>
      have braced : (Opening.type header).isBraced = true := rfl
      rcases readBraced_cases bodies frames braced read.reverse within
        shorter with
        ⟨refusal, outcomeEq, refused⟩ |
        ⟨members, rest, outcomeEq, suffix, restEq⟩
      · refine .inl ⟨refusal, ?_, refused⟩
        simp only [scopeOf] at outcomeEq
        simp only [finishMember, bind_apply, outcomeEq,
          Outcome.andThen_refused]
      · refine .inr ⟨some (.type header members), rest, ?_, suffix, ?_⟩
        · simp only [scopeOf] at outcomeEq
          simp only [finishMember, bind_apply, outcomeEq,
            Outcome.andThen_done, pure_apply]
        · rw [Option.toList_some, List.reverse_append]
          exact restEq

/-- Where no body ends, a member takes tokens, and so nothing is stepped over
behind it. -/
theorem readMember_cases (written : input.Written)
    (bodies : ReadsBodies input readBody bound)
    (frames : Frames) (read : List Declaration)
    (within : token :: rest <:+ input.tokens)
    (shorter : (token :: rest).length ≤ bound)
    (inside : token.isMark '\x7d' = false) :
    (∃ refusal, readMember readBody (scopeOf frames) input
        (input.place (token :: rest)) = .refused refusal ∧
      outlineBehind frames read.reverse
        (Reading.readMember (enclosingType frames) (token :: rest)) =
          .error refusal) ∨
    ∃ found behind, readMember readBody (scopeOf frames) input
        (input.place (token :: rest)) = .done found (input.place behind) ∧
      behind <:+ token :: rest ∧ behind.length < (token :: rest).length ∧
      outlineBehind frames read.reverse
        (Reading.readMember (enclosingType frames) (token :: rest)) =
          readFrom frames (read ++ found.toList).reverse behind := by
  simp only [readMember, bind_apply, position_apply, Outcome.andThen_done]
  have agrees := openMember_agrees written (scopeOf frames) within
  rw [enclosing_scopeOf] at agrees
  rcases agrees with ⟨refusal, outcomeEq, opened⟩ |
    ⟨member, left, outcomeEq, opened, suffix⟩
  · rw [outcomeEq, opened]
    exact .inl ⟨refusal, rfl, rfl⟩
  · have taken := Reading.readMember_length_lt inside opened
    rw [outcomeEq, opened]
    simp only [Outcome.andThen_done]
    rcases finishMember_cases bodies frames read member (suffix.trans within)
      (Nat.lt_of_lt_of_le taken shorter) with
      ⟨refusal, finishedEq, refused⟩ |
      ⟨found, behind, finishedEq, behindSuffix, outlineEq⟩
    · rw [finishedEq]
      exact .inl ⟨refusal, rfl, refused⟩
    · have fewer := Nat.lt_of_le_of_lt behindSuffix.length_le taken
      have moved : input.place behind ≠ input.place (token :: rest) :=
        Nat.ne_of_gt (Input.place_lt within fewer)
      refine .inr ⟨found, behind, ?_, behindSuffix.trans suffix, fewer,
        outlineEq⟩
      simp only [finishedEq, Outcome.andThen_done, if_neg moved, pure_apply]

/-! ## Namespaces -/

/-- A namespace is no type. -/
theorem readScopeOpening_scope {opening : Opening}
    (read : Reading.readScopeOpening tokens = .ok (opening, rest)) :
    ∃ name, opening = .file name ∨ opening = .block name := by
  unfold Reading.readScopeOpening at read
  split at read
  · cases read
  · rename_i name behind named
    split at read
    · cases read
      exact ⟨name, .inl rfl⟩
    · obtain ⟨body, _, answer⟩ := Reading.exists_of_map_eq_ok read
      cases answer
      exact ⟨name, .inr rfl⟩

/-- A namespace without braces is closed at the end of the source. -/
theorem readFrom_file (name : String) (members before : List Declaration) :
    readFrom (⟨.file name, before⟩ :: frames) members.reverse [] =
      readFrom frames (.scope name members :: before) [] := by
  rw [readFrom.eq_def, readFrom.eq_def]
  simp only [Reading.closeAll, List.reverse_reverse]

/-- What a namespace comes to in front of further declarations. -/
theorem readNamespace_cases (bodies : ReadsBodies input readBody bound)
    (frames : Frames) (read : List Declaration)
    (within : token :: rest <:+ input.tokens)
    (shorter : (token :: rest).length ≤ bound)
    (scopeWord : token.isWord "namespace" = true)
    (outside : Reading.insideType frames = false) :
    (∃ refusal, readNamespace readBody input (input.place (token :: rest)) =
        .refused refusal ∧
      readFrom frames read.reverse (token :: rest) = .error refusal) ∨
    ∃ declared behind,
      readNamespace readBody input (input.place (token :: rest)) =
        .done declared (input.place behind) ∧
      behind <:+ token :: rest ∧ behind.length < (token :: rest).length ∧
      readFrom frames read.reverse (token :: rest) =
        readFrom frames (read ++ [declared]).reverse behind := by
  simp only [readNamespace, bind_apply]
  rcases readScopeOpening_agrees within with ⟨refusal, outcomeEq, opened⟩ |
    ⟨opening, body, outcomeEq, opened, suffix⟩
  · rw [outcomeEq]
    have stuck : Reading.StuckAt ⟨frames, read.reverse, token :: rest⟩
        refusal := .enter scopeWord outside opened
    exact .inl ⟨refusal, rfl, stuck.outline_eq⟩
  · have taken : body.length < (token :: rest).length :=
      Nat.lt_succ_of_lt (Reading.readScopeOpening_length_lt opened)
    have bodyWithin := suffix.trans within
    have bodyShorter := Nat.lt_of_lt_of_le taken shorter
    have enters : readFrom frames read.reverse (token :: rest) =
        readFrom (⟨opening, read.reverse⟩ :: frames) [] body :=
      (Reading.Step.enter scopeWord outside opened).outline_eq
    rw [outcomeEq, enters]
    simp only [Outcome.andThen_done]
    obtain ⟨name, rfl | rfl⟩ := readScopeOpening_scope opened
    · rcases bodies (⟨.file name, read.reverse⟩ :: frames) body bodyWithin
        bodyShorter with ⟨refusal, bodyEq, refused⟩ |
        ⟨members, behind, bodyEq, behindSuffix, ends, behindEq⟩
      · refine .inl ⟨refusal, ?_, refused⟩
        simp only [scopeOf] at bodyEq
        simp [Opening.isBraced, bodyEq]
      · cases ends
        refine .inr ⟨.scope name members, [], ?_, List.nil_suffix,
          Nat.succ_pos _, ?_⟩
        · simp only [scopeOf] at bodyEq
          simp [Opening.isBraced, bodyEq, Opening.close]
        · rw [List.reverse_append]
          exact behindEq.trans (readFrom_file name members read.reverse)
    · have braced : (Opening.block name).isBraced = true := rfl
      rcases readBraced_cases bodies frames braced read.reverse bodyWithin
        bodyShorter with
        ⟨refusal, bodyEq, refused⟩ |
        ⟨members, behind, bodyEq, behindSuffix, behindEq⟩
      · refine .inl ⟨refusal, ?_, refused⟩
        simp only [scopeOf] at bodyEq
        simp [Opening.isBraced, bodyEq]
      · refine .inr ⟨.scope name members, behind, ?_,
          behindSuffix.trans suffix,
          Nat.lt_of_le_of_lt behindSuffix.length_le taken, ?_⟩
        · simp only [scopeOf] at bodyEq
          simp [Opening.isBraced, bodyEq, Opening.close]
        · rw [List.reverse_append]
          exact behindEq

/-! ## Loops over declarations -/

/-- Behind the last token only what runs to the end of the source may be
open. -/
theorem sourceEnd_holds (frames : Frames) (read : List Declaration)
    (within : [] <:+ input.tokens) :
    TurnHolds input (BodyAgrees input frames) read []
      ((match scopeOf frames with
        | .unit => return .leave read
        | .block => refuse .missingScopeEnd
        | .type name => refuse (.missingTypeEnd name) :
          Action (Turn (List Declaration) (List Declaration))) input
        (input.place [])) := by
  have leaves (toEnd : scopeOf frames = .unit) :
      TurnHolds input (BodyAgrees input frames) read []
        (.done (.leave read) (input.place [])) := by
    refine .leave (List.suffix_refl []) (.inr ⟨read, [], rfl,
      List.suffix_refl [], ?_, rfl⟩)
    rw [EndsBody, if_pos toEnd]
  have refuses {refusal : Refusal}
      (unclosed : Reading.closeAll frames read.reverse = .error refusal) :
      TurnHolds input (BodyAgrees input frames) read [] (.refused refusal) :=
    .refused (.inl ⟨refusal, rfl, (Reading.StuckAt.ended unclosed).outline_eq⟩)
  rcases frames with - | ⟨⟨opening, before⟩, outer⟩
  · exact leaves rfl
  · cases opening with
    | file name =>
        exact leaves rfl
    | block name =>
        simp only [scopeOf, refuse_place within]
        exact refuses rfl
    | type header =>
        simp only [scopeOf, refuse_place within]
        exact refuses rfl

theorem isBraced_of_unit (toEnd : scopeOf frames = .unit) :
    ∀ frame ∈ frames.head?, frame.opening.isBraced = false := by
  rcases frames with - | ⟨⟨opening, before⟩, outer⟩
  · nofun
  · intro frame isFirst
    cases isFirst
    cases opening with
    | file name => rfl
    | block name => cases toEnd
    | type header => cases toEnd

/-- In front of a member the outline is the one behind it. -/
theorem readFrom_member (rest : List Token) (read : List Declaration)
    (inside : token.isMark '\x7d' = false)
    (noSeparator : token.isMark ';' = false)
    (noScope : (token.isWord "namespace" && !Reading.insideType frames) =
      false) :
    readFrom frames read.reverse (token :: rest) =
      outlineBehind frames read.reverse
        (Reading.readMember (enclosingType frames) (token :: rest)) := by
  cases answer : Reading.readMember (enclosingType frames)
      (token :: rest) with
  | error refusal =>
      exact (Reading.StuckAt.member inside noSeparator noScope
        answer).outline_eq
  | ok result =>
      exact (Reading.Step.member inside noSeparator noScope
        answer).outline_eq

theorem declarationTurn_holds (written : input.Written)
    (bodies : ReadsBodies input readBody bound) (frames : Frames)
    (read : List Declaration) (tokens : List Token)
    (within : tokens <:+ input.tokens) (shorter : tokens.length ≤ bound) :
    TurnHolds input (BodyAgrees input frames) read tokens
      (declarationTurn readBody (scopeOf frames) read input
        (input.place tokens)) := by
  simp only [declarationTurn, bind_apply, peek_place within,
    Outcome.andThen_done]
  cases tokens with
  | nil =>
      exact sourceEnd_holds frames read within
  | cons token rest =>
      have suffix := List.suffix_cons token rest
      simp only [List.head?_cons]
      cases closing : token.isMark '\x7d' with
      | true =>
          by_cases toEnd : scopeOf frames = .unit
          · simp only [if_true, if_pos toEnd, refuse_place within]
            exact .refused (.inl ⟨_, rfl, (Reading.StuckAt.stray closing
              (isBraced_of_unit toEnd)).outline_eq⟩)
          · simp only [if_true, if_neg toEnd]
            refine .leave (List.suffix_refl _) (.inr ⟨read, token :: rest, rfl,
              List.suffix_refl _, ?_, rfl⟩)
            rw [EndsBody, if_neg toEnd]
            exact closing
      | false =>
          cases separator : token.isMark ';' with
          | true =>
              simp only [Bool.false_eq_true, if_false, if_true, bind_apply,
                discard_apply, bump_cons within, Outcome.andThen_done]
              refine .again suffix (Nat.lt_succ_self _) ?_
              intro outcome agrees
              exact agrees.carried suffix
                (Reading.Step.separate separator).outline_eq
          | false =>
              simp only [Bool.false_eq_true, if_false, enclosing_scopeOf]
              cases scope : token.isWord "namespace" &&
                  (enclosingType frames).isNone with
              | true =>
                  rw [Bool.and_eq_true, ← Option.not_isSome,
                    Bool.not_eq_true'] at scope
                  simp only [if_true, bind_apply]
                  rcases readNamespace_cases bodies frames read within shorter
                    scope.1 scope.2 with
                    ⟨refusal, outcomeEq, refused⟩ |
                    ⟨declared, behind, outcomeEq, behindSuffix, fewer,
                      behindEq⟩
                  · rw [outcomeEq]
                    exact .refused (.inl ⟨refusal, rfl, refused⟩)
                  · rw [outcomeEq]
                    exact .again behindSuffix fewer fun outcome agrees =>
                      agrees.carried behindSuffix behindEq
              | false =>
                  have noScope : (token.isWord "namespace" &&
                      !Reading.insideType frames) = false := by
                    rw [Reading.insideType, Option.not_isSome]
                    exact scope
                  have outlineEq := readFrom_member rest read closing
                    separator noScope
                  simp only [Bool.false_eq_true, if_false, bind_apply]
                  rcases readMember_cases written bodies frames read within
                    shorter closing with
                    ⟨refusal, outcomeEq, refused⟩ |
                    ⟨found, behind, outcomeEq, behindSuffix, fewer, behindEq⟩
                  · rw [outcomeEq]
                    exact .refused (.inl ⟨refusal, rfl,
                      outlineEq.trans refused⟩)
                  · rw [outcomeEq]
                    exact .again behindSuffix fewer fun outcome agrees =>
                      agrees.carried behindSuffix (outlineEq.trans behindEq)

end Bodies

/-- Bodies of fewer tokens than there are levels are read. -/
theorem readDeclarations_readsBodies (written : input.Written)
    (levels : Nat) : ReadsBodies input (readDeclarations levels) levels := by
  induction levels with
  | zero =>
      intro frames body _ shorter
      exact absurd shorter (Nat.not_lt_zero _)
  | succ levels inductionHypothesis =>
      intro frames body within shorter
      refine loop_holds within ?_ [] body (List.suffix_refl body)
      intro read tokens suffix
      exact declarationTurn_holds written inductionHypothesis frames read
        tokens (suffix.trans within)
        (Nat.le_trans suffix.length_le (Nat.le_of_lt_succ shorter))

/-! ## Sources -/

def outlineOutcome (input : Input) :
    Except Refusal Outline → Outcome (List Declaration)
  | .error refusal => .refused refusal
  | .ok outline => .done outline input.tokens.length

/-- There are levels enough if there is one more than there are tokens. -/
theorem readDeclarations_eq (written : input.Written) :
    readDeclarations (input.tokens.length + 1) .unit input 0 =
      outlineOutcome input (Reading.readOutline input.tokens) := by
  have start : input.place input.tokens = 0 := Nat.sub_self _
  have bodies := readDeclarations_readsBodies written
    (input.tokens.length + 1) [] input.tokens (List.suffix_refl _)
    (Nat.lt_succ_self _)
  rw [start] at bodies
  rcases bodies with ⟨refusal, outcomeEq, refused⟩ |
    ⟨members, rest, outcomeEq, _, ends, outlineEq⟩
  · rw [Reading.readOutline]
    simp only [List.reverse_nil] at refused
    rw [refused]
    exact outcomeEq
  · cases ends
    rw [Reading.readOutline]
    simp only [List.reverse_nil] at outlineEq
    rw [outlineEq, readFrom.eq_def]
    simp only [Reading.closeAll, List.reverse_reverse, outlineOutcome]
    exact outcomeEq

theorem readSource_eq (text : String) :
    readSource text = .ok (ClassDiagram.readSource text) := by
  rw [readSource, ClassDiagram.readSource]
  cases tokenized : Source.tokenize (Source.firstBranches text) with
  | error error =>
      rfl
  | ok source =>
      have written : Input.Written
          ⟨(Source.firstBranches text).toList, source.tokens⟩ :=
        ⟨source.trailing.toList,
          (Source.tokenize_tiles tokenized).interleaved.symm⟩
      simp only [readDeclarations_eq written]
      cases Reading.readOutline source.tokens <;> rfl

end ClassDiagram.Cursor
