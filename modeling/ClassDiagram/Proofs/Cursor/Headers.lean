import ClassDiagram.Proofs.Cursor.Methods
import ClassDiagram.Proofs.Reading.LocalSteps

/-!
# Headers with a cursor

Modifiers, the header of a type and the name of a namespace are read up to the
mark behind them.  The words at which a declaration is recognised are seen
ahead and read once more.
-/

namespace ClassDiagram.Cursor

open Source (Token)
open Reading (Refusal Result skipGroup)

variable {input : Input} {token : Token} {tokens rest : List Token}
  {closer : Char}

/-! ## Modifiers -/

/-- Only the next token but one matters to a modifier. -/
theorem bind_modifier? (tokens : List Token) :
    (tokens.head?.bind (Reading.modifier? · tokens[1]?.toList)) =
      Reading.nextModifier? tokens := by
  match tokens with
  | [] => rfl
  | [only] => rfl
  | first :: second :: rest =>
      have accepted : (fun modifier =>
          Reading.acceptsModifier modifier [second]) =
          fun modifier => Reading.acceptsModifier modifier
            (second :: rest) := by
        funext modifier
        cases modifier <;> rfl
      simp only [List.head?_cons, Option.bind_some, Reading.nextModifier?,
        Reading.modifier?, List.getElem?_cons_succ, List.getElem?_cons_zero,
        Option.toList_some, accepted]

theorem modifierTurn_answers (read : List Modifier) (tokens : List Token)
    (within : tokens <:+ input.tokens) :
    TurnAnswers input
      (fun read tokens => joined read (.ok (Reading.readModifiers tokens)))
      read tokens (modifierTurn read input (input.place tokens)) := by
  simp only [modifierTurn, bind_apply, peekNth_place within,
    peek_place within, Outcome.andThen_done, bind_modifier?]
  cases found : Reading.nextModifier? tokens with
  | none =>
      refine .leave (List.suffix_refl tokens) ?_
      rw [Reading.readModifiers_none found]
      simp [joined, Except.map]
  | some modifier =>
      cases tokens with
      | nil =>
          cases found
      | cons token rest =>
          simp only [bind_apply, discard_apply, bump_cons within,
            Outcome.andThen_done]
          refine .again (List.suffix_cons token rest) (Nat.lt_succ_self _) ?_
          rw [Reading.readModifiers_some found]
          exact joined_cons read modifier (.ok (Reading.readModifiers rest))

theorem readModifiers_place (within : tokens <:+ input.tokens) :
    loop modifierTurn [] input (input.place tokens) =
      .done (Reading.readModifiers tokens).1
        (input.place (Reading.readModifiers tokens).2) := by
  have agrees := loop_agrees modifierTurn_answers [] within
  rw [joined_nil] at agrees
  exact agrees.eq_done.1

/-! ## Types -/

theorem enterType_opening (name : String) (rest : List Token)
    (inHeader : Reading.standsInHeader token = true)
    (opens : Reading.closer? token = some closer) :
    Reading.enterType name (token :: rest) =
      (skipGroup closer rest).bind (Reading.enterType name) := by
  simp only [Reading.standsInHeader, Bool.not_eq_true',
    Bool.or_eq_false_iff] at inHeader
  obtain ⟨⟨noBody, noSeparator⟩, inside⟩ := inHeader
  rw [Reading.enterType]
  simp only [noBody, noSeparator, inside, Bool.false_eq_true, if_false,
    opens]
  split <;> rename_i answer <;> rw [answer] <;> rfl

/-- The mark behind a header says whether there is a body. -/
theorem bodyFollows_agrees (name : String)
    (within : token :: rest <:+ input.tokens)
    (ended : (token.isMark '\x7b' || token.isMark ';') = true) :
    Agrees input (token :: rest)
      (bodyFollows input (input.place (token :: rest)))
      (Reading.enterType name (token :: rest)) := by
  simp only [bodyFollows, bind_apply]
  cases opening : token.isMark '\x7b' with
  | true =>
      have noEnd : Reading.atMark ';' (token :: rest) = false :=
        Reading.isMark_unique opening (by decide)
      simp only [eatMark_absent within noEnd, Outcome.andThen_done,
        Bool.false_eq_true, if_false, bind_apply,
        expectMark_present within opening, Reading.enterType_body opening]
      exact .done true (List.suffix_cons token rest)
  | false =>
      have separator : token.isMark ';' = true := by
        simpa only [opening, Bool.false_or] using ended
      simp only [eatMark_present within separator, Outcome.andThen_done,
        if_true, Reading.enterType_end opening separator]
      exact .done false (List.suffix_cons token rest)

theorem typeHeaderTurn_holds (name : String) (state : Unit)
    (tokens : List Token) (within : tokens <:+ input.tokens) :
    TurnHolds input
      (fun _ tokens outcome => Agrees input tokens
        (outcome.andThen fun _ behind => bodyFollows input behind)
        (Reading.enterType name tokens))
      state tokens (typeHeaderTurn name state input (input.place tokens)) := by
  simp only [typeHeaderTurn, bind_apply, peek_place within,
    Outcome.andThen_done]
  cases tokens with
  | nil =>
      simp only [List.head?_nil, refuse_place within]
      exact .refused (by rw [Reading.enterType]; exact .refused [] _)
  | cons token rest =>
      have suffix := List.suffix_cons token rest
      simp only [List.head?_cons]
      cases ended : token.isMark '\x7b' || token.isMark ';' with
      | true =>
          exact .leave (List.suffix_refl _)
            (bodyFollows_agrees name within ended)
      | false =>
          have marks := ended
          rw [Bool.or_eq_false_iff] at marks
          cases inside : token.isMark '\x7d' with
          | true =>
              simp only [Bool.false_eq_true, if_false, if_true,
                refuse_place within]
              refine .refused ?_
              rw [Reading.enterType]
              simp only [marks.1, marks.2, inside, Bool.false_eq_true,
                if_false, if_true]
              exact .refused _ _
          | false =>
              have inHeader : Reading.standsInHeader token = true := by
                simp [Reading.standsInHeader, marks, inside]
              cases opens : Reading.closer? token with
              | some closer =>
                  have opened := enterType_opening name rest inHeader opens
                  simp only [Bool.false_eq_true, if_false,
                    Option.isSome_some, if_true, bind_apply]
                  rcases (skipBalanced_agrees within opens).passing_cases with
                    ⟨refusal, outcomeEq, skipped⟩ |
                    ⟨after, outcomeEq, skipped, shorter⟩
                  · rw [outcomeEq]
                    refine .refused ?_
                    rw [opened, skipped]
                    exact .refused _ refusal
                  · rw [outcomeEq]
                    refine .again shorter (Nat.lt_succ_of_le
                      (Reading.skipGroup_length_le skipped)) ?_
                    intro outcome agrees
                    rw [opened, skipped]
                    exact agrees.mono shorter
              | none =>
                  simp only [Bool.false_eq_true, if_false,
                    Option.isSome_none, bind_apply, discard_apply,
                    bump_cons within, Outcome.andThen_done]
                  refine .again suffix (Nat.lt_succ_self _) ?_
                  intro outcome agrees
                  rw [Reading.enterType_neutral inHeader opens]
                  exact agrees.mono suffix

theorem enterType_agrees (name : String)
    (within : tokens <:+ input.tokens) :
    Agrees input tokens (enterType name input (input.place tokens))
      (Reading.enterType name tokens) :=
  loop_holds (List.suffix_refl _) (typeHeaderTurn_holds name) () tokens within

theorem readTypeParameters_agrees (written : input.Written)
    (within : tokens <:+ input.tokens) :
    Agrees input tokens (readTypeParameters input (input.place tokens))
      (Reading.readTypeParameters tokens) := by
  simp only [readTypeParameters, bind_apply, atMark_place '<' within,
    Outcome.andThen_done]
  cases opening : Reading.atMark '<' tokens with
  | false =>
      rw [Reading.readTypeParameters_absent opening]
      exact .done none (List.suffix_refl tokens)
  | true =>
      obtain ⟨token, rest, rfl, isMark⟩ := Reading.exists_of_atMark opening
      simp only [if_true, bind_apply, position_apply, Outcome.andThen_done]
      have skips := skipAngles_agrees within isMark
      cases closed : Reading.afterAngles? 0 rest with
      | none =>
          rw [closed] at skips
          rw [Reading.readTypeParameters, if_pos opening, List.tail_cons,
            closed]
          refine skips.andThenPassing ?_ ?_
          · intro refusal refused
            cases refused
            rfl
          · intro behind skipped suffix
            cases skipped
      | some after =>
          rw [closed] at skips
          rw [Reading.readTypeParameters_present isMark closed]
          obtain ⟨outcomeEq, suffix⟩ := skips.eq_done
          simp only [outcomeEq, Outcome.andThen_done,
            textBetween_place written within suffix]
          exact .done _ suffix

/-- Only the next token but one matters to the word of a type. -/
theorem isSome_declaredKind? (token : Token) (rest : List Token) :
    Reading.declaredKind? token rest.head?.toList =
      Reading.nextKind? (token :: rest) := by
  cases rest <;> rfl

theorem skipRecordWord_place (kind : TypeKind)
    (within : tokens <:+ input.tokens) :
    skipRecordWord kind input (input.place tokens) =
      .done () (input.place (Reading.skipRecordWord kind tokens)) := by
  rw [skipRecordWord]
  by_cases isRecord : kind = .recordWord
  · simp only [if_pos isRecord, bind_apply, eatWord_place "class" within,
      Outcome.andThen_done]
    cases tokens with
    | nil =>
        simp [Reading.atWord, Reading.skipWord, Reading.skipRecordWord,
          eatWord_place "struct" within]
    | cons token rest =>
        cases isClass : token.isWord "class" <;>
          cases isStruct : token.isWord "struct" <;>
            simp [Reading.atWord, Reading.skipWord, Reading.skipRecordWord,
              isRecord, isClass, isStruct, eatWord_place "struct" within]
  · have absent : Reading.atRecordWord kind tokens = false := by
      simp [Reading.atRecordWord, isRecord]
    rw [if_neg isRecord, Reading.skipRecordWord_absent absent]
    rfl

theorem readTypeOpening_agrees (written : input.Written)
    (modifiers : List Modifier) {kind : TypeKind}
    (within : token :: rest <:+ input.tokens)
    (declared : Reading.nextKind? (token :: rest) = some kind) :
    Agrees input (token :: rest)
      (readTypeOpening modifiers input (input.place (token :: rest)))
      (Reading.readTypeOpening kind modifiers rest) := by
  have suffix := List.suffix_cons token rest
  have behind := suffix.trans within
  obtain ⟨keyword, _⟩ := Option.filter_eq_some_iff.1 declared
  obtain ⟨text, named, isKind⟩ := Option.bind_eq_some_iff.1 keyword
  simp only [readTypeOpening, bind_apply, seenWord_cons within named,
    Outcome.andThen_done, isKind, skipRecordWord_place kind behind]
  have recordSuffix :=
    ((Reading.skipRecordWord_passed kind rest).suffix).trans suffix
  rw [Reading.readTypeOpening_eq, Reading.readNamedType]
  refine ((expectWord_agrees .missingTypeName
    (recordSuffix.trans within)).mono recordSuffix).andThen ?_ ?_
  · intro refusal refused
    rw [refused]
  intro name behindName isNamed nameSuffix
  simp only [isNamed]
  rw [Reading.readTypeEnd]
  refine ((readTypeParameters_agrees written
    (nameSuffix.trans within)).mono nameSuffix).andThen ?_ ?_
  · intro refusal refused
    rw [refused]
  intro typeParameters behindParameters read parametersSuffix
  simp only [read]
  exact ((enterType_agrees name (parametersSuffix.trans within)).mono
    parametersSuffix).map
      (Reading.TypeOpening.mk ⟨kind, name, typeParameters, modifiers⟩)

/-! ## Namespaces -/

theorem readNameParts_refused {refusal : Refusal} {name : String}
    (isDot : token.isMark '.' = true)
    (refused : Reading.expectWord .missingNameAfterDot rest =
      .error refusal) :
    Reading.readNameParts name (token :: rest) = .error refusal := by
  cases rest with
  | nil =>
      cases refused
      rw [Reading.readNameParts, if_pos isDot]
      rfl
  | cons next behind =>
      rw [Reading.expectWord] at refused
      rw [Reading.readNameParts, if_pos isDot]
      cases named : Reading.word? next with
      | some part =>
          rw [named] at refused
          cases refused
      | none =>
          rw [named] at refused
          cases refused
          rfl

theorem dottedNameTurn_answers (name : String) (tokens : List Token)
    (within : tokens <:+ input.tokens) :
    TurnAnswers input Reading.readNameParts name tokens
      (dottedNameTurn name input (input.place tokens)) := by
  simp only [dottedNameTurn, bind_apply, atMark_place '.' within,
    Outcome.andThen_done]
  cases dotted : Reading.atMark '.' tokens with
  | false =>
      exact .leave (List.suffix_refl tokens)
        (Reading.readNameParts_last dotted)
  | true =>
      obtain ⟨dot, rest, rfl, isDot⟩ := Reading.exists_of_atMark dotted
      have suffix := List.suffix_cons dot rest
      simp only [if_true, bind_apply, discard_apply, bump_cons within,
        Outcome.andThen_done]
      refine .after ((expectWord_agrees .missingNameAfterDot
        (suffix.trans within)).mono suffix) ?_ ?_
      · intro refusal refused
        exact readNameParts_refused isDot refused
      · intro part behind named shorter
        obtain ⟨next, rfl, isWord⟩ := Reading.exists_of_expectWord named
        refine .again shorter ?_ (Reading.readNameParts_further isDot isWord _)
        simp only [List.length_cons]
        omega

theorem readDottedName_agrees (within : tokens <:+ input.tokens) :
    Agrees input tokens (readDottedName input (input.place tokens))
      (Reading.readDottedName tokens) := by
  simp only [readDottedName, bind_apply]
  rw [Reading.readDottedName]
  refine (expectWord_agrees .missingScopeName within).andThen ?_ ?_
  · intro refusal refused
    rw [refused]
  · intro first behind named suffix
    rw [named]
    exact (loop_agrees dottedNameTurn_answers first
      (suffix.trans within)).mono suffix

/-- A namespace is read from its keyword on. -/
theorem readScopeOpening_agrees (within : token :: rest <:+ input.tokens) :
    Agrees input (token :: rest)
      (readScopeOpening input (input.place (token :: rest)))
      (Reading.readScopeOpening rest) := by
  have suffix := List.suffix_cons token rest
  simp only [readScopeOpening, bind_apply, discard_apply, bump_cons within,
    Outcome.andThen_done]
  rw [Reading.readScopeOpening]
  refine ((readDottedName_agrees (suffix.trans within)).mono
    suffix).andThen ?_ ?_
  · intro refusal refused
    rw [refused]
  intro name behind named nameSuffix
  have nameWithin := nameSuffix.trans within
  simp only [named]
  cases toEnd : Reading.atMark ';' behind with
  | true =>
      obtain ⟨mark, others, rfl, isMark⟩ := Reading.exists_of_atMark toEnd
      simp only [eatMark_present nameWithin isMark, Outcome.andThen_done,
        if_true]
      exact .done _ ((List.suffix_cons mark others).trans nameSuffix)
  | false =>
      simp only [eatMark_absent nameWithin toEnd, Outcome.andThen_done,
        Bool.false_eq_true, if_false]
      refine ((expectMark_agrees '\x7b' nameWithin).mono
        nameSuffix).andThenPassing ?_ ?_
      · intro refusal refused
        rw [refused]
        rfl
      · intro body opened bodySuffix
        rw [opened]
        exact .done _ bodySuffix

end ClassDiagram.Cursor
