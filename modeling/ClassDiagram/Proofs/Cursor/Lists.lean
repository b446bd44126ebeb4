import ClassDiagram.Proofs.Cursor.Slices
import ClassDiagram.Proofs.Cursor.Types
import ClassDiagram.Proofs.Reading.LocalEnumerations
import ClassDiagram.Proofs.Reading.LocalParameters

/-!
# Parameters and enumerations with a cursor

A list between commas is read turn by turn.  The turns carry what was read, so
the loop answers it in front of what the routine on lists answers for the
tokens that are left.
-/

namespace ClassDiagram.Cursor

open Source (Token)
open Reading (Refusal Result)

variable {input : Input} {token : Token} {tokens rest : List Token}

/-! ## One parameter -/

/-- A value is skipped alike wherever it ends. -/
theorem skipValue_agrees (stops : List Char)
    (within : tokens <:+ input.tokens) :
    Agrees input tokens (skipValue stops input (input.place tokens))
      (passing (if Reading.atMark '=' tokens then
        Reading.skipUntil stops tokens.tail else .ok tokens)) := by
  simp only [skipValue, bind_apply]
  cases given : Reading.atMark '=' tokens with
  | false =>
      simp only [eatMark_absent within given, Outcome.andThen_done,
        Bool.false_eq_true, if_false]
      exact .done () (List.suffix_refl tokens)
  | true =>
      obtain ⟨token, rest, rfl, isMark⟩ := Reading.exists_of_atMark given
      have suffix := List.suffix_cons token rest
      simp only [eatMark_present within isMark, Outcome.andThen_done, if_true]
      exact (skipUntil_agrees stops (suffix.trans within)).mono suffix

/-- Only the next token but one matters to a word that says how an argument is
passed. -/
theorem any_isParameterModifier (tokens : List Token) :
    tokens.head?.any
        (Reading.isParameterModifier · tokens[1]?.toList) =
      Reading.atParameterModifier tokens := by
  match tokens with
  | [] => rfl
  | [only] => rfl
  | first :: second :: rest => rfl

theorem parameterModifierTurn_answers (state : Unit) (tokens : List Token)
    (within : tokens <:+ input.tokens) :
    TurnAnswers input
      (fun _ tokens => passing (.ok (Reading.skipParameterModifiers tokens)))
      state tokens
      (parameterModifierTurn state input (input.place tokens)) := by
  simp only [parameterModifierTurn, bind_apply, peekNth_place within,
    peek_place within, Outcome.andThen_done, any_isParameterModifier]
  cases modifies : Reading.atParameterModifier tokens with
  | false =>
      exact leave_here
        (congrArg Except.ok (Reading.skipParameterModifiers_none modifies))
  | true =>
      cases tokens with
      | nil =>
          cases modifies
      | cons token rest =>
          exact again_behind_token within
            (congrArg Except.ok (if_pos modifies))

theorem skipParameterModifiers_place (within : tokens <:+ input.tokens) :
    loop parameterModifierTurn () input (input.place tokens) =
        .done () (input.place (Reading.skipParameterModifiers tokens)) ∧
      Reading.skipParameterModifiers tokens <:+ tokens :=
  (loop_agrees parameterModifierTurn_answers () within).eq_done

theorem skipDefaultValue_agrees (within : tokens <:+ input.tokens) :
    Agrees input tokens (skipValue [',', ')'] input (input.place tokens))
      (passing (Reading.skipDefaultValue tokens)) :=
  skipValue_agrees [',', ')'] within

theorem readParameter_agrees (written : input.Written)
    (within : tokens <:+ input.tokens) :
    Agrees input tokens (readParameter input (input.place tokens))
      (Reading.readBareParameter tokens) := by
  simp only [readParameter, bind_apply,
    eatWord_place Reading.anyArguments within, Outcome.andThen_done]
  rw [Reading.readBareParameter]
  cases anything : Reading.atWord Reading.anyArguments tokens with
  | true =>
      cases tokens with
      | nil =>
          cases anything
      | cons token rest =>
          have isWord : token.isWord Reading.anyArguments = true := anything
          simp only [Reading.skipWord, isWord, if_true, List.tail_cons]
          exact .done _ (List.suffix_cons token rest)
  | false =>
      simp only [Reading.skipWord_absent anything, Bool.false_eq_true,
        if_false, bind_apply, position_apply, Outcome.andThen_done]
      rcases skipType_cases within with ⟨refusal, outcomeEq, typeEq⟩ |
        ⟨outcomeEq, typeEq⟩ | ⟨behindType, outcomeEq, typeEq, suffix⟩
      · rw [outcomeEq, Reading.readTypedParameter, typeEq]
        exact .refused tokens refusal
      · rw [outcomeEq, Reading.readTypedParameter, typeEq]
        simp only [Outcome.andThen_done, Bool.false_eq_true, if_false,
          refuse_place within]
        exact .refused tokens _
      · rw [outcomeEq, Reading.readTypedParameter_eq typeEq]
        simp only [Outcome.andThen_done, if_true, bind_apply, position_apply,
          textBetween_place written within suffix]
        rw [Reading.readParameterName]
        refine ((expectWord_agrees .missingParameterName
          (suffix.trans within)).mono suffix).andThen ?_ ?_
        · intro refusal refused
          rw [refused]
          rfl
        · intro name behindName named shorter
          rw [named]
          refine ((skipDefaultValue_agrees (shorter.trans within)).mono
            shorter).andThenPassing ?_ ?_
          · intro refusal refused
            simp only [refused]
            rfl
          · intro rest skipped restSuffix
            simp only [skipped]
            exact .done _ restSuffix

/-! ## Parameter lists -/

theorem readParameters_refused {refusal : Refusal}
    (refused : Reading.readParameter tokens = .error refusal) :
    Reading.readParameters tokens = .error refusal := by
  rw [Reading.readParameters]
  split <;> rename_i answer <;> rw [refused] at answer <;> cases answer
  rfl

/-- What was read before and what is answered for the tokens that are left. -/
def joined {α : Type} (read : List α) (answer : Result (List α)) :
    Result (List α) :=
  answer.map fun (others, rest) => (read ++ others, rest)

theorem joined_cons {α : Type} (read : List α) (value : α)
    (answer : Result (List α)) :
    joined read (answer.map fun (others, rest) => (value :: others, rest)) =
      joined (read ++ [value]) answer := by
  cases answer with
  | error refusal =>
      rfl
  | ok result =>
      simp [joined, Except.map]

theorem joined_nil {α : Type} (answer : Result (List α)) :
    joined [] answer = answer := by
  cases answer <;> rfl

theorem parameterTurn_answers (written : input.Written)
    (read : List Parameter) (tokens : List Token)
    (within : tokens <:+ input.tokens) :
    TurnAnswers input
      (fun read tokens => joined read (Reading.readParameters tokens)) read
      tokens (parameterTurn read input (input.place tokens)) := by
  simp only [parameterTurn, bind_apply]
  refine .afterPassing (skipAttributes_agrees within) ?_ ?_
  · intro refusal refused
    have first : Reading.readParameter tokens = .error refusal := by
      rw [Reading.readParameter, refused]
    rw [readParameters_refused first]
    rfl
  intro start skipped startSuffix
  have startWithin := startSuffix.trans within
  have parameterEq := Reading.readParameter_eq skipped
  obtain ⟨modifiersEq, modifiersSuffix⟩ :=
    skipParameterModifiers_place startWithin
  have bareSuffix := modifiersSuffix.trans startSuffix
  simp only [modifiersEq, Outcome.andThen_done]
  refine .after ((readParameter_agrees written
    (bareSuffix.trans within)).mono bareSuffix) ?_ ?_
  · intro refusal refused
    rw [readParameters_refused (parameterEq.trans refused)]
    rfl
  intro parameter rest parameterRead restSuffix
  have restWithin := restSuffix.trans within
  have isRead := parameterEq.trans parameterRead
  cases more : Reading.atMark ',' rest with
  | true =>
      obtain ⟨comma, others, rfl, isComma⟩ := Reading.exists_of_atMark more
      have othersSuffix := (List.suffix_cons comma others).trans restSuffix
      simp only [eatMark_present restWithin isComma, Outcome.andThen_done,
        if_true]
      refine .again othersSuffix ?_ ?_
      · exact Nat.lt_of_lt_of_le (Nat.lt_succ_self _) restSuffix.length_le
      · rw [Reading.readParameters_more isRead more]
        exact joined_cons read parameter _
  | false =>
      simp only [eatMark_absent restWithin more, Outcome.andThen_done,
        Bool.false_eq_true, if_false]
      refine .afterPassing ((expectMark_agrees ')' restWithin).mono
        restSuffix) ?_ ?_
      · intro refusal refused
        rw [Reading.readParameters_last isRead more, refused]
        rfl
      · intro behind closed behindSuffix
        refine .leave behindSuffix ?_
        rw [Reading.readParameters_last isRead more, closed]
        rfl

/-- A parameter list is read from the parenthesis that opens it. -/
theorem readParameterList_agrees (written : input.Written)
    (within : token :: rest <:+ input.tokens)
    (opening : token.isMark '(' = true) :
    Agrees input (token :: rest)
      (readParameterList input (input.place (token :: rest)))
      (Reading.readParameterList rest) := by
  have suffix := List.suffix_cons token rest
  have behind := suffix.trans within
  simp only [readParameterList, bind_apply,
    expectMark_present within opening, Outcome.andThen_done]
  rw [Reading.readParameterList]
  cases empty : Reading.atMark ')' rest with
  | true =>
      obtain ⟨closing, others, rfl, isMark⟩ := Reading.exists_of_atMark empty
      simp only [eatMark_present behind isMark, Outcome.andThen_done, if_true]
      exact .done [] ((List.suffix_cons closing others).trans suffix)
  | false =>
      simp only [eatMark_absent behind empty, Outcome.andThen_done,
        Bool.false_eq_true, if_false]
      have agrees := loop_agrees (parameterTurn_answers written) [] behind
      rw [joined_nil] at agrees
      exact agrees.mono suffix

/-! ## Enumerations -/

/-- The underlying type ends in front of the brace that has to follow. -/
theorem enumerationHeaderTurn_holds (name : String) (state : Unit)
    (tokens : List Token) (within : tokens <:+ input.tokens) :
    TurnHolds input
      (fun _ tokens outcome => Agrees input tokens
        (outcome.andThen fun _ behind => expectMark '\x7b' input behind)
        (passing (Reading.enterEnumeration name tokens)))
      state tokens
      (enumerationHeaderTurn name state input (input.place tokens)) := by
  simp only [enumerationHeaderTurn, bind_apply, atMark_place '\x7b' within,
    Outcome.andThen_done]
  cases opened : Reading.atMark '\x7b' tokens with
  | true =>
      obtain ⟨token, rest, rfl, isMark⟩ := Reading.exists_of_atMark opened
      have entered : Reading.enterEnumeration name (token :: rest) =
          Reading.expectMark '\x7b' (token :: rest) := by
        rw [Reading.enterEnumeration, if_pos isMark,
          Reading.expectMark_of_isMark isMark]
      refine .leave (List.suffix_refl _) ?_
      rw [entered]
      exact expectMark_agrees '\x7b' within
  | false =>
      cases tokens with
      | nil =>
          simp only [Bool.false_eq_true, if_false, bind_apply, bump_nil,
            Outcome.andThen_done, refuse_place within]
          exact .refused (.refused [] _)
      | cons token rest =>
          have notOpened : ¬ token.isMark '\x7b' = true :=
            Bool.eq_false_iff.1 opened
          have suffix := List.suffix_cons token rest
          simp only [Bool.false_eq_true, if_false, bind_apply,
            bump_cons within, Outcome.andThen_done]
          refine .again suffix (Nat.lt_succ_self _) ?_
          intro outcome agrees
          rw [Reading.enterEnumeration, if_neg notOpened]
          exact agrees.mono suffix

theorem skipGivenValue_agrees (within : tokens <:+ input.tokens) :
    Agrees input tokens (skipValue [',', '\x7d'] input (input.place tokens))
      (passing (Reading.skipGivenValue tokens)) :=
  skipValue_agrees [',', '\x7d'] within

theorem readVariants_refused {refusal : Refusal}
    (refused : Reading.skipAttributes tokens = .error refusal) :
    Reading.readVariants tokens = .error refusal := by
  rw [Reading.readVariants]
  split <;> rename_i answer <;> rw [refused] at answer <;> cases answer
  rfl

theorem readBareVariants_refused {refusal : Refusal}
    (unfinished : Reading.atMark '\x7d' tokens = false)
    (refused : Reading.readVariant tokens = .error refusal) :
    Reading.readBareVariants tokens = .error refusal := by
  rw [Reading.readBareVariants, unfinished, if_neg Bool.false_ne_true,
    refused]

theorem variantTurn_answers (read : List String) (tokens : List Token)
    (within : tokens <:+ input.tokens) :
    TurnAnswers input
      (fun read tokens => joined read (Reading.readVariants tokens)) read
      tokens (variantTurn read input (input.place tokens)) := by
  simp only [variantTurn, bind_apply]
  refine .afterPassing (skipAttributes_agrees within) ?_ ?_
  · intro refusal refused
    rw [readVariants_refused refused]
    rfl
  intro start skipped startSuffix
  have startWithin := startSuffix.trans within
  have variantsEq := Reading.readVariants_eq skipped
  simp only [atMark_place '\x7d' startWithin, Outcome.andThen_done]
  cases ended : Reading.atMark '\x7d' start with
  | true =>
      refine .leave startSuffix ?_
      rw [variantsEq, Reading.readBareVariants_ended ended]
      simp [joined, Except.map]
  | false =>
      simp only [Bool.false_eq_true, if_false, bind_apply]
      refine .after ((expectWord_agrees .missingVariant startWithin).mono
        startSuffix) ?_ ?_
      · intro refusal refused
        have first : Reading.readVariant start = .error refusal := by
          rw [Reading.readVariant, refused]
        rw [variantsEq, readBareVariants_refused ended first]
        rfl
      intro name behindName named nameSuffix
      refine .afterPassing ((skipGivenValue_agrees
        (nameSuffix.trans within)).mono nameSuffix) ?_ ?_
      · intro refusal refused
        have first : Reading.readVariant start = .error refusal := by
          simp only [Reading.readVariant, named, refused]
          rfl
        rw [variantsEq, readBareVariants_refused ended first]
        rfl
      intro rest valueSkipped restSuffix
      have restWithin := restSuffix.trans within
      have isRead : Reading.readVariant start = .ok (name, rest) := by
        simp only [Reading.readVariant, named, valueSkipped]
        rfl
      cases more : Reading.atMark ',' rest with
      | true =>
          obtain ⟨comma, others, rfl, isComma⟩ :=
            Reading.exists_of_atMark more
          simp only [eatMark_present restWithin isComma,
            Outcome.andThen_done, if_true]
          refine .again ((List.suffix_cons comma others).trans restSuffix)
            ?_ ?_
          · exact Nat.lt_of_lt_of_le (Nat.lt_succ_self _)
              restSuffix.length_le
          · rw [variantsEq, Reading.readBareVariants_more isRead more]
            exact joined_cons read name _
      | false =>
          simp only [eatMark_absent restWithin more, Outcome.andThen_done,
            Bool.false_eq_true, if_false]
          refine .leave restSuffix ?_
          rw [variantsEq, Reading.readBareVariants_last isRead more]
          rfl

/-- An enumeration is read from its keyword on. -/
theorem readEnumeration_agrees (modifiers : List Modifier)
    (within : token :: rest <:+ input.tokens) :
    Agrees input (token :: rest)
      (readEnumeration modifiers input (input.place (token :: rest)))
      (Reading.readEnumeration modifiers rest) := by
  have suffix := List.suffix_cons token rest
  have behind := suffix.trans within
  simp only [readEnumeration, bind_apply, discard_apply, bump_cons within,
    Outcome.andThen_done]
  rw [Reading.readEnumeration]
  refine ((expectWord_agrees .missingEnumerationName behind).mono
    suffix).andThen ?_ ?_
  · intro refusal refused
    rw [refused]
  intro name behindName named nameSuffix
  have nameWithin := nameSuffix.trans within
  simp only [named]
  have header := loop_holds (List.suffix_refl _)
    (enumerationHeaderTurn_holds name) () behindName nameWithin
  rw [← Outcome.andThen_assoc]
  refine (header.mono nameSuffix).andThenPassing ?_ ?_
  · intro refusal refused
    rw [refused]
  intro body entered bodySuffix
  have variants := loop_agrees variantTurn_answers []
    (bodySuffix.trans within)
  rw [joined_nil] at variants
  simp only [entered]
  refine (variants.mono bodySuffix).andThen ?_ ?_
  · intro refusal refused
    rw [refused]
  intro names behindBody read bodyEnd
  simp only [read]
  refine ((expectMark_agrees '\x7d' (bodyEnd.trans within)).mono
    bodyEnd).andThenPassing ?_ ?_
  · intro refusal refused
    rw [refused]
    rfl
  intro after closed afterSuffix
  simp only [closed, eatMark_place ';' (afterSuffix.trans within),
    Outcome.andThen_done]
  exact .done _ ((Reading.skipMark_passed (by decide) after).suffix.trans
    afterSuffix)

end ClassDiagram.Cursor
