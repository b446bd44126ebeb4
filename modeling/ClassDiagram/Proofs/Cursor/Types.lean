import ClassDiagram.Proofs.Cursor.Skipping
import ClassDiagram.Proofs.Reading.TakenEnds

/-!
# Types with a cursor

The brackets of a type argument list are counted.  The count begins at an
opening bracket, so it is above zero wherever a closing bracket is met, and the
bracket that is found stands in front of the tokens that are left behind the
list.
-/

namespace ClassDiagram.Cursor

open Source (Token)
open Reading (Refusal Result afterAngles? refuseAt skipGroup)

variable {input : Input} {token : Token} {tokens rest : List Token}
  {index : Nat}

/-! ## Type arguments -/

/-- Inside some brackets, the closing bracket is found where the list of tokens
behind it begins. -/
theorem scanAngles_place (depth : Nat) (within : tokens <:+ input.tokens) :
    scanAngles (depth + 1) (input.place tokens) tokens =
      .ok ((afterAngles? depth tokens).map fun rest =>
        input.place rest - 1) := by
  induction tokens generalizing depth with
  | nil =>
      rw [scanAngles, Reading.afterAngles?]
      rfl
  | cons token rest inductionHypothesis =>
      have behind : rest <:+ input.tokens :=
        (List.suffix_cons token rest).trans within
      have next := Input.place_succ within
      rw [scanAngles.eq_def]
      simp only [next]
      cases opening : token.isMark '<' with
      | true =>
          rw [Reading.afterAngles?_opening depth rest opening]
          exact inductionHypothesis (depth + 1) behind
      | false =>
          cases closing : token.isMark '>' with
          | true =>
              cases depth with
              | zero =>
                  rw [Reading.afterAngles?_closing_zero rest closing,
                    Option.map_some, ← next, Nat.add_sub_cancel]
                  rfl
              | succ outer =>
                  rw [Reading.afterAngles?_closing_succ outer rest closing]
                  exact inductionHypothesis outer behind
          | false =>
              cases ending : Reading.endsTypeArguments token with
              | true =>
                  rw [Reading.afterAngles?_ending depth rest ending]
                  rfl
              | false =>
                  rw [Reading.afterAngles?_inner depth rest opening closing
                    ending]
                  exact inductionHypothesis depth behind

theorem matchingAngle_place (within : token :: rest <:+ input.tokens)
    (opening : token.isMark '<' = true) :
    matchingAngle input.tokens (input.place (token :: rest)) =
      .ok ((afterAngles? 0 rest).map fun after => input.place after - 1) := by
  have behind : rest <:+ input.tokens :=
    (List.suffix_cons token rest).trans within
  have atOpening : Reading.atMark '<' (token :: rest) = true := opening
  rw [matchingAngle, Input.drop_place within, if_pos atOpening, scanAngles,
    if_pos opening, Input.place_succ within]
  exact scanAngles_place 0 behind

theorem closingAngle_place (within : token :: rest <:+ input.tokens)
    (opening : token.isMark '<' = true) :
    closingAngle (input.place (token :: rest)) input index =
      .done ((afterAngles? 0 rest).map fun after => input.place after - 1)
        index := by
  rw [closingAngle, matchingAngle_place within opening]

/-- Behind the closing bracket stand the tokens that are left. -/
theorem place_behind_angle (within : token :: rest <:+ input.tokens)
    {after : List Token} (closed : afterAngles? 0 rest = some after) :
    input.place after - 1 + 1 = input.place after := by
  have shorter : after.length < (token :: rest).length :=
    Nat.lt_succ_of_lt (Reading.afterAngles?_length_lt closed)
  have moved := Input.place_lt within shorter
  omega

theorem trySkipAngles_place (within : token :: rest <:+ input.tokens)
    (opening : token.isMark '<' = true) :
    trySkipAngles input (input.place (token :: rest)) =
      .done (afterAngles? 0 rest).isSome
        (input.place (Reading.skipAngles (token :: rest))) := by
  simp only [trySkipAngles, bind_apply, position_apply, Outcome.andThen_done,
    closingAngle_place within opening]
  cases closed : afterAngles? 0 rest with
  | none =>
      rw [Reading.skipAngles_unclosed closed]
      rfl
  | some after =>
      rw [Reading.skipAngles_closed opening closed]
      simp [place_behind_angle within closed]

theorem skipAngles_agrees (within : token :: rest <:+ input.tokens)
    (opening : token.isMark '<' = true) :
    Agrees input (token :: rest)
      (skipAngles input (input.place (token :: rest)))
      (passing (match afterAngles? 0 rest with
        | none => refuseAt .unclosedTypeArguments (token :: rest)
        | some after => .ok after)) := by
  simp only [skipAngles, bind_apply, position_apply, Outcome.andThen_done,
    closingAngle_place within opening]
  cases closed : afterAngles? 0 rest with
  | none =>
      simp only [Option.map_none, refuse_place within]
      exact .refused _ _
  | some after =>
      simp only [Option.map_some, place_behind_angle within closed,
        moveTo_place]
      exact .done () ((Reading.afterAngles?_taken closed).suffix.trans
        (List.suffix_cons token rest))

def closesAngles (tokens : List Token) : Bool :=
  !(Reading.atMark '<' tokens && (afterAngles? 0 tokens.tail).isNone)

theorem skipTypeArguments_place (within : tokens <:+ input.tokens) :
    skipTypeArguments input (input.place tokens) =
      .done (closesAngles tokens)
        (input.place (Reading.skipAngles tokens)) := by
  simp only [skipTypeArguments, bind_apply, atMark_place '<' within,
    Outcome.andThen_done]
  cases opening : Reading.atMark '<' tokens with
  | false =>
      rw [Reading.skipAngles_none opening, closesAngles, opening]
      rfl
  | true =>
      obtain ⟨token, rest, rfl, isMark⟩ := Reading.exists_of_atMark opening
      simp only [if_true, trySkipAngles_place within isMark, closesAngles,
        opening, Bool.true_and, List.tail_cons, Option.not_isNone]

/-! ## Names -/

/-- What follows a part of a type is seen from its first token. -/
theorem any_followsTypePart (tokens : List Token) :
    (tokens.head?.any fun next =>
      next.isAnyWord || next.isMark '.' || next.isMark '?' ||
        next.isMark '[' || next.isMark '*') =
      Reading.followsTypePart tokens := by
  cases tokens <;> rfl

/-- A dotted name is looked at from the dot on. -/
theorem continuesType_place {first second : Token}
    (within : first :: second :: rest <:+ input.tokens) :
    continuesType input (input.place (first :: second :: rest)) =
      .done (Reading.continuesType rest)
        (input.place (first :: second :: rest)) := by
  have behindFirst : second :: rest <:+ input.tokens :=
    (List.suffix_cons first _).trans within
  have behind : rest <:+ input.tokens :=
    (List.suffix_cons second rest).trans behindFirst
  have behindName := Input.place_add_two within
  simp only [continuesType, bind_apply, position_apply, Outcome.andThen_done,
    behindName, tokenAt_place behind, any_head?_isMark]
  cases opening : Reading.atMark '<' rest with
  | false =>
      simp [tokenAt_place behind, any_followsTypePart,
        Reading.continuesType_of_noAngle opening]
  | true =>
      obtain ⟨token, arguments, rfl, isMark⟩ :=
        Reading.exists_of_atMark opening
      rw [Reading.continuesType_of_angle isMark]
      cases closed : afterAngles? 0 arguments with
      | none =>
          simp [closingAngle_place behind isMark, closed]
      | some after =>
          have inside : after <:+ input.tokens :=
            (Reading.afterAngles?_taken closed).suffix.trans
              ((List.suffix_cons token arguments).trans behind)
          simp [closingAngle_place behind isMark, closed,
            place_behind_angle behind closed, tokenAt_place inside,
            any_followsTypePart]

theorem qualifierLength_place (within : tokens <:+ input.tokens) :
    qualifierLength input (input.place tokens) =
      .done
        (if tokens.head?.any (·.isMark '.') &&
            tokens[1]?.any Token.isAnyWord then
          2
        else if tokens.head?.any (·.isMark ':') &&
            tokens[1]?.any (·.isMark ':') &&
            tokens[2]?.any Token.isAnyWord then
          3
        else
          0)
        (input.place tokens) := by
  simp only [qualifierLength, bind_apply, peek_place within,
    peekNth_place within, Outcome.andThen_done]
  split
  · rfl
  · split <;> rfl

theorem qualifierTurn_place (within : tokens <:+ input.tokens) :
    qualifierTurn input (input.place tokens) =
      match Reading.afterQualifier? tokens with
      | some rest => .done (.again ()) (input.place rest)
      | none => .done (.leave ()) (input.place tokens) := by
  simp only [qualifierTurn, bind_apply, qualifierLength_place within,
    Outcome.andThen_done]
  match tokens with
  | [] =>
      rfl
  | [only] =>
      simp [Reading.afterQualifier?]
  | first :: second :: rest =>
      have behindFirst : second :: rest <:+ input.tokens :=
        (List.suffix_cons first _).trans within
      have behindName := Input.place_add_two within
      simp only [List.head?_cons, Option.any_some, List.getElem?_cons_succ,
        List.getElem?_cons_zero]
      by_cases dot : (first.isMark '.' && second.isAnyWord) = true
      · rw [Reading.afterQualifier?_dot dot]
        cases continues : Reading.continuesType rest <;>
          simp [dot, continuesType_place within, behindName, continues]
      · rw [Bool.not_eq_true] at dot
        by_cases colons : (first.isMark ':' && second.isMark ':') = true
        · rw [Reading.afterQualifier?_colons dot colons]
          cases rest with
          | nil =>
              simp [dot, Reading.atAnyWord]
          | cons name behind =>
              have behindWord :
                  input.place (first :: second :: name :: behind) + 3 =
                    input.place behind := by
                rw [← Input.place_succ
                  ((List.suffix_cons second _).trans behindFirst),
                  ← behindName]
              cases isName : name.isAnyWord <;>
                simp [dot, colons, Reading.atAnyWord, isName, behindWord]
        · rw [Bool.not_eq_true] at colons
          rw [Reading.afterQualifier?_neither dot colons]
          simp [dot, colons]

theorem namePartTurn_answers (state : Unit) (tokens : List Token)
    (within : tokens <:+ input.tokens) :
    TurnAnswers input
      (fun _ tokens => passing (.ok (Reading.skipNameParts tokens))) state
      tokens (namePartTurn state input (input.place tokens)) := by
  have argumentsSuffix := (Reading.skipAngles_taken tokens).suffix
  have behind : Reading.skipAngles tokens <:+ input.tokens :=
    argumentsSuffix.trans within
  simp only [namePartTurn, bind_apply, skipTypeArguments_place within,
    Outcome.andThen_done]
  cases closes : closesAngles tokens with
  | false =>
      have unclosed : (Reading.atMark '<' tokens &&
          (afterAngles? 0 tokens.tail).isNone) = true := by
        simpa only [closesAngles, Bool.not_eq_false'] using closes
      have untouched : Reading.skipAngles tokens = tokens := by
        rw [Bool.and_eq_true, Option.isNone_iff_eq_none] at unclosed
        rw [Reading.skipAngles, unclosed.2]
        exact ite_self _
      rw [untouched]
      exact .leave (List.suffix_refl tokens)
        (by rw [Reading.skipNameParts_unclosed unclosed]; rfl)
  | true =>
      have closed : (Reading.atMark '<' tokens &&
          (afterAngles? 0 tokens.tail).isNone) = false := by
        simpa only [closesAngles, Bool.not_eq_true'] using closes
      simp only [if_true, qualifierTurn_place behind]
      cases qualified : Reading.afterQualifier?
          (Reading.skipAngles tokens) with
      | none =>
          exact .leave argumentsSuffix (by
            rw [Reading.skipNameParts_unqualified closed qualified]
            rfl)
      | some rest =>
          have shorter := Reading.afterQualifier?_length_lt qualified
          refine .again ?_ ?_ ?_
          · exact (Reading.afterQualifier?_taken qualified).suffix.trans
              argumentsSuffix
          · exact Nat.lt_of_lt_of_le shorter argumentsSuffix.length_le
          · rw [Reading.skipNameParts_qualified closed qualified]

theorem skipNameParts_place (within : tokens <:+ input.tokens) :
    loop namePartTurn () input (input.place tokens) =
        .done () (input.place (Reading.skipNameParts tokens)) ∧
      Reading.skipNameParts tokens <:+ tokens :=
  (loop_agrees namePartTurn_answers () within).eq_done

/-! ## Suffixes and whole types -/

theorem skipTypeSuffixes_opening
    (noMark : (token.isMark '?' || token.isMark '*') = false)
    (suffix : Reading.atArraySuffix (token :: rest) = true) :
    Reading.skipTypeSuffixes (token :: rest) =
      (skipGroup ']' rest).bind Reading.skipTypeSuffixes := by
  rw [Reading.skipTypeSuffixes, noMark, if_neg Bool.false_ne_true,
    if_pos suffix]
  split <;> rename_i answer <;> rw [answer] <;> rfl

/-- An array suffix is seen from its first two tokens. -/
theorem any_isArraySuffix (tokens : List Token) :
    (Reading.atMark '[' tokens && tokens[1]?.any fun token =>
      token.isMark ']' || token.isMark ',') =
        Reading.atArraySuffix tokens := by
  match tokens with
  | [] => rfl
  | [only] => simp [Reading.atArraySuffix]
  | first :: second :: rest => rfl

theorem suffixTurn_answers (state : Unit) (tokens : List Token)
    (within : tokens <:+ input.tokens) :
    TurnAnswers input
      (fun _ tokens => passing (Reading.skipTypeSuffixes tokens)) state
      tokens (suffixTurn state input (input.place tokens)) := by
  simp only [suffixTurn, bind_apply]
  cases nullable : Reading.atMark '?' tokens with
  | true =>
      obtain ⟨token, rest, rfl, isMark⟩ := Reading.exists_of_atMark nullable
      simp only [eatMark_present within isMark, Outcome.andThen_done, if_true]
      exact .again (List.suffix_cons token rest) (Nat.lt_succ_self _)
        (by rw [Reading.skipTypeSuffixes_mark (by simp [isMark])])
  | false =>
      simp only [eatMark_absent within nullable, Outcome.andThen_done,
        Bool.false_eq_true, if_false, bind_apply]
      cases pointer : Reading.atMark '*' tokens with
      | true =>
          obtain ⟨token, rest, rfl, isMark⟩ :=
            Reading.exists_of_atMark pointer
          simp only [eatMark_present within isMark, Outcome.andThen_done,
            if_true]
          exact .again (List.suffix_cons token rest) (Nat.lt_succ_self _)
            (by rw [Reading.skipTypeSuffixes_mark (by simp [isMark])])
      | false =>
          simp only [eatMark_absent within pointer, Outcome.andThen_done,
            Bool.false_eq_true, if_false, bind_apply, peekNth_place within,
            atMark_place '[' within, any_isArraySuffix]
          cases array : Reading.atArraySuffix tokens with
          | false =>
              refine leave_here (Reading.skipTypeSuffixes_none ?_ array)
              rw [Reading.atSuffixMark, nullable, pointer]
              rfl
          | true =>
              rw [← any_isArraySuffix, Bool.and_eq_true] at array
              obtain ⟨token, rest, rfl, isMark⟩ :=
                Reading.exists_of_atMark array.1
              have noMark : (token.isMark '?' || token.isMark '*') = false :=
                Bool.or_eq_false_iff.2 ⟨nullable, pointer⟩
              have suffix : Reading.atArraySuffix (token :: rest) = true := by
                rw [← any_isArraySuffix, array.1, array.2]
                rfl
              exact again_behind_group within (Reading.closer?_bracket isMark)
                (skipTypeSuffixes_opening noMark suffix)

theorem skipTypeSuffixes_agrees (within : tokens <:+ input.tokens) :
    Agrees input tokens (loop suffixTurn () input (input.place tokens))
      (passing (Reading.skipTypeSuffixes tokens)) :=
  loop_agrees suffixTurn_answers () within

/-- What is answered for a type that begins in front of some tokens: whether
there is one, and the tokens that are left. -/
def typeFound (start : List Token) : Option (List Token) → Bool × List Token
  | none => (false, start)
  | some rest => (true, rest)

/-- Behind a tuple or a name the suffixes end the type. -/
theorem suffixes_agree {start : List Token} (started : start <:+ input.tokens)
    (suffix : tokens <:+ start) :
    Agrees input start
      ((do loop suffixTurn (); return true : Action Bool) input
        (input.place tokens))
      (((Reading.skipTypeSuffixes tokens).map some).map
        (typeFound start)) := by
  simp only [bind_apply]
  refine ((skipTypeSuffixes_agrees (suffix.trans started)).mono
    suffix).andThenPassing ?_ ?_
  · intro refusal refused
    rw [refused]
    rfl
  · intro rest skipped shorter
    rw [skipped]
    exact .done true shorter

theorem skipBareType_agrees {start : List Token}
    (started : start <:+ input.tokens) (suffix : tokens <:+ start) :
    Agrees input start
      (skipBareType (input.place start) input (input.place tokens))
      ((Reading.skipBareType? tokens).map (typeFound start)) := by
  have within : tokens <:+ input.tokens := suffix.trans started
  have setBack : Agrees input start
      (.done false (input.place start)) (.ok (false, start)) :=
    .done false (List.suffix_refl start)
  simp only [skipBareType, bind_apply, peek_place within,
    Outcome.andThen_done]
  cases tokens with
  | nil =>
      simp only [List.head?_nil, bind_apply, moveTo_place,
        Outcome.andThen_done]
      exact setBack
  | cons token rest =>
      have behind : rest <:+ input.tokens :=
        (List.suffix_cons token rest).trans within
      rw [Reading.skipBareType?]
      simp only [List.head?_cons]
      cases tuple : token.isMark '(' with
      | true =>
          have opens := Reading.closer?_parenthesis tuple
          refine ((skipBalanced_agrees within opens).mono
            suffix).andThenPassing ?_ ?_
          · intro refusal refused
            rw [refused]
            rfl
          · intro after skipped shorter
            rw [skipped]
            exact suffixes_agree started shorter
      | false =>
          cases named : (Reading.plainWord? token).isSome with
          | true =>
              obtain ⟨outcomeEq, shorter⟩ := skipNameParts_place behind
              simp only [Bool.false_eq_true, if_false, if_true, bind_apply,
                discard_apply, bump_cons within, Outcome.andThen_done,
                outcomeEq]
              exact suffixes_agree started
                (shorter.trans ((List.suffix_cons token rest).trans suffix))
          | false =>
              simp only [Bool.false_eq_true, if_false, bind_apply,
                moveTo_place, Outcome.andThen_done]
              exact setBack

theorem skipType_agrees (within : tokens <:+ input.tokens) :
    Agrees input tokens (skipType input (input.place tokens))
      ((Reading.skipType? tokens).map (typeFound tokens)) := by
  simp only [skipType, bind_apply, position_apply, eatWord_place "ref" within,
    Outcome.andThen_done]
  rw [Reading.skipType?_eq]
  cases tokens with
  | nil =>
      exact skipBareType_agrees within (List.suffix_refl [])
  | cons token rest =>
      have suffix := List.suffix_cons token rest
      have behind : rest <:+ input.tokens := suffix.trans within
      cases isRef : token.isWord "ref" with
      | true =>
          have words : Reading.skipReferenceWords (token :: rest) =
              Reading.skipWord "readonly" rest := if_pos isRef
          simp only [Reading.atWord, Reading.skipWord, List.head?_cons,
            Option.any_some, isRef, if_true, bind_apply, discard_apply,
            eatWord_place "readonly" behind, Outcome.andThen_done, words]
          exact skipBareType_agrees within
            ((Reading.skipWord_passed "readonly" rest).suffix.trans suffix)
      | false =>
          have absent : Reading.atWord "ref" (token :: rest) = false := isRef
          rw [Reading.skipReferenceWords_absent absent]
          simp only [Reading.atWord, Reading.skipWord, List.head?_cons,
            Option.any_some, isRef, Bool.false_eq_true, if_false]
          exact skipBareType_agrees within (List.suffix_refl _)

/-- A type is refused, or none begins here and the cursor is where it was, or
the cursor is behind the type. -/
theorem skipType_cases (within : tokens <:+ input.tokens) :
    (∃ refusal, skipType input (input.place tokens) = .refused refusal ∧
      Reading.skipType? tokens = .error refusal) ∨
    (skipType input (input.place tokens) = .done false (input.place tokens) ∧
      Reading.skipType? tokens = .ok none) ∨
    ∃ rest, skipType input (input.place tokens) =
        .done true (input.place rest) ∧
      Reading.skipType? tokens = .ok (some rest) ∧ rest <:+ tokens := by
  have agrees := skipType_agrees within
  cases answered : Reading.skipType? tokens with
  | error refusal =>
      rw [answered] at agrees
      rcases agrees with ⟨_, outcomeEq, answerEq⟩ | ⟨_, _, _, answerEq, _⟩
      · cases answerEq
        exact .inl ⟨refusal, outcomeEq, rfl⟩
      · cases answerEq
  | ok found =>
      rw [answered] at agrees
      rcases agrees with ⟨_, _, answerEq⟩ | ⟨_, _, outcomeEq, answerEq, suffix⟩
      · cases answerEq
      · cases found with
        | none =>
            cases answerEq
            exact .inr (.inl ⟨outcomeEq, rfl⟩)
        | some rest =>
            cases answerEq
            exact .inr (.inr ⟨_, outcomeEq, rfl, suffix⟩)

end ClassDiagram.Cursor
