import ClassDiagram.Proofs.Cursor.Agreement
import ClassDiagram.Proofs.Reading.ExactGroups
import ClassDiagram.Proofs.Reading.PassedBraces

/-!
# Skipping with a cursor

Groups, attributes, statements, members and bodies are skipped turn by turn
as they are skipped on lists.  A turn that skips a group moves on because the
group has a mark that opens it.
-/

namespace ClassDiagram.Cursor

open Source (Token)
open Reading (Refusal Result closer? closing? refuseAt skipGroup skipGroups)

variable {input : Input} {token : Token} {tokens rest : List Token}
  {closer : Char}

/-! ## Groups -/

/-- What the rest of a group answers, and the whole of it where no group is
open. -/
def groupAnswer : List Char → List Token → Except Refusal (List Token)
  | [], [] => refuseAt (.missingMark ')') []
  | [], token :: rest =>
      match closer? token, closing? token with
      | some closer, _ => skipGroup closer rest
      | none, none => .ok rest
      | none, some _ => refuseAt .strayClosingMark (token :: rest)
  | wanted :: outer, tokens => skipGroups (wanted :: outer) tokens

theorem groupTurn_answers (waiting : List Char) (tokens : List Token)
    (within : tokens <:+ input.tokens) :
    TurnAnswers input (fun waiting tokens => passing
      (groupAnswer waiting tokens)) waiting tokens
      (groupTurn waiting input (input.place tokens)) := by
  cases tokens with
  | nil =>
      simp only [groupTurn, bind_apply, position_apply, bump_nil,
        Outcome.andThen_done, refuse_place within]
      cases waiting with
      | nil => exact .refused rfl
      | cons wanted outer =>
          refine .refused ?_
          rw [groupAnswer, skipGroups]
          rfl
  | cons token rest =>
      have suffix := List.suffix_cons token rest
      have shorter := Nat.lt_succ_self rest.length
      simp only [groupTurn, bind_apply, position_apply, bump_cons within,
        Outcome.andThen_done]
      cases opens : closer? token with
      | some closer =>
          refine .again suffix shorter ?_
          cases waiting with
          | nil => simp only [groupAnswer, opens, skipGroup]
          | cons wanted outer =>
              simp only [groupAnswer, Reading.skipGroups_opening opens]
      | none =>
          cases closes : closing? token with
          | none =>
              cases waiting with
              | nil =>
                  refine .leave suffix ?_
                  simp only [groupAnswer, opens, closes]
                  rfl
              | cons wanted outer =>
                  refine .again suffix shorter ?_
                  simp only [groupAnswer,
                    Reading.skipGroups_neutral opens closes]
          | some found =>
              cases waiting with
              | nil =>
                  simp only [refuseIndex_place within]
                  refine .refused ?_
                  simp only [groupAnswer, opens, closes]
                  rfl
              | cons wanted outer =>
                  dsimp only
                  by_cases isWanted : found = wanted
                  · subst isWanted
                    simp only [ne_eq, not_true_eq_false, if_false]
                    cases outer with
                    | nil =>
                        refine .leave suffix ?_
                        simp only [groupAnswer,
                          Reading.skipGroups_closing closes,
                          Reading.skipGroups_nil]
                        rfl
                    | cons next others =>
                        refine .again suffix shorter ?_
                        simp only [groupAnswer,
                          Reading.skipGroups_closing closes]
                  · simp only [ne_eq, isWanted, not_false_eq_true, if_true,
                      refuseIndex_place within]
                    refine .refused ?_
                    rw [groupAnswer,
                      Reading.skipGroups_wrong closes isWanted]
                    rfl

/-- A group is skipped from the mark that opens it. -/
theorem skipBalanced_agrees (within : token :: rest <:+ input.tokens)
    (opens : closer? token = some closer) :
    Agrees input (token :: rest)
      (skipBalanced input (input.place (token :: rest)))
      (passing (skipGroup closer rest)) := by
  have agrees := loop_agrees groupTurn_answers [] within
  simp only [groupAnswer, opens] at agrees
  exact agrees

/-! ## Turns that skip a token or a group -/

section Turns

variable {answer : List Token → Except Refusal (List Token)}

/-- A token is stepped over and the loop goes on. -/
theorem again_behind_token (within : token :: rest <:+ input.tokens)
    (same : answer (token :: rest) = answer rest) :
    TurnAnswers input (fun (_ : Unit) tokens => passing (answer tokens)) ()
      (token :: rest)
      ((do discard bump; return .again () : Action (Turn Unit Unit)) input
        (input.place (token :: rest))) := by
  simp only [bind_apply, discard_apply, bump_cons within,
    Outcome.andThen_done]
  exact .again (List.suffix_cons token rest) (Nat.lt_succ_self _)
    (congrArg passing same)

/-- A token is stepped over and the loop is left. -/
theorem leave_behind_token (within : token :: rest <:+ input.tokens)
    (ended : answer (token :: rest) = .ok rest) :
    TurnAnswers input (fun (_ : Unit) tokens => passing (answer tokens)) ()
      (token :: rest)
      ((do discard bump; return .leave () : Action (Turn Unit Unit)) input
        (input.place (token :: rest))) := by
  simp only [bind_apply, discard_apply, bump_cons within,
    Outcome.andThen_done]
  exact .leave (List.suffix_cons token rest) (by rw [ended]; rfl)

/-- A group is skipped and the loop goes on behind it. -/
theorem again_behind_group (within : token :: rest <:+ input.tokens)
    (opens : closer? token = some closer)
    (same : answer (token :: rest) =
      (skipGroup closer rest).bind answer) :
    TurnAnswers input (fun (_ : Unit) tokens => passing (answer tokens)) ()
      (token :: rest)
      ((do skipBalanced; return .again () : Action (Turn Unit Unit)) input
        (input.place (token :: rest))) := by
  refine .afterPassing (skipBalanced_agrees within opens) ?_ ?_
  · intro refusal refused
    simp only [same, refused]
    rfl
  · intro after skipped suffix
    refine .again suffix ?_ ?_
    · exact Nat.lt_succ_of_le (Reading.skipGroup_length_le skipped)
    · simp only [same, skipped]
      rfl

/-- The loop is left in front of these tokens. -/
theorem leave_here (ended : answer tokens = .ok tokens) :
    TurnAnswers input (fun (_ : Unit) tokens => passing (answer tokens)) ()
      tokens (.done (.leave ()) (input.place tokens)) :=
  .leave (List.suffix_refl tokens) (by rw [ended]; rfl)

theorem refused_here {fault : SyntaxFault}
    (within : tokens <:+ input.tokens)
    (refused : answer tokens = refuseAt fault tokens) :
    TurnAnswers input (fun (_ : Unit) tokens => passing (answer tokens)) ()
      tokens (refuse fault input (input.place tokens)) := by
  rw [refuse_place within]
  exact .refused (by rw [refused]; rfl)

end Turns

/-! ## Up to a mark -/

theorem skipUntil_opening {stops : List Char}
    (notStop : stops.any token.isMark = false)
    (opens : closer? token = some closer) :
    Reading.skipUntil stops (token :: rest) =
      (skipGroup closer rest).bind (Reading.skipUntil stops) := by
  rw [Reading.skipUntil, notStop, if_neg Bool.false_ne_true]
  simp only [opens]
  split <;> rename_i answer <;> rw [answer] <;> rfl

theorem untilTurn_answers (stops : List Char) (state : Unit)
    (tokens : List Token) (within : tokens <:+ input.tokens) :
    TurnAnswers input
      (fun _ tokens => passing (Reading.skipUntil stops tokens)) state tokens
      (untilTurn stops state input (input.place tokens)) := by
  simp only [untilTurn, bind_apply, peek_place within, Outcome.andThen_done]
  cases tokens with
  | nil =>
      exact refused_here within (by rw [Reading.skipUntil])
  | cons token rest =>
      dsimp only [List.head?_cons]
      cases stopped : stops.any token.isMark with
      | true =>
          exact leave_here (Reading.skipUntil_stop stopped)
      | false =>
          cases opens : closer? token with
          | some closer =>
              exact again_behind_group within opens
                (skipUntil_opening stopped opens)
          | none =>
              cases closes : closing? token with
              | some found =>
                  refine refused_here within ?_
                  rw [Reading.skipUntil]
                  simp [stopped, opens, closes]
              | none =>
                  exact again_behind_token within
                    (Reading.skipUntil_neutral stopped opens closes)

theorem skipUntil_agrees (stops : List Char)
    (within : tokens <:+ input.tokens) :
    Agrees input tokens (skipUntil stops input (input.place tokens))
      (passing (Reading.skipUntil stops tokens)) :=
  loop_agrees (untilTurn_answers stops) () within

/-- Stepping over the next token, if there is one. -/
theorem bump_place (within : tokens <:+ input.tokens) :
    bump input (input.place tokens) =
      .done tokens.head? (input.place tokens.tail) := by
  cases tokens with
  | nil => exact bump_nil
  | cons token rest => exact bump_cons within

theorem skipStatement_agrees (within : tokens <:+ input.tokens) :
    Agrees input tokens (skipStatement input (input.place tokens))
      (passing (Reading.skipStatement tokens)) := by
  rw [Reading.skipStatement]
  refine (skipUntil_agrees [';'] within).andThenPassing ?_ ?_
  · intro refusal refused
    rw [refused]
    rfl
  · intro stopped reached suffix
    simp only [reached, discard_apply, bump_place (suffix.trans within),
      Outcome.andThen_done]
    exact .done () ((List.tail_suffix stopped).trans suffix)

/-! ## Attributes and members -/

theorem skipAttributes_opening (opening : token.isMark '[' = true) :
    Reading.skipAttributes (token :: rest) =
      (skipGroup ']' rest).bind Reading.skipAttributes := by
  rw [Reading.skipAttributes, if_pos opening]
  split <;> rename_i answer <;> rw [answer] <;> rfl

theorem attributeTurn_answers (state : Unit) (tokens : List Token)
    (within : tokens <:+ input.tokens) :
    TurnAnswers input
      (fun _ tokens => passing (Reading.skipAttributes tokens)) state tokens
      (attributeTurn state input (input.place tokens)) := by
  simp only [attributeTurn, bind_apply, atMark_place '[' within,
    Outcome.andThen_done]
  cases bracketed : Reading.atMark '[' tokens with
  | false =>
      exact leave_here (Reading.skipAttributes_none bracketed)
  | true =>
      obtain ⟨token, rest, rfl, opening⟩ :=
        Reading.exists_of_atMark bracketed
      exact again_behind_group within (Reading.closer?_bracket opening)
        (skipAttributes_opening opening)

theorem skipAttributes_agrees (within : tokens <:+ input.tokens) :
    Agrees input tokens (skipAttributes input (input.place tokens))
      (passing (Reading.skipAttributes tokens)) :=
  loop_agrees attributeTurn_answers () within

theorem skipMember_opening (rest : List Token)
    (notClosing : token.isMark '\x7d' = false)
    (noSeparator : token.isMark ';' = false)
    (opens : closer? token = some closer) :
    Reading.skipMember (token :: rest) =
      (skipGroup closer rest).bind fun after =>
        if closer = '\x7d' ∧ Reading.atMark '=' after = false then
          .ok after
        else
          Reading.skipMember after := by
  rw [Reading.skipMember, notClosing, noSeparator,
    if_neg Bool.false_ne_true, if_neg Bool.false_ne_true]
  simp only [opens]
  split <;> rename_i answer <;> rw [answer] <;> rfl

theorem memberTurn_answers (state : Unit) (tokens : List Token)
    (within : tokens <:+ input.tokens) :
    TurnAnswers input
      (fun _ tokens => passing (Reading.skipMember tokens)) state tokens
      (memberTurn state input (input.place tokens)) := by
  simp only [memberTurn, bind_apply, peek_place within, Outcome.andThen_done]
  cases tokens with
  | nil =>
      exact leave_here (by rw [Reading.skipMember])
  | cons token rest =>
      dsimp only [List.head?_cons]
      cases notClosing : token.isMark '\x7d' with
      | true =>
          exact leave_here (Reading.skipMember_ended notClosing)
      | false =>
          cases noSeparator : token.isMark ';' with
          | true =>
              exact leave_behind_token within
                (Reading.skipMember_separator noSeparator)
          | false =>
              cases isBrace : token.isMark '\x7b' with
              | true =>
                  have opens := Reading.closer?_brace isBrace
                  have opened := skipMember_opening rest notClosing
                    noSeparator opens
                  refine .afterPassing (skipBalanced_agrees within opens)
                    (fun refusal refused => by rw [opened, refused]; rfl) ?_
                  intro after skipped suffix
                  have shorter := Reading.skipGroup_length_le skipped
                  have behind := suffix.trans within
                  simp only [bind_apply, atMark_place '=' behind,
                    Outcome.andThen_done]
                  rw [skipped] at opened
                  cases given : Reading.atMark '=' after with
                  | true =>
                      refine .again suffix (Nat.lt_succ_of_le shorter) ?_
                      rw [opened]
                      simp [Except.bind, given]
                  | false =>
                      refine .leave suffix ?_
                      rw [opened]
                      simp [Except.bind, given, passing, Except.map]
              | false =>
                  cases opens : closer? token with
                  | some closer =>
                      have noBrace : closer ≠ '\x7d' := by
                        rintro rfl
                        rw [Reading.isMark_of_closer?_brace opens] at isBrace
                        cases isBrace
                      refine again_behind_group within opens ?_
                      rw [skipMember_opening rest notClosing noSeparator opens]
                      simp [noBrace]
                  | none =>
                      exact again_behind_token within
                        (Reading.skipMember_neutral notClosing noSeparator
                          opens)

theorem skipMember_agrees (within : tokens <:+ input.tokens) :
    Agrees input tokens (skipMember input (input.place tokens))
      (passing (Reading.skipMember tokens)) :=
  loop_agrees memberTurn_answers () within

/-! ## Bodies of methods -/

theorem skipMethodBody_opening {name : String}
    (before : Reading.standsBeforeBody token = true)
    (opens : closer? token = some closer) :
    Reading.skipMethodBody name (token :: rest) =
      (skipGroup closer rest).bind (Reading.skipMethodBody name) := by
  cases skipped : skipGroup closer rest with
  | ok after =>
      exact Reading.skipMethodBody_group before opens skipped
  | error refusal =>
      simp only [Reading.standsBeforeBody, Bool.not_eq_true',
        Bool.or_eq_false_iff, beq_eq_false_iff_ne, ne_eq] at before
      obtain ⟨⟨⟨noBlock, noArrow⟩, noSeparator⟩, inside⟩ := before
      rw [Reading.skipMethodBody]
      simp only [noBlock, noArrow, noSeparator, inside, Bool.false_eq_true,
        if_false, opens]
      split <;> rename_i answer <;> rw [skipped] at answer <;> cases answer
      rfl

theorem methodBodyTurn_answers (name : String) (state : Unit)
    (tokens : List Token) (within : tokens <:+ input.tokens) :
    TurnAnswers input
      (fun _ tokens => passing (Reading.skipMethodBody name tokens)) state
      tokens (methodBodyTurn name state input (input.place tokens)) := by
  simp only [methodBodyTurn, bind_apply, peek_place within,
    Outcome.andThen_done]
  cases tokens with
  | nil =>
      exact refused_here within (by rw [Reading.skipMethodBody])
  | cons token rest =>
      have behind : rest <:+ input.tokens :=
        (List.suffix_cons token rest).trans within
      dsimp only [List.head?_cons]
      cases noBlock : token.isMark '\x7b' with
      | true =>
          have block : Reading.skipMethodBody name (token :: rest) =
              skipGroup '\x7d' rest := Reading.skipMethodBody_block noBlock
          refine .afterPassing
            (skipBalanced_agrees within (Reading.closer?_brace noBlock))
            (fun refusal refused => by rw [block, refused]; rfl) ?_
          exact fun after skipped suffix => .leave suffix
            (by rw [block, skipped]; rfl)
      | false =>
          by_cases arrow : token.lexeme = .arrow
          · have body : Reading.skipMethodBody name (token :: rest) =
                Reading.skipStatement rest :=
              Reading.skipMethodBody_arrow arrow
            simp only [Bool.false_eq_true, if_false, arrow, if_true,
              bind_apply, discard_apply, bump_cons within,
              Outcome.andThen_done]
            refine .afterPassing
              ((skipStatement_agrees behind).mono (List.suffix_cons _ _))
              (fun refusal refused => by rw [body, refused]; rfl) ?_
            exact fun after skipped suffix => .leave suffix
              (by rw [body, skipped]; rfl)
          · cases noSeparator : token.isMark ';' with
            | true =>
                simp only [Bool.false_eq_true, if_false, arrow, if_true]
                exact leave_behind_token within
                  (Reading.skipMethodBody_semicolon noSeparator)
            | false =>
                simp only [Bool.false_eq_true, if_false, arrow]
                cases inside : token.isMark '\x7d' with
                | true =>
                    refine refused_here within ?_
                    rw [Reading.skipMethodBody]
                    simp [noBlock, arrow, noSeparator, inside]
                | false =>
                    have before : Reading.standsBeforeBody token = true := by
                      simp [Reading.standsBeforeBody, noBlock, arrow,
                        noSeparator, inside]
                    cases opens : closer? token with
                    | some closer =>
                        exact again_behind_group within opens
                          (skipMethodBody_opening before opens)
                    | none =>
                        exact again_behind_token within
                          (Reading.skipMethodBody_neutral before opens)

theorem skipMethodBody_agrees (name : String)
    (within : tokens <:+ input.tokens) :
    Agrees input tokens (skipMethodBody name input (input.place tokens))
      (passing (Reading.skipMethodBody name tokens)) :=
  loop_agrees (methodBodyTurn_answers name) () within

end ClassDiagram.Cursor
