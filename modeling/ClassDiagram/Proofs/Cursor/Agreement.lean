import ClassDiagram.Proofs.Cursor.Reader

/-!
# Agreement with lists of tokens

An action agrees with a routine on lists if it refuses where the routine does,
and otherwise answers the same with the cursor in front of the tokens that are
left.  Nothing that agrees is a mishap.

A loop agrees with a routine if each of its turns does its part of it: it
answers what the routine does, or it moves the cursor on and leaves the rest of
the answer to be found there.
-/

namespace ClassDiagram.Cursor

open Source (Token)
open Reading (Refusal Result)

/-! ## Answers -/

/-- What is done in front of these tokens is what is answered for them. -/
def Agrees {α : Type} (input : Input) (tokens : List Token)
    (outcome : Outcome α) (answer : Result α) : Prop :=
  (∃ refusal, outcome = .refused refusal ∧ answer = .error refusal) ∨
    ∃ value rest, outcome = .done value (input.place rest) ∧
      answer = .ok (value, rest) ∧ rest <:+ tokens

/-- The answer of a routine that answers only the tokens that are left. -/
def passing (answer : Except Refusal (List Token)) : Result Unit :=
  answer.map fun rest => ((), rest)

namespace Agrees

variable {α β : Type} {input : Input} {tokens rest : List Token}
  {outcome : Outcome α} {answer : Result α}

theorem refused (tokens : List Token) (refusal : Refusal) :
    Agrees input tokens (.refused refusal : Outcome α) (.error refusal) :=
  .inl ⟨refusal, rfl, rfl⟩

theorem done (value : α) (suffix : rest <:+ tokens) :
    Agrees input tokens (.done value (input.place rest))
      (.ok (value, rest)) :=
  .inr ⟨value, rest, rfl, rfl, suffix⟩

theorem mono (agrees : Agrees input rest outcome answer)
    (suffix : rest <:+ tokens) : Agrees input tokens outcome answer := by
  rcases agrees with refused | ⟨value, left, outcomeEq, answerEq, shorter⟩
  · exact .inl refused
  · exact .inr ⟨value, left, outcomeEq, answerEq, shorter.trans suffix⟩

/-- What follows agrees if it does so wherever the first part was done. -/
theorem andThen {next : α → Nat → Outcome β} {final : Result β}
    (first : Agrees input tokens outcome answer)
    (refuses : ∀ refusal, answer = .error refusal → final = .error refusal)
    (further : ∀ value rest, answer = .ok (value, rest) → rest <:+ tokens →
      Agrees input tokens (next value (input.place rest)) final) :
    Agrees input tokens (outcome.andThen next) final := by
  rcases first with ⟨refusal, rfl, answerEq⟩ |
    ⟨value, rest, rfl, answerEq, suffix⟩
  · exact .inl ⟨refusal, rfl, refuses refusal answerEq⟩
  · exact further value rest answerEq suffix

theorem passing_cases {outcome : Outcome Unit}
    {left : Except Refusal (List Token)}
    (agrees : Agrees input tokens outcome (passing left)) :
    (∃ refusal, outcome = .refused refusal ∧ left = .error refusal) ∨
      ∃ rest, outcome = .done () (input.place rest) ∧ left = .ok rest ∧
        rest <:+ tokens := by
  cases left with
  | error refusal =>
      rcases agrees with ⟨_, outcomeEq, answerEq⟩ | ⟨_, _, _, answerEq, _⟩
      · cases answerEq
        exact .inl ⟨refusal, outcomeEq, rfl⟩
      · cases answerEq
  | ok rest =>
      rcases agrees with ⟨_, _, answerEq⟩ | ⟨_, _, outcomeEq, answerEq, suffix⟩
      · cases answerEq
      · cases answerEq
        exact .inr ⟨rest, outcomeEq, rfl, suffix⟩

/-- The same for a first part that answers only the tokens that are left. -/
theorem andThenPassing {next : Unit → Nat → Outcome β} {final : Result β}
    {outcome : Outcome Unit} {left : Except Refusal (List Token)}
    (first : Agrees input tokens outcome (passing left))
    (refuses : ∀ refusal, left = .error refusal → final = .error refusal)
    (further : ∀ rest, left = .ok rest → rest <:+ tokens →
      Agrees input tokens (next () (input.place rest)) final) :
    Agrees input tokens (outcome.andThen next) final := by
  rcases first.passing_cases with ⟨refusal, rfl, leftEq⟩ |
    ⟨rest, rfl, leftEq, suffix⟩
  · exact .inl ⟨refusal, rfl, refuses refusal leftEq⟩
  · exact further rest leftEq suffix

theorem map (agrees : Agrees input tokens outcome answer)
    (convert : α → β) :
    Agrees input tokens
      (outcome.andThen fun value behind => .done (convert value) behind)
      (answer.map fun (value, rest) => (convert value, rest)) := by
  rcases agrees with ⟨refusal, rfl, rfl⟩ | ⟨value, rest, rfl, rfl, suffix⟩
  · exact .refused tokens refusal
  · exact .done (convert value) suffix

/-- What agrees with a routine that refuses nothing is done. -/
theorem eq_done {value : α}
    (agrees : Agrees input tokens outcome (.ok (value, rest))) :
    outcome = .done value (input.place rest) ∧ rest <:+ tokens := by
  rcases agrees with ⟨_, _, answerEq⟩ | ⟨_, _, outcomeEq, answerEq, suffix⟩
  · cases answerEq
  · cases answerEq
    exact ⟨outcomeEq, suffix⟩

end Agrees

/-! ## Turns -/

section Loops

variable {σ α : Type} {input : Input}

/-- A turn of a loop does its part of something that is to hold of what the
loop comes to, given its state and the tokens in front of the cursor. -/
inductive TurnHolds (input : Input)
    (holds : σ → List Token → Outcome α → Prop) (state : σ)
    (tokens : List Token) : Outcome (Turn σ α) → Prop
  | refused {refusal : Refusal}
      (here : holds state tokens (.refused refusal)) :
      TurnHolds input holds state tokens (.refused refusal)
  | leave {value : α} {rest : List Token} (suffix : rest <:+ tokens)
      (here : holds state tokens (.done value (input.place rest))) :
      TurnHolds input holds state tokens
        (.done (.leave value) (input.place rest))
  | again {next : σ} {rest : List Token} (suffix : rest <:+ tokens)
      (shorter : rest.length < tokens.length)
      (carried : ∀ outcome, holds next rest outcome →
        holds state tokens outcome) :
      TurnHolds input holds state tokens
        (.done (.again next) (input.place rest))

/-- Fewer tokens are further on. -/
theorem Input.place_lt {tokens rest : List Token}
    (within : tokens <:+ input.tokens)
    (shorter : rest.length < tokens.length) :
    input.place tokens < input.place rest := by
  have bound := within.length_le
  simp only [Input.place]
  omega

/-- Induction on the tokens in front of the cursor: what holds of every turn
holds of the loop. -/
theorem loop_holds {turn : σ → Action (Turn σ α)}
    {holds : σ → List Token → Outcome α → Prop} {start : List Token}
    (within : start <:+ input.tokens)
    (turns : ∀ state tokens, tokens <:+ start →
      TurnHolds input holds state tokens
        (turn state input (input.place tokens)))
    (state : σ) (tokens : List Token) (suffix : tokens <:+ start) :
    holds state tokens (loop turn state input (input.place tokens)) := by
  have turned := turns state tokens suffix
  rw [loop]
  cases outcome : turn state input (input.place tokens) with
  | mishap cause =>
      rw [outcome] at turned
      cases turned
  | refused refusal =>
      rw [outcome] at turned
      cases turned with
      | refused here => exact here
  | done value behind =>
      rw [outcome] at turned
      cases turned with
      | leave _ here =>
          exact here
      | @again next rest shortened shorter carried =>
          have moved := Input.place_lt (suffix.trans within) shorter
          dsimp only
          rw [if_pos ⟨moved, Input.place_le rest⟩]
          exact carried _
            (loop_holds within turns next rest (shortened.trans suffix))
termination_by tokens.length

/-- A turn of a loop does its part of the answer of a routine. -/
abbrev TurnAnswers (input : Input) (answer : σ → List Token → Result α) :
    σ → List Token → Outcome (Turn σ α) → Prop :=
  TurnHolds input fun state tokens outcome =>
    Agrees input tokens outcome (answer state tokens)

namespace TurnAnswers

variable {β : Type} {answer : σ → List Token → Result α} {state next : σ}
  {tokens rest : List Token}

theorem refused {refusal : Refusal}
    (here : answer state tokens = .error refusal) :
    TurnAnswers input answer state tokens (.refused refusal) :=
  TurnHolds.refused (.inl ⟨refusal, rfl, here⟩)

theorem leave {value : α} (suffix : rest <:+ tokens)
    (here : answer state tokens = .ok (value, rest)) :
    TurnAnswers input answer state tokens
      (.done (.leave value) (input.place rest)) :=
  TurnHolds.leave suffix (.inr ⟨value, rest, rfl, here, suffix⟩)

theorem again (suffix : rest <:+ tokens)
    (shorter : rest.length < tokens.length)
    (same : answer state tokens = answer next rest) :
    TurnAnswers input answer state tokens
      (.done (.again next) (input.place rest)) := by
  refine TurnHolds.again suffix shorter fun outcome agrees => ?_
  rw [same]
  exact agrees.mono suffix

/-- What follows a part of a turn does the turn's part wherever that part was
done. -/
theorem after {outcome : Outcome β} {first : Result β}
    {further : β → Nat → Outcome (Turn σ α)}
    (agrees : Agrees input tokens outcome first)
    (refuses : ∀ refusal, first = .error refusal →
      answer state tokens = .error refusal)
    (goesOn : ∀ value rest, first = .ok (value, rest) → rest <:+ tokens →
      TurnAnswers input answer state tokens
        (further value (input.place rest))) :
    TurnAnswers input answer state tokens (outcome.andThen further) := by
  rcases agrees with ⟨refusal, rfl, firstEq⟩ |
    ⟨value, rest, rfl, firstEq, suffix⟩
  · exact .refused (refuses refusal firstEq)
  · exact goesOn value rest firstEq suffix

/-- The same for a part that answers only the tokens that are left. -/
theorem afterPassing {outcome : Outcome Unit}
    {left : Except Refusal (List Token)}
    {further : Unit → Nat → Outcome (Turn σ α)}
    (agrees : Agrees input tokens outcome (passing left))
    (refuses : ∀ refusal, left = .error refusal →
      answer state tokens = .error refusal)
    (goesOn : ∀ rest, left = .ok rest → rest <:+ tokens →
      TurnAnswers input answer state tokens
        (further () (input.place rest))) :
    TurnAnswers input answer state tokens (outcome.andThen further) := by
  rcases agrees.passing_cases with ⟨refusal, rfl, leftEq⟩ |
    ⟨rest, rfl, leftEq, suffix⟩
  · exact .refused (refuses refusal leftEq)
  · exact goesOn rest leftEq suffix

end TurnAnswers

theorem loop_agrees {turn : σ → Action (Turn σ α)}
    {answer : σ → List Token → Result α}
    (turns : ∀ state tokens, tokens <:+ input.tokens →
      TurnAnswers input answer state tokens
        (turn state input (input.place tokens)))
    (state : σ) {tokens : List Token} (within : tokens <:+ input.tokens) :
    Agrees input tokens (loop turn state input (input.place tokens))
      (answer state tokens) :=
  loop_holds (List.suffix_refl _) turns state tokens within

end Loops

/-! ## Marks and words -/

section Expected

variable {input : Input} {tokens : List Token}

theorem expectMark_agrees (c : Char) (within : tokens <:+ input.tokens) :
    Agrees input tokens (expectMark c input (input.place tokens))
      (passing (Reading.expectMark c tokens)) := by
  simp only [expectMark, bind_apply, eatMark_place c within,
    Outcome.andThen_done]
  cases tokens with
  | nil =>
      exact .inl ⟨_, refuse_place within, rfl⟩
  | cons token rest =>
      cases isMark : token.isMark c with
      | true =>
          simp only [Reading.atMark, Reading.skipMark, Reading.expectMark,
            isMark, if_true]
          exact .done () (List.suffix_cons token rest)
      | false =>
          simp only [Reading.atMark, Reading.skipMark, Reading.expectMark,
            isMark, Bool.false_eq_true, if_false, refuse_place within]
          exact .refused _ _

theorem expectWord_agrees (fault : SyntaxFault)
    (within : tokens <:+ input.tokens) :
    Agrees input tokens (expectWord fault input (input.place tokens))
      (Reading.expectWord fault tokens) := by
  simp only [expectWord, bind_apply, peek_place within, Outcome.andThen_done]
  cases tokens with
  | nil =>
      simp only [List.head?_nil, Option.bind_none, refuse_place within]
      exact .refused _ _
  | cons token rest =>
      rw [Reading.expectWord]
      cases named : Reading.word? token with
      | none =>
          simp only [List.head?_cons, Option.bind_some, named,
            refuse_place within]
          exact .refused _ _
      | some text =>
          simp only [List.head?_cons, Option.bind_some, named, bind_apply,
            discard_apply, bump_cons within, Outcome.andThen_done]
          exact .done text (List.suffix_cons token rest)

end Expected

end ClassDiagram.Cursor
