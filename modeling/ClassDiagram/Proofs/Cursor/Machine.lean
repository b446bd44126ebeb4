import ClassDiagram.Proofs.Reading.Lookahead
import ClassDiagram.Proofs.Source.Tiling

/-!
# Reading with a cursor

The reader answers the tokens that are left, so nothing in it can run behind
the last token or stand still.  Here tokens are read as on a tape: by a cursor
that is moved, with slices of the text that are cut at byte offsets, counters
that go down and loops that may not end.  Whatever may go wrong with these is a
mishap of its own, apart from refusals, and every operation that may meet one
checks for it.

A cursor in front of some tokens is at their place, the number of tokens that
were passed.  So what the operations do can be said of lists of tokens again.
-/

namespace ClassDiagram.Cursor

open Source (Token)
open Reading (Refusal Result)

structure Input where
  text : List Char
  tokens : List Token

/-- What goes wrong with a cursor and not with a source. -/
inductive Mishap where
  /-- Angle brackets are matched where none is opened. -/
  | noAngle
  /-- A depth of zero is lowered. -/
  | negativeDepth
  /-- A position lies behind the last token. -/
  | outOfRange
  /-- Two offsets are not in order or not between characters of the text. -/
  | notSliceable
  /-- A word that was seen ahead is missing. -/
  | unforeseen
  /-- A turn of a loop moves nothing. -/
  | stalled
  /-- Bodies are nested deeper than was provided for. -/
  | tooDeep
  deriving DecidableEq, Repr

/-- What is answered: a mishap, a refusal of the source, or a value and the
position of the cursor behind what was read. -/
inductive Outcome (α : Type) where
  | mishap (cause : Mishap)
  | refused (refusal : Refusal)
  | done (value : α) (position : Nat)
  deriving DecidableEq, Repr

def Outcome.andThen {α β : Type} (outcome : Outcome α)
    (next : α → Nat → Outcome β) : Outcome β :=
  match outcome with
  | .mishap cause => .mishap cause
  | .refused refusal => .refused refusal
  | .done value position => next value position

/-- Something that is done with a cursor. -/
abbrev Action (α : Type) :=
  Input → Nat → Outcome α

instance : Monad Action where
  pure value := fun _ position => .done value position
  bind action next := fun input position =>
    (action input position).andThen fun value behind =>
      next value input behind

/-! ## Looking and moving -/

def fail {α : Type} (cause : Mishap) : Action α :=
  fun _ _ => .mishap cause

def position : Action Nat :=
  fun _ position => .done position position

/-- The token at a position, if there is one. -/
def tokenAt (index : Nat) : Action (Option Token) :=
  fun input position => .done input.tokens[index]? position

/-- The token that stands so many tokens behind the next one. -/
def peekNth (distance : Nat) : Action (Option Token) :=
  fun input position => .done input.tokens[position + distance]? position

def peek : Action (Option Token) :=
  peekNth 0

def moveTo (index : Nat) : Action Unit :=
  fun input _ =>
    if index ≤ input.tokens.length then
      .done () index
    else
      .mishap .outOfRange

def bump : Action (Option Token) := do
  match ← peek with
  | none => return none
  | some token =>
      moveTo ((← position) + 1)
      return some token

/-- Refuse the token at a position, or the end of the source. -/
def refuseIndex {α : Type} (index : Nat) (fault : SyntaxFault) : Action α :=
  fun input _ =>
    if index ≤ input.tokens.length then
      .refused ⟨fault, input.tokens.length - index⟩
    else
      .mishap .outOfRange

def refuse {α : Type} (fault : SyntaxFault) : Action α := do
  refuseIndex (← position) fault

def atMark (c : Char) : Action Bool := do
  return (← peek).any (·.isMark c)

/-- Step over this mark if it is next, and answer whether it was. -/
def eatMark (c : Char) : Action Bool := do
  if ← atMark c then
    discard bump
    return true
  else
    return false

/-- Step over this word if it is next, and answer whether it was. -/
def eatWord (text : String) : Action Bool := do
  if (← peek).any (·.isWord text) then
    discard bump
    return true
  else
    return false

def expectMark (c : Char) : Action Unit := do
  if ← eatMark c then
    return ()
  else
    refuse (.missingMark c)

def expectWord (fault : SyntaxFault) : Action String := do
  match (← peek).bind Reading.word? with
  | none => refuse fault
  | some text =>
      discard bump
      return text

def seenWord : Action String := do
  match (← bump).bind Reading.word? with
  | none => fail .unforeseen
  | some text => return text

/-- The text from the beginning of one token to the end of another one, the
second being in front of the position `stop`. -/
def textBetween (start stop : Nat) : Action String :=
  fun input position =>
    if input.tokens.length < stop then
      .mishap .outOfRange
    else if stop ≤ start then
      .done "" position
    else
      let spans := Token.spans 0 input.tokens
      match spans[start]?, spans[stop - 1]? with
      | some first, some last =>
          match Text.slice? input.text first.1 last.2 with
          | some part => .done (String.ofList part) position
          | none => .mishap .notSliceable
      | _, _ => .mishap .outOfRange

/-! ## Loops -/

/-- What a turn of a loop comes to. -/
inductive Turn (σ α : Type) where
  | again (state : σ)
  | leave (value : α)
  deriving DecidableEq, Repr

/-- Take turns until one leaves the loop.  A turn that does not must move the
cursor on. -/
def loop {σ α : Type} (turn : σ → Action (Turn σ α)) (state : σ) :
    Action α :=
  fun input position =>
    match turn state input position with
    | .mishap cause => .mishap cause
    | .refused refusal => .refused refusal
    | .done (.leave value) behind => .done value behind
    | .done (.again next) behind =>
        if position < behind ∧ behind ≤ input.tokens.length then
          loop turn next input behind
        else
          .mishap .stalled
termination_by input position => input.tokens.length - position

/-! ## Places -/

/-- The position of the cursor in front of these last tokens. -/
def Input.place (input : Input) (tokens : List Token) : Nat :=
  input.tokens.length - tokens.length

section Places

variable {input : Input} {tokens rest : List Token} {token : Token}

theorem Input.place_add_length (within : tokens <:+ input.tokens) :
    input.place tokens + tokens.length = input.tokens.length :=
  Nat.sub_add_cancel within.length_le

theorem Input.place_le (tokens : List Token) :
    input.place tokens ≤ input.tokens.length :=
  Nat.sub_le _ _

/-- The place of some tokens is how many were passed. -/
theorem Input.place_of_append {passed : List Token}
    (split : passed ++ tokens = input.tokens) :
    input.place tokens = passed.length := by
  rw [Input.place, ← split, List.length_append, Nat.add_sub_cancel]

theorem Input.place_succ (within : token :: rest <:+ input.tokens) :
    input.place (token :: rest) + 1 = input.place rest := by
  have bound := within.length_le
  simp only [Input.place, List.length_cons] at bound ⊢
  omega

theorem Input.place_add_two {second : Token}
    (within : token :: second :: rest <:+ input.tokens) :
    input.place (token :: second :: rest) + 2 = input.place rest := by
  rw [← Input.place_succ ((List.suffix_cons token _).trans within),
    ← Input.place_succ within]

theorem Input.getElem?_place (within : tokens <:+ input.tokens)
    (distance : Nat) :
    input.tokens[input.place tokens + distance]? = tokens[distance]? := by
  obtain ⟨passed, split⟩ := within
  rw [Input.place_of_append split, ← split,
    List.getElem?_append_right (Nat.le_add_right _ _),
    Nat.add_sub_cancel_left]

theorem Input.drop_place (within : tokens <:+ input.tokens) :
    input.tokens.drop (input.place tokens) = tokens := by
  obtain ⟨passed, split⟩ := within
  rw [Input.place_of_append split, ← split, List.drop_left]

/-- Every position up to the end is a place. -/
theorem Input.place_drop {index : Nat}
    (inRange : index ≤ input.tokens.length) :
    input.place (input.tokens.drop index) = index := by
  rw [Input.place, List.length_drop]
  omega

end Places

/-! ## What the operations do -/

section Operations

variable {α β : Type} {input : Input} {tokens rest : List Token}
  {token : Token} {index : Nat}

@[simp]
theorem Outcome.andThen_refused (refusal : Refusal)
    (next : α → Nat → Outcome β) :
    (Outcome.refused refusal).andThen next = .refused refusal :=
  rfl

@[simp]
theorem Outcome.andThen_done (value : α) (position : Nat)
    (next : α → Nat → Outcome β) :
    (Outcome.done value position).andThen next = next value position :=
  rfl

theorem Outcome.andThen_assoc {γ : Type} (outcome : Outcome α)
    (next : α → Nat → Outcome β) (last : β → Nat → Outcome γ) :
    (outcome.andThen next).andThen last =
      outcome.andThen fun value behind =>
        (next value behind).andThen last := by
  cases outcome <;> rfl

@[simp]
theorem bind_apply (action : Action α) (next : α → Action β) :
    (action >>= next) input index =
      (action input index).andThen fun value behind =>
        next value input behind :=
  rfl

@[simp]
theorem pure_apply (value : α) :
    (pure value : Action α) input index = .done value index :=
  rfl

@[simp]
theorem discard_apply (action : Action α) :
    (discard action) input index =
      (action input index).andThen fun _ behind => .done () behind :=
  rfl

@[simp]
theorem position_apply : position input index = .done index index :=
  rfl

theorem peekNth_place (within : tokens <:+ input.tokens) (distance : Nat) :
    peekNth distance input (input.place tokens) =
      .done tokens[distance]? (input.place tokens) := by
  rw [peekNth, Input.getElem?_place within]

theorem tokenAt_place (within : tokens <:+ input.tokens) :
    tokenAt (input.place tokens) input index = .done tokens.head? index := by
  rw [tokenAt, ← Nat.add_zero (input.place tokens),
    Input.getElem?_place within, List.head?_eq_getElem?]

theorem peek_place (within : tokens <:+ input.tokens) :
    peek input (input.place tokens) =
      .done tokens.head? (input.place tokens) := by
  rw [peek, peekNth_place within, List.head?_eq_getElem?]

@[simp]
theorem moveTo_place (tokens : List Token) :
    moveTo (input.place tokens) input index =
      .done () (input.place tokens) :=
  if_pos (Input.place_le tokens)

theorem bump_nil :
    bump input (input.place []) = .done none (input.place []) := by
  simp [bump, peek_place (List.nil_suffix (l := input.tokens))]

theorem bump_cons (within : token :: rest <:+ input.tokens) :
    bump input (input.place (token :: rest)) =
      .done (some token) (input.place rest) := by
  simp [bump, peek_place within, Input.place_succ within]

theorem refuseIndex_place {fault : SyntaxFault}
    (within : tokens <:+ input.tokens) :
    (refuseIndex (input.place tokens) fault : Action α) input index =
      .refused ⟨fault, tokens.length⟩ := by
  have total := Input.place_add_length within
  rw [refuseIndex, if_pos (Input.place_le tokens)]
  congr 2
  omega

theorem refuse_place {fault : SyntaxFault}
    (within : tokens <:+ input.tokens) :
    (refuse fault : Action α) input (input.place tokens) =
      .refused ⟨fault, tokens.length⟩ := by
  simp [refuse, refuseIndex_place within]

theorem any_head?_isMark (c : Char) (tokens : List Token) :
    tokens.head?.any (·.isMark c) = Reading.atMark c tokens := by
  cases tokens <;> rfl

theorem atMark_place (c : Char) (within : tokens <:+ input.tokens) :
    atMark c input (input.place tokens) =
      .done (Reading.atMark c tokens) (input.place tokens) := by
  simp [atMark, peek_place within, any_head?_isMark]

theorem eatMark_place (c : Char) (within : tokens <:+ input.tokens) :
    eatMark c input (input.place tokens) =
      .done (Reading.atMark c tokens)
        (input.place (Reading.skipMark c tokens)) := by
  simp only [eatMark, bind_apply, atMark_place c within,
    Outcome.andThen_done]
  cases tokens with
  | nil =>
      rfl
  | cons token rest =>
      cases isMark : token.isMark c <;>
        simp [Reading.atMark, Reading.skipMark, isMark, bump_cons within]

theorem eatMark_present {c : Char} (within : token :: rest <:+ input.tokens)
    (isMark : token.isMark c = true) :
    eatMark c input (input.place (token :: rest)) =
      .done true (input.place rest) := by
  simp [eatMark_place c within, Reading.atMark, Reading.skipMark, isMark]

theorem expectMark_present {c : Char}
    (within : token :: rest <:+ input.tokens)
    (isMark : token.isMark c = true) :
    expectMark c input (input.place (token :: rest)) =
      .done () (input.place rest) := by
  simp [expectMark, eatMark_present within isMark]

theorem eatMark_absent {c : Char} (within : tokens <:+ input.tokens)
    (absent : Reading.atMark c tokens = false) :
    eatMark c input (input.place tokens) =
      .done false (input.place tokens) := by
  rw [eatMark_place c within, absent]
  cases tokens with
  | nil =>
      rfl
  | cons token rest =>
      have noMark : token.isMark c = false := absent
      simp [Reading.skipMark, noMark]

theorem eatWord_place (text : String) (within : tokens <:+ input.tokens) :
    eatWord text input (input.place tokens) =
      .done (Reading.atWord text tokens)
        (input.place (Reading.skipWord text tokens)) := by
  simp only [eatWord, bind_apply, peek_place within, Outcome.andThen_done]
  cases tokens with
  | nil =>
      rfl
  | cons token rest =>
      cases isWord : token.isWord text <;>
        simp [Reading.atWord, Reading.skipWord, isWord, bump_cons within]

theorem seenWord_cons {text : String}
    (within : token :: rest <:+ input.tokens)
    (isWord : Reading.word? token = some text) :
    seenWord input (input.place (token :: rest)) =
      .done text (input.place rest) := by
  simp [seenWord, bump_cons within, isWord]

end Operations

end ClassDiagram.Cursor
