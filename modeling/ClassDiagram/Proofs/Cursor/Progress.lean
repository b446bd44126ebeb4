import ClassDiagram.Proofs.Cursor.Declarations

/-!
# The cursor moves on

A turn that stays in its loop passes a token, and so does a member where no
body ends.  Every call for a body is behind a token that the calls around it
had left, so the tokens bound how deep the calls are nested.

Nothing is asked of the tokens, so the reader also ends on sources that have no
outline.
-/

namespace ClassDiagram.Cursor

open Source (Token)
open Reading (Frames)

/-- Tokens and a text that is written as they are. -/
def Input.of (tokens : List Token) (behind : List Char) : Input :=
  ⟨Token.writtenAll tokens ++ behind, tokens⟩

@[simp]
theorem Input.of_tokens (tokens : List Token) (behind : List Char) :
    (Input.of tokens behind).tokens = tokens :=
  rfl

theorem Input.of_written (tokens : List Token) (behind : List Char) :
    (Input.of tokens behind).Written :=
  ⟨behind, rfl⟩

variable {σ α : Type} {input : Input} {index : Nat} {tokens rest : List Token}

/-! ## Turns -/

/-- A turn goes wrong nowhere, and if it stays in its loop it moves the cursor
on. -/
inductive TurnAdvances (input : Input) (index : Nat) :
    Outcome (Turn σ α) → Prop
  | refused (refusal : Reading.Refusal) :
      TurnAdvances input index (.refused refusal)
  | leave {value : α} {behind : Nat} (kept : index ≤ behind)
      (inRange : behind ≤ input.tokens.length) :
      TurnAdvances input index (.done (.leave value) behind)
  | again {state : σ} {behind : Nat} (moved : index < behind)
      (inRange : behind ≤ input.tokens.length) :
      TurnAdvances input index (.done (.again state) behind)

theorem Input.place_mono (suffix : rest <:+ tokens) :
    input.place tokens ≤ input.place rest :=
  Nat.sub_le_sub_left suffix.length_le _

theorem Input.exists_place (inRange : index ≤ input.tokens.length) :
    ∃ tokens, tokens <:+ input.tokens ∧ input.place tokens = index :=
  ⟨input.tokens.drop index, List.drop_suffix _ _, Input.place_drop inRange⟩

/-- A turn that does its part of anything passes a token. -/
theorem TurnHolds.advances {holds : σ → List Token → Outcome α → Prop}
    {state : σ} {outcome : Outcome (Turn σ α)}
    (within : tokens <:+ input.tokens)
    (turned : TurnHolds input holds state tokens outcome) :
    TurnAdvances input (input.place tokens) outcome := by
  cases turned with
  | refused _ =>
      exact .refused _
  | leave suffix _ =>
      exact .leave (Input.place_mono suffix) (Input.place_le _)
  | again _ shorter _ =>
      exact .again (Input.place_lt within shorter) (Input.place_le _)

/-- The turns of the loops that skip and of those that read types, parameters,
enumerations, modifiers, headers and names. -/
inductive ReaderLoop : {σ α : Type} → (σ → Action (Turn σ α)) → Prop
  | group : ReaderLoop groupTurn
  | untilStop (stops : List Char) : ReaderLoop (untilTurn stops)
  | attributeSection : ReaderLoop attributeTurn
  | member : ReaderLoop memberTurn
  | methodBody (name : String) : ReaderLoop (methodBodyTurn name)
  | namePart : ReaderLoop namePartTurn
  | suffix : ReaderLoop suffixTurn
  | parameterModifier : ReaderLoop parameterModifierTurn
  | parameter : ReaderLoop parameterTurn
  | enumerationHeader (name : String) :
      ReaderLoop (enumerationHeaderTurn name)
  | variant : ReaderLoop variantTurn
  | memberName : ReaderLoop memberNameTurn
  | modifier : ReaderLoop modifierTurn
  | typeHeader (name : String) : ReaderLoop (typeHeaderTurn name)
  | dottedName : ReaderLoop dottedNameTurn

theorem ReaderLoop.turnAdvances {turn : σ → Action (Turn σ α)}
    (isLoop : ReaderLoop turn) (written : input.Written) (state : σ)
    (inRange : index ≤ input.tokens.length) :
    TurnAdvances input index (turn state input index) := by
  obtain ⟨tokens, within, rfl⟩ := Input.exists_place inRange
  cases isLoop with
  | group =>
      exact (groupTurn_answers state tokens within).advances within
  | untilStop stops =>
      exact (untilTurn_answers stops state tokens within).advances within
  | attributeSection =>
      exact (attributeTurn_answers state tokens within).advances within
  | member =>
      exact (memberTurn_answers state tokens within).advances within
  | methodBody name =>
      exact (methodBodyTurn_answers name state tokens within).advances within
  | namePart =>
      exact (namePartTurn_answers state tokens within).advances within
  | suffix =>
      exact (suffixTurn_answers state tokens within).advances within
  | parameterModifier =>
      exact (parameterModifierTurn_answers state tokens within).advances
        within
  | parameter =>
      exact (parameterTurn_answers written state tokens within).advances
        within
  | enumerationHeader name =>
      exact (enumerationHeaderTurn_holds name state tokens within).advances
        within
  | variant =>
      exact (variantTurn_answers state tokens within).advances within
  | memberName =>
      exact (memberNameTurn_answers state tokens within).advances within
  | modifier =>
      exact (modifierTurn_answers state tokens within).advances within
  | typeHeader name =>
      exact (typeHeaderTurn_holds name state tokens within).advances within
  | dottedName =>
      exact (dottedNameTurn_answers state tokens within).advances within

/-! ## Members and declarations -/

/-- Something refuses the source or moves the cursor on. -/
inductive MovesOn (input : Input) (index : Nat) : Outcome α → Prop
  | refused (refusal : Reading.Refusal) :
      MovesOn input index (.refused refusal)
  | done {value : α} {behind : Nat} (moved : index < behind)
      (inRange : behind ≤ input.tokens.length) :
      MovesOn input index (.done value behind)

/-- Something may be open around everything that is read. -/
theorem exists_scopeOf (scope : Scope) :
    ∃ frames : Frames, scopeOf frames = scope := by
  cases scope with
  | unit =>
      exact ⟨[], rfl⟩
  | block =>
      exact ⟨[⟨.block "", []⟩], rfl⟩
  | type name =>
      exact ⟨[⟨.type ⟨.classWord, name, none, []⟩, []⟩], rfl⟩

theorem readMember_movesOn (written : input.Written) (scope : Scope)
    {token : Token} (isNext : input.tokens[index]? = some token)
    (inside : token.isMark '\x7d' = false) {levels : Nat}
    (enough : input.tokens.length - index ≤ levels) :
    MovesOn input index
      (readMember (readDeclarations levels) scope input index) := by
  obtain ⟨frames, rfl⟩ := exists_scopeOf scope
  obtain ⟨bound, _⟩ := List.getElem?_eq_some_iff.1 isNext
  obtain ⟨tokens, within, rfl⟩ := Input.exists_place (Nat.le_of_lt bound)
  have first := Input.getElem?_place within 0
  rw [Nat.add_zero, isNext] at first
  have total := Input.place_add_length within
  cases tokens with
  | nil =>
      cases first
  | cons found rest =>
      cases first
      rcases readMember_cases written
        (readDeclarations_readsBodies written levels) frames [] within
        (by omega) inside with
        ⟨refusal, outcomeEq, _⟩ | ⟨declared, behind, outcomeEq, _, fewer, _⟩
      · rw [outcomeEq]
        exact .refused refusal
      · rw [outcomeEq]
        exact .done (Input.place_lt within fewer) (Input.place_le behind)

theorem declarationTurn_advances (written : input.Written) (scope : Scope)
    (read : List Declaration) (inRange : index ≤ input.tokens.length)
    {levels : Nat} (enough : input.tokens.length - index ≤ levels) :
    TurnAdvances input index
      (declarationTurn (readDeclarations levels) scope read input index) := by
  obtain ⟨frames, rfl⟩ := exists_scopeOf scope
  obtain ⟨tokens, within, rfl⟩ := Input.exists_place inRange
  have total := Input.place_add_length within
  exact (declarationTurn_holds written
    (readDeclarations_readsBodies written levels) frames read tokens within
    (by omega)).advances within

/-- In front of any tokens every turn of a loop and every member moves on.  So
the reader ends with as many levels below its first one as there are tokens,
and it answers what the reader on lists answers. -/
theorem every_turn_moves_on (tokens : List Token) (behind : List Char) :
    (∀ {σ α : Type} {turn : σ → Action (Turn σ α)}, ReaderLoop turn →
      ∀ state, ∀ index ≤ tokens.length,
        TurnAdvances (.of tokens behind) index
          (turn state (.of tokens behind) index)) ∧
    (∀ scope index token, tokens[index]? = some token →
      token.isMark '\x7d' = false → ∀ levels ≥ tokens.length - index,
        MovesOn (.of tokens behind) index
          (readMember (readDeclarations levels) scope (.of tokens behind)
            index)) ∧
    (∀ scope read, ∀ index ≤ tokens.length,
      ∀ levels ≥ tokens.length - index,
        TurnAdvances (.of tokens behind) index
          (declarationTurn (readDeclarations levels) scope read
            (.of tokens behind) index)) ∧
    readDeclarations (tokens.length + 1) .unit (.of tokens behind) 0 =
      outlineOutcome (.of tokens behind) (Reading.readOutline tokens) := by
  have written := Input.of_written tokens behind
  refine ⟨?_, ?_, ?_, ?_⟩
  · intro σ α turn isLoop state index inRange
    exact isLoop.turnAdvances written state inRange
  · intro scope index token isNext inside levels enough
    exact readMember_movesOn written scope isNext inside enough
  · intro scope read index inRange levels enough
    exact declarationTurn_advances written scope read inRange enough
  · simpa only [Input.of_tokens] using readDeclarations_eq written

def boxTokens : List Token :=
  [⟨"", .word "class"⟩, ⟨" ", .word "Box"⟩, ⟨" ", .mark '\x7b'⟩,
    ⟨" ", .word "int"⟩, ⟨" ", .word "n"⟩, ⟨"", .mark ';'⟩,
    ⟨" ", .mark '\x7d'⟩]

theorem boxTokens_moves_on :
    boxTokens[0]? = some ⟨"", .word "class"⟩ ∧
      (⟨"", .word "class"⟩ : Token).isMark '\x7d' = false ∧
      MovesOn (.of boxTokens []) 0
        (readMember (readDeclarations 7) .unit (.of boxTokens []) 0) ∧
      TurnAdvances (.of boxTokens []) 3
        (memberTurn () (.of boxTokens []) 3) ∧
      TurnAdvances (.of boxTokens []) 3
        (declarationTurn (readDeclarations 4) (.type "Box") []
          (.of boxTokens []) 3) := by
  obtain ⟨turns, members, declarations, _⟩ := every_turn_moves_on boxTokens []
  refine ⟨rfl, rfl, ?_, ?_, ?_⟩
  · exact members .unit 0 ⟨"", .word "class"⟩ rfl rfl 7 (by decide)
  · exact turns .member () 3 (by decide)
  · exact declarations (.type "Box") [] 3 (by decide) 4 (by decide)

end ClassDiagram.Cursor
