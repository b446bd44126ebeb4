import ClassDiagram.Reading.Outline
import Mathlib.Logic.Relation

/-!
# Steps of the outline reader

The reader of outlines goes from state to state: it closes a body, steps over
a semicolon, opens a namespace or reads a member.  A source has an outline
exactly if some row of steps ends behind the last token with nothing open but
namespaces without braces.  A source that is refused has a row of steps, too:
it ends where the reader is stuck.

Invariants of the reader are proved for one step and carried along a run.
-/

namespace ClassDiagram.Reading

open Source (Token Lexeme)

/-- What the reader knows between two steps. -/
structure ReaderState where
  frames : Frames
  /-- The members of the innermost open body, latest first. -/
  members : List Declaration
  tokens : List Token

namespace ReaderState

def outline (state : ReaderState) : Except Refusal Outline :=
  readFrom state.frames state.members state.tokens

def behindMember (state : ReaderState) : Member → ReaderState
  | .leftOut => state
  | .complete declaration =>
      { state with members := declaration :: state.members }
  | .opened header =>
      ⟨⟨.type header, state.members⟩ :: state.frames, [], state.tokens⟩

end ReaderState

def Opening.isBraced : Opening → Bool
  | .file _ => false
  | _ => true

inductive Step : ReaderState → ReaderState → Prop
  | close {opening : Opening} {before : List Declaration} {outer : Frames}
      {members : List Declaration} {token : Token} {rest : List Token}
      (closing : token.isMark '}' = true)
      (braced : opening.isBraced = true) :
      Step ⟨⟨opening, before⟩ :: outer, members, token :: rest⟩
        ⟨outer, opening.close members.reverse :: before, skipMark ';' rest⟩
  | separate {frames : Frames} {members : List Declaration} {token : Token}
      {rest : List Token}
      (separator : token.isMark ';' = true) :
      Step ⟨frames, members, token :: rest⟩ ⟨frames, members, rest⟩
  | enter {frames : Frames} {members : List Declaration} {token : Token}
      {rest body : List Token} {opening : Opening}
      (scopeWord : token.isWord "namespace" = true)
      (outside : insideType frames = false)
      (read : readScopeOpening rest = .ok (opening, body)) :
      Step ⟨frames, members, token :: rest⟩
        ⟨⟨opening, members⟩ :: frames, [], body⟩
  | member {frames : Frames} {members : List Declaration} {token : Token}
      {rest behind : List Token} {member : Member}
      (inside : token.isMark '}' = false)
      (noSeparator : token.isMark ';' = false)
      (noScope : (token.isWord "namespace" && !insideType frames) = false)
      (read : readMember (enclosingType frames) (token :: rest) =
        .ok (member, behind)) :
      Step ⟨frames, members, token :: rest⟩
        (ReaderState.behindMember ⟨frames, members, behind⟩ member)

abbrev Run : ReaderState → ReaderState → Prop :=
  Relation.ReflTransGen Step

theorem isMark_eq_false_of_isWord {token : Token} {text : String}
    (isWord : token.isWord text = true) (c : Char) :
    token.isMark c = false := by
  simp only [Token.isWord, beq_iff_eq] at isWord
  simp [Token.isMark, isWord]

theorem isMark_unique {token : Token} {c d : Char}
    (isFirst : token.isMark c = true) (different : c ≠ d) :
    token.isMark d = false := by
  simp only [Token.isMark, beq_iff_eq] at isFirst
  simp [Token.isMark, isFirst, different]

/-- A step changes nothing about the outline. -/
theorem Step.outline_eq {state next : ReaderState} (step : Step state next) :
    state.outline = next.outline := by
  cases step with
  | @close opening _ _ _ _ _ closing braced =>
      unfold ReaderState.outline
      rw [readFrom.eq_def]
      simp only [closing, if_true]
      cases opening with
      | block name =>
          rfl
      | file name =>
          cases braced
      | type header =>
          rfl
  | separate separator =>
      have inside := isMark_unique (d := '}') separator (by decide)
      unfold ReaderState.outline
      rw [readFrom.eq_def]
      simp only [inside, separator, Bool.false_eq_true, if_false, if_true]
  | enter scopeWord outside read =>
      have inside := isMark_eq_false_of_isWord scopeWord '}'
      have noSeparator := isMark_eq_false_of_isWord scopeWord ';'
      unfold ReaderState.outline
      rw [readFrom.eq_def]
      simp only [inside, noSeparator, scopeWord, outside,
        Bool.false_eq_true, if_false, Bool.not_false, Bool.and_self, if_true]
      split
      · rename_i refused
        rw [read] at refused
        cases refused
      · rename_i accepted
        rw [read] at accepted
        cases accepted
        rfl
  | @member _ _ _ _ _ member inside noSeparator noScope read =>
      unfold ReaderState.outline
      rw [readFrom.eq_def]
      simp only [inside, noSeparator, noScope, Bool.false_eq_true, if_false]
      cases member <;>
        · split <;> rename_i answer <;> rw [read] at answer <;> cases answer
          rfl

theorem Step.tokens_length_lt {state next : ReaderState}
    (step : Step state next) :
    next.tokens.length < state.tokens.length := by
  cases step with
  | close =>
      exact Nat.lt_succ_of_le (skipMark_length_le _ _)
  | separate =>
      exact Nat.lt_succ_self _
  | enter _ _ read =>
      exact Nat.lt_succ_of_lt (readScopeOpening_length_lt read)
  | @member _ _ _ _ _ member inside _ _ read =>
      have shorter := readMember_length_lt inside read
      cases member <;> exact shorter

/-- The reader cannot go on: the source ends inside a body, a brace closes
none, a namespace has no proper beginning or a member is refused. -/
inductive StuckAt : ReaderState → Refusal → Prop
  | ended {frames : Frames} {members : List Declaration} {refusal : Refusal}
      (unclosed : closeAll frames members = .error refusal) :
      StuckAt ⟨frames, members, []⟩ refusal
  | stray {frames : Frames} {members : List Declaration} {token : Token}
      {rest : List Token}
      (closing : token.isMark '}' = true)
      (noBody : ∀ frame ∈ frames.head?, frame.opening.isBraced = false) :
      StuckAt ⟨frames, members, token :: rest⟩
        ⟨.strayScopeEnd, (token :: rest).length⟩
  | enter {frames : Frames} {members : List Declaration} {token : Token}
      {rest : List Token} {refusal : Refusal}
      (scopeWord : token.isWord "namespace" = true)
      (outside : insideType frames = false)
      (refused : readScopeOpening rest = .error refusal) :
      StuckAt ⟨frames, members, token :: rest⟩ refusal
  | member {frames : Frames} {members : List Declaration} {token : Token}
      {rest : List Token} {refusal : Refusal}
      (inside : token.isMark '}' = false)
      (noSeparator : token.isMark ';' = false)
      (noScope : (token.isWord "namespace" && !insideType frames) = false)
      (refused : readMember (enclosingType frames) (token :: rest) =
        .error refusal) :
      StuckAt ⟨frames, members, token :: rest⟩ refusal

/-- A reader that is stuck refuses the source. -/
theorem StuckAt.outline_eq {state : ReaderState} {refusal : Refusal}
    (stuck : StuckAt state refusal) : state.outline = .error refusal := by
  unfold ReaderState.outline
  rw [readFrom.eq_def]
  cases stuck with
  | ended unclosed =>
      exact unclosed
  | stray closing noBody =>
      simp only [closing, if_true]
      split
      · rfl
      · rfl
      · rename_i opening before outer notFile
        have unbraced := noBody ⟨opening, before⟩ rfl
        cases opening with
        | file name =>
            exact (notFile name rfl).elim
        | _ =>
            cases unbraced
  | enter scopeWord outside refused =>
      have inside := isMark_eq_false_of_isWord scopeWord '}'
      have noSeparator := isMark_eq_false_of_isWord scopeWord ';'
      simp only [inside, noSeparator, scopeWord, outside,
        Bool.false_eq_true, if_false, Bool.not_false, Bool.and_self, if_true]
      split
      · rename_i stopped
        rw [refused] at stopped
        cases stopped
        rfl
      · rename_i opened
        rw [refused] at opened
        cases opened
  | member inside noSeparator noScope refused =>
      simp only [inside, noSeparator, noScope, Bool.false_eq_true, if_false]
      split <;> rename_i answer <;> rw [refused] at answer <;> cases answer
      rfl

/-- In front of a token the reader makes a step or is stuck. -/
theorem step_or_stuckAt {state : ReaderState}
    (unfinished : state.tokens ≠ []) :
    (∃ next, Step state next) ∨ ∃ refusal, StuckAt state refusal := by
  obtain ⟨frames, members, tokens⟩ := state
  cases tokens with
  | nil =>
      exact absurd rfl unfinished
  | cons token rest =>
      cases inside : token.isMark '}' with
      | true =>
          rcases frames with - | ⟨⟨opening, before⟩, outer⟩
          · exact .inr ⟨_, .stray inside nofun⟩
          · cases braced : opening.isBraced with
            | true =>
                exact .inl ⟨_, .close inside braced⟩
            | false =>
                refine .inr ⟨_, .stray inside fun frame isFirst => ?_⟩
                cases isFirst
                exact braced
      | false =>
          cases noSeparator : token.isMark ';' with
          | true =>
              exact .inl ⟨_, .separate noSeparator⟩
          | false =>
              cases scope : token.isWord "namespace" && !insideType frames with
              | true =>
                  simp only [Bool.and_eq_true, Bool.not_eq_true'] at scope
                  cases read : readScopeOpening rest with
                  | error refusal =>
                      exact .inr ⟨_, .enter scope.1 scope.2 read⟩
                  | ok result =>
                      exact .inl ⟨_, .enter scope.1 scope.2 read⟩
              | false =>
                  cases read : readMember (enclosingType frames)
                      (token :: rest) with
                  | error refusal =>
                      exact .inr ⟨_, .member inside noSeparator scope read⟩
                  | ok result =>
                      exact .inl ⟨_, .member inside noSeparator scope read⟩

/-- A reader that is not refused makes a step until no token is left. -/
theorem exists_step_of_outline {state : ReaderState} {outline : Outline}
    (unfinished : state.tokens ≠ [])
    (read : state.outline = .ok outline) :
    ∃ next : ReaderState, Step state next := by
  rcases step_or_stuckAt unfinished with makesStep | ⟨refusal, stuck⟩
  · exact makesStep
  · rw [stuck.outline_eq] at read
    cases read

/-- A run changes nothing about the outline. -/
theorem Run.outline_eq {state final : ReaderState} (run : Run state final) :
    state.outline = final.outline := by
  induction run with
  | refl =>
      rfl
  | tail _ step inductionHypothesis =>
      exact inductionHypothesis.trans step.outline_eq

/-- An outline is the end of a run that leaves no token. -/
theorem exists_run_of_outline {outline : Outline} (state : ReaderState)
    (read : state.outline = .ok outline) :
    ∃ final : ReaderState,
      Run state final ∧ final.tokens = [] ∧
        closeAll final.frames final.members = .ok outline := by
  by_cases finished : state.tokens = []
  · refine ⟨state, .refl, finished, ?_⟩
    unfold ReaderState.outline at read
    rwa [finished, readFrom.eq_def] at read
  · obtain ⟨next, step⟩ := exists_step_of_outline finished read
    rw [step.outline_eq] at read
    obtain ⟨final, run, ending⟩ := exists_run_of_outline next read
    exact ⟨final, .head step run, ending⟩
termination_by state.tokens.length
decreasing_by
  exact step.tokens_length_lt

/-- A refusal is the end of a run that is stuck. -/
theorem exists_run_of_refusal {refusal : Refusal} (state : ReaderState)
    (refused : state.outline = .error refusal) :
    ∃ final : ReaderState, Run state final ∧ StuckAt final refusal := by
  by_cases finished : state.tokens = []
  · obtain ⟨frames, members, tokens⟩ := state
    cases finished
    unfold ReaderState.outline at refused
    rw [readFrom.eq_def] at refused
    exact ⟨_, .refl, .ended refused⟩
  · rcases step_or_stuckAt finished with ⟨next, step⟩ | ⟨stopped, stuck⟩
    · rw [step.outline_eq] at refused
      obtain ⟨final, run, stuck⟩ := exists_run_of_refusal next refused
      exact ⟨final, .head step run, stuck⟩
    · rw [stuck.outline_eq] at refused
      cases refused
      exact ⟨state, .refl, stuck⟩
termination_by state.tokens.length
decreasing_by
  exact step.tokens_length_lt

end ClassDiagram.Reading
