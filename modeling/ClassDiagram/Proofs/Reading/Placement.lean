import ClassDiagram.Proofs.Reading.Steps
import ClassDiagram.Reading.Source

/-!
# Where declarations lie

A namespace lies at the top or directly inside namespaces, and a method lies
inside a type.  Every outline that is read has this form: a step of the reader
opens a namespace only outside types, and keeps a method only inside one.

The form is stated twice.  `Occurs` names the declarations around each
declaration, outermost first, and `WellPlaced` follows the tree and carries
one bit.
-/

namespace ClassDiagram

namespace Declaration

def isScope : Declaration → Bool
  | .scope .. => true
  | _ => false

def isType : Declaration → Bool
  | .type .. => true
  | _ => false

def isMethod : Declaration → Bool
  | .method _ => true
  | _ => false

/-- A declaration lies somewhere in a list of declarations, inside the
declarations that enclose it, outermost first. -/
inductive Occurs : List Declaration → Declaration → List Declaration → Prop
  | here {declaration : Declaration} {declarations : List Declaration}
      (member : declaration ∈ declarations) :
      Occurs [] declaration declarations
  | within {outer declaration : Declaration}
      {enclosing declarations : List Declaration}
      (member : outer ∈ declarations)
      (inner : Occurs enclosing declaration outer.members) :
      Occurs (outer :: enclosing) declaration declarations

mutual

/-- Namespaces and methods here lie where they may, given whether a type is
around. -/
def WellPlaced (insideType : Bool) : Declaration → Prop
  | .scope _ members => insideType = false ∧ AllWellPlaced false members
  | .type _ members => AllWellPlaced true members
  | .enumeration _ => True
  | .method _ => insideType = true

def AllWellPlaced (insideType : Bool) : List Declaration → Prop
  | [] => True
  | first :: others =>
      first.WellPlaced insideType ∧ AllWellPlaced insideType others

end

theorem allWellPlaced_iff {insideType : Bool}
    {declarations : List Declaration} :
    AllWellPlaced insideType declarations ↔
      ∀ declaration ∈ declarations, declaration.WellPlaced insideType := by
  induction declarations with
  | nil =>
      simp [AllWellPlaced]
  | cons first others inductionHypothesis =>
      simp [AllWellPlaced, inductionHypothesis]

theorem AllWellPlaced.reverse {insideType : Bool}
    {declarations : List Declaration}
    (placed : AllWellPlaced insideType declarations) :
    AllWellPlaced insideType declarations.reverse := by
  rw [allWellPlaced_iff] at placed ⊢
  intro declaration member
  exact placed declaration (List.mem_reverse.1 member)

theorem WellPlaced.members {insideType : Bool} {outer : Declaration}
    (placed : outer.WellPlaced insideType) :
    AllWellPlaced (insideType || outer.isType) outer.members := by
  cases outer with
  | scope name members =>
      obtain ⟨rfl, membersPlaced⟩ := placed
      exact membersPlaced
  | type header members =>
      rw [isType, Bool.or_true]
      exact placed
  | enumeration declared =>
      exact trivial
  | method declared =>
      exact trivial

/-- What encloses a declaration decides whether a type is around it. -/
theorem Occurs.wellPlaced {insideType : Bool} {declaration : Declaration}
    {enclosing declarations : List Declaration}
    (occurs : Occurs enclosing declaration declarations)
    (placed : AllWellPlaced insideType declarations) :
    declaration.WellPlaced (insideType || enclosing.any isType) := by
  induction occurs generalizing insideType with
  | here member =>
      rw [List.any_nil, Bool.or_false]
      exact allWellPlaced_iff.1 placed _ member
  | within member inner inductionHypothesis =>
      have outerPlaced := allWellPlaced_iff.1 placed _ member
      rw [List.any_cons, ← Bool.or_assoc]
      exact inductionHypothesis outerPlaced.members

theorem Occurs.no_type_around_scope {declaration : Declaration}
    {enclosing outline : List Declaration}
    (occurs : Occurs enclosing declaration outline)
    (placed : AllWellPlaced false outline)
    (scope : declaration.isScope = true) :
    ∀ outer ∈ enclosing, outer.isType = false := by
  have here := occurs.wellPlaced placed
  cases declaration with
  | scope name members =>
      have noType := here.1
      rw [Bool.false_or, List.any_eq_false] at noType
      intro outer member
      simpa using noType outer member
  | _ =>
      cases scope

theorem Occurs.exists_type_around_method {declaration : Declaration}
    {enclosing outline : List Declaration}
    (occurs : Occurs enclosing declaration outline)
    (placed : AllWellPlaced false outline)
    (method : declaration.isMethod = true) :
    ∃ outer ∈ enclosing, outer.isType = true := by
  have here := occurs.wellPlaced placed
  cases declaration with
  | method declared =>
      change (false || enclosing.any isType) = true at here
      rwa [Bool.false_or, List.any_eq_true] at here
  | _ =>
      cases method

end Declaration

/-! ## Placement in what is read -/

namespace Reading

open Declaration (WellPlaced AllWellPlaced)
open Source (Token)

theorem TypeOpening.member_wellPlaced {opening : TypeOpening}
    {declaration : Declaration} (insideType : Bool)
    (completed : opening.member = .complete declaration) :
    declaration.WellPlaced insideType := by
  unfold TypeOpening.member at completed
  split at completed
  · cases completed
  · cases completed
    exact trivial

theorem methodMember_wellPlaced {enclosing : Option String}
    {result : Option Method} {declaration : Declaration}
    (completed : methodMember enclosing result = .complete declaration) :
    declaration.WellPlaced enclosing.isSome := by
  unfold methodMember at completed
  split at completed
  · cases completed
    rfl
  · cases completed

theorem readModified_wellPlaced {enclosing : Option String}
    {modifiers : List Modifier} {tokens rest : List Token}
    {declaration : Declaration}
    (read : readModified enclosing modifiers tokens =
      .ok (.complete declaration, rest)) :
    declaration.WellPlaced enclosing.isSome := by
  unfold readModified at read
  split at read
  · cases read
  · rename_i token others
    split at read
    · cases read
    · split at read
      · rename_i kind declared
        cases opened : readTypeOpening kind modifiers others with
        | error refusal =>
            rw [opened] at read
            cases read
        | ok result =>
            rw [opened] at read
            injection read with answer
            exact TypeOpening.member_wellPlaced _ (congrArg Prod.fst answer)
      · split at read
        · cases enumerated : readEnumeration modifiers others with
          | error refusal =>
              rw [enumerated] at read
              cases read
          | ok result =>
              rw [enumerated] at read
              cases read
              exact trivial
        · cases method : readMethod enclosing modifiers
              (token :: others) with
          | error refusal =>
              rw [method] at read
              cases read
          | ok result =>
              rw [method] at read
              injection read with answer
              exact methodMember_wellPlaced (congrArg Prod.fst answer)

theorem readMember_wellPlaced {enclosing : Option String}
    {tokens rest : List Token} {declaration : Declaration}
    (read : readMember enclosing tokens =
      .ok (.complete declaration, rest)) :
    declaration.WellPlaced enclosing.isSome := by
  unfold readMember at read
  split at read
  · cases read
  · exact readModified_wellPlaced read

/-- What was read before each open body lies where it may, and no body of a
namespace is open directly inside a type. -/
def FramesWellPlaced : Frames → Prop
  | [] => True
  | ⟨opening, before⟩ :: outer =>
      FramesWellPlaced outer ∧ AllWellPlaced (insideType outer) before ∧
        ((opening.close []).isScope = true → insideType outer = false)

/-- The members of the innermost body lie where they may, too. -/
def ReaderState.WellPlaced (state : ReaderState) : Prop :=
  FramesWellPlaced state.frames ∧
    AllWellPlaced (insideType state.frames) state.members

theorem Opening.close_wellPlaced {opening : Opening}
    {before members : List Declaration} {outer : Frames}
    (outside : (opening.close []).isScope = true → insideType outer = false)
    (placed : AllWellPlaced (insideType (⟨opening, before⟩ :: outer))
      members) :
    (opening.close members.reverse).WellPlaced (insideType outer) := by
  cases opening with
  | block name =>
      exact ⟨outside rfl, placed.reverse⟩
  | file name =>
      exact ⟨outside rfl, placed.reverse⟩
  | type header =>
      exact placed.reverse

theorem Step.wellPlaced {state next : ReaderState} (step : Step state next)
    (placed : state.WellPlaced) : next.WellPlaced := by
  obtain ⟨framesPlaced, membersPlaced⟩ := placed
  cases step with
  | close closing braced =>
      obtain ⟨outerPlaced, beforePlaced, outside⟩ := framesPlaced
      exact ⟨outerPlaced, Opening.close_wellPlaced outside membersPlaced,
        beforePlaced⟩
  | separate separator =>
      exact ⟨framesPlaced, membersPlaced⟩
  | enter scopeWord outside read =>
      exact ⟨⟨framesPlaced, membersPlaced, fun _ => outside⟩, trivial⟩
  | @member frames members _ _ _ member inside noSeparator noScope read =>
      cases member with
      | leftOut =>
          exact ⟨framesPlaced, membersPlaced⟩
      | complete declaration =>
          exact ⟨framesPlaced, readMember_wellPlaced read, membersPlaced⟩
      | opened header =>
          refine ⟨⟨framesPlaced, membersPlaced, ?_⟩, trivial⟩
          intro scope
          cases scope

theorem Run.wellPlaced {state final : ReaderState} (run : Run state final)
    (placed : state.WellPlaced) : final.WellPlaced := by
  induction run with
  | refl =>
      exact placed
  | tail _ step inductionHypothesis =>
      exact step.wellPlaced inductionHypothesis

theorem closeAll_wellPlaced {frames : Frames} {members : List Declaration}
    {outline : Outline}
    (closed : closeAll frames members = .ok outline)
    (framesPlaced : FramesWellPlaced frames)
    (membersPlaced : AllWellPlaced (insideType frames) members) :
    AllWellPlaced false outline := by
  fun_induction closeAll frames members with
  | case1 members =>
      cases closed
      exact membersPlaced.reverse
  | case2 name before frames members inductionHypothesis =>
      obtain ⟨outerPlaced, beforePlaced, outside⟩ := framesPlaced
      exact inductionHypothesis closed outerPlaced
        ⟨⟨outside rfl, membersPlaced.reverse⟩, beforePlaced⟩
  | case3 | case4 =>
      cases closed

theorem readOutline_wellPlaced {tokens : List Token} {outline : Outline}
    (read : readOutline tokens = .ok outline) :
    AllWellPlaced false outline := by
  obtain ⟨final, run, _, closed⟩ :=
    exists_run_of_outline ⟨[], [], tokens⟩ read
  obtain ⟨framesPlaced, membersPlaced⟩ :=
    run.wellPlaced ⟨trivial, trivial⟩
  exact closeAll_wellPlaced closed framesPlaced membersPlaced

end Reading

theorem readSource_ok_iff {text : String} {outline : Outline} :
    readSource text = .ok outline ↔
      ∃ source, Source.tokenize (Source.firstBranches text) = .ok source ∧
        Reading.readOutline source.tokens = .ok outline := by
  unfold readSource
  cases Source.tokenize (Source.firstBranches text) with
  | error error =>
      simp
  | ok source =>
      cases answer : Reading.readOutline source.tokens with
      | error refusal =>
          have refused : (Except.error refusal : Except _ Outline).mapError
              (Source.errorOf source) =
                .error (Source.errorOf source refusal) := rfl
          simp [refused, answer]
      | ok found =>
          have accepted : (Except.ok found).mapError
              (Source.errorOf source) = .ok found := rfl
          simp [accepted, answer]

/-- What stopped the reading of a text is told with its place. -/
theorem exists_of_tokenize_error {text : String} {error : DiagramError}
    (failed : Source.tokenize text = .error error) :
    ∃ found place, error = .source (.unreadable found) place := by
  unfold Source.tokenize at failed
  split at failed
  · cases failed
  · cases failed
    exact ⟨_, _, rfl⟩

/-- A text that has no outline cannot be cut into tokens, or its tokens are
refused. -/
theorem readSource_error_cases {text : String} {error : DiagramError}
    (refused : readSource text = .error error) :
    Source.tokenize (Source.firstBranches text) = .error error ∨
      ∃ source refusal,
        Source.tokenize (Source.firstBranches text) = .ok source ∧
          Reading.readOutline source.tokens = .error refusal ∧
          error = Source.errorOf source refusal := by
  unfold readSource at refused
  cases tokenized : Source.tokenize (Source.firstBranches text) with
  | error stopped =>
      rw [tokenized] at refused
      cases refused
      exact .inl rfl
  | ok source =>
      rw [tokenized] at refused
      dsimp only at refused
      cases read : Reading.readOutline source.tokens with
      | error refusal =>
          rw [read] at refused
          cases refused
          exact .inr ⟨source, refusal, rfl, read, rfl⟩
      | ok outline =>
          rw [read] at refused
          cases refused

/-- A text that has no outline is refused at a place in it. -/
theorem exists_of_readSource_error {text : String} {error : DiagramError}
    (refused : readSource text = .error error) :
    ∃ fault place, error = .source fault place := by
  rcases readSource_error_cases refused with
    uncut | ⟨source, refusal, _, _, rfl⟩
  · obtain ⟨found, place, rfl⟩ := exists_of_tokenize_error uncut
    exact ⟨_, place, rfl⟩
  · exact ⟨_, _, rfl⟩

theorem readSource_wellPlaced {text : String} {outline : Outline}
    (read : readSource text = .ok outline) :
    Declaration.AllWellPlaced false outline := by
  obtain ⟨source, _, outlineRead⟩ := readSource_ok_iff.1 read
  exact Reading.readOutline_wellPlaced outlineRead

end ClassDiagram
