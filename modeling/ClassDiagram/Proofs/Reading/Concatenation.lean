import ClassDiagram.Proofs.Reading.LocalSteps
import ClassDiagram.Proofs.Reading.Surroundings
import Mathlib.Data.List.Infix

/-!
# Sources behind one another

A source that ends like a declaration and opens no namespace without braces
can be followed by another source: the outline of both is that of the first
and that of the second.

The last member of the first source may take something of the second one
with it, a semicolon or an initializer.  The second source has no entry for
either of them, so its outline stays the same.
-/

namespace ClassDiagram.Reading

open Source (Token Lexeme)

/-! ## What the last step takes with it -/

/-- The last step of a source is made in front of other tokens as well. -/
theorem Step.append {state next : ReaderState} (step : Step state next)
    (finished : next.tokens = [])
    (ends : endsDeclaration state.tokens = true) {other : List Token}
    (skips : atMark '=' other = true →
      ∃ behind, skipMember other = .ok behind) :
    ∃ behind, Resumed other behind ∧
      Step (state.before (state.tokens ++ other)) (next.before behind) := by
  cases step with
  | @close opening before outer members token rest closing braced =>
      have further : Step
          ⟨⟨opening, before⟩ :: outer, members, token :: (rest ++ other)⟩
          ⟨outer, opening.close members.reverse :: before,
            skipMark ';' (rest ++ other)⟩ :=
        .close closing braced
      rcases skipMark_append finished other with same | skipped
      · rw [same] at further
        exact ⟨other, .here, further⟩
      · rw [skipped] at further
        exact ⟨skipMark ';' other, .separator, further⟩
  | separate separator =>
      subst finished
      exact ⟨other, .here, .separate separator⟩
  | enter scopeWord outside read =>
      subst finished
      obtain ⟨consumed, restEq, again⟩ := readScopeOpening_again read
      rw [List.append_nil] at restEq
      subst restEq
      exact ⟨other, .here, .enter scopeWord outside (again other)⟩
  | @member _ _ token rest behind member inside noSeparator noScope read =>
      rw [ReaderState.behindMember_tokens] at finished
      subst finished
      obtain ⟨behind, resumed, readEq⟩ :=
        (readMember_end read).append ends skips
      refine ⟨behind, resumed, ?_⟩
      rw [ReaderState.behindMember_before]
      exact .member inside noSeparator noScope readEq

/-- A run to the end of a source is made in front of other tokens as well. -/
theorem Run.append {state final : ReaderState} (run : Run state final)
    (finished : final.tokens = [])
    (ends : state.tokens = [] ∨ endsDeclaration state.tokens = true)
    {other : List Token}
    (skips : atMark '=' other = true →
      ∃ behind, skipMember other = .ok behind) :
    ∃ behind, Resumed other behind ∧
      Run (state.before (state.tokens ++ other)) (final.before behind) := by
  rcases Relation.ReflTransGen.cases_tail run with same | ⟨last, front, step⟩
  · subst same
    rw [finished]
    exact ⟨other, .here, .refl⟩
  · have shorter := step.tokens_length_lt
    have something : last.tokens ≠ [] := List.ne_nil_of_length_pos (by omega)
    obtain ⟨consumed, split, again⟩ := Run.again front
    have endsLast : endsDeclaration last.tokens = true := by
      rw [← endsDeclaration_append consumed something, ← split]
      refine ends.resolve_left fun nothing => ?_
      rw [nothing] at split
      exact something (List.append_eq_nil_iff.1 split.symm).2
    obtain ⟨behind, resumed, further⟩ :=
      step.append finished endsLast skips
    have alike : ResumesAlike last.tokens (last.tokens ++ other) := by
      obtain ⟨token, rest, lastEq⟩ := List.exists_cons_of_ne_nil something
      rw [lastEq]
      exact ⟨rfl, rfl, rfl⟩
    have frontAgain := again (last.tokens ++ other) alike
    rw [← List.append_assoc, ← split] at frontAgain
    exact ⟨behind, resumed, frontAgain.tail further⟩

/-! ## What the second source leaves out -/

/-- A source may begin with an initializer that nothing was declared for. -/
theorem readMember_of_value {enclosing : Option String} {token : Token}
    (isValue : token.isMark '=' = true) (rest : List Token) :
    readMember enclosing (token :: rest) =
      leavingOut .leftOut (token :: rest) := by
  obtain ⟨lead, lexeme⟩ := token
  simp only [Token.isMark, beq_iff_eq] at isValue
  subst isValue
  exact readMember_of_noType rfl rfl rfl rfl rfl rfl enclosing

theorem exists_of_skipMember_of_value {tokens : List Token}
    {outline : Outline} (read : readOutline tokens = .ok outline)
    (isValue : atMark '=' tokens = true) :
    ∃ behind, skipMember tokens = .ok behind := by
  obtain ⟨token, rest, rfl, valueMark⟩ := exists_of_atMark isValue
  have goesOn : ∃ next, Step ⟨[], [], token :: rest⟩ next :=
    exists_step_of_outline (List.cons_ne_nil token rest) read
  obtain ⟨next, step⟩ := goesOn
  cases step with
  | separate separator =>
      rw [isMark_unique valueMark (by decide)] at separator
      cases separator
  | enter scopeWord =>
      rw [isMark_eq_false_of_isWord scopeWord] at valueMark
      cases valueMark
  | member _ _ _ memberRead =>
      rw [readMember_of_value valueMark] at memberRead
      obtain ⟨behind, skipped, _⟩ := exists_of_map_eq_ok memberRead
      exact ⟨behind, skipped⟩

/-- What is taken together with the member in front has no entry by itself. -/
theorem Resumed.run {other behind : List Token}
    (resumed : Resumed other behind) (members : List Declaration) :
    Run ⟨[], members, other⟩ ⟨[], members, behind⟩ := by
  cases resumed with
  | here =>
      exact .refl
  | separator =>
      cases present : atMark ';' other with
      | false =>
          rw [skipMark_of_atMark_eq_false present]
      | true =>
          obtain ⟨token, rest, rfl, isMark⟩ := exists_of_atMark present
          rw [skipMark, if_pos isMark]
          exact .single (.separate isMark)
  | value isValue skipped =>
      obtain ⟨token, rest, rfl, valueMark⟩ := exists_of_atMark isValue
      have noScope : token.isWord "namespace" = false := by
        simp only [Token.isMark, beq_iff_eq] at valueMark
        simp [Token.isWord, valueMark]
      have read : readMember none (token :: rest) = .ok (.leftOut, behind) := by
        rw [readMember_of_value valueMark, leavingOut, skipped]
        rfl
      have leftOut : Step ⟨[], members, token :: rest⟩
          (ReaderState.behindMember ⟨[], members, behind⟩ .leftOut) :=
        .member (isMark_unique valueMark (by decide))
          (isMark_unique valueMark (by decide)) (by rw [noScope]; rfl) read
      exact .single leftOut

/-! ## Namespaces without braces -/

/-- The reader of this source opens a namespace without braces. -/
def OpensFileScope (tokens : List Token) : Prop :=
  ∃ state : ReaderState, Run ⟨[], [], tokens⟩ state ∧
    ∃ frame ∈ state.frames, frame.opening.isBraced = false

/-- Only namespaces without braces may be open at the end of a source. -/
theorem frames_eq_nil_of_closeAll {frames : Frames}
    {members : List Declaration} {outline : Outline}
    (braced : ∀ frame ∈ frames, frame.opening.isBraced = true)
    (closed : closeAll frames members = .ok outline) : frames = [] := by
  cases frames with
  | nil =>
      rfl
  | cons frame frames =>
      obtain ⟨opening, before⟩ := frame
      have isBraced := braced _ List.mem_cons_self
      cases opening with
      | file name =>
          cases isBraced
      | _ =>
          cases closed

def beginsFileScope : List Token → Bool
  | [] => false
  | token :: rest =>
      token.isWord "namespace" &&
        match readScopeOpening rest with
        | .ok (opening, _) => !opening.isBraced
        | .error _ => false

theorem Step.braced {state next : ReaderState} (step : Step state next)
    (noScope : beginsFileScope state.tokens = false)
    (braced : ∀ frame ∈ state.frames, frame.opening.isBraced = true) :
    ∀ frame ∈ next.frames, frame.opening.isBraced = true := by
  cases step with
  | close =>
      exact fun frame member => braced frame (List.mem_cons_of_mem _ member)
  | separate =>
      exact braced
  | enter scopeWord outside read =>
      refine List.forall_mem_cons.2 ⟨?_, braced⟩
      simpa [beginsFileScope, scopeWord, read] using noScope
  | @member _ _ _ _ _ member =>
      cases member with
      | leftOut | complete =>
          exact braced
      | opened header =>
          exact List.forall_mem_cons.2 ⟨rfl, braced⟩

/-- Where no namespace without braces begins, none is opened. -/
theorem not_opensFileScope {tokens : List Token}
    (noScope : ∀ rest ∈ tokens.tails, beginsFileScope rest = false) :
    ¬ OpensFileScope tokens := by
  have kept : ∀ state : ReaderState, Run ⟨[], [], tokens⟩ state →
      state.tokens <:+ tokens ∧
        ∀ frame ∈ state.frames, frame.opening.isBraced = true := by
    intro state run
    induction run with
    | refl =>
        exact ⟨List.suffix_refl tokens, nofun⟩
    | tail _ step inductionHypothesis =>
        obtain ⟨suffix, braced⟩ := inductionHypothesis
        obtain ⟨consumed, split, _⟩ := step.again
        refine ⟨.trans ⟨consumed, split.symm⟩ suffix, ?_⟩
        exact step.braced (noScope _ ((List.mem_tails _ _).2 suffix)) braced
  rintro ⟨state, run, frame, member, noBraces⟩
  rw [(kept state run).2 frame member] at noBraces
  cases noBraces

/-! ## Both sources -/

/-- The outline of two sources behind one another is that of the first and
that of the second, if the first one ends like a declaration and opens no
namespace without braces. -/
theorem readOutline_append {first second : List Token}
    {firstOutline secondOutline : Outline}
    (ends : first = [] ∨ endsDeclaration first = true)
    (noFileScope : ¬ OpensFileScope first)
    (firstRead : readOutline first = .ok firstOutline)
    (secondRead : readOutline second = .ok secondOutline) :
    readOutline (first ++ second) = .ok (firstOutline ++ secondOutline) := by
  obtain ⟨⟨frames, members, rest⟩, firstRun, finished, closed⟩ :=
    exists_run_of_outline ⟨[], [], first⟩ firstRead
  change rest = [] at finished
  subst finished
  have braced : ∀ frame ∈ frames, frame.opening.isBraced = true := by
    intro frame member
    by_contra noBraces
    rw [Bool.not_eq_true] at noBraces
    exact noFileScope ⟨_, firstRun, frame, member, noBraces⟩
  cases frames_eq_nil_of_closeAll braced closed
  cases closed
  obtain ⟨behind, resumed, front⟩ := Run.append firstRun rfl ends
    (exists_of_skipMember_of_value secondRead)
  have whole := (Run.outline_eq front).trans
    (Run.outline_eq (resumed.run members)).symm
  -- The rest is the run of the second source, behind the first members.
  obtain ⟨final, secondRun, secondFinished, secondClosed⟩ :=
    exists_run_of_outline ⟨[], [], second⟩ secondRead
  have behindFirst := Run.within secondRun [] members rfl
  refine whole.trans ((Run.outline_eq behindFirst).trans ?_)
  rw [ReaderState.outline, ReaderState.within, secondFinished,
    readFrom.eq_def]
  exact closeAll_surround secondClosed

def propertySource : List Token :=
  [⟨"", .word "namespace"⟩, ⟨" ", .word "N"⟩, ⟨" ", .mark '\x7b'⟩,
    ⟨" ", .word "class"⟩, ⟨" ", .word "A"⟩, ⟨"", .mark ';'⟩,
    ⟨" ", .mark '\x7d'⟩, ⟨" ", .word "int"⟩, ⟨" ", .word "P"⟩,
    ⟨" ", .mark '\x7b'⟩, ⟨" ", .word "get"⟩, ⟨"", .mark ';'⟩,
    ⟨" ", .mark '\x7d'⟩]

def valueSource : List Token :=
  [⟨"", .mark '='⟩, ⟨" ", .literal "5"⟩, ⟨"", .mark ';'⟩,
    ⟨" ", .word "enum"⟩, ⟨" ", .word "E"⟩, ⟨" ", .mark '\x7b'⟩,
    ⟨" ", .word "X"⟩, ⟨" ", .mark '\x7d'⟩]

def propertyOutline : Outline :=
  [.scope "N" [.type ⟨.classWord, "A", none, []⟩ []]]

def valueOutline : Outline :=
  [.enumeration ⟨"E", [], ["X"]⟩]

theorem propertySource_append_valueSource :
    endsDeclaration propertySource = true ∧ ¬ OpensFileScope propertySource ∧
      readOutline propertySource = .ok propertyOutline ∧
        readOutline valueSource = .ok valueOutline ∧
          readOutline (propertySource ++ valueSource) =
            .ok (propertyOutline ++ valueOutline) := by
  have ends : endsDeclaration propertySource = true := by
    decide +kernel
  have noFileScope : ¬ OpensFileScope propertySource :=
    not_opensFileScope (by decide +kernel)
  have firstRead : readOutline propertySource = .ok propertyOutline := by
    decide +kernel
  have secondRead : readOutline valueSource = .ok valueOutline := by
    decide +kernel
  exact ⟨ends, noFileScope, firstRead, secondRead,
    readOutline_append (.inr ends) noFileScope firstRead secondRead⟩

end ClassDiagram.Reading
