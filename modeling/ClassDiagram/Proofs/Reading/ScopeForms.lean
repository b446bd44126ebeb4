import ClassDiagram.Proofs.Reading.LocalSteps
import ClassDiagram.Proofs.Reading.Surroundings

/-!
# Two forms of a namespace

A namespace without braces runs to the end of the source, one in braces to
the brace that closes it.  Everything that the reader does in the first form
it does in the second one as well: the end of the source and a closing brace
are the same to every routine that may come to them.  So the members of the
one are the members of the other, unless they bring a further namespace with
them, which may be without braces in turn.
-/

namespace ClassDiagram.Reading

open Source (Token Lexeme)

/-! ## Names of namespaces -/

inductive IsDottedName : String → List Token → Prop
  | word {name : String} {token : Token}
      (named : word? token = some name) :
      IsDottedName name [token]
  | further {name part : String} {front : List Token} {dot next : Token}
      (frontNamed : IsDottedName name front)
      (isDot : dot.isMark '.' = true) (named : word? next = some part) :
      IsDottedName (name ++ "." ++ part) (front ++ [dot, next])

theorem IsDottedName.readDottedName_append {name : String}
    {tokens : List Token} (isName : IsDottedName name tokens)
    (rest : List Token) :
    readDottedName (tokens ++ rest) = readNameParts name rest := by
  induction isName generalizing rest with
  | word named =>
      rw [List.singleton_append, readDottedName, expectWord_of_word named]
  | further _ isDot named inductionHypothesis =>
      rw [List.append_assoc, inductionHypothesis]
      exact readNameParts_further isDot named rest

theorem IsDottedName.readScopeOpening_file {name : String}
    {tokens : List Token} {semicolon : Token}
    (isName : IsDottedName name tokens)
    (separates : semicolon.isMark ';' = true) (rest : List Token) :
    readScopeOpening (tokens ++ semicolon :: rest) =
      .ok (.file name, rest) := by
  have noDot : atMark '.' (semicolon :: rest) = false :=
    isMark_unique separates (by decide)
  have isFile : atMark ';' (semicolon :: rest) = true := separates
  rw [readScopeOpening, isName.readDottedName_append,
    readNameParts_last noDot]
  simp only [isFile, if_true, List.tail_cons]

theorem IsDottedName.readScopeOpening_block {name : String}
    {tokens : List Token} {opening : Token}
    (isName : IsDottedName name tokens)
    (opens : opening.isMark '\x7b' = true) (rest : List Token) :
    readScopeOpening (tokens ++ opening :: rest) =
      .ok (.block name, rest) := by
  have noDot : atMark '.' (opening :: rest) = false :=
    isMark_unique opens (by decide)
  have noFile : atMark ';' (opening :: rest) = false :=
    isMark_unique opens (by decide)
  rw [readScopeOpening, isName.readDottedName_append,
    readNameParts_last noDot]
  simp only [noFile, Bool.false_eq_true, if_false, expectMark_of_isMark opens]
  rfl

/-! ## Members without a namespace -/

/-- The word that begins a namespace is not among the tokens. -/
def NoScopeWord (tokens : List Token) : Prop :=
  ∀ token ∈ tokens, token.isWord "namespace" = false

/-- Only bodies of types are open. -/
def OnlyTypes (frames : Frames) : Prop :=
  ∀ frame ∈ frames, ∃ header, frame.opening = .type header

theorem Step.onlyTypes {state next : ReaderState} (step : Step state next)
    (noWord : NoScopeWord state.tokens) (onlyTypes : OnlyTypes state.frames) :
    NoScopeWord next.tokens ∧ OnlyTypes next.frames := by
  constructor
  · obtain ⟨consumed, split, _⟩ := step.again
    rw [split] at noWord
    exact fun token member =>
      noWord token (List.mem_append_right consumed member)
  · cases step with
    | close =>
        exact fun frame member =>
          onlyTypes frame (List.mem_cons_of_mem _ member)
    | separate =>
        exact onlyTypes
    | enter scopeWord =>
        rw [noWord _ List.mem_cons_self] at scopeWord
        cases scopeWord
    | @member _ _ _ _ _ member =>
        cases member with
        | leftOut | complete =>
            exact onlyTypes
        | opened header =>
            exact List.forall_mem_cons.2 ⟨⟨header, rfl⟩, onlyTypes⟩

theorem Run.onlyTypes {state final : ReaderState} (run : Run state final)
    (noWord : NoScopeWord state.tokens) (onlyTypes : OnlyTypes state.frames) :
    NoScopeWord final.tokens ∧ OnlyTypes final.frames := by
  induction run with
  | refl =>
      exact ⟨noWord, onlyTypes⟩
  | tail _ step inductionHypothesis =>
      exact step.onlyTypes inductionHypothesis.1 inductionHypothesis.2

/-- No type may be open at the end of a source. -/
theorem OnlyTypes.frames_eq_nil {outer frames : Frames}
    {earlier members : List Declaration} {outline : Outline}
    (onlyTypes : OnlyTypes frames)
    (closed : closeAll (surround outer earlier frames members).1
      (surround outer earlier frames members).2 = .ok outline) :
    frames = [] := by
  cases frames with
  | nil =>
      rfl
  | cons frame frames =>
      obtain ⟨opening, before⟩ := frame
      obtain ⟨header, isType⟩ := onlyTypes _ List.mem_cons_self
      cases isType
      cases closed

/-- The members of a namespace without braces, none of them a namespace, are
read alike in front of a closing brace. -/
theorem exists_run_of_file {name : String} {body : List Token}
    {outline : Outline} {closing : Token}
    (closes : closing.isMark '\x7d' = true) (noWord : NoScopeWord body)
    (read : readFrom [⟨.file name, []⟩] [] body = .ok outline) :
    ∃ members : List Declaration, outline = [.scope name members.reverse] ∧
      Run ⟨[], [], body ++ [closing]⟩ ⟨[], members, [closing]⟩ := by
  obtain ⟨final, fileRun, finished, closed⟩ :=
    exists_run_of_outline ⟨[⟨.file name, []⟩], [], body⟩ read
  -- Nothing closes the namespace, so its members are read as a whole source.
  have moved : ∃ above : ReaderState,
      final = above.within [⟨.file name, []⟩] [] ∧
        Run (ReaderState.within ⟨[], [], body⟩ [] []) (above.within [] []) :=
    Run.moved rfl rfl rfl fileRun
  obtain ⟨⟨frames, members, rest⟩, rfl, run⟩ := moved
  rw [ReaderState.within_nothing, ReaderState.within_nothing] at run
  obtain ⟨_, onlyTypes⟩ := Run.onlyTypes run noWord nofun
  cases onlyTypes.frames_eq_nil closed
  change rest = [] at finished
  subst finished
  obtain ⟨consumed, split, again⟩ := Run.again run
  rw [List.append_nil] at split
  refine ⟨members, ?_, ?_⟩
  · simp only [ReaderState.within, surround, closeAll, List.append_nil,
      List.reverse_singleton] at closed
    cases closed
    rfl
  · have alike : ResumesAlike [] [closing] :=
      ⟨closes.symm, (isMark_unique closes (by decide)).symm,
        (isMark_unique closes (by decide)).symm⟩
    rw [show body = consumed from split]
    exact again [closing] alike

/-- A source that is one namespace without braces and without a further
namespace has the outline of the same namespace in braces. -/
theorem readOutline_scope_in_braces {name : String}
    {fileName blockName body : List Token} {outline : Outline}
    {fileWord semicolon blockWord opening closing : Token}
    (fileScope : fileWord.isWord "namespace" = true)
    (fileNamed : IsDottedName name fileName)
    (separates : semicolon.isMark ';' = true)
    (blockScope : blockWord.isWord "namespace" = true)
    (blockNamed : IsDottedName name blockName)
    (opens : opening.isMark '\x7b' = true)
    (closes : closing.isMark '\x7d' = true)
    (noWord : ∀ token ∈ body, token.isWord "namespace" = false)
    (read : readOutline (fileWord :: (fileName ++ semicolon :: body)) =
      .ok outline) :
    readOutline (blockWord :: (blockName ++ opening :: (body ++ [closing]))) =
      .ok outline := by
  have fileEntered : Step ⟨[], [], fileWord :: (fileName ++ semicolon :: body)⟩
      ⟨[⟨.file name, []⟩], [], body⟩ :=
    .enter fileScope rfl (fileNamed.readScopeOpening_file separates body)
  obtain ⟨members, rfl, run⟩ := exists_run_of_file closes noWord
    (fileEntered.outline_eq.symm.trans read)
  have blockEntered :
      Step ⟨[], [], blockWord :: (blockName ++ opening :: (body ++ [closing]))⟩
        ⟨[⟨.block name, []⟩], [], body ++ [closing]⟩ :=
    .enter blockScope rfl (blockNamed.readScopeOpening_block opens _)
  have inBlock : Run ⟨[⟨.block name, []⟩], [], body ++ [closing]⟩
      ⟨[⟨.block name, []⟩], members ++ [], [closing]⟩ :=
    Run.within run [⟨.block name, []⟩] [] rfl
  rw [List.append_nil] at inBlock
  have left : Step ⟨[⟨.block name, []⟩], members, [closing]⟩
      ⟨[], [.scope name members.reverse], []⟩ :=
    .close closes rfl
  have whole := Run.outline_eq ((inBlock.head blockEntered).tail left)
  refine whole.trans ?_
  rw [ReaderState.outline, readFrom.eq_def]
  rfl

/-- A class, a member with an open angle bracket that the end of the source
ends, and a modifier that nothing follows. -/
def unendedBody : List Token :=
  [⟨" ", .word "class"⟩, ⟨" ", .word "A"⟩, ⟨" ", .mark '\x7b'⟩,
    ⟨" ", .word "int"⟩, ⟨" ", .word "F"⟩, ⟨"", .mark '('⟩, ⟨"", .mark ')'⟩,
    ⟨" ", .arrow⟩, ⟨" ", .literal "0"⟩, ⟨"", .mark ';'⟩,
    ⟨" ", .mark '\x7d'⟩, ⟨" ", .word "List"⟩, ⟨"", .mark '<'⟩,
    ⟨"", .word "int"⟩, ⟨" ", .word "public"⟩]

def unendedName : List Token :=
  [⟨" ", .word "N"⟩, ⟨"", .mark '.'⟩, ⟨"", .word "M"⟩]

def unendedOutline : Outline :=
  [.scope "N.M" [.type ⟨.classWord, "A", none, []⟩
    [.method ⟨"F", "int", [], []⟩]]]

theorem unendedBody_in_braces :
    readOutline (⟨"", .word "namespace"⟩ ::
        (unendedName ++ ⟨"", .mark ';'⟩ :: unendedBody)) =
          .ok unendedOutline ∧
      readOutline (⟨"", .word "namespace"⟩ :: (unendedName ++
        ⟨" ", .mark '\x7b'⟩ :: (unendedBody ++ [⟨" ", .mark '\x7d'⟩]))) =
          .ok unendedOutline := by
  have firstPart : IsDottedName "N" [⟨" ", .word "N"⟩] :=
    .word rfl
  have isName : IsDottedName ("N" ++ "." ++ "M") unendedName :=
    firstPart.further rfl rfl
  have read : readOutline (⟨"", .word "namespace"⟩ ::
      (unendedName ++ ⟨"", .mark ';'⟩ :: unendedBody)) =
        .ok unendedOutline := by
    decide +kernel
  exact ⟨read, readOutline_scope_in_braces rfl isName rfl rfl isName rfl rfl
    (by decide +kernel) read⟩

end ClassDiagram.Reading
