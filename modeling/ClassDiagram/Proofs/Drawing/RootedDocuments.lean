import ClassDiagram.Proofs.Drawing.DocumentLines
import ClassDiagram.Proofs.Reading.RootedScopes

/-!
# Documents below a root

A root that passes its check need not be a name that a source can have: the
check goes by letters and numbers, a source by identifiers.  Where the
segments of the root are identifiers, a namespace right below the root is
drawn as its package.  Where one of them is not, no source can declare the
namespace.
-/

namespace ClassDiagram

open Reading
open Source (Spelled tokenizeFrom)

def rootedSource (root name : String) : String :=
  "namespace " ++ root ++ "." ++ name ++ " \x7b class C \x7b \x7d \x7d"

def rootedLines (root name : String) : List String :=
  startMarker :: "allow_mixing" ::
    (breadcrumbLines (rootSegments root) ++
      [arrowLine ((rootSegments root).getLastD "") name,
        "package " ++ name ++ " \x7b", "class C \x7b", closingLine,
        closingLine, endMarker])

def lonelyClass : Declaration :=
  .type ⟨.classWord, "C", none, []⟩ []

/-! ## The segments of a root -/

/-- Every segment with a mark behind it, the text is whole again. -/
theorem flatMap_segments_mark (mark : Char) (text : List Char) :
    (Text.segments mark text).flatMap (· ++ [mark]) = text ++ [mark] := by
  induction text with
  | nil =>
      rfl
  | cons c rest inductionHypothesis =>
      by_cases isMark : c = mark
      · subst isMark
        rw [Text.segments_mark, List.flatMap_cons, inductionHypothesis]
        rfl
      · obtain ⟨first, others, cut⟩ := List.exists_cons_of_ne_nil
          (Text.segments_ne_nil mark rest)
        rw [Text.segments_of_ne isMark rest first others cut,
          List.flatMap_cons]
        rw [cut, List.flatMap_cons] at inductionHypothesis
        rw [List.cons_append, List.cons_append, inductionHypothesis,
          List.cons_append]

theorem dottedFront_rootSegments {root : String} (something : root ≠ "") :
    dottedFront (rootSegments root) = root.toList ++ ['.'] := by
  have notEmpty : root.isEmpty = false := by
    rw [Bool.eq_false_iff]
    exact fun empty => something (String.isEmpty_iff.1 empty)
  rw [rootSegments, notEmpty, if_neg Bool.false_ne_true, dottedFront,
    List.flatMap_map, ← flatMap_segments_mark]
  simp [Text.dotSegments]

theorem dottedFront_eq {segments : List String} (some : segments ≠ []) :
    dottedFront segments = (dottedText segments).toList ++ ['.'] := by
  induction segments with
  | nil =>
      exact absurd rfl some
  | cons segment others inductionHypothesis =>
      cases others with
      | nil =>
          simp [dottedFront, dottedText]
      | cons next further =>
          have later := inductionHypothesis (List.cons_ne_nil _ _)
          rw [dottedFront, List.flatMap_cons]
          change _ ++ dottedFront (next :: further) = _
          rw [later, dottedText, dottedText, String.intercalate_cons_cons]
          simp

/-- A root is put together from its segments. -/
theorem dottedText_rootSegments {root : String} (something : root ≠ "") :
    rootSegments root ≠ [] ∧ dottedText (rootSegments root) = root := by
  have front := dottedFront_rootSegments something
  have some : rootSegments root ≠ [] := by
    intro none
    rw [none] at front
    exact List.cons_ne_nil _ _ (List.append_eq_nil_iff.1 front.symm).2
  rw [dottedFront_eq some] at front
  exact ⟨some, String.toList_inj.1 (List.append_cancel_right front)⟩

/-! ## A root that a source can have -/

/-- The module of a name right below a root is the name. -/
theorem moduleName_rooted {root : String} (something : root ≠ "")
    (name : String) :
    moduleName root (root ++ "." ++ name) = .ok name := by
  have notEmpty : root.isEmpty = false := by
    rw [Bool.eq_false_iff]
    exact fun empty => something (String.isEmpty_iff.1 empty)
  have split : (root ++ "." ++ name).toList =
      root.toList ++ '.' :: name.toList := by
    rw [String.toList_append, String.toList_append, List.append_assoc]
    rfl
  have prefixed : root.toList.isPrefixOf? (root.toList ++ '.' :: name.toList) =
      some ('.' :: name.toList) :=
    List.isPrefixOf?_eq_some_iff_append_eq.2 rfl
  have here : RootSearch.search root.toList true
      (root.toList ++ '.' :: name.toList) = .followedBy name.toList := by
    obtain ⟨first, rest, cut⟩ := List.exists_cons_of_ne_nil
      (List.append_ne_nil_of_right_ne_nil root.toList
        (List.cons_ne_nil '.' name.toList))
    rw [cut] at prefixed ⊢
    rw [RootSearch.search, if_pos rfl, RootSearch.here?, prefixed]
    rfl
  rw [moduleName, notEmpty, if_neg Bool.false_ne_true, split, here]
  exact congrArg Except.ok String.ofList_toList

/-- The class as it is printed inside the namespace. -/
theorem printed_rooted (root name : String) :
    (Declaration.scope (root ++ "." ++ name) [lonelyClass]).printed =
      rootedSource root name := by
  have members : Declaration.printedAll " " [lonelyClass] =
      " class C \x7b \x7d" := by
    decide
  have body : " \x7b" ++ (" class C \x7b \x7d" ++ " \x7d") =
      " \x7b class C \x7b \x7d \x7d" := by
    decide
  rw [Declaration.printed, members, rootedSource]
  simp only [String.append_assoc, body]

/-- The source has the outline that it is printed from. -/
theorem readSource_rooted {root name : String} (something : root ≠ "")
    (identifiers : ∀ segment ∈ rootSegments root,
      Text.isIdentifier segment.toList = true)
    (named : Text.isIdentifier name.toList = true) :
    readSource (rootedSource root name) =
      .ok [.scope (root ++ "." ++ name) [lonelyClass]] := by
  obtain ⟨some, joined⟩ := dottedText_rootSegments something
  obtain ⟨first, others, cut⟩ := List.exists_cons_of_ne_nil some
  have whole : dottedText (first :: (others ++ [name])) =
      root ++ "." ++ name := by
    rw [← List.cons_append, ← cut, dottedText_concat some, joined]
  have partsNamed : ∀ part ∈ first :: (others ++ [name]),
      Text.isIdentifier part.toList = true := by
    rw [← List.cons_append, ← cut, List.forall_mem_append]
    exact ⟨identifiers, List.forall_mem_singleton.2 named⟩
  obtain ⟨tokens, isClass⟩ :
      ∃ tokens, IsDeclarationOf " " false lonelyClass tokens :=
    isDeclarationOf_type Source.isBlankText_space
      ⟨by decide, by decide, nofun⟩ (areDeclarationsOf_nil " " true)
  have separates : ∀ rest, Source.EndsIdentifier (" ".toList ++ rest) :=
    Source.endsIdentifier_sign (by decide)
  have areMembers := isClass.cons separates (areDeclarationsOf_nil " " false)
  have isScope := isDeclarationOf_scope Source.isBlankText_empty partsNamed
    areMembers
  have spelled := isScope.spells.before .done (by simp [Source.EndsIdentifier])
  have run := isScope.run [] [] [] rfl rfl
  simp only [List.append_nil, whole, printed_rooted] at spelled run
  rw [readSource_ok_iff]
  refine ⟨_, spelled.tokenize_eq, run.outline_eq.trans ?_⟩
  unfold ReaderState.outline
  rw [readFrom.eq_def]
  rfl

theorem drawOutlines_rooted {root : String} (something : root ≠ "")
    (name : String) :
    drawOutlines root [[.scope (root ++ "." ++ name) [lonelyClass]]] =
      .ok [⟨some name, ["class C \x7b", closingLine]⟩] := by
  have line : typeLine ⟨.classWord, "C", none, []⟩ = "class C \x7b" := by
    decide
  simp [drawOutlines, drawAll, drawDeclaration, Place.qualify,
    Place.insideScope, moduleName_rooted something name, lonelyClass,
    openModule, addLine, addModuleLine, line]

theorem documentText_rooted {root : String} (something : root ≠ "")
    (name : String) :
    documentText { root := root }
        [⟨some name, ["class C \x7b", closingLine]⟩] =
      linesText (rootedLines root name) := by
  obtain ⟨some, -⟩ := dottedText_rootSegments something
  have isLast := List.getLast?_eq_some_getLast some
  rw [documentText_eq rfl, documentItems, rootedLines,
    List.getLastD_eq_getLast?, isLast]
  simp [sectionLines, packageDecoration, Settings.segments, isLast]

/-! ## A root that no source can have -/

/-- The source below a valid root has no directives. -/
theorem firstBranches_rooted {root name : String} (something : root ≠ "")
    (valid : validateRoot root = .ok ())
    (named : Text.isIdentifier name.toList = true) :
    Source.firstBranches (rootedSource root name) =
      rootedSource root name := by
  have isSign : Text.isSign '#' = true := by
    decide
  have inRoot : '#' ∉ root.toList ++ ['.'] := by
    rw [← dottedFront_rootSegments something]
    intro member
    obtain ⟨segment, segmentMember, inSegment⟩ := List.mem_flatMap.1 member
    rcases List.mem_append.1 inSegment with inside | dot
    · exact not_mem_of_isSegment
        (isSegment_of_validateRoot valid segment segmentMember) isSign
        inside
    · revert dot
      decide
  have inName : '#' ∉ name.toList :=
    Text.not_mem_of_isIdentifier named isSign
  have noSign : Source.hasNumberSign (rootedSource root name) = false := by
    simp only [Source.hasNumberSign, rootedSource, String.toList_append]
    simp at inRoot
    simp [inRoot, inName]
  rw [Source.firstBranches, noSign]
  rfl

/-- If the source can be read, the segments of the root are identifiers. -/
theorem identifiers_of_readSource {root name : String} (something : root ≠ "")
    (valid : validateRoot root = .ok ())
    (named : Text.isIdentifier name.toList = true) {outline : Outline}
    (read : readSource (rootedSource root name) = .ok outline) :
    ∀ segment ∈ rootSegments root,
      Text.isIdentifier segment.toList = true := by
  obtain ⟨source, tokenized, outlineRead⟩ := readSource_ok_iff.1 read
  rw [firstBranches_rooted something valid named] at tokenized
  have cut := Source.tokenizeFrom_of_tokenize tokenized
  have split : (rootedSource root name).toList =
      "".toList ++ ("namespace".toList ++ ' ' ::
        (dottedFront (rootSegments root) ++ (name.toList ++
          " \x7b class C \x7b \x7d \x7d".toList))) := by
    rw [dottedFront_rootSegments something, rootedSource]
    simp
  rw [split] at cut
  obtain ⟨later, cutBehind, tokens⟩ :=
    Source.exists_of_tokenizeFrom_word Source.isBlankText_empty
      (isIdentifier_of_isAsciiIdentifier (by decide))
      (Source.endsIdentifier_sign (by decide) _) cut
  rw [tokens] at outlineRead
  -- The keyword leaves the reader no other step than into the namespace.
  obtain ⟨next, step⟩ :
      ∃ next, Step ⟨[], [], ⟨"", .word "namespace"⟩ :: later.tokens⟩ next :=
    exists_step_of_outline (List.cons_ne_nil _ _) outlineRead
  cases step with
  | separate separator =>
      cases separator
  | enter scopeWord outside scopeRead =>
      exact identifiers_of_readScopeOpening
        (isSegment_of_validateRoot valid) cutBehind scopeRead
  | member inside noSeparator noScope memberRead =>
      cases noScope

/-- A root that passes its check is a name that a source can have exactly if
its segments are identifiers.  A class in a namespace right below it is then
drawn in the package of the namespace; otherwise the source is refused. -/
theorem diagramOf_rooted {root name : String} (something : root ≠ "")
    (valid : validateRoot root = .ok ())
    (named : isAsciiIdentifier name.toList = true) :
    ((∀ segment ∈ rootSegments root,
        Text.isIdentifier segment.toList = true) →
      diagramOf [rootedSource root name] root =
        .ok (linesText (rootedLines root name))) ∧
    ((∃ segment ∈ rootSegments root,
        Text.isIdentifier segment.toList = false) →
      ∃ fault place, diagramOf [rootedSource root name] root =
        .error (.source fault place)) := by
  have identifier := isIdentifier_of_isAsciiIdentifier named
  constructor
  · intro identifiers
    have read := readSource_rooted something identifiers identifier
    have allRead : readSources [rootedSource root name] =
        .ok [[.scope (root ++ "." ++ name) [lonelyClass]]] := by
      rw [readSources, read]
      rfl
    rw [diagramOf, renderSources_of_read allRead, renderOutlines,
      Settings.validate, valid, drawOutlines_rooted something name]
    exact congrArg Except.ok (documentText_rooted something name)
  · rintro ⟨segment, member, noIdentifier⟩
    rw [diagramOf, renderSources, Settings.validate, valid]
    dsimp only
    rw [readSources]
    cases read : readSource (rootedSource root name) with
    | error error =>
        obtain ⟨fault, place, rfl⟩ := exists_of_readSource_error read
        exact ⟨fault, place, rfl⟩
    | ok outline =>
        rw [identifiers_of_readSource something valid identifier read segment
          member] at noIdentifier
        cases noIdentifier

/-- A root with a letter outside of ASCII and a keyword as segments, and one
with a superscript. -/
theorem greekRoot_drawn :
    validateRoot "Ωmega.class" = .ok () ∧
      isAsciiIdentifier "X".toList = true ∧
      diagramOf ["namespace Ωmega.class.X \x7b class C \x7b \x7d \x7d"]
          "Ωmega.class" =
        .ok (linesText ["@startuml", "allow_mixing", "artifact Ωmega",
          "artifact class", "Ωmega --> class", "class --> X",
          "package X \x7b", "class C \x7b", "\x7d", "\x7d", "@enduml"]) ∧
      validateRoot "A²" = .ok () ∧
      ∃ fault place, diagramOf
          ["namespace A².X \x7b class C \x7b \x7d \x7d"] "A²" =
        .error (.source fault place) := by
  have named : isAsciiIdentifier "X".toList = true := by
    decide +kernel
  have greek : validateRoot "Ωmega.class" = .ok () := by
    decide +kernel
  have squared : validateRoot "A²" = .ok () := by
    decide +kernel
  have drawn := (diagramOf_rooted (by decide) greek named).1
    (by decide +kernel)
  have refused := (diagramOf_rooted (by decide) squared named).2
    ⟨"A²", by decide +kernel, by decide +kernel⟩
  have greekSource : rootedSource "Ωmega.class" "X" =
      "namespace Ωmega.class.X \x7b class C \x7b \x7d \x7d" := by
    decide +kernel
  have squaredSource : rootedSource "A²" "X" =
      "namespace A².X \x7b class C \x7b \x7d \x7d" := by
    decide +kernel
  rw [greekSource] at drawn
  rw [squaredSource] at refused
  refine ⟨greek, named, ?_, squared, refused⟩
  rw [drawn]
  decide +kernel

/-- A root with a superscript passes its check, but no source can declare a
namespace below it. -/
theorem squaredRoot_refused :
    validateRoot "A²" = .ok () ∧
      isAsciiIdentifier "X".toList = true ∧
      diagramOf ["namespace A².X \x7b class C \x7b \x7d \x7d"] "A²" =
        .error (.source
          (.unexpected (.missingMark '\x7b') (some (.mark '²'))) ⟨1, 12⟩) := by
  decide +kernel

end ClassDiagram
