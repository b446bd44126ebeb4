import ClassDiagram.Proofs.Drawing.NestedLines

/-!
# Nested documents

A declaration that lies in no type adds its lines to one section and all at
once, so every section is nested if the lines of every declaration are.  A
package begins only where nothing else is open.
-/

namespace ClassDiagram

open Declaration (WellPlaced AllWellPlaced)
open Text (Brackets)

/-! ## Lines that are added together -/

def addLines (module : Option String) (lines : List String)
    (sections : Sections) : Sections :=
  lines.foldl (fun drawn line => addLine module line drawn) sections

theorem addLines_append (module : Option String)
    (lines others : List String) (sections : Sections) :
    addLines module (lines ++ others) sections =
      addLines module others (addLines module lines sections) :=
  List.foldl_append

/-- The section of a module takes all the lines. -/
theorem addLines_module (module : String) (lines : List String)
    (sections : Sections) :
    addLines (some module) lines sections =
      sections.map fun s =>
        if s.module = some module then ⟨s.module, s.lines ++ lines⟩ else s := by
  induction lines generalizing sections with
  | nil =>
      refine ((List.map_congr_left fun s _ => ?_).trans
        (List.map_id sections)).symm
      split
      · rw [List.append_nil]
        rfl
      · rfl
  | cons line others inductionHypothesis =>
      have added : addLines (some module) (line :: others) sections =
          addLines (some module) others
            (addModuleLine module line sections) := rfl
      rw [added, inductionHypothesis, addModuleLine, List.map_map]
      refine List.map_congr_left fun s _ => ?_
      by_cases own : s.module = some module
      · simp [own]
      · simp [own]

theorem addLooseLine_loose (before : Sections) (lines : List String)
    (line : String) :
    addLooseLine line (before ++ [⟨none, lines⟩]) =
      before ++ [⟨none, lines ++ [line]⟩] := by
  induction before with
  | nil =>
      rfl
  | cons first others inductionHypothesis =>
      cases others with
      | nil =>
          rfl
      | cons second rest =>
          exact congrArg (first :: ·) inductionHypothesis

theorem addLines_loose (before : Sections) (run lines : List String) :
    addLines none lines (before ++ [⟨none, run⟩]) =
      before ++ [⟨none, run ++ lines⟩] := by
  induction lines generalizing run with
  | nil =>
      rw [List.append_nil]
      rfl
  | cons line others inductionHypothesis =>
      have added : addLines none (line :: others) (before ++ [⟨none, run⟩]) =
          addLines none others
            (addLooseLine line (before ++ [⟨none, run⟩])) := rfl
      rw [added, addLooseLine_loose, inductionHypothesis, List.append_assoc]
      rfl

/-- Sections that end with a package, or with a run of loose lines. -/
theorem endsWithPackage_or_loose (sections : Sections) :
    EndsWithPackage sections ∨
      ∃ before run, sections = before ++ [⟨none, run⟩] := by
  rcases List.eq_nil_or_concat' sections with rfl | ⟨before, last, rfl⟩
  · exact .inl nofun
  · obtain ⟨module, lines⟩ := last
    cases module with
    | none =>
        exact .inr ⟨before, lines, rfl⟩
    | some module =>
        refine .inl fun drawn isLast => ?_
        rw [List.getLast?_concat] at isLast
        cases isLast
        rfl

def SectionsNest (sections : Sections) : Prop :=
  ∀ drawn ∈ sections, Nest (brokenTexts drawn.lines)

theorem SectionsNest.openModule {sections : Sections}
    (nest : SectionsNest sections) (module : String) :
    SectionsNest (openModule module sections) := by
  unfold ClassDiagram.openModule
  split
  · exact nest
  · rw [SectionsNest, List.forall_mem_append]
    exact ⟨nest, List.forall_mem_singleton.2 nest_nil⟩

/-- Nested lines that are added together leave the sections nested. -/
theorem SectionsNest.addLines {sections : Sections}
    (nest : SectionsNest sections) {lines : List String}
    (linesNest : Nest (brokenTexts lines)) (module : Option String) :
    SectionsNest (addLines module lines sections) := by
  have extended {drawn : Section} (member : drawn ∈ sections) :
      Nest (brokenTexts (drawn.lines ++ lines)) := by
    rw [brokenTexts_append]
    exact (nest drawn member).append linesNest
  cases module with
  | some module =>
      rw [addLines_module, SectionsNest, List.forall_mem_map]
      intro drawn member
      split
      · exact extended member
      · exact nest drawn member
  | none =>
      rcases endsWithPackage_or_loose sections with ending | ⟨before, run, rfl⟩
      · cases lines with
        | nil =>
            exact nest
        | cons line others =>
            -- The first line begins a run, and the others go on with it.
            have first := addLooseLine_append ending [] line
            rw [looseSection, List.append_nil, List.nil_append] at first
            have added : ClassDiagram.addLines none (line :: others) sections =
                ClassDiagram.addLines none others
                  (addLooseLine line sections) := rfl
            rw [added, first, looseSection, addLines_loose, SectionsNest,
              List.forall_mem_append]
            exact ⟨nest, List.forall_mem_singleton.2 linesNest⟩
      · rw [addLines_loose, SectionsNest, List.forall_mem_append]
        have last : (⟨none, run⟩ : Section) ∈ before ++ [⟨none, run⟩] :=
          List.mem_append_right _ List.mem_cons_self
        exact ⟨fun drawn member => nest drawn (List.mem_append_left _ member),
          List.forall_mem_singleton.2 (extended last)⟩

/-! ## Drawing -/

mutual

/-- Inside a type a declaration adds its lines where the type adds its own. -/
theorem drawDeclaration_insideType (root : String) (place : Place)
    (inside : place.insideType = true) (sections drawn : Sections) :
    ∀ declaration : Declaration,
      drawDeclaration root place declaration sections = .ok drawn →
        drawn = addLines place.module declaration.drawnLines sections
  | .scope name members, accepted => by
      simp only [drawDeclaration, inside, if_true] at accepted
      cases accepted
  | .type header members, accepted => by
      simp only [drawDeclaration] at accepted
      split at accepted
      · cases accepted
      · rename_i between membersDrawn
        cases accepted
        have inner := drawAll_insideType root
          { place with insideType := true } rfl _ between members
          membersDrawn
        rw [Declaration.drawnLines, inner]
        exact (addLines_append place.module
          (typeLine header :: _) [closingLine] sections).symm
  | .enumeration declared, accepted => by
      simp only [drawDeclaration] at accepted
      cases accepted
      rfl
  | .method declared, accepted => by
      simp only [drawDeclaration, inside, if_true] at accepted
      cases accepted
      rfl

theorem drawAll_insideType (root : String) (place : Place)
    (inside : place.insideType = true) (sections drawn : Sections) :
    ∀ declarations : List Declaration,
      drawAll root place declarations sections = .ok drawn →
        drawn = addLines place.module
          (Declaration.allDrawnLines declarations) sections
  | [], accepted => by
      rw [drawAll] at accepted
      cases accepted
      rfl
  | first :: others, accepted => by
      rw [drawAll] at accepted
      split at accepted
      · cases accepted
      · rename_i between firstDrawn
        have here := drawDeclaration_insideType root place inside sections
          between first firstDrawn
        have later := drawAll_insideType root place inside between drawn others
          accepted
        rw [later, here, Declaration.allDrawnLines, addLines_append]

end

mutual

/-- A declaration outside of types leaves the sections nested. -/
theorem drawDeclaration_nest (root : String) (place : Place)
    (outside : place.insideType = false) (sections drawn : Sections)
    (nest : SectionsNest sections) :
    ∀ declaration : Declaration, declaration.Named →
      (∀ text ∈ declaration.copiedTexts, BreaksQuietly text.toList) →
        drawDeclaration root place declaration sections = .ok drawn →
          SectionsNest drawn
  | .scope name members, named, quiet, accepted => by
      rw [Declaration.copiedTexts] at quiet
      simp only [drawDeclaration] at accepted
      split at accepted
      · cases accepted
      · split at accepted
        · cases accepted
        · rename_i module derived
          exact drawAll_nest root (place.insideScope _ module) outside _ drawn
            (nest.openModule module) members named.2 quiet accepted
  | .type header members, named, quiet, accepted => by
      have lines := nest_drawnLines (.type header members) named quiet
      simp only [drawDeclaration] at accepted
      split at accepted
      · cases accepted
      · rename_i between membersDrawn
        cases accepted
        have inner := drawAll_insideType root
          { place with insideType := true } rfl _ between members
          membersDrawn
        -- Its lines are added one by one, but all to the same section.
        have together := nest.addLines lines place.module
        rw [Declaration.drawnLines, ← List.cons_append, addLines_append]
          at together
        rw [inner]
        exact together
  | .enumeration declared, named, quiet, accepted => by
      have lines := nest_drawnLines (.enumeration declared) named quiet
      simp only [drawDeclaration] at accepted
      cases accepted
      exact nest.addLines lines place.module
  | .method declared, _, _, accepted => by
      rw [drawDeclaration, outside, if_neg Bool.false_ne_true] at accepted
      cases accepted

theorem drawAll_nest (root : String) (place : Place)
    (outside : place.insideType = false) (sections drawn : Sections)
    (nest : SectionsNest sections) :
    ∀ declarations : List Declaration, Declaration.AllNamed declarations →
      (∀ text ∈ Declaration.allCopiedTexts declarations,
        BreaksQuietly text.toList) →
        drawAll root place declarations sections = .ok drawn →
          SectionsNest drawn
  | [], _, _, accepted => by
      rw [drawAll] at accepted
      cases accepted
      exact nest
  | first :: others, named, quiet, accepted => by
      rw [Declaration.allCopiedTexts, List.forall_mem_append] at quiet
      rw [drawAll] at accepted
      split at accepted
      · cases accepted
      · rename_i between firstDrawn
        have here := drawDeclaration_nest root place outside sections between
          nest first named.1 quiet.1 firstDrawn
        exact drawAll_nest root place outside between drawn here others
          named.2 quiet.2 accepted

end

/-! ## Packages -/

/-- Every package begins where nothing else is open. -/
def PackagesOutside (lines : List (List Char)) : Prop :=
  ∀ before line after, lines = before ++ line :: after →
    IsPackageLine line → lineBrackets.depthBehind? 0 before = some 0

/-- Lines whose blocks are nested, with the packages around all others. -/
structure Framed (lines : List (List Char)) : Prop where
  balanced : lineBrackets.Balanced lines
  outside : PackagesOutside lines

theorem Nest.framed {lines : List (List Char)} (nest : Nest lines) :
    Framed lines where
  balanced := nest.balanced
  outside before line after cut package := by
    subst cut
    exact absurd package (nest.noPackage line
      (List.mem_append_right before List.mem_cons_self))

theorem Framed.append {left right : List (List Char)}
    (leftFramed : Framed left) (rightFramed : Framed right) :
    Framed (left ++ right) where
  balanced := leftFramed.balanced.append rightFramed.balanced
  outside before line after cut package := by
    rcases List.append_eq_append_iff.1 cut with
      ⟨behind, rfl, rightCut⟩ | ⟨behind, leftCut, rest⟩
    · rw [Brackets.depthBehind?_append, leftFramed.balanced]
      exact rightFramed.outside behind line after rightCut package
    · cases behind with
      | nil =>
          rw [List.append_nil] at leftCut
          rw [← leftCut]
          exact leftFramed.balanced
      | cons first others =>
          cases rest
          exact leftFramed.outside before line others leftCut package

/-- A package around nested lines. -/
theorem Nest.framed_package {inside : List (List Char)} (nest : Nest inside)
    {line : List Char} (package : IsPackageLine line) :
    Framed (line :: (inside ++ [closingLine.toList])) where
  balanced := nest.balanced.enclosed package.opens closingLine_closes
  outside before other after cut isPackage := by
    cases before with
    | nil =>
        rfl
    | cons first others =>
        have member : other ∈ inside ++ [closingLine.toList] := by
          rw [(List.cons.inj cut).2]
          exact List.mem_append_right others List.mem_cons_self
        rcases List.mem_append.1 member with isInside | isClosing
        · exact absurd isPackage (nest.noPackage other isInside)
        · rw [List.mem_singleton.1 isClosing] at isPackage
          exact absurd isPackage closingLine_not_package

/-! ## Documents -/

theorem IsPathLine.inert {item : String} (path : IsPathLine item) :
    IsInert item.toList := by
  cases path with
  | artifact named =>
      have word : IsInert "artifact ".toList := by
        decide
      rw [String.toList_append]
      exact word.append named.inert
  | arrow sourceNamed targetNamed =>
      have arrow : IsInert " --> ".toList := by
        decide
      rw [arrowLine, String.toList_append, String.toList_append]
      exact (sourceNamed.inert.append arrow).append targetNamed.inert

theorem nest_of_path {items : List String}
    (path : ∀ item ∈ items, IsPathLine item) : Nest (brokenTexts items) := by
  rw [brokenTexts_of_one_line fun item member =>
    (path item member).signed.oneLine]
  apply nest_of_plain
  rw [List.forall_mem_map]
  intro item member
  have inert := (path item member).inert
  exact isPlainLine_of_not_mem (fun occurs => (inert _ occurs).1.1 rfl)
    fun occurs => (inert _ occurs).1.2 rfl

/-- The sections of a module are named as the module. -/
theorem modules_named {root : String} {outlines : List Outline}
    {sections : Sections} (named : Declaration.AllNamed outlines.flatten)
    (accepted : drawOutlines root outlines = .ok sections) :
    ∀ drawn ∈ sections, ∀ module ∈ drawn.module, IsNameText module := by
  intro drawn member module isModule
  rw [drawOutlines_eq_layout accepted] at member
  obtain ⟨block, inLayout, rfl⟩ := List.mem_map.1 member
  cases block with
  | loose lines =>
      cases isModule
  | package name =>
      cases isModule
      have listed : module ∈ (layout (trace root outlines)).filterMap
          Block.module? := List.mem_filterMap.2 ⟨_, inLayout, rfl⟩
      rw [layout, filterMap_module_layoutFrom] at listed
      exact openings_trace_named named module
        (List.mem_of_mem_filter (List.mem_eraseDups.1 listed))

theorem framed_sectionLines {settings : Settings}
    (plain : settings.header = .breadcrumb)
    (rootNamed : ∀ segment ∈ settings.segments, IsNameText segment)
    {drawn : Section} (named : ∀ module ∈ drawn.module, IsNameText module)
    (nest : Nest (brokenTexts drawn.lines)) :
    Framed (brokenTexts (sectionLines settings drawn)) := by
  rw [sectionLines]
  split
  · rename_i module isModule
    have moduleNamed := named module isModule
    have path := packageDecoration_path plain rootNamed moduleNamed
    have opening := brokenText_of_one_line
      (packageLine_signed moduleNamed).oneLine
    have closing := brokenText_of_one_line closingLine_signed.oneLine
    rw [brokenTexts_append, brokenTexts_cons, brokenTexts_append,
      brokenTexts_singleton, opening, closing]
    exact (nest_of_path path).framed.append
      (nest.framed_package ⟨module, moduleNamed, rfl⟩)
  · exact nest.framed

theorem framed_sections {settings : Settings}
    (plain : settings.header = .breadcrumb)
    (rootNamed : ∀ segment ∈ settings.segments, IsNameText segment)
    {sections : Sections}
    (named : ∀ drawn ∈ sections, ∀ module ∈ drawn.module, IsNameText module)
    (nest : SectionsNest sections) :
    Framed (brokenTexts (sections.flatMap (sectionLines settings))) := by
  induction sections with
  | nil =>
      exact nest_nil.framed
  | cons first others inductionHypothesis =>
      obtain ⟨here, later⟩ := List.forall_mem_cons.1 named
      obtain ⟨hereNest, laterNest⟩ := List.forall_mem_cons.1 nest
      rw [List.flatMap_cons, brokenTexts_append]
      exact (framed_sectionLines plain rootNamed here hereNest).append
        (inductionHypothesis later laterNest)

theorem framed_documentItems {settings : Settings}
    {outlines : List Outline} {drawn : Sections}
    (plain : settings.header = .breadcrumb)
    (valid : settings.validate = .ok ())
    (named : Declaration.AllNamed outlines.flatten)
    (quiet : ∀ text ∈ Declaration.allCopiedTexts outlines.flatten,
      BreaksQuietly text.toList)
    (accepted : drawOutlines settings.root outlines = .ok drawn) :
    Framed (brokenTexts (documentItems settings drawn)) := by
  have rootNamed := segments_named valid
  have nest : SectionsNest drawn :=
    drawAll_nest settings.root {} rfl [] drawn nofun _ named quiet accepted
  have front : Nest [startMarker.toList, "allow_mixing".toList] :=
    nest_of_plain (by decide)
  have last : Nest [endMarker.toList] := nest_of_plain (by decide)
  rw [brokenTexts_documentItems]
  exact front.framed.append
    ((nest_of_path (breadcrumbLines_path rootNamed)).framed.append
      ((framed_sections plain rootNamed (modules_named named accepted)
        nest).append last.framed))

/-- A document with the plain header has a line for each of its items: two at
its beginning, the path of the root, the frames of its packages, what is
declared, and the last one.  It has one more for each newline in the texts
that are copied.  Unless a line of a copied text looks like the beginning or
the end of a block, the blocks are nested and the packages lie in no other
block. -/
theorem renderSources_line_structure {settings : Settings}
    {sources : List String} {document : String}
    (plain : settings.header = .breadcrumb)
    (rendered : renderSources settings sources = .ok document) :
    brokenText document = documentLines document ++ [[]] ∧
      ∃ outlines, readSources sources = .ok outlines ∧
        document.toList.count '\n' =
          2 + (2 * settings.segments.length - 1) +
            (openings (trace settings.root outlines)).eraseDups.length *
              (2 + if settings.root.isEmpty then 0 else 1) +
            Declaration.allItemCount outlines.flatten + 1 +
            newlineCount (Declaration.allCopiedTexts outlines.flatten) ∧
        ((∀ text ∈ Declaration.allCopiedTexts outlines.flatten,
          BreaksQuietly text.toList) →
            lineBrackets.Balanced (documentLines document) ∧
              ∀ module ∈ openings (trace settings.root outlines),
                ∀ before after, documentLines document =
                    before ++
                      ("package " ++ module ++ " \x7b").toList :: after →
                  lineBrackets.depthBehind? 0 before = some 0) := by
  obtain ⟨outlines, drawn, read, valid, accepted, rfl⟩ :=
    exists_of_renderSources rendered
  have named := readSources_named read
  have items := brokenText_linesText (documentItems settings drawn)
  have lengths := length_brokenTexts_documentItems plain valid named accepted
  rw [documentText_eq plain, documentLines_linesText]
  refine ⟨items, outlines, read, ?_, fun quiet => ?_⟩
  · have whole := congrArg List.length items
    rw [length_brokenText, List.length_append, List.length_singleton,
      lengths, frameLength] at whole
    omega
  · have framed := framed_documentItems plain valid named quiet accepted
    refine ⟨framed.balanced, ?_⟩
    intro module opened before after cut
    exact framed.outside before _ after cut
      ⟨module, openings_trace_named named module opened, rfl⟩

def brokenTypes : String :=
  "namespace R.A \x7b class C<T,\n  U> \x7b public void M(" ++
    "List<int,\n  int> x) \x7b \x7d \x7d \x7d enum F \x7b X \x7d"

def brokenTypesDocument : String :=
  linesText
    ["@startuml", "allow_mixing", "artifact R", "R --> A",
      "package A \x7b", "class C<T,", "  U> \x7b", "+M(x:List<int,",
      "  int>) : void", "\x7d", "\x7d", "enum F \x7b", "X", "\x7d",
      "@enduml"]

theorem brokenTypes_nested :
    renderSources { root := "R" } [brokenTypes] = .ok brokenTypesDocument ∧
      brokenTypesDocument.toList.count '\n' = 13 + 2 ∧
      lineBrackets.Balanced (documentLines brokenTypesDocument) ∧
      ∀ before after, documentLines brokenTypesDocument =
          before ++ "package A \x7b".toList :: after →
        lineBrackets.depthBehind? 0 before = some 0 := by
  have outlinesRead : readSources [brokenTypes] =
      .ok [[.scope "R.A" [.type ⟨.classWord, "C", some "<T,\n  U>", []⟩
        [.method ⟨"M", "void", [⟨"x", "List<int,\n  int>"⟩],
          [.publicWord]⟩]], .enumeration ⟨"F", [], ["X"]⟩]] := by
    decide +kernel
  have rendered : renderSources { root := "R" } [brokenTypes] =
      .ok brokenTypesDocument := by
    rw [renderSources_of_read outlinesRead]
    decide +kernel
  obtain ⟨_, outlines, read, count, nested⟩ :=
    renderSources_line_structure rfl rendered
  rw [outlinesRead] at read
  cases read
  obtain ⟨balanced, outside⟩ := nested (by decide +kernel)
  exact ⟨rendered, count, balanced, outside "A" (by decide +kernel)⟩

/-- A comment between generic parameters is copied with its lines, of which
one may look like the end of a block. -/
def brokenComment : String :=
  "class C<T, /*\n\x7d\n*/ U> \x7b \x7d"

theorem brokenComment_not_nested :
    ∃ outlines document, readSources [brokenComment] = .ok outlines ∧
      renderSources {} [brokenComment] = .ok document ∧
      document.toList.count '\n' ≠
        2 + Declaration.allItemCount outlines.flatten + 1 ∧
      ¬ lineBrackets.Balanced (documentLines document) := by
  have outlinesRead : readSources [brokenComment] =
      .ok [[.type ⟨.classWord, "C", some "<T, /*\n\x7d\n*/ U>", []⟩ []]] := by
    decide +kernel
  have rendered : renderSources {} [brokenComment] =
      .ok (linesText ["@startuml", "allow_mixing", "class C<T, /*", "\x7d",
        "*/ U> \x7b", "\x7d", "@enduml"]) := by
    rw [renderSources_of_read outlinesRead]
    decide +kernel
  exact ⟨_, _, outlinesRead, rendered, by decide +kernel, by decide +kernel⟩

end ClassDiagram
