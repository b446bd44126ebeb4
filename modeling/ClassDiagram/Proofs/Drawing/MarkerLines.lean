import ClassDiagram.Proofs.Drawing.DocumentLines

/-!
# Marker lines

A document begins with its start marker and ends with its end marker.  Every
other line that is put together for it has a blank, a bracket or a comma in
it, which no marker has.  So a marker can occur again only among the lines
that are copied: the names of enumeration members, and the lines inside of
types that are broken over several.
-/

namespace ClassDiagram

open Text (segments laterLines innerLines)

namespace Declaration

mutual

def copiedLines : Declaration → List (List Char)
  | .scope _ members => allCopiedLines members
  | .type header members =>
      innerLines (header.typeParameters.getD "").toList ++
        allCopiedLines members
  | .enumeration declared => declared.variants.map String.toList
  | .method declared =>
      (declared.parameters.flatMap fun parameter =>
        innerLines parameter.typeName.toList) ++
          laterLines declared.returnType.toList

def allCopiedLines : List Declaration → List (List Char)
  | [] => []
  | first :: others => first.copiedLines ++ allCopiedLines others

end

end Declaration

/-- The signs that hold the items of a document together. -/
def itemSigns : List Char :=
  [' ', '(', ')', ',', '\x7b', '\x7d']

/-- A line without such signs. -/
def IsBare (line : List Char) : Prop :=
  ∀ sign ∈ itemSigns, sign ∉ line

instance (line : List Char) : Decidable (IsBare line) :=
  List.decidableBAll _ itemSigns

/-- An item in one line that has such a sign. -/
structure IsSigned (item : String) : Prop where
  oneLine : '\n' ∉ item.toList
  signed : ∃ sign ∈ itemSigns, sign ∈ item.toList

/-! ## Keywords and flags -/

theorem not_mem_join {c : Char} {texts : List String}
    (absent : ∀ text ∈ texts, c ∉ text.toList) :
    c ∉ (String.join texts).toList := by
  rw [String.toList_join, List.mem_flatMap]
  rintro ⟨text, member, occurs⟩
  exact absent text member occurs

theorem not_mem_intercalate {c : Char} {separator : String}
    {texts : List String} (notSeparator : c ∉ separator.toList)
    (absent : ∀ text ∈ texts, c ∉ text.toList) :
    c ∉ (separator.intercalate texts).toList := by
  induction texts with
  | nil =>
      exact List.not_mem_nil
  | cons text others inductionHypothesis =>
      obtain ⟨here, later⟩ := List.forall_mem_cons.1 absent
      cases others with
      | nil =>
          rwa [String.intercalate_singleton]
      | cons next rest =>
          rw [String.intercalate_cons_cons, String.toList_append,
            String.toList_append, List.mem_append, List.mem_append, not_or,
            not_or]
          exact ⟨⟨here, notSeparator⟩, inductionHypothesis later⟩

theorem typeKeyword_one_line (kind : TypeKind) (modifiers : List Modifier) :
    '\n' ∉ (typeKeyword kind modifiers).toList := by
  unfold typeKeyword
  split <;> cases kind <;> decide

theorem typeFlags_one_line (modifiers : List Modifier) :
    '\n' ∉ (typeFlags modifiers).toList := by
  apply not_mem_join
  intro text member
  obtain ⟨modifier, _, rfl⟩ := List.mem_map.1 member
  cases modifier <;> decide

theorem memberFlags_one_line (modifiers : List Modifier) :
    '\n' ∉ (memberFlags modifiers).toList := by
  apply not_mem_intercalate (by decide)
  intro text member
  obtain ⟨modifier, _, rfl⟩ := List.mem_map.1 member
  cases modifier <;> decide

/-! ## Bare lines of items -/

section

variable {line : List Char}

theorem count_brokenTexts_signed {items : List String} (bare : IsBare line)
    (signed : ∀ item ∈ items, IsSigned item) :
    (brokenTexts items).count line = 0 := by
  rw [brokenTexts_of_one_line fun item member => (signed item member).oneLine,
    List.count_eq_zero]
  intro occurs
  obtain ⟨item, member, rfl⟩ := List.mem_map.1 occurs
  obtain ⟨sign, listed, inItem⟩ := (signed item member).signed
  exact bare sign listed inItem

theorem closingLine_signed : IsSigned closingLine :=
  ⟨by decide, '\x7d', by decide, by decide⟩

theorem count_closingLine (bare : IsBare line) :
    (brokenTexts [closingLine]).count line = 0 :=
  count_brokenTexts_signed bare
    (List.forall_mem_singleton.2 closingLine_signed)

theorem toList_enumerationLine (declared : Enumeration) :
    (enumerationLine declared).toList =
      ("enum ".toList ++ (declared.name.toList ++
        ' ' :: (typeFlags declared.modifiers).toList)) ++ ['\x7b'] := by
  simp [enumerationLine]

theorem enumerationLine_signed {declared : Enumeration}
    (named : declared.Named) : IsSigned (enumerationLine declared) := by
  refine ⟨?_, ' ', by decide, ?_⟩
  · rw [toList_enumerationLine]
    simp [named.name.one_line, typeFlags_one_line]
  · rw [toList_enumerationLine]
    simp

theorem toList_typeLine (header : TypeHeader) :
    (typeLine header).toList =
      (typeKeyword header.kind header.modifiers).toList ++
        ' ' :: (header.name.toList ++
          ((header.typeParameters.getD "").toList ++
            ' ' :: ((typeFlags header.modifiers).toList ++ ['\x7b']))) := by
  simp [typeLine]

/-- The line of a type shows the inner lines of its parameters. -/
theorem count_typeLine {header : TypeHeader} (bare : IsBare line)
    (named : header.Named) :
    (brokenText (typeLine header)).count line =
      (innerLines (header.typeParameters.getD "").toList).count line := by
  have blank : ' ' ∉ line := bare ' ' (by decide)
  have flags : '\n' ∉ (typeFlags header.modifiers).toList ++ ['\x7b'] := by
    rw [List.mem_append, not_or]
    exact ⟨typeFlags_one_line _, by decide⟩
  rw [brokenText, toList_typeLine,
    Text.count_segments_append blank (by decide) (typeKeyword_one_line _ _),
    Text.laterLines_append named.name.one_line,
    Text.count_laterLines_append blank (by decide),
    Text.laterLines_of_not_mem flags, List.count_nil, Nat.add_zero]

theorem count_enumerationLines {declared : Enumeration} (bare : IsBare line)
    (named : declared.Named) :
    (brokenTexts (enumerationLines declared)).count line =
      (declared.variants.map String.toList).count line := by
  have variants := brokenTexts_of_one_line fun variant member =>
    (named.variants variant member).one_line
  have opening : (brokenTexts [enumerationLine declared]).count line = 0 :=
    count_brokenTexts_signed bare
      (List.forall_mem_singleton.2 (enumerationLine_signed named))
  rw [enumerationLines, ← List.singleton_append, brokenTexts_append,
    brokenTexts_append, variants, List.count_append, List.count_append,
    opening, count_closingLine bare, Nat.zero_add, Nat.add_zero]

/-- The text of a method behind its opening parenthesis. -/
def signatureText (parameters : List Parameter) (returnType : String) :
    List Char :=
  (String.intercalate ", " (parameters.map parameterText)).toList ++
    ')' :: ([' ', ':', ' '] ++ returnType.toList)

theorem signatureText_singleton (parameter : Parameter)
    (returnType : String) :
    signatureText [parameter] returnType =
      (parameter.name.toList ++ [':']) ++ (parameter.typeName.toList ++
        ')' :: ([' ', ':', ' '] ++ returnType.toList)) := by
  simp [signatureText, parameterText]

theorem signatureText_cons_cons (parameter next : Parameter)
    (others : List Parameter) (returnType : String) :
    signatureText (parameter :: next :: others) returnType =
      (parameter.name.toList ++ [':']) ++ (parameter.typeName.toList ++
        ',' :: ([' '] ++ signatureText (next :: others) returnType)) := by
  simp [signatureText, parameterText, String.intercalate_cons_cons]

theorem count_signatureText {parameters : List Parameter}
    (bare : IsBare line)
    (named : ∀ parameter ∈ parameters, IsNameText parameter.name)
    (returnType : String) :
    (laterLines (signatureText parameters returnType)).count line =
      ((parameters.flatMap fun parameter =>
        innerLines parameter.typeName.toList) ++
          laterLines returnType.toList).count line := by
  have comma : ',' ∉ line := bare ',' (by decide)
  have closing : ')' ∉ line := bare ')' (by decide)
  induction parameters with
  | nil =>
      rw [signatureText, List.map_nil, String.intercalate_nil,
        String.toList_empty, List.nil_append, ← List.singleton_append,
        ← List.append_assoc, Text.laterLines_append (by decide)]
      rfl
  | cons parameter others inductionHypothesis =>
      obtain ⟨here, later⟩ := List.forall_mem_cons.1 named
      have front : '\n' ∉ parameter.name.toList ++ [':'] := by
        rw [List.mem_append, not_or]
        exact ⟨here.one_line, by decide⟩
      cases others with
      | nil =>
          rw [signatureText_singleton, Text.laterLines_append front,
            Text.count_laterLines_append closing (by decide),
            Text.laterLines_append (by decide), List.flatMap_cons,
            List.flatMap_nil, List.append_nil, List.count_append]
      | cons next rest =>
          rw [List.flatMap_cons, List.append_assoc, List.count_append,
            ← inductionHypothesis later, signatureText_cons_cons,
            Text.laterLines_append front,
            Text.count_laterLines_append comma (by decide),
            Text.laterLines_append (by decide)]

theorem toList_methodLine (declared : Method) :
    (methodLine declared).toList =
      ((memberFlags declared.modifiers).toList ++ declared.name.toList) ++
        '(' :: signatureText declared.parameters declared.returnType := by
  simp [methodLine, signatureText]

/-- A method has its opening parenthesis in its first line. -/
theorem Method.Named.front_one_line {declared : Method}
    (named : declared.Named) :
    '\n' ∉ (memberFlags declared.modifiers).toList ++
      declared.name.toList := by
  rw [List.mem_append, not_or]
  exact ⟨memberFlags_one_line _, named.name.one_line⟩

/-- The line of a method shows the inner lines of its parameter types, and
all but the first line of its return type. -/
theorem count_methodLine {declared : Method} (bare : IsBare line)
    (named : declared.Named) :
    (brokenText (methodLine declared)).count line =
      ((declared.parameters.flatMap fun parameter =>
        innerLines parameter.typeName.toList) ++
          laterLines declared.returnType.toList).count line := by
  rw [brokenText, toList_methodLine,
    Text.count_segments_append (bare '(' (by decide)) (by decide)
      named.front_one_line,
    count_signatureText bare named.parameters]

mutual

/-- A bare line of a declaration is a copied one. -/
theorem count_drawnLines (bare : IsBare line) :
    ∀ declaration : Declaration, declaration.Named →
      (brokenTexts declaration.drawnLines).count line =
        declaration.copiedLines.count line
  | .scope name members, named => by
      rw [Declaration.drawnLines, Declaration.copiedLines]
      exact count_allDrawnLines bare members named.2
  | .type header members, named => by
      rw [Declaration.drawnLines, Declaration.copiedLines, brokenTexts_cons,
        brokenTexts_append, List.count_append, List.count_append,
        List.count_append, count_closingLine bare, Nat.add_zero,
        count_typeLine bare named.1,
        count_allDrawnLines bare members named.2]
  | .enumeration declared, named => by
      rw [Declaration.drawnLines, Declaration.copiedLines]
      exact count_enumerationLines bare named
  | .method declared, named => by
      rw [Declaration.drawnLines, Declaration.copiedLines,
        brokenTexts_singleton]
      exact count_methodLine bare named

theorem count_allDrawnLines (bare : IsBare line) :
    ∀ declarations : List Declaration, Declaration.AllNamed declarations →
      (brokenTexts (Declaration.allDrawnLines declarations)).count line =
        (Declaration.allCopiedLines declarations).count line
  | [], _ => rfl
  | first :: others, named => by
      rw [Declaration.allDrawnLines, Declaration.allCopiedLines,
        brokenTexts_append, List.count_append, List.count_append,
        count_drawnLines bare first named.1,
        count_allDrawnLines bare others named.2]

end

end

/-! ## Lines around the declarations -/

inductive IsPathLine : String → Prop where
  | artifact {segment : String} (named : IsNameText segment) :
      IsPathLine ("artifact " ++ segment)
  | arrow {source target : String} (sourceNamed : IsNameText source)
      (targetNamed : IsNameText target) :
      IsPathLine (arrowLine source target)

theorem IsPathLine.signed {item : String} (path : IsPathLine item) :
    IsSigned item := by
  cases path with
  | artifact named =>
      refine ⟨?_, ' ', by decide, by simp⟩
      rw [String.toList_append, List.mem_append, not_or]
      exact ⟨by decide, named.one_line⟩
  | arrow sourceNamed targetNamed =>
      refine ⟨?_, ' ', by decide, by simp [arrowLine]⟩
      simp [arrowLine, sourceNamed.one_line, targetNamed.one_line]

theorem furtherArtifacts_path {previous : String} {segments : List String}
    (previousNamed : IsNameText previous)
    (named : ∀ segment ∈ segments, IsNameText segment) :
    ∀ item ∈ furtherArtifacts previous segments, IsPathLine item := by
  induction segments generalizing previous with
  | nil =>
      exact nofun
  | cons segment others inductionHypothesis =>
      obtain ⟨here, later⟩ := List.forall_mem_cons.1 named
      exact List.forall_mem_cons.2 ⟨.artifact here,
        List.forall_mem_cons.2 ⟨.arrow previousNamed here,
          inductionHypothesis here later⟩⟩

theorem breadcrumbLines_path {segments : List String}
    (named : ∀ segment ∈ segments, IsNameText segment) :
    ∀ item ∈ breadcrumbLines segments, IsPathLine item := by
  cases segments with
  | nil =>
      exact nofun
  | cons first others =>
      obtain ⟨here, later⟩ := List.forall_mem_cons.1 named
      exact List.forall_mem_cons.2
        ⟨.artifact here, furtherArtifacts_path here later⟩

theorem packageDecoration_path {settings : Settings} {module : String}
    (plain : settings.header = .breadcrumb)
    (rootNamed : ∀ segment ∈ settings.segments, IsNameText segment)
    (named : IsNameText module) :
    ∀ item ∈ packageDecoration settings module, IsPathLine item := by
  rw [packageDecoration, plain]
  simp only
  split
  · rename_i segment last
    exact List.forall_mem_singleton.2
      (.arrow (rootNamed segment (List.mem_of_getLast? last)) named)
  · exact nofun

theorem packageLine_signed {module : String} (named : IsNameText module) :
    IsSigned ("package " ++ module ++ " \x7b") := by
  refine ⟨?_, ' ', by decide, ?_⟩
  · simp [named.one_line]
  · simp

theorem frameLines_signed {settings : Settings} {module : String}
    (plain : settings.header = .breadcrumb)
    (rootNamed : ∀ segment ∈ settings.segments, IsNameText segment)
    (named : IsNameText module) :
    ∀ item ∈ frameLines settings module, IsSigned item := by
  rw [frameLines, List.forall_mem_append]
  exact ⟨fun item member =>
    (packageDecoration_path plain rootNamed named item member).signed,
    List.forall_mem_cons.2 ⟨packageLine_signed named,
      List.forall_mem_singleton.2 closingLine_signed⟩⟩

/-- The frames of all packages in a document are in one line each. -/
theorem frames_signed {settings : Settings} {outlines : List Outline}
    (plain : settings.header = .breadcrumb)
    (valid : settings.validate = .ok ())
    (named : Declaration.AllNamed outlines.flatten) :
    ∀ item ∈ (openings (trace settings.root outlines)).eraseDups.flatMap
      (frameLines settings), IsSigned item := by
  intro item member
  obtain ⟨module, isModule, inFrame⟩ := List.mem_flatMap.1 member
  have moduleNamed := openings_trace_named named module
    (List.mem_eraseDups.1 isModule)
  exact frameLines_signed plain (segments_named valid) moduleNamed item
    inFrame

/-! ## Markers -/

theorem count_breadcrumbLines {settings : Settings} {line : List Char}
    (bare : IsBare line) (valid : settings.validate = .ok ()) :
    (brokenTexts (breadcrumbLines settings.segments)).count line = 0 :=
  count_brokenTexts_signed bare fun item member =>
    (breadcrumbLines_path (segments_named valid) item member).signed

/-- In the body of a document only copied lines are bare. -/
theorem count_sectionLines {settings : Settings} {outlines : List Outline}
    {drawn : Sections} {line : List Char} (bare : IsBare line)
    (plain : settings.header = .breadcrumb)
    (valid : settings.validate = .ok ())
    (named : Declaration.AllNamed outlines.flatten)
    (accepted : drawOutlines settings.root outlines = .ok drawn) :
    (brokenTexts (drawn.flatMap (sectionLines settings))).count line =
      (Declaration.allCopiedLines outlines.flatten).count line := by
  rw [(brokenTexts_perm (sectionLines_perm accepted)).count_eq,
    brokenTexts_append, List.count_append,
    count_brokenTexts_signed bare (frames_signed plain valid named),
    Nat.zero_add, count_allDrawnLines bare _ named]

/-- A document with the plain header begins with its start marker and ends
with its end marker, and has each of them as many times more as it is among
the lines that are copied from the sources. -/
theorem renderSources_markers {settings : Settings} {sources : List String}
    {document : String} (plain : settings.header = .breadcrumb)
    (rendered : renderSources settings sources = .ok document) :
    brokenText document = documentLines document ++ [[]] ∧
      (documentLines document).head? = some startMarker.toList ∧
      (documentLines document).getLast? = some endMarker.toList ∧
      ∃ outlines, readSources sources = .ok outlines ∧
        ∀ marker ∈ [startMarker, endMarker],
          (documentLines document).count marker.toList =
            1 + (Declaration.allCopiedLines outlines.flatten).count
              marker.toList := by
  obtain ⟨outlines, drawn, read, valid, accepted, rfl⟩ :=
    exists_of_renderSources rendered
  rw [documentText_eq plain, documentLines_linesText]
  refine ⟨brokenText_linesText _, ?_, ?_, outlines, read, ?_⟩
  · rw [brokenTexts_documentItems]
    rfl
  · rw [brokenTexts_documentItems, ← List.append_assoc, ← List.cons_append,
      ← List.cons_append, List.getLast?_concat]
  · intro marker isMarker
    have bare : IsBare marker.toList := by
      revert marker
      decide
    have ends : [startMarker.toList, "allow_mixing".toList,
        endMarker.toList].count marker.toList = 1 := by
      revert marker
      decide
    have body := count_sectionLines bare plain valid (readSources_named read)
      accepted
    have header := count_breadcrumbLines bare valid
    simp only [brokenTexts_documentItems, List.count_cons, List.count_append,
      List.count_nil, Nat.zero_add] at ends ⊢
    omega

/-- A type whose parameters are broken over three lines, none of which is a
marker. -/
def brokenParameters : String :=
  "namespace R.A \x7b class C<T,\n  U\n> \x7b \x7d enum E \x7b X \x7d \x7d"

def brokenParametersDocument : String :=
  linesText
    ["@startuml", "allow_mixing", "artifact R", "R --> A",
      "package A \x7b", "class C<T,", "  U", "> \x7b", "\x7d",
      "enum E \x7b", "X", "\x7d", "\x7d", "@enduml"]

theorem brokenParameters_markers_once :
    renderSources { root := "R" } [brokenParameters] =
        .ok brokenParametersDocument ∧
      ∀ marker ∈ [startMarker, endMarker],
        (documentLines brokenParametersDocument).count marker.toList = 1 := by
  have outlinesRead : readSources [brokenParameters] =
      .ok [[.scope "R.A" [.type ⟨.classWord, "C", some "<T,\n  U\n>", []⟩ [],
        .enumeration ⟨"E", [], ["X"]⟩]]] := by
    decide +kernel
  have rendered : renderSources { root := "R" } [brokenParameters] =
      .ok brokenParametersDocument := by
    rw [renderSources_of_read outlinesRead]
    decide +kernel
  obtain ⟨_, _, _, outlines, read, counts⟩ :=
    renderSources_markers rfl rendered
  rw [outlinesRead] at read
  cases read
  refine ⟨rendered, fun marker isMarker => ?_⟩
  rw [counts marker isMarker]
  revert marker
  decide +kernel

/-- The name of an enumeration member may be a marker. -/
theorem markerVariant_ends_twice :
    ∃ document, renderSources {} ["enum E \x7b @enduml \x7d"] = .ok document ∧
      (documentLines document).count endMarker.toList = 2 :=
  ⟨linesText ["@startuml", "allow_mixing", "enum E \x7b", "@enduml", "\x7d",
    "@enduml"], by decide +kernel, by decide +kernel⟩

end ClassDiagram
