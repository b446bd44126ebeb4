import ClassDiagram.Proofs.Drawing.MarkerLines

/-!
# Numbers of lines

A document has one line for each item, and one more for each newline in a
type that is copied into it.
-/

namespace ClassDiagram

namespace Declaration

mutual

/-- The number of items that a declaration and what is inside it make. -/
def itemCount : Declaration → Nat
  | .scope _ members => allItemCount members
  | .type _ members => 2 + allItemCount members
  | .enumeration declared => 2 + declared.variants.length
  | .method _ => 1

def allItemCount : List Declaration → Nat
  | [] => 0
  | first :: others => first.itemCount + allItemCount others

end

mutual

/-- The texts that are copied as they are written: generic parameters, and
the types of parameters and methods. -/
def copiedTexts : Declaration → List String
  | .scope _ members => allCopiedTexts members
  | .type header members =>
      header.typeParameters.toList ++ allCopiedTexts members
  | .enumeration _ => []
  | .method declared =>
      declared.parameters.map Parameter.typeName ++ [declared.returnType]

def allCopiedTexts : List Declaration → List String
  | [] => []
  | first :: others => first.copiedTexts ++ allCopiedTexts others

end

end Declaration

def newlineCount : List String → Nat
  | [] => 0
  | text :: others => text.toList.count '\n' + newlineCount others

theorem newlineCount_append (texts others : List String) :
    newlineCount (texts ++ others) =
      newlineCount texts + newlineCount others := by
  induction texts with
  | nil =>
      exact (Nat.zero_add _).symm
  | cons text rest inductionHypothesis =>
      rw [List.cons_append, newlineCount, newlineCount, inductionHypothesis,
        Nat.add_assoc]

theorem length_brokenText (text : String) :
    (brokenText text).length = 1 + text.toList.count '\n' := by
  rw [brokenText, Text.length_segments, Nat.add_comm]

theorem length_brokenTexts_of_one_line {items : List String}
    (oneLine : ∀ item ∈ items, '\n' ∉ item.toList) :
    (brokenTexts items).length = items.length := by
  rw [brokenTexts_of_one_line oneLine, List.length_map]

/-! ## Declarations -/

theorem count_typeLine_newline {header : TypeHeader}
    (named : header.Named) :
    (typeLine header).toList.count '\n' =
      newlineCount header.typeParameters.toList := by
  have keyword := List.count_eq_zero.2
    (typeKeyword_one_line header.kind header.modifiers)
  have name := List.count_eq_zero.2 named.name.one_line
  have flags := List.count_eq_zero.2 (typeFlags_one_line header.modifiers)
  cases parameters : header.typeParameters with
  | none =>
      simp [toList_typeLine, newlineCount, keyword, name, flags, parameters]
  | some text =>
      simp [toList_typeLine, newlineCount, keyword, name, flags, parameters]

theorem count_signatureText_newline {parameters : List Parameter}
    (named : ∀ parameter ∈ parameters, IsNameText parameter.name)
    (returnType : String) :
    (signatureText parameters returnType).count '\n' =
      newlineCount (parameters.map Parameter.typeName ++ [returnType]) := by
  induction parameters with
  | nil =>
      simp [signatureText, newlineCount]
  | cons parameter others inductionHypothesis =>
      obtain ⟨here, later⟩ := List.forall_mem_cons.1 named
      have name := List.count_eq_zero.2 here.one_line
      rw [List.map_cons, List.cons_append, newlineCount]
      cases others with
      | nil =>
          rw [signatureText_singleton]
          simp [name, newlineCount]
      | cons next rest =>
          rw [← inductionHypothesis later, signatureText_cons_cons]
          simp [name]

theorem count_methodLine_newline {declared : Method}
    (named : declared.Named) :
    (methodLine declared).toList.count '\n' =
      newlineCount (declared.parameters.map Parameter.typeName ++
        [declared.returnType]) := by
  have front := List.count_eq_zero.2 named.front_one_line
  rw [toList_methodLine, List.count_append, front,
    List.count_cons_of_ne (by decide),
    count_signatureText_newline named.parameters, Nat.zero_add]

mutual

/-- A declaration has a line for each item and each copied newline. -/
theorem length_drawnLines :
    ∀ declaration : Declaration, declaration.Named →
      (brokenTexts declaration.drawnLines).length =
        declaration.itemCount + newlineCount declaration.copiedTexts
  | .scope name members, named => by
      rw [Declaration.drawnLines, Declaration.itemCount,
        Declaration.copiedTexts]
      exact length_allDrawnLines members named.2
  | .type header members, named => by
      have opening := length_brokenText (typeLine header)
      have closing := length_brokenTexts_of_one_line
        (List.forall_mem_singleton.2 closingLine_signed.oneLine)
      have inside := length_allDrawnLines members named.2
      rw [count_typeLine_newline named.1] at opening
      rw [List.length_singleton] at closing
      rw [Declaration.drawnLines, Declaration.itemCount,
        Declaration.copiedTexts, brokenTexts_cons, brokenTexts_append,
        List.length_append, List.length_append, newlineCount_append]
      omega
  | .enumeration declared, named => by
      have oneLine : ∀ item ∈ enumerationLines declared,
          '\n' ∉ item.toList := by
        refine List.forall_mem_cons.2
          ⟨(enumerationLine_signed named).oneLine, ?_⟩
        rw [List.forall_mem_append]
        exact ⟨fun variant member => (named.variants variant member).one_line,
          List.forall_mem_singleton.2 closingLine_signed.oneLine⟩
      rw [Declaration.drawnLines, Declaration.itemCount,
        Declaration.copiedTexts, length_brokenTexts_of_one_line oneLine,
        enumerationLines, List.length_cons, List.length_append,
        List.length_singleton]
      exact Nat.add_comm declared.variants.length 2
  | .method declared, named => by
      rw [Declaration.drawnLines, Declaration.itemCount,
        Declaration.copiedTexts, brokenTexts_singleton, length_brokenText,
        count_methodLine_newline named]

theorem length_allDrawnLines :
    ∀ declarations : List Declaration, Declaration.AllNamed declarations →
      (brokenTexts (Declaration.allDrawnLines declarations)).length =
        Declaration.allItemCount declarations +
          newlineCount (Declaration.allCopiedTexts declarations)
  | [], _ => rfl
  | first :: others, named => by
      have here := length_drawnLines first named.1
      have later := length_allDrawnLines others named.2
      rw [Declaration.allDrawnLines, Declaration.allItemCount,
        Declaration.allCopiedTexts, brokenTexts_append, List.length_append,
        newlineCount_append]
      omega

end

/-! ## Documents -/

theorem length_furtherArtifacts (previous : String)
    (segments : List String) :
    (furtherArtifacts previous segments).length = 2 * segments.length := by
  induction segments generalizing previous with
  | nil =>
      rfl
  | cons segment others inductionHypothesis =>
      rw [furtherArtifacts, List.length_cons, List.length_cons,
        inductionHypothesis, List.length_cons]
      omega

/-- An artifact for each segment, and an arrow between each two. -/
theorem length_breadcrumbLines (segments : List String) :
    (breadcrumbLines segments).length = 2 * segments.length - 1 := by
  cases segments with
  | nil =>
      rfl
  | cons first others =>
      rw [breadcrumbLines, List.length_cons, length_furtherArtifacts,
        List.length_cons]
      omega

/-- The number of lines of a package that are not those of its module: its
first and its last one and, under a root, an arrow. -/
def frameLength (settings : Settings) : Nat :=
  2 + if settings.root.isEmpty then 0 else 1

theorem length_frameLines {settings : Settings}
    (plain : settings.header = .breadcrumb) (module : String) :
    (frameLines settings module).length = frameLength settings := by
  have cut := Text.segments_ne_nil '.' settings.root.toList
  rw [frameLines, List.length_append, packageDecoration, plain, frameLength]
  simp only [Settings.segments, rootSegments]
  by_cases empty : settings.root.isEmpty = true
  · rw [if_pos empty, if_pos empty]
    rfl
  · rw [if_neg empty, if_neg empty, Text.dotSegments, List.getLast?_map,
      List.getLast?_eq_some_getLast cut]
    rfl

theorem length_flatMap_frameLines {settings : Settings}
    (plain : settings.header = .breadcrumb) (modules : List String) :
    (modules.flatMap (frameLines settings)).length =
      modules.length * frameLength settings := by
  induction modules with
  | nil =>
      exact (Nat.zero_mul _).symm
  | cons module others inductionHypothesis =>
      rw [List.flatMap_cons, List.length_append, length_frameLines plain,
        inductionHypothesis, List.length_cons, Nat.succ_mul, Nat.add_comm]

/-- A document has a line for each of its items, and one more for each newline
in the texts that are copied. -/
theorem length_brokenTexts_documentItems {settings : Settings}
    {outlines : List Outline} {drawn : Sections}
    (plain : settings.header = .breadcrumb)
    (valid : settings.validate = .ok ())
    (named : Declaration.AllNamed outlines.flatten)
    (accepted : drawOutlines settings.root outlines = .ok drawn) :
    (brokenTexts (documentItems settings drawn)).length =
      2 + (2 * settings.segments.length - 1) +
        (openings (trace settings.root outlines)).eraseDups.length *
          frameLength settings +
        Declaration.allItemCount outlines.flatten + 1 +
        newlineCount (Declaration.allCopiedTexts outlines.flatten) := by
  have path := length_brokenTexts_of_one_line fun item member =>
    (breadcrumbLines_path (segments_named valid) item member).signed.oneLine
  have frames := length_brokenTexts_of_one_line fun item member =>
    (frames_signed plain valid named item member).oneLine
  have body := (brokenTexts_perm (sectionLines_perm accepted)).length_eq
  have declared := length_allDrawnLines outlines.flatten named
  rw [length_breadcrumbLines] at path
  rw [length_flatMap_frameLines plain] at frames
  rw [brokenTexts_append, List.length_append] at body
  rw [brokenTexts_documentItems, List.length_cons, List.length_cons,
    List.length_append, List.length_append, List.length_singleton]
  omega

end ClassDiagram
