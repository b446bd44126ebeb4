import ClassDiagram.Proofs.Drawing.LineCounts
import ClassDiagram.Proofs.Text.Brackets

/-!
# Nested lines

In a document a line that ends with an opening brace opens a block, and a
closing brace alone in its line closes one.  The blocks are nested, and
packages lie in no block, unless a copied type is broken into lines that look
like the ends of blocks.
-/

namespace ClassDiagram

open Text (segments Brackets)

/-- A line opens a block with its last character, or closes one. -/
def lineBrackets : Brackets (List Char) where
  opens line := line.getLast? == some '\x7b'
  closes line := line == ['\x7d']
  disjoint line opens := by
    rw [beq_iff_eq] at opens
    rw [beq_eq_false_iff_ne]
    rintro rfl
    exact absurd opens (by decide)

/-- A line that neither opens nor closes a block. -/
def IsPlainLine (line : List Char) : Prop :=
  lineBrackets.opens line = false ∧ lineBrackets.closes line = false

instance (line : List Char) : Decidable (IsPlainLine line) :=
  inferInstanceAs (Decidable (_ ∧ _))

/-- No line of a text but the last one opens or closes a block. -/
def BreaksQuietly (text : List Char) : Prop :=
  ∀ line ∈ (segments '\n' text).dropLast, IsPlainLine line

instance (text : List Char) : Decidable (BreaksQuietly text) :=
  inferInstanceAs (Decidable (∀ line ∈ (segments '\n' text).dropLast,
    IsPlainLine line))

/-- No line of a text opens or closes a block. -/
def StaysQuiet (text : List Char) : Prop :=
  ∀ line ∈ segments '\n' text, IsPlainLine line

/-! ## Plain lines -/

theorem opens_concat (front : List Char) :
    lineBrackets.opens (front ++ ['\x7b']) = true := by
  simp [lineBrackets]

theorem isPlainLine_iff {line : List Char} :
    IsPlainLine line ↔ line.getLast? ≠ some '\x7b' ∧ line ≠ ['\x7d'] := by
  simp [IsPlainLine, lineBrackets]

/-- A character that is no brace may stand in front of a plain line. -/
theorem IsPlainLine.cons {c : Char} {line : List Char}
    (noBrace : c ≠ '\x7b' ∧ c ≠ '\x7d') (plain : IsPlainLine line) :
    IsPlainLine (c :: line) := by
  rw [isPlainLine_iff] at plain ⊢
  refine ⟨?_, fun same => noBrace.2 (List.cons.inj same).1⟩
  cases line with
  | nil =>
      intro same
      exact noBrace.1 (Option.some.inj same)
  | cons next rest =>
      rw [List.getLast?_cons_cons]
      exact plain.1

/-- Behind a text that goes on in the same line only the end matters. -/
theorem IsPlainLine.append {sign : Char} {line : List Char}
    (noBrace : sign ≠ '\x7d') (left : List Char)
    (plain : IsPlainLine (sign :: line)) :
    IsPlainLine (left ++ sign :: line) := by
  rw [isPlainLine_iff] at plain ⊢
  refine ⟨?_, ?_⟩
  · rw [List.getLast?_append, List.getLast?_cons, Option.some_or,
      ← List.getLast?_cons]
    exact plain.1
  · intro same
    have occurs : sign ∈ left ++ sign :: line :=
      List.mem_append_right left List.mem_cons_self
    rw [same, List.mem_singleton] at occurs
    exact noBrace occurs

theorem isPlainLine_of_not_mem {line : List Char}
    (noOpening : '\x7b' ∉ line) (noClosing : '\x7d' ∉ line) :
    IsPlainLine line := by
  rw [isPlainLine_iff]
  refine ⟨fun ends => noOpening (List.mem_of_getLast? ends), ?_⟩
  rintro rfl
  exact noClosing List.mem_cons_self

theorem IsNameText.isPlainLine {text : String} (named : IsNameText text) :
    IsPlainLine text.toList :=
  isPlainLine_of_not_mem (named '\x7b' (by decide)) (named '\x7d' (by decide))

/-! ## Quiet texts -/

theorem breaksQuietly_of_one_line {text : List Char}
    (oneLine : '\n' ∉ text) : BreaksQuietly text := by
  rw [BreaksQuietly, Text.segments_of_not_mem oneLine]
  exact nofun

/-- What is written in the last line does not matter. -/
theorem breaksQuietly_append {left right : List Char}
    (oneLine : '\n' ∉ right) :
    BreaksQuietly (left ++ right) ↔ BreaksQuietly left := by
  have leftCut :=
    List.dropLast_append_getLast (Text.segments_ne_nil '\n' left)
  rw [BreaksQuietly, Text.segments_append leftCut.symm
    (Text.segments_of_not_mem oneLine), List.dropLast_concat]
  rfl

theorem BreaksQuietly.cons {c : Char} {text : List Char}
    (noBrace : c ≠ '\x7b' ∧ c ≠ '\x7d') (sameLine : c ≠ '\n')
    (quiet : BreaksQuietly text) : BreaksQuietly (c :: text) := by
  obtain ⟨first, others, textCut, cut⟩ := Text.segments_cons sameLine text
  rw [BreaksQuietly, cut] at quiet
  rw [BreaksQuietly, textCut]
  cases others with
  | nil =>
      exact nofun
  | cons next rest =>
      rw [List.dropLast_cons_cons] at quiet ⊢
      obtain ⟨here, later⟩ := List.forall_mem_cons.1 quiet
      exact List.forall_mem_cons.2 ⟨here.cons noBrace, later⟩

theorem StaysQuiet.cons {c : Char} {text : List Char}
    (noBrace : c ≠ '\x7b' ∧ c ≠ '\x7d') (sameLine : c ≠ '\n')
    (quiet : StaysQuiet text) : StaysQuiet (c :: text) := by
  obtain ⟨first, others, textCut, cut⟩ := Text.segments_cons sameLine text
  rw [StaysQuiet, cut] at quiet
  rw [StaysQuiet, textCut]
  obtain ⟨here, later⟩ := List.forall_mem_cons.1 quiet
  exact List.forall_mem_cons.2 ⟨here.cons noBrace, later⟩

/-- A text without newlines and braces. -/
def IsInert (text : List Char) : Prop :=
  ∀ c ∈ text, (c ≠ '\x7b' ∧ c ≠ '\x7d') ∧ c ≠ '\n'

instance (text : List Char) : Decidable (IsInert text) :=
  List.decidableBAll _ text

theorem IsInert.append {left right : List Char} (leftInert : IsInert left)
    (rightInert : IsInert right) : IsInert (left ++ right) := by
  rw [IsInert, List.forall_mem_append]
  exact ⟨leftInert, rightInert⟩

theorem IsNameText.inert {text : String} (named : IsNameText text) :
    IsInert text.toList := by
  intro c member
  refine ⟨⟨?_, ?_⟩, ?_⟩ <;>
    · rintro rfl
      exact named _ (by decide) member

theorem IsInert.breaksQuietly_append {left right : List Char}
    (inert : IsInert left) (quiet : BreaksQuietly right) :
    BreaksQuietly (left ++ right) := by
  induction left with
  | nil =>
      exact quiet
  | cons c rest inductionHypothesis =>
      obtain ⟨here, later⟩ := List.forall_mem_cons.1 inert
      exact (inductionHypothesis later).cons here.1 here.2

theorem IsInert.staysQuiet_append {left right : List Char}
    (inert : IsInert left) (quiet : StaysQuiet right) :
    StaysQuiet (left ++ right) := by
  induction left with
  | nil =>
      exact quiet
  | cons c rest inductionHypothesis =>
      obtain ⟨here, later⟩ := List.forall_mem_cons.1 inert
      exact (inductionHypothesis later).cons here.1 here.2

/-- A quietly broken text goes on with a sign that is no brace. -/
theorem BreaksQuietly.staysQuiet_append {left right : List Char}
    {sign : Char} (quiet : BreaksQuietly left) (noBrace : sign ≠ '\x7d')
    (sameLine : sign ≠ '\n') (rightQuiet : StaysQuiet (sign :: right)) :
    StaysQuiet (left ++ sign :: right) := by
  obtain ⟨first, behind, signCut, _⟩ := Text.segments_cons sameLine right
  rw [StaysQuiet, signCut] at rightQuiet
  obtain ⟨here, later⟩ := List.forall_mem_cons.1 rightQuiet
  rw [StaysQuiet, Text.segments_append (List.dropLast_append_getLast
    (Text.segments_ne_nil '\n' left)).symm signCut, List.forall_mem_append]
  exact ⟨quiet, List.forall_mem_cons.2 ⟨here.append noBrace _, later⟩⟩

/-- A quietly broken text that does not end with a brace stays quiet. -/
theorem staysQuiet_of_endsPlainly {text : String}
    (ends : EndsPlainly text) (quiet : BreaksQuietly text.toList) :
    StaysQuiet text.toList := by
  obtain ⟨c, last, noOpening, noClosing⟩ := ends
  obtain ⟨front, textEq⟩ := List.getLast?_eq_some_iff.1 last
  rw [textEq] at quiet ⊢
  by_cases newline : c = '\n'
  · subst newline
    rw [BreaksQuietly, Text.segments_append_mark, segments,
      List.dropLast_concat] at quiet
    rw [StaysQuiet, Text.segments_append_mark, segments,
      List.forall_mem_append]
    exact ⟨quiet, List.forall_mem_singleton.2 (by decide)⟩
  · have single : StaysQuiet [c] := by
      rw [StaysQuiet, Text.segments_of_not_mem (by
        simpa using Ne.symm newline)]
      exact List.forall_mem_singleton.2
        ((by decide : IsPlainLine []).cons ⟨noOpening, noClosing⟩)
    have frontQuiet : BreaksQuietly front :=
      (breaksQuietly_append (by simpa using Ne.symm newline)).1 quiet
    exact frontQuiet.staysQuiet_append noClosing newline single

/-! ## Nests -/

def IsPackageLine (line : List Char) : Prop :=
  ∃ module, IsNameText module ∧
    line = ("package " ++ module ++ " \x7b").toList

theorem IsPackageLine.opens {line : List Char} (package : IsPackageLine line) :
    lineBrackets.opens line = true := by
  obtain ⟨module, _, rfl⟩ := package
  rw [String.toList_append, String.toList_append,
    show " \x7b".toList = [' '] ++ ['\x7b'] from rfl, ← List.append_assoc]
  exact opens_concat _

theorem IsPlainLine.not_package {line : List Char}
    (plain : IsPlainLine line) : ¬ IsPackageLine line := by
  intro package
  exact Bool.false_ne_true (plain.1.symm.trans package.opens)

theorem IsPackageLine.head? {line : List Char}
    (package : IsPackageLine line) : line.head? = some 'p' := by
  obtain ⟨module, _, rfl⟩ := package
  simp

theorem IsPackageLine.not_mem {line : List Char}
    (package : IsPackageLine line) : '>' ∉ line := by
  obtain ⟨module, named, rfl⟩ := package
  have absent := named '>' (by decide)
  simp [absent]

/-- Lines whose blocks are nested, and among which no package begins. -/
structure Nest (lines : List (List Char)) : Prop where
  balanced : lineBrackets.Balanced lines
  noPackage : ∀ line ∈ lines, ¬ IsPackageLine line

theorem nest_nil : Nest [] :=
  ⟨Brackets.balanced_nil, nofun⟩

theorem nest_of_plain {lines : List (List Char)}
    (plain : ∀ line ∈ lines, IsPlainLine line) : Nest lines :=
  ⟨Brackets.balanced_of_neutral plain,
    fun line member => (plain line member).not_package⟩

theorem Nest.append {lines others : List (List Char)} (nest : Nest lines)
    (othersNest : Nest others) : Nest (lines ++ others) where
  balanced := nest.balanced.append othersNest.balanced
  noPackage := by
    rw [List.forall_mem_append]
    exact ⟨nest.noPackage, othersNest.noPackage⟩

theorem closingLine_closes :
    lineBrackets.closes closingLine.toList = true := by
  decide

theorem closingLine_not_package : ¬ IsPackageLine closingLine.toList :=
  fun package => absurd package.head? (by decide)

/-- The last line of a text opens a block that is no package. -/
def OpensBlock (text : List Char) : Prop :=
  ∃ front last, segments '\n' text = front ++ [last] ∧
    (∀ line ∈ front, IsPlainLine line) ∧
    lineBrackets.opens last = true ∧ ¬ IsPackageLine last

theorem OpensBlock.nest {text : String} (opens : OpensBlock text.toList)
    {lines : List (List Char)} (inside : Nest lines) :
    Nest (brokenText text ++ (lines ++ brokenTexts [closingLine])) := by
  obtain ⟨front, last, cut, frontPlain, lastOpens, noPackage⟩ := opens
  have closing : brokenTexts [closingLine] = [closingLine.toList] := by
    decide
  rw [brokenText, cut, closing, List.append_assoc, List.singleton_append]
  refine (nest_of_plain frontPlain).append ⟨?_, ?_⟩
  · exact inside.balanced.enclosed lastOpens closingLine_closes
  · rw [List.forall_mem_cons, List.forall_mem_append]
    exact ⟨noPackage, inside.noPackage,
      List.forall_mem_singleton.2 closingLine_not_package⟩

/-! ## Declarations -/

theorem typeKeyword_inert (kind : TypeKind) (modifiers : List Modifier) :
    IsInert (typeKeyword kind modifiers).toList := by
  unfold typeKeyword
  split <;> cases kind <;> decide

theorem typeKeyword_head? (kind : TypeKind) (modifiers : List Modifier) :
    (typeKeyword kind modifiers).toList.head? ≠ some 'p' ∧
      (typeKeyword kind modifiers).toList ≠ [] := by
  unfold typeKeyword
  split <;> cases kind <;> decide

/-- A text in one line opens a block if it ends with the brace and does not
begin like a package. -/
theorem opensBlock_of_one_line {front : List Char} (oneLine : '\n' ∉ front)
    (other : front.head? ≠ some 'p') (something : front ≠ []) :
    OpensBlock (front ++ ['\x7b']) := by
  refine ⟨[], front ++ ['\x7b'], Text.segments_of_not_mem ?_, nofun,
    opens_concat front, ?_⟩
  · rw [List.mem_append, not_or]
    exact ⟨oneLine, by decide⟩
  · intro package
    have begins := package.head?
    rw [List.head?_append_of_ne_nil _ something] at begins
    exact other begins

/-- Behind an angle bracket that closes no package begins. -/
theorem BreaksQuietly.opensBlock_append {left right : List Char}
    (quiet : BreaksQuietly left) (oneLine : '\n' ∉ right) :
    OpensBlock (left ++ '>' :: (right ++ ['\x7b'])) := by
  have ending : '\n' ∉ '>' :: (right ++ ['\x7b']) := by
    simp [oneLine]
  refine ⟨_, _, Text.segments_append (List.dropLast_append_getLast
    (Text.segments_ne_nil '\n' left)).symm
      (Text.segments_of_not_mem ending), quiet, ?_, ?_⟩
  · rw [← List.cons_append, ← List.append_assoc]
    exact opens_concat _
  · intro package
    exact package.not_mem (List.mem_append_right _ List.mem_cons_self)

/-- A type opens a block in the line in which its parameters end. -/
theorem typeLine_opensBlock {header : TypeHeader} (named : header.Named)
    (quiet : ∀ text ∈ header.typeParameters, BreaksQuietly text.toList) :
    OpensBlock (typeLine header).toList := by
  have keyword := typeKeyword_inert header.kind header.modifiers
  have flags := typeFlags_one_line header.modifiers
  obtain ⟨notPackage, something⟩ :=
    typeKeyword_head? header.kind header.modifiers
  have blank : IsInert [' '] := by
    decide
  have front : IsInert ((typeKeyword header.kind header.modifiers).toList ++
      (' ' :: header.name.toList)) :=
    keyword.append (blank.append named.name.inert)
  cases parameters : header.typeParameters with
  | none =>
      have text : (typeLine header).toList =
          ((typeKeyword header.kind header.modifiers).toList ++
            (' ' :: header.name.toList ++
              ' ' :: (typeFlags header.modifiers).toList)) ++
                ['\x7b'] := by
        simp [toList_typeLine, parameters]
      have oneLine := fun newline => (front '\n' newline).2 rfl
      rw [text]
      refine opensBlock_of_one_line ?_ ?_ (by simp)
      · rw [← List.append_assoc, List.mem_append, not_or, List.mem_cons,
          not_or]
        exact ⟨oneLine, by decide, flags⟩
      · rw [List.head?_append_of_ne_nil _ something]
        exact notPackage
  | some written =>
      obtain ⟨before, writtenEq⟩ := List.getLast?_eq_some_iff.1
        (named.typeParameters written parameters)
      have beforeQuiet : BreaksQuietly before := by
        have whole := quiet written parameters
        rw [writtenEq] at whole
        exact (breaksQuietly_append (by decide)).1 whole
      have text : (typeLine header).toList =
          (((typeKeyword header.kind header.modifiers).toList ++
            (' ' :: header.name.toList)) ++ before) ++
              '>' :: ((' ' :: (typeFlags header.modifiers).toList) ++
                ['\x7b']) := by
        simp [toList_typeLine, parameters, writtenEq]
      rw [text]
      exact (front.breaksQuietly_append beforeQuiet).opensBlock_append
        (by simp [flags])

theorem enumerationLine_opensBlock {declared : Enumeration}
    (named : declared.Named) :
    OpensBlock (enumerationLine declared).toList := by
  rw [toList_enumerationLine]
  refine opensBlock_of_one_line ?_ (by simp) (by simp)
  simp [named.name.one_line, typeFlags_one_line]

theorem signatureText_staysQuiet {parameters : List Parameter}
    {returnType : String}
    (named : ∀ parameter ∈ parameters, IsNameText parameter.name)
    (quiet : ∀ parameter ∈ parameters,
      BreaksQuietly parameter.typeName.toList)
    (returnQuiet : StaysQuiet returnType.toList) :
    StaysQuiet (signatureText parameters returnType) := by
  have behind : IsInert [')', ' ', ':', ' '] := by
    decide
  have ending : StaysQuiet (')' :: ([' ', ':', ' '] ++ returnType.toList)) :=
    behind.staysQuiet_append returnQuiet
  induction parameters with
  | nil =>
      exact ending
  | cons parameter others inductionHypothesis =>
      obtain ⟨here, later⟩ := List.forall_mem_cons.1 named
      obtain ⟨hereQuiet, laterQuiet⟩ := List.forall_mem_cons.1 quiet
      have front : IsInert (parameter.name.toList ++ [':']) :=
        here.inert.append (by decide)
      cases others with
      | nil =>
          rw [signatureText_singleton]
          exact front.staysQuiet_append (hereQuiet.staysQuiet_append
            (by decide) (by decide) ending)
      | cons next rest =>
          have comma : IsInert [',', ' '] := by
            decide
          have further := inductionHypothesis later laterQuiet
          rw [signatureText_cons_cons]
          exact front.staysQuiet_append (hereQuiet.staysQuiet_append
            (by decide) (by decide) (comma.staysQuiet_append further))

theorem methodLine_staysQuiet {declared : Method} (named : declared.Named)
    (quiet : ∀ text ∈ declared.parameters.map Parameter.typeName ++
      [declared.returnType], BreaksQuietly text.toList) :
    StaysQuiet (methodLine declared).toList := by
  rw [List.forall_mem_append, List.forall_mem_map,
    List.forall_mem_singleton] at quiet
  have front := breaksQuietly_of_one_line named.front_one_line
  have signature := signatureText_staysQuiet named.parameters quiet.1
    (staysQuiet_of_endsPlainly named.returnType quiet.2)
  rw [toList_methodLine]
  exact front.staysQuiet_append (by decide) (by decide)
    (signature.cons (by decide) (by decide))

mutual

/-- The lines of a declaration are nested. -/
theorem nest_drawnLines :
    ∀ declaration : Declaration, declaration.Named →
      (∀ text ∈ declaration.copiedTexts, BreaksQuietly text.toList) →
        Nest (brokenTexts declaration.drawnLines)
  | .scope name members, named, quiet => by
      rw [Declaration.copiedTexts] at quiet
      rw [Declaration.drawnLines]
      exact nest_allDrawnLines members named.2 quiet
  | .type header members, named, quiet => by
      rw [Declaration.copiedTexts, List.forall_mem_append] at quiet
      have opens := typeLine_opensBlock named.1 fun text isText =>
        quiet.1 text (Option.mem_toList.2 isText)
      rw [Declaration.drawnLines, brokenTexts_cons, brokenTexts_append]
      exact opens.nest (nest_allDrawnLines members named.2 quiet.2)
  | .enumeration declared, named, _ => by
      have opens := enumerationLine_opensBlock named
      have variants : Nest (brokenTexts declared.variants) := by
        rw [brokenTexts_of_one_line fun variant member =>
          (named.variants variant member).one_line]
        apply nest_of_plain
        rw [List.forall_mem_map]
        exact fun variant member =>
          (named.variants variant member).isPlainLine
      rw [Declaration.drawnLines, enumerationLines, brokenTexts_cons,
        brokenTexts_append]
      exact opens.nest variants
  | .method declared, named, quiet => by
      rw [Declaration.copiedTexts] at quiet
      rw [Declaration.drawnLines, brokenTexts_singleton]
      exact nest_of_plain (methodLine_staysQuiet named quiet)

theorem nest_allDrawnLines :
    ∀ declarations : List Declaration, Declaration.AllNamed declarations →
      (∀ text ∈ Declaration.allCopiedTexts declarations,
        BreaksQuietly text.toList) →
        Nest (brokenTexts (Declaration.allDrawnLines declarations))
  | [], _, _ => nest_nil
  | first :: others, named, quiet => by
      rw [Declaration.allCopiedTexts, List.forall_mem_append] at quiet
      rw [Declaration.allDrawnLines, brokenTexts_append]
      exact (nest_drawnLines first named.1 quiet.1).append
        (nest_allDrawnLines others named.2 quiet.2)

end

end ClassDiagram
