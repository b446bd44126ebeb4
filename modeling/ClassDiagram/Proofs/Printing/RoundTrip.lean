import ClassDiagram.Proofs.Printing.PrintedMembers
import ClassDiagram.Proofs.Reading.Placement

/-!
# Printed outlines are read back

The tokens of a printed declaration lead the reader of outlines from any
state in which the declaration may stand to the state with that declaration
read.  Declarations inside a body are read by the same lemma, so a printed
outline of any depth is read as itself.
-/

namespace ClassDiagram

open Source (Token Lexeme Spelled EndsIdentifier isBlankText
  isBlankText_space)
open Reading

/-! ## One step over a printed member -/

/-- A word that is not the namespace word is next. -/
def BeginsMember (tokens : List Token) : Prop :=
  ∃ token rest, tokens = token :: rest ∧ token.isAnyWord = true ∧
    token.isWord "namespace" = false

theorem BeginsMember.atMark_eq_false {tokens : List Token}
    (begins : BeginsMember tokens) (c : Char) (rest : List Token) :
    atMark c (tokens ++ rest) = false := by
  obtain ⟨token, others, rfl, isWord, _⟩ := begins
  exact isMark_eq_false_of_isAnyWord isWord c

theorem BeginsMember.append {tokens : List Token}
    (begins : BeginsMember tokens) (rest : List Token) :
    BeginsMember (tokens ++ rest) := by
  obtain ⟨token, others, rfl, isWord, noScope⟩ := begins
  exact ⟨token, others ++ rest, rfl, isWord, noScope⟩

theorem beginsMember_modifiers {modifiers : List Modifier}
    {tokens behind : List Token}
    (lexemes : tokens.map Token.lexeme =
      modifiers.map (fun modifier => .word modifier.keyword))
    (begins : BeginsMember behind) : BeginsMember (tokens ++ behind) := by
  cases tokens with
  | nil =>
      exact begins
  | cons token tokens =>
      cases modifiers with
      | nil =>
          cases lexemes
      | cons modifier others =>
          rw [List.map_cons, List.map_cons, List.cons.injEq] at lexemes
          refine ⟨token, tokens ++ behind, rfl, ?_, ?_⟩
          · simp [Token.isAnyWord, lexemes.1]
          · rw [Token.isWord, lexemes.1]
            cases modifier <;> decide

/-- A member that begins with a word is read in one step. -/
theorem step_of_readMember {frames : Frames} (members : List Declaration)
    {tokens behind : List Token} {member : Member}
    (begins : BeginsMember tokens)
    (read : readMember (enclosingType frames) tokens =
      .ok (member, behind)) :
    Step ⟨frames, members, tokens⟩
      (ReaderState.behindMember ⟨frames, members, behind⟩ member) := by
  obtain ⟨token, others, rfl, isWord, noScope⟩ := begins
  refine .member (isMark_eq_false_of_isAnyWord isWord '\x7d')
    (isMark_eq_false_of_isAnyWord isWord ';') ?_ read
  rw [noScope, Bool.false_and]

/-! ## Declarations and their tokens -/

/-- The tokens are written as this declaration behind the spacing, and they
lead the reader from before the declaration to behind it. -/
structure IsDeclarationOf (lead : String) (inside : Bool)
    (declaration : Declaration) (tokens : List Token) : Prop where
  spells : Spells lead tokens declaration.printed
  begins : ∀ rest, atMark ';' (tokens ++ rest) = false
  run : ∀ (frames : Frames) (members : List Declaration)
    (rest : List Token), insideType frames = inside →
      atMark ';' rest = false →
      Run ⟨frames, members, tokens ++ rest⟩
        ⟨frames, declaration :: members, rest⟩

structure AreDeclarationsOf (lead : String) (inside : Bool)
    (declarations : List Declaration) (tokens : List Token) : Prop where
  spells : SpellsBehindName tokens (Declaration.printedAll lead declarations)
  begins : ∀ rest, atMark ';' rest = false →
    atMark ';' (tokens ++ rest) = false
  run : ∀ (frames : Frames) (members : List Declaration)
    (rest : List Token), insideType frames = inside →
      atMark ';' rest = false →
      Run ⟨frames, members, tokens ++ rest⟩
        ⟨frames, declarations.reverse ++ members, rest⟩

theorem areDeclarationsOf_nil (lead : String) (inside : Bool) :
    AreDeclarationsOf lead inside [] [] := by
  refine ⟨spellsBehindName_empty, fun _ other => other, ?_⟩
  intro frames members rest _ _
  exact .refl

theorem IsDeclarationOf.cons {lead : String} {inside : Bool}
    {first : Declaration} {others : List Declaration}
    {tokens later : List Token}
    (separates : ∀ rest : List Char, EndsIdentifier (lead.toList ++ rest))
    (isFirst : IsDeclarationOf lead inside first tokens)
    (areOthers : AreDeclarationsOf lead inside others later) :
    AreDeclarationsOf lead inside (first :: others) (tokens ++ later) := by
  refine ⟨?_, ?_, ?_⟩
  · rw [Declaration.printedAll]
    exact (spellsBehindName_of_lead separates isFirst.spells).append
      areOthers.spells
  · intro rest _
    rw [List.append_assoc]
    exact isFirst.begins _
  · intro frames members rest place behind
    have firstRun := isFirst.run frames members (later ++ rest) place
      (areOthers.begins rest behind)
    have othersRun := areOthers.run frames (first :: members) rest place
      behind
    rw [List.append_assoc, List.reverse_cons, List.append_assoc]
    exact firstRun.trans othersRun

/-! ## Bodies -/

/-- What stands in braces is spelled with them. -/
theorem spellsBehindName_braces {text : String} {tokens : List Token}
    (inner : SpellsBehindName tokens text) :
    SpellsBehindName
      (⟨" ", .mark '\x7b'⟩ :: (tokens ++ [⟨" ", .mark '\x7d'⟩]))
      (" \x7b" ++ text ++ " \x7d") := by
  have closing : Spells " " [⟨" ", .mark '\x7d'⟩] "\x7d" :=
    ⟨fun spelled _ =>
      .mark isBlankText_space (Source.isPlainMark_of_isPlainSign (by decide))
        spelled⟩
  have closed := inner.append (spellsBehindName_blank closing)
  have opening : Spells " "
      (⟨" ", .mark '\x7b'⟩ :: (tokens ++ [⟨" ", .mark '\x7d'⟩]))
      ("\x7b" ++ (text ++ " \x7d")) := by
    refine ⟨fun {later rest} spelled ended => ?_⟩
    have behind := closed.spells.before spelled ended
    rw [String.toList_append, List.append_assoc]
    exact .mark isBlankText_space
      (Source.isPlainMark_of_isPlainSign (by decide)) behind
  have whole := spellsBehindName_blank opening
  rw [String.append_assoc]
  rw [← String.append_assoc] at whole
  exact whole

/-- A body that was opened is read to its closing brace. -/
theorem run_body {opening : Opening} {frames : Frames}
    {before members : List Declaration} {inside : Bool}
    {tokens rest : List Token}
    (areMembers : AreDeclarationsOf " " inside members tokens)
    (place : insideType (⟨opening, before⟩ :: frames) = inside)
    (braced : opening.isBraced = true) (behind : atMark ';' rest = false) :
    Run ⟨⟨opening, before⟩ :: frames, [],
        tokens ++ ⟨" ", .mark '\x7d'⟩ :: rest⟩
      ⟨frames, opening.close members :: before, rest⟩ := by
  have inner := areMembers.run (⟨opening, before⟩ :: frames) []
    (⟨" ", .mark '\x7d'⟩ :: rest) place rfl
  have closes : Step
      ⟨⟨opening, before⟩ :: frames, members.reverse,
        ⟨" ", .mark '\x7d'⟩ :: rest⟩
      ⟨frames, opening.close members.reverse.reverse :: before,
        skipMark ';' rest⟩ := .close rfl braced
  rw [List.reverse_reverse, skipMark_of_atMark_eq_false behind] at closes
  rw [List.append_nil] at inner
  exact inner.tail closes

/-! ## Namespaces -/

theorem readNameParts_partTokens (name : String) (parts : List String)
    {rest : List Token} (behind : atMark '.' rest = false) :
    readNameParts name (partTokens parts ++ rest) =
      .ok (name ++ String.join (parts.map fun part => "." ++ part),
        rest) := by
  induction parts generalizing name with
  | nil =>
      rw [List.map_nil, String.join_nil, String.append_empty]
      change readNameParts name rest = _
      match rest with
      | [] =>
          rfl
      | [only] =>
          have noDot : only.isMark '.' = false := behind
          rw [readNameParts, noDot, if_neg Bool.false_ne_true]
      | first :: next :: others =>
          have noDot : first.isMark '.' = false := behind
          rw [readNameParts, noDot, if_neg Bool.false_ne_true]
  | cons part others inductionHypothesis =>
      change readNameParts name (⟨"", .mark '.'⟩ :: ⟨"", .word part⟩ ::
        (partTokens others ++ rest)) = _
      rw [readNameParts, if_pos (by rfl)]
      simp only [word?]
      rw [inductionHypothesis, List.map_cons, String.join_cons,
        String.append_assoc, String.append_assoc, String.append_assoc]

theorem readScopeOpening_printed {first : String} (others : List String)
    (body : List Token) :
    readScopeOpening (⟨" ", .word first⟩ :: (partTokens others ++
        ⟨" ", .mark '\x7b'⟩ :: body)) =
      .ok (.block (dottedText (first :: others)), body) := by
  have bodyNext : atMark '.' (⟨" ", .mark '\x7b'⟩ :: body) = false := rfl
  have nameRead := readNameParts_partTokens first others bodyNext
  rw [← dottedText_cons] at nameRead
  simp only [readScopeOpening, readDottedName, expectWord, word?, nameRead]
  rfl

theorem isDeclarationOf_scope {lead first : String} {others : List String}
    {members : List Declaration} {tokens : List Token}
    (blank : isBlankText lead = true)
    (named : ∀ part ∈ first :: others, Text.isIdentifier part.toList = true)
    (areMembers : AreDeclarationsOf " " false members tokens) :
    IsDeclarationOf lead false
      (.scope (dottedText (first :: others)) members)
      (⟨lead, .word "namespace"⟩ :: ⟨" ", .word first⟩ ::
        (partTokens others ++
          ⟨" ", .mark '\x7b'⟩ :: (tokens ++ [⟨" ", .mark '\x7d'⟩]))) := by
  refine ⟨?_, fun rest => rfl, ?_⟩
  · have partsSpell := spellsBehindName_partTokens fun part member =>
      named part (List.mem_cons_of_mem first member)
    have nameSpells := (spells_word isBlankText_space
      (named first List.mem_cons_self)).append
        (partsSpell.append (spellsBehindName_braces areMembers.spells))
    have scopeWord : Text.isIdentifier "namespace".toList = true := by
      decide +kernel
    have whole := spells_behind_blank nameSpells blank scopeWord
    rw [Declaration.printed, dottedText_cons]
    simpa [String.append_assoc] using whole
  · intro frames before rest place behind
    have opened : Step
        ⟨frames, before, ⟨lead, .word "namespace"⟩ :: ⟨" ", .word first⟩ ::
          (partTokens others ++ ⟨" ", .mark '\x7b'⟩ ::
            (tokens ++ ⟨" ", .mark '\x7d'⟩ :: rest))⟩
        ⟨⟨.block (dottedText (first :: others)), before⟩ :: frames, [],
          tokens ++ ⟨" ", .mark '\x7d'⟩ :: rest⟩ :=
      .enter rfl place (readScopeOpening_printed others _)
    have inner : Run
        ⟨⟨.block (dottedText (first :: others)), before⟩ :: frames, [],
          tokens ++ ⟨" ", .mark '\x7d'⟩ :: rest⟩
        ⟨frames, .scope (dottedText (first :: others)) members :: before,
          rest⟩ := run_body areMembers rfl rfl behind
    refine .head ?_ inner
    simpa using opened

/-! ## Types -/

theorem readModified_type {enclosing : Option String} {lead : String}
    {header : TypeHeader} {behind body : List Token}
    (read : readTypeOpening header.kind header.modifiers
        (⟨" ", .word header.name⟩ :: behind) =
      .ok (⟨header, true⟩, body)) :
    readModified enclosing header.modifiers
        (⟨lead, .word header.kind.keyword⟩ ::
          ⟨" ", .word header.name⟩ :: behind) =
      .ok (.opened header, body) := by
  have declared : nextKind? (⟨lead, .word header.kind.keyword⟩ ::
      ⟨" ", .word header.name⟩ :: behind) = some header.kind := by
    simp [nextKind?, declaredKind?, word?, atAnyWord, Token.isAnyWord]
  rw [readModified_of_kind rfl declared, read]
  rfl

theorem modifier?_eq_none (lead : String) {text : String}
    (other : ∀ modifier : Modifier, modifier.keyword ≠ text)
    (rest : List Token) : modifier? ⟨lead, .word text⟩ rest = none := by
  have noModifier : Modifier.ofKeyword? text = none := by
    cases found : Modifier.ofKeyword? text with
    | none =>
        rfl
    | some modifier =>
        exact absurd (Modifier.keyword_of_ofKeyword? found) (other modifier)
  simp [modifier?, word?, noModifier]

theorem isDeclarationOf_type {lead : String} {inside : Bool}
    {header : TypeHeader} {members : List Declaration}
    {tokens : List Token} (blank : isBlankText lead = true)
    (printable : header.Printable)
    (areMembers : AreDeclarationsOf " " true members tokens) :
    ∃ typeTokens,
      IsDeclarationOf lead inside (.type header members) typeTokens := by
  obtain ⟨modifierTokens, next, nextBlank, lexemes, spellsBefore⟩ :=
    exists_modifierTokens header.modifiers blank
  obtain ⟨group, groupSpells, groupRead⟩ := printable.exists_genericTokens
  have begins : BeginsMember (modifierTokens ++
      ⟨next, .word header.kind.keyword⟩ :: ⟨" ", .word header.name⟩ ::
        (group ++ ⟨" ", .mark '\x7b'⟩ ::
          (tokens ++ [⟨" ", .mark '\x7d'⟩]))) := by
    refine beginsMember_modifiers lexemes ⟨_, _, rfl, rfl, ?_⟩
    cases header.kind <;> rfl
  refine ⟨_, ?_, begins.atMark_eq_false ';', ?_⟩
  · have nameSpells := (spells_word isBlankText_space
      (isIdentifier_of_isPlainName printable.named)).append
        (groupSpells.append (spellsBehindName_braces areMembers.spells))
    have kindWord :
        Text.isIdentifier header.kind.keyword.toList = true := by
      cases header.kind <;> decide +kernel
    have whole := spellsBefore
      (spells_behind_blank nameSpells nextBlank kindWord)
    rw [Declaration.printed, TypeHeader.printed]
    simpa [String.append_assoc] using whole
  · intro frames before rest place behind
    have notKeyword : ∀ modifier : Modifier,
        modifier.keyword ≠ header.kind.keyword := by
      intro modifier
      cases modifier <;> cases header.kind <;> decide
    have noModifier := modifier?_eq_none next notKeyword
      (⟨" ", .word header.name⟩ :: (group ++ ⟨" ", .mark '\x7b'⟩ ::
        (tokens ++ ⟨" ", .mark '\x7d'⟩ :: rest)))
    have opened := readTypeOpening_printed
      (tokens ++ ⟨" ", .mark '\x7d'⟩ :: rest) printable.named groupRead
    have read := readMember_modifiers (enclosingType frames) lexemes
      printable.modified rfl noModifier
    rw [readModified_type opened] at read
    have step := step_of_readMember before (begins.append rest)
      (by simpa using read)
    exact .head step (run_body areMembers rfl rfl behind)

/-! ## Enumerations -/

theorem readModified_enumeration {enclosing : Option String}
    {lead : String} {declared : Enumeration} {behind rest : List Token}
    (read : readEnumeration declared.modifiers behind =
      .ok (declared, rest)) :
    readModified enclosing declared.modifiers
        (⟨lead, .word "enum"⟩ :: behind) =
      .ok (.complete (.enumeration declared), rest) := by
  rw [readModified_of_enum rfl rfl rfl, read]
  rfl

theorem isDeclarationOf_enumeration {lead : String} {inside : Bool}
    {declared : Enumeration} (blank : isBlankText lead = true)
    (printable : declared.Printable) :
    ∃ tokens, IsDeclarationOf lead inside (.enumeration declared)
      tokens := by
  obtain ⟨modifierTokens, next, nextBlank, lexemes, spellsBefore⟩ :=
    exists_modifierTokens declared.modifiers blank
  obtain ⟨variantTokens, variantsSpell, variantsRead⟩ :=
    exists_variantListTokens printable.variants
  have begins : BeginsMember (modifierTokens ++
      ⟨next, .word "enum"⟩ :: ⟨" ", .word declared.name⟩ ::
        ⟨" ", .mark '\x7b'⟩ ::
          (variantTokens ++ [⟨" ", .mark '\x7d'⟩])) :=
    beginsMember_modifiers lexemes ⟨_, _, rfl, rfl, rfl⟩
  refine ⟨_, ?_, begins.atMark_eq_false ';', ?_⟩
  · have nameSpells := (spells_word isBlankText_space
      (isIdentifier_of_isPlainName printable.named)).append
        (spellsBehindName_braces variantsSpell)
    have enumWord : Text.isIdentifier "enum".toList = true := by
      decide +kernel
    have whole := spellsBefore
      (spells_behind_blank nameSpells nextBlank enumWord)
    rw [Declaration.printed, Enumeration.printed]
    simpa [String.append_assoc] using whole
  · intro frames before rest place behind
    have notKeyword : ∀ modifier : Modifier,
        modifier.keyword ≠ "enum" := by
      intro modifier
      cases modifier <;> decide
    have noModifier := modifier?_eq_none next notKeyword
      (⟨" ", .word declared.name⟩ :: ⟨" ", .mark '\x7b'⟩ ::
        (variantTokens ++ ⟨" ", .mark '\x7d'⟩ :: rest))
    have enumerated := readEnumeration_printed variantsRead behind
    have read := readMember_modifiers (enclosingType frames) lexemes
      printable.modified rfl noModifier
    rw [readModified_enumeration enumerated] at read
    have step := step_of_readMember before (begins.append rest)
      (by simpa using read)
    exact .single step

/-! ## Methods -/

/-- A word that begins no other member is read as the beginning of a
method. -/
theorem readModified_method {enclosing : Option String} {lead first : String}
    {declared : Method} {behind rest : List Token}
    (named : isPlainName first = true)
    (read : readMethod enclosing declared.modifiers
        (⟨lead, .word first⟩ :: behind) =
      .ok (some declared, rest)) :
    readModified enclosing declared.modifiers
        (⟨lead, .word first⟩ :: behind) =
      .ok (methodMember enclosing (some declared), rest) := by
  have noKind : TypeKind.ofKeyword? first = none := by
    cases found : TypeKind.ofKeyword? first with
    | none =>
        rfl
    | some kind =>
        have keyword := TypeKind.keyword_of_ofKeyword? found
        have different := ne_of_isPlainName named kind.keyword
          (by cases kind <;> decide)
        exact absurd keyword.symm different
  have notDeclared : nextKind? (⟨lead, .word first⟩ :: behind) = none := by
    simp [nextKind?, declaredKind?, word?, noKind]
  have notEnum : atWord "enum" (⟨lead, .word first⟩ :: behind) = false := by
    have different := ne_of_isPlainName named "enum" (by decide)
    simpa [atWord, Token.isWord] using different
  rw [readModified_of_method rfl notDeclared notEnum, read]
  rfl

theorem isDeclarationOf_method {lead : String} {declared : Method}
    (blank : isBlankText lead = true) (printable : declared.Printable) :
    ∃ tokens, IsDeclarationOf lead true (.method declared) tokens := by
  obtain ⟨modifierTokens, next, nextBlank, lexemes, spellsBefore⟩ :=
    exists_modifierTokens declared.modifiers blank
  obtain ⟨typeTokens, isType⟩ := printable.returned.exists_tokens nextBlank
  obtain ⟨parameterTokens, parametersSpell, parametersRead⟩ :=
    exists_parameterListTokens printable.parameters
  obtain ⟨first, others, rfl, named, _⟩ := isType.begins
  have notKeyword : ∀ modifier : Modifier, modifier.keyword ≠ first := by
    intro modifier
    refine (ne_of_isPlainName named _ ?_).symm
    cases modifier <;> decide
  have notNamespace : Token.isWord ⟨next, .word first⟩ "namespace" =
      false := by
    have different := ne_of_isPlainName named "namespace"
      (by decide)
    simpa [Token.isWord] using different
  have begins : BeginsMember (modifierTokens ++ ⟨next, .word first⟩ ::
      (others ++ ⟨" ", .word declared.name⟩ :: ⟨"", .mark '('⟩ ::
        (parameterTokens ++ ⟨"", .mark ')'⟩ :: ⟨" ", .mark '\x7b'⟩ ::
          [⟨" ", .mark '\x7d'⟩]))) :=
    beginsMember_modifiers lexemes ⟨_, _, rfl, rfl, notNamespace⟩
  refine ⟨_, ?_, begins.atMark_eq_false ';', ?_⟩
  · have body := spellsBehindName_braces spellsBehindName_empty
    have closing := spellsBehindName_mark (c := ')') (by decide)
      body.spells
    have list := spellsBehindName_mark (c := '(') (by decide)
      (parametersSpell.append closing)
    have nameSpells := (spells_word isBlankText_space
      (isIdentifier_of_isPlainName printable.named)).append list
    have whole := spellsBefore
      (isType.spells.append (spellsBehindName_blank nameSpells))
    rw [Declaration.printed, Method.printed]
    simpa [String.append_assoc] using whole
  · intro frames before rest place behind
    have listRead : readParameterList (parameterTokens ++
        ⟨"", .mark ')'⟩ :: ⟨" ", .mark '\x7b'⟩ ::
          ⟨" ", .mark '\x7d'⟩ :: rest) = .ok (declared.parameters,
        ⟨" ", .mark '\x7b'⟩ :: ⟨" ", .mark '\x7d'⟩ :: rest) :=
      parametersRead _
    have methodRead := readMethod_printed (enclosingType frames)
      printable.named isType listRead
    have read := readMember_modifiers (enclosingType frames) lexemes
      printable.modified rfl
      (modifier?_eq_none next notKeyword
        (others ++ ⟨" ", .word declared.name⟩ :: ⟨"", .mark '('⟩ ::
          (parameterTokens ++ ⟨"", .mark ')'⟩ :: ⟨" ", .mark '\x7b'⟩ ::
            ⟨" ", .mark '\x7d'⟩ :: rest)))
    rw [List.cons_append] at methodRead
    rw [readModified_method named methodRead] at read
    have step := step_of_readMember before (begins.append rest)
      (by simpa using read)
    have inside : ∃ name, enclosingType frames = some name :=
      Option.isSome_iff_exists.1 place
    obtain ⟨name, encloses⟩ := inside
    rw [encloses] at step
    exact .single step

/-! ## Declarations of any depth -/

mutual

theorem exists_isDeclarationOf (declaration : Declaration) (inside : Bool)
    (printable : declaration.Printable inside) (lead : String)
    (blank : isBlankText lead = true) :
    ∃ tokens, IsDeclarationOf lead inside declaration tokens := by
  cases declaration with
  | scope name members =>
      obtain ⟨rfl, ⟨parts, some, rfl, named⟩, membersPrintable⟩ := printable
      obtain ⟨tokens, areMembers⟩ := exists_areDeclarationsOf members false
        membersPrintable " " (by decide)
        (Source.endsIdentifier_sign (by decide))
      cases parts with
      | nil =>
          exact absurd rfl some
      | cons first others =>
          exact ⟨_, isDeclarationOf_scope blank (fun part member =>
            isIdentifier_of_isPlainName (named part member)) areMembers⟩
  | type header members =>
      obtain ⟨headerPrintable, membersPrintable⟩ := printable
      obtain ⟨tokens, areMembers⟩ := exists_areDeclarationsOf members true
        membersPrintable " " (by decide)
        (Source.endsIdentifier_sign (by decide))
      exact isDeclarationOf_type blank headerPrintable areMembers
  | enumeration declared =>
      exact isDeclarationOf_enumeration blank printable
  | method declared =>
      obtain ⟨rfl, methodPrintable⟩ := printable
      exact isDeclarationOf_method blank methodPrintable

theorem exists_areDeclarationsOf (declarations : List Declaration)
    (inside : Bool)
    (printable : Declaration.AllPrintable inside declarations)
    (lead : String) (blank : isBlankText lead = true)
    (separates : ∀ rest : List Char,
      EndsIdentifier (lead.toList ++ rest)) :
    ∃ tokens, AreDeclarationsOf lead inside declarations tokens := by
  cases declarations with
  | nil =>
      exact ⟨[], areDeclarationsOf_nil lead inside⟩
  | cons first others =>
      obtain ⟨firstPrintable, othersPrintable⟩ := printable
      obtain ⟨tokens, isFirst⟩ :=
        exists_isDeclarationOf first inside firstPrintable lead blank
      obtain ⟨later, areOthers⟩ :=
        exists_areDeclarationsOf others inside othersPrintable lead blank
          separates
      exact ⟨tokens ++ later, isFirst.cons separates areOthers⟩

end

/-- An outline that is written as a source is read back as it was: every
declaration in its place and order, every modifier, type and parameter as
written. -/
theorem readSource_printed {outline : Outline}
    (printable : Declaration.AllPrintable false outline) :
    readSource outline.printed = .ok outline := by
  obtain ⟨tokens, areDeclarations⟩ :=
    exists_areDeclarationsOf outline false printable "\n" (by decide)
      (fun rest => endsIdentifier_mark (c := '\n') rest (by decide +kernel))
  have spelled := areDeclarations.spells.spells.before .done
    (by simp [EndsIdentifier])
  rw [List.append_nil, List.append_nil] at spelled
  have run := areDeclarations.run [] [] [] rfl rfl
  rw [List.append_nil, List.append_nil] at run
  have read := run.outline_eq
  have closed : readFrom [] outline.reverse [] = .ok outline := by
    rw [readFrom.eq_def]
    simp [closeAll]
  rw [readSource_ok_iff]
  exact ⟨⟨tokens, ""⟩, spelled.tokenize_eq, read.trans closed⟩

def shopOutline : Outline :=
  [.scope "Shop.Orders"
    [.scope "Inner" [],
      .type ⟨.classWord, "Box", some "<T, U>", [.publicWord, .partialWord]⟩
        [.method ⟨"Find", "Map<string, List<int?>[]>",
          [⟨"key", "System.Text.Rune"⟩, ⟨"at", "int"⟩],
          [.privateWord, .asyncWord]⟩,
          .enumeration ⟨"Kind", [], ["Open", "Closed"]⟩]],
    .type ⟨.recordWord, "Note", none, []⟩ []]

theorem shopOutline_read_back :
    Declaration.AllPrintable false shopOutline ∧
      readSource ("\nnamespace Shop.Orders \x7b namespace Inner \x7b \x7d" ++
        " public partial class Box<T, U> \x7b private async" ++
        " Map<string, List<int?>[]> Find(System.Text.Rune key, int at)" ++
        " \x7b \x7d enum Kind \x7b Open, Closed \x7d \x7d \x7d" ++
        "\nrecord Note \x7b \x7d") = .ok shopOutline := by
  have int : IsTypeText "int" :=
    @IsTypeText.intro "int" [] [] [] (by decide +kernel) nofun nofun
  have nullable : IsTypeText "int?" :=
    @IsTypeText.intro "int" [] [] [.nullable] (by decide +kernel) nofun nofun
  have string : IsTypeText "string" :=
    @IsTypeText.intro "string" [] [] [] (by decide +kernel) nofun nofun
  have rune : IsTypeText "System.Text.Rune" :=
    @IsTypeText.intro "System" ["Text", "Rune"] [] [] (by decide +kernel)
      (by decide +kernel) nofun
  have list : IsTypeText "List<int?>[]" :=
    @IsTypeText.intro "List" [] ["int?"] [.array] (by decide +kernel) nofun
      (by simpa using nullable)
  have map : IsTypeText "Map<string, List<int?>[]>" :=
    @IsTypeText.intro "Map" [] ["string", "List<int?>[]"] []
      (by decide +kernel) nofun (by simpa using ⟨string, list⟩)
  have printable : Declaration.AllPrintable false shopOutline := by
    refine ⟨⟨rfl, ⟨["Shop", "Orders"], by decide, by decide +kernel,
        by decide +kernel⟩, ⟨rfl, ⟨["Inner"], by decide, by decide +kernel,
        by decide +kernel⟩, trivial⟩, ⟨?_, ⟨rfl, ?_⟩, ?_, trivial⟩, trivial⟩,
      ⟨?_, trivial⟩, trivial⟩
    · refine ⟨by decide +kernel, by decide +kernel, ?_⟩
      rintro _ ⟨⟩
      exact ⟨["T", "U"], by decide, by decide +kernel, by decide +kernel⟩
    · refine ⟨by decide +kernel, by decide +kernel, map, ?_⟩
      intro parameter member
      simp only [List.mem_cons, List.not_mem_nil, or_false] at member
      rcases member with rfl | rfl
      · exact ⟨by decide +kernel, rune⟩
      · exact ⟨by decide +kernel, int⟩
    · exact ⟨by decide +kernel, by decide +kernel, by decide +kernel⟩
    · exact ⟨by decide +kernel, by decide +kernel, nofun⟩
  refine ⟨printable, ?_⟩
  have read := readSource_printed printable
  rw [← read]
  congr 1

end ClassDiagram
