import ClassDiagram.Proofs.Printing.TypeText
import ClassDiagram.Proofs.Reading.LocalMembers

/-!
# Reading printed members

Each part of a printed member is read back as itself: the modifiers, a
parameter list, an enumeration, a method and the header of a type.  What
follows the member is left as it is.
-/

namespace ClassDiagram

open Source (Token Lexeme Spelled isBlankText isBlankText_empty
  isBlankText_space)
open Reading

/-! ## Modifiers -/

theorem isIdentifier_keyword (modifier : Modifier) :
    Text.isIdentifier modifier.keyword.toList = true := by
  cases modifier <;> decide +kernel

theorem spells_behind_blank {lead text : String} {tokens : List Token}
    (spells : Spells " " tokens text) {word : String}
    (blank : isBlankText lead = true)
    (named : Text.isIdentifier word.toList = true) :
    Spells lead (⟨lead, .word word⟩ :: tokens) (word ++ " " ++ text) := by
  refine ⟨fun {later rest} spelled ended => ?_⟩
  have behind := spells.before spelled ended
  rw [String.toList_append, String.toList_append, List.append_assoc,
    List.append_assoc]
  exact .word blank named
    (Source.endsIdentifier_sign (by decide) _) behind

/-- Modifiers are spelled in front of whatever is spelled behind them, and
they fix the spacing that stands in front of it. -/
theorem exists_modifierTokens (modifiers : List Modifier) {lead : String}
    (blank : isBlankText lead = true) :
    ∃ (tokens : List Token) (next : String),
      isBlankText next = true ∧
      tokens.map Token.lexeme =
        modifiers.map (fun modifier => .word modifier.keyword) ∧
      ∀ {later : List Token} {text : String}, Spells next later text →
        Spells lead (tokens ++ later) (modifierText modifiers ++ text) := by
  induction modifiers generalizing lead with
  | nil =>
      refine ⟨[], lead, blank, rfl, ?_⟩
      intro later text spells
      rw [modifierText, List.map_nil, String.join_nil, String.empty_append]
      exact spells
  | cons modifier others inductionHypothesis =>
      obtain ⟨tokens, next, nextBlank, lexemes, spellsBefore⟩ :=
        inductionHypothesis isBlankText_space
      refine ⟨⟨lead, .word modifier.keyword⟩ :: tokens, next, nextBlank, ?_,
        ?_⟩
      · rw [List.map_cons, List.map_cons, lexemes]
      · intro later text spells
        have whole := spells_behind_blank (spellsBefore spells) blank
          (isIdentifier_keyword modifier)
        rw [modifierText, List.map_cons, String.join_cons,
          String.append_assoc]
        exact whole

theorem modifier?_keyword {token : Token} {modifier : Modifier}
    {rest : List Token} (lexeme : token.lexeme = .word modifier.keyword)
    (notRef : modifier ≠ .refWord) (wordNext : atAnyWord rest = true) :
    modifier? token rest = some modifier := by
  have accepted : acceptsModifier modifier rest = true := by
    cases modifier <;> simp_all [acceptsModifier]
  simp [modifier?, word?, lexeme, accepted]

/-- All modifiers in front of a word that is none are read. -/
theorem readModifiers_append {modifiers : List Modifier}
    {tokens rest : List Token} {next : Token}
    (lexemes : tokens.map Token.lexeme =
      modifiers.map (fun modifier => .word modifier.keyword))
    (plain : PlainModifiers modifiers) (isWord : next.isAnyWord = true)
    (noModifier : modifier? next rest = none) :
    readModifiers (tokens ++ next :: rest) = (modifiers, next :: rest) := by
  induction modifiers generalizing tokens with
  | nil =>
      cases tokens with
      | nil =>
          simp [readModifiers, noModifier]
      | cons token tokens =>
          cases lexemes
  | cons modifier others inductionHypothesis =>
      cases tokens with
      | nil =>
          cases lexemes
      | cons token tokens =>
          rw [List.map_cons, List.map_cons, List.cons.injEq] at lexemes
          have notRef : modifier ≠ .refWord := by
            rintro rfl
            exact plain List.mem_cons_self
          have further := inductionHypothesis lexemes.2 fun member =>
            plain (List.mem_cons_of_mem modifier member)
          have wordNext : atAnyWord (tokens ++ next :: rest) = true := by
            cases tokens with
            | nil =>
                exact isWord
            | cons following tokens =>
                cases others with
                | nil =>
                    cases lexemes.2
                | cons another others =>
                    rw [List.map_cons, List.map_cons, List.cons.injEq]
                      at lexemes
                    simp [atAnyWord, Token.isAnyWord, lexemes.2.1]
          rw [List.cons_append, readModifiers,
            modifier?_keyword lexemes.1 notRef wordNext]
          simp [further]

theorem skipAttributes_of_isAnyWord {token : Token} {rest : List Token}
    (isWord : token.isAnyWord = true) :
    skipAttributes (token :: rest) = .ok (token :: rest) :=
  skipAttributes_none (isMark_eq_false_of_isAnyWord isWord '[')

/-- A member is read by what stands behind its modifiers. -/
theorem readMember_modifiers {modifiers : List Modifier}
    {tokens rest : List Token} {next : Token} (enclosing : Option String)
    (lexemes : tokens.map Token.lexeme =
      modifiers.map (fun modifier => .word modifier.keyword))
    (plain : PlainModifiers modifiers) (isWord : next.isAnyWord = true)
    (noModifier : modifier? next rest = none) :
    readMember enclosing (tokens ++ next :: rest) =
      readModified enclosing modifiers (next :: rest) := by
  have noAttributes : skipAttributes (tokens ++ next :: rest) =
      .ok (tokens ++ next :: rest) := by
    cases tokens with
    | nil =>
        exact skipAttributes_of_isAnyWord isWord
    | cons token tokens =>
        cases modifiers with
        | nil =>
            cases lexemes
        | cons modifier others =>
            rw [List.map_cons, List.map_cons, List.cons.injEq] at lexemes
            apply skipAttributes_of_isAnyWord
            simp [Token.isAnyWord, lexemes.1]
  unfold readMember
  rw [noAttributes]
  simp only [readModifiers_append lexemes plain isWord noModifier]

/-! ## Parameters -/

theorem skipParameterModifiers_name {lead first : String}
    {rest : List Token} (named : isPlainName first = true) :
    skipParameterModifiers (⟨lead, .word first⟩ :: rest) =
      ⟨lead, .word first⟩ :: rest := by
  have noModifier : first ∉ parameterWords := by
    intro member
    apply not_mem_reservedWords named
    simp [reservedWords, member]
  simp [skipParameterModifiers, isParameterModifier, word?, noModifier]

theorem Parameter.Printable.exists_tokens {parameter : Parameter}
    (printable : parameter.Printable) {lead : String}
    (blank : isBlankText lead = true) :
    ∃ tokens, Spells lead tokens parameter.printed ∧
      (∀ rest, atMark ')' (tokens ++ rest) = false) ∧
      ∀ rest, atMark '=' rest = false →
        readParameter (tokens ++ rest) = .ok (parameter, rest) := by
  obtain ⟨typeTokens, isType⟩ := printable.typed.exists_tokens blank
  have nameSpells := spells_word isBlankText_space
    (isIdentifier_of_isPlainName printable.named)
  refine ⟨typeTokens ++ [⟨" ", .word parameter.name⟩], ?_, ?_, ?_⟩
  · rw [Parameter.printed, String.append_assoc]
    exact isType.spells.append (spellsBehindName_blank nameSpells)
  · intro rest
    obtain ⟨first, others, rfl, _⟩ := isType.begins
    rfl
  · intro rest noValue
    have typed := isType.skipped ⟨" ", .word parameter.name⟩ rest rfl
    have typeText := isType.verbatim_eq
    have noDefault : skipDefaultValue rest = .ok rest := by
      rw [skipDefaultValue, noValue, if_neg Bool.false_ne_true]
    have typedRead : readTypedParameter (typeTokens ++
        ⟨" ", .word parameter.name⟩ :: rest) = .ok (parameter, rest) := by
      simp only [readTypedParameter, typed, expectWord, word?, noDefault,
        taken_append, typeText]
      rfl
    obtain ⟨first, others, rfl, named, _⟩ := isType.begins
    have notAny : Token.isWord ⟨lead, .word first⟩ anyArguments = false := by
      have different := ne_of_isPlainName named anyArguments
        (by decide)
      simpa [Token.isWord] using different
    rw [List.append_assoc, List.singleton_append]
    rw [List.cons_append] at typedRead ⊢
    unfold readParameter
    rw [skipAttributes_of_isAnyWord rfl]
    simp only [skipParameterModifiers_name named, notAny,
      Bool.false_eq_true, if_false]
    exact typedRead

theorem exists_parameterTokens {parameters : List Parameter}
    (printable : ∀ parameter ∈ parameters, parameter.Printable)
    (some : parameters ≠ []) {lead : String}
    (blank : isBlankText lead = true) :
    ∃ tokens,
      Spells lead tokens (commaText (parameters.map Parameter.printed)) ∧
      (∀ rest, atMark ')' (tokens ++ rest) = false) ∧
      ∀ rest, readParameters (tokens ++ ⟨"", .mark ')'⟩ :: rest) =
        .ok (parameters, rest) := by
  induction parameters generalizing lead with
  | nil =>
      exact absurd rfl some
  | cons parameter others inductionHypothesis =>
      obtain ⟨first, firstSpells, firstBegins, firstRead⟩ :=
        (printable parameter List.mem_cons_self).exists_tokens blank
      cases others with
      | nil =>
          refine ⟨first, by simpa [commaText] using firstSpells,
            firstBegins, ?_⟩
          intro rest
          have read := firstRead (⟨"", .mark ')'⟩ :: rest) rfl
          rw [readParameters_last read rfl]
          rfl
      | cons next others =>
          obtain ⟨later, laterSpells, _, laterRead⟩ :=
            inductionHypothesis
              (fun parameter member =>
                printable parameter (List.mem_cons_of_mem _ member))
              (List.cons_ne_nil _ _) isBlankText_space
          refine ⟨first ++ ⟨"", .mark ','⟩ :: later, ?_, ?_, ?_⟩
          · rw [List.map_cons, List.map_cons, commaText_cons_cons]
            exact firstSpells.comma laterSpells
          · intro rest
            rw [List.append_assoc]
            exact firstBegins _
          · intro rest
            have read := firstRead
              (⟨"", .mark ','⟩ :: (later ++ ⟨"", .mark ')'⟩ :: rest)) rfl
            rw [List.append_assoc, List.cons_append,
              readParameters_more read rfl, List.tail_cons, laterRead]
            rfl

/-! ## Methods -/

/-- A method with an empty body is read from its printed tokens. -/
theorem readMethod_printed (enclosing : Option String)
    {declared : Method} {lead : String}
    {typeTokens parameterTokens rest : List Token}
    (named : isPlainName declared.name = true)
    (isType : IsTypeOf lead declared.returnType typeTokens)
    (read : readParameterList (parameterTokens ++ ⟨"", .mark ')'⟩ ::
        ⟨" ", .mark '\x7b'⟩ :: ⟨" ", .mark '\x7d'⟩ :: rest) =
      .ok (declared.parameters,
        ⟨" ", .mark '\x7b'⟩ :: ⟨" ", .mark '\x7d'⟩ :: rest)) :
    readMethod enclosing declared.modifiers
        (typeTokens ++ ⟨" ", .word declared.name⟩ :: ⟨"", .mark '('⟩ ::
          (parameterTokens ++ ⟨"", .mark ')'⟩ :: ⟨" ", .mark '\x7b'⟩ ::
            ⟨" ", .mark '\x7d'⟩ :: rest)) =
      .ok (some declared, rest) := by
  have skipped : ∀ behind, skipType? (typeTokens ++
      ⟨" ", .word declared.name⟩ :: behind) =
        .ok (some (⟨" ", .word declared.name⟩ :: behind)) :=
    fun behind => isType.skipped _ behind rfl
  have typeText := isType.verbatim_eq
  have noConstructor : ∀ behind, isConstructor enclosing (typeTokens ++
      ⟨" ", .word declared.name⟩ :: behind) = false := by
    intro behind
    obtain ⟨first, others, rfl, _, noParenthesis⟩ := isType.begins
    have next := noParenthesis (⟨" ", .word declared.name⟩ :: behind) rfl
    cases enclosing with
    | none =>
        rfl
    | some name =>
        simp [isConstructor, Token.isMark, next]
  have bodySkipped : skipMethodBody declared.name
      (⟨" ", .mark '\x7b'⟩ :: ⟨" ", .mark '\x7d'⟩ :: rest) =
        .ok rest := by
    rw [skipMethodBody, if_pos (by rfl)]
    exact Nested.nil.skipGroup_eq rfl rest
  unfold readMethod
  rw [noConstructor, if_neg Bool.false_ne_true, skipped]
  simp only [plainWord?_of_isPlainName named]
  rw [readMemberName_of_unqualified rfl rfl]
  have noAngles : ∀ behind : List Token,
      skipAngles (⟨"", .mark '('⟩ :: behind) = ⟨"", .mark '('⟩ :: behind :=
    fun _ => rfl
  simp only [noAngles]
  rw [if_pos (by rfl), List.tail_cons, taken_append, typeText, readMethodTail,
    read]
  simp only [bodySkipped]
  rfl

/-- A printed parameter list is spelled and read, also an empty one. -/
theorem exists_parameterListTokens {parameters : List Parameter}
    (printable : ∀ parameter ∈ parameters, parameter.Printable) :
    ∃ tokens,
      Spells "" tokens (commaText (parameters.map Parameter.printed)) ∧
      ∀ rest, readParameterList (tokens ++ ⟨"", .mark ')'⟩ :: rest) =
        .ok (parameters, rest) := by
  by_cases empty : parameters = []
  · subst empty
    exact ⟨[], spells_empty, fun _ => rfl⟩
  · obtain ⟨tokens, spells, begins, read⟩ :=
      exists_parameterTokens printable empty isBlankText_empty
    refine ⟨tokens, spells, fun rest => ?_⟩
    rw [readParameterList, begins, if_neg Bool.false_ne_true]
    exact read rest

/-! ## Types -/

/-- The generic parameters of a printed type are read as they are written. -/
theorem TypeHeader.Printable.exists_genericTokens {header : TypeHeader}
    (printable : header.Printable) :
    ∃ group, SpellsBehindName group (header.typeParameters.getD "") ∧
      ∀ rest, atMark '<' rest = false →
        readTypeParameters (group ++ rest) =
          .ok (header.typeParameters, rest) := by
  cases present : header.typeParameters with
  | none =>
      exact ⟨[], spellsBehindName_empty, fun rest noAngle =>
        readTypeParameters_absent noAngle⟩
  | some text =>
      obtain ⟨names, some, rfl, named⟩ := printable.generic text present
      obtain ⟨inner, passes, spells⟩ :=
        exists_angleTokens some fun name member lead blank =>
          ⟨_, spells_word blank
              (isIdentifier_of_isAsciiIdentifier (named name member)),
            passesAngles_word lead name⟩
      refine ⟨_, spells, fun rest _ => ?_⟩
      have verbatimText := spells.spells.verbatim
      have closed := afterAngles?_present passes rest
      have tokensEqual : ⟨"", .mark '<'⟩ :: (inner ++ [⟨"", .mark '>'⟩]) ++
          rest = ⟨"", .mark '<'⟩ :: (inner ++ ⟨"", .mark '>'⟩ :: rest) := by
        simp
      have takenEqual := taken_append
        (⟨"", .mark '<'⟩ :: (inner ++ [⟨"", .mark '>'⟩])) rest
      rw [readTypeParameters, tokensEqual, if_pos (by rfl), List.tail_cons,
        closed]
      rw [tokensEqual] at takenEqual
      simp only [takenEqual, verbatimText]

theorem readTypeOpening_printed {header : TypeHeader}
    {group : List Token} (body : List Token) (named : isPlainName header.name = true)
    (read : ∀ rest, atMark '<' rest = false →
      readTypeParameters (group ++ rest) =
        .ok (header.typeParameters, rest)) :
    readTypeOpening header.kind header.modifiers
        (⟨" ", .word header.name⟩ :: (group ++
          ⟨" ", .mark '\x7b'⟩ :: body)) =
      .ok (⟨header, true⟩, body) := by
  have notClass : Token.isWord ⟨" ", .word header.name⟩ "class" = false := by
    have different := ne_of_isPlainName named "class" (by decide)
    simpa [Token.isWord] using different
  have notStruct : Token.isWord ⟨" ", .word header.name⟩ "struct" =
      false := by
    have different := ne_of_isPlainName named "struct" (by decide)
    simpa [Token.isWord] using different
  have parametersRead := read (⟨" ", .mark '\x7b'⟩ :: body) rfl
  have entered : enterType header.name (⟨" ", .mark '\x7b'⟩ :: body) =
      .ok (true, body) := by
    rw [enterType, if_pos (by rfl)]
  simp only [readTypeOpening, skipRecordWord, notClass, notStruct,
    Bool.false_eq_true, or_self, and_false, if_false, expectWord, word?,
    parametersRead, entered]
  rfl

/-! ## Enumerations -/

theorem readVariant_name {lead name : String} {rest : List Token}
    (noValue : atMark '=' rest = false) :
    readVariant (⟨lead, .word name⟩ :: rest) = .ok (name, rest) := by
  simp only [readVariant, expectWord, word?, skipGivenValue, noValue,
    Bool.false_eq_true, if_false]
  rfl

theorem exists_variantTokens {names : List String}
    (named : ∀ name ∈ names, isPlainName name = true)
    (some : names ≠ []) {lead : String} (blank : isBlankText lead = true) :
    ∃ tokens, Spells lead tokens (commaText names) ∧
      ∀ rest, readVariants (tokens ++ ⟨" ", .mark '\x7d'⟩ :: rest) =
        .ok (names, ⟨" ", .mark '\x7d'⟩ :: rest) := by
  induction names generalizing lead with
  | nil =>
      exact absurd rfl some
  | cons name others inductionHypothesis =>
      have nameSpells := spells_word blank
        (isIdentifier_of_isPlainName (named name List.mem_cons_self))
      cases others with
      | nil =>
          refine ⟨_, by simpa [commaText] using nameSpells, ?_⟩
          intro rest
          rw [List.singleton_append,
            readVariants_eq (skipAttributes_of_isAnyWord rfl)]
          exact readBareVariants_last (readVariant_name rfl) rfl
      | cons next others =>
          obtain ⟨later, laterSpells, laterRead⟩ :=
            inductionHypothesis
              (fun name member => named name (List.mem_cons_of_mem _ member))
              (List.cons_ne_nil _ _) isBlankText_space
          refine ⟨⟨lead, .word name⟩ :: ⟨"", .mark ','⟩ :: later, ?_, ?_⟩
          · rw [commaText_cons_cons]
            exact nameSpells.comma laterSpells
          · intro rest
            rw [List.cons_append, List.cons_append,
              readVariants_eq (skipAttributes_of_isAnyWord rfl),
              readBareVariants_more (readVariant_name rfl) rfl,
              List.tail_cons, laterRead]
            rfl

/-- The body of a printed enumeration is spelled and read, also an empty
one. -/
theorem exists_variantListTokens {names : List String}
    (named : ∀ name ∈ names, isPlainName name = true) :
    ∃ tokens,
      SpellsBehindName tokens
        ((if names = [] then "" else " ") ++ commaText names) ∧
      ∀ rest, readVariants (tokens ++ ⟨" ", .mark '\x7d'⟩ :: rest) =
        .ok (names, ⟨" ", .mark '\x7d'⟩ :: rest) := by
  by_cases empty : names = []
  · subst empty
    refine ⟨[], spellsBehindName_empty, fun rest => ?_⟩
    have noAttributes : skipAttributes (⟨" ", .mark '\x7d'⟩ :: rest) =
        .ok (⟨" ", .mark '\x7d'⟩ :: rest) := skipAttributes_none rfl
    rw [List.nil_append, readVariants_eq noAttributes]
    exact readBareVariants_ended rfl
  · obtain ⟨tokens, spells, read⟩ :=
      exists_variantTokens named empty isBlankText_space
    refine ⟨tokens, ?_, read⟩
    rw [if_neg empty]
    exact spellsBehindName_blank spells

theorem readEnumeration_printed {declared : Enumeration}
    {tokens rest : List Token}
    (read : ∀ rest, readVariants (tokens ++ ⟨" ", .mark '\x7d'⟩ :: rest) =
      .ok (declared.variants, ⟨" ", .mark '\x7d'⟩ :: rest))
    (behind : atMark ';' rest = false) :
    readEnumeration declared.modifiers
        (⟨" ", .word declared.name⟩ :: ⟨" ", .mark '\x7b'⟩ ::
          (tokens ++ ⟨" ", .mark '\x7d'⟩ :: rest)) =
      .ok (declared, rest) := by
  have entered : ∀ body, enterEnumeration declared.name
      (⟨" ", .mark '\x7b'⟩ :: body) = .ok body := fun _ => rfl
  have closed : expectMark '\x7d' (⟨" ", .mark '\x7d'⟩ :: rest) =
      .ok rest := rfl
  simp only [readEnumeration, expectWord, word?, entered, read, closed]
  change Except.ok (declared, skipMark ';' rest) = _
  rw [skipMark_of_atMark_eq_false behind]

end ClassDiagram
