import ClassDiagram.Proofs.Reading.TypeEnds

/-!
# Yielded names

The names a reader answers are words it took, in the order in which they are
written.

Some readers look at a word, go back and read it again as something else.  It
is still used once, since what a reader answers is told apart from what it
has looked at: `Yields` only speaks of the tokens between the place where a
reader was called and the place it left off.
-/

namespace ClassDiagram

open Source (Token Lexeme WordsAreNames)

namespace Source

def words (tokens : List Token) : List String :=
  tokens.filterMap Reading.word?

end Source

open Source (words)

namespace Reading

/-- The second tokens are left of the first ones, and the names are words of
those that were taken, in the same order. -/
def Yields (names : List String) (tokens rest : List Token) : Prop :=
  ∃ consumed, tokens = consumed ++ rest ∧ names.Sublist (words consumed)

namespace Yields

variable {names others : List String} {tokens between rest : List Token}

theorem nothing (suffix : rest <:+ tokens) : Yields [] tokens rest := by
  obtain ⟨consumed, rfl⟩ := suffix
  exact ⟨consumed, rfl, List.nil_sublist _⟩

theorem trans (first : Yields names tokens between)
    (second : Yields others between rest) :
    Yields (names ++ others) tokens rest := by
  obtain ⟨left, rfl, leftNames⟩ := first
  obtain ⟨right, rfl, rightNames⟩ := second
  refine ⟨left ++ right, (List.append_assoc ..).symm, ?_⟩
  rw [words, List.filterMap_append]
  exact leftNames.append rightNames

theorem behind (suffix : between <:+ tokens)
    (yields : Yields names between rest) : Yields names tokens rest :=
  (nothing suffix).trans yields

theorem upTo (yields : Yields names tokens between)
    (suffix : rest <:+ between) : Yields names tokens rest := by
  have further := yields.trans (nothing suffix)
  rwa [List.append_nil] at further

theorem word {token : Token} {text : String}
    (isWord : word? token = some text) (rest : List Token) :
    Yields [text] (token :: rest) rest := by
  refine ⟨[token], rfl, ?_⟩
  rw [words, List.filterMap_cons_some isWord]
  exact List.Sublist.refl _

/-- A word and the names behind it. -/
theorem cons {token : Token} {text : String}
    (isWord : word? token = some text)
    (yields : Yields names tokens rest) :
    Yields (text :: names) (token :: tokens) rest :=
  (word isWord tokens).trans yields

/-- Where all words are names, so is what is answered. -/
theorem named (yields : Yields names tokens rest)
    (wordsNamed : WordsAreNames tokens) :
    ∀ name ∈ names, IsNameText name := by
  obtain ⟨consumed, rfl, inOrder⟩ := yields
  intro name member
  obtain ⟨token, taken, isWord⟩ :=
    List.mem_filterMap.1 (inOrder.subset member)
  exact (isNameWord_of_word? wordsNamed
    (List.mem_append_left rest taken) isWord).2

end Yields

theorem expectWord_yields {fault : SyntaxFault} {text : String}
    {tokens rest : List Token}
    (present : expectWord fault tokens = .ok (text, rest)) :
    Yields [text] tokens rest := by
  obtain ⟨token, rfl, isWord⟩ := exists_of_expectWord present
  exact .word isWord rest

/-! ## Enumerations -/

theorem readVariant_yields {tokens rest : List Token} {name : String}
    (read : readVariant tokens = .ok (name, rest)) :
    Yields [name] tokens rest := by
  unfold readVariant at read
  split at read
  · cases read
  · rename_i text behindName wordRead
    obtain ⟨behind, skipped, answer⟩ := exists_of_map_eq_ok read
    cases answer
    exact (expectWord_yields wordRead).upTo
      (skipGivenValue_passed skipped).suffix

theorem readVariants_yields {tokens rest : List Token}
    {names : List String}
    (read : readVariants tokens = .ok (names, rest)) :
    Yields names tokens rest := by
  fun_induction readVariants tokens generalizing names rest with
  | case1 | case3 =>
      cases read
  | case2 _ _ attributesSkipped =>
      cases read
      exact .nothing (skipAttributes_passed attributesSkipped).suffix
  | case4 tokens start attributesSkipped _ name behind variantRead more
      inductionHypothesis =>
      obtain ⟨result, others, answer⟩ := exists_of_map_eq_ok read
      cases answer
      have first := (readVariant_yields variantRead).upTo
        (List.tail_suffix behind)
      exact (first.trans (inductionHypothesis others)).behind
        (skipAttributes_passed attributesSkipped).suffix
  | case5 tokens start attributesSkipped _ name behind variantRead =>
      cases read
      exact (readVariant_yields variantRead).behind
        (skipAttributes_passed attributesSkipped).suffix

theorem EnumerationRead.yields {tokens : List Token}
    {declared : Enumeration} {name : Token} {body : Body}
    (read : EnumerationRead tokens declared name body) :
    Yields (declared.name :: declared.variants) tokens
      (skipMark ';' body.after) := by
  have behindBody : skipMark ';' body.after <:+ body.closer :: body.after :=
    (skipMark_passed (by decide) body.after).suffix.trans
      (List.suffix_cons body.closer body.after)
  have inside : body.inner ++ body.closer :: body.after <:+
      body.header ++ body.opened :=
    ⟨body.header ++ [body.opener], by simp [Body.opened]⟩
  have variants := (readVariants_yields read.variants).upTo behindBody
  exact (Yields.cons read.named (variants.behind inside)).behind
    (enumerationNext?_passed read.next).suffix

/-! ## Types -/

theorem Entered.suffix {hasBody : Bool} {tokens rest : List Token}
    (entered : Entered hasBody tokens rest) : rest <:+ tokens := by
  cases hasBody with
  | false =>
      exact Passed.suffix entered
  | true =>
      obtain ⟨opener, _, passed⟩ := entered
      exact (List.suffix_cons opener rest).trans passed.suffix

theorem readTypeOpening_yields {kind : TypeKind}
    {modifiers : List Modifier} {tokens rest : List Token}
    {opening : TypeOpening}
    (read : readTypeOpening kind modifiers tokens = .ok (opening, rest)) :
    Yields [opening.header.name] tokens rest := by
  unfold readTypeOpening at read
  split at read
  · cases read
  · rename_i name behindName wordRead
    split at read
    · cases read
    · rename_i typeParameters behindParameters parametersRead
      obtain ⟨⟨hasBody, behind⟩, entered, answer⟩ := exists_of_map_eq_ok read
      cases answer
      have behindKeyword := (expectWord_yields wordRead).behind
        (skipRecordWord_passed kind tokens).suffix
      exact behindKeyword.upTo ((enterType_entered entered).suffix.trans
        (readTypeParameters_passed parametersRead).suffix)

/-! ## Methods -/

theorem readTypedParameter_yields {tokens rest : List Token}
    {parameter : Parameter}
    (read : readTypedParameter tokens = .ok (parameter, rest)) :
    Yields [parameter.name] tokens rest := by
  unfold readTypedParameter at read
  split at read
  · cases read
  · cases read
  · rename_i behindType typed
    split at read
    · cases read
    · rename_i name behindName wordRead
      obtain ⟨behind, skipped, answer⟩ := exists_of_map_eq_ok read
      cases answer
      exact ((expectWord_yields wordRead).upTo
        (skipDefaultValue_passed skipped).suffix).behind
          (skipType?_passed typed).suffix

theorem readParameter_yields {tokens rest : List Token}
    {parameter : Parameter}
    (read : readParameter tokens = .ok (parameter, rest)) :
    Yields [parameter.name] tokens rest := by
  unfold readParameter at read
  split at read
  · cases read
  · rename_i behindAttributes attributesSkipped
    have start := ((skipAttributes_passed attributesSkipped).trans
      (skipParameterModifiers_passed behindAttributes)).suffix
    split at read
    · cases readTypedParameter_length_lt read
    · rename_i token others startEq
      rw [startEq] at start
      split at read
      · rename_i isAny
        cases read
        exact (Yields.word (word?_of_isWord isAny) _).behind start
      · exact (readTypedParameter_yields read).behind start

theorem readParameters_yields {tokens rest : List Token}
    {parameters : List Parameter}
    (read : readParameters tokens = .ok (parameters, rest)) :
    Yields (parameters.map Parameter.name) tokens rest := by
  fun_induction readParameters tokens generalizing parameters rest with
  | case1 =>
      cases read
  | case2 tokens parameter behind parameterRead more inductionHypothesis =>
      obtain ⟨result, others, answer⟩ := exists_of_map_eq_ok read
      cases answer
      exact ((readParameter_yields parameterRead).upTo
        (List.tail_suffix behind)).trans (inductionHypothesis others)
  | case3 tokens parameter behind parameterRead last =>
      obtain ⟨after, closed, answer⟩ := exists_of_map_eq_ok read
      obtain ⟨closer, rfl, _⟩ := exists_of_expectMark closed
      cases answer
      exact (readParameter_yields parameterRead).upTo
        (List.suffix_cons closer _)

theorem readParameterList_yields {tokens rest : List Token}
    {parameters : List Parameter}
    (read : readParameterList tokens = .ok (parameters, rest)) :
    Yields (parameters.map Parameter.name) tokens rest := by
  unfold readParameterList at read
  split at read
  · cases read
    exact .nothing (List.tail_suffix tokens)
  · exact readParameters_yields read

/-- Of a dotted name only the last part is answered; the parts in front of it
are passed over. -/
theorem readMemberName_yields {token : Token} {name : String}
    {tokens : List Token} (isWord : word? token = some name) :
    Yields [(readMemberName name tokens).1] (token :: tokens)
      (readMemberName name tokens).2 := by
  fun_induction readMemberName name tokens generalizing token with
  | case1 name tokens =>
      exact .word isWord tokens
  | case2 name tokens reached =>
      exact (Yields.word isWord tokens).upTo List.nil_suffix
  | case3 name tokens only reached =>
      exact (Yields.word isWord tokens).upTo
        (qualifierEnd?_passed reached).suffix
  | case4 name tokens dot next rest reached part isPart isDot
      inductionHypothesis =>
      have qualified := (List.suffix_cons dot (next :: rest)).trans
        (qualifierEnd?_passed reached).suffix
      exact (inductionHypothesis isPart).behind
        (qualified.trans (List.suffix_cons token tokens))
  | case5 name tokens dot next rest reached =>
      exact (Yields.word isWord tokens).upTo
        (qualifierEnd?_passed reached).suffix

theorem leaveOut_eq_none {α : Type} {tokens rest : List Token}
    {result : Option α} (skipped : leaveOut tokens = .ok (result, rest)) :
    result = none := by
  obtain ⟨behind, _, answer⟩ := exists_of_map_eq_ok skipped
  cases answer
  rfl

/-- A method is its type, a name, parameters and a body, one behind
another. -/
theorem exists_of_readMethod {enclosing : Option String}
    {modifiers : List Modifier} {tokens rest : List Token}
    {declared : Method}
    (read : readMethod enclosing modifiers tokens =
      .ok (some declared, rest)) :
    ∃ (name : Token) (behindType behindParameters : List Token)
        (first : String) (parameters : List Parameter),
      skipType? tokens = .ok (some (name :: behindType)) ∧
        word? name = some first ∧
        readParameterList
            (skipAngles (readMemberName first behindType).2).tail =
          .ok (parameters, behindParameters) ∧
        skipMethodBody (readMemberName first behindType).1
            behindParameters = .ok rest ∧
        declared = ⟨(readMemberName first behindType).1,
          Token.verbatim (taken tokens (name :: behindType)), parameters,
          modifiers⟩ := by
  unfold readMethod at read
  split at read
  · cases leaveOut_eq_none read
  · split at read
    · cases read
    · cases leaveOut_eq_none read
    · cases read
    · rename_i name behindType typed
      split at read
      · cases leaveOut_eq_none read
      · rename_i first plain
        have isWord := (Option.filter_eq_some_iff.1 plain).1
        simp only at read
        split at read
        · unfold readMethodTail at read
          split at read
          · cases read
          · rename_i parameters behindParameters parametersRead
            obtain ⟨after, body, answer⟩ := exists_of_map_eq_ok read
            cases answer
            exact ⟨name, behindType, behindParameters, first, parameters,
              typed, isWord, parametersRead, body, rfl⟩
        · cases leaveOut_eq_none read

theorem readMethod_yields {enclosing : Option String}
    {modifiers : List Modifier} {tokens rest : List Token}
    {declared : Method}
    (read : readMethod enclosing modifiers tokens =
      .ok (some declared, rest)) :
    Yields (declared.name :: declared.parameters.map Parameter.name)
      tokens rest := by
  obtain ⟨name, behindType, behindParameters, first, parameters, typed,
    isWord, parametersRead, body, rfl⟩ := exists_of_readMethod read
  have named : Yields [(readMemberName first behindType).1]
      (name :: behindType) (readMemberName first behindType).2 :=
    readMemberName_yields isWord
  have behindName := named.upTo
    ((List.tail_suffix _).trans (skipAngles_passed _).suffix)
  exact ((behindName.trans (readParameterList_yields parametersRead)).upTo
    (skipMethodBody_passed body).suffix).behind
      (skipType?_passed typed).suffix

end Reading

end ClassDiagram
