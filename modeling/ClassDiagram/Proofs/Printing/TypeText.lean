import ClassDiagram.Proofs.Printing.Spelling
import ClassDiagram.Proofs.Reading.Nesting

/-!
# Reading the text of a type

The text of a type is read back as one type, wherever a word follows.  The
tokens of the text are found by induction on its derivation, together with
everything the reader of declarations asks of them.
-/

namespace ClassDiagram

open Source (Token Lexeme isBlankText isBlankText_empty)

/-! ## Skipping a type -/

namespace Reading

def partTokens (parts : List String) : List Token :=
  parts.flatMap fun part => [⟨"", .mark '.'⟩, ⟨"", .word part⟩]

def suffixTokens (suffixes : List TypeSuffix) : List Token :=
  suffixes.flatMap fun
    | .nullable => [⟨"", .mark '?'⟩]
    | .array => [⟨"", .mark '['⟩, ⟨"", .mark ']'⟩]

/-- A word or a suffix is next, so a dotted name in front is all type. -/
def GoesOnAsType (tokens : List Token) : Prop :=
  ∃ next rest, tokens = next :: rest ∧
    (next.isAnyWord || next.isMark '?' || next.isMark '[') = true

theorem GoesOnAsType.atMark_eq_false {tokens : List Token} {c : Char}
    (goesOn : GoesOnAsType tokens) (other : c ≠ '?' ∧ c ≠ '[') :
    atMark c tokens = false := by
  obtain ⟨next, rest, rfl, kind⟩ := goesOn
  obtain ⟨lead, lexeme⟩ := next
  cases lexeme with
  | mark d =>
      have suffix : d = '?' ∨ d = '[' := by
        simpa [Token.isAnyWord, Token.isMark] using kind
      rcases suffix with rfl | rfl
      · simpa [atMark, Token.isMark] using Ne.symm other.1
      · simpa [atMark, Token.isMark] using Ne.symm other.2
  | _ =>
      rfl

theorem goesOnAsType_suffixTokens (suffixes : List TypeSuffix)
    {next : Token} (rest : List Token) (isWord : next.isAnyWord = true) :
    GoesOnAsType (suffixTokens suffixes ++ next :: rest) := by
  cases suffixes with
  | nil =>
      exact ⟨next, rest, rfl, by simp [isWord]⟩
  | cons suffix others =>
      cases suffix with
      | nullable =>
          exact ⟨_, _, rfl, rfl⟩
      | array =>
          exact ⟨_, _, rfl, rfl⟩

theorem passesAngles_partTokens (parts : List String) :
    PassesAngles (partTokens parts) := by
  induction parts with
  | nil =>
      exact passesAngles_nil
  | cons part others inductionHypothesis =>
      have dotPasses := passesAngles_mark "" (c := '.') (by decide)
        (by decide)
      exact dotPasses.cons
        ((passesAngles_word "" part).cons inductionHypothesis)

theorem passesAngles_suffixTokens (suffixes : List TypeSuffix) :
    PassesAngles (suffixTokens suffixes) := by
  induction suffixes with
  | nil =>
      exact passesAngles_nil
  | cons suffix others inductionHypothesis =>
      cases suffix with
      | nullable =>
          have markPasses := passesAngles_mark "" (c := '?') (by decide)
            (by decide)
          exact markPasses.cons inductionHypothesis
      | array =>
          have openingPasses := passesAngles_mark "" (c := '[') (by decide)
            (by decide)
          have closingPasses := passesAngles_mark "" (c := ']') (by decide)
            (by decide)
          exact openingPasses.cons (closingPasses.cons inductionHypothesis)

theorem continuesType_partTokens (parts : List String)
    {group after : List Token} (isGroup : IsAngleGroup group)
    (goesOn : GoesOnAsType after) :
    continuesType (partTokens parts ++ (group ++ after)) = true := by
  cases parts with
  | cons part others =>
      rfl
  | nil =>
      have noAngle := goesOn.atMark_eq_false (c := '<') (by decide)
      obtain ⟨next, rest, rfl, kind⟩ := goesOn
      have answer : (next.isAnyWord || next.isMark '.' || next.isMark '?' ||
          next.isMark '[' || next.isMark '*') = true := by
        simp only [Bool.or_eq_true] at kind ⊢
        rcases kind with (isWord | isMark) | isMark
        · simp [isWord]
        · simp [isMark]
        · simp [isMark]
      change continuesType (group ++ next :: rest) = true
      unfold continuesType
      by_cases opening : atMark '<' (group ++ next :: rest) = true
      · rw [if_pos opening, isGroup.closed noAngle opening]
        exact answer
      · rw [if_neg opening]
        cases isGroup with
        | absent =>
            exact answer
        | present passes =>
            exact absurd rfl opening

theorem afterQualifier?_of_goesOnAsType {tokens : List Token}
    (goesOn : GoesOnAsType tokens) : afterQualifier? tokens = none := by
  have noDot := goesOn.atMark_eq_false (c := '.') (by decide)
  have noColon := goesOn.atMark_eq_false (c := ':') (by decide)
  obtain ⟨next, rest, rfl, _⟩ := goesOn
  have heads : next.isMark '.' = false ∧ next.isMark ':' = false :=
    ⟨noDot, noColon⟩
  cases rest with
  | nil =>
      rfl
  | cons second others =>
      simp [afterQualifier?, heads]

/-- All parts of a dotted name and its type arguments belong to the type. -/
theorem skipNameParts_partTokens (parts : List String)
    {group after : List Token} (isGroup : IsAngleGroup group)
    (goesOn : GoesOnAsType after) :
    skipNameParts (partTokens parts ++ (group ++ after)) = after := by
  have noAngle := goesOn.atMark_eq_false (c := '<') (by decide)
  induction parts with
  | nil =>
      have closed : (atMark '<' (group ++ after) &&
          (afterAngles? 0 (group ++ after).tail).isNone) = false := by
        by_cases opening : atMark '<' (group ++ after) = true
        · rw [isGroup.closed noAngle opening]
          simp
        · simp [opening]
      have unqualified : afterQualifier? (skipAngles (group ++ after)) =
          none := by
        rw [isGroup.skipAngles_eq noAngle]
        exact afterQualifier?_of_goesOnAsType goesOn
      change skipNameParts (group ++ after) = after
      rw [skipNameParts_unqualified closed unqualified]
      exact isGroup.skipAngles_eq noAngle
  | cons part others inductionHypothesis =>
      have continues := continuesType_partTokens others isGroup goesOn
      have qualified : afterQualifier? (skipAngles (⟨"", .mark '.'⟩ ::
          ⟨"", .word part⟩ :: (partTokens others ++ (group ++ after)))) =
            some (partTokens others ++ (group ++ after)) := by
        rw [skipAngles_none rfl, afterQualifier?]
        simp only [continues, if_true]
        rfl
      change skipNameParts (⟨"", .mark '.'⟩ :: ⟨"", .word part⟩ ::
        (partTokens others ++ (group ++ after))) = after
      rw [skipNameParts_qualified rfl qualified]
      exact inductionHypothesis

theorem skipTypeSuffixes_suffixTokens (suffixes : List TypeSuffix)
    {next : Token} (rest : List Token) (isWord : next.isAnyWord = true) :
    skipTypeSuffixes (suffixTokens suffixes ++ next :: rest) =
      .ok (next :: rest) := by
  have noMark : ∀ c : Char, next.isMark c = false := by
    intro c
    obtain ⟨lead, lexeme⟩ := next
    cases lexeme with
    | word text =>
        rfl
    | _ =>
        cases isWord
  induction suffixes with
  | nil =>
      have noSuffix : atArraySuffix (next :: rest) = false := by
        cases rest <;> simp [atArraySuffix, noMark]
      change skipTypeSuffixes (next :: rest) = .ok (next :: rest)
      rw [skipTypeSuffixes]
      simp [noMark, noSuffix]
  | cons suffix others inductionHypothesis =>
      cases suffix with
      | nullable =>
          change skipTypeSuffixes (⟨"", .mark '?'⟩ ::
            (suffixTokens others ++ next :: rest)) = .ok (next :: rest)
          rw [skipTypeSuffixes]
          exact inductionHypothesis
      | array =>
          have skipped : skipGroup ']' (⟨"", .mark ']'⟩ ::
              (suffixTokens others ++ next :: rest)) =
                .ok (suffixTokens others ++ next :: rest) :=
            Nested.nil.skipGroup_eq rfl _
          have isSuffix : atArraySuffix (⟨"", .mark '['⟩ ::
              ⟨"", .mark ']'⟩ :: (suffixTokens others ++ next :: rest)) =
                true := rfl
          change skipTypeSuffixes (⟨"", .mark '['⟩ :: ⟨"", .mark ']'⟩ ::
            (suffixTokens others ++ next :: rest)) = .ok (next :: rest)
          rw [skipTypeSuffixes, if_neg (by decide), if_pos isSuffix]
          split
          · rename_i refused
            rw [skipped] at refused
            cases refused
          · rename_i accepted
            rw [skipped] at accepted
            cases accepted
            exact inductionHypothesis

end Reading

/-! ## Spelling a type -/

open Reading

theorem dottedText_cons (first : String) (others : List String) :
    dottedText (first :: others) =
      first ++ String.join (others.map fun part => "." ++ part) := by
  unfold dottedText
  induction others generalizing first with
  | nil =>
      simp
  | cons next others inductionHypothesis =>
      rw [String.intercalate_cons_cons, inductionHypothesis, List.map_cons,
        String.join_cons, String.append_assoc, String.append_assoc]

theorem dottedText_concat {segments : List String} (some : segments ≠ [])
    (name : String) :
    dottedText (segments ++ [name]) = dottedText segments ++ "." ++ name := by
  cases segments with
  | nil =>
      exact absurd rfl some
  | cons first others =>
      rw [List.cons_append, dottedText_cons, dottedText_cons,
        List.map_append, String.join_append, String.append_assoc,
        String.append_assoc]
      simp

theorem spellsBehindName_partTokens {parts : List String}
    (named : ∀ part ∈ parts, Text.isIdentifier part.toList = true) :
    SpellsBehindName (partTokens parts)
      (String.join (parts.map fun part => "." ++ part)) := by
  induction parts with
  | nil =>
      exact spellsBehindName_empty
  | cons part others inductionHypothesis =>
      have further := inductionHypothesis fun next member =>
        named next (List.mem_cons_of_mem part member)
      have partSpells := (spells_word isBlankText_empty
        (named part List.mem_cons_self)).append further
      rw [List.map_cons, String.join_cons, String.append_assoc]
      exact spellsBehindName_mark (c := '.') (by decide) partSpells

theorem spellsBehindName_suffixTokens (suffixes : List TypeSuffix) :
    SpellsBehindName (suffixTokens suffixes) (suffixText suffixes) := by
  unfold suffixText
  induction suffixes with
  | nil =>
      exact spellsBehindName_empty
  | cons suffix others inductionHypothesis =>
      rw [List.map_cons, String.join_cons]
      cases suffix with
      | nullable =>
          exact spellsBehindName_mark (c := '?') (by decide)
            inductionHypothesis.spells
      | array =>
          have closing := spellsBehindName_mark (c := ']') (by decide)
            inductionHypothesis.spells
          have opening := spellsBehindName_mark (c := '[') (by decide)
            closing.spells
          rw [← String.append_assoc] at opening
          exact opening

/-! ## Types and their tokens -/

/-- The tokens are written as this type behind the spacing and are read back
as one type wherever a word follows. -/
structure IsTypeOf (lead text : String) (tokens : List Token) : Prop where
  spells : Spells lead tokens text
  passes : PassesAngles tokens
  begins : ∃ first others, tokens = ⟨lead, .word first⟩ :: others ∧
    isPlainName first = true ∧
    ∀ rest, atMark '(' rest = false → atMark '(' (others ++ rest) = false
  skipped : ∀ (next : Token) (rest : List Token), next.isAnyWord = true →
    skipType? (tokens ++ next :: rest) = .ok (some (next :: rest))

theorem IsTypeOf.verbatim_eq {lead text : String} {tokens : List Token}
    (isType : IsTypeOf lead text tokens) : Token.verbatim tokens = text := by
  obtain ⟨first, others, rfl, _⟩ := isType.begins
  exact isType.spells.verbatim

theorem plainWord?_of_isPlainName {lead text : String}
    (named : isPlainName text = true) :
    plainWord? ⟨lead, .word text⟩ = some text := by
  have plain : text ∉ nonTypeWords := by
    intro member
    apply not_mem_reservedWords named
    simp [reservedWords, member]
  simp [plainWord?, word?, plain]

/-- A name that is not reserved begins a type. -/
theorem skipType?_name {lead first : String} {tokens : List Token}
    (named : isPlainName first = true) :
    skipType? (⟨lead, .word first⟩ :: tokens) =
      (skipTypeSuffixes (skipNameParts tokens)).map some := by
  have notRef : Token.isWord ⟨lead, .word first⟩ "ref" = false := by
    have different := ne_of_isPlainName named "ref" (by decide)
    simpa [Token.isWord] using different
  have notTuple : Token.isMark ⟨lead, .word first⟩ '(' = false := rfl
  simp [skipType?, skipReferenceWords, notRef, notTuple,
    plainWord?_of_isPlainName named]

/-- Every text of a type has tokens that are read back as it. -/
theorem IsTypeText.exists_tokens {text : String} (typed : IsTypeText text)
    {lead : String} (blank : isBlankText lead = true) :
    ∃ tokens, IsTypeOf lead text tokens := by
  induction typed generalizing lead with
  | @intro first others arguments suffixes named qualified applied
      inductionHypothesis =>
      obtain ⟨group, groupSpells, isGroup⟩ :=
        exists_angleGroup arguments fun argument member lead
            blank => by
          obtain ⟨tokens, isType⟩ :=
            inductionHypothesis argument member blank
          exact ⟨tokens, isType.spells, isType.passes⟩
      have partsNamed : ∀ part ∈ others,
          Text.isIdentifier part.toList = true := fun part member =>
        isIdentifier_of_isAsciiIdentifier (qualified part member)
      have behindSpells := (spellsBehindName_partTokens partsNamed).append
        (groupSpells.append (spellsBehindName_suffixTokens suffixes))
      have nameSpells := spells_word blank (isIdentifier_of_isPlainName named)
      refine ⟨⟨lead, .word first⟩ :: (partTokens others ++
        (group ++ suffixTokens suffixes)), ?_, ?_, ?_, ?_⟩
      · rw [dottedText_cons, String.append_assoc, String.append_assoc]
        exact nameSpells.append behindSpells
      · have behindPasses := (passesAngles_partTokens others).append
          (isGroup.passesAngles.append (passesAngles_suffixTokens suffixes))
        exact (passesAngles_word lead first).cons behindPasses
      · refine ⟨first, _, rfl, named, ?_⟩
        intro rest noParenthesis
        cases others with
        | cons part parts =>
            rfl
        | nil =>
            cases isGroup with
            | present passes =>
                rfl
            | absent =>
                cases suffixes with
                | nil =>
                    exact noParenthesis
                | cons suffix suffixes =>
                    cases suffix <;> rfl
      · intro next rest isWord
        have goesOn := goesOnAsType_suffixTokens suffixes rest isWord
        have nameSkipped := skipNameParts_partTokens others isGroup goesOn
        rw [List.cons_append, skipType?_name named, List.append_assoc,
          List.append_assoc, nameSkipped,
          skipTypeSuffixes_suffixTokens suffixes rest isWord]
        rfl

end ClassDiagram
