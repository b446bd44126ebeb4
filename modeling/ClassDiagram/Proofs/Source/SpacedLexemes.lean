import ClassDiagram.Proofs.Source.LexemeForms

/-!
# Lexemes behind single spaces

Whether some characters make a lexeme depends on the text behind them, however
far away: what opens a literal or a comment that is never ended falls back to
shorter lexemes.  The lexemes of a text may therefore not be put into another
text just anywhere.

Behind a space they may.  A form that ends itself never looks further, the
other forms are ended by the space, and a mark that could have opened something
longer no longer can, because the space follows at once.  Only literals with
holes are left out, since not all that is read in them ends itself.
-/

namespace ClassDiagram.Source

open Scanner
open Text (isIdentifier isIdentifierStart isSpacing)

variable {text part rest : List Char} {c : Char} {lexeme : Lexeme}
  {lexemes : List Lexeme} {source : Tokenized}

/-! ## Lexemes that stand alone -/

/-- What begins no literal, no word, no number and no trivia but perhaps a
comment. -/
structure IsBareMark (c : Char) : Prop where
  free : c ∉ ['"', '\'', '$', '#']
  notDigit : c.isDigit = false
  notBlank : isSpacing c = false
  noStart : isIdentifierStart c = false

/-- The lexemes that are read wherever a space or the end of the text follows
them. -/
inductive StandsAlone : Lexeme → Prop
  | raw {text : List Char} (isRaw : IsRawText text) :
      StandsAlone (.literal (String.ofList text))
  | literal {text : List Char} (wellFormed : IsLiteral text) :
      StandsAlone (.literal (String.ofList text))
  | number {digit : Char} {others : List Char}
      (isDigit : digit.isDigit = true)
      (parts : ∀ c ∈ others, isNumberPart c = true) :
      StandsAlone (.literal (String.ofList (digit :: others)))
  | arrow : StandsAlone .arrow
  | word {text : List Char} (named : isIdentifier text = true) :
      StandsAlone (.word (String.ofList text))
  | verbatimWord {text : List Char} (named : isIdentifier text = true) :
      StandsAlone (.word (String.ofList ('@' :: text)))
  | mark {c : Char} (bare : IsBareMark c) : StandsAlone (.mark c)

/-- Whatever is read of a text without dollar signs stands alone. -/
theorem standsAlone_of_readLexeme
    (noTrivia : triviaPiece.Refuses (part ++ rest)) (noDollar : '$' ∉ part)
    (read : (readLexeme tokenForms (part ++ rest)).found? =
      some ⟨lexeme, ⟨part, rest⟩⟩) :
    StandsAlone lexeme := by
  simp only [tokenForms, readLexeme_cons_iff] at read
  rcases read with ⟨literalRead, rfl⟩ | ⟨-, ⟨numberRead, rfl⟩ |
    ⟨noNumber, ⟨-, rfl⟩ | ⟨-, ⟨wordRead, rfl⟩ |
      ⟨noWord, ⟨markRead, rfl⟩ | ⟨-, nothing⟩⟩⟩⟩⟩
  · rcases exists_form_of_no_dollar noDollar literalRead with
      isRaw | wellFormed
    · exact .raw isRaw
    · exact .literal wellFormed
  · obtain ⟨digit, others, rfl, isDigit, parts, -⟩ :=
      number_reads_iff.1 numberRead
    exact .number isDigit parts
  · exact .arrow
  · obtain ⟨-, named | ⟨word, rfl, named⟩⟩ :=
      identifier_reads_iff.1 wordRead
    · exact .word named
    · exact .verbatimWord named
  · obtain ⟨c, rfl, notQuote⟩ := reads_one_iff.1 markRead
    obtain ⟨notBlank, notSign⟩ := not_trivial_of_refuses noTrivia
    have notDigit :=
      refuses_one_iff.1 (refuses_andThen_many_iff.1 noNumber) c rfl
    have notDollar : c ≠ '$' := by
      rintro rfl
      exact noDollar List.mem_cons_self
    have notHash : c ≠ '#' := by
      rintro rfl
      exact notSign rfl
    have free : c ∉ ['"', '\'', '$', '#'] := by
      simpa [notDollar, notHash] using notQuote
    exact .mark ⟨free, notDigit, notBlank c rfl,
      isIdentifierStart_eq_false_of_refuses noWord⟩
  · cases nothing

def SpaceFollows (rest : List Char) : Prop :=
  ∀ c ∈ rest.head?, c = ' '

theorem SpaceFollows.head?_ne (spaced : SpaceFollows rest)
    (other : c ≠ ' ') : rest.head? ≠ some c := by
  intro equal
  exact other (spaced c equal)

theorem SpaceFollows.refused (spaced : SpaceFollows rest)
    {accepts : Char → Bool} (foreign : accepts ' ' = false) :
    ∀ c ∈ rest.head?, accepts c = false := by
  intro c member
  rw [spaced c member]
  exact foreign

/-- In front of a lexeme that stands alone there is no trivia. -/
theorem StandsAlone.triviaPiece_refuses (alone : StandsAlone lexeme)
    (spaced : SpaceFollows rest) :
    triviaPiece.Refuses (lexeme.text.toList ++ rest) := by
  cases alone with
  | raw isRaw =>
      obtain ⟨c, behind, rfl, mark⟩ := isRaw.exists_mark
      rw [Lexeme.text, String.toList_ofList]
      exact portion?_triviaPiece_of_beginsLexeme
        (beginsLexeme_of_mem_literalMarks mark (behind ++ rest))
  | literal wellFormed =>
      rw [Lexeme.text, String.toList_ofList]
      exact portion?_triviaPiece_of_beginsLexeme
        (beginsLexeme_literal wellFormed rest)
  | @number digit others isDigit parts =>
      have isNumber := Text.isAlphanumeric_of_isDigit isDigit
      rw [Lexeme.text, String.toList_ofList]
      exact portion?_triviaPiece_of_beginsLexeme
        ⟨digit, others ++ rest, rfl,
          Text.isSpacing_eq_false_of_isAlphanumeric isNumber,
          Text.ne_of_isAlphanumeric isNumber (by decide),
          Text.ne_of_isAlphanumeric isNumber (by decide)⟩
  | arrow =>
      exact portion?_triviaPiece_of_beginsLexeme
        ⟨'=', '>' :: rest, rfl, by decide⟩
  | word named =>
      rw [Lexeme.text, String.toList_ofList]
      exact portion?_triviaPiece_of_beginsLexeme
        (beginsLexeme_of_isIdentifier named rest)
  | @verbatimWord word named =>
      rw [Lexeme.text, String.toList_ofList]
      exact portion?_triviaPiece_of_beginsLexeme
        (beginsLexeme_of_mem_literalMarks (by decide) (word ++ rest))
  | @mark c bare =>
      have notSign : c ≠ '#' := by
        rintro rfl
        exact bare.free (by decide)
      rw [Lexeme.text, String.toList_singleton]
      exact triviaPiece_refuses_cons bare.notBlank notSign fun _ =>
        ⟨spaced.head?_ne (by decide), spaced.head?_ne (by decide)⟩

/-! ## Reading a lexeme that stands alone -/

/-- A mark that a space follows opens nothing longer. -/
theorem readLexeme_bareMark (bare : IsBareMark c)
    (spaced : SpaceFollows rest) :
    (readLexeme tokenForms ([c] ++ rest)).found? =
      some ⟨.mark c, ⟨[c], rest⟩⟩ := by
  obtain ⟨notQuote, notApostrophe, notDollar, -⟩ :
      c ≠ '"' ∧ c ≠ '\'' ∧ c ≠ '$' ∧ c ≠ '#' := by
    simpa using bare.free
  have noLiteral : quotedLiteral.Refuses (c :: rest) := by
    by_cases isAt : c = '@'
    · rw [isAt]
      exact quotedLiteral_refuses_at (spaced.head?_ne (by decide))
        (spaced.head?_ne (by decide))
    · apply portion?_quotedLiteral_of_not_mem
      simp [literalMarks, notQuote, notApostrophe, notDollar, isAt]
  have noArrow : arrow.Refuses (c :: rest) := by
    apply refuses_word
    rintro ⟨behind, equal⟩
    cases equal
    exact spaced.head?_ne (by decide) rfl
  have noWord : identifier.Refuses (c :: rest) :=
    identifier_refuses_cons bare.noStart
      (spaced.refused (by decide +kernel))
  have reads : singleMark.Reads [c] rest :=
    noneOf_reads (by simp [notQuote, notApostrophe]) rest
  simp only [tokenForms, readLexeme_cons_iff]
  exact .inr ⟨noLiteral,
    .inr ⟨portion?_number_of_not_digit bare.notDigit,
      .inr ⟨noArrow, .inr ⟨noWord, .inl ⟨reads, rfl⟩⟩⟩⟩⟩

/-- A lexeme that stands alone is read in front of a space. -/
theorem StandsAlone.read (alone : StandsAlone lexeme)
    (spaced : SpaceFollows rest) :
    (readLexeme tokenForms (lexeme.text.toList ++ rest)).found? =
      some ⟨lexeme, ⟨lexeme.text.toList, rest⟩⟩ := by
  have ended : EndsIdentifier rest := spaced.refused (by decide +kernel)
  cases alone with
  | raw isRaw =>
      rw [Lexeme.text, String.toList_ofList]
      exact readLexeme_quotedLiteral (quotedLiteral_reads_raw isRaw rest)
  | literal wellFormed =>
      rw [Lexeme.text, String.toList_ofList]
      exact readLexeme_quotedLiteral
        (quotedLiteral_reads_literal wellFormed
          (spaced.head?_ne (by decide)))
  | number isDigit parts =>
      rw [Lexeme.text, String.toList_ofList]
      exact readLexeme_number (number_reads_iff.2
        ⟨_, _, rfl, isDigit, parts, spaced.refused (by decide)⟩)
  | arrow =>
      exact readLexeme_arrow rest
  | word named =>
      rw [Lexeme.text, String.toList_ofList]
      exact readLexeme_word named ended
  | verbatimWord named =>
      rw [Lexeme.text, String.toList_ofList]
      exact readLexeme_verbatimWord named ended
  | mark bare =>
      rw [Lexeme.text, String.toList_singleton]
      exact readLexeme_bareMark bare spaced

/-! ## Reading a text again -/

/-- Every lexeme that a text without dollar signs is cut into stands alone. -/
theorem standsAlone_of_tokenizeFrom (noDollar : '$' ∉ text)
    (tokenized : tokenizeFrom text = .ok source) :
    ∀ lexeme ∈ source.tokens.map Token.lexeme, StandsAlone lexeme := by
  fun_induction tokenizeFrom text generalizing source with
  | case1 =>
      cases tokenized
      exact List.forall_mem_nil _
  | case2 | case3 | case5 =>
      cases tokenized
  | case4 text gap before unfinished attempt found accepted something
      later laterTokenized =>
      rename_i inductionHypothesis
      cases tokenized
      obtain ⟨lexeme, taken, rest⟩ := found
      have kept : taken ++ rest = gap.portion.rest := readLexeme_keeps accepted
      have whole : before ++ gap.portion.rest = text :=
        repeated_keeps triviaPiece text
      have noTrivia : triviaPiece.Refuses gap.portion.rest :=
        triviaPiece_refuses_behind (trivia_reads_gap text)
      have read : (readLexeme tokenForms gap.portion.rest).found? =
          some ⟨lexeme, ⟨taken, rest⟩⟩ := accepted
      rw [← kept] at noTrivia read whole
      have parts : '$' ∉ before ∧ '$' ∉ taken ∧ '$' ∉ rest := by
        simpa [← whole, not_or] using noDollar
      refine List.forall_mem_cons.2
        ⟨standsAlone_of_readLexeme noTrivia parts.2.1 read, ?_⟩
      exact inductionHypothesis parts.2.2 laterTokenized

def behindSpaces (lexemes : List Lexeme) : List Char :=
  lexemes.flatMap fun lexeme => ' ' :: lexeme.text.toList

theorem spaceFollows_behindSpaces (lexemes : List Lexeme) :
    SpaceFollows (behindSpaces lexemes) := by
  intro c member
  cases lexemes with
  | nil =>
      cases member
  | cons lexeme others =>
      exact (Option.some.inj member).symm

/-- A space is all the trivia in front of what is none. -/
theorem trivia_reads_space (refused : triviaPiece.Refuses rest) :
    trivia.Reads [' '] rest := by
  have blank : ∀ c ∈ [' '], isSpacing c = true := by
    rw [← List.forall_iff_forall_mem]
    decide
  have piece : PieceBefore [' '] rest :=
    .spacing (List.cons_ne_nil _ _) blank (not_trivial_of_refuses refused).1
  exact (triviaPiece_reads_iff.2 piece).many (List.cons_ne_nil _ _)
    refused.many

/-- A lexeme that stands alone, behind any trivia and in front of a space. -/
theorem tokenizeFrom_alone (gap : String) {later : Tokenized}
    (alone : StandsAlone lexeme) (spaced : SpaceFollows rest)
    (skipped : trivia.Reads gap.toList (lexeme.text.toList ++ rest))
    (tokenized : tokenizeFrom rest = .ok later) :
    tokenizeFrom (gap.toList ++ (lexeme.text.toList ++ rest)) =
      .ok (later.push ⟨gap, lexeme⟩) := by
  rw [tokenizeFrom_lexeme skipped (alone.read spaced), tokenized,
    String.ofList_toList]

theorem tokenizeFrom_behindSpaces
    (alone : ∀ lexeme ∈ lexemes, StandsAlone lexeme) :
    tokenizeFrom (behindSpaces lexemes) =
      .ok ⟨lexemes.map fun lexeme => ⟨" ", lexeme⟩, ""⟩ := by
  induction lexemes with
  | nil =>
      exact tokenizeFrom_trivia (Refuses.many triviaPiece_refuses_nil)
  | cons lexeme others inductionHypothesis =>
      obtain ⟨first, later⟩ := List.forall_mem_cons.1 alone
      have spaced := spaceFollows_behindSpaces others
      have skipped := trivia_reads_space (first.triviaPiece_refuses spaced)
      exact tokenizeFrom_alone " " first spaced skipped
        (inductionHypothesis later)

def spacedText (lexemes : List Lexeme) : String :=
  " ".intercalate (lexemes.map Lexeme.text)

theorem toList_spacedText_cons (lexeme : Lexeme) (others : List Lexeme) :
    (spacedText (lexeme :: others)).toList =
      lexeme.text.toList ++ behindSpaces others := by
  induction others generalizing lexeme with
  | nil =>
      simp [spacedText, behindSpaces]
  | cons next others inductionHypothesis =>
      have behind := inductionHypothesis next
      rw [spacedText, List.map_cons] at behind
      rw [spacedText, List.map_cons, List.map_cons,
        String.intercalate_cons_cons, String.toList_append,
        String.toList_append, behind]
      simp [behindSpaces]

/-- The tokens that such a text is cut into. -/
def spacedTokens : List Lexeme → List Token
  | [] => []
  | first :: others =>
      ⟨"", first⟩ :: others.map fun lexeme => ⟨" ", lexeme⟩

theorem map_lexeme_spacedTokens (lexemes : List Lexeme) :
    (spacedTokens lexemes).map Token.lexeme = lexemes := by
  cases lexemes with
  | nil =>
      rfl
  | cons first others =>
      rw [spacedTokens, List.map_cons, List.map_map]
      exact congrArg (first :: ·) (List.map_id others)

/-- Lexemes that stand alone are what their texts are cut into. -/
theorem tokenize_spacedText
    (alone : ∀ lexeme ∈ lexemes, StandsAlone lexeme) :
    tokenize (spacedText lexemes) = .ok ⟨spacedTokens lexemes, ""⟩ := by
  cases lexemes with
  | nil =>
      exact tokenize_eq_ok_iff.2 (tokenizeFrom_behindSpaces alone)
  | cons lexeme others =>
      obtain ⟨first, later⟩ := List.forall_mem_cons.1 alone
      have spaced := spaceFollows_behindSpaces others
      have skipped := (first.triviaPiece_refuses spaced).many
      rw [tokenize_eq_ok_iff, toList_spacedText_cons]
      exact tokenizeFrom_alone "" first spaced skipped
        (tokenizeFrom_behindSpaces later)

/-- Cutting a text without dollar signs into tokens loses nothing that is
needed to cut it again: the texts of the tokens, joined by single spaces, are
cut into the same lexemes. -/
theorem tokenize_spaced {text : String} (noDollar : '$' ∉ text.toList)
    (tokenized : tokenize text = .ok source) :
    ∃ again, tokenize (spacedText (source.tokens.map Token.lexeme)) =
        .ok again ∧
      again.tokens.map Token.lexeme = source.tokens.map Token.lexeme := by
  have alone := standsAlone_of_tokenizeFrom noDollar
    (tokenizeFrom_of_tokenize tokenized)
  exact ⟨_, tokenize_spacedText alone, map_lexeme_spacedTokens _⟩

/-- A raw string and a verbatim string that are never ended, an equals sign
and a greater-than sign with a comment between them, and a comment that is
never ended. -/
def touchingLexemes : String :=
  "é\"\"\"a\" @\"\\\"\" =/*b*/> /*"

/-- What it is cut into; all of it falls back to shorter lexemes. -/
def touchingTokens : Tokenized :=
  ⟨[⟨"", .word "é"⟩, ⟨"", .literal "\"\""⟩, ⟨"", .literal "\"a\""⟩,
    ⟨" ", .mark '@'⟩, ⟨"", .literal "\"\\\"\""⟩, ⟨" ", .mark '='⟩,
    ⟨"/*b*/", .mark '>'⟩, ⟨" ", .mark '/'⟩, ⟨"", .mark '*'⟩], ""⟩

theorem touchingLexemes_spaced :
    '$' ∉ touchingLexemes.toList ∧
      tokenize touchingLexemes = .ok touchingTokens ∧
      spacedText (touchingTokens.tokens.map Token.lexeme) =
        "é \"\" \"a\" @ \"\\\"\" = > / *" ∧
      ∃ again,
        tokenize (spacedText (touchingTokens.tokens.map Token.lexeme)) =
          .ok again ∧
        again.tokens.map Token.lexeme =
          touchingTokens.tokens.map Token.lexeme := by
  have noDollar : '$' ∉ touchingLexemes.toList := by
    decide
  have tokenized : tokenize touchingLexemes = .ok touchingTokens := by
    decide +kernel
  exact ⟨noDollar, tokenized, by decide +kernel,
    tokenize_spaced noDollar tokenized⟩

end ClassDiagram.Source
