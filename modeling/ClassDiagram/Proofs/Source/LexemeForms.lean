import ClassDiagram.Proofs.Source.LiteralForms
import ClassDiagram.Proofs.Source.NameTexts
import ClassDiagram.Proofs.Source.TriviaPieces

/-!
# One lexeme behind another

The first form of token that does not refuse a text makes its lexeme, and no
lexeme is empty.  Words and numbers are told from their text and from the one
character behind it.  Reading a text is therefore a run: trivia and a lexeme are
taken, and the run goes on with what is left, until the text ends or no form
takes anything.
-/

namespace ClassDiagram.Source

open Scanner
open Text (isIdentifier isIdentifierStart isIdentifierPart isSpacing)

variable {form : TokenForm} {forms others : List TokenForm}
  {text part gap taken rest : List Char} {c : Char} {found : LexemeRead}
  {lexeme : Lexeme}

/-! ## The form that makes a lexeme -/

theorem readLexeme_cons_iff :
    (readLexeme (form :: others) text).found? = some found ↔
      (form.scanner.run text).portion? = some found.portion ∧
          found.lexeme = form.lexeme found.portion.taken ∨
        form.scanner.Refuses text ∧
          (readLexeme others text).found? = some found := by
  cases here : (form.scanner.run text).portion? with
  | none =>
      rw [readLexeme_cons_of_refused here]
      simp [Refuses, here]
  | some portion =>
      rw [readLexeme_cons_of_accepted here]
      obtain ⟨lexeme, read⟩ := found
      simp only [Option.some.injEq, LexemeRead.mk.injEq, Refuses, here,
        reduceCtorEq, false_and, or_false]
      constructor
      · rintro ⟨rfl, rfl⟩
        exact ⟨rfl, rfl⟩
      · rintro ⟨rfl, rfl⟩
        exact ⟨rfl, rfl⟩

theorem readLexeme_eq_none_iff :
    (readLexeme forms text).found? = none ↔
      ∀ form ∈ forms, form.scanner.Refuses text := by
  induction forms with
  | nil =>
      exact iff_of_true rfl (List.forall_mem_nil _)
  | cons form others inductionHypothesis =>
      rw [List.forall_mem_cons, ← inductionHypothesis]
      cases here : (form.scanner.run text).portion? with
      | none =>
          rw [readLexeme_cons_of_refused here]
          simp [Refuses, here]
      | some portion =>
          rw [readLexeme_cons_of_accepted here]
          simp [Refuses, here]

theorem takesSomething_of_mem_tokenForms (member : form ∈ tokenForms) :
    form.scanner.TakesSomething := by
  simp only [tokenForms, List.mem_cons, List.not_mem_nil, or_false]
    at member
  rcases member with rfl | rfl | rfl | rfl | rfl
  · exact takesSomething_quotedLiteral
  · exact (takesSomething_one _).andThen _
  · exact takesSomething_word (List.cons_ne_nil _ _)
  · exact ((takesSomething_one _).andThen _).behind _
  · exact takesSomething_one _

/-- No lexeme is empty. -/
theorem taken_ne_nil_of_readLexeme
    (accepted : (readLexeme tokenForms text).found? = some found) :
    found.portion.taken ≠ [] := by
  obtain ⟨form, member, taken, _⟩ := exists_form_of_readLexeme accepted
  exact takesSomething_of_mem_tokenForms member _ _
    (reads_of_accepted taken)

/-! ## Words and numbers -/

theorem number_reads_iff :
    number.Reads part rest ↔
      ∃ digit others, part = digit :: others ∧ digit.isDigit = true ∧
        (∀ c ∈ others, isNumberPart c = true) ∧
          ∀ c ∈ rest.head?, isNumberPart c = false := by
  constructor
  · intro reads
    obtain ⟨first, others, rfl, firstRead, othersRead⟩ :=
      reads_andThen_iff.1 reads
    obtain ⟨digit, rfl, isDigit⟩ := reads_one_iff.1 firstRead
    exact ⟨digit, others, rfl, isDigit, reads_many_one_iff.1 othersRead⟩
  · rintro ⟨digit, others, rfl, isDigit, parts⟩
    have first : (one Char.isDigit).Reads [digit] (others ++ rest) :=
      reads_one_iff.2 ⟨digit, rfl, isDigit⟩
    exact first.andThen (reads_many_one_iff.2 parts)

/-- What stands behind the at sign of a verbatim word, or a whole other
word. -/
theorem plainIdentifier_reads_iff :
    (inOrder [one isIdentifierStart, many (one isIdentifierPart)]).Reads
        part rest ↔
      isIdentifier part = true ∧ EndsIdentifier rest := by
  constructor
  · intro reads
    obtain ⟨first, behind, rfl, firstRead, behindRead⟩ :=
      reads_andThen_iff.1 reads
    obtain ⟨others, nothing, rfl, othersRead, nothingRead⟩ :=
      reads_andThen_iff.1 behindRead
    obtain ⟨start, rfl, isStart⟩ := reads_one_iff.1 firstRead
    rw [reads_done_iff.1 nothingRead] at othersRead ⊢
    obtain ⟨parts, ended⟩ := reads_many_one_iff.1 othersRead
    refine ⟨?_, ended⟩
    simpa [isIdentifier, isStart] using parts
  · rintro ⟨named, ended⟩
    cases part with
    | nil =>
        cases named
    | cons start others =>
        simp only [isIdentifier, Bool.and_eq_true, List.all_eq_true]
          at named
        have last : ((many (one isIdentifierPart)).andThen done).Reads
            (others ++ []) rest :=
          Reads.andThen (reads_many_one_iff.2 ⟨named.2, ended⟩)
            (reads_done_iff.2 rfl)
        rw [List.append_nil] at last
        have first : (one isIdentifierStart).Reads [start]
            (others ++ rest) := reads_one_iff.2 ⟨start, rfl, named.1⟩
        exact first.andThen last

theorem head?_ne_of_isIdentifier {sign : Char}
    (named : isIdentifier text = true) (listed : Text.isSign sign = true) :
    (text ++ rest).head? ≠ some sign := by
  cases text with
  | nil =>
      cases named
  | cons start others =>
      simp only [isIdentifier, Bool.and_eq_true] at named
      intro equal
      exact Text.ne_of_isIdentifierStart named.1 listed
        (Option.some.inj equal)

theorem identifier_reads_iff :
    identifier.Reads part rest ↔
      EndsIdentifier rest ∧
        (isIdentifier part = true ∨
          ∃ text, part = '@' :: text ∧ isIdentifier text = true) := by
  constructor
  · intro reads
    obtain ⟨sigil, plain, rfl, sigilRead, plainRead⟩ :=
      reads_andThen_iff.1 reads
    obtain ⟨named, ended⟩ := plainIdentifier_reads_iff.1 plainRead
    refine ⟨ended, ?_⟩
    rcases reads_either_iff.1 sigilRead with atSign | ⟨_, nothing⟩
    · obtain ⟨d, rfl, isAt⟩ := reads_one_iff.1 atSign
      rw [beq_iff_eq.1 isAt]
      exact .inr ⟨plain, rfl, named⟩
    · rw [reads_done_iff.1 nothing]
      exact .inl named
  · rintro ⟨ended, named | ⟨text, rfl, named⟩⟩
    · exact portion?_identifier named ended
    · have sigilRead : (Scanner.optional (char '@')).Reads ['@']
          (text ++ rest) :=
        reads_either_iff.2 (.inl (reads_char '@' _))
      exact sigilRead.andThen (plainIdentifier_reads_iff.2 ⟨named, ended⟩)

/-- Where no word can be read, none begins. -/
theorem isIdentifierStart_eq_false_of_refuses
    (refused : identifier.Refuses (c :: rest)) :
    isIdentifierStart c = false := by
  by_contra isStart
  rw [Bool.not_eq_false] at isStart
  have cut := List.takeWhile_append_dropWhile (p := isIdentifierPart)
    (l := rest)
  have named : isIdentifier (c :: rest.takeWhile isIdentifierPart) = true := by
    rw [isIdentifier, isStart, Bool.true_and]
    exact List.all_takeWhile
  have ended : EndsIdentifier (rest.dropWhile isIdentifierPart) := by
    intro d member
    have stopped := List.head?_dropWhile_not isIdentifierPart rest
    rw [Option.mem_def.1 member] at stopped
    exact stopped
  have reads := identifier_reads_iff.2 ⟨ended, .inl named⟩
  rw [Reads, List.cons_append, cut, refused] at reads
  cases reads

/-- A mark begins no word if it is no at sign with a word behind it. -/
theorem identifier_refuses_cons (noStart : isIdentifierStart c = false)
    (noWord : ∀ d ∈ rest.head?, isIdentifierStart d = false) :
    identifier.Refuses (c :: rest) := by
  rw [Scanner.refuses_iff]
  intro part behind cut reads
  obtain ⟨-, named | ⟨text, rfl, named⟩⟩ := identifier_reads_iff.1 reads
  · cases part with
    | nil =>
        cases named
    | cons start others =>
        cases cut
        simp [isIdentifier, noStart] at named
  · cases text with
    | nil =>
        cases named
    | cons start others =>
        cases cut
        simp [isIdentifier, noWord start rfl] at named

/-! ## Reading one form -/

theorem readLexeme_quotedLiteral (reads : quotedLiteral.Reads part rest) :
    (readLexeme tokenForms (part ++ rest)).found? =
      some ⟨.literal (String.ofList part), ⟨part, rest⟩⟩ := by
  simp only [tokenForms, readLexeme_cons_iff]
  exact .inl ⟨reads, trivial⟩

theorem readLexeme_number (reads : number.Reads part rest) :
    (readLexeme tokenForms (part ++ rest)).found? =
      some ⟨.literal (String.ofList part), ⟨part, rest⟩⟩ := by
  obtain ⟨digit, others, rfl, isDigit, -, -⟩ := number_reads_iff.1 reads
  have isNumber := Text.isAlphanumeric_of_isDigit isDigit
  have noMark : digit ∉ literalMarks := by
    intro mark
    have listed : ∀ c ∈ literalMarks, Text.isSign c = true := by
      rw [← List.forall_iff_forall_mem]
      decide
    exact Text.ne_of_isAlphanumeric isNumber (listed digit mark) rfl
  simp only [tokenForms, readLexeme_cons_iff]
  exact .inr ⟨portion?_quotedLiteral_of_not_mem noMark,
    .inl ⟨reads, trivial⟩⟩

theorem readLexeme_arrow (rest : List Char) :
    (readLexeme tokenForms (['=', '>'] ++ rest)).found? =
      some ⟨.arrow, ⟨['=', '>'], rest⟩⟩ := by
  simp only [tokenForms, readLexeme_cons_iff]
  exact .inr ⟨portion?_quotedLiteral_of_not_mem (by decide),
    .inr ⟨portion?_number_of_not_digit (by decide),
      .inl ⟨reads_word _ rest, trivial⟩⟩⟩

theorem readLexeme_verbatimWord (named : isIdentifier text = true)
    (ended : EndsIdentifier rest) :
    (readLexeme tokenForms ('@' :: text ++ rest)).found? =
      some ⟨.word (String.ofList ('@' :: text)), ⟨'@' :: text, rest⟩⟩ := by
  have noLiteral : quotedLiteral.Refuses ('@' :: (text ++ rest)) :=
    quotedLiteral_refuses_at (head?_ne_of_isIdentifier named (by decide))
      (head?_ne_of_isIdentifier named (by decide))
  have reads : identifier.Reads ('@' :: text) rest :=
    identifier_reads_iff.2 ⟨ended, .inr ⟨text, rfl, named⟩⟩
  simp only [tokenForms, readLexeme_cons_iff]
  exact .inr ⟨noLiteral,
    .inr ⟨portion?_number_of_not_digit (by decide),
      .inr ⟨portion?_arrow_of_ne (by decide), .inl ⟨reads, trivial⟩⟩⟩⟩

/-! ## What is read behind trivia -/

theorem takesSomething_triviaPiece : triviaPiece.TakesSomething := by
  intro part rest reads
  exact (triviaPiece_reads_iff.1 reads).ne_nil

/-- What is skipped at the head of a text is trivia. -/
theorem trivia_reads_gap (text : List Char) :
    trivia.Reads (repeated triviaPiece text).portion.taken
      (repeated triviaPiece text).portion.rest := by
  have skipped : (trivia.run text).portion? =
      some (repeated triviaPiece text).portion := rfl
  exact reads_of_accepted skipped

/-- No piece of trivia is left behind trivia. -/
theorem triviaPiece_refuses_behind (skipped : trivia.Reads gap rest) :
    triviaPiece.Refuses rest := by
  by_contra accepted
  rw [Refuses, ← ne_eq, Option.ne_none_iff_exists'] at accepted
  obtain ⟨portion, found⟩ := accepted
  apply takesSomething_triviaPiece _ _ (reads_of_accepted found)
  exact stops_of_reads_many skipped portion found

/-- How a text begins that has no trivia in front. -/
theorem not_trivial_of_refuses (refused : triviaPiece.Refuses text) :
    (∀ c ∈ text.head?, isSpacing c = false) ∧ text.head? ≠ some '#' := by
  have forms := refuses_oneOf_iff.1 refused
  simp only [List.forall_mem_cons] at forms
  obtain ⟨noSpacing, -, -, noDirective, -⟩ := forms
  refine ⟨refuses_one_iff.1 (refuses_andThen_many_iff.1 noSpacing), ?_⟩
  intro sign
  have noSign := refuses_one_iff.1 (refuses_andThen_many_iff.1 noDirective)
  exact absurd (noSign '#' sign) (by decide)

theorem portion_of_trivia (skipped : trivia.Reads gap rest) :
    (repeated triviaPiece (gap ++ rest)).portion = ⟨gap, rest⟩ :=
  Option.some.inj skipped

theorem tokenize_eq_ok_iff {text : String} {source : Tokenized} :
    tokenize text = .ok source ↔ tokenizeFrom text.toList = .ok source := by
  rw [tokenize]
  cases tokenizeFrom text.toList <;> simp

theorem tokenizeFrom_trivia (skipped : trivia.Reads gap []) :
    tokenizeFrom gap = .ok ⟨[], String.ofList gap⟩ := by
  have portion := portion_of_trivia skipped
  rw [List.append_nil] at portion
  rw [tokenizeFrom]
  simp only [portion, if_true]

/-- What is reached where no lexeme can be read, counted in characters. -/
theorem tokenizeFrom_refused (skipped : trivia.Reads gap rest)
    (unfinished : rest ≠ [])
    (refused : (readLexeme tokenForms rest).found? = none) :
    tokenizeFrom (gap ++ rest) =
      .error (max (repeated triviaPiece (gap ++ rest)).reach
        (gap.length + (readLexeme tokenForms rest).reach)) := by
  have portion := portion_of_trivia skipped
  rw [tokenizeFrom]
  simp only [portion, unfinished, if_false]
  split
  · rfl
  · rename_i found accepted
    rw [portion, refused] at accepted
    cases accepted

theorem tokenizeFrom_lexeme (skipped : trivia.Reads gap (taken ++ rest))
    (read : (readLexeme tokenForms (taken ++ rest)).found? =
      some ⟨lexeme, ⟨taken, rest⟩⟩) :
    tokenizeFrom (gap ++ (taken ++ rest)) =
      match tokenizeFrom rest with
      | .ok later => .ok (later.push ⟨String.ofList gap, lexeme⟩)
      | .error furthest =>
          .error (max
            (max (repeated triviaPiece (gap ++ (taken ++ rest))).reach
              (gap.length + (readLexeme tokenForms (taken ++ rest)).reach))
            (gap.length + taken.length + furthest)) := by
  have portion := portion_of_trivia skipped
  have something : taken ≠ [] := taken_ne_nil_of_readLexeme read
  have unfinished : taken ++ rest ≠ [] :=
    List.append_ne_nil_of_left_ne_nil something rest
  rw [tokenizeFrom]
  simp only [portion, unfinished, if_false]
  split
  · rename_i refused
    rw [portion, read] at refused
    cases refused
  · rename_i found accepted
    rw [portion, read] at accepted
    cases accepted
    cases tokenizeFrom rest <;> simp [something]

end ClassDiagram.Source
