import ClassDiagram.Proofs.Source.BlankedLines
import ClassDiagram.Proofs.Source.LexemeForms

/-!
# Quotes that open no literal

Every character but the two quotes is a token of its own if nothing longer
fits, and what begins like a comment or an interpolated string falls back to
single marks if it is never ended.  So a text is cut into tokens unless the
run over it comes to a quote that opens no literal: no raw string, no string
that ends on its line and no character literal.

The error is then placed at that quote or behind it, since nothing that was
tried in front of the quote can have failed further to the left than where the
run stands.
-/

namespace ClassDiagram.Source

open Scanner
open Text (Position byteSize positionOf endPosition)

variable {text front rest : List Char} {furthest : Nat}

/-! ## Stray quotes -/

/-- A quote at which no form of literal takes anything, however deeply its
holes may be nested. -/
structure IsStray (rest : List Char) : Prop where
  isQuote : ∃ mark behind, rest = mark :: behind ∧ (mark = '"' ∨ mark = '\'')
  refused : ∀ depth, ∀ form ∈ literalForms depth, form.Refuses rest

def IsQuotedText (text : List Char) : Prop :=
  IsRawText text ∨ IsEscapedText '"' text ∨ IsEscapedText '\'' text

/-- At a quote, three forms of literals decide. -/
theorem refuses_literalForms_iff {mark : Char} (behind : List Char)
    (isQuote : mark = '"' ∨ mark = '\'') (depth : Nat) :
    (∀ form ∈ literalForms depth, form.Refuses (mark :: behind)) ↔
      rawString.Refuses (mark :: behind) ∧
        regularString.Refuses (mark :: behind) ∧
          characterLiteral.Refuses (mark :: behind) := by
  have noSigil : (mark :: behind).head? ≠ some '$' ∧
      (mark :: behind).head? ≠ some '@' := by
    rcases isQuote with rfl | rfl <;> simp
  have noFirst : ¬ ['@', '$'] <+: mark :: behind := by
    rcases isQuote with rfl | rfl <;> simp
  have noSecond : ¬ ['$', '@'] <+: mark :: behind := by
    rcases isQuote with rfl | rfl <;> simp
  have noVerbatim : verbatimString.Refuses (mark :: behind) :=
    inOrder_char_refuses _ noSigil.2
  have noInterpolated :
      (interpolatedString (holeWithin depth)).Refuses (mark :: behind) :=
    inOrder_char_refuses _ noSigil.1
  simp [literalForms, interpolatedVerbatim_refuses noFirst noSecond,
    noVerbatim, noInterpolated]

/-- A quote is stray if no literal that begins with a quote stands there. -/
theorem isStray_iff :
    IsStray rest ↔
      (∃ mark behind, rest = mark :: behind ∧ (mark = '"' ∨ mark = '\'')) ∧
        ∀ literal, IsQuotedText literal → ¬ literal <+: rest := by
  have decided : ∀ {mark : Char} {behind : List Char},
      (mark = '"' ∨ mark = '\'') →
        ∀ depth, (∀ form ∈ literalForms depth,
            form.Refuses (mark :: behind)) ↔
          ∀ literal, IsQuotedText literal → ¬ literal <+: mark :: behind := by
    intro mark behind isQuote depth
    rw [refuses_literalForms_iff behind isQuote,
      takes_rawString.refuses_iff, takes_regularString.refuses_iff,
      takes_characterLiteral.refuses_iff]
    simp only [IsQuotedText, or_imp, forall_and]
  constructor
  · rintro ⟨⟨mark, behind, rfl, isQuote⟩, refused⟩
    exact ⟨⟨mark, behind, rfl, isQuote⟩,
      (decided isQuote 0).1 (refused 0)⟩
  · rintro ⟨⟨mark, behind, rfl, isQuote⟩, noLiteral⟩
    exact ⟨⟨mark, behind, rfl, isQuote⟩,
      fun depth => (decided isQuote depth).2 noLiteral⟩

/-- Where something is left and no lexeme can be read, there is a stray
quote. -/
theorem readLexeme_refuses_iff (something : rest ≠ []) :
    (readLexeme tokenForms rest).found? = none ↔ IsStray rest := by
  rw [readLexeme_eq_none_iff]
  constructor
  · intro refused
    obtain ⟨mark, behind, rfl⟩ := List.exists_cons_of_ne_nil something
    simp only [tokenForms, List.forall_mem_cons] at refused
    obtain ⟨noLiteral, -, -, -, noMark, -⟩ := refused
    have isQuote : mark = '"' ∨ mark = '\'' := by
      have excluded := refuses_one_iff.1 noMark mark rfl
      rwa [Bool.not_eq_false', List.contains_eq_mem, decide_eq_true_eq,
        List.mem_cons, List.mem_singleton] at excluded
    rw [Refuses, quotedLiteral_run_cons] at noLiteral
    have decided := (refuses_literalForms_iff behind isQuote _).1
      (refuses_oneOf_iff.1 noLiteral)
    exact ⟨⟨mark, behind, rfl, isQuote⟩,
      fun depth => (refuses_literalForms_iff behind isQuote depth).2 decided⟩
  · rintro ⟨⟨mark, behind, rfl, isQuote⟩, refused⟩
    have noLiteral : quotedLiteral.Refuses (mark :: behind) := by
      rw [Refuses, quotedLiteral_run_cons]
      exact refuses_oneOf_iff.2 (refused behind.length)
    have noOther : mark.isDigit = false ∧ mark ≠ '=' ∧ mark ≠ '@' ∧
        Text.isIdentifierStart mark = false ∧ mark ∈ ['"', '\''] := by
      rcases isQuote with rfl | rfl <;> decide +kernel
    obtain ⟨noDigit, notEquals, notAt, noStart, excluded⟩ := noOther
    simp only [tokenForms, List.forall_mem_cons, List.not_mem_nil,
      false_implies, implies_true, and_true]
    exact ⟨noLiteral, portion?_number_of_not_digit noDigit,
      portion?_arrow_of_ne notEquals,
      portion?_identifier_of_refused notAt noStart,
      noneOf_refuses excluded behind⟩

/-! ## The run over a text -/

/-- A run takes trivia and a lexeme, again and again, and stands behind some
trivia.  It is given by all that it has taken and by what is left. -/
inductive RunsTo : List Char → List Char → Prop
  | trivia {gap rest : List Char} (skipped : trivia.Reads gap rest) :
      RunsTo gap rest
  | lexeme {gap taken front rest : List Char} {lexeme : Lexeme}
      (skipped : Source.trivia.Reads gap (taken ++ (front ++ rest)))
      (read : (readLexeme tokenForms (taken ++ (front ++ rest))).found? =
        some ⟨lexeme, ⟨taken, front ++ rest⟩⟩)
      (later : RunsTo front rest) :
      RunsTo (gap ++ (taken ++ front)) rest

/-- The run over the text comes to a stray quote behind this front of it. -/
structure MeetsStray (text front rest : List Char) : Prop where
  cut : text = front ++ rest
  runs : RunsTo front rest
  stray : IsStray rest

/-- A run that comes to a stray quote ends there, with an error that is no
further to the left. -/
theorem RunsTo.tokenizeFrom_error (runs : RunsTo front rest)
    (stray : IsStray rest) :
    ∃ furthest, tokenizeFrom (front ++ rest) = .error furthest ∧
      front.length ≤ furthest := by
  induction runs with
  | @trivia gap rest skipped =>
      obtain ⟨mark, behind, cut, _⟩ := stray.isQuote
      have unfinished : rest ≠ [] := cut ▸ List.cons_ne_nil mark behind
      refine ⟨_, tokenizeFrom_refused skipped unfinished
        ((readLexeme_refuses_iff unfinished).2 stray), ?_⟩
      omega
  | @lexeme gap taken front rest lexeme skipped read later
      inductionHypothesis =>
      obtain ⟨furthest, behind, reached⟩ := inductionHypothesis stray
      have whole := tokenizeFrom_lexeme skipped read
      rw [behind] at whole
      rw [List.append_assoc, List.append_assoc]
      refine ⟨_, whole, ?_⟩
      rw [List.length_append, List.length_append]
      omega

/-- Where a text cannot be cut, its run comes to a stray quote. -/
theorem exists_meetsStray (failed : tokenizeFrom text = .error furthest) :
    ∃ front rest, MeetsStray text front rest := by
  fun_induction tokenizeFrom text generalizing furthest with
  | case1 text gap before =>
      cases failed
  | case2 =>
      rename_i text gap before unfinished attempt reach refused
      exact ⟨_, _, (repeated_keeps triviaPiece text).symm,
        .trivia (trivia_reads_gap text),
        (readLexeme_refuses_iff unfinished).1 refused⟩
  | case3 =>
      rename_i accepted nothing
      exact absurd nothing (taken_ne_nil_of_readLexeme accepted)
  | case4 =>
      cases failed
  | case5 =>
      rename_i text gap before unfinished attempt reach found accepted
        something furthest laterFailed inductionHypothesis
      obtain ⟨front, rest, cut, runs, stray⟩ :=
        inductionHypothesis laterFailed
      obtain ⟨lexeme, taken, left⟩ := found
      dsimp only at cut
      subst cut
      have kept : taken ++ (front ++ rest) = gap.portion.rest :=
        readLexeme_keeps accepted
      have gapRead : trivia.Reads before gap.portion.rest :=
        trivia_reads_gap text
      have read : (readLexeme tokenForms gap.portion.rest).found? =
          some ⟨lexeme, ⟨taken, front ++ rest⟩⟩ := accepted
      rw [← kept] at gapRead read
      refine ⟨before ++ (taken ++ front), rest, ?_,
        .lexeme gapRead read runs, stray⟩
      rw [List.append_assoc, List.append_assoc, kept]
      exact (repeated_keeps triviaPiece text).symm

theorem tokenizeFrom_error_iff :
    (∃ furthest, tokenizeFrom text = .error furthest) ↔
      ∃ front rest, MeetsStray text front rest := by
  constructor
  · rintro ⟨furthest, failed⟩
    exact exists_meetsStray failed
  · rintro ⟨front, rest, rfl, runs, stray⟩
    obtain ⟨furthest, failed, _⟩ := runs.tokenizeFrom_error stray
    exact ⟨furthest, failed⟩

/-! ## Where the error is placed -/

theorem tokenize_fails_iff {text : String} :
    (∃ error, tokenize text = .error error) ↔
      ∃ furthest, tokenizeFrom text.toList = .error furthest := by
  rw [tokenize]
  cases tokenizeFrom text.toList with
  | ok source =>
      simp
  | error furthest =>
      simp

/-- An error that is reached behind some front of a text names a place behind
it, and the character that stands there. -/
theorem exists_error_place {text : String}
    (cut : text.toList = front ++ rest)
    (failed : tokenizeFrom text.toList = .error furthest)
    (reached : front.length ≤ furthest) :
    ∃ inside behind, rest = inside ++ behind ∧
      tokenize text = .error (.source (.unreadable behind.head?)
        (positionOf text.toList (byteSize (front ++ inside)))) := by
  refine ⟨rest.take (furthest - front.length),
    rest.drop (furthest - front.length),
    (List.take_append_drop _ rest).symm, ?_⟩
  have placed : positionOf text.toList
      (byteSize (front ++ rest.take (furthest - front.length))) =
        endPosition (text.toList.take furthest) := by
    have whole : text.toList =
        (front ++ rest.take (furthest - front.length)) ++
          rest.drop (furthest - front.length) := by
      rw [List.append_assoc, List.take_append_drop, cut]
    rw [positionOf, whole, Text.charsBefore?_append, ← whole, cut,
      List.take_append, List.take_of_length_le reached]
    rfl
  have found : text.toList[furthest]? =
      (rest.drop (furthest - front.length)).head? := by
    rw [cut, List.getElem?_append_right reached, List.head?_drop]
  rw [tokenize, failed, placed]
  simp only [found]

/-- What the run over a text comes to, and what that means for the error: a
text is not cut into tokens exactly if its run comes to a stray quote, and then
the error names a place at the quote or behind it and the character that stands
there. -/
theorem tokenize_error_iff (text : String) :
    ((∃ error, tokenize text = .error error) ↔
        ∃ front rest, MeetsStray text.toList front rest) ∧
      (∀ front rest, MeetsStray text.toList front rest →
        ∃ inside behind, rest = inside ++ behind ∧
          tokenize text = .error (.source (.unreadable behind.head?)
            (positionOf text.toList (byteSize (front ++ inside))))) ∧
      ('"' ∉ text.toList → '\'' ∉ text.toList →
        ∃ source, tokenize text = .ok source) := by
  refine ⟨tokenize_fails_iff.trans tokenizeFrom_error_iff, ?_, ?_⟩
  · rintro front rest ⟨cut, runs, stray⟩
    obtain ⟨furthest, failed, reached⟩ := runs.tokenizeFrom_error stray
    exact exists_error_place cut (cut ▸ failed) reached
  · intro noQuote noApostrophe
    cases tokenized : tokenize text with
    | ok source =>
        exact ⟨source, rfl⟩
    | error error =>
        obtain ⟨front, rest, cut, _, stray⟩ :=
          tokenizeFrom_error_iff.1 (tokenize_fails_iff.1 ⟨error, tokenized⟩)
        obtain ⟨mark, behind, rfl, isQuote⟩ := stray.isQuote
        have member : mark ∈ text.toList := by
          rw [cut]
          exact List.mem_append_right front List.mem_cons_self
        rcases isQuote with rfl | rfl
        · exact absurd member noQuote
        · exact absurd member noApostrophe

/-- A comment that is never ended, a character literal that holds a quote, and
a string that its line cuts off. -/
def cutString : String :=
  "/* '\"' \"c\n\""

/-- The quote behind the character literal is stray, and what was tried there
got to the end of the text. -/
theorem cutString_meetsStray :
    (∃ front rest, MeetsStray cutString.toList front rest) ∧
      tokenize cutString = .error (.source (.unreadable none) ⟨2, 2⟩) := by
  have failed : tokenize cutString =
      .error (.source (.unreadable none) ⟨2, 2⟩) := by
    decide +kernel
  exact ⟨(tokenize_error_iff cutString).1.1 ⟨_, failed⟩, failed⟩

end ClassDiagram.Source
