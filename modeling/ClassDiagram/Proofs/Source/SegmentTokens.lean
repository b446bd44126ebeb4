import ClassDiagram.Diagram.ModuleName
import ClassDiagram.Proofs.Printing.Spelling

/-!
# Tokens of a segment

A segment of a root namespace is judged by other classes of characters than
an identifier.  If it is an identifier, it is one token.  Otherwise it has a
letter or a number in it that no identifier has at its place, and that is a
token of its own: it comes first or right behind a word.
-/

namespace ClassDiagram

namespace Text

theorem isIdentifierPart_of_isIdentifierStart {c : Char}
    (start : isIdentifierStart c = true) : isIdentifierPart c = true := by
  rw [isIdentifierStart, Bool.or_eq_true] at start
  rcases start with underscore | listed
  · rw [beq_iff_eq.1 underscore]
    exact isIdentifierPart_of_isAlphanum (by decide)
  · rw [isIdentifierPart, listed, Bool.true_or]

end Text

namespace Source

open Text (isIdentifier isIdentifierStart isIdentifierPart isAlphabetic
  isAlphanumeric)

/-- A letter or a number that begins neither an identifier nor a numeric
literal is a token of its own. -/
theorem isPlainMark_of_isAlphanumeric {c : Char}
    (number : isAlphanumeric c = true) (noDigit : c.isDigit = false)
    (noStart : isIdentifierStart c = false) : isPlainMark c = true := by
  have noLiteral : c ∉ literalMarks := by
    intro listed
    simp only [literalMarks, List.mem_cons, List.not_mem_nil, or_false]
      at listed
    rcases listed with same | same | same | same <;>
      exact Text.ne_of_isAlphanumeric number (by decide) same
  have notEquals : c ≠ '=' := Text.ne_of_isAlphanumeric number (by decide)
  have notSlash : c ≠ '/' := Text.ne_of_isAlphanumeric number (by decide)
  have noDirective : c ≠ '#' := Text.ne_of_isAlphanumeric number (by decide)
  simp [isPlainMark, noLiteral, noDigit, noStart, notEquals, notSlash,
    noDirective, Text.isSpacing_eq_false_of_isAlphanumeric number]

/-- A segment that is no identifier has a letter or a number where an
identifier has none: at its head or behind an identifier. -/
theorem exists_foreign_of_isSegment {segment : List Char}
    (isRootSegment : isSegment segment = true)
    (noName : isIdentifier segment = false) :
    ∃ front c behind, segment = front ++ c :: behind ∧
      isAlphanumeric c = true ∧ isPlainMark c = true ∧
      (front = [] ∨
        isIdentifier front = true ∧ isIdentifierPart c = false) := by
  cases segment with
  | nil =>
      cases isRootSegment
  | cons first others =>
      rw [isSegment, Bool.and_eq_true, Bool.or_eq_true,
        List.all_eq_true] at isRootSegment
      obtain ⟨begins, goesOn⟩ := isRootSegment
      cases start : isIdentifierStart first with
      | false =>
          have letter : isAlphabetic first = true := by
            rcases begins with letter | underscore
            · exact letter
            · rw [beq_iff_eq.1 underscore] at start
              cases start
          have number : isAlphanumeric first = true := by
            rw [isAlphanumeric, letter, Bool.true_or]
          exact ⟨[], first, others, rfl, number,
            isPlainMark_of_isAlphanumeric number
              (Text.isDigit_eq_false_of_isAlphabetic letter) start, .inl rfl⟩
      | true =>
          have somewhere : ∃ c ∈ others, isIdentifierPart c = false := by
            rw [isIdentifier, start, Bool.true_and] at noName
            simpa using noName
          have found : (others.find? fun c => !isIdentifierPart c).isSome :=
            List.find?_isSome.2 (by simpa using somewhere)
          obtain ⟨c, isFirst⟩ := Option.isSome_iff_exists.1 found
          obtain ⟨foreign, front, behind, split, parts⟩ :=
            List.find?_eq_some_iff_append.1 isFirst
          rw [Bool.not_eq_true'] at foreign
          have member : c ∈ others := by
            rw [split]
            exact List.mem_append_right _ List.mem_cons_self
          have noPlain : (c.isAlphanum || c == '_') = false := by
            rw [Bool.eq_false_iff]
            intro plain
            rw [Text.isIdentifierPart_of_isAlphanum plain] at foreign
            cases foreign
          rw [Bool.or_eq_false_iff, Char.isAlphanum,
            Bool.or_eq_false_iff] at noPlain
          have number : isAlphanumeric c = true := by
            have atMember := goesOn c member
            rwa [noPlain.2, Bool.or_false] at atMember
          have noStart : isIdentifierStart c = false := by
            rw [Bool.eq_false_iff]
            intro begins
            rw [Text.isIdentifierPart_of_isIdentifierStart begins] at foreign
            cases foreign
          have name : isIdentifier (first :: front) = true := by
            rw [isIdentifier, start, Bool.true_and, List.all_eq_true]
            simpa using parts
          exact ⟨first :: front, c, behind, congrArg (first :: ·) split,
            number, isPlainMark_of_isAlphanumeric number noPlain.1.2 noStart,
            .inr ⟨name, foreign⟩⟩

/-! ## Cutting a text behind a known lexeme -/

/-- What is behind a token of a text that can be cut can be cut as well. -/
theorem exists_of_tokenizeFrom_cons {lead taken rest : List Char}
    {lexeme : Lexeme} {source : Tokenized}
    (blank : ∀ c ∈ lead, Text.isSpacing c = true)
    (begun : BeginsLexeme (taken ++ rest)) (something : taken ≠ [])
    (read : (readLexeme tokenForms (taken ++ rest)).found? =
      some ⟨lexeme, ⟨taken, rest⟩⟩)
    (cut : tokenizeFrom (lead ++ (taken ++ rest)) = .ok source) :
    ∃ later, tokenizeFrom rest = .ok later ∧
      source = later.push ⟨String.ofList lead, lexeme⟩ := by
  cases further : tokenizeFrom rest with
  | ok later =>
      rw [tokenizeFrom_cons blank begun something read further] at cut
      cases cut
      exact ⟨later, rfl, rfl⟩
  | error furthest =>
      have gap := portion_repeated_triviaPiece blank begun
      have unfinished : taken ++ rest ≠ [] := by
        simp [something]
      rw [tokenizeFrom] at cut
      simp only [gap, unfinished, if_false] at cut
      split at cut
      · cases cut
      · rename_i found accepted
        rw [gap, read] at accepted
        cases accepted
        simp only [something, dite_false, further] at cut
        cases cut

theorem exists_of_tokenizeFrom_word {lead name : String} {rest : List Char}
    {source : Tokenized} (blank : isBlankText lead = true)
    (named : isIdentifier name.toList = true) (ended : EndsIdentifier rest)
    (cut : tokenizeFrom (lead.toList ++ (name.toList ++ rest)) =
      .ok source) :
    ∃ later, tokenizeFrom rest = .ok later ∧
      source.tokens = ⟨lead, .word name⟩ :: later.tokens := by
  have something : name.toList ≠ [] := by
    intro empty
    rw [empty] at named
    cases named
  obtain ⟨later, behind, rfl⟩ := exists_of_tokenizeFrom_cons
    (List.all_eq_true.1 blank) (beginsLexeme_of_isIdentifier named rest)
    something (readLexeme_word named ended) cut
  exact ⟨later, behind, by simp [Tokenized.push]⟩

theorem exists_of_tokenizeFrom_mark {lead : String} {c : Char}
    {rest : List Char} {source : Tokenized}
    (blank : isBlankText lead = true) (plain : isPlainMark c = true)
    (cut : tokenizeFrom (lead.toList ++ c :: rest) = .ok source) :
    ∃ later, tokenizeFrom rest = .ok later ∧
      source.tokens = ⟨lead, .mark c⟩ :: later.tokens := by
  have read : (readLexeme tokenForms ([c] ++ rest)).found? =
      some ⟨.mark c, ⟨[c], rest⟩⟩ := readLexeme_mark plain
  obtain ⟨later, behind, rfl⟩ := exists_of_tokenizeFrom_cons
    (List.all_eq_true.1 blank) (beginsLexeme_of_isPlainMark plain rest)
    (List.cons_ne_nil c []) read cut
  exact ⟨later, behind, by simp [Tokenized.push]⟩

/-! ## Segments of a root -/

/-- A letter or a number is a token of its own, at the head or behind a
word. -/
def MeetsLetter (tokens : List Token) : Prop :=
  ∃ c lead more, isAlphanumeric c = true ∧
    (tokens = ⟨lead, .mark c⟩ :: more ∨
      ∃ front name, tokens = ⟨front, .word name⟩ :: ⟨lead, .mark c⟩ :: more)

theorem meetsLetter_of_tokenizeFrom {lead segment : String}
    {rest : List Char} {source : Tokenized}
    (blank : isBlankText lead = true)
    (isRootSegment : isSegment segment.toList = true)
    (noName : isIdentifier segment.toList = false)
    (cut : tokenizeFrom (lead.toList ++ (segment.toList ++ rest)) =
      .ok source) : MeetsLetter source.tokens := by
  obtain ⟨front, c, behind, split, number, plain, atHead | ⟨named, ended⟩⟩ :=
    exists_foreign_of_isSegment isRootSegment noName
  · rw [split, atHead, List.nil_append, List.cons_append] at cut
    obtain ⟨later, -, tokens⟩ := exists_of_tokenizeFrom_mark blank plain cut
    exact ⟨c, lead, later.tokens, number, .inl tokens⟩
  · rw [split, List.append_assoc, List.cons_append,
      ← String.toList_ofList (l := front)] at cut
    rw [← String.toList_ofList (l := front)] at named
    obtain ⟨later, cutBehind, tokens⟩ :=
      exists_of_tokenizeFrom_word blank named
        (endsIdentifier_mark _ ended) cut
    obtain ⟨last, -, tokensBehind⟩ :=
      exists_of_tokenizeFrom_mark isBlankText_empty plain cutBehind
    exact ⟨c, "", last.tokens, number, .inr ⟨lead, String.ofList front, by
      rw [tokens, tokensBehind]⟩⟩

end Source

end ClassDiagram
