import ClassDiagram.Proofs.Text.Signs
import ClassDiagram.Reading.Source
import Mathlib.Data.List.Basic

/-!
# Plain texts

A plain text is made of identifiers, single marks and spacing.  It is cut into
tokens exactly where its author put them, provided that no identifier is
followed at once by a character that would go on with it.
-/

namespace ClassDiagram

/-! ## Classes of characters -/

namespace Text

def isIdentifier : List Char → Bool
  | [] => false
  | first :: others =>
      isIdentifierStart first && others.all isIdentifierPart

/-- No sign stands in an identifier. -/
theorem not_mem_of_isIdentifier {text : List Char} {sign : Char}
    (named : isIdentifier text = true) (listed : isSign sign = true) :
    sign ∉ text := by
  intro member
  cases text with
  | nil =>
      cases named
  | cons first others =>
      simp only [isIdentifier, Bool.and_eq_true, List.all_eq_true] at named
      rcases List.mem_cons.1 member with rfl | behind
      · exact ne_of_isIdentifierStart named.1 listed rfl
      · have part := named.2 sign behind
        rw [isIdentifierPart_eq_false_of_isSign listed] at part
        cases part

end Text

/-! ## What scanners take -/

namespace Source

open Text (isIdentifier isIdentifierStart isIdentifierPart isSpacing)

namespace Scanner

theorem portion?_andThen (first next : Scanner) (text : List Char) :
    ((first.andThen next).run text).portion? =
      (first.run text).portion?.bind fun initial =>
        (next.run initial.rest).portion?.map fun further =>
          ⟨initial.taken ++ further.taken, further.rest⟩ := by
  unfold andThen Attempt.followedBy
  cases accepted : (first.run text).portion? with
  | none =>
      simp [accepted]
  | some initial =>
      simp [accepted]

theorem portion?_either (first other : Scanner) (text : List Char) :
    ((first.either other).run text).portion? =
      (first.run text).portion?.or (other.run text).portion? := by
  unfold either Attempt.orElse
  cases accepted : (first.run text).portion? with
  | none =>
      simp [accepted]
  | some initial =>
      simp [accepted]

theorem portion?_one_cons {accepts : Char → Bool} {c : Char}
    (accepted : accepts c = true) (rest : List Char) :
    ((one accepts).run (c :: rest)).portion? = some ⟨[c], rest⟩ := by
  simp [one, runOne, accepted]

theorem RefusesAtOnce.portion? {scanner : Scanner} {text : List Char}
    (refused : scanner.RefusesAtOnce text) :
    (scanner.run text).portion? = none := by
  rw [refused]

/-- What an item refuses is left by its repetition. -/
theorem portion_repeated_of_refused {item : Scanner} {text : List Char}
    (refused : (item.run text).portion? = none) :
    (repeated item text).portion = ⟨[], text⟩ := by
  rw [repeated]
  split
  · rfl
  · rename_i portion accepted
    rw [refused] at accepted
    cases accepted

/-- A repetition takes an item and what a repetition takes behind it. -/
theorem portion_repeated_of_accepted {item : Scanner} {text : List Char}
    {portion : Portion}
    (accepted : (item.run text).portion? = some portion)
    (something : portion.taken ≠ []) :
    (repeated item text).portion =
      ⟨portion.taken ++ (repeated item portion.rest).portion.taken,
        (repeated item portion.rest).portion.rest⟩ := by
  rw [repeated]
  split
  · rename_i refused
    rw [accepted] at refused
    cases refused
  · rename_i found foundAccepted
    rw [accepted] at foundAccepted
    cases foundAccepted
    simp [something]

/-- A repeated class of characters takes all of them up to the first
character that is not in it. -/
theorem portion_repeated_one {accepts : Char → Bool}
    {inside rest : List Char}
    (accepted : ∀ c ∈ inside, accepts c = true)
    (stopped : ∀ c ∈ rest.head?, accepts c = false) :
    (repeated (one accepts) (inside ++ rest)).portion = ⟨inside, rest⟩ := by
  induction inside with
  | nil =>
      apply portion_repeated_of_refused
      cases rest with
      | nil =>
          rfl
      | cons c others =>
          have refused := stopped c rfl
          exact (refusesAtOnce_one refused others).portion?
  | cons c others inductionHypothesis =>
      have first := accepted c List.mem_cons_self
      have further := inductionHypothesis fun d member =>
        accepted d (List.mem_cons_of_mem c member)
      rw [List.cons_append, portion_repeated_of_accepted
        (portion?_one_cons first (others ++ rest)) (List.cons_ne_nil _ _)]
      rw [further]
      rfl

theorem portion?_many (item : Scanner) (text : List Char) :
    (item.many.run text).portion? = some (repeated item text).portion :=
  rfl

theorem refusesAtOnce_word {letters text : List Char} {first c : Char}
    (other : c ≠ first) :
    (word (first :: letters)).RefusesAtOnce (c :: text) :=
  (refusesAtOnce_char other text).inOrder _

end Scanner

/-! ## Reading a plain lexeme -/

open Scanner

def isPlainMark (c : Char) : Bool :=
  !(literalMarks.contains c || c.isDigit || isSpacing c ||
    isIdentifierStart c || c == '=' || c == '/' || c == '#')

/-- The text does not go on with an identifier that ends here. -/
def EndsIdentifier (rest : List Char) : Prop :=
  ∀ c ∈ rest.head?, isIdentifierPart c = false

/-- A sign that is a token of its own and begins no longer one. -/
def isPlainSign (c : Char) : Bool :=
  Text.isSign c && !(literalMarks.contains c || c.isDigit || isSpacing c ||
    c == '=' || c == '/' || c == '#')

theorem isPlainMark_of_isPlainSign {c : Char}
    (plain : isPlainSign c = true) : isPlainMark c = true := by
  rw [isPlainSign, Bool.and_eq_true] at plain
  have noStart := Text.isIdentifierStart_eq_false_of_isSign plain.1
  simpa [isPlainMark, noStart] using plain.2

/-- A sign goes on with no identifier. -/
theorem endsIdentifier_sign {sign : Char}
    (listed : Text.isSign sign = true) (rest : List Char) :
    EndsIdentifier (sign :: rest) := by
  have noPart := Text.isIdentifierPart_eq_false_of_isSign listed
  simpa [EndsIdentifier] using noPart

theorem readLexeme_cons_of_refused {form : TokenForm}
    {others : List TokenForm} {text : List Char}
    (refused : (form.scanner.run text).portion? = none) :
    (readLexeme (form :: others) text).found? =
      (readLexeme others text).found? := by
  simp [readLexeme, refused]

theorem readLexeme_cons_of_accepted {form : TokenForm}
    {others : List TokenForm} {text : List Char} {portion : Portion}
    (accepted : (form.scanner.run text).portion? = some portion) :
    (readLexeme (form :: others) text).found? =
      some ⟨form.lexeme portion.taken, portion⟩ := by
  simp [readLexeme, accepted]

theorem portion?_quotedLiteral_of_not_mem {c : Char} {rest : List Char}
    (other : c ∉ literalMarks) :
    (quotedLiteral.run (c :: rest)).portion? = none := by
  rw [run_quotedLiteral, refusesAtOnce_literalWithin _ other rest]

theorem portion?_number_of_not_digit {c : Char} {rest : List Char}
    (notDigit : c.isDigit = false) :
    (number.run (c :: rest)).portion? = none :=
  ((refusesAtOnce_one notDigit rest).andThen _).portion?

theorem portion?_arrow_of_ne {c : Char} {rest : List Char}
    (notEquals : c ≠ '=') : (arrow.run (c :: rest)).portion? = none :=
  (refusesAtOnce_word notEquals).portion?

/-- A text whose first character begins neither a literal nor a number nor an
arrow is read by the last two forms. -/
theorem readLexeme_tokenForms {c : Char} {rest : List Char}
    (noLiteral : c ∉ literalMarks) (notDigit : c.isDigit = false)
    (notEquals : c ≠ '=') :
    (readLexeme tokenForms (c :: rest)).found? =
      (readLexeme
        [⟨identifier, fun text => .word (String.ofList text)⟩,
          ⟨singleMark, fun text => .mark (text.headD ' ')⟩]
        (c :: rest)).found? := by
  unfold tokenForms
  rw [readLexeme_cons_of_refused
      (portion?_quotedLiteral_of_not_mem noLiteral),
    readLexeme_cons_of_refused (portion?_number_of_not_digit notDigit),
    readLexeme_cons_of_refused (portion?_arrow_of_ne notEquals)]

/-- No at sign is next, so none is read. -/
theorem portion?_optional_char_of_ne {wanted c : Char} {rest : List Char}
    (other : c ≠ wanted) :
    ((Scanner.optional (char wanted)).run (c :: rest)).portion? =
      some ⟨[], c :: rest⟩ := by
  unfold Scanner.optional
  rw [portion?_either, (refusesAtOnce_char other rest).portion?]
  rfl

theorem portion?_identifier {text rest : List Char}
    (named : isIdentifier text = true) (ended : EndsIdentifier rest) :
    (identifier.run (text ++ rest)).portion? = some ⟨text, rest⟩ := by
  cases text with
  | nil =>
      cases named
  | cons first others =>
      simp only [isIdentifier, Bool.and_eq_true, List.all_eq_true] at named
      obtain ⟨start, parts⟩ := named
      have notAt : first ≠ '@' :=
        Text.ne_of_isIdentifierStart start (by decide)
      have restRead := portion_repeated_one parts ended
      simp only [identifier, inOrder, List.foldr_cons, List.foldr_nil,
        portion?_andThen, List.cons_append,
        portion?_optional_char_of_ne notAt, Option.bind_some,
        portion?_one_cons start, portion?_many, restRead]
      simp [done]

theorem portion?_identifier_of_refused {c : Char} {rest : List Char}
    (notAt : c ≠ '@') (noStart : isIdentifierStart c = false) :
    (identifier.run (c :: rest)).portion? = none := by
  have refused := (refusesAtOnce_one noStart rest).portion?
  simp only [identifier, inOrder, List.foldr_cons, List.foldr_nil,
    portion?_andThen, portion?_optional_char_of_ne notAt, Option.bind_some,
    refused, Option.bind_none, Option.map_none]

theorem readLexeme_word {text rest : List Char}
    (named : isIdentifier text = true) (ended : EndsIdentifier rest) :
    (readLexeme tokenForms (text ++ rest)).found? =
      some ⟨.word (String.ofList text), ⟨text, rest⟩⟩ := by
  have taken := portion?_identifier named ended
  cases text with
  | nil =>
      cases named
  | cons first others =>
      simp only [isIdentifier, Bool.and_eq_true] at named
      obtain ⟨start, _⟩ := named
      have noLiteral : first ∉ literalMarks := by
        intro mark
        simp only [literalMarks, List.mem_cons, List.not_mem_nil, or_false]
          at mark
        rcases mark with same | same | same | same <;>
          exact Text.ne_of_isIdentifierStart start (by decide) same
      have notEquals : first ≠ '=' :=
        Text.ne_of_isIdentifierStart start (by decide)
      rw [List.cons_append, readLexeme_tokenForms noLiteral
        (Text.isDigit_eq_false_of_isIdentifierStart start) notEquals]
      rw [readLexeme_cons_of_accepted taken]

theorem portion?_singleMark {c : Char} {rest : List Char}
    (noLiteral : c ∉ literalMarks) :
    (singleMark.run (c :: rest)).portion? = some ⟨[c], rest⟩ := by
  apply portion?_one_cons
  have noQuote : c ∉ [ '"', '\'' ] := by
    intro quoted
    apply noLiteral
    simp only [List.mem_cons, List.not_mem_nil, or_false] at quoted
    rcases quoted with rfl | rfl <;> decide
  simpa using noQuote

theorem readLexeme_mark {c : Char} {rest : List Char}
    (plain : isPlainMark c = true) :
    (readLexeme tokenForms (c :: rest)).found? =
      some ⟨.mark c, ⟨[c], rest⟩⟩ := by
  simp only [isPlainMark, Bool.not_eq_true', Bool.or_eq_false_iff,
    List.contains_eq_mem, decide_eq_false_iff_not, beq_eq_false_iff_ne]
    at plain
  obtain ⟨⟨⟨⟨⟨⟨noLiteral, notDigit⟩, _⟩, noStart⟩, notEquals⟩, _⟩, _⟩ :=
    plain
  have notAt : c ≠ '@' := by
    rintro rfl
    exact noLiteral (by decide)
  have taken : (singleMark.run (c :: rest)).portion? = some ⟨[c], rest⟩ :=
    portion?_singleMark noLiteral
  rw [readLexeme_tokenForms noLiteral notDigit notEquals,
    readLexeme_cons_of_refused
      (portion?_identifier_of_refused notAt noStart),
    readLexeme_cons_of_accepted taken]
  rfl

/-! ## Spacing between plain lexemes -/

def isBlankText (text : String) : Bool :=
  text.toList.all isSpacing

theorem isBlankText_empty : isBlankText "" = true :=
  rfl

theorem isBlankText_space : isBlankText " " = true := by
  decide

/-- Neither trivia nor the end of the text is next. -/
def BeginsLexeme (text : List Char) : Prop :=
  ∃ c rest, text = c :: rest ∧ isSpacing c = false ∧ c ≠ '/' ∧ c ≠ '#'

theorem beginsLexeme_of_isIdentifier {text : List Char}
    (named : isIdentifier text = true) (rest : List Char) :
    BeginsLexeme (text ++ rest) := by
  cases text with
  | nil =>
      cases named
  | cons first others =>
      simp only [isIdentifier, Bool.and_eq_true] at named
      refine ⟨first, others ++ rest, rfl,
        Text.isSpacing_eq_false_of_isIdentifierStart named.1, ?_, ?_⟩
      · exact Text.ne_of_isIdentifierStart named.1 (by decide)
      · exact Text.ne_of_isIdentifierStart named.1 (by decide)

theorem beginsLexeme_of_isPlainMark {c : Char}
    (plain : isPlainMark c = true) (rest : List Char) :
    BeginsLexeme (c :: rest) := by
  simp only [isPlainMark, Bool.not_eq_true', Bool.or_eq_false_iff,
    beq_eq_false_iff_ne] at plain
  obtain ⟨⟨⟨⟨⟨_, notBlank⟩, _⟩, _⟩, notSlash⟩, notSign⟩ := plain
  exact ⟨c, rest, rfl, notBlank, notSlash, notSign⟩

theorem portion?_triviaPiece_of_beginsLexeme {text : List Char}
    (begun : BeginsLexeme text) : (triviaPiece.run text).portion? = none := by
  obtain ⟨c, rest, rfl, notBlank, notSlash, notSign⟩ := begun
  have spacingRefused : spacing.RefusesAtOnce (c :: rest) :=
    (refusesAtOnce_one notBlank rest).andThen _
  have lineRefused : lineComment.RefusesAtOnce (c :: rest) :=
    (refusesAtOnce_word notSlash).andThen _
  have blockRefused : blockComment.RefusesAtOnce (c :: rest) :=
    (refusesAtOnce_word notSlash).inOrder _
  have directiveRefused : preprocessorLine.RefusesAtOnce (c :: rest) :=
    (refusesAtOnce_char notSign rest).andThen _
  apply RefusesAtOnce.portion?
  apply refusesAtOnce_oneOf
  intro scanner member
  simp only [List.mem_cons, List.not_mem_nil, or_false] at member
  rcases member with rfl | rfl | rfl | rfl
  · exact spacingRefused
  · exact lineRefused
  · exact blockRefused
  · exact directiveRefused

/-- All spacing is taken at once. -/
theorem portion?_triviaPiece_spacing {c : Char} {others text : List Char}
    (first : isSpacing c = true)
    (blank : ∀ d ∈ others, isSpacing d = true)
    (begun : BeginsLexeme text) :
    (triviaPiece.run (c :: others ++ text)).portion? =
      some ⟨c :: others, text⟩ := by
  obtain ⟨d, rest, rfl, notBlank, _, _⟩ := begun
  have further :
      (repeated (one isSpacing) (others ++ d :: rest)).portion =
        ⟨others, d :: rest⟩ :=
    portion_repeated_one blank (by simpa using notBlank)
  unfold triviaPiece oneOf
  rw [List.foldr_cons, portion?_either]
  unfold spacing atLeastOne
  rw [portion?_andThen, List.cons_append, portion?_one_cons first,
    Option.bind_some, portion?_many, further]
  rfl

theorem portion_repeated_triviaPiece {lead text : List Char}
    (blank : ∀ c ∈ lead, isSpacing c = true) (begun : BeginsLexeme text) :
    (repeated triviaPiece (lead ++ text)).portion = ⟨lead, text⟩ := by
  have stopped := portion_repeated_of_refused
    (portion?_triviaPiece_of_beginsLexeme begun)
  cases lead with
  | nil =>
      exact stopped
  | cons c others =>
      have taken := portion?_triviaPiece_spacing
        (blank c List.mem_cons_self)
        (fun d member => blank d (List.mem_cons_of_mem c member)) begun
      rw [portion_repeated_of_accepted taken (List.cons_ne_nil c others),
        stopped, List.append_nil]

/-! ## Plain texts -/

/-- These tokens are written as this text and need no more spacing than it
has. -/
inductive Spelled : List Token → List Char → Prop
  | done : Spelled [] []
  | word {lead text : String} {tokens : List Token} {rest : List Char}
      (blank : isBlankText lead = true)
      (named : isIdentifier text.toList = true)
      (ended : EndsIdentifier rest)
      (others : Spelled tokens rest) :
      Spelled (⟨lead, .word text⟩ :: tokens)
        (lead.toList ++ (text.toList ++ rest))
  | mark {lead : String} {c : Char} {tokens : List Token}
      {rest : List Char}
      (blank : isBlankText lead = true)
      (plain : isPlainMark c = true)
      (others : Spelled tokens rest) :
      Spelled (⟨lead, .mark c⟩ :: tokens) (lead.toList ++ c :: rest)

/-- One token behind spacing, and what is read behind it. -/
theorem tokenizeFrom_cons {lead taken rest : List Char} {lexeme : Lexeme}
    {later : Tokenized}
    (blank : ∀ c ∈ lead, isSpacing c = true)
    (begun : BeginsLexeme (taken ++ rest)) (something : taken ≠ [])
    (read : (readLexeme tokenForms (taken ++ rest)).found? =
      some ⟨lexeme, ⟨taken, rest⟩⟩)
    (further : tokenizeFrom rest = .ok later) :
    tokenizeFrom (lead ++ (taken ++ rest)) =
      .ok (later.push ⟨String.ofList lead, lexeme⟩) := by
  have gap := portion_repeated_triviaPiece blank begun
  have unfinished : taken ++ rest ≠ [] := by
    simp [something]
  rw [tokenizeFrom]
  simp only [gap, unfinished, if_false]
  split
  · rename_i refused
    rw [gap, read] at refused
    cases refused
  · rename_i found accepted
    rw [gap, read] at accepted
    cases accepted
    simp only [something, dite_false, further]

/-- A plain text is cut into the tokens it is written from. -/
theorem Spelled.tokenizeFrom_eq {tokens : List Token} {text : List Char}
    (spelled : Spelled tokens text) :
    tokenizeFrom text = .ok ⟨tokens, ""⟩ := by
  induction spelled with
  | done =>
      have stopped : (repeated triviaPiece []).portion = ⟨[], []⟩ :=
        portion_repeated_of_refused rfl
      rw [tokenizeFrom]
      simp only [stopped, if_true]
  | word blank named ended others inductionHypothesis =>
      rename_i lead text tokens rest
      have something : text.toList ≠ [] := by
        intro empty
        rw [empty] at named
        cases named
      rw [tokenizeFrom_cons (List.all_eq_true.1 blank)
        (beginsLexeme_of_isIdentifier named rest) something
        (readLexeme_word named ended) inductionHypothesis]
      simp [Tokenized.push]
  | mark blank plain others inductionHypothesis =>
      rename_i lead c tokens rest
      have read : (readLexeme tokenForms ([c] ++ rest)).found? =
          some ⟨.mark c, ⟨[c], rest⟩⟩ := readLexeme_mark plain
      rw [← List.singleton_append, tokenizeFrom_cons
        (List.all_eq_true.1 blank) (beginsLexeme_of_isPlainMark plain rest)
        (List.cons_ne_nil c []) read inductionHypothesis]
      simp [Tokenized.push]

/-- A plain text has no directives. -/
theorem Spelled.no_number_sign {tokens : List Token} {text : List Char}
    (spelled : Spelled tokens text) : '#' ∉ text := by
  have blankSigns : ∀ lead : String, isBlankText lead = true →
      '#' ∉ lead.toList := by
    intro lead blank member
    have sign := List.all_eq_true.1 blank '#' member
    revert sign
    decide
  induction spelled with
  | done =>
      exact List.not_mem_nil
  | word blank named ended others inductionHypothesis =>
      rename_i lead text tokens rest
      intro member
      rcases List.mem_append.1 member with inLead | behind
      · exact blankSigns lead blank inLead
      · rcases List.mem_append.1 behind with inWord | inRest
        · exact Text.not_mem_of_isIdentifier named (by decide) inWord
        · exact inductionHypothesis inRest
  | mark blank plain others inductionHypothesis =>
      rename_i lead c tokens rest
      intro member
      rcases List.mem_append.1 member with inLead | behind
      · exact blankSigns lead blank inLead
      · rcases List.mem_cons.1 behind with rfl | inRest
        · revert plain
          decide +kernel
        · exact inductionHypothesis inRest

/-- What tokens of a plain text are written as. -/
theorem Spelled.writtenAll_eq {tokens : List Token} {text : List Char}
    (spelled : Spelled tokens text) : Token.writtenAll tokens = text := by
  induction spelled with
  | done =>
      rfl
  | word blank named ended others inductionHypothesis =>
      simp only [Token.writtenAll, List.flatMap_cons, Token.written,
        Lexeme.text, List.append_assoc]
      congr 2
  | mark blank plain others inductionHypothesis =>
      simp only [Token.writtenAll, List.flatMap_cons, Token.written,
        Lexeme.text, List.append_assoc, String.toList_singleton,
        List.singleton_append]
      congr 2

theorem Spelled.tokenize_eq {tokens : List Token} {text : String}
    (spelled : Spelled tokens text.toList) :
    tokenize (firstBranches text) = .ok ⟨tokens, ""⟩ := by
  have noSign : hasNumberSign text = false := by
    simpa [hasNumberSign] using spelled.no_number_sign
  simp only [firstBranches, noSign, Bool.false_eq_true, if_false, tokenize,
    spelled.tokenizeFrom_eq]

end Source

end ClassDiagram
