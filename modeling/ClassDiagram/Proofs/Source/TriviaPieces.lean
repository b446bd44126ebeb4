import ClassDiagram.Proofs.Source.ExactReading

/-!
# Pieces of trivia

Each piece of trivia is told from its text and from the one character behind
it.  Spacing ends where no spacing follows, and a line comment or a directive
at a newline; a block comment ends itself.  Whatever is cut off behind a piece
therefore leaves the piece as it was, and trivia that was skipped in front of
a token is trivia on its own.
-/

namespace ClassDiagram.Source

open Scanner
open Text (isSpacing)

/-- The two characters that end a block comment. -/
def commentEnd : List Char :=
  ['*', '/']

/-- A text that does not end the block comment it stands in. -/
def StaysComment (text : List Char) : Prop :=
  ¬ commentEnd <:+: text

instance (text : List Char) : Decidable (StaysComment text) :=
  inferInstanceAs (Decidable (¬ _))

/-- A piece of trivia, and a text that may follow without going on with
it. -/
inductive PieceBefore : List Char → List Char → Prop
  | spacing {blanks rest : List Char}
      (something : blanks ≠ [])
      (blank : ∀ c ∈ blanks, isSpacing c = true)
      (ended : ∀ c ∈ rest.head?, isSpacing c = false) :
      PieceBefore blanks rest
  | lineComment {body rest : List Char}
      (oneLine : '\n' ∉ body)
      (ended : ∀ c ∈ rest.head?, c = '\n') :
      PieceBefore ('/' :: '/' :: body) rest
  | blockComment {body : List Char} (rest : List Char)
      (stays : StaysComment body) :
      PieceBefore ('/' :: '*' :: (body ++ commentEnd)) rest
  | directive {body rest : List Char}
      (oneLine : '\n' ∉ body)
      (ended : ∀ c ∈ rest.head?, c = '\n') :
      PieceBefore ('#' :: body) rest

variable {part rest body text : List Char}

/-! ## The forms of trivia -/

theorem restOfLine_reads_iff :
    restOfLine.Reads part rest ↔
      '\n' ∉ part ∧ ∀ c ∈ rest.head?, c = '\n' := by
  rw [restOfLine, reads_many_one_iff]
  apply and_congr
  · constructor
    · intro accepted member
      exact absurd (accepted _ member) (by decide)
    · intro oneLine c member
      rw [bne_iff_ne]
      rintro rfl
      exact oneLine member
  · simp

/-- The end of a comment begins nowhere in a text that stays inside it. -/
theorem StaysComment.reads (stays : StaysComment body) (rest : List Char) :
    (many (oneBefore commentEnd)).Reads body (commentEnd ++ rest) := by
  refine reads_many_oneBefore_iff.2 ⟨?_, .inr (List.prefix_append _ rest)⟩
  intro after isSuffix something begun
  apply stays
  -- the end cannot lie across the border, since it would begin with its own
  -- second character there
  rcases after with - | ⟨c, - | ⟨d, later⟩⟩
  · exact absurd rfl something
  · simp [commentEnd] at begun
  · refine List.IsInfix.trans ?_ isSuffix.isInfix
    simp only [commentEnd, List.cons_append, List.cons_prefix_cons,
      List.nil_prefix, and_true] at begun
    obtain ⟨rfl, rfl⟩ := begun
    exact ⟨[], later, rfl⟩

theorem stays_of_reads
    (reads : (many (oneBefore commentEnd)).Reads body rest) :
    StaysComment body := by
  rintro ⟨before, after, equal⟩
  have nowhere := (reads_many_oneBefore_iff.1 reads).1 (commentEnd ++ after)
  refine nowhere ⟨before, ?_⟩ (by simp [commentEnd]) ?_
  · rw [← equal, List.append_assoc]
  · rw [List.append_assoc]
    exact List.prefix_append _ _

theorem blockComment_reads_iff :
    blockComment.Reads part rest ↔
      ∃ body, part = '/' :: '*' :: (body ++ commentEnd) ∧
        StaysComment body := by
  constructor
  · intro reads
    obtain ⟨opening, behind, rfl, openingRead, behindRead⟩ :=
      reads_andThen_iff.1 reads
    obtain ⟨body, closing, rfl, bodyRead, closingRead⟩ :=
      reads_andThen_iff.1 behindRead
    obtain ⟨ending, nothing, rfl, endingRead, nothingRead⟩ :=
      reads_andThen_iff.1 closingRead
    rw [reads_word_iff.1 openingRead, reads_word_iff.1 endingRead,
      reads_done_iff.1 nothingRead]
    exact ⟨body, by simp [commentEnd], stays_of_reads bodyRead⟩
  · rintro ⟨body, rfl, stays⟩
    have ending : ((word commentEnd).andThen done).Reads
        (commentEnd ++ []) rest :=
      (reads_word commentEnd rest).andThen (reads_done_iff.2 rfl)
    rw [List.append_nil] at ending
    have opening := reads_word ['/', '*'] (body ++ commentEnd ++ rest)
    exact opening.andThen ((stays.reads rest).andThen ending)

theorem spacing_reads_iff :
    spacing.Reads part rest ↔
      part ≠ [] ∧ (∀ c ∈ part, isSpacing c = true) ∧
        ∀ c ∈ rest.head?, isSpacing c = false := by
  constructor
  · intro reads
    obtain ⟨left, right, rfl, leftRead, rightRead⟩ :=
      reads_andThen_iff.1 reads
    obtain ⟨c, rfl, first⟩ := reads_one_iff.1 leftRead
    obtain ⟨others, ended⟩ := reads_many_one_iff.1 rightRead
    exact ⟨List.cons_ne_nil c right,
      List.forall_mem_cons.2 ⟨first, others⟩, ended⟩
  · rintro ⟨something, blank, ended⟩
    obtain ⟨c, others, rfl⟩ := List.exists_cons_of_ne_nil something
    obtain ⟨first, later⟩ := List.forall_mem_cons.1 blank
    have head : (one isSpacing).Reads [c] (others ++ rest) :=
      reads_one_iff.2 ⟨c, rfl, first⟩
    exact head.andThen (reads_many_one_iff.2 ⟨later, ended⟩)

theorem lineComment_reads_iff :
    lineComment.Reads part rest ↔
      ∃ body, part = '/' :: '/' :: body ∧ restOfLine.Reads body rest := by
  constructor
  · intro reads
    obtain ⟨opening, body, rfl, openingRead, bodyRead⟩ :=
      reads_andThen_iff.1 reads
    rw [reads_word_iff.1 openingRead]
    exact ⟨body, rfl, bodyRead⟩
  · rintro ⟨body, rfl, bodyRead⟩
    exact (reads_word ['/', '/'] (body ++ rest)).andThen bodyRead

theorem preprocessorLine_reads_iff :
    preprocessorLine.Reads part rest ↔
      ∃ body, part = '#' :: body ∧ restOfLine.Reads body rest := by
  constructor
  · intro reads
    obtain ⟨opening, body, rfl, openingRead, bodyRead⟩ :=
      reads_andThen_iff.1 reads
    obtain ⟨c, rfl, sign⟩ := reads_one_iff.1 openingRead
    rw [beq_iff_eq.1 sign]
    exact ⟨body, rfl, bodyRead⟩
  · rintro ⟨body, rfl, bodyRead⟩
    exact (reads_char '#' (body ++ rest)).andThen bodyRead

/-- A text that begins with a character other than spacing has none in
front. -/
theorem spacing_refuses {c : Char} (notBlank : isSpacing c = false)
    (text : List Char) : spacing.Refuses (c :: text) :=
  ((refusesAtOnce_one notBlank text).andThen _).refuses

theorem lineComment_refuses (absent : ¬ ['/', '/'] <+: text) :
    lineComment.Refuses text :=
  (refuses_word absent).andThen restOfLine

theorem blockComment_refuses (absent : ¬ ['/', '*'] <+: text) :
    blockComment.Refuses text :=
  (refuses_word absent).andThen _

/-- A slash is no trivia if nothing like a comment begins there. -/
theorem triviaPiece_refuses_cons {c : Char}
    (notBlank : isSpacing c = false)
    (notSign : c ≠ '#')
    (noComment : c = '/' → rest.head? ≠ some '/' ∧ rest.head? ≠ some '*') :
    triviaPiece.Refuses (c :: rest) := by
  have apart : ∀ {second : Char},
      (c = '/' → rest.head? ≠ some second) →
        ¬ ['/', second] <+: c :: rest := by
    intro second other begun
    obtain ⟨behind, equal⟩ := begun
    cases equal
    exact other rfl rfl
  exact refuses_oneOf ⟨spacing_refuses notBlank rest,
    lineComment_refuses (apart fun slash => (noComment slash).1),
    blockComment_refuses (apart fun slash => (noComment slash).2),
    (refuses_char (by simpa using notSign)).andThen _⟩

/-- What is skipped at once is a piece of trivia in front of something that
does not go on with it. -/
theorem triviaPiece_reads_iff :
    triviaPiece.Reads part rest ↔ PieceBefore part rest := by
  constructor
  · intro reads
    obtain ⟨form, member, formReads⟩ := exists_of_reads_oneOf reads
    simp only [List.mem_cons, List.not_mem_nil, or_false] at member
    rcases member with rfl | rfl | rfl | rfl
    · obtain ⟨something, blank, ended⟩ := spacing_reads_iff.1 formReads
      exact .spacing something blank ended
    · obtain ⟨body, rfl, bodyRead⟩ := lineComment_reads_iff.1 formReads
      obtain ⟨oneLine, ended⟩ := restOfLine_reads_iff.1 bodyRead
      exact .lineComment oneLine ended
    · obtain ⟨body, rfl, stays⟩ := blockComment_reads_iff.1 formReads
      exact .blockComment rest stays
    · obtain ⟨body, rfl, bodyRead⟩ :=
        preprocessorLine_reads_iff.1 formReads
      obtain ⟨oneLine, ended⟩ := restOfLine_reads_iff.1 bodyRead
      exact .directive oneLine ended
  · intro piece
    cases piece with
    | spacing something blank ended =>
        exact reads_oneOf [] trivial
          (spacing_reads_iff.2 ⟨something, blank, ended⟩)
    | lineComment oneLine ended =>
        have bodyRead := restOfLine_reads_iff.2 ⟨oneLine, ended⟩
        exact reads_oneOf [spacing] (spacing_refuses (by decide) _)
          (lineComment_reads_iff.2 ⟨_, rfl, bodyRead⟩)
    | blockComment rest stays =>
        exact reads_oneOf [spacing, lineComment]
          ⟨spacing_refuses (by decide) _, lineComment_refuses (by simp)⟩
          (blockComment_reads_iff.2 ⟨_, rfl, stays⟩)
    | directive oneLine ended =>
        have bodyRead := restOfLine_reads_iff.2 ⟨oneLine, ended⟩
        exact reads_oneOf [spacing, lineComment, blockComment]
          ⟨spacing_refuses (by decide) _, lineComment_refuses (by simp),
            blockComment_refuses (by simp)⟩
          (preprocessorLine_reads_iff.2 ⟨_, rfl, bodyRead⟩)

theorem PieceBefore.ne_nil (piece : PieceBefore part rest) : part ≠ [] := by
  cases piece with
  | spacing something =>
      exact something
  | lineComment | blockComment | directive =>
      exact List.cons_ne_nil _ _

/-! ## Trivia on its own -/

/-- A piece is ended also if less stands behind it. -/
theorem PieceBefore.shortened {shorter : List Char}
    (piece : PieceBefore part rest) (isPrefix : shorter <+: rest) :
    PieceBefore part shorter := by
  have headKept : ∀ c ∈ shorter.head?, c ∈ rest.head? := by
    obtain ⟨behind, rfl⟩ := isPrefix
    intro c member
    rw [List.head?_append, Option.mem_def.1 member]
    rfl
  cases piece with
  | spacing something blank ended =>
      exact .spacing something blank fun c member =>
        ended c (headKept c member)
  | lineComment oneLine ended =>
      exact .lineComment oneLine fun c member => ended c (headKept c member)
  | blockComment rest stays =>
      exact .blockComment shorter stays
  | directive oneLine ended =>
      exact .directive oneLine fun c member => ended c (headKept c member)

theorem triviaPiece_refuses_nil : triviaPiece.Refuses [] :=
  rfl

/-- Trivia that was skipped in front of something is skipped whole where
nothing follows. -/
theorem trivia_reads_alone (reads : trivia.Reads part rest) :
    trivia.Reads part [] := by
  rw [trivia, reads_many_iff] at reads ⊢
  induction reads with
  | done stopped =>
      exact .done triviaPiece_refuses_nil.stops
  | more pieceRead something later inductionHypothesis =>
      refine .more ?_ something inductionHypothesis
      have piece := triviaPiece_reads_iff.1 pieceRead
      rw [List.append_nil]
      exact triviaPiece_reads_iff.2
        (piece.shortened (List.prefix_append _ rest))

theorem acceptsWhole_of_reads_alone {scanner : Scanner}
    (reads : scanner.Reads part []) : scanner.acceptsWhole part = true := by
  rw [Reads, List.append_nil] at reads
  rw [acceptsWhole, reads]
  rfl

end ClassDiagram.Source
