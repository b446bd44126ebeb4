import ClassDiagram.Proofs.Source.NestedLiterals

/-!
# What a form of literals takes

A raw string, a string on one line and a character literal end themselves:
which part of a text they take does not depend on what stands behind it.  A
verbatim string is only ended by a quote behind which no other stands.

So each of these forms is described by the texts that it takes, and a form
refuses exactly the texts that begin with none of them.
-/

namespace ClassDiagram.Source

open Scanner

variable {part inside rest text : List Char} {item scanner : Scanner}

namespace Scanner

/-! ## Inversion of repetitions -/

/-- A repetition ends where no further item is read. -/
theorem stops_of_reads_many (reads : item.many.Reads part rest) :
    item.Stops rest := by
  rw [reads_many_iff] at reads
  induction reads with
  | done stopped =>
      exact stopped
  | more itemReads something later inductionHypothesis =>
      exact inductionHypothesis

/-- A scanner refuses a text if it takes no initial part of it. -/
theorem refuses_iff :
    scanner.Refuses text ↔
      ∀ part rest, part ++ rest = text → ¬ scanner.Reads part rest := by
  constructor
  · rintro refused part rest rfl reads
    rw [Reads, refused] at reads
    cases reads
  · intro noPart
    by_contra accepted
    rw [Refuses, ← ne_eq, Option.ne_none_iff_exists'] at accepted
    obtain ⟨portion, found⟩ := accepted
    exact noPart _ _ (scanner.keeps found) (reads_of_accepted found)

theorem refuses_oneOf_iff {alternatives : List Scanner} :
    (oneOf alternatives).Refuses text ↔
      ∀ scanner ∈ alternatives, scanner.Refuses text := by
  induction alternatives with
  | nil =>
      exact iff_of_true refuses_refuse (List.forall_mem_nil _)
  | cons first others inductionHypothesis =>
      rw [List.forall_mem_cons, ← inductionHypothesis]
      exact refuses_either_iff

/-- A row is refused where its first part is, if the second is a
repetition. -/
theorem refuses_andThen_many_iff {first item : Scanner} :
    (first.andThen item.many).Refuses text ↔ first.Refuses text := by
  rw [Refuses, Refuses, portion?_andThen]
  cases (first.run text).portion? with
  | none =>
      exact iff_of_true rfl rfl
  | some initial =>
      simp [portion?_many]

/-- Whatever the scanner takes is not empty. -/
def TakesSomething (scanner : Scanner) : Prop :=
  ∀ part rest, scanner.Reads part rest → part ≠ []

theorem TakesSomething.andThen {first : Scanner}
    (something : first.TakesSomething) (next : Scanner) :
    (first.andThen next).TakesSomething := by
  intro part rest reads
  obtain ⟨left, right, rfl, leftRead, _⟩ := reads_andThen_iff.1 reads
  exact List.append_ne_nil_of_left_ne_nil (something _ _ leftRead) right

theorem TakesSomething.behind {next : Scanner}
    (something : next.TakesSomething) (first : Scanner) :
    (first.andThen next).TakesSomething := by
  intro part rest reads
  obtain ⟨left, right, rfl, _, rightRead⟩ := reads_andThen_iff.1 reads
  exact List.append_ne_nil_of_right_ne_nil left (something _ _ rightRead)

theorem takesSomething_oneOf {alternatives : List Scanner}
    (something : ∀ scanner ∈ alternatives, scanner.TakesSomething) :
    (oneOf alternatives).TakesSomething := by
  intro part rest reads
  obtain ⟨scanner, member, found⟩ := exists_of_reads_oneOf reads
  exact something scanner member part rest found

theorem takesSomething_one (accepts : Char → Bool) :
    (one accepts).TakesSomething := by
  intro part rest reads
  obtain ⟨c, rfl, _⟩ := reads_one_iff.1 reads
  exact List.cons_ne_nil c []

theorem takesSomething_word {letters : List Char} (something : letters ≠ []) :
    (word letters).TakesSomething := by
  intro part rest reads
  rwa [reads_word_iff.1 reads]

/-- Whether the scanner takes a text is not decided by what stands behind
it. -/
def Takes (scanner : Scanner) (IsTaken : List Char → Prop) : Prop :=
  ∀ part rest, scanner.Reads part rest ↔ IsTaken part

theorem Takes.refuses_iff {IsTaken : List Char → Prop}
    (takes : scanner.Takes IsTaken) :
    scanner.Refuses text ↔ ∀ part, IsTaken part → ¬ part <+: text := by
  rw [Scanner.refuses_iff]
  constructor
  · rintro noPart part taken ⟨rest, cut⟩
    exact noPart part rest cut ((takes part rest).2 taken)
  · rintro noPart part rest rfl reads
    exact noPart part ((takes part rest).1 reads)
      (List.prefix_append part rest)

theorem reads_enclosed_iff {opening closing : Char} :
    (inOrder [char opening, item.many, char closing]).Reads part rest ↔
      ∃ inside, part = opening :: (inside ++ [closing]) ∧
        item.many.Reads inside (closing :: rest) := by
  constructor
  · intro reads
    obtain ⟨first, behind, rfl, firstRead, behindRead⟩ :=
      reads_andThen_iff.1 reads
    obtain ⟨inside, last, rfl, insideRead, lastRead⟩ :=
      reads_andThen_iff.1 behindRead
    obtain ⟨ending, nothing, rfl, endingRead, nothingRead⟩ :=
      reads_andThen_iff.1 lastRead
    obtain ⟨c, rfl, isOpening⟩ := reads_one_iff.1 firstRead
    obtain ⟨d, rfl, isClosing⟩ := reads_one_iff.1 endingRead
    rw [beq_iff_eq] at isOpening isClosing
    subst isOpening isClosing
    rw [reads_done_iff.1 nothingRead] at insideRead ⊢
    exact ⟨inside, rfl, insideRead⟩
  · rintro ⟨inside, rfl, reads⟩
    exact reads_enclosed opening reads

end Scanner

theorem Repeats.of_reads {IsPart : List Char → Prop}
    (each : ∀ part behind, item.Reads part behind → IsPart part)
    (reads : item.many.Reads inside rest) : Repeats IsPart inside := by
  rw [reads_many_iff] at reads
  induction reads with
  | done stopped =>
      exact .none
  | more itemReads something later inductionHypothesis =>
      exact .more (each _ _ itemReads) inductionHypothesis

/-! ## Strings on one line and character literals -/

/-- What stands between two of this mark, with backslash escapes. -/
def IsEscapedText (mark : Char) (text : List Char) : Prop :=
  ∃ inside, text = mark :: (inside ++ [mark]) ∧
    Repeats (IsEscapedPart mark) inside

theorem isEscapedPart_of_reads {mark : Char}
    (reads : (oneOf [escaped, noneOf ['\\', mark, '\n']]).Reads part rest) :
    IsEscapedPart mark part := by
  obtain ⟨form, member, formReads⟩ := exists_of_reads_oneOf reads
  simp only [List.mem_cons, List.not_mem_nil, or_false] at member
  rcases member with rfl | rfl
  · obtain ⟨first, second, rfl, firstRead, secondRead⟩ :=
      reads_andThen_iff.1 formReads
    obtain ⟨c, rfl, backslash⟩ := reads_one_iff.1 firstRead
    obtain ⟨d, rfl, _⟩ := reads_one_iff.1 secondRead
    rw [beq_iff_eq.1 backslash]
    exact .escape d
  · obtain ⟨c, rfl, free⟩ := reads_one_iff.1 formReads
    exact .plain (by simpa using free)

theorem takes_escapedText {mark : Char} (notBackslash : mark ≠ '\\') :
    (inOrder [char mark, many (oneOf [escaped, noneOf ['\\', mark, '\n']]),
      char mark]).Takes (IsEscapedText mark) := by
  intro part rest
  rw [reads_enclosed_iff]
  constructor
  · rintro ⟨inside, rfl, reads⟩
    exact ⟨inside, rfl,
      .of_reads (fun _ _ => isEscapedPart_of_reads) reads⟩
  · rintro ⟨inside, rfl, parts⟩
    exact ⟨inside, rfl, escapedParts_read parts notBackslash rest⟩

theorem takes_regularString : regularString.Takes (IsEscapedText '"') :=
  takes_escapedText (by decide)

theorem takes_characterLiteral :
    characterLiteral.Takes (IsEscapedText '\'') :=
  takes_escapedText (by decide)

/-! ## Raw strings -/

/-- The first three quotes in a row of a text and the fence behind it are
that fence. -/
def EndsAtFence (inside : List Char) : Prop :=
  ∀ after, after <:+ inside → after ≠ [] → ¬ rawFence <+: after ++ rawFence

/-- Two fences, with what stands between them and with the dollar signs in
front. -/
def IsRawText (text : List Char) : Prop :=
  ∃ dollars inside,
    text = dollars ++ (rawFence ++ (inside ++ rawFence)) ∧
      (∀ c ∈ dollars, c = '$') ∧ EndsAtFence inside

theorem reads_beforeFence_iff :
    (many (oneBefore rawFence)).Reads inside (rawFence ++ rest) ↔
      EndsAtFence inside := by
  have sameBegin : ∀ after : List Char,
      rawFence <+: after ++ (rawFence ++ rest) ↔
        rawFence <+: after ++ rawFence := by
    intro after
    rw [← List.append_assoc]
    constructor
    · intro begun
      apply List.prefix_of_prefix_length_le begun (List.prefix_append _ _)
      rw [List.length_append]
      exact Nat.le_add_left _ _
    · intro begun
      exact begun.trans (List.prefix_append _ rest)
  rw [reads_many_oneBefore_iff]
  simp only [sameBegin, List.prefix_append, or_true, and_true]
  rfl

theorem reads_dollars_iff :
    (many (char '$')).Reads part (rawFence ++ rest) ↔
      ∀ c ∈ part, c = '$' := by
  rw [char, reads_many_one_iff]
  simp [rawFence]

theorem takes_rawString : rawString.Takes IsRawText := by
  intro part rest
  constructor
  · intro reads
    obtain ⟨dollars, fenced, rfl, dollarsRead, fencedRead⟩ :=
      reads_andThen_iff.1 reads
    obtain ⟨opening, behind, rfl, openingRead, behindRead⟩ :=
      reads_andThen_iff.1 fencedRead
    obtain ⟨inside, closing, rfl, insideRead, closingRead⟩ :=
      reads_andThen_iff.1 behindRead
    obtain ⟨ending, nothing, rfl, endingRead, nothingRead⟩ :=
      reads_andThen_iff.1 closingRead
    rw [reads_word_iff.1 openingRead] at dollarsRead ⊢
    rw [reads_word_iff.1 endingRead, reads_done_iff.1 nothingRead,
      List.append_nil] at insideRead dollarsRead ⊢
    rw [List.append_assoc] at dollarsRead
    exact ⟨dollars, inside, rfl, reads_dollars_iff.1 dollarsRead,
      reads_beforeFence_iff.1 insideRead⟩
  · rintro ⟨dollars, inside, rfl, areDollars, ends⟩
    have closing : (inOrder [word rawFence]).Reads (rawFence ++ []) rest :=
      (reads_word rawFence rest).andThen (reads_done_iff.2 rfl)
    rw [List.append_nil] at closing
    have behind := (reads_beforeFence_iff.2 ends).andThen closing
    have opening := reads_word rawFence (inside ++ rawFence ++ rest)
    have fenced := opening.andThen behind
    have dollarsRead : (many (char '$')).Reads dollars
        (rawFence ++ (inside ++ rawFence) ++ rest) := by
      rw [List.append_assoc]
      exact reads_dollars_iff.2 areDollars
    exact dollarsRead.andThen fenced

theorem IsRawText.exists_mark (isRaw : IsRawText text) :
    ∃ c behind, text = c :: behind ∧ c ∈ literalMarks := by
  obtain ⟨dollars, inside, rfl, areDollars, -⟩ := isRaw
  cases dollars with
  | nil =>
      exact ⟨_, _, rfl, by decide⟩
  | cons c others =>
      refine ⟨c, _, rfl, ?_⟩
      rw [areDollars c List.mem_cons_self]
      decide

/-! ## Verbatim strings -/

/-- What stands between an at sign with a quote and a last quote, with doubled
quotes as escapes. -/
def IsVerbatimText (text : List Char) : Prop :=
  ∃ inside, text = '@' :: '"' :: (inside ++ ['"']) ∧
    Repeats IsVerbatimPart inside

theorem isVerbatimPart_of_reads
    (reads : (oneOf [word ['"', '"'], one (· != '"')]).Reads part rest) :
    IsVerbatimPart part := by
  obtain ⟨form, member, formReads⟩ := exists_of_reads_oneOf reads
  simp only [List.mem_cons, List.not_mem_nil, or_false] at member
  rcases member with rfl | rfl
  · rw [reads_word_iff.1 formReads]
    exact .quote
  · obtain ⟨c, rfl, other⟩ := reads_one_iff.1 formReads
    exact .plain (by simpa using other)

/-- Behind the quote that ends a verbatim string stands no other. -/
theorem verbatimString_reads_iff :
    verbatimString.Reads part rest ↔
      IsVerbatimText part ∧ rest.head? ≠ some '"' := by
  constructor
  · intro reads
    obtain ⟨sigil, quoted, rfl, sigilRead, quotedRead⟩ :=
      reads_andThen_iff.1 reads
    obtain ⟨c, rfl, atSign⟩ := reads_one_iff.1 sigilRead
    obtain ⟨inside, rfl, insideRead⟩ := reads_enclosed_iff.1 quotedRead
    rw [beq_iff_eq.1 atSign]
    refine ⟨⟨inside, rfl,
      .of_reads (fun _ _ => isVerbatimPart_of_reads) insideRead⟩, ?_⟩
    intro doubled
    obtain ⟨behind, rfl⟩ := List.head?_eq_some_iff.1 doubled
    -- two quotes are one more part, so the repetition would not end there
    have further : (oneOf [word ['"', '"'], one (· != '"')]).Reads
        ['"', '"'] behind := reads_oneOf [] trivial (reads_word _ behind)
    exact absurd (stops_of_reads_many insideRead _ further)
      (List.cons_ne_nil _ _)
  · rintro ⟨⟨inside, rfl, parts⟩, single⟩
    have enclosed : (inOrder [quote, _, quote]).Reads _ rest :=
      reads_enclosed '"' (verbatimParts_read parts single)
    exact (reads_char '@' _).andThen enclosed

/-! ## The choice between the forms -/

/-- The forms of literals in the order in which they are tried, with holes
that are nested at most so deep. -/
def literalForms (depth : Nat) : List Scanner :=
  [rawString, interpolatedVerbatim (holeWithin depth), verbatimString,
    interpolatedString (holeWithin depth), regularString, characterLiteral]

theorem run_literalWithin (depth : Nat) (text : List Char) :
    (literalWithin (depth + 1)).run text =
      (oneOf (literalForms depth)).run text := by
  rw [literalWithin]
  rfl

/-- The length of a text that is not empty leaves a level for its holes. -/
theorem quotedLiteral_run_cons (c : Char) (text : List Char) :
    quotedLiteral.run (c :: text) =
      (oneOf (literalForms text.length)).run (c :: text) := by
  rw [run_quotedLiteral, List.length_cons, run_literalWithin]

theorem takesSomething_of_mem_literalForms {form : Scanner} {depth : Nat}
    (member : form ∈ literalForms depth) : form.TakesSomething := by
  simp only [literalForms, List.mem_cons, List.not_mem_nil, or_false]
    at member
  rcases member with rfl | rfl | rfl | rfl | rfl | rfl
  · have fence : (word rawFence).TakesSomething :=
      takesSomething_word (List.cons_ne_nil _ _)
    exact (fence.andThen _).behind _
  · have sigils :
        (oneOf [word ['@', '$'], word ['$', '@']]).TakesSomething := by
      apply takesSomething_oneOf
      intro scanner sigil
      simp only [List.mem_cons, List.not_mem_nil, or_false] at sigil
      rcases sigil with rfl | rfl <;>
        exact takesSomething_word (List.cons_ne_nil _ _)
    exact sigils.andThen _
  · exact (takesSomething_one _).andThen _
  · exact (takesSomething_one _).andThen _
  · exact (takesSomething_one _).andThen _
  · exact (takesSomething_one _).andThen _

theorem exists_form_of_quotedLiteral (reads : quotedLiteral.Reads part rest) :
    ∃ depth, ∃ form ∈ literalForms depth, form.Reads part rest := by
  rcases whole : part ++ rest with - | ⟨c, text⟩
  · rw [Reads, whole] at reads
    cases reads
  · rw [Reads, whole, quotedLiteral_run_cons, ← whole] at reads
    exact ⟨text.length, exists_of_reads_oneOf reads⟩

theorem takesSomething_quotedLiteral : quotedLiteral.TakesSomething := by
  intro part rest reads
  obtain ⟨depth, form, member, found⟩ := exists_form_of_quotedLiteral reads
  exact takesSomething_of_mem_literalForms member part rest found

/-! ## Which literals are read -/

theorem quotedLiteral_reads_raw (isRaw : IsRawText text)
    (rest : List Char) : quotedLiteral.Reads text rest := by
  obtain ⟨first, others, rfl, -⟩ := isRaw.exists_mark
  rw [Reads, List.cons_append, quotedLiteral_run_cons]
  exact reads_oneOf [] trivial ((takes_rawString _ rest).2 isRaw)

theorem quotedLiteral_reads_literal (wellFormed : IsLiteral text)
    (single : rest.head? ≠ some '"') : quotedLiteral.Reads text rest := by
  rw [Reads, run_quotedLiteral]
  apply wellFormed.readsWithin _ single
  rw [List.length_append]
  exact Nat.le_add_right _ _

/-- A literal without dollar signs is a raw string or a literal without
holes. -/
theorem exists_form_of_no_dollar (noDollar : '$' ∉ part)
    (reads : quotedLiteral.Reads part rest) :
    IsRawText part ∨ IsLiteral part := by
  obtain ⟨depth, form, member, formReads⟩ :=
    exists_form_of_quotedLiteral reads
  simp only [literalForms, List.mem_cons, List.not_mem_nil, or_false]
    at member
  rcases member with rfl | rfl | rfl | rfl | rfl | rfl
  · exact .inl ((takes_rawString part rest).1 formReads)
  · obtain ⟨sigils, quoted, rfl, sigilsRead, -⟩ :=
      reads_andThen_iff.1 formReads
    obtain ⟨sigil, listed, sigilRead⟩ := exists_of_reads_oneOf sigilsRead
    simp only [List.mem_cons, List.not_mem_nil, or_false] at listed
    rcases listed with rfl | rfl <;>
      simp [reads_word_iff.1 sigilRead] at noDollar
  · obtain ⟨⟨inside, rfl, parts⟩, -⟩ :=
      verbatimString_reads_iff.1 formReads
    exact .inr (.verbatim parts)
  · obtain ⟨sigil, quoted, rfl, sigilRead, -⟩ :=
      reads_andThen_iff.1 formReads
    obtain ⟨d, rfl, isDollar⟩ := reads_one_iff.1 sigilRead
    simp [beq_iff_eq.1 isDollar] at noDollar
  · obtain ⟨inside, rfl, parts⟩ :=
      (takes_regularString part rest).1 formReads
    exact .inr (.regular parts)
  · obtain ⟨inside, rfl, parts⟩ :=
      (takes_characterLiteral part rest).1 formReads
    exact .inr (.character parts)

/-- An at sign opens no literal if neither a quote nor a dollar sign
follows. -/
theorem quotedLiteral_refuses_at (noQuote : rest.head? ≠ some '"')
    (noDollar : rest.head? ≠ some '$') :
    quotedLiteral.Refuses ('@' :: rest) := by
  have noRaw : rawString.Refuses ([] ++ '@' :: rest) :=
    rawString_refuses (List.forall_mem_nil _) (by simp) (by simp [rawFence])
  have noFirst : ¬ ['@', '$'] <+: '@' :: rest := by
    rintro ⟨behind, equal⟩
    cases equal
    exact noDollar rfl
  have noVerbatim : verbatimString.Refuses (['@'] ++ rest) :=
    (reads_char '@' rest).andThen_refuses ((refuses_char noQuote).andThen _)
  rw [Refuses, quotedLiteral_run_cons]
  exact refuses_oneOf ⟨noRaw,
    interpolatedVerbatim_refuses noFirst (by simp), noVerbatim,
    inOrder_char_refuses _ (by simp), inOrder_char_refuses _ (by simp),
    inOrder_char_refuses _ (by simp)⟩

end ClassDiagram.Source
