import ClassDiagram.Proofs.Source.LexemeForms

/-!
# Fences of raw strings

A raw string is read as what stands between three quotes and the next three.
How many quotes a raw string is opened with is not looked at, so a longer fence
does not keep shorter ones inside: whatever stands behind the first three
quotes in a row is read as code.

What this means for a content between fences of any length is told from where
the first three quotes in a row stand in all that follows the first three.
-/

namespace ClassDiagram.Source

open Scanner

variable {text front other behind content before after : List Char}
  {count : Nat}

/-! ## The first fence of a text -/

structure FirstFence (text front behind : List Char) : Prop where
  cut : text = front ++ (rawFence ++ behind)
  first : EndsAtFence front

/-- Up to the first fence a text is read as the inside of a raw string. -/
theorem FirstFence.reads (fence : FirstFence text front behind) :
    ((many (oneBefore rawFence)).run text).portion? =
      some ⟨front, rawFence ++ behind⟩ := by
  rw [fence.cut]
  exact reads_beforeFence_iff.2 fence.first

theorem FirstFence.unique {otherBehind : List Char}
    (fence : FirstFence text front behind)
    (again : FirstFence text other otherBehind) :
    front = other ∧ behind = otherBehind := by
  have same := fence.reads.symm.trans again.reads
  rw [Option.some.injEq, Portion.mk.injEq, List.append_cancel_left_eq]
    at same
  exact same

theorem endsAtFence_nil : EndsAtFence [] := by
  intro after isSuffix something
  exact absurd (List.suffix_nil.1 isSuffix) something

/-- A text that holds a fence has a first one. -/
theorem exists_firstFence (holds : rawFence <:+: text) :
    ∃ front behind, FirstFence text front behind := by
  induction text with
  | nil =>
      exact absurd holds (by decide)
  | cons c text inductionHypothesis =>
      by_cases begun : rawFence <+: c :: text
      · obtain ⟨behind, equal⟩ := begun
        exact ⟨[], behind, equal.symm, endsAtFence_nil⟩
      · have inTail : rawFence <:+: text :=
          (List.infix_cons_iff.1 holds).resolve_left begun
        obtain ⟨front, behind, rfl, first⟩ := inductionHypothesis inTail
        refine ⟨c :: front, behind, rfl, ?_⟩
        intro after isSuffix something
        rcases List.suffix_cons_iff.1 isSuffix with rfl | later
        · intro fence
          apply begun
          have whole : c :: (front ++ (rawFence ++ behind)) =
              (c :: front ++ rawFence) ++ behind := by simp
          rw [whole]
          exact fence.trans (List.prefix_append _ behind)
        · exact first after later something

/-! ## Quotes in a row -/

def quotes (count : Nat) : List Char :=
  List.replicate count '"'

theorem quotes_add (first second : Nat) :
    quotes (first + second) = quotes first ++ quotes second :=
  List.replicate_add first second '"'

theorem quotes_three : quotes 3 = rawFence :=
  rfl

/-- Three of the quotes stand in front of the others. -/
theorem quotes_eq_front (atLeast : 3 ≤ count) :
    quotes count = rawFence ++ quotes (count - 3) := by
  rw [← quotes_three, ← quotes_add]
  congr 1
  omega

/-- Three of the quotes stand behind the others. -/
theorem quotes_eq_back (atLeast : 3 ≤ count) :
    quotes count = quotes (count - 3) ++ rawFence := by
  rw [← quotes_three, ← quotes_add]
  congr 1
  omega

/-- A text without a fence has none across its end if no quote is last. -/
theorem endsAtFence_of_no_fence (noFence : ¬ rawFence <:+: content)
    (noLast : content.getLast? ≠ some '"') : EndsAtFence content := by
  rintro after ⟨before, rfl⟩ something begun
  rcases after with - | ⟨c, - | ⟨d, - | ⟨e, later⟩⟩⟩
  · exact something rfl
  · have quoted : '"' = c := by simpa [rawFence] using begun
    apply noLast
    simpa using quoted.symm
  · have quoted : '"' = c ∧ '"' = d := by simpa [rawFence] using begun
    apply noLast
    simpa using quoted.2.symm
  · have quoted : '"' = c ∧ '"' = d ∧ '"' = e := by
      simpa [rawFence] using begun
    obtain ⟨rfl, rfl, rfl⟩ := quoted
    exact noFence ⟨before, later, by simp [rawFence]⟩

/-- Fewer than three quotes make no fence with what begins with none. -/
theorem EndsAtFence.behind_quotes (ends : EndsAtFence content)
    (something : content ≠ []) (noFirst : content.head? ≠ some '"')
    (few : count < 3) : EndsAtFence (quotes count ++ content) := by
  obtain ⟨c, others, rfl⟩ := List.exists_cons_of_ne_nil something
  have notQuote : '"' ≠ c := fun equal => noFirst (equal ▸ rfl)
  induction count with
  | zero =>
      exact ends
  | succ count inductionHypothesis =>
      intro after isSuffix isSome begun
      have shape : quotes (count + 1) ++ c :: others =
          '"' :: (quotes count ++ c :: others) := rfl
      rw [shape, List.suffix_cons_iff] at isSuffix
      rcases isSuffix with rfl | later
      · have atMost : count = 0 ∨ count = 1 := by omega
        rcases atMost with rfl | rfl <;>
          simp [quotes, rawFence, notQuote] at begun
      · exact inductionHypothesis (by omega) after later isSome begun

/-! ## A content between fences -/

/-- A content that such fences keep apart from what surrounds them: it holds
no fence of that length and neither begins nor ends with a quote. -/
structure FitsFences (count : Nat) (content : List Char) : Prop where
  noFence : ¬ quotes count <:+: content
  noFirst : content.head? ≠ some '"'
  noLast : content.getLast? ≠ some '"'

/-- What stands behind the first three quotes of such a text. -/
def behindFence (count : Nat) (content : List Char) : List Char :=
  quotes (count - 3) ++ (content ++ quotes count)

/-- There is a fence behind the first three quotes. -/
theorem exists_firstFence_behindFence (atLeast : 3 ≤ count)
    (content : List Char) :
    ∃ front behind, FirstFence (behindFence count content) front behind := by
  apply exists_firstFence
  rw [behindFence, quotes_eq_back atLeast, ← List.append_assoc,
    ← List.append_assoc]
  exact (List.suffix_append _ rawFence).isInfix

/-- Three quotes are kept apart from the content, so the fence behind it is
the first. -/
theorem firstFence_of_three (fits : FitsFences 3 content) :
    FirstFence (behindFence 3 content) content [] :=
  ⟨by simp [behindFence, quotes, rawFence],
    endsAtFence_of_no_fence fits.noFence fits.noLast⟩

/-- Six quotes are two fences already. -/
theorem firstFence_of_six (atLeast : 6 ≤ count) (content : List Char) :
    FirstFence (behindFence count content) []
      (quotes (count - 6) ++ (content ++ quotes count)) := by
  have atLeastThree : 3 ≤ count - 3 := by omega
  have left : count - 3 - 3 = count - 6 := by omega
  refine ⟨?_, endsAtFence_nil⟩
  rw [behindFence, quotes_eq_front atLeastThree, left, List.nil_append,
    List.append_assoc]

/-- Behind fewer than three quotes, a fence in the content is the first. -/
theorem FirstFence.in_content (fence : FirstFence content before after)
    (noFirst : content.head? ≠ some '"') (few : count < 6) :
    FirstFence (behindFence count content) (quotes (count - 3) ++ before)
      (after ++ quotes count) := by
  have something : before ≠ [] := by
    rintro rfl
    apply noFirst
    rw [fence.cut]
    rfl
  have beforeFirst : before.head? ≠ some '"' := by
    intro equal
    apply noFirst
    rw [fence.cut, List.head?_append, equal]
    rfl
  refine ⟨?_, fence.first.behind_quotes something beforeFirst (by omega)⟩
  rw [behindFence, fence.cut]
  simp only [List.append_assoc]

/-- Behind fewer than three quotes, a content without a fence reaches up to
the fence behind it. -/
theorem firstFence_behind_content (atLeast : 3 ≤ count) (few : count < 6)
    (something : content ≠ []) (noFence : ¬ rawFence <:+: content)
    (noFirst : content.head? ≠ some '"')
    (noLast : content.getLast? ≠ some '"') :
    FirstFence (behindFence count content) (quotes (count - 3) ++ content)
      (quotes (count - 3)) := by
  have ends := endsAtFence_of_no_fence noFence noLast
  refine ⟨?_, ends.behind_quotes something noFirst (by omega)⟩
  rw [behindFence, quotes_eq_front atLeast, List.append_assoc]

/-- Only behind three quotes is the first fence the last. -/
theorem FirstFence.count_eq_three (atLeast : 3 ≤ count)
    (fence : FirstFence (behindFence count content) front []) :
    count = 3 := by
  by_contra longer
  have cut := fence.cut
  rw [behindFence, quotes_eq_back atLeast, List.append_nil,
    ← List.append_assoc, ← List.append_assoc, List.append_cancel_right_eq]
    at cut
  have ending : quotes (count - 3) <:+ front := by
    rw [← cut]
    exact List.suffix_append _ _
  have something : quotes (count - 3) ≠ [] := by
    rw [quotes, ne_eq, List.replicate_eq_nil_iff]
    omega
  apply fence.first _ ending something
  rw [← quotes_eq_back atLeast, quotes_eq_front atLeast]
  exact List.prefix_append _ _

/-! ## What is cut off -/

/-- A raw string at the head of a text is its first token, whatever follows,
and the other tokens are those of what follows. -/
theorem tokenize_rawText_iff {literal : List Char} {source : Tokenized}
    (isRaw : IsRawText literal) (behind : List Char) :
    tokenize (String.ofList (literal ++ behind)) = .ok source ↔
      ∃ later, tokenize (String.ofList behind) = .ok later ∧
        source = later.push ⟨"", .literal (String.ofList literal)⟩ := by
  have noTrivia : triviaPiece.Refuses (literal ++ behind) := by
    obtain ⟨c, others, rfl, mark⟩ := isRaw.exists_mark
    exact portion?_triviaPiece_of_beginsLexeme
      (beginsLexeme_of_mem_literalMarks mark (others ++ behind))
  have cut := tokenizeFrom_lexeme noTrivia.many
    (readLexeme_quotedLiteral (quotedLiteral_reads_raw isRaw behind))
  rw [List.nil_append] at cut
  simp only [tokenize_eq_ok_iff, String.toList_ofList, cut]
  cases tokenizeFrom behind with
  | error furthest =>
      simp
  | ok later =>
      simp [eq_comm]

/-- The text is cut into one token, a literal that covers all of it. -/
def IsOneLiteral (text : String) : Prop :=
  ∃ source, tokenize text = .ok source ∧
    source.tokens.map Token.lexeme = [.literal text] ∧
    source.spans = [(0, text.utf8ByteSize)]

/-- A text that begins with a raw string is one literal if it ends there. -/
theorem isOneLiteral_rawText_iff {literal : List Char}
    (isRaw : IsRawText literal) (behind : List Char) :
    IsOneLiteral (String.ofList (literal ++ behind)) ↔ behind = [] := by
  constructor
  · rintro ⟨source, tokenized, lexemes, -⟩
    obtain ⟨later, -, rfl⟩ := (tokenize_rawText_iff isRaw behind).1 tokenized
    rw [Tokenized.push, List.map_cons, List.cons.injEq,
      Lexeme.literal.injEq] at lexemes
    have same := String.ofList_injective lexemes.1
    exact List.self_eq_append_right.1 same
  · rintro rfl
    have nothing : tokenize (String.ofList []) = .ok ⟨[], ""⟩ := by
      decide +kernel
    refine ⟨_, (tokenize_rawText_iff isRaw []).2 ⟨_, nothing, rfl⟩, ?_, ?_⟩
    · rw [List.append_nil]
      rfl
    · rw [List.append_nil]
      simp [Tokenized.push, Tokenized.spans, Token.spans, Lexeme.text]

/-! ## Fences of any length -/

/-- A content between two fences of so many quotes. -/
def fencedText (count : Nat) (content : String) : String :=
  String.ofList (quotes count ++ (content.toList ++ quotes count))

/-- The literal that such a text begins with, up to its first fence. -/
theorem FirstFence.fencedText_eq {content : String} (atLeast : 3 ≤ count)
    (fence : FirstFence (behindFence count content.toList) front behind) :
    fencedText count content =
      String.ofList (rawFence ++ (front ++ rawFence) ++ behind) := by
  have cut := fence.cut
  rw [behindFence] at cut
  rw [fencedText, quotes_eq_front atLeast, List.append_assoc,
    ← quotes_eq_front atLeast, cut]
  simp only [List.append_assoc]

theorem isRawText_of_endsAtFence (ends : EndsAtFence front) :
    IsRawText (rawFence ++ (front ++ rawFence)) :=
  ⟨[], front, rfl, List.forall_mem_nil _, ends⟩

/-- A content between fences is one literal exactly if the fences are of three
quotes.  In every case the first token is a literal that ends with the first
three quotes in a row behind its first three, and what is left is read as
code: behind longer fences than five quotes this is all of the content, behind
four or five what follows a fence of three in the content, or some of the last
quotes. -/
theorem tokenize_fencedText {content : String} (atLeast : 3 ≤ count)
    (fits : FitsFences count content.toList) :
    (IsOneLiteral (fencedText count content) ↔ count = 3) ∧
      ∃ front behind,
        FirstFence (behindFence count content.toList) front behind ∧
        (∀ source, tokenize (fencedText count content) = .ok source ↔
          ∃ later, tokenize (String.ofList behind) = .ok later ∧
            source = later.push ⟨"",
              .literal (String.ofList (rawFence ++ (front ++ rawFence)))⟩) ∧
        (6 ≤ count →
          behind = quotes (count - 6) ++ (content.toList ++ quotes count)) ∧
        (count < 6 → ∀ before after,
          FirstFence content.toList before after →
            behind = after ++ quotes count) ∧
        (count < 6 → content ≠ "" → ¬ rawFence <:+: content.toList →
          behind = quotes (count - 3)) := by
  obtain ⟨front, behind, fence⟩ :=
    exists_firstFence_behindFence atLeast content.toList
  have isRaw := isRawText_of_endsAtFence fence.first
  rw [fence.fencedText_eq atLeast]
  refine ⟨?_, front, behind, fence,
    fun source => tokenize_rawText_iff isRaw behind, ?_, ?_, ?_⟩
  · rw [isOneLiteral_rawText_iff isRaw]
    constructor
    · rintro rfl
      exact fence.count_eq_three atLeast
    · rintro rfl
      exact (fence.unique (firstFence_of_three fits)).2
  · intro long
    exact (fence.unique (firstFence_of_six long _)).2
  · intro few before after inContent
    exact (fence.unique (inContent.in_content fits.noFirst few)).2
  · intro few something noFence
    have notEmpty : content.toList ≠ [] := by
      simpa using something
    exact (fence.unique (firstFence_behind_content atLeast few notEmpty
      noFence fits.noFirst fits.noLast)).2

def quotedBraces : String :=
  "\n\x7b \"quoted\" \x7d\n"

theorem quotedBraces_kept :
    3 ≤ 3 ∧ FitsFences 3 quotedBraces.toList ∧
      IsOneLiteral (fencedText 3 quotedBraces) := by
  have fits : FitsFences 3 quotedBraces.toList :=
    ⟨by decide +kernel, by decide, by decide⟩
  exact ⟨by decide, fits, (tokenize_fencedText (by decide) fits).1.2 rfl⟩

def bracedFence : String :=
  "\x7b\"\"\"\x7d"

/-- Four quotes ought to keep three inside, but the closing brace is read as
code, and so are the quotes behind it. -/
theorem bracedFence_cut :
    3 ≤ 4 ∧ FitsFences 4 bracedFence.toList ∧
      tokenize (fencedText 4 bracedFence) =
        .ok ⟨[⟨"", .literal "\"\"\"\"\x7b\"\"\""⟩, ⟨"", .mark '\x7d'⟩,
          ⟨"", .literal "\"\""⟩, ⟨"", .literal "\"\""⟩], ""⟩ ∧
      ¬ IsOneLiteral (fencedText 4 bracedFence) := by
  have fits : FitsFences 4 bracedFence.toList :=
    ⟨by decide +kernel, by decide, by decide⟩
  have cut : tokenize (fencedText 4 bracedFence) =
      .ok ⟨[⟨"", .literal "\"\"\"\"\x7b\"\"\""⟩, ⟨"", .mark '\x7d'⟩,
        ⟨"", .literal "\"\""⟩, ⟨"", .literal "\"\""⟩], ""⟩ := by
    decide +kernel
  refine ⟨by decide, fits, cut, ?_⟩
  rintro ⟨source, tokenized, lexemes, -⟩
  rw [cut] at tokenized
  cases tokenized
  exact absurd (congrArg List.length lexemes) (by decide)

end ClassDiagram.Source
