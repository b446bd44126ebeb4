import ClassDiagram.Proofs.Source.BlankedLines
import ClassDiagram.Proofs.Source.NameTexts
import ClassDiagram.Proofs.Source.TriviaPieces
import Mathlib.Data.List.Forall2

/-!
# Tokens and trivia tile a text

The places of the tokens of a text lie one behind another, each token is the
text at its place, and what lies between two places is trivia.  So nothing of
a text is lost or read twice, and every place that an error names is a place
of the text.

The lexer is used only for what it says about one token and the trivia in
front of it.  That the places fit follows from the tokens alone, since they
are counted from what the tokens are written as.
-/

namespace ClassDiagram

namespace Text

/-- The part of a text between two byte offsets, if both lie between
characters of the text and not in the wrong order. -/
def slice? (text : List Char) (start stop : Nat) : Option (List Char) :=
  if start ≤ stop then
    (charsBefore? text start).bind fun before =>
      charsBefore? (text.drop before.length) (stop - start)
  else
    none

theorem slice?_eq (before part after : List Char) :
    slice? (before ++ (part ++ after)) (byteSize before)
      (byteSize before + byteSize part) = some part := by
  rw [slice?, if_pos (Nat.le_add_right _ _), charsBefore?_append,
    Option.bind_some, List.drop_left, Nat.add_sub_cancel_left,
    charsBefore?_append]

theorem byteSize_toList (text : String) :
    byteSize text.toList = text.utf8ByteSize := by
  have ofList : ∀ chars : List Char,
      byteSize chars = (String.ofList chars).utf8ByteSize := by
    intro chars
    induction chars with
    | nil =>
        rfl
    | cons c rest inductionHypothesis =>
        rw [byteSize_cons, inductionHypothesis, String.ofList_cons,
          String.utf8ByteSize_append, String.utf8ByteSize_singleton]
  rw [ofList, String.ofList_toList]

end Text

namespace Source

open Scanner
open Text (byteSize slice?)

/-! ## Places of tokens and gaps -/

/-- What lies in front of the tokens, between them and behind the last. -/
def Tokenized.gaps (source : Tokenized) : List String :=
  source.tokens.map Token.leading ++ [source.trailing]

/-- The byte offsets between which the gaps lie, given those of the tokens,
where the first gap begins and where the last one ends. -/
def gapSpans (start stop : Nat) : List (Nat × Nat) → List (Nat × Nat)
  | [] => [(start, stop)]
  | span :: others => (start, span.1) :: gapSpans span.2 stop others

/-- The token is the text at this place, which is not empty. -/
structure IsTokenAt (text : List Char) (token : Token) (span : Nat × Nat) :
    Prop where
  something : span.1 < span.2
  inBounds : span.2 ≤ byteSize text
  sliced : slice? text span.1 span.2 = some token.lexeme.text.toList

/-- The gap is the text at this place, and trivia. -/
structure IsGapAt (text : List Char) (gap : String) (span : Nat × Nat) :
    Prop where
  sliced : slice? text span.1 span.2 = some gap.toList
  isTrivia : trivia.acceptsWhole gap.toList = true

/-- The tokens and the gaps between them make up the text. -/
structure Tiles (text : List Char) (source : Tokenized) : Prop where
  tokens_at : List.Forall₂ (IsTokenAt text) source.tokens source.spans
  in_order : source.spans.Pairwise fun left right =>
    left.1 < right.1 ∧ left.2 ≤ right.1
  gaps_at : List.Forall₂ (IsGapAt text) source.gaps
    (gapSpans 0 (byteSize text) source.spans)
  interleaved : source.written = text

section Places

variable {tokens : List Token} {token : Token} {others : List Token}

theorem writtenAll_cons (token : Token) (others : List Token) :
    Token.writtenAll (token :: others) =
      token.leading.toList ++
        (token.lexeme.text.toList ++ Token.writtenAll others) := by
  rw [Token.writtenAll, List.flatMap_cons, Token.written,
    List.append_assoc]
  rfl

theorem spans_cons (front : List Char) (token : Token)
    (others : List Token) :
    Token.spans (byteSize front) (token :: others) =
      (byteSize (front ++ token.leading.toList),
        byteSize (front ++ token.leading.toList) +
          byteSize token.lexeme.text.toList) ::
        Token.spans
          (byteSize (front ++ token.leading.toList ++
            token.lexeme.text.toList)) others := by
  simp only [Token.spans, Text.byteSize_append, Text.byteSize_toList]

theorem byteSize_pos {part : List Char} (something : part ≠ []) :
    0 < byteSize part :=
  Nat.lt_of_lt_of_le (List.length_pos_iff.2 something)
    (Text.length_le_byteSize part)

theorem tokens_at_spans (named : ∀ token ∈ tokens,
    token.lexeme.text.toList ≠ []) (front behind : List Char) :
    List.Forall₂ (IsTokenAt (front ++ (Token.writtenAll tokens ++ behind)))
      tokens (Token.spans (byteSize front) tokens) := by
  induction tokens generalizing front with
  | nil =>
      exact .nil
  | cons token others inductionHypothesis =>
      obtain ⟨here, later⟩ := List.forall_mem_cons.1 named
      have cut : front ++ (Token.writtenAll (token :: others) ++ behind) =
          (front ++ token.leading.toList) ++
            (token.lexeme.text.toList ++
              (Token.writtenAll others ++ behind)) := by
        simp only [writtenAll_cons, List.append_assoc]
      have positive := byteSize_pos here
      rw [spans_cons, cut]
      refine .cons ⟨by omega, ?_, Text.slice?_eq _ _ _⟩ ?_
      · simp only [Text.byteSize_append]
        omega
      · rw [← List.append_assoc (front ++ token.leading.toList)]
        exact inductionHypothesis later _

theorem le_of_mem_spans {start : Nat} {span : Nat × Nat}
    (member : span ∈ Token.spans start tokens) : start ≤ span.1 := by
  induction tokens generalizing start with
  | nil =>
      cases member
  | cons token others inductionHypothesis =>
      rcases List.mem_cons.1 member with rfl | later
      · exact Nat.le_add_right _ _
      · have behind := inductionHypothesis later
        omega

theorem spans_in_order (named : ∀ token ∈ tokens,
    token.lexeme.text.toList ≠ []) (start : Nat) :
    (Token.spans start tokens).Pairwise fun left right =>
      left.1 < right.1 ∧ left.2 ≤ right.1 := by
  induction tokens generalizing start with
  | nil =>
      exact .nil
  | cons token others inductionHypothesis =>
      obtain ⟨here, later⟩ := List.forall_mem_cons.1 named
      have positive := byteSize_pos here
      rw [Text.byteSize_toList] at positive
      refine .cons (fun span member => ?_) (inductionHypothesis later _)
      have behind := le_of_mem_spans member
      dsimp only
      omega

theorem gaps_at_spans (tokens : List Token) (trailing : String)
    (front : List Char) :
    List.Forall₂
      (fun (gap : String) span =>
        slice? (front ++ (Token.writtenAll tokens ++ trailing.toList))
          span.1 span.2 = some gap.toList)
      (tokens.map Token.leading ++ [trailing])
      (gapSpans (byteSize front)
        (byteSize (front ++ (Token.writtenAll tokens ++ trailing.toList)))
        (Token.spans (byteSize front) tokens)) := by
  induction tokens generalizing front with
  | nil =>
      have last := Text.slice?_eq front trailing.toList []
      rw [List.append_nil, ← Text.byteSize_append] at last
      exact .cons last .nil
  | cons token others inductionHypothesis =>
      have cut : front ++
          (Token.writtenAll (token :: others) ++ trailing.toList) =
            (front ++ token.leading.toList ++ token.lexeme.text.toList) ++
              (Token.writtenAll others ++ trailing.toList) := by
        simp only [writtenAll_cons, List.append_assoc]
      have first := Text.slice?_eq front token.leading.toList
        (token.lexeme.text.toList ++
          (Token.writtenAll others ++ trailing.toList))
      rw [spans_cons, cut, ← Text.byteSize_append]
      refine .cons ?_ (inductionHypothesis _)
      rw [Text.byteSize_append front]
      simpa only [List.append_assoc] using first

end Places

/-! ## What the lexer cuts -/

/-- A lexeme is written as what was taken for it. -/
theorem text_of_readLexeme {text : List Char} {found : LexemeRead}
    (accepted : (readLexeme tokenForms text).found? = some found) :
    found.lexeme.text.toList = found.portion.taken := by
  obtain ⟨form, member, taken, made⟩ := exists_form_of_readLexeme accepted
  have reads := reads_of_accepted taken
  rw [made]
  simp only [tokenForms, List.mem_cons, List.not_mem_nil, or_false]
    at member
  rcases member with rfl | rfl | rfl | rfl | rfl
  · exact String.toList_ofList
  · exact String.toList_ofList
  · rw [reads_word_iff.1 reads]
    rfl
  · exact String.toList_ofList
  · obtain ⟨c, single, _⟩ := reads_one_iff.1 reads
    rw [single]
    exact String.toList_singleton c

/-- What is skipped at the head of a text is trivia. -/
theorem acceptsWhole_skipped (text : List Char) :
    trivia.acceptsWhole (repeated triviaPiece text).portion.taken = true := by
  have skipped : (trivia.run text).portion? =
      some (repeated triviaPiece text).portion := rfl
  exact acceptsWhole_of_reads_alone
    (trivia_reads_alone (reads_of_accepted skipped))

/-- The tokens are not empty, the gaps are trivia, and nothing is lost. -/
structure CutFrom (text : List Char) (source : Tokenized) : Prop where
  something : ∀ token ∈ source.tokens, token.lexeme.text.toList ≠ []
  areTrivia : ∀ gap ∈ source.gaps, trivia.acceptsWhole gap.toList = true
  written_eq : source.written = text

theorem cutFrom_of_tokenizeFrom {text : List Char} {source : Tokenized}
    (tokenized : tokenizeFrom text = .ok source) : CutFrom text source := by
  fun_induction tokenizeFrom text generalizing source with
  | case1 text gap before =>
      rename_i finished
      cases tokenized
      refine ⟨List.forall_mem_nil _, ?_, ?_⟩
      · refine List.forall_mem_singleton.2 ?_
        rw [String.toList_ofList]
        exact acceptsWhole_skipped text
      · have kept := repeated_keeps triviaPiece text
        rw [finished, List.append_nil] at kept
        rw [Tokenized.written, String.toList_ofList]
        exact kept
  | case2 | case3 | case5 =>
      cases tokenized
  | case4 text gap before unfinished attempt found accepted something
      later laterTokenized =>
      rename_i inductionHypothesis
      cases tokenized
      have others := inductionHypothesis laterTokenized
      have lexemeText := text_of_readLexeme accepted
      refine ⟨?_, ?_, ?_⟩
      · refine List.forall_mem_cons.2 ⟨?_, others.something⟩
        rw [lexemeText]
        exact something
      · refine List.forall_mem_cons.2 ⟨?_, others.areTrivia⟩
        rw [String.toList_ofList]
        exact acceptsWhole_skipped text
      · have kept := repeated_keeps triviaPiece text
        have lexemeKept := readLexeme_keeps accepted
        have laterKept := others.written_eq
        rw [Tokenized.written] at laterKept ⊢
        rw [Tokenized.push, writtenAll_cons, String.toList_ofList,
          lexemeText, List.append_assoc, List.append_assoc, laterKept,
          lexemeKept]
        exact kept

theorem CutFrom.tiles {text : List Char} {source : Tokenized}
    (cut : CutFrom text source) : Tiles text source := by
  have whole := cut.written_eq
  rw [Tokenized.written] at whole
  have tokensAt := tokens_at_spans cut.something [] source.trailing.toList
  have gapsAt := gaps_at_spans source.tokens source.trailing []
  rw [List.nil_append, whole] at tokensAt gapsAt
  refine ⟨tokensAt, spans_in_order cut.something 0, ?_, cut.written_eq⟩
  refine ((List.forall₂_and_left _ _).2 ⟨cut.areTrivia, gapsAt⟩).imp ?_
  rintro gap span ⟨isTrivia, sliced⟩
  exact ⟨sliced, isTrivia⟩

/-- Every text that can be cut into tokens is tiled by them and the trivia
between them. -/
theorem tokenize_tiles {text : String} {source : Tokenized}
    (tokenized : tokenize text = .ok source) : Tiles text.toList source := by
  rw [tokenize] at tokenized
  split at tokenized
  · rename_i found cut
    cases tokenized
    exact (cutFrom_of_tokenizeFrom cut).tiles
  · cases tokenized

/-- A word of two bytes, a comment with a quote, an arrow, a literal with a
brace in a literal of its hole, and a comment that is never ended. -/
def unendedComment : String :=
  "é/* \" */=> $\"\x7b\"\x7d\"\x7d\" /*"

def unendedCommentTokens : Tokenized :=
  ⟨[⟨"", .word "é"⟩, ⟨"/* \" */", .arrow⟩,
    ⟨" ", .literal "$\"\x7b\"\x7d\"\x7d\""⟩, ⟨" ", .mark '/'⟩,
    ⟨"", .mark '*'⟩], ""⟩

theorem unendedComment_tiled :
    tokenize unendedComment = .ok unendedCommentTokens ∧
      Tiles unendedComment.toList unendedCommentTokens := by
  have tokenized : tokenize unendedComment = .ok unendedCommentTokens := by
    decide +kernel
  exact ⟨tokenized, tokenize_tiles tokenized⟩

end Source

end ClassDiagram
