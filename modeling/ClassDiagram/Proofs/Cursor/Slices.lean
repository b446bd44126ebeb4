import ClassDiagram.Proofs.Cursor.Machine
import ClassDiagram.Reading.TypeReference

/-!
# Texts between tokens

Where the text is what its tokens are written as, the byte offsets of a token
lie between characters.  So the text from one token to a later one can be cut
out, and it is the verbatim text of the tokens from the one to the other.
-/

namespace ClassDiagram.Cursor

open Source (Token)
open Text (byteSize)

/-- The text is what the tokens are written as, with something behind them. -/
def Input.Written (input : Input) : Prop :=
  ∃ behind, input.text = Token.writtenAll input.tokens ++ behind

theorem writtenAll_append (tokens others : List Token) :
    Token.writtenAll (tokens ++ others) =
      Token.writtenAll tokens ++ Token.writtenAll others :=
  List.flatMap_append

/-- The offsets of a token are counted from what stands in front of it. -/
theorem getElem?_spans (front : List Token) (token : Token)
    (after : List Token) (start : List Char) :
    (Token.spans (byteSize start) (front ++ token :: after))[front.length]? =
      some (byteSize (start ++ Token.writtenAll front ++
          token.leading.toList),
        byteSize (start ++ Token.writtenAll (front ++ [token]))) := by
  induction front generalizing start with
  | nil =>
      rw [List.nil_append, Source.spans_cons]
      simp [Token.writtenAll, Token.written, Nat.add_assoc]
  | cons first front inductionHypothesis =>
      rw [List.cons_append, Source.spans_cons, List.length_cons,
        List.getElem?_cons_succ, inductionHypothesis, List.cons_append,
        Source.writtenAll_cons, Source.writtenAll_cons]
      simp only [List.append_assoc]

/-- The tokens between two places. -/
theorem Input.exists_between {input : Input} {tokens rest : List Token}
    (within : tokens <:+ input.tokens) (suffix : rest <:+ tokens) :
    ∃ passed part, input.tokens = passed ++ (part ++ rest) ∧
      input.place tokens = passed.length ∧
      input.place rest = passed.length + part.length ∧
      Reading.taken tokens rest = part := by
  obtain ⟨passed, split⟩ := within
  obtain ⟨part, rfl⟩ := suffix
  refine ⟨passed, part, split.symm, Input.place_of_append split, ?_, ?_⟩
  · rw [← List.append_assoc] at split
    rw [Input.place_of_append split, List.length_append]
  · rw [Reading.taken, List.length_append, Nat.add_sub_cancel,
      List.take_left]

/-- The text from the first of some tokens to the end of the last can be cut
out. -/
theorem slice?_tokens (passed : List Token) (first : Token)
    (others rest : List Token) (behind : List Char) :
    Text.slice?
      (Token.writtenAll (passed ++ (first :: others ++ rest)) ++ behind)
      (byteSize (Token.writtenAll passed ++ first.leading.toList))
      (byteSize (Token.writtenAll (passed ++ first :: others))) =
        some (Token.verbatim (first :: others)).toList := by
  have cut := Text.slice?_eq
    (Token.writtenAll passed ++ first.leading.toList)
    (Token.verbatim (first :: others)).toList
    (Token.writtenAll rest ++ behind)
  rw [← Text.byteSize_append, Token.toList_verbatim_cons] at cut
  rw [Token.toList_verbatim_cons, ← cut]
  simp only [writtenAll_append, Source.writtenAll_cons, List.append_assoc,
    List.cons_append]

/-- The text between two places is the verbatim text of the tokens that were
taken between them. -/
theorem textBetween_place {input : Input} {tokens rest : List Token}
    (written : input.Written) (within : tokens <:+ input.tokens)
    (suffix : rest <:+ tokens) (index : Nat) :
    textBetween (input.place tokens) (input.place rest) input index =
      .done (Token.verbatim (Reading.taken tokens rest)) index := by
  obtain ⟨passed, part, split, placeEq, restEq, takenEq⟩ :=
    Input.exists_between within suffix
  obtain ⟨behind, textEq⟩ := written
  have inRange : ¬ input.tokens.length < input.place rest :=
    Nat.not_lt.2 (Input.place_le rest)
  rw [textBetween, if_neg inRange, placeEq, restEq, takenEq]
  rcases part with - | ⟨first, others⟩
  · exact if_pos (Nat.le_refl _)
  · have ordered : ¬ passed.length + (first :: others).length ≤
        passed.length := by
      simp
    have firstSpan := getElem?_spans passed first (others ++ rest) []
    -- the same tokens seen from the last one
    obtain ⟨initial, last, lastEq⟩ :=
      List.eq_nil_or_concat (first :: others) |>.resolve_left nofun
    have lastSpan := getElem?_spans (passed ++ initial) last rest []
    rw [List.concat_eq_append] at lastEq
    have lastIndex : passed.length + (first :: others).length - 1 =
        (passed ++ initial).length := by
      rw [lastEq, List.length_append, List.length_append,
        List.length_singleton]
      omega
    have regrouped : passed ++ initial ++ last :: rest =
        passed ++ (first :: others ++ rest) := by
      rw [lastEq]
      simp
    rw [regrouped, ← lastIndex, List.append_assoc passed, ← lastEq,
      List.nil_append] at lastSpan
    rw [if_neg ordered, textEq, split]
    rw [← List.cons_append, List.nil_append] at firstSpan
    rw [Text.byteSize_nil] at firstSpan lastSpan
    simp only [firstSpan, lastSpan, List.nil_append, slice?_tokens,
      String.ofList_toList]

end ClassDiagram.Cursor
