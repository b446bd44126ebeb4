import ClassDiagram.Proofs.Drawing.DocumentLines
import ClassDiagram.Proofs.Reading.RefusedCauses
import ClassDiagram.Proofs.Source.LexemeForms

/-!
# Messages about sources

A message about a source tells a cause, a place and what was found there.  The
names and marks in it come from the source, and still it takes up one line:
names and brackets have no newline in them, and no blank is a token.

Only the character that stopped the reading of a text that cannot be cut into
tokens may be any character.  It is quoted as it is.
-/

namespace ClassDiagram

open Source (Token Lexeme Tokenized)
open Text (Position)

/-! ## Texts without a newline -/

def IsOneLine (text : String) : Prop :=
  '\n' ∉ text.toList

instance (text : String) : Decidable (IsOneLine text) :=
  inferInstanceAs (Decidable ('\n' ∉ text.toList))

theorem IsOneLine.append {left right : String} (leftLine : IsOneLine left)
    (rightLine : IsOneLine right) : IsOneLine (left ++ right) := by
  rw [IsOneLine, String.toList_append, List.mem_append, not_or]
  exact ⟨leftLine, rightLine⟩

theorem isOneLine_singleton {c : Char} (different : c ≠ '\n') :
    IsOneLine (String.singleton c) := by
  rw [IsOneLine, String.toList_singleton, List.mem_singleton]
  exact Ne.symm different

theorem isOneLine_number (number : Nat) : IsOneLine (toString number) := by
  rw [IsOneLine, Nat.toString_eq_repr, Nat.repr_eq_ofList_toDigits,
    String.toList_ofList]
  intro member
  have isDigit := Nat.isDigit_of_mem_toDigits (by decide) (by decide) member
  revert isDigit
  decide

/-- What is quoted is one line if the text is. -/
theorem IsOneLine.quoted {text : String} (oneLine : IsOneLine text) :
    IsOneLine ("'" ++ text ++ "'") := by
  have quote : IsOneLine "'" := by
    decide
  exact (quote.append oneLine).append quote

/-- A newline between two such texts breaks them apart. -/
theorem brokenText_two_lines {front behind : String}
    (frontLine : IsOneLine front) (behindLine : IsOneLine behind) :
    brokenText (front ++ "\n" ++ behind) = [front.toList, behind.toList] := by
  have text : (front ++ "\n" ++ behind).toList =
      front.toList ++ '\n' :: behind.toList := by
    simp [String.toList_append]
  rw [brokenText, text, Text.segments_append_mark,
    Text.segments_of_not_mem frontLine, Text.segments_of_not_mem behindLine]
  rfl

/-! ## Lexemes -/

namespace Source

/-- A mark is the first character of the text that it is read from. -/
theorem head?_of_readLexeme_mark {text : List Char} {found : LexemeRead}
    {c : Char}
    (accepted : (readLexeme tokenForms text).found? = some found)
    (isMark : found.lexeme = .mark c) : text.head? = some c := by
  have something : found.portion.taken ≠ [] :=
    taken_ne_nil_of_readLexeme accepted
  rw [← readLexeme_keeps accepted]
  obtain ⟨form, member, taken, made⟩ := exists_form_of_readLexeme accepted
  rw [isMark] at made
  simp only [tokenForms, List.mem_cons, List.not_mem_nil, or_false] at member
  rcases member with rfl | rfl | rfl | rfl | rfl
  case inr.inr.inr.inr =>
    cases text : found.portion.taken with
    | nil =>
        exact absurd text something
    | cons first others =>
        rw [text] at made
        cases made
        rfl
  all_goals
    cases made

/-- Blanks are trivia, so none of them is a mark. -/
theorem marksAreVisible_of_tokenizeFrom {text : List Char}
    {source : Tokenized} (tokenized : tokenizeFrom text = .ok source) :
    ∀ token ∈ source.tokens, ∀ c, token.lexeme = .mark c →
      Text.isSpacing c = false := by
  fun_induction tokenizeFrom text generalizing source with
  | case1 =>
      cases tokenized
      exact List.forall_mem_nil _
  | case2 | case3 | case5 =>
      cases tokenized
  | case4 text gap before unfinished attempt found accepted something
      later laterTokenized =>
      rename_i inductionHypothesis
      cases tokenized
      intro token member c isMark
      rcases List.mem_cons.1 member with rfl | behind
      · have refused : triviaPiece.Refuses gap.portion.rest :=
          triviaPiece_refuses_behind (trivia_reads_gap text)
        exact (not_trivial_of_refuses refused).1 c
          (head?_of_readLexeme_mark accepted isMark)
      · exact inductionHypothesis laterTokenized token behind c isMark

/-- A token is shown in one line. -/
theorem shown_one_line {text : String} {source : Tokenized}
    (tokenized : tokenize text = .ok source) {token : Token}
    (member : token ∈ source.tokens) : IsOneLine token.lexeme.shown := by
  have words := wordsAreNames_of_tokenize tokenized token member
  have marks := marksAreVisible_of_tokenizeFrom
    (tokenizeFrom_of_tokenize tokenized) token member
  cases lexeme : token.lexeme with
  | word name =>
      exact IsOneLine.quoted (words name lexeme).2.one_line
  | literal text =>
      have constant : IsOneLine "literal" := by
        decide
      exact constant
  | arrow =>
      decide
  | mark c =>
      refine IsOneLine.quoted (isOneLine_singleton ?_)
      rintro rfl
      exact absurd (marks '\n' lexeme) (by decide)

end Source

/-! ## Messages -/

/-- A named cause is told in one line. -/
theorem SyntaxFault.Named.one_line {fault : SyntaxFault}
    (named : fault.Named) : IsOneLine fault.wording := by
  have marks : ∀ c ∈ brackets, (c != '\n') = true :=
    List.all_eq_true.1 (by decide)
  have front : ∀ {start name : String}, IsOneLine start → IsNameText name →
      IsOneLine (start ++ name ++ "'") := fun startLine nameNamed =>
    (startLine.append nameNamed.one_line).append (by decide)
  cases fault with
  | missingMark c =>
      have bracket : IsOneLine (String.singleton c) :=
        isOneLine_singleton (bne_iff_ne.1 (marks c named))
      exact (IsOneLine.append (by decide) bracket).append (by decide)
  | missingTypeEnd name | missingTypeBody name
  | missingEnumerationBody name | missingMethodBody name =>
      exact front (by decide) named
  | _ =>
      decide

theorem DiagramError.source_one_line {fault : SourceFault}
    (oneLine : IsOneLine fault.wording) (place : Position) :
    IsOneLine (DiagramError.source fault place).wording := by
  have start : IsOneLine ("Parse error: " ++ fault.wording) :=
    IsOneLine.append (by decide) oneLine
  have line := (start.append (by decide : IsOneLine " at line ")).append
    (isOneLine_number place.line)
  exact (line.append (by decide : IsOneLine ", column ")).append
    (isOneLine_number place.column)

/-- A newline that stopped the reading is quoted as it is. -/
theorem DiagramError.wording_newline (place : Position) :
    (DiagramError.source (.unreadable (some '\n')) place).wording =
      "Parse error: found '" ++ "\n" ++ ("' at line " ++
        toString place.line ++ ", column " ++ toString place.column) := by
  -- what stands around the newline is the same for every place
  have quotation : "Parse error: " ++
      ("found '" ++ String.singleton '\n' ++ "'") ++ " at line " =
        "Parse error: found '" ++ "\n" ++ "' at line " := by
    decide +kernel
  calc (DiagramError.source (.unreadable (some '\n')) place).wording
      = "Parse error: " ++ ("found '" ++ String.singleton '\n' ++ "'") ++
          " at line " ++ toString place.line ++ ", column " ++
            toString place.column := rfl
    _ = "Parse error: found '" ++ "\n" ++ "' at line " ++
          toString place.line ++ ", column " ++ toString place.column := by
        rw [quotation]
    _ = _ := by
        simp only [String.append_assoc]

/-- A refusal is told in one line, together with the token it is about. -/
theorem errorOf_one_line {text : String} {source : Tokenized}
    (tokenized : Source.tokenize text = .ok source)
    {refusal : Reading.Refusal} (named : refusal.fault.Named) :
    IsOneLine (Source.errorOf source refusal).wording := by
  apply DiagramError.source_one_line
  cases found : source.tokens[source.tokens.length - refusal.left]? with
  | none =>
      exact named.one_line.append (by decide)
  | some token =>
      exact (named.one_line.append (by decide)).append
        (Source.shown_one_line tokenized (List.mem_of_getElem? found))

end ClassDiagram
