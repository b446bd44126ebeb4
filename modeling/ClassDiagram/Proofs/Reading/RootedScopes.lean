import ClassDiagram.Proofs.Printing.RoundTrip
import ClassDiagram.Proofs.Reading.LocalSteps
import ClassDiagram.Proofs.Source.SegmentTokens

/-!
# Namespaces below a root

A namespace whose name begins with the segments of a root can be read only
if every segment is an identifier.  At the first one that is not, the reader
meets a letter or a number where it needs a name, a dot or a body.
-/

namespace ClassDiagram

open Source (Token Tokenized MeetsLetter tokenizeFrom isBlankText_empty
  isBlankText_space)

namespace Reading

/-- A body in braces is next, or the mark of one that runs to the end. -/
def BeginsBody (tokens : List Token) : Prop :=
  atMark ';' tokens = true ∨ atMark '\x7b' tokens = true

theorem exists_of_readScopeOpening {tokens body : List Token}
    {opening : Opening}
    (read : readScopeOpening tokens = .ok (opening, body)) :
    ∃ name behind, readDottedName tokens = .ok (name, behind) ∧
      BeginsBody behind := by
  unfold readScopeOpening at read
  split at read
  · cases read
  · rename_i name behind dotted
    refine ⟨name, behind, dotted, ?_⟩
    split at read
    · exact .inl ‹_›
    · cases entered : expectMark '\x7b' behind with
      | error refusal =>
          rw [entered] at read
          cases read
      | ok rest =>
          obtain ⟨brace, rfl, isBrace⟩ := exists_of_expectMark entered
          exact .inr isBrace

theorem not_beginsBody_of_isAlphanumeric {c : Char}
    (number : Text.isAlphanumeric c = true) (lead : String)
    (rest : List Token) : ¬ BeginsBody (⟨lead, .mark c⟩ :: rest) := by
  have noSemicolon : c ≠ ';' :=
    Text.ne_of_isAlphanumeric number (by decide)
  have noBrace : c ≠ '\x7b' :=
    Text.ne_of_isAlphanumeric number (by decide)
  simp [BeginsBody, atMark, Token.isMark, noSemicolon, noBrace]

/-- Where a letter or a number is met, there is no part of a name. -/
theorem cases_of_meetsLetter {tokens : List Token}
    (meets : MeetsLetter tokens) :
    (∃ token more, tokens = token :: more ∧ word? token = none) ∨
      ∃ token name behind, tokens = token :: behind ∧
        word? token = some name ∧ atMark '.' behind = false ∧
        ¬ BeginsBody behind := by
  obtain ⟨c, lead, more, number, rfl | ⟨front, name, rfl⟩⟩ := meets
  · exact .inl ⟨_, more, rfl, rfl⟩
  · have noDot : c ≠ '.' :=
      Text.ne_of_isAlphanumeric number (by decide)
    refine .inr ⟨_, name, _, rfl, rfl, ?_,
      not_beginsBody_of_isAlphanumeric number lead more⟩
    simp [atMark, Token.isMark, noDot]

/-- A name is not read on where a letter or a number is met. -/
theorem not_beginsBody_of_readNameParts {name dotted : String} {dot : Token}
    {tokens behind : List Token} (isDot : dot.isMark '.' = true)
    (meets : MeetsLetter tokens)
    (read : readNameParts name (dot :: tokens) = .ok (dotted, behind)) :
    ¬ BeginsBody behind := by
  rcases cases_of_meetsLetter meets with ⟨token, more, rfl, noWord⟩ |
    ⟨token, part, rest, rfl, isWord, noDot, noBody⟩
  · rw [readNameParts.eq_def] at read
    simp only [isDot, if_true, noWord] at read
    cases read
  · rw [readNameParts_further isDot isWord, readNameParts_last noDot] at read
    cases read
    exact noBody

theorem not_beginsBody_of_readDottedName {dotted : String}
    {tokens behind : List Token} (meets : MeetsLetter tokens)
    (read : readDottedName tokens = .ok (dotted, behind)) :
    ¬ BeginsBody behind := by
  rcases cases_of_meetsLetter meets with ⟨token, more, rfl, noWord⟩ |
    ⟨token, part, rest, rfl, isWord, noDot, noBody⟩
  · rw [readDottedName, expectWord, noWord] at read
    cases read
  · rw [readDottedName, expectWord, isWord] at read
    dsimp only at read
    rw [readNameParts_last noDot] at read
    cases read
    exact noBody

/-! ## Segments in front of a name -/

def dottedFront (segments : List String) : List Char :=
  segments.flatMap fun segment => segment.toList ++ ['.']

theorem dottedFront_cons (segment : String) (others : List String)
    (rest : List Char) :
    dottedFront (segment :: others) ++ rest =
      segment.toList ++ '.' :: (dottedFront others ++ rest) := by
  rw [dottedFront, List.flatMap_cons, List.append_assoc, List.append_assoc]
  rfl

/-- An identifier with a dot behind it is cut into the two. -/
theorem exists_of_tokenizeFrom_part {lead segment : String}
    {rest : List Char} {source : Tokenized}
    (blank : Source.isBlankText lead = true)
    (named : Text.isIdentifier segment.toList = true)
    (cut : tokenizeFrom (lead.toList ++ (segment.toList ++ '.' :: rest)) =
      .ok source) :
    ∃ later, tokenizeFrom rest = .ok later ∧
      source.tokens =
        ⟨lead, .word segment⟩ :: ⟨"", .mark '.'⟩ :: later.tokens := by
  obtain ⟨behind, cutBehind, tokens⟩ :=
    Source.exists_of_tokenizeFrom_word blank named
      (Source.endsIdentifier_sign (by decide) rest) cut
  obtain ⟨later, cutLater, tokensBehind⟩ :=
    Source.exists_of_tokenizeFrom_mark isBlankText_empty
      (Source.isPlainMark_of_isPlainSign (by decide)) cutBehind
  exact ⟨later, cutLater, by rw [tokens, tokensBehind]⟩

/-- If a name goes on with some segments and a body follows it, they are
identifiers. -/
theorem identifiers_of_readNameParts {segments : List String}
    (areSegments : ∀ segment ∈ segments, isSegment segment.toList = true)
    {rest : List Char} {source : Tokenized}
    (cut : tokenizeFrom (dottedFront segments ++ rest) = .ok source)
    {name dotted : String} {behind : List Token}
    (read : readNameParts name (⟨"", .mark '.'⟩ :: source.tokens) =
      .ok (dotted, behind)) (body : BeginsBody behind) :
    ∀ segment ∈ segments, Text.isIdentifier segment.toList = true := by
  induction segments generalizing name source with
  | nil =>
      exact nofun
  | cons segment others inductionHypothesis =>
      rw [List.forall_mem_cons] at areSegments ⊢
      rw [dottedFront_cons] at cut
      cases named : Text.isIdentifier segment.toList with
      | false =>
          have meets := Source.meetsLetter_of_tokenizeFrom isBlankText_empty
            areSegments.1 named cut
          exact absurd body (not_beginsBody_of_readNameParts rfl meets read)
      | true =>
          obtain ⟨later, cutLater, tokens⟩ :=
            exists_of_tokenizeFrom_part isBlankText_empty named cut
          rw [tokens, readNameParts_further rfl rfl] at read
          exact ⟨rfl, inductionHypothesis areSegments.2 cutLater read⟩

/-- If a namespace is read whose name begins with some segments, they are
identifiers. -/
theorem identifiers_of_readScopeOpening {segments : List String}
    (areSegments : ∀ segment ∈ segments, isSegment segment.toList = true)
    {rest : List Char} {source : Tokenized}
    (cut : tokenizeFrom (' ' :: (dottedFront segments ++ rest)) =
      .ok source) {opening : Opening} {body : List Token}
    (read : readScopeOpening source.tokens = .ok (opening, body)) :
    ∀ segment ∈ segments, Text.isIdentifier segment.toList = true := by
  obtain ⟨name, behind, dotted, begins⟩ := exists_of_readScopeOpening read
  cases segments with
  | nil =>
      exact nofun
  | cons segment others =>
      rw [List.forall_mem_cons] at areSegments ⊢
      rw [dottedFront_cons] at cut
      cases named : Text.isIdentifier segment.toList with
      | false =>
          have meets := Source.meetsLetter_of_tokenizeFrom isBlankText_space
            areSegments.1 named cut
          exact absurd begins (not_beginsBody_of_readDottedName meets dotted)
      | true =>
          obtain ⟨later, cutLater, tokens⟩ :=
            exists_of_tokenizeFrom_part isBlankText_space named cut
          rw [tokens] at dotted
          exact ⟨rfl, identifiers_of_readNameParts areSegments.2 cutLater
            dotted begins⟩

end Reading

end ClassDiagram
