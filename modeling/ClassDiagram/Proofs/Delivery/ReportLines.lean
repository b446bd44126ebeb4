import ClassDiagram.Proofs.Delivery.EntryPoints
import ClassDiagram.Proofs.Delivery.Messages
import ClassDiagram.Proofs.Source.StrayQuotes

/-!
# Lines of a report

A report has an entry for every source, in their order, with a newline behind
each.  An entry takes up one line if the label does: whatever a message quotes
of a source is a name, a bracket or a token, and a newline is none of them.

There is one exception.  A text that cannot be cut into tokens is reported
with the character that stopped the reading, and in a string that its line
cuts off this is a newline.  It is quoted as it is, so the entry breaks in the
quotation, and its second line has no label.
-/

namespace ClassDiagram

open Text (Position positionOf byteSize)

namespace CommandLine

/-! ## Entries -/

/-- The text of the source cannot be cut into tokens, and what stopped the
reading is a newline. -/
def stopsAtNewline (source : SourceFile) : Bool :=
  match Source.tokenize (Source.firstBranches source.content) with
  | .error (.source (.unreadable (some c)) _) => c == '\n'
  | _ => false

/-- A source that cannot be read is told in one line unless its reading
stopped at a newline. -/
theorem wording_one_line {source : SourceFile} {error : DiagramError}
    (refused : readSource source.content = .error error)
    (visible : stopsAtNewline source = false) : IsOneLine error.wording := by
  rcases readSource_error_cases refused with
    uncut | ⟨cut, refusal, tokenized, outlineRefused, rfl⟩
  · obtain ⟨found, place, rfl⟩ := exists_of_tokenize_error uncut
    apply DiagramError.source_one_line
    cases found with
    | none =>
        decide
    | some c =>
        unfold stopsAtNewline at visible
        rw [uncut] at visible
        have quoted : IsOneLine (String.singleton c) :=
          isOneLine_singleton (beq_eq_false_iff_ne.1 visible)
        exact (IsOneLine.append (by decide) quoted).append (by decide)
  · have words := Source.wordsAreNames_of_tokenize tokenized
    exact errorOf_one_line tokenized
      ((Reading.readOutline_refusesNamed words).cause refusal outlineRefused)

/-- Where the reading stopped at a newline, the newline stands behind a quote
that opens no literal. -/
theorem exists_newline_of_stopsAtNewline {source : SourceFile}
    (stops : stopsAtNewline source = true) :
    ∃ front inside behind,
      Source.MeetsStray (Source.firstBranches source.content).toList front
        (inside ++ '\n' :: behind) ∧
      readSource source.content =
        .error (.source (.unreadable (some '\n'))
          (positionOf (Source.firstBranches source.content).toList
            (byteSize (front ++ inside)))) := by
  unfold stopsAtNewline at stops
  unfold readSource
  cases tokenized :
      Source.tokenize (Source.firstBranches source.content) with
  | ok cut =>
      rw [tokenized] at stops
      cases stops
  | error error =>
      rw [tokenized] at stops
      obtain ⟨furthest, failed⟩ :=
        Source.tokenize_fails_iff.1 ⟨error, tokenized⟩
      obtain ⟨front, rest, cut, runs, stray⟩ :=
        Source.exists_meetsStray failed
      obtain ⟨reached, failedThere, behindFront⟩ :=
        runs.tokenizeFrom_error stray
      obtain ⟨inside, behind, rfl, placed⟩ :=
        Source.exists_error_place cut (cut ▸ failedThere) behindFront
      rw [tokenized] at placed
      cases placed
      cases behind with
      | nil =>
          cases stops
      | cons c behind =>
          cases beq_iff_eq.1 stops
          exact ⟨front, inside, behind, ⟨cut, runs, stray⟩, rfl⟩

def entryLines (source : SourceFile) : List (List Char) :=
  brokenText (Verdict.ofSource source).line

def entryFront (source : SourceFile) : String :=
  (if isReadable source then "✓ " else "✗ ") ++ source.label

theorem entryFront_of_ok {source : SourceFile} {outline : Outline}
    (read : readSource source.content = .ok outline) :
    entryFront source = "✓ " ++ source.label := by
  rw [entryFront, if_pos (isReadable_of_ok read)]

theorem entryFront_of_error {source : SourceFile} {error : DiagramError}
    (refused : readSource source.content = .error error) :
    entryFront source = "✗ " ++ source.label := by
  have unreadable : ¬ isReadable source = true := by
    rw [isReadable, refused]
    exact Bool.false_ne_true
  rw [entryFront, if_neg unreadable]

def entryRest (source : SourceFile) : String :=
  match readSource source.content with
  | .ok outline => " (" ++ toString outline.count ++ " declarations)"
  | .error error => ": " ++ error.wording

theorem entryRest_of_error {source : SourceFile} {error : DiagramError}
    (refused : readSource source.content = .error error) :
    entryRest source = ": " ++ error.wording := by
  rw [entryRest, refused]

theorem line_ofSource (source : SourceFile) :
    (Verdict.ofSource source).line = entryFront source ++ entryRest source := by
  unfold Verdict.line Verdict.ofSource entryRest
  cases read : readSource source.content with
  | ok outline =>
      rw [entryFront_of_ok read]
      simp only [Except.map, String.append_assoc]
  | error error =>
      rw [entryFront_of_error read]
      simp only [Except.map, String.append_assoc]

theorem entryFront_one_line {source : SourceFile}
    (labelled : IsOneLine source.label) : IsOneLine (entryFront source) := by
  unfold entryFront
  split
  · exact IsOneLine.append (by decide) labelled
  · exact IsOneLine.append (by decide) labelled

/-- An entry takes up one line unless the reading stopped at a newline. -/
theorem entryLines_of_visible {source : SourceFile}
    (labelled : IsOneLine source.label)
    (visible : stopsAtNewline source = false) :
    entryLines source = [(entryFront source ++ entryRest source).toList] := by
  have rest : IsOneLine (entryRest source) := by
    unfold entryRest
    cases read : readSource source.content with
    | ok outline =>
        exact (IsOneLine.append (by decide)
          (isOneLine_number outline.count)).append (by decide)
    | error error =>
        exact IsOneLine.append (by decide) (wording_one_line read visible)
  rw [entryLines, line_ofSource]
  exact brokenText_of_one_line ((entryFront_one_line labelled).append rest)

/-- An entry breaks in the quotation of a newline. -/
theorem entryLines_of_newline {source : SourceFile} {place : Position}
    (labelled : IsOneLine source.label)
    (refused : readSource source.content =
      .error (.source (.unreadable (some '\n')) place)) :
    entryLines source =
      [("✗ " ++ source.label ++ ": Parse error: found '").toList,
        ("' at line " ++ toString place.line ++ ", column " ++
          toString place.column).toList] := by
  have first : IsOneLine
      (entryFront source ++ ": Parse error: found '") :=
    (entryFront_one_line labelled).append (by decide)
  have second : IsOneLine ("' at line " ++ toString place.line ++
      ", column " ++ toString place.column) :=
    ((IsOneLine.append (by decide) (isOneLine_number place.line)).append
      (by decide)).append (isOneLine_number place.column)
  have broken : (Verdict.ofSource source).line =
      (entryFront source ++ ": Parse error: found '") ++ "\n" ++
        ("' at line " ++ toString place.line ++ ", column " ++
          toString place.column) := by
    have front : ": " ++ "Parse error: found '" =
        ": Parse error: found '" := by
      decide
    rw [line_ofSource, entryRest_of_error refused,
      DiagramError.wording_newline, ← front]
    simp only [String.append_assoc]
  rw [entryLines, broken, brokenText_two_lines first second,
    entryFront_of_error refused]

/-- The lines of an entry: one, and another one for a newline in it. -/
theorem length_entryLines {source : SourceFile}
    (labelled : IsOneLine source.label) :
    (entryLines source).length = 1 + (stopsAtNewline source).toNat := by
  cases visible : stopsAtNewline source with
  | false =>
      rw [entryLines_of_visible labelled visible]
      rfl
  | true =>
      obtain ⟨_, _, _, _, refused⟩ := exists_newline_of_stopsAtNewline visible
      rw [entryLines_of_newline labelled refused]
      rfl

/-! ## Failures -/

/-- The line tells of a source that cannot be read. -/
def isFailureLine (line : List Char) : Bool :=
  "✗ ".toList.isPrefixOf line

theorem isFailureLine_entry (source : SourceFile) (rest : String) :
    isFailureLine (entryFront source ++ rest).toList =
      !isReadable source := by
  cases readable : isReadable source with
  | true =>
      rw [entryFront, if_pos readable, String.toList_append,
        String.toList_append]
      rfl
  | false =>
      have unreadable : ¬ isReadable source = true := by
        rw [readable]
        exact Bool.false_ne_true
      rw [entryFront, if_neg unreadable, String.toList_append,
        String.toList_append]
      rfl

/-- An entry has a line of this kind exactly if the source cannot be read. -/
theorem countP_entryLines {source : SourceFile}
    (labelled : IsOneLine source.label) :
    (entryLines source).countP isFailureLine =
      (!isReadable source).toNat := by
  cases visible : stopsAtNewline source with
  | false =>
      rw [entryLines_of_visible labelled visible, List.countP_singleton,
        isFailureLine_entry]
      cases isReadable source <;> rfl
  | true =>
      obtain ⟨_, _, _, _, refused⟩ := exists_newline_of_stopsAtNewline visible
      -- the second line of a broken entry begins with the closing quote
      have first := isFailureLine_entry source ": Parse error: found '"
      rw [entryFront_of_error refused] at first
      have second : ∀ line column : String, isFailureLine
          ("' at line " ++ line ++ ", column " ++ column).toList = false := by
        intro line column
        rw [String.toList_append, String.toList_append, String.toList_append]
        rfl
      rw [entryLines_of_newline labelled refused, List.countP_cons, first,
        List.countP_singleton, second]
      cases isReadable source <;> rfl

/-! ## Reports -/

theorem text_checkSources (sources : List SourceFile) :
    (checkSources sources).text =
      linesText (sources.map fun source => (Verdict.ofSource source).line) := by
  rw [checkSources, List.map_map]
  rfl

theorem documentLines_checkSources (sources : List SourceFile) :
    documentLines (checkSources sources).text =
      sources.flatMap entryLines := by
  rw [text_checkSources, documentLines_linesText, brokenTexts,
    List.flatMap_map]
  rfl

section

variable {sources : List SourceFile}
  (labelled : ∀ source ∈ sources, IsOneLine source.label)

include labelled

/-- A report has a line for every source, and one more for every newline that
stopped a reading. -/
theorem length_entries :
    (sources.flatMap entryLines).length =
      sources.length + sources.countP stopsAtNewline := by
  induction sources with
  | nil =>
      rfl
  | cons source others inductionHypothesis =>
      obtain ⟨first, behind⟩ := List.forall_mem_cons.1 labelled
      rw [List.flatMap_cons, List.length_append, length_entryLines first,
        inductionHypothesis behind, List.length_cons, List.countP_cons]
      cases stopsAtNewline source <;> simp <;> omega

/-- A report has a line with a cross for every source that cannot be read. -/
theorem countP_entries :
    (sources.flatMap entryLines).countP isFailureLine =
      sources.countP fun source => !isReadable source := by
  induction sources with
  | nil =>
      rfl
  | cons source others inductionHypothesis =>
      obtain ⟨first, behind⟩ := List.forall_mem_cons.1 labelled
      rw [List.flatMap_cons, List.countP_append, countP_entryLines first,
        inductionHypothesis behind, List.countP_cons]
      cases isReadable source <;> simp [Nat.add_comm]

end

/-- A report on sources, told by its lines.  Every line has a newline behind
it, and the entries of the sources follow each other in order.  An entry takes
up one line, which begins with the mark of the outcome and with the label,
unless a newline stopped the reading behind a quote that opens no literal:
then it breaks in the quotation of this newline.  So a report has as many
lines as there are sources exactly if no reading stopped that way.  The number
of failures is that of the lines with a cross in any case. -/
theorem checkSources_lines {sources : List SourceFile}
    (labelled : ∀ source ∈ sources, IsOneLine source.label) :
    let report := checkSources sources
    let lines := documentLines report.text
    brokenText report.text = lines ++ [[]] ∧
    lines = sources.flatMap entryLines ∧
    (∀ source ∈ sources, stopsAtNewline source = false →
      entryLines source = [(Verdict.ofSource source).line.toList] ∧
        (entryFront source).toList <+:
          (Verdict.ofSource source).line.toList) ∧
    (∀ source ∈ sources, stopsAtNewline source = true →
      ∃ front inside behind place,
        Source.MeetsStray (Source.firstBranches source.content).toList front
          (inside ++ '\n' :: behind) ∧
        place = positionOf (Source.firstBranches source.content).toList
          (byteSize (front ++ inside)) ∧
        readSource source.content =
          .error (.source (.unreadable (some '\n')) place) ∧
        entryLines source =
          [("✗ " ++ source.label ++ ": Parse error: found '").toList,
            ("' at line " ++ toString place.line ++ ", column " ++
              toString place.column).toList]) ∧
    lines.length = sources.length + sources.countP stopsAtNewline ∧
    (lines.length = sources.length ↔
      ∀ source ∈ sources, stopsAtNewline source = false) ∧
    report.failures = lines.countP isFailureLine := by
  intro report lines
  have entries : lines = sources.flatMap entryLines :=
    documentLines_checkSources sources
  have count : lines.length =
      sources.length + sources.countP stopsAtNewline :=
    entries ▸ length_entries labelled
  refine ⟨?_, entries, fun source member visible => ?_,
    fun source member stops => ?_, count, ?_, ?_⟩
  · change brokenText (checkSources sources).text =
      documentLines (checkSources sources).text ++ [[]]
    rw [text_checkSources, documentLines_linesText, brokenText_linesText]
  · rw [entryLines_of_visible (labelled source member) visible,
      line_ofSource]
    refine ⟨rfl, ?_⟩
    rw [String.toList_append]
    exact List.prefix_append _ _
  · obtain ⟨front, inside, behind, meets, refused⟩ :=
      exists_newline_of_stopsAtNewline stops
    exact ⟨front, inside, behind, _, meets, rfl, refused,
      entryLines_of_newline (labelled source member) refused⟩
  · have none : sources.countP stopsAtNewline = 0 ↔
        ∀ source ∈ sources, stopsAtNewline source = false := by
      rw [List.countP_eq_zero]
      simp only [Bool.not_eq_true]
    rw [← none, count]
    omega
  · rw [entries, countP_entries labelled]
    exact checkSources_failures sources

/-- A source that can be read, a string that its line cuts off, and a type
without a name. -/
def reportedSources : List SourceFile :=
  [⟨"Good.cs", "class B \x7b \x7d"⟩, ⟨"Cut.cs", "\"\n\""⟩,
    ⟨"Nameless.cs", "class \n\x7d"⟩]

theorem reportedSources_lines :
    (∀ source ∈ reportedSources, IsOneLine source.label) ∧
      (documentLines (checkSources reportedSources).text).length = 4 ∧
      (documentLines (checkSources reportedSources).text).countP
        isFailureLine = 2 := by
  have labelled : ∀ source ∈ reportedSources, IsOneLine source.label := by
    decide
  obtain ⟨-, entries, -, -, count, -, failures⟩ :=
    checkSources_lines labelled
  have stopped : reportedSources.countP stopsAtNewline = 1 := by
    decide +kernel
  refine ⟨labelled, ?_, ?_⟩
  · rw [count, stopped]
    rfl
  · rw [← failures]
    decide +kernel

/-- A string that its line cuts off takes up two lines of the report. -/
theorem cutString_takes_two_lines :
    ¬ ∀ sources : List SourceFile,
      (∀ source ∈ sources, IsOneLine source.label) →
        (documentLines (checkSources sources).text).length =
          sources.length := by
  intro everywhere
  have oneLine := everywhere [⟨"A.cs", "\"\n\""⟩] (by decide)
  have lines : documentLines
      (checkSources [⟨"A.cs", "\"\n\""⟩]).text =
        ["✗ A.cs: Parse error: found '".toList,
          "' at line 1, column 2".toList] := by
    decide +kernel
  rw [lines] at oneLine
  cases oneLine

end CommandLine

end ClassDiagram
