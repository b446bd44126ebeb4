import ClassDiagram.CommandLine.Run
import ClassDiagram.Proofs.Delivery.WrittenFiles
import ClassDiagram.Proofs.Drawing.DocumentLines

/-!
# Outcomes of commands

A command that draws a diagram or shows an outline makes one text, or it
fails.  The text is what the sources give, with one newline at its end, and
it goes to one place as a whole: it is printed, or it becomes the content of
one file.  A run that fails, before or at this last step, has printed nothing
and changed no file.

The command and the delivery are kept apart: `run_made` says when a run gets
as far as delivering a text, `deliverText_spec` what becomes of it then.
-/

namespace ClassDiagram

/-- A text ends in a newline, and there is no other one before it. -/
def EndsInOneNewline (text : String) : Prop :=
  ∃ front last, last ≠ '\n' ∧ text.toList = front ++ [last, '\n']

theorem endsInOneNewline_append (front : String) {back : String}
    (ended : EndsInOneNewline back) : EndsInOneNewline (front ++ back) := by
  obtain ⟨inner, last, noNewline, split⟩ := ended
  exact ⟨front.toList ++ inner, last, noNewline, by
    rw [String.toList_append, split, List.append_assoc]⟩

theorem endedText_of_ended {text : String} (ended : EndsInOneNewline text) :
    endedText text = text := by
  obtain ⟨front, last, noNewline, split⟩ := ended
  have atEnd : text.toList.getLast? = some '\n' := by
    rw [split, List.getLast?_append]
    rfl
  rw [endedText, atEnd]
  simp

theorem documentText_ended (settings : Settings) (drawn : Sections) :
    EndsInOneNewline (documentText settings drawn) :=
  endsInOneNewline_append _
    ⟨"@endum".toList, 'l', by decide, by decide +kernel⟩

/-- A document ends in one newline. -/
theorem renderSources_ended {settings : Settings} {sources : List String}
    {document : String}
    (rendered : renderSources settings sources = .ok document) :
    EndsInOneNewline document := by
  obtain ⟨outlines, drawn, -, -, -, rfl⟩ := exists_of_renderSources rendered
  exact documentText_ended settings drawn

/-- The JSON text of an outline ends in a brace. -/
theorem outlineText_closed (compact : Bool) (outline : Outline) :
    ∃ front, outlineText compact outline = front ++ "\x7d" := by
  unfold outlineText Outline.toJson
  cases compact with
  | true =>
      exact ⟨_, rfl⟩
  | false =>
      exact ⟨_, rfl⟩

/-- The JSON text of an outline does not end in a newline, so one is put
behind it. -/
theorem endedText_outlineText (compact : Bool) (outline : Outline) :
    endedText (outlineText compact outline) =
        outlineText compact outline ++ "\n" ∧
      EndsInOneNewline (outlineText compact outline ++ "\n") := by
  obtain ⟨front, split⟩ := outlineText_closed compact outline
  rw [split]
  constructor
  · have atEnd : (front ++ "\x7d").toList.getLast? = some '\x7d' := by
      rw [String.toList_append, List.getLast?_append]
      rfl
    have something : (front ++ "\x7d").isEmpty = false := by
      rw [Bool.eq_false_iff]
      intro empty
      rw [String.isEmpty_iff] at empty
      rw [empty] at atEnd
      cases atEnd
    rw [endedText, atEnd, something]
    simp
  · rw [String.append_assoc]
    exact endsInOneNewline_append front
      ⟨[], '\x7d', by decide, by decide +kernel⟩

namespace CommandLine

/-- The contents of some sources can be read exactly if the sources can. -/
theorem readOutlines_eq_ok_iff {sources : List SourceFile}
    {outlines : List Outline} :
    readOutlines sources = .ok outlines ↔
      readSources (sources.map (·.content)) = .ok outlines := by
  induction sources generalizing outlines with
  | nil =>
      simp [readOutlines, readSources]
  | cons source others inductionHypothesis =>
      rw [readOutlines, List.map_cons, readSources]
      cases readSource source.content with
      | error error =>
          simp
      | ok outline =>
          cases first : readOutlines others with
          | error error =>
              cases second : readSources (others.map (·.content)) with
              | error other =>
                  simp [Except.map]
              | ok read =>
                  rw [inductionHypothesis.2 second] at first
                  cases first
          | ok read =>
              rw [inductionHypothesis.1 first]
              simp [Except.map]

/-- Sources have the document of their contents. -/
theorem renderSourceFiles_eq_ok_iff {settings : Settings}
    {sources : List SourceFile} {document : String} :
    renderSourceFiles settings sources = .ok document ↔
      renderSources settings (sources.map (·.content)) = .ok document := by
  constructor
  · intro rendered
    unfold renderSourceFiles at rendered
    cases read : readOutlines sources with
    | error error =>
        rw [read] at rendered
        cases rendered
    | ok outlines =>
        rw [read] at rendered
        dsimp only at rendered
        rw [renderSources_of_read (readOutlines_eq_ok_iff.1 read)]
        cases drawn : renderOutlines settings outlines with
        | error error =>
            rw [drawn] at rendered
            cases rendered
        | ok made =>
            rw [drawn] at rendered
            cases rendered
            rfl
  · intro rendered
    obtain ⟨outlines, -, read, -⟩ := exists_of_renderSources rendered
    rw [renderSources_of_read read] at rendered
    rw [renderSourceFiles, readOutlines_eq_ok_iff.2 read]
    dsimp only
    rw [rendered]
    rfl

/-! ## What a command makes -/

def Command.makesText : Command → Bool
  | .generate _ | .tree _ => true
  | .validate _ => false

/-- The path that a command is given for its text. -/
def Command.output? : Command → Option String
  | .generate options => options.output
  | .validate _ | .tree _ => none

/-- The path of the file that a command writes its text to; without one the
text is printed. -/
def Command.filePath? (command : Command) : Option String :=
  command.output?.filter (· != standardPath)

/-- What a command makes of what it finds: the document of its sources, or
the JSON text of the outline of its source with a newline behind it. -/
inductive Makes (around : Surroundings) : Command → String → Prop
  | document {options : GenerateOptions} {settings : Settings}
      {sources : List SourceFile} {text : String}
      (settled : generateSettings around options = .ok settings)
      (collected : around.collectSources options.inputs options.extension =
        .ok sources)
      (rendered : renderSources settings (sources.map (·.content)) =
        .ok text) :
      Makes around (.generate options) text
  | outline {options : TreeOptions} {content : String} {outline : Outline}
      (input : around.readInput options.input = .ok content)
      (read : readSource content = .ok outline) :
      Makes around (.tree options)
        (outlineText options.compact outline ++ "\n")

theorem Makes.ended {around : Surroundings} {command : Command}
    {text : String} (made : Makes around command text) :
    EndsInOneNewline text := by
  cases made with
  | document settled collected rendered =>
      exact renderSources_ended rendered
  | outline input read =>
      exact (endedText_outlineText _ _).2

/-! ## What becomes of it -/

namespace Outcome

/-- Nothing is printed and no file has changed. -/
def LeavesAll (before : FileSystem) (outcome : Outcome) : Prop :=
  outcome.printed = "" ∧ outcome.files = before

/-- A text is in its place and nothing else has happened: it is printed, or
only the file of a path has changed. -/
def DeliversOnly (before : FileSystem) (path? : Option String)
    (text : String) (outcome : Outcome) : Prop :=
  match path? with
  | none => outcome.printed = text ∧ outcome.files = before
  | some path =>
      outcome.printed = "" ∧
        FileSystem.OnlyWrites before outcome.files path text

end Outcome

/-- A text can be delivered: it is printed, or its path can be written. -/
def Deliverable (files : FileSystem) (path? : Option String) : Prop :=
  ∀ path ∈ path?, ∃ parent name, files.Writable path parent name

/-- A text is delivered as a whole or not at all. -/
theorem deliverText_spec (around : Surroundings) (notes : List String)
    (output : Option String) (text : String) :
    (Deliverable around.files (output.filter (· != standardPath)) ∧
      (deliverText around notes output text).error = none ∧
      (deliverText around notes output text).DeliversOnly around.files
        (output.filter (· != standardPath)) (endedText text)) ∨
    (¬ Deliverable around.files (output.filter (· != standardPath)) ∧
      ∃ error, deliverText around notes output text =
        failed around notes error) := by
  unfold deliverText Deliverable
  cases output.filter (· != standardPath) with
  | none =>
      exact .inl ⟨nofun, rfl, rfl, rfl⟩
  | some path =>
      simp only [Option.mem_some_iff, forall_eq',
        ← FileSystem.writeText_succeeds_iff (endedText text)]
      cases written : around.files.writeText path (endedText text) with
      | error fault =>
          exact .inr ⟨nofun, _, rfl⟩
      | ok files =>
          exact .inl ⟨⟨files, rfl⟩, rfl, rfl,
            FileSystem.onlyWrites_of_writeText written⟩

/-- A run delivers the text that the command makes, or fails if it makes
none. -/
theorem run_made (around : Surroundings) {invocation : Invocation}
    (makesText : invocation.command.makesText) :
    (∃ text notes raw, Makes around invocation.command text ∧
      endedText raw = text ∧
      run around invocation =
        deliverText around notes invocation.command.output? raw) ∨
    ((∀ text, ¬ Makes around invocation.command text) ∧
      ∃ notes error, run around invocation = failed around notes error) := by
  obtain ⟨command, verbose, level, format⟩ := invocation
  cases command with
  | validate options =>
      cases makesText
  | generate options =>
      dsimp only [run, runGenerate, Command.output?]
      cases settled : generateSettings around options with
      | error error =>
          refine .inr ⟨fun text made => ?_, _, _, rfl⟩
          cases made with
          | document chosen collected rendered =>
              rw [settled] at chosen
              cases chosen
      | ok settings =>
          dsimp only
          cases collected : around.collectSources options.inputs
              options.extension with
          | error error =>
              refine .inr ⟨fun text made => ?_, _, _, rfl⟩
              cases made with
              | document chosen found rendered =>
                  rw [collected] at found
                  cases found
          | ok sources =>
              dsimp only
              cases rendered : renderSourceFiles settings sources with
              | error error =>
                  refine .inr ⟨fun text made => ?_, _, _, rfl⟩
                  cases made with
                  | document chosen found drawn =>
                      rw [settled] at chosen
                      cases chosen
                      rw [collected] at found
                      cases found
                      rw [renderSourceFiles_eq_ok_iff.2 drawn] at rendered
                      cases rendered
              | ok document =>
                  have made := renderSourceFiles_eq_ok_iff.1 rendered
                  exact .inl ⟨document, _, document,
                    .document settled collected made,
                    endedText_of_ended (renderSources_ended made), rfl⟩
  | tree options =>
      dsimp only [run, runTree, Command.output?]
      cases input : around.readInput options.input with
      | error error =>
          refine .inr ⟨fun text made => ?_, _, _, rfl⟩
          cases made with
          | outline found read =>
              rw [input] at found
              cases found
      | ok content =>
          dsimp only [sourceOutlineText]
          cases read : readSource content with
          | error error =>
              refine .inr ⟨fun text made => ?_, _, _, rfl⟩
              cases made with
              | outline found accepted =>
                  rw [input] at found
                  cases found
                  rw [read] at accepted
                  cases accepted
          | ok outline =>
              exact .inl ⟨_, _, _, .outline input read,
                (endedText_outlineText _ _).1, rfl⟩

/-- A run of a command that makes a text fails, and has then printed nothing
and changed no file, or it delivers the text to its place and does nothing
else.  It succeeds exactly if the command makes a text that can be
delivered. -/
theorem run_delivers_whole_text (around : Surroundings)
    {invocation : Invocation}
    (makesText : invocation.command.makesText) :
    let outcome := run around invocation
    let path? := invocation.command.filePath?
    (∀ error, outcome.error = some error →
      outcome.LeavesAll around.files) ∧
    (outcome.error = none →
      ∃ text, Makes around invocation.command text ∧
        EndsInOneNewline text ∧
        outcome.DeliversOnly around.files path? text) ∧
    (outcome.error = none ↔
      Deliverable around.files path? ∧
        ∃ text, Makes around invocation.command text) := by
  intro outcome path?
  rcases run_made around makesText with
    ⟨text, notes, raw, made, rawEnded, runEq⟩ |
      ⟨notMade, notes, error, runEq⟩
  · have outcomeEq : outcome = _ := runEq
    rcases deliverText_spec around notes invocation.command.output? raw with
      ⟨deliverable, faultless, delivered⟩ | ⟨notDeliverable, error, failedEq⟩
    · rw [rawEnded] at delivered
      rw [← runEq] at faultless delivered
      refine ⟨fun error faulty => ?_, fun _ => ⟨text, made, made.ended,
        delivered⟩, iff_of_true faultless ⟨deliverable, text, made⟩⟩
      rw [faultless] at faulty
      cases faulty
    · rw [failedEq] at outcomeEq
      rw [outcomeEq]
      exact ⟨fun _ _ => ⟨rfl, rfl⟩, nofun,
        iff_of_false nofun fun both => notDeliverable both.1⟩
  · have outcomeEq : outcome = _ := runEq
    rw [outcomeEq]
    exact ⟨fun _ _ => ⟨rfl, rfl⟩, nofun,
      iff_of_false nofun fun ⟨_, text, made⟩ => notMade text made⟩

def homeFiles : FileSystem where
  top := .directory [("home", .directory
    [("a.cs", .file "class A \x7b \x7d".toUTF8), ("out", emptyDirectory)])]
  workingDirectory := ["home"]

def atHome : Surroundings where
  files := homeFiles
  standardInput := ByteArray.empty

def overwriting : Invocation where
  command := .generate { inputs := ["a.cs"], output := some "a.cs" }

def misplaced : Invocation where
  command := .generate { inputs := ["a.cs"], output := some "out" }

theorem overwriting_changes_source_only :
    readInvocation ["generate", "a.cs", "-o", "a.cs"] = .ok overwriting ∧
      overwriting.command.makesText = true ∧
      (∃ text, Makes atHome overwriting.command text ∧
        EndsInOneNewline text ∧
        (run atHome overwriting).DeliversOnly homeFiles (some "a.cs") text) ∧
      readInvocation ["generate", "a.cs", "--output=out"] = .ok misplaced ∧
      misplaced.command.makesText = true ∧
      (run atHome misplaced).error =
        some (.file (.unwritable "out" .isDirectory)) ∧
      (run atHome misplaced).LeavesAll homeFiles := by
  have overwritingMakes : overwriting.command.makesText = true := rfl
  have misplacedMakes : misplaced.command.makesText = true := rfl
  have faultless : (run atHome overwriting).error = none := by
    decide +kernel
  have faulty : (run atHome misplaced).error =
      some (.file (.unwritable "out" .isDirectory)) := by
    decide +kernel
  exact ⟨by decide +kernel, overwritingMakes,
    (run_delivers_whole_text atHome overwritingMakes).2.1 faultless,
    by decide +kernel, misplacedMakes, faulty,
    (run_delivers_whole_text atHome misplacedMakes).1 _ faulty⟩

end CommandLine

end ClassDiagram
