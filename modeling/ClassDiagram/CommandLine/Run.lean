import ClassDiagram.CommandLine.Invocation
import ClassDiagram.CommandLine.Sources

/-!
# Running a command

A run reads files and standard input and ends in an outcome: what was
printed, the files as they are then, and the error if there was one.  A
document or an outline is delivered as a whole, in one place, and only after
everything it needs has succeeded.
-/

namespace ClassDiagram.CommandLine

structure Surroundings where
  files : FileSystem
  standardInput : ByteArray
  /-- The moment that styled headers are dated with. -/
  now : Timestamp := {}
  /-- The format of the log that the environment asks for. -/
  logFormat : Option String := none

structure Outcome where
  printed : String := ""
  /-- What was reported on the way, a line each. -/
  notes : List String := []
  error : Option CommandError := none
  files : FileSystem

namespace Outcome

def exitCode (outcome : Outcome) : Nat :=
  if outcome.error.isSome then 1 else 0

/-- The lines that report the error, if there is one. -/
def errorLines (outcome : Outcome) : List String :=
  match outcome.error with
  | some error => ["Error: " ++ error.wording]
  | none => []

def diagnostics (outcome : Outcome) : String :=
  linesText (outcome.notes ++ outcome.errorLines)

end Outcome

/-- The outcome of a run that fails and prints nothing. -/
def failed (around : Surroundings) (notes : List String)
    (error : CommandError) : Outcome where
  notes := notes
  error := some error
  files := around.files

/-! ## Input and output

Paths are given and shown as texts.
-/

scoped instance : Coe (List String) (List RawText) :=
  ⟨List.map RawText.ofText⟩

scoped instance : CoeOut (List RawText) (List String) :=
  ⟨List.map RawText.shown⟩

def standardInputLabel : String :=
  "<stdin>"

def Surroundings.inputText (around : Surroundings) :
    Except CommandError String :=
  match String.fromUTF8? around.standardInput with
  | some text => .ok text
  | none => .error (.standardInput .notText)

/-- The text of a file, or of standard input if no file is named. -/
def Surroundings.readInput (around : Surroundings) :
    Option String → Except CommandError String
  | none => around.inputText
  | some path =>
      if path = standardPath then
        around.inputText
      else
        (around.files.readText path).mapError fun fault =>
          .file (.unreadable path fault)

/-- The sources that some paths stand for, or standard input if there are no
paths. -/
def Surroundings.collectSources (around : Surroundings)
    (inputs : List String) (extension : String) :
    Except CommandError (List SourceFile) :=
  if inputs.isEmpty then
    around.inputText.map fun text => [⟨standardInputLabel, text⟩]
  else
    match around.files.discover extension (inputs.map RawText.ofText) with
    | .error fault => .error (.file fault)
    | .ok paths => (around.files.readSourceFiles paths).mapError .file

/-- The outcome of delivering a text to a file, or of printing it if no file
is named. -/
def deliverText (around : Surroundings) (notes : List String)
    (output : Option String) (text : String) : Outcome :=
  match output.filter (· != standardPath) with
  | none =>
      { printed := endedText text, notes := notes, files := around.files }
  | some path =>
      match around.files.writeText path (endedText text) with
      | .error fault => failed around notes (.file (.unwritable path fault))
      | .ok files => { notes := notes, files := files }

/-! ## Commands -/

/-- A note that is made only on demand. -/
def noteIf (verbose : Bool) (text : String) : List String :=
  if verbose then [text] else []

def generateSettings (around : Surroundings) (options : GenerateOptions) :
    Except DiagramError Settings :=
  let plain : Settings :=
    { root := options.rootNamespace, timestamp := around.now }
  match options.style with
  | none => .ok plain
  | some path => plain.withStyleFile around.files path

def runGenerate (around : Surroundings) (verbose : Bool)
    (notes : List String) (options : GenerateOptions) : Outcome :=
  match generateSettings around options with
  | .error error => failed around notes (.diagram error)
  | .ok settings =>
      match around.collectSources options.inputs options.extension with
      | .error error => failed around notes error
      | .ok sources =>
          let read := notes ++ noteIf verbose
            ("Read " ++ toString sources.length ++ " source file(s)")
          match renderSourceFiles settings sources with
          | .error error => failed around read error
          | .ok document =>
              let drawn := read ++ noteIf verbose
                ("Generated " ++ toString document.utf8ByteSize ++
                  " bytes of PlantUML")
              deliverText around drawn options.output document

/-- The error of a report, if a source has no outline. -/
def reportError (report : Report) (total : Nat) : Option CommandError :=
  if report.failures = 0 then
    none
  else
    some (.rejected report.failures total)

def runValidate (around : Surroundings) (verbose : Bool)
    (notes : List String) (options : ValidateOptions) : Outcome :=
  match around.collectSources options.inputs options.extension with
  | .error error => failed around notes error
  | .ok sources =>
      let report := checkSources sources
      { printed := report.text
        notes := notes ++ noteIf verbose
          ("Validating " ++ toString sources.length ++ " source file(s)")
        error := reportError report sources.length
        files := around.files }

def runTree (around : Surroundings) (notes : List String)
    (options : TreeOptions) : Outcome :=
  match around.readInput options.input with
  | .error error => failed around notes error
  | .ok content =>
      match sourceOutlineText content options.compact with
      | .error error => failed around notes error
      | .ok text => deliverText around notes none text

/-- The note on a format of the log that the environment asks for, if there
is no such format. -/
def logNotes (around : Surroundings) (invocation : Invocation) :
    List String :=
  let request := around.logFormat.getD invocation.logFormat.keyword
  match installLog false request with
  | .ok _ => []
  | .error fault =>
      ["Warning: Failed to initialize logging: " ++ fault.wording]

def run (around : Surroundings) (invocation : Invocation) : Outcome :=
  let notes := logNotes around invocation ++
    noteIf invocation.verbose "Plantsharp v0.1.0"
  match invocation.command with
  | .generate options => runGenerate around invocation.verbose notes options
  | .validate options => runValidate around invocation.verbose notes options
  | .tree options => runTree around notes options

end ClassDiagram.CommandLine
