import ClassDiagram.Diagram.Document
import ClassDiagram.Files.Discovery
import ClassDiagram.OutlineJson

/-!
# Sources of a command

What the commands make of labelled sources: one document of all of them, or
a report with a line for each.  A document is made only if every source has
an outline; a report goes on behind a source that has none.
-/

namespace ClassDiagram.CommandLine

/-- A way in which a command fails. -/
inductive CommandError where
  | diagram (error : DiagramError)
  /-- A source, named by its label, has no outline. -/
  | source (label : String) (error : DiagramError)
  | file (fault : FileFault)
  | standardInput (fault : IoFault)
  /-- So many of so many checked sources have no outline. -/
  | rejected (failures total : Nat)
  deriving DecidableEq, Repr

def CommandError.wording : CommandError → String
  | .diagram error => error.wording
  | .source label error =>
      "Failed to parse '" ++ label ++ "': " ++ error.wording
  | .file fault => fault.wording
  | .standardInput fault => fault.wording
  | .rejected failures total =>
      toString failures ++ " of " ++ toString total ++
        " source file(s) failed to parse"

/-- The outlines of all sources, or the error of the first that has none. -/
def readOutlines : List SourceFile → Except CommandError (List Outline)
  | [] => .ok []
  | source :: others =>
      match readSource source.content with
      | .error error => .error (.source source.label error)
      | .ok outline => (readOutlines others).map (outline :: ·)

def renderSourceFiles (settings : Settings) (sources : List SourceFile) :
    Except CommandError String :=
  match readOutlines sources with
  | .error error => .error error
  | .ok outlines =>
      (renderOutlines settings outlines).mapError CommandError.diagram

def sourceOutlineText (content : String) (compact : Bool) :
    Except CommandError String :=
  match readSource content with
  | .error error => .error (.diagram error)
  | .ok outline => .ok (outlineText compact outline)

/-! ## Reports -/

/-- What checking a source comes to. -/
structure Verdict where
  label : String
  /-- The number of declarations, or why there are none. -/
  outcome : Except DiagramError Nat

namespace Verdict

def ofSource (source : SourceFile) : Verdict :=
  ⟨source.label, (readSource source.content).map Outline.count⟩

def isFailure (verdict : Verdict) : Bool :=
  match verdict.outcome with
  | .ok _ => false
  | .error _ => true

def line (verdict : Verdict) : String :=
  match verdict.outcome with
  | .ok count =>
      "✓ " ++ verdict.label ++ " (" ++ toString count ++ " declarations)"
  | .error error => "✗ " ++ verdict.label ++ ": " ++ error.wording

end Verdict

structure Report where
  failures : Nat
  text : String
  deriving DecidableEq, Repr

def checkSources (sources : List SourceFile) : Report :=
  let verdicts := sources.map Verdict.ofSource
  ⟨verdicts.countP Verdict.isFailure, linesText (verdicts.map Verdict.line)⟩

end ClassDiagram.CommandLine
