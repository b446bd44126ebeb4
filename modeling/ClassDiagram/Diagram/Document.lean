import ClassDiagram.Diagram.Section
import ClassDiagram.Diagram.Settings
import ClassDiagram.Reading.Source

/-!
# Documents

A document is a start marker, a header, the sections of all outlines and an
end marker.  It is made only if the root is well formed, every source has an
outline and every outline can be drawn.
-/

namespace ClassDiagram

def linesText (lines : List String) : String :=
  String.join (lines.map (· ++ "\n"))

/-- A text with a newline at its end; an empty text stays empty. -/
def endedText (text : String) : String :=
  if text.isEmpty || text.toList.getLast? = some '\n' then
    text
  else
    text ++ "\n"

def startMarker : String :=
  "@startuml"

def endMarker : String :=
  "@enduml"

def arrowLine (source target : String) : String :=
  source ++ " --> " ++ target

/-- The artifacts behind the first one, each with an arrow to it from the
one before. -/
def furtherArtifacts (previous : String) : List String → List String
  | [] => []
  | segment :: others =>
      ("artifact " ++ segment) :: arrowLine previous segment ::
        furtherArtifacts segment others

/-- The artifacts of a root and the arrows between them. -/
def breadcrumbLines : List String → List String
  | [] => []
  | first :: others => ("artifact " ++ first) :: furtherArtifacts first others

/-- The text between the start marker and the first section. -/
def headerText (settings : Settings) : String :=
  match settings.header with
  | .breadcrumb =>
      linesText ("allow_mixing" :: breadcrumbLines settings.segments)
  | .styled stylesheet =>
      endedText stylesheet ++
        linesText ["header Generated " ++ settings.timestamp.text]

def packageDecoration (settings : Settings) (module : String) :
    List String :=
  match settings.header with
  | .breadcrumb =>
      match settings.segments.getLast? with
      | some segment => [arrowLine segment module]
      | none => []
  | .styled _ =>
      ["caption " ++ module ++ " " ++ settings.timestamp.dateText]

def sectionLines (settings : Settings) (drawn : Section) : List String :=
  match drawn.module with
  | some module =>
      packageDecoration settings module ++
        ("package " ++ module ++ " \x7b") :: (drawn.lines ++ [closingLine])
  | none => drawn.lines

def documentText (settings : Settings) (sections : Sections) : String :=
  linesText [startMarker] ++ headerText settings ++
    linesText (sections.flatMap (sectionLines settings)) ++
    linesText [endMarker]

def renderOutlines (settings : Settings) (outlines : List Outline) :
    Except DiagramError String :=
  match settings.validate with
  | .error error => .error error
  | .ok () =>
      (drawOutlines settings.root outlines).map (documentText settings)

/-- The outlines of all sources, or the error of the first that has none. -/
def readSources : List String → Except DiagramError (List Outline)
  | [] => .ok []
  | source :: others =>
      match readSource source with
      | .error error => .error error
      | .ok outline => (readSources others).map (outline :: ·)

def renderSources (settings : Settings) (sources : List String) :
    Except DiagramError String :=
  match settings.validate with
  | .error error => .error error
  | .ok () =>
      match readSources sources with
      | .error error => .error error
      | .ok outlines => renderOutlines settings outlines

/-- The document of some sources under a root, with the plain header. -/
def diagramOf (sources : List String) (root : String) :
    Except DiagramError String :=
  renderSources { root := root } sources

end ClassDiagram
