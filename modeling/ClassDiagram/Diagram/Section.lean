import ClassDiagram.Declaration
import ClassDiagram.Diagram.Flags
import ClassDiagram.Diagram.ModuleName

/-!
# Sections

The body of a diagram is a row of sections.  There is one section for each
module, at the place where the module is first opened, and a section for
each run of lines that belong to no module.  A module that is opened again
goes on with its section.
-/

namespace ClassDiagram

/-- The lines of one module, or lines that belong to no module. -/
structure Section where
  module : Option String
  lines : List String
  deriving DecidableEq, Repr

/-- The sections in the order in which they were opened. -/
abbrev Sections := List Section

/-- Open the section of a module, unless it is there already. -/
def openModule (module : String) (sections : Sections) : Sections :=
  if sections.any fun s => s.module == some module then
    sections
  else
    sections ++ [⟨some module, []⟩]

def addModuleLine (module line : String) (sections : Sections) : Sections :=
  sections.map fun s =>
    if s.module = some module then ⟨s.module, s.lines ++ [line]⟩ else s

/-- Add a line that belongs to no module, to the last section if that one
belongs to no module either. -/
def addLooseLine (line : String) : Sections → Sections
  | [] => [⟨none, [line]⟩]
  | [last] =>
      if last.module.isNone then
        [⟨none, last.lines ++ [line]⟩]
      else
        [last, ⟨none, [line]⟩]
  | first :: others => first :: addLooseLine line others

/-- Add a line to the section of a module or to no module. -/
def addLine (module : Option String) (line : String) (sections : Sections) :
    Sections :=
  match module with
  | some name => addModuleLine name line sections
  | none => addLooseLine line sections

/-! ## Lines -/

def typeLine (header : TypeHeader) : String :=
  typeKeyword header.kind header.modifiers ++ " " ++ header.name ++
    header.typeParameters.getD "" ++ " " ++ typeFlags header.modifiers ++
    "\x7b"

def closingLine : String :=
  "\x7d"

def enumerationLine (declared : Enumeration) : String :=
  "enum " ++ declared.name ++ " " ++ typeFlags declared.modifiers ++ "\x7b"

def enumerationLines (declared : Enumeration) : List String :=
  enumerationLine declared :: (declared.variants ++ [closingLine])

/-- A parameter as it is shown in the line of its method. -/
def parameterText (parameter : Parameter) : String :=
  parameter.name ++ ":" ++ parameter.typeName

def methodLine (declared : Method) : String :=
  memberFlags declared.modifiers ++ declared.name ++ "(" ++
    String.intercalate ", " (declared.parameters.map parameterText) ++
    ") : " ++ declared.returnType

/-! ## Drawing -/

structure Place where
  /-- The full name of the namespace around it. -/
  enclosing : Option String := none
  /-- The module whose section takes its lines. -/
  module : Option String := none
  insideType : Bool := false
  deriving DecidableEq, Repr

def Place.qualify (place : Place) (name : String) : String :=
  match place.enclosing with
  | some outer => outer ++ "." ++ name
  | none => name

def Place.insideScope (place : Place) (qualified module : String) : Place :=
  { place with enclosing := some qualified, module := some module }

mutual

/-- Add the lines of a declaration that lies at a place. -/
def drawDeclaration (root : String) (place : Place) :
    Declaration → Sections → Except DiagramError Sections
  | .scope name members, sections =>
      if place.insideType then
        .error (.tree (.scopeInsideType name))
      else
        let qualified := place.qualify name
        match moduleName root qualified with
        | .error error => .error error
        | .ok module =>
            drawAll root (place.insideScope qualified module) members
              (openModule module sections)
  | .type header members, sections =>
      match drawAll root { place with insideType := true } members
          (addLine place.module (typeLine header) sections) with
      | .error error => .error error
      | .ok drawn => .ok (addLine place.module closingLine drawn)
  | .enumeration declared, sections =>
      .ok ((enumerationLines declared).foldl
        (fun drawn line => addLine place.module line drawn) sections)
  | .method declared, sections =>
      if place.insideType then
        .ok (addLine place.module (methodLine declared) sections)
      else
        .error (.tree (.methodOutsideType declared.name))

/-- Add the lines of several declarations that lie at one place. -/
def drawAll (root : String) (place : Place) :
    List Declaration → Sections → Except DiagramError Sections
  | [], sections => .ok sections
  | first :: others, sections =>
      match drawDeclaration root place first sections with
      | .error error => .error error
      | .ok drawn => drawAll root place others drawn

end

def drawOutlines (root : String) (outlines : List Outline) :
    Except DiagramError Sections :=
  drawAll root {} outlines.flatten []

end ClassDiagram
