import ClassDiagram.DiagramError
import ClassDiagram.Text.Segments
import ClassDiagram.Text.CharacterClass

/-!
# Module names

The module of a namespace is what follows the root namespace in its name.
The root matches whole segments only, need not lead the name, and its first
occurrence counts.  Without a root a namespace is its own module.
-/

namespace ClassDiagram

/-- The outcome of looking for a root in the name of a namespace. -/
inductive RootSearch where
  /-- The root does not occur. -/
  | missing
  /-- The name ends with the first occurrence of the root. -/
  | atEnd
  /-- What follows the first occurrence of the root and its dot. -/
  | followedBy (module : List Char)
  deriving DecidableEq, Repr

/-- The outcome for a root that begins a text, if it is followed by a dot or
by nothing. -/
def RootSearch.here? (root text : List Char) : Option RootSearch :=
  match root.isPrefixOf? text with
  | some [] => some .atEnd
  | some ('.' :: module) => some (.followedBy module)
  | _ => none

/-- Look for a root at the beginnings of segments, the first of which is
here or behind the next dot. -/
def RootSearch.search (root : List Char) : Bool → List Char → RootSearch
  | _, [] => .missing
  | segmentStart, c :: rest =>
      match if segmentStart then here? root (c :: rest) else none with
      | some found => found
      | none => search root (c == '.') rest

/-- The module of a namespace under a root. -/
def moduleName (root name : String) : Except DiagramError String :=
  if root.isEmpty then
    .ok name
  else
    match RootSearch.search root.toList true name.toList with
    | .missing => .error (.outsideRoot name root)
    | .atEnd => .error (.rootItself name)
    | .followedBy module => .ok (String.ofList module)

/-! ## Root namespaces -/

/-- A segment begins with a letter or an underscore and goes on with letters,
numbers and underscores. -/
def isSegment : List Char → Bool
  | [] => false
  | first :: others =>
      (Text.isAlphabetic first || first == '_') &&
        others.all fun c => Text.isAlphanumeric c || c == '_'

/-- The cause for which a segment of a root is refused. -/
def segmentFault? (root : String) (segment : List Char) :
    Option ConfigurationFault :=
  if segment = [] then
    some (.emptySegment root)
  else if isSegment segment then
    none
  else
    some (.invalidSegment root (String.ofList segment))

/-- The segments of a root; the empty root has none. -/
def rootSegments (root : String) : List String :=
  if root.isEmpty then
    []
  else
    (Text.dotSegments root.toList).map String.ofList

/-- A root is empty or a dotted name; the first bad segment is reported. -/
def validateRoot (root : String) : Except DiagramError Unit :=
  if root.isEmpty then
    .ok ()
  else
    match (Text.dotSegments root.toList).findSome? (segmentFault? root) with
    | some fault => .error (.configuration fault)
    | none => .ok ()

end ClassDiagram
