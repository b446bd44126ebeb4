import ClassDiagram.Diagram.Settings
import ClassDiagram.Files.FileSystem
import ClassDiagram.Text.CharacterClass

/-!
# Finding sources

A path to a file stands for that file.  A path to a directory stands for the
files below it that have the extension looked for, in the order of their
names, except for hidden ones and those in directories of built files.  A
directory that is searched and cannot be listed makes the whole search fail.

What is found is read and carries its path as a label, by which it is named
when it cannot be read.
-/

namespace ClassDiagram

/-! ## Names of sources -/

/-- What stands behind the last dot of a name, unless that dot is missing or
leads the name. -/
def extension? (name : RawText) : Option RawText :=
  let backward := name.bytes.reverse
  match backward.dropWhile (· != RawText.dot) with
  | [] => none
  | [_] => none
  | _ :: _ => some ⟨(backward.takeWhile (· != RawText.dot)).reverse⟩

def bareExtension (extension : String) : String :=
  String.ofList (extension.toList.dropWhile (· == '.'))

def hasExtension (extension : String) (name : RawText) : Bool :=
  ((extension? name).bind RawText.text?).any fun found =>
    Text.sameButForCase found (bareExtension extension)

/-- A name that is a text and begins with a dot. -/
def isHidden (name : RawText) : Bool :=
  name.text?.any fun text => text.toList.head? = some '.'

def builtDirectories : List String :=
  ["bin", "obj"]

def isBuilt (name : RawText) : Bool :=
  name.text?.any builtDirectories.contains

def isSourceName (extension : String) (name : RawText) : Bool :=
  !isHidden name && hasExtension extension name

/-- A directory of this name is searched when it is met on the way. -/
def isSearched (name : RawText) : Bool :=
  !isHidden name && !isBuilt name

def nameLe (first second : RawText) : Bool :=
  decide (first.bytes ≤ second.bytes)

def sortedByName {α : Type} (groups : List (RawText × α)) :
    List (RawText × α) :=
  groups.mergeSort fun first second => nameLe first.1 second.1

/-! ## Paths of sources -/

def childPath (directory name : RawText) : RawText :=
  if directory.bytes.getLast? = some RawText.slash then
    ⟨directory.bytes ++ name.bytes⟩
  else
    ⟨directory.bytes ++ RawText.slash :: name.bytes⟩

def pathBelow (directory : RawText) (location : Location) : RawText :=
  location.foldl childPath directory

/-! ## Faults -/

/-- A directory that cannot be listed. -/
structure ScanFault where
  directory : RawText
  fault : IoFault
  deriving DecidableEq, Repr

/-- A fault of a file that the program was asked to use. -/
inductive FileFault where
  | missing (path : RawText)
  | unscanned (path : RawText) (cause : ScanFault)
  | unreadable (path : RawText) (fault : IoFault)
  | unwritable (path : RawText) (fault : IoFault)
  deriving DecidableEq, Repr

def ScanFault.wording (cause : ScanFault) : String :=
  "IO error for operation on " ++ cause.directory.shown ++ ": " ++
    cause.fault.wording

def FileFault.wording : FileFault → String
  | .missing path => "Input path '" ++ path.shown ++ "' does not exist"
  | .unscanned path cause =>
      "Failed to scan '" ++ path.shown ++ "': " ++ cause.wording
  | .unreadable path fault =>
      "Failed to read input file '" ++ path.shown ++ "': " ++ fault.wording
  | .unwritable path fault =>
      "Failed to write output file '" ++ path.shown ++ "': " ++ fault.wording

namespace FileSystem

/-! ## Searching -/

/-- What a search comes to: a source at some location, or a directory that it
cannot go into. -/
abbrev Finding := Except ScanFault Location

mutual

/-- What the search of a node at a path comes to, in order. -/
def findings (system : FileSystem) (extension : String) (path : RawText) :
    FileNode → List Finding
  | .file _ _ => []
  | .directory entries _ =>
      match system.readEntries path with
      | .error fault => [.error ⟨path, fault⟩]
      | .ok _ =>
          (sortedByName
            (system.findingsOfEntries extension path entries)).flatMap
              fun group => group.2
termination_by structural node => node

/-- What each entry of the directory at a path leads to. -/
def findingsOfEntries (system : FileSystem) (extension : String)
    (path : RawText) :
    List (RawText × FileNode) → List (RawText × List Finding)
  | [] => []
  | (name, .file _ _) :: others =>
      let found := if isSourceName extension name then [.ok [name]] else []
      (name, found) :: system.findingsOfEntries extension path others
  | (name, .directory entries rights) :: others =>
      let below := system.findings extension (childPath path name)
        (.directory entries rights)
      let found :=
        if isSearched name then below.map (·.map (name :: ·)) else []
      (name, found) :: system.findingsOfEntries extension path others
termination_by structural entries => entries

end

/-- The paths of the sources that one path stands for.  A search ends at the
first directory that it cannot go into. -/
def sourcesOf (system : FileSystem) (extension : String) (path : RawText) :
    Except FileFault (List RawText) :=
  match system.node? path with
  | none => .error (.missing path)
  | some (.file _ _) => .ok [path]
  | some (.directory entries rights) =>
      match (system.findings extension path
          (.directory entries rights)).mapM id with
      | .error cause => .error (.unscanned path cause)
      | .ok locations => .ok (locations.map (pathBelow path))

/-- The paths of the sources that some paths stand for, in order. -/
def discover (system : FileSystem) (extension : String) :
    List RawText → Except FileFault (List RawText)
  | [] => .ok []
  | path :: others =>
      match system.sourcesOf extension path with
      | .error fault => .error fault
      | .ok found => (system.discover extension others).map (found ++ ·)

end FileSystem

/-! ## Reading what was found -/

/-- A source with the label it goes by. -/
structure SourceFile where
  /-- The path of the source, or what it came from. -/
  label : String
  content : String
  deriving DecidableEq, Repr

/-- The sources at some paths, or the fault of the first that has no text. -/
def FileSystem.readSourceFiles (system : FileSystem) :
    List RawText → Except FileFault (List SourceFile)
  | [] => .ok []
  | path :: others =>
      match system.readText path with
      | .error fault => .error (.unreadable path fault)
      | .ok content =>
          (system.readSourceFiles others).map (⟨path.shown, content⟩ :: ·)

def Settings.withStyleFile (settings : Settings) (system : FileSystem)
    (path : String) : Except DiagramError Settings :=
  match system.readText path with
  | .error fault => .error (.style path fault)
  | .ok stylesheet => .ok (settings.withStylesheet stylesheet)

end ClassDiagram
