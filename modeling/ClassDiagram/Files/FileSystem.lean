import ClassDiagram.Files.FileNode
import ClassDiagram.DiagramError
import ClassDiagram.Text.Segments

/-!
# Reading and writing files

A path is followed segment by segment from the working directory, or from
the top if it begins with a slash.  Every segment needs a directory to go on
from, also one that stays there, and every name needs one that may be passed.
Listing, reading and writing either succeed or name the first fault on the
way, and a write that fails leaves every file as it was.
-/

namespace ClassDiagram

/-- A tree of files and the directory that paths begin in. -/
structure FileSystem where
  top : FileNode
  workingDirectory : Location := []

namespace FileSystem

def longestName : Nat :=
  255

def longestPath : Nat :=
  4095

def pathFault? (path : RawText) : Option IoFault :=
  if path.bytes.contains 0 then some .nullInName
  else if path.bytes.isEmpty then some .notFound
  else if longestPath < path.bytes.length then some .nameTooLong
  else none

def pathSegments (path : RawText) : List RawText :=
  (Text.segments RawText.slash path.bytes).map RawText.mk

/-- The location of the directory that a path begins in. -/
def start (system : FileSystem) (path : RawText) : Location :=
  if path.bytes.head? = some RawText.slash then [] else system.workingDirectory

def staysThere (segment : RawText) : Bool :=
  segment == "" || segment == "."

/-- The location that a segment leads to.  Nothing is looked up for an empty
segment, so it also stands behind a directory that must not be passed. -/
def follow (top : FileNode) (location : Location) (segment : RawText) :
    Except IoFault Location :=
  match top.node? location with
  | none => .error .notFound
  | some (.file _ _) => .error .notDirectory
  | some (.directory entries rights) =>
      if segment = "" then .ok location
      else if !rights.toPass then .error .denied
      else if staysThere segment then .ok location
      else if segment = ".." then .ok location.dropLast
      else if longestName < segment.bytes.length then .error .nameTooLong
      else
        match entries.lookup segment with
        | some _ => .ok (location ++ [segment])
        | none => .error .notFound

def followAll (top : FileNode) :
    Location → List RawText → Except IoFault Location
  | location, [] => .ok location
  | location, segment :: others =>
      match follow top location segment with
      | .error fault => .error fault
      | .ok next => followAll top next others

def locate (system : FileSystem) (path : RawText) :
    Except IoFault Location :=
  match pathFault? path with
  | some fault => .error fault
  | none => followAll system.top (system.start path) (pathSegments path)

/-- The node that a path leads to, if there is one. -/
def node? (system : FileSystem) (path : RawText) : Option FileNode :=
  match system.locate path with
  | .error _ => none
  | .ok location => system.top.node? location

def readEntries (system : FileSystem) (path : RawText) :
    Except IoFault (List (RawText × FileNode)) :=
  match system.locate path with
  | .error fault => .error fault
  | .ok location =>
      match system.top.node? location with
      | none => .error .notFound
      | some (.file _ _) => .error .notDirectory
      | some (.directory entries rights) =>
          if rights.toRead then .ok entries else .error .denied

/-- The text of the file that a path leads to. -/
def readText (system : FileSystem) (path : RawText) :
    Except IoFault String :=
  match system.locate path with
  | .error fault => .error fault
  | .ok location =>
      match system.top.node? location with
      | none => .error .notFound
      | some (.directory _ rights) =>
          if rights.toRead then .error .isDirectory else .error .denied
      | some (.file content rights) =>
          if rights.toRead then
            match String.fromUTF8? content with
            | some text => .ok text
            | none => .error .notText
          else
            .error .denied

/-! ## Writing -/

/-- The segments of a path without the empty ones at its end. -/
def namedSegments (segments : List RawText) : List RawText :=
  (segments.reverse.dropWhile (· == ("" : RawText))).reverse

/-- The name that a path gives to a file, if its last segment can be the name
of one. -/
def fileName? (segments : List RawText) : Option RawText :=
  match segments.getLast? with
  | some name =>
      if staysThere name || name == ".." then none else some name
  | none => none

/-- The location of the directory that the file of a path lies in. -/
def parentLocation (system : FileSystem) (path : RawText) :
    Except IoFault Location :=
  match pathFault? path with
  | some fault => .error fault
  | none =>
      followAll system.top (system.start path)
        ((namedSegments (pathSegments path)).dropLast ++ [("." : RawText)])

/-- The rights at a location; where nothing is, a new file is made with all
of them. -/
def rightsAt (top : FileNode) (location : Location) : Rights :=
  match top.node? location with
  | some node => node.rights
  | none => {}

/-- The fault of writing a file of this name in a directory.  A new file
changes the entries of the directory. -/
def writeFault? (top : FileNode) (parent : Location) (name : RawText) :
    Option IoFault :=
  if longestName < name.bytes.length then some .nameTooLong
  else
    match top.node? (parent ++ [name]) with
    | some (.directory _ _) => some .isDirectory
    | some (.file _ rights) => if rights.toWrite then none else some .denied
    | none =>
        if (rightsAt top parent).toWrite then none else some .denied

def writeLocation (system : FileSystem) (path : RawText) :
    Except IoFault Location :=
  match system.parentLocation path with
  | .error fault => .error fault
  | .ok parent =>
      match fileName? (pathSegments path) with
      | none => .error .isDirectory
      | some name =>
          match writeFault? system.top parent name with
          | some fault => .error fault
          | none => .ok (parent ++ [name])

/-- Write a text to the file of a path, which is made if it is missing. -/
def writeText (system : FileSystem) (path : RawText) (text : String) :
    Except IoFault FileSystem :=
  (system.writeLocation path).map fun location =>
    let written := .file text.toUTF8 (rightsAt system.top location)
    { system with top := system.top.place location written }

end FileSystem

end ClassDiagram
