import ClassDiagram.Reading.Refusal
import ClassDiagram.Text.Position

/-!
# Errors

Every way in which making a diagram can fail.  An error is a cause; its
wording is given by one function per type.
-/

namespace ClassDiagram

/-- A cause for which text cannot be read or written. -/
inductive IoFault where
  | notFound
  | notDirectory
  | isDirectory
  | nameTooLong
  | denied
  /-- A file name holds a null character. -/
  | nullInName
  /-- The bytes are not the UTF-8 form of a text. -/
  | notText
  /-- A sink takes no more bytes. -/
  | full
  /-- A sink cannot pass on what it took. -/
  | flushRefused
  /-- A cause that is known by its wording only. -/
  | described (text : String)
  deriving DecidableEq, Repr

def IoFault.wording : IoFault → String
  | .notFound => "No such file or directory (os error 2)"
  | .notDirectory => "Not a directory (os error 20)"
  | .isDirectory => "Is a directory (os error 21)"
  | .nameTooLong => "File name too long (os error 36)"
  | .denied => "Permission denied (os error 13)"
  | .nullInName => "file name contained an unexpected NUL byte"
  | .notText => "stream did not contain valid UTF-8"
  | .full => "sink full"
  | .flushRefused => "flush refused"
  | .described text => text

/-- A cause for which a source cannot be read. -/
inductive SourceFault where
  /-- No token can be read.  What stopped the alternative that got furthest
  is a character or the end of the text. -/
  | unreadable (found : Option Char)
  /-- The tokens form no outline; the token found is none at the end. -/
  | unexpected (fault : SyntaxFault) (found : Option Source.Lexeme)
  /-- A cause that is known by its wording only. -/
  | described (text : String)
  deriving DecidableEq, Repr

def SourceFault.wording : SourceFault → String
  | .unreadable none => "found end of input"
  | .unreadable (some c) => "found '" ++ String.singleton c ++ "'"
  | .unexpected fault none => fault.wording ++ ", found end of input"
  | .unexpected fault (some lexeme) =>
      fault.wording ++ ", found " ++ lexeme.shown
  | .described text => text

/-- A cause for which a configuration is refused. -/
inductive ConfigurationFault where
  | emptySegment (root : String)
  | invalidSegment (root segment : String)
  /-- A cause that is known by its wording only. -/
  | described (text : String)
  deriving DecidableEq, Repr

def ConfigurationFault.wording : ConfigurationFault → String
  | .emptySegment root =>
      "Root namespace '" ++ root ++ "' contains an empty segment"
  | .invalidSegment root segment =>
      "Root namespace '" ++ root ++ "' has invalid segment '" ++ segment ++
        "'"
  | .described text => text

/-- A cause for which an outline cannot be drawn. -/
inductive TreeFault where
  | scopeInsideType (name : String)
  | methodOutsideType (name : String)
  /-- A cause that is known by its wording only. -/
  | described (text : String)
  deriving DecidableEq, Repr

def TreeFault.wording : TreeFault → String
  | .scopeInsideType name =>
      "namespace '" ++ name ++ "' declared inside a type"
  | .methodOutsideType name =>
      "method '" ++ name ++ "' declared outside of a type"
  | .described text => text

/-- A way in which making a diagram fails. -/
inductive DiagramError where
  /-- A source cannot be read. -/
  | source (fault : SourceFault) (place : Text.Position)
  /-- The root namespace is not a dotted name. -/
  | configuration (fault : ConfigurationFault)
  /-- A namespace does not contain the root namespace. -/
  | outsideRoot (name root : String)
  /-- A namespace ends with the root namespace, so no module name is left. -/
  | rootItself (name : String)
  /-- A stylesheet cannot be read. -/
  | style (path : String) (fault : IoFault)
  /-- An outline has a declaration where it cannot be drawn. -/
  | tree (fault : TreeFault)
  /-- A document cannot be delivered. -/
  | output (fault : IoFault)
  deriving DecidableEq, Repr

namespace DiagramError

def wording : DiagramError → String
  | .source fault place =>
      "Parse error: " ++ fault.wording ++ " at line " ++
        toString place.line ++ ", column " ++ toString place.column
  | .configuration fault => "Configuration error: " ++ fault.wording
  | .outsideRoot name root =>
      "Namespace '" ++ name ++ "' is not inside root namespace '" ++ root ++
        "'"
  | .rootItself name =>
      "Namespace '" ++ name ++
        "' is the root namespace and has no module name"
  | .style path fault =>
      "Style error: cannot read '" ++ path ++ "': " ++ fault.wording
  | .tree fault => "Syntax tree error: " ++ fault.wording
  | .output fault => "IO error: " ++ fault.wording

def isSourceError : DiagramError → Bool
  | .source .. => true
  | _ => false

def isConfigurationError : DiagramError → Bool
  | .configuration _ | .outsideRoot .. | .rootItself _ | .style .. => true
  | _ => false

end DiagramError

end ClassDiagram
