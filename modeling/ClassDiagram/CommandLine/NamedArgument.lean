import ClassDiagram.Logging

/-!
# Named arguments

The arguments that are given by name, with a long name behind two dashes and
some with a letter behind one dash.  A switch is given or not; any other
named argument has a value, and a rule says which values it can have.
-/

namespace ClassDiagram.CommandLine

/-- An argument that is given by name. -/
inductive NamedArgument where
  | verbose
  | logLevel
  | logFormat
  | output
  | rootNamespace
  | style
  | extension
  | input
  | compact
  | help
  | version
  deriving DecidableEq, Repr

/-- Which values an argument can have. -/
inductive ValueRule where
  /-- Any text but the empty one. -/
  | path
  | anyText
  /-- One of some words, letter by letter. -/
  | oneOf (words : List String)
  deriving DecidableEq, Repr

def ValueRule.allows : ValueRule → String → Bool
  | .path, text => !text.isEmpty
  | .anyText, _ => true
  | .oneOf words, text => words.contains text

namespace NamedArgument

def longName : NamedArgument → String
  | .verbose => "verbose"
  | .logLevel => "log-level"
  | .logFormat => "log-format"
  | .output => "output"
  | .rootNamespace => "root-namespace"
  | .style => "style"
  | .extension => "extension"
  | .input => "input"
  | .compact => "compact"
  | .help => "help"
  | .version => "version"

/-- The letter behind one dash, for those that have one. -/
def letter? : NamedArgument → Option Char
  | .verbose => some 'v'
  | .output => some 'o'
  | .rootNamespace => some 'r'
  | .style => some 's'
  | .input => some 'i'
  | .help => some 'h'
  | .version => some 'V'
  | .logLevel | .logFormat | .extension | .compact => none

def valueRule? : NamedArgument → Option ValueRule
  | .logLevel => some (.oneOf (LogLevel.all.map LogLevel.keyword))
  | .logFormat => some (.oneOf LogFormat.keywords)
  | .output | .style | .input => some .path
  | .rootNamespace | .extension => some .anyText
  | .verbose | .compact | .help | .version => none

def allows (argument : NamedArgument) (text : String) : Bool :=
  match argument.valueRule? with
  | some rule => rule.allows text
  | none => false

end NamedArgument

end ClassDiagram.CommandLine
