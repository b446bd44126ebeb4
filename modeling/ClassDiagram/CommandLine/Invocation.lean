import ClassDiagram.CommandLine.Matches

/-!
# Invocations

A command line asks for one of three things: to draw a diagram, to check
sources, or to show the outline of a source.  Arguments before the name of
the command concern the whole program.
-/

namespace ClassDiagram.CommandLine

/-- What to draw and where to put it. -/
structure GenerateOptions where
  /-- The sources; standard input if there are none. -/
  inputs : List String := []
  output : Option String := none
  rootNamespace : String := ""
  style : Option String := none
  extension : String := "cs"
  deriving DecidableEq, Repr

structure ValidateOptions where
  /-- The sources; standard input if there are none. -/
  inputs : List String := []
  extension : String := "cs"
  deriving DecidableEq, Repr

/-- What to show the outline of. -/
structure TreeOptions where
  input : Option String := none
  /-- Show the outline on one line. -/
  compact : Bool := false
  deriving DecidableEq, Repr

/-- What the program is asked for. -/
inductive Command where
  | generate (options : GenerateOptions)
  | validate (options : ValidateOptions)
  | tree (options : TreeOptions)
  deriving DecidableEq, Repr

def standardPath : String :=
  "-"

namespace Command

/-- The paths of the files and directories that a command may touch. -/
def paths : Command → List String
  | .generate options =>
      options.inputs ++ options.output.toList ++ options.style.toList
  | .validate options => options.inputs
  | .tree options => options.input.toList

/-- The extension of the files that a command looks for in directories. -/
def searchedExtension : Command → String
  | .generate options => options.extension
  | .validate options => options.extension
  | .tree _ => ""

def readsStandardInput : Command → Bool
  | .generate options => options.inputs.isEmpty
  | .validate options => options.inputs.isEmpty
  | .tree options => options.input.all (· == standardPath)

end Command

/-- A command and what concerns the whole program. -/
structure Invocation where
  command : Command
  verbose : Bool := false
  logLevel : LogLevel := .warn
  logFormat : LogFormat := .compact
  deriving DecidableEq, Repr

/-- The names that begin a command. -/
inductive CommandName where
  | generate
  | validate
  | tree
  | help
  deriving DecidableEq, Repr

def CommandName.ofText? : String → Option CommandName
  | "generate" => some .generate
  | "validate" => some .validate
  | "tree" => some .tree
  | "help" => some .help
  | _ => none

def isCommandName (text : String) : Bool :=
  (CommandName.ofText? text).isSome

/-! ## Grammars -/

/-- The arguments before the name of the command.  The name of a command
behind two dashes is taken for a stray argument. -/
def programGrammar : Grammar :=
  ⟨[.verbose, .logLevel, .logFormat, .help, .version], false,
    fun escaped text =>
      if escaped && isCommandName text then
        .unknownArgument
      else
        .unknownCommand⟩

def generateGrammar : Grammar :=
  ⟨[.output, .rootNamespace, .style, .extension, .help], true,
    fun _ _ => .unknownArgument⟩

def validateGrammar : Grammar :=
  ⟨[.extension, .help], true, fun _ _ => .unknownArgument⟩

def treeGrammar : Grammar :=
  ⟨[.input, .compact, .help], false, fun _ _ => .unknownArgument⟩

/-! ## Commands -/

def generateOptions (found : Matches) : GenerateOptions where
  inputs := found.paths
  output := found.value? .output
  rootNamespace := (found.value? .rootNamespace).getD ""
  style := found.value? .style
  extension := (found.value? .extension).getD "cs"

def validateOptions (found : Matches) : ValidateOptions where
  inputs := found.paths
  extension := (found.value? .extension).getD "cs"

def treeOptions (found : Matches) : TreeOptions where
  input := found.value? .input
  compact := found.has .compact

/-- The answer to a question for help: only a command has help of its own. -/
def helpAnswer : List String → UsageError
  | [] => .help
  | [text] => if isCommandName text then .help else .unknownCommand
  | _ :: _ :: _ => .unknownCommand

/-- The command that a name and the words behind it ask for. -/
def readCommand (name : CommandName) (words : List String) :
    Except UsageError Command :=
  match name with
  | .generate =>
      (generateGrammar.takeAll {} words).map fun found =>
        .generate (generateOptions found)
  | .validate =>
      (validateGrammar.takeAll {} words).map fun found =>
        .validate (validateOptions found)
  | .tree =>
      (treeGrammar.takeAll {} words).map fun found =>
        .tree (treeOptions found)
  | .help => .error (helpAnswer words)

/-- The invocation that a command and the arguments before it make. -/
def invocation (command : Command) (found : Matches) : Invocation where
  command := command
  verbose := found.has .verbose
  logLevel := ((found.value? .logLevel).bind LogLevel.ofKeyword?).getD .warn
  logFormat :=
    ((found.value? .logFormat).bind LogFormat.ofKeyword?).getD .compact

/-- The command that a word names, unless it is a value or stands behind two
dashes. -/
def commandHere? (found : Matches) (text : String) : Option CommandName :=
  if found.escaped || found.isAwaiting then none
  else CommandName.ofText? text

/-- Read the words from the place where this much is matched.  Faults of the
command come before a fault of the last value in front of it. -/
def readFrom : Matches → List String → Except UsageError Invocation
  | found, [] =>
      match found.settle with
      | .error error => .error error
      | .ok settled =>
          .error (if settled.isEmpty then .nothingGiven else .missingCommand)
  | found, text :: others =>
      match commandHere? found text with
      | some name =>
          match readCommand name others with
          | .error error => .error error
          | .ok command => found.settle.map (invocation command)
      | none =>
          match programGrammar.take found text with
          | .error error => .error error
          | .ok next => readFrom next others

/-- The invocation that the words of a command line ask for. -/
def readInvocation (words : List String) : Except UsageError Invocation :=
  readFrom {} words

end ClassDiagram.CommandLine
