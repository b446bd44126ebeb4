import ClassDiagram.CommandLine.NamedArgument

/-!
# Matching the words of a command line

Words are taken from left to right.  A value, or a run of paths, is settled
only when the next named argument begins or the words end, so a fault of a
value shows after a fault of any switch or name that stands before that
moment.  Two dashes alone make paths of all words behind them.
-/

namespace ClassDiagram.CommandLine

/-! ## Usage errors -/

/-- A reason not to carry out a command line.  Asking for help or for the
version counts as such a reason, but is no failure. -/
inductive UsageError where
  /-- Help was asked for. -/
  | help
  /-- The version was asked for. -/
  | version
  /-- There is no command and nothing else either. -/
  | nothingGiven
  /-- There is no command. -/
  | missingCommand
  /-- A word stands where only a command can stand. -/
  | unknownCommand
  /-- The command takes no such argument. -/
  | unknownArgument
  /-- A value is missing, or it is none that its argument can have. -/
  | badValue
  /-- An argument that is given once is given again. -/
  | repeated
  /-- A switch has a value. -/
  | unexpectedValue
  deriving DecidableEq, Repr

namespace UsageError

def exitCode : UsageError → Nat
  | .help | .version => 0
  | _ => 2

def wording : UsageError → String
  | .help => "Usage: plantsharp [-v] [--log-level LEVEL] " ++
      "[--log-format FORMAT] generate|validate|tree [ARGUMENTS]"
  | .version => "plantsharp 0.1.0"
  | .nothingGiven | .missingCommand => "a command is required"
  | .unknownCommand => "unknown command"
  | .unknownArgument => "unexpected argument"
  | .badValue => "missing or invalid value"
  | .repeated => "an argument cannot be used multiple times"
  | .unexpectedValue => "a switch takes no value"

end UsageError

/-! ## Words taken one by one -/

/-- What is read but not settled yet. -/
inductive Pending where
  | nothing
  /-- A named argument whose value is to come. -/
  | awaiting (argument : NamedArgument)
  | value (argument : NamedArgument) (text : String)
  | paths (texts : List String)
  deriving DecidableEq, Repr

/-- What has been matched so far. -/
structure Matches where
  switches : List NamedArgument := []
  values : List (NamedArgument × String) := []
  paths : List String := []
  pending : Pending := .nothing
  /-- Two dashes alone have been passed. -/
  escaped : Bool := false
  deriving DecidableEq, Repr

structure Grammar where
  named : List NamedArgument
  takesPaths : Bool
  /-- The error of a word where no path is taken, by whether two dashes have
  been passed. -/
  unexpectedWord : Bool → String → UsageError

namespace Matches

def has (found : Matches) (switch : NamedArgument) : Bool :=
  found.switches.contains switch

/-- The value of an argument, if it is given. -/
def value? (found : Matches) (argument : NamedArgument) : Option String :=
  found.values.lookup argument

def isEmpty (found : Matches) : Bool :=
  found.switches.isEmpty && found.values.isEmpty && found.paths.isEmpty

def isAwaiting (found : Matches) : Bool :=
  match found.pending with
  | .awaiting _ => true
  | _ => false

/-- Settle the value of an argument, which can be given only once. -/
def settleValue (found : Matches) (argument : NamedArgument)
    (text : String) : Except UsageError Matches :=
  if (found.value? argument).isSome then .error .repeated
  else if argument.allows text then
    .ok { found with values := found.values ++ [(argument, text)] }
  else .error .badValue

def settlePaths (found : Matches) (texts : List String) :
    Except UsageError Matches :=
  if texts.all ValueRule.path.allows then
    .ok { found with paths := found.paths ++ texts }
  else
    .error .badValue

def settle (found : Matches) : Except UsageError Matches :=
  let cleared := { found with pending := .nothing }
  match found.pending with
  | .nothing => .ok cleared
  | .awaiting _ => .error .badValue
  | .value argument text => cleared.settleValue argument text
  | .paths texts => cleared.settlePaths texts

def takeSwitch (found : Matches) (switch : NamedArgument) :
    Except UsageError Matches :=
  match found.settle with
  | .error error => .error error
  | .ok settled =>
      match switch with
      | .help => .error .help
      | .version => .error .version
      | switch =>
          if settled.has switch then
            .error .repeated
          else
            .ok { settled with switches := settled.switches ++ [switch] }

def takeName (found : Matches) (argument : NamedArgument) :
    Except UsageError Matches :=
  match found.settle with
  | .error error => .error error
  | .ok settled => .ok { settled with pending := .awaiting argument }

def takeValue (found : Matches) (argument : NamedArgument)
    (text : String) : Except UsageError Matches :=
  match found.settle with
  | .error error => .error error
  | .ok settled => settled.settleValue argument text

def takePath (found : Matches) (text : String) :
    Except UsageError Matches :=
  match found.pending with
  | .paths texts => .ok { found with pending := .paths (texts ++ [text]) }
  | _ =>
      match found.settle with
      | .error error => .error error
      | .ok settled => .ok { settled with pending := .paths [text] }

end Matches

namespace Grammar

def named? (grammar : Grammar) (name : String) : Option NamedArgument :=
  grammar.named.find? fun argument => argument.longName == name

def lettered? (grammar : Grammar) (letter : Char) : Option NamedArgument :=
  grammar.named.find? fun argument => argument.letter? == some letter

/-- Take a long name, perhaps with an equals sign and a value. -/
def takeLong (grammar : Grammar) (found : Matches) (body : List Char) :
    Except UsageError Matches :=
  let name := String.ofList (body.takeWhile (· != '='))
  match grammar.named? name with
  | none => .error .unknownArgument
  | some argument =>
      match argument.valueRule?, body.dropWhile (· != '=') with
      | none, [] => found.takeSwitch argument
      | none, _ :: _ => .error .unexpectedValue
      | some _, [] => found.takeName argument
      | some _, _ :: text => found.takeValue argument (String.ofList text)

/-- A value that is attached to a letter, without one equals sign. -/
def attachedValue : List Char → String
  | '=' :: text => String.ofList text
  | text => String.ofList text

/-- Take letters behind one dash.  The first letter that needs a value has
the others as its value, or the next word if there are no others. -/
def takeLetters (grammar : Grammar) (found : Matches) :
    List Char → Except UsageError Matches
  | [] => .ok found
  | letter :: others =>
      match grammar.lettered? letter with
      | none => .error .unknownArgument
      | some argument =>
          match argument.valueRule?, others with
          | none, others =>
              match found.takeSwitch argument with
              | .error error => .error error
              | .ok next => grammar.takeLetters next others
          | some _, [] => found.takeName argument
          | some _, attached =>
              found.takeValue argument (attachedValue attached)

def takeWord (grammar : Grammar) (found : Matches) (text : String) :
    Except UsageError Matches :=
  if grammar.takesPaths then
    found.takePath text
  else
    .error (grammar.unexpectedWord found.escaped text)

/-- Take a word that is not a name: the value that is awaited, or else a
path. -/
def takeFree (grammar : Grammar) (found : Matches) (text : String) :
    Except UsageError Matches :=
  match found.pending with
  | .awaiting argument =>
      .ok { found with pending := .value argument text }
  | _ => grammar.takeWord found text

def take (grammar : Grammar) (found : Matches) (text : String) :
    Except UsageError Matches :=
  if found.escaped then
    grammar.takeWord found text
  else
    match text.toList with
    | ['-', '-'] => .ok { found with escaped := true }
    | '-' :: '-' :: body => grammar.takeLong found body
    | '-' :: letter :: others =>
        grammar.takeLetters found (letter :: others)
    | _ => grammar.takeFree found text

/-- Take all words and settle what is pending behind the last. -/
def takeAll (grammar : Grammar) :
    Matches → List String → Except UsageError Matches
  | found, [] => found.settle
  | found, text :: others =>
      match grammar.take found text with
      | .error error => .error error
      | .ok next => grammar.takeAll next others

end Grammar

end ClassDiagram.CommandLine
