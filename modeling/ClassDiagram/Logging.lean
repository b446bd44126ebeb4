import ClassDiagram.Text.CharacterClass

/-!
# Logging

How much is logged and in which format, and why logging cannot be set up.
What is logged is no part of a diagram.
-/

namespace ClassDiagram

/-- The least weight of what is logged. -/
inductive LogLevel where
  | trace
  | debug
  | info
  | warn
  | error
  deriving DecidableEq, Repr

namespace LogLevel

def all : List LogLevel :=
  [.trace, .debug, .info, .warn, .error]

def keyword : LogLevel → String
  | .trace => "trace"
  | .debug => "debug"
  | .info => "info"
  | .warn => "warn"
  | .error => "error"

def ofKeyword? (word : String) : Option LogLevel :=
  all.find? fun level => level.keyword == word

@[simp]
theorem ofKeyword?_keyword (level : LogLevel) :
    ofKeyword? level.keyword = some level := by
  cases level <;> decide

end LogLevel

/-- The form in which an event is logged. -/
inductive LogFormat where
  | compact
  | pretty
  | json
  deriving DecidableEq, Repr

namespace LogFormat

def all : List LogFormat :=
  [.compact, .pretty, .json]

def keyword : LogFormat → String
  | .compact => "compact"
  | .pretty => "pretty"
  | .json => "json"

def keywords : List String :=
  all.map keyword

def ofKeyword? (word : String) : Option LogFormat :=
  all.find? fun format => format.keyword == word

/-- The format that a text asks for in letters of any case.  No character
beyond the letters from `A` to `Z` has a letter of a format as its small
form. -/
def ofText? (text : String) : Option LogFormat :=
  all.find? fun format => Text.sameButForCase format.keyword text

@[simp]
theorem ofKeyword?_keyword (format : LogFormat) :
    ofKeyword? format.keyword = some format := by
  cases format <;> decide

@[simp]
theorem ofText?_keyword (format : LogFormat) :
    ofText? format.keyword = some format := by
  cases format <;> decide

end LogFormat

/-- A cause for which logging is not set up. -/
inductive LoggingFault where
  | unknownFormat (text : String)
  /-- There is one log for a whole process, and it is there already. -/
  | alreadyInstalled
  deriving DecidableEq, Repr

def unknownFormatWording (text : String) : String :=
  "Unknown log format: " ++ text

def LoggingFault.wording : LoggingFault → String
  | .unknownFormat text =>
      "Invalid log format: " ++ unknownFormatWording text
  | .alreadyInstalled =>
      "a global default trace dispatcher has already been set"

def logLevelVariable : String :=
  "PLANTSHARP_LOG_LEVEL"

def logFormatVariable : String :=
  "PLANTSHARP_LOG_FORMAT"

/-- The format in which a process logs from now on, given whether it has a
log already.  Without a request events are logged in the compact format. -/
def installLog (installed : Bool) (request : Option String) :
    Except LoggingFault LogFormat :=
  let text := request.getD LogFormat.compact.keyword
  match LogFormat.ofText? text with
  | none => .error (.unknownFormat text)
  | some found => if installed then .error .alreadyInstalled else .ok found

end ClassDiagram
