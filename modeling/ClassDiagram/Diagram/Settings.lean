import ClassDiagram.Diagram.ModuleName

/-!
# Settings

What a diagram looks like apart from the declarations it shows: the root
namespace, the header and the moment a styled header is dated with.  The years of such a
moment have four digits at least; a year behind 9999 has a plus sign and a
year before 0 a minus sign.
-/

namespace ClassDiagram

/-! ## Timestamps -/

/-- A date and a time of day. -/
structure Timestamp where
  year : Int := 2000
  month : Nat := 1
  day : Nat := 1
  hour : Nat := 0
  minute : Nat := 0
  second : Nat := 0
  deriving DecidableEq, Repr

/-- A number with zeros in front up to this many digits. -/
def paddedNumber (width value : Nat) : String :=
  let digits := Nat.toDigits 10 value
  String.ofList (List.replicate (width - digits.length) '0' ++ digits)

namespace Timestamp

def yearSign (year : Int) : String :=
  if year < 0 then "-" else if year > 9999 then "+" else ""

def dateText (moment : Timestamp) : String :=
  yearSign moment.year ++ paddedNumber 4 moment.year.natAbs ++ "-" ++
    paddedNumber 2 moment.month ++ "-" ++ paddedNumber 2 moment.day

def timeText (moment : Timestamp) : String :=
  paddedNumber 2 moment.hour ++ ":" ++ paddedNumber 2 moment.minute ++ ":" ++
    paddedNumber 2 moment.second

/-- The date and the time of day with a blank between them. -/
def text (moment : Timestamp) : String :=
  moment.dateText ++ " " ++ moment.timeText

/-- The date and the time of day with a `T` between them. -/
def isoText (moment : Timestamp) : String :=
  moment.dateText ++ "T" ++ moment.timeText

end Timestamp

/-! ## Settings of a diagram -/

/-- How the head of a document and the packages in it are decorated. -/
inductive Header where
  /-- The segments of the root as artifacts, with an arrow from the last one
  to every package. -/
  | breadcrumb
  /-- A stylesheet as it is, a date, and a dated caption before every
  package. -/
  | styled (stylesheet : String)
  deriving DecidableEq, Repr

structure Settings where
  root : String := ""
  header : Header := .breadcrumb
  timestamp : Timestamp := {}
  deriving DecidableEq, Repr

namespace Settings

def withStylesheet (settings : Settings) (stylesheet : String) : Settings :=
  { settings with header := .styled stylesheet }

def segments (settings : Settings) : List String :=
  rootSegments settings.root

def validate (settings : Settings) : Except DiagramError Unit :=
  validateRoot settings.root

end Settings

end ClassDiagram
