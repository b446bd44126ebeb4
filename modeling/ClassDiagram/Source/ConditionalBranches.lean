import ClassDiagram.Text.CharacterClass
import ClassDiagram.Text.Position

/-!
# Conditional branches

Of every conditional group only the first branch is read.  The lines of the
other branches are blanked before tokens are read: every character but a
line ending becomes a space, and further spaces behind the line keep its
size in bytes.  Directive lines stay as they are, since the tokenizer drops
them as trivia.

Groups need not be balanced.  A switch or an end outside any group changes
nothing, and a group that is never closed lasts to the end of the text.
-/

namespace ClassDiagram.Source

/-- A line that opens, switches or closes a conditional group. -/
inductive Directive where
  | opens
  | switches
  | closes
  deriving DecidableEq, Repr

/-- The directive that a word after the number sign stands for. -/
def Directive.ofName? : List Char → Option Directive
  | ['i', 'f'] => some .opens
  | ['e', 'l', 'i', 'f'] => some .switches
  | ['e', 'l', 's', 'e'] => some .switches
  | ['e', 'n', 'd', 'i', 'f'] => some .closes
  | _ => none

/-- The word after the number sign that a line begins with. -/
def directiveName? (line : List Char) : Option (List Char) :=
  match Text.dropBlank line with
  | '#' :: rest => some ((Text.dropBlank rest).takeWhile Char.isAlpha)
  | _ => none

def Directive.ofLine? (line : List Char) : Option Directive :=
  (directiveName? line).bind Directive.ofName?

/-- The open groups, innermost first: is the group in its first branch? -/
abbrev OpenGroups := List Bool

def Directive.apply : Directive → OpenGroups → OpenGroups
  | .opens, groups => true :: groups
  | .switches, [] => []
  | .switches, _ :: outer => false :: outer
  | .closes, groups => groups.tail

/-- A plain line is read if every open group is in its first branch. -/
def isRead (groups : OpenGroups) : Bool :=
  groups.all id

/-- A character that ends a line, alone or as part of a pair. -/
def isLineEnding (c : Char) : Bool :=
  c == '\n' || c == '\r'

/-- A blanked line: spaces, and the line endings where they were. -/
def blankedLine (line : List Char) : List Char :=
  line.map (fun c => if isLineEnding c then c else ' ') ++
    List.replicate (Text.byteSize line - line.length) ' '

/-- Blank the plain lines that are not read. -/
def blankInactive : OpenGroups → List (List Char) → List (List Char)
  | _, [] => []
  | groups, line :: others =>
      match Directive.ofLine? line with
      | some directive =>
          line :: blankInactive (directive.apply groups) others
      | none =>
          (if isRead groups then line else blankedLine line) ::
            blankInactive groups others

def splitLines : List Char → List (List Char)
  | [] => []
  | '\n' :: rest => ['\n'] :: splitLines rest
  | c :: rest =>
      match splitLines rest with
      | [] => [[c]]
      | line :: others => (c :: line) :: others

def hasNumberSign (source : String) : Bool :=
  source.toList.contains '#'

/-- The text with every branch but the first of each group blanked. -/
def firstBranches (source : String) : String :=
  if hasNumberSign source then
    String.ofList (blankInactive [] (splitLines source.toList)).flatten
  else
    source

/-- Cutting into lines loses nothing. -/
@[simp]
theorem flatten_splitLines (text : List Char) :
    (splitLines text).flatten = text := by
  induction text with
  | nil =>
      rfl
  | cons c rest inductionHypothesis =>
      by_cases newline : c = '\n'
      · subst newline
        simp [splitLines, inductionHypothesis]
      · rw [splitLines]
        · split
          · rename_i noLines
            simp [noLines] at inductionHypothesis
            simp [← inductionHypothesis]
          · rename_i line others lines
            simp [lines] at inductionHypothesis
            simp [← inductionHypothesis]
        · simpa using newline

end ClassDiagram.Source
