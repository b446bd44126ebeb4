/-!
# JSON texts

The part of JSON that outlines are written in: null, strings, arrays and
objects whose fields keep their order.  A value has two texts, one on a
single line and one with an item to a line.
-/

namespace ClassDiagram

/-- A JSON value without numbers and truth values. -/
inductive Json where
  | null
  | text (content : String)
  | array (items : List Json)
  | object (fields : List (String × Json))
  deriving Repr

namespace Json

def hexDigit (value : Nat) : Char :=
  Nat.digitChar (value % 16)

/-- The form of a character inside quotes: quotes, backslashes and control
characters are escaped, with a short form where there is one. -/
def escapeChar (c : Char) : List Char :=
  if c = '"' then ['\\', '"']
  else if c = '\\' then ['\\', '\\']
  else if c = '\n' then ['\\', 'n']
  else if c = '\r' then ['\\', 'r']
  else if c = '\t' then ['\\', 't']
  else if c = '\x08' then ['\\', 'b']
  else if c = '\x0c' then ['\\', 'f']
  else if c.toNat < 32 then
    ['\\', 'u', '0', '0', hexDigit (c.toNat / 16), hexDigit c.toNat]
  else [c]

def quoted (content : String) : String :=
  "\"" ++ String.ofList (content.toList.flatMap escapeChar) ++ "\""

mutual

def compact : Json → String
  | .null => "null"
  | .text content => quoted content
  | .array items => "[" ++ String.intercalate "," (compactItems items) ++ "]"
  | .object fields =>
      "\x7b" ++ String.intercalate "," (compactFields fields) ++ "\x7d"

def compactItems : List Json → List String
  | [] => []
  | item :: others => compact item :: compactItems others

def compactFields : List (String × Json) → List String
  | [] => []
  | (name, value) :: others =>
      (quoted name ++ ":" ++ compact value) :: compactFields others

end

/-- The blanks in front of a line that is nested this deep. -/
def indentation (depth : Nat) : String :=
  String.ofList (List.replicate (2 * depth) ' ')

/-- Items between brackets, an item to a line; none leave the brackets
empty. -/
def bracketed (opening closing : String) (depth : Nat)
    (items : List String) : String :=
  if items.isEmpty then
    opening ++ closing
  else
    opening ++ "\n" ++
      String.intercalate ",\n"
        (items.map fun item => indentation (depth + 1) ++ item) ++
      "\n" ++ indentation depth ++ closing

mutual

/-- The text of a value that begins on a line nested this deep, with an item
to a line. -/
def prettyAt (depth : Nat) : Json → String
  | .null => "null"
  | .text content => quoted content
  | .array items => bracketed "[" "]" depth (prettyItems (depth + 1) items)
  | .object fields =>
      bracketed "\x7b" "\x7d" depth (prettyFields (depth + 1) fields)

def prettyItems (depth : Nat) : List Json → List String
  | [] => []
  | item :: others => prettyAt depth item :: prettyItems depth others

def prettyFields (depth : Nat) : List (String × Json) → List String
  | [] => []
  | (name, value) :: others =>
      (quoted name ++ ": " ++ prettyAt depth value) ::
        prettyFields depth others

end

/-- The text of a value with an item to a line. -/
def pretty (value : Json) : String :=
  prettyAt 0 value

end Json

end ClassDiagram
