import ClassDiagram.DiagramError
import ClassDiagram.Reading.Outline

/-!
# Reading a source

From the text of a source to its outline: branches that are not read are
blanked, the rest is cut into tokens, and the tokens form the outline.
Places in errors refer to the blanked text, which has its lines and bytes
where the source has them.
-/

namespace ClassDiagram

open Source (Token Lexeme Tokenized)

/-- The name and the version of the language reader. -/
structure ReaderInfo where
  name : String
  version : String
  deriving DecidableEq, Repr

def readerInfo : ReaderInfo :=
  ⟨"csharp", "0.1.0"⟩

namespace Source

/-- Cut a text into tokens.  A text that cannot be read is reported at the
furthest place that any form of token got to. -/
def tokenize (text : String) : Except DiagramError Tokenized :=
  match tokenizeFrom text.toList with
  | .ok source => .ok source
  | .error furthest =>
      .error (.source (.unreadable text.toList[furthest]?)
        (Text.endPosition (text.toList.take furthest)))

/-- The place of the token from which so many are left; the end of the text
if none are. -/
def placeOf (source : Tokenized) (left : Nat) : Text.Position :=
  let before := source.tokens.length - left
  match source.tokens[before]? with
  | some token =>
      Text.endPosition
        (Token.writtenAll (source.tokens.take before) ++
          token.leading.toList)
  | none => Text.endPosition source.written

def errorOf (source : Tokenized) (refusal : Reading.Refusal) :
    DiagramError :=
  let found := source.tokens[source.tokens.length - refusal.left]?
  .source (.unexpected refusal.fault (found.map Token.lexeme))
    (placeOf source refusal.left)

end Source

def readSource (text : String) : Except DiagramError Outline :=
  match Source.tokenize (Source.firstBranches text) with
  | .error error => .error error
  | .ok source =>
      (Reading.readOutline source.tokens).mapError (Source.errorOf source)

/-- Words that begin a declaration with an entry in the outline. -/
def declarationWords : List String :=
  ["namespace", "class", "interface", "struct", "record", "enum"]

/-- A quick look: can the text be cut into tokens, and does one of them begin
a declaration? -/
def mayHaveDeclarations (text : String) : Bool :=
  match Source.tokenize (Source.firstBranches text) with
  | .error _ => false
  | .ok source =>
      source.tokens.any fun token => declarationWords.any token.isWord

end ClassDiagram
