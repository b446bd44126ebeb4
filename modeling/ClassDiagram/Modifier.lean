/-!
# Modifiers

The words that may stand before a declaration.  They are kept in the order
in which they are written, and each has its own decoration in the diagram.
-/

namespace ClassDiagram

/-- A modifier of a declaration, named by the word it is written with. -/
inductive Modifier where
  | publicWord
  | privateWord
  | protectedWord
  | internalWord
  | abstractWord
  | staticWord
  | sealedWord
  | partialWord
  | virtualWord
  | overrideWord
  | readonlyWord
  | constWord
  | externWord
  | unsafeWord
  | newWord
  | asyncWord
  | volatileWord
  | requiredWord
  | fileWord
  | refWord
  deriving DecidableEq, Repr

namespace Modifier

def all : List Modifier :=
  [.publicWord, .privateWord, .protectedWord, .internalWord, .abstractWord,
    .staticWord, .sealedWord, .partialWord, .virtualWord, .overrideWord,
    .readonlyWord, .constWord, .externWord, .unsafeWord, .newWord,
    .asyncWord, .volatileWord, .requiredWord, .fileWord, .refWord]

def keyword : Modifier → String
  | .publicWord => "public"
  | .privateWord => "private"
  | .protectedWord => "protected"
  | .internalWord => "internal"
  | .abstractWord => "abstract"
  | .staticWord => "static"
  | .sealedWord => "sealed"
  | .partialWord => "partial"
  | .virtualWord => "virtual"
  | .overrideWord => "override"
  | .readonlyWord => "readonly"
  | .constWord => "const"
  | .externWord => "extern"
  | .unsafeWord => "unsafe"
  | .newWord => "new"
  | .asyncWord => "async"
  | .volatileWord => "volatile"
  | .requiredWord => "required"
  | .fileWord => "file"
  | .refWord => "ref"

def ofKeyword? (word : String) : Option Modifier :=
  all.find? fun modifier => modifier.keyword == word

/-- The modifiers that say who may use a declaration. -/
def isVisibility : Modifier → Bool
  | .publicWord | .privateWord | .protectedWord | .internalWord => true
  | _ => false

/-- The words that are modifiers only in front of another word. -/
def isContextual : Modifier → Bool
  | .partialWord | .asyncWord | .requiredWord | .fileWord | .refWord => true
  | _ => false

theorem mem_all (modifier : Modifier) : modifier ∈ all := by
  cases modifier <;> decide

@[simp]
theorem ofKeyword?_keyword (modifier : Modifier) :
    ofKeyword? modifier.keyword = some modifier := by
  cases modifier <;> decide

/-- Only its own word writes a modifier. -/
theorem keyword_of_ofKeyword? {word : String} {modifier : Modifier}
    (found : ofKeyword? word = some modifier) :
    modifier.keyword = word := by
  have matched := List.find?_some found
  simpa using matched

end Modifier

end ClassDiagram
