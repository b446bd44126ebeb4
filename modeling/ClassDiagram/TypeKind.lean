/-!
# Kinds of types

The declarations that have members of their own, apart from namespaces.
-/

namespace ClassDiagram

/-- The kind of a type, named by the word that declares it. -/
inductive TypeKind where
  | classWord
  | interfaceWord
  | structWord
  | recordWord
  deriving DecidableEq, Repr

namespace TypeKind

/-- The word that declares a type of this kind. -/
def keyword : TypeKind → String
  | .classWord => "class"
  | .interfaceWord => "interface"
  | .structWord => "struct"
  | .recordWord => "record"

def all : List TypeKind :=
  [.classWord, .interfaceWord, .structWord, .recordWord]

def ofKeyword? (word : String) : Option TypeKind :=
  all.find? fun kind => kind.keyword == word

@[simp]
theorem ofKeyword?_keyword (kind : TypeKind) :
    ofKeyword? kind.keyword = some kind := by
  cases kind <;> decide

/-- Only its own word declares a kind. -/
theorem keyword_of_ofKeyword? {word : String} {kind : TypeKind}
    (found : ofKeyword? word = some kind) :
    kind.keyword = word := by
  have matched := List.find?_some found
  simpa using matched

end TypeKind

end ClassDiagram
