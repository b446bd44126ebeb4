import ClassDiagram.Modifier
import ClassDiagram.TypeKind

/-!
# Flags

How the modifiers of a declaration are shown.  A type shows whether it is
abstract in its keyword and every other modifier but visibility as a
stereotype.  A member shows every modifier, in order.
-/

namespace ClassDiagram

def stereotype (modifier : Modifier) : String :=
  "<<" ++ modifier.keyword ++ ">>"

def typeKeyword (kind : TypeKind) (modifiers : List Modifier) : String :=
  if modifiers.contains .abstractWord then
    "abstract " ++ kind.keyword
  else
    kind.keyword

/-- A modifier that is a stereotype of a type. -/
def showsOnType (modifier : Modifier) : Bool :=
  !modifier.isVisibility && modifier != .abstractWord

def typeFlags (modifiers : List Modifier) : String :=
  String.join
    ((modifiers.filter showsOnType).map fun modifier =>
      stereotype modifier ++ " ")

def memberFlag : Modifier → String
  | .publicWord => "+"
  | .privateWord => "-"
  | .protectedWord => "#"
  | .abstractWord => "\x7babstract\x7d"
  | .staticWord => "\x7bstatic\x7d"
  | other => stereotype other

/-- The signs of all modifiers of a member, with blanks between them. -/
def memberFlags (modifiers : List Modifier) : String :=
  String.intercalate " " (modifiers.map memberFlag)

end ClassDiagram
