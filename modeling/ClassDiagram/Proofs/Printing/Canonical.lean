import ClassDiagram.Reading.ParameterList

/-!
# Canonical texts of declarations

Every outline can be written as a source again: bodies in braces, single
spaces, no body where the outline has none.  A declaration has its place in
the printed text, so an outline is printable only if namespaces and methods
lie where a source can have them and if every name is one.
-/

namespace ClassDiagram

/-! ## Names -/

/-- An identifier that uses ASCII letters, digits and underscores only. -/
def isAsciiIdentifier : List Char → Bool
  | [] => false
  | first :: others =>
      (first.isAlpha || first == '_') &&
        others.all fun c => c.isAlphanum || c == '_'

/-- The words that the reader of declarations treats specially. -/
def reservedWords : List String :=
  Modifier.all.map Modifier.keyword ++ TypeKind.all.map TypeKind.keyword ++
    ["enum", "namespace"] ++ Reading.nonTypeWords ++
    Reading.parameterWords ++ [Reading.anyArguments]

/-- An ASCII identifier that is no reserved word. -/
def isPlainName (text : String) : Bool :=
  isAsciiIdentifier text.toList && !reservedWords.contains text

/-! ## Texts with several names -/

def dottedText (names : List String) : String :=
  ".".intercalate names

def commaText (items : List String) : String :=
  ", ".intercalate items

/-- A list in angle brackets; nothing if the list is empty. -/
def angleText (items : List String) : String :=
  if items = [] then "" else "<" ++ commaText items ++ ">"

inductive TypeSuffix where
  | nullable
  | array
  deriving DecidableEq, Repr

def TypeSuffix.text : TypeSuffix → String
  | .nullable => "?"
  | .array => "[]"

def suffixText (suffixes : List TypeSuffix) : String :=
  String.join (suffixes.map TypeSuffix.text)

/-- The text of a type: a dotted name, types in angle brackets behind it, and
suffixes behind these. -/
inductive IsTypeText : String → Prop
  | intro {first : String} {others arguments : List String}
      {suffixes : List TypeSuffix}
      (named : isPlainName first = true)
      (qualified : ∀ part ∈ others, isAsciiIdentifier part.toList = true)
      (applied : ∀ argument ∈ arguments, IsTypeText argument) :
      IsTypeText
        (dottedText (first :: others) ++ angleText arguments ++
          suffixText suffixes)

/-! ## Printed declarations -/

def modifierText (modifiers : List Modifier) : String :=
  String.join (modifiers.map fun modifier => modifier.keyword ++ " ")

def TypeHeader.printed (header : TypeHeader) : String :=
  modifierText header.modifiers ++ header.kind.keyword ++ " " ++
    header.name ++ header.typeParameters.getD ""

def Enumeration.printed (declared : Enumeration) : String :=
  modifierText declared.modifiers ++ "enum " ++ declared.name ++ " \x7b" ++
    (if declared.variants = [] then "" else " ") ++
    commaText declared.variants ++ " \x7d"

def Parameter.printed (parameter : Parameter) : String :=
  parameter.typeName ++ " " ++ parameter.name

def Method.printed (declared : Method) : String :=
  modifierText declared.modifiers ++ declared.returnType ++ " " ++
    declared.name ++ "(" ++
    commaText (declared.parameters.map Parameter.printed) ++ ") \x7b \x7d"

namespace Declaration

mutual

/-- A declaration as source text, its members in braces. -/
def printed : Declaration → String
  | .scope name members =>
      "namespace " ++ name ++ " \x7b" ++ printedAll " " members ++ " \x7d"
  | .type header members =>
      header.printed ++ " \x7b" ++ printedAll " " members ++ " \x7d"
  | .enumeration declared => declared.printed
  | .method declared => declared.printed

/-- Declarations as source text, with this text in front of each. -/
def printedAll (lead : String) : List Declaration → String
  | [] => ""
  | first :: others => lead ++ first.printed ++ printedAll lead others

end

end Declaration

/-- An outline as source text, one line for each declaration at the top. -/
def Outline.printed (outline : Outline) : String :=
  Declaration.printedAll "\n" outline

/-! ## Printable declarations -/

/-- All modifiers but `ref`, which not every declaration can have. -/
def PlainModifiers (modifiers : List Modifier) : Prop :=
  Modifier.refWord ∉ modifiers

instance (modifiers : List Modifier) : Decidable (PlainModifiers modifiers) :=
  inferInstanceAs (Decidable (Modifier.refWord ∉ modifiers))

structure TypeHeader.Printable (header : TypeHeader) : Prop where
  named : isPlainName header.name = true
  modified : PlainModifiers header.modifiers
  generic : ∀ text ∈ header.typeParameters, ∃ names : List String,
    names ≠ [] ∧ text = angleText names ∧
      ∀ name ∈ names, isAsciiIdentifier name.toList = true

structure Enumeration.Printable (declared : Enumeration) : Prop where
  named : isPlainName declared.name = true
  modified : PlainModifiers declared.modifiers
  variants : ∀ name ∈ declared.variants, isPlainName name = true

structure Parameter.Printable (parameter : Parameter) : Prop where
  named : isPlainName parameter.name = true
  typed : IsTypeText parameter.typeName

structure Method.Printable (declared : Method) : Prop where
  named : isPlainName declared.name = true
  modified : PlainModifiers declared.modifiers
  returned : IsTypeText declared.returnType
  parameters : ∀ parameter ∈ declared.parameters, parameter.Printable

namespace Declaration

mutual

/-- A declaration that a source can have here, given whether a type directly
encloses it. -/
def Printable (insideType : Bool) : Declaration → Prop
  | .scope name members =>
      insideType = false ∧
        (∃ parts : List String, parts ≠ [] ∧ name = dottedText parts ∧
          ∀ part ∈ parts, isPlainName part = true) ∧
        AllPrintable false members
  | .type header members => header.Printable ∧ AllPrintable true members
  | .enumeration declared => declared.Printable
  | .method declared => insideType = true ∧ declared.Printable

def AllPrintable (insideType : Bool) : List Declaration → Prop
  | [] => True
  | first :: others =>
      first.Printable insideType ∧ AllPrintable insideType others

end

end Declaration

end ClassDiagram
