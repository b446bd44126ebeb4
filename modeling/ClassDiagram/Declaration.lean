import ClassDiagram.Modifier
import ClassDiagram.TypeKind

/-!
# Declarations

The declaration skeleton of one source: namespaces, types, enumerations and
methods in the order in which they are written.  Everything else in a source
is left out.
-/

namespace ClassDiagram

/-- A parameter of a method, its type as written. -/
structure Parameter where
  name : String
  typeName : String
  deriving DecidableEq, Repr

/-- What a type declaration says before its members. -/
structure TypeHeader where
  kind : TypeKind
  name : String
  /-- The generic parameters as written, with their angle brackets. -/
  typeParameters : Option String := none
  modifiers : List Modifier := []
  deriving DecidableEq, Repr

/-- An enumeration with the names of its values. -/
structure Enumeration where
  name : String
  modifiers : List Modifier := []
  variants : List String := []
  deriving DecidableEq, Repr

/-- A method without its body, its return type as written. -/
structure Method where
  name : String
  returnType : String
  parameters : List Parameter := []
  modifiers : List Modifier := []
  deriving DecidableEq, Repr

inductive Declaration where
  /-- A namespace; its name is dotted and not qualified from outside. -/
  | scope (name : String) (members : List Declaration)
  | type (header : TypeHeader) (members : List Declaration)
  | enumeration (declared : Enumeration)
  | method (declared : Method)
  deriving Repr

/-- The declarations of one source in the order in which they are written. -/
abbrev Outline := List Declaration

namespace Declaration

def name : Declaration → String
  | .scope name _ => name
  | .type header _ => header.name
  | .enumeration declared => declared.name
  | .method declared => declared.name

/-- The declarations directly inside; enumerations and methods have none. -/
def members : Declaration → List Declaration
  | .scope _ members => members
  | .type _ members => members
  | .enumeration _ => []
  | .method _ => []

mutual

def decEq : (left right : Declaration) → Decidable (left = right)
  | .scope leftName leftMembers, .scope rightName rightMembers =>
      match decEqAll leftMembers rightMembers with
      | isTrue same =>
          if names : leftName = rightName then
            isTrue (by rw [names, same])
          else
            isFalse (by intro equal; cases equal; exact names rfl)
      | isFalse different =>
          isFalse (by intro equal; cases equal; exact different rfl)
  | .type leftHeader leftMembers, .type rightHeader rightMembers =>
      match decEqAll leftMembers rightMembers with
      | isTrue same =>
          if headers : leftHeader = rightHeader then
            isTrue (by rw [headers, same])
          else
            isFalse (by intro equal; cases equal; exact headers rfl)
      | isFalse different =>
          isFalse (by intro equal; cases equal; exact different rfl)
  | .enumeration left, .enumeration right =>
      if same : left = right then
        isTrue (by rw [same])
      else
        isFalse (by intro equal; cases equal; exact same rfl)
  | .method left, .method right =>
      if same : left = right then
        isTrue (by rw [same])
      else
        isFalse (by intro equal; cases equal; exact same rfl)
  | .scope .., .type .. => isFalse nofun
  | .scope .., .enumeration _ => isFalse nofun
  | .scope .., .method _ => isFalse nofun
  | .type .., .scope .. => isFalse nofun
  | .type .., .enumeration _ => isFalse nofun
  | .type .., .method _ => isFalse nofun
  | .enumeration _, .scope .. => isFalse nofun
  | .enumeration _, .type .. => isFalse nofun
  | .enumeration _, .method _ => isFalse nofun
  | .method _, .scope .. => isFalse nofun
  | .method _, .type .. => isFalse nofun
  | .method _, .enumeration _ => isFalse nofun

def decEqAll : (left right : List Declaration) → Decidable (left = right)
  | [], [] => isTrue rfl
  | [], _ :: _ => isFalse nofun
  | _ :: _, [] => isFalse nofun
  | first :: others, other :: rest =>
      match decEq first other, decEqAll others rest with
      | isTrue heads, isTrue tails => isTrue (by rw [heads, tails])
      | isFalse different, _ =>
          isFalse (by intro equal; cases equal; exact different rfl)
      | _, isFalse different =>
          isFalse (by intro equal; cases equal; exact different rfl)

end

instance : DecidableEq Declaration :=
  decEq

mutual

def count : Declaration → Nat
  | .scope _ members => 1 + countAll members
  | .type _ members => 1 + countAll members
  | .enumeration _ => 1
  | .method _ => 1

/-- The number of declarations in a list and inside its members. -/
def countAll : List Declaration → Nat
  | [] => 0
  | first :: others => first.count + countAll others

end

end Declaration

/-- The number of declarations in a source, nested ones included. -/
def Outline.count (outline : Outline) : Nat :=
  Declaration.countAll outline

end ClassDiagram
