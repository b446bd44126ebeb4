import ClassDiagram.Declaration
import ClassDiagram.Json

/-!
# Outlines as JSON

An outline is an object with its declarations.  Every declaration names its
form first and its members last.
-/

namespace ClassDiagram

def modifiersJson (modifiers : List Modifier) : Json :=
  .array (modifiers.map fun modifier => .text modifier.keyword)

def Parameter.toJson (parameter : Parameter) : Json :=
  .object
    [("name", .text parameter.name), ("type_name", .text parameter.typeName)]

def typeParametersJson : Option String → Json
  | some written => .text written
  | none => .null

def Enumeration.toJson (declared : Enumeration) : Json :=
  .object
    [("node", .text "enum"), ("name", .text declared.name),
      ("modifiers", modifiersJson declared.modifiers),
      ("variants", .array (declared.variants.map .text))]

def Method.toJson (declared : Method) : Json :=
  .object
    [("node", .text "method"), ("name", .text declared.name),
      ("return_type", .text declared.returnType),
      ("parameters", .array (declared.parameters.map Parameter.toJson)),
      ("modifiers", modifiersJson declared.modifiers)]

mutual

def Declaration.toJson : Declaration → Json
  | .scope name members =>
      .object
        [("node", .text "namespace"), ("name", .text name),
          ("members", .array (declarationsJson members))]
  | .type header members =>
      .object
        [("node", .text "type"), ("kind", .text header.kind.keyword),
          ("name", .text header.name),
          ("type_parameters", typeParametersJson header.typeParameters),
          ("modifiers", modifiersJson header.modifiers),
          ("members", .array (declarationsJson members))]
  | .enumeration declared => declared.toJson
  | .method declared => declared.toJson

def declarationsJson : List Declaration → List Json
  | [] => []
  | first :: others => first.toJson :: declarationsJson others

end

def Outline.toJson (outline : Outline) : Json :=
  .object [("members", .array (declarationsJson outline))]

/-- The JSON text of an outline, on one line or with an item to a line. -/
def outlineText (compact : Bool) (outline : Outline) : String :=
  if compact then
    (Outline.toJson outline).compact
  else
    (Outline.toJson outline).pretty

end ClassDiagram
