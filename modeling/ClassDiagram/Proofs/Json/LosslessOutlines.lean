import ClassDiagram.CommandLine.Sources
import ClassDiagram.Proofs.Json.Decoding

/-!
# Lossless outlines

An outline is found again in its JSON value, so neither of its two texts
loses anything: a reader that decodes one finds the value, and in the value
the outline.  Outlines that differ have different texts.
-/

namespace ClassDiagram

/-! ## Reading outlines from JSON -/

namespace Json

def field? (name : String) (fields : List (String × Json)) : Option Json :=
  fields.lookup name

@[simp]
theorem field?_cons (name label : String) (value : Json)
    (others : List (String × Json)) :
    field? name ((label, value) :: others) =
      if name = label then some value else field? name others := by
  rw [field?, List.lookup_cons]
  by_cases same : name = label
  · rw [if_pos same, beq_iff_eq.2 same]
  · rw [if_neg same, beq_eq_false_iff_ne.2 same, field?]

def content? : Json → Option String
  | .text content => some content
  | _ => none

def items? : Json → Option (List Json)
  | .array items => some items
  | _ => none

@[simp]
theorem content?_text (content : String) :
    content? (.text content) = some content :=
  rfl

@[simp]
theorem items?_array (items : List Json) : items? (.array items) = some items :=
  rfl

def textField? (name : String) (fields : List (String × Json)) :
    Option String :=
  (field? name fields).bind content?

/-- What the items of a field that is an array are read as. -/
def listField? {Item : Type} (read? : Json → Option Item) (name : String)
    (fields : List (String × Json)) : Option (List Item) :=
  ((field? name fields).bind items?).bind fun items => items.mapM read?

end Json

open Json in
def Modifier.ofJson? (value : Json) : Option Modifier :=
  (content? value).bind Modifier.ofKeyword?

open Json in
/-- The generic parameters as written; null if there are none. -/
def typeParametersOfJson? : Json → Option (Option String)
  | .null => some none
  | value => (content? value).map some

open Json in
def Parameter.ofJson? : Json → Option Parameter
  | .object fields => do
      let name ← textField? "name" fields
      let typeName ← textField? "type_name" fields
      pure ⟨name, typeName⟩
  | _ => none

open Json in
def Enumeration.ofFields? (fields : List (String × Json)) :
    Option Enumeration := do
  let name ← textField? "name" fields
  let modifiers ← listField? Modifier.ofJson? "modifiers" fields
  let variants ← listField? content? "variants" fields
  pure ⟨name, modifiers, variants⟩

open Json in
def Method.ofFields? (fields : List (String × Json)) : Option Method := do
  let name ← textField? "name" fields
  let returnType ← textField? "return_type" fields
  let parameters ← listField? Parameter.ofJson? "parameters" fields
  let modifiers ← listField? Modifier.ofJson? "modifiers" fields
  pure ⟨name, returnType, parameters, modifiers⟩

open Json in
def TypeHeader.ofFields? (fields : List (String × Json)) :
    Option TypeHeader := do
  let kind ← (textField? "kind" fields).bind TypeKind.ofKeyword?
  let name ← textField? "name" fields
  let typeParameters ←
    (field? "type_parameters" fields).bind typeParametersOfJson?
  let modifiers ← listField? Modifier.ofJson? "modifiers" fields
  pure ⟨kind, name, typeParameters, modifiers⟩

open Json in
def Declaration.ofFields? (fields : List (String × Json))
    (members : Option (List Declaration)) : Option Declaration := do
  match ← textField? "node" fields with
  | "namespace" =>
      pure (.scope (← textField? "name" fields) (← members))
  | "type" => pure (.type (← TypeHeader.ofFields? fields) (← members))
  | "enum" => pure (.enumeration (← Enumeration.ofFields? fields))
  | "method" => pure (.method (← Method.ofFields? fields))
  | _ => none

mutual

def Declaration.ofJson? : Json → Option Declaration
  | .object fields => Declaration.ofFields? fields (membersOfFields? fields)
  | _ => none

def membersOfFields? : List (String × Json) → Option (List Declaration)
  | [] => none
  | (name, value) :: others =>
      if name = "members" then declarationsOfJson? value
      else membersOfFields? others

def declarationsOfJson? : Json → Option (List Declaration)
  | .array items => declarationsOfItems? items
  | _ => none

def declarationsOfItems? : List Json → Option (List Declaration)
  | [] => some []
  | item :: others => do
      let first ← Declaration.ofJson? item
      let rest ← declarationsOfItems? others
      pure (first :: rest)

end

def Outline.ofJson? : Json → Option Outline
  | .object fields => membersOfFields? fields
  | _ => none

/-! ## Finding outlines again -/

/-- What is read from the form of each item is the list of the items. -/
theorem mapM_comp_of_inverse {Item Form : Type} {read? : Form → Option Item}
    {write : Item → Form} (inverse : ∀ item, read? (write item) = some item)
    (items : List Item) : items.mapM (read? ∘ write) = some items := by
  have identity : read? ∘ write = some := funext inverse
  rw [identity]
  induction items with
  | nil => rfl
  | cons item others inductionHypothesis => simp [inductionHypothesis]

@[simp]
theorem mapM_modifiers (modifiers : List Modifier) :
    modifiers.mapM (Modifier.ofJson? ∘ fun modifier => .text modifier.keyword) =
      some modifiers :=
  mapM_comp_of_inverse Modifier.ofKeyword?_keyword modifiers

theorem Parameter.ofJson?_toJson (parameter : Parameter) :
    Parameter.ofJson? parameter.toJson = some parameter :=
  rfl

@[simp]
theorem mapM_parameters (parameters : List Parameter) :
    parameters.mapM (Parameter.ofJson? ∘ Parameter.toJson) =
      some parameters :=
  mapM_comp_of_inverse Parameter.ofJson?_toJson parameters

@[simp]
theorem mapM_texts (texts : List String) :
    texts.mapM (Json.content? ∘ Json.text) = some texts :=
  mapM_comp_of_inverse Json.content?_text texts

@[simp]
theorem typeParametersOfJson?_toJson (typeParameters : Option String) :
    typeParametersOfJson? (typeParametersJson typeParameters) =
      some typeParameters := by
  cases typeParameters <;> rfl

theorem Enumeration.ofJson?_toJson (declared : Enumeration) :
    Declaration.ofJson? declared.toJson = some (.enumeration declared) := by
  simp [Enumeration.toJson, modifiersJson, Declaration.ofJson?,
    Declaration.ofFields?, Enumeration.ofFields?, Json.textField?,
    Json.listField?]

theorem Method.ofJson?_toJson (declared : Method) :
    Declaration.ofJson? declared.toJson = some (.method declared) := by
  simp [Method.toJson, modifiersJson, Declaration.ofJson?,
    Declaration.ofFields?, Method.ofFields?, Json.textField?,
    Json.listField?]

mutual

/-- A declaration is found again in its object. -/
theorem Declaration.ofJson?_toJson :
    ∀ declaration : Declaration,
      Declaration.ofJson? declaration.toJson = some declaration
  | .scope name members => by
      have found := declarationsOfItems?_declarationsJson members
      simp [Declaration.toJson, Declaration.ofJson?, membersOfFields?,
        declarationsOfJson?, found, Declaration.ofFields?, Json.textField?]
  | .type header members => by
      have found := declarationsOfItems?_declarationsJson members
      simp [Declaration.toJson, modifiersJson, Declaration.ofJson?,
        membersOfFields?, declarationsOfJson?, found, Declaration.ofFields?,
        TypeHeader.ofFields?, Json.textField?, Json.listField?]
  | .enumeration declared => by
      rw [Declaration.toJson]
      exact declared.ofJson?_toJson
  | .method declared => by
      rw [Declaration.toJson]
      exact declared.ofJson?_toJson

theorem declarationsOfItems?_declarationsJson :
    ∀ declarations : List Declaration,
      declarationsOfItems? (declarationsJson declarations) = some declarations
  | [] => by
      rw [declarationsJson, declarationsOfItems?]
  | first :: others => by
      rw [declarationsJson, declarationsOfItems?, first.ofJson?_toJson,
        declarationsOfItems?_declarationsJson others]
      rfl

end

theorem Outline.ofJson?_toJson (outline : Outline) :
    Outline.ofJson? outline.toJson = some outline := by
  rw [Outline.toJson, Outline.ofJson?, membersOfFields?, if_pos rfl,
    declarationsOfJson?, declarationsOfItems?_declarationsJson]

/-! ## Texts of outlines -/

theorem isTextOf_outlineText (compact : Bool) (outline : Outline) :
    Json.IsTextOf (outlineText compact outline) outline.toJson := by
  cases compact
  · exact Json.isTextOf_pretty outline.toJson
  · exact Json.isTextOf_compact outline.toJson

/-- Only one outline has a text. -/
theorem eq_of_outlineText_eq {outline other : Outline}
    {compact otherCompact : Bool}
    (same : outlineText otherCompact other = outlineText compact outline) :
    other = outline := by
  have otherText := isTextOf_outlineText otherCompact other
  rw [same] at otherText
  have values := otherText.unique (isTextOf_outlineText compact outline)
  have found := Outline.ofJson?_toJson other
  rw [values, Outline.ofJson?_toJson] at found
  exact (Option.some.inj found).symm

namespace CommandLine

/-- The JSON text of an outline that was read, in either layout, is a text of
the value of the outline and of no other value.  It is decoded to that value,
in which the outline is found again, and no other outline has this text in
any layout. -/
theorem sourceOutlineText_lossless (content : String) (outline : Outline)
    (read : readSource content = .ok outline) (compact : Bool) :
    ∃ written, sourceOutlineText content compact = .ok written ∧
      (∀ value, Json.IsTextOf written value ↔ value = outline.toJson) ∧
      Json.decode? written = some outline.toJson ∧
      Outline.ofJson? outline.toJson = some outline ∧
      ∀ other otherCompact,
        outlineText otherCompact other = written → other = outline := by
  have isText := isTextOf_outlineText compact outline
  refine ⟨outlineText compact outline, ?_, fun value => ⟨?_, ?_⟩,
    Json.decode?_of_isTextOf isText, outline.ofJson?_toJson,
    fun other otherCompact => eq_of_outlineText_eq⟩
  · rw [sourceOutlineText, read]
  · exact fun isOther => isOther.unique isText
  · rintro rfl
    exact isText

def commentedSource : String :=
  "class Ä \x7b\n  Pair</* \"a\\b\" */\n\tint> M();\n\x7d"

def commentedOutline : Outline :=
  [.type { kind := .classWord, name := "Ä" }
    [.method
      { name := "M", returnType := "Pair</* \"a\\b\" */\n\tint>" }]]

/-- Nothing of the return type is lost. -/
theorem commentedSource_lossless :
    readSource commentedSource = .ok commentedOutline ∧
      ∃ written, sourceOutlineText commentedSource false = .ok written ∧
        Json.decode? written = some commentedOutline.toJson ∧
        Outline.ofJson? commentedOutline.toJson = some commentedOutline := by
  have read : readSource commentedSource = .ok commentedOutline := by
    decide +kernel
  obtain ⟨written, made, _, decoded, found, _⟩ :=
    sourceOutlineText_lossless commentedSource commentedOutline read false
  exact ⟨read, written, made, decoded, found⟩

end CommandLine

end ClassDiagram
