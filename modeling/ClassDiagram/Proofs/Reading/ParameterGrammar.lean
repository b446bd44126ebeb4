import ClassDiagram.Proofs.Reading.CommaLists
import ClassDiagram.Proofs.Reading.TypeGrammar

/-!
# Written parameters are recovered

A list of parameters, each with attributes, passing words, a type, a name and
perhaps a default value, is read as the list of the names with the verbatim
texts of the types, and the reader is left behind the parenthesis that closes
the list.
-/

namespace ClassDiagram.Reading

open Source (Token Lexeme)

/-- A parameter whose type is written by the grammar of types. -/
inductive IsWrittenParameter : Parameter → List Token → Prop
  | typed {attributes passing typed value : List Token} {named : Token}
      {name : String} (sections : AreAttributeSections attributes)
      (words : ArePassingWords passing)
      (isType : IsWrittenType parameterStartWords typed)
      (isName : word? named = some name) (isValue : IsGivenValue value) :
      IsWrittenParameter ⟨name, Token.verbatim typed⟩
        (attributes ++ (passing ++ (typed ++ named :: value)))

theorem IsGivenValue.isDefaultValue {value : List Token}
    (isValue : IsGivenValue value) : IsDefaultValue value := by
  cases isValue with
  | absent => exact .absent
  | present isEquals nested =>
      exact .present isEquals (nested.untilClosing rfl)

theorem IsWrittenParameter.isParameter {parameter : Parameter}
    {tokens : List Token} (isWritten : IsWrittenParameter parameter tokens) :
    IsParameter parameter tokens := by
  cases isWritten with
  | typed sections words isType isName isValue =>
      exact .typed sections words isType.isBareType isName
        isValue.isDefaultValue

/-- In front of other parameters, parameters with commas are more of them. -/
theorem AreEnded.areParameters {front others : List Parameter}
    {tokens behind : List Token}
    (ended : AreEnded IsWrittenParameter front tokens)
    (further : AreParameters others behind) :
    AreParameters (front ++ others) (tokens ++ behind) := by
  induction ended with
  | nil => exact further
  | cons isItem isComma ended inductionHypothesis =>
      rw [List.append_assoc, List.cons_append]
      exact .more isItem.isParameter isComma inductionHypothesis

theorem AreSeparated.isParameterList {parameters : List Parameter}
    {tokens : List Token} {closing : Token}
    (separated : AreSeparated IsWrittenParameter parameters tokens)
    (closes : closing.isMark ')' = true) :
    IsParameterList parameters (tokens ++ [closing]) := by
  cases separated with
  | none => exact .empty closes
  | some ended isLast =>
      rw [List.append_assoc]
      exact .some (ended.areParameters (.last isLast.isParameter closes))

/-- Parameters with commas between them are read, in their order, as their
names and the verbatim texts of their types, up to and including the
parenthesis behind them. -/
theorem readParameterList_separated {parameters : List Parameter}
    {tokens : List Token} {closing : Token}
    (separated : AreSeparated IsWrittenParameter parameters tokens)
    (closes : closing.isMark ')' = true) (rest : List Token) :
    readParameterList (tokens ++ closing :: rest) =
      .ok (parameters, rest) := by
  have isList := separated.isParameterList closes
  have read := isList.readParameterList_eq rest
  rwa [List.append_assoc, List.singleton_append] at read

def pairsTokens : List Token :=
  [⟨"", .mark '['⟩, ⟨"", .word "In"⟩, ⟨"", .mark ']'⟩] ++
    ([⟨" ", .word "ref"⟩] ++
      ([⟨" ", .mark '('⟩, ⟨"", .word "int"⟩, ⟨" ", .word "Key"⟩,
          ⟨"", .mark ','⟩, ⟨" ", .word "int"⟩, ⟨"", .mark ')'⟩,
          ⟨"", .mark '['⟩, ⟨"", .mark ']'⟩] ++
        [⟨" ", .word "pairs"⟩]))

theorem pairsTokens_written :
    IsWrittenParameter ⟨"pairs", "(int Key, int)[]"⟩ pairsTokens := by
  have int : ∀ lead, IsWrittenType parameterStartWords [⟨lead, .word "int"⟩] :=
    fun _ => .word ⟨"int", rfl, by decide⟩
  have key : IsFreeWord parameterStartWords ⟨" ", .word "Key"⟩ :=
    ⟨"Key", rfl, by decide⟩
  have elements : Derives parameterStartWords .elements
      [⟨"", .word "int"⟩, ⟨" ", .word "Key"⟩, ⟨"", .mark ','⟩,
        ⟨" ", .word "int"⟩] :=
    @Derives.moreElements _ _ _ _ ⟨"", .mark ','⟩ (int "") (.present key) rfl
      (.lastElement (int " ") .absent)
  have array : AreSuffixes [⟨"", .mark '['⟩, ⟨"", .mark ']'⟩] :=
    @AreSuffixes.array ⟨"", .mark '['⟩ ⟨"", .mark ']'⟩ [] [] rfl
      (List.forall_mem_nil _) rfl .none
  have pair := @Derives.tuple _ ⟨" ", .mark '('⟩ ⟨"", .mark ')'⟩ _ _ rfl
    elements rfl array
  have isSection : IsAttributeSection
      [⟨"", .mark '['⟩, ⟨"", .word "In"⟩, ⟨"", .mark ']'⟩] :=
    @IsAttributeSection.brackets ⟨"", .mark '['⟩ ⟨"", .mark ']'⟩
      [⟨"", .word "In"⟩] rfl rfl (.neutral rfl rfl .nil)
  have passing : ArePassingWords [⟨" ", .word "ref"⟩] :=
    List.forall_mem_singleton.2 ⟨"ref", by decide, rfl⟩
  exact .typed ⟨[_], rfl, List.forall_mem_singleton.2 isSection⟩ passing pair
    rfl .absent

def othersTokens : List Token :=
  [] ++ ([⟨" ", .word "params"⟩] ++ ([⟨" ", .word "T"⟩] ++
    ⟨" ", .word "others"⟩ :: ⟨" ", .mark '='⟩ :: [⟨" ", .word "Make"⟩,
      ⟨"", .mark '('⟩, ⟨"", .literal "1"⟩, ⟨"", .mark ','⟩,
      ⟨" ", .literal "2"⟩, ⟨"", .mark ')'⟩]))

theorem othersTokens_written :
    IsWrittenParameter ⟨"others", "T"⟩ othersTokens := by
  have passing : ArePassingWords [⟨" ", .word "params"⟩] :=
    List.forall_mem_singleton.2 ⟨"params", by decide, rfl⟩
  have name : IsWrittenType parameterStartWords [⟨" ", .word "T"⟩] :=
    .word ⟨"T", rfl, by decide⟩
  have value : NestedWithout [','] [⟨" ", .word "Make"⟩, ⟨"", .mark '('⟩,
      ⟨"", .literal "1"⟩, ⟨"", .mark ','⟩, ⟨" ", .literal "2"⟩,
      ⟨"", .mark ')'⟩] :=
    .neutral rfl rfl rfl (@NestedWithout.group _ ⟨"", .mark '('⟩
      ⟨"", .mark ')'⟩ _
      [⟨"", .literal "1"⟩, ⟨"", .mark ','⟩, ⟨" ", .literal "2"⟩] [] rfl rfl
      rfl (.neutral rfl rfl (.neutral rfl rfl (.neutral rfl rfl .nil))) .nil)
  have noSections : AreAttributeSections [] :=
    ⟨[], rfl, List.forall_mem_nil _⟩
  exact .typed noSections passing name rfl (.present rfl value)

/-- The comma of the value is not taken for one of the list. -/
theorem pairs_and_others_read :
    AreSeparated IsWrittenParameter
        [⟨"pairs", "(int Key, int)[]"⟩, ⟨"others", "T"⟩]
        (pairsTokens ++ [⟨"", .mark ','⟩] ++ othersTokens) ∧
      Token.isMark ⟨"", .mark ')'⟩ ')' = true ∧
      readParameterList (pairsTokens ++ [⟨"", .mark ','⟩] ++ othersTokens ++
          [⟨"", .mark ')'⟩, ⟨"", .mark ';'⟩]) =
        .ok ([⟨"pairs", "(int Key, int)[]"⟩, ⟨"others", "T"⟩],
          [⟨"", .mark ';'⟩]) := by
  have ended : AreEnded IsWrittenParameter
      [⟨"pairs", "(int Key, int)[]"⟩]
      (pairsTokens ++ [⟨"", .mark ','⟩]) :=
    .cons pairsTokens_written rfl .nil
  have separated := AreSeparated.some ended othersTokens_written
  exact ⟨separated, rfl, readParameterList_separated separated rfl _⟩

end ClassDiagram.Reading
