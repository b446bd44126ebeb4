import ClassDiagram.Proofs.Reading.InsideNested

/-!
# The grammar of types

A type is a name with type arguments, whose parts stand between dots and
which may begin with an alias, or a tuple of types, each with a name of its
own if it has one.  Suffixes stand behind it.  Type arguments and the
elements of a tuple are types again.

Whatever is written like this has its parentheses, brackets and angle
brackets nested, so it is one of the types that are skipped whole, and other
readers pass over it as well.
-/

namespace ClassDiagram.Reading

open Source (Token Lexeme)

/-! ## Derivations -/

/-- A word that may begin a type and is none of these. -/
def IsFreeWord (words : List String) (token : Token) : Prop :=
  ∃ text, plainWord? token = some text ∧ text ∉ words

theorem IsFreeWord.isAnyWord {words : List String} {token : Token}
    (isFree : IsFreeWord words token) : token.isAnyWord = true := by
  obtain ⟨text, named, _⟩ := isFree
  exact isAnyWord_of_plainWord? named

inductive IsElementName (words : List String) : List Token → Prop
  | absent : IsElementName words []
  | present {named : Token} (isFree : IsFreeWord words named) :
      IsElementName words [named]

/-- What the grammar of types derives. -/
inductive TypePhrase where
  /-- A type with its suffixes. -/
  | whole
  /-- A name, perhaps behind an alias and two colons. -/
  | name
  /-- What stands behind the first word of a name: its type arguments, and
  further parts with theirs. -/
  | parts
  /-- Types in angle brackets, or nothing. -/
  | arguments
  /-- One or more types with commas between them. -/
  | types
  /-- One or more types with commas between them, each perhaps with a name
  behind it. -/
  | elements
  deriving DecidableEq, Repr

/-- The tokens of a phrase that has none of these words for a name. -/
inductive Derives (words : List String) : TypePhrase → List Token → Prop
  | named {name suffixes : List Token} (isName : Derives words .name name)
      (are : AreSuffixes suffixes) :
      Derives words .whole (name ++ suffixes)
  | tuple {opening closing : Token} {elements suffixes : List Token}
      (opens : opening.isMark '(' = true)
      (listed : Derives words .elements elements)
      (closes : closing.isMark ')' = true) (are : AreSuffixes suffixes) :
      Derives words .whole (opening :: (elements ++ closing :: suffixes))
  | plain {first : Token} {parts : List Token}
      (isFree : IsFreeWord words first) (further : Derives words .parts parts) :
      Derives words .name (first :: parts)
  | aliased {front colon second first : Token} {parts : List Token}
      (isFront : IsFreeWord words front) (isColon : colon.isMark ':' = true)
      (isSecond : second.isMark ':' = true) (isFree : IsFreeWord words first)
      (further : Derives words .parts parts) :
      Derives words .name (front :: colon :: second :: first :: parts)
  | lastPart {arguments : List Token}
      (are : Derives words .arguments arguments) :
      Derives words .parts arguments
  | dotted {arguments parts : List Token} {dot part : Token}
      (are : Derives words .arguments arguments)
      (isDot : dot.isMark '.' = true) (isFree : IsFreeWord words part)
      (further : Derives words .parts parts) :
      Derives words .parts (arguments ++ dot :: part :: parts)
  | noArguments : Derives words .arguments []
  | arguments {opening closing : Token} {inner : List Token}
      (opens : opening.isMark '<' = true) (listed : Derives words .types inner)
      (closes : closing.isMark '>' = true) :
      Derives words .arguments (opening :: (inner ++ [closing]))
  | lastType {typed : List Token} (isType : Derives words .whole typed) :
      Derives words .types typed
  | moreTypes {typed others : List Token} {comma : Token}
      (isType : Derives words .whole typed) (isComma : comma.isMark ',' = true)
      (further : Derives words .types others) :
      Derives words .types (typed ++ comma :: others)
  | lastElement {typed name : List Token}
      (isType : Derives words .whole typed)
      (isName : IsElementName words name) :
      Derives words .elements (typed ++ name)
  | moreElements {typed name others : List Token} {comma : Token}
      (isType : Derives words .whole typed)
      (isName : IsElementName words name) (isComma : comma.isMark ',' = true)
      (further : Derives words .elements others) :
      Derives words .elements (typed ++ (name ++ comma :: others))

/-- A type as it is written, with none of these words for a name. -/
abbrev IsWrittenType (words : List String) : List Token → Prop :=
  Derives words .whole

/-- A word is a type. -/
theorem Derives.word {words : List String} {token : Token}
    (isFree : IsFreeWord words token) : IsWrittenType words [token] :=
  .named (.plain isFree (.lastPart .noArguments)) .none

/-! ## Brackets in types -/

theorem NestedAngles.append {first second : List Token}
    (firstNested : NestedAngles first) (secondNested : NestedAngles second) :
    NestedAngles (first ++ second) := by
  induction firstNested with
  | nil => exact secondNested
  | inner notOpening notClosing notEnding _ inductionHypothesis =>
      exact .inner notOpening notClosing notEnding inductionHypothesis
  | group opens closes inside _ _ inductionHypothesis =>
      rw [List.cons_append, List.append_assoc, List.cons_append]
      exact .group opens closes inside inductionHypothesis

/-- No other mark bears on angle brackets. -/
theorem NestedAngles.cons_mark {token : Token} {rest : List Token} {c : Char}
    (isMark : token.isMark c = true)
    (plain : c ∉ [';', '\x7b', '\x7d', '<', '>'])
    (further : NestedAngles rest) : NestedAngles (token :: rest) := by
  have other : ∀ {d : Char}, d ∈ [';', '\x7b', '\x7d', '<', '>'] → c ≠ d := by
    rintro d member rfl
    exact plain member
  have notEnding := not_ending_of_isMark isMark
    ⟨other (by decide), other (by decide), other (by decide)⟩
  exact .inner (isMark_unique isMark (other (by decide)))
    (isMark_unique isMark (other (by decide))) notEnding further

/-- Groups are nested and angle brackets are, and nothing among the tokens
ends type arguments. -/
structure IsClosed (tokens : List Token) : Prop where
  nested : Nested tokens
  nestedAngles : NestedAngles tokens

namespace IsClosed

variable {tokens rest : List Token} {token : Token}

theorem nil : IsClosed [] :=
  ⟨.nil, .nil⟩

theorem append (first : IsClosed tokens) (second : IsClosed rest) :
    IsClosed (tokens ++ rest) :=
  ⟨first.nested.append second.nested,
    first.nestedAngles.append second.nestedAngles⟩

/-- A mark of no group may stand in front. -/
theorem cons_mark {c : Char} (isMark : token.isMark c = true)
    (noGroup : closingMark? c = none ∧ isClosingMark c = false)
    (plain : c ∉ [';', '\x7b', '\x7d', '<', '>'])
    (further : IsClosed rest) : IsClosed (token :: rest) := by
  have notOpening : closer? token = none := by
    rw [closer?_of_isMark isMark, noGroup.1]
  have notClosing : closing? token = none := by
    rw [closing?_of_isMark isMark, noGroup.2, if_neg Bool.false_ne_true]
  exact ⟨.neutral notOpening notClosing further.nested,
    further.nestedAngles.cons_mark isMark plain⟩

theorem cons_word (isWord : token.isAnyWord = true)
    (further : IsClosed rest) : IsClosed (token :: rest) := by
  have noMark := isMark_eq_false_of_isAnyWord isWord
  have notEnding := not_ending_of_isAnyWord isWord
  have noGroup : closer? token = none ∧ closing? token = none := by
    obtain ⟨lead, lexeme⟩ := token
    cases lexeme with
    | word text => exact ⟨rfl, rfl⟩
    | _ => cases isWord
  exact ⟨.neutral noGroup.1 noGroup.2 further.nested,
    .inner (noMark '<') (noMark '>') notEnding further.nestedAngles⟩

/-- The marks of a group may stand around, if it is no block. -/
theorem group {closing : Token} {c d : Char} (opens : token.isMark c = true)
    (closes : closing.isMark d = true)
    (isGroup : closingMark? c = some d ∧ isClosingMark d = true)
    (plain : c ∉ [';', '\x7b', '\x7d', '<', '>'] ∧
      d ∉ [';', '\x7b', '\x7d', '<', '>'])
    (inside : IsClosed tokens) (further : IsClosed rest) :
    IsClosed (token :: (tokens ++ closing :: rest)) := by
  have isOpening : closer? token = some d := by
    rw [closer?_of_isMark opens, isGroup.1]
  have isClosing : closing? closing = some d := by
    rw [closing?_of_isMark closes, if_pos isGroup.2]
  have behind := further.nestedAngles.cons_mark closes plain.2
  exact ⟨.group isOpening isClosing inside.nested further.nested,
    (inside.nestedAngles.append behind).cons_mark opens plain.1⟩

theorem angles {closing : Token} (opens : token.isMark '<' = true)
    (closes : closing.isMark '>' = true) (inside : IsClosed tokens)
    (further : IsClosed rest) :
    IsClosed (token :: (tokens ++ closing :: rest)) := by
  have neutral : ∀ {bracket : Token} {c : Char} {others : List Token},
      bracket.isMark c = true → closingMark? c = none →
        isClosingMark c = false → Nested others →
          Nested (bracket :: others) := by
    intro bracket c others isMark notOpening notClosing nested
    refine .neutral ?_ ?_ nested
    · rw [closer?_of_isMark isMark, notOpening]
    · rw [closing?_of_isMark isMark, notClosing, if_neg Bool.false_ne_true]
  have behind := neutral closes rfl rfl further.nested
  exact ⟨neutral opens rfl rfl (inside.nested.append behind),
    .group opens closes inside.nestedAngles further.nestedAngles⟩

end IsClosed

theorem isClosed_of_commas {commas : List Token}
    (separate : ∀ comma ∈ commas, comma.isMark ',' = true) :
    IsClosed commas := by
  induction commas with
  | nil => exact .nil
  | cons comma others inductionHypothesis =>
      obtain ⟨isComma, areCommas⟩ := List.forall_mem_cons.1 separate
      exact .cons_mark isComma (by decide) (by decide)
        (inductionHypothesis areCommas)

theorem AreSuffixes.isClosed {suffixes : List Token}
    (are : AreSuffixes suffixes) : IsClosed suffixes := by
  induction are with
  | none => exact .nil
  | mark isMark further inductionHypothesis =>
      rw [Bool.or_eq_true] at isMark
      rcases isMark with isMark | isMark <;>
        exact .cons_mark isMark (by decide) (by decide) inductionHypothesis
  | array opens separate closes further inductionHypothesis =>
      exact .group opens closes (by decide) (by decide)
        (isClosed_of_commas separate) inductionHypothesis

theorem IsElementName.isClosed {words : List String} {name : List Token}
    (isName : IsElementName words name) : IsClosed name := by
  cases isName with
  | absent => exact .nil
  | present isFree => exact .cons_word isFree.isAnyWord .nil

namespace Derives

variable {words : List String} {phrase : TypePhrase} {tokens : List Token}

theorem isClosed (derived : Derives words phrase tokens) :
    IsClosed tokens := by
  induction derived with
  | named isName are nameHypothesis =>
      exact nameHypothesis.append are.isClosed
  | tuple opens listed closes are elementsHypothesis =>
      exact .group opens closes (by decide) (by decide) elementsHypothesis
        are.isClosed
  | plain isFree further partsHypothesis =>
      exact .cons_word isFree.isAnyWord partsHypothesis
  | aliased isFront isColon isSecond isFree further partsHypothesis =>
      have behind := partsHypothesis.cons_word isFree.isAnyWord
      exact .cons_word isFront.isAnyWord
        (.cons_mark isColon (by decide) (by decide)
          (.cons_mark isSecond (by decide) (by decide)
          behind))
  | lastPart are argumentsHypothesis => exact argumentsHypothesis
  | dotted are isDot isFree further argumentsHypothesis partsHypothesis =>
      have behind := partsHypothesis.cons_word isFree.isAnyWord
      exact argumentsHypothesis.append (.cons_mark isDot (by decide) (by decide)
          behind)
  | noArguments => exact .nil
  | arguments opens listed closes typesHypothesis =>
      exact .angles opens closes typesHypothesis .nil
  | lastType isType typeHypothesis => exact typeHypothesis
  | moreTypes isType isComma further typeHypothesis typesHypothesis =>
      exact typeHypothesis.append
        (.cons_mark isComma (by decide) (by decide) typesHypothesis)
  | lastElement isType isName typeHypothesis =>
      exact typeHypothesis.append isName.isClosed
  | moreElements isType isName isComma further typeHypothesis
      elementsHypothesis =>
      exact typeHypothesis.append (isName.isClosed.append
        (.cons_mark isComma (by decide) (by decide) elementsHypothesis))

/-! ## Types that are skipped whole -/

theorem areArguments (derived : Derives words .arguments tokens) :
    AreArguments tokens := by
  cases derived with
  | noArguments => exact .absent
  | arguments opens listed closes =>
      exact .present opens closes listed.isClosed.nestedAngles

theorem isNameTail (derived : Derives words .parts tokens) :
    IsNameTail tokens := by
  generalize isParts : TypePhrase.parts = phrase at derived
  induction derived with
  | lastPart are => exact .last are.areArguments
  | dotted are isDot isFree further _ partsHypothesis =>
      exact .dotted are.areArguments isDot isFree.isAnyWord
        (partsHypothesis isParts)
  | _ => cases isParts

theorem isTypeName (derived : Derives words .name tokens) :
    IsTypeName words tokens := by
  cases derived with
  | plain isFree further =>
      obtain ⟨text, named, free⟩ := isFree
      exact .plain named free further.isNameTail
  | aliased isFront isColon isSecond isFree further =>
      obtain ⟨text, named, free⟩ := isFront
      exact .aliased named free isColon isSecond isFree.isAnyWord
        further.isNameTail

/-- A type as it is written is skipped whole in front of a name. -/
theorem isBareType (derived : IsWrittenType words tokens) :
    IsBareType words tokens := by
  cases derived with
  | named isName are => exact .named isName.isTypeName are
  | tuple opens listed closes are =>
      exact .tuple opens listed.isClosed.nested closes are

end Derives

end ClassDiagram.Reading
