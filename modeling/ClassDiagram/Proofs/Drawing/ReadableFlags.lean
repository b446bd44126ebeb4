import ClassDiagram.Proofs.Drawing.MarkerLines
import ClassDiagram.Proofs.Source.PlainText

/-!
# Readable flags

The modifiers of a declaration can be read off its line again.  No flag
begins with another one, a blank goes on with a further flag, and a name
begins with neither, so a reader that takes flags for as long as it can comes
to the modifiers that were shown and stops at the name.

A type shows fewer modifiers.  Its keyword tells whether it is abstract, and
its stereotypes are all the others but visibility.
-/

namespace ClassDiagram

/-! ## Codes -/

/-- No modifier is shown by a text that another one begins with. -/
def IsCode (shown : Modifier → String) : Prop :=
  ∀ left right, (shown left).toList <+: (shown right).toList → left = right

theorem isCode_of_all {shown : Modifier → String}
    (apart : ∀ left ∈ Modifier.all, ∀ right ∈ Modifier.all,
      (shown left).toList <+: (shown right).toList → left = right) :
    IsCode shown :=
  fun left right => apart left left.mem_all right right.mem_all

theorem memberFlag_isCode : IsCode memberFlag :=
  isCode_of_all (by decide +kernel)

theorem stereotype_isCode : IsCode stereotype :=
  isCode_of_all (by decide +kernel)

/-- The modifier that is shown at the head of a text, and the text behind
it. -/
def flagAt? (shown : Modifier → String) (text : List Char) :
    Option (Modifier × List Char) :=
  (Modifier.all.find? fun modifier =>
    (shown modifier).toList.isPrefixOf text).map fun modifier =>
      (modifier, text.drop (shown modifier).toList.length)

theorem flagAt?_length_le {shown : Modifier → String}
    {text rest : List Char} {modifier : Modifier}
    (found : flagAt? shown text = some (modifier, rest)) :
    rest.length ≤ text.length := by
  obtain ⟨_, _, answer⟩ := Option.map_eq_some_iff.1 found
  cases answer
  exact (List.drop_sublist _ _).length_le

/-- Read flags with one blank between them; answer the modifiers and what
stands behind the last flag or blank. -/
def readFlags (shown : Modifier → String) (text : List Char) :
    List Modifier × List Char :=
  match _ : flagAt? shown text with
  | none => ([], text)
  | some (modifier, []) => ([modifier], [])
  | some (modifier, c :: rest) =>
      if c = ' ' then
        let others := readFlags shown rest
        (modifier :: others.1, others.2)
      else
        ([modifier], c :: rest)
termination_by text.length
decreasing_by
  rename_i found _
  have bound := flagAt?_length_le found
  rw [List.length_cons] at bound
  omega

section

variable {shown : Modifier → String} {modifier : Modifier}
  {rest text : List Char}

/-- A code is read off the head of a text. -/
theorem IsCode.flagAt?_append (code : IsCode shown) (modifier : Modifier)
    (rest : List Char) :
    flagAt? shown ((shown modifier).toList ++ rest) =
      some (modifier, rest) := by
  rw [flagAt?]
  cases found : Modifier.all.find? fun other =>
      (shown other).toList.isPrefixOf
        ((shown modifier).toList ++ rest) with
  | none =>
      have missed := List.find?_eq_none.1 found modifier modifier.mem_all
      rw [List.isPrefixOf_iff_prefix] at missed
      exact absurd (List.prefix_append _ rest) missed
  | some other =>
      have begins := List.find?_some found
      simp only [List.isPrefixOf_iff_prefix] at begins
      have same : other = modifier := by
        rcases List.prefix_or_prefix_of_prefix begins
            (List.prefix_append _ rest) with inside | around
        · exact code other modifier inside
        · exact (code modifier other around).symm
      rw [same, Option.map_some, List.drop_left]

theorem flagAt?_eq_none
    (noFlag : ∀ modifier, ¬ (shown modifier).toList <+: text) :
    flagAt? shown text = none := by
  rw [flagAt?, Option.map_eq_none_iff, List.find?_eq_none]
  intro modifier _
  rw [List.isPrefixOf_iff_prefix]
  exact noFlag modifier

/-! ## Reading -/

theorem readFlags_none
    (noFlag : ∀ modifier, ¬ (shown modifier).toList <+: text) :
    readFlags shown text = ([], text) := by
  have missed := flagAt?_eq_none noFlag
  rw [readFlags]
  split
  · rfl
  all_goals
    rename_i found
    rw [missed] at found
    cases found

/-- A flag with a blank behind it is read, and then the text behind the
blank. -/
theorem IsCode.readFlags_blank (code : IsCode shown) (modifier : Modifier)
    (rest : List Char) :
    readFlags shown ((shown modifier).toList ++ ' ' :: rest) =
      (modifier :: (readFlags shown rest).1, (readFlags shown rest).2) := by
  have flag := code.flagAt?_append modifier (' ' :: rest)
  rw [readFlags]
  split <;> rename_i found <;> rw [flag] at found <;> cases found
  rw [if_pos rfl]

/-- A flag without a blank behind it is the last one. -/
theorem IsCode.readFlags_last (code : IsCode shown) (modifier : Modifier)
    (noBlank : rest.head? ≠ some ' ') :
    readFlags shown ((shown modifier).toList ++ rest) =
      ([modifier], rest) := by
  have flag := code.flagAt?_append modifier rest
  rw [readFlags]
  split <;> rename_i found <;> rw [flag] at found <;> cases found
  · rfl
  · rename_i c others
    rw [if_neg fun blank => noBlank (congrArg some blank)]

/-- Flags with a blank between them are read up to a text that is none. -/
theorem IsCode.readFlags_intercalate (code : IsCode shown)
    (noFlag : ∀ modifier, ¬ (shown modifier).toList <+: rest)
    (noBlank : rest.head? ≠ some ' ') (modifiers : List Modifier) :
    readFlags shown
        ((String.intercalate " " (modifiers.map shown)).toList ++ rest) =
      (modifiers, rest) := by
  induction modifiers with
  | nil =>
      exact readFlags_none noFlag
  | cons modifier others inductionHypothesis =>
      cases others with
      | nil =>
          rw [List.map_singleton, String.intercalate_singleton]
          exact code.readFlags_last modifier noBlank
      | cons next further =>
          have split : (String.intercalate " "
                ((modifier :: next :: further).map shown)).toList ++ rest =
              (shown modifier).toList ++ ' ' ::
                ((String.intercalate " "
                  ((next :: further).map shown)).toList ++ rest) := by
            simp [String.intercalate_cons_cons]
          rw [split, code.readFlags_blank, inductionHypothesis]

/-- Flags with a blank behind each are read up to a text that is none. -/
theorem IsCode.readFlags_join (code : IsCode shown)
    (noFlag : ∀ modifier, ¬ (shown modifier).toList <+: rest)
    (modifiers : List Modifier) :
    readFlags shown
        ((String.join (modifiers.map fun modifier =>
          shown modifier ++ " ")).toList ++ rest) =
      (modifiers, rest) := by
  induction modifiers with
  | nil =>
      exact readFlags_none noFlag
  | cons modifier others inductionHypothesis =>
      have split : (String.join ((modifier :: others).map fun modifier =>
            shown modifier ++ " ")).toList ++ rest =
          (shown modifier).toList ++ ' ' ::
            ((String.join (others.map fun modifier =>
              shown modifier ++ " ")).toList ++ rest) := by
        simp
      rw [split, code.readFlags_blank, inductionHypothesis]

end

/-! ## Members -/

/-- An identifier, with an at sign in front if it is verbatim. -/
def IsWordText (text : List Char) : Prop :=
  Text.isIdentifier text = true ∨
    ∃ plain, text = '@' :: plain ∧ Text.isIdentifier plain = true

def flagSigns : List Char :=
  [' ', '(', '+', '-', '#', '\x7b', '<']

theorem IsWordText.not_mem {text : List Char} (named : IsWordText text) :
    ∀ sign ∈ flagSigns, sign ∉ text := by
  have foreign : ∀ sign ∈ flagSigns,
      (Text.isSign sign && sign != '@') = true :=
    List.all_eq_true.1 (by decide)
  intro sign listed
  have atSign := foreign sign listed
  rw [Bool.and_eq_true, bne_iff_ne] at atSign
  obtain ⟨isSign, notAt⟩ := atSign
  rcases named with plain | ⟨plain, rfl, isPlain⟩
  · exact Text.not_mem_of_isIdentifier plain isSign
  · rw [List.mem_cons, not_or]
    exact ⟨notAt, Text.not_mem_of_isIdentifier isPlain isSign⟩

theorem exists_flagSign (modifier : Modifier) :
    ∃ sign ∈ flagSigns, sign ∈ (memberFlag modifier).toList := by
  have found : (flagSigns.any fun sign =>
      (memberFlag modifier).toList.contains sign) = true := by
    cases modifier <;> decide
  obtain ⟨sign, listed, occurs⟩ := List.any_eq_true.1 found
  exact ⟨sign, listed, List.contains_iff_mem.1 occurs⟩

/-- No word begins with a flag or a blank. -/
theorem IsWordText.no_flag {text : List Char} (named : IsWordText text)
    (modifier : Modifier) : ¬ (memberFlag modifier).toList <+: text := by
  intro begins
  obtain ⟨sign, listed, inFlag⟩ := exists_flagSign modifier
  exact named.not_mem sign listed (begins.subset inFlag)

theorem IsWordText.head?_ne {text : List Char} (named : IsWordText text) :
    text.head? ≠ some ' ' :=
  fun blank => named.not_mem ' ' (by decide) (List.mem_of_head? blank)

/-- The line of a method up to its first parenthesis. -/
def memberFront (declared : Method) : List Char :=
  (methodLine declared).toList.takeWhile (· != '(')

/-- What stands in front of the parenthesis are the flags and the name. -/
theorem memberFront_eq {declared : Method}
    (named : IsWordText declared.name.toList) :
    memberFront declared =
      (memberFlags declared.modifiers).toList ++ declared.name.toList := by
  have noFlag : '(' ∉ (memberFlags declared.modifiers).toList := by
    apply not_mem_intercalate (by decide)
    intro text member
    obtain ⟨modifier, _, rfl⟩ := List.mem_map.1 member
    cases modifier <;> decide
  have noName := named.not_mem '(' (by decide)
  have inside : ∀ c ∈ (memberFlags declared.modifiers).toList ++
      declared.name.toList, (c != '(') = true := by
    intro c member
    rw [bne_iff_ne]
    rintro rfl
    rcases List.mem_append.1 member with inFlags | inName
    · exact noFlag inFlags
    · exact noName inName
  rw [memberFront, toList_methodLine, List.takeWhile_append_of_pos inside,
    List.takeWhile_cons_of_neg (by decide), List.append_nil]

/-- The modifiers and the name that the front of a member line tells. -/
def readMemberFront (front : List Char) : List Modifier × String :=
  let read := readFlags memberFlag front
  (read.1, String.ofList read.2)

theorem readMemberFront_memberFront {declared : Method}
    (named : IsWordText declared.name.toList) :
    readMemberFront (memberFront declared) =
      (declared.modifiers, declared.name) := by
  rw [memberFront_eq named, readMemberFront, memberFlags,
    memberFlag_isCode.readFlags_intercalate named.no_flag named.head?_ne]
  exact congrArg _ String.ofList_toList

/-! ## Types -/

def typeFront (isAbstract : Bool) (kind : TypeKind) (name : String)
    (typeParameters : Option String) : List Char :=
  (if isAbstract then "abstract ".toList else []) ++
    kind.keyword.toList ++ ' ' :: (name.toList ++
      ((typeParameters.getD "").toList ++ [' ']))

/-- What the line of a type tells beside its kind, name and parameters: is it
abstract, and which of its modifiers are stereotypes? -/
def readTypeLine (kind : TypeKind) (name : String)
    (typeParameters : Option String) (line : List Char) :
    Bool × List Modifier :=
  let isAbstract := "abstract ".toList.isPrefixOf line
  let front := typeFront isAbstract kind name typeParameters
  (isAbstract, (readFlags stereotype (line.drop front.length)).1)

theorem toList_typeLine_eq (header : TypeHeader) :
    (typeLine header).toList =
      typeFront (header.modifiers.contains .abstractWord) header.kind
          header.name header.typeParameters ++
        ((typeFlags header.modifiers).toList ++ ['\x7b']) := by
  rw [toList_typeLine, typeKeyword, typeFront]
  cases header.modifiers.contains .abstractWord <;> simp

/-- The keyword of a type does not begin like an abstract one. -/
theorem isPrefixOf_typeFront (isAbstract : Bool) (kind : TypeKind)
    (name : String) (typeParameters : Option String) (rest : List Char) :
    "abstract ".toList.isPrefixOf
      (typeFront isAbstract kind name typeParameters ++ rest) =
        isAbstract := by
  cases isAbstract with
  | true =>
      rw [List.isPrefixOf_iff_prefix, typeFront, if_pos rfl,
        List.append_assoc, List.append_assoc]
      exact List.prefix_append _ _
  | false =>
      cases kind <;> rfl

theorem readTypeLine_typeLine (header : TypeHeader) :
    readTypeLine header.kind header.name header.typeParameters
        (typeLine header).toList =
      (header.modifiers.contains .abstractWord,
        header.modifiers.filter showsOnType) := by
  have noFlag : ∀ modifier, ¬ (stereotype modifier).toList <+: ['\x7b'] := by
    intro modifier
    cases modifier <;> decide
  rw [readTypeLine, toList_typeLine_eq, isPrefixOf_typeFront,
    List.drop_left, typeFlags, stereotype_isCode.readFlags_join noFlag]

/-- The front of a member line tells the modifiers and the name of the
method, whatever they are, and the line of a type tells whether it is abstract
and all its modifiers beside visibility, if its kind, name and parameters are
known. -/
theorem lines_tell_modifiers :
    (∀ declared : Method, IsWordText declared.name.toList →
      readMemberFront (memberFront declared) =
        (declared.modifiers, declared.name)) ∧
    (∀ left right : Method, IsWordText left.name.toList →
      IsWordText right.name.toList →
        memberFront left = memberFront right →
          left.modifiers = right.modifiers ∧ left.name = right.name) ∧
    ∀ header : TypeHeader,
      readTypeLine header.kind header.name header.typeParameters
          (typeLine header).toList =
        (header.modifiers.contains .abstractWord,
          header.modifiers.filter fun modifier =>
            !modifier.isVisibility && modifier != .abstractWord) := by
  refine ⟨fun declared named => readMemberFront_memberFront named, ?_,
    readTypeLine_typeLine⟩
  intro left right leftNamed rightNamed same
  have leftRead := readMemberFront_memberFront leftNamed
  rw [same, readMemberFront_memberFront rightNamed] at leftRead
  exact ⟨(congrArg Prod.fst leftRead).symm, (congrArg Prod.snd leftRead).symm⟩

def repeatedFlags : Method where
  name := "@new"
  returnType := "T(int)"
  modifiers := [.staticWord, .newWord, .publicWord, .publicWord]

def overloadedFlags : Method :=
  { repeatedFlags with returnType := "void", parameters := [⟨"x", "int"⟩] }

/-- All modifiers are read off the line, and the name is no modifier.  What is
written in front of the parenthesis is all that the two methods share. -/
theorem repeatedFlags_told :
    methodLine repeatedFlags =
        "\x7bstatic\x7d <<new>> + +@new() : T(int)" ∧
      methodLine overloadedFlags =
        "\x7bstatic\x7d <<new>> + +@new(x:int) : void" ∧
      IsWordText repeatedFlags.name.toList ∧
      readMemberFront (memberFront repeatedFlags) =
        ([.staticWord, .newWord, .publicWord, .publicWord], "@new") ∧
      memberFront repeatedFlags = memberFront overloadedFlags ∧
      repeatedFlags.modifiers = overloadedFlags.modifiers := by
  have named : IsWordText repeatedFlags.name.toList :=
    .inr ⟨['n', 'e', 'w'], rfl, by decide +kernel⟩
  have same : memberFront repeatedFlags = memberFront overloadedFlags := by
    decide +kernel
  obtain ⟨front, unique, -⟩ := lines_tell_modifiers
  exact ⟨by decide +kernel, by decide +kernel, named,
    front repeatedFlags named, same,
    (unique repeatedFlags overloadedFlags named named same).1⟩

end ClassDiagram
