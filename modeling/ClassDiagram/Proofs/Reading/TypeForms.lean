import ClassDiagram.Proofs.Reading.LocalTypes
import ClassDiagram.Proofs.Reading.Steps

/-!
# Written types

The tokens of a type as it is written: a name of several parts with type
arguments, or a tuple, and suffixes behind it.  A type is skipped whole where
a word follows it, as the name of a member or of a parameter does.
-/

namespace ClassDiagram.Reading

open Source (Token Lexeme)

/-! ## Type arguments -/

/-- Angle brackets are nested, and nothing that ends type arguments is among
the tokens. -/
inductive NestedAngles : List Token → Prop
  | nil : NestedAngles []
  | inner {token : Token} {rest : List Token}
      (notOpening : token.isMark '<' = false)
      (notClosing : token.isMark '>' = false)
      (notEnding : endsTypeArguments token = false)
      (nested : NestedAngles rest) :
      NestedAngles (token :: rest)
  | group {opening closing : Token} {inner rest : List Token}
      (opens : opening.isMark '<' = true)
      (closes : closing.isMark '>' = true)
      (inside : NestedAngles inner) (nested : NestedAngles rest) :
      NestedAngles (opening :: (inner ++ closing :: rest))

theorem NestedAngles.passesAngles {tokens : List Token}
    (nested : NestedAngles tokens) : PassesAngles tokens := by
  induction nested with
  | nil => exact passesAngles_nil
  | inner notOpening notClosing notEnding nested inductionHypothesis =>
      intro depth rest
      rw [List.cons_append,
        afterAngles?_inner depth _ notOpening notClosing notEnding]
      exact inductionHypothesis depth rest
  | group opens closes inside nested insideHypothesis behindHypothesis =>
      intro depth rest
      rw [List.cons_append, List.append_assoc, List.cons_append,
        afterAngles?_opening depth _ opens, insideHypothesis,
        afterAngles?_closing_succ depth _ closes]
      exact behindHypothesis depth rest

/-- Type arguments in angle brackets, or nothing. -/
inductive AreArguments : List Token → Prop
  | absent : AreArguments []
  | present {opening closing : Token} {inner : List Token}
      (opens : opening.isMark '<' = true)
      (closes : closing.isMark '>' = true)
      (nested : NestedAngles inner) :
      AreArguments (opening :: (inner ++ [closing]))

namespace AreArguments

variable {arguments : List Token}

/-- Behind the bracket that opens them, arguments close where they end. -/
theorem afterAngles?_eq {closing : Token} {inner : List Token}
    (closes : closing.isMark '>' = true) (nested : NestedAngles inner)
    (rest : List Token) :
    afterAngles? 0 (inner ++ [closing] ++ rest) = some rest := by
  rw [List.append_assoc, List.singleton_append, nested.passesAngles]
  exact afterAngles?_closing_zero rest closes

theorem skipAngles_eq (are : AreArguments arguments) {rest : List Token}
    (behind : atMark '<' rest = false) :
    skipAngles (arguments ++ rest) = rest := by
  cases are with
  | absent => exact skipAngles_none behind
  | present opens closes nested =>
      exact skipAngles_closed opens (afterAngles?_eq closes nested rest)

/-- No bracket is open that nothing closes. -/
theorem closed (are : AreArguments arguments) {rest : List Token}
    (behind : atMark '<' rest = false) :
    (atMark '<' (arguments ++ rest) &&
      (afterAngles? 0 (arguments ++ rest).tail).isNone) = false := by
  cases are with
  | absent => rw [List.nil_append, behind, Bool.false_and]
  | present opens closes nested =>
      rw [List.cons_append, List.tail_cons, afterAngles?_eq closes nested]
      exact Bool.and_false _

theorem continuesType_eq (are : AreArguments arguments) {rest : List Token}
    (behind : atMark '<' rest = false) :
    continuesType (arguments ++ rest) = followsTypePart rest := by
  cases are with
  | absent => exact continuesType_of_noAngle behind
  | present opens closes nested =>
      rw [List.cons_append, continuesType_of_angle opens,
        afterAngles?_eq closes nested]
      rfl

end AreArguments

/-! ## Names -/

theorem word?_of_plainWord? {token : Token} {text : String}
    (named : plainWord? token = some text) : word? token = some text :=
  (Option.filter_eq_some_iff.1 named).1

theorem isAnyWord_of_plainWord? {token : Token} {text : String}
    (named : plainWord? token = some text) : token.isAnyWord = true :=
  isAnyWord_of_word? (word?_of_plainWord? named)

/-- What stands behind the first part of a name: its arguments, and further
parts with theirs. -/
inductive IsNameTail : List Token → Prop
  | last {arguments : List Token} (are : AreArguments arguments) :
      IsNameTail arguments
  | dotted {arguments tail : List Token} {dot part : Token}
      (are : AreArguments arguments) (isDot : dot.isMark '.' = true)
      (isPart : part.isAnyWord = true) (further : IsNameTail tail) :
      IsNameTail (arguments ++ dot :: part :: tail)

def endsName : List Token → Bool
  | [] => false
  | next :: _ =>
      next.isAnyWord || next.isMark '?' || next.isMark '[' || next.isMark '*'

section EndsName

variable {rest : List Token}

theorem followsTypePart_of_endsName (ends : endsName rest = true) :
    followsTypePart rest = true := by
  cases rest with
  | nil => cases ends
  | cons next behind =>
      simp only [endsName, Bool.or_eq_true] at ends
      simp only [followsTypePart, Bool.or_eq_true]
      tauto

/-- Only what may end a name stands behind it. -/
theorem atMark_of_endsName (ends : endsName rest = true) {c : Char}
    (other : c ≠ '?' ∧ c ≠ '[' ∧ c ≠ '*') : atMark c rest = false := by
  cases rest with
  | nil => cases ends
  | cons next behind =>
      simp only [endsName, Bool.or_eq_true] at ends
      rcases ends with ((isWord | mark) | mark) | mark
      · exact isMark_eq_false_of_isAnyWord isWord c
      · exact isMark_unique mark (Ne.symm other.1)
      · exact isMark_unique mark (Ne.symm other.2.1)
      · exact isMark_unique mark (Ne.symm other.2.2)

theorem afterQualifier?_of_endsName (ends : endsName rest = true) :
    afterQualifier? rest = none := by
  have noDot := atMark_of_endsName ends (c := '.') (by decide)
  have noColon := atMark_of_endsName ends (c := ':') (by decide)
  cases rest with
  | nil => cases ends
  | cons next behind => exact afterQualifier?_of_first behind noDot noColon

end EndsName

namespace IsNameTail

variable {tail rest : List Token}

/-- A dotted part continues the type if this tail follows it. -/
theorem continuesType_eq (isTail : IsNameTail tail)
    (ends : endsName rest = true) : continuesType (tail ++ rest) = true := by
  cases isTail with
  | last are =>
      rw [are.continuesType_eq (atMark_of_endsName ends (by decide))]
      exact followsTypePart_of_endsName ends
  | @dotted arguments tail dot part are isDot isPart further =>
      have noAngle : atMark '<' (dot :: part :: (tail ++ rest)) = false :=
        isMark_unique isDot (by decide)
      rw [List.append_assoc, List.cons_append, List.cons_append,
        are.continuesType_eq noAngle]
      simp [followsTypePart, isDot]

/-- A name is skipped to its end. -/
theorem skipNameParts_eq (isTail : IsNameTail tail)
    (ends : endsName rest = true) : skipNameParts (tail ++ rest) = rest := by
  induction isTail with
  | last are =>
      have noAngle := atMark_of_endsName ends (c := '<') (by decide)
      have skipped := are.skipAngles_eq noAngle
      rw [skipNameParts_unqualified (are.closed noAngle), skipped]
      rw [skipped]
      exact afterQualifier?_of_endsName ends
  | @dotted arguments tail dot part are isDot isPart further
      inductionHypothesis =>
      have noAngle : atMark '<' (dot :: part :: (tail ++ rest)) = false :=
        isMark_unique isDot (by decide)
      have qualified : afterQualifier? (dot :: part :: (tail ++ rest)) =
          some (tail ++ rest) := by
        rw [afterQualifier?_dot (by rw [isDot, isPart]; rfl),
          if_pos (further.continuesType_eq ends)]
      rw [List.append_assoc, List.cons_append, List.cons_append,
        skipNameParts_qualified (are.closed noAngle)
          (by rw [are.skipAngles_eq noAngle, qualified])]
      exact inductionHypothesis

end IsNameTail

/-- A name that begins with none of these words; two colons may stand behind
its first part. -/
inductive IsTypeName (words : List String) : List Token → Prop
  | plain {first : Token} {text : String} {tail : List Token}
      (named : plainWord? first = some text) (free : text ∉ words)
      (isTail : IsNameTail tail) :
      IsTypeName words (first :: tail)
  | aliased {first colon second part : Token} {text : String}
      {tail : List Token}
      (named : plainWord? first = some text) (free : text ∉ words)
      (isColon : colon.isMark ':' = true) (isSecond : second.isMark ':' = true)
      (isPart : part.isAnyWord = true) (isTail : IsNameTail tail) :
      IsTypeName words (first :: colon :: second :: part :: tail)

namespace IsTypeName

variable {words : List String} {name rest : List Token}

/-- Behind its first word, a name is skipped to its end. -/
theorem exists_skipNameParts (isName : IsTypeName words name) :
    ∃ first text behind, name = first :: behind ∧
      plainWord? first = some text ∧ text ∉ words ∧
      ∀ rest, endsName rest = true →
        skipNameParts (behind ++ rest) = rest := by
  cases isName with
  | @plain first text tail named free isTail =>
      exact ⟨first, text, tail, rfl, named, free,
        fun _ => isTail.skipNameParts_eq⟩
  | @aliased first colon second part text tail named free isColon isSecond
      isPart isTail =>
      refine ⟨first, text, colon :: second :: part :: tail, rfl, named, free,
        fun rest ends => ?_⟩
      have noAngle :
          atMark '<' (colon :: second :: part :: (tail ++ rest)) = false :=
        isMark_unique isColon (by decide)
      have noDot : (colon.isMark '.' && second.isAnyWord) = false := by
        rw [isMark_unique isColon (by decide), Bool.false_and]
      have qualified :
          afterQualifier? (colon :: second :: part :: (tail ++ rest)) =
            some (tail ++ rest) := by
        rw [afterQualifier?_colons noDot (by rw [isColon, isSecond]; rfl)]
        exact if_pos isPart
      rw [List.cons_append, List.cons_append, List.cons_append,
        skipNameParts_qualified (by rw [noAngle, Bool.false_and])
          (by rw [skipAngles_none noAngle, qualified])]
      exact isTail.skipNameParts_eq ends

end IsTypeName

/-! ## Suffixes -/

/-- Question marks, asterisks and brackets with commas between them. -/
inductive AreSuffixes : List Token → Prop
  | none : AreSuffixes []
  | mark {token : Token} {suffixes : List Token}
      (isMark : (token.isMark '?' || token.isMark '*') = true)
      (further : AreSuffixes suffixes) :
      AreSuffixes (token :: suffixes)
  | array {opening closing : Token} {commas suffixes : List Token}
      (opens : opening.isMark '[' = true)
      (separate : ∀ comma ∈ commas, comma.isMark ',' = true)
      (closes : closing.isMark ']' = true)
      (further : AreSuffixes suffixes) :
      AreSuffixes (opening :: (commas ++ closing :: suffixes))

theorem closer?_of_isMark {token : Token} {c : Char}
    (isMark : token.isMark c = true) : closer? token = closingMark? c := by
  simp only [Token.isMark, beq_iff_eq] at isMark
  rw [closer?, isMark]

theorem closing?_of_isMark {token : Token} {c : Char}
    (isMark : token.isMark c = true) :
    closing? token = if isClosingMark c then some c else none := by
  simp only [Token.isMark, beq_iff_eq] at isMark
  rw [closing?, isMark]

theorem nested_of_commas {commas : List Token}
    (separate : ∀ comma ∈ commas, comma.isMark ',' = true) :
    Nested commas := by
  induction commas with
  | nil => exact .nil
  | cons comma others inductionHypothesis =>
      obtain ⟨isComma, areCommas⟩ := List.forall_mem_cons.1 separate
      exact .neutral (closer?_of_isMark isComma) (closing?_of_isMark isComma)
        (inductionHypothesis areCommas)

namespace AreSuffixes

variable {suffixes rest : List Token}

theorem endsName_append (are : AreSuffixes suffixes)
    (behind : atAnyWord rest = true) : endsName (suffixes ++ rest) = true := by
  cases are with
  | none =>
      cases rest with
      | nil => cases behind
      | cons next others =>
          have isWord : next.isAnyWord = true := behind
          simp [endsName, isWord]
  | mark isMark further =>
      rw [Bool.or_eq_true] at isMark
      rcases isMark with isMark | isMark <;> simp [endsName, isMark]
  | array opens separate closes further => simp [endsName, opens]

theorem skipTypeSuffixes_eq (are : AreSuffixes suffixes)
    (behind : atAnyWord rest = true) :
    skipTypeSuffixes (suffixes ++ rest) = .ok rest := by
  induction are with
  | none =>
      cases rest with
      | nil => cases behind
      | cons next others =>
          have noMark : ∀ c, next.isMark c = false :=
            isMark_eq_false_of_isAnyWord behind
          apply skipTypeSuffixes_none
          · simp [atSuffixMark, atMark, noMark]
          · simp [atArraySuffix_cons, noMark]
  | mark isMark further inductionHypothesis =>
      rw [List.cons_append, skipTypeSuffixes_mark isMark]
      exact inductionHypothesis
  | @array opening closing commas suffixes opens separate closes further
      inductionHypothesis =>
      have noMark : (opening.isMark '?' || opening.isMark '*') = false := by
        rw [isMark_unique opens (by decide), isMark_unique opens (by decide)]
        rfl
      have isArray : atArraySuffix
          (opening :: (commas ++ closing :: (suffixes ++ rest))) = true := by
        rw [atArraySuffix_cons, opens, Bool.true_and, Bool.or_eq_true]
        cases commas with
        | nil => exact .inl closes
        | cons comma others => exact .inr (separate comma List.mem_cons_self)
      have skipped : skipGroup ']' (commas ++ closing :: (suffixes ++ rest)) =
          .ok (suffixes ++ rest) :=
        (nested_of_commas separate).skipGroup_eq
          (closing?_of_isMark closes) _
      rw [List.cons_append, List.append_assoc, List.cons_append,
        skipTypeSuffixes_array noMark isArray skipped]
      exact inductionHypothesis

end AreSuffixes

/-! ## Types -/

/-- A type that begins with none of these words: a name or a tuple, with
suffixes behind it. -/
inductive IsBareType (words : List String) : List Token → Prop
  | named {name suffixes : List Token} (isName : IsTypeName words name)
      (are : AreSuffixes suffixes) :
      IsBareType words (name ++ suffixes)
  | tuple {opening closing : Token} {inner suffixes : List Token}
      (opens : opening.isMark '(' = true) (nested : Nested inner)
      (closes : closing.isMark ')' = true) (are : AreSuffixes suffixes) :
      IsBareType words (opening :: (inner ++ closing :: suffixes))

namespace IsBareType

variable {words : List String} {tokens rest : List Token}

/-- What a type begins with. -/
theorem exists_first (isType : IsBareType words tokens) :
    ∃ first behind, tokens = first :: behind ∧
      (first.isMark '(' = true ∨
        ∃ text, plainWord? first = some text ∧ text ∉ words) := by
  cases isType with
  | named isName are =>
      obtain ⟨first, text, behind, rfl, named, free, _⟩ :=
        isName.exists_skipNameParts
      exact ⟨first, _, rfl, .inr ⟨text, named, free⟩⟩
  | tuple opens nested closes are => exact ⟨_, _, rfl, .inl opens⟩

theorem atWord_eq_false (isType : IsBareType words tokens) {text : String}
    (reserved : text ∈ words) (rest : List Token) :
    atWord text (tokens ++ rest) = false := by
  obtain ⟨first, behind, rfl, parenthesis | ⟨word, named, free⟩⟩ :=
    isType.exists_first
  · exact isWord_of_noWord (word?_of_isMark parenthesis) text
  · have isText := word?_of_plainWord? named
    have other : word ≠ text := by
      rintro rfl
      exact free reserved
    change first.isWord text = false
    rw [isWord_eq isText, beq_eq_false_iff_ne]
    exact other

theorem skipBareType?_eq (isType : IsBareType words tokens)
    (behind : atAnyWord rest = true) :
    skipBareType? (tokens ++ rest) = .ok (some rest) := by
  cases isType with
  | @named name suffixes isName are =>
      obtain ⟨first, text, parts, rfl, named, _, skips⟩ :=
        isName.exists_skipNameParts
      have noTuple : first.isMark '(' = false :=
        isMark_eq_false_of_isAnyWord (isAnyWord_of_plainWord? named) '('
      rw [List.append_assoc, List.cons_append, skipBareType?, noTuple, named,
        skips _ (are.endsName_append behind),
        are.skipTypeSuffixes_eq behind]
      rfl
  | @tuple opening closing inner suffixes opens nested closes are =>
      have skipped : skipGroup ')' (inner ++ closing :: (suffixes ++ rest)) =
          .ok (suffixes ++ rest) :=
        nested.skipGroup_eq (closing?_of_isMark closes) _
      rw [List.cons_append, List.append_assoc, List.cons_append,
        skipBareType?, if_pos opens, skipped]
      simp only [are.skipTypeSuffixes_eq behind]
      rfl

theorem skipType?_eq (isType : IsBareType words tokens)
    (reserved : "ref" ∈ words) (behind : atAnyWord rest = true) :
    skipType? (tokens ++ rest) = .ok (some rest) := by
  rw [Reading.skipType?_eq,
    skipReferenceWords_absent (isType.atWord_eq_false reserved rest)]
  exact isType.skipBareType?_eq behind

end IsBareType

/-- The words that begin other members, or stand in front of their types. -/
def memberWords : List String :=
  Modifier.all.map Modifier.keyword ++ TypeKind.all.map TypeKind.keyword ++
    ["enum"]

/-- A type that a member has or returns, which may be returned by
reference. -/
inductive IsMemberType : List Token → Prop
  | value {tokens : List Token} (isType : IsBareType memberWords tokens) :
      IsMemberType tokens
  | reference {refWord : Token} {tokens : List Token}
      (isRef : refWord.isWord "ref" = true)
      (isType : IsBareType memberWords tokens) :
      IsMemberType (refWord :: tokens)
  | readonlyReference {refWord readonlyWord : Token} {tokens : List Token}
      (isRef : refWord.isWord "ref" = true)
      (isReadonly : readonlyWord.isWord "readonly" = true)
      (isType : IsBareType memberWords tokens) :
      IsMemberType (refWord :: readonlyWord :: tokens)

/-- The type of a member is skipped whole in front of the member's name. -/
theorem IsMemberType.skipType?_eq {tokens rest : List Token}
    (isType : IsMemberType tokens) (behind : atAnyWord rest = true) :
    skipType? (tokens ++ rest) = .ok (some rest) := by
  cases isType with
  | value isType => exact isType.skipType?_eq (by decide) behind
  | @reference refWord tokens isRef isType =>
      have noReadonly : atWord "readonly" (tokens ++ rest) = false :=
        isType.atWord_eq_false (by decide) rest
      rw [Reading.skipType?_eq, List.cons_append, skipReferenceWords,
        if_pos isRef, skipWord_absent noReadonly]
      exact isType.skipBareType?_eq behind
  | @readonlyReference refWord readonlyWord tokens isRef isReadonly isType =>
      rw [Reading.skipType?_eq, List.cons_append, skipReferenceWords,
        if_pos isRef, List.cons_append, skipWord, if_pos isReadonly]
      exact isType.skipBareType?_eq behind

end ClassDiagram.Reading
