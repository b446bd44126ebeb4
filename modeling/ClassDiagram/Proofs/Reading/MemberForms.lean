import ClassDiagram.Proofs.Reading.LocalMembers
import ClassDiagram.Proofs.Reading.TypeForms

/-!
# Written members up to their names

A member that has a type begins with modifiers and the type, and its name
follows.  All of it is read, unless the last modifier is one only in front of
a word and the type is a tuple: then the modifier is taken for a type, and
the member is left out from the tuple on.
-/

namespace ClassDiagram.Reading

open Source (Token Lexeme)

/-! ## What a type begins with -/

/-- The tokens begin neither with a modifier nor with a word that declares a
type, and they do not end the body around. -/
structure BeginsTyped (tokens : List Token) : Prop where
  noModifier : nextModifier? tokens = none
  noKind : nextKind? tokens = none
  noEnum : atWord "enum" tokens = false
  inside : atEnd tokens = false
  noSeparator : atMark ';' tokens = false
  noAttribute : atMark '[' tokens = false

theorem BeginsTyped.noClosing {tokens : List Token}
    (begins : BeginsTyped tokens) : atMark '\x7d' tokens = false := by
  have inside := begins.inside
  cases tokens with
  | nil => rfl
  | cons token rest => exact inside

theorem beginsTyped_of_mark {first : Token} {c : Char}
    (isMark : first.isMark c = true)
    (other : c ≠ '\x7d' ∧ c ≠ ';' ∧ c ≠ '[') (rest : List Token) :
    BeginsTyped (first :: rest) := by
  have noWord := word?_of_isMark isMark
  exact
    { noModifier := modifier?_of_noWord noWord rest
      noKind := declaredKind?_of_noWord noWord rest
      noEnum := isWord_of_noWord noWord "enum"
      inside := isMark_unique isMark other.1
      noSeparator := isMark_unique isMark other.2.1
      noAttribute := isMark_unique isMark other.2.2 }

theorem ofKeyword?_eq_none {text : String} (free : text ∉ memberWords) :
    Modifier.ofKeyword? text = none ∧ TypeKind.ofKeyword? text = none ∧
      text ≠ "enum" := by
  simp only [memberWords, List.mem_append, List.mem_map, List.mem_singleton,
    not_or, not_exists, not_and] at free
  obtain ⟨⟨noModifier, noKind⟩, noEnum⟩ := free
  refine ⟨?_, ?_, noEnum⟩
  · rw [Modifier.ofKeyword?, List.find?_eq_none]
    intro modifier member
    rw [beq_iff_eq]
    exact noModifier modifier member
  · rw [TypeKind.ofKeyword?, List.find?_eq_none]
    intro kind member
    rw [beq_iff_eq]
    exact noKind kind member

theorem beginsTyped_of_free {first : Token} {text : String}
    (isText : word? first = some text) (free : text ∉ memberWords)
    (rest : List Token) : BeginsTyped (first :: rest) := by
  obtain ⟨noModifier, noKind, noEnum⟩ := ofKeyword?_eq_none free
  have noMark := isMark_eq_false_of_isAnyWord (isAnyWord_of_word? isText)
  exact
    { noModifier := by
        rw [nextModifier?, modifier?, isText, Option.bind_some, noModifier]
        rfl
      noKind := by
        rw [nextKind?, declaredKind?, isText, Option.bind_some, noKind]
        rfl
      noEnum := by
        have notEnum : first.isWord "enum" = false := by
          rw [isWord_eq isText, beq_eq_false_iff_ne]
          exact noEnum
        exact notEnum
      inside := noMark '\x7d'
      noSeparator := noMark ';'
      noAttribute := noMark '[' }

/-- The words of a reference are no modifier in front of a type. -/
theorem beginsTyped_of_ref {first : Token} {rest : List Token}
    (isRef : first.isWord "ref" = true)
    (noStruct : atWord "struct" rest = false)
    (noPartial : atWord "partial" rest = false) :
    BeginsTyped (first :: rest) := by
  have noMark := isMark_eq_false_of_isWord isRef
  have isText := word?_of_isWord isRef
  exact
    { noModifier := by
        have refused : acceptsModifier .refWord rest = false := by
          rw [acceptsModifier_refWord, noStruct, noPartial]
          rfl
        rw [nextModifier?, modifier?, isText, Option.bind_some]
        change (some Modifier.refWord).filter _ = none
        rw [Option.filter_some, refused]
        rfl
      noKind := by
        rw [nextKind?, declaredKind?, isText]
        rfl
      noEnum := by
        have notEnum : first.isWord "enum" = false := by
          rw [isWord_eq isText]
          rfl
        exact notEnum
      inside := noMark '\x7d'
      noSeparator := noMark ';'
      noAttribute := noMark '[' }

theorem IsBareType.beginsTyped {tokens : List Token}
    (isType : IsBareType memberWords tokens) (rest : List Token) :
    BeginsTyped (tokens ++ rest) := by
  obtain ⟨first, behind, rfl, parenthesis | ⟨text, named, free⟩⟩ :=
    isType.exists_first
  · exact beginsTyped_of_mark parenthesis (by decide) _
  · exact beginsTyped_of_free (word?_of_plainWord? named) free _

theorem IsMemberType.beginsTyped {tokens : List Token}
    (isType : IsMemberType tokens) (rest : List Token) :
    BeginsTyped (tokens ++ rest) := by
  cases isType with
  | value isType => exact isType.beginsTyped rest
  | reference isRef isType =>
      exact beginsTyped_of_ref isRef
        (isType.atWord_eq_false (by decide) rest)
        (isType.atWord_eq_false (by decide) rest)
  | @readonlyReference refWord readonlyWord tokens isRef isReadonly isType =>
      have otherWord : ∀ text : String, text ≠ "readonly" →
          readonlyWord.isWord text = false := by
        intro text other
        rw [isWord_eq (word?_of_isWord isReadonly), beq_eq_false_iff_ne]
        exact other.symm
      exact beginsTyped_of_ref isRef (otherWord _ (by decide))
        (otherWord _ (by decide))

/-! ## Types are no constructors -/

section

variable {words : List String} {tokens rest : List Token}

theorem IsNameTail.atMark_eq_false (isTail : IsNameTail tokens)
    (ends : endsName rest = true) : atMark '(' (tokens ++ rest) = false := by
  have behind : ∀ {arguments others : List Token}, AreArguments arguments →
      atMark '(' others = false → atMark '(' (arguments ++ others) = false := by
    intro arguments others are noParenthesis
    cases are with
    | absent => exact noParenthesis
    | present opens closes nested => exact isMark_unique opens (by decide)
  cases isTail with
  | last are => exact behind are (atMark_of_endsName ends (by decide))
  | dotted are isDot isPart further =>
      rw [List.append_assoc]
      exact behind are (isMark_unique isDot (by decide))

/-- No parenthesis stands behind the first word of a type. -/
theorem IsBareType.isConstructor_eq_false (isType : IsBareType words tokens)
    (behind : atAnyWord rest = true) (enclosing : Option String) :
    isConstructor enclosing (tokens ++ rest) = false := by
  cases isType with
  | @named name suffixes isName are =>
      have noTilde : ∀ {first : Token} {text : String},
          plainWord? first = some text → first.isMark '~' = false :=
        fun named =>
          isMark_eq_false_of_isAnyWord (isAnyWord_of_plainWord? named) '~'
      cases isName with
      | plain named free isTail =>
          have noParenthesis :=
            isTail.atMark_eq_false (are.endsName_append behind)
          rw [List.append_assoc, List.cons_append, isConstructor_cons,
            noTilde named, noParenthesis, Bool.and_false, Bool.or_false]
      | @aliased first colon second part text tail named free isColon isSecond
          isPart isTail =>
          have noParenthesis : atMark '('
              (colon :: second :: part :: tail ++ (suffixes ++ rest)) =
                false := isMark_unique isColon (by decide)
          rw [List.append_assoc, List.cons_append, isConstructor_cons,
            noTilde named, noParenthesis, Bool.and_false, Bool.or_false]
  | @tuple opening closing inner suffixes opens nested closes are =>
      have noWord := isWord_of_noWord (word?_of_isMark opens)
      have noTilde : opening.isMark '~' = false :=
        isMark_unique opens (by decide)
      rw [List.cons_append, isConstructor_cons, noTilde]
      cases enclosing <;> simp [noWord]

/-- A reference to a tuple has the word of references in front of a
parenthesis. -/
def isTupleReference (tokens : List Token) : Bool :=
  atWord "ref" tokens && atMark '(' tokens.tail

/-- A reference is a constructor just to a tuple and where the type around has
its word for a name. -/
theorem IsMemberType.isConstructor_eq_false (isType : IsMemberType tokens)
    (behind : atAnyWord rest = true) {enclosing : Option String}
    (noTuple : (enclosing == some "ref" && isTupleReference tokens) = false) :
    isConstructor enclosing (tokens ++ rest) = false := by
  cases isType with
  | value isType => exact isType.isConstructor_eq_false behind enclosing
  | @reference refWord tokens isRef isType =>
      have noTilde := isMark_eq_false_of_isWord isRef '~'
      have isText := word?_of_isWord isRef
      have sameMark : atMark '(' (tokens ++ rest) = atMark '(' tokens := by
        obtain ⟨first, others, rfl, -⟩ := isType.exists_first
        rfl
      rw [isTupleReference, List.tail_cons] at noTuple
      rw [List.cons_append, isConstructor_cons, noTilde, sameMark]
      cases enclosing with
      | none => rfl
      | some name =>
          have atRef : atWord "ref" (refWord :: tokens) = true := isRef
          rw [atRef, Bool.true_and] at noTuple
          rw [Option.any_some, isWord_eq isText, Bool.false_or,
            Bool.beq_comm]
          exact noTuple
  | @readonlyReference refWord readonlyWord tokens isRef isReadonly isType =>
      have noTilde := isMark_eq_false_of_isWord isRef '~'
      have noParenthesis :
          atMark '(' (readonlyWord :: tokens ++ rest) = false :=
        isMark_eq_false_of_isWord isReadonly '('
      rw [List.cons_append, isConstructor_cons, noTilde, noParenthesis,
        Bool.and_false, Bool.or_false]

theorem isConstructor_of_isTupleReference
    (isTuple : isTupleReference tokens = true) (rest : List Token) :
    isConstructor (some "ref") (tokens ++ rest) = true := by
  rw [isTupleReference, Bool.and_eq_true] at isTuple
  cases tokens with
  | nil => cases isTuple.1
  | cons refWord behind =>
      obtain ⟨opening, others, rfl, opens⟩ := exists_of_atMark isTuple.2
      have isRef : refWord.isWord "ref" = true := isTuple.1
      have atParenthesis : atMark '(' (opening :: others ++ rest) = true :=
        opens
      rw [List.cons_append, isConstructor_cons, Option.any_some, isRef,
        atParenthesis, Bool.true_and, Bool.or_true]

end

/-! ## Modifiers -/

/-- The last modifier is one only in front of a word. -/
def endsContextual (modifiers : List Modifier) : Bool :=
  modifiers.getLast?.any Modifier.isContextual

/-- The words of modifiers, if there are any. -/
theorem atAnyWord_of_written {modifiers : List Modifier}
    {tokens : List Token}
    (written : tokens.map Token.lexeme =
      modifiers.map fun modifier => .word modifier.keyword)
    (nonempty : modifiers ≠ []) (rest : List Token) :
    atAnyWord (tokens ++ rest) = true := by
  cases modifiers with
  | nil => exact absurd rfl nonempty
  | cons modifier others =>
      cases tokens with
      | nil => cases written
      | cons token further =>
          rw [List.map_cons, List.map_cons, List.cons.injEq] at written
          change token.isAnyWord = true
          rw [Token.isAnyWord, written.1]

theorem atMark_of_written {modifiers : List Modifier}
    {tokens rest : List Token}
    (written : tokens.map Token.lexeme =
      modifiers.map fun modifier => .word modifier.keyword)
    {c : Char} (behind : atMark c rest = false) :
    atMark c (tokens ++ rest) = false := by
  cases tokens with
  | nil => exact behind
  | cons token others =>
      have nonempty : modifiers ≠ [] := by
        rintro rfl
        cases written
      exact isMark_eq_false_of_isAnyWord
        (atAnyWord_of_written written nonempty rest) c

theorem exists_of_endsContextual {modifiers : List Modifier}
    {tokens : List Token}
    (written : tokens.map Token.lexeme =
      modifiers.map fun modifier => .word modifier.keyword)
    (contextual : endsContextual modifiers = true) :
    ∃ earlier last earlierTokens lastToken,
      modifiers = earlier ++ [last] ∧ last.isContextual = true ∧
      tokens = earlierTokens ++ [lastToken] ∧
      earlierTokens.map Token.lexeme =
        earlier.map (fun modifier => .word modifier.keyword) ∧
      word? lastToken = some last.keyword := by
  rw [endsContextual, Option.any_eq_true] at contextual
  obtain ⟨last, isLast, isContextual⟩ := contextual
  obtain ⟨earlier, rfl⟩ := List.getLast?_eq_some_iff.1 isLast
  rw [List.map_append, List.map_eq_append_iff] at written
  obtain ⟨earlierTokens, lastTokens, rfl, writtenEarlier, writtenLast⟩ :=
    written
  obtain ⟨lastToken, rfl, isWord⟩ := List.map_eq_singleton_iff.1 writtenLast
  refine ⟨earlier, last, earlierTokens, lastToken, rfl, isContextual, rfl,
    writtenEarlier, ?_⟩
  rw [word?, isWord]

theorem acceptsModifier_eq {modifier : Modifier} (plain : modifier ≠ .refWord)
    (rest : List Token) :
    acceptsModifier modifier rest =
      (!modifier.isContextual || atAnyWord rest) := by
  cases modifier <;> first | rfl | exact absurd rfl plain

/-- The word of a modifier is one where it is accepted. -/
theorem nextModifier?_of_word? {modifier : Modifier} {token : Token}
    (isText : word? token = some modifier.keyword) (rest : List Token) :
    nextModifier? (token :: rest) =
      if acceptsModifier modifier rest then some modifier else none := by
  rw [nextModifier?, modifier?, isText, Option.bind_some,
    Modifier.ofKeyword?_keyword, Option.filter_some]

/-- All modifiers are read if the last one is a modifier where it stands. -/
theorem readModifiers_written {modifiers : List Modifier}
    {tokens rest : List Token}
    (written : tokens.map Token.lexeme =
      modifiers.map fun modifier => .word modifier.keyword)
    (plain : Modifier.refWord ∉ modifiers)
    (accepted : endsContextual modifiers = true → atAnyWord rest = true)
    (noModifier : nextModifier? rest = none) :
    readModifiers (tokens ++ rest) = (modifiers, rest) := by
  induction modifiers generalizing tokens with
  | nil =>
      rw [List.map_nil, List.map_eq_nil_iff] at written
      subst written
      exact readModifiers_none noModifier
  | cons modifier others inductionHypothesis =>
      cases tokens with
      | nil => cases written
      | cons token tokens =>
          rw [List.map_cons, List.map_cons, List.cons.injEq] at written
          obtain ⟨isWord, writtenOthers⟩ := written
          rw [List.mem_cons, not_or] at plain
          have isText : word? token = some modifier.keyword := by
            rw [word?, isWord]
          have accepts : acceptsModifier modifier (tokens ++ rest) = true := by
            rw [acceptsModifier_eq (Ne.symm plain.1), Bool.or_eq_true,
              Bool.not_eq_true']
            by_cases last : others = []
            · subst last
              rw [List.map_nil, List.map_eq_nil_iff] at writtenOthers
              subst writtenOthers
              cases contextual : modifier.isContextual with
              | false => exact .inl rfl
              | true => exact .inr (accepted contextual)
            · exact .inr (atAnyWord_of_written writtenOthers last rest)
          have isModifier : nextModifier? (token :: (tokens ++ rest)) =
              some modifier := by
            rw [nextModifier?_of_word? isText, if_pos accepts]
          have acceptedOthers : endsContextual others = true →
              atAnyWord rest = true := by
            intro contextual
            apply accepted
            cases others with
            | nil => cases contextual
            | cons next further => exact contextual
          rw [List.cons_append, readModifiers_some isModifier,
            inductionHypothesis writtenOthers plain.2 acceptedOthers]

/-! ## Members that are left out -/

theorem map_leaveOut (enclosing : Option String) (tokens : List Token) :
    ((leaveOut tokens).map fun (result, behind) =>
        (methodMember enclosing result, behind)) =
      leavingOut .leftOut tokens := by
  rw [leaveOut, leavingOut]
  cases skipMember tokens with
  | error refusal => rfl
  | ok behind => cases enclosing <;> rfl

theorem skipMember_word {token : Token} (isWord : token.isAnyWord = true)
    (rest : List Token) : skipMember (token :: rest) = skipMember rest := by
  have noMark := isMark_eq_false_of_isAnyWord isWord
  apply skipMember_neutral (noMark '\x7d') (noMark ';')
  obtain ⟨lead, lexeme⟩ := token
  cases lexeme with
  | word text => rfl
  | _ => cases isWord

/-- A group that is no block is skipped on the way. -/
theorem skipMember_nested {opening closing : Token} {inner rest : List Token}
    {wanted : Char} (inside : opening.isMark '\x7d' = false)
    (noSeparator : opening.isMark ';' = false)
    (opens : closer? opening = some wanted)
    (closes : closing? closing = some wanted) (noBlock : wanted ≠ '\x7d')
    (nested : Nested inner) :
    skipMember (opening :: (inner ++ closing :: rest)) = skipMember rest := by
  rw [skipMember_group inside noSeparator opens
    (nested.skipGroup_eq closes rest), if_neg]
  exact fun block => noBlock block.1

theorem AreSuffixes.skipMember_eq {suffixes : List Token}
    (are : AreSuffixes suffixes) (rest : List Token) :
    skipMember (suffixes ++ rest) = skipMember rest := by
  induction are with
  | none => rfl
  | mark isMark further inductionHypothesis =>
      rw [List.cons_append, ← inductionHypothesis]
      rw [Bool.or_eq_true] at isMark
      rcases isMark with isMark | isMark <;>
        exact skipMember_neutral (isMark_unique isMark (by decide))
          (isMark_unique isMark (by decide)) (closer?_of_isMark isMark)
  | array opens separate closes further inductionHypothesis =>
      rw [List.cons_append, List.append_assoc, List.cons_append,
        skipMember_nested (isMark_unique opens (by decide))
          (isMark_unique opens (by decide)) (closer?_of_isMark opens)
          (closing?_of_isMark closes) (by decide) (nested_of_commas separate)]
      exact inductionHypothesis

/-- A type that begins with no word is a tuple, which is no member. -/
theorem IsMemberType.of_noWord {tokens : List Token}
    (isType : IsMemberType tokens) (noWord : atAnyWord tokens = false)
    (rest : List Token) :
    atMark '(' (tokens ++ rest) = true ∧
      skipMember (tokens ++ rest) = skipMember rest := by
  have isAnyWord_of_isWord : ∀ {token : Token} {text : String},
      token.isWord text = true → token.isAnyWord = true := fun isWord =>
    isAnyWord_of_word? (word?_of_isWord isWord)
  cases isType with
  | value isType =>
      cases isType with
      | named isName are =>
          obtain ⟨first, text, behind, rfl, named, _⟩ :=
            isName.exists_skipNameParts
          have isWord : first.isAnyWord = true :=
            isAnyWord_of_plainWord? named
          exact absurd isWord (Bool.eq_false_iff.1 noWord)
      | @tuple opening closing inner suffixes opens nested closes are =>
          refine ⟨opens, ?_⟩
          rw [List.cons_append, List.append_assoc, List.cons_append,
            skipMember_nested (isMark_unique opens (by decide))
              (isMark_unique opens (by decide)) (closer?_of_isMark opens)
              (closing?_of_isMark closes) (by decide) nested]
          exact are.skipMember_eq rest
  | reference isRef isType =>
      exact absurd (isAnyWord_of_isWord isRef) (Bool.eq_false_iff.1 noWord)
  | readonlyReference isRef isReadonly isType =>
      exact absurd (isAnyWord_of_isWord isRef) (Bool.eq_false_iff.1 noWord)

/-- A word is no modifier where it stands and begins no declaration. -/
structure StandsAlone (token : Token) (text : String) (rest : List Token) :
    Prop where
  isName : plainWord? token = some text
  noReference : text ≠ "ref"
  noModifier : nextModifier? (token :: rest) = none
  noKind : nextKind? (token :: rest) = none
  noEnum : atWord "enum" (token :: rest) = false
  inside : atEnd (token :: rest) = false

theorem atAnyWord_of_atMark {tokens : List Token} {c : Char}
    (isMark : atMark c tokens = true) : atAnyWord tokens = false := by
  obtain ⟨first, behind, rfl, isFirst⟩ := exists_of_atMark isMark
  change first.isAnyWord = false
  by_contra isWord
  rw [Bool.not_eq_false] at isWord
  rw [isMark_eq_false_of_isAnyWord isWord] at isFirst
  cases isFirst

/-- A reference to a tuple is passed on the way to the end of a member. -/
theorem IsMemberType.skipMember_tupleReference {tokens : List Token}
    (isType : IsMemberType tokens) (isTuple : isTupleReference tokens = true)
    (rest : List Token) :
    skipMember (tokens ++ rest) = skipMember rest := by
  rw [isTupleReference, Bool.and_eq_true] at isTuple
  obtain ⟨atRef, opens⟩ := isTuple
  cases isType with
  | value isType =>
      have noRef := isType.atWord_eq_false (by decide : "ref" ∈ memberWords) []
      rw [List.append_nil, atRef] at noRef
      cases noRef
  | @reference refWord tokens isRef isType =>
      have isWord := isAnyWord_of_word? (word?_of_isWord isRef)
      rw [List.cons_append, skipMember_word isWord]
      exact ((IsMemberType.value isType).of_noWord
        (atAnyWord_of_atMark opens) rest).2
  | readonlyReference isRef isReadonly isType =>
      exact absurd opens
        (Bool.eq_false_iff.1 (isMark_eq_false_of_isWord isReadonly '('))

/-- A modifier that is one only in front of a word is none in front of a
mark. -/
theorem standsAlone_of_contextual {modifier : Modifier} {token : Token}
    {rest : List Token} (isText : word? token = some modifier.keyword)
    (isContextual : modifier.isContextual = true)
    (notRef : modifier ≠ .refWord) (noWord : atAnyWord rest = false) :
    StandsAlone token modifier.keyword rest := by
  have refused : acceptsModifier modifier rest = false := by
    rw [acceptsModifier_eq notRef, isContextual, noWord]
    rfl
  obtain ⟨isPlain, noReference, noEnum, noKind⟩ :
      (some modifier.keyword).filter (!nonTypeWords.contains ·) =
          some modifier.keyword ∧
        modifier.keyword ≠ "ref" ∧ (modifier.keyword == "enum") = false ∧
        TypeKind.ofKeyword? modifier.keyword = none := by
    revert notRef
    cases modifier <;> decide
  exact
    { isName := by
        rw [plainWord?, isText]
        exact isPlain
      noReference := noReference
      noModifier := by
        rw [nextModifier?_of_word? isText, refused, if_neg Bool.false_ne_true]
      noKind := by
        rw [nextKind?, declaredKind?, isText, Option.bind_some, noKind]
        rfl
      noEnum := by
        change token.isWord "enum" = false
        rw [isWord_eq isText, noEnum]
      inside :=
        isMark_eq_false_of_isAnyWord (isAnyWord_of_word? isText) '\x7d' }

def typeMarks : List Char :=
  ['<', '.', ':', '?', '*', '[']

/-- In front of any other mark, a word is a whole type. -/
theorem skipType?_of_mark {token stop : Token} {behind : List Token}
    {text : String} (named : plainWord? token = some text)
    (noReference : text ≠ "ref") {c : Char} (isStop : stop.isMark c = true)
    (other : c ∉ typeMarks) :
    skipType? (token :: stop :: behind) = .ok (some (stop :: behind)) := by
  have noRef : atWord "ref" (token :: stop :: behind) = false := by
    change token.isWord "ref" = false
    rw [isWord_eq (word?_of_plainWord? named), beq_eq_false_iff_ne]
    exact noReference
  have noTuple : token.isMark '(' = false :=
    isMark_eq_false_of_isAnyWord (isAnyWord_of_plainWord? named) '('
  have noMark : ∀ {d : Char}, d ∈ typeMarks → stop.isMark d = false := by
    intro d isTypeMark
    apply isMark_unique isStop
    rintro rfl
    exact other isTypeMark
  have noAngle : atMark '<' (stop :: behind) = false :=
    noMark (by decide)
  have noParts : skipNameParts (stop :: behind) = stop :: behind := by
    rw [skipNameParts_unqualified, skipAngles_none noAngle]
    · rw [noAngle, Bool.false_and]
    · rw [skipAngles_none noAngle]
      exact afterQualifier?_of_first behind (noMark (by decide))
        (noMark (by decide))
  have noSuffix : skipTypeSuffixes (stop :: behind) =
      .ok (stop :: behind) := by
    have noQuestion := noMark (d := '?') (by decide)
    have noStar := noMark (d := '*') (by decide)
    have noBracket := noMark (d := '[') (by decide)
    apply skipTypeSuffixes_none
    · simp [atSuffixMark, atMark, noQuestion, noStar]
    · simp [atArraySuffix_cons, noBracket]
  rw [skipType?_eq, skipReferenceWords_absent noRef, skipBareType?, noTuple,
    named, noParts, noSuffix]
  rfl

/-- There, a word is a type without a member behind it, or the name of a
constructor. -/
theorem readMethod_of_mark {enclosing : Option String}
    {modifiers : List Modifier} {token : Token} {rest : List Token}
    {text : String} (named : plainWord? token = some text)
    (noReference : text ≠ "ref") {c : Char} (isMark : atMark c rest = true)
    (other : c ∉ typeMarks) :
    readMethod enclosing modifiers (token :: rest) = leaveOut rest := by
  obtain ⟨stop, behind, rfl, isStop⟩ := exists_of_atMark isMark
  have passed : skipMember (token :: stop :: behind) =
      skipMember (stop :: behind) :=
    skipMember_word (isAnyWord_of_plainWord? named) (stop :: behind)
  cases constructed :
      isConstructor enclosing (token :: stop :: behind) with
  | true =>
      rw [readMethod_of_constructor constructed, leaveOut, leaveOut, passed]
  | false =>
      have noName : nextName? (stop :: behind) = none := by
        change plainWord? stop = none
        rw [plainWord?, word?_of_isMark isStop]
        rfl
      rw [readMethod_eq constructed
          (skipType?_of_mark named noReference isStop other),
        readTypedMember, noName]

/-- A last modifier that is one only in front of a word is skipped in front
of such a mark, and the member is left out from the mark on. -/
theorem readMember_contextual {modifiers : List Modifier}
    {tokens rest : List Token}
    (written : tokens.map Token.lexeme =
      modifiers.map fun modifier => .word modifier.keyword)
    (plain : Modifier.refWord ∉ modifiers)
    (contextual : endsContextual modifiers = true) {c : Char}
    (isMark : atMark c rest = true) (other : c ∉ typeMarks)
    (enclosing : Option String) :
    readMember enclosing (tokens ++ rest) = leavingOut .leftOut rest := by
  have noAttribute : atMark '[' (tokens ++ rest) = false := by
    obtain ⟨first, behind, rfl, isFirst⟩ := exists_of_atMark isMark
    refine atMark_of_written written (isMark_unique isFirst ?_)
    rintro rfl
    exact other (by decide)
  obtain ⟨earlier, last, earlierTokens, lastToken, rfl, isContextual, rfl,
    writtenEarlier, isText⟩ := exists_of_endsContextual written contextual
  have notRef : last ≠ .refWord := by
    rintro rfl
    exact plain (List.mem_append_right _ (by simp))
  have notEarlier : Modifier.refWord ∉ earlier := fun member =>
    plain (List.mem_append_left _ member)
  have standsAlone := standsAlone_of_contextual isText isContextual notRef
    (atAnyWord_of_atMark isMark)
  have modifiersRead : readModifiers (earlierTokens ++ lastToken :: rest) =
      (earlier, lastToken :: rest) :=
    readModifiers_written writtenEarlier notEarlier
      (fun _ => isAnyWord_of_word? isText) standsAlone.noModifier
  rw [readMember, skipAttributes_none noAttribute, List.append_assoc,
    List.singleton_append]
  simp only [modifiersRead]
  rw [readModified_of_method standsAlone.inside standsAlone.noKind
      standsAlone.noEnum,
    readMethod_of_mark standsAlone.isName standsAlone.noReference isMark other,
    map_leaveOut]

/-! ## Up to the name -/

/-- What stands in front of the name of a member that has a type. -/
structure MemberFront where
  modifiers : List Modifier
  modifierTokens : List Token
  typeTokens : List Token
  written : modifierTokens.map Token.lexeme =
    modifiers.map fun modifier => .word modifier.keyword
  plain : Modifier.refWord ∉ modifiers
  isType : IsMemberType typeTokens

namespace MemberFront

def tokens (front : MemberFront) : List Token :=
  front.modifierTokens ++ front.typeTokens

/-- The last modifier is taken for one. -/
def isRecognised (front : MemberFront) : Bool :=
  !endsContextual front.modifiers || atAnyWord front.typeTokens

variable (front : MemberFront) {rest : List Token}

theorem skipAttributes_eq (rest : List Token) :
    skipAttributes (front.tokens ++ rest) = .ok (front.tokens ++ rest) := by
  apply skipAttributes_none
  rw [tokens, List.append_assoc]
  exact atMark_of_written front.written
    (front.isType.beginsTyped rest).noAttribute

theorem atAnyWord_append (recognised : front.isRecognised = true)
    (contextual : endsContextual front.modifiers = true) :
    atAnyWord (front.typeTokens ++ rest) = true := by
  rw [isRecognised, contextual, Bool.not_true, Bool.false_or] at recognised
  cases typed : front.typeTokens with
  | nil =>
      rw [typed] at recognised
      cases recognised
  | cons first others =>
      rw [typed] at recognised
      exact recognised

/-- Where the type around has the word of references for a name, a member
that is a reference to a tuple is taken for its constructor. -/
def isConstructed (front : MemberFront) (enclosing : Option String) : Bool :=
  enclosing == some "ref" && isTupleReference front.typeTokens

/-- Behind its modifiers, a member is read as a method. -/
theorem readMember_eq_readMethod (recognised : front.isRecognised = true)
    (enclosing : Option String) (rest : List Token) :
    readMember enclosing (front.tokens ++ rest) =
      (readMethod enclosing front.modifiers
        (front.typeTokens ++ rest)).map fun (result, behind) =>
          (methodMember enclosing result, behind) := by
  have begins := front.isType.beginsTyped rest
  have modifiersRead := readModifiers_written front.written front.plain
    (front.atAnyWord_append recognised) begins.noModifier
  rw [readMember, front.skipAttributes_eq, tokens, List.append_assoc]
  simp only [modifiersRead]
  rw [readModified_of_method begins.inside begins.noKind begins.noEnum]

/-- Behind its modifiers and its type, a member is read on. -/
theorem readMember_recognised (recognised : front.isRecognised = true)
    {enclosing : Option String}
    (noConstructor : front.isConstructed enclosing = false)
    (behind : atAnyWord rest = true) :
    readMember enclosing (front.tokens ++ rest) =
      (readTypedMember (Token.verbatim front.typeTokens) front.modifiers
        rest).map fun (result, behind) =>
          (methodMember enclosing result, behind) := by
  have methodRead : readMethod enclosing front.modifiers
      (front.typeTokens ++ rest) = _ :=
    readMethod_eq (front.isType.isConstructor_eq_false behind noConstructor)
      (front.isType.skipType?_eq behind)
  rw [front.readMember_eq_readMethod recognised, methodRead, taken_append]

/-- What is taken for a constructor is left out. -/
theorem readMember_constructed (recognised : front.isRecognised = true)
    {enclosing : Option String}
    (constructed : front.isConstructed enclosing = true) (rest : List Token) :
    readMember enclosing (front.tokens ++ rest) =
      leavingOut .leftOut rest := by
  rw [isConstructed, Bool.and_eq_true, beq_iff_eq] at constructed
  obtain ⟨rfl, isTuple⟩ := constructed
  rw [front.readMember_eq_readMethod recognised,
    readMethod_of_constructor (isConstructor_of_isTupleReference isTuple rest),
    map_leaveOut, leavingOut, leavingOut,
    front.isType.skipMember_tupleReference isTuple]

/-- Without the last modifier, a member is left out. -/
theorem readMember_unrecognised (unrecognised : front.isRecognised = false)
    (enclosing : Option String) (rest : List Token) :
    readMember enclosing (front.tokens ++ rest) =
      leavingOut .leftOut rest := by
  rw [isRecognised, Bool.or_eq_false_iff, Bool.not_eq_false'] at unrecognised
  obtain ⟨contextual, noWord⟩ := unrecognised
  obtain ⟨opens, skipped⟩ := front.isType.of_noWord noWord rest
  rw [tokens, List.append_assoc,
    readMember_contextual front.written front.plain contextual opens
      (by decide),
    leavingOut, leavingOut, skipped]

/-- Where neither type arguments, a further part nor parameters stand behind
the name, a member is left out. -/
theorem readMember_leftOut (enclosing : Option String) {name : Token}
    (isName : name.isAnyWord = true) (noAngle : atMark '<' rest = false)
    (noDot : atMark '.' rest = false)
    (noParenthesis : atMark '(' rest = false) :
    readMember enclosing (front.tokens ++ name :: rest) =
      leavingOut .leftOut rest := by
  have passed : leavingOut Member.leftOut (name :: rest) =
      leavingOut Member.leftOut rest := by
    rw [leavingOut, leavingOut, skipMember_word isName]
  cases recognised : front.isRecognised with
  | false => rw [front.readMember_unrecognised recognised, passed]
  | true =>
      cases constructed : front.isConstructed enclosing with
      | true =>
          rw [front.readMember_constructed recognised constructed, passed]
      | false =>
          have typedRead : readTypedMember (Token.verbatim front.typeTokens)
              front.modifiers (name :: rest) = leaveOut rest := by
            cases plain : plainWord? name with
            | none =>
                have noName : nextName? (name :: rest) = none := plain
                rw [readTypedMember, noName]
                simp only [leaveOut, skipMember_word isName]
            | some first =>
                rw [readTypedMember_named plain,
                  readMemberName_of_unqualified noAngle noDot,
                  skipAngles_none noAngle, readMethodEnd, noParenthesis,
                  if_neg Bool.false_ne_true]
          have behind : atAnyWord (name :: rest) = true := isName
          rw [front.readMember_recognised recognised constructed behind,
            typedRead, map_leaveOut]

end MemberFront

end ClassDiagram.Reading
