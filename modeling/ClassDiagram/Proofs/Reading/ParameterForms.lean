import ClassDiagram.Proofs.Reading.Attributes
import ClassDiagram.Proofs.Reading.Expressions
import ClassDiagram.Proofs.Reading.TypeForms

/-!
# Written parameter lists

The tokens of a parameter as it is written: attributes, the words that say
how an argument is passed, a type, a name and perhaps a default value.  A
list of parameters in parentheses is read back as the names and the verbatim
types, whatever follows the list.
-/

namespace ClassDiagram.Reading

open Source (Token Lexeme)

/-! ## One parameter -/

def parameterStartWords : List String :=
  parameterWords ++ [anyArguments]

def ArePassingWords (tokens : List Token) : Prop :=
  ∀ token ∈ tokens, ∃ text ∈ parameterWords, word? token = some text

inductive IsDefaultValue : List Token → Prop
  | absent : IsDefaultValue []
  | present {equals : Token} {value : List Token}
      (isEquals : equals.isMark '=' = true)
      (nested : NestedWithout [',', ')'] value) :
      IsDefaultValue (equals :: value)

inductive IsParameter : Parameter → List Token → Prop
  | typed {attributes passing typed value : List Token} {named : Token}
      {name : String} (sections : AreAttributeSections attributes)
      (words : ArePassingWords passing)
      (isType : IsBareType parameterStartWords typed)
      (isName : word? named = some name) (isValue : IsDefaultValue value) :
      IsParameter ⟨name, Token.verbatim typed⟩
        (attributes ++ (passing ++ (typed ++ named :: value)))
  | anything {attributes : List Token} {token : Token}
      (sections : AreAttributeSections attributes)
      (isWord : token.isWord anyArguments = true) :
      IsParameter ⟨anyArguments, ""⟩ (attributes ++ [token])

def atParameterEnd (tokens : List Token) : Bool :=
  atMark ',' tokens || atMark ')' tokens

section

variable {tokens rest : List Token}

theorem exists_of_atParameterEnd (ends : atParameterEnd rest = true) :
    ∃ stop behind, rest = stop :: behind ∧
      [',', ')'].any stop.isMark = true := by
  cases rest with
  | nil => cases ends
  | cons stop behind =>
      refine ⟨stop, behind, rfl, ?_⟩
      simpa [atParameterEnd, atMark] using ends

theorem IsDefaultValue.skipDefaultValue_eq (isValue : IsDefaultValue tokens)
    (ends : atParameterEnd rest = true) :
    skipDefaultValue (tokens ++ rest) = .ok rest := by
  obtain ⟨stop, behind, rfl, isStop⟩ := exists_of_atParameterEnd ends
  cases isValue with
  | absent =>
      apply skipDefaultValue_none
      simp only [List.any_cons, List.any_nil, Bool.or_false, Bool.or_eq_true]
        at isStop
      rcases isStop with isMark | isMark <;>
        exact isMark_unique isMark (by decide)
  | @present equals value isEquals nested =>
      have isValue : atMark '=' (equals :: value ++ stop :: behind) = true :=
        isEquals
      rw [skipDefaultValue, if_pos isValue]
      exact nested.skipUntil_eq isStop behind

/-- A word or a parenthesis that opens a tuple. -/
def atTypeStart (tokens : List Token) : Bool :=
  atAnyWord tokens || atMark '(' tokens

theorem IsBareType.atTypeStart {words : List String}
    (isType : IsBareType words tokens) (rest : List Token) :
    Reading.atTypeStart (tokens ++ rest) = true := by
  obtain ⟨first, behind, rfl, parenthesis | ⟨word, named, _⟩⟩ :=
    isType.exists_first
  · have isMark : atMark '(' (first :: behind ++ rest) = true := parenthesis
    rw [Reading.atTypeStart, isMark, Bool.or_true]
  · have isWord : atAnyWord (first :: behind ++ rest) = true :=
      isAnyWord_of_plainWord? named
    rw [Reading.atTypeStart, isWord, Bool.true_or]

theorem atMark_of_atTypeStart (starts : atTypeStart tokens = true) {c : Char}
    (other : c ≠ '(') : atMark c tokens = false := by
  cases tokens with
  | nil => rfl
  | cons first behind =>
      rw [atTypeStart, Bool.or_eq_true] at starts
      rcases starts with isWord | isMark
      · exact isMark_eq_false_of_isAnyWord isWord c
      · exact isMark_unique isMark (Ne.symm other)

/-- No type begins with a word that says how an argument is passed. -/
theorem IsBareType.atParameterModifier_eq_false
    (isType : IsBareType parameterStartWords tokens) (rest : List Token) :
    atParameterModifier (tokens ++ rest) = false := by
  obtain ⟨first, behind, rfl, parenthesis | ⟨word, named, free⟩⟩ :=
    isType.exists_first
  · exact isParameterModifier_of_noWord (word?_of_isMark parenthesis) _
  · have isWord := word?_of_plainWord? named
    have notPassing : parameterWords.contains word = false := by
      rw [← Bool.not_eq_true, List.contains_iff_mem]
      exact fun passing => free (List.mem_append_left _ passing)
    rw [List.cons_append, atParameterModifier, isParameterModifier, isWord]
    simp only [notPassing, Bool.false_and]

theorem ArePassingWords.atTypeStart (words : ArePassingWords tokens)
    (typed : Reading.atTypeStart rest = true) :
    Reading.atTypeStart (tokens ++ rest) = true := by
  cases tokens with
  | nil => exact typed
  | cons next behind =>
      obtain ⟨_, _, isNext⟩ := words next List.mem_cons_self
      have isWord : atAnyWord (next :: behind ++ rest) = true :=
        isAnyWord_of_word? isNext
      rw [Reading.atTypeStart, isWord, Bool.true_or]

/-- The words in front of the type of a parameter are skipped. -/
theorem ArePassingWords.skip_eq (words : ArePassingWords tokens)
    (typed : Reading.atTypeStart rest = true)
    (noModifier : atParameterModifier rest = false) :
    skipParameterModifiers (tokens ++ rest) = rest := by
  induction tokens with
  | nil => exact skipParameterModifiers_none noModifier
  | cons token others inductionHypothesis =>
      obtain ⟨⟨text, passing, isText⟩, further⟩ :=
        List.forall_mem_cons.1 words
      have typedBehind := ArePassingWords.atTypeStart further typed
      have isModifier : isParameterModifier token (others ++ rest) = true := by
        rw [isParameterModifier, isText]
        exact Bool.and_eq_true_iff.2
          ⟨List.contains_iff_mem.2 passing, typedBehind⟩
      rw [List.cons_append, skipParameterModifiers, if_pos isModifier]
      exact inductionHypothesis further

end

namespace IsParameter

variable {parameter : Parameter} {tokens rest : List Token}

/-- A parameter is read back up to the mark behind it. -/
theorem readParameter_eq (isParameter : IsParameter parameter tokens)
    (ends : atParameterEnd rest = true) :
    readParameter (tokens ++ rest) = .ok (parameter, rest) := by
  cases isParameter with
  | @typed attributes passing typed value named name sections words isType
      isName isValue =>
      have behindType : atAnyWord (named :: (value ++ rest)) = true :=
        isAnyWord_of_word? isName
      have starts := isType.atTypeStart (named :: (value ++ rest))
      have noAttribute := atMark_of_atTypeStart (c := '[')
        (words.atTypeStart starts) (by decide)
      have skipped : skipAttributes (attributes ++
            (passing ++ (typed ++ named :: (value ++ rest)))) =
          .ok (passing ++ (typed ++ named :: (value ++ rest))) := by
        rw [sections.skipAttributes_eq]
        exact skipAttributes_none noAttribute
      have notAnything :
          atWord anyArguments (typed ++ named :: (value ++ rest)) = false :=
        isType.atWord_eq_false (by decide) _
      have nameRead : readParameterName (named :: (value ++ rest)) =
          .ok (name, rest) := by
        rw [readParameterName, expectWord_of_word isName]
        simp only [isValue.skipDefaultValue_eq ends]
        rfl
      simp only [List.append_assoc, List.cons_append]
      rw [Reading.readParameter_eq skipped,
        words.skip_eq starts (isType.atParameterModifier_eq_false _),
        readBareParameter, notAnything, if_neg Bool.false_ne_true,
        readTypedParameter_eq (isType.skipType?_eq (by decide) behindType),
        nameRead, taken_append]
      rfl
  | @anything attributes token sections isWord =>
      have noAttribute : atMark '[' (token :: rest) = false :=
        isMark_eq_false_of_isWord isWord '['
      have skipped : skipAttributes (attributes ++ token :: rest) =
          .ok (token :: rest) := by
        rw [sections.skipAttributes_eq]
        exact skipAttributes_none noAttribute
      have noModifier : atParameterModifier (token :: rest) = false := by
        rw [atParameterModifier, isParameterModifier, word?_of_isWord isWord]
        rfl
      have isAnything : atWord anyArguments (token :: rest) = true := isWord
      rw [List.append_assoc, List.singleton_append,
        Reading.readParameter_eq skipped,
        skipParameterModifiers_none noModifier, readBareParameter,
        if_pos isAnything]
      rfl

/-- No parameter begins with the end of the list. -/
theorem atMark_eq_false (isParameter : IsParameter parameter tokens)
    (rest : List Token) : atMark ')' (tokens ++ rest) = false := by
  cases isParameter with
  | @typed attributes passing typed value named name sections words isType
      isName isValue =>
      by_cases bare : attributes = []
      · rw [bare, List.nil_append, List.append_assoc, List.append_assoc]
        exact atMark_of_atTypeStart
          (words.atTypeStart (isType.atTypeStart _)) (by decide)
      · obtain ⟨opening, behind, rfl, opens⟩ := sections.exists_bracket bare
        exact isMark_unique opens (by decide)
  | @anything attributes token sections isWord =>
      by_cases bare : attributes = []
      · rw [bare]
        exact isMark_eq_false_of_isWord isWord ')'
      · obtain ⟨opening, behind, rfl, opens⟩ := sections.exists_bracket bare
        exact isMark_unique opens (by decide)

end IsParameter

/-! ## The whole list -/

/-- Parameters with commas between them and the parenthesis behind them. -/
inductive AreParameters : List Parameter → List Token → Prop
  | last {parameter : Parameter} {tokens : List Token} {closing : Token}
      (isParameter : IsParameter parameter tokens)
      (closes : closing.isMark ')' = true) :
      AreParameters [parameter] (tokens ++ [closing])
  | more {parameter : Parameter} {parameters : List Parameter}
      {tokens others : List Token} {comma : Token}
      (isParameter : IsParameter parameter tokens)
      (isComma : comma.isMark ',' = true)
      (further : AreParameters parameters others) :
      AreParameters (parameter :: parameters) (tokens ++ comma :: others)

/-- What stands behind the parenthesis that opens a list of parameters. -/
inductive IsParameterList : List Parameter → List Token → Prop
  | empty {closing : Token} (closes : closing.isMark ')' = true) :
      IsParameterList [] [closing]
  | some {parameters : List Parameter} {tokens : List Token}
      (are : AreParameters parameters tokens) :
      IsParameterList parameters tokens

theorem AreParameters.readParameters_eq {parameters : List Parameter}
    {tokens : List Token} (are : AreParameters parameters tokens)
    (rest : List Token) :
    readParameters (tokens ++ rest) = .ok (parameters, rest) := by
  induction are with
  | @last parameter tokens closing isParameter closes =>
      have ends : atParameterEnd (closing :: rest) = true := by
        simp [atParameterEnd, atMark, closes]
      have noComma : atMark ',' (closing :: rest) = false :=
        isMark_unique closes (by decide)
      rw [List.append_assoc, List.singleton_append,
        readParameters_last (isParameter.readParameter_eq ends) noComma,
        expectMark_of_isMark closes]
      rfl
  | @more parameter parameters tokens others comma isParameter isComma further
      inductionHypothesis =>
      have ends : atParameterEnd (comma :: (others ++ rest)) = true := by
        simp [atParameterEnd, atMark, isComma]
      rw [List.append_assoc, List.cons_append,
        readParameters_more (isParameter.readParameter_eq ends) isComma,
        List.tail_cons, inductionHypothesis]
      rfl

theorem AreParameters.atMark_eq_false {parameters : List Parameter}
    {tokens : List Token} (are : AreParameters parameters tokens)
    (rest : List Token) : atMark ')' (tokens ++ rest) = false := by
  cases are with
  | last isParameter closes =>
      rw [List.append_assoc]
      exact isParameter.atMark_eq_false _
  | more isParameter isComma further =>
      rw [List.append_assoc]
      exact isParameter.atMark_eq_false _

/-- A list of parameters is read back, whatever follows it. -/
theorem IsParameterList.readParameterList_eq {parameters : List Parameter}
    {tokens : List Token} (isList : IsParameterList parameters tokens)
    (rest : List Token) :
    readParameterList (tokens ++ rest) = .ok (parameters, rest) := by
  cases isList with
  | @empty closing closes =>
      have isEnd : atMark ')' ([closing] ++ rest) = true := closes
      rw [readParameterList, if_pos isEnd]
      rfl
  | some are =>
      rw [readParameterList, are.atMark_eq_false rest,
        if_neg Bool.false_ne_true]
      exact are.readParameters_eq rest

end ClassDiagram.Reading
