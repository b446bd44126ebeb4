import ClassDiagram.Reading.ParameterList
import ClassDiagram.Proofs.Reading.LocalTypes

/-!
# Parameter lists are local

A parameter list is read again in front of everything that looks the same
behind it.
-/

namespace ClassDiagram.Reading

open Source (Token Lexeme)

/-! ## One parameter -/

/-- A word that says how an argument is passed is next. -/
def atParameterModifier : List Token → Bool
  | [] => false
  | token :: rest => isParameterModifier token rest

theorem isParameterModifier_of_noWord {token : Token}
    (noWord : word? token = none) (rest : List Token) :
    isParameterModifier token rest = false := by
  rw [isParameterModifier, noWord]

theorem word?_of_ending {token : Token}
    (ending : endsTypeArguments token = true) : word? token = none := by
  have noWord := isAnyWord_of_ending ending
  obtain ⟨lead, lexeme⟩ := token
  cases lexeme with
  | word text =>
      cases noWord
  | _ =>
      rfl

theorem SameStop.atParameterModifier_eq {left right : List Token}
    (same : SameStop left right) :
    atParameterModifier left = atParameterModifier right := by
  refine same.look_eq rfl ?_ ?_ ?_
  · intro token rest closing
    apply isParameterModifier_of_noWord
    simp [word?, closing]
  · intro token left right ending
    have noWord := word?_of_ending ending
    rw [atParameterModifier, atParameterModifier,
      isParameterModifier_of_noWord noWord,
      isParameterModifier_of_noWord noWord]
  · intro token left right later
    rw [atParameterModifier, atParameterModifier, isParameterModifier,
      isParameterModifier, later.atAnyWord_eq,
      later.atMark_eq (c := '(') (by decide)]

theorem skipParameterModifiers_none {tokens : List Token}
    (noModifier : atParameterModifier tokens = false) :
    skipParameterModifiers tokens = tokens := by
  cases tokens with
  | nil =>
      rfl
  | cons token rest =>
      have notModifier : isParameterModifier token rest = false := noModifier
      rw [skipParameterModifiers, notModifier, if_neg Bool.false_ne_true]

theorem skipParameterModifiers_local (tokens : List Token) :
    Local SameStop skipParameterModifiers id tokens
      (skipParameterModifiers tokens) := by
  have nothing : ∀ tokens : List Token,
      atParameterModifier tokens = false →
        Local SameStop skipParameterModifiers id tokens tokens := by
    intro tokens noModifier
    refine local_of_nothing fun other same => ?_
    exact skipParameterModifiers_none
      (same.atParameterModifier_eq ▸ noModifier)
  fun_induction skipParameterModifiers tokens with
  | case1 =>
      exact nothing [] rfl
  | case2 token rest isModifier inductionHypothesis =>
      refine inductionHypothesis.behind [token] ?_
      intro between behind same restEq
      have stillModifier : isParameterModifier token between = true := by
        rw [← isModifier]
        exact (same.append [token]).atParameterModifier_eq.symm
      rw [List.singleton_append, skipParameterModifiers,
        if_pos stillModifier]
      exact restEq
  | case3 token rest notModifier =>
      exact nothing _ (Bool.not_eq_true _ ▸ notModifier)

theorem skipDefaultValue_none {tokens : List Token}
    (noValue : atMark '=' tokens = false) :
    skipDefaultValue tokens = .ok tokens := by
  rw [skipDefaultValue, noValue, if_neg Bool.false_ne_true]

/-- A default value ends in front of a comma or a parenthesis. -/
theorem skipDefaultValue_local {tokens rest : List Token}
    (skipped : skipDefaultValue tokens = .ok rest) :
    Local SameStop skipDefaultValue Except.ok tokens rest := by
  cases value : atMark '=' tokens with
  | false =>
      rw [skipDefaultValue_none value] at skipped
      cases skipped
      refine local_of_nothing fun other same => skipDefaultValue_none ?_
      rwa [← same.atMark_eq (by decide)]
  | true =>
      obtain ⟨equals, given, rfl, isEquals⟩ := exists_of_atMark value
      rw [skipDefaultValue, if_pos value, List.tail_cons] at skipped
      obtain ⟨consumed, stop, behind, rfl, isStop, rfl, again⟩ :=
        skipUntil_local skipped
      have notEnding : endsTypeArguments stop = false := by
        simp only [List.any_cons, List.any_nil, Bool.or_false,
          Bool.or_eq_true] at isStop
        rcases isStop with comma | parenthesis
        · exact not_ending_of_isMark comma (by decide)
        · exact not_ending_of_isMark parenthesis (by decide)
      refine ⟨equals :: consumed, rfl, fun other same => ⟨?_, ?_⟩⟩
      · exact same.append (equals :: consumed)
      · obtain ⟨later, rfl, _⟩ := same.of_cons notEnding
        have stillValue : atMark '=' (equals :: consumed ++ stop :: later) =
            true := isEquals
        rw [skipDefaultValue, if_pos stillValue]
        exact again later

def readParameterName (tokens : List Token) : Result String :=
  match expectWord .missingParameterName tokens with
  | .error refusal => .error refusal
  | .ok (name, behindName) =>
      (skipDefaultValue behindName).map fun rest => (name, rest)

theorem readParameterName_local {name : String} {tokens rest : List Token}
    (read : readParameterName tokens = .ok (name, rest)) :
    Local SameStop readParameterName (fun rest => .ok (name, rest)) tokens
      rest := by
  unfold readParameterName at read
  split at read
  · cases read
  · rename_i text behindName present
    obtain ⟨token, rfl, named⟩ := exists_of_expectWord present
    obtain ⟨_, valueSkipped, answer⟩ := exists_of_map_eq_ok read
    cases answer
    refine (skipDefaultValue_local valueSkipped).behind [token] ?_
    intro between behind _ valueEq
    rw [List.singleton_append, readParameterName, expectWord_of_word named]
    simp only [valueEq]
    rfl

theorem readTypedParameter_eq {tokens behindType : List Token}
    (typed : skipType? tokens = .ok (some behindType)) :
    readTypedParameter tokens =
      (readParameterName behindType).map fun (name, rest) =>
        (⟨name, Token.verbatim (taken tokens behindType)⟩, rest) := by
  rw [readTypedParameter, readParameterName, typed]
  simp only
  cases expectWord .missingParameterName behindType with
  | error refusal =>
      rfl
  | ok present =>
      obtain ⟨name, behindName⟩ := present
      simp only
      cases skipDefaultValue behindName <;> rfl

theorem readTypedParameter_local {parameter : Parameter}
    {tokens rest : List Token}
    (read : readTypedParameter tokens = .ok (parameter, rest)) :
    Local SameStop readTypedParameter (fun rest => .ok (parameter, rest))
      tokens rest := by
  cases typed : skipType? tokens with
  | error refusal =>
      rw [readTypedParameter, typed] at read
      cases read
  | ok found =>
      cases found with
      | none =>
          rw [readTypedParameter, typed] at read
          cases read
      | some behindType =>
          rw [readTypedParameter_eq typed] at read
          obtain ⟨_, nameRead, answer⟩ := exists_of_map_eq_ok read
          cases answer
          refine (skipType?_local typed).followedBy
            (readParameterName_local nameRead) ?_
          intro consumed between behind tokensEq _ typeEq nameEq
          rw [readTypedParameter_eq typeEq, nameEq, taken_append, tokensEq,
            taken_append]
          rfl

def readBareParameter (tokens : List Token) : Result Parameter :=
  if atWord anyArguments tokens then
    .ok (⟨anyArguments, ""⟩, tokens.tail)
  else
    readTypedParameter tokens

theorem readParameter_eq {tokens start : List Token}
    (skipped : skipAttributes tokens = .ok start) :
    readParameter tokens =
      readBareParameter (skipParameterModifiers start) := by
  rw [readParameter, skipped]
  simp only
  cases skipParameterModifiers start <;> rfl

theorem readBareParameter_local {parameter : Parameter}
    {tokens rest : List Token}
    (read : readBareParameter tokens = .ok (parameter, rest)) :
    Local SameStop readBareParameter (fun rest => .ok (parameter, rest))
      tokens rest := by
  rw [readBareParameter] at read
  split at read
  · rename_i anything
    cases tokens with
    | nil =>
        cases anything
    | cons token others =>
        cases read
        refine ⟨[token], rfl, fun other same => ⟨same.append [token], ?_⟩⟩
        have stillAnything : atWord anyArguments (token :: other) = true :=
          anything
        rw [List.singleton_append, readBareParameter, if_pos stillAnything]
        rfl
  · rename_i notAnything
    refine (readTypedParameter_local read).congr fun other same => ?_
    rw [same.atWord_eq] at notAnything
    rw [readBareParameter, if_neg notAnything]

theorem readParameter_local {parameter : Parameter}
    {tokens rest : List Token}
    (read : readParameter tokens = .ok (parameter, rest)) :
    Local SameStop readParameter (fun rest => .ok (parameter, rest)) tokens
      rest := by
  cases skipped : skipAttributes tokens with
  | error refusal =>
      rw [readParameter, skipped] at read
      cases read
  | ok start =>
      rw [readParameter_eq skipped] at read
      have modified : Local SameStop
          (fun tokens => readBareParameter (skipParameterModifiers tokens))
          (fun rest => .ok (parameter, rest)) start rest := by
        refine (skipParameterModifiers_local start).followedBy
          (readBareParameter_local read) ?_
        intro consumed between behind _ _ modifiersEq readEq
        rw [modifiersEq]
        exact readEq
      refine (skipAttributes_local skipped).followedBy modified ?_
      intro consumed between behind _ _ attributesEq readEq
      rw [readParameter_eq attributesEq]
      exact readEq

/-! ## The whole list -/

theorem readParameters_more {tokens rest : List Token}
    {parameter : Parameter}
    (read : readParameter tokens = .ok (parameter, rest))
    (more : atMark ',' rest = true) :
    readParameters tokens =
      (readParameters rest.tail).map fun (others, behind) =>
        (parameter :: others, behind) := by
  rw [readParameters]
  split
  · rename_i refused
    rw [read] at refused
    cases refused
  · rename_i accepted
    rw [read] at accepted
    cases accepted
    rw [if_pos more]

theorem readParameters_last {tokens rest : List Token}
    {parameter : Parameter}
    (read : readParameter tokens = .ok (parameter, rest))
    (last : atMark ',' rest = false) :
    readParameters tokens =
      (expectMark ')' rest).map fun behind => ([parameter], behind) := by
  rw [readParameters]
  split
  · rename_i refused
    rw [read] at refused
    cases refused
  · rename_i accepted
    rw [read] at accepted
    cases accepted
    rw [last, if_neg Bool.false_ne_true]

theorem readParameters_local {parameters : List Parameter}
    {tokens rest : List Token}
    (read : readParameters tokens = .ok (parameters, rest)) :
    Local SameStop readParameters (fun rest => .ok (parameters, rest))
      tokens rest := by
  fun_induction readParameters tokens generalizing parameters rest with
  | case1 =>
      cases read
  | case2 tokens parameter behind parameterRead more inductionHypothesis =>
      obtain ⟨⟨others, after⟩, othersRead, answer⟩ :=
        exists_of_map_eq_ok read
      cases answer
      obtain ⟨comma, later, rfl, isComma⟩ := exists_of_atMark more
      have followed : Local SameStop
          (fun tokens => (atMark ',' tokens, readParameters tokens.tail))
          (fun rest => (true, .ok (others, rest))) (comma :: later) rest := by
        refine (inductionHypothesis othersRead).behind [comma] ?_
        intro between behind _ othersEq
        exact Prod.ext isComma othersEq
      refine (readParameter_local parameterRead).followedBy followed ?_
      intro consumed between behind _ _ parameterEq followedEq
      obtain ⟨stillMore, othersEq⟩ := Prod.mk.inj followedEq
      rw [readParameters_more parameterEq stillMore, othersEq]
      rfl
  | case3 tokens parameter behind parameterRead last =>
      rw [Bool.not_eq_true] at last
      obtain ⟨after, closed, answer⟩ := exists_of_map_eq_ok read
      cases answer
      obtain ⟨closing, rfl, isClosing⟩ := exists_of_expectMark closed
      have followed : Local SameStop
          (fun tokens => (atMark ',' tokens, expectMark ')' tokens))
          (fun rest => (false, .ok rest)) (closing :: rest) rest :=
        ⟨[closing], rfl, fun other same => ⟨same.append [closing],
          Prod.ext last (expectMark_of_isMark isClosing other)⟩⟩
      refine (readParameter_local parameterRead).followedBy followed ?_
      intro consumed between behind _ _ parameterEq followedEq
      obtain ⟨stillLast, closedEq⟩ := Prod.mk.inj followedEq
      rw [readParameters_last parameterEq stillLast, closedEq]
      rfl

theorem readParameterList_local {parameters : List Parameter}
    {tokens rest : List Token}
    (read : readParameterList tokens = .ok (parameters, rest)) :
    Local SameStop readParameterList (fun rest => .ok (parameters, rest))
      tokens rest := by
  unfold readParameterList at read
  split at read
  · rename_i empty
    obtain ⟨closing, behind, rfl, isClosing⟩ := exists_of_atMark empty
    cases read
    refine ⟨[closing], rfl, fun other same => ⟨same.append [closing], ?_⟩⟩
    have stillEmpty : atMark ')' (closing :: other) = true := isClosing
    rw [List.singleton_append, readParameterList, if_pos stillEmpty]
    rfl
  · rename_i notEmpty
    refine (readParameters_local read).congr fun other same => ?_
    rw [same.atMark_eq (by decide)] at notEmpty
    rw [readParameterList, if_neg notEmpty]

end ClassDiagram.Reading
