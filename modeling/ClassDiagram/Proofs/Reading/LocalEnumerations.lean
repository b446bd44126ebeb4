import ClassDiagram.Reading.EnumerationBody
import ClassDiagram.Proofs.Reading.LocalParameters

/-!
# Enumerations are local

The members of an enumeration are read up to the brace behind them, which
they leave.  So they are read again in front of everything that begins with
the same token.
-/

namespace ClassDiagram.Reading

open Source (Token Lexeme)

/-- The lists look the same and begin with the same token. -/
structure SameNext (left right : List Token) : Prop where
  same : SameStop left right
  next : left.head? = right.head?

theorem SameNext.atMark_eq {left right : List Token}
    (sameNext : SameNext left right) (c : Char) :
    atMark c left = atMark c right := by
  have next := sameNext.next
  cases left with
  | nil =>
      cases right with
      | nil =>
          rfl
      | cons token rest =>
          cases next
  | cons token rest =>
      cases right with
      | nil =>
          cases next
      | cons found behind =>
          cases next
          rfl

theorem SameNext.exists_of_cons {token : Token} {left right : List Token}
    (sameNext : SameNext (token :: left) right) :
    ∃ behind, right = token :: behind := by
  have next := sameNext.next
  cases right with
  | nil =>
      cases next
  | cons found behind =>
      cases next
      exact ⟨behind, rfl⟩

theorem SameStop.sameNext {token : Token} {left right : List Token}
    (same : SameStop (token :: left) right)
    (notEnding : endsTypeArguments token = false) :
    SameNext (token :: left) right := by
  obtain ⟨behind, rfl, _⟩ := same.of_cons notEnding
  exact ⟨same, rfl⟩

/-! ## Members -/

theorem skipGivenValue_none {tokens : List Token}
    (noValue : atMark '=' tokens = false) :
    skipGivenValue tokens = .ok tokens := by
  rw [skipGivenValue, noValue, if_neg Bool.false_ne_true]

theorem skipGivenValue_local {tokens rest : List Token}
    (skipped : skipGivenValue tokens = .ok rest) :
    Local SameNext skipGivenValue Except.ok tokens rest := by
  cases value : atMark '=' tokens with
  | false =>
      rw [skipGivenValue_none value] at skipped
      cases skipped
      refine ⟨[], rfl, fun other sameNext => ⟨sameNext.same, ?_⟩⟩
      apply skipGivenValue_none
      rwa [List.nil_append, ← sameNext.atMark_eq]
  | true =>
      obtain ⟨equals, given, rfl, isEquals⟩ := exists_of_atMark value
      rw [skipGivenValue, if_pos value, List.tail_cons] at skipped
      obtain ⟨consumed, stop, behind, rfl, _, rfl, again⟩ :=
        skipUntil_local skipped
      refine ⟨equals :: consumed, rfl, fun other sameNext => ⟨?_, ?_⟩⟩
      · exact sameNext.same.append (equals :: consumed)
      · obtain ⟨later, rfl⟩ := sameNext.exists_of_cons
        have stillValue : atMark '=' (equals :: consumed ++ stop :: later) =
            true := isEquals
        rw [skipGivenValue, if_pos stillValue]
        exact again later

theorem exists_of_readVariant {name : String} {tokens rest : List Token}
    (read : readVariant tokens = .ok (name, rest)) :
    ∃ token behindName, tokens = token :: behindName ∧
      word? token = some name ∧ skipGivenValue behindName = .ok rest := by
  unfold readVariant at read
  split at read
  · cases read
  · rename_i text behindName present
    obtain ⟨token, rfl, named⟩ := exists_of_expectWord present
    obtain ⟨_, valueSkipped, answer⟩ := exists_of_map_eq_ok read
    cases answer
    exact ⟨token, behindName, rfl, named, valueSkipped⟩

theorem readVariant_local {name : String} {tokens rest : List Token}
    (read : readVariant tokens = .ok (name, rest)) :
    Local SameNext readVariant (fun rest => .ok (name, rest)) tokens
      rest := by
  obtain ⟨token, behindName, rfl, named, valueSkipped⟩ :=
    exists_of_readVariant read
  refine (skipGivenValue_local valueSkipped).behind [token] ?_
  intro between behind _ valueEq
  rw [List.singleton_append, readVariant, expectWord_of_word named]
  simp only [valueEq]
  rfl

/-- Members begin with the name of the first one. -/
theorem atMark_of_readVariant {name : String} {tokens rest : List Token}
    (read : readVariant tokens = .ok (name, rest)) (c : Char) :
    atMark c tokens = false := by
  obtain ⟨token, behindName, rfl, named, _⟩ := exists_of_readVariant read
  exact isMark_eq_false_of_isAnyWord (isAnyWord_of_word? named) c

/-! ## The whole body -/

def readBareVariants (start : List Token) : Result (List String) :=
  if atMark '\x7d' start then
    .ok ([], start)
  else
    match readVariant start with
    | .error refusal => .error refusal
    | .ok (name, rest) =>
        if atMark ',' rest then
          (readVariants rest.tail).map fun (others, behind) =>
            (name :: others, behind)
        else
          .ok ([name], rest)

theorem readVariants_eq {tokens start : List Token}
    (skipped : skipAttributes tokens = .ok start) :
    readVariants tokens = readBareVariants start := by
  rw [readVariants]
  split
  · rename_i refused
    rw [skipped] at refused
    cases refused
  · rename_i accepted
    rw [skipped] at accepted
    cases accepted
    rw [readBareVariants]
    split
    · rfl
    · split <;> rename_i answer <;> rw [answer]

theorem readBareVariants_ended {start : List Token}
    (closing : atMark '\x7d' start = true) :
    readBareVariants start = .ok ([], start) := by
  rw [readBareVariants, if_pos closing]

theorem readBareVariants_more {start rest : List Token} {name : String}
    (read : readVariant start = .ok (name, rest))
    (more : atMark ',' rest = true) :
    readBareVariants start =
      (readVariants rest.tail).map fun (others, behind) =>
        (name :: others, behind) := by
  rw [readBareVariants, atMark_of_readVariant read,
    if_neg Bool.false_ne_true, read]
  simp only [more, if_true]

theorem readBareVariants_last {start rest : List Token} {name : String}
    (read : readVariant start = .ok (name, rest))
    (last : atMark ',' rest = false) :
    readBareVariants start = .ok ([name], rest) := by
  rw [readBareVariants, atMark_of_readVariant read,
    if_neg Bool.false_ne_true, read]
  simp only [last, Bool.false_eq_true, if_false]

theorem readVariants_local {names : List String} {tokens rest : List Token}
    (read : readVariants tokens = .ok (names, rest)) :
    Local SameNext readVariants (fun rest => .ok (names, rest)) tokens
      rest := by
  -- attributes are skipped alike in every case, so each case only has to
  -- speak of what stands behind them
  have behindAttributes : ∀ (names : List String)
      (tokens start rest : List Token),
      skipAttributes tokens = .ok start →
        Local SameNext readBareVariants (fun rest => .ok (names, rest))
          start rest →
        Local SameNext readVariants (fun rest => .ok (names, rest)) tokens
          rest := by
    intro names tokens start rest skipped bareLocal
    refine (skipAttributes_local skipped).followedBy bareLocal ?_
    intro consumed between behind _ _ attributesEq bareEq
    rw [readVariants_eq attributesEq]
    exact bareEq
  fun_induction readVariants tokens generalizing names rest with
  | case1 | case3 =>
      cases read
  | case2 tokens start skipped closing =>
      cases read
      refine behindAttributes [] tokens start start skipped
        ⟨[], rfl, fun other sameNext => ⟨sameNext.same, ?_⟩⟩
      rw [sameNext.atMark_eq] at closing
      exact readBareVariants_ended closing
  | case4 tokens start skipped _ name behind variantRead more
      inductionHypothesis =>
      obtain ⟨⟨others, after⟩, othersRead, answer⟩ :=
        exists_of_map_eq_ok read
      cases answer
      obtain ⟨comma, later, rfl, isComma⟩ := exists_of_atMark more
      have followed : Local SameNext
          (fun tokens => (atMark ',' tokens, readVariants tokens.tail))
          (fun rest => (true, .ok (others, rest))) (comma :: later) rest := by
        refine (inductionHypothesis othersRead).behind [comma] ?_
        intro between behind _ othersEq
        exact Prod.ext isComma othersEq
      have notEnding : endsTypeArguments comma = false :=
        not_ending_of_isMark isComma (by decide)
      have variantLocal : Local SameStop readVariant
          (fun rest => .ok (name, rest)) start (comma :: later) :=
        (readVariant_local variantRead).mono fun _ same =>
          same.sameNext notEnding
      refine behindAttributes _ tokens start rest skipped
        (variantLocal.followedBy followed ?_)
      intro consumed between behind _ _ variantEq followedEq
      obtain ⟨stillMore, othersEq⟩ := Prod.mk.inj followedEq
      rw [readBareVariants_more variantEq stillMore, othersEq]
      rfl
  | case5 tokens start skipped _ name behind variantRead last =>
      rw [Bool.not_eq_true] at last
      cases read
      obtain ⟨consumed, startEq, again⟩ := readVariant_local variantRead
      refine behindAttributes [name] tokens start behind skipped
        ⟨consumed, startEq, fun other sameNext => ?_⟩
      obtain ⟨same, variantEq⟩ := again other sameNext
      rw [sameNext.atMark_eq] at last
      exact ⟨same, readBareVariants_last variantEq last⟩

theorem enterEnumeration_local {name : String} {tokens rest : List Token}
    (entered : enterEnumeration name tokens = .ok rest) :
    Local Anything (enterEnumeration name) Except.ok tokens rest := by
  fun_induction enterEnumeration name tokens with
  | case1 =>
      cases entered
  | case2 token tokens opening =>
      cases entered
      refine ⟨[token], rfl, fun other _ => ⟨?_, ?_⟩⟩
      · exact .stopped _ _ (endsTypeArguments_of_isMark opening (by simp))
      · rw [List.singleton_append, enterEnumeration, if_pos opening]
  | case3 token tokens notOpening inductionHypothesis =>
      refine (inductionHypothesis entered).behind [token] ?_
      intro between behind _ enteredEq
      rw [List.singleton_append, enterEnumeration, if_neg notOpening]
      exact enteredEq

def readEnumerationBody (tokens : List Token) : Result (List String) :=
  match readVariants tokens with
  | .error refusal => .error refusal
  | .ok (names, behindNames) =>
      (expectMark '\x7d' behindNames).map fun rest =>
        (names, skipMark ';' rest)

theorem readEnumeration_eq {name : String} {modifiers : List Modifier}
    {tokens behindName body : List Token}
    (present : expectWord .missingEnumerationName tokens =
      .ok (name, behindName))
    (entered : enterEnumeration name behindName = .ok body) :
    readEnumeration modifiers tokens =
      (readEnumerationBody body).map fun (names, rest) =>
        (⟨name, modifiers, names⟩, rest) := by
  rw [readEnumeration, readEnumerationBody, present]
  simp only [entered]
  cases readVariants body with
  | error refusal =>
      rfl
  | ok read =>
      obtain ⟨names, behindNames⟩ := read
      simp only
      cases expectMark '\x7d' behindNames <;> rfl

theorem readEnumerationBody_local {names : List String}
    {tokens rest : List Token}
    (read : readEnumerationBody tokens = .ok (names, rest)) :
    ∃ reached, skipMark ';' reached = rest ∧
      Local Anything readEnumerationBody
        (fun reached => .ok (names, skipMark ';' reached)) tokens
        reached := by
  unfold readEnumerationBody at read
  split at read
  · cases read
  · rename_i found behindNames namesRead
    obtain ⟨after, closed, answer⟩ := exists_of_map_eq_ok read
    cases answer
    obtain ⟨closing, rfl, isClosing⟩ := exists_of_expectMark closed
    obtain ⟨consumed, rfl, again⟩ := readVariants_local namesRead
    refine ⟨after, rfl, consumed ++ [closing], by simp, fun other _ => ?_⟩
    -- `Local.followedBy` does not apply: the members must be followed by
    -- this very brace, not by what looks the same
    have sameNext : SameNext (closing :: after) (closing :: other) :=
      ⟨.stopped _ _ (endsTypeArguments_of_isMark isClosing (by simp)), rfl⟩
    obtain ⟨same, namesEq⟩ := again _ sameNext
    rw [List.append_assoc, List.singleton_append]
    refine ⟨same, ?_⟩
    rw [readEnumerationBody, namesEq]
    simp only [expectMark_of_isMark isClosing]
    rfl

/-- An enumeration ends with the brace behind its members; a semicolon
behind that is taken as well. -/
theorem readEnumeration_local {modifiers : List Modifier}
    {declared : Enumeration} {tokens rest : List Token}
    (read : readEnumeration modifiers tokens = .ok (declared, rest)) :
    ∃ reached, skipMark ';' reached = rest ∧
      Local Anything (readEnumeration modifiers)
        (fun reached => .ok (declared, skipMark ';' reached)) tokens
        reached := by
  cases present : expectWord .missingEnumerationName tokens with
  | error refusal =>
      rw [readEnumeration, present] at read
      cases read
  | ok found =>
      obtain ⟨name, behindName⟩ := found
      cases entered : enterEnumeration name behindName with
      | error refusal =>
          rw [readEnumeration, present] at read
          simp only [entered] at read
          cases read
      | ok body =>
          rw [readEnumeration_eq present entered] at read
          obtain ⟨⟨names, after⟩, bodyRead, answer⟩ :=
            exists_of_map_eq_ok read
          cases answer
          obtain ⟨token, rfl, named⟩ := exists_of_expectWord present
          obtain ⟨reached, restEq, bodyLocal⟩ :=
            readEnumerationBody_local bodyRead
          refine ⟨reached, restEq, ?_⟩
          have enteredLocal : Local SameStop _ _ _ _ :=
            (enterEnumeration_local entered).mono fun _ _ => trivial
          have behindNameLocal : Local Anything
              (fun tokens => readEnumeration modifiers (token :: tokens))
              (fun reached =>
                .ok (⟨name, modifiers, names⟩, skipMark ';' reached))
              behindName reached := by
            refine enteredLocal.followedBy bodyLocal ?_
            intro consumed between behind _ _ enteredEq bodyEq
            have presentEq : expectWord .missingEnumerationName
                (token :: (consumed ++ between)) =
                  .ok (name, consumed ++ between) :=
              expectWord_of_word named _
            rw [readEnumeration_eq presentEq enteredEq, bodyEq]
            rfl
          refine behindNameLocal.behind [token] ?_
          intro between behind _ enumerationEq
          exact enumerationEq

end ClassDiagram.Reading
