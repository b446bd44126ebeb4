import ClassDiagram.Proofs.Reading.Lookahead

/-!
# Skipped parts are local

What is skipped over groups, statements, attributes and members is skipped
again in front of other tokens.  A group and a statement end with a mark of
their own, so nothing behind them matters.  A member may end in front of the
brace that closes the body around it, and an initializer may follow its block,
so the token behind a member matters a little.
-/

namespace ClassDiagram.Reading

open Source (Token Lexeme)

theorem exists_of_map_eq_ok {ε α β : Type} {convert : α → β}
    {result : Except ε α} {answer : β}
    (mapped : result.map convert = .ok answer) :
    ∃ value, result = .ok value ∧ convert value = answer := by
  cases result with
  | error refusal =>
      cases mapped
  | ok value =>
      cases mapped
      exact ⟨value, rfl, rfl⟩

/-! ## Words and marks that must be next -/

theorem exists_of_expectWord {fault : SyntaxFault} {name : String}
    {tokens rest : List Token}
    (present : expectWord fault tokens = .ok (name, rest)) :
    ∃ token, tokens = token :: rest ∧ word? token = some name := by
  cases tokens with
  | nil =>
      cases present
  | cons token behind =>
      rw [expectWord] at present
      split at present
      · rename_i text named
        cases present
        exact ⟨token, rfl, named⟩
      · cases present

theorem expectWord_of_word {fault : SyntaxFault} {name : String}
    {token : Token} (named : word? token = some name) (rest : List Token) :
    expectWord fault (token :: rest) = .ok (name, rest) := by
  rw [expectWord, named]

theorem exists_of_expectMark {c : Char} {tokens rest : List Token}
    (present : expectMark c tokens = .ok rest) :
    ∃ token, tokens = token :: rest ∧ token.isMark c = true := by
  cases tokens with
  | nil =>
      cases present
  | cons token behind =>
      rw [expectMark] at present
      split at present
      · rename_i isMark
        cases present
        exact ⟨token, rfl, isMark⟩
      · cases present

theorem expectMark_of_isMark {c : Char} {token : Token}
    (isMark : token.isMark c = true) (rest : List Token) :
    expectMark c (token :: rest) = .ok rest := by
  rw [expectMark, if_pos isMark]

theorem exists_of_atMark {c : Char} {tokens : List Token}
    (present : atMark c tokens = true) :
    ∃ token rest, tokens = token :: rest ∧ token.isMark c = true := by
  cases tokens with
  | nil =>
      cases present
  | cons token rest =>
      exact ⟨token, rest, rfl, present⟩

/-! ## Groups -/

theorem skipGroups_local {wanted : List Char} {tokens rest : List Token}
    (skipped : skipGroups wanted tokens = .ok rest) :
    ∃ consumed, tokens = consumed ++ rest ∧
      ∀ other, skipGroups wanted (consumed ++ other) = .ok other := by
  induction tokens generalizing wanted with
  | nil =>
      cases wanted with
      | nil =>
          rw [skipGroups_nil] at skipped
          cases skipped
          exact ⟨[], rfl, skipGroups_nil⟩
      | cons mark outer =>
          rw [skipGroups.eq_def] at skipped
          cases skipped
  | cons token tokens inductionHypothesis =>
      cases wanted with
      | nil =>
          rw [skipGroups_nil] at skipped
          cases skipped
          exact ⟨[], rfl, skipGroups_nil⟩
      | cons mark outer =>
          cases opens : closer? token with
          | some closer =>
              rw [skipGroups_opening opens] at skipped
              obtain ⟨consumed, rfl, again⟩ := inductionHypothesis skipped
              refine ⟨token :: consumed, rfl, fun other => ?_⟩
              rw [List.cons_append, skipGroups_opening opens]
              exact again other
          | none =>
              cases closes : closing? token with
              | none =>
                  rw [skipGroups_neutral opens closes] at skipped
                  obtain ⟨consumed, rfl, again⟩ :=
                    inductionHypothesis skipped
                  refine ⟨token :: consumed, rfl, fun other => ?_⟩
                  rw [List.cons_append, skipGroups_neutral opens closes]
                  exact again other
              | some found =>
                  by_cases isWanted : found = mark
                  · subst isWanted
                    rw [skipGroups_closing closes] at skipped
                    obtain ⟨consumed, rfl, again⟩ :=
                      inductionHypothesis skipped
                    refine ⟨token :: consumed, rfl, fun other => ?_⟩
                    rw [List.cons_append, skipGroups_closing closes]
                    exact again other
                  · rw [skipGroups.eq_def] at skipped
                    simp only [opens, closes, isWanted, if_false] at skipped
                    cases skipped

theorem skipGroup_local {closer : Char} {tokens rest : List Token}
    (skipped : skipGroup closer tokens = .ok rest) :
    ∃ consumed, tokens = consumed ++ rest ∧
      ∀ other, skipGroup closer (consumed ++ other) = .ok other :=
  skipGroups_local skipped

/-! ## Parts of a statement -/

theorem skipUntil_stop {stops : List Char} {token : Token}
    {rest : List Token} (isStop : stops.any token.isMark = true) :
    skipUntil stops (token :: rest) = .ok (token :: rest) := by
  rw [skipUntil, if_pos isStop]

theorem skipUntil_group {stops : List Char} {token : Token}
    {rest after : List Token} {closer : Char}
    (notStop : stops.any token.isMark = false)
    (opens : closer? token = some closer)
    (skipped : skipGroup closer rest = .ok after) :
    skipUntil stops (token :: rest) = skipUntil stops after := by
  rw [skipUntil, notStop, if_neg Bool.false_ne_true]
  simp only [opens]
  split
  · rename_i refused
    rw [skipped] at refused
    cases refused
  · rename_i accepted
    rw [skipped] at accepted
    cases accepted
    rfl

theorem skipUntil_neutral {stops : List Char} {token : Token}
    {rest : List Token} (notStop : stops.any token.isMark = false)
    (notOpening : closer? token = none)
    (notClosing : closing? token = none) :
    skipUntil stops (token :: rest) = skipUntil stops rest := by
  rw [skipUntil, notStop, if_neg Bool.false_ne_true]
  simp only [notOpening, notClosing, Option.isSome_none,
    Bool.false_eq_true, if_false]

/-- The skipped part ends in front of a stop, which is all that matters. -/
theorem skipUntil_local {stops : List Char} {tokens rest : List Token}
    (skipped : skipUntil stops tokens = .ok rest) :
    ∃ consumed token behind, rest = token :: behind ∧
      stops.any token.isMark = true ∧ tokens = consumed ++ rest ∧
      ∀ other, skipUntil stops (consumed ++ token :: other) =
        .ok (token :: other) := by
  fun_induction skipUntil stops tokens with
  | case1 | case3 | case5 =>
      cases skipped
  | case2 token rest isStop =>
      cases skipped
      exact ⟨[], token, rest, rfl, isStop, rfl, fun _ =>
        skipUntil_stop isStop⟩
  | case4 token tokens notStop closer opens after groupSkipped
      inductionHypothesis =>
      rw [Bool.not_eq_true] at notStop
      obtain ⟨group, rfl, groupAgain⟩ := skipGroup_local groupSkipped
      obtain ⟨consumed, stop, behind, rfl, isStop, rfl, again⟩ :=
        inductionHypothesis skipped
      refine ⟨token :: (group ++ consumed), stop, behind, rfl, isStop, ?_,
        fun other => ?_⟩
      · simp [List.append_assoc]
      · rw [List.cons_append, List.append_assoc,
          skipUntil_group notStop opens (groupAgain _)]
        exact again other
  | case6 token tokens notStop notOpening notClosing inductionHypothesis =>
      rw [Bool.not_eq_true] at notStop
      rw [Option.not_isSome_iff_eq_none] at notClosing
      obtain ⟨consumed, stop, behind, rfl, isStop, rfl, again⟩ :=
        inductionHypothesis skipped
      refine ⟨token :: consumed, stop, behind, rfl, isStop, rfl,
        fun other => ?_⟩
      rw [List.cons_append,
        skipUntil_neutral notStop notOpening notClosing]
      exact again other

/-- A statement ends with its semicolon, whatever follows. -/
theorem skipStatement_local {tokens rest : List Token}
    (skipped : skipStatement tokens = .ok rest) :
    ∃ consumed, tokens = consumed ++ rest ∧
      ∀ other, skipStatement (consumed ++ other) = .ok other := by
  obtain ⟨stopped, reached, answer⟩ := exists_of_map_eq_ok skipped
  cases answer
  obtain ⟨consumed, stop, behind, rfl, _, rfl, again⟩ :=
    skipUntil_local reached
  refine ⟨consumed ++ [stop], by simp, fun other => ?_⟩
  rw [skipStatement, List.append_assoc, List.singleton_append, again]
  rfl

/-! ## Attributes -/

theorem skipAttributes_section {token : Token} {rest after : List Token}
    (opening : token.isMark '[' = true)
    (skipped : skipGroup ']' rest = .ok after) :
    skipAttributes (token :: rest) = skipAttributes after := by
  rw [skipAttributes, if_pos opening]
  split
  · rename_i refused
    rw [skipped] at refused
    cases refused
  · rename_i accepted
    rw [skipped] at accepted
    cases accepted
    rfl

theorem skipAttributes_none {tokens : List Token}
    (other : atMark '[' tokens = false) :
    skipAttributes tokens = .ok tokens := by
  cases tokens with
  | nil =>
      rw [skipAttributes]
  | cons token rest =>
      have notOpening : token.isMark '[' = false := other
      rw [skipAttributes, notOpening, if_neg Bool.false_ne_true]

/-- Attributes are skipped up to the next token that opens no section. -/
theorem skipAttributes_again {tokens rest : List Token}
    (skipped : skipAttributes tokens = .ok rest) :
    atMark '[' rest = false ∧ ∃ consumed, tokens = consumed ++ rest ∧
      ∀ other, atMark '[' other = false →
        skipAttributes (consumed ++ other) = .ok other := by
  fun_induction skipAttributes tokens with
  | case1 =>
      cases skipped
      exact ⟨rfl, [], rfl, fun _ => skipAttributes_none⟩
  | case2 =>
      cases skipped
  | case3 token tokens opening after groupSkipped inductionHypothesis =>
      obtain ⟨group, rfl, groupAgain⟩ := skipGroup_local groupSkipped
      obtain ⟨stopped, consumed, rfl, again⟩ := inductionHypothesis skipped
      refine ⟨stopped, token :: (group ++ consumed), by simp,
        fun other behind => ?_⟩
      rw [List.cons_append, List.append_assoc,
        skipAttributes_section opening (groupAgain _)]
      exact again other behind
  | case4 token tokens notOpening =>
      cases skipped
      rw [Bool.not_eq_true] at notOpening
      exact ⟨notOpening, [], rfl, fun _ => skipAttributes_none⟩

theorem skipAttributes_local {tokens rest : List Token}
    (skipped : skipAttributes tokens = .ok rest) :
    Local SameStop skipAttributes Except.ok tokens rest := by
  obtain ⟨stopped, consumed, rfl, again⟩ := skipAttributes_again skipped
  refine ⟨consumed, rfl, fun other same => ⟨same.append consumed, ?_⟩⟩
  apply again
  rwa [← same.atMark_eq (by decide)]

/-! ## Members -/

/-- What follows a member looks the same: an initializer, a separator or the
end of the body follows in both lists or in neither. -/
structure ResumesAlike (left right : List Token) : Prop where
  ended : atEnd left = atEnd right
  value : atMark '=' left = atMark '=' right
  separator : atMark ';' left = atMark ';' right

theorem SameStop.resumesAlike {left right : List Token}
    (same : SameStop left right) : ResumesAlike left right :=
  ⟨same.atEnd_eq, same.atMark_eq (by decide), same.atMark_eq (by decide)⟩

theorem ResumesAlike.append {left right : List Token}
    (alike : ResumesAlike left right) (consumed : List Token) :
    ResumesAlike (consumed ++ left) (consumed ++ right) := by
  cases consumed with
  | nil =>
      exact alike
  | cons token rest =>
      exact ⟨rfl, rfl, rfl⟩

theorem skipMember_ended {tokens : List Token}
    (ended : atEnd tokens = true) : skipMember tokens = .ok tokens := by
  cases tokens with
  | nil =>
      rw [skipMember]
  | cons token rest =>
      have closing : token.isMark '\x7d' = true := ended
      rw [skipMember, if_pos closing]

theorem skipMember_separator {token : Token} {rest : List Token}
    (separator : token.isMark ';' = true) :
    skipMember (token :: rest) = .ok rest := by
  have inside : token.isMark '\x7d' = false := by
    simp only [Token.isMark, beq_iff_eq] at separator
    simp [Token.isMark, separator]
  rw [skipMember, inside, if_neg Bool.false_ne_true, if_pos separator]

theorem skipMember_group {token : Token} {rest after : List Token}
    {closer : Char} (inside : token.isMark '\x7d' = false)
    (noSeparator : token.isMark ';' = false)
    (opens : closer? token = some closer)
    (skipped : skipGroup closer rest = .ok after) :
    skipMember (token :: rest) =
      if closer = '\x7d' ∧ atMark '=' after = false then .ok after
      else skipMember after := by
  rw [skipMember, inside, noSeparator]
  simp only [Bool.false_eq_true, if_false, opens]
  split
  · rename_i refused
    rw [skipped] at refused
    cases refused
  · rename_i accepted
    rw [skipped] at accepted
    cases accepted
    rfl

theorem skipMember_neutral {token : Token} {rest : List Token}
    (inside : token.isMark '\x7d' = false)
    (noSeparator : token.isMark ';' = false)
    (notOpening : closer? token = none) :
    skipMember (token :: rest) = skipMember rest := by
  rw [skipMember, inside, noSeparator]
  simp only [Bool.false_eq_true, if_false, notOpening]

theorem isMark_of_closer?_brace {token : Token}
    (opens : closer? token = some '\x7d') : token.isMark '\x7b' = true := by
  obtain ⟨lead, lexeme⟩ := token
  cases lexeme with
  | mark c =>
      simp only [closer?, closingMark?] at opens
      split at opens <;> simp_all [Token.isMark]
  | _ =>
      cases opens

theorem skipMember_local {tokens rest : List Token}
    (skipped : skipMember tokens = .ok rest) :
    Local ResumesAlike skipMember Except.ok tokens rest := by
  fun_induction skipMember tokens with
  | case1 =>
      cases skipped
      refine ⟨[], rfl, fun other alike => ?_⟩
      have ended : atEnd other = true := alike.ended.symm
      exact ⟨.ended rfl ended, skipMember_ended ended⟩
  | case2 token tokens closing =>
      cases skipped
      refine ⟨[], rfl, fun other alike => ?_⟩
      have ended : atEnd other = true := alike.ended.symm.trans closing
      exact ⟨.ended closing ended, skipMember_ended ended⟩
  | case3 token tokens inside separator =>
      cases skipped
      refine ⟨[token], rfl, fun other _ => ⟨?_, ?_⟩⟩
      · exact .stopped _ _
          (endsTypeArguments_of_isMark separator (by simp))
      · exact skipMember_separator separator
  | case4 =>
      cases skipped
  | case5 token tokens inside noSeparator closer opens after groupSkipped
      blockEnds =>
      cases skipped
      rw [Bool.not_eq_true] at inside noSeparator
      obtain ⟨group, rfl, groupAgain⟩ := skipGroup_local groupSkipped
      refine ⟨token :: group, rfl, fun other alike => ⟨?_, ?_⟩⟩
      · have isBrace := isMark_of_closer?_brace (blockEnds.1 ▸ opens)
        exact .stopped _ _
          (endsTypeArguments_of_isMark isBrace (by simp))
      · have noValue : atMark '=' other = false :=
          alike.value.symm.trans blockEnds.2
        rw [List.cons_append, skipMember_group inside noSeparator opens
          (groupAgain other), if_pos ⟨blockEnds.1, noValue⟩]
  | case6 token tokens inside noSeparator closer opens after groupSkipped
      blockGoesOn inductionHypothesis =>
      rw [Bool.not_eq_true] at inside noSeparator
      obtain ⟨group, rfl, groupAgain⟩ := skipGroup_local groupSkipped
      obtain ⟨consumed, rfl, again⟩ := inductionHypothesis skipped
      refine ⟨token :: (group ++ consumed), by simp, fun other alike => ?_⟩
      obtain ⟨same, answer⟩ := again other alike
      refine ⟨?_, ?_⟩
      · have whole := same.append (token :: group)
        simpa using whole
      · rw [List.cons_append, List.append_assoc, skipMember_group inside
          noSeparator opens (groupAgain _), if_neg ?_]
        · exact answer
        · rw [← same.resumesAlike.value]
          exact blockGoesOn
  | case7 token tokens inside noSeparator notOpening inductionHypothesis =>
      rw [Bool.not_eq_true] at inside noSeparator
      obtain ⟨consumed, rfl, again⟩ := inductionHypothesis skipped
      refine ⟨token :: consumed, rfl, fun other alike => ?_⟩
      obtain ⟨same, answer⟩ := again other alike
      refine ⟨.shared same, ?_⟩
      rw [List.cons_append, skipMember_neutral inside noSeparator notOpening]
      exact answer

/-! ## Method bodies -/

/-- Nothing behind the routine matters. -/
def Anything (_ _ : List Token) : Prop :=
  True

theorem skipMethodBody_block {name : String} {token : Token}
    {rest : List Token} (opening : token.isMark '\x7b' = true) :
    skipMethodBody name (token :: rest) = skipGroup '\x7d' rest := by
  rw [skipMethodBody, if_pos opening]

theorem skipMethodBody_arrow {name : String} {token : Token}
    {rest : List Token} (arrow : token.lexeme = .arrow) :
    skipMethodBody name (token :: rest) = skipStatement rest := by
  have noBlock : token.isMark '\x7b' = false := by
    simp [Token.isMark, arrow]
  rw [skipMethodBody, noBlock, if_neg Bool.false_ne_true, if_pos arrow]

theorem skipMethodBody_semicolon {name : String} {token : Token}
    {rest : List Token} (separator : token.isMark ';' = true) :
    skipMethodBody name (token :: rest) = .ok rest := by
  simp only [Token.isMark, beq_iff_eq] at separator
  rw [skipMethodBody]
  simp [Token.isMark, separator]

/-- A token that neither begins nor ends the body of a method. -/
def standsBeforeBody (token : Token) : Bool :=
  !(token.isMark '\x7b' || token.lexeme == .arrow || token.isMark ';' ||
    token.isMark '\x7d')

theorem skipMethodBody_group {name : String} {token : Token}
    {rest after : List Token} {closer : Char}
    (before : standsBeforeBody token = true)
    (opens : closer? token = some closer)
    (skipped : skipGroup closer rest = .ok after) :
    skipMethodBody name (token :: rest) = skipMethodBody name after := by
  simp only [standsBeforeBody, Bool.not_eq_true', Bool.or_eq_false_iff,
    beq_eq_false_iff_ne, ne_eq] at before
  obtain ⟨⟨⟨noBlock, noArrow⟩, noSeparator⟩, inside⟩ := before
  rw [skipMethodBody]
  simp only [noBlock, noArrow, noSeparator, inside, Bool.false_eq_true,
    if_false, opens]
  split
  · rename_i refused
    rw [skipped] at refused
    cases refused
  · rename_i accepted
    rw [skipped] at accepted
    cases accepted
    rfl

theorem skipMethodBody_neutral {name : String} {token : Token}
    {rest : List Token} (before : standsBeforeBody token = true)
    (notOpening : closer? token = none) :
    skipMethodBody name (token :: rest) = skipMethodBody name rest := by
  simp only [standsBeforeBody, Bool.not_eq_true', Bool.or_eq_false_iff,
    beq_eq_false_iff_ne, ne_eq] at before
  obtain ⟨⟨⟨noBlock, noArrow⟩, noSeparator⟩, inside⟩ := before
  rw [skipMethodBody]
  simp only [noBlock, noArrow, noSeparator, inside, Bool.false_eq_true,
    if_false, notOpening]

theorem skipMethodBody_local {name : String} {tokens rest : List Token}
    (skipped : skipMethodBody name tokens = .ok rest) :
    Local Anything (skipMethodBody name) Except.ok tokens rest := by
  fun_induction skipMethodBody name tokens with
  | case1 | case5 | case6 =>
      cases skipped
  | case2 token tokens opening =>
      obtain ⟨group, rfl, again⟩ := skipGroup_local skipped
      refine ⟨token :: group, rfl, fun other _ => ⟨?_, ?_⟩⟩
      · exact .stopped _ _ (endsTypeArguments_of_isMark opening (by simp))
      · rw [List.cons_append, skipMethodBody_block opening]
        exact again other
  | case3 token tokens noBlock arrow =>
      obtain ⟨statement, rfl, again⟩ := skipStatement_local skipped
      refine ⟨token :: statement, rfl, fun other _ => ⟨?_, ?_⟩⟩
      · exact .stopped _ _ (by simp [endsTypeArguments, arrow])
      · rw [List.cons_append, skipMethodBody_arrow arrow]
        exact again other
  | case4 token tokens noBlock noArrow separator =>
      cases skipped
      refine ⟨[token], rfl, fun other _ => ⟨?_, ?_⟩⟩
      · exact .stopped _ _
          (endsTypeArguments_of_isMark separator (by simp))
      · exact skipMethodBody_semicolon separator
  | case7 token tokens noBlock noArrow noSeparator inside closer opens
      after groupSkipped inductionHypothesis =>
      have before : standsBeforeBody token = true := by
        simp [standsBeforeBody, noBlock, noArrow, noSeparator, inside]
      obtain ⟨group, rfl, groupAgain⟩ := skipGroup_local groupSkipped
      refine (inductionHypothesis skipped).behind (token :: group) ?_
      intro between behind _ bodyEq
      rw [List.cons_append, skipMethodBody_group before opens
        (groupAgain between)]
      exact bodyEq
  | case8 token tokens noBlock noArrow noSeparator inside notOpening
      inductionHypothesis =>
      have before : standsBeforeBody token = true := by
        simp [standsBeforeBody, noBlock, noArrow, noSeparator, inside]
      refine (inductionHypothesis skipped).behind [token] ?_
      intro between behind _ bodyEq
      rw [List.singleton_append, skipMethodBody_neutral before notOpening]
      exact bodyEq

end ClassDiagram.Reading
