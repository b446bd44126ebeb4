import ClassDiagram.Proofs.Reading.SkippedParts
import ClassDiagram.Proofs.Reading.Steps
import ClassDiagram.Proofs.Text.Brackets
import ClassDiagram.Reading.Outline

/-!
# Braces that are passed over

What a routine of the reader leaves are the last of the tokens that it was
given.  The tokens before them are taken one by one, many of them unseen, so
that a routine could take a brace and leave its partner behind.  None of them
does: the braces between the two places are balanced.

Two routines end inside a body on purpose, and are followed up to its brace
only.  The search for the body of an enumeration is the one that may take any
brace but the one it looks for.
-/

namespace ClassDiagram.Reading

open Source (Token Lexeme)
open Text (Brackets)

/-- A brace opens or closes; all other tokens are neutral. -/
def braces : Brackets Token where
  opens token := token.isMark '\x7b'
  closes token := token.isMark '\x7d'
  disjoint _ opens := isMark_unique opens (by decide)

def isNeutral (token : Token) : Bool :=
  !token.isMark '\x7b' && !token.isMark '\x7d'

/-- The second tokens are left of the first ones, and the braces before them
are balanced. -/
def Passed (tokens rest : List Token) : Prop :=
  ∃ consumed, tokens = consumed ++ rest ∧ braces.Balanced consumed

namespace Passed

theorem refl (tokens : List Token) : Passed tokens tokens :=
  ⟨[], rfl, Brackets.balanced_nil⟩

theorem trans {tokens between rest : List Token}
    (first : Passed tokens between) (second : Passed between rest) :
    Passed tokens rest := by
  obtain ⟨left, rfl, leftBalanced⟩ := first
  obtain ⟨right, rfl, rightBalanced⟩ := second
  exact ⟨left ++ right, (List.append_assoc ..).symm,
    leftBalanced.append rightBalanced⟩

/-- One more token is passed that is no brace. -/
theorem cons {token : Token} {tokens rest : List Token}
    (neutral : isNeutral token = true) (passed : Passed tokens rest) :
    Passed (token :: tokens) rest := by
  obtain ⟨consumed, rfl, balanced⟩ := passed
  simp only [isNeutral, Bool.and_eq_true, Bool.not_eq_true'] at neutral
  exact ⟨token :: consumed, rfl, balanced.cons_neutral neutral.1 neutral.2⟩

theorem next {token : Token} {rest : List Token}
    (neutral : isNeutral token = true) : Passed (token :: rest) rest :=
  cons neutral (refl rest)

theorem suffix {tokens rest : List Token} (passed : Passed tokens rest) :
    rest <:+ tokens := by
  obtain ⟨consumed, rfl, _⟩ := passed
  exact List.suffix_append consumed rest

end Passed

/-! ## Single tokens -/

theorem isNeutral_of_isMark {token : Token} {c : Char}
    (isMark : token.isMark c = true)
    (different : c ≠ '\x7b' ∧ c ≠ '\x7d') : isNeutral token = true := by
  rw [isNeutral, isMark_unique isMark different.1,
    isMark_unique isMark different.2]
  rfl

theorem isNeutral_of_isAnyWord {token : Token}
    (isWord : token.isAnyWord = true) : isNeutral token = true := by
  obtain ⟨lead, lexeme⟩ := token
  cases lexeme with
  | word text =>
      rfl
  | _ =>
      cases isWord

theorem isNeutral_of_isWord {token : Token} {text : String}
    (isWord : token.isWord text = true) : isNeutral token = true := by
  rw [isNeutral, isMark_eq_false_of_isWord isWord,
    isMark_eq_false_of_isWord isWord]
  rfl

theorem isNeutral_of_word? {token : Token} {text : String}
    (isWord : word? token = some text) : isNeutral token = true := by
  obtain ⟨lead, lexeme⟩ := token
  cases lexeme with
  | word other =>
      rfl
  | _ =>
      cases isWord

/-- A token that opens no group opens no brace. -/
theorem isMark_brace_of_closer?_none {token : Token}
    (notOpening : closer? token = none) : token.isMark '\x7b' = false := by
  obtain ⟨lead, lexeme⟩ := token
  cases lexeme with
  | mark c =>
      simp only [closer?, closingMark?] at notOpening
      split at notOpening <;> simp_all [Token.isMark]
  | _ =>
      rfl

theorem isMark_brace_of_closing?_none {token : Token}
    (notClosing : closing? token = none) : token.isMark '\x7d' = false := by
  obtain ⟨lead, lexeme⟩ := token
  cases lexeme with
  | mark c =>
      by_cases brace : c = '\x7d'
      · subst brace
        cases notClosing
      · simpa [Token.isMark] using brace
  | _ =>
      rfl

theorem isNeutral_of_no_group {token : Token}
    (notOpening : closer? token = none)
    (inside : token.isMark '\x7d' = false) : isNeutral token = true := by
  rw [isNeutral, isMark_brace_of_closer?_none notOpening, inside]
  rfl

/-- Braces are counted with the groups that they open and close. -/
theorem depthAfter?_of_closer? {token : Token} {closer : Char}
    (opens : closer? token = some closer) (outer : List Char) :
    braces.depthAfter? (outer.count '\x7d') token =
      some ((closer :: outer).count '\x7d') := by
  by_cases brace : closer = '\x7d'
  · subst brace
    rw [List.count_cons_self]
    exact Brackets.depthAfter?_opening _ (isMark_of_closer?_brace opens)
  · rw [List.count_cons_of_ne brace]
    obtain ⟨lead, lexeme⟩ := token
    cases lexeme with
    | mark c =>
        have notOpening : c ≠ '\x7b' := by
          rintro rfl
          exact brace (Option.some.inj opens).symm
        have notClosing : c ≠ '\x7d' := by
          rintro rfl
          cases opens
        apply Brackets.depthAfter?_neutral
        · simpa [braces, Token.isMark] using notOpening
        · simpa [braces, Token.isMark] using notClosing
    | _ =>
        cases opens

theorem depthAfter?_of_closing? {token : Token} {closer : Char}
    (closes : closing? token = some closer) (outer : List Char) :
    braces.depthAfter? ((closer :: outer).count '\x7d') token =
      some (outer.count '\x7d') := by
  obtain ⟨lead, lexeme⟩ := token
  cases lexeme with
  | mark c =>
      simp only [closing?] at closes
      split at closes
      · cases closes
        by_cases brace : closer = '\x7d'
        · subst brace
          rw [List.count_cons_self]
          exact Brackets.depthAfter?_closing _ (beq_self_eq_true _)
        · rw [List.count_cons_of_ne brace]
          apply Brackets.depthAfter?_neutral
          · rename_i isClosing
            simp only [isClosingMark, Bool.or_eq_true,
              beq_iff_eq] at isClosing
            rcases isClosing with (rfl | rfl) | rfl <;> rfl
          · simpa [braces, Token.isMark] using brace
      · cases closes
  | _ =>
      cases closes

/-! ## Groups -/

/-- Behind the open groups as many braces are closed as the groups had. -/
theorem skipGroups_passed {wanted : List Char} {tokens rest : List Token}
    (skipped : skipGroups wanted tokens = .ok rest) :
    ∃ consumed, tokens = consumed ++ rest ∧
      braces.depthBehind? (wanted.count '\x7d') consumed = some 0 := by
  fun_induction skipGroups wanted tokens with
  | case1 tokens =>
      cases skipped
      exact ⟨[], rfl, rfl⟩
  | case2 | case6 =>
      cases skipped
  | case3 wanted outer token tokens closer opens inductionHypothesis =>
      obtain ⟨consumed, rfl, counted⟩ := inductionHypothesis skipped
      refine ⟨token :: consumed, rfl, ?_⟩
      rw [Brackets.depthBehind?_cons, depthAfter?_of_closer? opens]
      exact counted
  | case4 wanted outer token tokens notOpening notClosing
      inductionHypothesis =>
      obtain ⟨consumed, rfl, counted⟩ := inductionHypothesis skipped
      refine ⟨token :: consumed, rfl, ?_⟩
      rw [Brackets.depthBehind?_cons, Brackets.depthAfter?_neutral _
        (isMark_brace_of_closer?_none notOpening)
        (isMark_brace_of_closing?_none notClosing)]
      exact counted
  | case5 outer token tokens notOpening found closes
      inductionHypothesis =>
      obtain ⟨consumed, rfl, counted⟩ := inductionHypothesis skipped
      refine ⟨token :: consumed, rfl, ?_⟩
      rw [Brackets.depthBehind?_cons, depthAfter?_of_closing? closes]
      exact counted

theorem skipGroup_passed {token : Token} {closer : Char}
    {tokens rest : List Token} (opens : closer? token = some closer)
    (skipped : skipGroup closer tokens = .ok rest) :
    Passed (token :: tokens) rest := by
  obtain ⟨consumed, rfl, counted⟩ := skipGroups_passed skipped
  refine ⟨token :: consumed, rfl, ?_⟩
  have opened := depthAfter?_of_closer? opens []
  rw [List.count_nil] at opened
  rw [Brackets.Balanced, Brackets.depthBehind?_cons, opened]
  exact counted

theorem closer?_bracket {token : Token} (opening : token.isMark '[' = true) :
    closer? token = some ']' := by
  simp only [Token.isMark, beq_iff_eq] at opening
  rw [closer?, opening]
  rfl

theorem closer?_parenthesis {token : Token}
    (opening : token.isMark '(' = true) : closer? token = some ')' := by
  simp only [Token.isMark, beq_iff_eq] at opening
  rw [closer?, opening]
  rfl

theorem closer?_brace {token : Token}
    (opening : token.isMark '\x7b' = true) : closer? token = some '\x7d' := by
  simp only [Token.isMark, beq_iff_eq] at opening
  rw [closer?, opening]
  rfl

/-! ## Skipped parts -/

theorem skipMark_passed {c : Char} (noBrace : c ≠ '\x7b' ∧ c ≠ '\x7d')
    (tokens : List Token) : Passed tokens (skipMark c tokens) := by
  cases tokens with
  | nil =>
      exact .refl _
  | cons token rest =>
      rw [skipMark]
      split
      · rename_i present
        exact .next (isNeutral_of_isMark present noBrace)
      · exact .refl _

theorem skipWord_passed (text : String) (tokens : List Token) :
    Passed tokens (skipWord text tokens) := by
  cases tokens with
  | nil =>
      exact .refl _
  | cons token rest =>
      rw [skipWord]
      split
      · rename_i present
        exact .next (isNeutral_of_isWord present)
      · exact .refl _

theorem tail_passed {c : Char} {tokens : List Token}
    (present : atMark c tokens = true)
    (noBrace : c ≠ '\x7b' ∧ c ≠ '\x7d') : Passed tokens tokens.tail := by
  cases tokens with
  | nil =>
      cases present
  | cons token rest =>
      exact .next (isNeutral_of_isMark present noBrace)

theorem expectMark_passed {c : Char} {tokens rest : List Token}
    (present : expectMark c tokens = .ok rest)
    (noBrace : c ≠ '\x7b' ∧ c ≠ '\x7d') : Passed tokens rest := by
  obtain ⟨token, rfl, isMark⟩ := exists_of_expectMark present
  exact .next (isNeutral_of_isMark isMark noBrace)

theorem expectWord_passed {fault : SyntaxFault} {text : String}
    {tokens rest : List Token}
    (present : expectWord fault tokens = .ok (text, rest)) :
    Passed tokens rest := by
  obtain ⟨token, rfl, isWord⟩ := exists_of_expectWord present
  exact .next (isNeutral_of_word? isWord)

theorem skipUntil_passed {stops : List Char} {tokens rest : List Token}
    (skipped : skipUntil stops tokens = .ok rest) : Passed tokens rest := by
  fun_induction skipUntil stops tokens with
  | case1 | case3 | case5 =>
      cases skipped
  | case2 =>
      cases skipped
      exact .refl _
  | case4 token tokens notStop closer opens after groupSkipped
      inductionHypothesis =>
      exact (skipGroup_passed opens groupSkipped).trans
        (inductionHypothesis skipped)
  | case6 token tokens notStop notOpening notClosing inductionHypothesis =>
      rw [Option.not_isSome_iff_eq_none] at notClosing
      exact .cons (isNeutral_of_no_group notOpening
        (isMark_brace_of_closing?_none notClosing))
        (inductionHypothesis skipped)

/-- The token that the search ends at is a stop. -/
theorem skipUntil_stopped {stops : List Char} {tokens rest : List Token}
    (skipped : skipUntil stops tokens = .ok rest) :
    ∃ token behind, rest = token :: behind ∧
      stops.any token.isMark = true := by
  obtain ⟨_, token, behind, stopped, isStop, _⟩ := skipUntil_local skipped
  exact ⟨token, behind, stopped, isStop⟩

theorem skipStatement_passed {tokens rest : List Token}
    (skipped : skipStatement tokens = .ok rest) : Passed tokens rest := by
  obtain ⟨stopped, reached, answer⟩ := exists_of_map_eq_ok skipped
  obtain ⟨token, behind, rfl, isStop⟩ := skipUntil_stopped reached
  cases answer
  have separator : token.isMark ';' = true := by
    simpa using isStop
  exact (skipUntil_passed reached).trans
    (.next (isNeutral_of_isMark separator (by decide)))

theorem skipAttributes_passed {tokens rest : List Token}
    (skipped : skipAttributes tokens = .ok rest) : Passed tokens rest := by
  fun_induction skipAttributes tokens with
  | case1 | case4 =>
      cases skipped
      exact .refl _
  | case2 =>
      cases skipped
  | case3 token tokens opening after groupSkipped inductionHypothesis =>
      exact (skipGroup_passed (closer?_bracket opening) groupSkipped).trans
        (inductionHypothesis skipped)

theorem skipMember_passed {tokens rest : List Token}
    (skipped : skipMember tokens = .ok rest) : Passed tokens rest := by
  fun_induction skipMember tokens with
  | case1 | case2 =>
      cases skipped
      exact .refl _
  | case3 token tokens inside separator =>
      cases skipped
      exact .next (isNeutral_of_isMark separator (by decide))
  | case4 =>
      cases skipped
  | case5 token tokens inside noSeparator closer opens after groupSkipped
      blockEnds =>
      cases skipped
      exact skipGroup_passed opens groupSkipped
  | case6 token tokens inside noSeparator closer opens after groupSkipped
      blockGoesOn inductionHypothesis =>
      exact (skipGroup_passed opens groupSkipped).trans
        (inductionHypothesis skipped)
  | case7 token tokens inside noSeparator notOpening inductionHypothesis =>
      rw [Bool.not_eq_true] at inside
      exact .cons (isNeutral_of_no_group notOpening inside)
        (inductionHypothesis skipped)

theorem skipMethodBody_passed {name : String} {tokens rest : List Token}
    (skipped : skipMethodBody name tokens = .ok rest) :
    Passed tokens rest := by
  fun_induction skipMethodBody name tokens with
  | case1 | case5 | case6 =>
      cases skipped
  | case2 token tokens opening =>
      exact skipGroup_passed (closer?_brace opening) skipped
  | case3 token tokens noBlock arrow =>
      have neutral : isNeutral token = true := by
        simp [isNeutral, Token.isMark, arrow]
      exact .cons neutral (skipStatement_passed skipped)
  | case4 token tokens noBlock noArrow separator =>
      cases skipped
      exact .next (isNeutral_of_isMark separator (by decide))
  | case7 token tokens noBlock noArrow noSeparator inside closer opens
      after groupSkipped inductionHypothesis =>
      exact (skipGroup_passed opens groupSkipped).trans
        (inductionHypothesis skipped)
  | case8 token tokens noBlock noArrow noSeparator inside notOpening
      inductionHypothesis =>
      rw [Bool.not_eq_true] at inside
      exact .cons (isNeutral_of_no_group notOpening inside)
        (inductionHypothesis skipped)

/-! ## Types -/

/-- No type argument list reaches over a brace. -/
theorem afterAngles?_passed {depth : Nat} {tokens rest : List Token}
    (closed : afterAngles? depth tokens = some rest) :
    Passed tokens rest := by
  fun_induction afterAngles? depth tokens with
  | case1 | case5 =>
      cases closed
  | case2 depth token tokens opening inductionHypothesis =>
      exact .cons (isNeutral_of_isMark opening (by decide))
        (inductionHypothesis closed)
  | case3 token tokens notOpening closing =>
      cases closed
      exact .next (isNeutral_of_isMark closing (by decide))
  | case4 token tokens notOpening closing outer inductionHypothesis =>
      exact .cons (isNeutral_of_isMark closing (by decide))
        (inductionHypothesis closed)
  | case6 depth token tokens notOpening notClosing inside
      inductionHypothesis =>
      simp only [endsTypeArguments, Bool.not_eq_true,
        Bool.or_eq_false_iff] at inside
      have neutral : isNeutral token = true := by
        rw [isNeutral, inside.1.1.2, inside.1.2]
        rfl
      exact .cons neutral (inductionHypothesis closed)

theorem afterAngles?_tail_passed {tokens rest : List Token}
    (present : atMark '<' tokens = true)
    (closed : afterAngles? 0 tokens.tail = some rest) :
    Passed tokens rest :=
  (tail_passed present (by decide)).trans (afterAngles?_passed closed)

theorem skipAngles_passed (tokens : List Token) :
    Passed tokens (skipAngles tokens) := by
  unfold skipAngles
  split
  · rename_i present
    cases closed : afterAngles? 0 tokens.tail with
    | none =>
        exact .refl _
    | some rest =>
        exact afterAngles?_tail_passed present closed
  · exact .refl _

theorem afterQualifier?_passed {tokens rest : List Token}
    (qualified : afterQualifier? tokens = some rest) :
    Passed tokens rest := by
  unfold afterQualifier? at qualified
  split at qualified
  · rename_i first second others
    split at qualified
    · rename_i dotted
      rw [Bool.and_eq_true] at dotted
      split at qualified
      · cases qualified
        exact .cons (isNeutral_of_isMark dotted.1 (by decide))
          (.next (isNeutral_of_isAnyWord dotted.2))
      · cases qualified
    · split at qualified
      · rename_i colons
        rw [Bool.and_eq_true] at colons
        split at qualified
        · rename_i named
          cases qualified
          cases others with
          | nil =>
              cases named
          | cons name behind =>
              exact .cons (isNeutral_of_isMark colons.1 (by decide))
                (.cons (isNeutral_of_isMark colons.2 (by decide))
                  (.next (isNeutral_of_isAnyWord named)))
        · cases qualified
      · cases qualified
  · cases qualified

theorem skipNameParts_passed (tokens : List Token) :
    Passed tokens (skipNameParts tokens) := by
  fun_induction skipNameParts tokens with
  | case1 tokens =>
      exact .refl _
  | case2 tokens _ rest qualified inductionHypothesis =>
      exact (skipAngles_passed tokens).trans
        ((afterQualifier?_passed qualified).trans inductionHypothesis)
  | case3 tokens =>
      exact skipAngles_passed tokens

theorem skipTypeSuffixes_passed {tokens rest : List Token}
    (skipped : skipTypeSuffixes tokens = .ok rest) :
    Passed tokens rest := by
  fun_induction skipTypeSuffixes tokens with
  | case1 | case5 =>
      cases skipped
      exact .refl _
  | case2 token tokens marked inductionHypothesis =>
      rw [Bool.or_eq_true] at marked
      have neutral : isNeutral token = true := by
        rcases marked with nullable | pointer
        · exact isNeutral_of_isMark nullable (by decide)
        · exact isNeutral_of_isMark pointer (by decide)
      exact .cons neutral (inductionHypothesis skipped)
  | case3 =>
      cases skipped
  | case4 token tokens notMarked array after groupSkipped
      inductionHypothesis =>
      have opening : token.isMark '[' = true := by
        cases tokens with
        | nil =>
            cases array
        | cons second others =>
            rw [atArraySuffix, Bool.and_eq_true] at array
            exact array.1
      exact (skipGroup_passed (closer?_bracket opening) groupSkipped).trans
        (inductionHypothesis skipped)

theorem skipReferenceWords_passed (tokens : List Token) :
    Passed tokens (skipReferenceWords tokens) := by
  unfold skipReferenceWords
  split
  · rename_i token rest
    split
    · rename_i present
      exact .cons (isNeutral_of_isWord present) (skipWord_passed _ rest)
    · exact .refl _
  · exact .refl _

theorem skipType?_passed {tokens rest : List Token}
    (skipped : skipType? tokens = .ok (some rest)) :
    Passed tokens rest := by
  refine (skipReferenceWords_passed tokens).trans ?_
  unfold skipType? at skipped
  split at skipped
  · cases skipped
  · rename_i token others start
    rw [start]
    split at skipped
    · rename_i opening
      split at skipped
      · cases skipped
      · rename_i after groupSkipped
        obtain ⟨behind, suffixed, answer⟩ := exists_of_map_eq_ok skipped
        cases answer
        exact (skipGroup_passed (closer?_parenthesis opening)
          groupSkipped).trans (skipTypeSuffixes_passed suffixed)
    · split at skipped
      · rename_i named
        obtain ⟨behind, suffixed, answer⟩ := exists_of_map_eq_ok skipped
        cases answer
        obtain ⟨text, isName⟩ := Option.isSome_iff_exists.1 named
        have isWord := (Option.filter_eq_some_iff.1 isName).1
        exact .cons (isNeutral_of_word? isWord)
          ((skipNameParts_passed others).trans
            (skipTypeSuffixes_passed suffixed))
      · cases skipped

/-! ## Parameters -/

theorem skipParameterModifiers_passed (tokens : List Token) :
    Passed tokens (skipParameterModifiers tokens) := by
  fun_induction skipParameterModifiers tokens with
  | case1 | case3 =>
      exact .refl _
  | case2 token tokens modifier inductionHypothesis =>
      unfold isParameterModifier at modifier
      split at modifier
      · rename_i isWord
        exact .cons (isNeutral_of_word? isWord) inductionHypothesis
      · cases modifier

theorem skipDefaultValue_passed {tokens rest : List Token}
    (skipped : skipDefaultValue tokens = .ok rest) : Passed tokens rest := by
  unfold skipDefaultValue at skipped
  split at skipped
  · rename_i present
    exact (tail_passed present (by decide)).trans (skipUntil_passed skipped)
  · cases skipped
    exact .refl _

theorem readTypedParameter_passed {tokens rest : List Token}
    {parameter : Parameter}
    (read : readTypedParameter tokens = .ok (parameter, rest)) :
    Passed tokens rest := by
  unfold readTypedParameter at read
  split at read
  · cases read
  · cases read
  · rename_i behindType typed
    split at read
    · cases read
    · rename_i name behindName named
      obtain ⟨behind, skipped, answer⟩ := exists_of_map_eq_ok read
      cases answer
      exact (skipType?_passed typed).trans
        ((expectWord_passed named).trans (skipDefaultValue_passed skipped))

theorem readParameter_passed {tokens rest : List Token}
    {parameter : Parameter}
    (read : readParameter tokens = .ok (parameter, rest)) :
    Passed tokens rest := by
  unfold readParameter at read
  split at read
  · cases read
  · rename_i behindAttributes attributesSkipped
    refine (skipAttributes_passed attributesSkipped).trans
      ((skipParameterModifiers_passed behindAttributes).trans ?_)
    split at read
    · rename_i start
      rw [start]
      exact readTypedParameter_passed read
    · rename_i token others start
      rw [start]
      split at read
      · rename_i isWord
        cases read
        exact .next (isNeutral_of_isWord isWord)
      · exact readTypedParameter_passed read

theorem readParameters_passed {tokens rest : List Token}
    {parameters : List Parameter}
    (read : readParameters tokens = .ok (parameters, rest)) :
    Passed tokens rest := by
  fun_induction readParameters tokens generalizing parameters rest with
  | case1 =>
      cases read
  | case2 tokens parameter behind parameterRead more inductionHypothesis =>
      obtain ⟨result, others, answer⟩ := exists_of_map_eq_ok read
      cases answer
      exact (readParameter_passed parameterRead).trans
        ((tail_passed more (by decide)).trans (inductionHypothesis others))
  | case3 tokens parameter behind parameterRead last =>
      obtain ⟨after, closed, answer⟩ := exists_of_map_eq_ok read
      cases answer
      exact (readParameter_passed parameterRead).trans
        (expectMark_passed closed (by decide))

theorem readParameterList_passed {tokens rest : List Token}
    {parameters : List Parameter}
    (read : readParameterList tokens = .ok (parameters, rest)) :
    Passed tokens rest := by
  unfold readParameterList at read
  split at read
  · rename_i present
    cases read
    exact tail_passed present (by decide)
  · exact readParameters_passed read

/-! ## Enumerations -/

theorem skipGivenValue_passed {tokens rest : List Token}
    (skipped : skipGivenValue tokens = .ok rest) : Passed tokens rest := by
  unfold skipGivenValue at skipped
  split at skipped
  · rename_i present
    exact (tail_passed present (by decide)).trans (skipUntil_passed skipped)
  · cases skipped
    exact .refl _

theorem readVariant_passed {tokens rest : List Token} {name : String}
    (read : readVariant tokens = .ok (name, rest)) : Passed tokens rest := by
  unfold readVariant at read
  split at read
  · cases read
  · rename_i text behindName named
    obtain ⟨behind, skipped, answer⟩ := exists_of_map_eq_ok read
    cases answer
    exact (expectWord_passed named).trans (skipGivenValue_passed skipped)

theorem readVariants_passed {tokens rest : List Token} {names : List String}
    (read : readVariants tokens = .ok (names, rest)) :
    Passed tokens rest := by
  fun_induction readVariants tokens generalizing names rest with
  | case1 | case3 =>
      cases read
  | case2 _ _ attributesSkipped =>
      cases read
      exact skipAttributes_passed attributesSkipped
  | case4 _ start attributesSkipped _ _ behind variantRead more
      inductionHypothesis =>
      obtain ⟨result, others, answer⟩ := exists_of_map_eq_ok read
      cases answer
      exact (skipAttributes_passed attributesSkipped).trans
        ((readVariant_passed variantRead).trans
          ((tail_passed more (by decide)).trans
            (inductionHypothesis others)))
  | case5 _ _ attributesSkipped _ _ _ variantRead =>
      cases read
      exact (skipAttributes_passed attributesSkipped).trans
        (readVariant_passed variantRead)

/-! ## Members -/

theorem readModifiers_passed (tokens : List Token) :
    Passed tokens (readModifiers tokens).2 := by
  fun_induction readModifiers tokens with
  | case1 | case3 =>
      exact .refl _
  | case2 token tokens modifier isModifier others inductionHypothesis =>
      have keyword := (Option.filter_eq_some_iff.1 isModifier).1
      obtain ⟨text, isWord, _⟩ := Option.bind_eq_some_iff.1 keyword
      exact .cons (isNeutral_of_word? isWord) inductionHypothesis

theorem skipRecordWord_passed (kind : TypeKind) (tokens : List Token) :
    Passed tokens (skipRecordWord kind tokens) := by
  unfold skipRecordWord
  split
  · rename_i token rest
    split
    · rename_i second
      have neutral : isNeutral token = true := by
        rcases second.2 with isClass | isStruct
        · exact isNeutral_of_isWord isClass
        · exact isNeutral_of_isWord isStruct
      exact .next neutral
    · exact .refl _
  · exact .refl _

theorem readTypeParameters_passed {tokens rest : List Token}
    {parameters : Option String}
    (read : readTypeParameters tokens = .ok (parameters, rest)) :
    Passed tokens rest := by
  unfold readTypeParameters at read
  split at read
  · rename_i present
    split at read
    · cases read
    · rename_i behind closed
      cases read
      exact afterAngles?_tail_passed present closed
  · cases read
    exact .refl _

theorem qualifierEnd?_passed {tokens rest : List Token}
    (reached : qualifierEnd? tokens = some rest) : Passed tokens rest := by
  unfold qualifierEnd? at reached
  split at reached
  · rename_i present
    exact afterAngles?_tail_passed present
      (Option.filter_eq_some_iff.1 reached).1
  · cases reached
    exact .refl _

theorem readMemberName_passed (name : String) (tokens : List Token) :
    Passed tokens (readMemberName name tokens).2 := by
  fun_induction readMemberName name tokens with
  | case1 =>
      exact .refl _
  | case2 _ _ reached | case3 _ _ _ reached | case5 _ _ _ _ _ reached =>
      exact qualifierEnd?_passed reached
  | case4 _ _ dot next rest reached part isWord isDot
      inductionHypothesis =>
      exact (qualifierEnd?_passed reached).trans
        (.cons (isNeutral_of_isMark isDot (by decide))
          (.cons (isNeutral_of_word? isWord) inductionHypothesis))

theorem leaveOut_passed {α : Type} {tokens rest : List Token}
    {result : Option α} (skipped : leaveOut tokens = .ok (result, rest)) :
    Passed tokens rest := by
  obtain ⟨behind, member, answer⟩ := exists_of_map_eq_ok skipped
  cases answer
  exact skipMember_passed member

theorem readMethodTail_passed {name returnType : String}
    {modifiers : List Modifier} {tokens rest : List Token}
    {result : Option Method}
    (read : readMethodTail name returnType modifiers tokens =
      .ok (result, rest)) : Passed tokens rest := by
  unfold readMethodTail at read
  split at read
  · cases read
  · rename_i parameters behindParameters parametersRead
    obtain ⟨behind, bodied, answer⟩ := exists_of_map_eq_ok read
    cases answer
    exact (readParameterList_passed parametersRead).trans
      (skipMethodBody_passed bodied)

theorem readMethod_passed {enclosing : Option String}
    {modifiers : List Modifier} {tokens rest : List Token}
    {result : Option Method}
    (read : readMethod enclosing modifiers tokens = .ok (result, rest)) :
    Passed tokens rest := by
  unfold readMethod at read
  split at read
  · exact leaveOut_passed read
  · split at read
    · cases read
    · exact leaveOut_passed read
    · rename_i typed
      cases read
      exact skipType?_passed typed
    · rename_i next behind typed
      refine (skipType?_passed typed).trans ?_
      split at read
      · exact leaveOut_passed read
      · rename_i first named
        have isWord := (Option.filter_eq_some_iff.1 named).1
        have nameEnd : Passed (next :: behind)
            (skipAngles (readMemberName first behind).2) :=
          .cons (isNeutral_of_word? isWord)
            ((readMemberName_passed first behind).trans
              (skipAngles_passed _))
        refine nameEnd.trans ?_
        simp only at read
        split at read
        · rename_i present
          exact (tail_passed present (by decide)).trans
            (readMethodTail_passed read)
        · exact leaveOut_passed read

/-! ## Names of namespaces -/

theorem readNameParts_passed {name dotted : String}
    {tokens rest : List Token}
    (read : readNameParts name tokens = .ok (dotted, rest)) :
    Passed tokens rest := by
  fun_induction readNameParts name tokens with
  | case1 | case3 | case6 =>
      cases read
      exact .refl _
  | case2 | case5 =>
      cases read
  | case4 _ dot next rest isDot part isWord inductionHypothesis =>
      exact .cons (isNeutral_of_isMark isDot (by decide))
        (.cons (isNeutral_of_word? isWord) (inductionHypothesis read))

theorem readDottedName_passed {name : String} {tokens rest : List Token}
    (read : readDottedName tokens = .ok (name, rest)) :
    Passed tokens rest := by
  unfold readDottedName at read
  split at read
  · cases read
  · rename_i first others named
    exact (expectWord_passed named).trans (readNameParts_passed read)

end ClassDiagram.Reading
