import ClassDiagram.Proofs.Reading.SkippedParts

/-!
# Type references are local

A type reference is skipped again in front of everything that looks the same
through the first semicolon, brace or arrow.  This much is needed: an open
angle bracket makes the reader look that far for the bracket that closes it.
-/

namespace ClassDiagram.Reading

open Source (Token Lexeme)

/-! ## Type arguments -/

theorem skipAngles_unclosed {token : Token} {tokens : List Token}
    (unclosed : afterAngles? 0 tokens = none) :
    skipAngles (token :: tokens) = token :: tokens := by
  rw [skipAngles, List.tail_cons, unclosed]
  split <;> rfl

theorem skipAngles_closed {token : Token} {tokens rest : List Token}
    (opening : token.isMark '<' = true)
    (closed : afterAngles? 0 tokens = some rest) :
    skipAngles (token :: tokens) = rest := by
  have isOpening : atMark '<' (token :: tokens) = true := opening
  rw [skipAngles, if_pos isOpening, List.tail_cons, closed]
  rfl

theorem not_ending_of_opening {token : Token}
    (opening : token.isMark '<' = true) :
    endsTypeArguments token = false := by
  simp only [Token.isMark, beq_iff_eq] at opening
  simp [endsTypeArguments, Token.isMark, opening]

theorem skipAngles_local (tokens : List Token) :
    Local SameStop skipAngles id tokens (skipAngles tokens) := by
  cases opening : atMark '<' tokens with
  | false =>
      rw [skipAngles_none opening]
      refine local_of_nothing fun other same => skipAngles_none ?_
      rwa [← same.atMark_eq (by decide)]
  | true =>
      cases tokens with
      | nil =>
          cases opening
      | cons token behind =>
          cases closed : afterAngles? 0 behind with
          | none =>
              rw [skipAngles_unclosed closed]
              refine local_of_nothing fun other same => ?_
              obtain ⟨later, rfl, sameLater⟩ :=
                same.of_cons (not_ending_of_opening opening)
              rcases sameLater.afterAngles? 0 with ⟨_, unclosed⟩ | found
              · exact skipAngles_unclosed unclosed
              · obtain ⟨_, _, found, _⟩ := found
                rw [closed] at found
                cases found
          | some rest =>
              rw [skipAngles_closed opening closed]
              obtain ⟨consumed, rfl, again⟩ := afterAngles?_local closed
              refine ⟨token :: consumed, rfl, fun other same => ⟨?_, ?_⟩⟩
              · exact same.append (token :: consumed)
              · exact skipAngles_closed opening (again other)

/-! ## Dotted names -/

/-- A type goes on behind a part of its name that these tokens follow. -/
def followsTypePart : List Token → Bool
  | [] => false
  | next :: _ =>
      next.isAnyWord || next.isMark '.' || next.isMark '?' ||
        next.isMark '[' || next.isMark '*'

theorem continuesType_of_noAngle {tokens : List Token}
    (noAngle : atMark '<' tokens = false) :
    continuesType tokens = followsTypePart tokens := by
  rw [continuesType, noAngle]
  cases tokens <;> rfl

theorem continuesType_of_angle {token : Token} {behind : List Token}
    (opening : token.isMark '<' = true) :
    continuesType (token :: behind) =
      (afterAngles? 0 behind).any followsTypePart := by
  have isOpening : atMark '<' (token :: behind) = true := opening
  rw [continuesType]
  simp only [isOpening, if_true, List.tail_cons]
  cases afterAngles? 0 behind with
  | none =>
      rfl
  | some rest =>
      cases rest <;> rfl

theorem SameStop.followsTypePart_eq {left right : List Token}
    (same : SameStop left right) :
    followsTypePart left = followsTypePart right := by
  refine same.look_eq rfl ?_ (fun _ _ _ _ => rfl) fun _ _ _ _ => rfl
  intro token rest closing
  simp [followsTypePart, Token.isAnyWord, Token.isMark, closing]

theorem SameStop.continuesType_eq {left right : List Token}
    (same : SameStop left right) :
    continuesType left = continuesType right := by
  cases opening : atMark '<' left with
  | false =>
      have noAngle : atMark '<' right = false := by
        rwa [← same.atMark_eq (by decide)]
      rw [continuesType_of_noAngle opening, continuesType_of_noAngle noAngle]
      exact same.followsTypePart_eq
  | true =>
      cases left with
      | nil =>
          cases opening
      | cons token behind =>
          obtain ⟨later, rfl, sameLater⟩ :=
            same.of_cons (not_ending_of_opening opening)
          rw [continuesType_of_angle opening, continuesType_of_angle opening]
          rcases sameLater.afterAngles? 0 with ⟨leftNone, rightNone⟩ | found
          · rw [leftNone, rightNone]
          · obtain ⟨_, _, leftFound, rightFound, sameRest⟩ := found
            rw [leftFound, rightFound]
            exact sameRest.followsTypePart_eq

/-- The next two tokens go on with a dotted name, or look as if they might. -/
theorem afterQualifier?_dot {first second : Token} {rest : List Token}
    (dot : (first.isMark '.' && second.isAnyWord) = true) :
    afterQualifier? (first :: second :: rest) =
      if continuesType rest then some rest else none := by
  rw [afterQualifier?, if_pos dot]

theorem afterQualifier?_colons {first second : Token} {rest : List Token}
    (noDot : (first.isMark '.' && second.isAnyWord) = false)
    (colons : (first.isMark ':' && second.isMark ':') = true) :
    afterQualifier? (first :: second :: rest) =
      if atAnyWord rest then some rest.tail else none := by
  rw [afterQualifier?, noDot, if_neg Bool.false_ne_true, if_pos colons]

theorem afterQualifier?_neither {first second : Token} {rest : List Token}
    (noDot : (first.isMark '.' && second.isAnyWord) = false)
    (noColons : (first.isMark ':' && second.isMark ':') = false) :
    afterQualifier? (first :: second :: rest) = none := by
  rw [afterQualifier?, noDot, if_neg Bool.false_ne_true, noColons,
    if_neg Bool.false_ne_true]

theorem not_ending_of_isMark {token : Token} {c : Char}
    (isMark : token.isMark c = true)
    (other : c ≠ ';' ∧ c ≠ '\x7b' ∧ c ≠ '\x7d') :
    endsTypeArguments token = false := by
  simp only [Token.isMark, beq_iff_eq] at isMark
  simp [endsTypeArguments, Token.isMark, isMark, other]

theorem not_ending_of_isAnyWord {token : Token}
    (isWord : token.isAnyWord = true) : endsTypeArguments token = false := by
  obtain ⟨lead, lexeme⟩ := token
  cases lexeme with
  | word text =>
      rfl
  | _ =>
      cases isWord

theorem afterQualifier?_local {tokens rest : List Token}
    (qualified : afterQualifier? tokens = some rest) :
    Local SameStop afterQualifier? some tokens rest := by
  unfold afterQualifier? at qualified
  split at qualified
  · rename_i first second behind
    split at qualified
    · rename_i dot
      split at qualified
      · rename_i continues
        cases qualified
        refine ⟨[first, second], rfl, fun other same =>
          ⟨same.append [first, second], ?_⟩⟩
        rw [List.cons_append, List.singleton_append, afterQualifier?_dot dot,
          ← same.continuesType_eq, if_pos continues]
      · cases qualified
    · rename_i noDot
      split at qualified
      · rename_i colons
        split at qualified
        · rename_i named
          cases qualified
          rw [Bool.not_eq_true] at noDot
          cases behind with
          | nil =>
              cases named
          | cons word later =>
              refine ⟨[first, second, word], rfl, fun other same =>
                ⟨same.append [first, second, word], ?_⟩⟩
              simp only [List.cons_append, List.nil_append]
              rw [afterQualifier?_colons noDot colons]
              have isNamed : atAnyWord (word :: other) = true := named
              rw [if_pos isNamed]
              rfl
        · cases qualified
      · cases qualified
  · cases qualified

theorem afterQualifier?_of_first {first : Token} (rest : List Token)
    (noDot : first.isMark '.' = false) (noColon : first.isMark ':' = false) :
    afterQualifier? (first :: rest) = none := by
  cases rest with
  | nil =>
      rfl
  | cons second behind =>
      apply afterQualifier?_neither <;> simp [noDot, noColon]

theorem afterQualifier?_of_second (first : Token) {rest : List Token}
    (noWord : atAnyWord rest = false) (noColon : atMark ':' rest = false) :
    afterQualifier? (first :: rest) = none := by
  cases rest with
  | nil =>
      rfl
  | cons second behind =>
      have notWord : second.isAnyWord = false := noWord
      have notColon : second.isMark ':' = false := noColon
      apply afterQualifier?_neither <;> simp [notWord, notColon]

theorem isMark_of_ending {token : Token}
    (ending : endsTypeArguments token = true) {c : Char}
    (other : c ≠ ';' ∧ c ≠ '\x7b' ∧ c ≠ '\x7d') : token.isMark c = false := by
  cases isMark : token.isMark c with
  | false =>
      rfl
  | true =>
      rw [not_ending_of_isMark isMark other] at ending
      cases ending

theorem isAnyWord_of_ending {token : Token}
    (ending : endsTypeArguments token = true) :
    token.isAnyWord = false := by
  cases isWord : token.isAnyWord with
  | false =>
      rfl
  | true =>
      rw [not_ending_of_isAnyWord isWord] at ending
      cases ending

theorem afterQualifier?_of_atEnd {tokens : List Token}
    (ended : atEnd tokens = true) : afterQualifier? tokens = none := by
  cases tokens with
  | nil =>
      rfl
  | cons token rest =>
      apply afterQualifier?_of_first <;>
        simp [Token.isMark, lexeme_of_atEnd ended]

theorem SameStop.afterQualifier?_none {left right : List Token}
    (same : SameStop left right)
    (unqualified : Reading.afterQualifier? left = none) :
    Reading.afterQualifier? right = none := by
  cases same with
  | ended _ rightEnded =>
      exact afterQualifier?_of_atEnd rightEnded
  | stopped left right ending =>
      exact afterQualifier?_of_first right
        (isMark_of_ending ending (by decide))
        (isMark_of_ending ending (by decide))
  | @shared first left right later =>
      cases later with
      | ended _ rightEnded =>
          exact afterQualifier?_of_second first
            (atAnyWord_of_atEnd rightEnded)
            (atMark_of_atEnd rightEnded (by decide))
      | stopped left right ending =>
          exact afterQualifier?_of_second first (isAnyWord_of_ending ending)
            (isMark_of_ending ending (by decide))
      | @shared second left right behind =>
          cases dot : first.isMark '.' && second.isAnyWord with
          | true =>
              rw [afterQualifier?_dot dot] at unqualified ⊢
              rw [← behind.continuesType_eq]
              split at unqualified
              · cases unqualified
              · rename_i stops
                rw [if_neg stops]
          | false =>
              cases colons : first.isMark ':' && second.isMark ':' with
              | true =>
                  rw [afterQualifier?_colons dot colons] at unqualified ⊢
                  rw [← behind.atAnyWord_eq]
                  split at unqualified
                  · cases unqualified
                  · rename_i unnamed
                    rw [if_neg unnamed]
              | false =>
                  exact afterQualifier?_neither dot colons

theorem SameStop.closesAngles_eq {left right : List Token}
    (same : SameStop left right) :
    (atMark '<' left && (Reading.afterAngles? 0 left.tail).isNone) =
      (atMark '<' right &&
        (Reading.afterAngles? 0 right.tail).isNone) := by
  rw [← same.atMark_eq (c := '<') (by decide)]
  cases opening : atMark '<' left with
  | false =>
      rfl
  | true =>
      cases left with
      | nil =>
          cases opening
      | cons token behind =>
          obtain ⟨later, rfl, sameLater⟩ :=
            same.of_cons (not_ending_of_opening opening)
          rcases sameLater.afterAngles? 0 with ⟨leftNone, rightNone⟩ | found
          · simp [leftNone, rightNone]
          · obtain ⟨_, _, leftFound, rightFound, _⟩ := found
            simp [leftFound, rightFound]

/-- The name of a type ends where it ended, also in front of other tokens. -/
theorem skipNameParts_local (tokens : List Token) :
    Local SameStop skipNameParts id tokens (skipNameParts tokens) := by
  fun_induction skipNameParts tokens with
  | case1 tokens unclosed =>
      refine local_of_nothing fun other same => skipNameParts_unclosed ?_
      rwa [← same.closesAngles_eq]
  | case2 tokens closed rest qualified inductionHypothesis =>
      rw [Bool.not_eq_true] at closed
      have qualifies : Local SameStop
          (fun tokens => afterQualifier? (skipAngles tokens)) some tokens
          rest := by
        refine (skipAngles_local tokens).followedBy
          (afterQualifier?_local qualified) ?_
        intro consumed between behind _ _ anglesEq qualifierEq
        rw [anglesEq]
        exact qualifierEq
      refine qualifies.followedBy inductionHypothesis ?_
      intro consumed between behind _ same qualifiedEq restEq
      rw [skipNameParts_qualified (same.closesAngles_eq ▸ closed)
        qualifiedEq]
      exact restEq
  | case3 tokens closed unqualified =>
      rw [Bool.not_eq_true] at closed
      obtain ⟨consumed, tokensEq, again⟩ := skipAngles_local tokens
      refine ⟨consumed, tokensEq, fun other same => ?_⟩
      obtain ⟨sameTokens, anglesEq⟩ := again other same
      refine ⟨sameTokens, ?_⟩
      have stillUnqualified : afterQualifier?
          (skipAngles (consumed ++ other)) = none := by
        rw [anglesEq]
        exact same.afterQualifier?_none unqualified
      rw [skipNameParts_unqualified (sameTokens.closesAngles_eq ▸ closed)
        stillUnqualified]
      exact anglesEq

/-! ## Suffixes -/

def atSuffixMark (tokens : List Token) : Bool :=
  atMark '?' tokens || atMark '*' tokens

theorem skipTypeSuffixes_mark {token : Token} {rest : List Token}
    (suffix : (token.isMark '?' || token.isMark '*') = true) :
    skipTypeSuffixes (token :: rest) = skipTypeSuffixes rest := by
  rw [skipTypeSuffixes, if_pos suffix]

theorem skipTypeSuffixes_array {token : Token} {rest after : List Token}
    (noMark : (token.isMark '?' || token.isMark '*') = false)
    (suffix : atArraySuffix (token :: rest) = true)
    (skipped : skipGroup ']' rest = .ok after) :
    skipTypeSuffixes (token :: rest) = skipTypeSuffixes after := by
  rw [skipTypeSuffixes, noMark, if_neg Bool.false_ne_true, if_pos suffix]
  split
  · rename_i refused
    rw [skipped] at refused
    cases refused
  · rename_i accepted
    rw [skipped] at accepted
    cases accepted
    rfl

theorem skipTypeSuffixes_none {tokens : List Token}
    (noMark : atSuffixMark tokens = false)
    (noArray : atArraySuffix tokens = false) :
    skipTypeSuffixes tokens = .ok tokens := by
  cases tokens with
  | nil =>
      rw [skipTypeSuffixes]
  | cons token rest =>
      have noSuffix : (token.isMark '?' || token.isMark '*') = false :=
        noMark
      rw [skipTypeSuffixes, noSuffix, noArray]
      simp only [Bool.false_eq_true, if_false]

theorem SameStop.atSuffixMark_eq {left right : List Token}
    (same : SameStop left right) :
    atSuffixMark left = atSuffixMark right := by
  rw [atSuffixMark, atSuffixMark, same.atMark_eq (by decide),
    same.atMark_eq (by decide)]

theorem atArraySuffix_cons (first : Token) (rest : List Token) :
    atArraySuffix (first :: rest) =
      (first.isMark '[' && (atMark ']' rest || atMark ',' rest)) := by
  cases rest with
  | nil =>
      simp [atArraySuffix, atMark]
  | cons second behind =>
      rfl

theorem SameStop.atArraySuffix_eq {left right : List Token}
    (same : SameStop left right) :
    atArraySuffix left = atArraySuffix right := by
  refine same.look_eq rfl ?_ ?_ ?_
  · intro token rest closing
    have notOpening : token.isMark '[' = false := by
      simp [Token.isMark, closing]
    rw [atArraySuffix_cons, notOpening, Bool.false_and]
    rfl
  · intro token left right ending
    have notOpening : token.isMark '[' = false :=
      isMark_of_ending ending (by decide)
    rw [atArraySuffix_cons, atArraySuffix_cons, notOpening,
      Bool.false_and, Bool.false_and]
  · intro token left right later
    rw [atArraySuffix_cons, atArraySuffix_cons,
      later.atMark_eq (c := ']') (by decide),
      later.atMark_eq (c := ',') (by decide)]

theorem skipTypeSuffixes_local {tokens rest : List Token}
    (skipped : skipTypeSuffixes tokens = .ok rest) :
    Local SameStop skipTypeSuffixes Except.ok tokens rest := by
  have nothing : ∀ tokens : List Token, atSuffixMark tokens = false →
      atArraySuffix tokens = false →
        Local SameStop skipTypeSuffixes Except.ok tokens tokens := by
    intro tokens noMark noArray
    refine local_of_nothing fun other same => ?_
    exact skipTypeSuffixes_none (same.atSuffixMark_eq ▸ noMark)
      (same.atArraySuffix_eq ▸ noArray)
  fun_induction skipTypeSuffixes tokens with
  | case1 =>
      cases skipped
      exact nothing [] rfl rfl
  | case2 token tokens suffix inductionHypothesis =>
      refine (inductionHypothesis skipped).behind [token] ?_
      intro between behind _ suffixesEq
      rw [List.singleton_append, skipTypeSuffixes_mark suffix]
      exact suffixesEq
  | case3 =>
      cases skipped
  | case4 token tokens noMark suffix after groupSkipped
      inductionHypothesis =>
      rw [Bool.not_eq_true] at noMark
      obtain ⟨group, rfl, groupAgain⟩ := skipGroup_local groupSkipped
      refine (inductionHypothesis skipped).behind (token :: group) ?_
      intro between behind same suffixesEq
      have stillSuffix : atArraySuffix (token :: (group ++ between)) =
          true := by
        have whole := same.append (token :: group)
        rw [List.cons_append, List.cons_append] at whole
        rw [← whole.atArraySuffix_eq]
        exact suffix
      rw [List.cons_append, skipTypeSuffixes_array noMark stillSuffix
        (groupAgain between)]
      exact suffixesEq
  | case5 token tokens noMark noArray =>
      cases skipped
      exact nothing _ (Bool.not_eq_true _ ▸ noMark)
        (Bool.not_eq_true _ ▸ noArray)

/-! ## Whole types -/

theorem skipWord_absent {text : String} {tokens : List Token}
    (absent : atWord text tokens = false) :
    skipWord text tokens = tokens := by
  cases tokens with
  | nil =>
      rfl
  | cons token rest =>
      have notWord : token.isWord text = false := absent
      rw [skipWord, notWord, if_neg Bool.false_ne_true]

theorem skipWord_local (text : String) (tokens : List Token) :
    Local SameStop (skipWord text) id tokens (skipWord text tokens) := by
  cases present : atWord text tokens with
  | false =>
      rw [skipWord_absent present]
      refine local_of_nothing fun other same => skipWord_absent ?_
      rwa [← same.atWord_eq]
  | true =>
      cases tokens with
      | nil =>
          cases present
      | cons token rest =>
          have isWord : token.isWord text = true := present
          have skips : ∀ other, skipWord text (token :: other) = other := by
            intro other
            rw [skipWord, if_pos isWord]
          rw [skips]
          exact ⟨[token], rfl, fun other same =>
            ⟨same.append [token], skips other⟩⟩

theorem skipReferenceWords_absent {tokens : List Token}
    (absent : atWord "ref" tokens = false) :
    skipReferenceWords tokens = tokens := by
  cases tokens with
  | nil =>
      rfl
  | cons token rest =>
      have notWord : token.isWord "ref" = false := absent
      rw [skipReferenceWords, notWord, if_neg Bool.false_ne_true]

theorem skipReferenceWords_local (tokens : List Token) :
    Local SameStop skipReferenceWords id tokens
      (skipReferenceWords tokens) := by
  cases present : atWord "ref" tokens with
  | false =>
      rw [skipReferenceWords_absent present]
      refine local_of_nothing fun other same =>
        skipReferenceWords_absent ?_
      rwa [← same.atWord_eq]
  | true =>
      cases tokens with
      | nil =>
          cases present
      | cons token rest =>
          have isRef : token.isWord "ref" = true := present
          have skips : ∀ other, skipReferenceWords (token :: other) =
              skipWord "readonly" other := by
            intro other
            rw [skipReferenceWords, if_pos isRef]
          rw [skips]
          refine (skipWord_local "readonly" rest).behind [token] ?_
          intro between behind _ wordEq
          rw [List.singleton_append, skips]
          exact wordEq

/-- A type without the words of a reference in front. -/
def skipBareType? : List Token → Except Refusal (Option (List Token))
  | [] => .ok none
  | token :: rest =>
      if token.isMark '(' then
        match skipGroup ')' rest with
        | .error refusal => .error refusal
        | .ok after => (skipTypeSuffixes after).map some
      else if (plainWord? token).isSome then
        (skipTypeSuffixes (skipNameParts rest)).map some
      else
        .ok none

theorem skipType?_eq (tokens : List Token) :
    skipType? tokens = skipBareType? (skipReferenceWords tokens) := by
  unfold skipType? skipBareType?
  cases skipReferenceWords tokens <;> rfl

theorem skipBareType?_local {tokens rest : List Token}
    (skipped : skipBareType? tokens = .ok (some rest)) :
    Local SameStop skipBareType? (fun rest => .ok (some rest)) tokens
      rest := by
  cases tokens with
  | nil =>
      cases skipped
  | cons token tokens =>
      rw [skipBareType?] at skipped
      split at skipped
      · rename_i tuple
        split at skipped
        · cases skipped
        · rename_i after groupSkipped
          obtain ⟨group, rfl, groupAgain⟩ := skipGroup_local groupSkipped
          obtain ⟨_, suffixesSkipped, answer⟩ := exists_of_map_eq_ok skipped
          cases answer
          have suffixes := skipTypeSuffixes_local suffixesSkipped
          refine suffixes.behind (token :: group) ?_
          intro between behind _ suffixesEq
          rw [List.cons_append, skipBareType?, if_pos tuple]
          simp only [groupAgain between, suffixesEq]
          rfl
      · rename_i noTuple
        split at skipped
        · rename_i named
          obtain ⟨_, suffixesSkipped, answer⟩ := exists_of_map_eq_ok skipped
          cases answer
          have suffixes := skipTypeSuffixes_local suffixesSkipped
          have parts : Local SameStop
              (fun tokens => skipTypeSuffixes (skipNameParts tokens))
              Except.ok tokens rest := by
            refine (skipNameParts_local tokens).followedBy suffixes ?_
            intro consumed between behind _ _ partsEq suffixesEq
            rw [partsEq]
            exact suffixesEq
          refine parts.behind [token] ?_
          intro between behind _ partsEq
          rw [List.singleton_append, skipBareType?, if_neg noTuple,
            if_pos named]
          simp only [partsEq]
          rfl
        · cases skipped

theorem skipType?_local {tokens rest : List Token}
    (skipped : skipType? tokens = .ok (some rest)) :
    Local SameStop skipType? (fun rest => .ok (some rest)) tokens rest := by
  rw [skipType?_eq] at skipped
  refine (skipReferenceWords_local tokens).followedBy
    (skipBareType?_local skipped) ?_
  intro consumed between behind _ _ wordsEq typeEq
  rw [skipType?_eq, wordsEq]
  exact typeEq

theorem not_ending_of_isWord {token : Token} {text : String}
    (isWord : token.isWord text = true) :
    endsTypeArguments token = false := by
  simp only [Token.isWord, beq_iff_eq] at isWord
  simp [endsTypeArguments, Token.isMark, isWord]

theorem SameStop.skipWord {left right : List Token}
    (same : SameStop left right) (text : String) :
    SameStop (Reading.skipWord text left) (Reading.skipWord text right) := by
  cases present : atWord text left with
  | false =>
      have absent : atWord text right = false := same.atWord_eq text ▸ present
      rwa [skipWord_absent present, skipWord_absent absent]
  | true =>
      cases left with
      | nil =>
          cases present
      | cons token left =>
          have isWord : token.isWord text = true := present
          obtain ⟨right, rfl, sameRest⟩ :=
            same.of_cons (not_ending_of_isWord isWord)
          simpa [Reading.skipWord, isWord] using sameRest

theorem SameStop.skipReferenceWords {left right : List Token}
    (same : SameStop left right) :
    SameStop (Reading.skipReferenceWords left)
      (Reading.skipReferenceWords right) := by
  cases present : atWord "ref" left with
  | false =>
      have absent : atWord "ref" right = false :=
        same.atWord_eq "ref" ▸ present
      rwa [skipReferenceWords_absent present,
        skipReferenceWords_absent absent]
  | true =>
      cases left with
      | nil =>
          cases present
      | cons token left =>
          have isRef : token.isWord "ref" = true := present
          obtain ⟨right, rfl, sameRest⟩ :=
            same.of_cons (not_ending_of_isWord isRef)
          have sameWords := sameRest.skipWord "readonly"
          simpa [Reading.skipReferenceWords, isRef] using sameWords

theorem skipBareType?_noType_iff {token : Token} {rest : List Token} :
    skipBareType? (token :: rest) = .ok none ↔
      token.isMark '(' = false ∧ plainWord? token = none := by
  have notNone : ∀ result : Except Refusal (List Token),
      result.map some ≠ .ok none := by
    rintro (refusal | found) <;> exact nofun
  constructor
  · intro noType
    rw [skipBareType?] at noType
    split at noType
    · split at noType
      · cases noType
      · exact absurd noType (notNone _)
    · rename_i noTuple
      split at noType
      · exact absurd noType (notNone _)
      · rename_i unnamed
        exact ⟨Bool.not_eq_true _ ▸ noTuple,
          Option.not_isSome_iff_eq_none.1 unnamed⟩
  · rintro ⟨noTuple, unnamed⟩
    rw [skipBareType?, noTuple, unnamed]
    simp

theorem skipBareType?_of_atEnd {tokens : List Token}
    (ended : atEnd tokens = true) : skipBareType? tokens = .ok none := by
  cases tokens with
  | nil =>
      rfl
  | cons token rest =>
      apply skipBareType?_noType_iff.2
      simp [Token.isMark, plainWord?, word?, lexeme_of_atEnd ended]

/-- No type begins where none began. -/
theorem SameStop.skipType?_none {left right : List Token}
    (same : SameStop left right)
    (noType : Reading.skipType? left = .ok none) :
    Reading.skipType? right = .ok none := by
  rw [skipType?_eq] at noType ⊢
  have sameBare := same.skipReferenceWords
  generalize Reading.skipReferenceWords left = bareLeft at noType sameBare
  generalize Reading.skipReferenceWords right = bareRight at sameBare
  cases sameBare with
  | ended _ rightEnded =>
      exact skipBareType?_of_atEnd rightEnded
  | stopped | shared =>
      rw [skipBareType?_noType_iff] at noType ⊢
      exact noType

theorem taken_append (tokens rest : List Token) :
    taken (tokens ++ rest) rest = tokens := by
  unfold taken
  rw [List.length_append, Nat.add_sub_cancel, List.take_left]

end ClassDiagram.Reading
