import ClassDiagram.Proofs.Reading.Expressions
import ClassDiagram.Proofs.Reading.LocalMethods
import ClassDiagram.Proofs.Reading.TypeForms

/-!
# Reading inside nested tokens

Types, names and parameters that are read from nested tokens are nested
themselves, and they end before the mark behind these tokens.  So a list of
parameters ends with the parenthesis that closes its group.

Type arguments need care: the search for their bracket takes parentheses for
plain tokens.  In `a < (b > c)` the bracket that closes the list lies in a
group that was opened inside the list.  Nested tokens in which no list ends
like this are enclosed.
-/

namespace ClassDiagram.Reading

open Source (Token Lexeme)

/-! ## Parts of nested tokens -/

theorem nestedWithout_nil_iff {tokens : List Token} :
    NestedWithout [] tokens ↔ Nested tokens := by
  constructor
  · intro nested
    induction nested with
    | nil => exact .nil
    | neutral _ notOpening notClosing _ inductionHypothesis =>
        exact .neutral notOpening notClosing inductionHypothesis
    | group _ opens closes inside _ inductionHypothesis =>
        exact .group opens closes inside inductionHypothesis
  · intro nested
    induction nested with
    | nil => exact .nil
    | neutral notOpening notClosing _ inductionHypothesis =>
        exact .neutral rfl notOpening notClosing inductionHypothesis
    | group opens closes inside _ _ inductionHypothesis =>
        exact .group rfl opens closes inside inductionHypothesis

theorem Nested.append {first second : List Token}
    (firstNested : Nested first) (secondNested : Nested second) :
    Nested (first ++ second) := by
  induction firstNested with
  | nil => exact secondNested
  | neutral notOpening notClosing _ inductionHypothesis =>
      exact .neutral notOpening notClosing inductionHypothesis
  | group opens closes inside _ _ inductionHypothesis =>
      rw [List.cons_append, List.append_assoc, List.cons_append]
      exact .group opens closes inside inductionHypothesis

namespace NestedWithout

variable {stops : List Char} {token : Token} {rest : List Token}

theorem behind_neutral (nested : NestedWithout stops (token :: rest))
    (notOpening : closer? token = none) :
    closing? token = none ∧ NestedWithout stops rest := by
  cases nested with
  | neutral _ _ notClosing further => exact ⟨notClosing, further⟩
  | group _ opens =>
      rw [notOpening] at opens
      cases opens

theorem exists_group {wanted : Char}
    (nested : NestedWithout stops (token :: rest))
    (opens : closer? token = some wanted) :
    ∃ inner closing further, rest = inner ++ closing :: further ∧
      closing? closing = some wanted ∧ Nested inner ∧
        NestedWithout stops further := by
  cases nested with
  | neutral _ notOpening =>
      rw [notOpening] at opens
      cases opens
  | @group _ closing found inner further _ isOpening closes inside nested =>
      rw [isOpening] at opens
      cases opens
      exact ⟨inner, closing, further, rfl, closes, inside, nested⟩

/-- What stands behind a nested front is as nested as the whole. -/
theorem of_append {front : List Token} (frontNested : Nested front)
    (nested : NestedWithout stops (front ++ rest)) :
    NestedWithout stops rest := by
  induction frontNested with
  | nil => exact nested
  | neutral notOpening _ _ inductionHypothesis =>
      exact inductionHypothesis (nested.behind_neutral notOpening).2
  | @group opening closing wanted inner behind opens closes inside _ _
      inductionHypothesis =>
      rw [List.cons_append, List.append_assoc, List.cons_append] at nested
      obtain ⟨otherInner, otherClosing, further, split, otherCloses,
        otherInside, furtherNested⟩ := nested.exists_group opens
      -- the same group is skipped in both readings
      have skipped := inside.skipGroup_eq closes (behind ++ rest)
      rw [split, otherInside.skipGroup_eq otherCloses] at skipped
      cases skipped
      exact inductionHypothesis furtherNested

end NestedWithout

namespace Nested

variable {token : Token} {rest : List Token}

theorem behind_neutral (nested : Nested (token :: rest))
    (notOpening : closer? token = none) :
    closing? token = none ∧ Nested rest := by
  rw [← nestedWithout_nil_iff] at nested ⊢
  exact nested.behind_neutral notOpening

theorem exists_group {wanted : Char} (nested : Nested (token :: rest))
    (opens : closer? token = some wanted) :
    ∃ inner closing further, rest = inner ++ closing :: further ∧
      closing? closing = some wanted ∧ Nested inner ∧ Nested further := by
  rw [← nestedWithout_nil_iff] at nested
  obtain ⟨inner, closing, further, split, closes, inside, furtherNested⟩ :=
    nested.exists_group opens
  exact ⟨inner, closing, further, split, closes, inside,
    nestedWithout_nil_iff.1 furtherNested⟩

theorem of_append {front : List Token} (frontNested : Nested front)
    (nested : Nested (front ++ rest)) : Nested rest := by
  rw [← nestedWithout_nil_iff] at nested ⊢
  exact nested.of_append frontNested

/-- Every group that is opened somewhere in nested tokens is closed in them. -/
theorem exists_group_of_suffix {whole : List Token} {wanted : Char}
    (nested : Nested whole) (suffix : token :: rest <:+ whole)
    (opens : closer? token = some wanted) :
    ∃ inner closing further, rest = inner ++ closing :: further ∧
      closing? closing = some wanted ∧ Nested inner := by
  induction nested generalizing rest with
  | nil =>
      rw [List.suffix_nil] at suffix
      cases suffix
  | neutral notOpening notClosing _ inductionHypothesis =>
      rcases List.suffix_cons_iff.1 suffix with same | within
      · obtain ⟨rfl, rfl⟩ := List.cons.inj same
        rw [notOpening] at opens
        cases opens
      · exact inductionHypothesis within
  | @group opening closing found inner behind isOpening closes inside _
      insideHypothesis behindHypothesis =>
      have notClosing : token ≠ closing := by
        rintro rfl
        rw [closer?_eq_none_of_closing closes] at opens
        cases opens
      rcases List.suffix_cons_iff.1 suffix with same | ⟨front, split⟩
      · obtain ⟨rfl, rfl⟩ := List.cons.inj same
        rw [isOpening] at opens
        cases opens
        exact ⟨inner, closing, behind, rfl, closes, inside⟩
      · rcases List.append_eq_append_iff.1 split with
          ⟨last, innerEq, restEq⟩ | ⟨last, frontEq, behindEq⟩
        · rcases List.cons_eq_append_iff.1 restEq with
            ⟨_, atClosing⟩ | ⟨later, rfl, rfl⟩
          · exact absurd (List.cons.inj atClosing).1.symm notClosing
          · obtain ⟨group, groupClosing, further, rfl, groupCloses, nested⟩ :=
              insideHypothesis ⟨front, innerEq.symm⟩
            exact ⟨group, groupClosing, further ++ closing :: behind,
              by simp, groupCloses, nested⟩
        · rcases List.cons_eq_append_iff.1 behindEq with
            ⟨_, atClosing⟩ | ⟨later, rfl, rfl⟩
          · exact absurd (List.cons.inj atClosing).1 notClosing
          · exact behindHypothesis ⟨later, rfl⟩

/-- Nested tokens end before the mark that closes the group around. -/
theorem exists_left {inside taken behind left : List Token} {closing : Token}
    {wanted : Char} (insideNested : Nested inside)
    (closes : closing? closing = some wanted) (takenNested : Nested taken)
    (split : inside ++ closing :: behind = taken ++ left) :
    ∃ further, inside = taken ++ further ∧
      left = further ++ closing :: behind := by
  rcases List.append_eq_append_iff.1 split with
    ⟨beyond, takenEq, behindEq⟩ | ⟨further, insideEq, leftEq⟩
  · cases beyond with
    | nil =>
        rw [List.append_nil] at takenEq
        exact ⟨[], by rw [takenEq, List.append_nil], behindEq.symm⟩
    | cons first beyond =>
        -- the closing mark would be taken without its group
        rw [List.cons_append, List.cons.injEq] at behindEq
        obtain ⟨rfl, _⟩ := behindEq
        rw [takenEq] at takenNested
        have unopened := of_append insideNested takenNested
        have notOpening := closer?_eq_none_of_closing closes
        rw [(unopened.behind_neutral notOpening).1] at closes
        cases closes
  · exact ⟨further, insideEq, leftEq⟩

end Nested

theorem nested_of_isAnyWord {token : Token} (isWord : token.isAnyWord = true)
    {rest : List Token} (nested : Nested rest) : Nested (token :: rest) := by
  obtain ⟨lead, lexeme⟩ := token
  cases lexeme with
  | word text => exact .neutral rfl rfl nested
  | _ => cases isWord

theorem nested_of_isMark {token : Token} {c : Char}
    (isMark : token.isMark c = true)
    (neutral : closingMark? c = none ∧ isClosingMark c = false)
    {rest : List Token} (nested : Nested rest) : Nested (token :: rest) := by
  refine .neutral ?_ ?_ nested
  · rw [closer?_of_isMark isMark, neutral.1]
  · rw [closing?_of_isMark isMark, neutral.2]
    rfl

/-! ## Enclosed tokens -/

/-- What a reader takes of these tokens is nested, and it leaves the rest of
them in front of what is behind. -/
def StaysInside (inside behind left : List Token) : Prop :=
  ∃ taken further, inside = taken ++ further ∧ Nested taken ∧
    left = further ++ behind

/-- Nested tokens in front of a closing parenthesis.  Type arguments that are
opened outside the groups in them, and closed anywhere, are nested and closed
in them. -/
structure Enclosed (inside behind : List Token) : Prop where
  nested : Nested inside
  ended : atMark ')' behind = true
  angles : ∀ (front : List Token) (opening : Token) (rest left : List Token),
    inside = front ++ opening :: rest → Nested front →
      opening.isMark '<' = true →
        afterAngles? 0 (rest ++ behind) = some left →
          StaysInside rest behind left

section

variable {inside behind left : List Token}

namespace StaysInside

theorem refl (inside behind : List Token) :
    StaysInside inside behind (inside ++ behind) :=
  ⟨[], inside, rfl, .nil, rfl⟩

theorem append {front : List Token} (frontNested : Nested front)
    (stays : StaysInside inside behind left) :
    StaysInside (front ++ inside) behind left := by
  obtain ⟨taken, further, rfl, takenNested, rfl⟩ := stays
  exact ⟨front ++ taken, further, (List.append_assoc _ _ _).symm,
    frontNested.append takenNested, rfl⟩

theorem mark {token : Token} {c : Char} (isMark : token.isMark c = true)
    (neutral : closingMark? c = none ∧ isClosingMark c = false)
    (stays : StaysInside inside behind left) :
    StaysInside (token :: inside) behind left :=
  append (nested_of_isMark isMark neutral .nil) stays

end StaysInside

namespace Enclosed

/-- The rest of enclosed tokens is enclosed. -/
theorem rest {front : List Token} (enclosed : Enclosed (front ++ inside) behind)
    (frontNested : Nested front) : Enclosed inside behind where
  nested := frontNested.of_append enclosed.nested
  ended := enclosed.ended
  angles := by
    rintro before opening rest left rfl beforeNested
    exact enclosed.angles (front ++ before) opening rest left
      (List.append_assoc _ _ _).symm (frontNested.append beforeNested)

/-- A routine that goes on behind another one stays inside if both do. -/
theorem andThen {middle : List Token} (enclosed : Enclosed inside behind)
    (first : StaysInside inside behind middle)
    (second : ∀ further, middle = further ++ behind →
      Enclosed further behind → StaysInside further behind left) :
    StaysInside inside behind left := by
  obtain ⟨taken, further, rfl, takenNested, rfl⟩ := first
  exact (second further rfl (enclosed.rest takenNested)).append takenNested

variable (enclosed : Enclosed inside behind)

include enclosed

/-- Every token but the parenthesis is one of the enclosed tokens. -/
theorem exists_first {token : Token}
    (split : inside ++ behind = token :: left)
    (notEnd : token.isMark ')' = false) :
    ∃ further, inside = token :: further ∧ left = further ++ behind := by
  cases inside with
  | nil =>
      have ended := enclosed.ended
      rw [← List.nil_append behind, split] at ended
      rw [atMark, notEnd] at ended
      cases ended
  | cons first further =>
      obtain ⟨rfl, rfl⟩ := List.cons.inj split
      exact ⟨further, rfl, rfl⟩

theorem takes_word {token : Token} (split : inside ++ behind = token :: left)
    (isWord : token.isAnyWord = true) : StaysInside inside behind left := by
  obtain ⟨further, rfl, rfl⟩ :=
    enclosed.exists_first split (isMark_eq_false_of_isAnyWord isWord ')')
  exact .append (nested_of_isAnyWord isWord .nil) (.refl further behind)

theorem takes_mark {token : Token} {c : Char}
    (split : inside ++ behind = token :: left) (isMark : token.isMark c = true)
    (neutral : closingMark? c = none ∧ isClosingMark c = false) :
    StaysInside inside behind left := by
  have notParenthesis : c ≠ ')' := by
    rintro rfl
    cases neutral.2
  obtain ⟨further, rfl, rfl⟩ :=
    enclosed.exists_first split (isMark_unique isMark notParenthesis)
  exact .append (nested_of_isMark isMark neutral .nil) (.refl further behind)

/-- A parenthesis that closes no group of the enclosed tokens is the one
behind them. -/
theorem tail_eq {closing : Token}
    (split : inside ++ behind = closing :: left)
    (isClosing : closing.isMark ')' = true) : left = behind.tail := by
  have nested := enclosed.nested
  cases inside with
  | nil =>
      rw [List.nil_append] at split
      rw [split, List.tail_cons]
  | cons first further =>
      obtain ⟨rfl, _⟩ := List.cons.inj split
      have unopened := nested.behind_neutral (closer?_of_isMark isClosing)
      rw [closing?_of_isMark isClosing] at unopened
      cases unopened.1

/-- A group that begins in enclosed tokens is closed in them. -/
theorem takes_group {opening : Token} {wanted : Char}
    (split : inside ++ behind = opening :: left)
    (opens : closer? opening = some wanted) {after : List Token}
    (skipped : skipGroup wanted left = .ok after) :
    StaysInside inside behind after := by
  have notEnd : opening.isMark ')' = false := by
    by_contra isEnd
    rw [Bool.not_eq_false] at isEnd
    rw [closer?_of_isMark isEnd] at opens
    cases opens
  obtain ⟨rest, rfl, rfl⟩ := enclosed.exists_first split notEnd
  obtain ⟨inner, closing, further, rfl, closes, innerNested, _⟩ :=
    enclosed.nested.exists_group opens
  rw [List.append_assoc, List.cons_append,
    innerNested.skipGroup_eq closes (further ++ behind)] at skipped
  cases skipped
  exact ⟨opening :: (inner ++ [closing]), further, by simp,
    .group opens closes innerNested .nil, rfl⟩

end Enclosed

/-! ## Types -/

theorem skipAngles_staysInside (enclosed : Enclosed inside behind) :
    StaysInside inside behind (skipAngles (inside ++ behind)) := by
  cases opening : atMark '<' (inside ++ behind) with
  | false =>
      rw [skipAngles_none opening]
      exact .refl inside behind
  | true =>
      obtain ⟨token, left, split, isOpening⟩ := exists_of_atMark opening
      rw [split]
      cases closed : afterAngles? 0 left with
      | none =>
          rw [skipAngles_unclosed closed, ← split]
          exact .refl inside behind
      | some rest =>
          rw [skipAngles_closed isOpening closed]
          obtain ⟨further, rfl, rfl⟩ := enclosed.exists_first split
            (isMark_unique isOpening (by decide))
          exact .mark isOpening (by decide)
            (enclosed.angles [] token further rest rfl .nil isOpening closed)

/-- The ways in which a dotted name goes on. -/
theorem exists_of_afterQualifier? {tokens : List Token}
    (qualified : afterQualifier? tokens = some left) :
    (∃ dot name, tokens = dot :: name :: left ∧ dot.isMark '.' = true ∧
      name.isAnyWord = true) ∨
    ∃ first second name, tokens = first :: second :: name :: left ∧
      first.isMark ':' = true ∧ second.isMark ':' = true ∧
        name.isAnyWord = true := by
  unfold afterQualifier? at qualified
  split at qualified
  · rename_i first second rest
    split at qualified
    · rename_i dot
      rw [Bool.and_eq_true] at dot
      split at qualified
      · cases qualified
        exact .inl ⟨first, second, rfl, dot⟩
      · cases qualified
    · split at qualified
      · rename_i colons
        rw [Bool.and_eq_true] at colons
        split at qualified
        · rename_i named
          cases rest with
          | nil => cases named
          | cons name further =>
              cases qualified
              exact .inr ⟨first, second, name, rfl, colons.1, colons.2, named⟩
        · cases qualified
      · cases qualified
  · cases qualified

theorem afterQualifier?_staysInside (enclosed : Enclosed inside behind)
    (qualified : afterQualifier? (inside ++ behind) = some left) :
    StaysInside inside behind left := by
  rcases exists_of_afterQualifier? qualified with
    ⟨dot, name, split, isDot, isName⟩ |
    ⟨first, second, name, split, isFirst, isSecond, isName⟩
  · have stays := enclosed.takes_mark split isDot (by decide)
    refine enclosed.andThen stays fun rest restEq restEnclosed => ?_
    exact restEnclosed.takes_word restEq.symm isName
  · have stays := enclosed.takes_mark split isFirst (by decide)
    refine enclosed.andThen stays fun rest restEq restEnclosed => ?_
    have goesOn := restEnclosed.takes_mark restEq.symm isSecond (by decide)
    refine restEnclosed.andThen goesOn fun last lastEq lastEnclosed => ?_
    exact lastEnclosed.takes_word lastEq.symm isName

theorem skipNameParts_staysInside (enclosed : Enclosed inside behind) :
    StaysInside inside behind (skipNameParts (inside ++ behind)) := by
  generalize whole : inside ++ behind = tokens
  fun_induction skipNameParts tokens generalizing inside with
  | case1 tokens =>
      rw [← whole]
      exact .refl inside behind
  | case2 tokens closed rest qualified inductionHypothesis =>
      subst whole
      refine enclosed.andThen (skipAngles_staysInside enclosed) ?_
      intro parts partsEq partsEnclosed
      rw [partsEq] at qualified
      have stays := afterQualifier?_staysInside partsEnclosed qualified
      refine partsEnclosed.andThen stays fun further restEq furtherEnclosed => ?_
      exact inductionHypothesis furtherEnclosed restEq.symm
  | case3 tokens =>
      subst whole
      exact skipAngles_staysInside enclosed

theorem closer?_of_atArraySuffix {token : Token} {rest : List Token}
    (isArray : atArraySuffix (token :: rest) = true) :
    closer? token = some ']' := by
  rw [atArraySuffix_cons, Bool.and_eq_true] at isArray
  exact closer?_of_isMark isArray.1

theorem skipTypeSuffixes_staysInside (enclosed : Enclosed inside behind)
    (skipped : skipTypeSuffixes (inside ++ behind) = .ok left) :
    StaysInside inside behind left := by
  generalize whole : inside ++ behind = tokens at skipped
  fun_induction skipTypeSuffixes tokens generalizing inside with
  | case1 | case5 =>
      cases skipped
      exact whole ▸ .refl inside behind
  | case2 token rest suffix inductionHypothesis =>
      have stays : StaysInside inside behind rest := by
        rcases (Bool.or_eq_true _ _).mp suffix with isMark | isMark
        · exact enclosed.takes_mark whole isMark (by decide)
        · exact enclosed.takes_mark whole isMark (by decide)
      refine enclosed.andThen stays fun further restEq furtherEnclosed => ?_
      exact inductionHypothesis furtherEnclosed restEq.symm skipped
  | case3 => cases skipped
  | case4 token rest noMark suffix after groupSkipped inductionHypothesis =>
      have stays := enclosed.takes_group whole
        (closer?_of_atArraySuffix suffix) groupSkipped
      refine enclosed.andThen stays fun further restEq furtherEnclosed => ?_
      exact inductionHypothesis furtherEnclosed restEq.symm skipped

theorem skipWord_staysInside (enclosed : Enclosed inside behind)
    (text : String) :
    StaysInside inside behind (skipWord text (inside ++ behind)) := by
  cases whole : inside ++ behind with
  | nil => exact ⟨[], inside, rfl, .nil, whole.symm⟩
  | cons token rest =>
      rw [skipWord]
      split
      · rename_i isWord
        exact enclosed.takes_word whole
          (isAnyWord_of_word? (word?_of_isWord isWord))
      · exact whole ▸ .refl inside behind

theorem skipReferenceWords_staysInside (enclosed : Enclosed inside behind) :
    StaysInside inside behind (skipReferenceWords (inside ++ behind)) := by
  cases whole : inside ++ behind with
  | nil => exact ⟨[], inside, rfl, .nil, whole.symm⟩
  | cons token rest =>
      rw [skipReferenceWords]
      split
      · rename_i isRef
        have stays := enclosed.takes_word whole
          (isAnyWord_of_word? (word?_of_isWord isRef))
        refine enclosed.andThen stays fun further restEq furtherEnclosed => ?_
        rw [restEq]
        exact skipWord_staysInside furtherEnclosed "readonly"
      · exact whole ▸ .refl inside behind

theorem skipBareType?_staysInside (enclosed : Enclosed inside behind)
    (typed : skipBareType? (inside ++ behind) = .ok (some left)) :
    StaysInside inside behind left := by
  cases whole : inside ++ behind with
  | nil =>
      rw [whole] at typed
      cases typed
  | cons token rest =>
      rw [whole, skipBareType?] at typed
      split at typed
      · rename_i tuple
        split at typed
        · cases typed
        · rename_i after groupSkipped
          obtain ⟨_, skipped, answer⟩ := exists_of_map_eq_ok typed
          cases answer
          have stays := enclosed.takes_group whole (closer?_of_isMark tuple)
            groupSkipped
          refine enclosed.andThen stays
            fun further afterEq furtherEnclosed => ?_
          rw [afterEq] at skipped
          exact skipTypeSuffixes_staysInside furtherEnclosed skipped
      · split at typed
        · rename_i named
          obtain ⟨_, skipped, answer⟩ := exists_of_map_eq_ok typed
          cases answer
          obtain ⟨name, isName⟩ := Option.isSome_iff_exists.1 named
          have stays := enclosed.takes_word whole
            (isAnyWord_of_word? (Option.filter_eq_some_iff.1 isName).1)
          refine enclosed.andThen stays
            fun further restEq furtherEnclosed => ?_
          subst restEq
          refine furtherEnclosed.andThen
            (skipNameParts_staysInside furtherEnclosed)
            fun parts partsEq partsEnclosed => ?_
          rw [partsEq] at skipped
          exact skipTypeSuffixes_staysInside partsEnclosed skipped
        · cases typed

theorem skipType?_staysInside (enclosed : Enclosed inside behind)
    (typed : skipType? (inside ++ behind) = .ok (some left)) :
    StaysInside inside behind left := by
  rw [skipType?_eq] at typed
  refine enclosed.andThen (skipReferenceWords_staysInside enclosed)
    fun further bareEq furtherEnclosed => ?_
  rw [bareEq] at typed
  exact skipBareType?_staysInside furtherEnclosed typed

/-! ## Types are never refused -/

theorem Nested.exists_skipGroup {token : Token} {rest whole : List Token}
    {wanted : Char} (nested : Nested whole) (suffix : token :: rest <:+ whole)
    (opens : closer? token = some wanted) :
    ∃ after, skipGroup wanted rest = .ok after ∧ after <:+ whole := by
  obtain ⟨inner, closing, after, rfl, closes, inside⟩ :=
    nested.exists_group_of_suffix suffix opens
  refine ⟨after, inside.skipGroup_eq closes after, .trans ?_ suffix⟩
  exact ⟨token :: (inner ++ [closing]), by simp⟩

theorem skipTypeSuffixes_accepted {tokens whole : List Token}
    (nested : Nested whole) (suffix : tokens <:+ whole) :
    ∃ left, skipTypeSuffixes tokens = .ok left := by
  fun_induction skipTypeSuffixes tokens with
  | case1 | case5 => exact ⟨_, rfl⟩
  | case2 token rest _ inductionHypothesis =>
      exact inductionHypothesis (.trans (List.suffix_cons token rest) suffix)
  | case3 token rest _ isArray refusal refused =>
      obtain ⟨after, skipped, _⟩ :=
        nested.exists_skipGroup suffix (closer?_of_atArraySuffix isArray)
      rw [refused] at skipped
      cases skipped
  | case4 token rest _ isArray after accepted inductionHypothesis =>
      obtain ⟨_, skipped, within⟩ :=
        nested.exists_skipGroup suffix (closer?_of_atArraySuffix isArray)
      rw [accepted] at skipped
      cases skipped
      exact inductionHypothesis within

/-- Whatever begins at nested tokens, no type is refused there. -/
theorem skipType?_accepted {tokens : List Token} (nested : Nested tokens) :
    ∃ found, skipType? tokens = .ok found := by
  obtain ⟨words, wordsEq, _⟩ := skipReferenceWords_local tokens
  have suffix : skipReferenceWords tokens <:+ tokens := ⟨words, wordsEq.symm⟩
  rw [skipType?_eq]
  cases start : skipReferenceWords tokens with
  | nil => exact ⟨none, rfl⟩
  | cons token rest =>
      rw [start] at suffix
      have accepted : ∀ {middle : List Token}, middle <:+ tokens →
          ∃ found, (skipTypeSuffixes middle).map some = .ok found := by
        intro middle within
        obtain ⟨left, skipped⟩ := skipTypeSuffixes_accepted nested within
        exact ⟨some left, by rw [skipped]; rfl⟩
      rw [skipBareType?]
      split
      · rename_i tuple
        obtain ⟨after, skipped, within⟩ :=
          nested.exists_skipGroup suffix (closer?_of_isMark tuple)
        rw [skipped]
        exact accepted within
      · split
        · refine accepted ?_
          exact (skipNameParts_taken rest).suffix.trans
            ((List.suffix_cons token rest).trans suffix)
        · exact ⟨none, rfl⟩

/-! ## Parameters -/

theorem skipAttributes_staysInside (enclosed : Enclosed inside behind)
    (skipped : skipAttributes (inside ++ behind) = .ok left) :
    StaysInside inside behind left := by
  generalize whole : inside ++ behind = tokens at skipped
  fun_induction skipAttributes tokens generalizing inside with
  | case1 | case4 =>
      cases skipped
      exact whole ▸ .refl inside behind
  | case2 => cases skipped
  | case3 token rest opening after groupSkipped inductionHypothesis =>
      have stays := enclosed.takes_group whole (closer?_of_isMark opening)
        groupSkipped
      refine enclosed.andThen stays fun further restEq furtherEnclosed => ?_
      exact inductionHypothesis furtherEnclosed restEq.symm skipped

theorem skipParameterModifiers_staysInside
    (enclosed : Enclosed inside behind) :
    StaysInside inside behind (skipParameterModifiers (inside ++ behind)) := by
  generalize whole : inside ++ behind = tokens
  fun_induction skipParameterModifiers tokens generalizing inside with
  | case1 | case3 => exact whole ▸ .refl inside behind
  | case2 token rest isModifier inductionHypothesis =>
      have isWord : token.isAnyWord = true := by
        cases named : word? token with
        | some text => exact isAnyWord_of_word? named
        | none =>
            rw [isParameterModifier, named] at isModifier
            cases isModifier
      have stays := enclosed.takes_word whole isWord
      refine enclosed.andThen stays fun further restEq furtherEnclosed => ?_
      exact inductionHypothesis furtherEnclosed restEq.symm

/-- What is skipped of nested tokens up to a stop ends in front of the stop
behind them at the latest. -/
theorem skipUntil_staysInside {stops : List Char} {stop : Token}
    {rest : List Token} (nested : Nested inside)
    (isStop : stops.any stop.isMark = true)
    (skipped : skipUntil stops (inside ++ stop :: rest) = .ok left) :
    StaysInside inside (stop :: rest) left := by
  induction nested with
  | nil =>
      rw [List.nil_append, skipUntil_stop isStop] at skipped
      cases skipped
      exact .refl [] (stop :: rest)
  | @neutral token further notOpening notClosing _ inductionHypothesis =>
      rw [List.cons_append] at skipped
      cases stopsHere : stops.any token.isMark with
      | true =>
          rw [skipUntil_stop stopsHere] at skipped
          cases skipped
          exact .refl (token :: further) (stop :: rest)
      | false =>
          rw [skipUntil_neutral stopsHere notOpening notClosing] at skipped
          exact (inductionHypothesis skipped).append
            (.neutral notOpening notClosing .nil)
  | @group opening closing wanted inner further opens closes innerNested _ _
      inductionHypothesis =>
      rw [List.cons_append, List.append_assoc, List.cons_append] at skipped
      cases stopsHere : stops.any opening.isMark with
      | true =>
          rw [skipUntil_stop stopsHere] at skipped
          cases skipped
          exact ⟨[], _, rfl, .nil, by simp⟩
      | false =>
          rw [skipUntil_group stopsHere opens
            (innerNested.skipGroup_eq closes _)] at skipped
          have whole := (inductionHypothesis skipped).append
            (.group opens closes innerNested .nil)
          rwa [List.cons_append, List.append_assoc, List.singleton_append]
            at whole

theorem skipDefaultValue_staysInside (enclosed : Enclosed inside behind)
    (skipped : skipDefaultValue (inside ++ behind) = .ok left) :
    StaysInside inside behind left := by
  cases value : atMark '=' (inside ++ behind) with
  | false =>
      rw [skipDefaultValue_none value] at skipped
      cases skipped
      exact .refl inside behind
  | true =>
      obtain ⟨equals, given, split, isEquals⟩ := exists_of_atMark value
      rw [skipDefaultValue, if_pos value, split, List.tail_cons] at skipped
      have stays := enclosed.takes_mark split isEquals (by decide)
      refine enclosed.andThen stays fun further givenEq furtherEnclosed => ?_
      obtain ⟨closing, rest, rfl, isClosing⟩ := exists_of_atMark enclosed.ended
      have isStop : [',', ')'].any closing.isMark = true := by
        simp [isClosing]
      rw [givenEq] at skipped
      exact skipUntil_staysInside furtherEnclosed.nested isStop skipped

theorem readParameterName_staysInside {name : String}
    (enclosed : Enclosed inside behind)
    (read : readParameterName (inside ++ behind) = .ok (name, left)) :
    StaysInside inside behind left := by
  unfold readParameterName at read
  split at read
  · cases read
  · rename_i text behindName present
    obtain ⟨token, split, named⟩ := exists_of_expectWord present
    obtain ⟨_, valueSkipped, answer⟩ := exists_of_map_eq_ok read
    cases answer
    have stays := enclosed.takes_word split (isAnyWord_of_word? named)
    refine enclosed.andThen stays fun further restEq furtherEnclosed => ?_
    rw [restEq] at valueSkipped
    exact skipDefaultValue_staysInside furtherEnclosed valueSkipped

theorem readTypedParameter_staysInside {parameter : Parameter}
    (enclosed : Enclosed inside behind)
    (read : readTypedParameter (inside ++ behind) = .ok (parameter, left)) :
    StaysInside inside behind left := by
  cases typed : skipType? (inside ++ behind) with
  | error refusal =>
      rw [readTypedParameter, typed] at read
      cases read
  | ok found =>
      cases found with
      | none =>
          rw [readTypedParameter, typed] at read
          cases read
      | some behindType =>
          rw [readTypedParameter_eq typed] at read
          obtain ⟨_, nameRead, answer⟩ := exists_of_map_eq_ok read
          cases answer
          refine enclosed.andThen (skipType?_staysInside enclosed typed)
            fun further restEq furtherEnclosed => ?_
          rw [restEq] at nameRead
          exact readParameterName_staysInside furtherEnclosed nameRead

theorem readBareParameter_staysInside {parameter : Parameter}
    (enclosed : Enclosed inside behind)
    (read : readBareParameter (inside ++ behind) = .ok (parameter, left)) :
    StaysInside inside behind left := by
  rw [readBareParameter] at read
  split at read
  · rename_i anything
    cases split : inside ++ behind with
    | nil =>
        rw [split] at anything
        cases anything
    | cons token rest =>
        rw [split] at read anything
        cases read
        exact enclosed.takes_word split
          (isAnyWord_of_word? (word?_of_isWord anything))
  · exact readTypedParameter_staysInside enclosed read

theorem readParameter_staysInside {parameter : Parameter}
    (enclosed : Enclosed inside behind)
    (read : readParameter (inside ++ behind) = .ok (parameter, left)) :
    StaysInside inside behind left := by
  cases skipped : skipAttributes (inside ++ behind) with
  | error refusal =>
      rw [readParameter, skipped] at read
      cases read
  | ok start =>
      rw [readParameter_eq skipped] at read
      refine enclosed.andThen (skipAttributes_staysInside enclosed skipped)
        fun further startEq furtherEnclosed => ?_
      subst startEq
      refine furtherEnclosed.andThen
        (skipParameterModifiers_staysInside furtherEnclosed)
        fun bare bareEq bareEnclosed => ?_
      rw [bareEq] at read
      exact readBareParameter_staysInside bareEnclosed read

/-- Parameters end with the parenthesis behind the enclosed tokens. -/
theorem readParameters_enclosed {parameters : List Parameter}
    (enclosed : Enclosed inside behind)
    (read : readParameters (inside ++ behind) = .ok (parameters, left)) :
    left = behind.tail := by
  generalize whole : inside ++ behind = tokens at read
  fun_induction readParameters tokens generalizing inside parameters left with
  | case1 => cases read
  | case2 tokens parameter rest parameterRead more inductionHypothesis =>
      subst whole
      obtain ⟨taken, further, rfl, takenNested, rfl⟩ :=
        readParameter_staysInside enclosed parameterRead
      obtain ⟨comma, later, split, isComma⟩ := exists_of_atMark more
      obtain ⟨⟨others, after⟩, othersRead, answer⟩ :=
        exists_of_map_eq_ok read
      cases answer
      have nextEnclosed := enclosed.rest takenNested
      obtain ⟨passed, last, rfl, passedNested, rfl⟩ :=
        nextEnclosed.takes_mark split isComma (by decide)
      rw [split] at inductionHypothesis othersRead
      exact inductionHypothesis (nextEnclosed.rest passedNested) rfl
        othersRead
  | case3 tokens parameter rest parameterRead last =>
      subst whole
      obtain ⟨taken, further, rfl, takenNested, rfl⟩ :=
        readParameter_staysInside enclosed parameterRead
      obtain ⟨after, closed, answer⟩ := exists_of_map_eq_ok read
      cases answer
      obtain ⟨closing, split, isClosing⟩ := exists_of_expectMark closed
      exact (enclosed.rest takenNested).tail_eq split isClosing

theorem readParameterList_enclosed {parameters : List Parameter}
    (enclosed : Enclosed inside behind)
    (read : readParameterList (inside ++ behind) = .ok (parameters, left)) :
    left = behind.tail := by
  unfold readParameterList at read
  split at read
  · rename_i empty
    obtain ⟨closing, rest, split, isClosing⟩ := exists_of_atMark empty
    rw [split] at read
    cases read
    exact enclosed.tail_eq split isClosing
  · exact readParameters_enclosed enclosed read

end

/-! ## Groups of a statement -/

/-- Type arguments that are opened outside the groups in these tokens, and
closed in them, are nested. -/
def AnglesNested (tokens : List Token) : Prop :=
  ∀ (front : List Token) (opening : Token) (rest left : List Token),
    tokens = front ++ opening :: rest → Nested front →
      opening.isMark '<' = true → afterAngles? 0 rest = some left →
        ∃ arguments, rest = arguments ++ left ∧ Nested arguments

theorem anglesNested_of_noAngle {tokens : List Token}
    (noAngle : ∀ token ∈ tokens, token.isMark '<' = false) :
    AnglesNested tokens := by
  rintro front opening rest left rfl _ isOpening
  rw [noAngle opening (by simp)] at isOpening
  cases isOpening

/-- Type arguments are closed in front of the next token that ends them. -/
theorem afterAngles?_before_ending {stop : Token}
    (ending : endsTypeArguments stop = true) {depth : Nat}
    {tokens rest left : List Token}
    (closed : afterAngles? depth (tokens ++ stop :: rest) = some left) :
    ∃ further, left = further ++ stop :: rest ∧
      ∀ other,
        afterAngles? depth (tokens ++ other) = some (further ++ other) := by
  induction tokens generalizing depth with
  | nil =>
      rw [List.nil_append, afterAngles?_ending depth rest ending] at closed
      cases closed
  | cons token tokens inductionHypothesis =>
      rw [List.cons_append] at closed
      simp only [List.cons_append]
      by_cases opening : token.isMark '<' = true
      · simp only [afterAngles?_opening depth _ opening] at closed ⊢
        exact inductionHypothesis closed
      · by_cases closing : token.isMark '>' = true
        · cases depth with
          | zero =>
              simp only [afterAngles?_closing_zero _ closing] at closed ⊢
              cases closed
              exact ⟨tokens, rfl, fun _ => rfl⟩
          | succ depth =>
              simp only [afterAngles?_closing_succ depth _ closing]
                at closed ⊢
              exact inductionHypothesis closed
        · by_cases stops : endsTypeArguments token = true
          · rw [afterAngles?_ending depth _ stops] at closed
            cases closed
          · rw [Bool.not_eq_true] at opening closing stops
            simp only [afterAngles?_inner depth _ opening closing stops]
              at closed ⊢
            exact inductionHypothesis closed

/-- The tokens of a group in parentheses are enclosed, whatever stands behind
the statement. -/
theorem enclosed_of_anglesNested {inner after : List Token}
    {closing semicolon : Token} (nested : Nested inner)
    (closes : closing.isMark ')' = true)
    (isSemicolon : semicolon.isMark ';' = true)
    (angles : AnglesNested (inner ++ closing :: (after ++ [semicolon])))
    (rest : List Token) :
    Enclosed inner (closing :: (after ++ semicolon :: rest)) where
  nested := nested
  ended := closes
  angles := by
    rintro front opening further left rfl frontNested isOpening closed
    have ending : endsTypeArguments semicolon = true :=
      endsTypeArguments_of_isMark isSemicolon (by simp)
    rw [← List.cons_append, ← List.append_assoc] at closed
    obtain ⟨behind, rfl, again⟩ := afterAngles?_before_ending ending closed
    obtain ⟨arguments, argumentsEq, argumentsNested⟩ := angles front opening
      (further ++ closing :: (after ++ [semicolon])) (behind ++ [semicolon])
      (by simp) frontNested isOpening (by simpa using again [semicolon])
    have split : further ++ closing :: after ++ [semicolon] =
        arguments ++ behind ++ [semicolon] := by
      simpa using argumentsEq
    have furtherNested : Nested further :=
      ((frontNested.of_append nested).behind_neutral
        (closer?_of_isMark isOpening)).2
    obtain ⟨remaining, rfl, rfl⟩ := furtherNested.exists_left
      (closing?_of_isMark closes) argumentsNested
      (List.append_cancel_right split)
    exact ⟨arguments, remaining, rfl, argumentsNested, by simp⟩

end ClassDiagram.Reading
