import ClassDiagram.Proofs.Reading.PassedBraces

/-!
# The last token that is taken

What stands in front of the end of a member (attributes, modifiers, its type
and its name) is taken up to a word, a suffix or a closing bracket that is no
brace.  So none of it takes the semicolon or the closing brace that the tokens
end with.
-/

namespace ClassDiagram.Reading

open Source (Token Lexeme)

/-- The last of the tokens that were taken is of this sort. -/
def TakenTo (isLast : Token → Prop) (tokens rest : List Token) : Prop :=
  ∃ front last, tokens = front ++ last :: rest ∧ isLast last

namespace TakenTo

variable {isLast : Token → Prop} {tokens between rest : List Token}

theorem behind (suffix : between <:+ tokens)
    (ended : TakenTo isLast between rest) : TakenTo isLast tokens rest := by
  obtain ⟨before, rfl⟩ := suffix
  obtain ⟨front, last, rfl, ends⟩ := ended
  exact ⟨before ++ front, last, (List.append_assoc ..).symm, ends⟩

theorem suffix (ended : TakenTo isLast tokens rest) : rest <:+ tokens := by
  obtain ⟨front, last, rfl, _⟩ := ended
  exact ⟨front ++ [last], (List.append_cons ..).symm⟩

theorem mono {isOther : Token → Prop} (ended : TakenTo isLast tokens rest)
    (included : ∀ token ∈ tokens, isLast token → isOther token) :
    TakenTo isOther tokens rest := by
  obtain ⟨front, last, rfl, ends⟩ := ended
  exact ⟨front, last, rfl, included last (by simp) ends⟩

end TakenTo

/-! ## Plain ends -/

/-- A word, a suffix of a type or a closing bracket that is no brace. -/
def isPlainEnd (token : Token) : Bool :=
  token.isAnyWord || ['>', ')', ']', '?', '*'].any token.isMark

theorem isPlainEnd_of_isAnyWord {token : Token}
    (isWord : token.isAnyWord = true) : isPlainEnd token = true := by
  rw [isPlainEnd, isWord, Bool.true_or]

theorem isPlainEnd_of_word? {token : Token} {text : String}
    (isWord : word? token = some text) : isPlainEnd token = true :=
  isPlainEnd_of_isAnyWord (isAnyWord_of_word? isWord)

theorem isPlainEnd_of_isMark {token : Token} {c : Char}
    (isMark : token.isMark c = true) (plain : c ∈ ['>', ')', ']', '?', '*']) :
    isPlainEnd token = true := by
  rw [isPlainEnd, List.any_eq_true.2 ⟨c, plain, isMark⟩, Bool.or_true]

theorem isAnyWord_or_isMark_of_isPlainEnd {token : Token}
    (plain : isPlainEnd token = true) :
    token.isAnyWord = true ∨
      ∃ c, token.isMark c = true ∧ c ≠ ';' ∧ c ≠ '\x7b' ∧ c ≠ '\x7d' := by
  rw [isPlainEnd, Bool.or_eq_true] at plain
  refine plain.imp_right fun closes => ?_
  obtain ⟨c, plainMark, isMark⟩ := List.any_eq_true.1 closes
  simp only [List.mem_cons, List.not_mem_nil, or_false] at plainMark
  rcases plainMark with rfl | rfl | rfl | rfl | rfl <;>
    exact ⟨_, isMark, by decide⟩

abbrev PlainlyTaken : List Token → List Token → Prop :=
  TakenTo fun last => isPlainEnd last = true

/-- No token was taken, or tokens up to a plain end. -/
def MayBeTaken (tokens rest : List Token) : Prop :=
  rest = tokens ∨ PlainlyTaken tokens rest

theorem PlainlyTaken.further {tokens between rest : List Token}
    (first : PlainlyTaken tokens between)
    (further : MayBeTaken between rest) : PlainlyTaken tokens rest := by
  rcases further with rfl | taken
  · exact first
  · exact taken.behind first.suffix

namespace MayBeTaken

variable {tokens between rest : List Token}

theorem refl (tokens : List Token) : MayBeTaken tokens tokens :=
  .inl rfl

theorem suffix (mayBe : MayBeTaken tokens rest) : rest <:+ tokens := by
  rcases mayBe with rfl | taken
  · exact List.suffix_refl rest
  · exact taken.suffix

theorem trans (first : MayBeTaken tokens between)
    (further : MayBeTaken between rest) : MayBeTaken tokens rest := by
  rcases first with rfl | taken
  · exact further
  · exact .inr (taken.further further)

end MayBeTaken

/-! ## Groups and type arguments -/

theorem skipGroups_taken {wanted : List Char} {closer : Char}
    {tokens rest : List Token} (outermost : wanted.getLast? = some closer)
    (skipped : skipGroups wanted tokens = .ok rest) :
    TakenTo (fun last => closing? last = some closer) tokens rest := by
  fun_induction skipGroups wanted tokens with
  | case1 =>
      cases outermost
  | case2 | case6 =>
      cases skipped
  | case3 wanted outer token tokens inner opens inductionHypothesis =>
      rw [List.getLast?_cons_cons] at inductionHypothesis
      exact .behind (List.suffix_cons token tokens)
        (inductionHypothesis outermost skipped)
  | case4 wanted outer token tokens notOpening notClosing
      inductionHypothesis =>
      exact .behind (List.suffix_cons token tokens)
        (inductionHypothesis outermost skipped)
  | case5 outer token tokens notOpening found closes
      inductionHypothesis =>
      cases outer with
      | nil =>
          rw [skipGroups_nil] at skipped
          cases skipped
          cases outermost
          exact ⟨[], token, rfl, closes⟩
      | cons next others =>
          rw [List.getLast?_cons_cons] at outermost
          exact .behind (List.suffix_cons token tokens)
            (inductionHypothesis outermost skipped)

theorem isMark_of_closing? {token : Token} {closer : Char}
    (closes : closing? token = some closer) :
    token.isMark closer = true := by
  obtain ⟨lead, lexeme⟩ := token
  cases lexeme with
  | mark c =>
      simp only [closing?] at closes
      split at closes
      · cases closes
        exact beq_self_eq_true _
      · cases closes
  | _ =>
      cases closes

theorem skipGroup_taken {closer : Char} {tokens rest : List Token}
    (plain : closer ∈ ['>', ')', ']', '?', '*'])
    (skipped : skipGroup closer tokens = .ok rest) :
    PlainlyTaken tokens rest :=
  (skipGroups_taken rfl skipped).mono fun _ _ closes =>
    isPlainEnd_of_isMark (isMark_of_closing? closes) plain

/-- A type argument list ends with a closing angle bracket. -/
theorem afterAngles?_taken {depth : Nat} {tokens rest : List Token}
    (closed : afterAngles? depth tokens = some rest) :
    TakenTo (fun last => last.isMark '>' = true) tokens rest := by
  fun_induction afterAngles? depth tokens with
  | case1 | case5 =>
      cases closed
  | case2 _ token tokens _ inductionHypothesis
  | case4 token tokens _ _ _ inductionHypothesis
  | case6 _ token tokens _ _ _ inductionHypothesis =>
      exact .behind (List.suffix_cons token tokens)
        (inductionHypothesis closed)
  | case3 token tokens notOpening closing =>
      cases closed
      exact ⟨[], token, rfl, closing⟩

theorem afterAngles?_tail_taken {tokens rest : List Token}
    (closed : afterAngles? 0 tokens.tail = some rest) :
    PlainlyTaken tokens rest :=
  ((afterAngles?_taken closed).mono fun _ _ closes =>
    isPlainEnd_of_isMark closes (by decide)).behind (List.tail_suffix tokens)

theorem skipAngles_taken (tokens : List Token) :
    MayBeTaken tokens (skipAngles tokens) := by
  unfold skipAngles
  split
  · cases closed : afterAngles? 0 tokens.tail with
    | none =>
        exact .refl tokens
    | some rest =>
        exact .inr (afterAngles?_tail_taken closed)
  · exact .refl tokens

/-! ## Types -/

theorem afterQualifier?_taken {tokens rest : List Token}
    (qualified : afterQualifier? tokens = some rest) :
    PlainlyTaken tokens rest := by
  unfold afterQualifier? at qualified
  split at qualified
  · rename_i first second others
    split at qualified
    · rename_i dotted
      rw [Bool.and_eq_true] at dotted
      split at qualified
      · cases qualified
        exact ⟨[first], second, rfl, isPlainEnd_of_isAnyWord dotted.2⟩
      · cases qualified
    · split at qualified
      · split at qualified
        · rename_i isName
          cases qualified
          cases others with
          | nil =>
              cases isName
          | cons name behind =>
              exact ⟨[first, second], name, rfl,
                isPlainEnd_of_isAnyWord isName⟩
        · cases qualified
      · cases qualified
  · cases qualified

theorem skipNameParts_taken (tokens : List Token) :
    MayBeTaken tokens (skipNameParts tokens) := by
  fun_induction skipNameParts tokens with
  | case1 tokens =>
      exact .refl tokens
  | case2 tokens _ rest qualified inductionHypothesis =>
      exact (skipAngles_taken tokens).trans (.inr
        ((afterQualifier?_taken qualified).further inductionHypothesis))
  | case3 tokens =>
      exact skipAngles_taken tokens

theorem skipTypeSuffixes_taken {tokens rest : List Token}
    (skipped : skipTypeSuffixes tokens = .ok rest) :
    MayBeTaken tokens rest := by
  fun_induction skipTypeSuffixes tokens with
  | case1 | case5 =>
      cases skipped
      exact .refl _
  | case2 token tokens marked inductionHypothesis =>
      have ends : isPlainEnd token = true := by
        rcases Bool.or_eq_true _ _ |>.mp marked with nullable | pointer
        · exact isPlainEnd_of_isMark nullable (by decide)
        · exact isPlainEnd_of_isMark pointer (by decide)
      exact .inr (PlainlyTaken.further ⟨[], token, rfl, ends⟩
        (inductionHypothesis skipped))
  | case3 =>
      cases skipped
  | case4 token tokens _ _ after groupSkipped inductionHypothesis =>
      have ended := skipGroup_taken (by decide) groupSkipped
      exact .inr ((PlainlyTaken.further ended
        (inductionHypothesis skipped)).behind
          (List.suffix_cons token tokens))

theorem isPlainEnd_of_plainWord? {token : Token}
    (isName : (plainWord? token).isSome = true) :
    isPlainEnd token = true := by
  obtain ⟨text, plain⟩ := Option.isSome_iff_exists.1 isName
  exact isPlainEnd_of_word? (Option.filter_eq_some_iff.1 plain).1

/-- A type is taken up to a plain end. -/
theorem skipType?_taken {tokens rest : List Token}
    (skipped : skipType? tokens = .ok (some rest)) :
    PlainlyTaken tokens rest := by
  refine .behind (skipReferenceWords_passed tokens).suffix ?_
  unfold skipType? at skipped
  split at skipped
  · cases skipped
  · rename_i token others start
    rw [start]
    split at skipped
    · split at skipped
      · cases skipped
      · rename_i after groupSkipped
        obtain ⟨behind, suffixed, answer⟩ := exists_of_map_eq_ok skipped
        cases answer
        have ended := skipGroup_taken (by decide) groupSkipped
        exact (PlainlyTaken.further ended
          (skipTypeSuffixes_taken suffixed)).behind
            (List.suffix_cons token others)
    · split at skipped
      · rename_i isName
        obtain ⟨behind, suffixed, answer⟩ := exists_of_map_eq_ok skipped
        cases answer
        exact PlainlyTaken.further
          ⟨[], token, rfl, isPlainEnd_of_plainWord? isName⟩
          ((skipNameParts_taken others).trans
            (skipTypeSuffixes_taken suffixed))
      · cases skipped

/-! ## What stands in front of a type and behind it -/

theorem skipAttributes_taken {tokens rest : List Token}
    (skipped : skipAttributes tokens = .ok rest) :
    MayBeTaken tokens rest := by
  fun_induction skipAttributes tokens with
  | case1 | case4 =>
      cases skipped
      exact .refl _
  | case2 =>
      cases skipped
  | case3 token tokens _ after groupSkipped inductionHypothesis =>
      have ended := skipGroup_taken (by decide) groupSkipped
      exact .inr ((PlainlyTaken.further ended
        (inductionHypothesis skipped)).behind
          (List.suffix_cons token tokens))

theorem readModifiers_taken (tokens : List Token) :
    MayBeTaken tokens (readModifiers tokens).2 := by
  fun_induction readModifiers tokens with
  | case1 | case3 =>
      exact .refl _
  | case2 token tokens modifier isModifier others inductionHypothesis =>
      have keyword := (Option.filter_eq_some_iff.1 isModifier).1
      obtain ⟨text, isWord, _⟩ := Option.bind_eq_some_iff.1 keyword
      exact .inr (PlainlyTaken.further
        ⟨[], token, rfl, isPlainEnd_of_word? isWord⟩ inductionHypothesis)

theorem qualifierEnd?_taken {tokens rest : List Token}
    (reached : qualifierEnd? tokens = some rest) :
    MayBeTaken tokens rest := by
  unfold qualifierEnd? at reached
  split at reached
  · exact .inr
      (afterAngles?_tail_taken (Option.filter_eq_some_iff.1 reached).1)
  · cases reached
    exact .refl tokens

theorem readMemberName_taken (name : String) (tokens : List Token) :
    MayBeTaken tokens (readMemberName name tokens).2 := by
  fun_induction readMemberName name tokens with
  | case1 =>
      exact .refl _
  | case2 _ _ reached | case3 _ _ _ reached | case5 _ _ _ _ _ reached =>
      exact qualifierEnd?_taken reached
  | case4 _ _ dot next rest reached part isWord isDot
      inductionHypothesis =>
      exact (qualifierEnd?_taken reached).trans (.inr (PlainlyTaken.further
        ⟨[dot], next, rfl, isPlainEnd_of_word? isWord⟩ inductionHypothesis))

/-! ## Tokens that end a declaration -/

/-- The tokens end with a semicolon or with a closing brace. -/
def endsDeclaration (tokens : List Token) : Bool :=
  tokens.getLast?.any fun last => last.isMark ';' || last.isMark '\x7d'

theorem endsDeclaration_append (front : List Token) {tokens : List Token}
    (something : tokens ≠ []) :
    endsDeclaration (front ++ tokens) = endsDeclaration tokens := by
  rw [endsDeclaration, endsDeclaration,
    List.getLast?_append_of_ne_nil front something]

/-- A plain end is not the end of a declaration. -/
theorem isMark_of_isPlainEnd {token : Token}
    (plain : isPlainEnd token = true) :
    (token.isMark ';' || token.isMark '\x7d') = false := by
  rcases isAnyWord_or_isMark_of_isPlainEnd plain with isWord | isOther
  · rw [isMark_eq_false_of_isAnyWord isWord,
      isMark_eq_false_of_isAnyWord isWord]
    rfl
  · obtain ⟨c, isMark, noSeparator, _, noClosing⟩ := isOther
    rw [isMark_unique isMark noSeparator, isMark_unique isMark noClosing]
    rfl

/-- The end of a declaration is left where tokens were taken plainly. -/
theorem PlainlyTaken.endsDeclaration {tokens rest : List Token}
    (taken : PlainlyTaken tokens rest)
    (ends : Reading.endsDeclaration tokens = true) :
    Reading.endsDeclaration rest = true := by
  obtain ⟨front, last, rfl, plain⟩ := taken
  cases rest with
  | nil =>
      rw [endsDeclaration_append front (List.cons_ne_nil _ _)] at ends
      have isEnd : (last.isMark ';' || last.isMark '\x7d') = true := ends
      rw [isMark_of_isPlainEnd plain] at isEnd
      cases isEnd
  | cons next rest =>
      rwa [List.append_cons,
        endsDeclaration_append _ (List.cons_ne_nil next rest)] at ends

theorem MayBeTaken.endsDeclaration {tokens rest : List Token}
    (mayBe : MayBeTaken tokens rest)
    (ends : Reading.endsDeclaration tokens = true) :
    Reading.endsDeclaration rest = true := by
  rcases mayBe with rfl | taken
  · exact ends
  · exact taken.endsDeclaration ends

end ClassDiagram.Reading
