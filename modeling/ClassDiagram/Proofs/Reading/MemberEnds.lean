import ClassDiagram.Proofs.Reading.LocalParameters
import ClassDiagram.Proofs.Reading.TakenEnds
import ClassDiagram.Reading.Member

/-!
# How members end

What follows a member matters in three ways.  A type or a method is settled
by what it takes.  Behind the brace of an enumeration a semicolon is taken as
well.  A member that is left out may go on behind a brace with an
initializer; at its beginning only words, suffixes and closing brackets were
passed, no braces and no separators.
-/

namespace ClassDiagram.Reading

open Source (Token Lexeme)

/-! ## Optional marks -/

theorem skipMark_of_atMark_eq_false {c : Char} {tokens : List Token}
    (other : atMark c tokens = false) : skipMark c tokens = tokens := by
  cases tokens with
  | nil =>
      rfl
  | cons token rest =>
      have noMark : token.isMark c = false := other
      rw [skipMark, noMark, if_neg Bool.false_ne_true]

/-- Only a further semicolon would be taken as well. -/
theorem exists_of_skipMark (c : Char) (tokens : List Token) :
    ∃ consumed, tokens = consumed ++ skipMark c tokens ∧
      ∀ other, (atMark c (skipMark c tokens) = atMark c other) →
        skipMark c (consumed ++ other) = other := by
  cases present : atMark c tokens with
  | false =>
      rw [skipMark_of_atMark_eq_false present]
      refine ⟨[], rfl, fun other separator => ?_⟩
      apply skipMark_of_atMark_eq_false
      rwa [List.nil_append, ← separator]
  | true =>
      obtain ⟨token, rest, rfl, isMark⟩ := exists_of_atMark present
      have skips : ∀ other, skipMark c (token :: other) = other := by
        intro other
        rw [skipMark, if_pos isMark]
      rw [skips]
      exact ⟨[token], rfl, fun other _ => skips other⟩

/-! ## Three ways to end -/

section

variable {α β : Type} {nothing result : α} {routine whole : List Token → Result α}
  {tokens middle rest : List Token}

def leavingOut (nothing : α) (tokens : List Token) : Result α :=
  (skipMember tokens).map fun rest => (nothing, rest)

theorem leavingOut_map (convert : α → β) :
    Except.map (Prod.map convert id) ∘ leavingOut nothing =
      leavingOut (convert nothing) := by
  funext tokens
  rw [Function.comp_apply, leavingOut, leavingOut]
  cases skipMember tokens <;> rfl

inductive MemberEnd (nothing : α) (routine : List Token → Result α)
    (result : α) (tokens rest : List Token) : Prop
  /-- Nothing behind it matters. -/
  | settled
      (isLocal : Local Anything routine (fun rest => .ok (result, rest))
        tokens rest)
  /-- A semicolon behind it is taken. -/
  | braced {reached : List Token}
      (isLocal : Local Anything routine
        (fun reached => .ok (result, skipMark ';' reached)) tokens reached)
      (restEq : skipMark ';' reached = rest)
  /-- It is left out from some place on. -/
  | leftOut {reached : List Token}
      (isLocal : Local SameStop routine (leavingOut nothing) tokens reached)
      (taken : MayBeTaken tokens reached)
      (skipped : skipMember reached = .ok rest)
      (resultEq : result = nothing)

namespace MemberEnd

/-- A member that is left out as a whole. -/
theorem of_leavingOut (read : leavingOut nothing tokens = .ok (result, rest))
    (again : ∀ other, SameStop tokens other →
      routine other = leavingOut nothing other) :
    MemberEnd nothing routine result tokens rest := by
  obtain ⟨behind, skipped, answer⟩ := exists_of_map_eq_ok read
  cases answer
  exact .leftOut (local_of_nothing again) (.refl tokens) skipped rfl

/-- A routine that goes on as another one does ends as that one does. -/
theorem behind (goesOn : Local SameStop whole routine tokens middle)
    (taken : MayBeTaken tokens middle)
    (ended : MemberEnd nothing routine result middle rest) :
    MemberEnd nothing whole result tokens rest := by
  cases ended with
  | settled isLocal =>
      exact .settled (goesOn.trans isLocal)
  | braced isLocal restEq =>
      exact .braced (goesOn.trans isLocal) restEq
  | leftOut isLocal further skipped resultEq =>
      exact .leftOut (goesOn.trans isLocal) (taken.trans further) skipped
        resultEq

/-- What is made of the result does not matter. -/
theorem map (convert : α → β)
    (ended : MemberEnd nothing routine result tokens rest) :
    MemberEnd (convert nothing)
      (fun tokens => (routine tokens).map (Prod.map convert id))
      (convert result) tokens rest := by
  cases ended with
  | settled isLocal =>
      exact .settled (isLocal.map (Except.map (Prod.map convert id)))
  | braced isLocal restEq =>
      exact .braced (isLocal.map (Except.map (Prod.map convert id))) restEq
  | leftOut isLocal taken skipped resultEq =>
      have converted := isLocal.map (Except.map (Prod.map convert id))
      rw [leavingOut_map] at converted
      exact .leftOut converted taken skipped (congrArg convert resultEq)

/-- Whatever way a member ends, it is read again in front of everything in
which an initializer, a separator or the end of the body is next exactly if
it was before. -/
theorem isLocal (ended : MemberEnd nothing routine result tokens rest) :
    Local ResumesAlike routine (fun rest => .ok (result, rest)) tokens
      rest := by
  cases ended with
  | settled isLocal =>
      exact isLocal.mono fun _ _ => trivial
  | @braced reached isLocal restEq =>
      subst restEq
      obtain ⟨taken, tokensEq, again⟩ := isLocal
      obtain ⟨ending, reachedEq, skipsEnding⟩ :=
        exists_of_skipMark ';' reached
      refine ⟨taken ++ ending, ?_, fun other alike => ?_⟩
      · rw [List.append_assoc, ← reachedEq, tokensEq]
      · obtain ⟨same, routineEq⟩ := again (ending ++ other) trivial
        rw [List.append_assoc]
        refine ⟨same, routineEq.trans ?_⟩
        simp only [skipsEnding other alike.separator]
  | leftOut isLocal taken skipped resultEq =>
      subst resultEq
      exact isLocal.trans ((skipMember_local skipped).map (Except.map _))

end MemberEnd

/-! ## Members at the end of the tokens -/

theorem sameStop_of_endsDeclaration (ends : endsDeclaration tokens = true)
    (left right : List Token) :
    SameStop (tokens ++ left) (tokens ++ right) := by
  obtain ⟨last, isLast, isEnd⟩ := (Option.any_eq_true _ _).1 ends
  obtain ⟨front, rfl⟩ := List.getLast?_eq_some_iff.1 isLast
  rw [List.append_assoc, List.append_assoc]
  refine SameStop.append (.stopped left right ?_) front
  rcases (Bool.or_eq_true _ _).mp isEnd with separator | closing
  · exact endsTypeArguments_of_isMark separator (by simp)
  · exact endsTypeArguments_of_isMark closing (by simp)

theorem plain_of_closer? {token : Token} {closer : Char}
    (opens : closer? token = some closer) (noBrace : closer ≠ '\x7d') :
    closer ∈ ['>', ')', ']', '?', '*'] := by
  obtain ⟨lead, lexeme⟩ := token
  cases lexeme with
  | mark c =>
      simp only [closer?, closingMark?] at opens
      split at opens
      case h_1 | h_2 =>
        cases opens
        decide
      case h_3 =>
        cases opens
        exact absurd rfl noBrace
      case h_4 =>
        cases opens
  | _ =>
      cases opens

/-- A member that is left out and ends with a block goes on with an
initializer, if one follows. -/
theorem skipMember_append (ends : endsDeclaration tokens = true)
    (skipped : skipMember tokens = .ok []) (other : List Token) :
    skipMember (tokens ++ other) = .ok other ∨
      (atMark '=' other = true ∧
        skipMember (tokens ++ other) = skipMember other) := by
  fun_induction skipMember tokens with
  | case1 =>
      cases ends
  | case2 | case4 =>
      cases skipped
  | case3 token tokens inside separator =>
      cases skipped
      exact .inl (skipMember_separator separator)
  | case5 token tokens inside noSeparator closer opens after groupSkipped
      blockEnds =>
      cases skipped
      rw [Bool.not_eq_true] at inside noSeparator
      obtain ⟨group, rfl, groupAgain⟩ := skipGroup_local groupSkipped
      have whole := skipMember_group inside noSeparator opens
        (groupAgain other)
      rw [List.append_nil, List.cons_append, whole]
      cases value : atMark '=' other with
      | false =>
          exact .inl (if_pos ⟨blockEnds.1, rfl⟩)
      | true =>
          exact .inr ⟨rfl, if_neg (by simp)⟩
  | case6 token tokens inside noSeparator closer opens after groupSkipped
      blockGoesOn inductionHypothesis =>
      rw [Bool.not_eq_true] at inside noSeparator
      obtain ⟨group, rfl, groupAgain⟩ := skipGroup_local groupSkipped
      have endsAfter : endsDeclaration after = true := by
        by_cases brace : closer = '\x7d'
        · have something : after ≠ [] := by
            rintro rfl
            exact blockGoesOn ⟨brace, rfl⟩
          rwa [← List.cons_append, endsDeclaration_append _ something] at ends
        · have taken := skipGroup_taken (plain_of_closer? opens brace)
            groupSkipped
          exact PlainlyTaken.endsDeclaration
            (taken.behind (List.suffix_cons token _)) ends
      have stillGoesOn :
          ¬ (closer = '\x7d' ∧ atMark '=' (after ++ other) = false) := by
        rintro ⟨brace, noValue⟩
        refine blockGoesOn ⟨brace, ?_⟩
        cases after with
        | nil =>
            rfl
        | cons next after =>
            exact noValue
      rw [List.cons_append, List.append_assoc, skipMember_group inside
        noSeparator opens (groupAgain (after ++ other)), if_neg stillGoesOn]
      exact inductionHypothesis endsAfter skipped
  | case7 token tokens inside noSeparator notOpening inductionHypothesis =>
      rw [Bool.not_eq_true] at inside noSeparator
      rw [List.cons_append, skipMember_neutral inside noSeparator notOpening]
      refine inductionHypothesis ?_ skipped
      cases tokens with
      | nil =>
          have isEnd : (token.isMark ';' || token.isMark '\x7d') = true := ends
          rw [noSeparator, inside] at isEnd
          cases isEnd
      | cons next tokens =>
          exact ends

theorem skipMark_append {c : Char} (skipped : skipMark c tokens = [])
    (other : List Token) :
    skipMark c (tokens ++ other) = other ∨ 
      skipMark c (tokens ++ other) = skipMark c other := by
  cases tokens with
  | nil =>
      exact .inr rfl
  | cons token rest =>
      rw [skipMark] at skipped
      split at skipped
      · rename_i isMark
        subst skipped
        rw [List.singleton_append, skipMark, if_pos isMark]
        exact .inl rfl
      · cases skipped

/-- What of the tokens behind a member is taken together with it. -/
inductive Resumed (tokens : List Token) : List Token → Prop
  | here : Resumed tokens tokens
  | separator : Resumed tokens (skipMark ';' tokens)
  | value {behind : List Token} (isValue : atMark '=' tokens = true)
      (skipped : skipMember tokens = .ok behind) : Resumed tokens behind

/-- A member that ends like a declaration and with the last of the tokens is
read alike in front of other tokens, with a semicolon or without, or it goes
on with an initializer as if it began there. -/
theorem MemberEnd.append_cases
    (ended : MemberEnd nothing routine result tokens [])
    (ends : endsDeclaration tokens = true) (other : List Token) :
    routine (tokens ++ other) = .ok (result, other) ∨
      routine (tokens ++ other) = .ok (result, skipMark ';' other) ∨
      (result = nothing ∧ atMark '=' other = true ∧
        routine (tokens ++ other) = leavingOut nothing other) := by
  cases ended with
  | settled isLocal =>
      obtain ⟨consumed, rfl, again⟩ := isLocal
      rw [List.append_nil]
      exact .inl (again other trivial).2
  | @braced reached isLocal restEq =>
      obtain ⟨consumed, rfl, again⟩ := isLocal
      have routineEq := (again (reached ++ other) trivial).2
      rw [List.append_assoc, routineEq]
      rcases skipMark_append restEq other with same | skipped
      · exact .inl (by simp only [same])
      · exact .inr (.inl (by simp only [skipped]))
  | @leftOut reached isLocal taken skipped resultEq =>
      subst resultEq
      have endsReached := taken.endsDeclaration ends
      have same : SameStop reached (reached ++ other) := by
        have whole := sameStop_of_endsDeclaration endsReached [] other
        rwa [List.append_nil] at whole
      obtain ⟨consumed, rfl, again⟩ := isLocal
      have routineEq := (again (reached ++ other) same).2
      rw [List.append_assoc, routineEq, leavingOut]
      rcases skipMember_append endsReached skipped other with
        stops | ⟨isValue, goesOn⟩
      · exact .inl (by rw [stops]; rfl)
      · exact .inr (.inr ⟨rfl, isValue, by rw [goesOn]; rfl⟩)

/-- If an initializer that follows can be skipped, the member is read alike up
to what it takes of the other tokens. -/
theorem MemberEnd.append
    (ended : MemberEnd nothing routine result tokens [])
    (ends : endsDeclaration tokens = true) {other : List Token}
    (skips : atMark '=' other = true →
      ∃ behind, skipMember other = .ok behind) :
    ∃ behind, Resumed other behind ∧
      routine (tokens ++ other) = .ok (result, behind) := by
  rcases ended.append_cases ends other with
    same | separated | ⟨resultEq, isValue, goesOn⟩
  · exact ⟨other, .here, same⟩
  · exact ⟨skipMark ';' other, .separator, separated⟩
  · obtain ⟨behind, otherSkipped⟩ := skips isValue
    refine ⟨behind, .value isValue otherSkipped, ?_⟩
    rw [goesOn, leavingOut, otherSkipped, resultEq]
    rfl

end

end ClassDiagram.Reading
