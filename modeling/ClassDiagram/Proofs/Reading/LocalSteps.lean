import ClassDiagram.Proofs.Reading.LocalMembers
import ClassDiagram.Proofs.Reading.Steps

/-!
# Runs are local

What the reader did up to some place it does again if other tokens follow
there.  Only this may not change: whether an initializer, a separator or the
end of the body is next.
-/

namespace ClassDiagram.Reading

open Source (Token Lexeme)

/-! ## Namespaces -/

theorem readNameParts_last {name : String} {tokens : List Token}
    (noDot : atMark '.' tokens = false) :
    readNameParts name tokens = .ok (name, tokens) := by
  cases tokens with
  | nil =>
      rw [readNameParts.eq_def]
  | cons token rest =>
      have notDot : token.isMark '.' = false := noDot
      cases rest with
      | nil =>
          rw [readNameParts.eq_def]
          simp only [notDot, Bool.false_eq_true, if_false]
      | cons next behind =>
          rw [readNameParts.eq_def]
          simp only [notDot, Bool.false_eq_true, if_false]

theorem readNameParts_further {name part : String} {dot next : Token}
    (isDot : dot.isMark '.' = true) (named : word? next = some part)
    (rest : List Token) :
    readNameParts name (dot :: next :: rest) =
      readNameParts (name ++ "." ++ part) rest := by
  rw [readNameParts.eq_def]
  simp only [isDot, named, if_true]

/-- A dotted name ends where no dot follows. -/
theorem readNameParts_again {name dotted : String}
    {tokens rest : List Token}
    (read : readNameParts name tokens = .ok (dotted, rest)) :
    ∃ consumed, tokens = consumed ++ rest ∧
      ∀ other, atMark '.' other = false →
        readNameParts name (consumed ++ other) = .ok (dotted, other) := by
  fun_induction readNameParts name tokens with
  | case1 | case3 | case6 =>
      cases read
      exact ⟨[], rfl, fun other noDot => readNameParts_last noDot⟩
  | case2 | case5 =>
      cases read
  | case4 name dot next rest isDot part named inductionHypothesis =>
      obtain ⟨consumed, rfl, again⟩ := inductionHypothesis read
      refine ⟨dot :: next :: consumed, rfl, fun other noDot => ?_⟩
      rw [List.cons_append, List.cons_append,
        readNameParts_further isDot named]
      exact again other noDot

/-- A namespace is opened by its mark, whatever its first member is. -/
theorem readScopeOpening_again {opening : Opening} {tokens rest : List Token}
    (read : readScopeOpening tokens = .ok (opening, rest)) :
    ∃ consumed, tokens = consumed ++ rest ∧
      ∀ other, readScopeOpening (consumed ++ other) =
        .ok (opening, other) := by
  unfold readScopeOpening readDottedName at read
  split at read
  · cases read
  · rename_i dotted behindName dottedRead
    split at dottedRead
    · cases dottedRead
    · rename_i first others present
      obtain ⟨token, rfl, named⟩ := exists_of_expectWord present
      obtain ⟨parts, rfl, again⟩ := readNameParts_again dottedRead
      have opens : ∀ mark : Token, mark.isMark '.' = false →
          ∀ other, readDottedName (token :: parts ++ mark :: other) =
            .ok (dotted, mark :: other) := by
        intro mark noDot other
        rw [List.cons_append, readDottedName, expectWord_of_word named]
        exact again (mark :: other) noDot
      split at read
      · rename_i file
        obtain ⟨mark, behind, rfl, isMark⟩ := exists_of_atMark file
        cases read
        refine ⟨token :: (parts ++ [mark]), by simp, fun other => ?_⟩
        have nameEq := opens mark (isMark_unique isMark (by decide)) other
        have stillFile : atMark ';' (mark :: other) = true := isMark
        rw [List.cons_append, List.append_assoc, List.singleton_append,
          ← List.cons_append, readScopeOpening, nameEq]
        simp only [stillFile, if_true, List.tail_cons]
      · rename_i notFile
        obtain ⟨body, entered, answer⟩ := exists_of_map_eq_ok read
        cases answer
        obtain ⟨mark, rfl, isMark⟩ := exists_of_expectMark entered
        refine ⟨token :: (parts ++ [mark]), by simp, fun other => ?_⟩
        have nameEq := opens mark (isMark_unique isMark (by decide)) other
        have stillBlock : atMark ';' (mark :: other) = false :=
          isMark_unique isMark (by decide)
        rw [List.cons_append, List.append_assoc, List.singleton_append,
          ← List.cons_append, readScopeOpening, nameEq]
        simp only [stillBlock, Bool.false_eq_true, if_false,
          expectMark_of_isMark isMark]
        rfl

/-! ## Steps and runs -/

namespace ReaderState

def before (state : ReaderState) (tokens : List Token) : ReaderState :=
  { state with tokens }

theorem behindMember_before (state : ReaderState) (member : Member)
    (tokens : List Token) :
    (state.behindMember member).before tokens =
      (state.before tokens).behindMember member := by
  cases member <;> rfl

theorem behindMember_tokens (state : ReaderState) (member : Member) :
    (state.behindMember member).tokens = state.tokens := by
  cases member <;> rfl

end ReaderState

/-- A step takes its tokens also in front of others. -/
theorem Step.again {state next : ReaderState} (step : Step state next) :
    ∃ consumed, state.tokens = consumed ++ next.tokens ∧
      ∀ other, ResumesAlike next.tokens other →
        Step (state.before (consumed ++ other)) (next.before other) := by
  have shorter := step.tokens_length_lt
  cases step with
  | @close opening before outer members token rest closing braced =>
      obtain ⟨consumed, restEq, skips⟩ := exists_of_skipMark ';' rest
      refine ⟨token :: consumed, congrArg (token :: ·) restEq,
        fun other alike => ?_⟩
      have further : Step
          ⟨⟨opening, before⟩ :: outer, members,
            token :: (consumed ++ other)⟩
          ⟨outer, opening.close members.reverse :: before,
            skipMark ';' (consumed ++ other)⟩ :=
        .close closing braced
      rwa [skips other alike.separator] at further
  | @separate _ _ token _ separator =>
      exact ⟨[token], rfl, fun other _ => .separate separator⟩
  | @enter _ _ token _ _ _ scopeWord outside read =>
      obtain ⟨consumed, rfl, again⟩ := readScopeOpening_again read
      exact ⟨token :: consumed, rfl, fun other _ =>
        .enter scopeWord outside (again other)⟩
  | @member _ _ token rest behind member inside noSeparator noScope read =>
      rw [ReaderState.behindMember_tokens] at shorter ⊢
      obtain ⟨consumed, tokensEq, again⟩ := readMember_local read
      refine ⟨consumed, tokensEq, fun other alike => ?_⟩
      -- a member takes a token, so the token that tells it from other steps
      -- is still the first one
      cases consumed with
      | nil =>
          rw [List.nil_append] at tokensEq
          simp only [tokensEq] at shorter
          exact absurd shorter (Nat.lt_irrefl _)
      | cons first consumed =>
          rw [List.cons_append, List.cons.injEq] at tokensEq
          obtain ⟨rfl, rfl⟩ := tokensEq
          rw [ReaderState.behindMember_before]
          exact .member inside noSeparator noScope (again other alike).2

/-- A run takes its tokens also in front of others. -/
theorem Run.again {state final : ReaderState} (run : Run state final) :
    ∃ consumed, state.tokens = consumed ++ final.tokens ∧
      ∀ other, ResumesAlike final.tokens other →
        Run (state.before (consumed ++ other)) (final.before other) := by
  induction run using Relation.ReflTransGen.head_induction_on with
  | refl =>
      exact ⟨[], rfl, fun other _ => .refl⟩
  | head step _ inductionHypothesis =>
      obtain ⟨first, stateEq, firstAgain⟩ := step.again
      obtain ⟨later, nextEq, laterAgain⟩ := inductionHypothesis
      refine ⟨first ++ later, ?_, fun other alike => ?_⟩
      · rw [stateEq, nextEq, List.append_assoc]
      · rw [nextEq] at firstAgain
        rw [List.append_assoc]
        exact .head (firstAgain _ (alike.append later))
          (laterAgain other alike)

end ClassDiagram.Reading
