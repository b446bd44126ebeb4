import ClassDiagram.Proofs.Reading.InsideNested
import ClassDiagram.Reading.Source

/-!
# Groups are skipped exactly

A group is skipped with a stack of the marks that its open parts wait for.
What is skipped is said here without the stack: a mark, nested tokens and the
mark that closes the first one.  No other tokens from there on are nested and
end earlier, and if there are no such tokens at all, the first mark that closes
a group of another kind is at fault, or the end of the source.

The stack lists the groups that are open behind the tokens passed so far,
innermost first.  Every token that is passed keeps it so.
-/

namespace ClassDiagram

open Source (Token Lexeme Tokenized)

namespace Reading

/-- A mark, nested tokens and the mark that closes the first one. -/
inductive IsNestedGroup : List Token → Prop
  | enclosed {opening closing : Token} {wanted : Char} {inner : List Token}
      (opens : closer? opening = some wanted)
      (inside : Nested inner)
      (closes : closing? closing = some wanted) :
      IsNestedGroup (opening :: (inner ++ [closing]))

/-- Behind these tokens a group is open that waits for this mark, and no group
inside it is. -/
def OpenBehind (wanted : Char) (tokens : List Token) : Prop :=
  ∃ before opening inner, tokens = before ++ opening :: inner ∧
    closer? opening = some wanted ∧ Nested inner

/-- In front of the tokens `after`, a group that waits for one mark meets
another one. -/
structure MeetsWrongMark (tokens front : List Token) (wanted : Char)
    (closing : Token) (after : List Token) : Prop where
  split : tokens = front ++ closing :: after
  isOpen : OpenBehind wanted front
  wrong : ∃ found, closing? closing = some found ∧ found ≠ wanted

theorem IsNestedGroup.nested {group : List Token}
    (isGroup : IsNestedGroup group) : Nested group := by
  obtain ⟨opens, inside, closes⟩ := isGroup
  exact .group opens closes inside .nil

theorem IsNestedGroup.ne_nil {group : List Token}
    (isGroup : IsNestedGroup group) : group ≠ [] := by
  rintro rfl
  cases isGroup

/-! ## Groups that are open -/

/-- The groups that are open behind the tokens wait for these marks, innermost
first. -/
inductive Opened : List Char → List Token → Prop
  | outermost {opening : Token} {wanted : Char} {inner : List Token}
      (opens : closer? opening = some wanted) (inside : Nested inner) :
      Opened [wanted] (opening :: inner)
  | within {waiting : List Char} {before : List Token} {opening : Token}
      {wanted : Char} {inner : List Token} (opened : Opened waiting before)
      (opens : closer? opening = some wanted) (inside : Nested inner) :
      Opened (wanted :: waiting) (before ++ opening :: inner)

namespace Opened

variable {waiting : List Char} {wanted next : Char} {front : List Token}

theorem openBehind (opened : Opened (wanted :: waiting) front) :
    OpenBehind wanted front := by
  cases opened with
  | outermost opens inside =>
      exact ⟨[], _, _, rfl, opens, inside⟩
  | within _ opens inside =>
      exact ⟨_, _, _, rfl, opens, inside⟩

theorem append_nested (opened : Opened waiting front) {more : List Token}
    (nested : Nested more) : Opened waiting (front ++ more) := by
  cases opened with
  | outermost opens inside =>
      exact .outermost opens (inside.append nested)
  | within outer opens inside =>
      rw [List.append_assoc, List.cons_append]
      exact .within outer opens (inside.append nested)

/-- An inner group that is closed becomes part of the group around it. -/
theorem close_inner (opened : Opened (wanted :: next :: waiting) front)
    {closing : Token} (closes : closing? closing = some wanted) :
    Opened (next :: waiting) (front ++ [closing]) := by
  cases opened with
  | within outer opens inside =>
      rw [List.append_assoc, List.cons_append]
      exact outer.append_nested (.group opens closes inside .nil)

theorem close_outermost (opened : Opened [wanted] front) {closing : Token}
    (closes : closing? closing = some wanted) :
    IsNestedGroup (front ++ [closing]) := by
  cases opened with
  | outermost opens inside =>
      exact .enclosed opens inside closes
  | within outer =>
      cases outer

end Opened

/-! ## What skipping a group answers -/

/-- What is answered where a group begins: the tokens behind it, or a refusal
of a wrong mark or of the end. -/
inductive GroupAnswer (tokens : List Token) :
    Except Refusal (List Token) → Prop
  | closed {group behind : List Token} (split : tokens = group ++ behind)
      (isGroup : IsNestedGroup group) : GroupAnswer tokens (.ok behind)
  | wrong {front after : List Token} {wanted : Char} {closing : Token}
      (meets : MeetsWrongMark tokens front wanted closing after) :
      GroupAnswer tokens
        (.error ⟨.missingMark wanted, (closing :: after).length⟩)
  | unended {wanted : Char} (isOpen : OpenBehind wanted tokens) :
      GroupAnswer tokens (.error ⟨.missingMark wanted, 0⟩)

theorem skipGroups_wrong {token : Token} {wanted found : Char}
    {outer : List Char} {rest : List Token}
    (closes : closing? token = some found) (wrong : found ≠ wanted) :
    skipGroups (wanted :: outer) (token :: rest) =
      .error ⟨.missingMark wanted, (token :: rest).length⟩ := by
  rw [skipGroups.eq_def]
  simp only [closer?_eq_none_of_closing closes, closes, wrong, if_false]
  rfl

/-- Induction on the tokens to come; the stack stands for the groups that are
open behind the tokens passed. -/
theorem Opened.groupAnswer {waiting : List Char} {front : List Token}
    (opened : Opened waiting front) (tokens : List Token) :
    GroupAnswer (front ++ tokens) (skipGroups waiting tokens) := by
  induction tokens generalizing waiting front with
  | nil =>
      cases waiting with
      | nil =>
          cases opened
      | cons wanted outer =>
          rw [skipGroups.eq_def, List.append_nil]
          exact .unended opened.openBehind
  | cons token tokens inductionHypothesis =>
      cases waiting with
      | nil =>
          cases opened
      | cons wanted outer =>
          -- the token joins those that were passed
          rw [List.append_cons]
          cases opens : closer? token with
          | some closer =>
              rw [skipGroups_opening opens]
              exact inductionHypothesis (.within opened opens .nil)
          | none =>
              cases closes : closing? token with
              | none =>
                  rw [skipGroups_neutral opens closes]
                  exact inductionHypothesis
                    (opened.append_nested (.neutral opens closes .nil))
              | some found =>
                  by_cases isWanted : found = wanted
                  · subst isWanted
                    rw [skipGroups_closing closes]
                    cases outer with
                    | nil =>
                        rw [skipGroups_nil]
                        exact .closed rfl (opened.close_outermost closes)
                    | cons next outer =>
                        exact inductionHypothesis (opened.close_inner closes)
                  · rw [skipGroups_wrong closes isWanted]
                    exact .wrong ⟨(List.append_cons ..).symm,
                      opened.openBehind, found, closes, isWanted⟩

theorem skipGroup_answer {opening : Token} {closer : Char}
    (opens : closer? opening = some closer) (rest : List Token) :
    GroupAnswer (opening :: rest) (skipGroup closer rest) :=
  (Opened.outermost opens .nil).groupAnswer rest

/-! ## Nothing ends earlier -/

/-- Nested tokens that begin with a group are no shorter than it. -/
theorem skipGroup_of_nested {opening : Token} {closer : Char}
    {rest other : List Token} (opens : closer? opening = some closer)
    (isFront : other <+: opening :: rest) (something : other ≠ [])
    (nested : Nested other) :
    ∃ group behind, skipGroup closer rest = .ok behind ∧
      opening :: rest = group ++ behind ∧ group <+: other := by
  obtain ⟨later, split⟩ := isFront
  cases other with
  | nil =>
      exact absurd rfl something
  | cons first others =>
      rw [List.cons_append] at split
      obtain ⟨rfl, rfl⟩ := List.cons.inj split
      obtain ⟨inner, closing, further, rfl, closes, inside, _⟩ :=
        nested.exists_group opens
      refine ⟨first :: (inner ++ [closing]), further ++ later, ?_, by simp,
        further, by simp⟩
      rw [List.append_assoc, List.cons_append]
      exact inside.skipGroup_eq closes _

/-- The stack of a group is not read beyond a wrong mark: what is refused is
this mark or one in front of it. -/
theorem skipGroups_left {opening closing : Token} {wanted : Char}
    {inner : List Token} (opens : closer? opening = some wanted)
    (inside : Nested inner)
    (wrong : ∃ found, closing? closing = some found ∧ found ≠ wanted)
    (after before : List Token) {waiting : List Char} {refusal : Refusal}
    (refused : skipGroups waiting
      (before ++ opening :: (inner ++ closing :: after)) = .error refusal) :
    (closing :: after).length ≤ refusal.left := by
  obtain ⟨found, closes, different⟩ := wrong
  induction before generalizing waiting with
  | nil =>
      cases waiting with
      | nil =>
          rw [skipGroups_nil] at refused
          cases refused
      | cons mark outer =>
          rw [List.nil_append, skipGroups_opening opens,
            inside.skipGroups_eq, skipGroups_wrong closes different]
            at refused
          cases refused
          exact Nat.le_refl _
  | cons token before inductionHypothesis =>
      cases waiting with
      | nil =>
          rw [skipGroups_nil] at refused
          cases refused
      | cons mark outer =>
          rw [List.cons_append] at refused
          cases isOpening : closer? token with
          | some closer =>
              rw [skipGroups_opening isOpening] at refused
              exact inductionHypothesis refused
          | none =>
              cases isClosing : closing? token with
              | none =>
                  rw [skipGroups_neutral isOpening isClosing] at refused
                  exact inductionHypothesis refused
              | some other =>
                  by_cases isMark : other = mark
                  · subst isMark
                    rw [skipGroups_closing isClosing] at refused
                    exact inductionHypothesis refused
                  · rw [skipGroups_wrong isClosing isMark] at refused
                    cases refused
                    simp only [List.length_cons, List.length_append]
                    omega

/-- No wrong mark stands in front of what is refused. -/
theorem MeetsWrongMark.length_le {opening closing : Token}
    {closer wanted : Char} {rest front after : List Token}
    {refusal : Refusal} (opens : closer? opening = some closer)
    (meets : MeetsWrongMark (opening :: rest) front wanted closing after)
    (refused : skipGroup closer rest = .error refusal) :
    (closing :: after).length ≤ refusal.left := by
  obtain ⟨split, ⟨before, inmost, inner, rfl, isOpening, inside⟩, wrong⟩ :=
    meets
  rw [List.append_assoc, List.cons_append] at split
  cases before with
  | nil =>
      obtain ⟨rfl, rfl⟩ := List.cons.inj split
      rw [opens] at isOpening
      cases isOpening
      obtain ⟨found, closes, different⟩ := wrong
      rw [skipGroup, inside.skipGroups_eq, skipGroups_wrong closes different]
        at refused
      cases refused
      exact Nat.le_refl _
  | cons first before =>
      obtain ⟨rfl, rfl⟩ := List.cons.inj split
      exact skipGroups_left isOpening inside wrong after before refused

end Reading

/-! ## Places of refusals -/

namespace Source

/-- A refusal with so many tokens left is about the first of them. -/
theorem errorOf_token {source : Tokenized} {front after : List Token}
    {token : Token} (split : source.tokens = front ++ token :: after)
    (fault : SyntaxFault) :
    errorOf source ⟨fault, (token :: after).length⟩ =
      .source (.unexpected fault (some token.lexeme))
        (Text.endPosition
          (Token.writtenAll front ++ token.leading.toList)) := by
  have passed : source.tokens.length - (token :: after).length =
      front.length := by
    rw [split, List.length_append, Nat.add_sub_cancel]
  have found : source.tokens[front.length]? = some token := by
    rw [split, List.getElem?_append_right (Nat.le_refl _), Nat.sub_self]
    rfl
  rw [errorOf, placeOf, passed, found, split, List.take_left]
  rfl

/-- A refusal with no token left is about the end of the source. -/
theorem errorOf_end (source : Tokenized) (fault : SyntaxFault) :
    errorOf source ⟨fault, 0⟩ =
      .source (.unexpected fault none)
        (Text.endPosition source.written) := by
  have ended : source.tokens[source.tokens.length - 0]? = none :=
    List.getElem?_eq_none (Nat.le_refl _)
  rw [errorOf, placeOf, ended]
  rfl

end Source

namespace Reading

/-- Wherever a group may begin in the tokens of a source, it is skipped
exactly if tokens from there on form a group, and then the shortest nested
ones.  Otherwise the first wrong mark is at fault, and the end of the source
if there is none. -/
theorem skipGroup_recognises {source : Tokenized}
    {before rest : List Token} {opening : Token} {closer : Char}
    (place : source.tokens = before ++ opening :: rest)
    (opens : closer? opening = some closer) :
    ((∃ behind, skipGroup closer rest = .ok behind) ↔
      ∃ group, group <+: opening :: rest ∧ IsNestedGroup group) ∧
    (∀ behind, skipGroup closer rest = .ok behind →
      ∃ group, opening :: rest = group ++ behind ∧ IsNestedGroup group ∧
        ∀ other, other <+: opening :: rest → other ≠ [] → Nested other →
          group <+: other) ∧
    ∀ refusal, skipGroup closer rest = .error refusal →
      (∃ front wanted closing after,
        MeetsWrongMark (opening :: rest) front wanted closing after ∧
        (∀ otherFront otherWanted otherClosing otherAfter,
          MeetsWrongMark (opening :: rest) otherFront otherWanted
            otherClosing otherAfter → front <+: otherFront) ∧
        Source.errorOf source refusal =
          .source (.unexpected (.missingMark wanted) (some closing.lexeme))
            (Text.endPosition (Token.writtenAll (before ++ front) ++
              closing.leading.toList))) ∨
      ((∀ front wanted closing after,
          ¬ MeetsWrongMark (opening :: rest) front wanted closing after) ∧
        ∃ wanted, OpenBehind wanted (opening :: rest) ∧
          Source.errorOf source refusal =
            .source (.unexpected (.missingMark wanted) none)
              (Text.endPosition source.written)) := by
  have answer := skipGroup_answer opens rest
  refine ⟨⟨?_, ?_⟩, ?_, ?_⟩
  · rintro ⟨behind, skipped⟩
    rw [skipped] at answer
    obtain ⟨split, isGroup⟩ := answer
    exact ⟨_, ⟨behind, split.symm⟩, isGroup⟩
  · rintro ⟨group, isFront, isGroup⟩
    obtain ⟨_, behind, skipped, _⟩ :=
      skipGroup_of_nested opens isFront isGroup.ne_nil isGroup.nested
    exact ⟨behind, skipped⟩
  · intro behind skipped
    rw [skipped] at answer
    cases answer with
    | @closed group _ split isGroup =>
        refine ⟨group, split, isGroup, ?_⟩
        intro other isFront something nested
        obtain ⟨same, otherBehind, again, otherSplit, shorter⟩ :=
          skipGroup_of_nested opens isFront something nested
        rw [skipped] at again
        cases again
        rw [split] at otherSplit
        rwa [List.append_cancel_right otherSplit]
  · intro refusal refused
    have notEarlier := fun front wanted closing after
      (meets : MeetsWrongMark (opening :: rest) front wanted closing after) =>
        meets.length_le opens refused
    rw [refused] at answer
    cases answer with
    | @wrong front after wanted closing meets =>
        refine .inl ⟨front, wanted, closing, after, meets, ?_, ?_⟩
        · intro otherFront otherWanted otherClosing otherAfter otherMeets
          have lengths := notEarlier _ _ _ _ otherMeets
          have split := meets.split
          rw [otherMeets.split] at split
          have total := congrArg List.length split
          simp only [List.length_append, List.length_cons] at lengths total
          exact List.prefix_of_prefix_length_le
            ⟨_, split.symm⟩ ⟨_, rfl⟩ (by omega)
        · apply Source.errorOf_token
          rw [place, meets.split, List.append_assoc]
    | @unended wanted isOpen =>
        refine .inr ⟨fun front wanted closing after meets => ?_, wanted,
          isOpen, Source.errorOf_end source _⟩
        have lengths := notEarlier _ _ _ _ meets
        exact Nat.not_succ_le_zero _ lengths

/-- The tokens of `f(\x7b []) \x7d`, in which a parenthesis meets an open
brace. -/
def crossedGroups : Tokenized :=
  ⟨[⟨"", .word "f"⟩, ⟨"", .mark '('⟩, ⟨"", .mark '\x7b'⟩, ⟨" ", .mark '['⟩,
    ⟨"", .mark ']'⟩, ⟨"", .mark ')'⟩, ⟨" ", .mark '\x7d'⟩], ""⟩

/-- The group in the middle is skipped, and the one around it is refused. -/
theorem crossedGroups_skipped_and_refused :
    (∃ group, crossedGroups.tokens.drop 3 =
        group ++ crossedGroups.tokens.drop 5 ∧ IsNestedGroup group) ∧
      (¬ ∃ group, group <+: crossedGroups.tokens.drop 1 ∧
        IsNestedGroup group) ∧
      Source.errorOf crossedGroups ⟨.missingMark '\x7d', 2⟩ =
        .source (.unexpected (.missingMark '\x7d') (some (.mark ')')))
          ⟨1, 7⟩ := by
  refine ⟨?_, ?_, ?_⟩
  · have place : crossedGroups.tokens = crossedGroups.tokens.take 3 ++
        ⟨" ", .mark '['⟩ :: crossedGroups.tokens.drop 4 := rfl
    have opens : closer? ⟨" ", .mark '['⟩ = some ']' := rfl
    obtain ⟨_, skipped, _⟩ := skipGroup_recognises place opens
    obtain ⟨group, split, isGroup, _⟩ := skipped _ rfl
    exact ⟨group, split, isGroup⟩
  · have place : crossedGroups.tokens = crossedGroups.tokens.take 1 ++
        ⟨"", .mark '('⟩ :: crossedGroups.tokens.drop 2 := rfl
    have opens : closer? ⟨"", .mark '('⟩ = some ')' := rfl
    obtain ⟨accepted, _, _⟩ := skipGroup_recognises place opens
    rintro isGroup
    obtain ⟨behind, skipped⟩ := accepted.2 isGroup
    cases skipped
  · rfl

end Reading

end ClassDiagram
