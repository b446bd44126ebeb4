import ClassDiagram.Proofs.Cursor.Declarations

/-!
# Nothing goes wrong with the cursor

No source leads to a mishap: angle brackets are matched only where one is
opened, no depth is lowered below zero, every index lies inside the tokens, and
every text is cut out between characters.

The bracket that closes type arguments is the first token at which both kinds
of brackets are equally many, if no token on the way ends a statement.
-/

namespace ClassDiagram.Cursor

open Source (Token)
open Reading (endsTypeArguments)

variable {token : Token} {tokens rest : List Token}

/-! ## Counted brackets -/

def openings (tokens : List Token) : Nat :=
  tokens.countP (·.isMark '<')

def closings (tokens : List Token) : Nat :=
  tokens.countP (·.isMark '>')

/-- With so many brackets open in front of these tokens, the one at this index
is the first behind which as many are closed as were opened, and no token up to
it ends a statement. -/
structure FirstBalance (depth : Nat) (tokens : List Token) (index : Nat) :
    Prop where
  inRange : index < tokens.length
  balanced : depth + openings (tokens.take (index + 1)) =
    closings (tokens.take (index + 1))
  unbalanced : ∀ earlier < index,
    depth + openings (tokens.take (earlier + 1)) ≠
      closings (tokens.take (earlier + 1))
  unended : ∀ token ∈ tokens.take (index + 1),
    endsTypeArguments token = false

section FirstBalance

variable {depth outer : Nat}

/-- A bracket in front only changes how many are open. -/
theorem balanced_cons_iff
    (counted : depth + openings [token] = outer + closings [token])
    (tokens : List Token) :
    depth + openings (token :: tokens) = closings (token :: tokens) ↔
      outer + openings tokens = closings tokens := by
  have opened : openings ([token] ++ tokens) =
      openings [token] + openings tokens := List.countP_append
  have closed : closings ([token] ++ tokens) =
      closings [token] + closings tokens := List.countP_append
  rw [List.singleton_append] at opened closed
  omega

theorem firstBalance_zero_iff
    (counted : depth + openings [token] = outer + closings [token]) :
    FirstBalance depth (token :: rest) 0 ↔
      endsTypeArguments token = false ∧ outer = 0 := by
  have balanced := balanced_cons_iff counted []
  constructor
  · intro first
    exact ⟨first.unended token (List.mem_singleton_self token),
      balanced.1 first.balanced⟩
  · rintro ⟨clean, closed⟩
    refine ⟨Nat.succ_pos _, balanced.2 closed, nofun, ?_⟩
    intro other isToken
    rw [List.eq_of_mem_singleton isToken]
    exact clean

theorem firstBalance_succ_iff
    (counted : depth + openings [token] = outer + closings [token])
    (index : Nat) :
    FirstBalance depth (token :: rest) (index + 1) ↔
      endsTypeArguments token = false ∧ outer ≠ 0 ∧
        FirstBalance outer rest index := by
  have balanced := balanced_cons_iff counted
  constructor
  · intro first
    refine ⟨first.unended token List.mem_cons_self, ?_, ?_⟩
    · intro closed
      exact first.unbalanced 0 (Nat.succ_pos _) ((balanced []).2 closed)
    · refine ⟨Nat.lt_of_succ_lt_succ first.inRange,
        (balanced _).1 first.balanced, ?_, ?_⟩
      · intro earlier before same
        exact first.unbalanced (earlier + 1) (Nat.succ_lt_succ before)
          ((balanced _).2 same)
      · intro other among
        exact first.unended other (List.mem_cons_of_mem token among)
  · rintro ⟨clean, stillOpen, first⟩
    refine ⟨Nat.succ_lt_succ first.inRange, (balanced _).2 first.balanced,
      ?_, ?_⟩
    · intro earlier before same
      cases earlier with
      | zero =>
          exact stillOpen ((balanced []).1 same)
      | succ earlier =>
          exact first.unbalanced earlier (Nat.lt_of_succ_lt_succ before)
            ((balanced _).1 same)
    · intro other among
      rcases List.mem_cons.1 among with rfl | among
      · exact clean
      · exact first.unended other among

/-- The first balance is looked for behind a token that does not end the
search. -/
theorem exists_firstBalance_cons
    (counted : depth + openings [token] = outer + closings [token])
    (clean : endsTypeArguments token = false) (stillOpen : outer ≠ 0)
    (start close : Nat) :
    (∃ index, close = start + index ∧
        FirstBalance depth (token :: rest) index) ↔
      ∃ index, close = start + 1 + index ∧ FirstBalance outer rest index := by
  constructor
  · rintro ⟨index, rfl, first⟩
    cases index with
    | zero =>
        exact absurd ((firstBalance_zero_iff counted).1 first).2 stillOpen
    | succ index =>
        exact ⟨index, by omega,
          ((firstBalance_succ_iff counted index).1 first).2.2⟩
  · rintro ⟨index, rfl, first⟩
    exact ⟨index + 1, by omega,
      (firstBalance_succ_iff counted index).2 ⟨clean, stillOpen, first⟩⟩

end FirstBalance

/-! ## The bracket that closes -/

theorem counted_opening (depth : Nat) (opening : token.isMark '<' = true) :
    depth + openings [token] = depth + 1 + closings [token] := by
  have noClosing := Reading.isMark_unique (d := '>') opening (by decide)
  simp [openings, closings, opening, noClosing]

theorem counted_closing (outer : Nat) (closing : token.isMark '>' = true) :
    outer + 1 + openings [token] = outer + closings [token] := by
  have noOpening := Reading.isMark_unique (d := '<') closing (by decide)
  simp [openings, closings, closing, noOpening]

theorem counted_neither (depth : Nat) (noOpening : token.isMark '<' = false)
    (noClosing : token.isMark '>' = false) :
    depth + openings [token] = depth + closings [token] := by
  simp [openings, closings, noOpening, noClosing]

/-- Inside brackets the search never lowers a depth of zero, and it finds the
first balance. -/
theorem scanAngles_eq (depth start : Nat) (tokens : List Token) :
    ∃ found, scanAngles (depth + 1) start tokens = .ok found ∧
      ∀ close, found = some close ↔
        ∃ index, close = start + index ∧
          FirstBalance (depth + 1) tokens index := by
  induction tokens generalizing depth start with
  | nil =>
      refine ⟨none, rfl, fun close => ⟨nofun, ?_⟩⟩
      rintro ⟨index, _, first⟩
      cases first.inRange
  | cons token rest inductionHypothesis =>
      rw [scanAngles.eq_def]
      dsimp only
      cases opening : token.isMark '<' with
      | true =>
          have clean := Reading.not_ending_of_isMark opening (by decide)
          obtain ⟨found, foundEq, first⟩ :=
            inductionHypothesis (depth + 1) (start + 1)
          refine ⟨found, foundEq, fun close => (first close).trans ?_⟩
          exact (exists_firstBalance_cons
            (counted_opening (depth + 1) opening) clean (Nat.succ_ne_zero _)
            start close).symm
      | false =>
          cases closing : token.isMark '>' with
          | true =>
              have clean := Reading.not_ending_of_isMark closing (by decide)
              cases depth with
              | zero =>
                  have counted := counted_closing 0 closing
                  refine ⟨some start, rfl, fun close => ⟨?_, ?_⟩⟩
                  · intro same
                    cases same
                    exact ⟨0, rfl,
                      (firstBalance_zero_iff counted).2 ⟨clean, rfl⟩⟩
                  · rintro ⟨index, rfl, first⟩
                    cases index with
                    | zero =>
                        rfl
                    | succ index =>
                        have stillOpen :=
                          ((firstBalance_succ_iff counted index).1 first).2.1
                        exact absurd rfl stillOpen
              | succ outer =>
                  obtain ⟨found, foundEq, first⟩ :=
                    inductionHypothesis outer (start + 1)
                  refine ⟨found, foundEq, fun close =>
                    (first close).trans ?_⟩
                  exact (exists_firstBalance_cons
                    (counted_closing (outer + 1) closing) clean
                    (Nat.succ_ne_zero _) start close).symm
          | false =>
              have counted := counted_neither (depth + 1) opening closing
              cases ending : endsTypeArguments token with
              | true =>
                  refine ⟨none, rfl, fun close => ⟨nofun, ?_⟩⟩
                  rintro ⟨index, _, first⟩
                  have isFirst : token ∈
                      (token :: rest).take (index + 1) := List.mem_cons_self
                  rw [first.unended token isFirst] at ending
                  cases ending
              | false =>
                  obtain ⟨found, foundEq, first⟩ :=
                    inductionHypothesis depth (start + 1)
                  refine ⟨found, foundEq, fun close =>
                    (first close).trans ?_⟩
                  exact (exists_firstBalance_cons counted ending
                    (Nat.succ_ne_zero _) start close).symm

theorem matchingAngle_eq {opening : Nat}
    (atOpening : Reading.atMark '<' (tokens.drop opening) = true) :
    ∃ found, matchingAngle tokens opening = .ok found ∧
      ∀ close, found = some close ↔
        ∃ index, close = opening + index ∧
          FirstBalance 0 (tokens.drop opening) index := by
  obtain ⟨token, rest, split, isMark⟩ := Reading.exists_of_atMark atOpening
  obtain ⟨found, foundEq, first⟩ := scanAngles_eq 0 (opening + 1) rest
  refine ⟨found, ?_, fun close => (first close).trans ?_⟩
  · rw [matchingAngle, if_pos atOpening, split, scanAngles, if_pos isMark]
    exact foundEq
  · rw [split]
    exact (exists_firstBalance_cons (counted_opening 0 isMark)
      (Reading.not_ending_of_isMark isMark (by decide))
      (Nat.succ_ne_zero _) opening close).symm

/-! ## Sources -/

/-- The reader with a cursor meets no mishap in any source and answers what the
reader on lists answers.  A bracket that is matched is found at the first place
where both kinds are equally many. -/
theorem no_mishap_and_first_balance :
    (∀ text, readSource text = .ok (ClassDiagram.readSource text)) ∧
      ∀ (tokens : List Token) (opening : Nat),
        Reading.atMark '<' (tokens.drop opening) = true →
          ∃ found, matchingAngle tokens opening = .ok found ∧
            ∀ close, found = some close ↔
              ∃ index, close = opening + index ∧
                FirstBalance 0 (tokens.drop opening) index :=
  ⟨readSource_eq, fun _ _ atOpening => matchingAngle_eq atOpening⟩

def nestedArguments : List Token :=
  [⟨"", .word "Map"⟩, ⟨"", .mark '<'⟩, ⟨"", .word "Key"⟩, ⟨"", .mark '<'⟩,
    ⟨"", .word "Part"⟩, ⟨"", .mark '>'⟩, ⟨"", .mark '>'⟩]

theorem nestedArguments_matched :
    Reading.atMark '<' (nestedArguments.drop 1) = true ∧
      matchingAngle nestedArguments 1 = .ok (some 6) ∧
      FirstBalance 0 (nestedArguments.drop 1) 5 := by
  have found : matchingAngle nestedArguments 1 = .ok (some 6) := rfl
  refine ⟨rfl, found, ?_⟩
  obtain ⟨_, sameFound, first⟩ :=
    no_mishap_and_first_balance.2 nestedArguments 1 rfl
  rw [found] at sameFound
  obtain ⟨index, distance, balance⟩ :=
    (first 6).1 (Except.ok.inj sameFound).symm
  obtain rfl : index = 5 := by omega
  exact balance

end ClassDiagram.Cursor
