import ClassDiagram.Proofs.Source.BlankedLines

/-!
# Positions of offsets

A position tells the offsets between the characters of a text apart.  Every
character leads to a later position, so positions are in the order of the
offsets, and walking over lines and then over the columns of one line leads
back to the offset.

All other offsets share the position of the end of the text.
-/

namespace ClassDiagram.Text

/-! ## The order of positions -/

/-- One place lies before another: on an earlier line, or further to the left
on the same one. -/
def Position.Before (left right : Position) : Prop :=
  left.line < right.line ∨
    left.line = right.line ∧ left.column < right.column

namespace Position

theorem Before.trans {first second third : Position}
    (initial : first.Before second) (further : second.Before third) :
    first.Before third := by
  unfold Before at *
  omega

theorem before_advance (place : Position) (c : Char) :
    place.Before (place.advance c) := by
  unfold advance
  split
  · exact .inl (Nat.lt_succ_self _)
  · exact .inr ⟨rfl, Nat.lt_succ_self _⟩

/-- Whatever is written at a place ends at a later one. -/
theorem before_foldl_advance (place : Position) {text : List Char}
    (something : text ≠ []) :
    place.Before (text.foldl advance place) := by
  induction text generalizing place with
  | nil =>
      exact absurd rfl something
  | cons c rest inductionHypothesis =>
      have step := before_advance place c
      rw [List.foldl_cons]
      cases rest with
      | nil =>
          exact step
      | cons next others =>
          exact step.trans
            (inductionHypothesis _ (List.cons_ne_nil next others))

end Position

theorem endPosition_before {front between : List Char}
    (something : between ≠ []) :
    (endPosition front).Before (endPosition (front ++ between)) := by
  unfold endPosition
  rw [List.foldl_append]
  exact Position.before_foldl_advance _ something

/-! ## Boundaries -/

/-- The offset lies between two characters or at an end of the text. -/
def IsBoundary (text : List Char) (offset : Nat) : Prop :=
  ∃ front behind, text = front ++ behind ∧ byteSize front = offset

/-- The offset lies between the first and the last byte of a character. -/
def IsInside (text : List Char) (offset : Nat) : Prop :=
  ∃ front c behind, text = front ++ c :: behind ∧
    byteSize front < offset ∧ offset < byteSize front + c.utf8Size

theorem charsBefore?_eq_none_iff {text : List Char} {offset : Nat} :
    charsBefore? text offset = none ↔ ¬ IsBoundary text offset := by
  cases selected : charsBefore? text offset with
  | none =>
      refine iff_of_true rfl ?_
      rintro ⟨front, behind, rfl, rfl⟩
      rw [charsBefore?_append] at selected
      cases selected
  | some front =>
      obtain ⟨behind, cut, size⟩ := charsBefore?_eq_some selected
      exact iff_of_false nofun
        fun notBoundary => notBoundary ⟨front, behind, cut, size⟩

theorem positionOf_front (front behind : List Char) :
    positionOf (front ++ behind) (byteSize front) = endPosition front := by
  rw [positionOf, charsBefore?_append]
  rfl

/-- Of two fronts of a text, the smaller one is a front of the other. -/
theorem exists_between {front behind further rest : List Char}
    (same : front ++ behind = further ++ rest)
    (smaller : byteSize front < byteSize further) :
    ∃ between, further = front ++ between ∧ between ≠ [] := by
  rcases List.append_eq_append_iff.1 same with
    ⟨between, rfl, _⟩ | ⟨between, rfl, _⟩
  · refine ⟨between, rfl, ?_⟩
    rintro rfl
    rw [List.append_nil] at smaller
    exact Nat.lt_irrefl _ smaller
  · rw [byteSize_append] at smaller
    omega

theorem IsInside.not_isBoundary {text : List Char} {offset : Nat}
    (isInside : IsInside text offset) : ¬ IsBoundary text offset := by
  obtain ⟨front, c, behind, cut, above, below⟩ := isInside
  rintro ⟨further, rest, same, rfl⟩
  obtain ⟨between, rfl, something⟩ :=
    exists_between (cut.symm.trans same) above
  obtain ⟨next, others, rfl⟩ := List.exists_cons_of_ne_nil something
  rw [cut, List.append_assoc, List.append_cancel_left_eq] at same
  cases same
  rw [byteSize_append, byteSize_cons] at below
  omega

theorem IsBoundary.le {text : List Char} {offset : Nat}
    (isBoundary : IsBoundary text offset) : offset ≤ byteSize text := by
  obtain ⟨front, behind, rfl, rfl⟩ := isBoundary
  rw [byteSize_append]
  exact Nat.le_add_right _ _

theorem positionOf_eq_end {text : List Char} {offset : Nat}
    (notBoundary : ¬ IsBoundary text offset) :
    positionOf text offset = positionOf text (byteSize text) := by
  rw [positionOf_byteSize, positionOf,
    charsBefore?_eq_none_iff.2 notBoundary]
  rfl

/-! ## Lines and columns -/

/-- The characters behind the last newline, or all if there is none. -/
def lastLine : List Char → List Char
  | [] => []
  | c :: rest => if '\n' ∈ c :: rest then lastLine rest else c :: rest

theorem lastLine_of_not_mem {text : List Char} (oneLine : '\n' ∉ text) :
    lastLine text = text := by
  cases text with
  | nil =>
      rfl
  | cons c rest =>
      rw [lastLine, if_neg oneLine]

theorem lastLine_newline (rest : List Char) :
    lastLine ('\n' :: rest) = lastLine rest := by
  rw [lastLine, if_pos List.mem_cons_self]

theorem lastLine_cons_of_mem (c : Char) {rest : List Char}
    (member : '\n' ∈ rest) : lastLine (c :: rest) = lastLine rest := by
  rw [lastLine, if_pos (List.mem_cons_of_mem c member)]

/-- The lines are counted by the newlines, and the columns by the characters
behind the last one. -/
theorem foldl_advance (place : Position) (text : List Char) :
    text.foldl Position.advance place =
      ⟨place.line + text.count '\n',
        if '\n' ∈ text then (lastLine text).length + 1
        else place.column + text.length⟩ := by
  induction text generalizing place with
  | nil =>
      rfl
  | cons c rest inductionHypothesis =>
      rw [List.foldl_cons, inductionHypothesis]
      by_cases newline : c = '\n'
      · subst newline
        rw [Position.advance_newline, List.count_cons_self,
          if_pos List.mem_cons_self, lastLine_newline]
        by_cases later : '\n' ∈ rest
        · rw [if_pos later]
          simp only [Position.mk.injEq, and_true]
          omega
        · rw [if_neg later, lastLine_of_not_mem later]
          simp only [Position.mk.injEq]
          omega
      · have step : place.advance c = ⟨place.line, place.column + 1⟩ :=
          if_neg newline
        have sameMember : '\n' ∈ c :: rest ↔ '\n' ∈ rest := by
          rw [List.mem_cons, or_iff_right (Ne.symm newline)]
        rw [step, List.count_cons_of_ne newline]
        by_cases later : '\n' ∈ rest
        · rw [if_pos later, if_pos (sameMember.2 later),
            lastLine_cons_of_mem c later]
        · rw [if_neg later, if_neg (mt sameMember.1 later),
            List.length_cons]
          simp only [Position.mk.injEq, true_and]
          omega

theorem endPosition_eq (text : List Char) :
    endPosition text =
      ⟨text.count '\n' + 1, (lastLine text).length + 1⟩ := by
  rw [endPosition, foldl_advance]
  by_cases member : '\n' ∈ text
  · rw [if_pos member, Position.start, Nat.add_comm]
  · rw [if_neg member, Position.start, lastLine_of_not_mem member,
      Nat.add_comm, Nat.add_comm 1]

/-! ## Walking -/

/-- Walk over some lines and then over some characters of one line; answer
the number of bytes that were passed. -/
def bytesPassed? : Nat → Nat → List Char → Option Nat
  | 0, 0, _ => some 0
  | _, _, [] => none
  | 0, columns + 1, c :: rest =>
      if c = '\n' then
        none
      else
        (bytesPassed? 0 columns rest).map (c.utf8Size + ·)
  | lines + 1, columns, c :: rest =>
      (bytesPassed? (if c = '\n' then lines else lines + 1) columns
        rest).map (c.utf8Size + ·)

/-- The offset that a walk to a place of the text comes to. -/
def offsetAt? (text : List Char) : Position → Option Nat
  | ⟨line + 1, column + 1⟩ => bytesPassed? line column text
  | _ => none

theorem bytesPassed?_front (front behind : List Char) :
    bytesPassed? (front.count '\n') (lastLine front).length
      (front ++ behind) = some (byteSize front) := by
  induction front with
  | nil =>
      cases behind <;> rfl
  | cons c front inductionHypothesis =>
      rw [List.cons_append]
      by_cases newline : c = '\n'
      · subst newline
        rw [List.count_cons_self, lastLine_newline, bytesPassed?, if_pos rfl,
          inductionHypothesis]
        rfl
      · rw [List.count_cons_of_ne newline]
        by_cases later : '\n' ∈ front
        · obtain ⟨lines, count⟩ := Nat.exists_eq_add_one_of_ne_zero
            (Nat.ne_of_gt (List.count_pos_iff.2 later))
          rw [lastLine_cons_of_mem c later, count, bytesPassed?,
            if_neg newline, ← count, inductionHypothesis]
          rfl
        · have oneLine : '\n' ∉ c :: front := by
            rw [List.mem_cons, not_or]
            exact ⟨Ne.symm newline, later⟩
          rw [List.count_eq_zero_of_not_mem later,
            lastLine_of_not_mem later] at inductionHypothesis
          rw [List.count_eq_zero_of_not_mem later,
            lastLine_of_not_mem oneLine, List.length_cons, bytesPassed?,
            if_neg newline, inductionHypothesis]
          rfl

theorem exists_of_bytesPassed? {lines columns offset : Nat}
    {text : List Char} (walked : bytesPassed? lines columns text =
      some offset) :
    ∃ front behind, text = front ++ behind ∧ byteSize front = offset ∧
      front.count '\n' = lines ∧ (lastLine front).length = columns := by
  fun_induction bytesPassed? lines columns text generalizing offset with
  | case1 text =>
      cases walked
      exact ⟨[], text, rfl, rfl, rfl, rfl⟩
  | case2 | case3 =>
      cases walked
  | case4 columns c rest other inductionHypothesis =>
      obtain ⟨further, furtherWalked, rfl⟩ := Option.map_eq_some_iff.1 walked
      obtain ⟨front, behind, rfl, rfl, noLine, rfl⟩ :=
        inductionHypothesis furtherWalked
      have inFront : '\n' ∉ front := List.count_eq_zero.1 noLine
      have oneLine : '\n' ∉ c :: front := by
        rw [List.mem_cons, not_or]
        exact ⟨Ne.symm other, inFront⟩
      refine ⟨c :: front, behind, rfl, rfl,
        List.count_eq_zero_of_not_mem oneLine, ?_⟩
      rw [lastLine_of_not_mem oneLine, lastLine_of_not_mem inFront]
      rfl
  | case5 lines columns c rest inductionHypothesis =>
      obtain ⟨further, furtherWalked, rfl⟩ := Option.map_eq_some_iff.1 walked
      obtain ⟨front, behind, rfl, rfl, count, rfl⟩ :=
        inductionHypothesis furtherWalked
      refine ⟨c :: front, behind, rfl, rfl, ?_⟩
      by_cases newline : c = '\n'
      · subst newline
        rw [if_pos rfl] at count
        exact ⟨by rw [List.count_cons_self, count],
          by rw [lastLine_newline]⟩
      · rw [if_neg newline] at count
        have later : '\n' ∈ front :=
          List.count_pos_iff.1 (count ▸ Nat.succ_pos lines)
        exact ⟨by rw [List.count_cons_of_ne newline, count],
          by rw [lastLine_cons_of_mem c later]⟩

/-- A walk comes to the boundary that has the place. -/
theorem offsetAt?_eq_some_iff {text : List Char} {place : Position}
    {offset : Nat} :
    offsetAt? text place = some offset ↔
      IsBoundary text offset ∧ positionOf text offset = place := by
  constructor
  · intro walked
    unfold offsetAt? at walked
    split at walked
    · obtain ⟨front, behind, rfl, rfl, rfl, rfl⟩ :=
        exists_of_bytesPassed? walked
      exact ⟨⟨front, behind, rfl, rfl⟩,
        (positionOf_front front behind).trans (endPosition_eq front)⟩
    · cases walked
  · rintro ⟨⟨front, behind, rfl, rfl⟩, rfl⟩
    rw [positionOf_front, endPosition_eq, offsetAt?]
    exact bytesPassed?_front front behind

/-- Positions are in the order of the boundaries, so they tell them apart, and
walking to a position leads to the boundary that has it.  An offset that is no
boundary has the position of the end. -/
theorem positionOf_identifies (text : List Char) :
    (∀ left right, IsBoundary text left → IsBoundary text right →
      left < right →
        (positionOf text left).Before (positionOf text right)) ∧
    (∀ left right, IsBoundary text left → IsBoundary text right →
      positionOf text left = positionOf text right → left = right) ∧
    (∀ place offset, offsetAt? text place = some offset ↔
      IsBoundary text offset ∧ positionOf text offset = place) ∧
    (∀ offset, byteSize text < offset ∨ IsInside text offset →
      positionOf text offset = positionOf text (byteSize text)) := by
  refine ⟨?_, ?_, fun _ _ => offsetAt?_eq_some_iff, ?_⟩
  · rintro _ _ ⟨front, behind, cut, rfl⟩ ⟨further, rest, same, rfl⟩ smaller
    obtain ⟨between, rfl, something⟩ :=
      exists_between (cut.symm.trans same) smaller
    have leftPlace := positionOf_front front behind
    have rightPlace := positionOf_front (front ++ between) rest
    rw [← cut] at leftPlace
    rw [← same] at rightPlace
    rw [leftPlace, rightPlace]
    exact endPosition_before something
  · intro left right leftBoundary rightBoundary samePlace
    have fromLeft := offsetAt?_eq_some_iff.2 ⟨leftBoundary, samePlace⟩
    have fromRight := offsetAt?_eq_some_iff.2 ⟨rightBoundary, rfl⟩
    exact Option.some_inj.1 (fromLeft.symm.trans fromRight)
  · rintro offset (past | isInside)
    · exact positionOf_eq_end
        fun isBoundary => absurd isBoundary.le (Nat.not_le.2 past)
    · exact positionOf_eq_end isInside.not_isBoundary

def accentedLines : List Char :=
  ['é', '\n', '\n', 'b']

/-- The newline behind the letter ends the first line, and the offset inside
the letter stands for the end. -/
theorem accentedLines_identified :
    IsBoundary accentedLines 2 ∧ IsBoundary accentedLines 3 ∧
      (positionOf accentedLines 2).Before (positionOf accentedLines 3) ∧
      offsetAt? accentedLines ⟨2, 1⟩ = some 3 ∧
      IsInside accentedLines 1 ∧
      positionOf accentedLines 1 = ⟨3, 2⟩ ∧
      positionOf accentedLines 9 = ⟨3, 2⟩ := by
  have behindLetter : IsBoundary accentedLines 2 :=
    ⟨['é'], ['\n', '\n', 'b'], rfl, rfl⟩
  have behindLine : IsBoundary accentedLines 3 :=
    ⟨['é', '\n'], ['\n', 'b'], rfl, rfl⟩
  have insideLetter : IsInside accentedLines 1 :=
    ⟨[], 'é', ['\n', '\n', 'b'], rfl, by decide, by decide⟩
  obtain ⟨ordered, _, walks, others⟩ := positionOf_identifies accentedLines
  exact ⟨behindLetter, behindLine,
    ordered 2 3 behindLetter behindLine (by decide),
    (walks _ _).2 ⟨behindLine, rfl⟩, insideLetter,
    others 1 (.inr insideLetter), others 9 (.inl (by decide))⟩

end ClassDiagram.Text
