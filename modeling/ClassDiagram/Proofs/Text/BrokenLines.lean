import ClassDiagram.Text.Segments
import Mathlib.Data.List.Basic

/-!
# Broken lines

A text that is put together from parts has the segments of its parts, but for
one at every seam, where the last segment of one part goes on with the first
of the next.  A part that is written in the middle of a line therefore shows
only its inner segments as they are.
-/

namespace ClassDiagram.Text

/-! ## Seams -/

section

variable {α : Type} [DecidableEq α] {mark : α}

theorem segments_of_not_mem {text : List α}
    (absent : mark ∉ text) : segments mark text = [text] := by
  induction text with
  | nil =>
      rfl
  | cons c rest inductionHypothesis =>
      rw [List.mem_cons, not_or] at absent
      exact segments_of_ne (Ne.symm absent.1) rest rest []
        (inductionHypothesis absent.2)

/-- The last segment of a text goes on with the first of the next one. -/
theorem segments_append {left right last first : List α}
    {front behind : List (List α)}
    (leftCut : segments mark left = front ++ [last])
    (rightCut : segments mark right = first :: behind) :
    segments mark (left ++ right) = front ++ (last ++ first) :: behind := by
  induction left generalizing front last with
  | nil =>
      have cut : [[]] = front ++ [last] := leftCut
      obtain ⟨rfl, rfl⟩ : front = [] ∧ last = [] := by
        cases front with
        | nil =>
            exact ⟨rfl, (List.singleton_inj.1 cut).symm⟩
        | cons segment others =>
            have lengths := congrArg List.length cut
            simp at lengths
      exact rightCut
  | cons c rest inductionHypothesis =>
      obtain ⟨before, ending, cut⟩ : ∃ before ending,
          segments mark rest = before ++ [ending] :=
        ⟨_, _, (List.dropLast_append_getLast
          (segments_ne_nil mark rest)).symm⟩
      have later := inductionHypothesis cut
      -- Another character than the mark goes to the first segment, which is
      -- the one at the seam if there is no segment in front of it.
      by_cases isMark : c = mark
      · subst isMark
        rw [segments_mark, cut, ← List.cons_append] at leftCut
        obtain ⟨rfl, sameLast⟩ := List.append_inj' leftCut rfl
        cases sameLast
        rw [List.cons_append, segments_mark, later]
        rfl
      · cases before with
        | nil =>
            rw [segments_of_ne isMark rest ending [] cut] at leftCut
            obtain ⟨rfl, sameLast⟩ := List.append_inj'
              (show [] ++ [c :: ending] = front ++ [last] from leftCut) rfl
            cases sameLast
            exact segments_of_ne isMark (rest ++ right) _ _ later
        | cons segment others =>
            rw [segments_of_ne isMark rest segment (others ++ [ending]) cut,
              ← List.cons_append] at leftCut
            obtain ⟨rfl, sameLast⟩ := List.append_inj' leftCut rfl
            cases sameLast
            exact segments_of_ne isMark (rest ++ right) _ _ later

/-- A mark between two texts keeps their segments apart. -/
theorem segments_append_mark (mark : α) (left right : List α) :
    segments mark (left ++ mark :: right) =
      segments mark left ++ segments mark right := by
  have cut := List.dropLast_append_getLast (segments_ne_nil mark left)
  rw [segments_append cut.symm (segments_mark mark right), List.append_nil,
    ← List.singleton_append, ← List.append_assoc, cut]

theorem length_segments (mark : α) (text : List α) :
    (segments mark text).length = text.count mark + 1 := by
  induction text with
  | nil =>
      rfl
  | cons c rest inductionHypothesis =>
      by_cases isMark : c = mark
      · subst isMark
        rw [segments_mark, List.length_cons, inductionHypothesis,
          List.count_cons_self]
      · obtain ⟨first, others, cut⟩ :=
          List.exists_cons_of_ne_nil (segments_ne_nil mark rest)
        rw [segments_of_ne isMark rest first others cut,
          List.count_cons_of_ne isMark, ← inductionHypothesis, cut]
        rfl

/-- The first segment begins with the first character. -/
theorem segments_cons {c : α} (other : c ≠ mark)
    (rest : List α) :
    ∃ first others, segments mark (c :: rest) = (c :: first) :: others ∧
      segments mark rest = first :: others := by
  obtain ⟨first, others, cut⟩ :=
    List.exists_cons_of_ne_nil (segments_ne_nil mark rest)
  exact ⟨first, others, segments_of_ne other rest first others cut, cut⟩

end

/-! ## Lines of a part -/

/-- The lines of a text that stand as they are when the text is written
behind something else. -/
def laterLines (text : List Char) : List (List Char) :=
  (segments '\n' text).tail

/-- The lines of a text that stand as they are when the text is written
between other texts. -/
def innerLines (text : List Char) : List (List Char) :=
  (laterLines text).dropLast

theorem laterLines_of_not_mem {text : List Char} (oneLine : '\n' ∉ text) :
    laterLines text = [] := by
  rw [laterLines, segments_of_not_mem oneLine]
  rfl

/-- What is written in one line has no later lines of its own. -/
theorem laterLines_append {left : List Char} (oneLine : '\n' ∉ left)
    (right : List Char) : laterLines (left ++ right) = laterLines right := by
  obtain ⟨first, behind, cut⟩ :=
    List.exists_cons_of_ne_nil (segments_ne_nil '\n' right)
  have leftCut : segments '\n' left = [] ++ [left] :=
    segments_of_not_mem oneLine
  rw [laterLines, laterLines, segments_append leftCut cut, cut]
  rfl

/-- A line without a certain sign is none of the lines that hold the sign.
So in front of the sign only the inner lines count. -/
theorem count_laterLines_append {line : List Char} {sign : Char}
    (foreign : sign ∉ line) (sameLine : sign ≠ '\n')
    (left right : List Char) :
    (laterLines (left ++ sign :: right)).count line =
      (innerLines left).count line + (laterLines right).count line := by
  obtain ⟨first, behind, signCut, cut⟩ := segments_cons sameLine right
  have leftCut := List.dropLast_append_getLast (segments_ne_nil '\n' left)
  generalize (segments '\n' left).dropLast = front at leftCut
  generalize (segments '\n' left).getLast _ = last at leftCut
  have seam : last ++ sign :: first ≠ line := by
    rintro rfl
    exact foreign (List.mem_append_right _ List.mem_cons_self)
  rw [laterLines, segments_append leftCut.symm signCut, laterLines, cut,
    innerLines, laterLines, ← leftCut]
  cases front with
  | nil =>
      rw [List.nil_append, List.nil_append, List.tail_cons, List.tail_cons,
        List.tail_cons, List.dropLast_nil, List.count_nil, Nat.zero_add]
  | cons segment others =>
      rw [List.cons_append, List.cons_append, List.tail_cons,
        List.tail_cons, List.tail_cons, List.dropLast_concat,
        List.count_append, List.count_cons_of_ne seam]

/-- The same for all lines, behind a text in one line. -/
theorem count_segments_append {line left : List Char} {sign : Char}
    (foreign : sign ∉ line) (sameLine : sign ≠ '\n')
    (oneLine : '\n' ∉ left) (right : List Char) :
    (segments '\n' (left ++ sign :: right)).count line =
      (laterLines right).count line := by
  obtain ⟨first, behind, signCut, cut⟩ := segments_cons sameLine right
  have leftCut : segments '\n' left = [] ++ [left] :=
    segments_of_not_mem oneLine
  have seam : left ++ sign :: first ≠ line := by
    rintro rfl
    exact foreign (List.mem_append_right _ List.mem_cons_self)
  rw [segments_append leftCut signCut, laterLines, cut, List.nil_append,
    List.count_cons_of_ne seam, List.tail_cons]

end ClassDiagram.Text
