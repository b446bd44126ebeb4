/-!
# Segments

A text is cut at every occurrence of a mark.  Cutting never loses a segment:
a text with `n` marks has `n + 1` segments, some of which may be empty.
Dotted names are cut at dots, and the bytes of paths at slashes.
-/

namespace ClassDiagram.Text

variable {α : Type} [DecidableEq α]

def segments (mark : α) : List α → List (List α)
  | [] => [[]]
  | c :: rest =>
      if c = mark then
        [] :: segments mark rest
      else
        match segments mark rest with
        | [] => [[c]]
        | first :: others => (c :: first) :: others

def dotSegments (text : List Char) : List (List Char) :=
  segments '.' text

theorem segments_ne_nil (mark : α) (text : List α) :
    segments mark text ≠ [] := by
  cases text with
  | nil =>
      exact List.cons_ne_nil _ _
  | cons c rest =>
      rw [segments]
      split
      · exact List.cons_ne_nil _ _
      · split <;> exact List.cons_ne_nil _ _

/-- A mark cuts off everything in front of it. -/
@[simp]
theorem segments_mark (mark : α) (rest : List α) :
    segments mark (mark :: rest) = [] :: segments mark rest := by
  simp [segments]

/-- Any other character belongs to the segment it stands in front of. -/
theorem segments_of_ne {mark c : α} (other : c ≠ mark)
    (rest first : List α) (others : List (List α))
    (cut : segments mark rest = first :: others) :
    segments mark (c :: rest) = (c :: first) :: others := by
  simp [segments, other, cut]

end ClassDiagram.Text
