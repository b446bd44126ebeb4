/-!
# Positions in a text

A position is a line and a column, both counted from one, the column in
characters.  Offsets are counted in bytes of the UTF-8 form, as tokens are,
so an offset may fall inside a character or past the end; such an offset
stands for the end of the text.
-/

namespace ClassDiagram.Text

/-- A one-based place in a text. -/
structure Position where
  line : Nat
  column : Nat
  deriving DecidableEq, Repr

def Position.start : Position :=
  ⟨1, 1⟩

/-- The place behind a character that stands at this place. -/
def Position.advance (place : Position) (c : Char) : Position :=
  if c = '\n' then
    ⟨place.line + 1, 1⟩
  else
    ⟨place.line, place.column + 1⟩

/-- The place behind a text that begins at the first line and column. -/
def endPosition (text : List Char) : Position :=
  text.foldl Position.advance Position.start

def byteSize : List Char → Nat
  | [] => 0
  | c :: rest => c.utf8Size + byteSize rest

/-- The characters before a byte offset, unless the offset lies inside a
character or past the end. -/
def charsBefore? : List Char → Nat → Option (List Char)
  | _, 0 => some []
  | [], _ => none
  | c :: rest, offset =>
      if c.utf8Size ≤ offset then
        (charsBefore? rest (offset - c.utf8Size)).map (c :: ·)
      else
        none

/-- The place of a byte offset. -/
def positionOf (text : List Char) (offset : Nat) : Position :=
  endPosition ((charsBefore? text offset).getD text)

@[simp]
theorem byteSize_nil : byteSize [] = 0 :=
  rfl

@[simp]
theorem byteSize_cons (c : Char) (text : List Char) :
    byteSize (c :: text) = c.utf8Size + byteSize text :=
  rfl

@[simp]
theorem byteSize_append (left right : List Char) :
    byteSize (left ++ right) = byteSize left + byteSize right := by
  induction left with
  | nil =>
      simp
  | cons c left inductionHypothesis =>
      simp [inductionHypothesis, Nat.add_assoc]

/-- An offset at the end of an initial part selects that part. -/
@[simp]
theorem charsBefore?_append (left right : List Char) :
    charsBefore? (left ++ right) (byteSize left) = some left := by
  induction left with
  | nil =>
      cases right <;> rfl
  | cons c left inductionHypothesis =>
      have positive := c.utf8Size_pos
      rw [List.cons_append, byteSize_cons, charsBefore?]
      · simp [inductionHypothesis]
      · omega

end ClassDiagram.Text
