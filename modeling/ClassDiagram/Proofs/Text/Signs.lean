import ClassDiagram.Text.CharacterClass
import Mathlib.Data.List.Basic

/-!
# Signs

Blanks, brackets and punctuation are signs: they are neither letters nor
numbers and stand in no identifier.  Classes of characters are long tables, so
they are compared range by range and only once; what is true of a single sign
follows from where it lies.
-/

namespace ClassDiagram.Text

/-! ## Classes that have nothing in common -/

def apart (ranges others : List CodeRange) : Bool :=
  ranges.all fun range => others.all fun other =>
    Nat.blt range.2 other.1 || Nat.blt other.2 range.1

/-- A character of a class lies in none of the ranges of another one. -/
theorem inRanges_eq_false_of_apart {ranges others : List CodeRange}
    {c : Char} (disjoint : apart ranges others = true)
    (member : inRanges ranges c = true) :
    inRanges others c = false := by
  obtain ⟨range, listed, lower, upper⟩ := inRanges_iff.1 member
  by_contra inOther
  rw [Bool.not_eq_false] at inOther
  obtain ⟨other, otherListed, otherLower, otherUpper⟩ :=
    inRanges_iff.1 inOther
  have between := List.all_eq_true.1
    (List.all_eq_true.1 disjoint range listed) other otherListed
  rw [Bool.or_eq_true, Nat.blt_eq, Nat.blt_eq] at between
  omega

theorem inRanges_append (ranges others : List CodeRange) (c : Char) :
    inRanges (ranges ++ others) c = (inRanges ranges c || inRanges others c) :=
  List.any_append

def digitRanges : List CodeRange :=
  [(0x30, 0x39)]

theorem isDigit_eq_false_of_apart {ranges : List CodeRange} {c : Char}
    (disjoint : apart ranges digitRanges = true)
    (member : inRanges ranges c = true) : c.isDigit = false := by
  rw [Bool.eq_false_iff]
  intro digit
  rw [Char.isDigit, Bool.and_eq_true, decide_eq_true_eq,
    decide_eq_true_eq] at digit
  have listed : inRanges digitRanges c = true :=
    inRanges_iff.2 ⟨_, List.mem_singleton_self _, digit.1, digit.2⟩
  rw [inRanges_eq_false_of_apart disjoint member] at listed
  cases listed

/-! ## Signs and identifiers -/

def signRanges : List CodeRange :=
  [(0x00, 0x2F), (0x3A, 0x40), (0x5B, 0x5E), (0x60, 0x60), (0x7B, 0x7F),
    (0xFEFF, 0xFEFF)]

/-- A blank, a bracket or another character that stands in no name. -/
def isSign (c : Char) : Bool :=
  inRanges signRanges c

variable {c sign : Char}

/-- Identifiers begin with neither a digit nor a blank, and no sign stands in
one. -/
theorem identifierRanges_apart :
    apart identifierStartRanges digitRanges = true ∧
      apart identifierStartRanges blankRanges = true ∧
      apart signRanges
        (identifierStartRanges ++ identifierExtraRanges) = true := by
  decide +kernel

theorem isIdentifierPart_eq_false_of_isSign (listed : isSign sign = true) :
    isIdentifierPart sign = false := by
  have outside :=
    inRanges_eq_false_of_apart identifierRanges_apart.2.2 listed
  rw [inRanges_append] at outside
  exact outside

theorem isIdentifierStart_eq_false_of_isSign (listed : isSign sign = true) :
    isIdentifierStart sign = false := by
  have noUnderscore : (sign == '_') = false := by
    rw [beq_eq_false_iff_ne]
    rintro rfl
    revert listed
    decide
  have noPart := isIdentifierPart_eq_false_of_isSign listed
  rw [isIdentifierPart, Bool.or_eq_false_iff] at noPart
  rw [isIdentifierStart, noUnderscore, noPart.1, Bool.false_or]

/-- No identifier begins with a sign. -/
theorem ne_of_isIdentifierStart (start : isIdentifierStart c = true)
    (listed : isSign sign = true) : c ≠ sign := by
  rintro rfl
  rw [isIdentifierStart_eq_false_of_isSign listed] at start
  cases start

/-- No identifier begins with a blank. -/
theorem isSpacing_eq_false_of_isIdentifierStart
    (start : isIdentifierStart c = true) : isSpacing c = false := by
  have notMark : (c == byteOrderMark) = false :=
    beq_eq_false_iff_ne.2 (ne_of_isIdentifierStart start (by decide))
  rw [isIdentifierStart, Bool.or_eq_true] at start
  rcases start with underscore | listed
  · rw [beq_iff_eq.1 underscore]
    decide
  · have notBlank : isBlank c = false :=
      inRanges_eq_false_of_apart identifierRanges_apart.2.1 listed
    rw [isSpacing, notBlank, notMark, Bool.or_false]

/-- No identifier begins with a digit. -/
theorem isDigit_eq_false_of_isIdentifierStart
    (start : isIdentifierStart c = true) : c.isDigit = false := by
  rw [isIdentifierStart, Bool.or_eq_true] at start
  rcases start with underscore | listed
  · rw [beq_iff_eq.1 underscore]
    decide
  · exact isDigit_eq_false_of_apart identifierRanges_apart.1 listed

/-! ## Signs and letters -/

/-- No letter is a digit, and neither letters nor numbers are blanks or
signs. -/
theorem letterRanges_apart :
    apart alphabeticRanges digitRanges = true ∧
      apart (alphabeticRanges ++ numericRanges)
        (blankRanges ++ signRanges) = true := by
  decide +kernel

theorem isDigit_eq_false_of_isAlphabetic
    (letter : isAlphabetic c = true) : c.isDigit = false :=
  isDigit_eq_false_of_apart letterRanges_apart.1 letter

/-- A letter or a number is neither a blank nor a sign. -/
theorem foreign_of_isAlphanumeric (number : isAlphanumeric c = true) :
    isBlank c = false ∧ isSign c = false := by
  have listed : inRanges (alphabeticRanges ++ numericRanges) c = true := by
    rw [inRanges_append]
    exact number
  have outside := inRanges_eq_false_of_apart letterRanges_apart.2 listed
  rw [inRanges_append, Bool.or_eq_false_iff] at outside
  exact outside

/-- A letter or a number is no sign. -/
theorem ne_of_isAlphanumeric (number : isAlphanumeric c = true)
    (listed : isSign sign = true) : c ≠ sign := by
  rintro rfl
  rw [(foreign_of_isAlphanumeric number).2] at listed
  cases listed

theorem isSpacing_eq_false_of_isAlphanumeric
    (number : isAlphanumeric c = true) : isSpacing c = false := by
  have notMark : (c == byteOrderMark) = false :=
    beq_eq_false_iff_ne.2 (ne_of_isAlphanumeric number (by decide))
  rw [isSpacing, (foreign_of_isAlphanumeric number).1, notMark,
    Bool.or_false]

theorem isAlphanumeric_of_isDigit (digit : c.isDigit = true) :
    isAlphanumeric c = true := by
  rw [Char.isDigit, Bool.and_eq_true, decide_eq_true_eq,
    decide_eq_true_eq] at digit
  have listed : inRanges numericRanges c = true :=
    inRanges_iff.2 ⟨(0x30, 0x39), List.mem_cons_self, digit.1, digit.2⟩
  rw [isAlphanumeric, listed, Bool.or_true]

end ClassDiagram.Text
