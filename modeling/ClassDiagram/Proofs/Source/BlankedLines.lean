import ClassDiagram.Source.ConditionalBranches
import Mathlib.Data.List.Basic

/-!
# Places in a blanked text

Blanking keeps the size of every line in bytes.  What it moves are the ends
of lines: a character of several bytes becomes one space, and the spaces that
make up for it come behind the newline, where they are the first columns of
the next line.

So a line that is kept has its bytes where they were, and its columns are
moved to the right by the excess of the blanked line in front of it.  The
move is nowhere else to be seen, since the next newline ends it.
-/

namespace ClassDiagram.Text

def Position.moved (place : Position) (columns : Nat) : Position :=
  ⟨place.line, place.column + columns⟩

@[simp]
theorem Position.moved_zero (place : Position) : place.moved 0 = place :=
  rfl

@[simp]
theorem Position.moved_moved (place : Position) (first second : Nat) :
    (place.moved first).moved second = place.moved (first + second) := by
  simp [Position.moved, Nat.add_assoc]

theorem Position.advance_newline (place : Position) :
    place.advance '\n' = ⟨place.line + 1, 1⟩ := by
  simp [Position.advance]

/-- Without a newline every character takes one column. -/
theorem foldl_advance_of_not_mem {text : List Char} (place : Position)
    (oneLine : '\n' ∉ text) :
    text.foldl Position.advance place = place.moved text.length := by
  induction text generalizing place with
  | nil =>
      rfl
  | cons c rest inductionHypothesis =>
      rw [List.mem_cons, not_or] at oneLine
      have step : place.advance c = place.moved 1 := by
        simp [Position.advance, Position.moved, Ne.symm oneLine.1]
      rw [List.foldl_cons, step, inductionHypothesis _ oneLine.2,
        Position.moved_moved, List.length_cons, Nat.add_comm]

theorem length_le_byteSize (text : List Char) :
    text.length ≤ byteSize text := by
  induction text with
  | nil =>
      exact Nat.le_refl 0
  | cons c rest inductionHypothesis =>
      have positive := c.utf8Size_pos
      rw [List.length_cons, byteSize_cons]
      omega

/-- The bytes that a text has beyond one for every character. -/
def excess (text : List Char) : Nat :=
  byteSize text - text.length

theorem byteSize_eq (text : List Char) :
    byteSize text = text.length + excess text := by
  have bound := length_le_byteSize text
  unfold excess
  omega

theorem byteSize_newline : byteSize ['\n'] = 1 :=
  rfl

theorem excess_ended (body : List Char) :
    excess (body ++ ['\n']) = excess body := by
  have whole := byteSize_eq (body ++ ['\n'])
  have inside := byteSize_eq body
  rw [byteSize_append, byteSize_newline, List.length_append,
    List.length_singleton] at whole
  omega

theorem byteSize_replicate_space (count : Nat) :
    byteSize (List.replicate count ' ') = count := by
  induction count with
  | zero =>
      rfl
  | succ count inductionHypothesis =>
      have space : ' '.utf8Size = 1 := rfl
      rw [List.replicate_succ, byteSize_cons, inductionHypothesis, space,
        Nat.add_comm]

/-! ## Offsets -/

/-- The byte offsets of the newlines of a text that begins at an offset. -/
def newlineOffsets : Nat → List Char → List Nat
  | _, [] => []
  | offset, c :: rest =>
      if c = '\n' then
        offset :: newlineOffsets (offset + c.utf8Size) rest
      else
        newlineOffsets (offset + c.utf8Size) rest

theorem newlineOffsets_append (offset : Nat) (left right : List Char) :
    newlineOffsets offset (left ++ right) =
      newlineOffsets offset left ++
        newlineOffsets (offset + byteSize left) right := by
  induction left generalizing offset with
  | nil =>
      rfl
  | cons c left inductionHypothesis =>
      rw [List.cons_append, newlineOffsets, newlineOffsets,
        inductionHypothesis, byteSize_cons, Nat.add_assoc]
      split <;> rfl

theorem newlineOffsets_of_not_mem (offset : Nat) {text : List Char}
    (oneLine : '\n' ∉ text) : newlineOffsets offset text = [] := by
  induction text generalizing offset with
  | nil =>
      rfl
  | cons c rest inductionHypothesis =>
      rw [List.mem_cons, not_or] at oneLine
      rw [newlineOffsets, if_neg (Ne.symm oneLine.1)]
      exact inductionHypothesis _ oneLine.2

theorem charsBefore?_cons (c : Char) (text : List Char) {offset : Nat}
    (further : 0 < offset) :
    charsBefore? (c :: text) offset =
      if c.utf8Size ≤ offset then
        (charsBefore? text (offset - c.utf8Size)).map (c :: ·)
      else
        none := by
  rw [charsBefore?]
  omega

/-- An offset behind an initial part selects the part and more. -/
theorem charsBefore?_behind (left right : List Char) (further : Nat) :
    charsBefore? (left ++ right) (byteSize left + further) =
      (charsBefore? right further).map (left ++ ·) := by
  induction left with
  | nil =>
      rw [byteSize_nil, Nat.zero_add, List.nil_append]
      cases charsBefore? right further <;> rfl
  | cons c left inductionHypothesis =>
      have positive := c.utf8Size_pos
      have size : byteSize (c :: left) + further =
          (byteSize left + further) + c.utf8Size := by
        rw [byteSize_cons]
        omega
      rw [size, List.cons_append, charsBefore?_cons _ _ (by omega),
        if_pos (Nat.le_add_left _ _), Nat.add_sub_cancel,
        inductionHypothesis]
      cases charsBefore? right further <;> rfl

/-- What lies behind an offset does not matter. -/
theorem charsBefore?_inside {left : List Char} (right : List Char)
    {offset : Nat} (inside : offset ≤ byteSize left) :
    charsBefore? (left ++ right) offset = charsBefore? left offset := by
  induction left generalizing offset with
  | nil =>
      have zero : offset = 0 := Nat.le_zero.1 inside
      subst zero
      cases right <;> rfl
  | cons c left inductionHypothesis =>
      cases offset with
      | zero =>
          rfl
      | succ offset =>
          rw [List.cons_append, charsBefore?_cons _ _ offset.succ_pos,
            charsBefore?_cons _ _ offset.succ_pos]
          split
          · rename_i fits
            rw [byteSize_cons] at inside
            rw [inductionHypothesis (by omega)]
          · rfl

/-- What an offset selects is an initial part of its size. -/
theorem charsBefore?_eq_some {text initial : List Char} {offset : Nat}
    (selected : charsBefore? text offset = some initial) :
    ∃ rest, text = initial ++ rest ∧ byteSize initial = offset := by
  induction text generalizing offset initial with
  | nil =>
      cases offset with
      | zero =>
          cases selected
          exact ⟨[], rfl, rfl⟩
      | succ offset =>
          cases selected
  | cons c text inductionHypothesis =>
      cases offset with
      | zero =>
          cases selected
          exact ⟨c :: text, rfl, rfl⟩
      | succ offset =>
          rw [charsBefore?_cons _ _ offset.succ_pos] at selected
          split at selected
          · rename_i fits
            obtain ⟨others, othersSelected, rfl⟩ :=
              Option.map_eq_some_iff.1 selected
            obtain ⟨rest, rfl, size⟩ := inductionHypothesis othersSelected
            refine ⟨rest, rfl, ?_⟩
            rw [byteSize_cons, size]
            omega
          · cases selected

theorem positionOf_byteSize (text : List Char) :
    positionOf text (byteSize text) = endPosition text := by
  have whole := charsBefore?_append text []
  rw [List.append_nil] at whole
  rw [positionOf, whole]
  rfl

end ClassDiagram.Text

namespace ClassDiagram.Source

open Text (Position byteSize excess charsBefore? positionOf endPosition
  newlineOffsets)

/-! ## Lines -/

/-- A newline stands at the end of a line, if anywhere. -/
inductive IsLine : List Char → Prop
  | ended (body : List Char) (oneLine : '\n' ∉ body) : IsLine (body ++ ['\n'])
  | unended {body : List Char} (oneLine : '\n' ∉ body) : IsLine body

/-- No newline stands in front of something else of a line. -/
theorem IsLine.not_mem_initial {initial rest : List Char}
    (isLine : IsLine (initial ++ rest)) (something : rest ≠ []) :
    '\n' ∉ initial := by
  generalize whole : initial ++ rest = line at isLine
  cases isLine with
  | ended body inBody =>
      intro member
      rw [← List.dropLast_append_getLast something,
        ← List.append_assoc] at whole
      have bodyEq := List.append_inj_left' whole rfl
      exact inBody (bodyEq ▸ List.mem_append_left _ member)
  | unended inBody =>
      intro member
      exact inBody (whole ▸ List.mem_append_left _ member)

theorem isLine_of_mem_splitLines (text : List Char) {line : List Char}
    (member : line ∈ splitLines text) : IsLine line := by
  fun_induction splitLines text generalizing line with
  | case1 =>
      cases member
  | case2 rest inductionHypothesis =>
      rcases List.mem_cons.1 member with rfl | later
      · exact .ended [] List.not_mem_nil
      · exact inductionHypothesis later
  | case3 c rest other noLines =>
      rw [List.mem_singleton] at member
      subst member
      refine .unended ?_
      rw [List.mem_singleton]
      exact fun newline => other newline.symm
  | case4 c rest other first others lines inductionHypothesis =>
      have noNewline : ¬ '\n' = c := fun newline => other newline.symm
      rcases List.mem_cons.1 member with rfl | later
      · cases inductionHypothesis (lines ▸ List.mem_cons_self) with
        | ended body oneLine =>
            refine .ended (c :: body) ?_
            rw [List.mem_cons, not_or]
            exact ⟨noNewline, oneLine⟩
        | unended oneLine =>
            refine .unended ?_
            rw [List.mem_cons, not_or]
            exact ⟨noNewline, oneLine⟩
      · exact inductionHypothesis
          (lines ▸ List.mem_cons_of_mem first later)

/-- The open groups behind a line. -/
def groupsBehind (groups : OpenGroups) (line : List Char) : OpenGroups :=
  match Directive.ofLine? line with
  | some directive => directive.apply groups
  | none => groups

/-- A plain line is blanked if it is not read. -/
def isBlanked (groups : OpenGroups) (line : List Char) : Bool :=
  (Directive.ofLine? line).isNone && !isRead groups

def shownLine (groups : OpenGroups) (line : List Char) : List Char :=
  if isBlanked groups line then blankedLine line else line

theorem blankInactive_cons (groups : OpenGroups) (line : List Char)
    (others : List (List Char)) :
    blankInactive groups (line :: others) =
      shownLine groups line ::
        blankInactive (groupsBehind groups line) others := by
  rw [blankInactive, shownLine, isBlanked, groupsBehind]
  cases Directive.ofLine? line with
  | some directive =>
      rfl
  | none =>
      cases isRead groups <;> rfl

theorem blankInactive_append (groups : OpenGroups)
    (before after : List (List Char)) :
    blankInactive groups (before ++ after) =
      blankInactive groups before ++
        blankInactive (before.foldl groupsBehind groups) after := by
  induction before generalizing groups with
  | nil =>
      rfl
  | cons line others inductionHypothesis =>
      rw [List.cons_append, blankInactive_cons, blankInactive_cons,
        inductionHypothesis]
      rfl

/-- A text without a number sign has no line to blank. -/
theorem blankInactive_of_not_mem {lines : List (List Char)}
    (noSign : ∀ line ∈ lines, '#' ∉ line) :
    blankInactive [] lines = lines := by
  induction lines with
  | nil =>
      rfl
  | cons line others inductionHypothesis =>
      have noDirective : Directive.ofLine? line = none := by
        rw [Directive.ofLine?, directiveName?]
        split
        · rename_i rest sign
          have member : '#' ∈ Text.dropBlank line :=
            sign ▸ List.mem_cons_self
          exact absurd ((List.dropWhile_sublist _).subset member)
            (noSign line List.mem_cons_self)
        · rfl
      rw [blankInactive_cons, shownLine, isBlanked, groupsBehind,
        noDirective]
      exact congrArg _ (inductionHypothesis fun other member =>
        noSign other (List.mem_cons_of_mem line member))

theorem toList_firstBranches (source : String) :
    (firstBranches source).toList =
      (blankInactive [] (splitLines source.toList)).flatten := by
  unfold firstBranches
  split
  · rw [String.toList_ofList]
  · rename_i noSign
    rw [blankInactive_of_not_mem, flatten_splitLines]
    intro line member sign
    have inText : '#' ∈ (splitLines source.toList).flatten :=
      List.mem_flatten.2 ⟨line, member, sign⟩
    rw [flatten_splitLines] at inText
    exact noSign (by simpa [hasNumberSign] using inText)

/-! ## What a blanked line keeps -/

theorem byteSize_blankedLine (line : List Char) :
    byteSize (blankedLine line) = byteSize line := by
  have blanks : byteSize
      (line.map fun c => if isLineEnding c then c else ' ') =
        line.length := by
    induction line with
    | nil =>
        rfl
    | cons c rest inductionHypothesis =>
        rw [List.map_cons, Text.byteSize_cons, inductionHypothesis,
          List.length_cons, Nat.add_comm]
        split
        · rename_i ending
          simp only [isLineEnding, Bool.or_eq_true, beq_iff_eq] at ending
          rcases ending with rfl | rfl <;> rfl
        · rfl
  rw [blankedLine, Text.byteSize_append, blanks,
    Text.byteSize_replicate_space]
  exact (Text.byteSize_eq line).symm

theorem byteSize_shownLine (groups : OpenGroups) (line : List Char) :
    byteSize (shownLine groups line) = byteSize line := by
  unfold shownLine
  split
  · exact byteSize_blankedLine line
  · rfl

theorem byteSize_blankInactive (groups : OpenGroups)
    (lines : List (List Char)) :
    byteSize (blankInactive groups lines).flatten =
      byteSize lines.flatten := by
  induction lines generalizing groups with
  | nil =>
      rfl
  | cons line others inductionHypothesis =>
      rw [blankInactive_cons, List.flatten_cons, List.flatten_cons,
        Text.byteSize_append, Text.byteSize_append, byteSize_shownLine,
        inductionHypothesis]

/-- A line without a newline is blanked to a text without one. -/
theorem not_mem_blanks {body : List Char} (oneLine : '\n' ∉ body) :
    '\n' ∉ body.map fun c => if isLineEnding c then c else ' ' := by
  intro member
  obtain ⟨c, inBody, blanked⟩ := List.mem_map.1 member
  split at blanked
  · exact oneLine (blanked ▸ inBody)
  · cases blanked

theorem not_mem_spaces (count : Nat) :
    '\n' ∉ List.replicate count ' ' := by
  intro member
  cases List.eq_of_mem_replicate member

theorem blankedLine_ended (body : List Char) :
    blankedLine (body ++ ['\n']) =
      (body.map fun c => if isLineEnding c then c else ' ') ++
        ('\n' :: List.replicate (excess body) ' ') := by
  have same := Text.excess_ended body
  unfold excess at same
  rw [blankedLine, same, List.map_append, List.append_assoc]
  rfl

/-! ## Where the newlines are -/

/-- The newline of a blanked line moves unless the line has only characters
of one byte. -/
theorem newlineOffsets_shownLine {groups : OpenGroups} {line : List Char}
    (isLine : IsLine line) (offset : Nat) :
    newlineOffsets offset (shownLine groups line) =
        newlineOffsets offset line ↔
      (isBlanked groups line = true → '\n' ∈ line → excess line = 0) := by
  unfold shownLine
  split
  · rename_i blanked
    simp only [blanked, true_implies]
    cases isLine with
    | ended body oneLine =>
        have blanks := not_mem_blanks oneLine
        have inside := Text.byteSize_eq body
        have mapped : byteSize
            (body.map fun c => if isLineEnding c then c else ' ') =
              body.length := by
          have size := byteSize_blankedLine body
          rw [blankedLine, Text.byteSize_append,
            Text.byteSize_replicate_space] at size
          change _ + excess body = _ at size
          omega
        rw [blankedLine_ended, Text.newlineOffsets_append,
          Text.newlineOffsets_append,
          Text.newlineOffsets_of_not_mem _ blanks,
          Text.newlineOffsets_of_not_mem _ oneLine, newlineOffsets,
          newlineOffsets, if_pos rfl, if_pos rfl, newlineOffsets,
          Text.newlineOffsets_of_not_mem _ (not_mem_spaces _), mapped,
          Text.excess_ended]
        simp only [List.nil_append, List.cons.injEq, and_true,
          List.mem_append, List.mem_singleton, or_true, true_implies]
        omega
    | unended oneLine =>
        have blanks : '\n' ∉ blankedLine line := by
          rw [blankedLine, List.mem_append, not_or]
          exact ⟨not_mem_blanks oneLine, not_mem_spaces _⟩
        rw [Text.newlineOffsets_of_not_mem _ blanks,
          Text.newlineOffsets_of_not_mem _ oneLine]
        simp [oneLine]
  · rename_i kept
    simp [kept]

theorem length_newlineOffsets (offset : Nat) (text : List Char) :
    (newlineOffsets offset text).length = text.count '\n' := by
  induction text generalizing offset with
  | nil =>
      rfl
  | cons c rest inductionHypothesis =>
      rw [newlineOffsets]
      split
      · rename_i newline
        rw [List.length_cons, inductionHypothesis, newline,
          List.count_cons_self]
      · rename_i other
        rw [inductionHypothesis, List.count_cons_of_ne other]

theorem count_shownLine {groups : OpenGroups} {line : List Char}
    (isLine : IsLine line) :
    (shownLine groups line).count '\n' = line.count '\n' := by
  unfold shownLine
  split
  · cases isLine with
    | ended body oneLine =>
        rw [blankedLine_ended, List.count_append, List.count_append,
          List.count_eq_zero_of_not_mem (not_mem_blanks oneLine),
          List.count_eq_zero_of_not_mem oneLine, List.count_cons_self,
          List.count_eq_zero_of_not_mem (not_mem_spaces _)]
        rfl
    | unended oneLine =>
        rw [blankedLine, List.count_append,
          List.count_eq_zero_of_not_mem (not_mem_blanks oneLine),
          List.count_eq_zero_of_not_mem oneLine,
          List.count_eq_zero_of_not_mem (not_mem_spaces _)]
  · rfl

/-- All newlines of some lines stay where they are exactly if those of the
blanked lines do. -/
theorem newlineOffsets_blankInactive {lines : List (List Char)}
    (areLines : ∀ line ∈ lines, IsLine line) (groups : OpenGroups)
    (offset : Nat) :
    newlineOffsets offset (blankInactive groups lines).flatten =
        newlineOffsets offset lines.flatten ↔
      ∀ before line after, lines = before ++ line :: after →
        isBlanked (before.foldl groupsBehind groups) line = true →
          '\n' ∈ line → excess line = 0 := by
  induction lines generalizing groups offset with
  | nil =>
      simp [blankInactive]
  | cons line others inductionHypothesis =>
      have isLine := areLines line List.mem_cons_self
      -- As many newlines are shown, so the two lists agree line by line.
      have sameCount : (newlineOffsets offset (shownLine groups line)).length =
          (newlineOffsets offset line).length := by
        rw [length_newlineOffsets, length_newlineOffsets,
          count_shownLine isLine]
      have othersIff := inductionHypothesis
        (fun other member => areLines other (List.mem_cons_of_mem _ member))
        (groupsBehind groups line) (offset + byteSize line)
      rw [blankInactive_cons, List.flatten_cons, List.flatten_cons,
        Text.newlineOffsets_append, Text.newlineOffsets_append,
        byteSize_shownLine]
      constructor
      · intro same
        obtain ⟨here, behind⟩ := List.append_inj same sameCount
        rintro (_ | ⟨first, before⟩) found after cut
        · cases cut
          exact (newlineOffsets_shownLine isLine offset).1 here
        · cases cut
          exact othersIff.1 behind before found after rfl
      · intro narrow
        have here : newlineOffsets offset (shownLine groups line) =
            newlineOffsets offset line :=
          (newlineOffsets_shownLine isLine offset).2
            (narrow [] line others rfl)
        have behind := othersIff.2 fun before found after cut =>
          narrow (line :: before) found after (cut ▸ rfl)
        rw [here, behind]

/-! ## How far places are moved -/

/-- The columns by which the place behind a line is moved, given the columns
by which its beginning is.  A newline ends the move, and the spaces behind a
blanked line begin another. -/
def driftBehind (groups : OpenGroups) (moved : Nat) (line : List Char) :
    Nat :=
  (if '\n' ∈ line then 0 else moved) +
    if isBlanked groups line then excess line else 0

/-- The columns by which the place behind some lines is moved. -/
def drift : OpenGroups → Nat → List (List Char) → Nat
  | _, moved, [] => moved
  | groups, moved, line :: others =>
      drift (groupsBehind groups line) (driftBehind groups moved line) others

theorem foldl_advance_shownLine {groups : OpenGroups} {line : List Char}
    (isLine : IsLine line) (place : Position) (moved : Nat) :
    (shownLine groups line).foldl Position.advance (place.moved moved) =
      (line.foldl Position.advance place).moved
        (driftBehind groups moved line) := by
  unfold shownLine driftBehind
  cases isLine with
  | ended body oneLine =>
      have newline : '\n' ∈ body ++ ['\n'] := by simp
      rw [if_pos newline]
      split
      · rw [blankedLine_ended, List.foldl_append, List.foldl_append,
          List.foldl_cons, List.foldl_cons, List.foldl_nil,
          Text.foldl_advance_of_not_mem _ (not_mem_blanks oneLine),
          Text.foldl_advance_of_not_mem _ oneLine,
          Position.advance_newline, Position.advance_newline,
          Text.foldl_advance_of_not_mem _ (not_mem_spaces _),
          List.length_replicate, Text.excess_ended, Nat.zero_add]
        rfl
      · rw [List.foldl_append, List.foldl_append, List.foldl_cons,
          List.foldl_cons, List.foldl_nil, List.foldl_nil,
          Text.foldl_advance_of_not_mem _ oneLine,
          Text.foldl_advance_of_not_mem _ oneLine,
          Position.advance_newline, Position.advance_newline]
        rfl
  | unended oneLine =>
      rw [if_neg oneLine, Text.foldl_advance_of_not_mem place oneLine]
      split
      · rw [blankedLine, List.foldl_append,
          Text.foldl_advance_of_not_mem _ (not_mem_blanks oneLine),
          Text.foldl_advance_of_not_mem _ (not_mem_spaces _),
          List.length_map, List.length_replicate]
        simp only [Position.moved_moved]
        congr 1
        unfold excess
        omega
      · rw [Text.foldl_advance_of_not_mem _ oneLine]
        simp only [Position.moved_moved]
        congr 1
        omega

theorem foldl_advance_blankInactive {lines : List (List Char)}
    (areLines : ∀ line ∈ lines, IsLine line) (groups : OpenGroups)
    (place : Position) (moved : Nat) :
    (blankInactive groups lines).flatten.foldl Position.advance
        (place.moved moved) =
      (lines.flatten.foldl Position.advance place).moved
        (drift groups moved lines) := by
  induction lines generalizing groups place moved with
  | nil =>
      rfl
  | cons line others inductionHypothesis =>
      have isLine := areLines line List.mem_cons_self
      rw [blankInactive_cons, List.flatten_cons, List.flatten_cons,
        List.foldl_append, List.foldl_append,
        foldl_advance_shownLine isLine, drift]
      exact inductionHypothesis
        (fun other member => areLines other (List.mem_cons_of_mem _ member))
        _ _ _

/-- If blanked lines have only characters of one byte, nothing is moved. -/
theorem drift_eq_zero {lines : List (List Char)} {groups : OpenGroups}
    (narrow : ∀ before line after, lines = before ++ line :: after →
      isBlanked (before.foldl groupsBehind groups) line = true →
        excess line = 0) :
    drift groups 0 lines = 0 := by
  induction lines generalizing groups with
  | nil =>
      rfl
  | cons line others inductionHypothesis =>
      have here : driftBehind groups 0 line = 0 := by
        unfold driftBehind
        rw [ite_self, Nat.zero_add]
        split
        · rename_i blanked
          exact narrow [] line others rfl blanked
        · rfl
      rw [drift, here]
      exact inductionHypothesis fun before found after cut =>
        narrow (line :: before) found after (cut ▸ rfl)

/-! ## Places in lines that are kept -/

/-- A line of a source, with the lines before and behind it. -/
structure LinePlace (source : String) where
  before : List (List Char)
  line : List Char
  after : List (List Char)
  lines_eq : splitLines source.toList = before ++ line :: after

namespace LinePlace

variable {source : String}

def isBlanked (place : LinePlace source) : Bool :=
  Source.isBlanked (place.before.foldl groupsBehind []) place.line

def start (place : LinePlace source) : Nat :=
  byteSize place.before.flatten

/-- The offset is that of a byte of the line. -/
def Covers (place : LinePlace source) (offset : Nat) : Prop :=
  place.start ≤ offset ∧ offset < place.start + byteSize place.line

/-- The columns by which the beginning of the line is moved. -/
def drift (place : LinePlace source) : Nat :=
  Source.drift [] 0 place.before

theorem toList_eq (place : LinePlace source) :
    source.toList =
      place.before.flatten ++ (place.line ++ place.after.flatten) := by
  rw [← flatten_splitLines source.toList, place.lines_eq,
    List.flatten_append, List.flatten_cons]

theorem areLines (place : LinePlace source) :
    ∀ line ∈ place.before, IsLine line := by
  intro line member
  apply isLine_of_mem_splitLines source.toList
  rw [place.lines_eq]
  exact List.mem_append_left _ member

theorem isLine (place : LinePlace source) : IsLine place.line := by
  apply isLine_of_mem_splitLines source.toList
  rw [place.lines_eq]
  exact List.mem_append_right _ List.mem_cons_self

/-- A line that is kept begins where it began. -/
theorem toList_firstBranches_eq (place : LinePlace source)
    (kept : place.isBlanked = false) :
    ∃ behind, (firstBranches source).toList =
      (blankInactive [] place.before).flatten ++ (place.line ++ behind) := by
  unfold isBlanked at kept
  refine ⟨(blankInactive (groupsBehind
    (place.before.foldl groupsBehind []) place.line) place.after).flatten, ?_⟩
  rw [toList_firstBranches, place.lines_eq, blankInactive_append,
    blankInactive_cons, shownLine, kept, if_neg Bool.false_ne_true,
    List.flatten_append, List.flatten_cons]

/-- The characters that an offset in a kept line selects of the line. -/
theorem charsBefore?_eq (place : LinePlace source)
    (kept : place.isBlanked = false) {offset : Nat}
    (covers : place.Covers offset) :
    charsBefore? source.toList offset =
        (charsBefore? place.line (offset - place.start)).map
          (place.before.flatten ++ ·) ∧
      charsBefore? (firstBranches source).toList offset =
        (charsBefore? place.line (offset - place.start)).map
          ((blankInactive [] place.before).flatten ++ ·) := by
  obtain ⟨fromStart, inLine⟩ := covers
  obtain ⟨behind, shown⟩ := place.toList_firstBranches_eq kept
  have size := byteSize_blankInactive [] place.before
  have inside : offset - place.start ≤ byteSize place.line := by omega
  have original := Text.charsBefore?_behind place.before.flatten
    (place.line ++ place.after.flatten) (offset - place.start)
  have blanked := Text.charsBefore?_behind
    (blankInactive [] place.before).flatten (place.line ++ behind)
    (offset - place.start)
  have offsetEq :
      byteSize place.before.flatten + (offset - place.start) = offset :=
    Nat.add_sub_cancel' fromStart
  rw [offsetEq, Text.charsBefore?_inside _ inside] at original
  rw [size, offsetEq, Text.charsBefore?_inside _ inside] at blanked
  rw [place.toList_eq, shown]
  exact ⟨original, blanked⟩

/-- A place in a kept line is moved by what its beginning is moved by. -/
theorem positionOf_eq (place : LinePlace source)
    (kept : place.isBlanked = false) {offset : Nat}
    (covers : place.Covers offset)
    (atCharacter : (charsBefore? source.toList offset).isSome = true) :
    positionOf (firstBranches source).toList offset =
      (positionOf source.toList offset).moved place.drift := by
  obtain ⟨before, after⟩ := place.charsBefore?_eq kept covers
  cases selected : charsBefore? place.line (offset - place.start) with
  | none =>
      rw [before, selected] at atCharacter
      cases atCharacter
  | some initial =>
      obtain ⟨rest, lineEq, size⟩ := Text.charsBefore?_eq_some selected
      have something : rest ≠ [] := by
        rintro rfl
        have inLine := covers.2
        have fromStart := covers.1
        rw [lineEq, List.append_nil] at inLine
        omega
      have oneLine : '\n' ∉ initial :=
        IsLine.not_mem_initial (lineEq ▸ place.isLine) something
      have moved := foldl_advance_blankInactive place.areLines []
        Position.start 0
      rw [Position.moved_zero] at moved
      rw [positionOf, positionOf, before, after, selected]
      simp only [Option.map_some, Option.getD_some, endPosition,
        List.foldl_append]
      rw [moved, Text.foldl_advance_of_not_mem _ oneLine,
        Text.foldl_advance_of_not_mem _ oneLine, Position.moved_moved,
        Position.moved_moved, Nat.add_comm]
      rfl

end LinePlace

/-- The columns by which the end of a source is moved. -/
def endDrift (source : String) : Nat :=
  drift [] 0 (splitLines source.toList)

theorem endPosition_firstBranches (source : String) :
    endPosition (firstBranches source).toList =
      (endPosition source.toList).moved (endDrift source) := by
  have moved := foldl_advance_blankInactive
    (fun _ => isLine_of_mem_splitLines source.toList) []
    Position.start 0
  rw [Position.moved_zero, flatten_splitLines] at moved
  rw [toList_firstBranches]
  exact moved

theorem byteSize_firstBranches (source : String) :
    byteSize (firstBranches source).toList = byteSize source.toList := by
  rw [toList_firstBranches, byteSize_blankInactive, flatten_splitLines]

theorem newlineOffsets_firstBranches (source : String) :
    newlineOffsets 0 (firstBranches source).toList =
        newlineOffsets 0 source.toList ↔
      ∀ place : LinePlace source, place.isBlanked = true →
        '\n' ∈ place.line → excess place.line = 0 := by
  have cut := newlineOffsets_blankInactive
    (fun _ => isLine_of_mem_splitLines source.toList) [] 0
  rw [flatten_splitLines, ← toList_firstBranches] at cut
  rw [cut]
  constructor
  · intro narrow place
    exact narrow place.before place.line place.after place.lines_eq
  · intro narrow before line after lines
    exact narrow ⟨before, line, after, lines⟩

/-- An offset inside a character stands for the end of the source, blanked or
not. -/
theorem LinePlace.positionOf_eq_end {source : String}
    (place : LinePlace source) (kept : place.isBlanked = false)
    {offset : Nat} (covers : place.Covers offset)
    (inCharacter : charsBefore? source.toList offset = none) :
    positionOf (firstBranches source).toList offset =
      (positionOf source.toList offset).moved (endDrift source) := by
  obtain ⟨before, after⟩ := place.charsBefore?_eq kept covers
  have nothing : charsBefore? place.line (offset - place.start) = none := by
    rwa [before, Option.map_eq_none_iff] at inCharacter
  rw [nothing] at before after
  rw [positionOf, positionOf, before, after]
  exact endPosition_firstBranches source

/-- If blanked lines have only characters of one byte, no place is moved. -/
theorem drift_eq_zero_of_narrow {source : String}
    (narrow : ∀ place : LinePlace source, place.isBlanked = true →
      excess place.line = 0) :
    (∀ place : LinePlace source, place.drift = 0) ∧
      endDrift source = 0 := by
  constructor
  · intro place
    apply drift_eq_zero
    intro before line after cut
    refine narrow
      ⟨before, line, after ++ place.line :: place.after, ?_⟩
    rw [place.lines_eq, cut, List.append_assoc, List.cons_append]
  · apply drift_eq_zero
    intro before line after cut
    exact narrow ⟨before, line, after, cut⟩

/-- The blanked text has the size of the source.  Its newlines are where they
were exactly if the blanked lines that end with one have only characters of
one byte.  In lines that are kept and at the end of the source every offset
has its line number, and its column is moved by what the blanked lines before
it leave over, which is nothing if those have only characters of one byte. -/
theorem firstBranches_places (source : String) :
    byteSize (firstBranches source).toList = byteSize source.toList ∧
      (newlineOffsets 0 (firstBranches source).toList =
          newlineOffsets 0 source.toList ↔
        ∀ place : LinePlace source, place.isBlanked = true →
          '\n' ∈ place.line → excess place.line = 0) ∧
      (∀ (place : LinePlace source) (offset : Nat),
        place.isBlanked = false → place.Covers offset →
          positionOf (firstBranches source).toList offset =
            (positionOf source.toList offset).moved
              (if (charsBefore? source.toList offset).isSome then
                place.drift
              else
                endDrift source)) ∧
      positionOf (firstBranches source).toList (byteSize source.toList) =
        (positionOf source.toList (byteSize source.toList)).moved
          (endDrift source) ∧
      ((∀ place : LinePlace source, place.isBlanked = true →
          excess place.line = 0) →
        (∀ place : LinePlace source, place.drift = 0) ∧
          endDrift source = 0) := by
  refine ⟨byteSize_firstBranches source, newlineOffsets_firstBranches source,
    ?_, ?_, drift_eq_zero_of_narrow⟩
  · intro place offset kept covers
    split
    · rename_i atCharacter
      exact place.positionOf_eq kept covers atCharacter
    · rename_i inCharacter
      rw [Option.not_isSome_iff_eq_none] at inCharacter
      exact place.positionOf_eq_end kept covers inCharacter
  · have shownEnd := Text.positionOf_byteSize (firstBranches source).toList
    rw [byteSize_firstBranches] at shownEnd
    rw [shownEnd, Text.positionOf_byteSize]
    exact endPosition_firstBranches source

/-- A blanked line with a character of two bytes, a directive and one more
line. -/
def accentedSource : String :=
  "#if A\n#else\né\n#endif\n\x7d"

def accentedEnd : LinePlace accentedSource where
  before := [['#', 'i', 'f', ' ', 'A', '\n'],
    ['#', 'e', 'l', 's', 'e', '\n'], ['é', '\n']]
  line := ['#', 'e', 'n', 'd', 'i', 'f', '\n']
  after := [['}']]
  lines_eq := by decide +kernel

theorem accentedEnd_moved :
    (accentedEnd.isBlanked = false ∧ accentedEnd.Covers 16) ∧
      positionOf (firstBranches accentedSource).toList 16 =
        (positionOf accentedSource.toList 16).moved 1 := by
  have kept : accentedEnd.isBlanked = false := by decide +kernel
  have covers : accentedEnd.Covers 16 := by
    constructor <;> decide +kernel
  have atCharacter :
      (charsBefore? accentedSource.toList 16).isSome = true := by
    decide +kernel
  have moved :=
    (firstBranches_places accentedSource).2.2.1 accentedEnd 16 kept covers
  rw [if_pos atCharacter] at moved
  exact ⟨⟨kept, covers⟩, moved⟩

/-- The newline of the blanked line is a byte too early, and the directive
behind it a column too far right. -/
theorem accented_newline_moved :
    newlineOffsets 0 accentedSource.toList = [5, 11, 14, 21] ∧
      newlineOffsets 0 (firstBranches accentedSource).toList =
        [5, 11, 13, 21] ∧
      positionOf accentedSource.toList 15 = ⟨4, 1⟩ ∧
      positionOf (firstBranches accentedSource).toList 15 = ⟨4, 2⟩ := by
  refine ⟨?_, ?_, ?_, ?_⟩ <;> decide +kernel

end ClassDiagram.Source
