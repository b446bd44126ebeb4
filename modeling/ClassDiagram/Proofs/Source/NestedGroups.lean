import ClassDiagram.Proofs.Source.BlankedLines
import Mathlib.Data.List.Forall2

/-!
# Nested groups

Where every conditional group of a text is closed, its lines form a tree:
plain lines and groups, and in the branches of a group plain lines and groups
again.  The lines are blanked one by one, with nothing but the open groups at
hand.  On such a tree this comes to what the branches mean: a plain line stays
if it lies in the first branch of each group around it, and every other plain
line is blanked.
-/

namespace ClassDiagram.Source

open Text (byteSize isBlank dropBlank)

/-! ## Lines with a directive -/

/-- A line with a directive word behind a number sign.  Blanks may stand in
front of the sign and behind it, and no letter stands behind the word. -/
structure DirectiveLine (word : String) where
  indentation : List Char
  spacing : List Char
  behind : List Char
  indented : ∀ c ∈ indentation, isBlank c = true
  spaced : ∀ c ∈ spacing, isBlank c = true
  ended : ∀ c ∈ behind.head?, c.isAlpha = false

def DirectiveLine.text {word : String} (line : DirectiveLine word) :
    List Char :=
  line.indentation ++ '#' :: (line.spacing ++ (word.toList ++ line.behind))

def conditionalWords : List String :=
  ["if", "elif", "else", "endif"]

theorem conditional_cases {word : String}
    (conditional : word ∈ conditionalWords) :
    word = "if" ∨ word = "elif" ∨ word = "else" ∨ word = "endif" := by
  rwa [conditionalWords, List.mem_cons, List.mem_cons, List.mem_cons,
    List.mem_singleton] at conditional

/-- A line without a conditional directive. -/
structure PlainLine where
  text : List Char
  plain : ∀ word ∈ conditionalWords, ∀ line : DirectiveLine word,
    line.text ≠ text

theorem dropBlank_append {front : List Char}
    (blank : ∀ c ∈ front, isBlank c = true) (rest : List Char) :
    dropBlank (front ++ rest) = dropBlank rest := by
  rw [dropBlank, List.dropWhile_append_of_pos blank]
  rfl

theorem dropBlank_of_not_blank {c : Char} (notBlank : isBlank c = false)
    (rest : List Char) : dropBlank (c :: rest) = c :: rest := by
  rw [dropBlank, List.dropWhile_cons_of_neg (by simp [notBlank])]

/-- The word is read behind the sign, whatever stands behind the word. -/
theorem DirectiveLine.directiveName?_text {word : String}
    (line : DirectiveLine word) {first : Char} {others : List Char}
    (cut : word.toList = first :: others)
    (notBlank : isBlank first = false)
    (letters : ∀ c ∈ word.toList, c.isAlpha = true) :
    directiveName? line.text = some word.toList := by
  have nothingMore : line.behind.takeWhile Char.isAlpha = [] := by
    have ended := line.ended
    cases behindEq : line.behind with
    | nil =>
        rfl
    | cons c rest =>
        rw [behindEq] at ended
        exact List.takeWhile_cons_of_neg (by simp [ended c rfl])
  have sign : isBlank '#' = false := by decide
  rw [directiveName?, text, dropBlank_append line.indented,
    dropBlank_of_not_blank sign]
  change some ((dropBlank _).takeWhile Char.isAlpha) = _
  rw [dropBlank_append line.spaced, cut, List.cons_append,
    dropBlank_of_not_blank notBlank, ← List.cons_append, ← cut,
    List.takeWhile_append_of_pos letters, nothingMore, List.append_nil]

theorem DirectiveLine.ofLine?_text {word : String}
    (conditional : word ∈ conditionalWords) (line : DirectiveLine word) :
    Directive.ofLine? line.text = Directive.ofName? word.toList := by
  have named : directiveName? line.text = some word.toList := by
    rcases conditional_cases conditional with rfl | rfl | rfl | rfl <;>
      exact line.directiveName?_text rfl rfl (List.all_eq_true.1 rfl)
  rw [Directive.ofLine?, named]
  rfl

/-- Only conditional words stand for directives. -/
theorem conditional_of_ofName? {name : List Char} {directive : Directive}
    (found : Directive.ofName? name = some directive) :
    ∃ word ∈ conditionalWords, name = word.toList := by
  unfold Directive.ofName? at found
  split at found
  · exact ⟨"if", by decide, rfl⟩
  · exact ⟨"elif", by decide, rfl⟩
  · exact ⟨"else", by decide, rfl⟩
  · exact ⟨"endif", by decide, rfl⟩
  · cases found

/-- Every line that is read as a directive is written as one. -/
theorem exists_directiveLine {text : List Char} {directive : Directive}
    (found : Directive.ofLine? text = some directive) :
    ∃ word ∈ conditionalWords, ∃ line : DirectiveLine word,
      line.text = text := by
  obtain ⟨name, named, isWord⟩ := Option.bind_eq_some_iff.1 found
  obtain ⟨word, conditional, rfl⟩ := conditional_of_ofName? isWord
  unfold directiveName? at named
  split at named
  · rename_i rest sign
    rw [Option.some.injEq] at named
    have blanks : ∀ text : List Char, ∀ c ∈ text.takeWhile isBlank,
        isBlank c = true := by
      exact fun text => List.all_eq_true.1 List.all_takeWhile
    refine ⟨word, conditional, ⟨text.takeWhile isBlank,
      rest.takeWhile isBlank, (dropBlank rest).dropWhile Char.isAlpha,
      blanks text, blanks rest, ?_⟩, ?_⟩
    · intro c first
      have notLetter :=
        List.head?_dropWhile_not Char.isAlpha (dropBlank rest)
      rwa [Option.mem_def.1 first] at notLetter
    · rw [DirectiveLine.text]
      dsimp only
      rw [← named, List.takeWhile_append_dropWhile, dropBlank,
        List.takeWhile_append_dropWhile, ← sign, dropBlank,
        List.takeWhile_append_dropWhile]
  · cases named

theorem PlainLine.ofLine?_text (line : PlainLine) :
    Directive.ofLine? line.text = none := by
  by_contra found
  obtain ⟨directive, isDirective⟩ := Option.ne_none_iff_exists'.1 found
  obtain ⟨word, conditional, written, same⟩ :=
    exists_directiveLine isDirective
  exact line.plain word conditional written same

/-- A line that is not read as a directive is plain. -/
def PlainLine.ofText (text : List Char)
    (plain : Directive.ofLine? text = none) : PlainLine where
  text := text
  plain := by
    rintro word conditional line rfl
    rw [line.ofLine?_text conditional] at plain
    rcases conditional_cases conditional with rfl | rfl | rfl | rfl <;>
      cases plain

/-! ## Trees of lines -/

mutual

/-- Plain lines and groups behind one another. -/
inductive Block where
  | nil
  | plain (line : PlainLine) (rest : Block)
  | group (opening : DirectiveLine "if") (first : Block)
      (others : Branches) (rest : Block)

/-- The branches of a group behind its first one, and the end of the group. -/
inductive Branches where
  | closed (closing : DirectiveLine "endif")
  | otherwise (line : DirectiveLine "else") (block : Block)
      (closing : DirectiveLine "endif")
  | further (line : DirectiveLine "elif") (block : Block) (rest : Branches)

end

mutual

def Block.lines : Block → List (List Char)
  | .nil => []
  | .plain line rest => line.text :: rest.lines
  | .group opening first others rest =>
      opening.text :: (first.lines ++ (others.lines ++ rest.lines))

def Branches.lines : Branches → List (List Char)
  | .closed closing => [closing.text]
  | .otherwise line block closing =>
      line.text :: (block.lines ++ [closing.text])
  | .further line block rest => line.text :: (block.lines ++ rest.lines)

end

/-- A line and whether it stays as it is. -/
structure Fate where
  line : List Char
  stays : Bool

mutual

/-- The fates of the lines of a block, given whether the block lies in the
first branch of each group around it.  Lines with a directive always stay. -/
def Block.fates (inFirst : Bool) : Block → List Fate
  | .nil => []
  | .plain line rest => ⟨line.text, inFirst⟩ :: rest.fates inFirst
  | .group opening first others rest =>
      ⟨opening.text, true⟩ ::
        (first.fates inFirst ++ (others.fates ++ rest.fates inFirst))

def Branches.fates : Branches → List Fate
  | .closed closing => [⟨closing.text, true⟩]
  | .otherwise line block closing =>
      ⟨line.text, true⟩ :: (block.fates false ++ [⟨closing.text, true⟩])
  | .further line block rest =>
      ⟨line.text, true⟩ :: (block.fates false ++ rest.fates)

end

/-- A line that stays is shown as it is, and any other one by spaces and its
own line endings in as many bytes. -/
def Fate.IsShownBy (fate : Fate) (shown : List Char) : Prop :=
  if fate.stays then
    shown = fate.line
  else
    byteSize shown = byteSize fate.line ∧
      shown.filter isLineEnding = fate.line.filter isLineEnding ∧
      ∀ c ∈ shown, c = ' ' ∨ isLineEnding c = true

/-! ## Blanking follows the tree -/

/-- A line as it stands in the blanked text. -/
def Fate.shown (fate : Fate) : List Char :=
  if fate.stays then fate.line else blankedLine fate.line

/-- A blanked line keeps its line endings. -/
theorem filter_blankedLine (line : List Char) :
    (blankedLine line).filter isLineEnding = line.filter isLineEnding := by
  have spaces : ∀ count, (List.replicate count ' ').filter isLineEnding =
      [] := by
    intro count
    rw [List.filter_replicate, if_neg (by decide)]
  rw [blankedLine, List.filter_append, spaces, List.append_nil]
  induction line with
  | nil =>
      rfl
  | cons c rest inductionHypothesis =>
      rw [List.map_cons]
      by_cases ending : isLineEnding c = true
      · rw [if_pos ending, List.filter_cons_of_pos ending,
          List.filter_cons_of_pos ending, inductionHypothesis]
      · rw [if_neg ending, List.filter_cons_of_neg (by decide),
          List.filter_cons_of_neg ending, inductionHypothesis]

theorem eq_space_of_mem_blankedLine {line : List Char} {c : Char}
    (member : c ∈ blankedLine line) : c = ' ' ∨ isLineEnding c = true := by
  rcases List.mem_append.1 member with blank | space
  · obtain ⟨d, -, rfl⟩ := List.mem_map.1 blank
    by_cases ending : isLineEnding d = true
    · exact .inr (by rw [if_pos ending, ending])
    · exact .inl (if_neg ending)
  · exact .inl (List.eq_of_mem_replicate space)

theorem Fate.isShownBy_shown (fate : Fate) : fate.IsShownBy fate.shown := by
  unfold IsShownBy shown
  by_cases stays : fate.stays = true
  · rw [if_pos stays, if_pos stays]
  · rw [if_neg stays, if_neg stays]
    exact ⟨byteSize_blankedLine fate.line, filter_blankedLine fate.line,
      fun _ => eq_space_of_mem_blankedLine⟩

theorem blankInactive_directive {text : List Char} {directive : Directive}
    (found : Directive.ofLine? text = some directive) (groups : OpenGroups)
    (others : List (List Char)) :
    blankInactive groups (text :: others) =
      text :: blankInactive (directive.apply groups) others := by
  rw [blankInactive, found]

theorem blankInactive_plain (line : PlainLine) (groups : OpenGroups)
    (others : List (List Char)) :
    blankInactive groups (line.text :: others) =
      Fate.shown ⟨line.text, isRead groups⟩ ::
        blankInactive groups others := by
  rw [blankInactive, line.ofLine?_text]
  rfl

mutual

/-- The lines of a block are blanked by the groups that are open around it,
and leave them as they are. -/
theorem Block.blankInactive_lines (groups : OpenGroups) :
    ∀ (block : Block) (behind : List (List Char)),
      blankInactive groups (block.lines ++ behind) =
        (block.fates (isRead groups)).map Fate.shown ++
          blankInactive groups behind
  | .nil, behind => rfl
  | .plain line rest, behind => by
      rw [Block.lines, Block.fates, List.cons_append, blankInactive_plain,
        rest.blankInactive_lines groups behind]
      rfl
  | .group opening first others rest, behind => by
      have opens : Directive.ofLine? opening.text = some .opens :=
        opening.ofLine?_text (by decide)
      rw [Block.lines, Block.fates, List.cons_append, List.append_assoc,
        List.append_assoc, blankInactive_directive opens,
        first.blankInactive_lines, Directive.apply,
        others.blankInactive_lines groups true, rest.blankInactive_lines]
      simp [isRead, Fate.shown]

/-- The lines of further branches are blanked, whatever groups are open
around them, and close their own group. -/
theorem Branches.blankInactive_lines (groups : OpenGroups) (first : Bool) :
    ∀ (branches : Branches) (behind : List (List Char)),
      blankInactive (first :: groups) (branches.lines ++ behind) =
        branches.fates.map Fate.shown ++ blankInactive groups behind
  | .closed closing, behind => by
      have closes : Directive.ofLine? closing.text = some .closes :=
        closing.ofLine?_text (by decide)
      rw [Branches.lines, Branches.fates, List.singleton_append,
        blankInactive_directive closes]
      rfl
  | .otherwise line block closing, behind => by
      have switches : Directive.ofLine? line.text = some .switches :=
        line.ofLine?_text (by decide)
      have closes : Directive.ofLine? closing.text = some .closes :=
        closing.ofLine?_text (by decide)
      rw [Branches.lines, Branches.fates, List.cons_append,
        List.append_assoc, blankInactive_directive switches,
        Directive.apply, block.blankInactive_lines, List.singleton_append,
        blankInactive_directive closes]
      simp [isRead, Fate.shown, Directive.apply]
  | .further line block rest, behind => by
      have switches : Directive.ofLine? line.text = some .switches :=
        line.ofLine?_text (by decide)
      rw [Branches.lines, Branches.fates, List.cons_append,
        List.append_assoc, blankInactive_directive switches,
        Directive.apply, block.blankInactive_lines,
        rest.blankInactive_lines groups false]
      simp [isRead, Fate.shown]

end

mutual

/-- Every line of a block has its fate. -/
theorem Block.map_line_fates (inFirst : Bool) :
    ∀ block : Block, (block.fates inFirst).map Fate.line = block.lines
  | .nil => rfl
  | .plain line rest => by
      rw [Block.fates, Block.lines, List.map_cons,
        rest.map_line_fates inFirst]
  | .group opening first others rest => by
      rw [Block.fates, Block.lines, List.map_cons, List.map_append,
        List.map_append, first.map_line_fates, others.map_line_fates,
        rest.map_line_fates]

theorem Branches.map_line_fates :
    ∀ branches : Branches, branches.fates.map Fate.line = branches.lines
  | .closed closing => rfl
  | .otherwise line block closing => by
      rw [Branches.fates, Branches.lines, List.map_cons, List.map_append,
        block.map_line_fates]
      rfl
  | .further line block rest => by
      rw [Branches.fates, Branches.lines, List.map_cons, List.map_append,
        block.map_line_fates, rest.map_line_fates]

end

/-- In a text whose lines form a block, the lines with a directive and the
plain lines in first branches stay, and all others are shown by spaces and
line endings in as many bytes, one line behind the other. -/
theorem firstBranches_block {source : String} {block : Block}
    (cut : splitLines source.toList = block.lines) :
    (block.fates true).map Fate.line = splitLines source.toList ∧
      ∃ shown, (firstBranches source).toList = shown.flatten ∧
        List.Forall₂ Fate.IsShownBy (block.fates true) shown := by
  refine ⟨cut ▸ block.map_line_fates true,
    (block.fates true).map Fate.shown, ?_, ?_⟩
  · have blanked := block.blankInactive_lines [] []
    rw [List.append_nil, blankInactive, List.append_nil] at blanked
    rw [toList_firstBranches, cut, blanked]
    rfl
  · rw [List.forall₂_map_right_iff, List.forall₂_same]
    exact fun fate _ => fate.isShownBy_shown

def plainLine (text : String)
    (plain : Directive.ofLine? text.toList = none := by decide) :
    PlainLine :=
  .ofText text.toList plain

/-- A line with a directive, given what stands around the sign and the
word. -/
def directiveLine (word indentation spacing behind : String)
    (indented : indentation.toList.all isBlank = true := by decide)
    (spaced : spacing.toList.all isBlank = true := by decide)
    (ended : behind.toList.head?.all (!Char.isAlpha ·) = true := by decide) :
    DirectiveLine word where
  indentation := indentation.toList
  spacing := spacing.toList
  behind := behind.toList
  indented := List.all_eq_true.1 indented
  spaced := List.all_eq_true.1 spaced
  ended := by simpa [Option.all_eq_true] using ended

/-- In the second branch of a group, which is blanked, a whole group whose
first branch would be read elsewhere. -/
def groupedBlock : Block :=
  .plain (plainLine "a\r\n") <|
  .group (directiveLine "if" " " "\t" " X\n")
    (.plain (plainLine "#region\n") .nil)
    (.further (directiveLine "elif" "" "" "(Y\n")
      (.group (directiveLine "if" "" "" "\n")
        (.plain (plainLine "é\r\n") .nil)
        (.closed (directiveLine "endif" "" " " "é\n"))
        (.plain (plainLine "#region\n") .nil))
      (.otherwise (directiveLine "else" "" "" "\n") .nil
        (directiveLine "endif" " " "" "\n")))
    (.plain (plainLine "b") .nil)

def groupedSource : String :=
  "a\r\n #\tif X\n#region\n#elif(Y\n#if\né\r\n# endifé\n#region\n#else\n" ++
    " #endif\nb"

theorem groupedSource_shown :
    splitLines groupedSource.toList = groupedBlock.lines ∧
      (groupedBlock.fates true).map Fate.stays =
        [true, true, true, true, true, false, true, false, true, true,
          true] ∧
      ∃ shown, (firstBranches groupedSource).toList = shown.flatten ∧
        List.Forall₂ Fate.IsShownBy (groupedBlock.fates true) shown := by
  have cut : splitLines groupedSource.toList = groupedBlock.lines := by
    decide +kernel
  exact ⟨cut, by decide, (firstBranches_block cut).2⟩

end ClassDiagram.Source
