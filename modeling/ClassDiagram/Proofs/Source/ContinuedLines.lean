import ClassDiagram.Proofs.Source.BlankedLines
import ClassDiagram.Proofs.Source.TriviaPieces

/-!
# Texts behind something on their first line

Branches are blanked line by line, before anything is known of comments.  A
text that is put behind something goes on with its first line, which then is
no directive any more; from its second line on it is blanked as before, under
the groups that are open there.

A block comment can open groups, since its own lines are looked at as well.
If it leaves none open, all that happens to it is that some of its lines are
blanked, and it ends where it ended.
-/

namespace ClassDiagram.Source

open Text (dropBlank isBlank)

variable {text front body last : List Char} {lines : List (List Char)}

/-! ## The first line and the others -/

def firstLine (text : List Char) : List Char :=
  (splitLines text).headD []

def furtherLines (text : List Char) : List (List Char) :=
  (splitLines text).tail

theorem splitLines_eq_nil_iff : splitLines text = [] ↔ text = [] := by
  constructor
  · intro noLines
    rw [← flatten_splitLines text, noLines]
    rfl
  · rintro rfl
    rfl

theorem splitLines_eq_cons (something : text ≠ []) :
    splitLines text = firstLine text :: furtherLines text := by
  rcases lines : splitLines text with - | ⟨line, others⟩
  · exact absurd (splitLines_eq_nil_iff.1 lines) something
  · rw [firstLine, furtherLines, lines]
    rfl

theorem splitLines_cons_of_ne {c : Char} (noNewline : c ≠ '\n')
    (rest : List Char) :
    splitLines (c :: rest) =
      (c :: firstLine rest) :: furtherLines rest := by
  rw [splitLines, firstLine, furtherLines]
  · rcases splitLines rest with - | ⟨line, others⟩ <;> rfl
  · exact fun equal => noNewline equal

/-- A text goes on with the line that it is put behind. -/
theorem splitLines_behind (oneLine : '\n' ∉ front) (something : front ≠ [])
    (text : List Char) :
    splitLines (front ++ text) =
      (front ++ firstLine text) :: furtherLines text := by
  induction front with
  | nil =>
      exact absurd rfl something
  | cons c others inductionHypothesis =>
      rw [List.mem_cons, not_or] at oneLine
      rw [List.cons_append, splitLines_cons_of_ne (Ne.symm oneLine.1)]
      by_cases none : others = []
      · rw [none]
        rfl
      · rw [firstLine, furtherLines,
          inductionHypothesis oneLine.2 none]
        rfl

def IsEndedLine (line : List Char) : Prop :=
  ∃ body, line = body ++ ['\n'] ∧ '\n' ∉ body

theorem splitLines_ended {line : List Char} (ended : IsEndedLine line)
    (text : List Char) :
    splitLines (line ++ text) = line :: splitLines text := by
  obtain ⟨body, rfl, oneLine⟩ := ended
  rw [List.append_assoc]
  by_cases none : body = []
  · rw [none]
    rfl
  · rw [splitLines_behind oneLine none]
    rfl

theorem splitLines_flatten (areEnded : ∀ line ∈ lines, IsEndedLine line)
    (text : List Char) :
    splitLines (lines.flatten ++ text) = lines ++ splitLines text := by
  induction lines with
  | nil =>
      rfl
  | cons line others inductionHypothesis =>
      obtain ⟨here, later⟩ := List.forall_mem_cons.1 areEnded
      rw [List.flatten_cons, List.append_assoc, splitLines_ended here,
        inductionHypothesis later]
      rfl

/-- Every text is some lines and what stands behind the last newline. -/
theorem exists_endedLines (text : List Char) :
    ∃ (lines : List (List Char)) (last : List Char),
      text = lines.flatten ++ last ∧
      (∀ line ∈ lines, IsEndedLine line) ∧ '\n' ∉ last := by
  induction text with
  | nil =>
      exact ⟨[], [], rfl, List.forall_mem_nil _, List.not_mem_nil⟩
  | cons c rest inductionHypothesis =>
      obtain ⟨lines, last, rfl, areEnded, oneLine⟩ := inductionHypothesis
      by_cases newline : c = '\n'
      · rw [newline]
        exact ⟨['\n'] :: lines, last, rfl,
          List.forall_mem_cons.2 ⟨⟨[], rfl, List.not_mem_nil⟩, areEnded⟩,
          oneLine⟩
      · rcases lines with - | ⟨line, others⟩
        · refine ⟨[], c :: last, rfl, List.forall_mem_nil _, ?_⟩
          rw [List.mem_cons, not_or]
          exact ⟨Ne.symm newline, oneLine⟩
        · obtain ⟨⟨body, rfl, inBody⟩, later⟩ :=
            List.forall_mem_cons.1 areEnded
          refine ⟨(c :: body ++ ['\n']) :: others, last, rfl,
            List.forall_mem_cons.2 ⟨⟨c :: body, rfl, ?_⟩, later⟩, oneLine⟩
          rw [List.mem_cons, not_or]
          exact ⟨Ne.symm newline, inBody⟩

/-! ## Directives -/

/-- A character that is neither blank nor a number sign nor part of a name
ends what may be a directive. -/
structure EndsDirective (c : Char) : Prop where
  notBlank : isBlank c = false
  notSign : c ≠ '#'
  notLetter : c.isAlpha = false

theorem directiveName?_append {c : Char} (ends : EndsDirective c)
    (front rest : List Char) :
    directiveName? (front ++ c :: rest) = directiveName? (front ++ [c]) := by
  have drop : ∀ front rest : List Char,
      dropBlank (front ++ c :: rest) = dropBlank front ++ c :: rest := by
    intro front rest
    induction front with
    | nil =>
        simp [dropBlank, ends.notBlank]
    | cons d others inductionHypothesis =>
        by_cases blank : isBlank d = true
        · simpa [dropBlank, blank] using inductionHypothesis
        · simp [dropBlank, blank]
  have take : ∀ front rest : List Char,
      (front ++ c :: rest).takeWhile Char.isAlpha =
        front.takeWhile Char.isAlpha := by
    intro front rest
    induction front with
    | nil =>
        simp [ends.notLetter]
    | cons d others inductionHypothesis =>
        by_cases letter : d.isAlpha = true
        · simpa [letter] using inductionHypothesis
        · simp [letter]
  rw [directiveName?, directiveName?, drop, drop]
  rcases dropBlank front with - | ⟨d, others⟩
  · simp [ends.notSign]
  · by_cases sign : d = '#'
    · simp only [sign, List.cons_append, drop, take]
    · simp [sign]

/-- Whether a line is a directive is settled at the first such character. -/
theorem ofLine?_append {c : Char} (ends : EndsDirective c)
    (front rest : List Char) :
    Directive.ofLine? (front ++ c :: rest) =
      Directive.ofLine? (front ++ [c]) := by
  rw [Directive.ofLine?, Directive.ofLine?, directiveName?_append ends]

theorem endsDirective_star : EndsDirective '*' :=
  ⟨by decide, by decide, by decide⟩

theorem endsDirective_slash : EndsDirective '/' :=
  ⟨by decide, by decide, by decide⟩

theorem endsDirective_byteOrderMark : EndsDirective Text.byteOrderMark :=
  ⟨by decide, by decide, by decide⟩

/-- A line that begins with such a character is no directive. -/
theorem ofLine?_eq_none {c : Char} (ends : EndsDirective c)
    (rest : List Char) : Directive.ofLine? (c :: rest) = none := by
  have noName : directiveName? (c :: rest) = none := by
    rw [directiveName?, dropBlank, List.dropWhile_cons_of_neg
      (by simp [ends.notBlank])]
    split
    · rename_i sign
      cases sign
      exact absurd rfl ends.notSign
    · rfl
  rw [Directive.ofLine?, noName]
  rfl

/-! ## What is shown of a text behind something -/

def shown (text : List Char) : List Char :=
  (blankInactive [] (splitLines text)).flatten

/-- The text as it is shown if its first line goes on with a line that is no
directive. -/
def continued (text : List Char) : List Char :=
  firstLine text ++ (blankInactive [] (furtherLines text)).flatten

/-- Outside all groups a line that does not open one changes nothing. -/
theorem groupsBehind_nil {line : List Char}
    (opensNone : Directive.ofLine? line ≠ some .opens) :
    groupsBehind [] line = [] := by
  rw [groupsBehind]
  cases found : Directive.ofLine? line with
  | none =>
      rfl
  | some directive =>
      cases directive with
      | opens =>
          exact absurd found opensNone
      | switches | closes =>
          rfl

theorem shownLine_nil (line : List Char) : shownLine [] line = line := by
  rw [shownLine, isBlanked, isRead, List.all_nil, Bool.not_true,
    Bool.and_false]
  rfl

theorem shown_eq_continued
    (opensNone : Directive.ofLine? (firstLine text) ≠ some .opens) :
    shown text = continued text := by
  by_cases none : text = []
  · rw [none]
    rfl
  · rw [shown, splitLines_eq_cons none, blankInactive_cons, shownLine_nil,
      groupsBehind_nil opensNone, List.flatten_cons, continued]

theorem shown_behind {c : Char} (ends : EndsDirective c)
    (oneLine : '\n' ∉ c :: front) (text : List Char) :
    shown (c :: front ++ text) = c :: front ++ continued text := by
  have noDirective : Directive.ofLine? (c :: front ++ firstLine text) ≠
      some .opens := by
    rw [List.cons_append, ofLine?_eq_none ends]
    exact nofun
  rw [shown, splitLines_behind oneLine (List.cons_ne_nil c front),
    blankInactive_cons, shownLine_nil, groupsBehind_nil noDirective,
    List.flatten_cons, List.append_assoc, continued]

theorem continued_behind (oneLine : '\n' ∉ front) (something : front ≠ [])
    (text : List Char) :
    continued (front ++ text) = front ++ continued text := by
  have split := splitLines_behind oneLine something text
  rw [continued, firstLine, furtherLines, split, continued,
    ← List.append_assoc]
  rfl

/-- Behind an ended line a text is shown as it is alone. -/
theorem continued_ended {line : List Char} (ended : IsEndedLine line)
    (text : List Char) : continued (line ++ text) = line ++ shown text := by
  have split := splitLines_ended ended text
  rw [continued, firstLine, furtherLines, split, shown]
  rfl

/-! ## Comments whose lines are blanked -/

theorem staysComment_cons_iff {c : Char} :
    StaysComment (c :: text) ↔
      ¬ commentEnd <+: c :: text ∧ StaysComment text := by
  rw [StaysComment, List.infix_cons_iff, not_or]
  rfl

theorem StaysComment.of_append (stays : StaysComment (front ++ text)) :
    StaysComment front ∧ StaysComment text := by
  constructor
  · intro ended
    exact stays (ended.trans (List.prefix_append front text).isInfix)
  · intro ended
    exact stays (ended.trans (List.suffix_append front text).isInfix)

/-- The end of a comment does not lie across a border that no star stands in
front of. -/
theorem StaysComment.append (frontStays : StaysComment front)
    (apart : front.getLast? ≠ some '*') (textStays : StaysComment text) :
    StaysComment (front ++ text) := by
  induction front with
  | nil =>
      exact textStays
  | cons c others inductionHypothesis =>
      obtain ⟨noEnd, othersStay⟩ := staysComment_cons_iff.1 frontStays
      rw [List.cons_append, staysComment_cons_iff]
      rcases others with - | ⟨d, more⟩
      · have notStar : '*' ≠ c := by
          rintro rfl
          exact apart rfl
        exact ⟨by simp [commentEnd, notStar], textStays⟩
      · rw [List.getLast?_cons_cons] at apart
        refine ⟨?_, inductionHypothesis othersStay apart⟩
        simpa [commentEnd] using noEnd

theorem staysComment_of_not_mem (noStar : '*' ∉ text) :
    StaysComment text := by
  intro ended
  exact noStar (ended.subset List.mem_cons_self)

theorem not_mem_blankedLine (line : List Char) :
    '*' ∉ blankedLine line := by
  intro member
  rcases List.mem_append.1 member with blanks | spaces
  · obtain ⟨c, _, blank⟩ := List.mem_map.1 blanks
    split at blank
    · rename_i ending
      rw [blank] at ending
      revert ending
      decide
    · cases blank
  · cases List.eq_of_mem_replicate spaces

theorem shownLine_getLast?_ne {line : List Char} (ended : IsEndedLine line)
    (groups : OpenGroups) :
    (shownLine groups line).getLast? ≠ some '*' := by
  unfold shownLine
  split
  · intro isLast
    exact not_mem_blankedLine line (List.mem_of_getLast? isLast)
  · obtain ⟨body, rfl, _⟩ := ended
    simp

/-- Blanking lines of a comment does not end it. -/
theorem StaysComment.blankInactive
    (areEnded : ∀ line ∈ lines, IsEndedLine line)
    (stays : StaysComment (lines.flatten ++ last)) (groups : OpenGroups) :
    StaysComment
      ((Source.blankInactive groups lines).flatten ++ last) := by
  induction lines generalizing groups with
  | nil =>
      exact stays
  | cons line others inductionHypothesis =>
      obtain ⟨here, later⟩ := List.forall_mem_cons.1 areEnded
      rw [List.flatten_cons, List.append_assoc] at stays
      obtain ⟨lineStays, othersStay⟩ := stays.of_append
      have shownStays : StaysComment (shownLine groups line) := by
        unfold shownLine
        split
        · exact staysComment_of_not_mem (not_mem_blankedLine line)
        · exact lineStays
      rw [blankInactive_cons, List.flatten_cons, List.append_assoc]
      exact shownStays.append (shownLine_getLast?_ne here groups)
        (inductionHypothesis later othersStay _)

def groupsOpenBehind (text : List Char) : OpenGroups :=
  (splitLines text).foldl groupsBehind []

theorem groupsBehind_commentEnd (groups : OpenGroups)
    (last behind : List Char) :
    groupsBehind groups (last ++ (commentEnd ++ behind)) =
      groupsBehind groups (last ++ commentEnd) := by
  have sameLine : Directive.ofLine? (last ++ (commentEnd ++ behind)) =
      Directive.ofLine? (last ++ commentEnd) :=
    (ofLine?_append endsDirective_star last _).trans
      (ofLine?_append endsDirective_star last _).symm
  rw [groupsBehind, groupsBehind, sameLine]

/-- A line behind which no group is open is not blanked. -/
theorem shownLine_of_closed {groups : OpenGroups} {line : List Char}
    (closed : groupsBehind groups line = []) :
    shownLine groups line = line := by
  cases found : Directive.ofLine? line with
  | none =>
      simp only [groupsBehind, found] at closed
      rw [closed, shownLine_nil]
  | some directive =>
      rw [shownLine, isBlanked, found]
      rfl

/-- How a block comment is shown: some text, and then its last line, which
goes on behind the comment. -/
structure ShownComment (comment body last : List Char)
    (groups : OpenGroups) : Prop where
  stays : StaysComment (body ++ last)
  continued_eq (text : List Char) :
    continued (comment ++ (commentEnd ++ text)) =
      body ++ shownLine groups (last ++ (commentEnd ++ firstLine text)) ++
        (blankInactive (groupsBehind groups (last ++ commentEnd))
          (furtherLines text)).flatten
  open_eq :
    groupsOpenBehind ('/' :: '*' :: (comment ++ commentEnd)) =
      groupsBehind groups (last ++ commentEnd)

theorem splitLines_of_not_mem (oneLine : '\n' ∉ front)
    (something : front ≠ []) : splitLines front = [front] := by
  have split := splitLines_behind oneLine something []
  rw [List.append_nil] at split
  exact split.trans (congrArg (· :: []) (List.append_nil front))

/-- A line that goes on behind the beginning of a comment opens no group. -/
theorem groupsBehind_commentLine (line : List Char) :
    groupsBehind [] ('/' :: '*' :: line) = [] := by
  apply groupsBehind_nil
  rw [ofLine?_eq_none endsDirective_slash]
  exact nofun

theorem exists_shownComment {comment : List Char}
    (stays : StaysComment comment) :
    ∃ body last groups, ShownComment comment body last groups := by
  obtain ⟨lines, last, rfl, areEnded, oneLine⟩ := exists_endedLines comment
  have endLine : '\n' ∉ last ++ commentEnd := by
    rw [List.mem_append, not_or]
    exact ⟨oneLine, by decide⟩
  have something : last ++ commentEnd ≠ [] :=
    List.append_ne_nil_of_right_ne_nil last (List.cons_ne_nil _ _)
  rcases lines with - | ⟨line, others⟩
  · -- the comment is a part of its first line, which is no directive
    have ends : groupsBehind [] commentEnd = [] := by decide
    refine ⟨last, [], [], ?_, ?_, ?_⟩
    · rwa [List.append_nil]
    · intro text
      have goesOn := continued_behind endLine something text
      rw [List.append_assoc] at goesOn
      rw [List.flatten_nil, List.nil_append, goesOn, List.nil_append,
        List.nil_append, ends, shownLine_nil, continued]
      simp only [List.append_assoc]
    · have wholeLine : '\n' ∉ '/' :: '*' :: (last ++ commentEnd) := by
        simpa using endLine
      rw [List.flatten_nil, List.nil_append, List.nil_append,
        groupsOpenBehind,
        splitLines_of_not_mem wholeLine (List.cons_ne_nil _ _)]
      exact (groupsBehind_commentLine (last ++ commentEnd)).trans ends.symm
  · obtain ⟨here, later⟩ := List.forall_mem_cons.1 areEnded
    rw [List.flatten_cons, List.append_assoc] at stays
    obtain ⟨lineStays, othersStay⟩ := stays.of_append
    refine ⟨line ++ (Source.blankInactive [] others).flatten, last,
      others.foldl groupsBehind [], ?_, ?_, ?_⟩
    · have apart : line.getLast? ≠ some '*' :=
        shownLine_nil line ▸ shownLine_getLast?_ne here []
      rw [List.append_assoc]
      exact lineStays.append apart (othersStay.blankInactive later [])
    · intro text
      have split := splitLines_behind endLine something text
      rw [List.append_assoc, List.append_assoc] at split
      rw [List.flatten_cons, List.append_assoc, List.append_assoc,
        continued_ended here, shown, splitLines_flatten later, split,
        blankInactive_append, blankInactive_cons, groupsBehind_commentEnd]
      simp only [List.flatten_append, List.flatten_cons, List.append_assoc]
    · have begun : IsEndedLine ('/' :: '*' :: line) := by
        obtain ⟨body, rfl, inBody⟩ := here
        exact ⟨'/' :: '*' :: body, rfl, by simpa using inBody⟩
      have split := splitLines_flatten
        (List.forall_mem_cons.2 ⟨begun, later⟩) (last ++ commentEnd)
      rw [splitLines_of_not_mem endLine something, List.flatten_cons,
        List.cons_append, List.cons_append, List.cons_append,
        List.cons_append] at split
      rw [groupsOpenBehind, List.flatten_cons, List.append_assoc, split,
        List.cons_append, List.foldl_cons, groupsBehind_commentLine,
        List.foldl_append]
      rfl

end ClassDiagram.Source
