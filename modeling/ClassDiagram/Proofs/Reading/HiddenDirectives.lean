import ClassDiagram.Proofs.Reading.LeadingTrivia

/-!
# Directives that are hidden or found by what stands in front

The lines with directives are found before anything is known of trivia.  Two
kinds of trivia in front of a text therefore do not leave its outline alone.

A byte-order mark hides the directive on its line.  If that opens a group, the
group is never opened, and the outline is that of the text behind the line;
otherwise the mark makes no difference.

The lines of a block comment are looked at as well.  If they leave no group
open, the comment makes no difference to any text behind it; if they leave
one open, it makes a difference to some.
-/

namespace ClassDiagram

open Source

/-- Both sources are read as one outline, or neither is read. -/
def SameOutline (left right : String) : Prop :=
  (readSource left).toOption = (readSource right).toOption

instance (left right : String) : Decidable (SameOutline left right) :=
  inferInstanceAs (Decidable (_ = _))

theorem sameOutline_iff {left right : String} :
    SameOutline left right ↔
      outlineOf? (shown left.toList) = outlineOf? (shown right.toList) := by
  rw [SameOutline, toOption_readSource, toOption_readSource]

/-! ## Behind a byte-order mark -/

def beginsGroup (source : String) : Bool :=
  Directive.ofLine? (firstLine source.toList) == some .opens

def behindFirstLine (source : String) : String :=
  String.ofList (furtherLines source.toList).flatten

theorem outlineOf?_shown_byteOrderMark (source : String) :
    outlineOf? (shown ("\uFEFF" ++ source).toList) =
      outlineOf? (continued source.toList) := by
  have mark : ("\uFEFF" ++ source).toList =
      [Text.byteOrderMark] ++ source.toList := String.toList_append
  have spacing : ∀ c ∈ [Text.byteOrderMark], Text.isSpacing c = true :=
    List.forall_mem_singleton.2 (by decide)
  rw [mark, shown_behind endsDirective_byteOrderMark (by decide),
    outlineOf?_behind_spacing spacing]

/-- A directive that is not obeyed leaves the outline of the lines behind
it. -/
theorem outlineOf?_continued_directive {text : List Char}
    {directive : Directive}
    (found : Directive.ofLine? (firstLine text) = some directive) :
    outlineOf? (continued text) =
      outlineOf? (shown (furtherLines text).flatten) := by
  obtain ⟨lines, last, rfl, areEnded, oneLine⟩ := exists_endedLines text
  rcases lines with - | ⟨line, others⟩
  · rw [List.flatten_nil, List.nil_append] at found ⊢
    by_cases none : last = []
    · rw [none] at found
      cases found
    · have split := splitLines_of_not_mem oneLine none
      rw [firstLine, split] at found
      rw [continued, firstLine, furtherLines, split]
      have noBlanks : ∀ c ∈ [], Text.isBlank c = true :=
        List.forall_mem_nil _
      exact outlineOf?_behind_directive oneLine noBlanks
        (by simpa using found) (by simp [blankInactive])
  · obtain ⟨here, later⟩ := List.forall_mem_cons.1 areEnded
    rw [List.flatten_cons, List.append_assoc] at found ⊢
    have split := splitLines_ended here (others.flatten ++ last)
    rw [firstLine, split] at found
    rw [continued_ended here, furtherLines, split, List.tail_cons,
      flatten_splitLines, outlineOf?_behind_directiveLine here found]

theorem sameOutline_byteOrderMark {source : String}
    (begins : beginsGroup source = false) :
    SameOutline ("\uFEFF" ++ source) source := by
  have opensNone : Directive.ofLine? (firstLine source.toList) ≠
      some .opens := beq_eq_false_iff_ne.1 begins
  rw [sameOutline_iff, outlineOf?_shown_byteOrderMark,
    shown_eq_continued opensNone]

theorem sameOutline_behindFirstLine {source : String}
    (begins : beginsGroup source = true) :
    SameOutline ("\uFEFF" ++ source) (behindFirstLine source) := by
  rw [sameOutline_iff, outlineOf?_shown_byteOrderMark,
    outlineOf?_continued_directive (beq_iff_eq.1 begins), behindFirstLine,
    String.toList_ofList]

theorem beginsGroup_append {line : String} (ended : IsEndedLine line.toList)
    (text : String) :
    beginsGroup (line ++ text) =
      (Directive.ofLine? line.toList == some .opens) := by
  rw [beginsGroup, String.toList_append, firstLine, splitLines_ended ended]
  rfl

theorem beginsGroup_line {line : String} (ended : IsEndedLine line.toList) :
    beginsGroup line = (Directive.ofLine? line.toList == some .opens) := by
  have begins := beginsGroup_append ended ""
  rwa [String.append_empty] at begins

def otherBranch (name : String) : String :=
  "#else\nclass " ++ name ++ " \x7b \x7d"

/-- Behind a line that opens a group, some text is read in another way if a
byte-order mark stands in front. -/
theorem exists_not_sameOutline {line : String}
    (ended : IsEndedLine line.toList) (begins : beginsGroup line = true) :
    ∃ text : String,
      ¬ SameOutline ("\uFEFF" ++ (line ++ text)) (line ++ text) := by
  rw [beginsGroup_line ended] at begins
  have opens := beq_iff_eq.1 begins
  have behindLine := outlineOf?_behind_directiveLine ended opens
  have openGroup : groupsBehind [] line.toList = [true] := by
    rw [groupsBehind, opens]
    rfl
  have shownBehind : shown (line.toList ++ (otherBranch "B").toList) =
      line.toList ++ (blankInactive [true]
        (splitLines (otherBranch "B").toList)).flatten := by
    rw [shown, splitLines_ended ended, blankInactive_cons, shownLine_nil,
      openGroup, List.flatten_cons]
  refine ⟨otherBranch "B", ?_⟩
  rw [sameOutline_iff, outlineOf?_shown_byteOrderMark,
    String.toList_append, continued_ended ended, behindLine, shownBehind,
    behindLine]
  decide +kernel

/-- Behind a byte-order mark, a first line that opens a group is left out, and
nothing else is changed.  So the mark makes no difference exactly if the first
line opens no group or may as well be left out; and a line with any text
behind it is read as without the mark exactly if it opens no group. -/
theorem byteOrderMark_outline (source : String) :
    SameOutline ("\uFEFF" ++ source)
        (if beginsGroup source then behindFirstLine source else source) ∧
      (SameOutline ("\uFEFF" ++ source) source ↔
        beginsGroup source = false ∨
          SameOutline (behindFirstLine source) source) ∧
      (IsEndedLine source.toList →
        ((∀ text : String,
            SameOutline ("\uFEFF" ++ (source ++ text)) (source ++ text)) ↔
          beginsGroup source = false)) := by
  refine ⟨?_, ?_, fun ended => ?_⟩
  · by_cases begins : beginsGroup source = true
    · rw [if_pos begins]
      exact sameOutline_behindFirstLine begins
    · rw [if_neg begins]
      exact sameOutline_byteOrderMark (Bool.eq_false_iff.2 begins)
  · by_cases begins : beginsGroup source = true
    · have hidden := sameOutline_behindFirstLine begins
      rw [begins, or_iff_right Bool.noConfusion]
      exact ⟨hidden.symm.trans, hidden.trans⟩
    · have plain := Bool.eq_false_iff.2 begins
      exact iff_of_true (sameOutline_byteOrderMark plain) (.inl plain)
  · constructor
    · intro same
      by_contra begins
      obtain ⟨text, apart⟩ :=
        exists_not_sameOutline ended (Bool.not_eq_false _ ▸ begins)
      exact apart (same text)
    · intro begins text
      apply sameOutline_byteOrderMark
      rw [beginsGroup_append ended, ← beginsGroup_line ended, begins]

def branchedSource : String :=
  "#if A\n#else\nclass B \x7b \x7d\n#endif"

theorem byteOrderMark_hides_its_line :
    SameOutline ("\uFEFF" ++ branchedSource)
        "#else\nclass B \x7b \x7d\n#endif" ∧
      IsEndedLine "#region A\n".toList ∧
      SameOutline ("\uFEFF" ++ ("#region A\n" ++ otherBranch "B"))
        ("#region A\n" ++ otherBranch "B") := by
  have ended : IsEndedLine "#region A\n".toList :=
    ⟨"#region A".toList, by decide +kernel, by decide +kernel⟩
  have hidden := (byteOrderMark_outline branchedSource).1
  have plain := (byteOrderMark_outline "#region A\n").2.2 ended
  have begins : beginsGroup branchedSource = true := by
    decide +kernel
  have further : behindFirstLine branchedSource =
      "#else\nclass B \x7b \x7d\n#endif" := by
    decide +kernel
  rw [if_pos begins, further] at hidden
  exact ⟨hidden, ended, plain.2 (by decide +kernel) (otherBranch "B")⟩

/-- Behind the mark the group is not opened, and its second branch is read. -/
theorem marked_branch_read :
    readSource branchedSource = .ok [] ∧
      readSource ("\uFEFF" ++ branchedSource) =
        .ok [.type ⟨.classWord, "B", none, []⟩ []] ∧
      ¬ SameOutline ("\uFEFF" ++ branchedSource) branchedSource := by
  refine ⟨?_, ?_, ?_⟩ <;> decide +kernel

/-! ## Behind a block comment -/

def commented (comment text : String) : String :=
  "/*" ++ comment ++ "*/" ++ text

theorem shown_commented (comment text : String) :
    shown (commented comment text).toList =
      '/' :: '*' ::
        continued (comment.toList ++ (commentEnd ++ text.toList)) := by
  have characters : (commented comment text).toList = '/' :: ['*'] ++
      (comment.toList ++ (commentEnd ++ text.toList)) := by
    simp [commented, commentEnd]
  rw [characters, shown_behind endsDirective_slash (by decide)]
  rfl

theorem outlineOf?_behind_comment {body : List Char}
    (stays : StaysComment body) (text : List Char) :
    outlineOf? ('/' :: '*' :: (body ++ (commentEnd ++ text))) =
      outlineOf? text := by
  have behind := outlineOf?_behind (.blockComment text stays)
  rwa [List.cons_append, List.cons_append, List.append_assoc] at behind

/-- A comment without text leaves the outline of what goes on behind it. -/
theorem outlineOf?_shown_emptyComment (text : String) :
    outlineOf? (shown (commented "" text).toList) =
      outlineOf? (continued text.toList) := by
  have stays : StaysComment [] := staysComment_of_not_mem List.not_mem_nil
  have goesOn : continued (commentEnd ++ text.toList) =
      commentEnd ++ continued text.toList :=
    continued_behind (by decide) (List.cons_ne_nil _ _) _
  rw [shown_commented, String.toList_empty, List.nil_append, goesOn]
  exact outlineOf?_behind_comment stays _

/-- A comment that leaves no group open is shown with its own end. -/
theorem continued_of_closed {comment body last text : List Char}
    {groups : OpenGroups}
    (isShown : ShownComment comment body last groups)
    (closed : groupsBehind groups (last ++ commentEnd) = []) :
    continued (comment ++ (commentEnd ++ text)) =
      body ++ last ++ (commentEnd ++ continued text) := by
  have lineClosed : groupsBehind groups
      (last ++ (commentEnd ++ firstLine text)) = [] :=
    (groupsBehind_commentEnd groups last _).trans closed
  rw [isShown.continued_eq, shownLine_of_closed lineClosed, closed, continued]
  simp only [List.append_assoc]

/-- Where a group is open, a line of another branch of it is blanked. -/
theorem blankInactive_switched {groups : OpenGroups} {switch line : List Char}
    (isOpen : groups ≠ [])
    (switches : Directive.ofLine? switch = some .switches)
    (plain : Directive.ofLine? line = none) :
    blankInactive groups [switch, line] = [switch, blankedLine line] := by
  obtain ⟨inFirst, outer, rfl⟩ := List.exists_cons_of_ne_nil isOpen
  have switched : groupsBehind (inFirst :: outer) switch = false :: outer := by
    rw [groupsBehind, switches]
    rfl
  have keptSwitch : shownLine (inFirst :: outer) switch = switch := by
    rw [shownLine, isBlanked, switches]
    rfl
  have blanked : shownLine (false :: outer) line = blankedLine line := by
    rw [shownLine, isBlanked, plain]
    rfl
  rw [blankInactive_cons, blankInactive_cons, switched, keptSwitch, blanked,
    blankInactive]

/-- Classes with names of one length look the same in a branch that is
blanked. -/
theorem blankInactive_otherBranch {groups : OpenGroups}
    (isOpen : groups ≠ []) :
    blankInactive groups (furtherLines ("\n" ++ otherBranch "B").toList) =
      blankInactive groups
        (furtherLines ("\n" ++ otherBranch "C").toList) := by
  have linesB : furtherLines ("\n" ++ otherBranch "B").toList =
      ["#else\n".toList, "class B \x7b \x7d".toList] := by
    decide +kernel
  have linesC : furtherLines ("\n" ++ otherBranch "C").toList =
      ["#else\n".toList, "class C \x7b \x7d".toList] := by
    decide +kernel
  have alike : blankedLine "class B \x7b \x7d".toList =
      blankedLine "class C \x7b \x7d".toList := by
    decide +kernel
  have switches : Directive.ofLine? "#else\n".toList = some .switches := by
    decide +kernel
  rw [linesB, linesC,
    blankInactive_switched isOpen switches (by decide +kernel),
    blankInactive_switched isOpen switches (by decide +kernel), alike]

/-- A comment makes no difference to any text behind it exactly if its lines
leave no group open. -/
theorem commented_outline_iff {comment : String}
    (stays : StaysComment comment.toList) :
    (∀ text : String,
        SameOutline (commented comment text) (commented "" text)) ↔
      groupsOpenBehind (commented comment "").toList = [] := by
  obtain ⟨body, last, groups, isShown⟩ := exists_shownComment stays
  have openBehind : groupsOpenBehind (commented comment "").toList =
      groupsBehind groups (last ++ commentEnd) := by
    rw [← isShown.open_eq]
    simp [commented, commentEnd]
  rw [openBehind]
  constructor
  · intro same
    by_contra isOpen
    -- both classes are blanked behind the comment, so they look the same
    have alike : continued (comment.toList ++
          (commentEnd ++ ("\n" ++ otherBranch "B").toList)) =
        continued (comment.toList ++
          (commentEnd ++ ("\n" ++ otherBranch "C").toList)) := by
      have sameLine : firstLine ("\n" ++ otherBranch "B").toList =
          firstLine ("\n" ++ otherBranch "C").toList := by
        decide +kernel
      rw [isShown.continued_eq, isShown.continued_eq,
        blankInactive_otherBranch isOpen, sameLine]
    have first := sameOutline_iff.1 (same ("\n" ++ otherBranch "B"))
    have second := sameOutline_iff.1 (same ("\n" ++ otherBranch "C"))
    rw [shown_commented, outlineOf?_shown_emptyComment] at first second
    rw [alike] at first
    have apart :
        outlineOf? (continued ("\n" ++ otherBranch "B").toList) ≠
          outlineOf? (continued ("\n" ++ otherBranch "C").toList) := by
      decide +kernel
    exact apart (first.symm.trans second)
  · intro closed text
    rw [sameOutline_iff, shown_commented, outlineOf?_shown_emptyComment,
      continued_of_closed isShown closed]
    exact outlineOf?_behind_comment isShown.stays _

def groupComment : String :=
  "\n#if A\n#else\n* \n#endif\n"

theorem groupComment_leaves_outline :
    StaysComment groupComment.toList ∧
      SameOutline (commented groupComment "class B \x7b \x7d")
        (commented "" "class B \x7b \x7d") := by
  have stays : StaysComment groupComment.toList := by decide +kernel
  have closed : groupsOpenBehind (commented groupComment "").toList = [] := by
    decide +kernel
  exact ⟨stays, (commented_outline_iff stays).2 closed _⟩

def unendedGroupComment : String :=
  "\n#if DEBUG\n#else\n"

/-- The group is open behind the comment, and the class is blanked. -/
theorem class_behind_comment_lost :
    StaysComment unendedGroupComment.toList ∧
      readSource (commented unendedGroupComment "\nclass B \x7b \x7d") =
        .ok [] ∧
      readSource (commented "" "\nclass B \x7b \x7d") =
        .ok [.type ⟨.classWord, "B", none, []⟩ []] ∧
      ¬ SameOutline (commented unendedGroupComment "\nclass B \x7b \x7d")
        (commented "" "\nclass B \x7b \x7d") := by
  refine ⟨?_, ?_, ?_, ?_⟩ <;> decide +kernel

end ClassDiagram
