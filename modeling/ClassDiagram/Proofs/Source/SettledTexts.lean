import ClassDiagram.Proofs.Source.ContinuedLines
import ClassDiagram.Proofs.Source.NestedGroups

/-!
# Blanking a text again

The lines of a blanked text are not the shown lines of the source.  Where a
blanked line has characters of several bytes, the spaces that make up for
them come behind its newline, so the next line begins with them.

A text is settled if all that would be blanked of it is blank already, and
what is settled is left as it is.  The spaces that are carried over a newline
stand in front of a directive, which may be indented, or of a line that is
blanked as well, or at the end of the text.  None of these is read otherwise
for them, so a blanked text is settled.
-/

namespace ClassDiagram.Source

open Text (byteSize excess isBlank)

variable {line last front : List Char} {lines : List (List Char)}
  {groups : OpenGroups}

/-! ## Settled lines -/

/-- A line of nothing but spaces and line endings. -/
def IsBlankLine (line : List Char) : Prop :=
  ∀ c ∈ line, c = ' ' ∨ isLineEnding c = true

/-- The lines that would be blanked are blank already. -/
def AreSettled : OpenGroups → List (List Char) → Prop
  | _, [] => True
  | groups, line :: others =>
      (isBlanked groups line = true → IsBlankLine line) ∧
        AreSettled (groupsBehind groups line) others

theorem IsBlankLine.append (frontBlank : IsBlankLine front)
    (lineBlank : IsBlankLine line) : IsBlankLine (front ++ line) :=
  List.forall_mem_append.2 ⟨frontBlank, lineBlank⟩

theorem isBlankLine_spaces (count : Nat) :
    IsBlankLine (List.replicate count ' ') :=
  fun _ member => .inl (List.eq_of_mem_replicate member)

theorem isBlankLine_blankedLine (line : List Char) :
    IsBlankLine (blankedLine line) :=
  fun _ => eq_space_of_mem_blankedLine

/-- Spaces and line endings take one byte each. -/
theorem IsBlankLine.byteSize_eq (blank : IsBlankLine line) :
    byteSize line = line.length := by
  induction line with
  | nil =>
      rfl
  | cons c rest inductionHypothesis =>
      obtain ⟨here, later⟩ := List.forall_mem_cons.1 blank
      have oneByte : c.utf8Size = 1 := by
        simp only [isLineEnding, Bool.or_eq_true, beq_iff_eq] at here
        rcases here with rfl | rfl | rfl <;> rfl
      rw [Text.byteSize_cons, oneByte, inductionHypothesis later,
        List.length_cons, Nat.add_comm]

theorem blankedLine_of_isBlankLine (blank : IsBlankLine line) :
    blankedLine line = line := by
  have unchanged :
      line.map (fun c => if isLineEnding c then c else ' ') = line := by
    rw [List.map_congr_left (g := id), List.map_id]
    intro c member
    rw [id]
    by_cases ending : isLineEnding c = true
    · rw [if_pos ending]
    · rw [if_neg ending]
      exact ((blank c member).resolve_right ending).symm
  rw [blankedLine, unchanged, blank.byteSize_eq, Nat.sub_self,
    List.replicate_zero, List.append_nil]

theorem blankInactive_of_areSettled (settled : AreSettled groups lines) :
    blankInactive groups lines = lines := by
  induction lines generalizing groups with
  | nil =>
      rfl
  | cons line others inductionHypothesis =>
      obtain ⟨here, later⟩ := settled
      have shown : shownLine groups line = line := by
        unfold shownLine
        split
        · rename_i blanked
          exact blankedLine_of_isBlankLine (here blanked)
        · rfl
      rw [blankInactive_cons, shown, inductionHypothesis later]

/-! ## Carried spaces -/

/-- No line opens, switches or closes a group without a number sign. -/
theorem ofLine?_eq_none_of_not_mem (noSign : '#' ∉ line) :
    Directive.ofLine? line = none := by
  by_contra found
  obtain ⟨directive, isDirective⟩ := Option.ne_none_iff_exists'.1 found
  obtain ⟨word, _, written, rfl⟩ := exists_directiveLine isDirective
  apply noSign
  simp [DirectiveLine.text]

theorem IsBlankLine.ofLine?_eq_none (blank : IsBlankLine line) :
    Directive.ofLine? line = none := by
  apply ofLine?_eq_none_of_not_mem
  intro member
  have sign := blank '#' member
  revert sign
  decide

/-- A directive may be indented. -/
theorem ofLine?_behind_spaces (count : Nat) (line : List Char) :
    Directive.ofLine? (List.replicate count ' ' ++ line) =
      Directive.ofLine? line := by
  have blank : ∀ c ∈ List.replicate count ' ', isBlank c = true := by
    intro c member
    rw [List.eq_of_mem_replicate member]
    decide
  rw [Directive.ofLine?, directiveName?, dropBlank_append blank]
  rfl

theorem IsEndedLine.behind_spaces (ended : IsEndedLine line) (count : Nat) :
    IsEndedLine (List.replicate count ' ' ++ line) := by
  obtain ⟨body, rfl, oneLine⟩ := ended
  refine ⟨List.replicate count ' ' ++ body, ?_, ?_⟩
  · rw [List.append_assoc]
  · rw [List.mem_append, not_or]
    exact ⟨not_mem_spaces count, oneLine⟩

theorem isBlanked_behind_spaces (groups : OpenGroups) (count : Nat)
    (line : List Char) :
    isBlanked groups (List.replicate count ' ' ++ line) =
      isBlanked groups line := by
  rw [isBlanked, isBlanked, ofLine?_behind_spaces]

theorem groupsBehind_behind_spaces (groups : OpenGroups) (count : Nat)
    (line : List Char) :
    groupsBehind groups (List.replicate count ' ' ++ line) =
      groupsBehind groups line := by
  rw [groupsBehind, groupsBehind, ofLine?_behind_spaces]

theorem groupsBehind_of_no_directive
    (noDirective : Directive.ofLine? line = none) (groups : OpenGroups) :
    groupsBehind groups line = groups := by
  rw [groupsBehind, noDirective]

theorem groupsBehind_of_isBlanked (blanked : isBlanked groups line = true) :
    groupsBehind groups line = groups := by
  rw [isBlanked, Bool.and_eq_true, Option.isNone_iff_eq_none] at blanked
  exact groupsBehind_of_no_directive blanked.1 groups

/-- What is shown of a line behind spaces is settled, up to the newline if it
has one, and leaves the groups open that the line does. -/
structure SettlesLike (groups : OpenGroups) (line shown : List Char) :
    Prop where
  settled : isBlanked groups shown = true → IsBlankLine shown
  groups_eq : groupsBehind groups shown = groupsBehind groups line

theorem settlesLike_kept (kept : isBlanked groups line = false)
    (count : Nat) :
    SettlesLike groups line (List.replicate count ' ' ++ line) where
  settled blanked := by
    rw [isBlanked_behind_spaces, kept] at blanked
    cases blanked
  groups_eq := groupsBehind_behind_spaces groups count line

theorem settlesLike_blanked (blanked : isBlanked groups line = true)
    {shown : List Char} (blank : IsBlankLine shown) :
    SettlesLike groups line shown where
  settled _ := blank
  groups_eq := by
    rw [groupsBehind_of_isBlanked blanked,
      groupsBehind_of_no_directive blank.ofLine?_eq_none]

/-- What is shown of an ended line is an ended line and the spaces that are
carried into the next. -/
theorem exists_shownLine_ended (ended : IsEndedLine line)
    (groups : OpenGroups) (count : Nat) :
    ∃ shown carried,
      List.replicate count ' ' ++ shownLine groups line =
        shown ++ List.replicate carried ' ' ∧
      IsEndedLine shown ∧ SettlesLike groups line shown := by
  by_cases blanked : isBlanked groups line = true
  · obtain ⟨body, rfl, oneLine⟩ := ended
    have blanks : IsBlankLine (List.replicate count ' ' ++
        (body.map fun c => if isLineEnding c then c else ' ') ++ ['\n']) := by
      have whole := isBlankLine_blankedLine (body ++ ['\n'])
      rw [blankedLine_ended] at whole
      obtain ⟨inside, behind⟩ := List.forall_mem_append.1 whole
      apply ((isBlankLine_spaces count).append inside).append
      exact List.forall_mem_singleton.2
        (behind '\n' List.mem_cons_self)
    refine ⟨_, excess body, ?_, ⟨_, rfl, ?_⟩,
      settlesLike_blanked blanked blanks⟩
    · rw [shownLine, if_pos blanked, blankedLine_ended]
      simp only [List.append_assoc, List.singleton_append]
    · rw [List.mem_append, not_or]
      exact ⟨not_mem_spaces count, not_mem_blanks oneLine⟩
  · rw [Bool.not_eq_true] at blanked
    refine ⟨_, 0, ?_, ended.behind_spaces count,
      settlesLike_kept blanked count⟩
    rw [shownLine, if_neg (by simp [blanked]), List.replicate_zero,
      List.append_nil]

/-- What is shown of a last line is a last line. -/
theorem shownLine_unended (oneLine : '\n' ∉ last) (groups : OpenGroups)
    (count : Nat) :
    '\n' ∉ List.replicate count ' ' ++ shownLine groups last ∧
      SettlesLike groups last
        (List.replicate count ' ' ++ shownLine groups last) := by
  rw [List.mem_append, not_or]
  by_cases blanked : isBlanked groups last = true
  · rw [shownLine, if_pos blanked]
    refine ⟨⟨not_mem_spaces count, ?_⟩, settlesLike_blanked blanked
      ((isBlankLine_spaces count).append (isBlankLine_blankedLine last))⟩
    rw [blankedLine, List.mem_append, not_or]
    exact ⟨not_mem_blanks oneLine, not_mem_spaces _⟩
  · rw [shownLine, if_neg blanked]
    rw [Bool.not_eq_true] at blanked
    exact ⟨⟨not_mem_spaces count, oneLine⟩, settlesLike_kept blanked count⟩

/-! ## Blanked texts are settled -/

theorem areSettled_singleton (oneLine : '\n' ∉ line)
    (settled : isBlanked groups line = true → IsBlankLine line) :
    AreSettled groups (splitLines line) := by
  by_cases none : line = []
  · rw [none]
    trivial
  · rw [splitLines_of_not_mem oneLine none]
    exact ⟨settled, trivial⟩

theorem flatten_blankInactive_last (oneLine : '\n' ∉ last)
    (groups : OpenGroups) :
    (blankInactive groups (splitLines last)).flatten =
      shownLine groups last := by
  by_cases none : last = []
  · subst none
    unfold shownLine
    split <;> rfl
  · rw [splitLines_of_not_mem oneLine none, blankInactive_cons,
      blankInactive, List.flatten_singleton]

/-- Behind any number of carried spaces, what is shown of some lines and of a
last one is settled.  The induction is on the lines that end with a newline,
since those carry spaces into the next one. -/
theorem areSettled_blankInactive
    (areEnded : ∀ line ∈ lines, IsEndedLine line) (oneLine : '\n' ∉ last)
    (groups : OpenGroups) (count : Nat) :
    AreSettled groups (splitLines (List.replicate count ' ' ++
      (blankInactive groups (lines ++ splitLines last)).flatten)) := by
  induction lines generalizing groups count with
  | nil =>
      obtain ⟨shownOneLine, settles⟩ :=
        shownLine_unended oneLine groups count
      rw [List.nil_append, flatten_blankInactive_last oneLine]
      exact areSettled_singleton shownOneLine settles.settled
  | cons line others inductionHypothesis =>
      obtain ⟨here, later⟩ := List.forall_mem_cons.1 areEnded
      obtain ⟨shown, carried, cut, ended, settles⟩ :=
        exists_shownLine_ended here groups count
      rw [List.cons_append, blankInactive_cons, List.flatten_cons,
        ← List.append_assoc, cut, List.append_assoc,
        splitLines_ended ended]
      refine ⟨settles.settled, ?_⟩
      rw [settles.groups_eq]
      exact inductionHypothesis later _ carried

theorem areSettled_firstBranches (source : String) :
    AreSettled [] (splitLines (firstBranches source).toList) := by
  obtain ⟨lines, last, cut, areEnded, oneLine⟩ :=
    exists_endedLines source.toList
  have settled := areSettled_blankInactive areEnded oneLine [] 0
  rw [← splitLines_flatten areEnded, ← cut, ← toList_firstBranches]
    at settled
  exact settled

theorem firstBranches_of_areSettled {source : String}
    (settled : AreSettled [] (splitLines source.toList)) :
    firstBranches source = source := by
  apply String.toList_injective
  rw [toList_firstBranches, blankInactive_of_areSettled settled,
    flatten_splitLines]

/-- Blanking is idempotent: the blanked text of any source is left as it
is. -/
theorem firstBranches_idempotent (source : String) :
    firstBranches (firstBranches source) = firstBranches source :=
  firstBranches_of_areSettled (areSettled_firstBranches source)

end ClassDiagram.Source
