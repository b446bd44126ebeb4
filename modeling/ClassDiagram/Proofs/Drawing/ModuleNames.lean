import ClassDiagram.Diagram.ModuleName
import ClassDiagram.Proofs.Text.BrokenLines

/-!
# Modules by segments

A root is looked for among the characters of a name, at the places where a
segment begins.  This is the same as looking for the segments of the root
among the segments of the name: part of a segment never counts, the first
occurrence does, and the module is made of the segments behind it.

A name that is continued keeps the first occurrence of the root, so its
module is continued in the same way.
-/

namespace ClassDiagram

open Text (dotSegments)

/-! ## Texts and their segments -/

namespace Text

variable {mark : Char}

theorem intercalate_append (mark : Char) {front : List (List Char)}
    (something : front ≠ []) (next : List Char)
    (further : List (List Char)) :
    [mark].intercalate (front ++ next :: further) =
      [mark].intercalate front ++
        mark :: [mark].intercalate (next :: further) := by
  induction front with
  | nil =>
      exact absurd rfl something
  | cons first others inductionHypothesis =>
      cases others with
      | nil =>
          rw [List.singleton_append, List.intercalate_cons_cons,
            List.intercalate_singleton, List.append_assoc,
            List.singleton_append]
      | cons second rest =>
          have later := inductionHypothesis (List.cons_ne_nil second rest)
          rw [List.cons_append] at later
          rw [List.cons_append, List.cons_append,
            List.intercalate_cons_cons, later, List.intercalate_cons_cons,
            ← List.append_assoc]

/-- A text is put together from its segments. -/
theorem intercalate_segments (mark : Char) (text : List Char) :
    [mark].intercalate (segments mark text) = text := by
  induction text with
  | nil =>
      rfl
  | cons c rest inductionHypothesis =>
      obtain ⟨first, others, cut⟩ :=
        List.exists_cons_of_ne_nil (segments_ne_nil mark rest)
      by_cases isMark : c = mark
      · subst isMark
        rw [segments_mark, cut, List.intercalate_cons_cons, ← cut,
          inductionHypothesis]
        rfl
      · rw [segments_of_ne isMark rest first others cut]
        rw [cut] at inductionHypothesis
        cases others with
        | nil =>
            rw [List.intercalate_singleton] at inductionHypothesis ⊢
            rw [inductionHypothesis]
        | cons next further =>
            rw [List.intercalate_cons_cons] at inductionHypothesis ⊢
            rw [List.cons_append, List.cons_append, inductionHypothesis]

/-- Texts with the same segments are the same. -/
theorem segments_inj {left right : List Char} :
    segments mark left = segments mark right ↔ left = right := by
  refine ⟨fun same => ?_, congrArg (segments mark)⟩
  rw [← intercalate_segments mark left, same, intercalate_segments]

/-- The segments of a text begin with those of another one if that text
begins it and is followed by a mark or by nothing. -/
theorem segments_eq_append_iff {left text : List Char}
    {behind : List (List Char)} :
    segments mark text = segments mark left ++ behind ↔
      (behind = [] ∧ text = left) ∨
        ∃ right, behind = segments mark right ∧
          text = left ++ mark :: right := by
  constructor
  · intro split
    cases behind with
    | nil =>
        rw [List.append_nil, segments_inj] at split
        exact .inl ⟨rfl, split⟩
    | cons next further =>
        have textEq : text =
            left ++ mark :: [mark].intercalate (next :: further) := by
          rw [← intercalate_segments mark text, split,
            intercalate_append mark (segments_ne_nil mark left),
            intercalate_segments]
        refine .inr ⟨_, ?_, textEq⟩
        rw [textEq, segments_append_mark] at split
        exact (List.append_cancel_left split).symm
  · rintro (⟨rfl, rfl⟩ | ⟨right, rfl, rfl⟩)
    · rw [List.append_nil]
    · exact segments_append_mark mark left right

/-- A first segment is followed by a mark or by nothing. -/
theorem exists_of_segments_eq_cons {text first : List Char}
    {others : List (List Char)}
    (cut : segments mark text = first :: others) :
    mark ∉ first ∧ ((others = [] ∧ text = first) ∨
      ∃ rest, others = segments mark rest ∧ text = first ++ mark :: rest) := by
  have oneSegment : mark ∉ first := by
    induction text generalizing first others with
    | nil =>
        obtain ⟨rfl, -⟩ := List.cons.inj cut
        exact List.not_mem_nil
    | cons c rest inductionHypothesis =>
        by_cases isMark : c = mark
        · subst isMark
          rw [segments_mark] at cut
          obtain ⟨rfl, -⟩ := List.cons.inj cut
          exact List.not_mem_nil
        · obtain ⟨front, further, wholeCut, restCut⟩ :=
            segments_cons isMark rest
          rw [wholeCut] at cut
          obtain ⟨rfl, -⟩ := List.cons.inj cut
          rw [List.mem_cons, not_or]
          exact ⟨Ne.symm isMark, inductionHypothesis restCut⟩
  refine ⟨oneSegment, segments_eq_append_iff.1 ?_⟩
  rw [cut, segments_of_not_mem oneSegment, List.singleton_append]

end Text

/-! ## Runs of segments -/

/-- A run stands among some segments behind others, and nowhere earlier. -/
structure IsFirstRun (run segments front behind : List (List Char)) :
    Prop where
  split : segments = front ++ (run ++ behind)
  first : ∀ before after, segments = before ++ (run ++ after) →
    front.length ≤ before.length

namespace IsFirstRun

variable {run segments front behind : List (List Char)}

/-- A run at the beginning is the first one. -/
theorem here (run behind : List (List Char)) :
    IsFirstRun run (run ++ behind) [] behind :=
  ⟨rfl, fun _ _ _ => Nat.zero_le _⟩

/-- A segment in front belongs to no first run unless one begins with it. -/
theorem cons_iff {first : List Char} :
    IsFirstRun run (first :: segments) (first :: front) behind ↔
      ¬ run <+: first :: segments ∧
        IsFirstRun run segments front behind := by
  constructor
  · intro isFirst
    refine ⟨?_, (List.cons.inj isFirst.split).2, fun before after split => ?_⟩
    · rintro ⟨after, split⟩
      exact absurd (isFirst.first [] after split.symm) (Nat.not_succ_le_zero _)
    · exact Nat.le_of_succ_le_succ
        (isFirst.first (first :: before) after (congrArg (first :: ·) split))
  · rintro ⟨notHere, isFirst⟩
    refine ⟨congrArg (first :: ·) isFirst.split, fun before after split => ?_⟩
    cases before with
    | nil =>
        exact absurd ⟨after, split.symm⟩ notHere
    | cons other others =>
        exact Nat.succ_le_succ
          (isFirst.first others after (List.cons.inj split).2)

/-- Some first run exists if there is a run at all. -/
theorem exists_of_occurs (occurs : run <:+: segments) :
    ∃ front behind, IsFirstRun run segments front behind := by
  induction segments with
  | nil =>
      obtain rfl := List.infix_nil.1 occurs
      exact ⟨[], [], here [] []⟩
  | cons first others inductionHypothesis =>
      by_cases atStart : run <+: first :: others
      · obtain ⟨behind, split⟩ := atStart
        exact ⟨[], behind, split ▸ here run behind⟩
      · have inOthers := (List.infix_cons_iff.1 occurs).resolve_left atStart
        obtain ⟨front, behind, isFirst⟩ := inductionHypothesis inOthers
        exact ⟨first :: front, behind, cons_iff.2 ⟨atStart, isFirst⟩⟩

/-- Segments behind a first run that is not at the end make no earlier run. -/
theorem append (isFirst : IsFirstRun run segments front behind)
    (notAtEnd : behind ≠ []) (further : List (List Char)) :
    IsFirstRun run (segments ++ further) front (behind ++ further) := by
  refine ⟨by rw [isFirst.split]; simp, fun before after split => ?_⟩
  by_contra earlier
  have position := congrArg List.length isFirst.split
  have something := List.length_pos_of_ne_nil notAtEnd
  simp only [List.length_append] at position
  have earlierRun : before ++ run <+: segments ++ further :=
    ⟨after, by rw [split, List.append_assoc]⟩
  have inside : before ++ run <+: segments := by
    refine List.prefix_of_prefix_length_le earlierRun
      (List.prefix_append segments further) ?_
    rw [List.length_append]
    omega
  obtain ⟨rest, restEq⟩ := inside
  exact earlier (isFirst.first before rest (by rw [← restEq]; simp))

end IsFirstRun

/-! ## The search -/

namespace RootSearch

/-- The outcome of a search, given the segments behind the root. -/
def ofBehind : List (List Char) → RootSearch
  | [] => .atEnd
  | next :: further => .followedBy (['.'].intercalate (next :: further))

theorem ofBehind_segments (text : List Char) :
    ofBehind (Text.segments '.' text) = .followedBy text := by
  obtain ⟨first, others, cut⟩ :=
    List.exists_cons_of_ne_nil (Text.segments_ne_nil '.' text)
  rw [cut, ofBehind, ← cut, Text.intercalate_segments]

variable {root : List Char}

/-- A root is found where its segments begin the rest of the name. -/
theorem here?_of_segments {text : List Char} {behind : List (List Char)}
    (split : Text.segments '.' text = Text.segments '.' root ++ behind) :
    here? root text = some (ofBehind behind) := by
  rcases Text.segments_eq_append_iff.1 split with
    ⟨rfl, rfl⟩ | ⟨right, rfl, rfl⟩
  · have whole : text.isPrefixOf? text = some [] :=
      List.isPrefixOf?_eq_some_iff_append_eq.2 (List.append_nil text)
    rw [here?, whole]
    rfl
  · have front : root.isPrefixOf? (root ++ '.' :: right) =
        some ('.' :: right) :=
      List.isPrefixOf?_eq_some_iff_append_eq.2 rfl
    rw [here?, front, ofBehind_segments]
    rfl

theorem here?_eq_none {text : List Char}
    (apart : ¬ Text.segments '.' root <+: Text.segments '.' text) :
    here? root text = none := by
  rw [here?]
  split
  · rename_i whole
    rw [List.isPrefixOf?_eq_some_iff_append_eq, List.append_nil] at whole
    exact absurd (whole ▸ List.prefix_refl _) apart
  · rename_i right front
    rw [List.isPrefixOf?_eq_some_iff_append_eq] at front
    rw [← front, Text.segments_append_mark] at apart
    exact absurd (List.prefix_append _ _) apart
  · rfl

/-- Inside a segment the search goes on to its end. -/
theorem search_inside {segment : List Char} (oneSegment : '.' ∉ segment)
    (rest : List Char) :
    search root false (segment ++ '.' :: rest) = search root true rest := by
  induction segment with
  | nil =>
      rw [List.nil_append, search]
      rfl
  | cons c others inductionHypothesis =>
      rw [List.mem_cons, not_or] at oneSegment
      have noDot : (c == '.') = false :=
        beq_eq_false_iff_ne.2 (Ne.symm oneSegment.1)
      rw [List.cons_append, search, noDot]
      exact inductionHypothesis oneSegment.2

theorem search_last {segment : List Char} (oneSegment : '.' ∉ segment) :
    search root false segment = .missing := by
  induction segment with
  | nil =>
      rw [search]
  | cons c others inductionHypothesis =>
      rw [List.mem_cons, not_or] at oneSegment
      have noDot : (c == '.') = false :=
        beq_eq_false_iff_ne.2 (Ne.symm oneSegment.1)
      rw [search, noDot]
      exact inductionHypothesis oneSegment.2

/-- A root that does not begin here is looked for behind the next dot. -/
theorem search_next {segment rest : List Char} (oneSegment : '.' ∉ segment)
    (notHere : here? root (segment ++ '.' :: rest) = none) :
    search root true (segment ++ '.' :: rest) = search root true rest := by
  cases segment with
  | nil =>
      rw [List.nil_append] at notHere ⊢
      rw [search, if_pos rfl, notHere]
      rfl
  | cons c others =>
      rw [List.mem_cons, not_or] at oneSegment
      have noDot : (c == '.') = false :=
        beq_eq_false_iff_ne.2 (Ne.symm oneSegment.1)
      rw [List.cons_append] at notHere ⊢
      rw [search, if_pos rfl, notHere, noDot]
      exact search_inside oneSegment.2 rest

/-- A root that does not begin the last segment does not occur. -/
theorem search_end {segment : List Char} (oneSegment : '.' ∉ segment)
    (notHere : here? root segment = none) :
    search root true segment = .missing := by
  cases segment with
  | nil =>
      rw [search]
  | cons c others =>
      rw [List.mem_cons, not_or] at oneSegment
      have noDot : (c == '.') = false :=
        beq_eq_false_iff_ne.2 (Ne.symm oneSegment.1)
      rw [search, if_pos rfl, notHere, noDot]
      exact search_last oneSegment.2

/-- The search finds the first run of the root's segments. -/
theorem search_of_isFirstRun {text : List Char}
    {front behind : List (List Char)} (something : root ≠ [])
    (isFirst : IsFirstRun (Text.segments '.' root)
      (Text.segments '.' text) front behind) :
    search root true text = ofBehind behind := by
  induction front generalizing text with
  | nil =>
      have found := here?_of_segments isFirst.split
      cases text with
      | nil =>
          obtain ⟨first, others, cut⟩ := List.exists_cons_of_ne_nil something
          rw [cut] at found
          cases found
      | cons c rest =>
          rw [search, if_pos rfl, found]
  | cons first others inductionHypothesis =>
      have cut := isFirst.split
      rw [List.cons_append] at cut
      obtain ⟨oneSegment, ⟨nothing, -⟩ | ⟨rest, restCut, rfl⟩⟩ :=
        Text.exists_of_segments_eq_cons cut
      · exact absurd
          (List.append_eq_nil_iff.1 (List.append_eq_nil_iff.1 nothing).2).1
          (Text.segments_ne_nil '.' root)
      · rw [cut, restCut, IsFirstRun.cons_iff] at isFirst
        rw [← restCut, ← cut] at isFirst
        rw [search_next oneSegment (here?_eq_none isFirst.1)]
        exact inductionHypothesis (restCut ▸ isFirst.2)

/-- Without a run of the root's segments the search fails. -/
theorem search_of_no_run {text : List Char}
    (apart : ¬ Text.segments '.' root <:+: Text.segments '.' text) :
    search root true text = .missing := by
  generalize cut : Text.segments '.' text = names at apart
  induction names generalizing text with
  | nil =>
      exact absurd cut (Text.segments_ne_nil '.' text)
  | cons first others inductionHypothesis =>
      rw [List.infix_cons_iff, not_or] at apart
      have notHere : here? root text = none :=
        here?_eq_none (cut ▸ apart.1)
      obtain ⟨oneSegment, ⟨-, rfl⟩ | ⟨rest, restCut, rfl⟩⟩ :=
        Text.exists_of_segments_eq_cons cut
      · exact search_end oneSegment notHere
      · rw [search_next oneSegment notHere]
        exact inductionHypothesis restCut.symm apart.2

end RootSearch

/-! ## The module of a name -/

variable {root name : String}

theorem moduleName_of_ne_empty (something : root ≠ "") :
    moduleName root name =
      match RootSearch.search root.toList true name.toList with
      | .missing => .error (.outsideRoot name root)
      | .atEnd => .error (.rootItself name)
      | .followedBy module => .ok (String.ofList module) := by
  have notEmpty : root.isEmpty = false := by
    rw [Bool.eq_false_iff]
    exact fun empty => something (String.isEmpty_iff.1 empty)
  rw [moduleName, notEmpty]
  exact if_neg Bool.false_ne_true

theorem moduleName_of_isFirstRun (something : root ≠ "")
    {front behind : List (List Char)}
    (isFirst : IsFirstRun (dotSegments root.toList)
      (dotSegments name.toList) front behind) :
    moduleName root name =
      if behind = [] then
        .error (.rootItself name)
      else
        .ok (String.ofList (['.'].intercalate behind)) := by
  have rootCharacters : root.toList ≠ [] := by simpa using something
  rw [moduleName_of_ne_empty something,
    RootSearch.search_of_isFirstRun rootCharacters isFirst]
  cases behind <;> rfl

theorem moduleName_of_no_run (something : root ≠ "")
    (apart : ¬ dotSegments root.toList <:+: dotSegments name.toList) :
    moduleName root name = .error (.outsideRoot name root) := by
  rw [moduleName_of_ne_empty something,
    RootSearch.search_of_no_run apart]

/-- A name that goes on has a module that goes on in the same way. -/
theorem moduleName_continued {module : String}
    (derived : moduleName root name = .ok module) (further : String) :
    moduleName root (name ++ "." ++ further) =
      .ok (module ++ "." ++ further) := by
  by_cases something : root = ""
  · subst something
    cases derived
    rfl
  · by_cases occurs : dotSegments root.toList <:+: dotSegments name.toList
    · obtain ⟨front, behind, isFirst⟩ := IsFirstRun.exists_of_occurs occurs
      rw [moduleName_of_isFirstRun something isFirst] at derived
      split at derived
      · cases derived
      · rename_i notAtEnd
        cases derived
        have nameCut : dotSegments (name ++ "." ++ further).toList =
            dotSegments name.toList ++ dotSegments further.toList := by
          rw [dotSegments, dotSegments, dotSegments,
            ← Text.segments_append_mark]
          simp
        have goesOn := isFirst.append notAtEnd (dotSegments further.toList)
        rw [← nameCut] at goesOn
        obtain ⟨next, others, furtherCut⟩ := List.exists_cons_of_ne_nil
          (Text.segments_ne_nil '.' further.toList)
        have joined : ['.'].intercalate
            (behind ++ dotSegments further.toList) =
              ['.'].intercalate behind ++ '.' :: further.toList := by
          rw [dotSegments, furtherCut, Text.intercalate_append '.' notAtEnd,
            ← furtherCut, Text.intercalate_segments]
        rw [moduleName_of_isFirstRun something goesOn, if_neg (by
          simp [notAtEnd]), joined]
        simp [String.ext_iff]
    · rw [moduleName_of_no_run something occurs] at derived
      cases derived

/-- The module of a name under a root is what stands behind the first run of
the root's segments; a name without such a run is outside the root, and one
that ends with it is the root itself.  A name that goes on has a module that
goes on in the same way. -/
theorem moduleName_by_segments (something : root ≠ "") :
    (dotSegments root.toList <:+: dotSegments name.toList →
      ∃ front behind,
        IsFirstRun (dotSegments root.toList) (dotSegments name.toList)
          front behind ∧
        moduleName root name =
          if behind = [] then
            .error (.rootItself name)
          else
            .ok (String.ofList (['.'].intercalate behind))) ∧
    (¬ dotSegments root.toList <:+: dotSegments name.toList →
      moduleName root name = .error (.outsideRoot name root)) ∧
    ∀ module further, moduleName root name = .ok module →
      moduleName root (name ++ "." ++ further) =
        .ok (module ++ "." ++ further) := by
  refine ⟨fun occurs => ?_, moduleName_of_no_run something,
    fun _ further derived => moduleName_continued derived further⟩
  obtain ⟨front, behind, isFirst⟩ := IsFirstRun.exists_of_occurs occurs
  exact ⟨front, behind, isFirst, moduleName_of_isFirstRun something isFirst⟩

/-- A segment that only begins with the root's, and two runs of the root that
share a segment: the first run counts. -/
theorem repeatedRoot_first_run :
    "A.A" ≠ "" ∧
      (∃ front behind, IsFirstRun (dotSegments "A.A".toList)
        (dotSegments "X.A.AA.A.A.A.é".toList) front behind) ∧
      moduleName "A.A" "X.A.AA.A.A.A.é" = .ok "A.é" ∧
      moduleName "A.A" "X.A.AA.A.A.A.é..x" = .ok "A.é..x" := by
  have something : "A.A" ≠ "" := by decide
  have derived : moduleName "A.A" "X.A.AA.A.A.A.é" = .ok "A.é" := by
    decide +kernel
  obtain ⟨found, -, goesOn⟩ :=
    @moduleName_by_segments "A.A" "X.A.AA.A.A.A.é" something
  have occurs : dotSegments "A.A".toList <:+:
      dotSegments "X.A.AA.A.A.A.é".toList := by
    decide +kernel
  obtain ⟨front, behind, isFirst, -⟩ := found occurs
  exact ⟨something, ⟨front, behind, isFirst⟩, derived,
    goesOn "A.é" ".x" derived⟩

end ClassDiagram
