import ClassDiagram.Proofs.Drawing.DrawnLines
import Mathlib.Data.List.Perm.Basic

/-!
# The order of sources

Whether outlines can be drawn does not depend on their order, since no
declaration is refused for what was drawn before it.  Their trace changes
with the order only in the order of its events.  So the same packages are
drawn, and every package and the loose lines together hold the same lines.
-/

namespace ClassDiagram

/-! ## What is accepted in any order -/

mutual

theorem drawDeclaration_isOk (root : String) (place : Place)
    (sections : Sections) :
    ∀ declaration : Declaration,
      (drawDeclaration root place declaration sections).isOk =
        (drawDeclaration root place declaration []).isOk
  | .scope name members => by
      simp only [drawDeclaration]
      split
      · rfl
      · split
        · rfl
        · rw [drawAll_isOk, drawAll_isOk root _ (openModule _ [])]
  | .type header members => by
      have likeMembers : ∀ start : Sections,
          (drawDeclaration root place (.type header members) start).isOk =
            members.all fun member =>
              (drawDeclaration root { place with insideType := true } member
                []).isOk := by
        intro start
        rw [← drawAll_isOk root _ (addLine place.module (typeLine header)
          start) members, drawDeclaration]
        cases drawAll root { place with insideType := true } members
          (addLine place.module (typeLine header) start) <;> rfl
      rw [likeMembers, likeMembers]
  | .enumeration declared => by
      rw [drawDeclaration, drawDeclaration]
      rfl
  | .method declared => by
      simp only [drawDeclaration]
      split <;> rfl

/-- Declarations are accepted if each of them is. -/
theorem drawAll_isOk (root : String) (place : Place) (sections : Sections) :
    ∀ declarations : List Declaration,
      (drawAll root place declarations sections).isOk =
        declarations.all fun declaration =>
          (drawDeclaration root place declaration []).isOk
  | [] => by
      rw [drawAll]
      rfl
  | first :: others => by
      rw [drawAll, List.all_cons,
        ← drawDeclaration_isOk root place sections first]
      cases drawDeclaration root place first sections with
      | error error =>
          rfl
      | ok drawn =>
          exact drawAll_isOk root place drawn others

end

theorem isOk_iff_exists {ε α : Type} (result : Except ε α) :
    result.isOk = true ↔ ∃ value, result = .ok value := by
  cases result with
  | error error =>
      exact ⟨nofun, nofun⟩
  | ok value =>
      exact ⟨fun _ => ⟨value, rfl⟩, fun _ => rfl⟩

theorem drawOutlines_isOk_perm {outlines reordered : List Outline}
    (same : outlines.Perm reordered) (root : String) :
    (drawOutlines root outlines).isOk =
      (drawOutlines root reordered).isOk := by
  rw [drawOutlines, drawOutlines, drawAll_isOk, drawAll_isOk]
  exact same.flatten.all_eq

theorem renderOutlines_isOk (settings : Settings)
    (outlines : List Outline) :
    (renderOutlines settings outlines).isOk =
      (settings.validate.isOk &&
        (drawOutlines settings.root outlines).isOk) := by
  rw [renderOutlines]
  cases settings.validate with
  | error error =>
      rfl
  | ok _ =>
      cases drawOutlines settings.root outlines <;> rfl

/-! ## Traces in any order -/

namespace Event

/-- The line that is written for this module, or for none. -/
def textFor? (module : Option String) : Event → Option String
  | .opened _ => none
  | .line owner text => if owner = module then some text else none

def opened? : Event → Option String
  | .opened module => some module
  | .line .. => none

end Event

theorem linesOf_eq_filterMap (module : Option String) (events : List Event) :
    linesOf module events = events.filterMap (Event.textFor? module) := by
  fun_induction linesOf module events with
  | case1 =>
      rfl
  | case2 opened rest inductionHypothesis =>
      exact inductionHypothesis
  | case3 text rest inductionHypothesis =>
      rw [inductionHypothesis, List.filterMap_cons_some (b := text)]
      exact if_pos rfl
  | case4 owner text rest other inductionHypothesis =>
      rw [inductionHypothesis, List.filterMap_cons_none]
      exact if_neg other

theorem openings_eq_filterMap (events : List Event) :
    openings events = events.filterMap Event.opened? := by
  fun_induction openings events with
  | case1 =>
      rfl
  | case2 module rest inductionHypothesis =>
      exact congrArg (module :: ·) inductionHypothesis
  | case3 owner text rest inductionHypothesis =>
      exact inductionHypothesis

theorem allEvents_eq_flatMap (root : String) (place : Place)
    (declarations : List Declaration) :
    Declaration.allEvents root place declarations =
      declarations.flatMap (Declaration.events root place) := by
  induction declarations with
  | nil =>
      rfl
  | cons first others inductionHypothesis =>
      rw [Declaration.allEvents, inductionHypothesis, List.flatMap_cons]

theorem trace_perm {outlines reordered : List Outline}
    (same : outlines.Perm reordered) (root : String) :
    (trace root outlines).Perm (trace root reordered) := by
  rw [trace, trace, allEvents_eq_flatMap, allEvents_eq_flatMap]
  exact same.flatten.flatMap_right _

/-! ## What is drawn in any order -/

def packages (drawn : Sections) : List String :=
  drawn.filterMap Section.module

/-- The lines of a package, or the lines that belong to no package. -/
def linesIn (module : Option String) (drawn : Sections) : List String :=
  (drawn.filter fun part => part.module == module).flatMap Section.lines

/-- The same packages are drawn, each once, and each holds the same lines, as
do the loose lines together. -/
structure SameContent (drawn redrawn : Sections) : Prop where
  packages_perm : (packages drawn).Perm (packages redrawn)
  packages_distinct : (packages drawn).Nodup
  lines_perm : ∀ module : Option String,
    (linesIn module drawn).Perm (linesIn module redrawn)

theorem packages_toSection (events : List Event) (blocks : List Block) :
    packages (blocks.map (Block.toSection events)) =
      blocks.filterMap Block.module? := by
  rw [packages, List.filterMap_map]
  refine List.filterMap_congr fun block _ => ?_
  cases block <;> rfl

theorem linesIn_none_toSection (events : List Event) (blocks : List Block) :
    linesIn none (blocks.map (Block.toSection events)) =
      blocks.flatMap Block.looseLines := by
  induction blocks with
  | nil =>
      rfl
  | cons block others inductionHypothesis =>
      cases block with
      | package module =>
          exact inductionHypothesis
      | loose lines =>
          exact congrArg (lines ++ ·) inductionHypothesis

theorem linesIn_some_toSection (module : String) (events : List Event)
    {blocks : List Block} (distinct : (blocks.filterMap Block.module?).Nodup) :
    linesIn (some module) (blocks.map (Block.toSection events)) =
      if module ∈ blocks.filterMap Block.module? then
        linesOf (some module) events
      else [] := by
  induction blocks with
  | nil =>
      rfl
  | cons block others inductionHypothesis =>
      cases block with
      | loose lines =>
          exact inductionHypothesis distinct
      | package name =>
          have isPackage : (Block.package name).module? = some name := rfl
          rw [List.filterMap_cons_some isPackage] at distinct ⊢
          obtain ⟨absent, othersDistinct⟩ := List.nodup_cons.1 distinct
          have later := inductionHypothesis othersDistinct
          by_cases same : name = module
          · subst same
            rw [if_neg absent] at later
            rw [if_pos List.mem_cons_self, linesIn, List.map_cons,
              List.filter_cons_of_pos (by simp [Block.toSection]),
              List.flatMap_cons]
            exact (congrArg _ later).trans (List.append_nil _)
          · rw [linesIn, List.map_cons,
              List.filter_cons_of_neg (by simpa [Block.toSection] using same)]
            refine later.trans ?_
            simp only [List.mem_cons, Ne.symm same, false_or]

section

variable {root : String} {outlines : List Outline} {drawn : Sections}

theorem packages_drawn (accepted : drawOutlines root outlines = .ok drawn) :
    packages drawn = (openings (trace root outlines)).eraseDups := by
  rw [drawOutlines_eq_layout accepted, packages_toSection, layout,
    filterMap_module_layoutFrom]
  simp

theorem nodup_packages (accepted : drawOutlines root outlines = .ok drawn) :
    (packages drawn).Nodup := by
  rw [drawOutlines_eq_layout accepted, packages_toSection]
  exact nodup_modules_layoutFrom [] [] _

theorem linesIn_drawn (accepted : drawOutlines root outlines = .ok drawn)
    (module : Option String) :
    linesIn module drawn = linesOf module (trace root outlines) := by
  rw [drawOutlines_eq_layout accepted]
  cases module with
  | none =>
      rw [linesIn_none_toSection, layout, flatMap_looseLines_layoutFrom,
        List.nil_append]
  | some module =>
      rw [layout,
        linesIn_some_toSection module _ (nodup_modules_layoutFrom [] [] _)]
      split
      · rfl
      · rename_i noPackage
        rw [linesOf_eq_filterMap, eq_comm, List.filterMap_eq_nil_iff]
        intro event member
        cases event with
        | opened opened =>
            rfl
        | line owner text =>
            refine if_neg fun isOwner => noPackage ?_
            rw [isOwner] at member
            have package := (package_mem_layoutFrom []
              (openedBefore_trace root outlines) member).resolve_left
                List.not_mem_nil
            exact List.mem_filterMap.2 ⟨_, package, rfl⟩

end

theorem sameContent_of_perm {root : String}
    {outlines reordered : List Outline} {drawn redrawn : Sections}
    (same : outlines.Perm reordered)
    (accepted : drawOutlines root outlines = .ok drawn)
    (reorderedAccepted : drawOutlines root reordered = .ok redrawn) :
    SameContent drawn redrawn where
  packages_perm := by
    refine (List.perm_ext_iff_of_nodup (nodup_packages accepted)
      (nodup_packages reorderedAccepted)).2 fun module => ?_
    rw [packages_drawn accepted, packages_drawn reorderedAccepted,
      List.mem_eraseDups, List.mem_eraseDups, openings_eq_filterMap,
      openings_eq_filterMap]
    exact ((trace_perm same root).filterMap _).mem_iff
  packages_distinct := nodup_packages accepted
  lines_perm module := by
    rw [linesIn_drawn accepted, linesIn_drawn reorderedAccepted,
      linesOf_eq_filterMap, linesOf_eq_filterMap]
    exact (trace_perm same root).filterMap _

/-! ## Documents in any order -/

/-- The order of sources matters to nothing but the layout: outlines have a
document in one order exactly if they have one in any other, and then both
documents have the same header, the same packages, and the same lines in
every package and outside of all. -/
theorem renderOutlines_perm (settings : Settings)
    {outlines reordered : List Outline} (same : outlines.Perm reordered) :
    ((∃ document, renderOutlines settings outlines = .ok document) ↔
        ∃ document, renderOutlines settings reordered = .ok document) ∧
      ∀ document redone : String,
        renderOutlines settings outlines = .ok document →
          renderOutlines settings reordered = .ok redone →
            ∃ drawn redrawn : Sections,
              drawOutlines settings.root outlines = .ok drawn ∧
              drawOutlines settings.root reordered = .ok redrawn ∧
              document = linesText [startMarker] ++ headerText settings ++
                linesText (drawn.flatMap (sectionLines settings)) ++
                linesText [endMarker] ∧
              redone = linesText [startMarker] ++ headerText settings ++
                linesText (redrawn.flatMap (sectionLines settings)) ++
                linesText [endMarker] ∧
              SameContent drawn redrawn := by
  constructor
  · rw [← isOk_iff_exists, ← isOk_iff_exists, renderOutlines_isOk,
      renderOutlines_isOk, drawOutlines_isOk_perm same]
  · intro document redone rendered reorderedRendered
    obtain ⟨drawn, _, accepted, documentEq⟩ :=
      exists_of_renderOutlines rendered
    obtain ⟨redrawn, _, reorderedAccepted, redoneEq⟩ :=
      exists_of_renderOutlines reorderedRendered
    exact ⟨drawn, redrawn, accepted, reorderedAccepted, documentEq, redoneEq,
      sameContent_of_perm same accepted reorderedAccepted⟩

def leadingOutline : Outline :=
  [.enumeration ⟨"First", [], ["X"]⟩,
    .scope "R.A" [.enumeration ⟨"E", [], []⟩]]

def trailingOutline : Outline :=
  [.scope "R.B" [.type ⟨.structWord, "S", none, []⟩
      [.method ⟨"M", "int", [⟨"x", "T"⟩], [.publicWord]⟩]],
    .scope "R.A" [.enumeration ⟨"F", [], []⟩],
    .enumeration ⟨"Last", [], []⟩]

theorem leadingOutline_trailingOutline_swapped :
    [leadingOutline, trailingOutline].Perm
        [trailingOutline, leadingOutline] ∧
      renderOutlines { root := "R" } [leadingOutline, trailingOutline] ≠
        renderOutlines { root := "R" } [trailingOutline, leadingOutline] ∧
      ∃ drawn redrawn : Sections,
        drawOutlines "R" [leadingOutline, trailingOutline] = .ok drawn ∧
        drawOutlines "R" [trailingOutline, leadingOutline] = .ok redrawn ∧
        SameContent drawn redrawn := by
  have same : [leadingOutline, trailingOutline].Perm
      [trailingOutline, leadingOutline] :=
    .swap _ _ _
  have accepted : (renderOutlines { root := "R" }
      [leadingOutline, trailingOutline]).isOk = true := by
    decide +kernel
  obtain ⟨document, rendered⟩ := (isOk_iff_exists _).1 accepted
  obtain ⟨alike, content⟩ := renderOutlines_perm { root := "R" } same
  obtain ⟨redone, reorderedRendered⟩ := alike.1 ⟨document, rendered⟩
  obtain ⟨drawn, redrawn, drawnEq, redrawnEq, _, _, sameContent⟩ :=
    content document redone rendered reorderedRendered
  exact ⟨same, by decide +kernel, drawn, redrawn, drawnEq, redrawnEq,
    sameContent⟩

end ClassDiagram
