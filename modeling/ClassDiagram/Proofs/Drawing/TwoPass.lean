import ClassDiagram.Proofs.Drawing.Trace
import Mathlib.Data.List.Chain

/-!
# Documents in two passes

A document is made while the declarations are visited once, with sections
that grow wherever a line belongs.  It is the document that two passes over
the trace make: the first finds where every module is opened first and which
loose lines lie between two such places, the second collects the lines of
each module from the whole trace.
-/

namespace ClassDiagram

/-- The lines written for a module, or for none, in the order of a trace. -/
def linesOf (module : Option String) : List Event → List String
  | [] => []
  | .opened _ :: rest => linesOf module rest
  | .line owner text :: rest =>
      if owner = module then text :: linesOf module rest
      else linesOf module rest

/-- The modules of a trace in the order in which they are opened, as often as
they are. -/
def openings : List Event → List String
  | [] => []
  | .opened module :: rest => module :: openings rest
  | .line .. :: rest => openings rest

/-- A part of a document: the package of a module, or a run of lines that
belong to no module. -/
inductive Block where
  | package (module : String)
  | loose (lines : List String)
  deriving DecidableEq, Repr

namespace Block

def module? : Block → Option String
  | .package module => some module
  | .loose _ => none

def looseLines : Block → List String
  | .package _ => []
  | .loose lines => lines

end Block

/-- A run of loose lines, if there is one. -/
def looseBlock : List String → List Block
  | [] => []
  | line :: others => [.loose (line :: others)]

/-- The first pass.  Every module that is not known yet has its package where
it is opened, behind the loose lines since the package before. -/
def layoutFrom (known run : List String) : List Event → List Block
  | [] => looseBlock run
  | .opened module :: rest =>
      if module ∈ known then
        layoutFrom known run rest
      else
        looseBlock run ++
          .package module :: layoutFrom (module :: known) [] rest
  | .line none text :: rest => layoutFrom known (run ++ [text]) rest
  | .line (some _) _ :: rest => layoutFrom known run rest

/-- The parts of the document of a trace. -/
def layout (events : List Event) : List Block :=
  layoutFrom [] [] events

/-- The second pass: the lines of a part, those of a package collected from
the whole trace. -/
def Block.lines (settings : Settings) (events : List Event) :
    Block → List String
  | .package module =>
      packageDecoration settings module ++
        ("package " ++ module ++ " \x7b") ::
          (linesOf (some module) events ++ [closingLine])
  | .loose lines => lines

def twoPassText (settings : Settings) (events : List Event) : String :=
  linesText [startMarker] ++ headerText settings ++
    linesText ((layout events).flatMap (Block.lines settings events)) ++
    linesText [endMarker]

/-! ## The sections are the parts of the layout -/

/-- The section of a run of loose lines, if there is one. -/
def looseSection : List String → Sections
  | [] => []
  | line :: others => [⟨none, line :: others⟩]

/-- The section that a part of the layout becomes, given what is left of the
trace. -/
def Block.toSection (events : List Event) : Block → Section
  | .package module => ⟨some module, linesOf (some module) events⟩
  | .loose lines => ⟨none, lines⟩

/-- A section with the lines that the rest of a trace adds to its module. -/
def Section.extended (events : List Event) (drawn : Section) : Section :=
  match drawn.module with
  | some module => ⟨some module, drawn.lines ++ linesOf (some module) events⟩
  | none => drawn

/-- The sections end with a package, so a loose line begins a new run. -/
def EndsWithPackage (sections : Sections) : Prop :=
  ∀ drawn ∈ sections.getLast?, drawn.module.isSome = true

theorem map_toSection_looseBlock (events : List Event) (run : List String) :
    (looseBlock run).map (Block.toSection events) = looseSection run := by
  cases run <;> rfl

theorem map_extended_looseSection (events : List Event)
    (run : List String) :
    (looseSection run).map (Section.extended events) = looseSection run := by
  cases run <;> rfl

theorem map_extended_nil (sections : Sections) :
    sections.map (Section.extended []) = sections := by
  refine (List.map_congr_left ?_).trans (List.map_id sections)
  rintro ⟨module, lines⟩ _
  cases module <;> simp [Section.extended, linesOf]

theorem addLooseLine_append {sections : Sections}
    (ending : EndsWithPackage sections) (run : List String)
    (text : String) :
    addLooseLine text (sections ++ looseSection run) =
      sections ++ looseSection (run ++ [text]) := by
  induction sections with
  | nil =>
      cases run <;> rfl
  | cons first others inductionHypothesis =>
      cases others with
      | nil =>
          have package : first.module.isNone = false := by
            rw [← Option.not_isSome, ending first rfl]
            rfl
          cases run with
          | nil =>
              simp only [looseSection, addLooseLine, List.append_nil,
                List.nil_append, package]
              rfl
          | cons line lines =>
              rfl
      | cons second rest =>
          have step : EndsWithPackage (second :: rest) := ending
          have skipped : addLooseLine text
              (first :: ((second :: rest) ++ looseSection run)) =
                first :: addLooseLine text
                  ((second :: rest) ++ looseSection run) := rfl
          rw [List.cons_append, skipped, inductionHypothesis step]
          rfl

theorem map_extended_addModuleLine (sections : Sections)
    (module text : String) (rest : List Event) :
    (addModuleLine module text sections).map (Section.extended rest) =
      sections.map
        (Section.extended (.line (some module) text :: rest)) := by
  rw [addModuleLine, List.map_map]
  refine List.map_congr_left ?_
  rintro ⟨owner, lines⟩ _
  cases owner with
  | none =>
      simp [Section.extended]
  | some name =>
      by_cases same : name = module
      · subst same
        simp [Section.extended, linesOf]
      · have other : ¬ module = name := fun equal => same equal.symm
        simp [Section.extended, linesOf, same, other]

theorem addModuleLine_looseSection (module text : String)
    (run : List String) :
    addModuleLine module text (looseSection run) = looseSection run := by
  cases run <;> rfl

/-- A package of the rest of a layout is of no module known before. -/
theorem not_mem_known_of_package_mem {known run : List String}
    {module : String} {events : List Event}
    (member : Block.package module ∈ layoutFrom known run events) :
    module ∉ known := by
  induction events generalizing known run with
  | nil =>
      cases run <;> simp [layoutFrom, looseBlock] at member
  | cons event rest inductionHypothesis =>
      cases event with
      | opened opened =>
          rw [layoutFrom] at member
          split at member
          · exact inductionHypothesis member
          · rename_i new
            rcases List.mem_append.1 member with inRun | behind
            · cases run <;> simp [looseBlock] at inRun
            · rcases List.mem_cons.1 behind with same | later
              · cases same
                exact new
              · intro isKnown
                exact inductionHypothesis later
                  (List.mem_cons_of_mem opened isKnown)
      | line owner text =>
          cases owner <;>
            · rw [layoutFrom] at member
              exact inductionHypothesis member

/-- A line of a known module changes no part of the rest of a layout. -/
theorem map_toSection_layoutFrom_line {known run : List String}
    {module text : String} {rest : List Event} (isKnown : module ∈ known) :
    (layoutFrom known run rest).map
        (Block.toSection (.line (some module) text :: rest)) =
      (layoutFrom known run rest).map (Block.toSection rest) := by
  refine List.map_congr_left ?_
  intro block member
  cases block with
  | loose lines =>
      rfl
  | package opened =>
      have new := not_mem_known_of_package_mem member
      have other : module ≠ opened := fun same => new (same ▸ isKnown)
      simp [Block.toSection, linesOf, other]

/-- The packages drawn so far are those of the known modules, and a loose
line would begin a new run. -/
structure Collected (known : List String) (sections : Sections) : Prop where
  ending : EndsWithPackage sections
  modules : ∀ module, module ∈ known ↔
    ∃ drawn ∈ sections, drawn.module = some module

namespace Collected

variable {known : List String} {sections : Sections}

theorem any_module_iff (collected : Collected known sections)
    (run : List String) (module : String) :
    ((sections ++ looseSection run).any
      fun s => s.module == some module) = true ↔ module ∈ known := by
  rw [collected.modules, List.any_append, Bool.or_eq_true]
  cases run <;> simp [looseSection]

theorem after_opened_known (collected : Collected known sections)
    (run : List String) {module : String} (isKnown : module ∈ known) :
    Sections.after (sections ++ looseSection run) (.opened module) =
      sections ++ looseSection run := by
  have present := (collected.any_module_iff run module).2 isKnown
  simp only [Sections.after, openModule, present, if_true]

theorem after_opened_new (collected : Collected known sections)
    (run : List String) {module : String} (new : module ∉ known) :
    Sections.after (sections ++ looseSection run) (.opened module) =
      sections ++ looseSection run ++ [⟨some module, []⟩] := by
  have absent := mt (collected.any_module_iff run module).1 new
  simp only [Sections.after, openModule, absent, Bool.false_eq_true,
    if_false]

theorem opened (collected : Collected known sections) (run : List String)
    (module : String) :
    Collected (module :: known)
      (sections ++ looseSection run ++ [⟨some module, []⟩]) where
  ending drawn last := by
    rw [List.getLast?_concat] at last
    cases last
    rfl
  modules name := by
    rw [List.mem_cons, collected.modules]
    cases run <;>
      simp [looseSection, or_and_right, exists_or, eq_comm, or_comm]

theorem addModuleLine (collected : Collected known sections)
    (module text : String) :
    Collected known (addModuleLine module text sections) where
  ending drawn last := by
    rw [ClassDiagram.addModuleLine, List.getLast?_map] at last
    obtain ⟨before, beforeLast, rfl⟩ := Option.map_eq_some_iff.1 last
    have package := collected.ending before beforeLast
    split <;> exact package
  modules name := by
    rw [collected.modules]
    constructor
    · rintro ⟨drawn, member, package⟩
      refine ⟨_, List.mem_map.2 ⟨drawn, member, rfl⟩, ?_⟩
      split <;> exact package
    · rintro ⟨changed, member, package⟩
      obtain ⟨drawn, drawnMember, rfl⟩ := List.mem_map.1 member
      refine ⟨drawn, drawnMember, ?_⟩
      split at package <;> exact package

end Collected

/-- What the rest of a trace makes of the sections drawn so far: packages
that are there go on, and the rest of the layout follows. -/
theorem foldl_after_eq {known : List String} (run : List String)
    {sections : Sections} {events : List Event} (collected : Collected known sections)
    (ordered : OpenedBefore known events) :
    events.foldl Sections.after (sections ++ looseSection run) =
      sections.map (Section.extended events) ++
        (layoutFrom known run events).map (Block.toSection events) := by
  induction events generalizing known run sections with
  | nil =>
      rw [List.foldl_nil, map_extended_nil, layoutFrom,
        map_toSection_looseBlock]
  | cons event rest inductionHypothesis =>
      rw [List.foldl_cons]
      cases event with
      | opened module =>
          by_cases isKnown : module ∈ known
          · have orderedRest := OpenedBefore.of_reopened isKnown ordered
            rw [collected.after_opened_known run isKnown,
              inductionHypothesis run collected orderedRest, layoutFrom,
              if_pos isKnown]
            rfl
          · have later := inductionHypothesis []
              (collected.opened run module) ordered
            rw [looseSection, List.append_nil] at later
            rw [collected.after_opened_new run isKnown, later, layoutFrom,
              if_neg isKnown]
            simp only [List.map_append, List.map_cons, List.map_nil,
              map_extended_looseSection, map_toSection_looseBlock,
              List.append_assoc, List.singleton_append]
            rfl
      | line owner text =>
          cases owner with
          | none =>
              have added : Sections.after (sections ++ looseSection run)
                  (.line none text) =
                    sections ++ looseSection (run ++ [text]) :=
                addLooseLine_append collected.ending run text
              rw [added, inductionHypothesis (run ++ [text]) collected ordered,
                layoutFrom]
              rfl
          | some module =>
              obtain ⟨isKnown, orderedRest⟩ := ordered
              have added : Sections.after (sections ++ looseSection run)
                  (.line (some module) text) =
                    addModuleLine module text sections ++
                      looseSection run := by
                change addModuleLine module text _ = _
                rw [addModuleLine, List.map_append]
                exact congrArg _ (addModuleLine_looseSection module text run)
              rw [added,
                inductionHypothesis run
                  (collected.addModuleLine module text) orderedRest,
                map_extended_addModuleLine, layoutFrom,
                map_toSection_layoutFrom_line isKnown]

theorem drawOutlines_eq_layout {root : String} {outlines : List Outline}
    {drawn : Sections} (accepted : drawOutlines root outlines = .ok drawn) :
    drawn =
      (layout (trace root outlines)).map
        (Block.toSection (trace root outlines)) := by
  have folded := drawAll_eq_foldl root {} [] drawn _ accepted
  have nothing : Collected [] [] := ⟨nofun, by simp⟩
  exact folded.trans
    (foldl_after_eq [] nothing (openedBefore_trace root outlines))

/-! ## What the layout holds -/

/-- The packages are the modules in the order in which they are opened
first, each once. -/
theorem filterMap_module_layoutFrom (known run : List String)
    (events : List Event) :
    (layoutFrom known run events).filterMap Block.module? =
      ((openings events).filter fun module => !known.contains module).eraseDups
    := by
  induction events generalizing known run with
  | nil =>
      cases run <;> rfl
  | cons event rest inductionHypothesis =>
      cases event with
      | opened module =>
          rw [layoutFrom, openings]
          split
          · rename_i isKnown
            rw [inductionHypothesis, List.filter_cons_of_neg (by
              simpa using isKnown)]
          · rename_i new
            have runHasNone : (looseBlock run).filterMap Block.module? = [] := by
              cases run <;> rfl
            have package : (Block.package module).module? = some module := rfl
            rw [List.filterMap_append, runHasNone, List.nil_append,
              List.filterMap_cons_some package, inductionHypothesis,
              List.filter_cons_of_pos (by simpa using new),
              List.eraseDups_cons, List.filter_filter]
            congr 3
            funext other
            rw [List.contains_cons, Bool.not_or]
      | line owner text =>
          cases owner <;>
            · rw [layoutFrom, openings]
              exact inductionHypothesis _ _

/-- The loose lines are all there, in the order of the trace. -/
theorem flatMap_looseLines_layoutFrom (known run : List String)
    (events : List Event) :
    (layoutFrom known run events).flatMap Block.looseLines =
      run ++ linesOf none events := by
  have ofRun (lines : List String) :
      (looseBlock lines).flatMap Block.looseLines = lines := by
    cases lines <;> simp [looseBlock, Block.looseLines]
  induction events generalizing known run with
  | nil =>
      rw [layoutFrom, ofRun, linesOf, List.append_nil]
  | cons event rest inductionHypothesis =>
      cases event with
      | opened module =>
          rw [layoutFrom, linesOf]
          split
          · exact inductionHypothesis known run
          · rw [List.flatMap_append, ofRun, List.flatMap_cons,
              inductionHypothesis]
            rfl
      | line owner text =>
          rw [linesOf]
          cases owner with
          | none =>
              rw [layoutFrom, inductionHypothesis, if_pos rfl,
                List.append_assoc]
              rfl
          | some module =>
              rw [layoutFrom, inductionHypothesis, if_neg nofun]

/-- Of two parts that follow one another, one is a package. -/
def Separated (first next : Block) : Prop :=
  first.module?.isSome = true ∨ next.module?.isSome = true

/-- Loose lines are in different runs only if a package is opened between
them. -/
theorem isChain_layoutFrom (known run : List String) (events : List Event) :
    (layoutFrom known run events).IsChain Separated := by
  induction events generalizing known run with
  | nil =>
      cases run <;> simp [layoutFrom, looseBlock]
  | cons event rest inductionHypothesis =>
      cases event with
      | opened module =>
          rw [layoutFrom]
          split
          · exact inductionHypothesis known run
          · have behind := inductionHypothesis (module :: known) []
            have package : List.IsChain Separated
                (.package module :: layoutFrom (module :: known) [] rest) :=
              List.isChain_cons.2 ⟨fun _ _ => Or.inl rfl, behind⟩
            cases run with
            | nil =>
                exact package
            | cons line lines =>
                exact List.isChain_cons_cons.2 ⟨Or.inr rfl, package⟩
      | line owner text =>
          cases owner <;>
            · rw [layoutFrom]
              exact inductionHypothesis _ _

/-- No line of a module lacks its package. -/
theorem package_mem_layoutFrom {known : List String} (run : List String)
    {events : List Event} {module text : String}
    (ordered : OpenedBefore known events)
    (written : Event.line (some module) text ∈ events) :
    module ∈ known ∨ Block.package module ∈ layoutFrom known run events := by
  induction events generalizing known run with
  | nil =>
      cases written
  | cons event rest inductionHypothesis =>
      rcases List.mem_cons.1 written with rfl | later
      · exact Or.inl ordered.1
      · cases event with
        | opened opened =>
            rw [layoutFrom]
            by_cases before : opened ∈ known
            · rw [if_pos before]
              exact inductionHypothesis run
                (OpenedBefore.of_reopened before ordered) later
            · rw [if_neg before]
              rcases inductionHypothesis [] ordered later with isKnown | behind
              · rcases List.mem_cons.1 isKnown with rfl | earlier
                · exact Or.inr
                    (List.mem_append_right _ List.mem_cons_self)
                · exact Or.inl earlier
              · exact Or.inr (List.mem_append_right _
                  (List.mem_cons_of_mem _ behind))
        | line owner other =>
            cases owner with
            | none =>
                exact inductionHypothesis _ ordered later
            | some name =>
                exact inductionHypothesis _ ordered.2 later

/-! ## Documents -/

/-- What the document of some outlines is made of. -/
theorem exists_of_renderOutlines {settings : Settings}
    {outlines : List Outline} {document : String}
    (rendered : renderOutlines settings outlines = .ok document) :
    ∃ drawn, settings.validate = .ok () ∧
      drawOutlines settings.root outlines = .ok drawn ∧
      document = documentText settings drawn := by
  unfold renderOutlines at rendered
  split at rendered
  · cases rendered
  · rename_i valid
    cases drawing : drawOutlines settings.root outlines with
    | error error =>
        rw [drawing] at rendered
        cases rendered
    | ok drawn =>
        rw [drawing] at rendered
        cases rendered
        exact ⟨drawn, valid, rfl, rfl⟩

theorem sectionLines_toSection (settings : Settings) (events : List Event)
    (block : Block) :
    sectionLines settings (block.toSection events) =
      block.lines settings events := by
  cases block <;> rfl

/-- A document that is made in one pass is the document of two passes over
the trace.  Its packages are the modules in the order of their first
openings, its loose lines are all there in order, two runs of them have a
package between them, and every line of a module has its package. -/
theorem renderOutlines_in_two_passes {settings : Settings}
    {outlines : List Outline} {document : String}
    (rendered : renderOutlines settings outlines = .ok document) :
    document = twoPassText settings (trace settings.root outlines) ∧
      (layout (trace settings.root outlines)).filterMap Block.module? =
        (openings (trace settings.root outlines)).eraseDups ∧
      (layout (trace settings.root outlines)).flatMap Block.looseLines =
        linesOf none (trace settings.root outlines) ∧
      (layout (trace settings.root outlines)).IsChain Separated ∧
      ∀ module text : String,
        Event.line (some module) text ∈ trace settings.root outlines →
          Block.package module ∈ layout (trace settings.root outlines) := by
  have documentEq :
      document = twoPassText settings (trace settings.root outlines) := by
    unfold renderOutlines at rendered
    split at rendered
    · cases rendered
    · cases drawing : drawOutlines settings.root outlines with
      | error error =>
          rw [drawing] at rendered
          cases rendered
      | ok drawn =>
          rw [drawing] at rendered
          cases rendered
          rw [drawOutlines_eq_layout drawing, documentText, twoPassText,
            List.flatMap_map]
          simp only [sectionLines_toSection]
  refine ⟨documentEq, ?_, ?_, isChain_layoutFrom [] [] _, ?_⟩
  · rw [layout, filterMap_module_layoutFrom]
    simp
  · rw [layout, flatMap_looseLines_layoutFrom, List.nil_append]
  · intro module text written
    have found := package_mem_layoutFrom []
      (openedBefore_trace settings.root outlines) written
    exact found.resolve_left List.not_mem_nil

/-- A module that is opened twice, with another one inside it and loose lines
before and behind. -/
def recurringOutline : Outline :=
  [.type ⟨.classWord, "First", none, []⟩ [],
    .scope "R.A" [.enumeration ⟨"E", [], ["X", "Y"]⟩,
      .scope "B" [.type ⟨.structWord, "S", none, []⟩
        [.method ⟨"M", "int", [⟨"x", "T"⟩], [.publicWord]⟩]],
      .enumeration ⟨"F", [], []⟩],
    .scope "R.A" [.enumeration ⟨"G", [], []⟩],
    .enumeration ⟨"Last", [], []⟩]

def recurringDocument : String :=
  linesText
    ["@startuml", "allow_mixing", "artifact R", "class First \x7b", "\x7d",
      "R --> A", "package A \x7b", "enum E \x7b", "X", "Y", "\x7d",
      "enum F \x7b", "\x7d", "enum G \x7b", "\x7d", "\x7d",
      "R --> A.B", "package A.B \x7b", "struct S \x7b", "+M(x:T) : int",
      "\x7d", "\x7d", "enum Last \x7b", "\x7d", "@enduml"]

theorem recurringOutline_in_two_passes :
    renderOutlines { root := "R" } [recurringOutline] =
        .ok recurringDocument ∧
      recurringDocument =
        twoPassText { root := "R" } (trace "R" [recurringOutline]) := by
  have rendered : renderOutlines { root := "R" } [recurringOutline] =
      .ok recurringDocument := by
    decide +kernel
  exact ⟨rendered, (renderOutlines_in_two_passes rendered).1⟩

end ClassDiagram
