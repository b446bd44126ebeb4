import ClassDiagram.Proofs.Drawing.TwoPass
import Mathlib.Data.List.Nodup

/-!
# Drawn lines

The lines that a declaration is drawn with do not depend on where it lies.
The body of a document holds the lines of all declarations, in another order,
and for each module the frame of its package.
-/

namespace ClassDiagram

namespace Declaration

mutual

/-- The lines that a declaration and what is inside it are drawn with, in the
order of the declarations. -/
def drawnLines : Declaration → List String
  | .scope _ members => allDrawnLines members
  | .type header members =>
      typeLine header :: (allDrawnLines members ++ [closingLine])
  | .enumeration declared => enumerationLines declared
  | .method declared => [methodLine declared]

def allDrawnLines : List Declaration → List String
  | [] => []
  | first :: others => first.drawnLines ++ allDrawnLines others

end

end Declaration

/-- The lines of a trace, whatever they are written for. -/
def lineTexts : List Event → List String
  | [] => []
  | .opened _ :: rest => lineTexts rest
  | .line _ text :: rest => text :: lineTexts rest

theorem lineTexts_append (first others : List Event) :
    lineTexts (first ++ others) = lineTexts first ++ lineTexts others := by
  induction first with
  | nil =>
      rfl
  | cons event rest inductionHypothesis =>
      cases event with
      | opened module =>
          exact inductionHypothesis
      | line module text =>
          exact congrArg (text :: ·) inductionHypothesis

theorem lineTexts_lines (module : Option String) (texts : List String) :
    lineTexts (texts.map (.line module)) = texts := by
  induction texts with
  | nil =>
      rfl
  | cons text others inductionHypothesis =>
      exact congrArg (text :: ·) inductionHypothesis

/-! ## The trace has the lines of the declarations -/

mutual

theorem lineTexts_events (root : String) (place : Place)
    (sections drawn : Sections) :
    ∀ declaration : Declaration,
      drawDeclaration root place declaration sections = .ok drawn →
        lineTexts (declaration.events root place) = declaration.drawnLines
  | .scope name members, accepted => by
      simp only [drawDeclaration] at accepted
      split at accepted
      · cases accepted
      · split at accepted
        · cases accepted
        · rename_i module derived
          simp only [Declaration.events, derived, lineTexts,
            Declaration.drawnLines]
          exact lineTexts_allEvents root _ _ drawn members accepted
  | .type header members, accepted => by
      simp only [drawDeclaration] at accepted
      split at accepted
      · cases accepted
      · rename_i between membersDrawn
        have inner := lineTexts_allEvents root
          { place with insideType := true } _ between members membersDrawn
        simp only [Declaration.events, lineTexts, lineTexts_append, inner,
          Declaration.drawnLines]
  | .enumeration declared, _ => by
      rw [Declaration.events, lineTexts_lines, Declaration.drawnLines]
  | .method declared, _ => by
      rw [Declaration.events, Declaration.drawnLines]
      rfl

theorem lineTexts_allEvents (root : String) (place : Place)
    (sections drawn : Sections) :
    ∀ declarations : List Declaration,
      drawAll root place declarations sections = .ok drawn →
        lineTexts (Declaration.allEvents root place declarations) =
          Declaration.allDrawnLines declarations
  | [], _ => rfl
  | first :: others, accepted => by
      rw [drawAll] at accepted
      split at accepted
      · cases accepted
      · rename_i between firstDrawn
        rw [Declaration.allEvents, lineTexts_append,
          lineTexts_events root place sections between first firstDrawn,
          lineTexts_allEvents root place between drawn others accepted,
          Declaration.allDrawnLines]

end

/-! ## The sections share the lines of the trace -/

/-- No module has two packages. -/
theorem nodup_modules_layoutFrom (known run : List String)
    (events : List Event) :
    ((layoutFrom known run events).filterMap Block.module?).Nodup := by
  induction events generalizing known run with
  | nil =>
      cases run <;> exact List.nodup_nil
  | cons event rest inductionHypothesis =>
      cases event with
      | opened module =>
          rw [layoutFrom]
          split
          · exact inductionHypothesis known run
          · have runHasNone : (looseBlock run).filterMap Block.module? =
                [] := by
              cases run <;> rfl
            have package : (Block.package module).module? = some module := rfl
            rw [List.filterMap_append, runHasNone, List.nil_append,
              List.filterMap_cons_some package, List.nodup_cons]
            refine ⟨fun again => ?_, inductionHypothesis _ _⟩
            obtain ⟨block, member, isModule⟩ := List.mem_filterMap.1 again
            cases block with
            | loose lines =>
                cases isModule
            | package name =>
                cases isModule
                exact not_mem_known_of_package_mem member
                  List.mem_cons_self
      | line owner text =>
          cases owner <;>
            · rw [layoutFrom]
              exact inductionHypothesis _ _

/-- A line is none of the lines of modules that do not own it. -/
theorem flatMap_linesOf_line {owner : Option String} {modules : List String}
    (foreign : ∀ module ∈ modules, owner ≠ some module) (text : String)
    (events : List Event) :
    (modules.flatMap fun module =>
      linesOf (some module) (.line owner text :: events)) =
        modules.flatMap fun module => linesOf (some module) events := by
  refine List.flatMap_congr fun module member => ?_
  rw [linesOf, if_neg (foreign module member)]

/-- Every line is written for one of the modules or for none. -/
theorem linesOf_perm {modules : List String} (distinct : modules.Nodup)
    {events : List Event}
    (known : ∀ module text, Event.line (some module) text ∈ events →
      module ∈ modules) :
    (linesOf none events ++
      modules.flatMap fun module => linesOf (some module) events).Perm
        (lineTexts events) := by
  induction events with
  | nil =>
      have nothing : (modules.flatMap fun module =>
          linesOf (some module) []) = [] :=
        List.flatMap_eq_nil_iff.2 fun _ _ => rfl
      rw [nothing]
      exact .nil
  | cons event rest inductionHypothesis =>
      have later := inductionHypothesis fun module text member =>
        known module text (List.mem_cons_of_mem event member)
      cases event with
      | opened module =>
          exact later
      | line owner text =>
          cases owner with
          | none =>
              have foreign : ∀ module ∈ modules, none ≠ some module :=
                fun module _ => (Option.some_ne_none module).symm
              rw [flatMap_linesOf_line foreign, linesOf, if_pos rfl]
              exact later.cons text
          | some module =>
              obtain ⟨front, behind, rfl⟩ := List.append_of_mem
                (known module text List.mem_cons_self)
              have apart := List.nodup_middle.1 distinct
              rw [List.nodup_cons, List.mem_append, not_or] at apart
              have foreign (part : List String) (absent : module ∉ part) :
                  ∀ name ∈ part, some module ≠ some name := by
                intro name member same
                cases same
                exact absent member
              rw [List.flatMap_append, List.flatMap_cons] at later ⊢
              rw [flatMap_linesOf_line (foreign front apart.1.1),
                flatMap_linesOf_line (foreign behind apart.1.2), linesOf,
                if_neg (Option.some_ne_none module), linesOf, if_pos rfl]
              -- The line stands behind the lines of the modules in front.
              refine List.Perm.trans ?_ (later.cons text)
              rw [List.cons_append, ← List.append_assoc,
                ← List.append_assoc (linesOf none rest)]
              exact List.perm_middle

/-- The lines around those of a module. -/
def frameLines (settings : Settings) (module : String) : List String :=
  packageDecoration settings module ++
    ["package " ++ module ++ " \x7b", closingLine]

/-- The blocks of a layout show the loose lines and, for each package, its
frame and the lines of its module. -/
theorem flatMap_blockLines_perm (settings : Settings) (events : List Event)
    (blocks : List Block) :
    (blocks.flatMap (Block.lines settings events)).Perm
      ((blocks.filterMap Block.module?).flatMap (frameLines settings) ++
        (blocks.flatMap Block.looseLines ++
          (blocks.filterMap Block.module?).flatMap fun module =>
            linesOf (some module) events)) := by
  induction blocks with
  | nil =>
      exact .nil
  | cons block others inductionHypothesis =>
      cases block with
      | loose lines =>
          have module? : (Block.loose lines).module? = none := rfl
          rw [List.flatMap_cons, List.filterMap_cons_none module?,
            List.flatMap_cons, Block.looseLines, Block.lines,
            List.append_assoc]
          refine (inductionHypothesis.append_left lines).trans ?_
          exact List.perm_append_comm_assoc ..
      | package module =>
          have module? : (Block.package module).module? = some module := rfl
          rw [List.flatMap_cons, List.filterMap_cons_some module?,
            List.flatMap_cons, List.flatMap_cons, List.flatMap_cons,
            Block.looseLines, List.nil_append, Block.lines]
          have own : (packageDecoration settings module ++
              ("package " ++ module ++ " \x7b") ::
                (linesOf (some module) events ++ [closingLine])).Perm
              (frameLines settings module ++
                linesOf (some module) events) := by
            rw [frameLines, List.append_assoc]
            refine List.Perm.append_left _ (.cons _ ?_)
            exact List.perm_append_comm
          refine (own.append inductionHypothesis).trans ?_
          rw [List.append_assoc, List.append_assoc]
          refine List.Perm.append_left _ ?_
          refine (List.perm_append_comm_assoc ..).trans ?_
          exact List.Perm.append_left _ (List.perm_append_comm_assoc ..)

/-- The body of a document shows the frames of its packages and the lines of
its declarations, each as often as it is drawn. -/
theorem sectionLines_perm {settings : Settings} {outlines : List Outline}
    {drawn : Sections}
    (accepted : drawOutlines settings.root outlines = .ok drawn) :
    (drawn.flatMap (sectionLines settings)).Perm
      ((openings (trace settings.root outlines)).eraseDups.flatMap
          (frameLines settings) ++
        Declaration.allDrawnLines outlines.flatten) := by
  have blocks : drawn.flatMap (sectionLines settings) =
      (layout (trace settings.root outlines)).flatMap
        (Block.lines settings (trace settings.root outlines)) := by
    rw [drawOutlines_eq_layout accepted, List.flatMap_map]
    exact List.flatMap_congr fun block _ =>
      sectionLines_toSection settings _ block
  have modules : (layout (trace settings.root outlines)).filterMap
      Block.module? =
        (openings (trace settings.root outlines)).eraseDups := by
    rw [layout, filterMap_module_layoutFrom]
    simp
  have known : ∀ module text,
      Event.line (some module) text ∈ trace settings.root outlines →
        module ∈ (openings (trace settings.root outlines)).eraseDups := by
    intro module text written
    have found := (package_mem_layoutFrom []
      (openedBefore_trace settings.root outlines) written).resolve_left
        List.not_mem_nil
    rw [← modules]
    exact List.mem_filterMap.2 ⟨_, found, rfl⟩
  rw [blocks]
  refine (flatMap_blockLines_perm settings _ _).trans ?_
  rw [modules, layout, flatMap_looseLines_layoutFrom, List.nil_append]
  refine List.Perm.append_left _ ?_
  have distinct := nodup_modules_layoutFrom [] []
    (trace settings.root outlines)
  rw [← layout, modules] at distinct
  refine (linesOf_perm distinct known).trans ?_
  rw [trace, lineTexts_allEvents _ _ _ drawn _ accepted]

end ClassDiagram
