import ClassDiagram.Diagram.Document

/-!
# Traces of outlines

What drawing does can be told without sections: a row of events in the order
of the declarations, where a namespace opens its module and everything else
writes lines, each for the module of the innermost namespace around it or for
none.

The sections of a diagram are the fold of its trace, and a line is written
for a module only after the module was opened.
-/

namespace ClassDiagram

/-- What happens while declarations are drawn. -/
inductive Event where
  | opened (module : String)
  | line (module : Option String) (text : String)
  deriving DecidableEq, Repr

def Sections.after (sections : Sections) : Event → Sections
  | .opened module => openModule module sections
  | .line module text => addLine module text sections

namespace Declaration

mutual

/-- The events of a declaration that lies at a place, itself first and then
what is inside.  A namespace that has no module has no events. -/
def events (root : String) (place : Place) : Declaration → List Event
  | .scope name members =>
      match moduleName root (place.qualify name) with
      | .error _ => []
      | .ok module =>
          .opened module ::
            allEvents root (place.insideScope (place.qualify name) module)
              members
  | .type header members =>
      .line place.module (typeLine header) ::
        (allEvents root { place with insideType := true } members ++
          [.line place.module closingLine])
  | .enumeration declared =>
      (enumerationLines declared).map (.line place.module)
  | .method declared => [.line place.module (methodLine declared)]

def allEvents (root : String) (place : Place) :
    List Declaration → List Event
  | [] => []
  | first :: others =>
      first.events root place ++ allEvents root place others

end

end Declaration

/-- The events of several outlines, none of which lies in a namespace. -/
def trace (root : String) (outlines : List Outline) : List Event :=
  Declaration.allEvents root {} outlines.flatten

/-! ## Sections are the fold of the trace -/

mutual

theorem drawDeclaration_eq_foldl (root : String) (place : Place)
    (sections drawn : Sections) :
    ∀ declaration : Declaration,
      drawDeclaration root place declaration sections = .ok drawn →
        drawn =
          (declaration.events root place).foldl Sections.after sections
  | .scope name members, accepted => by
      simp only [drawDeclaration] at accepted
      split at accepted
      · cases accepted
      · split at accepted
        · cases accepted
        · rename_i module derived
          have inner :=
            drawAll_eq_foldl root _ (openModule module sections) drawn
              members accepted
          simp only [Declaration.events, derived, List.foldl_cons]
          exact inner
  | .type header members, accepted => by
      simp only [drawDeclaration] at accepted
      split at accepted
      · cases accepted
      · rename_i between membersDrawn
        cases accepted
        have inner :=
          drawAll_eq_foldl root { place with insideType := true } _ between
            members membersDrawn
        simp only [Declaration.events, List.foldl_cons, List.foldl_append,
          List.foldl_nil]
        rw [inner]
        rfl
  | .enumeration declared, accepted => by
      simp only [drawDeclaration] at accepted
      cases accepted
      rw [Declaration.events, List.foldl_map]
      rfl
  | .method declared, accepted => by
      simp only [drawDeclaration] at accepted
      split at accepted
      · cases accepted
        rfl
      · cases accepted

theorem drawAll_eq_foldl (root : String) (place : Place)
    (sections drawn : Sections) :
    ∀ declarations : List Declaration,
      drawAll root place declarations sections = .ok drawn →
        drawn =
          (Declaration.allEvents root place declarations).foldl
            Sections.after sections
  | [], accepted => by
      rw [drawAll] at accepted
      cases accepted
      rfl
  | first :: others, accepted => by
      rw [drawAll] at accepted
      split at accepted
      · cases accepted
      · rename_i between firstDrawn
        rw [Declaration.allEvents, List.foldl_append,
          ← drawDeclaration_eq_foldl root place sections between first
            firstDrawn]
        exact drawAll_eq_foldl root place between drawn others accepted

end

/-! ## Modules are opened before they are written to -/

/-- Every line of a trace is for a module opened before it, or for none. -/
def OpenedBefore (known : List String) : List Event → Prop
  | [] => True
  | .opened module :: rest => OpenedBefore (module :: known) rest
  | .line none _ :: rest => OpenedBefore known rest
  | .line (some module) _ :: rest =>
      module ∈ known ∧ OpenedBefore known rest

theorem OpenedBefore.mono {known further : List String}
    (included : ∀ module ∈ known, module ∈ further) {events : List Event}
    (ordered : OpenedBefore known events) : OpenedBefore further events := by
  induction events generalizing known further with
  | nil =>
      exact trivial
  | cons event rest inductionHypothesis =>
      cases event with
      | opened module =>
          refine inductionHypothesis ?_ ordered
          intro other member
          rcases List.mem_cons.1 member with rfl | earlier
          · exact List.mem_cons_self
          · exact List.mem_cons_of_mem _ (included other earlier)
      | line module text =>
          cases module with
          | none =>
              exact inductionHypothesis included ordered
          | some module =>
              exact ⟨included module ordered.1,
                inductionHypothesis included ordered.2⟩

/-- Opening a known module again tells nothing new. -/
theorem OpenedBefore.of_reopened {known : List String} {module : String}
    {events : List Event} (isKnown : module ∈ known)
    (ordered : OpenedBefore (module :: known) events) :
    OpenedBefore known events := by
  refine ordered.mono ?_
  intro other member
  rcases List.mem_cons.1 member with rfl | earlier
  · exact isKnown
  · exact earlier

theorem OpenedBefore.append {known : List String}
    {first others : List Event}
    (firstOrdered : OpenedBefore known first)
    (othersOrdered : OpenedBefore known others) :
    OpenedBefore known (first ++ others) := by
  induction first generalizing known with
  | nil =>
      exact othersOrdered
  | cons event rest inductionHypothesis =>
      cases event with
      | opened module =>
          exact inductionHypothesis firstOrdered
            (othersOrdered.mono fun _ => List.mem_cons_of_mem module)
      | line module text =>
          cases module with
          | none =>
              exact inductionHypothesis firstOrdered othersOrdered
          | some module =>
              exact ⟨firstOrdered.1,
                inductionHypothesis firstOrdered.2 othersOrdered⟩

theorem openedBefore_lines {known : List String} {module : Option String}
    (isOpen : ∀ name ∈ module, name ∈ known) (texts : List String) :
    OpenedBefore known (texts.map (.line module)) := by
  induction texts with
  | nil =>
      exact trivial
  | cons text others inductionHypothesis =>
      cases module with
      | none =>
          exact inductionHypothesis
      | some name =>
          exact ⟨isOpen name rfl, inductionHypothesis⟩

mutual

theorem openedBefore_events (root : String) (place : Place)
    (known : List String)
    (enclosing : ∀ name ∈ place.module, name ∈ known) :
    ∀ declaration : Declaration,
      OpenedBefore known (declaration.events root place)
  | .scope name members => by
      rw [Declaration.events]
      split
      · exact trivial
      · rename_i module derived
        refine openedBefore_allEvents root _ (module :: known) ?_ members
        intro inner innerModule
        cases innerModule
        exact List.mem_cons_self
  | .type header members => by
      rw [Declaration.events]
      have opening := openedBefore_lines enclosing [typeLine header]
      have closing := openedBefore_lines enclosing [closingLine]
      have inside := openedBefore_allEvents root
        { place with insideType := true } known enclosing members
      exact opening.append (inside.append closing)
  | .enumeration declared => by
      rw [Declaration.events]
      exact openedBefore_lines enclosing _
  | .method declared => by
      rw [Declaration.events]
      exact openedBefore_lines enclosing [methodLine declared]

theorem openedBefore_allEvents (root : String) (place : Place)
    (known : List String)
    (enclosing : ∀ name ∈ place.module, name ∈ known) :
    ∀ declarations : List Declaration,
      OpenedBefore known (Declaration.allEvents root place declarations)
  | [] => trivial
  | first :: others => by
      rw [Declaration.allEvents]
      exact (openedBefore_events root place known enclosing first).append
        (openedBefore_allEvents root place known enclosing others)

end

theorem openedBefore_trace (root : String) (outlines : List Outline) :
    OpenedBefore [] (trace root outlines) :=
  openedBefore_allEvents root {} [] nofun outlines.flatten

end ClassDiagram
