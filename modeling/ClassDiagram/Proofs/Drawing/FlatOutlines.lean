import ClassDiagram.Proofs.Drawing.Trace
import ClassDiagram.Proofs.Reading.Placement
import Mathlib.Data.List.Flatten

/-!
# Flat outlines

A namespace inside a namespace can be taken out of it: it then stands beside
the other one under its full name, and what follows it goes into a further
part of the namespace that it was taken out of.  An outline that was made
flat in this way has the same diagram, or the same error.

Every part opens the module of its namespace, as the namespace itself did.
The first part is there even if nothing is in it, since the module is opened
in front of all that is inside.
-/

namespace ClassDiagram

/-! ## Taking namespaces out of one another -/

/-- A part of a namespace.  A part behind the first one is left out if it is
empty. -/
def scopePart (name : String) (isFirst : Bool) (members : List Declaration) :
    Outline :=
  if members.isEmpty && !isFirst then [] else [.scope name members]

namespace Declaration

mutual

/-- The parts that a namespace inside the named one is split into; other
declarations are not taken out. -/
def takenOut? (outer : String) : Declaration → Option Outline
  | .scope name members =>
      some (scopeParts (outer ++ "." ++ name) true [] members)
  | _ => none

/-- The parts that a namespace is split into from some member on, and those
of the namespaces that are taken out of it.  The members of the part that is
not complete yet are gathered in front. -/
def scopeParts (name : String) (isFirst : Bool)
    (gathered : List Declaration) : List Declaration → Outline
  | [] => scopePart name isFirst gathered
  | member :: others =>
      match takenOut? name member with
      | some parts =>
          scopePart name isFirst gathered ++
            (parts ++ scopeParts name false [] others)
      | none => scopeParts name isFirst (gathered ++ [member]) others

end

/-- A declaration of a source without namespaces inside namespaces. -/
def flattened : Declaration → Outline
  | .scope name members => scopeParts name true [] members
  | other => [other]

/-- No namespace is directly inside this one, if it is a namespace. -/
def IsFlat : Declaration → Prop
  | .scope _ members => ∀ member ∈ members, member.isScope = false
  | _ => True

end Declaration

def Outline.flattened (outline : Outline) : Outline :=
  outline.flatMap Declaration.flattened

open Declaration

theorem isScope_of_takenOut? (outer : String) (declaration : Declaration) :
    (takenOut? outer declaration).isSome = declaration.isScope := by
  cases declaration <;> rfl

theorem scopePart_flat (name : String) (isFirst : Bool)
    {members : List Declaration}
    (noScope : ∀ member ∈ members, member.isScope = false) :
    ∀ part ∈ scopePart name isFirst members, part.IsFlat := by
  unfold scopePart
  split
  · exact nofun
  · exact List.forall_mem_singleton.2 noScope

mutual

theorem takenOut?_flat (outer : String) :
    ∀ declaration : Declaration, ∀ parts ∈ takenOut? outer declaration,
      ∀ part ∈ parts, part.IsFlat
  | .scope name members, _, rfl =>
      scopeParts_flat (outer ++ "." ++ name) true [] members nofun

theorem scopeParts_flat (name : String) (isFirst : Bool)
    (gathered : List Declaration) :
    ∀ members : List Declaration,
      (∀ member ∈ gathered, member.isScope = false) →
        ∀ part ∈ scopeParts name isFirst gathered members, part.IsFlat
  | [], noScope => scopePart_flat name isFirst noScope
  | member :: others, noScope => by
      rw [scopeParts]
      split
      · rename_i parts takenOut
        intro part isPart
        rcases List.mem_append.1 isPart with before | behind
        · exact scopePart_flat name isFirst noScope part before
        · rcases List.mem_append.1 behind with inner | later
          · exact takenOut?_flat name member parts takenOut part inner
          · exact scopeParts_flat name false [] others nofun part later
      · rename_i stays
        refine scopeParts_flat name isFirst (gathered ++ [member]) others ?_
        have notScope : member.isScope = false := by
          rw [← isScope_of_takenOut? name, stays]
          rfl
        intro other isGathered
        rcases List.mem_append.1 isGathered with before | last
        · exact noScope other before
        · rwa [List.mem_singleton.1 last]

end

/-- No namespace of a flattened outline is directly inside another one. -/
theorem flattened_flat (outline : Outline) :
    ∀ declaration ∈ outline.flattened, declaration.IsFlat := by
  intro declaration member
  obtain ⟨original, _, isPart⟩ := List.mem_flatMap.1 member
  cases original with
  | scope name members =>
      exact scopeParts_flat name true [] members nofun declaration isPart
  | type header members =>
      cases List.mem_singleton.1 isPart
      exact trivial
  | enumeration declared =>
      cases List.mem_singleton.1 isPart
      exact trivial
  | method declared =>
      cases List.mem_singleton.1 isPart
      exact trivial

/-! ## Modules stay open -/

def HasSection (module : String) (sections : Sections) : Prop :=
  some module ∈ sections.map Section.module

theorem openModule_of_hasSection {module : String} {sections : Sections}
    (isOpen : HasSection module sections) :
    openModule module sections = sections := by
  obtain ⟨drawn, member, isModule⟩ := List.mem_map.1 isOpen
  have present : sections.any (fun s => s.module == some module) = true :=
    List.any_eq_true.2 ⟨drawn, member, by rw [isModule, beq_self_eq_true]⟩
  rw [openModule, present, if_pos rfl]

theorem openModule_hasSection (module : String) (sections : Sections) :
    HasSection module (openModule module sections) := by
  unfold openModule
  split
  · rename_i present
    obtain ⟨drawn, member, isModule⟩ := List.any_eq_true.1 present
    exact List.mem_map.2 ⟨drawn, member, beq_iff_eq.1 isModule⟩
  · simp [HasSection]

/-- A step of drawing closes no section. -/
theorem HasSection.after {module : String} {sections : Sections}
    (isOpen : HasSection module sections) (event : Event) :
    HasSection module (sections.after event) := by
  cases event with
  | opened other =>
      rw [Sections.after, openModule]
      split
      · exact isOpen
      · rw [HasSection, List.map_append]
        exact List.mem_append_left _ isOpen
  | line owner text =>
      cases owner with
      | some name =>
          have kept : (addModuleLine name text sections).map Section.module =
              sections.map Section.module := by
            rw [addModuleLine, List.map_map]
            refine List.map_congr_left fun drawn _ => ?_
            rw [Function.comp_apply]
            split <;> rfl
          change some module ∈ (addModuleLine name text sections).map _
          rwa [kept]
      | none =>
          change HasSection module (addLooseLine text sections)
          fun_induction addLooseLine text sections with
          | case1 =>
              cases isOpen
          | case2 last isLoose =>
              have noModule := Option.isNone_iff_eq_none.1 isLoose
              rw [HasSection, List.map_singleton, List.mem_singleton,
                noModule] at isOpen
              cases isOpen
          | case3 =>
              exact List.mem_append_left _ isOpen
          | case4 first others _ inductionHypothesis =>
              rcases List.mem_cons.1 isOpen with here | later
              · exact List.mem_cons.2 (.inl here)
              · exact List.mem_cons_of_mem _ (inductionHypothesis later)

/-- Drawing closes no section. -/
theorem HasSection.drawn {root module : String} {place : Place}
    {declarations : List Declaration} {sections drawn : Sections}
    (isOpen : HasSection module sections)
    (accepted : drawAll root place declarations sections = .ok drawn) :
    HasSection module drawn := by
  rw [drawAll_eq_foldl root place sections drawn declarations accepted]
  generalize allEvents root place declarations = events
  clear accepted
  induction events generalizing sections with
  | nil =>
      exact isOpen
  | cons event rest inductionHypothesis =>
      exact inductionHypothesis (isOpen.after event)

/-! ## Drawing the parts of a namespace -/

theorem drawAll_append (root : String) (place : Place)
    (first others : List Declaration) (sections : Sections) :
    drawAll root place (first ++ others) sections =
      (drawAll root place first sections).bind
        (drawAll root place others) := by
  induction first generalizing sections with
  | nil =>
      rfl
  | cons declaration first inductionHypothesis =>
      rw [List.cons_append, drawAll, drawAll]
      cases drawDeclaration root place declaration sections with
      | error error =>
          rfl
      | ok drawn =>
          exact inductionHypothesis drawn

theorem drawAll_singleton (root : String) (place : Place)
    (declaration : Declaration) (sections : Sections) :
    drawAll root place [declaration] sections =
      drawDeclaration root place declaration sections := by
  rw [drawAll]
  cases drawDeclaration root place declaration sections <;> rfl

def Place.ofScope (qualified module : String) : Place :=
  ({} : Place).insideScope qualified module

section

variable {root name module : String} {members : List Declaration}

/-- A namespace inside another one is drawn like one with its full name. -/
theorem drawDeclaration_qualified (outer : String) (sections : Sections) :
    drawDeclaration root (.ofScope outer module) (.scope name members)
        sections =
      drawDeclaration root {} (.scope (outer ++ "." ++ name) members)
        sections := by
  rw [drawDeclaration, drawDeclaration]
  rfl

theorem drawDeclaration_named (named : moduleName root name = .ok module)
    (sections : Sections) :
    drawDeclaration root {} (.scope name members) sections =
      drawAll root (.ofScope name module) members
        (openModule module sections) := by
  have qualifiedNamed : moduleName root (({} : Place).qualify name) =
      .ok module := named
  simp only [drawDeclaration, qualifiedNamed, Bool.false_eq_true, if_false]
  rfl

theorem drawDeclaration_unnamed {error : DiagramError}
    (unnamed : moduleName root name = .error error) (sections : Sections) :
    drawDeclaration root {} (.scope name members) sections =
      .error error := by
  have qualifiedUnnamed : moduleName root (({} : Place).qualify name) =
      .error error := unnamed
  simp only [drawDeclaration, qualifiedUnnamed, Bool.false_eq_true, if_false]

theorem drawAll_scopePart {isFirst : Bool} {sections : Sections}
    (named : moduleName root name = .ok module)
    (isOpen : isFirst = false → HasSection module sections) :
    drawAll root {} (scopePart name isFirst members) sections =
      drawAll root (.ofScope name module) members
        (openModule module sections) := by
  unfold scopePart
  split
  · rename_i nothing
    rw [Bool.and_eq_true, List.isEmpty_iff, Bool.not_eq_true'] at nothing
    rw [nothing.1, openModule_of_hasSection (isOpen nothing.2), drawAll,
      drawAll]
  · rw [drawAll_singleton, drawDeclaration_named named]

/-- The first part of a namespace comes first. -/
theorem exists_scopeParts_eq (name : String) (gathered : List Declaration)
    (members : List Declaration) :
    ∃ inside rest,
      scopeParts name true gathered members = .scope name inside :: rest := by
  have firstPart : ∀ inside : List Declaration,
      scopePart name true inside = [.scope name inside] := by
    intro inside
    simp [scopePart]
  induction members generalizing gathered with
  | nil =>
      exact ⟨gathered, [], firstPart gathered⟩
  | cons member others inductionHypothesis =>
      rw [scopeParts]
      split
      · rw [firstPart]
        exact ⟨gathered, _, rfl⟩
      · exact inductionHypothesis (gathered ++ [member])

/-- The parts are drawn like the namespace if that is so where it has a
module: without one the first part is refused. -/
theorem drawAll_scopeParts_of_named
    (drawn : ∀ (module : String) (sections : Sections),
      moduleName root name = .ok module →
        drawAll root {} (scopeParts name true [] members) sections =
          drawAll root (.ofScope name module) members
            (openModule module sections))
    (sections : Sections) :
    drawAll root {} (scopeParts name true [] members) sections =
      drawDeclaration root {} (.scope name members) sections := by
  cases derived : moduleName root name with
  | error error =>
      obtain ⟨inside, rest, partsEq⟩ := exists_scopeParts_eq name [] members
      rw [partsEq, drawAll, drawDeclaration_unnamed derived,
        drawDeclaration_unnamed derived]
  | ok module =>
      rw [drawn module sections derived, drawDeclaration_named derived]

end

mutual

theorem drawAll_takenOut? (root outer module : String) :
    ∀ declaration : Declaration, ∀ parts ∈ takenOut? outer declaration,
      ∀ sections : Sections,
        drawAll root {} parts sections =
          drawDeclaration root (.ofScope outer module) declaration sections
  | .scope name members, _, rfl, sections => by
      rw [drawDeclaration_qualified]
      refine drawAll_scopeParts_of_named ?_ sections
      intro inner sections derived
      exact drawAll_scopeParts root _ inner derived members true [] sections
        nofun

/-- What follows a namespace that was taken out is drawn into the section of
its own one, which is still there. -/
theorem drawAll_scopeParts (root name module : String)
    (named : moduleName root name = .ok module) :
    ∀ (members : List Declaration) (isFirst : Bool)
      (gathered : List Declaration) (sections : Sections),
      (isFirst = false → HasSection module sections) →
        drawAll root {} (scopeParts name isFirst gathered members) sections =
          drawAll root (.ofScope name module) (gathered ++ members)
            (openModule module sections)
  | [], isFirst, gathered, sections, isOpen => by
      rw [scopeParts, List.append_nil]
      exact drawAll_scopePart named isOpen
  | member :: others, isFirst, gathered, sections, isOpen => by
      rw [scopeParts]
      split
      · rename_i parts takenOut
        rw [drawAll_append, drawAll_append, drawAll_scopePart named isOpen]
        cases gatheredDrawn : drawAll root (.ofScope name module) gathered
            (openModule module sections) with
        | error error =>
            rfl
        | ok before =>
            have openBefore : HasSection module before :=
              (openModule_hasSection module sections).drawn gatheredDrawn
            simp only [Except.bind]
            rw [drawAll_append, drawAll,
              drawAll_takenOut? root name module member parts takenOut]
            cases memberDrawn : drawDeclaration root (.ofScope name module)
                member before with
            | error error =>
                rfl
            | ok behind =>
                rw [← drawAll_singleton] at memberDrawn
                have openBehind := openBefore.drawn memberDrawn
                simp only [Except.bind]
                rw [drawAll_scopeParts root name module named others false []
                  behind fun _ => openBehind,
                  openModule_of_hasSection openBehind]
                rfl
      · rw [drawAll_scopeParts root name module named others isFirst
          (gathered ++ [member]) sections isOpen, List.append_assoc]
        rfl

end

theorem drawAll_flattened (root : String) (declaration : Declaration)
    (sections : Sections) :
    drawAll root {} declaration.flattened sections =
      drawDeclaration root {} declaration sections := by
  cases declaration with
  | scope name members =>
      refine drawAll_scopeParts_of_named ?_ sections
      intro module sections derived
      exact drawAll_scopeParts root name module derived members true []
        sections nofun
  | type | enumeration | method =>
      exact drawAll_singleton root {} _ sections

theorem drawAll_flatMap_flattened (root : String)
    (declarations : List Declaration) (sections : Sections) :
    drawAll root {} (declarations.flatMap flattened) sections =
      drawAll root {} declarations sections := by
  induction declarations generalizing sections with
  | nil =>
      rfl
  | cons first others inductionHypothesis =>
      rw [List.flatMap_cons, drawAll_append, drawAll_flattened, drawAll]
      cases drawDeclaration root {} first sections with
      | error error =>
          rfl
      | ok drawn =>
          exact inductionHypothesis drawn

/-- An outline and the same outline without namespaces inside namespaces have
the same document or the same error, under all settings. -/
theorem renderOutlines_flattened (settings : Settings)
    (outlines : List Outline) :
    (∀ outline ∈ outlines, ∀ declaration ∈ outline.flattened,
        declaration.IsFlat) ∧
      renderOutlines settings (outlines.map Outline.flattened) =
        renderOutlines settings outlines := by
  refine ⟨fun outline _ => flattened_flat outline, ?_⟩
  have flattenedAll : (outlines.map Outline.flattened).flatten =
      outlines.flatten.flatMap Declaration.flattened := by
    rw [List.flatMap_def, List.map_flatten, List.flatten_flatten,
      List.map_map]
    rfl
  rw [renderOutlines, renderOutlines, drawOutlines, drawOutlines,
    flattenedAll, drawAll_flatMap_flattened]

/-- The namespace `A` goes on behind the one inside it, and the one inside
has nothing but a further one in it. -/
example (first second third : Enumeration) :
    Outline.flattened
        [.scope "A" [.enumeration first,
          .scope "B" [.scope "C" [.enumeration second]],
          .enumeration third]] =
      [.scope "A" [.enumeration first], .scope "A.B" [],
        .scope "A.B.C" [.enumeration second],
        .scope "A" [.enumeration third]] :=
  rfl

end ClassDiagram
