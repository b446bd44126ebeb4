import ClassDiagram.Diagram.Document
import ClassDiagram.Proofs.Reading.Placement
import Mathlib.Data.List.Basic

/-!
# Outlines that cannot be drawn

Drawing refuses a namespace inside a type and a method outside of one.  The
reader of sources makes no such outline, so a diagram of sources never fails
for that reason.
-/

namespace ClassDiagram

open Declaration (WellPlaced AllWellPlaced Occurs)

theorem moduleName_ne_tree (root name : String) (fault : TreeFault) :
    moduleName root name ≠ .error (.tree fault) := by
  unfold moduleName
  split
  · exact nofun
  · split <;> exact nofun

theorem validateRoot_ne_tree (root : String) (fault : TreeFault) :
    validateRoot root ≠ .error (.tree fault) := by
  unfold validateRoot
  split
  · exact nofun
  · split <;> exact nofun

mutual

theorem drawDeclaration_ne_tree (root : String) (fault : TreeFault)
    (place : Place) (sections : Sections) :
    ∀ declaration : Declaration,
      declaration.WellPlaced place.insideType →
        drawDeclaration root place declaration sections ≠
          .error (.tree fault)
  | .scope name members, placed => by
      obtain ⟨outside, membersPlaced⟩ := placed
      simp only [drawDeclaration, outside, Bool.false_eq_true, if_false]
      split
      · rename_i error refused
        intro answer
        cases answer
        exact moduleName_ne_tree root _ fault refused
      · rename_i module derived
        have inScope :
            (place.insideScope (place.qualify name) module).insideType =
              false := outside
        apply drawAll_ne_tree root fault
        rw [inScope]
        exact membersPlaced
  | .type header members, placed => by
      have drawn := drawAll_ne_tree root fault
        { place with insideType := true }
        (addLine place.module (typeLine header) sections) members placed
      simp only [drawDeclaration]
      split
      · rename_i error refused
        intro answer
        cases answer
        exact drawn refused
      · exact nofun
  | .enumeration declared, _ => by
      simp only [drawDeclaration]
      exact nofun
  | .method declared, placed => by
      have inside : place.insideType = true := placed
      simp only [drawDeclaration, inside, if_true]
      exact nofun

theorem drawAll_ne_tree (root : String) (fault : TreeFault)
    (place : Place) (sections : Sections) :
    ∀ declarations : List Declaration,
      AllWellPlaced place.insideType declarations →
        drawAll root place declarations sections ≠ .error (.tree fault)
  | [], _ => by
      rw [drawAll]
      exact nofun
  | first :: others, placed => by
      obtain ⟨firstPlaced, othersPlaced⟩ := placed
      rw [drawAll]
      split
      · rename_i error refused
        intro answer
        cases answer
        exact drawDeclaration_ne_tree root fault place sections first
          firstPlaced refused
      · rename_i drawn _
        exact drawAll_ne_tree root fault place drawn others othersPlaced

end

theorem renderOutlines_ne_tree {outlines : List Outline}
    (placed : ∀ outline ∈ outlines, AllWellPlaced false outline)
    (settings : Settings) (fault : TreeFault) :
    renderOutlines settings outlines ≠ .error (.tree fault) := by
  have allPlaced : AllWellPlaced false outlines.flatten := by
    rw [Declaration.allWellPlaced_iff]
    intro declaration member
    obtain ⟨outline, outlineMember, inOutline⟩ := List.mem_flatten.1 member
    exact Declaration.allWellPlaced_iff.1 (placed outline outlineMember)
      declaration inOutline
  unfold renderOutlines
  split
  · rename_i error refused
    intro answer
    cases answer
    exact validateRoot_ne_tree settings.root fault refused
  · intro answer
    cases drawn : drawOutlines settings.root outlines with
    | error error =>
        rw [drawn] at answer
        cases answer
        exact drawAll_ne_tree settings.root fault {} [] _ allPlaced drawn
    | ok sections =>
        rw [drawn] at answer
        cases answer

theorem readSource_ne_tree (text : String) (fault : TreeFault) :
    readSource text ≠ .error (.tree fault) := by
  intro refused
  obtain ⟨_, _, same⟩ := exists_of_readSource_error refused
  cases same

theorem readSources_ne_tree (sources : List String) (fault : TreeFault) :
    readSources sources ≠ .error (.tree fault) := by
  induction sources with
  | nil =>
      exact nofun
  | cons source others inductionHypothesis =>
      rw [readSources]
      split
      · rename_i error refused
        intro answer
        cases answer
        exact readSource_ne_tree source fault refused
      · intro answer
        cases read : readSources others with
        | error error =>
            rw [read] at answer
            cases answer
            exact inductionHypothesis read
        | ok outlines =>
            rw [read] at answer
            cases answer

/-- What holds of every outline that is read holds of the outlines of all
sources. -/
theorem forall_mem_of_readSources {holds : Outline → Prop}
    (ofSource : ∀ source outline, readSource source = .ok outline →
      holds outline)
    {sources : List String} {outlines : List Outline}
    (read : readSources sources = .ok outlines) :
    ∀ outline ∈ outlines, holds outline := by
  induction sources generalizing outlines with
  | nil =>
      cases read
      exact nofun
  | cons source others inductionHypothesis =>
      rw [readSources] at read
      split at read
      · cases read
      · rename_i first firstRead
        cases othersRead : readSources others with
        | error error =>
            rw [othersRead] at read
            cases read
        | ok rest =>
            rw [othersRead] at read
            cases read
            exact List.forall_mem_cons.2
              ⟨ofSource source first firstRead,
                inductionHypothesis othersRead⟩

theorem readSources_wellPlaced {sources : List String}
    {outlines : List Outline}
    (read : readSources sources = .ok outlines) :
    ∀ outline ∈ outlines, AllWellPlaced false outline :=
  forall_mem_of_readSources (fun _ _ => readSource_wellPlaced) read

theorem renderSources_ne_tree (settings : Settings) (sources : List String)
    (fault : TreeFault) :
    renderSources settings sources ≠ .error (.tree fault) := by
  unfold renderSources
  split
  · rename_i error refused
    intro answer
    cases answer
    exact validateRoot_ne_tree settings.root fault refused
  · split
    · rename_i error refused
      intro answer
      cases answer
      exact readSources_ne_tree sources fault refused
    · rename_i outlines read
      exact renderOutlines_ne_tree (readSources_wellPlaced read) settings
        fault

/-- No diagram of sources fails with a tree error, since what is read has its
namespaces outside types and its methods inside them. -/
theorem sources_never_misplace_declarations :
    (∀ (settings : Settings) (sources : List String) (fault : TreeFault),
      renderSources settings sources ≠ .error (.tree fault)) ∧
    ∀ (text : String) (outline : Outline),
      readSource text = .ok outline →
        ∀ (enclosing : List Declaration) (declaration : Declaration),
          Occurs enclosing declaration outline →
            (declaration.isScope = true →
              ∀ outer ∈ enclosing, outer.isType = false) ∧
            (declaration.isMethod = true →
              ∃ outer ∈ enclosing, outer.isType = true) := by
  refine ⟨renderSources_ne_tree, ?_⟩
  intro text outline read enclosing declaration occurs
  have placed := readSource_wellPlaced read
  exact ⟨occurs.no_type_around_scope placed,
    occurs.exists_type_around_method placed⟩

/-- A local function, which is left out, and a method in nested namespaces,
the outer one without braces. -/
def nestedSource : String :=
  "void F() { } namespace A; namespace B { class C { int M() => 0; } }"

def nestedMethod : Declaration :=
  .method ⟨"M", "int", [], []⟩

def nestedType : Declaration :=
  .type ⟨.classWord, "C", none, []⟩ [nestedMethod]

def nestedScope : Declaration :=
  .scope "B" [nestedType]

theorem nestedSource_misplaces_nothing :
    readSource nestedSource = .ok [.scope "A" [nestedScope]] ∧
      Occurs [.scope "A" [nestedScope], nestedScope, nestedType] nestedMethod
        [.scope "A" [nestedScope]] ∧
      ∃ outer ∈ [Declaration.scope "A" [nestedScope], nestedScope, nestedType],
        outer.isType = true := by
  have read : readSource nestedSource = .ok [.scope "A" [nestedScope]] := by
    decide +kernel
  have occurs : Occurs [.scope "A" [nestedScope], nestedScope, nestedType]
      nestedMethod [.scope "A" [nestedScope]] :=
    .within List.mem_cons_self (.within List.mem_cons_self
      (.within List.mem_cons_self (.here List.mem_cons_self)))
  exact ⟨read, occurs,
    (sources_never_misplace_declarations.2 _ _ read _ _ occurs).2 rfl⟩

end ClassDiagram
