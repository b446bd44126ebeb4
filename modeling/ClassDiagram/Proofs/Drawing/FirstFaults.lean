import ClassDiagram.Proofs.Drawing.DocumentLines
import ClassDiagram.Proofs.Drawing.TreeFaults
import ClassDiagram.Proofs.Printing.TypeText

/-!
# The first fault of a diagram

Whether outlines can be drawn is a matter of each declaration and of the
declarations around it: a namespace has no type around it and a full name
with a module, and a method has a type around it.  Drawing comes to the
declarations in preorder, so the first one that breaks these rules is the one
that is reported.  A bad root is reported before any of them.
-/

namespace ClassDiagram

open Declaration (Occurs)

/-! ## Visits -/

/-- A declaration with the declarations around it, outermost first. -/
structure Visit where
  enclosing : List Declaration
  declaration : Declaration

namespace Declaration

mutual

/-- A declaration and those inside it in preorder. -/
def visits (enclosing : List Declaration) : Declaration → List Visit
  | .scope name members =>
      ⟨enclosing, .scope name members⟩ ::
        visitsOfAll (enclosing ++ [.scope name members]) members
  | .type header members =>
      ⟨enclosing, .type header members⟩ ::
        visitsOfAll (enclosing ++ [.type header members]) members
  | .enumeration declared => [⟨enclosing, .enumeration declared⟩]
  | .method declared => [⟨enclosing, .method declared⟩]

def visitsOfAll (enclosing : List Declaration) :
    List Declaration → List Visit
  | [] => []
  | first :: others =>
      first.visits enclosing ++ visitsOfAll enclosing others

end

/-- The visits of a declaration are its own one and those inside it. -/
theorem visits_eq (enclosing : List Declaration)
    (declaration : Declaration) :
    declaration.visits enclosing =
      ⟨enclosing, declaration⟩ ::
        visitsOfAll (enclosing ++ [declaration]) declaration.members := by
  cases declaration <;> rfl

theorem occurs_nil {enclosing : List Declaration} {declaration : Declaration} :
    ¬ Occurs enclosing declaration [] := by
  intro occurs
  cases occurs <;> contradiction

/-- What occurs among some declarations is the first one, lies inside it or
occurs among the others. -/
theorem occurs_cons_iff {enclosing others : List Declaration}
    {declaration first : Declaration} :
    Occurs enclosing declaration (first :: others) ↔
      (enclosing = [] ∧ declaration = first) ∨
        (∃ inner, enclosing = first :: inner ∧
          Occurs inner declaration first.members) ∨
        Occurs enclosing declaration others := by
  constructor
  · intro occurs
    cases occurs with
    | here member =>
        rcases List.mem_cons.1 member with rfl | later
        · exact .inl ⟨rfl, rfl⟩
        · exact .inr (.inr (.here later))
    | within member inner =>
        rcases List.mem_cons.1 member with rfl | later
        · exact .inr (.inl ⟨_, rfl, inner⟩)
        · exact .inr (.inr (.within later inner))
  · rintro (⟨rfl, rfl⟩ | ⟨inner, rfl, occurs⟩ | occurs)
    · exact .here List.mem_cons_self
    · exact .within List.mem_cons_self occurs
    · cases occurs with
      | here member =>
          exact .here (List.mem_cons_of_mem first member)
      | within member inner =>
          exact .within (List.mem_cons_of_mem first member) inner

mutual

theorem mem_visits_iff {visit : Visit} (around : List Declaration) :
    ∀ declaration : Declaration,
      visit ∈ declaration.visits around ↔
        visit = ⟨around, declaration⟩ ∨
          ∃ inner, visit.enclosing = around ++ declaration :: inner ∧
            Occurs inner visit.declaration declaration.members
  | .scope name members => by
      rw [visits, List.mem_cons, mem_visitsOfAll_iff _ members]
      simp only [List.append_assoc, List.singleton_append]
      rfl
  | .type header members => by
      rw [visits, List.mem_cons, mem_visitsOfAll_iff _ members]
      simp only [List.append_assoc, List.singleton_append]
      rfl
  | .enumeration declared => by
      simp [visits, members, occurs_nil]
  | .method declared => by
      simp [visits, members, occurs_nil]

/-- Exactly what occurs somewhere is visited. -/
theorem mem_visitsOfAll_iff {visit : Visit} (around : List Declaration) :
    ∀ declarations : List Declaration,
      visit ∈ visitsOfAll around declarations ↔
        ∃ enclosing, visit.enclosing = around ++ enclosing ∧
          Occurs enclosing visit.declaration declarations
  | [] => by
      simp [visitsOfAll, occurs_nil]
  | first :: others => by
      rw [visitsOfAll, List.mem_append, mem_visits_iff around first,
        mem_visitsOfAll_iff around others]
      constructor
      · rintro ((rfl | ⟨inner, split, occurs⟩) | ⟨inner, split, occurs⟩)
        · exact ⟨[], (List.append_nil _).symm, .here List.mem_cons_self⟩
        · exact ⟨first :: inner, split,
            occurs_cons_iff.2 (.inr (.inl ⟨inner, rfl, occurs⟩))⟩
        · exact ⟨inner, split, occurs_cons_iff.2 (.inr (.inr occurs))⟩
      · rintro ⟨enclosing, split, occurs⟩
        rcases occurs_cons_iff.1 occurs with
          ⟨rfl, same⟩ | ⟨inner, rfl, inside⟩ | later
        · rw [List.append_nil] at split
          exact .inl (.inl (by rw [← split, ← same]))
        · exact .inl (.inr ⟨inner, split, inside⟩)
        · exact .inr ⟨enclosing, split, later⟩

end

end Declaration

/-! ## Faults -/

/-- The full name of a namespace: the names of the namespaces around it and
its own one. -/
def fullName (enclosing : List Declaration) (name : String) : String :=
  dottedText
    ((enclosing.filter Declaration.isScope).map Declaration.name ++ [name])

/-- The rule that a namespace breaks inside these declarations: no type is
around it, and its full name has a module. -/
def scopeFault? (root : String) (enclosing : List Declaration)
    (name : String) : Option DiagramError :=
  if enclosing.any Declaration.isType then
    some (.tree (.scopeInsideType name))
  else
    match moduleName root (fullName enclosing name) with
    | .error error => some error
    | .ok _ => none

/-- The rule that a method breaks inside these declarations: a type is around
it. -/
def methodFault? (enclosing : List Declaration) (name : String) :
    Option DiagramError :=
  if enclosing.any Declaration.isType then
    none
  else
    some (.tree (.methodOutsideType name))

/-- The rule that a declaration breaks, if it breaks one. -/
def Visit.fault? (root : String) (visit : Visit) : Option DiagramError :=
  match visit.declaration with
  | .scope name _ => scopeFault? root visit.enclosing name
  | .method declared => methodFault? visit.enclosing declared.name
  | _ => none

/-- The first rule that is broken in preorder. -/
def firstFault? (root : String) (enclosing : List Declaration)
    (declarations : List Declaration) : Option DiagramError :=
  (Declaration.visitsOfAll enclosing declarations).findSome?
    (Visit.fault? root)

/-- A result fails with this error, or does not fail if there is none. -/
def EndsWith {α : Type} (result : Except DiagramError α) :
    Option DiagramError → Prop
  | some error => result = .error error
  | none => ∃ value, result = .ok value

namespace EndsWith

variable {α β : Type} {result : Except DiagramError α}
  {fault : Option DiagramError}

theorem error_iff (ends : EndsWith result fault) {error : DiagramError} :
    result = .error error ↔ fault = some error := by
  cases fault with
  | some first =>
      have failed : result = .error first := ends
      simp [failed]
  | none =>
      obtain ⟨value, made⟩ := ends
      simp [made]

theorem ok_iff (ends : EndsWith result fault) :
    (∃ value, result = .ok value) ↔ fault = none := by
  cases fault with
  | some first =>
      have failed : result = .error first := ends
      simp [failed]
  | none => exact iff_of_true ends rfl

theorem map (ends : EndsWith result fault) (f : α → β) :
    EndsWith (result.map f) fault := by
  cases fault with
  | some first =>
      have failed : result = .error first := ends
      rw [failed]
      rfl
  | none =>
      obtain ⟨value, made⟩ := ends
      exact ⟨f value, by rw [made]; rfl⟩

/-- What goes on behind a result fails with the first fault of both. -/
theorem bind {next : α → Except DiagramError β} {later : Option DiagramError}
    (ends : EndsWith result fault)
    (goesOn : ∀ value, EndsWith (next value) later) :
    EndsWith (result.bind next) (fault.or later) := by
  cases fault with
  | some first =>
      have failed : result = .error first := ends
      rw [failed]
      rfl
  | none =>
      obtain ⟨value, made⟩ := ends
      rw [made, Option.none_or]
      exact goesOn value

end EndsWith

/-! ## Drawing stops at the first fault -/

structure Place.LiesIn (place : Place) (enclosing : List Declaration) :
    Prop where
  insideType : place.insideType = enclosing.any Declaration.isType
  qualify : ∀ name, place.qualify name = fullName enclosing name

theorem Place.liesIn_nothing : Place.LiesIn {} [] := by
  refine ⟨rfl, fun name => ?_⟩
  rw [fullName, dottedText, List.filter_nil, List.map_nil, List.nil_append,
    String.intercalate_singleton]
  rfl

theorem Place.LiesIn.insideScope {place : Place}
    {enclosing : List Declaration} (liesIn : place.LiesIn enclosing)
    (name module : String) (members : List Declaration) :
    (place.insideScope (place.qualify name) module).LiesIn
      (enclosing ++ [.scope name members]) := by
  constructor
  · rw [List.any_append, ← liesIn.insideType]
    simp [Place.insideScope, Declaration.isType]
  · intro inner
    have outerName := liesIn.qualify name
    rw [fullName, List.filter_append, List.map_append]
    change place.qualify name ++ "." ++ inner = dottedText (_ ++ [name] ++ _)
    rw [dottedText_concat (by simp), outerName, fullName]

theorem Place.LiesIn.inType {place : Place} {enclosing : List Declaration}
    (liesIn : place.LiesIn enclosing) (header : TypeHeader)
    (members : List Declaration) :
    Place.LiesIn { place with insideType := true }
      (enclosing ++ [.type header members]) := by
  constructor
  · simp [Declaration.isType]
  · intro inner
    rw [fullName, List.filter_append]
    change place.qualify inner = dottedText (List.map _ (_ ++ []) ++ _)
    rw [List.append_nil, liesIn.qualify, fullName]

theorem firstFault?_cons (root : String) (enclosing : List Declaration)
    (first : Declaration) (others : List Declaration) :
    firstFault? root enclosing (first :: others) =
      ((Visit.fault? root ⟨enclosing, first⟩).or
        (firstFault? root (enclosing ++ [first]) first.members)).or
          (firstFault? root enclosing others) := by
  rw [firstFault?, Declaration.visitsOfAll, List.findSome?_append,
    Declaration.visits_eq, List.findSome?_cons]
  rw [firstFault?, firstFault?]
  cases Visit.fault? root ⟨enclosing, first⟩ <;> rfl

theorem drawDeclaration_type (root : String) (place : Place)
    (header : TypeHeader) (members : List Declaration) (sections : Sections) :
    drawDeclaration root place (.type header members) sections =
      (drawAll root { place with insideType := true } members
        (addLine place.module (typeLine header) sections)).map
          (addLine place.module closingLine) := by
  rw [drawDeclaration]
  cases drawAll root { place with insideType := true } members
    (addLine place.module (typeLine header) sections) <;> rfl

theorem drawAll_cons (root : String) (place : Place) (first : Declaration)
    (others : List Declaration) (sections : Sections) :
    drawAll root place (first :: others) sections =
      (drawDeclaration root place first sections).bind
        (drawAll root place others) := by
  rw [drawAll]
  cases drawDeclaration root place first sections <;> rfl

mutual

theorem drawDeclaration_endsWith (root : String) :
    ∀ (declaration : Declaration) {place : Place}
      {enclosing : List Declaration} (_ : place.LiesIn enclosing)
      (sections : Sections),
      EndsWith (drawDeclaration root place declaration sections)
        ((Visit.fault? root ⟨enclosing, declaration⟩).or
          (firstFault? root (enclosing ++ [declaration])
            declaration.members))
  | .scope name members, place, enclosing, liesIn, sections => by
      change EndsWith _ ((scopeFault? root enclosing name).or
        (firstFault? root _ members))
      rw [drawDeclaration, scopeFault?, ← liesIn.insideType,
        ← liesIn.qualify name]
      by_cases inside : place.insideType = true
      · rw [if_pos inside, if_pos inside]
        rfl
      · rw [if_neg inside, if_neg inside]
        dsimp only
        cases derived : moduleName root (place.qualify name) with
        | error error =>
            rfl
        | ok module =>
            exact drawAll_endsWith root members
              (liesIn.insideScope name module members) _
  | .type header members, place, enclosing, liesIn, sections => by
      have drawn := drawAll_endsWith root members
        (liesIn.inType header members)
        (addLine place.module (typeLine header) sections)
      rw [drawDeclaration_type]
      exact drawn.map (addLine place.module closingLine)
  | .enumeration declared, place, enclosing, liesIn, sections => by
      rw [drawDeclaration]
      exact ⟨_, rfl⟩
  | .method declared, place, enclosing, liesIn, sections => by
      change EndsWith _ ((methodFault? enclosing declared.name).or none)
      rw [drawDeclaration, methodFault?, ← liesIn.insideType]
      by_cases inside : place.insideType = true
      · rw [if_pos inside, if_pos inside]
        exact ⟨_, rfl⟩
      · rw [if_neg inside, if_neg inside]
        rfl

theorem drawAll_endsWith (root : String) :
    ∀ (declarations : List Declaration) {place : Place}
      {enclosing : List Declaration} (_ : place.LiesIn enclosing)
      (sections : Sections),
      EndsWith (drawAll root place declarations sections)
        (firstFault? root enclosing declarations)
  | [], place, enclosing, liesIn, sections => by
      rw [drawAll]
      exact ⟨_, rfl⟩
  | first :: others, place, enclosing, liesIn, sections => by
      have firstDrawn := drawDeclaration_endsWith root first liesIn sections
      rw [drawAll_cons, firstFault?_cons]
      exact firstDrawn.bind fun drawn =>
        drawAll_endsWith root others liesIn drawn

end

/-! ## The outcome of a document -/

/-- A root is a dotted name, unless it is empty. -/
def IsRoot (root : String) : Prop :=
  ∀ segment ∈ rootSegments root, isSegment segment.toList = true

/-- The check of a root accepts exactly the dotted names. -/
theorem validateRoot_outcome (root : String) :
    (IsRoot root ∧ validateRoot root = .ok ()) ∨
      ¬ IsRoot root ∧
        ∃ fault, validateRoot root = .error (.configuration fault) := by
  cases checked : validateRoot root with
  | ok answer =>
      exact .inl ⟨isSegment_of_validateRoot checked, rfl⟩
  | error error =>
      right
      unfold validateRoot at checked
      split at checked
      · cases checked
      · rename_i something
        split at checked
        · rename_i fault found
          cases checked
          refine ⟨fun isRoot => ?_, fault, rfl⟩
          obtain ⟨segment, member, faulty⟩ :=
            List.exists_of_findSome?_eq_some found
          have accepted := isRoot (String.ofList segment) (by
            rw [rootSegments, if_neg something]
            exact List.mem_map_of_mem member)
          rw [String.toList_ofList] at accepted
          rw [segmentFault?, if_neg (by rintro rfl; cases accepted),
            if_pos accepted] at faulty
          cases faulty
        · cases checked

/-- A declaration keeps the rules inside these declarations: a namespace has
no type around it and a module, and a method has a type around it. -/
def KeepsRules (root : String) (enclosing : List Declaration)
    (declaration : Declaration) : Prop :=
  (declaration.isScope = true →
    (∀ outer ∈ enclosing, outer.isType = false) ∧
      ∃ module,
        moduleName root (fullName enclosing declaration.name) =
          .ok module) ∧
    (declaration.isMethod = true → ∃ outer ∈ enclosing, outer.isType = true)

theorem fault?_eq_none_iff {root : String} {visit : Visit} :
    visit.fault? root = none ↔
      KeepsRules root visit.enclosing visit.declaration := by
  obtain ⟨enclosing, declaration⟩ := visit
  cases declaration with
  | scope name members =>
      change scopeFault? root enclosing name = none ↔ _
      simp only [KeepsRules, Declaration.isScope, Declaration.isMethod,
        Declaration.name, forall_const, Bool.false_eq_true, false_implies,
        and_true]
      rw [scopeFault?]
      cases typed : enclosing.any Declaration.isType with
      | true =>
          obtain ⟨outer, member, isType⟩ := List.any_eq_true.1 typed
          rw [if_pos rfl]
          refine ⟨nofun, fun rules => ?_⟩
          rw [rules.1 outer member] at isType
          cases isType
      | false =>
          have noType : ∀ outer ∈ enclosing, outer.isType = false := by
            simpa using typed
          rw [if_neg Bool.false_ne_true]
          cases derived : moduleName root (fullName enclosing name) with
          | error error =>
              simp
          | ok module =>
              simpa using noType
  | method declared =>
      change methodFault? enclosing declared.name = none ↔ _
      simp [KeepsRules, methodFault?, Declaration.isScope,
        Declaration.isMethod]
  | type header members =>
      simp [Visit.fault?, KeepsRules, Declaration.isScope,
        Declaration.isMethod]
  | enumeration declared =>
      simp [Visit.fault?, KeepsRules, Declaration.isScope,
        Declaration.isMethod]

theorem firstFault?_eq_none_iff {root : String}
    {declarations : List Declaration} :
    firstFault? root [] declarations = none ↔
      ∀ enclosing declaration, Occurs enclosing declaration declarations →
        KeepsRules root enclosing declaration := by
  rw [firstFault?, List.findSome?_eq_none_iff]
  constructor
  · intro faultless enclosing declaration occurs
    exact fault?_eq_none_iff.1 (faultless ⟨enclosing, declaration⟩
      ((Declaration.mem_visitsOfAll_iff [] declarations).2
        ⟨enclosing, rfl, occurs⟩))
  · intro rules visit visited
    obtain ⟨enclosing, enclosingEq, occurs⟩ :=
      (Declaration.mem_visitsOfAll_iff [] declarations).1 visited
    rw [List.nil_append] at enclosingEq
    rw [← enclosingEq] at occurs
    exact fault?_eq_none_iff.2 (rules visit.enclosing _ occurs)

/-- Behind a good root the declarations decide. -/
theorem renderOutlines_endsWith {settings : Settings}
    (valid : validateRoot settings.root = .ok ())
    (outlines : List Outline) :
    EndsWith (renderOutlines settings outlines)
      (firstFault? settings.root [] outlines.flatten) := by
  have drawn := drawAll_endsWith settings.root outlines.flatten
    Place.liesIn_nothing []
  have settingsValid : settings.validate = .ok () := valid
  rw [renderOutlines, settingsValid]
  exact drawn.map (documentText settings)

/-- A document is made if and only if the root is a dotted name and every
declaration keeps the rules at its place.  A bad root is reported as such,
and behind a good one the error is that of the first declaration in preorder
that breaks a rule. -/
theorem renderOutlines_outcome (settings : Settings)
    (outlines : List Outline) :
    ((∃ document, renderOutlines settings outlines = .ok document) ↔
      IsRoot settings.root ∧
        ∀ enclosing declaration,
          Occurs enclosing declaration outlines.flatten →
            KeepsRules settings.root enclosing declaration) ∧
    (¬ IsRoot settings.root →
      ∃ fault, validateRoot settings.root = .error (.configuration fault) ∧
        renderOutlines settings outlines =
          .error (.configuration fault)) ∧
    (IsRoot settings.root → ∀ error,
      renderOutlines settings outlines = .error error ↔
        ∃ before visit after,
          Declaration.visitsOfAll [] outlines.flatten =
            before ++ visit :: after ∧
          visit.fault? settings.root = some error ∧
          ∀ earlier ∈ before, earlier.fault? settings.root = none) := by
  rcases validateRoot_outcome settings.root with
    ⟨isRoot, valid⟩ | ⟨noRoot, fault, refused⟩
  · have outcome := renderOutlines_endsWith valid outlines
    refine ⟨?_, absurd isRoot, fun _ error => ?_⟩
    · rw [outcome.ok_iff, firstFault?_eq_none_iff, and_iff_right isRoot]
    · rw [outcome.error_iff, firstFault?, List.findSome?_eq_some_iff]
  · have failed : renderOutlines settings outlines =
        .error (.configuration fault) := by
      have settingsRefused : settings.validate =
        .error (.configuration fault) := refused
      rw [renderOutlines, settingsRefused]
    refine ⟨?_, fun _ => ⟨fault, refused, failed⟩,
      fun isRoot => absurd isRoot noRoot⟩
    simp [failed, noRoot]

def innerScope : Declaration :=
  .scope "Y" []

def shopMethod : Declaration :=
  .method ⟨"M", "void", [], []⟩

def shopType : Declaration :=
  .type ⟨.classWord, "C", none, []⟩ [shopMethod, innerScope]

def ordersScope : Declaration :=
  .scope "Orders" [shopType]

def lonelyMethod : Declaration :=
  .method ⟨"F", "void", [], []⟩

def shopScope : Declaration :=
  .scope "X.Shop" [ordersScope, lonelyMethod]

theorem innerScope_first_fault :
    IsRoot "X" ∧
      renderOutlines { root := "X" } [[shopScope]] =
        .error (.tree (.scopeInsideType "Y")) ∧
      ¬ IsRoot "X." ∧
      ∃ fault, renderOutlines { root := "X." } [[shopScope]] =
        .error (.configuration fault) := by
  have isRoot : IsRoot "X" := by
    unfold IsRoot
    decide +kernel
  have noRoot : ¬ IsRoot "X." := by
    unfold IsRoot
    decide +kernel
  obtain ⟨-, -, first⟩ := renderOutlines_outcome { root := "X" } [[shopScope]]
  obtain ⟨-, refused, -⟩ :=
    renderOutlines_outcome { root := "X." } [[shopScope]]
  obtain ⟨fault, -, failed⟩ := refused noRoot
  refine ⟨isRoot, (first isRoot _).2 ?_, noRoot, fault, failed⟩
  exact ⟨[⟨[], shopScope⟩, ⟨[shopScope], ordersScope⟩,
      ⟨[shopScope, ordersScope], shopType⟩,
      ⟨[shopScope, ordersScope, shopType], shopMethod⟩],
    ⟨[shopScope, ordersScope, shopType], innerScope⟩,
    [⟨[shopScope], lonelyMethod⟩], rfl, by decide +kernel,
    by decide +kernel⟩

end ClassDiagram
