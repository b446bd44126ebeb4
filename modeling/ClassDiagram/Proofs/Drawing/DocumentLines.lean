import ClassDiagram.Proofs.Drawing.DrawnLines
import ClassDiagram.Proofs.Drawing.TreeFaults
import ClassDiagram.Proofs.Reading.NamedOutlines
import ClassDiagram.Proofs.Text.BrokenLines

/-!
# Lines of a document

A document with the plain header is made of items, each with a newline behind
it.  An item takes up more than one line if a newline occurs in it, which no
name and no keyword allows: only the types that are copied may bring one.
-/

namespace ClassDiagram

open Text (segments)

def brokenText (text : String) : List (List Char) :=
  segments '\n' text.toList

def brokenTexts (items : List String) : List (List Char) :=
  items.flatMap brokenText

/-- The lines of a document; the last one has a newline behind it, too. -/
def documentLines (document : String) : List (List Char) :=
  (brokenText document).dropLast

theorem brokenText_of_one_line {text : String}
    (oneLine : '\n' ∉ text.toList) : brokenText text = [text.toList] :=
  Text.segments_of_not_mem oneLine

theorem brokenTexts_append (items others : List String) :
    brokenTexts (items ++ others) = brokenTexts items ++ brokenTexts others :=
  List.flatMap_append

theorem brokenTexts_cons (item : String) (others : List String) :
    brokenTexts (item :: others) = brokenText item ++ brokenTexts others :=
  List.flatMap_cons

theorem brokenTexts_singleton (item : String) :
    brokenTexts [item] = brokenText item :=
  List.append_nil _

/-- Items in one line each are lines. -/
theorem brokenTexts_of_one_line {items : List String}
    (oneLine : ∀ item ∈ items, '\n' ∉ item.toList) :
    brokenTexts items = items.map String.toList := by
  induction items with
  | nil =>
      rfl
  | cons item others inductionHypothesis =>
      obtain ⟨here, later⟩ := List.forall_mem_cons.1 oneLine
      rw [brokenTexts_cons, brokenText_of_one_line here,
        inductionHypothesis later, List.map_cons, List.singleton_append]

theorem brokenTexts_perm {items others : List String}
    (same : items.Perm others) :
    (brokenTexts items).Perm (brokenTexts others) :=
  same.flatMap_right brokenText

/-- Nothing is left behind the newline of the last item. -/
theorem brokenText_linesText (items : List String) :
    brokenText (linesText items) = brokenTexts items ++ [[]] := by
  induction items with
  | nil =>
      rfl
  | cons item others inductionHypothesis =>
      have text : (linesText (item :: others)).toList =
          item.toList ++ '\n' :: (linesText others).toList := by
        simp [linesText, String.toList_join]
      rw [brokenText, text, Text.segments_append_mark, brokenTexts_cons,
        List.append_assoc]
      exact congrArg _ inductionHypothesis

/-! ## Items -/

def documentItems (settings : Settings) (drawn : Sections) : List String :=
  startMarker :: "allow_mixing" ::
    (breadcrumbLines settings.segments ++
      (drawn.flatMap (sectionLines settings) ++ [endMarker]))

theorem brokenTexts_documentItems (settings : Settings) (drawn : Sections) :
    brokenTexts (documentItems settings drawn) =
      startMarker.toList :: "allow_mixing".toList ::
        (brokenTexts (breadcrumbLines settings.segments) ++
          (brokenTexts (drawn.flatMap (sectionLines settings)) ++
            [endMarker.toList])) := by
  have start : brokenText startMarker = [startMarker.toList] :=
    brokenText_of_one_line (by decide)
  have mixing : brokenText "allow_mixing" = ["allow_mixing".toList] :=
    brokenText_of_one_line (by decide)
  have last : brokenText endMarker = [endMarker.toList] :=
    brokenText_of_one_line (by decide)
  rw [documentItems, brokenTexts_cons, brokenTexts_cons, brokenTexts_append,
    brokenTexts_append, brokenTexts_singleton, start, mixing, last]
  rfl

theorem linesText_append (items others : List String) :
    linesText (items ++ others) = linesText items ++ linesText others := by
  rw [linesText, List.map_append, String.join_append]
  rfl

theorem documentText_eq {settings : Settings}
    (plain : settings.header = .breadcrumb) (drawn : Sections) :
    documentText settings drawn = linesText (documentItems settings drawn) := by
  rw [documentText, headerText, plain]
  simp only
  rw [← linesText_append, ← linesText_append, ← linesText_append]
  simp [documentItems]

theorem documentLines_linesText (items : List String) :
    documentLines (linesText items) = brokenTexts items := by
  rw [documentLines, brokenText_linesText, List.dropLast_concat]

/-- The document of sources that can be read is that of their outlines. -/
theorem renderSources_of_read {sources : List String}
    {outlines : List Outline} (read : readSources sources = .ok outlines)
    (settings : Settings) :
    renderSources settings sources = renderOutlines settings outlines := by
  rw [renderSources, read]
  cases valid : settings.validate with
  | error error =>
      rw [renderOutlines, valid]
  | ok checked =>
      rfl

/-- What a document is made of. -/
theorem exists_of_renderSources {settings : Settings}
    {sources : List String} {document : String}
    (rendered : renderSources settings sources = .ok document) :
    ∃ outlines drawn, readSources sources = .ok outlines ∧
      settings.validate = .ok () ∧
      drawOutlines settings.root outlines = .ok drawn ∧
      document = documentText settings drawn := by
  unfold renderSources at rendered
  split at rendered
  · cases rendered
  · split at rendered
    · cases rendered
    · rename_i outlines read
      obtain ⟨drawn, valid, accepted, documentEq⟩ :=
        exists_of_renderOutlines rendered
      exact ⟨outlines, drawn, read, valid, accepted, documentEq⟩

theorem readSources_named {sources : List String}
    {outlines : List Outline} (read : readSources sources = .ok outlines) :
    Declaration.AllNamed outlines.flatten := by
  have each := forall_mem_of_readSources
    (fun _ _ => readSource_named) read
  rw [Declaration.allNamed_iff]
  intro declaration member
  obtain ⟨outline, outlineMember, inOutline⟩ := List.mem_flatten.1 member
  exact Declaration.allNamed_iff.1 (each outline outlineMember) declaration
    inOutline

/-! ## Names of modules -/

/-- No segment has a sign in it. -/
theorem not_mem_of_isSegment {segment : List Char} {sign : Char}
    (isRootSegment : isSegment segment = true)
    (listed : Text.isSign sign = true) : sign ∉ segment := by
  have noNumber : Text.isAlphanumeric sign = false := by
    rw [Bool.eq_false_iff]
    exact fun number => Text.ne_of_isAlphanumeric number listed rfl
  have noUnderscore : (sign == '_') = false := by
    rw [beq_eq_false_iff_ne]
    rintro rfl
    revert listed
    decide
  intro member
  cases segment with
  | nil =>
      cases isRootSegment
  | cons first others =>
      rw [isSegment, Bool.and_eq_true, List.all_eq_true] at isRootSegment
      rcases List.mem_cons.1 member with rfl | later
      · have begins := isRootSegment.1
        rw [Text.isAlphanumeric, Bool.or_eq_false_iff] at noNumber
        rw [noNumber.1, noUnderscore] at begins
        cases begins
      · have goesOn := isRootSegment.2 sign later
        rw [noNumber, noUnderscore] at goesOn
        cases goesOn

theorem isNameText_of_isSegment {text : List Char}
    (segment : isSegment text = true) : IsNameText (String.ofList text) := by
  have signs : ∀ sign ∈ lineSigns, Text.isSign sign = true :=
    List.all_eq_true.1 (by decide)
  intro sign listed
  rw [String.toList_ofList]
  exact not_mem_of_isSegment segment (signs sign listed)

/-- The segments of a valid root are judged one by one. -/
theorem isSegment_of_validateRoot {root : String}
    (valid : validateRoot root = .ok ()) :
    ∀ segment ∈ rootSegments root, isSegment segment.toList = true := by
  unfold validateRoot at valid
  unfold rootSegments
  split at valid
  · rename_i empty
    rw [if_pos empty]
    exact nofun
  · rename_i something
    rw [if_neg something]
    split at valid
    · cases valid
    · rename_i faultless
      intro segment member
      obtain ⟨text, textMember, rfl⟩ := List.mem_map.1 member
      have noFault := List.findSome?_eq_none_iff.1 faultless text textMember
      rw [String.toList_ofList]
      unfold segmentFault? at noFault
      split at noFault
      · cases noFault
      · split at noFault
        · assumption
        · cases noFault

/-- The segments of a valid root are names. -/
theorem segments_named {settings : Settings}
    (valid : settings.validate = .ok ()) :
    ∀ segment ∈ settings.segments, IsNameText segment := by
  intro segment member
  have named := isNameText_of_isSegment
    (isSegment_of_validateRoot valid segment member)
  rwa [String.ofList_toList] at named

theorem search_followedBy {root text module : List Char}
    {segmentStart : Bool}
    (found : RootSearch.search root segmentStart text =
      .followedBy module) : module ⊆ text := by
  induction text generalizing segmentStart with
  | nil =>
      cases found
  | cons c rest inductionHypothesis =>
      rw [RootSearch.search] at found
      split at found
      · rename_i here isHere
        subst found
        split at isHere
        · unfold RootSearch.here? at isHere
          split at isHere
          · cases isHere
          · rename_i behind prefixed
            cases isHere
            have split :=
              List.isPrefixOf?_eq_some_iff_append_eq.1 prefixed
            rw [← split]
            exact fun d member => List.mem_append_right _
              (List.mem_cons_of_mem _ member)
          · cases isHere
        · cases isHere
      · exact fun d member =>
          List.mem_cons_of_mem c (inductionHypothesis found member)

theorem moduleName_named {root name module : String}
    (named : IsNameText name)
    (derived : moduleName root name = .ok module) : IsNameText module := by
  unfold moduleName at derived
  split at derived
  · cases derived
    exact named
  · split at derived
    · cases derived
    · cases derived
    · rename_i found
      cases derived
      exact named.of_subset (search_followedBy found)

def Place.Named (place : Place) : Prop :=
  ∀ outer ∈ place.enclosing, IsNameText outer

theorem Place.Named.qualify {place : Place} {name : String}
    (placeNamed : place.Named) (named : IsNameText name) :
    IsNameText (place.qualify name) := by
  unfold Place.qualify
  split
  · rename_i outer enclosing
    exact ((placeNamed outer enclosing).append Reading.isNameText_dot).append
      named
  · exact named

theorem openings_append (first others : List Event) :
    openings (first ++ others) = openings first ++ openings others := by
  induction first with
  | nil =>
      rfl
  | cons event rest inductionHypothesis =>
      cases event with
      | opened module =>
          exact congrArg (module :: ·) inductionHypothesis
      | line module text =>
          exact inductionHypothesis

theorem openings_lines (module : Option String) (texts : List String) :
    openings (texts.map (.line module)) = [] := by
  induction texts with
  | nil =>
      rfl
  | cons text others inductionHypothesis =>
      exact inductionHypothesis

mutual

theorem openings_events_named (root : String) (place : Place)
    (placeNamed : place.Named) :
    ∀ declaration : Declaration, declaration.Named →
      ∀ module ∈ openings (declaration.events root place),
        IsNameText module
  | .scope name members, named => by
      rw [Declaration.events]
      split
      · exact nofun
      · rename_i module derived
        have qualified := placeNamed.qualify named.1
        have inside :
            (place.insideScope (place.qualify name) module).Named := by
          intro outer enclosing
          cases enclosing
          exact qualified
        exact List.forall_mem_cons.2 ⟨moduleName_named qualified derived,
          openings_allEvents_named root _ inside members named.2⟩
  | .type header members, named => by
      rw [Declaration.events, openings, openings_append]
      have nothing : openings [.line place.module closingLine] = [] := rfl
      rw [nothing, List.append_nil]
      exact openings_allEvents_named root { place with insideType := true }
        placeNamed members named.2
  | .enumeration declared, _ => by
      rw [Declaration.events, openings_lines]
      exact nofun
  | .method declared, _ => by
      rw [Declaration.events]
      exact nofun

theorem openings_allEvents_named (root : String) (place : Place)
    (placeNamed : place.Named) :
    ∀ declarations : List Declaration, Declaration.AllNamed declarations →
      ∀ module ∈ openings (Declaration.allEvents root place declarations),
        IsNameText module
  | [], _ => nofun
  | first :: others, named => by
      rw [Declaration.allEvents, openings_append, List.forall_mem_append]
      exact ⟨openings_events_named root place placeNamed first named.1,
        openings_allEvents_named root place placeNamed others named.2⟩

end

theorem openings_trace_named {root : String} {outlines : List Outline}
    (named : Declaration.AllNamed outlines.flatten) :
    ∀ module ∈ openings (trace root outlines), IsNameText module :=
  openings_allEvents_named root {} nofun _ named

end ClassDiagram
