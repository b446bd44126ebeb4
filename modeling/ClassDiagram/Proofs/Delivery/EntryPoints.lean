import ClassDiagram.Proofs.Delivery.CommandOutcomes

/-!
# Entry points

A diagram is made of labelled files by a command or of their contents alone,
and a report checks the files one by one.  The three agree: both diagrams are
the same document, both fail because of the same file if one cannot be read,
and the report counts the files that cannot be read.

The header with artifacts shows no date, so the moments at which the two
diagrams are made do not matter.
-/

namespace ClassDiagram

/-! ## Names that have no module -/

/-- A namespace has no module under the root. -/
def IsDerivationError (root : String) (error : DiagramError) : Prop :=
  ∃ name, error = .outsideRoot name root ∨ error = .rootItself name

theorem moduleName_derivation {root name : String} {error : DiagramError}
    (refused : moduleName root name = .error error) :
    IsDerivationError root error := by
  unfold moduleName at refused
  split at refused
  · cases refused
  · split at refused
    · cases refused
      exact ⟨name, .inl rfl⟩
    · cases refused
      exact ⟨name, .inr rfl⟩
    · cases refused

mutual

/-- Drawing fails at a declaration out of place or at a name without a
module. -/
theorem drawDeclaration_derivation {root : String} {error : DiagramError} :
    ∀ (declaration : Declaration) (place : Place) (sections : Sections),
      drawDeclaration root place declaration sections = .error error →
        (∃ fault, error = .tree fault) ∨ IsDerivationError root error
  | .scope name members, place, sections, refused => by
      rw [drawDeclaration] at refused
      split at refused
      · cases refused
        exact .inl ⟨_, rfl⟩
      · dsimp only at refused
        split at refused
        · rename_i underived
          cases refused
          exact .inr (moduleName_derivation underived)
        · exact drawAll_derivation members _ _ refused
  | .type header members, place, sections, refused => by
      rw [drawDeclaration] at refused
      split at refused
      · rename_i inside
        cases refused
        exact drawAll_derivation members _ _ inside
      · cases refused
  | .enumeration declared, place, sections, refused => by
      rw [drawDeclaration] at refused
      cases refused
  | .method declared, place, sections, refused => by
      rw [drawDeclaration] at refused
      split at refused
      · cases refused
      · cases refused
        exact .inl ⟨_, rfl⟩

theorem drawAll_derivation {root : String} {error : DiagramError} :
    ∀ (declarations : List Declaration) (place : Place)
      (sections : Sections),
      drawAll root place declarations sections = .error error →
        (∃ fault, error = .tree fault) ∨ IsDerivationError root error
  | [], place, sections, refused => by
      rw [drawAll] at refused
      cases refused
  | first :: others, place, sections, refused => by
      rw [drawAll] at refused
      split at refused
      · rename_i firstRefused
        cases refused
        exact drawDeclaration_derivation first _ _ firstRefused
      · exact drawAll_derivation others _ _ refused

end

/-- Under a root that is one, only a name without a module keeps what was
read from being drawn. -/
theorem renderOutlines_derivation {settings : Settings}
    {sources : List String} {outlines : List Outline} {error : DiagramError}
    (valid : validateRoot settings.root = .ok ())
    (read : readSources sources = .ok outlines)
    (refused : renderOutlines settings outlines = .error error) :
    IsDerivationError settings.root error := by
  have noTree := renderOutlines_ne_tree (readSources_wellPlaced read) settings
  unfold renderOutlines Settings.validate at refused noTree
  rw [valid] at refused noTree
  dsimp only at refused noTree
  cases drawn : drawOutlines settings.root outlines with
  | ok sections =>
      rw [drawn] at refused
      cases refused
  | error stopped =>
      rw [drawn] at refused noTree
      cases refused
      rcases drawAll_derivation _ _ _ drawn with ⟨fault, rfl⟩ | underived
      · exact absurd rfl (noTree fault)
      · exact underived

namespace CommandLine

/-! ## The first source that cannot be read -/

def isReadable (source : SourceFile) : Bool :=
  (readSource source.content).isOk

/-- All sources in front of this one have an outline, and this one has not
for this cause. -/
structure FirstRefused (sources : List SourceFile) (source : SourceFile)
    (error : DiagramError) : Prop where
  place : ∃ before after, sources = before ++ source :: after ∧
    ∀ earlier ∈ before, isReadable earlier = true
  refused : readSource source.content = .error error

theorem isReadable_of_ok {source : SourceFile} {outline : Outline}
    (read : readSource source.content = .ok outline) :
    isReadable source = true := by
  rw [isReadable, read]
  rfl

theorem FirstRefused.cons {source first : SourceFile}
    {others : List SourceFile} {error : DiagramError}
    (readable : isReadable first = true)
    (isFirst : FirstRefused others source error) :
    FirstRefused (first :: others) source error := by
  obtain ⟨⟨before, after, split, earlier⟩, refused⟩ := isFirst
  refine ⟨⟨first :: before, after, ?_, ?_⟩, refused⟩
  · rw [split, List.cons_append]
  · exact List.forall_mem_cons.2 ⟨readable, earlier⟩

/-- Reading labelled sources and reading their contents ends alike: in the
outlines of all, or at the first one that cannot be read. -/
theorem readOutlines_spec (sources : List SourceFile) :
    (∃ outlines, (∀ source ∈ sources, isReadable source = true) ∧
      readOutlines sources = .ok outlines ∧
      readSources (sources.map (·.content)) = .ok outlines) ∨
    ∃ source error, FirstRefused sources source error ∧
      readOutlines sources = .error (.source source.label error) ∧
      readSources (sources.map (·.content)) = .error error := by
  induction sources with
  | nil =>
      exact .inl ⟨[], nofun, rfl, rfl⟩
  | cons source others inductionHypothesis =>
      rw [readOutlines, List.map_cons, readSources]
      cases read : readSource source.content with
      | error error =>
          exact .inr ⟨source, error,
            ⟨⟨[], others, rfl, nofun⟩, read⟩, rfl, rfl⟩
      | ok outline =>
          have readable := isReadable_of_ok read
          rcases inductionHypothesis with
            ⟨outlines, all, labelled, contents⟩ |
              ⟨later, error, isFirst, labelled, contents⟩
          · rw [labelled, contents]
            exact .inl ⟨outline :: outlines,
              List.forall_mem_cons.2 ⟨readable, all⟩, rfl, rfl⟩
          · rw [labelled, contents]
            exact .inr ⟨later, error, isFirst.cons readable, rfl, rfl⟩

theorem FirstRefused.exists_mem {sources : List SourceFile}
    {source : SourceFile} {error : DiagramError}
    (isFirst : FirstRefused sources source error) :
    ∃ broken ∈ sources, isReadable broken = false := by
  obtain ⟨⟨before, after, rfl, _⟩, refused⟩ := isFirst
  refine ⟨source, List.mem_append_right before List.mem_cons_self, ?_⟩
  rw [isReadable, refused]
  rfl

/-! ## Reports -/

theorem isFailure_ofSource (source : SourceFile) :
    (Verdict.ofSource source).isFailure = !isReadable source := by
  unfold Verdict.isFailure Verdict.ofSource isReadable
  cases readSource source.content <;> rfl

/-- A report counts the sources that have no outline. -/
theorem checkSources_failures (sources : List SourceFile) :
    (checkSources sources).failures =
      sources.countP fun source => !isReadable source := by
  have failing : Verdict.isFailure ∘ Verdict.ofSource =
      fun source => !isReadable source := funext isFailure_ofSource
  change (sources.map Verdict.ofSource).countP Verdict.isFailure = _
  rw [List.countP_map, failing]

theorem checkSources_failures_eq_zero_iff (sources : List SourceFile) :
    (checkSources sources).failures = 0 ↔
      ∀ source ∈ sources, isReadable source = true := by
  rw [checkSources_failures, List.countP_eq_zero]
  simp

/-! ## Agreement -/

def plainSettings (root : String) (moment : Timestamp) : Settings :=
  { root := root, header := .breadcrumb, timestamp := moment }

/-- The plain header shows no date. -/
theorem renderOutlines_plain (root : String) (now later : Timestamp)
    (outlines : List Outline) :
    renderOutlines (plainSettings root now) outlines =
      renderOutlines (plainSettings root later) outlines :=
  rfl

theorem renderSourceFiles_of_read {sources : List SourceFile}
    {outlines : List Outline} (read : readOutlines sources = .ok outlines)
    (settings : Settings) :
    renderSourceFiles settings sources =
      (renderOutlines settings outlines).mapError .diagram := by
  rw [renderSourceFiles, read]

theorem renderSources_of_refused {sources : List String}
    {error : DiagramError} (refused : readSources sources = .error error)
    {settings : Settings} (valid : validateRoot settings.root = .ok ()) :
    renderSources settings sources = .error error := by
  rw [renderSources, Settings.validate, valid, refused]

section

variable {root : String} {now later : Timestamp} {sources : List SourceFile}

/-- What both diagrams are, if they are made. -/
theorem renderSourceFiles_eq_ok_iff_contents {document : String} :
    renderSourceFiles (plainSettings root now) sources = .ok document ↔
      renderSources (plainSettings root later) (sources.map (·.content)) =
        .ok document := by
  rw [renderSourceFiles_eq_ok_iff]
  rcases readOutlines_spec sources with
    ⟨outlines, _, _, read⟩ | ⟨source, error, _, _, refused⟩
  · rw [renderSources_of_read read, renderSources_of_read read,
      renderOutlines_plain root now later]
  · rw [renderSources, renderSources, refused]
    rfl

/-- The cause for which both diagrams are not made. -/
theorem exists_of_renderSourceFiles_error {failure : CommandError}
    (valid : validateRoot root = .ok ())
    (failed :
      renderSourceFiles (plainSettings root now) sources = .error failure) :
    ∃ error,
      renderSources (plainSettings root later) (sources.map (·.content)) =
        .error error ∧
      ((∃ source, FirstRefused sources source error ∧
          failure = .source source.label error) ∨
        ((∀ source ∈ sources, isReadable source = true) ∧
          IsDerivationError root error ∧ failure = .diagram error)) := by
  rcases readOutlines_spec sources with
    ⟨outlines, readable, labelled, read⟩ |
      ⟨source, error, isFirst, labelled, refused⟩
  · rw [renderSourceFiles_of_read labelled] at failed
    rw [renderSources_of_read read, renderOutlines_plain root later now]
    cases drawn : renderOutlines (plainSettings root now) outlines with
    | ok document =>
        rw [drawn] at failed
        cases failed
    | error error =>
        rw [drawn] at failed
        cases failed
        have underived : IsDerivationError root error :=
          renderOutlines_derivation valid read drawn
        exact ⟨error, rfl, .inr ⟨readable, underived, rfl⟩⟩
  · rw [renderSourceFiles, labelled] at failed
    cases failed
    exact ⟨error, renderSources_of_refused refused valid,
      .inl ⟨source, isFirst, rfl⟩⟩

/-- No source is refused exactly if all of them are readable. -/
theorem renderSourceFiles_ne_source_iff {settings : Settings} :
    (∀ label error,
        renderSourceFiles settings sources ≠ .error (.source label error)) ↔
      ∀ source ∈ sources, isReadable source = true := by
  rcases readOutlines_spec sources with
    ⟨outlines, readable, labelled, _⟩ | ⟨source, error, isFirst, labelled, _⟩
  · refine iff_of_true (fun label error => ?_) readable
    rw [renderSourceFiles_of_read labelled]
    cases renderOutlines settings outlines <;> exact nofun
  · refine iff_of_false (fun notRefused => ?_) fun readable => ?_
    · apply notRefused source.label error
      rw [renderSourceFiles, labelled]
    · obtain ⟨broken, member, unreadable⟩ := isFirst.exists_mem
      rw [readable broken member] at unreadable
      cases unreadable

end

/-- Labelled sources have the document that their contents have.  Under a
root that is one, both have none for the same cause: the first source that
cannot be read, which the command names, or a namespace without a module.
The report counts the sources that cannot be read, and it counts none exactly
if the command does not fail because of one. -/
theorem entryPoints_agree (sources : List SourceFile) (root : String)
    (now later : Timestamp) :
    let command := renderSourceFiles (plainSettings root now) sources
    let contents := renderSources (plainSettings root later)
      (sources.map (·.content))
    let failures := (checkSources sources).failures
    (∀ document, command = .ok document ↔ contents = .ok document) ∧
    (validateRoot root = .ok () → ∀ failure, command = .error failure →
      ∃ error, contents = .error error ∧
        ((∃ source, FirstRefused sources source error ∧
            failure = .source source.label error ∧
            failure.wording = "Failed to parse '" ++ source.label ++ "': " ++
              error.wording) ∨
          ((∀ source ∈ sources, isReadable source = true) ∧
            IsDerivationError root error ∧ failure = .diagram error ∧
            failure.wording = error.wording))) ∧
    failures = (sources.countP fun source => !isReadable source) ∧
    (failures = 0 ↔
      ∀ label error, command ≠ .error (.source label error)) := by
  intro command contents failures
  refine ⟨fun document => renderSourceFiles_eq_ok_iff_contents,
    fun valid failure failed => ?_, checkSources_failures sources, ?_⟩
  · obtain ⟨error, contentsFail, cause⟩ :=
      exists_of_renderSourceFiles_error valid failed
    refine ⟨error, contentsFail, ?_⟩
    rcases cause with
      ⟨source, isFirst, rfl⟩ | ⟨readable, underived, rfl⟩
    · exact .inl ⟨source, isFirst, rfl, rfl⟩
    · exact .inr ⟨readable, underived, rfl, rfl⟩
  · rw [renderSourceFiles_ne_source_iff]
    exact checkSources_failures_eq_zero_iff sources

def mixedSources : List SourceFile :=
  [⟨"Outside.cs", "namespace X \x7b \x7d"⟩,
    ⟨"Broken.cs", "class A \x7b"⟩, ⟨"Good.cs", "class B \x7b \x7d"⟩,
    ⟨"Worse.cs", "\x7d"⟩]

/-- The command names the first source that cannot be read although an
earlier one lies outside the root. -/
theorem mixedSources_fail_alike :
    validateRoot "R" = .ok () ∧
      ∃ error, renderSources (plainSettings "R" {})
          (mixedSources.map (·.content)) = .error error ∧
        renderSourceFiles (plainSettings "R" {}) mixedSources =
          .error (.source "Broken.cs" error) ∧
        (checkSources mixedSources).failures = 2 := by
  have valid : validateRoot "R" = .ok () := by
    decide +kernel
  have failed : renderSourceFiles (plainSettings "R" {}) mixedSources =
      .error (.source "Broken.cs" (.source
        (.unexpected (.missingTypeEnd "A") none) ⟨1, 10⟩)) := by
    decide +kernel
  have counted : (checkSources mixedSources).failures = 2 := by
    decide +kernel
  obtain ⟨error, contentsFail, cause⟩ :=
    (entryPoints_agree mixedSources "R" {} {}).2.1 valid _ failed
  refine ⟨valid, error, contentsFail, ?_, counted⟩
  rcases cause with ⟨source, isFirst, failureEq, _⟩ | ⟨_, _, failureEq, _⟩
  · obtain ⟨_, rfl⟩ := CommandError.source.inj failureEq
    exact failed
  · cases failureEq

end CommandLine

end ClassDiagram
