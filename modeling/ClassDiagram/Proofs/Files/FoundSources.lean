import ClassDiagram.Proofs.Files.FollowedPaths
import ClassDiagram.Proofs.Files.SearchFindings

/-!
# Which sources are found

A path to a file stands for that file.  A path to a directory stands for the
sources below it, each once and in their order, unless a directory that has to
be searched cannot be listed: its path may be too long, a directory on the way
may not let pass, or its own entries may not be read.
-/

namespace ClassDiagram

open RawText (dot slash)

/-! ## Paths of the sources -/

/-- What a path to a node stands for: a file for itself, and a directory for
all sources below it, each once and in the order of their locations. -/
inductive StandsFor (extension : String) (path : RawText) :
    FileNode → List RawText → Prop
  | file (content : ByteArray) (rights : Rights) :
      StandsFor extension path (.file content rights) [path]
  | directory {entries : List (RawText × FileNode)} {rights : Rights}
      {locations : List Location}
      (exact : ∀ location, location ∈ locations ↔
        IsSource extension (.directory entries rights) location)
      (inOrder : locations.Pairwise Precedes)
      (once : (locations.map (pathBelow path)).Nodup) :
      StandsFor extension path (.directory entries rights)
        (locations.map (pathBelow path))

/-- At this location below a path to a node there is a directory which has to
be searched, but cannot be listed. -/
structure IsShutOff (path : RawText) (root : FileNode) (location : Location) :
    Prop where
  notHidden : ∀ name ∈ location, ¬ IsHiddenName name
  notBuilt : ∀ name ∈ location, name ≠ "bin" ∧ name ≠ "obj"
  isShut : ∃ entries rights,
    root.node? location = some (.directory entries rights) ∧
      (FileSystem.longestPath < (pathBelow path location).bytes.length ∨
        (∃ upper name deeper node, location = upper ++ name :: deeper ∧
          root.node? upper = some node ∧ node.rights.toPass = false) ∨
        rights.toRead = false)

theorem nodup_map_pathBelow {extension : String} {root : FileNode}
    {locations : List Location} (isTree : root.IsTree)
    (areSources : ∀ location ∈ locations, IsSource extension root location)
    (inOrder : locations.Pairwise Precedes) (path : RawText) :
    (locations.map (pathBelow path)).Nodup := by
  have areNames : ∀ location ∈ locations,
      ∀ name ∈ location, IsEntryName name := by
    intro location isThere
    obtain ⟨content, rights, isFile⟩ := (areSources location isThere).isFile
    exact isTree.isEntryName isFile
  refine List.Nodup.map_on ?_ (inOrder.imp Precedes.ne)
  intro first isFirst second isSecond same
  exact pathBelow_inj (areNames first isFirst) (areNames second isSecond) same

/-- A path that leads to nothing, or to a directory that cannot be searched
as a whole. -/
inductive FileSystem.IsUnusable (system : FileSystem) (path : RawText) : Prop
  | missing (nothing : system.node? path = none)
  | shutOff {root : FileNode} {location : Location}
      (isThere : system.node? path = some root)
      (isShutOff : IsShutOff path root location)

/-- Several outcomes are either all results, or one of them is the fault of
all. -/
theorem mapM_id_cases {α ε : Type} (outcomes : List (Except ε α)) :
    (∃ results, outcomes = results.map .ok ∧
      outcomes.mapM id = .ok results) ∨
    ∃ fault, .error fault ∈ outcomes ∧
      outcomes.mapM id = .error fault := by
  induction outcomes with
  | nil => exact .inl ⟨[], rfl, rfl⟩
  | cons outcome others inductionHypothesis =>
      rw [List.mapM_cons]
      cases outcome with
      | error fault => exact .inr ⟨fault, List.mem_cons_self, rfl⟩
      | ok result =>
          obtain ⟨results, rfl, all⟩ | ⟨fault, isThere, fails⟩ :=
            inductionHypothesis
          · rw [all]
            exact .inl ⟨result :: results, rfl, rfl⟩
          · rw [fails]
            exact .inr ⟨fault, List.mem_cons_of_mem _ isThere, rfl⟩

namespace FileSystem

variable {system : FileSystem} {extension : String} {path : RawText}

theorem node?_isTree (isTree : system.top.IsTree) {node : FileNode}
    (isThere : system.node? path = some node) : node.IsTree := by
  obtain ⟨location, -, isThere⟩ := exists_location_of_node? isThere
  exact isTree.below isThere

theorem readEntries_fails_iff (isTree : system.top.IsTree) {root : FileNode}
    (isThere : system.node? path = some root) {location : Location}
    {entries : List (RawText × FileNode)} {rights : Rights}
    (isDirectory : root.node? location = some (.directory entries rights)) :
    (∃ fault, system.readEntries (pathBelow path location) = .error fault) ↔
      longestPath < (pathBelow path location).bytes.length ∨
        (∃ upper name deeper node, location = upper ++ name :: deeper ∧
          root.node? upper = some node ∧ node.rights.toPass = false) ∨
        rights.toRead = false := by
  rw [readEntries_pathBelow isTree isThere isDirectory,
    ← FileNode.isPassable_eq_false_iff isDirectory]
  split_ifs with long listed
  · exact iff_of_true ⟨_, rfl⟩ (.inl long)
  · rw [Bool.and_eq_true] at listed
    simp [long, listed]
  · rw [Bool.and_eq_true, not_and_or, Bool.not_eq_true,
      Bool.not_eq_true] at listed
    exact iff_of_true ⟨_, rfl⟩ (.inr listed)

/-- Which directories cannot be listed is told by their rights, those of the
directories on the way and the lengths of their paths. -/
theorem isShut_iff (isTree : system.top.IsTree) {root : FileNode}
    (isThere : system.node? path = some root) {location : Location} :
    system.IsShut path root location ↔ IsShutOff path root location := by
  constructor
  · rintro ⟨⟨entries, rights, isDirectory⟩, areOpen, fails⟩
    exact ⟨fun name isOnWay => (areOpen name isOnWay).notHidden,
      fun name isOnWay => (areOpen name isOnWay).notBuilt,
      entries, rights, isDirectory,
      (readEntries_fails_iff isTree isThere isDirectory).1 fails⟩
  · rintro ⟨notHidden, notBuilt, entries, rights, isDirectory, isShut⟩
    exact ⟨⟨entries, rights, isDirectory⟩,
      fun name isOnWay => ⟨notHidden name isOnWay, notBuilt name isOnWay⟩,
      (readEntries_fails_iff isTree isThere isDirectory).2 isShut⟩

theorem isUnusable_iff {node : FileNode} (isTree : system.top.IsTree)
    (isThere : system.node? path = some node) :
    system.IsUnusable path ↔ ∃ cause, .error cause ∈
      system.findings extension path node := by
  rw [exists_error_mem_findings_iff (node?_isTree isTree isThere)]
  constructor
  · rintro (nothing | ⟨isRoot, isShutOff⟩)
    · rw [isThere] at nothing
      cases nothing
    · rw [isThere] at isRoot
      cases isRoot
      exact ⟨_, (isShut_iff isTree isThere).2 isShutOff⟩
  · rintro ⟨location, shut⟩
    exact .shutOff isThere ((isShut_iff isTree isThere).1 shut)

section

variable {entries : List (RawText × FileNode)} {rights : Rights}

theorem sourcesOf_of_results {locations : List Location}
    (isThere : system.node? path = some (.directory entries rights))
    (all : (system.findings extension path
      (.directory entries rights)).mapM id = .ok locations) :
    system.sourcesOf extension path =
      .ok (locations.map (pathBelow path)) := by
  simp only [sourcesOf, isThere, all]

theorem sourcesOf_of_fault {cause : ScanFault}
    (isThere : system.node? path = some (.directory entries rights))
    (fails : (system.findings extension path
      (.directory entries rights)).mapM id = .error cause) :
    system.sourcesOf extension path = .error (.unscanned path cause) := by
  simp only [sourcesOf, isThere, fails]

/-- A search that comes to sources alone has found what its path stands for. -/
theorem standsFor_of_findings {locations : List Location}
    (isTree : (FileNode.directory entries rights).IsTree)
    (all : system.findings extension path (.directory entries rights) =
      locations.map .ok) :
    StandsFor extension path (.directory entries rights)
      (locations.map (pathBelow path)) := by
  have noError : ∀ cause, .error cause ∉
      system.findings extension path (.directory entries rights) := by
    simp [all]
  have exact (location : Location) : location ∈ locations ↔
      IsSource extension (.directory entries rights) location := by
    rw [← ok_mem_findings_iff isTree noError, all]
    simp
  have pairwise : (system.findings extension path
      (.directory entries rights)).Pairwise InOrder :=
    findings_pairwise isTree
  rw [all, List.pairwise_map] at pairwise
  exact .directory exact pairwise
    (nodup_map_pathBelow isTree (fun _ => (exact _).1) pairwise path)

end

/-- A path is unusable, or stands for the sources that it has. -/
theorem sourcesOf_outcome (isTree : system.top.IsTree) (extension : String)
    (path : RawText) :
    (∃ fault, system.sourcesOf extension path = .error fault ∧
      system.IsUnusable path) ∨
    ∃ group, system.sourcesOf extension path = .ok group ∧
      ¬ system.IsUnusable path ∧
        ∃ node, system.node? path = some node ∧
          StandsFor extension path node group := by
  cases isThere : system.node? path with
  | none =>
      rw [sourcesOf, isThere]
      exact .inl ⟨_, rfl, .missing isThere⟩
  | some node =>
      have unusable_iff : system.IsUnusable path ↔ ∃ cause,
          .error cause ∈ system.findings extension path node :=
        isUnusable_iff isTree isThere
      rw [unusable_iff]
      cases node with
      | file content rights =>
          rw [sourcesOf, isThere, findings]
          refine .inr ⟨_, rfl, ?_, _, rfl, .file content rights⟩
          rintro ⟨cause, found⟩
          cases found
      | directory entries rights =>
          obtain ⟨locations, all, isAll⟩ | ⟨cause, found, fails⟩ :=
            mapM_id_cases
              (system.findings extension path (.directory entries rights))
          · rw [sourcesOf_of_results isThere isAll]
            have standsFor :=
              standsFor_of_findings (node?_isTree isTree isThere) all
            refine .inr ⟨_, rfl, ?_, _, rfl, standsFor⟩
            simp [all]
          · rw [sourcesOf_of_fault isThere fails]
            exact .inl ⟨_, rfl, cause, found⟩

/-- The search fails at a path that is unusable, and only there. -/
theorem discover_fails_iff (isTree : system.top.IsTree)
    {paths : List RawText} :
    (∃ fault, system.discover extension paths = .error fault) ↔
      ∃ path ∈ paths, system.IsUnusable path := by
  induction paths with
  | nil => simp [discover]
  | cons path others inductionHypothesis =>
      rw [discover]
      simp only [List.mem_cons, exists_eq_or_imp]
      rw [← inductionHypothesis]
      obtain ⟨fault, fails, unusable⟩ | ⟨group, isGroup, usable, -⟩ :=
        sourcesOf_outcome isTree extension path
      · rw [fails]
        exact iff_of_true ⟨fault, rfl⟩ (.inl unusable)
      · rw [isGroup]
        cases system.discover extension others <;>
          simp [Except.map, usable]

/-- What is found is found in groups, one for each path. -/
theorem exists_groups_of_discover (isTree : system.top.IsTree)
    {paths found : List RawText}
    (succeeded : system.discover extension paths = .ok found) :
    ∃ groups, found = List.flatten groups ∧
      List.Forall₂ (fun path group =>
        ∃ node, system.node? path = some node ∧
          StandsFor extension path node group) paths groups := by
  induction paths generalizing found with
  | nil =>
      cases succeeded
      exact ⟨[], rfl, .nil⟩
  | cons path others inductionHypothesis =>
      rw [discover] at succeeded
      obtain ⟨fault, fails, -⟩ | ⟨group, isGroup, -, standsFor⟩ :=
        sourcesOf_outcome isTree extension path
      · rw [fails] at succeeded
        cases succeeded
      · rw [isGroup] at succeeded
        cases later : system.discover extension others with
        | error fault =>
            rw [later] at succeeded
            cases succeeded
        | ok foundLater =>
            rw [later] at succeeded
            cases succeeded
            obtain ⟨groups, rfl, areGroups⟩ := inductionHypothesis later
            exact ⟨group :: groups, rfl, .cons standsFor areGroups⟩

/-- A directory with a source, another one further down, and files that are
no sources. -/
def shopEntries : List (RawText × FileNode) :=
  [("a.cs", .file .empty),
    ("a", .directory
      [("x.CS", .file .empty),
        ("bin", .directory [("built.cs", .file .empty)])]),
    (".hidden.cs", .file .empty)]

def shop : FileSystem where
  top := .directory
    [("src", .directory shopEntries),
      ("kept", .directory [("shut", .directory [] { toRead := false })])]

theorem shop_isTree : shop.top.IsTree := by
  simp only [shop, shopEntries, isTree_directory_iff, isTree_file,
    List.forall_mem_cons, List.not_mem_nil, false_implies, implies_true,
    and_true]
  decide

theorem shop_findings :
    shop.findings ".cs" "src" (.directory shopEntries) =
      [.ok ["a", "x.CS"], .ok ["a.cs"]] := by
  have besides (file below hidden : List Finding) :
      sortedByName
          [(.ofText "a.cs", file), (.ofText "a", below),
            (.ofText ".hidden.cs", hidden)] =
        [(.ofText ".hidden.cs", hidden), (.ofText "a", below),
          (.ofText "a.cs", file)] := by
    have first : nameLe "a" ".hidden.cs" = false := by decide
    have second : nameLe "a.cs" "a" = false := by decide
    simp [sortedByName, List.mergeSort, List.MergeSort.Internal.splitInTwo,
      first, second]
  have further (file below : List Finding) :
      sortedByName [(.ofText "x.CS", file), (.ofText "bin", below)] =
        [(.ofText "bin", below), (.ofText "x.CS", file)] := by
    have first : nameLe "x.CS" "bin" = false := by decide
    simp [sortedByName, List.mergeSort, List.MergeSort.Internal.splitInTwo,
      first]
  have listed : shop.readEntries "src" = .ok shopEntries := rfl
  have listedBelow : shop.readEntries (childPath "src" "a") =
      .ok [("x.CS", .file .empty),
        ("bin", .directory [("built.cs", .file .empty)])] := rfl
  rw [findings_of_readEntries listed, shopEntries]
  simp only [findingsOfEntries, besides, findings_of_readEntries listedBelow,
    further]
  decide

theorem shop_discover :
    shop.discover ".cs" ["src", "src/a.cs"] =
      .ok ["src/a/x.CS", "src/a.cs", "src/a.cs"] := by
  have directory : shop.node? "src" = some (.directory shopEntries) := rfl
  have below : shop.sourcesOf ".cs" "src" =
      .ok ["src/a/x.CS", "src/a.cs"] := by
    rw [sourcesOf_of_results directory (congrArg _ shop_findings)]
    rfl
  rw [discover, below]
  rfl

def nested : FileSystem where
  top := .directory [("sub", emptyDirectory)]

/-- A path that stays where it begins. -/
def dotSlashes (count : Nat) : RawText :=
  ⟨dot :: List.replicate count slash⟩

theorem followAll_dotSlashes (count : Nat) :
    followAll nested.top [] (pathSegments (dotSlashes count)) = .ok [] := by
  induction count with
  | zero => rfl
  | succ count inductionHypothesis =>
      have longer : dotSlashes (count + 1) =
          ⟨(dotSlashes count).bytes ++ slash :: (RawText.ofText "").bytes⟩ :=
        RawText.ext (congrArg (dot :: ·) List.replicate_succ')
      have noSlash : slash ∉ (RawText.ofText "").bytes := List.not_mem_nil
      rw [longer, pathSegments_append_slash _ noSlash, followAll_append]
      change (followAll _ _ (pathSegments (dotSlashes count))).bind _ = _
      rw [inductionHypothesis]
      rfl

theorem nested_node?_dotSlashes {count : Nat} (short : count < longestPath) :
    nested.node? (dotSlashes count) = some nested.top := by
  have noNull : 0 ∉ (dotSlashes count).bytes := by
    rw [dotSlashes, List.mem_cons, List.mem_replicate, not_or]
    exact ⟨by decide, fun null => absurd null.2 (by decide)⟩
  have isPath : IsPath (dotSlashes count) := ⟨noNull, List.cons_ne_nil _ _⟩
  have reached : nested.locate (dotSlashes count) = .ok [] := by
    refine locate_eq_ok_iff.2 ⟨?_, followAll_dotSlashes count⟩
    rw [isPath.pathFault?_eq, if_neg]
    rw [dotSlashes, List.length_cons, List.length_replicate]
    exact Nat.not_lt.2 short
  rw [node?, reached]
  rfl

theorem nested_isTree : nested.top.IsTree := by
  simp only [nested, emptyDirectory, isTree_directory_iff,
    List.forall_mem_cons, List.not_mem_nil, false_implies, implies_true,
    and_true]
  decide

theorem nested_isShutOff {count : Nat} (long : longestPath ≤ count + 3) :
    IsShutOff (dotSlashes count) nested.top [.ofText "sub"] := by
  refine ⟨by decide, by decide, [], {}, rfl, .inl ?_⟩
  have longer := length_childPath (dotSlashes count) (.ofText "sub")
  have name : (RawText.ofText "sub").bytes.length = 3 := rfl
  rw [name, dotSlashes, List.length_cons, List.length_replicate] at longer
  rw [pathBelow, List.foldl_cons, List.foldl_nil, dotSlashes]
  omega

/-- A name of bytes that are no text, with a dot at its beginning. -/
def dotted : RawText :=
  ⟨[dot, 0xFF, dot] ++ (RawText.ofText "cs").bytes⟩

def untitled : FileSystem where
  top := .directory [(dotted, .file .empty)]

theorem untitled_isTree : untitled.top.IsTree := by
  simp only [untitled, isTree_directory_iff, isTree_file,
    List.forall_mem_singleton, and_true]
  decide

theorem untitled_discover :
    untitled.discover "cs" [.ofText "."] =
      .ok [childPath "." dotted] := by
  have listed : untitled.readEntries "." = .ok [(dotted, .file .empty)] := rfl
  have isSource : isSourceName "cs" dotted = true := by decide
  have found : untitled.findings "cs" "."
      (.directory [(dotted, .file .empty)]) = [.ok [dotted]] := by
    rw [findings_of_readEntries listed, findingsOfEntries, if_pos isSource,
      findingsOfEntries, sortedByName, List.mergeSort_singleton]
    rfl
  have directory : untitled.node? "." =
      some (.directory [(dotted, .file .empty)]) := rfl
  rw [discover, sourcesOf_of_results directory (congrArg _ found)]
  rfl

end FileSystem

end ClassDiagram
