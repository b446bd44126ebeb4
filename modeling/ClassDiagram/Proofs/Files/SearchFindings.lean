import ClassDiagram.Proofs.Files.ProperTrees
import ClassDiagram.Proofs.Files.SourceNames
import Mathlib.Data.List.Sort

/-!
# What a search comes to

A search finds the sources below a directory, each once.  They are in the
order of their locations, name by name: a directory and what is below it come
where its name comes among the names beside it, also if the name of a file
begins with the name of the directory.

The search fails if a directory on its way cannot be listed.  Where each one
can, the search comes to all of them, so what it fails at can be told without
it.
-/

namespace ClassDiagram

/-! ## Sources below a directory -/

/-- At this location below a directory there is a file to be found. -/
structure IsSource (extension : String) (root : FileNode)
    (location : Location) : Prop where
  isFile : ∃ content rights,
    root.node? location = some (.file content rights)
  notHidden : ∀ name ∈ location, ¬ IsHiddenName name
  notBuilt : ∀ name ∈ location.dropLast, name ≠ "bin" ∧ name ≠ "obj"
  hasExtension : ∃ name, location.getLast? = some name ∧
    EndsInExtension extension name

section

variable {extension : String} {name : RawText} {deeper : Location}
  {entries below : List (RawText × FileNode)} {rights belowRights : Rights}

theorem isSource_cons_file {content : ByteArray}
    (isThere : entries.lookup name = some (.file content belowRights)) :
    IsSource extension (.directory entries rights) (name :: deeper) ↔
      deeper = [] ∧ isSourceName extension name = true := by
  rw [isSourceName_iff]
  constructor
  · rintro ⟨⟨found, foundRights, isFile⟩, notHidden, -, given, isLast, endsIn⟩
    rw [FileNode.node?_cons, FileNode.entries, isThere,
      Option.bind_some] at isFile
    cases deeper with
    | nil =>
        cases isLast
        exact ⟨rfl, notHidden name (List.mem_singleton_self name), endsIn⟩
    | cons next others => cases isFile
  · rintro ⟨rfl, notHidden, endsIn⟩
    constructor
    · rw [FileNode.node?_cons, FileNode.entries, isThere]
      exact ⟨content, belowRights, rfl⟩
    · rw [List.forall_mem_singleton]
      exact notHidden
    · exact List.forall_mem_nil _
    · exact ⟨name, rfl, endsIn⟩

theorem isSource_cons_directory
    (isThere : entries.lookup name = some (.directory below belowRights)) :
    IsSource extension (.directory entries rights) (name :: deeper) ↔
      isSearched name = true ∧
        IsSource extension (.directory below belowRights) deeper := by
  have oneFurther :
      (FileNode.directory entries rights).node? (name :: deeper) =
        (FileNode.directory below belowRights).node? deeper := by
    rw [FileNode.node?_cons, FileNode.entries, isThere, Option.bind_some]
  rw [isSearched_iff]
  cases deeper with
  | nil =>
      constructor
      · rintro ⟨⟨content, fileRights, isFile⟩, -⟩
        rw [oneFurther] at isFile
        cases isFile
      · rintro ⟨-, ⟨content, fileRights, isFile⟩, -⟩
        cases isFile
  | cons next others =>
      constructor
      · rintro ⟨isFile, notHidden, notBuilt, hasExtension⟩
        rw [oneFurther] at isFile
        rw [List.forall_mem_cons] at notHidden
        rw [List.dropLast_cons_cons, List.forall_mem_cons] at notBuilt
        rw [List.getLast?_cons_cons] at hasExtension
        exact ⟨⟨notHidden.1, notBuilt.1⟩, isFile, notHidden.2, notBuilt.2,
          hasExtension⟩
      · rintro ⟨⟨isShown, isOther⟩, isFile, notHidden, notBuilt, hasExtension⟩
        constructor
        · rwa [oneFurther]
        · rw [List.forall_mem_cons]
          exact ⟨isShown, notHidden⟩
        · rw [List.dropLast_cons_cons, List.forall_mem_cons]
          exact ⟨isOther, notBuilt⟩
        · rwa [List.getLast?_cons_cons]

end

namespace FileSystem

/-! ## What a search comes to -/

def findingsOfEntry (system : FileSystem) (extension : String)
    (path name : RawText) : FileNode → List Finding
  | .file _ _ => if isSourceName extension name then [.ok [name]] else []
  | .directory entries rights =>
      let below := system.findings extension (childPath path name)
        (.directory entries rights)
      if isSearched name then below.map (·.map (name :: ·)) else []

theorem findingsOfEntries_eq_map (system : FileSystem) (extension : String)
    (path : RawText) (entries : List (RawText × FileNode)) :
    system.findingsOfEntries extension path entries =
      entries.map fun given =>
        (given.1, system.findingsOfEntry extension path given.1 given.2) := by
  induction entries with
  | nil => rfl
  | cons given others inductionHypothesis =>
      obtain ⟨name, node⟩ := given
      cases node <;>
        rw [findingsOfEntries, inductionHypothesis, List.map_cons,
          findingsOfEntry]

theorem map_fst_findingsOfEntries (system : FileSystem) (extension : String)
    (path : RawText) (entries : List (RawText × FileNode)) :
    (system.findingsOfEntries extension path entries).map Prod.fst =
      entries.map Prod.fst := by
  rw [findingsOfEntries_eq_map, List.map_map]
  rfl

section

variable {system : FileSystem} {extension : String} {path name : RawText}
  {entries listing : List (RawText × FileNode)} {rights : Rights}
  {location deeper : Location} {finding : Finding} {cause : ScanFault}

theorem mem_sortedByName_findingsOfEntries_iff
    {group : RawText × List Finding} :
    group ∈ sortedByName (system.findingsOfEntries extension path entries) ↔
      ∃ given ∈ entries, (given.1,
        system.findingsOfEntry extension path given.1 given.2) = group := by
  rw [sortedByName, List.mem_mergeSort, findingsOfEntries_eq_map,
    List.mem_map]

theorem findings_of_readEntries
    (listed : system.readEntries path = .ok listing) :
    system.findings extension path (.directory entries rights) =
      (sortedByName
        (system.findingsOfEntries extension path entries)).flatMap
          fun group => group.2 := by
  rw [findings, listed]

/-- The search of a directory that can be listed comes to what the searches
of its entries come to. -/
theorem mem_findings_iff_exists
    (listed : system.readEntries path = .ok listing) :
    finding ∈ system.findings extension path (.directory entries rights) ↔
      ∃ name node, (name, node) ∈ entries ∧
        finding ∈ system.findingsOfEntry extension path name node := by
  rw [findings_of_readEntries listed, List.mem_flatMap]
  simp only [mem_sortedByName_findingsOfEntries_iff]
  constructor
  · rintro ⟨_, ⟨given, isEntry, rfl⟩, found⟩
    exact ⟨given.1, given.2, isEntry, found⟩
  · rintro ⟨name, node, isEntry, found⟩
    exact ⟨_, ⟨_, isEntry, rfl⟩, found⟩

/-- What an entry leads to is found under its name. -/
theorem exists_of_ok_mem_findingsOfEntry {node : FileNode}
    (found : .ok location ∈
      system.findingsOfEntry extension path name node) :
    ∃ deeper, location = name :: deeper := by
  cases node with
  | file content rights =>
      rw [findingsOfEntry, List.mem_ite_nil_right,
        List.mem_singleton] at found
      exact ⟨[], Except.ok.inj found.2⟩
  | directory entries rights =>
      rw [findingsOfEntry, List.mem_ite_nil_right, List.mem_map] at found
      obtain ⟨-, below, -, same⟩ := found
      cases below with
      | error cause => cases same
      | ok deeper => exact ⟨deeper, (Except.ok.inj same).symm⟩

theorem cons_mem_findingsOfEntry_directory_iff :
    .ok (name :: deeper) ∈ system.findingsOfEntry extension path name
        (.directory entries rights) ↔
      isSearched name = true ∧
        .ok deeper ∈ system.findings extension (childPath path name)
          (.directory entries rights) := by
  rw [findingsOfEntry, List.mem_ite_nil_right, List.mem_map]
  refine and_congr_right fun _ => ⟨?_, fun found => ⟨_, found, rfl⟩⟩
  rintro ⟨below, found, same⟩
  cases below with
  | error cause => cases same
  | ok location =>
      cases same
      exact found

/-- The search of an entry fails where that of the directory behind a name
that is searched does. -/
theorem error_mem_findingsOfEntry_iff {node : FileNode} :
    .error cause ∈ system.findingsOfEntry extension path name node ↔
      isSearched name = true ∧
        .error cause ∈ system.findings extension (childPath path name)
          node := by
  cases node with
  | file content rights =>
      rw [findingsOfEntry, List.mem_ite_nil_right, findings]
      simp
  | directory entries rights =>
      rw [findingsOfEntry, List.mem_ite_nil_right, List.mem_map]
      refine and_congr_right fun _ => ⟨?_, fun found => ⟨_, found, rfl⟩⟩
      rintro ⟨below, found, same⟩
      cases below with
      | error cause =>
          cases same
          exact found
      | ok location => cases same

/-! ## Where a search fails -/

/-- At this location below a node there is a directory that the search may
come to and that cannot be listed. -/
structure IsShut (system : FileSystem) (path : RawText) (root : FileNode)
    (location : Location) : Prop where
  isDirectory : ∃ entries rights,
    root.node? location = some (.directory entries rights)
  areOpen : ∀ name ∈ location, IsOpenName name
  fails : ∃ fault, system.readEntries (pathBelow path location) = .error fault

theorem isShut_cons_iff {entry : FileNode}
    (isThere : entries.lookup name = some entry) :
    system.IsShut path (.directory entries rights) (name :: deeper) ↔
      IsOpenName name ∧
        system.IsShut (childPath path name) entry deeper := by
  have oneFurther :
      (FileNode.directory entries rights).node? (name :: deeper) =
        entry.node? deeper := by
    rw [FileNode.node?_cons, FileNode.entries, isThere, Option.bind_some]
  constructor
  · rintro ⟨isDirectory, areOpen, fails⟩
    rw [oneFurther] at isDirectory
    rw [List.forall_mem_cons] at areOpen
    exact ⟨areOpen.1, isDirectory, areOpen.2, fails⟩
  · rintro ⟨isOpen, isDirectory, areOpen, fails⟩
    rw [← oneFurther] at isDirectory
    exact ⟨isDirectory, List.forall_mem_cons.2 ⟨isOpen, areOpen⟩, fails⟩

/-- Where a directory can be listed, what is shut lies behind its entries. -/
theorem exists_isShut_iff (distinct : (entries.map Prod.fst).Nodup)
    (listed : system.readEntries path = .ok listing) :
    (∃ location, system.IsShut path (.directory entries rights) location) ↔
      ∃ name node, (name, node) ∈ entries ∧ IsOpenName name ∧
        ∃ deeper, system.IsShut (childPath path name) node deeper := by
  constructor
  · rintro ⟨location, shut⟩
    cases location with
    | nil =>
        obtain ⟨fault, fails⟩ := shut.fails
        rw [pathBelow, List.foldl_nil, listed] at fails
        cases fails
    | cons name deeper =>
        obtain ⟨below, belowRights, isDirectory⟩ := shut.isDirectory
        rw [FileNode.node?_cons, Option.bind_eq_some_iff] at isDirectory
        obtain ⟨node, isThere, -⟩ := isDirectory
        obtain ⟨isOpen, shutBelow⟩ := (isShut_cons_iff isThere).1 shut
        exact ⟨name, node, (lookup_eq_some_iff_mem distinct).1 isThere,
          isOpen, deeper, shutBelow⟩
  · rintro ⟨name, node, isEntry, isOpen, deeper, shutBelow⟩
    have isThere := (lookup_eq_some_iff_mem distinct).2 isEntry
    exact ⟨name :: deeper, (isShut_cons_iff isThere).2 ⟨isOpen, shutBelow⟩⟩

/-- A search fails just if some directory that it may come to cannot be
listed.  If it does not come to this one, it has failed before. -/
theorem exists_error_mem_findings_iff {node : FileNode}
    (isTree : node.IsTree) :
    (∃ cause, .error cause ∈ system.findings extension path node) ↔
      ∃ location, system.IsShut path node location := by
  induction node using FileNode.induction generalizing path with
  | file content rights =>
      constructor
      · rintro ⟨cause, found⟩
        cases found
      · rintro ⟨location, ⟨entries, rights, isDirectory⟩, -⟩
        cases location <;> cases isDirectory
  | directory entries rights inductionHypothesis =>
      cases listed : system.readEntries path with
      | error fault =>
          have shut : system.IsShut path (.directory entries rights) [] :=
            ⟨⟨entries, rights, rfl⟩, List.forall_mem_nil _, fault, listed⟩
          rw [findings, listed]
          exact iff_of_true ⟨_, List.mem_singleton_self _⟩ ⟨[], shut⟩
      | ok listing =>
          rw [exists_isShut_iff isTree.areEntries.distinct listed]
          simp only [mem_findings_iff_exists listed,
            error_mem_findingsOfEntry_iff]
          constructor
          · rintro ⟨cause, name, node, isEntry, searched, found⟩
            exact ⟨name, node, isEntry, isSearched_iff.1 searched,
              (inductionHypothesis _ isEntry (isTree.of_mem isEntry)).1
                ⟨cause, found⟩⟩
          · rintro ⟨name, node, isEntry, isOpen, shut⟩
            obtain ⟨cause, found⟩ := (inductionHypothesis _ isEntry
              (isTree.of_mem isEntry)).2 shut
            exact ⟨cause, name, node, isEntry, isSearched_iff.2 isOpen, found⟩

/-! ## What a search finds -/

theorem exists_readEntries_of_no_error
    (noError : ∀ cause, .error cause ∉
      system.findings extension path (.directory entries rights)) :
    ∃ listing, system.readEntries path = .ok listing := by
  cases listed : system.readEntries path with
  | error fault =>
      rw [findings, listed] at noError
      exact absurd (List.mem_singleton_self _) (noError _)
  | ok listing => exact ⟨listing, rfl⟩

theorem cons_mem_findings_iff (distinct : (entries.map Prod.fst).Nodup)
    (listed : system.readEntries path = .ok listing) :
    .ok (name :: deeper) ∈
        system.findings extension path (.directory entries rights) ↔
      ∃ node, entries.lookup name = some node ∧ .ok (name :: deeper) ∈
        system.findingsOfEntry extension path name node := by
  rw [mem_findings_iff_exists listed]
  simp only [lookup_eq_some_iff_mem distinct]
  constructor
  · rintro ⟨given, node, isEntry, found⟩
    obtain ⟨_, same⟩ := exists_of_ok_mem_findingsOfEntry found
    cases same
    exact ⟨node, isEntry, found⟩
  · rintro ⟨node, isEntry, found⟩
    exact ⟨name, node, isEntry, found⟩

/-- A search that does not fail finds just the sources below its directory. -/
theorem ok_mem_findings_iff
    (isTree : (FileNode.directory entries rights).IsTree)
    (noError : ∀ cause, .error cause ∉
      system.findings extension path (.directory entries rights)) :
    .ok location ∈
        system.findings extension path (.directory entries rights) ↔
      IsSource extension (.directory entries rights) location := by
  induction location generalizing path entries rights with
  | nil =>
      obtain ⟨listing, listed⟩ := exists_readEntries_of_no_error noError
      rw [mem_findings_iff_exists listed]
      constructor
      · rintro ⟨name, node, -, found⟩
        obtain ⟨deeper, same⟩ := exists_of_ok_mem_findingsOfEntry found
        cases same
      · rintro ⟨⟨content, fileRights, isFile⟩, -⟩
        cases isFile
  | cons name deeper inductionHypothesis =>
      obtain ⟨listing, listed⟩ := exists_readEntries_of_no_error noError
      rw [cons_mem_findings_iff isTree.areEntries.distinct listed]
      cases isThere : entries.lookup name with
      | none =>
          constructor
          · rintro ⟨node, missing, -⟩
            cases missing
          · rintro ⟨⟨content, fileRights, isFile⟩, -⟩
            rw [FileNode.node?_cons, FileNode.entries, isThere] at isFile
            cases isFile
      | some node =>
          have isEntry := (lookup_eq_some_iff_mem
            isTree.areEntries.distinct).1 isThere
          simp only [Option.some.injEq, exists_eq_left']
          cases node with
          | file content fileRights =>
              rw [isSource_cons_file isThere, findingsOfEntry,
                List.mem_ite_nil_right, List.mem_singleton,
                Except.ok.injEq, List.cons.injEq]
              simp only [true_and, and_comm]
          | directory below belowRights =>
              rw [isSource_cons_directory isThere,
                cons_mem_findingsOfEntry_directory_iff]
              refine and_congr_right fun searched => ?_
              refine inductionHypothesis (isTree.of_mem isEntry) ?_
              intro cause found
              refine noError cause ((mem_findings_iff_exists listed).2
                ⟨name, _, isEntry, ?_⟩)
              exact error_mem_findingsOfEntry_iff.2 ⟨searched, found⟩

end

end FileSystem

/-! ## The order of what is found -/

/-- The order of locations, name by name, and of names by their bytes. -/
def Precedes (first second : Location) : Prop :=
  first.map RawText.bytes < second.map RawText.bytes

theorem precedes_of_lt {first second : RawText}
    (less : first.bytes < second.bytes) (deeper other : Location) :
    Precedes (first :: deeper) (second :: other) :=
  List.cons_lt_cons_iff.2 (.inl less)

theorem Precedes.cons {first second : Location}
    (precedes : Precedes first second) (name : RawText) :
    Precedes (name :: first) (name :: second) :=
  List.cons_lt_cons_iff.2 (.inr ⟨rfl, precedes⟩)

theorem Precedes.ne {first second : Location}
    (precedes : Precedes first second) : first ≠ second := by
  rintro rfl
  exact List.lt_irrefl _ precedes

theorem sortedByName_pairwise {α : Type} {groups : List (RawText × α)}
    (distinct : (groups.map Prod.fst).Nodup) :
    (sortedByName groups).Pairwise
      fun first second => first.1.bytes < second.1.bytes := by
  have inOrder : (sortedByName groups).Pairwise
      fun first second => nameLe first.1 second.1 = true := by
    apply List.pairwise_mergeSort
    · intro first second third
      simp only [nameLe, decide_eq_true_eq]
      exact List.le_trans
    · intro first second
      simp only [nameLe, Bool.or_eq_true, decide_eq_true_eq]
      exact List.le_total _ _
  have different : (sortedByName groups).Pairwise
      fun first second => first.1 ≠ second.1 := by
    rw [← List.pairwise_map]
    exact ((List.mergeSort_perm groups _).map Prod.fst).nodup_iff.2 distinct
  refine inOrder.imp₂ ?_ different
  intro first second notAfter unequal
  rw [nameLe, decide_eq_true_eq] at notAfter
  exact Std.lt_of_le_of_ne notAfter (mt RawText.ext unequal)

namespace FileSystem

/-- Of two sources that a search finds, the first precedes the second. -/
def InOrder : Finding → Finding → Prop
  | .ok first, .ok second => Precedes first second
  | _, _ => True

theorem InOrder.cons {first second : Finding} (inOrder : InOrder first second)
    (name : RawText) :
    InOrder (first.map (name :: ·)) (second.map (name :: ·)) := by
  cases first with
  | error cause => trivial
  | ok location =>
      cases second with
      | error cause => trivial
      | ok other => exact Precedes.cons inOrder name

variable {system : FileSystem} {extension : String} {path name other : RawText}

theorem findingsOfEntry_pairwise {node : FileNode}
    (below : (system.findings extension (childPath path name) node).Pairwise
      InOrder) :
    (system.findingsOfEntry extension path name node).Pairwise InOrder := by
  cases node with
  | file content rights =>
      rw [findingsOfEntry]
      split
      · exact List.pairwise_singleton _ _
      · exact List.Pairwise.nil
  | directory entries rights =>
      rw [findingsOfEntry]
      split
      · rw [List.pairwise_map]
        exact below.imp fun inOrder => inOrder.cons name
      · exact List.Pairwise.nil

theorem inOrder_of_lt {node otherNode : FileNode} {first second : Finding}
    (less : name.bytes < other.bytes)
    (isFirst : first ∈ system.findingsOfEntry extension path name node)
    (isSecond : second ∈
      system.findingsOfEntry extension path other otherNode) :
    InOrder first second := by
  cases first with
  | error cause => trivial
  | ok location =>
      cases second with
      | error cause => trivial
      | ok further =>
          obtain ⟨deeper, rfl⟩ := exists_of_ok_mem_findingsOfEntry isFirst
          obtain ⟨below, rfl⟩ := exists_of_ok_mem_findingsOfEntry isSecond
          exact precedes_of_lt less deeper below

/-- The sources below a node are found in the order of their locations. -/
theorem findings_pairwise {node : FileNode} (isTree : node.IsTree) :
    (system.findings extension path node).Pairwise InOrder := by
  induction node using FileNode.induction generalizing path with
  | file content rights => exact List.Pairwise.nil
  | directory entries rights inductionHypothesis =>
      cases listed : system.readEntries path with
      | error fault =>
          rw [findings, listed]
          exact List.pairwise_singleton _ _
      | ok listing =>
          rw [findings_of_readEntries listed, List.pairwise_flatMap]
          constructor
          · intro group isGroup
            obtain ⟨given, isEntry, rfl⟩ :=
              mem_sortedByName_findingsOfEntries_iff.1 isGroup
            exact findingsOfEntry_pairwise
              (inductionHypothesis given isEntry (isTree.of_mem isEntry))
          · have distinct := isTree.areEntries.distinct
            rw [← map_fst_findingsOfEntries system extension path] at distinct
            refine (sortedByName_pairwise distinct).imp_of_mem ?_
            intro first second isFirst isSecond less finding found other
              otherFound
            obtain ⟨given, -, rfl⟩ :=
              mem_sortedByName_findingsOfEntries_iff.1 isFirst
            obtain ⟨later, -, rfl⟩ :=
              mem_sortedByName_findingsOfEntries_iff.1 isSecond
            exact inOrder_of_lt less found otherFound

end FileSystem

end ClassDiagram
