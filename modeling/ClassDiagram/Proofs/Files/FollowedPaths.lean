import ClassDiagram.Files.Discovery
import ClassDiagram.Proofs.Files.ProperTrees
import ClassDiagram.Proofs.Text.BrokenLines

/-!
# Followed paths

Where a path leads is found segment by segment, each from the directory that
the ones before it lead to.  A path to a directory with the names on the way to
a node below it behind it leads to this node, unless it is too long or a
directory on the way must not be passed.
-/

namespace ClassDiagram

/-- The entry of a directory is the node one name further. -/
theorem FileNode.node?_snoc {node : FileNode} {location : Location}
    {entries : List (RawText × FileNode)} {rights : Rights}
    (directory : node.node? location = some (.directory entries rights))
    (name : RawText) :
    node.node? (location ++ [name]) = entries.lookup name := by
  rw [node?_append, directory, Option.bind_some, node?_cons]
  exact Option.bind_fun_some _

namespace FileSystem

variable {top : FileNode} {location next : Location} {segment : RawText}
  {entries : List (RawText × FileNode)} {rights : Rights}

theorem follow_of_directory
    (found : top.node? location = some (.directory entries rights)) :
    follow top location segment =
      if segment = "" then .ok location
      else if !rights.toPass then .error .denied
      else if staysThere segment then .ok location
      else if segment = ".." then .ok location.dropLast
      else if longestName < segment.bytes.length then .error .nameTooLong
      else if (top.node? (location ++ [segment])).isSome then
        .ok (location ++ [segment])
      else .error .notFound := by
  rw [follow, found, FileNode.node?_snoc found]
  dsimp only
  cases entries.lookup segment with
  | none =>
      rw [Option.isSome_none, if_neg Bool.false_ne_true]
  | some entry =>
      rw [Option.isSome_some, if_pos rfl]

/-- Only a directory leads on. -/
theorem exists_directory_of_follow
    (followed : follow top location segment = .ok next) :
    ∃ entries rights,
      top.node? location = some (.directory entries rights) := by
  unfold follow at followed
  cases found : top.node? location with
  | none =>
      rw [found] at followed
      cases followed
  | some there =>
      cases there with
      | file content rights =>
          rw [found] at followed
          cases followed
      | directory entries rights =>
          exact ⟨entries, rights, rfl⟩

theorem followAll_append (top : FileNode) (location : Location)
    (segments others : List RawText) :
    followAll top location (segments ++ others) =
      (followAll top location segments).bind (followAll top · others) := by
  induction segments generalizing location with
  | nil =>
      rfl
  | cons segment later inductionHypothesis =>
      rw [List.cons_append, followAll, followAll]
      cases follow top location segment with
      | error fault =>
          rfl
      | ok next =>
          exact inductionHypothesis next

theorem followAll_singleton (top : FileNode) (location : Location)
    (segment : RawText) :
    followAll top location [segment] = follow top location segment := by
  rw [followAll]
  cases follow top location segment <;> rfl

end FileSystem

/-! ## Paths below a directory -/

open RawText (slash)

/-- The segments of the path of a directory, without the empty one behind a
slash at its end. -/
def directorySegments (path : RawText) : List RawText :=
  FileSystem.pathSegments
    (if path.bytes.getLast? = some slash then ⟨path.bytes.dropLast⟩ else path)

section

variable {name : RawText} {location : Location}

theorem pathSegments_append_slash (front : List UInt8)
    (noSlash : slash ∉ name.bytes) :
    FileSystem.pathSegments ⟨front ++ slash :: name.bytes⟩ =
      FileSystem.pathSegments ⟨front⟩ ++ [name] := by
  simp only [FileSystem.pathSegments, Text.segments_append_mark,
    Text.segments_of_not_mem noSlash, List.map_append, List.map_cons,
    List.map_nil]

theorem pathSegments_childPath (noSlash : slash ∉ name.bytes)
    (directory : RawText) :
    FileSystem.pathSegments (childPath directory name) =
      directorySegments directory ++ [name] := by
  rw [childPath, directorySegments]
  split
  · rename_i slashed
    have cut : directory.bytes = directory.bytes.dropLast ++ [slash] :=
      (List.dropLast_append_getLast? slash slashed).symm
    rw [← pathSegments_append_slash _ noSlash]
    nth_rewrite 1 [cut]
    rw [List.append_assoc, List.singleton_append]
  · exact pathSegments_append_slash _ noSlash

theorem getLast?_childPath (some : name.bytes ≠ []) (directory : RawText) :
    (childPath directory name).bytes.getLast? = name.bytes.getLast? := by
  rw [childPath]
  split
  · exact List.getLast?_append_of_ne_nil _ some
  · rw [List.append_cons]
    exact List.getLast?_append_of_ne_nil _ some

theorem length_childPath (directory name : RawText) :
    directory.bytes.length + name.bytes.length ≤
      (childPath directory name).bytes.length := by
  rw [childPath]
  split <;> simp

theorem directorySegments_childPath (isName : IsEntryName name)
    (directory : RawText) :
    directorySegments (childPath directory name) =
      directorySegments directory ++ [name] := by
  have some : name.bytes ≠ [] := fun none =>
    isName.ne_empty (RawText.ext_iff.2 none)
  have notSlashed :
      ¬ (childPath directory name).bytes.getLast? = .some slash := by
    rw [getLast?_childPath some]
    exact fun slashed => isName.noSlash (List.mem_of_getLast? slashed)
  rw [directorySegments, if_neg notSlashed,
    pathSegments_childPath isName.noSlash]

theorem directorySegments_pathBelow
    (areNames : ∀ name ∈ location, IsEntryName name) (directory : RawText) :
    directorySegments (pathBelow directory location) =
      directorySegments directory ++ location := by
  induction location generalizing directory with
  | nil => exact (List.append_nil _).symm
  | cons name deeper inductionHypothesis =>
      rw [List.forall_mem_cons] at areNames
      have next := inductionHypothesis areNames.2 (childPath directory name)
      rw [directorySegments_childPath areNames.1, List.append_assoc] at next
      exact next

theorem pathBelow_concat (directory : RawText) (location : Location)
    (name : RawText) :
    pathBelow directory (location ++ [name]) =
      childPath (pathBelow directory location) name :=
  List.foldl_concat _ _ _ _

theorem pathSegments_pathBelow (some : location ≠ [])
    (areNames : ∀ name ∈ location, IsEntryName name) (directory : RawText) :
    FileSystem.pathSegments (pathBelow directory location) =
      directorySegments directory ++ location := by
  obtain ⟨front, name, rfl⟩ :=
    (List.eq_nil_or_concat' location).resolve_left some
  rw [List.forall_mem_append] at areNames
  have isName := areNames.2 name (List.mem_singleton_self name)
  rw [pathBelow_concat, pathSegments_childPath isName.noSlash,
    directorySegments_pathBelow areNames.1, List.append_assoc]

/-- Different locations below a directory have different paths. -/
theorem pathBelow_inj {directory : RawText} {first second : Location}
    (firstNames : ∀ name ∈ first, IsEntryName name)
    (secondNames : ∀ name ∈ second, IsEntryName name)
    (same : pathBelow directory first = pathBelow directory second) :
    first = second := by
  have sameSegments := congrArg directorySegments same
  rw [directorySegments_pathBelow firstNames,
    directorySegments_pathBelow secondNames] at sameSegments
  exact List.append_cancel_left sameSegments

end

/-! ## Directories below a directory -/

/-- Every directory on the way to a location may be passed. -/
def FileNode.isPassable : FileNode → Location → Bool
  | _, [] => true
  | node, name :: deeper =>
      node.rights.toPass &&
        (node.entries.lookup name).any (·.isPassable deeper)

theorem FileNode.isPassable_eq_false_iff {root found : FileNode}
    {location : Location} (isThere : root.node? location = some found) :
    root.isPassable location = false ↔
      ∃ upper name deeper node, location = upper ++ name :: deeper ∧
        root.node? upper = some node ∧ node.rights.toPass = false := by
  induction location generalizing root with
  | nil => simp [isPassable]
  | cons name deeper inductionHypothesis =>
      rw [node?_cons, Option.bind_eq_some_iff] at isThere
      obtain ⟨entry, atName, isThere⟩ := isThere
      rw [isPassable, Bool.and_eq_false_iff, atName, Option.any_some,
        inductionHypothesis isThere]
      constructor
      · rintro (shut | ⟨upper, next, further, node, rfl, atUpper, shut⟩)
        · exact ⟨[], name, deeper, root, rfl, rfl, shut⟩
        · refine ⟨name :: upper, next, further, node, rfl, ?_, shut⟩
          rw [node?_cons, atName, Option.bind_some, atUpper]
      · rintro ⟨upper, next, further, node, split, atUpper, shut⟩
        cases upper with
        | nil =>
            cases atUpper
            exact .inl shut
        | cons first others =>
            cases split
            rw [node?_cons, atName, Option.bind_some] at atUpper
            exact .inr ⟨others, next, further, node, rfl, atUpper, shut⟩

namespace FileSystem

/-- From a directory, names lead to the node below it, unless a directory on
the way must not be passed. -/
theorem followAll_names {top root found : FileNode}
    {location names : Location} (isRoot : top.node? location = some root)
    (areNames : ∀ name ∈ names, IsEntryName name)
    (isThere : root.node? names = some found) :
    followAll top location names =
      if root.isPassable names then .ok (location ++ names)
      else .error .denied := by
  induction names generalizing location root with
  | nil =>
      rw [followAll, FileNode.isPassable, if_pos rfl, List.append_nil]
  | cons name deeper inductionHypothesis =>
      rw [List.forall_mem_cons] at areNames
      obtain ⟨isName, areNames⟩ := areNames
      rw [FileNode.node?_cons, Option.bind_eq_some_iff] at isThere
      obtain ⟨entry, atName, isThere⟩ := isThere
      cases root with
      | file content rights => cases atName
      | directory entries rights =>
          have isEntry : top.node? (location ++ [name]) = some entry :=
            (FileNode.node?_snoc isRoot name).trans atName
          rw [followAll, follow_of_directory isRoot,
            if_neg isName.ne_empty, FileNode.isPassable, FileNode.rights,
            atName, Option.any_some]
          cases rights.toPass with
          | false => rfl
          | true =>
              rw [isName.leadsOn, if_neg isName.noWayUp,
                if_neg (Nat.not_lt.2 isName.short), isEntry]
              have later := inductionHypothesis isEntry areNames isThere
              rw [List.append_assoc] at later
              exact later

variable {system : FileSystem} {path : RawText}

/-- A path that leads to a node has no fault of its own. -/
theorem locate_eq_ok_iff {location : Location} :
    system.locate path = .ok location ↔
      pathFault? path = none ∧
        followAll system.top (system.start path) (pathSegments path) =
          .ok location := by
  rw [locate]
  cases pathFault? path with
  | none => simp
  | some fault => simp

/-- The empty segment behind a slash at the end of a path stays where the
others lead. -/
theorem followAll_directorySegments {location : Location}
    (reached : followAll system.top (system.start path) (pathSegments path) =
      .ok location) :
    followAll system.top (system.start path) (directorySegments path) =
      .ok location := by
  rw [directorySegments]
  split
  · rename_i slashed
    have cut : path = ⟨path.bytes.dropLast ++ slash :: []⟩ :=
      RawText.ext (List.dropLast_append_getLast? slash slashed).symm
    have noSlash : slash ∉ (RawText.ofText "").bytes := List.not_mem_nil
    have apart : pathSegments path =
        pathSegments ⟨path.bytes.dropLast⟩ ++ [RawText.ofText ""] := by
      nth_rewrite 1 [cut]
      exact pathSegments_append_slash _ noSlash
    rw [apart, followAll_append] at reached
    cases others : followAll system.top (system.start path)
        (pathSegments ⟨path.bytes.dropLast⟩) with
    | error fault =>
        rw [others] at reached
        cases reached
    | ok next =>
        rw [others, Except.bind, followAll_singleton] at reached
        obtain ⟨entries, rights, found⟩ := exists_directory_of_follow reached
        rw [follow_of_directory found, if_pos rfl] at reached
        exact reached
  · exact reached

/-! ## Listing directories below a directory -/

@[mk_iff]
structure IsPath (path : RawText) : Prop where
  noNull : 0 ∉ path.bytes
  someByte : path.bytes ≠ []

theorem IsPath.of_pathFault? (noFault : pathFault? path = none) :
    IsPath path := by
  rw [pathFault?] at noFault
  rw [isPath_iff]
  split_ifs at noFault with null empty
  simp_all

theorem IsPath.pathFault?_eq (isPath : IsPath path) :
    pathFault? path =
      if longestPath < path.bytes.length then some .nameTooLong else none := by
  have noNull : ¬ path.bytes.contains 0 = true := by
    rw [List.contains_iff_mem]
    exact isPath.noNull
  have someByte : ¬ path.bytes.isEmpty = true := by
    rw [List.isEmpty_iff]
    exact isPath.someByte
  rw [pathFault?, if_neg noNull, if_neg someByte]

/-- A name behind a path leaves it a path, which begins in the same
directory. -/
theorem IsPath.childPath {name : RawText} (isPath : IsPath path)
    (isName : IsEntryName name) :
    IsPath (childPath path name) ∧
      system.start (ClassDiagram.childPath path name) = system.start path := by
  have notSlash : (0 : UInt8) ≠ slash := by decide
  rw [start, ClassDiagram.childPath]
  split <;>
  · rw [List.head?_append_of_ne_nil _ isPath.someByte]
    refine ⟨⟨?_, List.append_ne_nil_of_left_ne_nil isPath.someByte _⟩, rfl⟩
    simp [isPath.noNull, isName.noNull, notSlash]

theorem IsPath.pathBelow {names : Location} (isPath : IsPath path)
    (areNames : ∀ name ∈ names, IsEntryName name) :
    IsPath (pathBelow path names) ∧
      system.start (ClassDiagram.pathBelow path names) =
        system.start path := by
  induction names generalizing path with
  | nil => exact ⟨isPath, rfl⟩
  | cons name deeper inductionHypothesis =>
      rw [List.forall_mem_cons] at areNames
      obtain ⟨isChild, sameStart⟩ := isPath.childPath areNames.1
      obtain ⟨isBelow, stillSame⟩ := inductionHypothesis isChild areNames.2
      exact ⟨isBelow, stillSame.trans sameStart⟩

/-- The path of a node below a directory leads to it, unless it is too long
or a directory on the way must not be passed. -/
theorem locate_pathBelow {location names : Location} {root found : FileNode}
    (isTree : system.top.IsTree) (reached : system.locate path = .ok location)
    (isRoot : system.top.node? location = some root)
    (isThere : root.node? names = some found) :
    system.locate (pathBelow path names) =
      if longestPath < (pathBelow path names).bytes.length then
        .error .nameTooLong
      else if root.isPassable names then .ok (location ++ names)
      else .error .denied := by
  have areNames := (isTree.below isRoot).isEntryName isThere
  obtain ⟨noFault, followed⟩ := locate_eq_ok_iff.1 reached
  obtain ⟨isBelow, sameStart⟩ : IsPath (pathBelow path names) ∧
      system.start (pathBelow path names) = system.start path :=
    (IsPath.of_pathFault? noFault).pathBelow areNames
  rw [locate, isBelow.pathFault?_eq, sameStart]
  by_cases long : longestPath < (pathBelow path names).bytes.length
  · rw [if_pos long, if_pos long]
  · rw [if_neg long, if_neg long]
    dsimp only
    cases names with
    | nil =>
        rw [FileNode.isPassable, if_pos rfl, List.append_nil]
        exact followed
    | cons name deeper =>
        rw [pathSegments_pathBelow (List.cons_ne_nil _ _) areNames,
          followAll_append, followAll_directorySegments followed]
        exact followAll_names isRoot areNames isThere

theorem exists_location_of_node? {root : FileNode}
    (isThere : system.node? path = some root) :
    ∃ location, system.locate path = .ok location ∧
      system.top.node? location = some root := by
  rw [node?] at isThere
  cases reached : system.locate path with
  | error fault =>
      rw [reached] at isThere
      cases isThere
  | ok location =>
      rw [reached] at isThere
      exact ⟨location, rfl, isThere⟩

/-- A directory below another is listed by its path, unless this is too long,
a directory on the way must not be passed or the directory not be read. -/
theorem readEntries_pathBelow {names : Location} {root : FileNode}
    {entries : List (RawText × FileNode)} {rights : Rights}
    (isTree : system.top.IsTree) (isThere : system.node? path = some root)
    (isDirectory : root.node? names = some (.directory entries rights)) :
    system.readEntries (pathBelow path names) =
      if longestPath < (pathBelow path names).bytes.length then
        .error .nameTooLong
      else if root.isPassable names && rights.toRead then .ok entries
      else .error .denied := by
  obtain ⟨location, reached, isRoot⟩ := exists_location_of_node? isThere
  have isBelow : system.top.node? (location ++ names) =
      some (.directory entries rights) := by
    rw [FileNode.node?_append, isRoot, Option.bind_some, isDirectory]
  rw [readEntries, locate_pathBelow isTree reached isRoot isDirectory]
  by_cases long : longestPath < (pathBelow path names).bytes.length
  · rw [if_pos long, if_pos long]
  · rw [if_neg long, if_neg long]
    cases root.isPassable names with
    | false => rfl
    | true =>
        rw [if_pos rfl, Bool.true_and]
        simp only [isBelow]

end FileSystem

end ClassDiagram
