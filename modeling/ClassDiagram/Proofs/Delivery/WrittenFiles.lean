import ClassDiagram.Proofs.Files.FollowedPaths

/-!
# Written files

A path that can be written leads to a place in a directory where there is no
directory yet.  Writing there changes what is at that place and nothing else:
every other location has the file, the directory or the nothing that it had.
So the directories on the way are still there, and the path leads to the
file that was written.
-/

namespace ClassDiagram

namespace FileNode

/-- The bytes of a file; a directory has none of its own. -/
def content? : FileNode → Option ByteArray
  | .file content _ => some content
  | .directory _ _ => none

/-- What is at a location by itself: nothing, or a directory or a file with
its bytes and its rights. -/
def at? (node : FileNode) (location : Location) :
    Option (Option ByteArray × Rights) :=
  (node.node? location).map fun found => (found.content?, found.rights)

def HasDirectory (node : FileNode) (location : Location) : Prop :=
  ∃ rights, node.at? location = some (none, rights)

/-- Two trees are the same but for one location. -/
def SameBut (location : Location) (before after : FileNode) : Prop :=
  ∀ other ≠ location, after.at? other = before.at? other

theorem at?_eq_directory_iff {node : FileNode} {location : Location}
    {rights : Rights} :
    node.at? location = some (none, rights) ↔
      ∃ entries, node.node? location = some (.directory entries rights) := by
  unfold at?
  cases node.node? location with
  | none =>
      simp
  | some found =>
      cases found <;> simp [content?, FileNode.rights]

theorem isSome_at?_iff {node : FileNode} {location : Location} :
    (node.at? location).isSome ↔ (node.node? location).isSome := by
  rw [at?, Option.isSome_map]

theorem hasDirectory_iff {node : FileNode} {location : Location} :
    node.HasDirectory location ↔
      ∃ entries rights,
        node.node? location = some (.directory entries rights) := by
  simp only [HasDirectory, at?_eq_directory_iff]
  exact exists_comm

theorem at?_cons (node : FileNode) (name : RawText) (deeper : Location) :
    node.at? (name :: deeper) =
      (node.entries.lookup name).bind (·.at? deeper) := by
  unfold at?
  rw [node?_cons, Option.map_bind]
  rfl

/-- Nothing lies below a place without a directory. -/
theorem at?_below {node : FileNode} {location : Location}
    (free : ¬ node.HasDirectory location) (name : RawText)
    (deeper : Location) : node.at? (location ++ name :: deeper) = none := by
  rw [hasDirectory_iff] at free
  unfold at?
  rw [node?_append]
  cases found : node.node? location with
  | none =>
      rfl
  | some there =>
      cases there with
      | file content rights =>
          rfl
      | directory entries rights =>
          exact absurd ⟨entries, rights, found⟩ free

/-- A node that has entries is a directory and keeps its rights. -/
theorem at?_place_nil {node : FileNode} (directory : node.HasDirectory [])
    (placed : FileNode) (name : RawText) (deeper : Location) :
    (node.place (name :: deeper) placed).at? [] = node.at? [] := by
  obtain ⟨entries, rights, found⟩ := hasDirectory_iff.1 directory
  cases found
  rfl

/-- Below a name that a node is placed through there is what it makes of the
entry with that name. -/
theorem at?_place_cons (node placed : FileNode) (name : RawText)
    (deeper other : Location) :
    (node.place (name :: deeper) placed).at? (name :: other) =
      (((node.entries.lookup name).getD emptyDirectory).place deeper
        placed).at? other := by
  rw [at?_cons, place, entries, lookup_setEntry_self, Option.bind_some]

/-- Below any other name there is what there was. -/
theorem at?_place_of_ne (node placed : FileNode) {name given : RawText}
    (different : given ≠ name) (deeper other : Location) :
    (node.place (name :: deeper) placed).at? (given :: other) =
      node.at? (given :: other) := by
  rw [at?_cons, at?_cons, place, entries, lookup_setEntry_of_ne different]

/-- A file that is placed in a directory, where no directory is, changes
nothing at any other location. -/
theorem place_sameBut {node : FileNode} {parent : Location} {name : RawText}
    (directory : node.HasDirectory parent)
    (free : ¬ node.HasDirectory (parent ++ [name])) (content : ByteArray)
    (rights : Rights) :
    SameBut (parent ++ [name]) node
      (node.place (parent ++ [name]) (.file content rights)) := by
  induction parent generalizing node with
  | nil =>
      intro other elsewhere
      cases other with
      | nil =>
          exact at?_place_nil directory _ name []
      | cons given deeper =>
          by_cases same : given = name
          · subst same
            obtain ⟨next, further, rfl⟩ : ∃ next further,
                deeper = next :: further :=
              List.exists_cons_of_ne_nil fun atEnd => elsewhere (by
                rw [atEnd, List.nil_append])
            rw [List.nil_append, at?_place_cons]
            exact (at?_below free next further).symm
          · exact at?_place_of_ne node _ same [] deeper
  | cons first others inductionHypothesis =>
      have atTop : node.HasDirectory [] := by
        refine Classical.byContradiction fun noDirectory => ?_
        obtain ⟨_, isThere⟩ := directory
        have nothing := at?_below noDirectory first others
        rw [List.nil_append, isThere] at nothing
        cases nothing
      intro other elsewhere
      cases other with
      | nil =>
          exact at?_place_nil atTop _ first (others ++ [name])
      | cons given deeper =>
          by_cases same : given = first
          · subst same
            cases found : node.entries.lookup given with
            | none =>
                rw [HasDirectory, at?_cons, found] at directory
                obtain ⟨_, isThere⟩ := directory
                cases isThere
            | some entry =>
                rw [HasDirectory, at?_cons, found,
                  Option.bind_some] at directory
                rw [List.cons_append, HasDirectory, at?_cons, found,
                  Option.bind_some] at free
                rw [List.cons_append, at?_place_cons, at?_cons, found]
                exact inductionHypothesis directory free deeper
                  fun sameEnd => elsewhere (congrArg (given :: ·) sameEnd)
          · exact at?_place_of_ne node _ same _ deeper

/-- What is at some location still is if the one other location has
something. -/
theorem SameBut.isSome_at? {before after : FileNode} {location : Location}
    (same : SameBut location before after)
    (there : (after.at? location).isSome) {other : Location}
    (present : (before.at? other).isSome) : (after.at? other).isSome := by
  by_cases here : other = location
  · rwa [here]
  · rwa [same other here]

end FileNode

namespace FileSystem

open FileNode

/-! ## Following paths -/

/-- What is written at a place without a directory takes no way away. -/
theorem follow_of_sameBut {before after : FileNode}
    {place location next : Location} (same : SameBut place before after)
    (free : ¬ before.HasDirectory place)
    (there : (after.at? place).isSome) {segment : RawText}
    (followed : follow before location segment = .ok next) :
    follow after location segment = .ok next := by
  obtain ⟨entries, rights, directory⟩ := exists_directory_of_follow followed
  have elsewhere : location ≠ place := by
    rintro rfl
    exact free (hasDirectory_iff.2 ⟨entries, rights, directory⟩)
  obtain ⟨entriesAfter, stillDirectory⟩ :
      ∃ entriesAfter,
        after.node? location = some (.directory entriesAfter rights) := by
    rw [← at?_eq_directory_iff, same location elsewhere, at?_eq_directory_iff]
    exact ⟨entries, directory⟩
  rw [follow_of_directory directory] at followed
  rw [follow_of_directory stillDirectory]
  have present :
      (before.node? (location ++ [segment])).isSome →
        (after.node? (location ++ [segment])).isSome := by
    rw [← isSome_at?_iff, ← isSome_at?_iff]
    exact same.isSome_at? there
  grind

theorem followAll_of_sameBut {before after : FileNode} {place : Location}
    (same : SameBut place before after)
    (free : ¬ before.HasDirectory place)
    (there : (after.at? place).isSome) {location last : Location}
    {segments : List RawText}
    (followed : followAll before location segments = .ok last) :
    followAll after location segments = .ok last := by
  induction segments generalizing location with
  | nil =>
      exact followed
  | cons segment others inductionHypothesis =>
      rw [followAll] at followed ⊢
      cases first : follow before location segment with
      | error fault =>
          rw [first] at followed
          cases followed
      | ok next =>
          rw [first] at followed
          rw [follow_of_sameBut same free there first]
          exact inductionHypothesis followed

/-! ## Writing to a path -/

/-- The segments of a path that names a file are those of its directory and
its name. -/
theorem segments_of_fileName? {segments : List RawText} {name : RawText}
    (named : fileName? segments = some name) :
    segments = segments.dropLast ++ [name] ∧ ¬ staysThere name ∧
      name ≠ ".." ∧ namedSegments segments = segments := by
  unfold fileName? at named
  cases last : segments.getLast? with
  | none =>
      rw [last] at named
      cases named
  | some found =>
      rw [last] at named
      dsimp only at named
      split at named
      · cases named
      · rename_i proper
        cases named
        rw [Bool.or_eq_true, beq_iff_eq, not_or] at proper
        have split := List.dropLast_append_getLast? name last
        refine ⟨split.symm, proper.1, proper.2, ?_⟩
        have notEmpty : (name == ("" : RawText)) = false := by
          rw [staysThere] at proper
          simpa using fun empty => proper.1 (by simp [empty])
        rw [← split, namedSegments, List.reverse_append]
        simp [notEmpty]

/-- A path that can be written leads to a place in a directory where no
directory is.  A file that is there may be written, and where there is none
the directory may be changed. -/
structure Writable (system : FileSystem) (path : RawText)
    (parent : Location) (name : RawText) : Prop where
  followable : pathFault? path = none
  named : fileName? (pathSegments path) = some name
  short : name.bytes.length ≤ longestName
  reached : followAll system.top (system.start path)
    (pathSegments path).dropLast = .ok parent
  directory : ∃ rights, system.top.at? parent = some (none, rights) ∧
    rights.toPass = true
  free : ¬ system.top.HasDirectory (parent ++ [name])
  overwritable : ∀ content rights,
    system.top.node? (parent ++ [name]) = some (.file content rights) →
      rights.toWrite = true
  creatable : system.top.node? (parent ++ [name]) = none →
    (rightsAt system.top parent).toWrite = true

/-- The file of a path that names one lies in the directory that the other
segments lead to. -/
theorem parentLocation_eq_ok_iff {system : FileSystem} {path : RawText}
    {parent : Location} {name : RawText}
    (named : fileName? (pathSegments path) = some name) :
    system.parentLocation path = .ok parent ↔
      pathFault? path = none ∧
        followAll system.top (system.start path)
          (pathSegments path).dropLast = .ok parent ∧
        ∃ rights, system.top.at? parent = some (none, rights) ∧
          rights.toPass = true := by
  have stays (location : Location) :
      follow system.top location "." = .ok parent ↔
        location = parent ∧
          ∃ rights, system.top.at? location = some (none, rights) ∧
            rights.toPass = true := by
    have isNamed : ("." : RawText) ≠ "" := by decide
    have there : staysThere "." = true := rfl
    constructor
    · intro followed
      obtain ⟨entries, rights, found⟩ := exists_directory_of_follow followed
      rw [follow_of_directory found, if_neg isNamed] at followed
      cases passable : rights.toPass with
      | false =>
          rw [passable] at followed
          cases followed
      | true =>
          rw [passable] at followed
          cases followed
          exact ⟨rfl, rights, at?_eq_directory_iff.2 ⟨entries, found⟩,
            passable⟩
    · rintro ⟨rfl, rights, directory, passable⟩
      obtain ⟨entries, found⟩ := at?_eq_directory_iff.1 directory
      rw [follow_of_directory found, if_neg isNamed, passable, there]
      rfl
  unfold parentLocation
  cases pathFault? path with
  | some fault =>
      simp
  | none =>
      rw [(segments_of_fileName? named).2.2.2, followAll_append]
      cases followAll system.top (system.start path)
          (pathSegments path).dropLast with
      | error fault =>
          simp [Except.bind]
      | ok last =>
          simp only [Except.bind, followAll_singleton, stays last,
            Except.ok.injEq, true_and]
          constructor
          · rintro ⟨rfl, directory⟩
            exact ⟨rfl, directory⟩
          · rintro ⟨rfl, directory⟩
            exact ⟨rfl, directory⟩

theorem writeFault?_eq_none_iff {top : FileNode} {parent : Location}
    {name : RawText} :
    writeFault? top parent name = none ↔
      name.bytes.length ≤ longestName ∧
        ¬ top.HasDirectory (parent ++ [name]) ∧
        (∀ content rights,
          top.node? (parent ++ [name]) = some (.file content rights) →
            rights.toWrite = true) ∧
        (top.node? (parent ++ [name]) = none →
          (rightsAt top parent).toWrite = true) := by
  rw [writeFault?, hasDirectory_iff]
  split
  · rename_i long
    simp [Nat.not_le.2 long]
  · rename_i short
    cases found : top.node? (parent ++ [name]) with
    | none =>
        simp [Nat.not_lt.1 short]
    | some there =>
        cases there with
        | file content rights =>
            simp [Nat.not_lt.1 short]
        | directory entries rights =>
            simp

theorem writeLocation_eq_ok_iff {system : FileSystem} {path : RawText}
    {location : Location} :
    system.writeLocation path = .ok location ↔
      ∃ parent name, location = parent ++ [name] ∧
        system.Writable path parent name := by
  constructor
  · intro located
    unfold writeLocation at located
    cases reached : system.parentLocation path with
    | error fault =>
        rw [reached] at located
        cases located
    | ok parent =>
        rw [reached] at located
        cases named : fileName? (pathSegments path) with
        | none =>
            rw [named] at located
            cases located
        | some name =>
            rw [named] at located
            dsimp only at located
            cases faulty : writeFault? system.top parent name with
            | some fault =>
                rw [faulty] at located
                cases located
            | none =>
                rw [faulty] at located
                cases located
                obtain ⟨followable, led, directory⟩ :=
                  (parentLocation_eq_ok_iff named).1 reached
                obtain ⟨short, free, overwritable, creatable⟩ :=
                  writeFault?_eq_none_iff.1 faulty
                exact ⟨parent, name, rfl, followable, named, short, led,
                  directory, free, overwritable, creatable⟩
  · rintro ⟨parent, name, rfl, writable⟩
    have reached := (parentLocation_eq_ok_iff writable.named).2
      ⟨writable.followable, writable.reached, writable.directory⟩
    have faultless := writeFault?_eq_none_iff.2
      ⟨writable.short, writable.free, writable.overwritable,
        writable.creatable⟩
    rw [writeLocation, reached, writable.named]
    dsimp only
    rw [faultless]

/-- Only the file that a path leads to has changed, and it has this text.  It
keeps the rights that it had. -/
def OnlyWrites (before after : FileSystem) (path : RawText)
    (text : String) : Prop :=
  ∃ location, after.locate path = .ok location ∧
    after.top.node? location =
      some (.file text.toUTF8 (rightsAt before.top location)) ∧
    SameBut location before.top after.top ∧
    after.workingDirectory = before.workingDirectory

theorem onlyWrites_of_writeText {system written : FileSystem}
    {path : RawText} {text : String}
    (succeeded : system.writeText path text = .ok written) :
    OnlyWrites system written path text := by
  unfold writeText at succeeded
  cases located : system.writeLocation path with
  | error fault =>
      rw [located] at succeeded
      cases succeeded
  | ok location =>
      rw [located] at succeeded
      cases succeeded
      obtain ⟨parent, name, rfl, writable⟩ :=
        writeLocation_eq_ok_iff.1 located
      obtain ⟨rights, directory, passable⟩ := writable.directory
      have same := place_sameBut ⟨rights, directory⟩ writable.free
        text.toUTF8 (rightsAt system.top (parent ++ [name]))
      have placed := node?_place system.top (parent ++ [name])
        (.file text.toUTF8 (rightsAt system.top (parent ++ [name])))
      refine ⟨parent ++ [name], ?_, placed, same, rfl⟩
      rw [← same parent (by simp)] at directory
      obtain ⟨entries, stillDirectory⟩ := at?_eq_directory_iff.1 directory
      obtain ⟨segments, proper, noWayUp, -⟩ :=
        segments_of_fileName? writable.named
      have reached := followAll_of_sameBut same writable.free
        (isSome_at?_iff.2 (Option.isSome_of_eq_some placed)) writable.reached
      have notEmpty : name ≠ "" := by
        rintro rfl
        exact proper rfl
      unfold locate
      rw [writable.followable, segments, followAll_append]
      change (followAll _ (system.start path) _).bind _ = _
      rw [reached]
      change followAll _ parent [name] = _
      rw [followAll_singleton, follow_of_directory stillDirectory,
        if_neg notEmpty, passable, if_neg proper, if_neg noWayUp,
        if_neg (Nat.not_lt.2 writable.short), placed]
      rfl

/-- A text is written exactly to the paths that can be written. -/
theorem writeText_succeeds_iff {system : FileSystem} {path : RawText}
    (text : String) :
    (∃ written, system.writeText path text = .ok written) ↔
      ∃ parent name, system.Writable path parent name := by
  unfold writeText
  cases located : system.writeLocation path with
  | error fault =>
      refine iff_of_false (fun ⟨_, succeeded⟩ => by cases succeeded) ?_
      rintro ⟨parent, name, writable⟩
      rw [writeLocation_eq_ok_iff.2 ⟨parent, name, rfl, writable⟩] at located
      cases located
  | ok location =>
      obtain ⟨parent, name, -, writable⟩ :=
        writeLocation_eq_ok_iff.1 located
      exact iff_of_true ⟨_, rfl⟩ ⟨parent, name, writable⟩

end FileSystem

end ClassDiagram
