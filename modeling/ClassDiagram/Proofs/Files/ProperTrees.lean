import ClassDiagram.Files.FileSystem
import Mathlib.Data.List.Nodup

/-!
# Trees with proper names

The entries of a directory have different names, and each is a name that a
segment of a path can look up.  In a tree where that is so at every directory,
an entry is found by its name, what is below a node is again such a tree, and
what is said of every node can be proved by induction.
-/

namespace ClassDiagram

open RawText (slash)

@[mk_iff]
structure IsEntryName (name : RawText) : Prop where
  noSlash : slash ∉ name.bytes
  noNull : 0 ∉ name.bytes
  leadsOn : FileSystem.staysThere name = false
  noWayUp : name ≠ ".."
  short : name.bytes.length ≤ FileSystem.longestName

/-- All entries of a directory have proper names, and no two the same. -/
@[mk_iff]
structure AreEntries (entries : List (RawText × FileNode)) : Prop where
  distinct : (entries.map Prod.fst).Nodup
  proper : ∀ name ∈ entries.map Prod.fst, IsEntryName name

instance (name : RawText) : Decidable (IsEntryName name) :=
  decidable_of_iff _ (isEntryName_iff name).symm

instance (entries : List (RawText × FileNode)) :
    Decidable (AreEntries entries) :=
  decidable_of_iff _ (areEntries_iff entries).symm

/-- All directories of a tree have proper entries. -/
def FileNode.IsTree (node : FileNode) : Prop :=
  ∀ location entries rights,
    node.node? location = some (.directory entries rights) →
      AreEntries entries

theorem IsEntryName.ne_empty {name : RawText} (isName : IsEntryName name) :
    name ≠ "" := by
  rintro rfl
  cases isName.leadsOn

section

variable {entries : List (RawText × FileNode)} {rights : Rights}
  {name : RawText} {entry : FileNode}

theorem lookup_eq_some_iff_mem (distinct : (entries.map Prod.fst).Nodup) :
    entries.lookup name = some entry ↔ (name, entry) ∈ entries := by
  induction entries with
  | nil => simp
  | cons first others inductionHypothesis =>
      obtain ⟨given, node⟩ := first
      rw [List.map_cons, List.nodup_cons] at distinct
      rw [List.lookup_cons, List.mem_cons]
      cases same : name == given with
      | true =>
          rw [beq_iff_eq] at same
          subst same
          have elsewhere : (name, entry) ∉ others := fun member =>
            distinct.1 (List.mem_map.2 ⟨_, member, rfl⟩)
          simp [elsewhere, eq_comm]
      | false =>
          rw [beq_eq_false_iff_ne] at same
          simp only [inductionHypothesis distinct.2, Prod.mk.injEq, same,
            false_and, false_or]

theorem FileNode.IsTree.areEntries
    (isTree : (FileNode.directory entries rights).IsTree) :
    AreEntries entries :=
  isTree [] entries rights rfl

/-- What is below a tree is a tree. -/
theorem FileNode.IsTree.below {node found : FileNode} {location : Location}
    (isTree : node.IsTree) (isThere : node.node? location = some found) :
    found.IsTree := by
  intro deeper entries rights isDirectory
  apply isTree (location ++ deeper) entries rights
  rw [FileNode.node?_append, isThere, Option.bind_some, isDirectory]

/-- Every entry of a tree is a tree. -/
theorem FileNode.IsTree.of_mem
    (isTree : (FileNode.directory entries rights).IsTree)
    (isEntry : (name, entry) ∈ entries) : entry.IsTree := by
  have isThere := (lookup_eq_some_iff_mem isTree.areEntries.distinct).2 isEntry
  have oneFurther :
      (FileNode.directory entries rights).node? [name] = some entry := by
    rw [FileNode.node?_cons, FileNode.entries, isThere]
    rfl
  exact isTree.below oneFurther

theorem isTree_file (content : ByteArray) :
    (FileNode.file content rights).IsTree := by
  intro location entries rights isDirectory
  cases location <;> cases isDirectory

theorem isTree_directory_iff :
    (FileNode.directory entries rights).IsTree ↔
      AreEntries entries ∧ ∀ given ∈ entries, given.2.IsTree := by
  refine ⟨fun isTree => ⟨isTree.areEntries, fun given => isTree.of_mem⟩, ?_⟩
  rintro ⟨areEntries, below⟩ location found foundRights isDirectory
  cases location with
  | nil =>
      cases isDirectory
      exact areEntries
  | cons name deeper =>
      rw [FileNode.node?_cons, FileNode.entries,
        Option.bind_eq_some_iff] at isDirectory
      obtain ⟨entry, isThere, isDirectory⟩ := isDirectory
      rw [lookup_eq_some_iff_mem areEntries.distinct] at isThere
      exact below _ isThere deeper found foundRights isDirectory

/-- All names on the way to a node are proper. -/
theorem FileNode.IsTree.isEntryName {node found : FileNode}
    {location : Location} (isTree : node.IsTree)
    (isThere : node.node? location = some found) :
    ∀ name ∈ location, IsEntryName name := by
  induction location generalizing node with
  | nil => exact List.forall_mem_nil _
  | cons name deeper inductionHypothesis =>
      rw [FileNode.node?_cons, Option.bind_eq_some_iff] at isThere
      obtain ⟨entry, atName, isThere⟩ := isThere
      cases node with
      | file content rights => cases atName
      | directory entries rights =>
          rw [FileNode.entries] at atName
          rw [lookup_eq_some_iff_mem isTree.areEntries.distinct] at atName
          rw [List.forall_mem_cons]
          exact ⟨isTree.areEntries.proper name
              (List.mem_map.2 ⟨_, atName, rfl⟩),
            inductionHypothesis (isTree.of_mem atName) isThere⟩

end

/-- Induction over a tree, with the entries of a directory below it. -/
theorem FileNode.induction {motive : FileNode → Prop}
    (file : ∀ content rights, motive (.file content rights))
    (directory : ∀ (entries : List (RawText × FileNode)) (rights : Rights),
      (∀ given ∈ entries, motive given.2) →
        motive (.directory entries rights)) :
    ∀ node, motive node
  | .file content rights => file content rights
  | .directory entries rights => directory entries rights fun given _ =>
      FileNode.induction file directory given.2
termination_by node => sizeOf node
decreasing_by
  rename_i isEntry
  have smaller := List.sizeOf_lt_of_mem isEntry
  obtain ⟨name, node⟩ := given
  simp only [Prod.mk.sizeOf_spec] at smaller
  simp only [FileNode.directory.sizeOf_spec]
  omega

end ClassDiagram
