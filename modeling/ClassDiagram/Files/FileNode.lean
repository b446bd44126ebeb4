import ClassDiagram.Text.RawText

/-!
# Trees of files

A node is a file with its bytes or a directory with named entries.  Both have
rights, which say what the user of the program may do with them.  A node below
another is found by its location, the names on the way to it.  The main
statement is that a node is found where it was placed.
-/

namespace ClassDiagram

/-- What may be done with a file or a directory: a file is read and written,
the entries of a directory are listed and changed, and a path may lead through
a directory. -/
structure Rights where
  toRead : Bool := true
  toWrite : Bool := true
  toPass : Bool := true
  deriving DecidableEq, Repr

inductive FileNode where
  | file (content : ByteArray) (rights : Rights := {})
  | directory (entries : List (RawText × FileNode)) (rights : Rights := {})

/-- The names on the way from a node to another below it. -/
abbrev Location := List RawText

def emptyDirectory : FileNode :=
  .directory []

/-- Give a name in a directory to a node, in the place of the entry that has
the name so far. -/
def setEntry (name : RawText) (node : FileNode) :
    List (RawText × FileNode) → List (RawText × FileNode)
  | [] => [(name, node)]
  | (other, kept) :: others =>
      if name = other then
        (name, node) :: others
      else
        (other, kept) :: setEntry name node others

@[simp]
theorem lookup_setEntry_self (name : RawText) (node : FileNode)
    (entries : List (RawText × FileNode)) :
    (setEntry name node entries).lookup name = some node := by
  induction entries with
  | nil =>
      simp [setEntry]
  | cons entry others inductionHypothesis =>
      obtain ⟨other, kept⟩ := entry
      rw [setEntry]
      split
      · simp
      · rename_i different
        have unequal : (name == other) = false := by simpa using different
        rw [List.lookup_cons, unequal]
        exact inductionHypothesis

theorem lookup_setEntry_of_ne {name other : RawText} (different : other ≠ name)
    (node : FileNode) (entries : List (RawText × FileNode)) :
    (setEntry name node entries).lookup other = entries.lookup other := by
  have unequal : (other == name) = false := by simpa using different
  induction entries with
  | nil =>
      rw [setEntry, List.lookup_cons, unequal]
  | cons entry others inductionHypothesis =>
      obtain ⟨given, kept⟩ := entry
      rw [setEntry]
      split
      · rename_i same
        subst same
        rw [List.lookup_cons, List.lookup_cons, unequal]
      · rw [List.lookup_cons, List.lookup_cons, inductionHypothesis]

namespace FileNode

def rights : FileNode → Rights
  | .file _ rights => rights
  | .directory _ rights => rights

/-- The entries of a directory; a file has none. -/
def entries : FileNode → List (RawText × FileNode)
  | .file _ _ => []
  | .directory entries _ => entries

/-- The rights of a directory that a node is or gives way to. -/
def directoryRights : FileNode → Rights
  | .file _ _ => {}
  | .directory _ rights => rights

def node? : FileNode → Location → Option FileNode
  | node, [] => some node
  | node, name :: deeper =>
      match node.entries.lookup name with
      | some entry => entry.node? deeper
      | none => none

/-- Place a node at a location below another.  Directories on the way are
made where they are missing, and a file on the way gives way to one. -/
def place : FileNode → Location → FileNode → FileNode
  | _, [], placed => placed
  | node, name :: deeper, placed =>
      let entry := (node.entries.lookup name).getD emptyDirectory
      .directory (setEntry name (entry.place deeper placed) node.entries)
        node.directoryRights

/-- Make a directory at a location, unless there is one. -/
def makeDirectory (node : FileNode) (location : Location) : FileNode :=
  match node.node? location with
  | some (.directory _ _) => node
  | _ => node.place location emptyDirectory

theorem node?_cons (node : FileNode) (name : RawText) (deeper : Location) :
    node.node? (name :: deeper) =
      (node.entries.lookup name).bind (·.node? deeper) := by
  rw [node?]
  cases node.entries.lookup name <;> rfl

theorem node?_append (node : FileNode) (location deeper : Location) :
    node.node? (location ++ deeper) =
      (node.node? location).bind (·.node? deeper) := by
  induction location generalizing node with
  | nil =>
      rfl
  | cons name others inductionHypothesis =>
      rw [List.cons_append, node?_cons, node?_cons, Option.bind_assoc]
      exact congrArg _ (funext inductionHypothesis)

/-- A node is found where it was placed. -/
@[simp]
theorem node?_place (node : FileNode) (location : Location)
    (placed : FileNode) :
    (node.place location placed).node? location = some placed := by
  induction location generalizing node with
  | nil =>
      rfl
  | cons name deeper inductionHypothesis =>
      simp [node?, place, entries, inductionHypothesis]

/-! ## All files of a tree -/

mutual

def files : FileNode → List (Location × ByteArray)
  | .file content _ => [([], content)]
  | .directory entries _ => filesOfEntries entries
termination_by structural node => node

def filesOfEntries :
    List (RawText × FileNode) → List (Location × ByteArray)
  | [] => []
  | (name, node) :: others =>
      (files node).map (fun found => (name :: found.1, found.2)) ++
        filesOfEntries others
termination_by structural entries => entries

end

/-- At a location there is a file with just these bytes. -/
def holds (node : FileNode) (location : Location) (content : ByteArray) :
    Bool :=
  match node.node? location with
  | some (.file present _) => present == content
  | _ => false

/-- The files of a tree that another tree did not hold. -/
def changes (before after : FileNode) : List (Location × ByteArray) :=
  after.files.filter fun found => !before.holds found.1 found.2

end FileNode

end ClassDiagram
