import ClassDiagram.Diagram.Sink

/-!
# Workspaces

A workspace holds the settings of a diagram and the texts it is made of.
Both may be changed at any time; nothing that is made from them is kept, so
every diagram shows the settings and the texts of its moment.
-/

namespace ClassDiagram

/-- Settings and sources from which a diagram is made. -/
structure Workspace where
  settings : Settings := {}
  sources : List String := []
  deriving DecidableEq, Repr

namespace Workspace

/-- Choose the root namespace.  It is not checked before a diagram is
made. -/
def withRoot (workspace : Workspace) (root : String) : Workspace :=
  { workspace with settings := { workspace.settings with root := root } }

def withHeader (workspace : Workspace) (header : Header) : Workspace :=
  { workspace with settings := { workspace.settings with header := header } }

/-- Choose the moment that styled headers are dated with. -/
def withTimestamp (workspace : Workspace) (moment : Timestamp) : Workspace :=
  { workspace with
    settings := { workspace.settings with timestamp := moment } }

/-- Add a source behind the others, even one that has no outline. -/
def add (workspace : Workspace) (source : String) : Workspace :=
  { workspace with sources := workspace.sources ++ [source] }

/-- Remove the last source, if there is one. -/
def dropLast (workspace : Workspace) : Workspace :=
  { workspace with sources := workspace.sources.dropLast }

def isEmpty (workspace : Workspace) : Bool :=
  workspace.sources.isEmpty

def render (workspace : Workspace) : Except DiagramError String :=
  renderSources workspace.settings workspace.sources

/-- Make the document of all sources and deliver it. -/
def generate (workspace : Workspace) (sink : Sink) : Generation :=
  ClassDiagram.generate workspace.settings workspace.sources sink

/-- Removing the source added last undoes adding it. -/
@[simp]
theorem dropLast_add (workspace : Workspace) (source : String) :
    (workspace.add source).dropLast = workspace := by
  simp [add, dropLast]

@[simp]
theorem isEmpty_add (workspace : Workspace) (source : String) :
    (workspace.add source).isEmpty = false := by
  simp [add, isEmpty]

end Workspace

end ClassDiagram
