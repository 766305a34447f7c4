import Coselect.Graph.Basic

/-! Why files are selected. A root contributes the files of its graph with their depths, and
their test files with the least depth of a node that lists them; a record gathers what
the roots contribute to one file. -/

namespace Coselect.Selection

open Coselect.Graph Text

/-- How a root reaches a file. -/
structure Claim where
  depth : Nat
  kind : SelectionKind
  deriving DecidableEq, Repr

abbrev Contribution := Table String Claim

namespace Contribution

/-- Adds a test file that is neither the root nor a node, unless it is there with no greater
depth. -/
def addTest (root : String) (g : DependencyGraph) (depth : Nat) (c : Contribution)
    (test : String) : Contribution :=
  if test = root ∨ g.nodes.contains test then c
  else match c.get? test with
    | some claim => if depth < claim.depth then c.insert test ⟨depth, .autoTest⟩ else c
    | none => c.insert test ⟨depth, .autoTest⟩

/-- What a graph selects on behalf of its root. -/
def ofGraph (root : String) (g : DependencyGraph) : Contribution :=
  let files := g.nodes.entries.foldl (fun c (path, n) =>
    if path = root then c else c.insert path ⟨n.depth, .autoDependency⟩) Table.empty
  g.nodes.values.foldl (fun c n => n.testFiles.foldl (addTest root g n.depth) c) files

def toJson (c : Contribution) : Json :=
  .obj (c.entries.map fun (p, claim) => (p, .arr [.nat claim.depth, .str claim.kind.name]))

end Contribution

/-- The roots that select a file, the least of their depths, and whether one of them imports
it or it is a test only. -/
structure Record where
  selectedBy : List String
  depth : Nat
  kind : SelectionKind
  deriving DecidableEq, Repr

def Record.toJson (r : Record) : Json :=
  .obj [("selection_kind", .str r.kind.name), ("selected_by", .strings (sortedSet r.selectedBy)),
    ("depth", .nat r.depth)]

/-- What a change did: the files that came in and went out, and the record of every file it
touched. -/
structure Update where
  added : List String := []
  removed : List String := []
  metadata : Table String Record := .empty

namespace Update

def isEmpty (u : Update) : Bool := u.added.isEmpty && u.removed.isEmpty

/-- The update with one that followed it. -/
def andThen (u v : Update) : Update :=
  { u with removed := u.removed ++ v.removed
           metadata := v.metadata.entries.foldl (fun t (p, r) => t.insert p r) u.metadata }

def toFields (u : Update) : List (String × Json) :=
  [("added", .strings (sortedSet u.added)), ("removed", .strings (sortedSet u.removed)),
    ("metadata", .obj ((sorted u.metadata).map fun (p, r) => (p, r.toJson)))]

end Update

end Coselect.Selection
