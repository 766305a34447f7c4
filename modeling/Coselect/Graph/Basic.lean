import Coselect.Json.Basic
import Coselect.Table
import Coselect.Text.Basic

/-! Dependency graphs of one root: a node per visited file, edges from importer to imported,
and what was left out and why. -/

namespace Coselect.Graph

open Text

inductive SelectionKind
  | manual
  | autoDependency
  | autoTest
  deriving DecidableEq, Repr

def SelectionKind.name : SelectionKind → String
  | manual => "manual"
  | autoDependency => "auto-dependency"
  | autoTest => "auto-test"

def SelectionKind.named? (s : String) : Option SelectionKind :=
  [manual, autoDependency, autoTest].find? fun k => k.name == s

inductive ExcludeReason
  | externallyManaged
  | ignoreRule
  | userPattern
  deriving DecidableEq, Repr

def ExcludeReason.name : ExcludeReason → String
  | externallyManaged => "externally-managed"
  | ignoreRule => "ignore-rule"
  | userPattern => "user-pattern"

def ExcludeReason.named? (s : String) : Option ExcludeReason :=
  [externallyManaged, ignoreRule, userPattern].find? fun r => r.name == s

/-- One file: its imports as written, those that lead to a file that is not excluded, and
its test files. A node is expanded once its file has been looked at; an error is the
reason for which that gave nothing. -/
structure Node where
  path : String
  depth : Nat
  rawImports : List String := []
  resolvedImports : List String := []
  testFiles : List String := []
  kind : SelectionKind := .autoDependency
  excluded : Bool := false
  excludeReason : Option ExcludeReason := none
  expanded : Bool := false
  error : Option String := none
  deriving DecidableEq, Repr

def Node.toJson (n : Node) : Json :=
  .obj [("path", .str n.path), ("raw_imports", .strings n.rawImports),
    ("resolved_imports", .strings (sortedSet n.resolvedImports)),
    ("test_files", .strings (sortedSet n.testFiles)), ("depth", .nat n.depth),
    ("selection_kind", .str n.kind.name), ("excluded", .bool n.excluded),
    ("exclude_reason", .option (fun r => .str r.name) n.excludeReason),
    ("expanded", .bool n.expanded), ("error", .option .str n.error)]

/-- For each file the files next to it, as sets. -/
abbrev Adjacency := Table String (List String)

def Adjacency.next (a : Adjacency) (path : String) : List String := (a.get? path).getD []

/-- Adds one neighbour. -/
def Adjacency.link (a : Adjacency) (path next : String) : Adjacency :=
  a.insert path ((a.next path).insert next)

def Adjacency.size (a : Adjacency) : Nat := a.values.foldl (fun n s => n + s.eraseDups.length) 0

/-- The entries of a table in ascending order of their keys. -/
def sorted (t : Table String α) : List (String × α) :=
  t.entries.mergeSort fun a b => decide (a.1 ≤ b.1)

def Adjacency.toJson (a : Adjacency) : Json :=
  .obj ((sorted a).map fun (p, s) => (p, .strings (sortedSet s)))

structure DependencyGraph where
  nodes : Table String Node := .empty
  edges : Adjacency := .empty
  reverseEdges : Adjacency := .empty
  roots : List String := []
  cycles : List (List String) := []
  excluded : Table String ExcludeReason := .empty
  truncated : Bool := false
  timedOut : Bool := false
  cancelled : Bool := false

namespace DependencyGraph

/-- Whether the walk stopped before it had seen everything. -/
def isPartial (g : DependencyGraph) : Bool := g.truncated || g.timedOut || g.cancelled

def nodeCount (g : DependencyGraph) : Nat := g.nodes.size

def edgeCount (g : DependencyGraph) : Nat := g.edges.size

def depthOf? (g : DependencyGraph) (path : String) : Option Nat := (g.nodes.get? path).map (·.depth)

/-- The files that import a file. -/
def dependentsOf (g : DependencyGraph) (path : String) : List String := g.reverseEdges.next path

def edgePairs (g : DependencyGraph) : List (String × String) :=
  (sorted g.edges).flatMap fun (p, s) => (sortedSet s).map fun q => (p, q)

/-- The edges turned around, with an entry for every node. -/
def reversed (g : DependencyGraph) : Adjacency :=
  g.edges.entries.foldl (fun r (p, s) => s.foldl (fun r q => r.link q p) r)
    (g.nodes.keys.foldl (fun r p => r.insert p []) .empty)

def withReverseEdges (g : DependencyGraph) : DependencyGraph :=
  { g with reverseEdges := g.reversed }

def toJson (g : DependencyGraph) : Json :=
  .obj [("roots", .strings (sortedSet g.roots)),
    ("nodes", .obj ((sorted g.nodes).map fun (p, n) => (p, n.toJson))),
    ("edges", g.edges.toJson), ("reverse_edges", g.reverseEdges.toJson),
    ("cycles", .arr (g.cycles.map .strings)),
    ("excluded", .obj ((sorted g.excluded).map fun (p, r) => (p, .str r.name))),
    ("truncated", .bool g.truncated), ("timed_out", .bool g.timedOut),
    ("cancelled", .bool g.cancelled)]

end DependencyGraph

end Coselect.Graph
