import Coselect.Text.Basic

/-! Cycles of a growing graph. A new edge from `s` to `t` closes one cycle per simple path
from `t` back to `s`, so each simple cycle is found by the edge that completes it. A cycle is
told by its nodes from the least one on; one that is there already is not found again. -/

namespace Coselect.Graph

abbrev Edge := String × String

def successors (edges : List Edge) (node : String) : List String :=
  (edges.filter fun e => e.1 == node).map Prod.snd

/-- The simple paths from a node to a goal that avoid some nodes; `fuel` bounds their
length. -/
def simplePaths (edges : List Edge) (goal : String) :
    Nat → List String → String → List (List String)
  | 0, _, _ => []
  | fuel + 1, avoided, node =>
    if node == goal then [[node]]
    else ((successors edges node).filter fun m => !(node :: avoided).contains m).flatMap fun m =>
      (simplePaths edges goal fuel (node :: avoided) m).map (node :: ·)

/-- What lists the simple paths along some edges from one node to another. -/
abbrev PathFinder := List Edge → String → String → List (List String)

/-- The paths found by going on from node to node. -/
def everyPath : PathFinder := fun edges node goal =>
  simplePaths edges goal (edges.length + 1) [] node

/-- Shorter paths first, then by their nodes. -/
def pathLE (p q : List String) : Bool :=
  p.length < q.length || (p.length == q.length && !q.lex p)

def least : List String → String
  | [] => ""
  | node :: nodes => nodes.foldl (fun m n => if n < m then n else m) node

/-- The nodes of a cycle from the least one on. -/
def fromLeast (nodes : List String) : List String :=
  let i := nodes.idxOf (least nodes)
  nodes.drop i ++ nodes.take i

/-- What tells a closed path from others, wherever they enter their cycle. -/
def cycleKey (path : List String) : List String := fromLeast path.dropLast

/-- The edges seen, each once, and the cycles found, as closed paths. -/
structure CycleDetector where
  edges : List Edge := []
  cycles : List (List String) := []
  deriving DecidableEq, Repr

namespace CycleDetector

/-- The closed paths that an edge completes when it has joined some others. -/
def closed (find : PathFinder) (edges : List Edge) (source target : String) :
    List (List String) :=
  ((if source == target then [[target]] else find edges target source).mergeSort pathLE).map
    (· ++ [target])

/-- The closed paths among some whose keys are new, each key once. -/
def unseen (keys : List (List String)) : List (List String) → List (List String)
  | [] => []
  | path :: paths =>
    if keys.contains (cycleKey path) then unseen keys paths
    else path :: unseen (cycleKey path :: keys) paths

/-- Adds an edge; one seen before closes nothing. -/
def addEdgeBy (find : PathFinder) (d : CycleDetector) (source target : String) :
    List (List String) × CycleDetector :=
  if d.edges.contains (source, target) then ([], d)
  else
    let edges := d.edges ++ [(source, target)]
    let found := unseen (d.cycles.map cycleKey) (closed find edges source target)
    (found, ⟨edges, d.cycles ++ found⟩)

def addEdge (d : CycleDetector) (source target : String) : List (List String) × CycleDetector :=
  d.addEdgeBy everyPath source target

end CycleDetector

end Coselect.Graph
