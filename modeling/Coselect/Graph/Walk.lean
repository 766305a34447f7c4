import Coselect.Graph.Basic
import Coselect.Graph.Cycles

/-! The bounded breadth-first walk over a graph discovered on the way, as a state and the
moves between two expansions. A node keeps the depth of its first discovery. At the depth
limit a node is still expanded, but only its edges to nodes already discovered count. A
node that would go over the ceiling is left out, and the walk stops behind the node whose
neighbour it is. -/

namespace Coselect.Graph

inductive StopReason
  | exhausted
  | truncated
  | timedOut
  | cancelled
  deriving DecidableEq, Repr

def StopReason.name : StopReason → String
  | exhausted => "exhausted"
  | truncated => "truncated"
  | timedOut => "timed-out"
  | cancelled => "cancelled"

/-- The deepest level to discover and the number of nodes to stop at, where limited. -/
structure Bounds where
  maxDepth : Option Nat := none
  maxNodes : Option Nat := none
  deriving DecidableEq, Repr

structure Walk where
  depths : Table String Nat
  edges : Adjacency
  expanded : List String
  queue : List String
  detector : CycleDetector

namespace Walk

def start (node : String) : Walk :=
  { depths := .insert .empty node 0, edges := .empty, expanded := [], queue := [node]
    detector := {} }

def depth (w : Walk) (node : String) : Nat := (w.depths.get? node).getD 0

/-- The discovered nodes that were not expanded, in the order of their discovery. -/
def frontier (w : Walk) : List String := w.depths.keys.filter (!w.expanded.contains ·)

/-- Takes the next node off the queue. -/
def next? (w : Walk) : Option (String × Walk) :=
  match w.queue with
  | [] => none
  | node :: queue => some (node, { w with queue })

/-- What becomes of one neighbour of a node at some depth. -/
inductive Verdict
  | known
  | discovered
  | tooDeep
  | tooMany
  deriving DecidableEq, Repr

def judge (b : Bounds) (w : Walk) (depth : Nat) (neighbour : String) : Verdict :=
  if w.depths.contains neighbour then .known
  else if b.maxDepth.any (· ≤ depth) then .tooDeep
  else if b.maxNodes.any (· ≤ w.depths.size) then .tooMany
  else .discovered

def discover (w : Walk) (depth : Nat) (neighbour : String) : Walk :=
  { w with depths := w.depths.insert neighbour (depth + 1), queue := w.queue ++ [neighbour] }

/-- Records an edge between discovered nodes. -/
def record (w : Walk) (node neighbour : String) : Walk :=
  { w with edges := w.edges.link node neighbour, detector := (w.detector.addEdge node neighbour).2 }

/-- Takes in one neighbour; the flag says that the ceiling was hit. -/
def takeIn (b : Bounds) (node : String) (depth : Nat) (s : Walk × Bool) (neighbour : String) :
    Walk × Bool :=
  match s.1.judge b depth neighbour with
  | .known => (s.1.record node neighbour, s.2)
  | .discovered => ((s.1.discover depth neighbour).record node neighbour, s.2)
  | .tooDeep => s
  | .tooMany => (s.1, true)

/-- The walk behind an expansion, and whether the ceiling was hit. -/
def absorb (b : Bounds) (w : Walk) (node : String) (neighbours : List String) : Walk × Bool :=
  neighbours.foldl (takeIn b node (w.depth node))
    ({ w with expanded := w.expanded ++ [node] }, false)

end Walk

/-- The result of a walk. -/
structure Outcome where
  walk : Walk
  reason : StopReason

namespace Outcome

/-- Counts that describe an outcome. -/
def summary (o : Outcome) : Json :=
  .obj [("nodes", .nat o.walk.depths.size), ("edges", .nat o.walk.edges.size),
    ("cycles", .nat o.walk.detector.cycles.length), ("frontier", .nat o.walk.frontier.length),
    ("stop_reason", .str o.reason.name)]

end Outcome

end Coselect.Graph
