import Coselect.Analysis.Expand
import Coselect.Graph.Walk

/-! The analysis of one root: a bounded walk whose expansions look at files, and the graph
made from its outcome. -/

namespace Coselect.Analysis

open Coselect.Graph

/-- The walk of an analysis, the nodes expanded so far and the files left out. -/
structure Survey where
  walk : Walk
  nodes : Table String Node := .empty
  leftOut : LeftOut := .empty

/-- Takes in an expanded node; the flag says that the ceiling was hit. -/
def Survey.absorb (s : Survey) (b : Bounds) (node : Node) : Survey × Bool :=
  let (walk, full) := s.walk.absorb b node.path node.resolvedImports
  ({ s with walk, nodes := s.nodes.insert node.path node }, full)

/-- The walk to its end. There are never more nodes than the ceiling, each expanded once, so
`fuel` turns suffice when there is one. -/
def survey (w : Workspace) (p : Settings.Policy) (b : Bounds) :
    Nat → Survey → Inquiry (Survey × StopReason)
  | 0, s => pure (s, .exhausted)
  | fuel + 1, s =>
    match s.walk.next? with
    | none => pure (s, .exhausted)
    | some (path, walk) => do
      let signal ← Inquiry.signal
      if signal.cancelled then return (s, .cancelled)
      if signal.expired then return (s, .timedOut)
      Inquiry.yield
      match ← expand w p path (walk.depth path) s.leftOut with
      | (none, leftOut) => return ({ s with walk, leftOut }, .timedOut)
      | (some node, leftOut) =>
        match Survey.absorb { s with walk, leftOut } b node with
        | (s, true) => return (s, .truncated)
        | (s, false) => survey w p b fuel s

/-- The node of a discovered file, unexpanded when the walk did not get to it. -/
def Survey.node (s : Survey) (path : String) (depth : Nat) : Node :=
  (s.nodes.get? path).getD { path, depth }

/-- The node of the root is the selected one and says why it would be left out, if it would. -/
def selected (root : String) (reason : Option ExcludeReason) (n : Node) : Node :=
  if n.path = root then
    { n with kind := .manual, excluded := reason.isSome, excludeReason := reason }
  else n

/-- The graph of a root. -/
def Survey.graph (s : Survey) (reason : StopReason) (root : String)
    (rootReason : Option ExcludeReason) : DependencyGraph :=
  let nodes := s.walk.depths.entries.foldl (fun t (path, depth) =>
    t.insert path (selected root rootReason (s.node path depth))) Table.empty
  let edges := s.walk.depths.keys.foldl (fun t path => t.insert path (s.walk.edges.next path))
    Table.empty
  DependencyGraph.withReverseEdges
    { nodes, edges, roots := [root], cycles := s.walk.detector.cycles
      excluded := s.leftOut.keep fun path => !nodes.contains path
      truncated := reason == .truncated, timedOut := reason == .timedOut
      cancelled := reason == .cancelled }

/-- The analysis of a root. Nodes over the ceiling, of which there is at least one, are left
out. -/
def analyze (w : Workspace) (config : Settings.Config) (root : String) (maxNodes : Nat) :
    Work DependencyGraph := do
  match config.policy with
  | .error f => Work.fail f
  | .ok p =>
    let root := Path.normalize root
    let _ ← loadAliases w.root w.mappingFile
    let bounds : Bounds := ⟨p.maxDepth, some maxNodes⟩
    let (s, reason) ← Work.ofInquiry (survey w p bounds (maxNodes + 2) { walk := .start root })
    return s.graph reason root (← excludeReason w p.exclusions root)

end Coselect.Analysis
