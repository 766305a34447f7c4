import Coselect.Proofs.Graph.Neighbour

/-! What makes the parts of a dependency graph fit together. Edges are turned around link by
link, starting with an entry for every node; what has been linked so far is kept by every
further link. -/

namespace Coselect.Graph

namespace Adjacency

variable {a : Adjacency} {s t u v : String}

theorem mem_next_iff : v ∈ a.next u ↔ ∃ s, (u, s) ∈ a.entries ∧ v ∈ s := by
  cases h : a.get? u <;> simp [next, Table.mem_entries_iff, h]

theorem mem_keys_link : u ∈ (a.link s t).keys ↔ u = s ∨ u ∈ a.keys := Table.mem_keys_store

/-- One file under each of its neighbours. -/
theorem mem_next_foldl_link (ts : List String) (a : Adjacency) :
    v ∈ (ts.foldl (fun a t => a.link t s) a).next u ↔ v ∈ a.next u ∨ u ∈ ts ∧ v = s := by
  induction ts generalizing a with
  | nil => simp
  | cons t ts ih =>
    rw [List.foldl_cons, ih, mem_next_link, List.mem_cons]
    tauto

theorem mem_keys_foldl_link (ts : List String) (a : Adjacency) :
    u ∈ (ts.foldl (fun a t => a.link t s) a).keys ↔ u ∈ a.keys ∨ u ∈ ts := by
  induction ts generalizing a with
  | nil => simp
  | cons t ts ih =>
    rw [List.foldl_cons, ih, mem_keys_link, List.mem_cons]
    tauto

end Adjacency

namespace DependencyGraph

variable {g : DependencyGraph} {u v : String}

/-- All files under their neighbours. -/
theorem mem_next_foldl (es : List (String × List String)) (a : Adjacency) :
    v ∈ (es.foldl (fun a (p, s) => s.foldl (fun a q => a.link q p) a) a).next u ↔
      v ∈ a.next u ∨ ∃ s, (v, s) ∈ es ∧ u ∈ s := by
  induction es generalizing a with
  | nil => simp
  | cons e es ih =>
    obtain ⟨p, s⟩ := e
    rw [List.foldl_cons, ih, Adjacency.mem_next_foldl_link, or_assoc]
    refine or_congr_right ?_
    constructor
    · rintro (⟨hu, rfl⟩ | ⟨s', hs', hu⟩)
      · exact ⟨s, List.mem_cons_self, hu⟩
      · exact ⟨s', List.mem_cons_of_mem _ hs', hu⟩
    · rintro ⟨s', hs', hu⟩
      rcases List.mem_cons.1 hs' with h | h
      · cases h
        exact .inl ⟨hu, rfl⟩
      · exact .inr ⟨s', h, hu⟩

theorem mem_keys_foldl (es : List (String × List String)) (a : Adjacency) :
    u ∈ (es.foldl (fun a (p, s) => s.foldl (fun a q => a.link q p) a) a).keys ↔
      u ∈ a.keys ∨ ∃ e ∈ es, u ∈ e.2 := by
  induction es generalizing a with
  | nil => simp
  | cons e es ih =>
    obtain ⟨p, s⟩ := e
    rw [List.foldl_cons, ih, Adjacency.mem_keys_foldl_link, or_assoc]
    simp

/-- An entry without neighbours for every node. -/
theorem get?_bare (ks : List String) :
    (ks.foldl (fun a p => a.insert p []) (.empty : Adjacency)).get? u =
      if u ∈ ks then some [] else none := by
  rw [Table.get?_foldl_insert fun _ => []]
  rfl

theorem mem_next_reversed : u ∈ g.reversed.next v ↔ v ∈ g.edges.next u := by
  have hbare : Adjacency.next (g.nodes.keys.foldl (fun a p => a.insert p []) .empty) v = [] := by
    rw [Adjacency.next, get?_bare]
    split <;> rfl
  rw [reversed, mem_next_foldl, hbare, Adjacency.mem_next_iff]
  simp

theorem mem_keys_reversed : v ∈ g.reversed.keys ↔ v ∈ g.nodes.keys ∨ ∃ u, v ∈ g.edges.next u := by
  rw [reversed, mem_keys_foldl, Table.mem_keys_iff, get?_bare]
  refine or_congr (by split <;> simp [*]) ?_
  simp only [Adjacency.mem_next_iff, Prod.exists]

end DependencyGraph

/-- What holds of a graph of a root under a depth limit, whether it is partial or not. -/
structure DependencyGraph.WellFormed (g : DependencyGraph) (root : String) (maxDepth : Option Nat) :
    Prop where
  rooted : g.depthOf? root = some 0
  edgeKeys : ∀ v, v ∈ g.edges.keys ↔ v ∈ g.nodes.keys
  reverseKeys : ∀ v, v ∈ g.reverseEdges.keys ↔ v ∈ g.nodes.keys
  closed : ∀ u v, v ∈ g.edges.next u → v ∈ g.nodes.keys
  inverse : ∀ u v, u ∈ g.reverseEdges.next v ↔ v ∈ g.edges.next u
  linked : ∀ u n, g.nodes.get? u = some n → n.expanded = true →
    ∀ v, v ∈ g.edges.next u ↔ v ∈ n.resolvedImports ∧ v ∈ g.nodes.keys
  bare : ∀ u n, g.nodes.get? u = some n → n.expanded = false ∨ n.error.isSome →
    g.edges.next u = [] ∧ n.rawImports = [] ∧ n.resolvedImports = [] ∧ n.testFiles = []
  parent : ∀ v k, g.depthOf? v = some k → v ≠ root →
    ∃ u j, g.depthOf? u = some j ∧ k = j + 1 ∧ v ∈ g.edges.next u
  shallow : ∀ u v j k, v ∈ g.edges.next u → g.depthOf? u = some j → g.depthOf? v = some k → k ≤ j + 1
  deep : ∀ m, maxDepth = some m → ∀ v k, g.depthOf? v = some k → k ≤ m
  apart : ∀ v ∈ g.excluded.keys, v ∉ g.nodes.keys
  flags : [g.truncated, g.timedOut, g.cancelled].count true ≤ 1
  complete : g.isPartial = false → ∀ u n, g.nodes.get? u = some n → n.expanded = true ∧
    ((∀ m, maxDepth = some m → n.depth < m) → ∀ v, v ∈ g.edges.next u ↔ v ∈ n.resolvedImports)

end Coselect.Graph
