import Coselect.Graph.Walk
import Coselect.Proofs.Graph.Cycles
import Coselect.Proofs.Table

/-! What becomes of one neighbour of a node in a bounded walk: it is known already, lies too deep,
would be one too many, or is discovered. -/

namespace Coselect.Graph

namespace Adjacency

variable {a : Adjacency} {s t u v : String}

@[simp] theorem next_empty : Adjacency.next .empty u = [] := rfl

@[simp] theorem mem_next_link : v ∈ (a.link s t).next u ↔ v ∈ a.next u ∨ u = s ∧ v = t := by
  unfold link
  by_cases hu : s = u
  · subst hu
    simp [next, or_comm]
  · simp [next, hu, Ne.symm hu]

end Adjacency

namespace CycleDetector

@[simp] theorem mem_edges_addEdge {d : CycleDetector} {s t : String} {e : Edge} :
    e ∈ (d.addEdge s t).2.edges ↔ e ∈ d.edges ∨ e = (s, t) := mem_edges_addEdgeBy

end CycleDetector

namespace Bounds

/-- Whether nothing below a depth is discovered. -/
def EndsAt (b : Bounds) (depth : Nat) : Prop := ∃ m, b.maxDepth = some m ∧ m ≤ depth

/-- Whether a number of nodes reaches the ceiling. -/
def FullAt (b : Bounds) (size : Nat) : Prop := ∃ m, b.maxNodes = some m ∧ m ≤ size

variable {b : Bounds} {d d' n n' : Nat}

theorem EndsAt.mono (h : b.EndsAt d) (hd : d ≤ d') : b.EndsAt d' := by
  obtain ⟨m, hm, hle⟩ := h
  exact ⟨m, hm, Nat.le_trans hle hd⟩

end Bounds

namespace Walk

variable {b : Bounds} {node n u : String} {full : Bool} {w : Walk} {dep : Nat}

/-- What may become of one neighbour of a node. -/
inductive TakesIn (b : Bounds) (node : String) (dep : Nat) (w : Walk) (full : Bool) (n : String) :
    Walk × Bool → Prop
  | known : n ∈ w.depths.keys → TakesIn b node dep w full n (w.record node n, full)
  | tooDeep : n ∉ w.depths.keys → b.EndsAt dep → TakesIn b node dep w full n (w, full)
  | tooMany : n ∉ w.depths.keys → ¬ b.EndsAt dep → b.FullAt w.depths.size →
      TakesIn b node dep w full n (w, true)
  | discovered : n ∉ w.depths.keys → ¬ b.EndsAt dep → ¬ b.FullAt w.depths.size →
      TakesIn b node dep w full n ((w.discover dep n).record node n, full)

theorem takesIn (b : Bounds) (node : String) (dep : Nat) (w : Walk) (full : Bool) (n : String) :
    TakesIn b node dep w full n (takeIn b node dep (w, full) n) := by
  have hdeep : b.maxDepth.any (· ≤ dep) = true ↔ b.EndsAt dep := by
    simp [Option.any_eq_true, Bounds.EndsAt]
  have hmany : b.maxNodes.any (· ≤ w.depths.size) = true ↔ b.FullAt w.depths.size := by
    simp [Option.any_eq_true, Bounds.FullAt]
  simp only [takeIn, judge]
  by_cases hn : n ∈ w.depths.keys
  · rw [if_pos (Table.contains_iff_mem_keys.2 hn)]
    exact .known hn
  rw [if_neg (fun h => hn (Table.contains_iff_mem_keys.1 h))]
  by_cases hd : b.EndsAt dep
  · rw [if_pos (hdeep.2 hd)]
    exact .tooDeep hn hd
  rw [if_neg (fun h => hd (hdeep.1 h))]
  by_cases hm : b.FullAt w.depths.size
  · rw [if_pos (hmany.2 hm)]
    exact .tooMany hn hd hm
  · rw [if_neg (fun h => hm (hmany.1 h))]
    exact .discovered hn hd hm

section Views

@[simp] theorem depths_record : (w.record node n).depths = w.depths := rfl

@[simp] theorem depth_record : (w.record node n).depth u = w.depth u := rfl

@[simp] theorem mem_next_record :
    v ∈ (w.record node n).edges.next u ↔ v ∈ w.edges.next u ∨ u = node ∧ v = n :=
  Adjacency.mem_next_link

@[simp] theorem mem_traced_record {e : Edge} :
    e ∈ (w.record node n).detector.edges ↔ e ∈ w.detector.edges ∨ e = (node, n) :=
  CycleDetector.mem_edges_addEdge

theorem entries_discover (hn : n ∉ w.depths.keys) :
    (w.discover dep n).depths.entries = w.depths.entries ++ [(n, dep + 1)] := by
  refine Table.entries_insert_of_get?_eq_none _ ?_
  simpa [Table.mem_keys_iff] using hn

theorem keys_discover (hn : n ∉ w.depths.keys) :
    (w.discover dep n).depths.keys = w.depths.keys ++ [n] := by
  simp [Table.keys, entries_discover hn]

theorem mem_keys_discover (hn : n ∉ w.depths.keys) :
    u ∈ (w.discover dep n).depths.keys ↔ u ∈ w.depths.keys ∨ u = n := by
  simp [keys_discover hn]

theorem size_discover (hn : n ∉ w.depths.keys) :
    (w.discover dep n).depths.size = w.depths.size + 1 := by
  simp [Table.size, entries_discover hn]

theorem depth_discover_self : (w.discover dep n).depth n = dep + 1 := by
  simp [depth, discover]

theorem depth_discover_of_mem (hn : n ∉ w.depths.keys) (hu : u ∈ w.depths.keys) :
    (w.discover dep n).depth u = w.depth u := by
  have hne : n ≠ u := fun e => hn (e ▸ hu)
  simp [depth, discover, hne]

theorem get?_of_mem_keys (hu : u ∈ w.depths.keys) : w.depths.get? u = some (w.depth u) := by
  obtain ⟨d, hd⟩ := Option.isSome_iff_exists.1 (Table.mem_keys_iff.1 hu)
  simp [depth, hd]

theorem mem_keys_of_entries {w' : Walk} (h : w.depths.entries <+: w'.depths.entries)
    (hu : u ∈ w.depths.keys) : u ∈ w'.depths.keys :=
  (h.map Prod.fst).subset hu

theorem depth_of_entries {w' : Walk} (h : w.depths.entries <+: w'.depths.entries)
    (hu : u ∈ w.depths.keys) : w'.depth u = w.depth u := by
  have hget := h.subset (Table.mem_entries_iff.2 (get?_of_mem_keys hu))
  simp [depth, Table.mem_entries_iff.1 hget]

end Views

end Walk

end Coselect.Graph
