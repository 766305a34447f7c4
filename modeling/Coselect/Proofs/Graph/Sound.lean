import Mathlib.Data.List.Nodup
import Mathlib.Logic.Function.Basic
import Coselect.Proofs.Graph.Neighbour

/-! What a bounded walk knows at any time. Nodes are discovered in the order of their depths; each
but the first has a parent one level above; an expanded node has edges to those of its
neighbours that are discovered, and misses one only below the depth limit or over the
ceiling. Every further neighbour of the deepest node expanded keeps all of this. -/

namespace Coselect.Graph.Walk

variable {b : Bounds} {root node n u v : String} {next : String → List String} {full : Bool}
  {w : Walk}

/-- What holds of a walk: `next` gives the neighbours of the expanded nodes as far as they were
taken in, and `full` says that the ceiling was hit. -/
structure Sound (b : Bounds) (root : String) (next : String → List String) (full : Bool)
    (w : Walk) : Prop where
  expanded : w.expanded <+: w.depths.keys
  atRoot : w.depths.get? root = some 0
  sorted : w.depths.keys.Pairwise fun u v => w.depth u ≤ w.depth v
  edges : ∀ u v, v ∈ w.edges.next u ↔ u ∈ w.expanded ∧ v ∈ next u ∧ v ∈ w.depths.keys
  parent : ∀ v ∈ w.depths.keys, v ≠ root →
    ∃ u, v ∈ w.edges.next u ∧ w.depth v = w.depth u + 1
  shallow : ∀ u v, v ∈ w.edges.next u → w.depth v ≤ w.depth u + 1
  deep : ∀ m, b.maxDepth = some m → ∀ v ∈ w.depths.keys, w.depth v ≤ m
  size : ∀ m, b.maxNodes = some m → w.depths.size ≤ max 1 m
  missing : ∀ u ∈ w.expanded, ∀ v ∈ next u, v ∉ w.depths.keys → b.EndsAt (w.depth u) ∨ full = true
  ceiling : full = true → b.FullAt w.depths.size ∧
    ∃ u ∈ w.expanded, ∃ v ∈ next u, v ∉ w.depths.keys ∧ ¬ b.EndsAt (w.depth u)
  traced : ∀ u v, (u, v) ∈ w.detector.edges ↔ v ∈ w.edges.next u

/-- The nodes that wait are the discovered ones that are not expanded. -/
def Ready (w : Walk) : Prop := w.depths.keys = w.expanded ++ w.queue

/-- A node is the deepest of those expanded. -/
def Deepest (w : Walk) (node : String) : Prop :=
  node ∈ w.expanded ∧ ∀ u ∈ w.expanded, w.depth u ≤ w.depth node

/-- One more neighbour of a node. -/
def noting (next : String → List String) (node n : String) : String → List String :=
  Function.update next node (next node ++ [n])

theorem mem_noting : v ∈ noting next node n u ↔ v ∈ next u ∨ u = node ∧ v = n := by
  unfold noting
  by_cases hu : u = node
  · subst hu
    simp
  · simp [hu]

namespace Sound

theorem mem_keys (h : Sound b root next full w) (hu : u ∈ w.expanded) : u ∈ w.depths.keys :=
  h.expanded.subset hu

theorem mem_keys_of_edge (h : Sound b root next full w) (hv : v ∈ w.edges.next u) :
    u ∈ w.depths.keys ∧ v ∈ w.depths.keys := by
  obtain ⟨hu, -, hk⟩ := (h.edges u v).1 hv
  exact ⟨h.mem_keys hu, hk⟩

/-- The queue does not matter. -/
theorem requeue (h : Sound b root next full w) (q : List String) :
    Sound b root next full { w with queue := q } :=
  ⟨h.expanded, h.atRoot, h.sorted, h.edges, h.parent, h.shallow, h.deep, h.size, h.missing, h.ceiling,
    h.traced⟩

theorem keys_eq (h : Sound b root next full w) : w.depths.keys = w.expanded ++ w.frontier := by
  obtain ⟨rest, hrest⟩ := h.expanded
  have hnodup : w.depths.keys.Nodup := w.depths.nodup_keys
  rw [← hrest] at hnodup
  have hfrontier : w.frontier = rest := by
    unfold frontier
    rw [← hrest, List.filter_append]
    have hexp : w.expanded.filter (!w.expanded.contains ·) = [] := by simp
    have hrest : rest.filter (!w.expanded.contains ·) = rest := by
      refine List.filter_eq_self.2 fun v hv => ?_
      have hnot : v ∉ w.expanded := fun hm => List.disjoint_of_nodup_append hnodup hm hv
      simpa using hnot
    rw [hexp, hrest, List.nil_append]
  rw [hfrontier, hrest]

/-- The nodes that wait are not above those expanded. -/
theorem depth_le_of_mem_queue (h : Sound b root next full w) (hr : w.Ready) (hu : u ∈ w.expanded)
    (hv : v ∈ w.queue) : w.depth u ≤ w.depth v := by
  have hsorted := h.sorted
  rw [hr] at hsorted
  exact (List.pairwise_append.1 hsorted).2.2 u hu v hv

/-- No node is deeper than the level below the deepest one expanded. -/
theorem depth_le (h : Sound b root next full w) (hd : w.Deepest node) (hv : v ∈ w.depths.keys) :
    w.depth v ≤ w.depth node + 1 := by
  by_cases hs : v = root
  · have : w.depth v = 0 := by simp [depth, hs, h.atRoot]
    omega
  · obtain ⟨u, hvu, hdepth⟩ := h.parent v hv hs
    have := hd.2 u ((h.edges u v).1 hvu).1
    omega

theorem known (h : Sound b root next full w) (hd : w.Deepest node) (hn : n ∈ w.depths.keys) :
    Sound b root (noting next node n) full (w.record node n) where
  expanded := h.expanded
  atRoot := h.atRoot
  sorted := h.sorted
  edges u v := by
    rw [mem_next_record, h.edges, mem_noting]
    constructor
    · rintro (⟨hu, hv, hk⟩ | ⟨rfl, rfl⟩)
      · exact ⟨hu, .inl hv, hk⟩
      · exact ⟨hd.1, .inr ⟨rfl, rfl⟩, hn⟩
    · rintro ⟨hu, hv | he, hk⟩
      · exact .inl ⟨hu, hv, hk⟩
      · exact .inr he
  parent v hv hs := by
    obtain ⟨u, hvu, hdepth⟩ := h.parent v hv hs
    exact ⟨u, mem_next_record.2 (.inl hvu), hdepth⟩
  shallow u v hv := by
    rcases mem_next_record.1 hv with hv | ⟨rfl, rfl⟩
    · exact h.shallow u v hv
    · exact h.depth_le hd hn
  deep := h.deep
  size := h.size
  missing u hu v hv hk := by
    rcases mem_noting.1 hv with hv | ⟨rfl, rfl⟩
    · exact h.missing u hu v hv hk
    · exact absurd hn hk
  ceiling hf := by
    obtain ⟨hfull, u, hu, v, hv, hk⟩ := h.ceiling hf
    exact ⟨hfull, u, hu, v, mem_noting.2 (.inl hv), hk⟩
  traced u v := by
    rw [mem_traced_record, mem_next_record, h.traced, Prod.mk.injEq]

/-- A neighbour that is left out. -/
theorem leftOut {full' : Bool} (h : Sound b root next full w) (hd : w.Deepest node)
    (hn : n ∉ w.depths.keys) (hmono : full = true → full' = true)
    (hwhy : b.EndsAt (w.depth node) ∨ full' = true)
    (hfull : full' = true → full = true ∨ b.FullAt w.depths.size ∧ ¬ b.EndsAt (w.depth node)) :
    Sound b root (noting next node n) full' w where
  expanded := h.expanded
  atRoot := h.atRoot
  sorted := h.sorted
  edges u v := by
    rw [h.edges, mem_noting]
    constructor
    · rintro ⟨hu, hv, hk⟩
      exact ⟨hu, .inl hv, hk⟩
    · rintro ⟨hu, hv | ⟨-, rfl⟩, hk⟩
      · exact ⟨hu, hv, hk⟩
      · exact absurd hk hn
  parent := h.parent
  shallow := h.shallow
  deep := h.deep
  size := h.size
  missing u hu v hv hk := by
    rcases mem_noting.1 hv with hv | ⟨rfl, rfl⟩
    · exact (h.missing u hu v hv hk).imp_right hmono
    · exact hwhy
  ceiling hf := by
    rcases hfull hf with hf | ⟨hfull, hdeep⟩
    · obtain ⟨hfull, u, hu, v, hv, hk⟩ := h.ceiling hf
      exact ⟨hfull, u, hu, v, mem_noting.2 (.inl hv), hk⟩
    · exact ⟨hfull, node, hd.1, n, mem_noting.2 (.inr ⟨rfl, rfl⟩), hn, hdeep⟩
  traced := h.traced

/-- A neighbour that is discovered; none that was left out is discovered later, since the node
is the deepest one expanded. -/
theorem discovered (h : Sound b root next full w) (hd : w.Deepest node) (hn : n ∉ w.depths.keys)
    (hdeep : ¬ b.EndsAt (w.depth node)) (hmany : ¬ b.FullAt w.depths.size) :
    Sound b root (noting next node n) full ((w.discover (w.depth node) n).record node n) := by
  have hold : ∀ v ∈ w.depths.keys, (w.discover (w.depth node) n).depth v = w.depth v := fun v hv =>
    depth_discover_of_mem hn hv
  have hnode : node ∈ w.depths.keys := h.mem_keys hd.1
  have hnew : ∀ u ∈ w.expanded, n ∉ next u := by
    intro u hu hnu
    rcases h.missing u hu n hnu hn with hends | hf
    · exact hdeep (hends.mono (hd.2 u hu))
    · exact hmany (h.ceiling hf).1
  constructor
  case expanded =>
    rw [depths_record, keys_discover hn]
    exact h.expanded.trans (List.prefix_append _ _)
  case atRoot =>
    have hs : n ≠ root := by
      rintro rfl
      simp [Table.mem_keys_iff, h.atRoot] at hn
    simp [discover, hs, h.atRoot]
  case sorted =>
    simp only [depths_record, depth_record, keys_discover hn]
    refine List.pairwise_append.2 ⟨?_, List.pairwise_singleton _ _, ?_⟩
    · refine h.sorted.imp_of_mem fun hu hv hle => ?_
      rw [hold _ hu, hold _ hv]
      exact hle
    · intro u hu v hv
      obtain rfl := List.mem_singleton.1 hv
      rw [hold u hu, depth_discover_self]
      exact h.depth_le hd hu
  case edges =>
    intro u v
    rw [mem_next_record, depths_record, mem_keys_discover hn, mem_noting]
    change v ∈ w.edges.next u ∨ _ ↔ u ∈ w.expanded ∧ _
    rw [h.edges]
    constructor
    · rintro (⟨hu, hv, hk⟩ | ⟨rfl, rfl⟩)
      · exact ⟨hu, .inl hv, .inl hk⟩
      · exact ⟨hd.1, .inr ⟨rfl, rfl⟩, .inr rfl⟩
    · rintro ⟨hu, hv | he, hk⟩
      · rcases hk with hk | rfl
        · exact .inl ⟨hu, hv, hk⟩
        · exact absurd hv (hnew u hu)
      · exact .inr he
  case parent =>
    intro v hv hs
    simp only [depths_record, mem_keys_discover hn] at hv
    simp only [depth_record]
    rcases hv with hv | rfl
    · obtain ⟨u, hvu, hdepth⟩ := h.parent v hv hs
      refine ⟨u, mem_next_record.2 (.inl hvu), ?_⟩
      rw [hold v hv, hold u (h.mem_keys_of_edge hvu).1, hdepth]
    · refine ⟨node, mem_next_record.2 (.inr ⟨rfl, rfl⟩), ?_⟩
      rw [depth_discover_self, hold node hnode]
  case shallow =>
    intro u v hv
    simp only [depth_record]
    rcases mem_next_record.1 hv with hv | ⟨rfl, rfl⟩
    · obtain ⟨hu, hk⟩ := h.mem_keys_of_edge hv
      rw [hold v hk, hold u hu]
      exact h.shallow u v hv
    · exact Nat.le_of_eq (by rw [depth_discover_self, hold u hnode])
  case deep =>
    intro m hm v hv
    simp only [depths_record, mem_keys_discover hn] at hv
    simp only [depth_record]
    rcases hv with hv | rfl
    · rw [hold v hv]
      exact h.deep m hm v hv
    · rw [depth_discover_self]
      by_contra hlt
      exact hdeep ⟨m, hm, by omega⟩
  case size =>
    intro m hm
    rw [depths_record, size_discover hn]
    by_contra hlt
    exact hmany ⟨m, hm, by omega⟩
  case missing =>
    intro u hu v hv hk
    simp only [depths_record, mem_keys_discover hn, not_or] at hk
    simp only [depth_record]
    rw [hold u (h.mem_keys hu)]
    rcases mem_noting.1 hv with hv | ⟨rfl, rfl⟩
    · exact h.missing u hu v hv hk.1
    · exact absurd rfl hk.2
  case ceiling =>
    intro hf
    exact absurd (h.ceiling hf).1 hmany
  case traced =>
    intro u v
    rw [mem_traced_record, mem_next_record, Prod.mk.injEq]
    change (u, v) ∈ w.detector.edges ∨ _ ↔ v ∈ w.edges.next u ∨ _
    rw [h.traced]

theorem takeIn {r : Walk × Bool} (h : Sound b root next full w) (hd : w.Deepest node)
    (ht : TakesIn b node (w.depth node) w full n r) : Sound b root (noting next node n) r.2 r.1 := by
  cases ht with
  | known hn => exact h.known hd hn
  | tooDeep hn hends => exact h.leftOut hd hn id (.inl hends) .inl
  | tooMany hn hends hmany =>
    exact h.leftOut hd hn (fun _ => rfl) (.inr rfl) fun _ => .inr ⟨hmany, hends⟩
  | discovered hn hends hmany => exact h.discovered hd hn hends hmany

end Sound

end Coselect.Graph.Walk
