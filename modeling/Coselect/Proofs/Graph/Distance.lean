import Mathlib.Data.Set.Card
import Coselect.Proofs.Graph.Absorb

/-! The nodes within some distance of the root, and a walk that was not stopped. Every node
discovered is as near as its depth says; and once all discovered nodes are expanded without
hitting the ceiling, every node within the depth limit is discovered, at the depth of its
distance. -/

namespace Coselect.Graph

/-- A node is so many steps from the root. -/
inductive Reaches (next : String → List String) (root : String) : Nat → String → Prop
  | root : Reaches next root 0 root
  | step {d u v} : Reaches next root d u → v ∈ next u → Reaches next root (d + 1) v

/-- A node is within the depth limit of the root. -/
def InRange (b : Bounds) (next : String → List String) (root node : String) : Prop :=
  ∃ d, Reaches next root d node ∧ ∀ m, b.maxDepth = some m → d ≤ m

namespace Walk.Sound

variable {b : Bounds} {root v : String} {next : String → List String} {full : Bool} {w : Walk}

theorem reaches (h : Sound b root next full w) (hv : v ∈ w.depths.keys) :
    Reaches next root (w.depth v) v := by
  induction hd : w.depth v generalizing v with
  | zero =>
    by_cases hs : v = root
    · rw [hs]
      exact .root
    · obtain ⟨u, -, hdepth⟩ := h.parent v hv hs
      omega
  | succ d ih =>
    have hs : v ≠ root := by
      rintro rfl
      simp [depth, h.atRoot] at hd
    obtain ⟨u, hvu, hdepth⟩ := h.parent v hv hs
    obtain ⟨hu, hnext, -⟩ := (h.edges u v).1 hvu
    exact .step (ih (h.mem_keys hu) (by omega)) hnext

theorem inRange (h : Sound b root next full w) (hv : v ∈ w.depths.keys) : InRange b next root v :=
  ⟨w.depth v, h.reaches hv, fun m hm => h.deep m hm v hv⟩

/-- Once all is expanded, nothing in range is missing. -/
theorem mem_keys_of_inRange (h : Sound b root next false w) (hall : w.expanded = w.depths.keys)
    {d : Nat} (hv : Reaches next root d v) (hrange : ∀ m, b.maxDepth = some m → d ≤ m) :
    v ∈ w.depths.keys ∧ w.depth v ≤ d := by
  induction hv with
  | root =>
    refine ⟨Table.mem_keys_iff.2 (by simp [h.atRoot]), ?_⟩
    simp [depth, h.atRoot]
  | @step d u v _ hv ih =>
    obtain ⟨hu, hdepth⟩ := ih fun m hm => by have := hrange m hm; omega
    have hexp : u ∈ w.expanded := by rwa [hall]
    have hk : v ∈ w.depths.keys := by
      by_contra hk
      rcases h.missing u hexp v hv hk with ⟨m, hm, hle⟩ | hf
      · have := hrange m hm
        omega
      · simp at hf
    have := h.shallow u v ((h.edges u v).2 ⟨hexp, hv, hk⟩)
    exact ⟨hk, by omega⟩

/-- The nodes in range are those discovered. -/
theorem setOf_inRange (h : Sound b root next false w) (hall : w.expanded = w.depths.keys) :
    {v | InRange b next root v} = {v | v ∈ w.depths.keys} := by
  ext v
  constructor
  · rintro ⟨d, hv, hrange⟩
    exact (h.mem_keys_of_inRange hall hv hrange).1
  · exact h.inRange

theorem ncard_keys (w : Walk) : {v | v ∈ w.depths.keys}.ncard = w.depths.size := by
  have hset : {v | v ∈ w.depths.keys} = (w.depths.keys.toFinset : Set String) := by
    ext v
    simp
  have hnodup : w.depths.keys.Nodup := w.depths.nodup_keys
  rw [hset, Set.ncard_coe_finset, List.toFinset_card_of_nodup hnodup]
  simp [Table.keys, Table.size]

/-- A walk that hit the ceiling has left out a node in range. -/
theorem lt_ncard (h : Sound b root next true w) {m : Nat} (hm : b.maxNodes = some m)
    (hfin : {v | InRange b next root v}.Finite) : m < {v | InRange b next root v}.ncard := by
  obtain ⟨⟨m', hm', hle⟩, u, hu, v, hv, hk, hends⟩ := h.ceiling rfl
  rw [hm] at hm'
  obtain rfl := Option.some.inj hm'
  have hvrange : InRange b next root v := by
    refine ⟨w.depth u + 1, .step (h.reaches (h.mem_keys hu)) hv, fun d hd => ?_⟩
    by_contra hlt
    exact hends ⟨d, hd, by omega⟩
  have hsub : insert v {v | v ∈ w.depths.keys} ⊆ {v | InRange b next root v} := by
    rintro x (rfl | hx)
    · exact hvrange
    · exact h.inRange hx
  have hcard := Set.ncard_le_ncard hsub hfin
  have hkfin : {v | v ∈ w.depths.keys}.Finite := w.depths.keys.finite_toSet
  rw [Set.ncard_insert_of_notMem (by simpa using hk) hkfin, ncard_keys] at hcard
  omega

end Walk.Sound

end Coselect.Graph
