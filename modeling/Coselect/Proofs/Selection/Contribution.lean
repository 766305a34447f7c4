import Mathlib.Order.Bounds.Basic
import Coselect.Proofs.Table
import Coselect.Selection.Record

/-! What a graph contributes on behalf of its root, file by file: a node at its own depth, a
test file at the least depth of a node that lists it, and never the root. -/

namespace Coselect.Graph.DependencyGraph

/-- The depths of the nodes that list a file among their tests. -/
def testDepths (g : DependencyGraph) (path : String) : Set Nat :=
  {d | ∃ n ∈ g.nodes.values, path ∈ n.testFiles ∧ n.depth = d}

/-- A graph brings a file in as a node or as a test file of a node. -/
def Brings (g : DependencyGraph) (path : String) : Prop :=
  g.nodes.contains path = true ∨ ∃ n ∈ g.nodes.values, path ∈ n.testFiles

/-- How deep a graph brings a file in; a node's own depth counts before those of the nodes it
is a test of. -/
def BringsAt (g : DependencyGraph) (path : String) (depth : Nat) : Prop :=
  match g.nodes.get? path with
  | some n => n.depth = depth
  | none => IsLeast (g.testDepths path) depth

theorem BringsAt.brings {g : DependencyGraph} {path : String} {d : Nat} (h : g.BringsAt path d) :
    g.Brings path := by
  unfold BringsAt at h
  cases hn : g.nodes.get? path with
  | some n => exact .inl (Table.contains_iff.2 ⟨n, hn⟩)
  | none =>
    simp only [hn] at h
    obtain ⟨n, hm, ht, -⟩ := h.1
    exact .inr ⟨n, hm, ht⟩

/-- A file is brought in at one depth only. -/
theorem BringsAt.unique {g : DependencyGraph} {path : String} {d d' : Nat} (h : g.BringsAt path d)
    (h' : g.BringsAt path d') : d = d' := by
  unfold BringsAt at h h'
  cases hn : g.nodes.get? path with
  | some n => simp only [hn] at h h'; exact h.symm.trans h'
  | none => simp only [hn] at h h'; exact h.unique h'

end Coselect.Graph.DependencyGraph

namespace Coselect.Selection.Contribution

open Coselect.Graph

/-- What the nodes alone contribute. -/
def ofNodes (root : String) (g : DependencyGraph) : Contribution :=
  g.nodes.entries.foldl (fun c (path, n) =>
    if path = root then c else c.insert path ⟨n.depth, .autoDependency⟩) Table.empty

/-- The tests of the nodes, each with the depth of a node that lists it. -/
def listedTests (g : DependencyGraph) : List (Nat × String) :=
  g.nodes.values.flatMap fun n => n.testFiles.map (n.depth, ·)

theorem ofGraph_eq (root : String) (g : DependencyGraph) :
    ofGraph root g =
      (listedTests g).foldl (fun c t => addTest root g t.1 c t.2) (ofNodes root g) := by
  unfold ofGraph ofNodes listedTests
  simp only [List.foldl_flatMap, List.foldl_map]

/-- Storing the nodes one by one; a key of the rest of a table does not come again. -/
theorem get?_foldl_nodes (root path : String) (es : List (String × Node)) (c : Contribution)
    (hn : (es.map Prod.fst).Nodup) :
    (es.foldl (fun c (path, n) =>
      if path = root then c else c.insert path ⟨n.depth, .autoDependency⟩) c).get? path =
      if path = root then c.get? path
      else match Table.lookup path es with
        | some n => some ⟨n.depth, .autoDependency⟩
        | none => c.get? path := by
  induction es generalizing c with
  | nil => simp [Table.lookup]
  | cons e es ih =>
    obtain ⟨p, n⟩ := e
    simp only [List.map_cons, List.nodup_cons] at hn
    simp only [List.foldl_cons, ih _ hn.2, Table.lookup]
    by_cases hp : p = path
    · subst hp
      have habs : Table.lookup p es = none := by
        rw [Option.eq_none_iff_forall_ne_some]
        intro v hv
        exact hn.1 (List.mem_map_of_mem ((Table.lookup_eq_some_iff hn.2).1 hv))
      by_cases hr : p = root <;> simp [hr, habs]
    · by_cases hr : p = root
      · subst hr; simp [hp, Ne.symm hp]
      · simp [hr, hp]

theorem get?_ofNodes (root : String) (g : DependencyGraph) (path : String) :
    (ofNodes root g).get? path =
      if path = root then none
      else (g.nodes.get? path).map fun n => ⟨n.depth, .autoDependency⟩ := by
  rw [ofNodes, get?_foldl_nodes root path _ _ g.nodes.nodup_keys]
  split
  · rfl
  · unfold Table.get?
    cases Table.lookup path g.nodes.entries <;> rfl

/-- A file whose depth counts only through the tests seen so far. -/
def Tested (c : Contribution) (path : String) (depths : Set Nat) : Prop :=
  match c.get? path with
  | none => depths = ∅
  | some claim => claim.kind = .autoTest ∧ IsLeast depths claim.depth

variable {root path : String} {g : DependencyGraph} {c : Contribution}

theorem get?_addTest_of_ne {d : Nat} {t : String} (h : t ≠ path) :
    (addTest root g d c t).get? path = c.get? path := by
  unfold addTest
  repeat' split
  all_goals simp [h]

theorem addTest_of_skipped {d : Nat} (h : path = root ∨ g.nodes.contains path) :
    addTest root g d c path = c := by
  simp [addTest, h]

theorem tested_addTest {d : Nat} {S : Set Nat} (hr : path ≠ root)
    (hn : g.nodes.contains path = false) (h : Tested c path S) :
    Tested (addTest root g d c path) path (insert d S) := by
  unfold Tested at h ⊢
  unfold addTest
  cases hc : c.get? path with
  | none =>
    rw [hc] at h
    subst h
    simp [hr, hn, isLeast_singleton]
  | some claim =>
    rw [hc] at h
    simp only [hr, hn, Bool.false_eq_true, or_self, ↓reduceIte]
    by_cases hd : d < claim.depth
    · simp only [hd, ↓reduceIte, Table.get?_insert, true_and]
      refine ⟨Set.mem_insert _ _, ?_⟩
      rintro k (rfl | hk)
      · exact le_rfl
      · exact hd.le.trans (h.2.2 hk)
    · simp only [hd, ↓reduceIte, hc]
      refine ⟨h.1, Set.mem_insert_of_mem _ h.2.1, ?_⟩
      rintro k (rfl | hk)
      · omega
      · exact h.2.2 hk

theorem get?_foldl_addTest_of_skipped (h : path = root ∨ g.nodes.contains path)
    (ts : List (Nat × String)) (c : Contribution) :
    (ts.foldl (fun c t => addTest root g t.1 c t.2) c).get? path = c.get? path := by
  induction ts generalizing c with
  | nil => rfl
  | cons t ts ih =>
    rw [List.foldl_cons, ih]
    by_cases ht : t.2 = path
    · rw [ht, addTest_of_skipped h]
    · exact get?_addTest_of_ne ht

theorem tested_foldl_addTest (hr : path ≠ root) (hn : g.nodes.contains path = false)
    (ts : List (Nat × String)) {c : Contribution} {S : Set Nat} (h : Tested c path S) :
    Tested (ts.foldl (fun c t => addTest root g t.1 c t.2) c) path
      (S ∪ {d | (d, path) ∈ ts}) := by
  induction ts generalizing c S with
  | nil => simpa using h
  | cons t ts ih =>
    rw [List.foldl_cons]
    obtain ⟨d, t⟩ := t
    by_cases ht : t = path
    · subst ht
      have hs : S ∪ {k | (k, t) ∈ (d, t) :: ts} = insert d S ∪ {k | (k, t) ∈ ts} := by
        ext k; simp; tauto
      rw [hs]
      exact ih (tested_addTest hr hn h)
    · have hs : S ∪ {k | (k, path) ∈ (d, t) :: ts} = S ∪ {k | (k, path) ∈ ts} := by
        ext k; simp [Ne.symm ht]
      rw [hs]
      apply ih
      unfold Tested
      rwa [get?_addTest_of_ne ht]

theorem setOf_listedTests (g : DependencyGraph) (path : String) :
    {d | (d, path) ∈ listedTests g} = g.testDepths path := by
  ext d
  simp [listedTests, DependencyGraph.testDepths]

/-- What a graph contributes to one file. -/
theorem get?_ofGraph (root : String) (g : DependencyGraph) (path : String) :
    match (ofGraph root g).get? path with
    | none => path = root ∨ ¬ g.Brings path
    | some claim => path ≠ root ∧ g.Brings path ∧ g.BringsAt path claim.depth ∧
        claim.kind = if g.nodes.contains path then .autoDependency else .autoTest := by
  rw [ofGraph_eq]
  by_cases hr : path = root
  · rw [get?_foldl_addTest_of_skipped (.inl hr), get?_ofNodes]
    simp [hr]
  cases hn : g.nodes.get? path with
  | some n =>
    have hc : g.nodes.contains path = true := Table.contains_iff.2 ⟨n, hn⟩
    rw [get?_foldl_addTest_of_skipped (.inr hc), get?_ofNodes]
    simp [hr, hn, hc, DependencyGraph.Brings, DependencyGraph.BringsAt]
  | none =>
    have hc : g.nodes.contains path = false := Table.contains_eq_false_iff.2 hn
    have h₀ : Tested (ofNodes root g) path ∅ := by
      simp [Tested, get?_ofNodes, hr, hn]
    have h := tested_foldl_addTest hr hc (listedTests g) h₀
    rw [Set.empty_union, setOf_listedTests] at h
    unfold Tested at h
    split at h
    next heq =>
      refine .inr ?_
      rintro (hb | ⟨n, hm, ht⟩)
      · simp [hc] at hb
      · exact Set.notMem_empty n.depth (h ▸ ⟨n, hm, ht, rfl⟩)
    next claim heq =>
      obtain ⟨n, hm, ht, -⟩ := h.2.1
      exact ⟨hr, .inr ⟨n, hm, ht⟩, by simpa [DependencyGraph.BringsAt, hn] using h.2,
        by simpa [hc] using h.1⟩

theorem get?_ofGraph_eq_none_iff :
    (ofGraph root g).get? path = none ↔ path = root ∨ ¬ g.Brings path := by
  have h := get?_ofGraph root g path
  split at h
  next heq => simp [heq, h]
  next claim heq => simp [heq, h.1, h.2.1]

theorem isSome_get?_ofGraph_iff :
    ((ofGraph root g).get? path).isSome ↔ path ≠ root ∧ g.Brings path := by
  rw [← not_iff_not, Option.not_isSome_iff_eq_none, get?_ofGraph_eq_none_iff]
  tauto

theorem bringsAt_of_get?_ofGraph {claim : Claim} (h : (ofGraph root g).get? path = some claim) :
    g.BringsAt path claim.depth := by
  have := get?_ofGraph root g path
  rw [h] at this
  exact this.2.2.1

theorem kind_of_get?_ofGraph {claim : Claim} (h : (ofGraph root g).get? path = some claim) :
    claim.kind = if g.nodes.contains path then .autoDependency else .autoTest := by
  have := get?_ofGraph root g path
  rw [h] at this
  exact this.2.2.2

/-- The depth of a contribution is the one at which the graph brings the file in. -/
theorem exists_depth_iff {d : Nat} :
    (∃ claim, (ofGraph root g).get? path = some claim ∧ claim.depth = d) ↔
      path ≠ root ∧ g.BringsAt path d := by
  constructor
  · rintro ⟨claim, hc, rfl⟩
    exact ⟨(isSome_get?_ofGraph_iff.1 (by rw [hc]; rfl)).1, bringsAt_of_get?_ofGraph hc⟩
  · rintro ⟨hr, hd⟩
    have hsome := isSome_get?_ofGraph_iff.2 ⟨hr, hd.brings⟩
    obtain ⟨claim, hc⟩ := Option.isSome_iff_exists.1 hsome
    exact ⟨claim, hc, (bringsAt_of_get?_ofGraph hc).unique hd⟩

/-- The kind of a contribution tells a node from a test file. -/
theorem exists_autoDependency_iff :
    (∃ claim, (ofGraph root g).get? path = some claim ∧ claim.kind = .autoDependency) ↔
      path ≠ root ∧ g.nodes.contains path = true := by
  constructor
  · rintro ⟨claim, hc, hk⟩
    refine ⟨(isSome_get?_ofGraph_iff.1 (by rw [hc]; rfl)).1, ?_⟩
    rw [kind_of_get?_ofGraph hc] at hk
    by_contra hn
    simp [hn] at hk
  · rintro ⟨hr, hn⟩
    obtain ⟨claim, hc⟩ := Option.isSome_iff_exists.1 (isSome_get?_ofGraph_iff.2 ⟨hr, .inl hn⟩)
    exact ⟨claim, hc, by rw [kind_of_get?_ofGraph hc, if_pos hn]⟩

end Coselect.Selection.Contribution
