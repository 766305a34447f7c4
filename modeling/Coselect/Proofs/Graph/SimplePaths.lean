import Mathlib.Data.List.Chain
import Mathlib.Data.List.Nodup
import Coselect.Proofs.Graph.Cycles

/-! Simple paths. A finder is exact when it lists the simple paths between two nodes, each once; the
search that goes on from node to node is. -/

namespace Coselect.Graph

variable {edges edges' : List Edge} {node goal : String} {path : List String} {avoided : List String}
  {fuel : Nat}

/-- A path along edges that meets no node twice. -/
structure SimplePath (edges : List Edge) (node goal : String) (path : List String) : Prop where
  starts : path.head? = some node
  ends : path.getLast? = some goal
  simple : path.Nodup
  linked : path.IsChain fun a b => (a, b) ∈ edges

theorem SimplePath.exists_cons (h : SimplePath edges node goal path) :
    ∃ rest, path = node :: rest := List.head?_eq_some_iff.1 h.starts

theorem SimplePath.exists_concat (h : SimplePath edges node goal path) :
    ∃ front, path = front ++ [goal] := List.getLast?_eq_some_iff.1 h.ends

/-- A path on from a neighbour that does not come back. -/
theorem simplePath_cons_iff {rest : List String} (hne : node ≠ goal) :
    SimplePath edges node goal (node :: rest) ↔
      node ∉ rest ∧ ∃ m, (node, m) ∈ edges ∧ SimplePath edges m goal rest := by
  constructor
  · rintro ⟨-, hends, hsimple, hlinked⟩
    obtain ⟨hnode, hrest⟩ := List.nodup_cons.1 hsimple
    cases rest with
    | nil => exact absurd (by simpa using hends) hne
    | cons m rest =>
      obtain ⟨hedge, hlinked⟩ := List.isChain_cons_cons.1 hlinked
      rw [List.getLast?_cons_cons] at hends
      exact ⟨hnode, m, hedge, rfl, hends, hrest, hlinked⟩
  · rintro ⟨hnode, m, hedge, h⟩
    obtain ⟨rest, rfl⟩ := h.exists_cons
    refine ⟨rfl, ?_, List.nodup_cons.2 ⟨hnode, h.simple⟩, List.isChain_cons_cons.2 ⟨hedge, h.linked⟩⟩
    rw [List.getLast?_cons_cons]
    exact h.ends

/-- From a node to itself there is only the path that stays there. -/
theorem simplePath_self_iff : SimplePath edges node node path ↔ path = [node] := by
  constructor
  · intro h
    obtain ⟨rest, rfl⟩ := h.exists_cons
    cases rest with
    | nil => rfl
    | cons m rest =>
      have hends := h.ends
      rw [List.getLast?_cons_cons] at hends
      exact absurd (List.mem_of_getLast? hends) (List.nodup_cons.1 h.simple).1
  · rintro rfl
    exact ⟨rfl, rfl, List.nodup_singleton _, List.isChain_singleton _⟩

/-- The finder lists each simple path between two different nodes once, and nothing else. -/
def PathFinder.Exact (find : PathFinder) : Prop :=
  ∀ edges node goal, edges.Nodup → node ≠ goal → (find edges node goal).Nodup ∧
    ∀ path, path ∈ find edges node goal ↔ SimplePath edges node goal path

/-! ### The search -/

theorem simplePath_of_mem (h : path ∈ simplePaths edges goal fuel avoided node) (hn : node ∉ avoided) :
    SimplePath edges node goal path ∧ ∀ n ∈ path, n ∉ avoided := by
  induction fuel generalizing avoided node path with
  | zero => exact absurd h List.not_mem_nil
  | succ fuel ih =>
    unfold simplePaths at h
    split at h
    next heq =>
      obtain rfl := beq_iff_eq.1 heq
      obtain rfl := List.mem_singleton.1 h
      exact ⟨simplePath_self_iff.2 rfl, by simpa using hn⟩
    next hne =>
      rw [beq_iff_eq] at hne
      obtain ⟨m, hm, hpath⟩ := List.mem_flatMap.1 h
      obtain ⟨rest, hrest, rfl⟩ := List.mem_map.1 hpath
      obtain ⟨hsucc, hnew⟩ := List.mem_filter.1 hm
      obtain ⟨hsimple, havoids⟩ := ih hrest (by simpa using hnew)
      have hback : node ∉ rest := fun hmem => havoids node hmem List.mem_cons_self
      refine ⟨(simplePath_cons_iff hne).2 ⟨hback, m, mem_successors.1 hsucc, hsimple⟩, ?_⟩
      rw [List.forall_mem_cons]
      exact ⟨hn, fun n hmem havoided => havoids n hmem (List.mem_cons_of_mem _ havoided)⟩

/-- With fuel for every usable edge the search misses no path. -/
theorem mem_simplePaths_of_simplePath (h : SimplePath edges node goal path)
    (havoids : ∀ n ∈ path, n ∉ avoided) (hfuel : (usable edges avoided).length < fuel) :
    path ∈ simplePaths edges goal fuel avoided node := by
  induction path generalizing avoided node fuel with
  | nil => exact nomatch h.starts
  | cons n rest ih =>
    obtain rfl : n = node := by simpa using h.starts
    obtain ⟨fuel, rfl⟩ : ∃ k, fuel = k + 1 := ⟨fuel - 1, by omega⟩
    unfold simplePaths
    by_cases hgoal : n = goal
    · subst hgoal
      rw [simplePath_self_iff.1 h]
      simp
    · obtain ⟨hback, m, hedge, hrest⟩ := (simplePath_cons_iff hgoal).1 h
      rw [List.forall_mem_cons] at havoids
      have hsucc := mem_successors.2 hedge
      have hlt := length_usable_lt hsucc havoids.1
      have hnew : ∀ k ∈ rest, k ∉ n :: avoided := by
        intro k hk hmem
        rcases List.mem_cons.1 hmem with rfl | hmem
        · exact hback hk
        · exact havoids.2 k hk hmem
      have hm : m ∈ rest := by
        obtain ⟨rest, rfl⟩ := hrest.exists_cons
        exact List.mem_cons_self
      rw [if_neg (by simpa using hgoal)]
      refine List.mem_flatMap.2 ⟨m, List.mem_filter.2 ⟨hsucc, by simpa using hnew m hm⟩, ?_⟩
      exact List.mem_map_of_mem (ih hrest hnew (by omega))

theorem nodup_successors (hedges : edges.Nodup) (node : String) : (successors edges node).Nodup := by
  refine List.Nodup.map_on ?_ (hedges.filter _)
  rintro ⟨a, b⟩ hab ⟨c, d⟩ hcd (rfl : b = d)
  obtain rfl : a = node := by simpa using (List.mem_filter.1 hab).2
  obtain rfl : c = a := by simpa using (List.mem_filter.1 hcd).2
  rfl

theorem nodup_simplePaths (hedges : edges.Nodup) (hn : node ∉ avoided) :
    (simplePaths edges goal fuel avoided node).Nodup := by
  induction fuel generalizing avoided node with
  | zero => exact List.nodup_nil
  | succ fuel ih =>
    unfold simplePaths
    split
    next => exact List.nodup_singleton _
    next =>
      have hnew : ∀ m ∈ (successors edges node).filter fun m => !(node :: avoided).contains m,
          m ∉ node :: avoided := fun m hm => by simpa using (List.mem_filter.1 hm).2
      rw [List.nodup_flatMap]
      refine ⟨fun m hm => (ih (hnew m hm)).map (List.cons_injective), ?_⟩
      -- paths on from two neighbours differ in their second node
      refine ((nodup_successors hedges node).filter _).imp_of_mem ?_
      intro m m' hm hm' hne path hpath hpath'
      obtain ⟨rest, hrest, rfl⟩ := List.mem_map.1 hpath
      obtain ⟨rest', hrest', heq⟩ := List.mem_map.1 hpath'
      obtain rfl : rest' = rest := (List.cons.inj heq).2
      have hstart := (simplePath_of_mem hrest (hnew m hm)).1.starts
      have hstart' := (simplePath_of_mem hrest' (hnew m' hm')).1.starts
      exact hne (Option.some.inj (hstart.symm.trans hstart'))

theorem exact_everyPath : PathFinder.Exact everyPath := by
  intro edges node goal hedges _
  have hfuel : (usable edges []).length < edges.length + 1 :=
    Nat.lt_succ_of_le (List.length_filter_le _ _)
  refine ⟨nodup_simplePaths hedges List.not_mem_nil, fun path => ⟨fun h => ?_, fun h => ?_⟩⟩
  · exact (simplePath_of_mem h List.not_mem_nil).1
  · exact mem_simplePaths_of_simplePath h (fun _ _ => List.not_mem_nil) hfuel

end Coselect.Graph
