import Mathlib.Data.List.Basic
import Coselect.Graph.Cycles

/-! Cycles do not depend on dead ends. A node without successors lies on no simple path but at
its end, so a detector that never saw the edges to such nodes finds the same cycles, in the
same order. -/

namespace Coselect.Graph

variable {edges : List Edge} {goal s t : String} {avoided : List String} {alive : String → Bool}

theorem flatMap_filter_eq {α β : Type} {p : α → Bool} {f : α → List β} {l : List α}
    (h : ∀ a ∈ l, p a = false → f a = []) : (l.filter p).flatMap f = l.flatMap f := by
  induction l with
  | nil => rfl
  | cons a l ih =>
    have htail : (l.filter p).flatMap f = l.flatMap f := ih fun a' ha' =>
      h a' (List.mem_cons_of_mem a ha')
    cases hp : p a with
    | true => rw [List.filter_cons_of_pos hp, List.flatMap_cons, List.flatMap_cons, htail]
    | false =>
      rw [List.filter_cons_of_neg (by simp [hp]), List.flatMap_cons, h a List.mem_cons_self hp, htail]
      rfl

/-- The edges that a path which avoids some nodes may still use. -/
def usable (edges : List Edge) (avoided : List String) : List Edge :=
  edges.filter fun e => !avoided.contains e.1

theorem mem_successors {n m : String} : m ∈ successors edges n ↔ (n, m) ∈ edges := by
  simp [successors]

/-- A step away from a node uses up an edge. -/
theorem length_usable_lt {n m : String} (hm : m ∈ successors edges n) (hn : n ∉ avoided) :
    (usable edges (n :: avoided)).length < (usable edges avoided).length := by
  have hsub : usable edges (n :: avoided) = (usable edges avoided).filter fun e => e.1 != n := by
    unfold usable
    rw [List.filter_filter]
    apply List.filter_congr
    intro e _
    by_cases he : e.1 = n <;> simp [he]
  rw [hsub]
  refine List.length_filter_lt_length_iff_exists.2 ⟨(n, m), ?_, by simp⟩
  simp [usable, mem_successors.1 hm, hn]

/-- Fuel beyond the number of usable edges changes nothing. -/
theorem simplePaths_fuel {fuel fuel' : Nat} {n : String} (hn : n ∉ avoided)
    (h : (usable edges avoided).length < fuel) (h' : (usable edges avoided).length < fuel') :
    simplePaths edges goal fuel avoided n = simplePaths edges goal fuel' avoided n := by
  induction fuel generalizing fuel' avoided n with
  | zero => omega
  | succ fuel ih =>
    obtain ⟨fuel', rfl⟩ : ∃ k, fuel' = k + 1 := ⟨fuel' - 1, by omega⟩
    simp only [simplePaths]
    split
    next => rfl
    next =>
      apply List.flatMap_congr
      intro m hm
      obtain ⟨hm, hnew⟩ := List.mem_filter.1 hm
      have hlt := length_usable_lt hm hn
      exact congrArg _ (ih (by simpa using hnew) (by omega) (by omega))

/-- Without a way on a path ends where it is. -/
theorem simplePaths_eq_nil {fuel : Nat} {n : String} (hn : n ≠ goal) (hs : successors edges n = []) :
    simplePaths edges goal fuel avoided n = [] := by
  cases fuel with
  | zero => rfl
  | succ fuel => simp [simplePaths, hn, hs]

/-- All edges lead away from nodes that are alive; those that lead to others are dead ends. -/
theorem simplePaths_filter (hgoal : alive goal = true) (hsource : ∀ e ∈ edges, alive e.1 = true)
    (fuel : Nat) (avoided : List String) (n : String) :
    simplePaths (edges.filter fun e => alive e.2) goal fuel avoided n =
      simplePaths edges goal fuel avoided n := by
  induction fuel generalizing avoided n with
  | zero => rfl
  | succ fuel ih =>
    have hsucc : successors (edges.filter fun e => alive e.2) n =
      (successors edges n).filter alive := by
      unfold successors
      rw [List.filter_map, List.filter_filter, List.filter_filter]
      congr 1
      apply List.filter_congr
      intro e _
      simp [Bool.and_comm]
    simp only [simplePaths, hsucc, ih]
    split
    next => rfl
    next =>
      rw [List.filter_comm, flatMap_filter_eq]
      intro m hm hdead
      have hne : m ≠ goal := by
        rintro rfl
        simp [hgoal] at hdead
      have hend : successors edges m = [] := by
        refine List.eq_nil_iff_forall_not_mem.2 fun k hk => ?_
        have := hsource _ (mem_successors.1 hk)
        simp [hdead] at this
      rw [simplePaths_eq_nil hne hend, List.map_nil]

namespace CycleDetector

variable {d d' : CycleDetector}

/-- The cycles that an edge closes are those among edges between nodes that are alive. -/
theorem closed_filter (hs : alive s = true) (hsource : ∀ e ∈ edges, alive e.1 = true) :
    closed everyPath (edges.filter fun e => alive e.2) s t = closed everyPath edges s t := by
  have hfuel : simplePaths (edges.filter fun e => alive e.2) s
      ((edges.filter fun e => alive e.2).length + 1) [] t =
        simplePaths (edges.filter fun e => alive e.2) s (edges.length + 1) [] t := by
    have hlen := List.length_filter_le (fun e : Edge => alive e.2) edges
    have husable : (usable (edges.filter fun e => alive e.2) []).length ≤ edges.length := by
      simpa [usable] using hlen
    refine simplePaths_fuel List.not_mem_nil ?_ ?_
    · simp [usable]
    · omega
  unfold closed everyPath
  rw [hfuel, simplePaths_filter hs hsource]

/-- An edge to a dead end closes nothing. -/
theorem closed_eq_nil (hts : t ≠ s) (hsource : ∀ e ∈ edges, e.1 ≠ t) :
    closed everyPath edges s t = [] := by
  have hend : successors edges t = [] :=
    List.eq_nil_iff_forall_not_mem.2 fun k hk => hsource _ (mem_successors.1 hk) rfl
  simp [closed, everyPath, simplePaths_eq_nil hts hend, hts.symm]

/-- Two detectors see an edge to a node that is alive. -/
theorem addEdge_of_alive (hedges : d.edges = d'.edges.filter fun e => alive e.2)
    (hcycles : d.cycles = d'.cycles) (hsource : ∀ e ∈ d'.edges, alive e.1 = true)
    (hs : alive s = true) (ht : alive t = true) :
    (d.addEdge s t).2.edges = (d'.addEdge s t).2.edges.filter (fun e => alive e.2) ∧
      (d.addEdge s t).2.cycles = (d'.addEdge s t).2.cycles := by
  have hseen : d.edges.contains (s, t) = d'.edges.contains (s, t) := by
    rw [hedges]
    simp [ht]
  unfold addEdge addEdgeBy
  rw [hseen]
  split
  next => exact ⟨hedges, hcycles⟩
  next =>
    have hjoined : d.edges ++ [(s, t)] = (d'.edges ++ [(s, t)]).filter fun e => alive e.2 := by
      rw [List.filter_append, hedges]
      simp [ht]
    have hsource' : ∀ e ∈ d'.edges ++ [(s, t)], alive e.1 = true := by
      intro e he
      rcases List.mem_append.1 he with he | he
      · exact hsource e he
      · rw [List.mem_singleton.1 he]
        exact hs
    refine ⟨hjoined, ?_⟩
    simp only [hjoined, closed_filter hs hsource', hcycles]

/-- One of two detectors sees an edge to a node that is not alive. -/
theorem addEdge_of_dead (hedges : d.edges = d'.edges.filter fun e => alive e.2)
    (hcycles : d.cycles = d'.cycles) (hsource : ∀ e ∈ d'.edges, alive e.1 = true)
    (hs : alive s = true) (ht : alive t = false) :
    d.edges = (d'.addEdge s t).2.edges.filter (fun e => alive e.2) ∧
      d.cycles = (d'.addEdge s t).2.cycles := by
  unfold addEdge addEdgeBy
  split
  next => exact ⟨hedges, hcycles⟩
  next =>
    have hts : t ≠ s := by
      rintro rfl
      simp [hs] at ht
    have hend : ∀ e ∈ d'.edges ++ [(s, t)], e.1 ≠ t := by
      intro e he
      rcases List.mem_append.1 he with he | he
      · have halive := hsource e he
        rintro rfl
        simp [halive] at ht
      · rw [List.mem_singleton.1 he]
        exact hts.symm
    refine ⟨?_, ?_⟩
    · rw [List.filter_append, hedges]
      simp [ht]
    · simp only [closed_eq_nil hts hend, unseen, List.append_nil, hcycles]

theorem addEdgeBy_of_mem {find : PathFinder} (h : (s, t) ∈ d.edges) :
    d.addEdgeBy find s t = ([], d) := by
  simp [addEdgeBy, h]

theorem mem_edges_addEdgeBy {find : PathFinder} {e : Edge} :
    e ∈ (d.addEdgeBy find s t).2.edges ↔ e ∈ d.edges ∨ e = (s, t) := by
  by_cases h : (s, t) ∈ d.edges
  · rw [addEdgeBy_of_mem h]
    exact ⟨.inl, fun he => he.elim id fun he => he ▸ h⟩
  · simp [addEdgeBy, h]

theorem cycles_addEdge (d : CycleDetector) (s t : String) :
    d.cycles <+: (d.addEdge s t).2.cycles := by
  unfold addEdge addEdgeBy
  split
  next => exact List.prefix_rfl
  next => exact List.prefix_append _ _

end CycleDetector

end Coselect.Graph
