import Mathlib.Data.List.Cycle
import Mathlib.Data.List.Perm.Basic
import Coselect.Proofs.Graph.SimplePaths

/-! The cycles of a detector. Whatever edges it has seen, and in whatever order, it holds each simple
cycle of them once; a cycle is found with the last of its edges, and entered where this edge leads
to. -/

namespace Coselect.Graph

variable {edges edges' : List Edge} {s t : String} {path q : List String} {find : PathFinder}
  {keys paths : List (List String)} {c : Cycle String}

/-- A cycle along edges that meets no node twice, wherever it is entered. -/
structure SimpleCycle (edges : List Edge) (c : Cycle String) : Prop where
  ne_nil : c ≠ .nil
  simple : c.Nodup
  linked : c.Chain fun a b => (a, b) ∈ edges

theorem SimpleCycle.mono (h : SimpleCycle edges c) (hsub : edges ⊆ edges') : SimpleCycle edges' c :=
  ⟨h.ne_nil, h.simple, h.linked.imp fun _ _ hedge => hsub hedge⟩

theorem simpleCycle_congr (h : ∀ e, e ∈ edges ↔ e ∈ edges') :
    SimpleCycle edges c ↔ SimpleCycle edges' c :=
  ⟨fun hc => hc.mono fun e => (h e).1, fun hc => hc.mono fun e => (h e).2⟩

theorem not_simpleCycle_nil : ¬ SimpleCycle [] c := by
  rintro ⟨hne, -, hlinked⟩
  induction c with
  | nil => exact hne rfl
  | cons a l =>
    rw [Cycle.chain_coe_cons] at hlinked
    cases l <;> simp at hlinked

/-- The cycle that a closed path runs through once. -/
def cycleOf (path : List String) : Cycle String := path.dropLast

@[simp] theorem cycleOf_concat (path : List String) (n : String) :
    cycleOf (path ++ [n]) = (path : Cycle String) := by
  rw [cycleOf, List.dropLast_concat]

/-! ### Cycles through a new edge -/

theorem chain_cons_iff {r : String → String → Prop} {l : List String} (hends : (t :: l).getLast? = some s) :
    Cycle.Chain r (t :: l : List String) ↔ (t :: l).IsChain r ∧ r s t := by
  rw [Cycle.chain_coe_cons, ← List.cons_append, List.isChain_append]
  simp [hends]

/-- A path from the end of a new edge to its start closes a cycle that was not there before. -/
theorem SimplePath.simpleCycle (h : SimplePath edges t s path) (hedge : (s, t) ∈ edges) :
    SimpleCycle edges path := by
  obtain ⟨rest, rfl⟩ := h.exists_cons
  exact ⟨by simp, h.simple, (chain_cons_iff h.ends).2 ⟨h.linked, hedge⟩⟩

theorem SimplePath.not_simpleCycle (h : SimplePath edges' t s path) (hnew : (s, t) ∉ edges) :
    ¬ SimpleCycle edges path := by
  obtain ⟨rest, rfl⟩ := h.exists_cons
  exact fun hc => hnew ((chain_cons_iff h.ends).1 hc.linked).2

/-- Where a chain of the edges and a new one is none of the edges alone, the new edge is in it. -/
theorem exists_split_of_not_isChain {l : List String}
    (h : l.IsChain fun a b => (a, b) ∈ edges ++ [(s, t)])
    (hnot : ¬ l.IsChain fun a b => (a, b) ∈ edges) : ∃ l₁ l₂, l = l₁ ++ s :: t :: l₂ := by
  contrapose! hnot
  rw [List.isChain_iff_forall_rel_of_append_cons_cons] at h ⊢
  intro a b l₁ l₂ hl
  rcases List.mem_append.1 (h hl) with hedge | hedge
  · exact hedge
  · obtain ⟨rfl, rfl⟩ := Prod.mk.inj (List.mem_singleton.1 hedge)
    exact absurd hl (hnot l₁ l₂)

/-- A cycle that a new edge completes is a path from the end of the edge to its start. -/
theorem exists_simplePath_of_simpleCycle (h : SimpleCycle (edges ++ [(s, t)]) c)
    (hnot : ¬ SimpleCycle edges c) : ∃ path, SimplePath (edges ++ [(s, t)]) t s path ∧ c = path := by
  obtain ⟨hne, hsimple, hlinked⟩ := h
  have hunlinked : ¬ c.Chain fun a b => (a, b) ∈ edges := fun hlinked => hnot ⟨hne, hsimple, hlinked⟩
  suffices hturn : ∃ l : List String, c = l ∧ l.head? = some t ∧ l.getLast? = some s by
    obtain ⟨l, rfl, hstarts, hends⟩ := hturn
    obtain ⟨rest, rfl⟩ := List.head?_eq_some_iff.1 hstarts
    exact ⟨t :: rest, ⟨rfl, hends, hsimple, ((chain_cons_iff hends).1 hlinked).1⟩, rfl⟩
  induction c with
  | nil => exact absurd rfl hne
  | cons a l =>
    rw [Cycle.chain_coe_cons] at hlinked hunlinked
    obtain ⟨l₁, l₂, hsplit⟩ := exists_split_of_not_isChain hlinked hunlinked
    rcases List.eq_nil_or_concat l₂ with rfl | ⟨l₂, b, rfl⟩
    · -- the edge leads back to where the cycle was entered
      have hconcat : (a :: l) ++ [a] = (l₁ ++ [s]) ++ [t] := by simpa using hsplit
      obtain ⟨hfront, hlast⟩ := List.append_inj' hconcat rfl
      obtain rfl : a = t := by simpa using hlast
      exact ⟨a :: l, rfl, rfl, by rw [hfront, List.getLast?_concat]⟩
    · have hconcat : (a :: l) ++ [a] = (l₁ ++ s :: t :: l₂) ++ [b] := by
        rw [List.concat_eq_append] at hsplit
        simpa using hsplit
      obtain ⟨hfront, -⟩ := List.append_inj' hconcat rfl
      refine ⟨(t :: l₂) ++ (l₁ ++ [s]), ?_, rfl, by rw [← List.append_assoc, List.getLast?_concat]⟩
      rw [hfront, Cycle.coe_eq_coe, show l₁ ++ s :: t :: l₂ = (l₁ ++ [s]) ++ (t :: l₂) by simp]
      exact List.isRotated_append

/-- The cycles that a new edge completes are the paths from its end to its start. -/
theorem completed_iff (hnew : (s, t) ∉ edges) :
    SimpleCycle (edges ++ [(s, t)]) c ∧ ¬ SimpleCycle edges c ↔
      ∃ path, SimplePath (edges ++ [(s, t)]) t s path ∧ c = path := by
  constructor
  · exact fun h => exists_simplePath_of_simpleCycle h.1 h.2
  · rintro ⟨path, hpath, rfl⟩
    exact ⟨hpath.simpleCycle (by simp), hpath.not_simpleCycle hnew⟩

/-- Paths from one node that are one cycle are one path. -/
theorem eq_of_isRotated (hp : path.head? = some t) (hq : q.head? = some t) (hsimple : path.Nodup)
    (h : path ~r q) : path = q := by
  obtain ⟨n, hn, rfl⟩ := List.isRotated_iff_mod.1 h
  rw [List.rotate_eq_drop_append_take hn] at hq ⊢
  obtain ⟨l₁, l₂, rfl, hl₁, hl₂⟩ : ∃ l₁ l₂, path = l₁ ++ l₂ ∧ path.take n = l₁ ∧ path.drop n = l₂ :=
    ⟨_, _, (List.take_append_drop n path).symm, rfl, rfl⟩
  rw [hl₁, hl₂] at hq ⊢
  cases l₁ with
  | nil => simp
  | cons a l₁ =>
    cases l₂ with
    | nil => simp
    | cons b l₂ =>
      obtain rfl : a = t := by simpa using hp
      obtain rfl : b = a := by simpa using hq
      simp at hsimple

namespace CycleDetector

variable {d : CycleDetector}

/-! ### Keys -/

/-- A key is one of the ways through the cycle. -/
theorem coe_cycleKey (path : List String) : (cycleKey path : Cycle String) = cycleOf path := by
  rw [cycleKey, cycleOf, fromLeast, Cycle.coe_eq_coe]
  calc path.dropLast.drop _ ++ path.dropLast.take _
      ~r path.dropLast.take _ ++ path.dropLast.drop _ := List.isRotated_append
    _ = path.dropLast := List.take_append_drop ..

/-- The keys keep different cycles apart, so none is passed over. -/
theorem unseen_eq (hdistinct : (paths.map cycleOf).Nodup)
    (hnew : ∀ path ∈ paths, ∀ key ∈ keys, (key : Cycle String) ≠ cycleOf path) :
    unseen keys paths = paths := by
  induction paths generalizing keys with
  | nil => rfl
  | cons path paths ih =>
    obtain ⟨hpath, hpaths⟩ := List.nodup_cons.1 hdistinct
    rw [List.forall_mem_cons] at hnew
    have hkey : keys.contains (cycleKey path) = false := by
      rw [← Bool.not_eq_true, List.contains_iff_mem]
      exact fun hmem => hnew.1 _ hmem (coe_cycleKey path)
    have hrest : unseen (cycleKey path :: keys) paths = paths := by
      refine ih hpaths fun path' hpath' key hmem => ?_
      rcases List.mem_cons.1 hmem with rfl | hmem
      · rw [coe_cycleKey]
        exact fun heq => hpath (heq ▸ List.mem_map_of_mem hpath')
      · exact hnew.2 path' hpath' key hmem
    rw [unseen, hkey, hrest]
    rfl

/-! ### The paths that an edge closes -/

theorem mem_closed (hfind : find.Exact) (hedges : edges.Nodup) :
    q ∈ closed find edges s t ↔ ∃ path, SimplePath edges t s path ∧ q = path ++ [t] := by
  have hpaths : ∀ path, path ∈ (if s == t then [[t]] else find edges t s) ↔
      SimplePath edges t s path := by
    intro path
    split
    next heq =>
      obtain rfl := beq_iff_eq.1 heq
      rw [List.mem_singleton, simplePath_self_iff]
    next hne =>
      rw [beq_iff_eq] at hne
      exact (hfind edges t s hedges (Ne.symm hne)).2 path
  simp only [closed, List.mem_map, List.mem_mergeSort, hpaths, eq_comm (b := q)]

theorem nodup_closed (hfind : find.Exact) (hedges : edges.Nodup) :
    ((closed find edges s t).map cycleOf).Nodup := by
  refine List.Nodup.map_on ?_ (List.Nodup.map (List.append_left_injective [t]) ?_)
  · intro q hq q' hq' heq
    obtain ⟨path, hpath, rfl⟩ := (mem_closed hfind hedges).1 hq
    obtain ⟨path', hpath', rfl⟩ := (mem_closed hfind hedges).1 hq'
    rw [cycleOf_concat, cycleOf_concat, Cycle.coe_eq_coe] at heq
    rw [eq_of_isRotated hpath.starts hpath'.starts hpath.simple heq]
  · rw [(List.mergeSort_perm _ _).nodup_iff]
    split
    next => exact List.nodup_singleton _
    next hne =>
      rw [beq_iff_eq] at hne
      exact (hfind edges t s hedges (Ne.symm hne)).1

/-- The closed paths of a new edge are the cycles that it completes. -/
theorem mem_map_closed (hfind : find.Exact) (hedges : (edges ++ [(s, t)]).Nodup) :
    c ∈ (closed find (edges ++ [(s, t)]) s t).map cycleOf ↔
      SimpleCycle (edges ++ [(s, t)]) c ∧ ¬ SimpleCycle edges c := by
  have hnew : (s, t) ∉ edges := fun hmem => by
    simpa using (List.disjoint_of_nodup_append hedges) hmem
  rw [completed_iff hnew, List.mem_map]
  constructor
  · rintro ⟨q, hq, rfl⟩
    obtain ⟨path, hpath, rfl⟩ := (mem_closed hfind hedges).1 hq
    exact ⟨path, hpath, cycleOf_concat ..⟩
  · rintro ⟨path, hpath, rfl⟩
    exact ⟨path ++ [t], (mem_closed hfind hedges).2 ⟨path, hpath, rfl⟩, cycleOf_concat ..⟩

/-! ### Detectors -/

/-- A closed path of a new edge starts and ends where the edge leads to, and the edge is its last. -/
theorem ends_of_mem_closed (hfind : find.Exact) (hedges : edges.Nodup)
    (h : q ∈ closed find edges s t) : q.head? = some t ∧ ∃ front, q = front ++ [s, t] := by
  obtain ⟨path, hpath, rfl⟩ := (mem_closed hfind hedges).1 h
  obtain ⟨front, hfront⟩ := hpath.exists_concat
  exact ⟨by simp [hpath.starts], front, by simp [hfront]⟩

/-- A detector holds each simple cycle of its edges once, as a closed path. -/
structure Complete (d : CycleDetector) : Prop where
  edges : d.edges.Nodup
  ends : ∀ q ∈ d.cycles, q.head? = q.getLast?
  distinct : (d.cycles.map cycleOf).Nodup
  mem_iff : ∀ c, c ∈ d.cycles.map cycleOf ↔ SimpleCycle d.edges c

theorem complete_empty : Complete {} :=
  ⟨List.nodup_nil, List.forall_mem_nil _, List.nodup_nil,
    fun _ => ⟨fun h => absurd h List.not_mem_nil, fun h => absurd h not_simpleCycle_nil⟩⟩

/-- The filter lets every path of a new edge through. -/
theorem Complete.addEdgeBy_eq (h : d.Complete) (hfind : find.Exact) (hnew : (s, t) ∉ d.edges) :
    d.addEdgeBy find s t =
      (closed find (d.edges ++ [(s, t)]) s t,
        ⟨d.edges ++ [(s, t)], d.cycles ++ closed find (d.edges ++ [(s, t)]) s t⟩) := by
  have hedges : (d.edges ++ [(s, t)]).Nodup := by simpa using h.edges.concat hnew
  have hfound : unseen (d.cycles.map cycleKey) (closed find (d.edges ++ [(s, t)]) s t) =
      closed find (d.edges ++ [(s, t)]) s t := by
    refine unseen_eq (nodup_closed hfind hedges) fun q hq key hkey heq => ?_
    obtain ⟨q', hq', rfl⟩ := List.mem_map.1 hkey
    have hold := (h.mem_iff _).1 (List.mem_map_of_mem hq')
    rw [← coe_cycleKey, heq] at hold
    exact ((mem_map_closed hfind hedges).1 (List.mem_map_of_mem hq)).2 hold
  simp [addEdgeBy, hnew, hfound]

theorem Complete.addEdgeBy (h : d.Complete) (hfind : find.Exact) (s t : String) :
    (d.addEdgeBy find s t).2.Complete := by
  by_cases hnew : (s, t) ∈ d.edges
  · rw [addEdgeBy_of_mem hnew]
    exact h
  have hedges : (d.edges ++ [(s, t)]).Nodup := by simpa using h.edges.concat hnew
  have hmem := @mem_map_closed d.edges s t find
  rw [h.addEdgeBy_eq hfind hnew]
  refine ⟨hedges, fun q hq => ?_, ?_, fun c => ?_⟩
  · rcases List.mem_append.1 hq with hq | hq
    · exact h.ends q hq
    · obtain ⟨hstarts, front, rfl⟩ := ends_of_mem_closed hfind hedges hq
      simp [hstarts]
  · rw [List.map_append, List.nodup_append']
    refine ⟨h.distinct, nodup_closed hfind hedges, fun c hold hclosed => ?_⟩
    exact ((hmem hfind hedges).1 hclosed).2 ((h.mem_iff c).1 hold)
  · rw [List.map_append, List.mem_append, hmem hfind hedges, h.mem_iff]
    refine ⟨?_, fun hc => ?_⟩
    · rintro (hc | ⟨hc, -⟩)
      · exact hc.mono (List.subset_append_left ..)
      · exact hc
    · exact (Classical.em (SimpleCycle d.edges c)).imp id fun hnot => ⟨hc, hnot⟩

/-- The detector behind a sequence of edges. -/
def addAll (find : PathFinder) (es : List Edge) : CycleDetector :=
  es.foldl (fun d e => (d.addEdgeBy find e.1 e.2).2) {}

theorem addAll_concat (find : PathFinder) (es : List Edge) (s t : String) :
    addAll find (es ++ [(s, t)]) = ((addAll find es).addEdgeBy find s t).2 := by
  simp [addAll, List.foldl_append]

theorem complete_addAll (hfind : find.Exact) (es : List Edge) : (addAll find es).Complete := by
  induction es using List.reverseRecOn with
  | nil => exact complete_empty
  | append_singleton es e ih =>
    rw [addAll_concat]
    exact ih.addEdgeBy hfind e.1 e.2

theorem mem_edges_addAll (find : PathFinder) (es : List Edge) (e : Edge) :
    e ∈ (addAll find es).edges ↔ e ∈ es := by
  induction es using List.reverseRecOn with
  | nil => exact Iff.rfl
  | append_singleton es e' ih =>
    rw [addAll_concat, mem_edges_addEdgeBy, ih]
    simp

/-- What a further edge closes: nothing if it was there before, else the cycles that it completes,
which are added to those found so far. -/
theorem addEdgeBy_addAll (hfind : find.Exact) (es : List Edge) (s t : String)
    {found : List (List String)} (h : (addAll find es).addEdgeBy find s t = (found, d)) :
    d.cycles = (addAll find es).cycles ++ found ∧ ((s, t) ∈ es → found = []) ∧
      (∀ q ∈ found, q.head? = some t ∧ ∃ front, q = front ++ [s, t]) ∧
      ∀ c, c ∈ found.map cycleOf ↔ SimpleCycle (es ++ [(s, t)]) c ∧ ¬ SimpleCycle es c := by
  have hmem := mem_edges_addAll find es
  by_cases hseen : (s, t) ∈ es
  · rw [addEdgeBy_of_mem ((hmem _).2 hseen)] at h
    obtain ⟨rfl, rfl⟩ := Prod.mk.inj h
    refine ⟨by simp, fun _ => rfl, List.forall_mem_nil _, fun c => ?_⟩
    have hsame : ∀ e, e ∈ es ++ [(s, t)] ↔ e ∈ es := by
      intro e
      rw [List.mem_append, List.mem_singleton]
      exact ⟨fun he => he.elim id fun he => he ▸ hseen, .inl⟩
    rw [simpleCycle_congr hsame]
    simp
  · have hnew : (s, t) ∉ (addAll find es).edges := mt (hmem _).1 hseen
    have hcomplete := complete_addAll hfind es
    have hedges : ((addAll find es).edges ++ [(s, t)]).Nodup := by
      simpa using hcomplete.edges.concat hnew
    rw [hcomplete.addEdgeBy_eq hfind hnew] at h
    obtain ⟨rfl, rfl⟩ := Prod.mk.inj h
    refine ⟨rfl, fun h => absurd h hseen, fun q => ends_of_mem_closed hfind hedges, fun c => ?_⟩
    have hmem' : ∀ e, e ∈ (addAll find es).edges ++ [(s, t)] ↔ e ∈ es ++ [(s, t)] := by
      intro e
      rw [List.mem_append, List.mem_append, hmem]
    rw [mem_map_closed hfind hedges, simpleCycle_congr hmem, simpleCycle_congr hmem']

/-- Whatever edges are added, the detector holds each simple cycle of them once, as a closed path, and
nothing else. It is the last edge of a cycle that finds it, entered where this edge leads to; an edge
that was added before finds nothing; and which cycles there are does not depend on the order. -/
theorem simple_cycles_found_once (hfind : find.Exact) (es : List Edge) :
    (∀ q ∈ (addAll find es).cycles, q.head? = q.getLast?) ∧
    ((addAll find es).cycles.map cycleOf).Nodup ∧
    (∀ c, c ∈ (addAll find es).cycles.map cycleOf ↔ SimpleCycle es c) ∧
    (∀ s t found d, (addAll find es).addEdgeBy find s t = (found, d) →
      d.cycles = (addAll find es).cycles ++ found ∧ ((s, t) ∈ es → found = []) ∧
      (∀ q ∈ found, q.head? = some t ∧ ∃ front, q = front ++ [s, t]) ∧
      ∀ c, c ∈ found.map cycleOf ↔ SimpleCycle (es ++ [(s, t)]) c ∧ ¬ SimpleCycle es c) ∧
    ∀ es', (∀ e, e ∈ es' ↔ e ∈ es) → ∀ c,
      c ∈ (addAll find es').cycles.map cycleOf ↔ c ∈ (addAll find es).cycles.map cycleOf := by
  have hmem : ∀ es c, c ∈ (addAll find es).cycles.map cycleOf ↔ SimpleCycle es c := by
    intro es c
    rw [(complete_addAll hfind es).mem_iff, simpleCycle_congr (mem_edges_addAll find es)]
  have hcomplete := complete_addAll hfind es
  refine ⟨hcomplete.ends, hcomplete.distinct, hmem es, fun s t found d h => ?_, fun es' hes c => ?_⟩
  · exact addEdgeBy_addAll hfind es s t h
  · rw [hmem, hmem, simpleCycle_congr hes]

/-- Two cycles that share an edge, and a node that leads to itself. -/
def braid : List Edge := [("a", "b"), ("b", "a"), ("b", "c"), ("c", "c"), ("a", "b"), ("c", "a")]

theorem simple_cycles_found_once_braid : PathFinder.Exact everyPath ∧
    (addAll everyPath braid).cycles = [["a", "b", "a"], ["c", "c"], ["a", "b", "c", "a"]] ∧
    SimpleCycle braid (["b", "c", "a"] : List String) ∧
    ¬ SimpleCycle braid (["a", "c", "b"] : List String) := by
  have hcycles : (addAll everyPath braid).cycles =
      [["a", "b", "a"], ["c", "c"], ["a", "b", "c", "a"]] := by decide +kernel
  have hmem := (simple_cycles_found_once exact_everyPath braid).2.2.1
  rw [hcycles] at hmem
  exact ⟨exact_everyPath, hcycles, (hmem _).1 (by decide), mt (hmem _).2 (by decide)⟩

end CycleDetector

end Coselect.Graph
