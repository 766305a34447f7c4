import Coselect.Proofs.Graph.Journey
import Coselect.Proofs.Graph.SimpleCycles
import Coselect.Proofs.Graph.Sorted

/-! Journeys that nothing but the depth limit stops. They discover the nodes in range level by level,
each at its distance from the start, expand every one of them once, and find the simple cycles of the
edges between them, whatever lists the simple paths for the detector. -/

namespace Coselect.Graph

/-! ### Detectors with other finders -/

section PathOrder

variable {p q r : List String}

theorem pathLE_iff : pathLE p q = true ↔
    p.length < q.length ∨ p.length = q.length ∧ List.le p q := by
  rw [pathLE, Bool.or_eq_true, decide_eq_true_iff, Bool.and_eq_true, beq_iff_eq, Bool.not_eq_true',
    List.lex_eq_false_iff_ge]
  rfl

theorem pathLE_total (p q : List String) : pathLE p q = true ∨ pathLE q p = true := by
  rw [pathLE_iff, pathLE_iff]
  rcases Nat.lt_trichotomy p.length q.length with h | h | h
  · exact .inl (.inl h)
  · exact (List.le_total p q).imp (fun hle => .inr ⟨h, hle⟩) fun hle => .inr ⟨h.symm, hle⟩
  · exact .inr (.inl h)

theorem pathLE_trans (hpq : pathLE p q = true) (hqr : pathLE q r = true) : pathLE p r = true := by
  rw [pathLE_iff] at *
  rcases hpq with hpq | ⟨hpq, hle⟩
  · exact .inl (by omega)
  · rcases hqr with hqr | ⟨hqr, hle'⟩
    · exact .inl (by omega)
    · exact .inr ⟨hpq.trans hqr, List.le_trans hle hle'⟩

theorem pathLE_antisymm (hpq : pathLE p q = true) (hqp : pathLE q p = true) : p = q := by
  rw [pathLE_iff] at *
  rcases hpq with hpq | ⟨hpq, hle⟩
  · omega
  · exact List.le_antisymm hle (hqp.resolve_left (by omega)).2

end PathOrder

namespace CycleDetector

variable {find find' : PathFinder} {edges : List Edge} {s t : String} {d : CycleDetector}

/-- Exact finders list the same paths, and sorting leaves nothing of the order in which they do. -/
theorem closed_congr (hfind : find.Exact) (hfind' : find'.Exact) (hedges : edges.Nodup) :
    closed find edges s t = closed find' edges s t := by
  unfold closed
  split
  next => rfl
  next hne =>
    rw [beq_iff_eq] at hne
    obtain ⟨hnodup, hmem⟩ := hfind edges t s hedges (Ne.symm hne)
    obtain ⟨hnodup', hmem'⟩ := hfind' edges t s hedges (Ne.symm hne)
    have hperm : (find edges t s).Perm (find' edges t s) :=
      (List.perm_ext_iff_of_nodup hnodup hnodup').2 fun path => (hmem path).trans (hmem' path).symm
    have htotal : ∀ p q, (pathLE p q || pathLE q p) = true := by simpa using pathLE_total
    exact congrArg (List.map (· ++ [t])) (Text.mergeSort_eq_of_antisymm (fun _ _ _ => pathLE_trans)
      htotal (fun _ _ _ _ => pathLE_antisymm) hperm)

theorem addEdgeBy_congr (hfind : find.Exact) (hfind' : find'.Exact) (hedges : d.edges.Nodup) :
    d.addEdgeBy find s t = d.addEdgeBy find' s t := by
  by_cases hseen : (s, t) ∈ d.edges
  · rw [addEdgeBy_of_mem hseen, addEdgeBy_of_mem hseen]
  · have hjoined : (d.edges ++ [(s, t)]).Nodup := by simpa using hedges.concat hseen
    simp [addEdgeBy, hseen, closed_congr hfind hfind' hjoined]

/-- The detector is what its edges make, in their order, with any exact finder. -/
def Settled (d : CycleDetector) : Prop := ∀ find : PathFinder, find.Exact → addAll find d.edges = d

theorem settled_empty : Settled {} := fun _ _ => rfl

theorem Settled.complete (h : d.Settled) : d.Complete :=
  h everyPath exact_everyPath ▸ complete_addAll exact_everyPath d.edges

theorem Settled.addEdge (h : d.Settled) (s t : String) : (d.addEdge s t).2.Settled := by
  by_cases hseen : (s, t) ∈ d.edges
  · rw [CycleDetector.addEdge, addEdgeBy_of_mem hseen]
    exact h
  · intro find hfind
    have hedges : (d.addEdge s t).2.edges = d.edges ++ [(s, t)] := by
      simp [CycleDetector.addEdge, addEdgeBy, hseen]
    rw [hedges, addAll_concat, h find hfind, addEdgeBy_congr hfind exact_everyPath h.complete.edges]
    rfl

end CycleDetector

namespace Walk

variable {b : Bounds} {node n u v : String} {ns : List String} {full : Bool} {w : Walk} {dep : Nat}

theorem settled_takeIn {r : Walk × Bool} (h : w.detector.Settled) (ht : TakesIn b node dep w full n r) :
    r.1.detector.Settled := by
  cases ht with
  | known | discovered => exact h.addEdge node n
  | tooDeep | tooMany => exact h

theorem settled_absorb (h : w.detector.Settled) (node : String) (ns : List String) :
    (w.absorb b node ns).1.detector.Settled := by
  have hfold : ∀ (ns : List String) (r : Walk × Bool), r.1.detector.Settled →
      (ns.foldl (takeIn b node (w.depth node)) r).1.detector.Settled := by
    intro ns
    induction ns with
    | nil => exact fun _ hr => hr
    | cons n ns ih => exact fun r hr => ih _ (settled_takeIn hr (takesIn b node _ r.1 r.2 n))
  exact hfold ns _ h

/-- The recorded edges, one by one. -/
def pairs (w : Walk) : List Edge := w.edges.entries.flatMap fun e => e.2.map (e.1, ·)

theorem mem_pairs : (u, v) ∈ w.pairs ↔ v ∈ w.edges.next u := by
  have hnext : v ∈ w.edges.next u ↔ ∃ s, w.edges.get? u = some s ∧ v ∈ s := by
    cases hget : w.edges.get? u <;> simp [Adjacency.next, hget]
  simp [hnext, pairs, Table.mem_entries_iff]

end Walk

/-! ### The whole range -/

/-- The least number of steps from the root to a node. -/
def Distance (next : String → List String) (root : String) (d : Nat) (node : String) : Prop :=
  Reaches next root d node ∧ ∀ d', Reaches next root d' node → d ≤ d'

namespace Walk.Sound

variable {b : Bounds} {root v : String} {next : String → List String} {w : Walk} {d : Nat}

/-- Once all is expanded, the depths are the distances within the limit. -/
theorem get?_depths_iff (h : Sound b root next false w) (hall : w.expanded = w.depths.keys) :
    w.depths.get? v = some d ↔
      Distance next root d v ∧ ∀ m, b.maxDepth = some m → d ≤ m := by
  constructor
  · intro hget
    have hv : v ∈ w.depths.keys := Table.mem_keys_iff.2 (by simp [hget])
    have hdepth : w.depth v = d := by simp [depth, hget]
    have hdeep : ∀ m, b.maxDepth = some m → d ≤ m := fun m hm => hdepth ▸ h.deep m hm v hv
    refine ⟨⟨hdepth ▸ h.reaches hv, fun d' hd' => ?_⟩, hdeep⟩
    -- a shorter way would be within the limit too
    by_contra hlt
    have hshort := (h.mem_keys_of_inRange hall hd' fun m hm => by have := hdeep m hm; omega).2
    omega
  · rintro ⟨⟨hreaches, hleast⟩, hrange⟩
    obtain ⟨hv, hle⟩ := h.mem_keys_of_inRange hall hreaches hrange
    have hge := hleast _ (h.reaches hv)
    rw [get?_of_mem_keys hv, Nat.le_antisymm hle hge]

theorem pairwise_values (h : Sound b root next false w) : w.depths.values.Pairwise (· ≤ ·) := by
  have hsorted := h.sorted
  rw [Table.keys, List.pairwise_map] at hsorted
  rw [Table.values, List.pairwise_map]
  refine hsorted.imp_of_mem fun {e e'} he he' hle => ?_
  have hdepth : ∀ e ∈ w.depths.entries, w.depth e.1 = e.2 := fun e he => by
    simp [depth, Table.mem_entries_iff.1 he]
  rwa [hdepth e he, hdepth e' he'] at hle

end Walk.Sound

namespace Journey

variable {j : Journey} {t : Traveller}

theorem settled_stride {w : Walk} (h : w.detector.Settled) (node : String) (q : List String) :
    (j.stride w node q).1.detector.Settled :=
  Walk.settled_absorb (w := { w with queue := q }) h node _

theorem settled_travel (hf : ∀ node, j.fails node = false) (fuel : Nat)
    (h : t.walk.detector.Settled) : (j.travel fuel t).1.walk.detector.Settled := by
  induction fuel generalizing t with
  | zero => exact h
  | succ fuel ih =>
    have ht := turns hf t
    unfold travel
    generalize j.turn t = r at ht
    cases ht with
    | exhausted => exact h
    | halted _ _ hw => exact hw ▸ h
    | truncated _ _ hw => exact hw ▸ settled_stride h _ _
    | onward _ _ hw => exact ih (hw ▸ settled_stride h _ _)

/-- What waits behind a journey that was not stopped is not expanded yet. -/
theorem ready_travel (hf : ∀ node, j.fails node = false) (h : j.Underway t.walk) (fuel : Nat)
    (hend : (j.travel fuel t).2 = .stopped .exhausted) : (j.travel fuel t).1.walk.Ready := by
  induction fuel generalizing t with
  | zero => exact h.ready
  | succ fuel ih =>
    have ht := turns hf t
    unfold travel at hend ⊢
    generalize j.turn t = r at ht hend
    cases ht with
    | exhausted => exact h.ready
    | halted _ _ _ hreason => rcases hreason with rfl | rfl <;> cases hend
    | truncated => cases hend
    | onward hq _ hw hfull =>
      obtain ⟨hsound, hready, -⟩ := h.stride hq
      rw [← hw] at hsound hready
      exact ih ⟨hfull ▸ hsound, hready⟩ hend

/-- A journey that only the depth limit bounds goes on until it has expanded every node within it once.
It lists the nodes by their distance from the start, records between them all edges there are, also
from nodes at the limit, and finds the simple cycles of these edges, as a detector with any exact finder
would. -/
theorem run_exhausts_range (hf : ∀ node, j.fails node = false) (hu : j.Unhindered)
    (hmax : j.bounds.maxNodes = none) :
    let w := j.run.1.walk
    j.run.2 = .stopped .exhausted ∧
    (∀ v d, w.depths.get? v = some d ↔ Distance j.nextOf j.start d v ∧
      ∀ m, j.bounds.maxDepth = some m → d ≤ m) ∧
    w.depths.values.Pairwise (· ≤ ·) ∧
    (w.expanded = w.depths.keys ∧ w.expanded.Nodup ∧ w.queue = []) ∧
    (∀ u v, v ∈ w.edges.next u ↔
      v ∈ j.nextOf u ∧ u ∈ w.depths.keys ∧ v ∈ w.depths.keys) ∧
    ((∀ q ∈ w.detector.cycles, q.head? = q.getLast?) ∧
      (w.detector.cycles.map cycleOf).Nodup ∧
      ∀ c, c ∈ w.detector.cycles.map cycleOf ↔ SimpleCycle w.pairs c) ∧
    ∀ find : PathFinder, find.Exact →
      CycleDetector.addAll find w.detector.edges = w.detector := by
  intro w
  obtain ⟨reason, hreason, hends⟩ := travel_ends hf (underway_setOut j) (fun hu => hu.cancelBefore)
    (show j.reachable.length < j.reachable.length + 1 + _ by omega)
  have hexhausted : reason = .exhausted := by
    rcases hends.reason_of_unhindered hu with hr | rfl
    · exact hr
    · obtain ⟨⟨m, hm, -⟩, -⟩ := hends.sound.ceiling rfl
      rw [hmax] at hm
      contradiction
  subst hexhausted
  have hsound : Walk.Sound j.bounds j.start j.nextOf false w := hends.sound
  have hall : w.expanded = w.depths.keys := hends.exhausted rfl
  have hready : w.Ready := ready_travel hf (underway_setOut j) _ hreason
  have hqueue : w.queue = [] := List.self_eq_append_right.1 (hall.trans hready)
  have hsettled : w.detector.Settled := settled_travel hf _ CycleDetector.settled_empty
  have hcomplete := hsettled.complete
  refine ⟨hreason, fun v d => hsound.get?_depths_iff hall, hsound.pairwise_values,
    ⟨hall, hall ▸ w.depths.nodup_keys, hqueue⟩, fun u v => ?_,
    ⟨hcomplete.ends, hcomplete.distinct, fun c => ?_⟩, hsettled⟩
  · rw [hsound.edges, hall]
    tauto
  · have hpairs : ∀ e, e ∈ w.detector.edges ↔ e ∈ w.pairs := fun e => by
      rw [← Prod.mk.eta (p := e), hsound.traced, Walk.mem_pairs]
    rw [hcomplete.mem_iff, simpleCycle_congr hpairs]

/-- A node that leads to itself and twice to another one, and an edge back from the depth limit. -/
def leaningBack : Journey where
  start := "a"
  neighbours := .ofList [("a", ["b", "a", "b"]), ("b", ["c", "a"]), ("c", ["d", "b"])]
  bounds := { maxDepth := some 2 }

theorem run_exhausts_range_leaningBack : leaningBack.run.2 = .stopped .exhausted ∧
    leaningBack.run.1.walk.depths.entries = [("a", 0), ("b", 1), ("c", 2)] ∧
    Distance leaningBack.nextOf "a" 2 "c" ∧
    leaningBack.run.1.walk.edges.next "c" = ["b"] ∧
    SimpleCycle leaningBack.run.1.walk.pairs (["c", "b"] : List String) := by
  have hunhindered : leaningBack.Unhindered := ⟨rfl, rfl, rfl, rfl, fun _ => rfl⟩
  obtain ⟨hend, hdepths, -, -, -, ⟨-, -, hcycles⟩, -⟩ :=
    run_exhausts_range (j := leaningBack) (fun _ => rfl) hunhindered rfl
  have hentries : leaningBack.run.1.walk.depths.entries = [("a", 0), ("b", 1), ("c", 2)] := by
    decide +kernel
  have hc : leaningBack.run.1.walk.depths.get? "c" = some 2 :=
    Table.mem_entries_iff.1 (by simp [hentries])
  exact ⟨hend, hentries, ((hdepths _ _).1 hc).1, by decide +kernel,
    (hcycles _).1 (by decide +kernel)⟩

end Journey

end Coselect.Graph
