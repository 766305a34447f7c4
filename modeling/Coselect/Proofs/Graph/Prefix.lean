import Mathlib.Algebra.Order.Ring.Unbundled.Rat
import Coselect.Proofs.Graph.Journey

/-! Limited journeys against those with looser limits or none at all. As long as both go on
they are in step; the one under tighter limits stops first, or goes on where nothing is left
for it to discover. So whatever stops it, it makes a first part of the journey without
limits. -/

namespace Coselect.Graph

/-- A walk that is a first part of another one. -/
structure Walk.PartOf (w w' : Walk) : Prop where
  discovered : w.depths.entries <+: w'.depths.entries
  expanded : w.depths.keys = w.expanded ++ w.frontier
  edges : ∀ u ∈ w.expanded, ∀ v, v ∈ w.edges.next u ↔ v ∈ w'.edges.next u ∧ v ∈ w.depths.keys
  unexpanded : ∀ u, u ∉ w.expanded → w.edges.next u = []
  cycles : w.detector.cycles <+: w'.detector.cycles

namespace Journey

variable {j j' : Journey} {t t' : Traveller} {node v : String}

/-- The same journey, with none of its limits tighter. -/
structure Relaxed (j j' : Journey) : Prop where
  start : j'.start = j.start
  neighbours : j'.neighbours = j.neighbours
  cost : j'.cost = j.cost
  rounded : j'.rounded = j.rounded
  fails : j'.fails = j.fails
  bounds : j.bounds.Tighter j'.bounds
  timeout : ∀ limit', j'.timeout = some limit' → ∃ limit, j.timeout = some limit ∧ limit ≤ limit'
  cancelBefore : j'.cancelBefore = true → j.cancelBefore = true
  cancelAt : ∀ node, j'.cancelAt = some node → j.cancelAt = some node
  cancelTime : ∀ time', j'.cancelTime = some time' →
    ∃ time, j.cancelTime = some time ∧ time ≤ time'
  givesUp : ∀ node, j'.givesUp node = true → j.givesUp node = true

/-- The same journey without limits. -/
def unlimited (j : Journey) : Journey :=
  { j with bounds := {}, timeout := none, cancelBefore := false, cancelAt := none,
           cancelTime := none, givesUp := fun _ => false }

theorem relaxed_unlimited (j : Journey) : j.Relaxed j.unlimited := by
  constructor <;> first | rfl | simp [unlimited]
  constructor <;> simp

theorem unhindered_unlimited (j : Journey) : j.unlimited.Unhindered :=
  ⟨rfl, rfl, rfl, rfl, fun _ => rfl⟩

namespace Relaxed

theorem nextOf (h : j.Relaxed j') : j'.nextOf = j.nextOf := by
  funext node
  simp [Journey.nextOf, h.neighbours]

theorem arrival (h : j.Relaxed j') (now : Rat) : j'.arrival now node = j.arrival now node := by
  simp [Journey.arrival, h.cost, h.rounded]

/-- More time is enough where less was, unless the clock gets times out of order. -/
theorem inTime (h : j.Relaxed j')
    (hclock : j'.timeout = j.timeout ∨ j'.timeout = none ∨ Monotone j.rounded) (now : Rat)
    (node : String) (ht : j.InTime now node) : j'.InTime now node := by
  intro limit' hl'
  rw [h.arrival, h.rounded]
  have hleft : ∀ limit, j'.left now limit = j.left now limit := fun limit => by
    simp [left, h.rounded]
  rcases hclock with heq | hnone | hmono
  · rw [hleft]
    exact ht limit' (heq ▸ hl')
  · rw [hnone] at hl'
    contradiction
  · obtain ⟨limit, hl, hle⟩ := h.timeout limit' hl'
    obtain ⟨hpos, harrival⟩ := ht limit hl
    have hmore : j.left now limit ≤ j'.left now limit' := by
      rw [hleft]
      exact hmono (sub_le_sub_right hle _)
    exact ⟨hpos.trans_le hmore, harrival.trans (hmono (add_le_add_right hmore _))⟩

/-- With looser limits a traveller goes on where it would under tighter ones. -/
theorem goesOn (h : j.Relaxed j') (hclock : ∀ now node, j.InTime now node → j'.InTime now node)
    (hnow : t'.now = t.now) (hc : t'.cancelled = true → t.cancelled = true) (hg : j.GoesOn t node) :
    j'.GoesOn t' node := by
  obtain ⟨hcancelled, htime, hgives⟩ := hg
  refine ⟨?_, hnow ▸ hclock _ _ htime, ?_⟩
  · unfold isCancelled at hcancelled ⊢
    rw [Bool.or_eq_false_iff] at hcancelled ⊢
    refine ⟨?_, ?_⟩
    · by_contra hne
      rw [hc (by simpa using hne)] at hcancelled
      simp at hcancelled
    · cases ht : j'.cancelTime with
      | none => rfl
      | some time' =>
        obtain ⟨time, htime, hle⟩ := h.cancelTime time' ht
        have hnot : ¬ time ≤ t.now := by simpa [htime] using hcancelled.2
        have hnot' : ¬ time' ≤ t.now := fun hle' => hnot (hle.trans hle')
        simpa [hnow] using hnot'
  · by_contra hne
    rw [h.givesUp node (by simpa using hne)] at hgives
    contradiction

end Relaxed

/-- A journey goes on from the walk behind the next expansion. -/
theorem travel_stride {q : List String} (hf : ∀ node, j.fails node = false)
    (h : j.Underway t.walk) (hq : t.walk.queue = node :: q) (hg : j.GoesOn t node) (fuel : Nat) :
    (j.stride t.walk node q).1.depths.entries <+: (j.travel (fuel + 1) t).1.walk.depths.entries ∧
      (j.stride t.walk node q).1.detector.cycles <+:
        (j.travel (fuel + 1) t).1.walk.detector.cycles := by
  obtain ⟨hsound, hready, -, -, -⟩ := h.stride hq
  rw [travel]
  obtain ⟨t₁, hw, ⟨hfull, hturn⟩ | ⟨hfull, hturn, -, -⟩⟩ := turn_of_goesOn hf hq hg
  · rw [hturn, ← hw]
    exact ⟨List.prefix_rfl, List.prefix_rfl⟩
  · rw [← hw] at hsound hready ⊢
    rw [hfull] at hsound
    rw [hturn]
    exact travel_grows hf ⟨hsound, hready⟩ fuel

/-- Two travellers in step. What one of them has not discovered, it will not. -/
structure Abreast (j j' : Journey) (t t' : Traveller) : Prop where
  underway : j.Underway t.walk
  underway' : j'.Underway t'.walk
  now : t'.now = t.now
  cancelled : t'.cancelled = true → t.cancelled = true
  inStep : Walk.InStep (∀ u ∈ t.walk.queue, j.bounds.EndsAt (t.walk.depth u)) t.walk t'.walk

namespace Abreast

/-- The queue of the one ahead begins like that of the other. -/
theorem queue (h : Abreast j j' t t') : t.walk.queue <+: t'.walk.queue := by
  have hkeys : t.walk.depths.keys <+: t'.walk.depths.keys := h.inStep.entries.map Prod.fst
  rw [h.underway.ready, h.underway'.ready, h.inStep.expanded] at hkeys
  exact (List.prefix_append_right_inj _).1 hkeys

theorem exists_queue (h : Abreast j j' t t') {q : List String} (hq : t.walk.queue = node :: q) :
    ∃ q', t'.walk.queue = node :: q' := by
  obtain ⟨l, hl⟩ := h.queue
  exact ⟨q ++ l, by rw [← hl, hq, List.cons_append]⟩

/-- Both expand their next node. -/
theorem stride {q q' : List String} (hr : j.Relaxed j') (h : Abreast j j' t t')
    (hq : t.walk.queue = node :: q) (hq' : t'.walk.queue = node :: q') :
    Walk.InStep (Walk.InStep.Excused j.bounds (t.walk.depth node) (j.stride t.walk node q).2
        (j.stride t.walk node q).1) (j.stride t.walk node q).1 (j'.stride t'.walk node q').1 ∧
      ((j'.stride t'.walk node q').2 = true →
        (j.stride t.walk node q).2 = true ∨ j.bounds.EndsAt (t.walk.depth node)) := by
  have hstep : Walk.InStep (j.bounds.EndsAt (t.walk.depth node)) { t.walk with queue := q }
      { t'.walk with queue := q' } :=
    ⟨h.inStep.expanded, h.inStep.entries, h.inStep.traced, h.inStep.cycles,
      h.inStep.ahead.imp_right fun hall => hall node (by simp [hq])⟩
  have hsound := h.underway.sound.requeue q
  have hsound' := h.underway'.sound.requeue q'
  rw [hr.start, hr.nextOf] at hsound'
  have ha := hstep.absorb hr.bounds hsound hsound' (h.underway.keys hq) (h.underway'.keys hq')
    (j.nextOf node)
  unfold Journey.stride
  rw [hr.nextOf]
  exact ha

/-- Behind a node that brings the one under tighter limits to no ceiling both are in step again,
unless the other one hits a ceiling there. Then the first one is at its depth limit and has
nothing left to discover. -/
theorem onward {t₁ : Traveller} {q : List String} (hr : j.Relaxed j')
    (hclock : ∀ now node, j.InTime now node → j'.InTime now node)
    (hf : ∀ node, j.fails node = false) (h : Abreast j j' t t') (hq : t.walk.queue = node :: q)
    (hg : j.GoesOn t node) (hw : t₁.walk = (j.stride t.walk node q).1)
    (hfull : (j.stride t.walk node q).2 = false) (hnow : t₁.now = j.arrival t.now node)
    (hcancelled : t₁.cancelled = (j.cancelAt == some node)) :
    ∃ t₁', j'.turn t' = (t₁', none) ∧ Abreast j j' t₁ t₁' ∨
      j'.turn t' = (t₁', some (.stopped .truncated)) ∧ j'.bounds.maxNodes ≠ none ∧
        t₁.walk.depths.entries <+: t₁'.walk.depths.entries ∧
        ∀ u ∈ t₁.walk.queue, j.bounds.EndsAt (t₁.walk.depth u) := by
  have hf' : ∀ node, j'.fails node = false := fun node => by rw [hr.fails]; exact hf node
  obtain ⟨q', hq'⟩ := h.exists_queue hq
  obtain ⟨hstep, hceiling⟩ := h.stride hr hq hq'
  obtain ⟨hsound, hready, hexp, hentries, -⟩ := h.underway.stride hq
  obtain ⟨hsound', hready', -⟩ := h.underway'.stride hq'
  obtain ⟨t₁', hw', hturn'⟩ := turn_of_goesOn hf' hq' (hr.goesOn hclock h.now h.cancelled hg)
  rw [← hw] at hsound hready hexp hentries
  rw [← hw, ← hw'] at hstep
  rw [hfull] at hsound hstep hceiling
  rw [← hw'] at hsound' hready'
  have hdepth : t₁.walk.depth node = t.walk.depth node :=
    Walk.depth_of_entries hentries (by simp [h.underway.keys hq])
  have hqueue : ∀ u ∈ t₁.walk.queue, j.bounds.EndsAt (t.walk.depth node) →
      j.bounds.EndsAt (t₁.walk.depth u) := by
    intro u hu hends
    refine hends.mono ?_
    rw [← hdepth]
    exact hsound.depth_le_of_mem_queue hready (by simp [hexp]) hu
  refine ⟨t₁', ?_⟩
  rcases hturn' with ⟨hfull', hturn'⟩ | ⟨hfull', hturn', hnow', hcancelled'⟩
  · have hends := (hceiling hfull').resolve_left (by simp)
    obtain ⟨m, hm, -⟩ := (hsound'.ceiling hfull').1
    exact .inr ⟨hturn', by simp [hm], hstep.entries, fun u hu => hqueue u hu hends⟩
  · rw [hfull'] at hsound'
    refine .inl ⟨hturn', ⟨hsound, hready⟩, ⟨hsound', hready'⟩, ?_, ?_, ?_⟩
    · rw [hnow', hnow, hr.arrival, h.now]
    · intro hc
      rw [hcancelled', beq_iff_eq] at hc
      rw [hcancelled, hr.cancelAt node hc, beq_self_eq_true]
    · refine ⟨hstep.expanded, hstep.entries, hstep.traced, hstep.cycles, ?_⟩
      refine hstep.ahead.imp_right fun hwhy u hu => hqueue u hu ?_
      rcases hwhy with hends | ⟨hff, -⟩
      · exact hends
      · simp at hff

/-- The one ahead has discovered what the other one will ever discover, and when it never hits
a ceiling, it finds its cycles. -/
theorem travel (hr : j.Relaxed j') (hclock : ∀ now node, j.InTime now node → j'.InTime now node)
    (hf : ∀ node, j.fails node = false) (h : Abreast j j' t t') (fuel : Nat) :
    (j.travel fuel t).1.walk.depths.entries <+: (j'.travel fuel t').1.walk.depths.entries ∧
      (j'.bounds.maxNodes = none → (j.travel fuel t).1.walk.detector.cycles <+:
        (j'.travel fuel t').1.walk.detector.cycles) := by
  have hf' : ∀ node, j'.fails node = false := fun node => by rw [hr.fails]; exact hf node
  induction fuel generalizing t t' with
  | zero => exact ⟨h.inStep.entries, fun _ => h.inStep.cycles ▸ List.prefix_rfl⟩
  | succ fuel ih =>
    have hgrows := travel_grows hf' h.underway' (fuel + 1)
    -- if the first one stops here, the other one only gains
    have hstops : ∀ t₁ : Traveller, t₁.walk.depths = t.walk.depths →
        t₁.walk.detector = t.walk.detector →
        t₁.walk.depths.entries <+: (j'.travel (fuel + 1) t').1.walk.depths.entries ∧
          (j'.bounds.maxNodes = none → t₁.walk.detector.cycles <+:
            (j'.travel (fuel + 1) t').1.walk.detector.cycles) := by
      intro t₁ hdepths hdetector
      rw [hdepths, hdetector, h.inStep.cycles]
      exact ⟨h.inStep.entries.trans hgrows.1, fun _ => hgrows.2⟩
    have ht := turns hf t
    rw [Journey.travel]
    generalize j.turn t = r at ht
    cases ht with
    | exhausted hq => exact hstops t rfl rfl
    | halted hq _ hw => exact hstops _ (by rw [hw]) (by rw [hw])
    | @truncated node q t₁ hq hg hw hfull =>
      obtain ⟨q', hq'⟩ := h.exists_queue hq
      obtain ⟨hstep, -⟩ := h.stride hr hq hq'
      have hnext := travel_stride hf' h.underway' hq' (hr.goesOn hclock h.now h.cancelled hg) fuel
      rw [← hw] at hstep
      exact ⟨hstep.entries.trans hnext.1, fun _ => hstep.cycles ▸ hnext.2⟩
    | onward hq hg hw hfull hnow hcancelled =>
      rw [Journey.travel]
      obtain ⟨t₁', ⟨hturn, hnext⟩ | ⟨hturn, hceiling, hentries, hends⟩⟩ :=
        h.onward hr hclock hf hq hg hw hfull hnow hcancelled
      · rw [hturn]
        exact ih hnext
      · rw [hturn, travel_of_endsAt hf fuel hends]
        exact ⟨hentries, fun hnone => absurd hnone hceiling⟩

end Abreast

theorem abreast_setOut (hr : j.Relaxed j') : Abreast j j' j.setOut j'.setOut where
  underway := underway_setOut j
  underway' := underway_setOut j'
  now := rfl
  cancelled := hr.cancelBefore
  inStep := by
    unfold setOut
    rw [hr.start]
    exact ⟨rfl, List.prefix_rfl, rfl, rfl, .inl rfl⟩

theorem run_ends (hf : ∀ node, j.fails node = false) :
    ∃ reason, j.run.2 = .stopped reason ∧ j.Ends j.run.1.walk reason :=
  travel_ends hf (underway_setOut j) (fun hu => hu.cancelBefore) (by omega)

theorem run_relaxed (hr : j.Relaxed j')
    (hclock : j'.timeout = j.timeout ∨ j'.timeout = none ∨ Monotone j.rounded)
    (hf : ∀ node, j.fails node = false) :
    j.run.1.walk.depths.entries <+: j'.run.1.walk.depths.entries ∧
      (j'.bounds.maxNodes = none →
        j.run.1.walk.detector.cycles <+: j'.run.1.walk.detector.cycles) := by
  have hfuel : j'.reachable = j.reachable := by simp [reachable, hr.start, hr.neighbours]
  unfold run
  rw [hfuel]
  exact (abreast_setOut hr).travel hr (hr.inTime hclock) hf _

/-- Only finitely many nodes can be reached. -/
theorem finite_inRange (j : Journey) : {v | InRange j.bounds j.nextOf j.start v}.Finite := by
  refine j.reachable.finite_toSet.subset ?_
  rintro v ⟨d, hv, -⟩
  exact mem_reachable hv

/-- A journey under limits is a first part of the journey without any. Looser limits never make
it discover less, if the clock keeps the order of the times it rounds. It discovers at most as
many nodes as the ceiling allows, and when nothing else stops it, it hits the ceiling exactly if
more nodes than that are in range. -/
theorem run_is_part_of_unlimited (hf : ∀ node, j.fails node = false) :
    (∃ reason, j.run.2 = .stopped reason) ∧
    (j.unlimited.run.2 = .stopped .exhausted ∧ j.unlimited.run.1.walk.frontier = []) ∧
    j.run.1.walk.PartOf j.unlimited.run.1.walk ∧
    (∀ j', j.Relaxed j' → j'.timeout = j.timeout ∨ j'.timeout = none ∨ Monotone j.rounded →
      j.run.1.walk.depths.entries <+: j'.run.1.walk.depths.entries) ∧
    ∀ m, 1 ≤ m → j.bounds.maxNodes = some m → j.run.1.walk.depths.size ≤ m ∧
      (j.Unhindered → (j.run.2 = .stopped .truncated ↔
        m < {v | InRange j.bounds j.nextOf j.start v}.ncard)) := by
  obtain ⟨reason, hreason, hends⟩ := run_ends hf
  obtain ⟨reason', hreason', hends'⟩ := run_ends (j := j.unlimited) hf
  have hpart := run_relaxed j.relaxed_unlimited (.inr (.inl rfl)) hf
  have hall : reason' = .exhausted := by
    rcases hends'.reason_of_unhindered j.unhindered_unlimited with hr | rfl
    · exact hr
    · obtain ⟨m, hm, -⟩ := (hends'.sound.ceiling rfl).1
      contradiction
  subst hall
  refine ⟨⟨reason, hreason⟩, ⟨hreason', hends'.frontier_eq_nil⟩, ?_, ?_, ?_⟩
  · refine ⟨hpart.1, hends.sound.keys_eq, fun u hu v => ?_, fun u hu => ?_, hpart.2 rfl⟩
    · rw [hends.sound.edges, hends'.sound.edges]
      constructor
      · rintro ⟨-, hv, hk⟩
        have hexp := Walk.mem_keys_of_entries hpart.1 (hends.sound.mem_keys hu)
        rw [← hends'.exhausted rfl] at hexp
        exact ⟨⟨hexp, hv, Walk.mem_keys_of_entries hpart.1 hk⟩, hk⟩
      · rintro ⟨⟨-, hv, -⟩, hk⟩
        exact ⟨hu, hv, hk⟩
    · exact List.eq_nil_iff_forall_not_mem.2 fun v hv => hu ((hends.sound.edges u v).1 hv).1
  · exact fun j' hr hclock => (run_relaxed hr hclock hf).1
  · intro m hm hmax
    have hsize := hends.sound.size m hmax
    refine ⟨by omega, fun hu => ?_⟩
    rw [hreason, Ending.stopped.injEq]
    exact hends.truncated_iff hu hm hmax j.finite_inRange

/-- A node whose two neighbours import each other, with a ceiling that lets one of them in. -/
def halfway : Journey where
  start := "a"
  neighbours := .ofList [("a", ["b", "c"]), ("b", ["c"]), ("c", ["b"])]
  bounds := { maxNodes := some 2 }

theorem run_is_part_of_unlimited_halfway : halfway.run.2 = .stopped .truncated ∧
    halfway.run.1.walk.depths.entries = [("a", 0), ("b", 1)] ∧
    halfway.run.1.walk.PartOf halfway.unlimited.run.1.walk ∧
    2 < {v | InRange halfway.bounds halfway.nextOf "a" v}.ncard := by
  obtain ⟨-, -, hpart, -, hceiling⟩ := run_is_part_of_unlimited (j := halfway) fun _ => rfl
  have hunhindered : halfway.Unhindered := ⟨rfl, rfl, rfl, rfl, fun _ => rfl⟩
  have htruncated : halfway.run.2 = .stopped .truncated := rfl
  exact ⟨htruncated, rfl, hpart, ((hceiling 2 (by decide) rfl).2 hunhindered).1 htruncated⟩

end Journey

end Coselect.Graph
