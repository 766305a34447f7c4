import Mathlib.Order.Monotone.Defs
import Coselect.Graph.Clock
import Coselect.Proofs.Graph.Distance
import Coselect.Proofs.Graph.Lockstep

/-! Journeys turn by turn. A turn either stops where it is or takes in the neighbours of the next
node. A journey always ends within its fuel: it has expanded everything, hit the ceiling, or
was stopped. -/

namespace Coselect.Graph

namespace Journey

variable {j j' : Journey} {t t' : Traveller} {node v : String} {q : List String} {fuel : Nat}

section Report

@[simp] theorem walk_tell (p : Progress) : (j.tell t p).walk = t.walk := by
  unfold tell
  split <;> rfl

@[simp] theorem now_tell (p : Progress) : (j.tell t p).now = t.now := by
  unfold tell
  split <;> rfl

@[simp] theorem cancelled_tell (p : Progress) : (j.tell t p).cancelled = t.cancelled := by
  unfold tell
  split <;> rfl

@[simp] theorem walk_report : (j.report t).walk = t.walk := by
  unfold report
  split
  next => rfl
  next => split <;> simp

@[simp] theorem now_report : (j.report t).now = t.now := by
  unfold report
  split
  next => rfl
  next => split <;> simp

@[simp] theorem cancelled_report : (j.report t).cancelled = t.cancelled := by
  unfold report
  split
  next => rfl
  next => split <;> simp

end Report

/-- Whether the expansion of a node that starts now ends in time. -/
def InTime (j : Journey) (now : Rat) (node : String) : Prop :=
  ∀ limit, j.timeout = some limit →
    0 < j.left now limit ∧ j.arrival now node ≤ j.rounded (now + j.left now limit)

/-- Whether nothing stops a traveller from expanding a node. -/
def GoesOn (j : Journey) (t : Traveller) (node : String) : Prop :=
  j.isCancelled t = false ∧ j.InTime t.now node ∧ j.givesUp node = false

/-- The walk behind the expansion of the next node. -/
def stride (j : Journey) (w : Walk) (node : String) (q : List String) : Walk × Bool :=
  Walk.absorb j.bounds { w with queue := q } node (j.nextOf node)

theorem any_left_iff {now : Rat} :
    j.timeout.any (j.left now · ≤ 0) = true ↔
      ∃ limit, j.timeout = some limit ∧ j.left now limit ≤ 0 := by
  simp [Option.any_eq_true]

/-- An expansion lasts as long as it costs, or does not end in time. -/
theorem spend_cases (j : Journey) (t : Traveller) (node : String) :
    (j.spend t node = ({ t with now := j.arrival t.now node }, true) ∧
        ∀ limit, j.timeout = some limit →
          j.arrival t.now node ≤ j.rounded (t.now + j.left t.now limit)) ∨
      ∃ latest, j.spend t node = ({ t with now := latest }, false) ∧ ¬ j.InTime t.now node := by
  unfold spend
  cases hl : j.timeout with
  | none => exact .inl ⟨rfl, fun _ h => nomatch h⟩
  | some limit =>
    by_cases hlt : j.rounded (t.now + j.left t.now limit) < j.arrival t.now node
    · refine .inr ⟨_, if_pos hlt, fun h => ?_⟩
      exact Rat.not_lt.2 (h limit hl).2 hlt
    · refine .inl ⟨if_neg hlt, ?_⟩
      rintro _ ⟨⟩
      exact Rat.not_lt.1 hlt

/-- What a turn may come to. -/
inductive Turns (j : Journey) (t : Traveller) : Traveller × Option Ending → Prop
  | exhausted : t.walk.queue = [] → Turns j t (t, some (.stopped .exhausted))
  | halted {node : String} {q q' : List String} {t' : Traveller} {reason : StopReason} :
      t.walk.queue = node :: q → ¬ j.GoesOn t node → t'.walk = { t.walk with queue := q' } →
      reason = .cancelled ∨ reason = .timedOut →
      Turns j t (t', some (.stopped reason))
  | truncated {node : String} {q : List String} {t' : Traveller} :
      t.walk.queue = node :: q → j.GoesOn t node →
      t'.walk = (j.stride t.walk node q).1 → (j.stride t.walk node q).2 = true →
      Turns j t (t', some (.stopped .truncated))
  | onward {node : String} {q : List String} {t' : Traveller} :
      t.walk.queue = node :: q → j.GoesOn t node →
      t'.walk = (j.stride t.walk node q).1 → (j.stride t.walk node q).2 = false →
      t'.now = j.arrival t.now node → t'.cancelled = (j.cancelAt == some node) →
      Turns j t (t', none)

theorem turns (hf : ∀ node, j.fails node = false) (t : Traveller) : Turns j t (j.turn t) := by
  unfold turn advance
  cases hq : t.walk.queue with
  | nil =>
    simp only [Walk.next?, hq]
    exact .exhausted hq
  | cons node q =>
    simp only [Walk.next?, hq]
    by_cases hc : j.isCancelled t = true
    · rw [if_pos hc]
      refine .halted hq (fun hg => ?_) rfl (.inl rfl)
      simp [hg.1] at hc
    rw [if_neg hc]
    by_cases hl : j.timeout.any (j.left t.now · ≤ 0) = true
    · rw [if_pos hl]
      refine .halted hq (fun hg => ?_) rfl (.inr rfl)
      obtain ⟨limit, hlimit, hle⟩ := any_left_iff.1 hl
      exact Rat.not_lt.2 hle (hg.2.1 limit hlimit).1
    rw [if_neg hl]
    rcases spend_cases j
      { t with walk := { t.walk with queue := q }, cancelled := j.cancelAt == some node } node with
      ⟨hs, htime⟩ | ⟨latest, hs, hlate⟩
    · simp only [hs, hf node, Bool.false_eq_true, ↓reduceIte]
      by_cases hgives : j.givesUp node = true
      · rw [if_pos hgives]
        refine .halted hq (fun hg => ?_) rfl (.inr rfl)
        simp [hg.2.2] at hgives
      rw [if_neg hgives]
      have hg : j.GoesOn t node := by
        refine ⟨by simpa using hc, fun limit hlimit => ⟨?_, htime limit hlimit⟩, by simpa using hgives⟩
        exact Rat.not_le.1 fun hle => hl (any_left_iff.2 ⟨limit, hlimit, hle⟩)
      rcases hr : j.stride t.walk node q with ⟨w, full⟩
      have habsorb := hr
      rw [stride] at habsorb
      rw [habsorb]
      cases full with
      | true => exact .truncated hq hg (by rw [hr]) (by rw [hr])
      | false => exact .onward hq hg (by simp [hr]) (by rw [hr]) (by simp) (by simp)
    · simp only [hs]
      exact .halted hq (fun hg => hlate hg.2.1) rfl (.inr rfl)

/-- A turn that expands a node. -/
theorem turn_of_goesOn (hf : ∀ node, j.fails node = false) (hq : t.walk.queue = node :: q)
    (hg : j.GoesOn t node) : ∃ t', t'.walk = (j.stride t.walk node q).1 ∧
      ((j.stride t.walk node q).2 = true ∧ j.turn t = (t', some (.stopped .truncated)) ∨
        (j.stride t.walk node q).2 = false ∧ j.turn t = (t', none) ∧
          t'.now = j.arrival t.now node ∧ t'.cancelled = (j.cancelAt == some node)) := by
  have ht := turns hf t
  generalize j.turn t = r at ht
  cases ht with
  | exhausted hq' => simp [hq'] at hq
  | halted hq' hg' =>
    obtain ⟨rfl, rfl⟩ := List.cons.inj (hq.symm.trans hq')
    exact absurd hg hg'
  | truncated hq' _ hw hfull =>
    obtain ⟨rfl, rfl⟩ := List.cons.inj (hq.symm.trans hq')
    exact ⟨_, hw, .inl ⟨hfull, rfl⟩⟩
  | onward hq' _ hw hfull hnow hcancelled =>
    obtain ⟨rfl, rfl⟩ := List.cons.inj (hq.symm.trans hq')
    exact ⟨_, hw, .inr ⟨hfull, rfl, hnow, hcancelled⟩⟩

/-- A traveller on the way: what holds of its walk before a turn. -/
structure Underway (j : Journey) (w : Walk) : Prop where
  sound : Walk.Sound j.bounds j.start j.nextOf false w
  ready : w.Ready

theorem underway_setOut (j : Journey) : j.Underway j.setOut.walk :=
  ⟨Walk.Sound.start _ _ _, Walk.ready_start _⟩

namespace Underway

variable {w : Walk}

theorem keys (h : j.Underway w) (hq : w.queue = node :: q) :
    w.depths.keys = w.expanded ++ node :: q := by
  rw [h.ready, hq]

/-- The walk behind one more expansion. -/
theorem stride (h : j.Underway w) (hq : w.queue = node :: q) :
    Walk.Sound j.bounds j.start j.nextOf (j.stride w node q).2 (j.stride w node q).1 ∧
      (j.stride w node q).1.Ready ∧ (j.stride w node q).1.expanded = w.expanded ++ [node] ∧
      w.depths.entries <+: (j.stride w node q).1.depths.entries ∧
      w.detector.cycles <+: (j.stride w node q).1.detector.cycles := by
  have ha := (h.sound.requeue q).absorb (h.keys hq) (j.nextOf node)
  rw [Function.update_eq_self] at ha
  exact ha

end Underway

theorem mem_reachable {d : Nat} (h : Reaches j.nextOf j.start d v) : v ∈ j.reachable := by
  unfold reachable
  cases h with
  | root => exact List.mem_cons_self
  | @step d u _ _ hv =>
    refine List.mem_cons_of_mem _ (List.mem_flatten.2 ?_)
    cases hg : j.neighbours.get? u with
    | none => simp [nextOf, hg] at hv
    | some ns => exact ⟨ns, Table.mem_values_iff.2 ⟨u, hg⟩, by simpa [nextOf, hg] using hv⟩

theorem length_expanded_le {w : Walk} {full : Bool}
    (h : Walk.Sound j.bounds j.start j.nextOf full w) : w.expanded.length ≤ j.reachable.length := by
  have hnodup : w.expanded.Nodup := List.Nodup.sublist h.expanded.sublist w.depths.nodup_keys
  exact (hnodup.subperm fun v hv => mem_reachable (h.reaches (h.mem_keys hv))).length_le

/-- Whether no limit but the depth and the ceiling may stop a journey. -/
structure Unhindered (j : Journey) : Prop where
  timeout : j.timeout = none
  cancelBefore : j.cancelBefore = false
  cancelAt : j.cancelAt = none
  cancelTime : j.cancelTime = none
  givesUp : ∀ node, j.givesUp node = false

/-- How a journey ends: with what holds of its walk, and why. -/
structure Ends (j : Journey) (w : Walk) (reason : StopReason) : Prop where
  sound : Walk.Sound j.bounds j.start j.nextOf (decide (reason = .truncated)) w
  exhausted : reason = .exhausted → w.expanded = w.depths.keys
  hindered : reason = .cancelled ∨ reason = .timedOut → ¬ j.Unhindered

namespace Ends

variable {w : Walk} {reason : StopReason}

theorem reason_of_unhindered (h : j.Ends w reason) (hu : j.Unhindered) :
    reason = .exhausted ∨ reason = .truncated := by
  cases reason with
  | exhausted => exact .inl rfl
  | truncated => exact .inr rfl
  | timedOut => exact absurd hu (h.hindered (.inr rfl))
  | cancelled => exact absurd hu (h.hindered (.inl rfl))

theorem frontier_eq_nil (h : j.Ends w .exhausted) : w.frontier = [] := by
  have hkeys := h.sound.keys_eq
  rw [h.exhausted rfl] at hkeys
  exact List.self_eq_append_right.1 hkeys

/-- The ceiling is hit exactly if more nodes are in range than it allows. -/
theorem truncated_iff (h : j.Ends w reason) (hu : j.Unhindered) {m : Nat} (hm : 1 ≤ m)
    (hmax : j.bounds.maxNodes = some m) (hfin : {v | InRange j.bounds j.nextOf j.start v}.Finite) :
    reason = .truncated ↔ m < {v | InRange j.bounds j.nextOf j.start v}.ncard := by
  rcases h.reason_of_unhindered hu with rfl | rfl
  · have hsize := h.sound.size m hmax
    rw [h.sound.setOf_inRange (h.exhausted rfl), Walk.Sound.ncard_keys]
    simp only [reduceCtorEq, false_iff]
    omega
  · simpa using h.sound.lt_ncard hmax hfin

end Ends

theorem goesOn_of_unhindered (h : j.Unhindered) (hc : t.cancelled = false) : j.GoesOn t node := by
  refine ⟨by simp [isCancelled, hc, h.cancelTime], fun limit hl => ?_, h.givesUp node⟩
  rw [h.timeout] at hl
  contradiction

/-- A journey ends within its fuel. -/
theorem travel_ends (hf : ∀ node, j.fails node = false) (h : j.Underway t.walk)
    (hc : j.Unhindered → t.cancelled = false)
    (hfuel : j.reachable.length < fuel + t.walk.expanded.length) :
    ∃ reason, (j.travel fuel t).2 = .stopped reason ∧ j.Ends (j.travel fuel t).1.walk reason := by
  induction fuel generalizing t with
  | zero =>
    have := length_expanded_le h.sound
    omega
  | succ fuel ih =>
    have ht := turns hf t
    unfold travel
    generalize j.turn t = r at ht
    cases ht with
    | exhausted hq =>
      refine ⟨_, rfl, h.sound, fun _ => ?_, by simp⟩
      rw [h.ready, hq, List.append_nil]
    | @halted node q q' t' reason hq hg hw hreason =>
      have hnot : reason ≠ .truncated ∧ reason ≠ .exhausted := by
        rcases hreason with rfl | rfl <;> simp
      refine ⟨_, rfl, ?_, fun hr => absurd hr hnot.2, fun _ hu => ?_⟩
      · rw [hw, decide_eq_false hnot.1]
        exact h.sound.requeue _
      · exact hg (goesOn_of_unhindered hu (hc hu))
    | truncated hq hg hw hfull =>
      obtain ⟨hsound, -⟩ := h.stride hq
      rw [← hw, hfull] at hsound
      exact ⟨_, rfl, hsound, by simp, by simp⟩
    | onward hq hg hw hfull _ hcancelled =>
      obtain ⟨hsound, hready, hexp, -, -⟩ := h.stride hq
      rw [← hw] at hsound hready hexp
      rw [hfull] at hsound
      refine ih ⟨hsound, hready⟩ (fun hu => by simp [hcancelled, hu.cancelAt]) ?_
      rw [hexp, List.length_append, List.length_singleton]
      omega

/-- What was discovered and found stays. -/
theorem travel_grows (hf : ∀ node, j.fails node = false) (h : j.Underway t.walk) (fuel : Nat) :
    t.walk.depths.entries <+: (j.travel fuel t).1.walk.depths.entries ∧
      t.walk.detector.cycles <+: (j.travel fuel t).1.walk.detector.cycles := by
  induction fuel generalizing t with
  | zero => exact ⟨List.prefix_rfl, List.prefix_rfl⟩
  | succ fuel ih =>
    have ht := turns hf t
    unfold travel
    generalize j.turn t = r at ht
    cases ht with
    | exhausted => exact ⟨List.prefix_rfl, List.prefix_rfl⟩
    | halted _ _ hw =>
      rw [hw]
      exact ⟨List.prefix_rfl, List.prefix_rfl⟩
    | truncated hq _ hw =>
      obtain ⟨-, -, -, hentries, hcycles⟩ := h.stride hq
      rw [hw]
      exact ⟨hentries, hcycles⟩
    | onward hq _ hw hfull =>
      obtain ⟨hsound, hready, -, hentries, hcycles⟩ := h.stride hq
      rw [← hw] at hsound hready hentries hcycles
      rw [hfull] at hsound
      obtain ⟨hentries', hcycles'⟩ := ih ⟨hsound, hready⟩
      exact ⟨hentries.trans hentries', hcycles.trans hcycles'⟩

/-- Where all that waits is at the depth limit, nothing is discovered any more. -/
theorem travel_of_endsAt (hf : ∀ node, j.fails node = false) (fuel : Nat)
    (h : ∀ u ∈ t.walk.queue, j.bounds.EndsAt (t.walk.depth u)) :
    (j.travel fuel t).1.walk.depths = t.walk.depths := by
  induction fuel generalizing t with
  | zero => rfl
  | succ fuel ih =>
    have ht := turns hf t
    have hstride : ∀ node q, t.walk.queue = node :: q →
        (j.stride t.walk node q).1.depths = t.walk.depths ∧ (j.stride t.walk node q).1.queue = q :=
      fun node q hq => Walk.absorb_of_endsAt { t.walk with queue := q } (h node (by simp [hq])) _
    unfold travel
    generalize j.turn t = r at ht
    cases ht with
    | exhausted => rfl
    | halted _ _ hw => simp only [hw]
    | truncated hq _ hw => simp only [hw, (hstride _ _ hq).1]
    | @onward node q t' hq _ hw =>
      obtain ⟨hdepths, hqueue⟩ := hstride _ _ hq
      rw [← hw] at hdepths hqueue
      refine (ih fun u hu => ?_).trans hdepths
      have hdepth : t'.walk.depth u = t.walk.depth u := by simp [Walk.depth, hdepths]
      rw [hqueue] at hu
      rw [hdepth]
      exact h u (by simp [hq, hu])

end Journey

end Coselect.Graph
