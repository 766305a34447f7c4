import Coselect.Proofs.Graph.Journey

/-! Reports of progress. Between two of them lies at least the interval, each tells how the walk stands
at its time, and whoever listens, whether it fails or not, has no part in how the walk goes. -/

namespace Coselect.Graph

/-- What a report tells of a traveller. -/
def Traveller.progress (t : Traveller) : Progress := ⟨t.walk.depths.size, t.walk.queue.length⟩

/-- The traveller with the reports of another one. -/
def Traveller.reporting (t t' : Traveller) : Traveller :=
  { t with lastReport := t'.lastReport, reports := t'.reports, unheard := t'.unheard }

namespace Journey

variable {j : Journey} {t t' : Traveller} {node : String} {q : List String} {e : Ending} {fuel : Nat}

/-- The travellers behind the turns at which progress is reported. -/
def stops (j : Journey) : Nat → Traveller → List Traveller
  | 0, _ => []
  | fuel + 1, t =>
    match j.turn t with
    | (_, some _) => []
    | (t', none) => if t'.reports = t.reports then j.stops fuel t' else t' :: j.stops fuel t'

/-- Where progress is reported in the course of the whole walk. -/
def reported (j : Journey) : List Traveller := j.stops (j.reachable.length + 1) j.setOut

/-- The journey with another interval of reports, if any, and another listener. -/
def heardBy (j : Journey) (interval : Option Rat) (hears : Progress → Except String Unit) : Journey :=
  { j with interval, hears }

variable {interval : Option Rat} {hears : Progress → Except String Unit}

/-! ### One turn -/

@[simp] theorem reports_tell (p : Progress) : (j.tell t p).reports = t.reports ++ [p] := by
  unfold tell
  split <;> rfl

@[simp] theorem lastReport_tell (p : Progress) : (j.tell t p).lastReport = t.lastReport := by
  unfold tell
  split <;> rfl

/-- A report is made where the interval has passed since the last one, and nowhere else. -/
theorem report_cases (j : Journey) (t : Traveller) :
    (j.report t).reports = t.reports ∧ (j.report t).lastReport = t.lastReport ∨
      (j.report t).reports = t.reports ++ [t.progress] ∧ (j.report t).lastReport = t.now ∧
        ∀ interval, j.interval = some interval → interval ≤ j.rounded (t.now - t.lastReport) := by
  unfold report
  cases hinterval : j.interval with
  | none => exact .inl ⟨rfl, rfl⟩
  | some interval =>
    simp only
    split
    next hpassed =>
      refine .inr ⟨by simp [Traveller.progress], by simp, ?_⟩
      rintro _ ⟨⟩
      exact hpassed
    next => exact .inl ⟨rfl, rfl⟩

theorem spend_reporting (j : Journey) (t t' : Traveller) (node : String) :
    j.spend (t.reporting t') node = ((j.spend t node).1.reporting t', (j.spend t node).2) := by
  unfold spend
  cases j.timeout with
  | none => rfl
  | some limit =>
    dsimp only [Traveller.reporting]
    split <;> rfl

/-- An expansion depends on nothing of the reports and adds none. -/
theorem advance_reporting (j : Journey) (t t' : Traveller) :
    j.advance (t.reporting t') = ((j.advance t).1.reporting t', (j.advance t).2) := by
  have hwalk : (t.reporting t').walk = t.walk := rfl
  have hnow : (t.reporting t').now = t.now := rfl
  have hcancelled : j.isCancelled (t.reporting t') = j.isCancelled t := rfl
  unfold advance
  rw [hwalk, hnow, hcancelled]
  cases t.walk.next? with
  | none => rfl
  | some next =>
    obtain ⟨node, walk⟩ := next
    have hspend :=
      spend_reporting j { t with walk, cancelled := j.cancelAt == some node } t' node
    simp only [Traveller.reporting] at hspend ⊢
    rw [hspend]
    by_cases hc : j.isCancelled t = true
    · rw [if_pos hc, if_pos hc]
    rw [if_neg hc, if_neg hc]
    by_cases hl : j.timeout.any (j.left t.now · ≤ 0) = true
    · rw [if_pos hl, if_pos hl]
    rw [if_neg hl, if_neg hl]
    rcases j.spend { t with walk, cancelled := j.cancelAt == some node } node with ⟨t₁, inTime⟩
    cases inTime with
    | false => rfl
    | true =>
      dsimp only
      split
      next => rfl
      next =>
        split
        next => rfl
        next => split <;> rfl

theorem advance_heardBy : (j.heardBy interval hears).advance t = j.advance t := rfl

theorem reports_advance (j : Journey) (t : Traveller) :
    (j.advance t).1.reports = t.reports ∧ (j.advance t).1.lastReport = t.lastReport := by
  have hsame : j.advance t = ((j.advance t).1.reporting t, (j.advance t).2) := advance_reporting j t t
  rw [hsame]
  exact ⟨rfl, rfl⟩

/-- An expansion that does not end the journey takes in the neighbours of the next node. -/
theorem advance_eq_none (h : (j.advance t).2 = none) :
    ∃ node q, t.walk.queue = node :: q ∧ (j.advance t).1.walk = (j.stride t.walk node q).1 := by
  revert h
  unfold advance
  cases hq : t.walk.queue with
  | nil => simp [Walk.next?, hq]
  | cons node q =>
    simp only [Walk.next?, hq]
    split
    next => simp
    next =>
      split
      next => simp
      next =>
        intro h
        refine ⟨node, q, rfl, ?_⟩
        revert h
        rcases j.spend { t with walk := { t.walk with queue := q },
                                cancelled := j.cancelAt == some node } node with ⟨t₁, inTime⟩
        unfold stride
        rcases Walk.absorb j.bounds { t.walk with queue := q } node (j.nextOf node) with ⟨w, full⟩
        cases inTime with
        | false => simp
        | true =>
          dsimp only
          split
          next => simp
          next =>
            split
            next => simp
            next => cases full <;> simp

/-- What a turn makes of the reports: nothing, or one more at least an interval after the last one. -/
theorem turn_reports (h : j.turn t = (t', none)) :
    ∃ node q, t.walk.queue = node :: q ∧ t'.walk = (j.stride t.walk node q).1 ∧
      (t'.reports = t.reports ∧ t'.lastReport = t.lastReport ∨
        t'.reports = t.reports ++ [t'.progress] ∧ t'.lastReport = t'.now ∧
          ∀ interval, j.interval = some interval → interval ≤ j.rounded (t'.now - t.lastReport)) := by
  obtain ⟨t₁, hadvance, rfl⟩ : ∃ t₁, j.advance t = (t₁, none) ∧ t' = j.report t₁ := by
    unfold turn at h
    rcases hadvance : j.advance t with ⟨t₁, _ | e⟩
    · rw [hadvance] at h
      exact ⟨t₁, rfl, (Prod.mk.inj h).1.symm⟩
    · rw [hadvance] at h
      cases (Prod.mk.inj h).2
  obtain ⟨hreports, hlast⟩ := reports_advance j t
  obtain ⟨node, q, hq, hwalk⟩ := advance_eq_none (j := j) (t := t) (by rw [hadvance])
  rw [hadvance] at hreports hlast hwalk
  refine ⟨node, q, hq, by rw [walk_report, hwalk], ?_⟩
  have hprogress : (j.report t₁).progress = t₁.progress := by simp [Traveller.progress]
  rw [hprogress, now_report, ← hreports, ← hlast]
  exact report_cases j t₁

theorem reports_of_ended (h : j.turn t = (t', some e)) : t'.reports = t.reports := by
  unfold turn at h
  rcases hadvance : j.advance t with ⟨t₁, _ | e'⟩
  · rw [hadvance] at h
    cases (Prod.mk.inj h).2
  · rw [hadvance] at h
    have hreports := (reports_advance j t).1
    rw [hadvance] at hreports
    rw [← (Prod.mk.inj h).1, hreports]

theorem report_eq (j : Journey) (t : Traveller) : j.report t = t.reporting (j.report t) := by
  unfold report tell
  split
  next => rfl
  next =>
    split
    next => split <;> rfl
    next => rfl

/-- Whoever listens, a turn differs in its reports only. -/
theorem turn_heardBy (j : Journey) (interval : Option Rat) (hears : Progress → Except String Unit)
    (t s : Traveller) :
    ∃ s', (j.heardBy interval hears).turn (t.reporting s) =
      ((j.turn t).1.reporting s', (j.turn t).2) := by
  unfold turn
  rw [advance_heardBy, advance_reporting]
  rcases j.advance t with ⟨t₁, _ | e⟩
  · refine ⟨(j.heardBy interval hears).report (t₁.reporting s), ?_⟩
    dsimp only
    rw [report_eq _ (t₁.reporting s), report_eq j t₁]
    rfl
  · exact ⟨s, rfl⟩

/-! ### The whole walk -/

theorem ready_stride (h : t.walk.Ready) (hq : t.walk.queue = node :: q) :
    (j.stride t.walk node q).1.Ready ∧
      (j.stride t.walk node q).1.expanded = t.walk.expanded ++ [node] ∧
      t.walk.depths.size ≤ (j.stride t.walk node q).1.depths.size := by
  have hgrows := Walk.grows_absorb j.bounds { t.walk with queue := q } node (j.nextOf node)
  refine ⟨hgrows.ready ?_, hgrows.expanded, hgrows.entries.length_le⟩
  have hkeys : t.walk.depths.keys = t.walk.expanded ++ node :: q := by rw [h, hq]
  simp [Walk.Ready, hkeys]

theorem reports_travel (fuel : Nat) (t : Traveller) :
    (j.travel fuel t).1.reports = t.reports ++ (j.stops fuel t).map Traveller.progress := by
  induction fuel generalizing t with
  | zero => simp [travel, stops]
  | succ fuel ih =>
    unfold travel stops
    rcases hturn : j.turn t with ⟨t', _ | e⟩
    · obtain ⟨-, -, -, -, ⟨hreports, -⟩ | ⟨hreports, -⟩⟩ := turn_reports hturn
      · simp [ih, hreports]
      · simp [ih, hreports]
    · simp [reports_of_ended hturn]

/-- The traveller at one report and at the next one: the clock tells that the interval has passed, no
node is forgotten, and more are expanded. -/
structure Spaced (j : Journey) (interval : Rat) (t t' : Traveller) : Prop where
  passed : interval ≤ j.rounded (t'.now - t.now)
  visited : t.progress.visited ≤ t'.progress.visited
  expanded : t.walk.expanded.length < t'.walk.expanded.length

/-- From the last report on, each one is spaced from the one before. -/
theorem isChain_stops {interval : Rat} {last : Traveller} (hinterval : j.interval = some interval)
    (hlast : t.lastReport = last.now) (hready : t.walk.Ready)
    (hvisited : last.walk.depths.size ≤ t.walk.depths.size)
    (hexpanded : last.walk.expanded.length ≤ t.walk.expanded.length) (fuel : Nat) :
    (last :: j.stops fuel t).IsChain (j.Spaced interval) ∧ ∀ t' ∈ j.stops fuel t, t'.walk.Ready := by
  -- `last` is the traveller at the report before, or at the start; in between only more is visited.
  induction fuel generalizing t last with
  | zero => simp [stops]
  | succ fuel ih =>
    unfold stops
    rcases hturn : j.turn t with ⟨t', _ | e⟩
    · obtain ⟨node, q, hq, hwalk, hreports⟩ := turn_reports hturn
      obtain ⟨hready', hexpanded', hvisited'⟩ := ready_stride (j := j) hready hq
      rw [← hwalk] at hready' hexpanded' hvisited'
      have hmore := congrArg List.length hexpanded'
      rw [List.length_append, List.length_singleton] at hmore
      rcases hreports with ⟨hreports, hsame⟩ | ⟨hreports, hnow, hpassed⟩
      · simp only [hreports, if_true]
        exact ih (hsame.trans hlast) hready' (by omega) (by omega)
      · have hne : t'.reports ≠ t.reports := by simp [hreports]
        obtain ⟨hchain, hall⟩ := ih hnow hready' (Nat.le_refl _) (Nat.le_refl _)
        simp only [hne, if_false]
        refine ⟨List.isChain_cons_cons.2 ⟨⟨?_, ?_, by omega⟩, hchain⟩,
          List.forall_mem_cons.2 ⟨hready', hall⟩⟩
        · rw [← hlast]
          exact hpassed interval hinterval
        · exact hvisited.trans hvisited'
    · simp

theorem travel_heardBy (j : Journey) (interval : Option Rat) (hears : Progress → Except String Unit)
    (fuel : Nat) (t s : Traveller) :
    ∃ s', (j.heardBy interval hears).travel fuel (t.reporting s) =
      ((j.travel fuel t).1.reporting s', (j.travel fuel t).2) := by
  induction fuel generalizing t s with
  | zero => exact ⟨s, rfl⟩
  | succ fuel ih =>
    obtain ⟨s', hturn⟩ := j.turn_heardBy interval hears t s
    unfold travel
    rw [hturn]
    rcases j.turn t with ⟨t', _ | e⟩
    · exact ih t' s'
    · exact ⟨s', rfl⟩

/-- Whoever listens, the walk comes to the same end. -/
theorem run_heardBy (j : Journey) (interval : Option Rat) (hears : Progress → Except String Unit) :
    (j.heardBy interval hears).run.1.walk = j.run.1.walk ∧
      (j.heardBy interval hears).run.2 = j.run.2 := by
  obtain ⟨s, hrun⟩ := j.travel_heardBy interval hears
    (j.reachable.length + 1) j.setOut j.setOut
  have hsame : (j.heardBy interval hears).run = (j.run.1.reporting s, j.run.2) := hrun
  rw [hsame]
  exact ⟨rfl, rfl⟩

/-- Progress is first reported when the clock tells that an interval has passed since the start, and
then again when one has passed since the last report. A report counts as visited the nodes that wait
and those expanded so far; from one report to the next no visited node is lost and more are expanded.
With another interval, a listener that fails or none at all, the walk comes to the same end. -/
theorem reports_are_spaced {interval : Rat} (hinterval : j.interval = some interval) :
    j.run.1.reports = j.reported.map Traveller.progress ∧
    (j.setOut :: j.reported).IsChain (j.Spaced interval) ∧
    (∀ t ∈ j.reported, t.progress.visited = t.progress.queued + t.walk.expanded.length) ∧
    ∀ interval' hears, (j.heardBy interval' hears).run.1.walk = j.run.1.walk ∧
      (j.heardBy interval' hears).run.2 = j.run.2 := by
  obtain ⟨hchain, hready⟩ := isChain_stops (t := j.setOut) hinterval rfl (Walk.ready_start _)
    (Nat.le_refl _) (Nat.le_refl _) (j.reachable.length + 1)
  refine ⟨reports_travel _ _, hchain, fun t ht => ?_, j.run_heardBy⟩
  have hkeys := congrArg List.length (hready t ht)
  rw [List.length_append, Table.keys, List.length_map] at hkeys
  exact hkeys.trans (Nat.add_comm _ _)

/-- A chain of nodes whose expansions take two thirds of the interval each, with a listener that fails
at every report. -/
def overheard : Journey where
  start := "a"
  neighbours := .ofList [("a", ["b"]), ("b", ["c", "d"]), ("c", ["e"])]
  cost := fun _ => 1
  interval := some (3 / 2)
  hears := fun _ => .error "busy"

theorem reports_are_spaced_overheard : overheard.interval = some (3 / 2) ∧
    overheard.run.1.reports = [⟨4, 2⟩, ⟨5, 1⟩] ∧ overheard.run.1.unheard = ["busy", "busy"] ∧
    overheard.run.1.reports = overheard.reported.map Traveller.progress ∧
    (overheard.setOut :: overheard.reported).IsChain (overheard.Spaced (3 / 2)) ∧
    (overheard.heardBy none fun _ => .ok ()).run.2 = overheard.run.2 := by
  obtain ⟨hreports, hchain, -, hsame⟩ := reports_are_spaced (j := overheard) rfl
  exact ⟨rfl, by decide +kernel, by decide +kernel, hreports, hchain, (hsame none _).2⟩

end Journey

end Coselect.Graph
