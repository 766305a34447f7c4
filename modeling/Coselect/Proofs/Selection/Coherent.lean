import Coselect.Proofs.Selection.Contribution
import Coselect.Proofs.Selection.Queues
import Coselect.Proofs.Selection.State

/-! How the records stand to the contributions while calls are under way. A contribution is
exchanged at once and the records follow file by file. Where nothing is left to do, a root
is among the selectors of a file exactly if it contributes the file, and a record about
which no root has anything left to do is as its selectors say. -/

namespace Coselect.Selection

open Coselect.Graph

variable {s : State} {u : Update} {root root' path path' : String} {j : Job} {jobs : List Job}
  {agenda : String → List Job} {c : Call}

/-- A job that is still to be done agrees with what its root contributes now. -/
def Job.Fits (s : State) (root : String) : Job → Prop
  | claim path c => s.claim? root path = some c
  | release path => s.claim? root path = none ∧ root ∈ s.selectors path

structure Coherent (s : State) (agenda : String → List Job) : Prop where
  contributions : ∀ root,
    s.contributions.get? root = (s.graphs.get? root).map (Contribution.ofGraph root)
  nodup : ∀ root, ((agenda root).map Job.path).Nodup
  fits : ∀ root, ∀ j ∈ agenda root, j.Fits s root
  selects : ∀ root path, path ∉ (agenda root).map Job.path →
    (root ∈ s.selectors path ↔ (s.claim? root path).isSome)
  selected : s.Selected
  refreshed : ∀ path r, s.records.get? path = some r →
    (∀ root, path ∉ (agenda root).map Job.path) → s.refresh path r = r

namespace Coherent

theorem empty : Coherent {} fun _ => [] := by
  constructor <;> simp [State.selectors, State.claim?, State.Selected]

theorem claim?_eq (h : Coherent s agenda) (root path : String) :
    s.claim? root path =
      (s.graphs.get? root).bind fun g => (Contribution.ofGraph root g).get? path := by
  rw [State.claim?, h.contributions]
  cases s.graphs.get? root <;> rfl

theorem kind_of_claim? (h : Coherent s agenda) {claim : Claim}
    (hc : s.claim? root path = some claim) :
    claim.kind = .autoDependency ∨ claim.kind = .autoTest := by
  rw [h.claim?_eq, Option.bind_eq_some_iff] at hc
  obtain ⟨g, -, hg⟩ := hc
  rw [Contribution.kind_of_get?_ofGraph hg]
  split <;> simp

end Coherent

/-! ### Exchanging a contribution -/

theorem records_exchange : (c.exchange s).1.records = s.records := by
  unfold Call.exchange
  split <;> rfl

theorem selectors_exchange : (c.exchange s).1.selectors path = s.selectors path := by
  simp [State.selectors, records_exchange]

theorem get?_graphs_exchange : (c.exchange s).1.graphs.get? root =
    if root = c.root then c.purpose.graph? else s.graphs.get? root := by
  cases hp : c.purpose <;> simp [Call.exchange, hp, Purpose.graph?, eq_comm]

theorem get?_contributions_exchange : (c.exchange s).1.contributions.get? root =
    if root = c.root then c.purpose.graph?.map (Contribution.ofGraph c.root)
    else s.contributions.get? root := by
  cases hp : c.purpose <;> simp [Call.exchange, hp, Purpose.graph?, eq_comm]

theorem claim?_exchange_of_ne (h : root ≠ c.root) :
    (c.exchange s).1.claim? root path = s.claim? root path := by
  simp [State.claim?, get?_contributions_exchange, h]

/-- What a root contributed, nothing if it was not applied. -/
theorem get?_getD_contributions :
    ((s.contributions.get? root).getD .empty).get? path = s.claim? root path := by
  unfold State.claim?
  cases s.contributions.get? root <;> rfl

/-- The jobs after an exchange: one for each file that the root contributes now or did before. -/
theorem mem_jobs_exchange : j ∈ (c.exchange s).2 ↔
    match j with
    | .claim path claim => (c.exchange s).1.claim? c.root path = some claim
    | .release path => (s.claim? c.root path).isSome ∧
        (c.exchange s).1.claim? c.root path = none := by
  have hkeys : ∀ path, path ∈ ((s.contributions.get? c.root).getD .empty).keys ↔
      (s.claim? c.root path).isSome := by
    intro path
    rw [Table.mem_keys_iff, get?_getD_contributions]
  have hclaim : ∀ path, (c.exchange s).1.claim? c.root path =
      c.purpose.graph?.bind fun g => (Contribution.ofGraph c.root g).get? path := by
    intro path
    rw [State.claim?, get?_contributions_exchange, if_pos rfl]
    cases c.purpose.graph? <;> rfl
  cases j with
  | claim path claim =>
    simp only [hclaim]
    cases hp : c.purpose <;> simp [Call.exchange, hp, Purpose.graph?, Table.mem_entries_iff]
  | release path =>
    simp only [hclaim]
    cases hp : c.purpose <;>
      simp [Call.exchange, hp, Purpose.graph?, hkeys, Table.contains_eq_false_iff]

theorem mem_paths_exchange : path ∈ (c.exchange s).2.map Job.path ↔
    (s.claim? c.root path).isSome ∨ ((c.exchange s).1.claim? c.root path).isSome := by
  rw [List.mem_map]
  constructor
  · rintro ⟨j, hj, rfl⟩
    cases j with
    | claim path claim => exact .inr (Option.isSome_of_eq_some (mem_jobs_exchange.1 hj))
    | release path => exact .inl (mem_jobs_exchange.1 hj).1
  · intro h
    cases hn : (c.exchange s).1.claim? c.root path with
    | some claim => exact ⟨.claim path claim, mem_jobs_exchange.2 hn, rfl⟩
    | none =>
      refine ⟨.release path, mem_jobs_exchange.2 ⟨?_, hn⟩, rfl⟩
      simpa [hn] using h

theorem nodup_jobs_exchange : ((c.exchange s).2.map Job.path).Nodup := by
  have hold : ((s.contributions.get? c.root).getD .empty).keys.Nodup := Table.nodup_keys _
  cases hp : c.purpose with
  | remove => simpa [Call.exchange, hp, Function.comp_def, Job.path] using hold
  | apply g =>
    have hnew := (Contribution.ofGraph c.root g).nodup_keys
    simp only [Call.exchange, hp, List.map_append, List.map_map, Function.comp_def, Job.path,
      List.map_id']
    refine (hold.filter _).append hnew ?_
    intro path hm hm'
    have hc := Table.contains_iff_mem_keys.2 hm'
    simpa [hc] using (List.mem_filter.1 hm).2

/-- A job of another root fits after an exchange as before. -/
theorem Job.Fits.exchange (h : j.Fits s root) (hr : root ≠ c.root) :
    j.Fits (c.exchange s).1 root := by
  cases j with
  | claim path claim => exact (claim?_exchange_of_ne hr).trans h
  | release path =>
    refine ⟨(claim?_exchange_of_ne hr).trans h.1, ?_⟩
    rw [selectors_exchange]
    exact h.2

theorem Coherent.exchange (h : Coherent s agenda) (idle : agenda c.root = []) :
    Coherent (c.exchange s).1 (Function.update agenda c.root (c.exchange s).2) where
  contributions root := by
    rw [get?_contributions_exchange, get?_graphs_exchange]
    split
    next hr => rw [hr]
    next => exact h.contributions root
  nodup :=
    (Function.forall_update_iff agenda fun _ jobs => (jobs.map Job.path).Nodup).2
      ⟨nodup_jobs_exchange, fun root _ => h.nodup root⟩
  fits := by
    rw [Function.forall_update_iff agenda fun root jobs => ∀ j ∈ jobs, j.Fits _ root]
    refine ⟨fun j hj => ?_, fun root hr j hj => (h.fits root j hj).exchange hr⟩
    have hm := mem_jobs_exchange.1 hj
    cases j with
    | claim path claim => exact hm
    | release path =>
      refine ⟨hm.2, ?_⟩
      rw [selectors_exchange, h.selects c.root path (by simp [idle])]
      exact hm.1
  selects := by
    rw [Function.forall_update_iff agenda fun root jobs => ∀ path, path ∉ jobs.map Job.path →
      (root ∈ State.selectors _ path ↔ (State.claim? _ root path).isSome)]
    simp only [selectors_exchange]
    refine ⟨fun path hp => ?_, fun root hr path hp => ?_⟩
    · rw [mem_paths_exchange, not_or] at hp
      rw [h.selects c.root path (by simp [idle])]
      simp [hp.1, hp.2]
    · rw [claim?_exchange_of_ne hr]
      exact h.selects root path hp
  selected path r hr := h.selected path r (by rwa [records_exchange] at hr)
  refreshed path r hr hp := by
    rw [records_exchange] at hr
    rw [Function.forall_update_iff agenda fun _ jobs => path ∉ jobs.map Job.path,
      mem_paths_exchange, not_or] at hp
    obtain ⟨⟨hbefore, hafter⟩, hothers⟩ := hp
    have hold : ∀ root, path ∉ (agenda root).map Job.path := by
      intro root
      by_cases hr : root = c.root
      · simp [hr, idle]
      · exact hothers root hr
    have hclaims : ∀ root, (c.exchange s).1.claim? root path = s.claim? root path := by
      intro root
      by_cases hr : root = c.root
      · subst hr
        rw [Option.not_isSome_iff_eq_none.1 hbefore, Option.not_isSome_iff_eq_none.1 hafter]
      · exact claim?_exchange_of_ne hr
    calc (c.exchange s).1.refresh path r = s.refresh path r :=
          State.refresh_congr rfl rfl rfl fun root _ => hclaims root
      _ = r := h.refreshed path r hr hold

/-! ### Performing a job -/

@[simp] theorem contributions_perform :
    (j.perform root s u).1.contributions = s.contributions := by
  cases j <;> simp [Job.perform]

@[simp] theorem graphs_perform : (j.perform root s u).1.graphs = s.graphs := by
  cases j <;> simp [Job.perform]

@[simp] theorem claim?_perform :
    (j.perform root s u).1.claim? root' path = s.claim? root' path := by
  simp [State.claim?]

theorem get?_records_perform_of_ne (h : path ≠ j.path) :
    (j.perform root s u).1.records.get? path = s.records.get? path := by
  cases j with
  | claim => exact State.get?_records_claim_of_ne h
  | release => exact State.get?_records_release_of_ne h

theorem selectors_perform_of_ne (h : path ≠ j.path) :
    (j.perform root s u).1.selectors path = s.selectors path := by
  simp [State.selectors, get?_records_perform_of_ne h]

/-- A job touches the selection of one root only. -/
theorem mem_selectors_perform_of_ne (h : root' ≠ root) :
    root' ∈ (j.perform root s u).1.selectors path ↔ root' ∈ s.selectors path := by
  by_cases hp : path = j.path
  · cases j with
    | claim path' c =>
      change path = path' at hp
      simp [Job.perform, State.selectors_claim, hp, h]
    | release path' =>
      change path = path' at hp
      simp [Job.perform, State.selectors_release, hp, h]
  · rw [selectors_perform_of_ne hp]

/-- After its job a root selects a file exactly if it contributes the file. -/
theorem mem_selectors_perform (h : j.Fits s root) :
    root ∈ (j.perform root s u).1.selectors j.path ↔ (s.claim? root j.path).isSome := by
  cases j with
  | claim path c =>
    change s.claim? root path = some c at h
    simp [Job.perform, Job.path, State.selectors_claim, h]
  | release path =>
    simp [Job.perform, Job.path, State.selectors_release, h.1]

theorem selected_perform (h : s.Selected) : (j.perform root s u).1.Selected := by
  cases j with
  | claim => exact h.claim
  | release => exact h.release

/-- Another job fits after one as before, unless both are about the same file and root. -/
theorem Job.Fits.perform {j' : Job} (h : j'.Fits s root') (hne : root' = root → j'.path ≠ j.path) :
    j'.Fits (j.perform root s u).1 root' := by
  cases j' with
  | claim path claim => exact claim?_perform.trans h
  | release path =>
    refine ⟨claim?_perform.trans h.1, ?_⟩
    by_cases hr : root' = root
    · have hpath : path ≠ j.path := hne hr
      rw [selectors_perform_of_ne hpath]
      exact h.2
    · rw [mem_selectors_perform_of_ne hr]
      exact h.2

theorem Coherent.perform (h : Coherent s agenda) (hb : agenda root = j :: jobs) :
    Coherent (j.perform root s u).1 (Function.update agenda root jobs) := by
  have hnd := h.nodup root
  rw [hb, List.map_cons, List.nodup_cons] at hnd
  have hfit : j.Fits s root := h.fits root j (by simp [hb])
  constructor
  case contributions => simpa using h.contributions
  case nodup =>
    exact (Function.forall_update_iff agenda fun _ jobs => (jobs.map Job.path).Nodup).2
      ⟨hnd.2, fun root' _ => h.nodup root'⟩
  case fits =>
    rw [Function.forall_update_iff agenda fun root jobs => ∀ j ∈ jobs, j.Fits _ root]
    refine ⟨fun j' hj' => ?_, fun root' hr j' hj' => ?_⟩
    · exact (h.fits root j' (by simp [hb, hj'])).perform fun _ he =>
        hnd.1 (he ▸ List.mem_map_of_mem hj')
    · exact (h.fits root' j' hj').perform fun he => absurd he hr
  case selects =>
    rw [Function.forall_update_iff agenda fun root jobs => ∀ path, path ∉ jobs.map Job.path →
      (root ∈ State.selectors _ path ↔ (State.claim? _ root path).isSome)]
    simp only [claim?_perform]
    refine ⟨fun path hp => ?_, fun root' hr path hp => ?_⟩
    · by_cases hj : path = j.path
      · subst hj
        exact mem_selectors_perform hfit
      · rw [selectors_perform_of_ne hj]
        exact h.selects root path (by simp [hb, hp, hj])
    · rw [mem_selectors_perform_of_ne hr]
      exact h.selects root' path hp
  case selected => exact selected_perform h.selected
  case refreshed =>
    intro path r hr hp
    by_cases hj : path = j.path
    · subst hj
      cases j with
      | claim path c => exact State.refreshed_claim hfit (h.kind_of_claim? hfit) hr
      | release path => exact State.refreshed_release hfit.2 hr
    · rw [get?_records_perform_of_ne hj] at hr
      rw [Function.forall_update_iff agenda fun _ jobs => path ∉ jobs.map Job.path] at hp
      have hold : ∀ root', path ∉ (agenda root').map Job.path := by
        intro root'
        by_cases hr : root' = root
        · simp [hr, hb, hj, hp.1]
        · exact hp.2 root' hr
      calc (j.perform root s u).1.refresh path r = s.refresh path r :=
            State.refresh_congr rfl rfl rfl fun _ _ => claim?_perform
        _ = r := h.refreshed path r hr hold

end Coselect.Selection
