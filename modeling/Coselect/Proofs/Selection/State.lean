import Mathlib.Data.List.Nodup
import Mathlib.Order.Bounds.Basic
import Mathlib.Order.MinMax
import Coselect.Proofs.Table
import Coselect.Selection.State

/-! What letting a root select a file, and taking that back, does to the records: only the
record of that file changes, its selectors gain or lose that root, and its depth and kind
are again what its selectors say. -/

namespace Coselect.Selection

/-- A record without one of its selectors. -/
def Record.without (r : Record) (root : String) : Record :=
  { r with selectedBy := r.selectedBy.filter (· ≠ root) }

namespace State

open Coselect.Graph

variable {s s' : State} {u : Update} {root root' path path' : String} {c : Claim} {r r' : Record}

/-- What one root says about a file. -/
def claim? (s : State) (root path : String) : Option Claim :=
  (s.contributions.get? root).bind (·.get? path)

/-- The roots in the record of a file. -/
def selectors (s : State) (path : String) : List String :=
  ((s.records.get? path).map (·.selectedBy)).getD []

theorem selectors_of_get? (h : s.records.get? path = some r) : s.selectors path = r.selectedBy := by
  simp [selectors, h]

theorem claims_eq (s : State) (roots : List String) (path : String) :
    s.claims roots path = roots.filterMap (s.claim? · path) := rfl

theorem mem_claims : c ∈ s.claims r.selectedBy path ↔
    ∃ root ∈ r.selectedBy, s.claim? root path = some c := by
  rw [claims_eq, List.mem_filterMap]

/-! ### Refreshing -/

@[simp] theorem refresh_selectedBy : (s.refresh path r).selectedBy = r.selectedBy := by
  unfold refresh
  split <;> rfl

/-- A refreshed record shows nothing of the state but what its selectors say about the file. -/
theorem refresh_congr (hr : r.selectedBy = r'.selectedBy) (hd : r.depth = r'.depth)
    (hk : r.kind = r'.kind)
    (hc : ∀ root ∈ r.selectedBy, s.claim? root path = s'.claim? root path) :
    s.refresh path r = s'.refresh path r' := by
  have hcs : s.claims r.selectedBy path = s'.claims r'.selectedBy path := by
    rw [claims_eq, claims_eq, ← hr]
    exact List.filterMap_congr hc
  obtain ⟨sel, d, k⟩ := r
  obtain ⟨sel', d', k'⟩ := r'
  subst hr hd hk
  unfold refresh
  rw [hcs]

theorem refresh_refresh : s.refresh path (s.refresh path r) = s.refresh path r := by
  cases hc : s.claims r.selectedBy path with
  | nil =>
    have : s.refresh path r = r := by simp [refresh, hc]
    rw [this, this]
  | cons c cs => simp [refresh, hc]

theorem isLeast_leastDepth (cs : List Claim) (d : Nat) :
    IsLeast {k | k = d ∨ ∃ c ∈ cs, c.depth = k} (leastDepth cs d) := by
  induction cs generalizing d with
  | nil => simp [leastDepth, IsLeast, lowerBounds]
  | cons c cs ih =>
    obtain ⟨hm, hl⟩ := ih (min c.depth d)
    refine ⟨?_, ?_⟩
    · rcases hm with hm | ⟨c', hc', hm⟩
      · rw [leastDepth, hm]
        rcases min_choice c.depth d with h | h <;> rw [h]
        · exact .inr ⟨c, List.mem_cons_self, rfl⟩
        · exact .inl rfl
      · exact .inr ⟨c', List.mem_cons_of_mem _ hc', hm⟩
    · rintro k (rfl | ⟨c', hc', rfl⟩)
      · exact (hl (.inl rfl)).trans (min_le_right _ _)
      · rcases List.mem_cons.1 hc' with rfl | hc'
        · exact (hl (.inl rfl)).trans (min_le_left _ _)
        · exact hl (.inr ⟨c', hc', rfl⟩)

/-- What a record says that refreshing does not change. -/
theorem depth_and_kind_of_refresh_eq (h : s.refresh path r = r) (hr : root ∈ r.selectedBy)
    (hc : s.claim? root path = some c) :
    IsLeast {d | ∃ root ∈ r.selectedBy, ∃ c, s.claim? root path = some c ∧ c.depth = d} r.depth ∧
      (r.kind = .autoDependency ↔
        ∃ root ∈ r.selectedBy, ∃ c, s.claim? root path = some c ∧ c.kind = .autoDependency) ∧
      (r.kind = .autoDependency ∨ r.kind = .autoTest) := by
  have hmem : c ∈ s.claims r.selectedBy path := mem_claims.2 ⟨root, hr, hc⟩
  cases hcs : s.claims r.selectedBy path with
  | nil => rw [hcs] at hmem; contradiction
  | cons c₀ cs =>
    have hset : ∀ P : Claim → Prop, (∃ root ∈ r.selectedBy, ∃ c, s.claim? root path = some c ∧ P c) ↔
        P c₀ ∨ ∃ c ∈ cs, P c := by
      intro P
      rw [← List.exists_mem_cons_iff, ← hcs]
      simp only [mem_claims]
      grind
    have hrefresh : r = s.refresh path r := h.symm
    simp only [refresh, hcs] at hrefresh
    have hdepth := congrArg Record.depth hrefresh
    have hkind := congrArg Record.kind hrefresh
    simp only at hdepth hkind
    refine ⟨?_, ?_, ?_⟩
    · have hl := isLeast_leastDepth cs c₀.depth
      rw [← hdepth] at hl
      simp only [hset]
      rwa [show {k | k = c₀.depth ∨ ∃ c ∈ cs, c.depth = k} =
        {k | c₀.depth = k ∨ ∃ c ∈ cs, c.depth = k} by simp only [eq_comm (a := c₀.depth)]] at hl
    · rw [hset, hkind]
      simp [or_iff_not_imp_left]
    · rw [hkind]
      split <;> simp

/-- Every record names a selector, and none twice. -/
def Selected (s : State) : Prop :=
  ∀ path r, s.records.get? path = some r → r.selectedBy ≠ [] ∧ r.selectedBy.Nodup

theorem Selected.nodup (h : s.Selected) (path : String) : (s.selectors path).Nodup := by
  cases hr : s.records.get? path with
  | none => simp [selectors, hr]
  | some r => rw [selectors_of_get? hr]; exact (h path r hr).2

/-! ### Selecting a file -/

@[simp] theorem contributions_claim :
    (s.claim u root path c).1.contributions = s.contributions := by
  unfold claim
  split <;> rfl

@[simp] theorem graphs_claim : (s.claim u root path c).1.graphs = s.graphs := by
  unfold claim
  split <;> rfl

@[simp] theorem claim?_claim : (s.claim u root path c).1.claim? root' path' = s.claim? root' path' := by
  simp [claim?]

theorem get?_records_claim_of_ne (h : path' ≠ path) :
    (s.claim u root path c).1.records.get? path' = s.records.get? path' := by
  unfold claim
  split <;> simp [Ne.symm h]

theorem selectors_claim : (s.claim u root path c).1.selectors path' =
    if path' = path then (s.selectors path).insert root else s.selectors path' := by
  by_cases h : path' = path
  · subst h
    unfold claim selectors
    split
    next hn => simp [hn]
    next r hr => simp [hr]
  · simp [selectors, get?_records_claim_of_ne h, h]

theorem Selected.claim (h : s.Selected) : (s.claim u root path c).1.Selected := by
  intro path' r hr
  by_cases hp : path' = path
  · have hsel := selectors_of_get? hr
    rw [selectors_claim, if_pos hp] at hsel
    rw [← hsel]
    exact ⟨List.ne_nil_of_mem List.mem_insert_self, (h.nodup path).insert⟩
  · rw [get?_records_claim_of_ne hp] at hr
    exact h path' r hr

/-- A selected file has a record as its selectors say, if the claim is what the root says. -/
theorem refreshed_claim (hc : s.claim? root path = some c)
    (hk : c.kind = .autoDependency ∨ c.kind = .autoTest)
    (h : (s.claim u root path c).1.records.get? path = some r) :
    (s.claim u root path c).1.refresh path r = r := by
  have hcongr : (s.claim u root path c).1.refresh path r = s.refresh path r :=
    refresh_congr rfl rfl rfl fun _ _ => claim?_claim
  rw [hcongr]
  unfold claim at h
  split at h
  · simp only [Table.get?_insert, ↓reduceIte, Option.some.injEq] at h
    subst h
    rcases hk with hk | hk <;> simp [refresh, claims_eq, hc, hk, leastDepth]
  · simp only [Table.get?_insert, ↓reduceIte, Option.some.injEq] at h
    subst h
    exact refresh_refresh

/-! ### Taking a selection back -/

theorem release_of_notMem (h : root ∉ s.selectors path) : s.release u root path = (s, u) := by
  unfold release
  split
  next => rfl
  next r hr =>
    rw [selectors_of_get? hr] at h
    simp [h]

/-- Without another selector the record goes. -/
theorem release_of_alone (hr : s.records.get? path = some r) (hm : root ∈ r.selectedBy)
    (he : (r.without root).selectedBy = []) :
    s.release u root path =
      ({ s with records := s.records.erase path },
        { removed := u.removed.insert path, added := u.added.filter (· ≠ path)
          metadata := u.metadata.insert path (r.without root) }) := by
  simp only [release, hr, List.contains_iff_mem.2 hm, ↓reduceIte]
  exact if_pos (List.isEmpty_iff.2 he)

/-- With another selector the record is refreshed. -/
theorem release_of_shared (hr : s.records.get? path = some r) (hm : root ∈ r.selectedBy)
    (he : (r.without root).selectedBy ≠ []) :
    s.release u root path =
      ({ s with records := s.records.insert path (s.refresh path (r.without root)) },
        { u with metadata := u.metadata.insert path (s.refresh path (r.without root)) }) := by
  simp only [release, hr, List.contains_iff_mem.2 hm, ↓reduceIte]
  exact if_neg (List.isEmpty_iff.not.2 he)

theorem release_cases (s : State) (u : Update) (root path : String) :
    (root ∉ s.selectors path ∧ s.release u root path = (s, u)) ∨
    ∃ r, s.records.get? path = some r ∧ root ∈ r.selectedBy ∧
      ((r.without root).selectedBy = [] ∧ s.release u root path =
        ({ s with records := s.records.erase path },
          { removed := u.removed.insert path, added := u.added.filter (· ≠ path)
            metadata := u.metadata.insert path (r.without root) }) ∨
      (r.without root).selectedBy ≠ [] ∧ s.release u root path =
        ({ s with records := s.records.insert path (s.refresh path (r.without root)) },
          { u with metadata := u.metadata.insert path (s.refresh path (r.without root)) })) := by
  by_cases h : root ∈ s.selectors path
  · cases hr : s.records.get? path with
    | none => simp [selectors, hr] at h
    | some r =>
      have hm : root ∈ r.selectedBy := by rwa [selectors_of_get? hr] at h
      refine .inr ⟨r, rfl, hm, ?_⟩
      by_cases he : (r.without root).selectedBy = []
      · exact .inl ⟨he, release_of_alone hr hm he⟩
      · exact .inr ⟨he, release_of_shared hr hm he⟩
  · exact .inl ⟨h, release_of_notMem h⟩

@[simp] theorem contributions_release :
    (s.release u root path).1.contributions = s.contributions := by
  obtain ⟨-, h⟩ | ⟨r, -, -, ⟨-, h⟩ | ⟨-, h⟩⟩ := release_cases s u root path <;> rw [h]

@[simp] theorem graphs_release : (s.release u root path).1.graphs = s.graphs := by
  obtain ⟨-, h⟩ | ⟨r, -, -, ⟨-, h⟩ | ⟨-, h⟩⟩ := release_cases s u root path <;> rw [h]

@[simp] theorem claim?_release :
    (s.release u root path).1.claim? root' path' = s.claim? root' path' := by
  simp [claim?]

theorem get?_records_release_of_ne (hp : path' ≠ path) :
    (s.release u root path).1.records.get? path' = s.records.get? path' := by
  obtain ⟨-, h⟩ | ⟨r, -, -, ⟨-, h⟩ | ⟨-, h⟩⟩ := release_cases s u root path <;> rw [h]
  · simp [hp]
  · simp [Ne.symm hp]

theorem selectors_release : (s.release u root path).1.selectors path' =
    if path' = path then (s.selectors path).filter (· ≠ root) else s.selectors path' := by
  by_cases hp : path' = path
  · subst hp
    rw [if_pos rfl]
    obtain ⟨hn, h⟩ | ⟨r, hr, -, ⟨he, h⟩ | ⟨-, h⟩⟩ := release_cases s u root path' <;> rw [h]
    · rw [List.filter_eq_self.2]
      intro x hx
      exact decide_eq_true fun e : x = root => hn (e ▸ hx)
    · simpa [selectors, hr, Record.without] using he
    · simp [selectors, hr, Record.without]
  · simp [selectors, get?_records_release_of_ne hp, hp]

theorem Selected.release (h : s.Selected) : (s.release u root path).1.Selected := by
  intro path' r' hr'
  obtain ⟨-, hs⟩ | ⟨r, hr, -, ⟨-, hs⟩ | ⟨hne, hs⟩⟩ := release_cases s u root path <;> rw [hs] at hr'
  · exact h path' r' hr'
  · rw [Table.get?_erase] at hr'
    split at hr'
    next => contradiction
    next => exact h path' r' hr'
  · rw [Table.get?_insert] at hr'
    split at hr'
    next =>
      cases hr'
      rw [refresh_selectedBy]
      exact ⟨hne, (h path r hr).2.filter _⟩
    next => exact h path' r' hr'

/-- What is left of a file's record is as its selectors say, if the root was one of them. -/
theorem refreshed_release (hm : root ∈ s.selectors path)
    (hr : (s.release u root path).1.records.get? path = some r) :
    (s.release u root path).1.refresh path r = r := by
  have hcongr : (s.release u root path).1.refresh path r = s.refresh path r :=
    refresh_congr rfl rfl rfl fun _ _ => claim?_release
  rw [hcongr]
  obtain ⟨hn, -⟩ | ⟨r₀, -, -, ⟨-, h⟩ | ⟨-, h⟩⟩ := release_cases s u root path
  · contradiction
  · simp [h] at hr
  · simp only [h, Table.get?_insert, ↓reduceIte, Option.some.injEq] at hr
    rw [← hr]
    exact refresh_refresh

end State

end Coselect.Selection
