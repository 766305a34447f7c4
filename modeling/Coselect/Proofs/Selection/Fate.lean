import Coselect.Proofs.Selection.Coherent

/-! What an update tells about each file. A file meets one of four fates in a change: nothing is
done about it, it comes to be selected, it stays selected, or it goes. The jobs of a call are
about different files, so each job settles the fate of its own file and leaves the others'. -/

namespace Coselect.Selection

open Coselect.Graph

namespace Update

/-- What becomes of a file whose record is `before` and then `after`, and what an update says
about it. -/
inductive Fate (u : Update) (path : String) : Option Record → Option Record → Prop
  | untouched {r} : path ∉ u.added → path ∉ u.removed → u.metadata.get? path = none →
      Fate u path r r
  | appeared {r} : path ∈ u.added → path ∉ u.removed → u.metadata.get? path = some r →
      Fate u path none (some r)
  | stayed {r r'} : path ∉ u.added → path ∉ u.removed → u.metadata.get? path = some r' →
      Fate u path (some r) (some r')
  | vanished {r r'} : path ∉ u.added → path ∈ u.removed → u.metadata.get? path = some r' →
      r'.selectedBy = [] → Fate u path (some r) none

/-- An update that tells the whole change between two tables of records. -/
structure Tells (u : Update) (before after : Table String Record) : Prop where
  added_nodup : u.added.Nodup
  removed_nodup : u.removed.Nodup
  mem_added : ∀ path, path ∈ u.added ↔ (after.get? path).isSome ∧ before.get? path = none
  mem_removed : ∀ path, path ∈ u.removed ↔ (before.get? path).isSome ∧ after.get? path = none
  touched : ∀ path, after.get? path ≠ before.get? path → u.metadata.contains path = true
  selected : ∀ path r, u.metadata.contains path = true → after.get? path = some r →
    u.metadata.get? path = some r
  deselected : ∀ path ∈ u.removed, ∃ r, u.metadata.get? path = some r ∧ r.selectedBy = []

/-- A client's copy of the records with an update: what was touched is stored anew, and what
was removed is dropped. -/
def onto (u : Update) (copy : Table String Record) : Table String Record :=
  (u.metadata.entries.foldl (fun t (path, r) => t.insert path r) copy).keep (!u.removed.contains ·)

variable {u u' v : Update} {path : String} {before mid after : Option Record}
  {b m a : Table String Record}

namespace Fate

theorem of_empty (path : String) (r : Option Record) : Fate {} path r r :=
  .untouched (by simp) (by simp) rfl

theorem congr (h : u.Fate path before after) (hadded : path ∈ u'.added ↔ path ∈ u.added)
    (hremoved : path ∈ u'.removed ↔ path ∈ u.removed)
    (hmetadata : u'.metadata.get? path = u.metadata.get? path) : u'.Fate path before after := by
  cases h with
  | untouched ha hr hm => exact .untouched (hadded.not.2 ha) (hremoved.not.2 hr) (hmetadata.trans hm)
  | appeared ha hr hm => exact .appeared (hadded.2 ha) (hremoved.not.2 hr) (hmetadata.trans hm)
  | stayed ha hr hm => exact .stayed (hadded.not.2 ha) (hremoved.not.2 hr) (hmetadata.trans hm)
  | vanished ha hr hm he =>
    exact .vanished (hadded.not.2 ha) (hremoved.2 hr) (hmetadata.trans hm) he

/-- What an update does not touch it does not change. -/
theorem eq_of_get?_metadata (h : u.Fate path before after) (hm : u.metadata.get? path = none) :
    path ∉ u.added ∧ path ∉ u.removed ∧ after = before := by
  cases h with
  | untouched ha hr _ => exact ⟨ha, hr, rfl⟩
  | appeared _ _ h | stayed _ _ h | vanished _ _ h =>
    rw [hm] at h
    contradiction

theorem mem_added_iff (h : u.Fate path before after) :
    path ∈ u.added ↔ after.isSome ∧ before = none := by
  cases h with
  | untouched ha => cases before <;> simp [ha]
  | appeared ha | stayed ha | vanished ha => simp [ha]

theorem mem_removed_iff (h : u.Fate path before after) :
    path ∈ u.removed ↔ before.isSome ∧ after = none := by
  cases h with
  | untouched _ hr => cases before <;> simp [hr]
  | appeared _ hr | stayed _ hr | vanished _ hr => simp [hr]

/-- A client that has the record before the change has the one after it. -/
theorem get?_onto (h : u.Fate path before after) {copy : Table String Record}
    (hcopy : copy.get? path = before) : (u.onto copy).get? path = after := by
  have hfold : (u.metadata.entries.foldl (fun t (path, r) => t.insert path r) copy).get? path =
      (u.metadata.get? path).or (copy.get? path) := by
    have := Table.get?_foldl_entries (fun _ r => r) u.metadata copy path
    rwa [Option.map_id'] at this
  rw [onto, Table.get?_keep, hfold, hcopy]
  cases h with
  | untouched _ hr hm | appeared _ hr hm | stayed _ hr hm => simp [hr, hm]
  | vanished _ hr => simp [hr]

/-- Two changes in a row in which no file appears. -/
theorem andThen (hu : u.Fate path before mid) (hv : v.Fate path mid after)
    (hadded : path ∉ u.added) (hadded' : path ∉ v.added) : (u.andThen v).Fate path before after := by
  have hmetadata : (u.andThen v).metadata.get? path =
      (v.metadata.get? path).or (u.metadata.get? path) := by
    have := Table.get?_foldl_entries (fun _ r => r) v.metadata u.metadata path
    rwa [Option.map_id'] at this
  have hremoved : path ∈ (u.andThen v).removed ↔ path ∈ u.removed ∨ path ∈ v.removed :=
    List.mem_append
  have hnot : path ∉ (u.andThen v).added := hadded
  cases hv with
  | appeared ha => exact absurd ha hadded'
  | untouched _ hr hm =>
    rw [hm, Option.none_or] at hmetadata
    exact hu.congr Iff.rfl (hremoved.trans (or_iff_left hr)) hmetadata
  | stayed _ hr hm =>
    rw [hm, Option.some_or] at hmetadata
    cases hu with
    | appeared ha => exact absurd ha hadded
    | untouched _ hr' | stayed _ hr' =>
      exact .stayed hnot (hremoved.not.2 (not_or.2 ⟨hr', hr⟩)) hmetadata
  | vanished _ hr hm he =>
    rw [hm, Option.some_or] at hmetadata
    cases hu with
    | appeared ha => exact absurd ha hadded
    | untouched | stayed => exact .vanished hnot (hremoved.2 (.inr hr)) hmetadata he

end Fate

/-- The fates of all files make the whole change. -/
theorem tells_of_fate (hadded : u.added.Nodup) (hremoved : u.removed.Nodup)
    (h : ∀ path, u.Fate path (b.get? path) (a.get? path)) : u.Tells b a where
  added_nodup := hadded
  removed_nodup := hremoved
  mem_added path := (h path).mem_added_iff
  mem_removed path := (h path).mem_removed_iff
  touched path hne := by
    rw [Table.contains_iff, ← Option.ne_none_iff_exists']
    exact fun hm => hne ((h path).eq_of_get?_metadata hm).2.2
  selected path r hm ha := by
    obtain ⟨r', hr'⟩ := Table.contains_iff.1 hm
    have hfate := h path
    rw [ha] at hfate
    generalize b.get? path = before at hfate
    cases hfate with
    | untouched _ _ hm' =>
      rw [hm'] at hr'
      contradiction
    | appeared _ _ hm' | stayed _ _ hm' => exact hm'
  deselected path hp := by
    have hfate := h path
    obtain ⟨-, ha⟩ := hfate.mem_removed_iff.1 hp
    rw [ha] at hfate
    generalize b.get? path = before at hfate
    cases hfate with
    | untouched _ hr => exact absurd hp hr
    | vanished _ _ hm he => exact ⟨_, hm, he⟩

end Update

/-! ### The jobs of a call -/

variable {s : State} {u : Update} {root path : String} {j : Job}

/-- A job says nothing new about other files. -/
theorem perform_of_ne (h : path ≠ j.path) :
    (path ∈ (j.perform root s u).2.added ↔ path ∈ u.added) ∧
      (path ∈ (j.perform root s u).2.removed ↔ path ∈ u.removed) ∧
      (j.perform root s u).2.metadata.get? path = u.metadata.get? path := by
  cases j with
  | claim path' c =>
    change path ≠ path' at h
    simp only [Job.perform, State.claim]
    split <;> simp [h, Ne.symm h]
  | release path' =>
    change path ≠ path' at h
    simp only [Job.perform]
    obtain ⟨-, hs⟩ | ⟨r, -, -, ⟨-, hs⟩ | ⟨-, hs⟩⟩ := State.release_cases s u root path' <;> rw [hs]
    · simp
    · simp [h, Ne.symm h]
    · simp [Ne.symm h]

/-- A job settles the fate of its file. -/
theorem fate_perform (hadded : j.path ∉ u.added) (hremoved : j.path ∉ u.removed)
    (hm : u.metadata.get? j.path = none) :
    (j.perform root s u).2.Fate j.path (s.records.get? j.path)
      ((j.perform root s u).1.records.get? j.path) := by
  cases j with
  | claim path c =>
    simp only [Job.perform, Job.path, State.claim] at *
    cases hr : s.records.get? path with
    | none => simpa using .appeared (by simp) hremoved (by simp)
    | some r => simpa using .stayed hadded hremoved (by simp)
  | release path =>
    simp only [Job.perform, Job.path] at *
    obtain ⟨-, hs⟩ | ⟨r, hr, -, ⟨he, hs⟩ | ⟨-, hs⟩⟩ := State.release_cases s u root path <;> rw [hs]
    · exact .untouched hadded hremoved hm
    · simpa [hr] using .vanished (by simp [hadded]) (by simp) (by simp) he
    · simpa [hr] using .stayed hadded hremoved (by simp)

theorem nodup_perform (h : u.added.Nodup ∧ u.removed.Nodup) :
    (j.perform root s u).2.added.Nodup ∧ (j.perform root s u).2.removed.Nodup := by
  cases j with
  | claim path c =>
    simp only [Job.perform, State.claim]
    split
    next => exact ⟨h.1.insert, h.2⟩
    next => exact h
  | release path =>
    simp only [Job.perform]
    obtain ⟨-, hs⟩ | ⟨r, -, -, ⟨-, hs⟩ | ⟨-, hs⟩⟩ := State.release_cases s u root path <;> rw [hs]
    · exact h
    · exact ⟨h.1.filter _, h.2.insert⟩
    · exact h

/-- No file appears in a release. -/
theorem added_release_subset : (s.release u root path).2.added ⊆ u.added := by
  obtain ⟨-, hs⟩ | ⟨r, -, -, ⟨-, hs⟩ | ⟨-, hs⟩⟩ := State.release_cases s u root path <;> rw [hs]
  · exact List.Subset.refl _
  · exact List.filter_subset_self _
  · exact List.Subset.refl _

end Coselect.Selection
