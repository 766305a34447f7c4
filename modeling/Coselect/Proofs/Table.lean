import Mathlib.Data.List.Nodup
import Coselect.Table

/-! What a look-up says about the entries of a table, and how the order of the entries grows. -/

namespace Coselect.Table

variable {κ α β : Type} [DecidableEq κ]

theorem lookup_eq_some_iff {k : κ} {v : α} {es : List (κ × α)} (h : (es.map Prod.fst).Nodup) :
    lookup k es = some v ↔ (k, v) ∈ es := by
  induction es with
  | nil => simp [lookup]
  | cons e es ih =>
    obtain ⟨k', v'⟩ := e
    simp only [List.map_cons, List.nodup_cons] at h
    simp only [lookup, List.mem_cons, Prod.mk.injEq]
    split
    next hk =>
      subst hk
      have hmem : (k', v) ∉ es := fun hm => h.1 (List.mem_map_of_mem hm)
      simp [hmem, eq_comm]
    next hk => simp [ih h.2, Ne.symm hk]

theorem mem_entries_iff {t : Table κ α} {k : κ} {v : α} :
    (k, v) ∈ t.entries ↔ t.get? k = some v :=
  (lookup_eq_some_iff t.nodup_keys).symm

theorem mem_keys_iff {t : Table κ α} {k : κ} : k ∈ t.keys ↔ (t.get? k).isSome := by
  simp only [keys, List.mem_map, Prod.exists, exists_and_right, exists_eq_right, mem_entries_iff,
    Option.isSome_iff_exists]

theorem mem_values_iff {t : Table κ α} {v : α} : v ∈ t.values ↔ ∃ k, t.get? k = some v := by
  simp only [values, List.mem_map, Prod.exists, exists_eq_right, mem_entries_iff]

theorem contains_iff {t : Table κ α} {k : κ} : t.contains k = true ↔ ∃ v, t.get? k = some v := by
  simp only [contains, Option.isSome_iff_exists]

theorem contains_eq_false_iff {t : Table κ α} {k : κ} : t.contains k = false ↔ t.get? k = none := by
  simp [contains]

theorem contains_iff_mem_keys {t : Table κ α} {k : κ} : t.contains k = true ↔ k ∈ t.keys :=
  mem_keys_iff.symm

theorem get?_insert_self (t : Table κ α) (k : κ) (v : α) : (t.insert k v).get? k = some v := by
  simp

theorem get?_insertLast (t : Table κ α) (k k' : κ) (v : α) :
    (t.insertLast k v).get? k' = if k = k' then some v else t.get? k' := by
  rw [insertLast, get?_insert]
  split
  next => rfl
  next hne => rw [get?_erase, if_neg (Ne.symm hne)]

/-- A new key goes to the end. -/
theorem entries_insert_of_get?_eq_none {t : Table κ α} {k : κ} (v : α) (h : t.get? k = none) :
    (t.insert k v).entries = t.entries ++ [(k, v)] := by
  have hs : ∀ es : List (κ × α), lookup k es = none → store k v es = es ++ [(k, v)] := by
    intro es
    induction es with
    | nil => intro _; rfl
    | cons e es ih =>
      obtain ⟨k', v'⟩ := e
      intro hl
      simp only [lookup] at hl
      split at hl
      next => contradiction
      next hk => simp [store, hk, ih hl]
  exact hs t.entries h

/-- What is stored under a key comes last. -/
theorem keys_insertLast (t : Table κ α) (k : κ) (v : α) :
    (t.insertLast k v).keys = (t.erase k).keys ++ [k] := by
  have hnone : (t.erase k).get? k = none := by simp
  rw [keys, insertLast, entries_insert_of_get?_eq_none v hnone, List.map_append]
  rfl

theorem keys_erase_sublist (t : Table κ α) (k : κ) : (t.erase k).keys.Sublist t.keys :=
  List.filter_sublist.map Prod.fst

omit [DecidableEq κ] in
theorem keys_drop (t : Table κ α) (n : Nat) : (t.drop n).keys = t.keys.drop n :=
  List.map_drop ..

omit [DecidableEq κ] in
theorem length_keys (t : Table κ α) : t.keys.length = t.size := List.length_map ..

theorem size_eq_zero_of {t : Table κ α} (h : ∀ k, ¬ t.contains k = true) : t.size = 0 := by
  rw [← length_keys, List.length_eq_zero_iff, List.eq_nil_iff_forall_not_mem]
  exact fun k hk => h k (contains_iff_mem_keys.2 hk)

theorem get?_of_get?_drop {t : Table κ α} {n : Nat} {k : κ} {v : α}
    (h : (t.drop n).get? k = some v) : t.get? k = some v :=
  mem_entries_iff.1 (List.mem_of_mem_drop (mem_entries_iff.2 h))

/-- Storing one value under each key of a list. -/
theorem get?_foldl_insert (f : κ → α) (ks : List κ) (t : Table κ α) (k : κ) :
    (ks.foldl (fun t k => t.insert k (f k)) t).get? k =
      if k ∈ ks then some (f k) else t.get? k := by
  induction ks generalizing t with
  | nil => simp
  | cons k' ks ih =>
    simp only [List.foldl_cons, ih, get?_insert, List.mem_cons]
    by_cases h₁ : k ∈ ks
    · simp [h₁]
    · by_cases h₂ : k' = k
      · subst h₂; simp
      · simp [h₁, h₂, Ne.symm h₂]

/-- The entries of a table stored one by one into another one. -/
theorem get?_foldl_entries (f : κ → α → β) (t : Table κ α) (u : Table κ β) (k : κ) :
    (t.entries.foldl (fun u e => u.insert e.1 (f e.1 e.2)) u).get? k =
      ((t.get? k).map (f k)).or (u.get? k) := by
  have hfold : ∀ (es : List (κ × α)) (u : Table κ β), (es.map Prod.fst).Nodup →
      (es.foldl (fun u e => u.insert e.1 (f e.1 e.2)) u).get? k =
        ((lookup k es).map (f k)).or (u.get? k) := by
    intro es
    induction es with
    | nil => simp [lookup]
    | cons e es ih =>
      intro u hnodup
      obtain ⟨k', v⟩ := e
      simp only [List.map_cons, List.nodup_cons] at hnodup
      rw [List.foldl_cons, ih _ hnodup.2, lookup, get?_insert]
      by_cases hk : k' = k
      · subst hk
        have hnone : lookup k' es = none := by
          rw [Option.eq_none_iff_forall_ne_some]
          intro v' hv'
          exact hnodup.1 (List.mem_map_of_mem ((lookup_eq_some_iff hnodup.2).1 hv'))
        simp [hnone]
      · simp [hk]
  exact hfold t.entries u t.nodup_keys

/-- A table made from another one, entry by entry. -/
theorem get?_foldl_insert_entries (f : κ → α → β) (t : Table κ α) (k : κ) :
    (t.entries.foldl (fun u e => u.insert e.1 (f e.1 e.2)) empty).get? k = (t.get? k).map (f k) := by
  rw [get?_foldl_entries, get?_empty, Option.or_none]

/-- Changes all values. -/
def mapValues (f : α → β) (t : Table κ α) : Table κ β :=
  ⟨t.entries.map fun e => (e.1, f e.2), by simpa [Function.comp_def] using t.nodup_keys⟩

omit [DecidableEq κ] in
@[simp] theorem keys_mapValues (f : α → β) (t : Table κ α) : (t.mapValues f).keys = t.keys := by
  simp [mapValues, keys, Function.comp_def]

@[simp] theorem get?_mapValues (f : α → β) (t : Table κ α) (k : κ) :
    (t.mapValues f).get? k = (t.get? k).map f := by
  have hlookup : ∀ es : List (κ × α), lookup k (es.map fun e => (e.1, f e.2)) = (lookup k es).map f := by
    intro es
    induction es with
    | nil => rfl
    | cons e es ih =>
      simp only [List.map_cons, lookup, ih]
      split <;> rfl
  exact hlookup t.entries

@[simp] theorem mapValues_insert (f : α → β) (t : Table κ α) (k : κ) (v : α) :
    (t.insert k v).mapValues f = (t.mapValues f).insert k (f v) := by
  have hstore : ∀ es : List (κ × α), (store k v es).map (fun e => (e.1, f e.2)) =
      store k (f v) (es.map fun e => (e.1, f e.2)) := by
    intro es
    induction es with
    | nil => rfl
    | cons e es ih =>
      simp only [store, List.map_cons]
      split
      next => rfl
      next => rw [List.map_cons, ih]
  simp [mapValues, insert, hstore]

@[simp] theorem contains_mapValues (f : α → β) (t : Table κ α) (k : κ) :
    (t.mapValues f).contains k = t.contains k := by
  simp [contains]

theorem mapValues_foldl_insert {ε : Type} (f : α → β) (key : ε → κ) (value : ε → α) (es : List ε)
    (t : Table κ α) : (es.foldl (fun t e => t.insert (key e) (value e)) t).mapValues f =
      es.foldl (fun t e => t.insert (key e) (f (value e))) (t.mapValues f) := by
  induction es generalizing t with
  | nil => rfl
  | cons e es ih => rw [List.foldl_cons, ih, mapValues_insert, List.foldl_cons]

end Coselect.Table
