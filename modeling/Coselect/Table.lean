/-! Finite maps that remember the order in which their keys came in. Storing under a key
already present keeps its place. -/

namespace Coselect

structure Table (κ α : Type) where
  entries : List (κ × α)
  nodup_keys : (entries.map Prod.fst).Nodup

namespace Table

variable {κ α : Type} [DecidableEq κ]

def empty : Table κ α := ⟨[], List.nodup_nil⟩

instance : Inhabited (Table κ α) := ⟨empty⟩

def keys (t : Table κ α) : List κ := t.entries.map Prod.fst

def values (t : Table κ α) : List α := t.entries.map Prod.snd

def size (t : Table κ α) : Nat := t.entries.length

def lookup (k : κ) : List (κ × α) → Option α
  | [] => none
  | (k', v) :: es => if k' = k then some v else lookup k es

def get? (t : Table κ α) (k : κ) : Option α := lookup k t.entries

def contains (t : Table κ α) (k : κ) : Bool := (t.get? k).isSome

def store (k : κ) (v : α) : List (κ × α) → List (κ × α)
  | [] => [(k, v)]
  | (k', v') :: es => if k' = k then (k, v) :: es else (k', v') :: store k v es

theorem mem_keys_store {k k₁ : κ} {v : α} {es : List (κ × α)} :
    k₁ ∈ (store k v es).map Prod.fst ↔ k₁ = k ∨ k₁ ∈ es.map Prod.fst := by
  induction es with
  | nil => simp [store]
  | cons e es ih =>
    obtain ⟨k', v'⟩ := e
    simp only [store]
    split
    · next h => subst h; simp
    · simp only [List.map_cons, List.mem_cons, ih]
      constructor <;> rintro (h | h | h) <;> simp [h]

theorem nodup_store {k : κ} {v : α} {es : List (κ × α)} (h : (es.map Prod.fst).Nodup) :
    ((store k v es).map Prod.fst).Nodup := by
  induction es with
  | nil => simp [store]
  | cons e es ih =>
    obtain ⟨k', v'⟩ := e
    simp only [store]
    simp only [List.map_cons, List.nodup_cons] at h
    split
    · next hk => subst hk; simpa using h
    · next hk =>
      simp only [List.map_cons, List.nodup_cons, mem_keys_store, not_or]
      exact ⟨⟨hk, h.1⟩, ih h.2⟩

def insert (t : Table κ α) (k : κ) (v : α) : Table κ α :=
  ⟨store k v t.entries, nodup_store t.nodup_keys⟩

def erase (t : Table κ α) (k : κ) : Table κ α :=
  ⟨t.entries.filter fun e => e.1 ≠ k,
    t.nodup_keys.sublist (List.filter_sublist.map Prod.fst)⟩

/-- Stores under a key and makes it the last one. -/
def insertLast (t : Table κ α) (k : κ) (v : α) : Table κ α := (t.erase k).insert k v

/-- Without the first `n` entries. -/
def drop (t : Table κ α) (n : Nat) : Table κ α :=
  ⟨t.entries.drop n, t.nodup_keys.sublist ((List.drop_sublist n _).map Prod.fst)⟩

/-- Keeps the entries whose keys satisfy a condition. -/
def keep (t : Table κ α) (p : κ → Bool) : Table κ α :=
  ⟨t.entries.filter fun e => p e.1, t.nodup_keys.sublist (List.filter_sublist.map Prod.fst)⟩

def ofList (es : List (κ × α)) : Table κ α := es.foldl (fun t e => t.insert e.1 e.2) empty

theorem lookup_store (k k₁ : κ) (v : α) (es : List (κ × α)) :
    lookup k₁ (store k v es) = if k = k₁ then some v else lookup k₁ es := by
  induction es with
  | nil => simp [store, lookup]
  | cons e es ih =>
    obtain ⟨k', v'⟩ := e
    simp only [store]
    split
    · next h => subst h; simp only [lookup]; split <;> rfl
    · next h =>
      simp only [lookup, ih]
      split
      · next h' => subst h'; simp [Ne.symm h]
      · rfl

@[simp] theorem get?_insert (t : Table κ α) (k k₁ : κ) (v : α) :
    (t.insert k v).get? k₁ = if k = k₁ then some v else t.get? k₁ :=
  lookup_store k k₁ v t.entries

@[simp] theorem get?_empty (k : κ) : (empty : Table κ α).get? k = none := rfl

theorem lookup_filter (p : κ → Bool) (k : κ) (es : List (κ × α)) :
    lookup k (es.filter fun e => p e.1) = if p k then lookup k es else none := by
  induction es with
  | nil => simp [lookup]
  | cons e es ih =>
    obtain ⟨k', v'⟩ := e
    simp only [List.filter_cons]
    split
    · next h =>
      simp only [lookup, ih]
      split
      · next h' => subst h'; simp [h]
      · rfl
    · next h =>
      simp only [ih, lookup]
      split
      · next h' =>
        split
        · next h'' => subst h''; exact absurd h' h
        · rfl
      · rfl

@[simp] theorem get?_keep (t : Table κ α) (p : κ → Bool) (k : κ) :
    (t.keep p).get? k = if p k then t.get? k else none :=
  lookup_filter p k t.entries

@[simp] theorem get?_erase (t : Table κ α) (k k₁ : κ) :
    (t.erase k).get? k₁ = if k₁ = k then none else t.get? k₁ := by
  have h := lookup_filter (fun x => decide (x ≠ k)) k₁ t.entries
  simp only [get?, erase]
  rw [h]
  by_cases hk : k₁ = k <;> simp [hk]

end Table

end Coselect
