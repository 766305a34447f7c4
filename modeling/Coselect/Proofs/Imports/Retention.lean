import Mathlib.Data.Finset.Card
import Coselect.Proofs.Imports.Cache

/-! A cache of statements over any sequence of uses. It serves what was stored last for a path and
stamp, until something since then has taken the entry away. Room is only made at the cost of entries
that were not used for long: behind an entry stand no paths but those used since. -/

namespace Coselect.Imports.Cache

/-- One use of a cache. -/
inductive Use (τ : Type)
  | lookUp (path : String) (t : τ)
  | store (path : String) (t : τ) (statements : List Statement)
  | invalidate (path : String)
  | clear

variable {τ : Type} [DecidableEq τ] {c : Cache τ} {u : Use τ} {us vs : List (Use τ)} {path : String}
  {t : τ} {statements : List Statement} {size : Int}

/-- The cache after a use, unless the use fails. -/
def use? (c : Cache τ) : Use τ → Option (Cache τ)
  | .lookUp path t => some (c.afterLookup path t)
  | .store path t statements => c.store? path t statements
  | .invalidate path => some (c.invalidate path)
  | .clear => some c.clear

/-- The cache after a use; one that fails leaves it as it is. -/
def use (c : Cache τ) (u : Use τ) : Cache τ := (c.use? u).getD c

theorem use_lookUp (c : Cache τ) (path : String) (t : τ) :
    c.use (.lookUp path t) = c.afterLookup path t := rfl

theorem use_store (c : Cache τ) (path : String) (t : τ) (statements : List Statement) :
    c.use (.store path t statements) = c.store path t statements := rfl

/-- A fresh cache after some uses. -/
def after (size : Int) (us : List (Use τ)) : Cache τ := us.foldl use (ofSize size)

/-- The path that a use stores or finds. -/
def touches (c : Cache τ) : Use τ → List String
  | .lookUp path t => if (c.find? path t).isSome then [path] else []
  | .store path _ _ => [path]
  | .invalidate _ | .clear => []

def touched (c : Cache τ) : List (Use τ) → List String
  | [] => []
  | u :: us => c.touches u ++ (c.use u).touched us

/-- Storing something takes the entry of a path away. -/
def Evicts (c : Cache τ) (path : String) (u : Use τ) : Prop :=
  (∃ path' t statements, u = .store path' t statements) ∧
    path ∈ c.entries.keys ∧ path ∉ (c.use u).entries.keys

/-- No use of several takes the entry of a path away by storing something. -/
def Retains (c : Cache τ) (path : String) : List (Use τ) → Prop
  | [] => True
  | u :: us => ¬ c.Evicts path u ∧ (c.use u).Retains path us

/-- Neither stores something else for a path, nor tells that its entry is out of date. -/
def Use.Spares (path : String) (t : τ) : Use τ → Prop
  | .lookUp path' t' => path' = path → t' = t
  | .store path' _ _ => path' ≠ path
  | .invalidate path' => path' ≠ path
  | .clear => False

def Use.isClear : Use τ → Bool
  | .clear => true
  | .lookUp .. | .store .. | .invalidate _ => false

def Use.isLookUp : Use τ → Bool
  | .lookUp .. => true
  | .store .. | .invalidate _ | .clear => false

/-- How often something was looked up since the cache was cleared last. -/
def lookUps (us : List (Use τ)) : Nat :=
  (us.reverse.takeWhile fun u => !u.isClear).countP Use.isLookUp

omit [DecidableEq τ] in
/-- What a store that does not fail has done. -/
theorem store_cases (h : 1 ≤ c.maxSize) (path : String) (t : τ) (statements : List Statement) :
    ∃ es : Table String (τ × List Statement),
      c.store path t statements = { c with entries := es.insertLast path (t, statements) } ∧
      (es = c.entries ∧ (path ∈ c.entries.keys ∨ c.entries.size < c.maxSize) ∨
        es = c.entries.drop c.evicted ∧ path ∉ c.entries.keys ∧ c.maxSize ≤ c.entries.size) := by
  obtain ⟨c', hc'⟩ := exists_store? h path t statements
  rw [store, hc', Option.getD_some]
  unfold store? at hc'
  split at hc'
  next hroom =>
    refine ⟨_, (Option.some.inj hc').symm, .inl ⟨rfl, ?_⟩⟩
    simpa [Table.contains_iff_mem_keys] using hroom
  next hfull =>
    split at hc'
    next => contradiction
    next =>
      refine ⟨_, (Option.some.inj hc').symm, .inr ⟨rfl, ?_⟩⟩
      simpa [Table.contains_iff_mem_keys] using hfull

/-- A look-up that finds something moves it to the end; any other takes the entry away. -/
theorem afterLookup_cases (c : Cache τ) (path : String) (t : τ) :
    (∃ statements, c.find? path t = some statements ∧
        (c.afterLookup path t).entries = c.entries.insertLast path (t, statements)) ∨
      c.find? path t = none ∧ (c.afterLookup path t).entries = c.entries.erase path := by
  unfold afterLookup
  cases hfind : c.find? path t with
  | some statements => exact .inl ⟨statements, rfl, rfl⟩
  | none => exact .inr ⟨rfl, rfl⟩

@[simp] theorem maxSize_use (c : Cache τ) (u : Use τ) : (c.use u).maxSize = c.maxSize := by
  cases u with
  | lookUp path t => exact maxSize_afterLookup
  | store path t statements => exact maxSize_store
  | invalidate path | clear => rfl

theorem maxSize_foldl (c : Cache τ) (us : List (Use τ)) : (us.foldl use c).maxSize = c.maxSize := by
  induction us generalizing c with
  | nil => rfl
  | cons u us ih => rw [List.foldl_cons, ih, maxSize_use]

@[simp] theorem maxSize_after (size : Int) (us : List (Use τ)) : (after size us).maxSize = size :=
  maxSize_foldl ..

theorem after_concat : after size (us ++ [u]) = (after size us).use u := List.foldl_concat ..

theorem foldl_after : vs.foldl use (after size us) = after size (us ++ vs) :=
  (List.foldl_append ..).symm

theorem touched_append (c : Cache τ) (us vs : List (Use τ)) :
    c.touched (us ++ vs) = c.touched us ++ (us.foldl use c).touched vs := by
  induction us generalizing c with
  | nil => rfl
  | cons u us ih => simp [touched, ih]

theorem touched_concat (c : Cache τ) (us : List (Use τ)) (u : Use τ) :
    c.touched (us ++ [u]) = c.touched us ++ (us.foldl use c).touches u := by
  rw [touched_append, touched, touched, List.append_nil]

theorem touched_after_concat {last : Use τ} :
    (after size (us ++ [last])).touched (vs ++ [u]) =
      (after size (us ++ [last])).touched vs ++ (after size (us ++ last :: vs)).touches u := by
  rw [touched_concat, foldl_after, List.append_assoc, List.singleton_append]

theorem retains_concat : c.Retains path (us ++ [u]) ↔
    c.Retains path us ∧ ¬ (us.foldl use c).Evicts path u := by
  induction us generalizing c with
  | nil => simp [Retains]
  | cons u' us ih => simp [Retains, ih, and_assoc]

/-! ### No use fails -/

theorem use?_eq_some (h : 1 ≤ c.maxSize) (u : Use τ) : c.use? u = some (c.use u) := by
  cases u with
  | store path t statements =>
    obtain ⟨c', hc'⟩ := exists_store? h path t statements
    have huse : c.use? (.store path t statements) = some c' := hc'
    simp [use, huse]
  | lookUp path t | invalidate path | clear => rfl

theorem foldlM_use? (h : 1 ≤ c.maxSize) (us : List (Use τ)) :
    us.foldlM use? c = some (us.foldl use c) := by
  induction us generalizing c with
  | nil => rfl
  | cons u us ih =>
    rw [List.foldlM_cons, use?_eq_some h, List.foldl_cons]
    exact ih (by rwa [maxSize_use])

/-! ### How many entries there are -/

omit [DecidableEq τ] in
theorem size_insertLast (es : Table String (τ × List Statement)) (e : τ × List Statement) :
    (es.insertLast path e).size = (es.erase path).size + 1 := by
  rw [← Table.length_keys, Table.keys_insertLast, List.length_append, Table.length_keys,
    List.length_singleton]

omit [DecidableEq τ] in
theorem size_erase_le (es : Table String (τ × List Statement)) (path : String) :
    (es.erase path).size ≤ es.size :=
  List.length_filter_le ..

omit [DecidableEq τ] in
theorem size_erase_lt {es : Table String (τ × List Statement)} (h : path ∈ es.keys) :
    (es.erase path).size < es.size := by
  obtain ⟨e, he, rfl⟩ := List.mem_map.1 h
  exact List.length_filter_lt_length_iff_exists.2 ⟨e, he, by simp⟩

theorem size_use_le (h : 1 ≤ c.maxSize) (hsize : c.entries.size ≤ c.maxSize) (u : Use τ) :
    (c.use u).entries.size ≤ c.maxSize := by
  have herase : ∀ path, ((c.entries.erase path).size : Int) ≤ c.maxSize := by
    intro path
    have := size_erase_le c.entries path
    omega
  cases u with
  | lookUp path t =>
    rw [use_lookUp]
    rcases afterLookup_cases c path t with ⟨statements, hfind, hentries⟩ | ⟨-, hentries⟩
    · have hget := find?_eq_some_iff.1 hfind
      have hmem : path ∈ c.entries.keys := Table.mem_keys_iff.2 (by simp [hget])
      have hlt := size_erase_lt hmem
      rw [hentries, size_insertLast]
      omega
    · rw [hentries]
      exact herase path
  | store path t statements =>
    obtain ⟨es, hstore, hes⟩ := store_cases h path t statements
    rw [use_store, hstore, size_insertLast]
    rcases hes with ⟨rfl, hmem | hroom⟩ | ⟨rfl, -, -⟩
    · have := size_erase_lt hmem
      omega
    · have := size_erase_le c.entries path
      omega
    · -- At least one entry was dropped.
      have herased := size_erase_le (c.entries.drop c.evicted) path
      have hdrop : (c.entries.drop c.evicted).size = c.entries.size - c.evicted :=
        List.length_drop ..
      have hpos : 1 ≤ c.evicted := Nat.le_max_left ..
      omega
  | invalidate path => exact herase path
  | clear =>
    show ((0 : Nat) : Int) ≤ c.maxSize
    omega

theorem size_after_le (h : 1 ≤ size) (us : List (Use τ)) :
    ((after size us).entries.size : Int) ≤ size := by
  induction us using List.reverseRecOn with
  | nil =>
    show ((0 : Nat) : Int) ≤ size
    omega
  | append_singleton us u ih =>
    have hmax := maxSize_after size us
    have huse := size_use_le (c := after size us) (by omega) (by omega) u
    rwa [hmax, ← after_concat] at huse

/-! ### What is held -/

/-- A look-up keeps every entry but one with another stamp for the same path. -/
theorem get?_use_lookUp {path' : String} {t' : τ} :
    (c.use (.lookUp path' t')).entries.get? path = some (t, statements) ↔
      c.entries.get? path = some (t, statements) ∧ (path' = path → t' = t) := by
  rw [use_lookUp]
  rcases afterLookup_cases c path' t' with ⟨found, hfind, hentries⟩ | ⟨hnone, hentries⟩
  · have hget := find?_eq_some_iff.1 hfind
    rw [hentries, Table.get?_insertLast]
    split
    next hpath =>
      subst hpath
      rw [hget]
      simp +contextual
    next hpath => simp [hpath]
  · rw [hentries, Table.get?_erase]
    split
    next hpath =>
      subst hpath
      simp only [reduceCtorEq, true_imp_iff, false_iff, not_and]
      rintro hget rfl
      rw [find?_eq_some_iff.2 hget] at hnone
      contradiction
    next hpath => simp [Ne.symm hpath]

/-- Storing something for another path keeps an entry, unless it makes room at its cost. -/
theorem get?_use_store_of_ne {path' : String} {t' : τ} {statements' : List Statement}
    (h : 1 ≤ c.maxSize) (hpath : path' ≠ path) :
    (c.use (.store path' t' statements')).entries.get? path = some (t, statements) ↔
      c.entries.get? path = some (t, statements) ∧
        ¬ c.Evicts path (.store path' t' statements') := by
  obtain ⟨es, hstore, hes⟩ := store_cases h path' t' statements'
  have hget : (c.use (.store path' t' statements')).entries.get? path = es.get? path := by
    rw [use_store, hstore, Table.get?_insertLast, if_neg hpath]
  have hsub : ∀ e, es.get? path = some e → c.entries.get? path = some e := by
    rcases hes with ⟨rfl, -⟩ | ⟨rfl, -⟩
    · exact fun _ => id
    · exact fun _ => Table.get?_of_get?_drop
  simp only [Evicts, Table.mem_keys_iff, hget]
  constructor
  · intro hes
    simp [hsub _ hes, hes]
  · rintro ⟨hc, hkept⟩
    obtain ⟨e, he⟩ : ∃ e, es.get? path = some e := by
      rw [← Option.isSome_iff_exists]
      by_contra hgone
      exact hkept ⟨⟨_, _, _, rfl⟩, by simp [hc], hgone⟩
    rw [he, ← hsub e he, hc]

/-- An entry is there because it was just stored, or because it was there and stays. -/
theorem get?_use_iff (h : 1 ≤ c.maxSize) (u : Use τ) :
    (c.use u).entries.get? path = some (t, statements) ↔
      u = .store path t statements ∨
        c.entries.get? path = some (t, statements) ∧ u.Spares path t ∧ ¬ c.Evicts path u := by
  cases u with
  | lookUp path' t' => simp [get?_use_lookUp, Use.Spares, Evicts]
  | store path' t' statements' =>
    by_cases hpath : path' = path
    · subst hpath
      obtain ⟨es, hstore, -⟩ := store_cases h path' t' statements'
      simp [use_store, hstore, Table.get?_insertLast, Use.Spares]
    · simp [get?_use_store_of_ne h hpath, hpath, Use.Spares]
  | invalidate path' =>
    have hget : (c.use (.invalidate path')).entries.get? path =
        if path = path' then none else c.entries.get? path := Table.get?_erase ..
    by_cases hpath : path = path'
    · rw [hget, if_pos hpath]
      simp [hpath, Use.Spares]
    · simp [hget, hpath, Ne.symm hpath, Use.Spares, Evicts]
  | clear =>
    have hget : (c.use .clear).entries.get? path = none := rfl
    simp [hget, Use.Spares]

/-- What is held was stored last, and nothing since then has taken it away. -/
theorem get?_after_iff (h : 1 ≤ size) (us : List (Use τ)) :
    (after size us).entries.get? path = some (t, statements) ↔
      ∃ before since, us = before ++ .store path t statements :: since ∧
        (∀ u ∈ since, u.Spares path t) ∧
        (after size (before ++ [.store path t statements])).Retains path since := by
  induction us using List.reverseRecOn with
  | nil => simp [after, ofSize]
  | append_singleton us u ih =>
    rw [after_concat, get?_use_iff (by rwa [maxSize_after]), ih]
    constructor
    · rintro (rfl | ⟨⟨before, since, rfl, hspares, hretains⟩, hu, hlast⟩)
      · exact ⟨us, [], rfl, by simp, trivial⟩
      · refine ⟨before, since ++ [u], by simp, ?_, retains_concat.2 ⟨hretains, ?_⟩⟩
        · simpa [or_imp, forall_and] using ⟨hspares, hu⟩
        · simpa [foldl_after] using hlast
    · rintro ⟨before, since, heq, hspares, hretains⟩
      rcases List.eq_nil_or_concat since with rfl | ⟨since, u', rfl⟩
      · exact .inl (by simpa using (List.append_inj' heq rfl).2)
      · rw [List.concat_eq_append, ← List.cons_append, ← List.append_assoc] at heq
        obtain ⟨rfl, hu⟩ := List.append_inj' heq rfl
        obtain rfl : u = u' := by simpa using hu
        rw [List.concat_eq_append] at hspares hretains
        obtain ⟨hretains, hlast⟩ := retains_concat.1 hretains
        refine .inr ⟨⟨before, since, rfl, fun v hv => hspares v (by simp [hv]), hretains⟩,
          hspares u (by simp), ?_⟩
        simpa [foldl_after] using hlast

/-! ### Who makes room -/

theorem pair_sublist_concat {α : Type} {x y z : α} {l : List α} :
    [x, y].Sublist (l ++ [z]) ↔ [x, y].Sublist l ∨ x ∈ l ∧ y = z := by
  constructor
  · intro h
    rcases List.sublist_append_iff.1 h with ⟨l₁, l₂, heq, h₁, h₂⟩
    rcases List.sublist_cons_iff.1 h₂ with hnil | ⟨r, rfl, hnil⟩
    · obtain rfl := List.sublist_nil.1 hnil
      rw [heq, List.append_nil]
      exact .inl h₁
    · obtain rfl := List.sublist_nil.1 hnil
      have hsplit : [x] ++ [y] = l₁ ++ [z] := heq
      obtain ⟨rfl, hy⟩ := List.append_inj' hsplit rfl
      exact .inr ⟨h₁.subset (by simp), by simpa using hy⟩
  · rintro (h | ⟨hx, rfl⟩)
    · exact h.trans (List.sublist_append_left ..)
    · exact (List.singleton_sublist.2 hx).append (List.Sublist.refl [y])

/-- What a use does to the order of the entries: it moves the path that it stores or finds to the end,
and may take others away. -/
theorem keys_use (h : 1 ≤ c.maxSize) (u : Use τ) :
    c.touches u = [] ∧ (c.use u).entries.keys.Sublist c.entries.keys ∨
      ∃ path ks, c.touches u = [path] ∧ (c.use u).entries.keys = ks ++ [path] ∧
        ks.Sublist c.entries.keys := by
  cases u with
  | lookUp path t =>
    rw [use_lookUp, touches]
    rcases afterLookup_cases c path t with ⟨statements, hfind, hentries⟩ | ⟨hnone, hentries⟩
    · rw [hentries]
      exact .inr ⟨path, _, by simp [hfind], Table.keys_insertLast .., Table.keys_erase_sublist ..⟩
    · rw [hentries]
      exact .inl ⟨by simp [hnone], Table.keys_erase_sublist ..⟩
  | store path t statements =>
    obtain ⟨es, hstore, hes⟩ := store_cases h path t statements
    rw [use_store, hstore]
    refine .inr ⟨path, _, rfl, Table.keys_insertLast .., (Table.keys_erase_sublist ..).trans ?_⟩
    rcases hes with ⟨rfl, -⟩ | ⟨rfl, -⟩
    · exact List.Sublist.refl _
    · rw [Table.keys_drop]
      exact List.drop_sublist ..
  | invalidate path => exact .inl ⟨rfl, Table.keys_erase_sublist ..⟩
  | clear => exact .inl ⟨rfl, List.nil_sublist _⟩

/-- What stands behind an entry after a use stood there before, or was used just now. -/
theorem behind_use (h : 1 ≤ c.maxSize) (hmem : path ∈ (c.use u).entries.keys) :
    path ∈ c.touches u ∧ (∀ path', ¬ [path, path'].Sublist (c.use u).entries.keys) ∨
      path ∉ c.touches u ∧ path ∈ c.entries.keys ∧
        ∀ path', [path, path'].Sublist (c.use u).entries.keys →
          [path, path'].Sublist c.entries.keys ∨ path' ∈ c.touches u := by
  rcases keys_use h u with ⟨htouches, hsub⟩ | ⟨last, ks, htouches, hks, hsub⟩
  · exact .inr ⟨by simp [htouches], hsub.subset hmem, fun _ hbehind => .inl (hbehind.trans hsub)⟩
  · have hnodup : (c.use u).entries.keys.Nodup := (c.use u).entries.nodup_keys
    rw [hks] at hnodup hmem ⊢
    rw [htouches]
    by_cases hlast : path = last
    · subst hlast
      have hnotMem : path ∉ ks := fun hin => (List.nodup_append.1 hnodup).2.2 path hin path (by simp) rfl
      refine .inl ⟨by simp, fun path' hbehind => ?_⟩
      rcases pair_sublist_concat.1 hbehind with hin | ⟨hin, -⟩
      · exact hnotMem (hin.subset (by simp))
      · exact hnotMem hin
    · refine .inr ⟨by simpa using hlast, hsub.subset (by simpa [hlast] using hmem), ?_⟩
      intro path' hbehind
      rcases pair_sublist_concat.1 hbehind with hin | ⟨-, rfl⟩
      · exact .inl (hin.trans hsub)
      · exact .inr (by simp)

/-- Behind an entry stand only paths used since its own last use. -/
theorem exists_last_touch (h : 1 ≤ size) (us : List (Use τ))
    (hmem : path ∈ (after size us).entries.keys) :
    ∃ before last since, us = before ++ last :: since ∧
      path ∈ (after size before).touches last ∧
      path ∉ (after size (before ++ [last])).touched since ∧
      ∀ path', [path, path'].Sublist (after size us).entries.keys →
        path' ∈ (after size (before ++ [last])).touched since := by
  induction us using List.reverseRecOn with
  | nil => simp [after, ofSize, Table.keys, Table.empty] at hmem
  | append_singleton us u ih =>
    rw [after_concat] at hmem ⊢
    rcases behind_use (by rwa [maxSize_after]) hmem with ⟨htouches, hnone⟩ | ⟨hother, hheld, hbehind⟩
    · -- The entry was used just now and stands last, so there is nothing behind it.
      exact ⟨us, u, [], rfl, htouches, by simp [touched], fun path' h => absurd h (hnone path')⟩
    · obtain ⟨before, last, since, rfl, htouches, hsince, hused⟩ := ih hheld
      refine ⟨before, last, since ++ [u], by simp, htouches, ?_, fun path' h => ?_⟩
      · rw [touched_after_concat]
        simp [hsince, hother]
      · rw [touched_after_concat, List.mem_append]
        exact (hbehind path' h).imp_left (hused path')

/-- An entry that makes room is one of the first in a full cache, and the path stored instead is new. -/
theorem Evicts.cases (h : 1 ≤ c.maxSize) (hevicts : c.Evicts path u) :
    ∃ path' t statements front behind, u = .store path' t statements ∧
      path' ∉ c.entries.keys ∧ c.maxSize ≤ c.entries.size ∧
      c.entries.keys = front ++ path :: behind ∧ front.length < c.evicted := by
  obtain ⟨⟨path', t, statements, rfl⟩, hmem, hgone⟩ := hevicts
  obtain ⟨es, hstore, hes⟩ := store_cases h path' t statements
  have hkeys : (c.use (.store path' t statements)).entries.keys = (es.erase path').keys ++ [path'] := by
    rw [use_store, hstore, Table.keys_insertLast]
  rw [hkeys, List.mem_append, List.mem_singleton, not_or] at hgone
  obtain ⟨hgone, hne⟩ := hgone
  have hes' : path ∉ es.keys := by
    rw [Table.mem_keys_iff] at hgone ⊢
    rwa [Table.get?_erase, if_neg hne] at hgone
  rcases hes with ⟨rfl, -⟩ | ⟨rfl, hnew, hfull⟩
  · exact absurd hmem hes'
  · rw [Table.keys_drop] at hes'
    rw [← List.take_append_drop c.evicted c.entries.keys, List.mem_append] at hmem
    obtain ⟨front, rest, htake⟩ := List.append_of_mem (hmem.resolve_right hes')
    refine ⟨path', t, statements, front, rest ++ c.entries.keys.drop c.evicted, rfl, hnew, hfull, ?_, ?_⟩
    · rw [← List.cons_append, ← List.append_assoc, ← htake, List.take_append_drop]
    · have hlength := List.length_take_le c.evicted c.entries.keys
      rw [htake, List.length_append, List.length_cons] at hlength
      omega

/-- Behind an entry that makes room stand as many others as a full cache keeps, and the new one comes
behind them. -/
theorem Evicts.exists_others (h : 1 ≤ c.maxSize) (hevicts : c.Evicts path u) :
    ∃ others : List String, others.Nodup ∧ path ∉ others ∧
      c.maxSize - c.evicted + 1 ≤ others.length ∧
      ∀ p ∈ others, [path, p].Sublist c.entries.keys ∨ p ∈ c.touches u := by
  obtain ⟨path', t, statements, front, behind, rfl, hnew, hfull, hkeys, hfront⟩ := hevicts.cases h
  have hnodup : c.entries.keys.Nodup := c.entries.nodup_keys
  rw [hkeys] at hnodup hnew
  obtain ⟨hpath, hbehind⟩ := List.nodup_cons.1 hnodup.of_append_right
  have hne : path ≠ path' := fun heq => hnew (by simp [heq])
  have hnew' : path' ∉ behind := fun hmem => hnew (by simp [hmem])
  refine ⟨behind ++ [path'], ?_, by simp [hpath, hne], ?_, fun p hp => ?_⟩
  · rw [← List.concat_eq_append]
    exact hbehind.concat hnew'
  · have hlength := congrArg List.length hkeys
    rw [Table.length_keys] at hlength
    simp only [List.length_append, List.length_cons, List.length_nil] at hlength ⊢
    omega
  · rcases List.mem_append.1 hp with hp | hp
    · rw [hkeys]
      exact .inl (((List.singleton_sublist.2 hp).cons_cons path).trans (List.sublist_append_right ..))
    · exact .inr hp

/-- Enough other paths were used since the last use of an entry that makes room. -/
theorem evicted_le_card (h : 1 ≤ size) (us : List (Use τ))
    (hevicts : (after size us).Evicts path u) :
    ∃ before last since, us = before ++ last :: since ∧
      path ∈ (after size before).touches last ∧
      path ∉ (after size (before ++ [last])).touched since ∧
      size - max 1 (size / 10) + 1 ≤
        (((after size (before ++ [last])).touched (since ++ [u])).toFinset.erase path).card := by
  obtain ⟨before, last, since, rfl, htouches, hsince, hused⟩ := exists_last_touch h us hevicts.2.1
  obtain ⟨others, hnodup, hpath, hlength, hothers⟩ :=
    hevicts.exists_others (by rwa [maxSize_after])
  refine ⟨before, last, since, rfl, htouches, hsince, ?_⟩
  have hsub : others.toFinset ⊆
      ((after size (before ++ [last])).touched (since ++ [u])).toFinset.erase path := by
    intro p hp
    rw [List.mem_toFinset] at hp
    rw [touched_after_concat, Finset.mem_erase, List.mem_toFinset, List.mem_append]
    exact ⟨fun heq => hpath (heq ▸ hp), (hothers p hp).imp_left (hused p)⟩
  have hcard := Finset.card_le_card hsub
  rw [List.toFinset_card_of_nodup hnodup] at hcard
  rw [evicted, maxSize_after] at hlength
  omega

/-! ### How often something was looked up -/

theorem hits_add_misses_use (c : Cache τ) (u : Use τ) :
    (c.use u).hits + (c.use u).misses =
      if u.isClear then 0 else c.hits + c.misses + if u.isLookUp then 1 else 0 := by
  cases u with
  | lookUp path t =>
    rw [use_lookUp]
    simp only [Use.isClear, Use.isLookUp, Bool.false_eq_true, if_false, if_true]
    unfold afterLookup
    split <;> simp only <;> omega
  | store path t statements =>
    have hcounts : (c.store path t statements).hits = c.hits ∧
        (c.store path t statements).misses = c.misses := by
      unfold store store?
      split
      next => exact ⟨rfl, rfl⟩
      next => split <;> exact ⟨rfl, rfl⟩
    rw [use_store, hcounts.1, hcounts.2]
    rfl
  | invalidate path | clear => rfl

omit [DecidableEq τ] in
theorem lookUps_concat (us : List (Use τ)) (u : Use τ) :
    lookUps (us ++ [u]) =
      if u.isClear then 0 else lookUps us + if u.isLookUp then 1 else 0 := by
  unfold lookUps
  rw [List.reverse_append, List.reverse_singleton, List.singleton_append, List.takeWhile_cons]
  cases u <;> simp [Use.isClear, Use.isLookUp, List.countP_cons]

theorem hits_add_misses_after (us : List (Use τ)) :
    (after size us).hits + (after size us).misses = lookUps us := by
  induction us using List.reverseRecOn with
  | nil => rfl
  | append_singleton us u ih => rw [after_concat, hits_add_misses_use, lookUps_concat, ih]

/-- A cache that may hold something never fails and stays within its size. Whatever the uses, it serves
for a path and a stamp exactly what was stored last for the path, under that stamp, if since then the
path was neither invalidated nor looked up with another stamp, and nothing was cleared and no room made
at its cost. Room is made at the cost of a path only if, since its own last use, at least as many others
were used as the full cache keeps when it drops a tenth, and one more. Every look-up counts until the
cache is cleared. -/
theorem serves_what_was_stored_last (h : 1 ≤ size) (us : List (Use τ)) :
    us.foldlM use? (ofSize size) = some (after size us) ∧
    ((after size us).entries.size : Int) ≤ size ∧
    (∀ path t statements, (after size us).find? path t = some statements ↔
      ∃ before since, us = before ++ .store path t statements :: since ∧
        (∀ u ∈ since, u.Spares path t) ∧
        (after size (before ++ [.store path t statements])).Retains path since) ∧
    (∀ path u, (after size us).Evicts path u →
      ∃ before last since, us = before ++ last :: since ∧
        path ∈ (after size before).touches last ∧
        path ∉ (after size (before ++ [last])).touched since ∧
        size - max 1 (size / 10) + 1 ≤
          (((after size (before ++ [last])).touched (since ++ [u])).toFinset.erase path).card) ∧
    (after size us).hits + (after size us).misses = lookUps us :=
  ⟨foldlM_use? h us, size_after_le h us,
    fun _ _ _ => find?_eq_some_iff.trans (get?_after_iff h us),
    fun _ _ => evicted_le_card h us, hits_add_misses_after us⟩

/-- Two paths, of which the first is used once more. -/
def twoPaths : List (Use Nat) := [.store "a" 1 [], .store "b" 1 [], .lookUp "a" 1]

/-- A third path makes room at the cost of the second one. -/
theorem serves_what_was_stored_last_twoPaths :
    (1 : Int) ≤ 2 ∧ (after 2 twoPaths).Evicts "b" (.store "c" 1 []) ∧
      ∃ before last since, twoPaths = before ++ last :: since ∧
        "b" ∈ (after 2 before).touches last ∧
        "b" ∉ (after 2 (before ++ [last])).touched since ∧
        (2 : Int) - max 1 (2 / 10) + 1 ≤
          (((after 2 (before ++ [last])).touched
            (since ++ [.store "c" 1 []])).toFinset.erase "b").card := by
  have hevicts : (after 2 twoPaths).Evicts "b" (.store "c" 1 []) :=
    ⟨⟨_, _, _, rfl⟩, by decide, by decide⟩
  exact ⟨by decide, hevicts, (serves_what_was_stored_last (by decide) twoPaths).2.2.2.1 _ _ hevicts⟩

end Coselect.Imports.Cache
