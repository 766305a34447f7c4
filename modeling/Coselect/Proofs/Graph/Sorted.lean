import Mathlib.Data.List.Nodup
import Mathlib.Data.List.Perm.Basic
import Coselect.Graph.Basic
import Coselect.Proofs.Table

/-! Sorted answers do not show the order in which things came: equal sets are shown as the same
list, and so are tables with equal entries. -/

namespace Coselect

namespace Text

/-- Sorting by a total order leaves nothing of the order in which things came. -/
theorem mergeSort_eq_of_antisymm {α : Type} {le : α → α → Bool} {xs ys : List α}
    (htrans : ∀ a b c, le a b = true → le b c = true → le a c = true)
    (htotal : ∀ a b, (le a b || le b a) = true)
    (hanti : ∀ a ∈ xs, ∀ b ∈ ys, le a b = true → le b a = true → a = b) (hp : xs.Perm ys) :
    xs.mergeSort le = ys.mergeSort le := by
  refine List.Perm.eq_of_pairwise (fun a b ha hb => ?_) (List.pairwise_mergeSort htrans htotal xs)
    (List.pairwise_mergeSort htrans htotal ys) ?_
  · exact hanti a (List.mem_mergeSort.1 ha) b (List.mem_mergeSort.1 hb)
  · exact (List.mergeSort_perm _ _).trans (hp.trans (List.mergeSort_perm _ _).symm)

theorem mergeSort_eq_of_perm {α : Type} (key : α → String) {xs ys : List α}
    (hinj : ∀ a ∈ xs, ∀ b ∈ ys, key a = key b → a = b) (hp : xs.Perm ys) :
    xs.mergeSort (fun a b => decide (key a ≤ key b)) =
      ys.mergeSort fun a b => decide (key a ≤ key b) := by
  refine mergeSort_eq_of_antisymm (by simpa using fun a b c => String.le_trans)
    (by simpa using fun a b => String.le_total (key a) (key b)) (fun a ha b hb hab hba => ?_) hp
  exact hinj a ha b hb (String.le_antisymm (of_decide_eq_true hab) (of_decide_eq_true hba))

theorem sortedSet_eq_of_mem_iff {xs ys : List String} (hx : xs.Nodup) (hy : ys.Nodup)
    (h : ∀ x, x ∈ xs ↔ x ∈ ys) : sortedSet xs = sortedSet ys := by
  have hp : xs.Perm ys := (List.perm_ext_iff_of_nodup hx hy).2 h
  exact congrArg List.eraseDups (mergeSort_eq_of_perm id (fun _ _ _ _ => id) hp)

@[simp] theorem mem_sortedSet {x : String} {xs : List String} : x ∈ sortedSet xs ↔ x ∈ xs := by
  rw [sortedSet, List.mem_eraseDups, List.mem_mergeSort]

/-- An induction on what is left when the repetitions of the first text are gone. -/
theorem eraseDups_induction {motive : List String → Prop} (nil : motive [])
    (cons : ∀ x xs, motive (xs.filter fun y => !y == x) → motive (x :: xs)) : ∀ xs, motive xs
  | [] => nil
  | x :: xs => cons x xs (eraseDups_induction nil cons _)
termination_by xs => xs.length
decreasing_by exact Nat.lt_succ_of_le (List.length_filter_le ..)

theorem pairwise_eraseDups {xs : List String} (h : xs.Pairwise (· ≤ ·)) :
    xs.eraseDups.Pairwise (· < ·) := by
  induction xs using eraseDups_induction with
  | nil => exact .nil
  | cons x xs ih =>
    obtain ⟨hx, hxs⟩ := List.pairwise_cons.1 h
    rw [List.eraseDups_cons, List.pairwise_cons]
    refine ⟨fun y hy => ?_, ih (hxs.filter _)⟩
    rw [List.mem_eraseDups, List.mem_filter] at hy
    exact Std.lt_of_le_of_ne (hx y hy.1) fun h => by simp [h] at hy

theorem nodup_eraseDups (xs : List String) : xs.eraseDups.Nodup := by
  induction xs using eraseDups_induction with
  | nil => exact .nil
  | cons x xs ih =>
    rw [List.eraseDups_cons, List.nodup_cons]
    exact ⟨by simp, ih⟩

theorem eraseDups_map {f : String → String} (hf : Function.Injective f) (xs : List String) :
    (xs.map f).eraseDups = xs.eraseDups.map f := by
  induction xs using eraseDups_induction with
  | nil => rfl
  | cons x xs ih =>
    have hsame : ((fun y => !y == f x) ∘ f) = fun y => !y == x := by
      funext y
      simp [hf.eq_iff]
    rw [List.map_cons, List.eraseDups_cons, List.eraseDups_cons, List.map_cons, List.filter_map, hsame, ih]

theorem eraseDups_filter_map {f : String → String} (hf : Function.Injective f) (x : String)
    (xs : List String) :
    ((xs.map f).filter (· ≠ f x)).eraseDups = (xs.filter (· ≠ x)).eraseDups.map f := by
  rw [← eraseDups_map hf, List.filter_map]
  simp only [Function.comp_def, Ne, hf.eq_iff]

/-- Sorted answers ascend, without repetition. -/
theorem pairwise_sortedSet (xs : List String) : (sortedSet xs).Pairwise (· < ·) := by
  have hsorted : (xs.mergeSort fun a b => decide (a ≤ b)).Pairwise fun a b => decide (a ≤ b) = true :=
    List.pairwise_mergeSort (by simpa using fun a b c => String.le_trans)
      (by simpa using String.le_total) xs
  exact pairwise_eraseDups (hsorted.imp of_decide_eq_true)

end Text

namespace Graph

variable {α β : Type}

/-- Tables whose entries look alike are shown alike. -/
theorem map_sorted_eq {t t' : Table String α} (f : α → β)
    (h : ∀ k, (t.get? k).map f = (t'.get? k).map f) :
    (sorted t).map (fun e => (e.1, f e.2)) = (sorted t').map fun e => (e.1, f e.2) := by
  have hmap : ∀ t : Table String α, (sorted t).map (fun e => (e.1, f e.2)) =
      (t.entries.map fun e => (e.1, f e.2)).mergeSort fun a b => decide (a.1 ≤ b.1) := by
    intro t
    exact (List.map_mergeSort fun _ _ _ _ => rfl)
  have hnodup : ∀ t : Table String α, (t.entries.map fun e => (e.1, f e.2)).Nodup := by
    intro t
    apply List.Nodup.of_map Prod.fst
    simpa [Function.comp_def] using t.nodup_keys
  have hmem : ∀ (t : Table String α) (k : String) (b : β),
      (k, b) ∈ t.entries.map (fun e => (e.1, f e.2)) ↔ (t.get? k).map f = some b := by
    intro t k b
    simp [Table.mem_entries_iff, Option.map_eq_some_iff]
  have hp : (t.entries.map fun e => (e.1, f e.2)).Perm (t'.entries.map fun e => (e.1, f e.2)) := by
    rw [List.perm_ext_iff_of_nodup (hnodup t) (hnodup t')]
    rintro ⟨k, b⟩
    rw [hmem, hmem, h]
  rw [hmap, hmap]
  refine Text.mergeSort_eq_of_perm Prod.fst ?_ hp
  rintro ⟨k, b⟩ ha ⟨k', b'⟩ hb rfl
  rw [hmem, h] at ha
  rw [hmem, ha] at hb
  cases hb
  rfl

end Graph

end Coselect
