import Coselect.Imports.Scan
import Coselect.Proofs.Text.Words

/-! Where a scan finds something. Over a stretch in which no form begins it moves on, a form that it
reads is taken whole, and what it finds behind a stretch keeps its distance. -/

namespace Coselect.Imports

open Text

variable {α : Type} {read : List Char → Option (Found α)} {before : Option Char} {c : Char}
  {cs xs ys rest part : List Char} {offset k n : Nat} {x : α} {f : Found α}

/-- The character that stands before what follows a text, given the one before the text. -/
def lastOr (before : Option Char) (cs : List Char) : Option Char := cs.getLast?.or before

@[simp] theorem lastOr_nil : lastOr before [] = before := rfl

theorem lastOr_cons : lastOr before (c :: cs) = lastOr (some c) cs := by
  cases cs <;> simp [lastOr, List.getLast?_cons]

theorem lastOr_append : lastOr before (xs ++ ys) = lastOr (lastOr before xs) ys := by
  simp [lastOr, List.getLast?_append, Option.or_assoc]

/-- No form begins in a text that is followed by another one. -/
def Silent (read : List Char → Option (Found α)) (before : Option Char) (cs rest : List Char) :
    Prop :=
  ∀ u v, cs = u ++ v → v ≠ [] → mayPrecede (lastOr before u) = true → read (v ++ rest) = none

theorem silent_iff_drop :
    Silent read before cs rest ↔
      ∀ n < cs.length, mayPrecede (lastOr before (cs.take n)) = true →
        read (cs.drop n ++ rest) = none := by
  constructor
  · intro h n hn
    exact h (cs.take n) (cs.drop n) (List.take_append_drop n cs).symm (by simpa using hn)
  · rintro h u v rfl hv
    simpa using h u.length (by simpa using List.length_pos_iff.2 hv)

instance : Decidable (Silent read before cs rest) := decidable_of_iff _ silent_iff_drop.symm

theorem silent_nil : Silent read before [] rest := by
  intro u v h hv
  simp_all

theorem silent_cons :
    Silent read before (c :: cs) rest ↔
      (mayPrecede before = true → read (c :: cs ++ rest) = none) ∧ Silent read (some c) cs rest := by
  constructor
  · intro h
    refine ⟨h [] (c :: cs) rfl (by simp), fun u v hcs hv hu => ?_⟩
    exact h (c :: u) v (by simp [hcs]) hv (by rwa [lastOr_cons])
  · rintro ⟨hhead, htail⟩ u v hcs hv hu
    cases u with
    | nil => exact List.nil_append v ▸ hcs ▸ hhead hu
    | cons d u =>
      obtain ⟨rfl, rfl⟩ := List.cons.inj hcs
      exact htail u v rfl hv (by rwa [lastOr_cons] at hu)

theorem silent_append :
    Silent read before (xs ++ ys) rest ↔
      Silent read before xs (ys ++ rest) ∧ Silent read (lastOr before xs) ys rest := by
  induction xs generalizing before with
  | nil => simp [silent_nil]
  | cons c xs ih =>
    rw [List.cons_append, silent_cons, silent_cons, ih, lastOr_cons, and_assoc]
    simp

/-- Nothing begins after the first character of a word. -/
theorem silent_of_isName (hc : mayPrecede before = false) (h : ∀ d ∈ cs, isName d = true) :
    Silent read before cs rest := by
  induction cs generalizing before with
  | nil => exact silent_nil
  | cons d cs ih =>
    have hd : mayPrecede (some d) = false := by simp [mayPrecede, h d List.mem_cons_self]
    exact silent_cons.2 ⟨by simp [hc], ih hd fun e he => h e (List.mem_cons_of_mem _ he)⟩

/-- What stands before a text matters only for a form at its start. -/
theorem scanFrom_congr_before {before' : Option Char} (h : mayPrecede before = mayPrecede before') :
    scanFrom read offset before 0 cs = scanFrom read offset before' 0 cs := by
  cases cs with
  | nil => rfl
  | cons c cs => simp only [scanFrom, h]

theorem scanFrom_skip :
    scanFrom read offset before xs.length (xs ++ rest) =
      scanFrom read (offset + xs.length) (lastOr before xs) 0 rest := by
  induction xs generalizing offset before with
  | nil => rfl
  | cons c xs ih =>
    rw [List.length_cons, List.cons_append, scanFrom, ih, lastOr_cons]
    congr 1
    omega

theorem scanFrom_silent (offset : Nat) (h : Silent read before xs rest) :
    scanFrom read offset before 0 (xs ++ rest) =
      scanFrom read (offset + xs.length) (lastOr before xs) 0 rest := by
  induction xs generalizing offset before with
  | nil => rfl
  | cons c xs ih =>
    obtain ⟨hhead, htail⟩ := silent_cons.1 h
    have hnone : (if mayPrecede before = true then read (c :: (xs ++ rest)) else none) = none := by
      simpa using hhead
    rw [List.cons_append, scanFrom, hnone, lastOr_cons, List.length_cons, Nat.add_comm xs.length,
      ← Nat.add_assoc]
    exact ih _ htail

theorem scanFrom_read (offset : Nat) (hbefore : mayPrecede before = true) (hne : xs ≠ [])
    (h : read (xs ++ rest) = some ⟨x, xs.length⟩) :
    scanFrom read offset before 0 (xs ++ rest) =
      (offset, x) :: scanFrom read (offset + xs.length) (lastOr before xs) 0 rest := by
  obtain ⟨c, xs, rfl⟩ := List.exists_cons_of_ne_nil hne
  have hsome : (if mayPrecede before = true then read (c :: (xs ++ rest)) else none) =
      some ⟨x, xs.length + 1⟩ := by
    rw [if_pos hbefore]
    exact h
  rw [List.cons_append, scanFrom, hsome]
  simp only [Nat.add_sub_cancel]
  rw [scanFrom_skip, lastOr_cons, List.length_cons]
  congr 2
  omega

/-- What is found behind a stretch is what is found without it, moved by its length. -/
theorem scanFrom_add (d : Nat) :
    scanFrom read (d + offset) before k cs =
      (scanFrom read offset before k cs).map fun found => (d + found.1, found.2) := by
  induction cs generalizing offset before k with
  | nil => rfl
  | cons c cs ih =>
    cases k with
    | succ k =>
      rw [scanFrom, scanFrom, Nat.add_assoc]
      exact ih
    | zero =>
      unfold scanFrom
      split
      next f _ =>
        rw [Nat.add_assoc, ih]
        rfl
      next =>
        rw [Nat.add_assoc, ih]

theorem scanFrom_eq_map_scan (h : mayPrecede before = true) :
    scanFrom read offset before 0 cs =
      (scan read cs).map fun found => (offset + found.1, found.2) := by
  rw [scan, ← scanFrom_add, Nat.add_zero]
  exact scanFrom_congr_before h

/-- Whatever is found was read where it stands. -/
theorem exists_read_of_mem_scanFrom (h : (n, x) ∈ scanFrom read offset before k cs) :
    ∃ u v f, cs = u ++ v ∧ n = offset + u.length ∧ read v = some f ∧ f.what = x := by
  induction cs generalizing offset before k with
  | nil => simp [scanFrom] at h
  | cons c cs ih =>
    have behindHead : ∀ {before k}, (n, x) ∈ scanFrom read (offset + 1) before k cs →
        ∃ u v f, c :: cs = u ++ v ∧ n = offset + u.length ∧ read v = some f ∧ f.what = x := by
      intro before k hmem
      obtain ⟨u, v, f, hcs, hn, hread, hx⟩ := ih hmem
      refine ⟨c :: u, v, f, by simp [hcs], ?_, hread, hx⟩
      rw [hn, List.length_cons]
      omega
    cases k with
    | succ k => exact behindHead h
    | zero =>
      unfold scanFrom at h
      split at h
      next f hf =>
        rcases List.mem_cons.1 h with heq | h
        · obtain ⟨rfl, rfl⟩ := Prod.mk.inj heq
          refine ⟨[], c :: cs, f, rfl, rfl, ?_, rfl⟩
          by_cases hb : mayPrecede before = true
          · simpa [hb] using hf
          · simp [hb] at hf
        · exact behindHead h
      next => exact behindHead h

/-- A scan goes forward. -/
theorem pairwise_scanFrom :
    (scanFrom read offset before k cs).Pairwise (fun a b => a.1 < b.1) ∧
      ∀ found ∈ scanFrom read offset before k cs, offset ≤ found.1 := by
  induction cs generalizing offset before k with
  | nil => simp [scanFrom]
  | cons c cs ih =>
    have hbehind : ∀ {before k}, ∀ found ∈ scanFrom read (offset + 1) before k cs, offset < found.1 :=
      fun found hfound => ih.2 found hfound
    cases k with
    | succ k => exact ⟨ih.1, fun found hfound => (hbehind found hfound).le⟩
    | zero =>
      unfold scanFrom
      split
      next =>
        refine ⟨List.pairwise_cons.2 ⟨hbehind, ih.1⟩, List.forall_mem_cons.2 ⟨Nat.le_refl _, ?_⟩⟩
        exact fun found hfound => (hbehind found hfound).le
      next => exact ⟨ih.1, fun found hfound => (hbehind found hfound).le⟩

/-- In a stretch that is not silent the first form stands behind a silent part of it. -/
theorem silent_or_first (read : List Char → Option (Found α)) (before : Option Char)
    (cs rest : List Char) :
    Silent read before cs rest ∨
      ∃ u v f, cs = u ++ v ∧ v ≠ [] ∧ Silent read before u (v ++ rest) ∧
        mayPrecede (lastOr before u) = true ∧ read (v ++ rest) = some f := by
  induction cs generalizing before with
  | nil => exact .inl silent_nil
  | cons c cs ih =>
    by_cases hhead : mayPrecede before = true ∧ read (c :: cs ++ rest) ≠ none
    · obtain ⟨f, hf⟩ := Option.ne_none_iff_exists'.1 hhead.2
      exact .inr ⟨[], c :: cs, f, rfl, by simp, silent_nil, hhead.1, hf⟩
    · have hnone : mayPrecede before = true → read (c :: cs ++ rest) = none := by
        simpa using hhead
      rcases ih (some c) with htail | ⟨u, v, f, rfl, hv, hu, hlast, hf⟩
      · exact .inl (silent_cons.2 ⟨hnone, htail⟩)
      · exact .inr ⟨c :: u, v, f, rfl, hv, silent_cons.2 ⟨by simpa using hnone, hu⟩,
          by rwa [lastOr_cons], hf⟩

/-- A form that begins in a stretch is found there. -/
theorem exists_mem_scanFrom_of_not_silent (offset : Nat) (h : ¬ Silent read before cs rest) :
    ∃ n x, (n, x) ∈ scanFrom read offset before 0 (cs ++ rest) ∧ n < offset + cs.length := by
  obtain ⟨u, v, f, rfl, hv, hu, hlast, hf⟩ := (silent_or_first read before cs rest).resolve_left h
  obtain ⟨c, v, rfl⟩ := List.exists_cons_of_ne_nil hv
  refine ⟨offset + u.length, f.what, ?_, by simp⟩
  rw [List.append_assoc, scanFrom_silent _ hu, List.cons_append, scanFrom, if_pos hlast,
    show read (c :: (v ++ rest)) = some f from hf]
  exact List.mem_cons_self

end Coselect.Imports
