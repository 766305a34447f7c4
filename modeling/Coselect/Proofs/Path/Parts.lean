import Mathlib.Data.List.Basic
import Coselect.Proofs.Text.Parts
import Coselect.Proofs.Text.Words

/-! Parts of paths. A path is what its suffix is taken from with the suffix behind it; and a suffix that is
put behind a path is the suffix of the whole, unless only points come before it in the last
component. What is made of paths has no characters but theirs, slashes and points. -/

namespace Coselect.Path

open Text

variable {base ending head path stem tail : List Char} {c : Char}

/-! ### The last component -/

theorem notMem_of_run (h : ∀ d ∈ base, (d != c) = true) : c ∉ base := fun hc => by simpa using h c hc

theorem forall_ne_of_notMem (h : c ∉ base) : ∀ d ∈ base.reverse, (d != c) = true := by
  intro d hd
  refine bne_iff_ne.2 fun e => h ?_
  rwa [← e, ← List.mem_reverse]

/-- The part of a text behind the last one of some character. -/
theorem exists_last (c : Char) (path : List Char) : ∃ head base, path = head ++ base ∧ c ∉ base ∧
    Leaves (· != c) head.reverse := by
  obtain ⟨run, rest, hpath, hrun, hrest⟩ := exists_run (· != c) path.reverse
  refine ⟨rest.reverse, run.reverse, ?_, ?_, by simpa using hrest⟩
  · rw [← List.reverse_append, ← hpath, List.reverse_reverse]
  · rw [List.mem_reverse]
    exact notMem_of_run hrun

theorem takeWhile_reverse_append (hbase : c ∉ base) (hhead : Leaves (· != c) head.reverse) :
    ((head ++ base).reverse.takeWhile (· != c)).reverse = base := by
  rw [List.reverse_append, takeWhile_run (forall_ne_of_notMem hbase) hhead, List.reverse_reverse]

theorem cutAtSlash_append (hbase : '/' ∉ base) (hhead : Leaves (· != '/') head.reverse) :
    cutAtSlash (head ++ base) = (head, base) := by
  rw [cutAtSlash, takeWhile_reverse_append hbase hhead]
  simp

/-- What has no slash belongs to the last component. -/
theorem cutAtSlash_concat (path : List Char) (hending : '/' ∉ ending) :
    cutAtSlash (path ++ ending) = ((cutAtSlash path).1, (cutAtSlash path).2 ++ ending) := by
  obtain ⟨head, base, rfl, hbase, hhead⟩ := exists_last '/' path
  have hboth : '/' ∉ base ++ ending := by simpa using ⟨hbase, hending⟩
  rw [List.append_assoc, cutAtSlash_append hboth hhead, cutAtSlash_append hbase hhead]

theorem cutAtSlash_fst_append_snd (path : List Char) :
    (cutAtSlash path).1 ++ (cutAtSlash path).2 = path := by
  obtain ⟨head, base, rfl, hbase, hhead⟩ := exists_last '/' path
  rw [cutAtSlash_append hbase hhead]

/-! ### The last point -/

theorem cutBase_append (htail : '.' ∉ tail) : cutBase (stem ++ '.' :: tail) =
    if stem.all (· == '.') then (stem ++ '.' :: tail, []) else (stem, '.' :: tail) := by
  have hsplit : stem ++ '.' :: tail = (stem ++ ['.']) ++ tail := by simp
  have hlast : ((stem ++ '.' :: tail).reverse.takeWhile (· != '.')).reverse = tail := by
    rw [hsplit]
    exact takeWhile_reverse_append htail (by simp)
  have hlength : (stem ++ '.' :: tail).length - tail.length - 1 = stem.length := by
    simp only [List.length_append, List.length_cons]
    omega
  have hne : tail.length ≠ (stem ++ '.' :: tail).length := by
    simp only [List.length_append, List.length_cons]
    omega
  unfold cutBase
  rw [hlast]
  dsimp only
  rw [hlength, List.take_left, decide_eq_false hne, Bool.false_or]

theorem cutBase_of_notMem (h : '.' ∉ base) : cutBase base = (base, []) := by
  have hlast : (([] ++ base).reverse.takeWhile (· != '.')).reverse = base :=
    takeWhile_reverse_append h leaves_nil
  rw [List.nil_append] at hlast
  simp [cutBase, hlast]

theorem cutBase_fst_append_snd (base : List Char) : (cutBase base).1 ++ (cutBase base).2 = base := by
  by_cases hpoint : '.' ∈ base
  · obtain ⟨head, tail, rfl, htail, hhead⟩ := exists_last '.' base
    obtain ⟨stem, rfl⟩ : ∃ stem, head = stem ++ ['.'] := by
      rcases List.eq_nil_or_concat' head with rfl | ⟨stem, last, rfl⟩
      · exact absurd hpoint htail
      · exact ⟨stem, by simpa using hhead⟩
    rw [List.append_assoc, List.singleton_append, cutBase_append htail]
    split <;> simp
  · rw [cutBase_of_notMem hpoint, List.append_nil]

/-! ### Paths -/

theorem cutSuffix_fst_append_snd (path : String) : (cutSuffix path).1 ++ (cutSuffix path).2 = path := by
  unfold cutSuffix
  dsimp only
  rw [← String.ofList_append, List.append_assoc, cutBase_fst_append_snd, cutAtSlash_fst_append_snd,
    String.ofList_toList]

/-- A suffix put behind a path, where more than points come before it in the last component. -/
theorem cutSuffix_append {path suffix : String} (htail : suffix.toList = '.' :: tail)
    (hpoint : '.' ∉ tail) (hslash : '/' ∉ tail) (hbase : ∃ c ∈ (baseName path).toList, c ≠ '.') :
    cutSuffix (path ++ suffix) = (path, suffix) := by
  have hbase : ((cutAtSlash path.toList).2.all (· == '.')) = false := by
    simpa [baseName] using hbase
  unfold cutSuffix
  rw [String.toList_append, htail, cutAtSlash_concat _ (by simpa using hslash)]
  dsimp only
  rw [cutBase_append hpoint, hbase, if_neg Bool.false_ne_true, cutAtSlash_fst_append_snd, ← htail,
    String.ofList_toList, String.ofList_toList]

section Characters

variable {path start dir name part : String} {parts acc : List String}

/-! ### Characters of components -/

theorem mem_of_mem_split (hpart : part ∈ split '/' path) (hc : c ∈ part.toList) : c ∈ path.toList := by
  obtain ⟨cs, hcs, rfl⟩ := List.mem_map.1 hpart
  exact mem_of_mem_splitAt hcs (by simpa using hc)

theorem mem_join (h : c ∈ (join "/" parts).toList) : c = '/' ∨ ∃ part ∈ parts, c ∈ part.toList := by
  rw [join, String.toList_ofList] at h
  refine (mem_joinWith h).imp (fun h => by simpa using h) ?_
  rintro ⟨cs, hcs, hc⟩
  obtain ⟨part, hpart, rfl⟩ := List.mem_map.1 hcs
  exact ⟨part, hpart, hc⟩

theorem mem_of_mem_foldl_stack (h : part ∈ parts.foldl stack acc) : part ∈ acc ∨ part ∈ parts := by
  induction parts generalizing acc with
  | nil => exact .inl h
  | cons p parts ih =>
    rcases ih h with h | h
    · unfold stack at h
      split at h
      next => exact .inl h
      next =>
        split at h
        next => exact .inl (List.mem_of_mem_drop h)
        next =>
          rcases List.mem_cons.1 h with rfl | h
          · exact .inr List.mem_cons_self
          · exact .inl h
    · exact .inr (List.mem_cons_of_mem p h)

theorem mem_of_mem_resolveDots (h : part ∈ resolveDots parts) : part ∈ parts := by
  rw [resolveDots_eq, List.mem_reverse] at h
  exact (mem_of_mem_foldl_stack h).resolve_left List.not_mem_nil

/-! ### Characters of paths -/

theorem mem_normalize (h : c ∈ (normalize path).toList) : c = '/' ∨ c ∈ path.toList := by
  rw [normalize, String.toList_append, List.mem_append] at h
  rcases h with h | h
  · rcases leadingSlashes_eq path with hs | hs <;> · rw [hs] at h; left; simpa using h
  · refine (mem_join h).imp_right ?_
    rintro ⟨part, hpart, hc⟩
    exact mem_of_mem_split (mem_of_mem_resolveDots hpart) hc

theorem mem_combine (h : c ∈ (combine dir name).toList) :
    c = '/' ∨ c ∈ dir.toList ∨ c ∈ name.toList := by
  unfold combine at h
  split at h
  next => exact .inr (.inr h)
  next =>
    split at h
    next => exact .inr (by simpa using h)
    next => simpa [or_comm, or_assoc, or_left_comm] using h

theorem mem_directory (h : c ∈ (directory path).toList) : c ∈ path.toList := by
  have hhead : ∀ c ∈ (cutAtSlash path.toList).1, c ∈ path.toList := fun c hc => List.mem_of_mem_take hc
  unfold directory at h
  simp only [String.toList_ofList] at h
  split at h
  next => exact hhead c h
  next => exact hhead c (mem_dropEndWhile h)

theorem mem_cutSuffix (h : c ∈ (cutSuffix path).1.toList ∨ c ∈ (cutSuffix path).2.toList) :
    c ∈ path.toList := by
  rw [← cutSuffix_fst_append_snd path, String.toList_append]
  exact List.mem_append.2 h

theorem mem_baseName (h : c ∈ (baseName path).toList) : c ∈ path.toList := by
  rw [baseName, String.toList_ofList] at h
  rw [← cutAtSlash_fst_append_snd path.toList]
  exact List.mem_append_right _ h

theorem mem_relative (h : c ∈ (relative path start).toList) :
    c = '.' ∨ c = '/' ∨ c ∈ path.toList := by
  unfold relative at h
  dsimp only at h
  split at h
  next => exact .inl (by simpa using h)
  next =>
    rcases mem_join h with h | ⟨part, hpart, hc⟩
    · exact .inr (.inl h)
    · rcases List.mem_append.1 hpart with hpart | hpart
      · rw [(List.mem_replicate.1 hpart).2] at hc
        exact .inl (by simpa using hc)
      · have hpart := (List.mem_filter.1 (List.mem_of_mem_drop hpart)).1
        exact .inr (mem_normalize (mem_of_mem_split hpart hc))

end Characters

end Coselect.Path
