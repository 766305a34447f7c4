import Coselect.Proofs.Analysis.OnDisk
import Coselect.Proofs.Disk.Writing
import Coselect.Proofs.Path.Parts

/-! What a specifier leads to once the mapping is loaded: the first file in one row of paths, which hangs
on the mapping, the specifier and the importing file alone. So a file that comes to the disk may be led
to, but leads nowhere else. -/

namespace Coselect.Analysis

open Disk Coselect.Path Text

variable {d : Volume} {m : Alias.Mapping} {c : Caches} {root mappingFile specifier importer : String}
  {signal : List Query → Signal} {asked : List Query} {path place : String} {parts : List String}

/-! ### The row of paths -/

theorem candidates_of_not_takes (h : m.takes specifier = false) : m.candidates specifier = [] := by
  refine List.flatMap_eq_nil_iff.2 fun e he => ?_
  have hnone := List.any_eq_false.1 h e he
  rw [Bool.not_eq_true, Option.isSome_eq_false_iff, Option.isNone_iff_eq_none] at hnone
  dsimp only
  rw [hnone]

/-- A package has no places. -/
theorem places_of_isPackage (h : isPackage m specifier = true) : places m specifier importer = [] := by
  obtain ⟨hrelative, htakes⟩ := Bool.and_eq_true_iff.1 h
  rw [Bool.not_eq_true'] at hrelative htakes
  simp [places, candidates_of_not_takes htakes, hrelative]

theorem leadOn_eq (d : Volume) (m : Alias.Mapping) (specifier importer : String) :
    leadOn d m specifier importer = ((places m specifier importer).flatMap probes).find? d.isFile := by
  rw [List.find?_flatMap]
  unfold leadOn
  split
  next hpackage => rw [places_of_isPackage hpackage, List.findSome?_nil]
  next => rfl

/-! ### What the paths are -/

theorem spells_of_mem_places (h : place ∈ places m specifier importer) :
    ∃ parts, Spells place parts := by
  obtain ⟨path, rfl⟩ : ∃ path, place = normalize path := by
    rcases List.mem_append.1 h with h | h
    · obtain ⟨e, -, h⟩ := List.mem_flatMap.1 h
      dsimp only at h
      split at h
      next => cases h
      next =>
        obtain ⟨target, -, rfl⟩ := List.mem_map.1 h
        exact ⟨_, rfl⟩
    · split at h
      next => exact ⟨_, List.mem_singleton.1 h⟩
      next => cases h
  exact ⟨_, spells_normalize path⟩

/-- The suffixes are a point and more, and no character in them could end a component or a suffix. -/
theorem exists_tail {suffix : String} (h : suffix ∈ suffixes) : ∃ tail, suffix.toList = '.' :: tail ∧
    tail ≠ [] ∧ '.' ∉ tail ∧ '/' ∉ tail := by
  have hall : ∀ suffix ∈ suffixes, suffix.toList.head? = some '.' ∧ suffix.toList.tail ≠ [] ∧
      '.' ∉ suffix.toList.tail ∧ '/' ∉ suffix.toList.tail := by decide
  obtain ⟨hhead, hne, hpoint, hslash⟩ := hall suffix h
  exact ⟨_, List.eq_cons_of_mem_head? hhead, hne, hpoint, hslash⟩

theorem plain_append_suffix {suffix : String} (h : suffix ∈ suffixes) (front : String)
    (hfront : '/' ∉ front.toList) : Plain (front ++ suffix) := by
  obtain ⟨tail, htail, hne, hpoint, hslash⟩ := exists_tail h
  have hnot : ∀ s : String, (∀ c ∈ s.toList, c = '.') → front ++ suffix ≠ s := by
    rintro _ hpoints rfl
    obtain ⟨c, tail, rfl⟩ := List.exists_cons_of_ne_nil hne
    have hc : c = '.' := hpoints c (by simp [htail])
    exact hpoint (hc ▸ List.mem_cons_self)
  refine ⟨hnot _ (by simp), hnot _ (by simp), hnot _ (by simp), ?_⟩
  simp [htail, hfront, hslash]

theorem plain_of_mem_indexFiles : ∀ name ∈ indexFiles, Plain name := by decide

/-- Every path that is tried for a normal place is normal. -/
theorem spells_of_mem_probes (h : Spells place parts) (hpath : path ∈ probes place) :
    ∃ parts, Spells path parts := by
  simp only [probes, List.mem_append, List.mem_map] at hpath
  rcases hpath with (hplace | ⟨suffix, hsuffix, rfl⟩) | ⟨name, hname, rfl⟩
  · split at hplace
    next => exact ⟨parts, List.mem_singleton.1 hplace ▸ h⟩
    next => cases hplace
  · refine h.append ?_ fun name hname => plain_append_suffix hsuffix name hname.noSlash
    have hplain := plain_append_suffix hsuffix "" (by simp)
    rwa [String.empty_append] at hplain
  · exact ⟨_, h.combine (plain_of_mem_indexFiles name hname)⟩

/-- A path ends with a suffix that is tried, in upper or lower case; this is its suffix, unless only
points come before it in the last component. -/
def EndsWithSuffix (path : String) : Prop :=
  ∃ stem ending, path = stem ++ ending ∧ lower ending ∈ suffixes ∧
    ((∃ c ∈ (baseName stem).toList, c ≠ '.') → cutSuffix path = (stem, ending))

theorem endsWithSuffix_append {suffix : String} (h : suffix ∈ suffixes) (stem : String) :
    EndsWithSuffix (stem ++ suffix) := by
  have hlower : ∀ suffix ∈ suffixes, lower suffix ∈ suffixes := by decide +kernel
  obtain ⟨tail, htail, -, hpoint, hslash⟩ := exists_tail h
  exact ⟨stem, suffix, rfl, hlower suffix h, cutSuffix_append htail hpoint hslash⟩

theorem endsWithSuffix_of_hasKnownSuffix (h : hasKnownSuffix path = true) : EndsWithSuffix path := by
  rw [hasKnownSuffix, List.contains_iff_mem, Path.suffix] at h
  exact ⟨_, _, (cutSuffix_fst_append_snd path).symm, h, fun _ => rfl⟩

theorem combine_append {dir front : String} (hfront : front ≠ "") (back : String) :
    combine dir (front ++ back) = combine dir front ++ back := by
  obtain ⟨ch, cs, hcons⟩ := List.exists_cons_of_ne_nil (l := front.toList) (by simpa using hfront)
  have hstart : startsWith "/" (front ++ back) = startsWith "/" front := by
    have hslash : "/".toList = ['/'] := rfl
    simp only [startsWith, String.toList_append, hcons, hslash, List.cons_append, afterStart]
    split <;> rfl
  unfold combine
  rw [hstart]
  split
  next => rfl
  next => split <;> simp only [String.append_assoc]

theorem endsWithSuffix_of_mem_probes (hpath : path ∈ probes place) : EndsWithSuffix path := by
  simp only [probes, List.mem_append, List.mem_map] at hpath
  rcases hpath with (hplace | ⟨suffix, hsuffix, rfl⟩) | ⟨name, hname, rfl⟩
  · split at hplace
    next hknown => exact List.mem_singleton.1 hplace ▸ endsWithSuffix_of_hasKnownSuffix hknown
    next => cases hplace
  · exact endsWithSuffix_append hsuffix place
  · have hall : ∀ name ∈ indexFiles, ∃ suffix ∈ suffixes, name = "index" ++ suffix := by decide
    obtain ⟨suffix, hsuffix, rfl⟩ := hall name hname
    rw [combine_append (by decide)]
    exact endsWithSuffix_append hsuffix _

/-! ### Two disks -/

/-- The first element that satisfies a condition, where a wider one takes only some elements more. -/
theorem find?_widened {α : Type} {p p' : α → Bool} {new : α → Prop} {xs : List α}
    (hstays : ∀ x ∈ xs, p x = true → p' x = true)
    (hcomes : ∀ x ∈ xs, p' x = true → p x = true ∨ new x) :
    xs.find? p' = xs.find? p ∨ ∃ x, xs.find? p' = some x ∧ new x := by
  induction xs with
  | nil => exact .inl rfl
  | cons x xs ih =>
    have ih := ih (fun y hy => hstays y (List.mem_cons_of_mem x hy))
      fun y hy => hcomes y (List.mem_cons_of_mem x hy)
    by_cases hx : p' x = true
    · rw [List.find?_cons_of_pos hx]
      rcases hcomes x List.mem_cons_self hx with hold | hnew
      · exact .inl (List.find?_cons_of_pos hold).symm
      · exact .inr ⟨x, rfl, hnew⟩
    · have hold : ¬ p x = true := fun h => hx (hstays x List.mem_cons_self h)
      rwa [List.find?_cons_of_neg hx, List.find?_cons_of_neg hold]

/-! ### The inquiry -/

theorem run_resolve (hc : c.aliases = some m) :
    ((resolve root mappingFile specifier importer).run d signal asked c).1 =
      ((places m specifier importer).flatMap probes).find? d.isFile := by
  rw [← leadOn_eq]
  have hload : (loadAliases root mappingFile).run.Gives
      ((Surroundings.still d).under fun c => c.aliases = some m) (.ok m) := by
    refine Work.leads_caches fun c hc => ?_
    have hc : c.aliases = some m := hc
    rw [hc]
    exact Inquiry.gives_pure
  have hgives : (resolve root mappingFile specifier importer).Gives
      ((Surroundings.still d).under fun c => c.aliases = some m) (leadOn d m specifier importer) :=
    gives_resolve (w := { root, mappingFile }) Surroundings.shows_still hload fun c hc => isExternal_eq hc
  exact hgives.run hc signal asked

/-- With the mapping loaded, a specifier leads to the first file in the row of the paths that are tried
for its places, and to none if there is no file among them. The path is absolute and normal and ends
with a suffix that is tried. On a disk to which a file was written the specifier leads where it led
before or to this file. -/
theorem resolve_finds_first (d : Volume) (root mappingFile specifier importer : String)
    (signal : List Query → Signal) (asked : List Query) (hc : c.aliases = some m) :
    ((resolve root mappingFile specifier importer).run d signal asked c).1 =
      ((places m specifier importer).flatMap probes).find? d.isFile ∧
    (∀ path, ((resolve root mappingFile specifier importer).run d signal asked c).1 = some path →
      startsWith "/" path = true ∧ normalize path = path ∧ EndsWithSuffix path) ∧
    ∀ place content modified, (∀ part ∈ place, Plain part) →
      ((resolve root mappingFile specifier importer).run (d.written place content modified) signal asked
          c).1 =
        ((resolve root mappingFile specifier importer).run d signal asked c).1 ∨
      ∃ path, ((resolve root mappingFile specifier importer).run (d.written place content modified) signal
          asked c).1 = some path ∧ (path = pathOf place ∨ path = "/" ++ pathOf place) := by
  have hspells : ∀ path ∈ (places m specifier importer).flatMap probes, ∃ parts, Spells path parts := by
    intro path hpath
    obtain ⟨place, hplace, hpath⟩ := List.mem_flatMap.1 hpath
    obtain ⟨parts, hparts⟩ := spells_of_mem_places hplace
    exact spells_of_mem_probes hparts hpath
  refine ⟨run_resolve hc, fun path hfound => ?_, fun place content modified hplain => ?_⟩
  · rw [run_resolve hc] at hfound
    have hmem := List.mem_of_find?_eq_some hfound
    obtain ⟨parts, hparts⟩ := hspells path hmem
    obtain ⟨place, -, hpath⟩ := List.mem_flatMap.1 hmem
    exact ⟨hparts.isAbsolute, hparts.normalize_eq, endsWithSuffix_of_mem_probes hpath⟩
  · rw [run_resolve hc, run_resolve hc]
    refine find?_widened (fun path hpath hfile => ?_) fun path hpath hfile => ?_
    · obtain ⟨parts, hparts⟩ := hspells path hpath
      exact Volume.isFile_written_of_isFile hplain content modified hparts hfile
    · obtain ⟨parts, hparts⟩ := hspells path hpath
      exact (Volume.isFile_of_isFile_written hplain content modified hparts hfile).imp_right (·.eq)

/-- A disk with an index file, and caches with a mapping. -/
def indexed : Volume where
  tree := .directory [("ws", .directory [("a", .directory [("index.ts", .file (.text "") 0)])])]

def withMapping : Caches where
  aliases := some ⟨"/ws", [("@/*", ["none/*", "*"])]⟩
  imports := .ofSize 1

theorem resolve_finds_first_indexed :
    withMapping.aliases = some ⟨"/ws", [("@/*", ["none/*", "*"])]⟩ ∧
      (∀ part ∈ ["ws", "a.ts"], Plain part) ∧
      ((resolve "/ws" "tsconfig.json" "@/a" "/ws/b.ts").run indexed quiet [] withMapping).1 =
        some "/ws/a/index.ts" ∧
      ((resolve "/ws" "tsconfig.json" "@/a" "/ws/b.ts").run
        (indexed.written ["ws", "a.ts"] (.text "") 0) quiet [] withMapping).1 = some "/ws/a.ts" := by
  have hc : withMapping.aliases = some ⟨"/ws", [("@/*", ["none/*", "*"])]⟩ := rfl
  have hplain : ∀ part ∈ ["ws", "a.ts"], Plain part := by decide
  have hfirst := fun d =>
    resolve_finds_first d "/ws" "tsconfig.json" "@/a" "/ws/b.ts" quiet [] hc
  refine ⟨hc, hplain, ?_, ?_⟩
  · rw [(hfirst indexed).1]
    decide +kernel
  · rw [(hfirst (indexed.written ["ws", "a.ts"] (.text "") 0)).1]
    decide +kernel

end Coselect.Analysis
