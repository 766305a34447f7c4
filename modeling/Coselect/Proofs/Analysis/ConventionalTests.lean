import Coselect.Analysis.TestFile
import Coselect.Proofs.Graph.Sorted
import Coselect.Proofs.Path.Descent

/-! The conventional tests of a file by its way from the root of the workspace. Every one of them is a way
from the root that depends on the way of the file alone, but that there are parallel trees for a file in a
directory only if the root is not the root of the file system. -/

namespace Coselect.Analysis

open Coselect.Path Text

variable {root slashes last stem r : String} {place above suffixes : List String}

/-! ### Parallel directories -/

/-- The components of the directories that answer to a directory in the parallel trees. -/
def parallelTrees (above : List String) : List (List String) :=
  if above.head?.any testTrees.contains then []
  else testTrees.map (· :: if above.head? = some "src" then above.drop 1 else above)

theorem parallelDirectories_eq (h : Roots root slashes place) (habove : ∀ part ∈ above, Plain part) :
    parallelDirectories root (combineAll root above) =
      if place = [] ∧ above ≠ [] then [] else (parallelTrees above).map (combineAll root) := by
  have hskip : (combineAll root above ≠ root ∧
      (!startsWith (root ++ "/") (combineAll root above)) = true) ↔ place = [] ∧ above ≠ [] := by
    by_cases hnil : above = []
    · simp [hnil, combineAll]
    · rw [Ne, h.combineAll_eq_self_iff habove, Bool.not_eq_true', ← Bool.not_eq_true,
        h.startsWith_combineAll hnil habove, not_not, and_comm]
  have hparts := h.split_relative habove
  unfold parallelDirectories
  simp only [hskip, hparts]
  split
  · rfl
  · unfold parallelTrees
    split
    · rfl
    · simp [Function.comp_def]

/-! ### The ways to the tests -/

/-- The ways to the tests next to a file and in the directory of tests there. -/
def nearWays (above : List String) (stem : String) (suffixes : List String) : List (List String) :=
  (suffixes.flatMap fun s => (marked stem s).map fun n => above ++ [n]) ++
    suffixes.flatMap fun s => ((stem ++ s) :: marked stem s).map fun n => above ++ [testDirectory, n]

/-- The ways to the tests of a file in the parallel trees. -/
def parallelWays (above : List String) (stem : String) (suffixes : List String) : List (List String) :=
  (parallelTrees above).flatMap fun tree =>
    suffixes.flatMap fun s => (marked stem s).map fun n => tree ++ [n]

/-- The tests that the conventions name for a file some way below a root, from the root. -/
def testWays (parallel : Bool) (way : String) (suffixes : List String) : List String :=
  let parts := resolveDots (split '/' way)
  let above := parts.dropLast
  let stem := (cutSuffix (parts.getLastD "")).1
  let ways := nearWays above stem suffixes ++ if parallel then parallelWays above stem suffixes else []
  ((ways.map (combineAll "")).filter (· ≠ combineAll "" parts)).eraseDups

/-- A name keeps some of its characters without its suffix. -/
theorem relative_stem (h : Plain last) : Relative (cutSuffix last).1 := by
  have hcut : cutAtSlash last.toList = ([], last.toList) := by
    have hall : cutAtSlash ([] ++ last.toList) = ([], last.toList) :=
      cutAtSlash_append h.noSlash leaves_nil
    rwa [List.nil_append] at hall
  have hstem : (cutBase last.toList).1 ≠ [] := by
    unfold cutBase
    dsimp only
    split
    next => simpa using h.ne_empty
    next hno =>
      intro hnil
      have hnil : List.take _ _ = [] := hnil
      exact hno (by rw [hnil]; simp)
  have hchars : (cutSuffix last).1.toList = (cutBase last.toList).1 := by
    unfold cutSuffix
    rw [hcut]
    simp
  refine ⟨fun hempty => hstem (by rw [← hchars, hempty]; rfl), ?_⟩
  rw [Bool.eq_false_iff, Ne, startsWith_slash_iff]
  exact fun hhead => h.noSlash (mem_cutSuffix (.inl (List.mem_of_head? hhead)))

theorem conventionalTests_eq (h : Roots root slashes place) (habove : ∀ part ∈ above, Plain part)
    (hlast : Plain last) (hr : normalize r = combineAll root (above ++ [last])) :
    conventionalTests root r suffixes =
      (((nearWays above (cutSuffix last).1 suffixes ++ if place = [] ∧ above ≠ [] then [] else
        parallelWays above (cutSuffix last).1 suffixes).map (combineAll root)).filter
          (· ≠ combineAll root (above ++ [last]))).eraseDups := by
  have hdir := h.combineAll habove
  have hpath : combineAll root (above ++ [last]) = combine (combineAll root above) last := by
    simp [combineAll]
  have hbase : baseName (combineAll root (above ++ [last])) = last := by
    rw [hpath, hdir.baseName_combine hlast]
  have hdirectory : directory (combineAll root (above ++ [last])) = combineAll root above := by
    rw [hpath, hdir.directory_combine hlast]
  have hstep : ∀ parts ways, combineAll root (parts ++ ways) = combineAll (combineAll root parts) ways :=
    fun parts ways => List.foldl_append ..
  unfold conventionalTests
  simp only [h.normalize_eq, hr, hbase, hdirectory, parallelDirectories_eq h habove]
  have hone : ∀ dir n, combineAll dir [n] = combine dir n := fun _ _ => rfl
  congr 2
  split_ifs <;> simp [nearWays, parallelWays, List.map_flatMap, List.flatMap_map, hstep, hone,
    Function.comp_def]

theorem relative_of_mem_marked {n s : String} (h : Relative stem) (hn : n ∈ marked stem s) :
    Relative n := by
  obtain ⟨m, -, rfl⟩ := List.mem_map.1 hn
  exact (h.append m).append s

theorem plain_of_mem_parallelTrees {tree : List String} (habove : ∀ part ∈ above, Plain part)
    (htree : tree ∈ parallelTrees above) : ∀ part ∈ tree, Plain part := by
  unfold parallelTrees at htree
  split at htree
  · cases htree
  · obtain ⟨first, hfirst, rfl⟩ := List.mem_map.1 htree
    have htrees : ∀ tree ∈ testTrees, Plain tree := by decide
    refine List.forall_mem_cons.2 ⟨htrees first hfirst, fun part hpart => habove part ?_⟩
    split at hpart
    · exact List.mem_of_mem_drop hpart
    · exact hpart

/-- Every way to a test is a way from the root. -/
theorem relative_of_mem_ways {way : List String} (habove : ∀ part ∈ above, Plain part)
    (hstem : Relative stem)
    (hway : way ∈ nearWays above stem suffixes ++ parallelWays above stem suffixes) :
    way ≠ [] ∧ ∀ part ∈ way, Relative part := by
  have habove' : ∀ part ∈ above, Relative part := fun part hpart => (habove part hpart).relative
  have hdir : Relative testDirectory := Plain.relative (by decide)
  simp only [nearWays, parallelWays, List.mem_append, List.mem_flatMap, List.mem_map, List.mem_cons] at hway
  rcases hway with (⟨s, -, n, hn, rfl⟩ | ⟨s, -, n, hn, rfl⟩) | ⟨tree, htree, s, -, n, hn, rfl⟩
  · have hn := relative_of_mem_marked hstem hn
    exact ⟨by simp, by simpa [or_imp, forall_and] using ⟨habove', hn⟩⟩
  · have hn : Relative n := by
      rcases hn with rfl | hn
      · exact hstem.append s
      · exact relative_of_mem_marked hstem hn
    exact ⟨by simp, by simpa [or_imp, forall_and] using ⟨habove', hdir, hn⟩⟩
  · have hn := relative_of_mem_marked hstem hn
    have htree : ∀ part ∈ tree, Relative part := fun part hpart =>
      (plain_of_mem_parallelTrees habove htree part hpart).relative
    exact ⟨by simp, by simpa [or_imp, forall_and] using ⟨htree, hn⟩⟩

theorem testWays_eq (hparts : resolveDots (split '/' r) = above ++ [last]) (parallel : Bool) :
    testWays parallel r suffixes =
      (((nearWays above (cutSuffix last).1 suffixes ++
        if parallel then parallelWays above (cutSuffix last).1 suffixes else []).map (combineAll "")).filter
          (· ≠ combineAll "" (above ++ [last]))).eraseDups := by
  unfold testWays
  simp [hparts]

theorem testWays_extends (hparts : resolveDots (split '/' r) = above ++ [last]) :
    testWays false r suffixes <+: testWays true r suffixes := by
  rw [testWays_eq hparts, testWays_eq hparts]
  simp only [Bool.false_eq_true, if_false, if_true, List.append_nil, List.map_append, List.filter_append,
    List.eraseDups_append]
  exact List.prefix_append ..

/-- The same ways below a root are the tests of a file there. -/
theorem conventionalTests_eq_map (h : Roots root slashes place)
    (hparts : resolveDots (split '/' r) = above ++ [last]) (hr : Below r) (parallel : Bool)
    (hparallel : parallel = false ↔ place = [] ∧ above ≠ []) :
    conventionalTests root (combine root r) suffixes =
      (testWays parallel r suffixes).map (combine root) := by
  have hplain : ∀ part ∈ above ++ [last], Plain part := hparts ▸ plain_resolveDots_split
  obtain ⟨habove, hlast⟩ := List.forall_mem_append.1 hplain
  have hlast : Plain last := hlast last (List.mem_singleton_self last)
  have hnormal := h.normalize_combine hr
  rw [hparts] at hnormal
  have hcount : (if place = [] ∧ above ≠ [] then [] else
      parallelWays above (cutSuffix last).1 suffixes) =
      if parallel then parallelWays above (cutSuffix last).1 suffixes else [] := by
    cases parallel
    · rw [if_pos (hparallel.1 rfl)]
      rfl
    · rw [if_neg fun hboth => Bool.noConfusion (hparallel.2 hboth)]
      rfl
  have hpath : combineAll root (above ++ [last]) = lead root ++ combineAll "" (above ++ [last]) :=
    combineAll_eq_lead_append root (by simp) fun part hpart => (hplain part hpart).relative
  have hways : ∀ way ∈ nearWays above (cutSuffix last).1 suffixes ++
      if parallel then parallelWays above (cutSuffix last).1 suffixes else [],
      way ≠ [] ∧ ∀ part ∈ way, Relative part := by
    intro way hway
    have hall : way ∈ nearWays above (cutSuffix last).1 suffixes ++
        parallelWays above (cutSuffix last).1 suffixes := by
      cases parallel
      · exact List.mem_append_left _ (by simpa using hway)
      · exact hway
    exact relative_of_mem_ways habove (relative_stem hlast) hall
  rw [conventionalTests_eq h habove hlast hnormal, testWays_eq hparts, hcount, hpath]
  generalize nearWays above (cutSuffix last).1 suffixes ++
    (if parallel then parallelWays above (cutSuffix last).1 suffixes else []) = ways at hways
  generalize combineAll "" (above ++ [last]) = path
  have hlead : Function.Injective (lead root ++ ·) := fun _ _ => (String.append_right_inj _).1
  calc ((ways.map (combineAll root)).filter (· ≠ lead root ++ path)).eraseDups
    _ = (((ways.map (combineAll "")).map (lead root ++ ·)).filter (· ≠ lead root ++ path)).eraseDups := by
        rw [List.map_map]
        exact congrArg (fun xs => (xs.filter (· ≠ lead root ++ path)).eraseDups)
          (List.map_congr_left fun way hway =>
            combineAll_eq_lead_append root (hways way hway).1 (hways way hway).2)
    _ = ((ways.map (combineAll "")).filter (· ≠ path)).eraseDups.map (lead root ++ ·) :=
        eraseDups_filter_map hlead path _
    _ = ((ways.map (combineAll "")).filter (· ≠ path)).eraseDups.map (combine root) := by
        refine List.map_congr_left fun x hx => ?_
        rw [List.mem_eraseDups, List.mem_filter] at hx
        obtain ⟨way, hway, rfl⟩ := List.mem_map.1 hx.1
        have hrelative := (combineAll_eq_combine root (hways way hway).1 (hways way hway).2).2
        exact (combine_eq_lead_append hrelative.noSlash).symm

/-- Below every root the conventions name the same tests, but that the parallel trees count for a file
in a directory only where the root has a component. -/
theorem conventionalTests_below (hr : Below r) (suffixes : List String) :
    testWays false r suffixes <+: testWays true r suffixes ∧
    ∀ root, normalize root = root →
      conventionalTests root (combine root r) suffixes =
        (testWays (¬ (root = "/" ∨ root = "//") ∨ (resolveDots (split '/' r)).length ≤ 1) r
          suffixes).map (combine root) ∧
      (conventionalTests root (combine root r) suffixes).Nodup ∧
      normalize (combine root r) ∉ conventionalTests root (combine root r) suffixes := by
  obtain ⟨above, last, hparts⟩ :=
    (List.eq_nil_or_concat' (resolveDots (split '/' r))).resolve_left hr.resolveDots_ne_nil
  refine ⟨testWays_extends hparts, fun root hroot => ?_⟩
  obtain ⟨slashes, place, h⟩ := roots_of_normalize_eq hroot
  refine ⟨conventionalTests_eq_map h hparts hr _ ?_, nodup_eraseDups _, fun hmem => ?_⟩
  · rw [decide_eq_false_iff_not, hparts, h.eq_slashes_iff]
    simp
  · rw [conventionalTests, List.mem_eraseDups, List.mem_filter] at hmem
    simpa using hmem.2

theorem conventionalTests_below_sources : Below "src/a.ts" ∧
    conventionalTests "/ws" "/ws/src/a.ts" [".ts"] =
      (testWays true "src/a.ts" [".ts"]).map (combine "/ws") ∧
    conventionalTests "/" "/src/a.ts" [".ts"] = (testWays false "src/a.ts" [".ts"]).map (combine "/") := by
  have hbelow : Below "src/a.ts" := ⟨by decide, by decide⟩
  have hroots := (conventionalTests_below hbelow [".ts"]).2
  exact ⟨hbelow, (hroots "/ws" (by decide)).1, (hroots "/" (by decide)).1⟩

/-- A file in a directory of the root has no tests in the parallel trees, where it has some below any other
directory. -/
theorem tests_differ_at_root : ¬ ∃ ways : List String,
    conventionalTests "/" "/src/a.ts" [".ts"] = ways.map (combine "/") ∧
    conventionalTests "/ws" "/ws/src/a.ts" [".ts"] = ways.map (combine "/ws") := by
  rintro ⟨ways, hroot, hws⟩
  have hlengths := (congrArg List.length hroot).trans
    ((List.length_map _).trans ((List.length_map _).symm.trans (congrArg List.length hws).symm))
  exact absurd hlengths (by decide)

end Coselect.Analysis
