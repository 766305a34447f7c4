import Mathlib.Data.List.Induction
import Coselect.Disk.Query
import Coselect.Proofs.Text.Parts
import Coselect.Proofs.Text.Words

/-! Places in a tree and the paths that lead to them. Where every name can be a component, the path
of the components that lead to an entry leads to this entry and to no other, and whatever a path leads
to is listed in the directory above it. Every normal path has the components of a place behind one slash
or two. -/

namespace Coselect.Path

open Text

variable {place parts : List String} {name : String}

instance : DecidablePred Plain := fun part =>
  decidable_of_iff (part ≠ "" ∧ part ≠ "." ∧ part ≠ ".." ∧ '/' ∉ part.toList)
    ⟨fun ⟨h₁, h₂, h₃, h₄⟩ => ⟨h₁, h₂, h₃, h₄⟩, fun h => ⟨h.ne_empty, h.ne_dot, h.ne_dots, h.noSlash⟩⟩

/-- The path of a place, from the components that lead there. -/
def pathOf (place : List String) : String := "/" ++ join "/" place

theorem split_pathOf_nil : split '/' (pathOf []) = ["", ""] := rfl

theorem split_pathOf (hne : place ≠ []) (hplain : ∀ part ∈ place, Plain part) :
    split '/' (pathOf place) = "" :: place := by
  rw [pathOf, split_slash_append, split_join hne fun part hpart => (hplain part hpart).noSlash]

theorem splitAt_pathOf (hne : place ≠ []) (hplain : ∀ part ∈ place, Plain part) :
    splitAt '/' (pathOf place).toList = [] :: place.map String.toList := by
  have h := congrArg (List.map String.toList) (split_pathOf hne hplain)
  simpa [split, Function.comp_def] using h

theorem pathOf_injective (hplace : ∀ part ∈ place, Plain part) (hparts : ∀ part ∈ parts, Plain part)
    (h : pathOf place = pathOf parts) : place = parts := by
  have hback : ∀ {place : List String}, (∀ part ∈ place, Plain part) →
      resolveDots (split '/' (pathOf place)) = place := fun hplain => by
    rw [pathOf, split_slash_append, resolveDots_empty_cons, resolveDots_split_join hplain]
  rw [← hback hplace, h, hback hparts]

theorem join_append (hplace : place ≠ []) (hparts : parts ≠ []) :
    join "/" (place ++ parts) = join "/" place ++ ("/" ++ join "/" parts) := by
  have hsep : "/".toList = ['/'] := rfl
  have hplace : place.map String.toList ≠ [] := by simpa using hplace
  have hparts : parts.map String.toList ≠ [] := by simpa using hparts
  rw [← String.toList_inj]
  simp [join, hsep, joinWith_append hplace hparts]

@[simp] theorem join_singleton : join "/" [name] = name := by simp [join, joinWith]

theorem pathOf_append (hplace : place ≠ []) (hparts : parts ≠ []) :
    pathOf (place ++ parts) = pathOf place ++ pathOf parts := by
  rw [pathOf, join_append hplace hparts, ← String.append_assoc]
  rfl

theorem exists_pathOf_append (place parts : List String) :
    ∃ rest, pathOf (place ++ parts) = pathOf place ++ rest := by
  by_cases hplace : place = []
  · exact ⟨join "/" parts, by rw [hplace]; rfl⟩
  by_cases hparts : parts = []
  · exact ⟨"", by rw [hparts, List.append_nil, String.append_empty]⟩
  · exact ⟨pathOf parts, pathOf_append hplace hparts⟩

theorem exists_pathOf_concat (place : List String) (name : String) :
    ∃ front, pathOf (place ++ [name]) = front ++ name := by
  by_cases hplace : place = []
  · exact ⟨"/", by rw [hplace, List.nil_append, pathOf, join_singleton]⟩
  · refine ⟨pathOf place ++ "/", ?_⟩
    rw [pathOf_append hplace (by simp), String.append_assoc, pathOf, pathOf, join_singleton]

theorem endsWith_slash_iff {s : String} : endsWith "/" s = true ↔ s.toList.getLast? = some '/' := by
  simp only [endsWith, Option.isSome_iff_exists, afterStart_eq_some_iff, List.getLast?_eq_head?_reverse,
    List.head?_eq_some_iff]
  exact Iff.rfl

theorem endsWith_slash_append {front s : String} (h : s ≠ "") :
    endsWith "/" (front ++ s) = endsWith "/" s := by
  have hne : s.toList ≠ [] := by simpa using h
  rw [Bool.eq_iff_iff, endsWith_slash_iff, endsWith_slash_iff, String.toList_append,
    List.getLast?_append_of_ne_nil _ hne]

theorem endsWith_slash_pathOf (hne : place ≠ []) (hplain : ∀ part ∈ place, Plain part) :
    endsWith "/" (pathOf place) = false := by
  obtain ⟨place, name, rfl⟩ := (List.eq_nil_or_concat' place).resolve_left hne
  have hname : Plain name := hplain name (by simp)
  obtain ⟨front, hpath⟩ := exists_pathOf_concat place name
  rw [hpath, endsWith_slash_append hname.ne_empty, Bool.eq_false_iff, Ne, endsWith_slash_iff]
  exact fun hlast => hname.noSlash (List.mem_of_getLast? hlast)

theorem combine_pathOf (hplace : ∀ part ∈ place, Plain part) (hname : Plain name) :
    combine (pathOf place) name = pathOf (place ++ [name]) := by
  have hstart : startsWith "/" (join "/" [name]) = false := startsWith_slash_join (by simpa using hname)
  rw [join_singleton] at hstart
  unfold combine
  rw [hstart]
  by_cases hne : place = []
  · subst hne
    rw [List.nil_append, pathOf, pathOf, join_singleton]
    rfl
  · have hend := endsWith_slash_pathOf hne hplace
    have hpath : pathOf place ≠ "" := by
      rw [pathOf, Ne, String.append_eq_empty_iff]
      simp
    have hslash : pathOf [name] = "/" ++ name := by rw [pathOf, join_singleton]
    rw [hend, pathOf_append hne (by simp), hslash]
    simp [hpath, String.append_assoc]

/-! ### The two normal paths of a place -/

variable {path : String}

/-- A path is one of the two normal paths of a place. -/
structure Spells (path : String) (place : List String) : Prop where
  plain : ∀ part ∈ place, Plain part
  eq : path = pathOf place ∨ path = "/" ++ pathOf place

theorem spells_normalize (path : String) :
    Spells (normalize path) (resolveDots (split '/' path)) := by
  refine ⟨plain_resolveDots_split, ?_⟩
  unfold normalize
  rcases leadingSlashes_eq path with h | h
  · exact .inl (by rw [h]; rfl)
  · exact .inr (by rw [h, pathOf, ← String.append_assoc]; rfl)

theorem pathOf_ne_empty (place : List String) : pathOf place ≠ "" := by
  rw [pathOf, Ne, String.append_eq_empty_iff]
  simp

theorem startsWith_slash_cons (s : String) : startsWith "/" ("/" ++ s) = true :=
  startsWith_append_append "/" "" s

/-- A slash in front of an absolute directory is in front of what is combined with it. -/
theorem combine_slash_append {dir : String} (hdir : dir ≠ "") (hname : startsWith "/" name = false) :
    combine ("/" ++ dir) name = "/" ++ combine dir name := by
  unfold combine
  rw [hname, endsWith_slash_append hdir]
  cases endsWith "/" dir <;> simp [hdir, String.append_assoc]

theorem Plain.startsWith_slash (h : Plain name) : startsWith "/" name = false := by
  have hstart : startsWith "/" (join "/" [name]) = false := startsWith_slash_join (by simpa using h)
  rwa [join_singleton] at hstart

namespace Spells

theorem normalize_eq (h : Spells path place) : normalize path = path := by
  rcases h.eq with rfl | rfl
  · exact normalize_of_plain (.inl rfl) h.plain
  · rw [pathOf, ← String.append_assoc]
    exact normalize_of_plain (.inr rfl) h.plain

theorem isAbsolute (h : Spells path place) : startsWith "/" path = true := by
  rcases h.eq with rfl | rfl
  · exact startsWith_slash_cons _
  · exact startsWith_slash_cons _

theorem combine (h : Spells path place) (hname : Plain name) :
    Spells (Path.combine path name) (place ++ [name]) := by
  have hplain : ∀ part ∈ place ++ [name], Plain part := by
    simpa [or_imp, forall_and] using ⟨h.plain, hname⟩
  refine ⟨hplain, ?_⟩
  rcases h.eq with rfl | rfl
  · exact .inl (combine_pathOf h.plain hname)
  · rw [combine_slash_append (pathOf_ne_empty _) hname.startsWith_slash, combine_pathOf h.plain hname]
    exact .inr rfl

/-- What is added to the end of a normal path extends its last component. -/
theorem append {extension : String} (h : Spells path place) (hextension : Plain extension)
    (hlast : ∀ name, Plain name → Plain (name ++ extension)) :
    ∃ place', Spells (path ++ extension) place' := by
  have hpath : ∃ place', (∀ part ∈ place', Plain part) ∧ pathOf place ++ extension = pathOf place' := by
    rcases List.eq_nil_or_concat' place with rfl | ⟨above, name, rfl⟩
    · exact ⟨[extension], by simpa using hextension, by rw [pathOf, pathOf, join_singleton]; rfl⟩
    · obtain ⟨habove, hname⟩ := List.forall_mem_append.1 h.plain
      have hnew := hlast name (hname name (by simp))
      refine ⟨above ++ [name ++ extension], by simpa [or_imp, forall_and] using ⟨habove, hnew⟩, ?_⟩
      by_cases hne : above = []
      · simp [hne, pathOf, String.append_assoc]
      · rw [pathOf_append hne (by simp), pathOf_append hne (by simp), String.append_assoc]
        simp [pathOf, String.append_assoc]
  obtain ⟨place', hplain, heq⟩ := hpath
  refine ⟨place', hplain, ?_⟩
  rcases h.eq with rfl | rfl
  · exact .inl heq
  · exact .inr (by rw [String.append_assoc, heq])

end Spells

theorem components_pathOf (hplain : ∀ part ∈ place, Plain part) : components (pathOf place) = place := by
  by_cases hne : place = []
  · subst hne
    rfl
  · rw [components, split_pathOf hne hplain, List.filter_cons_of_neg (by simp)]
    exact List.filter_eq_self.2 fun part hpart => by simpa using (hplain part hpart).ne_empty

end Coselect.Path

namespace Coselect.Disk

open Coselect.Path Text

variable {t s : Tree} {d : Volume} {above parts place : List String} {name : String}

/-- A path that is short enough and clean has such beginnings. -/
theorem faultOfPath?_append {front rest : String} (h : faultOfPath? (front ++ rest) = none) :
    faultOfPath? front = none := by
  unfold faultOfPath? at h ⊢
  rw [String.toList_append, String.utf8ByteSize_append] at h
  split at h
  next => cases h
  next hzero =>
    split at h
    next => cases h
    next hsize =>
      have hzero : ¬ front.toList.contains (Char.ofNat 0) = true := fun hin =>
        hzero (by simpa using Or.inl (by simpa using hin))
      rw [if_neg hzero, if_neg (by omega)]

namespace Tree

theorem find?_append (t : Tree) (place parts : List String) :
    t.find? (place ++ parts) = (t.find? place).bind (·.find? parts) := by
  induction place generalizing t with
  | nil => rfl
  | cons name place ih =>
    rw [List.cons_append, find?, find?, Option.bind_assoc]
    exact congrArg _ (funext fun t => ih t)

theorem follow_eq_ok_iff (hplain : ∀ part ∈ parts, Plain part) (h : t.find? above.reverse = some s) :
    t.follow above parts = .ok place ↔ place = above.reverse ++ parts ∧
      (∀ part ∈ parts, faultOfName? part = none) ∧ (s.find? parts).isSome := by
  induction parts generalizing above s with
  | nil => simp [follow, find?, eq_comm]
  | cons part parts ih =>
    obtain ⟨hpart, hparts⟩ := List.forall_mem_cons.1 hplain
    rw [follow, h]
    cases s with
    | file content modified => simp [find?, child?]
    | directory cs =>
      have hstay : ¬ (part = "" ∨ part = ".") := by simp [hpart.ne_empty, hpart.ne_dot]
      dsimp only
      rw [if_neg hstay, if_neg hpart.ne_dots]
      cases hfault : faultOfName? part with
      | some o => simp [hfault]
      | none =>
        cases hlookup : cs.lookup part with
        | none => simp [find?, child?, hlookup]
        | some next =>
          have hnext : t.find? (part :: above).reverse = some next := by
            rw [List.reverse_cons, find?_append, h]
            simp [find?, child?, hlookup]
          simp [ih hparts hnext, hfault, find?, child?, hlookup]

/-- Behind a slash a path starts at the root. -/
theorem follow_slash (hroot : t.isDirectory = true) (parts : List String) :
    t.follow [] ("" :: parts) = t.follow [] parts := by
  cases t with
  | file => simp [isDirectory, isFile] at hroot
  | directory cs => simp [follow, find?]

/-- What a path with the way of a place leads to, where a path can be that long. -/
theorem at?_iff_of_follow {path : String} (hplain : ∀ part ∈ place, Plain part)
    (hfollow : t.follow [] (split '/' path) = t.follow [] place) :
    t.at? path = some s ↔ faultOfPath? path = none ∧
      (∀ part ∈ place, faultOfName? part = none) ∧ t.find? place = some s := by
  have hok : ∀ reached, t.follow [] place = .ok reached ↔ reached = place ∧
      (∀ part ∈ place, faultOfName? part = none) ∧ (t.find? place).isSome :=
    fun reached => follow_eq_ok_iff hplain rfl
  rw [at?, placeOf, hfollow]
  cases faultOfPath? path with
  | some o => simp
  | none =>
    cases hreached : t.follow [] place with
    | error o =>
      refine iff_of_false nofun fun h => ?_
      have hplace := (hok place).2 ⟨rfl, h.2.1, by simp [h.2.2]⟩
      simp [hreached] at hplace
    | ok reached =>
      obtain ⟨rfl, hfaults, -⟩ := (hok reached).1 hreached
      exact ⟨fun h => ⟨rfl, hfaults, h⟩, fun h => h.2.2⟩

theorem follow_pathOf (hroot : t.isDirectory = true) (hplain : ∀ part ∈ place, Plain part) :
    t.follow [] (split '/' (pathOf place)) = t.follow [] place := by
  by_cases hne : place = []
  · rw [hne, split_pathOf_nil, follow_slash hroot, follow_slash hroot]
  · rw [split_pathOf hne hplain, follow_slash hroot]

theorem at?_pathOf_iff (hroot : t.isDirectory = true) (hplain : ∀ part ∈ place, Plain part) :
    t.at? (pathOf place) = some s ↔ faultOfPath? (pathOf place) = none ∧
      (∀ part ∈ place, faultOfName? part = none) ∧ t.find? place = some s :=
  at?_iff_of_follow hplain (follow_pathOf hroot hplain)

end Tree

namespace Volume

/-- A volume with a directory at its root and names that can be components of a path. -/
structure Proper (d : Volume) : Prop where
  root : d.tree.isDirectory = true
  plain : ∀ place cs, d.tree.find? place = some (.directory cs) → ∀ e ∈ cs, Plain e.1

theorem isDirectory_iff {path : String} :
    d.isDirectory path = true ↔ ∃ cs, d.tree.at? path = some (.directory cs) := by
  unfold isDirectory
  cases d.tree.at? path with
  | none => simp
  | some t => cases t <;> simp [Tree.isDirectory, Tree.isFile]

theorem isFile_iff {path : String} : d.isFile path = true ↔
    ∃ content modified, d.tree.at? path = some (.file content modified) := by
  unfold isFile
  cases d.tree.at? path with
  | none => simp
  | some t => cases t <;> simp [Tree.isFile]

theorem not_isFile_of_isDirectory {path : String} (h : d.isDirectory path = true) :
    ¬ d.isFile path = true := by
  obtain ⟨cs, hcs⟩ := isDirectory_iff.1 h
  simp [isFile, hcs, Tree.isFile]

theorem Proper.isDirectory_root (hd : d.Proper) : d.isDirectory "/" = true := by
  obtain ⟨cs, hcs⟩ : ∃ cs, d.tree = .directory cs := by
    have hroot := hd.root
    cases h : d.tree with
    | file => simp [h, Tree.isDirectory, Tree.isFile] at hroot
    | directory cs => exact ⟨cs, rfl⟩
  refine isDirectory_iff.2 ⟨cs, ?_⟩
  have hnone : ∀ part ∈ ([] : List String), Plain part := by simp
  exact (Tree.at?_pathOf_iff hd.root hnone).2 ⟨by decide, by simp, congrArg some hcs⟩

/-- What a path leads to is listed in the directory above it. -/
theorem Proper.listed (hd : d.Proper) (hplace : ∀ part ∈ place, Plain part) (hname : Plain name)
    (h : d.tree.at? (pathOf (place ++ [name])) = some s) :
    d.isDirectory (pathOf place) = true ∧ name ∈ d.names (pathOf place) := by
  have hplain : ∀ part ∈ place ++ [name], Plain part := by
    simpa [or_imp, forall_and] using ⟨hplace, hname⟩
  obtain ⟨hpath, hparts, hfind⟩ := (Tree.at?_pathOf_iff hd.root hplain).1 h
  rw [Tree.find?_append] at hfind
  obtain ⟨above, habove, hname⟩ := Option.bind_eq_some_iff.1 hfind
  have hclean : faultOfPath? (pathOf place) = none := by
    obtain ⟨rest, hrest⟩ := exists_pathOf_append place [name]
    rw [hrest] at hpath
    exact faultOfPath?_append hpath
  have hat : d.tree.at? (pathOf place) = some above :=
    (Tree.at?_pathOf_iff hd.root hplace).2
      ⟨hclean, fun part hpart => hparts part (List.mem_append_left _ hpart), habove⟩
  cases above with
  | file content modified => simp [Tree.find?, Tree.child?] at hname
  | directory cs =>
    refine ⟨isDirectory_iff.2 ⟨cs, hat⟩, ?_⟩
    have hlookup : cs.lookup name = some s := by simpa [Tree.find?, Tree.child?] using hname
    obtain ⟨front, back, hcs, -⟩ := List.lookup_eq_some_iff.1 hlookup
    simp [names, hat, Tree.names, hcs]

/-- Only directories lead further. -/
theorem Proper.isDirectory_above (hd : d.Proper) (hplain : ∀ part ∈ place ++ parts, Plain part)
    (hne : parts ≠ []) (h : d.tree.at? (pathOf (place ++ parts)) = some s) :
    d.isDirectory (pathOf place) = true := by
  induction parts using List.reverseRecOn generalizing s with
  | nil => contradiction
  | append_singleton parts name ih =>
    rw [← List.append_assoc] at h hplain
    obtain ⟨hplace, hname⟩ := List.forall_mem_append.1 hplain
    have hdir := (hd.listed hplace (hname name (by simp)) h).1
    by_cases hparts : parts = []
    · rwa [hparts, List.append_nil] at hdir
    · obtain ⟨cs, hcs⟩ := isDirectory_iff.1 hdir
      exact ih hplace hparts hcs

theorem Proper.isDirectory_front (hd : d.Proper) (hplain : ∀ part ∈ place ++ parts, Plain part)
    (hdir : d.isDirectory (pathOf (place ++ parts)) = true) : d.isDirectory (pathOf place) = true := by
  by_cases hne : parts = []
  · rwa [hne, List.append_nil] at hdir
  · obtain ⟨cs, hcs⟩ := isDirectory_iff.1 hdir
    exact hd.isDirectory_above hplain hne hcs

theorem Proper.find?_of_isDirectory (hd : d.Proper) (hplain : ∀ part ∈ place, Plain part)
    (h : d.isDirectory (pathOf place) = true) : ∃ cs, d.tree.find? place = some (.directory cs) := by
  obtain ⟨cs, hcs⟩ := isDirectory_iff.1 h
  exact ⟨cs, ((Tree.at?_pathOf_iff hd.root hplain).1 hcs).2.2⟩

theorem Proper.plain_of_mem_names (hd : d.Proper) (hplace : ∀ part ∈ place, Plain part)
    (h : name ∈ d.names (pathOf place)) : Plain name := by
  unfold names at h
  cases hat : d.tree.at? (pathOf place) with
  | none => simp [hat] at h
  | some t =>
    have hfind := ((Tree.at?_pathOf_iff hd.root hplace).1 hat).2.2
    cases t with
    | file => simp [hat, Tree.names] at h
    | directory cs =>
      obtain ⟨e, he, rfl⟩ : ∃ e ∈ cs, e.1 = name := by simpa [hat, Tree.names] using h
      exact hd.plain place cs hfind e he

end Volume

end Coselect.Disk
