import Coselect.Proofs.Disk.Places

/-! What writing a file does to the files of a tree. Directories may be made on the way and may be left
when the way is blocked, but no file goes, and none comes but the one that is written. -/

namespace Coselect.Disk

open Coselect.Path Text

namespace Tree

variable {t t' t'' new s : Tree} {cs : List (String × Tree)} {above parts place : List String}
  {name n path : String}

/-! ### Files at places -/

/-- Whether a file is at a place. -/
def isFileAt (t : Tree) (place : List String) : Bool := (t.find? place).any isFile

/-- From a root that is no directory no absolute path leads anywhere. -/
theorem at?_of_isFile (hroot : t.isDirectory = false) (rest : String) : t.at? ("/" ++ rest) = none := by
  have hfollow : t.follow [] (split '/' ("/" ++ rest)) = .error .notDirectory := by
    rw [split_slash_append]
    cases t with
    | file content modified => rfl
    | directory cs => simp [isDirectory, isFile] at hroot
  rw [at?, placeOf, hfollow]
  cases faultOfPath? ("/" ++ rest) <;> rfl

theorem at?_iff_of_spells (hroot : t.isDirectory = true) (h : Spells path place) :
    t.at? path = some s ↔ faultOfPath? path = none ∧
      (∀ part ∈ place, faultOfName? part = none) ∧ t.find? place = some s := by
  refine at?_iff_of_follow h.plain ?_
  rcases h.eq with rfl | rfl
  · exact follow_pathOf hroot h.plain
  · rw [split_slash_append, follow_slash hroot, follow_pathOf hroot h.plain]

/-! ### Putting -/

theorem lookup_cons (e : String × Tree) (cs : List (String × Tree)) (n : String) :
    (e :: cs).lookup n = if n = e.1 then some e.2 else cs.lookup n := by
  rw [List.lookup_cons]
  by_cases h : n = e.1
  · rw [beq_iff_eq.2 h, if_pos h]
  · rw [beq_eq_false_iff_ne.2 h, if_neg h]

theorem lookup_setChild (name n : String) (s : Tree) (cs : List (String × Tree)) :
    (setChild name s cs).lookup n = if n = name then some s else cs.lookup n := by
  induction cs with
  | nil => exact lookup_cons (name, s) [] n
  | cons e cs ih =>
    rw [setChild]
    split
    next heq =>
      rw [lookup_cons, lookup_cons, heq]
      by_cases h : n = name <;> simp [h]
    next hne =>
      rw [lookup_cons, lookup_cons, ih]
      by_cases h : n = e.1 <;> simp [h, hne]

@[simp] theorem isFileAt_directory_nil : (directory cs).isFileAt [] = false := rfl

@[simp] theorem isFileAt_directory_cons :
    (directory cs).isFileAt (name :: place) = (cs.lookup name).any (·.isFileAt place) := by
  simp only [isFileAt, find?, child?]
  cases cs.lookup name <;> rfl

/-- Nothing is below something without children. -/
theorem isFileAt_of_childless (hnew : ∀ n, new.child? n = none) :
    new.isFileAt parts = (decide (parts = []) && new.isFile) := by
  cases parts <;> simp [isFileAt, find?, hnew]

/-- What has no children, put in a directory where no directory is, changes only whether a file is at
its place. -/
theorem isFileAt_put (hdir : t.find? above = some (.directory cs))
    (hclear : (cs.lookup name).all isFile = true) (hnew : ∀ n, new.child? n = none)
    (parts : List String) : (t.put (above ++ [name]) new).isFileAt parts =
      if parts = above ++ [name] then new.isFile else t.isFileAt parts := by
  induction above generalizing t parts with
  | nil =>
    obtain rfl : t = directory cs := Option.some.inj hdir
    cases parts with
    | nil => simp [put]
    | cons n parts =>
      simp only [List.nil_append, put, isFileAt_directory_cons, lookup_setChild]
      by_cases hn : n = name
      · subst hn
        have hbelow : parts ≠ [] → (cs.lookup n).any (·.isFileAt parts) = false := by
          intro hne
          cases hold : cs.lookup n with
          | none => rfl
          | some old =>
            cases old with
            | file => rw [Option.any_some, isFileAt_of_childless fun _ => rfl]; simp [hne]
            | directory => simp [hold, isFile] at hclear
        by_cases hparts : parts = [] <;> simp [isFileAt_of_childless hnew, hparts, hbelow]
      · simp [hn]
  | cons a above ih =>
    cases t with
    | file => simp [find?, child?] at hdir
    | directory cs' =>
      obtain ⟨s, hs, hbelow⟩ := Option.bind_eq_some_iff.1 hdir
      have hs : cs'.lookup a = some s := hs
      cases parts with
      | nil => simp [put]
      | cons n parts =>
        simp only [List.cons_append, put, isFileAt_directory_cons, lookup_setChild]
        by_cases hn : n = a
        · subst hn
          simp [child?, hs, ih hbelow]
        · simp [hn]

theorem isDirectory_put (t new : Tree) (above : List String) (name : String) :
    (t.put (above ++ [name]) new).isDirectory = true := by
  cases above <;> rfl

/-! ### Making directories -/

/-- Two trees with the same files. -/
structure SameFiles (t t' : Tree) : Prop where
  root : t'.isDirectory = t.isDirectory
  files : ∀ parts, t'.isFileAt parts = t.isFileAt parts

theorem SameFiles.refl (t : Tree) : SameFiles t t := ⟨rfl, fun _ => rfl⟩

theorem SameFiles.trans (h : SameFiles t t') (h' : SameFiles t' t'') : SameFiles t t'' :=
  ⟨h'.root.trans h.root, fun parts => (h'.files parts).trans (h.files parts)⟩

theorem isDirectory_of_find? (h : t.find? above = some (.directory cs)) : t.isDirectory = true := by
  cases t with
  | directory => rfl
  | file => cases above <;> simp [find?, child?] at h

/-- A place in a directory that components lead to. -/
theorem placeIn_eq_ok (h : t.placeIn above name = .ok place) : ∃ above' cs,
    t.follow [] above.reverse = .ok above' ∧ t.find? above' = some (.directory cs) ∧
      place = above' ++ [name] := by
  unfold placeIn at h
  split at h
  next => cases h
  next above' hfollow =>
    split at h
    next cs hdir hname => exact ⟨above', cs, hfollow, hdir, (Except.ok.inj h).symm⟩
    next => cases h
    next => cases h

theorem find?_concat (hdir : t.find? above = some (.directory cs)) :
    t.find? (above ++ [name]) = cs.lookup name := by
  rw [find?_append, hdir]
  simp [find?, child?]

theorem sameFiles_makeOne (t : Tree) (path : List String) : SameFiles t (t.makeOne path).1 := by
  cases path with
  | nil => exact .refl t
  | cons name above =>
    rw [makeOne]
    split
    next => exact .refl t
    next place hplace =>
      obtain ⟨above', cs, -, hdir, rfl⟩ := placeIn_eq_ok hplace
      split
      next => exact .refl t
      next hvacant =>
        have hnone : cs.lookup name = none := by
          rw [find?_concat hdir, Bool.or_eq_true, not_or] at hvacant
          exact Option.not_isSome_iff_eq_none.1 hvacant.2
        refine ⟨(isDirectory_put ..).trans (isDirectory_of_find? hdir).symm, fun parts => ?_⟩
        rw [isFileAt_put hdir (by simp [hnone]) fun _ => rfl]
        split
        next heq => rw [heq, isFileAt, find?_concat hdir, hnone]; rfl
        next => rfl

@[simp] theorem unlessOccupied_fst (r : Changed) : (unlessOccupied r).1 = r.1 := by
  unfold unlessOccupied
  split <;> rfl

theorem sameFiles_makeAll (t : Tree) (path : List String) : SameFiles t (t.makeAll path).1 := by
  induction path with
  | nil => exact .refl t
  | cons name above ih =>
    have hfirst : ∀ isNew : Bool, SameFiles t
        (if isNew then unlessOccupied (makeAll t above) else (t, none)).1 := by
      intro isNew
      cases isNew with
      | true => simpa using ih
      | false => exact .refl t
    unfold makeAll
    dsimp only
    have hfirst := hfirst (!above.isEmpty && !t.leadsTo (fun _ => true) above)
    split
    next heq => rwa [heq] at hfirst
    next t₁ heq =>
      rw [heq] at hfirst
      split
      next => exact hfirst
      next =>
        have hone := sameFiles_makeOne t₁ (name :: above)
        split
        next heq =>
          rw [heq] at hone
          split <;> exact hfirst.trans hone
        next => exact hfirst.trans hone

/-! ### Writing -/

/-- No file is gone, and the only new one is at a place. -/
structure FileAdded (place : List String) (t t' : Tree) : Prop where
  root : t'.isDirectory = t.isDirectory
  stays : ∀ parts, t.isFileAt parts = true → t'.isFileAt parts = true
  comes : ∀ parts, t'.isFileAt parts = true → t.isFileAt parts = true ∨ parts = place

theorem SameFiles.fileAdded (h : SameFiles t t') (place : List String) : FileAdded place t t' :=
  ⟨h.root, fun parts hparts => (h.files parts).trans hparts,
    fun parts hparts => .inl ((h.files parts).symm.trans hparts)⟩

theorem SameFiles.fileAdded_trans (h : SameFiles t t') (h' : FileAdded place t' t'') :
    FileAdded place t t'' :=
  ⟨h'.root.trans h.root, fun parts hparts => h'.stays parts ((h.files parts).trans hparts),
    fun parts hparts => (h'.comes parts hparts).imp_left (h.files parts).symm.trans⟩

theorem fileAdded_putFile (hplain : ∀ part ∈ place, Plain part) (t : Tree) (content : Content)
    (modified : Int) :
    FileAdded place t (t.putFile (pathOf place) (.file content modified)).1 := by
  have hsame := (SameFiles.refl t).fileAdded place
  unfold putFile
  rw [components_pathOf hplain]
  split
  next => exact hsame
  next => exact hsame
  next name above _ hrev =>
    split
    next => exact hsame
    next reached hreached =>
      obtain ⟨above', cs, hfollow, hdir, rfl⟩ := placeIn_eq_ok hreached
      obtain rfl : place = above.reverse ++ [name] := by
        rw [← List.reverse_reverse place, hrev, List.reverse_cons]
      obtain rfl : above' = above.reverse :=
        ((follow_eq_ok_iff (fun part hpart => hplain part (by simp_all)) rfl).1 hfollow).1
      split
      next => exact hsame
      next hclear =>
        rw [find?_concat hdir] at hclear
        have hclear : (cs.lookup name).all isFile = true := by
          cases hold : cs.lookup name with
          | none => rfl
          | some old => simp_all [isDirectory]
        have hput : ∀ parts, (t.put (above.reverse ++ [name]) (.file content modified)).isFileAt parts =
            if parts = above.reverse ++ [name] then true else t.isFileAt parts :=
          isFileAt_put hdir hclear fun _ => rfl
        refine ⟨(isDirectory_put ..).trans (isDirectory_of_find? hdir).symm, ?_, ?_⟩
        · intro parts hparts
          rw [hput]
          split
          next => rfl
          next => exact hparts
        · intro parts hparts
          rw [hput] at hparts
          split at hparts
          next heq => exact .inr heq
          next => exact .inl hparts

/-- Whether or not it comes through, writing a file adds no other. -/
theorem fileAdded_write (hplain : ∀ part ∈ place, Plain part) (t : Tree) (content : Content)
    (modified : Int) : FileAdded place t (t.write (pathOf place) content modified).1 := by
  unfold write
  dsimp only
  generalize (if endsWith "/" (pathOf place) then _ else _) = directories
  have hsame := sameFiles_makeAll t directories
  split
  next heq =>
    rw [heq] at hsame
    exact hsame.fileAdded place
  next t' heq =>
    rw [heq] at hsame
    exact hsame.fileAdded_trans (fileAdded_putFile hplain t' content modified)

end Tree

namespace Volume

variable {d : Volume} {place parts : List String} {path : String}

/-- A volume after a file was written. -/
def written (d : Volume) (place : List String) (content : Content) (modified : Int) : Volume :=
  { d with tree := (d.tree.write (pathOf place) content modified).1 }

/-- A normal path is the path of a file where a path can be like this and a file is at its place. -/
theorem isFile_iff_of_spells (h : Spells path place) : d.isFile path = true ↔
    d.tree.isDirectory = true ∧ faultOfPath? path = none ∧
      (∀ part ∈ place, faultOfName? part = none) ∧ d.tree.isFileAt place = true := by
  cases hroot : d.tree.isDirectory with
  | false =>
    have hnone : d.tree.at? path = none := by
      rcases h.eq with rfl | rfl <;> exact Tree.at?_of_isFile hroot _
    simp [isFile, hnone]
  | true =>
    simp only [isFile, Tree.isFileAt, Option.any_eq_true, Tree.at?_iff_of_spells hroot h]
    constructor
    · rintro ⟨s, ⟨hpath, hnames, hs⟩, hfile⟩
      exact ⟨trivial, hpath, hnames, s, hs, hfile⟩
    · rintro ⟨-, hpath, hnames, s, hs, hfile⟩
      exact ⟨s, ⟨hpath, hnames, hs⟩, hfile⟩

section Written

variable (hplain : ∀ part ∈ place, Plain part) (content : Content) (modified : Int)
include hplain

theorem isFile_written_of_isFile (h : Spells path parts) (hfile : d.isFile path = true) :
    (d.written place content modified).isFile path = true := by
  have hadded := Tree.fileAdded_write hplain d.tree content modified
  obtain ⟨hroot, hpath, hnames, hat⟩ := (isFile_iff_of_spells h).1 hfile
  exact (isFile_iff_of_spells h).2 ⟨hadded.root.trans hroot, hpath, hnames, hadded.stays _ hat⟩

theorem isFile_of_isFile_written (h : Spells path parts)
    (hfile : (d.written place content modified).isFile path = true) :
    d.isFile path = true ∨ Spells path place := by
  have hadded := Tree.fileAdded_write hplain d.tree content modified
  obtain ⟨hroot, hpath, hnames, hat⟩ := (isFile_iff_of_spells h).1 hfile
  rcases hadded.comes _ hat with hat | rfl
  · exact .inl ((isFile_iff_of_spells h).2 ⟨hadded.root.symm.trans hroot, hpath, hnames, hat⟩)
  · exact .inr h

end Written

end Volume

end Coselect.Disk
