import Coselect.Proofs.Analysis.Following
import Coselect.Proofs.Analysis.OnDisk
import Coselect.Proofs.Disk.Places
import Coselect.Proofs.Glob.Segments
import Coselect.Proofs.Graph.Sorted

/-! The files that a pattern finds. Followed segment by segment, an absolute pattern leads to the
places whose components can be dealt out to its segments, and these are the places whose paths it
matches as a whole. Only a pattern that ends in `**` finds no files, because `**` leads to directories
alone. -/

namespace Coselect.Analysis

open Disk Coselect.Path Glob

variable {d : Volume} {front place bases level segs : List String} {name segment q : String}

/-- No directory is one of packages or of version control. -/
def Unskipped (d : Volume) : Prop := ∀ place name cs,
  d.tree.find? (place ++ [name]) = some (.directory cs) → isSkipped name = false

/-! ### Directories some levels down -/

section Proper

variable (hd : d.Proper)
include hd

theorem mem_subdirectoriesOn (hunskipped : Unskipped d) (hplain : ∀ part ∈ place, Plain part) :
    q ∈ subdirectoriesOn d (pathOf place) ↔
      ∃ name, Plain name ∧ q = pathOf (place ++ [name]) ∧ d.isDirectory q = true := by
  rw [subdirectoriesOn, List.mem_filter]
  constructor
  · rintro ⟨hq, hdir⟩
    obtain ⟨name, hname, rfl⟩ := List.mem_map.1 hq
    have hname := hd.plain_of_mem_names hplain (List.mem_of_mem_filter hname)
    exact ⟨name, hname, combine_pathOf hplain hname, hdir⟩
  · rintro ⟨name, hname, rfl, hdir⟩
    refine ⟨List.mem_map.2 ⟨name, List.mem_filter.2 ⟨?_, ?_⟩, combine_pathOf hplain hname⟩, hdir⟩
    · obtain ⟨cs, hcs⟩ := Volume.isDirectory_iff.1 hdir
      exact (hd.listed hplain hname hcs).2
    · obtain ⟨cs, hcs⟩ := hd.find?_of_isDirectory
        (List.forall_mem_append.2 ⟨hplain, by simpa using hname⟩) hdir
      simpa using hunskipped place name cs hcs

/-- What is one level below some directories. -/
theorem mem_next (hunskipped : Unskipped d)
    (hlevel : ∀ q ∈ level, ∃ place, (∀ part ∈ place, Plain part) ∧ q = pathOf place) :
    q ∈ level.flatMap (subdirectoriesOn d) ↔ ∃ place name, (∀ part ∈ place ++ [name], Plain part) ∧
      pathOf place ∈ level ∧ q = pathOf (place ++ [name]) ∧ d.isDirectory q = true := by
  rw [List.mem_flatMap]
  constructor
  · rintro ⟨r, hr, hq⟩
    obtain ⟨place, hplain, rfl⟩ := hlevel r hr
    obtain ⟨name, hname, hq, hdir⟩ := (mem_subdirectoriesOn hd hunskipped hplain).1 hq
    exact ⟨place, name, List.forall_mem_append.2 ⟨hplain, by simpa using hname⟩, hr, hq, hdir⟩
  · rintro ⟨place, name, hplain, hplace, hq, hdir⟩
    obtain ⟨hplain, hname⟩ := List.forall_mem_append.1 hplain
    exact ⟨_, hplace,
      (mem_subdirectoriesOn hd hunskipped hplain).2 ⟨name, hname name (by simp), hq, hdir⟩⟩

/-- What is at most `n` levels below some directories. -/
theorem mem_descendOn (hunskipped : Unskipped d) (n : Nat)
    (hlevel : ∀ q ∈ level, ∃ place, (∀ part ∈ place, Plain part) ∧ q = pathOf place) :
    q ∈ descendOn d n level ↔ ∃ place below, (∀ part ∈ place ++ below, Plain part) ∧
      pathOf place ∈ level ∧ below ≠ [] ∧ below.length ≤ n ∧ q = pathOf (place ++ below) ∧
        d.isDirectory q = true := by
  induction n generalizing level with
  | zero =>
    refine iff_of_false List.not_mem_nil ?_
    rintro ⟨-, below, -, -, hne, hlen, -⟩
    exact hne (List.length_eq_zero_iff.1 (Nat.le_zero.1 hlen))
  | succ n ih =>
    have hnext := fun q => mem_next hd hunskipped (q := q) hlevel
    have hplaces : ∀ q ∈ level.flatMap (subdirectoriesOn d),
        ∃ place, (∀ part ∈ place, Plain part) ∧ q = pathOf place := fun q hq =>
      have ⟨place, name, hplain, _, hq, _⟩ := (hnext q).1 hq
      ⟨_, hplain, hq⟩
    rw [descendOn, List.mem_append, hnext, ih hplaces]
    constructor
    · rintro (⟨place, name, hplain, hplace, rfl, hdir⟩ | ⟨next, below, hplain, hmem, -, hlen, rfl, hdir⟩)
      · exact ⟨place, [name], hplain, hplace, by simp, by simp, rfl, hdir⟩
      · obtain ⟨place, name, hplain', hplace, hpath, -⟩ := (hnext _).1 hmem
        obtain rfl := pathOf_injective (List.forall_mem_append.1 hplain).1 hplain' hpath
        rw [List.append_assoc] at hplain hdir ⊢
        exact ⟨place, name :: below, hplain, hplace, by simp, Nat.succ_le_succ hlen, rfl, hdir⟩
    · rintro ⟨place, _ | ⟨name, below⟩, hplain, hplace, hne, hlen, rfl, hdir⟩
      · contradiction
      · by_cases hbelow : below = []
        · subst hbelow
          exact .inl ⟨place, name, hplain, hplace, rfl, hdir⟩
        · rw [List.append_cons] at hplain hdir ⊢
          obtain ⟨cs, hcs⟩ := Volume.isDirectory_iff.1 hdir
          refine .inr ⟨place ++ [name], below, hplain, ?_, hbelow, Nat.le_of_succ_le_succ hlen, rfl, hdir⟩
          exact (hnext _).2 ⟨place, name, (List.forall_mem_append.1 hplain).1, hplace, rfl,
            hd.isDirectory_above hplain hbelow hcs⟩

/-- A directory and what is at most eight levels below it. -/
theorem mem_descendantsOn (hunskipped : Unskipped d) (hplain : ∀ part ∈ place, Plain part)
    (hdir : d.isDirectory (pathOf place) = true) : q ∈ descendantsOn d (pathOf place) ↔
      ∃ below, (∀ part ∈ below, Plain part) ∧ below.length ≤ maxDescent ∧
        q = pathOf (place ++ below) ∧ d.isDirectory q = true := by
  have hlevel : ∀ q ∈ [pathOf place], ∃ place, (∀ part ∈ place, Plain part) ∧ q = pathOf place := by
    rintro q hq
    exact ⟨place, hplain, List.mem_singleton.1 hq⟩
  rw [descendantsOn, List.mem_cons, mem_descendOn hd hunskipped maxDescent hlevel]
  constructor
  · rintro (rfl | ⟨above, below, hall, habove, -, hlen, rfl, hfound⟩)
    · exact ⟨[], by simp, Nat.zero_le _, by simp, hdir⟩
    · obtain ⟨habove', hbelow⟩ := List.forall_mem_append.1 hall
      obtain rfl := pathOf_injective habove' hplain (List.mem_singleton.1 habove)
      exact ⟨below, hbelow, hlen, rfl, hfound⟩
  · rintro ⟨below, hbelow, hlen, rfl, hdir⟩
    by_cases hne : below = []
    · exact .inl (by rw [hne, List.append_nil])
    · exact .inr ⟨place, below, List.forall_mem_append.2 ⟨hplain, hbelow⟩, by simp, hne, hlen, rfl, hdir⟩

end Proper

/-! ### Places along a pattern -/

/-- A segment of a pattern without brackets: `**`, or one without it. -/
def IsSegment (segment : String) : Prop := segment = "**" ∨ Ordinary segment.toList

instance : DecidablePred IsSegment := fun segment =>
  inferInstanceAs (Decidable (segment = "**" ∨ Ordinary segment.toList))

/-- A place whose components can be dealt out to some segments. -/
structure Along (segs place : List String) : Prop where
  plain : ∀ part ∈ place, Plain part
  aligned : Aligned (segs.map String.toList) (place.map String.toList)

theorem along_nil : Along [] place ↔ place = [] := by
  constructor
  · rintro ⟨-, h⟩
    simpa using aligned_nil.1 h
  · rintro rfl
    exact ⟨by simp, .nil⟩

theorem along_append : Along (front ++ segs) place ↔ ∃ above below, place = above ++ below ∧
    Along front above ∧ Along segs below := by
  constructor
  · rintro ⟨hplain, h⟩
    rw [List.map_append, aligned_append] at h
    obtain ⟨_, _, hparts, habove, hbelow⟩ := h
    obtain ⟨above, below, rfl, rfl, rfl⟩ := List.map_eq_append_iff.1 hparts
    obtain ⟨hplain, hplain'⟩ := List.forall_mem_append.1 hplain
    exact ⟨above, below, rfl, ⟨hplain, habove⟩, ⟨hplain', hbelow⟩⟩
  · rintro ⟨above, below, rfl, ⟨hplain, habove⟩, ⟨hplain', hbelow⟩⟩
    refine ⟨List.forall_mem_append.2 ⟨hplain, hplain'⟩, ?_⟩
    rw [List.map_append, List.map_append, aligned_append]
    exact ⟨_, _, rfl, habove, hbelow⟩

theorem along_globstar : Along ["**"] place ↔ ∀ part ∈ place, Plain part := by
  refine ⟨Along.plain, fun h => ⟨h, ?_⟩⟩
  have hstars : isGlobstar "**".toList = true := rfl
  simpa using Aligned.stars (place.map String.toList) hstars .nil

theorem along_ordinary (h : Ordinary segment.toList) : Along [segment] place ↔
    ∃ name, place = [name] ∧ Plain name ∧ Takes segment.toList name.toList := by
  have haligned : Aligned [segment.toList] (place.map String.toList) ↔
      ∃ name, place = [name] ∧ Takes segment.toList name.toList := by
    rw [aligned_cons_of_not_isGlobstar h.not_isGlobstar]
    constructor
    · rintro ⟨part, rest, hparts, htakes, hrest⟩
      obtain rfl := aligned_nil.1 hrest
      obtain ⟨name, rfl, rfl⟩ := List.map_eq_singleton_iff.1 hparts
      exact ⟨name, rfl, htakes⟩
    · rintro ⟨name, rfl, htakes⟩
      exact ⟨_, [], rfl, htakes, .nil⟩
  constructor
  · rintro ⟨hplain, hal⟩
    obtain ⟨name, rfl, htakes⟩ := haligned.1 hal
    exact ⟨name, rfl, hplain name (by simp), htakes⟩
  · rintro ⟨name, rfl, hname, htakes⟩
    exact ⟨by simpa using hname, haligned.2 ⟨name, rfl, htakes⟩⟩

/-! ### Following a pattern -/

/-- No directory is more than eight levels below one where `**` is followed. -/
def Shallow (d : Volume) (segs : List String) : Prop := ∀ front rest, segs = front ++ "**" :: rest →
  ∀ place below cs, Along front place → d.tree.find? (place ++ below) = some (.directory cs) →
    below.length ≤ maxDescent

/-- The directories along some segments. -/
def Ahead (d : Volume) (front bases : List String) : Prop := ∀ q, q ∈ bases ↔
  ∃ place, Along front place ∧ q = pathOf place ∧ d.isDirectory q = true

section Proper

variable (hd : d.Proper)
include hd

theorem mem_descendants_ahead (hunskipped : Unskipped d) (hbases : Ahead d front bases)
    (hshallow : ∀ place below cs, Along front place →
      d.tree.find? (place ++ below) = some (.directory cs) → below.length ≤ maxDescent) :
    q ∈ bases.flatMap (descendantsOn d) ↔
      ∃ place, Along (front ++ ["**"]) place ∧ q = pathOf place ∧ d.isDirectory q = true := by
  simp only [List.mem_flatMap, hbases _, along_append, along_globstar]
  constructor
  · rintro ⟨_, ⟨above, habove, rfl, hdir⟩, hq⟩
    obtain ⟨below, hbelow, -, rfl, hdir⟩ := (mem_descendantsOn hd hunskipped habove.plain hdir).1 hq
    exact ⟨_, ⟨above, below, rfl, habove, hbelow⟩, rfl, hdir⟩
  · rintro ⟨_, ⟨above, below, rfl, habove, hbelow⟩, rfl, hdir⟩
    have hplain : ∀ part ∈ above ++ below, Plain part :=
      List.forall_mem_append.2 ⟨habove.plain, hbelow⟩
    have habove' := hd.isDirectory_front hplain hdir
    obtain ⟨cs, hcs⟩ := hd.find?_of_isDirectory hplain hdir
    exact ⟨_, ⟨above, habove, rfl, habove'⟩, (mem_descendantsOn hd hunskipped habove.plain habove').2
      ⟨below, hbelow, hshallow above below cs habove hcs, rfl, hdir⟩⟩

/-- A segment that finds in every directory the entries whose names it takes. -/
theorem mem_entries_ahead (hord : Ordinary segment.toList) (hbases : Ahead d front bases)
    {entries : String → List String} (hentries : ∀ above, Along front above →
      (q ∈ entries (pathOf above) ↔ ∃ name, Plain name ∧ q = pathOf (above ++ [name]) ∧
        Takes segment.toList name.toList)) (hq : (d.tree.at? q).isSome) :
    q ∈ bases.flatMap entries ↔ ∃ place, Along (front ++ [segment]) place ∧ q = pathOf place := by
  simp only [List.mem_flatMap, hbases _, along_append, along_ordinary hord]
  constructor
  · rintro ⟨_, ⟨above, habove, rfl, -⟩, hq⟩
    obtain ⟨name, hname, rfl, htakes⟩ := (hentries above habove).1 hq
    exact ⟨_, ⟨above, [name], rfl, habove, name, rfl, hname, htakes⟩, rfl⟩
  · rintro ⟨_, ⟨above, _, rfl, habove, name, rfl, hname, htakes⟩, rfl⟩
    obtain ⟨s, hs⟩ := Option.isSome_iff_exists.1 hq
    exact ⟨_, ⟨above, habove, rfl, (hd.listed habove.plain hname hs).1⟩,
      (hentries above habove).2 ⟨name, hname, rfl, htakes⟩⟩

theorem mem_matchingNamesOn {items : List Item} (hplain : ∀ part ∈ place, Plain part)
    (hitems : ∀ name : String, '/' ∉ name.toList →
      (matchName items name = true ↔ Takes segment.toList name.toList))
    (hq : (d.tree.at? q).isSome) : q ∈ matchingNamesOn d items (pathOf place) ↔
      ∃ name, Plain name ∧ q = pathOf (place ++ [name]) ∧ Takes segment.toList name.toList := by
  rw [matchingNamesOn, List.mem_map]
  constructor
  · rintro ⟨name, hmem, rfl⟩
    obtain ⟨hmem, hmatch⟩ := List.mem_filter.1 hmem
    have hname := hd.plain_of_mem_names hplain hmem
    exact ⟨name, hname, combine_pathOf hplain hname, (hitems name hname.noSlash).1 hmatch⟩
  · rintro ⟨name, hname, rfl, htakes⟩
    obtain ⟨s, hs⟩ := Option.isSome_iff_exists.1 hq
    exact ⟨name, List.mem_filter.2 ⟨(hd.listed hplain hname hs).2, (hitems name hname.noSlash).2 htakes⟩,
      combine_pathOf hplain hname⟩

omit hd in
theorem chars_of_not_hasWildcard (h : hasWildcard segment = false) :
    ∀ c ∈ segment.toList, c ≠ '*' ∧ c ≠ '?' := by
  intro c hc
  have hplain := List.any_eq_false.1 h c hc
  simp only [Bool.or_eq_true, beq_iff_eq, not_or] at hplain
  exact hplain.1

/-- What one segment leads to, among the paths that lead anywhere. -/
theorem mem_followSegmentOn (hunskipped : Unskipped d) (hseg : IsSegment segment) (hname : Plain segment)
    (hbases : Ahead d front bases) (hshallow : segment = "**" → ∀ place below cs, Along front place →
      d.tree.find? (place ++ below) = some (.directory cs) → below.length ≤ maxDescent) :
    ∃ found, followSegmentOn d segment bases = .ok found ∧ ∀ q, (d.tree.at? q).isSome → (q ∈ found ↔
      ∃ place, Along (front ++ [segment]) place ∧ q = pathOf place ∧
        (segment = "**" → d.isDirectory q = true)) := by
  unfold followSegmentOn
  split
  next hstars =>
    subst hstars
    refine ⟨_, rfl, fun q _ => ?_⟩
    simpa using mem_descendants_ahead hd hunskipped hbases (hshallow rfl)
  next hstars =>
    have hord : Ordinary segment.toList := hseg.resolve_left hstars
    simp only [hstars, false_imp_iff, and_true]
    split
    next =>
      obtain ⟨items, hitems, hmatch⟩ := compile_segment hord
      rw [hitems]
      exact ⟨_, rfl, fun q hq => mem_entries_ahead hd hord hbases
        (fun above habove => mem_matchingNamesOn hd habove.plain hmatch hq) hq⟩
    next hwild =>
      have hchars := chars_of_not_hasWildcard (Bool.eq_false_iff.2 hwild)
      refine ⟨_, rfl, fun q hq => ?_⟩
      rw [List.map_eq_flatMap]
      refine mem_entries_ahead hd hord hbases (fun above habove => ?_) hq
      rw [List.mem_singleton, combine_pathOf habove.plain hname]
      simp only [takes_iff_eq hchars, String.toList_inj]
      constructor
      · exact fun h => ⟨segment, hname, h, rfl⟩
      · rintro ⟨name, -, h, rfl⟩
        exact h

end Proper

/-- What some segments lead to, among the paths that lead anywhere. -/
theorem mem_followSegmentsOn (hd : d.Proper) (hunskipped : Unskipped d)
    (hsegs : ∀ segment ∈ segs, IsSegment segment ∧ Plain segment) (hne : segs ≠ [])
    (hbases : Ahead d front bases) (hshallow : Shallow d (front ++ segs)) :
    ∃ found, followSegmentsOn d segs bases = .ok found ∧ ∀ q, (d.tree.at? q).isSome → (q ∈ found ↔
      ∃ place, Along (front ++ segs) place ∧ q = pathOf place ∧
        (segs.getLast? = some "**" → d.isDirectory q = true)) := by
  induction segs generalizing front bases with
  | nil => contradiction
  | cons segment rest ih =>
    obtain ⟨⟨hseg, hname⟩, hrest⟩ := List.forall_mem_cons.1 hsegs
    obtain ⟨found, hfound, hmem⟩ := mem_followSegmentOn hd hunskipped hseg hname hbases
      fun hstars => hshallow front rest (by rw [hstars])
    by_cases hnil : rest = []
    · subst hnil
      exact ⟨found, hfound, by simpa using hmem⟩
    have hahead : Ahead d (front ++ [segment]) (found.filter d.isDirectory) := by
      intro q
      rw [List.mem_filter]
      constructor
      · rintro ⟨hq, hdir⟩
        obtain ⟨cs, hcs⟩ := Volume.isDirectory_iff.1 hdir
        obtain ⟨place, hplace, hpath, -⟩ := (hmem q (by simp [hcs])).1 hq
        exact ⟨place, hplace, hpath, hdir⟩
      · rintro ⟨place, hplace, hpath, hdir⟩
        obtain ⟨cs, hcs⟩ := Volume.isDirectory_iff.1 hdir
        exact ⟨(hmem q (by simp [hcs])).2 ⟨place, hplace, hpath, fun _ => hdir⟩, hdir⟩
    obtain ⟨found', hfound', hmem'⟩ := ih hrest hnil hahead (by simpa using hshallow)
    have hlast : (segment :: rest).getLast? = rest.getLast? := by
      rw [List.getLast?_cons, List.getLast?_eq_some_getLast hnil]
      rfl
    rw [List.append_assoc] at hmem'
    refine ⟨found', ?_, hlast ▸ hmem'⟩
    rw [followSegmentsOn_of_ok hnil hfound]
    split
    next hnone =>
      rw [List.isEmpty_iff.1 hnone] at hfound'
      rw [followSegmentsOn_nil hfound']
    next => exact hfound'

/-! ### Both ways to read a pattern -/

theorem hasWildcard_append (s s' : String) :
    hasWildcard (s ++ s') = (hasWildcard s || hasWildcard s') := by
  simp [hasWildcard]

theorem hasWildcard_join (h : segment ∈ segs) (hwild : hasWildcard segment = true) :
    hasWildcard (Text.join "/" segs) = true := by
  obtain ⟨c, hc, hwild⟩ := List.any_eq_true.1 hwild
  refine List.any_eq_true.2 ⟨c, ?_, hwild⟩
  rw [Text.join, String.toList_ofList]
  exact Text.mem_of_mem_joinWith (List.mem_map_of_mem h) hc

/-- Before the first segment there is the root. -/
theorem ahead_root (hd : d.Proper) : Ahead d [] ["/"] := by
  intro q
  simp only [along_nil, List.mem_singleton]
  constructor
  · rintro rfl
    exact ⟨[], rfl, rfl, hd.isDirectory_root⟩
  · rintro ⟨_, rfl, rfl, -⟩
    rfl

/-- An absolute pattern is followed from the root, a second slash in front of it notwithstanding. -/
theorem globOn_eq {slashes : String} (hd : d.Proper) (hslashes : slashes = "/" ∨ slashes = "//")
    (hplain : ∀ segment ∈ segs, Plain segment) (hwild : ∃ segment ∈ segs, hasWildcard segment = true) :
    globOn d (slashes ++ Text.join "/" segs) = (do
      return (Text.sortedSet (← followSegmentsOn d segs ["/"])).filter d.isFile) := by
  obtain ⟨segment, hsegment, hwild⟩ := hwild
  have hne : segs ≠ [] := List.ne_nil_of_mem hsegment
  unfold globOn
  rw [normalize_of_plain hslashes hplain]
  dsimp only
  rw [hasWildcard_append, hasWildcard_join hsegment hwild, Bool.or_true, if_pos rfl]
  rcases hslashes with rfl | rfl
  · rw [show "/" ++ Text.join "/" segs = pathOf segs from rfl, split_pathOf hne hplain]
    rfl
  · have hsplit : Text.split '/' ("//" ++ Text.join "/" segs) = "" :: "" :: segs := by
      rw [show "//" = "/" ++ "/" from rfl, String.append_assoc, split_slash_append]
      exact congrArg _ (split_pathOf hne hplain)
    have hroot : followSegmentOn d "" ["/"] = .ok ["/"] := rfl
    have hfollow : followSegmentsOn d ("" :: segs) ["/"] = followSegmentsOn d segs ["/"] := by
      rw [followSegmentsOn_of_ok hne hroot]
      simp [hd.isDirectory_root]
    rw [hsplit, List.drop_one, List.tail_cons, hfollow]

theorem compile_pathOf (hsegs : ∀ segment ∈ segs, IsSegment segment ∧ Plain segment) (hne : segs ≠ []) :
    compile (pathOf segs) = .ok (itemsOf ([] :: segs.map String.toList)) := by
  have hsplit := splitAt_pathOf hne fun segment h => (hsegs segment h).2
  rw [← hsplit]
  refine compile_eq ?_
  rw [hsplit, Segmented, List.forall_mem_cons]
  refine ⟨.inr ⟨by simp, by simp, by simp⟩, fun seg hseg => ?_⟩
  obtain ⟨segment, hsegment, rfl⟩ := List.mem_map.1 hseg
  rcases (hsegs segment hsegment).1 with rfl | hord
  · exact .inl rfl
  · exact .inr hord

theorem loneEnd_of_getLast? (hsegs : ∀ segment ∈ segs, IsSegment segment ∧ Plain segment)
    (hlast : segs.getLast? ≠ some "**") : LoneEnd ([] :: segs.map String.toList) := by
  intro front a b h _
  have hb : (segs.getLast?.map String.toList).getD [] = b := by
    have h := congrArg List.getLast? h
    rw [List.getLast?_cons, List.getLast?_map, List.append_cons, List.getLast?_concat] at h
    exact Option.some.inj h
  cases hsegs' : segs.getLast? with
  | none =>
    rw [← hb, hsegs']
    rfl
  | some last =>
    rw [← hb, hsegs']
    refine ((hsegs last (List.mem_of_getLast? hsegs')).1.resolve_left ?_).not_isGlobstar
    rintro rfl
    exact hlast hsegs'

/-- The items of an absolute pattern take the paths of the places along its segments. -/
theorem matchPath_pathOf (hsegs : ∀ segment ∈ segs, IsSegment segment ∧ Plain segment)
    (hlast : segs.getLast? ≠ some "**") (hplace : place ≠ [])
    (hplain : ∀ part ∈ place, Plain part) :
    matchPath (itemsOf ([] :: segs.map String.toList)) (pathOf place) = true ↔ Along segs place := by
  have hslash : ∀ seg ∈ [] :: segs.map String.toList, '/' ∉ seg := by
    simpa using fun segment hsegment => (hsegs segment hsegment).2.noSlash
  rw [matchPath, matchItems_itemsOf (by simp) hslash (loneEnd_of_getLast? hsegs hlast),
    splitAt_pathOf hplace hplain, aligned_cons_of_not_isGlobstar rfl]
  constructor
  · rintro ⟨_, _, hparts, -, h⟩
    obtain ⟨rfl, rfl⟩ := List.cons.inj hparts
    exact ⟨hplain, h⟩
  · exact fun h => ⟨[], _, rfl, .nil, h.aligned⟩

/-- What is asked of a volume where a pattern is followed: its directories list names that can be
components of paths, none of them is one of packages or of version control, and no directory is too
far below one where `**` is followed. -/
structure Followable (d : Volume) (segs : List String) : Prop where
  proper : d.Proper
  unskipped : Unskipped d
  shallow : Shallow d segs

/-- An absolute pattern without brackets that has a wildcard, and `**` only as a whole segment, finds
the files that it matches, in ascending order; if it ends in `**`, it finds nothing. -/
theorem glob_finds_matching_files {slashes : String} (hslashes : slashes = "/" ∨ slashes = "//")
    (hsegs : ∀ segment ∈ segs, IsSegment segment ∧ Plain segment)
    (hwild : ∃ segment ∈ segs, hasWildcard segment = true) (hd : Followable d segs)
    (signal : List Query → Signal) (asked : List Query) (c : Caches) :
    ∃ items found, compile (pathOf segs) = .ok items ∧
      ((globFiles (slashes ++ Text.join "/" segs)).run.run d signal asked c).1 = .ok found ∧
      found.Pairwise (· < ·) ∧
      ∀ path, path ∈ found ↔ segs.getLast? ≠ some "**" ∧
        (∃ place, (∀ part ∈ place, Plain part) ∧ path = pathOf place) ∧
        d.isFile path = true ∧ matchPath items path = true := by
  have hplain : ∀ segment ∈ segs, Plain segment := fun segment h => (hsegs segment h).2
  have hne : segs ≠ [] := have ⟨_, h, _⟩ := hwild; List.ne_nil_of_mem h
  obtain ⟨paths, hpaths, hmem⟩ := mem_followSegmentsOn hd.proper hd.unskipped hsegs hne
    (ahead_root hd.proper) hd.shallow
  have hrun : ((globFiles (slashes ++ Text.join "/" segs)).run.run d signal asked c).1 =
      globOn d (slashes ++ Text.join "/" segs) :=
    (((gives_globFiles (Surroundings.shows_still (I := fun _ => True)) _).ends_still trivial).run
      signal asked).1
  refine ⟨_, (Text.sortedSet paths).filter d.isFile, compile_pathOf hsegs hne, ?_, ?_, fun path => ?_⟩
  · rw [hrun, globOn_eq hd.proper hslashes hplain hwild, hpaths]
    rfl
  · exact (Text.pairwise_sortedSet paths).filter _
  rw [List.mem_filter, Text.mem_sortedSet]
  have hplace : ∀ {place : List String}, d.isFile (pathOf place) = true → place ≠ [] := by
    rintro _ hfile rfl
    exact Volume.not_isFile_of_isDirectory hd.proper.isDirectory_root hfile
  constructor
  · rintro ⟨hpath, hfile⟩
    obtain ⟨content, modified, hat⟩ := Volume.isFile_iff.1 hfile
    obtain ⟨place, halong, rfl, hdir⟩ := (hmem path (by simp [hat])).1 hpath
    have hlast : segs.getLast? ≠ some "**" := fun h => Volume.not_isFile_of_isDirectory (hdir h) hfile
    exact ⟨hlast, ⟨place, halong.plain, rfl⟩, hfile,
      (matchPath_pathOf hsegs hlast (hplace hfile) halong.plain).2 halong⟩
  · rintro ⟨hlast, ⟨place, hplain, rfl⟩, hfile, hmatch⟩
    obtain ⟨content, modified, hat⟩ := Volume.isFile_iff.1 hfile
    have halong := (matchPath_pathOf hsegs hlast (hplace hfile) hplain).1 hmatch
    exact ⟨(hmem _ (by simp [hat])).2 ⟨place, halong, rfl, fun h => absurd h hlast⟩, hfile⟩

/-- A directory with one test file. -/
def endToEnd : Volume where
  tree := .directory [("e2e", .directory [("a.ts", .file (.text "") 0)])]

theorem find?_endToEnd {cs : List (String × Tree)}
    (h : endToEnd.tree.find? place = some (.directory cs)) :
    place = [] ∧ cs = [("e2e", .directory [("a.ts", .file (.text "") 0)])] ∨
      place = ["e2e"] ∧ cs = [("a.ts", .file (.text "") 0)] := by
  have hother : ∀ {name key : String}, name ≠ key → (name == key) = false := beq_eq_false_iff_ne.2
  rcases place with _ | ⟨name, place⟩
  · exact .inl ⟨rfl, by simpa [endToEnd, Tree.find?] using h.symm⟩
  by_cases hname : name = "e2e"
  · subst hname
    rcases place with _ | ⟨name, place⟩
    · exact .inr ⟨rfl, by simpa [endToEnd, Tree.find?, Tree.child?] using h.symm⟩
    by_cases hname : name = "a.ts"
    · subst hname
      cases place <;> simp [endToEnd, Tree.find?, Tree.child?] at h
    · simp [endToEnd, Tree.find?, Tree.child?, List.lookup_cons, hother hname] at h
  · simp [endToEnd, Tree.find?, Tree.child?, List.lookup_cons, hother hname] at h

theorem followable_endToEnd (segs : List String) : Followable endToEnd segs where
  proper :=
    { root := rfl
      plain := by
        intro place cs h
        obtain ⟨-, rfl⟩ | ⟨-, rfl⟩ := find?_endToEnd h <;>
          exact List.forall_mem_singleton.2 (by decide) }
  unskipped := by
    intro place name cs h
    obtain ⟨hplace, -⟩ | ⟨hplace, -⟩ := find?_endToEnd h
    · simp at hplace
    · obtain rfl : name = "e2e" := by simpa using congrArg List.getLast? hplace
      decide
  shallow := by
    intro front rest _ place below cs _ h
    have hlen : (place ++ below).length ≤ 1 := by
      obtain ⟨hplace, -⟩ | ⟨hplace, -⟩ := find?_endToEnd h <;> simp [hplace]
    rw [List.length_append] at hlen
    exact Nat.le_trans (Nat.le_add_left _ _) (Nat.le_trans hlen (by decide))

/-- A file right in the directory where `**` is followed. -/
theorem glob_finds_matching_files_endToEnd : Followable endToEnd ["e2e", "**", "*.ts"] ∧
    ∃ found, ((globFiles "/e2e/**/*.ts").run.run endToEnd quiet [] (.ofSize 8)).1 = .ok found ∧
      "/e2e/a.ts" ∈ found := by
  have hsegs : ∀ segment ∈ ["e2e", "**", "*.ts"], IsSegment segment ∧ Plain segment := by
    decide
  refine ⟨followable_endToEnd _, ?_⟩
  obtain ⟨items, found, hitems, hfound, -, hmem⟩ := glob_finds_matching_files (.inl rfl) hsegs
    ⟨"**", by decide, by decide⟩ (followable_endToEnd _) quiet [] (.ofSize 8)
  obtain rfl := Except.ok.inj (hitems.symm.trans (compile_pathOf hsegs (by decide)))
  refine ⟨found, hfound, (hmem _).2 ⟨by decide, ⟨["e2e", "a.ts"], by decide, rfl⟩, ?_, ?_⟩⟩
  · decide
  · decide

/-- A pattern that ends in `**` and matches a file, but does not find it. -/
theorem trailing_globstar_finds_nothing : Followable endToEnd ["e2e", "**"] ∧
    ∃ items, compile "/e2e/**" = .ok items ∧ endToEnd.isFile "/e2e/a.ts" = true ∧
      matchPath items "/e2e/a.ts" = true ∧
      ((globFiles "/e2e/**").run.run endToEnd quiet [] (.ofSize 8)).1 = .ok [] := by
  have hfound : ((globFiles "/e2e/**").run.run endToEnd quiet [] (.ofSize 8)).1.toOption = some [] := by
    decide +kernel
  refine ⟨followable_endToEnd _, [.char '/', .char 'e', .char '2', .char 'e', .below], by rfl,
    by decide +kernel, by decide +kernel, ?_⟩
  cases hrun : ((globFiles "/e2e/**").run.run endToEnd quiet [] (.ofSize 8)).1 with
  | error failure => simp [hrun, Except.toOption] at hfound
  | ok found => simpa [hrun, Except.toOption] using hfound

end Coselect.Analysis
