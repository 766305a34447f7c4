import Coselect.Proofs.Analysis.Loading

/-! What following a pattern comes to. On a disk that does not change, every part of the search for
the files of a pattern comes to one value, which is read off the directories of the disk. -/

namespace Coselect.Analysis

open Disk Coselect.Path Glob

variable {T : Terms} {d : Volume} {segment : String} {bases segs : List String}

def subdirectoriesOn (d : Volume) (directory : String) : List String :=
  (((d.names directory).filter (!isSkipped ·)).map (combine directory)).filter d.isDirectory

def descendOn (d : Volume) : Nat → List String → List String
  | 0, _ => []
  | n + 1, level =>
    level.flatMap (subdirectoriesOn d) ++ descendOn d n (level.flatMap (subdirectoriesOn d))

def descendantsOn (d : Volume) (directory : String) : List String :=
  directory :: descendOn d maxDescent [directory]

def matchingNamesOn (d : Volume) (items : List Item) (directory : String) : List String :=
  ((d.names directory).filter (matchName items)).map (combine directory)

def followSegmentOn (d : Volume) (segment : String) (bases : List String) :
    Except Failure (List String) :=
  if segment = "**" then .ok (bases.flatMap (descendantsOn d))
  else if hasWildcard segment then do
    let items ← (compile segment).mapError Failure.illFormedPattern
    return bases.flatMap (matchingNamesOn d items)
  else .ok (bases.map (combine · segment))

def followSegmentsOn (d : Volume) : List String → List String → Except Failure (List String)
  | [], bases => .ok bases
  | [segment], bases => followSegmentOn d segment bases
  | segment :: rest, bases => do
    let bases := (← followSegmentOn d segment bases).filter d.isDirectory
    if bases.isEmpty then return [] else followSegmentsOn d rest bases

/-- The files that an absolute pattern matches on a disk. -/
def globOn (d : Volume) (pattern : String) : Except Failure (List String) := do
  let pattern := normalize pattern
  if hasWildcard pattern then
    let paths ← followSegmentsOn d ((Text.split '/' pattern).drop 1) ["/"]
    return (Text.sortedSet paths).filter d.isFile
  else return [pattern].filter d.isFile

theorem descendOn_nil (d : Volume) (n : Nat) : descendOn d n [] = [] := by
  induction n with
  | zero => rfl
  | succ n ih => simpa [descendOn] using ih

theorem gives_keep {q : String → Inquiry Bool} {f : String → Bool} (hq : ∀ p, (q p).Gives T (f p))
    (ps : List String) : (keep q ps).Gives T (ps.filter f) := by
  induction ps with
  | nil => exact Inquiry.gives_pure
  | cons p ps ih =>
    refine (hq p).bind ?_
    rw [List.filter_cons]
    split
    next => exact ih.bind Inquiry.gives_pure
    next => exact ih

theorem gives_gather {f : String → Inquiry (List String)} {g : String → List String}
    (hf : ∀ p, (f p).Gives T (g p)) (ps : List String) : (gather f ps).Gives T (ps.flatMap g) := by
  induction ps with
  | nil => exact Inquiry.gives_pure
  | cons p ps ih => exact (hf p).bind (ih.bind Inquiry.gives_pure)

section Shows

variable (hd : T.Shows d)
include hd

theorem gives_isFile (path : String) : (Inquiry.isFile path).Gives T (d.isFile path) :=
  Inquiry.gives_ask (hd _)

theorem gives_isDirectory (path : String) : (Inquiry.isDirectory path).Gives T (d.isDirectory path) :=
  Inquiry.gives_ask (hd _)

theorem gives_names (path : String) : (Inquiry.names path).Gives T (d.names path) :=
  Inquiry.gives_ask (hd _)

theorem gives_subdirectories (directory : String) :
    (subdirectories directory).Gives T (subdirectoriesOn d directory) :=
  (gives_names hd directory).bind (gives_keep (gives_isDirectory hd) _)

theorem gives_descend (n : Nat) (level : List String) :
    (descend n level).Gives T (descendOn d n level) := by
  induction n generalizing level with
  | zero => exact Inquiry.gives_pure
  | succ n ih =>
    refine (gives_gather (gives_subdirectories hd) level).bind ?_
    rw [descendOn]
    split
    next hnone =>
      rw [List.isEmpty_iff.1 hnone, descendOn_nil]
      exact Inquiry.gives_pure
    next => exact (ih _).bind Inquiry.gives_pure

theorem gives_descendants (directory : String) :
    (descendants directory).Gives T (descendantsOn d directory) :=
  (gives_descend hd _ _).bind Inquiry.gives_pure

theorem gives_matchingNames (items : List Item) (directory : String) :
    (matchingNames items directory).Gives T (matchingNamesOn d items directory) :=
  (gives_names hd directory).bind Inquiry.gives_pure

theorem gives_followSegment (segment : String) (bases : List String) :
    (followSegment segment bases).run.Gives T (followSegmentOn d segment bases) := by
  unfold followSegment followSegmentOn
  split
  next => exact Work.gives_ofInquiry (gives_gather (gives_descendants hd) bases)
  split
  next =>
    refine Work.gives_bind_value (gives_ofRules _) fun items _ => ?_
    exact Work.gives_ofInquiry (gives_gather (gives_matchingNames hd items) bases)
  next => exact Inquiry.gives_pure

theorem gives_followSegments (segments bases : List String) :
    (followSegments segments bases).run.Gives T (followSegmentsOn d segments bases) := by
  induction segments generalizing bases with
  | nil => exact Inquiry.gives_pure
  | cons segment rest ih =>
    cases rest with
    | nil => exact gives_followSegment hd segment bases
    | cons =>
      refine Work.gives_bind_value (gives_followSegment hd segment bases) fun found _ => ?_
      refine Work.gives_bind (Work.gives_ofInquiry (gives_keep (gives_isDirectory hd) found)) ?_
      dsimp only
      split
      next => exact Inquiry.gives_pure
      next => exact ih _

theorem gives_globFiles (pattern : String) : (globFiles pattern).run.Gives T (globOn d pattern) := by
  unfold globFiles globOn
  dsimp only
  split
  next =>
    generalize (Text.split '/' (normalize pattern)).drop 1 = segments
    refine Work.gives_bind_value (gives_followSegments hd segments _) fun paths _ => ?_
    exact Work.gives_ofInquiry (gives_keep (gives_isFile hd) _)
  next => exact Work.gives_ofInquiry (gives_keep (gives_isFile hd) _)

end Shows

/-! ### Segments one after the other -/

theorem followSegmentOn_nil {found : List String} (h : followSegmentOn d segment [] = .ok found) :
    found = [] := by
  unfold followSegmentOn at h
  split at h
  next => exact (Except.ok.inj h).symm
  split at h
  next =>
    cases hitems : compile segment with
    | error message =>
      rw [hitems] at h
      cases h
    | ok items =>
      rw [hitems] at h
      exact (Except.ok.inj h).symm
  next => exact (Except.ok.inj h).symm

theorem followSegmentsOn_cons {rest : List String} (hne : rest ≠ []) :
    followSegmentsOn d (segment :: rest) bases = (do
      let bases := (← followSegmentOn d segment bases).filter d.isDirectory
      if bases.isEmpty then return [] else followSegmentsOn d rest bases) := by
  cases rest with
  | nil => contradiction
  | cons => rfl

theorem followSegmentsOn_of_ok {rest found : List String} (hne : rest ≠ [])
    (h : followSegmentOn d segment bases = .ok found) : followSegmentsOn d (segment :: rest) bases =
      if (found.filter d.isDirectory).isEmpty then .ok []
      else followSegmentsOn d rest (found.filter d.isDirectory) := by
  rw [followSegmentsOn_cons hne, h]
  rfl

/-- From no directory nothing is found. -/
theorem followSegmentsOn_nil {found : List String} (h : followSegmentsOn d segs [] = .ok found) :
    found = [] := by
  cases segs with
  | nil => exact (Except.ok.inj h).symm
  | cons segment rest =>
    by_cases hne : rest = []
    · subst hne
      exact followSegmentOn_nil h
    · cases hfollow : followSegmentOn d segment [] with
      | error failure =>
        rw [followSegmentsOn_cons hne, hfollow] at h
        cases h
      | ok bases =>
        rw [followSegmentsOn_of_ok hne hfollow, followSegmentOn_nil hfollow] at h
        exact (Except.ok.inj h).symm

end Coselect.Analysis
