import Coselect.Proofs.Analysis.Globbing
import Coselect.Proofs.Analysis.OnDisk
import Coselect.Proofs.Analysis.Templates

/-! Patterns without wildcards. Such a pattern names one test file, as long as no wildcards come into it
from the names of the root and of the file: what is filled in is read as part of the pattern. -/

namespace Coselect.Analysis

open Disk Inquiry Coselect.Path Text

variable {T : Terms} {d : Volume} {root path pattern : String} {suffixes : List String}

theorem expandTestPattern_normalize (root pattern path : String) :
    expandTestPattern root pattern (normalize path) = expandTestPattern root pattern path := by
  simp only [expandTestPattern, normalize_normalize]

theorem conventionalTests_normalize (root path : String) (suffixes : List String) :
    conventionalTests root (normalize path) suffixes = conventionalTests root path suffixes := by
  simp only [conventionalTests, normalize_normalize]

/-- The names of the root and of the file bring no wildcards into the path of a pattern if they have
none. -/
theorem not_hasWildcard_expandTestPattern (hpattern : hasWildcard pattern = false)
    (hroot : hasWildcard root = false) (hpath : hasWildcard path = false) :
    hasWildcard (normalize (expandTestPattern root pattern path)) = false := by
  rw [hasWildcard, List.any_eq_false] at *
  intro c hc
  rcases Template.mem_expandTestPattern hc with rfl | rfl | hc | hc | hc
  · decide
  · decide
  · exact hpattern c hc
  · exact hroot c hc
  · exact hpath c hc

/-! ### Following one path -/

theorem gives_globFiles_path (hd : T.Shows d) (hwild : hasWildcard (normalize pattern) = false) :
    (globFiles pattern).run.Gives T (.ok ([normalize pattern].filter d.isFile)) := by
  have hglob := gives_globFiles hd pattern
  rwa [globOn, hwild] at hglob

theorem patternTests_singleton (hsafe : Glob.excess? pattern.toList = none) :
    patternTests root path [pattern] = (do
      let found ← globFiles (expandTestPattern root pattern path)
      return found.filter (· ≠ path) ++ (← pure [])) := by
  rw [patternTests, hsafe]
  rfl

/-- The tests of a file at the conventional places and at one path. -/
def testsAt (d : Volume) (root path : String) (suffixes : List String) (named : String) : List String :=
  ((conventionalTests root path suffixes).filter d.isFile ++
    ([named].filter d.isFile).filter (· ≠ normalize path)).eraseDups

theorem mem_testsAt {named test : String} : test ∈ testsAt d root path suffixes named ↔
    test ∈ conventionalTests root path suffixes ∧ d.isFile test = true ∨
      test = named ∧ d.isFile test = true ∧ test ≠ normalize path := by
  simp only [testsAt, List.mem_eraseDups, List.mem_append, List.mem_filter, List.mem_singleton,
    decide_eq_true_eq, and_assoc]

theorem run_locateTests_path (signal : List Query → Signal) (asked : List Query) (c : Caches)
    (htest : isTestFile (normalize path) = false) (hsafe : Glob.excess? pattern.toList = none)
    (hwild : hasWildcard (normalize (expandTestPattern root pattern path)) = false) :
    ((locateTests root path suffixes { items := [pattern] }).run.run d signal asked c).1 =
      .ok (testsAt d root path suffixes (normalize (expandTestPattern root pattern path))) := by
  have hd : ((Surroundings.still d).under fun _ => True).Shows d := Surroundings.shows_still
  rw [testsAt, locateTests, htest, if_neg Bool.false_ne_true, conventionalTests_normalize,
    patternTests_singleton hsafe, expandTestPattern_normalize]
  -- what the conventions are and how the pattern is followed does not matter any more
  generalize conventionalTests root path suffixes = usual
  generalize expandTestPattern root pattern path = named at hwild ⊢
  have hglob := gives_globFiles_path hd hwild
  generalize globFiles named = work at hglob ⊢
  refine Gives.run (I := fun _ => True) ?_ trivial signal asked
  refine Work.gives_bind (Work.gives_ofInquiry (gives_keep (gives_isFile hd) usual)) ?_
  refine Work.gives_bind (Work.gives_bind hglob (Work.gives_bind gives_pure gives_pure))
    (Work.gives_bind gives_pure ?_)
  rw [List.append_nil]
  exact gives_pure

/-- A safe pattern without wildcards, for a file that is no test file. Without wildcards in the root and
in the file's own path the path of the pattern has none. This path is what the pattern names, filled in
all at once, if the file's name has no opening brace. And if the path has no wildcards, the tests of the
file are those at the conventional places and the file at this path, if there is one and it is not the
file itself. -/
theorem locateTests_names_one (d : Volume) (root path : String) (suffixes : List String)
    (signal : List Query → Signal) (asked : List Query) (c : Caches)
    (htest : isTestFile (normalize path) = false) (hsafe : Glob.excess? pattern.toList = none)
    (hpattern : hasWildcard pattern = false) :
    (hasWildcard root = false → hasWildcard path = false →
      hasWildcard (normalize (expandTestPattern root pattern path)) = false) ∧
    (∀ pieces, pattern = Template.pattern pieces → '\x7b' ∉ (baseName (normalize path)).toList →
      normalize (expandTestPattern root pattern path) = Template.named root path pieces) ∧
    (hasWildcard (normalize (expandTestPattern root pattern path)) = false →
      ∃ found, ((locateTests root path suffixes { items := [pattern] }).run.run d signal asked c).1 =
          .ok found ∧
        ∀ test, test ∈ found ↔ test ∈ conventionalTests root path suffixes ∧ d.isFile test = true ∨
          test = normalize (expandTestPattern root pattern path) ∧ d.isFile test = true ∧
            test ≠ normalize path) := by
  refine ⟨not_hasWildcard_expandTestPattern hpattern, ?_, fun hwild => ?_⟩
  · rintro pieces rfl hbrace
    exact Template.named_eq root path pieces hbrace
  · exact ⟨_, run_locateTests_path signal asked c htest hsafe hwild, fun test => mem_testsAt⟩

/-- The name of a file, and a marker behind it. -/
def checkTemplate : List Template.Piece :=
  .slot .name :: [.char '.' (by decide), .char 'c' (by decide), .char '.' (by decide), .char 't' (by decide),
    .char 's' (by decide)]

def checkPattern : String := "\x7bname\x7d.c.ts"

theorem pattern_checkTemplate : checkPattern = Template.pattern checkTemplate := by decide

/-- A disk with one test file. -/
def testOnly (name : String) : Volume where
  tree := .directory [("ws", .directory [(name, .file (.text "") 0)])]

/-- The tests of a file on such a disk. -/
def testsBeside (name path : String) : Except Failure (List String) :=
  ((locateTests "/ws" path [".ts"] { items := [checkPattern] }).run.run (testOnly name) quiet []
    (.ofSize 1)).1

theorem locateTests_names_one_plain : isTestFile (normalize "/ws/a.ts") = false ∧
    Glob.excess? checkPattern.toList = none ∧ hasWildcard checkPattern = false ∧
    ∃ found, testsBeside "a.c.ts" "/ws/a.ts" = .ok found ∧ "/ws/a.c.ts" ∈ found := by
  have htest : isTestFile (normalize "/ws/a.ts") = false := by decide
  have hsafe : Glob.excess? checkPattern.toList = none := by decide
  have hpattern : hasWildcard checkPattern = false := by decide
  obtain ⟨hwild, hnamed, hlocate⟩ := locateTests_names_one (testOnly "a.c.ts") "/ws" "/ws/a.ts" [".ts"]
    quiet [] (.ofSize 1) htest hsafe hpattern
  obtain ⟨found, hrun, hfound⟩ := hlocate (hwild (by decide) (by decide))
  refine ⟨htest, hsafe, hpattern, found, hrun, (hfound _).2 (.inr ⟨?_, ?_, ?_⟩)⟩
  · rw [hnamed checkTemplate pattern_checkTemplate (by decide)]
    decide
  · decide
  · decide

/-- A wildcard in the name of a file, and a name that is a slot, are read as parts of the pattern, and the
file that the pattern names is not found. -/
theorem names_are_read_as_patterns : Glob.excess? checkPattern.toList = none ∧
    hasWildcard checkPattern = false ∧
    (isTestFile "/ws/[id].ts" = false ∧ Template.named "/ws" "/ws/[id].ts" checkTemplate = "/ws/[id].c.ts" ∧
      (testOnly "[id].c.ts").isFile "/ws/[id].c.ts" = true ∧
      (testsBeside "[id].c.ts" "/ws/[id].ts").toOption = some []) ∧
    (isTestFile "/ws/\x7bext\x7d.ts" = false ∧
      Template.named "/ws" "/ws/\x7bext\x7d.ts" checkTemplate = "/ws/\x7bext\x7d.c.ts" ∧
      (testOnly "\x7bext\x7d.c.ts").isFile "/ws/\x7bext\x7d.c.ts" = true ∧
      (testsBeside "\x7bext\x7d.c.ts" "/ws/\x7bext\x7d.ts").toOption = some []) := by
  refine ⟨?_, ?_, ⟨?_, ?_, ?_, ?_⟩, ?_, ?_, ?_, ?_⟩ <;> decide +kernel

end Coselect.Analysis
