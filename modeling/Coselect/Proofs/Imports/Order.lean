import Coselect.Proofs.Imports.Comments
import Coselect.Proofs.Imports.Extract

/-! Where the statements of a text stand and in which order. They are found in the blanked text, in which
every keyword and every line feed stands as in the text itself. Of two at one offset the one comes first
whose form is looked for first. -/

namespace Coselect.Imports

open Text

/-- Stands in a text where one of some words does, on the line of this place, and names a source. -/
structure StandsAt (text : List Char) (words : List String) (s : Statement) : Prop where
  place : ∃ before rest, text = before ++ rest ∧ s.offset = before.length ∧
    s.line = 1 + before.count '\n' ∧ ∃ word ∈ words, word.toList <+: rest
  source : IsSource s.source.toList

variable {α : Type} {read : List Char → Option (Found α)} {text source cs : List Char}
  {words words' specifiers : List String} {kind : Kind} {n : Nat} {x : α} {s : Statement}
  {ss ts : List Statement} {found : Nat × Sourced}

theorem StandsAt.mono (h : StandsAt text words s) (hsub : words ⊆ words') : StandsAt text words' s := by
  obtain ⟨⟨before, rest, htext, hoffset, hline, word, hword, hrest⟩, hsource⟩ := h
  exact ⟨⟨before, rest, htext, hoffset, hline, word, hsub hword, hrest⟩, hsource⟩

/-- What is found in the blanked text stands in the text itself. -/
theorem standsAt_of_mem_scan (hread : BeginsWith words read)
    (hwords : ∀ word ∈ words, ' ' ∉ word.toList) (hfound : (n, x) ∈ scan read (blankComments text))
    (hsource : IsSource source) :
    StandsAt text words (statementAt (blankComments text) kind n source specifiers) := by
  obtain ⟨before, rest, f, hcode, hn, hf, -⟩ := exists_read_of_mem_scanFrom hfound
  obtain rfl : n = before.length := by rw [hn, Nat.zero_add]
  obtain ⟨word, hword, hrest⟩ := hread rest f hf
  have hkeeps : List.Forall₂ Keeps text (before ++ rest) := hcode ▸ forall₂_blankFrom .code text
  have hbefore := List.forall₂_take_append _ _ _ hkeeps
  have hbehind := List.forall₂_drop_append _ _ _ hkeeps
  refine ⟨⟨_, _, (List.take_append_drop before.length text).symm, ?_, ?_, word, hword,
    prefix_of_keeps hbehind (hwords word hword) hrest⟩, by simpa [statementAt] using hsource⟩
  · rw [hbefore.length_eq]
    rfl
  · rw [← count_of_keeps hbefore, hcode]
    simp [statementAt, lineOfPosition, Nat.add_comm]

/-- The place of a statement among those at one offset: a static import, a re-export, a required module
and a dynamic import. -/
def rank (text : List Char) (s : Statement) : Nat :=
  match s.kind with
  | .staticImport => if "export".toList <+: text.drop s.offset.toNat then 1 else 0
  | .dynamicRequire => 2
  | .dynamicImport => 3

theorem StandsAt.prefix_drop {word : String} (h : StandsAt text [word] s) :
    word.toList <+: text.drop s.offset.toNat := by
  obtain ⟨⟨before, rest, rfl, hoffset, -, word', hword, hrest⟩, -⟩ := h
  rw [List.mem_singleton.1 hword] at hrest
  simpa [hoffset] using hrest

theorem rank_of_import (h : StandsAt text ["import"] s) (hkind : s.kind = .staticImport) :
    rank text s = 0 := by
  have hother : ¬ "export".toList <+: text.drop s.offset.toNat := fun hexport =>
    absurd (List.prefix_of_prefix_length_le h.prefix_drop hexport (by decide)) (by decide)
  simp only [rank, hkind, if_neg hother]

theorem rank_of_export (h : StandsAt text ["export"] s) (hkind : s.kind = .staticImport) :
    rank text s = 1 := by
  simp only [rank, hkind, if_pos h.prefix_drop]

theorem standsAt_of_static (hmem : found ∈ scan staticImport? (blankComments text))
    (h : staticStatement? (blankComments text) found = some s) : StandsAt text ["import"] s := by
  obtain ⟨names, -, rfl⟩ := Option.map_eq_some_iff.1 h
  have hsource : NamesSource found.2 := of_mem_scan gives_staticImport? hmem
  exact standsAt_of_mem_scan beginsWith_behind (by decide) hmem hsource

theorem standsAt_of_reexport (hmem : found ∈ scan reexport? (blankComments text))
    (h : reexportStatement? (blankComments text) found = some s) : StandsAt text ["export"] s := by
  have hsource : NamesSource found.2 := of_mem_scan gives_reexport? hmem
  have hstands : ∀ names, StandsAt text ["export"]
      (statementAt (blankComments text) .staticImport found.1 found.2.2 names) :=
    fun names => standsAt_of_mem_scan beginsWith_behind (by decide) hmem hsource
  unfold reexportStatement? at h
  split at h
  next =>
    cases h
    exact hstands ["*"]
  next =>
    obtain ⟨names, -, rfl⟩ := Option.map_eq_some_iff.1 h
    exact hstands names

theorem standsAt_of_require {found : Nat × List Char}
    (hmem : found ∈ scan require? (blankComments text)) :
    StandsAt text ["const", "let", "var", "import"]
      (statementAt (blankComments text) .dynamicRequire found.1 found.2 []) :=
  standsAt_of_mem_scan beginsWith_require? (by decide) hmem (of_mem_scan gives_require? hmem)

theorem standsAt_of_dynamic {found : Nat × List Char}
    (hmem : found ∈ scan dynamicImport? (blankComments text)) :
    StandsAt text ["import"]
      (statementAt (blankComments text) .dynamicImport found.1 found.2 []) :=
  standsAt_of_mem_scan beginsWith_behind (by decide) hmem (of_mem_scan gives_dynamicImport? hmem)

theorem standsAt_of_mem_unsorted (h : s ∈ unsorted (blankComments text)) :
    StandsAt text ["import", "export", "const", "let", "var"] s := by
  rcases mem_unsorted.1 h with
    ⟨found, hmem, hs⟩ | ⟨found, hmem, hs⟩ | ⟨found, hmem, rfl⟩ | ⟨found, hmem, -, rfl⟩
  · exact (standsAt_of_static hmem hs).mono (by simp)
  · exact (standsAt_of_reexport hmem hs).mono (by simp)
  · exact (standsAt_of_require hmem).mono (by simp)
  · exact (standsAt_of_dynamic hmem).mono (by simp)

/-- Comes first if both stand at one offset. -/
def Outranks (text : List Char) (a b : Statement) : Prop :=
  a.offset = b.offset → rank text a < rank text b

theorem Outranks.of_lt {a b : Statement} (h : a.offset < b.offset) : Outranks text a b :=
  fun heq => absurd heq (Int.ne_of_lt h)

/-- A scan finds at most one statement at an offset. -/
theorem pairwise_outranks_filterMap {f : Nat × α → Option Statement}
    (hf : ∀ found s, f found = some s → s.offset = found.1) :
    ((scan read cs).filterMap f).Pairwise (Outranks text) := by
  rw [List.pairwise_filterMap]
  refine pairwise_scanFrom.1.imp fun hlt s hs t ht => .of_lt ?_
  rw [hf _ s hs, hf _ t ht]
  exact Int.ofNat_lt.2 hlt

theorem pairwise_outranks_map {found : List (Nat × List Char)}
    (h : found.Pairwise fun a b => a.1 < b.1) :
    (found.map fun f => statementAt cs kind f.1 f.2 []).Pairwise (Outranks text) :=
  List.pairwise_map.2 (h.imp fun hlt => .of_lt (Int.ofNat_lt.2 hlt))

theorem rank_of_mem_statics
    (h : s ∈ (scan staticImport? (blankComments text)).filterMap (staticStatement? (blankComments text))) :
    rank text s = 0 := by
  obtain ⟨found, hmem, hs⟩ := List.mem_filterMap.1 h
  exact rank_of_import (standsAt_of_static hmem hs) (of_staticStatement? hs).2

theorem rank_of_mem_reexports
    (h : s ∈ (scan reexport? (blankComments text)).filterMap (reexportStatement? (blankComments text))) :
    rank text s = 1 := by
  obtain ⟨found, hmem, hs⟩ := List.mem_filterMap.1 h
  exact rank_of_export (standsAt_of_reexport hmem hs) (of_reexportStatement? hs).2

theorem kind_of_mem_map {found : List (Nat × List Char)}
    (h : s ∈ found.map fun f => statementAt cs kind f.1 f.2 []) : s.kind = kind := by
  obtain ⟨f, -, rfl⟩ := List.mem_map.1 h
  rfl

/-- Statements of the first ranks, in the order of their ranks where they share an offset. -/
structure Ranked (text : List Char) (r : Nat) (ss : List Statement) : Prop where
  pairwise : ss.Pairwise (Outranks text)
  lt : ∀ s ∈ ss, rank text s < r

theorem Ranked.append {r : Nat} (h : Ranked text r ss) (hts : ts.Pairwise (Outranks text))
    (ht : ∀ t ∈ ts, rank text t = r) : Ranked text (r + 1) (ss ++ ts) where
  pairwise := by
    refine List.pairwise_append.2 ⟨h.pairwise, hts, fun s hs t hmem _ => ?_⟩
    rw [ht t hmem]
    exact h.lt s hs
  lt := by
    refine List.forall_mem_append.2 ⟨fun s hs => Nat.lt_succ_of_lt (h.lt s hs), fun t hmem => ?_⟩
    rw [ht t hmem]
    exact Nat.lt_succ_self r

theorem pairwise_unsorted (text : List Char) :
    (unsorted (blankComments text)).Pairwise (Outranks text) := by
  have hstatics : Ranked text 1 ((scan staticImport? (blankComments text)).filterMap
      (staticStatement? (blankComments text))) :=
    ⟨pairwise_outranks_filterMap fun _ _ hs => (of_staticStatement? hs).1,
      fun s hs => by simp [rank_of_mem_statics hs]⟩
  unfold unsorted gathered
  refine (((hstatics.append ?_ ?_).append ?_ ?_).append ?_ ?_).pairwise
  · exact pairwise_outranks_filterMap fun _ _ hs => (of_reexportStatement? hs).1
  · exact fun s hs => rank_of_mem_reexports hs
  · exact pairwise_outranks_map pairwise_scanFrom.1
  · exact fun s hs => by simp only [rank, kind_of_mem_map hs]
  · exact pairwise_outranks_map (pairwise_scanFrom.1.filter _)
  · exact fun s hs => by simp only [rank, kind_of_mem_map hs]

/-- Blanking changes no length and no line feed, so a statement stands in the text where it is found: a
keyword begins there, the line is that of the place, and the source is not empty, on one line and without
quotes. The statements come in the order of their offsets, and at one offset a static import before a
re-export, a required module and a dynamic import. -/
theorem statements_stand_in_order (text : String) :
    List.Forall₂ Keeps text.toList (stripComments text).toList ∧
    (∀ s ∈ extract text, StandsAt text.toList ["import", "export", "const", "let", "var"] s) ∧
    (extract text).Pairwise fun a b =>
      a.offset < b.offset ∨ a.offset = b.offset ∧ rank text.toList a < rank text.toList b := by
  have hextract : extract text = (unsorted (blankComments text.toList)).mergeSort notAfter :=
    extractChars_eq _
  refine ⟨?_, fun s hs => ?_, ?_⟩
  · rw [stripComments, String.toList_ofList]
    exact forall₂_blankFrom .code _
  · rw [hextract, List.mem_mergeSort] at hs
    exact standsAt_of_mem_unsorted hs
  · rw [hextract]
    exact (pairwise_mergeSort_notAfter (pairwise_unsorted _)).imp fun h =>
      h.imp_right fun ⟨heq, houtranks⟩ => ⟨heq, houtranks heq⟩

/-- An import whose end is taken for a binding as well. -/
theorem statements_stand_in_order_two_at_once :
    ∃ a b, extract "import a from 'x' = require('y')" = [a, b] ∧ a.kind = .staticImport ∧
      b.kind = .dynamicRequire ∧ b ∈ extract "import a from 'x' = require('y')" ∧
      StandsAt "import a from 'x' = require('y')".toList
        ["import", "export", "const", "let", "var"] b ∧
      (a.offset < b.offset ∨ a.offset = b.offset ∧
        rank "import a from 'x' = require('y')".toList a <
          rank "import a from 'x' = require('y')".toList b) := by
  let a := statementBehind [] .staticImport ['x'] ["a"]
  let b := statementBehind [] .dynamicRequire ['y'] []
  have hunsorted : unsorted (blankComments "import a from 'x' = require('y')".toList) = [a, b] := rfl
  have hextract : extract "import a from 'x' = require('y')" = [a, b] := by
    rw [← hunsorted]
    exact extract_of_pairwise (by rw [hunsorted]; simp [notAfter, a, b, statementBehind])
  obtain ⟨-, hstands, hordered⟩ := statements_stand_in_order "import a from 'x' = require('y')"
  have hb : b ∈ extract "import a from 'x' = require('y')" := by simp [hextract]
  rw [hextract] at hordered
  exact ⟨a, b, hextract, rfl, rfl, hb, hstands b hb, by simpa using hordered⟩

end Coselect.Imports
