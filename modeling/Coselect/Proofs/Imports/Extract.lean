import Coselect.Proofs.Imports.Clause
import Coselect.Proofs.Imports.Scan
import Mathlib.Data.List.Nodup

/-! What the four scans of a text find before it is put in order. A statement keeps the offset and
the kind it was found with. -/

namespace Coselect.Imports

open Text

variable {code before rest source : List Char} {kind : Kind} {specifiers : List String}
  {s : Statement} {ss : List Statement} {found : Nat × Sourced} {R : Statement → Statement → Prop}

/-- The statements of what was found of a text, one form after the other. -/
def gathered (code : List Char) (statics reexports : List (Nat × Sourced))
    (requires dynamics : List (Nat × List Char)) : List Statement :=
  statics.filterMap (staticStatement? code) ++ reexports.filterMap (reexportStatement? code) ++
    requires.map (fun found => statementAt code .dynamicRequire found.1 found.2 []) ++
    (dynamics.filter fun found => !isInterpolated found.2).map
      (fun found => statementAt code .dynamicImport found.1 found.2 [])

/-- What the scans find in a text without comments. -/
def unsorted (code : List Char) : List Statement :=
  gathered code (scan staticImport? code) (scan reexport? code) (scan require? code)
    (scan dynamicImport? code)

def notAfter (a b : Statement) : Bool := decide (a.offset ≤ b.offset)

theorem notAfter_trans (a b c : Statement) (hab : notAfter a b = true) (hbc : notAfter b c = true) :
    notAfter a c = true := by
  simp only [notAfter, decide_eq_true_eq] at *
  omega

theorem notAfter_total (a b : Statement) : (notAfter a b || notAfter b a) = true := by
  simp only [notAfter, Bool.or_eq_true, decide_eq_true_eq]
  omega

/-- Statements at different offsets have one order. -/
theorem mergeSort_eq_of_perm_of_pairwise {ss ts : List Statement} (hperm : ss.Perm ts)
    (hts : ts.Pairwise fun a b => a.offset < b.offset) : ss.mergeSort notAfter = ts := by
  have hsorted := List.pairwise_mergeSort notAfter_trans notAfter_total ss
  have hts' : ts.Pairwise fun a b => notAfter a b = true :=
    hts.imp fun h => by simpa [notAfter] using Int.le_of_lt h
  refine List.Perm.eq_of_pairwise ?_ hsorted hts' ((List.mergeSort_perm _ _).trans hperm)
  -- Two statements that are not after each other stand at one offset, so they are the same.
  intro a b ha hb hab hba
  have hnodup : (ts.map Statement.offset).Nodup :=
    List.pairwise_map.2 (hts.imp fun h => Int.ne_of_lt h)
  have ha' : a ∈ ts := hperm.mem_iff.1 (List.mem_mergeSort.1 ha)
  simp only [notAfter, decide_eq_true_eq] at hab hba
  exact List.inj_on_of_nodup_map hnodup ha' hb (Int.le_antisymm hab hba)

/-- Sorting leaves the statements at one offset in their order. -/
theorem filter_mergeSort (ss : List Statement) (o : Int) :
    (ss.mergeSort notAfter).filter (·.offset == o) = ss.filter (·.offset == o) := by
  have hties : (ss.filter (·.offset == o)).Pairwise (notAfter · ·) := by
    refine List.pairwise_of_forall_mem_list fun a ha b hb => ?_
    have ha' := beq_iff_eq.1 (List.mem_filter.1 ha).2
    have hb' := beq_iff_eq.1 (List.mem_filter.1 hb).2
    simp [notAfter, ha', hb']
  have hsub := List.sublist_mergeSort notAfter_trans notAfter_total hties List.filter_sublist
  have hfilter := hsub.filter (·.offset == o)
  rw [List.filter_filter] at hfilter
  simp only [Bool.and_self] at hfilter
  refine (hfilter.eq_of_length ?_).symm
  exact ((List.mergeSort_perm ss notAfter).symm.filter _).length_eq

theorem pairwise_mergeSort_notAfter (h : ss.Pairwise R) :
    (ss.mergeSort notAfter).Pairwise fun a b =>
      a.offset < b.offset ∨ a.offset = b.offset ∧ R a b := by
  rw [List.pairwise_iff_forall_sublist]
  intro a b hab
  have hsorted := List.pairwise_mergeSort notAfter_trans notAfter_total ss
  have hle := List.pairwise_iff_forall_sublist.1 hsorted hab
  simp only [notAfter, decide_eq_true_eq] at hle
  rcases Int.lt_or_eq_of_le hle with hlt | heq
  · exact .inl hlt
  · -- A pair at one offset stays a pair among the statements at it, which the sort does not reorder.
    have hties := hab.filter (·.offset == a.offset)
    rw [filter_mergeSort] at hties
    simp only [List.filter_cons, heq, beq_self_eq_true, if_true, List.filter_nil] at hties
    exact .inr ⟨heq, List.pairwise_iff_forall_sublist.1 h (hties.trans List.filter_sublist)⟩

theorem extractChars_eq (cs : List Char) :
    extractChars cs = (unsorted (blankComments cs)).mergeSort notAfter := rfl

/-- What is found in order stays so. -/
theorem extract_of_pairwise {text : String}
    (h : (unsorted (blankComments text.toList)).Pairwise fun a b => notAfter a b = true) :
    extract text = unsorted (blankComments text.toList) :=
  List.mergeSort_of_pairwise h

theorem statementAt_length :
    statementAt (before ++ rest) kind before.length source specifiers =
      statementBehind before kind source specifiers := by
  simp [statementAt, statementBehind, lineOfPosition]

theorem of_staticStatement? (h : staticStatement? code found = some s) :
    s.offset = found.1 ∧ s.kind = .staticImport := by
  obtain ⟨names, _, rfl⟩ := Option.map_eq_some_iff.1 h
  exact ⟨rfl, rfl⟩

theorem of_reexportStatement? (h : reexportStatement? code found = some s) :
    s.offset = found.1 ∧ s.kind = .staticImport := by
  unfold reexportStatement? at h
  split at h
  next =>
    cases h
    exact ⟨rfl, rfl⟩
  next => exact of_staticStatement? h

theorem staticStatement?_clause (before rest : List Char) (clause : Clause) (source : List Char) :
    staticStatement? (before ++ rest) (before.length, clause.text, source) =
      some (statementBehind before .staticImport source clause.specifiers) := by
  simp [staticStatement?, clause.clauseNames?_text, statementAt_length]

theorem mem_unsorted :
    s ∈ unsorted code ↔
      (∃ found ∈ scan staticImport? code, staticStatement? code found = some s) ∨
      (∃ found ∈ scan reexport? code, reexportStatement? code found = some s) ∨
      (∃ found ∈ scan require? code, statementAt code .dynamicRequire found.1 found.2 [] = s) ∨
      (∃ found ∈ scan dynamicImport? code, isInterpolated found.2 = false ∧
        statementAt code .dynamicImport found.1 found.2 [] = s) := by
  simp only [unsorted, gathered, List.mem_append, List.mem_filterMap, List.mem_map, List.mem_filter,
    Bool.not_eq_true', or_assoc, and_assoc]

/-- Offsets are counted from the start of the text. -/
theorem offset_nonneg_of_mem_unsorted (h : s ∈ unsorted code) : 0 ≤ s.offset := by
  rcases mem_unsorted.1 h with ⟨found, -, hs⟩ | ⟨found, -, hs⟩ | ⟨found, -, rfl⟩ | ⟨found, -, -, rfl⟩
  · rw [(of_staticStatement? hs).1]
    exact Int.natCast_nonneg _
  · rw [(of_reexportStatement? hs).1]
    exact Int.natCast_nonneg _
  · exact Int.natCast_nonneg _
  · exact Int.natCast_nonneg _

/-- The statement as many characters and lines further on. -/
def Statement.moved (s : Statement) (characters lines : Nat) : Statement :=
  { s with
    line := s.line + lines
    offset := s.offset + characters
    one_le_line := Nat.le_add_right_of_le s.one_le_line }

variable {n : Nat}

/-- Behind a text everything stands as much further on as the text is long. -/
theorem statementAt_append :
    statementAt (before ++ rest) kind (before.length + n) source specifiers =
      (statementAt rest kind n source specifiers).moved before.length (before.count '\n') := by
  have hline : lineOfPosition (before ++ rest) (before.length + n) =
      lineOfPosition rest n + before.count '\n' := by
    rw [lineOfPosition, lineOfPosition, List.take_length_add_append, List.count_append]
    omega
  have hoffset : ((before.length + n : Nat) : Int) = (n : Int) + before.length := by omega
  simp [statementAt, Statement.moved, hline, hoffset]

theorem staticStatement?_append {x : Sourced} :
    staticStatement? (before ++ rest) (before.length + n, x) =
      (staticStatement? rest (n, x)).map (·.moved before.length (before.count '\n')) := by
  simp only [staticStatement?, Option.map_map]
  congr 1
  funext names
  exact statementAt_append

theorem reexportStatement?_append {x : Sourced} :
    reexportStatement? (before ++ rest) (before.length + n, x) =
      (reexportStatement? rest (n, x)).map (·.moved before.length (before.count '\n')) := by
  unfold reexportStatement?
  split
  next => exact congrArg some statementAt_append
  next => exact staticStatement?_append

end Coselect.Imports
